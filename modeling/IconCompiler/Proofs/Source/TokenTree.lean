import IconCompiler.Proofs.Source.Token

/-! # Token trees

    Tokens between a bracket and its partner form a group.  Building the trees
    of a token sequence fails unless every bracket is closed by its partner in
    nesting order, so a text that has token trees is balanced. -/

namespace IconCompiler.Source

/-- A token, or what stands between a bracket and its partner. -/
inductive TokenTree where
  | leaf (atom : Atom)
  | group (bracket : Bracket) (body : List TokenTree)

mutual

/-- The tokens of a tree. -/
def TokenTree.tokens : TokenTree → List Token
  | .leaf atom => [.atom atom]
  | .group bracket body =>
    .opening bracket :: (TokenTree.allTokens body ++ [.closing bracket])

/-- The tokens of trees, one after the other. -/
def TokenTree.allTokens : List TokenTree → List Token
  | [] => []
  | tree :: rest => TokenTree.tokens tree ++ TokenTree.allTokens rest

end

/-- Trees under construction: those read since the last open bracket, the last
    one first, and for each open bracket, the innermost first, what precedes it. -/
structure Grove where
  trees : List TokenTree
  around : List (Bracket × List TokenTree)

namespace Grove

/-- Add one token.  A closing bracket has to be the partner of the innermost
    open one. -/
def add (grove : Grove) : Token → Option Grove
  | .atom atom => some { grove with trees := .leaf atom :: grove.trees }
  | .opening bracket => some ⟨[], (bracket, grove.trees) :: grove.around⟩
  | .closing bracket =>
    match grove.around with
    | [] => none
    | (opened, before) :: around =>
      if opened = bracket then some ⟨.group bracket grove.trees.reverse :: before, around⟩
      else none

/-- Add tokens from left to right. -/
def addAll (grove : Grove) (tokens : List Token) : Option Grove :=
  tokens.foldlM add grove

end Grove

/-- The token trees of a token sequence in which every bracket has its partner. -/
def trees? (tokens : List Token) : Option (List TokenTree) :=
  match Grove.addAll ⟨[], []⟩ tokens with
  | some ⟨trees, []⟩ => some trees.reverse
  | _ => none

/-- Whether every bracket that is opened, those of `opened` included, is closed
    by its partner in nesting order, and nothing else is closed. -/
def closesInOrder : List Bracket → List Token → Bool
  | opened, [] => opened.isEmpty
  | opened, .atom _ :: rest => closesInOrder opened rest
  | opened, .opening bracket :: rest => closesInOrder (bracket :: opened) rest
  | innermost :: opened, .closing bracket :: rest =>
    innermost = bracket && closesInOrder opened rest
  | [], .closing _ :: _ => false

/-! ## Trees of the tokens of trees -/

theorem addAll_append (grove : Grove) (first second : List Token) :
    grove.addAll (first ++ second) = (grove.addAll first).bind (·.addAll second) :=
  List.foldlM_append

mutual

theorem addAll_tokens (tree : TokenTree) (grove : Grove) :
    grove.addAll tree.tokens = some { grove with trees := tree :: grove.trees } := by
  match tree with
  | .leaf atom => rfl
  | .group bracket body =>
      -- the bracket puts what precedes it aside, and its partner takes that up again
      have hinside := addAll_allTokens body ⟨[], (bracket, grove.trees) :: grove.around⟩
      show Grove.addAll ⟨[], (bracket, grove.trees) :: grove.around⟩
          (TokenTree.allTokens body ++ [.closing bracket]) = _
      rw [addAll_append, hinside]
      simp [Grove.addAll, Grove.add]

theorem addAll_allTokens (trees : List TokenTree) (grove : Grove) :
    grove.addAll (TokenTree.allTokens trees)
      = some { grove with trees := trees.reverse ++ grove.trees } := by
  match trees with
  | [] => rfl
  | tree :: rest =>
      rw [TokenTree.allTokens, addAll_append, addAll_tokens tree grove, Option.bind_some,
        addAll_allTokens rest]
      simp

end

theorem trees?_allTokens (trees : List TokenTree) :
    trees? (TokenTree.allTokens trees) = some trees := by
  rw [trees?, addAll_allTokens]
  simp

/-! ## Balance -/

mutual

theorem closesInOrder_tokens (tree : TokenTree) (opened : List Bracket) (rest : List Token) :
    closesInOrder opened (tree.tokens ++ rest) = closesInOrder opened rest := by
  match tree with
  | .leaf atom => rw [TokenTree.tokens, List.singleton_append, closesInOrder]
  | .group bracket body =>
      rw [TokenTree.tokens, List.cons_append, closesInOrder, List.append_assoc,
        closesInOrder_allTokens body, List.singleton_append, closesInOrder]
      simp

theorem closesInOrder_allTokens (trees : List TokenTree) (opened : List Bracket)
    (rest : List Token) :
    closesInOrder opened (TokenTree.allTokens trees ++ rest) = closesInOrder opened rest := by
  match trees with
  | [] => rfl
  | tree :: more =>
      rw [TokenTree.allTokens, List.append_assoc, closesInOrder_tokens tree,
        closesInOrder_allTokens more]

end

@[simp] theorem allTokens_nil : TokenTree.allTokens [] = [] := by
  rw [TokenTree.allTokens]

@[simp] theorem allTokens_leaf (atom : Atom) (rest : List TokenTree) :
    TokenTree.allTokens (.leaf atom :: rest) = .atom atom :: TokenTree.allTokens rest := by
  rw [TokenTree.allTokens, TokenTree.tokens, List.singleton_append]

@[simp] theorem allTokens_group (bracket : Bracket) (body rest : List TokenTree) :
    TokenTree.allTokens (.group bracket body :: rest)
      = .opening bracket
        :: (TokenTree.allTokens body ++ .closing bracket :: TokenTree.allTokens rest) := by
  rw [TokenTree.allTokens, TokenTree.tokens]
  simp

theorem allTokens_leaves (atoms : List Atom) :
    TokenTree.allTokens (atoms.map TokenTree.leaf) = atoms.map Token.atom := by
  induction atoms with
  | nil => rw [List.map_nil, allTokens_nil]; rfl
  | cons atom rest ih => rw [List.map_cons, allTokens_leaf, ih, List.map_cons]

theorem allTokens_append (first second : List TokenTree) :
    TokenTree.allTokens (first ++ second)
      = TokenTree.allTokens first ++ TokenTree.allTokens second := by
  induction first with
  | nil => rw [allTokens_nil]; rfl
  | cons tree rest ih =>
      rw [List.cons_append, TokenTree.allTokens, TokenTree.allTokens, ih, List.append_assoc]

end IconCompiler.Source
