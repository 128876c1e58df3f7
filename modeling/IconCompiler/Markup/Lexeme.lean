import IconCompiler.Markup.Error
import IconCompiler.Text.Split

/-! # Lexemes of markup

    A document is cut into stretches of text and constructs that begin with an
    angle bracket.  Each construct knows its own end: a tag ends at the first
    `>` outside quotes, a document type declaration at the `>` that balances
    its brackets, all others at a fixed terminator. -/

namespace IconCompiler.Markup

open Text

/-- The number of bytes of a text. -/
def byteLength (cs : List Char) : Nat :=
  cs.foldr (fun c length => c.utf8Size + length) 0

@[simp] theorem byteLength_nil : byteLength [] = 0 := rfl

@[simp] theorem byteLength_cons (c : Char) (cs : List Char) :
    byteLength (c :: cs) = c.utf8Size + byteLength cs := rfl

@[simp] theorem byteLength_append (before behind : List Char) :
    byteLength (before ++ behind) = byteLength before + byteLength behind := by
  induction before with
  | nil => simp
  | cons c before ih => simp [ih, Nat.add_assoc]

/-- A stretch of a document. -/
inductive Lexeme where
  /-- Text without angle brackets that open something. -/
  | text (raw : List Char)
  /-- `<`, the content, `>`. -/
  | tag (content : List Char)
  /-- `<!-`, the content, `-->`. -/
  | comment (content : List Char)
  /-- `<![`, the content, `]]>`. -/
  | cdata (content : List Char)
  /-- `<!`, the content, `>`. -/
  | doctype (content : List Char)
  /-- `<`, the content, `?>`. -/
  | instruction (content : List Char)
  deriving DecidableEq

/-- The characters that a lexeme stands for in a document. -/
def Lexeme.source : Lexeme → List Char
  | text raw => raw
  | tag content => '<' :: (content ++ ['>'])
  | comment content => ['<', '!', '-'] ++ content ++ ['-', '-', '>']
  | cdata content => ['<', '!', '['] ++ content ++ [']', ']', '>']
  | doctype content => ['<', '!'] ++ content ++ ['>']
  | instruction content => '<' :: (content ++ ['?', '>'])

/-- Why no lexeme can be cut off. -/
inductive Break where
  | unclosed (construct : Construct)
  | unknownMarkup
  deriving DecidableEq

/-- What precedes the first occurrence of `stop`, and what follows it. -/
def cutAt? (stop : List Char) : List Char → Option (List Char × List Char)
  | [] => none
  | c :: rest =>
    if stop.isPrefixOf (c :: rest) then some ([], (c :: rest).drop stop.length)
    else (cutAt? stop rest).map fun (before, after) => (c :: before, after)

/-- What precedes the first `>` outside quotes, and what follows it; `quote` is
    the quote that is open. -/
def cutTag? : Option Char → List Char → Option (List Char × List Char)
  | _, [] => none
  | none, c :: rest =>
    if c = '>' then some ([], rest)
    else
      (cutTag? (if c = '"' ∨ c = '\'' then some c else none) rest).map
        fun (before, after) => (c :: before, after)
  | some quote, c :: rest =>
    (cutTag? (if c = quote then none else some quote) rest).map
      fun (before, after) => (c :: before, after)

/-- What precedes the `>` that balances `depth` open brackets and the outer one,
    and what follows it. -/
def cutBalanced? : Nat → List Char → Option (List Char × List Char)
  | _, [] => none
  | depth, c :: rest =>
    if c = '>' then
      match depth with
      | 0 => some ([], rest)
      | depth + 1 => (cutBalanced? depth rest).map fun (before, after) => (c :: before, after)
    else
      (cutBalanced? (if c = '<' then depth + 1 else depth) rest).map
        fun (before, after) => (c :: before, after)

/-- The lexeme made of what was cut off, or the complaint that it has no end. -/
def closed (construct : Construct) (make : List Char → Lexeme) :
    Option (List Char × List Char) → Except Break (Lexeme × List Char)
  | some (content, rest) => .ok (make content, rest)
  | none => .error (.unclosed construct)

/-- Cut off the construct that begins with an angle bracket in front of `cs`. -/
def scanMarkup (cs : List Char) : Except Break (Lexeme × List Char) :=
  match cs with
  | '?' :: _ => closed .instruction .instruction (cutAt? ['?', '>'] cs)
  | '!' :: '[' :: rest => closed .cdata .cdata (cutAt? [']', ']', '>'] rest)
  | '!' :: '-' :: [] => .error (.unclosed .comment)
  | '!' :: '-' :: c :: rest =>
    closed .comment (fun content => .comment (c :: content)) (cutAt? ['-', '-', '>'] rest)
  | '!' :: c :: rest =>
    if c = 'D' ∨ c = 'd' then closed .doctype .doctype (cutBalanced? 0 (c :: rest))
    else .error .unknownMarkup
  | '!' :: [] => .error .unknownMarkup
  | _ => closed .tag .tag (cutTag? none cs)

theorem length_of_cutAt? {stop cs before after : List Char}
    (h : cutAt? stop cs = some (before, after)) : after.length ≤ cs.length := by
  induction cs generalizing before with
  | nil => simp [cutAt?] at h
  | cons c rest ih =>
    rw [cutAt?] at h
    split at h
    · cases h
      simp
    · cases hr : cutAt? stop rest with
      | none => simp [hr] at h
      | some p =>
        simp only [hr, Option.map_some, Option.some.injEq, Prod.mk.injEq] at h
        have := @ih p.1 (by rw [hr, ← h.2])
        simp only [List.length_cons]
        omega

theorem length_of_cutTag? {quote : Option Char} {cs before after : List Char}
    (h : cutTag? quote cs = some (before, after)) : after.length ≤ cs.length := by
  induction cs generalizing quote before with
  | nil => simp [cutTag?] at h
  | cons c rest ih =>
    have step : ∀ q, (cutTag? q rest).map (fun (b, a) => (c :: b, a)) = some (before, after) →
        after.length ≤ rest.length := by
      intro q hq
      cases hr : cutTag? q rest with
      | none => simp [hr] at hq
      | some p =>
        simp only [hr, Option.map_some, Option.some.injEq, Prod.mk.injEq] at hq
        exact @ih q p.1 (by rw [hr, ← hq.2])
    simp only [List.length_cons]
    cases quote with
    | none =>
      rw [cutTag?] at h
      split at h
      · cases h
        omega
      · have := step _ h
        omega
    | some q =>
      rw [cutTag?] at h
      have := step _ h
      omega

theorem length_of_cutBalanced? {depth : Nat} {cs before after : List Char}
    (h : cutBalanced? depth cs = some (before, after)) : after.length ≤ cs.length := by
  induction cs generalizing depth before with
  | nil => simp [cutBalanced?] at h
  | cons c rest ih =>
    have step : ∀ d, (cutBalanced? d rest).map (fun (b, a) => (c :: b, a)) = some (before, after) →
        after.length ≤ rest.length := by
      intro d hd
      cases hr : cutBalanced? d rest with
      | none => simp [hr] at hd
      | some p =>
        simp only [hr, Option.map_some, Option.some.injEq, Prod.mk.injEq] at hd
        exact @ih d p.1 (by rw [hr, ← hd.2])
    simp only [List.length_cons]
    unfold cutBalanced? at h
    split at h
    · split at h
      · cases h
        omega
      · have := step _ h
        omega
    · have := step _ h
      omega

theorem length_of_closed {construct : Construct} {make : List Char → Lexeme}
    {cut : Option (List Char × List Char)} {lexeme : Lexeme} {rest : List Char} {n : Nat}
    (hcut : ∀ before after, cut = some (before, after) → after.length ≤ n)
    (h : closed construct make cut = .ok (lexeme, rest)) : rest.length ≤ n := by
  cases cut with
  | none => simp [closed] at h
  | some p =>
    simp only [closed, Except.ok.injEq, Prod.mk.injEq] at h
    exact hcut p.1 rest (by rw [← h.2])

/-- What follows a construct is no longer than what follows its bracket. -/
theorem length_of_scanMarkup {cs rest : List Char} {lexeme : Lexeme}
    (h : scanMarkup cs = .ok (lexeme, rest)) : rest.length ≤ cs.length := by
  rw [scanMarkup.eq_def] at h
  split at h
  · exact length_of_closed (fun _ _ => length_of_cutAt?) h
  · have := length_of_closed (fun _ _ => length_of_cutAt?) h
    simp only [List.length_cons]
    omega
  · simp at h
  · have := length_of_closed (fun _ _ => length_of_cutAt?) h
    simp only [List.length_cons]
    omega
  · split at h
    · have := length_of_closed (fun _ _ => length_of_cutBalanced?) h
      simp only [List.length_cons] at this ⊢
      omega
    · simp at h
  · simp at h
  · exact length_of_closed (fun _ _ => length_of_cutTag?) h

/-- Cut a document into lexemes, up to its end or to the place from which no
    further lexeme can be cut off. -/
def lexemes (cs : List Char) : List Lexeme × Option Break :=
  match cs with
  | [] => ([], none)
  | c :: rest =>
    if c = '<' then
      match h : scanMarkup rest with
      | .error b => ([], some b)
      | .ok (lexeme, after) =>
        have := length_of_scanMarkup h
        let (more, ending) := lexemes after
        (lexeme :: more, ending)
    else
      have := length_dropWhile_le (· != '<') rest
      let (more, ending) := lexemes (rest.dropWhile (· != '<'))
      (.text (c :: rest.takeWhile (· != '<')) :: more, ending)
termination_by cs.length

end IconCompiler.Markup
