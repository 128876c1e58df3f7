import IconCompiler.ItemName
import IconCompiler.Icon
import IconCompiler.Proofs.Source.TokenTree

/-! # Declarations of a source file

    A reader for source files that hold constants in a module inside other
    modules.  It takes token trees apart and gives the names of the modules and,
    for each constant, its name and the texts of its fields.  Read from the
    trees of icons, the constants are those icons (`declarations?_flatMap`). -/

namespace IconCompiler.Source

/-- A constant as it is declared: its name, and the fields of its value. -/
structure Declaration where
  constant : String
  name : String
  attributes : List (String × String)
  inner : String
  deriving DecidableEq

/-- A source file: the modules around the innermost one, the outermost first,
    the innermost one, and the constants in it. -/
structure SourceFile where
  segments : List String
  container : String
  declarations : List Declaration
  deriving DecidableEq

/-- Pairs of literals in parentheses, each followed by a comma. -/
def pairs? : List TokenTree → Option (List (String × String))
  | [] => some []
  | .group .round [.leaf (.literal key), .leaf middle, .leaf (.literal value)]
      :: .leaf last :: rest =>
    if middle = .mark ',' ∧ last = .mark ',' then
      (pairs? rest).map fun more => (key, value) :: more
    else none
  | _ => none

/-- The atoms of the fields of a constant, apart from the texts of the fields. -/
def fieldAtoms : List Atom := [
  .word "name", .mark ':', .mark ',', .word "attributes", .mark ':', .mark '&', .mark ',',
  .word "inner", .mark ':', .mark ',']

/-- The declaration of a constant of the given name from its fields. -/
def declaration? (constant : String) : List TokenTree → Option Declaration
  | [.leaf a₁, .leaf a₂, .leaf (.literal name), .leaf a₃, .leaf a₄, .leaf a₅, .leaf a₆,
      .group .square pairs, .leaf a₇, .leaf a₈, .leaf a₉, .leaf (.literal inner), .leaf a₁₀] =>
    if [a₁, a₂, a₃, a₄, a₅, a₆, a₇, a₈, a₉, a₁₀] = fieldAtoms then
      (pairs? pairs).map fun attributes => ⟨constant, name, attributes, inner⟩
    else none
  | _ => none

mutual

/-- Constants, one after the other. -/
def declarations? : List TokenTree → Option (List Declaration)
  | [] => some []
  | .leaf a₁ :: .leaf a₂ :: .leaf (.word constant) :: rest =>
    if a₁ = .word "pub" ∧ a₂ = .word "const" then value? constant rest else none
  | _ => none

/-- The value of a constant, which begins at the first brace behind its type,
    and the constants that follow it. -/
def value? (constant : String) : List TokenTree → Option (List Declaration)
  | .group .curly fields :: .leaf last :: rest =>
    if last = .mark ';' then do
      let declared ← declaration? constant fields
      let more ← declarations? rest
      return declared :: more
    else none
  | .leaf _ :: rest => value? constant rest
  | _ => none

end

/-- What follows the first semicolon. -/
def behindSemicolon : List TokenTree → List TokenTree
  | [] => []
  | .leaf atom :: rest => if atom = .mark ';' then rest else behindSemicolon rest
  | .group _ _ :: rest => behindSemicolon rest

/-- The items of a module without an import at their start. -/
def dropImport : List TokenTree → List TokenTree
  | .leaf atom :: rest =>
    if atom = .word "use" then behindSemicolon rest else .leaf atom :: rest
  | trees => trees

/-- The file whose outermost module is given; the innermost one carries an
    attribute. -/
def sourceFile? : List TokenTree → Option SourceFile
  | [.leaf a₁, .leaf a₂, .leaf (.word segment), .group .curly body] =>
    if a₁ = .word "pub" ∧ a₂ = .word "mod" then
      (sourceFile? body).map fun file => { file with segments := segment :: file.segments }
    else none
  | [.leaf a₁, .group .square [.leaf lint, .group .round [.leaf style]], .leaf a₂, .leaf a₃,
      .leaf (.word container), .group .curly body] =>
    if [a₁, lint, style, a₂, a₃]
        = [.mark '#', .word "allow", .word "non_upper_case_globals", .word "pub", .word "mod"] then
      (declarations? (dropImport body)).map fun declared => ⟨[], container, declared⟩
    else none
  | _ => none

/-- Decode a source file. -/
def decode? (text : String) : Option SourceFile :=
  (tokens? text).bind fun found => (trees? found).bind sourceFile?

/-! ## Trees of constants -/

/-- What is declared for an icon. -/
def declarationOf (icon : Icon) : Declaration where
  constant := ItemName.constantName icon.identifier
  name := icon.name
  attributes := icon.attributes.entries
  inner := icon.inner

/-- The trees of a pair of literals. -/
def pairTrees (entry : String × String) : List TokenTree := [
  .group .round [.leaf (.literal entry.1), .leaf (.mark ','), .leaf (.literal entry.2)],
  .leaf (.mark ',')]

/-- The trees of the fields of a constant. -/
def fieldTrees (icon : Icon) : List TokenTree := [
  .leaf (.word "name"), .leaf (.mark ':'), .leaf (.literal icon.name), .leaf (.mark ','),
  .leaf (.word "attributes"), .leaf (.mark ':'), .leaf (.mark '&'),
  .group .square (icon.attributes.entries.flatMap pairTrees), .leaf (.mark ','),
  .leaf (.word "inner"), .leaf (.mark ':'), .leaf (.literal icon.inner), .leaf (.mark ',')]

/-- The trees of a constant whose type is written with the atoms `typeAtoms`. -/
def constantTrees (typeAtoms : List Atom) (icon : Icon) : List TokenTree :=
  [.leaf (.word "pub"), .leaf (.word "const"),
    .leaf (.word (ItemName.constantName icon.identifier))]
    ++ (.mark ':' :: (typeAtoms ++ .mark '=' :: typeAtoms)).map TokenTree.leaf
    ++ [.group .curly (fieldTrees icon), .leaf (.mark ';')]

/-- The trees of a module. -/
def moduleTrees (name : String) (body : List TokenTree) : List TokenTree :=
  [.leaf (.word "pub"), .leaf (.word "mod"), .leaf (.word name), .group .curly body]

/-- The trees of the attribute of the innermost module. -/
def attributeTrees : List TokenTree := [
  .leaf (.mark '#'),
  .group .square [.leaf (.word "allow"), .group .round [.leaf (.word "non_upper_case_globals")]]]

/-- The trees of nested modules around `body`. -/
def nestTrees (name : String) (body : List TokenTree) : List String → List TokenTree
  | [] => attributeTrees ++ moduleTrees name body
  | segment :: segments => moduleTrees segment (nestTrees name body segments)

theorem pairs?_flatMap (entries : List (String × String)) :
    pairs? (entries.flatMap pairTrees) = some entries := by
  induction entries with
  | nil => rfl
  | cons entry rest ih =>
      rw [List.flatMap_cons, pairTrees, List.cons_append, List.singleton_append, pairs?, ih]
      rfl

theorem declaration?_fieldTrees (constant : String) (icon : Icon) :
    declaration? constant (fieldTrees icon)
      = some ⟨constant, icon.name, icon.attributes.entries, icon.inner⟩ := by
  have hatoms : [.word "name", .mark ':', .mark ',', .word "attributes", .mark ':', .mark '&',
      .mark ',', .word "inner", .mark ':', .mark ','] = fieldAtoms := rfl
  rw [fieldTrees, declaration?, if_pos hatoms, pairs?_flatMap]
  rfl

/-- The type of a constant is passed over. -/
theorem value?_leaves (constant : String) (atoms : List Atom) (rest : List TokenTree) :
    value? constant (atoms.map TokenTree.leaf ++ rest) = value? constant rest := by
  induction atoms with
  | nil => rfl
  | cons atom atoms ih =>
      rw [List.map_cons, List.cons_append, value?]
      exact ih

/-- A constant is read from its trees, whatever constants follow. -/
theorem declarations?_constantTrees (typeAtoms : List Atom) (icon : Icon)
    (rest : List TokenTree) :
    declarations? (constantTrees typeAtoms icon ++ rest)
      = (declarations? rest).map (declarationOf icon :: ·) := by
  rw [constantTrees, List.append_assoc, List.append_assoc]
  simp only [List.cons_append, List.nil_append]
  rw [declarations?, if_pos ⟨rfl, rfl⟩, value?_leaves, value?, if_pos rfl,
    declaration?_fieldTrees]
  cases declarations? rest <;> rfl

/-- Icons are read back, in order, from the trees of their constants. -/
theorem declarations?_flatMap (typeAtoms : List Atom) (icons : List Icon) :
    declarations? (icons.flatMap (constantTrees typeAtoms)) = some (icons.map declarationOf) := by
  induction icons with
  | nil => rw [List.flatMap_nil, declarations?]; rfl
  | cons icon rest ih =>
      rw [List.flatMap_cons, declarations?_constantTrees, ih]
      rfl

/-- Modules are read back with what is read from the innermost one. -/
theorem sourceFile?_nestTrees (name : String) {body : List TokenTree}
    {declared : List Declaration} (h : declarations? (dropImport body) = some declared)
    (segments : List String) :
    sourceFile? (nestTrees name body segments) = some ⟨segments, name, declared⟩ := by
  induction segments with
  | nil =>
      have hatoms : [.mark '#', .word "allow", .word "non_upper_case_globals", .word "pub",
          .word "mod"] = [.mark '#', .word "allow", .word "non_upper_case_globals", .word "pub",
          Atom.word "mod"] := rfl
      rw [nestTrees, attributeTrees, moduleTrees, List.cons_append, List.singleton_append,
        sourceFile?, if_pos hatoms, h]
      rfl
  | cons segment rest ih =>
      rw [nestTrees, moduleTrees, sourceFile?, if_pos ⟨rfl, rfl⟩, ih]
      rfl

end IconCompiler.Source
