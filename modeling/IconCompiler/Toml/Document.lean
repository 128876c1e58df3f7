import IconCompiler.Toml.Statement

/-! # TOML documents

    The statements of a document are carried out one by one on the table that
    the document stands for.  A pair goes into the table that began last. -/

namespace IconCompiler.Toml

/-- A document that has been carried out in part: the root table, and the path
    of the table that began last. -/
structure Draft where
  entries : Entries := []
  current : List String := []

namespace Draft

/-- Carry out one statement. -/
def add? (draft : Draft) : Statement → Option Draft
  | .table path => do
    let (_, entries) ←
      changeAt false (declareTable path.key) path.outer .declared draft.entries
    return ⟨entries, path.outer ++ [path.key]⟩
  | .element path => do
    let (_, entries) ←
      changeAt false (declareElement path.key) path.outer .declared draft.entries
    return ⟨entries, path.outer ++ [path.key]⟩
  | .pair path value => do
    let (_, entries) ← changeAt false (assign path value) draft.current .declared draft.entries
    return { draft with entries }

end Draft

/-- The table that statements make up. -/
def tableOfStatements? (statements : List Statement) : Option Value := do
  let draft ← statements.foldlM Draft.add? {}
  return .table (Item.toValues draft.entries)

/-- Whether `c` is the mark that may stand in front of a document. -/
def isByteOrderMark (c : Char) : Bool :=
  c.toNat == 0xFEFF

/-- The table that a document stands for. -/
def parse? (text : String) : Option Value :=
  let statements? :=
    match text.toList with
    | c :: rest => readStatements? (if isByteOrderMark c then rest else c :: rest)
    | [] => some []
  statements?.bind tableOfStatements?

end IconCompiler.Toml
