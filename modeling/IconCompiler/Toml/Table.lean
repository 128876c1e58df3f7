import IconCompiler.Toml.Key
import IconCompiler.Toml.Value

/-! # TOML tables

    Tables are filled key by key.  A table comes into being by a header of its
    own, by a header of a table inside it, or by a dotted key; each of these
    ways restricts what may be added later. -/

namespace IconCompiler.Toml

/-- How a table came into being. -/
inductive Origin where
  /-- By a header of its own. -/
  | declared
  /-- By the header of a table inside it. -/
  | implied
  /-- By a dotted key. -/
  | dotted
  deriving DecidableEq

/-- What stands under a key while a document is read. -/
inductive Item where
  | value (value : Value)
  | table (origin : Origin) (entries : List (String × Item))
  /-- Tables under one key, the last one first. -/
  | tables (elements : List (List (String × Item)))

/-- The keys of a table and what stands under them. -/
abbrev Entries := List (String × Item)

/-- Put an item under a key that is present. -/
def setItem (key : String) (item : Item) : Entries → Entries
  | [] => []
  | (k, old) :: rest => if k = key then (k, item) :: rest else (k, old) :: setItem key item rest

/-- Change the table that a path leads to from a table of the given origin.
    Missing tables on the way are made; of tables under one key the last one is
    taken.  A dotted path must not lead through a table with a header. -/
def changeAt (dotted : Bool) (change : Origin → Entries → Option (Origin × Entries)) :
    List String → Origin → Entries → Option (Origin × Entries)
  | [], origin, entries => change origin entries
  | key :: path, origin, entries =>
    match entries.lookup key with
    | none => do
      let made := if dotted then Origin.dotted else .implied
      let (newOrigin, inner) ← changeAt dotted change path made []
      return (origin, entries ++ [(key, .table newOrigin inner)])
    | some (.value _) => none
    | some (.tables []) => none
    | some (.tables (last :: earlier)) => do
      let (_, inner) ← changeAt dotted change path .declared last
      return (origin, setItem key (.tables (inner :: earlier)) entries)
    | some (.table itsOrigin itsEntries) =>
      if dotted ∧ itsOrigin = .declared then none
      else do
        let (newOrigin, inner) ← changeAt dotted change path itsOrigin itsEntries
        return (origin, setItem key (.table newOrigin inner) entries)

/-- Put a value under a new key.  A dotted path has to end in a table that
    dotted keys made. -/
def putValue (dotted : Bool) (key : String) (value : Value) (origin : Origin)
    (entries : Entries) : Option (Origin × Entries) :=
  if dotted ∧ origin ≠ .dotted then none
  else
    match entries.lookup key with
    | some _ => none
    | none => some (origin, entries ++ [(key, .value value)])

/-- Put a value where a key path leads. -/
def assign (path : KeyPath) (value : Value) (origin : Origin) (entries : Entries) :
    Option (Origin × Entries) :=
  changeAt true (putValue (!path.outer.isEmpty) path.key value) path.outer origin entries

/-- Declare the table under a key, which may have been implied before. -/
def declareTable (key : String) (origin : Origin) (entries : Entries) :
    Option (Origin × Entries) :=
  match entries.lookup key with
  | none => some (origin, entries ++ [(key, .table .declared [])])
  | some (.table .implied inner) => some (origin, setItem key (.table .declared inner) entries)
  | some _ => none

/-- Declare one more table under a key. -/
def declareElement (key : String) (origin : Origin) (entries : Entries) :
    Option (Origin × Entries) :=
  match entries.lookup key with
  | none => some (origin, entries ++ [(key, .tables [[]])])
  | some (.tables elements) => some (origin, setItem key (.tables ([] :: elements)) entries)
  | some _ => none

mutual

/-- The value of an item, once its document is complete. -/
def Item.toValue : Item → Value
  | .value v => v
  | .table _ entries => .table (Item.toValues entries)
  | .tables elements => .array (Item.toTables elements).reverse

/-- The values of the items of a table. -/
def Item.toValues : List (String × Item) → List (String × Value)
  | [] => []
  | (key, item) :: rest => (key, Item.toValue item) :: Item.toValues rest

/-- The values of tables under one key. -/
def Item.toTables : List (List (String × Item)) → List Value
  | [] => []
  | entries :: rest => .table (Item.toValues entries) :: Item.toTables rest

end

/-- The table that key paths and their values make up. -/
def tableOfPairs? (pairs : List (KeyPath × Value)) : Option Value := do
  let (_, entries) ← pairs.foldlM
    (fun (table : Origin × Entries) pair => assign pair.1 pair.2 table.1 table.2)
    (Origin.declared, [])
  return .table (Item.toValues entries)

end IconCompiler.Toml
