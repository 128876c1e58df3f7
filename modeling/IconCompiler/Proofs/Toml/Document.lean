import IconCompiler.Proofs.OrderedMap
import IconCompiler.Toml.Document

/-! # Tables of printed documents

    A header opens a place where the pairs behind it go (`Receives`).  The pairs
    of a table have distinct keys, so each of them is taken there and nothing else
    changes (`foldlM_add?_pairs`).  The same goes for one table behind the other
    under one key (`foldlM_add?_elements`). -/

namespace IconCompiler.Toml

/-! ## Entries -/

theorem lookup_append_of_none {α : Type} {front : List (String × α)} {key : String}
    (h : front.lookup key = none) (more : List (String × α)) :
    (front ++ more).lookup key = more.lookup key := by
  rw [List.lookup_append, h, Option.none_or]

theorem setItem_append {front : Entries} {key : String} (h : front.lookup key = none)
    (old item : Item) :
    setItem key item (front ++ [(key, old)]) = front ++ [(key, item)] := by
  induction front with
  | nil => rw [List.nil_append, setItem, if_pos rfl, List.nil_append]
  | cons entry rest ih =>
      obtain ⟨other, held⟩ := entry
      have hne : other ≠ key := by
        rintro rfl
        simp at h
      rw [lookup_cons_of_ne (Ne.symm hne)] at h
      rw [List.cons_append, setItem, if_neg hne, ih h, List.cons_append]

/-- The items of pairs. -/
def items (pairs : List (String × Value)) : Entries :=
  pairs.map fun pair => (pair.1, .value pair.2)

/-- The statements that give pairs. -/
def assignments (pairs : List (String × Value)) : List Statement :=
  pairs.map fun pair => .pair ⟨[], pair.1⟩ pair.2

/-! ## Statements -/

section

variable {statements more : List Statement} {draft middle final : Draft}

theorem foldlM_add?_append (h : statements.foldlM Draft.add? draft = some middle)
    (hmore : more.foldlM Draft.add? middle = some final) :
    (statements ++ more).foldlM Draft.add? draft = some final := by
  rw [List.foldlM_append, h]
  exact hmore

theorem foldlM_add?_cons {statement : Statement} (h : draft.add? statement = some middle)
    (hmore : more.foldlM Draft.add? middle = some final) :
    (statement :: more).foldlM Draft.add? draft = some final := by
  rw [List.foldlM_cons, h]
  exact hmore

theorem tableOfStatements?_eq (h : statements.foldlM Draft.add? {} = some final) :
    tableOfStatements? statements = some (.table (Item.toValues final.entries)) := by
  rw [tableOfStatements?, h]
  rfl

end

/-! ## Pairs -/

/-- A pair with a new key is added to the table that began last, while all around
    it stays. -/
def Receives (current : List String) (around : Entries → Entries) : Prop :=
  ∀ (inner : Entries) (key : String) (value : Value), inner.lookup key = none →
    changeAt false (assign ⟨[], key⟩ value) current .declared (around inner)
      = some (.declared, around (inner ++ [(key, .value value)]))

theorem assign_new {inner : Entries} {key : String} (h : inner.lookup key = none) (value : Value) :
    assign ⟨[], key⟩ value .declared inner
      = some (.declared, inner ++ [(key, .value value)]) := by
  show putValue false key value .declared inner = _
  rw [putValue, if_neg (by simp), h]

section

variable {front : Entries} {key : String} (h : front.lookup key = none)
include h

theorem receives_table :
    Receives [key] fun inner => front ++ [(key, .table .declared inner)] := by
  intro inner name value hnew
  rw [changeAt, lookup_append_of_none h, List.lookup_cons_self]
  dsimp only
  rw [if_neg (by simp), changeAt, assign_new hnew]
  exact congrArg (fun entries => some (Origin.declared, entries)) (setItem_append h _ _)

theorem receives_element (earlier : List Entries) :
    Receives [key] fun inner => front ++ [(key, .tables (inner :: earlier))] := by
  intro inner name value hnew
  rw [changeAt, lookup_append_of_none h, List.lookup_cons_self]
  dsimp only
  rw [changeAt, assign_new hnew]
  exact congrArg (fun entries => some (Origin.declared, entries)) (setItem_append h _ _)

end

theorem foldlM_add?_pairs {current : List String} {around : Entries → Entries}
    (h : Receives current around) {inner : Entries} {pairs : List (String × Value)}
    (hnew : ∀ pair ∈ pairs, inner.lookup pair.1 = none) (hkeys : (pairs.map Prod.fst).Nodup) :
    (assignments pairs).foldlM Draft.add? ⟨around inner, current⟩
      = some ⟨around (inner ++ items pairs), current⟩ := by
  induction pairs generalizing inner with
  | nil => simp [assignments, items]
  | cons pair rest ih =>
      obtain ⟨key, value⟩ := pair
      obtain ⟨hfirst, hrest⟩ := List.nodup_cons.mp hkeys
      have hadd : Draft.add? ⟨around inner, current⟩ (.pair ⟨[], key⟩ value)
          = some ⟨around (inner ++ [(key, .value value)]), current⟩ := by
        rw [Draft.add?]
        dsimp only
        rw [h inner key value (hnew _ List.mem_cons_self)]
        rfl
      have hlater : ∀ other ∈ rest, (inner ++ [(key, Item.value value)]).lookup other.1 = none := by
        intro other hother
        have hne : other.1 ≠ key := by
          rintro rfl
          exact hfirst (List.mem_map.mpr ⟨other, hother, rfl⟩)
        rw [lookup_append_of_none (hnew other (List.mem_cons_of_mem _ hother)),
          lookup_cons_of_ne hne]
        rfl
      refine foldlM_add?_cons hadd ((ih hlater hrest).trans ?_)
      rw [List.append_assoc]
      rfl

/-! ## Tables -/

section

variable {front : Entries} {key : String} (h : front.lookup key = none)
include h

theorem foldlM_add?_table {current : List String} {pairs : List (String × Value)}
    (hkeys : (pairs.map Prod.fst).Nodup) :
    (.table ⟨[], key⟩ :: assignments pairs).foldlM Draft.add? ⟨front, current⟩
      = some ⟨front ++ [(key, .table .declared (items pairs))], [key]⟩ := by
  have hadd : Draft.add? ⟨front, current⟩ (.table ⟨[], key⟩)
      = some ⟨front ++ [(key, .table .declared [])], [key]⟩ := by
    rw [Draft.add?]
    dsimp only
    rw [changeAt, declareTable, h]
    rfl
  exact foldlM_add?_cons hadd (foldlM_add?_pairs (receives_table h) (fun _ _ => rfl) hkeys)

omit h in
/-- What stands under the key of tables, which are listed last first. -/
def under (key : String) (tables : List Entries) : Entries :=
  if tables = [] then [] else [(key, .tables tables)]

theorem foldlM_add?_element {current : List String} (earlier : List Entries)
    {pairs : List (String × Value)} (hkeys : (pairs.map Prod.fst).Nodup) :
    (.element ⟨[], key⟩ :: assignments pairs).foldlM Draft.add?
        ⟨front ++ under key earlier, current⟩
      = some ⟨front ++ under key (items pairs :: earlier), [key]⟩ := by
  have hdeclare : declareElement key .declared (front ++ under key earlier)
      = some (.declared, front ++ [(key, .tables ([] :: earlier))]) := by
    rw [declareElement, lookup_append_of_none h, under]
    by_cases hnone : earlier = []
    · rw [if_pos hnone, List.append_nil, hnone]
      rfl
    · rw [if_neg hnone, List.lookup_cons_self]
      exact congrArg (fun entries => some (Origin.declared, entries)) (setItem_append h _ _)
  have hadd : Draft.add? ⟨front ++ under key earlier, current⟩ (.element ⟨[], key⟩)
      = some ⟨front ++ [(key, .tables ([] :: earlier))], [key]⟩ := by
    rw [Draft.add?]
    dsimp only
    rw [changeAt, hdeclare]
    rfl
  refine foldlM_add?_cons hadd ?_
  rw [under, if_neg (List.cons_ne_nil _ _)]
  exact foldlM_add?_pairs (receives_element h earlier) (fun _ _ => rfl) hkeys

theorem foldlM_add?_elements (current : List String) (earlier : List Entries)
    {tables : List (List (String × Value))}
    (hkeys : ∀ pairs ∈ tables, (pairs.map Prod.fst).Nodup) :
    ∃ last, (tables.flatMap fun pairs => .element ⟨[], key⟩ :: assignments pairs).foldlM Draft.add?
        ⟨front ++ under key earlier, current⟩
      = some ⟨front ++ under key ((tables.map items).reverse ++ earlier), last⟩ := by
  induction tables generalizing current earlier with
  | nil => exact ⟨current, rfl⟩
  | cons pairs rest ih =>
      obtain ⟨last, hlast⟩ := ih [key] (items pairs :: earlier)
        (fun others hothers => hkeys others (List.mem_cons_of_mem _ hothers))
      refine ⟨last, ?_⟩
      rw [List.flatMap_cons]
      refine (foldlM_add?_append
        (foldlM_add?_element h earlier (hkeys pairs List.mem_cons_self)) hlast).trans ?_
      rw [List.map_cons, List.reverse_cons, List.append_assoc, List.singleton_append]

end

/-! ## Complete documents -/

theorem toValues_items (pairs : List (String × Value)) : Item.toValues (items pairs) = pairs := by
  induction pairs with
  | nil => rfl
  | cons pair rest ih =>
      show (pair.1, pair.2) :: Item.toValues (items rest) = _
      rw [ih]

theorem toTables_items (tables : List (List (String × Value))) :
    Item.toTables (tables.map items) = tables.map .table := by
  induction tables with
  | nil => rfl
  | cons pairs rest ih => rw [List.map_cons, Item.toTables, toValues_items, ih, List.map_cons]

end IconCompiler.Toml
