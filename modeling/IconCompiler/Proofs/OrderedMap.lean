import IconCompiler.OrderedMap

/-! # Entries of ordered maps

    A map is its list of entries, and since the keys are distinct, what is found
    under a key is told by the entries alone. -/

namespace IconCompiler

theorem insertPair_of_not_mem {κ ν : Type} [DecidableEq κ] {key : κ} (value : ν)
    {entries : List (κ × ν)} (h : key ∉ entries.map Prod.fst) :
    insertPair key value entries = entries ++ [(key, value)] := by
  induction entries with
  | nil => rfl
  | cons entry rest ih =>
      obtain ⟨k, v⟩ := entry
      rw [List.map_cons, List.mem_cons, not_or] at h
      rw [insertPair, if_neg (fun he => h.1 he.symm), ih h.2]
      rfl

namespace OrderedMap

variable {κ ν : Type}

theorem eq_of_entries {first second : OrderedMap κ ν} (h : first.entries = second.entries) :
    first = second := by
  obtain ⟨entries, hnodup⟩ := first
  obtain ⟨entries', hnodup'⟩ := second
  cases h
  rfl

variable [DecidableEq κ]

/-- Pairs with new keys are put behind those that are there. -/
theorem entries_foldl_insert {pairs : List (κ × ν)} {map : OrderedMap κ ν}
    (h : (map.keys ++ pairs.map Prod.fst).Nodup) :
    (pairs.foldl (fun map pair => map.insert pair.1 pair.2) map).entries
      = map.entries ++ pairs := by
  induction pairs generalizing map with
  | nil => rw [List.foldl_nil, List.append_nil]
  | cons pair rest ih =>
      have hnew : pair.1 ∉ map.entries.map Prod.fst := by
        intro hmem
        exact (List.nodup_append.mp h).2.2 _ hmem _ (List.mem_cons_self ..) rfl
      have hentries : (map.insert pair.1 pair.2).entries = map.entries ++ [pair] :=
        insertPair_of_not_mem pair.2 hnew
      rw [List.foldl_cons, ih, hentries, List.append_assoc]
      · rfl
      · rw [keys, hentries, List.map_append, List.append_assoc]
        exact h

/-- A map is made up of its entries. -/
theorem ofPairs_entries (map : OrderedMap κ ν) : ofPairs map.entries = map := by
  have hnodup : ((empty : OrderedMap κ ν).keys ++ map.entries.map Prod.fst).Nodup := map.keys_nodup
  exact eq_of_entries (entries_foldl_insert hnodup)

theorem find?_eq_some_iff {map : OrderedMap κ ν} {key : κ} {value : ν} :
    map.find? key = some value ↔ (key, value) ∈ map.entries := by
  obtain ⟨entries, hnodup⟩ := map
  show entries.lookup key = some value ↔ (key, value) ∈ entries
  induction entries with
  | nil => simp
  | cons entry rest ih =>
      obtain ⟨k, v⟩ := entry
      rw [List.map_cons, List.nodup_cons] at hnodup
      by_cases hk : key = k
      -- no later entry has the key again
      · subst hk
        have hlater : (key, value) ∉ rest := fun hmem =>
          hnodup.1 (List.mem_map.mpr ⟨(key, value), hmem, rfl⟩)
        simp [hlater, eq_comm]
      · rw [lookup_cons_of_ne hk, ih hnodup.2]
        simp [hk]

theorem find?_filterKeys (map : OrderedMap κ ν) (p : κ → Bool) (key : κ) :
    (map.filterKeys p).find? key = if p key then map.find? key else none := by
  refine Option.ext fun value => ?_
  rw [find?_eq_some_iff]
  show (key, value) ∈ map.entries.filter (fun entry => p entry.1) ↔ _
  rw [List.mem_filter, ← find?_eq_some_iff]
  by_cases hp : p key = true
  · rw [if_pos hp]
    exact and_iff_left hp
  · rw [if_neg hp]
    simp [hp]

end OrderedMap

end IconCompiler
