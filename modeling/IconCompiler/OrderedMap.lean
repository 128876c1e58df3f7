/-! # Ordered maps

    Values under distinct keys, in the order in which the keys first appeared. -/

namespace IconCompiler

section

variable {κ ν : Type} [DecidableEq κ]

/-- Put `value` under `key`: in the place the key has, or at the end. -/
def insertPair (key : κ) (value : ν) : List (κ × ν) → List (κ × ν)
  | [] => [(key, value)]
  | (k, v) :: rest =>
    if k = key then (k, value) :: rest else (k, v) :: insertPair key value rest

theorem map_fst_insertPair (key : κ) (value : ν) (entries : List (κ × ν)) :
    (insertPair key value entries).map Prod.fst =
      if key ∈ entries.map Prod.fst then entries.map Prod.fst
      else entries.map Prod.fst ++ [key] := by
  induction entries with
  | nil => simp [insertPair]
  | cons entry rest ih =>
    obtain ⟨k, v⟩ := entry
    by_cases h : k = key
    · simp [insertPair, h]
    · have h' : ¬ key = k := fun e => h e.symm
      simp only [insertPair, if_neg h, List.map_cons, ih, List.mem_cons, h', false_or]
      split <;> simp

theorem lookup_cons_of_ne {k a : κ} (h : k ≠ a) (value : ν) (rest : List (κ × ν)) :
    ((a, value) :: rest).lookup k = rest.lookup k := by
  have hb : (k == a) = false := beq_eq_false_iff_ne.2 h
  rw [List.lookup_cons, hb]

theorem lookup_insertPair (key : κ) (value : ν) (entries : List (κ × ν)) (k : κ) :
    (insertPair key value entries).lookup k =
      if k = key then some value else entries.lookup k := by
  induction entries with
  | nil =>
    by_cases h : k = key
    · simp [insertPair, h]
    · simp [insertPair, lookup_cons_of_ne h, h]
  | cons entry rest ih =>
    obtain ⟨a, v⟩ := entry
    by_cases h : a = key
    · subst h
      by_cases hk : k = a
      · simp [insertPair, hk]
      · simp [insertPair, lookup_cons_of_ne hk, hk]
    · by_cases hk : k = a
      · subst hk
        simp [insertPair, h]
      · simp [insertPair, h, lookup_cons_of_ne hk, ih]

end

/-- Values under distinct keys, in order. -/
structure OrderedMap (κ ν : Type) where
  entries : List (κ × ν)
  keys_nodup : (entries.map Prod.fst).Nodup
  deriving DecidableEq

namespace OrderedMap

variable {κ ν : Type}

/-- The map without keys. -/
def empty : OrderedMap κ ν where
  entries := []
  keys_nodup := List.nodup_nil

instance : Inhabited (OrderedMap κ ν) := ⟨empty⟩

/-- The keys, in order. -/
def keys (map : OrderedMap κ ν) : List κ :=
  map.entries.map Prod.fst

variable [DecidableEq κ]

/-- The value under a key. -/
def find? (map : OrderedMap κ ν) (key : κ) : Option ν :=
  map.entries.lookup key

/-- Put `value` under `key`; a key that is present keeps its place. -/
def insert (map : OrderedMap κ ν) (key : κ) (value : ν) : OrderedMap κ ν where
  entries := insertPair key value map.entries
  keys_nodup := by
    rw [map_fst_insertPair]
    split
    · exact map.keys_nodup
    · next h =>
      refine List.nodup_append.2 ⟨map.keys_nodup, by simp, ?_⟩
      intro a ha b hb e
      rw [List.mem_singleton.1 hb] at e
      exact h (e ▸ ha)

theorem find?_insert (map : OrderedMap κ ν) (key : κ) (value : ν) (k : κ) :
    (map.insert key value).find? k = if k = key then some value else map.find? k :=
  lookup_insertPair key value map.entries k

/-- The map of a list of pairs: a repeated key keeps its first place and takes
    its last value. -/
def ofPairs (pairs : List (κ × ν)) : OrderedMap κ ν :=
  pairs.foldl (fun map pair => map.insert pair.1 pair.2) empty

omit [DecidableEq κ] in
/-- The map with the keys that satisfy `p` only. -/
def filterKeys (map : OrderedMap κ ν) (p : κ → Bool) : OrderedMap κ ν where
  entries := map.entries.filter fun entry => p entry.1
  keys_nodup := map.keys_nodup.sublist (List.filter_sublist.map Prod.fst)

end OrderedMap

end IconCompiler
