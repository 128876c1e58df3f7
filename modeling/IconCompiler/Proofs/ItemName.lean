import IconCompiler.ItemName

/-! # Words of item names

    Names of items, whether taken as they are or made for a constant, are words:
    letters, digits and underscores, at least one of them.  The name of a constant
    can be used as it stands, whatever identifier it is made for
    (`isValid_constantName`): what is cleaned and shielded has the shape of a name,
    and the underscore behind a reserved word makes it a free one, since no
    reserved word ends in an underscore. -/

namespace IconCompiler.ItemName

/-- A text made of letters, digits and underscores, at least one of them. -/
structure IsWord (s : String) : Prop where
  nonempty : s.toList ≠ []
  chars : ∀ c ∈ s.toList, isWordChar c = true

/-- A text has the shape of a name if it is made of word characters, the first of
    which is not a digit. -/
theorem hasShape_cons_iff (c : Char) (rest : List Char) :
    hasShape (c :: rest) = true
      ↔ c.isDigit = false ∧ ∀ d ∈ c :: rest, isWordChar d = true := by
  rw [hasShape, List.forall_mem_cons, Bool.and_eq_true, Bool.and_eq_true, Bool.not_eq_true',
    List.all_eq_true, and_comm (a := isWordChar c = true), and_assoc]

theorem isValid_ofList_iff (cs : List Char) :
    isValid (String.ofList cs) = true
      ↔ cs ≠ ['_'] ∧ hasShape cs = true ∧ isReserved cs = false := by
  have hdash : String.ofList cs ≠ "_" ↔ cs ≠ ['_'] := by
    rw [Ne, ← String.toList_inj, String.toList_ofList]
    rfl
  rw [isValid, Bool.and_eq_true, Bool.and_eq_true, bne_iff_ne, hdash, String.toList_ofList,
    Bool.not_eq_true', and_assoc]

theorem isWord_of_isValid {s : String} (h : isValid s = true) : IsWord s := by
  rw [← String.ofList_toList (s := s), isValid_ofList_iff] at h
  cases hs : s.toList with
  | nil =>
      rw [hs] at h
      exact absurd h.2.1 Bool.false_ne_true
  | cons c rest =>
      rw [hs, hasShape_cons_iff] at h
      refine ⟨by rw [hs]; exact List.cons_ne_nil c rest, ?_⟩
      rw [hs]
      exact h.2.1.2

/-! ## Names of constants -/

/-- An underscore put in front of a digit, or of nothing, gives the shape of a name. -/
theorem hasShape_shielded {cs : List Char} (h : ∀ c ∈ cs, isWordChar c = true) :
    hasShape (shielded cs) = true := by
  cases cs with
  | nil => rfl
  | cons d rest =>
      rw [shielded]
      split
      · rw [hasShape_cons_iff, List.forall_mem_cons]
        exact ⟨rfl, rfl, h⟩
      · next hdigit =>
          rw [Bool.not_eq_true] at hdigit
          exact (hasShape_cons_iff d rest).mpr ⟨hdigit, h⟩

theorem hasShape_concat {cs : List Char} (h : hasShape cs = true) :
    hasShape (cs ++ ['_']) = true := by
  cases cs with
  | nil => rfl
  | cons c rest =>
      rw [hasShape_cons_iff] at h
      rw [List.cons_append, hasShape_cons_iff, ← List.cons_append, List.forall_mem_append,
        List.forall_mem_singleton]
      exact ⟨h.1, h.2, rfl⟩

/-- No reserved word ends in an underscore. -/
theorem isReserved_concat (cs : List Char) : isReserved (cs ++ ['_']) = false := by
  have hends : ∀ word ∈ keywords, word.toList.getLast? ≠ some '_' := by decide
  rw [isReserved, List.any_eq_false]
  intro word hword heq
  refine hends word hword ?_
  rw [of_decide_eq_true heq, List.getLast?_append]
  rfl

/-- The name of a constant can be used, whatever it is made for. -/
theorem isValid_constantName (identifier : String) :
    isValid (constantName identifier) = true := by
  by_cases hvalid : isValid identifier = true
  · rw [constantName, if_pos hvalid]
    exact hvalid
  rw [constantName, if_neg hvalid]
  dsimp only
  have hcleaned : ∀ c ∈ identifier.toList.map (fun c => if isWordChar c then c else '_'),
      isWordChar c = true := by
    intro c hc
    obtain ⟨d, -, rfl⟩ := List.mem_map.mp hc
    split
    · assumption
    · rfl
  have hshape := hasShape_shielded hcleaned
  rw [isValid_ofList_iff]
  split
  · refine ⟨?_, hasShape_concat hshape, isReserved_concat _⟩
    intro hnil
    rw [List.append_left_eq_self.mp hnil] at hshape
    cases hshape
  · next hfree =>
      rw [not_or, Bool.not_eq_true] at hfree
      exact ⟨hfree.1, hshape, hfree.2⟩

/-- A text is kept as the name of a constant if it can be used as one, and only
    then. -/
theorem constantName_eq_self_iff (identifier : String) :
    constantName identifier = identifier ↔ isValid identifier = true := by
  constructor
  · intro hsame
    rw [← hsame]
    exact isValid_constantName identifier
  · intro hvalid
    rw [constantName, if_pos hvalid]

/-- The name of a constant is a word, whatever it is made from. -/
theorem isWord_constantName (identifier : String) : IsWord (constantName identifier) :=
  isWord_of_isValid (isValid_constantName identifier)

end IconCompiler.ItemName
