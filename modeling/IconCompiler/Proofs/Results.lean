/-! # Results of readings that can fail

    When a reading made of several steps succeeds: every step does, each with
    what the one before it gives.  Its faults are those of the steps. -/

namespace IconCompiler

variable {ε α β : Type}

theorem bind_eq_ok_iff {result : Except ε α} {next : α → Except ε β} {value : β} :
    (result >>= next) = .ok value ↔ ∃ found, result = .ok found ∧ next found = .ok value := by
  cases result with
  | error fault => simp [bind, Except.bind]
  | ok found => simp [bind, Except.bind]

/-- Steps along a list succeed if the first one does and the others do from there. -/
theorem foldlM_cons_eq_ok_iff {next : β → α → Except ε β} {a : α} {rest : List α}
    {before after : β} :
    (a :: rest).foldlM next before = .ok after
      ↔ ∃ middle, next before a = .ok middle ∧ rest.foldlM next middle = .ok after := by
  rw [List.foldlM_cons, bind_eq_ok_iff]

/-- Two steps fail if the first one does, or the second one with what the first one gives. -/
theorem bind_eq_error_iff {result : Except ε α} {next : α → Except ε β} {fault : ε} :
    (result >>= next) = .error fault
      ↔ result = .error fault ∨ ∃ found, result = .ok found ∧ next found = .error fault := by
  cases result with
  | error other => simp [bind, Except.bind]
  | ok found => simp [bind, Except.bind]

/-- Steps along a list fail at one of its values, behind steps that do not. -/
theorem foldlM_eq_error {next : β → α → Except ε β} {values : List α} {before : β} {fault : ε}
    (h : values.foldlM next before = .error fault) :
    ∃ front value behind middle, values = front ++ value :: behind
      ∧ front.foldlM next before = .ok middle ∧ next middle value = .error fault := by
  induction values generalizing before with
  | nil => exact absurd h (by simp [pure, Except.pure])
  | cons value rest ih =>
      rw [List.foldlM_cons] at h
      rcases bind_eq_error_iff.mp h with hfirst | ⟨middle, hok, hrest⟩
      · exact ⟨[], value, rest, before, rfl, rfl, hfirst⟩
      · obtain ⟨front, later, behind, last, rfl, hfront, hlater⟩ := ih hrest
        exact ⟨value :: front, later, behind, last, rfl,
          foldlM_cons_eq_ok_iff.mpr ⟨middle, hok, hfront⟩, hlater⟩

/-- What was encoded item by item is decoded item by item. -/
theorem mapM_map_eq_some {encode : α → β} {decode : β → Option α}
    (h : ∀ value, decode (encode value) = some value) (values : List α) :
    (values.map encode).mapM decode = some values := by
  induction values with
  | nil => rfl
  | cons value rest ih =>
      rw [List.map_cons, List.mapM_cons, h, ih]
      rfl

theorem eq_ok_of_toOption {result : Except ε α} {value : α} (h : result.toOption = some value) :
    result = .ok value := by
  cases result with
  | error fault => exact absurd h (by simp [Except.toOption])
  | ok found => exact congrArg Except.ok (Option.some.inj h)

end IconCompiler
