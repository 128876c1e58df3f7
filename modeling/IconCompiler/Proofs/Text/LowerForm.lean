import IconCompiler.Proofs.Text.Case
import IconCompiler.Proofs.Text.Split
import Mathlib.Data.List.Forall2

/-! # Texts of one lower-case form

    Texts that differ in the case of ASCII letters only have one lower-case form
    (`lower_eq_of_sameLetters`): a letter counts as one in either case, so the capital
    sigmas around it end the same words.  The marks that give a path its structure have
    no case, and what stands between two slashes is lower-cased by itself, so the
    structure of a text is that of its lower-case form (`lowerList_eq_iff`,
    `splitAtAll_lowerList`). -/

namespace IconCompiler.Text

theorem lower_eq_iff (s t : String) : lower s = lower t ↔ lowerList s.toList = lowerList t.toList :=
  ⟨String.ofList_injective, congrArg String.ofList⟩

/-! ## Structure -/

theorem lowered_ne_nil (final : Bool) (c : Char) : lowered final c ≠ [] := by
  rw [lowered]
  split
  · exact List.cons_ne_nil _ _
  rw [lowerChar]
  split
  · exact List.cons_ne_nil _ _
  rw [mapCase]
  split
  · next row hrow =>
      have hlisted : ∀ row ∈ lowerExpansions, row.2.map Char.ofNat ≠ [] := by decide
      exact hlisted row (List.mem_of_find?_eq_some hrow)
  · split <;> exact List.cons_ne_nil _ _

/-- A text of characters without a case is the lower-case form of itself only. -/
theorem lowerFrom_eq_iff {marks : List Char} (hmarks : ∀ mark ∈ marks, IsCaseless mark)
    (before : Bool) (cs : List Char) : lowerFrom before cs = marks ↔ cs = marks := by
  induction cs generalizing before marks with
  | nil => exact Iff.rfl
  | cons c rest ih =>
      obtain ⟨first, more, hfirst⟩ :=
        List.exists_cons_of_ne_nil (lowered_ne_nil (before && !startsCased rest) c)
      cases marks with
      | nil =>
          rw [lowerFrom_cons, hfirst]
          exact iff_of_false (List.cons_ne_nil _ _) (List.cons_ne_nil _ _)
      | cons mark marks =>
          obtain ⟨hmark, hothers⟩ := List.forall_mem_cons.mp hmarks
          rw [List.cons.injEq, ← ih hothers (endsCased before c)]
          constructor
          · intro h
            have hmem : mark ∈ lowered (before && !startsCased rest) c := by
              rw [lowerFrom_cons, hfirst, List.cons_append] at h
              rw [hfirst, (List.cons.inj h).1]
              exact List.mem_cons_self ..
            obtain rfl := hmark.eq_of_mem_lowered hmem
            rw [lowerFrom_cons, hmark.lowered_eq] at h
            exact ⟨rfl, (List.cons.inj h).2⟩
          · rintro ⟨rfl, hrest⟩
            rw [lowerFrom_cons, hmark.lowered_eq, hrest]
            rfl

theorem lowerList_eq_iff {marks : List Char} (hmarks : ∀ mark ∈ marks, IsCaseless mark)
    (cs : List Char) : lowerList cs = marks ↔ cs = marks :=
  lowerFrom_eq_iff hmarks false cs

section

variable {p : Char → Bool} (hp : ∀ c, p c = true → IsSeparator c)
include hp

/-- Lower-casing makes no separators. -/
theorem lowerList_free {cs : List Char} (h : ∀ c ∈ cs, p c = false) :
    ∀ c ∈ lowerList cs, p c = false := by
  intro c hc
  rw [← Bool.not_eq_true]
  intro hmark
  rw [lowerList_eq_lowerWithin] at hc
  exact absurd (h c ((hp c hmark).mem_of_mem_lowerWithin hc)) (by rw [hmark]; decide)

/-- A text cut at characters that set words apart is lower-cased piece by piece. -/
theorem splitAtAll_lowerList (cs : List Char) :
    splitAtAll p (lowerList cs) = (splitAtAll p cs).map lowerList := by
  by_cases hcut : ∃ c ∈ cs, p c = true
  · obtain ⟨front, c, hc, hcs⟩ := exists_append_afterLast hcut
    have hlast : ∀ d ∈ afterLast p cs, p d = false := fun _ hd => eq_false_of_mem_afterLast hd
    have hshorter : front.length < cs.length := by
      rw [hcs, List.length_append, List.length_cons]
      omega
    generalize afterLast p cs = last at hcs hlast
    calc splitAtAll p (lowerList cs)
        = splitAtAll p (lowerList front ++ c :: lowerList last) := by
          rw [hcs, (hp c hc).lowerList_append_cons]
      _ = splitAtAll p (lowerList front) ++ splitAtAll p (lowerList last) :=
          splitAtAll_append hc _ _
      _ = (splitAtAll p front).map lowerList ++ [lowerList last] := by
          rw [splitAtAll_lowerList front, splitAtAll_of_not_mem (lowerList_free hp hlast)]
      _ = (splitAtAll p cs).map lowerList := by
          rw [hcs, splitAtAll_append hc, splitAtAll_of_not_mem hlast, List.map_append]
          rfl
  · have hfree : ∀ c ∈ cs, p c = false := by simpa using hcut
    rw [splitAtAll_of_not_mem hfree, splitAtAll_of_not_mem (lowerList_free hp hfree)]
    rfl
termination_by cs.length
decreasing_by
  exact hshorter

end

theorem splitAtAll_isSlash_lowerList (cs : List Char) :
    splitAtAll isSlash (lowerList cs) = (splitAtAll isSlash cs).map lowerList :=
  splitAtAll_lowerList (fun _ => isSeparator_of_isSlash) cs

/-! ## Letters of ASCII -/

/-- Two characters are the same, or the same letter of ASCII in two cases. -/
def SameLetter (c d : Char) : Prop :=
  c = d ∨ (c.isAlpha = true ∧ d.isAlpha = true ∧ c.toLower = d.toLower)

/-- Two texts differ in the case of ASCII letters only. -/
def SameLetters (s t : String) : Prop :=
  List.Forall₂ SameLetter s.toList t.toList

instance (c d : Char) : Decidable (SameLetter c d) :=
  inferInstanceAs (Decidable (c = d ∨ (c.isAlpha = true ∧ d.isAlpha = true ∧ c.toLower = d.toLower)))

instance (s t : String) : Decidable (SameLetters s t) :=
  inferInstanceAs (Decidable (List.Forall₂ SameLetter s.toList t.toList))

/-! A letter counts as one in either case, and its lower-case form is the same. -/

theorem isAscii_of_isAlpha {c : Char} (h : c.isAlpha = true) : isAscii c = true := by
  have hcode : (65 ≤ c.toNat ∧ c.toNat ≤ 90) ∨ (97 ≤ c.toNat ∧ c.toNat ≤ 122) := by
    rcases (Bool.or_eq_true _ _).mp h with hupper | hlower
    · exact .inl (of_decide_eq_true hupper)
    · obtain ⟨hfirst, hlast⟩ := (Bool.and_eq_true _ _).mp hlower
      exact .inr ⟨of_decide_eq_true hfirst, of_decide_eq_true hlast⟩
  rw [isAscii, decide_eq_true_iff]
  omega

theorem isCased_of_isAlpha {c : Char} (h : c.isAlpha = true) : isCased c = true := by
  rw [isCased, if_pos (isAscii_of_isAlpha h), h]

theorem isCaseIgnorable_of_isAlpha {c : Char} (h : c.isAlpha = true) :
    isCaseIgnorable c = false := by
  have hmarks : ∀ mark ∈ ['\'', '.', ':', '^', '\x60'], mark.isAlpha = false :=
    eq_false_of_any rfl
  rw [isCaseIgnorable, if_pos (isAscii_of_isAlpha h), ← Bool.not_eq_true, List.contains_iff_mem]
  exact fun hc => absurd (hmarks c hc) (by rw [h]; decide)

theorem lowered_of_isAlpha {c : Char} (h : c.isAlpha = true) (final : Bool) :
    lowered final c = [c.toLower] := by
  have hsigma : c ≠ 'Σ' := by
    rintro rfl
    exact absurd h (by decide)
  rw [lowered, if_neg hsigma, lowerChar, if_pos (isAscii_of_isAlpha h)]

namespace SameLetter

variable {c d : Char} (h : SameLetter c d)
include h

theorem isCased_eq : isCased c = isCased d := by
  rcases h with rfl | ⟨hc, hd, -⟩
  · rfl
  · rw [isCased_of_isAlpha hc, isCased_of_isAlpha hd]

theorem isCaseIgnorable_eq : isCaseIgnorable c = isCaseIgnorable d := by
  rcases h with rfl | ⟨hc, hd, -⟩
  · rfl
  · rw [isCaseIgnorable_of_isAlpha hc, isCaseIgnorable_of_isAlpha hd]

theorem endsCased_eq (before : Bool) : endsCased before c = endsCased before d := by
  rw [endsCased, endsCased, h.isCaseIgnorable_eq, h.isCased_eq]

theorem lowered_eq (final : Bool) : lowered final c = lowered final d := by
  rcases h with rfl | ⟨hc, hd, hlower⟩
  · rfl
  · rw [lowered_of_isAlpha hc, lowered_of_isAlpha hd, hlower]

end SameLetter

theorem startsCased_eq_of_sameLetters {cs ds : List Char} (h : List.Forall₂ SameLetter cs ds) :
    startsCased cs = startsCased ds := by
  induction h with
  | nil => rfl
  | cons hletter _ ih =>
      rw [startsCased, startsCased, hletter.isCaseIgnorable_eq, hletter.isCased_eq, ih]

theorem lowerFrom_eq_of_sameLetters {cs ds : List Char} (h : List.Forall₂ SameLetter cs ds)
    (before : Bool) : lowerFrom before cs = lowerFrom before ds := by
  induction h generalizing before with
  | nil => rfl
  | cons hletter hrest ih =>
      rw [lowerFrom_cons, lowerFrom_cons, startsCased_eq_of_sameLetters hrest, hletter.lowered_eq,
        hletter.endsCased_eq, ih]

/-- Texts that differ in the case of ASCII letters only have one lower-case form. -/
theorem lower_eq_of_sameLetters {s t : String} (h : SameLetters s t) : lower s = lower t :=
  congrArg String.ofList (lowerFrom_eq_of_sameLetters h false)

end IconCompiler.Text
