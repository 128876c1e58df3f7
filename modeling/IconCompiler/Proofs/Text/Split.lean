import IconCompiler.Text.Split
import Mathlib.Data.List.TakeWhile

/-! # Pieces of cut texts

    Texts are cut as the library does it, so the pieces hold no separator, and
    pieces without separators are found again in the text that they are joined
    to. -/

namespace IconCompiler.Text

/-- What is asked of all characters of a text is found out by looking through it. -/
theorem eq_false_of_any {p : Char → Bool} {cs : List Char} (h : cs.any p = false) :
    ∀ c ∈ cs, p c = false :=
  fun c hc => Bool.eq_false_iff.mpr (List.any_eq_false.mp h c hc)

/-- Cutting at the characters satisfying `p`, as the library does it. -/
theorem splitAtAll_eq_splitOnP (p : Char → Bool) (cs : List Char) :
    splitAtAll p cs = cs.splitOnP p := by
  induction cs with
  | nil => rfl
  | cons c rest ih =>
      rw [splitAtAll, List.splitOnP_cons_eq_if_modifyHead, ih]
      split
      · rfl
      · cases hsplit : rest.splitOnP p with
        | nil => exact absurd hsplit (List.splitOnP_ne_nil p rest)
        | cons piece pieces => rfl

theorem exists_splitAtAll_eq_cons (p : Char → Bool) (cs : List Char) :
    ∃ first pieces, splitAtAll p cs = first :: pieces := by
  rw [splitAtAll_eq_splitOnP]
  exact List.exists_cons_of_ne_nil (List.splitOnP_ne_nil p cs)

/-- No piece holds a character at which the text is cut. -/
theorem eq_false_of_mem_splitAtAll {p : Char → Bool} {cs piece : List Char} {c : Char}
    (h : piece ∈ splitAtAll p cs) (hc : c ∈ piece) : p c = false := by
  induction cs generalizing piece with
  | nil =>
      rw [List.mem_singleton.mp h] at hc
      exact absurd hc List.not_mem_nil
  | cons d rest ih =>
      rw [splitAtAll] at h
      split at h
      · rcases List.mem_cons.mp h with rfl | hrest
        · exact absurd hc List.not_mem_nil
        · exact ih hrest hc
      · next hd =>
          obtain ⟨first, pieces, hsplit⟩ := exists_splitAtAll_eq_cons p rest
          rw [hsplit] at h ih
          rcases List.mem_cons.mp h with rfl | hrest
          · rcases List.mem_cons.mp hc with rfl | hfirst
            · exact Bool.not_eq_true _ ▸ hd
            · exact ih (List.mem_cons_self ..) hfirst
          · exact ih (List.mem_cons_of_mem _ hrest) hc

theorem mem_of_mem_splitAtAll {p : Char → Bool} {cs piece : List Char} {c : Char}
    (h : piece ∈ splitAtAll p cs) (hc : c ∈ piece) : c ∈ cs := by
  induction cs generalizing piece with
  | nil =>
      rw [List.mem_singleton.mp h] at hc
      exact hc
  | cons d rest ih =>
      rw [splitAtAll] at h
      split at h
      · rcases List.mem_cons.mp h with rfl | hrest
        · exact absurd hc List.not_mem_nil
        · exact List.mem_cons_of_mem _ (ih hrest hc)
      · obtain ⟨first, pieces, hsplit⟩ := exists_splitAtAll_eq_cons p rest
        rw [hsplit] at h ih
        rcases List.mem_cons.mp h with rfl | hrest
        · rcases List.mem_cons.mp hc with rfl | hfirst
          · exact List.mem_cons_self ..
          · exact List.mem_cons_of_mem _ (ih (List.mem_cons_self ..) hfirst)
        · exact List.mem_cons_of_mem _ (ih (List.mem_cons_of_mem _ hrest) hc)

theorem splitAtAll_of_not_mem {p : Char → Bool} {cs : List Char}
    (h : ∀ c ∈ cs, p c = false) : splitAtAll p cs = [cs] := by
  induction cs with
  | nil => rfl
  | cons c rest ih =>
      have hc : ¬ p c = true := by rw [h c (List.mem_cons_self ..)]; exact Bool.false_ne_true
      rw [splitAtAll, if_neg hc, ih (fun d hd => h d (List.mem_cons_of_mem _ hd))]

theorem splitAtAll_append {p : Char → Bool} {c : Char} (hc : p c = true) (cs rest : List Char) :
    splitAtAll p (cs ++ c :: rest) = splitAtAll p cs ++ splitAtAll p rest := by
  simp only [splitAtAll_eq_splitOnP, List.splitOnP_append_cons cs rest hc]

theorem joinWith_cons_cons (separator first second : String) (texts : List String) :
    (joinWith separator (first :: second :: texts)).toList
      = first.toList ++ (separator.toList ++ (joinWith separator (second :: texts)).toList) := by
  rw [joinWith, String.intercalate_cons_cons, String.toList_append, String.toList_append,
    List.append_assoc]
  rfl

/-- Texts without separators are found again in the text they are joined to. -/
theorem splitAtAll_joinWith {p : Char → Bool} {separator : Char} (hseparator : p separator = true)
    {texts : List String} (hne : texts ≠ [])
    (h : ∀ text ∈ texts, ∀ c ∈ text.toList, p c = false) :
    splitAtAll p (joinWith (String.singleton separator) texts).toList
      = texts.map String.toList := by
  induction texts with
  | nil => exact absurd rfl hne
  | cons text rest ih =>
      obtain ⟨htext, hrest⟩ := List.forall_mem_cons.mp h
      cases rest with
      | nil =>
          rw [joinWith, String.intercalate_singleton]
          exact splitAtAll_of_not_mem htext
      | cons next more =>
          rw [joinWith_cons_cons, String.toList_singleton, List.singleton_append,
            splitAtAll_append hseparator, splitAtAll_of_not_mem htext,
            ih (List.cons_ne_nil _ _) hrest]
          rfl

/-- What follows the last separator follows the last one behind any other. -/
theorem afterLast_append {p : Char → Bool} {c : Char} (hc : p c = true) (front rest : List Char) :
    afterLast p (front ++ c :: rest) = afterLast p rest := by
  have htake : ∀ cs : List Char, (cs ++ c :: front.reverse).takeWhile (fun d => !p d)
      = cs.takeWhile fun d => !p d := by
    intro cs
    induction cs with
    | nil => exact List.takeWhile_cons_of_neg (by simp [hc])
    | cons d more ih => rw [List.cons_append, List.takeWhile_cons, List.takeWhile_cons, ih]
  rw [afterLast, afterLast, List.reverse_append, List.reverse_cons, List.append_assoc,
    List.singleton_append, htake]


theorem afterLast_of_forall {p : Char → Bool} {cs : List Char} (h : ∀ c ∈ cs, p c = false) :
    afterLast p cs = cs := by
  have htake : cs.reverse.takeWhile (fun c => !p c) = cs.reverse := by
    rw [List.takeWhile_eq_self_iff]
    intro c hc
    rw [h c (List.mem_reverse.mp hc)]
    rfl
  rw [afterLast, htake, List.reverse_reverse]

theorem eq_false_of_mem_afterLast {p : Char → Bool} {cs : List Char} {c : Char}
    (h : c ∈ afterLast p cs) : p c = false := by
  have hall := List.all_eq_true.mp (List.all_takeWhile (p := fun c => !p c) (l := cs.reverse))
  simpa using hall c (List.mem_reverse.mp h)

/-- A text with a separator goes on behind its last one. -/
theorem exists_append_afterLast {p : Char → Bool} {cs : List Char} (h : ∃ c ∈ cs, p c = true) :
    ∃ front c, p c = true ∧ cs = front ++ c :: afterLast p cs := by
  obtain ⟨c, hc, hpc⟩ := h
  have hne : cs.reverse.dropWhile (fun c => !p c) ≠ [] := by
    rw [Ne, List.dropWhile_eq_nil_iff]
    intro hall
    exact absurd (hall c (List.mem_reverse.mpr hc)) (by simp [hpc])
  obtain ⟨first, rest, hdrop⟩ := List.exists_cons_of_ne_nil hne
  refine ⟨rest.reverse, first, ?_, ?_⟩
  · have hhead := List.head_dropWhile_not (fun c => !p c) hne
    simpa [hdrop] using hhead
  · calc cs = (cs.reverse.takeWhile (fun c => !p c) ++ cs.reverse.dropWhile fun c => !p c).reverse
        := by rw [List.takeWhile_append_dropWhile, List.reverse_reverse]
      _ = rest.reverse ++ first :: afterLast p cs := by
        rw [List.reverse_append, hdrop, List.reverse_cons, List.append_assoc]
        rfl

end IconCompiler.Text
