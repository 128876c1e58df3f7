import IconCompiler.Text.Case
import IconCompiler.Text.Split

/-! # Lower-casing in context

    A stretch of a text is lower-cased like a text of its own, capital sigmas
    excepted: whether one ends a word is told by the letters around it, which may
    stand outside the stretch.  So the lower-case form of a text is that of its
    stretches, each in its context (`lowerFrom_append`), and that of a stretch
    depends on the context only through the sigmas at its ends
    (`lowerWithin_eq_iff`).  Between separators, such as slashes and stars, there is
    no context (`IsSeparator.lowerList_append_cons`). -/

namespace IconCompiler.Text

/-- Whether a capital sigma between two texts ends a word: a cased letter precedes
    it and none follows. -/
def endsWord (front behind : List Char) : Bool :=
  front.foldl endsCased false && !startsCased behind

/-- The lower-case form of `cs` in front of `behind`, where the text that precedes
    it ends in a cased letter iff `before`. -/
def lowerWithin (before : Bool) (behind : List Char) : List Char → List Char
  | [] => []
  | c :: rest =>
    (if c = 'Σ' then [if before && !startsCased (rest ++ behind) then 'ς' else 'σ']
      else lowerChar c) ++ lowerWithin (endsCased before c) behind rest

/-- The lower-case form of one character of a text, where a capital sigma ends a word
    iff `final`. -/
def lowered (final : Bool) (c : Char) : List Char :=
  if c = 'Σ' then [if final then 'ς' else 'σ'] else lowerChar c

theorem lowerFrom_cons (before : Bool) (c : Char) (rest : List Char) :
    lowerFrom before (c :: rest)
      = lowered (before && !startsCased rest) c ++ lowerFrom (endsCased before c) rest := rfl

theorem lowerWithin_cons (before : Bool) (behind : List Char) (c : Char) (rest : List Char) :
    lowerWithin before behind (c :: rest)
      = lowered (before && !startsCased (rest ++ behind)) c
        ++ lowerWithin (endsCased before c) behind rest := rfl

/-- Two stretches of a text are lower-cased one after the other. -/
theorem lowerFrom_append (before : Bool) (front behind : List Char) :
    lowerFrom before (front ++ behind)
      = lowerWithin before behind front ++ lowerFrom (front.foldl endsCased before) behind := by
  induction front generalizing before with
  | nil => rfl
  | cons c rest ih =>
      rw [List.cons_append, lowerFrom, lowerWithin, ih, List.append_assoc]
      rfl

theorem lowerFrom_eq_lowerWithin (before : Bool) (cs : List Char) :
    lowerFrom before cs = lowerWithin before [] cs := by
  have h := lowerFrom_append before cs []
  rwa [List.append_nil, lowerFrom, List.append_nil] at h

theorem lowerList_eq_lowerWithin (cs : List Char) : lowerList cs = lowerWithin false [] cs :=
  lowerFrom_eq_lowerWithin false cs

/-- Both lower-case forms of a sigma are one character long. -/
theorem length_lowerWithin (before other : Bool) (behind after cs : List Char) :
    (lowerWithin before behind cs).length = (lowerWithin other after cs).length := by
  induction cs generalizing before other with
  | nil => rfl
  | cons c rest ih =>
      rw [lowerWithin, lowerWithin, List.length_append, List.length_append, ih]
      split <;> rfl

/-- What holds around each occurrence of a character holds around the first
    character, if that is one, and around those behind it. -/
theorem forall_split_cons_iff {p : List Char → List Char → Prop} {mark c : Char}
    {cs : List Char} :
    (∀ front rest, c :: cs = front ++ mark :: rest → p front rest)
      ↔ (c = mark → p [] cs) ∧ ∀ front rest, cs = front ++ mark :: rest → p (c :: front) rest := by
  constructor
  · intro h
    refine ⟨?_, ?_⟩
    · rintro rfl
      exact h [] cs rfl
    · intro front rest hcut
      exact h (c :: front) rest (by rw [hcut, List.cons_append])
  · rintro ⟨hfirst, hothers⟩ front rest hcut
    cases front with
    | nil =>
        obtain ⟨hmark, rfl⟩ := List.cons.inj hcut
        exact hfirst hmark
    | cons d front =>
        obtain ⟨rfl, hmore⟩ := List.cons.inj hcut
        exact hothers front rest hmore

/-- In two contexts a stretch has the same lower-case form if each of its sigmas ends
    a word in both or in neither. -/
theorem lowerWithin_eq_iff (before other : Bool) (behind after cs : List Char) :
    lowerWithin before behind cs = lowerWithin other after cs
      ↔ ∀ front rest, cs = front ++ 'Σ' :: rest →
        (front.foldl endsCased before && !startsCased (rest ++ behind))
          = (front.foldl endsCased other && !startsCased (rest ++ after)) := by
  induction cs generalizing before other with
  | nil => exact iff_of_true rfl (fun front rest hcut => absurd hcut.symm (by simp))
  | cons c cs ih =>
      rw [forall_split_cons_iff, lowerWithin, lowerWithin]
      by_cases hsigma : c = 'Σ'
      · rw [if_pos hsigma, if_pos hsigma, List.singleton_append, List.singleton_append,
          List.cons.injEq, ih]
        refine and_congr_left' ?_
        rw [forall_prop_of_true hsigma, List.foldl_nil, List.foldl_nil]
        cases before && !startsCased (cs ++ behind) <;>
          cases other && !startsCased (cs ++ after) <;> decide
      · rw [if_neg hsigma, if_neg hsigma, List.append_cancel_left_eq, ih]
        exact (and_iff_right (fun h => absurd h hsigma)).symm

/-! ## Characters without a case -/

/-- A character that is not a letter with a case, and is the lower-case form of itself
    and of no other character. -/
structure IsCaseless (mark : Char) : Prop where
  isCased_eq : isCased mark = false
  lowerChar_eq : lowerChar mark = [mark]
  eq_of_mem : ∀ {c : Char}, mark ∈ lowerChar c → c = mark

/-- A character without a case that is not passed over either, so that it sets words
    apart. -/
structure IsSeparator (mark : Char) : Prop extends IsCaseless mark where
  isCaseIgnorable_eq : isCaseIgnorable mark = false

/-- A code point beyond that of a character is not a code of that character. -/
theorem ofNat_ne_of_lt {c : Char} {n : Nat} (hc : c ≠ '\x00') (h : c.toNat < n) :
    Char.ofNat n ≠ c := by
  by_cases hvalid : n.isValidChar
  · have hcode : (Char.ofNat n).toNat = n := by
      unfold Char.ofNat
      rw [dif_pos hvalid]
      rfl
    rintro rfl
    omega
  -- what is no code point stands for the character with the code zero
  · have hzero : Char.ofNat n = '\x00' := dif_neg hvalid
    rw [hzero]
    exact hc.symm

/-- What lower-casing makes of a character, unless it leaves it alone, is `a` or behind
    it. -/
theorem eq_of_mem_lowerChar {mark c : Char} (hzero : mark ≠ '\x00')
    (hfront : mark.toNat < 'a'.toNat) (h : mark ∈ lowerChar c) : c = mark := by
  rw [lowerChar] at h
  split at h
  · next hascii =>
      have hall : ∀ n : Fin 128, (Char.ofNat n).toLower = Char.ofNat n
          ∨ 'a'.toNat ≤ (Char.ofNat n).toLower.toNat := by decide
      have hthis := hall ⟨c.toNat, of_decide_eq_true hascii⟩
      rw [Char.ofNat_toNat, ← List.mem_singleton.mp h] at hthis
      exact (hthis.resolve_right (Nat.not_le_of_lt hfront)).symm
  · rw [mapCase] at h
    split at h
    · next row hrow =>
        have hbeyond : ∀ row ∈ lowerExpansions, ∀ n ∈ row.2, 'a'.toNat ≤ n := by decide
        obtain ⟨n, hn, hmark⟩ := List.mem_map.mp h
        have hlarge := hbeyond row (List.mem_of_find?_eq_some hrow) n hn
        exact absurd hmark (ofNat_ne_of_lt hzero (Nat.lt_of_lt_of_le hfront hlarge))
    · split at h
      · next n hn =>
          have hbeyond : ∀ run ∈ lowerRuns, 'a'.toNat ≤ run.target := by decide +kernel
          obtain ⟨run, hrun, happly⟩ := List.exists_of_findSome?_eq_some hn
          rw [ CaseRun.apply?] at happly
          split at happly
          · have htarget := hbeyond run hrun
            have hlarge : mark.toNat < n := by
              rw [← Option.some.inj happly]
              omega
            exact absurd (List.mem_singleton.mp h).symm (ofNat_ne_of_lt hzero hlarge)
          · cases happly
      · exact (List.mem_singleton.mp h).symm

theorem isCaseless_dot : IsCaseless '.' :=
  ⟨rfl, rfl, eq_of_mem_lowerChar (by decide) (by decide)⟩

theorem isSeparator_star : IsSeparator '*' :=
  ⟨⟨rfl, rfl, eq_of_mem_lowerChar (by decide) (by decide)⟩, rfl⟩

theorem isSeparator_of_isSlash {c : Char} (h : isSlash c = true) : IsSeparator c := by
  rw [isSlash, Bool.or_eq_true, beq_iff_eq, beq_iff_eq] at h
  rcases h with rfl | rfl
  · exact ⟨⟨rfl, rfl, eq_of_mem_lowerChar (by decide) (by decide)⟩, rfl⟩
  · exact ⟨⟨rfl, rfl, eq_of_mem_lowerChar (by decide) (by decide)⟩, rfl⟩

section

variable {mark : Char} (hmark : IsCaseless mark)
include hmark

theorem IsCaseless.lowered_eq (final : Bool) : lowered final mark = [mark] := by
  have hsigma : mark ≠ 'Σ' := by
    rintro rfl
    exact absurd hmark.isCased_eq (by decide)
  rw [lowered, if_neg hsigma, hmark.lowerChar_eq]

/-- In context too, a character without a case comes from itself only. -/
theorem IsCaseless.eq_of_mem_lowered {final : Bool} {c : Char} (h : mark ∈ lowered final c) :
    c = mark := by
  rw [lowered] at h
  split at h
  · have hcased := hmark.isCased_eq
    rw [List.mem_singleton.mp h] at hcased
    cases final <;> exact absurd hcased (by decide)
  · exact hmark.eq_of_mem h

theorem IsCaseless.mem_of_mem_lowerWithin {before : Bool} {behind cs : List Char}
    (h : mark ∈ lowerWithin before behind cs) : mark ∈ cs := by
  induction cs generalizing before with
  | nil => exact h
  | cons c rest ih =>
      rw [lowerWithin_cons, List.mem_append] at h
      rcases h with hfirst | hrest
      · exact List.mem_cons.mpr (.inl (hmark.eq_of_mem_lowered hfirst).symm)
      · exact List.mem_cons_of_mem _ (ih hrest)

end

/-! ## Separators -/

section

variable {mark : Char} (hmark : IsSeparator mark)
include hmark

theorem IsSeparator.startsCased_append_cons (front rest : List Char) :
    startsCased (front ++ mark :: rest) = startsCased front := by
  induction front with
  | nil =>
      have hfirst : startsCased (mark :: rest) = isCased mark :=
        if_neg (by rw [hmark.isCaseIgnorable_eq]; exact Bool.false_ne_true)
      exact hfirst.trans hmark.isCased_eq
  | cons c front ih => rw [List.cons_append, startsCased, startsCased, ih]

/-- What stands on both sides of a separator is lower-cased by itself. -/
theorem IsSeparator.lowerList_append_cons (front rest : List Char) :
    lowerList (front ++ mark :: rest) = lowerList front ++ mark :: lowerList rest := by
  have hfront : lowerWithin false (mark :: rest) front = lowerWithin false [] front := by
    rw [lowerWithin_eq_iff]
    intro before behind _
    rw [hmark.startsCased_append_cons, List.append_nil]
  have hends : endsCased (front.foldl endsCased false) mark = false := by
    rw [endsCased, hmark.isCaseIgnorable_eq, if_neg Bool.false_ne_true, hmark.isCased_eq]
  rw [lowerList, lowerFrom_append, hfront, ← lowerList_eq_lowerWithin, lowerFrom_cons,
    hmark.lowered_eq, hends]
  rfl

end

end IconCompiler.Text
