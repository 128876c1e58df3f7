import IconCompiler.Proofs.KebabName

/-! # Runs of hyphens

    Several hyphens in a row begin one word, like a single hyphen does.  Behind a
    digit they do not: the first hyphen is written as an underscore and lets the
    word go on, and the second one begins a new word all the same.  So a name may
    be written with single hyphens if what follows a digit and several hyphens is
    its own capital, and only then (`deriveName_singleHyphens_iff`). -/

namespace IconCompiler.ItemName

open Text

/-- A text with a single hyphen in place of each run of them. -/
def singleHyphens : List Char → List Char
  | [] => []
  | c :: rest =>
    if c = '-' ∧ rest.head? = some '-' then singleHyphens rest else c :: singleHyphens rest

/-- A name with a single hyphen in place of each run of them. -/
def withSingleHyphens (name : String) : String :=
  String.ofList (singleHyphens name.toList)

/-- What follows a run of hyphens, once the first of them is read. -/
def behindHyphens (cs : List Char) : List Char :=
  cs.dropWhile (· == '-')

/-- Whatever follows a digit and several hyphens is its own capital. -/
def KeepsCase (cs : List Char) : Prop :=
  ∀ (before : List Char) (digit : Char) (behind : List Char) (c : Char),
    cs = before ++ digit :: '-' :: '-' :: behind → digit.isDigit = true →
      (behindHyphens behind).head? = some c → upperChar c = [c]

/-! ## Texts with hyphens -/

theorem behindHyphens_hyphen (rest : List Char) :
    behindHyphens ('-' :: rest) = behindHyphens rest :=
  List.dropWhile_cons_of_pos rfl

theorem behindHyphens_cons_of_ne {c : Char} (h : c ≠ '-') (rest : List Char) :
    behindHyphens (c :: rest) = c :: rest :=
  List.dropWhile_cons_of_neg (fun hhyphen => h (beq_iff_eq.mp hhyphen))

theorem behindHyphens_of_head? {cs : List Char} (h : cs.head? ≠ some '-') :
    behindHyphens cs = cs := by
  cases cs with
  | nil => rfl
  | cons c rest => exact behindHyphens_cons_of_ne (fun he => h (congrArg some he)) rest

theorem head?_behindHyphens (cs : List Char) : (behindHyphens cs).head? ≠ some '-' := by
  intro h
  have hnot := List.head?_dropWhile_not (· == '-') cs
  rw [← behindHyphens, h] at hnot
  exact absurd hnot (by decide)

theorem length_behindHyphens_le (cs : List Char) : (behindHyphens cs).length ≤ cs.length :=
  (List.dropWhile_sublist _).length_le

theorem singleHyphens_of_ne {c : Char} (h : c ≠ '-') (rest : List Char) :
    singleHyphens (c :: rest) = c :: singleHyphens rest := by
  rw [singleHyphens, if_neg (fun hboth => h hboth.1)]

/-- Of a run one hyphen is left. -/
theorem singleHyphens_hyphen (rest : List Char) :
    singleHyphens ('-' :: rest) = '-' :: singleHyphens (behindHyphens rest) := by
  induction rest with
  | nil => rfl
  | cons c rest ih =>
      rw [singleHyphens]
      by_cases hc : c = '-'
      · subst hc
        rw [if_pos ⟨rfl, rfl⟩, ih, behindHyphens_hyphen]
      · have hhead : (c :: rest).head? ≠ some '-' := fun he => hc (Option.some.inj he)
        rw [if_neg (fun hboth => hhead hboth.2), behindHyphens_cons_of_ne hc]

/-! ## Keeping the case -/

theorem keepsCase_nil : KeepsCase [] := by
  intro before digit behind c heq
  exact absurd heq.symm (by simp)

theorem keepsCase_cons_iff (c : Char) (rest : List Char) :
    KeepsCase (c :: rest)
      ↔ (c.isDigit = true → ∀ behind, rest = '-' :: '-' :: behind →
          ∀ d, (behindHyphens behind).head? = some d → upperChar d = [d])
        ∧ KeepsCase rest := by
  constructor
  · intro h
    refine ⟨?_, ?_⟩
    · rintro hdigit behind rfl d
      exact h [] c behind d rfl hdigit
    · rintro before digit behind d rfl
      exact h (c :: before) digit behind d rfl
  · rintro ⟨hfirst, hrest⟩ before digit behind d heq hdigit
    cases before with
    | nil =>
        obtain ⟨rfl, hbehind⟩ := List.cons.inj heq
        exact hfirst hdigit behind hbehind d
    | cons b before =>
        obtain ⟨-, hbehind⟩ := List.cons.inj heq
        exact hrest before digit behind d hbehind hdigit

/-- Only a digit in front of several hyphens matters. -/
theorem keepsCase_cons_of {c : Char} {rest : List Char}
    (h : c.isDigit = true → ∀ behind, rest ≠ '-' :: '-' :: behind) :
    KeepsCase (c :: rest) ↔ KeepsCase rest := by
  rw [keepsCase_cons_iff, and_iff_right]
  intro hdigit behind heq
  exact absurd heq (h hdigit behind)

theorem keepsCase_hyphen_iff (rest : List Char) : KeepsCase ('-' :: rest) ↔ KeepsCase rest :=
  keepsCase_cons_of (fun hdigit => absurd hdigit (by decide))

theorem keepsCase_behindHyphens_iff (cs : List Char) :
    KeepsCase (behindHyphens cs) ↔ KeepsCase cs := by
  induction cs with
  | nil => rfl
  | cons c rest ih =>
      by_cases hc : c = '-'
      · subst hc
        rw [behindHyphens_hyphen, ih, keepsCase_hyphen_iff]
      · rw [behindHyphens_cons_of_ne hc]

theorem keepsCase_digit_hyphens_iff {digit : Char} (hdigit : digit.isDigit = true)
    (behind : List Char) :
    KeepsCase (digit :: '-' :: '-' :: behind)
      ↔ (∀ c, (behindHyphens behind).head? = some c → upperChar c = [c])
        ∧ KeepsCase (behindHyphens behind) := by
  rw [keepsCase_cons_iff, keepsCase_hyphen_iff, keepsCase_hyphen_iff, keepsCase_behindHyphens_iff]
  refine and_congr_left' ⟨fun h => h hdigit behind rfl, ?_⟩
  rintro h - other heq
  obtain ⟨-, hrest⟩ := List.cons.inj heq
  rw [← (List.cons.inj hrest).2]
  exact h

/-! ## Capitals -/

/-- A capital is one character, or begins with another one than it is the capital of. -/
theorem upperChar_cases (c : Char) :
    (∃ d, upperChar c = [d]) ∨ ∃ d more, upperChar c = d :: more ∧ d ≠ c := by
  by_cases hascii : isAscii c = true
  · exact .inl ⟨c.toUpper, if_pos hascii⟩
  have hmap : upperChar c = mapCase upperExpansions upperRuns c := if_neg hascii
  rw [mapCase] at hmap
  cases hrow : upperExpansions.find? (fun row => row.1 == c.toNat) with
  | some row =>
      have hall : ∀ row ∈ upperExpansions, ∃ n ∈ row.2.head?, Char.ofNat n ≠ Char.ofNat row.1 := by
        decide +kernel
      obtain ⟨n, hn, hne⟩ := hall row (List.mem_of_find?_eq_some hrow)
      obtain ⟨more, hmore⟩ := List.head?_eq_some_iff.mp hn
      have hcode : row.1 = c.toNat := by simpa using List.find?_some hrow
      rw [hcode, Char.ofNat_toNat] at hne
      rw [hrow] at hmap
      dsimp only at hmap
      rw [hmore, List.map_cons] at hmap
      exact .inr ⟨_, _, hmap, hne⟩
  | none =>
      rw [hrow] at hmap
      dsimp only at hmap
      split at hmap
      · exact .inl ⟨_, hmap⟩
      · exact .inl ⟨_, hmap⟩

theorem upperChar_digit {c : Char} (h : c.isDigit = true) : upperChar c = [c] := by
  have hbounds : 48 ≤ c.toNat ∧ c.toNat ≤ 57 := by
    simpa [Char.isDigit, UInt32.le_iff_toNat_le, ← Char.toNat_val] using h
  have hall : ∀ n : Fin 10, upperChar (Char.ofNat (48 + n)) = [Char.ofNat (48 + n)] := by decide
  have hthis := hall ⟨c.toNat - 48, by omega⟩
  rwa [show 48 + (c.toNat - 48) = c.toNat by omega, Char.ofNat_toNat] at hthis

/-! ## What is derived from a run of hyphens -/

theorem deriveFrom_hyphen {cursor : Cursor} (h : cursor ≠ .afterDigit) (rest : List Char) :
    deriveFrom cursor ('-' :: rest) = deriveFrom .wordStart rest := by
  rw [deriveFrom, step_hyphen h]
  rfl

theorem deriveFrom_behindHyphens (rest : List Char) :
    deriveFrom .wordStart (behindHyphens rest) = deriveFrom .wordStart rest := by
  induction rest with
  | nil => rfl
  | cons c rest ih =>
      by_cases hc : c = '-'
      · subst hc
        rw [behindHyphens_hyphen, ih, deriveFrom_hyphen (by decide)]
      · rw [behindHyphens_cons_of_ne hc]

/-- A character other than a hyphen is written as its capital at the start of a word,
    and as it is within one. -/
theorem step_of_ne {c : Char} (h : c ≠ '-') (cursor : Cursor) :
    step cursor c = (if cursor = .wordStart then upperChar c else [c],
      if c.isDigit = true then .afterDigit else .inWord) := by
  by_cases hdigit : c.isDigit = true
  · rw [step_digit hdigit, if_pos hdigit, upperChar_digit hdigit, ite_self]
  · rw [step_other h (by simpa using hdigit), if_neg hdigit]

/-- A word goes on as a new one would begin if its first character is its own
    capital. -/
theorem inWord_eq_wordStart_iff {c : Char} (h : c ≠ '-') (first second : List Char) :
    deriveFrom .inWord (c :: first) = deriveFrom .wordStart (c :: second)
      ↔ upperChar c = [c] ∧ deriveFrom .inWord (c :: first) = deriveFrom .inWord (c :: second) := by
  have hinside : ∀ rest, deriveFrom .inWord (c :: rest)
      = c :: deriveFrom (if c.isDigit = true then .afterDigit else .inWord) rest := by
    intro rest
    rw [deriveFrom, step_of_ne h]
    rfl
  have hstart : deriveFrom .wordStart (c :: second)
      = upperChar c ++ deriveFrom (if c.isDigit = true then .afterDigit else .inWord) second := by
    rw [deriveFrom, step_of_ne h]
    rfl
  rw [hinside, hinside, hstart]
  constructor
  · intro heq
    rcases upperChar_cases c with ⟨d, hd⟩ | ⟨d, more, hmore, hne⟩
    · rw [hd, List.singleton_append] at heq
      obtain ⟨rfl, hrest⟩ := List.cons.inj heq
      exact ⟨hd, by rw [hrest]⟩
    · rw [hmore, List.cons_append] at heq
      exact absurd (List.cons.inj heq).1.symm hne
  · rintro ⟨hcapital, heq⟩
    rw [heq, hcapital]
    rfl

/-! ## Names with runs of hyphens -/

/-- With a single hyphen in front of it a text goes on as it does with several, if
    it goes on within a word as it does alone and begins with its own capital. -/
theorem deriveFrom_new_word_iff {cs : List Char} (hhead : cs.head? ≠ some '-')
    (h : deriveFrom .inWord (singleHyphens cs) = deriveFrom .inWord cs ↔ KeepsCase cs) :
    deriveFrom .inWord (singleHyphens cs) = deriveFrom .wordStart cs
      ↔ (∀ d, cs.head? = some d → upperChar d = [d]) ∧ KeepsCase cs := by
  rw [← h]
  cases cs with
  | nil => simp [singleHyphens, deriveFrom]
  | cons c rest =>
      have hc : c ≠ '-' := fun he => hhead (congrArg some he)
      rw [singleHyphens_of_ne hc, inWord_eq_wordStart_iff hc]
      simp

/-- The same behind a digit, if it holds of what follows. -/
theorem deriveFrom_afterDigit_iff {digit : Char} (hdigit : digit.isDigit = true)
    {rest : List Char}
    (ih : ∀ {cursor : Cursor} {cs : List Char}, cs.length ≤ rest.length →
      (cursor = .afterDigit → cs.head? ≠ some '-') →
        (deriveFrom cursor (singleHyphens cs) = deriveFrom cursor cs ↔ KeepsCase cs)) :
    deriveFrom .afterDigit (singleHyphens rest) = deriveFrom .afterDigit rest
      ↔ KeepsCase (digit :: rest) := by
  have hinWord : ∀ behind, deriveFrom .afterDigit ('-' :: behind)
      = '_' :: deriveFrom .inWord behind := fun _ => rfl
  by_cases hrest : rest.head? = some '-'
  · obtain ⟨behind, rfl⟩ := List.head?_eq_some_iff.mp hrest
    rw [singleHyphens_hyphen, hinWord, hinWord, List.cons.injEq, and_iff_right rfl]
    have hlength : (behindHyphens behind).length ≤ ('-' :: behind).length :=
      Nat.le_succ_of_le (length_behindHyphens_le behind)
    have hbehind := @ih .inWord _ hlength (fun he => absurd he (by decide))
    by_cases hmore : behind.head? = some '-'
    -- the second hyphen begins a new word, but the one that is left does not
    · obtain ⟨more, rfl⟩ := List.head?_eq_some_iff.mp hmore
      rw [behindHyphens_hyphen] at hbehind ⊢
      rw [deriveFrom_hyphen (by decide), ← deriveFrom_behindHyphens more,
        deriveFrom_new_word_iff (head?_behindHyphens more) hbehind,
        keepsCase_digit_hyphens_iff hdigit]
    · rw [behindHyphens_of_head? hmore] at hbehind ⊢
      rw [hbehind, keepsCase_cons_of, keepsCase_hyphen_iff]
      rintro - more heq
      exact hmore (by rw [(List.cons.inj heq).2, List.head?_cons])
  · rw [keepsCase_cons_of]
    · exact ih (Nat.le_refl _) (fun _ => hrest)
    · rintro - behind rfl
      exact hrest rfl

/-- A text without its runs of hyphens gives the same identifier if it keeps its case,
    wherever it does not go on a run behind a digit. -/
theorem deriveFrom_singleHyphens_iff {cursor : Cursor} {cs : List Char}
    (h : cursor = .afterDigit → cs.head? ≠ some '-') :
    deriveFrom cursor (singleHyphens cs) = deriveFrom cursor cs ↔ KeepsCase cs := by
  -- what stands behind a run of hyphens is shorter, but no tail of the text
  induction hn : cs.length using Nat.strongRecOn generalizing cs cursor with
  | ind n ih =>
  subst hn
  cases cs with
  | nil => exact iff_of_true rfl keepsCase_nil
  | cons c rest =>
      have hbehind : (behindHyphens rest).length < (c :: rest).length :=
        Nat.lt_succ_of_le (length_behindHyphens_le rest)
      by_cases hc : c = '-'
      · subst hc
        have hcursor : cursor ≠ .afterDigit := fun he => h he rfl
        rw [singleHyphens_hyphen, deriveFrom_hyphen hcursor, deriveFrom_hyphen hcursor,
          ← deriveFrom_behindHyphens rest, keepsCase_hyphen_iff, ← keepsCase_behindHyphens_iff]
        exact ih _ hbehind (fun he => absurd he (by decide)) rfl
      rw [singleHyphens_of_ne hc, deriveFrom, deriveFrom, step_of_ne hc]
      dsimp only
      rw [List.append_cancel_left_eq]
      by_cases hdigit : c.isDigit = true
      · rw [if_pos hdigit]
        exact deriveFrom_afterDigit_iff hdigit
          (fun hlength hcs => ih _ (Nat.lt_succ_of_le hlength) hcs rfl)
      · rw [if_neg hdigit, keepsCase_cons_of (fun he => absurd he hdigit)]
        exact ih _ (Nat.lt_succ_self _) (fun he => absurd he (by decide)) rfl

/-- A name has the same identifier with single hyphens if what follows a digit and
    several hyphens is its own capital, and only then; a hyphen in front of a name
    makes no difference. -/
theorem deriveName_singleHyphens_iff (name : String) :
    (deriveName (withSingleHyphens name) = deriveName name ↔ KeepsCase name.toList)
      ∧ deriveName ("-" ++ name) = deriveName name := by
  refine ⟨?_, ?_⟩
  · rw [deriveName, deriveName, withSingleHyphens, String.toList_ofList, String.ofList_inj]
    exact deriveFrom_singleHyphens_iff (fun he => absurd he (by decide))
  · rw [deriveName, deriveName, String.toList_append]
    exact congrArg String.ofList (deriveFrom_hyphen (by decide) name.toList)

/-- Behind a digit the second hyphen makes a capital that a single hyphen does not. -/
theorem deriveName_doubled_hyphen :
    withSingleHyphens "test-5--end" = "test-5-end" ∧ deriveName "test-5--end" = "Test5_End"
      ∧ deriveName "test-5-end" = "Test5_end" := by
  decide

end IconCompiler.ItemName
