import IconCompiler.ItemName

/-! # Identifiers of kebab-case names

    An identifier derived from a kebab-case name keeps almost all of the name.
    A hyphen between letters is told by the capital behind it, and one behind a
    digit by an underscore; only a hyphen between a letter and a digit leaves no
    trace.  So the name without these hyphens can be read off its identifier
    (`recover_deriveName`), and two names share an identifier exactly if they are
    equal without them (`deriveName_eq_iff`). -/

namespace IconCompiler.ItemName

open Text

/-- Whether `c` can stand between the hyphens of a kebab-case name. -/
def isKebabChar (c : Char) : Bool :=
  c.isLower || c.isDigit

/-- A kebab-case name: groups of letters and digits, set apart by single hyphens. -/
def IsKebab (name : String) : Prop :=
  ∃ groups : List (List Char), groups ≠ []
    ∧ (∀ group ∈ groups, group ≠ [] ∧ group.all isKebabChar = true)
    ∧ name.toList = ['-'].intercalate groups

/-- A text without the hyphens that stand between a letter and a digit;
    `afterLetter` tells whether a letter stands in front of the text. -/
def dropHidden (afterLetter : Bool) : List Char → List Char
  | [] => []
  | c :: rest =>
    if c = '-' ∧ afterLetter = true ∧ rest.head?.any Char.isDigit = true then
      dropHidden false rest
    else c :: dropHidden c.isAlpha rest

/-- A name without the hyphens that have a letter before and a digit after them. -/
def withoutHidden (name : String) : String :=
  String.ofList (dropHidden false name.toList)

/-! ## Letters and digits -/

/-- What a character of an identifier says of the name: a capital and an
    underscore tell of a hyphen. -/
def recoverChar (c : Char) : List Char :=
  if c.isUpper then ['-', c.toLower] else if c = '_' then ['-'] else [c]

/-- What holds of all 26 letters holds of a letter. -/
theorem forall_lower {p : Char → Prop} (hall : ∀ n : Fin 26, p (Char.ofNat (97 + n))) {c : Char}
    (h : c.isLower = true) : p c := by
  have hbounds : 97 ≤ c.toNat ∧ c.toNat ≤ 122 := by
    have hrange : (decide (c.val ≥ 97) && decide (c.val ≤ 122)) = true := h
    simpa [UInt32.le_iff_toNat_le, ← Char.toNat_val] using hrange
  have hthis := hall ⟨c.toNat - 97, by omega⟩
  rwa [show 97 + (c.toNat - 97) = c.toNat by omega, Char.ofNat_toNat] at hthis

theorem lower_spec {c : Char} (h : c.isLower = true) :
    c ≠ '-' ∧ c.isDigit = false ∧ c.isAlpha = true ∧ recoverChar c = [c]
      ∧ (upperChar c).flatMap recoverChar = ['-', c] :=
  forall_lower (p := fun c => c ≠ '-' ∧ c.isDigit = false ∧ c.isAlpha = true
    ∧ recoverChar c = [c] ∧ (upperChar c).flatMap recoverChar = ['-', c]) (by decide) h

theorem digit_spec {c : Char} (h : c.isDigit = true) :
    c ≠ '-' ∧ c.isAlpha = false ∧ recoverChar c = [c] := by
  have hbounds : 48 ≤ c.toNat ∧ c.toNat ≤ 57 := by
    simpa [Char.isDigit, UInt32.le_iff_toNat_le, ← Char.toNat_val] using h
  have hall : ∀ n : Fin 10, Char.ofNat (48 + n) ≠ '-' ∧ (Char.ofNat (48 + n)).isAlpha = false
      ∧ recoverChar (Char.ofNat (48 + n)) = [Char.ofNat (48 + n)] := by
    decide
  have hthis := hall ⟨c.toNat - 48, by omega⟩
  rw [show 48 + (c.toNat - 48) = c.toNat by omega, Char.ofNat_toNat] at hthis
  exact hthis

theorem lower_or_digit {c : Char} (h : isKebabChar c = true) :
    c.isLower = true ∨ c.isDigit = true :=
  (Bool.or_eq_true _ _).mp h

theorem not_lower_of_digit {c : Char} (h : c.isDigit = true) : ¬ c.isLower = true := by
  intro hlower
  rw [(lower_spec hlower).2.1] at h
  exact Bool.false_ne_true h

/-! ## One character of a name -/

theorem step_digit {c : Char} (h : c.isDigit = true) (cursor : Cursor) :
    step cursor c = ([c], .afterDigit) := by
  unfold step
  rw [if_neg (digit_spec h).1, if_pos h]

/-- A character that is neither a hyphen nor a digit is upper-cased at the start of a
    word. -/
theorem step_other {c : Char} (hhyphen : c ≠ '-') (hdigit : c.isDigit = false)
    (cursor : Cursor) :
    step cursor c = (if cursor = .wordStart then upperChar c else [c], .inWord) := by
  unfold step
  rw [if_neg hhyphen, if_neg (by rw [hdigit]; exact Bool.false_ne_true)]
  cases cursor <;> rfl

theorem step_lower {c : Char} (h : c.isLower = true) (cursor : Cursor) :
    step cursor c = (if cursor = .wordStart then upperChar c else [c], .inWord) := by
  obtain ⟨hhyphen, hdigit, -⟩ := lower_spec h
  exact step_other hhyphen hdigit cursor

theorem step_hyphen {cursor : Cursor} (h : cursor ≠ .afterDigit) :
    step cursor '-' = ([], .wordStart) := by
  cases cursor with
  | afterDigit => exact absurd rfl h
  | wordStart => rfl
  | inWord => rfl

/-- Only a digit leaves behind that a digit was read. -/
theorem isDigit_of_step {cursor : Cursor} {c : Char} (h : (step cursor c).2 = .afterDigit) :
    c.isDigit = true := by
  unfold step at h
  split at h
  · cases cursor <;> cases h
  · split at h
    · assumption
    · cases cursor <;> cases h

/-! ## Hyphens that leave no trace -/

/-- What is derived from a digit and what follows it does not depend on what
    stands in front. -/
theorem deriveFrom_of_digit {rest : List Char} (h : rest.head?.any Char.isDigit = true)
    (cursor other : Cursor) : deriveFrom cursor rest = deriveFrom other rest := by
  cases rest with
  | nil => exact absurd h Bool.false_ne_true
  | cons c rest =>
      have hdigit : c.isDigit = true := h
      rw [deriveFrom, deriveFrom, step_digit hdigit, step_digit hdigit]

theorem deriveFrom_dropHidden {afterLetter : Bool} {cursor : Cursor}
    (h : afterLetter = true → cursor ≠ .afterDigit) (cs : List Char) :
    deriveFrom cursor (dropHidden afterLetter cs) = deriveFrom cursor cs := by
  induction cs generalizing afterLetter cursor with
  | nil => rfl
  | cons c rest ih =>
      rw [dropHidden]
      by_cases hhidden : c = '-' ∧ afterLetter = true ∧ rest.head?.any Char.isDigit = true
      · rw [if_pos hhidden]
        obtain ⟨rfl, hletter, hdigit⟩ := hhidden
        rw [ih (fun hfalse => absurd hfalse Bool.false_ne_true), deriveFrom,
          step_hyphen (h hletter)]
        exact deriveFrom_of_digit hdigit cursor .wordStart
      · rw [if_neg hhidden, deriveFrom, deriveFrom]
        dsimp only
        rw [ih]
        intro halpha hafter
        rw [(digit_spec (isDigit_of_step hafter)).2.1] at halpha
        exact Bool.false_ne_true halpha

/-! ## Reading a name off its identifier -/

/-- What can follow a letter or a digit in a kebab-case name. -/
inductive KebabTail : List Char → Prop
  | nil : KebabTail []
  | cons {c : Char} {rest : List Char} : isKebabChar c = true → KebabTail rest →
      KebabTail (c :: rest)
  | hyphen {c : Char} {rest : List Char} : isKebabChar c = true → KebabTail rest →
      KebabTail ('-' :: c :: rest)

theorem KebabTail.append {front rest : List Char} (hfront : ∀ c ∈ front, isKebabChar c = true)
    (hrest : KebabTail rest) : KebabTail (front ++ rest) := by
  induction front with
  | nil => exact hrest
  | cons c front ih =>
      obtain ⟨hc, hmore⟩ := List.forall_mem_cons.mp hfront
      exact .cons hc (ih hmore)

/-- A kebab-case name begins with a letter or a digit. -/
theorem IsKebab.exists_cons {name : String} (h : IsKebab name) :
    ∃ c rest, name.toList = c :: rest ∧ isKebabChar c = true ∧ KebabTail rest := by
  obtain ⟨groups, hne, hgroups, hname⟩ := h
  rw [hname]
  clear hname
  induction groups with
  | nil => exact absurd rfl hne
  | cons group groups ih =>
      obtain ⟨⟨hnonempty, hchars⟩, hmore⟩ := List.forall_mem_cons.mp hgroups
      obtain ⟨c, front, rfl⟩ := List.exists_cons_of_ne_nil hnonempty
      obtain ⟨hc, hfront⟩ := List.forall_mem_cons.mp (List.all_eq_true.mp hchars)
      cases groups with
      | nil =>
          refine ⟨c, front, by rw [List.intercalate_singleton], hc, ?_⟩
          rw [← List.append_nil front]
          exact .append hfront .nil
      | cons next groups =>
          obtain ⟨d, rest, hd, hkebab, htail⟩ := ih (List.cons_ne_nil _ _) hmore
          refine ⟨c, front ++ '-' :: d :: rest, ?_, hc, .append hfront (.hyphen hkebab htail)⟩
          rw [List.intercalate_cons_cons, hd]
          simp

/-- What was derived, without the capitals and underscores that tell of hyphens. -/
def recoverAll (cs : List Char) : List Char :=
  cs.flatMap recoverChar

theorem recoverAll_append (front cs : List Char) :
    recoverAll (front ++ cs) = recoverAll front ++ recoverAll cs :=
  List.flatMap_append

theorem dropHidden_kebabChar {c : Char} (hc : isKebabChar c = true) (afterLetter : Bool)
    (rest : List Char) : dropHidden afterLetter (c :: rest) = c :: dropHidden c.isAlpha rest := by
  have hhyphen : c ≠ '-' := by
    rintro rfl
    exact absurd hc (by decide)
  rw [dropHidden, if_neg (fun hhidden => hhyphen hhidden.1)]

theorem dropHidden_hyphen (afterLetter : Bool) (c : Char) (rest : List Char) :
    dropHidden afterLetter ('-' :: c :: rest)
      = if afterLetter = true ∧ c.isDigit = true then dropHidden false (c :: rest)
        else '-' :: dropHidden false (c :: rest) := by
  rw [dropHidden]
  simp only [true_and]
  rfl

/-- The text `rest` is given back, wherever a word goes on in front of it. -/
def GivesBack (rest : List Char) : Prop :=
  ∀ cursor, cursor ≠ .wordStart →
    recoverAll (deriveFrom cursor rest) = dropHidden (decide (cursor = .inWord)) rest

/-- A letter or digit is given back, at the start of a word with the hyphen that
    its capital stands for. -/
theorem GivesBack.recoverAll_cons {c : Char} {rest : List Char} (h : GivesBack rest)
    (hc : isKebabChar c = true) (cursor : Cursor) :
    recoverAll (deriveFrom cursor (c :: rest))
      = (if cursor = .wordStart ∧ c.isLower = true then ['-'] else [])
        ++ dropHidden false (c :: rest) := by
  rw [dropHidden_kebabChar hc, deriveFrom]
  rcases lower_or_digit hc with hlower | hdigit
  · obtain ⟨-, -, halpha, hrecover, hcapital⟩ := lower_spec hlower
    rw [step_lower hlower, halpha]
    dsimp only
    rw [recoverAll_append, h .inWord (by decide), recoverAll]
    by_cases hstart : cursor = .wordStart
    · rw [if_pos hstart, if_pos ⟨hstart, hlower⟩, hcapital]
      rfl
    · rw [if_neg hstart, if_neg (fun hboth => hstart hboth.1), List.flatMap_singleton, hrecover]
      rfl
  · obtain ⟨-, halpha, hrecover⟩ := digit_spec hdigit
    rw [step_digit hdigit, halpha, if_neg (fun hboth => not_lower_of_digit hdigit hboth.2)]
    dsimp only
    rw [recoverAll_append, h .afterDigit (by decide), recoverAll, List.flatMap_singleton, hrecover]
    rfl

/-- Where a word goes on, its identifier gives back the text without its hidden
    hyphens. -/
theorem KebabTail.givesBack {rest : List Char} (h : KebabTail rest) : GivesBack rest := by
  induction h with
  | nil => exact fun _ _ => rfl
  | @cons c rest hc _ ih =>
      intro cursor hcursor
      rw [ih.recoverAll_cons hc, if_neg (fun hboth => hcursor hboth.1), dropHidden_kebabChar hc,
        dropHidden_kebabChar hc]
      rfl
  | @hyphen c rest hc _ ih =>
      intro cursor hcursor
      rw [deriveFrom, dropHidden_hyphen]
      cases cursor with
      | wordStart => exact absurd rfl hcursor
      -- behind a digit an underscore tells of the hyphen
      | afterDigit =>
          show recoverChar '_' ++ recoverAll (deriveFrom .inWord (c :: rest)) = _
          rw [ih.recoverAll_cons hc, if_neg (fun hboth => absurd hboth.1 (by decide)),
            if_neg (fun hhidden => absurd hhidden.1 (by decide))]
          rfl
      -- behind a letter the next capital does, if there is one
      | inWord =>
          show recoverAll (deriveFrom .wordStart (c :: rest)) = _
          rw [ih.recoverAll_cons hc]
          rcases lower_or_digit hc with hlower | hdigit
          · rw [if_pos ⟨rfl, hlower⟩, if_neg]
            · rfl
            · exact fun hhidden => not_lower_of_digit hhidden.2 hlower
          · rw [if_neg (fun hboth => not_lower_of_digit hdigit hboth.2), if_pos ⟨rfl, hdigit⟩]
            rfl

/-- The name that an identifier tells of, without its hidden hyphens. -/
def recover (identifier : String) : String :=
  String.ofList ((recoverAll identifier.toList).dropWhile (· == '-'))

/-- A kebab-case name can be read off its identifier, but for its hidden hyphens. -/
theorem recover_deriveName {name : String} (h : IsKebab name) :
    recover (deriveName name) = withoutHidden name := by
  obtain ⟨c, rest, hname, hc, htail⟩ := h.exists_cons
  have hfront : (dropHidden false (c :: rest)).dropWhile (· == '-')
      = dropHidden false (c :: rest) := by
    rw [dropHidden_kebabChar hc, List.dropWhile_cons_of_neg]
    intro hhyphen
    rw [beq_iff_eq.mp hhyphen] at hc
    exact absurd hc (by decide)
  rw [recover, deriveName, String.toList_ofList, withoutHidden, hname,
    htail.givesBack.recoverAll_cons hc]
  split
  · rw [List.singleton_append, List.dropWhile_cons_of_pos rfl, hfront]
  · rw [List.nil_append, hfront]

/-- Two kebab-case names have the same identifier exactly if they are the same
    without the hyphens that have a letter before and a digit after them. -/
theorem deriveName_eq_iff {first second : String} (hfirst : IsKebab first)
    (hsecond : IsKebab second) :
    deriveName first = deriveName second ↔ withoutHidden first = withoutHidden second := by
  constructor
  · intro h
    rw [← recover_deriveName hfirst, h, recover_deriveName hsecond]
  · intro h
    have hkept : ∀ name, deriveName name = deriveName (withoutHidden name) := by
      intro name
      rw [deriveName, deriveName, withoutHidden, String.toList_ofList, deriveFrom_dropHidden]
      exact fun hfalse => absurd hfalse Bool.false_ne_true
    rw [hkept first, h, ← hkept second]

/-- Of three names, two that differ in a hyphen in front of a digit share an
    identifier, and one that differs in a hyphen behind a digit has another. -/
theorem deriveName_eq_iff_arrow :
    IsKebab "arrow-0-1x" ∧ IsKebab "arrow0-1x" ∧ IsKebab "arrow-01x"
      ∧ deriveName "arrow-0-1x" = deriveName "arrow0-1x"
      ∧ deriveName "arrow-0-1x" ≠ deriveName "arrow-01x" := by
  have hfull : IsKebab "arrow-0-1x" :=
    ⟨[['a', 'r', 'r', 'o', 'w'], ['0'], ['1', 'x']], by decide, by decide, by decide⟩
  have hjoined : IsKebab "arrow0-1x" :=
    ⟨[['a', 'r', 'r', 'o', 'w', '0'], ['1', 'x']], by decide, by decide, by decide⟩
  have hother : IsKebab "arrow-01x" :=
    ⟨[['a', 'r', 'r', 'o', 'w'], ['0', '1', 'x']], by decide, by decide, by decide⟩
  refine ⟨hfull, hjoined, hother, ?_, ?_⟩
  · exact (deriveName_eq_iff hfull hjoined).mpr (by decide)
  · exact fun h => absurd ((deriveName_eq_iff hfull hother).mp h) (by decide)

end IconCompiler.ItemName
