import IconCompiler.Json.Printer
import Mathlib.Data.List.TakeWhile

/-! # How tokens are spelled

    Characters spell tokens if they are cut into just these tokens whatever
    comes behind them, as long as no number and no word goes on there
    (`Spells`).  A text is spelled by its quoted form and a natural number by
    its digits. -/

namespace IconCompiler.Json

open Text

/-- Neither a number nor a word goes on here. -/
def Ends : List Char → Prop
  | [] => True
  | c :: _ => isNumberChar c = false ∧ c.isAlpha = false

theorem Ends.append {cs rest : List Char} (h : Ends cs) (hrest : Ends rest) :
    Ends (cs ++ rest) := by
  cases cs with
  | nil => exact hrest
  | cons c tail => exact h

/-- Characters that are cut into the given tokens, whatever follows. -/
def Spells (cs : List Char) (found : List Token) : Prop :=
  ∀ rest, Ends rest → tokens? (cs ++ rest) = (tokens? rest).map (found ++ ·)

namespace Spells

variable {cs more : List Char} {found further : List Token}

theorem nil : Spells [] [] := by
  intro rest _
  rw [List.nil_append]
  cases tokens? rest <;> rfl

theorem append (h : Spells cs found) (hmore : Spells more further) (hends : Ends more) :
    Spells (cs ++ more) (found ++ further) := by
  intro rest hrest
  rw [List.append_assoc, h _ (hends.append hrest), hmore rest hrest]
  cases tokens? rest <;> simp

theorem space {c : Char} (hc : isSpace c = true) (h : Spells cs found) :
    Spells (c :: cs) found := by
  intro rest hrest
  rw [List.cons_append, tokens?, if_pos hc, h rest hrest]

theorem spaces {blank : List Char} (hblank : ∀ c ∈ blank, isSpace c = true)
    (h : Spells cs found) : Spells (blank ++ cs) found := by
  induction blank with
  | nil => exact h
  | cons c rest ih =>
      obtain ⟨hc, hrest⟩ := List.forall_mem_cons.mp hblank
      exact space hc (ih hrest)

theorem newLine (level : Nat) (h : Spells cs found) : Spells (newLine level ++ cs) found := by
  refine spaces ?_ h
  intro c hc
  rcases List.mem_cons.mp hc with rfl | hmem
  · rfl
  · rw [(List.mem_replicate.mp hmem).2]
    rfl

theorem mark {c : Char} {token : Token} (hc : mark? c = some token) (h : Spells cs found) :
    Spells (c :: cs) (token :: found) := by
  have hkind : isSpace c = false ∧ c ≠ '"' ∧ isNumberChar c = false ∧ c.isAlpha = false := by
    rw [mark?] at hc
    split at hc
    · next heq => rw [heq]; decide
    split at hc
    · next heq => rw [heq]; decide
    split at hc
    · next heq => rw [heq]; decide
    split at hc
    · next heq => rw [heq]; decide
    split at hc
    · next heq => rw [heq]; decide
    split at hc
    · next heq => rw [heq]; decide
    · exact absurd hc (by simp)
  obtain ⟨hspace, hquote, hnumber, halpha⟩ := hkind
  intro rest hrest
  rw [List.cons_append, tokens?]
  simp only [hspace, hquote, hnumber, halpha, hc, Bool.false_eq_true, Bool.false_and, if_false,
    h rest hrest]
  cases tokens? rest <;> rfl

end Spells

/-! ## Texts -/

theorem hexCode?_hexPadded : ∀ n < 0x20,
    hexPadded 4 n = ['0', '0', hexDigit (n / 16), hexDigit (n % 16)]
      ∧ hexCode? '0' '0' (hexDigit (n / 16)) (hexDigit (n % 16)) = some n := by
  decide

theorem escapeLetter?_spec {c letter : Char} (h : escapeLetter? c = some letter) :
    letter ≠ 'u' ∧ escapes.lookup letter = some c := by
  rw [escapeLetter?] at h
  split at h
  · exact absurd h (by simp)
  · obtain ⟨entry, hfind, rfl⟩ := Option.map_eq_some_iff.mp h
    have hmem := List.mem_of_find?_eq_some hfind
    have hvalue : entry.2 = c := by simpa using List.find?_some hfind
    subst hvalue
    have hall : ∀ entry ∈ escapes, entry.1 ≠ 'u' ∧ escapes.lookup entry.1 = some entry.2 := by
      decide
    exact hall entry hmem

theorem ne_of_escapeLetter?_eq_none {c : Char} (h : escapeLetter? c = none) :
    c ≠ '"' ∧ c ≠ '\\' := by
  constructor <;> rintro rfl <;> exact absurd h (by decide)

/-- A character inside a string is read back from its written form. -/
theorem readString?_escapeChar (c : Char) (rest : List Char) :
    readString? (escapeChar c ++ rest)
      = (readString? rest).map fun found => (.char c :: found.1, found.2) := by
  rw [escapeChar]
  cases hletter : escapeLetter? c with
  | some letter =>
      obtain ⟨hu, hlookup⟩ := escapeLetter?_spec hletter
      show readString? ('\\' :: letter :: rest) = _
      rw [readString?.eq_def]
      cases hread : readString? rest <;> simp [hu, hlookup, hread]
  | none =>
      obtain ⟨hquote, hslash⟩ := ne_of_escapeLetter?_eq_none hletter
      dsimp only
      by_cases hcontrol : c.toNat < 0x20
      · obtain ⟨hpadded, hcode⟩ := hexCode?_hexPadded c.toNat hcontrol
        have hchar : Unit16.ofCode c.toNat = .char c := by
          rw [Unit16.ofCode, if_neg (by omega), Char.ofNat_toNat]
        rw [if_pos hcontrol, hpadded]
        show readString? ('\\' :: 'u' :: '0' :: '0' :: _ :: _ :: rest) = _
        rw [readString?.eq_def]
        cases hread : readString? rest <;> simp [hcode, hchar, hread]
      · rw [if_neg hcontrol]
        show readString? (c :: rest) = _
        rw [readString?, if_neg hcontrol]
        · cases readString? rest <;> rfl
        · exact hquote
        · intro _ _ _ _ _ heq _
          exact hslash heq
        · intro _ _ heq _
          exact hslash heq
        · intro heq _
          exact hslash heq

theorem readString?_flatMap_escapeChar (cs rest : List Char) :
    readString? (cs.flatMap escapeChar ++ '"' :: rest) = some (cs.map .char, rest) := by
  induction cs with
  | nil => rfl
  | cons c tail ih =>
      rw [List.flatMap_cons, List.append_assoc, readString?_escapeChar, ih]
      rfl

theorem pairUp_map_char (cs : List Char) : pairUp (cs.map .char) = some cs := by
  induction cs with
  | nil => rfl
  | cons c rest ih => rw [List.map_cons, pairUp, ih]; rfl

/-- A quoted text is cut into one string that denotes the text. -/
theorem Spells.text (s : String) {cs : List Char} {found : List Token} (h : Spells cs found) :
    Spells (printText s ++ cs) (.string (some s) :: found) := by
  intro rest hrest
  have hinside := readString?_flatMap_escapeChar s.toList (cs ++ rest)
  have hshape : printText s ++ cs ++ rest
      = '"' :: (s.toList.flatMap escapeChar ++ '"' :: (cs ++ rest)) := by
    simp [printText]
  rw [hshape, tokens?, if_neg (by decide), if_pos rfl]
  split
  · next hnone => rw [hinside] at hnone; exact absurd hnone (by simp)
  · next units after hsome =>
      rw [hinside] at hsome
      obtain ⟨rfl, rfl⟩ := Prod.mk.inj (Option.some.inj hsome)
      rw [h rest hrest, pairUp_map_char]
      cases tokens? rest <;> simp

/-! ## Numbers -/

theorem isNumberChar_of_isDigit {c : Char} (h : c.isDigit = true) : isNumberChar c = true := by
  simp [isNumberChar, h]

/-- Digits that do not begin with a superfluous zero are a number. -/
theorem isNumber_of_digits {c : Char} {rest : List Char} (hc : c.isDigit = true)
    (hrest : ∀ d ∈ rest, d.isDigit = true) (hzero : c = '0' → rest = []) :
    isNumber (c :: rest) = true := by
  have hall : ∀ d ∈ c :: rest, d.isDigit = true := List.forall_mem_cons.mpr ⟨hc, hrest⟩
  have hsign : c ≠ '-' := by rintro rfl; exact absurd hc (by decide)
  have hunsigned : isUnsigned (c :: rest) = true := by
    by_cases h : c = '0'
    · subst h
      rw [hzero rfl]
      rfl
    · have htake : (c :: rest).takeWhile Char.isDigit = c :: rest := by
        rw [List.takeWhile_eq_self_iff]
        exact hall
      have hdrop : (c :: rest).dropWhile Char.isDigit = [] := by
        rw [List.dropWhile_eq_nil_iff]
        exact hall
      rw [isUnsigned]
      · rw [htake, hdrop]
        simp only [isDigits, isFraction, isExponent, List.isEmpty_cons, Bool.not_false,
          Bool.true_and, Bool.and_true, List.all_eq_true]
        exact hall
      · intro tail htail
        exact h (List.cons.inj htail).1
  rw [isNumber]
  · exact hunsigned
  · intro tail htail
    exact hsign (List.cons.inj htail).1

theorem toDigits_spec (n : Nat) :
    ∃ c rest, Nat.toDigits 10 n = c :: rest ∧ c.isDigit = true
      ∧ (∀ d ∈ rest, d.isDigit = true) ∧ (c = '0' → rest = []) := by
  have hall : ∀ d ∈ Nat.toDigits 10 n, d.isDigit = true :=
    fun d hd => Nat.isDigit_of_mem_toDigits (by decide) (by decide) hd
  have hzero : ∀ m, ∀ c rest, Nat.toDigits 10 m = c :: rest → c = '0' → rest = [] := by
    intro m
    induction m using Nat.strong_induction_on with
    | _ m ih =>
        intro c rest hdigits hc
        by_cases hlt : m < 10
        · rw [Nat.toDigits_of_lt_base hlt] at hdigits
          exact (List.cons.inj hdigits).2.symm
        -- the digits begin like those of the quotient, which is not zero
        · rw [Nat.toDigits_of_base_le (by decide) (by omega)] at hdigits
          obtain ⟨d, outer, houter⟩ := List.exists_cons_of_ne_nil
            (Nat.toDigits_ne_nil (n := m / 10) (b := 10))
          rw [houter] at hdigits
          obtain rfl : d = c := (List.cons.inj hdigits).1
          have hone := ih (m / 10) (by omega) d outer houter hc
          subst hone hc
          by_cases hsmall : m / 10 < 10
          · rw [Nat.toDigits_of_lt_base hsmall] at houter
            have := Nat.digitChar_eq_zero.mp (List.cons.inj houter).1
            omega
          · rw [Nat.toDigits_of_base_le (by decide) (by omega)] at houter
            have hlength := congrArg List.length houter
            have := Nat.length_toDigits_pos (b := 10) (n := m / 10 / 10)
            simp only [List.length_append, List.length_singleton] at hlength
            omega
  obtain ⟨c, rest, hdigits⟩ := List.exists_cons_of_ne_nil (Nat.toDigits_ne_nil (n := n) (b := 10))
  rw [hdigits] at hall
  obtain ⟨hc, hrest⟩ := List.forall_mem_cons.mp hall
  exact ⟨c, rest, hdigits, hc, hrest, hzero n c rest hdigits⟩

/-- The digits of a number are cut into one number. -/
theorem spells_toDigits (n : Nat) : Spells (Nat.toDigits 10 n) [.number (Nat.toDigits 10 n)] := by
  obtain ⟨c, tail, hdigits, hc, htail, hzero⟩ := toDigits_spec n
  have hnumber := isNumber_of_digits hc htail hzero
  have hchars : ∀ d ∈ tail, isNumberChar d = true :=
    fun d hd => isNumberChar_of_isDigit (htail d hd)
  have hkind : isSpace c = false ∧ c ≠ '"' ∧ c ≠ 'e' ∧ c ≠ 'E' := by
    refine ⟨?_, ?_, ?_, ?_⟩
    · simp only [isSpace, Bool.or_eq_false_iff, beq_eq_false_iff_ne]
      refine ⟨⟨⟨?_, ?_⟩, ?_⟩, ?_⟩ <;> (rintro rfl; exact absurd hc (by decide))
    all_goals (rintro rfl; exact absurd hc (by decide))
  obtain ⟨hspace, hquote, hlower, hupper⟩ := hkind
  intro rest hrest
  have htake : (tail ++ rest).takeWhile isNumberChar = tail := by
    rw [List.takeWhile_append_of_pos hchars]
    cases rest with
    | nil => simp
    | cons d more => simp [hrest.1]
  have hdrop : (tail ++ rest).dropWhile isNumberChar = rest := by
    rw [List.dropWhile_append_of_pos hchars]
    cases rest with
    | nil => rfl
    | cons d more => simp [hrest.1]
  rw [hdigits, List.cons_append, tokens?]
  simp only [hspace, hquote, isNumberChar_of_isDigit hc, htake, hdrop, hnumber,
    Bool.false_eq_true, if_false, if_true, Bool.true_and, bne_iff_ne, ne_eq, hlower, hupper,
    not_false_eq_true, Bool.and_eq_true, and_self]
  rfl

/-! ## Words -/

theorem spells_word {c : Char} {tail : List Char} {token : Token}
    (hword : word? (c :: tail) = some token) : Spells (c :: tail) [token] := by
  have hchars : isSpace c = false ∧ c ≠ '"' ∧ isNumberChar c = false ∧ c.isAlpha = true
      ∧ tail.all Char.isAlpha = true := by
    rw [word?] at hword
    split at hword
    · next heq => cases heq; decide
    split at hword
    · next heq => cases heq; decide
    split at hword
    · next heq => cases heq; decide
    · exact absurd hword (by simp)
  obtain ⟨hspace, hquote, hnumber, halpha, hall⟩ := hchars
  have htail := List.all_eq_true.mp hall
  intro rest hrest
  have htake : (tail ++ rest).takeWhile Char.isAlpha = tail := by
    rw [List.takeWhile_append_of_pos htail]
    cases rest with
    | nil => simp
    | cons d more => simp [hrest.2]
  have hdrop : (tail ++ rest).dropWhile Char.isAlpha = rest := by
    rw [List.dropWhile_append_of_pos htail]
    cases rest with
    | nil => rfl
    | cons d more => simp [hrest.2]
  rw [List.cons_append, tokens?]
  simp only [hspace, hquote, hnumber, halpha, htake, hdrop, hword, Bool.false_eq_true,
    Bool.false_and, if_false, if_true]
  rfl

end IconCompiler.Json
