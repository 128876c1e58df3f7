import IconCompiler.Toml.Printer
import Mathlib.Data.List.Basic

/-! # Texts in TOML

    A text is written in one of four forms, and each form that is chosen for a
    text can hold it (`readString?_printAs`).  Over several lines one or two quotes
    stand as they are.  So the reader comes upon quotes of the text right in front
    of the closing ones, and takes the last three of them for these
    (`readLongBasic?_escapeLong`, `readLongLiteral?_append`). -/

namespace IconCompiler.Toml

open Text

/-! ## Escapes -/

theorem length_hexPadded (count n : Nat) : (hexPadded count n).length = count := by
  induction count generalizing n with
  | zero => rfl
  | succ count ih => rw [hexPadded, List.length_append, ih, List.length_singleton]

theorem value_hexPadded : ∀ n < 0x80,
    ((hexPadded 4 n).map Char.toUpper).foldlM
      (fun n c => (hexValue? c).map (16 * n + ·)) 0 = some n := by
  decide

theorem readCode?_hexPadded {c : Char} (hc : c.toNat < 0x80) (rest : List Char) :
    readCode? 4 ((hexPadded 4 c.toNat).map Char.toUpper ++ rest) = some (c, rest) := by
  have hlength : ((hexPadded 4 c.toNat).map Char.toUpper).length = 4 := by
    rw [List.length_map, length_hexPadded]
  have hvalid : c.toNat.isValidChar := c.valid
  rw [readCode?, if_pos (by simp [hlength]), List.take_left' hlength, List.drop_left' hlength,
    value_hexPadded c.toNat hc]
  dsimp only
  rw [if_pos hvalid, Char.ofNat_toNat]

theorem escapeLetter?_spec {c letter : Char} (h : escapeLetter? c = some letter) :
    letter ≠ 'u' ∧ letter ≠ 'U' ∧ letter ≠ '\n' ∧ letter ≠ '\r' ∧ isSpace letter = false
      ∧ escapes.lookup letter = some c := by
  obtain ⟨entry, hfind, rfl⟩ := Option.map_eq_some_iff.mp h
  have hvalue : entry.2 = c := by simpa using List.find?_some hfind
  subst hvalue
  have hall : ∀ entry ∈ escapes, entry.1 ≠ 'u' ∧ entry.1 ≠ 'U' ∧ entry.1 ≠ '\n'
      ∧ entry.1 ≠ '\r' ∧ isSpace entry.1 = false ∧ escapes.lookup entry.1 = some entry.2 := by
    decide
  exact hall entry (List.mem_of_find?_eq_some hfind)

theorem ne_of_escapeLetter?_eq_none {c : Char} (h : escapeLetter? c = none) :
    c ≠ '"' ∧ c ≠ '\\' ∧ c ≠ '\n' ∧ c ≠ '\r' := by
  refine ⟨?_, ?_, ?_, ?_⟩ <;> rintro rfl <;> exact absurd h (by decide)

theorem toNat_lt_of_not_isPlain {c : Char} (h : isPlain c = false) : c.toNat < 0x80 := by
  simp only [isPlain, Bool.or_eq_false_iff, Bool.and_eq_false_iff, decide_eq_false_iff_not,
    bne_eq_false_iff_eq] at h
  omega

/-- A character is written as itself, or as an escape that stands for it and that
    no line ends in. -/
theorem escapeChar_cases (c : Char) :
    (escapeChar c = [c] ∧ isPlain c = true ∧ c ≠ '"' ∧ c ≠ '\\' ∧ c ≠ '\n' ∧ c ≠ '\r')
      ∨ ∃ escape, escapeChar c = '\\' :: escape ∧ (∀ rest, continuation? (escape ++ rest) = none)
        ∧ ∀ rest, readEscape? (escape ++ rest) = some (c, rest) := by
  rw [escapeChar]
  cases hletter : escapeLetter? c with
  | some letter =>
      obtain ⟨hu, hU, hnewline, hreturn, hspace, hlookup⟩ := escapeLetter?_spec hletter
      refine .inr ⟨[letter], rfl, ?_, ?_⟩
      · intro rest
        rw [List.singleton_append, continuation?, List.dropWhile_cons_of_neg (by simp [hspace]),
          dropNewline?.eq_def]
        split
        · next heq => exact absurd (List.cons.inj heq).1 hnewline
        · next heq => exact absurd (List.cons.inj heq).1 hreturn
        · rfl
      · intro rest
        rw [List.singleton_append, readEscape?, hlookup]
        · rfl
        · exact hu
        · exact hU
  | none =>
      obtain ⟨hquote, hslash, hnewline, hreturn⟩ := ne_of_escapeLetter?_eq_none hletter
      dsimp only
      by_cases hplain : isPlain c = true
      · exact .inl ⟨if_pos hplain, hplain, hquote, hslash, hnewline, hreturn⟩
      · refine .inr ⟨_, if_neg hplain, fun rest => rfl, fun rest => ?_⟩
        exact readCode?_hexPadded (toNat_lt_of_not_isPlain (Bool.not_eq_true _ ▸ hplain)) rest

/-- No written character begins with a quote or a line break. -/
theorem exists_escapeChar_eq_cons (c : Char) :
    ∃ first tail, escapeChar c = first :: tail ∧ first ≠ '"' ∧ first ≠ '\n' ∧ first ≠ '\r' := by
  rcases escapeChar_cases c with ⟨hchar, -, hquote, -, hnewline, hreturn⟩ | ⟨escape, hchar, -⟩
  · exact ⟨c, [], hchar, hquote, hnewline, hreturn⟩
  · exact ⟨'\\', escape, hchar, by decide⟩

/-! ## Texts on one line -/

theorem readBasic?_escapeChar (c : Char) (rest : List Char) :
    readBasic? (escapeChar c ++ rest)
      = (readBasic? rest).map fun (text, behind) => (c :: text, behind) := by
  rcases escapeChar_cases c with ⟨hchar, hplain, hquote, hslash, -, -⟩ | ⟨escape, hchar, -, hread⟩
  · rw [hchar, List.singleton_append, readBasic?, if_pos hplain]
    · exact hquote
    · exact hslash
  · rw [hchar, List.cons_append, readBasic?]
    split
    · next hnone => cases hnone.symm.trans (hread rest)
    · next hsome =>
        obtain ⟨rfl, rfl⟩ := Prod.mk.inj (Option.some.inj (hsome.symm.trans (hread rest)))
        rfl

theorem readBasic?_flatMap_escapeChar (cs rest : List Char) :
    readBasic? (cs.flatMap escapeChar ++ '"' :: rest) = some (cs, rest) := by
  induction cs with
  | nil => rw [List.flatMap_nil, List.nil_append, readBasic?]
  | cons c tail ih =>
      rw [List.flatMap_cons, List.append_assoc, readBasic?_escapeChar, ih]
      rfl

theorem readLiteral?_append {cs : List Char}
    (h : ∀ c ∈ cs, isPlain c = true ∧ c ≠ '\'') (rest : List Char) :
    readLiteral? (cs ++ '\'' :: rest) = some (cs, rest) := by
  induction cs with
  | nil => rfl
  | cons c tail ih =>
      obtain ⟨hplain, hquote⟩ := h c List.mem_cons_self
      rw [List.cons_append, readLiteral?, if_pos hplain,
        ih (fun d hd => h d (List.mem_cons_of_mem c hd))]
      · rfl
      · exact hquote

/-! ## Texts over several lines -/

/-- A text that does not begin with two quotes does not end behind one more. -/
theorem readLongBasic?_quote {cs : List Char} (h : ∀ rest, cs ≠ '"' :: '"' :: rest) :
    readLongBasic? ('"' :: cs)
      = (readLongBasic? cs).map fun (text, behind) => ('"' :: text, behind) := by
  rw [readLongBasic?]
  · exact fun rest heq => h _ heq
  · exact fun rest heq => h _ heq
  · exact fun rest heq => h _ heq

theorem readLongBasic?_char {c : Char} (hc : c = '\n' ∨ isPlain c = true) (hquote : c ≠ '"')
    (hslash : c ≠ '\\') (hreturn : c ≠ '\r') (cs : List Char) :
    readLongBasic? (c :: cs)
      = (readLongBasic? cs).map fun (text, behind) => (c :: text, behind) := by
  rw [readLongBasic?, if_pos hc]
  · exact fun _ heq _ => hquote heq
  · exact fun _ heq _ => hquote heq
  · exact fun _ heq _ => hquote heq
  · exact hquote
  · exact hslash
  · exact fun _ heq _ => hreturn heq

theorem readLongBasic?_escapeChar (c : Char) (rest : List Char) :
    readLongBasic? (escapeChar c ++ rest)
      = (readLongBasic? rest).map fun (text, behind) => (c :: text, behind) := by
  rcases escapeChar_cases c with
    ⟨hchar, hplain, hquote, hslash, -, hreturn⟩ | ⟨escape, hchar, hinside, hread⟩
  · rw [hchar, List.singleton_append]
    exact readLongBasic?_char (.inr hplain) hquote hslash hreturn rest
  · rw [hchar, List.cons_append, readLongBasic?]
    split
    · next hends => cases hends.symm.trans (hinside rest)
    · split
      · next hnone => cases hnone.symm.trans (hread rest)
      · next hsome =>
          obtain ⟨rfl, rfl⟩ := Prod.mk.inj (Option.some.inj (hsome.symm.trans (hread rest)))
          rfl

theorem escapeLong_of_ne {c : Char} (hquote : c ≠ '"') (count : Nat) (rest : List Char) :
    escapeLong count (c :: rest)
      = (if c = '\n' then ['\n'] else escapeChar c) ++ escapeLong 2 rest := by
  rw [escapeLong.eq_def]
  dsimp only
  rw [if_neg hquote]
  split <;> rfl

theorem escapeLong_quote_zero (rest : List Char) :
    escapeLong 0 ('"' :: rest) = escapeChar '"' ++ escapeLong 2 rest := rfl

theorem escapeLong_quote_succ (count : Nat) (rest : List Char) :
    escapeLong (count + 1) ('"' :: rest) = '"' :: escapeLong count rest := rfl

/-- Where no quote may stand as it is, none does. -/
theorem escapeLong_ne_quote {count : Nat} {c : Char} (h : c ≠ '"' ∨ count = 0)
    (rest more after : List Char) : escapeLong count (c :: rest) ++ more ≠ '"' :: after := by
  intro heq
  by_cases hquote : c = '"'
  · obtain rfl : count = 0 := h.resolve_left (not_not_intro hquote)
    rw [hquote, escapeLong_quote_zero] at heq
    exact absurd (List.cons.inj heq).1 (by decide)
  rw [escapeLong_of_ne hquote] at heq
  split at heq
  · exact absurd (List.cons.inj heq).1 (by decide)
  obtain ⟨first, tail, hchar, hfirst, -⟩ := exists_escapeChar_eq_cons c
  rw [hchar] at heq
  exact hfirst (List.cons.inj heq).1

/-- Two quotes do not stand at the start, unless they end the text. -/
theorem escapeLong_ne_quotes {count : Nat} (hcount : count ≤ 1) {c : Char} {rest : List Char}
    (h : c :: rest = ['"'] → count = 0) (more after : List Char) :
    escapeLong count (c :: rest) ++ more ≠ '"' :: '"' :: after := by
  by_cases hfirst : c ≠ '"' ∨ count = 0
  · exact escapeLong_ne_quote hfirst rest more _
  obtain ⟨rfl, rfl⟩ : c = '"' ∧ count = 1 := by
    simp only [not_or, not_not] at hfirst
    exact ⟨hfirst.1, by omega⟩
  intro heq
  cases rest with
  | nil => exact absurd (h rfl) (by decide)
  | cons d rest => exact escapeLong_ne_quote (.inr rfl) rest more after (List.cons.inj heq).2

/-- What is written reads back, however many quotes may still stand as they are.
    The induction is on the text; a quote that ends it is read together with the
    closing ones. -/
theorem readLongBasic?_escapeLong {behind : List Char} (hbehind : behind.head? ≠ some '"')
    {count : Nat} (hcount : count ≤ 2) (cs : List Char) :
    readLongBasic? (escapeLong count cs ++ '"' :: '"' :: '"' :: behind) = some (cs, behind) := by
  have hnot : ∀ rest, behind ≠ '"' :: rest := by
    rintro rest rfl
    exact hbehind rfl
  induction cs generalizing count with
  | nil =>
      rw [escapeLong, List.nil_append, readLongBasic?]
      · exact fun _ heq => hnot _ heq
      · exact fun _ heq => hnot _ heq
  | cons c rest ih =>
      by_cases hquote : c = '"'
      · subst hquote
        cases count with
        | zero =>
            rw [escapeLong_quote_zero, List.append_assoc, readLongBasic?_escapeChar,
              ih (Nat.le_refl 2)]
            rfl
        | succ count =>
            rw [escapeLong_quote_succ, List.cons_append]
            cases rest with
            | nil =>
                rw [escapeLong, List.nil_append, readLongBasic?]
                exact fun _ heq => hnot _ heq
            | cons d tail =>
                by_cases hlast : d :: tail = ['"'] ∧ count = 1
                · obtain ⟨hlast, rfl⟩ := hlast
                  rw [hlast, escapeLong_quote_succ, escapeLong]
                  exact readLongBasic?.eq_2 behind
                · have hcounted : d :: tail = ['"'] → count = 0 := by
                    intro hone
                    by_contra hne
                    exact hlast ⟨hone, by omega⟩
                  rw [readLongBasic?_quote (escapeLong_ne_quotes (by omega) hcounted _),
                    ih (by omega)]
                  rfl
      · rw [escapeLong_of_ne hquote, List.append_assoc]
        by_cases hnewline : c = '\n'
        · rw [if_pos hnewline, List.singleton_append,
            readLongBasic?_char (.inl rfl) (by decide) (by decide) (by decide),
            ih (Nat.le_refl 2), hnewline]
          rfl
        · rw [if_neg hnewline, readLongBasic?_escapeChar, ih (Nat.le_refl 2)]
          rfl

theorem readLongLiteral?_quote {cs : List Char} (h : ∀ rest, cs ≠ '\'' :: '\'' :: rest) :
    readLongLiteral? ('\'' :: cs)
      = (readLongLiteral? cs).map fun (text, behind) => ('\'' :: text, behind) := by
  rw [readLongLiteral?]
  · exact fun rest heq => h _ heq
  · exact fun rest heq => h _ heq
  · exact fun rest heq => h _ heq

theorem readLongLiteral?_char {c : Char} (hc : c = '\n' ∨ isPlain c = true) (hquote : c ≠ '\'')
    (cs : List Char) :
    readLongLiteral? (c :: cs)
      = (readLongLiteral? cs).map fun (text, behind) => (c :: text, behind) := by
  have hreturn : c ≠ '\r' := by
    rintro rfl
    exact absurd hc (by decide)
  rw [readLongLiteral?, if_pos hc]
  · exact fun _ heq _ => hquote heq
  · exact fun _ heq _ => hquote heq
  · exact fun _ heq _ => hquote heq
  · exact hquote
  · exact fun _ heq _ => hreturn heq

theorem of_hasTripleFrom_quote {count : Nat} {rest : List Char}
    (h : hasTripleFrom '\'' count ('\'' :: rest) = false) :
    ∃ fewer, count = fewer + 1 ∧ hasTripleFrom '\'' fewer rest = false := by
  rw [hasTripleFrom, if_pos rfl, Bool.or_eq_false_iff] at h
  cases count with
  | zero => exact absurd h.1 (by decide)
  | succ fewer => exact ⟨fewer, rfl, h.2⟩

/-- A text without three quotes in a row reads back, however many may still stand in
    front of it. -/
theorem readLongLiteral?_append {behind : List Char} (hbehind : behind.head? ≠ some '\'')
    {count : Nat} (hcount : count ≤ 2) {cs : List Char}
    (hplain : ∀ c ∈ cs, c = '\n' ∨ isPlain c = true)
    (htriple : hasTripleFrom '\'' count cs = false) :
    readLongLiteral? (cs ++ '\'' :: '\'' :: '\'' :: behind) = some (cs, behind) := by
  have hnot : ∀ rest, behind ≠ '\'' :: rest := by
    rintro rest rfl
    exact hbehind rfl
  induction cs generalizing count with
  | nil =>
      rw [List.nil_append, readLongLiteral?]
      · exact fun _ heq => hnot _ heq
      · exact fun _ heq => hnot _ heq
  | cons c rest ih =>
      have hmore : ∀ d ∈ rest, d = '\n' ∨ isPlain d = true :=
        fun d hd => hplain d (List.mem_cons_of_mem c hd)
      by_cases hquote : c = '\''
      · subst hquote
        obtain ⟨fewer, rfl, hfewer⟩ := of_hasTripleFrom_quote htriple
        rw [List.cons_append]
        by_cases hlast : rest = [] ∨ rest = ['\'']
        · rcases hlast with rfl | rfl
          · rw [List.nil_append, readLongLiteral?]
            exact fun _ heq => hnot _ heq
          · rw [List.singleton_append, readLongLiteral?]
        · rw [readLongLiteral?_quote, ih (by omega) hmore hfewer]
          · rfl
          intro after heq
          rcases rest with _ | ⟨d, _ | ⟨e, tail⟩⟩
          · exact hlast (.inl rfl)
          · exact hlast (.inr (by rw [(List.cons.inj heq).1]))
          · obtain ⟨rfl, htail⟩ := List.cons.inj heq
            obtain ⟨rfl, -⟩ := List.cons.inj htail
            obtain ⟨fewest, hfewest, htwo⟩ := of_hasTripleFrom_quote hfewer
            obtain ⟨least, hleast, -⟩ := of_hasTripleFrom_quote htwo
            omega
      · rw [hasTripleFrom, if_neg hquote] at htriple
        rw [List.cons_append, readLongLiteral?_char (hplain c List.mem_cons_self) hquote,
          ih (Nat.le_refl 2) hmore htriple]
        rfl

/-! ## All forms -/

/-- A text can be written in a form. -/
def StringForm.Holds (form : StringForm) (cs : List Char) : Prop :=
  match form with
  | .basic | .longBasic => True
  | .literal => ∀ c ∈ cs, isPlain c = true ∧ c ≠ '\''
  | .longLiteral => (∀ c ∈ cs, c = '\n' ∨ isPlain c = true) ∧ hasTriple '\'' cs = false

theorem StringForm.holds_ofText (cs : List Char) : (ofText cs).Holds cs := by
  rw [ofText]
  split
  · split <;> trivial
  · next hcontrol =>
      have hplain : ∀ c ∈ cs, c = '\n' ∨ isPlain c = true := by
        intro c hc
        have hfree := List.any_eq_false.mp (Bool.not_eq_true _ ▸ hcontrol) c hc
        simpa [isControl, or_iff_not_imp_left] using hfree
      rw [ofPlain]
      split
      · trivial
      split
      · next hfree =>
          simp only [Bool.and_eq_true, Bool.not_eq_true', List.contains_eq_mem,
            decide_eq_false_iff_not] at hfree
          intro c hc
          refine ⟨(hplain c hc).resolve_left ?_, ?_⟩
          · rintro rfl
            exact hfree.2 hc
          · rintro rfl
            exact hfree.1 hc
      split
      · trivial
      split
      · next htriple => exact ⟨hplain, by simpa using htriple⟩
      split <;> trivial

/-- The line break in front of a text over several lines is not part of it. -/
theorem dropNewline_leadingBreak {cs : List Char} {first : Char} (hreturn : first ≠ '\r')
    (hnewline : first = '\n' → '\n' ∈ cs) (tail : List Char) :
    dropNewline (leadingBreak cs ++ first :: tail) = first :: tail := by
  rw [leadingBreak]
  by_cases hbreak : '\n' ∈ cs
  · rw [if_pos (by simpa using hbreak)]
    rfl
  · rw [if_neg (by simpa using hbreak), List.nil_append, dropNewline, dropNewline?.eq_def]
    split
    · next heq => exact absurd (hnewline (List.cons.inj heq).1) hbreak
    · next heq => exact absurd (List.cons.inj heq).1 hreturn
    · rfl

theorem exists_escapeLong_eq_cons (cs more : List Char) :
    ∃ first tail, escapeLong 2 cs ++ '"' :: more = first :: tail ∧ first ≠ '\r'
      ∧ (first = '\n' → '\n' ∈ cs) := by
  cases cs with
  | nil => exact ⟨'"', more, rfl, by decide, fun heq => absurd heq (by decide)⟩
  | cons c rest =>
      by_cases hquote : c = '"'
      · rw [hquote, escapeLong_quote_succ]
        exact ⟨'"', _, rfl, by decide, fun heq => absurd heq (by decide)⟩
      rw [escapeLong_of_ne hquote]
      by_cases hnewline : c = '\n'
      · rw [if_pos hnewline, hnewline]
        exact ⟨'\n', _, rfl, by decide, fun _ => List.mem_cons_self⟩
      obtain ⟨first, tail, hchar, -, hfirst, hreturn⟩ := exists_escapeChar_eq_cons c
      rw [if_neg hnewline, hchar]
      exact ⟨first, _, rfl, hreturn, fun heq => absurd heq hfirst⟩

/-- What is written in a form that can hold the text reads back as the text. -/
theorem readString?_printAs {form : StringForm} {cs : List Char} (h : form.Holds cs)
    (rest : List Char) :
    readString? (printAs form cs ++ '\n' :: rest) = some (cs, '\n' :: rest) := by
  cases form with
  | basic =>
      have hshape : printAs .basic cs ++ '\n' :: rest
          = '"' :: (cs.flatMap escapeChar ++ '"' :: '\n' :: rest) := by
        simp [printAs]
      rw [hshape, readString?, readBasic?_flatMap_escapeChar]
      intro after heq
      cases cs with
      | nil => exact absurd (List.cons.inj (List.cons.inj heq).2).1 (by decide)
      | cons c tail =>
          obtain ⟨first, _, hchar, hfirst, -⟩ := exists_escapeChar_eq_cons c
          rw [List.flatMap_cons, hchar] at heq
          exact hfirst (List.cons.inj heq).1
  | literal =>
      have hshape : printAs .literal cs ++ '\n' :: rest
          = '\'' :: (cs ++ '\'' :: '\n' :: rest) := by
        simp [printAs]
      rw [hshape, readString?, readLiteral?_append h]
      intro after heq
      cases cs with
      | nil => exact absurd (List.cons.inj (List.cons.inj heq).2).1 (by decide)
      | cons c tail => exact (h c List.mem_cons_self).2 (List.cons.inj heq).1
  | longBasic =>
      have hshape : printAs .longBasic cs ++ '\n' :: rest = '"' :: '"' :: '"'
          :: (leadingBreak cs ++ (escapeLong 2 cs ++ '"' :: '"' :: '"' :: '\n' :: rest)) := by
        simp [printAs]
      obtain ⟨first, tail, hbody, hreturn, hnewline⟩ :=
        exists_escapeLong_eq_cons cs ('"' :: '"' :: '\n' :: rest)
      rw [hshape, readString?, hbody, dropNewline_leadingBreak hreturn hnewline, ← hbody]
      exact readLongBasic?_escapeLong (by simp) (Nat.le_refl 2) cs
  | longLiteral =>
      obtain ⟨hplain, htriple⟩ := h
      have hshape : printAs .longLiteral cs ++ '\n' :: rest = '\'' :: '\'' :: '\''
          :: (leadingBreak cs ++ (cs ++ '\'' :: '\'' :: '\'' :: '\n' :: rest)) := by
        simp [printAs]
      have hbody : dropNewline (leadingBreak cs ++ (cs ++ '\'' :: '\'' :: '\'' :: '\n' :: rest))
          = cs ++ '\'' :: '\'' :: '\'' :: '\n' :: rest := by
        cases cs with
        | nil => exact dropNewline_leadingBreak (by decide) (fun heq => absurd heq (by decide)) _
        | cons c tail =>
            refine dropNewline_leadingBreak ?_ (fun heq => heq ▸ List.mem_cons_self) _
            rintro rfl
            exact absurd (hplain _ List.mem_cons_self) (by decide)
      rw [hshape, readString?, hbody]
      exact readLongLiteral?_append (by simp) (Nat.le_refl 2) hplain htriple

theorem readString?_printText (s : String) (rest : List Char) :
    readString? (printText s ++ '\n' :: rest) = some (s.toList, '\n' :: rest) :=
  readString?_printAs (StringForm.holds_ofText s.toList) rest

end IconCompiler.Toml
