import Mathlib.Algebra.Group.Nat.Defs
import IconCompiler.ItemName
import IconCompiler.Text.Hex
import IconCompiler.Text.Quoted

/-! # Tokens of source text

    A reader for generated source that knows words, marks, brackets, string
    literals and line comments.  It is a machine that takes one character at a
    time, so what it finds in a text is found in the parts of the text, one
    after the other (`scan_append`).  The main statement, `scan_quoted`, says
    that a quoted literal is read back as the text that was quoted, whatever
    characters that text is made of. -/

namespace IconCompiler.Source

open Text ItemName

/-- The kinds of brackets that enclose a part of a source text. -/
inductive Bracket where
  | round
  | square
  | curly
  deriving DecidableEq

/-- A token that is not a bracket. -/
inductive Atom where
  | word (text : String)
  | mark (c : Char)
  /-- A string literal, by the text that it denotes. -/
  | literal (text : String)
  deriving DecidableEq

/-- A token of source text. -/
inductive Token where
  | atom (atom : Atom)
  | opening (bracket : Bracket)
  | closing (bracket : Bracket)
  deriving DecidableEq

/-- What the characters read so far belong to.  Texts under way are kept with
    their last character first. -/
inductive Mode where
  | between
  | word (read : List Char)
  /-- Behind a slash, which may begin a comment. -/
  | slash
  | comment
  | literal (read : List Char)
  /-- Behind a backslash in a literal. -/
  | escape (read : List Char)
  /-- Behind the letter that announces a code point. -/
  | code (read : List Char)
  /-- Among the digits of a code point. -/
  | digits (read code : List Char)
  deriving DecidableEq

/-- Whether `c` only separates tokens. -/
def isGap (c : Char) : Bool :=
  c == ' ' || c == '\n' || c == '\t' || c == '\r'

/-- The token that `c` is on its own. -/
def single (c : Char) : Token :=
  if c = '(' then .opening .round
  else if c = ')' then .closing .round
  else if c = '[' then .opening .square
  else if c = ']' then .closing .square
  else if c = '\x7b' then .opening .curly
  else if c = '\x7d' then .closing .curly
  else .atom (.mark c)

/-- What `c` gives where no token is under way. -/
def begin (c : Char) : List Token × Mode :=
  if isGap c then ([], .between)
  else if isWordChar c then ([], .word [c])
  else if c = '"' then ([], .literal [])
  else if c = '/' then ([], .slash)
  else ([single c], .between)

/-- The character that a backslash and a letter stand for. -/
def escaped? (letter : Char) : Option Char :=
  if letter = 'n' then some '\n'
  else if letter = 'r' then some '\r'
  else if letter = 't' then some '\t'
  else if letter = '0' then some '\x00'
  else if letter = '"' then some '"'
  else if letter = '\\' then some '\\'
  else none

/-- The number that hexadecimal digits denote. -/
def hexNumber? (digits : List Char) : Option Nat :=
  digits.foldlM (fun n c => (hexValue? c).map (16 * n + ·)) 0

/-- The character of a code point that is written with one to six digits. -/
def codePoint? (digits : List Char) : Option Char :=
  if digits = [] ∨ 6 < digits.length then none
  else
    match hexNumber? digits with
    | some n => if n.isValidChar then some (Char.ofNat n) else none
    | none => none

/-- Read one character: the tokens that it completes, and the mode behind it.
    There is none where a literal breaks the rules of its escapes. -/
def step : Mode → Char → Option (List Token × Mode)
  | .between, c => some (begin c)
  | .word read, c =>
    if isWordChar c then some ([], .word (c :: read))
    else
      let (found, next) := begin c
      some (.atom (.word (String.ofList read.reverse)) :: found, next)
  | .slash, c =>
    if c = '/' then some ([], .comment)
    else
      let (found, next) := begin c
      some (.atom (.mark '/') :: found, next)
  | .comment, c => some ([], if c = '\n' then .between else .comment)
  | .literal read, c =>
    if c = '"' then some ([.atom (.literal (String.ofList read.reverse))], .between)
    else if c = '\\' then some ([], .escape read)
    else some ([], .literal (c :: read))
  | .escape read, c =>
    if c = 'u' then some ([], .code read)
    else (escaped? c).map fun value => ([], .literal (value :: read))
  | .code read, c => if c = '\x7b' then some ([], .digits read []) else none
  | .digits read code, c =>
    if c = '\x7d' then
      (codePoint? code.reverse).map fun value => ([], .literal (value :: read))
    else some ([], .digits read (c :: code))

/-- Read a text: the tokens that end in it, and the mode behind it. -/
def scan : Mode → List Char → Option (List Token × Mode)
  | mode, [] => some ([], mode)
  | mode, c :: rest =>
    (step mode c).bind fun (found, next) =>
      (scan next rest).map fun (more, last) => (found ++ more, last)

/-- The tokens of a source text, which ends outside of literals. -/
def tokens? (text : String) : Option (List Token) :=
  match scan .between text.toList with
  | some (found, .between) => some found
  | _ => none

/-! ## Reading a text in parts -/

@[simp] theorem scan_nil (mode : Mode) : scan mode [] = some ([], mode) := rfl

theorem scan_cons (mode : Mode) (c : Char) (rest : List Char) :
    scan mode (c :: rest)
      = (step mode c).bind fun (found, next) =>
          (scan next rest).map fun (more, last) => (found ++ more, last) := rfl

theorem scan_cons_of {mode next : Mode} {c : Char} {found : List Token}
    (h : step mode c = some (found, next)) (rest : List Char) :
    scan mode (c :: rest)
      = (scan next rest).map fun (more, last) => (found ++ more, last) := by
  rw [scan_cons, h]
  rfl

/-- What a text gives is what its parts give, one after the other. -/
theorem scan_append (mode : Mode) (first second : List Char) :
    scan mode (first ++ second)
      = (scan mode first).bind fun (found, next) =>
          (scan next second).map fun (more, last) => (found ++ more, last) := by
  -- the mode changes with every character, so the statement is for any mode
  induction first generalizing mode with
  | nil =>
      show scan mode second = (scan mode second).map fun (more, last) => ([] ++ more, last)
      cases scan mode second <;> rfl
  | cons c rest ih =>
      rw [List.cons_append, scan_cons, scan_cons]
      cases step mode c with
      | none => rfl
      | some p =>
          obtain ⟨found, next⟩ := p
          simp only [Option.bind_some, ih]
          cases scan next rest with
          | none => rfl
          | some q =>
              obtain ⟨more, middle⟩ := q
              cases hs : scan middle second <;> simp [hs]

theorem scan_append_of {mode middle : Mode} {first second : List Char} {found : List Token}
    (h : scan mode first = some (found, middle)) :
    scan mode (first ++ second)
      = (scan middle second).map fun (more, last) => (found ++ more, last) := by
  rw [scan_append, h]
  rfl

theorem scan_append_eq {mode middle last : Mode} {first second : List Char}
    {found more : List Token} (h₁ : scan mode first = some (found, middle))
    (h₂ : scan middle second = some (more, last)) :
    scan mode (first ++ second) = some (found ++ more, last) := by
  rw [scan_append_of h₁, h₂]
  rfl

/-! ## Words -/

/-- Word characters go on with the word that is under way. -/
theorem scan_word_from (read : List Char) {cs : List Char} (h : ∀ c ∈ cs, isWordChar c = true) :
    scan (.word read) cs = some ([], .word (cs.reverse ++ read)) := by
  induction cs generalizing read with
  | nil => rfl
  | cons c rest ih =>
      have hc : isWordChar c = true := h c (List.mem_cons_self ..)
      have hrest : ∀ d ∈ rest, isWordChar d = true :=
        fun d hd => h d (List.mem_cons_of_mem _ hd)
      have hstep : step (.word read) c = some ([], .word (c :: read)) := if_pos hc
      rw [scan_cons_of hstep, ih (c :: read) hrest]
      simp

theorem isGap_of_isWordChar {c : Char} (h : isWordChar c = true) : isGap c = false := by
  cases hg : isGap c with
  | false => rfl
  | true =>
      simp only [isGap, Bool.or_eq_true, beq_iff_eq] at hg
      rcases hg with ((rfl | rfl) | rfl) | rfl <;> exact absurd h (by decide)

theorem scan_word {cs : List Char} (hne : cs ≠ []) (h : ∀ c ∈ cs, isWordChar c = true) :
    scan .between cs = some ([], .word cs.reverse) := by
  cases cs with
  | nil => exact absurd rfl hne
  | cons c rest =>
      have hc : isWordChar c = true := h c (List.mem_cons_self ..)
      have hstep : step .between c = some ([], .word [c]) := by
        show some (begin c) = _
        rw [begin, isGap_of_isWordChar hc, if_neg Bool.false_ne_true, if_pos hc]
      rw [scan_cons_of hstep,
        scan_word_from [c] (fun d hd => h d (List.mem_cons_of_mem _ hd))]
      simp

/-! ## Code points -/

theorem hexValue?_hexDigit : ∀ n < 16, hexValue? (hexDigit n) = some n := by
  decide

/-- The digits of a number denote that number. -/
theorem hexNumber?_hexDigits (n : Nat) : hexNumber? (hexDigits n) = some n := by
  fun_induction hexDigits n with
  | case1 n hlt =>
      simp [hexNumber?, hexValue?_hexDigit n hlt]
  | case2 n hge ih =>
      -- all digits but the last denote the quotient, and the last one the remainder
      have hlt : n % 16 < 16 := Nat.mod_lt _ (by decide)
      rw [hexNumber?, List.foldlM_append, show List.foldlM _ 0 (hexDigits (n / 16)) = _ from ih]
      simp [hexValue?_hexDigit _ hlt]
      omega

theorem exists_of_mem_hexDigits (n : Nat) : ∀ c ∈ hexDigits n, ∃ k < 16, c = hexDigit k := by
  fun_induction hexDigits n with
  | case1 n hlt =>
      intro c hc
      exact ⟨n, hlt, List.mem_singleton.mp hc⟩
  | case2 n hge ih =>
      intro c hc
      rcases List.mem_append.mp hc with hfront | hlast
      · exact ih c hfront
      · exact ⟨n % 16, Nat.mod_lt _ (by decide), List.mem_singleton.mp hlast⟩

theorem hexDigit_ne : ∀ n < 16, hexDigit n ≠ '\x7d' ∧ hexDigit n ≠ '\n' := by
  decide

theorem hexDigits_ne_nil (n : Nat) : hexDigits n ≠ [] := by
  rw [hexDigits]
  split <;> simp

theorem length_hexDigits_le (k : Nat) :
    ∀ n < 16 ^ (k + 1), (hexDigits n).length ≤ k + 1 := by
  induction k with
  | zero =>
      intro n hn
      rw [hexDigits, if_pos (by omega)]
      simp
  | succ k ih =>
      intro n hn
      rw [hexDigits]
      split
      · simp
      · have hdiv : n / 16 < 16 ^ (k + 1) := by
          rw [Nat.div_lt_iff_lt_mul (by decide)]
          omega
        have := ih (n / 16) hdiv
        simp only [List.length_append, List.length_singleton]
        omega

theorem codePoint?_hexDigits (c : Char) : codePoint? (hexDigits c.toNat) = some c := by
  have hvalid : c.toNat.isValidChar := c.valid
  -- no code point needs a seventh digit
  have hmax : c.toNat < 16 ^ 6 := by
    rcases hvalid with h | ⟨_, h⟩ <;> omega
  have hlen : ¬ (hexDigits c.toNat = [] ∨ 6 < (hexDigits c.toNat).length) := by
    rintro (hnil | hlong)
    · exact hexDigits_ne_nil _ hnil
    · have := length_hexDigits_le 5 _ hmax
      omega
  rw [codePoint?, if_neg hlen, hexNumber?_hexDigits]
  simp [hvalid]

/-! ## Literals -/

theorem scan_digits (read code : List Char) {cs : List Char} (h : ∀ c ∈ cs, c ≠ '\x7d') :
    scan (.digits read code) cs = some ([], .digits read (cs.reverse ++ code)) := by
  induction cs generalizing code with
  | nil => rfl
  | cons c rest ih =>
      have hstep : step (.digits read code) c = some ([], .digits read (c :: code)) :=
        if_neg (h c (List.mem_cons_self ..))
      rw [scan_cons_of hstep, ih (c :: code) (fun d hd => h d (List.mem_cons_of_mem _ hd))]
      simp

theorem scan_codePoint (read : List Char) (c : Char) :
    scan (.literal read) (['\\', 'u', '\x7b'] ++ hexDigits c.toNat ++ ['\x7d'])
      = some ([], .literal (c :: read)) := by
  have hopen : scan (.literal read) ['\\', 'u', '\x7b'] = some ([], .digits read []) := rfl
  have hbrace : ∀ d ∈ hexDigits c.toNat, d ≠ '\x7d' := by
    intro d hd
    obtain ⟨k, hk, rfl⟩ := exists_of_mem_hexDigits c.toNat d hd
    exact (hexDigit_ne k hk).1
  have hdigits := scan_digits read [] hbrace
  have hclose : scan (.digits read ((hexDigits c.toNat).reverse ++ [])) ['\x7d']
      = some ([], .literal (c :: read)) := by
    simp [scan_cons, step, codePoint?_hexDigits]
  exact scan_append_eq (scan_append_eq hopen hdigits) hclose

/-- A character of a literal is read back from its written form. -/
theorem scan_quoteChar (read : List Char) (c : Char) :
    scan (.literal read) (quoteChar c) = some ([], .literal (c :: read)) := by
  by_cases hc : c ∈ quoteLetters.map Prod.fst
  -- the characters with a letter of their own
  · simp only [quoteLetters, List.map_cons, List.map_nil, List.mem_cons, List.not_mem_nil,
      or_false] at hc
    rcases hc with rfl | rfl | rfl | rfl | rfl | rfl <;> rfl
  -- the others stand for themselves if they are visible, and by code point if not
  · have hnone : quoteLetters.lookup c = none := by
      rw [List.lookup_eq_none_iff]
      intro entry hentry
      have hne : c ≠ entry.1 := fun he => hc (he ▸ List.mem_map_of_mem hentry)
      simpa using hne
    have hplain : c ≠ '"' ∧ c ≠ '\\' := by
      constructor <;> rintro rfl <;> exact hc (by decide)
    rw [quoteChar, hnone]
    by_cases hv : isVisible c = true
    · have hstep : step (.literal read) c = some ([], .literal (c :: read)) := by
        simp [step, hplain]
      rw [if_pos hv, scan_cons_of hstep]
      rfl
    · rw [if_neg hv]
      exact scan_codePoint read c

/-- The inside of a literal is read back as the text it was written for. -/
theorem scan_flatMap_quoteChar (read cs : List Char) :
    scan (.literal read) (cs.flatMap quoteChar) = some ([], .literal (cs.reverse ++ read)) := by
  induction cs generalizing read with
  | nil => rfl
  | cons c rest ih =>
      rw [List.flatMap_cons, scan_append_eq (scan_quoteChar read c) (ih (c :: read))]
      simp

theorem newline_not_mem_quoteChar (c : Char) : '\n' ∉ quoteChar c := by
  rw [quoteChar]
  split
  · next letter hletter =>
      intro hmem
      have hn : '\n' = letter := by simpa using hmem
      have hpair : (c, letter) ∈ quoteLetters := by
        obtain ⟨before, after, heq, -⟩ := List.lookup_eq_some_iff.mp hletter
        rw [heq]
        simp
      have hall : ∀ entry ∈ quoteLetters, entry.2 ≠ '\n' := by decide
      exact hall _ hpair hn.symm
  · by_cases hv : isVisible c = true
    · rw [if_pos hv]
      intro hmem
      rw [← List.mem_singleton.mp hmem] at hv
      exact absurd hv (by decide)
    · rw [if_neg hv]
      intro hmem
      have hdigit : '\n' ∈ hexDigits c.toNat := by simpa using hmem
      obtain ⟨k, hk, heq⟩ := exists_of_mem_hexDigits c.toNat _ hdigit
      exact (hexDigit_ne k hk).2 heq.symm

theorem newline_not_mem_quoted (text : String) : '\n' ∉ (quoted text).toList := by
  rw [quoted, String.toList_ofList]
  intro hmem
  have hinside : '\n' ∈ text.toList.flatMap quoteChar := by simpa using hmem
  obtain ⟨c, -, hc⟩ := List.mem_flatMap.mp hinside
  exact newline_not_mem_quoteChar c hc

/-- A quoted text is read as one literal that denotes the text. -/
theorem scan_quoted (text : String) :
    scan .between (quoted text).toList = some ([.atom (.literal text)], .between) := by
  have hopen : scan .between ['"'] = some ([], .literal []) := rfl
  have hinside := scan_flatMap_quoteChar [] text.toList
  have hclose : scan (.literal (text.toList.reverse ++ [])) ['"']
      = some ([.atom (.literal text)], .between) := by
    simp [scan_cons, step]
  rw [quoted, String.toList_ofList]
  exact scan_append_eq hopen (scan_append_eq hinside hclose)

end IconCompiler.Source
