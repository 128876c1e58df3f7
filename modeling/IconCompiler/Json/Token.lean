import IconCompiler.Json.Value
import IconCompiler.Text.Hex

/-! # JSON tokens

    The smallest meaningful parts of a JSON document.  Words and numbers extend
    as far as their characters do, so that two of them are never taken for one. -/

namespace IconCompiler.Json

open Text

/-- A part of a document. -/
inductive Token where
  | openBracket
  | closeBracket
  | openBrace
  | closeBrace
  | comma
  | colon
  | null
  | bool (value : Bool)
  | number (digits : List Char)
  | string (literal : Literal)
  deriving DecidableEq

/-- An element of a string: a character, or half of a surrogate pair. -/
inductive Unit16 where
  | char (c : Char)
  | half (code : Nat)
  deriving DecidableEq

/-- What a sequence of elements denotes: each half has to have its partner. -/
def pairUp : List Unit16 → Option (List Char)
  | [] => some []
  | .char c :: rest => (pairUp rest).map (c :: ·)
  | .half high :: .half low :: rest =>
    if high < 0xDC00 ∧ 0xDC00 ≤ low then
      (pairUp rest).map (Char.ofNat (0x10000 + (high - 0xD800) * 0x400 + (low - 0xDC00)) :: ·)
    else none
  | .half _ :: _ => none

/-- The element with the given code. -/
def Unit16.ofCode (code : Nat) : Unit16 :=
  if 0xD800 ≤ code ∧ code < 0xE000 then .half code else .char (Char.ofNat code)

/-- The character that a backslash and a letter stand for. -/
def escapes : List (Char × Char) := [
  ('"', '"'), ('\\', '\\'), ('/', '/'), ('b', '\x08'), ('f', '\x0c'), ('n', '\n'),
  ('r', '\r'), ('t', '\t')]

/-- The number that four hexadecimal digits give. -/
def hexCode? (a b c d : Char) : Option Nat := do
  let a ← hexValue? a
  let b ← hexValue? b
  let c ← hexValue? c
  let d ← hexValue? d
  return ((a * 16 + b) * 16 + c) * 16 + d

/-- Read a string behind its opening quote, up to and including its closing
    one. -/
def readString? : List Char → Option (List Unit16 × List Char)
  | [] => none
  | '"' :: rest => some ([], rest)
  | '\\' :: 'u' :: a :: b :: c :: d :: rest => do
    let code ← hexCode? a b c d
    let (units, after) ← readString? rest
    return (.ofCode code :: units, after)
  | '\\' :: e :: rest => do
    let c ← escapes.lookup e
    let (units, after) ← readString? rest
    return (.char c :: units, after)
  | '\\' :: [] => none
  | c :: rest =>
    if c.toNat < 0x20 then none
    else do
      let (units, after) ← readString? rest
      return (.char c :: units, after)

theorem length_of_readString? {cs after : List Char} {units : List Unit16}
    (h : readString? cs = some (units, after)) : after.length ≤ cs.length := by
  fun_induction readString? cs generalizing units after with
  | case1 => simp at h
  | case2 rest =>
    cases h
    simp
  | case3 a b c d rest ih =>
    simp only [Option.bind_eq_bind, Option.bind_eq_some_iff, Option.pure_def,
      Option.some.injEq, Prod.mk.injEq, Prod.exists] at h
    obtain ⟨_, _, _, _, hr, _, rfl⟩ := h
    have := ih hr
    simp only [List.length_cons]
    omega
  | case4 e rest _ ih =>
    simp only [Option.bind_eq_bind, Option.bind_eq_some_iff, Option.pure_def,
      Option.some.injEq, Prod.mk.injEq, Prod.exists] at h
    obtain ⟨_, _, _, _, hr, _, rfl⟩ := h
    have := ih hr
    simp only [List.length_cons]
    omega
  | case5 => simp at h
  | case6 => simp at h
  | case7 c rest _ _ _ _ _ ih =>
    simp only [Option.bind_eq_bind, Option.bind_eq_some_iff, Option.pure_def,
      Option.some.injEq, Prod.mk.injEq, Prod.exists] at h
    obtain ⟨_, _, hr, _, rfl⟩ := h
    have := ih hr
    simp only [List.length_cons]
    omega

/-- Whether `c` may separate tokens. -/
def isSpace (c : Char) : Bool :=
  c == ' ' || c == '\n' || c == '\t' || c == '\r'

/-- Whether `c` may stand in a number. -/
def isNumberChar (c : Char) : Bool :=
  c.isDigit || c == '-' || c == '+' || c == '.' || c == 'e' || c == 'E'

/-- Whether `cs` starts with a digit and holds digits only. -/
def isDigits (cs : List Char) : Bool :=
  !cs.isEmpty && cs.all Char.isDigit

/-- Whether `cs` is nothing, or an exponent with its mark. -/
def isExponent : List Char → Bool
  | [] => true
  | mark :: rest =>
    (mark == 'e' || mark == 'E') &&
      match rest with
      | '+' :: digits => isDigits digits
      | '-' :: digits => isDigits digits
      | digits => isDigits digits

/-- Whether `cs` is nothing, or a fraction, an exponent, or both. -/
def isFraction : List Char → Bool
  | '.' :: rest =>
    isDigits (rest.takeWhile Char.isDigit) && isExponent (rest.dropWhile Char.isDigit)
  | rest => isExponent rest

/-- Whether `cs` is written like a number that is not negative. -/
def isUnsigned (cs : List Char) : Bool :=
  match cs with
  | '0' :: rest => isFraction rest
  | _ => isDigits (cs.takeWhile Char.isDigit) && isFraction (cs.dropWhile Char.isDigit)

/-- Whether `cs` is written like a number. -/
def isNumber : List Char → Bool
  | '-' :: rest => isUnsigned rest
  | cs => isUnsigned cs

/-- The token for a word. -/
def word? (cs : List Char) : Option Token :=
  if cs = ['n', 'u', 'l', 'l'] then some .null
  else if cs = ['t', 'r', 'u', 'e'] then some (.bool true)
  else if cs = ['f', 'a', 'l', 's', 'e'] then some (.bool false)
  else none

/-- The token for a punctuation mark. -/
def mark? (c : Char) : Option Token :=
  if c = '[' then some .openBracket
  else if c = ']' then some .closeBracket
  else if c = '\x7b' then some .openBrace
  else if c = '\x7d' then some .closeBrace
  else if c = ',' then some .comma
  else if c = ':' then some .colon
  else none

/-- Cut a document into tokens. -/
def tokens? (cs : List Char) : Option (List Token) :=
  match cs with
  | [] => some []
  | c :: rest =>
    if isSpace c then tokens? rest
    else if c = '"' then
      match h : readString? rest with
      | none => none
      | some (units, after) =>
        have := length_of_readString? h
        (tokens? after).map (.string ((pairUp units).map String.ofList) :: ·)
    else if isNumberChar c && c != 'e' && c != 'E' then
      have := (List.dropWhile_sublist isNumberChar (l := rest)).length_le
      let digits := c :: rest.takeWhile isNumberChar
      if isNumber digits then
        (tokens? (rest.dropWhile isNumberChar)).map (.number digits :: ·)
      else none
    else if c.isAlpha then
      have := (List.dropWhile_sublist Char.isAlpha (l := rest)).length_le
      match word? (c :: rest.takeWhile Char.isAlpha) with
      | none => none
      | some token => (tokens? (rest.dropWhile Char.isAlpha)).map (token :: ·)
    else
      match mark? c with
      | none => none
      | some token => (tokens? rest).map (token :: ·)
termination_by cs.length

end IconCompiler.Json
