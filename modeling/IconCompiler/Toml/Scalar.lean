import IconCompiler.Toml.Literal
import IconCompiler.Toml.Value

/-! # TOML scalars

    Booleans, numbers and dates are written without quotes.  Such a scalar
    extends as far as its characters do; only a date and a time of day may have
    a blank between them. -/

namespace IconCompiler.Toml

open Text

/-- Whether `c` may stand in a scalar. -/
def isScalarChar (c : Char) : Bool :=
  c.isAlphanum || c == '+' || c == '-' || c == '.' || c == '_' || c == ':'

/-- The digits with which a number goes on, and what follows.  A single
    underscore may stand between two digits and is dropped. -/
def moreDigits (p : Char → Bool) : List Char → List Char × List Char
  | '_' :: c :: rest =>
    if p c then
      let (digits, after) := moreDigits p rest
      (c :: digits, after)
    else ([], '_' :: c :: rest)
  | c :: rest =>
    if p c then
      let (digits, after) := moreDigits p rest
      (c :: digits, after)
    else ([], c :: rest)
  | [] => ([], [])

/-- One or more digits, and what follows. -/
def digits? (p : Char → Bool) : List Char → Option (List Char × List Char)
  | c :: rest =>
    if p c then
      let (digits, after) := moreDigits p rest
      some (c :: digits, after)
    else none
  | [] => none

/-- The digits of a decimal number without leading zeros, and what follows. -/
def wholeDigits? : List Char → Option (List Char × List Char)
  | '0' :: rest => some (['0'], rest)
  | cs => digits? Char.isDigit cs

/-- The number that digits give. -/
def number (radix : Nat) (digits : List Char) : Nat :=
  digits.foldl (fun n c => radix * n + (hexValue? c).getD 0) 0

/-- Whether a number is negative, and what follows its sign. -/
def splitSign : List Char → Bool × List Char
  | '-' :: rest => (true, rest)
  | '+' :: rest => (false, rest)
  | cs => (false, cs)

/-- Integers below this bound can be kept, and their negatives. -/
def integerBound : Nat := Nat.pow 2 63

/-- Whether `c` is a hexadecimal digit. -/
def isHexDigit (c : Char) : Bool :=
  (hexValue? c).isSome

/-- The integer that digits of a radix give. -/
def radixInteger? (radix : Nat) (p : Char → Bool) (cs : List Char) : Option Int :=
  match digits? p cs with
  | some (digits, []) =>
    if number radix digits < integerBound then some (number radix digits) else none
  | _ => none

/-- The integer that is written in decimal digits. -/
def decimalInteger? (cs : List Char) : Option Int :=
  let (negative, body) := splitSign cs
  match wholeDigits? body with
  | some (digits, []) =>
    let n := number 10 digits
    if negative then if n ≤ integerBound then some (-n) else none
    else if n < integerBound then some n else none
  | _ => none

/-- The integer that `cs` is written as. -/
def integer? : List Char → Option Int
  | '0' :: 'x' :: rest => radixInteger? 16 isHexDigit rest
  | '0' :: 'o' :: rest => radixInteger? 8 (fun c => '0' ≤ c && c ≤ '7') rest
  | '0' :: 'b' :: rest => radixInteger? 2 (fun c => c == '0' || c == '1') rest
  | cs => decimalInteger? cs

/-- The exponent that `cs` is written as. -/
def exponent? : List Char → Option Int
  | [] => none
  | mark :: rest =>
    if mark = 'e' ∨ mark = 'E' then
      let (negative, body) := splitSign rest
      match digits? Char.isDigit body with
      | some (digits, []) => some (if negative then -(number 10 digits : Int) else number 10 digits)
      | _ => none
    else none

/-- The fraction and the exponent behind the whole digits of a number. -/
def fraction? : List Char → Option (List Char × Int)
  | '.' :: rest =>
    match digits? Char.isDigit rest with
    | some (digits, []) => some (digits, 0)
    | some (digits, after) => (exponent? after).map fun e => (digits, e)
    | none => none
  | cs => (exponent? cs).map fun e => ([], e)

/-- The least number that is nearer to 2 ^ 1024 than to the largest number of
    double precision. -/
def overflowBound : Nat := Nat.pow 2 1024 - Nat.pow 2 970

/-- Whether the number with these digits, times ten to the `exponent`, is too
    large for double precision. -/
def overflows (digits : List Char) (exponent : Int) : Bool :=
  let significant := digits.dropWhile (· == '0')
  let magnitude := (significant.length : Int) + exponent
  if significant = [] ∨ magnitude < 300 then false
  else if 400 < magnitude then true
  else if 0 ≤ exponent then
    overflowBound ≤ number 10 significant * Nat.pow 10 exponent.toNat
  else overflowBound * Nat.pow 10 (-exponent).toNat ≤ number 10 significant

/-- Whether `cs` is written as a number with a fraction or an exponent, or as
    one of the special numbers.  A positive number must not be too large. -/
def isFloat (cs : List Char) : Bool :=
  let (negative, body) := splitSign cs
  if body = ['i', 'n', 'f'] ∨ body = ['n', 'a', 'n'] then true
  else
    match wholeDigits? body with
    | none => false
    | some (whole, after) =>
      match fraction? after with
      | none => false
      | some (fraction, exponent) =>
        negative || !overflows (whole ++ fraction) (exponent - fraction.length)

/-- A number of two digits, and what follows. -/
def twoDigits? : List Char → Option (Nat × List Char)
  | a :: b :: rest =>
    if a.isDigit && b.isDigit then some (number 10 [a, b], rest) else none
  | _ => none

/-- How many days a month has. -/
def daysIn (year month : Nat) : Nat :=
  if month = 2 then
    if year % 4 = 0 ∧ (year % 100 ≠ 0 ∨ year % 400 = 0) then 29 else 28
  else if month = 4 ∨ month = 6 ∨ month = 9 ∨ month = 11 then 30
  else 31

/-- What follows a date. -/
def dropDate? (cs : List Char) : Option (List Char) := do
  let (century, cs) ← twoDigits? cs
  let (year, cs) ← twoDigits? cs
  let '-' :: cs := cs | none
  let (month, cs) ← twoDigits? cs
  let '-' :: cs := cs | none
  let (day, cs) ← twoDigits? cs
  if 1 ≤ month ∧ month ≤ 12 ∧ 1 ≤ day ∧ day ≤ daysIn (100 * century + year) month then some cs
  else none

/-- What follows a fraction of a second, which need not be there. -/
def dropSecondFraction : List Char → List Char
  | '.' :: c :: rest => if c.isDigit then rest.dropWhile Char.isDigit else '.' :: c :: rest
  | cs => cs

/-- What follows a time of day. -/
def dropTime? (cs : List Char) : Option (List Char) := do
  let (hour, cs) ← twoDigits? cs
  let ':' :: cs := cs | none
  let (minute, cs) ← twoDigits? cs
  let ':' :: cs := cs | none
  let (second, cs) ← twoDigits? cs
  if hour ≤ 23 ∧ minute ≤ 59 ∧ second ≤ 60 then some (dropSecondFraction cs) else none

/-- Whether `cs` is nothing, or an offset from universal time. -/
def isOffset : List Char → Bool
  | [] => true
  | ['Z'] | ['z'] => true
  | sign :: cs =>
    (sign == '+' || sign == '-') &&
      match twoDigits? cs with
      | some (hour, ':' :: rest) =>
        match twoDigits? rest with
        | some (minute, []) => hour ≤ 23 && minute ≤ 59
        | _ => false
      | _ => false

/-- Whether `cs` is a time of day, with or without an offset. -/
def isOffsetTime (cs : List Char) : Bool :=
  match dropTime? cs with
  | some rest => isOffset rest
  | none => false

/-- Whether `cs` is a date, a time of day, or both with a letter between. -/
def isDatetime (cs : List Char) : Bool :=
  match dropDate? cs with
  | some [] => true
  | some (mark :: rest) => (mark == 'T' || mark == 't') && isOffsetTime rest
  | none => dropTime? cs == some []

/-- The scalar that `cs` is written as. -/
def classify? (cs : List Char) : Option Value :=
  if cs = ['t', 'r', 'u', 'e'] then some (.boolean true)
  else if cs = ['f', 'a', 'l', 's', 'e'] then some (.boolean false)
  else if isDatetime cs then some (.datetime (String.ofList cs))
  else if isFloat cs then some (.float (String.ofList cs))
  else (integer? cs).map .integer

/-- The time of day behind a date and a blank, and what follows. -/
def spacedTime? (date : List Char) : List Char → Option (List Char × List Char)
  | ' ' :: rest =>
    if dropDate? date = some [] ∧ rest.takeWhile isScalarChar ≠ [] then
      some (rest.takeWhile isScalarChar, rest.dropWhile isScalarChar)
    else none
  | _ => none

/-- Read a scalar. -/
def readScalar? (cs : List Char) : Option (Value × List Char) :=
  let run := cs.takeWhile isScalarChar
  let rest := cs.dropWhile isScalarChar
  match spacedTime? run rest with
  | some (time, after) =>
    if isOffsetTime time then some (.datetime (String.ofList (run ++ ' ' :: time)), after) else none
  | none => (classify? run).map fun value => (value, rest)

theorem classify?_nil : classify? [] = none := by
  simp [classify?, isDatetime, isFloat, integer?, decimalInteger?, dropDate?, dropTime?,
    twoDigits?, splitSign, wholeDigits?, digits?]

theorem length_dropWhile_lt {p : Char → Bool} {cs : List Char} (h : cs.takeWhile p ≠ []) :
    (cs.dropWhile p).length < cs.length := by
  have h₁ := congrArg List.length (List.takeWhile_append_dropWhile (p := p) (l := cs))
  have h₂ := List.length_pos_iff.2 h
  simp only [List.length_append] at h₁
  omega

theorem length_of_readScalar? {cs after : List Char} {value : Value}
    (h : readScalar? cs = some (value, after)) : after.length < cs.length := by
  rw [readScalar?.eq_def] at h
  simp only at h
  split at h
  · next time behind hs =>
    split at h
    · simp only [Option.some.injEq, Prod.mk.injEq] at h
      rw [spacedTime?.eq_def] at hs
      split at hs
      · next rest hd =>
        split at hs
        · next hc =>
          simp only [Option.some.injEq, Prod.mk.injEq] at hs
          have h₁ := length_dropWhile_lt hc.2
          have h₂ := length_dropWhile_le isScalarChar cs
          rw [hd, List.length_cons] at h₂
          rw [← h.2, ← hs.2]
          omega
        · simp at hs
      · simp at hs
    · simp at h
  · cases hc : classify? (cs.takeWhile isScalarChar) with
    | none => simp [hc] at h
    | some found =>
      simp only [hc, Option.map_some, Option.some.injEq, Prod.mk.injEq] at h
      have : cs.takeWhile isScalarChar ≠ [] := by
        intro e
        rw [e, classify?_nil] at hc
        simp at hc
      rw [← h.2]
      exact length_dropWhile_lt this

end IconCompiler.Toml
