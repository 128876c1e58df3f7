import IconCompiler.Markup.Lexeme
import IconCompiler.Text.Hex

/-! # References

    An ampersand and a semicolon enclose a reference to a character, by one of
    five names or by its code point. -/

namespace IconCompiler.Markup.Reference

open Text

/-- The names that can be referred to, and the characters they stand for. -/
def named : List (List Char × Char) := [
  (['l', 't'], '<'), (['g', 't'], '>'), (['a', 'm', 'p'], '&'),
  (['a', 'p', 'o', 's'], '\''), (['q', 'u', 'o', 't'], '"')]

/-- The largest code that a number may give. -/
def maxCode : Nat := 0xFFFFFFFF

/-- The number that `digits` continue, with `value` read before them. -/
def numberFrom (radix : Nat) (digit? : Char → Option Nat) :
    Nat → List Char → Except ReferenceFault Nat
  | value, [] => .ok value
  | value, c :: rest =>
    match digit? c with
    | none => .error .badDigit
    | some d =>
      if value * radix + d ≤ maxCode then numberFrom radix digit? (value * radix + d) rest
      else .error .hugeNumber

/-- Read a number, which has no sign and at least one digit. -/
def number (radix : Nat) (digit? : Char → Option Nat) (digits : List Char) :
    Except ReferenceFault Nat :=
  match digits with
  | [] => .error .emptyNumber
  | c :: _ =>
    if c = '+' ∨ c = '-' then .error .signedNumber else numberFrom radix digit? 0 digits

/-- The character with the given code, zero excepted. -/
def charOfCode (code : Nat) : Except ReferenceFault Char :=
  if code = 0 then .error .zero
  else if code.isValidChar then .ok (Char.ofNat code)
  else .error (.noSuchCharacter code)

/-- The character that a reference stands for; `start` is the offset of the
    text between the ampersand and the semicolon. -/
def resolve (start : Nat) (content : List Char) : Except ReferenceFault Char :=
  match content with
  | '#' :: 'x' :: digits => number 16 hexValue? digits >>= charOfCode
  | '#' :: digits => number 10 decimalValue? digits >>= charOfCode
  | _ =>
    match named.find? (·.1 == content) with
    | some (_, c) => .ok c
    | none =>
      .error (.unknownName start (start + byteLength content) (String.ofList content))

/-- What precedes the next semicolon and what follows it, unless an ampersand or
    the end comes first. -/
def cutSemicolon? : List Char → Option (List Char × List Char)
  | [] => none
  | c :: rest =>
    if c = ';' then some ([], rest)
    else if c = '&' then none
    else (cutSemicolon? rest).map fun (content, after) => (c :: content, after)

theorem length_of_cutSemicolon? {cs content after : List Char}
    (h : cutSemicolon? cs = some (content, after)) : after.length ≤ cs.length := by
  induction cs generalizing content with
  | nil => simp [cutSemicolon?] at h
  | cons c rest ih =>
    rw [cutSemicolon?] at h
    simp only [List.length_cons]
    split at h
    · cases h
      omega
    · split at h
      · simp at h
      · cases hr : cutSemicolon? rest with
        | none => simp [hr] at h
        | some p =>
          simp only [hr, Option.map_some, Option.some.injEq, Prod.mk.injEq] at h
          have := @ih p.1 (by rw [hr, ← h.2])
          omega

/-- Replace the references of `cs`, which begins at `offset` of a text that ends
    at `total`. -/
def replaceFrom (total offset : Nat) (cs : List Char) : Except ReferenceFault (List Char) :=
  match cs with
  | [] => .ok []
  | c :: rest =>
    if c = '&' then
      match h : cutSemicolon? rest with
      | none => .error (.unterminated offset total)
      | some (content, after) => do
        have := length_of_cutSemicolon? h
        let character ← resolve (offset + 1) content
        let more ← replaceFrom total (offset + 2 + byteLength content) after
        return character :: more
    else do
      let more ← replaceFrom total (offset + c.utf8Size) rest
      return c :: more
termination_by cs.length

/-- A text with its references replaced by what they stand for. -/
def replace (cs : List Char) : Except ReferenceFault (List Char) :=
  replaceFrom (byteLength cs) 0 cs

end IconCompiler.Markup.Reference
