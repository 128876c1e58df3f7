import IconCompiler.Text.CaseTable
import IconCompiler.Text.CodeRange

/-! # Letter case

    Full Unicode case mapping.  Lower-casing a text looks at the neighbours of
    a capital sigma, which is written differently at the end of a word;
    upper-casing a single character has no context. -/

namespace IconCompiler.Text

/-- Where a run moves the code point `n`, if it holds it. -/
def CaseRun.apply? (run : CaseRun) (n : Nat) : Option Nat :=
  if run.first ≤ n ∧ n ≤ run.last ∧ (n - run.first) % run.step = 0 then
    some (run.target + (n - run.first))
  else
    none

/-- The mapping of `c` by a table: a sequence of characters if one is listed,
    else the character that a run names, else `c` itself. -/
def mapCase (expansions : List (Nat × List Nat)) (runs : List CaseRun) (c : Char) : List Char :=
  match expansions.find? (fun row => row.1 == c.toNat) with
  | some row => row.2.map Char.ofNat
  | none =>
    match runs.findSome? (fun run => run.apply? c.toNat) with
    | some n => [Char.ofNat n]
    | none => [c]

/-- Whether `c` belongs to the first 128 characters. -/
def isAscii (c : Char) : Bool :=
  c.toNat < 0x80

/-- The lower-case form of one character, out of context. -/
def lowerChar (c : Char) : List Char :=
  if isAscii c then [c.toLower] else mapCase lowerExpansions lowerRuns c

/-- The upper-case form of one character, possibly several characters long. -/
def upperChar (c : Char) : List Char :=
  if isAscii c then [c.toUpper] else mapCase upperExpansions upperRuns c

/-- Whether `c` is a letter with a case. -/
def isCased (c : Char) : Bool :=
  if isAscii c then c.isAlpha else inRanges casedRanges c.toNat

/-- Whether `c` is passed over when the neighbours of a letter are looked for. -/
def isCaseIgnorable (c : Char) : Bool :=
  if isAscii c then ['\'', '.', ':', '^', '\x60'].contains c
  else inRanges caseIgnorableRanges c.toNat

/-- Whether the first character that is not passed over is a cased letter. -/
def startsCased : List Char → Bool
  | [] => false
  | c :: rest => if isCaseIgnorable c then startsCased rest else isCased c

/-- Whether the last character that is not passed over is a cased letter, once
    `c` is read after a text for which the answer was `before`. -/
def endsCased (before : Bool) (c : Char) : Bool :=
  if isCaseIgnorable c then before else isCased c

/-- Lower-case a text whose preceding part ends in a cased letter iff `before`. -/
def lowerFrom : Bool → List Char → List Char
  | _, [] => []
  | before, c :: rest =>
    (if c = 'Σ' then [if before && !startsCased rest then 'ς' else 'σ'] else lowerChar c)
      ++ lowerFrom (endsCased before c) rest

/-- The lower-case form of a text. -/
def lowerList (cs : List Char) : List Char :=
  lowerFrom false cs

/-- The lower-case form of a text. -/
def lower (s : String) : String :=
  String.ofList (lowerList s.toList)

end IconCompiler.Text
