import IconCompiler.Text.CodeRange

/-! # Blank characters

    White space in the sense of the Unicode property of that name, and the
    trimming of texts at both ends. -/

namespace IconCompiler.Text

/-- The code points with the property White_Space. -/
def blankRanges : List (Nat × Nat) := [
  (0x9, 0xD), (0x20, 0x20), (0x85, 0x85), (0xA0, 0xA0), (0x1680, 0x1680), (0x2000, 0x200A),
  (0x2028, 0x2029), (0x202F, 0x202F), (0x205F, 0x205F), (0x3000, 0x3000)]

/-- Whether `c` is white space. -/
def isBlank (c : Char) : Bool :=
  inRanges blankRanges c.toNat

/-- Whether a text holds white space only. -/
def allBlank (s : String) : Bool :=
  s.toList.all isBlank

/-- A text without the characters satisfying `p` at either end. -/
def trimEnds (p : Char → Bool) (cs : List Char) : List Char :=
  ((cs.dropWhile p).reverse.dropWhile p).reverse

/-- A text without the white space at its ends. -/
def trim (s : String) : String :=
  String.ofList (trimEnds isBlank s.toList)

end IconCompiler.Text
