import IconCompiler.Text.CodeRange
import IconCompiler.Text.Hex
import IconCompiler.Text.ShapeTable

/-! # Quoted literals

    A literal stands between double quotes.  Quotes, backslashes and the common
    control characters are escaped by a letter; any other character that would
    not show on its own (it extends its neighbour, or has no visible form) is
    written by its code point in braces; everything else stands for itself. -/

namespace IconCompiler.Text

/-- Whether `c` shows as a character of its own. -/
def isVisible (c : Char) : Bool :=
  if c.toNat < 0x80 then 0x20 ≤ c.toNat && c.toNat < 0x7F
  else !(inRanges extendingRanges c.toNat || inRanges fillerRanges c.toNat
    || inRanges unprintableRanges c.toNat)

/-- The characters that are escaped by a letter, each with its letter. -/
def quoteLetters : List (Char × Char) := [
  ('\x00', '0'), ('\t', 't'), ('\n', 'n'), ('\r', 'r'), ('"', '"'), ('\\', '\\')]

/-- The written form of one character inside a literal. -/
def quoteChar (c : Char) : List Char :=
  match quoteLetters.lookup c with
  | some letter => ['\\', letter]
  | none =>
    if isVisible c then [c] else ['\\', 'u', '\x7b'] ++ hexDigits c.toNat ++ ['\x7d']

/-- The literal that denotes a text. -/
def quoted (s : String) : String :=
  String.ofList ('"' :: (s.toList.flatMap quoteChar ++ ['"']))

end IconCompiler.Text
