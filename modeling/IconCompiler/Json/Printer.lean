import IconCompiler.Json.Token

/-! # Printing JSON

    A value is printed without any space, or over several lines with an
    indentation of two spaces for each level. -/

namespace IconCompiler.Json

open Text

/-- The letter that is written for `c` behind a backslash.  A slash is written
    as it is, although a letter would be understood for it. -/
def escapeLetter? (c : Char) : Option Char :=
  if c = '/' then none else (escapes.find? fun escape => escape.2 == c).map Prod.fst

/-- The written form of a character inside a string. -/
def escapeChar (c : Char) : List Char :=
  match escapeLetter? c with
  | some letter => ['\\', letter]
  | none => if c.toNat < 0x20 then ['\\', 'u'] ++ hexPadded 4 c.toNat else [c]

/-- The written form of a text. -/
def printText (s : String) : List Char :=
  '"' :: (s.toList.flatMap escapeChar ++ ['"'])

/-- The written form of a string; one that denotes no text is left empty. -/
def printLiteral (literal : Literal) : List Char :=
  printText (literal.getD "")

/-- The start of a line at the given level. -/
def newLine (level : Nat) : List Char :=
  '\n' :: List.replicate (2 * level) ' '

mutual

/-- Print a value on one line. -/
def Value.compact : Value → List Char
  | .null => ['n', 'u', 'l', 'l']
  | .bool true => ['t', 'r', 'u', 'e']
  | .bool false => ['f', 'a', 'l', 's', 'e']
  | .number digits => digits
  | .string literal => printLiteral literal
  | .array items => '[' :: (Value.compactItems items ++ [']'])
  | .object members => '\x7b' :: (Value.compactMembers members ++ ['\x7d'])

/-- Print the items of an array. -/
def Value.compactItems : List Value → List Char
  | [] => []
  | [item] => Value.compact item
  | item :: next :: rest => Value.compact item ++ ',' :: Value.compactItems (next :: rest)

/-- Print the members of an object. -/
def Value.compactMembers : List (Literal × Value) → List Char
  | [] => []
  | [(key, value)] => printLiteral key ++ ':' :: Value.compact value
  | (key, value) :: next :: rest =>
    printLiteral key ++ ':' :: (Value.compact value ++ ',' :: Value.compactMembers (next :: rest))

end

mutual

/-- Print a value whose first line stands at the given level. -/
def Value.pretty (level : Nat) : Value → List Char
  | .null => ['n', 'u', 'l', 'l']
  | .bool true => ['t', 'r', 'u', 'e']
  | .bool false => ['f', 'a', 'l', 's', 'e']
  | .number digits => digits
  | .string literal => printLiteral literal
  | .array [] => ['[', ']']
  | .array (item :: rest) =>
    '[' :: (newLine (level + 1) ++ Value.pretty (level + 1) item
      ++ (Value.prettyItems (level + 1) rest ++ (newLine level ++ [']'])))
  | .object [] => ['\x7b', '\x7d']
  | .object ((key, value) :: rest) =>
    '\x7b' :: (newLine (level + 1) ++ printLiteral key ++ ':' :: ' '
      :: Value.pretty (level + 1) value
      ++ (Value.prettyMembers (level + 1) rest ++ (newLine level ++ ['\x7d'])))

/-- Print further items of an array, each on a line of its own. -/
def Value.prettyItems (level : Nat) : List Value → List Char
  | [] => []
  | item :: rest =>
    ',' :: (newLine level ++ Value.pretty level item ++ Value.prettyItems level rest)

/-- Print further members of an object, each on a line of its own. -/
def Value.prettyMembers (level : Nat) : List (Literal × Value) → List Char
  | [] => []
  | (key, value) :: rest =>
    ',' :: (newLine level ++ printLiteral key ++ ':' :: ' ' :: Value.pretty level value
      ++ Value.prettyMembers level rest)

end

end IconCompiler.Json
