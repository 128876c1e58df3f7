import IconCompiler.Toml.Literal

/-! # Printing TOML

    A text is written in the plainest of four forms that can hold it.  Texts
    with quotes or backslashes go into a form without escapes where there is
    one; texts with line breaks go over several lines. -/

namespace IconCompiler.Toml

open Text

/-- How a text is written: with or without escapes, on one line or over
    several. -/
inductive StringForm where
  | basic
  | literal
  | longBasic
  | longLiteral
  deriving DecidableEq

/-- Whether `c` has to be escaped wherever it stands. -/
def isControl (c : Char) : Bool :=
  c != '\n' && !isPlain c

/-- Whether more than `count` times `quote` stand at the start, or three times
    anywhere behind. -/
def hasTripleFrom (quote : Char) : Nat → List Char → Bool
  | _, [] => false
  | count, c :: rest =>
    if c = quote then count == 0 || hasTripleFrom quote (count - 1) rest
    else hasTripleFrom quote 2 rest

/-- Whether three times `quote` stand in a row. -/
def hasTriple (quote : Char) (cs : List Char) : Bool :=
  hasTripleFrom quote 2 cs

namespace StringForm

/-- The form of a text that holds nothing to be escaped in every form. -/
def ofPlain (cs : List Char) : StringForm :=
  if !cs.contains '\\' && !cs.contains '"' && !cs.contains '\n' then basic
  else if !cs.contains '\'' && !cs.contains '\n' then literal
  else if !cs.contains '\\' && !hasTriple '"' cs then longBasic
  else if !hasTriple '\'' cs then longLiteral
  else if cs.contains '\n' then longBasic
  else basic

/-- The form of a text. -/
def ofText (cs : List Char) : StringForm :=
  if cs.any isControl then if cs.contains '\n' then longBasic else basic
  else ofPlain cs

end StringForm

/-- The letter that stands for `c` behind a backslash. -/
def escapeLetter? (c : Char) : Option Char :=
  (escapes.find? fun escape => escape.2 == c).map Prod.fst

/-- The written form of a character where escapes are read. -/
def escapeChar (c : Char) : List Char :=
  match escapeLetter? c with
  | some letter => ['\\', letter]
  | none =>
    if isPlain c then [c] else '\\' :: 'u' :: (hexPadded 4 c.toNat).map Char.toUpper

/-- The text between the quotes of a form with escapes over several lines, where
    `count` quotes in a row may still stand as they are. -/
def escapeLong : Nat → List Char → List Char
  | _, [] => []
  | count, c :: rest =>
    if c = '"' then
      match count with
      | 0 => '\\' :: '"' :: escapeLong 2 rest
      | count + 1 => '"' :: escapeLong count rest
    else if c = '\n' then '\n' :: escapeLong 2 rest
    else escapeChar c ++ escapeLong 2 rest

/-- A line break behind the opening quotes if the text has line breaks. -/
def leadingBreak (cs : List Char) : List Char :=
  if cs.contains '\n' then ['\n'] else []

/-- The written form of a text in a given form. -/
def printAs (form : StringForm) (cs : List Char) : List Char :=
  match form with
  | .basic => ['"'] ++ cs.flatMap escapeChar ++ ['"']
  | .literal => ['\''] ++ cs ++ ['\'']
  | .longBasic => ['"', '"', '"'] ++ leadingBreak cs ++ escapeLong 2 cs ++ ['"', '"', '"']
  | .longLiteral => ['\'', '\'', '\''] ++ leadingBreak cs ++ cs ++ ['\'', '\'', '\'']

/-- The written form of a text. -/
def printText (s : String) : List Char :=
  printAs (.ofText s.toList) s.toList

/-- The line that gives a text to a bare key. -/
def printPair (key text : String) : List Char :=
  key.toList ++ [' ', '=', ' '] ++ printText text ++ ['\n']

/-- A table: its header and the lines of its pairs. -/
def printTable (header : String) (pairs : List (String × String)) : List Char :=
  header.toList ++ ['\n'] ++ pairs.flatMap fun pair => printPair pair.1 pair.2

end IconCompiler.Toml
