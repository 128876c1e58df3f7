import IconCompiler.Text.Case
import IconCompiler.Text.Split

/-! # Path patterns

    A pattern is matched against a path segment by segment and without regard
    to letter case.  A segment `**` stands for any number of path segments; in
    any other segment a star stands for any stretch of characters.  A pattern
    of a single segment applies at any depth. -/

namespace IconCompiler

open Text

/-- A segment of a pattern. -/
inductive SegmentPattern where
  /-- Any number of path segments, none included. -/
  | anyDepth
  /-- One path segment: the lower-cased texts between the stars. -/
  | name (pieces : List (List Char))
  deriving DecidableEq

/-- A pattern for paths; the empty one matches nothing. -/
inductive PathPattern where
  | never
  | segments (parts : List SegmentPattern)
  deriving DecidableEq

namespace PathPattern

/-- Read one segment of a pattern. -/
def parseSegment (segment : List Char) : SegmentPattern :=
  if segment = ['*', '*'] then .anyDepth
  else .name (splitAtAll (· == '*') (lowerList segment))

/-- Read a pattern. -/
def parse (pattern : String) : PathPattern :=
  if pattern.toList = [] then .never
  else
    match (splitAtAll isSlash pattern.toList).map parseSegment with
    | [single] => .segments [.anyDepth, single]
    | parts => .segments parts

/-- The rest of a text behind the first occurrence of `piece`. -/
def dropThrough? (piece : List Char) : List Char → Option (List Char)
  | [] => if piece = [] then some [] else none
  | c :: rest =>
    if piece.isPrefixOf (c :: rest) then some ((c :: rest).drop piece.length)
    else dropThrough? piece rest

/-- Whether a text is any stretch followed by `pieces` with any stretches
    between them.  Taking the first occurrence of each piece leaves the most
    room for the others; the last piece has to end the text. -/
def matchesAfterStar : List (List Char) → List Char → Bool
  | [], _ => true
  | [last], text => last.isSuffixOf text
  | piece :: pieces, text =>
    match dropThrough? piece text with
    | some rest => matchesAfterStar pieces rest
    | none => false

/-- Whether a text consists of `pieces` with any stretches between them. -/
def matchesPieces : List (List Char) → List Char → Bool
  | [], text => text = []
  | [only], text => text = only
  | first :: pieces, text =>
    first.isPrefixOf text && matchesAfterStar pieces (text.drop first.length)

/-- The ends of a list, from the whole list to the empty one. -/
def suffixes {α : Type} : List α → List (List α)
  | [] => [[]]
  | a :: rest => (a :: rest) :: suffixes rest

/-- Whether path segments, already lower-cased, can be shared out among the
    segments of a pattern. -/
def matchesParts : List SegmentPattern → List (List Char) → Bool
  | [], path => path = []
  | .anyDepth :: parts, path => (suffixes path).any fun rest => matchesParts parts rest
  | .name pieces :: parts, segment :: path =>
    matchesPieces pieces segment && matchesParts parts path
  | .name _ :: _, [] => false

/-- Whether a pattern matches a path. -/
def «matches» (pattern : PathPattern) (path : String) : Bool :=
  match pattern with
  | never => false
  | segments parts => matchesParts parts ((splitAtAll isSlash path.toList).map lowerList)

end PathPattern

end IconCompiler
