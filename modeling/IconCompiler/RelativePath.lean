import IconCompiler.Text.Case
import IconCompiler.Text.Split

/-! # Relative paths

    Paths as plain texts, related to each other without a look at any disk.
    Both slashes separate segments; a path is read as the list of its named
    segments, and names are compared without regard to letter case. -/

namespace IconCompiler.RelativePath

open Text

/-- Append one segment: an empty one and `.` change nothing, `..` removes the
    last named segment, if there is one. -/
def follow (named : List (List Char)) (segment : List Char) : List (List Char) :=
  if segment = [] ∨ segment = ['.'] then named
  else if segment = ['.', '.'] then named.dropLast
  else named ++ [segment]

/-- The named segments that a path comes down to. -/
def segments (path : List Char) : List (List Char) :=
  (splitAtAll isSlash path).foldl follow []

/-- The number of leading segments that two lists share, letter case aside. -/
def commonCount : List (List Char) → List (List Char) → Nat
  | a :: rest, b :: rest' =>
    if lowerList a = lowerList b then commonCount rest rest' + 1 else 0
  | _, _ => 0

/-- The way from the directory `source` to `target`, both given by their named
    segments: one step up for each segment of `source` beyond the common ones,
    then down along the rest of `target`. -/
def steps (source target : List (List Char)) : List (List Char) :=
  let common := commonCount source target
  List.replicate (source.length - common) ['.', '.'] ++ target.drop common

/-- Segments joined by slashes; no segments at all are the directory itself. -/
def join (segments : List (List Char)) : List Char :=
  if segments = [] then ['.'] else ['/'].intercalate segments

/-- `path` as seen from the directory `root`. -/
def relativeTo (root path : String) : String :=
  String.ofList (join (steps (segments root.toList) (segments path.toList)))

/-- Whether a path or pattern starts at a root: with a slash, or with a drive
    letter and a colon. -/
def startsAtRoot (path : String) : Bool :=
  match path.toList with
  | c :: rest => isSlash c || (c.isAlpha && rest.head? == some ':')
  | [] => false

end IconCompiler.RelativePath
