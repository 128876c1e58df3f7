import IconCompiler.Disk.Fault
import IconCompiler.Text.Split

/-! # Path names

    A path name is a text whose segments are set apart by slashes.  Empty
    segments and single dots say nothing, except for a dot at the very start of
    a relative name. -/

namespace IconCompiler.Path

open Text

/-- The segments of a path name, empty ones included. -/
def segments (path : String) : List String :=
  (splitAtAll (· == '/') path.toList).map String.ofList

/-- Segments without those at the end that say nothing. -/
def dropIdle (segments : List String) : List String :=
  (segments.reverse.dropWhile fun segment => segment == "" || segment == ".").reverse

/-- The last segment that says something, and the name of what it stands in.
    A root has no such segment, nor has the empty name. -/
def splitLast? (path : String) : Option (String × String) :=
  match segments path with
  | [] => none
  | "" :: body =>
    match (dropIdle body).reverse with
    | [] => none
    | last :: outer => some ("/" ++ joinWith "/" (dropIdle outer.reverse), last)
  | head :: tail =>
    match (dropIdle tail).reverse with
    | [] => some ("", head)
    | last :: outer => some (joinWith "/" (head :: dropIdle outer.reverse), last)

/-- The name of the directory that a path stands in. -/
def parent? (path : String) : Option String :=
  (splitLast? path).map Prod.fst

/-- The file name of a path, unless it ends in dots. -/
def fileName? (path : String) : Option String :=
  match splitLast? path with
  | none => none
  | some (_, last) => if last = "." ∨ last = ".." then none else some last

/-- The name of the file `name` in the directory `directory`. -/
def join (directory name : String) : String :=
  if directory = "" ∨ directory.toList.getLast? = some '/' then directory ++ name
  else directory ++ "/" ++ name

/-- The first `count` of a path, the directory it stands in, and so on. -/
def ancestorsUpTo : Nat → String → List String
  | 0, _ => []
  | count + 1, path =>
    match parent? path with
    | none => [path]
    | some outer => path :: ancestorsUpTo count outer

/-- A path, the directory it stands in, and so on up to the outermost one. -/
def ancestors (path : String) : List String :=
  ancestorsUpTo ((segments path).length + 1) path

/-- What follows the last dot of a file name; nothing if there is no dot, or
    none but the first character. -/
def extension? (path : String) : Option String :=
  match fileName? path with
  | none => none
  | some name =>
    match name.toList with
    | [] => none
    | _ :: rest =>
      if rest.contains '.' then some (String.ofList (afterLast (· == '.') rest)) else none

/-- A path name as the operating system takes it: where it starts, the segments
    that say where to go, and whether it ends in a slash. -/
structure Route where
  rooted : Bool
  names : List String
  trailing : Bool
  deriving DecidableEq

namespace Route

/-- The route of a path name. -/
def parse (path : String) : Route where
  rooted := path.toList.head? == some '/'
  names := (segments path).filter (· != "")
  trailing := path.toList.getLast? == some '/'

/-- The steps of a route; a slash at the end asks for a directory. -/
def steps (route : Route) : List String :=
  if route.trailing then route.names ++ ["."] else route.names

end Route

/-- The longest path name that the operating system takes, in bytes. -/
def maxLength : Nat := 4095

/-- The longest segment that the operating system takes, in bytes. -/
def maxNameLength : Nat := 255

/-- The route of a path name, if the operating system takes the name at all. -/
def route (path : String) : Except Disk.Fault Route :=
  if path.toList.contains '\x00' then .error .nulInPath
  else if path = "" then .error .noSuchFile
  else if maxLength < path.utf8ByteSize then .error .nameTooLong
  else .ok (Route.parse path)

end IconCompiler.Path
