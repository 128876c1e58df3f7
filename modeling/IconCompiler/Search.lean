import IconCompiler.Diagnostic
import IconCompiler.Disk.Walk
import IconCompiler.Failure
import IconCompiler.Icon

/-! # The search for assets

    The assets below a root are the files with a given extension, in the order
    of a walk.  What cannot be read is reported and does not hide the rest. -/

namespace IconCompiler

open Disk

/-- What was found below a root. -/
structure Search where
  assets : List Asset
  diagnostics : List Diagnostic
  deriving DecidableEq

namespace Search

/-- Nothing found. -/
def empty : Search := ⟨[], []⟩

/-- Whether two texts are the same, the case of ASCII letters aside. -/
def sameIgnoringCase (a b : String) : Bool :=
  a.toList.map Char.toLower == b.toList.map Char.toLower

/-- Whether a path has the extension looked for, which may be given with its
    dot. -/
def extensionIs (extension path : String) : Bool :=
  match Path.extension? path with
  | none => false
  | some found =>
    sameIgnoringCase found (String.ofList (extension.toList.dropWhile (· == '.')))

/-- The warning about a path that could not be visited. -/
def visitWarning (path reason : String) : Diagnostic where
  topic := .unreadable
  message := s!"error reading {path}: {reason}"
  path := some path

/-- The warning about an asset that could not be read. -/
def readWarning (path : String) (fault : Fault) : Diagnostic where
  topic := .unreadable
  message := s!"error reading SVG file {path}: {fault.message}"
  path := some path

/-- Put what one visit brings in front. -/
def cons (workspace : Workspace) (extension : String) (visit : Visit) (found : Search) :
    Search :=
  match visit with
  | .entry path .file =>
    if extensionIs extension path then
      match workspace.readText path with
      | .ok content => { found with assets := ⟨path, content⟩ :: found.assets }
      | .error fault => { found with diagnostics := readWarning path fault :: found.diagnostics }
    else found
  | .entry _ _ => found
  | .fault path fault =>
    let warning := visitWarning path s!"IO error for operation on {path}: {fault.message}"
    { found with diagnostics := warning :: found.diagnostics }
  | .loop path ancestor =>
    let warning :=
      visitWarning path s!"File system loop found: {path} points to an ancestor {ancestor}"
    { found with diagnostics := warning :: found.diagnostics }

/-- Find the assets below a root, which has to be a directory. -/
def below (workspace : Workspace) (root extension : String) (follow : Bool) :
    Except Failure Search :=
  if workspace.isDirectory root then
    .ok ((workspace.walk follow root).foldr (cons workspace extension) empty)
  else .error (.missingRoot root)

end Search

end IconCompiler
