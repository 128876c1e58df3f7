import IconCompiler.Disk.Basic
import IconCompiler.Disk.Path

/-! # Workspaces

    A disk as a program sees it: relative paths start at a working directory,
    and links are followed.  A workspace also remembers the changes made to it,
    in order, so that they can be made elsewhere too. -/

namespace IconCompiler

open Disk

/-- A disk, the directory where relative paths start, and the changes made. -/
structure Workspace where
  disk : Disk
  directory : Location
  journal : List Change
  deriving DecidableEq

/-- Where a path leads. -/
inductive Place where
  /-- There is an entry. -/
  | taken (location : Location) (entry : Entry)
  /-- There is none, but one could be made. -/
  | vacant (location : Location)
  deriving DecidableEq

/-- Where the last segment of a path stands. -/
inductive Slot where
  /-- At a location; `trailing` if a slash follows. -/
  | named (location : Location) (trailing : Bool)
  /-- The path is a root or ends in dots. -/
  | dots
  deriving DecidableEq

namespace Workspace

/-- A workspace without changes. -/
def ofDisk (disk : Disk) (directory : Location) : Workspace :=
  ⟨disk, directory, []⟩

/-- The path of the working directory. -/
def directoryPath (workspace : Workspace) : String :=
  "/" ++ Text.joinWith "/" workspace.directory

/-- Make a change. -/
def perform (workspace : Workspace) (change : Change) : Workspace :=
  { workspace with
    disk := workspace.disk.apply change
    journal := workspace.journal ++ [change] }

/-- How many links may be followed on one way. -/
def maxLinks : Nat := 40

/-- Follow names from a directory as far as no link has to be followed.  For a link
    on the way, and for one at its end if `follow` is set, `enter` is asked: with
    the directory in which the way goes on and the names to follow from there. -/
def reachBy (disk : Disk) (follow : Bool) (enter : Location → List String → Except Fault Place)
    (directory : Location) : List String → Except Fault Place
  | [] => .ok (.taken directory .directory)
  | name :: rest =>
    if name = "." then reachBy disk follow enter directory rest
    else if name = ".." then reachBy disk follow enter directory.dropLast rest
    else if Path.maxNameLength < name.utf8ByteSize then .error .nameTooLong
    else
      match disk.entry? (directory ++ [name]) with
      | none => if rest = [] then .ok (.vacant (directory ++ [name])) else .error .noSuchFile
      | some .directory => reachBy disk follow enter (directory ++ [name]) rest
      | some (.file content) =>
        if rest = [] then .ok (.taken (directory ++ [name]) (.file content))
        else .error .notADirectory
      | some (.link target) =>
        if rest = [] ∧ follow = false then .ok (.taken (directory ++ [name]) (.link target))
        else
          let route := Path.Route.parse target
          enter (if route.rooted then [] else directory) (route.steps ++ rest)

/-- Follow names from a directory.  Links on the way are followed, `links` of
    them at most; one at the end of the way only if `follow` is set. -/
def reach (disk : Disk) (follow : Bool) : Nat → Location → List String → Except Fault Place
  | 0 => reachBy disk follow fun _ _ => .error .tooManyLinks
  | links + 1 => reachBy disk follow (reach disk follow links)

/-- The directory in which a route starts. -/
def origin (workspace : Workspace) (route : Path.Route) : Location :=
  if route.rooted then [] else workspace.directory

/-- Where a path leads. -/
def locate (workspace : Workspace) (follow : Bool) (path : String) : Except Fault Place := do
  let route ← Path.route path
  reach workspace.disk follow maxLinks (workspace.origin route) route.steps

/-- The location and the entry that a path leads to. -/
def entryAt (workspace : Workspace) (follow : Bool) (path : String) :
    Except Fault (Location × Entry) := do
  match ← workspace.locate follow path with
  | .taken location entry => return (location, entry)
  | .vacant _ => .error .noSuchFile

/-- Where the last segment of a path stands, in an existing directory. -/
def slot (workspace : Workspace) (path : String) : Except Fault Slot := do
  let route ← Path.route path
  match route.names.reverse with
  | [] => return .dots
  | last :: outer =>
    let names := outer.reverse ++ ["."]
    match ← reach workspace.disk true maxLinks (workspace.origin route) names with
    | .vacant _ => .error .noSuchFile
    | .taken parent _ =>
      if last = "." ∨ last = ".." then return .dots
      else if Path.maxNameLength < last.utf8ByteSize then .error .nameTooLong
      else return .named (parent ++ [last]) route.trailing

/-! ## Looking -/

/-- Whether a path leads to anything. -/
def pathExists (workspace : Workspace) (path : String) : Bool :=
  match workspace.entryAt true path with
  | .ok _ => true
  | .error _ => false

/-- Whether a path leads to a directory. -/
def isDirectory (workspace : Workspace) (path : String) : Bool :=
  match workspace.entryAt true path with
  | .ok (_, .directory) => true
  | _ => false

/-- Whether a path leads to a file. -/
def isFile (workspace : Workspace) (path : String) : Bool :=
  match workspace.entryAt true path with
  | .ok (_, .file _) => true
  | _ => false

/-- The bytes of the file that a path leads to. -/
def read (workspace : Workspace) (path : String) : Except Fault ByteArray := do
  match ← workspace.entryAt true path with
  | (_, .file content) => return content
  | (_, .directory) => .error .isADirectory
  | (_, .link _) => .error .tooManyLinks

/-- The text of the file that a path leads to. -/
def readText (workspace : Workspace) (path : String) : Except Fault String := do
  match String.fromUTF8? (← workspace.read path) with
  | some text => return text
  | none => .error .notText

/-- The location of the directory that a path leads to, and what is in it. -/
def list (workspace : Workspace) (path : String) :
    Except Fault (Location × List (String × Entry)) := do
  match ← workspace.entryAt true path with
  | (location, .directory) => return (location, workspace.disk.children location)
  | _ => .error .notADirectory

/-! ## Changing -/

/-- Make a directory in an existing one. -/
def makeDirectory (workspace : Workspace) (path : String) : Except Fault Workspace := do
  match ← workspace.slot path with
  | .dots => .error .alreadyExists
  | .named location _ =>
    if (workspace.disk.entry? location).isSome then .error .alreadyExists
    else return workspace.perform (.makeDirectory location)

/-- Make a link. -/
def makeLink (workspace : Workspace) (path target : String) : Except Fault Workspace := do
  match ← workspace.slot path with
  | .dots => .error .alreadyExists
  | .named location trailing =>
    if (workspace.disk.entry? location).isSome then .error .alreadyExists
    else if trailing ∨ target = "" then .error .noSuchFile
    else return workspace.perform (.makeLink location target)

/-- Write a file, which may be there already. -/
def write (workspace : Workspace) (path : String) (content : ByteArray) :
    Except Fault Workspace := do
  match ← workspace.slot path with
  | .dots => .error .isADirectory
  | .named _ true => .error .isADirectory
  | .named _ false =>
    match ← workspace.locate true path with
    | .vacant location => return workspace.perform (.writeFile location content)
    | .taken location (.file _) => return workspace.perform (.writeFile location content)
    | .taken _ _ => .error .isADirectory

/-- Give a file or a link another path, in place of what is there, unless that
    is a directory.  Directories are not moved. -/
def rename (workspace : Workspace) (source target : String) : Except Fault Workspace := do
  match ← workspace.slot source, ← workspace.slot target with
  | .named a aTrailing, .named b bTrailing =>
    match workspace.disk.entry? a with
    | none => .error .noSuchFile
    | some .directory => .error .isADirectory
    | some _ =>
      if aTrailing ∨ bTrailing then .error .notADirectory
      else if workspace.disk.entry? b = some .directory then .error .isADirectory
      else if a = b then return workspace
      else return workspace.perform (.move a b)
  | _, _ => .error .busy

/-- Remove a file or a link. -/
def removeFile (workspace : Workspace) (path : String) : Except Fault Workspace := do
  match ← workspace.slot path with
  | .dots => .error .isADirectory
  | .named location trailing =>
    match workspace.disk.entry? location with
    | none => .error .noSuchFile
    | some .directory => .error .isADirectory
    | some _ =>
      if trailing then .error .notADirectory else return workspace.perform (.remove location)

/-- Remove an entry and all below it. -/
def removeAll (workspace : Workspace) (path : String) : Except Fault Workspace := do
  match ← workspace.slot path with
  | .dots => .error .busy
  | .named location _ =>
    if (workspace.disk.entry? location).isSome then return workspace.perform (.remove location)
    else .error .noSuchFile

/-- Make a directory unless there is one. -/
def ensureDirectory (workspace : Workspace) (path : String) : Except Fault Workspace :=
  match workspace.makeDirectory path with
  | .ok next => .ok next
  | .error fault =>
    if fault = .alreadyExists ∧ workspace.isDirectory path then .ok workspace else .error fault

/-- Find the innermost of some directories, listed from the inside out, that is
    there or can be made.  The answer lists those inside it, from the outside
    in. -/
def anchor (workspace : Workspace) : List String → Except Fault (Workspace × List String)
  | [] => .ok (workspace, [])
  | path :: outer =>
    if (Path.parent? path).isNone then .ok (workspace, [])
    else
      match workspace.ensureDirectory path with
      | .ok next => .ok (next, [])
      | .error fault =>
        if fault = .noSuchFile then
          (workspace.anchor outer).map fun (next, missing) => (next, missing ++ [path])
        else .error fault

/-- Make directories, listed from the outside in, up to the first that cannot be
    made. -/
def makeInside (workspace : Workspace) : List String → Except Fault Unit × Workspace
  | [] => (.ok (), workspace)
  | path :: inner =>
    match workspace.ensureDirectory path with
    | .ok next => next.makeInside inner
    | .error fault => (.error fault, workspace)

/-- Make a directory and those it stands in, as far as they are missing. -/
def makeDirectories (workspace : Workspace) (path : String) : Except Fault Unit × Workspace :=
  match workspace.anchor (Path.ancestors path) with
  | .error fault => (.error fault, workspace)
  | .ok (next, missing) => next.makeInside missing

end Workspace

end IconCompiler
