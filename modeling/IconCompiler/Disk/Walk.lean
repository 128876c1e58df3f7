import IconCompiler.Disk.Workspace

/-! # Walks

    A walk visits all that can be reached from a root: a directory first, then
    what is in it in the order of names.  Links may be followed, but never into
    a directory that the walk is in already. -/

namespace IconCompiler

open Disk

/-- What a visited path is. -/
inductive Kind where
  | file
  | directory
  | link
  deriving DecidableEq

/-- The kind of an entry. -/
def Entry.kind : Entry → Kind
  | .file _ => .file
  | .directory => .directory
  | .link _ => .link

/-- One step of a walk. -/
inductive Visit where
  | entry (path : String) (kind : Kind)
  /-- A path that cannot be visited. -/
  | fault (path : String) (fault : Fault)
  /-- A link back to a directory that the walk is in. -/
  | loop (path ancestor : String)
  deriving DecidableEq

namespace Workspace

/-- A directory that a walk is in, and the path it was reached by. -/
structure Ancestor where
  location : Location
  path : String

/-- Visit what is in a directory. -/
def visitInside (workspace : Workspace) (path : String)
    (visit : Ancestor → String → Entry → List Visit) : List Visit :=
  match workspace.list path with
  | .error fault => [.fault path fault]
  | .ok (location, found) =>
    found.flatMap fun (name, entry) => visit ⟨location, path⟩ (Path.join path name) entry

/-- Visit an entry and all that can be reached from it, at most `depth` levels
    deep.  `ancestors` are the directories around it, the innermost first. -/
def visit (workspace : Workspace) (follow : Bool) :
    Nat → List Ancestor → String → Entry → List Visit
  | 0, _, _, _ => []
  | depth + 1, ancestors, path, entry =>
    match entry with
    | .file _ => [.entry path .file]
    | .directory =>
      .entry path .directory :: workspace.visitInside path fun ancestor =>
        workspace.visit follow depth (ancestor :: ancestors)
    | .link _ =>
      if follow then
        match workspace.entryAt true path with
        | .error fault => [.fault path fault]
        | .ok (location, .directory) =>
          match ancestors.find? (·.location == location) with
          | some ancestor => [.loop path ancestor.path]
          | none =>
            .entry path .directory :: workspace.visitInside path fun ancestor =>
              workspace.visit follow depth (ancestor :: ancestors)
        | .ok (_, target) => [.entry path target.kind]
      else [.entry path .link]

/-- No walk goes deeper than this: on the way down, each link leads to a new
    directory, and between two links the way follows the disk's own levels. -/
def walkDepth (workspace : Workspace) : Nat :=
  Nat.pow (workspace.disk.entries.entries.length + 2) 2

/-- Visit a root and all that can be reached from it.  A root that is a link to
    a directory is entered in any case. -/
def walk (workspace : Workspace) (follow : Bool) (root : String) : List Visit :=
  match workspace.entryAt false root with
  | .error fault => [.fault root fault]
  | .ok (_, entry) =>
    if follow = false ∧ entry.kind = .link ∧ workspace.isDirectory root then
      .entry root .link :: workspace.visitInside root fun ancestor =>
        workspace.visit follow workspace.walkDepth [ancestor]
    else workspace.visit follow workspace.walkDepth [] root entry

end Workspace

end IconCompiler
