import IconCompiler.Digest
import IconCompiler.Disk.Workspace
import IconCompiler.Failure
import IconCompiler.FileState

/-! # Output files

    A generated file is written only if it does not hold the content already,
    as told by digests.  The content goes to a file beside it first, which then
    takes its place in one step. -/

namespace IconCompiler.GeneratedFile

open Disk

/-- What is known about an output path before anything is written. -/
structure Plan where
  /-- The directory that the file stands in. -/
  directory : String
  /-- The file that the content goes to first. -/
  temporary : String
  deriving DecidableEq

/-- Plan the writing of a file, whose path has to end in a name. -/
def plan (path : String) : Except Failure Plan :=
  match Path.fileName? path with
  | none => .error (.badOutput path)
  | some name =>
    let parent := (Path.parent? path).getD ""
    let directory := if parent = "" then "." else parent
    .ok ⟨directory, Path.join directory ("." ++ name ++ ".tmp")⟩

/-- Whether the file at a path holds the content already. -/
def holds (workspace : Workspace) (path content : String) : Except Failure Bool :=
  if workspace.isFile path then
    match workspace.read path with
    | .error fault => .error (.io path fault)
    | .ok found => .ok (Digest.hexDigest found == Digest.hexDigest content.toUTF8)
  else .ok false

/-- Move the temporary file of a plan into place; if that fails, remove it. -/
def settle (workspace : Workspace) (plan : Plan) (path : String) :
    Except Failure FileState × Workspace :=
  match workspace.rename plan.temporary path with
  | .ok next => (.ok .written, next)
  | .error fault =>
    match workspace.removeFile plan.temporary with
    | .ok next => (.error (.io path fault), next)
    | .error _ => (.error (.io path fault), workspace)

/-- Replace the content of the file at a path, as planned. -/
def replace (workspace : Workspace) (plan : Plan) (path content : String) :
    Except Failure FileState × Workspace :=
  match workspace.makeDirectories plan.directory with
  | (.error fault, next) => (.error (.io plan.directory fault), next)
  | (.ok (), next) =>
    match next.write plan.temporary content.toUTF8 with
    | .error fault => (.error (.io plan.temporary fault), next)
    | .ok written => settle written plan path

/-- Write a file unless it holds the content already.  With `check` set nothing
    is written. -/
def update (workspace : Workspace) (check : Bool) (path content : String) :
    Except Failure FileState × Workspace :=
  match holds workspace path content with
  | .error failure => (.error failure, workspace)
  | .ok true => (.ok .unchanged, workspace)
  | .ok false =>
    if check then (.ok .wouldChange, workspace)
    else
      match plan path with
      | .error failure => (.error failure, workspace)
      | .ok plan => replace workspace plan path content

end IconCompiler.GeneratedFile
