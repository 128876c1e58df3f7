import IconCompiler.Disk.Fault
import IconCompiler.Markup.Error
import IconCompiler.Text.Quoted

/-! # Failures

    What makes an operation give up, by cause; each cause belongs to a kind,
    and the kind begins the message. -/

namespace IconCompiler

open Text

/-- The kind of a failure, with what its message says about the place. -/
inductive FailureKind where
  | config
  | markup (position : Nat)
  | io (path : String)
  | validation
  | serialization
  deriving DecidableEq

/-- The message of a failure of the given kind. -/
def FailureKind.describe (kind : FailureKind) (detail : String) : String :=
  match kind with
  | config => s!"config error: {detail}"
  | markup position => s!"markup error at byte {position}: {detail}"
  | io path => s!"I/O error at {quoted path}: {detail}"
  | validation => s!"validation error: {detail}"
  | serialization => s!"serialization error: {detail}"

/-- Why an operation gives up. -/
inductive Failure where
  /-- The configuration names no target. -/
  | noTargets
  /-- The name of a target cannot name a module. -/
  | badTargetName (name : String)
  /-- A segment of the module path of a target cannot name a module. -/
  | badSegment (segment target : String)
  /-- A target has no output. -/
  | noOutput (target : String)
  /-- The configuration at `path` cannot be understood. -/
  | badConfig (path : String)
  /-- There is a configuration at `path` already. -/
  | configExists (path : String)
  /-- A document cannot be read. -/
  | markup (error : Markup.Error)
  /-- The disk refuses an operation on `path`. -/
  | io (path : String) (fault : Disk.Fault)
  /-- The directory to search does not exist. -/
  | missingRoot (path : String)
  /-- An output path names no file. -/
  | badOutput (path : String)
  /-- A manifest cannot be understood. -/
  | badManifest
  /-- A manifest follows a later schema than `supported`. -/
  | laterSchema (version supported : Nat)
  deriving DecidableEq

namespace Failure

/-- The kind of a failure. -/
def kind : Failure → FailureKind
  | noTargets | badTargetName _ | badSegment _ _ | noOutput _ | badConfig _ | configExists _ =>
    .config
  | markup error => .markup error.position
  | io path _ => .io path
  | missingRoot _ | badOutput _ | badManifest | laterSchema _ _ => .validation

/-- The wording of the cause of a failure. -/
def detail : Failure → String
  | noTargets => "no targets configured; add a [[targets]] entry or pass --name and --out"
  | badTargetName name => s!"target name `{name}` is not a valid Rust identifier"
  | badSegment segment target =>
    s!"namespace segment `{segment}` of target `{target}` is not a valid Rust identifier"
  | noOutput target => s!"target `{target}` has no output path"
  | badConfig path => s!"failed to parse {path}"
  | configExists path => s!"{path} already exists"
  | markup error => error.cause.message
  | io _ fault => fault.message
  | missingRoot path => s!"root directory not found: {path}"
  | badOutput path => s!"invalid output path: {path}"
  | badManifest => "invalid icon manifest"
  | laterSchema version supported =>
    s!"icon manifest schema version {version} is newer than supported version {supported}"

/-- The message of a failure. -/
def message (failure : Failure) : String :=
  failure.kind.describe failure.detail

end Failure

end IconCompiler
