import IconCompiler.Collection
import IconCompiler.Digest
import IconCompiler.GeneratedFile
import IconCompiler.Manifest
import IconCompiler.Search
import IconCompiler.Source.Rendering
import IconCompiler.SupportType
import IconCompiler.Target

/-! # Generation

    A run finds the assets below a root once and then serves each target in
    turn: it collects the target's icons, renders their source, and writes the
    source and the manifest.  Troubles of single assets and targets are
    reported; only an unfit configuration stops a run. -/

namespace IconCompiler

/-- The final state of a target. -/
inductive TargetState where
  | written
  | unchanged
  /-- The output is stale, but nothing may be written. -/
  | wouldChange
  /-- There are no icons, and nothing was written. -/
  | skipped
  /-- An output could not be written. -/
  | failed
  deriving DecidableEq

namespace TargetState

/-- The state of a target whose files could be written. -/
def ofWrite : FileState → TargetState
  | .written => written
  | .unchanged => unchanged
  | .wouldChange => wouldChange

/-- The word for a state. -/
def label : TargetState → String
  | written => "written"
  | unchanged => "unchanged"
  | wouldChange => "would change"
  | skipped => "skipped"
  | failed => "failed"

end TargetState

/-- What became of a target. -/
structure TargetSummary where
  container : Container
  output : String
  state : TargetState
  /-- How many icons the source declares. -/
  iconTotal : Nat
  diagnostics : List Diagnostic
  deriving DecidableEq

/-- The settings of a run. -/
structure GenerationPlan where
  /-- The directory where assets are looked for. -/
  root : String
  /-- The extension of assets. -/
  extension : String
  /-- The path of the support type. -/
  iconType : String
  /-- Where the source of the support type goes, if anywhere. -/
  supportOutput : Option String
  targets : List Target
  /-- Report stale output instead of writing. -/
  check : Bool
  deriving DecidableEq

/-- What became of a run. -/
structure GenerationSummary where
  targets : List TargetSummary
  /-- Diagnostics that concern no single target. -/
  diagnostics : List Diagnostic
  /-- The state of the support type's file, if one is asked for. -/
  support : Option TargetState
  deriving DecidableEq

namespace GenerationSummary

/-- All diagnostics, the general ones first. -/
def everyDiagnostic (summary : GenerationSummary) : List Diagnostic :=
  summary.diagnostics ++ summary.targets.flatMap (·.diagnostics)

/-- Whether something could not be written. -/
def anyFailed (summary : GenerationSummary) : Bool :=
  summary.everyDiagnostic.any (·.isSevere)

/-- Whether some output is stale. -/
def anyStale (summary : GenerationSummary) : Bool :=
  summary.support == some .wouldChange || summary.targets.any (·.state == .wouldChange)

/-- How many icons the sources declare. -/
def iconTotal (summary : GenerationSummary) : Nat :=
  summary.targets.foldr (fun target total => target.iconTotal + total) 0

end GenerationSummary

/-- A step of a run that observers are told of. -/
inductive Progress where
  | phase (name : String)
  /-- A target is done, as the `current` one of `total`. -/
  | targetDone (summary : TargetSummary) (current total : Nat)
  /-- The run is complete. -/
  | complete (targets : Nat)
  deriving DecidableEq

namespace Generation

/-- The error that a file could not be written. -/
def unwritable (path : String) (failure : Failure) : Diagnostic where
  topic := .unwritable
  message := s!"error generating {path}: {failure.message}"
  path := some path

/-- The warning that a target has no icons. -/
def nothingFound (target : Target) : Diagnostic :=
  match target.pattern with
  | none => Rendering.noIcons target.container
  | some pattern =>
    { Rendering.noIcons target.container with
      message := s!"no SVG icons matched pattern `{pattern}` for `{target.container.display}`" }

/-- Write the manifest of a target whose source got the given state. -/
def writeManifest (workspace : Workspace) (check : Bool) (target : Target) (text : String)
    (icons : List Icon) (state : FileState) :
    Except (String × Failure) FileState × Workspace :=
  match target.manifest with
  | none => (.ok state, workspace)
  | some path =>
    let manifest := Manifest.make target.container icons (Digest.hexDigest text.toUTF8)
    match GeneratedFile.update workspace check path manifest.render with
    | (.ok manifestState, next) => (.ok (state.combine manifestState), next)
    | (.error failure, next) => (.error (path, failure), next)

/-- Write the source of a target and then its manifest.  A failure comes with
    the path of the file that could not be written. -/
def writeTarget (workspace : Workspace) (check : Bool) (target : Target) (text : String)
    (icons : List Icon) : Except (String × Failure) FileState × Workspace :=
  match GeneratedFile.update workspace check target.output text with
  | (.error failure, next) => (.error (target.output, failure), next)
  | (.ok state, next) => writeManifest next check target text icons state

/-- The collection of a target's icons. -/
def collectTarget (target : Target) (assets : List Asset) (root : String) : Collection :=
  Collection.ofAssets (target.pattern.map fun pattern => .ofPattern pattern root) assets

/-- Serve one target. -/
def serve (workspace : Workspace) (target : Target) (assets : List Asset)
    (root iconType : String) (check : Bool) : TargetSummary × Workspace :=
  let collection := collectTarget target assets root
  match Rendering.ofIcons target.container iconType collection.icons with
  | .empty _ =>
    ({ container := target.container
       output := target.output
       state := .skipped
       iconTotal := 0
       diagnostics := collection.diagnostics ++ [nothingFound target] }, workspace)
  | .source text icons renamed =>
    let summary (state : TargetState) (diagnostics : List Diagnostic) : TargetSummary :=
      { container := target.container
        output := target.output
        state := state
        iconTotal := icons.length
        diagnostics := collection.diagnostics ++ renamed ++ diagnostics }
    match writeTarget workspace check target text icons with
    | (.ok state, next) => (summary (.ofWrite state) [], next)
    | (.error (path, failure), next) => (summary .failed [unwritable path failure], next)

/-- Serve targets, the first of which is number `current` of `total`. -/
def serveAll (plan : GenerationPlan) (assets : List Asset) (total : Nat) :
    Nat → Workspace → List Target → List TargetSummary × List Progress × Workspace
  | _, workspace, [] => ([], [], workspace)
  | current, workspace, target :: rest =>
    let (summary, next) :=
      serve workspace target assets plan.root plan.iconType plan.check
    let (summaries, progress, final) := serveAll plan assets total (current + 1) next rest
    (summary :: summaries, .targetDone summary current total :: progress, final)

/-- The summary of a target of a run without a root. -/
def skipped (target : Target) : TargetSummary where
  container := target.container
  output := target.output
  state := .skipped
  iconTotal := 0
  diagnostics := []

/-- The warning that there is no root. -/
def missingRoot (root : String) : Diagnostic where
  topic := .noRoot
  message := s!"root directory not found: {root}"
  path := some root

/-- Write the source of the support type, if asked for.  The answer is its
    state, the errors, and the progress. -/
def writeSupport (workspace : Workspace) (plan : GenerationPlan) :
    Option TargetState × List Diagnostic × List Progress × Workspace :=
  match plan.supportOutput with
  | none => (none, [], [], workspace)
  | some path =>
    let progress := [.phase "Writing support type"]
    match GeneratedFile.update workspace plan.check path SupportType.source with
    | (.ok state, next) => (some (.ofWrite state), [], progress, next)
    | (.error failure, next) => (some .failed, [unwritable path failure], progress, next)

/-- Run with the assets that were found. -/
def runFound (workspace : Workspace) (plan : GenerationPlan) (found : Search) :
    GenerationSummary × List Progress × Workspace :=
  let (support, errors, supportProgress, supported) := writeSupport workspace plan
  let (summaries, targetProgress, final) :=
    serveAll plan found.assets plan.targets.length 1 supported plan.targets
  ({ targets := summaries
     diagnostics := found.diagnostics ++ errors
     support := support },
   [.phase "Discovering assets"] ++ supportProgress ++ [.phase "Generating targets"]
     ++ targetProgress ++ [.complete summaries.length],
   final)

/-- The summary of a run without a root. -/
def rootless (plan : GenerationPlan) : GenerationSummary where
  targets := plan.targets.map skipped
  diagnostics := [missingRoot plan.root]
  support := none

/-- Carry out a run: its summary or the reason why there is none, the progress,
    and the workspace after it. -/
def carryOut (workspace : Workspace) (plan : GenerationPlan) :
    Except Failure GenerationSummary × List Progress × Workspace :=
  match Target.requireAllFit plan.targets with
  | .error failure => (.error failure, [], workspace)
  | .ok () =>
    if workspace.isDirectory plan.root then
      match Search.below workspace plan.root plan.extension true with
      | .error failure => (.error failure, [.phase "Discovering assets"], workspace)
      | .ok found =>
        let (summary, progress, final) := runFound workspace plan found
        (.ok summary, progress, final)
    else
      let summary := rootless plan
      (.ok summary, [.complete summary.targets.length], workspace)

end Generation

end IconCompiler
