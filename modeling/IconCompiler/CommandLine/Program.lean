import IconCompiler.CommandLine.Command

/-! # The program

    A command is carried out on a workspace.  What it prints goes to one of two
    streams; diagnostics go to the second one. -/

namespace IconCompiler.CommandLine

open Text

/-- Why a command fails. -/
inductive CommandFailure where
  | failure (cause : Failure)
  | misfit (cause : Misfit)
  /-- Something could not be written. -/
  | targetsFailed
  /-- Some output is stale. -/
  | stale
  /-- Nothing says where the support type goes. -/
  | noSupportOutput
  deriving DecidableEq

/-- The message of a failed command. -/
def CommandFailure.message : CommandFailure → String
  | failure cause => cause.message
  | misfit cause => cause.message
  | targetsFailed => "generation failed for one or more targets"
  | stale => "generated output is out of date; run `iconforge generate` to update it"
  | noSupportOutput => "no output path: pass --out or set defaults.support_output"

/-- A piece of printed text. -/
inductive Piece where
  | text (s : String)
  /-- The time that the command took, which is known only in the end. -/
  | elapsed
  deriving DecidableEq

/-- The text of a piece. -/
def Piece.toText (elapsed : String) : Piece → String
  | .text s => s
  | .elapsed => elapsed

/-- What a command has printed, and how it ended. -/
structure Outcome where
  output : List Piece
  diagnostics : List Diagnostic
  result : Except CommandFailure Unit

namespace Outcome

/-- A command that prints nothing and fails. -/
def failed (failure : CommandFailure) : Outcome := ⟨[], [], .error failure⟩

/-- A command that prints a text and succeeds. -/
def printed (text : String) : Outcome := ⟨[.text text], [], .ok ()⟩

/-- What is printed. -/
def outputText (outcome : Outcome) (elapsed : String) : String :=
  String.join (outcome.output.map (·.toText elapsed))

/-- What is printed about diagnostics. -/
def diagnosticText (outcome : Outcome) : String :=
  String.join (outcome.diagnostics.map fun diagnostic =>
    diagnostic.severity.label ++ ": " ++ diagnostic.display ++ "\n")

/-- The code that the program ends with. -/
def exitCode (outcome : Outcome) : Nat :=
  match outcome.result with
  | .ok () => 0
  | .error _ => 1

end Outcome

/-- The settings that an invocation names, or those of the working directory. -/
def resolveSettings (workspace : Workspace) : Option String → Except Failure Settings
  | some path => Settings.loadFile workspace path
  | none => Settings.load workspace workspace.directoryPath

/-! ## Generating -/

/-- The line about a target. -/
def targetLine (summary : TargetSummary) : String :=
  "  " ++ padRight 24 summary.container.display ++ " " ++ padLeft 4 (toString summary.iconTotal)
    ++ " icons  " ++ padRight 12 summary.state.label ++ " " ++ summary.output ++ "\n"

/-- The line about the support type, which has no count. -/
def supportLine (state : TargetState) : String :=
  "  " ++ padRight 24 "support type" ++ " " ++ padLeft 4 "" ++ "        "
    ++ padRight 12 state.label ++ "\n"

/-- What is printed about a run. -/
def summaryPieces (summary : GenerationSummary) (check : Bool) : List Piece :=
  let suffix := if check then ", check only" else ""
  [.text "\n"] ++ summary.targets.map (fun target => .text (targetLine target))
    ++ summary.support.toList.map (fun state => .text (supportLine state))
    ++ [.text s!"\n  {summary.iconTotal} icons in {summary.targets.length} target(s){suffix} (",
        .elapsed, .text ")\n\n"]

/-- How a run ends the program. -/
def summaryResult (summary : GenerationSummary) : Except CommandFailure Unit :=
  if summary.anyFailed then .error .targetsFailed
  else if summary.anyStale then .error .stale
  else .ok ()

/-- Carry out a run. -/
def runPlan (workspace : Workspace) (plan : GenerationPlan) : Outcome × Workspace :=
  match Generation.carryOut workspace plan with
  | (.error failure, _, next) => (.failed (.failure failure), next)
  | (.ok summary, _, next) =>
    ({ output := summaryPieces summary plan.check
       diagnostics := summary.everyDiagnostic
       result := summaryResult summary }, next)

/-- Generate what settings and overrides ask for. -/
def runGenerate (workspace : Workspace) (settings : Settings) (overrides : Overrides) :
    Outcome × Workspace :=
  match overrides.apply settings with
  | .error misfit => (.failed (.misfit misfit), workspace)
  | .ok plan => runPlan workspace plan

/-! ## The other commands -/

/-- The line about an icon. -/
def iconLine (root : String) (found : FoundIcon) : String :=
  padRight 32 found.icon.identifier ++ " " ++ RelativePath.relativeTo root found.path ++ "\n"

/-- List the icons below a root. -/
def runList (workspace : Workspace) (root extension : String) (pattern : Option String) :
    Outcome :=
  match Search.below workspace root extension true with
  | .error failure => .failed (.failure failure)
  | .ok found =>
    let collection :=
      Collection.ofAssets (pattern.map fun pattern => .ofPattern pattern root) found.assets
    { output := collection.found.map fun icon => .text (iconLine root icon)
      diagnostics := found.diagnostics ++ collection.diagnostics
      result := .ok () }

/-- Write the source of the support type. -/
def writeSupport (workspace : Workspace) (path : String) : Outcome × Workspace :=
  match GeneratedFile.update workspace false path SupportType.source with
  | (.error failure, next) => (.failed (.failure failure), next)
  | (.ok state, next) => (.printed s!"{path}: {state.label}\n", next)

/-- Write the source of the support type where the settings want it. -/
def runSupport (workspace : Workspace) (settings : Settings) : Outcome × Workspace :=
  match settings.defaults.supportOutput with
  | none => (.failed .noSupportOutput, workspace)
  | some path => writeSupport workspace path

/-- Write the settings that a project starts with. -/
def runCreate (workspace : Workspace) : Outcome × Workspace :=
  match Settings.create workspace workspace.directoryPath with
  | (.error failure, next) => (.failed (.failure failure), next)
  | (.ok path, next) => (.printed s!"Config initialized at: {path}\n", next)

/-- Go on with the settings that an invocation names. -/
def withSettings (workspace : Workspace) (file : Option String)
    (run : Settings → Outcome × Workspace) : Outcome × Workspace :=
  match resolveSettings workspace file with
  | .error failure => (.failed (.failure failure), workspace)
  | .ok settings => run settings

/-- Carry out an invocation. -/
def run (workspace : Workspace) (invocation : Invocation) : Outcome × Workspace :=
  match invocation.command with
  | .generate overrides =>
    withSettings workspace invocation.settingsFile fun settings =>
      runGenerate workspace settings overrides
  | .list root pattern =>
    withSettings workspace invocation.settingsFile fun settings =>
      (runList workspace (root.getD settings.defaults.root) settings.defaults.extension pattern,
        workspace)
  | .support (some path) => writeSupport workspace path
  | .support none =>
    withSettings workspace invocation.settingsFile fun settings => runSupport workspace settings
  | .createSettings => runCreate workspace
  | .showSettings =>
    withSettings workspace invocation.settingsFile fun settings =>
      (.printed (settings.render ++ "\n"), workspace)

end IconCompiler.CommandLine
