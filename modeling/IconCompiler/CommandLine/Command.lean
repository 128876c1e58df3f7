import IconCompiler.CommandLine.Reading
import IconCompiler.Settings

/-! # Commands

    What a command line asks for.  The options of a command add to the settings
    of the project or take their place. -/

namespace IconCompiler.CommandLine

/-- What the command line says about a run. -/
structure Overrides where
  root : Option String := none
  pattern : Option String := none
  modulePath : Option String := none
  /-- The name of a target that takes the place of all others. -/
  name : Option String := none
  output : Option String := none
  manifest : Option String := none
  check : Bool := false
  deriving DecidableEq

/-- What is to be done. -/
inductive Command where
  | generate (overrides : Overrides)
  /-- Show the icons that would be generated. -/
  | list (root pattern : Option String)
  /-- Write the source of the support type. -/
  | support (output : Option String)
  | createSettings
  | showSettings
  deriving DecidableEq

/-- What is to be done, and with which settings. -/
structure Invocation where
  command : Command
  /-- The file of the settings; the standard one if none is named. -/
  settingsFile : Option String
  deriving DecidableEq

namespace Command

/-- What the options read in a scope ask for; nothing if a command is still to
    come. -/
def ofReading? (reading : Reading) : Scope → Option Command
  | .program | .settings => none
  | .generate => some (.generate {
      root := reading.value? "root"
      pattern := reading.value? "pattern"
      modulePath := reading.value? "namespace"
      name := reading.value? "name"
      output := reading.value? "out"
      manifest := reading.value? "manifest"
      check := (reading.value? "check").isSome })
  | .list => some (.list (reading.value? "root") (reading.value? "pattern"))
  | .support => some (.support (reading.value? "out"))
  | .create => some .createSettings
  | .display => some .showSettings

end Command

namespace Invocation

/-- Complete the options of a scope that no command follows. -/
def complete (environment : Option String) (scope : Scope) (reading : Reading) :
    Except Refusal Invocation := do
  let settled ← reading.settle
  let completed ← settled.addEnvironment environment
  match Command.ofReading? completed scope with
  | some command => return ⟨command, settled.value? "config"⟩
  | none => .error (if completed.given.isEmpty then .nothingGiven else .noCommand)

/-- Complete the options of a scope around that of a command.  An option that
    stands in the inner scope counts more. -/
def surround (environment : Option String) (reading : Reading) (inner : Invocation) :
    Except Refusal Invocation := do
  let settled ← reading.settle
  let _ ← settled.addEnvironment environment
  return { inner with settingsFile := inner.settingsFile.or (settled.value? "config") }

/-- Read the words of a scope and those of the scopes inside it. -/
def readFrom (environment : Option String) (scope : Scope) (words : List String) :
    Except Refusal Invocation :=
  match h : Reading.readScope scope {} words with
  | .error refusal => .error refusal
  | .ok (reading, none) => complete environment scope reading
  | .ok (reading, some (inner, rest)) =>
    have := Reading.length_of_readScope h
    match readFrom environment inner rest with
    | .error refusal => .error refusal
    | .ok invocation => surround environment reading invocation
termination_by words.length

/-- What the words of a command line ask for.  The environment may name the
    file of the settings. -/
def read (environment : Option String) (words : List String) : Except Refusal Invocation :=
  (readFrom environment .program words).map fun invocation =>
    { invocation with settingsFile := invocation.settingsFile.or environment }

end Invocation

/-! ## Overriding settings -/

/-- Why overrides do not fit the settings. -/
inductive Misfit where
  /-- A target is named, but not its output. -/
  | nameWithoutOutput
  /-- An output is named, but there is not one target that it could belong to. -/
  | ambiguousOutput
  deriving DecidableEq

namespace Misfit

/-- The wording of a misfit. -/
def message : Misfit → String
  | nameWithoutOutput => "--name requires --out"
  | ambiguousOutput => "--out and --manifest need --name or exactly one configured target"

end Misfit

namespace Overrides

/-- The target that overrides name, if they name one. -/
def ownTarget? (overrides : Overrides) : Option (Except Misfit Target) :=
  overrides.name.map fun name =>
    match overrides.output with
    | none => .error .nameWithoutOutput
    | some output =>
      .ok {
        name := name
        modulePath := overrides.modulePath
        pattern := overrides.pattern
        output := output
        manifest := overrides.manifest }

/-- Give the only target other files. -/
def redirect (overrides : Overrides) (targets : List Target) : Except Misfit (List Target) :=
  if overrides.output.isNone ∧ overrides.manifest.isNone then .ok targets
  else
    match targets with
    | [target] =>
      .ok [{ target with
        output := overrides.output.getD target.output
        manifest := overrides.manifest.or target.manifest }]
    | _ => .error .ambiguousOutput

/-- Give a target another pattern and another module path. -/
def adjust (overrides : Overrides) (target : Target) : Target :=
  { target with
    pattern := overrides.pattern.or target.pattern
    modulePath := overrides.modulePath.or target.modulePath }

/-- The targets of a run. -/
def targets (overrides : Overrides) (settings : List Target) : Except Misfit (List Target) :=
  match overrides.ownTarget? with
  | some (.ok target) => .ok [target]
  | some (.error misfit) => .error misfit
  | none => (overrides.redirect settings).map fun targets => targets.map overrides.adjust

/-- The run that settings ask for, with what overrides change. -/
def apply (overrides : Overrides) (settings : Settings) : Except Misfit GenerationPlan :=
  (overrides.targets settings.targets).map fun targets =>
    { settings.toPlan with
      root := overrides.root.getD settings.defaults.root
      targets := targets
      check := overrides.check }

end Overrides

end IconCompiler.CommandLine
