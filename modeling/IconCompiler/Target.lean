import IconCompiler.Container
import IconCompiler.Failure
import IconCompiler.ItemName

/-! # Targets

    A target is one source file to generate: which icons go into it and under
    which names. -/

namespace IconCompiler

open Text

/-- One source file to generate. -/
structure Target where
  /-- The module that holds the constants. -/
  name : String
  /-- The modules around it. -/
  modulePath : Option String
  /-- Which assets are taken; all of them without a pattern. -/
  pattern : Option String
  /-- The source file. -/
  output : String
  /-- The manifest file. -/
  manifest : Option String
  deriving DecidableEq

namespace Target

/-- The container of a target's constants. -/
def container (target : Target) : Container :=
  Container.make target.modulePath target.name

/-- A target is fit for use if its modules have names that can be used and it
    has an output. -/
def requireFit (target : Target) : Except Failure Unit :=
  if !ItemName.isValid target.name then .error (.badTargetName target.name)
  else
    match target.container.segments.find? fun segment => !ItemName.isValid segment with
    | some segment => .error (.badSegment segment target.name)
    | none => if allBlank target.output then .error (.noOutput target.name) else .ok ()

/-- A run needs targets, and all of them fit for use; the first that is not is
    complained about. -/
def requireAllFit (targets : List Target) : Except Failure Unit :=
  if targets.isEmpty then .error .noTargets else targets.forM requireFit

end Target

end IconCompiler
