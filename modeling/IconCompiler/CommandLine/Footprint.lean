import IconCompiler.CommandLine.Program

/-! # Footprints

    What a command has to see of a disk: the directory that it searches, and
    the single files that it reads or writes. -/

namespace IconCompiler

/-- What has to be seen of a disk. -/
structure Footprint where
  /-- A directory that is searched for files with an extension. -/
  search : Option (String × String)
  files : List String
  deriving DecidableEq

namespace Footprint

/-- A file that is written, and the one beside it that is written first. -/
def written (path : String) : List String :=
  match GeneratedFile.plan path with
  | .ok plan => [path, plan.temporary]
  | .error _ => [path]

/-- The footprint of a run. -/
def ofPlan (plan : GenerationPlan) : Footprint where
  search := some (plan.root, plan.extension)
  files :=
    (plan.supportOutput.toList ++ plan.targets.flatMap fun target =>
      target.output :: target.manifest.toList).flatMap written

end Footprint

namespace CommandLine

/-- The path of the settings that an invocation reads. -/
def Invocation.settingsPath (directory : String) (invocation : Invocation) : String :=
  invocation.settingsFile.getD (Settings.pathIn directory)

/-- The footprint of a command with the given settings, its settings file
    aside. -/
def Command.footprint (settings : Settings) : Command → Footprint
  | .generate overrides =>
    match overrides.apply settings with
    | .ok plan => .ofPlan plan
    | .error _ => ⟨none, []⟩
  | .list root _ => ⟨some (root.getD settings.defaults.root, settings.defaults.extension), []⟩
  | .support path =>
    ⟨none, (path.or settings.defaults.supportOutput).toList.flatMap Footprint.written⟩
  | .createSettings | .showSettings => ⟨none, []⟩

end CommandLine

end IconCompiler
