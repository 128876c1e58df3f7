import IconCompiler.Disk.Workspace
import IconCompiler.Failure
import IconCompiler.Generation
import IconCompiler.Target
import IconCompiler.Toml.Document
import IconCompiler.Toml.Printer

/-! # Settings

    The settings of a project are kept as a TOML document: defaults for all
    targets, and the targets.  What is left out takes its default. -/

namespace IconCompiler

open Disk Toml

/-- What holds for all targets. -/
structure Defaults where
  /-- The directory where assets are looked for. -/
  root : String := "."
  /-- The extension of assets. -/
  extension : String := "svg"
  /-- The path of the support type. -/
  iconType : String := "crate::icon::Icon"
  /-- Where the source of the support type goes, if anywhere. -/
  supportOutput : Option String := none
  deriving DecidableEq

/-- The settings of a project. -/
structure Settings where
  defaults : Defaults := {}
  targets : List Target := []
  deriving DecidableEq

/-! ## Reading -/

/-- The text of a field that may be absent. -/
def optionalField? : Option Value → Option (Option String)
  | none => some none
  | some value => value.text?.map some

/-- The text of a field that must be there. -/
def requiredField? (field : Option Value) : Option String :=
  field.bind Value.text?

/-- The defaults that a value gives. -/
def Defaults.ofValue? (value : Value) : Option Defaults := do
  let [root, extension, iconType, supportOutput] ←
    value.fields? ["root", "extension", "icon_type", "support_output"] | none
  let standard : Defaults := {}
  return {
    root := (← optionalField? root).getD standard.root
    extension := (← optionalField? extension).getD standard.extension
    iconType := (← optionalField? iconType).getD standard.iconType
    supportOutput := ← optionalField? supportOutput }

/-- The target that a value describes. -/
def Target.ofValue? (value : Value) : Option Target := do
  let [name, modulePath, pattern, output, manifest] ←
    value.fields? ["name", "namespace", "pattern", "output", "manifest"] | none
  return {
    name := ← requiredField? name
    modulePath := ← optionalField? modulePath
    pattern := ← optionalField? pattern
    output := ← requiredField? output
    manifest := ← optionalField? manifest }

/-- The targets that a value lists. -/
def targetsOfValue? : Value → Option (List Target)
  | .array items => items.mapM Target.ofValue?
  | _ => none

namespace Settings

/-- The settings that a value gives. -/
def ofValue? (value : Value) : Option Settings := do
  let [defaults, targets] ← value.fields? ["defaults", "targets"] | none
  return {
    defaults := ← (defaults.map Defaults.ofValue?).getD (some {})
    targets := ← (targets.map targetsOfValue?).getD (some []) }

/-- The settings that a document gives. -/
def parse? (text : String) : Option Settings :=
  (Toml.parse? text).bind ofValue?

end Settings

/-! ## Printing -/

/-- The pair of a field that may be absent. -/
def optionalPair (key : String) (text : Option String) : List (String × String) :=
  text.toList.map fun text => (key, text)

/-- The pairs that give defaults. -/
def Defaults.toPairs (defaults : Defaults) : List (String × String) :=
  [("root", defaults.root), ("extension", defaults.extension), ("icon_type", defaults.iconType)]
    ++ optionalPair "support_output" defaults.supportOutput

/-- The pairs that describe a target. -/
def Target.toPairs (target : Target) : List (String × String) :=
  [("name", target.name)] ++ optionalPair "namespace" target.modulePath
    ++ optionalPair "pattern" target.pattern ++ [("output", target.output)]
    ++ optionalPair "manifest" target.manifest

namespace Settings

/-- The parts of the document that gives settings.  Without targets it says so
    in front of all tables. -/
def parts (settings : Settings) : List (List Char) :=
  (if settings.targets.isEmpty then ["targets = []\n".toList] else [])
    ++ [printTable "[defaults]" settings.defaults.toPairs]
    ++ settings.targets.map fun target => printTable "[[targets]]" target.toPairs

/-- The document that gives settings; an empty line separates its parts. -/
def render (settings : Settings) : String :=
  String.ofList (['\n'].intercalate settings.parts)

/-! ## Files -/

/-- The name of the file that holds settings. -/
def fileName : String := "iconforge.toml"

/-- The path of the settings of a directory. -/
def pathIn (directory : String) : String :=
  Path.join directory fileName

/-- The settings that the file at a path gives. -/
def loadFile (workspace : Workspace) (path : String) : Except Failure Settings :=
  match workspace.readText path with
  | .error fault => .error (.io path fault)
  | .ok text =>
    match parse? text with
    | none => .error (.badConfig path)
    | some settings => .ok settings

/-- The settings of a directory; the standard ones if it has no file for them. -/
def load (workspace : Workspace) (directory : String) : Except Failure Settings :=
  if workspace.pathExists (pathIn directory) then loadFile workspace (pathIn directory)
  else .ok {}

/-- The settings that a project starts with. -/
def starter : Settings where
  targets := [{
    name := "icons"
    modulePath := none
    pattern := some "icons/**/*.svg"
    output := "src/icons.rs"
    manifest := none }]

/-- Write a settings file into a directory that has none.  The answer is its
    path. -/
def create (workspace : Workspace) (directory : String) :
    Except Failure String × Workspace :=
  if workspace.pathExists (pathIn directory) then
    (.error (.configExists (pathIn directory)), workspace)
  else
    match workspace.makeDirectories directory with
    | (.error fault, next) => (.error (.io directory fault), next)
    | (.ok (), next) =>
      match next.write (pathIn directory) starter.render.toUTF8 with
      | .error fault => (.error (.io (pathIn directory) fault), next)
      | .ok final => (.ok (pathIn directory), final)

/-- The run that settings ask for. -/
def toPlan (settings : Settings) : GenerationPlan where
  root := settings.defaults.root
  extension := settings.defaults.extension
  iconType := settings.defaults.iconType
  supportOutput := settings.defaults.supportOutput
  targets := settings.targets
  check := false

end Settings

end IconCompiler
