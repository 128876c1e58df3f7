import IconCompiler.CommandLine.Footprint

/-! # Command line

    Loads what a command has to see of the real disk, carries the command out
    on that copy, and then makes the same changes to the real disk. -/

namespace IconCompiler.Main

open CommandLine

/-- The path of a location. -/
def pathOf (location : Location) : String :=
  "/" ++ Text.joinWith "/" location

/-- The location of a path that starts at the root. -/
def locationOf (path : String) : Location :=
  (Path.Route.parse path).names

/-- Put the directories around a location on a disk. -/
def putAround (disk : Disk) (location : Location) : Disk :=
  (List.range location.length).foldl (fun disk count =>
    if (disk.entry? (location.take count)).isSome then disk
    else disk.put (location.take count) .directory) disk

/-- The real entry at a location, without following a link there.  A link leads
    where it leads in the end; files are read only on demand. -/
def realEntry? (location : Location) (content : Bool) : IO (Option Entry) := do
  let path := (← IO.currentDir) / pathOf location
  try
    match (← path.symlinkMetadata).type with
    | .dir => return some .directory
    | .symlink =>
      try return some (.link (← IO.FS.realPath path).toString)
      catch _ => return some (.link (pathOf (location.dropLast ++ [".", "missing", "link"])))
    | _ => return some (.file (← if content then IO.FS.readBinFile path else pure .empty))
  catch _ => return none

/-- Load what lies on the way from a directory along some names.  The answer has
    the location where the way ends. -/
partial def loadWay (disk : Disk) (directory : Location) (names : List String) :
    IO (Disk × Location) := do
  match names with
  | [] => return (disk, directory)
  | "." :: rest => loadWay disk directory rest
  | ".." :: rest => loadWay disk directory.dropLast rest
  | name :: rest =>
    let location := directory ++ [name]
    match ← realEntry? location true with
    | none => return (disk, location)
    | some (.link target) =>
      let linked := (putAround disk location).put location (.link target)
      loadWay linked [] (locationOf target ++ rest)
    | some entry => loadWay ((putAround disk location).put location entry) location rest

/-- Load all that can be reached from a directory; of files outside `wanted`
    nothing but the name. -/
partial def loadTree (wanted : String → Bool) (seen : List Location) (disk : Disk)
    (directory : Location) : IO (List Location × Disk) := do
  if seen.contains directory then return (seen, disk)
  let path := (← IO.currentDir) / pathOf directory
  let mut seen := directory :: seen
  let mut disk := disk
  for found in ← (try path.readDir catch _ => pure #[]) do
    let location := directory ++ [found.fileName]
    match ← realEntry? location (wanted found.fileName) with
    | none => pure ()
    | some (.link target) =>
      let (loaded, place) ← loadWay (disk.put location (.link target)) [] (locationOf target)
      disk := loaded
      if disk.entry? place = some .directory then
        (seen, disk) ← loadTree wanted seen disk place
    | some .directory =>
      (seen, disk) ← loadTree wanted seen (disk.put location .directory) location
    | some entry =>
      if (disk.entry? location).isNone then disk := disk.put location entry
  return (seen, disk)

/-- Load what lies on the way of a path. -/
def loadPath (workspace : Workspace) (path : String) : IO (Workspace × Location) := do
  let route := Path.Route.parse path
  let (disk, place) ← loadWay workspace.disk (workspace.origin route) route.names
  return ({ workspace with disk }, place)

/-- Load a footprint. -/
def loadFootprint (workspace : Workspace) (footprint : Footprint) : IO Workspace := do
  let mut workspace := workspace
  for path in footprint.files do
    workspace := (← loadPath workspace path).1
  match footprint.search with
  | none => return workspace
  | some (root, extension) =>
    let (loaded, place) ← loadPath workspace root
    let (_, disk) ← loadTree (Search.extensionIs extension) [] loaded.disk place
    return { loaded with disk }

/-- Make a change to the real disk. -/
def commit : Change → IO Unit
  | .makeDirectory location => IO.FS.createDir (pathOf location)
  | .makeLink _ _ => pure ()
  | .writeFile location content => IO.FS.writeBinFile (pathOf location) content
  | .move source target => IO.FS.rename (pathOf source) (pathOf target)
  | .remove location => IO.FS.removeFile (pathOf location)

/-- A time in seconds, with two decimals. -/
def seconds (milliseconds : Nat) : String :=
  let hundredths := (milliseconds + 5) / 10
  let rest := toString (hundredths % 100)
  toString (hundredths / 100) ++ "." ++ (if rest.length = 1 then "0" ++ rest else rest) ++ "s"

/-- The commands and their options. -/
def usage : String :=
  String.join ([
    "Usage: iconforge [--config FILE] [--log-format text|json] [-v]... COMMAND",
    "",
    "Commands:",
    "  generate [--root DIR] [-p GLOB] [--namespace PATH] [-n NAME] [-o FILE]",
    "           [--manifest FILE] [--check]",
    "  list [--root DIR] [-p GLOB]",
    "  support [-o FILE]",
    "  config init",
    "  config show"].map (· ++ "\n"))

/-- The wording of a refusal that is a mistake. -/
def complaint : Refusal → String
  | .help | .version | .nothingGiven => ""
  | .noCommand => "error: a command is missing\n\n"
  | .unknownCommand => "error: unknown command\n\n"
  | .unknownArgument => "error: unexpected argument\n\n"
  | .badValue => "error: the value of an option is missing or invalid\n\n"
  | .repeated => "error: an option is given more than once\n\n"
  | .needlessValue => "error: an option takes no value\n\n"

/-- Tell why nothing is done. -/
def refuse (refusal : Refusal) : IO UInt32 := do
  match refusal with
  | .help =>
    IO.print usage
    return 0
  | .version =>
    IO.println "iconforge 0.1.0"
    return 0
  | _ =>
    IO.eprint (complaint refusal ++ usage)
    return 2

/-- Carry out an invocation on the real disk. -/
def perform (invocation : Invocation) : IO UInt32 := do
  let started ← IO.monoMsNow
  let here := locationOf (← IO.currentDir).toString
  let bare := Workspace.ofDisk ((putAround .empty here).put here .directory) here
  let (start, _) ← loadPath bare (invocation.settingsPath bare.directoryPath)
  let footprint := match resolveSettings start invocation.settingsFile with
    | .ok settings => invocation.command.footprint settings
    | .error _ => invocation.command.footprint {}
  let workspace ← loadFootprint start footprint
  let (outcome, final) := run workspace invocation
  final.journal.forM commit
  IO.eprint outcome.diagnosticText
  IO.print (outcome.outputText (seconds ((← IO.monoMsNow) - started)))
  match outcome.result with
  | .ok () => pure ()
  | .error failure => IO.eprintln ("Error: " ++ failure.message)
  return outcome.exitCode.toUInt32

end IconCompiler.Main

/-- Read the command line and carry out what it asks for. -/
def main (args : List String) : IO UInt32 := do
  match IconCompiler.CommandLine.Invocation.read (← IO.getEnv "ICONFORGE_CONFIG") args with
  | .ok invocation => IconCompiler.Main.perform invocation
  | .error refusal => IconCompiler.Main.refuse refusal
