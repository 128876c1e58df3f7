import IconCompiler.OrderedMap

/-! # Disks

    A disk holds files, directories and links, each at a location: the names
    that lead to it from the root.  The root is always a directory. -/

namespace IconCompiler

/-- The contents of files are compared byte by byte, whatever else is imported. -/
instance decidableEqContent : DecidableEq ByteArray := ByteArray.instDecidableEq

/-- The names that lead from the root to an entry. -/
abbrev Location := List String

/-- What stands at a location. -/
inductive Entry where
  | file (content : ByteArray)
  | directory
  /-- A link to the path `target`. -/
  | link (target : String)
  deriving DecidableEq

/-- The entries of a disk, the root excepted. -/
structure Disk where
  entries : OrderedMap Location Entry
  deriving DecidableEq

/-- One change to a disk. -/
inductive Change where
  | makeDirectory (location : Location)
  | makeLink (location : Location) (target : String)
  | writeFile (location : Location) (content : ByteArray)
  /-- Give a file or link another place. -/
  | move (source target : Location)
  /-- Remove an entry and all below it. -/
  | remove (location : Location)
  deriving DecidableEq

namespace Disk

/-- A disk with nothing but its root. -/
def empty : Disk := ⟨.empty⟩

instance : Inhabited Disk := ⟨empty⟩

/-- What stands at a location. -/
def entry? (disk : Disk) (location : Location) : Option Entry :=
  if location = [] then some .directory else disk.entries.find? location

/-- Put an entry at a location, in place of what is there. -/
def put (disk : Disk) (location : Location) (entry : Entry) : Disk :=
  ⟨disk.entries.insert location entry⟩

/-- Remove the entry at a location and all entries below it. -/
def erase (disk : Disk) (location : Location) : Disk :=
  ⟨disk.entries.filterKeys fun other => !location.isPrefixOf other⟩

/-- The disk after a change. -/
def apply (disk : Disk) : Change → Disk
  | .makeDirectory location => disk.put location .directory
  | .makeLink location target => disk.put location (.link target)
  | .writeFile location content => disk.put location (.file content)
  | .move source target =>
    match disk.entry? source with
    | none => disk
    | some entry => (disk.erase source).put target entry
  | .remove location => disk.erase location

/-- Whether the first of two named entries comes no later, by their names. -/
def nameLe (a b : String × Entry) : Bool :=
  !decide (b.1 < a.1)

/-- The entries that stand directly in a directory, in the order of their
    names. -/
def children (disk : Disk) (location : Location) : List (String × Entry) :=
  (disk.entries.entries.filterMap fun (other, entry) =>
    match other.getLast? with
    | some name => if other.dropLast = location then some (name, entry) else none
    | none => none).mergeSort nameLe

end Disk

end IconCompiler
