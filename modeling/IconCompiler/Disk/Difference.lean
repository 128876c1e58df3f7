import IconCompiler.Disk.Basic
import IconCompiler.Text.Split

/-! # Disk differences

    What has changed below a directory between two states of a disk. -/

namespace IconCompiler

namespace Disk

/-- The entries below a directory, under the paths that lead to them from
    there. -/
def below (disk : Disk) (directory : Location) : List (String × Entry) :=
  disk.entries.entries.filterMap fun (location, entry) =>
    if directory.isPrefixOf location ∧ location ≠ directory then
      some (Text.joinWith "/" (location.drop directory.length), entry)
    else none

/-- What has changed. -/
structure Difference where
  /-- The entries that are new or different. -/
  changed : List (String × Entry)
  /-- The paths of the entries that are gone, in order. -/
  removed : List String
  deriving DecidableEq

/-- What has changed below a directory. -/
def difference (before after : Disk) (directory : Location) : Difference where
  changed := (after.below directory).filter fun (path, entry) =>
    (before.below directory).lookup path != some entry
  removed :=
    ((before.below directory).map Prod.fst).filter (fun path =>
      ((after.below directory).lookup path).isNone) |>.mergeSort fun a b => !decide (b < a)

end Disk

end IconCompiler
