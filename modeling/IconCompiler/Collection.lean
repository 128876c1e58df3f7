import IconCompiler.Asset
import IconCompiler.Diagnostic
import IconCompiler.Failure
import IconCompiler.ItemName
import IconCompiler.Markup.Document
import IconCompiler.PathPattern
import IconCompiler.RelativePath

/-! # Collections

    The assets that a pattern selects are turned into icons, one by one
    and in order.  An asset that cannot be read is set aside and does not affect
    the others; of several assets with one path only the first counts. -/

namespace IconCompiler

/-- An asset that cannot be made into an icon. -/
structure Rejection where
  path : String
  error : Markup.Error
  deriving DecidableEq

namespace Rejection

/-- Why the asset is set aside. -/
def reason (rejection : Rejection) : String :=
  (Failure.markup rejection.error).message

/-- The warning about the asset. -/
def diagnostic (rejection : Rejection) : Diagnostic where
  topic := .unreadable
  message := s!"error parsing SVG file {rejection.path}: {rejection.reason}"
  path := some rejection.path

end Rejection

/-- Make an icon of an asset. -/
def Asset.toIcon (asset : Asset) : Except Rejection Icon :=
  match Markup.readContent asset.content with
  | .error error => .error ⟨asset.path, error⟩
  | .ok markup =>
    .ok ⟨ItemName.deriveName asset.stem, asset.stem, markup.attributes, markup.inner⟩

/-- An icon and the asset it was made of. -/
structure FoundIcon where
  path : String
  icon : Icon
  deriving DecidableEq

/-- A pattern that selects assets by their paths, seen from `root` if there is
    one. -/
structure Selector where
  pattern : String
  root : Option String
  deriving DecidableEq

namespace Selector

/-- The path that a pattern is tried on. -/
def rebase (selector : Selector) (path : String) : String :=
  match selector.root with
  | some root => RelativePath.relativeTo root path
  | none => path

/-- Whether an asset of this path is selected. -/
def selects (selector : Selector) (path : String) : Bool :=
  (PathPattern.parse selector.pattern).matches (selector.rebase path)

/-- The selector of a pattern for assets found below `root`: a pattern that is
    not absolute is meant relative to the root. -/
def ofPattern (pattern root : String) : Selector where
  pattern := pattern
  root := if RelativePath.startsAtRoot pattern then none else some root

end Selector

/-- Whether an optional selector lets a path pass. -/
def selected (selector : Option Selector) (path : String) : Bool :=
  match selector with
  | some selector => selector.selects path
  | none => true

/-- Whether an optional pattern lets a path pass; it is tried on what `rebase`
    makes of the path. -/
def passes (pattern : Option String) (rebase : Option (String → String)) (path : String) : Bool :=
  match pattern with
  | some pattern => (PathPattern.parse pattern).matches ((rebase.getD id) path)
  | none => true

/-- What became of a list of assets. -/
structure Collection where
  found : List FoundIcon
  rejections : List Rejection
  /-- How many assets the pattern does not select. -/
  filteredOut : Nat
  /-- How many assets have the path of an earlier one. -/
  duplicates : Nat
  deriving DecidableEq

namespace Collection

/-- Nothing collected. -/
def empty : Collection := ⟨[], [], 0, 0⟩

/-- Put the outcome for one asset in front. -/
def consOutcome (path : String) (outcome : Except Rejection Icon)
    (collection : Collection) : Collection :=
  match outcome with
  | .ok icon => { collection with found := ⟨path, icon⟩ :: collection.found }
  | .error rejection => { collection with rejections := rejection :: collection.rejections }

/-- Collect assets whose paths `pass`, after those with the paths `seen`. -/
def ofAssetsAfter (pass : String → Bool) (seen : List String) : List Asset → Collection
  | [] => empty
  | asset :: rest =>
    if asset.path ∈ seen then
      let collection := ofAssetsAfter pass seen rest
      { collection with duplicates := collection.duplicates + 1 }
    else
      let collection := ofAssetsAfter pass (asset.path :: seen) rest
      if pass asset.path then consOutcome asset.path asset.toIcon collection
      else { collection with filteredOut := collection.filteredOut + 1 }

/-- Collect the icons of the selected assets. -/
def ofAssets (selector : Option Selector) (assets : List Asset) : Collection :=
  ofAssetsAfter (selected selector) [] assets

/-- Collect the icons of the assets that a pattern lets pass, whatever its paths
    are taken for. -/
def collect (pattern : Option String) (rebase : Option (String → String))
    (assets : List Asset) : Collection :=
  ofAssetsAfter (passes pattern rebase) [] assets

/-- The icons, in order. -/
def icons (collection : Collection) : List Icon :=
  collection.found.map (·.icon)

/-- How many assets were turned into icons or set aside. -/
def attempted (collection : Collection) : Nat :=
  collection.found.length + collection.rejections.length

/-- The warnings about the assets that were set aside. -/
def diagnostics (collection : Collection) : List Diagnostic :=
  collection.rejections.map (·.diagnostic)

end Collection

end IconCompiler
