import IconCompiler.Icon
import IconCompiler.Text.Split

/-! # Asset names -/

namespace IconCompiler.Asset

open Text

/-- The file name of an asset: what follows its last slash of either kind. -/
def fileName (asset : Asset) : List Char :=
  afterLast isSlash asset.path.toList

/-- The name of an asset: its file name up to the last dot. -/
def stem (asset : Asset) : String :=
  let name := asset.fileName
  String.ofList
    (if name.contains '.' then (name.reverse.dropWhile (· != '.')).tail.reverse else name)

end IconCompiler.Asset
