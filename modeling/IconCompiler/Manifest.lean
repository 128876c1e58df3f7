import IconCompiler.Container
import IconCompiler.Failure
import IconCompiler.Icon
import IconCompiler.Json.Printer
import IconCompiler.Json.Reader
import IconCompiler.Json.Record

/-! # Manifests

    A manifest lists the icons of a generated source file, together with the
    digest of the source.  It is kept as a JSON document. -/

namespace IconCompiler

open Json

/-- What a manifest says about an icon. -/
structure ListedIcon where
  identifier : String
  name : String
  attributes : AttributeMap
  deriving DecidableEq

/-- A description of one generated source file. -/
structure Manifest where
  schemaVersion : Nat
  container : Container
  /-- The digest of the source, in hexadecimal digits. -/
  sourceDigest : String
  icons : List ListedIcon
  deriving DecidableEq

/-- The schema that is written, and the latest that is understood. -/
def currentSchema : Nat := 1

/-- What a manifest keeps of an icon. -/
def ListedIcon.ofIcon (icon : Icon) : ListedIcon :=
  ⟨icon.identifier, icon.name, icon.attributes⟩

/-- The object that holds attributes under their keys. -/
def AttributeMap.toJson (attributes : AttributeMap) : Value :=
  .record (attributes.entries.map fun entry => (entry.1, .text entry.2))

/-- The attributes that an object holds. -/
def AttributeMap.ofJson? (value : Value) : Option AttributeMap :=
  value.pairs?.map OrderedMap.ofPairs

/-- The object for a container; an absent module path is left out. -/
def Container.toJson (container : Container) : Value :=
  .record ((container.modulePath.toList.map fun path => ("namespace", .text path))
    ++ [("name", .text container.name)])

/-- The text of an optional field, which may be absent or null. -/
def optionalText? : Option Value → Option (Option String)
  | none | some .null => some none
  | some value => value.text?.map some

/-- The container that a value describes, taken as it stands. -/
def Container.ofJson? (value : Value) : Option Container := do
  let [modulePath, name] ← value.fields? ["namespace", "name"] | none
  let modulePath ← optionalText? modulePath
  let name ← name >>= Value.text?
  return ⟨modulePath, name⟩

namespace ListedIcon

/-- The object for an icon. -/
def toJson (icon : ListedIcon) : Value :=
  .record [("identifier", .text icon.identifier), ("name", .text icon.name),
    ("attributes", icon.attributes.toJson)]

/-- The icon that a value describes. -/
def ofJson? (value : Value) : Option ListedIcon := do
  let [identifier, name, attributes] ← value.fields? ["identifier", "name", "attributes"] | none
  let identifier ← identifier >>= Value.text?
  let name ← name >>= Value.text?
  let attributes ← attributes >>= AttributeMap.ofJson?
  return ⟨identifier, name, attributes⟩

end ListedIcon

namespace Manifest

/-- The manifest of a source with the given digest. -/
def make (container : Container) (icons : List Icon) (sourceDigest : String) : Manifest :=
  ⟨currentSchema, container, sourceDigest, icons.map .ofIcon⟩

/-- The object for a manifest. -/
def toJson (manifest : Manifest) : Value :=
  .record [("schema_version", .nat manifest.schemaVersion),
    ("container", manifest.container.toJson), ("source_sha256", .text manifest.sourceDigest),
    ("icons", .array (manifest.icons.map ListedIcon.toJson))]

/-- The document that holds a manifest, with a line break at its end. -/
def render (manifest : Manifest) : String :=
  String.ofList (manifest.toJson.pretty 0 ++ ['\n'])

/-- The manifest that a value describes. -/
def ofJson? (value : Value) : Option Manifest := do
  let [version, container, digest, icons] ←
    value.fields? ["schema_version", "container", "source_sha256", "icons"] | none
  let version ← version >>= Value.natBelow? UInt32.size
  let container ← container >>= Container.ofJson?
  let digest ← digest >>= Value.text?
  let icons ← icons >>= Value.items?
  let icons ← icons.mapM ListedIcon.ofJson?
  return ⟨version, container, digest, icons⟩

/-- Read a manifest, which must not follow a later schema. -/
def parse (document : String) : Except Failure Manifest :=
  match Value.parse? document >>= ofJson? with
  | none => .error .badManifest
  | some manifest =>
    if manifest.schemaVersion ≤ currentSchema then .ok manifest
    else .error (.laterSchema manifest.schemaVersion currentSchema)

end Manifest

namespace Icon

/-- The object for an icon with its markup. -/
def toJson (icon : Icon) : Value :=
  .record [("identifier", .text icon.identifier), ("name", .text icon.name),
    ("attributes", icon.attributes.toJson), ("inner", .text icon.inner)]

/-- The icon that a value describes, with its markup. -/
def ofJson? (value : Value) : Option Icon := do
  let [identifier, name, attributes, inner] ←
    value.fields? ["identifier", "name", "attributes", "inner"] | none
  let identifier ← identifier >>= Value.text?
  let name ← name >>= Value.text?
  let attributes ← attributes >>= AttributeMap.ofJson?
  let inner ← inner >>= Value.text?
  return ⟨identifier, name, attributes, inner⟩

/-- Print an icon on one line. -/
def render (icon : Icon) : String :=
  String.ofList icon.toJson.compact

/-- Read an icon. -/
def parse? (document : String) : Option Icon :=
  Value.parse? document >>= ofJson?

end Icon

end IconCompiler
