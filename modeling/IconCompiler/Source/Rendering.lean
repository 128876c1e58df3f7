import IconCompiler.Container
import IconCompiler.Diagnostic
import IconCompiler.Icon
import IconCompiler.ItemName
import IconCompiler.Source.Layout
import IconCompiler.Text.Quoted

/-! # Rendering of source text

    Icons become the constants of a module, which stands inside the
    modules of its container's path.  All texts are written as literals, so that
    no content can break the source. -/

namespace IconCompiler

open Text Source

/-- The first line of a generated file. -/
def banner : String := "// @generated by iconforge. Do not edit by hand."

/-- The outcome of rendering icons. -/
inductive Rendering where
  /-- There are no icons, so there is nothing to write. -/
  | empty (diagnostic : Diagnostic)
  /-- The source, the icons it declares, and warnings about changed names. -/
  | source (text : String) (icons : List Icon) (diagnostics : List Diagnostic)

namespace Rendering

/-- The name of a constant's type: what follows the last double colon. -/
def typeName (iconType : String) : String :=
  String.ofList (afterColons iconType.toList)

/-- A pair of literals. -/
def pairLine (entry : String × String) : Layout :=
  .line ("(" ++ quoted entry.1 ++ ", " ++ quoted entry.2 ++ "),")

/-- The attributes of a constant. -/
def attributeLayout (attributes : AttributeMap) : Layout :=
  if attributes.entries = [] then .line "attributes: &[],"
  else .block "attributes: &[" (attributes.entries.map pairLine) "],"

/-- The constant for an icon. -/
def constantLayout (typeName : String) (icon : Icon) : Layout :=
  .block
    ("pub const " ++ ItemName.constantName icon.identifier ++ ": " ++ typeName ++ " = "
      ++ typeName ++ " \x7b")
    [.line ("name: " ++ quoted icon.name ++ ","), attributeLayout icon.attributes,
      .line ("inner: " ++ quoted icon.inner ++ ",")]
    "\x7d;"

/-- A module. -/
def moduleLayout (name : String) (body : List Layout) : Layout :=
  .block ("pub mod " ++ name ++ " \x7b") body "\x7d"

/-- The line that brings a type into scope, unless its name is bare. -/
def importLayout (iconType : String) : List Layout :=
  if hasColons iconType.toList then [.line ("use " ++ iconType ++ ";"), .blank] else []

/-- The module that holds the constants, inside the modules named `segments`. -/
def nest (name : String) (body : List Layout) : List String → List Layout
  | [] => [.line "#[allow(non_upper_case_globals)]", moduleLayout name body]
  | segment :: segments => [moduleLayout segment (nest name body segments)]

/-- A whole source file. -/
def fileLayout (container : Container) (iconType : String) (icons : List Icon) :
    List Layout :=
  let constants := icons.map (constantLayout (typeName iconType))
  [.line banner, .blank]
    ++ nest container.name (importLayout iconType ++ constants.intersperse .blank)
      container.segments

/-- The text of a whole source file. -/
def sourceText (container : Container) (iconType : String) (icons : List Icon) : String :=
  String.ofList (Layout.renderAll 0 (fileLayout container iconType icons))

/-- The warning about an icon whose identifier cannot name a constant. -/
def renamed? (icon : Icon) : Option Diagnostic :=
  if ItemName.isValid icon.identifier then none
  else some {
    topic := .changedName
    message :=
      s!"identifier `{icon.identifier}` derived from `{icon.name}` is not a valid Rust identifier; "
        ++ s!"emitted as `{ItemName.constantName icon.identifier}`"
    path := some icon.name }

/-- The warning that a container has no icons. -/
def noIcons (container : Container) : Diagnostic where
  topic := .noIcons
  message := s!"no icons found for `{container.display}`"
  path := none

/-- Render icons into a container, in the order given. -/
def ofIcons (container : Container) (iconType : String) (icons : List Icon) : Rendering :=
  if icons.isEmpty then .empty (noIcons container)
  else .source (sourceText container iconType icons) icons (icons.filterMap renamed?)

/-- Whether there is nothing to write. -/
def isEmpty : Rendering → Bool
  | empty _ => true
  | source _ _ _ => false

end Rendering

end IconCompiler
