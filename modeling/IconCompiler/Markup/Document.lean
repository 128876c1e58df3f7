import IconCompiler.Markup.Event
import IconCompiler.Markup.Node
import IconCompiler.Markup.Reference
import IconCompiler.Text.Blank

/-! # Documents

    The events of a document build a tree with a single root.  Names lose their
    namespaces and namespace declarations are dropped while the tree is built;
    text that is all white space is dropped, other text is kept as written. -/

namespace IconCompiler.Markup

open Text

/-- An element whose children are still being read. -/
structure Frame where
  name : String
  attributes : AttributeMap
  /-- The children read so far, the last one first. -/
  children : List Node

namespace Frame

/-- The element that a frame has become. -/
def toNode (frame : Frame) : Node :=
  .element frame.name frame.attributes frame.children.reverse

/-- The frame with one more child. -/
def add (frame : Frame) (node : Node) : Frame :=
  { frame with children := node :: frame.children }

/-- Take over one attribute: a namespace declaration leaves no trace, any other
    attribute is kept under its local name, which has to be new. -/
def addAttribute (attributes : AttributeMap) (raw : RawAttribute) : Except Cause AttributeMap :=
  if isNamespaceBinding raw.key then .ok attributes
  else
    let key := String.ofList (localName raw.key)
    match Reference.replace raw.value with
    | .error fault => .error (.reference fault)
    | .ok value =>
      if key ∈ attributes.keys then .error (.collidingKey key)
      else .ok (attributes.insert key (String.ofList value))

/-- The frame that a tag opens. -/
def ofTag (tag : Tag) : Except Cause Frame := do
  let (raw, fault) := tag.attributes
  let attributes ← raw.foldlM addAttribute OrderedMap.empty
  match fault with
  | some fault => .error (.attribute fault)
  | none => return ⟨String.ofList (localName tag.name), attributes, []⟩

end Frame

/-- A document that is being read: the open elements, the innermost first, and
    the root element once it is complete. -/
structure Builder where
  openFrames : List Frame
  root : Option Frame

namespace Builder

/-- Nothing read yet. -/
def start : Builder := ⟨[], none⟩

/-- Open an element, which may be the root only if there is none yet. -/
def enter (builder : Builder) (tag : Tag) : Except Cause Builder := do
  let frame ← Frame.ofTag tag
  if builder.openFrames.isEmpty && builder.root.isSome then .error .secondRoot
  else return { builder with openFrames := frame :: builder.openFrames }

/-- Complete the innermost open element. -/
def leave (builder : Builder) : Except Cause Builder :=
  match builder.openFrames with
  | [] => .error .unexpectedClose
  | [root] => .ok ⟨[], some root⟩
  | inner :: outer :: rest => .ok { builder with openFrames := outer.add inner.toNode :: rest }

/-- Add a node to the innermost open element; outside of any there is `fault`. -/
def addNode (builder : Builder) (node : Node) (fault : Except Cause Builder) :
    Except Cause Builder :=
  match builder.openFrames with
  | [] => fault
  | inner :: rest => .ok { builder with openFrames := inner.add node :: rest }

/-- Read one event. -/
def step (builder : Builder) : Event → Except Cause Builder
  | .start tag => builder.enter tag
  | .empty tag => builder.enter tag >>= leave
  | .close => builder.leave
  | .text raw =>
    match Reference.replace raw with
    | .error fault => .error (.reference fault)
    | .ok _ =>
      if raw.all isBlank then .ok builder
      else builder.addNode (.text (String.ofList raw)) (.error .textOutsideRoot)
  | .comment body => builder.addNode (.comment (String.ofList body)) (.ok builder)
  | .cdata body => builder.addNode (.cdata (String.ofList body)) (.error .cdataOutsideRoot)
  | .ignored => .ok builder

/-- The root of a document that ends at the offset `length`. -/
def finish (builder : Builder) (length : Nat) : Except Error Frame :=
  match builder.openFrames, builder.root with
  | inner :: _, _ => .error ⟨.unclosedElement inner.name, length⟩
  | [], some root => .ok root
  | [], none => .error ⟨.noRoot, 0⟩

end Builder

/-- Read the root element of a document. -/
def parseRoot (document : List Char) : Except Error Frame :=
  (Trace.ofDocument document).read Builder.step Builder.finish .start

/-- What is kept of a document: the attributes of its root, without `class`, and
    the markup inside it. -/
structure Content where
  attributes : AttributeMap
  inner : String
  deriving DecidableEq

/-- The attribute that is never kept. -/
def droppedAttribute : String := "class"

/-- Read what is kept of a document; byte order marks in front of it do not count. -/
def readContent (document : String) : Except Error Content := do
  let root ← parseRoot (document.toList.dropWhile (· == '\uFEFF'))
  return ⟨root.attributes.filterKeys (· != droppedAttribute), Node.renderAll root.children.reverse⟩

end IconCompiler.Markup
