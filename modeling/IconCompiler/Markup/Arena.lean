import IconCompiler.Markup.Document

/-! # Trees in an arena

    The tree of a document written down as a list of cells, in the order in which
    its nodes are met; an element names its children by their places in the list.
    The events of a document fill an arena (`Draft`), where places stand for the
    open elements that a `Builder` holds as such. -/

namespace IconCompiler.Markup

open Text

/-- A node in an arena. -/
inductive Cell where
  | element (name : String) (attributes : List (String × String)) (children : List Nat)
  | text (raw : String)
  | comment (body : String)
  | cdata (body : String)
  deriving DecidableEq

namespace Cell

/-- The cell with one more child, the last one; only elements take children. -/
def addChild (cell : Cell) (child : Nat) : Cell :=
  match cell with
  | .element name attributes children => .element name attributes (children ++ [child])
  | leaf => leaf

/-- The places of the children. -/
def children : Cell → List Nat
  | .element _ _ children => children
  | _ => []

/-- The attributes of an element. -/
def attributes : Cell → List (String × String)
  | .element _ attributes _ => attributes
  | _ => []

/-- What a cell is called in a message. -/
def label : Cell → String
  | .element name _ _ => name
  | _ => "?"

end Cell

/-- Nodes, each at a place of its own. -/
structure Arena where
  cells : List Cell
  deriving DecidableEq

namespace Arena

/-- The arena without nodes. -/
def empty : Arena := ⟨[]⟩

/-- Put a cell at the next place. -/
def push (arena : Arena) (cell : Cell) : Arena × Nat :=
  (⟨arena.cells ++ [cell]⟩, arena.cells.length)

/-- Make `child` the last child of `parent`. -/
def appendChild (arena : Arena) (parent child : Nat) : Arena :=
  ⟨arena.cells.modify parent fun cell => cell.addChild child⟩

/-- The places of the children of the node at a place. -/
def children (arena : Arena) (place : Nat) : List Nat :=
  arena.cells[place]?.elim [] Cell.children

/-- The written form of the node at a place.  There is none if the places of
    children lead out of the arena, or down through more than `depth` nodes. -/
def writeWithin (arena : Arena) : (depth place : Nat) → Option String
  | 0, _ => none
  | depth + 1, place =>
    match arena.cells[place]? with
    | none => none
    | some (.text raw) => some raw
    | some (.comment body) => some ("<!--" ++ body ++ "-->")
    | some (.cdata body) => some ("<![CDATA[" ++ body ++ "]]>")
    | some (.element name attributes children) => do
      let opening := "<" ++ name ++ String.join (attributes.map renderAttribute)
      if children.isEmpty then some (opening ++ " />")
      else
        let parts ← children.mapM (arena.writeWithin depth)
        some (opening ++ ">" ++ String.join parts ++ "</" ++ name ++ ">")

/-- The written form of the node at a place.  There is none if writing does not come
    to an end: a way down through more nodes than there are comes by one of them
    again. -/
def write (arena : Arena) (place : Nat) : Option String :=
  arena.writeWithin arena.cells.length place

/-- The written form of the children of the node at a place. -/
def inner (arena : Arena) (place : Nat) : Option String := do
  let parts ← (arena.children place).mapM arena.write
  return String.join parts

end Arena

/-- An arena that is being filled: the places of the open elements, the innermost
    first, and the place of the root once there is one. -/
structure Draft where
  arena : Arena
  stack : List Nat
  root : Option Nat

namespace Draft

/-- Nothing read yet. -/
def start : Draft := ⟨.empty, [], none⟩

/-- Put the element that a tag opens into the arena.  It becomes the last child of
    the innermost open element; outside of any it is the root, if there is none yet. -/
def openElement (draft : Draft) (tag : Tag) : Except Cause (Draft × Nat) := do
  let frame ← Frame.ofTag tag
  let (arena, place) := draft.arena.push (.element frame.name frame.attributes.entries [])
  match draft.stack, draft.root with
  | parent :: _, _ => return ({ draft with arena := arena.appendChild parent place }, place)
  | [], none => return ({ draft with arena := arena, root := some place }, place)
  | [], some _ => .error .secondRoot

/-- Put a leaf into the innermost open element; outside of any there is `fault`. -/
def addLeaf (draft : Draft) (leaf : Cell) (fault : Except Cause Draft) : Except Cause Draft :=
  match draft.stack with
  | [] => fault
  | parent :: _ =>
    let (arena, place) := draft.arena.push leaf
    .ok { draft with arena := arena.appendChild parent place }

/-- Read one event. -/
def step (draft : Draft) : Event → Except Cause Draft
  | .start tag => do
    let (opened, place) ← draft.openElement tag
    return { opened with stack := place :: opened.stack }
  | .empty tag => do
    let (passed, _) ← draft.openElement tag
    return passed
  | .close =>
    match draft.stack with
    | [] => .error .unexpectedClose
    | _ :: outer => .ok { draft with stack := outer }
  | .text raw =>
    match Reference.replace raw with
    | .error fault => .error (.reference fault)
    | .ok _ =>
      if raw.all isBlank then .ok draft
      else draft.addLeaf (.text (String.ofList raw)) (.error .textOutsideRoot)
  | .comment body => draft.addLeaf (.comment (String.ofList body)) (.ok draft)
  | .cdata body => draft.addLeaf (.cdata (String.ofList body)) (.error .cdataOutsideRoot)
  | .ignored => .ok draft

/-- The arena and the place of the root, at the end of a document that ends at the
    offset `length`. -/
def finish (draft : Draft) (length : Nat) : Except Error (Arena × Nat) :=
  match draft.stack, draft.root with
  | place :: _, _ =>
    .error ⟨.unclosedElement (draft.arena.cells[place]?.elim "?" Cell.label), length⟩
  | [], some root => .ok (draft.arena, root)
  | [], none => .error ⟨.noRoot, 0⟩

end Draft

namespace Arena

/-- Read a document into an arena with its root. -/
def ofDocument (document : List Char) : Except Error (Arena × Nat) :=
  (Trace.ofDocument document).read Draft.step Draft.finish .start

/-- What is kept of the node at a place: its attributes without `class`, and the
    written form of its children. -/
def content (arena : Arena) (place : Nat) : Option Content := do
  let attributes := arena.cells[place]?.elim [] Cell.attributes
  let inner ← arena.inner place
  return ⟨OrderedMap.ofPairs (attributes.filter fun entry => entry.1 != droppedAttribute), inner⟩

end Arena

end IconCompiler.Markup
