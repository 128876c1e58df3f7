import IconCompiler.Proofs.Markup.Arena
import IconCompiler.Proofs.Markup.Declarations

/-! # Filling an arena

    A draft holds what the open elements of a builder would have filled
    (`Draft.ofBuilder`), event by event (`step_ofBuilder`).  So a document is read
    into the arena of its root, or refused for the same reason (`ofDocument_eq`). -/

namespace IconCompiler.Markup

/-! ## Filling an arena with a node -/

theorem Cell.foldl_addChild (name : String) (attributes : List (String × String))
    (children more : List Nat) :
    more.foldl Cell.addChild (.element name attributes children)
      = .element name attributes (children ++ more) := by
  induction more generalizing children with
  | nil => rw [List.foldl_nil, List.append_nil]
  | cons child rest ih =>
      rw [List.foldl_cons, Cell.addChild, ih, List.append_assoc, List.singleton_append]

theorem Arena.appendChild_eq {front back : List Cell} {owner : Cell} {place : Nat}
    (hplace : front.length = place) (child : Nat) :
    Arena.appendChild ⟨front ++ owner :: back⟩ place child
      = ⟨front ++ owner.addChild child :: back⟩ := by
  subst hplace
  rw [Arena.appendChild]
  induction front with
  | nil => rfl
  | cons cell rest ih =>
      rw [List.length_cons, List.cons_append, List.modify_succ_cons, Arena.mk.inj ih]
      rfl

namespace Draft

/-- Put a cell at the next place, as the last child of the innermost open element. -/
def attach (draft : Draft) (cell : Cell) : Draft :=
  match draft.stack with
  | [] => { draft with arena := (draft.arena.push cell).1 }
  | parent :: _ =>
    { draft with
      arena := (draft.arena.push cell).1.appendChild parent (draft.arena.push cell).2 }

/-- Open an element; it becomes the root if there is none yet. -/
def enter (draft : Draft) (name : String) (attributes : List (String × String)) : Draft :=
  { arena := (draft.attach (.element name attributes [])).arena
    stack := draft.arena.cells.length :: draft.stack
    root := draft.root.or (some draft.arena.cells.length) }

/-- Close the innermost open element. -/
def leave (draft : Draft) : Draft :=
  { draft with stack := draft.stack.tail }

mutual

/-- Put a node and its descendants into the innermost open element. -/
def graft (draft : Draft) : Node → Draft
  | .element name attributes children =>
    (graftAll (draft.enter name attributes.entries) children).leave
  | .text raw => draft.attach (.text raw)
  | .comment body => draft.attach (.comment body)
  | .cdata body => draft.attach (.cdata body)

/-- Put nodes into the innermost open element, one after the other. -/
def graftAll (draft : Draft) : List Node → Draft
  | [] => draft
  | node :: rest => graftAll (graft draft node) rest

end

theorem graftAll_append (draft : Draft) (nodes more : List Node) :
    draft.graftAll (nodes ++ more) = (draft.graftAll nodes).graftAll more := by
  induction nodes generalizing draft with
  | nil => rfl
  | cons node rest ih => rw [List.cons_append, graftAll, graftAll, ih]

theorem length_around {front back : List Cell} {place next : Nat} (hplace : front.length = place)
    (hnext : place + back.length + 1 = next) (owner : Cell) :
    (front ++ owner :: back).length = next := by
  rw [List.length_append, List.length_cons]
  omega

theorem attach_eq {front back : List Cell} {owner : Cell} {place next : Nat}
    (hplace : front.length = place) (hnext : place + back.length + 1 = next) (cell : Cell)
    (stack : List Nat) (root : Option Nat) :
    (Draft.mk ⟨front ++ owner :: back⟩ (place :: stack) root).attach cell
      = ⟨⟨front ++ owner.addChild next :: (back ++ [cell])⟩, place :: stack, root⟩ := by
  simp only [attach, Arena.push, length_around hplace hnext owner, List.append_assoc,
    List.cons_append, Arena.appendChild_eq hplace]

theorem enter_eq {front back : List Cell} {owner : Cell} {place next root : Nat}
    {stack : List Nat} (hplace : front.length = place) (hnext : place + back.length + 1 = next)
    (name : String) (attributes : List (String × String)) :
    (Draft.mk ⟨front ++ owner :: back⟩ (place :: stack) (some root)).enter name attributes
      = ⟨⟨(front ++ owner.addChild next :: back) ++ .element name attributes [] :: []⟩,
        next :: place :: stack, some root⟩ := by
  rw [enter, attach_eq hplace hnext, length_around hplace hnext owner]
  simp

mutual

/-- A node that is put into an open element becomes its last child, and its cells
    come last. -/
theorem graft_eq {front back : List Cell} {owner : Cell} {place next root : Nat}
    {stack : List Nat} (hplace : front.length = place) (hnext : place + back.length + 1 = next) :
    ∀ node : Node, (Draft.mk ⟨front ++ owner :: back⟩ (place :: stack) (some root)).graft node
      = ⟨⟨front ++ owner.addChild next :: (back ++ node.cells next)⟩, place :: stack, some root⟩
  | .element name attributes children => by
      have hfront := length_around hplace hnext (owner.addChild next)
      -- the new cell is the last one, so the children are put right behind it
      rw [graft, enter_eq hplace hnext, graftAll_eq hfront rfl children, Cell.foldl_addChild,
        leave, Node.cells]
      simp
  | .text raw => attach_eq hplace hnext _ _ _
  | .comment body => attach_eq hplace hnext _ _ _
  | .cdata body => attach_eq hplace hnext _ _ _

theorem graftAll_eq {front back : List Cell} {owner : Cell} {place next root : Nat}
    {stack : List Nat} (hplace : front.length = place) (hnext : place + back.length + 1 = next) :
    ∀ nodes : List Node,
      (Draft.mk ⟨front ++ owner :: back⟩ (place :: stack) (some root)).graftAll nodes
        = ⟨⟨front ++ (Node.places next nodes).foldl Cell.addChild owner
            :: (back ++ Node.allCells next nodes)⟩, place :: stack, some root⟩
  | [] => by
      rw [graftAll, Node.allCells, List.append_nil]
      rfl
  | node :: rest => by
      have hlength : place + (back ++ node.cells next).length + 1 = next + node.size := by
        rw [List.length_append, Node.length_cells]
        omega
      rw [graftAll, graft_eq hplace hnext node, graftAll_eq hplace hlength rest, Node.allCells,
        Node.places, List.foldl_cons, List.append_assoc]

end

/-- An element without children, with nothing behind it, is filled with all of them. -/
theorem graftAll_childless {front : List Cell} {place root : Nat} {stack : List Nat}
    (hplace : front.length = place) (name : String) (attributes : AttributeMap)
    (children : List Node) :
    (Draft.mk ⟨front ++ [.element name attributes.entries []]⟩ (place :: stack)
        (some root)).graftAll children
      = ⟨⟨front ++ (Node.element name attributes children).cells place⟩, place :: stack,
        some root⟩ := by
  rw [graftAll_eq hplace rfl, Cell.foldl_addChild, Node.cells]
  rfl

/-! ## The draft of a builder -/

/-- What is filled in while elements are open, the innermost first. -/
def ofFrames : List Frame → Draft
  | [] => start
  | inner :: outer =>
    ((ofFrames outer).enter inner.name inner.attributes.entries).graftAll inner.children.reverse

/-- What is filled in at the stage of a builder. -/
def ofBuilder (builder : Builder) : Draft :=
  match builder.root with
  | none => ofFrames builder.openFrames
  | some root => (ofFrames [root]).leave

theorem ofFrames_singleton (root : Frame) :
    ofFrames [root] = ⟨⟨root.toNode.cells 0⟩, [0], some 0⟩ := by
  have hempty : ([] : List Cell).length = 0 := rfl
  exact graftAll_childless hempty root.name root.attributes root.children.reverse

/-- The innermost open element is in place, with the cells of its children behind it. -/
theorem ofFrames_cons (inner : Frame) (outer : List Frame) :
    ∃ front place root, front.length = place ∧ ofFrames (inner :: outer)
      = ⟨⟨front ++ inner.toNode.cells place⟩, place :: (ofFrames outer).stack, some root⟩ := by
  induction outer generalizing inner with
  | nil => exact ⟨[], 0, 0, rfl, ofFrames_singleton inner⟩
  | cons next outer ih =>
      obtain ⟨front, place, root, hplace, hnext⟩ := ih next
      rw [Frame.toNode, Node.cells] at hnext
      have hfront : ∀ owner, (front ++ owner :: Node.allCells (place + 1)
          next.children.reverse).length = _ := length_around hplace rfl
      rw [ofFrames, hnext, enter_eq hplace rfl]
      exact ⟨_, _, root, hfront _,
        graftAll_childless (hfront _) inner.name inner.attributes inner.children.reverse⟩

/-! ## Event by event -/

theorem ofFrames_add (inner : Frame) (outer : List Frame) (node : Node) :
    ofFrames (inner.add node :: outer) = (ofFrames (inner :: outer)).graft node := by
  rw [ofFrames, Frame.add, List.reverse_cons, graftAll_append, ofFrames]
  rfl

/-- Leaving an element puts it into the one around it, or makes it the root. -/
theorem leave_ofBuilder {builder next : Builder} (hsingle : builder.IsSingle)
    (h : builder.leave = .ok next) : ofBuilder next = (ofBuilder builder).leave := by
  have hroot : builder.openFrames ≠ [] → builder.root = none := hsingle
  rcases Builder.leave_eq_ok h with ⟨root, hframes, rfl⟩ | ⟨inner, outer, rest, hframes, rfl⟩
  · rw [ofBuilder, ofBuilder, hroot (by simp [hframes]), hframes]
  · rw [ofBuilder, ofBuilder, hroot (by simp [hframes]), hframes, ofFrames_add]
    rfl

theorem ofBuilder_complete (root : Frame) :
    ofBuilder ⟨[], some root⟩ = ⟨⟨root.toNode.cells 0⟩, [], some 0⟩ :=
  congrArg leave (ofFrames_singleton root)

/-- The element that a tag opens in a builder is opened in its draft. -/
theorem ofBuilder_enter {builder next : Builder} (hsingle : builder.IsSingle) {tag : Tag}
    (h : builder.enter tag = .ok next) :
    next.IsSingle ∧ ((ofBuilder builder).stack = [] → (ofBuilder builder).root = none)
      ∧ ∃ frame, Frame.ofTag tag = .ok frame
        ∧ ofBuilder next = (ofBuilder builder).enter frame.name frame.attributes.entries := by
  obtain ⟨frame, hframe, hroot, rfl⟩ := Builder.enter_eq_ok h
  obtain ⟨-, -, -, hchildren⟩ := Frame.ofTag_eq_ok_iff.mp hframe
  have hnone : builder.root = none := by
    by_cases hopen : builder.openFrames = []
    · exact hroot hopen
    · exact hsingle hopen
  have hbuilder : ofBuilder builder = ofFrames builder.openFrames := by rw [ofBuilder, hnone]
  rw [hbuilder]
  refine ⟨Builder.isSingle_push hsingle hroot frame, ?_, frame, hframe, ?_⟩
  · cases builder.openFrames with
    | nil => exact fun _ => rfl
    | cons inner outer =>
        obtain ⟨front, place, root, -, hframes⟩ := ofFrames_cons inner outer
        rw [hframes]
        exact fun hstack => absurd hstack (List.cons_ne_nil _ _)
  · rw [ofBuilder, Builder.push, hnone, ofFrames, hchildren]
    rfl

/-- A tag opens an element in a draft if it does so in the builder. -/
theorem openElement_ofBuilder {builder : Builder} (hsingle : builder.IsSingle) (tag : Tag) :
    (ofBuilder builder).openElement tag
      = (builder.enter tag).map fun next =>
          ((ofBuilder next).leave, (ofBuilder builder).arena.cells.length) := by
  rw [openElement, Builder.enter]
  cases hframe : Frame.ofTag tag with
  | error cause => rfl
  | ok frame =>
      obtain ⟨-, -, -, hchildren⟩ := Frame.ofTag_eq_ok_iff.mp hframe
      obtain ⟨name, attributes, children⟩ := frame
      cases hchildren
      rcases hsingle.cases with rfl | ⟨root, rfl⟩ | ⟨inner, outer, rfl⟩
      · rfl
      · rw [ofBuilder_complete]
        rfl
      · obtain ⟨front, place, root, -, hframes⟩ := ofFrames_cons inner outer
        show _ = Except.ok (((ofFrames (inner :: outer)).enter name attributes.entries).leave, _)
        rw [ofBuilder, hframes]
        rfl

/-- A leaf goes to the same element. -/
theorem addLeaf_ofBuilder {builder : Builder} (hsingle : builder.IsSingle) (node : Node)
    (leaf : Cell) (hleaf : ∀ draft : Draft, draft.graft node = draft.attach leaf)
    (fault : Except Cause Builder) :
    (ofBuilder builder).addLeaf leaf (fault.map ofBuilder)
      = (builder.addNode node fault).map ofBuilder := by
  rcases hsingle.cases with rfl | ⟨root, rfl⟩ | ⟨inner, outer, rfl⟩
  · rfl
  · rw [ofBuilder_complete]
    rfl
  · obtain ⟨front, place, root, -, hframes⟩ := ofFrames_cons inner outer
    show _ = Except.ok (ofFrames (inner.add node :: outer))
    rw [ofFrames_add, hleaf, ofBuilder, hframes]
    rfl

/-- An event has the same outcome for a draft as for the builder it stands for. -/
theorem step_ofBuilder {builder : Builder} (hsingle : builder.IsSingle) (event : Event) :
    (ofBuilder builder).step event = (builder.step event).map ofBuilder := by
  cases event with
  | start tag =>
      rw [step, Builder.step, openElement_ofBuilder hsingle]
      cases henter : builder.enter tag with
      | error cause => rfl
      | ok next =>
          obtain ⟨-, -, frame, -, hnext⟩ := ofBuilder_enter hsingle henter
          show Except.ok _ = Except.ok (ofBuilder next)
          rw [hnext]
          rfl
  | empty tag =>
      rw [step, Builder.step, openElement_ofBuilder hsingle]
      cases henter : builder.enter tag with
      | error cause => rfl
      | ok next =>
          obtain ⟨hnext, -⟩ := ofBuilder_enter hsingle henter
          obtain ⟨frame, -, -, rfl⟩ := Builder.enter_eq_ok henter
          -- what has just been opened can be left
          obtain ⟨after, hafter⟩ := Builder.exists_leave frame builder.openFrames builder.root
          show Except.ok _ = (Builder.leave ⟨frame :: builder.openFrames, builder.root⟩).map _
          rw [hafter, ← leave_ofBuilder hnext hafter]
          rfl
  | close =>
      rcases hsingle.cases with rfl | ⟨root, rfl⟩ | ⟨inner, outer, rfl⟩
      · rfl
      · rw [ofBuilder_complete]
        rfl
      · obtain ⟨front, place, root, -, hframes⟩ := ofFrames_cons inner outer
        obtain ⟨next, hnext⟩ := Builder.exists_leave inner outer none
        rw [Builder.step, hnext, Except.map, leave_ofBuilder hsingle hnext, ofBuilder, hframes]
        rfl
  | text raw =>
      rw [step, Builder.step]
      cases Reference.replace raw with
      | error fault => rfl
      | ok value =>
          dsimp only
          split
          · rfl
          · exact addLeaf_ofBuilder hsingle (.text _) (.text _) (fun _ => rfl) (.error _)
  | comment body =>
      exact addLeaf_ofBuilder hsingle (.comment _) (.comment _) (fun _ => rfl) (.ok _)
  | cdata body =>
      exact addLeaf_ofBuilder hsingle (.cdata _) (.cdata _) (fun _ => rfl) (.error _)
  | ignored => rfl

/-- At the end of a document there is the same error, or the arena of the root. -/
theorem finish_ofBuilder {builder : Builder} (hsingle : builder.IsSingle) (length : Nat) :
    (ofBuilder builder).finish length
      = (builder.finish length).map fun root => (⟨root.toNode.cells 0⟩, 0) := by
  rcases hsingle.cases with rfl | ⟨root, rfl⟩ | ⟨inner, outer, rfl⟩
  · rfl
  · rw [ofBuilder_complete]
    rfl
  · obtain ⟨front, place, root, hplace, hframes⟩ := ofFrames_cons inner outer
    have hcell : (front ++ inner.toNode.cells place)[place]?
        = some (.element inner.name inner.attributes.entries
            (Node.places (place + 1) inner.children.reverse)) := by
      rw [Frame.toNode, Node.cells, ← hplace, List.getElem?_append_right (Nat.le_refl _),
        Nat.sub_self]
      rfl
    rw [ofBuilder, hframes]
    simp only [finish, hcell]
    rfl

end Draft

/-! ## Whole documents -/

/-- Two readings of a trace agree if their states stay related by `f`. -/
theorem Trace.read_map {σ τ ρ ω : Type} {step : σ → Event → Except Cause σ}
    {step' : τ → Event → Except Cause τ} {finish : σ → Nat → Except Error ρ}
    {finish' : τ → Nat → Except Error ω} {f : σ → τ} {g : ρ → ω} {P : σ → Prop}
    (hstep : ∀ {state}, P state → ∀ event, step' (f state) event = (step state event).map f)
    (hkeep : ∀ {state next event}, P state → step state event = .ok next → P next)
    (hfinish : ∀ {state}, P state → ∀ length,
      finish' (f state) length = (finish state length).map g)
    (trace : Trace) {start : σ} (hstart : P start) :
    trace.read step' finish' (f start) = (trace.read step finish start).map g := by
  obtain ⟨events, error, length⟩ := trace
  induction events generalizing start with
  | nil =>
      cases error with
      | some error => rfl
      | none => exact hfinish hstart length
  | cons entry rest ih =>
      obtain ⟨offset, event⟩ := entry
      rw [Trace.read, Trace.read, Trace.run, Trace.run, hstep hstart]
      cases hnext : step start event with
      | error cause => rfl
      | ok next => exact ih (hkeep hstart hnext)

/-- A document is read into the arena of its root, with the root in front, or it is
    refused for the same reason. -/
theorem Arena.ofDocument_eq (document : List Char) :
    Arena.ofDocument document
      = (parseRoot document).map fun root => (⟨root.toNode.cells 0⟩, 0) := by
  have hstart : Builder.start.IsSingle := fun hne => absurd rfl hne
  exact Trace.read_map (fun hsingle => Draft.step_ofBuilder hsingle)
    (fun hsingle hnext => hsingle.step hnext)
    (fun hsingle => Draft.finish_ofBuilder hsingle) (Trace.ofDocument document) hstart

/-- What is kept of the root of an arena is what is kept of the root. -/
theorem Arena.content_cells (root : Frame) :
    Arena.content ⟨root.toNode.cells 0⟩ 0
      = some ⟨root.attributes.filterKeys (· != droppedAttribute),
          Node.renderAll root.children.reverse⟩ := by
  have hholds : (Arena.mk (root.toNode.cells 0)).Holds 0 (root.toNode.cells 0) :=
    Arena.holds_behind [] (root.toNode.cells 0)
  have hcell : (root.toNode.cells 0)[0]? = some (.element root.name root.attributes.entries
      (Node.places 1 root.children.reverse)) := hholds.1
  have hmap : OrderedMap.ofPairs
      (root.attributes.entries.filter fun entry => entry.1 != droppedAttribute)
        = root.attributes.filterKeys (· != droppedAttribute) :=
    OrderedMap.ofPairs_entries (root.attributes.filterKeys (· != droppedAttribute))
  have hsize : Node.sizeAll root.children.reverse ≤ (root.toNode.cells 0).length := by
    rw [Node.length_cells, Frame.toNode, Node.size]
    exact Nat.le_succ _
  rw [Arena.content, Arena.inner_of_holds hholds hsize, hcell, ← hmap]
  rfl

end IconCompiler.Markup
