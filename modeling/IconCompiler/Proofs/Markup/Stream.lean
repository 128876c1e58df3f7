import IconCompiler.Proofs.Markup.OpenElements
import IconCompiler.Proofs.Markup.Separate

/-! # What is kept, event by event

    The events inside the root of a document nest (`Inside`), and what is kept of
    them can be written from left to right, without a tree: an event adds its own
    text, and only the bracket that ends a start tag waits for what comes next
    (`writeEvents`).  Together with the arena that a document fills this is what
    the inner markup of a document is (`Arena.reads_in_order`). -/

namespace IconCompiler.Markup

open Text

/-! ## Attributes of a tag -/

/-- What is kept of an attribute: its local name with the value that is written
    for it; of a namespace declaration nothing is kept. -/
def RawAttribute.kept? (raw : RawAttribute) : Option (String × String) :=
  if isNamespaceBinding raw.key then none
  else (Reference.replace raw.value).toOption.map fun value =>
    (String.ofList (localName raw.key), String.ofList value)

/-- What is kept of the attributes of a tag, in the order in which they are written. -/
def Tag.kept (tag : Tag) : List (String × String) :=
  tag.attributes.1.filterMap RawAttribute.kept?

namespace Frame

theorem entries_of_foldlM {raws : List RawAttribute} {attributes next : AttributeMap}
    (h : raws.foldlM addAttribute attributes = .ok next) :
    next.entries = attributes.entries ++ raws.filterMap RawAttribute.kept? := by
  induction raws generalizing attributes with
  | nil => rw [← Except.ok.inj h, List.filterMap_nil, List.append_nil]
  | cons raw rest ih =>
      obtain ⟨middle, hraw, hrest⟩ := foldlM_cons_eq_ok_iff.mp h
      rw [ih hrest]
      rcases addAttribute_eq_ok hraw with ⟨hbinding, rfl⟩ | ⟨value, hbinding, hvalue, -, hentries⟩
      · rw [List.filterMap_cons_none (by rw [RawAttribute.kept?, if_pos hbinding])]
      · have hkept : raw.kept? = some (String.ofList (localName raw.key), String.ofList value) := by
          rw [RawAttribute.kept?, hbinding, if_neg Bool.false_ne_true, hvalue]
          rfl
        rw [List.filterMap_cons_some hkept, hentries, List.append_assoc]
        rfl

/-- An element has the attributes that are kept of its tag. -/
theorem entries_of_ofTag {tag : Tag} {frame : Frame} (h : Frame.ofTag tag = .ok frame) :
    frame.attributes.entries = tag.kept := by
  obtain ⟨-, hfold, -, -⟩ := ofTag_eq_ok_iff.mp h
  exact entries_of_foldlM hfold

end Frame

/-! ## Events inside an element -/

/-- An event of which nothing is kept: blank text, a declaration or an instruction. -/
def Event.isSilent : Event → Bool
  | .text raw => raw.all isBlank
  | .ignored => true
  | _ => false

/-- Events inside an element, up to where it is closed, and the children that they
    give it. -/
inductive Inside : List Event → List Node → Prop
  | nil : Inside [] []
  | silent {event : Event} {events : List Event} {nodes : List Node} :
      event.isSilent = true → Inside events nodes → Inside (event :: events) nodes
  | leaf {event : Event} {node : Node} {events : List Event} {nodes : List Node} :
      event.Leaf node → Inside events nodes → Inside (event :: events) (node :: nodes)
  | empty {tag : Tag} {frame : Frame} {events : List Event} {nodes : List Node} :
      Frame.ofTag tag = .ok frame → Inside events nodes →
        Inside (.empty tag :: events) (frame.toNode :: nodes)
  | element {tag : Tag} {frame : Frame} {inner events : List Event}
      {children nodes : List Node} :
      Frame.ofTag tag = .ok frame → Inside inner children → Inside events nodes →
        Inside (.start tag :: (inner ++ .close :: events))
          ((frame.addAll children).toNode :: nodes)

namespace Builder

/-- What an event can do inside an element. -/
theorem step_inside {inner : Frame} {outer : List Frame} {event : Event} {next : Builder}
    (h : step ⟨inner :: outer, none⟩ event = .ok next) :
    (event = .close ∧ (Builder.mk (inner :: outer) none).leave = .ok next)
      ∨ (∃ tag frame, event = .start tag ∧ Frame.ofTag tag = .ok frame
        ∧ next = ⟨frame :: inner :: outer, none⟩)
      ∨ (∃ tag frame, event = .empty tag ∧ Frame.ofTag tag = .ok frame
        ∧ next = ⟨inner.add frame.toNode :: outer, none⟩)
      ∨ (event.isSilent = true ∧ next = ⟨inner :: outer, none⟩)
      ∨ ∃ node, event.Leaf node ∧ next = ⟨inner.add node :: outer, none⟩ := by
  cases event with
  | close => exact .inl ⟨rfl, h⟩
  | start tag =>
      obtain ⟨frame, hframe, -, rfl⟩ := enter_eq_ok h
      exact .inr (.inl ⟨tag, frame, rfl, hframe, rfl⟩)
  | empty tag =>
      obtain ⟨middle, henter, hleave⟩ := bind_eq_ok_iff.mp h
      obtain ⟨frame, hframe, -, rfl⟩ := enter_eq_ok henter
      exact .inr (.inr (.inl ⟨tag, frame, rfl, hframe, (Except.ok.inj hleave).symm⟩))
  | ignored => exact .inr (.inr (.inr (.inl ⟨rfl, (Except.ok.inj h).symm⟩)))
  | text raw =>
      rw [step] at h
      split at h
      · exact absurd h (by simp)
      · next value hvalue =>
          split at h
          · next hblank => exact .inr (.inr (.inr (.inl ⟨hblank, (Except.ok.inj h).symm⟩)))
          · next hblank =>
              exact .inr (.inr (.inr (.inr ⟨_, .text hvalue (by simpa using hblank),
                (Except.ok.inj h).symm⟩)))
  | comment body => exact .inr (.inr (.inr (.inr ⟨_, .comment body, (Except.ok.inj h).symm⟩)))
  | cdata body => exact .inr (.inr (.inr (.inr ⟨_, .cdata body, (Except.ok.inj h).symm⟩)))

/-- From inside an element a root is completed only after the element is closed. -/
theorem exists_inside {inner root : Frame} {outer : List Frame} {events : List Event}
    (h : events.foldlM step ⟨inner :: outer, none⟩ = .ok ⟨[], some root⟩) :
    ∃ inside nodes behind next, events = inside ++ .close :: behind ∧ Inside inside nodes
      ∧ (Builder.mk (inner.addAll nodes :: outer) none).leave = .ok next
      ∧ behind.foldlM step next = .ok ⟨[], some root⟩ := by
  -- behind an element that is opened and closed again there are fewer events left
  induction hn : events.length using Nat.strongRecOn generalizing events inner outer with
  | ind n ih =>
  subst hn
  cases events with
  | nil => exact absurd (Except.ok.inj h) (by simp)
  | cons event rest =>
      obtain ⟨middle, hstep, hrest⟩ := foldlM_cons_eq_ok_iff.mp h
      have hshorter : rest.length < (event :: rest).length := Nat.lt_succ_self _
      rcases step_inside hstep with ⟨rfl, hleave⟩ | ⟨tag, frame, rfl, hframe, rfl⟩
        | ⟨tag, frame, rfl, hframe, rfl⟩ | ⟨hsilent, rfl⟩ | ⟨node, hleaf, rfl⟩
      · exact ⟨[], [], rest, middle, rfl, .nil, hleave, hrest⟩
      · obtain ⟨within, children, behind, next, rfl, hwithin, hleave, hbehind⟩ :=
          ih _ hshorter hrest rfl
        obtain rfl := Except.ok.inj hleave
        have hlength : behind.length < (Event.start tag :: (within ++ .close :: behind)).length := by
          simp only [List.length_cons, List.length_append]
          omega
        obtain ⟨inside, nodes, later, last, rfl, hinside, hlast, hlater⟩ :=
          ih _ hlength hbehind rfl
        refine ⟨_, _, later, last, ?_, .element hframe hwithin hinside, ?_, hlater⟩
        · simp
        · rw [Frame.addAll_cons]
          exact hlast
      · obtain ⟨inside, nodes, later, last, rfl, hinside, hlast, hlater⟩ :=
          ih _ hshorter hrest rfl
        refine ⟨_, _, later, last, rfl, .empty hframe hinside, ?_, hlater⟩
        rw [Frame.addAll_cons]
        exact hlast
      · obtain ⟨inside, nodes, later, last, rfl, hinside, hlast, hlater⟩ :=
          ih _ hshorter hrest rfl
        exact ⟨_, nodes, later, last, rfl, .silent hsilent hinside, hlast, hlater⟩
      · obtain ⟨inside, nodes, later, last, rfl, hinside, hlast, hlater⟩ :=
          ih _ hshorter hrest rfl
        refine ⟨_, _, later, last, rfl, .leaf hleaf hinside, ?_, hlater⟩
        rw [Frame.addAll_cons]
        exact hlast

end Builder

/-! ## Events inside the root -/

/-- An event that opens and closes nothing. -/
def Event.isLevel : Event → Bool
  | .start _ | .empty _ | .close => false
  | _ => true

/-- The tag of the root and the events strictly inside it: in front of it and
    behind it nothing is opened or closed. -/
def InsideRoot (events : List Event) (tag : Tag) (inside : List Event) : Prop :=
  ∃ prolog epilog, (∀ event ∈ prolog ++ epilog, event.isLevel = true)
    ∧ (events = prolog ++ .start tag :: (inside ++ .close :: epilog)
      ∨ events = prolog ++ .empty tag :: epilog ∧ inside = [])

theorem InsideRoot.cons {event : Event} (hlevel : event.isLevel = true) {events : List Event}
    {tag : Tag} {inside : List Event} (h : InsideRoot events tag inside) :
    InsideRoot (event :: events) tag inside := by
  obtain ⟨prolog, epilog, hall, hevents⟩ := h
  refine ⟨event :: prolog, epilog, ?_, ?_⟩
  · rw [List.cons_append]
    exact List.forall_mem_cons.mpr ⟨hlevel, hall⟩
  · rcases hevents with rfl | ⟨rfl, rfl⟩
    · exact .inl rfl
    · exact .inr ⟨rfl, rfl⟩

namespace Builder

/-- What an event can do outside of all elements. -/
theorem step_outside {root : Option Frame} {event : Event} {next : Builder}
    (h : step ⟨[], root⟩ event = .ok next) :
    (event.isLevel = true ∧ next = ⟨[], root⟩)
      ∨ (∃ tag frame, event = .start tag ∧ Frame.ofTag tag = .ok frame ∧ root = none
        ∧ next = ⟨[frame], none⟩)
      ∨ ∃ tag frame, event = .empty tag ∧ Frame.ofTag tag = .ok frame ∧ root = none
        ∧ next = ⟨[], some frame⟩ := by
  cases event with
  | close => exact absurd h (by simp [step, leave])
  | start tag =>
      obtain ⟨frame, hframe, hroot, rfl⟩ := enter_eq_ok h
      obtain rfl : root = none := hroot rfl
      exact .inr (.inl ⟨tag, frame, rfl, hframe, rfl, rfl⟩)
  | empty tag =>
      obtain ⟨middle, henter, hleave⟩ := bind_eq_ok_iff.mp h
      obtain ⟨frame, hframe, hroot, rfl⟩ := enter_eq_ok henter
      obtain rfl : root = none := hroot rfl
      exact .inr (.inr ⟨tag, frame, rfl, hframe, rfl, (Except.ok.inj hleave).symm⟩)
  | ignored => exact .inl ⟨rfl, (Except.ok.inj h).symm⟩
  | comment body => exact .inl ⟨rfl, (Except.ok.inj h).symm⟩
  | cdata body => exact absurd h (by simp [step, addNode])
  | text raw =>
      rw [step] at h
      split at h
      · exact absurd h (by simp)
      · split at h
        · exact .inl ⟨rfl, (Except.ok.inj h).symm⟩
        · exact absurd h (by simp [addNode])

/-- Behind a complete root nothing is opened. -/
theorem level_of_complete {root last : Frame} {events : List Event}
    (h : events.foldlM step ⟨[], some root⟩ = .ok ⟨[], some last⟩) :
    last = root ∧ ∀ event ∈ events, event.isLevel = true := by
  induction events with
  | nil =>
      obtain ⟨-, hroot⟩ := Builder.mk.inj (Except.ok.inj h)
      exact ⟨(Option.some.inj hroot).symm, by simp⟩
  | cons event rest ih =>
      obtain ⟨middle, hstep, hrest⟩ := foldlM_cons_eq_ok_iff.mp h
      rcases step_outside hstep with ⟨hlevel, rfl⟩ | ⟨_, _, _, _, hnone, _⟩ | ⟨_, _, _, _, hnone, _⟩
      · obtain ⟨hlast, hall⟩ := ih hrest
        exact ⟨hlast, List.forall_mem_cons.mpr ⟨hlevel, hall⟩⟩
      · exact absurd hnone (by simp)
      · exact absurd hnone (by simp)

/-- Events that lead to a root are those of its tag and inside it, and its children
    are what the events inside it give. -/
theorem exists_insideRoot {root : Frame} {events : List Event}
    (h : events.foldlM step start = .ok ⟨[], some root⟩) :
    ∃ tag frame inside nodes, InsideRoot events tag inside ∧ Frame.ofTag tag = .ok frame
      ∧ Inside inside nodes ∧ root = frame.addAll nodes := by
  induction events with
  | nil => exact absurd (Except.ok.inj h) (by simp [start])
  | cons event rest ih =>
      obtain ⟨middle, hstep, hrest⟩ := foldlM_cons_eq_ok_iff.mp h
      rcases step_outside hstep with ⟨hlevel, rfl⟩ | ⟨tag, frame, rfl, hframe, -, rfl⟩
        | ⟨tag, frame, rfl, hframe, -, rfl⟩
      · obtain ⟨tag, frame, inside, nodes, hinside, hfound⟩ := ih hrest
        exact ⟨tag, frame, inside, nodes, hinside.cons hlevel, hfound⟩
      · obtain ⟨inside, nodes, behind, next, rfl, hinside, hleave, hbehind⟩ := exists_inside hrest
        obtain rfl := Except.ok.inj hleave
        obtain ⟨hroot, hlevel⟩ := level_of_complete hbehind
        exact ⟨tag, frame, inside, nodes, ⟨[], behind, hlevel, .inl rfl⟩, hframe, hinside, hroot⟩
      · obtain ⟨hroot, hlevel⟩ := level_of_complete hrest
        exact ⟨tag, frame, [], [], ⟨[], rest, hlevel, .inr ⟨rfl, rfl⟩⟩, hframe, .nil, hroot⟩

end Builder

/-! ## Writing events -/

/-- The start of a tag with the attributes that are kept of it, up to its end. -/
def Tag.opening (tag : Tag) : String :=
  "<" ++ String.ofList (localName tag.name) ++ String.join (tag.kept.map renderAttribute)

/-- Events written from left to right, while elements of these names are open.  The
    bracket behind a start tag is `pending` until something inside the element is
    written; if nothing is, its closing tag is written as the end of the start tag. -/
def writeEvents (pending : Bool) (names : List String) : List Event → String
  | [] => ""
  | .start tag :: rest =>
    (if pending then ">" else "") ++ tag.opening
      ++ writeEvents true (String.ofList (localName tag.name) :: names) rest
  | .empty tag :: rest =>
    (if pending then ">" else "") ++ tag.opening ++ " />" ++ writeEvents false names rest
  | .close :: rest =>
    (if pending then " />" else "</" ++ names.headD "" ++ ">") ++ writeEvents false names.tail rest
  | .text raw :: rest =>
    if raw.all isBlank then writeEvents pending names rest
    else (if pending then ">" else "") ++ String.ofList raw ++ writeEvents false names rest
  | .comment body :: rest =>
    (if pending then ">" else "") ++ "<!--" ++ String.ofList body ++ "-->"
      ++ writeEvents false names rest
  | .cdata body :: rest =>
    (if pending then ">" else "") ++ "<![CDATA[" ++ String.ofList body ++ "]]>"
      ++ writeEvents false names rest
  | .ignored :: rest => writeEvents pending names rest

/-- An element is written with the start of its tag. -/
theorem render_of_ofTag {tag : Tag} {frame : Frame} (h : Frame.ofTag tag = .ok frame)
    (children : List Node) :
    (frame.addAll children).toNode.render
      = tag.opening ++ if children.isEmpty then " />"
        else ">" ++ Node.renderAll children ++ "</" ++ String.ofList (localName tag.name) ++ ">" := by
  obtain ⟨-, -, hname, hempty⟩ := Frame.ofTag_eq_ok_iff.mp h
  have hnode : (frame.addAll children).toNode
      = .element (String.ofList (localName tag.name)) frame.attributes children := by
    rw [Frame.toNode, Frame.addAll, hempty, ← hname]
    simp
  have hopening : tag.opening
      = "<" ++ String.ofList (localName tag.name) ++ renderAttributes frame.attributes := by
    rw [Tag.opening, renderAttributes, Frame.entries_of_ofTag h]
  rw [hnode, hopening]
  cases children with
  | nil => rw [Node.render_element_nil]; rfl
  | cons child rest =>
      rw [Node.render_element (List.cons_ne_nil _ _)]
      simp [String.append_assoc]

/-- Events inside an element are written like the children that they give it. -/
theorem writeEvents_inside {events : List Event} {nodes : List Node} (h : Inside events nodes)
    (pending : Bool) (names : List String) (rest : List Event) :
    writeEvents pending names (events ++ rest)
      = (if pending && !nodes.isEmpty then ">" else "") ++ Node.renderAll nodes
        ++ writeEvents (pending && nodes.isEmpty) names rest := by
  induction h generalizing pending names rest with
  | nil => simp [Node.renderAll]
  | @silent event events nodes hsilent _ ih =>
      rw [List.cons_append, ← ih]
      cases event with
      | text raw =>
          have hblank : raw.all isBlank = true := hsilent
          rw [writeEvents, if_pos hblank]
      | ignored => rw [writeEvents]
      | start | empty | close | comment | cdata => exact absurd hsilent Bool.false_ne_true
  | leaf hleaf _ ih =>
      cases hleaf with
      | text _ hblank =>
          rw [List.cons_append, writeEvents, hblank, if_neg Bool.false_ne_true, ih]
          simp [Node.renderAll, Node.render, String.append_assoc]
      | comment body =>
          rw [List.cons_append, writeEvents, ih]
          simp [Node.renderAll, Node.render, String.append_assoc]
      | cdata body =>
          rw [List.cons_append, writeEvents, ih]
          simp [Node.renderAll, Node.render, String.append_assoc]
  | @empty tag frame events nodes hframe _ ih =>
      have hrender : frame.toNode.render = tag.opening ++ " />" := render_of_ofTag hframe []
      rw [List.cons_append, writeEvents, ih, Node.renderAll, hrender]
      simp [String.append_assoc]
  | @element tag frame inner events children nodes hframe _ _ ihinner ih =>
      rw [List.cons_append, List.append_assoc, writeEvents, ihinner, List.cons_append, writeEvents,
        ih, Node.renderAll, render_of_ofTag hframe]
      cases children with
      | nil => simp [Node.renderAll, String.append_assoc]
      | cons child more => simp [String.append_assoc]

/-! ## Whole documents -/

/-- The events of a document, in order. -/
def documentEvents (document : String) : List Event :=
  (Trace.ofDocument (withoutMarks document)).events.map Prod.snd

/-- What is kept of a document is written from its events: the attributes of the tag
    of its root, without `class`, and what is strictly inside the root. -/
theorem content_of_events {document : String} {root : Frame}
    (h : parseRoot (withoutMarks document) = .ok root) :
    ∃ tag inside, InsideRoot (documentEvents document) tag inside
      ∧ root.attributes.entries = tag.kept ∧ root.attributes.keys = tag.localKeys
      ∧ Node.renderAll root.children.reverse = writeEvents false [] inside := by
  obtain ⟨-, hevents⟩ := parseRoot_eq_ok_iff.mp h
  obtain ⟨tag, frame, inside, nodes, hroot, hframe, hinside, rfl⟩ :=
    Builder.exists_insideRoot hevents
  obtain ⟨-, -, -, hempty⟩ := Frame.ofTag_eq_ok_iff.mp hframe
  have hentries := Frame.entries_of_ofTag hframe
  have hkeys := Frame.keys_of_ofTag hframe
  refine ⟨tag, inside, hroot, hentries, hkeys, ?_⟩
  have hwritten := writeEvents_inside hinside false [] []
  rw [List.append_nil] at hwritten
  rw [hwritten, Frame.addAll, hempty]
  simp [writeEvents]

/-- The arena program is the reading of documents: however far a document is read,
    its nodes form a tree and the stack is the chain of the elements that the reader
    has open, so no closing tag is unexpected; it keeps the same content, which it
    comes to an end writing, or reports the same error; and what it keeps are the
    attributes of the root under their local names, without namespace declarations
    and `class`, and the events strictly inside the root, from left to right. -/
theorem Arena.reads_in_order (document : String) :
    (∀ events names builder rest,
        Reads ⟨[], .start⟩ (withoutMarks document) events ⟨names, builder⟩ rest →
        ∃ draft, events.foldlM Draft.step .start = .ok draft ∧ draft.arena.IsTree
          ∧ draft.arena.OpenChain draft.stack (localNames names))
      ∧ (∀ error, Arena.ofDocument (withoutMarks document) = .error error →
        error.cause ≠ .unexpectedClose)
      ∧ (Arena.ofDocument (withoutMarks document)).map (fun found => found.1.content found.2)
        = (readContent document).map some
      ∧ ∀ content, readContent document = .ok content →
        ∃ arena tag inside, Arena.ofDocument (withoutMarks document) = .ok (arena, 0)
          ∧ (∃ name, arena.HasElement 0 name) ∧ arena.IsTree
          ∧ (∀ place < arena.cells.length, ∃ text, ∀ depth, arena.cells.length ≤ depth →
            arena.writeWithin depth place = some text)
          ∧ arena.content 0 = some content
          ∧ InsideRoot (documentEvents document) tag inside
          ∧ content.attributes.entries = tag.kept.filter (fun entry => entry.1 != "class")
          ∧ content.attributes.keys = tag.localKeys.filter (· != "class")
          ∧ content.inner = writeEvents false [] inside := by
  have hsound : ∀ {events names builder rest},
      Reads ⟨[], .start⟩ (withoutMarks document) events ⟨names, builder⟩ rest →
        events.foldlM Draft.step .start = .ok (Draft.ofBuilder builder)
          ∧ (Draft.ofBuilder builder).Sound (localNames names) :=
    fun hreads => Draft.sound_of_reads hreads (fun hne => absurd rfl hne) Draft.sound_start
  refine ⟨?_, ?_, ?_, ?_⟩
  · intro events names builder rest hreads
    obtain ⟨hevents, hdraft⟩ := hsound hreads
    exact ⟨_, hevents, hdraft.tree, hdraft.chain⟩
  · intro error herror
    rw [Arena.ofDocument_eq] at herror
    cases hroot : parseRoot (withoutMarks document) with
    | error other =>
        rw [hroot] at herror
        rw [← Except.error.inj herror]
        exact parseRoot_ne_unexpectedClose hroot
    | ok root =>
        rw [hroot] at herror
        exact absurd herror (by simp [Except.map])
  · rw [readContent, ← withoutMarks, Arena.ofDocument_eq]
    cases parseRoot (withoutMarks document) with
    | error error => rfl
    | ok root => exact congrArg Except.ok (Arena.content_cells root)
  · intro content hcontent
    obtain ⟨root, hroot, rfl⟩ := readContent_eq_ok_iff.mp hcontent
    obtain ⟨tag, inside, hinside, hentries, hkeys, hinner⟩ := content_of_events hroot
    obtain ⟨names, hreads⟩ := parseRoot_eq_ok_iff_reads.mp hroot
    have htree : (Arena.mk (root.toNode.cells 0)).IsTree := by
      have hdraft := (hsound hreads).2.tree
      rwa [Draft.ofBuilder_complete] at hdraft
    refine ⟨⟨root.toNode.cells 0⟩, tag, inside, ?_, ⟨root.name, _, _, rfl⟩, htree, ?_,
      Arena.content_cells root, hinside, ?_, ?_, hinner⟩
    · rw [Arena.ofDocument_eq, hroot]
      rfl
    · intro place hplace
      obtain ⟨text, htext⟩ := htree.exists_writeWithin place hplace
      exact ⟨text, fun depth hdepth => htext depth (Nat.le_trans (Nat.sub_le _ _) hdepth)⟩
    · rw [← hentries]
      rfl
    · rw [← hkeys, OrderedMap.keys, OrderedMap.keys, List.filter_map]
      rfl

/-- A document with an instruction and comments around its root, a declaration, a
    class and prefixes, and an element with nothing but blank text. -/
def nestedDocument : String :=
  "<?xml?><!--x--><s:svg class=\"c\" b=\"1\" xmlns:s=\"n\" s:a=\"&lt;\"> <g>\n<?p?></g><k>t&amp;"
    ++ "<s:p s:d='\"&gt;'/></k><!--y--><![CDATA[z]]></s:svg>\n<!--e-->"

theorem Arena.reads_in_order_nested :
    ∃ content tag inside,
      readContent nestedDocument = .ok content
        ∧ Arena.ofDocument (withoutMarks nestedDocument) = .ok (⟨[
            .element "svg" [("class", "c"), ("b", "1"), ("a", "<")] [1, 2, 5, 6],
            .element "g" [] [], .element "k" [] [3, 4], .text "t&amp;",
            .element "p" [("d", "\">")] [], .comment "y", .cdata "z"]⟩, 0)
        ∧ InsideRoot (documentEvents nestedDocument) tag inside
        ∧ content.attributes.entries = tag.kept.filter (fun entry => entry.1 != "class")
        ∧ content.attributes.entries = [("b", "1"), ("a", "<")]
        ∧ content.inner = writeEvents false [] inside
        ∧ content.inner = "<g /><k>t&amp;<p d=\"&quot;&gt;\" /></k><!--y--><![CDATA[z]]>" := by
  have hread : (readContent nestedDocument).toOption
      = some ⟨.ofPairs [("b", "1"), ("a", "<")],
        "<g /><k>t&amp;<p d=\"&quot;&gt;\" /></k><!--y--><![CDATA[z]]>"⟩ := by decide +kernel
  have hcells : (Arena.ofDocument (withoutMarks nestedDocument)).toOption = some (⟨[
      .element "svg" [("class", "c"), ("b", "1"), ("a", "<")] [1, 2, 5, 6],
      .element "g" [] [], .element "k" [] [3, 4], .text "t&amp;",
      .element "p" [("d", "\">")] [], .comment "y", .cdata "z"]⟩, 0) := by decide +kernel
  obtain ⟨-, -, -, hkept⟩ := Arena.reads_in_order nestedDocument
  obtain ⟨-, tag, inside, -, -, -, -, -, hinside, hentries, -, hinner⟩ :=
    hkept _ (eq_ok_of_toOption hread)
  exact ⟨_, tag, inside, eq_ok_of_toOption hread, eq_ok_of_toOption hcells, hinside, hentries,
    by decide, hinner, rfl⟩

end IconCompiler.Markup
