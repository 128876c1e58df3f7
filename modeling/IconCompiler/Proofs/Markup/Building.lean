import IconCompiler.Markup.Document
import IconCompiler.Proofs.Results

/-! # Building a tree from events

    What one event can do to a document that is being read, said once
    (`Builder.Moves`): it opens, closes or passes an element, adds a leaf to the
    innermost open element, or changes nothing.  A document is read to the end
    exactly if its events, taken in order, lead from nothing to a complete root
    (`parseRoot_eq_ok_iff`).  Properties of the tree follow by induction over
    the events. -/

namespace IconCompiler.Markup

open Text

/-- The tag of an event that opens an element. -/
def Event.tag? : Event → Option Tag
  | .start tag => some tag
  | .empty tag => some tag
  | _ => none

/-- An event that adds a leaf, and the leaf. -/
inductive Event.Leaf : Event → Node → Prop
  | text {raw value : List Char} : Reference.replace raw = .ok value →
      raw.all isBlank = false → Event.Leaf (.text raw) (.text (String.ofList raw))
  | comment (body : List Char) : Event.Leaf (.comment body) (.comment (String.ofList body))
  | cdata (body : List Char) : Event.Leaf (.cdata body) (.cdata (String.ofList body))

/-- The frame with more children. -/
def Frame.addAll (frame : Frame) (nodes : List Node) : Frame :=
  { frame with children := nodes.reverse ++ frame.children }

theorem Frame.addAll_cons (frame : Frame) (node : Node) (nodes : List Node) :
    frame.addAll (node :: nodes) = (frame.add node).addAll nodes := by
  simp [Frame.addAll, Frame.add]

/-- Taking events succeeds if the events, without their offsets, can be taken one
    after the other. -/
theorem Trace.run_eq_ok_iff {σ : Type} {step : σ → Event → Except Cause σ} {before after : σ}
    {events : List (Nat × Event)} :
    Trace.run step before events = .ok after
      ↔ (events.map Prod.snd).foldlM step before = .ok after := by
  induction events generalizing before with
  | nil => simp [Trace.run, pure, Except.pure]
  | cons entry rest ih =>
      obtain ⟨offset, event⟩ := entry
      rw [Trace.run, List.map_cons, foldlM_cons_eq_ok_iff]
      cases step before event with
      | error cause => simp
      | ok middle => simpa using ih

namespace Builder

/-- The builder with one more open element. -/
def push (builder : Builder) (frame : Frame) : Builder :=
  { builder with openFrames := frame :: builder.openFrames }

/-- What an event can do to a builder. -/
inductive Moves : Builder → Event → Builder → Prop
  | enter {builder : Builder} {tag : Tag} {frame : Frame} : Frame.ofTag tag = .ok frame →
      (builder.openFrames = [] → builder.root = none) →
        Moves builder (.start tag) (builder.push frame)
  | pass {builder next : Builder} {tag : Tag} {frame : Frame} : Frame.ofTag tag = .ok frame →
      (builder.openFrames = [] → builder.root = none) →
        (builder.push frame).leave = .ok next → Moves builder (.empty tag) next
  | leave {builder next : Builder} : builder.leave = .ok next → Moves builder .close next
  | leaf {event : Event} {node : Node} {inner : Frame} {rest : List Frame}
      {root : Option Frame} : Event.Leaf event node →
        Moves ⟨inner :: rest, root⟩ event ⟨inner.add node :: rest, root⟩
  | stay {builder : Builder} {event : Event} : event.tag? = none → Moves builder event builder

/-! ## One event -/

theorem enter_eq_ok {builder next : Builder} {tag : Tag} (h : builder.enter tag = .ok next) :
    ∃ frame, Frame.ofTag tag = .ok frame ∧ (builder.openFrames = [] → builder.root = none)
      ∧ next = builder.push frame := by
  rw [enter] at h
  obtain ⟨frame, hframe, hpush⟩ := bind_eq_ok_iff.mp h
  refine ⟨frame, hframe, ?_⟩
  split at hpush
  · exact absurd hpush (by simp)
  · next hroot =>
      refine ⟨?_, (Except.ok.inj hpush).symm⟩
      intro hopen
      simpa [hopen] using hroot

/-- Leaving an element completes the root or adds the element to the one around it. -/
theorem leave_eq_ok {builder next : Builder} (h : builder.leave = .ok next) :
    (∃ root, builder.openFrames = [root] ∧ next = ⟨[], some root⟩)
      ∨ ∃ inner outer rest, builder.openFrames = inner :: outer :: rest
        ∧ next = ⟨outer.add inner.toNode :: rest, builder.root⟩ := by
  obtain ⟨frames, root⟩ := builder
  match frames with
  | [] => exact absurd h (by simp [leave])
  | [root] => exact .inl ⟨root, rfl, (Except.ok.inj h).symm⟩
  | inner :: outer :: rest => exact .inr ⟨inner, outer, rest, rfl, (Except.ok.inj h).symm⟩

/-- An open element can be left. -/
theorem exists_leave (inner : Frame) (outer : List Frame) (root : Option Frame) :
    ∃ next, (Builder.mk (inner :: outer) root).leave = .ok next := by
  cases outer with
  | nil => exact ⟨_, rfl⟩
  | cons next rest => exact ⟨_, rfl⟩

theorem addNode_eq_ok {builder next : Builder} {node : Node} {fault : Except Cause Builder}
    (h : builder.addNode node fault = .ok next) :
    fault = .ok next
      ∨ ∃ inner rest, builder.openFrames = inner :: rest
        ∧ next = ⟨inner.add node :: rest, builder.root⟩ := by
  obtain ⟨frames, root⟩ := builder
  cases frames with
  | nil => exact .inl h
  | cons inner rest => exact .inr ⟨inner, rest, rfl, (Except.ok.inj h).symm⟩

/-- A leaf goes into the innermost open element. -/
theorem moves_of_addNode {builder next : Builder} {event : Event} {node : Node}
    {fault : Except Cause Builder} (hleaf : Event.Leaf event node)
    (hfault : fault = .ok next → next = builder)
    (htag : event.tag? = none) (h : builder.addNode node fault = .ok next) :
    Moves builder event next := by
  rcases addNode_eq_ok h with hstay | ⟨inner, rest, hframes, rfl⟩
  · rw [hfault hstay]
    exact .stay htag
  · obtain ⟨frames, root⟩ := builder
    cases hframes
    exact .leaf hleaf

/-- An event that is accepted does one of the things that events can do. -/
theorem moves_of_step {builder next : Builder} {event : Event}
    (h : builder.step event = .ok next) : Moves builder event next := by
  cases event with
  | start tag =>
      obtain ⟨frame, hframe, hroot, rfl⟩ := enter_eq_ok h
      exact .enter hframe hroot
  | empty tag =>
      rw [step] at h
      obtain ⟨middle, henter, hleave⟩ := bind_eq_ok_iff.mp h
      obtain ⟨frame, hframe, hroot, rfl⟩ := enter_eq_ok henter
      exact .pass hframe hroot hleave
  | close => exact .leave h
  | text raw =>
      rw [step] at h
      split at h
      · exact absurd h (by simp)
      · next value hvalue =>
          split at h
          -- blank text is dropped, wherever it stands
          · rw [← Except.ok.inj h]
            exact .stay rfl
          · next hblank =>
              exact moves_of_addNode (.text hvalue (by simpa using hblank))
                (fun he => absurd he (by simp)) rfl h
  | comment body =>
      exact moves_of_addNode (.comment body) (fun he => (Except.ok.inj he).symm) rfl h
  | cdata body =>
      exact moves_of_addNode (.cdata body) (fun he => absurd he (by simp)) rfl h
  | ignored =>
      rw [← Except.ok.inj h]
      exact .stay rfl

/-! ## All events -/

/-- What every accepted event keeps is kept by a sequence of events. -/
theorem foldlM_step_induction {P : Builder → List Event → Prop} {builder next : Builder}
    {events : List Event} (hnil : P builder [])
    (hstep : ∀ {before after : Builder} {seen : List Event} {event : Event},
      P before seen → Moves before event after → P after (seen ++ [event]))
    (h : events.foldlM step builder = .ok next) : P next events := by
  -- the events already taken grow at their end, so they are carried along
  have hall : ∀ (rest seen : List Event) (before : Builder), P before seen →
      rest.foldlM step before = .ok next → P next (seen ++ rest) := by
    intro rest
    induction rest with
    | nil =>
        intro seen before hbefore hfold
        rw [← Except.ok.inj hfold, List.append_nil]
        exact hbefore
    | cons event rest ih =>
        intro seen before hbefore hfold
        obtain ⟨after, hevent, hlater⟩ := foldlM_cons_eq_ok_iff.mp hfold
        have hafter := hstep hbefore (moves_of_step hevent)
        have hrest := ih (seen ++ [event]) after hafter hlater
        rwa [List.append_assoc, List.singleton_append] at hrest
  exact hall events [] builder hnil h

end Builder

/-! ## Whole documents -/

/-- A document is read if its events end without an error and complete a root. -/
theorem parseRoot_eq_ok_iff {document : List Char} {root : Frame} :
    parseRoot document = .ok root
      ↔ (Trace.ofDocument document).error = none
        ∧ ((Trace.ofDocument document).events.map Prod.snd).foldlM Builder.step Builder.start
          = .ok ⟨[], some root⟩ := by
  rw [← Trace.run_eq_ok_iff, parseRoot, Trace.read]
  generalize Trace.ofDocument document = trace
  rw [bind_eq_ok_iff]
  constructor
  · rintro ⟨⟨frames, top⟩, hrun, hfinish⟩
    cases herror : trace.error with
    | some fault =>
        rw [herror] at hfinish
        exact absurd hfinish (by simp)
    | none =>
        rw [herror] at hfinish
        cases frames with
        | cons inner rest => exact absurd hfinish (by simp [Builder.finish])
        | nil =>
            cases top with
            | none => exact absurd hfinish (by simp [Builder.finish])
            | some top =>
                rw [hrun, Except.ok.inj hfinish]
                exact ⟨rfl, rfl⟩
  · rintro ⟨herror, hrun⟩
    refine ⟨_, hrun, ?_⟩
    rw [herror]
    rfl

/-- The part of a document that counts: it begins behind the byte order marks. -/
def withoutMarks (document : String) : List Char :=
  document.toList.dropWhile (· == '\uFEFF')

/-- What is kept of a document is that of its root. -/
theorem readContent_eq_ok_iff {document : String} {content : Content} :
    readContent document = .ok content
      ↔ ∃ root, parseRoot (withoutMarks document) = .ok root
        ∧ content = ⟨root.attributes.filterKeys (· != droppedAttribute),
            Node.renderAll root.children.reverse⟩ := by
  rw [readContent, ← withoutMarks, bind_eq_ok_iff]
  constructor
  · rintro ⟨root, hroot, hcontent⟩
    exact ⟨root, hroot, (Except.ok.inj hcontent).symm⟩
  · rintro ⟨root, hroot, rfl⟩
    exact ⟨root, hroot, rfl⟩

/-- The tags that open the elements of a document, in order. -/
def documentTags (document : String) : List Tag :=
  ((Trace.ofDocument (withoutMarks document)).events.map Prod.snd).filterMap Event.tag?

end IconCompiler.Markup
