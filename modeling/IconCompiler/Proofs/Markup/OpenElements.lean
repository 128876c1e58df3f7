import IconCompiler.Proofs.Markup.Draft
import IconCompiler.Proofs.Markup.Refusals

/-! # The stack of open elements

    Whatever part of a document has been read, the nodes that are filled in form a
    tree, and the stack of a draft is the chain of the elements that the reader
    has open, each the last child of the one around it (`Draft.Sound`).  So a
    closing tag always finds an element to close (`parseRoot_ne_unexpectedClose`). -/

namespace IconCompiler.Markup

namespace Arena

/-- Elements that are open, the innermost first: the outermost is the root, and
    each other one is the last child of the one around it. -/
inductive OpenChain (arena : Arena) : List Nat → List String → Prop
  | outside : OpenChain arena [] []
  | root {name : String} : arena.HasElement 0 name → OpenChain arena [0] [name]
  | inside {place outer : Nat} {name : String} {stack : List Nat} {names : List String} :
      arena.HasElement place name → (arena.children outer).getLast? = some place →
        OpenChain arena (outer :: stack) names →
          OpenChain arena (place :: outer :: stack) (name :: names)

/-- The elements around an open element stand before it. -/
theorem OpenChain.lt_of_mem {arena : Arena} (htree : arena.IsTree) {place : Nat}
    {stack : List Nat} {names : List String} (h : OpenChain arena (place :: stack) names) :
    ∀ outer ∈ stack, outer < place := by
  induction stack generalizing place names with
  | nil =>
      intro outer houter
      exact absurd houter List.not_mem_nil
  | cons next stack ih =>
      cases h with
      | inside _ hlast hrest =>
          have hnext : next < place := (htree.behind next place (List.mem_of_getLast? hlast)).1
          intro outer houter
          rcases List.mem_cons.mp houter with rfl | hmem
          · exact hnext
          · exact Nat.lt_trans (ih hrest outer hmem) hnext

/-- Open elements stay open as long as only the innermost gets children. -/
theorem OpenChain.mono {arena later : Arena}
    (helement : ∀ {place name}, arena.HasElement place name → later.HasElement place name)
    {stack : List Nat} {names : List String} (h : OpenChain arena stack names)
    (hchildren : ∀ outer ∈ stack.tail, later.children outer = arena.children outer) :
    OpenChain later stack names := by
  induction h with
  | outside => exact .outside
  | root hroot => exact .root (helement hroot)
  | inside hplace hlast _ ih =>
      refine .inside (helement hplace) ?_ (ih fun outer houter => ?_)
      · rw [hchildren _ List.mem_cons_self]
        exact hlast
      · exact hchildren outer (List.mem_cons_of_mem _ houter)

theorem OpenChain.attached {arena : Arena} (htree : arena.IsTree) {cell : Cell}
    (hleaf : cell.children = []) {parent : Nat} {stack : List Nat} {names : List String}
    (h : OpenChain arena (parent :: stack) names) :
    (∃ name, arena.HasElement parent name)
      ∧ OpenChain (arena.attached parent cell) (parent :: stack) names := by
  obtain ⟨name, hparent⟩ : ∃ name, arena.HasElement parent name := by
    cases h with
    | root hroot => exact ⟨_, hroot⟩
    | inside hplace => exact ⟨_, hplace⟩
  refine ⟨⟨name, hparent⟩, h.mono (fun hplace => hplace.attached) ?_⟩
  intro outer houter
  rw [children_attached hparent hleaf,
    if_neg (Nat.ne_of_gt (h.lt_of_mem htree outer houter)), List.append_nil]

end Arena

/-- What holds of a draft whenever the elements of these names are open. -/
structure Draft.Sound (draft : Draft) (names : List String) : Prop where
  tree : draft.arena.IsTree
  chain : draft.arena.OpenChain draft.stack names
  empty : draft.root = none → draft.arena.cells = []

namespace Draft

theorem sound_start : start.Sound [] :=
  ⟨Arena.isTree_empty, .outside, fun _ => rfl⟩

theorem Sound.attach {draft : Draft} {names : List String} (h : draft.Sound names)
    (hopen : draft.stack ≠ []) {cell : Cell} (hleaf : cell.children = [])
    (hkeys : (cell.attributes.map Prod.fst).Nodup) : (draft.attach cell).Sound names := by
  obtain ⟨arena, stack, root⟩ := draft
  cases stack with
  | nil => exact absurd rfl hopen
  | cons parent stack =>
      obtain ⟨⟨name, hparent⟩, hchain⟩ := h.chain.attached h.tree hleaf
      refine ⟨h.tree.attached hparent hleaf hkeys, hchain, ?_⟩
      intro hroot
      obtain ⟨attributes, children, hcell⟩ := hparent
      rw [h.empty hroot] at hcell
      exact absurd hcell (by simp)

/-- An element that is opened is the innermost one. -/
theorem Sound.enter {draft : Draft} {names : List String} (h : draft.Sound names)
    (hroot : draft.stack = [] → draft.root = none) (name : String)
    {attributes : List (String × String)} (hkeys : (attributes.map Prod.fst).Nodup) :
    (draft.enter name attributes).Sound (name :: names) := by
  obtain ⟨⟨cells⟩, stack, root⟩ := draft
  cases stack with
  | nil =>
      have hnames : names = [] := by
        cases h.chain with
        | outside => rfl
      have hcells : cells = [] := h.empty (hroot rfl)
      subst hnames hcells
      exact ⟨Arena.isTree_singleton rfl hkeys, .root ⟨_, _, rfl⟩, by simp [Draft.enter]⟩
  | cons parent stack =>
      have hleaf : (Cell.element name attributes []).children = [] := rfl
      obtain ⟨⟨owner, hparent⟩, hchain⟩ := h.chain.attached h.tree hleaf
      have hnew : parent ≠ cells.length := Nat.ne_of_lt hparent.lt_length
      refine ⟨h.tree.attached hparent rfl hkeys, .inside ⟨attributes, [], ?_⟩ ?_ hchain,
        by simp [Draft.enter]⟩
      · show (Arena.attached ⟨cells⟩ parent (.element name attributes [])).cells[cells.length]? = _
        simp [Arena.getElem?_attached, hnew]
      · show (Arena.children (Arena.attached ⟨cells⟩ parent (.element name attributes []))
          parent).getLast? = _
        rw [Arena.children_attached hparent rfl, if_pos rfl, List.getLast?_append]
        rfl

/-- Once the innermost element is closed, the one around it is innermost. -/
theorem Sound.leave {draft : Draft} {name : String} {names : List String}
    (h : draft.Sound (name :: names)) : draft.leave.Sound names := by
  obtain ⟨arena, stack, root⟩ := draft
  refine ⟨h.tree, ?_, h.empty⟩
  cases h.chain with
  | root => exact .outside
  | inside _ _ hchain => exact hchain

end Draft

/-! ## Reading a document -/

/-- The local names of elements whose names are written so. -/
def localNames (names : List (List Char)) : List String :=
  names.map fun name => String.ofList (localName name)

/-- What an event does to the names of the open elements. -/
def Event.Nests (before : List (List Char)) (event : Event) (after : List (List Char)) : Prop :=
  match event with
  | .start tag => after = tag.name :: before
  | .close => ∃ name, before = name :: after
  | _ => after = before

/-- The reader has one more name open behind a start tag, and one less behind a
    closing tag, for which there has to be one. -/
theorem Event.nests_of_ofLexeme {before after : List (List Char)} {lexeme : Lexeme}
    {event : Event} (h : Event.ofLexeme before lexeme = .ok (event, after)) :
    event.Nests before after := by
  cases Event.means_of_ofLexeme h with
  | close => exact ⟨_, rfl⟩
  | start | empty | text | comment | cdata | ignored => rfl

namespace Draft

variable {builder next : Builder}

theorem Sound.ofBuilder_enter (hsingle : builder.IsSingle) {tag : Tag} {names : List String}
    (hnext : builder.enter tag = .ok next) (h : (ofBuilder builder).Sound names) :
    (ofBuilder next).Sound (String.ofList (localName tag.name) :: names) := by
  obtain ⟨-, hroot, frame, hframe, heq⟩ := Draft.ofBuilder_enter hsingle hnext
  obtain ⟨-, -, hname, -⟩ := Frame.ofTag_eq_ok_iff.mp hframe
  rw [heq, ← hname]
  exact h.enter hroot frame.name frame.attributes.keys_nodup

theorem Sound.ofBuilder_add {inner : Frame} {rest : List Frame} {root : Option Frame}
    (hsingle : (Builder.mk (inner :: rest) root).IsSingle) {event : Event} {node : Node}
    (hleaf : event.Leaf node) {names : List String}
    (h : (ofBuilder ⟨inner :: rest, root⟩).Sound names) :
    (ofBuilder ⟨inner.add node :: rest, root⟩).Sound names := by
  have hroot : root = none := hsingle (List.cons_ne_nil _ _)
  subst hroot
  have hopen : (ofFrames (inner :: rest)).stack ≠ [] := by
    obtain ⟨front, place, top, -, hframes⟩ := ofFrames_cons inner rest
    rw [hframes]
    exact List.cons_ne_nil _ _
  rw [ofBuilder, ofFrames_add]
  cases hleaf with
  | text => exact Sound.attach h hopen rfl List.nodup_nil
  | comment => exact Sound.attach h hopen rfl List.nodup_nil
  | cdata => exact Sound.attach h hopen rfl List.nodup_nil

/-- What holds of the draft of a builder while elements are open still holds after
    an event, for the elements that are open then. -/
theorem Sound.step {openNames after : List (List Char)}
    {event : Event} (hsingle : builder.IsSingle) (hnests : event.Nests openNames after)
    (hstep : builder.step event = .ok next)
    (h : (ofBuilder builder).Sound (localNames openNames)) :
    (ofBuilder next).Sound (localNames after) := by
  have hmoves := Builder.moves_of_step hstep
  cases event with
  | start tag =>
      rw [hnests]
      exact h.ofBuilder_enter hsingle hstep
  | empty tag =>
      obtain ⟨middle, henter, hleave⟩ := bind_eq_ok_iff.mp hstep
      obtain ⟨hmiddle, -⟩ := Draft.ofBuilder_enter hsingle henter
      rw [hnests, leave_ofBuilder hmiddle hleave]
      exact (h.ofBuilder_enter hsingle henter).leave
  | close =>
      obtain ⟨name, rfl⟩ := hnests
      rw [leave_ofBuilder hsingle hstep]
      exact h.leave
  | ignored =>
      rw [hnests, ← Except.ok.inj hstep]
      exact h
  | text | comment | cdata =>
      rw [hnests]
      cases hmoves with
      | leaf hleaf => exact h.ofBuilder_add hsingle hleaf
      | stay => exact h

/-- However far a document is read, its events fill a sound draft. -/
theorem sound_of_reads {before after : Progress} {cs rest : List Char} {events : List Event}
    (hreads : Reads before cs events after rest) (hsingle : before.builder.IsSingle)
    (h : (ofBuilder before.builder).Sound (localNames before.openNames)) :
    events.foldlM Draft.step (ofBuilder before.builder) = .ok (ofBuilder after.builder)
      ∧ (ofBuilder after.builder).Sound (localNames after.openNames) := by
  induction hreads with
  | stop => exact ⟨rfl, h⟩
  | @step before middle after _ _ _ _ event events _ hevent hstep _ ih =>
      have hmiddle := hsingle.step hstep
      obtain ⟨hlater, hsound⟩ := ih hmiddle (h.step hsingle (Event.nests_of_ofLexeme hevent) hstep)
      refine ⟨foldlM_cons_eq_ok_iff.mpr ⟨_, ?_, hlater⟩, hsound⟩
      rw [step_ofBuilder hsingle, hstep]
      rfl

end Draft

/-! ## Closing tags -/

/-- While names are open for the reader, there are elements to close. -/
theorem Draft.Sound.openFrames_ne_nil {builder : Builder} {name : String} {names : List String}
    (h : (Draft.ofBuilder builder).Sound (name :: names)) : builder.openFrames ≠ [] := by
  intro hnil
  have hstack : (Draft.ofBuilder builder).stack = [] := by
    obtain ⟨frames, root⟩ := builder
    subst hnil
    cases root with
    | none => rfl
    | some root => rw [Draft.ofBuilder_complete]
  have hchain := h.chain
  rw [hstack] at hchain
  cases hchain

/-- Up to the event that a document is refused for, a sound draft is filled. -/
theorem Refusal.sound {document : List Char} (refusal : Refusal ⟨[], .start⟩ document) :
    (Draft.ofBuilder refusal.progress.builder).Sound
      (localNames refusal.progress.openNames) :=
  (Draft.sound_of_reads refusal.reads (fun hne => absurd rfl hne) Draft.sound_start).2

/-- Where no element is open, the reader has no name open. -/
theorem Refusal.openNames_eq_nil {document : List Char} (refusal : Refusal ⟨[], .start⟩ document)
    (hopen : refusal.progress.builder.openFrames = []) : refusal.progress.openNames = [] := by
  cases hnames : refusal.progress.openNames with
  | nil => rfl
  | cons name names =>
      have hsound := refusal.sound
      rw [hnames] at hsound
      exact absurd hopen hsound.openFrames_ne_nil

/-- The event that a document is refused for is no closing tag: the reader lets it
    pass only where it has a name open, so there is an element to close. -/
theorem Refusal.event_ne_close {document : List Char} (refusal : Refusal ⟨[], .start⟩ document) :
    refusal.event ≠ .close := by
  intro hclose
  have hnests := Event.nests_of_ofLexeme refusal.means
  have hrefused := refusal.refused
  rw [hclose] at hnests hrefused
  obtain ⟨name, hnames⟩ := hnests
  rw [refusal.openNames_eq_nil (Builder.leave_eq_error hrefused).1] at hnames
  exact absurd hnames (by simp)

/-- A closing tag that finds no element to close is never what is wrong with a
    document: the reader refuses it before. -/
theorem parseRoot_ne_unexpectedClose {document : List Char} {error : Error}
    (h : parseRoot document = .error error) : error.cause ≠ .unexpectedClose := by
  intro hcause
  rcases refused_of_parseRoot h with ⟨refusal, rfl⟩ | ⟨hother, -⟩
  · have hoffends := Builder.offends_of_step refusal.refused
    rw [show refusal.cause = .unexpectedClose from hcause] at hoffends
    have hevent := refusal.event_ne_close
    generalize refusal.event = event at hoffends hevent
    cases hoffends with
    | tag _ hfaulty => cases hfaulty
    | close => exact hevent rfl
  · rw [hcause] at hother
    exact absurd hother (by decide)

end IconCompiler.Markup
