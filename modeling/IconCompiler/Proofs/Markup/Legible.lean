import IconCompiler.Proofs.Markup.Names
import IconCompiler.Proofs.Markup.Attributes
import IconCompiler.Proofs.Markup.Reading
import IconCompiler.Proofs.Markup.References

/-! # Trees that can be read back

    A node is legible if its names and its contents can be read back from where
    they are written: names have no colon and declare nothing, text has no
    bracket and its references denote something, comments and CDATA sections do
    not hold their own terminators.  The tree of a document with qualified names
    is legible (`legible_of_parseRoot`).

    An instruction between two texts leaves them side by side, and written they
    are a single text.  So a legible tree is written like one in which no texts
    are side by side (`exists_separate`), and that is the one to be read back. -/

namespace IconCompiler.Markup

open Text Reference

/-! ## Legible nodes -/

/-- A key that an element can have: a name without a colon that declares nothing. -/
def IsLegibleKey (key : String) : Prop :=
  isPlainName key.toList = true ∧ key ≠ "xmlns"

/-- A node that can be read back from its written form. -/
inductive Node.Legible : Node → Prop
  | element {name : String} {attributes : AttributeMap} {children : List Node} :
      isPlainName name.toList = true → (∀ key ∈ attributes.keys, IsLegibleKey key) →
      (∀ child ∈ children, child.Legible) → Node.Legible (.element name attributes children)
  | text {raw : String} : '<' ∉ raw.toList → (∃ value, Denotes raw.toList value) →
      raw.toList.all isBlank = false → Node.Legible (.text raw)
  | comment {body : String} : ¬ ['-', '-', '>'] <:+: body.toList → Node.Legible (.comment body)
  | cdata {body : String} : ¬ [']', ']', '>'] <:+: body.toList → Node.Legible (.cdata body)

/-- An element that is being read and can be read back as far as it goes. -/
structure Frame.Legible (frame : Frame) : Prop where
  name : isPlainName frame.name.toList = true
  keys : ∀ key ∈ frame.attributes.keys, IsLegibleKey key
  children : ∀ child ∈ frame.children, child.Legible

theorem Frame.Legible.toNode {frame : Frame} (h : frame.Legible) : frame.toNode.Legible :=
  .element h.name h.keys fun child hchild => h.children child (List.mem_reverse.mp hchild)

theorem Frame.Legible.add {frame : Frame} (h : frame.Legible) {node : Node} (hnode : node.Legible) :
    (frame.add node).Legible where
  name := h.name
  keys := h.keys
  children child hchild := by
    rcases List.mem_cons.mp hchild with rfl | hold
    · exact hnode
    · exact h.children child hold

/-- A document that is being read and can be read back as far as it goes. -/
structure Builder.Legible (builder : Builder) : Prop where
  openFrames : ∀ frame ∈ builder.openFrames, frame.Legible
  root : ∀ frame, builder.root = some frame → frame.Legible

/-! ## The trees of documents -/

/-- A tag whose element name and attribute names are qualified names. -/
def Tag.HasQualifiedNames (tag : Tag) : Prop :=
  isQualifiedName tag.name = true ∧ ∀ raw ∈ tag.attributes.1, isQualifiedName raw.key = true

instance (tag : Tag) : Decidable tag.HasQualifiedNames :=
  inferInstanceAs (Decidable (_ ∧ _))

/-- The restriction on an event that comes from how its lexeme is cut off. -/
def Event.IsWhole : Event → Prop
  | .text raw => '<' ∉ raw
  | .comment body => ¬ ['-', '-', '>'] <:+: body
  | .cdata body => ¬ [']', ']', '>'] <:+: body
  | _ => True

/-- A leaf that comes from an event of its own is legible. -/
theorem Event.Leaf.legible {event : Event} {node : Node} (h : Event.Leaf event node)
    (hwhole : event.IsWhole) : node.Legible := by
  cases h with
  | @text raw value hvalue hblank =>
      refine .text ?_ ⟨value, ?_⟩ ?_
      · rw [String.toList_ofList]
        exact hwhole
      · rw [String.toList_ofList]
        exact replace_eq_ok_iff.mp hvalue
      · rw [String.toList_ofList]
        exact hblank
  | comment body =>
      refine .comment ?_
      rw [String.toList_ofList]
      exact hwhole
  | cdata body =>
      refine .cdata ?_
      rw [String.toList_ofList]
      exact hwhole

/-- The event of a lexeme holds no more than the lexeme does. -/
theorem Event.isWhole_ofLexeme {openNames names : List (List Char)} {lexeme : Lexeme}
    {event : Event} (hwhole : lexeme.IsWhole)
    (h : Event.ofLexeme openNames lexeme = .ok (event, names)) : event.IsWhole := by
  cases Event.means_of_ofLexeme h with
  | text => exact hwhole
  | comment => exact hwhole
  | cdata _ body =>
      -- the keyword is cut off in front of the body, which holds no more than the section
      intro hoccurs
      exact hwhole (hoccurs.trans (List.suffix_append ['C', 'D', 'A', 'T', 'A', '['] body).isInfix)
  | start | empty | close | ignored => trivial

/-- A tag with qualified names, none of whose attributes becomes a declaration,
    opens a legible element. -/
theorem Frame.legible_of_ofTag {tag : Tag} {frame : Frame} (h : Frame.ofTag tag = .ok frame)
    (hnames : tag.HasQualifiedNames) (hlocal : "xmlns" ∉ tag.localKeys) : frame.Legible := by
  obtain ⟨-, -, hname, hchildren⟩ := Frame.ofTag_eq_ok_iff.mp h
  refine ⟨?_, ?_, ?_⟩
  · rw [hname, String.toList_ofList]
    exact isPlainName_localName hnames.1
  · rw [Frame.keys_of_ofTag h]
    intro key hkey
    refine ⟨?_, fun he => hlocal (he ▸ hkey)⟩
    obtain ⟨raw, hraw, hlocalkey⟩ := List.mem_filterMap.mp hkey
    rw [RawAttribute.localKey?] at hlocalkey
    split at hlocalkey
    · exact absurd hlocalkey (by simp)
    · rw [← Option.some.inj hlocalkey, String.toList_ofList]
      exact isPlainName_localName (hnames.2 raw hraw)
  · rw [hchildren]
    exact fun child hchild => absurd hchild List.not_mem_nil

namespace Builder

theorem Legible.push {builder : Builder} (h : builder.Legible) {frame : Frame}
    (hframe : frame.Legible) : (builder.push frame).Legible where
  openFrames other hother := by
    rcases List.mem_cons.mp hother with rfl | hold
    · exact hframe
    · exact h.openFrames other hold
  root := h.root

theorem Legible.leave {builder next : Builder} (h : builder.Legible)
    (hleave : builder.leave = .ok next) : next.Legible := by
  rcases leave_eq_ok hleave with ⟨root, hframes, rfl⟩ | ⟨inner, outer, rest, hframes, rfl⟩
  · refine ⟨fun frame hframe => absurd hframe List.not_mem_nil, ?_⟩
    intro frame hframe
    rw [← Option.some.inj hframe]
    exact h.openFrames root (hframes ▸ List.mem_cons_self)
  -- the element that is left becomes a child of the one around it
  · have hall := h.openFrames
    rw [hframes] at hall
    refine ⟨?_, h.root⟩
    intro frame hframe
    rcases List.mem_cons.mp hframe with rfl | hold
    · exact (hall outer (by simp)).add (hall inner List.mem_cons_self).toNode
    · exact hall frame (by simp [hold])

theorem Legible.moves {builder next : Builder} {event : Event} (h : builder.Legible)
    (hwhole : event.IsWhole)
    (htag : ∀ tag, event.tag? = some tag → tag.HasQualifiedNames ∧ "xmlns" ∉ tag.localKeys)
    (hmoves : Moves builder event next) : next.Legible := by
  cases hmoves with
  | @enter _ tag frame hframe _ =>
      obtain ⟨hnames, hlocal⟩ := htag tag rfl
      exact h.push (Frame.legible_of_ofTag hframe hnames hlocal)
  | @pass _ _ tag frame hframe _ hleave =>
      obtain ⟨hnames, hlocal⟩ := htag tag rfl
      exact (h.push (Frame.legible_of_ofTag hframe hnames hlocal)).leave hleave
  | leave hleave => exact h.leave hleave
  | @leaf _ node inner rest root hleaf =>
      refine ⟨?_, h.root⟩
      intro frame hframe
      rcases List.mem_cons.mp hframe with rfl | hold
      · exact (h.openFrames inner List.mem_cons_self).add (hleaf.legible hwhole)
      · exact h.openFrames frame (List.mem_cons_of_mem inner hold)
  | stay => exact h

end Builder

theorem Reads.legible {before after : Progress} {cs rest : List Char} {events : List Event}
    (h : Reads before cs events after rest) (hbefore : before.builder.Legible)
    (htags : ∀ tag ∈ events.filterMap Event.tag?,
      tag.HasQualifiedNames ∧ "xmlns" ∉ tag.localKeys) :
    after.builder.Legible := by
  induction h with
  | stop => exact hbefore
  | @step _ _ _ _ _ _ _ event events hlexeme hevent hstep _ ih =>
      have hwhole := Event.isWhole_ofLexeme (isWhole_of_firstLexeme? hlexeme) hevent
      refine ih (hbefore.moves hwhole ?_ (Builder.moves_of_step hstep)) ?_
      · intro tag htag
        exact htags tag (List.mem_filterMap.mpr ⟨event, List.mem_cons_self, htag⟩)
      · intro tag htag
        obtain ⟨other, hother, hsome⟩ := List.mem_filterMap.mp htag
        exact htags tag (List.mem_filterMap.mpr ⟨other, List.mem_cons_of_mem event hother, hsome⟩)

/-- The root of a document with qualified names is legible, unless one of its
    attributes becomes a declaration. -/
theorem legible_of_parseRoot {document : String} {root : Frame}
    (h : parseRoot (withoutMarks document) = .ok root)
    (hnames : ∀ tag ∈ documentTags document, tag.HasQualifiedNames)
    (hlocal : ∀ tag ∈ documentTags document, "xmlns" ∉ tag.localKeys) : root.Legible := by
  obtain ⟨names, hreads⟩ := parseRoot_eq_ok_iff_reads.mp h
  have hstart : Builder.start.Legible := by
    refine ⟨fun frame hframe => absurd hframe List.not_mem_nil, ?_⟩
    intro frame hframe
    exact absurd hframe (by simp [Builder.start])
  have hend := hreads.legible hstart fun tag htag => ⟨hnames tag htag, hlocal tag htag⟩
  exact hend.root root rfl

end IconCompiler.Markup
