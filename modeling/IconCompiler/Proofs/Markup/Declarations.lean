import IconCompiler.Proofs.Markup.Attributes
import IconCompiler.Proofs.Markup.Building

/-! # Namespace declarations in what is kept of a document

    The attribute keys of a tree that is read from a document are, event by
    event, the local names of the attributes of its tags (`hasKey_of_moves`).
    So what is kept of a document declares a namespace exactly if some attribute
    that is no declaration has a local name that makes it one: a key such as
    `a:xmlns` is not taken for a declaration and becomes one by losing its
    namespace (`keys_declare_iff`). -/

namespace IconCompiler.Markup

mutual

/-- The keys of the attributes that a node is written with, at any depth and in
    the order in which they are written. -/
def Node.keys : Node → List String
  | .element _ attributes children => attributes.keys ++ Node.allKeys children
  | .text _ | .comment _ | .cdata _ => []

/-- The keys of the attributes that nodes are written with. -/
def Node.allKeys : List Node → List String
  | [] => []
  | node :: rest => Node.keys node ++ Node.allKeys rest

end

theorem mem_allKeys {key : String} {nodes : List Node} :
    key ∈ Node.allKeys nodes ↔ ∃ node ∈ nodes, key ∈ node.keys := by
  induction nodes with
  | nil => simp [Node.allKeys]
  | cons node rest ih => simp [Node.allKeys, ih]

/-- The keys of an element that is being read, those of its children included. -/
def Frame.HasKey (frame : Frame) (key : String) : Prop :=
  key ∈ frame.attributes.keys ∨ ∃ node ∈ frame.children, key ∈ node.keys

/-- A complete element has the keys it had while it was read. -/
theorem Frame.mem_keys_toNode (frame : Frame) (key : String) :
    key ∈ frame.toNode.keys ↔ frame.HasKey key := by
  rw [Frame.toNode, Node.keys, List.mem_append, mem_allKeys, Frame.HasKey]
  simp

theorem Frame.hasKey_add (frame : Frame) (node : Node) (key : String) :
    (frame.add node).HasKey key ↔ key ∈ node.keys ∨ frame.HasKey key := by
  simp only [Frame.HasKey, Frame.add, List.mem_cons, exists_eq_or_imp]
  exact or_left_comm

theorem Frame.hasKey_of_ofTag {tag : Tag} {frame : Frame} (h : Frame.ofTag tag = .ok frame)
    (key : String) : frame.HasKey key ↔ key ∈ tag.localKeys := by
  obtain ⟨-, -, -, hchildren⟩ := Frame.ofTag_eq_ok_iff.mp h
  rw [Frame.HasKey, hchildren, Frame.keys_of_ofTag h]
  simp

theorem Event.Leaf.keys {event : Event} {node : Node} (h : Event.Leaf event node) :
    node.keys = [] := by
  cases h <;> rw [Node.keys]

theorem Event.Leaf.tag? {event : Event} {node : Node} (h : Event.Leaf event node) :
    event.tag? = none := by
  cases h <;> rfl

namespace Builder

/-- The keys of a document that is being read: those of its open elements and of
    its root. -/
def HasKey (builder : Builder) (key : String) : Prop :=
  (∃ frame ∈ builder.openFrames, frame.HasKey key)
    ∨ ∃ frame, builder.root = some frame ∧ frame.HasKey key

/-- There is no complete root while an element is open. -/
def IsSingle (builder : Builder) : Prop :=
  builder.openFrames ≠ [] → builder.root = none

theorem isSingle_push {builder : Builder} (hsingle : builder.IsSingle)
    (hroot : builder.openFrames = [] → builder.root = none) (frame : Frame) :
    (builder.push frame).IsSingle := by
  intro _
  by_cases hopen : builder.openFrames = []
  · exact hroot hopen
  · exact hsingle hopen

theorem hasKey_push (builder : Builder) (frame : Frame) (key : String) :
    (builder.push frame).HasKey key ↔ frame.HasKey key ∨ builder.HasKey key := by
  simp only [HasKey, push, List.mem_cons, exists_eq_or_imp, or_assoc]

/-- Leaving an element keeps all keys. -/
theorem hasKey_leave {builder next : Builder} (hsingle : builder.IsSingle)
    (h : builder.leave = .ok next) :
    next.IsSingle ∧ ∀ key, next.HasKey key ↔ builder.HasKey key := by
  rcases leave_eq_ok h with ⟨root, hframes, rfl⟩ | ⟨inner, outer, rest, hframes, rfl⟩
  -- the last open element becomes the root, which takes nobody's place
  · have hroot : builder.root = none := hsingle (by rw [hframes]; exact List.cons_ne_nil _ _)
    refine ⟨fun hne => absurd rfl hne, ?_⟩
    intro key
    simp [HasKey, hframes, hroot]
  · have hroot : builder.root = none := hsingle (by rw [hframes]; exact List.cons_ne_nil _ _)
    refine ⟨fun _ => hroot, ?_⟩
    intro key
    simp only [HasKey, hframes, hroot, List.mem_cons, exists_eq_or_imp, Frame.hasKey_add,
      Frame.mem_keys_toNode, or_assoc]

/-- An event adds the keys of its tag, if it has one, and no others. -/
theorem hasKey_of_moves {builder next : Builder} {event : Event} (hsingle : builder.IsSingle)
    (h : Moves builder event next) :
    next.IsSingle ∧ ∀ key, next.HasKey key
      ↔ builder.HasKey key ∨ ∃ tag, event.tag? = some tag ∧ key ∈ tag.localKeys := by
  cases h with
  | @enter _ tag frame hframe hroot =>
      refine ⟨isSingle_push hsingle hroot frame, ?_⟩
      intro key
      rw [hasKey_push, Frame.hasKey_of_ofTag hframe, or_comm]
      simp [Event.tag?]
  | @pass _ _ tag frame hframe hroot hleave =>
      obtain ⟨hnext, hkeys⟩ := hasKey_leave (isSingle_push hsingle hroot frame) hleave
      refine ⟨hnext, ?_⟩
      intro key
      rw [hkeys, hasKey_push, Frame.hasKey_of_ofTag hframe, or_comm]
      simp [Event.tag?]
  | leave hleave =>
      obtain ⟨hnext, hkeys⟩ := hasKey_leave hsingle hleave
      refine ⟨hnext, ?_⟩
      intro key
      rw [hkeys]
      simp [Event.tag?]
  | @leaf _ node inner rest root hleaf =>
      refine ⟨fun _ => hsingle (List.cons_ne_nil _ _), ?_⟩
      intro key
      simp [HasKey, Frame.hasKey_add, hleaf.keys, hleaf.tag?]
  | stay htag =>
      refine ⟨hsingle, ?_⟩
      intro key
      simp [htag]

/-- A builder is at the front of a document, inside its root or behind it. -/
theorem IsSingle.cases {builder : Builder} (hsingle : builder.IsSingle) :
    builder = ⟨[], none⟩ ∨ (∃ root, builder = ⟨[], some root⟩)
      ∨ ∃ inner outer, builder = ⟨inner :: outer, none⟩ := by
  obtain ⟨frames, top⟩ := builder
  cases frames with
  | nil =>
      cases top with
      | none => exact .inl rfl
      | some root => exact .inr (.inl ⟨root, rfl⟩)
  | cons inner outer =>
      obtain rfl : top = none := hsingle (List.cons_ne_nil _ _)
      exact .inr (.inr ⟨inner, outer, rfl⟩)

theorem IsSingle.step {builder next : Builder} {event : Event} (hsingle : builder.IsSingle)
    (h : builder.step event = .ok next) : next.IsSingle :=
  (hasKey_of_moves hsingle (moves_of_step h)).1

end Builder

/-- The keys of a document's root, its descendants included, are the keys of
    the document's tags. -/
theorem hasKey_of_parseRoot {document : String} {root : Frame}
    (h : parseRoot (withoutMarks document) = .ok root) (key : String) :
    root.HasKey key ↔ ∃ tag ∈ documentTags document, key ∈ tag.localKeys := by
  obtain ⟨-, hrun⟩ := parseRoot_eq_ok_iff.mp h
  -- keys are lost if a second root replaces the first, so `IsSingle` goes along
  have hall : (Builder.mk [] (some root)).IsSingle ∧ ∀ key, (Builder.mk [] (some root)).HasKey key
      ↔ ∃ tag ∈ documentTags document, key ∈ tag.localKeys := by
    refine Builder.foldlM_step_induction
      (P := fun builder events => builder.IsSingle ∧ ∀ key, builder.HasKey key
        ↔ ∃ tag ∈ events.filterMap Event.tag?, key ∈ tag.localKeys) ?_ ?_ hrun
    · refine ⟨fun hne => absurd rfl hne, ?_⟩
      intro key
      simp [Builder.HasKey, Builder.start]
    · rintro before after seen event ⟨hsingle, hkeys⟩ hmoves
      obtain ⟨hafter, hadded⟩ := Builder.hasKey_of_moves hsingle hmoves
      refine ⟨hafter, ?_⟩
      intro key
      rw [hadded, hkeys, List.filterMap_append]
      simp only [List.mem_append, List.mem_filterMap, List.mem_singleton]
      constructor
      · rintro (⟨tag, htag, hkey⟩ | ⟨tag, htag, hkey⟩)
        · exact ⟨tag, .inl htag, hkey⟩
        · exact ⟨tag, .inr ⟨event, rfl, htag⟩, hkey⟩
      · rintro ⟨tag, htag | ⟨last, rfl, htag⟩, hkey⟩
        · exact .inl ⟨tag, htag, hkey⟩
        · exact .inr ⟨tag, htag, hkey⟩
  have hkey := hall.2 key
  simpa [Builder.HasKey] using hkey

/-! ## What is kept -/

/-- Whether an attribute that is written with this key declares a namespace. -/
def declares (key : String) : Bool :=
  isNamespaceBinding key.toList

/-- The local keys of a tag declare nothing exactly if no attribute becomes a
    declaration by losing its namespace. -/
theorem localKeys_declare_iff (tag : Tag) :
    (∀ key ∈ tag.localKeys, declares key = false)
      ↔ ∀ raw ∈ tag.attributes.1, isNamespaceBinding raw.key = false →
          isNamespaceBinding (localName raw.key) = false := by
  constructor
  · intro h raw hraw hbinding
    have hkey : raw.localKey? = some (String.ofList (localName raw.key)) := by
      rw [RawAttribute.localKey?, hbinding, if_neg Bool.false_ne_true]
    have hlocal := h _ (List.mem_filterMap.mpr ⟨raw, hraw, hkey⟩)
    rwa [declares, String.toList_ofList] at hlocal
  · intro h key hkey
    obtain ⟨raw, hraw, heq⟩ := List.mem_filterMap.mp hkey
    rw [RawAttribute.localKey?] at heq
    split at heq
    · exact absurd heq (by simp)
    · next hbinding =>
        rw [← Option.some.inj heq, declares, String.toList_ofList]
        exact h raw hraw (by simpa using hbinding)

/-- What is kept of a document: the root loses the attribute `class`, and no key
    of the root or of a tag inside it declares a namespace exactly if no
    attribute of the document that is no declaration has the local name of one. -/
theorem keys_declare_iff (document : String) (content : Content)
    (h : readContent document = .ok content) :
    ∃ root, parseRoot (withoutMarks document) = .ok root
      ∧ content.inner = Node.renderAll root.children.reverse
      ∧ "class" ∉ content.attributes.keys
      ∧ ((∀ key ∈ content.attributes.keys ++ Node.allKeys root.children.reverse,
            declares key = false)
          ↔ ∀ tag ∈ documentTags document, ∀ raw ∈ tag.attributes.1,
              isNamespaceBinding raw.key = false →
                isNamespaceBinding (localName raw.key) = false) := by
  obtain ⟨root, hroot, rfl⟩ := readContent_eq_ok_iff.mp h
  have hkeys := hasKey_of_parseRoot hroot
  refine ⟨root, hroot, rfl, ?_, ?_⟩
  · intro hmem
    exact ((mem_keys_filterKeys _ _).mp hmem).2 rfl
  · have hkept : (∀ key ∈ (root.attributes.filterKeys (· != droppedAttribute)).keys
        ++ Node.allKeys root.children.reverse, declares key = false)
          ↔ ∀ key, root.HasKey key → declares key = false := by
      simp only [List.mem_append, mem_keys_filterKeys, mem_allKeys, List.mem_reverse]
      constructor
      · intro hall key hkey
        by_cases hclass : key = droppedAttribute
        -- the key that is dropped is no declaration anyway
        · subst hclass
          decide
        · rcases hkey with hown | hinside
          · exact hall key (.inl ⟨hown, hclass⟩)
          · exact hall key (.inr hinside)
      · rintro hall key (⟨hown, -⟩ | hinside)
        · exact hall key (.inl hown)
        · exact hall key (.inr hinside)
    rw [hkept]
    simp only [hkeys, ← localKeys_declare_iff]
    constructor
    · intro hall tag htag key hkey
      exact hall key ⟨tag, htag, hkey⟩
    · rintro hall key ⟨tag, htag, hkey⟩
      exact hall tag htag key hkey

/-- A document with declarations, prefixes and a class declares nothing in what
    is kept of it. -/
theorem keys_declare_iff_prefixed :
    ∃ content root,
      readContent "<s:svg xmlns:s=\"n\" class=\"c\"><s:g s:x=\"1\" xmlns=\"n\"/></s:svg>"
          = .ok content
        ∧ parseRoot (withoutMarks
            "<s:svg xmlns:s=\"n\" class=\"c\"><s:g s:x=\"1\" xmlns=\"n\"/></s:svg>") = .ok root
        ∧ content.inner = "<g x=\"1\" />"
        ∧ "class" ∉ content.attributes.keys
        ∧ ∀ key ∈ content.attributes.keys ++ Node.allKeys root.children.reverse,
            declares key = false := by
  have h : (readContent
      "<s:svg xmlns:s=\"n\" class=\"c\"><s:g s:x=\"1\" xmlns=\"n\"/></s:svg>").toOption
      = some ⟨.empty, "<g x=\"1\" />"⟩ := by decide +kernel
  have htags : ∀ tag ∈ documentTags
      "<s:svg xmlns:s=\"n\" class=\"c\"><s:g s:x=\"1\" xmlns=\"n\"/></s:svg>",
      ∀ raw ∈ tag.attributes.1, isNamespaceBinding raw.key = false →
        isNamespaceBinding (localName raw.key) = false := by decide +kernel
  have hcontent := eq_ok_of_toOption h
  obtain ⟨root, hroot, -, hclass, hdeclare⟩ := keys_declare_iff _ _ hcontent
  exact ⟨_, root, hcontent, hroot, rfl, hclass, hdeclare.mpr htags⟩

/-- A key that only looks prefixed declares a namespace once its prefix is lost,
    on the root and inside it. -/
theorem declaration_survives :
    ∃ content,
      readContent "<svg a:xmlns=\"u\"><g a:xmlns=\"v\" a:xmlns:b=\"w\"/></svg>" = .ok content
        ∧ "xmlns" ∈ content.attributes.keys
        ∧ content.inner = "<g xmlns=\"v\" xmlns:b=\"w\" />" := by
  have h : (readContent "<svg a:xmlns=\"u\"><g a:xmlns=\"v\" a:xmlns:b=\"w\"/></svg>").toOption
      = some ⟨.ofPairs [("xmlns", "u")], "<g xmlns=\"v\" xmlns:b=\"w\" />"⟩ := by decide +kernel
  exact ⟨_, eq_ok_of_toOption h, by decide, rfl⟩

end IconCompiler.Markup
