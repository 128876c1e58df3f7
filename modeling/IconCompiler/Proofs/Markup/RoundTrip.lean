import IconCompiler.Proofs.Markup.Separate
import IconCompiler.Proofs.Markup.Tags

/-! # Reading icons back

    What is written for a legible node is read as that node, wherever it stands:
    a text in front of a bracket, anything else in front of anything
    (`readsBack`).  With the tag of the root around it, a standalone icon is read
    as the content it was rendered from (`readContent_render`). -/

namespace IconCompiler.Markup

open Text Reference

/-! ## Tags -/

section

variable {escape : Char → List Char} (hescape : IsEscape escape) {name : List Char}
  (hname : isPlainName name = true) {entries : List (String × String)}
  (hkeys : ∀ entry ∈ entries, isPlainName entry.1.toList = true)
  (hnodup : (entries.map Prod.fst).Nodup) (names : List (List Char)) (builder : Builder)
  (hroot : builder.openFrames = [] → builder.root = none) (rest : List Char)

theorem enter_of_ofTag {builder : Builder} {tag : Tag} {frame : Frame}
    (hframe : Frame.ofTag tag = .ok frame)
    (hroot : builder.openFrames = [] → builder.root = none) :
    builder.enter tag = .ok (builder.push frame) := by
  have hsingle : ¬ (builder.openFrames.isEmpty && builder.root.isSome) = true := by
    rw [Bool.and_eq_true, List.isEmpty_iff]
    rintro ⟨hopen, hsome⟩
    rw [hroot hopen] at hsome
    exact Bool.false_ne_true hsome
  rw [Builder.enter, hframe]
  exact if_neg hsingle

include hescape hname hkeys hnodup hroot in
theorem reads_open :
    ∃ frame : Frame, frame.name = String.ofList name
      ∧ frame.attributes.entries = keptEntries entries ∧ frame.children = []
      ∧ Reads ⟨names, builder⟩ ('<' :: (name ++ written escape entries ++ '>' :: rest))
        [.start ⟨name, written escape entries⟩] ⟨name :: names, builder.push frame⟩ rest := by
  obtain ⟨frame, hframe, hframename, hentries, hchildren⟩ :=
    ofTag_written hescape [] hname (by simp) hkeys hnodup
  rw [List.append_nil] at hframe
  refine ⟨frame, hframename, hentries, hchildren, ?_⟩
  exact .one (firstLexeme?_named hname (skips_written hescape hkeys) rest)
    (ofTag_start hname names) (enter_of_ofTag hframe hroot)

include hescape hname hkeys hnodup hroot in
theorem reads_pass :
    ∃ frame : Frame, frame.name = String.ofList name
      ∧ frame.attributes.entries = keptEntries entries ∧ frame.children = []
      ∧ ∀ next, (builder.push frame).leave = .ok next →
        Reads ⟨names, builder⟩
          ('<' :: (name ++ (written escape entries ++ [' ', '/']) ++ '>' :: rest))
          [.empty ⟨name, written escape entries ++ [' ']⟩] ⟨names, next⟩ rest := by
  obtain ⟨frame, hframe, hframename, hentries, hchildren⟩ :=
    ofTag_written hescape [' '] hname (by simp [isSpace]) hkeys hnodup
  refine ⟨frame, hframename, hentries, hchildren, ?_⟩
  intro next hnext
  have hslash : Skips [' ', '/'] := skips_plain (by simp)
  refine .one (firstLexeme?_named hname ((skips_written hescape hkeys).append hslash) rest)
    (ofTag_empty hname names) ?_
  exact bind_eq_ok_iff.mpr ⟨_, enter_of_ofTag hframe hroot, hnext⟩

include hname in
theorem reads_close {next : Builder} (hleave : builder.leave = .ok next) :
    Reads ⟨name :: names, builder⟩ ('<' :: '/' :: (name ++ '>' :: rest)) [.close]
      ⟨names, next⟩ rest := by
  have hslash : Skips ['/'] := skips_plain (by simp)
  exact .one (firstLexeme?_tag (by decide) (by decide) (hslash.append (skips_name hname)) rest)
    (ofTag_close hname names) hleave

end

/-! ## Written nodes -/

namespace Node

theorem toList_render_text (raw : String) : (render (.text raw)).toList = raw.toList := by
  rw [render]

theorem toList_render_comment (body : String) :
    (render (.comment body)).toList
      = ['<', '!', '-', '-'] ++ (body.toList ++ ['-', '-', '>']) := by
  rw [render]
  simp

theorem toList_render_cdata (body : String) :
    (render (.cdata body)).toList
      = ['<', '!', '[', 'C', 'D', 'A', 'T', 'A', '['] ++ (body.toList ++ [']', ']', '>']) := by
  rw [render]
  simp

theorem toList_render_element_nil (name : String) (attributes : AttributeMap) :
    (render (.element name attributes [])).toList
      = '<' :: (name.toList ++ (written escapeChar attributes.entries ++ [' ', '/']) ++ ['>']) := by
  have hattributes : (renderAttributes attributes).toList = written escapeChar attributes.entries :=
    toList_join_map toList_renderAttribute attributes.entries
  rw [render_element_nil]
  simp [hattributes]

theorem toList_render_element {name : String} {attributes : AttributeMap} {children : List Node}
    (hne : children ≠ []) :
    (render (.element name attributes children)).toList
      = '<' :: (name.toList ++ written escapeChar attributes.entries ++ '>' ::
        ((renderAll children).toList ++ '<' :: '/' :: (name.toList ++ ['>']))) := by
  have hattributes : (renderAttributes attributes).toList = written escapeChar attributes.entries :=
    toList_join_map toList_renderAttribute attributes.entries
  rw [render_element hne]
  simp [hattributes]

/-- What is not text begins with a bracket. -/
theorem exists_render_eq_cons {node : Node} (h : node.isText = false) :
    ∃ behind, node.render.toList = '<' :: behind := by
  cases node with
  | text => exact absurd h.symm Bool.false_ne_true
  | comment body => exact ⟨_, toList_render_comment body⟩
  | cdata body => exact ⟨_, toList_render_cdata body⟩
  | element name attributes children =>
      by_cases hne : children = []
      · rw [hne]
        exact ⟨_, toList_render_element_nil name attributes⟩
      · exact ⟨_, toList_render_element hne⟩

end Node

/-! ## Nodes read back -/

/-- A node that is read back wherever it stands, if it is a text in front of a
    bracket. -/
def Node.ReadsBack (node : Node) : Prop :=
  ∀ (names : List (List Char)) (inner : Frame) (frames : List Frame) (root : Option Frame)
    (rest : List Char), (node.isText = true → ∃ behind, rest = '<' :: behind) →
    ∃ events, Reads ⟨names, ⟨inner :: frames, root⟩⟩ (node.render.toList ++ rest) events
      ⟨names, ⟨inner.add node :: frames, root⟩⟩ rest

/-- Nodes that are read back one by one are read back together, in front of a
    bracket and if no two of them are texts side by side. -/
theorem readsBack_all {nodes : List Node} (h : ∀ node ∈ nodes, node.ReadsBack)
    (hapart : Apart nodes) (names : List (List Char)) (inner : Frame) (frames : List Frame)
    (root : Option Frame) (behind : List Char) :
    ∃ events, Reads ⟨names, ⟨inner :: frames, root⟩⟩
      ((Node.renderAll nodes).toList ++ '<' :: behind) events
      ⟨names, ⟨inner.addAll nodes :: frames, root⟩⟩ ('<' :: behind) := by
  induction nodes generalizing inner with
  | nil => exact ⟨[], .stop _ _⟩
  | cons node nodes ih =>
      obtain ⟨hnext, hrest⟩ := hapart
      -- what follows a text is a node of another kind or the bracket behind all of them
      have hbracket : node.isText = true →
          ∃ more, (Node.renderAll nodes).toList ++ '<' :: behind = '<' :: more := by
        intro htext
        cases nodes with
        | nil => exact ⟨behind, rfl⟩
        | cons next nodes =>
            obtain ⟨more, hmore⟩ := Node.exists_render_eq_cons (hnext htext next rfl)
            refine ⟨more ++ ((Node.renderAll nodes).toList ++ '<' :: behind), ?_⟩
            rw [Node.renderAll, String.toList_append, hmore, List.append_assoc, List.cons_append]
      obtain ⟨events, hnode⟩ := h node List.mem_cons_self names inner frames root _ hbracket
      obtain ⟨more, hnodes⟩ := ih (fun other hother => h other (List.mem_cons_of_mem node hother))
        hrest (inner.add node)
      refine ⟨events ++ more, ?_⟩
      rw [Node.renderAll, String.toList_append, List.append_assoc, Frame.addAll_cons]
      exact hnode.trans hnodes

theorem readsBack_text {raw : String} (h : Node.Legible (.text raw)) :
    Node.ReadsBack (.text raw) := by
  cases h with
  | text hbracket hdenotes hblank =>
      intro names inner frames root rest hrest
      obtain ⟨behind, rfl⟩ := hrest rfl
      obtain ⟨value, hvalue⟩ := hdenotes
      have hne : raw.toList ≠ [] := by
        intro hnil
        rw [hnil] at hblank
        exact Bool.false_ne_true hblank.symm
      refine ⟨[.text raw.toList], ?_⟩
      rw [Node.toList_render_text]
      refine .one (firstLexeme?_text hne hbracket behind) rfl ?_
      rw [Builder.step, replace_eq_ok_iff.mpr hvalue, hblank]
      dsimp only
      rw [String.ofList_toList]
      rfl

theorem readsBack_comment {body : String} (h : Node.Legible (.comment body)) :
    Node.ReadsBack (.comment body) := by
  cases h with
  | comment hbody =>
      intro names inner frames root rest _
      refine ⟨[.comment body.toList], ?_⟩
      rw [Node.toList_render_comment, List.append_assoc, List.append_assoc]
      refine .one (firstLexeme?_comment hbody rest) rfl ?_
      rw [Builder.step, String.ofList_toList]
      rfl

theorem readsBack_cdata {body : String} (h : Node.Legible (.cdata body)) :
    Node.ReadsBack (.cdata body) := by
  cases h with
  | cdata hbody =>
      intro names inner frames root rest _
      refine ⟨[.cdata body.toList], ?_⟩
      rw [Node.toList_render_cdata, List.append_assoc, List.append_assoc]
      refine .one (firstLexeme?_cdata hbody rest) rfl ?_
      rw [Builder.step, String.ofList_toList]
      rfl

section

variable {attributes : AttributeMap} (hkeys : ∀ key ∈ attributes.keys, IsLegibleKey key)

include hkeys in
theorem isPlainName_of_mem_entries :
    ∀ entry ∈ attributes.entries, isPlainName entry.1.toList = true := by
  intro entry hentry
  exact (hkeys entry.1 (List.mem_map.mpr ⟨entry, hentry, rfl⟩)).1

include hkeys in
theorem keptEntries_of_legible : keptEntries attributes.entries = attributes.entries := by
  rw [keptEntries, List.filter_eq_self]
  intro entry hentry
  rw [bne_iff_ne]
  exact (hkeys entry.1 (List.mem_map.mpr ⟨entry, hentry, rfl⟩)).2

/-- An element that is complete is the one its tag and its children make. -/
theorem Frame.toNode_addAll {frame : Frame} {name : String} (children : List Node)
    (hname : frame.name = name) (hentries : frame.attributes.entries = attributes.entries)
    (hchildren : frame.children = []) :
    (frame.addAll children).toNode = .element name attributes children := by
  rw [Frame.toNode, Frame.addAll, hchildren, hname, OrderedMap.eq_of_entries hentries]
  simp

include hkeys in
theorem readsBack_element_nil {name : String} (hname : isPlainName name.toList = true) :
    Node.ReadsBack (.element name attributes []) := by
  intro names inner frames root rest _
  obtain ⟨frame, hframename, hentries, hchildren, hreads⟩ := reads_pass isEscape_markup hname
    (isPlainName_of_mem_entries hkeys) attributes.keys_nodup names
    ⟨inner :: frames, root⟩ (fun hopen => absurd hopen (List.cons_ne_nil _ _)) rest
  rw [keptEntries_of_legible hkeys] at hentries
  rw [String.ofList_toList] at hframename
  have hnode : frame.toNode = .element name attributes [] :=
    Frame.toNode_addAll [] hframename hentries hchildren
  rw [Node.toList_render_element_nil, ← hnode, List.cons_append, List.append_assoc]
  exact ⟨_, hreads _ rfl⟩

include hkeys in
theorem readsBack_element {name : String} {children : List Node}
    (hname : isPlainName name.toList = true) (hchildren : ∀ child ∈ children, child.ReadsBack)
    (hapart : Apart children) : Node.ReadsBack (.element name attributes children) := by
  by_cases hne : children = []
  · subst hne
    exact readsBack_element_nil hkeys hname
  · intro names inner frames root rest _
    obtain ⟨frame, hframename, hentries, hempty, hopen⟩ := reads_open isEscape_markup hname
      (isPlainName_of_mem_entries hkeys) attributes.keys_nodup names
      ⟨inner :: frames, root⟩ (fun hopen => absurd hopen (List.cons_ne_nil _ _))
      ((Node.renderAll children).toList ++ '<' :: '/' :: (name.toList ++ '>' :: rest))
    rw [keptEntries_of_legible hkeys] at hentries
    rw [String.ofList_toList] at hframename
    obtain ⟨events, hinside⟩ := readsBack_all hchildren hapart (name.toList :: names) frame
      (inner :: frames) root ('/' :: (name.toList ++ '>' :: rest))
    have hclose := reads_close hname names
      ⟨frame.addAll children :: inner :: frames, root⟩ rest rfl
    -- the opening tag, the children and the closing tag are read in turn
    have hform : (Node.render (.element name attributes children)).toList ++ rest
        = '<' :: (name.toList ++ written escapeChar attributes.entries ++ '>' ::
          ((Node.renderAll children).toList ++ '<' :: '/' :: (name.toList ++ '>' :: rest))) := by
      rw [Node.toList_render_element hne]
      simp
    rw [hform, ← Frame.toNode_addAll _ hframename hentries hempty]
    exact ⟨_, (hopen.trans hinside).trans hclose⟩

end

/-- A legible node in which no texts are side by side is read back. -/
theorem readsBack {node : Node} (h : node.Legible) (hseparate : node.Separate) :
    node.ReadsBack := by
  induction h with
  | @element name attributes children hname hkeys _ ih =>
      cases hseparate with
      | element hapart hall =>
          refine readsBack_element hkeys hname ?_ hapart
          intro child hchild
          exact ih child hchild (hall child hchild)
  | text hbracket hdenotes hblank => exact readsBack_text (.text hbracket hdenotes hblank)
  | comment hbody => exact readsBack_comment (.comment hbody)
  | cdata hbody => exact readsBack_cdata (.cdata hbody)

/-! ## Nodes inside a root -/

/-- Nodes in an element that is a whole document are read back as its children. -/
theorem parseRoot_around {escape : Char → List Char} (hescape : IsEscape escape)
    {name : List Char} (hname : isPlainName name = true) {entries : List (String × String)}
    (hkeys : ∀ entry ∈ entries, isPlainName entry.1.toList = true)
    (hnodup : (entries.map Prod.fst).Nodup) {nodes : List Node}
    (hnodes : ∀ node ∈ nodes, node.Legible ∧ node.Separate) (hapart : Apart nodes) :
    ∃ root, parseRoot ('<' :: (name ++ written escape entries ++ '>' ::
        ((Node.renderAll nodes).toList ++ '<' :: '/' :: (name ++ ['>'])))) = .ok root
      ∧ root.name = String.ofList name ∧ root.attributes.entries = keptEntries entries
      ∧ root.children.reverse = nodes := by
  obtain ⟨frame, hframename, hentries, hempty, hopen⟩ := reads_open hescape hname hkeys hnodup []
    .start (fun _ => rfl) ((Node.renderAll nodes).toList ++ '<' :: '/' :: (name ++ ['>']))
  obtain ⟨events, hinside⟩ := readsBack_all
    (fun node hnode => readsBack (hnodes node hnode).1 (hnodes node hnode).2) hapart
    [name] frame [] none ('/' :: (name ++ ['>']))
  have hclose := reads_close hname [] ⟨[frame.addAll nodes], none⟩ [] rfl
  refine ⟨frame.addAll nodes, parseRoot_of_reads ((hopen.trans hinside).trans hclose),
    hframename, hentries, ?_⟩
  simp [Frame.addAll, hempty]

/-! ## Standalone icons -/

/-- The namespace that a standalone icon declares. -/
def svgNamespace : String × String :=
  ("xmlns", "http://www.w3.org/2000/svg")

/-- A standalone icon is written like an element that declares the namespace of
    icons in front of its attributes. -/
theorem toList_renderWith_icon (icon : SvgIcon) (overrides : List (String × String)) :
    (icon.renderWith overrides).toList
      = '<' :: (['s', 'v', 'g']
          ++ written SvgIcon.escapeChar (svgNamespace :: icon.effectiveAttributes overrides)
        ++ '>' :: (icon.inner.toList ++ '<' :: '/' :: (['s', 'v', 'g'] ++ ['>']))) := by
  have hfront : "<svg xmlns=\"http://www.w3.org/2000/svg\"".toList
      = '<' :: (['s', 'v', 'g'] ++ writtenPair SvgIcon.escapeChar svgNamespace) := by
    decide +kernel
  have hjoin := toList_join_map toList_renderAttribute_icon (icon.effectiveAttributes overrides)
  unfold SvgIcon.renderWith
  simp only [String.toList_append]
  rw [hfront, hjoin]
  simp [written]

theorem toList_render_icon (icon : SvgIcon) :
    icon.render.toList
      = '<' :: (['s', 'v', 'g'] ++ written SvgIcon.escapeChar (svgNamespace :: icon.attributes)
        ++ '>' :: (icon.inner.toList ++ '<' :: '/' :: (['s', 'v', 'g'] ++ ['>']))) := by
  have hattributes : icon.effectiveAttributes [] = icon.attributes := by
    simp [SvgIcon.effectiveAttributes]
  rw [SvgIcon.render, toList_renderWith_icon, hattributes]

/-- A standalone icon is read as its attributes and the nodes it is written with. -/
theorem parseRoot_render_icon (name : String) {attributes : AttributeMap} {nodes : List Node}
    (hkeys : ∀ key ∈ attributes.keys, IsLegibleKey key)
    (hnodes : ∀ node ∈ nodes, node.Legible ∧ node.Separate) (hapart : Apart nodes) :
    ∃ root, parseRoot
        (SvgIcon.render ⟨name, attributes.entries, Node.renderAll nodes⟩).toList = .ok root
      ∧ root.attributes = attributes ∧ root.children.reverse = nodes := by
  have hsvg : isPlainName ['s', 'v', 'g'] = true := by decide
  have hplain : ∀ entry ∈ svgNamespace :: attributes.entries,
      isPlainName entry.1.toList = true := by
    intro entry hentry
    rcases List.mem_cons.mp hentry with rfl | hown
    · decide
    · exact isPlainName_of_mem_entries hkeys entry hown
  have hnodup : ((svgNamespace :: attributes.entries).map Prod.fst).Nodup := by
    rw [List.map_cons, List.nodup_cons]
    exact ⟨fun hmem => (hkeys _ hmem).2 rfl, attributes.keys_nodup⟩
  -- the namespace that rendering adds is lost again
  have hkept : keptEntries (svgNamespace :: attributes.entries) = attributes.entries := by
    rw [keptEntries, List.filter_cons_of_neg (by decide), ← keptEntries,
      keptEntries_of_legible hkeys]
  obtain ⟨root, hroot, -, hentries, hchildren⟩ :=
    parseRoot_around isEscape_icon hsvg hplain hnodup hnodes hapart
  refine ⟨root, ?_, OrderedMap.eq_of_entries (hentries.trans hkept), hchildren⟩
  rw [toList_render_icon]
  exact hroot

/-- An icon rendered from what is kept of a document is read as what it was
    rendered from, if the names of the document are qualified names and none of
    its attributes becomes a declaration by losing its namespace. -/
theorem readContent_render (document : String) (content : Content)
    (h : readContent document = .ok content)
    (hnames : ∀ tag ∈ documentTags document, tag.HasQualifiedNames)
    (hlocal : ∀ tag ∈ documentTags document, "xmlns" ∉ tag.localKeys) (name : String) :
    readContent (SvgIcon.render ⟨name, content.attributes.entries, content.inner⟩)
      = .ok content := by
  obtain ⟨root, hroot, rfl⟩ := readContent_eq_ok_iff.mp h
  have hlegible := legible_of_parseRoot hroot hnames hlocal
  have hkeys : ∀ key ∈ (root.attributes.filterKeys (· != droppedAttribute)).keys,
      IsLegibleKey key := by
    intro key hkey
    exact hlegible.keys key ((mem_keys_filterKeys _ _).mp hkey).1
  -- what is read is not the tree itself but one with neighbouring texts joined
  obtain ⟨nodes, hrender, hapart, hnodes, -⟩ := exists_separateAll root.children.reverse
    fun child hchild => exists_separate (hlegible.children child (List.mem_reverse.mp hchild))
  obtain ⟨again, hagain, hattributes, hchildren⟩ := parseRoot_render_icon name hkeys hnodes hapart
  rw [hrender] at hagain
  rw [readContent_eq_ok_iff]
  refine ⟨again, ?_, ?_⟩
  -- a rendered icon begins with its tag, so no byte order mark is dropped
  · have hmarks : ∀ icon : SvgIcon, withoutMarks icon.render = icon.render.toList := by
      intro icon
      rw [withoutMarks, toList_render_icon]
      exact List.dropWhile_cons_of_neg (by decide)
    rw [hmarks]
    exact hagain
  · -- the attribute that is never kept is already gone
    have htwice : again.attributes.filterKeys (· != droppedAttribute)
        = root.attributes.filterKeys (· != droppedAttribute) := by
      rw [hattributes]
      refine OrderedMap.eq_of_entries ?_
      simp [OrderedMap.filterKeys, List.filter_filter]
    rw [htwice, hchildren, hrender]

/-- A document whose instruction leaves two texts side by side, with prefixes,
    references, a comment and a CDATA section. -/
def mixedDocument : String :=
  "<s:svg xmlns:s=\"n\" class=\"c\" s:id='&#65;\"'><s:g></s:g>a&amp;<?p?>b"
    ++ "<!--x--y--><![CDATA[<]]> <t q:k=\"\n\">]]&gt;</t></s:svg>"

/-- What is kept of such a document is read back from its icon. -/
theorem readContent_render_mixed :
    ∃ content, readContent mixedDocument = .ok content
      ∧ content.attributes.entries = [("id", "A\"")]
      ∧ content.inner = "<g />a&amp;b<!--x--y--><![CDATA[<]]><t k=\"&#xA;\">]]&gt;</t>"
      ∧ readContent (SvgIcon.render ⟨"mixed", content.attributes.entries, content.inner⟩)
        = .ok content := by
  have h : (readContent mixedDocument).toOption
      = some ⟨.ofPairs [("id", "A\"")],
        "<g />a&amp;b<!--x--y--><![CDATA[<]]><t k=\"&#xA;\">]]&gt;</t>"⟩ := by decide +kernel
  have htags : ∀ tag ∈ documentTags mixedDocument,
      tag.HasQualifiedNames ∧ "xmlns" ∉ tag.localKeys := by decide +kernel
  have hcontent := eq_ok_of_toOption h
  refine ⟨_, hcontent, rfl, rfl, ?_⟩
  exact readContent_render _ _ hcontent (fun tag htag => (htags tag htag).1)
    (fun tag htag => (htags tag htag).2) "mixed"

end IconCompiler.Markup
