import IconCompiler.Proofs.Markup.RoundTrip

/-! # Reading undoes writing

    Nodes that are legible and in which no texts are side by side are read back
    from what is written for them, as the children of the root around them
    (`parseRoot_forest`).  So two lists of such nodes are never written alike. -/

namespace IconCompiler.Markup

open Text Reference

/-- Nodes that are told apart in what is written for them: names are names
    without colons and keys declare nothing, texts are not blank and hold neither
    brackets nor broken references, comments and CDATA sections do not hold their
    own terminators, and no two texts are side by side, at any depth. -/
structure IsForest (nodes : List Node) : Prop where
  legible : ∀ node ∈ nodes, node.Legible
  separate : ∀ node ∈ nodes, node.Separate
  apart : Apart nodes

/-- The document with nodes inside a root without attributes. -/
def wrapped (nodes : List Node) : String :=
  "<svg>" ++ Node.renderAll nodes ++ "</svg>"

theorem parseRoot_wrapped {nodes : List Node} (h : IsForest nodes) :
    ∃ root, parseRoot (wrapped nodes).toList = .ok root ∧ root.name = "svg"
      ∧ root.attributes = .empty ∧ root.children.reverse = nodes := by
  have hnodes : ∀ node ∈ nodes, node.Legible ∧ node.Separate :=
    fun node hnode => ⟨h.legible node hnode, h.separate node hnode⟩
  have hplain : isPlainName ['s', 'v', 'g'] = true := by decide
  have hkeys : ∀ entry ∈ ([] : List (String × String)), isPlainName entry.1.toList = true := by
    simp
  obtain ⟨root, hroot, hname, hentries, hchildren⟩ :=
    parseRoot_around isEscape_markup hplain hkeys List.nodup_nil hnodes h.apart
  refine ⟨root, ?_, hname, OrderedMap.eq_of_entries hentries, hchildren⟩
  rw [← hroot, wrapped]
  simp [written]

/-- Such nodes are read back as they are from what is written for them, and no
    others are written alike. -/
theorem parseRoot_forest (nodes : List Node) (h : IsForest nodes) :
    (∃ root, parseRoot ("<svg>" ++ Node.renderAll nodes ++ "</svg>").toList = .ok root
        ∧ root.name = "svg" ∧ root.attributes = .empty ∧ root.children.reverse = nodes)
      ∧ ∀ others, IsForest others → Node.renderAll others = Node.renderAll nodes →
        others = nodes := by
  refine ⟨parseRoot_wrapped h, ?_⟩
  intro others hothers hsame
  obtain ⟨root, hroot, -, -, hchildren⟩ := parseRoot_wrapped h
  obtain ⟨root', hroot', -, -, hchildren'⟩ := parseRoot_wrapped hothers
  -- what is read is the same root, so its children are the same nodes
  rw [wrapped, hsame, ← wrapped, hroot] at hroot'
  rw [← hchildren, ← hchildren', Except.ok.inj hroot']

/-- Nodes with comments that begin like the end of one, a value full of quotes
    and brackets, and an element without children inside another. -/
def tangledForest : List Node :=
  [.comment ">", .element "g" (.ofPairs [("a", "\"'<>&\n")])
      [.text "]]> &#x41;'", .element "b" .empty [], .cdata "]]<!--", .comment "->-"], .text "\""]

theorem isForest_tangledForest : IsForest tangledForest := by
  have htext : ∀ raw value : String, '<' ∉ raw.toList → raw.toList.all isBlank = false →
      (replace raw.toList).toOption = some value.toList → Node.Legible (.text raw) :=
    fun raw value hbracket hblank hvalue =>
      .text hbracket ⟨_, replace_eq_ok_iff.mp (eq_ok_of_toOption hvalue)⟩ hblank
  have hinside : ∀ child ∈ [Node.text "]]> &#x41;'", .element "b" .empty [], .cdata "]]<!--",
      .comment "->-"], child.Legible := by
    intro child hchild
    simp only [List.mem_cons, List.not_mem_nil, or_false] at hchild
    rcases hchild with rfl | rfl | rfl | rfl
    · exact htext _ "]]> A'" (by decide) (by decide) (by decide +kernel)
    · exact .element (by decide) (by simp [OrderedMap.keys, OrderedMap.empty]) (by simp)
    · exact .cdata (by decide)
    · exact .comment (by decide)
  refine ⟨?_, ?_, ?_⟩
  · intro node hnode
    simp only [tangledForest, List.mem_cons, List.not_mem_nil, or_false] at hnode
    rcases hnode with rfl | rfl | rfl
    · exact .comment (by decide)
    · refine .element (by decide) ?_ hinside
      intro key hkey
      have hkeys : (OrderedMap.ofPairs [("a", "\"'<>&\n")] : AttributeMap).keys = ["a"] := by decide
      rw [hkeys] at hkey
      rw [List.mem_singleton.mp hkey]
      exact ⟨by decide, by decide⟩
    · exact htext _ "\"" (by decide) (by decide) (by decide +kernel)
  · intro node hnode
    simp only [tangledForest, List.mem_cons, List.not_mem_nil, or_false] at hnode
    rcases hnode with rfl | rfl | rfl
    · exact .comment _
    · refine .element (by simp [Apart, Node.isText]) ?_
      intro child hchild
      simp only [List.mem_cons, List.not_mem_nil, or_false] at hchild
      rcases hchild with rfl | rfl | rfl | rfl
      · exact .text _
      · exact .element trivial (by simp)
      · exact .cdata _
      · exact .comment _
    · exact .text _
  · simp [tangledForest, Apart, Node.isText]

theorem parseRoot_forest_tangled :
    IsForest tangledForest
      ∧ Node.renderAll tangledForest
        = "<!-->--><g a=\"&quot;'&lt;&gt;&amp;&#xA;\">]]> &#x41;'<b /><![CDATA[]]<!--]]><!--->---></g>\""
      ∧ ∃ root, parseRoot ("<svg>" ++ Node.renderAll tangledForest ++ "</svg>").toList = .ok root
        ∧ root.children.reverse = tangledForest := by
  obtain ⟨⟨root, hroot, -, -, hchildren⟩, -⟩ :=
    parseRoot_forest tangledForest isForest_tangledForest
  exact ⟨isForest_tangledForest, by decide +kernel, root, hroot, hchildren⟩

end IconCompiler.Markup
