import IconCompiler.Proofs.Markup.Legible

/-! # Texts side by side

    Where an instruction stood between two texts, a tree has them side by side,
    and its written form does not tell them apart.  Joining such texts changes
    nothing in what is written and leaves a tree legible (`exists_separate`). -/

namespace IconCompiler.Markup

open Text Reference

/-- Whether a node is text. -/
def Node.isText : Node → Bool
  | .text _ => true
  | _ => false

theorem Node.eq_text_of_isText {node : Node} (h : node.isText = true) :
    ∃ raw, node = .text raw := by
  cases node with
  | text raw => exact ⟨raw, rfl⟩
  | element => exact absurd h Bool.false_ne_true
  | comment => exact absurd h Bool.false_ne_true
  | cdata => exact absurd h Bool.false_ne_true

/-- Nodes no two of which are texts side by side. -/
def Apart : List Node → Prop
  | [] => True
  | node :: rest =>
    (node.isText = true → ∀ next, rest.head? = some next → next.isText = false) ∧ Apart rest

/-- A node in which no texts are side by side, at any depth. -/
inductive Node.Separate : Node → Prop
  | element {name : String} {attributes : AttributeMap} {children : List Node} :
      Apart children → (∀ child ∈ children, child.Separate) →
      Node.Separate (.element name attributes children)
  | text (raw : String) : Node.Separate (.text raw)
  | comment (body : String) : Node.Separate (.comment body)
  | cdata (body : String) : Node.Separate (.cdata body)

theorem Node.render_element_nil (name : String) (attributes : AttributeMap) :
    Node.render (.element name attributes [])
      = "<" ++ name ++ renderAttributes attributes ++ " />" := by
  rw [Node.render]

theorem Node.render_element {name : String} {attributes : AttributeMap} {children : List Node}
    (hne : children ≠ []) :
    Node.render (.element name attributes children)
      = "<" ++ name ++ renderAttributes attributes ++ ">" ++ Node.renderAll children
        ++ "</" ++ name ++ ">" := by
  cases children with
  | nil => exact absurd rfl hne
  | cons child children => rw [Node.render, Node.renderAll]

/-- Texts one behind the other are legible as one. -/
theorem legible_text_append {first second : String} (hfirst : Node.Legible (.text first))
    (hsecond : Node.Legible (.text second)) : Node.Legible (.text (first ++ second)) := by
  cases hfirst with
  | text hbracket hdenotes hblank =>
      cases hsecond with
      | text hbracket' hdenotes' _ =>
          obtain ⟨value, hvalue⟩ := hdenotes
          obtain ⟨more, hmore⟩ := hdenotes'
          refine .text ?_ ⟨value ++ more, ?_⟩ ?_
          · rw [String.toList_append, List.mem_append]
            rintro (hmem | hmem)
            · exact hbracket hmem
            · exact hbracket' hmem
          · rw [String.toList_append]
            exact hvalue.append hmore
          · rw [String.toList_append, List.all_append, hblank, Bool.false_and]

/-- Nodes are written like nodes no two of which are texts side by side. -/
theorem exists_separateAll (nodes : List Node)
    (h : ∀ node ∈ nodes, ∃ other : Node,
      other.render = node.render ∧ other.Legible ∧ other.Separate) :
    ∃ others, Node.renderAll others = Node.renderAll nodes ∧ Apart others
      ∧ (∀ other ∈ others, other.Legible ∧ other.Separate) ∧ (others = [] ↔ nodes = []) := by
  induction nodes with
  | nil => exact ⟨[], rfl, trivial, by simp, by simp⟩
  | cons node nodes ih =>
      obtain ⟨first, hrender, hlegible, hseparate⟩ := h node List.mem_cons_self
      obtain ⟨others, hrenderAll, hapart, hall, -⟩ :=
        ih fun other hother => h other (List.mem_cons_of_mem node hother)
      have hjoined : Node.renderAll (first :: others) = Node.renderAll (node :: nodes) := by
        rw [Node.renderAll, Node.renderAll, hrender, hrenderAll]
      by_cases hclash : first.isText = true
          ∧ ∃ next, others.head? = some next ∧ next.isText = true
      · -- the text in front is joined to the one that follows it
        obtain ⟨hfirst, next, hnext, hnexttext⟩ := hclash
        obtain ⟨front, rfl⟩ := Node.eq_text_of_isText hfirst
        obtain ⟨behind, rfl⟩ := Node.eq_text_of_isText hnexttext
        obtain ⟨more, rfl⟩ := List.head?_eq_some_iff.mp hnext
        refine ⟨.text (front ++ behind) :: more, ?_, hapart, ?_, by simp⟩
        · rw [← hjoined]
          simp only [Node.renderAll, Node.render, String.append_assoc]
        · intro other hother
          rcases List.mem_cons.mp hother with rfl | hmore
          · exact ⟨legible_text_append hlegible (hall _ List.mem_cons_self).1, .text _⟩
          · exact hall other (List.mem_cons_of_mem _ hmore)
      · refine ⟨first :: others, hjoined, ⟨?_, hapart⟩, ?_, by simp⟩
        · intro hfirst next hnext
          rw [← Bool.not_eq_true]
          exact fun hnexttext => hclash ⟨hfirst, next, hnext, hnexttext⟩
        · intro other hother
          rcases List.mem_cons.mp hother with rfl | hmore
          · exact ⟨hlegible, hseparate⟩
          · exact hall other hmore

/-- A legible node is written like one in which no texts are side by side. -/
theorem exists_separate {node : Node} (h : node.Legible) :
    ∃ other : Node, other.render = node.render ∧ other.Legible ∧ other.Separate := by
  induction h with
  | @element name attributes children hname hkeys _ ih =>
      -- joining texts empties no list, so the element is written in the same form
      obtain ⟨others, hrender, hapart, hall, hnil⟩ := exists_separateAll _ ih
      refine ⟨.element name attributes others, ?_,
        .element hname hkeys fun child hchild => (hall child hchild).1,
        .element hapart fun child hchild => (hall child hchild).2⟩
      by_cases hne : children = []
      · rw [hnil.mpr hne, hne]
      · rw [Node.render_element hne, Node.render_element (fun he => hne (hnil.mp he)), hrender]
  | text hbracket hdenotes hblank => exact ⟨_, rfl, .text hbracket hdenotes hblank, .text _⟩
  | comment hbody => exact ⟨_, rfl, .comment hbody, .comment _⟩
  | cdata hbody => exact ⟨_, rfl, .cdata hbody, .cdata _⟩

end IconCompiler.Markup
