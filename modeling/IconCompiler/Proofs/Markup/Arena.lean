import IconCompiler.Markup.Arena
import Mathlib.Logic.ExistsUnique

/-! # Trees in arenas

    A node and its descendants fill consecutive cells of an arena, in document
    order (`Node.cells`), and what the arena writes for them is their written form
    (`writeWithin_of_holds`).  Where children stand behind their parents, writing
    comes to an end at every place (`IsTree.exists_writeWithin`). -/

namespace IconCompiler.Markup

/-! ## The cells of a node -/

mutual

/-- How many nodes there are in a node, itself included. -/
def Node.size : Node → Nat
  | .element _ _ children => Node.sizeAll children + 1
  | .text _ | .comment _ | .cdata _ => 1

/-- How many nodes there are in nodes. -/
def Node.sizeAll : List Node → Nat
  | [] => 0
  | node :: rest => Node.size node + Node.sizeAll rest

end

/-- The places of nodes that fill an arena from a place on. -/
def Node.places (place : Nat) : List Node → List Nat
  | [] => []
  | node :: rest => place :: places (place + node.size) rest

mutual

/-- The cells of a node at a place, those of its descendants behind its own. -/
def Node.cells (place : Nat) : Node → List Cell
  | .element name attributes children =>
    .element name attributes.entries (Node.places (place + 1) children)
      :: Node.allCells (place + 1) children
  | .text raw => [.text raw]
  | .comment body => [.comment body]
  | .cdata body => [.cdata body]

/-- The cells of nodes, one after the other from a place on. -/
def Node.allCells (place : Nat) : List Node → List Cell
  | [] => []
  | node :: rest => Node.cells place node ++ Node.allCells (place + node.size) rest

end

mutual

theorem Node.length_cells (place : Nat) : ∀ node : Node, (node.cells place).length = node.size
  | .element name attributes children => by
      rw [Node.cells, Node.size, List.length_cons, Node.length_allCells]
  | .text _ | .comment _ | .cdata _ => rfl

theorem Node.length_allCells (place : Nat) :
    ∀ nodes : List Node, (Node.allCells place nodes).length = Node.sizeAll nodes
  | [] => rfl
  | node :: rest => by
      rw [Node.allCells, Node.sizeAll, List.length_append, Node.length_cells,
        Node.length_allCells]

end

/-! ## What is written for them -/

theorem Node.join_map_render (nodes : List Node) :
    String.join (nodes.map Node.render) = Node.renderAll nodes := by
  induction nodes with
  | nil => rfl
  | cons node rest ih => rw [List.map_cons, String.join_cons, ih, Node.renderAll]

/-- Cells stand in an arena one behind the other, from a place on. -/
def Arena.Holds (arena : Arena) (place : Nat) : List Cell → Prop
  | [] => True
  | cell :: rest => arena.cells[place]? = some cell ∧ arena.Holds (place + 1) rest

theorem Arena.holds_append {arena : Arena} {place : Nat} {cells more : List Cell} :
    arena.Holds place (cells ++ more)
      ↔ arena.Holds place cells ∧ arena.Holds (place + cells.length) more := by
  induction cells generalizing place with
  | nil => simp [Arena.Holds]
  | cons cell rest ih =>
      rw [List.cons_append, Arena.Holds, Arena.Holds, ih, and_assoc, List.length_cons,
        Nat.add_assoc place, Nat.add_comm 1]

theorem Arena.holds_behind (front cells : List Cell) :
    (Arena.mk (front ++ cells)).Holds front.length cells := by
  induction cells generalizing front with
  | nil => exact trivial
  | cons cell rest ih =>
      refine ⟨by simp, ?_⟩
      have hrest := ih (front ++ [cell])
      rwa [List.append_assoc, List.length_append] at hrest

/-- How an element is written once its children are. -/
theorem Arena.writeWithin_element {arena : Arena} {depth place : Nat} {name : String}
    {attributes : List (String × String)} {children : List Nat} {parts : List String}
    (hcell : arena.cells[place]? = some (.element name attributes children))
    (hparts : children.mapM (arena.writeWithin depth) = some parts) :
    arena.writeWithin (depth + 1) place = some (if children.isEmpty
      then "<" ++ name ++ String.join (attributes.map renderAttribute) ++ " />"
      else "<" ++ name ++ String.join (attributes.map renderAttribute) ++ ">" ++ String.join parts
        ++ "</" ++ name ++ ">") := by
  rw [Arena.writeWithin, hcell]
  cases children with
  | nil => rfl
  | cons child rest =>
      dsimp only
      rw [hparts]
      rfl

theorem Node.one_le_size (node : Node) : 1 ≤ node.size := by
  cases node with
  | element => exact Nat.succ_le_succ (Nat.zero_le _)
  | text | comment | cdata => exact Nat.le_refl 1

mutual

/-- What an arena writes at a place is the written form of the node whose cells
    stand there; it takes no more depth than there are nodes. -/
theorem Arena.writeWithin_of_holds {arena : Arena} {depth place : Nat} :
    ∀ node : Node, arena.Holds place (node.cells place) → node.size ≤ depth →
      arena.writeWithin depth place = some node.render
  | .element name attributes children, hcells, hdepth => by
      obtain ⟨inner, rfl⟩ := Nat.exists_eq_add_of_le' (Nat.le_trans (Node.one_le_size _) hdepth)
      have hinner : Node.sizeAll children ≤ inner := Nat.le_of_succ_le_succ hdepth
      rw [Arena.writeWithin_element hcells.1
        (Arena.mapM_writeWithin_of_holds children hcells.2 hinner), Node.join_map_render]
      cases children with
      | nil =>
          rw [Node.render]
          rfl
      | cons child rest =>
          rw [Node.render, ← Node.renderAll]
          rfl
  | .text raw, hcells, hdepth => by
      obtain ⟨inner, rfl⟩ := Nat.exists_eq_add_of_le' (Nat.le_trans (Node.one_le_size _) hdepth)
      rw [Arena.writeWithin, hcells.1, Node.render]
  | .comment body, hcells, hdepth => by
      obtain ⟨inner, rfl⟩ := Nat.exists_eq_add_of_le' (Nat.le_trans (Node.one_le_size _) hdepth)
      rw [Arena.writeWithin, hcells.1, Node.render]
  | .cdata body, hcells, hdepth => by
      obtain ⟨inner, rfl⟩ := Nat.exists_eq_add_of_le' (Nat.le_trans (Node.one_le_size _) hdepth)
      rw [Arena.writeWithin, hcells.1, Node.render]

theorem Arena.mapM_writeWithin_of_holds {arena : Arena} {depth place : Nat} :
    ∀ nodes : List Node, arena.Holds place (Node.allCells place nodes) →
      Node.sizeAll nodes ≤ depth →
        (Node.places place nodes).mapM (arena.writeWithin depth) = some (nodes.map Node.render)
  | [], _, _ => rfl
  | node :: rest, hcells, hdepth => by
      rw [Node.allCells, Arena.holds_append, Node.length_cells] at hcells
      rw [Node.sizeAll] at hdepth
      rw [Node.places, List.mapM_cons,
        Arena.writeWithin_of_holds node hcells.1 (Nat.le_trans (Nat.le_add_right _ _) hdepth),
        Arena.mapM_writeWithin_of_holds rest hcells.2 (Nat.le_trans (Nat.le_add_left _ _) hdepth)]
      rfl

end

theorem Arena.inner_of_holds {arena : Arena} {place : Nat} {name : String}
    {attributes : AttributeMap} {children : List Node}
    (h : arena.Holds place ((Node.element name attributes children).cells place))
    (hsize : Node.sizeAll children ≤ arena.cells.length) :
    arena.inner place = some (Node.renderAll children) := by
  have hparts : (Node.places (place + 1) children).mapM arena.write
      = some (children.map Node.render) :=
    Arena.mapM_writeWithin_of_holds children h.2 hsize
  rw [Arena.inner, Arena.children, h.1, Option.elim_some, Cell.children, hparts,
    ← Node.join_map_render]
  rfl

/-! ## Trees -/

/-- There is an element of this name at a place. -/
def Arena.HasElement (arena : Arena) (place : Nat) (name : String) : Prop :=
  ∃ attributes children, arena.cells[place]? = some (.element name attributes children)

/-- The nodes of an arena form a tree with its root in front: every other node is
    a child of exactly one node, an element that stands before it, and children
    stand in order; keys are distinct. -/
structure Arena.IsTree (arena : Arena) : Prop where
  parent : ∀ place, 0 < place → place < arena.cells.length →
    ∃! parent, place ∈ arena.children parent
  element : ∀ place, arena.children place ≠ [] → ∃ name, arena.HasElement place name
  behind : ∀ place, ∀ child ∈ arena.children place, place < child ∧ child < arena.cells.length
  increasing : ∀ place, (arena.children place).Pairwise (· < ·)
  distinct : ∀ cell ∈ arena.cells, (cell.attributes.map Prod.fst).Nodup

theorem exists_mapM_of_forall {α β : Type} {f : Nat → α → Option β} {enough : Nat}
    {values : List α}
    (h : ∀ value ∈ values, ∃ found, ∀ depth, enough ≤ depth → f depth value = some found) :
    ∃ found, ∀ depth, enough ≤ depth → values.mapM (f depth) = some found := by
  induction values with
  | nil => exact ⟨[], fun _ _ => rfl⟩
  | cons value rest ih =>
      obtain ⟨first, hfirst⟩ := h value List.mem_cons_self
      obtain ⟨more, hmore⟩ := ih fun other hother => h other (List.mem_cons_of_mem value hother)
      refine ⟨first :: more, fun depth hdepth => ?_⟩
      rw [List.mapM_cons, hfirst depth hdepth, hmore depth hdepth]
      rfl

/-- In a tree, writing comes to an end at every place, and how much deeper it might
    have gone makes no difference. -/
theorem Arena.IsTree.exists_writeWithin {arena : Arena} (h : arena.IsTree) (place : Nat)
    (hplace : place < arena.cells.length) :
    ∃ text, ∀ depth, arena.cells.length - place ≤ depth →
      arena.writeWithin depth place = some text := by
  -- children are nearer to the end of the arena than their parent
  induction hn : arena.cells.length - place using Nat.strongRecOn generalizing place with
  | ind n ih =>
  subst hn
  have hcell := List.getElem?_eq_getElem hplace
  have hwritten : ∃ text, ∀ inner, arena.cells.length - (place + 1) ≤ inner →
      arena.writeWithin (inner + 1) place = some text := by
    cases hkind : arena.cells[place] with
    | element name attributes children =>
        rw [hkind] at hcell
        have hchildren : arena.children place = children := by
          rw [Arena.children, hcell, Option.elim_some, Cell.children]
        have hall : ∀ child ∈ children, ∃ text, ∀ inner,
            arena.cells.length - (place + 1) ≤ inner →
              arena.writeWithin inner child = some text := by
          intro child hchild
          obtain ⟨hbehind, hinside⟩ := h.behind place child (by rwa [hchildren])
          obtain ⟨text, htext⟩ := ih _ (by omega) child hinside rfl
          exact ⟨text, fun inner hinner => htext inner (by omega)⟩
        obtain ⟨parts, hparts⟩ := exists_mapM_of_forall hall
        exact ⟨_, fun inner hinner => Arena.writeWithin_element hcell (hparts inner hinner)⟩
    | text raw =>
        exact ⟨raw, fun inner _ => by rw [Arena.writeWithin, hcell, hkind]⟩
    | comment body =>
        exact ⟨"<!--" ++ body ++ "-->", fun inner _ => by rw [Arena.writeWithin, hcell, hkind]⟩
    | cdata body =>
        exact ⟨"<![CDATA[" ++ body ++ "]]>", fun inner _ => by
          rw [Arena.writeWithin, hcell, hkind]⟩
  obtain ⟨text, htext⟩ := hwritten
  refine ⟨text, fun depth hdepth => ?_⟩
  obtain ⟨inner, rfl⟩ : ∃ inner, depth = inner + 1 := ⟨depth - 1, by omega⟩
  exact htext inner (by omega)

/-! ## A new last child -/

namespace Arena

/-- The arena with a cell at the next place, as the last child of `parent`. -/
def attached (arena : Arena) (parent : Nat) (cell : Cell) : Arena :=
  (arena.push cell).1.appendChild parent (arena.push cell).2

section

variable {arena : Arena} {parent : Nat} {name : String} {cell : Cell}

theorem getElem?_attached (place : Nat) :
    (arena.attached parent cell).cells[place]?
      = ((arena.cells ++ [cell])[place]?).map fun found =>
          if parent = place then found.addChild arena.cells.length else found := by
  rw [attached, appendChild, List.getElem?_modify]
  rfl

theorem length_attached : (arena.attached parent cell).cells.length = arena.cells.length + 1 := by
  rw [attached, appendChild, List.length_modify, push, List.length_append, List.length_singleton]

theorem attributes_addChild (found : Cell) (child : Nat) :
    (found.addChild child).attributes = found.attributes := by
  cases found <;> rfl

theorem HasElement.lt_length (h : arena.HasElement parent name) :
    parent < arena.cells.length := by
  obtain ⟨attributes, children, hcell⟩ := h
  exact (List.getElem?_eq_some_iff.mp hcell).1

/-- Elements stay where they are, under their names. -/
theorem HasElement.attached {place : Nat} (h : arena.HasElement place name) :
    (arena.attached parent cell).HasElement place name := by
  have hplace := h.lt_length
  obtain ⟨attributes, children, hcell⟩ := h
  have hfound : (arena.attached parent cell).cells[place]? = _ := getElem?_attached place
  rw [List.getElem?_append_left hplace, hcell, Option.map_some] at hfound
  by_cases hparent : parent = place
  · rw [if_pos hparent] at hfound
    exact ⟨_, _, hfound⟩
  · rw [if_neg hparent] at hfound
    exact ⟨_, _, hfound⟩

/-- Only the parent gets a child. -/
theorem children_attached (hparent : arena.HasElement parent name) (hleaf : cell.children = [])
    (place : Nat) :
    (arena.attached parent cell).children place
      = arena.children place ++ if parent = place then [arena.cells.length] else [] := by
  rw [children, children, getElem?_attached]
  rcases Nat.lt_trichotomy place arena.cells.length with hlt | rfl | hgt
  · rw [List.getElem?_append_left hlt]
    by_cases hplace : parent = place
    · obtain ⟨attributes, children, hcell⟩ := hparent
      subst hplace
      simp [hcell, Cell.addChild, Cell.children]
    · simp [hplace]
  · have hne : parent ≠ arena.cells.length := Nat.ne_of_lt hparent.lt_length
    simp [hne, hleaf]
  · have hne : parent ≠ place := Nat.ne_of_lt (Nat.lt_trans hparent.lt_length hgt)
    rw [List.getElem?_eq_none (by simp; omega), List.getElem?_eq_none (by omega), if_neg hne]
    rfl

theorem mem_children_attached (hparent : arena.HasElement parent name)
    (hleaf : cell.children = []) {place child : Nat} :
    child ∈ (arena.attached parent cell).children place
      ↔ child ∈ arena.children place ∨ parent = place ∧ child = arena.cells.length := by
  rw [children_attached hparent hleaf, List.mem_append]
  by_cases hplace : parent = place
  · simp [hplace]
  · simp [hplace]

/-- A new last child of an element leaves a tree. -/
theorem IsTree.attached (h : arena.IsTree) (hparent : arena.HasElement parent name)
    (hleaf : cell.children = []) (hkeys : (cell.attributes.map Prod.fst).Nodup) :
    (arena.attached parent cell).IsTree := by
  have hinside := hparent.lt_length
  refine ⟨?_, ?_, ?_, ?_, ?_⟩
  · intro place hpos hplace
    rw [length_attached] at hplace
    simp only [mem_children_attached hparent hleaf]
    rcases Nat.lt_succ_iff_lt_or_eq.mp hplace with hold | rfl
    · obtain ⟨owner, howner, hunique⟩ := h.parent place hpos hold
      refine ⟨owner, .inl howner, ?_⟩
      rintro other (hother | ⟨-, hnew⟩)
      · exact hunique other hother
      · omega
    -- no node has had a child at the new place
    · refine ⟨parent, .inr ⟨rfl, rfl⟩, ?_⟩
      rintro other (hother | ⟨hother, -⟩)
      · exact absurd (h.behind other _ hother).2 (Nat.lt_irrefl _)
      · exact hother.symm
  · intro place hchildren
    rw [children_attached hparent hleaf] at hchildren
    by_cases hplace : parent = place
    · subst hplace
      exact ⟨name, hparent.attached⟩
    · rw [if_neg hplace, List.append_nil] at hchildren
      obtain ⟨found, hfound⟩ := h.element place hchildren
      exact ⟨found, hfound.attached⟩
  · intro place child hchild
    rw [length_attached]
    rcases (mem_children_attached hparent hleaf).mp hchild with hold | ⟨rfl, rfl⟩
    · obtain ⟨hbehind, hlength⟩ := h.behind place child hold
      exact ⟨hbehind, Nat.lt_succ_of_lt hlength⟩
    · exact ⟨hinside, Nat.lt_succ_self _⟩
  · intro place
    rw [children_attached hparent hleaf]
    refine List.pairwise_append.mpr ⟨h.increasing place, ?_, ?_⟩
    · split
      · exact List.pairwise_singleton ..
      · exact List.Pairwise.nil
    · intro child hchild last hlast
      split at hlast
      · rw [List.mem_singleton.mp hlast]
        exact (h.behind place child hchild).2
      · exact absurd hlast List.not_mem_nil
  · intro found hfound
    obtain ⟨place, hplace⟩ := List.mem_iff_getElem?.mp hfound
    rw [getElem?_attached] at hplace
    obtain ⟨before, hbefore, rfl⟩ := Option.map_eq_some_iff.mp hplace
    have hnodup : (before.attributes.map Prod.fst).Nodup := by
      rcases List.mem_append.mp (List.mem_of_getElem? hbefore) with hold | hnew
      · exact h.distinct before hold
      · rw [List.mem_singleton.mp hnew]
        exact hkeys
    split
    · rw [attributes_addChild]
      exact hnodup
    · exact hnodup

end

/-- A single node without children is a tree. -/
theorem isTree_singleton {cell : Cell} (hleaf : cell.children = [])
    (hkeys : (cell.attributes.map Prod.fst).Nodup) : IsTree ⟨[cell]⟩ := by
  have hnone : ∀ place, children ⟨[cell]⟩ place = [] := by
    intro place
    cases place with
    | zero => exact hleaf
    | succ place => rfl
  refine ⟨?_, ?_, ?_, ?_, ?_⟩
  · intro place hpos hplace
    exact absurd (Nat.lt_one_iff.mp hplace) (Nat.ne_of_gt hpos)
  · intro place hchildren
    exact absurd (hnone place) hchildren
  · intro place child hchild
    rw [hnone] at hchild
    exact absurd hchild List.not_mem_nil
  · intro place
    rw [hnone]
    exact List.Pairwise.nil
  · intro found hfound
    rw [List.mem_singleton.mp hfound]
    exact hkeys

theorem isTree_empty : IsTree .empty where
  parent _ _ hplace := absurd hplace (Nat.not_lt_zero _)
  element _ hchildren := absurd rfl hchildren
  behind _ _ hchild := absurd hchild List.not_mem_nil
  increasing _ := List.Pairwise.nil
  distinct _ hcell := absurd hcell List.not_mem_nil

end Arena

end IconCompiler.Markup
