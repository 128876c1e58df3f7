import IconCompiler.Proofs.Generation.Account
import IconCompiler.Proofs.RelativePath

/-! # Spellings of a root

    One directory can be spelled in many ways, and the paths of the assets in it
    begin accordingly.  A pattern that is meant relative to the root is tried on
    what is written behind it, so which assets a target takes and what it makes of
    them does not depend on the spelling (`icons_of_respelled_root`). -/

namespace IconCompiler

open Text

/-- A file below a root: the segments that lead to it, and its text. -/
structure Leaf where
  parts : List String
  content : String
  nonempty : parts ≠ []
  isPart : ∀ part ∈ parts, IsPart part

namespace Leaf

/-- The path of a file as it is seen from the root. -/
def path (leaf : Leaf) : String :=
  joinWith "/" leaf.parts

/-- The file as an asset whose path begins with `front`. -/
def asset (front : String) (leaf : Leaf) : Asset :=
  ⟨front ++ leaf.path, leaf.content⟩

variable {root front : String}

theorem relativeTo_asset (h : Opens root front) (leaf : Leaf) :
    RelativePath.relativeTo root (leaf.asset front).path = leaf.path :=
  RelativePath.relativeTo_below h leaf.nonempty leaf.isPart

theorem asset_path_eq_iff (front : String) (leaf other : Leaf) :
    (leaf.asset front).path = (other.asset front).path ↔ leaf.path = other.path :=
  String.append_right_inj front

theorem icon?_asset (h : Opens root front) (leaf : Leaf) :
    (leaf.asset front).icon? = Asset.icon? ⟨leaf.path, leaf.content⟩ := by
  have hstem := Asset.stem_below h leaf.path leaf.content
  rw [asset, Asset.icon?, Asset.icon?, Asset.toIcon, Asset.toIcon, hstem]
  dsimp only
  cases Markup.readContent leaf.content <;> rfl

/-- Which files are the first with their paths does not depend on how the paths
    begin. -/
theorem exists_firsts_eq (leaves : List Leaf) :
    ∃ kept : List Leaf, ∀ front,
      Asset.firsts (leaves.map (·.asset front)) = kept.map (·.asset front) := by
  induction leaves with
  | nil => exact ⟨[], fun _ => rfl⟩
  | cons leaf rest ih =>
      obtain ⟨kept, hkept⟩ := ih
      refine ⟨leaf :: kept.filter (·.path ≠ leaf.path), ?_⟩
      intro front
      rw [List.map_cons, Asset.firsts, hkept, List.filter_map, List.map_cons]
      refine congrArg (fun more : List Leaf => leaf.asset front :: more.map (·.asset front))
        (List.filter_congr ?_)
      intro other _
      exact decide_eq_decide.mpr (not_congr (asset_path_eq_iff front other leaf))

end Leaf

/-- A pattern that does not start at a root selects files by their paths as they
    are seen from the root. -/
theorem selected_asset {root front : String} (h : Opens root front) {pattern : Option String}
    (hpattern : ∀ text ∈ pattern, RelativePath.startsAtRoot text = false) (leaf : Leaf) :
    selected (pattern.map fun text => .ofPattern text root) (leaf.asset front).path
      = pattern.all fun text => (PathPattern.parse text).matches leaf.path := by
  cases pattern with
  | none => rfl
  | some text =>
      have hrelative := hpattern text rfl
      show (PathPattern.parse text).matches
        ((Selector.ofPattern text root).rebase (leaf.asset front).path) = _
      rw [Selector.ofPattern, hrelative]
      show (PathPattern.parse text).matches
        (RelativePath.relativeTo root (leaf.asset front).path) = _
      rw [Leaf.relativeTo_asset h]
      rfl

namespace Generation

variable {target : Target} {root front root' front' : String}

/-- The icons of a target are told by the files below the root. -/
theorem exists_iconsOf_eq
    (hpattern : ∀ pattern ∈ target.pattern, RelativePath.startsAtRoot pattern = false)
    (leaves : List Leaf) :
    ∃ icons, ∀ root front, Opens root front →
      iconsOf (leaves.map (·.asset front)) root target = icons := by
  obtain ⟨kept, hkept⟩ := Leaf.exists_firsts_eq leaves
  refine ⟨(kept.filter fun leaf => target.pattern.all fun text =>
    (PathPattern.parse text).matches leaf.path).filterMap
      fun leaf => Asset.icon? ⟨leaf.path, leaf.content⟩, ?_⟩
  intro root front h
  rw [iconsOf_eq, chosenAssets, hkept, List.filter_map, List.filterMap_map]
  have hselected : kept.filter ((fun asset : Asset => selected
        (target.pattern.map fun pattern => .ofPattern pattern root) asset.path) ∘ (·.asset front))
      = kept.filter fun leaf => target.pattern.all fun text =>
        (PathPattern.parse text).matches leaf.path :=
    List.filter_congr fun leaf _ => selected_asset h hpattern leaf
  rw [hselected]
  exact List.filterMap_congr fun leaf _ => Leaf.icon?_asset h leaf

/-- What a target writes is told by its icons. -/
theorem serve_congr {assets assets' : List Asset}
    (h : iconsOf assets root target = iconsOf assets' root' target)
    (workspace : Workspace) (iconType : String) (check : Bool) :
    ∃ summary summary' next,
      serve workspace target assets root iconType check = (summary, next)
        ∧ serve workspace target assets' root' iconType check = (summary', next)
        ∧ summary.state = summary'.state ∧ summary.iconTotal = summary'.iconTotal := by
  rw [iconsOf, iconsOf] at h
  rw [serve, serve]
  dsimp only
  rw [h]
  cases Rendering.ofIcons target.container iconType (collectTarget target assets' root').icons with
  | empty warning => exact ⟨_, _, workspace, rfl, rfl, rfl, rfl⟩
  | source text icons renamed =>
      dsimp only
      cases writeTarget workspace check target text icons with
      | mk result next =>
          cases result with
          | ok state => exact ⟨_, _, next, rfl, rfl, rfl, rfl⟩
          | error fault => exact ⟨_, _, next, rfl, rfl, rfl, rfl⟩

/-- Seen from its root, a path below it is what is written behind the root, however
    the root is spelled.  So with a pattern that does not start at a root, or
    without one, two spellings of a root give a target the same icons in the same
    order and the same files with the same contents, and it leaves the same
    disk. -/
theorem icons_of_respelled_root (h : Opens root front) (h' : Opens root' front') :
    (∀ leaf : Leaf, RelativePath.relativeTo root (front ++ joinWith "/" leaf.parts)
        = joinWith "/" leaf.parts)
      ∧ ∀ (target : Target) (leaves : List Leaf) (workspace : Workspace) (iconType : String)
          (check : Bool),
        (∀ pattern ∈ target.pattern, RelativePath.startsAtRoot pattern = false) →
        iconsOf (leaves.map (·.asset front)) root target
            = iconsOf (leaves.map (·.asset front')) root' target
          ∧ targetFiles (leaves.map (·.asset front)) root iconType target
            = targetFiles (leaves.map (·.asset front')) root' iconType target
          ∧ ∃ summary summary' next,
            serve workspace target (leaves.map (·.asset front)) root iconType check
                = (summary, next)
              ∧ serve workspace target (leaves.map (·.asset front')) root' iconType check
                = (summary', next)
              ∧ summary.state = summary'.state ∧ summary.iconTotal = summary'.iconTotal := by
  refine ⟨Leaf.relativeTo_asset h, ?_⟩
  intro target leaves workspace iconType check hpattern
  obtain ⟨icons, hicons⟩ := exists_iconsOf_eq hpattern leaves
  have hsame := (hicons root front h).trans (hicons root' front' h').symm
  refine ⟨hsame, ?_, serve_congr hsame workspace iconType check⟩
  rw [targetFiles, targetFiles, hsame]

/-- A root with idle segments and steps up, and one with a drive. -/
theorem icons_of_respelled_root_messy :
    Opens "./x//..\\a/" "./x//..\\a/" ∧ Opens "C:\\b" "C:\\b/"
      ∧ ∃ (target : Target) (leaf : Leaf), target.pattern = some "icons/*.svg"
        ∧ leaf.parts = ["icons", "b.svg"]
        ∧ RelativePath.relativeTo "./x//..\\a/" "./x//..\\a/icons/b.svg" = "icons/b.svg"
        ∧ iconsOf [leaf.asset "./x//..\\a/"] "./x//..\\a/" target
          = iconsOf [leaf.asset "C:\\b/"] "C:\\b" target := by
  have hroot : Opens "./x//..\\a/" "./x//..\\a/" := .inr ⟨rfl, '/', by decide, rfl⟩
  have hroot' : Opens "C:\\b" "C:\\b/" := .inl (by decide)
  have hparts : ∀ part ∈ ["icons", "b.svg"], IsPart part := by
    intro part hpart
    rcases List.mem_cons.mp hpart with rfl | hpart
    · refine ⟨⟨?_, ?_, ?_, ?_⟩, ?_⟩ <;> decide
    · rw [List.mem_singleton.mp hpart]
      refine ⟨⟨?_, ?_, ?_, ?_⟩, ?_⟩ <;> decide
  let leaf : Leaf := ⟨["icons", "b.svg"], "<svg/>", List.cons_ne_nil _ _, hparts⟩
  let target : Target := ⟨"icons", none, some "icons/*.svg", "icons.rs", none⟩
  have hpattern : ∀ pattern ∈ target.pattern, RelativePath.startsAtRoot pattern = false := by
    intro pattern hmem
    obtain rfl := Option.some.inj hmem
    decide
  obtain ⟨hrelative, hicons⟩ := icons_of_respelled_root hroot hroot'
  exact ⟨hroot, hroot', target, leaf, rfl, rfl, hrelative leaf,
    (hicons target [leaf] (.ofDisk .empty []) "Icon" false hpattern).1⟩

end Generation

end IconCompiler
