import IconCompiler.Search
import IconCompiler.Proofs.Disk.Walk
import Mathlib.Data.List.Pairwise

/-! # What a search finds

    On a disk without links a search finds the files below its root that have the
    extension, can be reached and hold text (`mem_assets_iff`), each one once and
    in the order of the names that lead to them (`assets_pairwise`).  What it
    cannot read it reports, once and in this order, too
    (`mem_diagnostics_iff`, `diagnostics_pairwise`). -/

namespace IconCompiler

open Disk IconCompiler.Path

theorem Workspace.readText_eq_ok_iff {workspace : Workspace} (h : workspace.IsPlain)
    {path text : String} :
    workspace.readText path = .ok text
      ↔ workspace.Reaches path ∧ ∃ bytes,
        workspace.disk.entry? (workspace.destination path) = some (.file bytes)
          ∧ String.fromUTF8? bytes = some text := by
  rw [readText, bind_eq_ok_iff]
  constructor
  · rintro ⟨bytes, hread, htext⟩
    obtain ⟨hreaches, hentry⟩ := (read_eq_ok_iff h).mp hread
    refine ⟨hreaches, bytes, hentry, ?_⟩
    cases hdecoded : String.fromUTF8? bytes with
    | none =>
        rw [hdecoded] at htext
        exact absurd htext (by simp)
    | some found =>
        rw [hdecoded] at htext
        exact congrArg some (Except.ok.inj htext)
  · rintro ⟨hreaches, bytes, hentry, htext⟩
    refine ⟨bytes, (read_eq_ok_iff h).mpr ⟨hreaches, hentry⟩, ?_⟩
    rw [htext]
    rfl

namespace Search

/-- The asset in a file, if there is one. -/
def asset? (workspace : Workspace) (extension path : String) : Option Asset :=
  if extensionIs extension path then
    (workspace.readText path).toOption.map fun content => ⟨path, content⟩
  else none

theorem asset?_eq_some_iff {workspace : Workspace} {extension path : String} {asset : Asset} :
    asset? workspace extension path = some asset
      ↔ asset.path = path ∧ extensionIs extension path = true
        ∧ workspace.readText path = .ok asset.content := by
  obtain ⟨other, content⟩ := asset
  rw [asset?]
  by_cases hextension : extensionIs extension path = true
  · rw [if_pos hextension]
    cases hread : workspace.readText path with
    | error fault => simp [Except.toOption]
    | ok found => simp [Except.toOption, hextension, eq_comm]
  · rw [if_neg hextension]
    simp [hextension]

/-- The assets among what is visited are those in the files that are visited. -/
theorem assets_foldr (workspace : Workspace) (extension : String) (visits : List Visit) :
    (visits.foldr (cons workspace extension) empty).assets
      = (visits.filterMap Visit.file?).filterMap (asset? workspace extension) := by
  induction visits with
  | nil => rfl
  | cons visit rest ih =>
      rw [List.foldr_cons]
      generalize rest.foldr (cons workspace extension) empty = found at ih ⊢
      cases visit with
      | entry path kind =>
          cases kind with
          | file =>
              have hfile : Visit.file? (.entry path .file) = some path := rfl
              rw [cons, List.filterMap_cons_some hfile, List.filterMap_cons, asset?, ← ih]
              split
              · cases workspace.readText path <;> rfl
              · rfl
          | directory => exact ih
          | link => exact ih
      | fault path fault => exact ih
      | loop path ancestor => exact ih

/-- The warning that a visit gives rise to, if any. -/
def warning? (workspace : Workspace) (extension : String) : Visit → Option Diagnostic
  | .entry path .file =>
    if extensionIs extension path then
      match workspace.readText path with
      | .ok _ => none
      | .error fault => some (readWarning path fault)
    else none
  | .entry _ _ => none
  | .fault path fault =>
    some (visitWarning path s!"IO error for operation on {path}: {fault.message}")
  | .loop path ancestor =>
    some (visitWarning path s!"File system loop found: {path} points to an ancestor {ancestor}")

theorem diagnostics_foldr (workspace : Workspace) (extension : String) (visits : List Visit) :
    (visits.foldr (cons workspace extension) empty).diagnostics
      = visits.filterMap (warning? workspace extension) := by
  induction visits with
  | nil => rfl
  | cons visit rest ih =>
      rw [List.foldr_cons, List.filterMap_cons, ← ih]
      generalize rest.foldr (cons workspace extension) empty = found
      cases visit with
      | entry path kind =>
          cases kind with
          | file =>
              rw [cons, warning?]
              split
              · cases workspace.readText path <;> rfl
              · rfl
          | directory => rfl
          | link => rfl
      | fault path fault => rfl
      | loop path ancestor => rfl

theorem warning?_file_eq_some_iff {workspace : Workspace} {extension path : String}
    {diagnostic : Diagnostic} :
    warning? workspace extension (.entry path .file) = some diagnostic
      ↔ extensionIs extension path = true
        ∧ ∃ fault, workspace.readText path = .error fault
          ∧ diagnostic = readWarning path fault := by
  rw [warning?]
  by_cases hextension : extensionIs extension path = true
  · rw [if_pos hextension]
    cases workspace.readText path <;> simp [hextension, eq_comm]
  · rw [if_neg hextension]
    simp [hextension]

/-- A warning is about the subject of the visit. -/
theorem path_of_warning? {workspace : Workspace} {extension : String} {visited : Visit}
    {diagnostic : Diagnostic} (h : warning? workspace extension visited = some diagnostic) :
    ∃ path, visited.subject? = some path ∧ diagnostic.path = some path := by
  cases visited with
  | entry path kind =>
      cases kind with
      | file =>
          obtain ⟨-, fault, -, rfl⟩ := warning?_file_eq_some_iff.mp h
          exact ⟨path, rfl, rfl⟩
      | directory => exact absurd h (by simp [warning?])
      | link => exact absurd h (by simp [warning?])
  | fault path fault =>
      rw [← Option.some.inj h]
      exact ⟨path, rfl, rfl⟩
  | loop path ancestor =>
      rw [← Option.some.inj h]
      exact ⟨path, rfl, rfl⟩

theorem below_eq_ok_iff {workspace : Workspace} {root extension : String} {follow : Bool}
    {found : Search} :
    below workspace root extension follow = .ok found
      ↔ workspace.isDirectory root = true
        ∧ found = (workspace.walk follow root).foldr (cons workspace extension) empty := by
  rw [below]
  split
  · next hroot => simp [hroot, eq_comm]
  · next hroot => simp [hroot]

/-- A diagnostic about one path below a root comes before one about another. -/
def InOrder (root : String) (diagnostic other : Diagnostic) : Prop :=
  ∃ path path', diagnostic.path = some path ∧ other.path = some path'
    ∧ Workspace.Precedes root path path'

section

variable {workspace : Workspace} (h : workspace.IsPlain) {root extension : String}
  {follow : Bool} {found : Search} (hfound : below workspace root extension follow = .ok found)
include h hfound

theorem root_ne_empty : root ≠ "" := by
  obtain ⟨hroot, -⟩ := below_eq_ok_iff.mp hfound
  exact ne_empty_of_route ((Workspace.isDirectory_iff h).mp hroot).1.taken

/-- What is found are the files below the root that have the extension and hold
    text. -/
theorem mem_assets_iff {asset : Asset} :
    asset ∈ found.assets
      ↔ ∃ names, (∀ name ∈ names, IsSegment name) ∧ asset.path = joinAll root names
        ∧ extensionIs extension asset.path = true
        ∧ workspace.readText asset.path = .ok asset.content := by
  obtain ⟨hroot, rfl⟩ := below_eq_ok_iff.mp hfound
  have hne : root ≠ "" := root_ne_empty h hfound
  rw [assets_foldr, List.mem_filterMap]
  constructor
  · rintro ⟨path, hpath, hasset⟩
    obtain ⟨rfl, hextension, hread⟩ := asset?_eq_some_iff.mp hasset
    obtain ⟨visited, hvisited, hfile⟩ := List.mem_filterMap.mp hpath
    obtain ⟨names, entry, hcomes, hconcerns⟩ := (Workspace.mem_walk_iff h hroot).mp hvisited
    exact ⟨names, hcomes.segments, hconcerns.subject_eq (Visit.subject?_of_file? hfile),
      hextension, hread⟩
  · rintro ⟨names, hnames, hjoin, hextension, hread⟩
    refine ⟨asset.path, ?_, asset?_eq_some_iff.mpr ⟨rfl, hextension, hread⟩⟩
    obtain ⟨hreaches, bytes, hentry, -⟩ := (Workspace.readText_eq_ok_iff h).mp hread
    rw [hjoin] at hreaches hentry ⊢
    rw [Workspace.destination_joinAll workspace hne hnames] at hentry
    have hcomes := Workspace.comesTo_of_reaches hne hnames hreaches hentry
    exact List.mem_filterMap.mpr
      ⟨_, (Workspace.mem_walk_iff h hroot).mpr ⟨names, _, hcomes, .entry _⟩, rfl⟩

/-- Assets are found in the order of the names that lead to them. -/
theorem assets_pairwise :
    found.assets.Pairwise fun asset other => Workspace.Precedes root asset.path other.path := by
  obtain ⟨hroot, rfl⟩ := below_eq_ok_iff.mp hfound
  have hsubjects := List.pairwise_filterMap.mp (Workspace.subjects_walk_pairwise h hroot follow)
  rw [assets_foldr, List.pairwise_filterMap, List.pairwise_filterMap]
  refine hsubjects.imp ?_
  intro visited visited' hprecedes path hpath path' hpath' asset hasset asset' hasset'
  rw [(asset?_eq_some_iff.mp hasset).1, (asset?_eq_some_iff.mp hasset').1]
  exact hprecedes path (Visit.subject?_of_file? hpath) path' (Visit.subject?_of_file? hpath')

/-- No asset is found twice. -/
theorem paths_nodup : (found.assets.map (·.path)).Nodup := by
  refine List.pairwise_map.mpr ((assets_pairwise h hfound).imp ?_)
  intro asset other hprecedes hsame
  rw [hsame] at hprecedes
  exact hprecedes.asymm (root_ne_empty h hfound) hprecedes

/-- What is reported are the directories that cannot be listed, and the files that
    have the extension and cannot be read. -/
theorem mem_diagnostics_iff {diagnostic : Diagnostic} :
    diagnostic ∈ found.diagnostics
      ↔ ∃ names entry visited, workspace.ComesTo root names entry
        ∧ workspace.Concerns (joinAll root names) entry visited
        ∧ warning? workspace extension visited = some diagnostic := by
  obtain ⟨hroot, rfl⟩ := below_eq_ok_iff.mp hfound
  rw [diagnostics_foldr, List.mem_filterMap]
  constructor
  · rintro ⟨visited, hvisited, hwarning⟩
    obtain ⟨names, entry, hcomes, hconcerns⟩ := (Workspace.mem_walk_iff h hroot).mp hvisited
    exact ⟨names, entry, visited, hcomes, hconcerns, hwarning⟩
  · rintro ⟨names, entry, visited, hcomes, hconcerns, hwarning⟩
    exact ⟨visited, (Workspace.mem_walk_iff h hroot).mpr ⟨names, entry, hcomes, hconcerns⟩,
      hwarning⟩

/-- Warnings are given in the order of the names that lead to what they are
    about. -/
theorem diagnostics_pairwise : found.diagnostics.Pairwise (InOrder root) := by
  obtain ⟨hroot, rfl⟩ := below_eq_ok_iff.mp hfound
  have hsubjects := List.pairwise_filterMap.mp (Workspace.subjects_walk_pairwise h hroot follow)
  rw [diagnostics_foldr, List.pairwise_filterMap]
  refine hsubjects.imp ?_
  intro visited visited' hprecedes diagnostic hwarning diagnostic' hwarning'
  obtain ⟨path, hsubject, hpath⟩ := path_of_warning? hwarning
  obtain ⟨path', hsubject', hpath'⟩ := path_of_warning? hwarning'
  exact ⟨path, path', hpath, hpath', hprecedes path hsubject path' hsubject'⟩

/-- If two disks have the same assets of some kind below a root, these are found
    in the same order. -/
theorem filter_assets_congr {after : Workspace} (hafter : after.IsPlain) {found' : Search}
    (hfound' : below after root extension follow = .ok found') (p : Asset → Bool)
    (hsame : ∀ asset, p asset = true → (asset ∈ found.assets ↔ asset ∈ found'.assets)) :
    found.assets.filter p = found'.assets.filter p := by
  have hne := root_ne_empty h hfound
  have hasymm : ∀ {asset other : Asset}, Workspace.Precedes root asset.path other.path →
      ¬ Workspace.Precedes root other.path asset.path := fun hprecedes => hprecedes.asymm hne
  have : Std.Antisymm fun asset other : Asset => Workspace.Precedes root asset.path other.path :=
    ⟨fun _ _ hprecedes hback => absurd hback (hasymm hprecedes)⟩
  have : Std.Irrefl fun asset other : Asset => Workspace.Precedes root asset.path other.path :=
    ⟨fun _ hprecedes => hasymm hprecedes hprecedes⟩
  refine ((assets_pairwise h hfound).filter p).eq_of_mem_iff
    ((assets_pairwise hafter hfound').filter p) ?_
  intro asset
  rw [List.mem_filter, List.mem_filter]
  exact and_congr_left fun hp => hsame asset hp

/-- If two disks have the same assets below a root, these are found in the same
    order. -/
theorem assets_eq_of_mem_iff {after : Workspace} (hafter : after.IsPlain) {found' : Search}
    (hfound' : below after root extension follow = .ok found')
    (hsame : ∀ asset, asset ∈ found.assets ↔ asset ∈ found'.assets) :
    found.assets = found'.assets := by
  have hall := filter_assets_congr h hfound hafter hfound' (fun _ => true)
    fun asset _ => hsame asset
  rwa [List.filter_eq_self.mpr fun _ _ => rfl, List.filter_eq_self.mpr fun _ _ => rfl] at hall

theorem diagnostics_eq_of_mem_iff {after : Workspace} (hafter : after.IsPlain) {found' : Search}
    (hfound' : below after root extension follow = .ok found')
    (hsame : ∀ diagnostic, diagnostic ∈ found.diagnostics ↔ diagnostic ∈ found'.diagnostics) :
    found.diagnostics = found'.diagnostics := by
  have hne := root_ne_empty h hfound
  have hasymm : ∀ {diagnostic other : Diagnostic}, InOrder root diagnostic other →
      ¬ InOrder root other diagnostic := by
    rintro diagnostic other ⟨path, path', hpath, hpath', hprecedes⟩ ⟨_, _, hback, hback', hlater⟩
    obtain rfl := Option.some.inj (hpath.symm.trans hback')
    obtain rfl := Option.some.inj (hpath'.symm.trans hback)
    exact hprecedes.asymm hne hlater
  have : Std.Antisymm (InOrder root) := ⟨fun _ _ horder hback => absurd hback (hasymm horder)⟩
  have : Std.Irrefl (InOrder root) := ⟨fun _ horder => hasymm horder horder⟩
  exact (diagnostics_pairwise h hfound).eq_of_mem_iff (diagnostics_pairwise hafter hfound')
    hsame

end

end Search

end IconCompiler
