import IconCompiler.Proofs.Confinement
import IconCompiler.Proofs.Generation.Files

/-! # Targets that keep clear of each other

    Serving a target touches the places of its files and the directories on the
    way to them (`confined_serve`), and comes to the same result where others
    have made some of these directories already (`serve_alike`).  So two targets
    whose places keep clear of each other can be served in either order
    (`serve_comm`), even if they fail. -/

namespace IconCompiler

open Disk Workspace GeneratedFile

namespace Target

/-- The paths of a target's files. -/
def paths (target : Target) : List String :=
  target.output :: target.manifest.toList

/-- The paths of a target's files are written without dots. -/
def IsStraight (target : Target) : Prop :=
  ∀ path ∈ target.paths, Path.IsStraight path

instance (target : Target) : Decidable target.IsStraight :=
  inferInstanceAs (Decidable (∀ path ∈ target.paths, ∀ name ∈ Path.names path,
    name ≠ "." ∧ name ≠ ".."))

/-- The places that a target's files take, those of temporary files included. -/
def places (workspace : Workspace) (target : Target) : List Location :=
  target.paths.flatMap (placesOf workspace)

/-- No place of the one target is a place of the other, or above or below one. -/
def Independent (workspace : Workspace) (a b : Target) : Prop :=
  ∀ place ∈ a.places workspace, ∀ other ∈ b.places workspace,
    ¬ place <+: other ∧ ¬ other <+: place

instance (workspace : Workspace) (a b : Target) : Decidable (Independent workspace a b) :=
  inferInstanceAs (Decidable (∀ place ∈ a.places workspace, ∀ other ∈ b.places workspace,
    ¬ place <+: other ∧ ¬ other <+: place))

theorem Independent.symm {workspace : Workspace} {a b : Target}
    (h : Independent workspace a b) : Independent workspace b a :=
  fun place hplace other hother => (h other hother place hplace).symm

theorem places_congr {before after : Workspace} (h : after.directory = before.directory)
    (target : Target) : target.places after = target.places before := by
  rw [places, places]
  exact congrArg (List.flatMap · target.paths) (funext (placesOf_congr h))

theorem independent_congr {before after : Workspace} (h : after.directory = before.directory) :
    Independent after = Independent before := by
  funext a b
  rw [Independent, Independent, places_congr h, places_congr h]

theorem placesOf_subset (workspace : Workspace) {target : Target} {path : String}
    (hpath : path ∈ target.paths) : placesOf workspace path ⊆ target.places workspace :=
  fun _ hplace => List.mem_flatMap.mpr ⟨path, hpath, hplace⟩

theorem output_mem_paths (target : Target) : target.output ∈ target.paths :=
  List.mem_cons_self ..

theorem manifest_mem_paths {target : Target} {path : String}
    (h : target.manifest = some path) : path ∈ target.paths := by
  rw [paths, h]
  simp

end Target

namespace Generation

/-! ## What serving a target touches -/

section

variable {workspace : Workspace} {target : Target} (h : workspace.IsPlain)
  (hstraight : target.IsStraight) (check : Bool) (text : String) (icons : List Icon)
include h hstraight

theorem confined_writeManifest (state : FileState) :
    Confined (target.places workspace) workspace
      (writeManifest workspace check target text icons state).2 := by
  rw [writeManifest]
  split
  · exact .refl h _
  · next path hmanifest =>
      have hpath := Target.manifest_mem_paths hmanifest
      have hconfined := (confined_update h (hstraight path hpath) check
        (manifestOf target text icons).render).mono (Target.placesOf_subset workspace hpath)
      rw [manifestOf] at hconfined
      dsimp only
      split <;> next hupdate =>
        rw [hupdate] at hconfined
        exact hconfined

theorem confined_writeTarget :
    Confined (target.places workspace) workspace
      (writeTarget workspace check target text icons).2 := by
  have hpath := target.output_mem_paths
  have hconfined := (confined_update h (hstraight _ hpath) check text).mono
    (Target.placesOf_subset workspace hpath)
  rw [writeTarget]
  split
  · next hupdate =>
      rw [hupdate] at hconfined
      exact hconfined
  · next state next hupdate =>
      rw [hupdate] at hconfined
      refine hconfined.trans ?_
      rw [← Target.places_congr hconfined.directory]
      exact confined_writeManifest hconfined.plain hstraight check text icons state

/-- A target that is served takes the places of its files. -/
theorem confined_serve (assets : List Asset) (root iconType : String) :
    Confined (target.places workspace) workspace
      (serve workspace target assets root iconType check).2 := by
  rw [serve]
  dsimp only
  split
  · exact .refl h _
  · next text icons renamed hrendering =>
      have hconfined := confined_writeTarget h hstraight check text icons
      split <;> next hwrite =>
        rw [hwrite] at hconfined
        exact hconfined

end

/-! ## What serving a target looks at -/

section

variable {first second : Workspace} {target : Target} (hstraight : target.IsStraight)
  (h : Ahead (target.places first) first second) (check : Bool)
include hstraight h

theorem writeManifest_alike (text : String) (icons : List Icon) (state : FileState) :
    Alike first second (writeManifest first check target text icons state)
      (writeManifest second check target text icons state) := by
  rw [writeManifest, writeManifest]
  cases hmanifest : target.manifest with
  | none => exact .unchanged first second _
  | some path =>
      have hpath := Target.manifest_mem_paths hmanifest
      have halike := update_congr (hstraight path hpath)
        (h.mono (Target.placesOf_subset first hpath)) check (manifestOf target text icons).render
      rw [manifestOf] at halike
      dsimp only
      obtain ⟨result, next, next', hfirst, hsecond⟩ := halike.exists_eq
      rw [hfirst, hsecond] at halike ⊢
      cases result with
      | ok own => exact ⟨rfl, halike.entry⟩
      | error failure => exact ⟨rfl, halike.entry⟩

theorem writeTarget_alike (text : String) (icons : List Icon) :
    Alike first second (writeTarget first check target text icons)
      (writeTarget second check target text icons) := by
  have hpath := target.output_mem_paths
  have hsubset := Target.placesOf_subset first hpath
  have halike := update_congr (hstraight _ hpath) (h.mono hsubset) check text
  have hconfined := (confined_update h.plain (hstraight _ hpath) check text).mono hsubset
  have hconfined' := confined_update h.plain_second (hstraight _ hpath) check text
  rw [placesOf_congr h.directory] at hconfined'
  have hahead := h.after halike hconfined (hconfined'.mono hsubset)
  rw [writeTarget, writeTarget]
  obtain ⟨result, next, next', hfirst, hsecond⟩ := halike.exists_eq
  rw [hfirst, hsecond] at halike hahead ⊢
  rw [hfirst] at hconfined
  cases result with
  | error failure => exact ⟨rfl, halike.entry⟩
  | ok state =>
      rw [← Target.places_congr hconfined.directory] at hahead
      exact halike.trans (writeManifest_alike hstraight hahead check text icons state)

/-- It makes no difference to a target if directories on the way to its files are
    there already. -/
theorem serve_alike (assets : List Asset) (root iconType : String) :
    Alike first second (serve first target assets root iconType check)
      (serve second target assets root iconType check) := by
  rw [serve, serve]
  dsimp only
  split
  · exact .unchanged first second _
  · next text icons renamed hrendering =>
      have halike := writeTarget_alike hstraight h check text icons
      obtain ⟨result, next, next', hfirst, hsecond⟩ := halike.exists_eq
      rw [hfirst, hsecond] at halike ⊢
      cases result with
      | ok state => exact ⟨rfl, halike.entry⟩
      | error failure => exact ⟨rfl, halike.entry⟩

end

/-! ## Two targets -/

/-- Two workspaces in which the same entries stand at the same locations. -/
structure Same (first second : Workspace) : Prop where
  directory : second.directory = first.directory
  entry : ∀ location, second.disk.entry? location = first.disk.entry? location

theorem Same.refl (workspace : Workspace) : Same workspace workspace :=
  ⟨rfl, fun _ => rfl⟩

theorem Same.trans {first second third : Workspace} (h : Same first second)
    (hmore : Same second third) : Same first third :=
  ⟨hmore.directory.trans h.directory,
    fun location => (hmore.entry location).trans (h.entry location)⟩

theorem Same.ahead {first second : Workspace} (h : Same first second) (hplain : first.IsPlain)
    (hplain' : second.IsPlain) (places : List Location) : Ahead places first second :=
  ⟨hplain, hplain', h.directory, fun place _ => h.entry place,
    fun _ _ location _ => .inl (h.entry location)⟩

/-- Where another target has been served only directories may have been added on
    the way. -/
theorem ahead_of_independent {workspace next : Workspace} (h : workspace.IsPlain)
    {a b : Target} (hindependent : Target.Independent workspace a b)
    (hconfined : Confined (b.places workspace) workspace next) :
    Ahead (a.places workspace) workspace next := by
  refine ⟨h, hconfined.plain, hconfined.directory, ?_, ?_⟩
  · intro place hplace
    rcases hconfined.entry place with hmem | hsame | ⟨-, -, other, hother, hway⟩
    · exact absurd (List.prefix_refl place) (hindependent place hplace place hmem).1
    · exact hsame
    · exact absurd (hway.trans (List.dropLast_prefix other))
        (hindependent place hplace other hother).1
  · intro place hplace location hlocation
    rcases hconfined.entry location with hmem | hsame | ⟨hnone, hnew, -⟩
    · exact absurd (hlocation.trans (List.dropLast_prefix place))
        (hindependent place hplace location hmem).2
    · exact .inl hsame
    · exact .inr ⟨hnone, hnew⟩

section

variable {workspace afterA afterB afterAB afterBA : Workspace} {a b : Target}
  (hindependent : Target.Independent workspace a b)
  (ha : Confined (a.places workspace) workspace afterA)
  (hb : Confined (b.places workspace) workspace afterB)
  (hab : Confined (b.places workspace) afterA afterAB)
  (hba : Confined (a.places workspace) afterB afterBA)
include hindependent ha hb hab hba

/-- What the first target has changed the second one leaves alone, except that
    both may have made the same directory. -/
theorem entry_of_changed (halike : ∀ location,
      afterB.disk.entry? location = workspace.disk.entry? location →
        afterBA.disk.entry? location = afterA.disk.entry? location)
    {location : Location}
    (hchanged : afterA.disk.entry? location ≠ workspace.disk.entry? location) :
    afterAB.disk.entry? location = afterBA.disk.entry? location := by
  rcases ha.entry location with hplace | hsame | ⟨hnone, hnew, place, hplace, hway⟩
  -- the location is a place of the first target
  · have hapart : location ∉ b.places workspace := fun hmem =>
      (hindependent location hplace location hmem).1 (List.prefix_refl location)
    have hclear : ∀ other ∈ b.places workspace, ¬ location <+: other.dropLast :=
      fun other hother hway => (hindependent location hplace other hother).1
        (hway.trans (List.dropLast_prefix other))
    have hsecond := halike location (hb.kept hapart hclear)
    exact (hab.kept hapart hclear).trans hsecond.symm
  · exact absurd hsame hchanged
  -- the location is a directory that the first target has made
  · have hapart : location ∉ b.places workspace := fun hmem =>
      (hindependent place hplace location hmem).2 (hway.trans (List.dropLast_prefix place))
    have hsecond : afterBA.disk.entry? location = some .directory := by
      rcases hb.entry location with hmem | hsame | ⟨-, hmade, other, hother, hwayB⟩
      · exact absurd hmem hapart
      · exact (halike location hsame).trans hnew
      · refine hba.directory_kept ?_ hmade
        intro hmem
        exact (hindependent location hmem other hother).1
          (hwayB.trans (List.dropLast_prefix other))
    exact (hab.directory_kept hapart hnew).trans hsecond.symm

end

section

variable {workspace : Workspace} (assets : List Asset) (root iconType : String) (check : Bool)

/-- Two targets that keep clear of each other can be served in either order. -/
theorem serve_comm (h : workspace.IsPlain) {a b : Target} (ha : a.IsStraight) (hb : b.IsStraight)
    (hindependent : Target.Independent workspace a b) :
    (serve (serve workspace b assets root iconType check).2 a assets root iconType check).1
        = (serve workspace a assets root iconType check).1
      ∧ (serve (serve workspace a assets root iconType check).2 b assets root iconType check).1
        = (serve workspace b assets root iconType check).1
      ∧ Same (serve (serve workspace a assets root iconType check).2 b assets root iconType check).2
        (serve (serve workspace b assets root iconType check).2 a assets root iconType check).2
      := by
  have hconfinedA := confined_serve h ha check assets root iconType
  have hconfinedB := confined_serve h hb check assets root iconType
  have halikeA := serve_alike ha (ahead_of_independent h hindependent hconfinedB) check assets root
    iconType
  have halikeB := serve_alike hb (ahead_of_independent h hindependent.symm hconfinedA) check assets
    root iconType
  have hconfinedAB := confined_serve hconfinedA.plain hb check assets root iconType
  have hconfinedBA := confined_serve hconfinedB.plain ha check assets root iconType
  have hdirectory := hconfinedBA.directory.trans hconfinedB.directory
  have hdirectory' := hconfinedAB.directory.trans hconfinedA.directory
  rw [Target.places_congr hconfinedA.directory] at hconfinedAB
  rw [Target.places_congr hconfinedB.directory] at hconfinedBA
  refine ⟨halikeA.result, halikeB.result, hdirectory.trans hdirectory'.symm, ?_⟩
  intro location
  by_cases hchangedA : (serve workspace a assets root iconType check).2.disk.entry? location
      = workspace.disk.entry? location
  · by_cases hchangedB : (serve workspace b assets root iconType check).2.disk.entry? location
        = workspace.disk.entry? location
    · rw [halikeA.entry location hchangedB, halikeB.entry location hchangedA, hchangedA, hchangedB]
    · exact entry_of_changed hindependent.symm hconfinedB hconfinedA hconfinedBA hconfinedAB
        halikeB.entry hchangedB
  · exact (entry_of_changed hindependent hconfinedA hconfinedB hconfinedAB hconfinedBA
      halikeA.entry hchangedA).symm

end

end Generation

end IconCompiler
