import IconCompiler.Proofs.Settling

/-! # What bringing a generated file up to date looks at and touches

    A file that is brought up to date changes its own place and the one beside it,
    makes missing directories on the way to them, and leaves all else alone
    (`confined_update`); and it comes to the same result on a disk where some of
    these directories are there already (`update_congr`).  Both hold whether the
    file can be written or not. -/

namespace IconCompiler

open Disk Workspace IconCompiler.Path

namespace GeneratedFile

/-! ## What is touched -/

/-- The places that a file at a path takes: its own and that of its temporary
    file.  A path that ends in no name is never written. -/
def placesOf (workspace : Workspace) (path : String) : List Location :=
  match fileName? path with
  | none => []
  | some _ => [workspace.destination path, beside (workspace.destination path)]

/-- All that changed are some places and directories that were missing on the way
    to them. -/
structure Confined (places : List Location) (before after : Workspace) : Prop where
  plain : after.IsPlain
  directory : after.directory = before.directory
  entry : ∀ location, location ∈ places
    ∨ after.disk.entry? location = before.disk.entry? location
    ∨ before.disk.entry? location = none ∧ after.disk.entry? location = some .directory
      ∧ ∃ place ∈ places, location <+: place.dropLast

theorem Confined.refl {workspace : Workspace} (h : workspace.IsPlain) (places : List Location) :
    Confined places workspace workspace :=
  ⟨h, rfl, fun _ => .inr (.inl rfl)⟩

theorem Confined.mono {places more : List Location} {before after : Workspace}
    (h : Confined places before after) (hmore : places ⊆ more) : Confined more before after := by
  refine ⟨h.plain, h.directory, ?_⟩
  intro location
  rcases h.entry location with hplace | hsame | ⟨hnone, hnew, place, hplace, hbelow⟩
  · exact .inl (hmore hplace)
  · exact .inr (.inl hsame)
  · exact .inr (.inr ⟨hnone, hnew, place, hmore hplace, hbelow⟩)

theorem Confined.trans {places : List Location} {first second third : Workspace}
    (h : Confined places first second) (hmore : Confined places second third) :
    Confined places first third := by
  refine ⟨hmore.plain, hmore.directory.trans h.directory, ?_⟩
  intro location
  rcases h.entry location with hplace | hsame | ⟨hnone, hnew, hway⟩
  · exact .inl hplace
  · rw [← hsame]
    exact hmore.entry location
  · rcases hmore.entry location with hplace | hkept | ⟨hgone, -⟩
    · exact .inl hplace
    · exact .inr (.inr ⟨hnone, hkept.trans hnew, hway⟩)
    · rw [hnew] at hgone
      cases hgone

/-- What is not a place, nor on the way to one, stays. -/
theorem Confined.kept {places : List Location} {before after : Workspace}
    (h : Confined places before after) {location : Location} (hapart : location ∉ places)
    (hclear : ∀ place ∈ places, ¬ location <+: place.dropLast) :
    after.disk.entry? location = before.disk.entry? location := by
  rcases h.entry location with hplace | hsame | ⟨-, -, place, hplace, hway⟩
  · exact absurd hplace hapart
  · exact hsame
  · exact absurd hway (hclear place hplace)

/-- A directory that is not a place stays one. -/
theorem Confined.directory_kept {places : List Location} {before after : Workspace}
    (h : Confined places before after) {location : Location} (hapart : location ∉ places)
    (hdirectory : before.disk.entry? location = some .directory) :
    after.disk.entry? location = some .directory := by
  rcases h.entry location with hplace | hsame | ⟨-, hmade, -⟩
  · exact absurd hplace hapart
  · exact hsame.trans hdirectory
  · exact hmade

theorem placesOf_of_plan (workspace : Workspace) {path : String} {steps : Plan}
    (hplan : plan path = .ok steps) :
    placesOf workspace path
      = [workspace.destination path, beside (workspace.destination path)] := by
  rw [plan] at hplan
  rw [placesOf]
  cases hname : fileName? path with
  | none =>
      rw [hname] at hplan
      cases hplan
  | some name => rfl

theorem placesOf_congr {before after : Workspace} (h : after.directory = before.directory)
    (path : String) : placesOf after path = placesOf before path := by
  rw [placesOf, placesOf, destination_congr h]

section

variable {workspace : Workspace} {path parent last : String} {steps : Plan}
  (h : workspace.IsPlain) (hplanned : Planned path steps parent last)
include h hplanned

theorem Planned.makeDirectories_entry (other : Location) :
    (workspace.makeDirectories steps.directory).2.disk.entry? other
        = workspace.disk.entry? other
      ∨ workspace.disk.entry? other = none
        ∧ (workspace.makeDirectories steps.directory).2.disk.entry? other = some .directory
        ∧ other <+: (workspace.destination path).dropLast := by
  rw [(destination_of_plan workspace hplanned.plan).2, hplanned.directory]
  split
  · rw [h.makeDirectories_dot]
    exact .inl rfl
  · exact h.makeDirectories_entry (hplanned.straight.parent hplanned.split) other

/-- A file that is replaced, or should have been, takes its two places. -/
theorem confined_replace (content : String) :
    Confined [workspace.destination path, beside (workspace.destination path)] workspace
      (replace workspace steps path content).2 := by
  obtain ⟨hplain, hdirectory⟩ := isPlain_replace h steps path content
  refine ⟨hplain, hdirectory, ?_⟩
  intro location
  by_cases hplace : location = workspace.destination path
  · exact .inl (by simp [hplace])
  by_cases hbeside : location = beside (workspace.destination path)
  · exact .inl (by simp [hbeside])
  -- elsewhere only the directories on the way have been made
  have hmade : (replace workspace steps path content).2.disk.entry? location
      = (workspace.makeDirectories steps.directory).2.disk.entry? location := by
    cases hmake : workspace.makeDirectories steps.directory with
    | mk result made =>
        cases result with
        | error fault => rw [replace, hmake]
        | ok done =>
            have hsame := (grows_of_makeDirectories h hmake).directory
            have hready := ready_of_makeDirectories hplanned h hmake
            rw [replace_eq hplanned hready content hmake]
            refine conclude_entry hplanned hready _ ?_ ?_
            · rwa [destination_congr hsame]
            · rwa [destination_congr hsame]
  rw [hmade]
  rcases hplanned.makeDirectories_entry h location with hsame | ⟨hnone, hnew, hbelow⟩
  · exact .inr (.inl hsame)
  · exact .inr (.inr ⟨hnone, hnew, _, List.mem_cons_self .., hbelow⟩)

end

/-- A file that is brought up to date, or should have been, takes its places. -/
theorem confined_update {workspace : Workspace} (h : workspace.IsPlain) {path : String}
    (hstraight : IsStraight path) (check : Bool) (content : String) :
    Confined (placesOf workspace path) workspace (update workspace check path content).2 := by
  rw [update]
  split
  · exact .refl h _
  · exact .refl h _
  · split
    · exact .refl h _
    · split
      · exact .refl h _
      · next steps hplan =>
          obtain ⟨parent, last, hplanned⟩ := exists_planned hstraight hplan
          rw [placesOf_of_plan workspace hplan]
          exact confined_replace h hplanned content

/-! ## What is looked at -/

/-- A second workspace in which more of the directories on the way to some places
    are there, while the places are the same. -/
structure Ahead (places : List Location) (first second : Workspace) : Prop where
  plain : first.IsPlain
  plain_second : second.IsPlain
  directory : second.directory = first.directory
  place : ∀ place ∈ places, second.disk.entry? place = first.disk.entry? place
  way : ∀ place ∈ places, ∀ location, location <+: place.dropLast →
    Trails (first.disk.entry? location) (second.disk.entry? location)

theorem Ahead.mono {places fewer : List Location} {first second : Workspace}
    (h : Ahead places first second) (hfewer : fewer ⊆ places) : Ahead fewer first second :=
  ⟨h.plain, h.plain_second, h.directory, fun place hplace => h.place place (hfewer hplace),
    fun place hplace => h.way place (hfewer hplace)⟩

/-- What happens at some of the places leaves the one workspace ahead of the
    other. -/
theorem Ahead.after {places : List Location} {first second : Workspace}
    (h : Ahead places first second) {α : Type} {a b : α × Workspace}
    (halike : Alike first second a b) (ha : Confined places first a.2)
    (hb : Confined places second b.2) : Ahead places a.2 b.2 := by
  refine ⟨ha.plain, hb.plain, hb.directory.trans (h.directory.trans ha.directory.symm), ?_, ?_⟩
  · intro place hplace
    exact halike.entry place (h.place place hplace)
  · intro place hplace location hlocation
    rcases h.way place hplace location hlocation with hsame | ⟨hnone, hnew⟩
    · exact .inl (halike.entry location hsame)
    -- the directory is still there, and may have been made in the first as well
    · have hapart : location ∉ places := by
        intro hmem
        rw [h.place location hmem, hnone] at hnew
        cases hnew
      have hkept := hb.directory_kept hapart hnew
      rcases ha.entry location with hmem | hsame | ⟨-, hmade, -⟩
      · exact absurd hmem hapart
      · exact .inr ⟨hsame.trans hnone, hkept⟩
      · exact .inl (hkept.trans hmade.symm)

section

variable {first second : Workspace} {path parent last : String} {steps : Plan}
  (hplanned : Planned path steps parent last) (h : Ahead (placesOf first path) first second)
include hplanned h

/-- The directory of a planned file is made to the same result. -/
theorem Planned.makeDirectories_alike : Alike first second
    (first.makeDirectories steps.directory) (second.makeDirectories steps.directory) := by
  have hway := h.way (first.destination path) (by simp [placesOf_of_plan first hplanned.plan])
  rw [(destination_of_plan first hplanned.plan).2, hplanned.directory] at hway
  rw [hplanned.directory]
  split
  · rw [h.plain.makeDirectories_dot, h.plain_second.makeDirectories_dot]
    exact .unchanged first second _
  · next hne =>
      rw [if_neg hne] at hway
      exact h.plain.makeDirectories_congr (hplanned.straight.parent hplanned.split) h.plain_second
        h.directory hway

theorem Planned.replace_congr (content : String) :
    Alike first second (replace first steps path content)
      (replace second steps path content) := by
  have hplaces := placesOf_of_plan first hplanned.plan
  have hdirectories := hplanned.makeDirectories_alike h
  obtain ⟨result, made, made', hfirst, hsecond⟩ := hdirectories.exists_eq
  rw [hfirst, hsecond] at hdirectories
  cases result with
  | error fault =>
      rw [replace, replace, hfirst, hsecond]
      exact ⟨rfl, hdirectories.entry⟩
  | ok done =>
      have hready := ready_of_makeDirectories hplanned h.plain hfirst
      have hready' := ready_of_makeDirectories hplanned h.plain_second hsecond
      have hgrows := grows_of_makeDirectories h.plain hfirst
      have hgrows' := grows_of_makeDirectories h.plain_second hsecond
      have hdirectory := hgrows'.directory.trans (h.directory.trans hgrows.directory.symm)
      have hsame := destination_congr hgrows.directory path
      rw [replace_eq hplanned hready content hfirst, replace_eq hplanned hready' content hsecond]
      refine hdirectories.trans (conclude_congr hplanned hready hready' hdirectory ?_ ?_ _)
      · rw [hsame]
        exact hdirectories.entry _ (h.place _ (by simp [hplaces]))
      · rw [hsame]
        exact hdirectories.entry _ (h.place _ (by simp [hplaces]))

end

section

variable {first second : Workspace} {path : String} (hstraight : IsStraight path)
  (h : Ahead (placesOf first path) first second)
include hstraight h

theorem held_congr (content : String) :
    DueFile.Held second ⟨path, content⟩ ↔ DueFile.Held first ⟨path, content⟩ := by
  have hsame := destination_congr h.directory path
  rw [held_iff h.plain, held_iff h.plain_second, hsame]
  dsimp only
  cases hname : fileName? path with
  | none =>
      -- such a path leads to a directory
      have hnames := hstraight.names_of_fileName hname
      have hdestination := destination_of_straight first hstraight
      rw [hnames, List.append_nil] at hdestination
      have hfirst : first.disk.entry? (first.start path) = some .directory := h.plain.start
      have hsecond : second.disk.entry? (second.start path) = some .directory :=
        h.plain_second.start
      rw [start_congr h.directory] at hsecond
      rw [hdestination]
      simp [hfirst, hsecond]
  | some name =>
      have hplace := h.place (first.destination path) (by simp [placesOf, hname])
      rw [hplace, and_comm, and_comm (a := first.Reaches path)]
      refine and_congr_right ?_
      rintro ⟨bytes, hfile, -⟩
      rw [h.plain.reaches_iff_of_file hstraight hfile,
        h.plain_second.reaches_iff_of_file hstraight (by rw [hsame, hplace]; exact hfile)]

/-- It makes no difference to a file if directories on the way to it are there
    already. -/
theorem update_congr (check : Bool) (content : String) :
    Alike first second (update first check path content) (update second check path content) := by
  have hheld := held_congr hstraight h content
  by_cases hfresh : DueFile.Held first ⟨path, content⟩
  · rw [update_of_held hfresh, update_of_held (hheld.mpr hfresh)]
    exact .unchanged first second _
  · rw [update, update, holds_of_not_held hfresh, holds_of_not_held (hheld.not.mpr hfresh)]
    dsimp only
    split
    · exact .unchanged first second _
    · split
      · exact .unchanged first second _
      · next steps hplan =>
          obtain ⟨parent, last, hplanned⟩ := exists_planned hstraight hplan
          exact hplanned.replace_congr h content

end

end GeneratedFile

end IconCompiler
