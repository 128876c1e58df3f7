import IconCompiler.Proofs.Disk.Changes

/-! # What a disk goes through while it is changed

    Changes are made one after the other, and a file is not written all at once.
    A program that is stopped leaves a disk that is in one of the states it goes
    through (`Passes`).  While directories are made each place is either as it
    was or as it is going to be (`Adds.exists_paves`). -/

namespace IconCompiler

open Disk

namespace Disk

/-- The states that a disk goes through while changes are made to it, the first and
    the last one included. -/
inductive Passes : Disk → List Change → Disk → Prop
  | here (disk : Disk) (changes : List Change) : Passes disk changes disk
  /-- Only the beginning of the content has been written. -/
  | partly (disk : Disk) (location : Location) (part more : ByteArray) (rest : List Change) :
      Passes disk (.writeFile location (part ++ more) :: rest) (disk.put location (.file part))
  | beyond {disk state : Disk} {change : Change} {rest : List Change} :
      Passes (disk.apply change) rest state → Passes disk (change :: rest) state

section

variable {disk state : Disk} {changes more : List Change}

theorem passes_foldl (disk : Disk) (changes : List Change) :
    Passes disk changes (changes.foldl apply disk) := by
  induction changes generalizing disk with
  | nil => exact .here disk []
  | cons change rest ih => exact .beyond (ih (disk.apply change))

theorem passes_nil_iff : Passes disk [] state ↔ state = disk := by
  constructor
  · intro h
    cases h
    rfl
  · rintro rfl
    exact .here _ _

theorem Passes.of_append (h : Passes disk (changes ++ more) state) :
    Passes disk changes state ∨ Passes (changes.foldl apply disk) more state := by
  induction changes generalizing disk with
  | nil => exact .inr h
  | cons change rest ih =>
      rw [List.cons_append] at h
      cases h with
      | here => exact .inl (.here _ _)
      | partly => exact .inl (.partly ..)
      | beyond h => exact (ih h).imp .beyond id

/-- Until a file is written nothing changes but at its place. -/
theorem Passes.of_write {location : Location} (hne : location ≠ []) {content : ByteArray}
    (h : Passes disk (.writeFile location content :: more) state) :
    (∀ other, other ≠ location → state.entry? other = disk.entry? other)
      ∨ Passes (disk.put location (.file content)) more state := by
  cases h with
  | here => exact .inl fun _ _ => rfl
  | partly =>
      refine .inl fun other hother => ?_
      rw [entry?_put hne, if_neg hother]
  | beyond h => exact .inr h

end

end Disk

namespace Workspace

theorem disk_foldl_perform (changes : List Change) (workspace : Workspace) :
    (changes.foldl perform workspace).disk = changes.foldl apply workspace.disk := by
  induction changes generalizing workspace with
  | nil => rfl
  | cons change rest ih => exact ih (workspace.perform change)

/-- A place is as it was, or where nothing was there is a directory that one of some
    paths leads to. -/
def Spared (workspace : Workspace) (paths : List String) (disk : Disk) (location : Location) :
    Prop :=
  disk.entry? location = workspace.disk.entry? location
    ∨ workspace.disk.entry? location = none ∧ disk.entry? location = some .directory
      ∧ ∃ path ∈ paths, workspace.destination path = location

/-- Changes that do no more than to make directories at the destinations of some
    paths. -/
structure Paves (workspace : Workspace) (paths : List String) (changes : List Change)
    (made : Workspace) : Prop where
  grows : Grows workspace made
  eq : made = changes.foldl perform workspace
  spared : ∀ location, Spared workspace paths made.disk location
  between : ∀ {state : Disk}, Passes workspace.disk changes state → ∀ location,
    state.entry? location = workspace.disk.entry? location
      ∨ state.entry? location = made.disk.entry? location

theorem Paves.refl {workspace : Workspace} (h : workspace.IsPlain) (paths : List String) :
    Paves workspace paths [] workspace := by
  refine ⟨.refl h, rfl, fun location => .inl rfl, fun hpasses location => .inl ?_⟩
  rw [passes_nil_iff.mp hpasses]

section

variable {workspace made : Workspace} {paths : List String} {changes : List Change}
  {location : Location}

theorem Spared.congr {first second : Disk} (h : Spared workspace paths first location)
    (hsame : second.entry? location = first.entry? location) :
    Spared workspace paths second location := by
  rw [Spared, hsame]
  exact h

/-- A place that no directory is made at stays as it is. -/
theorem Spared.eq {state : Disk} (h : Spared workspace paths state location)
    (hapart : ∀ path ∈ paths, workspace.destination path ≠ location) :
    state.entry? location = workspace.disk.entry? location := by
  rcases h with hsame | ⟨-, -, path, hpath, hleads⟩
  · exact hsame
  · exact absurd hleads (hapart path hpath)

variable (h : Paves workspace paths changes made)
include h

theorem Paves.spared_of_passes {state : Disk} (hpasses : Passes workspace.disk changes state)
    (location : Location) : Spared workspace paths state location := by
  rcases h.between hpasses location with hbefore | hafter
  · exact .inl hbefore
  · exact (h.spared location).congr hafter

/-- A place where there is no directory in the end has been left alone. -/
theorem Paves.eq_of_passes {state : Disk} (hpasses : Passes workspace.disk changes state)
    (hkind : made.disk.entry? location ≠ some .directory) :
    state.entry? location = workspace.disk.entry? location := by
  rcases h.between hpasses location with hbefore | hafter
  · exact hbefore
  · rcases h.spared location with hsame | ⟨-, hdirectory, -⟩
    · exact hafter.trans hsame
    · exact absurd hdirectory hkind

theorem Paves.disk_eq : changes.foldl apply workspace.disk = made.disk := by
  rw [h.eq, disk_foldl_perform]

end

/-- One directory more, made before the others. -/
theorem Paves.cons {workspace made : Workspace} (h : workspace.IsPlain) {paths : List String}
    {path : String} (hpath : path ∈ paths) (hslot : workspace.IsSlot (workspace.destination path))
    (hnone : workspace.disk.entry? (workspace.destination path) = none) {changes : List Change}
    (hpaves : Paves (workspace.perform (.makeDirectory (workspace.destination path))) paths changes
      made) :
    Paves workspace paths (.makeDirectory (workspace.destination path) :: changes) made := by
  have hgrows := grows_of_perform h hslot hnone
  have hput := entry?_makeDirectory workspace hslot.ne_nil
  -- the new directory is still there in the end
  have hlast : made.disk.entry? (workspace.destination path) = some .directory := by
    refine hpaves.grows.kept ?_
    rw [hput, if_pos rfl]
  refine ⟨hgrows.trans hpaves.grows, hpaves.eq, ?_, ?_⟩
  · intro location
    by_cases hhere : location = workspace.destination path
    · rw [hhere]
      exact .inr ⟨hnone, hlast, path, hpath, rfl⟩
    · have hspared := hpaves.spared location
      rw [Spared, hput, if_neg hhere] at hspared
      exact hspared
  · intro state hpasses location
    cases hpasses with
    | here => exact .inl rfl
    | beyond hpasses =>
        have hbetween := hpaves.between hpasses location
        rw [hput] at hbetween
        split at hbetween
        · next hhere =>
            rw [hhere] at hbetween ⊢
            exact .inr (hbetween.elim (fun hnew => hnew.trans hlast.symm) id)
        · exact hbetween

/-- Directories that are added are made one by one. -/
theorem Adds.exists_paves {workspace next : Workspace} {paths : List String}
    (hadds : Adds paths workspace next) (h : workspace.IsPlain) :
    ∃ changes, Paves workspace paths changes next := by
  induction hadds with
  | refl workspace => exact ⟨[], .refl h paths⟩
  | step hpath hslot hnone _ ih =>
      obtain ⟨changes, hpaves⟩ := ih (grows_of_perform h hslot hnone).plain
      exact ⟨_, hpaves.cons h hpath hslot hnone⟩

end Workspace

end IconCompiler
