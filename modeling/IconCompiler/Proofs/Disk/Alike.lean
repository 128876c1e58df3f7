import IconCompiler.Proofs.Disk.Paving

/-! # Directories that are there already

    Making the directories on the way to a file comes to the same result where
    others have made some of them before (`IsPlain.makeDirectories_congr`). -/

namespace IconCompiler

open Disk IconCompiler.Path

namespace Workspace

/-- What is at a location, and what may be there once others have made their
    directories. -/
def Trails (before after : Option Entry) : Prop :=
  after = before ∨ before = none ∧ after = some .directory

/-- Two runs come to the same result, and end alike wherever they started alike. -/
structure Alike {α : Type} (first second : Workspace) (a b : α × Workspace) : Prop where
  result : b.1 = a.1
  entry : ∀ location, second.disk.entry? location = first.disk.entry? location →
    b.2.disk.entry? location = a.2.disk.entry? location

theorem Alike.unchanged {α : Type} (first second : Workspace) (result : α) :
    Alike first second (result, first) (result, second) :=
  ⟨rfl, fun _ => id⟩

/-- What is alike after one step is alike after the next. -/
theorem Alike.trans {α β : Type} {first second : Workspace} {a b : α × Workspace}
    {c d : β × Workspace} (h : Alike first second a b) (hnext : Alike a.2 b.2 c d) :
    Alike first second c d :=
  ⟨hnext.result, fun location hlocation => hnext.entry location (h.entry location hlocation)⟩

/-- Two runs that come to the same result, as one result with two workspaces. -/
theorem Alike.exists_eq {α : Type} {first second : Workspace} {a b : α × Workspace}
    (h : Alike first second a b) :
    ∃ (result : α) (next next' : Workspace), a = (result, next) ∧ b = (result, next') :=
  ⟨a.1, a.2, b.2, rfl, by rw [← h.result]⟩

/-- Others make directories, not files. -/
theorem Trails.file_iff {before after : Option Entry} (h : Trails before after)
    (content : ByteArray) : after = some (.file content) ↔ before = some (.file content) := by
  rcases h with hsame | ⟨hnone, hnew⟩
  · rw [hsame]
  · simp [hnone, hnew]

/-! ## One directory -/

section

variable {first second : Workspace} {location : Location} (hne : location ≠ [])
include hne

theorem Trails.made_in_both {other : Location}
    (h : Trails (first.disk.entry? other) (second.disk.entry? other)) :
    Trails ((first.perform (.makeDirectory location)).disk.entry? other)
      ((second.perform (.makeDirectory location)).disk.entry? other) := by
  rw [entry?_makeDirectory first hne, entry?_makeDirectory second hne]
  split
  · exact .inl rfl
  · exact h

theorem Alike.made_in_both {α : Type} {a b : α × Workspace}
    (h : Alike (first.perform (.makeDirectory location))
      (second.perform (.makeDirectory location)) a b) : Alike first second a b := by
  refine ⟨h.result, ?_⟩
  intro other hother
  refine h.entry other ?_
  rw [entry?_makeDirectory first hne, entry?_makeDirectory second hne, hother]

-- only the first one makes the directory
variable (hnone : first.disk.entry? location = none)
  (hnew : second.disk.entry? location = some .directory)
include hnew

theorem Trails.made_in_first {other : Location}
    (h : Trails (first.disk.entry? other) (second.disk.entry? other)) :
    Trails ((first.perform (.makeDirectory location)).disk.entry? other)
      (second.disk.entry? other) := by
  rw [entry?_makeDirectory first hne]
  split
  · next hhere => exact .inl (hhere ▸ hnew)
  · exact h

include hnone

theorem Alike.made_in_first {α : Type} {a b : α × Workspace}
    (h : Alike (first.perform (.makeDirectory location)) second a b) :
    Alike first second a b := by
  refine ⟨h.result, ?_⟩
  intro other hother
  refine h.entry other ?_
  rw [entry?_makeDirectory first hne, if_neg]
  · exact hother
  · rintro rfl
    rw [hnone, hnew] at hother
    cases hother

end

/-! ## All directories on a way -/

/-- A walk down makes the same directories where some of them are there already. -/
theorem pave_congr {first second : Workspace} {location : Location} {names : List String}
    (hway : ∀ front, front <+: names →
      Trails (first.disk.entry? (location ++ front)) (second.disk.entry? (location ++ front))) :
    Alike first second (first.pave location names) (second.pave location names) := by
  induction names generalizing first second location with
  | nil => exact .unchanged first second _
  | cons name rest ih =>
      have hdeeper : ∀ front, front <+: rest →
          Trails (first.disk.entry? (location ++ [name] ++ front))
            (second.disk.entry? (location ++ [name] ++ front)) := by
        intro front hfront
        rw [List.append_assoc]
        exact hway _ (List.cons_prefix_cons.mpr ⟨rfl, hfront⟩)
      have hne : location ++ [name] ≠ [] := by simp
      have hhere := hdeeper [] (List.nil_prefix ..)
      rw [List.append_nil] at hhere
      rw [pave, pave]
      by_cases hlong : maxNameLength < name.utf8ByteSize
      · rw [if_pos hlong, if_pos hlong]
        exact .unchanged first second _
      rw [if_neg hlong, if_neg hlong]
      rcases hhere with hsame | ⟨hnone, hnew⟩
      · rw [hsame]
        split
        · exact .made_in_both hne (ih fun front hfront => (hdeeper front hfront).made_in_both hne)
        · exact ih hdeeper
        · exact .unchanged first second _
      · rw [hnone, hnew]
        exact .made_in_first hne hnone hnew
          (ih fun front hfront => (hdeeper front hfront).made_in_first hne hnew)

/-- Directories that are there already make no difference. -/
theorem IsPlain.makeDirectories_congr {workspace other : Workspace} (h : workspace.IsPlain)
    {path : String} (hstraight : IsStraight path) (hother : other.IsPlain)
    (hdirectory : other.directory = workspace.directory)
    (hway : ∀ location, location <+: workspace.destination path →
      Trails (workspace.disk.entry? location) (other.disk.entry? location)) :
    Alike workspace other (workspace.makeDirectories path) (other.makeDirectories path) := by
  by_cases hnames : names path = []
  · rw [makeDirectories_of_root hstraight hnames, makeDirectories_of_root hstraight hnames]
    exact .unchanged workspace other _
  cases hroute : route path with
  | error fault =>
      rw [makeDirectories_of_route hstraight hnames hroute,
        makeDirectories_of_route hstraight hnames hroute]
      exact .unchanged workspace other _
  | ok found =>
      obtain rfl := route_eq_ok hroute
      have hfile : ∀ content, other.disk.entry? (other.destination path) = some (.file content)
          ↔ workspace.disk.entry? (workspace.destination path) = some (.file content) := by
        rw [destination_congr hdirectory]
        exact (hway (workspace.destination path) (List.prefix_refl _)).file_iff
      by_cases htaken : ∃ content, workspace.disk.entry? (workspace.destination path)
          = some (.file content)
      · obtain ⟨content, htaken⟩ := htaken
        rw [h.makeDirectories_of_file hstraight hroute htaken,
          hother.makeDirectories_of_file hstraight hroute ((hfile content).mpr htaken)]
        exact .unchanged workspace other _
      · rw [not_exists] at htaken
        rw [h.makeDirectories_eq hstraight hroute htaken,
          hother.makeDirectories_eq hstraight hroute fun content =>
            (hfile content).not.mpr (htaken content),
          start_congr hdirectory]
        refine pave_congr ?_
        intro front hfront
        refine hway _ ?_
        rw [destination_of_straight workspace hstraight]
        exact (List.prefix_append_right_inj _).mpr hfront

end Workspace

end IconCompiler
