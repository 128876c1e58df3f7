import IconCompiler.Proofs.Disk.Alike
import IconCompiler.Proofs.Replacement

/-! # How the writing of a generated file ends

    A file is planned for a path that ends in a name (`Planned`).  Once its
    directory is there (`Ready`), only what stands at the file's own location and
    beside it decides how the writing ends (`replace_eq`, `conclude_congr`), and
    nothing else is touched (`conclude_entry`). -/

namespace IconCompiler

open Disk Workspace IconCompiler.Path

namespace GeneratedFile

/-! ## Workspaces stay plain -/

theorem isPlain_settle {workspace : Workspace} (h : workspace.IsPlain) (steps : Plan)
    (path : String) :
    (settle workspace steps path).2.IsPlain
      ∧ (settle workspace steps path).2.directory = workspace.directory := by
  rw [settle]
  split
  · next renamed hrename =>
      obtain ⟨-, hsource, htarget, ⟨content, hfile⟩, hfree, hnext⟩ := rename_eq_ok h hrename
      rw [hnext]
      split
      · exact ⟨h, rfl⟩
      · exact ⟨h.move hsource.ne_nil hfile htarget hfree, rfl⟩
  · split
    · next removed hremove =>
        obtain ⟨hslot, hkind, rfl⟩ := removeFile_eq_ok h hremove
        exact ⟨h.remove hslot.ne_nil hkind, rfl⟩
    · exact ⟨h, rfl⟩

theorem isPlain_replace {workspace : Workspace} (h : workspace.IsPlain) (steps : Plan)
    (path content : String) :
    (replace workspace steps path content).2.IsPlain
      ∧ (replace workspace steps path content).2.directory = workspace.directory := by
  rw [replace]
  split
  · next fault made hmake =>
      have hgrows := grows_of_makeDirectories h hmake
      exact ⟨hgrows.plain, hgrows.directory⟩
  · next made hmake =>
      have hgrows := grows_of_makeDirectories h hmake
      split
      · exact ⟨hgrows.plain, hgrows.directory⟩
      · next written hwrite =>
          obtain ⟨-, hslot, hkind, rfl⟩ := write_eq_ok hgrows.plain hwrite
          obtain ⟨hplain, hdirectory⟩ := isPlain_settle
            (hgrows.plain.put hslot hkind content.toUTF8) steps path
          exact ⟨hplain, hdirectory.trans hgrows.directory⟩

/-- Whatever comes of a file, what is left is a tree of files and directories. -/
theorem isPlain_update {workspace : Workspace} (h : workspace.IsPlain) (check : Bool)
    (path content : String) :
    (update workspace check path content).2.IsPlain
      ∧ (update workspace check path content).2.directory = workspace.directory := by
  rw [update]
  split
  · exact ⟨h, rfl⟩
  · exact ⟨h, rfl⟩
  · split
    · exact ⟨h, rfl⟩
    · split
      · exact ⟨h, rfl⟩
      · exact isPlain_replace h _ path content

/-! ## Once the directory is there -/

/-- A straight path that a file is planned for. -/
structure Planned (path : String) (steps : Plan) (parent last : String) : Prop where
  plan : plan path = .ok steps
  straight : IsStraight path
  split : splitLast? path = some (parent, last)
  segment : IsSegment last
  directory : steps.directory = if parent = "" then "." else parent
  temporary : steps.temporary = join steps.directory ("." ++ last ++ ".tmp")

theorem exists_planned {path : String} {steps : Plan} (hstraight : IsStraight path)
    (hplan : plan path = .ok steps) : ∃ parent last, Planned path steps parent last := by
  obtain ⟨parent, last, hsplit, hlast, hdirectory, htemporary⟩ := plan_eq_ok hplan
  exact ⟨parent, last, hplan, hstraight, hsplit, hlast, hdirectory, htemporary⟩

/-- The way to the directory of a path, which is called `parent`, can be followed. -/
structure Ready (workspace : Workspace) (path parent : String) : Prop where
  plain : workspace.IsPlain
  admits : workspace.disk.Admits (workspace.start path) (names parent)
  directory : workspace.disk.entry? (followAll (workspace.start path) (names parent))
    = some .directory

section

variable {workspace : Workspace} {path parent last : String} {steps : Plan}

theorem Ready.mono {after : Workspace} (h : Ready workspace path parent) (hplain : after.IsPlain)
    (hdirectory : after.directory = workspace.directory)
    (hkept : ∀ location, workspace.disk.entry? location = some .directory →
      after.disk.entry? location = some .directory) : Ready after path parent := by
  refine ⟨hplain, ?_, ?_⟩
  · rw [start_congr hdirectory]
    exact h.admits.mono hkept
  · rw [start_congr hdirectory]
    exact hkept _ h.directory

variable (hplanned : Planned path steps parent last)
include hplanned

theorem Planned.directory_ne_empty : steps.directory ≠ "" := by
  rw [hplanned.directory]
  split
  · decide
  · assumption

theorem Planned.start_directory (workspace : Workspace) :
    workspace.start steps.directory = workspace.start path := by
  have hrooted := (splitLast?_spec hplanned.split).rooted
  rw [start, start, ← hrooted, hplanned.directory]
  split
  · next hempty => rw [hempty]; rfl
  · rfl

theorem Ready.slot_path (h : Ready workspace path parent) :
    workspace.slot path = slotIn path last (workspace.destination path) :=
  h.plain.slot_eq (hplanned.straight.names_of_splitLast hplanned.split) hplanned.segment h.admits
    h.directory

theorem Ready.slot_temporary (h : Ready workspace path parent) :
    workspace.slot steps.temporary
      = slotIn steps.temporary ("." ++ last ++ ".tmp") (workspace.destination steps.temporary) := by
  have hsegment := isSegment_temporary hplanned.segment.no_slash
  have hstart : workspace.start steps.temporary = workspace.start path := by
    rw [hplanned.temporary, start, isRooted_join hplanned.directory_ne_empty]
    exact hplanned.start_directory workspace
  have hnames : names steps.temporary = names steps.directory ++ ["." ++ last ++ ".tmp"] := by
    rw [hplanned.temporary, names_join]
    refine congrArg _ ?_
    rw [names, segments_of_no_slash hsegment.no_slash, List.filter_cons_of_pos]
    · rfl
    · simp
  refine h.plain.slot_eq hnames hsegment ?_ ?_ <;> rw [hstart, hplanned.directory]
  -- a dot stands for the directory where relative paths start
  · split
    · exact ⟨h.plain.start, by decide, trivial⟩
    · exact h.admits
  · split
    · exact h.plain.start
    · exact h.directory

/-- The directory of a planned file is there once it could be made. -/
theorem ready_of_makeDirectories (h : workspace.IsPlain) {made : Workspace}
    (hmake : workspace.makeDirectories steps.directory = (.ok (), made)) :
    Ready made path parent := by
  have hgrows := grows_of_makeDirectories h hmake
  have hsegments : ∀ name ∈ names parent, IsSegment name := fun name hname =>
    (hplanned.straight.parent hplanned.split).isSegment hname
  by_cases hempty : parent = ""
  · rw [hempty]
    exact ⟨hgrows.plain, trivial, hgrows.plain.start⟩
  · have hstart := hplanned.start_directory workspace
    rw [hplanned.directory, if_neg hempty] at hmake hstart
    have hfree := h.barrier?_makeDirectories (hplanned.straight.parent hplanned.split)
      (congrArg Prod.fst hmake)
    rw [hmake, hstart, ← start_congr hgrows.directory] at hfree
    obtain ⟨hadmits, hdirectory⟩ := admits_of_barrier hsegments hgrows.plain.start hfree
    refine ⟨hgrows.plain, hadmits, ?_⟩
    rw [followAll_of_segments hsegments]
    exact hdirectory

end

/-- Why a temporary file cannot be moved to a path, if so. -/
def refusal? (workspace : Workspace) (path : String) : Option Fault :=
  match workspace.slot path with
  | .error fault => some fault
  | .ok .dots => some .busy
  | .ok (.named location trailing) =>
    if trailing then some .notADirectory
    else if workspace.disk.entry? location = some .directory then some .isADirectory
    else none

/-- Where the writing of a file gets stuck once its directory is there: before or
    after its temporary file is written. -/
inductive Hitch where
  | early (fault : Fault)
  | late (fault : Fault)

/-- Where the writing of a file gets stuck, if anywhere. -/
def hitch? (workspace : Workspace) (steps : Plan) (path : String) : Option Hitch :=
  match workspace.slot steps.temporary with
  | .error fault => some (.early fault)
  | .ok .dots => some (.early .isADirectory)
  | .ok (.named location trailing) =>
    if trailing ∨ workspace.disk.entry? location = some .directory then
      some (.early .isADirectory)
    else (refusal? workspace path).map .late

/-- The workspace with the temporary file for a path written. -/
def staged (workspace : Workspace) (path : String) (content : ByteArray) : Workspace :=
  workspace.perform (.writeFile (beside (workspace.destination path)) content)

/-- The workspace with the temporary file removed again. -/
def cleared (workspace : Workspace) (path : String) (content : ByteArray) : Workspace :=
  (staged workspace path content).perform (.remove (beside (workspace.destination path)))

/-- The workspace with the temporary file moved into place. -/
def settled (workspace : Workspace) (path : String) (content : ByteArray) : Workspace :=
  (staged workspace path content).perform
    (.move (beside (workspace.destination path)) (workspace.destination path))

/-- How the writing of a file ends once its directory is there. -/
def conclude (workspace : Workspace) (steps : Plan) (path : String) (content : ByteArray) :
    Except Failure FileState × Workspace :=
  match hitch? workspace steps path with
  | some (.early fault) => (.error (.io steps.temporary fault), workspace)
  | some (.late fault) => (.error (.io path fault), cleared workspace path content)
  | none => (.ok .written, settled workspace path content)

/-- A temporary file can be written beside the place of a path. -/
structure Stageable (workspace : Workspace) (steps : Plan) (path : String) : Prop where
  plain : workspace.IsPlain
  ne_nil : workspace.destination path ≠ []
  slot : workspace.slot steps.temporary
    = .ok (.named (beside (workspace.destination path)) false)
  free : workspace.disk.entry? (beside (workspace.destination path)) ≠ some .directory

section

variable {workspace : Workspace} {path : String} {steps : Plan}
  (h : Stageable workspace steps path) (content : ByteArray)
include h

theorem Stageable.isSlot : workspace.IsSlot (beside (workspace.destination path)) :=
  (slot_eq_named h.plain h.slot).2.2

theorem Stageable.entry?_staged (other : Location) :
    (staged workspace path content).disk.entry? other
      = if other = beside (workspace.destination path) then some (.file content)
        else workspace.disk.entry? other :=
  entry?_put h.isSlot.ne_nil (.file content) other

theorem Stageable.isPlain_staged : (staged workspace path content).IsPlain :=
  h.plain.put h.isSlot h.free content

theorem Stageable.file_staged :
    (staged workspace path content).disk.entry? (beside (workspace.destination path))
      = some (.file content) := by
  rw [h.entry?_staged, if_pos rfl]

/-- With the temporary file written all directories are still there. -/
theorem Stageable.kept_staged {location : Location}
    (hlocation : workspace.disk.entry? location = some .directory) :
    (staged workspace path content).disk.entry? location = some .directory := by
  rw [h.entry?_staged, if_neg (by rintro rfl; exact h.free hlocation)]
  exact hlocation

theorem Stageable.slot_staged :
    (staged workspace path content).slot steps.temporary
      = .ok (.named (beside (workspace.destination path)) false) :=
  slot_mono h.plain (h.isPlain_staged content) rfl (fun _ => h.kept_staged content) h.slot

/-- The temporary file that was written can be removed again. -/
theorem Stageable.removeFile_staged :
    (staged workspace path content).removeFile steps.temporary
      = .ok (cleared workspace path content) :=
  removeFile_of_slot (h.slot_staged content) (h.file_staged content)

theorem Stageable.entry?_cleared (other : Location) :
    (cleared workspace path content).disk.entry? other
      = if other = beside (workspace.destination path) then none
        else workspace.disk.entry? other := by
  have hfile := h.file_staged content
  refine (entry?_remove (h.isPlain_staged content) h.isSlot.ne_nil (by simp [hfile]) other).trans ?_
  split
  · rfl
  · next hother => rw [h.entry?_staged, if_neg hother]

theorem Stageable.entry?_settled (other : Location) :
    (settled workspace path content).disk.entry? other
      = if other = workspace.destination path then some (.file content)
        else if other = beside (workspace.destination path) then none
        else workspace.disk.entry? other := by
  refine (entry?_move (h.isPlain_staged content) h.isSlot.ne_nil h.ne_nil
    (h.file_staged content) other).trans ?_
  split
  · rfl
  · split
    · rfl
    · next hother => rw [h.entry?_staged, if_neg hother]

end

/-- A temporary file that was written could be. -/
theorem stageable_of_write {workspace written : Workspace} (h : workspace.IsPlain) {path : String}
    {steps : Plan} (hplan : plan path = .ok steps) {content : ByteArray}
    (hwrite : workspace.write steps.temporary content = .ok written) :
    Stageable workspace steps path ∧ written = staged workspace path content := by
  have htemporary := (destination_of_plan workspace hplan).1
  have hslot := slot_of_write h hwrite
  obtain ⟨-, -, hfree, hwritten⟩ := write_eq_ok h hwrite
  rw [htemporary] at hslot hfree hwritten
  exact ⟨⟨h, ne_nil_of_plan workspace hplan, hslot, hfree⟩, hwritten⟩

section

variable {workspace : Workspace} {path parent last : String} {steps : Plan}
  (hplanned : Planned path steps parent last) (hready : Ready workspace path parent)
include hplanned hready

/-- With the temporary file written the path leads to the same place. -/
theorem slot_of_staged (hstage : Stageable workspace steps path) (content : ByteArray) :
    (staged workspace path content).slot path = workspace.slot path := by
  have hstill := hready.mono (hstage.isPlain_staged content) rfl
    fun _ => hstage.kept_staged content
  rw [hready.slot_path hplanned]
  exact hstill.slot_path hplanned

/-- A temporary file is moved into place or, if that is refused, removed. -/
theorem settle_eq (hstage : Stageable workspace steps path) (content : ByteArray) :
    settle (staged workspace path content) steps path
      = match refusal? workspace path with
        | some fault => (.error (.io path fault), cleared workspace path content)
        | none => (.ok .written, settled workspace path content) := by
  have hfile := hstage.file_staged content
  have hapart := beside_ne_self hstage.ne_nil
  have hsource := hstage.slot_staged content
  have htarget := slot_of_staged hplanned hready hstage content
  have hremove := hstage.removeFile_staged content
  have hpath := hready.slot_path hplanned
  rw [settle, refusal?]
  cases hfound : workspace.slot path with
  | error fault =>
      have hrename : (staged workspace path content).rename steps.temporary path
          = .error fault := by
        simp only [rename, hsource, htarget, hfound, bind, Except.bind]
      rw [hrename, hremove]
  | ok slot =>
      cases slot with
      | dots =>
          rw [hfound] at hpath
          exact absurd hpath.symm slotIn_ne_dots
      | named location trailing =>
          obtain rfl := location_of_slotIn (hpath.symm.trans hfound)
          have hsame : (staged workspace path content).disk.entry? (workspace.destination path)
              = workspace.disk.entry? (workspace.destination path) := by
            rw [hstage.entry?_staged, if_neg (Ne.symm hapart)]
          have hrename := rename_of_slots hsource (htarget.trans hfound) hapart hfile
          rw [hsame] at hrename
          rw [hrename, hremove]
          dsimp only
          by_cases htrailing : trailing = true
          · rw [if_pos htrailing, if_pos htrailing]
          rw [if_neg htrailing, if_neg htrailing]
          by_cases htaken : workspace.disk.entry? (workspace.destination path) = some .directory
          · rw [if_pos htaken, if_pos htaken]
          · rw [if_neg htaken, if_neg htaken]
            rfl

/-- Once the directory is there the steps of the writing come to this. -/
theorem replace_eq {before : Workspace} (content : String)
    (hmake : before.makeDirectories steps.directory = (.ok (), workspace)) :
    replace before steps path content = conclude workspace steps path content.toUTF8 := by
  have htemporary := (destination_of_plan workspace hplanned.plan).1
  rw [replace, hmake]
  dsimp only
  cases hslot : workspace.slot steps.temporary with
  | error fault =>
      have hwrite : workspace.write steps.temporary content.toUTF8 = .error fault := by
        simp only [write, hslot, bind, Except.bind]
      rw [hwrite, conclude, hitch?, hslot]
  | ok slot =>
      cases slot with
      | dots =>
          rw [hready.slot_temporary hplanned] at hslot
          exact absurd hslot slotIn_ne_dots
      | named location trailing =>
          obtain ⟨hlocation, -⟩ := slot_eq_named hready.plain hslot
          rw [htemporary] at hlocation
          subst hlocation
          cases trailing with
          | true =>
              have hwrite : workspace.write steps.temporary content.toUTF8
                  = .error .isADirectory := by
                simp only [write, hslot, bind, Except.bind]
              rw [hwrite, conclude, hitch?, hslot]
              dsimp only
              rw [if_pos (.inl rfl)]
          | false =>
              rw [write_of_slot hready.plain hslot, conclude, hitch?, hslot]
              dsimp only
              by_cases hkind : workspace.disk.entry? (beside (workspace.destination path))
                  = some .directory
              · rw [if_pos hkind, if_pos (.inr hkind)]
              · have hsettle := settle_eq hplanned hready
                  ⟨hready.plain, ne_nil_of_plan workspace hplanned.plan, hslot, hkind⟩ content.toUTF8
                rw [if_neg hkind, if_neg (by simpa using hkind)]
                refine hsettle.trans ?_
                cases refusal? workspace path <;> rfl

/-- A file that does not get stuck early has its temporary file written. -/
theorem stageable_of_hitch (hpast : ∀ fault, hitch? workspace steps path ≠ some (.early fault)) :
    Stageable workspace steps path := by
  have htemporary := (destination_of_plan workspace hplanned.plan).1
  rw [hitch?] at hpast
  split at hpast
  · exact absurd rfl (hpast _)
  · exact absurd rfl (hpast _)
  · next location trailing hslot =>
      obtain ⟨hlocation, -⟩ := slot_eq_named hready.plain hslot
      rw [htemporary] at hlocation
      subst hlocation
      split at hpast
      · exact absurd rfl (hpast _)
      · next hfree =>
          rw [not_or, Bool.not_eq_true] at hfree
          rw [hfree.1] at hslot
          exact ⟨hready.plain, ne_nil_of_plan workspace hplanned.plan, hslot, hfree.2⟩

/-- Nothing but the place of a file and the one beside it is touched. -/
theorem conclude_entry (content : ByteArray) {other : Location}
    (hother : other ≠ workspace.destination path)
    (hbeside : other ≠ beside (workspace.destination path)) :
    (conclude workspace steps path content).2.disk.entry? other
      = workspace.disk.entry? other := by
  rw [conclude]
  split
  · rfl
  · next fault hlate =>
      have hstage := stageable_of_hitch hplanned hready (by rw [hlate]; exact nofun)
      exact (hstage.entry?_cleared content other).trans (if_neg hbeside)
  · next hnone =>
      have hstage := stageable_of_hitch hplanned hready (by rw [hnone]; exact nofun)
      refine (hstage.entry?_settled content other).trans ?_
      rw [if_neg hother, if_neg hbeside]

section

variable {other : Workspace} (hsecond : Ready other path parent)
  (hdirectory : other.directory = workspace.directory)
  (hplace : other.disk.entry? (workspace.destination path)
    = workspace.disk.entry? (workspace.destination path))
  (hbeside : other.disk.entry? (beside (workspace.destination path))
    = workspace.disk.entry? (beside (workspace.destination path)))
include hsecond hdirectory hplace hbeside

theorem hitch?_congr : hitch? other steps path = hitch? workspace steps path := by
  have htemporary := (destination_of_plan workspace hplanned.plan).1
  have hslot : other.slot path = workspace.slot path := by
    rw [hsecond.slot_path hplanned, hready.slot_path hplanned, destination_congr hdirectory]
  have hslot' : other.slot steps.temporary = workspace.slot steps.temporary := by
    rw [hsecond.slot_temporary hplanned, hready.slot_temporary hplanned,
      destination_congr hdirectory]
  have hrefusal : refusal? other path = refusal? workspace path := by
    rw [refusal?, refusal?, hslot]
    split
    · rfl
    · rfl
    · next location trailing hfound =>
        rw [(slot_eq_named hready.plain hfound).1, hplace]
  rw [hitch?, hitch?, hslot', hrefusal]
  split
  · rfl
  · rfl
  · next location trailing hfound =>
      rw [(slot_eq_named hready.plain hfound).1, htemporary, hbeside]

/-- What is at the two places decides how the writing ends. -/
theorem conclude_congr (content : ByteArray) :
    Alike workspace other (conclude workspace steps path content)
      (conclude other steps path content) := by
  have hhitch := hitch?_congr hplanned hready hsecond hdirectory hplace hbeside
  have hsame := destination_congr hdirectory path
  rw [conclude, conclude, hhitch]
  split
  · exact .unchanged workspace other _
  · next fault hlate =>
      have hfirst := stageable_of_hitch hplanned hready (by rw [hlate]; exact nofun)
      have hlast := stageable_of_hitch hplanned hsecond (by rw [hhitch, hlate]; exact nofun)
      refine ⟨rfl, ?_⟩
      intro location hlocation
      rw [hfirst.entry?_cleared, hlast.entry?_cleared, hsame, hlocation]
  · next hnone =>
      have hfirst := stageable_of_hitch hplanned hready (by rw [hnone]; exact nofun)
      have hlast := stageable_of_hitch hplanned hsecond (by rw [hhitch, hnone]; exact nofun)
      refine ⟨rfl, ?_⟩
      intro location hlocation
      rw [hfirst.entry?_settled, hlast.entry?_settled, hsame, hlocation]

end

end

end GeneratedFile

end IconCompiler
