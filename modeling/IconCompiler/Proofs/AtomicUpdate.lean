import IconCompiler.Proofs.Disk.Passage
import IconCompiler.Proofs.Settling

/-! # Writing a generated file is atomic

    The writing of a file takes one of four courses (`course_update`), which say
    what changes it makes.  In all of them the content is written beside the place
    of the file, and only a file that is complete takes that place.  So whatever a
    disk goes through meanwhile, there is always the old content at the place or
    the new one (`update_atomic`).  A directory can come there, where nothing was:
    a path that goes up again may lead through its own place
    (`update_leaves_directory`). -/

namespace IconCompiler

open Disk Workspace IconCompiler.Path

namespace GeneratedFile

/-- The directory of a file and those it stands in, as the path spells them. -/
def wayTo (path : String) : List String :=
  match plan path with
  | .error _ => []
  | .ok steps => ancestors steps.directory

section

variable {path : String} {steps : Plan}

theorem wayTo_of_plan (h : plan path = .ok steps) : wayTo path = ancestors steps.directory := by
  rw [wayTo, h]

/-- No way to the directory of a file leads to the file. -/
theorem ne_destination_of_plan (workspace : Workspace) (h : plan path = .ok steps)
    {location : Location} (hbelow : location <+: workspace.destination steps.directory) :
    location ≠ workspace.destination path := by
  have hpositive := List.length_pos_of_ne_nil (ne_nil_of_plan workspace h)
  have hlength := hbelow.length_le
  rw [← (destination_of_plan workspace h).2, List.length_dropLast] at hlength
  rintro rfl
  omega

/-- Neither the directory of a file nor its temporary file goes by its path. -/
theorem ne_path_of_plan (h : plan path = .ok steps) :
    steps.directory ≠ path ∧ steps.temporary ≠ path := by
  let workspace := Workspace.ofDisk .empty []
  constructor
  · intro hsame
    refine ne_destination_of_plan workspace h (List.prefix_refl _) ?_
    rw [hsame]
  · intro hsame
    have htemporary := (destination_of_plan workspace h).1
    rw [hsame] at htemporary
    exact beside_ne_self (ne_nil_of_plan workspace h) htemporary.symm

/-- No directory is made at the place of a file whose path never goes up. -/
theorem destination_ne_of_mem_wayTo (workspace : Workspace) (hdown : ".." ∉ names path) :
    ∀ outer ∈ wayTo path, workspace.destination outer ≠ workspace.destination path := by
  intro outer houter
  rw [wayTo] at houter
  split at houter
  · exact absurd houter List.not_mem_nil
  · next steps hplan =>
      obtain ⟨parent, last, hsplit, -, hdirectory, -⟩ := plan_eq_ok hplan
      have hparent : ".." ∉ names steps.directory := by
        rw [hdirectory]
        split
        · decide
        · exact (destination_prefix_of_splitLast workspace hsplit hdown).1
      exact ne_destination_of_plan workspace hplan
        (destination_prefix_of_mem_ancestors workspace hparent houter)

end

/-! ## The courses that writing can take -/

/-- What changes the writing of a file makes, and what it comes to. -/
inductive Course (workspace : Workspace) (path content : String) :
    List Change → Except Failure FileState → Prop
  /-- The file holds its content already. -/
  | current : DueFile.Held workspace ⟨path, content⟩ →
      Course workspace path content [] (.ok .unchanged)
  /-- Not even the temporary file can be written. -/
  | halted {changes : List Change} {made : Workspace} {failure : Failure} :
      Paves workspace (wayTo path) changes made → (∀ fault, failure ≠ .io path fault) →
      Course workspace path content changes (.error failure)
  /-- The temporary file cannot be moved and is removed again. -/
  | undone {changes : List Change} {made : Workspace} {steps : Plan} {fault : Fault} :
      Paves workspace (wayTo path) changes made → Stageable made steps path →
      Course workspace path content
        (changes ++ [.writeFile (beside (made.destination path)) content.toUTF8,
          .remove (beside (made.destination path))])
        (.error (.io path fault))
  /-- The temporary file is moved to where there is no directory. -/
  | moved {changes : List Change} {made : Workspace} {steps : Plan} :
      Paves workspace (wayTo path) changes made → Stageable made steps path →
      made.disk.entry? (made.destination path) ≠ some .directory →
      Course workspace path content
        (changes ++ [.writeFile (beside (made.destination path)) content.toUTF8,
          .move (beside (made.destination path)) (made.destination path)])
        (.ok .written)

section

variable {workspace made : Workspace} {path : String} {steps : Plan} {changes : List Change}
  (hplan : plan path = .ok steps) (hpaves : Paves workspace (wayTo path) changes made)
include hplan hpaves

/-- Once its directory is made, a file that can be written beside its place is moved
    there or removed. -/
theorem course_settle (hstage : Stageable made steps path) (content : String) :
    ∃ more, (settle (staged made path content.toUTF8) steps path).2
        = more.foldl perform workspace
      ∧ Course workspace path content more
        (settle (staged made path content.toUTF8) steps path).1 := by
  have hfold (change : Change) :
      (staged made path content.toUTF8).perform change
        = (changes ++ [.writeFile (beside (made.destination path)) content.toUTF8, change]).foldl
          perform workspace := by
    rw [List.foldl_append, ← hpaves.eq]
    rfl
  rw [settle]
  cases hrename : (staged made path content.toUTF8).rename steps.temporary path with
  | error fault =>
      rw [hstage.removeFile_staged]
      exact ⟨_, hfold _, .undone hpaves hstage⟩
  | ok next =>
      have hsame : (staged made path content.toUTF8).destination path = made.destination path :=
        destination_congr rfl path
      have hapart := beside_ne_self hstage.ne_nil
      obtain ⟨-, -, -, -, hkind, hnext⟩ :=
        rename_eq_ok (hstage.isPlain_staged content.toUTF8) hrename
      rw [(destination_of_plan _ hplan).1, hsame, if_neg hapart] at hnext
      rw [hsame, hstage.entry?_staged, if_neg (Ne.symm hapart)] at hkind
      refine ⟨_, ?_, .moved hpaves hstage hkind⟩
      rw [hnext, hfold]

end

section

variable {workspace : Workspace} (h : workspace.IsPlain) {path : String}
include h

theorem course_replace {steps : Plan} (hplan : plan path = .ok steps) (content : String) :
    ∃ changes, (replace workspace steps path content).2 = changes.foldl perform workspace
      ∧ Course workspace path content changes (replace workspace steps path content).1 := by
  obtain ⟨hdirectory, htemporary⟩ := ne_path_of_plan hplan
  have hpaved {result : Except Fault Unit} {made : Workspace}
      (hmake : workspace.makeDirectories steps.directory = (result, made)) :
      ∃ changes, Paves workspace (wayTo path) changes made := by
    rw [wayTo_of_plan hplan]
    exact (adds_of_makeDirectories h hmake).exists_paves h
  rw [replace]
  split
  · next fault made hmake =>
      obtain ⟨changes, hpaves⟩ := hpaved hmake
      exact ⟨changes, hpaves.eq, .halted hpaves fun _ hsame => hdirectory (Failure.io.inj hsame).1⟩
  · next made hmake =>
      obtain ⟨changes, hpaves⟩ := hpaved hmake
      split
      · next fault hwrite =>
          exact ⟨changes, hpaves.eq,
            .halted hpaves fun _ hsame => htemporary (Failure.io.inj hsame).1⟩
      · next written hwrite =>
          obtain ⟨hstage, rfl⟩ := stageable_of_write hpaves.grows.plain hplan hwrite
          exact course_settle hplan hpaves hstage content

/-- Whatever comes of a file, it takes one of the courses. -/
theorem course_update (path content : String) :
    ∃ changes, (update workspace false path content).2 = changes.foldl perform workspace
      ∧ Course workspace path content changes (update workspace false path content).1 := by
  by_cases hheld : DueFile.Held workspace ⟨path, content⟩
  · rw [update_of_held hheld false]
    exact ⟨[], rfl, .current hheld⟩
  · rw [update, holds_of_not_held hheld]
    dsimp only
    rw [if_neg Bool.false_ne_true]
    split
    · next failure hplan =>
        refine ⟨[], rfl, .halted (.refl h _) ?_⟩
        rintro fault rfl
        rw [plan] at hplan
        split at hplan <;> cases hplan
    · next steps hplan => exact course_replace h hplan content

end

/-! ## What a disk goes through -/

section

variable {workspace made : Workspace} {path content : String} {steps : Plan}
  {changes : List Change} {state : Disk}

/-- Until the last change nothing but directories and the temporary file is new. -/
theorem passes_staged (hpaves : Paves workspace (wayTo path) changes made)
    (hstage : Stageable made steps path) {bytes : ByteArray} {last : Change}
    (hpasses : Passes workspace.disk
      (changes ++ [.writeFile (beside (made.destination path)) bytes, last]) state)
    (hlast : ∀ location more, last ≠ .writeFile location more) :
    Passes workspace.disk changes state
      ∨ (∀ other, other ≠ beside (made.destination path) →
        state.entry? other = made.disk.entry? other)
      ∨ state = ((staged made path bytes).perform last).disk := by
  rcases hpasses.of_append with hmaking | hpasses
  · exact .inl hmaking
  rw [hpaves.disk_eq] at hpasses
  rcases hpasses.of_write hstage.isSlot.ne_nil with hwriting | hpasses
  · exact .inr (.inl hwriting)
  cases hpasses with
  | here =>
      refine .inr (.inl fun other hother => ?_)
      exact (hstage.entry?_staged bytes other).trans (if_neg hother)
  | partly => exact absurd rfl (hlast _ _)
  | beyond hpasses => exact .inr (.inr (passes_nil_iff.mp hpasses))

/-- Apart from the temporary file, and the file itself if it is written, nothing but
    directories on the way is new at any time. -/
theorem Course.spared {result : Except Failure FileState}
    (hcourse : Course workspace path content changes result)
    (hpasses : Passes workspace.disk changes state) {location : Location}
    (hbeside : location ≠ beside (workspace.destination path))
    (hplace : result = .ok .written → location ≠ workspace.destination path) :
    Spared workspace (wayTo path) state location := by
  cases hcourse with
  | current => exact .inl (by rw [passes_nil_iff.mp hpasses])
  | halted hpaves => exact hpaves.spared_of_passes hpasses location
  | undone hpaves hstage =>
      rw [← destination_congr hpaves.grows.directory] at hbeside
      rcases passes_staged hpaves hstage hpasses (fun _ _ => nofun) with hmaking | hsame | rfl
      · exact hpaves.spared_of_passes hmaking location
      · exact (hpaves.spared location).congr (hsame location hbeside)
      · exact (hpaves.spared location).congr
          ((hstage.entry?_cleared content.toUTF8 location).trans (if_neg hbeside))
  | moved hpaves hstage =>
      have hplace := hplace rfl
      rw [← destination_congr hpaves.grows.directory] at hbeside hplace
      rcases passes_staged hpaves hstage hpasses (fun _ _ => nofun) with hmaking | hsame | rfl
      · exact hpaves.spared_of_passes hmaking location
      · exact (hpaves.spared location).congr (hsame location hbeside)
      · refine (hpaves.spared location).congr
          ((hstage.entry?_settled content.toUTF8 location).trans ?_)
        rw [if_neg hplace, if_neg hbeside]

/-- A file that gets written is there as before or complete at any time. -/
theorem Course.old_or_new (hcourse : Course workspace path content changes (.ok .written))
    (hpasses : Passes workspace.disk changes state) :
    state.entry? (workspace.destination path) = workspace.disk.entry? (workspace.destination path)
      ∨ state.entry? (workspace.destination path) = some (.file content.toUTF8) := by
  cases hcourse with
  | @moved changes made steps hpaves hstage hkind =>
      rw [← destination_congr hpaves.grows.directory]
      have hapart := beside_ne_self hstage.ne_nil
      have hmade : made.disk.entry? (made.destination path)
          = workspace.disk.entry? (made.destination path) := by
        have hall := hpaves.eq_of_passes (passes_foldl workspace.disk changes) hkind
        rwa [hpaves.disk_eq] at hall
      rcases passes_staged hpaves hstage hpasses (fun _ _ => nofun) with hmaking | hsame | rfl
      · exact .inl (hpaves.eq_of_passes hmaking hkind)
      · exact .inl ((hsame _ (Ne.symm hapart)).trans hmade)
      · exact .inr ((hstage.entry?_settled content.toUTF8 _).trans (if_pos rfl))

end

/-! ## The result -/

/-- What holds of the two places of a file, at any time and in the end, by what its
    writing comes to. -/
def Concluded (workspace : Workspace) (path content : String) (changes : List Change)
    (next : Workspace) : Except Failure FileState → Prop
  -- the file holds the content, and its temporary file is gone
  | .ok .written =>
      next.read path = .ok content.toUTF8
        ∧ next.disk.entry? (beside (workspace.destination path)) = none
        ∧ ∀ state, Passes workspace.disk changes state →
          state.entry? (workspace.destination path)
              = workspace.disk.entry? (workspace.destination path)
            ∨ state.entry? (workspace.destination path) = some (.file content.toUTF8)
  -- the path led to a file with the digest of the content
  | .ok .unchanged =>
      next = workspace ∧ changes = []
        ∧ ∃ bytes, workspace.read path = .ok bytes
          ∧ Digest.hexDigest bytes = Digest.hexDigest content.toUTF8
  | .ok .wouldChange => False
  -- the file is as it was, and its temporary file is gone if it could not be moved
  | .error failure =>
      (∀ state, Passes workspace.disk changes state →
          Spared workspace (wayTo path) state (workspace.destination path)
            ∧ (".." ∉ names path → state.entry? (workspace.destination path)
              = workspace.disk.entry? (workspace.destination path)))
        ∧ ((∃ fault, failure = .io path fault) →
          next.disk.entry? (beside (workspace.destination path)) = none)
        ∧ ((∀ fault, failure ≠ .io path fault) →
          Spared workspace (wayTo path) next.disk (beside (workspace.destination path)))

section

variable {workspace : Workspace} {path content : String} {changes : List Change}
  {failure : Failure} (hcourse : Course workspace path content changes (.error failure))
include hcourse

theorem Course.spared_place {state : Disk} (hpasses : Passes workspace.disk changes state) :
    Spared workspace (wayTo path) state (workspace.destination path) := by
  have hsame := hcourse
  cases hsame with
  | halted hpaves => exact hpaves.spared_of_passes hpasses _
  | undone hpaves hstage =>
      refine hcourse.spared hpasses ?_ nofun
      rw [← destination_congr hpaves.grows.directory]
      exact Ne.symm (beside_ne_self hstage.ne_nil)

theorem Course.concluded_of_error :
    Concluded workspace path content changes (changes.foldl perform workspace)
      (.error failure) := by
  refine ⟨fun state hpasses => ?_, ?_⟩
  · have hspared := hcourse.spared_place hpasses
    exact ⟨hspared, fun hdown => hspared.eq (destination_ne_of_mem_wayTo workspace hdown)⟩
  cases hcourse with
  | halted hpaves hother =>
      refine ⟨fun hmoved => ?_, fun _ => ?_⟩
      · obtain ⟨fault, hfailure⟩ := hmoved
        exact absurd hfailure (hother fault)
      · rw [← hpaves.eq]
        exact hpaves.spared _
  | @undone changes made steps fault hpaves hstage =>
      refine ⟨fun _ => ?_, fun hother => absurd rfl (hother fault)⟩
      rw [List.foldl_append, ← hpaves.eq, ← destination_congr hpaves.grows.directory]
      exact (hstage.entry?_cleared content.toUTF8 _).trans (if_pos rfl)

end

/-- Writing a file in a tree of files and directories is atomic: however it ends, and
    whatever the disk has gone through by then, all places but those of the file and
    of its temporary file are spared, and what is at these is told by how it ends. -/
theorem update_atomic {workspace : Workspace} (h : workspace.IsPlain) (path content : String) :
    ∃ result next changes, update workspace false path content = (result, next)
      ∧ next = changes.foldl perform workspace
      ∧ (∀ state, Passes workspace.disk changes state →
        ∀ location, location ≠ workspace.destination path →
          location ≠ beside (workspace.destination path) →
          Spared workspace (wayTo path) state location)
      ∧ Concluded workspace path content changes next result := by
  obtain ⟨changes, hnext, hcourse⟩ := course_update h path content
  cases hupdate : update workspace false path content with
  | mk result next =>
      rw [hupdate] at hnext hcourse
      dsimp only at hnext hcourse
      refine ⟨result, next, changes, rfl, hnext, ?_, ?_⟩
      · intro state hpasses location hplace hbeside
        exact hcourse.spared hpasses hbeside fun _ => hplace
      cases result with
      | error failure =>
          rw [hnext]
          exact hcourse.concluded_of_error
      | ok status =>
          cases status with
          | written =>
              obtain ⟨hreplaced, hreaches⟩ := replaced_of_update h hupdate
              refine ⟨(read_eq_ok_iff hreplaced.plain).mpr ⟨hreaches, ?_⟩, hreplaced.cleared,
                fun state hpasses => hcourse.old_or_new hpasses⟩
              rw [destination_congr hreplaced.directory]
              exact hreplaced.written
          | unchanged =>
              cases hcourse with
              | current hheld =>
                  obtain ⟨hreaches, bytes, hfile, hdigest⟩ := (held_iff h).mp hheld
                  exact ⟨hnext, rfl, bytes, (read_eq_ok_iff h).mpr ⟨hreaches, hfile⟩, hdigest⟩
          | wouldChange => nomatch hcourse

/-- A disk with a file, and with a temporary file that was left behind. -/
def litteredDisk : Disk :=
  (Disk.put .empty ["notes"] (.file "kept".toUTF8)).put [".icons.rs.tmp"] (.file "torn".toUTF8)

theorem isPlain_litteredDisk : litteredDisk.IsPlain := by
  have hname : ∀ name ∈ ["notes", ".icons.rs.tmp"], IsName name := by
    intro name hname
    simp only [List.mem_cons, List.not_mem_nil, or_false] at hname
    rcases hname with rfl | rfl <;> refine ⟨⟨?_, ?_, ?_, ?_⟩, ?_, ?_⟩ <;> decide
  have hnotes : (Disk.put .empty ([] ++ ["notes"]) (.file "kept".toUTF8)).IsPlain :=
    isPlain_empty.put (hname "notes" (by simp)) rfl (by decide) (fun _ => by simp)
  have hboth : ((Disk.put .empty ["notes"] (.file "kept".toUTF8)).put ([] ++ [".icons.rs.tmp"])
      (.file "torn".toUTF8)).IsPlain :=
    hnotes.put (hname ".icons.rs.tmp" (by simp)) rfl (by decide) (fun _ => by simp)
  exact hboth

/-- The temporary file that was left behind is used and is gone in the end, and the
    other file is there at any time. -/
theorem update_atomic_littered :
    ∃ (workspace next : Workspace) (changes : List Change),
      workspace = .ofDisk litteredDisk [] ∧ workspace.IsPlain
        ∧ update workspace false "icons.rs" "new" = (.ok .written, next)
        ∧ next = changes.foldl perform workspace ∧ next.read "icons.rs" = .ok "new".toUTF8
        ∧ next.disk.entry? [".icons.rs.tmp"] = none
        ∧ ∀ state, Passes workspace.disk changes state →
          state.entry? ["notes"] = some (.file "kept".toUTF8)
            ∧ (state.entry? ["icons.rs"] = none
              ∨ state.entry? ["icons.rs"] = some (.file "new".toUTF8)) := by
  obtain ⟨workspace, hworkspace⟩ : ∃ workspace : Workspace, workspace = .ofDisk litteredDisk [] :=
    ⟨_, rfl⟩
  have hplain : workspace.IsPlain := by
    rw [hworkspace]
    exact ⟨isPlain_litteredDisk, rfl⟩
  have hwritten : (update workspace false "icons.rs" "new").1 = .ok .written := by
    rw [hworkspace]
    decide +kernel
  have hplace : workspace.destination "icons.rs" = ["icons.rs"] := by
    rw [hworkspace]
    decide
  obtain ⟨result, next, changes, hupdate, hnext, hspared, hconcluded⟩ :=
    update_atomic hplain "icons.rs" "new"
  rw [hupdate] at hwritten
  dsimp only at hwritten
  rw [hwritten] at hupdate hconcluded
  obtain ⟨hread, hcleared, hpassing⟩ := hconcluded
  rw [hplace] at hspared hcleared hpassing
  refine ⟨workspace, next, changes, hworkspace, hplain, hupdate, hnext, hread, hcleared, ?_⟩
  intro state hpasses
  have hnotes : workspace.disk.entry? ["notes"] = some (.file "kept".toUTF8) := by
    rw [hworkspace]
    decide
  have hnone : workspace.disk.entry? ["icons.rs"] = none := by
    rw [hworkspace]
    decide
  constructor
  · rcases hspared state hpasses ["notes"] (by decide) (by decide) with hsame | ⟨hfree, -⟩
    · exact hsame.trans hnotes
    · rw [hnotes] at hfree
      cases hfree
  · rw [← hnone]
    exact hpassing state hpasses

/-- A path that leads through its own place: the directory that is made on the way
    stays there when the temporary file cannot be moved to it. -/
theorem update_leaves_directory :
    ∃ workspace : Workspace, workspace = .ofDisk .empty [] ∧ workspace.IsPlain
      ∧ (update workspace false "b/../b" "x").1 = .error (.io "b/../b" .isADirectory)
      ∧ workspace.disk.entry? (workspace.destination "b/../b") = none
      ∧ (update workspace false "b/../b" "x").2.disk.entry? (workspace.destination "b/../b")
        = some .directory :=
  ⟨_, rfl, ⟨isPlain_empty, rfl⟩, by decide +kernel, by decide, by decide +kernel⟩

end GeneratedFile

end IconCompiler
