import IconCompiler.Proofs.Replacement

/-! # What writing several files leaves

    Files written one after the other leave files elsewhere as they are
    (`Provided.kept`), and what is in a file afterwards was there before or is
    the content of one of them (`Provided.found`).  A file in place stays in
    place unless a file with another digest is written to its destination, so
    all of them are in place together exactly if files with one destination have
    one digest (`Provided.held_iff`). -/

namespace IconCompiler

open Disk

/-- The digest of what a file has to hold. -/
def DueFile.digest (file : DueFile) : String :=
  Digest.hexDigest file.content.toUTF8

/-- A file in place stays in place while a file with the same digest or with
    another destination is written. -/
theorem DueFile.Held.after_update {workspace next : Workspace} (h : workspace.IsPlain)
    {file other : DueFile} {state : FileState}
    (hupdate : GeneratedFile.update workspace false other.path other.content = (.ok state, next))
    (hsame : workspace.destination file.path = workspace.destination other.path →
      file.digest = other.digest)
    (hbeside : workspace.destination file.path ≠ beside (workspace.destination other.path))
    (hheld : file.Held workspace) : file.Held next := by
  by_cases hne : workspace.destination file.path = workspace.destination other.path
  · rcases GeneratedFile.eq_or_replaced_of_update h hupdate with ⟨rfl, -⟩ | ⟨hreplaced, -⟩
    · exact hheld
    · obtain ⟨hreaches, -⟩ := (GeneratedFile.held_iff h).mp hheld
      refine (GeneratedFile.held_iff hreplaced.plain).mpr
        ⟨hreaches.mono hreplaced.directory hreplaced.directories, other.content.toUTF8, ?_,
          (hsame hne).symm⟩
      rw [Workspace.destination_congr hreplaced.directory, hne]
      exact hreplaced.written
  · exact GeneratedFile.held_after_update h hupdate hheld hne hbeside

section

variable {workspace final : Workspace} {files : List DueFile}
  (h : Provided workspace files final) (hplain : workspace.IsPlain)
include h hplain

theorem Provided.isPlain :
    final.IsPlain ∧ final.directory = workspace.directory
      ∧ ∀ location, workspace.disk.entry? location = some .directory →
        final.disk.entry? location = some .directory := by
  induction h with
  | nil workspace => exact ⟨hplain, rfl, fun _ => id⟩
  | cons hupdate _ ih =>
      obtain ⟨hnext, hdirectory, hdirectories⟩ := GeneratedFile.isPlain_of_update hplain hupdate
      obtain ⟨hlast, hdirectory', hdirectories'⟩ := ih hnext
      exact ⟨hlast, hdirectory'.trans hdirectory,
        fun location hlocation => hdirectories' location (hdirectories location hlocation)⟩

/-- Files at other places keep what they hold. -/
theorem Provided.kept {location : Location} {bytes : ByteArray}
    (hapart : ∀ file ∈ files, location ≠ workspace.destination file.path
      ∧ location ≠ beside (workspace.destination file.path))
    (hfile : workspace.disk.entry? location = some (.file bytes)) :
    final.disk.entry? location = some (.file bytes) := by
  induction h with
  | nil workspace => exact hfile
  | cons hupdate _ ih =>
      obtain ⟨hnext, hdirectory, -⟩ := GeneratedFile.isPlain_of_update hplain hupdate
      obtain ⟨⟨hne, hbeside⟩, hrest⟩ := List.forall_mem_cons.mp hapart
      refine ih hnext ?_ (GeneratedFile.kept_of_update hplain hupdate hne hbeside hfile)
      intro file hmem
      rw [Workspace.destination_congr hdirectory]
      exact hrest file hmem

/-- What is in a file was there before or has been written. -/
theorem Provided.found {location : Location} {bytes : ByteArray}
    (hfile : final.disk.entry? location = some (.file bytes)) :
    workspace.disk.entry? location = some (.file bytes)
      ∨ ∃ file ∈ files, bytes = file.content.toUTF8 := by
  induction h with
  | nil workspace => exact .inl hfile
  | @cons workspace next final file files state hupdate _ ih =>
      obtain ⟨hnext, -⟩ := GeneratedFile.isPlain_of_update hplain hupdate
      rcases ih hnext hfile with hmiddle | ⟨other, hmem, hbytes⟩
      · rcases GeneratedFile.eq_or_replaced_of_update hplain hupdate with ⟨rfl, -⟩ | ⟨hreplaced, -⟩
        · exact .inl hmiddle
        · by_cases hlocation : location = workspace.destination file.path
          · rw [hlocation, hreplaced.written] at hmiddle
            have hbytes := Entry.file.inj (Option.some.inj hmiddle)
            exact .inr ⟨file, List.mem_cons_self .., hbytes.symm⟩
          · exact .inl ((hreplaced.added hlocation hmiddle).resolve_right (by simp))
      · exact .inr ⟨other, List.mem_cons_of_mem _ hmem, hbytes⟩

/-- A file in place stays in place if those written to its destination have its
    digest. -/
theorem Provided.held_of_held {file : DueFile} (hheld : file.Held workspace)
    (hsame : ∀ other ∈ files, workspace.destination file.path = workspace.destination other.path →
      file.digest = other.digest)
    (hbeside : ∀ other ∈ files,
      workspace.destination file.path ≠ beside (workspace.destination other.path)) :
    file.Held final := by
  induction h with
  | nil workspace => exact hheld
  | cons hupdate _ ih =>
      obtain ⟨hnext, hdirectory, -⟩ := GeneratedFile.isPlain_of_update hplain hupdate
      obtain ⟨hdigest, hdigests⟩ := List.forall_mem_cons.mp hsame
      obtain ⟨hfree, hfrees⟩ := List.forall_mem_cons.mp hbeside
      refine ih hnext (hheld.after_update hplain hupdate hdigest hfree) ?_ ?_
      · intro other hother
        rw [Workspace.destination_congr hdirectory, Workspace.destination_congr hdirectory]
        exact hdigests other hother
      · intro other hother
        rw [Workspace.destination_congr hdirectory, Workspace.destination_congr hdirectory]
        exact hfrees other hother

/-- All files are in place together if files with one destination have one digest,
    and no other way. -/
theorem Provided.held_iff
    (hbeside : ∀ file ∈ files, ∀ other ∈ files,
      workspace.destination file.path ≠ beside (workspace.destination other.path)) :
    (∀ file ∈ files, file.Held final)
      ↔ ∀ file ∈ files, ∀ other ∈ files,
        workspace.destination file.path = workspace.destination other.path →
        file.digest = other.digest := by
  constructor
  · intro hheld file hfile other hother hsame
    obtain ⟨hlast, hdirectory, -⟩ := h.isPlain hplain
    obtain ⟨-, bytes, hentry, hdigest⟩ := (GeneratedFile.held_iff hlast).mp (hheld file hfile)
    obtain ⟨-, bytes', hentry', hdigest'⟩ := (GeneratedFile.held_iff hlast).mp (hheld other hother)
    rw [Workspace.destination_congr hdirectory] at hentry hentry'
    rw [hsame, hentry'] at hentry
    obtain rfl := Entry.file.inj (Option.some.inj hentry)
    exact hdigest.symm.trans hdigest'
  · intro hsame
    induction h with
    | nil workspace => simp
    | @cons workspace next final file files state hupdate hmore ih =>
        obtain ⟨hnext, hdirectory, -⟩ := GeneratedFile.isPlain_of_update hplain hupdate
        have hcongr := Workspace.destination_congr hdirectory
        refine List.forall_mem_cons.mpr ⟨?_, ih hnext ?_ ?_⟩
        -- the first file is in place once it is written
        · refine hmore.held_of_held hnext (GeneratedFile.held_of_update hplain hupdate) ?_ ?_
          · intro other hother
            rw [hcongr, hcongr]
            exact hsame file (List.mem_cons_self ..) other (List.mem_cons_of_mem _ hother)
          · intro other hother
            rw [hcongr, hcongr]
            exact hbeside file (List.mem_cons_self ..) other (List.mem_cons_of_mem _ hother)
        · intro other hother another hanother
          rw [hcongr, hcongr]
          exact hbeside other (List.mem_cons_of_mem _ hother) another
            (List.mem_cons_of_mem _ hanother)
        · intro other hother another hanother
          rw [hcongr, hcongr]
          exact hsame other (List.mem_cons_of_mem _ hother) another
            (List.mem_cons_of_mem _ hanother)

end

end IconCompiler
