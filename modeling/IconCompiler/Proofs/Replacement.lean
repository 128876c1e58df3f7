import IconCompiler.Proofs.Disk.Changes
import IconCompiler.Proofs.GeneratedFile

/-! # What writing a generated file does

    The temporary file stands beside the file it is meant for (`beside`).  So in
    a workspace without links a file that is written replaces what was at its
    destination, its temporary file is gone afterwards, and apart from missing
    directories nothing else changes (`replaced_of_update`). -/

namespace IconCompiler

open Disk Workspace

/-- Where the temporary file for a file at a location stands. -/
def beside (location : Location) : Location :=
  location.dropLast ++ location.getLast?.toList.map fun name => "." ++ name ++ ".tmp"

theorem beside_append (outer : Location) (name : String) :
    beside (outer ++ [name]) = outer ++ ["." ++ name ++ ".tmp"] := by
  rw [beside, List.dropLast_concat, List.getLast?_append]
  rfl

theorem beside_ne_self {location : Location} (h : location ≠ []) : beside location ≠ location := by
  obtain ⟨outer, name, rfl⟩ := (List.eq_nil_or_concat location).resolve_left h
  rw [List.concat_eq_append, beside_append]
  intro heq
  have hlength := congrArg (fun names : Location => (names.map String.length).sum) heq
  simp only [List.map_append, List.map_cons, List.map_nil, List.sum_append, List.sum_cons,
    List.sum_nil, String.length_append, show ".".length = 1 from rfl,
    show ".tmp".length = 4 from rfl] at hlength
  omega

theorem isSegment_temporary {name : String} (h : '/' ∉ name.toList) :
    IsSegment ("." ++ name ++ ".tmp") := by
  have hlength : ("." ++ name ++ ".tmp").length = name.length + 5 := by
    rw [String.length_append, String.length_append, show ".".length = 1 from rfl,
      show ".tmp".length = 4 from rfl]
    omega
  refine ⟨?_, ?_, ?_, ?_⟩
  · rintro heq
    rw [heq, show "".length = 0 from rfl] at hlength
    omega
  · intro heq
    rw [heq, show ".".length = 1 from rfl] at hlength
    omega
  · intro heq
    rw [heq, show "..".length = 2 from rfl] at hlength
    omega
  · rw [String.toList_append, String.toList_append, List.mem_append, List.mem_append, not_or,
      not_or]
    exact ⟨⟨by decide, h⟩, by decide⟩

namespace GeneratedFile

/-- Files are planned for paths that end in a name. -/
theorem plan_eq_ok {path : String} {steps : Plan} (h : plan path = .ok steps) :
    ∃ parent last, Path.splitLast? path = some (parent, last) ∧ IsSegment last
      ∧ steps.directory = (if parent = "" then "." else parent)
      ∧ steps.temporary = Path.join steps.directory ("." ++ last ++ ".tmp") := by
  rw [plan] at h
  split at h
  · cases h
  · next name hname =>
      obtain rfl := Except.ok.inj h
      rw [Path.fileName?] at hname
      split at hname
      · cases hname
      · next parent last hsplit =>
          split at hname
          · cases hname
          · next hproper =>
              obtain rfl := Option.some.inj hname
              rw [not_or] at hproper
              have hsplits := Path.splitLast?_spec hsplit
              refine ⟨parent, last, hsplit,
                ⟨hsplits.nonempty, hproper.1, hproper.2, hsplits.no_slash⟩, ?_, rfl⟩
              rw [Path.parent?, hsplit]
              rfl

theorem ne_nil_of_plan (workspace : Workspace) {path : String} {steps : Plan}
    (h : plan path = .ok steps) : workspace.destination path ≠ [] := by
  obtain ⟨parent, last, hsplit, hlast, -⟩ := plan_eq_ok h
  rw [destination_of_splitLast workspace hsplit, follow_of_isSegment hlast]
  simp

/-- The temporary file of a plan stands beside the file it is meant for, in the
    directory of the plan. -/
theorem destination_of_plan (workspace : Workspace) {path : String} {steps : Plan}
    (h : plan path = .ok steps) :
    workspace.destination steps.temporary = beside (workspace.destination path)
      ∧ (workspace.destination path).dropLast = workspace.destination steps.directory := by
  obtain ⟨parent, last, hsplit, hlast, hdirectory, htemporary⟩ := plan_eq_ok h
  have hne : steps.directory ≠ "" := by
    rw [hdirectory]
    split
    · decide
    · assumption
  have hdestination : workspace.destination path
      = workspace.destination steps.directory ++ [last] := by
    rw [destination_of_splitLast workspace hsplit, ← hdirectory, follow_of_isSegment hlast]
  rw [htemporary, destination_join workspace hne (isSegment_temporary hlast.no_slash),
    hdestination, beside_append, List.dropLast_concat]
  exact ⟨rfl, rfl⟩

/-- A file holds its content if its path leads to a file with the same digest. -/
theorem held_iff {workspace : Workspace} (h : workspace.IsPlain) {file : DueFile} :
    file.Held workspace
      ↔ workspace.Reaches file.path
        ∧ ∃ bytes, workspace.disk.entry? (workspace.destination file.path) = some (.file bytes)
          ∧ Digest.hexDigest bytes = Digest.hexDigest file.content.toUTF8 := by
  rw [DueFile.Held, holds]
  constructor
  · intro hheld
    split at hheld
    · next hfile =>
        obtain ⟨hreaches, bytes, hentry⟩ := (isFile_iff h).mp hfile
        rw [(read_eq_ok_iff h).mpr ⟨hreaches, hentry⟩] at hheld
        exact ⟨hreaches, bytes, hentry, by simpa using hheld⟩
    · exact absurd (Except.ok.inj hheld) Bool.false_ne_true
  · rintro ⟨hreaches, bytes, hentry, hdigest⟩
    rw [if_pos ((isFile_iff h).mpr ⟨hreaches, bytes, hentry⟩),
      (read_eq_ok_iff h).mpr ⟨hreaches, hentry⟩]
    simp [hdigest]

/-- What is at a location has been replaced by a file. -/
structure Replaced (before after : Workspace) (location : Location) (content : ByteArray) :
    Prop where
  plain : after.IsPlain
  directory : after.directory = before.directory
  written : after.disk.entry? location = some (.file content)
  cleared : after.disk.entry? (beside location) = none
  directories : ∀ other, before.disk.entry? other = some .directory →
    after.disk.entry? other = some .directory
  kept : ∀ {other bytes}, other ≠ location → other ≠ beside location →
    before.disk.entry? other = some (.file bytes) → after.disk.entry? other = some (.file bytes)
  added : ∀ {other entry}, other ≠ location → after.disk.entry? other = some entry →
    before.disk.entry? other = some entry ∨ entry = .directory

theorem Replaced.of_grows {before made after : Workspace} {location : Location}
    {content : ByteArray} (hgrows : Grows before made)
    (h : Replaced made after location content) : Replaced before after location content := by
  refine ⟨h.plain, h.directory.trans hgrows.directory, h.written, h.cleared,
    fun other hother => h.directories other (hgrows.kept hother),
    fun hne hbeside hother => h.kept hne hbeside (hgrows.kept hother), ?_⟩
  intro other entry hne hother
  rcases h.added hne hother with hmade | hnew
  · exact hgrows.added hmade
  · exact .inr hnew

/-- A file that is written beside a location and moved there replaces what was at
    the location. -/
theorem replaced_of_move {workspace written : Workspace} {location : Location}
    {content : ByteArray} (h : workspace.IsPlain) (hbeside : workspace.IsSlot (beside location))
    (hfree : workspace.disk.entry? (beside location) ≠ some .directory)
    (hwritten : written = workspace.perform (.writeFile (beside location) content))
    (hslot : written.IsSlot location) (hkind : written.disk.entry? location ≠ some .directory) :
    Replaced workspace (written.perform (.move (beside location) location)) location content := by
  have hplain : written.IsPlain := by
    rw [hwritten]
    exact h.put hbeside hfree content
  have hput : ∀ other, written.disk.entry? other
      = if other = beside location then some (.file content) else workspace.disk.entry? other := by
    rw [hwritten]
    exact entry?_put hbeside.ne_nil (.file content)
  have hfile : written.disk.entry? (beside location) = some (.file content) := by
    rw [hput, if_pos rfl]
  have hentry := entry?_move hplain hbeside.ne_nil hslot.ne_nil hfile
  have hapart : beside location ≠ location := beside_ne_self hslot.ne_nil
  refine ⟨hplain.move hbeside.ne_nil hfile hslot hkind, by rw [hwritten]; rfl, ?_, ?_, ?_, ?_, ?_⟩
  · rw [hentry, if_pos rfl]
  · rw [hentry, if_neg hapart, if_pos rfl]
  · intro other hother
    have hne : other ≠ beside location := by
      rintro rfl
      exact hfree hother
    have hkept : written.disk.entry? other = some .directory := by
      rw [hput, if_neg hne]
      exact hother
    rw [hentry, if_neg (by rintro rfl; exact hkind hkept), if_neg hne]
    exact hkept
  · intro other bytes hne hnotBeside hother
    rw [hentry, if_neg hne, if_neg hnotBeside, hput, if_neg hnotBeside]
    exact hother
  · intro other entry hne hother
    rw [hentry, if_neg hne] at hother
    split at hother
    · cases hother
    · next hnotBeside =>
        rw [hput, if_neg hnotBeside] at hother
        exact .inl hother

/-- A file that is written replaces what was at its destination. -/
theorem replaced_of_update {workspace next : Workspace} (h : workspace.IsPlain)
    {path content : String} (hupdate : update workspace false path content = (.ok .written, next)) :
    Replaced workspace next (workspace.destination path) content.toUTF8
      ∧ next.Reaches path := by
  rcases update_eq_ok hupdate with ⟨hstate, -⟩ | ⟨-, -, steps, hplan, hreplace⟩
  · cases hstate
  obtain ⟨-, made, written, hmake, hwrite, hrename⟩ := replace_eq_ok hreplace
  have hgrows := grows_of_makeDirectories h hmake
  have htemporary : made.destination steps.temporary = beside (workspace.destination path) :=
    (destination_congr hgrows.directory _).trans (destination_of_plan workspace hplan).1
  obtain ⟨-, hbeside, hfree, hwritten⟩ := write_eq_ok hgrows.plain hwrite
  rw [htemporary] at hbeside hfree hwritten
  have hplain : written.IsPlain := by
    rw [hwritten]
    exact hgrows.plain.put hbeside hfree content.toUTF8
  have hsame : written.directory = made.directory := by rw [hwritten]; rfl
  obtain ⟨hreaches, -, hslot, -, hkind, hnext⟩ := rename_eq_ok hplain hrename
  rw [destination_congr hsame, htemporary, destination_congr (hsame.trans hgrows.directory)]
    at hnext
  rw [destination_congr (hsame.trans hgrows.directory)] at hslot hkind
  rw [if_neg (beside_ne_self hslot.ne_nil)] at hnext
  have hmoved := replaced_of_move hgrows.plain hbeside hfree hwritten hslot hkind
  rw [← hnext] at hmoved
  have hreplaced := hmoved.of_grows hgrows
  refine ⟨hreplaced, hreaches.mono (hreplaced.directory.trans (hsame.trans hgrows.directory).symm)
    ?_⟩
  intro other hother
  rw [hwritten] at hother
  have hput := (entry?_put hbeside.ne_nil _ _).symm.trans hother
  split at hput
  · cases hput
  · exact hmoved.directories other hput

section

variable {workspace next : Workspace} {path content : String} {state : FileState}
  (h : workspace.IsPlain)
  (hupdate : update workspace false path content = (.ok state, next))
include h hupdate

/-- A file that could be brought up to date was so already or has been replaced. -/
theorem eq_or_replaced_of_update :
    (next = workspace ∧ DueFile.Held workspace ⟨path, content⟩)
      ∨ (Replaced workspace next (workspace.destination path) content.toUTF8
        ∧ next.Reaches path) := by
  rcases update_eq_ok hupdate with ⟨-, hheld, hnext⟩ | ⟨rfl, -⟩
  · exact .inl ⟨hnext, hheld⟩
  · exact .inr (replaced_of_update h hupdate)

theorem isPlain_of_update :
    next.IsPlain ∧ next.directory = workspace.directory
      ∧ ∀ other, workspace.disk.entry? other = some .directory →
        next.disk.entry? other = some .directory := by
  rcases eq_or_replaced_of_update h hupdate with ⟨rfl, -⟩ | ⟨hreplaced, -⟩
  · exact ⟨h, rfl, fun _ => id⟩
  · exact ⟨hreplaced.plain, hreplaced.directory, hreplaced.directories⟩

theorem held_of_update : DueFile.Held next ⟨path, content⟩ := by
  rcases eq_or_replaced_of_update h hupdate with ⟨rfl, hheld⟩ | ⟨hreplaced, hreaches⟩
  · exact hheld
  · refine (held_iff hreplaced.plain).mpr ⟨hreaches, content.toUTF8, ?_, rfl⟩
    rw [destination_congr hreplaced.directory]
    exact hreplaced.written

/-- Files elsewhere keep what they hold. -/
theorem kept_of_update {other : Location} {bytes : ByteArray}
    (hne : other ≠ workspace.destination path)
    (hbeside : other ≠ beside (workspace.destination path))
    (hfile : workspace.disk.entry? other = some (.file bytes)) :
    next.disk.entry? other = some (.file bytes) := by
  rcases eq_or_replaced_of_update h hupdate with ⟨rfl, -⟩ | ⟨hreplaced, -⟩
  · exact hfile
  · exact hreplaced.kept hne hbeside hfile

theorem held_after_update {file : DueFile} (hheld : file.Held workspace)
    (hne : workspace.destination file.path ≠ workspace.destination path)
    (hbeside : workspace.destination file.path ≠ beside (workspace.destination path)) :
    file.Held next := by
  obtain ⟨hplain, hdirectory, hdirectories⟩ := isPlain_of_update h hupdate
  obtain ⟨hreaches, bytes, hfile, hdigest⟩ := (held_iff h).mp hheld
  refine (held_iff hplain).mpr ⟨hreaches.mono hdirectory hdirectories, bytes, ?_, hdigest⟩
  rw [destination_congr hdirectory]
  exact kept_of_update h hupdate hne hbeside hfile

end

end GeneratedFile

end IconCompiler
