import IconCompiler.Proofs.Search

/-! # What a disk holds for a search

    On a disk without links a search finds just the files below its root that
    have the extension and hold text.  It tells of just the files with the
    extension that hold none, and of what has a longer path name than the
    operating system takes (`discovers_exactly`).  Both lists have the order of
    the names that lead to the files, and the order in which a disk lists its
    entries does not matter. -/

namespace IconCompiler

open Disk IconCompiler.Path

namespace Search

/-! ## Extensions -/

/-- A file name has an extension if it goes on with it behind its last dot, and
    not only behind a dot at its start.  The case of ASCII letters does not
    count, nor do dots in front of the extension that is looked for. -/
def HasExtension (extension name : String) : Prop :=
  ∃ stem suffix : String, name = stem ++ "." ++ suffix ∧ stem ≠ "" ∧ '.' ∉ suffix.toList
    ∧ suffix.toList.map Char.toLower
      = (extension.toList.dropWhile (· == '.')).map Char.toLower

theorem extension?_join_eq_some_iff {directory name suffix : String} (hname : IsSegment name) :
    extension? (join directory name) = some suffix
      ↔ ∃ stem, name = stem ++ "." ++ suffix ∧ stem ≠ "" ∧ '.' ∉ suffix.toList := by
  obtain ⟨first, rest, hcs⟩ := List.exists_cons_of_ne_nil
    (fun hnil => hname.nonempty (String.toList_eq_nil_iff.mp hnil))
  rw [extension?, fileName?_join hname]
  dsimp only
  rw [hcs]
  dsimp only
  constructor
  · intro hsome
    obtain ⟨hdot, hsuffix⟩ := Option.ite_none_right_eq_some.mp hsome
    obtain ⟨front, c, hc, hrest⟩ := Text.exists_append_afterLast (p := (· == '.'))
      ⟨'.', List.contains_iff_mem.mp hdot, rfl⟩
    obtain rfl := beq_iff_eq.mp hc
    obtain rfl := Option.some.inj hsuffix
    refine ⟨String.ofList (first :: front), ?_, ?_, ?_⟩
    · refine String.toList_inj.mp ((hcs.trans (congrArg (first :: ·) hrest)).trans ?_)
      simp
    · simp
    · rw [String.toList_ofList]
      intro hmem
      exact absurd (Text.eq_false_of_mem_afterLast hmem) (by simp)
  · rintro ⟨stem, rfl, hstem, hsuffix⟩
    obtain ⟨head, front, hfront⟩ := List.exists_cons_of_ne_nil
      (fun hnil => hstem (String.toList_eq_nil_iff.mp hnil))
    rw [String.toList_append, String.toList_append, hfront] at hcs
    obtain ⟨-, hrest⟩ := List.cons.inj hcs
    rw [← hrest]
    show (if (front ++ ['.'] ++ suffix.toList).contains '.' then
      some (String.ofList (Text.afterLast (· == '.') (front ++ ['.'] ++ suffix.toList))) else none)
      = some suffix
    rw [List.append_assoc, List.singleton_append]
    rw [if_pos (by simp), Text.afterLast_append rfl, Text.afterLast_of_forall, String.ofList_toList]
    intro c hc
    refine beq_eq_false_iff_ne.mpr ?_
    rintro rfl
    exact hsuffix hc

theorem extensionIs_join_iff {extension directory name : String} (hname : IsSegment name) :
    extensionIs extension (join directory name) = true ↔ HasExtension extension name := by
  have hsame (suffix : String) :
      sameIgnoringCase suffix (String.ofList (extension.toList.dropWhile (· == '.'))) = true
        ↔ suffix.toList.map Char.toLower
          = (extension.toList.dropWhile (· == '.')).map Char.toLower := by
    rw [sameIgnoringCase, beq_iff_eq, String.toList_ofList]
  rw [extensionIs]
  constructor
  · intro his
    split at his
    · exact absurd his Bool.false_ne_true
    · next suffix hsuffix =>
        obtain ⟨stem, hjoin, hstem, hdot⟩ := (extension?_join_eq_some_iff hname).mp hsuffix
        exact ⟨stem, suffix, hjoin, hstem, hdot, (hsame suffix).mp his⟩
  · rintro ⟨stem, suffix, hjoin, hstem, hdot, hletters⟩
    rw [(extension?_join_eq_some_iff hname).mpr ⟨stem, hjoin, hstem, hdot⟩]
    exact (hsame suffix).mpr hletters

/-! ## What stands below a root -/

/-- The operating system takes a path name of this length. -/
def Fits (path : String) : Prop :=
  path.utf8ByteSize ≤ maxLength

/-- A file with an extension stands below a root, at the end of some names. -/
structure FileBelow (workspace : Workspace) (root extension : String) (names : List String)
    (content : ByteArray) : Prop where
  stands : workspace.disk.entry? (workspace.destination root ++ names) = some (.file content)
  extended : ∃ name ∈ names.getLast?, HasExtension extension name

/-- What is told about an entry below a root.  Nothing is told about what stands
    in a directory whose own path name is too long. -/
inductive Told (workspace : Workspace) (root extension : String) (names : List String) :
    Diagnostic → Prop
  | noText {content : ByteArray} (hfile : FileBelow workspace root extension names content)
      (hfits : Fits (joinAll root names)) (htext : String.fromUTF8? content = none) :
      Told workspace root extension names (readWarning (joinAll root names) .notText)
  | longFile {content : ByteArray} (hfile : FileBelow workspace root extension names content)
      (houter : Fits (joinAll root names.dropLast)) (hlong : ¬ Fits (joinAll root names)) :
      Told workspace root extension names (readWarning (joinAll root names) .nameTooLong)
  | longDirectory
      (hdirectory : workspace.disk.entry? (workspace.destination root ++ names) = some .directory)
      (houter : Fits (joinAll root names.dropLast)) (hlong : ¬ Fits (joinAll root names)) :
      Told workspace root extension names (visitWarning (joinAll root names)
        s!"IO error for operation on {joinAll root names}: {Fault.nameTooLong.message}")

section

variable {workspace : Workspace} (h : workspace.IsPlain) {root : String}
  (hroot : workspace.isDirectory root = true) {names : List String} {entry : Entry}
include h hroot

theorem route_joinAll
    (hstands : workspace.disk.entry? (workspace.destination root ++ names) = some entry) :
    route (joinAll root names) = if maxLength < (joinAll root names).utf8ByteSize
      then .error .nameTooLong else .ok (Route.parse (joinAll root names)) := by
  have hstart := ((Workspace.isDirectory_iff h).mp hroot).1.taken
  refine route_of_nul_not_mem (joinAll_ne_empty (ne_empty_of_route hstart) names) ?_
  exact nul_not_mem_joinAll (nul_not_mem_of_route hstart)
    fun name hname => (h.disk.isName_of_mem hstands name hname).no_nul

/-- The path of what stands below the root leads there. -/
theorem entry?_destination_joinAll
    (hstands : workspace.disk.entry? (workspace.destination root ++ names) = some entry) :
    workspace.disk.entry? (workspace.destination (joinAll root names)) = some entry := by
  have hstart := ((Workspace.isDirectory_iff h).mp hroot).1.taken
  rw [Workspace.destination_joinAll workspace (ne_empty_of_route hstart)
    (h.disk.isSegment_of_mem hstands)]
  exact hstands

/-- What stands below the root can be reached unless its path name is too long. -/
theorem reaches_joinAll_iff
    (hstands : workspace.disk.entry? (workspace.destination root ++ names) = some entry) :
    workspace.Reaches (joinAll root names) ↔ Fits (joinAll root names) := by
  have hroute := route_joinAll h hroot hstands
  obtain ⟨hstart, -⟩ := (Workspace.isDirectory_iff h).mp hroot
  constructor
  · intro hreaches
    rw [hreaches.taken] at hroute
    split at hroute
    · cases hroute
    · next hfits => exact Nat.not_lt.mp hfits
  · intro hfits
    rw [if_neg (Nat.not_lt.mpr hfits)] at hroute
    exact h.reaches_joinAll (ne_empty_of_route hstart.taken) hstart
      (h.disk.isSegment_of_mem hstands) hroute hstands

theorem comesTo_iff :
    workspace.ComesTo root names entry
      ↔ workspace.disk.entry? (workspace.destination root ++ names) = some entry
        ∧ Fits (joinAll root names.dropLast) := by
  obtain ⟨hstart, hdirectory⟩ := (Workspace.isDirectory_iff h).mp hroot
  have houter (hstands : workspace.disk.entry? (workspace.destination root ++ names) = some entry) :
      ∃ found, workspace.disk.entry? (workspace.destination root ++ names.dropLast)
        = some found := by
    by_cases hnil : names = []
    · exact ⟨.directory, by rw [hnil]; simpa using hdirectory⟩
    · rw [← List.dropLast_concat_getLast hnil, ← List.append_assoc] at hstands
      exact h.disk.exists_entry?_of_below hstands
  constructor
  · intro hcomes
    refine ⟨hcomes.stands, ?_⟩
    obtain ⟨found, hfound⟩ := houter hcomes.stands
    rw [← reaches_joinAll_iff h hroot hfound]
    by_cases hnil : names = []
    · rw [hnil]
      exact hstart
    · exact hcomes.approached hnil
  · rintro ⟨hstands, hfits⟩
    obtain ⟨found, hfound⟩ := houter hstands
    refine ⟨h.disk.isSegment_of_mem hstands, hstands, ?_⟩
    intro hnil
    exact (reaches_joinAll_iff h hroot hfound).mpr hfits

theorem fileBelow_iff {extension : String} {content : ByteArray} :
    FileBelow workspace root extension names content
      ↔ workspace.disk.entry? (workspace.destination root ++ names) = some (.file content)
        ∧ extensionIs extension (joinAll root names) = true := by
  obtain ⟨-, hdirectory⟩ := (Workspace.isDirectory_iff h).mp hroot
  rcases List.eq_nil_or_concat names with rfl | ⟨outer, last, rfl⟩
  -- the root itself is no file
  · refine iff_of_false ?_ ?_
    · rintro ⟨-, name, hname, -⟩
      exact absurd hname (by simp)
    · rintro ⟨hstands, -⟩
      rw [List.append_nil, hdirectory] at hstands
      cases hstands
  · rw [List.concat_eq_append, joinAll_append]
    have hlast (hstands : workspace.disk.entry? (workspace.destination root ++ (outer ++ [last]))
        = some (.file content)) :
        extensionIs extension (join (joinAll root outer) last) = true
          ↔ HasExtension extension last :=
      extensionIs_join_iff (h.disk.isSegment_of_mem hstands last (by simp))
    constructor
    · rintro ⟨hstands, name, hname, hextension⟩
      rw [List.getLast?_concat] at hname
      obtain rfl := Option.some.inj hname
      exact ⟨hstands, (hlast hstands).mpr hextension⟩
    · rintro ⟨hstands, hextension⟩
      exact ⟨hstands, last, List.getLast?_concat, (hlast hstands).mp hextension⟩

theorem entryAt_of_long {follows : Bool}
    (hstands : workspace.disk.entry? (workspace.destination root ++ names) = some entry)
    (hlong : ¬ Fits (joinAll root names)) :
    workspace.entryAt follows (joinAll root names) = .error .nameTooLong := by
  have hroute := route_joinAll h hroot hstands
  rw [if_pos (Nat.not_le.mp hlong)] at hroute
  rw [Workspace.entryAt, Workspace.locate, hroute]
  rfl

theorem readText_of_long
    (hstands : workspace.disk.entry? (workspace.destination root ++ names) = some entry)
    (hlong : ¬ Fits (joinAll root names)) :
    workspace.readText (joinAll root names) = .error .nameTooLong := by
  rw [Workspace.readText, Workspace.read, entryAt_of_long h hroot hstands hlong]
  rfl

theorem list_eq_error_iff {fault : Fault}
    (hstands : workspace.disk.entry? (workspace.destination root ++ names) = some .directory) :
    workspace.list (joinAll root names) = .error fault
      ↔ ¬ Fits (joinAll root names) ∧ fault = .nameTooLong := by
  by_cases hfits : Fits (joinAll root names)
  · rw [(Workspace.list_eq_ok_iff h).mpr ⟨(reaches_joinAll_iff h hroot hstands).mpr hfits, rfl,
      entry?_destination_joinAll h hroot hstands, rfl⟩]
    simp [hfits]
  · rw [Workspace.list, entryAt_of_long h hroot hstands hfits]
    show Except.error Fault.nameTooLong = Except.error fault ↔ _
    simp [hfits, eq_comm]

theorem readText_of_fits {content : ByteArray}
    (hstands : workspace.disk.entry? (workspace.destination root ++ names) = some (.file content))
    (hfits : Fits (joinAll root names)) :
    workspace.readText (joinAll root names)
      = match String.fromUTF8? content with
        | some text => .ok text
        | none => .error .notText := by
  have hread : workspace.read (joinAll root names) = .ok content :=
    (Workspace.read_eq_ok_iff h).mpr ⟨(reaches_joinAll_iff h hroot hstands).mpr hfits,
      entry?_destination_joinAll h hroot hstands⟩
  rw [Workspace.readText, hread]
  rfl

section

variable {extension : String} {follow : Bool} {found : Search}
  (hfound : below workspace root extension follow = .ok found)
include hfound

/-- What is found are the files with the extension that hold text, unless their
    path name is too long. -/
theorem mem_assets_iff_fileBelow {asset : Asset} :
    asset ∈ found.assets
      ↔ ∃ names content, FileBelow workspace root extension names content
        ∧ asset.path = joinAll root names ∧ Fits asset.path
        ∧ String.fromUTF8? content = some asset.content := by
  have hne := root_ne_empty h hfound
  rw [mem_assets_iff h hfound]
  constructor
  · rintro ⟨names, hnames, hpath, hextension, hread⟩
    rw [hpath] at hextension hread ⊢
    obtain ⟨hreaches, content, hstands, htext⟩ := (Workspace.readText_eq_ok_iff h).mp hread
    rw [Workspace.destination_joinAll workspace hne hnames] at hstands
    exact ⟨names, content, (fileBelow_iff h hroot).mpr ⟨hstands, hextension⟩, rfl,
      (reaches_joinAll_iff h hroot hstands).mp hreaches, htext⟩
  · rintro ⟨names, content, hfile, hpath, hfits, htext⟩
    rw [hpath] at hfits ⊢
    obtain ⟨hstands, hextension⟩ := (fileBelow_iff h hroot).mp hfile
    refine ⟨names, h.disk.isSegment_of_mem hstands, rfl, hextension, ?_⟩
    rw [readText_of_fits h hroot hstands hfits, htext]

theorem mem_diagnostics_iff_told {diagnostic : Diagnostic} :
    diagnostic ∈ found.diagnostics ↔ ∃ names, Told workspace root extension names diagnostic := by
  rw [mem_diagnostics_iff h hfound]
  constructor
  · rintro ⟨names, entry, visited, hcomes, hconcerns, hwarning⟩
    obtain ⟨hstands, houter⟩ := (comesTo_iff h hroot).mp hcomes
    refine ⟨names, ?_⟩
    cases hconcerns with
    | entry =>
        cases entry with
        | file content =>
            obtain ⟨hextension, fault, hread, rfl⟩ := warning?_file_eq_some_iff.mp hwarning
            have hfile := (fileBelow_iff h hroot).mpr ⟨hstands, hextension⟩
            by_cases hfits : Fits (joinAll root names)
            · rw [readText_of_fits h hroot hstands hfits] at hread
              cases htext : String.fromUTF8? content with
              | some text =>
                  rw [htext] at hread
                  cases hread
              | none =>
                  rw [htext] at hread
                  obtain rfl := Except.error.inj hread
                  exact .noText hfile hfits htext
            · rw [readText_of_long h hroot hstands hfits] at hread
              obtain rfl := Except.error.inj hread
              exact .longFile hfile houter hfits
        | directory => exact absurd hwarning (by simp [warning?, Entry.kind])
        | link target => exact absurd hstands h.disk.unlinked
    | fault hlist =>
        obtain ⟨hlong, rfl⟩ := (list_eq_error_iff h hroot hstands).mp hlist
        obtain rfl := Option.some.inj hwarning
        exact .longDirectory hstands houter hlong
  · rintro ⟨names, htold⟩
    cases htold with
    | noText hfile hfits htext =>
        obtain ⟨hstands, hextension⟩ := (fileBelow_iff h hroot).mp hfile
        have hcomes := Workspace.comesTo_of_reaches (root_ne_empty h hfound)
          (h.disk.isSegment_of_mem hstands)
          ((reaches_joinAll_iff h hroot hstands).mpr hfits) hstands
        refine ⟨names, _, _, hcomes, .entry _, ?_⟩
        refine warning?_file_eq_some_iff.mpr ⟨hextension, _, ?_, rfl⟩
        rw [readText_of_fits h hroot hstands hfits, htext]
    | longFile hfile houter hlong =>
        obtain ⟨hstands, hextension⟩ := (fileBelow_iff h hroot).mp hfile
        refine ⟨names, _, _, (comesTo_iff h hroot).mpr ⟨hstands, houter⟩, .entry _, ?_⟩
        exact warning?_file_eq_some_iff.mpr
          ⟨hextension, _, readText_of_long h hroot hstands hlong, rfl⟩
    | longDirectory hdirectory houter hlong =>
        exact ⟨names, _, _, (comesTo_iff h hroot).mpr ⟨hdirectory, houter⟩,
          .fault ((list_eq_error_iff h hroot hdirectory).mpr ⟨hlong, rfl⟩), rfl⟩

end

end

/-! ## The order of entries -/

section

variable {workspace other : Workspace} (hdirectory : other.directory = workspace.directory)
  (hentries : ∀ location, other.disk.entry? location = workspace.disk.entry? location)
  {root extension : String} {names : List String}
include hdirectory hentries

theorem isPlain_congr (h : workspace.IsPlain) : other.IsPlain := by
  refine ⟨⟨fun hentry => ?_, fun hentry => ?_, ?_⟩, ?_⟩
  · rw [hentries] at hentry
    exact h.disk.named hentry
  · rw [hentries] at hentry ⊢
    exact h.disk.standing hentry
  · intro location target
    rw [hentries]
    exact h.disk.unlinked
  · rw [hentries, hdirectory]
    exact h.directory

theorem FileBelow.congr {content : ByteArray}
    (h : FileBelow workspace root extension names content) :
    FileBelow other root extension names content := by
  refine ⟨?_, h.extended⟩
  rw [hentries, Workspace.destination_congr hdirectory]
  exact h.stands

theorem Told.congr {diagnostic : Diagnostic}
    (h : Told workspace root extension names diagnostic) :
    Told other root extension names diagnostic := by
  cases h with
  | noText hfile hfits htext => exact .noText (hfile.congr hdirectory hentries) hfits htext
  | longFile hfile houter hlong => exact .longFile (hfile.congr hdirectory hentries) houter hlong
  | longDirectory hstands houter hlong =>
      refine .longDirectory ?_ houter hlong
      rw [hentries, Workspace.destination_congr hdirectory]
      exact hstands

end

/-- Nothing but the entries of a disk decides what is found on it. -/
theorem below_congr {workspace other : Workspace} (h : workspace.IsPlain)
    (hdirectory : other.directory = workspace.directory)
    (hentries : ∀ location, other.disk.entry? location = workspace.disk.entry? location)
    {root extension : String} {follow : Bool} {found : Search}
    (hfound : below workspace root extension follow = .ok found) :
    below other root extension follow = .ok found := by
  have hother := isPlain_congr hdirectory hentries h
  have hback (location : Location) :
      workspace.disk.entry? location = other.disk.entry? location := (hentries location).symm
  obtain ⟨hroot, -⟩ := below_eq_ok_iff.mp hfound
  have hroot' : other.isDirectory root = true := by
    obtain ⟨hreaches, hstands⟩ := (Workspace.isDirectory_iff h).mp hroot
    refine (Workspace.isDirectory_iff hother).mpr ⟨hreaches.mono hdirectory ?_, ?_⟩
    · intro location hlocation
      rw [hentries]
      exact hlocation
    · rw [hentries, Workspace.destination_congr hdirectory]
      exact hstands
  obtain ⟨found', hfound'⟩ : ∃ found', below other root extension follow = .ok found' :=
    ⟨_, below_eq_ok_iff.mpr ⟨hroot', rfl⟩⟩
  have hassets : found'.assets = found.assets := by
    refine assets_eq_of_mem_iff hother hfound' h hfound ?_
    intro asset
    rw [mem_assets_iff_fileBelow hother hroot' hfound', mem_assets_iff_fileBelow h hroot hfound]
    constructor
    · rintro ⟨names, content, hfile, hrest⟩
      exact ⟨names, content, hfile.congr hdirectory.symm hback, hrest⟩
    · rintro ⟨names, content, hfile, hrest⟩
      exact ⟨names, content, hfile.congr hdirectory hentries, hrest⟩
  have hdiagnostics : found'.diagnostics = found.diagnostics := by
    refine diagnostics_eq_of_mem_iff hother hfound' h hfound ?_
    intro diagnostic
    rw [mem_diagnostics_iff_told hother hroot' hfound', mem_diagnostics_iff_told h hroot hfound]
    constructor
    · rintro ⟨names, htold⟩
      exact ⟨names, htold.congr hdirectory.symm hback⟩
    · rintro ⟨names, htold⟩
      exact ⟨names, htold.congr hdirectory hentries⟩
  obtain ⟨assets, diagnostics⟩ := found
  obtain ⟨assets', diagnostics'⟩ := found'
  cases hassets
  cases hdiagnostics
  exact hfound'

/-! ## Discovery -/

/-- A search below a directory finds exactly the files there that have the
    extension and hold text, each with its text, and it tells exactly of the files
    with the extension that hold none and of what has too long a path name.  It
    goes through them by the bytes of the names that lead to them, so it comes to
    each once; and it finds the same in whatever order a disk lists its
    entries. -/
theorem discovers_exactly {workspace : Workspace} (h : workspace.IsPlain) {root : String}
    (hroot : workspace.isDirectory root = true) (extension : String) (follow : Bool) :
    ∃ found, below workspace root extension follow = .ok found
      ∧ (∀ asset, asset ∈ found.assets ↔ ∃ names content,
        FileBelow workspace root extension names content ∧ asset.path = joinAll root names
          ∧ Fits asset.path ∧ String.fromUTF8? content = some asset.content)
      ∧ (∀ diagnostic, diagnostic ∈ found.diagnostics
        ↔ ∃ names, Told workspace root extension names diagnostic)
      ∧ (found.assets.Pairwise fun asset other =>
        Workspace.Precedes root asset.path other.path)
      ∧ found.diagnostics.Pairwise (InOrder root)
      ∧ ∀ other : Workspace, other.directory = workspace.directory →
        (∀ location, other.disk.entry? location = workspace.disk.entry? location) →
        below other root extension follow = .ok found := by
  obtain ⟨found, hfound⟩ : ∃ found, below workspace root extension follow = .ok found :=
    ⟨_, below_eq_ok_iff.mpr ⟨hroot, rfl⟩⟩
  refine ⟨found, hfound, ?_, ?_, assets_pairwise h hfound, diagnostics_pairwise h hfound, ?_⟩
  · intro asset
    exact mem_assets_iff_fileBelow h hroot hfound
  · intro diagnostic
    exact mem_diagnostics_iff_told h hroot hfound
  · intro other hdirectory hentries
    exact below_congr h hdirectory hentries hfound

/-- A disk with a directory, and with files of which one is no text. -/
def mixedDisk : Disk :=
  (((Disk.put .empty ["a"] .directory).put ["bad.svg"] (.file ⟨#[0xFF]⟩)).put ["a.SVG"]
    (.file "<svg/>".toUTF8)).put ["a", "z.svg"] (.file "<svg/>".toUTF8)

theorem isPlain_mixedDisk : mixedDisk.IsPlain := by
  have hname : ∀ name ∈ ["a", "bad.svg", "a.SVG", "z.svg"], IsName name := by
    intro name hname
    simp only [List.mem_cons, List.not_mem_nil, or_false] at hname
    rcases hname with rfl | rfl | rfl | rfl <;> refine ⟨⟨?_, ?_, ?_, ?_⟩, ?_, ?_⟩ <;> decide
  have hdirectory : (Disk.put .empty ([] ++ ["a"]) .directory).IsPlain :=
    isPlain_empty.put (hname "a" (by simp)) rfl (by decide) (fun _ => by simp)
  have hbad : ((Disk.put .empty ["a"] .directory).put ([] ++ ["bad.svg"])
      (.file ⟨#[0xFF]⟩)).IsPlain :=
    hdirectory.put (hname "bad.svg" (by simp)) rfl (by decide) (fun _ => by simp)
  have hupper : (((Disk.put .empty ["a"] .directory).put ["bad.svg"] (.file ⟨#[0xFF]⟩)).put
      ([] ++ ["a.SVG"]) (.file "<svg/>".toUTF8)).IsPlain :=
    hbad.put (hname "a.SVG" (by simp)) rfl (by decide) (fun _ => by simp)
  have hinner : ((((Disk.put .empty ["a"] .directory).put ["bad.svg"] (.file ⟨#[0xFF]⟩)).put
      ["a.SVG"] (.file "<svg/>".toUTF8)).put (["a"] ++ ["z.svg"])
      (.file "<svg/>".toUTF8)).IsPlain :=
    hupper.put (hname "z.svg" (by simp)) (by decide) (by decide) (fun _ => by simp)
  exact hinner

/-- The same disk, with the file that is no text before the directory. -/
def reorderedDisk : Disk :=
  (((Disk.put .empty ["bad.svg"] (.file ⟨#[0xFF]⟩)).put ["a"] .directory).put ["a.SVG"]
    (.file "<svg/>".toUTF8)).put ["a", "z.svg"] (.file "<svg/>".toUTF8)

theorem entry?_reorderedDisk (location : Location) :
    reorderedDisk.entry? location = mixedDisk.entry? location := by
  by_cases hdirectory : location = ["a"]
  · rw [hdirectory]
    decide
  by_cases hbad : location = ["bad.svg"]
  · rw [hbad]
    decide
  simp [reorderedDisk, mixedDisk, entry?_put, hdirectory, hbad]

/-- Of three files with the extension two are found, the one in the directory
    first, and one is told of; a disk that lists the file without text first gives
    the same. -/
theorem discovers_exactly_mixed :
    ∃ (workspace : Workspace) (found : Search),
      workspace = .ofDisk mixedDisk [] ∧ workspace.IsPlain ∧ workspace.isDirectory "." = true
        ∧ below workspace "." ".svg" true = .ok found
        ∧ ⟨"./a/z.svg", "<svg/>"⟩ ∈ found.assets ∧ ⟨"./a.SVG", "<svg/>"⟩ ∈ found.assets
        ∧ (found.assets.Pairwise fun asset other =>
          Workspace.Precedes "." asset.path other.path)
        ∧ readWarning "./bad.svg" .notText ∈ found.diagnostics
        ∧ below (.ofDisk reorderedDisk []) "." ".svg" true = .ok found := by
  obtain ⟨workspace, hworkspace⟩ : ∃ workspace : Workspace, workspace = .ofDisk mixedDisk [] :=
    ⟨_, rfl⟩
  have hplain : workspace.IsPlain := by
    rw [hworkspace]
    exact ⟨isPlain_mixedDisk, rfl⟩
  have hroot : workspace.isDirectory "." = true := by
    rw [hworkspace]
    decide
  obtain ⟨found, hfound, hassets, hdiagnostics, horder, -, hsame⟩ :=
    discovers_exactly hplain hroot ".svg" true
  refine ⟨workspace, found, hworkspace, hplain, hroot, hfound, ?_, ?_, horder, ?_, ?_⟩
  · refine (hassets _).mpr ⟨["a", "z.svg"], "<svg/>".toUTF8, ⟨?_, "z.svg", rfl, ?_⟩, rfl, ?_, ?_⟩
    · rw [hworkspace]
      decide
    · exact ⟨"z", "svg", by decide, by decide, by decide, by decide⟩
    · show "./a/z.svg".utf8ByteSize ≤ maxLength
      decide
    · decide +kernel
  · refine (hassets _).mpr ⟨["a.SVG"], "<svg/>".toUTF8, ⟨?_, "a.SVG", rfl, ?_⟩, rfl, ?_, ?_⟩
    · rw [hworkspace]
      decide
    · exact ⟨"a", "SVG", by decide, by decide, by decide, by decide⟩
    · show "./a.SVG".utf8ByteSize ≤ maxLength
      decide
    · decide +kernel
  · refine (hdiagnostics _).mpr ⟨["bad.svg"], ?_⟩
    have hfile : FileBelow workspace "." ".svg" ["bad.svg"] ⟨#[0xFF]⟩ := by
      refine ⟨?_, "bad.svg", rfl, "bad", "svg", by decide, by decide, by decide, by decide⟩
      rw [hworkspace]
      decide
    refine .noText hfile ?_ ?_
    · show "./bad.svg".utf8ByteSize ≤ maxLength
      decide
    · decide +kernel
  · rw [hworkspace] at hsame
    exact hsame (.ofDisk reorderedDisk []) rfl entry?_reorderedDisk

/-! ## Long names of roots -/

/-- The working directory, named by as many dots as asked for and one more. -/
def dots (count : Nat) : String :=
  Text.joinWith "/" (List.replicate (count + 1) ".")

theorem dots_succ (count : Nat) : dots (count + 1) = "." ++ "/" ++ dots count := by
  rw [dots, List.replicate_succ, List.replicate_succ, Text.joinWith, String.intercalate_cons_cons]
  rfl

theorem utf8ByteSize_dots (count : Nat) : (dots count).utf8ByteSize = 2 * count + 1 := by
  induction count with
  | zero => rfl
  | succ count ih =>
      rw [dots_succ, String.utf8ByteSize_append, String.utf8ByteSize_append, ih]
      show 1 + 1 + (2 * count + 1) = _
      omega

theorem nul_not_mem_dots (count : Nat) : '\x00' ∉ (dots count).toList := by
  induction count with
  | zero => decide
  | succ count ih =>
      rw [dots_succ, String.toList_append, String.toList_append]
      simp only [List.mem_append, not_or]
      exact ⟨⟨by decide, by decide⟩, ih⟩

theorem names_dots (count : Nat) : names (dots count) = List.replicate (count + 1) "." := by
  have hslash : ∀ name ∈ List.replicate (count + 1) ".", '/' ∉ name.toList := by
    intro name hname
    rw [List.eq_of_mem_replicate hname]
    decide
  rw [names, dots, segments_joinWith (by simp) hslash, List.filter_eq_self]
  intro name hname
  rw [List.eq_of_mem_replicate hname]
  rfl

theorem isDirectory_dots {workspace : Workspace} (h : workspace.IsPlain)
    (hstart : workspace.directory = []) {count : Nat} (hfits : Fits (dots count)) :
    workspace.isDirectory (dots count) = true ∧ workspace.destination (dots count) = [] := by
  have hdot : ∀ name ∈ names (dots count), name = "." := by
    rw [names_dots]
    exact fun name hname => List.eq_of_mem_replicate hname
  have hplace : workspace.destination (dots count) = [] := by
    rw [Workspace.destination, followAll_dots hdot, Workspace.start, hstart, ite_self]
  have hne : dots count ≠ "" := by
    intro hempty
    have hsize := utf8ByteSize_dots count
    rw [hempty] at hsize
    exact absurd hsize (by simp)
  have hroute : route (dots count) = .ok (Route.parse (dots count)) := by
    rw [route_of_nul_not_mem hne (nul_not_mem_dots count), if_neg (Nat.not_lt.mpr hfits)]
  refine ⟨(Workspace.isDirectory_iff h).mpr ⟨⟨hroute, admits_dots h.start ?_⟩, ?_⟩, hplace⟩
  · intro name hname
    rw [Route.steps] at hname
    split at hname
    · rcases List.mem_append.mp hname with hname | hlast
      · exact hdot name hname
      · exact List.mem_singleton.mp hlast
    · exact hdot name hname
  · rw [hplace]
    rfl

/-- Below a root whose name is as long as it may be, a file with the extension is
    no asset although it holds text: its own path name is too long. -/
theorem long_root_hides_assets :
    ∃ (workspace : Workspace) (root : String),
      workspace = .ofDisk (Disk.put .empty ["a.svg"] (.file "<svg/>".toUTF8)) []
        ∧ root = Text.joinWith "/" (List.replicate 2047 ".")
        ∧ workspace.IsPlain ∧ workspace.isDirectory root = true
        ∧ FileBelow workspace root "svg" ["a.svg"] "<svg/>".toUTF8
        ∧ String.fromUTF8? "<svg/>".toUTF8 = some "<svg/>"
        ∧ ∃ found, below workspace root "svg" true = .ok found ∧ found.assets = []
          ∧ readWarning (joinAll root ["a.svg"]) .nameTooLong ∈ found.diagnostics := by
  obtain ⟨workspace, hworkspace⟩ : ∃ workspace : Workspace,
    workspace = .ofDisk (Disk.put .empty ["a.svg"] (.file "<svg/>".toUTF8)) [] := ⟨_, rfl⟩
  have hname : IsName "a.svg" := by refine ⟨⟨?_, ?_, ?_, ?_⟩, ?_, ?_⟩ <;> decide
  have hplain : workspace.IsPlain := by
    rw [hworkspace]
    exact ⟨isPlain_empty.put hname (entry?_nil _) (by decide) (fun _ => by simp), rfl⟩
  obtain ⟨root, hdots, hsize⟩ : ∃ root, root = dots 2046 ∧ root.utf8ByteSize = 4093 :=
    ⟨_, rfl, utf8ByteSize_dots 2046⟩
  have hfits : Fits root := hsize.trans_le (by decide)
  obtain ⟨hroot, hplace⟩ : workspace.isDirectory root = true ∧ workspace.destination root = [] := by
    rw [hdots] at hfits ⊢
    exact isDirectory_dots hplain (by rw [hworkspace]; rfl) hfits
  have hfile : FileBelow workspace root "svg" ["a.svg"] "<svg/>".toUTF8 := by
    refine ⟨?_, "a.svg", rfl, "a", "svg", by decide, by decide, by decide, by decide⟩
    rw [hplace, hworkspace]
    decide
  -- With a slash between them or without, root and name are too long together.
  have hlong : ¬ Fits (joinAll root ["a.svg"]) := by
    have hname : "a.svg".utf8ByteSize = 5 := by decide
    have hmost : maxLength = 4095 := rfl
    rw [Fits, joinAll, List.foldl_cons, List.foldl_nil, join]
    split <;> simp only [String.utf8ByteSize_append, hsize, hname, hmost] <;> omega
  obtain ⟨found, hfound⟩ : ∃ found, below workspace root "svg" true = .ok found :=
    ⟨_, below_eq_ok_iff.mpr ⟨hroot, rfl⟩⟩
  refine ⟨workspace, root, hworkspace, by simp only [hdots, dots, Nat.reduceAdd], hplain, hroot,
    hfile, by decide +kernel, found, hfound, ?_, ?_⟩
  · refine List.eq_nil_iff_forall_not_mem.mpr fun asset hasset => ?_
    obtain ⟨names, content, hother, hpath, hshort, -⟩ :=
      (mem_assets_iff_fileBelow hplain hroot hfound).mp hasset
    have honly : names = ["a.svg"] := by
      have hstands := hother.stands
      rw [hplace, hworkspace, List.nil_append] at hstands
      by_contra hne
      have hnone := (entry?_put (List.cons_ne_nil _ _) _ _).symm.trans hstands
      rw [if_neg hne] at hnone
      cases names <;> cases hnone
    rw [hpath, honly] at hshort
    exact hlong hshort
  · exact (mem_diagnostics_iff_told hplain hroot hfound).mpr
      ⟨["a.svg"], .longFile hfile hfits hlong⟩

end Search

end IconCompiler
