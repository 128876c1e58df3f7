import IconCompiler.Proofs.Disk.Destination
import IconCompiler.Proofs.Text.Bytes

/-! # What changes to a workspace do

    Making directories only adds directories, each at a place that the way to them
    leads through, whether all of them can be made or not
    (`adds_of_makeDirectories`).  Writing puts a file at the destination of
    its path (`write_eq_ok`), renaming takes one from there to another destination
    (`rename_eq_ok`), and removing takes it away (`removeFile_eq_ok`); all of them
    leave directories alone, so a workspace without links stays one. -/

namespace IconCompiler

open Disk IconCompiler.Path

namespace Workspace

/-- A location at which a named entry can stand: below a directory. -/
def IsSlot (workspace : Workspace) (location : Location) : Prop :=
  ∃ outer name, location = outer ++ [name] ∧ IsName name
    ∧ workspace.disk.entry? outer = some .directory

theorem IsSlot.ne_nil {workspace : Workspace} {location : Location}
    (h : workspace.IsSlot location) : location ≠ [] := by
  obtain ⟨outer, name, rfl, -⟩ := h
  simp

/-! ## Making directories -/

/-- One workspace comes from another by making directories. -/
structure Grows (before after : Workspace) : Prop where
  plain : after.IsPlain
  directory : after.directory = before.directory
  kept : ∀ {location : Location} {entry : Entry},
    before.disk.entry? location = some entry → after.disk.entry? location = some entry
  added : ∀ {location : Location} {entry : Entry},
    after.disk.entry? location = some entry →
      before.disk.entry? location = some entry ∨ entry = .directory

theorem Grows.refl {workspace : Workspace} (h : workspace.IsPlain) : Grows workspace workspace :=
  ⟨h, rfl, id, .inl⟩

theorem Grows.trans {first second third : Workspace} (h : Grows first second)
    (hmore : Grows second third) : Grows first third := by
  refine ⟨hmore.plain, hmore.directory.trans h.directory, fun hentry => hmore.kept (h.kept hentry),
    ?_⟩
  intro location entry hentry
  rcases hmore.added hentry with hmiddle | hnew
  · exact h.added hmiddle
  · exact .inr hnew

/-- A directory is made where nothing is yet, at the destination of its path. -/
theorem makeDirectory_eq_ok {workspace next : Workspace} (h : workspace.IsPlain) {path : String}
    (hmake : workspace.makeDirectory path = .ok next) :
    workspace.IsSlot (workspace.destination path)
      ∧ workspace.disk.entry? (workspace.destination path) = none
      ∧ next = workspace.perform (.makeDirectory (workspace.destination path)) := by
  rw [makeDirectory, bind_eq_ok_iff] at hmake
  obtain ⟨place, hslot, hmake⟩ := hmake
  cases place with
  | dots => cases hmake
  | named location trailing =>
      obtain ⟨rfl, -, hstands⟩ := slot_eq_named h hslot
      dsimp only at hmake
      split at hmake
      · cases hmake
      · next hfree =>
          exact ⟨hstands, by simpa using hfree, (Except.ok.inj hmake).symm⟩

theorem entry?_makeDirectory (workspace : Workspace) {location : Location} (hne : location ≠ [])
    (other : Location) :
    (workspace.perform (.makeDirectory location)).disk.entry? other
      = if other = location then some .directory else workspace.disk.entry? other :=
  entry?_put hne .directory other

/-- The workspace with a directory made in a slot where nothing is. -/
theorem grows_of_perform {workspace : Workspace} (h : workspace.IsPlain) {location : Location}
    (hslot : workspace.IsSlot location) (hnone : workspace.disk.entry? location = none) :
    Grows workspace (workspace.perform (.makeDirectory location)) := by
  have hentry := entry?_makeDirectory workspace hslot.ne_nil
  refine ⟨⟨?_, ?_⟩, rfl, ?_, ?_⟩
  · obtain ⟨outer, name, rfl, hname, hparent⟩ := hslot
    exact h.disk.put hname hparent (by simp [hnone]) (fun _ => by simp)
  · refine (hentry workspace.directory).trans ?_
    split
    · rfl
    · exact h.directory
  · intro other entry hother
    refine (hentry other).trans ?_
    rw [if_neg (by rintro rfl; exact absurd hother (by simp [hnone]))]
    exact hother
  · intro other entry hother
    have hfound := (hentry other).symm.trans hother
    split at hfound
    · exact .inr (Option.some.inj hfound).symm
    · exact .inl hfound

/-- One workspace comes from another by making directories at the destinations of some
    paths, each where nothing was. -/
inductive Adds (paths : List String) : Workspace → Workspace → Prop
  | refl (workspace : Workspace) : Adds paths workspace workspace
  | step {workspace next : Workspace} {path : String} :
      path ∈ paths → workspace.IsSlot (workspace.destination path) →
      workspace.disk.entry? (workspace.destination path) = none →
      Adds paths (workspace.perform (.makeDirectory (workspace.destination path))) next →
      Adds paths workspace next

theorem Adds.trans {paths : List String} {first second third : Workspace}
    (h : Adds paths first second) (hmore : Adds paths second third) : Adds paths first third := by
  induction h with
  | refl workspace => exact hmore
  | step hpath hslot hnone _ ih => exact .step hpath hslot hnone (ih hmore)

theorem Adds.grows {paths : List String} {workspace next : Workspace}
    (hadds : Adds paths workspace next) (h : workspace.IsPlain) : Grows workspace next := by
  induction hadds with
  | refl workspace => exact .refl h
  | step _ hslot hnone _ ih =>
      have hgrows := grows_of_perform h hslot hnone
      exact hgrows.trans (ih hgrows.plain)

section

variable {paths : List String}

theorem adds_of_ensureDirectory {workspace next : Workspace} (h : workspace.IsPlain)
    {path : String} (hpath : path ∈ paths) (hensure : workspace.ensureDirectory path = .ok next) :
    Adds paths workspace next := by
  rw [ensureDirectory] at hensure
  split at hensure
  · next made hmake =>
      obtain rfl := Except.ok.inj hensure
      obtain ⟨hslot, hnone, rfl⟩ := makeDirectory_eq_ok h hmake
      exact .step hpath hslot hnone (.refl _)
  · split at hensure
    · obtain rfl := Except.ok.inj hensure
      exact .refl _
    · cases hensure

theorem adds_of_anchor {workspace next : Workspace} (h : workspace.IsPlain)
    {inner missing : List String} (hinner : ∀ path ∈ inner, path ∈ paths)
    (hanchor : workspace.anchor inner = .ok (next, missing)) :
    Adds paths workspace next ∧ ∀ path ∈ missing, path ∈ paths := by
  induction inner generalizing missing with
  | nil =>
      obtain ⟨rfl, rfl⟩ := Prod.mk.inj (Except.ok.inj hanchor)
      exact ⟨.refl _, hinner⟩
  | cons path outer ih =>
      obtain ⟨hpath, houter⟩ := List.forall_mem_cons.mp hinner
      rw [anchor] at hanchor
      split at hanchor
      · obtain ⟨rfl, rfl⟩ := Prod.mk.inj (Except.ok.inj hanchor)
        exact ⟨.refl _, fun _ hnone => absurd hnone List.not_mem_nil⟩
      · split at hanchor
        · next made hensure =>
            obtain ⟨rfl, rfl⟩ := Prod.mk.inj (Except.ok.inj hanchor)
            exact ⟨adds_of_ensureDirectory h hpath hensure,
              fun _ hnone => absurd hnone List.not_mem_nil⟩
        · split at hanchor
          · cases hfurther : workspace.anchor outer with
            | error fault =>
                rw [hfurther] at hanchor
                cases hanchor
            | ok found =>
                rw [hfurther] at hanchor
                obtain ⟨rfl, rfl⟩ := Prod.mk.inj (Except.ok.inj hanchor)
                obtain ⟨hadds, hmissing⟩ := ih houter hfurther
                refine ⟨hadds, List.forall_mem_append.mpr ⟨hmissing, ?_⟩⟩
                intro other hother
                rw [List.mem_singleton.mp hother]
                exact hpath
          · cases hanchor

theorem adds_of_makeInside {workspace next : Workspace} (h : workspace.IsPlain)
    {inner : List String} (hinner : ∀ path ∈ inner, path ∈ paths) {result : Except Fault Unit}
    (hmake : workspace.makeInside inner = (result, next)) : Adds paths workspace next := by
  induction inner generalizing workspace with
  | nil =>
      obtain ⟨-, rfl⟩ := Prod.mk.inj hmake
      exact .refl _
  | cons path inner ih =>
      obtain ⟨hpath, hmore⟩ := List.forall_mem_cons.mp hinner
      rw [makeInside] at hmake
      split at hmake
      · next made hensure =>
          have hadds := adds_of_ensureDirectory h hpath hensure
          exact hadds.trans (ih (hadds.grows h).plain hmore hmake)
      · obtain ⟨-, rfl⟩ := Prod.mk.inj hmake
        exact .refl _

/-- Directories are added where the path and those above it lead, even if not all of
    them can be made. -/
theorem adds_of_makeDirectories {workspace next : Workspace} (h : workspace.IsPlain)
    {path : String} {result : Except Fault Unit}
    (hmake : workspace.makeDirectories path = (result, next)) :
    Adds (ancestors path) workspace next := by
  rw [makeDirectories] at hmake
  split at hmake
  · obtain ⟨-, rfl⟩ := Prod.mk.inj hmake
    exact .refl _
  · next made missing hanchor =>
      obtain ⟨hadds, hmissing⟩ := adds_of_anchor h (fun _ => id) hanchor
      exact hadds.trans (adds_of_makeInside (hadds.grows h).plain hmissing hmake)

end

theorem grows_of_anchor {workspace next : Workspace} (h : workspace.IsPlain)
    {paths missing : List String} (hanchor : workspace.anchor paths = .ok (next, missing)) :
    Grows workspace next :=
  (adds_of_anchor h (fun _ => id) hanchor).1.grows h

theorem grows_of_makeInside {workspace next : Workspace} (h : workspace.IsPlain)
    {paths : List String} {result : Except Fault Unit}
    (hmake : workspace.makeInside paths = (result, next)) : Grows workspace next :=
  (adds_of_makeInside h (fun _ => id) hmake).grows h

/-- Directories are added, even if not all of them can be made. -/
theorem grows_of_makeDirectories {workspace next : Workspace} (h : workspace.IsPlain)
    {path : String} {result : Except Fault Unit}
    (hmake : workspace.makeDirectories path = (result, next)) : Grows workspace next :=
  (adds_of_makeDirectories h hmake).grows h

/-! ## Writing and renaming -/

/-- The workspace with something other than a directory put into a slot. -/
theorem IsPlain.put {workspace : Workspace} (h : workspace.IsPlain) {location : Location}
    (hslot : workspace.IsSlot location)
    (hkind : workspace.disk.entry? location ≠ some .directory) (content : ByteArray) :
    (workspace.perform (.writeFile location content)).IsPlain := by
  obtain ⟨outer, name, rfl, hname, hparent⟩ := hslot
  refine ⟨h.disk.put hname hparent hkind (fun _ => by simp), ?_⟩
  refine (entry?_put (by simp) _ _).trans ?_
  rw [if_neg (by rintro heq; exact hkind (heq ▸ h.directory))]
  exact h.directory

/-- A file that is moved to a slot is found there, and nothing where it was. -/
theorem entry?_move {workspace : Workspace} (h : workspace.IsPlain) {source target : Location}
    {content : ByteArray} (hsource : source ≠ []) (htarget : target ≠ [])
    (hfile : workspace.disk.entry? source = some (.file content)) (other : Location) :
    Disk.entry? (workspace.perform (.move source target)).disk other
      = if other = target then some (.file content)
        else if other = source then none else workspace.disk.entry? other := by
  have hmoved : (workspace.perform (.move source target)).disk
      = (workspace.disk.erase source).put target (.file content) := by
    rw [perform, Disk.apply, hfile]
  rw [hmoved, entry?_put htarget, h.disk.entry?_erase hsource (by simp [hfile])]

/-- The workspace with a file moved to a slot where there is no directory. -/
theorem IsPlain.move {workspace : Workspace} (h : workspace.IsPlain) {source target : Location}
    {content : ByteArray} (hsource : source ≠ [])
    (hfile : workspace.disk.entry? source = some (.file content))
    (hslot : workspace.IsSlot target) (hkind : workspace.disk.entry? target ≠ some .directory) :
    (workspace.perform (.move source target)).IsPlain := by
  have hmoved : (workspace.perform (.move source target)).disk
      = (workspace.disk.erase source).put target (.file content) := by
    rw [perform, Disk.apply, hfile]
  have hkept : ∀ other, workspace.disk.entry? other = some .directory →
      Disk.entry? (workspace.disk.erase source) other = some .directory := by
    intro other hother
    rw [h.disk.entry?_erase hsource (by simp [hfile]),
      if_neg (by rintro rfl; exact absurd hother (by simp [hfile]))]
    exact hother
  refine ⟨?_, ?_⟩
  · obtain ⟨outer, name, rfl, hname, hparent⟩ := hslot
    rw [hmoved]
    refine (h.disk.erase hsource).put hname (hkept outer hparent) ?_ (fun _ => by simp)
    rw [h.disk.entry?_erase hsource (by simp [hfile])]
    split
    · simp
    · exact hkind
  · rw [entry?_move h hsource hslot.ne_nil hfile,
      if_neg (by rintro heq; exact hkind (heq ▸ h.directory)),
      if_neg (by rintro heq; exact absurd (heq ▸ h.directory) (by simp [hfile]))]
    exact h.directory

/-- Where a file is removed nothing else changes. -/
theorem entry?_remove {workspace : Workspace} (h : workspace.IsPlain) {location : Location}
    (hne : location ≠ []) (hkind : workspace.disk.entry? location ≠ some .directory)
    (other : Location) :
    (workspace.perform (.remove location)).disk.entry? other
      = if other = location then none else workspace.disk.entry? other :=
  h.disk.entry?_erase hne hkind other

/-- The workspace without a file. -/
theorem IsPlain.remove {workspace : Workspace} (h : workspace.IsPlain) {location : Location}
    (hne : location ≠ []) (hkind : workspace.disk.entry? location ≠ some .directory) :
    (workspace.perform (.remove location)).IsPlain := by
  refine ⟨h.disk.erase hne, ?_⟩
  refine (entry?_remove h hne hkind _).trans ?_
  rw [if_neg (by rintro heq; exact hkind (heq ▸ h.directory))]
  exact h.directory

/-- A file is written at the destination of its path, unless there is a directory. -/
theorem write_of_slot {workspace : Workspace} (h : workspace.IsPlain) {path : String}
    {location : Location} (hslot : workspace.slot path = .ok (.named location false))
    (content : ByteArray) :
    workspace.write path content
      = if workspace.disk.entry? location = some .directory then .error .isADirectory
        else .ok (workspace.perform (.writeFile location content)) := by
  obtain ⟨rfl, hreaches, -⟩ := slot_eq_named h hslot
  have hlocate : workspace.locate true path
      = .ok (workspace.disk.placeAt (workspace.destination path)) :=
    (locate_eq_ok_iff h).mpr ⟨hreaches rfl, rfl⟩
  simp only [write, hslot, hlocate, bind, Except.bind, placeAt]
  cases hentry : workspace.disk.entry? (workspace.destination path) with
  | none => rfl
  | some entry =>
      cases entry with
      | directory => rfl
      | file bytes => rfl
      | link target => exact absurd hentry h.disk.unlinked

/-- What can be written is a name in a directory, with no slash behind it. -/
theorem slot_of_write {workspace next : Workspace} (h : workspace.IsPlain) {path : String}
    {content : ByteArray} (hwrite : workspace.write path content = .ok next) :
    workspace.slot path = .ok (.named (workspace.destination path) false) := by
  rw [write, bind_eq_ok_iff] at hwrite
  obtain ⟨place, hslot, hwrite⟩ := hwrite
  split at hwrite
  · cases hwrite
  · cases hwrite
  · next location =>
      rw [hslot, (slot_eq_named h hslot).1]

theorem write_eq_ok {workspace next : Workspace} (h : workspace.IsPlain) {path : String}
    {content : ByteArray} (hwrite : workspace.write path content = .ok next) :
    workspace.Reaches path ∧ workspace.IsSlot (workspace.destination path)
      ∧ workspace.disk.entry? (workspace.destination path) ≠ some .directory
      ∧ next = workspace.perform (.writeFile (workspace.destination path) content) := by
  have hslot := slot_of_write h hwrite
  obtain ⟨-, hreaches, hstands⟩ := slot_eq_named h hslot
  rw [write_of_slot h hslot] at hwrite
  split at hwrite
  · cases hwrite
  · next hkind => exact ⟨hreaches rfl, hstands, hkind, (Except.ok.inj hwrite).symm⟩

theorem readText_of_read {workspace : Workspace} {path text : String}
    (hread : workspace.read path = .ok text.toUTF8) : workspace.readText path = .ok text := by
  rw [readText, bind_eq_ok_iff]
  refine ⟨_, hread, ?_⟩
  rw [Text.fromUTF8?_toUTF8]
  rfl

/-- A text that was written is there to be read. -/
theorem readText_of_write {workspace next : Workspace} (h : workspace.IsPlain)
    {path text : String} (hwrite : workspace.write path text.toUTF8 = .ok next) :
    next.readText path = .ok text := by
  obtain ⟨hreaches, hslot, hkind, hnext⟩ := write_eq_ok h hwrite
  have hplain : next.IsPlain := hnext ▸ h.put hslot hkind _
  have hdirectory : next.directory = workspace.directory := by
    rw [hnext]
    rfl
  have hput : ∀ other, next.disk.entry? other
      = if other = workspace.destination path then some (.file text.toUTF8)
        else workspace.disk.entry? other := by
    rw [hnext]
    exact entry?_put hslot.ne_nil _
  refine readText_of_read ((read_eq_ok_iff hplain).mpr ⟨hreaches.mono hdirectory ?_, ?_⟩)
  · intro location hlocation
    rw [hput, if_neg]
    · exact hlocation
    · rintro rfl
      exact hkind hlocation
  · rw [hput, destination_congr hdirectory, if_pos rfl]

theorem removeFile_of_slot {workspace : Workspace} {path : String} {location : Location}
    (hslot : workspace.slot path = .ok (.named location false)) {content : ByteArray}
    (hfile : workspace.disk.entry? location = some (.file content)) :
    workspace.removeFile path = .ok (workspace.perform (.remove location)) := by
  simp only [removeFile, hslot, hfile, bind, Except.bind]
  rfl

/-- A file is moved to another location, unless a directory is asked for or there. -/
theorem rename_of_slots {workspace : Workspace} {source target : String} {a b : Location}
    {trailing : Bool} (hsource : workspace.slot source = .ok (.named a false))
    (htarget : workspace.slot target = .ok (.named b trailing)) (hne : a ≠ b)
    {content : ByteArray} (hfile : workspace.disk.entry? a = some (.file content)) :
    workspace.rename source target
      = if trailing then .error .notADirectory
        else if workspace.disk.entry? b = some .directory then .error .isADirectory
        else .ok (workspace.perform (.move a b)) := by
  simp only [rename, hsource, htarget, hfile, hne, bind, Except.bind, Bool.false_eq_true, false_or,
    if_false]
  rfl

theorem removeFile_eq_ok {workspace next : Workspace} (h : workspace.IsPlain) {path : String}
    (hremove : workspace.removeFile path = .ok next) :
    workspace.IsSlot (workspace.destination path)
      ∧ workspace.disk.entry? (workspace.destination path) ≠ some .directory
      ∧ next = workspace.perform (.remove (workspace.destination path)) := by
  rw [removeFile, bind_eq_ok_iff] at hremove
  obtain ⟨place, hslot, hremove⟩ := hremove
  split at hremove
  · cases hremove
  · next location trailing =>
      obtain ⟨rfl, -, hstands⟩ := slot_eq_named h hslot
      split at hremove
      · cases hremove
      · cases hremove
      · next entry hkind hentry =>
          split at hremove
          · cases hremove
          · refine ⟨hstands, ?_, (Except.ok.inj hremove).symm⟩
            intro hdirectory
            rw [hentry] at hdirectory
            exact hkind (Option.some.inj hdirectory)

/-- A file is moved from one destination to another, which must not be that of a
    directory. -/
theorem rename_eq_ok {workspace next : Workspace} (h : workspace.IsPlain) {source target : String}
    (hrename : workspace.rename source target = .ok next) :
    workspace.Reaches target ∧ workspace.IsSlot (workspace.destination source)
      ∧ workspace.IsSlot (workspace.destination target)
      ∧ (∃ content, workspace.disk.entry? (workspace.destination source) = some (.file content))
      ∧ workspace.disk.entry? (workspace.destination target) ≠ some .directory
      ∧ next = if workspace.destination source = workspace.destination target then workspace
        else workspace.perform
          (.move (workspace.destination source) (workspace.destination target)) := by
  rw [rename, bind_eq_ok_iff] at hrename
  obtain ⟨first, hfirst, hrename⟩ := hrename
  rw [bind_eq_ok_iff] at hrename
  obtain ⟨second, hsecond, hrename⟩ := hrename
  split at hrename
  · next a aTrailing b bTrailing =>
      obtain ⟨rfl, -, hstandsFirst⟩ := slot_eq_named h hfirst
      obtain ⟨rfl, hreaches, hstandsSecond⟩ := slot_eq_named h hsecond
      split at hrename
      · cases hrename
      · cases hrename
      · next entry hkind hentry =>
          split at hrename
          · cases hrename
          · next htrailing =>
              rw [not_or] at htrailing
              split at hrename
              · cases hrename
              · next hdirectory =>
                  refine ⟨hreaches (by simpa using htrailing.2), hstandsFirst, hstandsSecond, ?_,
                    hdirectory, ?_⟩
                  · cases entry with
                    | directory => exact absurd rfl hkind
                    | file content => exact ⟨content, hentry⟩
                    | link link => exact absurd hentry h.disk.unlinked
                  · split at hrename
                    · next hsame => rw [if_pos hsame]; exact (Except.ok.inj hrename).symm
                    · next hdiffer => rw [if_neg hdiffer]; exact (Except.ok.inj hrename).symm
  · cases hrename

end Workspace

end IconCompiler
