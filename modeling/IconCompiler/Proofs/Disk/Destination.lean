import IconCompiler.Proofs.Disk.PathName

/-! # Where paths lead in a workspace

    The destination of a path is the location that its segments lead to from
    where it starts.  In a workspace without links a path that leads anywhere
    leads to its destination (`locate_eq_ok_iff`), so two paths are names of one
    file exactly if their destinations are the same. -/

namespace IconCompiler

open Disk IconCompiler.Path

namespace Workspace

/-- Where a path starts. -/
def start (workspace : Workspace) (path : String) : Location :=
  if isRooted path then [] else workspace.directory

/-- The location that the segments of a path lead to. -/
def destination (workspace : Workspace) (path : String) : Location :=
  followAll (workspace.start path) (names path)

/-- The operating system takes the path, and its segments can be followed. -/
structure Reaches (workspace : Workspace) (path : String) : Prop where
  taken : route path = .ok (Route.parse path)
  admits : workspace.disk.Admits (workspace.start path) (Route.parse path).steps

/-- A tree of files and directories, seen from one of the directories. -/
structure IsPlain (workspace : Workspace) : Prop where
  disk : workspace.disk.IsPlain
  directory : workspace.disk.entry? workspace.directory = some .directory

variable {path : String}

theorem route_eq_ok {found : Route} (h : route path = .ok found) :
    found = Route.parse path := by
  rw [route] at h
  split at h
  · exact absurd h (by simp)
  split at h
  · exact absurd h (by simp)
  split at h
  · exact absurd h (by simp)
  · exact (Except.ok.inj h).symm

/-- A segment of a path that the operating system takes is a name unless it is a
    dot or two. -/
theorem isName_of_mem_names {name : String} (hroute : route path = .ok (Route.parse path))
    (hmem : name ∈ names path) (hdot : name ≠ ".") (hdots : name ≠ "..")
    (hshort : name.utf8ByteSize ≤ maxNameLength) : IsName name := by
  obtain ⟨hsegment, hnonempty⟩ := List.mem_filter.mp hmem
  refine ⟨⟨by simpa using hnonempty, hdot, hdots, slash_not_mem_segment hsegment⟩, ?_, hshort⟩
  intro hnul
  rw [route, if_pos (by simpa using mem_of_mem_segment hsegment hnul)] at hroute
  cases hroute

theorem start_congr {before after : Workspace} (h : after.directory = before.directory)
    (path : String) : after.start path = before.start path := by
  rw [start, start, h]

/-- Workspaces that start relative paths in the same directory agree on where
    paths lead. -/
theorem destination_congr {before after : Workspace} (h : after.directory = before.directory)
    (path : String) : after.destination path = before.destination path := by
  rw [destination, destination, start_congr h]

/-- With more directories more paths lead somewhere. -/
theorem Reaches.mono {before after : Workspace} (hdirectory : after.directory = before.directory)
    (hkept : ∀ location, before.disk.entry? location = some .directory →
      after.disk.entry? location = some .directory)
    (h : before.Reaches path) : after.Reaches path := by
  refine ⟨h.taken, ?_⟩
  rw [start, hdirectory]
  exact h.admits.mono hkept

theorem destination_join (workspace : Workspace) {directory : String} (hne : directory ≠ "")
    {name : String} (hname : IsSegment name) :
    workspace.destination (join directory name) = workspace.destination directory ++ [name] := by
  rw [destination, start, isRooted_join hne, names_join_of_isSegment directory hname,
    followAll_append]
  exact follow_of_isSegment hname _

/-- A path leads to its last segment from where its parent leads, and that is the
    working directory if there is no parent. -/
theorem destination_of_splitLast (workspace : Workspace) {parent last : String}
    (h : splitLast? path = some (parent, last)) :
    workspace.destination path
      = follow (workspace.destination (if parent = "" then "." else parent)) last := by
  have hsplits := splitLast?_spec h
  obtain ⟨before, behind, hnames, hbefore, hbehind⟩ := hsplits.names
  have hdestination : workspace.destination path
      = follow (followAll (workspace.start parent) (names parent)) last := by
    rw [destination, start, ← hsplits.rooted, hnames, followAll_append, followAll_dots hbehind,
      followAll_append, followAll_append, followAll_dots hbefore]
    rfl
  rw [hdestination]
  split
  · next hempty => rw [hempty]; rfl
  · rfl

/-! ## Ways that lead down only -/

/-- A way that never goes up ends below where it starts. -/
theorem prefix_followAll {names : List String} (h : ".." ∉ names) (location : Location) :
    location <+: followAll location names := by
  induction names generalizing location with
  | nil => exact List.prefix_refl location
  | cons name rest ih =>
      rw [List.mem_cons, not_or] at h
      refine List.IsPrefix.trans ?_ (ih h.2 (follow location name))
      rw [follow, if_neg (Ne.symm h.1)]
      split
      · exact List.prefix_refl location
      · exact List.prefix_append location [name]

theorem destination_prefix_of_splitLast (workspace : Workspace) {parent last : String}
    (hsplit : splitLast? path = some (parent, last)) (hdown : ".." ∉ names path) :
    ".." ∉ names parent ∧ workspace.destination parent <+: workspace.destination path := by
  have hsplits := splitLast?_spec hsplit
  obtain ⟨before, behind, hnames, -⟩ := hsplits.names
  rw [hnames, List.append_assoc, List.append_assoc, List.mem_append, not_or] at hdown
  refine ⟨hdown.1, ?_⟩
  rw [destination, destination, start, start, hsplits.rooted, hnames, List.append_assoc,
    List.append_assoc, followAll_append]
  exact prefix_followAll hdown.2 _

/-- What stands around a path that never goes up leads to where the path passes. -/
theorem destination_prefix_of_mem_ancestors (workspace : Workspace) {outer : String}
    (hdown : ".." ∉ names path) (hmem : outer ∈ ancestors path) :
    workspace.destination outer <+: workspace.destination path := by
  rw [ancestors] at hmem
  generalize (segments path).length + 1 = count at hmem
  induction count generalizing path with
  | zero => exact absurd hmem List.not_mem_nil
  | succ count ih =>
      rw [ancestorsUpTo, parent?] at hmem
      cases hsplit : splitLast? path with
      | none =>
          rw [hsplit] at hmem
          obtain rfl := List.mem_singleton.mp hmem
          exact List.prefix_refl _
      | some found =>
          obtain ⟨parent, last⟩ := found
          rw [hsplit] at hmem
          rcases List.mem_cons.mp hmem with rfl | hmem
          · exact List.prefix_refl _
          · obtain ⟨hparent, hbelow⟩ := destination_prefix_of_splitLast workspace hsplit hdown
            exact (ih hparent hmem).trans hbelow

section

variable {workspace : Workspace} (h : workspace.IsPlain)
include h

theorem IsPlain.start : workspace.disk.entry? (workspace.start path) = some .directory := by
  rw [Workspace.start]
  split
  · rfl
  · exact h.directory

/-- A path that leads anywhere leads to its destination. -/
theorem locate_eq_ok_iff {follows : Bool} {place : Place} :
    workspace.locate follows path = .ok place
      ↔ workspace.Reaches path ∧ place = workspace.disk.placeAt (workspace.destination path) := by
  have hsteps : followAll (workspace.start path) (Route.parse path).steps
      = workspace.destination path := by
    rw [Route.steps]
    split
    · exact followAll_append ..
    · rfl
  have hreach : reach workspace.disk follows maxLinks (workspace.start path)
        (Route.parse path).steps = .ok place ↔ _ := h.disk.reach_eq_ok_iff h.start
  rw [locate, bind_eq_ok_iff]
  constructor
  · rintro ⟨found, hroute, hfound⟩
    obtain rfl := route_eq_ok hroute
    obtain ⟨hadmits, hplace⟩ := hreach.mp hfound
    exact ⟨⟨hroute, hadmits⟩, by rw [hplace, hsteps]⟩
  · rintro ⟨hreaches, hplace⟩
    exact ⟨_, hreaches.taken, hreach.mpr ⟨hreaches.admits, by rw [hplace, hsteps]⟩⟩

theorem entryAt_eq_ok_iff {follows : Bool} {location : Location} {entry : Entry} :
    workspace.entryAt follows path = .ok (location, entry)
      ↔ workspace.Reaches path ∧ location = workspace.destination path
        ∧ workspace.disk.entry? location = some entry := by
  rw [entryAt, bind_eq_ok_iff]
  constructor
  · rintro ⟨place, hlocate, hplace⟩
    obtain ⟨hreaches, rfl⟩ := (locate_eq_ok_iff h).mp hlocate
    cases hat : workspace.disk.placeAt (workspace.destination path) with
    | vacant other =>
        rw [hat] at hplace
        exact absurd hplace (by simp)
    | taken other found =>
        rw [hat] at hplace
        obtain ⟨rfl, rfl⟩ := Prod.mk.inj (Except.ok.inj hplace)
        obtain ⟨rfl, hentry⟩ := placeAt_eq_taken.mp hat
        exact ⟨hreaches, rfl, hentry⟩
  · rintro ⟨hreaches, rfl, hentry⟩
    exact ⟨_, (locate_eq_ok_iff h).mpr ⟨hreaches, (placeAt_eq_taken.mpr ⟨rfl, hentry⟩).symm⟩, rfl⟩

theorem isFile_iff :
    workspace.isFile path = true
      ↔ workspace.Reaches path
        ∧ ∃ content, workspace.disk.entry? (workspace.destination path) = some (.file content) := by
  rw [isFile]
  constructor
  · intro hfile
    split at hfile
    · next location content hentry =>
        obtain ⟨hreaches, rfl, hfound⟩ := (entryAt_eq_ok_iff h).mp hentry
        exact ⟨hreaches, content, hfound⟩
    · exact absurd hfile Bool.false_ne_true
  · rintro ⟨hreaches, content, hfound⟩
    rw [(entryAt_eq_ok_iff h).mpr ⟨hreaches, rfl, hfound⟩]

theorem isDirectory_iff :
    workspace.isDirectory path = true
      ↔ workspace.Reaches path
        ∧ workspace.disk.entry? (workspace.destination path) = some .directory := by
  rw [isDirectory]
  constructor
  · intro hdirectory
    split at hdirectory
    · next location hentry =>
        obtain ⟨hreaches, rfl, hfound⟩ := (entryAt_eq_ok_iff h).mp hentry
        exact ⟨hreaches, hfound⟩
    · exact absurd hdirectory Bool.false_ne_true
  · rintro ⟨hreaches, hfound⟩
    rw [(entryAt_eq_ok_iff h).mpr ⟨hreaches, rfl, hfound⟩]

theorem read_eq_ok_iff {content : ByteArray} :
    workspace.read path = .ok content
      ↔ workspace.Reaches path
        ∧ workspace.disk.entry? (workspace.destination path) = some (.file content) := by
  rw [read, bind_eq_ok_iff]
  constructor
  · rintro ⟨⟨location, entry⟩, hentry, hcontent⟩
    obtain ⟨hreaches, rfl, hfound⟩ := (entryAt_eq_ok_iff h).mp hentry
    cases entry with
    | file bytes =>
        obtain rfl := Except.ok.inj hcontent
        exact ⟨hreaches, hfound⟩
    | directory => exact absurd hcontent (by simp)
    | link target => exact absurd hcontent (by simp)
  · rintro ⟨hreaches, hfound⟩
    exact ⟨_, (entryAt_eq_ok_iff h).mpr ⟨hreaches, rfl, hfound⟩, rfl⟩

/-- If the last segment of a path is a name, it stands in a directory, at the
    destination of the path. -/
theorem slot_eq_named {location : Location} {trailing : Bool}
    (hslot : workspace.slot path = .ok (.named location trailing)) :
    location = workspace.destination path ∧ (trailing = false → workspace.Reaches path)
      ∧ ∃ outer name, location = outer ++ [name] ∧ IsName name
        ∧ workspace.disk.entry? outer = some .directory := by
  rw [slot, bind_eq_ok_iff] at hslot
  obtain ⟨found, hroute, hslot⟩ := hslot
  obtain rfl := route_eq_ok hroute
  split at hslot
  · cases Except.ok.inj hslot
  · next last outer hlast =>
      have hnames : names path = outer.reverse ++ [last] := by
        rw [← List.reverse_cons, ← hlast, List.reverse_reverse]
        rfl
      rw [bind_eq_ok_iff] at hslot
      obtain ⟨place, hreach, hslot⟩ := hslot
      obtain ⟨hadmits, rfl⟩ := (h.disk.reach_eq_ok_iff h.start).mp hreach
      obtain ⟨houter, hparent, -⟩ := admits_append.mp hadmits
      -- the dot behind the outer names asks for a directory there
      have hdot : followAll (workspace.start path) (outer.reverse ++ ["."])
          = followAll (workspace.start path) outer.reverse := followAll_append ..
      rw [hdot, placeAt, hparent] at hslot
      dsimp only at hslot
      split at hslot
      · cases Except.ok.inj hslot
      · next hdots =>
          rw [not_or] at hdots
          split at hslot
          · cases hslot
          · next hlong =>
              obtain ⟨rfl, rfl⟩ := Slot.named.inj (Except.ok.inj hslot)
              have hname := isName_of_mem_names hroute (by rw [hnames]; simp) hdots.1 hdots.2
                (Nat.not_lt.mp hlong)
              have hdestination : workspace.destination path
                  = followAll (workspace.start path) outer.reverse ++ [last] := by
                rw [destination, hnames, followAll_append]
                exact follow_of_isSegment hname.toIsSegment _
              refine ⟨hdestination.symm, ?_, _, last, rfl, hname, hparent⟩
              intro htrailing
              refine ⟨hroute, ?_⟩
              rw [Route.steps, htrailing, if_neg Bool.false_ne_true]
              show workspace.disk.Admits _ (names path)
              rw [hnames]
              exact admits_append.mpr ⟨houter, hparent, hname.short, trivial⟩

end

/-- Where the last segment of a path stands is no matter of more directories. -/
theorem slot_mono {before after : Workspace} (h : before.IsPlain) (hafter : after.IsPlain)
    (hdirectory : after.directory = before.directory)
    (hkept : ∀ location, before.disk.entry? location = some .directory →
      after.disk.entry? location = some .directory)
    {found : Slot} (hslot : before.slot path = .ok found) : after.slot path = .ok found := by
  rw [slot, bind_eq_ok_iff] at hslot ⊢
  obtain ⟨taken, hroute, hslot⟩ := hslot
  refine ⟨taken, hroute, ?_⟩
  obtain rfl := route_eq_ok hroute
  split at hslot
  · exact hslot
  · next last outer hlast =>
      rw [bind_eq_ok_iff] at hslot ⊢
      obtain ⟨place, hreach, hslot⟩ := hslot
      refine ⟨place, ?_, hslot⟩
      obtain ⟨hadmits, rfl⟩ := (h.disk.reach_eq_ok_iff h.start).mp hreach
      have hstart : after.origin (Route.parse path) = before.start path := start_congr hdirectory _
      rw [hstart]
      refine (hafter.disk.reach_eq_ok_iff (hkept _ h.start)).mpr ⟨hadmits.mono hkept, ?_⟩
      -- the dot behind the outer names asks for a directory there
      have hparent := (admits_append.mp hadmits).2.1
      have hdot : followAll (before.start path) (outer.reverse ++ ["."])
          = followAll (before.start path) outer.reverse := followAll_append ..
      show before.disk.placeAt (followAll (before.start path) (outer.reverse ++ ["."])) = _
      rw [hdot, placeAt, hparent, placeAt, hkept _ hparent]

end Workspace

end IconCompiler
