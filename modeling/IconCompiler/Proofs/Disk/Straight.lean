import IconCompiler.Proofs.Disk.Below
import IconCompiler.Proofs.Disk.Changes

/-! # Straight paths

    A path without dots leads down only, from one of its names to the next
    (`destination_of_straight`).  On a disk without links the first name that
    stops one on the way tells the error (`reachBy_dot`), and if nothing does the
    last segment of a path can be looked up (`slot_eq`) and made a directory
    (`ensureDirectory_eq`). -/

namespace IconCompiler

open Disk IconCompiler.Path

namespace Path

/-- A path name without a segment of one or two dots. -/
def IsStraight (path : String) : Prop :=
  ∀ name ∈ names path, name ≠ "." ∧ name ≠ ".."

variable {path : String}

theorem IsStraight.isSegment (h : IsStraight path) {name : String} (hname : name ∈ names path) :
    IsSegment name := by
  obtain ⟨hmem, hnonempty⟩ := List.mem_filter.mp hname
  exact ⟨by simpa using hnonempty, (h name hname).1, (h name hname).2, slash_not_mem_segment hmem⟩

/-- Without dots a path name is made up of the name of its parent and its last
    segment. -/
theorem IsStraight.names_of_splitLast (h : IsStraight path) {parent last : String}
    (hsplit : splitLast? path = some (parent, last)) : names path = names parent ++ [last] := by
  obtain ⟨before, behind, hnames, hbefore, hbehind⟩ := (splitLast?_spec hsplit).names
  have hmem : ∀ name, name ∈ before ∨ name ∈ behind → name ∈ names path := by
    intro name hname
    rw [hnames]
    rcases hname with hname | hname <;> simp [hname]
  have hnone : before = [] ∧ behind = [] := by
    constructor
    · exact List.eq_nil_iff_forall_not_mem.mpr fun name hname =>
        (h name (hmem name (.inl hname))).1 (hbefore name hname)
    · exact List.eq_nil_iff_forall_not_mem.mpr fun name hname =>
        (h name (hmem name (.inr hname))).1 (hbehind name hname)
  rw [hnames, hnone.1, hnone.2, List.append_nil, List.append_nil]

theorem IsStraight.parent (h : IsStraight path) {parent last : String}
    (hsplit : splitLast? path = some (parent, last)) : IsStraight parent := by
  intro name hname
  refine h name ?_
  rw [h.names_of_splitLast hsplit]
  exact List.mem_append_left _ hname

/-- Where the last segment of a path stands, once the directory for it is there. -/
def slotIn (path last : String) (location : Location) : Except Fault Slot :=
  (route path).bind fun found =>
    if maxNameLength < last.utf8ByteSize then .error .nameTooLong
    else .ok (.named location found.trailing)

theorem slotIn_ne_dots {last : String} {location : Location} :
    slotIn path last location ≠ .ok .dots := by
  rw [slotIn]
  cases route path with
  | error fault => exact nofun
  | ok found =>
      show (if _ then _ else _) ≠ _
      split <;> exact nofun

theorem location_of_slotIn {last : String} {location other : Location} {trailing : Bool}
    (h : slotIn path last location = .ok (.named other trailing)) : other = location := by
  rw [slotIn] at h
  cases hroute : route path with
  | error fault =>
      rw [hroute] at h
      cases h
  | ok found =>
      rw [hroute] at h
      replace h : (if _ then _ else _) = _ := h
      split at h
      · cases h
      · exact (Slot.named.inj (Except.ok.inj h)).1.symm

theorem IsStraight.names_eq_nil (h : IsStraight path) (hsplit : splitLast? path = none) :
    names path = [] :=
  List.eq_nil_iff_forall_not_mem.mpr fun name hname =>
    (h name hname).1 (eq_dot_of_splitLast? hsplit name hname)

/-- A straight path that ends in no name is a root or empty. -/
theorem IsStraight.names_of_fileName (h : IsStraight path) (hname : fileName? path = none) :
    names path = [] := by
  rw [fileName?] at hname
  split at hname
  · next hsplit => exact h.names_eq_nil hsplit
  · next parent last hsplit =>
      have hmem : last ∈ names path := by
        rw [h.names_of_splitLast hsplit]
        simp
      split at hname
      · next hdots =>
          rcases hdots with hdot | hdots
          · exact absurd hdot (h last hmem).1
          · exact absurd hdots (h last hmem).2
      · cases hname

end Path

namespace Disk

theorem followAll_of_segments {names : List String} (h : ∀ name ∈ names, IsSegment name)
    (location : Location) : followAll location names = location ++ names := by
  induction names generalizing location with
  | nil => exact (List.append_nil location).symm
  | cons name rest ih =>
      obtain ⟨hname, hrest⟩ := List.forall_mem_cons.mp h
      rw [followAll, List.foldl_cons, follow_of_isSegment hname]
      exact (ih hrest (location ++ [name])).trans (List.append_assoc ..)

/-! ## What stops one on the way down -/

/-- What first stops one who follows names down from a directory to another. -/
def barrier? (disk : Disk) : Location → List String → Option Fault
  | _, [] => none
  | location, name :: rest =>
    if maxNameLength < name.utf8ByteSize then some .nameTooLong
    else
      match disk.entry? (location ++ [name]) with
      | none => some .noSuchFile
      | some .directory => disk.barrier? (location ++ [name]) rest
      | some _ => some .notADirectory

section

variable {disk : Disk} {location : Location} {names more : List String}

theorem barrier?_append : disk.barrier? location (names ++ more)
    = (disk.barrier? location names).or (disk.barrier? (location ++ names) more) := by
  induction names generalizing location with
  | nil => rw [List.append_nil]; rfl
  | cons name rest ih =>
      rw [List.cons_append, barrier?, barrier?]
      split
      · rfl
      · cases disk.entry? (location ++ [name]) with
        | none => rfl
        | some entry =>
            cases entry with
            | directory =>
                refine ih.trans ?_
                rw [List.append_assoc]
                rfl
            | file content => rfl
            | link target => rfl

theorem barrier?_ne_alreadyExists : disk.barrier? location names ≠ some .alreadyExists := by
  induction names generalizing location with
  | nil => simp [barrier?]
  | cons name rest ih =>
      rw [barrier?]
      split
      · decide
      · split
        · decide
        · exact ih
        · decide

/-- Nothing stops one on the way to a directory that is there. -/
theorem IsPlain.barrier?_eq_none (h : disk.IsPlain)
    (hentry : disk.entry? (location ++ names) = some .directory) :
    disk.barrier? location names = none := by
  induction names generalizing location with
  | nil => rfl
  | cons name rest ih =>
      rw [List.append_cons] at hentry
      have hdirectory : disk.entry? (location ++ [name]) = some .directory := by
        by_contra hother
        by_cases hrest : rest = []
        · rw [hrest, List.append_nil] at hentry
          exact hother hentry
        · rw [h.entry?_below hrest hother] at hentry
          cases hentry
      rw [barrier?, if_neg (Nat.not_lt.mpr (h.named hdirectory).short), hdirectory]
      exact ih hentry

/-- A way that nothing stops can be followed, and ends at a directory. -/
theorem admits_of_barrier (hnames : ∀ name ∈ names, IsSegment name)
    (hdirectory : disk.entry? location = some .directory)
    (hfree : disk.barrier? location names = none) :
    disk.Admits location names ∧ disk.entry? (location ++ names) = some .directory := by
  induction names generalizing location with
  | nil => exact ⟨trivial, by rwa [List.append_nil]⟩
  | cons name rest ih =>
      obtain ⟨hname, hrest⟩ := List.forall_mem_cons.mp hnames
      rw [barrier?] at hfree
      split at hfree
      · cases hfree
      · next hshort =>
          split at hfree
          · cases hfree
          · next hentry =>
              obtain ⟨hadmits, hend⟩ := ih hrest hentry hfree
              rw [List.append_assoc] at hend
              refine ⟨⟨hdirectory, Nat.not_lt.mp hshort, ?_⟩, hend⟩
              rw [follow_of_isSegment hname]
              exact hadmits
          · cases hfree

/-- One who looks for a directory is told what stops him on the way there. -/
theorem IsPlain.reachBy_dot (h : disk.IsPlain) {follows : Bool}
    {enter : Location → List String → Except Fault Place} {fault : Fault}
    (hnames : ∀ name ∈ names, IsSegment name)
    (hbarrier : disk.barrier? location names = some fault) :
    Workspace.reachBy disk follows enter location (names ++ ["."]) = .error fault := by
  induction names generalizing location with
  | nil => cases hbarrier
  | cons name rest ih =>
      obtain ⟨hname, hrest⟩ := List.forall_mem_cons.mp hnames
      rw [List.cons_append, Workspace.reachBy, if_neg hname.not_dot, if_neg hname.not_dots]
      rw [barrier?] at hbarrier
      split at hbarrier
      · next hlong =>
          rw [if_pos hlong]
          exact congrArg Except.error (Option.some.inj hbarrier)
      · next hshort =>
          rw [if_neg hshort]
          split at hbarrier
          · next hentry =>
              rw [hentry]
              dsimp only
              rw [if_neg (by simp)]
              exact congrArg Except.error (Option.some.inj hbarrier)
          · next hentry =>
              rw [hentry]
              exact ih hrest hbarrier
          · next entry hkind hentry =>
              cases entry with
              | directory => exact absurd rfl hkind
              | file content =>
                  rw [hentry]
                  dsimp only
                  rw [if_neg (by simp)]
                  exact congrArg Except.error (Option.some.inj hbarrier)
              | link target => exact absurd hentry h.unlinked

end

end Disk

namespace Workspace

variable {workspace : Workspace} {path last : String} {outer : List String}

theorem destination_of_straight (workspace : Workspace) (hstraight : IsStraight path) :
    workspace.destination path = workspace.start path ++ names path :=
  followAll_of_segments (fun _ hname => hstraight.isSegment hname) _

/-- The last segment of a path is looked for in the directory that those in front
    of it lead to. -/
theorem slot_of_names (workspace : Workspace) (hnames : names path = outer ++ [last])
    (hroute : route path = .ok (Route.parse path)) :
    workspace.slot path = (reach workspace.disk true maxLinks (workspace.start path)
      (outer ++ ["."])).bind fun
        | .vacant _ => .error .noSuchFile
        | .taken parent _ =>
          if last = "." ∨ last = ".." then .ok .dots
          else if maxNameLength < last.utf8ByteSize then .error .nameTooLong
          else .ok (.named (parent ++ [last]) (Route.parse path).trailing) := by
  have hreversed : (Route.parse path).names.reverse = last :: outer.reverse := by
    rw [show (Route.parse path).names = outer ++ [last] from hnames, List.reverse_append]
    rfl
  rw [slot, hroute]
  simp only [bind, Except.bind, hreversed, List.reverse_reverse]
  rfl

section

variable (h : workspace.IsPlain)
include h

/-- A path whose directory can be reached has its last segment there, unless the
    operating system does not take it. -/
theorem IsPlain.slot_eq (hnames : names path = outer ++ [last]) (hlast : IsSegment last)
    (hadmits : workspace.disk.Admits (workspace.start path) outer)
    (hdirectory : workspace.disk.entry? (followAll (workspace.start path) outer)
      = some .directory) :
    workspace.slot path = slotIn path last (workspace.destination path) := by
  have hreach : reach workspace.disk true maxLinks (workspace.start path) (outer ++ ["."])
      = .ok (.taken (followAll (workspace.start path) outer) .directory) := by
    refine (h.disk.reach_eq_ok_iff h.start).mpr ⟨?_, ?_⟩
    · exact admits_append.mpr ⟨hadmits, hdirectory, by decide, trivial⟩
    · rw [followAll_append]
      exact (placeAt_eq_taken.mpr ⟨rfl, hdirectory⟩).symm
  have hdestination : workspace.destination path
      = followAll (workspace.start path) outer ++ [last] := by
    rw [destination, hnames, followAll_append]
    exact follow_of_isSegment hlast _
  cases hroute : route path with
  | error fault => rw [slot, slotIn, hroute]; rfl
  | ok found =>
      obtain rfl := route_eq_ok hroute
      rw [slot_of_names workspace hnames hroute, slotIn, hroute, hreach, hdestination]
      exact if_neg (not_or.mpr ⟨hlast.not_dot, hlast.not_dots⟩)

theorem IsPlain.slot_of_barrier (hstraight : IsStraight path) (hnames : names path = outer ++ [last])
    (hroute : route path = .ok (Route.parse path)) {fault : Fault}
    (hbarrier : workspace.disk.barrier? (workspace.start path) outer = some fault) :
    workspace.slot path = .error fault := by
  have hsegments : ∀ name ∈ outer, IsSegment name := fun name hname =>
    hstraight.isSegment (hnames ▸ List.mem_append_left _ hname)
  have hreach : reach workspace.disk true maxLinks (workspace.start path) (outer ++ ["."])
      = .error fault := h.disk.reachBy_dot hsegments hbarrier
  rw [slot_of_names workspace hnames hroute, hreach]
  rfl

/-- A straight path leads somewhere if nothing stops one on the way to a
    directory at its end. -/
theorem IsPlain.reaches_of_barrier (hstraight : IsStraight path)
    (hroute : route path = .ok (Route.parse path))
    (hfree : workspace.disk.barrier? (workspace.start path) (names path) = none) :
    workspace.Reaches path := by
  obtain ⟨hadmits, hdirectory⟩ :=
    admits_of_barrier (fun _ hname => hstraight.isSegment hname) h.start hfree
  refine ⟨hroute, ?_⟩
  rw [Route.steps]
  split
  · refine admits_append.mpr ⟨hadmits, ?_, by decide, trivial⟩
    rw [← hdirectory]
    exact congrArg _ (followAll_of_segments (fun _ hname => hstraight.isSegment hname) _)
  · exact hadmits

/-- A straight path leads to a file that is there, unless it asks for a directory. -/
theorem IsPlain.reaches_iff_of_file (hstraight : IsStraight path) {content : ByteArray}
    (hfile : workspace.disk.entry? (workspace.destination path) = some (.file content)) :
    workspace.Reaches path
      ↔ route path = .ok (Route.parse path) ∧ (Route.parse path).trailing = false := by
  constructor
  · intro hreaches
    refine ⟨hreaches.taken, ?_⟩
    by_contra htrailing
    have hadmits := hreaches.admits
    rw [Route.steps, if_pos (by simpa using htrailing)] at hadmits
    have hdirectory := (admits_append.mp hadmits).2.1
    rw [show followAll (workspace.start path) (Route.parse path).names = workspace.destination path
      from rfl, hfile] at hdirectory
    cases hdirectory
  · rintro ⟨hroute, htrailing⟩
    refine ⟨hroute, ?_⟩
    rw [Route.steps, htrailing, if_neg Bool.false_ne_true]
    show workspace.disk.Admits _ (names path)
    have hentry := hfile
    rw [destination_of_straight workspace hstraight] at hentry
    rcases List.eq_nil_or_concat (names path) with hnil | ⟨outer, last, hnames⟩
    · rw [hnil]
      trivial
    · rw [List.concat_eq_append] at hnames
      rw [hnames, ← List.append_assoc] at hentry
      have hsegments : ∀ name ∈ outer, IsSegment name := fun name hname =>
        hstraight.isSegment (hnames ▸ List.mem_append_left _ hname)
      obtain ⟨hadmits, hdirectory⟩ := admits_of_barrier hsegments h.start
        (h.disk.barrier?_eq_none (h.disk.standing hentry))
      rw [← followAll_of_segments hsegments] at hdirectory
      rw [hnames]
      exact admits_append.mpr ⟨hadmits, hdirectory, (h.disk.named hentry).short, trivial⟩

/-- How a directory is made in one that is there. -/
theorem IsPlain.ensureDirectory_eq (hstraight : IsStraight path)
    (hnames : names path = outer ++ [last]) (hroute : route path = .ok (Route.parse path))
    (hfree : workspace.disk.barrier? (workspace.start path) outer = none) :
    workspace.ensureDirectory path
      = if maxNameLength < last.utf8ByteSize then .error .nameTooLong
        else
          match workspace.disk.entry? (workspace.destination path) with
          | none => .ok (workspace.perform (.makeDirectory (workspace.destination path)))
          | some .directory => .ok workspace
          | some _ => .error .alreadyExists := by
  have hsegments : ∀ name ∈ outer, IsSegment name := fun name hname =>
    hstraight.isSegment (hnames ▸ List.mem_append_left _ hname)
  have hlast : IsSegment last := hstraight.isSegment (by rw [hnames]; simp)
  obtain ⟨hadmits, hdirectory⟩ := admits_of_barrier hsegments h.start hfree
  rw [← followAll_of_segments hsegments] at hdirectory
  have hdestination := destination_of_straight workspace hstraight
  have hslot := h.slot_eq hnames hlast hadmits hdirectory
  rw [slotIn, hroute] at hslot
  rw [ensureDirectory, makeDirectory, hslot]
  by_cases hlong : maxNameLength < last.utf8ByteSize
  · simp [Except.bind, bind, hlong, show Fault.nameTooLong ≠ .alreadyExists by decide]
  · simp only [Except.bind, bind, hlong, if_false]
    cases hentry : workspace.disk.entry? (workspace.destination path) with
    | none => rfl
    | some entry =>
        have hleads : workspace.isDirectory path = true ↔ entry = .directory := by
          rw [isDirectory_iff h, hentry, Option.some.injEq, and_iff_right_iff_imp]
          rintro rfl
          rw [hdestination] at hentry
          exact h.reaches_of_barrier hstraight hroute (h.disk.barrier?_eq_none hentry)
        cases entry with
        | directory => simp [hleads.mpr rfl]
        | file content => simp [hleads]
        | link target => simp [hleads]

end

end Workspace

end IconCompiler
