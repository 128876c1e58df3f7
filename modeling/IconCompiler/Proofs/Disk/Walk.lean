import IconCompiler.Disk.Walk
import IconCompiler.Proofs.Disk.Below
import IconCompiler.Proofs.Text.Bytes

/-! # Walks on disks without links

    A walk comes to whatever stands below its root in a directory that can be
    reached, and to nothing else (`mem_walk_iff`); a directory that cannot be
    listed is a fault.  Files and faults are visited in the order of the names
    that lead to them, compared one by one as bytes
    (`subjects_walk_pairwise`), so none of them is visited twice. -/

namespace IconCompiler

open Disk IconCompiler.Path

/-! ## What visits are about -/

/-- The path of a file that is visited. -/
def Visit.file? : Visit → Option String
  | .entry path .file => some path
  | _ => none

theorem Visit.file?_eq_some {visit : Visit} {path : String} :
    visit.file? = some path ↔ visit = .entry path .file := by
  cases visit with
  | entry other kind => cases kind <;> simp [file?]
  | fault other fault => simp [file?]
  | loop other ancestor => simp [file?]

/-- The path of a file that is visited, or of what cannot be visited. -/
def Visit.subject? : Visit → Option String
  | .entry path .file => some path
  | .entry _ _ => none
  | .fault path _ => some path
  | .loop path _ => some path

theorem Visit.subject?_of_file? {visit : Visit} {path : String} (h : visit.file? = some path) :
    visit.subject? = some path := by
  rw [Visit.file?_eq_some.mp h]
  rfl

namespace Workspace

/-- Two paths below a directory, of which the first is told apart from the second
    by a name with smaller bytes, or ends where the second goes on. -/
def Precedes (directory path other : String) : Prop :=
  ∃ names more, (∀ name ∈ names, IsSegment name) ∧ (∀ name ∈ more, IsSegment name)
    ∧ path = joinAll directory names ∧ other = joinAll directory more
    ∧ names.map Text.bytes < more.map Text.bytes

theorem joinAll_inj {directory : String} {names more : List String} (hne : directory ≠ "")
    (hnames : ∀ name ∈ names, IsSegment name) (hmore : ∀ name ∈ more, IsSegment name)
    (h : joinAll directory names = joinAll directory more) : names = more := by
  have hsame := congrArg (destination (.ofDisk .empty [])) h
  rw [destination_joinAll _ hne hnames, destination_joinAll _ hne hmore] at hsame
  exact List.append_cancel_left hsame

theorem Precedes.asymm {directory path other : String} (hne : directory ≠ "")
    (h : Precedes directory path other) : ¬ Precedes directory other path := by
  rintro ⟨second, first, hsecond, hfirst, rfl, rfl, hlt⟩
  obtain ⟨names, more, hnames, hmore, hpath, hother, hlt'⟩ := h
  obtain rfl := joinAll_inj hne hfirst hnames hpath
  obtain rfl := joinAll_inj hne hsecond hmore hother
  exact List.lt_asymm hlt hlt'

theorem Precedes.of_join {directory name path other : String} (hname : IsSegment name)
    (h : Precedes (join directory name) path other) : Precedes directory path other := by
  obtain ⟨names, more, hnames, hmore, rfl, rfl, hlt⟩ := h
  exact ⟨name :: names, name :: more, List.forall_mem_cons.mpr ⟨hname, hnames⟩,
    List.forall_mem_cons.mpr ⟨hname, hmore⟩, rfl, rfl, List.cons_lt_cons_iff.mpr (.inr ⟨rfl, hlt⟩)⟩

/-! ## Visits of one entry -/

/-- What a visit finds at a path itself, whatever stands below it. -/
inductive Concerns (workspace : Workspace) (path : String) : Entry → Visit → Prop
  | entry (found : Entry) : Concerns workspace path found (.entry path found.kind)
  | fault {fault : Fault} (h : workspace.list path = .error fault) :
      Concerns workspace path .directory (.fault path fault)

theorem Concerns.subject_eq {workspace : Workspace} {path subject : String} {found : Entry}
    {visited : Visit} (h : workspace.Concerns path found visited)
    (hsubject : visited.subject? = some subject) : subject = path := by
  cases h with
  | entry found =>
      cases found with
      | file content => exact (Option.some.inj hsubject).symm
      | directory => exact absurd hsubject (by simp [Entry.kind, Visit.subject?])
      | link target => exact absurd hsubject (by simp [Entry.kind, Visit.subject?])
  | fault hlist => exact (Option.some.inj hsubject).symm

/-- Names lead from a directory to an entry, and each directory on the way to it
    can be reached. -/
structure ComesTo (workspace : Workspace) (directory : String) (names : List String)
    (found : Entry) : Prop where
  segments : ∀ name ∈ names, IsSegment name
  stands : workspace.disk.entry? (workspace.destination directory ++ names) = some found
  approached : names ≠ [] → workspace.Reaches (joinAll directory names.dropLast)

theorem comesTo_nil_iff {workspace : Workspace} {directory : String} {found : Entry} :
    workspace.ComesTo directory [] found
      ↔ workspace.disk.entry? (workspace.destination directory) = some found := by
  constructor
  · intro h
    have hstands := h.stands
    rwa [List.append_nil] at hstands
  · intro hstands
    exact ⟨by simp, by rwa [List.append_nil], fun hnil => absurd rfl hnil⟩

theorem comesTo_cons_iff {workspace : Workspace} {directory name : String} {rest : List String}
    {found : Entry} (hne : directory ≠ "") :
    workspace.ComesTo directory (name :: rest) found
      ↔ IsSegment name ∧ workspace.Reaches directory
        ∧ workspace.ComesTo (join directory name) rest found := by
  have hplace (hname : IsSegment name) : workspace.destination directory ++ name :: rest
      = workspace.destination (join directory name) ++ rest := by
    rw [destination_join workspace hne hname, List.append_assoc]
    rfl
  constructor
  · intro h
    obtain ⟨hname, hrest⟩ := List.forall_mem_cons.mp h.segments
    have hlast := h.approached (List.cons_ne_nil _ _)
    have hreaches : workspace.Reaches directory := hlast.of_joinAll hne
      fun segment hmem => h.segments segment (List.dropLast_subset _ hmem)
    refine ⟨hname, hreaches, hrest, hplace hname ▸ h.stands, ?_⟩
    intro hmore
    rwa [List.dropLast_cons_of_ne_nil hmore] at hlast
  · rintro ⟨hname, hreaches, h⟩
    refine ⟨List.forall_mem_cons.mpr ⟨hname, h.segments⟩, hplace hname ▸ h.stands, ?_⟩
    rintro -
    by_cases hmore : rest = []
    · rw [hmore]
      exact hreaches
    · rw [List.dropLast_cons_of_ne_nil hmore]
      exact h.approached hmore

theorem comesTo_of_reaches {workspace : Workspace} {directory : String} {names : List String}
    {found : Entry} (hne : directory ≠ "") (hnames : ∀ name ∈ names, IsSegment name)
    (hreaches : workspace.Reaches (joinAll directory names))
    (hstands : workspace.disk.entry? (workspace.destination directory ++ names) = some found) :
    workspace.ComesTo directory names found := by
  refine ⟨hnames, hstands, fun hmore => ?_⟩
  have hlast : joinAll directory names
      = joinAll (joinAll directory names.dropLast) [names.getLast hmore] := by
    rw [← joinAll_append, List.dropLast_concat_getLast]
  rw [hlast] at hreaches
  refine hreaches.of_joinAll (joinAll_ne_empty hne _) ?_
  intro name hname
  rw [List.mem_singleton.mp hname]
  exact hnames _ (List.getLast_mem hmore)

section

variable {workspace : Workspace} (h : workspace.IsPlain) {follow : Bool}
include h

theorem list_eq_ok_iff {path : String} {location : Location} {found : List (String × Entry)} :
    workspace.list path = .ok (location, found)
      ↔ workspace.Reaches path ∧ location = workspace.destination path
        ∧ workspace.disk.entry? location = some .directory
        ∧ found = workspace.disk.children location := by
  rw [list, bind_eq_ok_iff]
  constructor
  · rintro ⟨⟨place, entry⟩, hentry, hfound⟩
    obtain ⟨hreaches, rfl, hstands⟩ := (entryAt_eq_ok_iff h).mp hentry
    cases entry with
    | directory =>
        obtain ⟨rfl, rfl⟩ := Prod.mk.inj (Except.ok.inj hfound)
        exact ⟨hreaches, rfl, hstands, rfl⟩
    | file content => exact absurd hfound (by simp)
    | link target => exact absurd hfound (by simp)
  · rintro ⟨hreaches, hlocation, hstands, rfl⟩
    exact ⟨_, (entryAt_eq_ok_iff h).mpr ⟨hreaches, hlocation, hstands⟩, rfl⟩

theorem mem_children_destination {path name : String} {child : Entry} (hne : path ≠ "") :
    (name, child) ∈ workspace.disk.children (workspace.destination path)
      ↔ IsSegment name
        ∧ workspace.disk.entry? (workspace.destination (join path name)) = some child := by
  constructor
  · intro hchild
    obtain ⟨hname, -⟩ := h.disk.child hchild
    rw [mem_children] at hchild
    exact ⟨hname, by rwa [destination_join workspace hne hname]⟩
  · rintro ⟨hname, hchild⟩
    rwa [mem_children, ← destination_join workspace hne hname]

/-- Whatever is visited concerns something below the path where the visit
    begins. -/
theorem exists_of_mem_visit {depth : Nat} {ancestors : List Ancestor} {path : String}
    {entry : Entry} {visited : Visit} (hne : path ≠ "")
    (hentry : workspace.disk.entry? (workspace.destination path) = some entry)
    (hmem : visited ∈ workspace.visit follow depth ancestors path entry) :
    ∃ names found, workspace.ComesTo path names found
      ∧ workspace.Concerns (joinAll path names) found visited := by
  induction depth generalizing ancestors path entry with
  | zero => simp [visit] at hmem
  | succ depth ih =>
      have hown := comesTo_nil_iff.mpr hentry
      cases entry with
      | file content =>
          rw [visit] at hmem
          rw [List.mem_singleton.mp hmem]
          exact ⟨[], _, hown, .entry _⟩
      | directory =>
          rw [visit] at hmem
          rcases List.mem_cons.mp hmem with rfl | hinside
          · exact ⟨[], _, hown, .entry _⟩
          rw [visitInside] at hinside
          split at hinside
          · next fault hlist =>
              rw [List.mem_singleton.mp hinside]
              exact ⟨[], _, hown, .fault hlist⟩
          · next location found hlist =>
              obtain ⟨hreaches, rfl, -, rfl⟩ := (list_eq_ok_iff h).mp hlist
              obtain ⟨⟨name, child⟩, hchild, hvisit⟩ := List.mem_flatMap.mp hinside
              obtain ⟨hname, hstands⟩ := (mem_children_destination h hne).mp hchild
              obtain ⟨names, entry, hcomes, hconcerns⟩ :=
                ih (join_ne_empty hne name) hstands hvisit
              exact ⟨name :: names, entry, (comesTo_cons_iff hne).mpr ⟨hname, hreaches, hcomes⟩,
                hconcerns⟩
      | link target => exact absurd hentry h.disk.unlinked

/-- Whatever a visit comes to is visited, if the visit goes deep enough. -/
theorem mem_visit_of_comesTo {depth : Nat} {ancestors : List Ancestor} {path : String}
    {entry found : Entry} {names : List String} {visited : Visit} (hne : path ≠ "")
    (hdepth : names.length < depth)
    (hentry : workspace.disk.entry? (workspace.destination path) = some entry)
    (hcomes : workspace.ComesTo path names found)
    (hconcerns : workspace.Concerns (joinAll path names) found visited) :
    visited ∈ workspace.visit follow depth ancestors path entry := by
  induction names generalizing depth ancestors path entry with
  | nil =>
      obtain ⟨depth, rfl⟩ := Nat.exists_eq_succ_of_ne_zero (Nat.ne_of_gt hdepth)
      obtain rfl := Option.some.inj (hentry.symm.trans (comesTo_nil_iff.mp hcomes))
      cases entry with
      | file content =>
          rw [visit]
          cases hconcerns with
          | entry => exact List.mem_singleton_self _
      | directory =>
          rw [visit]
          cases hconcerns with
          | entry => exact List.mem_cons_self ..
          | fault hlist =>
              rw [visitInside, show workspace.list path = _ from hlist]
              exact List.mem_cons_of_mem _ (List.mem_singleton_self _)
      | link target => exact absurd hentry h.disk.unlinked
  | cons name rest ih =>
      obtain ⟨depth, rfl⟩ := Nat.exists_eq_succ_of_ne_zero (Nat.ne_of_gt (Nat.zero_lt_of_lt hdepth))
      obtain ⟨hname, hreaches, hcomes⟩ := (comesTo_cons_iff hne).mp hcomes
      obtain ⟨child, hchild⟩ := h.disk.exists_entry?_of_below hcomes.stands
      have hdirectory : workspace.disk.entry? (workspace.destination path) = some .directory := by
        rw [destination_join workspace hne hname] at hchild
        exact h.disk.standing hchild
      obtain rfl := Option.some.inj (hentry.symm.trans hdirectory)
      rw [visit, visitInside, (list_eq_ok_iff h).mpr ⟨hreaches, rfl, hdirectory, rfl⟩]
      refine List.mem_cons_of_mem _ (List.mem_flatMap.mpr ⟨(name, child), ?_, ?_⟩)
      · exact (mem_children_destination h hne).mpr ⟨hname, hchild⟩
      · exact ih (join_ne_empty hne name) (Nat.lt_of_succ_lt_succ hdepth) hchild hcomes hconcerns

/-- Subjects of visits stand below the path where the visit begins. -/
theorem exists_joinAll_of_mem_visit {depth : Nat} {ancestors : List Ancestor} {path : String}
    {entry : Entry} {visited : Visit} {subject : String} (hne : path ≠ "")
    (hentry : workspace.disk.entry? (workspace.destination path) = some entry)
    (hmem : visited ∈ workspace.visit follow depth ancestors path entry)
    (hsubject : visited.subject? = some subject) :
    ∃ names, (∀ name ∈ names, IsSegment name) ∧ subject = joinAll path names := by
  obtain ⟨names, found, hcomes, hconcerns⟩ := exists_of_mem_visit h hne hentry hmem
  exact ⟨names, hcomes.segments, hconcerns.subject_eq hsubject⟩

/-- Files and faults are visited in the order of the names that lead to them. -/
theorem subjects_visit_pairwise {depth : Nat} {ancestors : List Ancestor} {path : String}
    {entry : Entry} (hne : path ≠ "")
    (hentry : workspace.disk.entry? (workspace.destination path) = some entry) :
    ((workspace.visit follow depth ancestors path entry).filterMap Visit.subject?).Pairwise
      (Precedes path) := by
  induction depth generalizing ancestors path entry with
  | zero => simp [visit]
  | succ depth ih =>
      cases entry with
      | file content =>
          rw [visit]
          exact List.pairwise_singleton ..
      | directory =>
          rw [visit, List.filterMap_cons_none rfl, visitInside]
          split
          · exact List.pairwise_singleton ..
          next location found hlist =>
            obtain ⟨-, rfl, -, rfl⟩ := (list_eq_ok_iff h).mp hlist
            rw [List.filterMap_flatMap, List.pairwise_flatMap]
            refine ⟨?_, ?_⟩
            · intro child hchild
              obtain ⟨hname, hstands⟩ := (mem_children_destination h hne).mp hchild
              exact (ih (join_ne_empty hne child.1) hstands).imp
                fun hbefore => hbefore.of_join hname
            -- what stands below different names is told apart by them
            · refine (children_pairwise ..).imp_of_mem ?_
              intro child other hchild hother hlt subject hsubject subject' hsubject'
              obtain ⟨hname, hstands⟩ := (mem_children_destination h hne).mp hchild
              obtain ⟨hname', hstands'⟩ := (mem_children_destination h hne).mp hother
              obtain ⟨visited, hvisited, hpath⟩ := List.mem_filterMap.mp hsubject
              obtain ⟨visited', hvisited', hpath'⟩ := List.mem_filterMap.mp hsubject'
              obtain ⟨names, hnames, rfl⟩ :=
                exists_joinAll_of_mem_visit h (join_ne_empty hne child.1) hstands hvisited hpath
              obtain ⟨more, hmore, rfl⟩ :=
                exists_joinAll_of_mem_visit h (join_ne_empty hne other.1) hstands' hvisited' hpath'
              exact ⟨child.1 :: names, other.1 :: more, List.forall_mem_cons.mpr ⟨hname, hnames⟩,
                List.forall_mem_cons.mpr ⟨hname', hmore⟩, rfl, rfl,
                List.cons_lt_cons_iff.mpr (.inl (Text.bytes_lt_bytes hlt))⟩
      | link target => exact absurd hentry h.disk.unlinked

end

/-! ## Walks -/

section

variable {workspace : Workspace} (h : workspace.IsPlain) {follow : Bool} {root : String}
include h

/-- Without links a walk is a visit of what stands at its root. -/
theorem walk_eq_visit (hroot : workspace.Reaches root) {entry : Entry}
    (hentry : workspace.disk.entry? (workspace.destination root) = some entry) :
    workspace.walk follow root = workspace.visit follow workspace.walkDepth [] root entry := by
  rw [walk, (entryAt_eq_ok_iff h).mpr ⟨hroot, rfl, hentry⟩]
  dsimp only
  rw [if_neg]
  rintro ⟨-, hlink, -⟩
  cases entry with
  | file content => exact absurd hlink (by simp [Entry.kind])
  | directory => exact absurd hlink (by simp [Entry.kind])
  | link target => exact absurd hentry h.disk.unlinked

variable (hroot : workspace.isDirectory root = true)
include hroot

/-- A walk visits whatever it comes to below its root. -/
theorem mem_walk_iff {visited : Visit} :
    visited ∈ workspace.walk follow root
      ↔ ∃ names found, workspace.ComesTo root names found
        ∧ workspace.Concerns (joinAll root names) found visited := by
  obtain ⟨hstart, hdirectory⟩ := (isDirectory_iff h).mp hroot
  have hne : root ≠ "" := ne_empty_of_route hstart.taken
  rw [walk_eq_visit h hstart hdirectory]
  constructor
  · exact exists_of_mem_visit h hne hdirectory
  · rintro ⟨names, found, hcomes, hconcerns⟩
    refine mem_visit_of_comesTo h hne ?_ hdirectory hcomes hconcerns
    calc names.length ≤ workspace.disk.entries.entries.length := h.disk.length_le hcomes.stands
      _ < workspace.disk.entries.entries.length + 2 := by omega
      _ ≤ workspace.walkDepth := Nat.le_self_pow (by decide) _

/-- A walk visits files and faults in the order of the names that lead to
    them. -/
theorem subjects_walk_pairwise (follow : Bool) :
    ((workspace.walk follow root).filterMap Visit.subject?).Pairwise (Precedes root) := by
  obtain ⟨hstart, hdirectory⟩ := (isDirectory_iff h).mp hroot
  rw [walk_eq_visit h hstart hdirectory]
  exact subjects_visit_pairwise h (ne_empty_of_route hstart.taken) hdirectory

end

end Workspace

end IconCompiler
