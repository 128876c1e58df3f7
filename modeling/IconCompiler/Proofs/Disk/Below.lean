import IconCompiler.Proofs.Disk.Destination
import Mathlib.Data.List.Perm.Subperm
import Mathlib.Data.List.Sort
import Mathlib.Data.String.Basic

/-! # What stands below a directory

    What stands below a directory is told by the names that lead to it from
    there (`Path.joinAll`), and can be reached by them if the directory can
    (`IsPlain.reaches_joinAll`).  What stands directly in it is listed by
    increasing names (`children_pairwise`), and no way down is longer than there
    are entries on the disk (`IsPlain.length_le`). -/

namespace IconCompiler

open Disk IconCompiler.Path

/-! ## Path names below a directory -/

namespace Path

/-- The path name of what names lead to from a directory. -/
def joinAll (directory : String) (names : List String) : String :=
  names.foldl join directory

theorem joinAll_append (directory : String) (names more : List String) :
    joinAll directory (names ++ more) = joinAll (joinAll directory names) more :=
  List.foldl_append

theorem exists_join_eq (directory name : String) :
    ∃ rest, join directory name = directory ++ rest := by
  rw [join]
  split
  · exact ⟨name, rfl⟩
  · exact ⟨"/" ++ name, String.append_assoc ..⟩

theorem join_ne_empty {directory : String} (h : directory ≠ "") (name : String) :
    join directory name ≠ "" := by
  obtain ⟨rest, hrest⟩ := exists_join_eq directory name
  rw [hrest]
  intro hempty
  exact h (String.append_eq_empty_iff.mp hempty).1

theorem joinAll_ne_empty {directory : String} (h : directory ≠ "") (names : List String) :
    joinAll directory names ≠ "" := by
  induction names generalizing directory with
  | nil => exact h
  | cons name rest ih => exact ih (join_ne_empty h name)

/-- The operating system takes a path name if it takes a longer one. -/
theorem route_of_append {path rest : String} {found : Route} (hne : path ≠ "")
    (h : route (path ++ rest) = .ok found) : route path = .ok (Route.parse path) := by
  rw [route] at h
  split at h
  · cases h
  next hnul =>
    split at h
    · cases h
    split at h
    · cases h
    next hlong =>
      rw [route, if_neg, if_neg hne, if_neg]
      · rw [String.utf8ByteSize_append] at hlong
        omega
      · rw [String.toList_append] at hnul
        simp only [List.contains_append, Bool.or_eq_true, not_or] at hnul
        exact hnul.1

/-- The operating system takes the name of a directory if it takes a name below. -/
theorem route_of_join {directory name : String} {found : Route} (hne : directory ≠ "")
    (h : route (join directory name) = .ok found) :
    route directory = .ok (Route.parse directory) := by
  obtain ⟨rest, hrest⟩ := exists_join_eq directory name
  rw [hrest] at h
  exact route_of_append hne h

/-- The operating system takes a path name unless it holds a NUL, is empty or is
    too long. -/
theorem route_of_nul_not_mem {path : String} (hne : path ≠ "") (hnul : '\x00' ∉ path.toList) :
    route path = if maxLength < path.utf8ByteSize then .error .nameTooLong
      else .ok (Route.parse path) := by
  rw [route, if_neg, if_neg hne]
  rw [List.contains_iff_mem]
  exact hnul

theorem nul_not_mem_of_route {path : String} {found : Route} (h : route path = .ok found) :
    '\x00' ∉ path.toList := by
  intro hnul
  rw [route, if_pos (List.contains_iff_mem.mpr hnul)] at h
  cases h

theorem nul_not_mem_joinAll {directory : String} {names : List String}
    (hdirectory : '\x00' ∉ directory.toList) (hnames : ∀ name ∈ names, '\x00' ∉ name.toList) :
    '\x00' ∉ (joinAll directory names).toList := by
  induction names generalizing directory with
  | nil => exact hdirectory
  | cons name rest ih =>
      obtain ⟨hname, hrest⟩ := List.forall_mem_cons.mp hnames
      refine ih ?_ hrest
      rw [join]
      split <;> simp only [String.toList_append, List.mem_append, not_or]
      · exact ⟨hdirectory, hname⟩
      · exact ⟨⟨hdirectory, by decide⟩, hname⟩

theorem ne_empty_of_route {path : String} {found : Route} (h : route path = .ok found) :
    path ≠ "" := by
  rintro rfl
  cases h

/-- The file name of what is named in a directory is that name. -/
theorem fileName?_join {directory name : String} (hname : IsSegment name) :
    fileName? (join directory name) = some name := by
  have hnames := names_join_of_isSegment directory hname
  rw [fileName?]
  cases hsplit : splitLast? (join directory name) with
  | none =>
      refine absurd (eq_dot_of_splitLast? hsplit name ?_) hname.not_dot
      rw [hnames]
      simp
  | some pair =>
      obtain ⟨parent, last⟩ := pair
      obtain ⟨before, behind, haround, -, hbehind⟩ := (splitLast?_spec hsplit).names
      -- no dot stands behind the name
      have hnil : behind = [] := by
        rcases List.eq_nil_or_concat behind with hnil | ⟨front, dot, hdot⟩
        · exact hnil
        · rw [List.concat_eq_append] at hdot
          rw [hnames, hdot, ← List.append_assoc] at haround
          obtain rfl := List.singleton_inj.mp (List.append_inj' haround rfl).2
          exact absurd (hbehind name (by rw [hdot]; simp)) hname.not_dot
      rw [hnames, hnil, List.append_nil] at haround
      obtain rfl := List.singleton_inj.mp (List.append_inj' haround rfl).2
      show (if name = "." ∨ name = ".." then none else some name) = some name
      rw [if_neg (not_or.mpr ⟨hname.not_dot, hname.not_dots⟩)]

theorem steps_join {directory name : String} (hname : IsSegment name) :
    (Route.parse (join directory name)).steps = names directory ++ [name] := by
  have hlast : (join directory name).toList.getLast? = name.toList.getLast? := by
    have hne : name.toList ≠ [] := fun hnil => hname.nonempty (String.toList_eq_nil_iff.mp hnil)
    rw [join]
    split <;> simp only [String.toList_append, List.getLast?_append_of_ne_nil _ hne]
  have htrailing : (Route.parse (join directory name)).trailing = false := by
    show ((join directory name).toList.getLast? == some '/') = false
    rw [hlast]
    refine beq_eq_false_iff_ne.mpr ?_
    intro hslash
    exact hname.no_slash (List.mem_of_getLast? hslash)
  rw [Route.steps, htrailing, if_neg Bool.false_ne_true]
  exact names_join_of_isSegment directory hname

end Path

namespace Workspace

variable {workspace : Workspace} {directory : String} {names : List String}

theorem destination_joinAll (workspace : Workspace) (hne : directory ≠ "")
    (hnames : ∀ name ∈ names, IsSegment name) :
    workspace.destination (joinAll directory names) = workspace.destination directory ++ names := by
  induction names generalizing directory with
  | nil => exact (List.append_nil _).symm
  | cons name rest ih =>
      obtain ⟨hname, hrest⟩ := List.forall_mem_cons.mp hnames
      rw [joinAll, List.foldl_cons]
      refine (ih (join_ne_empty hne name) hrest).trans ?_
      rw [destination_join workspace hne hname, List.append_assoc]
      rfl

/-- A path below a directory leads somewhere if the path of the directory does. -/
theorem reaches_join_iff {name : String} (hname : IsSegment name) (hne : directory ≠ "") :
    workspace.Reaches (join directory name)
      ↔ route (join directory name) = .ok (Route.parse (join directory name))
        ∧ name.utf8ByteSize ≤ maxNameLength
        ∧ workspace.Reaches directory
        ∧ workspace.disk.entry? (workspace.destination directory) = some .directory := by
  have hstart : workspace.start (join directory name) = workspace.start directory := by
    rw [start, start, isRooted_join hne]
  have hadmits : workspace.disk.Admits (workspace.start (join directory name))
        (Route.parse (join directory name)).steps
      ↔ workspace.disk.Admits (workspace.start directory) (Path.names directory)
        ∧ workspace.disk.entry? (workspace.destination directory) = some .directory
        ∧ name.utf8ByteSize ≤ maxNameLength ∧ True := by
    rw [hstart, steps_join hname, admits_append]
    rfl
  -- a slash at the end of the directory's own path asks for a directory
  have hsteps (h : workspace.disk.entry? (workspace.destination directory) = some .directory) :
      workspace.disk.Admits (workspace.start directory) (Route.parse directory).steps
        ↔ workspace.disk.Admits (workspace.start directory) (Path.names directory) := by
    rw [Route.steps]
    split
    · rw [admits_append]
      exact and_iff_left ⟨h, by decide, trivial⟩
    · rfl
  constructor
  · rintro ⟨htaken, hreach⟩
    obtain ⟨houter, hdirectory, hshort, -⟩ := hadmits.mp hreach
    exact ⟨htaken, hshort, ⟨route_of_join hne htaken, (hsteps hdirectory).mpr houter⟩, hdirectory⟩
  · rintro ⟨htaken, hshort, hreaches, hdirectory⟩
    have houter := (hsteps hdirectory).mp hreaches.admits
    exact ⟨htaken, hadmits.mpr ⟨houter, hdirectory, hshort, trivial⟩⟩

theorem Reaches.of_joinAll (hne : directory ≠ "") (hnames : ∀ name ∈ names, IsSegment name)
    (h : workspace.Reaches (joinAll directory names)) : workspace.Reaches directory := by
  induction names generalizing directory with
  | nil => exact h
  | cons name rest ih =>
      obtain ⟨hname, hrest⟩ := List.forall_mem_cons.mp hnames
      exact ((reaches_join_iff hname hne).mp (ih (join_ne_empty hne name) hrest h)).2.2.1

/-- What stands below a directory can be reached by its path, unless that is not
    taken by the operating system. -/
theorem IsPlain.reaches_joinAll (h : workspace.IsPlain) (hne : directory ≠ "")
    (hreaches : workspace.Reaches directory) (hnames : ∀ name ∈ names, IsSegment name)
    {entry : Entry} (htaken : route (joinAll directory names)
      = .ok (Route.parse (joinAll directory names)))
    (hentry : workspace.disk.entry? (workspace.destination directory ++ names) = some entry) :
    workspace.Reaches (joinAll directory names) := by
  induction names using List.reverseRecOn generalizing entry with
  | nil => exact hreaches
  | append_singleton outer name ih =>
      have houter : ∀ name ∈ outer, IsSegment name := fun name hmem =>
        hnames name (List.mem_append_left _ hmem)
      have hname : IsSegment name :=
        hnames name (List.mem_append_right _ (List.mem_singleton_self _))
      have hjoin : joinAll directory (outer ++ [name]) = join (joinAll directory outer) name :=
        joinAll_append ..
      rw [← List.append_assoc] at hentry
      rw [hjoin] at htaken ⊢
      have hne' := joinAll_ne_empty hne outer
      have hparent := h.disk.standing hentry
      have hlast := ih houter (route_of_join hne' htaken) hparent
      rw [← destination_joinAll workspace hne houter] at hparent
      exact (reaches_join_iff hname hne').mpr
        ⟨htaken, (h.disk.named hentry).short, hlast, hparent⟩

end Workspace

/-! ## What stands in a directory -/

namespace Disk

/-- What stands directly in a directory is told apart by the last name. -/
theorem inside_eq_some {location other : Location} {entry : Entry} {found : String × Entry} :
    (match other.getLast? with
      | some name => if other.dropLast = location then some (name, entry) else none
      | none => none) = some found
      ↔ other = location ++ [found.1] ∧ entry = found.2 := by
  rcases List.eq_nil_or_concat other with rfl | ⟨outer, last, rfl⟩
  · simp
  · rw [List.concat_eq_append, List.getLast?_append, List.dropLast_concat]
    constructor
    · intro h
      obtain ⟨rfl, hfound⟩ := Option.ite_none_right_eq_some.mp h
      obtain rfl := Option.some.inj hfound
      exact ⟨rfl, rfl⟩
    · rintro ⟨hother, rfl⟩
      obtain ⟨rfl, hlast⟩ := List.append_inj' hother rfl
      obtain rfl := (List.cons.inj hlast).1
      exact if_pos rfl

theorem mem_children {disk : Disk} {location : Location} {name : String} {entry : Entry} :
    (name, entry) ∈ disk.children location
      ↔ disk.entry? (location ++ [name]) = some entry := by
  rw [children, List.mem_mergeSort, List.mem_filterMap, entry?_of_ne (by simp),
    OrderedMap.find?_eq_some_iff]
  constructor
  · rintro ⟨⟨other, found⟩, hmem, hfound⟩
    obtain ⟨rfl, rfl⟩ := inside_eq_some.mp hfound
    exact hmem
  · intro hmem
    exact ⟨_, hmem, inside_eq_some.mpr ⟨rfl, rfl⟩⟩

theorem IsPlain.child {disk : Disk} (h : disk.IsPlain) {location : Location}
    {child : String × Entry} (hchild : child ∈ disk.children location) :
    IsSegment child.1 ∧ ∀ target, child.2 ≠ .link target := by
  obtain ⟨name, entry⟩ := child
  rw [mem_children] at hchild
  refine ⟨(h.named hchild).toIsSegment, ?_⟩
  rintro target rfl
  exact h.unlinked hchild

/-- What stands in a directory is listed by increasing names. -/
theorem children_pairwise (disk : Disk) (location : Location) :
    (disk.children location).Pairwise fun a b => a.1 < b.1 := by
  have hsorted : (disk.children location).Pairwise fun a b => nameLe a b = true := by
    refine List.pairwise_mergeSort ?_ ?_ _
    · intro a b c hab hbc
      simp only [nameLe, Bool.not_eq_true', decide_eq_false_iff_not, not_lt] at hab hbc ⊢
      exact hab.trans hbc
    · intro a b
      simp only [nameLe, Bool.or_eq_true, Bool.not_eq_true', decide_eq_false_iff_not, not_lt]
      exact le_total a.1 b.1
  have hdistinct : (disk.children location).Pairwise fun a b => a.1 ≠ b.1 := by
    refine (List.Perm.pairwise_iff (fun h => h.symm) (List.mergeSort_perm ..)).mpr ?_
    rw [List.pairwise_filterMap]
    refine (List.pairwise_map.mp disk.entries.keys_nodup).imp ?_
    rintro ⟨first, entry⟩ ⟨second, entry'⟩ hne
    rintro found hfirst found' hsecond hname
    refine hne ?_
    rw [(inside_eq_some.mp hfirst).1, (inside_eq_some.mp hsecond).1, hname]
  refine (hsorted.and hdistinct).imp ?_
  rintro a b ⟨hle, hne⟩
  simp only [nameLe, Bool.not_eq_true', decide_eq_false_iff_not, not_lt] at hle
  exact lt_of_le_of_ne hle hne

/-- Whatever stands below a location is led to by names. -/
theorem IsPlain.isName_of_mem {disk : Disk} (h : disk.IsPlain) {location : Location}
    {names : List String} {entry : Entry}
    (hentry : disk.entry? (location ++ names) = some entry) : ∀ name ∈ names, IsName name := by
  intro name hname
  obtain ⟨before, behind, rfl⟩ := List.append_of_mem hname
  rw [← List.append_assoc, List.append_cons] at hentry
  obtain ⟨found, hfound⟩ := h.exists_entry?_of_below hentry
  exact h.named hfound

theorem IsPlain.isSegment_of_mem {disk : Disk} (h : disk.IsPlain) {location : Location}
    {names : List String} {entry : Entry}
    (hentry : disk.entry? (location ++ names) = some entry) : ∀ name ∈ names, IsSegment name :=
  fun name hname => (h.isName_of_mem hentry name hname).toIsSegment

/-- No way down is longer than there are entries. -/
theorem IsPlain.length_le {disk : Disk} (h : disk.IsPlain) {location : Location}
    {names : List String} {entry : Entry}
    (hentry : disk.entry? (location ++ names) = some entry) :
    names.length ≤ disk.entries.entries.length := by
  let places := (List.range names.length).map fun count => location ++ names.take (count + 1)
  have hnodup : places.Nodup := by
    refine List.Nodup.map_on ?_ List.nodup_range
    intro a ha b hb hab
    have hlength := congrArg List.length (List.append_cancel_left hab)
    rw [List.length_take, List.length_take] at hlength
    rw [List.mem_range] at ha hb
    omega
  have hsubset : places ⊆ disk.entries.keys := by
    intro place hplace
    obtain ⟨count, hcount, rfl⟩ := List.mem_map.mp hplace
    rw [List.mem_range] at hcount
    have hne : location ++ names.take (count + 1) ≠ [] := by
      have : names ≠ [] := by
        rintro rfl
        exact absurd hcount (Nat.not_lt_zero _)
      simp [this]
    obtain ⟨found, hfound⟩ : ∃ found,
        disk.entry? (location ++ names.take (count + 1)) = some found := by
      rw [← List.take_append_drop (count + 1) names, ← List.append_assoc] at hentry
      exact h.exists_entry?_of_below hentry
    rw [entry?_of_ne hne, OrderedMap.find?_eq_some_iff] at hfound
    exact List.mem_map_of_mem hfound
  have hlength := (List.subperm_of_subset hnodup hsubset).length_le
  simpa [places, OrderedMap.keys] using hlength

end Disk

end IconCompiler
