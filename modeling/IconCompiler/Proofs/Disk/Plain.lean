import IconCompiler.Disk.Workspace
import IconCompiler.Proofs.OrderedMap
import IconCompiler.Proofs.Results
import Mathlib.Data.List.Induction

/-! # Disks without links

    On a disk that is a tree of named files and directories a path leads where
    its segments say, one after the other: a dot stays, two dots go up, and any
    other name goes down (`Disk.followAll`).  It does so as long as every place
    on the way is a directory (`Disk.Admits`), and this is all that the
    directories of a disk decide (`reach_eq_ok_iff`). -/

namespace IconCompiler

/-- A segment that leads down, to what it names. -/
structure IsSegment (name : String) : Prop where
  nonempty : name ≠ ""
  not_dot : name ≠ "."
  not_dots : name ≠ ".."
  no_slash : '/' ∉ name.toList

/-- A segment that the operating system takes as the name of an entry. -/
structure IsName (name : String) : Prop extends IsSegment name where
  no_nul : '\x00' ∉ name.toList
  short : name.utf8ByteSize ≤ Path.maxNameLength

namespace Disk

/-! ## Entries -/

@[simp] theorem entry?_nil (disk : Disk) : disk.entry? [] = some .directory := rfl

theorem entry?_of_ne {disk : Disk} {location : Location} (h : location ≠ []) :
    disk.entry? location = disk.entries.find? location :=
  if_neg h

theorem entry?_put {disk : Disk} {location : Location} (h : location ≠ []) (entry : Entry)
    (other : Location) :
    entry? (disk.put location entry) other
      = if other = location then some entry else disk.entry? other := by
  by_cases hother : other = []
  · subst hother
    rw [if_neg (fun he => h he.symm)]
    rfl
  · rw [entry?_of_ne hother, entry?_of_ne hother]
    exact OrderedMap.find?_insert disk.entries location entry other

theorem entry?_erase {disk : Disk} {location : Location} (h : location ≠ []) (other : Location) :
    Disk.entry? (disk.erase location) other
      = if location <+: other then none else disk.entry? other := by
  by_cases hother : other = []
  · subst hother
    rw [if_neg (fun hbelow => h (List.prefix_nil.mp hbelow))]
    rfl
  · rw [entry?_of_ne hother, entry?_of_ne hother]
    refine (OrderedMap.find?_filterKeys disk.entries _ other).trans ?_
    simp only [Bool.not_eq_true', ← Bool.not_eq_true, List.isPrefixOf_iff_prefix]
    exact ite_not ..

/-- A tree of files and directories that have names. -/
structure IsPlain (disk : Disk) : Prop where
  named : ∀ {location : Location} {name : String} {entry : Entry},
    disk.entry? (location ++ [name]) = some entry → IsName name
  standing : ∀ {location : Location} {name : String} {entry : Entry},
    disk.entry? (location ++ [name]) = some entry → disk.entry? location = some .directory
  unlinked : ∀ {location : Location} {target : String},
    disk.entry? location ≠ some (.link target)

theorem isPlain_empty : empty.IsPlain := by
  have hnone (location : Location) (name : String) : empty.entry? (location ++ [name]) = none := by
    rw [entry?_of_ne (by simp)]
    rfl
  refine ⟨fun hentry => ?_, fun hentry => ?_, ?_⟩
  · exact absurd ((hnone _ _).symm.trans hentry) (by simp)
  · exact absurd ((hnone _ _).symm.trans hentry) (by simp)
  intro location target
  rcases List.eq_nil_or_concat location with rfl | ⟨outer, last, rfl⟩
  · simp
  · rw [List.concat_eq_append, hnone]
    simp

namespace IsPlain

variable {disk : Disk} {location : Location} {name : String} {entry : Entry}

theorem dropLast (h : disk.IsPlain) (hdirectory : disk.entry? location = some .directory) :
    disk.entry? location.dropLast = some .directory := by
  rcases List.eq_nil_or_concat location with rfl | ⟨outer, last, rfl⟩
  · rfl
  · rw [List.concat_eq_append] at hdirectory ⊢
    rw [List.dropLast_concat]
    exact h.standing hdirectory

/-- Nothing stands below what is not a directory. -/
theorem entry?_below (h : disk.IsPlain) {below : Location} (hne : below ≠ [])
    (hentry : disk.entry? location ≠ some .directory) : disk.entry? (location ++ below) = none := by
  induction below using List.reverseRecOn with
  | nil => exact absurd rfl hne
  | append_singleton outer last ih =>
      cases hfound : disk.entry? (location ++ (outer ++ [last])) with
      | none => rfl
      | some found =>
          rw [← List.append_assoc] at hfound
          have hparent := h.standing hfound
          by_cases houter : outer = []
          · rw [houter, List.append_nil] at hparent
            exact absurd hparent hentry
          · rw [ih houter] at hparent
            exact absurd hparent (by simp)

/-- Something stands wherever something stands below. -/
theorem exists_entry?_of_below (h : disk.IsPlain) {below : Location}
    (hentry : disk.entry? (location ++ below) = some entry) :
    ∃ found, disk.entry? location = some found := by
  by_cases hdirectory : disk.entry? location = some .directory
  · exact ⟨_, hdirectory⟩
  · by_cases hbelow : below = []
    · rw [hbelow, List.append_nil] at hentry
      exact ⟨_, hentry⟩
    · rw [h.entry?_below hbelow hdirectory] at hentry
      cases hentry

/-- A named entry can be put into a directory, unless it would replace a directory
    by something else. -/
theorem put (h : disk.IsPlain) (hname : IsName name)
    (hparent : disk.entry? location = some .directory)
    (hkind : disk.entry? (location ++ [name]) ≠ some .directory)
    (hlink : ∀ target, entry ≠ .link target) : (disk.put (location ++ [name]) entry).IsPlain := by
  have hne : location ++ [name] ≠ [] := by simp
  refine ⟨?_, ?_, ?_⟩
  · intro place last found hfound
    rw [entry?_put hne] at hfound
    split at hfound
    · next heq =>
        obtain ⟨-, hlast⟩ := List.append_inj' heq rfl
        rw [(List.cons.inj hlast).1]
        exact hname
    · exact h.named hfound
  · intro place last found hfound
    rw [entry?_put hne] at hfound ⊢
    split at hfound
    · next heq =>
        obtain ⟨rfl, -⟩ := List.append_inj' heq rfl
        rw [if_neg (by simp)]
        exact hparent
    · have hstanding := h.standing hfound
      rw [if_neg (fun heq => hkind (by rw [← heq]; exact hstanding))]
      exact hstanding
  · intro place target hfound
    rw [entry?_put hne] at hfound
    split at hfound
    · exact hlink target (Option.some.inj hfound)
    · exact h.unlinked hfound

theorem erase (h : disk.IsPlain) (hne : location ≠ []) : (disk.erase location).IsPlain := by
  refine ⟨?_, ?_, ?_⟩
  · intro place last found hfound
    rw [entry?_erase hne] at hfound
    split at hfound
    · exact absurd hfound (by simp)
    · exact h.named hfound
  · intro place last found hfound
    rw [entry?_erase hne] at hfound ⊢
    split at hfound
    · exact absurd hfound (by simp)
    · next hfree =>
        rw [if_neg (fun hbelow => hfree (hbelow.trans (List.prefix_append _ _)))]
        exact h.standing hfound
  · intro place target hfound
    rw [entry?_erase hne] at hfound
    split at hfound
    · exact absurd hfound (by simp)
    · exact h.unlinked hfound

/-- Where something that is not a directory is removed, nothing else changes. -/
theorem entry?_erase (h : disk.IsPlain) (hne : location ≠ [])
    (hkind : disk.entry? location ≠ some .directory) (other : Location) :
    Disk.entry? (disk.erase location) other
      = if other = location then none else disk.entry? other := by
  rw [Disk.entry?_erase hne]
  by_cases hsame : other = location
  · rw [hsame, if_pos (List.prefix_refl _), if_pos rfl]
  · rw [if_neg hsame]
    split
    · next hbelow =>
        obtain ⟨below, rfl⟩ := hbelow
        exact (h.entry?_below (fun hnil => hsame (by rw [hnil, List.append_nil])) hkind).symm
    · rfl

end IsPlain

/-! ## Following segments -/

/-- Where a segment leads from a directory. -/
def follow (location : Location) (name : String) : Location :=
  if name = "." then location
  else if name = ".." then location.dropLast
  else location ++ [name]

/-- Where segments lead from a directory, one after the other. -/
def followAll (location : Location) (names : List String) : Location :=
  names.foldl follow location

theorem follow_of_isSegment {name : String} (h : IsSegment name) (location : Location) :
    follow location name = location ++ [name] := by
  rw [follow, if_neg h.not_dot, if_neg h.not_dots]

theorem followAll_append (location : Location) (names more : List String) :
    followAll location (names ++ more) = followAll (followAll location names) more :=
  List.foldl_append

/-- The segments can be followed: each from a directory, and none is too long. -/
def Admits (disk : Disk) : Location → List String → Prop
  | _, [] => True
  | location, name :: rest =>
    disk.entry? location = some .directory ∧ name.utf8ByteSize ≤ Path.maxNameLength
      ∧ disk.Admits (follow location name) rest

theorem admits_append {disk : Disk} {location : Location} {names more : List String} :
    disk.Admits location (names ++ more)
      ↔ disk.Admits location names ∧ disk.Admits (followAll location names) more := by
  induction names generalizing location with
  | nil => exact (iff_of_eq (true_and _)).symm
  | cons name rest ih =>
      rw [List.cons_append, Admits, Admits, ih, and_assoc, and_assoc]
      rfl

/-- What can be followed on a disk can be followed on one with more directories. -/
theorem Admits.mono {before after : Disk}
    (hkept : ∀ location, before.entry? location = some .directory →
      after.entry? location = some .directory)
    {location : Location} {names : List String} (h : before.Admits location names) :
    after.Admits location names := by
  induction names generalizing location with
  | nil => trivial
  | cons name rest ih => exact ⟨hkept _ h.1, h.2.1, ih h.2.2⟩

theorem admits_dots {disk : Disk} {location : Location} {names : List String}
    (hdirectory : disk.entry? location = some .directory) (hdots : ∀ name ∈ names, name = ".") :
    disk.Admits location names := by
  induction names with
  | nil => trivial
  | cons name rest ih =>
      obtain ⟨rfl, hrest⟩ := List.forall_mem_cons.mp hdots
      exact ⟨hdirectory, by decide, ih hrest⟩

/-- What is found where a path leads. -/
def placeAt (disk : Disk) (location : Location) : Place :=
  match disk.entry? location with
  | some entry => .taken location entry
  | none => .vacant location

theorem placeAt_eq_taken {disk : Disk} {location other : Location} {entry : Entry} :
    disk.placeAt location = .taken other entry
      ↔ other = location ∧ disk.entry? location = some entry := by
  rw [placeAt]
  cases disk.entry? location <;> simp [eq_comm]

/-- Only directories lead on. -/
theorem admits_cons_iff_of_ne {disk : Disk} {location : Location} {names : List String}
    (h : disk.entry? location ≠ some .directory) : disk.Admits location names ↔ names = [] := by
  cases names with
  | nil => exact iff_of_true trivial rfl
  | cons name rest => exact iff_of_false (fun hadmits => h hadmits.1) (List.cons_ne_nil _ _)

/-- On a disk without links segments lead where they say, as far as they can be
    followed, and links are never asked for. -/
theorem IsPlain.reachBy_eq_ok_iff {disk : Disk} (h : disk.IsPlain) {follows : Bool}
    {enter : Location → List String → Except Fault Place} {location : Location}
    {names : List String} {place : Place} (hdirectory : disk.entry? location = some .directory) :
    Workspace.reachBy disk follows enter location names = .ok place
      ↔ disk.Admits location names ∧ place = disk.placeAt (followAll location names) := by
  induction names generalizing location with
  | nil =>
      rw [Workspace.reachBy, followAll, List.foldl_nil, placeAt, hdirectory]
      simp [Admits, eq_comm]
  | cons name rest ih =>
      rw [Workspace.reachBy, followAll, List.foldl_cons, Admits, follow]
      by_cases hdot : name = "."
      · rw [if_pos hdot, if_pos hdot, ih hdirectory, hdot]
        simp [hdirectory, followAll, show ".".utf8ByteSize ≤ Path.maxNameLength by decide]
      rw [if_neg hdot, if_neg hdot]
      by_cases hdots : name = ".."
      · rw [if_pos hdots, if_pos hdots, ih (h.dropLast hdirectory), hdots]
        simp [hdirectory, followAll, show "..".utf8ByteSize ≤ Path.maxNameLength by decide]
      rw [if_neg hdots, if_neg hdots]
      by_cases hlong : Path.maxNameLength < name.utf8ByteSize
      · rw [if_pos hlong]
        simp [Nat.not_le.mpr hlong]
      rw [if_neg hlong]
      have hshort := Nat.not_lt.mp hlong
      cases hentry : disk.entry? (location ++ [name]) with
      | none =>
          rw [admits_cons_iff_of_ne (by simp [hentry])]
          by_cases hrest : rest = []
          · simp [hrest, placeAt, hentry, hdirectory, hshort, eq_comm]
          · simp [hrest]
      | some entry =>
          cases entry with
          | directory =>
              dsimp only
              rw [ih hentry]
              simp [hdirectory, hshort, followAll]
          | file content =>
              rw [admits_cons_iff_of_ne (by simp [hentry])]
              by_cases hrest : rest = []
              · simp [hrest, placeAt, hentry, hdirectory, hshort, eq_comm]
              · simp [hrest]
          | link target => exact absurd hentry h.unlinked

theorem IsPlain.reach_eq_ok_iff {disk : Disk} (h : disk.IsPlain) {follows : Bool} {links : Nat}
    {location : Location} {names : List String} {place : Place}
    (hdirectory : disk.entry? location = some .directory) :
    Workspace.reach disk follows links location names = .ok place
      ↔ disk.Admits location names ∧ place = disk.placeAt (followAll location names) := by
  cases links <;> exact h.reachBy_eq_ok_iff hdirectory

end Disk

end IconCompiler
