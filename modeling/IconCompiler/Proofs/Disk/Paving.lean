import IconCompiler.Proofs.Disk.Straight

/-! # Making directories on the way to a file

    Missing directories are looked for from the inside out and then made from the
    outside in.  On a disk without links that comes to walking down once and
    making every directory that is missing (`pave`), except that a file at the
    very end is complained about in another way (`IsPlain.makeDirectories_eq`,
    `IsPlain.makeDirectories_of_file`).  So nothing but missing directories on the
    way is touched (`IsPlain.makeDirectories_entry`). -/

namespace IconCompiler

open Disk IconCompiler.Path

namespace Workspace

/-- Do one thing and, if that succeeds, another in the workspace after it. -/
def andThen (result : Except Fault Unit × Workspace)
    (next : Workspace → Except Fault Unit × Workspace) : Except Fault Unit × Workspace :=
  match result with
  | (.ok (), made) => next made
  | (.error fault, made) => (.error fault, made)

/-- Walk down from a directory and make the directories that are missing. -/
def pave (workspace : Workspace) : Location → List String → Except Fault Unit × Workspace
  | _, [] => (.ok (), workspace)
  | location, name :: rest =>
    if maxNameLength < name.utf8ByteSize then (.error .nameTooLong, workspace)
    else
      match workspace.disk.entry? (location ++ [name]) with
      | none =>
        (workspace.perform (.makeDirectory (location ++ [name]))).pave (location ++ [name]) rest
      | some .directory => workspace.pave (location ++ [name]) rest
      | some _ => (.error .notADirectory, workspace)

section

variable {workspace : Workspace} {location : Location} {names more : List String}

theorem pave_append : workspace.pave location (names ++ more)
    = andThen (workspace.pave location names) fun made => made.pave (location ++ names) more := by
  induction names generalizing workspace location with
  | nil => rw [List.append_nil]; rfl
  | cons name rest ih =>
      rw [List.cons_append, pave, pave, List.append_cons location name rest]
      split
      · rfl
      · split
        · exact ih
        · exact ih
        · rfl

theorem pave_of_free (hfree : workspace.disk.barrier? location names = none) :
    workspace.pave location names = (.ok (), workspace) := by
  induction names generalizing location with
  | nil => rfl
  | cons name rest ih =>
      rw [barrier?] at hfree
      rw [pave]
      by_cases hlong : maxNameLength < name.utf8ByteSize
      · rw [if_pos hlong] at hfree
        cases hfree
      rw [if_neg hlong] at hfree ⊢
      cases hentry : workspace.disk.entry? (location ++ [name]) with
      | none =>
          rw [hentry] at hfree
          cases hfree
      | some entry =>
          rw [hentry] at hfree
          cases entry with
          | directory => exact ih hfree
          | file content => cases hfree
          | link target => cases hfree

theorem pave_of_barrier {fault : Fault}
    (hbarrier : workspace.disk.barrier? location names = some fault)
    (hother : fault ≠ .noSuchFile) :
    workspace.pave location names = (.error fault, workspace) := by
  induction names generalizing location with
  | nil => cases hbarrier
  | cons name rest ih =>
      rw [barrier?] at hbarrier
      rw [pave]
      by_cases hlong : maxNameLength < name.utf8ByteSize
      · rw [if_pos hlong] at hbarrier ⊢
        rw [Option.some.inj hbarrier]
      rw [if_neg hlong] at hbarrier ⊢
      cases hentry : workspace.disk.entry? (location ++ [name]) with
      | none =>
          rw [hentry] at hbarrier
          exact absurd (Option.some.inj hbarrier).symm hother
      | some entry =>
          rw [hentry] at hbarrier
          cases entry with
          | directory => exact ih hbarrier
          | file content => rw [← Option.some.inj hbarrier]
          | link target => rw [← Option.some.inj hbarrier]

/-- Nothing but missing directories on the way is made. -/
theorem pave_entry (other : Location) :
    (workspace.pave location names).2.disk.entry? other = workspace.disk.entry? other
      ∨ workspace.disk.entry? other = none
        ∧ (workspace.pave location names).2.disk.entry? other = some .directory
        ∧ other <+: location ++ names := by
  induction names generalizing workspace location with
  | nil => exact .inl rfl
  | cons name rest ih =>
      rw [pave, List.append_cons location name rest]
      split
      · exact .inl rfl
      · split
        · next hentry =>
            have hne : location ++ [name] ≠ [] := by simp
            have hput := entry?_makeDirectory workspace hne other
            by_cases hhere : other = location ++ [name]
            · rw [if_pos hhere] at hput
              refine .inr ⟨hhere ▸ hentry, ?_, hhere ▸ List.prefix_append ..⟩
              exact ih.elim (fun hsame => hsame.trans hput) fun hnew => hnew.2.1
            · rw [if_neg hhere] at hput
              rw [← hput]
              exact ih
        · exact ih
        · exact .inl rfl

theorem pave_kept {other : Location} {entry : Entry}
    (hentry : workspace.disk.entry? other = some entry) :
    (workspace.pave location names).2.disk.entry? other = some entry := by
  rcases pave_entry other with hsame | ⟨hnone, -⟩
  · exact hsame.trans hentry
  · rw [hentry] at hnone
    cases hnone

/-- Once all directories are made nothing stops one on the way down. -/
theorem barrier?_pave (hok : (workspace.pave location names).1 = .ok ()) :
    (workspace.pave location names).2.disk.barrier? location names = none := by
  induction names generalizing workspace location with
  | nil => rfl
  | cons name rest ih =>
      rw [pave] at hok ⊢
      rw [barrier?]
      split at hok
      · cases hok
      · next hshort =>
          rw [if_neg hshort, if_neg hshort]
          split at hok
          · next hentry =>
              have hmade : (workspace.perform (.makeDirectory (location ++ [name]))).disk.entry?
                  (location ++ [name]) = some .directory :=
                (entry?_makeDirectory workspace (by simp) _).trans (if_pos rfl)
              rw [pave_kept hmade]
              exact ih hok
          · next hentry =>
              rw [pave_kept hentry]
              exact ih hok
          · cases hok

end

/-! ## From the inside out -/

/-- Make the first of some directories, listed from the inside out, and those it
    stands in. -/
def makeOutward (workspace : Workspace) (paths : List String) : Except Fault Unit × Workspace :=
  match workspace.anchor paths with
  | .error fault => (.error fault, workspace)
  | .ok (next, missing) => next.makeInside missing

theorem makeInside_append (workspace : Workspace) (paths more : List String) :
    workspace.makeInside (paths ++ more)
      = andThen (workspace.makeInside paths) fun made => made.makeInside more := by
  induction paths generalizing workspace with
  | nil => rfl
  | cons path rest ih =>
      rw [List.cons_append, makeInside, makeInside]
      split
      · exact ih _
      · rfl

section

variable {workspace : Workspace} {path : String} {outer : List String}

theorem makeOutward_of_missing (hparent : parent? path ≠ none)
    (hensure : workspace.ensureDirectory path = .error .noSuchFile) :
    workspace.makeOutward (path :: outer)
      = andThen (workspace.makeOutward outer) fun made => made.makeInside [path] := by
  have hinside : ¬ (parent? path).isNone = true := by simpa using hparent
  rw [makeOutward, anchor, if_neg hinside, hensure, makeOutward]
  dsimp only
  rw [if_pos rfl]
  cases workspace.anchor outer with
  | error fault => rfl
  | ok found => exact makeInside_append found.1 found.2 [path]

theorem makeOutward_of_decided (hparent : parent? path ≠ none)
    (hensure : workspace.ensureDirectory path ≠ .error .noSuchFile) :
    workspace.makeOutward (path :: outer) = workspace.makeInside [path] := by
  have hinside : ¬ (parent? path).isNone = true := by simpa using hparent
  rw [makeOutward, anchor, if_neg hinside, makeInside]
  cases hmade : workspace.ensureDirectory path with
  | ok next => rfl
  | error fault =>
      have hother : fault ≠ .noSuchFile := by
        rintro rfl
        exact hensure hmade
      dsimp only
      rw [if_neg hother]

/-- A root is there. -/
theorem makeOutward_of_root (hstraight : IsStraight path) (hnames : names path = [])
    (count : Nat) :
    workspace.makeOutward (ancestorsUpTo (count + 1) path) = (.ok (), workspace) := by
  have hparent : parent? path = none := by
    rw [parent?, Option.map_eq_none_iff, Option.eq_none_iff_forall_ne_some]
    rintro ⟨parent, last⟩ hsplit
    have hsplits := hstraight.names_of_splitLast hsplit
    rw [hnames] at hsplits
    exact absurd hsplits (by simp)
  rw [ancestorsUpTo, hparent, makeOutward, anchor, hparent]
  rfl

theorem grows_of_makeOutward (h : workspace.IsPlain) (paths : List String) :
    Grows workspace (workspace.makeOutward paths).2 := by
  rw [makeOutward]
  split
  · exact .refl h
  · next made missing hanchor =>
      have hgrows := grows_of_anchor h hanchor
      exact hgrows.trans (grows_of_makeInside hgrows.plain rfl)

end

section

variable {workspace : Workspace} (h : workspace.IsPlain) {path : String}
include h

/-- In a directory that is there the last one is made as on a walk. -/
theorem IsPlain.makeInside_eq_pave (hstraight : IsStraight path) {outer : List String}
    {last : String} (hnames : names path = outer ++ [last])
    (hroute : route path = .ok (Route.parse path))
    (hfree : workspace.disk.barrier? (workspace.start path) outer = none)
    (hfile : ∀ content, workspace.disk.entry? (workspace.destination path)
      ≠ some (.file content)) :
    workspace.makeInside [path] = workspace.pave (workspace.start path ++ outer) [last] := by
  have hdestination : workspace.destination path = workspace.start path ++ outer ++ [last] := by
    rw [destination_of_straight workspace hstraight, hnames, List.append_assoc]
  rw [makeInside, h.ensureDirectory_eq hstraight hnames hroute hfree, pave, ← hdestination]
  by_cases hlong : maxNameLength < last.utf8ByteSize
  · rw [if_pos hlong, if_pos hlong]
  · rw [if_neg hlong, if_neg hlong]
    cases hentry : workspace.disk.entry? (workspace.destination path) with
    | none => rfl
    | some entry =>
        cases entry with
        | directory => rfl
        | file content => exact absurd hentry (hfile content)
        | link target => exact absurd hentry h.disk.unlinked

/-- Nothing is missing on the way to something that is there. -/
theorem IsPlain.barrier?_ne_noSuchFile {location : Location} {names : List String} {entry : Entry}
    (hentry : workspace.disk.entry? (location ++ names) = some entry) :
    workspace.disk.barrier? location names ≠ some .noSuchFile := by
  rcases List.eq_nil_or_concat names with rfl | ⟨outer, last, rfl⟩
  · simp [barrier?]
  · rw [List.concat_eq_append] at hentry ⊢
    rw [← List.append_assoc] at hentry
    rw [barrier?_append, h.disk.barrier?_eq_none (h.disk.standing hentry), Option.none_or, barrier?,
      if_neg (Nat.not_lt.mpr (h.disk.named hentry).short), hentry]
    cases entry with
    | directory => simp [barrier?]
    | file content => exact show some Fault.notADirectory ≠ some .noSuchFile by decide
    | link target => exact show some Fault.notADirectory ≠ some .noSuchFile by decide

theorem IsPlain.ensureDirectory_of_barrier (hstraight : IsStraight path) {outer : List String}
    {last : String} (hnames : names path = outer ++ [last])
    (hroute : route path = .ok (Route.parse path)) {fault : Fault}
    (hbarrier : workspace.disk.barrier? (workspace.start path) outer = some fault) :
    workspace.ensureDirectory path = .error fault := by
  have hother : fault ≠ .alreadyExists := by
    rintro rfl
    exact barrier?_ne_alreadyExists hbarrier
  rw [ensureDirectory, makeDirectory, h.slot_of_barrier hstraight hnames hroute hbarrier]
  exact if_neg fun hboth => hother hboth.1

/-- Once the parents are made the last directory is made in them. -/
theorem IsPlain.andThen_makeInside (hstraight : IsStraight path) {outer : List String}
    {last : String} (hnames : names path = outer ++ [last])
    (hroute : route path = .ok (Route.parse path)) {paths : List String}
    (hinner : workspace.makeOutward paths = workspace.pave (workspace.start path) outer)
    (hfile : ∀ content, workspace.disk.entry? (workspace.destination path)
      ≠ some (.file content)) :
    andThen (workspace.makeOutward paths) (fun made => made.makeInside [path])
      = workspace.pave (workspace.start path) (outer ++ [last]) := by
  rw [pave_append, hinner]
  cases hpave : workspace.pave (workspace.start path) outer with
  | mk result made =>
      cases result with
      | error fault => rfl
      | ok done =>
          have hgrows : Grows workspace made := by
            have hmade := grows_of_makeOutward h paths
            rwa [hinner, hpave] at hmade
          have hstart : made.start path = workspace.start path := start_congr hgrows.directory path
          have hfree : made.disk.barrier? (made.start path) outer = none := by
            have hmade := barrier?_pave (congrArg Prod.fst hpave)
            rwa [hpave, ← hstart] at hmade
          have hlast := hgrows.plain.makeInside_eq_pave hstraight hnames hroute hfree ?_
          · rw [hstart] at hlast
            exact hlast
          · intro content hentry
            rw [destination_congr hgrows.directory] at hentry
            rcases hgrows.added hentry with hbefore | hnew
            · exact hfile content hbefore
            · cases hnew

/-- One directory more: the others are only looked at if its parent is missing. -/
theorem IsPlain.makeOutward_cons (hstraight : IsStraight path) {outer : List String}
    {last : String} (hnames : names path = outer ++ [last])
    (hroute : route path = .ok (Route.parse path)) (hparent : parent? path ≠ none)
    {paths : List String}
    (hinner : workspace.disk.barrier? (workspace.start path) outer = some .noSuchFile →
      workspace.makeOutward paths = workspace.pave (workspace.start path) outer)
    (hfile : ∀ content, workspace.disk.entry? (workspace.destination path)
      ≠ some (.file content)) :
    workspace.makeOutward (path :: paths)
      = workspace.pave (workspace.start path) (outer ++ [last]) := by
  cases hbarrier : workspace.disk.barrier? (workspace.start path) outer with
  | none =>
      have hdecided : workspace.ensureDirectory path ≠ .error .noSuchFile := by
        rw [h.ensureDirectory_eq hstraight hnames hroute hbarrier]
        split
        · exact fun heq => absurd (Except.error.inj heq) (by decide)
        · split
          · exact nofun
          · exact nofun
          · exact fun heq => absurd (Except.error.inj heq) (by decide)
      rw [makeOutward_of_decided hparent hdecided,
        h.makeInside_eq_pave hstraight hnames hroute hbarrier hfile, pave_append,
        pave_of_free hbarrier]
      rfl
  | some fault =>
      have hensure := h.ensureDirectory_of_barrier hstraight hnames hroute hbarrier
      by_cases hmissing : fault = .noSuchFile
      · subst hmissing
        rw [makeOutward_of_missing hparent hensure]
        exact h.andThen_makeInside hstraight hnames hroute (hinner hbarrier) hfile
      · have hdecided : workspace.ensureDirectory path ≠ .error .noSuchFile := by
          rw [hensure]
          exact fun heq => hmissing (Except.error.inj heq)
        rw [makeOutward_of_decided hparent hdecided, makeInside, hensure, pave_append,
          pave_of_barrier hbarrier hmissing]
        rfl

/-- From the inside out the same directories are made as on a walk down, and the
    same error is met. -/
theorem IsPlain.makeOutward_eq_pave (names : List String) {path : String} {count : Nat}
    (hstraight : IsStraight path) (hnames : Path.names path = names)
    (hroute : route path = .ok (Route.parse path)) (hcount : names.length < count)
    (hfile : ∀ content, workspace.disk.entry? (workspace.destination path)
      ≠ some (.file content)) :
    workspace.makeOutward (ancestorsUpTo count path)
      = workspace.pave (workspace.start path) names := by
  obtain ⟨fewer, rfl⟩ := Nat.exists_eq_add_of_lt (Nat.zero_lt_of_lt hcount)
  rw [Nat.zero_add] at hcount ⊢
  induction names using List.reverseRecOn generalizing path fewer with
  | nil => exact makeOutward_of_root hstraight hnames fewer
  | append_singleton outer last ih =>
      cases hsplit : splitLast? path with
      | none =>
          rw [hstraight.names_eq_nil hsplit] at hnames
          exact absurd hnames (by simp)
      | some found =>
          obtain ⟨parent, own⟩ := found
          have hsplits := splitLast?_spec hsplit
          obtain ⟨houter, -⟩ :=
            List.append_inj' (hnames.symm.trans (hstraight.names_of_splitLast hsplit)) rfl
          have hparent : parent? path = some parent := by rw [parent?, hsplit]; rfl
          rw [ancestorsUpTo, hparent]
          refine h.makeOutward_cons hstraight hnames hroute (by simp [hparent]) ?_ hfile
          intro hbarrier
          -- what is missing on the way is missing on the way to the parent
          have hne : parent ≠ "" := by
            rintro rfl
            rw [houter] at hbarrier
            cases hbarrier
          have hstart : workspace.start parent = workspace.start path := by
            rw [Workspace.start, Workspace.start, hsplits.rooted]
          have hparentRoute : route parent = .ok (Route.parse parent) := by
            obtain ⟨tail, htail⟩ := hsplits.begins
            rw [htail] at hroute
            exact route_of_append hne hroute
          rw [List.length_append, List.length_singleton, Nat.add_lt_add_iff_right] at hcount
          obtain ⟨less, rfl⟩ := Nat.exists_eq_add_of_lt (Nat.zero_lt_of_lt hcount)
          rw [Nat.zero_add] at hcount ⊢
          rw [← hstart] at hbarrier ⊢
          refine ih (hstraight.parent hsplit) houter.symm hparentRoute ?_ less hcount
          intro content hentry
          rw [destination_of_straight workspace (hstraight.parent hsplit), ← houter] at hentry
          exact h.barrier?_ne_noSuchFile hentry hbarrier

/-- Directories are made as on a walk down, where no file is in the way at the very
    end. -/
theorem IsPlain.makeDirectories_eq (hstraight : IsStraight path)
    (hroute : route path = .ok (Route.parse path))
    (hfile : ∀ content, workspace.disk.entry? (workspace.destination path)
      ≠ some (.file content)) :
    workspace.makeDirectories path = workspace.pave (workspace.start path) (names path) :=
  h.makeOutward_eq_pave (names path) hstraight rfl hroute
    (Nat.lt_succ_of_le (List.length_filter_le _ _)) hfile

theorem IsPlain.makeDirectories_of_file (hstraight : IsStraight path)
    (hroute : route path = .ok (Route.parse path)) {content : ByteArray}
    (hfile : workspace.disk.entry? (workspace.destination path) = some (.file content)) :
    workspace.makeDirectories path = (.error .alreadyExists, workspace) := by
  have hdestination := destination_of_straight workspace hstraight
  cases hsplit : splitLast? path with
  | none =>
      rw [hdestination, hstraight.names_eq_nil hsplit, List.append_nil, h.start] at hfile
      cases hfile
  | some found =>
      obtain ⟨parent, last⟩ := found
      have hnames := hstraight.names_of_splitLast hsplit
      have hentry := hfile
      rw [hdestination, hnames, ← List.append_assoc] at hentry
      have hfree := h.disk.barrier?_eq_none (h.disk.standing hentry)
      have hensure := h.ensureDirectory_eq hstraight hnames hroute hfree
      rw [if_neg (Nat.not_lt.mpr (h.disk.named hentry).short), hfile] at hensure
      have hparent : parent? path = some parent := by rw [parent?, hsplit]; rfl
      show workspace.makeOutward (ancestorsUpTo _ path) = _
      rw [ancestorsUpTo, hparent]
      rw [makeOutward_of_decided (by simp [hparent]), makeInside, hensure]
      rw [hensure]
      exact fun heq => absurd (Except.error.inj heq) (by decide)

end

theorem makeDirectories_of_root {workspace : Workspace} {path : String}
    (hstraight : IsStraight path) (hnames : names path = []) :
    workspace.makeDirectories path = (.ok (), workspace) :=
  makeOutward_of_root hstraight hnames _

/-- Nothing is made under a path that the operating system does not take. -/
theorem makeDirectories_of_route {workspace : Workspace} {path : String}
    (hstraight : IsStraight path) (hnames : names path ≠ []) {fault : Fault}
    (hroute : route path = .error fault) :
    workspace.makeDirectories path = (.error fault, workspace) := by
  have hproper : fault ≠ .noSuchFile ∧ fault ≠ .alreadyExists := by
    rw [route] at hroute
    split at hroute
    · rw [← Except.error.inj hroute]
      decide
    · split at hroute
      · next hempty => exact absurd (by rw [hempty]; rfl) hnames
      · split at hroute
        · rw [← Except.error.inj hroute]
          decide
        · cases hroute
  have hensure : workspace.ensureDirectory path = .error fault := by
    rw [ensureDirectory, makeDirectory, slot, hroute]
    exact if_neg fun hboth => hproper.2 hboth.1
  have hparent : parent? path ≠ none := by
    intro hnone
    rw [parent?, Option.map_eq_none_iff] at hnone
    exact hnames (hstraight.names_eq_nil hnone)
  obtain ⟨parent, hsome⟩ := Option.ne_none_iff_exists'.mp hparent
  show workspace.makeOutward (ancestorsUpTo _ path) = _
  rw [ancestorsUpTo, hsome]
  rw [makeOutward_of_decided hparent, makeInside, hensure]
  rw [hensure]
  exact fun heq => hproper.1 (Except.error.inj heq)

theorem IsPlain.makeDirectories_dot {workspace : Workspace} (h : workspace.IsPlain) :
    workspace.makeDirectories "." = (.ok (), workspace) := by
  have hslot : workspace.slot "." = .ok .dots := by
    have hnames : names "." = [] ++ ["."] := rfl
    rw [slot_of_names workspace hnames (by decide)]
    rfl
  have hleads : workspace.isDirectory "." = true := by
    refine (isDirectory_iff h).mpr ⟨⟨by decide, h.start, by decide, trivial⟩, ?_⟩
    exact h.directory
  have hensure : workspace.ensureDirectory "." = .ok workspace := by
    rw [ensureDirectory, makeDirectory, hslot]
    exact if_pos ⟨rfl, hleads⟩
  rw [show workspace.makeDirectories "." = workspace.makeOutward (ancestors ".") from rfl,
    show ancestors "." = [".", ""] by decide]
  rw [makeOutward_of_decided (by decide) (by simp [hensure]), makeInside, hensure]
  rfl

section

variable {workspace : Workspace} (h : workspace.IsPlain) {path : String}
  (hstraight : IsStraight path)
include h hstraight

/-- How directories on the way to a straight path are made: not at all, or on a
    walk down. -/
theorem IsPlain.makeDirectories_cases :
    (∃ result, workspace.makeDirectories path = (result, workspace)
      ∧ (result = .ok () → names path = []))
    ∨ workspace.makeDirectories path = workspace.pave (workspace.start path) (names path) := by
  by_cases hnames : names path = []
  · exact .inl ⟨_, makeDirectories_of_root hstraight hnames, fun _ => hnames⟩
  · cases hroute : route path with
    | error fault => exact .inl ⟨_, makeDirectories_of_route hstraight hnames hroute, nofun⟩
    | ok found =>
        obtain rfl := route_eq_ok hroute
        by_cases hfile : ∃ content, workspace.disk.entry? (workspace.destination path)
            = some (.file content)
        · obtain ⟨content, hfile⟩ := hfile
          exact .inl ⟨_, h.makeDirectories_of_file hstraight hroute hfile, nofun⟩
        · exact .inr (h.makeDirectories_eq hstraight hroute fun content hentry =>
            hfile ⟨content, hentry⟩)

theorem IsPlain.makeDirectories_entry (other : Location) :
    (workspace.makeDirectories path).2.disk.entry? other = workspace.disk.entry? other
      ∨ workspace.disk.entry? other = none
        ∧ (workspace.makeDirectories path).2.disk.entry? other = some .directory
        ∧ other <+: workspace.destination path := by
  rcases h.makeDirectories_cases hstraight with ⟨result, hmake, -⟩ | hmake
  · rw [hmake]
    exact .inl rfl
  · rw [hmake, destination_of_straight workspace hstraight]
    exact pave_entry other

theorem IsPlain.barrier?_makeDirectories (hok : (workspace.makeDirectories path).1 = .ok ()) :
    (workspace.makeDirectories path).2.disk.barrier? (workspace.start path) (names path)
      = none := by
  rcases h.makeDirectories_cases hstraight with ⟨result, hmake, hroot⟩ | hmake
  · rw [hmake] at hok ⊢
    rw [hroot hok]
    rfl
  · rw [hmake] at hok ⊢
    exact barrier?_pave hok

end

end Workspace

end IconCompiler
