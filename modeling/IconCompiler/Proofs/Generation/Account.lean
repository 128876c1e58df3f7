import IconCompiler.Proofs.Collection
import IconCompiler.Proofs.Generation.Files

/-! # What a target tells of its assets

    The assets that a target is meant for are the first ones with their paths,
    as far as its pattern selects them (`chosenAssets`).  Each of them becomes an
    icon of the target or is reported, and apart from that a target reports only
    what became of its icons and of its files (`serve_accounts_for`). -/

namespace IconCompiler

/-- What a diagnostic is about, and the file it concerns. -/
def Diagnostic.subject (diagnostic : Diagnostic) : DiagnosticTopic × Option String :=
  (diagnostic.topic, diagnostic.path)

namespace Rendering

theorem subjects_renamed (icons : List Icon) :
    (icons.filterMap renamed?).map (·.subject)
      = (icons.filter fun icon => !ItemName.isValid icon.identifier).map
        fun icon => (.changedName, some icon.name) := by
  induction icons with
  | nil => rfl
  | cons icon rest ih =>
      by_cases hvalid : ItemName.isValid icon.identifier = true
      · have hnone : renamed? icon = none := if_pos hvalid
        rw [List.filterMap_cons_none hnone, ih, List.filter_cons_of_neg (by simpa using hvalid)]
      · have hsome : ∃ warning, renamed? icon = some warning
            ∧ warning.subject = (.changedName, some icon.name) :=
          ⟨_, if_neg hvalid, rfl⟩
        obtain ⟨warning, hwarning, hsubject⟩ := hsome
        rw [List.filterMap_cons_some hwarning, List.map_cons, ih, hsubject,
          List.filter_cons_of_pos (by simpa using hvalid), List.map_cons]

end Rendering

/-- What is rejected is reported under its path. -/
theorem Asset.subjects_rejected (assets : List Asset) :
    ((assets.filterMap rejection?).map (·.diagnostic)).map (·.subject)
      = (assets.filter (·.icon?.isNone)).map fun asset => (.unreadable, some asset.path) := by
  induction assets with
  | nil => rfl
  | cons asset rest ih =>
      rcases asset.toIcon_cases with ⟨icon, -, hicon, hnone⟩ | ⟨fault, -, hnone, hfault, hpath⟩
      · rw [List.filterMap_cons_none hnone, List.filter_cons_of_neg (by simp [hicon]), ih]
      · rw [List.filterMap_cons_some hfault, List.map_cons, List.map_cons, ih,
          List.filter_cons_of_pos (by simp [hnone]), List.map_cons, ← hpath]
        rfl

namespace Generation

/-- The assets that a target is meant for. -/
def chosenAssets (target : Target) (assets : List Asset) (root : String) : List Asset :=
  (Asset.firsts assets).filter fun asset =>
    selected (target.pattern.map fun pattern => .ofPattern pattern root) asset.path

section

variable (target : Target) (assets : List Asset) (root iconType : String)

theorem iconsOf_eq :
    iconsOf assets root target = (chosenAssets target assets root).filterMap Asset.icon? :=
  Collection.ofAssets_eq.1

theorem notices_eq :
    notices assets root iconType target
      = ((chosenAssets target assets root).filterMap Asset.rejection?).map (·.diagnostic)
        ++ if (iconsOf assets root target).length = 0 then [nothingFound target]
          else (iconsOf assets root target).filterMap Rendering.renamed? := by
  have hrejections : (collectTarget target assets root).rejections
      = (chosenAssets target assets root).filterMap Asset.rejection? := Collection.ofAssets_eq.2
  rw [notices, Collection.diagnostics, hrejections, Rendering.ofIcons]
  by_cases hicons : iconsOf assets root target = []
  · simp [hicons]
  · simp [hicons]

theorem subject_nothingFound : (nothingFound target).subject = (.noIcons, none) := by
  rw [nothingFound]
  split <;> rfl

theorem subjects_notices :
    (notices assets root iconType target).map (·.subject)
      = (((chosenAssets target assets root).filter (·.icon?.isNone)).map
          fun asset => (.unreadable, some asset.path))
        ++ if (iconsOf assets root target).length = 0 then [(.noIcons, none)]
          else ((iconsOf assets root target).filter
              fun icon => !ItemName.isValid icon.identifier).map
            fun icon => (.changedName, some icon.name) := by
  rw [notices_eq, List.map_append, Asset.subjects_rejected]
  refine congrArg _ ?_
  split
  · rw [List.map_singleton, subject_nothingFound]
  · exact Rendering.subjects_renamed _

/-- What a target reports apart from the troubles with its assets. -/
def remarks : List Diagnostic :=
  if (iconsOf assets root target).length = 0 then [nothingFound target]
  else (iconsOf assets root target).filterMap Rendering.renamed?

variable {target assets root} in
theorem topic_of_mem_remarks {diagnostic : Diagnostic}
    (h : diagnostic ∈ remarks target assets root) :
    diagnostic.topic = .noIcons ∨ diagnostic.topic = .changedName := by
  have hsubject := List.mem_map_of_mem (f := Diagnostic.subject) h
  rw [remarks] at hsubject
  split at hsubject
  · rw [List.map_singleton, subject_nothingFound, List.mem_singleton] at hsubject
    exact .inl (congrArg Prod.fst hsubject)
  · rw [Rendering.subjects_renamed] at hsubject
    obtain ⟨icon, -, hicon⟩ := List.mem_map.mp hsubject
    exact .inr (congrArg Prod.fst hicon).symm

/-- Apart from the assets that make no icon, a target reports nothing as unreadable. -/
theorem unreadable_notices :
    ((notices assets root iconType target).filter (·.topic = .unreadable)).length
      = ((chosenAssets target assets root).filterMap Asset.rejection?).length := by
  have hrejected : ∀ diagnostic ∈ ((chosenAssets target assets root).filterMap
      Asset.rejection?).map (·.diagnostic), diagnostic.topic = .unreadable := by
    intro diagnostic hmem
    obtain ⟨rejection, -, rfl⟩ := List.mem_map.mp hmem
    rfl
  have hothers : ∀ diagnostic ∈ remarks target assets root, diagnostic.topic ≠ .unreadable := by
    intro diagnostic hmem
    rcases topic_of_mem_remarks hmem with htopic | htopic <;> simp [htopic]
  rw [notices_eq, ← remarks, List.filter_append,
    List.filter_eq_self.mpr (by simpa using hrejected),
    List.filter_eq_nil_iff.mpr (by simpa using hothers), List.append_nil, List.length_map]

end

/-- Every asset that a target is meant for is an icon of it or is reported under
    its path.  The target reports these assets in their order; then that there is
    no icon, which is when it is skipped, or the icons whose identifiers cannot be
    used; then the file that could not be written, if it failed; and nothing else. -/
theorem serve_accounts_for (workspace : Workspace) (target : Target) (assets : List Asset)
    (root iconType : String) (check : Bool) :
    ∃ summary next icons failures,
      serve workspace target assets root iconType check = (summary, next)
        ∧ icons = (chosenAssets target assets root).filterMap Asset.icon?
        ∧ summary.iconTotal = icons.length
        ∧ summary.iconTotal + (summary.diagnostics.filter (·.topic = .unreadable)).length
          = (chosenAssets target assets root).length
        ∧ summary.diagnostics
          = ((chosenAssets target assets root).filterMap Asset.rejection?).map (·.diagnostic)
            ++ (if summary.iconTotal = 0 then [nothingFound target]
              else icons.filterMap Rendering.renamed?)
            ++ failures
        ∧ summary.diagnostics.map (·.subject)
          = (((chosenAssets target assets root).filter (·.icon?.isNone)).map
              fun asset => (.unreadable, some asset.path))
            ++ (if summary.iconTotal = 0 then [(.noIcons, none)]
              else (icons.filter fun icon => !ItemName.isValid icon.identifier).map
                fun icon => (.changedName, some icon.name))
            ++ failures.map (·.subject)
        ∧ (summary.iconTotal = 0 ↔ summary.state = .skipped)
        ∧ (summary.state = .failed ↔ ∃ path failure, failures = [unwritable path failure])
        ∧ (summary.state ≠ .failed ↔ failures = []) := by
  obtain ⟨state, failures, next, hserve, hserved⟩ :=
    serve_eq assets root iconType check workspace target
  have hicons := iconsOf_eq target assets root
  have hfailed : state = .failed ↔ ∃ path failure, failures = [unwritable path failure] := by
    refine ⟨hserved.failures_of_failed, ?_⟩
    rintro ⟨path, failure, hfailures⟩
    by_contra hstate
    exact absurd (hserved.failures_eq_nil hstate) (by simp [hfailures])
  have hsafe : state ≠ .failed ↔ failures = [] := by
    refine ⟨hserved.failures_eq_nil, ?_⟩
    intro hnone hstate
    obtain ⟨path, failure, hfailures⟩ := hserved.failures_of_failed hstate
    exact absurd hnone (by simp [hfailures])
  have hunreadable : failures.filter (·.topic = .unreadable) = [] := by
    by_cases hstate : state = .failed
    · obtain ⟨path, failure, rfl⟩ := hfailed.mp hstate
      rfl
    · rw [hsafe.mp hstate]
      rfl
  refine ⟨_, next, _, failures, hserve, rfl, congrArg List.length hicons, ?_, ?_, ?_, ?_, hfailed,
    hsafe⟩
  · show (iconsOf assets root target).length
        + ((notices assets root iconType target ++ failures).filter
          (·.topic = .unreadable)).length = _
    rw [List.filter_append, hunreadable, List.append_nil, unreadable_notices, hicons]
    exact Collection.length_chosen _
  · show notices assets root iconType target ++ failures = _
    rw [notices_eq, ← hicons]
    rfl
  · show (notices assets root iconType target ++ failures).map (·.subject) = _
    rw [List.map_append, subjects_notices, ← hicons]
    rfl
  · show (iconsOf assets root target).length = 0 ↔ state = .skipped
    rw [hserved.skipped_iff, List.length_eq_zero_iff]

end Generation

end IconCompiler
