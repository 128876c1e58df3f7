import IconCompiler.Proofs.Generation.Account
import IconCompiler.Proofs.Generation.Rehearsal

/-! # How a run ends

    A run whose targets are not fit for use ends before anything happens
    (`carryOut_of_unfit`).  Only a failure to write is an error; whatever else
    is reported of assets and icons is a warning (`not_severe_of_mem_reported`).
    So the errors of a summary tell whether a target or the support type failed
    (`CarriedOut.anyFailed_iff`). -/

namespace IconCompiler

theorem Diagnostic.isSevere_iff (diagnostic : Diagnostic) :
    diagnostic.isSevere = true ↔ diagnostic.topic = .unwritable := by
  rw [isSevere, severity, decide_eq_true_iff]
  cases diagnostic.topic <;> simp [DiagnosticTopic.severity]

theorem Diagnostic.isSevere_eq_false_iff (diagnostic : Diagnostic) :
    diagnostic.isSevere = false ↔ diagnostic.topic ≠ .unwritable := by
  rw [← Bool.not_eq_true, isSevere_iff]

/-- The support type or a target ended in the given state. -/
def GenerationSummary.HasState (summary : GenerationSummary) (state : TargetState) : Prop :=
  summary.support = some state ∨ ∃ target ∈ summary.targets, target.state = state

/-- A search reports only what it could not read. -/
theorem Search.topic_of_mem_diagnostics {workspace : Workspace} {extension : String}
    {visits : List Visit} {diagnostic : Diagnostic}
    (h : diagnostic ∈ (visits.foldr (cons workspace extension) empty).diagnostics) :
    diagnostic.topic = .unreadable := by
  induction visits with
  | nil => exact absurd h List.not_mem_nil
  | cons visit rest ih =>
      rw [List.foldr_cons] at h
      generalize rest.foldr (cons workspace extension) empty = found at ih h
      cases visit with
      | entry path kind =>
          cases kind with
          | file =>
              rw [cons] at h
              split at h
              · split at h
                · exact ih h
                · rcases List.mem_cons.mp h with rfl | hlater
                  · rfl
                  · exact ih hlater
              · exact ih h
          | directory => exact ih h
          | link => exact ih h
      | fault path fault =>
          rcases List.mem_cons.mp h with rfl | hlater
          · rfl
          · exact ih hlater
      | loop path ancestor =>
          rcases List.mem_cons.mp h with rfl | hlater
          · rfl
          · exact ih hlater

namespace Generation

variable {workspace final : Workspace} {plan : GenerationPlan} {summary : GenerationSummary}

/-! ## What is reported -/

/-- What a target reports apart from failures to write are warnings. -/
theorem not_severe_of_mem_notices {assets : List Asset} {root iconType : String}
    {target : Target} {diagnostic : Diagnostic}
    (h : diagnostic ∈ notices assets root iconType target) : diagnostic.isSevere = false := by
  rw [Diagnostic.isSevere_eq_false_iff]
  intro htopic
  have hsubject := List.mem_map_of_mem (f := Diagnostic.subject) h
  rw [subjects_notices, List.mem_append] at hsubject
  rcases hsubject with hrejected | hicons
  · obtain ⟨asset, -, hasset⟩ := List.mem_map.mp hrejected
    exact absurd (htopic.symm.trans (congrArg Prod.fst hasset).symm) (by simp)
  · split at hicons
    · exact absurd (htopic.symm.trans (congrArg Prod.fst (List.mem_singleton.mp hicons)))
        (by simp)
    · obtain ⟨icon, -, hicon⟩ := List.mem_map.mp hicons
      exact absurd (htopic.symm.trans (congrArg Prod.fst hicon).symm) (by simp)

theorem not_severe_of_mem_reported {diagnostic : Diagnostic}
    (h : diagnostic ∈ reported workspace plan) : diagnostic.isSevere = false := by
  rw [reported] at h
  split at h
  · rcases List.mem_append.mp h with hsearch | htargets
    · rw [Diagnostic.isSevere_eq_false_iff, Search.topic_of_mem_diagnostics hsearch]
      simp
    · obtain ⟨target, -, hnotice⟩ := List.mem_flatMap.mp htargets
      exact not_severe_of_mem_notices hnotice
  · rw [List.mem_singleton.mp h]
    rfl

/-- A summary has an error exactly if something that was to be written failed. -/
theorem CarriedOut.anyFailed_iff (h : CarriedOut workspace plan summary final) :
    summary.anyFailed = true ↔ summary.HasState .failed := by
  rw [GenerationSummary.HasState]
  constructor
  · intro hfailed
    by_contra hnone
    simp only [not_or, not_exists, not_and] at hnone
    rw [GenerationSummary.anyFailed, h.everyDiagnostic hnone.1 hnone.2, List.any_eq_true] at hfailed
    obtain ⟨diagnostic, hmem, hsevere⟩ := hfailed
    rw [not_severe_of_mem_reported hmem] at hsevere
    exact Bool.noConfusion hsevere
  · intro hstate
    by_contra hnone
    obtain ⟨hsupport, htargets⟩ := h.not_failed (Bool.not_eq_true _ ▸ hnone)
    rcases hstate with hfailed | ⟨target, hmem, hfailed⟩
    · exact hsupport hfailed
    · exact htargets target hmem hfailed

/-! ## Stale outputs -/

/-- Only a check finds the support type stale. -/
theorem Supported.state_of_run {state : Option TargetState} {errors : List Diagnostic}
    (h : Supported workspace plan state errors final) (hcheck : plan.check = false) :
    state ≠ some .wouldChange := by
  cases h with
  | unasked => simp
  | @settled path own _ _ hupdate =>
      rw [hcheck] at hupdate
      rcases GeneratedFile.update_eq_ok hupdate with ⟨rfl, -⟩ | ⟨rfl, -⟩ <;>
        simp [TargetState.ofWrite]
  | failed => simp

/-- Only a check finds a target stale. -/
theorem Served.state_of_run {assets : List Asset} {root iconType : String} {target : Target}
    {state : TargetState} {failures : List Diagnostic}
    (h : Served assets root iconType false workspace target state failures final) :
    state ≠ .wouldChange := by
  cases h with
  | skipped => simp
  | settled _ hwrite =>
      rcases state_of_writeTarget hwrite with ⟨rfl, -⟩ | ⟨rfl, -⟩ <;>
        simp [TargetState.ofWrite]
  | failed => simp

theorem ServedAll.states_of_run {assets : List Asset} {root iconType : String}
    {targets : List Target} {summaries : List TargetSummary}
    (h : ServedAll assets root iconType false workspace targets summaries final) :
    ∀ summary ∈ summaries, summary.state ≠ .wouldChange := by
  induction h with
  | nil workspace => simp
  | cons hserved _ ih => exact List.forall_mem_cons.mpr ⟨hserved.state_of_run, ih⟩

theorem CarriedOut.check_of_stale (h : CarriedOut workspace plan summary final)
    (hstale : summary.HasState .wouldChange) : plan.check = true := by
  by_contra hcheck
  rw [Bool.not_eq_true] at hcheck
  rw [GenerationSummary.HasState] at hstale
  cases h with
  | rootless => simp [Generation.rootless, skipped] at hstale
  | found _ hsupport hserved =>
      rw [hcheck] at hserved
      rcases hstale with hstate | ⟨target, hmem, hstate⟩
      · exact hsupport.state_of_run hcheck hstate
      · exact hserved.states_of_run target hmem hstate

/-! ## Summaries -/

theorem ServedAll.files {assets : List Asset} {root iconType : String} {check : Bool}
    {targets : List Target} {summaries : List TargetSummary}
    (h : ServedAll assets root iconType check workspace targets summaries final) :
    summaries.map (fun summary => (summary.container, summary.output))
      = targets.map fun target => (target.container, target.output) := by
  induction h with
  | nil workspace => rfl
  | cons _ _ ih =>
      rw [List.map_cons, List.map_cons, ih]
      rfl

/-- There is one summary for each target, in their order. -/
theorem CarriedOut.files (h : CarriedOut workspace plan summary final) :
    summary.targets.map (fun target => (target.container, target.output))
      = plan.targets.map fun target => (target.container, target.output) := by
  cases h with
  | rootless => exact List.map_map
  | found _ _ hserved => exact hserved.files

/-- Without a root no target is served and nothing is written. -/
theorem CarriedOut.of_no_root (h : CarriedOut workspace plan summary final)
    (hroot : workspace.isDirectory plan.root = false) :
    final = workspace ∧ summary.support = none
      ∧ ∀ target ∈ summary.targets, target.state = .skipped := by
  cases h with
  | rootless => simp [Generation.rootless, skipped]
  | found hfound => exact Bool.noConfusion (hroot.symm.trans hfound)

/-- A run whose targets are not fit for use gives no summary, and nothing happens. -/
theorem carryOut_of_unfit {failure : Failure}
    (h : Target.requireAllFit plan.targets = .error failure) :
    carryOut workspace plan = (.error failure, [], workspace) := by
  rw [carryOut, h]

end Generation

end IconCompiler
