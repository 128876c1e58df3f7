import IconCompiler.CommandLine.Program
import IconCompiler.Proofs.Generation.Ending

/-! # How the program ends

    The program ends with an error if a command fails, and a run fails if its
    targets are not fit for use, if something could not be written, or if a check
    finds something stale (`exitCode_runPlan`).  Warnings are printed and change
    nothing about that (`errors_are_failures`). -/

namespace IconCompiler.CommandLine

open Generation

variable {workspace : Workspace} {plan : GenerationPlan} {summary : GenerationSummary}

theorem exitCode_eq_one_iff (outcome : Outcome) :
    outcome.exitCode = 1 ↔ ∃ failure, outcome.result = .error failure := by
  rw [Outcome.exitCode]
  cases outcome.result with
  | error failure => simp
  | ok done => simp

theorem exitCode_failed (failure : CommandFailure) : (Outcome.failed failure).exitCode = 1 := rfl

theorem summaryResult_eq_error_iff :
    (∃ failure, summaryResult summary = .error failure)
      ↔ summary.anyFailed = true ∨ summary.anyStale = true := by
  rw [summaryResult]
  cases summary.anyFailed with
  | true => simp
  | false => cases summary.anyStale <;> simp

/-- A run that gives a summary ends the program with an error exactly if something
    failed or a check found something stale. -/
theorem exitCode_of_carryOut {progress : List Progress} {final : Workspace}
    (hfit : Target.requireAllFit plan.targets = .ok ())
    (h : carryOut workspace plan = (.ok summary, progress, final)) :
    (runPlan workspace plan).1.exitCode = 1
      ↔ summary.HasState .failed ∨ plan.check = true ∧ summary.HasState .wouldChange := by
  obtain ⟨found, steps, after, hfound, hrun⟩ := carryOut_eq workspace plan hfit
  obtain ⟨hsame, -⟩ := Prod.mk.inj (h.symm.trans hfound)
  obtain rfl := Except.ok.inj hsame
  have hstale : summary.anyStale = true
      ↔ plan.check = true ∧ summary.HasState .wouldChange := by
    rw [GenerationSummary.anyStale_iff]
    exact ⟨fun hstate => ⟨hrun.check_of_stale hstate, hstate⟩, And.right⟩
  rw [exitCode_eq_one_iff, runPlan, h]
  exact summaryResult_eq_error_iff.trans (or_congr hrun.anyFailed_iff hstale)

theorem exitCode_runPlan :
    (runPlan workspace plan).1.exitCode = 1
      ↔ (∃ failure, Target.requireAllFit plan.targets = .error failure)
        ∨ ∃ summary progress final, carryOut workspace plan = (.ok summary, progress, final)
          ∧ (summary.HasState .failed ∨ plan.check = true ∧ summary.HasState .wouldChange) := by
  cases hfit : Target.requireAllFit plan.targets with
  | error failure =>
      rw [runPlan, carryOut_of_unfit hfit]
      simp [exitCode_failed]
  | ok done =>
      obtain ⟨summary, progress, final, hcarry, -⟩ := carryOut_eq workspace plan hfit
      rw [exitCode_of_carryOut hfit hcarry, hcarry]
      simp

theorem exitCode_generate (overrides : Overrides) (file : Option String) :
    (run workspace ⟨.generate overrides, file⟩).1.exitCode = 1
      ↔ (∃ failure, resolveSettings workspace file = .error failure)
        ∨ ∃ settings, resolveSettings workspace file = .ok settings
          ∧ ((∃ misfit, overrides.apply settings = .error misfit)
            ∨ ∃ plan, overrides.apply settings = .ok plan
              ∧ (runPlan workspace plan).1.exitCode = 1) := by
  show (withSettings workspace file (runGenerate workspace · overrides)).1.exitCode = 1 ↔ _
  rw [withSettings]
  cases resolveSettings workspace file with
  | error failure => simp [exitCode_failed]
  | ok settings =>
      simp only [reduceCtorEq, exists_false, false_or, Except.ok.injEq, exists_eq_left']
      rw [runGenerate]
      cases overrides.apply settings with
      | error misfit => simp [exitCode_failed]
      | ok plan => simp

/-- A run gives no summary exactly if its targets are not fit for use, and then
    nothing happens.  Otherwise there is one summary for each target, in their
    order; there is an error exactly if something failed; only a check finds
    anything stale; and without a root everything is skipped.  So the program ends
    with an error exactly if the settings cannot be read or overridden, the
    targets are not fit for use, something failed, or a check found something
    stale; warnings never count. -/
theorem errors_are_failures (workspace : Workspace) :
    (∀ plan : GenerationPlan,
      match Target.requireAllFit plan.targets with
      | .error failure => carryOut workspace plan = (.error failure, [], workspace)
      | .ok () => ∃ summary progress final,
        carryOut workspace plan = (.ok summary, progress, final)
          ∧ summary.targets.map (fun target => (target.container, target.output))
            = plan.targets.map (fun target => (target.container, target.output))
          ∧ (summary.anyFailed = true ↔ summary.HasState .failed)
          ∧ (summary.HasState .wouldChange → plan.check = true)
          ∧ (workspace.isDirectory plan.root = false →
            final = workspace ∧ summary.support = none
              ∧ ∀ target ∈ summary.targets, target.state = .skipped)
          ∧ ((∀ diagnostic ∈ summary.everyDiagnostic,
              diagnostic.topic ∈ [.noRoot, .noIcons, .unreadable, .changedName]) →
            ((runPlan workspace plan).1.exitCode = 1
              ↔ plan.check = true ∧ summary.HasState .wouldChange)))
      ∧ ∀ (overrides : Overrides) (file : Option String),
        (run workspace ⟨.generate overrides, file⟩).1.exitCode = 1
          ↔ (∃ failure, resolveSettings workspace file = .error failure)
            ∨ ∃ settings, resolveSettings workspace file = .ok settings
              ∧ ((∃ misfit, overrides.apply settings = .error misfit)
                ∨ ∃ plan, overrides.apply settings = .ok plan
                  ∧ ((∃ failure, Target.requireAllFit plan.targets = .error failure)
                    ∨ ∃ summary progress final,
                      carryOut workspace plan = (.ok summary, progress, final)
                        ∧ (summary.HasState .failed
                          ∨ plan.check = true ∧ summary.HasState .wouldChange))) := by
  refine ⟨?_, ?_⟩
  · intro plan
    cases hfit : Target.requireAllFit plan.targets with
    | error failure => exact carryOut_of_unfit hfit
    | ok done =>
        obtain ⟨summary, progress, final, hcarry, hrun⟩ := carryOut_eq workspace plan hfit
        refine ⟨summary, progress, final, hcarry, hrun.files, hrun.anyFailed_iff,
          hrun.check_of_stale, hrun.of_no_root, ?_⟩
        intro hwarnings
        rw [exitCode_of_carryOut hfit hcarry]
        refine or_iff_right ?_
        -- a failure would have been reported as an error
        intro hfailed
        rw [← hrun.anyFailed_iff, GenerationSummary.anyFailed, List.any_eq_true] at hfailed
        obtain ⟨diagnostic, hmem, hsevere⟩ := hfailed
        rw [Diagnostic.isSevere_iff] at hsevere
        exact absurd (hsevere ▸ hwarnings diagnostic hmem) (by decide)
  · intro overrides file
    rw [exitCode_generate]
    simp only [exitCode_runPlan]

end IconCompiler.CommandLine
