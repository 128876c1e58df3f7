import IconCompiler.Proofs.Disk.Plain
import IconCompiler.Proofs.Generation.Files

/-! # Checks as rehearsals of runs

    A check and a run with the same settings find the same assets, and so they
    have the same files to provide (`Generation.dueFiles`).  The check compares
    all of them with the disk as it stands; the run writes the first one that
    does not hold its content, and from there on compares with a disk of its own
    making.  Up to that first file the two go side by side, which is enough for
    the check to tell whether the run is going to write
    (`check_foretells_run`). -/

namespace IconCompiler

namespace GenerationSummary

/-- Whether some output was written. -/
def anyWritten (summary : GenerationSummary) : Bool :=
  summary.support == some .written || summary.targets.any (·.state == .written)

theorem anyStale_iff (summary : GenerationSummary) :
    summary.anyStale = true ↔ summary.support = some .wouldChange
      ∨ ∃ target ∈ summary.targets, target.state = .wouldChange := by
  simp [anyStale]

theorem anyWritten_iff (summary : GenerationSummary) :
    summary.anyWritten = true ↔ summary.support = some .written
      ∨ ∃ target ∈ summary.targets, target.state = .written := by
  simp [anyWritten]

end GenerationSummary

namespace Generation

variable {workspace : Workspace} {plan : GenerationPlan}

/-! ## What a run has to do -/

variable (workspace plan) in
/-- What is found below the root of a run. -/
def searched : Search :=
  (workspace.walk true plan.root).foldr (Search.cons workspace plan.extension) .empty

variable (workspace plan) in
/-- The assets that a run works on; without a root there are none. -/
def foundAssets : List Asset :=
  if workspace.isDirectory plan.root then (searched workspace plan).assets else []

variable (plan) in
/-- The file of the support type, if it is asked for. -/
def supportFiles : List DueFile :=
  plan.supportOutput.toList.map fun path => ⟨path, SupportType.source⟩

variable (workspace plan) in
/-- All files that a run has to provide; without a root it provides none. -/
def dueFiles : List DueFile :=
  if workspace.isDirectory plan.root then
    supportFiles plan
      ++ plan.targets.flatMap (targetFiles (foundAssets workspace plan) plan.root plan.iconType)
  else []

variable (workspace plan) in
/-- All that a run reports apart from failures to write. -/
def reported : List Diagnostic :=
  if workspace.isDirectory plan.root then
    (searched workspace plan).diagnostics
      ++ plan.targets.flatMap (notices (foundAssets workspace plan) plan.root plan.iconType)
  else [missingRoot plan.root]

/-! ## The support type -/

variable (workspace plan) in
/-- How the writing of the support type can end. -/
inductive Supported : Option TargetState → List Diagnostic → Workspace → Prop
  | unasked : plan.supportOutput = none → Supported none [] workspace
  | settled {path : String} {state : FileState} {next : Workspace} :
      plan.supportOutput = some path →
      GeneratedFile.update workspace plan.check path SupportType.source = (.ok state, next) →
      Supported (some (.ofWrite state)) [] next
  | failed {path : String} {failure : Failure} {next : Workspace} :
      plan.supportOutput = some path →
      GeneratedFile.update workspace plan.check path SupportType.source = (.error failure, next) →
      Supported (some .failed) [unwritable path failure] next

variable (workspace plan) in
theorem writeSupport_eq :
    ∃ state errors progress next, writeSupport workspace plan = (state, errors, progress, next)
      ∧ Supported workspace plan state errors next := by
  rw [writeSupport]
  cases hpath : plan.supportOutput with
  | none => exact ⟨_, _, _, _, rfl, .unasked hpath⟩
  | some path =>
      cases hupdate : GeneratedFile.update workspace plan.check path SupportType.source with
      | mk result next =>
          dsimp only
          rw [hupdate]
          cases result with
          | ok state => exact ⟨_, _, _, _, rfl, .settled hpath hupdate⟩
          | error failure => exact ⟨_, _, _, _, rfl, .failed hpath hupdate⟩

section

variable {state : Option TargetState} {errors : List Diagnostic} {next : Workspace}

theorem Supported.errors_eq_nil (h : Supported workspace plan state errors next)
    (hstate : state ≠ some .failed) : errors = [] := by
  cases h with
  | unasked => rfl
  | settled => rfl
  | failed => exact absurd rfl hstate

theorem Supported.errors_of_failed (h : Supported workspace plan state errors next)
    (hstate : state = some .failed) : ∃ path failure, errors = [unwritable path failure] := by
  cases h with
  | unasked => exact absurd hstate (by simp)
  | @settled path own =>
      cases own <;> exact absurd hstate (by simp [TargetState.ofWrite])
  | @failed path failure => exact ⟨path, failure, rfl⟩

/-- A support type that did not fail has its file in place, and was written
    exactly if the file did not hold its content before. -/
theorem Supported.provided (h : Supported workspace plan state errors next)
    (hcheck : plan.check = false) (hstate : state ≠ some .failed) :
    Provided workspace (supportFiles plan) next
      ∧ (state = some .written ↔ ∃ file ∈ supportFiles plan, ¬ file.Held workspace) := by
  cases h with
  | unasked hpath =>
      rw [supportFiles, hpath]
      exact ⟨.nil workspace, by simp⟩
  | @settled path own next hpath hupdate =>
      rw [hcheck] at hupdate
      rw [supportFiles, hpath]
      refine ⟨.cons hupdate (.nil next), ?_⟩
      rcases GeneratedFile.update_eq_ok hupdate with ⟨rfl, hheld, -⟩ | ⟨rfl, hheld, -⟩ <;>
        simpa [TargetState.ofWrite] using hheld
  | failed => exact absurd rfl hstate

/-- Where nothing may be written, nothing is, and the support type is stale
    exactly if its file does not hold its content. -/
theorem Supported.of_check (h : Supported workspace plan state errors next)
    (hcheck : plan.check = true) :
    next = workspace ∧ (state = none ∨ state = some .unchanged ∨ state = some .wouldChange)
      ∧ (state = some .wouldChange ↔ ∃ file ∈ supportFiles plan, ¬ file.Held workspace) := by
  have hupdate (path : String) := GeneratedFile.exists_update_check workspace
    ⟨path, SupportType.source⟩
  cases h with
  | unasked hpath =>
      rw [supportFiles, hpath]
      exact ⟨rfl, .inl rfl, by simp⟩
  | @settled path own next hpath hfound =>
      obtain ⟨expected, hexpected, hstate⟩ := hupdate path
      rw [hcheck, hexpected] at hfound
      obtain ⟨hown, rfl⟩ := Prod.mk.inj hfound
      obtain rfl := Except.ok.inj hown
      rw [supportFiles, hpath]
      rcases hstate with ⟨rfl, hheld⟩ | ⟨rfl, hheld⟩
      · exact ⟨rfl, .inr (.inl rfl), by simpa [TargetState.ofWrite] using hheld⟩
      · exact ⟨rfl, .inr (.inr rfl), by simpa [TargetState.ofWrite] using hheld⟩
  | @failed path failure next hpath hfound =>
      obtain ⟨expected, hexpected, -⟩ := hupdate path
      rw [hcheck, hexpected] at hfound
      exact absurd (Prod.mk.inj hfound).1 (by simp)

end

/-! ## Whole runs -/

variable (workspace plan) in
/-- How a run with fit targets can go: without a root it is over at once, otherwise
    it writes the support type and serves its targets. -/
inductive CarriedOut : GenerationSummary → Workspace → Prop
  | rootless : workspace.isDirectory plan.root = false →
      CarriedOut (rootless plan) workspace
  | found {support : Option TargetState} {errors : List Diagnostic}
      {supported final : Workspace} {summaries : List TargetSummary} :
      workspace.isDirectory plan.root = true →
      Supported workspace plan support errors supported →
      ServedAll (foundAssets workspace plan) plan.root plan.iconType plan.check supported
        plan.targets summaries final →
      CarriedOut ⟨summaries, (searched workspace plan).diagnostics ++ errors, support⟩ final

variable (workspace plan) in
theorem carryOut_eq (hfit : Target.requireAllFit plan.targets = .ok ()) :
    ∃ summary progress final, carryOut workspace plan = (.ok summary, progress, final)
      ∧ CarriedOut workspace plan summary final := by
  rw [carryOut, hfit]
  dsimp only
  by_cases hroot : workspace.isDirectory plan.root = true
  · rw [if_pos hroot, Search.below, if_pos hroot]
    dsimp only
    obtain ⟨support, errors, supportProgress, supported, hwrite, hsupported⟩ :=
      writeSupport_eq workspace plan
    obtain ⟨summaries, progress, final, hserve, hserved⟩ :=
      exists_serveAll_eq plan (searched workspace plan).assets plan.targets.length 1
        supported plan.targets
    rw [searched] at hserve
    rw [runFound, hwrite]
    dsimp only
    rw [hserve]
    refine ⟨_, _, final, rfl, .found hroot hsupported ?_⟩
    rw [foundAssets, if_pos hroot]
    exact hserved
  · rw [if_neg hroot]
    exact ⟨_, _, workspace, rfl, .rootless (by simpa using hroot)⟩

section

variable {summary : GenerationSummary} {final : Workspace}

/-- What the summary of a run says apart from what is on the disk. -/
theorem CarriedOut.outline (h : CarriedOut workspace plan summary final) :
    summary.targets.map (·.container) = plan.targets.map (·.container)
      ∧ summary.targets.map (·.iconTotal)
        = plan.targets.map
          (fun target => (iconsOf (foundAssets workspace plan) plan.root target).length)
      ∧ summary.targets.map (fun target => decide (target.state = .skipped))
        = plan.targets.map
          (fun target => decide (iconsOf (foundAssets workspace plan) plan.root target = [])) := by
  cases h with
  | rootless hroot =>
      have hassets : foundAssets workspace plan = [] := by
        rw [foundAssets, hroot, if_neg Bool.false_ne_true]
      rw [hassets]
      -- without assets there are no icons, as without a root
      exact ⟨List.map_map, List.map_map, List.map_map⟩
  | found _ _ hserved => exact hserved.outline

theorem CarriedOut.not_failed (h : CarriedOut workspace plan summary final)
    (hsafe : summary.anyFailed = false) :
    summary.support ≠ some .failed ∧ ∀ target ∈ summary.targets, target.state ≠ .failed := by
  have hall : ∀ diagnostic ∈ summary.everyDiagnostic, diagnostic.isSevere = false := by
    simpa [GenerationSummary.anyFailed] using hsafe
  cases h with
  | rootless hroot => simp [Generation.rootless, skipped]
  | found hroot hsupport hserved =>
      refine ⟨?_, hserved.not_failed ?_⟩
      · intro hstate
        obtain ⟨path, failure, rfl⟩ := hsupport.errors_of_failed hstate
        have herror := hall (unwritable path failure) (by simp [GenerationSummary.everyDiagnostic])
        exact Bool.noConfusion (show true = false from herror)
      · intro target htarget diagnostic hdiagnostic
        refine hall diagnostic (List.mem_append_right _ ?_)
        exact List.mem_flatMap.mpr ⟨target, htarget, hdiagnostic⟩

/-- A run without failures reports what there is to report of its assets. -/
theorem CarriedOut.everyDiagnostic (h : CarriedOut workspace plan summary final)
    (hsupport : summary.support ≠ some .failed)
    (hstates : ∀ target ∈ summary.targets, target.state ≠ .failed) :
    summary.everyDiagnostic = reported workspace plan := by
  cases h with
  | rootless hroot =>
      rw [reported, hroot, if_neg Bool.false_ne_true]
      simp [GenerationSummary.everyDiagnostic, Generation.rootless, skipped,
        List.flatMap_eq_nil_iff]
  | found hroot hwrite hserved =>
      have hnone := hwrite.errors_eq_nil hsupport
      rw [reported, if_pos hroot, GenerationSummary.everyDiagnostic, hnone, List.append_nil,
        List.flatMap_def, hserved.diagnostics hstates, ← List.flatMap_def]

/-- A run without failures has all its files in place, and has written some of
    them exactly if one of them did not hold its content at the start. -/
theorem CarriedOut.provided (h : CarriedOut workspace plan summary final)
    (hcheck : plan.check = false) (hsafe : summary.anyFailed = false) :
    Provided workspace (dueFiles workspace plan) final
      ∧ (summary.anyWritten = true ↔ ∃ file ∈ dueFiles workspace plan, ¬ file.Held workspace) := by
  obtain ⟨hsupport, hstates⟩ := h.not_failed hsafe
  rw [GenerationSummary.anyWritten_iff]
  cases h with
  | rootless hroot =>
      rw [dueFiles, hroot, if_neg Bool.false_ne_true]
      refine ⟨.nil workspace, ?_⟩
      simp [Generation.rootless, skipped]
  | found hroot hwrite hserved =>
      rw [hcheck] at hserved
      rw [dueFiles, if_pos hroot]
      obtain ⟨hfirst, hsupportWritten⟩ := hwrite.provided hcheck hsupport
      obtain ⟨hrest, htargetWritten⟩ := hserved.provided hstates
      refine ⟨hfirst.append hrest, ?_⟩
      simp only [List.mem_append, or_and_right, exists_or]
      by_cases hheld : ∀ file ∈ supportFiles plan, file.Held workspace
      -- the targets are then compared with the disk as it was
      · obtain rfl := hfirst.eq_of_held hheld
        exact or_congr hsupportWritten htargetWritten
      · have hstale : ∃ file ∈ supportFiles plan, ¬ file.Held workspace := by simpa using hheld
        exact iff_of_true (.inl (hsupportWritten.mpr hstale)) (.inl hstale)

/-- A check leaves everything as it was, and finds something stale exactly if one
    of the files does not hold its content. -/
theorem CarriedOut.of_check (h : CarriedOut workspace plan summary final)
    (hcheck : plan.check = true) :
    final = workspace
      ∧ (summary.support = none ∨ summary.support = some .unchanged
        ∨ summary.support = some .wouldChange)
      ∧ (∀ target ∈ summary.targets,
        target.state = .skipped ∨ target.state = .unchanged ∨ target.state = .wouldChange)
      ∧ (summary.anyStale = true ↔ ∃ file ∈ dueFiles workspace plan, ¬ file.Held workspace) := by
  rw [GenerationSummary.anyStale_iff]
  cases h with
  | rootless hroot =>
      rw [dueFiles, hroot, if_neg Bool.false_ne_true]
      simp [Generation.rootless, skipped]
  | found hroot hwrite hserved =>
      rw [hcheck] at hserved
      rw [dueFiles, if_pos hroot]
      obtain ⟨rfl, hsupport, hstale⟩ := hwrite.of_check hcheck
      obtain ⟨rfl, hstates, hlater⟩ := hserved.of_check
      refine ⟨rfl, hsupport, hstates, ?_⟩
      rw [hstale, hlater]
      simp only [List.mem_append, or_and_right, exists_or]

end

/-- A disk with one asset. -/
def oneAsset : Disk :=
  Disk.put (Disk.put .empty ["icons"] .directory) ["icons", "a.svg"] (.file "<svg/>".toUTF8)

theorem isPlain_oneAsset : oneAsset.IsPlain := by
  have hicons : IsName "icons" := by refine ⟨⟨?_, ?_, ?_, ?_⟩, ?_, ?_⟩ <;> decide
  have hasset : IsName "a.svg" := by refine ⟨⟨?_, ?_, ?_, ?_⟩, ?_, ?_⟩ <;> decide
  have houter : (Disk.put .empty ([] ++ ["icons"]) .directory).IsPlain :=
    Disk.isPlain_empty.put hicons rfl (by decide) (fun _ => by simp)
  have hinner : (Disk.put (Disk.put .empty ["icons"] .directory) (["icons"] ++ ["a.svg"])
      (.file "<svg/>".toUTF8)).IsPlain :=
    houter.put hasset (by decide) (by decide) (fun _ => by simp)
  exact hinner

/-- A check of fit targets leaves everything as it was.  If the run from the same
    disk reports no error, the check finds something stale exactly if the run
    writes something, and both tell the same of the targets and of the assets.
    Files of the run may well share a path. -/
theorem check_foretells_run (workspace : Workspace) (plan : GenerationPlan)
    (hfit : Target.requireAllFit plan.targets = .ok ()) :
    ∃ checked progress real steps final,
      carryOut workspace { plan with check := true } = (.ok checked, progress, workspace)
        ∧ carryOut workspace { plan with check := false } = (.ok real, steps, final)
        ∧ (real.anyFailed = false →
          (checked.anyStale = true ↔ real.anyWritten = true)
            ∧ checked.targets.map (·.container) = real.targets.map (·.container)
            ∧ checked.targets.map (·.iconTotal) = real.targets.map (·.iconTotal)
            ∧ checked.targets.map (fun target => decide (target.state = .skipped))
              = real.targets.map (fun target => decide (target.state = .skipped))
            ∧ checked.everyDiagnostic = real.everyDiagnostic) := by
  obtain ⟨checked, progress, same, hchecked, hcheck⟩ :=
    carryOut_eq workspace { plan with check := true } hfit
  obtain ⟨real, steps, final, hreal, hrun⟩ :=
    carryOut_eq workspace { plan with check := false } hfit
  obtain ⟨rfl, hsupport, hstates, hstale⟩ := hcheck.of_check rfl
  refine ⟨checked, progress, real, steps, final, hchecked, hreal, ?_⟩
  intro hsafe
  obtain ⟨-, hwritten⟩ := hrun.provided rfl hsafe
  obtain ⟨hcontainers, htotals, hskipped⟩ := hcheck.outline
  obtain ⟨hcontainers', htotals', hskipped'⟩ := hrun.outline
  obtain ⟨hsupport', hstates'⟩ := hrun.not_failed hsafe
  refine ⟨hstale.trans hwritten.symm, hcontainers.trans hcontainers'.symm,
    htotals.trans htotals'.symm, hskipped.trans hskipped'.symm, ?_⟩
  rw [hrun.everyDiagnostic hsupport' hstates', hcheck.everyDiagnostic]
  · rfl
  · rcases hsupport with h | h | h <;> simp [h]
  · intro target htarget
    rcases hstates target htarget with h | h | h <;> simp [h]

/-- Two targets that go to one file, by different paths. -/
theorem check_foretells_run_shared :
    ∃ (plan : GenerationPlan) (workspace : Workspace),
      plan = ⟨"icons", "svg", "Icon", none,
          [⟨"one", none, none, "out.rs", none⟩, ⟨"two", some "ui", some "*.svg", "./out.rs", none⟩],
          false⟩
        ∧ workspace = .ofDisk oneAsset []
        ∧ Target.requireAllFit plan.targets = .ok ()
        ∧ ∃ checked progress real steps final,
          carryOut workspace { plan with check := true } = (.ok checked, progress, workspace)
            ∧ carryOut workspace { plan with check := false } = (.ok real, steps, final)
            ∧ real.anyFailed = false ∧ real.anyWritten = true ∧ checked.anyStale = true
            ∧ checked.targets.map (·.iconTotal) = real.targets.map (·.iconTotal)
            ∧ checked.everyDiagnostic = real.everyDiagnostic := by
  obtain ⟨plan, hplan⟩ : ∃ plan : GenerationPlan, plan = ⟨"icons", "svg", "Icon", none,
    [⟨"one", none, none, "out.rs", none⟩, ⟨"two", some "ui", some "*.svg", "./out.rs", none⟩],
    false⟩ := ⟨_, rfl⟩
  obtain ⟨workspace, hworkspace⟩ : ∃ workspace : Workspace, workspace = .ofDisk oneAsset [] :=
    ⟨_, rfl⟩
  have hfit : Target.requireAllFit plan.targets = .ok () := by
    rw [hplan]
    decide
  have hrun : (carryOut workspace { plan with check := false }).1.toOption.map
      (fun summary => (summary.anyFailed, summary.anyWritten)) = some (false, true) := by
    rw [hplan, hworkspace]
    decide +kernel
  obtain ⟨checked, progress, real, steps, final, hchecked, hreal, hsame⟩ :=
    check_foretells_run workspace plan hfit
  rw [hreal] at hrun
  obtain ⟨hsafe, hwritten⟩ := Prod.mk.inj (Option.some.inj hrun)
  obtain ⟨hstale, -, htotals, -, hdiagnostics⟩ := hsame hsafe
  exact ⟨plan, workspace, hplan, hworkspace, hfit, checked, progress, real, steps, final, hchecked,
    hreal, hsafe, hwritten, hstale.mpr hwritten, htotals, hdiagnostics⟩

end Generation

end IconCompiler
