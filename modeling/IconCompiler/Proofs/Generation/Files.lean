import IconCompiler.Generation
import IconCompiler.Proofs.GeneratedFile
import Mathlib.Data.List.Basic

/-! # The files of a target

    Which files a target has to provide, and with which contents, depends only
    on its settings and on the assets (`Generation.targetFiles`).  Targets that
    report no error provide them one after the other (`ServedAll.provided`);
    where nothing may be written, each of them is looked up on the disk as it
    stands (`ServedAll.of_check`).  Either way the summaries say the same about
    everything that is not on the disk (`ServedAll.outline`). -/

namespace IconCompiler

namespace Generation

/-! ## What a target comes to -/

/-- The icons of a target. -/
def iconsOf (assets : List Asset) (root : String) (target : Target) : List Icon :=
  (collectTarget target assets root).icons

/-- The manifest of icons that are rendered as `text`. -/
def manifestOf (target : Target) (text : String) (icons : List Icon) : Manifest :=
  Manifest.make target.container icons (Digest.hexDigest text.toUTF8)

/-- The files of a target whose icons are rendered as `text`. -/
def filesOf (target : Target) (text : String) (icons : List Icon) : List DueFile :=
  ⟨target.output, text⟩
    :: target.manifest.toList.map fun path => ⟨path, (manifestOf target text icons).render⟩

/-- The files of a target for which the assets are looked through. -/
def targetFiles (assets : List Asset) (root iconType : String) (target : Target) :
    List DueFile :=
  match Rendering.ofIcons target.container iconType (iconsOf assets root target) with
  | .empty _ => []
  | .source text icons _ => filesOf target text icons

/-- What is reported of a target apart from failures to write. -/
def notices (assets : List Asset) (root iconType : String) (target : Target) :
    List Diagnostic :=
  (collectTarget target assets root).diagnostics
    ++ match Rendering.ofIcons target.container iconType (iconsOf assets root target) with
      | .empty _ => [nothingFound target]
      | .source _ _ renamed => renamed

/-- The summary of a target that ends in the given state. -/
def summaryOf (assets : List Asset) (root iconType : String) (target : Target)
    (state : TargetState) (failures : List Diagnostic) : TargetSummary where
  container := target.container
  output := target.output
  state := state
  iconTotal := (iconsOf assets root target).length
  diagnostics := notices assets root iconType target ++ failures

/-! ## Writing a target -/

theorem writeManifest_eq_ok {workspace next : Workspace} {target : Target} {text : String}
    {icons : List Icon} {before state : FileState}
    (h : writeManifest workspace false target text icons before = (.ok state, next)) :
    (target.manifest = none ∧ state = before ∧ next = workspace)
      ∨ ∃ path own, target.manifest = some path ∧ state = before.combine own
        ∧ GeneratedFile.update workspace false path (manifestOf target text icons).render
          = (.ok own, next) := by
  rw [writeManifest] at h
  split at h
  · next hnone =>
      obtain ⟨hstate, hnext⟩ := Prod.mk.inj h
      exact .inl ⟨hnone, (Except.ok.inj hstate).symm, hnext.symm⟩
  · next path hsome =>
      dsimp only at h
      split at h
      · next own made hupdate =>
          obtain ⟨hstate, rfl⟩ := Prod.mk.inj h
          exact .inr ⟨path, own, hsome, (Except.ok.inj hstate).symm, hupdate⟩
      · exact absurd (Prod.mk.inj h).1 (by simp)

/-- The source of a target is written first, and then its manifest. -/
theorem writeTarget_eq_ok {workspace next : Workspace} {target : Target} {text : String}
    {icons : List Icon} {state : FileState}
    (h : writeTarget workspace false target text icons = (.ok state, next)) :
    ∃ own middle, GeneratedFile.update workspace false target.output text = (.ok own, middle)
      ∧ writeManifest middle false target text icons own = (.ok state, next) := by
  rw [writeTarget] at h
  split at h
  · exact absurd (Prod.mk.inj h).1 (by simp)
  · next own middle hupdate => exact ⟨own, middle, hupdate, h⟩

theorem provided_of_writeTarget {workspace next : Workspace} {target : Target} {text : String}
    {icons : List Icon} {state : FileState}
    (h : writeTarget workspace false target text icons = (.ok state, next)) :
    Provided workspace (filesOf target text icons) next := by
  obtain ⟨own, middle, hsource, hmanifest⟩ := writeTarget_eq_ok h
  rcases writeManifest_eq_ok hmanifest with
    ⟨hnone, -, rfl⟩ | ⟨path, other, hsome, -, hupdate⟩
  · rw [filesOf, hnone]
    exact .cons hsource (.nil next)
  · rw [filesOf, hsome]
    exact .cons hsource (.cons hupdate (.nil next))

/-- A target that could be written is unchanged if its files hold their contents
    already, and written otherwise. -/
theorem state_of_writeTarget {workspace next : Workspace} {target : Target} {text : String}
    {icons : List Icon} {state : FileState}
    (h : writeTarget workspace false target text icons = (.ok state, next)) :
    (state = .unchanged ∧ ∀ file ∈ filesOf target text icons, file.Held workspace)
      ∨ (state = .written ∧ ∃ file ∈ filesOf target text icons, ¬ file.Held workspace) := by
  obtain ⟨own, middle, hsource, hmanifest⟩ := writeTarget_eq_ok h
  have hfirst : (⟨target.output, text⟩ : DueFile) ∈ filesOf target text icons :=
    List.mem_cons_self ..
  rcases GeneratedFile.update_eq_ok hsource with
    ⟨rfl, hheld, rfl⟩ | ⟨rfl, hheld, -⟩ <;>
    rcases writeManifest_eq_ok hmanifest with ⟨hnone, rfl, -⟩ | ⟨path, other, hsome, rfl, hupdate⟩
  · refine .inl ⟨rfl, ?_⟩
    rw [filesOf, hnone]
    simpa using hheld
  -- the manifest is then looked for on the disk as it was
  · have hsecond : (⟨path, (manifestOf target text icons).render⟩ : DueFile)
        ∈ filesOf target text icons := by
      simp [filesOf, hsome]
    rcases GeneratedFile.update_eq_ok hupdate with
      ⟨rfl, hother, -⟩ | ⟨rfl, hother, -⟩
    · refine .inl ⟨rfl, ?_⟩
      rw [filesOf, hsome]
      simpa using ⟨hheld, hother⟩
    · exact .inr ⟨rfl, _, hsecond, hother⟩
  · exact .inr ⟨rfl, _, hfirst, hheld⟩
  · refine .inr ⟨?_, _, hfirst, hheld⟩
    rcases GeneratedFile.update_eq_ok hupdate with ⟨rfl, -⟩ | ⟨rfl, -⟩ <;> rfl

/-- Where nothing may be written, a target is stale if one of its files is. -/
theorem writeTarget_check (workspace : Workspace) (target : Target) (text : String)
    (icons : List Icon) :
    ∃ state, writeTarget workspace true target text icons = (.ok state, workspace)
      ∧ ((state = .unchanged ∧ ∀ file ∈ filesOf target text icons, file.Held workspace)
        ∨ (state = .wouldChange ∧ ∃ file ∈ filesOf target text icons, ¬ file.Held workspace)) := by
  obtain ⟨own, hsource, hown⟩ :=
    GeneratedFile.exists_update_check workspace ⟨target.output, text⟩
  rw [writeTarget, hsource]
  dsimp only
  rw [writeManifest]
  cases hmanifest : target.manifest with
  | none =>
      refine ⟨own, rfl, ?_⟩
      rw [filesOf, hmanifest]
      simpa using hown
  | some path =>
      obtain ⟨other, hsecond, hother⟩ := GeneratedFile.exists_update_check workspace
        ⟨path, (manifestOf target text icons).render⟩
      refine ⟨own.combine other, ?_, ?_⟩
      · dsimp only
        rw [show Manifest.make target.container icons (Digest.hexDigest text.toUTF8)
          = manifestOf target text icons from rfl, hsecond]
      · rw [filesOf, hmanifest]
        rcases hown with ⟨rfl, hown⟩ | ⟨rfl, hown⟩ <;>
          rcases hother with ⟨rfl, hother⟩ | ⟨rfl, hother⟩
        · exact .inl ⟨rfl, by simpa using ⟨hown, hother⟩⟩
        · exact .inr ⟨rfl, by simpa using .inr hother⟩
        · exact .inr ⟨rfl, by simpa using .inl hown⟩
        · exact .inr ⟨rfl, by simpa using .inl hown⟩

/-! ## Serving a target -/

theorem ofIcons_eq_empty {container : Container} {iconType : String} {icons : List Icon}
    {warning : Diagnostic} (h : Rendering.ofIcons container iconType icons = .empty warning) :
    icons = [] := by
  rw [Rendering.ofIcons] at h
  split at h
  · next hempty => exact List.isEmpty_iff.mp hempty
  · exact absurd h (by simp)

theorem ofIcons_eq_source {container : Container} {iconType text : String}
    {icons declared : List Icon} {renamed : List Diagnostic}
    (h : Rendering.ofIcons container iconType icons = .source text declared renamed) :
    icons ≠ [] ∧ declared = icons ∧ text = Rendering.sourceText container iconType icons := by
  rw [Rendering.ofIcons] at h
  split at h
  · exact absurd h (by simp)
  · next hempty =>
      obtain ⟨htext, hdeclared, -⟩ := Rendering.source.inj h
      exact ⟨fun hnil => hempty (List.isEmpty_iff.mpr hnil), hdeclared.symm, htext.symm⟩

section

variable {assets : List Asset} {root iconType : String} {check : Bool}

variable (assets root iconType check) in
/-- How a target can end: without icons, with its files in place, or with one of
    them that could not be written. -/
inductive Served (workspace : Workspace) (target : Target) :
    TargetState → List Diagnostic → Workspace → Prop
  | skipped : iconsOf assets root target = [] → targetFiles assets root iconType target = [] →
      Served workspace target .skipped [] workspace
  | settled {text : String} {icons : List Icon} {renamed : List Diagnostic} {state : FileState}
      {next : Workspace} :
      Rendering.ofIcons target.container iconType (iconsOf assets root target)
        = .source text icons renamed →
      writeTarget workspace check target text icons = (.ok state, next) →
      Served workspace target (.ofWrite state) [] next
  | failed {text : String} {icons : List Icon} {renamed : List Diagnostic} {path : String}
      {failure : Failure} {next : Workspace} :
      Rendering.ofIcons target.container iconType (iconsOf assets root target)
        = .source text icons renamed →
      writeTarget workspace check target text icons = (.error (path, failure), next) →
      Served workspace target .failed [unwritable path failure] next

variable (assets root iconType check) in
/-- Serving a target ends in one of these ways, and its summary says which. -/
theorem serve_eq (workspace : Workspace) (target : Target) :
    ∃ state failures next,
      serve workspace target assets root iconType check
          = (summaryOf assets root iconType target state failures, next)
        ∧ Served assets root iconType check workspace target state failures next := by
  rw [serve]
  dsimp only
  cases hrendering : Rendering.ofIcons target.container iconType
      (collectTarget target assets root).icons with
  | empty warning =>
      have hicons : iconsOf assets root target = [] := ofIcons_eq_empty hrendering
      refine ⟨.skipped, [], workspace, ?_, .skipped hicons ?_⟩
      · simp [summaryOf, notices, hicons, Rendering.ofIcons]
      · rw [targetFiles, hicons]
        rfl
  | source text icons renamed =>
      have hicons := (ofIcons_eq_source hrendering).2.1
      dsimp only
      cases hwrite : writeTarget workspace check target text icons with
      | mk result next =>
          cases result with
          | ok state =>
              refine ⟨.ofWrite state, [], next, ?_, .settled hrendering hwrite⟩
              simp [summaryOf, notices, iconsOf, hrendering, hicons]
          | error fault =>
              obtain ⟨path, failure⟩ := fault
              refine ⟨.failed, [unwritable path failure], next, ?_, .failed hrendering hwrite⟩
              simp [summaryOf, notices, iconsOf, hrendering, hicons]

variable {workspace next : Workspace} {target : Target} {state : TargetState}
  {failures : List Diagnostic}

theorem Served.skipped_iff
    (h : Served assets root iconType check workspace target state failures next) :
    state = .skipped ↔ iconsOf assets root target = [] := by
  cases h with
  | skipped hicons => simp [hicons]
  | @settled text icons renamed own next hrendering hwrite =>
      have hne := (ofIcons_eq_source hrendering).1
      cases own <;> simp [TargetState.ofWrite, hne]
  | failed hrendering hwrite =>
      simp [(ofIcons_eq_source hrendering).1]

theorem Served.failures_eq_nil
    (h : Served assets root iconType check workspace target state failures next)
    (hstate : state ≠ .failed) : failures = [] := by
  cases h with
  | skipped => rfl
  | settled => rfl
  | failed => exact absurd rfl hstate

theorem Served.failures_of_failed
    (h : Served assets root iconType check workspace target state failures next)
    (hstate : state = .failed) : ∃ path failure, failures = [unwritable path failure] := by
  cases h with
  | skipped => exact absurd hstate (by simp)
  | @settled _ _ _ own =>
      cases own <;> exact absurd hstate (by simp [TargetState.ofWrite])
  | @failed _ _ _ path failure => exact ⟨path, failure, rfl⟩

/-- A target that did not fail has its files in place, and was written exactly if
    one of them did not hold its content before. -/
theorem Served.provided
    (h : Served assets root iconType false workspace target state failures next)
    (hstate : state ≠ .failed) :
    Provided workspace (targetFiles assets root iconType target) next
      ∧ (state = .written ↔
        ∃ file ∈ targetFiles assets root iconType target, ¬ file.Held workspace) := by
  cases h with
  | skipped hicons hfiles =>
      rw [hfiles]
      exact ⟨.nil workspace, by simp⟩
  | settled hrendering hwrite =>
      rw [targetFiles, hrendering]
      refine ⟨provided_of_writeTarget hwrite, ?_⟩
      rcases state_of_writeTarget hwrite with ⟨rfl, hall⟩ | ⟨rfl, hsome⟩
      · simpa [TargetState.ofWrite] using hall
      · simpa [TargetState.ofWrite] using hsome
  | failed => exact absurd rfl hstate

/-- Where nothing may be written, nothing is, and a target is stale exactly if
    one of its files does not hold its content. -/
theorem Served.of_check
    (h : Served assets root iconType true workspace target state failures next) :
    next = workspace ∧ failures = []
      ∧ (state = .skipped ∨ state = .unchanged ∨ state = .wouldChange)
      ∧ (state = .wouldChange ↔
        ∃ file ∈ targetFiles assets root iconType target, ¬ file.Held workspace) := by
  cases h with
  | skipped hicons hfiles =>
      rw [hfiles]
      exact ⟨rfl, rfl, .inl rfl, by simp⟩
  | @settled text icons renamed own next hrendering hwrite =>
      obtain ⟨found, hfound, hstate⟩ := writeTarget_check workspace target text icons
      rw [hfound] at hwrite
      obtain ⟨hown, rfl⟩ := Prod.mk.inj hwrite
      obtain rfl := Except.ok.inj hown
      rw [targetFiles, hrendering]
      rcases hstate with ⟨rfl, hall⟩ | ⟨rfl, hsome⟩
      · exact ⟨rfl, rfl, .inr (.inl rfl), by simpa [TargetState.ofWrite] using hall⟩
      · exact ⟨rfl, rfl, .inr (.inr rfl), by simpa [TargetState.ofWrite] using hsome⟩
  | @failed text icons renamed path failure next hrendering hwrite =>
      obtain ⟨found, hfound, -⟩ := writeTarget_check workspace target text icons
      rw [hfound] at hwrite
      exact absurd (Prod.mk.inj hwrite).1 (by simp)

/-! ## Serving targets one after the other -/

variable (assets root iconType check) in
/-- Targets served one after the other, each with its summary. -/
inductive ServedAll : Workspace → List Target → List TargetSummary → Workspace → Prop
  | nil (workspace : Workspace) : ServedAll workspace [] [] workspace
  | cons {workspace next final : Workspace} {target : Target} {targets : List Target}
      {state : TargetState} {failures : List Diagnostic} {summaries : List TargetSummary} :
      Served assets root iconType check workspace target state failures next →
      ServedAll next targets summaries final →
      ServedAll workspace (target :: targets)
        (summaryOf assets root iconType target state failures :: summaries) final

theorem exists_serveAll_eq (plan : GenerationPlan) (assets : List Asset) (total current : Nat)
    (workspace : Workspace) (targets : List Target) :
    ∃ summaries progress final,
      serveAll plan assets total current workspace targets = (summaries, progress, final)
        ∧ ServedAll assets plan.root plan.iconType plan.check workspace targets summaries
          final := by
  induction targets generalizing current workspace with
  | nil => exact ⟨[], [], workspace, rfl, .nil workspace⟩
  | cons target targets ih =>
      obtain ⟨state, failures, next, hserve, hserved⟩ :=
        serve_eq assets plan.root plan.iconType plan.check workspace target
      obtain ⟨summaries, progress, final, hall, hservedAll⟩ := ih (current + 1) next
      refine ⟨_, .targetDone (summaryOf assets plan.root plan.iconType target state failures)
        current total :: progress, final, ?_, .cons hserved hservedAll⟩
      rw [serveAll, hserve]
      dsimp only
      rw [hall]

variable {final : Workspace} {targets : List Target} {summaries : List TargetSummary}

/-- What the summaries say apart from what is on the disk. -/
theorem ServedAll.outline
    (h : ServedAll assets root iconType check workspace targets summaries final) :
    summaries.map (·.container) = targets.map (·.container)
      ∧ summaries.map (·.iconTotal)
        = targets.map (fun target => (iconsOf assets root target).length)
      ∧ summaries.map (fun summary => decide (summary.state = .skipped))
        = targets.map fun target => decide (iconsOf assets root target = []) := by
  induction h with
  | nil workspace => exact ⟨rfl, rfl, rfl⟩
  | cons hserved _ ih =>
      obtain ⟨hcontainer, htotal, hskipped⟩ := ih
      refine ⟨?_, ?_, ?_⟩
      · rw [List.map_cons, List.map_cons, hcontainer]
        rfl
      · rw [List.map_cons, List.map_cons, htotal]
        rfl
      · rw [List.map_cons, List.map_cons, hskipped]
        simp [summaryOf, hserved.skipped_iff]

theorem ServedAll.diagnostics
    (h : ServedAll assets root iconType check workspace targets summaries final)
    (hstates : ∀ summary ∈ summaries, summary.state ≠ .failed) :
    summaries.map (·.diagnostics) = targets.map (notices assets root iconType) := by
  induction h with
  | nil workspace => rfl
  | cons hserved _ ih =>
      obtain ⟨hfirst, hrest⟩ := List.forall_mem_cons.mp hstates
      rw [List.map_cons, List.map_cons, ih hrest, hserved.failures_eq_nil hfirst]
      simp [summaryOf]

/-- A target that failed has an error to report. -/
theorem ServedAll.not_failed
    (h : ServedAll assets root iconType check workspace targets summaries final)
    (hsafe : ∀ summary ∈ summaries, ∀ diagnostic ∈ summary.diagnostics,
      diagnostic.isSevere = false) :
    ∀ summary ∈ summaries, summary.state ≠ .failed := by
  induction h with
  | nil workspace => simp
  | cons hserved _ ih =>
      obtain ⟨hfirst, hrest⟩ := List.forall_mem_cons.mp hsafe
      refine List.forall_mem_cons.mpr ⟨?_, ih hrest⟩
      intro hstate
      obtain ⟨path, failure, rfl⟩ := hserved.failures_of_failed hstate
      have herror := hfirst (unwritable path failure)
        (List.mem_append_right _ (List.mem_singleton_self _))
      exact Bool.noConfusion (show true = false from herror)

/-- Targets of which none failed have their files in place, and one of them was
    written exactly if one of the files did not hold its content at the start. -/
theorem ServedAll.provided
    (h : ServedAll assets root iconType false workspace targets summaries final)
    (hstates : ∀ summary ∈ summaries, summary.state ≠ .failed) :
    Provided workspace (targets.flatMap (targetFiles assets root iconType)) final
      ∧ ((∃ summary ∈ summaries, summary.state = .written) ↔
        ∃ file ∈ targets.flatMap (targetFiles assets root iconType), ¬ file.Held workspace) := by
  induction h with
  | nil workspace => exact ⟨.nil workspace, by simp⟩
  | @cons workspace next final target targets state failures summaries hserved _ ih =>
      obtain ⟨hfirst, hrest⟩ := List.forall_mem_cons.mp hstates
      obtain ⟨hfiles, hwritten⟩ := hserved.provided hfirst
      obtain ⟨hmore, hlater⟩ := ih hrest
      rw [List.flatMap_cons]
      refine ⟨hfiles.append hmore, ?_⟩
      simp only [List.exists_mem_cons_iff, List.mem_append, or_and_right, exists_or]
      by_cases hheld : ∀ file ∈ targetFiles assets root iconType target, file.Held workspace
      -- as long as nothing is written the disk stays as it was
      · obtain rfl := hfiles.eq_of_held hheld
        exact or_congr hwritten hlater
      · have hstale : ∃ file ∈ targetFiles assets root iconType target, ¬ file.Held workspace := by
          simpa using hheld
        exact iff_of_true (.inl (hwritten.mpr hstale)) (.inl hstale)

/-- Where nothing may be written, nothing is, and some target is stale exactly if
    one of the files does not hold its content. -/
theorem ServedAll.of_check
    (h : ServedAll assets root iconType true workspace targets summaries final) :
    final = workspace
      ∧ (∀ summary ∈ summaries,
        summary.state = .skipped ∨ summary.state = .unchanged ∨ summary.state = .wouldChange)
      ∧ ((∃ summary ∈ summaries, summary.state = .wouldChange) ↔
        ∃ file ∈ targets.flatMap (targetFiles assets root iconType), ¬ file.Held workspace) := by
  induction h with
  | nil workspace => exact ⟨rfl, by simp, by simp⟩
  | cons hserved _ ih =>
      obtain ⟨rfl, -, hstate, hstale⟩ := hserved.of_check
      obtain ⟨hfinal, hstates, hlater⟩ := ih
      refine ⟨hfinal, List.forall_mem_cons.mpr ⟨hstate, hstates⟩, ?_⟩
      rw [List.flatMap_cons, List.exists_mem_cons_iff, hlater]
      simp only [List.mem_append, or_and_right, exists_or]
      exact or_congr hstale Iff.rfl

end

end Generation

end IconCompiler
