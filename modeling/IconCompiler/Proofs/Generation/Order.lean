import IconCompiler.Proofs.Generation.Independence
import IconCompiler.Proofs.Generation.Rehearsal

/-! # The order of targets

    Targets that keep clear of each other can be served in any order
    (`serveEach_perm`), because any order comes from any other by swapping
    neighbours.  So a run comes to the same with its targets in any order
    (`independent_targets_commute`). -/

namespace IconCompiler

open Disk Workspace GeneratedFile

namespace Target

theorem requireAllFit_eq_ok_iff {targets : List Target} :
    requireAllFit targets = .ok ()
      ↔ targets ≠ [] ∧ ∀ target ∈ targets, target.requireFit = .ok () := by
  have hall : targets.forM requireFit = .ok ()
      ↔ ∀ target ∈ targets, target.requireFit = .ok () := by
    induction targets with
    | nil => exact iff_of_true rfl nofun
    | cons target rest ih =>
        show (target.requireFit >>= fun _ => rest.forM requireFit) = .ok () ↔ _
        rw [bind_eq_ok_iff, List.forall_mem_cons, ← ih]
        exact ⟨fun ⟨_, hfirst, hrest⟩ => ⟨hfirst, hrest⟩, fun ⟨hfirst, hrest⟩ =>
          ⟨(), hfirst, hrest⟩⟩
  rw [requireAllFit, ← hall]
  cases targets with
  | nil => exact iff_of_false nofun fun h => h.1 rfl
  | cons target rest => exact (and_iff_right (List.cons_ne_nil _ _)).symm

/-- The order of targets does not matter to whether they are fit for use. -/
theorem requireAllFit_perm {targets others : List Target} (hperm : targets.Perm others) :
    requireAllFit targets = .ok () ↔ requireAllFit others = .ok () := by
  rw [requireAllFit_eq_ok_iff, requireAllFit_eq_ok_iff]
  refine and_congr (not_congr ?_) ?_
  · exact ⟨fun h => (h ▸ hperm).symm.eq_nil, fun h => (h ▸ hperm).eq_nil⟩
  · exact forall_congr' fun target => imp_congr_left hperm.mem_iff

end Target

namespace Generation

/-! ## Any number of targets -/

section

variable {workspace : Workspace} (assets : List Asset) (root iconType : String) (check : Bool)

/-- Serve targets one after the other, each with its summary. -/
def serveEach (workspace : Workspace) : List Target → List (Target × TargetSummary) × Workspace
  | [] => ([], workspace)
  | target :: rest =>
    let served := serve workspace target assets root iconType check
    let others := serveEach served.2 rest
    ((target, served.1) :: others.1, others.2)

theorem serveAll_eq_serveEach (plan : GenerationPlan) (total current : Nat)
    (workspace : Workspace) (targets : List Target) :
    targets.zip (serveAll plan assets total current workspace targets).1
        = (serveEach assets plan.root plan.iconType plan.check workspace targets).1
      ∧ (serveAll plan assets total current workspace targets).2.2
        = (serveEach assets plan.root plan.iconType plan.check workspace targets).2 := by
  induction targets generalizing current workspace with
  | nil => exact ⟨rfl, rfl⟩
  | cons target rest ih =>
      obtain ⟨hsummaries, hfinal⟩ := ih (current + 1)
        (serve workspace target assets plan.root plan.iconType plan.check).2
      rw [serveAll, serveEach, ← hsummaries, ← hfinal]
      exact ⟨rfl, rfl⟩

/-- Nothing but what stands at which location matters to targets. -/
theorem serveEach_congr {first second : Workspace} (hsame : Same first second)
    (hplain : first.IsPlain) (hplain' : second.IsPlain) {targets : List Target}
    (hstraight : ∀ target ∈ targets, target.IsStraight) :
    (serveEach assets root iconType check second targets).1
        = (serveEach assets root iconType check first targets).1
      ∧ Same (serveEach assets root iconType check first targets).2
        (serveEach assets root iconType check second targets).2 := by
  induction targets generalizing first second with
  | nil => exact ⟨rfl, hsame⟩
  | cons target rest ih =>
      obtain ⟨hfirst, hrest⟩ := List.forall_mem_cons.mp hstraight
      have halike := serve_alike hfirst (hsame.ahead hplain hplain' _) check assets root iconType
      have hnext := confined_serve hplain hfirst check assets root iconType
      have hnext' := confined_serve hplain' hfirst check assets root iconType
      have hsameNext : Same (serve first target assets root iconType check).2
          (serve second target assets root iconType check).2 :=
        ⟨hnext'.directory.trans (hsame.directory.trans hnext.directory.symm),
          fun location => halike.entry location (hsame.entry location)⟩
      obtain ⟨hsummaries, hfinal⟩ := ih hsameNext hnext.plain hnext'.plain hrest
      rw [serveEach, serveEach]
      dsimp only
      rw [halike.result, hsummaries]
      exact ⟨rfl, hfinal⟩

/-- Targets that keep clear of each other can be served in any order. -/
theorem serveEach_perm (h : workspace.IsPlain) {targets others : List Target}
    (hperm : targets.Perm others) (hstraight : ∀ target ∈ targets, target.IsStraight)
    (hindependent : targets.Pairwise (Target.Independent workspace)) :
    (serveEach assets root iconType check workspace targets).1.Perm
        (serveEach assets root iconType check workspace others).1
      ∧ Same (serveEach assets root iconType check workspace targets).2
        (serveEach assets root iconType check workspace others).2 := by
  induction hperm generalizing workspace with
  | nil => exact ⟨.nil, .refl workspace⟩
  | cons target _ ih =>
      obtain ⟨hfirst, hrest⟩ := List.forall_mem_cons.mp hstraight
      have hnext := confined_serve h hfirst check assets root iconType
      have hlater := (List.pairwise_cons.mp hindependent).2
      rw [← Target.independent_congr hnext.directory] at hlater
      obtain ⟨hsummaries, hfinal⟩ := ih hnext.plain hrest hlater
      exact ⟨hsummaries.cons _, hfinal⟩
  | swap a b rest =>
      obtain ⟨hb, harest⟩ := List.forall_mem_cons.mp hstraight
      obtain ⟨ha, hrest⟩ := List.forall_mem_cons.mp harest
      have hclear : Target.Independent workspace b a :=
        (List.pairwise_cons.mp hindependent).1 a (List.mem_cons_self ..)
      obtain ⟨hsummaryB, hsummaryA, hsame⟩ :=
        serve_comm assets root iconType check h hb ha hclear
      have hafterA := (confined_serve h ha check assets root iconType).plain
      have hafterB := (confined_serve h hb check assets root iconType).plain
      obtain ⟨hsummaries, hfinal⟩ := serveEach_congr assets root iconType check hsame
        (confined_serve hafterB ha check assets root iconType).plain
        (confined_serve hafterA hb check assets root iconType).plain hrest
      simp only [serveEach]
      rw [hsummaryA, hsummaryB, hsummaries]
      exact ⟨.swap _ _ _, hfinal⟩
  | trans hfirst hsecond ih ih' =>
      obtain ⟨hsummaries, hfinal⟩ := ih h hstraight hindependent
      obtain ⟨hsummaries', hfinal'⟩ := ih' h
        (fun target htarget => hstraight target (hfirst.mem_iff.mpr htarget))
        (hfirst.pairwise hindependent fun hclear => hclear.symm)
      exact ⟨hsummaries.trans hsummaries', hfinal.trans hfinal'⟩

end

/-! ## Whole runs -/

/-- Two runs with the same targets in different orders: neither has a summary, or
    both tell the same of each target and of everything else. -/
inductive Reordered (targets others : List Target) :
    Except Failure GenerationSummary → Except Failure GenerationSummary → Prop
  | refused (failure failure' : Failure) : Reordered targets others (.error failure) (.error failure')
  | reported {summary summary' : GenerationSummary} :
      summary'.support = summary.support → summary'.diagnostics = summary.diagnostics →
      (targets.zip summary.targets).Perm (others.zip summary'.targets) →
      Reordered targets others (.ok summary) (.ok summary')

theorem isPlain_writeSupport {workspace : Workspace} (h : workspace.IsPlain)
    (plan : GenerationPlan) : (writeSupport workspace plan).2.2.2.IsPlain
      ∧ (writeSupport workspace plan).2.2.2.directory = workspace.directory := by
  rw [writeSupport]
  split
  · exact ⟨h, rfl⟩
  · next path hpath =>
      have hplain := isPlain_update h plan.check path SupportType.source
      dsimp only
      split <;> next hupdate =>
        rw [hupdate] at hplain
        exact hplain

section

variable {workspace : Workspace} (h : workspace.IsPlain) {plan : GenerationPlan}
  {others : List Target} (hperm : plan.targets.Perm others)
  (hstraight : ∀ target ∈ plan.targets, target.IsStraight)
  (hindependent : plan.targets.Pairwise (Target.Independent workspace))
include h hperm hstraight hindependent

theorem runFound_perm (found : Search) :
    Reordered plan.targets others (.ok (runFound workspace plan found).1)
        (.ok (runFound workspace { plan with targets := others } found).1)
      ∧ Same (runFound workspace plan found).2.2
        (runFound workspace { plan with targets := others } found).2.2 := by
  obtain ⟨hplain, hdirectory⟩ := isPlain_writeSupport h plan
  rw [← Target.independent_congr hdirectory] at hindependent
  obtain ⟨hsummaries, hfinal⟩ := serveEach_perm found.assets plan.root plan.iconType plan.check
    hplain hperm hstraight hindependent
  obtain ⟨heach, hlast⟩ := serveAll_eq_serveEach found.assets plan plan.targets.length 1
    (writeSupport workspace plan).2.2.2 plan.targets
  obtain ⟨heach', hlast'⟩ := serveAll_eq_serveEach found.assets { plan with targets := others }
    others.length 1 (writeSupport workspace plan).2.2.2 others
  rw [← heach, ← heach'] at hsummaries
  rw [← hlast, ← hlast'] at hfinal
  exact ⟨.reported rfl rfl hsummaries, hfinal⟩

theorem carryOut_perm :
    Reordered plan.targets others (carryOut workspace plan).1
        (carryOut workspace { plan with targets := others }).1
      ∧ Same (carryOut workspace plan).2.2
        (carryOut workspace { plan with targets := others }).2.2 := by
  have hfit := Target.requireAllFit_perm hperm
  rw [carryOut, carryOut]
  dsimp only
  cases hfirst : Target.requireAllFit plan.targets with
  | error failure =>
      cases hsecond : Target.requireAllFit others with
      | error failure' => exact ⟨.refused failure failure', .refl workspace⟩
      | ok done =>
          rw [hfit.mpr hsecond] at hfirst
          cases hfirst
  | ok done =>
      rw [hfit.mp hfirst]
      dsimp only
      by_cases hroot : workspace.isDirectory plan.root = true
      · rw [if_pos hroot, if_pos hroot]
        cases Search.below workspace plan.root plan.extension true with
        | error failure => exact ⟨.refused failure failure, .refl workspace⟩
        | ok found => exact runFound_perm h hperm hstraight hindependent found
      · rw [if_neg hroot, if_neg hroot]
        refine ⟨.reported rfl rfl ?_, .refl workspace⟩
        have hzip : ∀ targets : List Target, targets.zip (targets.map skipped)
            = targets.map fun target => (target, skipped target) := by
          intro targets
          rw [List.zip, List.zipWith_map_right, List.zipWith_self]
        show (plan.targets.zip (plan.targets.map skipped)).Perm (others.zip (others.map skipped))
        rw [hzip, hzip]
        exact hperm.map _

end

/-- On a disk without links, targets commute whose paths are written without dots
    and whose places keep clear of each other: two of them can be served in either
    order, and a run comes to the same with all its targets in any other order.
    They may well share directories that are missing, and some of them may fail. -/
theorem independent_targets_commute (workspace : Workspace) (h : workspace.IsPlain) :
    (∀ (a b : Target) (assets : List Asset) (root iconType : String) (check : Bool),
      a.IsStraight → b.IsStraight → Target.Independent workspace a b →
        (serve (serve workspace b assets root iconType check).2 a assets root iconType check).1
            = (serve workspace a assets root iconType check).1
          ∧ (serve (serve workspace a assets root iconType check).2 b assets root iconType check).1
            = (serve workspace b assets root iconType check).1
          ∧ Same
            (serve (serve workspace a assets root iconType check).2 b assets root iconType check).2
            (serve (serve workspace b assets root iconType check).2 a assets root iconType check).2)
      ∧ ∀ (plan : GenerationPlan) (others : List Target), plan.targets.Perm others →
        (∀ target ∈ plan.targets, target.IsStraight) →
        plan.targets.Pairwise (Target.Independent workspace) →
          Reordered plan.targets others (carryOut workspace plan).1
              (carryOut workspace { plan with targets := others }).1
            ∧ Same (carryOut workspace plan).2.2
              (carryOut workspace { plan with targets := others }).2.2 :=
  ⟨fun _ _ assets root iconType check ha hb hindependent =>
    serve_comm assets root iconType check h ha hb hindependent,
    fun _ _ hperm hstraight hindependent => carryOut_perm h hperm hstraight hindependent⟩

/-- Two targets in a directory that is missing, of which the second one fails. -/
theorem independent_targets_commute_shared :
    ∃ (plan : GenerationPlan) (workspace : Workspace) (one two : Target),
      one = ⟨"one", none, none, "out/one.rs", none⟩
        ∧ two = ⟨"two", none, none, "out/two.rs", some "icons/a.svg/two.json"⟩
        ∧ plan = ⟨"icons", "svg", "Icon", none, [one, two], false⟩
        ∧ workspace = .ofDisk oneAsset []
        ∧ workspace.IsPlain ∧ one.IsStraight ∧ two.IsStraight
        ∧ Target.Independent workspace one two
        ∧ (carryOut workspace plan).1.toOption.map
            (fun summary => summary.targets.map (·.state)) = some [.written, .failed]
        ∧ Reordered [one, two] [two, one] (carryOut workspace plan).1
          (carryOut workspace { plan with targets := [two, one] }).1
        ∧ Same (carryOut workspace plan).2.2
          (carryOut workspace { plan with targets := [two, one] }).2.2
        ∧ ∀ assets : List Asset,
          Same (serve (serve workspace one assets "icons" "Icon" false).2 two assets "icons" "Icon"
            false).2
          (serve (serve workspace two assets "icons" "Icon" false).2 one assets "icons" "Icon"
            false).2 := by
  obtain ⟨one, hone⟩ : ∃ one : Target, one = ⟨"one", none, none, "out/one.rs", none⟩ := ⟨_, rfl⟩
  obtain ⟨two, htwo⟩ : ∃ two : Target,
    two = ⟨"two", none, none, "out/two.rs", some "icons/a.svg/two.json"⟩ := ⟨_, rfl⟩
  obtain ⟨plan, hplan⟩ : ∃ plan : GenerationPlan,
    plan = ⟨"icons", "svg", "Icon", none, [one, two], false⟩ := ⟨_, rfl⟩
  obtain ⟨workspace, hworkspace⟩ : ∃ workspace : Workspace, workspace = .ofDisk oneAsset [] :=
    ⟨_, rfl⟩
  have hplain : workspace.IsPlain := by
    rw [hworkspace]
    exact ⟨isPlain_oneAsset, rfl⟩
  have hstraight : one.IsStraight ∧ two.IsStraight := by
    rw [hone, htwo]
    decide +kernel
  have hclear : Target.Independent workspace one two := by
    rw [hone, htwo, hworkspace]
    decide +kernel
  have hstates : (carryOut workspace plan).1.toOption.map
      (fun summary => summary.targets.map (·.state)) = some [.written, .failed] := by
    rw [hplan, hone, htwo, hworkspace]
    decide +kernel
  have htargets : plan.targets = [one, two] := by rw [hplan]
  obtain ⟨hpair, hruns⟩ := independent_targets_commute workspace hplain
  obtain ⟨hreports, hdisk⟩ := hruns plan [two, one] (by rw [htargets]; exact .swap ..)
    (by rw [htargets]; simpa using hstraight) (by rw [htargets]; simpa using hclear)
  rw [htargets] at hreports
  exact ⟨plan, workspace, one, two, hone, htwo, hplan, hworkspace, hplain, hstraight.1, hstraight.2,
    hclear, hstates, hreports, hdisk, fun assets =>
      (hpair one two assets "icons" "Icon" false hstraight.1 hstraight.2 hclear).2.2⟩

end Generation

end IconCompiler
