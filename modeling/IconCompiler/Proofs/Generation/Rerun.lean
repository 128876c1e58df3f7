import IconCompiler.Proofs.Collection
import IconCompiler.Proofs.Generation.Companion
import IconCompiler.Proofs.Generation.Rehearsal
import IconCompiler.Proofs.Markup.Reading
import IconCompiler.Proofs.Provision
import IconCompiler.Proofs.Search

/-! # A run after a run

    What a run writes is no markup, so the next run does not take it for an
    asset; as long as no asset is overwritten either, both runs have the same
    files to provide (`dueFiles_of_provided`).  So after a run a check finds
    everything up to date exactly if files that share a destination have one
    content (`rerun_fresh_iff`). -/

namespace IconCompiler

open Disk

/-! ## Generated files are no markup -/

theorem SupportType.beginsWithText : Markup.BeginsWithText source := by
  refine ⟨'/', ?_, by decide, by decide, by decide⟩
  rw [source, lines, List.map_cons, String.join_cons, String.toList_append, String.toList_append]
  rfl

theorem Rendering.beginsWithText (container : Container) (iconType : String) (icons : List Icon) :
    Markup.BeginsWithText (sourceText container iconType icons) := by
  refine ⟨'/', ?_, by decide, by decide, by decide⟩
  rw [sourceText, String.toList_ofList]
  rfl

theorem Manifest.beginsWithText (manifest : Manifest) : Markup.BeginsWithText manifest.render := by
  refine ⟨'\x7b', ?_, by decide, by decide, by decide⟩
  rw [render, String.toList_ofList]
  rfl

theorem Asset.icon?_of_beginsWithText {asset : Asset} (h : Markup.BeginsWithText asset.content) :
    asset.icon? = none := by
  rw [icon?, toIcon]
  cases hcontent : Markup.readContent asset.content with
  | error fault => rfl
  | ok content => exact absurd h (Markup.not_beginsWithText_of_readContent hcontent)

namespace Generation

variable {workspace final : Workspace} {plan : GenerationPlan}

theorem beginsWithText_of_mem_targetFiles {assets : List Asset} {root iconType : String}
    {target : Target} {file : DueFile} (h : file ∈ targetFiles assets root iconType target) :
    Markup.BeginsWithText file.content := by
  rw [targetFiles] at h
  split at h
  · exact absurd h List.not_mem_nil
  · next text icons renamed hrendering =>
      obtain ⟨-, -, rfl⟩ := ofIcons_eq_source hrendering
      rcases List.mem_cons.mp h with rfl | hmanifest
      · exact Rendering.beginsWithText ..
      · obtain ⟨path, -, rfl⟩ := List.mem_map.mp hmanifest
        exact Manifest.beginsWithText _

theorem beginsWithText_of_mem_dueFiles {file : DueFile} (h : file ∈ dueFiles workspace plan) :
    Markup.BeginsWithText file.content := by
  rw [dueFiles] at h
  split at h
  · rcases List.mem_append.mp h with hsupport | htargets
    · obtain ⟨path, -, rfl⟩ := List.mem_map.mp hsupport
      exact SupportType.beginsWithText
    · obtain ⟨target, -, hfile⟩ := List.mem_flatMap.mp htargets
      exact beginsWithText_of_mem_targetFiles hfile
  · exact absurd h List.not_mem_nil

/-! ## The assets of the next run -/

variable (workspace plan) in
/-- The files of a run keep clear of each other's temporary files and of the
    assets that icons are made of. -/
structure Clear : Prop where
  files : ∀ file ∈ dueFiles workspace plan, ∀ other ∈ dueFiles workspace plan,
    workspace.destination file.path ≠ beside (workspace.destination other.path)
  assets : ∀ asset ∈ foundAssets workspace plan, asset.icon?.isSome →
    ∀ file ∈ dueFiles workspace plan,
      workspace.destination asset.path ≠ workspace.destination file.path
        ∧ workspace.destination asset.path ≠ beside (workspace.destination file.path)

/-- Where the files and the assets of a run stand tells whether it is clear. -/
theorem clear_of_places {places sources : List Location}
    (hplaces : (dueFiles workspace plan).map (fun file => workspace.destination file.path)
      = places)
    (hsources : (foundAssets workspace plan).map (fun asset => workspace.destination asset.path)
      = sources)
    (hfiles : ∀ place ∈ places, ∀ other ∈ places, place ≠ beside other)
    (hassets : ∀ source ∈ sources, ∀ place ∈ places, source ≠ place ∧ source ≠ beside place) :
    Clear workspace plan := by
  have hplace : ∀ file ∈ dueFiles workspace plan, workspace.destination file.path ∈ places :=
    fun file hfile => hplaces ▸ List.mem_map.mpr ⟨file, hfile, rfl⟩
  have hsource : ∀ asset ∈ foundAssets workspace plan,
      workspace.destination asset.path ∈ sources :=
    fun asset hasset => hsources ▸ List.mem_map.mpr ⟨asset, hasset, rfl⟩
  refine ⟨?_, ?_⟩
  · intro file hfile other hother
    exact hfiles _ (hplace file hfile) _ (hplace other hother)
  · intro asset hasset _ file hfile
    exact hassets _ (hsource asset hasset) _ (hplace file hfile)

theorem below_eq_searched (hroot : workspace.isDirectory plan.root = true) :
    Search.below workspace plan.root plan.extension true = .ok (searched workspace plan) :=
  Search.below_eq_ok_iff.mpr ⟨hroot, rfl⟩

theorem foundAssets_of_isDirectory (hroot : workspace.isDirectory plan.root = true) :
    foundAssets workspace plan = (searched workspace plan).assets :=
  if_pos hroot

section

variable (h : workspace.IsPlain) (hclear : Clear workspace plan)
  (hprovided : Provided workspace (dueFiles workspace plan) final)
include h hclear hprovided

/-- An asset that makes an icon is found after the run exactly if it was found
    before. -/
theorem mem_searched_of_provided (hroot : workspace.isDirectory plan.root = true)
    (hroot' : final.isDirectory plan.root = true) {asset : Asset} (hicon : asset.icon?.isSome) :
    asset ∈ (searched workspace plan).assets ↔ asset ∈ (searched final plan).assets := by
  obtain ⟨hplain, hdirectory, hdirectories⟩ := hprovided.isPlain h
  have hcongr := Workspace.destination_congr hdirectory asset.path
  have hbefore := below_eq_searched hroot
  have hafter := below_eq_searched hroot'
  constructor
  · intro hmem
    obtain ⟨names, hnames, hjoin, hextension, hread⟩ := (Search.mem_assets_iff h hbefore).mp hmem
    obtain ⟨hreaches, bytes, hentry, htext⟩ := (Workspace.readText_eq_ok_iff h).mp hread
    refine (Search.mem_assets_iff hplain hafter).mpr ⟨names, hnames, hjoin, hextension,
      (Workspace.readText_eq_ok_iff hplain).mpr
        ⟨hreaches.mono hdirectory hdirectories, bytes, ?_, htext⟩⟩
    rw [hcongr]
    rw [← foundAssets_of_isDirectory hroot] at hmem
    exact hprovided.kept h (hclear.assets asset hmem hicon) hentry
  · intro hmem
    obtain ⟨names, hnames, hjoin, hextension, hread⟩ :=
      (Search.mem_assets_iff hplain hafter).mp hmem
    obtain ⟨hreaches, bytes, hentry, htext⟩ := (Workspace.readText_eq_ok_iff hplain).mp hread
    rw [hcongr] at hentry
    rcases hprovided.found h hentry with hfile | ⟨file, hfile, rfl⟩
    · have hne := Search.root_ne_empty h hbefore
      have hstart := ((Workspace.isDirectory_iff h).mp hroot).1
      refine (Search.mem_assets_iff h hbefore).mpr ⟨names, hnames, hjoin, hextension,
        (Workspace.readText_eq_ok_iff h).mpr ⟨?_, bytes, hfile, htext⟩⟩
      have htaken := hreaches.taken
      rw [hjoin] at hfile htaken ⊢
      rw [Workspace.destination_joinAll workspace hne hnames] at hfile
      exact h.reaches_joinAll hne hstart hnames htaken hfile
    -- what the run has written makes no icon
    · rw [Text.fromUTF8?_toUTF8] at htext
      have hbegins := beginsWithText_of_mem_dueFiles hfile
      rw [Option.some.inj htext] at hbegins
      rw [Asset.icon?_of_beginsWithText hbegins] at hicon
      exact absurd hicon (by simp)

/-- The next run has the same files to provide. -/
theorem dueFiles_of_provided : dueFiles final plan = dueFiles workspace plan := by
  by_cases hroot : workspace.isDirectory plan.root = true
  · obtain ⟨hplain, hdirectory, hdirectories⟩ := hprovided.isPlain h
    have hroot' : final.isDirectory plan.root = true := by
      obtain ⟨hreaches, hentry⟩ := (Workspace.isDirectory_iff h).mp hroot
      refine (Workspace.isDirectory_iff hplain).mpr
        ⟨hreaches.mono hdirectory hdirectories, ?_⟩
      rw [Workspace.destination_congr hdirectory]
      exact hdirectories _ hentry
    have hbefore := below_eq_searched hroot
    have hafter := below_eq_searched hroot'
    have hassets := Search.filter_assets_congr hplain hafter h hbefore (·.icon?.isSome)
      fun asset hicon => (mem_searched_of_provided h hclear hprovided hroot hroot' hicon).symm
    have hicons (target : Target) : iconsOf (foundAssets final plan) plan.root target
        = iconsOf (foundAssets workspace plan) plan.root target := by
      rw [foundAssets_of_isDirectory hroot, foundAssets_of_isDirectory hroot']
      exact Collection.icons_congr (Search.paths_nodup hplain hafter) (Search.paths_nodup h hbefore)
        hassets
    rw [dueFiles, dueFiles, if_pos hroot, if_pos hroot']
    refine congrArg (supportFiles plan ++ ·) (List.flatMap_congr ?_)
    intro target _
    rw [targetFiles, targetFiles, hicons]
  -- without a root nothing was written
  · rw [dueFiles, if_neg hroot] at hprovided
    cases hprovided
    rfl

end

/-! ## The next check -/

/-- On a disk without links, a check that follows a run without failures finds
    everything unchanged exactly if files with one destination have one digest,
    provided that the files of the run keep clear of temporary files and of the
    assets in use. -/
theorem rerun_fresh_iff (h : workspace.IsPlain)
    (hfit : Target.requireAllFit plan.targets = .ok ()) (hclear : Clear workspace plan) :
    ∃ real steps final checked progress,
      carryOut workspace { plan with check := false } = (.ok real, steps, final)
        ∧ carryOut final { plan with check := true } = (.ok checked, progress, final)
        ∧ (real.anyFailed = false →
          (checked.anyStale = false
            ↔ ∀ file ∈ dueFiles workspace plan, ∀ other ∈ dueFiles workspace plan,
              workspace.destination file.path = workspace.destination other.path →
              file.digest = other.digest)
          ∧ (checked.anyStale = false →
            (checked.support = none ∨ checked.support = some .unchanged)
              ∧ ∀ target ∈ checked.targets,
                target.state = .skipped ∨ target.state = .unchanged)) := by
  obtain ⟨real, steps, final, hreal, hrun⟩ :=
    carryOut_eq workspace { plan with check := false } hfit
  obtain ⟨checked, progress, after, hchecked, hcheck⟩ :=
    carryOut_eq final { plan with check := true } hfit
  obtain ⟨rfl, hsupport, hstates, hstale⟩ := hcheck.of_check rfl
  refine ⟨real, steps, _, checked, progress, hreal, hchecked, ?_⟩
  intro hsafe
  obtain ⟨hprovided, -⟩ := hrun.provided rfl hsafe
  have hdue : dueFiles after plan = dueFiles workspace plan :=
    dueFiles_of_provided h hclear hprovided
  have hfresh : checked.anyStale = false ↔ ∀ file ∈ dueFiles workspace plan, file.Held after := by
    rw [← hdue, ← Bool.not_eq_true, hstale]
    simp only [not_exists, not_and, not_not]
    rfl
  refine ⟨hfresh.trans (Provided.held_iff hprovided h hclear.files), ?_⟩
  intro hnone
  rw [← Bool.not_eq_true, GenerationSummary.anyStale_iff, not_or] at hnone
  obtain ⟨hsupportFresh, htargetsFresh⟩ := hnone
  refine ⟨?_, ?_⟩
  · rcases hsupport with hstate | hstate | hstate
    · exact .inl hstate
    · exact .inr hstate
    · exact absurd hstate hsupportFresh
  · intro target htarget
    rcases hstates target htarget with hstate | hstate | hstate
    · exact .inl hstate
    · exact .inr hstate
    · exact absurd ⟨target, htarget, hstate⟩ htargetsFresh

/-- A source and a manifest that were both missing. -/
theorem rerun_fresh_iff_apart :
    ∃ (plan : GenerationPlan) (workspace : Workspace),
      plan = ⟨"icons", "svg", "Icon", none,
          [⟨"one", none, none, "one.rs", some "one.json"⟩], false⟩
        ∧ workspace = .ofDisk oneAsset []
        ∧ workspace.IsPlain ∧ Target.requireAllFit plan.targets = .ok () ∧ Clear workspace plan
        ∧ ∃ real steps final checked progress,
          carryOut workspace { plan with check := false } = (.ok real, steps, final)
            ∧ carryOut final { plan with check := true } = (.ok checked, progress, final)
            ∧ real.anyFailed = false ∧ checked.anyStale = false := by
  obtain ⟨plan, hplan⟩ : ∃ plan : GenerationPlan, plan = ⟨"icons", "svg", "Icon", none,
    [⟨"one", none, none, "one.rs", some "one.json"⟩], false⟩ := ⟨_, rfl⟩
  obtain ⟨workspace, hworkspace⟩ : ∃ workspace : Workspace, workspace = .ofDisk oneAsset [] :=
    ⟨_, rfl⟩
  have hplain : workspace.IsPlain := by
    rw [hworkspace]
    exact ⟨isPlain_oneAsset, rfl⟩
  have hfit : Target.requireAllFit plan.targets = .ok () := by
    rw [hplan]
    decide
  have hplaces : (dueFiles workspace plan).map (fun file => workspace.destination file.path)
      = [["one.rs"], ["one.json"]] := by
    rw [hplan, hworkspace]
    decide +kernel
  have hassets : (foundAssets workspace plan).map (fun asset => workspace.destination asset.path)
      = [["icons", "a.svg"]] := by
    rw [hplan, hworkspace]
    decide +kernel
  have hclear : Clear workspace plan :=
    clear_of_places hplaces hassets (by decide) (by decide)
  have hsafe : (carryOut workspace { plan with check := false }).1.toOption.map (·.anyFailed)
      = some false := by
    rw [hplan, hworkspace]
    decide +kernel
  obtain ⟨real, steps, final, checked, progress, hreal, hchecked, hiff⟩ :=
    rerun_fresh_iff hplain hfit hclear
  have hfailed : real.anyFailed = false := by
    rw [hreal] at hsafe
    exact Option.some.inj hsafe
  refine ⟨plan, workspace, hplan, hworkspace, hplain, hfit, hclear, real, steps, final, checked,
    progress, hreal, hchecked, hfailed, (hiff hfailed).1.mpr ?_⟩
  -- the two files go to different places
  have hdistinct : ((dueFiles workspace plan).map
      (fun file => workspace.destination file.path)).Nodup := by
    rw [hplaces]
    decide
  intro file hfile other hother hsame
  rw [List.inj_on_of_nodup_map hdistinct hfile hother hsame]

/-- Two targets with one output: the check wants to write the first one again. -/
theorem stale_of_shared_output :
    ∃ (plan : GenerationPlan) (workspace : Workspace),
      plan = ⟨"icons", "svg", "Icon", none,
          [⟨"one", none, none, "out.rs", none⟩, ⟨"two", none, none, "out.rs", none⟩], false⟩
        ∧ workspace = .ofDisk oneAsset []
        ∧ Target.requireAllFit plan.targets = .ok ()
        ∧ ∃ real steps final checked progress after,
          carryOut workspace { plan with check := false } = (.ok real, steps, final)
            ∧ real.anyFailed = false
            ∧ carryOut final { plan with check := true } = (.ok checked, progress, after)
            ∧ checked.anyStale = true := by
  obtain ⟨plan, hplan⟩ : ∃ plan : GenerationPlan, plan = ⟨"icons", "svg", "Icon", none,
    [⟨"one", none, none, "out.rs", none⟩, ⟨"two", none, none, "out.rs", none⟩], false⟩ := ⟨_, rfl⟩
  obtain ⟨workspace, hworkspace⟩ : ∃ workspace : Workspace, workspace = .ofDisk oneAsset [] :=
    ⟨_, rfl⟩
  have hfit : Target.requireAllFit plan.targets = .ok () := by
    rw [hplan]
    decide
  have hruns : ((carryOut workspace { plan with check := false }).1.toOption.map (·.anyFailed)
        = some false)
      ∧ ((carryOut (carryOut workspace { plan with check := false }).2.2
          { plan with check := true }).1.toOption.map (·.anyStale) = some true) := by
    rw [hplan, hworkspace]
    decide +kernel
  obtain ⟨real, steps, final, hreal, -⟩ :=
    carryOut_eq workspace { plan with check := false } hfit
  obtain ⟨checked, progress, after, hchecked, -⟩ :=
    carryOut_eq final { plan with check := true } hfit
  rw [hreal] at hruns
  obtain ⟨hsafe, hstale⟩ := hruns
  dsimp only at hstale
  rw [hchecked] at hstale
  exact ⟨plan, workspace, hplan, hworkspace, hfit, real, steps, final, checked, progress, after,
    hreal, Option.some.inj hsafe, hchecked, Option.some.inj hstale⟩

end Generation

end IconCompiler
