import IconCompiler.Proofs.Generation.Files
import IconCompiler.Proofs.Manifest
import IconCompiler.Proofs.Source.Decoding

/-! # Names of constants in sources and manifests

    The source of a target and its manifest are made of the same icons, in the
    same order.  The source declares a constant under a name that is made usable
    first; the manifest lists the identifier as it is.  So the manifest names
    the constants exactly if every identifier can be used as it is
    (`manifest_names_constants_iff`). -/

namespace IconCompiler

namespace Generation

variable {assets : List Asset} {root iconType path : String} {target : Target}
  {workspace : Workspace}

/-- A target that was written or found unchanged has a source that is made of its
    icons, and this and the manifest were brought up to date. -/
theorem writeTarget_of_serve
    (hstate : (serve workspace target assets root iconType false).1.state = .written
      ∨ (serve workspace target assets root iconType false).1.state = .unchanged) :
    ∃ text renamed state,
      Rendering.ofIcons target.container iconType (iconsOf assets root target)
          = .source text (iconsOf assets root target) renamed
        ∧ text = Rendering.sourceText target.container iconType (iconsOf assets root target)
        ∧ writeTarget workspace false target text (iconsOf assets root target)
          = (.ok state, (serve workspace target assets root iconType false).2) := by
  obtain ⟨state, failures, next, hserve, hserved⟩ :=
    serve_eq assets root iconType false workspace target
  rw [hserve] at hstate ⊢
  cases hserved with
  | skipped => rcases hstate with h | h <;> exact absurd h (by simp [summaryOf])
  | failed => rcases hstate with h | h <;> exact absurd h (by simp [summaryOf])
  | @settled text icons renamed own _ hrendering hwrite =>
      obtain ⟨-, rfl, htext⟩ := ofIcons_eq_source hrendering
      exact ⟨text, renamed, own, hrendering, htext, hwrite⟩

/-- A target with a manifest is served by bringing its source up to date and then
    its manifest. -/
theorem updates_of_serve (hmanifest : target.manifest = some path)
    (hstate : (serve workspace target assets root iconType false).1.state = .written
      ∨ (serve workspace target assets root iconType false).1.state = .unchanged) :
    ∃ text own other middle,
      text = Rendering.sourceText target.container iconType (iconsOf assets root target)
        ∧ GeneratedFile.update workspace false target.output text = (.ok own, middle)
        ∧ GeneratedFile.update middle false path
            (manifestOf target text (iconsOf assets root target)).render
          = (.ok other, (serve workspace target assets root iconType false).2) := by
  obtain ⟨text, -, state, -, htext, hwrite⟩ := writeTarget_of_serve hstate
  obtain ⟨own, middle, hsource, hrest⟩ := writeTarget_eq_ok hwrite
  rcases writeManifest_eq_ok hrest with ⟨hnone, -⟩ | ⟨found, other, hsome, -, hupdate⟩
  · exact absurd (hnone.symm.trans hmanifest) (by simp)
  · obtain rfl := Option.some.inj (hsome.symm.trans hmanifest)
    exact ⟨text, own, other, middle, htext, hsource, hupdate⟩

/-- A target without modules around it, whose names are words. -/
theorem words_of_plain {target : Target}
    (h : target = ⟨"icons", none, none, "icons.rs", some "icons.json"⟩) :
    ItemName.IsWord target.container.name
      ∧ (∀ segment ∈ target.container.segments, ItemName.IsWord segment)
      ∧ Source.IsPath "Icon" ∧ target.output = "icons.rs"
      ∧ target.manifest = some "icons.json" := by
  rw [h]
  refine ⟨ItemName.isWord_of_isValid (by decide), ?_,
    Source.isPath_of_isWord (ItemName.isWord_of_isValid (by decide)), rfl, rfl⟩
  exact fun segment hsegment => absurd hsegment List.not_mem_nil

/-- Of a target with a manifest, the source has one constant for each icon of the
    manifest, in the same order and under the name that the identifier is made
    into.  The identifiers are the names of the constants exactly if each of
    them can be used as it is. -/
theorem manifest_names_constants_iff (hname : ItemName.IsWord target.container.name)
    (hsegments : ∀ segment ∈ target.container.segments, ItemName.IsWord segment)
    (htype : Source.IsPath iconType) (hmanifest : target.manifest = some path)
    (hstate : (serve workspace target assets root iconType false).1.state = .written
      ∨ (serve workspace target assets root iconType false).1.state = .unchanged) :
    ∃ text document own other middle source manifest,
      GeneratedFile.update workspace false target.output text = (.ok own, middle)
        ∧ GeneratedFile.update middle false path document
          = (.ok other, (serve workspace target assets root iconType false).2)
        ∧ Source.decode? text = some source
        ∧ Manifest.parse document = .ok manifest
        ∧ source.declarations.length = manifest.icons.length
        ∧ source.declarations.map (·.name) = manifest.icons.map (·.name)
        ∧ source.declarations.map (·.constant)
          = manifest.icons.map (fun icon => ItemName.constantName icon.identifier)
        ∧ (source.declarations.map (·.constant) = manifest.icons.map (·.identifier)
          ↔ ∀ icon ∈ iconsOf assets root target, ItemName.isValid icon.identifier = true) := by
  obtain ⟨text, own, other, middle, rfl, hsource, hupdate⟩ := updates_of_serve hmanifest hstate
  refine ⟨_, _, own, other, middle, _, _, hsource, hupdate,
    Source.decode?_sourceText hname hsegments htype _, Manifest.parse_render_make .., ?_⟩
  simp only [Source.sourceFileOf, Manifest.make, List.length_map, List.map_map]
  refine ⟨trivial, rfl, rfl, ?_⟩
  rw [List.map_inj_left]
  exact forall_congr' fun icon => forall_congr' fun _ =>
    ItemName.constantName_eq_self_iff icon.identifier

/-- Two assets whose identifiers can both be used. -/
theorem manifest_names_constants_iff_plain :
    ∃ target : Target, target = ⟨"icons", none, none, "icons.rs", some "icons.json"⟩
      ∧ ItemName.IsWord target.container.name
      ∧ (∀ segment ∈ target.container.segments, ItemName.IsWord segment)
      ∧ Source.IsPath "Icon"
      ∧ ∃ text document own other middle final source manifest,
        GeneratedFile.update (.ofDisk .empty []) false target.output text = (.ok own, middle)
          ∧ GeneratedFile.update middle false "icons.json" document = (.ok other, final)
          ∧ Source.decode? text = some source
          ∧ Manifest.parse document = .ok manifest
          ∧ source.declarations.map (·.constant) = manifest.icons.map (·.identifier) := by
  obtain ⟨target, htarget⟩ : ∃ target : Target,
    target = ⟨"icons", none, none, "icons.rs", some "icons.json"⟩ := ⟨_, rfl⟩
  obtain ⟨hname, hsegments, htype, -, hmanifest⟩ := words_of_plain htarget
  have hstate : (serve (.ofDisk .empty []) target [⟨"a-1.svg", "<svg/>"⟩, ⟨"b.svg", "<svg/>"⟩] "."
      "Icon" false).1.state = .written := by
    rw [htarget]
    decide +kernel
  have hvalid : ((iconsOf [⟨"a-1.svg", "<svg/>"⟩, ⟨"b.svg", "<svg/>"⟩] "." target).all
      fun icon => ItemName.isValid icon.identifier) = true := by
    rw [htarget]
    decide +kernel
  obtain ⟨text, document, own, other, middle, source, manifest, hsource, hupdate, hdecode,
    hparse, -, -, -, hiff⟩ :=
      manifest_names_constants_iff hname hsegments htype hmanifest (.inl hstate)
  exact ⟨target, htarget, hname, hsegments, htype, text, document, own, other, middle, _, source,
    manifest, hsource, hupdate, hdecode, hparse, hiff.mpr (List.all_eq_true.mp hvalid)⟩

/-- The constant for an asset whose name begins with a digit is not named as the
    manifest says. -/
theorem constant_of_leading_digit :
    ∃ target : Target, target = ⟨"icons", none, none, "icons.rs", some "icons.json"⟩
      ∧ (serve (.ofDisk .empty []) target [⟨"2d.svg", "<svg/>"⟩] "." "Icon" false).1.state
        = .written
      ∧ ∃ text document own other middle source manifest,
        GeneratedFile.update (.ofDisk .empty []) false "icons.rs" text = (.ok own, middle)
          ∧ GeneratedFile.update middle false "icons.json" document
            = (.ok other,
              (serve (.ofDisk .empty []) target [⟨"2d.svg", "<svg/>"⟩] "." "Icon" false).2)
          ∧ Source.decode? text = some source
          ∧ Manifest.parse document = .ok manifest
          ∧ source.declarations.map (·.constant) = ["_2d"]
          ∧ manifest.icons.map (·.identifier) = ["2d"] := by
  obtain ⟨target, htarget⟩ : ∃ target : Target,
    target = ⟨"icons", none, none, "icons.rs", some "icons.json"⟩ := ⟨_, rfl⟩
  obtain ⟨hname, hsegments, htype, houtput, hmanifest⟩ := words_of_plain htarget
  have hstate : (serve (.ofDisk .empty []) target [⟨"2d.svg", "<svg/>"⟩] "." "Icon" false).1.state
      = .written := by
    rw [htarget]
    decide +kernel
  have hicons : iconsOf [⟨"2d.svg", "<svg/>"⟩] "." target = [⟨"2d", "2d", .empty, ""⟩] := by
    rw [htarget]
    decide +kernel
  obtain ⟨text, own, other, middle, rfl, hsource, hupdate⟩ :=
    updates_of_serve hmanifest (.inl hstate)
  rw [houtput] at hsource
  refine ⟨target, htarget, hstate, _, _, own, other, middle, _, _, hsource, hupdate,
    Source.decode?_sourceText hname hsegments htype _, Manifest.parse_render_make .., ?_, ?_⟩
  · rw [hicons]
    show [ItemName.constantName "2d"] = ["_2d"]
    decide
  · rw [hicons]
    rfl

end Generation

end IconCompiler
