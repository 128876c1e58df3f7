import IconCompiler.Proofs.Generation.Root

/-! # No asset affects another

    A collection is told by the first assets with their paths: those that the
    pattern lets pass become icons or are rejected, each on its own, and the
    others are counted.  So an asset that makes no icon can be put anywhere
    among the others, under a path of its own, without a change in what is made
    of them (`collect_eq`) and in what a target leaves on the disk
    (`serve_insert`). -/

namespace IconCompiler

namespace Asset

/-- An asset with a path of its own is the first one with its path, and leaves
    the others what they are. -/
theorem exists_firsts_insert {before after : List Asset} {asset : Asset}
    (hnew : asset.path ∉ (before ++ after).map (·.path)) :
    ∃ front behind, firsts (before ++ after) = front ++ behind
      ∧ firsts (before ++ asset :: after) = front ++ asset :: behind := by
  induction before with
  | nil =>
      refine ⟨[], firsts after, rfl, ?_⟩
      show asset :: (firsts after).filter (·.path ≠ asset.path) = asset :: firsts after
      refine congrArg (asset :: ·) (List.filter_eq_self.mpr ?_)
      intro other hother
      refine decide_eq_true ?_
      intro hsame
      exact hnew (List.mem_map.mpr ⟨other, mem_of_mem_firsts hother, hsame⟩)
  | cons head before ih =>
      rw [List.cons_append, List.map_cons, List.mem_cons, not_or] at hnew
      obtain ⟨front, behind, hwithout, hwith⟩ := ih hnew.2
      have hkept : (asset :: behind).filter (·.path ≠ head.path)
          = asset :: behind.filter (·.path ≠ head.path) :=
        List.filter_cons_of_pos (decide_eq_true hnew.1)
      refine ⟨head :: front.filter (·.path ≠ head.path), behind.filter (·.path ≠ head.path), ?_, ?_⟩
      · rw [List.cons_append, firsts, hwithout, List.filter_append, List.cons_append]
      · rw [List.cons_append, firsts, hwith, List.filter_append, hkept, List.cons_append]

end Asset

namespace Collection

open Asset

variable {pass : String → Bool}

/-- Every asset is made into an icon, rejected, filtered out or repeated. -/
theorem Accounts.sum {new : List Asset} {total : Nat} {collection : Collection}
    (h : Accounts pass new total collection) :
    collection.found.length + collection.rejections.length + collection.filteredOut
      + collection.duplicates = total := by
  have hmade : collection.found.length + collection.rejections.length
      = (new.filter (pass ·.path)).length := by
    rw [h.found, h.rejections, ← List.length_map (fun found : FoundIcon => found.icon),
      icons_found?]
    exact length_chosen _
  have hsplit : new.length = (new.filter (pass ·.path)).length
      + (new.filter fun asset => !pass asset.path).length := List.length_eq_length_filter_add _
  have htotal := h.duplicates
  rw [hmade, h.filteredOut]
  omega

/-- Under a path of its own, an asset that makes no icon changes none. -/
theorem found_insert {before after : List Asset} {asset : Asset}
    (hnew : asset.path ∉ (before ++ after).map (·.path))
    (hnone : asset.icon? = none ∨ pass asset.path = false) :
    (ofAssetsAfter pass [] (before ++ asset :: after)).found
      = (ofAssetsAfter pass [] (before ++ after)).found := by
  obtain ⟨front, behind, hwithout, hwith⟩ := exists_firsts_insert hnew
  have hdropped : (if pass asset.path = true then found? asset else none) = none := by
    rcases hnone with hicon | hpass
    · rw [found?, hicon]
      exact ite_self none
    · rw [hpass]
      rfl
  rw [(accounts_ofAssetsAfter []).found, (accounts_ofAssetsAfter []).found, newAfter_nil,
    newAfter_nil, hwithout, hwith, List.filterMap_filter, List.filterMap_filter,
    List.filterMap_append, List.filterMap_append]
  exact congrArg (_ ++ ·) (List.filterMap_cons_none hdropped)

end Collection

namespace Generation

end Generation

namespace Collection

open Asset Generation

end Collection

namespace Generation

/-- An asset that makes no icon of a target, under a path of its own, changes
    nothing of what serving the target leaves on the disk. -/
theorem serve_insert (workspace : Workspace) (target : Target) {before after : List Asset}
    {asset : Asset} (root iconType : String) (check : Bool)
    (hnew : asset.path ∉ (before ++ after).map (·.path))
    (hnone : asset.icon? = none
      ∨ selected (target.pattern.map fun pattern => .ofPattern pattern root) asset.path = false) :
    (serve workspace target (before ++ asset :: after) root iconType check).2
      = (serve workspace target (before ++ after) root iconType check).2 := by
  have hicons : iconsOf (before ++ asset :: after) root target
      = iconsOf (before ++ after) root target :=
    congrArg (List.map fun found : FoundIcon => found.icon) (Collection.found_insert hnew hnone)
  obtain ⟨summary, summary', next, hwith, hwithout, -⟩ :=
    serve_congr hicons workspace iconType check
  rw [hwith, hwithout]

end Generation

end IconCompiler
