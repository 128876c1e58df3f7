import IconCompiler.Collection
import Mathlib.Data.List.Basic

/-! # The icons of a collection

    Of the assets with one path the first counts (`Asset.firsts`).  The icons of a
    collection and its rejections are those of the first assets that are selected,
    taken one by one and in order (`ofAssets_eq`); each of these assets is in one
    of the two lists (`length_chosen`).  So an asset that makes no icon does not
    touch the icons of the others (`icons_congr`). -/

namespace IconCompiler

namespace Asset

/-- The icon of an asset, if it can be made into one. -/
def icon? (asset : Asset) : Option Icon :=
  asset.toIcon.toOption

/-- Why an asset cannot be made into an icon, if it cannot. -/
def rejection? (asset : Asset) : Option Rejection :=
  match Markup.readContent asset.content with
  | .error error => some ⟨asset.path, error⟩
  | .ok _ => none

theorem toIcon_cases (asset : Asset) :
    (∃ icon, asset.toIcon = .ok icon ∧ asset.icon? = some icon ∧ asset.rejection? = none)
      ∨ ∃ rejection, asset.toIcon = .error rejection ∧ asset.icon? = none
        ∧ asset.rejection? = some rejection ∧ rejection.path = asset.path := by
  rw [icon?, rejection?, toIcon]
  cases Markup.readContent asset.content with
  | error fault => exact .inr ⟨⟨asset.path, fault⟩, rfl, rfl, rfl, rfl⟩
  | ok markup => exact .inl ⟨_, rfl, rfl, rfl⟩

/-- The assets without those that have the path of an earlier one. -/
def firsts : List Asset → List Asset
  | [] => []
  | asset :: rest => asset :: (firsts rest).filter (·.path ≠ asset.path)

theorem firsts_of_nodup {assets : List Asset} (h : (assets.map (·.path)).Nodup) :
    firsts assets = assets := by
  induction assets with
  | nil => rfl
  | cons asset rest ih =>
      obtain ⟨hfirst, hrest⟩ := List.nodup_cons.mp h
      rw [firsts, ih hrest]
      refine congrArg (asset :: ·) (List.filter_eq_self.mpr ?_)
      intro other hother
      refine decide_eq_true ?_
      intro hsame
      exact hfirst (List.mem_map.mpr ⟨other, hother, hsame⟩)

theorem mem_of_mem_firsts {assets : List Asset} {asset : Asset} (h : asset ∈ firsts assets) :
    asset ∈ assets := by
  induction assets with
  | nil => exact h
  | cons head rest ih =>
      rcases List.mem_cons.mp h with rfl | hrest
      · exact List.mem_cons_self
      · exact List.mem_cons_of_mem head (ih (List.mem_of_mem_filter hrest))

end Asset

namespace Collection

open Asset

variable {pass : String → Bool} {selector : Option Selector} {assets : List Asset}

/-! ## The assets that are new -/

/-- The first assets with their paths, as far as these are not `seen`. -/
def newAfter (seen : List String) (assets : List Asset) : List Asset :=
  (firsts assets).filter (·.path ∉ seen)

theorem newAfter_nil (assets : List Asset) : newAfter [] assets = firsts assets := by
  simp [newAfter]

theorem newAfter_cons_of_mem {seen : List String} {asset : Asset} (h : asset.path ∈ seen)
    (rest : List Asset) : newAfter seen (asset :: rest) = newAfter seen rest := by
  -- what is not seen has another path than an asset that is
  have hsame : ((firsts rest).filter (·.path ≠ asset.path)).filter (·.path ∉ seen)
      = (firsts rest).filter (·.path ∉ seen) := by
    rw [List.filter_filter]
    refine List.filter_congr ?_
    intro other _
    by_cases hother : other.path ∈ seen
    · simp [hother]
    · have hne : other.path ≠ asset.path := by
        intro heq
        exact hother (heq ▸ h)
      simp [hother, hne]
  rw [newAfter, firsts, List.filter_cons_of_neg (by simpa using h), hsame, newAfter]

theorem newAfter_cons_of_not_mem {seen : List String} {asset : Asset} (h : asset.path ∉ seen)
    (rest : List Asset) :
    newAfter seen (asset :: rest) = asset :: newAfter (asset.path :: seen) rest := by
  have hsame : ((firsts rest).filter (·.path ≠ asset.path)).filter (·.path ∉ seen)
      = (firsts rest).filter (·.path ∉ asset.path :: seen) := by
    rw [List.filter_filter]
    refine List.filter_congr ?_
    intro other _
    simp [Bool.and_comm]
  rw [newAfter, firsts, List.filter_cons_of_pos (by simpa using h), hsame, newAfter]

/-! ## What becomes of them -/

/-- The icon of an asset, with the path of the asset. -/
def found? (asset : Asset) : Option FoundIcon :=
  asset.icon?.map (⟨asset.path, ·⟩)

theorem icons_found? (assets : List Asset) :
    (assets.filterMap found?).map (·.icon) = assets.filterMap Asset.icon? := by
  rw [List.map_filterMap]
  refine List.filterMap_congr ?_
  intro asset _
  rw [found?]
  cases asset.icon? <;> rfl

/-- What a collection holds of `total` assets, those in `new` being the ones that
    repeat no path. -/
structure Accounts (pass : String → Bool) (new : List Asset) (total : Nat)
    (collection : Collection) : Prop where
  found : collection.found = (new.filter (pass ·.path)).filterMap found?
  rejections : collection.rejections = (new.filter (pass ·.path)).filterMap Asset.rejection?
  filteredOut : collection.filteredOut = (new.filter fun asset => !pass asset.path).length
  duplicates : collection.duplicates + new.length = total

namespace Accounts

variable {new : List Asset} {total : Nat} {collection : Collection}

theorem addRepeated (h : Accounts pass new total collection) :
    Accounts pass new (total + 1)
      { collection with duplicates := collection.duplicates + 1 } where
  found := h.found
  rejections := h.rejections
  filteredOut := h.filteredOut
  duplicates := by
    have htotal := h.duplicates
    dsimp only
    omega

theorem addFiltered (h : Accounts pass new total collection) {asset : Asset}
    (hpass : ¬ pass asset.path = true) :
    Accounts pass (asset :: new) (total + 1)
      { collection with filteredOut := collection.filteredOut + 1 } := by
  have hchosen : (asset :: new).filter (pass ·.path) = new.filter (pass ·.path) :=
    List.filter_cons_of_neg hpass
  refine ⟨?_, ?_, ?_, ?_⟩
  · rw [hchosen, ← h.found]
  · rw [hchosen, ← h.rejections]
  · rw [List.filter_cons_of_pos (by simp [hpass]), List.length_cons, ← h.filteredOut]
  · rw [List.length_cons, ← h.duplicates]
    rfl

/-- What is made of an asset goes to the icons or to the rejections. -/
theorem addOutcome (h : Accounts pass new total collection) {asset : Asset}
    (hpass : pass asset.path = true) :
    Accounts pass (asset :: new) (total + 1)
      (consOutcome asset.path asset.toIcon collection) := by
  have hchosen : (asset :: new).filter (pass ·.path) = asset :: new.filter (pass ·.path) :=
    List.filter_cons_of_pos hpass
  have hfiltered : (asset :: new).filter (fun asset => !pass asset.path)
      = new.filter fun asset => !pass asset.path := List.filter_cons_of_neg (by simp [hpass])
  have htotal : collection.duplicates + (asset :: new).length = total + 1 := by
    rw [List.length_cons, ← h.duplicates]
    rfl
  rcases asset.toIcon_cases with ⟨icon, htoIcon, hicon, hnone⟩ | ⟨fault, htoIcon, hnone, hfault, -⟩
  · have hfound : found? asset = some ⟨asset.path, icon⟩ := by
      rw [found?, hicon]
      rfl
    rw [htoIcon]
    refine ⟨?_, ?_, ?_, htotal⟩
    · rw [hchosen, List.filterMap_cons_some hfound, ← h.found]
      rfl
    · rw [hchosen, List.filterMap_cons_none hnone, ← h.rejections]
      rfl
    · rw [hfiltered, ← h.filteredOut]
      rfl
  · have hfound : found? asset = none := by
      rw [found?, hnone]
      rfl
    rw [htoIcon]
    refine ⟨?_, ?_, ?_, htotal⟩
    · rw [hchosen, List.filterMap_cons_none hfound, ← h.found]
      rfl
    · rw [hchosen, List.filterMap_cons_some hfault, ← h.rejections]
      rfl
    · rw [hfiltered, ← h.filteredOut]
      rfl

end Accounts

theorem accounts_ofAssetsAfter (seen : List String) :
    Accounts pass (newAfter seen assets) assets.length (ofAssetsAfter pass seen assets) := by
  induction assets generalizing seen with
  | nil => exact ⟨rfl, rfl, rfl, rfl⟩
  | cons asset rest ih =>
      rw [ofAssetsAfter, List.length_cons]
      by_cases hseen : asset.path ∈ seen
      · rw [if_pos hseen, newAfter_cons_of_mem hseen]
        exact (ih seen).addRepeated
      · rw [if_neg hseen, newAfter_cons_of_not_mem hseen]
        dsimp only
        split
        · next hpass => exact (ih (asset.path :: seen)).addOutcome hpass
        · next hpass => exact (ih (asset.path :: seen)).addFiltered hpass

theorem accounts_ofAssets :
    Accounts (selected selector) (firsts assets) assets.length (ofAssets selector assets) := by
  rw [← newAfter_nil]
  exact accounts_ofAssetsAfter []

/-- A collection holds what is made of the first assets that are selected. -/
theorem ofAssets_eq :
    (ofAssets selector assets).icons
        = ((firsts assets).filter fun asset => selected selector asset.path).filterMap Asset.icon?
      ∧ (ofAssets selector assets).rejections
        = ((firsts assets).filter fun asset => selected selector asset.path).filterMap
          Asset.rejection? := by
  refine ⟨?_, accounts_ofAssets.rejections⟩
  rw [icons, accounts_ofAssets.found, icons_found?]

/-- Each asset makes an icon or is rejected. -/
theorem length_chosen (assets : List Asset) :
    (assets.filterMap Asset.icon?).length + (assets.filterMap Asset.rejection?).length
      = assets.length := by
  induction assets with
  | nil => rfl
  | cons asset rest ih =>
      rcases asset.toIcon_cases with ⟨icon, -, hicon, hnone⟩ | ⟨fault, -, hnone, hfault, -⟩
      · rw [List.filterMap_cons_some hicon, List.filterMap_cons_none hnone, List.length_cons,
          List.length_cons]
        omega
      · rw [List.filterMap_cons_none hnone, List.filterMap_cons_some hfault, List.length_cons,
          List.length_cons]
        omega

theorem icons_ofAssets (hdistinct : (assets.map (·.path)).Nodup) :
    (ofAssets selector assets).icons
      = (assets.filter fun asset => selected selector asset.path).filterMap Asset.icon? := by
  rw [ofAssets_eq.1, firsts_of_nodup hdistinct]

theorem filterMap_icon?_filter (assets : List Asset) :
    (assets.filter (·.icon?.isSome)).filterMap Asset.icon? = assets.filterMap Asset.icon? := by
  rw [List.filterMap_filter]
  refine List.filterMap_congr ?_
  intro asset _
  cases asset.icon? <;> rfl

/-- Only assets that can be made into icons count. -/
theorem icons_congr {more : List Asset} (hdistinct : (assets.map (·.path)).Nodup)
    (hdistinct' : (more.map (·.path)).Nodup)
    (h : assets.filter (·.icon?.isSome) = more.filter (·.icon?.isSome)) :
    (ofAssets selector assets).icons = (ofAssets selector more).icons := by
  rw [icons_ofAssets hdistinct, icons_ofAssets hdistinct', ← filterMap_icon?_filter,
    List.filter_comm, h, List.filter_comm, filterMap_icon?_filter]

end Collection

end IconCompiler
