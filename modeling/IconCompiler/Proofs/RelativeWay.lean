import IconCompiler.Proofs.RelativePath
import Mathlib.Order.Bounds.Basic

/-! # Following relative paths

    A relative path is the way from a root to a path: up as far as the two have no
    segments in common, letter case aside, and down from there (`way`).  What is
    written behind the root is followed from the segments of the root, so it leads
    back to the path, but for the spelling of the common segments
    (`relativeTo_leads_back`). -/

namespace IconCompiler.RelativePath

open Text

/-! ## Named segments -/

/-- Only segments that lead down are named. -/
theorem mem_foldl_follow {segment : List Char} {cut named : List (List Char)}
    (h : segment ∈ cut.foldl follow named) :
    segment ∈ named
      ∨ (segment ∈ cut ∧ segment ≠ [] ∧ segment ≠ ['.'] ∧ segment ≠ ['.', '.']) := by
  induction cut generalizing named with
  | nil => exact .inl h
  | cons first rest ih =>
      rw [List.foldl_cons] at h
      rcases ih h with hfollow | ⟨hrest, hproper⟩
      · rw [follow] at hfollow
        split at hfollow
        · exact .inl hfollow
        · next hidle =>
            split at hfollow
            · exact .inl ((List.dropLast_sublist _).subset hfollow)
            · next hdots =>
                rcases List.mem_append.mp hfollow with hnamed | hlast
                · exact .inl hnamed
                · rw [not_or] at hidle
                  rw [List.mem_singleton.mp hlast]
                  exact .inr ⟨List.mem_cons_self .., hidle.1, hidle.2, hdots⟩
      · exact .inr ⟨List.mem_cons_of_mem _ hrest, hproper⟩

theorem isPart_of_mem_segments {path segment : List Char} (h : segment ∈ segments path) :
    IsPart (String.ofList segment) := by
  rcases mem_foldl_follow h with hnone | ⟨hcut, hnonempty, hdot, hdots⟩
  · exact absurd hnone List.not_mem_nil
  have hne : ∀ other : String, segment ≠ other.toList → String.ofList segment ≠ other := by
    rintro other hother rfl
    exact hother String.toList_ofList.symm
  have hfree : ∀ c, isSlash c = true → c ∉ (String.ofList segment).toList := by
    intro c hslash hc
    rw [String.toList_ofList] at hc
    exact absurd ((eq_false_of_mem_splitAtAll hcut hc).symm.trans hslash) Bool.false_ne_true
  exact ⟨⟨hne "" hnonempty, hne "." hdot, hne ".." hdots, hfree '/' rfl⟩, hfree '\\' rfl⟩

/-- Each step up takes away one named segment. -/
theorem foldl_follow_dots (count : Nat) (named : List (List Char)) :
    (List.replicate count ['.', '.']).foldl follow named
      = named.take (named.length - count) := by
  induction count generalizing named with
  | zero => exact named.take_length.symm
  | succ count ih =>
      have hup : follow named ['.', '.'] = named.dropLast := by
        rw [follow, if_neg (by decide), if_pos rfl]
      rw [List.replicate_succ, List.foldl_cons, hup, ih, List.length_dropLast,
        List.dropLast_eq_take, List.take_take]
      congr 1
      omega

/-! ## Common segments -/

/-- Two lists of segments agree on the first `count` of them, letter case aside. -/
def AgreeOn (source target : List (List Char)) (count : Nat) : Prop :=
  count ≤ source.length ∧ count ≤ target.length
    ∧ (source.take count).map lowerList = (target.take count).map lowerList

theorem agreeOn_zero (source target : List (List Char)) : AgreeOn source target 0 :=
  ⟨Nat.zero_le _, Nat.zero_le _, rfl⟩

theorem agreeOn_succ_iff (a b : List Char) (source target : List (List Char)) (count : Nat) :
    AgreeOn (a :: source) (b :: target) (count + 1)
      ↔ lowerList a = lowerList b ∧ AgreeOn source target count := by
  simp only [AgreeOn, List.length_cons, Nat.add_le_add_iff_right, List.take_succ_cons,
    List.map_cons, List.cons.injEq]
  tauto

/-- The segments counted are the most on which two lists agree. -/
theorem isGreatest_commonCount (source target : List (List Char)) :
    IsGreatest {count | AgreeOn source target count} (commonCount source target) := by
  induction source generalizing target with
  | nil => exact ⟨agreeOn_zero _ _, fun count hagree => hagree.1⟩
  | cons a source ih =>
      cases target with
      | nil => exact ⟨agreeOn_zero _ _, fun count hagree => hagree.2.1⟩
      | cons b target =>
          rw [commonCount]
          split
          · next hsame =>
              refine ⟨(agreeOn_succ_iff ..).mpr ⟨hsame, (ih target).1⟩, ?_⟩
              intro count hagree
              cases count with
              | zero => exact Nat.zero_le _
              | succ count =>
                  have hrest := ((agreeOn_succ_iff ..).mp hagree).2
                  exact Nat.succ_le_succ ((ih target).2 hrest)
          · next hdiffer =>
              refine ⟨agreeOn_zero _ _, ?_⟩
              intro count hagree
              cases count with
              | zero => exact Nat.le_refl _
              | succ count => exact absurd ((agreeOn_succ_iff ..).mp hagree).1 hdiffer

/-- All segments of two lists are common if they are the same, letter case aside. -/
theorem commonCount_all_iff (source target : List (List Char)) :
    commonCount source target = source.length ∧ commonCount source target = target.length
      ↔ source.map lowerList = target.map lowerList := by
  obtain ⟨hagree, hmost⟩ := isGreatest_commonCount source target
  constructor
  · rintro ⟨hsource, htarget⟩
    have hmaps := hagree.2.2
    rwa [List.take_of_length_le hsource.ge, List.take_of_length_le htarget.ge] at hmaps
  · intro hmaps
    have hlength : source.length = target.length := by
      rw [← List.length_map lowerList, hmaps, List.length_map]
    have hall : AgreeOn source target source.length := by
      refine ⟨Nat.le_refl _, hlength.le, ?_⟩
      rw [List.take_length, List.take_of_length_le hlength.ge]
      exact hmaps
    have heq : commonCount source target = source.length :=
      Nat.le_antisymm hagree.1 (hmost hall)
    exact ⟨heq, heq.trans hlength⟩

/-! ## The way to a path -/

/-- The segments of the way from a root to a path, of which the first `common`
    segments are the same. -/
def way (common : Nat) (source target : List (List Char)) : List String :=
  List.replicate (source.length - common) ".." ++ (target.drop common).map String.ofList

theorem map_toList_way (source target : List (List Char)) :
    (way (commonCount source target) source target).map String.toList = steps source target := by
  rw [way, steps, List.map_append, List.map_replicate, List.map_map]
  simp [Function.comp_def]

theorem way_eq_nil_iff (source target : List (List Char)) :
    way (commonCount source target) source target = []
      ↔ source.map lowerList = target.map lowerList := by
  have hbound := (isGreatest_commonCount source target).1
  rw [← commonCount_all_iff, way, List.append_eq_nil_iff, List.replicate_eq_nil_iff,
    List.map_eq_nil_iff, List.drop_eq_nil_iff]
  have hsource := hbound.1
  have htarget := hbound.2.1
  omega

section

variable (root path : String)

theorem isSlash_of_mem_way {common : Nat} {segment : String}
    (h : segment ∈ way common (segments root.toList) (segments path.toList)) :
    segment ≠ "." ∧ ∀ c ∈ segment.toList, isSlash c = false := by
  rcases List.mem_append.mp h with hup | hdown
  · rw [List.eq_of_mem_replicate hup]
    exact ⟨by decide, eq_false_of_any (by decide)⟩
  · obtain ⟨part, hpart, rfl⟩ := List.mem_map.mp hdown
    have hproper := isPart_of_mem_segments (List.mem_of_mem_drop hpart)
    exact ⟨hproper.not_dot, fun c hc => hproper.isSlash_eq_false hc⟩

/-- The text of a way is cut into its segments again. -/
theorem splitAtAll_way {common : Nat}
    (hne : way common (segments root.toList) (segments path.toList) ≠ []) :
    splitAtAll isSlash
        (joinWith "/" (way common (segments root.toList) (segments path.toList))).toList
      = (way common (segments root.toList) (segments path.toList)).map String.toList := by
  rw [show "/" = String.singleton '/' from rfl]
  exact splitAtAll_joinWith rfl hne fun segment hsegment =>
    (isSlash_of_mem_way root path hsegment).2

/-- A relative path is its way, or a dot if there is no way to go. -/
theorem relativeTo_eq :
    relativeTo root path
      = if (segments root.toList).map lowerList = (segments path.toList).map lowerList then "."
        else joinWith "/" (way (commonCount (segments root.toList) (segments path.toList))
          (segments root.toList) (segments path.toList)) := by
  rw [relativeTo, ← map_toList_way]
  split
  · next hsame =>
      rw [(way_eq_nil_iff _ _).mpr hsame]
      rfl
  · next hdiffer =>
      rw [join_map_toList (mt (way_eq_nil_iff _ _).mp hdiffer), String.ofList_toList]

theorem relativeTo_eq_dot_iff :
    relativeTo root path = "."
      ↔ (segments root.toList).map lowerList = (segments path.toList).map lowerList := by
  rw [relativeTo_eq]
  split
  · next hsame => exact iff_of_true rfl hsame
  · next hdiffer =>
      refine iff_of_false ?_ hdiffer
      intro hdot
      -- cut at slashes, the dot would be a segment of the way
      have hcut := splitAtAll_way root path (mt (way_eq_nil_iff _ _).mp hdiffer)
      rw [hdot] at hcut
      obtain ⟨segment, hway, hsegment⟩ := List.map_eq_singleton_iff.mp hcut.symm
      have hmem := List.mem_singleton_self segment
      rw [← hway] at hmem
      exact (isSlash_of_mem_way root path hmem).1 (String.toList_inj.mp hsegment)

/-- Following a relative path from its root keeps the common segments of the root and
    takes the others from the path. -/
theorem segments_relativeTo :
    segments (root ++ "/" ++ relativeTo root path).toList
      = (segments root.toList).take (commonCount (segments root.toList) (segments path.toList))
        ++ (segments path.toList).drop
          (commonCount (segments root.toList) (segments path.toList)) := by
  have hbound := (isGreatest_commonCount (segments root.toList) (segments path.toList)).1.1
  have hfollow : segments (root ++ "/" ++ relativeTo root path).toList
      = (splitAtAll isSlash (relativeTo root path).toList).foldl follow
        (segments root.toList) := by
    rw [String.toList_append, String.toList_append, List.append_assoc]
    exact segments_append rfl _ _
  rw [hfollow, relativeTo_eq]
  split
  · next hsame =>
      obtain ⟨hroot, hpath⟩ := (commonCount_all_iff _ _).mpr hsame
      rw [List.take_of_length_le hroot.ge, List.drop_of_length_le hpath.ge, List.append_nil]
      rfl
  · next hdiffer =>
      rw [splitAtAll_way root path (mt (way_eq_nil_iff _ _).mp hdiffer), way, List.map_append,
        List.map_replicate, List.foldl_append]
      have hparts : ∀ part ∈ ((segments path.toList).drop
          (commonCount (segments root.toList) (segments path.toList))).map String.ofList,
          IsPart part := by
        intro part hpart
        obtain ⟨segment, hsegment, rfl⟩ := List.mem_map.mp hpart
        exact isPart_of_mem_segments (List.mem_of_mem_drop hsegment)
      rw [foldl_follow hparts]
      refine congrArg₂ _ ((foldl_follow_dots _ _).trans ?_) ?_
      · congr 1
        omega
      · rw [List.map_map]
        simp [Function.comp_def]

end

/-- Joined to its root, a relative path leads to as many segments as the path has:
    those of the root as far as the two agree, letter case aside, then those of the
    path.  It is a dot if they agree throughout, and otherwise the steps up from the
    root followed by the named segments of the path. -/
theorem relativeTo_leads_back (root path : String) :
    ∃ common,
      IsGreatest {count | AgreeOn (segments root.toList) (segments path.toList) count} common
        ∧ (segments (root ++ "/" ++ relativeTo root path).toList).length
          = (segments path.toList).length
        ∧ segments (root ++ "/" ++ relativeTo root path).toList
          = (segments root.toList).take common ++ (segments path.toList).drop common
        ∧ (relativeTo root path = "."
          ↔ (segments root.toList).map lowerList = (segments path.toList).map lowerList)
        ∧ relativeTo root path
          = (if (segments root.toList).map lowerList = (segments path.toList).map lowerList
            then "."
            else joinWith "/" (List.replicate ((segments root.toList).length - common) ".."
              ++ ((segments path.toList).drop common).map String.ofList))
        ∧ ∀ segment ∈ (segments path.toList).drop common, IsPart (String.ofList segment) := by
  have hgreatest := isGreatest_commonCount (segments root.toList) (segments path.toList)
  refine ⟨_, hgreatest, ?_, segments_relativeTo root path, relativeTo_eq_dot_iff root path,
    relativeTo_eq root path, ?_⟩
  · have hroot := hgreatest.1.1
    have hpath := hgreatest.1.2.1
    rw [segments_relativeTo, List.length_append, List.length_take, List.length_drop]
    omega
  · intro segment hsegment
    exact isPart_of_mem_segments (List.mem_of_mem_drop hsegment)

/-- Two segments differ in letter case only, so the way goes up once. -/
theorem relativeTo_leads_back_messy :
    relativeTo "a/./B//x/..\\c" "\\A\\b/d/./e.svg" = "../d/e.svg"
      ∧ segments ("a/./B//x/..\\c" ++ "/" ++ "../d/e.svg").toList
        = ["a", "B", "d", "e.svg"].map String.toList
      ∧ IsPart "e.svg" := by
  obtain ⟨common, hgreatest, -, hsegments, -, hrelative, hparts⟩ :=
    relativeTo_leads_back "a/./B//x/..\\c" "\\A\\b/d/./e.svg"
  obtain rfl : common = 2 :=
    (hgreatest.unique (isGreatest_commonCount _ _)).trans (by decide +kernel)
  have hway : relativeTo "a/./B//x/..\\c" "\\A\\b/d/./e.svg" = "../d/e.svg" :=
    hrelative.trans (by decide +kernel)
  rw [hway] at hsegments
  refine ⟨hway, hsegments.trans (by decide +kernel), ?_⟩
  have hpart := hparts ['e', '.', 's', 'v', 'g'] (by decide +kernel)
  exact hpart

end IconCompiler.RelativePath
