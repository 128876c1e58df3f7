import IconCompiler.PathPattern
import IconCompiler.Proofs.RelativeWay
import IconCompiler.Proofs.Text.LowerForm

/-! # Letter case in paths and patterns

    A pattern and the path it is matched against are seen in lower case only, and so are
    the common segments of a root and a path; what is read as it is written, such as
    `**` and the segments `.` and `..`, has no letters.  Paths and patterns of one
    lower-case form are therefore matched alike, and relative paths are again of one
    lower-case form (`matches_eq_of_lower_eq`, `parse_eq_of_lower_eq`,
    `lower_relativeTo_eq`).  The case of ASCII letters never changes that form
    (`matches_eq_of_sameLetters`); that of a sigma does. -/

namespace IconCompiler

open Text

/-! ## Relative paths -/

namespace RelativePath

theorem follow_lowerList (named : List (List Char)) (segment : List Char) :
    follow (named.map lowerList) (lowerList segment) = (follow named segment).map lowerList := by
  have hempty : lowerList segment = [] ↔ segment = [] :=
    lowerList_eq_iff (by simp) segment
  have hdot : lowerList segment = ['.'] ↔ segment = ['.'] :=
    lowerList_eq_iff (by simpa using isCaseless_dot) segment
  have hdots : lowerList segment = ['.', '.'] ↔ segment = ['.', '.'] :=
    lowerList_eq_iff (by simpa using isCaseless_dot) segment
  rw [follow, follow]
  simp only [hempty, hdot, hdots]
  split
  · rfl
  split
  · exact List.map_dropLast.symm
  · rw [List.map_append]
    rfl

theorem foldl_follow_lowerList (cut named : List (List Char)) :
    (cut.map lowerList).foldl follow (named.map lowerList)
      = (cut.foldl follow named).map lowerList := by
  induction cut generalizing named with
  | nil => rfl
  | cons segment rest ih =>
      rw [List.map_cons, List.foldl_cons, List.foldl_cons, follow_lowerList, ih]

/-- A lower-cased path comes down to the segments of the path, lower-cased. -/
theorem segments_lowerList (path : List Char) :
    segments (lowerList path) = (segments path).map lowerList := by
  rw [segments, segments, splitAtAll_isSlash_lowerList]
  exact foldl_follow_lowerList _ []

/-- How far two lists of segments agree is seen in lower case. -/
theorem agreeOn_iff (source target : List (List Char)) (count : Nat) :
    AgreeOn source target count
      ↔ count ≤ (source.map lowerList).length ∧ count ≤ (target.map lowerList).length
        ∧ (source.map lowerList).take count = (target.map lowerList).take count := by
  rw [AgreeOn, List.length_map, List.length_map, List.map_take, List.map_take]

theorem commonCount_eq_of_map_eq {source target other goal : List (List Char)}
    (hsource : source.map lowerList = other.map lowerList)
    (htarget : target.map lowerList = goal.map lowerList) :
    commonCount source target = commonCount other goal := by
  have hagree : ∀ count, AgreeOn source target count ↔ AgreeOn other goal count := by
    intro count
    rw [agreeOn_iff, agreeOn_iff, hsource, htarget]
  have hgreatest := isGreatest_commonCount source target
  simp only [hagree] at hgreatest
  exact hgreatest.unique (isGreatest_commonCount other goal)

theorem map_lowerList_steps (source target : List (List Char)) :
    (steps source target).map lowerList
      = List.replicate ((source.map lowerList).length - commonCount source target) ['.', '.']
        ++ (target.map lowerList).drop (commonCount source target) := by
  rw [steps, List.map_append, List.map_replicate, List.length_map, List.map_drop]
  rfl

/-- Segments joined by slashes are lower-cased one by one. -/
theorem lowerList_intercalate (first : List Char) (rest : List (List Char)) :
    lowerList (['/'].intercalate (first :: rest))
      = ['/'].intercalate ((first :: rest).map lowerList) := by
  induction rest generalizing first with
  | nil => rw [List.map_singleton, List.intercalate_singleton, List.intercalate_singleton]
  | cons next rest ih =>
      rw [List.intercalate_cons_cons, List.append_assoc, List.singleton_append,
        (isSeparator_of_isSlash rfl).lowerList_append_cons, ih, List.map_cons, List.map_cons,
        List.map_cons, List.intercalate_cons_cons, List.append_assoc]
      rfl

theorem lowerList_join (named : List (List Char)) :
    lowerList (join named) = join (named.map lowerList) := by
  cases named with
  | nil => rfl
  | cons first rest =>
      rw [join, join, if_neg (List.cons_ne_nil _ _), if_neg (by simp)]
      exact lowerList_intercalate first rest

/-- Seen from roots of one lower-case form, paths of one lower-case form are again of one
    lower-case form. -/
theorem lower_relativeTo_eq {root other path goal : String} (hroot : lower root = lower other)
    (hpath : lower path = lower goal) :
    lower (relativeTo root path) = lower (relativeTo other goal) := by
  have hsegments : ∀ {s t : String}, lower s = lower t →
      (segments s.toList).map lowerList = (segments t.toList).map lowerList := by
    intro s t h
    rw [← segments_lowerList, ← segments_lowerList, (lower_eq_iff s t).mp h]
  have hsource := hsegments hroot
  have htarget := hsegments hpath
  rw [lower_eq_iff, relativeTo, relativeTo, String.toList_ofList, String.toList_ofList,
    lowerList_join, lowerList_join, map_lowerList_steps, map_lowerList_steps, hsource, htarget,
    commonCount_eq_of_map_eq hsource htarget]

end RelativePath

/-! ## Patterns -/

namespace PathPattern

open RelativePath

theorem parseSegment_eq_of_lowerList_eq {segment other : List Char}
    (h : lowerList segment = lowerList other) : parseSegment segment = parseSegment other := by
  have hdepth : ∀ cs : List Char, lowerList cs = ['*', '*'] ↔ cs = ['*', '*'] :=
    lowerList_eq_iff (by simpa using isSeparator_star.toIsCaseless)
  have hsame : segment = ['*', '*'] ↔ other = ['*', '*'] := by
    rw [← hdepth, h, hdepth]
  rw [parseSegment, parseSegment, h]
  simp only [hsame]

/-- Patterns of one lower-case form are one pattern. -/
theorem parse_eq_of_lower_eq {pattern other : String} (h : lower pattern = lower other) :
    parse pattern = parse other := by
  rw [lower_eq_iff] at h
  have hempty : pattern.toList = [] ↔ other.toList = [] := by
    rw [← lowerList_eq_iff (by simp), h, lowerList_eq_iff (by simp)]
  have hparts : (splitAtAll isSlash pattern.toList).map parseSegment
      = (splitAtAll isSlash other.toList).map parseSegment := by
    have hcut := congrArg (splitAtAll isSlash) h
    rw [splitAtAll_isSlash_lowerList, splitAtAll_isSlash_lowerList] at hcut
    rw [← List.forall₂_eq_eq_eq, List.forall₂_map_left_iff, List.forall₂_map_right_iff] at hcut ⊢
    exact hcut.imp fun _ _ => parseSegment_eq_of_lowerList_eq
  rw [parse, parse, hparts]
  simp only [hempty]

/-- A pattern matches all paths of one lower-case form or none of them. -/
theorem matches_eq_of_lower_eq (pattern : PathPattern) {path other : String}
    (h : lower path = lower other) : pattern.matches path = pattern.matches other := by
  have hcut := congrArg (splitAtAll isSlash) ((lower_eq_iff _ _).mp h)
  rw [splitAtAll_isSlash_lowerList, splitAtAll_isSlash_lowerList] at hcut
  cases pattern with
  | never => rfl
  | segments parts => rw [PathPattern.matches, PathPattern.matches, hcut]

/-- The sigma that ends a word is another small letter than the one that does not. -/
example : (parse "*οσ").matches "ΔΟΣ" = false := by decide +kernel

/-- The case of ASCII letters makes no difference to whether a pattern matches a path, nor
    to whether it matches the path as seen from a root. -/
theorem matches_eq_of_sameLetters {path path' pattern pattern' : String}
    (hpath : SameLetters path path') (hpattern : SameLetters pattern pattern') :
    (parse pattern).matches path = (parse pattern').matches path'
      ∧ ∀ root root' : String, SameLetters root root' →
        (parse pattern).matches (relativeTo root path)
          = (parse pattern').matches (relativeTo root' path') := by
  have hlower := lower_eq_of_sameLetters hpath
  rw [parse_eq_of_lower_eq (lower_eq_of_sameLetters hpattern)]
  refine ⟨matches_eq_of_lower_eq _ hlower, ?_⟩
  intro root root' hroot
  exact matches_eq_of_lower_eq _ (lower_relativeTo_eq (lower_eq_of_sameLetters hroot) hlower)

/-- The capital sigma of the path stands in front of a letter, whichever its case, so it
    ends no word; neither root is written as the path has it. -/
theorem matches_eq_of_sameLetters_sigma :
    SameLetters "Icons\\ΔΟΣx/Home.SVG" "iCONS\\ΔΟΣX/hOME.svg"
      ∧ SameLetters "**/δοσX/h*.Svg" "**/δοσx/H*.sVG"
      ∧ SameLetters "./ICONS" "./icons"
      ∧ (parse "**/δοσX/h*.Svg").matches "Icons\\ΔΟΣx/Home.SVG" = true
      ∧ (parse "**/δοσx/H*.sVG").matches "iCONS\\ΔΟΣX/hOME.svg" = true
      ∧ relativeTo "./ICONS" "Icons\\ΔΟΣx/Home.SVG" = "ΔΟΣx/Home.SVG"
      ∧ (parse "**/δοσx/H*.sVG").matches (relativeTo "./icons" "iCONS\\ΔΟΣX/hOME.svg") = true := by
  have hpath : SameLetters "Icons\\ΔΟΣx/Home.SVG" "iCONS\\ΔΟΣX/hOME.svg" := by decide +kernel
  have hpattern : SameLetters "**/δοσX/h*.Svg" "**/δοσx/H*.sVG" := by decide +kernel
  have hroot : SameLetters "./ICONS" "./icons" := by decide +kernel
  have hfound : (parse "**/δοσX/h*.Svg").matches "Icons\\ΔΟΣx/Home.SVG" = true := by
    decide +kernel
  have hbelow : relativeTo "./ICONS" "Icons\\ΔΟΣx/Home.SVG" = "ΔΟΣx/Home.SVG" := by
    decide +kernel
  have hfoundBelow : (parse "**/δοσX/h*.Svg").matches "ΔΟΣx/Home.SVG" = true := by decide +kernel
  obtain ⟨hsame, hrelative⟩ := matches_eq_of_sameLetters hpath hpattern
  have hsameBelow := hrelative "./ICONS" "./icons" hroot
  rw [hbelow] at hsameBelow
  exact ⟨hpath, hpattern, hroot, hfound, hsame.symm.trans hfound, hbelow,
    hsameBelow.symm.trans hfoundBelow⟩

end PathPattern

end IconCompiler
