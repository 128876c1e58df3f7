import IconCompiler.PathPattern
import IconCompiler.Proofs.Text.Split

/-! # The language of a path pattern

    What a pattern means, said without a search: a segment `**` stands for any
    list of path segments, any other segment for one path segment that consists
    of the literal pieces with any stretches between them (`Stands`,
    `InLanguage`).  The matcher looks for the first occurrence of each piece
    only; that this loses nothing is `spreads_cons_iff`, since whatever follows
    some occurrence also follows the first one, behind a longer stretch. -/

namespace IconCompiler.PathPattern

open Text

/-! ## Segments -/

/-- A text with slashes for its backslashes. -/
def withSlashes (cs : List Char) : List Char :=
  cs.map fun c => if c = '\\' then '/' else c

/-- The segments of a path or a pattern. -/
def segmentsOf (s : String) : List (List Char) :=
  (withSlashes s.toList).splitOn '/'

/-- The segments that a pattern is matched by: without a slash it applies at any
    depth. -/
def patternSegments (pattern : String) : List (List Char) :=
  if '/' ∈ withSlashes pattern.toList then segmentsOf pattern
  else ['*', '*'] :: segmentsOf pattern

/-- A segment of a pattern stands for a path segment: between the pieces that
    its stars separate there may be anything, letter case aside. -/
def Stands (segment text : List Char) : Prop :=
  ∃ (first : List Char) (more : List (List Char × List Char)),
    (∀ piece ∈ first :: more.map Prod.snd, '*' ∉ piece)
      ∧ lowerList segment = ['*'].intercalate (first :: more.map Prod.snd)
      ∧ lowerList text = first ++ more.flatMap fun part => part.1 ++ part.2

/-- The lists of path segments that the segments of a pattern stand for. -/
inductive InLanguage : List (List Char) → List (List Char) → Prop
  | nil : InLanguage [] []
  | depth (skipped : List (List Char)) {segments path : List (List Char)} :
      InLanguage segments path → InLanguage (['*', '*'] :: segments) (skipped ++ path)
  | name {segment text : List Char} {segments path : List (List Char)} :
      segment ≠ ['*', '*'] → Stands segment text → InLanguage segments path →
        InLanguage (segment :: segments) (text :: path)

/-- A text is cut at slashes of either kind as it is with slashes throughout. -/
theorem splitAtAll_isSlash (cs : List Char) :
    splitAtAll isSlash cs = (withSlashes cs).splitOn '/' := by
  rw [splitAtAll_eq_splitOnP, List.splitOn_eq_splitOnP, withSlashes]
  induction cs with
  | nil => rfl
  | cons c rest ih =>
      rw [List.map_cons, List.splitOnP_cons_eq_if_modifyHead,
        List.splitOnP_cons_eq_if_modifyHead, ih]
      by_cases hback : c = '\\'
      · subst hback
        rfl
      · have hslash : isSlash c = (c == '/') := by simp [isSlash, hback]
        rw [if_neg hback, hslash]

/-- A text without a slash is a single segment, and no other text is. -/
theorem segmentsOf_eq_singleton_iff (pattern : String) (single : List Char) :
    segmentsOf pattern = [single]
      ↔ '/' ∉ withSlashes pattern.toList ∧ single = withSlashes pattern.toList := by
  constructor
  · intro h
    have hjoin : ['/'].intercalate (segmentsOf pattern) = withSlashes pattern.toList :=
      List.intercalate_splitOn '/'
    refine ⟨?_, ?_⟩
    · intro hslash
      obtain ⟨front, behind, hcut⟩ := List.append_of_mem hslash
      rw [segmentsOf, hcut, List.splitOn_append_cons_self] at h
      -- both sides of a slash have a segment each
      have hlength := congrArg List.length h
      have hfront := List.length_pos_iff.mpr (List.splitOn_ne_nil '/' front)
      have hbehind := List.length_pos_iff.mpr (List.splitOn_ne_nil '/' behind)
      rw [List.length_append, List.length_singleton] at hlength
      omega
    · rw [h] at hjoin
      simpa using hjoin
  · rintro ⟨hslash, rfl⟩
    exact List.splitOn_eq_singleton hslash

/-! ## Occurrences of a piece -/

/-- What follows the first occurrence of a piece follows an occurrence. -/
theorem dropThrough?_eq_some {piece text rest : List Char}
    (h : dropThrough? piece text = some rest) : ∃ gap, text = gap ++ (piece ++ rest) := by
  induction text with
  | nil =>
      rw [dropThrough?] at h
      split at h
      · next hpiece =>
          subst hpiece
          exact ⟨[], Option.some.inj h⟩
      · exact absurd h (by simp)
  | cons c text ih =>
      rw [dropThrough?] at h
      split at h
      · next hstarts =>
          obtain ⟨after, hafter⟩ := List.isPrefixOf_iff_prefix.mp hstarts
          refine ⟨[], ?_⟩
          rw [← Option.some.inj h, ← hafter, List.drop_left]
          rfl
      · obtain ⟨gap, rfl⟩ := ih h
        exact ⟨c :: gap, rfl⟩

/-- What follows some occurrence of a piece is the end of what follows the first
    one. -/
theorem dropThrough?_append (gap piece after : List Char) :
    ∃ extra, dropThrough? piece (gap ++ (piece ++ after)) = some (extra ++ after) := by
  induction gap with
  | nil =>
      refine ⟨[], ?_⟩
      rw [List.nil_append, List.nil_append]
      cases htext : piece ++ after with
      | nil =>
          obtain ⟨rfl, rfl⟩ := List.append_eq_nil_iff.mp htext
          rfl
      | cons c rest =>
          have hstarts : piece.isPrefixOf (c :: rest) = true := by
            rw [← htext]
            exact List.isPrefixOf_iff_prefix.mpr (List.prefix_append _ _)
          rw [dropThrough?, if_pos hstarts, ← htext, List.drop_left]
  | cons c gap ih =>
      rw [List.cons_append, dropThrough?]
      split
      · refine ⟨(c :: (gap ++ piece)).drop piece.length, ?_⟩
        -- an earlier occurrence ends no later than this one does
        have hlength : piece.length ≤ (c :: (gap ++ piece)).length := by
          simp only [List.length_cons, List.length_append]
          omega
        rw [← List.drop_append_of_le_length hlength]
        simp
      · exact ih

/-! ## Pieces one after the other -/

/-- A text that consists of pieces with any stretch in front of each. -/
inductive Spreads : List (List Char) → List Char → Prop
  | nil : Spreads [] []
  | cons (gap piece : List Char) {pieces : List (List Char)} {text : List Char} :
      Spreads pieces text → Spreads (piece :: pieces) (gap ++ (piece ++ text))

theorem spreads_nil_iff (text : List Char) : Spreads [] text ↔ text = [] := by
  constructor
  · intro h
    cases h
    rfl
  · rintro rfl
    exact .nil

/-- The stretch in front of the first piece may grow. -/
theorem Spreads.append {pieces : List (List Char)} {text : List Char} (h : Spreads pieces text)
    (hne : pieces ≠ []) (front : List Char) : Spreads pieces (front ++ text) := by
  cases h with
  | nil => exact absurd rfl hne
  | cons gap piece hrest =>
      rw [← List.append_assoc]
      exact .cons (front ++ gap) piece hrest

theorem spreads_singleton_iff (last text : List Char) : Spreads [last] text ↔ last <:+ text := by
  constructor
  · intro h
    cases h with
    | cons gap _ hrest =>
        cases hrest
        exact ⟨gap, by rw [List.append_nil]⟩
  · rintro ⟨gap, rfl⟩
    have h := Spreads.cons gap last .nil
    rwa [List.append_nil] at h

/-- Of a piece that is not the last, the first occurrence will do. -/
theorem spreads_cons_iff {piece : List Char} {pieces : List (List Char)} (hne : pieces ≠ [])
    (text : List Char) :
    Spreads (piece :: pieces) text
      ↔ ∃ rest, dropThrough? piece text = some rest ∧ Spreads pieces rest := by
  constructor
  · intro h
    cases h with
    | cons gap _ hafter =>
        -- behind the first occurrence there is more room in front of the next piece
        obtain ⟨extra, hextra⟩ := dropThrough?_append gap piece _
        exact ⟨_, hextra, hafter.append hne extra⟩
  · rintro ⟨rest, hrest, hspreads⟩
    obtain ⟨gap, rfl⟩ := dropThrough?_eq_some hrest
    exact .cons gap piece hspreads

/-- Pieces spread over a text together with the stretches in front of them. -/
theorem spreads_iff_exists (pieces : List (List Char)) (text : List Char) :
    Spreads pieces text ↔ ∃ more : List (List Char × List Char),
      more.map Prod.snd = pieces ∧ text = more.flatMap fun part => part.1 ++ part.2 := by
  constructor
  · intro h
    induction h with
    | nil => exact ⟨[], rfl, rfl⟩
    | cons gap piece _ ih =>
        obtain ⟨more, rfl, rfl⟩ := ih
        exact ⟨(gap, piece) :: more, rfl, by simp⟩
  · rintro ⟨more, rfl, rfl⟩
    induction more with
    | nil => exact .nil
    | cons part more ih =>
        rw [List.map_cons, List.flatMap_cons, List.append_assoc]
        exact .cons part.1 part.2 ih

/-- Looking for the first occurrence of each piece finds whether the pieces
    spread over the text. -/
theorem matchesAfterStar_iff {pieces : List (List Char)} (hne : pieces ≠ []) (text : List Char) :
    matchesAfterStar pieces text = true ↔ Spreads pieces text := by
  induction pieces generalizing text with
  | nil => exact absurd rfl hne
  | cons piece pieces ih =>
      cases pieces with
      | nil => rw [matchesAfterStar, List.isSuffixOf_iff_suffix, spreads_singleton_iff]
      | cons next pieces =>
          rw [spreads_cons_iff (List.cons_ne_nil _ _), matchesAfterStar]
          · cases dropThrough? piece text with
            | none => simp
            | some rest => simpa using ih (List.cons_ne_nil _ _) rest
          · exact fun h => List.cons_ne_nil _ _ h

theorem matchesPieces_cons_iff (first : List Char) (pieces : List (List Char))
    (text : List Char) :
    matchesPieces (first :: pieces) text = true
      ↔ ∃ rest, text = first ++ rest ∧ Spreads pieces rest := by
  cases pieces with
  | nil =>
      rw [matchesPieces, decide_eq_true_iff]
      simp only [spreads_nil_iff]
      constructor
      · rintro rfl
        exact ⟨[], (List.append_nil _).symm, rfl⟩
      · rintro ⟨rest, rfl, rfl⟩
        exact List.append_nil _
  | cons piece pieces =>
      rw [matchesPieces, Bool.and_eq_true, List.isPrefixOf_iff_prefix,
        matchesAfterStar_iff (List.cons_ne_nil _ _)]
      · constructor
        · rintro ⟨⟨rest, rfl⟩, hspreads⟩
          rw [List.drop_left] at hspreads
          exact ⟨rest, rfl, hspreads⟩
        · rintro ⟨rest, rfl, hspreads⟩
          refine ⟨List.prefix_append _ _, ?_⟩
          rwa [List.drop_left]
      · exact fun h => List.cons_ne_nil _ _ h

/-! ## Segments and lists of segments -/

/-- The pieces of a segment are what its stars separate. -/
theorem eq_intercalate_iff {first : List Char} {pieces : List (List Char)}
    (hfree : ∀ piece ∈ first :: pieces, '*' ∉ piece) (segment : List Char) :
    segment = ['*'].intercalate (first :: pieces)
      ↔ splitAtAll (· == '*') segment = first :: pieces := by
  rw [splitAtAll_eq_splitOnP, ← List.splitOn_eq_splitOnP]
  constructor
  · rintro rfl
    exact List.splitOn_intercalate '*' hfree (List.cons_ne_nil _ _)
  · intro h
    rw [← h, List.intercalate_splitOn]

theorem star_not_mem_of_mem_splitAtAll {segment piece : List Char}
    (h : piece ∈ splitAtAll (· == '*') segment) : '*' ∉ piece := by
  intro hstar
  exact absurd (eq_false_of_mem_splitAtAll h hstar) (by decide)

/-- Matching the lower-cased pieces of a segment decides what it stands for. -/
theorem stands_iff (segment text : List Char) :
    Stands segment text
      ↔ matchesPieces (splitAtAll (· == '*') (lowerList segment)) (lowerList text) = true := by
  constructor
  · rintro ⟨first, more, hfree, hsegment, htext⟩
    rw [(eq_intercalate_iff hfree _).mp hsegment, matchesPieces_cons_iff]
    exact ⟨_, htext, (spreads_iff_exists _ _).mpr ⟨more, rfl, rfl⟩⟩
  · intro h
    have hfree : ∀ piece ∈ splitAtAll (· == '*') (lowerList segment), '*' ∉ piece := by
      intro piece hpiece
      exact star_not_mem_of_mem_splitAtAll hpiece
    obtain ⟨first, pieces, hsplit⟩ := exists_splitAtAll_eq_cons (· == '*') (lowerList segment)
    rw [hsplit] at h hfree
    obtain ⟨rest, htext, hspreads⟩ := (matchesPieces_cons_iff _ _ _).mp h
    obtain ⟨more, rfl, rfl⟩ := (spreads_iff_exists _ _).mp hspreads
    exact ⟨first, more, hfree, (eq_intercalate_iff hfree _).mpr hsplit, htext⟩

theorem mem_suffixes_iff {α : Type} (path rest : List α) :
    rest ∈ suffixes path ↔ rest <:+ path := by
  induction path with
  | nil => rw [suffixes, List.mem_singleton, List.suffix_nil]
  | cons segment path ih => rw [suffixes, List.mem_cons, List.suffix_cons_iff, ih]

/-- A segment for any depth leaves some end of the path to the others. -/
theorem inLanguage_depth_iff (segments path : List (List Char)) :
    InLanguage (['*', '*'] :: segments) path
      ↔ ∃ skipped rest, path = skipped ++ rest ∧ InLanguage segments rest := by
  constructor
  · intro h
    cases h with
    | depth skipped hrest => exact ⟨skipped, _, rfl, hrest⟩
    | name hne => exact absurd rfl hne
  · rintro ⟨skipped, rest, rfl, hrest⟩
    exact .depth skipped hrest

/-- Any other segment takes the first segment of the path. -/
theorem inLanguage_name_iff {segment : List Char} (hne : segment ≠ ['*', '*'])
    (segments path : List (List Char)) :
    InLanguage (segment :: segments) path
      ↔ ∃ text rest, path = text :: rest ∧ Stands segment text ∧ InLanguage segments rest := by
  constructor
  · generalize hall : segment :: segments = all
    intro h
    cases h with
    | nil => exact absurd hall (List.cons_ne_nil _ _)
    | depth => exact absurd (List.cons.inj hall).1 hne
    | name _ hstands hrest =>
        obtain ⟨rfl, rfl⟩ := List.cons.inj hall
        exact ⟨_, _, rfl, hstands, hrest⟩
  · rintro ⟨text, rest, rfl, hstands, hrest⟩
    exact .name hne hstands hrest

/-- The matcher shares out the path segments exactly as the language does. -/
theorem matchesParts_iff (segments path : List (List Char)) :
    matchesParts (segments.map parseSegment) (path.map lowerList) = true
      ↔ InLanguage segments path := by
  induction segments generalizing path with
  | nil =>
      rw [List.map_nil, matchesParts, decide_eq_true_iff, List.map_eq_nil_iff]
      constructor
      · rintro rfl
        exact .nil
      · intro h
        cases h
        rfl
  | cons segment segments ih =>
      rw [List.map_cons]
      by_cases hdepth : segment = ['*', '*']
      · subst hdepth
        rw [parseSegment, if_pos rfl, matchesParts, List.any_eq_true, inLanguage_depth_iff]
        constructor
        · rintro ⟨rest, hrest, hmatch⟩
          obtain ⟨skipped, hpath⟩ := (mem_suffixes_iff _ _).mp hrest
          obtain ⟨front, behind, rfl, rfl, rfl⟩ := List.map_eq_append_iff.mp hpath.symm
          exact ⟨front, behind, rfl, (ih behind).mp hmatch⟩
        · rintro ⟨skipped, rest, rfl, hrest⟩
          refine ⟨rest.map lowerList, ?_, (ih rest).mpr hrest⟩
          exact (mem_suffixes_iff _ _).mpr ⟨skipped.map lowerList, List.map_append.symm⟩
      -- a segment that is not `**` takes exactly one path segment
      · rw [parseSegment, if_neg hdepth, inLanguage_name_iff hdepth]
        cases path with
        | nil =>
            rw [List.map_nil, matchesParts]
            constructor
            · intro h
              exact absurd h Bool.false_ne_true
            · rintro ⟨text, rest, hpath, -⟩
              exact absurd hpath.symm (List.cons_ne_nil _ _)
        | cons text path =>
            rw [List.map_cons, matchesParts, Bool.and_eq_true, ← stands_iff, ih]
            constructor
            · rintro ⟨hstands, hrest⟩
              exact ⟨text, path, rfl, hstands, hrest⟩
            · rintro ⟨text', rest, hpath, hstands, hrest⟩
              obtain ⟨rfl, rfl⟩ := List.cons.inj hpath
              exact ⟨hstands, hrest⟩

/-! ## Whole patterns -/

/-- A pattern that is not empty is matched by its segments. -/
theorem parse_eq_segments {pattern : String} (hne : pattern ≠ "") :
    parse pattern = .segments ((patternSegments pattern).map parseSegment) := by
  have hnil : pattern.toList ≠ [] := fun h => hne (String.toList_eq_nil_iff.mp h)
  rw [parse, if_neg hnil, splitAtAll_isSlash, ← segmentsOf, patternSegments]
  by_cases hslash : '/' ∈ withSlashes pattern.toList
  · rw [if_pos hslash]
    split
    · next single hsingle =>
        obtain ⟨text, htext, -⟩ := List.map_eq_singleton_iff.mp hsingle
        exact absurd hslash ((segmentsOf_eq_singleton_iff _ _).mp htext).1
    · rfl
  · rw [if_neg hslash, (segmentsOf_eq_singleton_iff _ _).mpr ⟨hslash, rfl⟩]
    rfl

/-- A pattern matches the paths whose segments its own segments stand for. -/
theorem matches_eq_true_iff (pattern path : String) :
    (parse pattern).matches path = true
      ↔ pattern ≠ "" ∧ InLanguage (patternSegments pattern) (segmentsOf path) := by
  by_cases hempty : pattern = ""
  · subst hempty
    constructor
    · intro h
      exact absurd h Bool.false_ne_true
    · rintro ⟨hne, -⟩
      exact absurd rfl hne
  · rw [parse_eq_segments hempty, PathPattern.matches, splitAtAll_isSlash, ← segmentsOf,
      matchesParts_iff]
    constructor
    · intro h
      exact ⟨hempty, h⟩
    · rintro ⟨-, h⟩
      exact h

end IconCompiler.PathPattern
