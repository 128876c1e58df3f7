import IconCompiler.Markup.Lexeme
import IconCompiler.Proofs.PathPattern.Language

/-! # Matching with shortcuts

    A pattern can also be matched on the texts themselves: a pattern without a
    slash looks at the name of the file only, a star alone at nothing, a final
    `**` ends the search, and in a segment the first and the last piece are cut
    off before the others are looked for, each at the byte where it is found
    first.  A cut that is out of range, or falls inside a character, is `none`;
    no input leads there, and the answer is always that of the segments. -/

namespace IconCompiler.PathPattern

open Text
open Markup (byteLength)

/-! ## Byte offsets -/

/-- The parts of a text before and behind a byte; there are none if the byte lies
    beyond the end or inside a character. -/
def splitAtByte? : Nat → List Char → Option (List Char × List Char)
  | 0, cs => some ([], cs)
  | _ + 1, [] => none
  | offset + 1, c :: rest =>
    if c.utf8Size ≤ offset + 1 then
      (splitAtByte? (offset + 1 - c.utf8Size) rest).map fun (before, behind) =>
        (c :: before, behind)
    else none

/-- The byte at which a piece is found first. -/
def findByte? (piece : List Char) : List Char → Option Nat
  | [] => if piece = [] then some 0 else none
  | c :: rest =>
    if piece.isPrefixOf (c :: rest) then some 0
    else (findByte? piece rest).map (c.utf8Size + ·)

/-- Look for pieces one after the other, each behind the one before. -/
def findAll? : List (List Char) → List Char → Option Bool
  | [], _ => some true
  | piece :: pieces, text =>
    match findByte? piece text with
    | none => some false
    | some offset =>
      match splitAtByte? (offset + byteLength piece) text with
      | none => none
      | some (_, rest) => findAll? pieces rest

/-- Match a text that begins with `first` and ends with `last`, behind which there
    is no room, and in between holds the pieces in the middle. -/
def matchBetween? (first : List Char) (middle : List (List Char)) (last text : List Char) :
    Option Bool :=
  if first.isPrefixOf text then
    let remaining := text.drop first.length
    if byteLength remaining < byteLength last then some false
    else if last.isSuffixOf remaining then
      match splitAtByte? (byteLength remaining - byteLength last) remaining with
      | none => none
      | some (body, _) => findAll? (middle.filter fun piece => !piece.isEmpty) body
    else some false
  else some false

/-- Match one segment. -/
def matchSegment? (segment text : List Char) : Option Bool :=
  if segment = ['*'] then some true
  else
    let segment := lowerList segment
    let text := lowerList text
    if '*' ∈ segment then
      let pieces := segment.splitOn '*'
      matchBetween? (pieces.headD []) pieces.tail.dropLast (pieces.tail.getLastD []) text
    else some (decide (text = segment))

/-- Match a list of segments, trying all lengths for `**`. -/
def matchSegments? : List (List Char) → List (List Char) → Option Bool
  | [], path => some path.isEmpty
  | segment :: others, path =>
    if segment = ['*', '*'] then
      if others.isEmpty then some true
      else (List.range (path.length + 1)).anyM fun skip => matchSegments? others (path.drop skip)
    else
      match path with
      | [] => some false
      | text :: path =>
        match matchSegment? segment text with
        | some true => matchSegments? others path
        | answer => answer

/-- Match a pattern. -/
def matchPath? (pattern path : String) : Option Bool :=
  if pattern = "" then some false
  else
    let pattern := withSlashes pattern.toList
    let path := withSlashes path.toList
    if '/' ∈ pattern then matchSegments? (pattern.splitOn '/') (path.splitOn '/')
    else matchSegment? pattern (afterLast (· == '/') path)

theorem splitAtByte?_append (before behind : List Char) :
    splitAtByte? (byteLength before) (before ++ behind) = some (before, behind) := by
  induction before with
  | nil => rw [Markup.byteLength_nil, splitAtByte?, List.nil_append]
  | cons c before ih =>
      have hlength := Markup.byteLength_cons c before
      -- a character takes at least one byte, so the offset is not zero
      have hpos := c.utf8Size_pos
      obtain ⟨offset, hoffset⟩ : ∃ offset, byteLength (c :: before) = offset + 1 :=
        ⟨byteLength (c :: before) - 1, by omega⟩
      rw [hoffset, List.cons_append, splitAtByte?, if_pos (by omega), ← hoffset, hlength,
        Nat.add_sub_cancel_left, ih]
      rfl

/-- A piece is found at the end of a stretch, and what follows it there is what
    follows its first occurrence. -/
theorem findByte?_spec (piece text : List Char) :
    (findByte? piece text = none ∧ dropThrough? piece text = none)
      ∨ ∃ gap rest, text = gap ++ (piece ++ rest) ∧ findByte? piece text = some (byteLength gap)
        ∧ dropThrough? piece text = some rest := by
  induction text with
  | nil =>
      rw [findByte?, dropThrough?]
      by_cases hpiece : piece = []
      · subst hpiece
        exact .inr ⟨[], [], rfl, rfl, rfl⟩
      · exact .inl ⟨if_neg hpiece, if_neg hpiece⟩
  | cons c text ih =>
      rw [findByte?, dropThrough?]
      by_cases hstarts : piece.isPrefixOf (c :: text) = true
      · obtain ⟨rest, hrest⟩ := List.isPrefixOf_iff_prefix.mp hstarts
        rw [if_pos hstarts, if_pos hstarts, ← hrest, List.drop_left]
        exact .inr ⟨[], rest, rfl, rfl, rfl⟩
      · rw [if_neg hstarts, if_neg hstarts]
        rcases ih with ⟨hnone, hdrop⟩ | ⟨gap, rest, rfl, hsome, hdrop⟩
        · rw [hnone]
          exact .inl ⟨rfl, hdrop⟩
        · rw [hsome]
          exact .inr ⟨c :: gap, rest, rfl, rfl, hdrop⟩

/-! ## Pieces in the middle of a text -/

/-- A text that some pieces and the stretches in front of them begin. -/
def SpreadsIn (pieces : List (List Char)) (text : List Char) : Prop :=
  ∃ front behind, text = front ++ behind ∧ Spreads pieces front

theorem SpreadsIn.append {pieces : List (List Char)} {text : List Char}
    (h : SpreadsIn pieces text) (extra : List Char) : SpreadsIn pieces (extra ++ text) := by
  obtain ⟨front, behind, rfl, hspreads⟩ := h
  by_cases hne : pieces = []
  · subst hne
    exact ⟨[], _, rfl, .nil⟩
  · exact ⟨extra ++ front, behind, by rw [List.append_assoc], hspreads.append hne extra⟩

theorem spreadsIn_cons_iff (piece : List Char) (pieces : List (List Char)) (text : List Char) :
    SpreadsIn (piece :: pieces) text
      ↔ ∃ gap rest, text = gap ++ (piece ++ rest) ∧ SpreadsIn pieces rest := by
  constructor
  · rintro ⟨front, behind, rfl, hspreads⟩
    cases hspreads with
    | @cons gap _ _ rest hrest =>
        exact ⟨gap, rest ++ behind, by simp, rest, behind, rfl, hrest⟩
  · rintro ⟨gap, rest, rfl, front, behind, rfl, hspreads⟩
    exact ⟨gap ++ (piece ++ front), behind, by simp, .cons gap piece hspreads⟩

/-- Of a piece, the first occurrence will do. -/
theorem spreadsIn_cons_iff_first (piece : List Char) (pieces : List (List Char))
    (text : List Char) :
    SpreadsIn (piece :: pieces) text
      ↔ ∃ rest, dropThrough? piece text = some rest ∧ SpreadsIn pieces rest := by
  rw [spreadsIn_cons_iff]
  constructor
  · rintro ⟨gap, rest, rfl, hspreads⟩
    obtain ⟨extra, hextra⟩ := dropThrough?_append gap piece rest
    exact ⟨_, hextra, hspreads.append extra⟩
  · rintro ⟨rest, hrest, hspreads⟩
    obtain ⟨gap, hgap⟩ := dropThrough?_eq_some hrest
    exact ⟨gap, rest, hgap, hspreads⟩

theorem spreadsIn_filter_iff (pieces : List (List Char)) (text : List Char) :
    SpreadsIn (pieces.filter fun piece => !piece.isEmpty) text ↔ SpreadsIn pieces text := by
  induction pieces generalizing text with
  | nil => rfl
  | cons piece pieces ih =>
      cases piece with
      | nil =>
          rw [List.filter_cons_of_neg (by simp), ih, spreadsIn_cons_iff]
          constructor
          · intro h
            exact ⟨[], text, rfl, h⟩
          · rintro ⟨gap, rest, rfl, h⟩
            exact h.append gap
      | cons c piece =>
          rw [List.filter_cons_of_pos (by simp), spreadsIn_cons_iff, spreadsIn_cons_iff]
          simp only [ih]

theorem spreads_concat_iff (middle : List (List Char)) (last text : List Char) :
    Spreads (middle ++ [last]) text
      ↔ ∃ body, text = body ++ last ∧ SpreadsIn middle body := by
  constructor
  · intro h
    induction middle generalizing text with
    | nil =>
        obtain ⟨body, rfl⟩ := (spreads_singleton_iff last text).mp h
        exact ⟨body, rfl, [], body, rfl, .nil⟩
    | cons piece middle ih =>
        cases h with
        | cons gap _ hrest =>
            obtain ⟨body, rfl, hbody⟩ := ih _ hrest
            refine ⟨gap ++ (piece ++ body), by simp, ?_⟩
            exact (spreadsIn_cons_iff _ _ _).mpr ⟨gap, body, rfl, hbody⟩
  · rintro ⟨body, rfl, front, behind, rfl, hspreads⟩
    induction hspreads with
    | nil => exact (spreads_singleton_iff _ _).mpr (List.suffix_append _ _)
    | cons gap piece _ ih =>
        have h := Spreads.cons gap piece ih
        simpa using h

/-! ## One segment -/

/-- Looking for pieces by their bytes stays in range and finds whether they
    follow one another in the text. -/
theorem findAll?_eq (pieces : List (List Char)) (text : List Char) :
    ∃ answer, findAll? pieces text = some answer ∧ (answer = true ↔ SpreadsIn pieces text) := by
  induction pieces generalizing text with
  | nil =>
      refine ⟨true, rfl, ?_⟩
      constructor
      · intro _
        exact ⟨[], text, rfl, .nil⟩
      · intro _
        rfl
  | cons piece pieces ih =>
      rw [findAll?, spreadsIn_cons_iff_first]
      rcases findByte?_spec piece text with ⟨hnone, hdrop⟩ | ⟨gap, rest, rfl, hsome, hdrop⟩
      · rw [hnone, hdrop]
        exact ⟨false, rfl, by simp⟩
      · obtain ⟨answer, hanswer, hiff⟩ := ih rest
        have hcut : splitAtByte? (byteLength gap + byteLength piece) (gap ++ (piece ++ rest))
            = some (gap ++ piece, rest) := by
          rw [← List.append_assoc, ← splitAtByte?_append (gap ++ piece) rest,
            Markup.byteLength_append]
        refine ⟨answer, ?_, ?_⟩
        · rw [hsome]
          dsimp only
          rw [hcut]
          exact hanswer
        · rw [hdrop, hiff]
          simp

/-- A segment with a star has a first and a last piece. -/
theorem splitOn_star {segment : List Char} (h : '*' ∈ segment) :
    ∃ first middle last, segment.splitOn '*' = first :: (middle ++ [last]) := by
  obtain ⟨front, behind, rfl⟩ := List.append_of_mem h
  rw [List.splitOn_append_cons_self]
  obtain ⟨first, pieces, hfirst⟩ := List.exists_cons_of_ne_nil (List.splitOn_ne_nil '*' front)
  rw [hfirst, List.cons_append]
  refine ⟨first, (pieces ++ behind.splitOn '*').dropLast,
    (pieces ++ behind.splitOn '*').getLast (by simp), ?_⟩
  rw [List.dropLast_concat_getLast]

/-- Cutting off the first and the last piece stays in range, and what is left in
    between decides. -/
theorem matchBetween?_eq (first : List Char) (middle : List (List Char)) (last text : List Char) :
    matchBetween? first middle last text
      = some (matchesPieces (first :: (middle ++ [last])) text) := by
  have hpieces := matchesPieces_cons_iff first (middle ++ [last]) text
  rw [matchBetween?]
  by_cases hstarts : first.isPrefixOf text = true
  · obtain ⟨remaining, rfl⟩ := List.isPrefixOf_iff_prefix.mp hstarts
    rw [if_pos hstarts, List.drop_left]
    simp only [List.append_cancel_left_eq, exists_eq_left', spreads_concat_iff] at hpieces
    dsimp only
    by_cases hsuffix : last.isSuffixOf remaining = true
    -- what is left ends with the last piece, so its length can be taken off
    · obtain ⟨body, rfl⟩ := List.isSuffixOf_iff_suffix.mp hsuffix
      have hlength := Markup.byteLength_append body last
      obtain ⟨answer, hanswer, hiff⟩ := findAll?_eq (middle.filter fun piece => !piece.isEmpty) body
      rw [if_neg (by omega), if_pos hsuffix, hlength, Nat.add_sub_cancel, splitAtByte?_append]
      dsimp only
      rw [hanswer]
      refine congrArg some (Bool.eq_iff_iff.mpr ?_)
      rw [hiff, hpieces, spreadsIn_filter_iff]
      simp
    · have hnone : matchesPieces (first :: (middle ++ [last])) (first ++ remaining) = false := by
        rw [← Bool.not_eq_true, hpieces]
        rintro ⟨body, rfl, -⟩
        exact hsuffix (List.isSuffixOf_iff_suffix.mpr (List.suffix_append _ _))
      rw [if_neg hsuffix, ite_self, hnone]
  · have hnone : matchesPieces (first :: (middle ++ [last])) text = false := by
      rw [← Bool.not_eq_true, hpieces]
      rintro ⟨rest, rfl, -⟩
      exact hstarts (List.isPrefixOf_iff_prefix.mpr (List.prefix_append _ _))
    rw [if_neg hstarts, hnone]

/-- Matching one segment by its bytes is matching it by its pieces. -/
theorem matchSegment?_eq (segment text : List Char) :
    matchSegment? segment text
      = some (matchesPieces (splitAtAll (· == '*') (lowerList segment)) (lowerList text)) := by
  rw [matchSegment?, splitAtAll_eq_splitOnP, ← List.splitOn_eq_splitOnP]
  by_cases hstar : segment = ['*']
  -- a star alone has two empty pieces, which spread over anything
  · subst hstar
    rw [if_pos rfl, show (lowerList ['*']).splitOn '*' = [[], []] from rfl]
    symm
    refine congrArg some ((matchesPieces_cons_iff _ _ _).mpr ⟨_, rfl, ?_⟩)
    exact (spreads_singleton_iff _ _).mpr List.nil_suffix
  · rw [if_neg hstar]
    dsimp only
    by_cases hmem : '*' ∈ lowerList segment
    · obtain ⟨first, middle, last, hsplit⟩ := splitOn_star hmem
      rw [if_pos hmem, hsplit, List.headD_cons, List.tail_cons, List.dropLast_concat,
        List.getLastD_concat, matchBetween?_eq]
    · rw [if_neg hmem, List.splitOn_eq_singleton hmem, matchesPieces]

/-! ## Lists of segments -/

theorem suffixes_eq_map_drop {α : Type} (path : List α) :
    suffixes path = (List.range (path.length + 1)).map path.drop := by
  induction path with
  | nil => rfl
  | cons text path ih =>
      rw [suffixes, ih, List.length_cons, List.range_succ_eq_map (n := path.length + 1),
        List.map_cons, List.map_map]
      rfl

/-- Ending the search at a final `**` changes no answer. -/
theorem matchSegments?_eq (segments path : List (List Char)) :
    matchSegments? segments path
      = some (matchesParts (segments.map parseSegment) (path.map lowerList)) := by
  induction segments generalizing path with
  | nil =>
      cases path with
      | nil => rfl
      | cons text path => rfl
  | cons segment segments ih =>
      rw [matchSegments?.eq_def, List.map_cons, parseSegment]
      dsimp only
      by_cases hdepth : segment = ['*', '*']
      · rw [if_pos hdepth, if_pos hdepth, matchesParts, suffixes_eq_map_drop, List.any_map,
          List.length_map]
        cases segments with
        | nil =>
            -- the end of the path that a final `**` leaves over is the empty one
            have hend : ((List.range (path.length + 1)).any
                ((fun rest => matchesParts ([].map parseSegment) rest)
                  ∘ (path.map lowerList).drop)) = true := by
              refine List.any_eq_true.mpr ⟨path.length, List.mem_range.mpr (Nat.lt_succ_self _), ?_⟩
              rw [Function.comp_apply, ← List.map_drop, List.drop_length]
              rfl
            rw [hend]
            rfl
        | cons next segments =>
            rw [List.isEmpty_cons, if_neg Bool.false_ne_true]
            simp only [ih, List.map_drop]
            exact List.anyM_pure
      · rw [if_neg hdepth, if_neg hdepth]
        cases path with
        | nil => rfl
        | cons text path =>
            dsimp only
            rw [matchSegment?_eq, List.map_cons, matchesParts]
            cases matchesPieces (splitAtAll (· == '*') (lowerList segment)) (lowerList text) with
            | false => rfl
            | true => exact ih path

/-! ## Whole patterns -/

/-- What follows the last slash is the last segment. -/
theorem exists_splitOn_eq_concat (cs : List Char) :
    ∃ front, cs.splitOn '/' = front ++ [afterLast (· == '/') cs] := by
  have htake : ∀ behind rest : List Char, '/' ∉ behind →
      (behind ++ rest).takeWhile (fun c => !(c == '/'))
        = behind ++ rest.takeWhile fun c => !(c == '/') := by
    intro behind rest hfree
    refine List.takeWhile_append_of_pos ?_
    intro c hc
    have hne : c ≠ '/' := fun he => hfree (he ▸ hc)
    simpa using hne
  by_cases hslash : '/' ∈ cs
  -- read backwards, the name ends at the first slash
  · obtain ⟨behind, front, hcut, hfree⟩ := List.eq_append_cons_of_mem (List.mem_reverse.mpr hslash)
    have hcs : cs = front.reverse ++ '/' :: behind.reverse := by
      rw [← List.reverse_reverse cs, hcut]
      simp
    have hlast : afterLast (· == '/') cs = behind.reverse := by
      rw [afterLast, hcut, htake behind _ hfree]
      simp
    refine ⟨front.reverse.splitOn '/', ?_⟩
    rw [hlast, hcs, List.splitOn_append_cons_self,
      List.splitOn_eq_singleton (show '/' ∉ behind.reverse by simpa using hfree)]
  · have hlast : afterLast (· == '/') cs = cs := by
      have hall := htake cs.reverse [] (by simpa using hslash)
      rw [List.append_nil] at hall
      rw [afterLast, hall]
      simp
    exact ⟨[], by rw [hlast, List.splitOn_eq_singleton hslash, List.nil_append]⟩

/-- Looking at the last segment of a path only is looking at any depth. -/
theorem matchesParts_anyDepth (segment : List Char) (front : List (List Char))
    (name : List Char) :
    matchesParts [.anyDepth, parseSegment segment] (front ++ [name])
      = matchesPieces (splitAtAll (· == '*') (lowerList segment)) name := by
  rw [Bool.eq_iff_iff, matchesParts, List.any_eq_true]
  simp only [mem_suffixes_iff]
  by_cases hdepth : segment = ['*', '*']
  · subst hdepth
    rw [show splitAtAll (· == '*') (lowerList ['*', '*']) = [[], [], []] from rfl]
    constructor
    · intro _
      refine (matchesPieces_cons_iff _ _ _).mpr ⟨name, rfl, ?_⟩
      exact .cons [] [] ((spreads_singleton_iff _ _).mpr List.nil_suffix)
    · intro _
      exact ⟨[], List.nil_suffix, rfl⟩
  · rw [parseSegment, if_neg hdepth]
    constructor
    · rintro ⟨rest, ⟨skipped, hskipped⟩, hmatch⟩
      cases rest with
      | nil => exact absurd hmatch Bool.false_ne_true
      | cons text rest =>
          rw [matchesParts, Bool.and_eq_true, matchesParts, decide_eq_true_iff] at hmatch
          obtain ⟨htext, rfl⟩ := hmatch
          obtain ⟨-, hname⟩ := List.append_inj' hskipped rfl
          rwa [← (List.cons.inj hname).1]
    · intro h
      refine ⟨[name], List.suffix_append _ _, ?_⟩
      rw [matchesParts, h]
      rfl

/-- A pattern matches the paths whose segments its own segments stand for; the
    shortcuts give the same answer, and no offset in them is out of range. -/
theorem matches_iff_inLanguage (pattern path : String) :
    ((parse pattern).matches path = true
        ↔ pattern ≠ "" ∧ InLanguage (patternSegments pattern) (segmentsOf path))
      ∧ matchPath? pattern path = some ((parse pattern).matches path) := by
  refine ⟨matches_eq_true_iff pattern path, ?_⟩
  rw [matchPath?]
  by_cases hempty : pattern = ""
  · rw [if_pos hempty, hempty]
    rfl
  · rw [if_neg hempty, parse_eq_segments hempty, PathPattern.matches, splitAtAll_isSlash,
      patternSegments]
    dsimp only
    by_cases hslash : '/' ∈ withSlashes pattern.toList
    · rw [if_pos hslash, if_pos hslash, matchSegments?_eq, segmentsOf]
    · obtain ⟨front, hfront⟩ := exists_splitOn_eq_concat (withSlashes path.toList)
      rw [if_neg hslash, if_neg hslash, (segmentsOf_eq_singleton_iff _ _).mpr ⟨hslash, rfl⟩,
        matchSegment?_eq, hfront, List.map_append]
      exact congrArg some (matchesParts_anyDepth _ _ _).symm

end IconCompiler.PathPattern
