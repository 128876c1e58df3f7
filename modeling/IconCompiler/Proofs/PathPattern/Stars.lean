import IconCompiler.Proofs.PathPattern.Language
import IconCompiler.Proofs.Text.LowerForm

/-! # Stars for parts of a file name

    A star stands for any stretch, so a pattern made from a file name by putting
    stars for parts of it should match the name.  But the name and the pattern are
    lower-cased as a whole each, and a star ends a word: a capital sigma that is
    the last letter in front of a star is written as at the end of a word, although
    in the name the word may go on.  The pattern matches if that happens to none of
    the pieces between the stars (`AllSteady`), and with one star only then
    (`star_for_any_part`). -/

namespace IconCompiler.PathPattern

open Text

/-! ## Filling in stars -/

/-- A text comes from a segment of a pattern by filling in its stars. -/
inductive Fills : List Char → List Char → Prop
  | nil : Fills [] []
  | char (c : Char) {segment text : List Char} :
      Fills segment text → Fills (c :: segment) (c :: text)
  | star (gap : List Char) {segment text : List Char} :
      Fills segment text → Fills ('*' :: segment) (gap ++ text)

theorem fills_self (cs : List Char) : Fills cs cs := by
  induction cs with
  | nil => exact .nil
  | cons c rest ih => exact .char c ih

theorem Fills.append {segment text more behind : List Char} (h : Fills segment text)
    (hmore : Fills more behind) : Fills (segment ++ more) (text ++ behind) := by
  induction h with
  | nil => exact hmore
  | char c _ ih => exact .char c ih
  | star gap _ ih =>
      rw [List.append_assoc]
      exact .star gap ih

/-- A text that fills the stars of a segment consists of the pieces between them with
    any stretches in between. -/
theorem Fills.exists_pieces {segment text : List Char} (h : Fills segment text) :
    ∃ (first : List Char) (more : List (List Char × List Char)),
      (∀ piece ∈ first :: more.map Prod.snd, '*' ∉ piece)
        ∧ segment = ['*'].intercalate (first :: more.map Prod.snd)
        ∧ text = first ++ more.flatMap fun part => part.1 ++ part.2 := by
  have hstar : ∀ (gap : List Char) {segment text : List Char},
      (∃ (first : List Char) (more : List (List Char × List Char)),
        (∀ piece ∈ first :: more.map Prod.snd, '*' ∉ piece)
          ∧ segment = ['*'].intercalate (first :: more.map Prod.snd)
          ∧ text = first ++ more.flatMap fun part => part.1 ++ part.2) →
      ∃ (first : List Char) (more : List (List Char × List Char)),
        (∀ piece ∈ first :: more.map Prod.snd, '*' ∉ piece)
          ∧ '*' :: segment = ['*'].intercalate (first :: more.map Prod.snd)
          ∧ gap ++ text = first ++ more.flatMap fun part => part.1 ++ part.2 := by
    rintro gap _ _ ⟨first, more, hfree, rfl, rfl⟩
    refine ⟨[], (gap, first) :: more, ?_, ?_, ?_⟩
    · rw [List.map_cons, List.forall_mem_cons]
      exact ⟨List.not_mem_nil, hfree⟩
    · rw [List.map_cons, List.intercalate_cons_cons]
      rfl
    · rw [List.flatMap_cons, List.append_assoc]
      rfl
  induction h with
  | nil => exact ⟨[], [], by simp, rfl, rfl⟩
  | @char c segment text _ ih =>
      by_cases hc : c = '*'
      -- a star may also be filled in by itself
      · rw [hc]
        exact hstar ['*'] ih
      · obtain ⟨first, more, hfree, rfl, rfl⟩ := ih
        rw [List.forall_mem_cons] at hfree
        refine ⟨c :: first, more, ?_, ?_, rfl⟩
        · rw [List.forall_mem_cons, List.mem_cons, not_or]
          exact ⟨⟨Ne.symm hc, hfree.1⟩, hfree.2⟩
        · cases more.map Prod.snd with
          | nil => rw [List.intercalate_singleton, List.intercalate_singleton]
          | cons next pieces =>
              rw [List.intercalate_cons_cons, List.intercalate_cons_cons]
              rfl
  | star gap _ ih => exact hstar gap ih

theorem Fills.stands {segment text : List Char} (h : Fills (lowerList segment) (lowerList text)) :
    Stands segment text :=
  h.exists_pieces

/-! ## Patterns for file names -/

theorem segmentsOf_eq (s : String) : segmentsOf s = splitAtAll isSlash s.toList :=
  (splitAtAll_isSlash s.toList).symm

theorem segmentsOf_fileName {name : String} (h : ∀ c ∈ name.toList, isSlash c = false) :
    segmentsOf name = [name.toList] := by
  rw [segmentsOf_eq, splitAtAll_of_not_mem h]

theorem segmentsOf_inDirectory (directory : String) {name : String}
    (h : ∀ c ∈ name.toList, isSlash c = false) :
    segmentsOf (directory ++ "/" ++ name) = segmentsOf directory ++ [name.toList] := by
  have hcut : splitAtAll isSlash (directory ++ "/" ++ name).toList
      = splitAtAll isSlash directory.toList ++ splitAtAll isSlash name.toList := by
    rw [String.toList_append, String.toList_append, List.append_assoc]
    exact splitAtAll_append rfl _ _
  rw [segmentsOf_eq, hcut, splitAtAll_of_not_mem h, segmentsOf_eq]

/-- A pattern without slashes is a matter of the last segment of a path. -/
theorem matches_fileName_iff {pattern path : String} (front : List (List Char))
    {name : List Char} (hne : pattern ≠ "") (hpattern : ∀ c ∈ pattern.toList, isSlash c = false)
    (hpath : segmentsOf path = front ++ [name]) :
    (parse pattern).matches path = true ↔ Stands pattern.toList name := by
  have hsegments := segmentsOf_fileName hpattern
  have hslash := ((segmentsOf_eq_singleton_iff _ _).mp hsegments).1
  rw [matches_eq_true_iff, and_iff_right hne, patternSegments, if_neg hslash, hsegments, hpath,
    inLanguage_depth_iff]
  by_cases hdepth : pattern.toList = ['*', '*']
  -- as a file name, two stars stand for anything like one
  · rw [hdepth]
    refine iff_of_true ⟨front, [name], rfl, .depth [name] .nil⟩ (Fills.stands ?_)
    have hstars := Fills.star (lowerList name) (Fills.star [] .nil)
    rwa [List.append_nil, List.append_nil] at hstars
  constructor
  · rintro ⟨skipped, rest, hcut, hrest⟩
    obtain ⟨text, more, rfl, hstands, hmore⟩ := (inLanguage_name_iff hdepth _ _).mp hrest
    cases hmore
    obtain ⟨-, hlast⟩ := List.append_inj' hcut rfl
    rw [(List.cons.inj hlast).1]
    exact hstands
  · intro hstands
    exact ⟨front, [name], rfl, .name hdepth hstands .nil⟩

/-! ## Pieces of a file name -/

/-- A text, given by its first piece and, for each further piece, the part in front
    of it and the piece. -/
def written (first : List Char) (parts : List (List Char × List Char)) : List Char :=
  first ++ parts.flatMap fun part => part.1 ++ part.2

/-- The text with a star in place of each part. -/
def starred (first : List Char) (parts : List (List Char × List Char)) : List Char :=
  first ++ parts.flatMap fun part => '*' :: part.2

/-- The capital sigmas of a piece end a word between `front` and `behind` exactly if
    they do in the piece alone. -/
def IsSteady (front piece behind : List Char) : Prop :=
  ∀ before rest, piece = before ++ 'Σ' :: rest →
    endsWord (front ++ before) (rest ++ behind) = endsWord before rest

/-- All pieces of a text are steady where they stand, behind `front`. -/
def AllSteady (front first : List Char) : List (List Char × List Char) → Prop
  | [] => IsSteady front first []
  | (gap, piece) :: parts =>
    IsSteady front first (gap ++ written piece parts)
      ∧ AllSteady (front ++ (first ++ gap)) piece parts

/-- A steady piece is lower-cased as it is by itself, and no other piece is. -/
theorem isSteady_iff (front piece behind : List Char) :
    IsSteady front piece behind
      ↔ lowerWithin (front.foldl endsCased false) behind piece = lowerList piece := by
  rw [lowerList_eq_lowerWithin, lowerWithin_eq_iff]
  simp only [IsSteady, endsWord, List.foldl_append, List.append_nil]

theorem written_cons (first gap piece : List Char) (parts : List (List Char × List Char)) :
    written first ((gap, piece) :: parts) = first ++ (gap ++ written piece parts) := by
  rw [written, written, List.flatMap_cons, List.append_assoc]

theorem starred_cons (first gap piece : List Char) (parts : List (List Char × List Char)) :
    starred first ((gap, piece) :: parts) = first ++ '*' :: starred piece parts := by
  rw [starred, starred, List.flatMap_cons]
  rfl

/-- Where all pieces are steady, the stars of the pattern can be filled in. -/
theorem AllSteady.fills {front first : List Char} {parts : List (List Char × List Char)}
    (h : AllSteady front first parts) :
    Fills (lowerList (starred first parts))
      (lowerFrom (front.foldl endsCased false) (written first parts)) := by
  induction parts generalizing front first with
  | nil =>
      have hfirst := (isSteady_iff _ _ _).mp h
      rw [starred, written, List.flatMap_nil, List.flatMap_nil, List.append_nil,
        lowerFrom_eq_lowerWithin, hfirst]
      exact fills_self _
  | cons part parts ih =>
      obtain ⟨gap, piece⟩ := part
      have hfirst := (isSteady_iff _ _ _).mp h.1
      have hrest := ih h.2
      rw [List.foldl_append, List.foldl_append] at hrest
      rw [starred_cons, written_cons, isSeparator_star.lowerList_append_cons,
        lowerFrom_append, hfirst, lowerFrom_append]
      exact (fills_self _).append (.star _ hrest)

theorem mem_starred {first : List Char} {parts : List (List Char × List Char)} {c : Char}
    (h : c ∈ starred first parts) : c = '*' ∨ c ∈ written first parts := by
  rw [starred, List.mem_append, List.mem_flatMap] at h
  rw [written, List.mem_append, List.mem_flatMap]
  rcases h with hfirst | ⟨part, hpart, hc⟩
  · exact .inr (.inl hfirst)
  · rcases List.mem_cons.mp hc with hstar | hpiece
    · exact .inl hstar
    · exact .inr (.inr ⟨part, hpart, List.mem_append_right _ hpiece⟩)

/-- A star between two pieces without stars stands for what is between them if both
    pieces are steady, and only then. -/
theorem stands_star_iff {first last : List Char} (hfirst : '*' ∉ first) (hlast : '*' ∉ last)
    (gap : List Char) :
    Stands (first ++ '*' :: last) (first ++ (gap ++ last))
      ↔ IsSteady [] first (gap ++ last) ∧ IsSteady (first ++ gap) last [] := by
  have hcut : splitAtAll (· == '*') (lowerList (first ++ '*' :: last))
      = [lowerList first, lowerList last] := by
    have hfree : ∀ {cs : List Char}, '*' ∉ cs → ∀ c ∈ cs, (c == '*') = false :=
      fun hcs c hc => beq_eq_false_iff_ne.mpr fun hstar => hcs (hstar ▸ hc)
    have hstar : ∀ c, (c == '*') = true → IsSeparator c :=
      fun c hc => beq_iff_eq.mp hc ▸ isSeparator_star
    rw [splitAtAll_lowerList hstar, splitAtAll_append rfl, splitAtAll_of_not_mem (hfree hfirst),
      splitAtAll_of_not_mem (hfree hlast)]
    rfl
  have htext : lowerList (first ++ (gap ++ last))
      = lowerWithin false (gap ++ last) first
        ++ (lowerWithin (first.foldl endsCased false) last gap
          ++ lowerWithin ((first ++ gap).foldl endsCased false) [] last) := by
    rw [lowerList, lowerFrom_append, lowerFrom_append, lowerFrom_eq_lowerWithin,
      List.foldl_append]
  rw [stands_iff, hcut, matchesPieces_cons_iff, htext, isSteady_iff, isSteady_iff]
  simp only [spreads_singleton_iff]
  constructor
  · rintro ⟨rest, hwhole, front, hrest⟩
    -- in every context a piece is lower-cased to a text of the same length
    obtain ⟨hsame, hbehind⟩ := List.append_inj hwhole
      ((length_lowerWithin _ _ _ _ _).trans (congrArg _ (lowerList_eq_lowerWithin first)).symm)
    rw [← hbehind] at hrest
    obtain ⟨-, hend⟩ := List.append_inj' hrest
      ((congrArg _ (lowerList_eq_lowerWithin last)).trans (length_lowerWithin _ _ _ _ _))
    exact ⟨hsame, hend.symm⟩
  · rintro ⟨hsame, hend⟩
    rw [List.foldl_nil] at hsame
    rw [hsame, hend]
    exact ⟨_, rfl, _, rfl⟩

/-- A file name matches the pattern that has stars for any parts of it if the pieces
    left of the name are steady, and with one star, between two pieces that hold
    none, only then.  The directory in front of the name makes no difference. -/
theorem star_for_any_part (first : List Char) (parts : List (List Char × List Char))
    (hne : starred first parts ≠ []) (hslash : ∀ c ∈ written first parts, isSlash c = false) :
    (AllSteady [] first parts → (parse (String.ofList (starred first parts))).matches
        (String.ofList (written first parts)) = true)
      ∧ (∀ directory : String, (parse (String.ofList (starred first parts))).matches
          (directory ++ "/" ++ String.ofList (written first parts))
        = (parse (String.ofList (starred first parts))).matches
          (String.ofList (written first parts)))
      ∧ ∀ u v w : String, first = u.toList → parts = [(v.toList, w.toList)] →
        '*' ∉ (u ++ w).toList →
        ((parse (u ++ "*" ++ w)).matches (u ++ v ++ w) = true
          ↔ IsSteady [] u.toList (v ++ w).toList ∧ IsSteady (u ++ v).toList w.toList []) := by
  have hpattern : String.ofList (starred first parts) ≠ "" := by
    rw [Ne, ← String.toList_inj, String.toList_ofList]
    exact hne
  have hfree : ∀ c ∈ (String.ofList (starred first parts)).toList, isSlash c = false := by
    intro c hc
    rw [String.toList_ofList] at hc
    rcases mem_starred hc with rfl | hwritten
    · rfl
    · exact hslash c hwritten
  have htext : ∀ c ∈ (String.ofList (written first parts)).toList, isSlash c = false := by
    rw [String.toList_ofList]
    exact hslash
  have hname := matches_fileName_iff [] hpattern hfree (segmentsOf_fileName htext)
  refine ⟨?_, ?_, ?_⟩
  · intro hsteady
    rw [hname, String.toList_ofList, String.toList_ofList]
    exact hsteady.fills.stands
  · intro directory
    rw [Bool.eq_iff_iff, hname]
    exact matches_fileName_iff _ hpattern hfree (segmentsOf_inDirectory directory htext)
  · rintro u v w rfl rfl hstar
    have hstarred : String.ofList (starred u.toList [(v.toList, w.toList)]) = u ++ "*" ++ w := by
      rw [← String.toList_inj]
      simp [starred]
    have hwritten : String.ofList (written u.toList [(v.toList, w.toList)]) = u ++ v ++ w := by
      rw [← String.toList_inj]
      simp [written]
    rw [hstarred, hwritten] at hname
    simp only [String.toList_append, List.mem_append, not_or, List.append_assoc] at hname hstar ⊢
    rw [hname]
    exact stands_star_iff hstar.1 hstar.2 v.toList

/-- The sigma in front of the star ends a word in the name too, and so does the last
    one; with a letter behind the first sigma the name would go on there. -/
theorem star_for_any_part_sigma :
    (parse "ΟΔΟΣ*ΑΣ").matches "ΟΔΟΣ-x-ΑΣ" = true
      ∧ (∀ directory : String, (parse "ΟΔΟΣ*ΑΣ").matches (directory ++ "/" ++ "ΟΔΟΣ-x-ΑΣ") = true)
      ∧ (parse "ΟΔΟΣ*ΑΣ").matches "ΟΔΟΣx-ΑΣ" = false := by
  have hsteady : AllSteady [] "ΟΔΟΣ".toList [("-x-".toList, "ΑΣ".toList)] := by
    refine ⟨(isSteady_iff _ _ _).mpr ?_, (isSteady_iff _ _ _).mpr ?_⟩ <;> decide +kernel
  obtain ⟨hmatches, hdirectory, -⟩ := star_for_any_part "ΟΔΟΣ".toList
    [("-x-".toList, "ΑΣ".toList)] (by decide) (eq_false_of_any (by decide +kernel))
  obtain ⟨-, -, hexact⟩ := star_for_any_part "ΟΔΟΣ".toList
    [("x-".toList, "ΑΣ".toList)] (by decide) (eq_false_of_any (by decide +kernel))
  refine ⟨hmatches hsteady, fun directory => (hdirectory directory).trans (hmatches hsteady), ?_⟩
  rw [← Bool.not_eq_true]
  intro hfound
  have hletter := (hexact "ΟΔΟΣ" "x-" "ΑΣ" rfl rfl (by decide +kernel)).mp hfound
  exact absurd ((isSteady_iff _ _ _).mp hletter.1) (by decide +kernel)

/-- A star does not stand for a letter that goes on a word behind a capital sigma. -/
theorem star_behind_sigma :
    (∀ c ∈ ("aΣ" ++ "b" ++ "").toList, isSlash c = false)
      ∧ (parse ("aΣ" ++ "*" ++ "")).matches ("aΣ" ++ "b" ++ "") = false
      ∧ (parse ("aΣ" ++ "*" ++ "")).matches ("icons" ++ "/" ++ "aΣ" ++ "b" ++ "") = false :=
  ⟨eq_false_of_any (by decide +kernel), by decide +kernel, by decide +kernel⟩

end IconCompiler.PathPattern
