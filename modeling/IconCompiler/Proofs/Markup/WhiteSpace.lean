import IconCompiler.Proofs.Markup.Tags

/-! # White space in attribute values

    A reader that normalizes attribute values puts a blank in place of raw white
    space, but takes white space that is referred to as it is.  So a value keeps
    its line breaks and tabs inside an icon, where they are written as references;
    in the tag of a standalone icon they are written raw, and there the value is
    the same only if it has none (`written_alike_iff`). -/

namespace IconCompiler.Markup

open Reference

/-- What a normalized value has in place of a raw character. -/
def blankFor (c : Char) : Char :=
  if isSpace c then ' ' else c

/-- The value of an attribute for a reader that normalizes it: raw white space becomes
    blanks, then references are replaced. -/
def normalizedValue (raw : List Char) : Except ReferenceFault (List Char) :=
  Reference.replace (raw.map blankFor)

/-- The text of an attribute with this key, and the value that is read for it. -/
def ReadsAs (key text : String) (value : List Char) : Prop :=
  ∃ raw, text.toList = ' ' :: (key.toList ++ '=' :: '"' :: (raw ++ ['"'])) ∧ '"' ∉ raw
    ∧ normalizedValue raw = .ok value

/-- A value without white space other than blanks. -/
def HasOnlyBlanks (value : String) : Prop :=
  ∀ c ∈ value.toList, c ≠ '\n' ∧ c ≠ '\r' ∧ c ≠ '\t'

/-! ## Normalized values -/

theorem blankFor_eq_self_iff (c : Char) : blankFor c = c ↔ c ≠ '\n' ∧ c ≠ '\r' ∧ c ≠ '\t' := by
  rw [blankFor]
  by_cases hspace : isSpace c = true
  · rw [if_pos hspace]
    constructor
    · rintro rfl
      decide
    · rintro ⟨hline, hreturn, htab⟩
      rw [isSpace, beq_eq_false_iff_ne.mpr htab, beq_eq_false_iff_ne.mpr hreturn,
        beq_eq_false_iff_ne.mpr hline, Bool.or_false, Bool.or_false, Bool.or_false] at hspace
      exact (beq_iff_eq.mp hspace).symm
  · rw [if_neg hspace]
    refine iff_of_true rfl ⟨?_, ?_, ?_⟩ <;> rintro rfl <;> exact hspace rfl

theorem map_blankFor_eq_self_iff (value : String) :
    value.toList.map blankFor = value.toList ↔ HasOnlyBlanks value := by
  have hid : value.toList.map blankFor = value.toList
      ↔ value.toList.map blankFor = value.toList.map id := by rw [List.map_id]
  rw [hid, List.map_inj_left]
  exact forall_congr' fun c => imp_congr_right fun _ => blankFor_eq_self_iff c

section

variable {escape : Char → List Char} (hescape : IsEscape escape) {shown : Char → Char}
  (hshown : ∀ c, (escape c).map blankFor = escape (shown c))
include hescape hshown

/-- If white space in an escaped character is only that of a character shown in its
    place, a value is read as what is shown. -/
theorem normalizedValue_flatMap (value : List Char) :
    normalizedValue (value.flatMap escape) = .ok (value.map shown) := by
  have hraw : (value.flatMap escape).map blankFor = (value.map shown).flatMap escape := by
    rw [List.map_flatMap, List.flatMap_map]
    exact congrArg (value.flatMap ·) (funext hshown)
  rw [normalizedValue, hraw, replace_eq_ok_iff]
  exact hescape.denotes_value _

theorem readsAs_iff {key text value : String} (htext : text.toList = writtenPair escape (key, value))
    (read : List Char) : ReadsAs key text read ↔ read = value.toList.map shown := by
  constructor
  · rintro ⟨raw, hraw, -, hread⟩
    rw [htext, writtenPair] at hraw
    have hsame : value.toList.flatMap escape = raw := by simpa using hraw
    rw [← hsame, normalizedValue_flatMap hescape hshown] at hread
    exact (Except.ok.inj hread).symm
  · rintro rfl
    exact ⟨_, htext, hescape.no_quote_value _, normalizedValue_flatMap hescape hshown _⟩

end

/-! ## Both ways to escape -/

/-- In the tag of a standalone icon a character is written as it is, or without white
    space. -/
theorem escapeChar_icon_cases (c : Char) :
    SvgIcon.escapeChar c = [c]
      ∨ isSpace c = false ∧ (SvgIcon.escapeChar c).map blankFor = SvgIcon.escapeChar c := by
  by_cases hspecial : c = '&' ∨ c = '<' ∨ c = '>' ∨ c = '"'
  · refine .inr ?_
    rcases hspecial with rfl | rfl | rfl | rfl <;> decide
  · rw [not_or, not_or, not_or] at hspecial
    obtain ⟨hamp, hlt, hgt, hquot⟩ := hspecial
    refine .inl ?_
    rw [SvgIcon.escapeChar, if_neg hamp, if_neg hlt, if_neg hgt, if_neg hquot]

/-- So its white space becomes blanks. -/
theorem map_blankFor_icon (c : Char) :
    (SvgIcon.escapeChar c).map blankFor = SvgIcon.escapeChar (blankFor c) := by
  rcases escapeChar_icon_cases c with hsame | ⟨hspace, hkept⟩
  · rw [hsame, List.map_singleton]
    by_cases hspace : isSpace c = true
    · rw [blankFor, if_pos hspace]
      rfl
    · rw [blankFor, if_neg hspace, hsame]
  · rw [hkept, blankFor, hspace, if_neg Bool.false_ne_true]

/-- Inside an icon no white space but blanks is written for a value. -/
theorem map_blankFor_markup (c : Char) : (escapeChar c).map blankFor = escapeChar c := by
  by_cases hblank : blankFor c = c
  · rcases escapeChar_cases c with rfl | rfl | rfl | hsame
    · decide
    · decide
    · decide
    · rw [hsame, map_blankFor_icon, hblank]
  · rw [blankFor_eq_self_iff] at hblank
    by_cases hline : c = '\n'
    · exact hline ▸ by decide
    by_cases hreturn : c = '\r'
    · exact hreturn ▸ by decide
    by_cases htab : c = '\t'
    · exact htab ▸ by decide
    exact absurd ⟨hline, hreturn, htab⟩ hblank

theorem renderAttribute_eq_of_hasOnlyBlanks {value : String} (h : HasOnlyBlanks value)
    (key : String) : SvgIcon.renderAttribute (key, value) = renderAttribute (key, value) := by
  have hescape : value.toList.flatMap SvgIcon.escapeChar = value.toList.flatMap escapeChar := by
    rw [List.flatMap_def, List.flatMap_def]
    refine congrArg List.flatten (List.map_congr_left fun c hc => ?_)
    obtain ⟨hline, hreturn, htab⟩ := h c hc
    rcases escapeChar_cases c with he | he | he | hsame
    · exact absurd he hline
    · exact absurd he hreturn
    · exact absurd he htab
    · exact hsame.symm
  rw [SvgIcon.renderAttribute, renderAttribute, escapeValue, hescape]

/-- An attribute is written alike in the tag of a standalone icon and inside an icon
    exactly if its value has no white space but blanks.  Inside an icon a reader that
    normalizes values always reads the value; in the tag it reads the one with
    blanks in place of white space. -/
theorem written_alike_iff (key value : String) :
    (SvgIcon.renderAttribute (key, value) = renderAttribute (key, value) ↔ HasOnlyBlanks value)
      ∧ (∀ read, ReadsAs key (renderAttribute (key, value)) read ↔ read = value.toList)
      ∧ (∀ read, ReadsAs key (SvgIcon.renderAttribute (key, value)) read
        ↔ read = value.toList.map blankFor)
      ∧ (ReadsAs key (SvgIcon.renderAttribute (key, value)) value.toList
        ↔ HasOnlyBlanks value) := by
  have hinside : ∀ read, ReadsAs key (renderAttribute (key, value)) read
      ↔ read = value.toList := by
    intro read
    have hkept : ∀ c, (escapeChar c).map blankFor = escapeChar (id c) := map_blankFor_markup
    rw [readsAs_iff isEscape_markup hkept (toList_renderAttribute _), List.map_id]
  have htag := readsAs_iff isEscape_icon map_blankFor_icon
    (toList_renderAttribute_icon (key, value))
  have hsame : ReadsAs key (SvgIcon.renderAttribute (key, value)) value.toList
      ↔ HasOnlyBlanks value := by
    rw [htag, eq_comm, map_blankFor_eq_self_iff]
  refine ⟨⟨?_, fun h => renderAttribute_eq_of_hasOnlyBlanks h key⟩, hinside, htag, hsame⟩
  -- what is written alike is read alike
  intro halike
  rw [← hsame, halike, hinside]

/-- A line break in an attribute of the root is lost on a reader that normalizes
    values, while one inside the icon is not. -/
theorem line_break_lost :
    SvgIcon.renderAttribute ("d", "a\nb") = " d=\"a\nb\""
      ∧ renderAttribute ("d", "a\nb") = " d=\"a&#xA;b\""
      ∧ ReadsAs "d" " d=\"a\nb\"" "a b".toList
      ∧ ¬ ReadsAs "d" " d=\"a\nb\"" "a\nb".toList := by
  have htag := readsAs_iff isEscape_icon map_blankFor_icon
    (toList_renderAttribute_icon ("d", "a\nb"))
  have hwritten : SvgIcon.renderAttribute ("d", "a\nb") = " d=\"a\nb\"" := by decide +kernel
  rw [hwritten] at htag
  exact ⟨hwritten, by decide +kernel, (htag _).mpr (by decide), fun h =>
    absurd ((htag _).mp h) (by decide)⟩

end IconCompiler.Markup
