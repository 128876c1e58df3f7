import IconCompiler.Proofs.Markup.OpenElements
import Mathlib.Control.Monad.Basic

/-! # Where an error is reported

    A document that is refused for what one of its events shows is refused at the
    first byte of that event, as long as bytes are counted from where the reading
    begins.  Byte order marks in front of the document are skipped before that, and
    their bytes are missing from the count: so the place is the one in the document
    itself exactly if there are none (`error_at_event_iff`). -/

namespace IconCompiler.Markup

/-! ## Places between events -/

/-- An event that opens an element for other events. -/
def Event.isStart : Event → Bool
  | .start _ => true
  | _ => false

/-- A place behind as many closing tags as start tags is outside of all elements. -/
def Outside (before : List Event) : Prop :=
  before.countP Event.isStart = before.count .close

/-- A place behind an element, or inside one. -/
def ElementBefore (before : List Event) : Prop :=
  ∃ event ∈ before, event.tag?.isSome = true

/-- The reader has the names open that were opened and not closed again. -/
theorem Reads.length_openNames {before after : Progress} {cs rest : List Char}
    {events : List Event} (h : Reads before cs events after rest) :
    after.openNames.length + events.count .close
      = before.openNames.length + events.countP Event.isStart := by
  induction h with
  | stop => rfl
  | @step before middle after _ _ _ _ event events _ hevent _ _ ih =>
      have hnests := Event.nests_of_ofLexeme hevent
      cases event with
      | start tag =>
          have hnames : middle.openNames.length = before.openNames.length + 1 :=
            congrArg List.length hnests
          rw [List.count_cons_of_ne (by simp), List.countP_cons_of_pos rfl, ih, hnames]
          omega
      | close =>
          obtain ⟨name, hnames⟩ := hnests
          rw [List.count_cons_self, List.countP_cons_of_neg (by simp [Event.isStart]), hnames,
            List.length_cons]
          omega
      | empty | text | comment | cdata | ignored =>
          rw [List.count_cons_of_ne (by simp), List.countP_cons_of_neg (by simp [Event.isStart]),
            ih, hnests]

theorem Reads.foldlM_step {before after : Progress} {cs rest : List Char}
    {events : List Event} (h : Reads before cs events after rest) :
    events.foldlM Builder.step before.builder = .ok after.builder := by
  induction h with
  | stop => rfl
  | step _ _ hstep _ ih => exact foldlM_cons_eq_ok_iff.mpr ⟨_, hstep, ih⟩

/-- Where an element is open or complete there is the tag that opened it. -/
theorem Builder.elementBefore_of_foldlM {builder : Builder} {events : List Event}
    (h : events.foldlM Builder.step .start = .ok builder) :
    builder.openFrames ≠ [] ∨ builder.root.isSome = true → ElementBefore events := by
  refine foldlM_step_induction (P := fun found seen =>
    found.openFrames ≠ [] ∨ found.root.isSome = true → ElementBefore seen) ?_ ?_ h
  · rintro (hopen | hroot)
    · exact absurd rfl hopen
    · exact absurd hroot Bool.false_ne_true
  · intro before after seen event ih hmoves hfound
    have hseen : ElementBefore seen → ElementBefore (seen ++ [event]) :=
      fun ⟨earlier, hmem, htag⟩ => ⟨earlier, List.mem_append_left _ hmem, htag⟩
    have hlast : event ∈ seen ++ [event] := List.mem_append_right seen List.mem_cons_self
    cases hmoves with
    | enter => exact ⟨_, hlast, rfl⟩
    | pass => exact ⟨_, hlast, rfl⟩
    | leave hleave =>
        refine hseen (ih (.inl ?_))
        rcases leave_eq_ok hleave with ⟨root, hopen, -⟩ | ⟨inner, outer, rest, hopen, -⟩
        · rw [hopen]
          exact List.cons_ne_nil _ _
        · rw [hopen]
          exact List.cons_ne_nil _ _
    | leaf => exact hseen (ih (.inl (List.cons_ne_nil _ _)))
    | stay => exact hseen (ih hfound)

/-! ## The event that is refused -/

namespace Refusal

variable {document : List Char}

/-- Outside of all elements as many have been closed as opened. -/
theorem outside (refusal : Refusal ⟨[], .start⟩ document)
    (hopen : refusal.progress.builder.openFrames = []) : Outside refusal.before := by
  have hlength := refusal.reads.length_openNames
  rw [refusal.openNames_eq_nil hopen] at hlength
  simpa [Outside, eq_comm] using hlength

/-- The event shows what is wrong, seen from the events in front of it. -/
theorem offends (refusal : Refusal ⟨[], .start⟩ document) :
    refusal.event.Offends (Outside refusal.before) (ElementBefore refusal.before) refusal.cause :=
  (Builder.offends_of_step refusal.refused).mono refusal.outside fun _ hroot =>
    Builder.elementBefore_of_foldlM refusal.reads.foldlM_step (.inr hroot)

/-- The event is text, or it begins at a bracket. -/
theorem text_or_bracket {start : Progress} (refusal : Refusal start document) :
    refusal.event = .text refusal.lexeme.source ∨ refusal.lexeme.source.head? = some '<' := by
  have hmeans := refusal.means
  cases hlexeme : refusal.lexeme with
  | text raw =>
      rw [hlexeme] at hmeans
      exact .inl (Prod.mk.inj (Except.ok.inj hmeans)).1.symm
  | tag | comment | cdata | doctype | instruction => exact .inr rfl

end Refusal

/-! ## Whole documents -/

/-- The byte order marks in front of a document. -/
def marks (document : String) : List Char :=
  document.toList.takeWhile (· == '\uFEFF')

theorem marks_append_withoutMarks (document : String) :
    marks document ++ withoutMarks document = document.toList :=
  List.takeWhile_append_dropWhile

theorem parseRoot_of_readContent {document : String} {error : Error}
    (h : readContent document = .error error) : parseRoot (withoutMarks document) = .error error := by
  rw [readContent, ← withoutMarks] at h
  rcases bind_eq_error_iff.mp h with hroot | ⟨root, -, hcontent⟩
  · exact hroot
  · exact absurd hcontent (by simp [pure, Except.pure])

/-- A document is refused for what one of its events shows at the first byte of that
    event, counted from behind the byte order marks: a bracket, or the first character
    of a text.  In the document itself it is the place of the event exactly if there
    are no byte order marks.  No error is reported behind the end of the document. -/
theorem error_at_event_iff {document : String} {error : Error}
    (h : readContent document = .error error) :
    (error.cause.isShown = true →
      ∃ refusal : Refusal ⟨[], .start⟩ (withoutMarks document),
        refusal.cause = error.cause
          ∧ refusal.event.Offends (Outside refusal.before) (ElementBefore refusal.before) error.cause
          ∧ document.toList = marks document ++ refusal.front
            ++ (refusal.lexeme.source ++ refusal.behind)
          ∧ (refusal.event = .text refusal.lexeme.source
            ∨ refusal.lexeme.source.head? = some '<')
          ∧ error.position = byteLength refusal.front
          ∧ (error.position = byteLength (marks document ++ refusal.front)
            ↔ marks document = []))
      ∧ error.position ≤ byteLength document.toList := by
  have hbytes : byteLength (withoutMarks document) ≤ byteLength document.toList := by
    rw [← marks_append_withoutMarks, byteLength_append]
    exact Nat.le_add_left _ _
  rcases refused_of_parseRoot (parseRoot_of_readContent h) with ⟨refusal, rfl⟩ | ⟨hcause, hposition⟩
  · have hdocument : document.toList = marks document ++ refusal.front
        ++ (refusal.lexeme.source ++ refusal.behind) := by
      rw [← marks_append_withoutMarks, List.append_assoc, ← refusal.split]
    refine ⟨fun _ => ⟨refusal, rfl, refusal.offends, hdocument, refusal.text_or_bracket, rfl, ?_⟩,
      ?_⟩
    · rw [byteLength_append, ← byteLength_eq_zero_iff]
      dsimp only
      omega
    · rw [hdocument]
      simp only [byteLength_append]
      omega
  · refine ⟨fun hshown => ?_, Nat.le_trans hposition hbytes⟩
    rw [hcause] at hshown
    exact absurd hshown Bool.false_ne_true

/-- A tag with two attributes of one local name, behind a character of two bytes. -/
def collidingDocument : String :=
  "<svg>é<g a='1' b:a='2'/></svg>"

theorem error_at_event_iff_collision :
    readContent collidingDocument = .error ⟨.collidingKey "a", 7⟩
      ∧ ∃ refusal : Refusal ⟨[], .start⟩ (withoutMarks collidingDocument),
        refusal.event.Offends (Outside refusal.before) (ElementBefore refusal.before)
            (.collidingKey "a")
          ∧ collidingDocument.toList = marks collidingDocument ++ refusal.front
            ++ (refusal.lexeme.source ++ refusal.behind)
          ∧ byteLength (marks collidingDocument ++ refusal.front) = 7 := by
  have hrefused : readContent collidingDocument = .error ⟨.collidingKey "a", 7⟩ := by
    decide +kernel
  obtain ⟨hshown, -⟩ := error_at_event_iff hrefused
  obtain ⟨refusal, -, hoffends, hdocument, -, -, hplace⟩ := hshown rfl
  have hmarks : marks collidingDocument = [] := by decide
  exact ⟨hrefused, refusal, hoffends, hdocument, (hplace.mpr hmarks).symm⟩

/-- The bytes of a byte order mark are missing: text behind the root begins at the
    tenth byte of the document, and is reported at the seventh. -/
theorem error_in_front_of_event :
    readContent "\uFEFF<svg/>x" = .error ⟨.textOutsideRoot, 6⟩
      ∧ "\uFEFF<svg/>x".toList = "\uFEFF<svg/>".toList ++ ['x']
      ∧ byteLength "\uFEFF<svg/>".toList = 9 := by
  decide +kernel

end IconCompiler.Markup
