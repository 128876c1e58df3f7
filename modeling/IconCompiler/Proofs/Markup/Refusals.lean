import IconCompiler.Proofs.Markup.Attributes
import IconCompiler.Proofs.Markup.Reading

/-! # Why a document is refused

    A document is refused in one of two ways.  Either reading leads to an event
    that shows what is wrong with it, a fault of its tag, of its text or of the
    place where it stands (`Event.Offends`): then the event is reported where it
    begins (`Refusal`).  Or no event can be found, or elements are missing at the
    end: then a place is reported that is still in the document
    (`refused_of_ofLexemes`). -/

namespace IconCompiler.Markup

open Text

/-- Whether a cause is shown by an event, and not by what is no event or by the end
    of a document. -/
def Cause.isShown : Cause → Bool
  | .attribute _ | .reference _ | .collidingKey _ | .unexpectedClose | .textOutsideRoot
  | .cdataOutsideRoot | .secondRoot => true
  | _ => false

/-! ## Faults of tags -/

/-- What can be wrong with the attributes of a tag. -/
inductive Tag.Faulty (tag : Tag) : Cause → Prop
  | attribute {fault : AttributeFault} :
      tag.attributes.2 = some fault → Faulty tag (.attribute fault)
  | value {raw : RawAttribute} {fault : ReferenceFault} :
      raw ∈ tag.attributes.1 → raw.localKey?.isSome →
        Reference.replace raw.value = .error fault → Faulty tag (.reference fault)
  | collision {first second : RawAttribute} {key : String} :
      [first, second].Sublist tag.attributes.1 → first.localKey? = some key →
        second.localKey? = some key → Faulty tag (.collidingKey key)

namespace Frame

/-- An attribute that is not taken over has a broken value, or a key that is not new. -/
theorem addAttribute_eq_error {attributes : AttributeMap} {raw : RawAttribute} {cause : Cause}
    (h : addAttribute attributes raw = .error cause) :
    ∃ key, raw.localKey? = some key
      ∧ ((∃ fault, Reference.replace raw.value = .error fault ∧ cause = .reference fault)
        ∨ (key ∈ attributes.keys ∧ cause = .collidingKey key)) := by
  rw [addAttribute] at h
  split at h
  · exact absurd h (by simp)
  · next hbinding =>
      refine ⟨String.ofList (localName raw.key), ?_, ?_⟩
      · rw [RawAttribute.localKey?, if_neg hbinding]
      · split at h
        · next fault hvalue => exact .inl ⟨fault, hvalue, (Except.error.inj h).symm⟩
        · dsimp only at h
          split at h
          · next hold => exact .inr ⟨hold, (Except.error.inj h).symm⟩
          · exact absurd h (by simp)

theorem faulty_of_ofTag {tag : Tag} {cause : Cause} (h : ofTag tag = .error cause) :
    tag.Faulty cause := by
  rw [ofTag] at h
  rcases bind_eq_error_iff.mp h with hfold | ⟨attributes, -, hfault⟩
  · obtain ⟨front, raw, behind, middle, hraws, hfront, hraw⟩ := foldlM_eq_error hfold
    change tag.attributes.1 = front ++ raw :: behind at hraws
    have hmem : raw ∈ raw :: behind := List.mem_cons_self
    obtain ⟨key, hkey, ⟨fault, hvalue, rfl⟩ | ⟨hold, rfl⟩⟩ := addAttribute_eq_error hraw
    · have hwritten : raw ∈ tag.attributes.1 := by
        rw [hraws]
        exact List.mem_append_right front hmem
      exact .value hwritten (by rw [hkey]; rfl) hvalue
    · -- the keys that are taken are those of the attributes in front
      rw [keys_of_foldlM hfront] at hold
      obtain ⟨first, hfirst, hfirstKey⟩ := List.mem_filterMap.mp hold
      refine .collision ?_ hfirstKey hkey
      rw [hraws]
      exact (List.singleton_sublist.mpr hfirst).append (List.singleton_sublist.mpr hmem)
  · split at hfault
    · next fault hsome =>
        rw [← Except.error.inj hfault]
        exact .attribute hsome
    · exact absurd hfault (by simp [pure, Except.pure])

end Frame

/-! ## Faults of events -/

/-- What can be wrong with an event, if it stands `outside` of all elements, and if
    a root is `complete` before it. -/
inductive Event.Offends (outside complete : Prop) : Event → Cause → Prop
  | tag {event : Event} {tag : Tag} {cause : Cause} :
      event.tag? = some tag → tag.Faulty cause → Offends outside complete event cause
  | root {event : Event} {tag : Tag} :
      event.tag? = some tag → outside → complete → Offends outside complete event .secondRoot
  | close : outside → Offends outside complete .close .unexpectedClose
  | reference {raw : List Char} {fault : ReferenceFault} :
      Reference.replace raw = .error fault →
        Offends outside complete (.text raw) (.reference fault)
  | text {raw : List Char} :
      raw.all isBlank = false → outside → Offends outside complete (.text raw) .textOutsideRoot
  | cdata (body : List Char) :
      outside → Offends outside complete (.cdata body) .cdataOutsideRoot

theorem Event.Offends.mono {outside complete outside' complete' : Prop} {event : Event}
    {cause : Cause} (houtside : outside → outside')
    (hcomplete : outside → complete → complete') (h : event.Offends outside complete cause) :
    event.Offends outside' complete' cause := by
  cases h with
  | tag htag hfaulty => exact .tag htag hfaulty
  | root htag hout hroot => exact .root htag (houtside hout) (hcomplete hout hroot)
  | close hout => exact .close (houtside hout)
  | reference hreplace => exact .reference hreplace
  | text hblank hout => exact .text hblank (houtside hout)
  | cdata body hout => exact .cdata body (houtside hout)

namespace Builder

theorem enter_eq_error {builder : Builder} {tag : Tag} {cause : Cause}
    (h : builder.enter tag = .error cause) :
    tag.Faulty cause
      ∨ (builder.openFrames = [] ∧ builder.root.isSome = true ∧ cause = .secondRoot) := by
  rw [enter] at h
  rcases bind_eq_error_iff.mp h with htag | ⟨frame, -, hroot⟩
  · exact .inl (Frame.faulty_of_ofTag htag)
  · split at hroot
    · next hfull =>
        obtain ⟨hopen, hsome⟩ := Bool.and_eq_true_iff.mp hfull
        exact .inr ⟨List.isEmpty_iff.mp hopen, hsome, (Except.error.inj hroot).symm⟩
    · exact absurd hroot (by simp [pure, Except.pure])

theorem leave_eq_error {builder : Builder} {cause : Cause} (h : builder.leave = .error cause) :
    builder.openFrames = [] ∧ cause = .unexpectedClose := by
  obtain ⟨frames, root⟩ := builder
  cases frames with
  | nil => exact ⟨rfl, (Except.error.inj h).symm⟩
  | cons inner outer =>
      obtain ⟨next, hnext⟩ := exists_leave inner outer root
      rw [hnext] at h
      exact absurd h (by simp)

theorem addNode_eq_error {builder : Builder} {node : Node} {fault : Except Cause Builder}
    {cause : Cause} (h : builder.addNode node fault = .error cause) :
    builder.openFrames = [] ∧ fault = .error cause := by
  obtain ⟨frames, root⟩ := builder
  cases frames with
  | nil => exact ⟨rfl, h⟩
  | cons inner rest => exact absurd h (by simp [addNode])

/-- An event that is not taken has something wrong with it. -/
theorem offends_of_step {builder : Builder} {event : Event} {cause : Cause}
    (h : builder.step event = .error cause) :
    event.Offends (builder.openFrames = []) (builder.root.isSome = true) cause := by
  have htag : ∀ tag, event.tag? = some tag → builder.enter tag = .error cause →
      event.Offends (builder.openFrames = []) (builder.root.isSome = true) cause := by
    intro tag htag henter
    rcases enter_eq_error henter with hfaulty | ⟨hopen, hroot, rfl⟩
    · exact .tag htag hfaulty
    · exact .root htag hopen hroot
  cases event with
  | start tag => exact htag tag rfl h
  | empty tag =>
      rcases bind_eq_error_iff.mp h with henter | ⟨middle, henter, hleave⟩
      · exact htag tag rfl henter
      -- an element that has just been opened can be closed
      · obtain ⟨frame, -, -, rfl⟩ := enter_eq_ok henter
        exact absurd (leave_eq_error hleave).1 (List.cons_ne_nil _ _)
  | close =>
      obtain ⟨hopen, rfl⟩ := leave_eq_error h
      exact .close hopen
  | text raw =>
      rw [step] at h
      split at h
      · next fault hreplace =>
          rw [← Except.error.inj h]
          exact .reference hreplace
      · split at h
        · exact absurd h (by simp)
        · next hblank =>
            obtain ⟨hopen, hfault⟩ := addNode_eq_error h
            rw [← Except.error.inj hfault]
            exact .text (by simpa using hblank) hopen
  | comment body => exact absurd (addNode_eq_error h).2 (by simp)
  | cdata body =>
      obtain ⟨hopen, hfault⟩ := addNode_eq_error h
      rw [← Except.error.inj hfault]
      exact .cdata body hopen
  | ignored => exact absurd h (by simp [step])

/-- What is missing at the end of a document is reported no later than there. -/
theorem finish_eq_error {builder : Builder} {length : Nat} {error : Error}
    (h : builder.finish length = .error error) :
    error.cause.isShown = false ∧ error.position ≤ length := by
  rw [finish] at h
  split at h
  · rw [← Except.error.inj h]
    exact ⟨rfl, Nat.le_refl _⟩
  · exact absurd h (by simp)
  · rw [← Except.error.inj h]
    exact ⟨rfl, Nat.zero_le _⟩

end Builder

/-- What is wrong with a lexeme that has no event is not shown by an event. -/
theorem Event.not_isShown_of_ofLexeme {openNames : List (List Char)} {lexeme : Lexeme}
    {cause : Cause} (h : Event.ofLexeme openNames lexeme = .error cause) :
    cause.isShown = false := by
  cases lexeme with
  | text raw => exact absurd h (by simp [Event.ofLexeme])
  | tag content =>
      rw [Event.ofLexeme, Event.ofTag.eq_def] at h
      split at h
      · dsimp only at h
        split at h
        · rw [← Except.error.inj h]
          rfl
        · split at h
          · exact absurd h (by simp)
          · rw [← Except.error.inj h]
            rfl
      · split at h
        · exact absurd h (by simp)
        · exact absurd h (by simp)
  | comment content | cdata content =>
      rw [Event.ofLexeme.eq_def] at h
      dsimp only at h
      split at h
      · exact absurd h (by simp)
      · rw [← Except.error.inj h]
        rfl
  | doctype content =>
      rw [Event.ofLexeme] at h
      rcases bind_eq_error_iff.mp h with hdoctype | ⟨event, -, hpair⟩
      · rw [Event.ofDoctype] at hdoctype
        split at hdoctype
        · split at hdoctype
          · rw [← Except.error.inj hdoctype]
            rfl
          · exact absurd hdoctype (by simp)
        · rw [← Except.error.inj hdoctype]
          rfl
      · exact absurd hpair (by simp [pure, Except.pure])
  | instruction content =>
      rw [Event.ofLexeme] at h
      split at h
      · rw [← Except.error.inj h]
        rfl
      · exact absurd h (by simp)

/-! ## Texts that are refused -/

/-- A text that is read up to an event that shows what is wrong: the part in front
    of the event, the lexeme of the event, and the part behind it. -/
structure Refusal (start : Progress) (cs : List Char) where
  front : List Char
  /-- The events of the part in front. -/
  before : List Event
  progress : Progress
  lexeme : Lexeme
  event : Event
  /-- The names that the reader has open behind the event. -/
  names : List (List Char)
  behind : List Char
  cause : Cause
  split : cs = front ++ (lexeme.source ++ behind)
  reads : Reads start cs before progress (lexeme.source ++ behind)
  first : firstLexeme? (lexeme.source ++ behind) = some (lexeme, behind)
  means : Event.ofLexeme progress.openNames lexeme = .ok (event, names)
  refused : progress.builder.step event = .error cause

namespace Refusal

/-- The first event shows what is wrong. -/
def here {start : Progress} {cs behind : List Char} {lexeme : Lexeme} {event : Event}
    {names : List (List Char)} {cause : Cause} (hfirst : firstLexeme? cs = some (lexeme, behind))
    (hmeans : Event.ofLexeme start.openNames lexeme = .ok (event, names))
    (hrefused : start.builder.step event = .error cause) : Refusal start cs where
  front := []
  before := []
  progress := start
  lexeme := lexeme
  event := event
  names := names
  behind := behind
  cause := cause
  split := source_of_firstLexeme? hfirst
  reads := by
    rw [← source_of_firstLexeme? hfirst]
    exact .stop start cs
  first := by rwa [← source_of_firstLexeme? hfirst]
  means := hmeans
  refused := hrefused

/-- The first event is taken, and a later one shows what is wrong. -/
def later {start next : Progress} {cs behind : List Char} {lexeme : Lexeme} {event : Event}
    (refusal : Refusal next behind) (hfirst : firstLexeme? cs = some (lexeme, behind))
    (hmeans : Event.ofLexeme start.openNames lexeme = .ok (event, next.openNames))
    (hstep : start.builder.step event = .ok next.builder) : Refusal start cs where
  front := lexeme.source ++ refusal.front
  before := event :: refusal.before
  progress := refusal.progress
  lexeme := refusal.lexeme
  event := refusal.event
  names := refusal.names
  behind := refusal.behind
  cause := refusal.cause
  split := by
    rw [source_of_firstLexeme? hfirst, List.append_assoc, ← refusal.split]
  reads := .step hfirst hmeans hstep refusal.reads
  first := refusal.first
  means := refusal.means
  refused := refusal.refused

end Refusal

theorem byteLength_eq_zero_iff {cs : List Char} : byteLength cs = 0 ↔ cs = [] := by
  cases cs with
  | nil => simp
  | cons c rest =>
      have hpos := c.utf8Size_pos
      simp only [byteLength_cons, reduceCtorEq, iff_false]
      omega

/-- A text from which no lexeme can be cut off is not refused behind its end. -/
theorem breakError_position_le {offset : Nat} {cs : List Char} (hne : cs ≠ []) (found : Break) :
    (Trace.breakError offset (offset + byteLength cs) found).cause.isShown = false
      ∧ (Trace.breakError offset (offset + byteLength cs) found).position
        ≤ offset + byteLength cs := by
  cases found with
  | unclosed construct => exact ⟨rfl, Nat.le_refl _⟩
  | unknownMarkup =>
      have hpos : 0 < byteLength cs := Nat.pos_of_ne_zero (mt byteLength_eq_zero_iff.mp hne)
      exact ⟨rfl, Nat.add_le_add_left hpos offset⟩

/-- A text from which no lexeme can be cut off is refused for its end, or for what stands
    there in place of a lexeme. -/
theorem refused_of_firstLexeme?_eq_none {offset : Nat} {openNames : List (List Char)}
    {cs : List Char} {builder : Builder} {error : Error} (hnone : firstLexeme? cs = none)
    (h : (Trace.ofLexemes (lexemes cs).2 (offset + byteLength cs) openNames offset
      (lexemes cs).1).read Builder.step Builder.finish builder = .error error) :
    error.cause.isShown = false ∧ error.position ≤ offset + byteLength cs := by
  obtain ⟨hfound, hending⟩ := lexemes_of_firstLexeme?_eq_none hnone
  rw [hfound, Trace.ofLexemes, Trace.read, Trace.run] at h
  cases hbreak : (lexemes cs).2 with
  | none =>
      rw [hbreak] at h
      obtain ⟨hcause, hposition⟩ := Builder.finish_eq_error h
      exact ⟨hcause, Nat.le_trans hposition (Nat.le_add_right _ _)⟩
  | some found =>
      have hne : cs ≠ [] := by
        intro hnil
        rw [hending.mpr hnil] at hbreak
        exact absurd hbreak (by simp)
      rw [hbreak] at h
      rw [← Except.error.inj h]
      exact breakError_position_le hne found

/-- A text that begins at `offset` is refused at the event that shows what is wrong,
    or for another cause and no later than at its end. -/
theorem refused_of_ofLexemes {offset : Nat} {openNames : List (List Char)} {cs : List Char}
    {builder : Builder} {error : Error}
    (h : (Trace.ofLexemes (lexemes cs).2 (offset + byteLength cs) openNames offset
      (lexemes cs).1).read Builder.step Builder.finish builder = .error error) :
    (∃ refusal : Refusal ⟨openNames, builder⟩ cs,
        error = ⟨refusal.cause, offset + byteLength refusal.front⟩)
      ∨ (error.cause.isShown = false ∧ error.position ≤ offset + byteLength cs) := by
  -- what follows a lexeme is shorter, but no tail of the text
  induction hn : cs.length using Nat.strongRecOn generalizing cs openNames offset builder with
  | ind n ih =>
  subst hn
  cases hfirst : firstLexeme? cs with
  | none => exact .inr (refused_of_firstLexeme?_eq_none hfirst h)
  | some pair =>
      obtain ⟨lexeme, behind⟩ := pair
      have hlength := length_of_firstLexeme? hfirst
      have htotal : offset + byteLength cs
          = offset + byteLength lexeme.source + byteLength behind := by
        rw [source_of_firstLexeme? hfirst, byteLength_append, Nat.add_assoc]
      rw [lexemes_of_firstLexeme? hfirst, Trace.ofLexemes] at h
      cases hmeans : Event.ofLexeme openNames lexeme with
      | error cause =>
          rw [hmeans] at h
          rw [← Except.error.inj h, htotal]
          exact .inr ⟨Event.not_isShown_of_ofLexeme hmeans, Nat.le_add_right _ _⟩
      | ok found =>
          obtain ⟨event, names⟩ := found
          rw [hmeans, Trace.read, Trace.run] at h
          cases hstep : builder.step event with
          | error cause =>
              rw [hstep] at h
              exact .inl ⟨.here hfirst hmeans hstep, (Except.error.inj h).symm⟩
          | ok next =>
              rw [hstep, htotal] at h
              rw [htotal]
              rcases ih behind.length hlength h rfl with ⟨refusal, rfl⟩ | hother
              · refine .inl ⟨refusal.later hfirst hmeans hstep, ?_⟩
                rw [Refusal.later, byteLength_append, Nat.add_assoc]
              · exact .inr hother

/-- A document that is refused is refused at an event, or at no place behind its end. -/
theorem refused_of_parseRoot {document : List Char} {error : Error}
    (h : parseRoot document = .error error) :
    (∃ refusal : Refusal ⟨[], .start⟩ document,
        error = ⟨refusal.cause, byteLength refusal.front⟩)
      ∨ (error.cause.isShown = false ∧ error.position ≤ byteLength document) := by
  have hread := @refused_of_ofLexemes 0 [] document .start error (by rw [Nat.zero_add]; exact h)
  simpa only [Nat.zero_add] using hread

end IconCompiler.Markup
