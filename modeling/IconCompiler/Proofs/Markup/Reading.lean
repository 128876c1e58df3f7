import IconCompiler.Proofs.Markup.Building
import IconCompiler.Proofs.Markup.Cutting

/-! # Reading a document lexeme by lexeme

    Cutting off a lexeme, finding its event and taking the event can be done for
    one lexeme after the other, with the text that is left over as part of the
    state (`Reads`).  A document is read exactly if this leads from its front to
    its end and completes a root (`parseRoot_eq_ok_iff_reads`); stretches that
    are read one behind the other are read together. -/

namespace IconCompiler.Markup

/-! ## The event of a lexeme -/

/-- The ways in which a lexeme can mean an event, with the names of the elements that
    are open in front of it and behind it. -/
inductive Event.Means : List (List Char) → Lexeme → Event → List (List Char) → Prop
  | text (names : List (List Char)) (raw : List Char) :
      Event.Means names (.text raw) (.text raw) names
  | start (names : List (List Char)) (content : List Char) :
      Event.Means names (.tag content) (.start (Tag.ofContent content))
        ((Tag.ofContent content).name :: names)
  | empty (names : List (List Char)) (content : List Char) :
      Event.Means names (.tag content) (.empty (Tag.ofContent content.dropLast)) names
  | close (names : List (List Char)) (closing : List Char) :
      Event.Means (closingName closing :: names) (.tag ('/' :: closing)) .close names
  | comment (names : List (List Char)) (body : List Char) :
      Event.Means names (.comment ('-' :: body)) (.comment body) names
  | cdata (names : List (List Char)) (body : List Char) :
      Event.Means names (.cdata (['C', 'D', 'A', 'T', 'A', '['] ++ body)) (.cdata body) names
  | ignored (names : List (List Char)) (lexeme : Lexeme) :
      Event.Means names lexeme .ignored names

theorem Event.means_of_ofTag {openNames names : List (List Char)} {content : List Char}
    {event : Event} (h : Event.ofTag openNames content = .ok (event, names)) :
    Event.Means openNames (.tag content) event names := by
  rw [Event.ofTag.eq_def] at h
  split at h
  · dsimp only at h
    split at h
    · exact absurd h (by simp)
    · split at h
      · next hname =>
          obtain ⟨rfl, rfl⟩ := Prod.mk.inj (Except.ok.inj h)
          rw [← hname]
          exact .close _ _
      · exact absurd h (by simp)
  · split at h
    · obtain ⟨rfl, rfl⟩ := Prod.mk.inj (Except.ok.inj h)
      exact .empty _ _
    · obtain ⟨rfl, rfl⟩ := Prod.mk.inj (Except.ok.inj h)
      exact .start _ _

theorem Event.means_of_ofLexeme {openNames names : List (List Char)} {lexeme : Lexeme}
    {event : Event} (h : Event.ofLexeme openNames lexeme = .ok (event, names)) :
    Event.Means openNames lexeme event names := by
  cases lexeme with
  | text raw =>
      obtain ⟨rfl, rfl⟩ := Prod.mk.inj (Except.ok.inj h)
      exact .text _ _
  | tag content => exact Event.means_of_ofTag h
  | comment content =>
      rw [Event.ofLexeme.eq_def] at h
      dsimp only at h
      split at h
      · obtain ⟨rfl, rfl⟩ := Prod.mk.inj (Except.ok.inj h)
        exact .comment _ _
      · exact absurd h (by simp)
  | cdata content =>
      rw [Event.ofLexeme.eq_def] at h
      dsimp only at h
      split at h
      · obtain ⟨rfl, rfl⟩ := Prod.mk.inj (Except.ok.inj h)
        exact .cdata _ _
      · exact absurd h (by simp)
  | doctype content =>
      rw [Event.ofLexeme] at h
      obtain ⟨found, hfound, hpair⟩ := bind_eq_ok_iff.mp h
      obtain ⟨rfl, rfl⟩ := Prod.mk.inj (Except.ok.inj hpair)
      rw [Event.ofDoctype] at hfound
      split at hfound
      · split at hfound
        · exact absurd hfound (by simp)
        · rw [← Except.ok.inj hfound]
          exact .ignored _ _
      · exact absurd hfound (by simp)
  | instruction content =>
      rw [Event.ofLexeme] at h
      split at h
      · exact absurd h (by simp)
      · obtain ⟨rfl, rfl⟩ := Prod.mk.inj (Except.ok.inj h)
        exact .ignored _ _

/-! ## Progress through a text -/

/-- How far a document is read: the names of the open elements as they are
    written, and the tree so far. -/
structure Progress where
  openNames : List (List Char)
  builder : Builder

/-- Reading on in a text, with the events on the way, up to what is left of it. -/
inductive Reads : Progress → List Char → List Event → Progress → List Char → Prop
  | stop (progress : Progress) (cs : List Char) : Reads progress cs [] progress cs
  | step {p q r : Progress} {cs behind rest : List Char} {lexeme : Lexeme} {event : Event}
      {events : List Event} :
      firstLexeme? cs = some (lexeme, behind) →
      Event.ofLexeme p.openNames lexeme = .ok (event, q.openNames) →
      p.builder.step event = .ok q.builder →
      Reads q behind events r rest → Reads p cs (event :: events) r rest

/-- What is read one behind the other is read together. -/
theorem Reads.trans {first second third : Progress} {cs middle rest : List Char}
    {events more : List Event} (h : Reads first cs events second middle)
    (hmore : Reads second middle more third rest) :
    Reads first cs (events ++ more) third rest := by
  induction h with
  | stop progress cs => exact hmore
  | step hlexeme hevent hstep _ ih => exact .step hlexeme hevent hstep (ih hmore)

theorem Reads.one {before after : Progress} {cs rest : List Char} {lexeme : Lexeme} {event : Event}
    (hlexeme : firstLexeme? cs = some (lexeme, rest))
    (hevent : Event.ofLexeme before.openNames lexeme = .ok (event, after.openNames))
    (hstep : before.builder.step event = .ok after.builder) :
    Reads before cs [event] after rest :=
  .step hlexeme hevent hstep (.stop after rest)

/-! ## One lexeme of a document -/

theorem length_of_firstLexeme? {cs rest : List Char} {lexeme : Lexeme}
    (h : firstLexeme? cs = some (lexeme, rest)) : rest.length < cs.length := by
  rcases firstLexeme?_eq_some h with ⟨behind, rfl, hscan⟩ | ⟨c, behind, -, rfl, -, rfl⟩
  · exact Nat.lt_succ_of_le (length_of_scanMarkup hscan)
  · exact Nat.lt_succ_of_le (Text.length_dropWhile_le _ behind)

theorem lexemes_of_firstLexeme? {cs rest : List Char} {lexeme : Lexeme}
    (h : firstLexeme? cs = some (lexeme, rest)) :
    lexemes cs = (lexeme :: (lexemes rest).1, (lexemes rest).2) := by
  rcases firstLexeme?_eq_some h with ⟨behind, rfl, hscan⟩ | ⟨c, behind, hc, rfl, rfl, rfl⟩
  · rw [lexemes, if_pos rfl]
    split
    · next hnone =>
        rw [hscan] at hnone
        exact absurd hnone (by simp)
    · next hsome =>
        rw [hscan] at hsome
        obtain ⟨rfl, rfl⟩ := Prod.mk.inj (Except.ok.inj hsome)
        rfl
  · rw [lexemes, if_neg hc]

/-- Where no lexeme can be cut off, the text is at its end or broken. -/
theorem lexemes_of_firstLexeme?_eq_none {cs : List Char} (h : firstLexeme? cs = none) :
    (lexemes cs).1 = [] ∧ ((lexemes cs).2 = none ↔ cs = []) := by
  cases cs with
  | nil =>
      rw [lexemes]
      simp
  | cons c behind =>
      rw [firstLexeme?] at h
      rw [lexemes]
      split at h
      · next hc =>
          rw [if_pos hc]
          split
          · simp
          · next hscan =>
              rw [hscan] at h
              exact absurd h (by simp [Except.toOption])
      · exact absurd h (by simp)

/-! ## Whole documents -/

/-- Nothing is read from a text that no lexeme can be cut off from. -/
theorem Reads.eq_of_firstLexeme?_eq_none {before after : Progress} {cs rest : List Char}
    {events : List Event} (hnone : firstLexeme? cs = none)
    (h : Reads before cs events after rest) : events = [] ∧ after = before ∧ rest = cs := by
  cases h with
  | stop => exact ⟨rfl, rfl, rfl⟩
  | step hlexeme =>
      rw [hnone] at hlexeme
      exact absurd hlexeme (by simp)

theorem Reads.exists_of_firstLexeme? {before after : Progress} {cs behind : List Char}
    {events : List Event} {lexeme : Lexeme} (hfirst : firstLexeme? cs = some (lexeme, behind))
    (h : Reads before cs events after []) :
    ∃ event more middle, events = event :: more
      ∧ Event.ofLexeme before.openNames lexeme = .ok (event, middle.openNames)
      ∧ before.builder.step event = .ok middle.builder ∧ Reads middle behind more after [] := by
  cases h with
  | stop => exact absurd hfirst (by simp [firstLexeme?])
  | @step _ middle _ _ _ _ _ event more hlexeme hevent hstep hmore =>
      rw [hfirst] at hlexeme
      obtain ⟨rfl, rfl⟩ := Prod.mk.inj (Option.some.inj hlexeme)
      exact ⟨event, more, middle, rfl, hevent, hstep, hmore⟩

/-- The events of a text end without an error and can be taken one after the
    other if the text can be read to its end. -/
theorem ofLexemes_iff_reads (total offset : Nat) (openNames : List (List Char)) (cs : List Char)
    (events : List Event) (before after : Builder) :
    ((Trace.ofLexemes (lexemes cs).2 total openNames offset (lexemes cs).1).error = none
        ∧ (Trace.ofLexemes (lexemes cs).2 total openNames offset (lexemes cs).1).events.map Prod.snd
          = events
        ∧ events.foldlM Builder.step before = .ok after)
      ↔ ∃ names, Reads ⟨openNames, before⟩ cs events ⟨names, after⟩ [] := by
  -- what follows a lexeme is shorter, but no tail of the text
  induction hn : cs.length using Nat.strongRecOn generalizing cs openNames offset events before with
  | ind n ih =>
  subst hn
  cases hfirst : firstLexeme? cs with
  | none =>
      obtain ⟨hfound, hending⟩ := lexemes_of_firstLexeme?_eq_none hfirst
      rw [hfound, Trace.ofLexemes]
      constructor
      · rintro ⟨herror, rfl, hfold⟩
        have hnil := hending.mp (by simpa using herror)
        subst hnil
        obtain rfl := Except.ok.inj hfold
        exact ⟨openNames, .stop _ _⟩
      · rintro ⟨names, hreads⟩
        obtain ⟨rfl, hafter, hrest⟩ := hreads.eq_of_firstLexeme?_eq_none hfirst
        obtain ⟨-, rfl⟩ := Progress.mk.inj hafter
        exact ⟨by simp [hending.mpr hrest.symm], rfl, rfl⟩
  | some pair =>
      obtain ⟨lexeme, behind⟩ := pair
      have hlength := length_of_firstLexeme? hfirst
      rw [lexemes_of_firstLexeme? hfirst, Trace.ofLexemes]
      cases hevent : Event.ofLexeme openNames lexeme with
      | error cause =>
          constructor
          · rintro ⟨herror, -⟩
            exact absurd herror (by simp)
          · rintro ⟨names, hreads⟩
            obtain ⟨event, more, middle, -, hok, -⟩ := hreads.exists_of_firstLexeme? hfirst
            rw [hevent] at hok
            exact absurd hok (by simp)
      | ok found =>
          obtain ⟨event, names⟩ := found
          have hrest := fun more middle => ih behind.length hlength
            (offset + byteLength lexeme.source) names behind more middle rfl
          dsimp only
          rw [List.map_cons]
          constructor
          · rintro ⟨herror, rfl, hfold⟩
            obtain ⟨middle, hstep, hlater⟩ := foldlM_cons_eq_ok_iff.mp hfold
            obtain ⟨last, hreads⟩ := (hrest _ middle).mp ⟨herror, rfl, hlater⟩
            refine ⟨last, ?_⟩
            exact .step (q := ⟨names, middle⟩) hfirst hevent hstep hreads
          · rintro ⟨last, hreads⟩
            obtain ⟨event', more, middle, rfl, hok, hstep, hmore⟩ :=
              hreads.exists_of_firstLexeme? hfirst
            obtain ⟨openNames', middle⟩ := middle
            rw [hevent] at hok
            obtain ⟨rfl, rfl⟩ := Prod.mk.inj (Except.ok.inj hok)
            obtain ⟨herror, hmap, hfold⟩ := (hrest more middle).mpr ⟨last, hmore⟩
            exact ⟨herror, by rw [hmap], foldlM_cons_eq_ok_iff.mpr ⟨middle, hstep, hfold⟩⟩

/-- A document is read if its lexemes, taken one after the other, lead to its end
    and complete a root. -/
theorem parseRoot_eq_ok_iff_reads {document : List Char} {root : Frame} :
    parseRoot document = .ok root
      ↔ ∃ names, Reads ⟨[], .start⟩ document ((Trace.ofDocument document).events.map Prod.snd)
        ⟨names, ⟨[], some root⟩⟩ [] := by
  rw [parseRoot_eq_ok_iff, ← ofLexemes_iff_reads (byteLength document) 0]
  constructor
  · rintro ⟨herror, hfold⟩
    exact ⟨herror, rfl, hfold⟩
  · rintro ⟨herror, -, hfold⟩
    exact ⟨herror, hfold⟩

/-- However a document is read, these are its events. -/
theorem parseRoot_of_reads {document : List Char} {root : Frame} {events : List Event}
    {names : List (List Char)}
    (h : Reads ⟨[], .start⟩ document events ⟨names, ⟨[], some root⟩⟩ []) :
    parseRoot document = .ok root := by
  obtain ⟨herror, rfl, hfold⟩ :=
    (ofLexemes_iff_reads (byteLength document) 0 [] document events .start _).mpr ⟨names, h⟩
  exact parseRoot_eq_ok_iff.mpr ⟨herror, hfold⟩

/-- A text that begins with a character that is neither blank nor opens markup. -/
def BeginsWithText (document : String) : Prop :=
  ∃ c, document.toList.head? = some c ∧ c ≠ '<' ∧ c ≠ '\uFEFF' ∧ Text.isBlank c = false

/-- Text outside the root is not accepted, so a document cannot begin with it. -/
theorem not_beginsWithText_of_readContent {document : String} {content : Content}
    (h : readContent document = .ok content) : ¬ BeginsWithText document := by
  rintro ⟨c, hhead, hopen, hmark, hblank⟩
  obtain ⟨rest, hdocument⟩ := List.head?_eq_some_iff.mp hhead
  obtain ⟨root, hroot, -⟩ := readContent_eq_ok_iff.mp h
  have hcounts : withoutMarks document = c :: rest := by
    rw [withoutMarks, hdocument, List.dropWhile_cons_of_neg]
    simpa using hmark
  rw [hcounts] at hroot
  obtain ⟨names, hreads⟩ := parseRoot_eq_ok_iff_reads.mp hroot
  have hfirst : firstLexeme? (c :: rest)
      = some (.text (c :: rest.takeWhile (· != '<')), rest.dropWhile (· != '<')) := by
    rw [firstLexeme?, if_neg hopen]
  obtain ⟨event, more, middle, -, hevent, hstep, -⟩ := hreads.exists_of_firstLexeme? hfirst
  obtain ⟨rfl, -⟩ := Prod.mk.inj (Except.ok.inj hevent)
  rw [Builder.step] at hstep
  split at hstep
  · cases hstep
  -- no element is open yet
  · rw [if_neg (by simp [hblank])] at hstep
    cases hstep

end IconCompiler.Markup
