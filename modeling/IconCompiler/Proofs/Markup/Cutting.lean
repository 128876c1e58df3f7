import IconCompiler.Markup.Lexeme

/-! # Cutting off one lexeme

    What stands in front of a document is cut off by its form alone, whatever
    follows it.  A comment or a CDATA section ends at the first place where its
    terminator stands, so it can hold anything but that terminator
    (`cutAt?_append`); a tag ends at the first `>` outside quotes, so it can be
    put together from stretches that hold none (`Skips`). -/

namespace IconCompiler.Markup

/-! ## Terminators -/

/-- What is cut off in front of a terminator does not hold it. -/
theorem cutAt?_eq_some {stop cs before after : List Char} (hne : stop ≠ [])
    (h : cutAt? stop cs = some (before, after)) :
    cs = before ++ (stop ++ after) ∧ ¬ stop <:+: before := by
  induction cs generalizing before with
  | nil => exact absurd h (by simp [cutAt?])
  | cons c rest ih =>
      rw [cutAt?] at h
      split at h
      · next hstarts =>
          obtain ⟨behind, hbehind⟩ := List.isPrefixOf_iff_prefix.mp hstarts
          obtain ⟨rfl, rfl⟩ := Prod.mk.inj (Option.some.inj h)
          rw [← hbehind, List.drop_left]
          exact ⟨rfl, fun hoccurs => hne (List.infix_nil.mp hoccurs)⟩
      · next hstarts =>
          obtain ⟨⟨front, behind⟩, hrest, hpair⟩ := Option.map_eq_some_iff.mp h
          obtain ⟨rfl, rfl⟩ := Prod.mk.inj hpair
          obtain ⟨rfl, hfree⟩ := ih hrest
          refine ⟨rfl, ?_⟩
          rw [List.infix_cons_iff, not_or]
          refine ⟨?_, hfree⟩
          intro hfront
          refine hstarts (List.isPrefixOf_iff_prefix.mpr ?_)
          exact hfront.trans (List.prefix_append (c :: front) _)

/-- A terminator whose last character is new in it cannot begin inside a text
    that does not hold it and end behind that text. -/
theorem not_prefix_of_not_infix {front body after : List Char} {last : Char}
    (hlast : last ∉ front) (hne : body ≠ []) (hbody : ¬ (front ++ [last]) <:+: body) :
    ¬ (front ++ [last]) <+: body ++ ((front ++ [last]) ++ after) := by
  intro hstarts
  by_cases hlength : front.length < body.length
  -- an occurrence that is as short as the text lies in the text
  · refine hbody (List.IsPrefix.isInfix ?_)
    refine List.prefix_of_prefix_length_le hstarts (List.prefix_append _ _) ?_
    rw [List.length_append, List.length_singleton]
    exact hlength
  · -- the last character of the early occurrence falls among the first ones of the late one
    obtain ⟨behind, heq⟩ := hstarts
    have hpos := List.length_pos_iff.mpr hne
    have hget : (body ++ ((front ++ [last]) ++ after))[front.length]? = some last := by
      rw [← heq]
      simp
    rw [List.append_assoc, List.getElem?_append_right (by omega),
      List.getElem?_append_left (by omega)] at hget
    exact hlast (List.mem_of_getElem? hget)

/-- A text that does not hold a terminator is cut off in front of it. -/
theorem cutAt?_append (front : List Char) {body : List Char} {last : Char} (hlast : last ∉ front)
    (hbody : ¬ (front ++ [last]) <:+: body) (after : List Char) :
    cutAt? (front ++ [last]) (body ++ ((front ++ [last]) ++ after)) = some (body, after) := by
  induction body with
  | nil =>
      obtain ⟨c, rest, hstop⟩ := List.exists_cons_of_ne_nil
        (show (front ++ [last]) ++ after ≠ [] by simp)
      have hstarts : (front ++ [last]).isPrefixOf (c :: rest) = true := by
        rw [← hstop]
        exact List.isPrefixOf_iff_prefix.mpr (List.prefix_append _ _)
      rw [List.nil_append, hstop, cutAt?, if_pos hstarts, ← hstop, List.drop_left]
  | cons c body ih =>
      have hstarts : ¬ (front ++ [last]).isPrefixOf
          (c :: (body ++ ((front ++ [last]) ++ after))) = true := by
        rw [List.isPrefixOf_iff_prefix]
        exact not_prefix_of_not_infix hlast (List.cons_ne_nil c body) hbody
      rw [List.cons_append, cutAt?, if_neg hstarts,
        ih (fun hoccurs => hbody (List.infix_cons hoccurs))]
      rfl

/-! ## Tags -/

/-- What ends at a bracket still does with one more character in front. -/
theorem cut_cons {c : Char} {rest before after : List Char} {cut : Option (List Char × List Char)}
    (hcut : ∀ {front}, cut = some (front, after) → rest = front ++ '>' :: after)
    (h : cut.map (fun (front, behind) => (c :: front, behind)) = some (before, after)) :
    c :: rest = before ++ '>' :: after := by
  obtain ⟨⟨front, behind⟩, hrest, hpair⟩ := Option.map_eq_some_iff.mp h
  obtain ⟨rfl, rfl⟩ := Prod.mk.inj hpair
  rw [hcut hrest, List.cons_append]

/-- A tag ends at a bracket. -/
theorem cutTag?_eq_some {quote : Option Char} {cs before after : List Char}
    (h : cutTag? quote cs = some (before, after)) : cs = before ++ '>' :: after := by
  induction cs generalizing quote before with
  | nil => exact absurd h (by simp [cutTag?])
  | cons c rest ih =>
      cases quote with
      | none =>
          rw [cutTag?] at h
          split at h
          · next hend =>
              obtain ⟨rfl, rfl⟩ := Prod.mk.inj (Option.some.inj h)
              rw [hend, List.nil_append]
          · exact cut_cons ih h
      | some quote =>
          rw [cutTag?] at h
          exact cut_cons ih h

/-- A stretch of a tag that neither ends it nor leaves a quote open. -/
def Skips (front : List Char) : Prop :=
  ∀ rest, cutTag? none (front ++ rest)
    = (cutTag? none rest).map fun (before, after) => (front ++ before, after)

theorem Skips.append {first second : List Char} (hfirst : Skips first) (hsecond : Skips second) :
    Skips (first ++ second) := by
  intro rest
  rw [List.append_assoc, hfirst, hsecond, Option.map_map]
  refine congrArg (Option.map · _) (funext ?_)
  rintro ⟨before, after⟩
  simp

/-- A stretch without angle brackets and quotes. -/
theorem skips_plain {front : List Char}
    (h : ∀ c ∈ front, c ≠ '>' ∧ c ≠ '"' ∧ c ≠ '\'') : Skips front := by
  intro rest
  induction front with
  | nil => simp
  | cons c front ih =>
      obtain ⟨hend, hdouble, hsingle⟩ := h c List.mem_cons_self
      have hquote : ¬ (c = '"' ∨ c = '\'') := by
        rintro (hc | hc)
        · exact hdouble hc
        · exact hsingle hc
      rw [List.cons_append, cutTag?, if_neg hend, if_neg hquote,
        ih (fun d hd => h d (List.mem_cons_of_mem c hd)), Option.map_map]
      rfl

theorem cutTag?_quoted {value : List Char} (hvalue : '"' ∉ value) (rest : List Char) :
    cutTag? (some '"') (value ++ '"' :: rest)
      = (cutTag? none rest).map fun (before, after) => (value ++ '"' :: before, after) := by
  induction value with
  | nil => rw [List.nil_append, cutTag?, if_pos rfl]; rfl
  | cons c value ih =>
      rw [List.mem_cons, not_or] at hvalue
      rw [List.cons_append, cutTag?, if_neg (fun he => hvalue.1 he.symm), ih hvalue.2,
        Option.map_map]
      rfl

theorem skips_quoted {value : List Char} (hvalue : '"' ∉ value) :
    Skips ('"' :: (value ++ ['"'])) := by
  intro rest
  rw [List.cons_append, List.append_assoc, List.singleton_append, cutTag?, if_neg (by decide),
    if_pos (.inl rfl), cutTag?_quoted hvalue, Option.map_map]
  refine congrArg (Option.map · _) (funext ?_)
  rintro ⟨before, after⟩
  simp

/-! ## Declarations -/

/-- A declaration ends at a bracket. -/
theorem cutBalanced?_eq_some {depth : Nat} {cs before after : List Char}
    (h : cutBalanced? depth cs = some (before, after)) : cs = before ++ '>' :: after := by
  induction cs generalizing depth before with
  | nil => exact absurd h (by simp [cutBalanced?])
  | cons c rest ih =>
      rw [cutBalanced?.eq_def] at h
      dsimp only at h
      split at h
      · next hend =>
          split at h
          · obtain ⟨rfl, rfl⟩ := Prod.mk.inj (Option.some.inj h)
            rw [hend, List.nil_append]
          · exact cut_cons ih h
      · exact cut_cons ih h

/-! ## The first lexeme -/

/-- The first lexeme of a text, and what follows it. -/
def firstLexeme? : List Char → Option (Lexeme × List Char)
  | [] => none
  | c :: rest =>
    if c = '<' then (scanMarkup rest).toOption
    else some (.text (c :: rest.takeWhile (· != '<')), rest.dropWhile (· != '<'))

/-- A lexeme is what begins at an angle bracket, or the text in front of the next one. -/
theorem firstLexeme?_eq_some {cs rest : List Char} {lexeme : Lexeme}
    (h : firstLexeme? cs = some (lexeme, rest)) :
    (∃ behind, cs = '<' :: behind ∧ scanMarkup behind = .ok (lexeme, rest))
      ∨ ∃ c behind, c ≠ '<' ∧ cs = c :: behind
        ∧ lexeme = .text (c :: behind.takeWhile (· != '<'))
        ∧ rest = behind.dropWhile (· != '<') := by
  cases cs with
  | nil => exact absurd h (by simp [firstLexeme?])
  | cons c behind =>
      rw [firstLexeme?] at h
      split at h
      · next hc =>
          subst hc
          cases hscan : scanMarkup behind with
          | error ending =>
              rw [hscan] at h
              exact absurd h (by simp [Except.toOption])
          | ok pair =>
              rw [hscan] at h
              exact .inl ⟨behind, rfl, by rw [hscan, Option.some.inj h]⟩
      · next hc =>
          obtain ⟨rfl, rfl⟩ := Prod.mk.inj (Option.some.inj h)
          exact .inr ⟨c, behind, hc, rfl, rfl, rfl⟩

/-- Whatever begins neither an instruction nor a declaration is a tag. -/
theorem scanMarkup_tag {first : Char} (hquestion : first ≠ '?') (hbang : first ≠ '!')
    (rest : List Char) :
    scanMarkup (first :: rest) = closed .tag .tag (cutTag? none (first :: rest)) := by
  rw [scanMarkup]
  all_goals simp [hquestion, hbang]

/-- A tag is cut off if its content leaves no quote open. -/
theorem firstLexeme?_tag {first : Char} {content : List Char} (hquestion : first ≠ '?')
    (hbang : first ≠ '!') (hskips : Skips (first :: content)) (rest : List Char) :
    firstLexeme? ('<' :: (first :: content ++ '>' :: rest))
      = some (.tag (first :: content), rest) := by
  have hcut : cutTag? none (first :: content ++ '>' :: rest) = some (first :: content, rest) := by
    rw [hskips, cutTag?, if_pos rfl]
    simp
  rw [firstLexeme?, if_pos rfl, List.cons_append, scanMarkup_tag hquestion hbang,
    ← List.cons_append, hcut]
  rfl

theorem firstLexeme?_comment {body : List Char} (hbody : ¬ ['-', '-', '>'] <:+: body)
    (rest : List Char) :
    firstLexeme? (['<', '!', '-', '-'] ++ (body ++ (['-', '-', '>'] ++ rest)))
      = some (.comment ('-' :: body), rest) := by
  have hcut : cutAt? ['-', '-', '>'] (body ++ (['-', '-', '>'] ++ rest)) = some (body, rest) :=
    cutAt?_append ['-', '-'] (by decide) hbody rest
  change (closed .comment (fun content => .comment ('-' :: content))
    (cutAt? ['-', '-', '>'] (body ++ (['-', '-', '>'] ++ rest)))).toOption = _
  rw [hcut]
  rfl

theorem firstLexeme?_cdata {body : List Char} (hbody : ¬ [']', ']', '>'] <:+: body)
    (rest : List Char) :
    firstLexeme?
        (['<', '!', '[', 'C', 'D', 'A', 'T', 'A', '['] ++ (body ++ ([']', ']', '>'] ++ rest)))
      = some (.cdata (['C', 'D', 'A', 'T', 'A', '['] ++ body), rest) := by
  have hcontent : ¬ [']', ']', '>'] <:+: ['C', 'D', 'A', 'T', 'A', '['] ++ body := by
    simp only [List.cons_append, List.nil_append, List.infix_cons_iff, List.cons_prefix_cons]
    simpa using hbody
  have hcut : cutAt? [']', ']', '>']
      (['C', 'D', 'A', 'T', 'A', '['] ++ body ++ ([']', ']', '>'] ++ rest))
        = some (['C', 'D', 'A', 'T', 'A', '['] ++ body, rest) :=
    cutAt?_append [']', ']'] (by decide) hcontent rest
  change (closed .cdata .cdata (cutAt? [']', ']', '>']
    (['C', 'D', 'A', 'T', 'A', '['] ++ body ++ ([']', ']', '>'] ++ rest)))).toOption = _
  rw [hcut]
  rfl

theorem firstLexeme?_text {raw : List Char} (hne : raw ≠ []) (hraw : '<' ∉ raw) (rest : List Char) :
    firstLexeme? (raw ++ '<' :: rest) = some (.text raw, '<' :: rest) := by
  have hall : ∀ c ∈ raw, (c != '<') = true := by
    intro c hc
    rw [bne_iff_ne]
    rintro rfl
    exact hraw hc
  cases raw with
  | nil => exact absurd rfl hne
  | cons c raw =>
      have hc : c ≠ '<' := bne_iff_ne.mp (hall c List.mem_cons_self)
      have htail : ∀ d ∈ raw, (d != '<') = true := fun d hd => hall d (List.mem_cons_of_mem c hd)
      rw [List.cons_append, firstLexeme?, if_neg hc, List.takeWhile_append_of_pos htail,
        List.dropWhile_append_of_pos htail]
      simp

/-! ## What a lexeme stands for -/

theorem closed_eq_ok {construct : Construct} {make : List Char → Lexeme}
    {cut : Option (List Char × List Char)} {lexeme : Lexeme} {rest : List Char}
    (h : closed construct make cut = .ok (lexeme, rest)) :
    ∃ content, cut = some (content, rest) ∧ lexeme = make content := by
  cases cut with
  | none => exact absurd h (by simp [closed])
  | some pair =>
      obtain ⟨content, behind⟩ := pair
      obtain ⟨rfl, rfl⟩ := Prod.mk.inj (Except.ok.inj h)
      exact ⟨content, rfl, rfl⟩

/-- Behind its bracket, a construct is cut off as it is written. -/
theorem source_of_scanMarkup {cs rest : List Char} {lexeme : Lexeme}
    (h : scanMarkup cs = .ok (lexeme, rest)) : '<' :: cs = lexeme.source ++ rest := by
  rw [scanMarkup.eq_def] at h
  split at h
  · obtain ⟨content, hcut, rfl⟩ := closed_eq_ok h
    simp [Lexeme.source, (cutAt?_eq_some (by decide) hcut).1]
  · obtain ⟨content, hcut, rfl⟩ := closed_eq_ok h
    simp [Lexeme.source, (cutAt?_eq_some (by decide) hcut).1]
  · exact absurd h (by simp)
  · obtain ⟨content, hcut, rfl⟩ := closed_eq_ok h
    simp [Lexeme.source, (cutAt?_eq_some (by decide) hcut).1]
  · split at h
    · obtain ⟨content, hcut, rfl⟩ := closed_eq_ok h
      simp [Lexeme.source, cutBalanced?_eq_some hcut]
    · exact absurd h (by simp)
  · exact absurd h (by simp)
  · obtain ⟨content, hcut, rfl⟩ := closed_eq_ok h
    simp [Lexeme.source, cutTag?_eq_some hcut]

/-- A text is its first lexeme and what follows it. -/
theorem source_of_firstLexeme? {cs rest : List Char} {lexeme : Lexeme}
    (h : firstLexeme? cs = some (lexeme, rest)) : cs = lexeme.source ++ rest := by
  rcases firstLexeme?_eq_some h with ⟨behind, rfl, hscan⟩ | ⟨c, behind, -, rfl, rfl, rfl⟩
  · exact source_of_scanMarkup hscan
  · rw [Lexeme.source, List.cons_append, List.takeWhile_append_dropWhile]

/-! ## What a lexeme cannot hold -/

/-- The restriction on the content of a lexeme that comes from how it is cut off. -/
def Lexeme.IsWhole : Lexeme → Prop
  | .text raw => '<' ∉ raw
  | .comment content => ¬ ['-', '-', '>'] <:+: content.tail
  | .cdata content => ¬ [']', ']', '>'] <:+: content
  | _ => True

/-- A construct that is cut off does not hold its own terminator. -/
theorem isWhole_of_scanMarkup {cs rest : List Char} {lexeme : Lexeme}
    (h : scanMarkup cs = .ok (lexeme, rest)) : lexeme.IsWhole := by
  rw [scanMarkup.eq_def] at h
  split at h
  · obtain ⟨content, -, rfl⟩ := closed_eq_ok h
    trivial
  · obtain ⟨content, hcut, rfl⟩ := closed_eq_ok h
    exact (cutAt?_eq_some (by decide) hcut).2
  · exact absurd h (by simp)
  · obtain ⟨content, hcut, rfl⟩ := closed_eq_ok h
    exact (cutAt?_eq_some (by decide) hcut).2
  · split at h
    · obtain ⟨content, -, rfl⟩ := closed_eq_ok h
      trivial
    · exact absurd h (by simp)
  · exact absurd h (by simp)
  · obtain ⟨content, -, rfl⟩ := closed_eq_ok h
    trivial

/-- Text does not hold the bracket that begins something else. -/
theorem isWhole_of_firstLexeme? {cs rest : List Char} {lexeme : Lexeme}
    (h : firstLexeme? cs = some (lexeme, rest)) : lexeme.IsWhole := by
  rcases firstLexeme?_eq_some h with ⟨behind, -, hscan⟩ | ⟨c, behind, hc, -, rfl, -⟩
  · exact isWhole_of_scanMarkup hscan
  · intro hmem
    rcases List.mem_cons.mp hmem with hfirst | hrest
    · exact hc hfirst.symm
    · have hall := List.all_takeWhile (p := (· != '<')) (l := behind)
      exact absurd (List.all_eq_true.mp hall _ hrest) (by decide)

end IconCompiler.Markup
