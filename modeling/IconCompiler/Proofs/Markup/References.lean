import IconCompiler.Markup.Reference
import IconCompiler.Markup.Node
import IconCompiler.Proofs.Results
import IconCompiler.Svg

/-! # What escaped text denotes

    Which characters a text with references stands for, said without the
    offsets that only faults report (`Denotes`).  Texts one behind the other
    denote what they denote one behind the other, and both ways to escape an
    attribute value give a text that denotes the value, whatever characters it
    is made of. -/

namespace IconCompiler.Markup.Reference

/-- A text with references, and the characters that it stands for. -/
inductive Denotes : List Char → List Char → Prop
  | nil : Denotes [] []
  | plain {c : Char} {raw value : List Char} : c ≠ '&' → Denotes raw value →
      Denotes (c :: raw) (c :: value)
  | reference {content raw value : List Char} {start : Nat} {c : Char} : ';' ∉ content →
      '&' ∉ content → resolve start content = .ok c → Denotes raw value →
      Denotes ('&' :: (content ++ ';' :: raw)) (c :: value)

/-- A reference extends to the next semicolon and holds no ampersand. -/
theorem cutSemicolon?_eq_some_iff {cs content after : List Char} :
    cutSemicolon? cs = some (content, after)
      ↔ cs = content ++ ';' :: after ∧ ';' ∉ content ∧ '&' ∉ content := by
  induction cs generalizing content with
  | nil => simp [cutSemicolon?]
  | cons c cs ih =>
      rw [cutSemicolon?]
      by_cases hsemicolon : c = ';'
      · subst hsemicolon
        rw [if_pos rfl]
        constructor
        · intro h
          obtain ⟨rfl, rfl⟩ := Prod.mk.inj (Option.some.inj h)
          exact ⟨rfl, List.not_mem_nil, List.not_mem_nil⟩
        · rintro ⟨hcs, hfree, -⟩
          cases content with
          | nil => rw [(List.cons.inj hcs).2]
          | cons d content =>
              rw [(List.cons.inj hcs).1] at hfree
              exact absurd List.mem_cons_self hfree
      · rw [if_neg hsemicolon]
        by_cases hampersand : c = '&'
        -- an ampersand that comes first is left where it is
        · subst hampersand
          rw [if_pos rfl]
          constructor
          · intro h
            exact absurd h (by simp)
          · rintro ⟨hcs, -, hfree⟩
            cases content with
            | nil => exact absurd (List.cons.inj hcs).1 (by decide)
            | cons d content =>
                rw [(List.cons.inj hcs).1] at hfree
                exact absurd List.mem_cons_self hfree
        · rw [if_neg hampersand, Option.map_eq_some_iff]
          constructor
          · rintro ⟨⟨front, behind⟩, hrest, hpair⟩
            obtain ⟨rfl, rfl⟩ := Prod.mk.inj hpair
            obtain ⟨rfl, hs, ha⟩ := ih.mp hrest
            refine ⟨rfl, ?_, ?_⟩
            · simp [hs, Ne.symm hsemicolon]
            · simp [ha, Ne.symm hampersand]
          · rintro ⟨hcs, hs, ha⟩
            cases content with
            | nil => exact absurd (List.cons.inj hcs).1 hsemicolon
            | cons d content =>
                obtain ⟨rfl, rfl⟩ := List.cons.inj hcs
                rw [List.mem_cons, not_or] at hs ha
                exact ⟨(content, after), ih.mpr ⟨rfl, hs.2, ha.2⟩, rfl⟩

/-- The place of a reference does not matter for what it stands for. -/
theorem resolve_eq_ok {start other : Nat} {content : List Char} {c : Char}
    (h : resolve start content = .ok c) : resolve other content = .ok c := by
  rw [resolve.eq_def] at h ⊢
  split at h
  · exact h
  · exact h
  · split at h
    · exact h
    · exact absurd h (by simp)

/-- What denotes something behind an ampersand begins with a reference. -/
theorem denotes_ampersand_iff (start : Nat) {cs value : List Char} :
    Denotes ('&' :: cs) value ↔ ∃ content after c more, cutSemicolon? cs = some (content, after)
      ∧ resolve start content = .ok c ∧ Denotes after more ∧ value = c :: more := by
  constructor
  · intro h
    cases h with
    | plain hne => exact absurd rfl hne
    | reference hsemicolon hampersand hresolve hafter =>
        exact ⟨_, _, _, _, cutSemicolon?_eq_some_iff.mpr ⟨rfl, hsemicolon, hampersand⟩,
          resolve_eq_ok hresolve, hafter, rfl⟩
  · rintro ⟨content, after, c, more, hcut, hresolve, hafter, rfl⟩
    obtain ⟨rfl, hsemicolon, hampersand⟩ := cutSemicolon?_eq_some_iff.mp hcut
    exact .reference hsemicolon hampersand hresolve hafter

theorem denotes_cons_iff {c : Char} (hc : c ≠ '&') {cs value : List Char} :
    Denotes (c :: cs) value ↔ ∃ more, Denotes cs more ∧ value = c :: more := by
  constructor
  · intro h
    cases h with
    | plain _ hrest => exact ⟨_, hrest, rfl⟩
    | reference => exact absurd rfl hc
  · rintro ⟨more, hrest, rfl⟩
    exact .plain hc hrest

/-- Replacing references succeeds on the texts that denote something, with what
    they denote. -/
theorem replaceFrom_eq_ok_iff {total offset : Nat} {raw value : List Char} :
    replaceFrom total offset raw = .ok value ↔ Denotes raw value := by
  -- a reference is replaced as a whole, so the induction is on the length
  induction hn : raw.length using Nat.strongRecOn generalizing raw offset value with
  | ind n ih =>
  subst hn
  cases raw with
  | nil =>
      rw [replaceFrom, Except.ok.injEq]
      constructor
      · rintro rfl
        exact .nil
      · intro h
        cases h
        rfl
  | cons c cs =>
      rw [replaceFrom]
      by_cases hc : c = '&'
      · subst hc
        rw [if_pos rfl, denotes_ampersand_iff (offset + 1)]
        split
        · next hnone => simp [hnone]
        · next content after hcut =>
            have hlength : after.length < ('&' :: cs).length :=
              Nat.lt_succ_of_le (length_of_cutSemicolon? hcut)
            simp only [bind_eq_ok_iff, hcut, ih _ hlength rfl, Option.some.injEq, Prod.mk.injEq]
            constructor
            · rintro ⟨c, hresolve, more, hmore, hvalue⟩
              exact ⟨content, after, c, more, ⟨rfl, rfl⟩, hresolve, hmore,
                (Except.ok.inj hvalue).symm⟩
            · rintro ⟨content', after', c, more, ⟨rfl, rfl⟩, hresolve, hmore, rfl⟩
              exact ⟨c, hresolve, more, hmore, rfl⟩
      · rw [if_neg hc, denotes_cons_iff hc]
        simp only [bind_eq_ok_iff, ih _ (Nat.lt_succ_self _) rfl]
        constructor
        · rintro ⟨more, hmore, hvalue⟩
          exact ⟨more, hmore, (Except.ok.inj hvalue).symm⟩
        · rintro ⟨more, hmore, rfl⟩
          exact ⟨more, hmore, rfl⟩

/-- What a text denotes is what its references are replaced by. -/
theorem replace_eq_ok_iff {raw value : List Char} : replace raw = .ok value ↔ Denotes raw value :=
  replaceFrom_eq_ok_iff

/-- Texts one behind the other denote what they denote one behind the other. -/
theorem Denotes.append {first second value more : List Char} (h : Denotes first value)
    (hmore : Denotes second more) : Denotes (first ++ second) (value ++ more) := by
  induction h with
  | nil => exact hmore
  | plain hc _ ih => exact .plain hc ih
  | reference hsemicolon hampersand hresolve _ ih =>
      rw [List.cons_append, List.append_assoc]
      exact .reference hsemicolon hampersand hresolve ih

/-! ## Escaped values -/

/-- A way to escape characters of an attribute value: what is written denotes the
    character, and holds no quote. -/
structure IsEscape (escape : Char → List Char) : Prop where
  denotes : ∀ c, Denotes (escape c) [c]
  no_quote : ∀ c, '"' ∉ escape c

/-- An escaped value denotes the value. -/
theorem IsEscape.denotes_value {escape : Char → List Char} (h : IsEscape escape)
    (value : List Char) : Denotes (value.flatMap escape) value := by
  induction value with
  | nil => exact .nil
  | cons c value ih => exact (h.denotes c).append ih

theorem IsEscape.no_quote_value {escape : Char → List Char} (h : IsEscape escape)
    (value : List Char) : '"' ∉ value.flatMap escape := by
  rw [List.mem_flatMap]
  rintro ⟨c, -, hc⟩
  exact h.no_quote c hc

theorem denotes_reference (content : List Char) {c : Char} (hsemicolon : ';' ∉ content)
    (hampersand : '&' ∉ content) (hresolve : resolve 0 content = .ok c) :
    Denotes ('&' :: (content ++ [';'])) [c] :=
  .reference hsemicolon hampersand hresolve .nil

theorem denotes_amp : Denotes ['&', 'a', 'm', 'p', ';'] ['&'] :=
  denotes_reference ['a', 'm', 'p'] (by decide) (by decide) rfl

theorem denotes_lt : Denotes ['&', 'l', 't', ';'] ['<'] :=
  denotes_reference ['l', 't'] (by decide) (by decide) rfl

theorem denotes_gt : Denotes ['&', 'g', 't', ';'] ['>'] :=
  denotes_reference ['g', 't'] (by decide) (by decide) rfl

theorem denotes_quot : Denotes ['&', 'q', 'u', 'o', 't', ';'] ['"'] :=
  denotes_reference ['q', 'u', 'o', 't'] (by decide) (by decide) rfl

theorem isEscape_icon : IsEscape SvgIcon.escapeChar where
  denotes c := by
    rw [SvgIcon.escapeChar]
    split
    · next hc => exact hc ▸ denotes_amp
    split
    · next hc => exact hc ▸ denotes_lt
    split
    · next hc => exact hc ▸ denotes_gt
    split
    · next hc => exact hc ▸ denotes_quot
    · next hc _ _ _ => exact .plain hc .nil
  no_quote c := by
    rw [SvgIcon.escapeChar]
    split
    · decide
    split
    · decide
    split
    · decide
    split
    · decide
    · next hc =>
        rw [List.mem_singleton]
        exact fun he => hc he.symm

/-- In a document, the white space that is not a blank is escaped as well. -/
theorem escapeChar_cases (c : Char) :
    c = '\n' ∨ c = '\r' ∨ c = '\t' ∨ Markup.escapeChar c = SvgIcon.escapeChar c := by
  by_cases hline : c = '\n'
  · exact .inl hline
  by_cases hreturn : c = '\r'
  · exact .inr (.inl hreturn)
  by_cases htab : c = '\t'
  · exact .inr (.inr (.inl htab))
  refine .inr (.inr (.inr ?_))
  rw [Markup.escapeChar, if_neg hline, if_neg hreturn, if_neg htab, SvgIcon.escapeChar]

theorem isEscape_markup : IsEscape Markup.escapeChar where
  denotes c := by
    rcases escapeChar_cases c with rfl | rfl | rfl | hsame
    · exact denotes_reference ['#', 'x', 'A'] (by decide) (by decide) rfl
    · exact denotes_reference ['#', 'x', 'D'] (by decide) (by decide) rfl
    · exact denotes_reference ['#', 'x', '9'] (by decide) (by decide) rfl
    · rw [hsame]
      exact isEscape_icon.denotes c
  no_quote c := by
    rcases escapeChar_cases c with rfl | rfl | rfl | hsame
    · decide
    · decide
    · decide
    · rw [hsame]
      exact isEscape_icon.no_quote c

end IconCompiler.Markup.Reference
