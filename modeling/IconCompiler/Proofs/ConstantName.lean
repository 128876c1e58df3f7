import IconCompiler.Proofs.Generation.Account
import IconCompiler.Proofs.ItemName
import IconCompiler.Proofs.KebabName
import IconCompiler.Proofs.Text.Split

/-! # Usable names of constants

    The name of a constant is the identifier it is made for exactly if that can be
    used, so the icons whose names change are those a warning is about
    (`constantName_usable`).  The identifiers of kebab-case names that begin with a
    letter begin with a capital, and of the reserved words only `Self` does
    (`eq_self_of_isReserved`), so they need no change. -/

namespace IconCompiler.ItemName

open Text

/-- The only reserved word that begins with a capital. -/
theorem eq_self_of_isReserved {c : Char} {rest : List Char} (hcapital : c.isUpper = true)
    (h : isReserved (c :: rest) = true) : c :: rest = "Self".toList := by
  have honly : ∀ word ∈ keywords, word.toList.head?.any Char.isUpper = true → word = "Self" := by
    decide
  obtain ⟨word, hword, heq⟩ := List.any_eq_true.mp h
  have hchars := of_decide_eq_true heq
  rw [← hchars, honly word hword (by rw [hchars]; exact hcapital)]

/-- The capital of a letter. -/
theorem upperChar_lower {c : Char} (h : c.isLower = true) :
    ∃ capital, upperChar c = [capital] ∧ capital.isUpper = true ∧ isWordChar capital = true
      ∧ capital.isDigit = false :=
  forall_lower (p := fun c => ∃ capital, upperChar c = [capital] ∧ capital.isUpper = true
    ∧ isWordChar capital = true ∧ capital.isDigit = false)
    (fun n => ⟨(Char.ofNat (97 + n)).toUpper, by revert n; decide⟩) h

theorem isWordChar_of_isKebabChar {c : Char} (h : isKebabChar c = true) :
    isWordChar c = true := by
  rcases lower_or_digit h with hlower | hdigit
  · simp [isWordChar, Char.isAlphanum, (lower_spec hlower).2.2.1]
  · simp [isWordChar, Char.isAlphanum, hdigit]

/-- What a letter or a digit contributes to an identifier is made of word characters. -/
theorem step_kebabChar {c : Char} (h : isKebabChar c = true) (cursor : Cursor) :
    ∀ d ∈ (step cursor c).1, isWordChar d = true := by
  intro d hd
  rcases lower_or_digit h with hlower | hdigit
  · rw [step_lower hlower] at hd
    dsimp only at hd
    split at hd
    · obtain ⟨capital, hcapital, -, hword, -⟩ := upperChar_lower hlower
      rw [hcapital, List.mem_singleton] at hd
      rw [hd]
      exact hword
    · rw [List.mem_singleton.mp hd]
      exact isWordChar_of_isKebabChar h
  · rw [step_digit hdigit, List.mem_singleton] at hd
    rw [hd]
    exact isWordChar_of_isKebabChar h

theorem deriveFrom_cons (cursor : Cursor) (c : Char) (rest : List Char) :
    deriveFrom cursor (c :: rest)
      = (step cursor c).1 ++ deriveFrom (step cursor c).2 rest :=
  rfl

/-- What is derived from the rest of a kebab-case name is made of word characters. -/
theorem KebabTail.isWordChar {rest : List Char} (h : KebabTail rest) (cursor : Cursor) :
    ∀ d ∈ deriveFrom cursor rest, isWordChar d = true := by
  induction h generalizing cursor with
  | nil =>
      intro d hd
      exact absurd hd List.not_mem_nil
  | cons hc _ ih =>
      rw [deriveFrom_cons, List.forall_mem_append]
      exact ⟨step_kebabChar hc cursor, ih _⟩
  | @hyphen c rest hc _ ih =>
      rw [deriveFrom_cons, deriveFrom_cons, List.forall_mem_append, List.forall_mem_append]
      refine ⟨?_, step_kebabChar hc _, ih _⟩
      -- a hyphen contributes an underscore or nothing
      refine List.all_eq_true.mp ?_
      cases cursor <;> decide

/-- Nothing was hidden from a text without digits. -/
theorem eq_of_dropHidden {afterLetter : Bool} {cs : List Char}
    (h : ∀ d ∈ dropHidden afterLetter cs, d.isDigit = false) :
    dropHidden afterLetter cs = cs := by
  induction cs generalizing afterLetter with
  | nil => rfl
  | cons c rest ih =>
      rw [dropHidden] at h ⊢
      by_cases hhidden : c = '-' ∧ afterLetter = true ∧ rest.head?.any Char.isDigit = true
      · rw [if_pos hhidden] at h
        -- the digit behind the hyphen would still be there
        have hdigit := hhidden.2.2
        rw [← ih h] at hdigit
        cases hrest : dropHidden false rest with
        | nil =>
            rw [hrest] at hdigit
            exact absurd hdigit Bool.false_ne_true
        | cons d more =>
            rw [hrest] at hdigit h
            exact absurd ((h d (List.mem_cons_self ..)).symm.trans hdigit) Bool.false_ne_true
      · rw [if_neg hhidden] at h ⊢
        rw [ih (List.forall_mem_cons.mp h).2]

/-- Only the name `self` makes the reserved word `Self`. -/
theorem eq_self_of_deriveName {name : String} (h : IsKebab name)
    (hderived : deriveName name = "Self") : name = "self" := by
  have hkept : withoutHidden name = "self" := by
    rw [← recover_deriveName h, hderived]
    decide
  have hchars : dropHidden false name.toList = "self".toList := by
    rw [← hkept, withoutHidden, String.toList_ofList]
  rw [← String.toList_inj, ← hchars]
  refine (eq_of_dropHidden ?_).symm
  rw [hchars]
  exact eq_false_of_any (by decide)

/-- The identifier of a kebab-case name that begins with a letter can be used as it
    stands, but for that of `self`. -/
theorem isValid_deriveName {name : String} (h : IsKebab name)
    (hletter : name.toList.head?.any Char.isAlpha = true) (hself : name ≠ "self") :
    isValid (deriveName name) = true := by
  obtain ⟨c, rest, hname, hc, htail⟩ := h.exists_cons
  have hlower : c.isLower = true := by
    refine (lower_or_digit hc).resolve_right ?_
    intro hdigit
    rw [hname] at hletter
    exact absurd ((digit_spec hdigit).2.1.symm.trans hletter) Bool.false_ne_true
  obtain ⟨capital, hcapital, hupper, hword, hdigit⟩ := upperChar_lower hlower
  have hderived : deriveName name
      = String.ofList (capital :: deriveFrom .inWord rest) := by
    rw [deriveName, hname, deriveFrom_cons, step_lower hlower, if_pos rfl, hcapital]
    rfl
  rw [hderived, isValid_ofList_iff, hasShape_cons_iff, List.forall_mem_cons]
  refine ⟨?_, ⟨hdigit, hword, htail.isWordChar _⟩, ?_⟩
  · intro hdash
    rw [(List.cons.inj hdash).1] at hupper
    exact absurd hupper (by decide)
  · cases hreserved : isReserved (capital :: deriveFrom .inWord rest) with
    | false => rfl
    | true =>
        rw [eq_self_of_isReserved hupper hreserved] at hderived
        exact absurd (eq_self_of_deriveName h hderived) hself

theorem constantName_ne_iff (identifier : String) :
    constantName identifier ≠ identifier ↔ isValid identifier = false := by
  rw [Ne, constantName_eq_self_iff, Bool.not_eq_true]

/-- Every text gets a name that can be used, and keeps its own if it can.  Rendering
    warns of exactly the icons whose identifiers are changed, in their order, and
    the identifiers of kebab-case names that begin with a letter are not changed,
    that of `self` excepted. -/
theorem constantName_usable :
    (∀ identifier, isValid (constantName identifier) = true
      ∧ (constantName identifier = identifier ↔ isValid identifier = true)
      ∧ constantName (constantName identifier) = constantName identifier)
    ∧ (∀ (container : Container) (iconType : String) (icons : List Icon), icons ≠ [] →
      ∃ text warnings, Rendering.ofIcons container iconType icons = .source text icons warnings
        ∧ warnings.map (·.subject)
          = (icons.filter fun icon => constantName icon.identifier ≠ icon.identifier).map
            fun icon => (.changedName, some icon.name))
    ∧ ∀ name, IsKebab name → name.toList.head?.any Char.isAlpha = true → name ≠ "self" →
      constantName (deriveName name) = deriveName name
        ∧ ∀ icon : Icon, icon.identifier = deriveName name → Rendering.renamed? icon = none := by
  refine ⟨?_, ?_, ?_⟩
  · intro identifier
    have husable := isValid_constantName identifier
    exact ⟨husable, constantName_eq_self_iff identifier,
      (constantName_eq_self_iff _).mpr husable⟩
  · intro container iconType icons hne
    refine ⟨Rendering.sourceText container iconType icons, icons.filterMap Rendering.renamed?,
      ?_, ?_⟩
    · rw [Rendering.ofIcons, if_neg (by simpa using hne)]
    · rw [Rendering.subjects_renamed]
      simp only [constantName_ne_iff, Bool.decide_eq_false]
  · intro name hkebab hletter hself
    have husable := isValid_deriveName hkebab hletter hself
    refine ⟨(constantName_eq_self_iff _).mpr husable, ?_⟩
    intro icon hicon
    rw [Rendering.renamed?, hicon, if_pos husable]

/-- An icon whose name begins with a digit gets a warning, one whose name only holds
    digits further on does not, and `self` is the name that cannot be kept. -/
theorem constantName_usable_digits :
    IsKebab "icon-2d"
      ∧ constantName (deriveName "icon-2d") = "Icon2d"
      ∧ constantName (deriveName "self") = "Self_"
      ∧ ∃ text warnings,
        Rendering.ofIcons ⟨none, "icons"⟩ "Icon"
            [⟨"Icon2d", "icon-2d", .empty, ""⟩, ⟨"2d", "2d", .empty, ""⟩]
          = .source text
            [⟨"Icon2d", "icon-2d", .empty, ""⟩, ⟨"2d", "2d", .empty, ""⟩] warnings
        ∧ warnings.map (·.subject) = [(.changedName, some "2d")] := by
  have hkebab : IsKebab "icon-2d" :=
    ⟨[['i', 'c', 'o', 'n'], ['2', 'd']], by decide, by decide, by decide⟩
  refine ⟨hkebab, ?_, by decide, ?_⟩
  · exact (constantName_usable.2.2 "icon-2d" hkebab (by decide) (by decide)).1.trans (by decide)
  · obtain ⟨text, warnings, hsource, hwarnings⟩ := constantName_usable.2.1 ⟨none, "icons"⟩ "Icon"
      [⟨"Icon2d", "icon-2d", .empty, ""⟩, ⟨"2d", "2d", .empty, ""⟩] (List.cons_ne_nil _ _)
    exact ⟨text, warnings, hsource, hwarnings.trans (by decide)⟩

end IconCompiler.ItemName
