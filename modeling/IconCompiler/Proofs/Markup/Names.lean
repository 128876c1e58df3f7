import IconCompiler.Markup.Name
import IconCompiler.Text.CodeRange

/-! # Qualified names

    The names that documents with namespaces are made of: a name without a
    colon, or two of them with a colon in between.  What matters of them is that
    no character of a name means anything in a tag, and that the local part of a
    qualified name is a name without a colon again. -/

namespace IconCompiler.Markup

open Text

/-- The code points that a name without a colon can begin with. -/
def nameStartRanges : List (Nat × Nat) := [
  (0x41, 0x5A), (0x5F, 0x5F), (0x61, 0x7A), (0xC0, 0xD6), (0xD8, 0xF6), (0xF8, 0x2FF),
  (0x370, 0x37D), (0x37F, 0x1FFF), (0x200C, 0x200D), (0x2070, 0x218F), (0x2C00, 0x2FEF),
  (0x3001, 0xD7FF), (0xF900, 0xFDCF), (0xFDF0, 0xFFFD), (0x10000, 0xEFFFF)]

/-- The code points that can follow in a name, besides those. -/
def nameRestRanges : List (Nat × Nat) := [
  (0x2D, 0x2E), (0x30, 0x39), (0xB7, 0xB7), (0x300, 0x36F), (0x203F, 0x2040)]

/-- Whether a name can begin with `c`. -/
def isNameStart (c : Char) : Bool :=
  inRanges nameStartRanges c.toNat

/-- Whether `c` can stand in a name. -/
def isNameChar (c : Char) : Bool :=
  isNameStart c || inRanges nameRestRanges c.toNat

/-- Whether a text is a name without a colon. -/
def isPlainName : List Char → Bool
  | [] => false
  | c :: rest => isNameStart c && rest.all isNameChar

/-- Whether a text is a name without a colon, or two of them with a colon in
    between. -/
def isQualifiedName (name : List Char) : Bool :=
  isPlainName (name.takeWhile (· != ':'))
    && match name.dropWhile (· != ':') with
      | [] => true
      | _ :: behind => isPlainName behind

/-- A character of a name is none of those that cannot stand in one. -/
theorem ne_of_isNameChar {c d : Char} (hc : isNameChar c = true) (hd : isNameChar d = false) :
    c ≠ d := by
  rintro rfl
  rw [hc] at hd
  exact Bool.false_ne_true hd.symm

theorem isSpace_of_isNameChar {c : Char} (hc : isNameChar c = true) : isSpace c = false := by
  have hblank := ne_of_isNameChar hc (d := ' ') (by decide)
  have htab := ne_of_isNameChar hc (d := '\t') (by decide)
  have hreturn := ne_of_isNameChar hc (d := '\r') (by decide)
  have hline := ne_of_isNameChar hc (d := '\n') (by decide)
  simp [isSpace, hblank, htab, hreturn, hline]

theorem isNameChar_of_isPlainName {name : List Char} (h : isPlainName name = true) :
    ∀ c ∈ name, isNameChar c = true := by
  cases name with
  | nil => exact absurd h Bool.false_ne_true
  | cons first rest =>
      rw [isPlainName, Bool.and_eq_true, List.all_eq_true] at h
      intro c hc
      rcases List.mem_cons.mp hc with rfl | hrest
      · rw [isNameChar, h.1, Bool.true_or]
      · exact h.2 c hrest

theorem not_mem_of_isPlainName {name : List Char} (h : isPlainName name = true) {d : Char}
    (hd : isNameChar d = false) : d ∉ name :=
  fun hmem => ne_of_isNameChar (isNameChar_of_isPlainName h d hmem) hd rfl

theorem exists_eq_cons_of_isPlainName {name : List Char} (h : isPlainName name = true) :
    ∃ first rest, name = first :: rest ∧ isNameChar first = true := by
  cases name with
  | nil => exact absurd h Bool.false_ne_true
  | cons first rest =>
      exact ⟨first, rest, rfl, isNameChar_of_isPlainName h first List.mem_cons_self⟩

theorem localName_of_isPlainName {name : List Char} (h : isPlainName name = true) :
    localName name = name := by
  have hcolon : ¬ name.contains ':' = true := by
    rw [List.contains_iff_mem]
    exact not_mem_of_isPlainName h (by decide)
  rw [localName, if_neg hcolon]

/-- A name without a colon declares a namespace only if it is the bare keyword. -/
theorem isNamespaceBinding_of_isPlainName {name : List Char} (h : isPlainName name = true) :
    isNamespaceBinding name = (name == ['x', 'm', 'l', 'n', 's']) := by
  have hbelow : ['x', 'm', 'l', 'n', 's', ':'].isPrefixOf name = false := by
    rw [← Bool.not_eq_true, List.isPrefixOf_iff_prefix]
    rintro ⟨rest, rfl⟩
    exact not_mem_of_isPlainName h (d := ':') (by decide) (by simp)
  rw [isNamespaceBinding, hbelow, Bool.or_false]

/-- The local part of a qualified name is a name without a colon. -/
theorem isPlainName_localName {name : List Char} (h : isQualifiedName name = true) :
    isPlainName (localName name) = true := by
  rw [isQualifiedName, Bool.and_eq_true] at h
  obtain ⟨hfront, hbehind⟩ := h
  have hsplit := List.takeWhile_append_dropWhile (p := (· != ':')) (l := name)
  rw [localName]
  split
  · next hcolon =>
      cases hdrop : name.dropWhile (· != ':') with
      | nil =>
          -- the part in front of the first colon is no name if it holds one
          rw [hdrop, List.append_nil] at hsplit
          rw [hsplit] at hfront
          exact absurd (List.contains_iff_mem.mp hcolon)
            (not_mem_of_isPlainName hfront (by decide))
      | cons c behind =>
          rw [hdrop] at hbehind
          exact hbehind
  · next hcolon =>
      have hall : ∀ c ∈ name, (c != ':') = true := by
        intro c hc
        rw [bne_iff_ne]
        rintro rfl
        exact hcolon (List.contains_iff_mem.mpr hc)
      have hname : (name ++ []).takeWhile (· != ':') = name ++ [].takeWhile (· != ':') :=
        List.takeWhile_append_of_pos hall
      rw [List.append_nil, List.takeWhile_nil, List.append_nil] at hname
      rwa [hname] at hfront

end IconCompiler.Markup
