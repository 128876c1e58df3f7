import IconCompiler.Toml.Expression

/-! # TOML statements

    A document is a list of statements, each on lines of its own: a table
    begins, one more table under a key begins, or a key path gets a value.
    Empty lines and comments stand anywhere between them. -/

namespace IconCompiler.Toml

open Text

/-- What a document says in one place. -/
inductive Statement where
  /-- A table begins. -/
  | table (path : KeyPath)
  /-- One more table under a key begins. -/
  | element (path : KeyPath)
  /-- A key path gets a value. -/
  | pair (path : KeyPath) (value : Value)

/-- What follows a line break, or the end of the text. -/
def dropLineBreak? (cs : List Char) : Option (List Char) :=
  if cs = [] then some [] else dropNewline? cs

/-- What follows a line of which only blanks and a comment are left. -/
def dropLine? (cs : List Char) : Option (List Char) :=
  match cs.dropWhile isSpace with
  | '#' :: rest => dropLineBreak? (rest.dropWhile isPlain)
  | rest => dropLineBreak? rest

theorem length_of_dropLineBreak? {cs after : List Char} (h : dropLineBreak? cs = some after) :
    after = [] ∨ after.length < cs.length := by
  rw [dropLineBreak?] at h
  split at h
  · cases h
    exact Or.inl rfl
  · exact Or.inr (length_of_dropNewline? h)

theorem length_of_dropLine? {cs after : List Char} (h : dropLine? cs = some after) :
    after = [] ∨ after.length < cs.length := by
  have hle := length_dropWhile_le isSpace cs
  rw [dropLine?] at h
  split at h
  · next rest hd =>
    have := length_dropWhile_le isPlain rest
    rw [hd, List.length_cons] at hle
    rcases length_of_dropLineBreak? h with he | hl
    · exact Or.inl he
    · exact Or.inr (by omega)
  · rcases length_of_dropLineBreak? h with he | hl
    · exact Or.inl he
    · exact Or.inr (by omega)

/-- Read a statement, without the rest of its line. -/
def readStatement? (cs : List Char) : Option (Statement × List Char) :=
  match cs.dropWhile isSpace with
  | '[' :: '[' :: rest =>
    match readPath? rest with
    | some (path, ']' :: ']' :: after) => some (.element path, after)
    | _ => none
  | '[' :: rest =>
    match readPath? rest with
    | some (path, ']' :: after) => some (.table path, after)
    | _ => none
  | rest =>
    match readPath? rest with
    | some (path, '=' :: behind) =>
      (readValue? (behind.dropWhile isSpace)).map fun (value, after) => (.pair path value, after)
    | _ => none

theorem length_of_readStatement? {cs after : List Char} {statement : Statement}
    (h : readStatement? cs = some (statement, after)) : after.length < cs.length := by
  have hle := length_dropWhile_le isSpace cs
  rw [readStatement?] at h
  split at h
  · next rest hd =>
    rw [hd, List.length_cons, List.length_cons] at hle
    split at h
    · next path behind hp =>
      have := length_of_readPath? hp
      cases h
      simp only [List.length_cons] at this
      omega
    · simp at h
  · next rest _ hd =>
    rw [hd, List.length_cons] at hle
    split at h
    · next path behind hp =>
      have := length_of_readPath? hp
      cases h
      simp only [List.length_cons] at this
      omega
    · simp at h
  · split at h
    · next path behind hp =>
      obtain ⟨pair, hv, he⟩ := Option.map_eq_some_iff.1 h
      simp only [Prod.mk.injEq] at he
      have h₁ := length_of_readPath? hp
      have h₂ := length_of_readValue? hv
      have h₃ := length_dropWhile_le isSpace behind
      simp only [List.length_cons] at h₁
      rw [← he.2]
      omega
    · simp at h

/-- What follows the rest of a line is shorter than a text that is not empty and
    no shorter than the line. -/
theorem length_lt_of_dropLine? {cs line rest : List Char} (hne : cs ≠ [])
    (hle : line.length ≤ cs.length) (h : dropLine? line = some rest) :
    rest.length < cs.length := by
  have hpos := List.length_pos_iff.2 hne
  rcases length_of_dropLine? h with he | hl
  · rw [he]
    exact hpos
  · omega

/-- Read the statements of a document. -/
def readStatements? (cs : List Char) : Option (List Statement) :=
  if hne : cs = [] then some []
  else
    match hl : dropLine? cs with
    | some rest =>
      have : rest.length < cs.length := length_lt_of_dropLine? hne (Nat.le_refl _) hl
      readStatements? rest
    | none =>
      match hs : readStatement? cs with
      | none => none
      | some (statement, after) =>
        match ha : dropLine? after with
        | none => none
        | some rest =>
          have : rest.length < cs.length :=
            length_lt_of_dropLine? hne (Nat.le_of_lt (length_of_readStatement? hs)) ha
          (readStatements? rest).map (statement :: ·)
termination_by cs.length

end IconCompiler.Toml
