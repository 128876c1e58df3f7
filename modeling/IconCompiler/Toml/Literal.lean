import IconCompiler.Text.Hex
import IconCompiler.Text.Split

/-! # TOML strings

    A string is written between quotes, on one line or over several, with or
    without escapes.  Each reader starts behind the opening quotes and gives the
    text and what follows the closing ones. -/

namespace IconCompiler.Toml

open Text

/-- Whether `c` may stand between the parts of a line. -/
def isSpace (c : Char) : Bool :=
  c == ' ' || c == '\t'

/-- Whether `c` may stand in a line as it is: no control but the tab. -/
def isPlain (c : Char) : Bool :=
  c == '\t' || (0x20 ≤ c.toNat && c.toNat != 0x7F)

/-- What follows a line break. -/
def dropNewline? : List Char → Option (List Char)
  | '\n' :: rest => some rest
  | '\r' :: '\n' :: rest => some rest
  | _ => none

/-- A text without a line break at its start. -/
def dropNewline (cs : List Char) : List Char :=
  (dropNewline? cs).getD cs

/-- A text without the blanks and line breaks at its start. -/
def dropBlank : List Char → List Char
  | '\n' :: rest => dropBlank rest
  | '\r' :: '\n' :: rest => dropBlank rest
  | c :: rest => if isSpace c then dropBlank rest else c :: rest
  | [] => []

/-- The character whose code is given by the next `count` digits. -/
def readCode? (count : Nat) (cs : List Char) : Option (Char × List Char) :=
  if count ≤ cs.length then
    match (cs.take count).foldlM (fun n c => (hexValue? c).map (16 * n + ·)) 0 with
    | some n => if n.isValidChar then some (Char.ofNat n, cs.drop count) else none
    | none => none
  else none

/-- The letters that may follow a backslash, and what they stand for. -/
def escapes : List (Char × Char) := [
  ('b', '\x08'), ('t', '\t'), ('n', '\n'), ('f', '\x0c'), ('r', '\r'), ('"', '"'), ('\\', '\\')]

/-- The character that an escape stands for, behind its backslash. -/
def readEscape? : List Char → Option (Char × List Char)
  | 'u' :: rest => readCode? 4 rest
  | 'U' :: rest => readCode? 8 rest
  | e :: rest => (escapes.lookup e).map fun c => (c, rest)
  | [] => none

theorem length_of_readCode? {count : Nat} {cs after : List Char} {c : Char}
    (h : readCode? count cs = some (c, after)) : after.length ≤ cs.length := by
  rw [readCode?] at h
  split at h
  · split at h
    · split at h
      · cases h
        simp
      · simp at h
    · simp at h
  · simp at h

theorem length_of_readEscape? {cs after : List Char} {c : Char}
    (h : readEscape? cs = some (c, after)) : after.length ≤ cs.length := by
  rw [readEscape?.eq_def] at h
  split at h
  · have := length_of_readCode? h
    simp only [List.length_cons]
    omega
  · have := length_of_readCode? h
    simp only [List.length_cons]
    omega
  · next e rest _ _ =>
    cases hl : escapes.lookup e with
    | none => simp [hl] at h
    | some d =>
      simp only [hl, Option.map_some, Option.some.injEq, Prod.mk.injEq] at h
      simp only [← h.2, List.length_cons]
      omega
  · simp at h

theorem length_dropBlank_le (cs : List Char) : (dropBlank cs).length ≤ cs.length := by
  fun_induction dropBlank cs with
  | case1 rest ih =>
    simp only [List.length_cons]
    omega
  | case2 rest ih =>
    simp only [List.length_cons]
    omega
  | case3 c rest _ _ _ ih =>
    simp only [List.length_cons]
    omega
  | case4 => exact Nat.le_refl _
  | case5 => exact Nat.le_refl _

theorem length_of_dropNewline? {cs after : List Char} (h : dropNewline? cs = some after) :
    after.length < cs.length := by
  rw [dropNewline?.eq_def] at h
  split at h
  · cases h
    simp
  · cases h
    simp only [List.length_cons]
    omega
  · simp at h

theorem length_dropNewline_le (cs : List Char) : (dropNewline cs).length ≤ cs.length := by
  rw [dropNewline]
  cases h : dropNewline? cs with
  | none => exact Nat.le_refl _
  | some after =>
    have := length_of_dropNewline? h
    simp only [Option.getD_some]
    omega

/-- Read a string with escapes on one line. -/
def readBasic? (cs : List Char) : Option (List Char × List Char) :=
  match cs with
  | [] => none
  | '"' :: rest => some ([], rest)
  | '\\' :: rest =>
    match h : readEscape? rest with
    | none => none
    | some (c, after) =>
      have := length_of_readEscape? h
      (readBasic? after).map fun (text, behind) => (c :: text, behind)
  | c :: rest =>
    if isPlain c then (readBasic? rest).map fun (text, behind) => (c :: text, behind) else none
termination_by cs.length

/-- Read a string without escapes on one line. -/
def readLiteral? : List Char → Option (List Char × List Char)
  | [] => none
  | '\'' :: rest => some ([], rest)
  | c :: rest =>
    if isPlain c then (readLiteral? rest).map fun (text, behind) => (c :: text, behind) else none

/-- Where the text goes on behind a backslash at the end of a line. -/
def continuation? (cs : List Char) : Option (List Char) :=
  (dropNewline? (cs.dropWhile isSpace)).map dropBlank

theorem length_of_continuation? {cs after : List Char} (h : continuation? cs = some after) :
    after.length ≤ cs.length := by
  rw [continuation?] at h
  cases hn : dropNewline? (cs.dropWhile isSpace) with
  | none => simp [hn] at h
  | some rest =>
    simp only [hn, Option.map_some, Option.some.injEq] at h
    have h₁ := length_of_dropNewline? hn
    have h₂ := length_dropWhile_le isSpace cs
    have h₃ := length_dropBlank_le rest
    rw [h] at h₃
    omega

/-- Read a string with escapes that may run over several lines.  One or two
    quotes are part of it, even right in front of the closing ones. -/
def readLongBasic? (cs : List Char) : Option (List Char × List Char) :=
  match cs with
  | [] => none
  | '"' :: '"' :: '"' :: '"' :: '"' :: rest => some (['"', '"'], rest)
  | '"' :: '"' :: '"' :: '"' :: rest => some (['"'], rest)
  | '"' :: '"' :: '"' :: rest => some ([], rest)
  | '"' :: rest => (readLongBasic? rest).map fun (text, behind) => ('"' :: text, behind)
  | '\\' :: rest =>
    match hc : continuation? rest with
    | some after =>
      have := length_of_continuation? hc
      readLongBasic? after
    | none =>
      match h : readEscape? rest with
      | none => none
      | some (c, after) =>
        have := length_of_readEscape? h
        (readLongBasic? after).map fun (text, behind) => (c :: text, behind)
  | '\r' :: '\n' :: rest => (readLongBasic? rest).map fun (text, behind) => ('\n' :: text, behind)
  | c :: rest =>
    if c = '\n' ∨ isPlain c then
      (readLongBasic? rest).map fun (text, behind) => (c :: text, behind)
    else none
termination_by cs.length

/-- Read a string without escapes that may run over several lines. -/
def readLongLiteral? : List Char → Option (List Char × List Char)
  | [] => none
  | '\'' :: '\'' :: '\'' :: '\'' :: '\'' :: rest => some (['\'', '\''], rest)
  | '\'' :: '\'' :: '\'' :: '\'' :: rest => some (['\''], rest)
  | '\'' :: '\'' :: '\'' :: rest => some ([], rest)
  | '\'' :: rest => (readLongLiteral? rest).map fun (text, behind) => ('\'' :: text, behind)
  | '\r' :: '\n' :: rest =>
    (readLongLiteral? rest).map fun (text, behind) => ('\n' :: text, behind)
  | c :: rest =>
    if c = '\n' ∨ isPlain c then
      (readLongLiteral? rest).map fun (text, behind) => (c :: text, behind)
    else none

theorem length_of_map_cons {result : Option (List Char × List Char)} {c : Char}
    {text behind : List Char} {n : Nat}
    (hr : ∀ text behind, result = some (text, behind) → behind.length < n)
    (h : result.map (fun (text, behind) => (c :: text, behind)) = some (text, behind)) :
    behind.length < n := by
  cases hres : result with
  | none => simp [hres] at h
  | some p =>
    simp only [hres, Option.map_some, Option.some.injEq, Prod.mk.injEq] at h
    exact hr p.1 behind (by rw [hres, ← h.2])

theorem length_of_readBasic? {cs text behind : List Char}
    (h : readBasic? cs = some (text, behind)) : behind.length < cs.length := by
  fun_induction readBasic? cs generalizing text behind with
  | case1 => simp at h
  | case2 rest =>
    cases h
    simp
  | case3 => simp at h
  | case4 rest c after he hlen ih =>
    have := length_of_map_cons (fun _ _ => ih) h
    simp only [List.length_cons]
    omega
  | case5 c rest _ _ _ ih =>
    have := length_of_map_cons (fun _ _ => ih) h
    simp only [List.length_cons]
    omega
  | case6 => simp at h

theorem length_of_readLiteral? {cs text behind : List Char}
    (h : readLiteral? cs = some (text, behind)) : behind.length < cs.length := by
  fun_induction readLiteral? cs generalizing text behind with
  | case1 => simp at h
  | case2 rest =>
    cases h
    simp
  | case3 c rest _ _ ih =>
    have := length_of_map_cons (fun _ _ => ih) h
    simp only [List.length_cons]
    omega
  | case4 => simp at h

theorem length_of_readLongBasic? {cs text behind : List Char}
    (h : readLongBasic? cs = some (text, behind)) : behind.length < cs.length := by
  fun_induction readLongBasic? cs generalizing text behind with
  | case1 => simp at h
  | case2 rest | case3 rest | case4 rest =>
    cases h
    simp only [List.length_cons]
    omega
  | case5 rest _ _ _ ih =>
    have := length_of_map_cons (fun _ _ => ih) h
    simp only [List.length_cons]
    omega
  | case6 rest after hc hlen ih =>
    have := ih h
    simp only [List.length_cons]
    omega
  | case7 => simp at h
  | case8 rest hc c after he hlen ih =>
    have := length_of_map_cons (fun _ _ => ih) h
    simp only [List.length_cons]
    omega
  | case9 rest ih =>
    have := length_of_map_cons (fun _ _ => ih) h
    simp only [List.length_cons]
    omega
  | case10 c rest _ _ _ _ _ _ _ ih =>
    have := length_of_map_cons (fun _ _ => ih) h
    simp only [List.length_cons]
    omega
  | case11 => simp at h

theorem length_of_readLongLiteral? {cs text behind : List Char}
    (h : readLongLiteral? cs = some (text, behind)) : behind.length < cs.length := by
  fun_induction readLongLiteral? cs generalizing text behind with
  | case1 => simp at h
  | case2 rest | case3 rest | case4 rest =>
    cases h
    simp only [List.length_cons]
    omega
  | case5 rest _ _ _ ih =>
    have := length_of_map_cons (fun _ _ => ih) h
    simp only [List.length_cons]
    omega
  | case6 rest ih =>
    have := length_of_map_cons (fun _ _ => ih) h
    simp only [List.length_cons]
    omega
  | case7 c rest _ _ _ _ _ _ ih =>
    have := length_of_map_cons (fun _ _ => ih) h
    simp only [List.length_cons]
    omega
  | case8 => simp at h

/-- Read a string of any form, from its opening quotes on. -/
def readString? : List Char → Option (List Char × List Char)
  | '"' :: '"' :: '"' :: rest => readLongBasic? (dropNewline rest)
  | '"' :: rest => readBasic? rest
  | '\'' :: '\'' :: '\'' :: rest => readLongLiteral? (dropNewline rest)
  | '\'' :: rest => readLiteral? rest
  | _ => none

theorem length_of_readString? {cs text behind : List Char}
    (h : readString? cs = some (text, behind)) : behind.length < cs.length := by
  rw [readString?.eq_def] at h
  split at h
  · next rest =>
    have h₁ := length_of_readLongBasic? h
    have h₂ := length_dropNewline_le rest
    simp only [List.length_cons]
    omega
  · have := length_of_readBasic? h
    simp only [List.length_cons]
    omega
  · next rest =>
    have h₁ := length_of_readLongLiteral? h
    have h₂ := length_dropNewline_le rest
    simp only [List.length_cons]
    omega
  · have := length_of_readLiteral? h
    simp only [List.length_cons]
    omega
  · simp at h

end IconCompiler.Toml
