import IconCompiler.Toml.Scalar
import IconCompiler.Toml.Table

/-! # TOML expressions

    A value is a string, a scalar, or an array or table of values in brackets.
    It is read part by part; what has been read so far is a state: the brackets
    that are still open, and what may come next. -/

namespace IconCompiler.Toml

open Text

/-- An open bracket; what it holds is listed last first. -/
inductive Frame where
  | array (items : List Value)
  /-- A table that waits for the value of a key path. -/
  | table (pairs : List (KeyPath × Value)) (path : KeyPath)

/-- What has been read, with the open brackets, the innermost first. -/
inductive State where
  /-- An item of an array may follow. -/
  | item (items : List Value) (outer : List Frame)
  /-- A pair of a table may follow. -/
  | pair (pairs : List (KeyPath × Value)) (outer : List Frame)
  /-- A value is complete. -/
  | complete (value : Value) (outer : List Frame)

/-- What follows the line of a comment is shorter than the comment. -/
theorem length_of_comment {rest after : List Char}
    (h : dropNewline? (rest.dropWhile isPlain) = some after) : after.length < rest.length + 1 := by
  have h₁ := length_of_dropNewline? h
  have h₂ := length_dropWhile_le isPlain rest
  omega

/-- A text without the blanks, line breaks and comments at its start. -/
def dropGap (cs : List Char) : List Char :=
  match cs with
  | [] => []
  | '\n' :: rest => dropGap rest
  | '\r' :: '\n' :: rest => dropGap rest
  | '#' :: rest =>
    match h : dropNewline? (rest.dropWhile isPlain) with
    | none => '#' :: rest
    | some after =>
      have : after.length < rest.length + 1 := length_of_comment h
      dropGap after
  | c :: rest => if isSpace c then dropGap rest else c :: rest
termination_by cs.length

theorem length_dropGap_le (cs : List Char) : (dropGap cs).length ≤ cs.length := by
  fun_induction dropGap cs with
  | case1 => exact Nat.le_refl _
  | case2 rest ih =>
    simp only [List.length_cons]
    omega
  | case3 rest ih =>
    simp only [List.length_cons]
    omega
  | case4 => exact Nat.le_refl _
  | case5 rest after h hlen ih =>
    simp only [List.length_cons]
    omega
  | case6 c rest _ _ _ _ ih =>
    simp only [List.length_cons]
    omega
  | case7 => exact Nat.le_refl _

namespace State

/-- Begin a value. -/
def beginValue (outer : List Frame) (cs : List Char) : Option (State × List Char) :=
  match cs with
  | '[' :: rest => if outer.length + 1 < maxNesting then some (.item [] outer, rest) else none
  | '\x7b' :: rest => if outer.length + 1 < maxNesting then some (.pair [] outer, rest) else none
  | '"' :: _ | '\'' :: _ =>
    (readString? cs).map fun (text, after) =>
      (.complete (.string (String.ofList text)) outer, after)
  | _ => (readScalar? cs).map fun (value, after) => (.complete value outer, after)

/-- Go on behind a value inside an array. -/
def afterItem (items : List Value) (outer : List Frame) (cs : List Char) :
    Option (State × List Char) :=
  match dropGap cs with
  | ',' :: rest => some (.item items outer, rest)
  | ']' :: rest => some (.complete (.array items.reverse) outer, rest)
  | _ => none

/-- Go on behind a pair inside a table. -/
def afterPair (pairs : List (KeyPath × Value)) (outer : List Frame) (cs : List Char) :
    Option (State × List Char) :=
  match cs.dropWhile isSpace with
  | ',' :: rest => some (.pair pairs outer, rest)
  | '\x7d' :: rest => (tableOfPairs? pairs.reverse).map fun table => (.complete table outer, rest)
  | _ => none

/-- Begin a pair inside a table: its key path, the equals sign, and its value. -/
def beginPair (pairs : List (KeyPath × Value)) (outer : List Frame) (cs : List Char) :
    Option (State × List Char) :=
  match readPath? cs with
  | some (path, '=' :: rest) => beginValue (.table pairs path :: outer) (rest.dropWhile isSpace)
  | _ => none

/-- Read the next part.  An array may end behind a comma, a table may not. -/
def step (state : State) (cs : List Char) : Option (State × List Char) :=
  match state with
  | item items outer =>
    match dropGap cs with
    | ']' :: rest => some (.complete (.array items.reverse) outer, rest)
    | _ => beginValue (.array items :: outer) (dropGap cs)
  | pair pairs outer =>
    match pairs, cs.dropWhile isSpace with
    | [], '\x7d' :: rest => some (.complete (.table []) outer, rest)
    | _, _ => beginPair pairs outer cs
  | complete value (.array items :: outer) => afterItem (value :: items) outer cs
  | complete value (.table pairs path :: outer) => afterPair ((path, value) :: pairs) outer cs
  | complete _ [] => none

theorem length_of_beginValue {outer : List Frame} {cs after : List Char} {next : State}
    (h : beginValue outer cs = some (next, after)) : after.length < cs.length := by
  rw [beginValue.eq_def] at h
  split at h
  · split at h
    · cases h
      simp
    · simp at h
  · split at h
    · cases h
      simp
    · simp at h
  · obtain ⟨p, hp, he⟩ := Option.map_eq_some_iff.1 h
    simp only [Prod.mk.injEq] at he
    rw [← he.2]
    exact length_of_readString? hp
  · obtain ⟨p, hp, he⟩ := Option.map_eq_some_iff.1 h
    simp only [Prod.mk.injEq] at he
    rw [← he.2]
    exact length_of_readString? hp
  · obtain ⟨p, hp, he⟩ := Option.map_eq_some_iff.1 h
    simp only [Prod.mk.injEq] at he
    rw [← he.2]
    exact length_of_readScalar? hp

theorem length_of_afterItem {items : List Value} {outer : List Frame} {cs after : List Char}
    {next : State} (h : afterItem items outer cs = some (next, after)) :
    after.length < cs.length := by
  have hle := length_dropGap_le cs
  rw [afterItem] at h
  split at h
  · next rest hd =>
    cases h
    rw [hd, List.length_cons] at hle
    omega
  · next rest hd =>
    cases h
    rw [hd, List.length_cons] at hle
    omega
  · simp at h

theorem length_of_afterPair {pairs : List (KeyPath × Value)} {outer : List Frame}
    {cs after : List Char} {next : State} (h : afterPair pairs outer cs = some (next, after)) :
    after.length < cs.length := by
  have hle := length_dropWhile_le isSpace cs
  rw [afterPair] at h
  split at h
  · next rest hd =>
    cases h
    rw [hd, List.length_cons] at hle
    omega
  · next rest hd =>
    obtain ⟨_, _, he⟩ := Option.map_eq_some_iff.1 h
    simp only [Prod.mk.injEq] at he
    rw [hd, List.length_cons] at hle
    rw [← he.2]
    omega
  · simp at h

theorem length_of_beginPair {pairs : List (KeyPath × Value)} {outer : List Frame}
    {cs after : List Char} {next : State} (h : beginPair pairs outer cs = some (next, after)) :
    after.length < cs.length := by
  rw [beginPair] at h
  split at h
  · next path rest hp =>
    have h₁ := length_of_readPath? hp
    have h₂ := length_of_beginValue h
    have h₃ := length_dropWhile_le isSpace rest
    simp only [List.length_cons] at h₁
    omega
  · simp at h

/-- Every part takes something off the text. -/
theorem length_of_step {state next : State} {cs after : List Char}
    (h : state.step cs = some (next, after)) : after.length < cs.length := by
  rw [step.eq_def] at h
  split at h
  · have hle := length_dropGap_le cs
    split at h
    · next rest hd =>
      cases h
      rw [hd, List.length_cons] at hle
      omega
    · have := length_of_beginValue h
      omega
  · have hle := length_dropWhile_le isSpace cs
    split at h
    · next rest hd =>
      cases h
      rw [hd, List.length_cons] at hle
      omega
    · exact length_of_beginPair h
  · exact length_of_afterItem h
  · exact length_of_afterPair h
  · simp at h

/-- Read on until no bracket is open. -/
def finish (state : State) (cs : List Char) : Option (Value × List Char) :=
  match state with
  | complete value [] => some (value, cs)
  | state =>
    match h : state.step cs with
    | none => none
    | some (next, after) =>
      have := length_of_step h
      finish next after
termination_by cs.length

theorem length_of_finish {state : State} {cs after : List Char} {value : Value}
    (h : state.finish cs = some (value, after)) : after.length ≤ cs.length := by
  fun_induction finish state cs with
  | case1 cs found =>
    simp only [Option.some.injEq, Prod.mk.injEq] at h
    exact Nat.le_of_eq (by rw [h.2])
  | case2 => simp at h
  | case3 cs state hs next behind hstep hlen ih =>
    have := ih h
    omega

end State

/-- Read a value. -/
def readValue? (cs : List Char) : Option (Value × List Char) :=
  match State.beginValue [] cs with
  | none => none
  | some (state, after) => state.finish after

theorem length_of_readValue? {cs after : List Char} {value : Value}
    (h : readValue? cs = some (value, after)) : after.length < cs.length := by
  rw [readValue?] at h
  split at h
  · simp at h
  · next state behind hb =>
    have h₁ := State.length_of_beginValue hb
    have h₂ := State.length_of_finish h
    omega

end IconCompiler.Toml
