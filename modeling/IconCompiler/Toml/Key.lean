import IconCompiler.Toml.Literal

/-! # TOML keys

    A key is a bare word or a string on one line.  Keys joined by dots lead
    into nested tables. -/

namespace IconCompiler.Toml

open Text

/-- Whether `c` may stand in a bare key. -/
def isBareChar (c : Char) : Bool :=
  c.isAlphanum || c == '-' || c == '_'

/-- Read one key. -/
def readKey? : List Char → Option (List Char × List Char)
  | '"' :: rest => readBasic? rest
  | '\'' :: rest => readLiteral? rest
  | cs =>
    if cs.takeWhile isBareChar = [] then none
    else some (cs.takeWhile isBareChar, cs.dropWhile isBareChar)

theorem length_of_readKey? {cs key behind : List Char} (h : readKey? cs = some (key, behind)) :
    behind.length < cs.length := by
  rw [readKey?.eq_def] at h
  split at h
  · have := length_of_readBasic? h
    simp only [List.length_cons]
    omega
  · have := length_of_readLiteral? h
    simp only [List.length_cons]
    omega
  · split at h
    · simp at h
    · next hne =>
      simp only [Option.some.injEq, Prod.mk.injEq] at h
      have h₁ := congrArg List.length (List.takeWhile_append_dropWhile (p := isBareChar) (l := cs))
      have h₂ := List.length_pos_iff.2 hne
      simp only [List.length_append] at h₁
      rw [← h.2]
      omega

/-- A key path: the keys in front of the last dot, and the key behind it. -/
structure KeyPath where
  outer : List String
  key : String
  deriving DecidableEq

/-- The path with one more key in front. -/
def KeyPath.cons (key : String) (path : KeyPath) : KeyPath :=
  { path with outer := key :: path.outer }

/-- What follows a key and a dot is shorter than the text before the key. -/
theorem length_of_dottedKey {cs key rest more : List Char}
    (h : readKey? (cs.dropWhile isSpace) = some (key, rest))
    (hd : rest.dropWhile isSpace = '.' :: more) : more.length < cs.length := by
  have h₁ := length_of_readKey? h
  have h₂ := length_dropWhile_le isSpace cs
  have h₃ := length_dropWhile_le isSpace rest
  rw [hd, List.length_cons] at h₃
  omega

/-- Read keys joined by dots, with blanks around each. -/
def readKeys? (cs : List Char) : Option (KeyPath × List Char) :=
  match h : readKey? (cs.dropWhile isSpace) with
  | none => none
  | some (key, rest) =>
    match hd : rest.dropWhile isSpace with
    | '.' :: more =>
      have : more.length < cs.length := length_of_dottedKey h hd
      (readKeys? more).map fun (path, after) => (path.cons (String.ofList key), after)
    | after => some (⟨[], String.ofList key⟩, after)
termination_by cs.length

theorem length_of_readKeys? {cs after : List Char} {path : KeyPath}
    (h : readKeys? cs = some (path, after)) : after.length < cs.length := by
  fun_induction readKeys? cs generalizing path after with
  | case1 => simp at h
  | case2 cs key rest hk more hd hlen ih =>
    cases hm : readKeys? more with
    | none => simp [hm] at h
    | some p =>
      simp only [hm, Option.map_some, Option.some.injEq, Prod.mk.injEq] at h
      have := @ih p.2 p.1 (by rw [hm])
      rw [← h.2]
      omega
  | case3 cs key rest hk hne =>
    simp only [Option.some.injEq, Prod.mk.injEq] at h
    have h₁ := length_of_readKey? hk
    have h₂ := length_dropWhile_le isSpace cs
    have h₃ := length_dropWhile_le isSpace rest
    rw [← h.2]
    omega

/-- The greatest number of keys that a path may have is below this. -/
def maxNesting : Nat := 80

/-- Read a key path that is not too long. -/
def readPath? (cs : List Char) : Option (KeyPath × List Char) :=
  match readKeys? cs with
  | some (path, after) => if path.outer.length + 1 < maxNesting then some (path, after) else none
  | none => none

theorem length_of_readPath? {cs after : List Char} {path : KeyPath}
    (h : readPath? cs = some (path, after)) : after.length < cs.length := by
  rw [readPath?] at h
  split at h
  · next p a hk =>
    split at h
    · simp only [Option.some.injEq, Prod.mk.injEq] at h
      rw [← h.2]
      exact length_of_readKeys? hk
    · simp at h
  · simp at h

end IconCompiler.Toml
