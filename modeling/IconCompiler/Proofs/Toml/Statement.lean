import IconCompiler.Proofs.Toml.Literal
import IconCompiler.Toml.Statement

/-! # Statements of printed documents

    A piece of a document reads as some statements if the reader finds just them
    there, whatever follows (`Reads`).  Pieces that do so can be put one behind the
    other (`Reads.append`), and every line that is printed does so. -/

namespace IconCompiler.Toml

/-! ## Values -/

theorem exists_printText_eq_cons (s : String) :
    ∃ quote tail, printText s = quote :: tail ∧ (quote = '"' ∨ quote = '\'') := by
  rw [printText]
  cases StringForm.ofText s.toList with
  | basic => exact ⟨'"', _, rfl, .inl rfl⟩
  | literal => exact ⟨'\'', _, rfl, .inr rfl⟩
  | longBasic => exact ⟨'"', _, rfl, .inl rfl⟩
  | longLiteral => exact ⟨'\'', _, rfl, .inr rfl⟩

theorem readValue?_printText (s : String) (rest : List Char) :
    readValue? (printText s ++ '\n' :: rest) = some (.string s, '\n' :: rest) := by
  have hstring := readString?_printText s rest
  have hbegin : State.beginValue [] (printText s ++ '\n' :: rest)
      = some (.complete (.string s) [], '\n' :: rest) := by
    obtain ⟨quote, tail, hquoted, rfl | rfl⟩ := exists_printText_eq_cons s
    all_goals
      rw [hquoted, List.cons_append] at hstring ⊢
      rw [State.beginValue, hstring, Option.map_some]
      dsimp only
      rw [String.ofList_toList]
  rw [readValue?, hbegin]
  dsimp only
  rw [State.finish]

/-- An array without items. -/
theorem readValue?_nothing (rest : List Char) :
    readValue? ('[' :: ']' :: rest) = some (.array [], rest) := by
  have hgap : dropGap (']' :: rest) = ']' :: rest := by
    rw [dropGap, if_neg (by decide)]
    · decide
    · exact fun _ heq _ => absurd heq (by decide)
    · decide
  have hstep : State.step (.item [] []) (']' :: rest) = some (.complete (.array []) [], rest) := by
    rw [State.step, hgap]
    rfl
  rw [readValue?]
  show State.finish (.item [] []) (']' :: rest) = _
  rw [State.finish]
  · split
    · next hnone => cases hnone.symm.trans hstep
    · next hsome =>
        obtain ⟨rfl, rfl⟩ := Prod.mk.inj (Option.some.inj (hsome.symm.trans hstep))
        rw [State.finish]
  · intro value heq
    cases heq

/-! ## Keys -/

/-- A word that stands for itself as a key. -/
structure IsBare (key : String) : Prop where
  nonempty : key ≠ ""
  bare : ∀ c ∈ key.toList, isBareChar c = true

instance (key : String) : Decidable (IsBare key) :=
  decidable_of_iff (key ≠ "" ∧ key.toList.all isBareChar = true)
    ⟨fun h => ⟨h.1, List.all_eq_true.mp h.2⟩, fun h => ⟨h.nonempty, List.all_eq_true.mpr h.bare⟩⟩

/-- What begins with this character is neither an empty line nor a comment. -/
structure BeginsStatement (c : Char) : Prop where
  space : isSpace c = false
  hash : c ≠ '#'
  newline : c ≠ '\n'
  carriageReturn : c ≠ '\r'

/-- A statement that begins with this character begins with a bare key. -/
structure BeginsKey (c : Char) : Prop extends BeginsStatement c where
  doubleQuote : c ≠ '"'
  singleQuote : c ≠ '\''
  bracket : c ≠ '['

theorem beginsKey_of_isBareChar {c : Char} (h : isBareChar c = true) : BeginsKey c := by
  refine ⟨⟨?_, ?_, ?_, ?_⟩, ?_, ?_, ?_⟩
  · by_contra hspace
    simp only [isSpace, Bool.not_eq_false, Bool.or_eq_true, beq_iff_eq] at hspace
    rcases hspace with rfl | rfl <;> exact absurd h (by decide)
  all_goals
    rintro rfl
    exact absurd h (by decide)

theorem IsBare.exists_cons {key : String} (h : IsBare key) :
    ∃ c tail, key.toList = c :: tail ∧ BeginsKey c := by
  obtain ⟨c, tail, hcons⟩ := List.exists_cons_of_ne_nil
    (fun hnil => h.nonempty (String.toList_eq_nil_iff.mp hnil))
  exact ⟨c, tail, hcons, beginsKey_of_isBareChar (h.bare c (hcons ▸ List.mem_cons_self))⟩

theorem readKey?_bare {key : String} (h : IsBare key) {behind : List Char}
    (hbehind : behind.takeWhile isBareChar = []) :
    readKey? (key.toList ++ behind) = some (key.toList, behind) := by
  obtain ⟨c, tail, hcons, hfirst⟩ := h.exists_cons
  have htake : (key.toList ++ behind).takeWhile isBareChar = key.toList := by
    rw [List.takeWhile_append_of_pos h.bare, hbehind, List.append_nil]
  have hdrop : (key.toList ++ behind).dropWhile isBareChar = behind := by
    have hwhole := List.takeWhile_append_dropWhile (p := isBareChar) (l := behind)
    rw [hbehind, List.nil_append] at hwhole
    rw [List.dropWhile_append_of_pos h.bare, hwhole]
  have hne : key.toList ≠ [] := by simp [hcons]
  rw [readKey?.eq_def]
  split
  · next heq =>
      rw [hcons] at heq
      exact absurd (List.cons.inj heq).1 hfirst.doubleQuote
  · next heq =>
      rw [hcons] at heq
      exact absurd (List.cons.inj heq).1 hfirst.singleQuote
  · rw [htake, hdrop, if_neg hne]

/-- A bare key is a path of its own, if no further key follows a dot. -/
theorem readPath?_bare {key : String} (h : IsBare key) {behind after : List Char}
    (hbehind : behind.takeWhile isBareChar = []) (hafter : behind.dropWhile isSpace = after)
    (hdot : after.head? ≠ some '.') :
    readPath? (key.toList ++ behind) = some (⟨[], key⟩, after) := by
  obtain ⟨c, tail, hcons, hfirst⟩ := h.exists_cons
  have hstart : (key.toList ++ behind).dropWhile isSpace = key.toList ++ behind := by
    rw [hcons, List.cons_append, List.dropWhile_cons_of_neg (by simp [hfirst.space])]
  have hkeys : readKeys? (key.toList ++ behind) = some (⟨[], key⟩, after) := by
    rw [readKeys?]
    split
    · next hnone =>
        rw [hstart, readKey?_bare h hbehind] at hnone
        cases hnone
    · next hsome =>
        rw [hstart, readKey?_bare h hbehind] at hsome
        obtain ⟨rfl, rfl⟩ := Prod.mk.inj (Option.some.inj hsome)
        split
        · next hmore =>
            rw [← hafter, hmore] at hdot
            exact absurd rfl hdot
        · rw [String.ofList_toList, hafter]
  rw [readPath?, hkeys]
  rfl

/-! ## Statements -/

theorem readStatement?_pair {key : String} (h : IsBare key) {c : Char} {tail after : List Char}
    {value : Value} (hspace : isSpace c = false)
    (hvalue : readValue? (c :: tail) = some (value, after)) :
    readStatement? (key.toList ++ ' ' :: '=' :: ' ' :: c :: tail)
      = some (.pair ⟨[], key⟩ value, after) := by
  obtain ⟨first, rest, hcons, hfirst⟩ := h.exists_cons
  have hstart : (key.toList ++ ' ' :: '=' :: ' ' :: c :: tail).dropWhile isSpace
      = key.toList ++ ' ' :: '=' :: ' ' :: c :: tail := by
    rw [hcons, List.cons_append, List.dropWhile_cons_of_neg (by simp [hfirst.space])]
  have hpath : readPath? (key.toList ++ ' ' :: '=' :: ' ' :: c :: tail)
      = some (⟨[], key⟩, '=' :: ' ' :: c :: tail) := readPath?_bare h rfl rfl (by simp)
  have hbehind : (' ' :: c :: tail).dropWhile isSpace = c :: tail := by
    rw [List.dropWhile_cons_of_pos rfl, List.dropWhile_cons_of_neg (by simp [hspace])]
  rw [readStatement?, hstart]
  split
  · next heq =>
      rw [hcons] at heq
      exact absurd (List.cons.inj heq).1 hfirst.bracket
  · next heq =>
      rw [hcons] at heq
      exact absurd (List.cons.inj heq).1 hfirst.bracket
  · rw [hpath]
    show (readValue? ((' ' :: c :: tail).dropWhile isSpace)).map _ = _
    rw [hbehind, hvalue]
    rfl

theorem readStatement?_table {key : String} (h : IsBare key) (rest : List Char) :
    readStatement? ('[' :: (key.toList ++ ']' :: rest)) = some (.table ⟨[], key⟩, rest) := by
  obtain ⟨first, tail, hcons, hfirst⟩ := h.exists_cons
  have hpath : readPath? (key.toList ++ ']' :: rest) = some (⟨[], key⟩, ']' :: rest) :=
    readPath?_bare h rfl rfl (by simp)
  rw [readStatement?, List.dropWhile_cons_of_neg (by decide)]
  split
  · next heq =>
      rw [hcons] at heq
      exact absurd (List.cons.inj (List.cons.inj heq).2).1 hfirst.bracket
  · next heq =>
      obtain rfl := (List.cons.inj heq).2
      rw [hpath]
      rfl
  · next hnot => exact absurd rfl (hnot _)

theorem readStatement?_element {key : String} (h : IsBare key) (rest : List Char) :
    readStatement? ('[' :: '[' :: (key.toList ++ ']' :: ']' :: rest))
      = some (.element ⟨[], key⟩, rest) := by
  have hpath : readPath? (key.toList ++ ']' :: ']' :: rest)
      = some (⟨[], key⟩, ']' :: ']' :: rest) :=
    readPath?_bare h rfl rfl (by simp)
  rw [readStatement?, List.dropWhile_cons_of_neg (by decide)]
  split
  · next heq =>
      obtain rfl := (List.cons.inj (List.cons.inj heq).2).2
      rw [hpath]
      rfl
  · next hnot heq => exact (hnot _ (List.cons.inj heq).2.symm).elim
  · next hnot _ => exact absurd rfl (hnot _)

/-! ## Lines -/

/-- The statements of a piece of a document are read off it, whatever follows. -/
def Reads (cs : List Char) (statements : List Statement) : Prop :=
  ∀ rest, readStatements? (cs ++ rest) = (readStatements? rest).map (statements ++ ·)

namespace Reads

variable {cs more : List Char} {statements further : List Statement}

theorem nil : Reads [] [] := by
  intro rest
  simp

theorem append (h : Reads cs statements) (hmore : Reads more further) :
    Reads (cs ++ more) (statements ++ further) := by
  intro rest
  rw [List.append_assoc, h, hmore]
  simp [Function.comp_def]

theorem flatMap {α : Type} {write : α → List Char} {read : α → List Statement}
    {values : List α} (h : ∀ value ∈ values, Reads (write value) (read value)) :
    Reads (values.flatMap write) (values.flatMap read) := by
  induction values with
  | nil => exact nil
  | cons value rest ih =>
      exact (h value List.mem_cons_self).append
        (ih fun other hother => h other (List.mem_cons_of_mem value hother))

/-- Empty lines say nothing. -/
theorem newline : Reads ['\n'] [] := by
  intro rest
  have hline : dropLine? ('\n' :: rest) = some rest := rfl
  rw [List.singleton_append, readStatements?, dif_neg (List.cons_ne_nil _ _)]
  split
  · next hsome =>
      obtain rfl := Option.some.inj (hsome.symm.trans hline)
      simp
  · next hnone => cases hnone.symm.trans hline

theorem newlines (count : Nat) : Reads (List.replicate count '\n') [] := by
  induction count with
  | zero => exact nil
  | succ count ih => exact newline.append ih

theorem beginsStatement_bracket : BeginsStatement '[' :=
  ⟨rfl, by decide, by decide, by decide⟩

/-- A line with a statement reads as this statement. -/
theorem line {c : Char} {tail : List Char} {statement : Statement}
    (hc : BeginsStatement c)
    (hread : ∀ rest, readStatement? (c :: tail ++ '\n' :: rest) = some (statement, '\n' :: rest)) :
    Reads (c :: tail ++ ['\n']) [statement] := by
  intro rest
  have hfull : dropLine? (c :: tail ++ '\n' :: rest) = none := by
    rw [dropLine?, List.cons_append, List.dropWhile_cons_of_neg (by simp [hc.space])]
    split
    · next heq => exact absurd (List.cons.inj heq).1 hc.hash
    · rw [dropLineBreak?, if_neg (List.cons_ne_nil _ _), dropNewline?.eq_def]
      split
      · next heq => exact absurd (List.cons.inj heq).1 hc.newline
      · next heq => exact absurd (List.cons.inj heq).1 hc.carriageReturn
      · rfl
  have hempty : dropLine? ('\n' :: rest) = some rest := rfl
  rw [List.append_assoc, List.singleton_append, readStatements?,
    dif_neg (by simp)]
  split
  · next hsome => cases hsome.symm.trans hfull
  split
  · next hnone => cases hnone.symm.trans (hread rest)
  · next hsome =>
      obtain ⟨rfl, rfl⟩ := Prod.mk.inj (Option.some.inj (hsome.symm.trans (hread rest)))
      split
      · next hnone => cases hnone.symm.trans hempty
      · next hsome =>
          obtain rfl := Option.some.inj (hsome.symm.trans hempty)
          rfl

/-- A printed pair. -/
theorem pair {key : String} (hkey : IsBare key) (text : String) :
    Reads (printPair key text) [.pair ⟨[], key⟩ (.string text)] := by
  obtain ⟨c, tail, hcons, hfirst⟩ := hkey.exists_cons
  have hshape : printPair key text
      = c :: (tail ++ [' ', '=', ' '] ++ printText text) ++ ['\n'] := by
    rw [printPair, hcons]
    rfl
  rw [hshape]
  refine line hfirst.toBeginsStatement fun rest => ?_
  obtain ⟨quote, body, hquoted, hquote⟩ := exists_printText_eq_cons text
  have hvalue := readValue?_printText text rest
  have hspace : isSpace quote = false := by rcases hquote with rfl | rfl <;> rfl
  rw [hquoted, List.cons_append] at hvalue
  have hread := readStatement?_pair hkey hspace hvalue
  rw [hcons] at hread
  rw [hquoted]
  simpa using hread

/-- A key with an array that has no items. -/
theorem nothing {key : String} (hkey : IsBare key) :
    Reads (key.toList ++ [' ', '=', ' ', '[', ']', '\n']) [.pair ⟨[], key⟩ (.array [])] := by
  obtain ⟨c, tail, hcons, hfirst⟩ := hkey.exists_cons
  have hshape : key.toList ++ [' ', '=', ' ', '[', ']', '\n']
      = c :: (tail ++ [' ', '=', ' ', '[', ']']) ++ ['\n'] := by
    simp [hcons]
  rw [hshape]
  refine line hfirst.toBeginsStatement fun rest => ?_
  have hread := readStatement?_pair hkey rfl (readValue?_nothing ('\n' :: rest))
  rw [hcons] at hread
  simpa using hread

/-- The header of a table. -/
theorem table {key : String} (hkey : IsBare key) :
    Reads ('[' :: (key.toList ++ [']']) ++ ['\n']) [.table ⟨[], key⟩] :=
  line beginsStatement_bracket fun rest => by simpa using readStatement?_table hkey ('\n' :: rest)

/-- The header of one more table under a key. -/
theorem element {key : String} (hkey : IsBare key) :
    Reads ('[' :: ('[' :: (key.toList ++ [']', ']'])) ++ ['\n']) [.element ⟨[], key⟩] :=
  line beginsStatement_bracket fun rest => by simpa using readStatement?_element hkey ('\n' :: rest)

/-- A printed table reads as its header and its pairs. -/
theorem printTable {header : String} {statement : Statement} {pairs : List (String × String)}
    (hheader : Reads (header.toList ++ ['\n']) [statement])
    (hpairs : ∀ pair ∈ pairs, IsBare pair.1) :
    Reads (Toml.printTable header pairs)
      (statement :: pairs.map fun pair => .pair ⟨[], pair.1⟩ (.string pair.2)) := by
  have hlines := hheader.append (flatMap fun pair hmem => Reads.pair (hpairs pair hmem) pair.2)
  rw [List.map_eq_flatMap]
  exact hlines

/-- Empty lines may set parts apart. -/
theorem intercalate {parts : List (List Char)} {contents : List (List Statement)}
    (h : List.Forall₂ Reads parts contents) :
    Reads (['\n'].intercalate parts) contents.flatten := by
  induction h with
  | nil => exact nil
  | @cons part content parts contents hfirst hothers ih =>
      cases hothers with
      | nil => simpa [List.intercalate] using hfirst
      | cons =>
          rw [List.intercalate_cons_cons, List.flatten_cons, List.append_assoc]
          exact hfirst.append (newline.append ih)

end Reads

end IconCompiler.Toml
