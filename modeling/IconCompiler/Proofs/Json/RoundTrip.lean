import IconCompiler.Json.Reader
import IconCompiler.Json.Record
import IconCompiler.Proofs.Json.Spelling
import IconCompiler.Proofs.Results

/-! # Printed values are read back

    A value without odd numbers and strings is printed as tokens that the reader
    puts together to the same value, in whatever array or object it stands
    (`Value.Legible`).  Items and members are read up to the bracket that closes
    them, so each of the lists is one induction. -/

namespace IconCompiler.Json

open Text

/-- The tokens take the reader from one state to another. -/
def Leads (found : List Token) (before after : State) : Prop :=
  found.foldlM State.step before = some after

theorem Leads.append {found further : List Token} {first second third : State}
    (h : Leads found first second) (hmore : Leads further second third) :
    Leads (found ++ further) first third := by
  rw [Leads, List.foldlM_append, show found.foldlM State.step first = some second from h]
  exact hmore

theorem Leads.cons {token : Token} {found : List Token} {first second third : State}
    (hstep : first.step token = some second) (h : Leads found second third) :
    Leads (token :: found) first third := by
  rw [Leads, List.foldlM_cons, hstep]
  exact h

namespace Value

/-- A value whose numbers are natural and whose strings denote texts. -/
inductive IsPlain : Value → Prop
  | null : IsPlain .null
  | bool (value : Bool) : IsPlain (.bool value)
  | nat (n : Nat) : IsPlain (nat n)
  | text (s : String) : IsPlain (text s)
  | array {items : List Value} : (∀ item ∈ items, IsPlain item) → IsPlain (.array items)
  | record {members : List (String × Value)} :
      (∀ member ∈ members, IsPlain member.2) → IsPlain (record members)

/-- A printed value is cut into tokens that make up the value, wherever it
    stands. -/
def Legible (value : Value) : Prop :=
  ∃ found, (∀ outer, Leads found (.value outer) (.complete value outer))
    ∧ ∀ level, Spells (value.pretty level) found

/-! ## Arrays -/

theorem ends_prettyItems {rest : List Char} (level : Nat) (items : List Value)
    (hrest : Ends rest) : Ends (prettyItems level items ++ rest) := by
  cases items with
  | nil => exact hrest
  | cons item more => exact ⟨rfl, rfl⟩

/-- The first item of an array is read like any other value, since no value
    begins with a closing bracket. -/
theorem leads_first {value : Value} {found : List Token}
    (h : ∀ outer, Leads found (.value outer) (.complete value outer)) (outer : List Frame) :
    Leads found (.arrayStart outer) (.complete value (.array [] :: outer)) := by
  have hinside := h (.array [] :: outer)
  cases found with
  | nil => exact absurd (Option.some.inj hinside) (by simp)
  | cons token rest =>
      rw [Leads, List.foldlM_cons] at hinside ⊢
      rw [← hinside]
      cases token with
      | closeBracket => exact absurd hinside (by simp [State.step, State.beginValue])
      | _ => rfl

/-- Further items are read up to the end of the array. -/
theorem legible_items {items : List Value} (h : ∀ item ∈ items, Legible item) :
    ∃ found,
      (∀ before last outer,
        Leads found (.complete last (.array before :: outer))
          (.complete (.array (before.reverse ++ last :: items)) outer))
        ∧ ∀ inner level, Spells (prettyItems inner items ++ (newLine level ++ [']'])) found := by
  induction items with
  | nil =>
      refine ⟨[.closeBracket], ?_, fun inner level => .newLine level (.mark rfl .nil)⟩
      intro before last outer
      rw [← List.reverse_cons]
      rfl
  | cons item rest ih =>
      obtain ⟨⟨found, hmade, hspells⟩, hrest⟩ := List.forall_mem_cons.mp h
      obtain ⟨further, hlater, hbehind⟩ := ih hrest
      refine ⟨.comma :: (found ++ further), ?_, ?_⟩
      · intro before last outer
        have hall := hlater (last :: before) item outer
        rw [List.reverse_cons, List.append_assoc] at hall
        exact .cons rfl ((hmade _).append hall)
      · intro inner level
        rw [prettyItems, List.cons_append, List.append_assoc, List.append_assoc]
        exact .mark rfl (.newLine inner ((hspells inner).append (hbehind inner level)
          (ends_prettyItems inner rest ⟨rfl, rfl⟩)))

theorem legible_array {items : List Value} (h : ∀ item ∈ items, Legible item) :
    Legible (.array items) := by
  cases items with
  | nil =>
      refine ⟨[.openBracket, .closeBracket], fun _ => rfl, ?_⟩
      intro level
      rw [pretty]
      exact .mark rfl (.mark rfl .nil)
  | cons item rest =>
      obtain ⟨⟨found, hmade, hspells⟩, hrest⟩ := List.forall_mem_cons.mp h
      obtain ⟨further, hlater, hbehind⟩ := legible_items hrest
      refine ⟨.openBracket :: (found ++ further), ?_, ?_⟩
      · intro outer
        exact .cons rfl ((leads_first hmade outer).append (hlater [] item outer))
      · intro level
        rw [pretty, List.append_assoc]
        exact .mark rfl (.newLine _ ((hspells _).append (hbehind _ level)
          (ends_prettyItems _ rest ⟨rfl, rfl⟩)))

/-! ## Objects -/

/-- The members of a record as they stand in a value. -/
def named (members : List (String × Value)) : List (Literal × Value) :=
  members.map fun member => (some member.1, member.2)

theorem ends_prettyMembers {rest : List Char} (level : Nat) (members : List (Literal × Value))
    (hrest : Ends rest) : Ends (prettyMembers level members ++ rest) := by
  cases members with
  | nil => exact hrest
  | cons member more => exact ⟨rfl, rfl⟩

/-- One member, from its key on. -/
theorem spells_member {value : Value} {found further : List Token} {cs : List Char}
    (key : String) (level : Nat) (hvalue : Spells (value.pretty level) found)
    (hmore : Spells cs further) (hends : Ends cs) :
    Spells (printLiteral (some key) ++ ':' :: ' ' :: (value.pretty level ++ cs))
      (.string (some key) :: .colon :: (found ++ further)) :=
  .text key (.mark rfl (.space rfl (hvalue.append hmore hends)))

/-- Further members are read up to the end of the object. -/
theorem legible_members {members : List (String × Value)}
    (h : ∀ member ∈ members, Legible member.2) :
    ∃ found,
      (∀ before key last outer,
        Leads found (.complete last (.object before key :: outer))
          (.complete (.object (before.reverse ++ (key, last) :: named members)) outer))
        ∧ ∀ inner level,
          Spells (prettyMembers inner (named members) ++ (newLine level ++ ['\x7d'])) found := by
  induction members with
  | nil =>
      refine ⟨[.closeBrace], ?_, fun inner level => .newLine level (.mark rfl .nil)⟩
      intro before key last outer
      rw [named, List.map_nil, ← List.reverse_cons]
      rfl
  | cons member rest ih =>
      obtain ⟨⟨found, hmade, hspells⟩, hrest⟩ := List.forall_mem_cons.mp h
      obtain ⟨further, hlater, hbehind⟩ := ih hrest
      refine ⟨.comma :: .string (some member.1) :: .colon :: (found ++ further), ?_, ?_⟩
      · intro before key last outer
        have hall := hlater ((key, last) :: before) (some member.1) member.2 outer
        rw [List.reverse_cons, List.append_assoc] at hall
        exact .cons rfl (.cons rfl (.cons rfl ((hmade _).append hall)))
      · intro inner level
        have hmember := spells_member member.1 inner (hspells inner) (hbehind inner level)
          (ends_prettyMembers inner (named rest) ⟨rfl, rfl⟩)
        rw [named, List.map_cons, prettyMembers]
        simp only [List.cons_append, List.append_assoc]
        exact .mark rfl (.newLine inner hmember)

theorem legible_record {members : List (String × Value)}
    (h : ∀ member ∈ members, Legible member.2) : Legible (record members) := by
  cases members with
  | nil =>
      refine ⟨[.openBrace, .closeBrace], fun _ => rfl, ?_⟩
      intro level
      rw [record, List.map_nil, pretty]
      exact .mark rfl (.mark rfl .nil)
  | cons member rest =>
      obtain ⟨⟨found, hmade, hspells⟩, hrest⟩ := List.forall_mem_cons.mp h
      obtain ⟨further, hlater, hbehind⟩ := legible_members hrest
      refine ⟨.openBrace :: .string (some member.1) :: .colon :: (found ++ further), ?_, ?_⟩
      · intro outer
        exact .cons rfl (.cons rfl (.cons rfl
          ((hmade _).append (hlater [] (some member.1) member.2 outer))))
      · intro level
        have hmember := spells_member member.1 (level + 1) (hspells _) (hbehind (level + 1) level)
          (ends_prettyMembers _ (named rest) ⟨rfl, rfl⟩)
        rw [record, List.map_cons, pretty]
        simp only [List.cons_append, List.append_assoc]
        exact .mark rfl (.newLine _ hmember)

/-! ## All values -/

theorem IsPlain.legible {value : Value} (h : value.IsPlain) : value.Legible := by
  induction h with
  | null => exact ⟨[.null], fun _ => rfl, fun level => by rw [pretty]; exact spells_word rfl⟩
  | bool value =>
      refine ⟨[.bool value], fun _ => rfl, ?_⟩
      intro level
      cases value <;> rw [pretty] <;> exact spells_word rfl
  | nat n =>
      refine ⟨[.number (Nat.toDigits 10 n)], fun _ => rfl, ?_⟩
      intro level
      rw [Value.nat, pretty]
      exact spells_toDigits n
  | text s =>
      refine ⟨[.string (some s)], fun _ => rfl, ?_⟩
      intro level
      have hspells := Spells.text s .nil
      rw [List.append_nil] at hspells
      rw [Value.text, pretty]
      exact hspells
  | array _ ih => exact legible_array ih
  | record _ ih => exact legible_record ih

/-- A plain value is read back from its printed form, whatever blank characters
    stand behind it. -/
theorem parse?_pretty {value : Value} (h : value.IsPlain) (level : Nat) {blank : List Char}
    (hblank : ∀ c ∈ blank, isSpace c = true) :
    parse? (String.ofList (value.pretty level ++ blank)) = some value := by
  obtain ⟨found, hmade, hspells⟩ := h.legible
  have hends : Ends blank := by
    cases blank with
    | nil => trivial
    | cons c rest =>
        have hc := hblank c (List.mem_cons_self ..)
        simp only [isSpace, Bool.or_eq_true, beq_iff_eq] at hc
        rcases hc with ((rfl | rfl) | rfl) | rfl <;> exact ⟨rfl, rfl⟩
  have hempty : tokens? blank = some [] := by
    have hnone := Spells.nil.spaces hblank [] trivial
    rw [List.append_nil, List.append_nil] at hnone
    rw [hnone, tokens?]
    rfl
  have htokens : tokens? (value.pretty level ++ blank) = some found := by
    rw [hspells level blank hends, hempty]
    simp
  have hvalue : found.foldlM State.step (.value []) = some (.complete value []) := hmade []
  rw [parse?, String.toList_ofList, htokens]
  show ofTokens? found = some value
  rw [ofTokens?, hvalue]

/-! ## Records -/

theorem natBelow?_nat (n bound : Nat) :
    natBelow? bound (nat n) = if n < bound then some n else none := by
  have hdigits : (Nat.toDigits 10 n).all Char.isDigit = true := by
    rw [List.all_eq_true]
    exact fun c hc => Nat.isDigit_of_mem_toDigits (by decide) (by decide) hc
  have hvalue : (Nat.toDigits 10 n).foldl (fun n c => 10 * n + (c.toNat - '0'.toNat)) 0 = n :=
    Nat.ofDigitChars_toDigits (by decide) (by decide)
  rw [nat, natBelow?, if_pos hdigits]
  simp only [hvalue]

theorem pairs?_record (entries : List (String × String)) :
    (record (entries.map fun entry => (entry.1, .text entry.2))).pairs? = some entries := by
  rw [record, pairs?, List.map_map]
  refine mapM_map_eq_some ?_ entries
  intro entry
  rfl

end Value

end IconCompiler.Json
