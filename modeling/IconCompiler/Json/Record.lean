import IconCompiler.Json.Value

/-! # Records in JSON

    A record with declared fields is written as an object, or as an array of
    all its fields in order.  Members with other keys are passed over; a
    declared one must not come twice. -/

namespace IconCompiler.Json

/-- The value of the field `name` among the members of an object: none if it is
    absent, a failure if it is there twice. -/
def member? (name : String) (members : List (Literal × Value)) : Option (Option Value) :=
  match members.filter (fun member => member.1 == some name) with
  | [] => some none
  | [(_, value)] => some (some value)
  | _ => none

/-- The values of the declared fields of a record, in order. -/
def Value.fields? (names : List String) : Value → Option (List (Option Value))
  | .object members =>
    if members.any (·.1.isNone) then none else names.mapM fun name => member? name members
  | .array items => if items.length = names.length then some (items.map some) else none
  | _ => none

/-- The text that a value denotes. -/
def Value.text? : Value → Option String
  | .string literal => literal
  | _ => none

/-- The natural number below `bound` that a value denotes. -/
def Value.natBelow? (bound : Nat) : Value → Option Nat
  | .number digits =>
    if digits.all Char.isDigit then
      let n := digits.foldl (fun n c => 10 * n + (c.toNat - '0'.toNat)) 0
      if n < bound then some n else none
    else none
  | _ => none

/-- The items of an array. -/
def Value.items? : Value → Option (List Value)
  | .array items => some items
  | _ => none

/-- The texts under the keys of an object. -/
def Value.pairs? : Value → Option (List (String × String))
  | .object members => members.mapM fun (key, value) => do
    let key ← key
    let text ← value.text?
    return (key, text)
  | _ => none

end IconCompiler.Json
