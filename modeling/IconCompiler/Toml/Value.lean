/-! # TOML values

    A value of a TOML document.  Numbers with a fraction and dates are kept as
    they are written. -/

namespace IconCompiler.Toml

/-- A TOML value.  The keys of a table are distinct. -/
inductive Value where
  | string (text : String)
  | integer (n : Int)
  | float (text : String)
  | boolean (b : Bool)
  | datetime (text : String)
  | array (items : List Value)
  | table (entries : List (String × Value))
  deriving Inhabited

namespace Value

/-- The text that a value is. -/
def text? : Value → Option String
  | string text => some text
  | _ => none

/-- The values of the declared fields of a record, in order.  A record is
    written as a table, whose other keys are passed over, or as an array of the
    fields in order, which may be shorter or longer.  A date has no fields. -/
def fields? (names : List String) : Value → Option (List (Option Value))
  | table entries => some (names.map fun name => entries.lookup name)
  | array items => some ((List.range names.length).map fun i => items[i]?)
  | datetime _ => some (names.map fun _ => none)
  | _ => none

end Value

end IconCompiler.Toml
