/-! # JSON values

    A value as it stands in a document.  A string may hold half of a surrogate
    pair; it then denotes no text. -/

namespace IconCompiler.Json

/-- What a string denotes: a text, or nothing if it holds half of a pair. -/
abbrev Literal := Option String

/-- A JSON value.  Members keep their order and may repeat a key. -/
inductive Value where
  | null
  | bool (value : Bool)
  | number (digits : List Char)
  | string (literal : Literal)
  | array (items : List Value)
  | object (members : List (Literal × Value))
  deriving Inhabited

namespace Value

/-- The value for a text. -/
def text (s : String) : Value :=
  .string (some s)

/-- The value for a natural number. -/
def nat (n : Nat) : Value :=
  .number (Nat.toDigits 10 n)

/-- The object with the given members. -/
def record (members : List (String × Value)) : Value :=
  .object (members.map fun member => (some member.1, member.2))

end Value

end IconCompiler.Json
