import IconCompiler.Json.Token

/-! # Reading JSON

    Tokens are put together one after the other.  What has been read so far is
    a state: the arrays and objects that are still open, and what may come
    next. -/

namespace IconCompiler.Json

/-- An array or object that is still open; what it holds is listed last first. -/
inductive Frame where
  | array (items : List Value)
  /-- An object that waits for the value of `key`. -/
  | object (members : List (Literal × Value)) (key : Literal)

/-- What has been read, with the open arrays and objects, the innermost first. -/
inductive State where
  /-- A value has to follow. -/
  | value (outer : List Frame)
  /-- An array has begun. -/
  | arrayStart (outer : List Frame)
  /-- An object has begun. -/
  | objectStart (outer : List Frame)
  /-- A key has to follow. -/
  | key (members : List (Literal × Value)) (outer : List Frame)
  /-- A colon has to follow. -/
  | colon (members : List (Literal × Value)) (key : Literal) (outer : List Frame)
  /-- A value is complete. -/
  | complete (value : Value) (outer : List Frame)

namespace State

/-- Begin a value. -/
def beginValue (outer : List Frame) : Token → Option State
  | .null => some (.complete .null outer)
  | .bool b => some (.complete (.bool b) outer)
  | .number digits => some (.complete (.number digits) outer)
  | .string literal => some (.complete (.string literal) outer)
  | .openBracket => some (.arrayStart outer)
  | .openBrace => some (.objectStart outer)
  | _ => none

/-- Go on behind a complete value. -/
def continueWith (value : Value) : List Frame → Token → Option State
  | .array items :: outer, .comma => some (.value (.array (value :: items) :: outer))
  | .array items :: outer, .closeBracket =>
    some (.complete (.array (value :: items).reverse) outer)
  | .object members name :: outer, .comma => some (.key ((name, value) :: members) outer)
  | .object members name :: outer, .closeBrace =>
    some (.complete (.object ((name, value) :: members).reverse) outer)
  | _, _ => none

/-- Read one token. -/
def step : State → Token → Option State
  | value outer, token => beginValue outer token
  | arrayStart outer, .closeBracket => some (.complete (.array []) outer)
  | arrayStart outer, token => beginValue (.array [] :: outer) token
  | objectStart outer, .closeBrace => some (.complete (.object []) outer)
  | objectStart outer, .string literal => some (.colon [] literal outer)
  | objectStart _, _ => none
  | key members outer, .string literal => some (.colon members literal outer)
  | key _ _, _ => none
  | colon members literal outer, .colon => some (.value (.object members literal :: outer))
  | colon _ _ _, _ => none
  | complete found outer, token => continueWith found outer token

end State

/-- The value that tokens make up. -/
def Value.ofTokens? (tokens : List Token) : Option Value :=
  match tokens.foldlM State.step (.value []) with
  | some (.complete value []) => some value
  | _ => none

/-- The value that a document holds. -/
def Value.parse? (document : String) : Option Value :=
  tokens? document.toList >>= Value.ofTokens?

end IconCompiler.Json
