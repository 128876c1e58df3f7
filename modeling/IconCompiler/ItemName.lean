import IconCompiler.Text.Case

/-! # Identifiers

    The names of generated items: which texts are plain Rust identifiers, how
    an identifier is derived from the name of an asset, and how any text is
    turned into an identifier. -/

namespace IconCompiler.ItemName

open Text

/-- Words that cannot name an item although they have the shape of one. -/
def keywords : List String := [
  "Self", "abstract", "as", "async", "await", "become", "box", "break", "const", "continue",
  "crate", "do", "dyn", "else", "enum", "extern", "false", "final", "fn", "for", "gen", "if",
  "impl", "in", "let", "loop", "macro", "match", "mod", "move", "mut", "override", "priv",
  "pub", "ref", "return", "self", "static", "struct", "super", "trait", "true", "try", "type",
  "typeof", "unsafe", "unsized", "use", "virtual", "where", "while", "yield"]

/-- Whether `cs` is a reserved word. -/
def isReserved (cs : List Char) : Bool :=
  keywords.any fun word => word.toList = cs

/-- Whether `c` may stand in an identifier. -/
def isWordChar (c : Char) : Bool :=
  c.isAlphanum || c == '_'

/-- Whether `cs` consists of letters, digits and underscores and does not start
    with a digit. -/
def hasShape : List Char → Bool
  | [] => false
  | c :: rest => isWordChar c && !c.isDigit && rest.all isWordChar

/-- Whether `s` can be used as the name of an item as it stands. -/
def isValid (s : String) : Bool :=
  s != "_" && hasShape s.toList && !isReserved s.toList

/-- What the characters read so far ask of the next one. -/
inductive Cursor where
  /-- A new word begins. -/
  | wordStart
  /-- A word goes on. -/
  | inWord
  /-- A word goes on after a digit. -/
  | afterDigit
  deriving DecidableEq

/-- What `c` contributes, and what it asks of the character after it.  A hyphen
    begins a new word, but right after a digit it is written as an underscore
    and the word goes on.  The first letter of a word is upper-cased. -/
def step (cursor : Cursor) (c : Char) : List Char × Cursor :=
  if c = '-' then
    match cursor with
    | .afterDigit => (['_'], .inWord)
    | _ => ([], .wordStart)
  else if c.isDigit then ([c], .afterDigit)
  else
    match cursor with
    | .wordStart => (upperChar c, .inWord)
    | _ => ([c], .inWord)

/-- Derive the rest of an identifier. -/
def deriveFrom : Cursor → List Char → List Char
  | _, [] => []
  | cursor, c :: rest =>
    let (written, next) := step cursor c
    written ++ deriveFrom next rest

/-- The identifier for an asset of the given name. -/
def deriveName (name : String) : String :=
  String.ofList (deriveFrom .wordStart name.toList)

/-- An underscore in front of a text that is empty or starts with a digit. -/
def shielded (cs : List Char) : List Char :=
  match cs with
  | [] => ['_']
  | c :: _ => if c.isDigit then '_' :: cs else cs

/-- The name of the constant for `identifier`, which is kept if it can be used.
    Otherwise foreign characters become underscores, an underscore is put in
    front where a name cannot begin, and behind what is reserved. -/
def constantName (identifier : String) : String :=
  if isValid identifier then identifier
  else
    let cleaned := shielded (identifier.toList.map fun c => if isWordChar c then c else '_')
    String.ofList (if cleaned = ['_'] ∨ isReserved cleaned then cleaned ++ ['_'] else cleaned)

end IconCompiler.ItemName
