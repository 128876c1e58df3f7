/-! # Names in markup

    A name may carry a namespace in front of its first colon. -/

namespace IconCompiler.Markup

/-- Whether `c` separates the parts of a tag. -/
def isSpace (c : Char) : Bool :=
  c == ' ' || c == '\t' || c == '\r' || c == '\n'

/-- A name without its namespace: what follows the first colon, if there is one. -/
def localName (name : List Char) : List Char :=
  if name.contains ':' then (name.dropWhile (· != ':')).tail else name

/-- Whether an attribute of this name declares a namespace. -/
def isNamespaceBinding (name : List Char) : Bool :=
  name == ['x', 'm', 'l', 'n', 's'] || ['x', 'm', 'l', 'n', 's', ':'].isPrefixOf name

/-- The name that a closing tag closes: its content without white space at the
    end, unless there is nothing but white space. -/
def closingName (content : List Char) : List Char :=
  if content.all isSpace then content else (content.reverse.dropWhile isSpace).reverse

end IconCompiler.Markup
