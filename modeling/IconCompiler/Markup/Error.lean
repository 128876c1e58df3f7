/-! # Markup errors

    What can be wrong with a markup document, and how each cause is worded. -/

namespace IconCompiler.Markup

/-- A construct with a beginning and an end of its own. -/
inductive Construct where
  | tag
  | comment
  | cdata
  | doctype
  | instruction
  deriving DecidableEq

namespace Construct

/-- What a message calls the construct. -/
def label : Construct → String
  | tag => "tag"
  | comment => "comment"
  | cdata => "CDATA"
  | doctype => "DOCTYPE"
  | instruction => "processing instruction or xml declaration"

/-- What ends the construct. -/
def terminator : Construct → String
  | tag | doctype => ">"
  | comment => "-->"
  | cdata => "]]>"
  | instruction => "?>"

end Construct

/-- A fault in the attributes of a tag.  Positions count bytes from the start
    of the tag's content. -/
inductive AttributeFault where
  | missingEquals (position : Nat)
  | missingValue (position : Nat)
  | unquotedValue (position : Nat)
  | openQuote (position : Nat) (quote : Char)
  | repeatedKey (position earlier : Nat)
  deriving DecidableEq

/-- The wording of a fault in the attributes of a tag. -/
def AttributeFault.message : AttributeFault → String
  | missingEquals position =>
    s!"position {position}: attribute key must be directly followed by `=` or space"
  | missingValue position => s!"position {position}: `=` must be followed by an attribute value"
  | unquotedValue position =>
    s!"position {position}: attribute value must be enclosed in `\"` or `'`"
  | openQuote position quote =>
    s!"position {position}: missing closing quote `{quote}` in attribute value"
  | repeatedKey position earlier =>
    s!"position {position}: duplicated attribute, previous declaration at position {earlier}"

/-- A fault in a reference.  Ranges count bytes from the start of the text that
    holds the reference. -/
inductive ReferenceFault where
  | unterminated (start stop : Nat)
  | unknownName (start stop : Nat) (name : String)
  | signedNumber
  | emptyNumber
  | badDigit
  | hugeNumber
  | zero
  | noSuchCharacter (code : Nat)
  deriving DecidableEq

/-- The wording of a fault in a reference. -/
def ReferenceFault.message : ReferenceFault → String
  | unterminated start stop =>
    s!"Error while escaping character at range {start}..{stop}: Cannot find ';' after '&'"
  | unknownName start stop name => s!"at {start}..{stop}: unrecognized entity `{name}`"
  | signedNumber => "invalid character reference: unexpected number sign"
  | emptyNumber => "invalid character reference: cannot parse integer from empty string"
  | badDigit => "invalid character reference: invalid digit found in string"
  | hugeNumber => "invalid character reference: number too large to fit in target type"
  | zero => "invalid character reference: 0x0 character is not permitted in XML"
  | noSuchCharacter code => s!"invalid character reference: `{code}` is not a valid codepoint"

/-- Why a document is refused. -/
inductive Cause where
  | unclosed (construct : Construct)
  | unknownMarkup
  | namelessDoctype
  | unmatchedClose (name : String)
  | mismatchedClose (expected found : String)
  | attribute (fault : AttributeFault)
  | reference (fault : ReferenceFault)
  | collidingKey (key : String)
  | unexpectedClose
  | textOutsideRoot
  | cdataOutsideRoot
  | secondRoot
  | unclosedElement (name : String)
  | noRoot
  deriving DecidableEq

/-- The wording of a cause. -/
def Cause.message : Cause → String
  | unclosed construct =>
    s!"syntax error: {construct.label} not closed: "
      ++ s!"`{construct.terminator}` not found before end of input"
  | unknownMarkup => "syntax error: unknown or missed symbol in markup"
  | namelessDoctype =>
    "ill-formed document: `<!DOCTYPE>` declaration does not contain a name of a document type"
  | unmatchedClose name =>
    s!"ill-formed document: close tag `</{name}>` does not match any open tag"
  | mismatchedClose expected found =>
    s!"ill-formed document: expected `</{expected}>`, but `</{found}>` was found"
  | .attribute fault => fault.message
  | reference fault => fault.message
  | collidingKey key => s!"duplicate attribute `{key}` after removing namespace prefixes"
  | unexpectedClose => "unexpected closing tag"
  | textOutsideRoot => "text outside of the root element"
  | cdataOutsideRoot => "CDATA outside of the root element"
  | secondRoot => "document has more than one root element"
  | unclosedElement name => s!"unexpected end of document: <{name}> is not closed"
  | noRoot => "document has no root element"

/-- A cause and the byte offset it is reported at. -/
structure Error where
  cause : Cause
  position : Nat
  deriving DecidableEq

end IconCompiler.Markup
