import IconCompiler.Markup.Tag

/-! # Events of a document

    A document is read as a sequence of events.  Every closing tag has to name
    the element that was opened last; tags are told apart into those that open,
    close, or stand alone.  Declarations and instructions carry nothing. -/

namespace IconCompiler.Markup

/-- What a lexeme means. -/
inductive Event where
  | start (tag : Tag)
  /-- An element without content, in one tag. -/
  | empty (tag : Tag)
  | close
  | text (raw : List Char)
  | comment (body : List Char)
  | cdata (body : List Char)
  /-- A declaration or an instruction. -/
  | ignored
  deriving DecidableEq

namespace Event

/-- The event of a tag, and the names of the elements open after it. -/
def ofTag (openNames : List (List Char)) (content : List Char) :
    Except Cause (Event × List (List Char)) :=
  match content with
  | '/' :: closing =>
    let name := closingName closing
    match openNames with
    | [] => .error (.unmatchedClose (String.ofList name))
    | expected :: outer =>
      if name = expected then .ok (.close, outer)
      else .error (.mismatchedClose (String.ofList expected) (String.ofList name))
  | _ =>
    if content.getLast? = some '/' then .ok (.empty (Tag.ofContent content.dropLast), openNames)
    else
      let tag := Tag.ofContent content
      .ok (.start tag, tag.name :: openNames)

/-- The event of a document type declaration, whose keyword may be written in
    any case and has to be followed by a name. -/
def ofDoctype (content : List Char) : Except Cause Event :=
  if (content.take 7).map Char.toUpper = ['D', 'O', 'C', 'T', 'Y', 'P', 'E'] then
    if (content.drop 7).all isSpace then .error .namelessDoctype else .ok .ignored
  else .error (.unclosed .doctype)

/-- The event of a lexeme, and the names of the elements open after it. -/
def ofLexeme (openNames : List (List Char)) :
    Lexeme → Except Cause (Event × List (List Char))
  | .text raw => .ok (.text raw, openNames)
  | .tag content => ofTag openNames content
  | .comment content =>
    match content with
    | '-' :: body => .ok (.comment body, openNames)
    | _ => .error (.unclosed .comment)
  | .cdata content =>
    match content with
    | 'C' :: 'D' :: 'A' :: 'T' :: 'A' :: '[' :: body => .ok (.cdata body, openNames)
    | _ => .error (.unclosed .cdata)
  | .doctype content => do
    let event ← ofDoctype content
    return (event, openNames)
  | .instruction content =>
    if content = [] then .error (.unclosed .instruction) else .ok (.ignored, openNames)

end Event

/-- The events of a document, each with the offset of its first byte, the error
    that ended the reading, and the offset reached. -/
structure Trace where
  events : List (Nat × Event)
  error : Option Error
  length : Nat
  deriving DecidableEq

namespace Trace

/-- The error of a break at `offset`: a construct without an end is noticed at
    the end of the document, an unknown one just behind its bracket. -/
def breakError (offset total : Nat) : Break → Error
  | .unclosed construct => ⟨.unclosed construct, total⟩
  | .unknownMarkup => ⟨.unknownMarkup, offset + 1⟩

/-- Read lexemes that begin at `offset` of a document that ends at `total`. -/
def ofLexemes (ending : Option Break) (total : Nat) (openNames : List (List Char))
    (offset : Nat) : List Lexeme → Trace
  | [] => ⟨[], ending.map (breakError offset total), offset⟩
  | lexeme :: rest =>
    let after := offset + byteLength lexeme.source
    match Event.ofLexeme openNames lexeme with
    | .error cause => ⟨[], some ⟨cause, after⟩, after⟩
    | .ok (event, openNames) =>
      let trace := ofLexemes ending total openNames after rest
      { trace with events := (offset, event) :: trace.events }

/-- Read a document. -/
def ofDocument (document : List Char) : Trace :=
  let (found, ending) := lexemes document
  ofLexemes ending (byteLength document) [] 0 found

/-- Take events, each with its offset, one after the other; a fault is reported at
    the offset of the event that shows it. -/
def run {σ : Type} (step : σ → Event → Except Cause σ) (state : σ) :
    List (Nat × Event) → Except Error σ
  | [] => .ok state
  | (offset, event) :: rest =>
    match step state event with
    | .error cause => .error ⟨cause, offset⟩
    | .ok next => run step next rest

/-- Take the events of a trace, and finish what they lead to unless an error ended
    the reading. -/
def read {σ ρ : Type} (trace : Trace) (step : σ → Event → Except Cause σ)
    (finish : σ → Nat → Except Error ρ) (start : σ) : Except Error ρ := do
  let last ← run step start trace.events
  match trace.error with
  | some error => .error error
  | none => finish last trace.length

end Trace

end IconCompiler.Markup
