import IconCompiler.Text.Split

/-! # Layout of source text

    Source text is laid out as lines and blocks.  A block sets what it encloses
    one level deeper than its first and last line. -/

namespace IconCompiler.Source

open Text

/-- A piece of source text. -/
inductive Layout where
  /-- Text that begins a line; it may itself run over several lines. -/
  | line (text : String)
  /-- An opening line, what it encloses, and a closing line. -/
  | block (opening : String) (body : List Layout) (closing : String)

/-- A line without content. -/
def Layout.blank : Layout := .line ""

/-- The blanks in front of a line at the given depth. -/
def indentation (depth : Nat) : List Char :=
  List.replicate (4 * depth) ' '

/-- A text without a carriage return at its end. -/
def dropReturn (cs : List Char) : List Char :=
  if cs.getLast? = some '\r' then cs.dropLast else cs

/-- One line at the given depth; an empty one is not indented. -/
def renderLine (depth : Nat) (content : List Char) : List Char :=
  (if content = [] then [] else indentation depth ++ content) ++ ['\n']

/-- A text at the given depth, each of its lines indented. -/
def renderText (depth : Nat) (text : String) : List Char :=
  (splitAtAll (· == '\n') text.toList).flatMap fun piece => renderLine depth (dropReturn piece)

mutual

/-- The text of a piece at the given depth. -/
def Layout.render (depth : Nat) : Layout → List Char
  | .line text => renderText depth text
  | .block opening body closing =>
    renderText depth opening ++ (Layout.renderAll (depth + 1) body ++ renderText depth closing)

/-- The text of pieces at the given depth. -/
def Layout.renderAll (depth : Nat) : List Layout → List Char
  | [] => []
  | piece :: rest => Layout.render depth piece ++ Layout.renderAll depth rest

end

end IconCompiler.Source
