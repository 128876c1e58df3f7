import IconCompiler.Icon

/-! # Markup trees

    The nodes that matter for an icon, without namespaces, and their compact
    written form. -/

namespace IconCompiler.Markup

/-- A node of a markup tree. -/
inductive Node where
  | element (name : String) (attributes : AttributeMap) (children : List Node)
  /-- Text as it is written, references included. -/
  | text (raw : String)
  | comment (body : String)
  | cdata (body : String)

/-- The written form of a character of an attribute value. -/
def escapeChar (c : Char) : List Char :=
  if c = '&' then ['&', 'a', 'm', 'p', ';']
  else if c = '<' then ['&', 'l', 't', ';']
  else if c = '>' then ['&', 'g', 't', ';']
  else if c = '"' then ['&', 'q', 'u', 'o', 't', ';']
  else if c = '\n' then ['&', '#', 'x', 'A', ';']
  else if c = '\r' then ['&', '#', 'x', 'D', ';']
  else if c = '\t' then ['&', '#', 'x', '9', ';']
  else [c]

/-- The written form of an attribute value. -/
def escapeValue (value : String) : String :=
  String.ofList (value.toList.flatMap escapeChar)

/-- One attribute, with the blank in front of it. -/
def renderAttribute (entry : String × String) : String :=
  " " ++ entry.1 ++ "=\"" ++ escapeValue entry.2 ++ "\""

/-- Attributes, each with the blank in front of it. -/
def renderAttributes (attributes : AttributeMap) : String :=
  String.join (attributes.entries.map renderAttribute)

mutual

/-- The written form of a node. -/
def Node.render : Node → String
  | .element name attributes [] => "<" ++ name ++ renderAttributes attributes ++ " />"
  | .element name attributes (child :: children) =>
    "<" ++ name ++ renderAttributes attributes ++ ">"
      ++ (Node.render child ++ Node.renderAll children) ++ "</" ++ name ++ ">"
  | .text raw => raw
  | .comment body => "<!--" ++ body ++ "-->"
  | .cdata body => "<![CDATA[" ++ body ++ "]]>"

/-- The written form of nodes, one after the other. -/
def Node.renderAll : List Node → String
  | [] => ""
  | node :: rest => Node.render node ++ Node.renderAll rest

end

end IconCompiler.Markup
