/-! # Standalone icons

    An icon as generated source declares it, and the element it is rendered as.
    Attributes can be replaced or added on the way. -/

namespace IconCompiler

/-- An icon as generated source declares it. -/
structure SvgIcon where
  name : String
  attributes : List (String × String)
  inner : String
  deriving DecidableEq

namespace SvgIcon

/-- The written form of a character of an attribute value. -/
def escapeChar (c : Char) : List Char :=
  if c = '&' then ['&', 'a', 'm', 'p', ';']
  else if c = '<' then ['&', 'l', 't', ';']
  else if c = '>' then ['&', 'g', 't', ';']
  else if c = '"' then ['&', 'q', 'u', 'o', 't', ';']
  else [c]

/-- One attribute, with the blank in front of it. -/
def renderAttribute (entry : String × String) : String :=
  " " ++ entry.1 ++ "=\"" ++ String.ofList (entry.2.toList.flatMap escapeChar) ++ "\""

/-- The value of an attribute, letter case being significant. -/
def attribute? (icon : SvgIcon) (key : String) : Option String :=
  icon.attributes.lookup key

/-- The attributes to render: the icon's own, each with the value of the first
    override of its key, then all overrides of other keys that are not empty. -/
def effectiveAttributes (icon : SvgIcon) (overrides : List (String × String)) :
    List (String × String) :=
  icon.attributes.map (fun entry => (entry.1, (overrides.lookup entry.1).getD entry.2))
    ++ overrides.filter fun entry => entry.1 != "" && (icon.attribute? entry.1).isNone

/-- The standalone element for an icon, with attributes replaced or added. -/
def renderWith (icon : SvgIcon) (overrides : List (String × String)) : String :=
  "<svg xmlns=\"http://www.w3.org/2000/svg\""
    ++ String.join ((icon.effectiveAttributes overrides).map renderAttribute)
    ++ ">" ++ icon.inner ++ "</svg>"

/-- The standalone element for an icon. -/
def render (icon : SvgIcon) : String :=
  icon.renderWith []

end SvgIcon

end IconCompiler
