import IconCompiler.OrderedMap

/-! # Icons

    An asset is a file as it was found; an icon is what is left of it once its
    name and its markup have been read. -/

namespace IconCompiler

/-- The attributes of an element, in the order in which they were written. -/
abbrev AttributeMap := OrderedMap String String

/-- A file that may hold an icon: its path and its text. -/
structure Asset where
  path : String
  content : String
  deriving DecidableEq

/-- An icon that is ready to be written. -/
structure Icon where
  /-- The identifier derived from the name. -/
  identifier : String
  /-- The name of the asset. -/
  name : String
  /-- The attributes of the root element, without declarations and `class`. -/
  attributes : AttributeMap
  /-- The markup of the children of the root element. -/
  inner : String
  deriving DecidableEq

end IconCompiler
