import IconCompiler.Text.Blank
import IconCompiler.Text.Split

/-! # Containers

    A container is the module that holds the constants of a target, inside the
    modules of an optional path whose segments are set apart by double colons. -/

namespace IconCompiler

open Text

/-- Where generated declarations live. -/
structure Container where
  /-- The modules around the container. -/
  modulePath : Option String
  /-- The module that holds the constants. -/
  name : String
  deriving DecidableEq

namespace Container

/-- The container of the given name; a blank module path counts as none. -/
def make (modulePath : Option String) (name : String) : Container where
  modulePath := modulePath.filter fun path => !allBlank path
  name := name

/-- The names of the modules around a container, the outermost first: the
    trimmed segments of the module path that are not empty. -/
def segments (container : Container) : List String :=
  match container.modulePath with
  | none => []
  | some path =>
    ((splitAtColons path.toList).map fun segment => String.ofList (trimEnds isBlank segment)).filter
      (· != "")

/-- The full name of a container, as it was given. -/
def display (container : Container) : String :=
  match container.modulePath with
  | none => container.name
  | some path => path ++ "::" ++ container.name

end Container

end IconCompiler
