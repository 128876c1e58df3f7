/-! # Scopes of the command line

    The words of a command line are read in a scope, at first that of the
    program.  The name of a command leads into the scope of that command, where
    other options and commands are known. -/

namespace IconCompiler.CommandLine

/-- What an option takes, and what it does. -/
inductive OptionKind where
  /-- Takes any text. -/
  | text
  /-- Takes a text that is not empty. -/
  | path
  /-- Takes one of some words. -/
  | choice (words : List String)
  /-- Takes nothing. -/
  | flag
  /-- Takes nothing, and may be repeated. -/
  | counter
  /-- Asks for help. -/
  | help
  /-- Asks for the version. -/
  | version
  deriving DecidableEq

/-- Whether an option takes a value. -/
def OptionKind.takesValue : OptionKind → Bool
  | text | path | choice _ => true
  | flag | counter | help | version => false

/-- Whether an option may get the value `value`. -/
def OptionKind.accepts (kind : OptionKind) (value : String) : Bool :=
  match kind with
  | path => value != ""
  | choice words => words.contains value
  | _ => true

/-- An option, by its name behind two dashes and its letter behind one. -/
structure OptionSpec where
  name : String
  letter : Option Char := none
  kind : OptionKind
  deriving DecidableEq

/-- Where words are read. -/
inductive Scope where
  | program
  | generate
  | list
  | support
  | settings
  | create
  | display
  deriving DecidableEq

namespace Scope

/-- The options that are known in every scope. -/
def shared : List OptionSpec := [
  { name := "log-format", kind := .choice ["text", "json"] },
  { name := "verbose", letter := some 'v', kind := .counter },
  { name := "config", kind := .path },
  { name := "help", letter := some 'h', kind := .help }]

/-- The options that are known in one scope only. -/
def own : Scope → List OptionSpec
  | program => [{ name := "version", letter := some 'V', kind := .version }]
  | generate => [
    { name := "root", kind := .path },
    { name := "pattern", letter := some 'p', kind := .text },
    { name := "namespace", kind := .text },
    { name := "name", letter := some 'n', kind := .text },
    { name := "out", letter := some 'o', kind := .text },
    { name := "manifest", kind := .text },
    { name := "check", kind := .flag }]
  | list => [
    { name := "root", kind := .path },
    { name := "pattern", letter := some 'p', kind := .text }]
  | support => [{ name := "out", letter := some 'o', kind := .path }]
  | settings | create | display => []

/-- The option with a name. -/
def named? (scope : Scope) (name : String) : Option OptionSpec :=
  (scope.own ++ shared).find? fun spec => spec.name == name

/-- The option with a letter. -/
def lettered? (scope : Scope) (letter : Char) : Option OptionSpec :=
  (scope.own ++ shared).find? fun spec => spec.letter == some letter

/-- The commands of a scope and where they lead. -/
def commands : Scope → List (String × Scope)
  | program =>
    [("generate", generate), ("list", list), ("support", support), ("config", settings)]
  | settings => [("init", create), ("show", display)]
  | generate | list | support | create | display => []

/-- The command that explains the others, where there are others. -/
def helpName : String := "help"

/-- Whether a word is a command that explains others. -/
def isHelp (scope : Scope) (word : String) : Bool :=
  word == helpName && !scope.commands.isEmpty

/-- Whether a word is a command. -/
def knows (scope : Scope) (word : String) : Bool :=
  scope.isHelp word || (scope.commands.lookup word).isSome

/-- Whether words behind a call for help name a command. -/
def explains (scope : Scope) : List String → Bool
  | [] => true
  | word :: rest =>
    if scope.isHelp word then rest.isEmpty
    else
      match scope.commands.lookup word with
      | some inner => inner.explains rest
      | none => false

end Scope

end IconCompiler.CommandLine
