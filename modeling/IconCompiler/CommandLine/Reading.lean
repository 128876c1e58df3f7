import IconCompiler.CommandLine.Scope

/-! # Reading a command line

    The words of a scope are read one by one.  The value of an option is
    settled only when the next option or the end of the scope comes, so of two
    faults the one that is noticed first need not stand first. -/

namespace IconCompiler.CommandLine

/-- Why a command line asks for nothing to be done. -/
inductive Refusal where
  /-- Help is asked for. -/
  | help
  /-- The version is asked for. -/
  | version
  /-- Neither a command nor an option is given. -/
  | nothingGiven
  /-- Options are given, but no command. -/
  | noCommand
  | unknownCommand
  | unknownArgument
  /-- The value of an option is missing or not accepted. -/
  | badValue
  /-- An option that may be given once is repeated. -/
  | repeated
  /-- An option that takes no value gets one. -/
  | needlessValue
  deriving DecidableEq

/-- The options of a scope, as far as they have been read. -/
structure Reading where
  /-- The options that are settled, with their values. -/
  given : List (String × String) := []
  /-- The option that is not settled, and its value if that has been read. -/
  pending : Option (OptionSpec × Option String) := none
  deriving DecidableEq

namespace Reading

/-- The value of a settled option. -/
def value? (reading : Reading) (name : String) : Option String :=
  reading.given.lookup name

/-- Whether the next word is the value of an option, unless it looks like an
    option itself. -/
def expecting (reading : Reading) : Bool :=
  match reading.pending with
  | some (_, none) => true
  | _ => false

/-- Settle an option with a value. -/
def record (reading : Reading) (spec : OptionSpec) (value : String) :
    Except Refusal Reading :=
  if (reading.value? spec.name).isSome then .error .repeated
  else if spec.kind.accepts value then
    .ok { reading with given := reading.given ++ [(spec.name, value)] }
  else .error .badValue

/-- Settle the pending option. -/
def settle (reading : Reading) : Except Refusal Reading :=
  match reading.pending with
  | none => .ok reading
  | some (_, none) => .error .badValue
  | some (spec, some value) => { reading with pending := none }.record spec value

/-- Begin an option whose value is the next word. -/
def await (reading : Reading) (spec : OptionSpec) : Except Refusal Reading := do
  return { ← reading.settle with pending := some (spec, none) }

/-- Take the next word as the value of the pending option. -/
def take (reading : Reading) (value : String) : Reading :=
  { reading with pending := reading.pending.map fun (spec, _) => (spec, some value) }

/-- Read an option with its value. -/
def give (reading : Reading) (spec : OptionSpec) (value : String) :
    Except Refusal Reading := do
  (← reading.settle).record spec value

/-- Read an option that takes no value. -/
def mark (reading : Reading) (spec : OptionSpec) : Except Refusal Reading := do
  let settled ← reading.settle
  match spec.kind with
  | .help => .error .help
  | .version => .error .version
  | .counter =>
    return { settled with
      given := settled.given.filter (fun (name, _) => name != spec.name) ++ [(spec.name, "")] }
  | _ => settled.record spec ""

/-- Read an option that is given by its name, perhaps with a value behind an
    equals sign. -/
def readName (scope : Scope) (reading : Reading) (word : List Char) :
    Except Refusal Reading :=
  match scope.named? (String.ofList (word.takeWhile (· != '='))) with
  | none => .error .unknownArgument
  | some spec =>
    match word.dropWhile (· != '=') with
    | [] => if spec.kind.takesValue then reading.await spec else reading.mark spec
    | _ :: value =>
      if spec.kind.takesValue then reading.give spec (String.ofList value)
      else .error .needlessValue

/-- Read options that are given by letters.  What follows the letter of an
    option with a value is that value, perhaps behind an equals sign. -/
def readLetters (scope : Scope) (reading : Reading) : List Char → Except Refusal Reading
  | [] => .ok reading
  | letter :: rest =>
    match scope.lettered? letter with
    | none => .error .unknownArgument
    | some spec =>
      if spec.kind.takesValue then
        match rest with
        | [] => reading.await spec
        | '=' :: value => reading.give spec (String.ofList value)
        | value => reading.give spec (String.ofList value)
      else
        match reading.mark spec with
        | .error refusal => .error refusal
        | .ok next => next.readLetters scope rest

/-- Refuse a word that is neither an option nor a command.  Behind two dashes
    even the name of a command is such a word. -/
def refuse (scope : Scope) (behindDashes : Bool) (word : String) : Refusal :=
  if scope.commands.isEmpty || (behindDashes && scope.knows word) then .unknownArgument
  else .unknownCommand

/-- Read the words of a scope.  The answer has the scope of the command that
    was met, if any, and the words behind it. -/
def readScope (scope : Scope) (reading : Reading) :
    List String → Except Refusal (Reading × Option (Scope × List String))
  | [] => .ok (reading, none)
  | word :: rest =>
    if !reading.expecting && scope.isHelp word then
      .error (if scope.explains rest then .help else .unknownCommand)
    else
      match if reading.expecting then none else scope.commands.lookup word with
      | some inner => .ok (reading, some (inner, rest))
      | none =>
        match word.toList with
        | ['-', '-'] =>
          match rest with
          | [] => .ok (reading, none)
          | stray :: _ => .error (refuse scope true stray)
        | '-' :: '-' :: name =>
          match readName scope reading name with
          | .error refusal => .error refusal
          | .ok next => next.readScope scope rest
        | '-' :: letter :: letters =>
          match readLetters scope reading (letter :: letters) with
          | .error refusal => .error refusal
          | .ok next => next.readScope scope rest
        | _ =>
          if reading.expecting then (reading.take word).readScope scope rest
          else .error (refuse scope false word)

/-- Take the file of the settings from the environment, unless an option names
    it. -/
def addEnvironment (reading : Reading) (environment : Option String) :
    Except Refusal Reading :=
  match environment with
  | none => .ok reading
  | some path =>
    if (reading.value? "config").isSome then .ok reading
    else reading.give { name := "config", kind := .path } path

theorem length_of_readScope {scope inner : Scope} {reading next : Reading}
    {words rest : List String}
    (h : readScope scope reading words = .ok (next, some (inner, rest))) :
    rest.length < words.length := by
  fun_induction readScope scope reading words with
  | case1 => simp at h
  | case2 => simp at h
  | case3 =>
    cases h
    simp
  | _ => simp_all <;> omega

end Reading

end IconCompiler.CommandLine
