/-! # Diagnostics

    What a user is told about a run, each message with a stable code. -/

namespace IconCompiler

/-- How serious a diagnostic is. -/
inductive Severity where
  | warning
  | error
  deriving DecidableEq

/-- The word for a severity. -/
def Severity.label : Severity → String
  | warning => "warning"
  | error => "error"

/-- What a diagnostic is about. -/
inductive DiagnosticTopic where
  /-- The root directory does not exist. -/
  | noRoot
  /-- No icons were found. -/
  | noIcons
  /-- An output could not be written. -/
  | unwritable
  /-- An asset could not be read or parsed. -/
  | unreadable
  /-- A derived identifier had to be changed. -/
  | changedName
  deriving DecidableEq

namespace DiagnosticTopic

/-- The code that users see. -/
def label : DiagnosticTopic → String
  | noRoot => "ICON001"
  | noIcons => "ICON003"
  | unwritable => "ICON004"
  | unreadable => "ICON005"
  | changedName => "ICON006"

/-- Only a failure to write is an error. -/
def severity : DiagnosticTopic → Severity
  | unwritable => .error
  | _ => .warning

end DiagnosticTopic

/-- A warning or an error. -/
structure Diagnostic where
  topic : DiagnosticTopic
  message : String
  /-- The file that the diagnostic concerns. -/
  path : Option String
  deriving DecidableEq

namespace Diagnostic

/-- How serious a diagnostic is. -/
def severity (diagnostic : Diagnostic) : Severity :=
  diagnostic.topic.severity

/-- Whether a diagnostic is an error. -/
def isSevere (diagnostic : Diagnostic) : Bool :=
  diagnostic.severity = .error

/-- The line that shows a diagnostic. -/
def display (diagnostic : Diagnostic) : String :=
  diagnostic.topic.label ++ ": " ++ diagnostic.message

end Diagnostic

end IconCompiler
