/-! # File states

    What became of one file that was to be written, and of several together. -/

namespace IconCompiler

/-- What happened, or would happen, to one file. -/
inductive FileState where
  /-- The content differed and was replaced. -/
  | written
  /-- The file held the content already. -/
  | unchanged
  /-- The content differs, but nothing may be written. -/
  | wouldChange
  deriving DecidableEq

namespace FileState

/-- The state of two files together: stale counts most, then written. -/
def combine : FileState → FileState → FileState
  | wouldChange, _ => wouldChange
  | _, wouldChange => wouldChange
  | written, _ => written
  | _, written => written
  | unchanged, unchanged => unchanged

/-- The word for a state. -/
def label : FileState → String
  | written => "written"
  | unchanged => "unchanged"
  | wouldChange => "would change"

end FileState

end IconCompiler
