import Coordination.Chronicle
import Coordination.Workflow.Record

/-!
# Process notices

What is announced about processes. All notices but `moved` tell of a lifecycle event.
-/

namespace Coordination.Workflow

inductive EventKind where
  | started
  | completed
  | failed
  | timedOut
  deriving DecidableEq, Repr

def EventKind.all : List EventKind := [.started, .completed, .failed, .timedOut]

inductive Notice (S : Type) where
  | started (id : ProcessId) (name : String)
  | completed (id : ProcessId)
  | failed (id : ProcessId) (error : Option String)
  | timedOut (id : ProcessId)
  | moved (id : ProcessId) (source target : S)
  deriving DecidableEq, Repr

namespace Notice

variable {S : Type}

def lifecycle? : Notice S → Option (ProcessId × EventKind × Option String)
  | .started id _ => some (id, .started, none)
  | .completed id => some (id, .completed, none)
  | .failed id error => some (id, .failed, error)
  | .timedOut id => some (id, .timedOut, none)
  | .moved .. => none

def line [ToString S] : Notice S → LogLine
  | .started id name => ⟨.info, "Process started", [("process_id", id.text), ("process", name)]⟩
  | .completed id => ⟨.info, "Process completed", [("process_id", id.text)]⟩
  | .failed id (some error) => ⟨.warn, "Process failed", [("process_id", id.text), ("error", error)]⟩
  | .failed id none => ⟨.warn, "Process failed", [("process_id", id.text)]⟩
  | .timedOut id => ⟨.warn, "Process timed out", [("process_id", id.text)]⟩
  | .moved id source target =>
    ⟨.debug, "Process transitioned",
      [("process_id", id.text), ("from", toString source), ("to", toString target)]⟩

instance [ToString S] : Announcement (Notice S) .process EventKind := ⟨lifecycle?, line⟩

end Notice

end Coordination.Workflow
