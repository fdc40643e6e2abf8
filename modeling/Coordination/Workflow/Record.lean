import Coordination.Ident
import Coordination.Time

/-!
# Process records

A process record is a snapshot of one process: where it stands in its workflow, whether it still runs, and its
deadline. Records are values; a change makes a new record.
-/

namespace Coordination.Workflow

inductive Status where
  | running
  | completed
  | failed
  | timedOut
  deriving DecidableEq, Repr

namespace Status

/-- A status that never changes again. -/
def isTerminal : Status → Bool
  | .running => false
  | _ => true

def label : Status → String
  | .running => "running"
  | .completed => "completed"
  | .failed => "failed"
  | .timedOut => "timed-out"

instance : ToString Status := ⟨label⟩

def all : List Status := [.running, .completed, .failed, .timedOut]

end Status

/-- A process in a workflow whose states are of type `S`. -/
structure Record (S : Type) where
  id : ProcessId
  /-- The workflow that the process follows. -/
  name : String
  status : Status
  state : S
  startedAt : Millis
  updatedAt : Millis
  correlation : Option String
  deadline : Option Millis
  error : Option String
  deriving DecidableEq, Repr

namespace Record

variable {S : Type}

def isRunning (r : Record S) : Bool := decide (r.status = .running)

def isTerminal (r : Record S) : Bool := r.status.isTerminal

/-- The process still runs although its deadline has come. -/
def isExpired (now : Millis) (r : Record S) : Bool :=
  r.isRunning && r.deadline.any (fun due => decide (due ≤ now))

end Record

end Coordination.Workflow
