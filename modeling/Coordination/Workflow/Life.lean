import Coordination.Chart
import Coordination.Workflow.Record
import Coordination.Storage

/-!
# The life of a process

How a process record changes: it moves along the transitions that the chart of its workflow declares, ends in one
of three ways, and may be given another deadline. Every change sets the time of the last update to the later of the
clock and its old value, so that a clock that jumps back does not turn it back.
-/

namespace Coordination.Workflow

/-- Why an operation on a process is refused. -/
inductive Fault (S : Type) where
  | invalidTransition (refusal : Chart.Refusal S)
  | terminated (id : ProcessId) (status : Status)
  | notFound (id : ProcessId)
  | storage (fault : StorageFault)
  /-- A failure raised by the handling of an event. -/
  | handler (reason : String)
  deriving DecidableEq, Repr

def Fault.message {S : Type} [ToString S] : Fault S → String
  | .invalidTransition refusal => refusal.message
  | .terminated id status => "process " ++ id.text ++ " is already " ++ status.label
  | .notFound id => "process " ++ id.text ++ " not found"
  | .storage fault => fault.message
  | .handler reason => "handler error: " ++ reason

/-- How a process ends. -/
inductive Ending where
  | completed
  | failed (reason : String)
  | timedOut
  deriving DecidableEq, Repr

namespace Ending

def status : Ending → Status
  | .completed => .completed
  | .failed _ => .failed
  | .timedOut => .timedOut

def error : Ending → Option String
  | .failed reason => some reason
  | _ => none

end Ending

/-- What a workflow lays down: its name, where its processes start, the transitions that it declares, and how long they
may take. -/
structure Design (S : Type) where
  name : String
  initial : S
  chart : Chart S
  allowance : Option Span

/-- A process that starts now. -/
def Design.fresh {S : Type} (w : Design S) (id : ProcessId) (correlation : Option String) (now : Millis) :
    Record S where
  id := id
  name := w.name
  status := .running
  state := w.initial
  startedAt := now
  updatedAt := now
  correlation := correlation
  deadline := w.allowance.map fun span => now.after span.toMillis
  error := none

namespace Record

variable {S : Type}

/-- The time of an update made now. -/
def touchedAt (now : Millis) (r : Record S) : Millis := max now r.updatedAt

def requireRunning (r : Record S) : Except (Fault S) Unit :=
  if r.isTerminal then .error (.terminated r.id r.status) else .ok ()

/-- A running process moves to `target` if the chart allows it. -/
def move [DecidableEq S] (chart : Chart S) (now : Millis) (target : S) (r : Record S) :
    Except (Fault S) (Record S) :=
  match r.requireRunning with
  | .error fault => .error fault
  | .ok () =>
    match chart.check r.state target with
    | .error refusal => .error (.invalidTransition refusal)
    | .ok () => .ok { r with state := target, updatedAt := r.touchedAt now }

/-- A running process ends. -/
def finish (ending : Ending) (now : Millis) (r : Record S) : Except (Fault S) (Record S) :=
  match r.requireRunning with
  | .error fault => .error fault
  | .ok () => .ok { r with status := ending.status, error := ending.error, updatedAt := r.touchedAt now }

/-- The deadline moves, whatever the status. -/
def postpone (deadline now : Millis) (r : Record S) : Record S :=
  { r with deadline := some deadline, updatedAt := r.touchedAt now }

end Record

end Coordination.Workflow
