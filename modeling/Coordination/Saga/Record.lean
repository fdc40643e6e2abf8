import Coordination.Ident
import Coordination.Time

/-!
# Saga records

A saga record is a snapshot of one run of a saga: its status, and the names of the steps that were completed.
-/

namespace Coordination.Saga

inductive Status where
  | pending
  | running
  | committed
  | compensating
  | compensated
  | failed
  deriving DecidableEq, Repr

namespace Status

/-- A status that never changes again. -/
def isTerminal : Status → Bool
  | .committed => true
  | .compensated => true
  | .failed => true
  | _ => false

def label : Status → String
  | .pending => "pending"
  | .running => "running"
  | .committed => "committed"
  | .compensating => "compensating"
  | .compensated => "compensated"
  | .failed => "failed"

instance : ToString Status := ⟨label⟩

def all : List Status := [.pending, .running, .committed, .compensating, .compensated, .failed]

end Status

structure Record where
  id : SagaId
  name : String
  status : Status
  startedAt : Millis
  updatedAt : Millis
  /-- The steps whose actions succeeded, in order. -/
  completed : List String
  correlation : Option String
  error : Option String
  deriving DecidableEq, Repr

namespace Record

/-- A saga that was made known but has not begun. -/
def pending (id : SagaId) (name : String) (now : Millis) : Record where
  id := id
  name := name
  status := .pending
  startedAt := now
  updatedAt := now
  completed := []
  correlation := none
  error := none

/-- The time of an update made now. -/
def touchedAt (now : Millis) (r : Record) : Millis := max now r.updatedAt

end Record

end Coordination.Saga
