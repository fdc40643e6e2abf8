import Coordination.Chronicle
import Coordination.Saga.Record

/-!
# Saga notices

What is announced about sagas. The notices of steps and compensations are optional.
-/

namespace Coordination.Saga

inductive EventKind where
  | started
  | committed
  | compensated
  | failed
  deriving DecidableEq, Repr

def EventKind.all : List EventKind := [.started, .committed, .compensated, .failed]

inductive Notice where
  | started (id : SagaId) (name : String)
  | committed (id : SagaId)
  | compensated (id : SagaId)
  | failed (id : SagaId) (error : Option String)
  | stepCompleted (id : SagaId) (step : String)
  | stepFailed (id : SagaId) (step error : String)
  | compensationFailed (id : SagaId) (step error : String)
  deriving DecidableEq, Repr

namespace Notice

def lifecycle? : Notice → Option (SagaId × EventKind × Option String)
  | .started id _ => some (id, .started, none)
  | .committed id => some (id, .committed, none)
  | .compensated id => some (id, .compensated, none)
  | .failed id error => some (id, .failed, error)
  | .stepCompleted .. => none
  | .stepFailed .. => none
  | .compensationFailed .. => none

def line : Notice → LogLine
  | .started id name => ⟨.info, "Saga started", [("saga_id", id.text), ("saga_type", name)]⟩
  | .committed id => ⟨.info, "Saga committed", [("saga_id", id.text)]⟩
  | .compensated id => ⟨.info, "Saga compensated", [("saga_id", id.text)]⟩
  | .failed id (some error) => ⟨.error, "Saga failed", [("saga_id", id.text), ("reason", error)]⟩
  | .failed id none => ⟨.error, "Saga failed", [("saga_id", id.text)]⟩
  | .stepCompleted id step => ⟨.info, "Step completed", [("saga_id", id.text), ("step", step)]⟩
  | .stepFailed id step error =>
    ⟨.warn, "Step failed", [("saga_id", id.text), ("step", step), ("error", error)]⟩
  | .compensationFailed id step error =>
    ⟨.warn, "Compensation failed", [("saga_id", id.text), ("step", step), ("error", error)]⟩

instance : Announcement Notice .saga EventKind := ⟨lifecycle?, line⟩

end Notice

end Coordination.Saga
