import Coordination.Saga.Record

/-!
# Saga faults

Why a statement on a saga, or a saga as a whole, fails.
-/

namespace Coordination.Saga

/-- What only a running saga can do. -/
inductive Operation where
  | commit
  | rollBack
  deriving DecidableEq, Repr

def Operation.label : Operation → String
  | .commit => "commit"
  | .rollBack => "roll back"

inductive Fault where
  /-- A step of a saga that does not run. -/
  | step (status : Status)
  /-- A step after the budget, in milliseconds, was used up. -/
  | timeout (budget : Millis)
  /-- The action of a step failed. -/
  | action (step cause : String)
  /-- The end of a saga that does not run. -/
  | finished (operation : Operation) (status : Status)
  deriving DecidableEq, Repr

namespace Fault

def message : Fault → String
  | .step status => "cannot execute step: saga is " ++ status.label
  | .timeout budget => "saga exceeded its timeout of " ++ toString budget ++ "ms"
  | .action name cause => "step " ++ name ++ " failed: " ++ cause
  | .finished operation status => "cannot " ++ operation.label ++ ": saga is " ++ status.label

/-- The error that lies behind a fault. -/
def cause? : Fault → Option String
  | .action _ cause => some cause
  | _ => none

def isActionFailure : Fault → Bool
  | .action .. => true
  | _ => false

def isTimeout : Fault → Bool
  | .timeout _ => true
  | _ => false

end Fault

end Coordination.Saga
