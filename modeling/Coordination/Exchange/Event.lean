import Coordination.Ident

/-!
# Saga events

The events that sagas exchange: a kind, by which they are routed, the saga that they belong to, and a payload.
-/

namespace Coordination.Exchange

structure Event (V : Type) where
  kind : String
  saga : SagaId
  payload : V

/-- The next event of the same saga. -/
def Event.followUp {V : Type} (kind : String) (payload : V) (e : Event V) : Event V := { e with kind, payload }

/-- A handler of events of `kind` failed. -/
structure Fault where
  kind : String
  cause : String
  deriving DecidableEq, Repr

def Fault.message (f : Fault) : String := "handler for " ++ f.kind ++ " failed: " ++ f.cause

/-- The number of a subscription; no number is given out twice. -/
structure Ticket where
  number : Nat
  deriving DecidableEq, Repr

/-- The ticket as diagnostics show it. -/
def Ticket.inspect (t : Ticket) : String := "HandlerId(" ++ toString t.number ++ ")"

end Coordination.Exchange
