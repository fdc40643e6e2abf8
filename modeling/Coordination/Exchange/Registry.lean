import Coordination.Exchange.Reaction
import Coordination.Table

/-!
# The registry of subscriptions

Subscriptions are kept by the kind of event, in the order in which they were made. A kind without subscriptions has
no entry.
-/

namespace Coordination.Exchange

structure Subscription (V : Type) where
  ticket : Ticket
  handler : Handler V

structure Registry (V : Type) where
  groups : Table String (List (Subscription V))
  /-- How many tickets were given out. -/
  issued : Nat

namespace Registry

variable {V : Type}

def empty : Registry V := ⟨[], 0⟩

/-- The subscriptions to a kind of events, if there are any. -/
def group? (kind : String) (r : Registry V) : Option (List (Subscription V)) := r.groups.find? kind

def count (kind : String) (r : Registry V) : Nat := ((r.group? kind).map List.length).getD 0

def subscribe (kind : String) (handler : Handler V) (r : Registry V) : Ticket × Registry V :=
  let ticket : Ticket := ⟨r.issued + 1⟩
  let group := (r.group? kind).getD [] ++ [⟨ticket, handler⟩]
  (ticket, ⟨r.groups.insert kind group, r.issued + 1⟩)

def holds (ticket : Ticket) (r : Registry V) : Bool :=
  r.groups.any fun g => g.2.any fun s => decide (s.ticket = ticket)

/-- Cancels a subscription; tells whether there was one. -/
def cancel (ticket : Ticket) (r : Registry V) : Bool × Registry V :=
  let groups := r.groups.map fun g => (g.1, g.2.filter fun s => s.ticket ≠ ticket)
  (r.holds ticket, { r with groups := groups.filter fun g => ¬ g.2.isEmpty })

/-- Cancels all subscriptions to a kind of events, or all there are. -/
def clear (kind : Option String) (r : Registry V) : Registry V :=
  match kind with
  | some kind => { r with groups := r.groups.erase kind }
  | none => { r with groups := [] }

end Registry

end Coordination.Exchange
