import Coordination.Exchange.Event

/-!
# Reactions

What a handler does when it receives an event: actions, each chosen in view of how the earlier ones went, until it
is done or fails. A reaction may publish events of its own and change the subscriptions, its own included.
-/

namespace Coordination.Exchange

inductive Reaction (V : Type) where
  | done
  | fail (cause : String)
  /-- Writes a value down in the journal. -/
  | note (value : V) (next : Reaction V)
  | publish (event : Event V) (next : Except Fault Unit → Reaction V)
  | subscribe (kind : String) (handler : Event V → Reaction V) (next : Ticket → Reaction V)
  | cancel (ticket : Ticket) (next : Bool → Reaction V)
  /-- Cancels all subscriptions to a kind of events, or all there are. -/
  | clear (kind : Option String) (next : Reaction V)
  | count (kind : String) (next : Nat → Reaction V)
  /-- Keeps a ticket under a name. -/
  | keep (name : String) (ticket : Ticket) (next : Reaction V)
  /-- Looks up a ticket that was kept. -/
  | lookUp (name : String) (next : Option Ticket → Reaction V)

/-- What a subscriber does with an event. -/
abbrev Handler (V : Type) := Event V → Reaction V

end Coordination.Exchange
