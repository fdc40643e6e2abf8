import Coordination.Exchange.Registry
import Coordination.LogLine

/-!
# Dispatch

An exchange hands every published event to the subscriptions of its kind that are there when it is published, one
after the other and in the order in which they were made. A handler is done, with all that it published, before the
next one begins; the first one that fails ends the dispatch.

Handlers can publish to each other without end, so `publishWithin` is given the number of dispatches that may be
inside one another, and has no answer if they are not enough.
-/

namespace Coordination

namespace Exchange

/-- What the journal of an exchange tells. -/
inductive Entry (V : Type) where
  /-- A dispatch to so many handlers begins. -/
  | emitting (kind : String) (handlers : Nat)
  | entered (ticket : Ticket) (event : Event V)
  | left (ticket : Ticket) (event : Event V) (outcome : Except String Unit)
  | noted (value : V)

/-- The diagnostic line of an entry, if it has one. -/
def Entry.line? {V : Type} : Entry V → Option LogLine
  | .emitting kind handlers =>
    some ⟨.debug, "Emitting saga event", [("event_type", kind), ("handlers", toString handlers)]⟩
  | _ => none

def Entry.note? {V : Type} : Entry V → Option V
  | .noted value => some value
  | _ => none

end Exchange

structure Exchange (V : Type) where
  registry : Exchange.Registry V
  /-- Tickets that were kept under a name. -/
  kept : Table String Exchange.Ticket
  journal : List (Exchange.Entry V)

namespace Exchange

variable {V : Type}

def opened : Exchange V := ⟨.empty, [], []⟩

def record (e : Entry V) (x : Exchange V) : Exchange V := { x with journal := x.journal ++ [e] }

def subscribe (kind : String) (handler : Handler V) (x : Exchange V) : Ticket × Exchange V :=
  let (ticket, registry) := x.registry.subscribe kind handler
  (ticket, { x with registry })

def cancel (ticket : Ticket) (x : Exchange V) : Bool × Exchange V :=
  let (found, registry) := x.registry.cancel ticket
  (found, { x with registry })

def clear (kind : Option String) (x : Exchange V) : Exchange V := { x with registry := x.registry.clear kind }

def count (kind : String) (x : Exchange V) : Nat := x.registry.count kind

def keep (name : String) (ticket : Ticket) (x : Exchange V) : Exchange V :=
  { x with kept := x.kept.insert name ticket }

def ticket? (name : String) (x : Exchange V) : Option Ticket := x.kept.find? name

/-- How a dispatch ends: not at all within the given depth, or with an outcome. -/
abbrev Outcome (ε V : Type) := Option (Except ε Unit × Exchange V)

/-- Runs a reaction; `nested` publishes for it. -/
def Reaction.run (nested : Event V → Exchange V → Outcome Fault V) :
    Reaction V → Exchange V → Outcome String V
  | .done, x => some (.ok (), x)
  | .fail cause, x => some (.error cause, x)
  | .note value next, x => next.run nested (x.record (.noted value))
  | .publish event next, x =>
    match nested event x with
    | none => none
    | some (outcome, x) => (next outcome).run nested x
  | .subscribe kind handler next, x =>
    let (ticket, x) := x.subscribe kind handler
    (next ticket).run nested x
  | .cancel ticket next, x =>
    let (found, x) := x.cancel ticket
    (next found).run nested x
  | .clear kind next, x => next.run nested (x.clear kind)
  | .count kind next, x => (next (x.count kind)).run nested x
  | .keep name ticket next, x => next.run nested (x.keep name ticket)
  | .lookUp name next, x => (next (x.ticket? name)).run nested x

/-- Hands an event to one subscription after the other, until one fails. -/
def dispatch (nested : Event V → Exchange V → Outcome Fault V) (e : Event V) :
    List (Subscription V) → Exchange V → Outcome Fault V
  | [], x => some (.ok (), x)
  | s :: rest, x =>
    match (s.handler e).run nested (x.record (.entered s.ticket e)) with
    | none => none
    | some (.error cause, x) => some (.error ⟨e.kind, cause⟩, x.record (.left s.ticket e (.error cause)))
    | some (.ok (), x) => dispatch nested e rest (x.record (.left s.ticket e (.ok ())))

/-- Publishes an event with at most `depth` dispatches inside one another. -/
def publishWithin : Nat → Event V → Exchange V → Outcome Fault V
  | 0, _, _ => none
  | depth + 1, e, x =>
    match x.registry.group? e.kind with
    | none => some (.ok (), x)
    | some group => dispatch (publishWithin depth) e group (x.record (.emitting e.kind group.length))

end Exchange

end Coordination
