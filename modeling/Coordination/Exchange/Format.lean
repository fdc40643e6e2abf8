import Coordination.Exchange.Event
import Coordination.Json.Format

/-!
# The JSON form of saga events

Saga events, whose payload is any JSON value, and the faults of handlers.
-/

namespace Coordination.Exchange

open Json Json.Reader

def Fault.toJson (f : Fault) : Json :=
  .obj [("error", .str "Handler"), ("message", .str f.message), ("source", .str f.cause)]

namespace Event

def form : Form (Event Json) where
  title := "SagaEvent"
  blank := ⟨"", ⟨""⟩, .null⟩
  fields :=
    [.required "event_type" (fun _ => text "a string") fun kind e => { e with kind },
     .required "saga_id" (fun _ => ident) fun saga e => { e with saga },
     .defaulted "payload" value fun payload e => { e with payload }]

def toJson (e : Event Json) : Json :=
  .obj [("event_type", .str e.kind), ("saga_id", ofIdent e.saga), ("payload", e.payload)]

end Event

end Coordination.Exchange
