import Coordination.Exchange.Format
import Coordination.Exchange.Reaction
import Coordination.Json.Member

/-!
# Written handlers

The JSON form of handlers: a list of actions, done one after the other for every event. Most actions write what
came of them into the journal.
-/

namespace Coordination.Exchange

/-- What is written down if no ticket was kept under a name. -/
def noTicket : Json := .obj [("error", .str "no_slot")]

/-- Goes on unless a publication failed. -/
def Reaction.unlessFailed (next : Reaction Json) : Except Fault Unit → Reaction Json
  | .ok () => next
  | .error fault => .fail fault.message

/-- Puts an action before the rest of a reaction to `e`; `nested` reads the handlers that it subscribes. -/
def Reaction.before (nested : List Json → Handler Json) (e : Event Json) (j : Json) (next : Reaction Json) :
    Reaction Json :=
  let kind := j.textAt "type"
  let followUp := e.followUp kind ((j.member? "payload").getD e.payload)
  match j.textAt "do" with
  | "log" => .note (.arr [.str (j.textAt "label"), e.toJson]) next
  | "err" => .fail (j.textAt "error")
  | "emit" => .publish followUp next.unlessFailed
  | "try_emit" => .publish followUp fun result =>
    match result with
    | .ok () => next
    | .error fault => .note fault.toJson next
  | "countdown" =>
    match e.payload with
    | .int n => if 0 < n then .publish (e.followUp kind (.int (n - 1))) next.unlessFailed else next
    | _ => next
  | "on" => .subscribe kind (nested (j.itemsAt "handler")) fun ticket =>
    .keep (j.textAt "as") ticket (.note (.str ticket.inspect) next)
  | "off" => .lookUp (j.textAt "slot") fun kept =>
    match kept with
    | none => .note noTicket next
    | some ticket => .cancel ticket fun found => .note (.bool found) next
  | "count" => .count kind fun n => .note (.ofNat n) next
  | "clear" => .clear (j.textAt? "type") next
  | _ => next

/-- A handler, with at most `levels` handlers inside one another. -/
def Handler.written : (levels : Nat) → List Json → Handler Json
  | 0, _, _ => .done
  | levels + 1, actions, e => actions.foldr (Reaction.before (Handler.written levels) e) .done

end Coordination.Exchange
