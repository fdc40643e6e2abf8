import Coordination.Json.Format
import Coordination.Workflow.Life
import Coordination.Workflow.Notice

/-!
# The JSON form of processes

Process records, the events of processes, and the faults and notices of processes; domain states are strings.
-/

namespace Coordination.Workflow

open Json Json.Reader

def Status.choices : List (String × Status) :=
  [("running", .running), ("completed", .completed), ("failed", .failed), ("timed_out", .timedOut)]

def EventKind.choices : List (String × EventKind) :=
  [("started", .started), ("completed", .completed), ("failed", .failed), ("timed_out", .timedOut)]

def Status.toJson (s : Status) : Json := .str (nameIn choices s)

namespace Record

def form : Form (Record String) where
  title := "ProcessState"
  blank := ⟨⟨""⟩, "", .running, "", 0, 0, none, none, none⟩
  fields :=
    [.required "id" (fun _ => ident) fun id r => { r with id },
     .required "name" (fun _ => text "a string") fun name r => { r with name },
     .required "status" (choice Status.choices) fun status r => { r with status },
     .required "current_state" (fun _ => text "a string") fun state r => { r with state },
     .required "started_at_millis" (fun _ => word64) fun startedAt r => { r with startedAt },
     .required "updated_at_millis" (fun _ => word64) fun updatedAt r => { r with updatedAt },
     .optional "correlation_id" .optional (text "a string") fun correlation r => { r with correlation },
     .optional "timeout_at_millis" .optional word64 fun deadline r => { r with deadline },
     .optional "error" .optional (text "a string") fun error r => { r with error }]

def toJson (r : Record String) : Json :=
  .obj [("id", ofIdent r.id), ("name", .str r.name), ("status", r.status.toJson), ("current_state", .str r.state),
    ("started_at_millis", ofWord r.startedAt), ("updated_at_millis", ofWord r.updatedAt),
    ("correlation_id", ofText? r.correlation), ("timeout_at_millis", ofWord? r.deadline),
    ("error", ofText? r.error)]

end Record

def Fault.kind : Fault String → String
  | .invalidTransition _ => "InvalidTransition"
  | .terminated .. => "Terminated"
  | .notFound _ => "NotFound"
  | .storage _ => "Store"
  | .handler _ => "Handler"

def Fault.toJson (f : Fault String) : Json := .obj [("error", .str f.kind), ("message", .str f.message)]

/-- A notice in words: what it tells, of whom, and the rest. -/
def Notice.words : Notice String → List (Option String)
  | .started id name => [some "started", some id.text, some name]
  | .completed id => [some "completed", some id.text]
  | .failed id error => [some "failed", some id.text, error]
  | .timedOut id => [some "timed_out", some id.text]
  | .moved id source target => [some "transition", some id.text, some source, some target]

/-- What the monitor of processes logs. -/
abbrev LifeEvent := EventRecord .process EventKind

def eventForm : Form LifeEvent := Json.eventForm "ProcessEventRecord" "process_id" EventKind.choices .started

def ofEvent : LifeEvent → Json := Json.ofEvent "process_id" EventKind.choices

end Coordination.Workflow
