import Coordination.Json.Format
import Coordination.Saga.Fault
import Coordination.Saga.Notice

/-!
# The JSON form of sagas

Saga records, the events of sagas, and the faults and notices of sagas.
-/

namespace Coordination.Saga

open Json Json.Reader

def Status.choices : List (String × Status) := Status.all.map fun s => (s.label, s)

def EventKind.choices : List (String × EventKind) :=
  [("started", .started), ("committed", .committed), ("compensated", .compensated), ("failed", .failed)]

def Status.toJson (s : Status) : Json := .str s.label

namespace Record

def form : Form Record where
  title := "SagaState"
  blank := ⟨⟨""⟩, "", .pending, 0, 0, [], none, none⟩
  fields :=
    [.required "id" (fun _ => ident) fun id r => { r with id },
     .required "name" (fun _ => text "a string") fun name r => { r with name },
     .required "status" (choice Status.choices) fun status r => { r with status },
     .required "started_at_millis" (fun _ => word64) fun startedAt r => { r with startedAt },
     .required "updated_at_millis" (fun _ => word64) fun updatedAt r => { r with updatedAt },
     .required "completed_steps" (list (text "a string")) fun completed r => { r with completed },
     .optional "correlation_id" .optional (text "a string") fun correlation r => { r with correlation },
     .optional "error" .optional (text "a string") fun error r => { r with error }]

def toJson (r : Record) : Json :=
  .obj [("id", ofIdent r.id), ("name", .str r.name), ("status", r.status.toJson),
    ("started_at_millis", ofWord r.startedAt), ("updated_at_millis", ofWord r.updatedAt),
    ("completed_steps", ofList .str r.completed), ("correlation_id", ofText? r.correlation),
    ("error", ofText? r.error)]

end Record

namespace Fault

def kind : Fault → String
  | .step _ => "Step"
  | .timeout _ => "Timeout"
  | .action .. => "Action"
  | .finished .. => "Finished"

def members (f : Fault) : List (String × Json) :=
  [("error", .str f.kind), ("message", .str f.message), ("source", ofText? f.cause?),
    ("is_action_failure", .bool f.isActionFailure), ("is_timeout", .bool f.isTimeout)]

def toJson (f : Fault) : Json := .obj f.members

end Fault

/-- A notice in words: what it tells, of whom, and the rest. -/
def Notice.words : Notice → List (Option String)
  | .started id name => [some "started", some id.text, some name]
  | .committed id => [some "committed", some id.text]
  | .compensated id => [some "compensated", some id.text]
  | .failed id error => [some "failed", some id.text, error]
  | .stepCompleted id step => [some "step_completed", some id.text, some step]
  | .stepFailed id step error => [some "step_failed", some id.text, some step, some error]
  | .compensationFailed id step error => [some "compensation_failed", some id.text, some step, some error]

/-- What the monitor of sagas logs. -/
abbrev LifeEvent := EventRecord .saga EventKind

def eventForm : Form LifeEvent := Json.eventForm "SagaEventRecord" "saga_id" EventKind.choices .started

def ofEvent : LifeEvent → Json := Json.ofEvent "saga_id" EventKind.choices

end Coordination.Saga
