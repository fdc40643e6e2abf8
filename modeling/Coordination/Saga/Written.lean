import Coordination.Json.Member
import Coordination.Saga.Format
import Coordination.Saga.Script

/-!
# Written scripts

The JSON form of saga scripts: a list of statements, done one after the other. A statement that fails ends the
script, unless it says that its error is to be ignored. The result of a script lists the input of the saga and the
values of the statements; an ignored error is the value of its statement.
-/

namespace Coordination.Saga

/-- How an action ends: with an error if it has one, else with a value. -/
def writtenOutcome (j : Json) : Except String Json :=
  match j.textAt? "err" with
  | some error => .error error
  | none => .ok (j.valueAt "ok")

/-- A compensation. It may collapse before anything passes, or after. -/
def Undo.written (j : Json) : Undo :=
  match j.textAt "panic", j.textAt? "err" with
  | "sync", _ => ⟨.nothing, .collapses⟩
  | "async", _ => ⟨j.passing, .collapses⟩
  | _, some error => ⟨j.passing, .fails error⟩
  | _, none => ⟨j.passing, .succeeds⟩

/-- An error that a saga makes up. -/
def Fault.written (j : Json) : Fault :=
  let status := j.choiceAt "status" Status.choices .running
  match j.textAt "kind" with
  | "timeout" => .timeout (j.wordAt "budget")
  | "action" => .action (j.textAt "name") (j.textAt "error")
  | "finished" => .finished .commit status
  | _ => .step status

def Opening.written (j : Json) : Opening where
  name := j.textAt "name"
  correlation := j.textAt? "cid"
  timeout := j.spanAt? "timeout"
  standalone := j.flagAt "standalone" false

namespace Script

/-- A statement, and what comes after it; `nested` reads the scripts of sagas that are actions. -/
def statement (nested : Json → Script Json) (j : Json) (next : Except Fault Json → Script Json) : Script Json :=
  let name := j.textAt "name"
  let undo (_ : Json) : Undo := .written (j.valueAt "undo")
  match j.textAt "do" with
  | "step" =>
    let action := j.valueAt "action"
    match action.objectAt? "saga" with
    | some saga => .actSaga name action.passing (.written saga) (nested saga) undo next
    | none => .act name action.passing (writtenOutcome action) undo next
  | "commit" => .commit fun result => next (result.map fun _ => .null)
  | "rollback" => .rollback fun result => next (result.map fun _ => .null)
  | "record_error" => .note (j.errorAt "error") (next (.ok .null))
  | "effects" => .pause j.passing (next (.ok .null))
  | "raise" => next (.error (.written j))
  | _ => next (.ok .null)

/-- Statements one after the other; `values` come before theirs. -/
def statements (nested : Json → Script Json) : List Json → (values : List Json) → Script Json
  | [], values => .done (.ok (.arr values))
  | j :: rest, values =>
    statement nested j fun result =>
      match result with
      | .ok value => statements nested rest (values ++ [value])
      | .error fault =>
        if j.textAt "on_error" = "ignore" then statements nested rest (values ++ [fault.toJson])
        else .done (.error fault)

/-- The script of a saga, with at most `levels` sagas inside one another. -/
def written : (levels : Nat) → Json → Script Json
  | 0, _ => .done (.ok .null)
  | levels + 1, j => statements (written levels) (j.itemsAt "script") [j.valueAt "input"]

end Script

end Coordination.Saga
