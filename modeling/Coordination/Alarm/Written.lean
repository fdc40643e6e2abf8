import Coordination.Alarm.Task
import Coordination.Json.Member

/-!
# Written tasks

The JSON form of tasks: a list of actions, done one after the other once the alarm has reported that it goes off.
An action that names no process is about the one whose alarm it is.
-/

namespace Coordination.Alarm.Task

variable {ε : Type}

/-- Puts an action before the rest of a task; `nested` reads the tasks of the alarms that it arms. -/
def before (nested : ProcessId → List Json → Task ε) (owner : ProcessId) (j : Json) (rest : Task ε) : Task ε :=
  let id : ProcessId := ⟨(j.textAt? "id").getD owner.text⟩
  match j.textAt "do" with
  | "panic" => .collapse
  | "schedule_at" => .armAt id (j.wordAt "at") (nested id (j.itemsAt "cb")) rest
  | "schedule" => .armAfter id ((j.spanAt? "delay").getD .zero) (nested id (j.itemsAt "cb")) rest
  | "cancel" => .disarm id rest
  | "has_pending" => .query id rest
  | "tick" => .sweep (j.wordAt "now") rest
  | "clock" => .moveClock j.clockMove rest
  | _ => rest

/-- The task of the alarm of `owner`, with at most `levels` tasks inside one another. -/
def written : (levels : Nat) → ProcessId → List Json → Task ε
  | 0, _, _ => .done
  | levels + 1, owner, actions => .ring (actions.foldr (before (written levels) owner) .done)

end Coordination.Alarm.Task
