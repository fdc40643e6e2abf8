import Coordination.Ident
import Coordination.Time

/-!
# Tasks

A task is what an alarm does when it goes off: a finite list of actions, one of which may arm further alarms with
tasks of their own. Every armed alarm goes off at most once, so a finite tree of actions stands for anything that
terminating code can do; `ε` are the actions that belong to the surroundings.

`Task.alarms` counts the alarms that a task can arm, those armed by these included.
-/

namespace Coordination.Alarm

inductive Task (ε : Type) where
  | done
  /-- Breaks off; the rest of the task is lost. -/
  | collapse
  /-- Reports that the alarm went off. -/
  | ring (rest : Task ε)
  | armAt (id : ProcessId) (fireAt : Millis) (task rest : Task ε)
  | armAfter (id : ProcessId) (delay : Span) (task rest : Task ε)
  | disarm (id : ProcessId) (rest : Task ε)
  | query (id : ProcessId) (rest : Task ε)
  /-- Sets off, within this task, the alarms due at `now`. -/
  | sweep (now : Millis) (rest : Task ε)
  /-- The same at the present reading of the clock. -/
  | sweepNow (rest : Task ε)
  | moveClock (m : ClockMove) (rest : Task ε)
  | outside (e : ε) (rest : Task ε)
  deriving Repr

/-- How many alarms a task can arm, directly or through the tasks of these. -/
def Task.alarms {ε : Type} : Task ε → Nat
  | .done => 0
  | .collapse => 0
  | .ring rest => rest.alarms
  | .armAt _ _ task rest => 1 + task.alarms + rest.alarms
  | .armAfter _ _ task rest => 1 + task.alarms + rest.alarms
  | .disarm _ rest => rest.alarms
  | .query _ rest => rest.alarms
  | .sweep _ rest => rest.alarms
  | .sweepNow rest => rest.alarms
  | .moveClock _ rest => rest.alarms
  | .outside _ rest => rest.alarms

end Coordination.Alarm
