import Coordination.Alarm.Sweep
import Coordination.Workflow.Office

/-!
# Deadlines of processes

The deadline of a process is guarded by an alarm that expires the process when it goes off. After a restart the
alarms of all running processes are armed again from the stored records.
-/

namespace Coordination.Workflow

/-- What alarms can ask of an office: to expire a process. -/
structure Expiry where
  id : ProcessId
  deriving DecidableEq, Repr

/-- An office with the agenda of its deadlines. -/
abbrev Watch (S : Type) := Alarm.Agenda Expiry (Office S)

variable {S : Type} [ToString S]

/-- Expires a process on behalf of its alarm: a process that is gone or has ended is passed over, a fault is
written to the log. -/
def Office.expireOnAlarm (e : Expiry) (now : Millis) (o : Office S) : Office S :=
  match o.expire now e.id with
  | (.ok (some _), o) => o
  | (.ok none, o) => o.write ⟨.debug, "Timeout fired for finished process", [("process_id", e.id.text)]⟩
  | (.error fault, o) =>
    o.write ⟨.error, "Failed to expire process", [("process_id", e.id.text), ("error", fault.message)]⟩

namespace Watch

/-- Alarms go off in the order of their arming. -/
def setting : Alarm.Setting Expiry (Office S) := .inOrder Office.expireOnAlarm

/-- Arms the alarm of a running process that has a deadline; tells whether it did. -/
def guard (r : Record S) (w : Watch S) : Bool × Watch S :=
  match r.deadline with
  | some due => if r.isRunning then (true, w.armAt r.id due (.outside ⟨r.id⟩ .done)) else (false, w)
  | none => (false, w)

/-- Guards a list of processes; answers those that have a deadline. -/
def guardAll : List (Record S) → Watch S → List ProcessId × Watch S
  | [], w => ([], w)
  | r :: rs, w =>
    let (guarded, w) := Watch.guard r w
    let (ids, w) := guardAll rs w
    (if guarded then r.id :: ids else ids, w)

/-- Guards all running processes of the store. -/
def recover (w : Watch S) : Except (Fault S) (List ProcessId) × Watch S :=
  match w.outside.findByStatus .running with
  | (.error fault, o) => (.error fault, { w with outside := o })
  | (.ok running, o) =>
    let (ids, w) := guardAll running { w with outside := o }
    let line : LogLine := ⟨.info, "Process timeouts recovered",
      [("process", w.outside.design.name), ("recovered", toString ids.length)]⟩
    (.ok ids, { w with outside := w.outside.write line })

end Watch

end Coordination.Workflow
