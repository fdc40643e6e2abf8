import Coordination.Saga.Fault
import Coordination.Saga.Scene

/-!
# Saga runs

A run takes a saga through its steps. A step whose action succeeds is remembered together with its compensation,
which is bound to the value of the action; a rollback carries the compensations out, the newest first, and a commit
forgets them. The time budget is looked at only when a step is begun, so an action is never cut off.

Nothing that happens in the archive has an influence on a run, and neither do the listeners.
-/

namespace Coordination.Saga

/-- How the carrying out of a compensation ends. -/
inductive UndoEnd where
  | succeeds
  | fails (error : String)
  | collapses
  deriving DecidableEq, Repr

/-- What fails in an undoing, if anything. -/
def UndoEnd.error? : UndoEnd → Option String
  | .succeeds => none
  | .fails error => some error
  | .collapses => some "compensation panicked"

/-- A compensation: what passes while it runs, and how it ends. -/
structure Undo where
  passing : Passing
  ending : UndoEnd
  deriving DecidableEq, Repr

/-- A completed step that can be undone: its compensation is bound to the value of its action. -/
structure Step (V : Type) where
  name : String
  value : V
  undo : Undo

/-- Where a run reports to: its listeners, whether its record is archived, and the clock that it reads. -/
structure Wiring where
  audience : Audience Listener
  archived : Bool
  timepiece : Timepiece

/-- No listeners, no archive, and the wall clock. -/
def Wiring.alone : Wiring := ⟨.nobody, false, .wall⟩

structure Run (V : Type) where
  record : Record
  /-- The steps that can still be undone, in order. -/
  steps : List (Step V)
  budget : Option Span
  /-- The reading of the stop watch when the run began. -/
  begun : Span
  /-- The steps that could not be undone, in the order of the attempts. -/
  failures : List String
  wiring : Wiring

namespace Run

variable {V : Type}

def isRunning (r : Run V) : Bool := decide (r.record.status = .running)

def announce (n : Notice) (r : Run V) (s : Scene V) : Scene V := s.announce r.wiring.audience n

/-- Writes the record to the archive, if the run has one. -/
def persist (r : Run V) (s : Scene V) : Scene V := if r.wiring.archived then s.persist r.record else s

theorem history_persist (r : Run V) (s : Scene V) : (r.persist s).history = s.history := by
  unfold persist
  split
  · exact Scene.history_persist r.record s
  · rfl

theorem issued_persist (r : Run V) (s : Scene V) : (r.persist s).issued = s.issued := by
  unfold persist
  split
  · exact Scene.issued_persist r.record s
  · rfl

theorem plan_persist (r : Run V) (s : Scene V) : (r.persist s).store.plan = s.store.plan := by
  unfold persist
  split
  · exact Scene.plan_persist r.record s
  · rfl

/-- The run with a time of update that is not before the present. -/
def touch (s : Scene V) (r : Run V) : Run V :=
  { r with record := { r.record with updatedAt := r.record.touchedAt (s.now r.wiring.timepiece) } }

def withStatus (status : Status) (r : Run V) : Run V := { r with record := { r.record with status } }

def withError (error : Option String) (r : Run V) : Run V := { r with record := { r.record with error } }

/-- Forgets the compensations. -/
def forget (r : Run V) : Run V := { r with steps := [] }

def begin (wiring : Wiring) (name : String) (correlation : Option String) (budget : Option Span) (s : Scene V) :
    Run V × Scene V :=
  let (id, s) := s.identify
  let record := { Record.pending id name (s.now wiring.timepiece) with correlation, status := .running }
  let r : Run V := ⟨record, [], budget, s.elapsed, [], wiring⟩
  (r, r.persist (r.announce (.started id name) s))

/-- Whether more time than the budget allows has passed. -/
def overrun? (s : Scene V) (r : Run V) : Option Fault :=
  match r.budget with
  | some budget =>
    if s.elapsed.nanos - r.begun.nanos > budget.nanos then some (.timeout budget.toMillis) else none
  | none => none

/-- Why no step can be begun now, if so. -/
def stepRefusal? (s : Scene V) (r : Run V) : Option Fault :=
  if r.isRunning then r.overrun? s else some (.step r.record.status)

/-- Remembers a completed step. -/
def remember (step : Step V) (r : Run V) : Run V :=
  { r with
    steps := r.steps ++ [step]
    record := { r.record with completed := r.record.completed ++ [step.name] } }

/-- Begins a step with an action; if the action succeeds, the step is remembered with the compensation of its
value. -/
def perform (name : String) (action : Scene V → Except String V × Scene V) (undo : V → Undo) (r : Run V)
    (s : Scene V) : Except Fault V × Run V × Scene V :=
  match r.stepRefusal? s with
  | some fault => (.error fault, r, s)
  | none =>
    match action (s.record (.acting r.record.id name s.elapsed (s.stored r.record.id))) with
    | (.error error, s) => (.error (.action name error), r, r.announce (.stepFailed r.record.id name error) s)
    | (.ok value, s) =>
      let r := (r.remember ⟨name, value, undo value⟩).touch s
      (.ok value, r, r.persist (r.announce (.stepCompleted r.record.id name) s))

/-- Ends the run; its steps can no longer be undone. -/
def commit (r : Run V) (s : Scene V) : Except Fault Unit × Run V × Scene V :=
  if r.isRunning then
    let r := (r.forget.withStatus .committed).touch s
    (.ok (), r, r.persist (r.announce (.committed r.record.id) s))
  else (.error (.finished .commit r.record.status), r, s)

/-- Notes why the saga is given up; the archive does not hear of it. -/
def note (error : String) (r : Run V) (s : Scene V) : Run V := (r.withError (some error)).touch s

/-- Carries out one compensation. -/
def compensate (step : Step V) (r : Run V) (s : Scene V) : Run V × Scene V :=
  let id := r.record.id
  let s := (s.record (.undoing id step.name step.value (s.stored id))).pass step.undo.passing
  match step.undo.ending.error? with
  | none => (r, s.write ⟨.debug, "Step compensated", [("saga_id", id.text), ("step", step.name)]⟩)
  | some error =>
    ({ r with failures := r.failures ++ [step.name] },
      r.announce (.compensationFailed id step.name error) s)

/-- Carries out compensations one after the other, whatever becomes of each. -/
def compensateAll : List (Step V) → Run V → Scene V → Run V × Scene V
  | [], r, s => (r, s)
  | step :: steps, r, s =>
    let (r, s) := r.compensate step s
    compensateAll steps r s

/-- What a run has to say in the end about an error noted before and compensations that failed. -/
def finalError (noted : Option String) (failures : List String) : Option String :=
  if failures.isEmpty then noted
  else
    let failed := "compensation failed for: " ++ ", ".intercalate failures
    match noted with
    | some cause => some (cause ++ "; " ++ failed)
    | none => some failed

/-- Undoes the completed steps, the newest first, and ends the run. -/
def rollback (r : Run V) (s : Scene V) : Except Fault Unit × Run V × Scene V :=
  if r.isRunning then
    let steps := r.steps.reverse
    let r := (r.forget.withStatus .compensating).touch s
    let (r, s) := compensateAll steps r (r.persist s)
    let r := ((r.withStatus .compensated).withError (finalError r.record.error r.failures)).touch s
    (.ok (), r, r.persist (r.announce (.compensated r.record.id) s))
  else (.error (.finished .rollBack r.record.status), r, s)

end Run

end Coordination.Saga
