import Coordination.Saga.Run

/-!
# Saga scripts

What a saga does is a script: statements on its run, each chosen in view of how the earlier ones went, and a result.
The action of a step may itself be a saga. `Script.run` plays a script on a run.

`conduct` takes a saga from its beginning to its end: it plays the script, then commits the run, or, if the script
or the commit fails, notes the fault and rolls the run back. The fault that it answers is the one that made it give
up, whatever the compensations come to.
-/

namespace Coordination.Saga

/-- How a saga is begun. -/
structure Opening where
  name : String
  correlation : Option String
  /-- The budget of this saga, if it has one of its own. -/
  timeout : Option Span
  /-- The saga reports to nobody. -/
  standalone : Bool
  deriving DecidableEq, Repr

inductive Script (V : Type) where
  | done (result : Except Fault V)
  /-- A step: what passes while its action runs, how the action ends, and how to undo it. -/
  | act (name : String) (passing : Passing) (outcome : Except String V) (undo : V → Undo)
      (next : Except Fault V → Script V)
  /-- A step whose action is a saga. -/
  | actSaga (name : String) (passing : Passing) (opening : Opening) (inner : Script V) (undo : V → Undo)
      (next : Except Fault V → Script V)
  | commit (next : Except Fault Unit → Script V)
  | rollback (next : Except Fault Unit → Script V)
  | note (error : String) (next : Script V)
  | pause (passing : Passing) (next : Script V)

/-- What the sagas of a session have in common. -/
structure Runtime where
  audience : Audience Listener
  archived : Bool
  /-- The budget of sagas that have none of their own. -/
  budget : Option Span

def Runtime.wiring (rt : Runtime) : Wiring := ⟨rt.audience, rt.archived, .manual⟩

namespace Opening

def wiring (rt : Runtime) (o : Opening) : Wiring := if o.standalone then .alone else rt.wiring

def budget (rt : Runtime) (o : Opening) : Option Span := if o.standalone then o.timeout else o.timeout.or rt.budget

/-- The correlation key; there is no use for one if the saga reports to nobody. -/
def key (o : Opening) : Option String := if o.standalone then none else o.correlation

end Opening

section

variable {V : Type}

def Opening.begin (rt : Runtime) (o : Opening) (s : Scene V) : Run V × Scene V :=
  Run.begin (o.wiring rt) o.name o.key (o.budget rt) s

/-- Gives a saga up because of a fault: the run is rolled back unless it has ended already. -/
def Run.abandon (fault : Fault) (r : Run V) (s : Scene V) : Run V × Scene V :=
  let (outcome, r, s) := (r.note fault.message s).rollback s
  let s :=
    match outcome with
    | .ok () => s
    | .error skipped =>
      s.write ⟨.warn, "Rollback skipped", [("saga_id", r.record.id.text), ("error", skipped.message)]⟩
  (r, r.announce (.failed r.record.id (some fault.message)) s)

/-- Ends a saga whose script came to `result`. -/
def Run.conclude (result : Except Fault V) (r : Run V) (s : Scene V) : Except Fault V × Run V × Scene V :=
  match result with
  | .error fault => (.error fault, r.abandon fault s)
  | .ok value =>
    match r.commit s with
    | (.ok (), r, s) => (.ok value, r, s)
    | (.error fault, r, s) => (.error fault, r.abandon fault s)

/-- Begins a saga, plays it with `play`, and ends it. -/
def conductWith (rt : Runtime) (o : Opening) (play : Run V → Scene V → Except Fault V × Run V × Scene V)
    (s : Scene V) : Except Fault V × Run V × Scene V :=
  let (r, s) := o.begin rt s
  let (result, r, s) := play r s
  r.conclude result s

/-- The action of a step that plays a saga; a fault of the saga is the error of the action. -/
def sagaAction (rt : Runtime) (o : Opening) (play : Run V → Scene V → Except Fault V × Run V × Scene V)
    (s : Scene V) : Except String V × Scene V :=
  match conductWith rt o play s with
  | (.ok value, _, s) => (.ok value, s)
  | (.error fault, _, s) => (.error fault.message, s)

def Script.run (rt : Runtime) : Script V → Run V → Scene V → Except Fault V × Run V × Scene V
  | .done result, r, s => (result, r, s)
  | .act name passing outcome undo next, r, s =>
    let (result, r, s) := r.perform name (fun s => (outcome, s.pass passing)) undo s
    (next result).run rt r s
  | .actSaga name passing opening inner undo next, r, s =>
    let (result, r, s) := r.perform name (fun s => sagaAction rt opening (inner.run rt) (s.pass passing)) undo s
    (next result).run rt r s
  | .commit next, r, s =>
    let (result, r, s) := r.commit s
    (next result).run rt r s
  | .rollback next, r, s =>
    let (result, r, s) := r.rollback s
    (next result).run rt r s
  | .note error next, r, s => next.run rt (r.note error s) s
  | .pause passing next, r, s => next.run rt r (s.pass passing)

/-- Runs a saga to its end. -/
def conduct (rt : Runtime) (o : Opening) (script : Script V) (s : Scene V) : Except Fault V × Run V × Scene V :=
  conductWith rt o (script.run rt) s

end

end Coordination.Saga
