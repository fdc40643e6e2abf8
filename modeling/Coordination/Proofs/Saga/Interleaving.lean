import Coordination.Proofs.Saga.Statement

/-!
# Interleaved sagas

Sagas that are under way at the same time take turns, and they may do so in the middle of a statement: while the action
of a step or a compensation is under way, other sagas go on. So the statements on a run are cut into pieces at these
points (`Run.perform_eq`, `Run.compensate_eq`, `Run.rollback_eq`), and a `Weave` holds a number of runs, its strands, of
which each may be in the middle of a statement. A stitch begins a saga, does the next piece of one, or lets time pass;
any list of stitches is an interleaving. A stitch that does not fit does nothing.

The pieces of one statement, sewn one after the other, are the statement (`Weave.sew_perform`, `Weave.sew_rollback`).
-/

namespace Coordination.Saga

variable {V : Type}

namespace Run

/-! ### The pieces of a step -/

/-- The start of an action. -/
def starting (name : String) (r : Run V) (s : Scene V) : Deed V :=
  .acting r.record.id name s.elapsed (s.stored r.record.id)

/-- What is left of a step when its action has ended. -/
def leave (name : String) (undo : V → Undo) : Except String V → Run V → Scene V → Except Fault V × Run V × Scene V
  | .error error, r, s => (.error (.action name error), r, r.announce (.stepFailed r.record.id name error) s)
  | .ok value, r, s =>
    let r := (r.remember ⟨name, value, undo value⟩).touch s
    (.ok value, r, r.persist (r.announce (.stepCompleted r.record.id name) s))

theorem perform_eq (name : String) (action : Scene V → Except String V × Scene V) (undo : V → Undo) (r : Run V)
    (s : Scene V) :
    r.perform name action undo s =
      match r.stepRefusal? s with
      | some fault => (.error fault, r, s)
      | none =>
        let acted := action (s.record (r.starting name s))
        r.leave name undo acted.1 acted.2 := by
  unfold perform starting
  cases r.stepRefusal? s with
  | some fault => rfl
  | none =>
    dsimp only
    generalize action _ = acted
    obtain ⟨_ | _, _⟩ := acted <;> rfl

/-! ### The pieces of a rollback -/

/-- The start of a rollback. -/
def turnBack (r : Run V) (s : Scene V) : Run V × Scene V :=
  let r := (r.forget.withStatus .compensating).touch s
  (r, r.persist s)

/-- The start of a compensation. -/
def reversing (step : Step V) (r : Run V) (s : Scene V) : Deed V :=
  .undoing r.record.id step.name step.value (s.stored r.record.id)

/-- What is left of a compensation when it has ended. -/
def putDown (step : Step V) (r : Run V) (s : Scene V) : Run V × Scene V :=
  match step.undo.ending.error? with
  | none => (r, s.write ⟨.debug, "Step compensated", [("saga_id", r.record.id.text), ("step", step.name)]⟩)
  | some error =>
    ({ r with failures := r.failures ++ [step.name] },
      r.announce (.compensationFailed r.record.id step.name error) s)

/-- What is left of a rollback when all compensations have ended. -/
def settle (r : Run V) (s : Scene V) : Run V × Scene V :=
  let r := ((r.withStatus .compensated).withError (finalError r.record.error r.failures)).touch s
  (r, r.persist (r.announce (.compensated r.record.id) s))

theorem compensate_eq (step : Step V) (r : Run V) (s : Scene V) :
    r.compensate step s = r.putDown step ((s.record (r.reversing step s)).pass step.undo.passing) := rfl

theorem rollback_eq (r : Run V) (s : Scene V) :
    r.rollback s =
      if r.isRunning then
        let turned := r.turnBack s
        let undone := compensateAll r.steps.reverse turned.1 turned.2
        (.ok (), undone.1.settle undone.2)
      else (.error (.finished .rollBack r.record.status), r, s) := rfl

end Run

/-! ### Weaves -/

/-- What a run is in the middle of. -/
inductive Pending (V : Type) where
  | nothing
  /-- The action of a step. -/
  | acting (name : String) (undo : V → Undo)
  /-- A rollback; these steps are still to be undone. -/
  | rollingBack (left : List (Step V))
  /-- A compensation, in a rollback that goes on with `left`. -/
  | undoing (step : Step V) (left : List (Step V))

structure Strand (V : Type) where
  run : Run V
  pending : Pending V

def Strand.id (x : Strand V) : SagaId := x.run.record.id

/-- The next piece of a statement. -/
inductive Motion (V : Type) where
  | enter (name : String) (undo : V → Undo)
  /-- The action of the step that is under way ends. -/
  | leave (outcome : Except String V)
  | commit
  | note (error : String)
  | turnBack
  /-- The next compensation of the rollback starts. -/
  | takeUp
  /-- The compensation that is under way ends. -/
  | putDown
  | settle

/-- What comes of a piece of a statement. -/
inductive Report (V : Type) where
  | begun
  | started (deed : Deed V)
  | step (name : String) (result : Except Fault V)
  | commit (result : Except Fault Unit)
  | noted (error : String)
  | turnedBack
  | undone (step : String)
  | rollback (result : Except Fault Unit)

def Motion.carryOut : Motion V → Strand V → Scene V → Option (Report V) × Strand V × Scene V
  | .enter name undo, ⟨r, .nothing⟩, s =>
    match r.stepRefusal? s with
    | some fault => (some (.step name (.error fault)), ⟨r, .nothing⟩, s)
    | none => (some (.started (r.starting name s)), ⟨r, .acting name undo⟩, s.record (r.starting name s))
  | .leave outcome, ⟨r, .acting name undo⟩, s =>
    let (result, r, s) := r.leave name undo outcome s
    (some (.step name result), ⟨r, .nothing⟩, s)
  | .commit, ⟨r, .nothing⟩, s =>
    let (result, r, s) := r.commit s
    (some (.commit result), ⟨r, .nothing⟩, s)
  | .note error, ⟨r, .nothing⟩, s => (some (.noted error), ⟨r.note error s, .nothing⟩, s)
  | .turnBack, ⟨r, .nothing⟩, s =>
    if r.isRunning then
      let (turned, s) := r.turnBack s
      (some .turnedBack, ⟨turned, .rollingBack r.steps.reverse⟩, s)
    else (some (.rollback (.error (.finished .rollBack r.record.status))), ⟨r, .nothing⟩, s)
  | .takeUp, ⟨r, .rollingBack (step :: left)⟩, s =>
    (some (.started (r.reversing step s)), ⟨r, .undoing step left⟩, s.record (r.reversing step s))
  | .putDown, ⟨r, .undoing step left⟩, s =>
    let (r, s) := r.putDown step s
    (some (.undone step.name), ⟨r, .rollingBack left⟩, s)
  | .settle, ⟨r, .rollingBack []⟩, s =>
    let (r, s) := r.settle s
    (some (.rollback (.ok ())), ⟨r, .nothing⟩, s)
  | _, x, s => (none, x, s)

/-- Sagas that are under way side by side, and what they share. -/
structure Weave (V : Type) where
  strands : List (Strand V)
  scene : Scene V

inductive Stitch (V : Type) where
  /-- Begins a saga whose record is archived. -/
  | begin (audience : Audience Listener) (timepiece : Timepiece) (name : String) (correlation : Option String)
      (budget : Option Span)
  /-- Does the next piece of a statement on the strand `i`. -/
  | on (i : Nat) (m : Motion V)
  | pass (p : Passing)

namespace Weave

def opened (s : Scene V) : Weave V := ⟨[], s⟩

def put (i : Nat) (x : Strand V) (s : Scene V) (w : Weave V) : Weave V := ⟨w.strands.set i x, s⟩

def add (x : Strand V) (s : Scene V) (w : Weave V) : Weave V := ⟨w.strands ++ [x], s⟩

end Weave

/-- One stitch; answers what comes of it, and for which strand. -/
def Stitch.sew : Stitch V → Weave V → Option (Nat × Report V) × Weave V
  | .begin audience timepiece name correlation budget, w =>
    let (r, s) := Run.begin ⟨audience, true, timepiece⟩ name correlation budget w.scene
    (some (w.strands.length, .begun), w.add ⟨r, .nothing⟩ s)
  | .on i m, w =>
    match w.strands[i]? with
    | some x =>
      let (report, x, s) := m.carryOut x w.scene
      (report.map (i, ·), w.put i x s)
    | none => (none, w)
  | .pass p, w => (none, { w with scene := w.scene.pass p })

namespace Weave

/-- Makes stitches one after the other; answers what came of them. -/
def sew : List (Stitch V) → Weave V → List (Nat × Report V) × Weave V
  | [], w => ([], w)
  | m :: ms, w =>
    let (report, w) := m.sew w
    let (log, w) := sew ms w
    (report.toList ++ log, w)

theorem sew_cons (m : Stitch V) (ms : List (Stitch V)) (w : Weave V) :
    w.sew (m :: ms) = ((m.sew w).1.toList ++ ((m.sew w).2.sew ms).1, ((m.sew w).2.sew ms).2) := rfl

private theorem sew_append (ms ms' : List (Stitch V)) (w : Weave V) :
    w.sew (ms ++ ms') = ((w.sew ms).1 ++ ((w.sew ms).2.sew ms').1, ((w.sew ms).2.sew ms').2) := by
  induction ms generalizing w with
  | nil => rfl
  | cons m ms ih => rw [List.cons_append, sew_cons, ih, sew_cons, List.append_assoc]

/-! ### Statements, sewn piece by piece -/

variable {w : Weave V} {i : Nat}

theorem sew_on {x : Strand V} (hx : w.strands[i]? = some x) (m : Motion V) :
    (Stitch.on i m).sew w =
      ((m.carryOut x w.scene).1.map (i, ·), w.put i (m.carryOut x w.scene).2.1 (m.carryOut x w.scene).2.2) := by
  simp only [Stitch.sew, hx]

theorem getElem?_put {x : Strand V} (hx : w.strands[i]? = some x) (y : Strand V) (s : Scene V) :
    (w.put i y s).strands[i]? = some y := by
  obtain ⟨hi, -⟩ := List.getElem?_eq_some_iff.1 hx
  unfold put
  rw [List.getElem?_set_self hi]

private theorem put_put (x y : Strand V) (s t : Scene V) : (w.put i x s).put i y t = w.put i y t := by
  unfold put
  rw [List.set_set]

private theorem sew_pass_put (p : Passing) (x : Strand V) (s : Scene V) :
    ((Stitch.pass p).sew (w.put i x s)).2 = w.put i x (s.pass p) := rfl

/-- A step that is sewn without anything in between is a step. -/
theorem sew_perform {r : Run V} (hr : w.strands[i]? = some ⟨r, .nothing⟩) (hrefusal : r.stepRefusal? w.scene = none)
    (name : String) (passing : Passing) (outcome : Except String V) (undo : V → Undo) :
    (w.sew [.on i (.enter name undo), .pass passing, .on i (.leave outcome)]).2 =
      w.put i ⟨(r.perform name (fun s => (outcome, s.pass passing)) undo w.scene).2.1, .nothing⟩
        (r.perform name (fun s => (outcome, s.pass passing)) undo w.scene).2.2 := by
  have hentered : ((Stitch.on i (.enter name undo)).sew w).2 =
      w.put i ⟨r, .acting name undo⟩ (w.scene.record (r.starting name w.scene)) := by
    rw [sew_on hr]
    simp only [Motion.carryOut, hrefusal]
  rw [Run.perform_eq, hrefusal, sew_cons, hentered, sew_cons, sew_pass_put, sew_cons, sew_on (getElem?_put hr _ _),
    put_put]
  rfl

/-- The stitches of a compensation. -/
def undoStitches (i : Nat) (step : Step V) : List (Stitch V) :=
  [.on i .takeUp, .pass step.undo.passing, .on i .putDown]

private theorem sew_compensate {r : Run V} {step : Step V} {left : List (Step V)}
    (hr : w.strands[i]? = some ⟨r, .rollingBack (step :: left)⟩) :
    (w.sew (undoStitches i step)).2 =
      w.put i ⟨(r.compensate step w.scene).1, .rollingBack left⟩ (r.compensate step w.scene).2 := by
  have htaken : ((Stitch.on i .takeUp).sew w).2 =
      w.put i ⟨r, .undoing step left⟩ (w.scene.record (r.reversing step w.scene)) := by
    rw [sew_on hr]
    rfl
  rw [Run.compensate_eq, undoStitches, sew_cons, htaken, sew_cons, sew_pass_put, sew_cons,
    sew_on (getElem?_put hr _ _), put_put]
  rfl

private theorem sew_compensateAll {r : Run V} {steps : List (Step V)}
    (hr : w.strands[i]? = some ⟨r, .rollingBack steps⟩) :
    (w.sew (steps.flatMap (undoStitches i))).2 =
      w.put i ⟨(Run.compensateAll steps r w.scene).1, .rollingBack []⟩ (Run.compensateAll steps r w.scene).2 := by
  induction steps generalizing w r with
  | nil =>
    obtain ⟨hi, hget⟩ := List.getElem?_eq_some_iff.1 hr
    show w = ⟨w.strands.set i ⟨r, .rollingBack []⟩, w.scene⟩
    rw [← hget, List.set_getElem_self]
  | cons step steps ih =>
    rw [List.flatMap_cons, sew_append, sew_compensate hr, ih (getElem?_put hr _ _), put_put]
    rfl

/-- A rollback that is sewn without anything in between is a rollback. -/
theorem sew_rollback {r : Run V} (hr : w.strands[i]? = some ⟨r, .nothing⟩) (hrunning : r.isRunning = true) :
    (w.sew (.on i .turnBack :: r.steps.reverse.flatMap (undoStitches i) ++ [.on i .settle])).2 =
      w.put i ⟨(r.rollback w.scene).2.1, .nothing⟩ (r.rollback w.scene).2.2 := by
  have hturned : ((Stitch.on i .turnBack).sew w).2 =
      w.put i ⟨(r.turnBack w.scene).1, .rollingBack r.steps.reverse⟩ (r.turnBack w.scene).2 := by
    rw [sew_on hr]
    simp only [Motion.carryOut, hrunning, if_true]
  rw [Run.rollback_eq, if_pos hrunning, List.cons_append, sew_cons, hturned, sew_append,
    sew_compensateAll (getElem?_put hr _ _), put_put, sew_cons, sew_on (getElem?_put hr _ _), put_put]
  rfl

end Weave

end Coordination.Saga
