import Coordination.Proofs.Saga.Statement

/-!
# Transcripts

A transcript notes the beginning of every saga, and every statement and every execution when it is over: what was
answered, and the record of the saga and the steps that could not be undone, as they were then. What happens inside
the action of a step comes before the step, so a transcript shows sagas at every depth.

In a session, runs may be begun and taken on by hand (`Session.carryOutAll`), besides the executions of sagas.
-/

namespace Coordination.Saga

variable {V : Type}

inductive Entry (V : Type) where
  | begun (record : Record)
  | stated (reply : Reply V) (record : Record) (failures : List String)
  /-- A saga that was taken from its beginning to its end. -/
  | executed (opening : Opening) (result : Except Fault V) (record : Record) (failures : List String)

/-- The transcript of an execution; `entries` is that of its script. -/
def Opening.transcript (rt : Runtime) (o : Opening) (play : Run V → Scene V → Except Fault V × Run V × Scene V)
    (entries : Run V → Scene V → List (Entry V)) (s : Scene V) : List (Entry V) :=
  let begun := o.begin rt s
  let ended := conductWith rt o play s
  .begun begun.1.record :: entries begun.1 begun.2 ++ [.executed o ended.1 ended.2.1.record ended.2.1.failures]

/-- What is noted while the action of a step runs: nothing, if the step is refused. -/
def Run.nested (name : String) (entries : Scene V → List (Entry V)) (r : Run V) (s : Scene V) : List (Entry V) :=
  match r.stepRefusal? s with
  | some _ => []
  | none => entries (s.record (.acting r.record.id name s.elapsed (s.stored r.record.id)))

def Script.transcript (rt : Runtime) : Script V → Run V → Scene V → List (Entry V)
  | .done _, _, _ => []
  | .act name passing outcome undo next, r, s =>
    let (result, r', s') := r.perform name (fun s => (outcome, s.pass passing)) undo s
    .stated (.step result) r'.record r'.failures :: (next result).transcript rt r' s'
  | .actSaga name passing opening inner undo next, r, s =>
    let (result, r', s') := r.perform name (fun s => sagaAction rt opening (inner.run rt) (s.pass passing)) undo s
    r.nested name (fun s => opening.transcript rt (inner.run rt) (inner.transcript rt) (s.pass passing)) s ++
      .stated (.step result) r'.record r'.failures :: (next result).transcript rt r' s'
  | .commit next, r, s =>
    let (result, r', s') := r.commit s
    .stated (.commit result) r'.record r'.failures :: (next result).transcript rt r' s'
  | .rollback next, r, s =>
    let (result, r', s') := r.rollback s
    .stated (.rollback result) r'.record r'.failures :: (next result).transcript rt r' s'
  | .note error next, r, s =>
    .stated .silence (r.note error s).record r.failures :: next.transcript rt (r.note error s) s
  | .pause passing next, r, s => .stated .silence r.record r.failures :: next.transcript rt r (s.pass passing)

/-- The execution of a saga, and what passes before it. -/
structure Execution (V : Type) where
  before : Passing
  opening : Opening
  script : Script V

def Execution.carryOut (rt : Runtime) (e : Execution V) (s : Scene V) : List (Entry V) × Scene V :=
  (e.opening.transcript rt (e.script.run rt) (e.script.transcript rt) (s.pass e.before),
    (conduct rt e.opening e.script (s.pass e.before)).2.2)

/-! ### Sessions -/

/-- What is noted inside a statement: only a step that plays a saga has anything inside. -/
def Statement.nested (rt : Runtime) (st : Statement V) (r : Run V) (s : Scene V) : List (Entry V) :=
  match st with
  | .actSaga name passing opening inner _ =>
    r.nested name (fun s => opening.transcript rt (inner.run rt) (inner.transcript rt) (s.pass passing)) s
  | _ => []

def Statement.transcript (rt : Runtime) (st : Statement V) (r : Run V) (s : Scene V) : List (Entry V) :=
  let (reply, r', _) := st.carryOut rt r s
  st.nested rt r s ++ [.stated reply r'.record r'.failures]

/-- The runs that were begun by hand, in order, and the scene. -/
structure Session (V : Type) where
  runs : List (Run V)
  scene : Scene V

/-- What can be done in a session. -/
inductive Move (V : Type) where
  | begin (opening : Opening)
  /-- A statement on one of the runs. -/
  | state (run : Nat) (statement : Statement V)
  | execute (execution : Execution V)
  | pass (passing : Passing)

namespace Session

def carryOut (rt : Runtime) (w : Session V) : Move V → List (Entry V) × Session V
  | .begin o =>
    let (r, s) := o.begin rt w.scene
    ([.begun r.record], ⟨w.runs ++ [r], s⟩)
  | .state i st =>
    match w.runs[i]? with
    | some r =>
      let (_, r', s') := st.carryOut rt r w.scene
      (st.transcript rt r w.scene, ⟨w.runs.set i r', s'⟩)
    | none => ([], w)
  | .execute e =>
    let (entries, s) := e.carryOut rt w.scene
    (entries, { w with scene := s })
  | .pass p => ([], { w with scene := w.scene.pass p })

/-- Moves one after the other. -/
def carryOutAll (rt : Runtime) : List (Move V) → Session V → List (Entry V) × Session V
  | [], w => ([], w)
  | m :: moves, w =>
    let (entries, w) := w.carryOut rt m
    let (later, w) := carryOutAll rt moves w
    (entries ++ later, w)

end Session

end Coordination.Saga
