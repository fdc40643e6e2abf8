import Coordination.Saga.Archive
import Coordination.Saga.Notice
import Coordination.Storage

/-!
# The scene of sagas

A `Scene` is what all sagas of a session share: two clocks and a stop watch, the archive behind its plan of faults,
the chronicle of notices, and the history of the actions and compensations that were started. `V` are the values
that steps produce.
-/

namespace Coordination.Saga

/-- The clock that a saga reads. -/
inductive Timepiece where
  /-- The clock that is driven by hand. -/
  | manual
  | wall
  deriving DecidableEq, Repr

/-- A started action or compensation, with the record of its saga that was in the archive at that moment; of an
action also the reading of the stop watch. -/
inductive Deed (V : Type) where
  | acting (saga : SagaId) (step : String) (elapsed : Span) (stored : Option Record)
  | undoing (saga : SagaId) (step : String) (value : V) (stored : Option Record)

structure Scene (V : Type) where
  clock : Millis
  wall : Millis
  /-- The reading of the stop watch. -/
  elapsed : Span
  /-- How many identifiers were handed out. -/
  issued : Nat
  store : Guarded Archive
  chronicle : Chronicle Notice .saga EventKind
  history : List (Deed V)

namespace Scene

variable {V : Type}

def opened (clock : Millis) : Scene V where
  clock := clock
  wall := 0
  elapsed := .zero
  issued := 0
  store := .healthy .empty
  chronicle := .empty
  history := []

def now (t : Timepiece) (s : Scene V) : Millis :=
  match t with
  | .manual => s.clock
  | .wall => s.wall

/-- Time passes on the stop watch, and the manual clock is moved. -/
def pass (p : Passing) (s : Scene V) : Scene V :=
  { s with elapsed := ⟨s.elapsed.nanos + p.takes.nanos⟩, clock := p.clock.apply s.clock }

/-- The next identifier that is handed out. -/
def identify (s : Scene V) : SagaId × Scene V := (.nth (s.issued + 1), { s with issued := s.issued + 1 })

def write (l : LogLine) (s : Scene V) : Scene V := { s with chronicle := s.chronicle.write l }

/-- Sends a notice; the monitor stamps it with the manual clock. -/
def announce (audience : Audience Listener) (n : Notice) (s : Scene V) : Scene V :=
  { s with chronicle := s.chronicle.announce audience s.clock n }

/-- The record of a saga in the archive, whatever faults are planned. -/
def stored (id : SagaId) (s : Scene V) : Option Record := s.store.inner.findById id

def record (d : Deed V) (s : Scene V) : Scene V := { s with history := s.history ++ [d] }

/-- Saves a record; a fault is written to the log and has no other effect. -/
def persist (r : Record) (s : Scene V) : Scene V :=
  match s.store.change .save (fun a => .ok (a.save r)) with
  | (.ok (), store) => { s with store := store }
  | (.error fault, store) =>
    { s with store := store }.write
      ⟨.warn, "Failed to persist saga state", [("saga_id", r.id.text), ("error", fault.message)]⟩

/-! ### What saving a record leaves alone -/

theorem history_persist (r : Record) (s : Scene V) : (s.persist r).history = s.history := by
  unfold persist
  split <;> rfl

theorem issued_persist (r : Record) (s : Scene V) : (s.persist r).issued = s.issued := by
  unfold persist
  split <;> rfl

theorem plan_persist (r : Record) (s : Scene V) : (s.persist r).store.plan = s.store.plan := by
  have h := s.store.plan_change .save fun a => .ok (a.save r)
  unfold persist
  split <;> rename_i heq <;> rw [heq] at h <;> exact h

/-- Without a fault, the record is found in the archive. -/
theorem stored_persist {r : Record} {s : Scene V} (h : ∀ n, s.store.plan .save n = none) :
    (s.persist r).stored r.id = some r := by
  unfold persist
  rw [Guarded.change_ok (h s.store.calls)]
  simp [stored, Archive.findById, Archive.save, Table.find?_insert]

/-! ### Lookups -/

def load (id : SagaId) (s : Scene V) : Except StorageFault (Option Record) × Scene V :=
  let (answer, store) := s.store.ask .findById fun a => .ok (a.findById id)
  (answer, { s with store := store })

def findByCorrelation (key : String) (s : Scene V) : Except StorageFault (Option Record) × Scene V :=
  let (answer, store) := s.store.ask .findByCorrelation fun a => .ok (a.findByCorrelation key)
  (answer, { s with store := store })

def findByStatus (status : Status) (s : Scene V) : Except StorageFault (List Record) × Scene V :=
  let (answer, store) := s.store.ask .findByStatus fun a => .ok (a.findByStatus status)
  (answer, { s with store := store })

def delete (id : SagaId) (s : Scene V) : Except StorageFault Unit × Scene V :=
  let (answer, store) := s.store.change .delete fun a => .ok (a.delete id)
  (answer, { s with store := store })

end Scene

end Coordination.Saga
