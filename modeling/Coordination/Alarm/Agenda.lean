import Coordination.Alarm.Task
import Coordination.LogLine

/-!
# Agendas

An agenda holds the pending alarms, at most one per process, on a manually driven clock. It numbers its armings and
keeps a history: every arming, and what became of it (replaced by a later one of the same process, disarmed, or gone
off). `σ` is the state of the surroundings that tasks can reach.
-/

namespace Coordination.Alarm

/-- An armed alarm. The ticket is the number of its arming. -/
structure Armed (ε : Type) where
  ticket : Nat
  owner : ProcessId
  fireAt : Millis
  task : Task ε
  deriving Repr

/-- What a task tells about itself; `owner` is the process whose alarm runs it. -/
inductive Report where
  | rang (owner : ProcessId)
  | disarmed (owner id : ProcessId) (found : Bool)
  | pending (owner id : ProcessId) (found : Bool)
  | swept (owner : ProcessId) (count : Nat)
  deriving DecidableEq, Repr

inductive Entry where
  | armed (ticket : Nat) (owner : ProcessId) (fireAt : Millis)
  | replaced (ticket : Nat)
  | disarmed (ticket : Nat)
  /-- The alarm `ticket`, due at `fireAt`, goes off in a sweep at `now`. -/
  | fired (ticket : Nat) (owner : ProcessId) (fireAt now : Millis)
  | collapsed (owner : ProcessId)
  | told (report : Report)
  deriving DecidableEq, Repr

/-- The diagnostic line of an entry, if it has one. -/
def Entry.line? : Entry → Option LogLine
  | .armed _ owner fireAt =>
    some ⟨.debug, "Timeout scheduled", [("process_id", owner.text), ("fire_at_millis", toString fireAt)]⟩
  | .fired _ owner _ now =>
    some ⟨.debug, "Timeout fired", [("process_id", owner.text), ("now_millis", toString now)]⟩
  | .collapsed owner => some ⟨.error, "Timeout callback panicked", [("process_id", owner.text)]⟩
  | _ => none

def Entry.report? : Entry → Option Report
  | .told report => some report
  | _ => none

structure Agenda (ε σ : Type) where
  clock : Millis
  /-- Pending alarms, the latest armed last. -/
  pending : List (Armed ε)
  /-- How many alarms were armed. -/
  armings : Nat
  /-- How many sweeps were begun. -/
  sweeps : Nat
  history : List Entry
  outside : σ

namespace Agenda

variable {ε σ : Type}

def opened (clock : Millis) (outside : σ) : Agenda ε σ := ⟨clock, [], 0, 0, [], outside⟩

def record (e : Entry) (a : Agenda ε σ) : Agenda ε σ := { a with history := a.history ++ [e] }

@[simp] theorem pending_record (e : Entry) (a : Agenda ε σ) : (a.record e).pending = a.pending := rfl

@[simp] theorem armings_record (e : Entry) (a : Agenda ε σ) : (a.record e).armings = a.armings := rfl

@[simp] theorem history_record (e : Entry) (a : Agenda ε σ) : (a.record e).history = a.history ++ [e] := rfl

def find? (id : ProcessId) (a : Agenda ε σ) : Option (Armed ε) := a.pending.find? fun p => p.owner = id

def isPending (id : ProcessId) (a : Agenda ε σ) : Bool := (a.find? id).isSome

def moveClock (m : ClockMove) (a : Agenda ε σ) : Agenda ε σ := { a with clock := m.apply a.clock }

/-- Takes the alarm of `id` off the list, noting its fate. -/
def remove (id : ProcessId) (fate : Nat → Entry) (a : Agenda ε σ) : Agenda ε σ :=
  match a.find? id with
  | some alarm => { a with pending := a.pending.filter fun p => p.owner ≠ id }.record (fate alarm.ticket)
  | none => a

/-- Arms an alarm for `id`; it takes the place of an earlier one. -/
def armAt (id : ProcessId) (fireAt : Millis) (task : Task ε) (a : Agenda ε σ) : Agenda ε σ :=
  let a := (a.record (.armed a.armings id fireAt)).remove id .replaced
  { a with pending := a.pending ++ [⟨a.armings, id, fireAt, task⟩], armings := a.armings + 1 }

theorem outside_remove (id : ProcessId) (fate : Nat → Entry) (a : Agenda ε σ) :
    (a.remove id fate).outside = a.outside := by
  unfold remove
  split <;> rfl

theorem clock_remove (id : ProcessId) (fate : Nat → Entry) (a : Agenda ε σ) : (a.remove id fate).clock = a.clock := by
  unfold remove
  split <;> rfl

theorem outside_armAt (id : ProcessId) (fireAt : Millis) (task : Task ε) (a : Agenda ε σ) :
    (a.armAt id fireAt task).outside = a.outside :=
  outside_remove id .replaced (a.record (.armed a.armings id fireAt))

theorem clock_armAt (id : ProcessId) (fireAt : Millis) (task : Task ε) (a : Agenda ε σ) :
    (a.armAt id fireAt task).clock = a.clock :=
  clock_remove id .replaced (a.record (.armed a.armings id fireAt))

/-- No alarm of the process stays on the list, and all others do. -/
theorem pending_remove (id : ProcessId) (fate : Nat → Entry) (a : Agenda ε σ) :
    (a.remove id fate).pending = a.pending.filter fun p => p.owner ≠ id := by
  unfold remove
  cases hfound : a.find? id with
  | some alarm => rfl
  | none =>
    have hnone : ∀ p ∈ a.pending, p.owner ≠ id := by
      intro p hp
      simpa using List.find?_eq_none.1 hfound p hp
    exact (List.filter_eq_self.2 fun p hp => decide_eq_true (hnone p hp)).symm

/-- To take an alarm off the list adds none. -/
theorem mem_of_mem_remove {id : ProcessId} {fate : Nat → Entry} {a : Agenda ε σ} {p : Armed ε}
    (hp : p ∈ (a.remove id fate).pending) : p ∈ a.pending := by
  rw [pending_remove] at hp
  exact (List.mem_filter.1 hp).1

theorem armings_remove (id : ProcessId) (fate : Nat → Entry) (a : Agenda ε σ) :
    (a.remove id fate).armings = a.armings := by
  unfold remove
  split <;> rfl

/-- The new alarm takes the last place, and no other of its process stays. -/
theorem pending_armAt (id : ProcessId) (fireAt : Millis) (task : Task ε) (a : Agenda ε σ) :
    (a.armAt id fireAt task).pending =
      a.pending.filter (fun p => p.owner ≠ id) ++ [⟨a.armings, id, fireAt, task⟩] := by
  unfold armAt
  dsimp only
  rw [pending_remove, armings_remove]
  rfl

theorem find?_armAt (id : ProcessId) (fireAt : Millis) (task : Task ε) (a : Agenda ε σ) :
    (a.armAt id fireAt task).find? id = some ⟨a.armings, id, fireAt, task⟩ := by
  have hnone : (a.pending.filter fun p => p.owner ≠ id).find? (fun p => p.owner = id) = none := by
    rw [List.find?_eq_none]
    intro p hp
    simpa using (List.mem_filter.1 hp).2
  rw [find?, pending_armAt, List.find?_append, hnone]
  simp

/-- Arms an alarm `delay` after the present reading of the clock. -/
def armAfter (id : ProcessId) (delay : Span) (task : Task ε) (a : Agenda ε σ) : Agenda ε σ :=
  a.armAt id (a.clock.after delay.toMillis) task

/-- Drops the alarm of `id`; tells whether there was one. -/
def disarm (id : ProcessId) (a : Agenda ε σ) : Bool × Agenda ε σ := (a.isPending id, a.remove id .disarmed)

end Agenda

end Coordination.Alarm
