import Coordination.Alarm.Agenda

/-!
# Sweeps

A sweep at a time `now` takes all due alarms off the agenda and then runs their tasks, one after the other. A task
may arm and disarm alarms, move the clock and sweep again; alarms that are off the agenda are out of its reach.

Nested sweeps end: every alarm that goes off leaves the agenda for good, and a task can arm only alarms that it
holds. So a sweep inside another one finds fewer alarms held by the agenda, counted through their tasks
(`Agenda.load`), and a depth above that number is never used up.
-/

namespace Coordination.Alarm

/-- The surroundings of an agenda: what their actions do, given the reading of the clock, and the order in which
the due alarms of the `n`-th sweep go off. -/
structure Setting (ε σ : Type) where
  act : ε → Millis → σ → σ
  order : Nat → List (Armed ε) → List (Armed ε)
  order_perm : ∀ n due, (order n due).Perm due

/-- Alarms go off in the order in which they were armed. -/
def Setting.inOrder {ε σ : Type} (act : ε → Millis → σ → σ) : Setting ε σ := ⟨act, fun _ due => due, fun _ _ => .rfl⟩

namespace Agenda

variable {ε σ : Type}

/-- The number of alarms held: the pending ones, and those that their tasks can arm. -/
def load (a : Agenda ε σ) : Nat := a.pending.foldr (fun p n => 1 + p.task.alarms + n) 0

/-- The pending alarms due at `now`. -/
def due (now : Millis) (a : Agenda ε σ) : List (Armed ε) := a.pending.filter fun p => p.fireAt ≤ now

end Agenda

/-- Runs a task for the alarm of `owner`; `nested` sweeps for it. -/
def Task.run {ε σ : Type} (s : Setting ε σ) (nested : Millis → Agenda ε σ → Nat × Agenda ε σ) (owner : ProcessId) :
    Task ε → Agenda ε σ → Agenda ε σ
  | .done, a => a
  | .collapse, a => a.record (.collapsed owner)
  | .ring rest, a => rest.run s nested owner (a.record (.told (.rang owner)))
  | .armAt id fireAt task rest, a => rest.run s nested owner (a.armAt id fireAt task)
  | .armAfter id delay task rest, a => rest.run s nested owner (a.armAfter id delay task)
  | .disarm id rest, a =>
    let (found, a) := a.disarm id
    rest.run s nested owner (a.record (.told (.disarmed owner id found)))
  | .query id rest, a => rest.run s nested owner (a.record (.told (.pending owner id (a.isPending id))))
  | .sweep now rest, a =>
    let (count, a) := nested now a
    rest.run s nested owner (a.record (.told (.swept owner count)))
  | .sweepNow rest, a =>
    let (count, a) := nested a.clock a
    rest.run s nested owner (a.record (.told (.swept owner count)))
  | .moveClock m rest, a => rest.run s nested owner (a.moveClock m)
  | .outside e rest, a => rest.run s nested owner { a with outside := s.act e a.clock a.outside }

namespace Agenda

variable {ε σ : Type}

/-- One alarm goes off. -/
def goOff (s : Setting ε σ) (nested : Millis → Agenda ε σ → Nat × Agenda ε σ) (now : Millis) (a : Agenda ε σ)
    (alarm : Armed ε) : Agenda ε σ :=
  alarm.task.run s nested alarm.owner (a.record (.fired alarm.ticket alarm.owner alarm.fireAt now))

/-- Sweeps with less than `depth` sweeps inside one another. -/
def sweepWithin (s : Setting ε σ) : Nat → Millis → Agenda ε σ → Nat × Agenda ε σ
  | 0, _, a => (0, a)
  | depth + 1, now, a =>
    let due := s.order a.sweeps (a.due now)
    let a := { a with pending := a.pending.filter (fun p => ¬ p.fireAt ≤ now), sweeps := a.sweeps + 1 }
    (due.length, due.foldl (goOff s (sweepWithin s depth) now) a)

/-- Sets off the alarms due at `now`; answers how many there were. -/
def sweep (s : Setting ε σ) (now : Millis) (a : Agenda ε σ) : Nat × Agenda ε σ := a.sweepWithin s (a.load + 1) now

/-- A sweep at the present reading of the clock. -/
def sweepNow (s : Setting ε σ) (a : Agenda ε σ) : Nat × Agenda ε σ := a.sweep s a.clock

end Agenda

end Coordination.Alarm
