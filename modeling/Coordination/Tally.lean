import Coordination.Ident
import Coordination.Time

/-!
# Tallies

A tally counts lifecycle events by kind and keeps a log of them. `Tally.record` moves the counter of the event's
kind and appends the event to the log; starting over is `Tally.empty`.
-/

namespace Coordination

/-- One lifecycle event: of whom, of what kind, when, and with what error. -/
structure EventRecord (s : Subject) (κ : Type) where
  subject : Ident s
  kind : κ
  time : Millis
  error : Option String
  deriving DecidableEq, Repr

structure Tally (s : Subject) (κ : Type) where
  count : κ → Nat
  log : List (EventRecord s κ)

namespace Tally

variable {s : Subject} {κ : Type}

def empty : Tally s κ := ⟨fun _ => 0, []⟩

def record [DecidableEq κ] (e : EventRecord s κ) (t : Tally s κ) : Tally s κ where
  count k := if k = e.kind then t.count k + 1 else t.count k
  log := t.log ++ [e]

theorem count_record [DecidableEq κ] (e : EventRecord s κ) (t : Tally s κ) (kind : κ) :
    (t.record e).count kind = if kind = e.kind then t.count kind + 1 else t.count kind := rfl

def recordAll [DecidableEq κ] (events : List (EventRecord s κ)) (t : Tally s κ) : Tally s κ :=
  events.foldl (fun t e => t.record e) t

section

variable [DecidableEq κ] (events events' : List (EventRecord s κ)) (t : Tally s κ)

theorem recordAll_append : t.recordAll (events ++ events') = (t.recordAll events).recordAll events' := List.foldl_append

theorem log_recordAll : (t.recordAll events).log = t.log ++ events := by
  induction events generalizing t with
  | nil => exact (List.append_nil _).symm
  | cons e events ih => exact (ih (t.record e)).trans (List.append_assoc ..)

theorem count_recordAll (kind : κ) :
    (t.recordAll events).count kind = t.count kind + events.countP fun e => e.kind = kind := by
  induction events generalizing t with
  | nil => rfl
  | cons e events ih =>
    refine (ih (t.record e)).trans ?_
    rw [List.countP_cons, count_record]
    by_cases h : kind = e.kind
    · rw [if_pos h, if_pos (decide_eq_true h.symm)]
      omega
    · rw [if_neg h, if_neg (by simpa using Ne.symm h), Nat.add_zero]

end

end Tally

end Coordination
