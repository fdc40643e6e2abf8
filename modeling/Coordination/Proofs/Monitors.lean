import Coordination.Proofs.Observers

/-!
# Monitors

A monitor has a counter of 64 bits for each kind of event, and a log. Each method that an observer must have records one
event: the counter of its kind goes up, and the event is appended to the log with the reading of the clock. A reset
clears the log and sets one counter after the other to zero. A method that moved the counter of another kind, or a reset
that missed a counter, would let the counters and the log drift apart; the laws of `Counters` say that each counter is
reached by its kind, and by no other.

Notices, moves of the clock and resets may follow each other in any way (`Incident.play`). A tally that records what
there is to log of every notice ends up with the events of those notices that no reset has followed (`Tally.after_eq`),
so it accounts for what happened (`Tally.Accounts`). A session keeps such a tally (`Chronicle.tally_after`), and so does
a monitor, but it counts modulo `2 ^ 64` (`Monitor.mirrors_after`).
-/

namespace Coordination

open Observing

/-! ### Counters -/

/-- A counter of 64 bits for each kind of event. -/
class Counters (M : Type) (κ : outParam Type) [DecidableEq κ] where
  zero : M
  /-- The kinds in the order in which a reset goes through the counters. -/
  kinds : List κ
  read : κ → M → UInt64
  store : κ → UInt64 → M → M
  mem_kinds (kind : κ) : kind ∈ kinds
  read_zero (kind : κ) : read kind zero = 0
  read_store (kind other : κ) (v : UInt64) (m : M) :
    read kind (store other v m) = if kind = other then v else read kind m

namespace Counters

variable {M κ : Type} [DecidableEq κ] [Counters M κ]

/-- The counter of a kind goes up by one, and from the last number to zero. -/
def move (kind : κ) (m : M) : M := store kind (read kind m + 1) m

/-- One counter after the other is set to zero. -/
def clear (m : M) : M := each (kinds M) (fun kind => store kind 0) m

private theorem read_move (kind other : κ) (m : M) :
    read kind (move other m) = if kind = other then read kind m + 1 else read kind m := by
  rw [move, read_store]
  by_cases h : kind = other
  · rw [if_pos h, if_pos h, h]
  · rw [if_neg h, if_neg h]

private theorem read_clear (kind : κ) (m : M) : read kind (clear m) = 0 := by
  -- a counter is zero once it has had its turn, and stays so
  have hturns : ∀ (ks : List κ) (m : M), kind ∈ ks ∨ read kind m = 0 →
      read kind (each ks (fun k => store k 0) m) = 0 := by
    intro ks
    induction ks with
    | nil => exact fun m h => h.resolve_left List.not_mem_nil
    | cons k ks ih =>
      intro m h
      refine ih (store k 0 m) ?_
      rw [read_store, List.mem_cons] at *
      by_cases hk : kind = k
      · exact .inr (if_pos hk)
      · rw [if_neg hk]
        exact h.imp_left fun h => h.resolve_left hk
  exact hturns (kinds M) m (.inl (mem_kinds kind))

end Counters

namespace Workflow

/-- The counters of a monitor of processes. -/
structure Metrics where
  started : UInt64
  completed : UInt64
  failed : UInt64
  timedOut : UInt64
  deriving DecidableEq, Repr

namespace Metrics

def read : EventKind → Metrics → UInt64
  | .started, m => m.started
  | .completed, m => m.completed
  | .failed, m => m.failed
  | .timedOut, m => m.timedOut

def store : EventKind → UInt64 → Metrics → Metrics
  | .started, v, m => { m with started := v }
  | .completed, v, m => { m with completed := v }
  | .failed, v, m => { m with failed := v }
  | .timedOut, v, m => { m with timedOut := v }

instance : Counters Metrics EventKind where
  zero := ⟨0, 0, 0, 0⟩
  kinds := EventKind.all
  read := read
  store := store
  mem_kinds kind := by cases kind <;> decide
  read_zero kind := by cases kind <;> rfl
  read_store kind other v m := by cases kind <;> cases other <;> rfl

end Metrics

end Workflow

namespace Saga

/-- The counters of a monitor of sagas. -/
structure Metrics where
  started : UInt64
  committed : UInt64
  compensated : UInt64
  failed : UInt64
  deriving DecidableEq, Repr

namespace Metrics

def read : EventKind → Metrics → UInt64
  | .started, m => m.started
  | .committed, m => m.committed
  | .compensated, m => m.compensated
  | .failed, m => m.failed

def store : EventKind → UInt64 → Metrics → Metrics
  | .started, v, m => { m with started := v }
  | .committed, v, m => { m with committed := v }
  | .compensated, v, m => { m with compensated := v }
  | .failed, v, m => { m with failed := v }

instance : Counters Metrics EventKind where
  zero := ⟨0, 0, 0, 0⟩
  kinds := EventKind.all
  read := read
  store := store
  mem_kinds kind := by cases kind <;> decide
  read_zero kind := by cases kind <;> rfl
  read_store kind other v m := by cases kind <;> cases other <;> rfl

end Metrics

end Saga

/-! ### Monitors -/

structure Monitor (s : Subject) (κ M : Type) where
  counters : M
  log : List (EventRecord s κ)
  deriving DecidableEq, Repr

namespace Monitor

variable {s : Subject} {κ M : Type} [DecidableEq κ] [Counters M κ]

def new : Monitor s κ M := ⟨Counters.zero, []⟩

def record (e : EventRecord s κ) (m : Monitor s κ M) : Monitor s κ M := ⟨Counters.move e.kind m.counters, m.log ++ [e]⟩

def reset (m : Monitor s κ M) : Monitor s κ M := ⟨Counters.clear m.counters, []⟩

/-- What can be seen of a monitor: the numbers that its counters show, and its log. -/
def shown (m : Monitor s κ M) : Tally s κ := ⟨fun kind => (Counters.read kind m.counters).toNat, m.log⟩

/-- A monitor keeps a tally, but counts modulo `2 ^ 64`. -/
structure Mirrors (m : Monitor s κ M) (t : Tally s κ) : Prop where
  log : m.log = t.log
  counters : ∀ kind, Counters.read kind m.counters = UInt64.ofNat (t.count kind)

private theorem mirrors_new : (new : Monitor s κ M).Mirrors .empty := ⟨rfl, Counters.read_zero⟩

private theorem mirrors_reset (m : Monitor s κ M) : m.reset.Mirrors .empty :=
  ⟨rfl, fun kind => Counters.read_clear kind m.counters⟩

namespace Mirrors

variable {m : Monitor s κ M} {t : Tally s κ}

private theorem record (h : m.Mirrors t) (e : EventRecord s κ) : (m.record e).Mirrors (t.record e) where
  log := congrArg (· ++ [e]) h.log
  counters := fun kind => by
    refine (Counters.read_move kind e.kind m.counters).trans ?_
    rw [Tally.count_record, h.counters kind]
    split
    · exact (UInt64.ofNat_add _ 1).symm
    · rfl

private theorem recordAll (h : m.Mirrors t) (events : List (EventRecord s κ)) :
    (each events Monitor.record m).Mirrors (t.recordAll events) := by
  induction events generalizing m t with
  | nil => exact h
  | cons e events ih => exact ih (h.record e)

/-- A monitor shows the tally as long as its numbers fit into 64 bits. -/
private theorem shown_eq (h : m.Mirrors t) (hfits : ∀ kind, t.count kind < UInt64.size) : m.shown = t := by
  have hcount : m.shown.count = t.count := by
    funext kind
    exact (congrArg UInt64.toNat (h.counters kind)).trans (UInt64.toNat_ofNat_of_lt' (hfits kind))
  exact congr (congrArg Tally.mk hcount) h.log

end Mirrors

end Monitor

/-! ### What may happen -/

/-- A monitor is given a notice, the clock is moved, or the monitor is reset. -/
inductive Incident (ν : Type) where
  | notice (n : ν)
  | clock (move : ClockMove)
  | reset
  deriving DecidableEq, Repr

namespace Incident

variable {ν σ τ : Type}

def isNotice : Incident ν → Bool
  | .notice _ => true
  | _ => false

def isReset : Incident ν → Bool
  | .reset => true
  | _ => false

/-- What comes of a state in the end, if the clock shows `now` at first. -/
def play (hear : Millis → ν → σ → σ) (reset : σ → σ) : Millis → List (Incident ν) → σ → σ
  | _, [], s => s
  | now, .notice n :: later, s => play hear reset now later (hear now n s)
  | now, .clock move :: later, s => play hear reset (move.apply now) later s
  | now, .reset :: later, s => play hear reset now later (reset s)

/-- Two states stay related if they are when both hear a notice, and when both are reset. -/
private theorem play_related {f : Millis → ν → σ → σ} {r : σ → σ} {g : Millis → ν → τ → τ} {q : τ → τ}
    {R : σ → τ → Prop}
    (hheard : ∀ now n s t, R s t → R (f now n s) (g now n t)) (hreset : ∀ s t, R s t → R (r s) (q t)) (now : Millis)
    (incidents : List (Incident ν)) {s : σ} {t : τ} (h : R s t) :
    R (play f r now incidents s) (play g q now incidents t) := by
  induction incidents generalizing now s t with
  | nil => exact h
  | cons i later ih =>
    cases i with
    | notice n => exact ih now (hheard now n s t h)
    | clock move => exact ih (move.apply now) h
    | reset => exact ih now (hreset s t h)

/-- The notices that no reset has followed, each with what the clock showed when it was given. -/
def lasting : Millis → List (Incident ν) → List (Millis × ν)
  | _, [] => []
  | now, .notice n :: later => if later.any isReset then lasting now later else (now, n) :: lasting now later
  | now, .clock move :: later => lasting (move.apply now) later
  | now, .reset :: later => lasting now later

/-- Where a listener has so many places in an audience, it hears every notice that often. -/
def times (places : Nat) : Incident ν → List (Incident ν)
  | .notice n => List.replicate places (.notice n)
  | i => [i]

private theorem play_times (hear : Millis → ν → σ → σ) (reset : σ → σ) (places : Nat) (now : Millis)
    (incidents : List (Incident ν)) (s : σ) :
    play hear reset now (incidents.flatMap (times places)) s =
      play (fun now n => each (List.replicate places n) (hear now)) reset now incidents s := by
  have hrepeated : ∀ now n later s, play hear reset now (List.replicate places (.notice n) ++ later) s =
      play hear reset now later (each (List.replicate places n) (hear now) s) := by
    intro now n later
    induction places with
    | zero => exact fun _ => rfl
    | succ places ih => exact fun s => ih (hear now n s)
  induction incidents generalizing now s with
  | nil => rfl
  | cons i later ih =>
    cases i with
    | notice n => exact (hrepeated now n _ s).trans (ih now _)
    | clock move => exact ih (move.apply now) s
    | reset => exact ih now (reset s)

end Incident

section

variable {ν κ : Type} {s : Subject} [Announcement ν s κ]

namespace Incident

/-- What there is to log of the notices that no reset has followed. -/
def events (now : Millis) (incidents : List (Incident ν)) : List (EventRecord s κ) :=
  (lasting now incidents).flatMap fun heard => Announcement.events heard.1 heard.2

private theorem length_events_le (now : Millis) (incidents : List (Incident ν)) :
    (events now incidents).length ≤ incidents.countP isNotice := by
  induction incidents generalizing now with
  | nil => exact Nat.le_refl 0
  | cons i later ih =>
    cases i with
    | notice n =>
      rw [events, lasting, List.countP_cons_of_pos rfl]
      split
      · exact Nat.le_succ_of_le (ih now)
      · rw [List.flatMap_cons, List.length_append, Nat.add_comm]
        exact Nat.add_le_add (ih now) (Announcement.length_events_le now n)
    | clock move => exact ih (move.apply now)
    | reset => exact ih now

end Incident

variable [DecidableEq κ]

/-! ### Tallies -/

namespace Tally

/-- What comes of an empty tally that records what there is to log of every notice. -/
def after (now : Millis) (incidents : List (Incident ν)) : Tally s κ :=
  Incident.play (fun now n t => t.recordAll (Announcement.events now n)) (fun _ => .empty) now incidents .empty

/-- The numbers and the log of a tally account for what happened. -/
structure Accounts (now : Millis) (incidents : List (Incident ν)) (t : Tally s κ) : Prop where
  count : ∀ kind, t.count kind = t.log.countP fun e => e.kind = kind
  log : t.log = Incident.events now incidents

private theorem play_eq (now : Millis) (incidents : List (Incident ν)) (t : Tally s κ) :
    Incident.play (fun now n t => t.recordAll (Announcement.events now n)) (fun _ => .empty) now incidents t =
      (if incidents.any Incident.isReset then .empty else t).recordAll (Incident.events now incidents) := by
  induction incidents generalizing now t with
  | nil => rfl
  | cons i later ih =>
    cases i with
    | notice n =>
      -- if a reset follows, the notice leaves nothing in the log; otherwise its events come first
      have hlater : (Incident.notice n :: later).any Incident.isReset = later.any Incident.isReset := rfl
      rw [Incident.play, ih, Incident.events, Incident.events, Incident.lasting, hlater]
      split
      · rfl
      · rw [List.flatMap_cons, recordAll_append]
    | clock move => exact ih (move.apply now) t
    | reset =>
      -- whether or not another reset follows, nothing is left of the tally so far
      rw [Incident.play, ih, ite_self]
      rfl

theorem after_eq (now : Millis) (incidents : List (Incident ν)) :
    after now incidents = empty.recordAll (Incident.events now incidents) := by
  rw [after, play_eq, ite_self]

private theorem accounts_after (now : Millis) (incidents : List (Incident ν)) :
    (after now incidents).Accounts now incidents := by
  have hlog : (after now incidents).log = Incident.events now incidents := by
    rw [after_eq, log_recordAll]
    rfl
  refine ⟨fun kind => ?_, hlog⟩
  rw [hlog, after_eq, count_recordAll]
  exact Nat.zero_add _

/-- Nothing is counted more often than there are notices. -/
private theorem count_after_le (now : Millis) (incidents : List (Incident ν)) (kind : κ) :
    (after now incidents).count kind ≤ incidents.countP Incident.isNotice := by
  have haccounts := accounts_after now incidents
  rw [haccounts.count, haccounts.log]
  exact Nat.le_trans List.countP_le_length (Incident.length_events_le now incidents)

end Tally

/-- What comes of a session in which notices go to an audience. -/
def Chronicle.after (audience : Audience Listener) (now : Millis) (incidents : List (Incident ν)) : Chronicle ν s κ :=
  Incident.play (Chronicle.announce audience) (fun c => { c with tally := .empty }) now incidents .empty

/-- A session records every notice once for each place of the monitor. -/
theorem Chronicle.tally_after (audience : Audience Listener) (now : Millis) (incidents : List (Incident ν)) :
    (after audience now incidents).tally =
      .after now (incidents.flatMap (Incident.times (audience.leaves.count .monitor))) := by
  rw [Tally.after, Incident.play_times]
  refine Incident.play_related (R := fun (c : Chronicle ν s κ) t => c.tally = t) ?_ ?_ now incidents rfl
  · intro now n c t h
    rw [tally_announce, h, ← List.flatMap_replicate]
    exact each_flatMap (Announcement.events now) _ Tally.record t
  · exact fun _ _ _ => rfl

private theorem Chronicle.accounts_after (audience : Audience Listener) (now : Millis) (incidents : List (Incident ν)) :
    (after audience now incidents).tally.Accounts now
      (incidents.flatMap (Incident.times (audience.leaves.count .monitor))) := by
  rw [tally_after]
  exact Tally.accounts_after now _

namespace Monitor

variable {M O : Type} [Counters M κ] [Observing O ν (Monitor s κ M)]

/-- Observers, one for each reading of the clock, that record what there is to log of a notice. -/
def Recording (o : Millis → O) : Prop :=
  ∀ now n (m : Monitor s κ M), hear (o now) n m = each (Announcement.events now n) record m

/-- What comes of a new monitor. -/
def after (o : Millis → O) (now : Millis) (incidents : List (Incident ν)) : Monitor s κ M :=
  Incident.play (fun now => hear (o now)) reset now incidents new

variable {o : Millis → O}

theorem mirrors_after (ho : Recording o) (now : Millis) (incidents : List (Incident ν)) :
    (after o now incidents).Mirrors (.after now incidents) := by
  refine Incident.play_related (R := Mirrors) ?_ (fun m _ _ => mirrors_reset m) now incidents mirrors_new
  intro now n m t h
  rw [ho]
  exact h.recordAll _

/-- What a monitor shows is right as long as it has been given less than `2 ^ 64` notices. -/
private theorem accounts_after (ho : Recording o) (now : Millis) {incidents : List (Incident ν)}
    (h : incidents.countP Incident.isNotice < UInt64.size) : (after o now incidents).shown.Accounts now incidents := by
  have hfits : ∀ kind, (Tally.after now incidents).count kind < UInt64.size :=
    fun kind => Nat.lt_of_le_of_lt (Tally.count_after_le now incidents kind) h
  rw [(mirrors_after ho now incidents).shown_eq hfits]
  exact Tally.accounts_after now incidents

end Monitor

end

/-! ### Monitors of processes and of sagas -/

/-- A monitor whose clock shows `now`, as an observer. -/
def Workflow.monitor {S : Type} (now : Millis) : Observer S (Monitor .process EventKind Metrics) :=
  Duties.only
    { started := fun id _ => Monitor.record ⟨id, .started, now, none⟩
      completed := fun id => Monitor.record ⟨id, .completed, now, none⟩
      failed := fun id error => Monitor.record ⟨id, .failed, now, error⟩
      timedOut := fun id => Monitor.record ⟨id, .timedOut, now, none⟩ }

private theorem Workflow.recording_monitor {S : Type} [ToString S] :
    Monitor.Recording (monitor : Millis → Observer S (Monitor .process EventKind Metrics)) := by
  intro now n m
  cases n <;> rfl

/-- A monitor whose clock shows `now`, as an observer. -/
def Saga.monitor (now : Millis) : Observer (Monitor .saga EventKind Metrics) :=
  Duties.only
    { started := fun id _ => Monitor.record ⟨id, .started, now, none⟩
      committed := fun id => Monitor.record ⟨id, .committed, now, none⟩
      compensated := fun id => Monitor.record ⟨id, .compensated, now, none⟩
      failed := fun id error => Monitor.record ⟨id, .failed, now, error⟩ }

private theorem Saga.recording_monitor : Monitor.Recording monitor := by
  intro now n m
  cases n <;> rfl

/-- **A monitor's counters and its log never drift apart.** Let a monitor of processes and one of sagas be given any
notices while their clocks are moved and they are reset, and let each be given less than `2 ^ 64` notices. At any point,
every counter is the number of events of its kind in the log. The log has one event, in order, for each notice of a
lifecycle event since the last reset, with the identifier in the notice, what the clock showed when it was given, and
the text of the error if there was one. The same holds of the tally of a session, where a monitor is given each notice
once for every place that it has in the audience. A notice of a transition, of a step, or of a compensation that failed
changes neither the counters nor the log. -/
theorem monitors_account {S : Type} [ToString S] (now : Millis) (ofProcesses : List (Incident (Workflow.Notice S)))
    (ofSagas : List (Incident Saga.Notice)) (hprocesses : ofProcesses.countP Incident.isNotice < UInt64.size)
    (hsagas : ofSagas.countP Incident.isNotice < UInt64.size) :
    (∀ earlier later, ofProcesses = earlier ++ later →
        (Monitor.after Workflow.monitor now earlier).shown.Accounts now earlier ∧
          ∀ audience, (Chronicle.after audience now earlier).tally.Accounts now
            (earlier.flatMap (Incident.times (audience.leaves.count .monitor)))) ∧
      (∀ earlier later, ofSagas = earlier ++ later →
        (Monitor.after Saga.monitor now earlier).shown.Accounts now earlier ∧
          ∀ audience, (Chronicle.after audience now earlier).tally.Accounts now
            (earlier.flatMap (Incident.times (audience.leaves.count .monitor)))) ∧
      (∀ now id (source target : S) m, hear (Workflow.monitor now) (.moved id source target) m = m) ∧
      (∀ now id step m, hear (Saga.monitor now) (.stepCompleted id step) m = m) ∧
      (∀ now id step error m, hear (Saga.monitor now) (.stepFailed id step error) m = m) ∧
      (∀ now id step error m, hear (Saga.monitor now) (.compensationFailed id step error) m = m) := by
  refine ⟨?_, ?_, fun _ _ _ _ _ => rfl, fun _ _ _ _ => rfl, fun _ _ _ _ _ => rfl, fun _ _ _ _ _ => rfl⟩
  · rintro earlier later rfl
    have hearlier := Nat.lt_of_le_of_lt (List.sublist_append_left earlier later).countP_le hprocesses
    exact ⟨Monitor.accounts_after Workflow.recording_monitor now hearlier,
      fun audience => Chronicle.accounts_after audience now earlier⟩
  · rintro earlier later rfl
    have hearlier := Nat.lt_of_le_of_lt (List.sublist_append_left earlier later).countP_le hsagas
    exact ⟨Monitor.accounts_after Saga.recording_monitor now hearlier,
      fun audience => Chronicle.accounts_after audience now earlier⟩

/-! ### An order and its payment -/

/-- An order is started before a reset; after it, another one fails. -/
def ordersHeard : List (Incident (Workflow.Notice String)) :=
  [.notice (.started ⟨"p"⟩ "order"), .reset, .notice (.started ⟨"q"⟩ "order"), .clock ⟨none, some 5⟩,
    .notice (.moved ⟨"q"⟩ "New" "Paid"), .notice (.failed ⟨"q"⟩ (some "card declined")), .notice (.failed ⟨"p"⟩ none)]

/-- A payment is compensated, and then the clock is set back. -/
def paymentHeard : List (Incident Saga.Notice) :=
  [.notice (.started ⟨"s"⟩ "payment"), .notice (.stepFailed ⟨"s"⟩ "charge" "declined"), .clock ⟨some 7, none⟩,
    .notice (.compensationFailed ⟨"s"⟩ "reserve" "gone"), .notice (.compensated ⟨"s"⟩)]

theorem monitors_account_orders :
    ordersHeard.countP Incident.isNotice < UInt64.size ∧
      paymentHeard.countP Incident.isNotice < UInt64.size ∧
      (Monitor.after Workflow.monitor 100 ordersHeard).log =
        [⟨⟨"q"⟩, .started, 100, none⟩, ⟨⟨"q"⟩, .failed, 105, some "card declined"⟩, ⟨⟨"p"⟩, .failed, 105, none⟩] ∧
      (Monitor.after Workflow.monitor 100 ordersHeard).shown.count .failed = 2 ∧
      (Monitor.after Saga.monitor 100 paymentHeard).log =
        [⟨⟨"s"⟩, .started, 100, none⟩, ⟨⟨"s"⟩, .compensated, 7, none⟩] ∧
      (Monitor.after Saga.monitor 100 paymentHeard).shown.count .compensated = 1 := by
  have horders : ordersHeard.countP Incident.isNotice < UInt64.size := by decide
  have hpayment : paymentHeard.countP Incident.isNotice < UInt64.size := by decide
  obtain ⟨hprocesses, hsagas, -⟩ := monitors_account 100 ordersHeard paymentHeard horders hpayment
  have hp := (hprocesses ordersHeard [] (List.append_nil _).symm).1
  have hs := (hsagas paymentHeard [] (List.append_nil _).symm).1
  exact ⟨horders, hpayment, hp.log, (hp.count .failed).trans rfl, hs.log, (hs.count .compensated).trans rfl⟩

end Coordination
