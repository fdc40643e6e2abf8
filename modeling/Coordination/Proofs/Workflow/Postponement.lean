import Coordination.Proofs.Workflow.Permanence

/-!
# Postponed deadlines

The alarm of a process keeps the deadline that it was armed with, and the store keeps the deadline that was recorded
last. To move the recorded deadline does not arm the alarm again, so the two may come apart, and a process may be timed
out before its recorded deadline. What holds is that a sweep times out only processes that still run when their alarm
goes off, and whose alarm was last armed with a deadline that has come; as long as alarm and record are kept in step,
the process is expired by its record too (`Watch.timesOut_as_armed`).

`Watch.Registered` ties the pending alarms to the records that were guarded, `Watch.Agrees` to the stored deadline.
-/

namespace Coordination.Workflow

open Alarm (Agenda Armed)

variable {S : Type}

/-- The deadline that the alarm of a record is armed with, if it gets one. -/
def Record.alarmAt? (r : Record S) : Option Millis := if r.isRunning then r.deadline else none

/-- The deadline that the alarm of `id` was last armed with, when these records were guarded. -/
def lastArmed (id : ProcessId) (guarded : List (Record S)) : Option Millis :=
  guarded.reverse.findSome? fun r => if r.id = id then r.alarmAt? else none

private theorem lastArmed_append (id : ProcessId) (guarded : List (Record S)) (r : Record S) :
    lastArmed id (guarded ++ [r]) = ((if r.id = id then r.alarmAt? else none).or (lastArmed id guarded)) := by
  unfold lastArmed
  rw [List.reverse_append, List.findSome?_append, List.reverse_singleton, List.findSome?_singleton]

/-- The deadline that is recorded for a process. -/
def Office.deadline? (id : ProcessId) (o : Office S) : Option Millis := (o.stored id).bind Record.deadline

private theorem Office.deadline?_of_inner {o o' : Office S} (h : o'.store.inner = o.store.inner) (id : ProcessId) :
    o'.deadline? id = o.deadline? id := by
  unfold deadline? stored
  rw [h]

/-- A record that takes the place of another one keeps its deadline. -/
private theorem Office.deadline?_of_follows {o o' : Office S} {r next : Record S} (hr : o.stored next.id = some r)
    (hfollows : next.Follows r) (hstored : ∀ i, o'.stored i = if i = next.id then some next else o.stored i)
    (id : ProcessId) : o'.deadline? id = o.deadline? id := by
  unfold deadline?
  rw [hstored]
  by_cases hid : id = next.id
  · rw [if_pos hid, hid, hr]
    exact hfollows.deadline
  · rw [if_neg hid]

/-! ### What alarms do to the records -/

namespace Office

variable [ToString S]

/-- An alarm that goes off either leaves the shelf as it was, or files one record, in the place of a running one. -/
private theorem expireOnAlarm_cases (e : Expiry) (now : Millis) {o : Office S} (hsound : o.store.inner.Sound) :
    (o.expireOnAlarm e now).store.inner = o.store.inner ∨
      ∃ r next, next.id = e.id ∧ o.stored next.id = some r ∧ next.Follows r ∧
        (o.expireOnAlarm e now).store.inner.Sound ∧
        ∀ i, (o.expireOnAlarm e now).stored i = if i = next.id then some next else o.stored i := by
  have hinner := o.inner_expireOnAlarm e now
  rcases o.expire_cases now e.id with hsame | ⟨r, next, hr, hfollows, hsound', hstored⟩
  · exact Or.inl (hinner.trans hsame)
  · have hid : next.id = e.id := hfollows.id.trans (hsound.id_eq hr)
    refine Or.inr ⟨r, next, hid, hid ▸ hr, hfollows, hinner ▸ hsound' hsound, ?_⟩
    intro i
    rw [← hstored i]
    unfold stored
    rw [hinner]

/-- The shelf is sound, and the process has the recorded deadline. -/
structure Records (id : ProcessId) (deadline : Option Millis) (o : Office S) : Prop where
  sound : o.store.inner.Sound
  deadline? : o.deadline? id = deadline

private theorem Records.expireOnAlarm {id : ProcessId} {deadline : Option Millis} {o : Office S}
    (h : o.Records id deadline) (e : Expiry) (now : Millis) : (o.expireOnAlarm e now).Records id deadline := by
  rcases expireOnAlarm_cases e now h.sound with hinner | ⟨r, next, -, hr, hfollows, hsound, hstored⟩
  · exact ⟨hinner ▸ h.sound, (deadline?_of_inner hinner id).trans h.deadline?⟩
  · exact ⟨hsound, (deadline?_of_follows hr hfollows hstored id).trans h.deadline?⟩

/-- If an alarm turns a process into a timed out one, it is the alarm of this process, which still ran. -/
private theorem running_of_expireOnAlarm {id : ProcessId} {e : Expiry} {now : Millis} {o : Office S}
    (hsound : o.store.inner.Sound) (hbefore : (o.stored id).map Record.status ≠ some .timedOut)
    (hafter : ((o.expireOnAlarm e now).stored id).map Record.status = some .timedOut) :
    e.id = id ∧ ∃ r, o.stored id = some r ∧ r.isRunning = true := by
  rcases expireOnAlarm_cases e now hsound with hinner | ⟨r, next, hid, hr, hfollows, -, hstored⟩
  · have hsame : (o.expireOnAlarm e now).stored id = o.stored id := by
      unfold stored
      rw [hinner]
    rw [hsame] at hafter
    exact absurd hafter hbefore
  · by_cases hown : id = next.id
    · subst hown
      refine ⟨hid.symm, r, hr, ?_⟩
      cases hrunning : r.isTerminal with
      | true =>
        -- a record that has ended stays, and is timed out neither before nor after
        rw [hstored, if_pos rfl, hfollows.ended hrunning, ← hr] at hafter
        exact absurd hafter hbefore
      | false =>
        unfold Record.isTerminal at hrunning
        unfold Record.isRunning
        cases hstatus : r.status <;> simp_all [Status.isTerminal]
    · rw [hstored, if_neg hown] at hafter
      exact absurd hafter hbefore

end Office

/-! ### Errands -/

/-- What is done to a watch whose alarms are those of its processes. -/
inductive Errand (S : Type) where
  /-- Arms the alarm of a process. -/
  | guard (r : Record S)
  /-- Gives a process another deadline, and saves it. -/
  | postpone (r : Record S) (deadline : Millis)
  | handle (e : Event S)
  | disarm (id : ProcessId)
  | recover
  | sweep (now : Millis)
  | moveClock (m : ClockMove)

section

variable [ToString S] [DecidableEq S] (s : Alarm.Setting Expiry (Office S))

namespace Errand

def carryOut : Errand S → Watch S → Watch S
  | .guard r, w => (Watch.guard r w).2
  | .postpone r deadline, w => { w with outside := (w.outside.save (r.postpone deadline w.clock)).2 }
  | .handle e, w => { w with outside := (w.outside.handle w.clock e).2 }
  | .disarm id, w => (w.disarm id).2
  | .recover, w => w.recover.2
  | .sweep now, w => (w.sweep s now).2
  | .moveClock m, w => w.moveClock m

/-- The records that are guarded. -/
def guarded (w : Watch S) : Errand S → List (Record S)
  | .guard r => [r]
  | .recover => ((w.outside.findByStatus .running).1.toOption).getD []
  | _ => []

/-- Sets the alarm of `id` and its record apart: the alarm is armed with another deadline than the recorded one, or,
while it is pending, another deadline is recorded or the process is begun anew. What the store refuses is not
recorded. -/
def Parts (id : ProcessId) (w : Watch S) : Errand S → Prop
  | .guard r => r.id = id ∧ ∃ due, r.alarmAt? = some due ∧ w.outside.deadline? id ≠ some due
  | .postpone r deadline =>
    r.id = id ∧ (w.outside.save (r.postpone deadline w.clock)).1 = .ok () ∧
      ∃ p ∈ w.pending, p.owner = id ∧ p.fireAt ≠ deadline
  | .handle e =>
    w.outside.begun? e = some id ∧ (∃ next, (w.outside.handle w.clock e).1 = .ok next) ∧
      ∃ p ∈ w.pending, p.owner = id
  | _ => False

end Errand

namespace Watch

/-- Does errands one after the other. -/
def errands (es : List (Errand S)) (w : Watch S) : Watch S := es.foldl (fun w e => e.carryOut s w) w

/-- The records that errands guard, in order. -/
def guarded : List (Errand S) → Watch S → List (Record S)
  | [], _ => []
  | e :: es, w => e.guarded w ++ guarded es (e.carryOut s w)

/-- No errand sets the alarm of `id` and its record apart. -/
def InStep (id : ProcessId) : List (Errand S) → Watch S → Prop
  | [], _ => True
  | e :: es, w => ¬ e.Parts id w ∧ InStep id es (e.carryOut s w)

/-- In a sweep at `now`, the alarm `p` goes off and finds `r` stored. -/
def Finds (now : Millis) (p : Armed Expiry) (r : Record S) (w : Watch S) : Prop :=
  ∃ first rest, s.order w.sweeps (w.due now) = first ++ p :: rest ∧
    (first.foldl (Agenda.goOff s (Agenda.sweep s) now) (w.lifted now)).outside.stored p.owner = some r

/-- A sweep at `now` turns the process into a timed out one. -/
def TimesOut (now : Millis) (id : ProcessId) (w : Watch S) : Prop :=
  (w.outside.stored id).map Record.status ≠ some .timedOut ∧
    ((w.sweep s now).2.outside.stored id).map Record.status = some .timedOut

end Watch

end

/-! ### Alarms and guarded records -/

namespace Watch

/-- What guarding a record leaves pending: other alarms as they were, and the alarm of the record. -/
private theorem mem_pending_guard {r : Record S} {w : Watch S} {p : Armed Expiry}
    (hp : p ∈ (Watch.guard r w).2.pending) :
    p ∈ w.pending ∧ (p.owner = r.id → r.alarmAt? = none) ∨
      p.owner = r.id ∧ r.alarmAt? = some p.fireAt ∧ p.task = .outside ⟨p.owner⟩ .done := by
  unfold Watch.guard at hp
  unfold Record.alarmAt?
  cases hdeadline : r.deadline with
  | none =>
    rw [hdeadline] at hp
    exact Or.inl ⟨hp, fun _ => ite_self none⟩
  | some due =>
    rw [hdeadline] at hp
    dsimp only at hp
    by_cases hrunning : r.isRunning = true
    · rw [if_pos hrunning, Agenda.pending_armAt, List.mem_append, List.mem_filter, List.mem_singleton,
        decide_eq_true_eq] at hp
      rcases hp with ⟨hp, hother⟩ | rfl
      · exact Or.inl ⟨hp, fun hown => absurd hown hother⟩
      · exact Or.inr ⟨rfl, if_pos hrunning, rfl⟩
    · rw [if_neg hrunning] at hp
      exact Or.inl ⟨hp, fun _ => if_neg hrunning⟩

/-- The shelf is sound, and every pending alarm expires its process, at the deadline that it was last armed with. -/
structure Registered (guarded : List (Record S)) (w : Watch S) : Prop where
  sound : w.outside.store.inner.Sound
  tasks : ∀ p ∈ w.pending, p.task = .outside ⟨p.owner⟩ .done
  armed : ∀ p ∈ w.pending, lastArmed p.owner guarded = some p.fireAt

/-- The alarm of `id`, if it is pending, goes off at the recorded deadline. -/
def Agrees (id : ProcessId) (w : Watch S) : Prop :=
  ∀ p ∈ w.pending, p.owner = id → w.outside.deadline? id = some p.fireAt

private theorem Registered.mono {guarded : List (Record S)} {w w' : Watch S} (h : w.Registered guarded)
    (hsound : w'.outside.store.inner.Sound) (hpending : ∀ p ∈ w'.pending, p ∈ w.pending) : w'.Registered guarded :=
  ⟨hsound, fun p hp => h.tasks p (hpending p hp), fun p hp => h.armed p (hpending p hp)⟩

private theorem Agrees.mono {id : ProcessId} {w w' : Watch S} (h : w.Agrees id)
    (hdeadline : w'.outside.deadline? id = w.outside.deadline? id) (hpending : ∀ p ∈ w'.pending, p ∈ w.pending) :
    w'.Agrees id := by
  intro p hp hown
  rw [hdeadline]
  exact h p (hpending p hp) hown

variable {guarded : List (Record S)} {w : Watch S} {id : ProcessId}

private theorem Registered.guard (h : w.Registered guarded) (r : Record S) :
    (Watch.guard r w).2.Registered (guarded ++ [r]) := by
  refine ⟨?_, ?_, ?_⟩
  · rw [(guard_surroundings r w).1]
    exact h.sound
  · intro p hp
    rcases mem_pending_guard hp with ⟨hp, -⟩ | ⟨-, -, htask⟩
    · exact h.tasks p hp
    · exact htask
  · intro p hp
    rw [lastArmed_append]
    rcases mem_pending_guard hp with ⟨hp, hsame⟩ | ⟨hown, harmed, -⟩
    · have hnone : (if r.id = p.owner then r.alarmAt? else none) = none := by
        by_cases hown : r.id = p.owner
        · rw [if_pos hown, hsame hown.symm]
        · rw [if_neg hown]
      rw [hnone]
      exact h.armed p hp
    · rw [if_pos hown.symm, harmed]
      rfl

private theorem Agrees.guard (h : w.Agrees id) {r : Record S}
    (hr : r.id = id → ∀ due, r.alarmAt? = some due → w.outside.deadline? id = some due) :
    (Watch.guard r w).2.Agrees id := by
  intro p hp hown
  rw [(guard_surroundings r w).1]
  rcases mem_pending_guard hp with ⟨hp, -⟩ | ⟨howner, harmed, -⟩
  · exact h p hp hown
  · exact hr (howner.symm.trans hown) p.fireAt harmed

private theorem Registered.guardAll (h : w.Registered guarded) (rs : List (Record S)) :
    (Watch.guardAll rs w).2.Registered (guarded ++ rs) := by
  induction rs generalizing w guarded with
  | nil =>
    rw [List.append_nil]
    exact h
  | cons r rs ih =>
    rw [List.append_cons]
    exact ih (h.guard r)

private theorem Agrees.guardAll (h : w.Agrees id) {rs : List (Record S)}
    (hrs : ∀ r ∈ rs, w.outside.stored r.id = some r) :
    (Watch.guardAll rs w).2.Agrees id := by
  induction rs generalizing w with
  | nil => exact h
  | cons r rs ih =>
    refine ih (h.guard ?_) ?_
    · rintro rfl due hdue
      unfold Office.deadline?
      rw [hrs r (List.mem_cons_self ..)]
      unfold Record.alarmAt? at hdue
      split at hdue
      · exact hdue
      · cases hdue
    · intro r' hr'
      show (Watch.guard r w).2.outside.stored r'.id = some r'
      rw [(guard_surroundings r w).1]
      exact hrs r' (List.mem_cons_of_mem _ hr')

/-- A recovery guards records that are stored, and leaves the shelf as it was. -/
private theorem recover_guardAll (w : Watch S) :
    ∃ o : Office S, o.store.inner = w.outside.store.inner ∧
      w.recover.2.pending = (Watch.guardAll (Errand.recover.guarded w) { w with outside := o }).2.pending ∧
      w.recover.2.outside.store.inner = w.outside.store.inner ∧
      (w.outside.store.inner.Sound → ∀ r ∈ Errand.recover.guarded w, o.stored r.id = some r) := by
  have hinner := w.outside.inner_findByStatus .running
  have hfound : ∀ running, (w.outside.findByStatus .running).1 = .ok running → w.outside.store.inner.Sound →
      ∀ r ∈ running, w.outside.stored r.id = some r :=
    fun _ hanswer hsound _ => Office.stored_of_findByStatus hsound hanswer
  unfold Watch.recover Errand.guarded
  generalize w.outside.findByStatus .running = found at hinner hfound
  obtain ⟨fault | running, o⟩ := found
  · exact ⟨o, hinner, rfl, hinner, fun _ r hr => nomatch hr⟩
  · refine ⟨o, hinner, rfl, ?_, ?_⟩
    · show (Watch.guardAll running { w with outside := o }).2.outside.store.inner = _
      rw [(guardAll_surroundings running _).1]
      exact hinner
    · intro hsound r hr
      unfold Office.stored
      rw [hinner]
      exact hfound running rfl hsound r hr

/-! ### Sweeps -/

/-- If something comes to hold while alarms go off, one of them brings it about. -/
private theorem exists_turn {s : Alarm.Setting Expiry (Office S)} {nested : Millis → Watch S → Nat × Watch S}
    {now : Millis} {P : Watch S → Prop} (due : List (Armed Expiry)) {w : Watch S} (hbefore : ¬ P w)
    (hafter : P (due.foldl (Agenda.goOff s nested now) w)) :
    ∃ first p rest, due = first ++ p :: rest ∧ ¬ P (first.foldl (Agenda.goOff s nested now) w) ∧
      P (Agenda.goOff s nested now (first.foldl (Agenda.goOff s nested now) w) p) := by
  induction due generalizing w with
  | nil => exact absurd hafter hbefore
  | cons p due ih =>
    by_cases hp : P (Agenda.goOff s nested now w p)
    · exact ⟨[], p, due, rfl, hbefore, hp⟩
    · obtain ⟨first, q, rest, hsplit, hfirst, hq⟩ := ih hp hafter
      exact ⟨p :: first, q, rest, by rw [hsplit]; rfl, hfirst, hq⟩

variable [ToString S] {s : Alarm.Setting Expiry (Office S)} (hs : s.act = Office.expireOnAlarm)

include hs

/-- While a sweep is going on, the process keeps its recorded deadline. -/
private theorem records_midway {deadline : Option Millis} (h : w.outside.Records id deadline) (now : Millis)
    (first : List (Armed Expiry)) :
    (first.foldl (Agenda.goOff s (Agenda.sweep s) now) (w.lifted now)).outside.Records id deadline := by
  have hkeeps : s.Keeps (Office.Records id deadline) := by
    intro e now o ho
    rw [hs]
    exact ho.expireOnAlarm e now
  exact hkeeps.goOff_all (fun now a => hkeeps.sweep now a) now first (w.lifted now) h

private theorem sweep_surroundings (h : w.Registered guarded) (now : Millis) :
    (∀ p ∈ (w.sweep s now).2.pending, p ∈ w.pending) ∧
      ∀ id deadline, w.outside.Records id deadline → (w.sweep s now).2.outside.Records id deadline := by
  rw [w.sweep_eq]
  refine ⟨?_, fun id deadline hrecords => records_midway hs hrecords now _⟩
  have hpending := (goOff_all hs (Agenda.sweep s) now (s.order w.sweeps (w.due now)) (w.lifted now)
    fun p hp => h.tasks p (Agenda.mem_order_due hp).1).1
  intro p hp
  have hlifted : p ∈ (w.lifted now).pending := by
    rw [← hpending]
    exact hp
  exact (List.mem_filter.1 hlifted).1

/-! ### Runs of errands -/

variable [DecidableEq S]

/-- Every errand keeps the pending alarms to the records that were guarded. -/
private theorem Registered.carryOut (h : w.Registered guarded) (e : Errand S) :
    (e.carryOut s w).Registered (guarded ++ e.guarded w) := by
  -- most errands guard no record
  have hnone : w.Registered (guarded ++ []) := (List.append_nil guarded).symm ▸ h
  cases e with
  | guard r => exact h.guard r
  | recover =>
    obtain ⟨o, hinner, hpending, hafter, -⟩ := recover_guardAll w
    have hasked : Registered guarded { w with outside := o } := h.mono (hinner ▸ h.sound) fun _ hp => hp
    have harmed := hasked.guardAll (Errand.recover.guarded w)
    refine harmed.mono ?_ ?_
    · show w.recover.2.outside.store.inner.Sound
      rw [hafter]
      exact h.sound
    · show ∀ p ∈ w.recover.2.pending, _
      rw [hpending]
      exact fun _ hp => hp
  | postpone r deadline =>
    refine hnone.mono ?_ fun _ hp => hp
    rcases w.outside.save_cases (r.postpone deadline w.clock) with ⟨-, -, hinner⟩ | ⟨-, hsound, -⟩
    · exact hinner ▸ h.sound
    · exact hsound h.sound
  | handle e =>
    refine hnone.mono ?_ fun _ hp => hp
    rcases w.outside.handle_cases w.clock e with ⟨-, -, hinner⟩ | ⟨_, -, hsound, -⟩
    · exact hinner ▸ h.sound
    · exact (hsound h.sound).1
  | disarm id =>
    refine hnone.mono ?_ fun _ hp => Agenda.mem_of_mem_remove hp
    exact (w.outside_remove id .disarmed).symm ▸ h.sound
  | sweep now =>
    obtain ⟨hpending, hrecords⟩ := sweep_surroundings hs h now
    exact hnone.mono (hrecords (.nth 0) _ ⟨h.sound, rfl⟩).sound hpending
  | moveClock m =>
    exact hnone.mono h.sound fun _ hp => hp

/-- An errand that does not set them apart keeps the alarm of `id` to the recorded deadline. -/
private theorem Agrees.carryOut (h : w.Agrees id) (hregistered : w.Registered guarded) {e : Errand S}
    (hparts : ¬ e.Parts id w) : (e.carryOut s w).Agrees id := by
  cases e with
  | guard r =>
    refine h.guard ?_
    intro hid due hdue
    by_contra hother
    exact hparts ⟨hid, due, hdue, hother⟩
  | recover =>
    obtain ⟨o, hinner, hpending, hafter, hstored⟩ := recover_guardAll w
    have hasked : Agrees id { w with outside := o } := h.mono (Office.deadline?_of_inner hinner id) fun _ hp => hp
    have harmed := hasked.guardAll (hstored hregistered.sound)
    refine harmed.mono ?_ ?_
    · show w.recover.2.outside.deadline? id = _
      rw [(guardAll_surroundings _ _).1, Office.deadline?_of_inner hafter, Office.deadline?_of_inner hinner]
    · show ∀ p ∈ w.recover.2.pending, _
      rw [hpending]
      exact fun _ hp => hp
  | postpone r deadline =>
    rcases w.outside.save_cases (r.postpone deadline w.clock) with ⟨-, -, hinner⟩ | ⟨hsaved, -, -, hstored⟩
    · exact h.mono (Office.deadline?_of_inner hinner id) fun _ hp => hp
    · intro p hp hown
      show (w.outside.save (r.postpone deadline w.clock)).2.deadline? id = some p.fireAt
      unfold Office.deadline?
      rw [hstored]
      by_cases hid : id = (r.postpone deadline w.clock).id
      · have hsame : p.fireAt = deadline := by
          by_contra hother
          exact hparts ⟨hid.symm, hsaved, p, hp, hown, hother⟩
        rw [if_pos hid, hsame]
        rfl
      · rw [if_neg hid]
        exact h p hp hown
  | handle e =>
    rcases w.outside.handle_cases w.clock e with ⟨-, -, hinner⟩ | ⟨next, hanswer, hsound, hstored⟩
    · exact h.mono (Office.deadline?_of_inner hinner id) fun _ hp => hp
    · rcases (hsound hregistered.sound).2 with hbegun | ⟨r, hr, hfollows⟩
      · intro p hp hown
        show (w.outside.handle w.clock e).2.deadline? id = some p.fireAt
        have hother : ¬ id = next.id := by
          rintro rfl
          exact hparts ⟨hbegun, ⟨next, hanswer⟩, p, hp, hown⟩
        unfold Office.deadline?
        rw [hstored, if_neg hother]
        exact h p hp hown
      · exact h.mono (Office.deadline?_of_follows hr hfollows hstored id) fun _ hp => hp
  | disarm other =>
    refine h.mono ?_ fun _ hp => Agenda.mem_of_mem_remove hp
    show (w.remove other .disarmed).outside.deadline? id = _
    rw [w.outside_remove]
  | sweep now =>
    obtain ⟨hpending, hrecords⟩ := sweep_surroundings hs hregistered now
    exact h.mono (hrecords id _ ⟨hregistered.sound, rfl⟩).deadline? hpending
  | moveClock m => exact h.mono rfl fun _ hp => hp

private theorem Registered.errands (h : w.Registered guarded) (es : List (Errand S)) :
    (w.errands s es).Registered (guarded ++ w.guarded s es) := by
  induction es generalizing w guarded with
  | nil =>
    rw [Watch.guarded, List.append_nil]
    exact h
  | cons e es ih =>
    rw [Watch.guarded, ← List.append_assoc]
    exact ih (h.carryOut hs e)

private theorem Agrees.errands (h : w.Agrees id) (hregistered : w.Registered guarded) {es : List (Errand S)}
    (hinStep : w.InStep s id es) : (w.errands s es).Agrees id := by
  induction es generalizing w guarded with
  | nil => exact h
  | cons e es ih =>
    exact ih (h.carryOut hs hregistered hinStep.1) (hregistered.carryOut hs e) hinStep.2

/-- **A process is timed out as its alarm was armed.** Let a watch be used in any way: its processes are guarded,
postponed, changed by events and recovered, alarms are disarmed and go off, and the clock moves. If a sweep at `now`
turns a process into a timed out one, then its alarm goes off in the sweep, finds the process running, and was last
armed with a deadline that has come. If nothing set the alarm and the recorded deadline apart, then the record that the
alarm finds is expired. -/
theorem timesOut_as_armed {w : Watch S} (hpending : w.pending = []) (hsound : w.outside.store.inner.Sound)
    (es : List (Errand S)) {now : Millis} {id : ProcessId} (htimesOut : (w.errands s es).TimesOut s now id) :
    ∃ p r, (w.errands s es).Finds s now p r ∧ p.owner = id ∧ r.isRunning = true ∧
      lastArmed id (w.guarded s es) = some p.fireAt ∧ p.fireAt ≤ now ∧
      (w.InStep s id es → r.isExpired now = true) := by
  have hopened : w.Registered [] := ⟨hsound, by simp [hpending], by simp [hpending]⟩
  have hregistered : (w.errands s es).Registered (w.guarded s es) := hopened.errands hs es
  have hagrees : w.InStep s id es → (w.errands s es).Agrees id :=
    Agrees.errands hs (by simp [Agrees, hpending]) hopened
  generalize w.errands s es = before at *
  obtain ⟨hbefore, hafter⟩ := htimesOut
  rw [before.sweep_eq] at hafter
  obtain ⟨first, p, rest, horder, hfirst, hturn⟩ :=
    exists_turn (P := fun v => (v.outside.stored id).map Record.status = some .timedOut) _
      (w := before.lifted now) hbefore hafter
  have hp : p ∈ s.order before.sweeps (before.due now) := by
    rw [horder]
    exact List.mem_append_right _ (List.mem_cons_self ..)
  obtain ⟨hpending, hdue⟩ := Agenda.mem_order_due hp
  have hrecords : before.outside.Records id (before.outside.deadline? id) := ⟨hregistered.sound, rfl⟩
  have hmidway := records_midway hs hrecords now first
  generalize hv : first.foldl (Agenda.goOff s (Agenda.sweep s) now) (before.lifted now) = v at *
  have hact : (Agenda.goOff s (Agenda.sweep s) now v p).outside = v.outside.expireOnAlarm ⟨p.owner⟩ v.clock := by
    unfold Agenda.goOff
    rw [hregistered.tasks p hpending, ← hs]
    rfl
  rw [hact] at hturn
  obtain ⟨hown, r, hr, hrunning⟩ := Office.running_of_expireOnAlarm hmidway.sound hfirst hturn
  obtain rfl : p.owner = id := hown
  refine ⟨p, r, ⟨first, rest, horder, hv ▸ hr⟩, rfl, hrunning, hregistered.armed p hpending, hdue, ?_⟩
  intro hinStep
  have hdeadline : r.deadline = some p.fireAt := by
    have hrecorded := hmidway.deadline?
    unfold Office.deadline? at hrecorded
    rw [hr] at hrecorded
    exact hrecorded.trans (hagrees hinStep p hpending rfl)
  simp [Record.isExpired, hrunning, hdeadline, hdue]

end Watch

namespace Watch

/-- A parcel that has to arrive by 100. -/
def parcel : Record Nat := ⟨⟨"p"⟩, "parcel", .running, 0, 0, 0, none, some 100, none⟩

/-- A depot with this parcel. -/
def depot : Watch Nat :=
  .opened 0 ⟨⟨"parcel", 0, .ofRules [], none⟩, .nobody, .healthy ⟨[(⟨"p"⟩, parcel)], [], false⟩, 0, .empty⟩

private theorem sound_depot : depot.outside.store.inner.Sound where
  keys := by decide
  filed := by decide

/-- Its alarm is armed, and nothing is due at 70. -/
def watched : List (Errand Nat) := [.guard parcel, .moveClock ⟨none, some 70⟩, .sweep 70]

theorem timesOut_as_armed_parcel :
    depot.pending = [] ∧ depot.outside.store.inner.Sound ∧
      (depot.errands Watch.setting watched).TimesOut Watch.setting 100 ⟨"p"⟩ ∧
      ∃ p r, (depot.errands Watch.setting watched).Finds Watch.setting 100 p r ∧
        lastArmed ⟨"p"⟩ (depot.guarded Watch.setting watched) = some p.fireAt ∧ r.isExpired 100 = true := by
  have htimesOut : (depot.errands Watch.setting watched).TimesOut Watch.setting 100 ⟨"p"⟩ :=
    ⟨by decide +kernel, by decide +kernel⟩
  have hinStep : depot.InStep Watch.setting ⟨"p"⟩ watched := by
    refine ⟨?_, id, id, trivial⟩
    rintro ⟨-, due, hdue, hother⟩
    exact hother hdue
  obtain ⟨p, r, hfinds, -, -, harmed, -, hexpired⟩ := timesOut_as_armed rfl rfl sound_depot watched htimesOut
  exact ⟨rfl, sound_depot, htimesOut, p, r, hfinds, harmed, hexpired hinStep⟩

/-- After the alarm was armed for 100, the deadline of the parcel is moved to 500. -/
def postponed : List (Errand Nat) := [.guard parcel, .postpone parcel 500]

/-- The parcel is timed out at 100 all the same. -/
theorem timesOut_postponed :
    (depot.errands Watch.setting postponed).TimesOut Watch.setting 100 ⟨"p"⟩ ∧
      (∃ p r, (depot.errands Watch.setting postponed).Finds Watch.setting 100 p r) ∧
      ∀ p r, (depot.errands Watch.setting postponed).Finds Watch.setting 100 p r →
        p.owner = ⟨"p"⟩ ∧ r.isRunning = true ∧ r.deadline = some 500 ∧ r.isExpired 100 = false := by
  refine ⟨⟨by decide +kernel, by decide +kernel⟩, ⟨_, { parcel with deadline := some 500 }, [], [], rfl, rfl⟩, ?_⟩
  rintro p r ⟨first, rest, horder, hr⟩
  have hdue : first ++ p :: rest = [⟨0, ⟨"p"⟩, 100, .outside ⟨⟨"p"⟩⟩ .done⟩] := horder.symm
  cases first with
  | nil =>
    obtain ⟨rfl, rfl⟩ := List.cons.inj hdue
    have hfound : some r = some { parcel with deadline := some 500 } := hr.symm
    cases hfound
    exact ⟨rfl, rfl, rfl, rfl⟩
  | cons q first => simp at hdue

end Watch

end Coordination.Workflow
