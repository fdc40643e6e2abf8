import Coordination.Proofs.Alarm.Nesting
import Coordination.Proofs.Workflow.Expiry
import Mathlib.Data.List.Nodup

/-!
# Recovery of deadlines

After a restart no alarm is pending. `Watch.recover` arms one alarm for every running process with a deadline, at this
deadline; to do so twice makes no difference. A sweep then expires the processes whose deadline has come, in whatever
order their alarms go off, and leaves the alarms of the others pending (`Watch.recover_sweep`).

The invariant is `Guarding`: an alarm that is pending guards a running process at its deadline.
-/

namespace Coordination.Workflow

open Alarm (Agenda Armed)

variable {S : Type}

/-- The process runs and has the deadline `due`. -/
def Office.Due (id : ProcessId) (due : Millis) (o : Office S) : Prop :=
  ∃ r, o.stored id = some r ∧ r.isRunning = true ∧ r.deadline = some due

private theorem Office.Due.unique {id : ProcessId} {due due' : Millis} {o : Office S} (h : o.Due id due)
    (h' : o.Due id due') : due = due' := by
  obtain ⟨r, hr, -, hdue⟩ := h
  obtain ⟨r', hr', -, hdue'⟩ := h'
  rw [hr, Option.some.injEq] at hr'
  rw [← hr', hdue] at hdue'
  exact Option.some.inj hdue'

/-- A process that was timed out is due no more. -/
private theorem Office.TimedOut.due_iff [ToString S] {now : Millis} {ids : List ProcessId} {o o' : Office S}
    (h : Office.TimedOut now ids o o') {id : ProcessId} {due : Millis} : o'.Due id due ↔ o.Due id due ∧ id ∉ ids := by
  unfold Office.Due
  rw [h.stored]
  by_cases hid : id ∈ ids
  · rw [if_pos hid]
    refine ⟨?_, fun hdue => (hdue.2 hid).elim⟩
    rintro ⟨r, hr, hrunning, -⟩
    obtain ⟨r', -, rfl⟩ := Option.map_eq_some_iff.1 hr
    cases hrunning
  · rw [if_neg hid, and_iff_left hid]

namespace Watch

/-- The pending alarms: whose they are, and when they are due. -/
def watches (w : Watch S) : List (ProcessId × Millis) := w.pending.map fun p => (p.owner, p.fireAt)

/-- No process has two alarms, and every alarm expires its process, which runs, at the deadline of the process. -/
structure Guarding (w : Watch S) : Prop where
  owners : (w.watches.map Prod.fst).Nodup
  tasks : ∀ p ∈ w.pending, p.task = .outside ⟨p.owner⟩ .done
  due : ∀ x ∈ w.watches, w.outside.Due x.1 x.2

private theorem Guarding.of_pending_eq_nil {w : Watch S} (h : w.pending = []) : w.Guarding where
  owners := by simp [watches, h]
  tasks := by simp [h]
  due := by simp [watches, h]

/-- Only the alarms and the stored records count. -/
private theorem Guarding.congr {w w' : Watch S} (h : w.Guarding) (hpending : w'.pending = w.pending)
    (hstored : ∀ id, w'.outside.stored id = w.outside.stored id) : w'.Guarding := by
  have hwatches : w'.watches = w.watches := congrArg (List.map _) hpending
  refine ⟨by rw [hwatches]; exact h.owners, by rw [hpending]; exact h.tasks, ?_⟩
  intro x hx
  unfold Office.Due
  rw [hstored]
  exact h.due x (hwatches ▸ hx)

/-- From `w` to `w'` the alarms became those that the stored records call for, and nothing else happened to clock,
records and notices. -/
structure Recovered (w w' : Watch S) : Prop where
  guarding : w'.Guarding
  healthy : w'.outside.Healthy
  clock : w'.clock = w.clock
  stored : ∀ id, w'.outside.stored id = w.outside.stored id
  sent : w'.outside.chronicle.sent = w.outside.chronicle.sent
  watches : ∀ id due, (id, due) ∈ w'.watches ↔ w.outside.Due id due

namespace Recovered

variable {w w' w'' : Watch S}

private theorem due_iff (h : w.Recovered w') (id : ProcessId) (due : Millis) :
    w'.outside.Due id due ↔ w.outside.Due id due := by
  unfold Office.Due
  rw [h.stored]

private theorem trans (h : w.Recovered w') (h' : w'.Recovered w'') : w.Recovered w'' where
  guarding := h'.guarding
  healthy := h'.healthy
  clock := h'.clock.trans h.clock
  stored := fun id => (h'.stored id).trans (h.stored id)
  sent := h'.sent.trans h.sent
  watches := fun id due => (h'.watches id due).trans (h.due_iff id due)

private theorem perm (h : w.Recovered w') (h' : w.Recovered w'') : w''.watches.Perm w'.watches := by
  have hnodup : ∀ v : Watch S, v.Guarding → v.watches.Nodup := fun v hv => List.Nodup.of_map _ hv.owners
  refine (List.perm_ext_iff_of_nodup (hnodup w'' h'.guarding) (hnodup w' h.guarding)).2 ?_
  rintro ⟨id, due⟩
  rw [h.watches, h'.watches]

end Recovered

/-! ### Arming -/

theorem guard_surroundings (r : Record S) (w : Watch S) :
    (Watch.guard r w).2.outside = w.outside ∧ (Watch.guard r w).2.clock = w.clock := by
  unfold Watch.guard
  split
  · split
    · exact ⟨w.outside_armAt .., w.clock_armAt ..⟩
    · exact ⟨rfl, rfl⟩
  · exact ⟨rfl, rfl⟩

theorem guardAll_surroundings (rs : List (Record S)) (w : Watch S) :
    (Watch.guardAll rs w).2.outside = w.outside ∧ (Watch.guardAll rs w).2.clock = w.clock := by
  induction rs generalizing w with
  | nil => exact ⟨rfl, rfl⟩
  | cons r rs ih =>
    obtain ⟨houtside, hclock⟩ := guard_surroundings r w
    obtain ⟨houtside', hclock'⟩ := ih (Watch.guard r w).2
    exact ⟨houtside'.trans houtside, hclock'.trans hclock⟩

private theorem watches_armAt (id : ProcessId) (due : Millis) (task : Alarm.Task Expiry) (w : Watch S) :
    watches (w.armAt id due task) = w.watches.filter (fun x => x.1 ≠ id) ++ [(id, due)] := by
  unfold watches
  rw [w.pending_armAt, List.map_append, List.filter_map]
  rfl

namespace Guarding

variable {w : Watch S}

/-- An alarm that is replaced was due at the same time. -/
private theorem mem_armAt (h : w.Guarding) {id : ProcessId} {due : Millis} (hdue : w.outside.Due id due)
    (task : Alarm.Task Expiry) (x : ProcessId × Millis) :
    x ∈ watches (w.armAt id due task) ↔ x ∈ w.watches ∨ x = (id, due) := by
  rw [watches_armAt, List.mem_append, List.mem_singleton, List.mem_filter, decide_eq_true_eq]
  constructor
  · rintro (hx | hx)
    · exact Or.inl hx.1
    · exact Or.inr hx
  · rintro (hx | hx)
    · by_cases hid : x.1 = id
      · have hsame : x.2 = due := (h.due x hx).unique (hid.symm ▸ hdue)
        exact Or.inr (Prod.ext hid hsame)
      · exact Or.inl ⟨hx, hid⟩
    · exact Or.inr hx

private theorem armAt (h : w.Guarding) {id : ProcessId} {due : Millis} (hdue : w.outside.Due id due) :
    Guarding (w.armAt id due (.outside ⟨id⟩ .done)) where
  owners := by
    rw [watches_armAt, List.map_append, List.nodup_append]
    refine ⟨h.owners.sublist (List.filter_sublist.map _), by simp, ?_⟩
    intro i hi j hj hij
    obtain ⟨x, hx, rfl⟩ := List.mem_map.1 hi
    exact of_decide_eq_true (List.mem_filter.1 hx).2 (hij.trans (by simpa using hj))
  tasks := by
    rw [w.pending_armAt]
    intro p hp
    rcases List.mem_append.1 hp with hp | hp
    · exact h.tasks p (List.mem_filter.1 hp).1
    · rw [List.mem_singleton.1 hp]
  due := by
    intro x hx
    rw [w.outside_armAt]
    rcases (h.mem_armAt hdue _ x).1 hx with hx | rfl
    · exact h.due x hx
    · exact hdue

/-- After a stored process was guarded, its alarm is pending, and so are all alarms from before. -/
private theorem guard (h : w.Guarding) {r : Record S} (hr : w.outside.stored r.id = some r) :
    (Watch.guard r w).1 = (r.isRunning && r.deadline.isSome) ∧ (Watch.guard r w).2.Guarding ∧
      ∀ x, x ∈ (Watch.guard r w).2.watches ↔
        x ∈ w.watches ∨ (r.isRunning = true ∧ r.id = x.1 ∧ r.deadline = some x.2) := by
  unfold Watch.guard
  cases hdeadline : r.deadline with
  | none => exact ⟨by simp, h, by simp⟩
  | some due =>
    cases hrunning : r.isRunning with
    | false => exact ⟨rfl, h, by simp⟩
    | true =>
      have hdue : w.outside.Due r.id due := ⟨r, hr, hrunning, hdeadline⟩
      refine ⟨rfl, h.armAt hdue, ?_⟩
      intro x
      show x ∈ watches (w.armAt r.id due (.outside ⟨r.id⟩ .done)) ↔ _
      rw [h.mem_armAt hdue]
      simp [Prod.ext_iff, eq_comm]

private theorem guardAll (h : w.Guarding) {rs : List (Record S)} (hrs : ∀ r ∈ rs, w.outside.stored r.id = some r) :
    (Watch.guardAll rs w).1 = (rs.filter fun r => r.isRunning && r.deadline.isSome).map Record.id ∧
      (Watch.guardAll rs w).2.Guarding ∧
      ∀ x, x ∈ (Watch.guardAll rs w).2.watches ↔
        x ∈ w.watches ∨ ∃ r ∈ rs, r.isRunning = true ∧ r.id = x.1 ∧ r.deadline = some x.2 := by
  induction rs generalizing w with
  | nil => exact ⟨rfl, h, by simp [Watch.guardAll]⟩
  | cons r rs ih =>
    obtain ⟨hguarded, hguarding, hmem⟩ := h.guard (hrs r (List.mem_cons_self ..))
    obtain ⟨hids, hguarding', hmem'⟩ := ih hguarding fun r' hr' => by
      rw [(guard_surroundings r w).1]
      exact hrs r' (List.mem_cons_of_mem _ hr')
    refine ⟨?_, hguarding', ?_⟩
    · simp only [Watch.guardAll, hguarded, hids, List.filter_cons]
      split <;> rfl
    · intro x
      show x ∈ (Watch.guardAll rs (Watch.guard r w).2).2.watches ↔ _
      rw [hmem', hmem, or_assoc]
      simp

/-- Without faults, recovery guards the running processes and writes a line. -/
private theorem recover_eq (hw : w.outside.Healthy) : ∃ line,
    let armed := Watch.guardAll w.outside.running { w with outside := w.outside.asked }
    w.recover = (.ok armed.1, { armed.2 with outside := armed.2.outside.write line }) := by
  unfold Watch.recover
  rw [hw.findByStatus_running]
  exact ⟨_, rfl⟩

/-- Recovery answers the running processes that have a deadline, and arms their alarms. -/
private theorem recover (h : w.Guarding) (hw : w.outside.Healthy) :
    (∃ ids, w.recover.1 = .ok ids ∧ ids.Nodup ∧ ∀ id, id ∈ ids ↔ ∃ due, w.outside.Due id due) ∧
      w.Recovered w.recover.2 := by
  have hmem : ∀ r ∈ w.outside.running, w.outside.stored r.id = some r ∧ r.isRunning = true :=
    fun r => hw.mem_running.1
  have hasked : Guarding { w with outside := w.outside.asked } := h.congr rfl fun _ => rfl
  have hstored : ∀ r ∈ w.outside.running, w.outside.stored r.id = some r := fun r hr => (hmem r hr).1
  obtain ⟨hids, hguarding, hwatches⟩ := hasked.guardAll hstored
  obtain ⟨houtside, hclock⟩ := guardAll_surroundings w.outside.running { w with outside := w.outside.asked }
  have hdue : ∀ id due, w.outside.Due id due ↔
      ∃ r ∈ w.outside.running, r.isRunning = true ∧ r.id = id ∧ r.deadline = some due := by
    intro id due
    constructor
    · rintro ⟨r, hr, hrunning, hdue⟩
      obtain rfl : r.id = id := hw.sound.id_eq hr
      exact ⟨r, hw.mem_running.2 ⟨hr, hrunning⟩, hrunning, rfl, hdue⟩
    · rintro ⟨r, hr, hrunning, rfl, hdue⟩
      exact ⟨r, (hmem r hr).1, hrunning, hdue⟩
  obtain ⟨line, hrecover⟩ := recover_eq hw
  rw [hrecover]
  generalize Watch.guardAll w.outside.running { w with outside := w.outside.asked } = armed at *
  refine ⟨⟨armed.1, rfl, ?_, ?_⟩, hguarding.congr rfl fun _ => rfl, ?_, hclock, ?_, ?_, ?_⟩
  · rw [hids]
    exact hw.nodup_running.sublist (List.filter_sublist.map _)
  · intro id
    rw [hids]
    simp only [hdue, List.mem_map, List.mem_filter, Bool.and_eq_true, Option.isSome_iff_exists]
    constructor
    · rintro ⟨r, ⟨hr, hrunning, due, hdeadline⟩, rfl⟩
      exact ⟨due, r, hr, hrunning, rfl, hdeadline⟩
    · rintro ⟨due, r, hr, hrunning, rfl, hdeadline⟩
      exact ⟨r, ⟨hr, hrunning, due, hdeadline⟩, rfl⟩
  · dsimp only
    rw [houtside]
    exact hw.asked.write _
  · intro id
    dsimp only
    rw [Office.stored_write, houtside]
    rfl
  · show armed.2.outside.chronicle.sent = _
    rw [houtside]
    rfl
  · intro id due
    show (id, due) ∈ armed.2.watches ↔ _
    rw [hwatches, hdue]
    constructor
    · rintro (hx | hx)
      · exact (hdue id due).1 (h.due (id, due) hx)
      · exact hx
    · exact Or.inr

end Guarding

/-! ### Sweeping -/

section

variable [ToString S] {s : Alarm.Setting Expiry (Office S)}

/-- Alarms that go off expire their processes and change no alarm. -/
theorem goOff_all (hs : s.act = Office.expireOnAlarm) (nested : Millis → Watch S → Nat × Watch S) (now : Millis)
    (due : List (Armed Expiry)) (w : Watch S) (hdue : ∀ p ∈ due, p.task = .outside ⟨p.owner⟩ .done) :
    let after := due.foldl (Agenda.goOff s nested now) w
    after.pending = w.pending ∧ after.clock = w.clock ∧
      after.outside = (due.map Armed.owner).foldl (fun o id => o.expireOnAlarm ⟨id⟩ w.clock) w.outside := by
  induction due generalizing w with
  | nil => exact ⟨rfl, rfl, rfl⟩
  | cons p due ih =>
    have hp : Agenda.goOff s nested now w p = { w.record (.fired p.ticket p.owner p.fireAt now) with
        outside := w.outside.expireOnAlarm ⟨p.owner⟩ w.clock } := by
      unfold Agenda.goOff
      rw [hdue p (List.mem_cons_self ..), ← hs]
      rfl
    rw [List.foldl_cons, hp]
    exact ih _ fun q hq => hdue q (List.mem_cons_of_mem _ hq)

/-- A sweep expires the processes whose alarms are due, in whatever order. -/
private theorem Guarding.sweep {w : Watch S} (h : w.Guarding) (hw : w.outside.Healthy)
    (hs : s.act = Office.expireOnAlarm) (now : Millis) : ∃ ids : List ProcessId, ids.Nodup ∧
      (∀ id, id ∈ ids ↔ ∃ due, (id, due) ∈ w.watches ∧ due ≤ now) ∧ (w.sweep s now).1 = ids.length ∧
      Office.TimedOut w.clock ids w.outside (w.sweep s now).2.outside ∧
      watches (w.sweep s now).2 = w.watches.filter fun x => now < x.2 := by
  have hperm := s.order_perm w.sweeps (w.due now)
  have hmem : ∀ p ∈ s.order w.sweeps (w.due now), p ∈ w.pending ∧ p.fireAt ≤ now := fun _ => Agenda.mem_order_due
  obtain ⟨hpending, -, houtside⟩ := goOff_all hs (Agenda.sweep s) now (s.order w.sweeps (w.due now)) (w.lifted now)
    fun p hp => h.tasks p (hmem p hp).1
  have hnodup : ((s.order w.sweeps (w.due now)).map Armed.owner).Nodup := by
    have howners : (w.pending.map Armed.owner).Nodup := by
      simpa [watches, Function.comp_def] using h.owners
    exact (hperm.map Armed.owner).nodup_iff.2 (howners.sublist (List.filter_sublist.map _))
  refine ⟨(s.order w.sweeps (w.due now)).map Armed.owner, hnodup, ?_, ?_, ?_, ?_⟩
  · intro id
    rw [(hperm.map Armed.owner).mem_iff]
    simp only [Agenda.due, watches, List.mem_map, List.mem_filter, decide_eq_true_eq, Prod.mk.injEq]
    constructor
    · rintro ⟨p, ⟨hp, hdue⟩, rfl⟩
      exact ⟨p.fireAt, ⟨p, hp, rfl, rfl⟩, hdue⟩
    · rintro ⟨_, ⟨p, hp, rfl, rfl⟩, hdue⟩
      exact ⟨p, ⟨hp, hdue⟩, rfl⟩
  · rw [w.sweep_eq, List.length_map, hperm.length_eq]
  · rw [w.sweep_eq]
    show Office.TimedOut w.clock _ w.outside (List.foldl _ (w.lifted now) _).outside
    rw [houtside]
    refine hw.expireAll w.clock hnodup ?_
    intro id hid
    obtain ⟨p, hp, rfl⟩ := List.mem_map.1 hid
    obtain ⟨r, hr, hrunning, -⟩ := h.due (p.owner, p.fireAt) (List.mem_map_of_mem (hmem p hp).1)
    exact ⟨r, hr, hrunning⟩
  · have hafter : (w.sweep s now).2.pending = w.pending.filter fun p => ¬ p.fireAt ≤ now := by
      rw [w.sweep_eq]
      exact hpending
    unfold watches
    rw [hafter, List.filter_map]
    simp only [UInt64.not_le]
    rfl

/-- What a sweep after a recovery does, in terms of the processes whose deadline has come. -/
private theorem Recovered.sweep {w w' : Watch S} (h : w.Recovered w') (hs : s.act = Office.expireOnAlarm)
    (now : Millis) :
    ∃ expired, (w'.outside.findExpired now).1 = .ok expired ∧ (expired.map Record.id).Nodup ∧
      let swept : Nat × Watch S := w'.sweep s now
      swept.1 = expired.length ∧
      (∀ r ∈ expired, swept.2.outside.stored r.id =
        some { r with status := .timedOut, error := none, updatedAt := max w.clock r.updatedAt }) ∧
      (∀ id, (∀ r ∈ expired, r.id ≠ id) → swept.2.outside.stored id = w.outside.stored id) ∧
      (∃ told, swept.2.outside.chronicle.sent = w.outside.chronicle.sent ++ told ∧
        told.Perm (expired.map fun r => .timedOut r.id)) ∧
      (swept.2.watches.map Prod.fst).Nodup ∧
      ∀ id due, (id, due) ∈ swept.2.watches ↔ swept.2.outside.Due id due ∧ now < due := by
  obtain ⟨ids, hnodup, hids, hcount, htimedOut, hwatches⟩ := h.guarding.sweep h.healthy hs now
  have hexpired : ∀ r, r ∈ w'.outside.running.filter (Record.isExpired now) ↔
      w'.outside.stored r.id = some r ∧ ∃ due, r.isRunning = true ∧ r.deadline = some due ∧ due ≤ now := by
    intro r
    rw [List.mem_filter, h.healthy.mem_running, and_assoc]
    simp [Record.isExpired, Option.any_eq_true]
  have hnodup' : ((w'.outside.running.filter (Record.isExpired now)).map Record.id).Nodup :=
    h.healthy.nodup_running.sublist (List.filter_sublist.map _)
  -- the alarms that go off are those of the processes whose deadline has come
  have hperm : ids.Perm ((w'.outside.running.filter (Record.isExpired now)).map Record.id) := by
    refine (List.perm_ext_iff_of_nodup hnodup hnodup').2 fun id => ?_
    rw [hids]
    simp only [h.watches, ← h.due_iff, List.mem_map, hexpired]
    constructor
    · rintro ⟨due, ⟨r, hr, hrunning, hdue⟩, hle⟩
      obtain rfl : r.id = id := h.healthy.sound.id_eq hr
      exact ⟨r, ⟨hr, due, hrunning, hdue, hle⟩, rfl⟩
    · rintro ⟨r, ⟨hr, due, hrunning, hdue, hle⟩, rfl⟩
      exact ⟨due, ⟨r, hr, hrunning, hdue⟩, hle⟩
  refine ⟨_, congrArg Prod.fst (h.healthy.findExpired now), hnodup', ?_, ?_, ?_, ?_, ?_, ?_⟩
  · rw [hcount, hperm.length_eq, List.length_map]
  · intro r hr
    rw [htimedOut.stored, if_pos (hperm.mem_iff.2 (List.mem_map_of_mem hr)), ((hexpired r).1 hr).1, h.clock]
    rfl
  · intro id hid
    have hnot : id ∉ ids := by
      intro hm
      obtain ⟨r, hr, heq⟩ := List.mem_map.1 (hperm.mem_iff.1 hm)
      exact hid r hr heq
    rw [htimedOut.stored, if_neg hnot, h.stored]
  · refine ⟨_, htimedOut.sent.trans (congrArg (· ++ _) h.sent), ?_⟩
    have := hperm.map (Notice.timedOut : ProcessId → Notice S)
    rwa [List.map_map] at this
  · rw [hwatches]
    exact h.guarding.owners.sublist (List.filter_sublist.map _)
  · intro id due
    rw [hwatches, List.mem_filter, decide_eq_true_eq, h.watches, htimedOut.due_iff, h.due_iff, and_assoc]
    refine and_congr_right fun hdue => (and_iff_right_of_imp fun hlate hid => ?_).symm
    obtain ⟨due', hdue', hle⟩ := (hids id).1 hid
    have hsame := hdue.unique ((h.watches id due').1 hdue')
    exact absurd hlate (UInt64.not_lt.2 (hsame ▸ hle))

/-- **Deadlines survive a restart.** Let no alarm be pending, and let the store not fail. Recovery answers every running
process that has a deadline once, arms exactly one alarm for each of them, at its deadline, and changes no record; a
second recovery leaves the same alarms. A sweep at any time after that, in whatever order the alarms go off, counts the
processes whose deadline has come, replaces each of their records by the one that is timed out, sends one notice for
each of them and no other, leaves all other records as they are, and leaves pending the alarms of the processes whose
deadline is still to come. -/
theorem recover_sweep (hs : s.act = Office.expireOnAlarm) {w : Watch S} (hpending : w.pending = [])
    (hw : w.outside.Healthy) :
    let once := w.recover.2
    let twice := once.recover.2
    (∃ ids, w.recover.1 = .ok ids ∧ ids.Nodup ∧ ∀ id, id ∈ ids ↔ ∃ due, w.outside.Due id due) ∧
      (once.watches.map Prod.fst).Nodup ∧ (∀ id due, (id, due) ∈ once.watches ↔ w.outside.Due id due) ∧
      (∃ ids, once.recover.1 = .ok ids) ∧ twice.watches.Perm once.watches ∧
      ∀ recovered ∈ [once, twice], (∀ id, recovered.outside.stored id = w.outside.stored id) ∧
        recovered.outside.chronicle.sent = w.outside.chronicle.sent ∧
        ∀ now, ∃ expired, (recovered.outside.findExpired now).1 = .ok expired ∧ (expired.map Record.id).Nodup ∧
          let swept : Nat × Watch S := recovered.sweep s now
          swept.1 = expired.length ∧
          (∀ r ∈ expired, swept.2.outside.stored r.id =
            some { r with status := .timedOut, error := none, updatedAt := max w.clock r.updatedAt }) ∧
          (∀ id, (∀ r ∈ expired, r.id ≠ id) → swept.2.outside.stored id = w.outside.stored id) ∧
          (∃ told, swept.2.outside.chronicle.sent = w.outside.chronicle.sent ++ told ∧
            told.Perm (expired.map fun r => .timedOut r.id)) ∧
          (swept.2.watches.map Prod.fst).Nodup ∧
          ∀ id due, (id, due) ∈ swept.2.watches ↔ swept.2.outside.Due id due ∧ now < due := by
  intro once twice
  obtain ⟨hanswer, hrecovered⟩ := (Guarding.of_pending_eq_nil hpending).recover hw
  obtain ⟨⟨ids, hids, -, -⟩, hagain⟩ := hrecovered.guarding.recover hrecovered.healthy
  have hrecovered' : w.Recovered twice := hrecovered.trans hagain
  refine ⟨hanswer, hrecovered.guarding.owners, hrecovered.watches, ⟨ids, hids⟩, hrecovered.perm hrecovered', ?_⟩
  intro recovered hmem
  have h : w.Recovered recovered := by
    rcases List.mem_cons.1 hmem with rfl | hmem
    · exact hrecovered
    · rw [List.mem_singleton.1 hmem]
      exact hrecovered'
  exact ⟨h.stored, h.sent, h.sweep hs⟩

end

/-- A process of a shop, with its deadline. -/
def order (id : String) (status : Status) (due : Millis) : Record Nat :=
  ⟨⟨id⟩, "order", status, 0, 100, 100, none, some due, none⟩

/-- At 1000, two processes run that have a deadline, and one of them is late; a third one has ended. -/
def restarted : Watch Nat :=
  let shelf := Shelf.replay [.save (order "p1" .running 900), .save (order "p2" .running 5000),
    .save (order "p3" .completed 900)]
  .opened 1000 ⟨⟨"order", 0, .ofRules [], none⟩, .nobody, .healthy (shelf.toOption.getD .empty), 0, .empty⟩

theorem recover_sweep_restarted :
    restarted.pending = [] ∧ restarted.outside.Healthy ∧
      let swept : Nat × Watch Nat := restarted.recover.2.sweep
        ⟨Office.expireOnAlarm, fun _ => List.reverse, fun _ => List.reverse_perm⟩ 1000
      swept.1 = 1 ∧
        swept.2.outside.stored ⟨"p1"⟩ = some { order "p1" .timedOut 900 with updatedAt := 1000 } ∧
        swept.2.outside.stored ⟨"p3"⟩ = some (order "p3" .completed 900) ∧
        (∀ id due, (id, due) ∈ swept.2.watches ↔ swept.2.outside.Due id due ∧ 1000 < due) := by
  have hshelf : Shelf.replay [.save (order "p1" .running 900), .save (order "p2" .running 5000),
      .save (order "p3" .completed 900)] = .ok restarted.outside.store.inner := rfl
  obtain ⟨hsound, hunlocked⟩ := Shelf.sound_replay hshelf
  have hhealthy : restarted.outside.Healthy := ⟨hsound, hunlocked, fun _ _ => rfl⟩
  have hexpired : (restarted.recover.2.outside.findExpired 1000).1 = .ok [order "p1" .running 900] := rfl
  obtain ⟨-, -, -, -, -, hsweep⟩ := recover_sweep
    (s := ⟨Office.expireOnAlarm, fun _ => List.reverse, fun _ => List.reverse_perm⟩) rfl
    (w := restarted) rfl hhealthy
  obtain ⟨-, -, hsweep⟩ := hsweep _ (List.mem_cons_self ..)
  obtain ⟨expired, heq, -, hcount, hlate, hothers, -, -, hwatches⟩ := hsweep 1000
  obtain rfl : [order "p1" .running 900] = expired := Except.ok.inj (hexpired.symm.trans heq)
  refine ⟨rfl, hhealthy, hcount, hlate _ (List.mem_cons_self ..), ?_, hwatches⟩
  refine (hothers ⟨"p3"⟩ ?_).trans (by decide +kernel)
  intro r hr
  rw [List.mem_singleton.1 hr]
  decide

end Watch

end Coordination.Workflow
