import Coordination.Proofs.Workflow.Custody
import Coordination.Workflow.Deadline

/-!
# Expiry of processes

In an office whose store does not fail, the alarm of a running process replaces its record by the one that is timed
out, sends one notice, and touches no other record (`Healthy.expireOnAlarm`). So alarms of different processes do not
get into each other's way, and what many of them do together does not depend on their order (`Healthy.expireAll`).
-/

namespace Coordination.Workflow

variable {S : Type}

/-- The record of a process that is ended as timed out now. -/
def Record.timedOutAt (now : Millis) (r : Record S) : Record S :=
  { r with status := .timedOut, error := none, updatedAt := r.touchedAt now }

theorem Record.isTerminal_of_isRunning {r : Record S} (h : r.isRunning = true) : r.isTerminal = false := by
  have hstatus : r.status = .running := of_decide_eq_true h
  rw [isTerminal, hstatus]
  rfl

theorem Record.finish_timedOut {r : Record S} (h : r.isRunning = true) (now : Millis) :
    r.finish .timedOut now = .ok (r.timedOutAt now) := by
  simp [finish, requireRunning, isTerminal_of_isRunning h, timedOutAt, Ending.status, Ending.error]

namespace Office

/-- The records are in order and no call fails. -/
structure Healthy (o : Office S) : Prop where
  sound : o.store.inner.Sound
  unlocked : o.store.inner.poisoned = false
  quiet : ∀ call n, o.store.plan call n = none

/-- The running processes of the store. -/
def running (o : Office S) : List (Record S) :=
  o.store.inner.records.values.filter fun r => decide (r.status = .running)

/-- The office after a reading call. -/
def asked (o : Office S) : Office S := { o with store := { o.store with calls := o.store.calls + 1 } }

theorem stored_write (l : LogLine) (id : ProcessId) (o : Office S) : (o.write l).stored id = o.stored id := rfl

namespace Healthy

variable {o : Office S}

theorem asked (h : o.Healthy) : o.asked.Healthy := ⟨h.sound, h.unlocked, h.quiet⟩

theorem write (h : o.Healthy) (l : LogLine) : (o.write l).Healthy := ⟨h.sound, h.unlocked, h.quiet⟩

private theorem load (h : o.Healthy) (id : ProcessId) : o.load id = (.ok (o.stored id), o.asked) := by
  have hfound : o.store.inner.findById id = .ok (o.stored id) := Shelf.findById_eq_ok.2 ⟨h.unlocked, rfl⟩
  unfold Office.load
  rw [Guarded.ask_ok (h.quiet _ _), hfound]
  rfl

theorem findByStatus_running (h : o.Healthy) : o.findByStatus .running = (.ok o.running, o.asked) := by
  unfold Office.findByStatus Shelf.findByStatus
  rw [Guarded.ask_ok (h.quiet _ _), Shelf.open?_eq_ok.2 ⟨h.unlocked, rfl⟩]
  rfl

theorem findExpired (h : o.Healthy) (now : Millis) :
    o.findExpired now = (.ok (o.running.filter (Record.isExpired now)), o.asked) := by
  unfold Office.findExpired Shelf.findExpired Shelf.findByStatus
  rw [Guarded.ask_ok (h.quiet _ _), Shelf.open?_eq_ok.2 ⟨h.unlocked, rfl⟩]
  rfl

theorem mem_running (h : o.Healthy) {r : Record S} :
    r ∈ o.running ↔ o.stored r.id = some r ∧ r.isRunning = true := by
  unfold running
  rw [List.mem_filter, h.sound.mem_values]
  rfl

theorem nodup_running (h : o.Healthy) : (o.running.map Record.id).Nodup :=
  h.sound.nodup_ids.sublist (List.filter_sublist.map _)

theorem save (h : o.Healthy) (r : Record S) :
    (o.save r).1 = .ok () ∧ (o.save r).2.Healthy ∧
      ∀ id, (o.save r).2.stored id = if id = r.id then some r else o.stored id := by
  have hquiet : ∀ call n, (o.save r).2.store.plan call n = none := by
    intro call n
    rw [show (o.save r).2.store.plan = o.store.plan from Guarded.plan_change ..]
    exact h.quiet call n
  rcases o.save_cases r with ⟨fault, hanswer, -⟩ | ⟨hanswer, hsound, hpoisoned, hstored⟩
  · have hok : (o.store.change .save (Shelf.save r)).1 = .ok () := by
      unfold Guarded.change Shelf.save
      simp only [h.quiet, Shelf.open?_eq_ok.2 ⟨h.unlocked, rfl⟩]
    rw [show (o.save r).1 = (o.store.change .save (Shelf.save r)).1.mapError .storage from rfl, hok] at hanswer
    cases hanswer
  · exact ⟨hanswer, ⟨hsound h.sound, hpoisoned.trans h.unlocked, hquiet⟩, hstored⟩

variable [ToString S]

private theorem announce (h : o.Healthy) (now : Millis) (n : Notice S) : (o.announce now n).Healthy :=
  ⟨h.sound, h.unlocked, h.quiet⟩

end Healthy

variable [ToString S]

private theorem sent_announce (now : Millis) (n : Notice S) (o : Office S) :
    (o.announce now n).chronicle.sent = o.chronicle.sent ++ [n] :=
  Coordination.sent_announce o.audience now n o.chronicle

/-- From `o` to `o'`, the processes `ids` were timed out at `now`, each with a notice, and nothing else happened to the
records. -/
structure TimedOut (now : Millis) (ids : List ProcessId) (o o' : Office S) : Prop where
  healthy : o'.Healthy
  stored : ∀ id, o'.stored id = if id ∈ ids then (o.stored id).map (Record.timedOutAt now) else o.stored id
  sent : o'.chronicle.sent = o.chronicle.sent ++ ids.map Notice.timedOut

namespace Healthy

variable {o : Office S}

theorem expireOnAlarm (h : o.Healthy) {id : ProcessId} {r : Record S} (hr : o.stored id = some r)
    (hrunning : r.isRunning = true) (now : Millis) : TimedOut now [id] o (o.expireOnAlarm ⟨id⟩ now) := by
  have hid : r.id = id := h.sound.id_eq hr
  have hfinish : o.asked.finish now .timedOut r =
      (.ok (r.timedOutAt now), o.asked.announce now (.timedOut r.id)) := by
    unfold Office.finish
    rw [Record.finish_timedOut hrunning]
    rfl
  obtain ⟨hsaved, hhealthy, hstored⟩ := (h.asked.announce now (.timedOut r.id)).save (r.timedOutAt now)
  have hexpire : o.expire now id = (.ok (some (r.timedOutAt now)),
      ((o.asked.announce now (.timedOut r.id)).save (r.timedOutAt now)).2) := by
    unfold Office.expire
    rw [h.load, hr]
    dsimp only
    rw [if_pos hrunning, hfinish]
    dsimp only
    generalize (o.asked.announce now (.timedOut r.id)).save (r.timedOutAt now) = saved at hsaved
    obtain ⟨answer, o'⟩ := saved
    subst hsaved
    rfl
  have hafter : o.expireOnAlarm ⟨id⟩ now =
      ((o.asked.announce now (.timedOut r.id)).save (r.timedOutAt now)).2 := by
    unfold Office.expireOnAlarm
    rw [hexpire]
  rw [hafter]
  refine ⟨hhealthy, ?_, ?_⟩
  · intro i
    rw [hstored i]
    by_cases hi : i = id
    · subst hi
      simp [hr, Record.timedOutAt, hid]
    · have hother : i ≠ (r.timedOutAt now).id := fun heq => hi (heq.trans hid)
      rw [if_neg hother, if_neg (by simpa using hi)]
      rfl
  · rw [← hid]
    exact sent_announce now (.timedOut r.id) o.asked

/-- The alarms of different running processes go off. -/
theorem expireAll (h : o.Healthy) (now : Millis) {ids : List ProcessId} (hids : ids.Nodup)
    (hrunning : ∀ id ∈ ids, ∃ r, o.stored id = some r ∧ r.isRunning = true) :
    TimedOut now ids o (ids.foldl (fun o id => o.expireOnAlarm ⟨id⟩ now) o) := by
  induction ids generalizing o with
  | nil => exact ⟨h, fun _ => (if_neg List.not_mem_nil).symm, (List.append_nil _).symm⟩
  | cons id ids ih =>
    obtain ⟨hid, hids⟩ := List.nodup_cons.1 hids
    obtain ⟨r, hr, hr'⟩ := hrunning id (List.mem_cons_self ..)
    have hfirst := h.expireOnAlarm hr hr' now
    -- the other processes still run
    have hkept : ∀ i ∈ ids, (o.expireOnAlarm ⟨id⟩ now).stored i = o.stored i := by
      intro i hi
      have hne : i ∉ [id] := fun hm => hid (List.mem_singleton.1 hm ▸ hi)
      rw [hfirst.stored, if_neg hne]
    have hrest := ih hfirst.healthy hids fun i hi => by
      rw [hkept i hi]
      exact hrunning i (List.mem_cons_of_mem _ hi)
    refine ⟨hrest.healthy, ?_, ?_⟩
    · intro i
      show Office.stored i (ids.foldl _ (o.expireOnAlarm ⟨id⟩ now)) = _
      rw [hrest.stored]
      by_cases hi : i ∈ ids
      · rw [if_pos hi, if_pos (List.mem_cons_of_mem _ hi), hkept i hi]
      · rw [if_neg hi, hfirst.stored]
        simp only [List.mem_cons, hi, or_false, List.not_mem_nil]
    · rw [List.map_cons, List.append_cons]
      exact hrest.sent.trans (congrArg (· ++ ids.map Notice.timedOut) hfirst.sent)

end Healthy

end Office

end Coordination.Workflow
