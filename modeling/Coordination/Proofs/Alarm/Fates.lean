import Coordination.Proofs.Alarm.Books

/-!
# The fates of alarms

An agenda is used by calls from outside; the tasks of the alarms that go off call it too, from inside a sweep. Between
two calls from outside nothing is in flight, so every alarm ever armed has had exactly one of four fates: it is still
pending, it went off once, it was replaced by a later arming for its process, or it was disarmed (`Agenda.fates`).
-/

namespace Coordination.Alarm

/-- A call on an agenda from outside. -/
inductive Call (ε : Type) where
  | armAt (id : ProcessId) (fireAt : Millis) (task : Task ε)
  | armAfter (id : ProcessId) (delay : Span) (task : Task ε)
  | disarm (id : ProcessId)
  | sweep (now : Millis)
  | sweepNow
  | moveClock (m : ClockMove)
  | outside (e : ε)

/-- What a call answers. -/
inductive Answer where
  | done
  | disarmed (found : Bool)
  | swept (count : Nat)
  deriving DecidableEq, Repr

/-- An alarm was disarmed. -/
def Answer.isCancel : Answer → Bool
  | .disarmed found => found
  | _ => false

variable {ε σ : Type}

def Call.perform (s : Setting ε σ) : Call ε → Agenda ε σ → Answer × Agenda ε σ
  | .armAt id fireAt task, a => (.done, a.armAt id fireAt task)
  | .armAfter id delay task, a => (.done, a.armAfter id delay task)
  | .disarm id, a => (.disarmed (a.disarm id).1, (a.disarm id).2)
  | .sweep now, a => (.swept (a.sweep s now).1, (a.sweep s now).2)
  | .sweepNow, a => (.swept (a.sweepNow s).1, (a.sweepNow s).2)
  | .moveClock m, a => (.done, a.moveClock m)
  | .outside e, a => (.done, { a with outside := s.act e a.clock a.outside })

/-- Calls one after the other, with their answers. -/
def Agenda.perform (s : Setting ε σ) : List (Call ε) → Agenda ε σ → List Answer × Agenda ε σ
  | [], a => ([], a)
  | c :: calls, a =>
    let (answer, a) := c.perform s a
    let (answers, a) := perform s calls a
    (answer :: answers, a)

namespace Kept

variable {past : List Entry} {direct : Nat} {a : Agenda ε σ}

private theorem call (s : Setting ε σ) (c : Call ε) (h : Kept past direct [] a) :
    Kept past (direct + (c.perform s a).1.isCancel.toNat) [] (c.perform s a).2 := by
  cases c with
  | armAt id fireAt task => exact h.armAt id fireAt task
  | armAfter id delay task => exact h.armAt id _ task
  | disarm id => exact h.disarm id
  | sweep now => exact sweepWithin s _ _ _ _ _ _ h
  | sweepNow => exact sweepWithin s _ _ _ _ _ _ h
  | moveClock m => exact h.congr rfl rfl rfl
  | outside e => exact h.congr rfl rfl rfl

theorem perform (s : Setting ε σ) (calls : List (Call ε)) (h : Kept past direct [] a) :
    Kept past (direct + (a.perform s calls).1.countP Answer.isCancel) [] (a.perform s calls).2 := by
  induction calls generalizing direct a with
  | nil => exact h
  | cons c calls ih =>
    have hrest := ih (h.call s c)
    have hcount : ∀ answers : List Answer, ∀ answer : Answer,
        (answer :: answers).countP Answer.isCancel = answer.isCancel.toNat + answers.countP Answer.isCancel := by
      intro answers answer
      cases hc : answer.isCancel <;> simp [hc, Nat.add_comm]
    unfold Agenda.perform
    dsimp only
    rw [hcount, ← Nat.add_assoc]
    exact hrest

/-- From here on, the history that there is now will be continued. -/
theorem rebase (h : Kept past direct [] a) : Kept a.history direct [] a :=
  { h with grown := List.prefix_rfl }

/-- No alarm goes off twice. -/
theorem nodup_fired (h : Kept past direct [] a) : (a.history.filterMap Entry.fired?).Nodup := by
  have hsettled : (a.history.filterMap Entry.settled?).Nodup :=
    (List.nodup_append.1 (h.accounts.nodup_iff.2 List.nodup_range)).2.1
  have hfates := (Entry.settled_perm a.history).nodup_iff.1 hsettled
  rw [List.append_assoc] at hfates
  exact (List.nodup_append.1 hfates).1

end Kept

/-- An answer that an alarm was disarmed stands for the one that was pending for the process. -/
private theorem Agenda.disarm_found (a : Agenda ε σ) (id : ProcessId) :
    (a.disarm id).1 = true ↔
      ∃ p ∈ a.pending, p.owner = id ∧ (a.disarm id).2.history = a.history ++ [.disarmed p.ticket] := by
  unfold Agenda.disarm Agenda.isPending
  dsimp only
  cases hp : a.find? id with
  | none =>
    rw [Kept.remove_of_none hp]
    simp
  | some p =>
    rw [Kept.remove_of_some hp]
    have hmem : p ∈ a.pending := List.mem_of_find?_eq_some hp
    simpa using ⟨p, hmem, Kept.owner_of_find? hp, rfl⟩

/-- After any calls on an agenda, made from outside and by the tasks of alarms that went off, and whatever the order
in which the alarms of a sweep go off: every arming has had exactly one fate, no process has two pending alarms, an
alarm is replaced only by a later one for the same process, one that was disarmed does not go off, and none goes off
in a sweep before its time. -/
theorem Agenda.fates (s : Setting ε σ) (clock : Millis) (outside : σ) (calls : List (Call ε)) :
    let answers := ((Agenda.opened clock outside).perform s calls).1
    let a := ((Agenda.opened clock outside).perform s calls).2
    let fired := a.history.filterMap Entry.fired?
    let replaced := a.history.filterMap Entry.replaced?
    let disarmed := a.history.filterMap Entry.disarmed?
    let cancels := answers.countP Answer.isCancel + a.history.countP Entry.isCancel
    a.history.filterMap Entry.armed? = List.range a.armings ∧
      (a.pending.map Armed.ticket ++ (fired ++ replaced ++ disarmed)).Perm (List.range a.armings) ∧
      a.armings = a.pending.length + fired.length + replaced.length + cancels ∧
      (a.pending.map Armed.owner).Nodup ∧
      (∀ p ∈ a.pending, .armed p.ticket p.owner p.fireAt ∈ a.history) ∧
      Succession a.history ∧
      (∀ (b : Agenda ε σ) (id : ProcessId), (b.disarm id).1 = true ↔
        ∃ p ∈ b.pending, p.owner = id ∧ (b.disarm id).2.history = b.history ++ [.disarmed p.ticket]) ∧
      (∀ ticket, .disarmed ticket ∈ a.history → ∀ owner fireAt now, .fired ticket owner fireAt now ∉ a.history) ∧
      Punctual a.history ∧
      ∀ more, a.history <+: (a.perform s more).2.history := by
  intro answers a fired replaced disarmed cancels
  have h : Kept [] (0 + answers.countP Answer.isCancel) [] a := (Kept.opened clock outside).perform s calls
  have hperm : (a.pending.map Armed.ticket ++ (fired ++ replaced ++ disarmed)).Perm (List.range a.armings) :=
    ((Entry.settled_perm a.history).symm.append_left _).trans h.accounts
  refine ⟨h.armings, hperm, ?_, h.owners, fun p hp => h.known p (List.mem_append_left _ hp), h.succession,
    Agenda.disarm_found, ?_, h.punctual, fun more => (h.rebase.perform s more).grown⟩
  · have hlength := hperm.length_eq
    have hcancels : disarmed.length = 0 + answers.countP Answer.isCancel + a.history.countP Entry.isCancel := h.cancels
    simp only [List.length_append, List.length_map, List.length_range] at hlength
    show a.armings = _ + _ + _ + (_ + _)
    omega
  · intro ticket hdisarmed owner fireAt now hfired
    have hnodup : (fired ++ replaced ++ disarmed).Nodup :=
      (List.nodup_append.1 (hperm.nodup_iff.2 List.nodup_range)).2.1
    have hf : ticket ∈ fired := List.mem_filterMap.2 ⟨_, hfired, rfl⟩
    have hd : ticket ∈ disarmed := List.mem_filterMap.2 ⟨_, hdisarmed, rfl⟩
    exact (List.nodup_append.1 hnodup).2.2 ticket (List.mem_append_left _ hf) ticket hd rfl

end Coordination.Alarm
