import Coordination.Proofs.Alarm.Fates
import Coordination.Proofs.Alarm.Nesting

/-!
# Who sets off what

A sweep answers how many alarms it set off. The tasks that it runs may sweep as well; what these nested sweeps set off
is theirs, and the tasks report it. So the alarms that have gone off fall into those that were set off by sweeps from
outside and those of the nested sweeps (`Attributed`), and a call from outside sets off what was due at its time, and
nothing else (`Attributed.call`).
-/

namespace Coordination.Alarm

/-- How many alarms a task was told to have set off. -/
def Entry.nested : Entry → Nat
  | .told (.swept _ count) => count
  | _ => 0

/-- How many alarms tasks were told to have set off. -/
def nestedIn (history : List Entry) : Nat := history.foldl (fun n e => n + e.nested) 0

private theorem nestedIn_append (history : List Entry) (e : Entry) :
    nestedIn (history ++ [e]) = nestedIn history + e.nested :=
  List.foldl_append

/-- Of the alarms that went off, those of `direct` were set off from outside, and the others by sweeps of tasks. -/
def Attributed (direct : List Nat) (history : List Entry) : Prop :=
  ∃ nested, (history.filterMap Entry.fired?).Perm (direct ++ nested) ∧ nested.length = nestedIn history

namespace Attributed

variable {direct direct' more : List Nat} {history : List Entry}

theorem nil : Attributed [] [] := ⟨[], List.Perm.refl _, rfl⟩

theorem perm (h : Attributed direct history) (hperm : direct.Perm direct') : Attributed direct' history := by
  obtain ⟨nested, hfired, hlength⟩ := h
  exact ⟨nested, hfired.trans (hperm.append_right nested), hlength⟩

/-- An entry that tells neither that an alarm went off nor that a task set off others. -/
private theorem remark (h : Attributed direct history) {e : Entry} (hfired : e.fired? = none) (hnested : e.nested = 0) :
    Attributed direct (history ++ [e]) := by
  simpa [Attributed, nestedIn_append, hfired, hnested] using h

private theorem fire (h : Attributed direct history) (ticket : Nat) (owner : ProcessId) (fireAt now : Millis) :
    Attributed (direct ++ [ticket]) (history ++ [.fired ticket owner fireAt now]) := by
  obtain ⟨nested, hfired, hlength⟩ := h
  refine ⟨nested, ?_, hlength.trans (nestedIn_append history (.fired ticket owner fireAt now)).symm⟩
  have hlast : (history ++ [Entry.fired ticket owner fireAt now]).filterMap Entry.fired? =
      history.filterMap Entry.fired? ++ [ticket] := List.filterMap_append
  rw [hlast, List.append_assoc]
  refine (hfired.append_right [ticket]).trans ?_
  rw [List.append_assoc]
  exact List.perm_append_comm.append_left direct

/-- What a task has set off is told to it. -/
private theorem tell (h : Attributed (direct ++ more) history) (owner : ProcessId) :
    Attributed direct (history ++ [.told (.swept owner more.length)]) := by
  obtain ⟨nested, hfired, hlength⟩ := h
  refine ⟨more ++ nested, ?_, by rw [List.length_append, hlength, nestedIn_append, Entry.nested, Nat.add_comm]⟩
  rw [List.append_assoc] at hfired
  rw [List.filterMap_append]
  exact (List.append_nil _).symm ▸ hfired

variable {ε σ : Type} {a : Agenda ε σ}

private theorem remove (h : Attributed direct a.history) (id : ProcessId) {fate : Nat → Entry}
    (hfate : ∀ ticket, (fate ticket).fired? = none ∧ (fate ticket).nested = 0) :
    Attributed direct (a.remove id fate).history := by
  unfold Agenda.remove
  split
  · exact h.remark (hfate _).1 (hfate _).2
  · exact h

private theorem armAt (h : Attributed direct a.history) (id : ProcessId) (fireAt : Millis) (task : Task ε) :
    Attributed direct (a.armAt id fireAt task).history :=
  remove (a := a.record (.armed a.armings id fireAt)) (h.remark rfl rfl) id fun _ => ⟨rfl, rfl⟩

private theorem disarm (h : Attributed direct a.history) (id : ProcessId) : Attributed direct (a.disarm id).2.history :=
  h.remove id fun _ => ⟨rfl, rfl⟩

/-! ### Tasks and sweeps -/

/-- A sweep sets off as many alarms as it answers, apart from what nested sweeps set off. -/
def Sweeps (nested : Millis → Agenda ε σ → Nat × Agenda ε σ) : Prop :=
  ∀ direct now (a : Agenda ε σ), Attributed direct a.history →
    ∃ more, more.length = (nested now a).1 ∧ Attributed (direct ++ more) (nested now a).2.history

variable {s : Setting ε σ} {nested : Millis → Agenda ε σ → Nat × Agenda ε σ}

/-- What a task sets off is not set off from outside. -/
private theorem run (hnested : Sweeps nested) (owner : ProcessId) (task : Task ε) {a : Agenda ε σ}
    (h : Attributed direct a.history) : Attributed direct (task.run s nested owner a).history := by
  have hsweep : ∀ now (a : Agenda ε σ), Attributed direct a.history →
      Attributed direct ((nested now a).2.record (.told (.swept owner (nested now a).1))).history := by
    intro now a h
    obtain ⟨more, hcount, hmore⟩ := hnested direct now a h
    rw [← hcount]
    exact hmore.tell owner
  induction task generalizing a with
  | done => exact h
  | collapse => exact h.remark rfl rfl
  | ring rest ih => exact ih (h.remark rfl rfl)
  | armAt id fireAt task rest _ ih => exact ih (h.armAt id fireAt task)
  | armAfter id delay task rest _ ih => exact ih (h.armAt id _ task)
  | disarm id rest ih => exact ih ((h.disarm id).remark rfl rfl)
  | query id rest ih => exact ih (h.remark rfl rfl)
  | sweep now rest ih => exact ih (hsweep now a h)
  | sweepNow rest ih => exact ih (hsweep a.clock a h)
  | moveClock m rest ih => exact ih h
  | outside e rest ih => exact ih h

private theorem goOff_all (hnested : Sweeps nested) (now : Millis) (due : List (Armed ε)) {a : Agenda ε σ}
    (h : Attributed direct a.history) :
    Attributed (direct ++ due.map Armed.ticket) (due.foldl (Agenda.goOff s nested now) a).history := by
  induction due generalizing direct a with
  | nil => simpa using h
  | cons p due ih =>
    have hfirst : Attributed (direct ++ [p.ticket]) (a.goOff s nested now p).history :=
      run hnested p.owner p.task (h.fire p.ticket p.owner p.fireAt now)
    simpa using ih hfirst

private theorem sweepWithin (s : Setting ε σ) (depth : Nat) : Sweeps (Agenda.sweepWithin s depth) := by
  induction depth with
  | zero => exact fun direct now a h => ⟨[], rfl, (List.append_nil direct).symm ▸ h⟩
  | succ depth ih =>
    intro direct now a h
    exact ⟨_, List.length_map .., goOff_all ih now (s.order a.sweeps (a.due now)) h⟩

/-- A sweep sets off the alarms that were due. -/
private theorem sweep (s : Setting ε σ) (h : Attributed direct a.history) (now : Millis) :
    Attributed (direct ++ (a.due now).map Armed.ticket) (a.sweep s now).2.history := by
  have hall := goOff_all (s := s) (sweepWithin s a.load) now (s.order a.sweeps (a.due now))
    (a := a.lifted now) h
  exact hall.perm (((s.order_perm a.sweeps (a.due now)).map Armed.ticket).append_left direct)

end Attributed

/-! ### Calls -/

section

variable {ε σ : Type}

/-- The alarms that a call sets off itself. -/
def Call.due : Call ε → Agenda ε σ → List Nat
  | .sweep now, a => (a.due now).map Armed.ticket
  | .sweepNow, a => (a.due a.clock).map Armed.ticket
  | _, _ => []

/-- How many alarms a call is told to have set off. -/
def Answer.count : Answer → Nat
  | .swept count => count
  | _ => 0

theorem Call.count_perform (s : Setting ε σ) (c : Call ε) (a : Agenda ε σ) :
    (c.perform s a).1.count = (c.due a).length := by
  have hsweep : ∀ now, (a.sweep s now).1 = ((a.due now).map Armed.ticket).length := by
    intro now
    rw [a.sweep_eq s now, List.length_map]
  cases c with
  | sweep now => exact hsweep now
  | sweepNow => exact hsweep a.clock
  | _ => rfl

theorem Attributed.call (s : Setting ε σ) {direct : List Nat} (c : Call ε) {a : Agenda ε σ}
    (h : Attributed direct a.history) : Attributed (direct ++ c.due a) (c.perform s a).2.history := by
  have hnone : ∀ {history}, Attributed direct history → Attributed (direct ++ []) history := by
    intro history h
    rwa [List.append_nil]
  cases c with
  | sweep now => exact h.sweep s now
  | sweepNow => exact h.sweep s a.clock
  | armAt id fireAt task => exact hnone (h.armAt id fireAt task)
  | armAfter id delay task => exact hnone (h.armAt id _ task)
  | disarm id => exact hnone (h.disarm id)
  | moveClock m => exact hnone h
  | outside e => exact hnone h

end

end Coordination.Alarm
