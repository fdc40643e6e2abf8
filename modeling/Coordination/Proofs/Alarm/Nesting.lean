import Coordination.Proofs.Total
import Coordination.Alarm.Sweep

/-!
# Nested sweeps

A sweep carries a depth only because it recurs through the tasks that it runs. The depth is never used up: the load
of an agenda does not grow, tasks and their sweeps included, and an alarm that goes off is no longer part of it. So
every depth above the load gives the same sweep (`sweepWithin_eq`), and a sweep runs the due tasks with sweeps of the
same kind inside (`sweep_eq`).
-/

namespace Coordination.Alarm

variable {ε σ : Type}

/-! ### The load of an agenda -/

/-- How many alarms a list of armed alarms can set off. -/
def weight (alarms : List (Armed ε)) : Nat := totalOf (fun p => 1 + p.task.alarms) alarms

/-- How many alarms the tasks of a list of alarms can arm. -/
def burden (alarms : List (Armed ε)) : Nat := totalOf (fun p => p.task.alarms) alarms

theorem burden_cons (p : Armed ε) (alarms : List (Armed ε)) :
    burden (p :: alarms) = p.task.alarms + burden alarms := totalOf_cons ..

private theorem weight_eq (alarms : List (Armed ε)) : weight alarms = alarms.length + burden alarms := by
  unfold weight
  induction alarms with
  | nil => rfl
  | cons p alarms ih =>
    rw [totalOf_cons, burden_cons, List.length_cons, ih]
    omega

namespace Agenda

variable {a : Agenda ε σ}

theorem load_eq (a : Agenda ε σ) : a.load = weight a.pending := rfl

theorem load_remove_le (id : ProcessId) (fate : Nat → Entry) (a : Agenda ε σ) : (a.remove id fate).load ≤ a.load := by
  rw [load_eq, load_eq]
  unfold remove
  split
  · exact totalOf_filter_le ..
  · exact Nat.le_refl _

theorem load_armAt_le (id : ProcessId) (fireAt : Millis) (task : Task ε) (a : Agenda ε σ) :
    (a.armAt id fireAt task).load ≤ a.load + (1 + task.alarms) := by
  have hremove := (a.record (.armed a.armings id fireAt)).load_remove_le id .replaced
  rw [load_eq, load_eq] at *
  unfold armAt
  dsimp only at *
  rw [weight, totalOf_append]
  exact Nat.add_le_add_right hremove _

end Agenda

/-! ### What tasks do to the load -/

section

variable {s : Setting ε σ} {nested nested' : Millis → Agenda ε σ → Nat × Agenda ε σ}

/-- A task adds to the load at most the alarms that it can arm, if the sweeps nested in it add nothing. -/
theorem Task.load_run_le (hnested : ∀ now (a : Agenda ε σ), (nested now a).2.load ≤ a.load) (owner : ProcessId)
    (task : Task ε) (a : Agenda ε σ) : (task.run s nested owner a).load ≤ a.load + task.alarms := by
  induction task generalizing a with
  | done => exact Nat.le_add_right ..
  | collapse => exact Nat.le_add_right ..
  | ring rest ih => exact ih _
  | armAt id fireAt task rest _ ih =>
    have harm := a.load_armAt_le id fireAt task
    have hrest := ih (a.armAt id fireAt task)
    simp only [Task.run, Task.alarms]
    omega
  | armAfter id delay task rest _ ih =>
    have harm : (a.armAfter id delay task).load ≤ a.load + (1 + task.alarms) := a.load_armAt_le id _ task
    have hrest := ih (a.armAfter id delay task)
    simp only [Task.run, Task.alarms]
    omega
  | disarm id rest ih => exact Nat.le_trans (ih _) (Nat.add_le_add_right (a.load_remove_le id .disarmed) _)
  | query id rest ih => exact ih _
  | sweep now rest ih => exact Nat.le_trans (ih _) (Nat.add_le_add_right (hnested now a) _)
  | sweepNow rest ih => exact Nat.le_trans (ih _) (Nat.add_le_add_right (hnested a.clock a) _)
  | moveClock m rest ih => exact ih _
  | outside e rest ih => exact ih _

/-- What a task does depends on nested sweeps only as far as the load can get. -/
private theorem Task.run_congr (bound : Nat)
    (hsame : ∀ now (a : Agenda ε σ), a.load ≤ bound → nested now a = nested' now a)
    (hnested : ∀ now (a : Agenda ε σ), (nested now a).2.load ≤ a.load) (owner : ProcessId) (task : Task ε)
    {a : Agenda ε σ} (ha : a.load + task.alarms ≤ bound) :
    task.run s nested owner a = task.run s nested' owner a := by
  induction task generalizing a with
  | done => rfl
  | collapse => rfl
  | ring rest ih => exact ih ha
  | armAt id fireAt task rest _ ih =>
    have harm := a.load_armAt_le id fireAt task
    refine ih ?_
    simp only [Task.alarms] at ha
    omega
  | armAfter id delay task rest _ ih =>
    have harm : (a.armAfter id delay task).load ≤ a.load + (1 + task.alarms) := a.load_armAt_le id _ task
    refine ih ?_
    simp only [Task.alarms] at ha
    omega
  | disarm id rest ih => exact ih (Nat.le_trans (Nat.add_le_add_right (a.load_remove_le id .disarmed) _) ha)
  | query id rest ih => exact ih ha
  | sweep now rest ih =>
    unfold Task.run
    rw [← hsame now a (by simp only [Task.alarms] at ha; omega)]
    exact ih (Nat.le_trans (Nat.add_le_add_right (hnested now a) _) ha)
  | sweepNow rest ih =>
    unfold Task.run
    rw [← hsame a.clock a (by simp only [Task.alarms] at ha; omega)]
    exact ih (Nat.le_trans (Nat.add_le_add_right (hnested a.clock a) _) ha)
  | moveClock m rest ih => exact ih ha
  | outside e rest ih => exact ih ha

namespace Agenda

private theorem load_goOff_all_le (hnested : ∀ now (a : Agenda ε σ), (nested now a).2.load ≤ a.load) (now : Millis)
    (due : List (Armed ε)) (a : Agenda ε σ) : (due.foldl (goOff s nested now) a).load ≤ a.load + burden due := by
  induction due generalizing a with
  | nil => exact Nat.le_refl _
  | cons p due ih =>
    have hgo : (a.goOff s nested now p).load ≤ a.load + p.task.alarms := p.task.load_run_le hnested p.owner _
    have hrest := ih (a.goOff s nested now p)
    rw [List.foldl_cons, burden_cons]
    omega

private theorem goOff_all_congr (bound : Nat)
    (hsame : ∀ now (a : Agenda ε σ), a.load ≤ bound → nested now a = nested' now a)
    (hnested : ∀ now (a : Agenda ε σ), (nested now a).2.load ≤ a.load) (now : Millis) (due : List (Armed ε))
    {a : Agenda ε σ} (ha : a.load + burden due ≤ bound) :
    due.foldl (goOff s nested now) a = due.foldl (goOff s nested' now) a := by
  induction due generalizing a with
  | nil => rfl
  | cons p due ih =>
    rw [burden_cons] at ha
    have hgo : a.goOff s nested now p = a.goOff s nested' now p :=
      p.task.run_congr bound hsame hnested p.owner (Nat.le_trans (by show a.load + _ ≤ _; omega) ha)
    have hload : (a.goOff s nested now p).load ≤ a.load + p.task.alarms := p.task.load_run_le hnested p.owner _
    rw [List.foldl_cons, List.foldl_cons, ← hgo]
    exact ih (by omega)

end Agenda

end

/-! ### Sweeps -/

namespace Agenda

/-- The agenda without the alarms due at `now`, in a sweep. -/
def lifted (now : Millis) (a : Agenda ε σ) : Agenda ε σ :=
  { a with pending := a.pending.filter (fun p => ¬ p.fireAt ≤ now), sweeps := a.sweeps + 1 }

/-- The alarms that go off in a sweep were pending and due. -/
theorem mem_order_due {s : Setting ε σ} {now : Millis} {a : Agenda ε σ} {p : Armed ε}
    (hp : p ∈ s.order a.sweeps (a.due now)) : p ∈ a.pending ∧ p.fireAt ≤ now := by
  have hdue := (s.order_perm a.sweeps (a.due now)).mem_iff.1 hp
  simpa [due] using hdue

/-- What the pending alarms cost is split between those that a sweep lifts and the others. -/
theorem totalOf_lifted (price : Armed ε → Nat) (now : Millis) (a : Agenda ε σ) :
    totalOf price (a.lifted now).pending + totalOf price (a.due now) = totalOf price a.pending := by
  rw [← totalOf_filter_add price (fun p => p.fireAt ≤ now) a.pending, Nat.add_comm]
  simp only [lifted, due, ← decide_not]

variable (s : Setting ε σ)

/-- The load that is left when the due alarms are off the agenda, together with what their tasks can arm. -/
theorem load_lifted_burden (now : Millis) (a : Agenda ε σ) :
    (a.lifted now).load + burden (s.order a.sweeps (a.due now)) + (a.due now).length = a.load := by
  have hperm := s.order_perm a.sweeps (a.due now)
  have hload : (a.lifted now).load + weight (a.due now) = a.load := by
    rw [load_eq, load_eq]
    exact a.totalOf_lifted _ now
  have hburden : burden (s.order a.sweeps (a.due now)) = burden (a.due now) := totalOf_perm _ hperm
  rw [weight_eq] at hload
  omega

theorem load_sweepWithin_le (depth : Nat) (now : Millis) (a : Agenda ε σ) :
    (a.sweepWithin s depth now).2.load ≤ a.load := by
  induction depth generalizing now a with
  | zero => exact Nat.le_refl _
  | succ depth ih =>
    have hgo := load_goOff_all_le (s := s) ih now (s.order a.sweeps (a.due now)) (a.lifted now)
    have hload := a.load_lifted_burden s now
    show (List.foldl _ (a.lifted now) _).load ≤ _
    omega

/-- The tasks of due alarms only sweep agendas that have less load than the one that is swept. -/
private theorem setOff_congr {nested nested' : Millis → Agenda ε σ → Nat × Agenda ε σ} (now : Millis) (a : Agenda ε σ)
    (hsame : ∀ now (b : Agenda ε σ), b.load < a.load → nested now b = nested' now b)
    (hnested : ∀ now (b : Agenda ε σ), (nested now b).2.load ≤ b.load) :
    (s.order a.sweeps (a.due now)).foldl (goOff s nested now) (a.lifted now) =
      (s.order a.sweeps (a.due now)).foldl (goOff s nested' now) (a.lifted now) := by
  have hperm := s.order_perm a.sweeps (a.due now)
  have hload := a.load_lifted_burden s now
  cases hdue : a.due now with
  | nil =>
    rw [hdue] at hperm
    rw [hperm.eq_nil]
    rfl
  | cons p due =>
    rw [← hdue]
    have hlength : 0 < (a.due now).length := by simp [hdue]
    refine goOff_all_congr (a.load - 1) ?_ hnested now _ (by omega)
    exact fun now b hb => hsame now b (by omega)

/-- A depth above the load is as good as any other. -/
theorem sweepWithin_eq {depth depth' : Nat} (now : Millis) {a : Agenda ε σ} (h : a.load < depth)
    (h' : a.load < depth') : a.sweepWithin s depth now = a.sweepWithin s depth' now := by
  induction depth generalizing depth' now a with
  | zero => omega
  | succ depth ih =>
    obtain ⟨depth', rfl⟩ : ∃ n, depth' = n + 1 := ⟨depth' - 1, by omega⟩
    have hless : ∀ now (b : Agenda ε σ), b.load < a.load → sweepWithin s depth now b = sweepWithin s depth' now b :=
      fun now b hb => ih now (by omega) (by omega)
    have hsetOff := setOff_congr s now a hless (load_sweepWithin_le s depth)
    show (_, List.foldl _ (a.lifted now) _) = (_, List.foldl _ (a.lifted now) _)
    rw [hsetOff]

/-- **Nested sweeps end.** A sweep takes the due alarms off the agenda and sets them off one after the other, and
the sweeps that their tasks make are sweeps of the same kind. -/
theorem sweep_eq (now : Millis) (a : Agenda ε σ) :
    a.sweep s now = ((a.due now).length,
      (s.order a.sweeps (a.due now)).foldl (goOff s (sweep s) now) (a.lifted now)) := by
  have hless : ∀ now (b : Agenda ε σ), b.load < a.load → sweepWithin s a.load now b = sweep s now b :=
    fun now b hb => sweepWithin_eq s now hb (Nat.lt_succ_self _)
  have hsetOff := setOff_congr s now a hless (load_sweepWithin_le s a.load)
  rw [← hsetOff, ← (s.order_perm a.sweeps (a.due now)).length_eq]
  rfl

end Agenda

end Coordination.Alarm
