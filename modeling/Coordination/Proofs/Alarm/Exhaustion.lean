import Coordination.Proofs.Alarm.Nesting
import Coordination.Proofs.Alarm.Books

/-!
# Sweeps come to an end

A sweep is done action by action here, without any bound on its depth: what is left to do is kept on a stack, the
innermost sweep on top (`Labour.step`). Every step has a price, which is paid out of what the alarms hold: the pending
ones, those that are lifted and not yet set off, and those that tasks under way can still arm (`Labour.price`). Arming
only moves alarms from a task to the agenda, and to replace or disarm one gives its price away; so the price falls at
every step, by one for each alarm that goes off and by `k` for the step itself (`Labour.pays_step`).

Hence there is no endless sweep, the labour ends in what `Agenda.sweep` says (`Labour.sweeps`), and no more alarms go
off than the agenda held (`Agenda.sweep_exhausts`). -/

namespace Coordination.Alarm

variable {ε σ : Type}

/-! ### A sweep, step by step -/

/-- Work that is under way, or waits for the work on top of it. -/
inductive Chore (ε : Type) where
  /-- The rest of the task of an alarm of `owner`. -/
  | task (owner : ProcessId) (rest : Task ε)
  /-- The alarms that a sweep at `now` has lifted and not yet set off. -/
  | setOff (now : Millis) (alarms : List (Armed ε))
  /-- The task of `owner` is told how many alarms its sweep has set off. -/
  | tell (owner : ProcessId) (count : Nat)

/-- An agenda in the middle of a sweep, and the work that is left. -/
structure Labour (ε σ : Type) where
  agenda : Agenda ε σ
  chores : List (Chore ε)

namespace Labour

variable (s : Setting ε σ)

/-- A sweep begins on top of other work: the due alarms are lifted. -/
def begin (now : Millis) (a : Agenda ε σ) (below : List (Chore ε)) : Labour ε σ :=
  ⟨a.lifted now, .setOff now (s.order a.sweeps (a.due now)) :: below⟩

/-- Does the next thing; there is none if no work is left. -/
def step : Labour ε σ → Labour ε σ
  | ⟨a, []⟩ => ⟨a, []⟩
  | ⟨a, .setOff _ [] :: below⟩ => ⟨a, below⟩
  | ⟨a, .setOff now (p :: alarms) :: below⟩ =>
    ⟨a.record (.fired p.ticket p.owner p.fireAt now), .task p.owner p.task :: .setOff now alarms :: below⟩
  | ⟨a, .tell owner count :: below⟩ => ⟨a.record (.told (.swept owner count)), below⟩
  | ⟨a, .task _ .done :: below⟩ => ⟨a, below⟩
  | ⟨a, .task owner .collapse :: below⟩ => ⟨a.record (.collapsed owner), below⟩
  | ⟨a, .task owner (.ring rest) :: below⟩ => ⟨a.record (.told (.rang owner)), .task owner rest :: below⟩
  | ⟨a, .task owner (.armAt id fireAt task rest) :: below⟩ => ⟨a.armAt id fireAt task, .task owner rest :: below⟩
  | ⟨a, .task owner (.armAfter id delay task rest) :: below⟩ => ⟨a.armAfter id delay task, .task owner rest :: below⟩
  | ⟨a, .task owner (.disarm id rest) :: below⟩ =>
    ⟨(a.disarm id).2.record (.told (.disarmed owner id (a.disarm id).1)), .task owner rest :: below⟩
  | ⟨a, .task owner (.query id rest) :: below⟩ =>
    ⟨a.record (.told (.pending owner id (a.isPending id))), .task owner rest :: below⟩
  | ⟨a, .task owner (.sweep now rest) :: below⟩ =>
    begin s now a (.tell owner (a.due now).length :: .task owner rest :: below)
  | ⟨a, .task owner (.sweepNow rest) :: below⟩ =>
    begin s a.clock a (.tell owner (a.due a.clock).length :: .task owner rest :: below)
  | ⟨a, .task owner (.moveClock m rest) :: below⟩ => ⟨a.moveClock m, .task owner rest :: below⟩
  | ⟨a, .task owner (.outside e rest) :: below⟩ =>
    ⟨{ a with outside := s.act e a.clock a.outside }, .task owner rest :: below⟩

/-- So many steps lead from one labour to another; work is left before each of them. -/
inductive Steps : Nat → Labour ε σ → Labour ε σ → Prop where
  | refl (l : Labour ε σ) : Steps 0 l l
  | step {n : Nat} {l l' : Labour ε σ} (hbusy : l.chores ≠ []) (hrest : Steps n (l.step s) l') : Steps (n + 1) l l'

end Labour

/-! ### The price of the work -/

/-- What it takes to run a task: each step costs `k`, and each alarm that it arms may go off at the price of one. -/
def Task.price (k : Nat) : Task ε → Nat
  | .done => k
  | .collapse => k
  | .ring rest => k + rest.price k
  | .armAt _ _ task rest => k + (1 + k + task.price k) + rest.price k
  | .armAfter _ _ task rest => k + (1 + k + task.price k) + rest.price k
  | .disarm _ rest => k + rest.price k
  | .query _ rest => k + rest.price k
  | .sweep _ rest => k + (k + k) + rest.price k
  | .sweepNow rest => k + (k + k) + rest.price k
  | .moveClock _ rest => k + rest.price k
  | .outside _ rest => k + rest.price k

/-- What it takes to set an alarm off and to run its task. -/
def Armed.price (k : Nat) (p : Armed ε) : Nat := 1 + k + p.task.price k

/-- What it takes to set off all alarms of a list. -/
def priceOf (k : Nat) (alarms : List (Armed ε)) : Nat := totalOf (Armed.price k) alarms

def Chore.price (k : Nat) : Chore ε → Nat
  | .task _ rest => rest.price k
  | .setOff _ alarms => k + priceOf k alarms
  | .tell _ _ => k

/-- What the agenda holds, and what is still to be done. -/
def Labour.price (k : Nat) (l : Labour ε σ) : Nat := priceOf k l.agenda.pending + totalOf (Chore.price k) l.chores

private theorem Task.price_zero (task : Task ε) : task.price 0 = task.alarms := by
  induction task with
  | done => rfl
  | collapse => rfl
  | armAt id fireAt task rest ih ih' => simp only [price, alarms, ih, ih']; omega
  | armAfter id delay task rest ih ih' => simp only [price, alarms, ih, ih']; omega
  | _ => simp_all [price, alarms]

/-- Without a price for the steps, the price of an agenda is the number of alarms that it holds. -/
private theorem priceOf_zero (alarms : List (Armed ε)) : priceOf 0 alarms = weight alarms := by
  have hprice : (Armed.price 0 : Armed ε → Nat) = fun p => 1 + p.task.alarms := by
    funext p
    rw [Armed.price, Task.price_zero]
  rw [priceOf, hprice, weight]

/-- The price of an agenda is split between the alarms that a sweep lifts and the others. -/
private theorem priceOf_lifted (s : Setting ε σ) (k : Nat) (now : Millis) (a : Agenda ε σ) :
    priceOf k (a.lifted now).pending + priceOf k (s.order a.sweeps (a.due now)) = priceOf k a.pending := by
  have hperm : priceOf k (s.order a.sweeps (a.due now)) = priceOf k (a.due now) :=
    totalOf_perm (Armed.price k) (s.order_perm a.sweeps (a.due now))
  rw [hperm]
  exact a.totalOf_lifted (Armed.price k) now

private theorem priceOf_remove_le (k : Nat) (id : ProcessId) (fate : Nat → Entry) (a : Agenda ε σ) :
    priceOf k (a.remove id fate).pending ≤ priceOf k a.pending := by
  rw [Agenda.pending_remove]
  exact totalOf_filter_le ..

private theorem priceOf_armAt_le (k : Nat) (id : ProcessId) (fireAt : Millis) (task : Task ε) (a : Agenda ε σ) :
    priceOf k (a.armAt id fireAt task).pending ≤ priceOf k a.pending + (1 + k + task.price k) := by
  rw [Agenda.pending_armAt, priceOf, totalOf_append]
  exact Nat.add_le_add (totalOf_filter_le ..) (by simp [Armed.price])

/-! ### Every step pays -/

/-- From one agenda to another the history goes on, and tells of so many alarms that go off. -/
def Agenda.Fires (count : Nat) (a b : Agenda ε σ) : Prop :=
  ∃ told, b.history = a.history ++ told ∧ (told.filterMap Entry.fired?).length = count

namespace Agenda.Fires

variable {m n : Nat} {a b c : Agenda ε σ}

private theorem of_eq (h : b.history = a.history) : Fires 0 a b := ⟨[], by rw [h, List.append_nil], rfl⟩

private theorem trans (h : Fires m a b) (h' : Fires n b c) : Fires (m + n) a c := by
  obtain ⟨told, hhistory, hcount⟩ := h
  obtain ⟨told', hhistory', hcount'⟩ := h'
  refine ⟨told ++ told', by rw [hhistory', hhistory, List.append_assoc], ?_⟩
  rw [List.filterMap_append, List.length_append, hcount, hcount']

private theorem record (h : Fires n a b) {e : Entry} (hfired : e.fired? = none) : Fires n a (b.record e) :=
  h.trans (n := 0) ⟨[e], rfl, by simp [hfired]⟩

private theorem fire (p : Armed ε) (now : Millis) (a : Agenda ε σ) :
    Fires 1 a (a.record (.fired p.ticket p.owner p.fireAt now)) := ⟨[_], rfl, rfl⟩

private theorem remove (id : ProcessId) {fate : Nat → Entry} (hfate : ∀ ticket, (fate ticket).fired? = none)
    (a : Agenda ε σ) : Fires 0 a (a.remove id fate) := by
  unfold Agenda.remove
  split
  · exact (of_eq (b := { a with pending := _ }) rfl).record (hfate _)
  · exact of_eq rfl

private theorem armAt (id : ProcessId) (fireAt : Millis) (task : Task ε) (a : Agenda ε σ) :
    Fires 0 a (a.armAt id fireAt task) :=
  ((of_eq (b := a) rfl).record rfl).trans (remove id (fun _ => rfl) (a.record (.armed a.armings id fireAt)))

end Agenda.Fires

namespace Labour

variable {s : Setting ε σ} {k : Nat}

/-- What the work below costs does not matter, if a chore gives way to others and the agenda changes. -/
private theorem price_le_of {fired : Nat} {a b : Agenda ε σ} {chore : Chore ε} {below : List (Chore ε)}
    (chores : List (Chore ε))
    (h : fired + priceOf k b.pending + totalOf (Chore.price k) chores + k ≤ priceOf k a.pending + chore.price k) :
    fired + (⟨b, chores ++ below⟩ : Labour ε σ).price k + k ≤ (⟨a, chore :: below⟩ : Labour ε σ).price k := by
  simp only [price, totalOf_append, totalOf_cons]
  omega

/-- To begin a sweep costs nothing but its own end. -/
private theorem price_begin (now : Millis) (a : Agenda ε σ) (below : List (Chore ε)) :
    (begin s now a below).price k = k + (⟨a, below⟩ : Labour ε σ).price k := by
  have hlifted := priceOf_lifted s k now a
  simp only [begin, price, totalOf_cons, Chore.price]
  omega

/-- A task pays for the sweep that it begins, and for being told of it. -/
private theorem price_begin_le {task rest : Task ε} (htask : task.price k = k + (k + k) + rest.price k) (now : Millis)
    (a : Agenda ε σ) (owner : ProcessId) (count : Nat) (below : List (Chore ε)) :
    0 + (begin s now a (.tell owner count :: .task owner rest :: below)).price k + k ≤
      (⟨a, .task owner task :: below⟩ : Labour ε σ).price k := by
  rw [price_begin]
  simp only [price, totalOf_cons, Chore.price, htask]
  omega

/-- A task costs no less than its rest, if the step to it costs nothing but itself. -/
private theorem price_rest_le {b a : Agenda ε σ} {task rest : Task ε} {spare : Nat} (owner : ProcessId)
    (below : List (Chore ε)) (htask : task.price k = k + spare + rest.price k)
    (hpending : priceOf k b.pending ≤ priceOf k a.pending + spare) :
    0 + (⟨b, .task owner rest :: below⟩ : Labour ε σ).price k + k ≤
      (⟨a, .task owner task :: below⟩ : Labour ε σ).price k := by
  simp only [price, totalOf_cons, Chore.price, htask]
  omega

/-- The price of the work falls with every step, by `k` and by one for each alarm that goes off. -/
theorem pays_step (k : Nat) {l : Labour ε σ} (hbusy : l.chores ≠ []) :
    ∃ fired, l.agenda.Fires fired (l.step s).agenda ∧ fired + (l.step s).price k + k ≤ l.price k := by
  obtain ⟨a, _ | ⟨chore, below⟩⟩ := l
  · exact absurd rfl hbusy
  have hstay : ∀ {a b : Agenda ε σ}, b.pending = a.pending → priceOf k b.pending ≤ priceOf k a.pending + 0 :=
    fun h => Nat.le_of_eq (congrArg (priceOf k) h)
  have hremove : ∀ id, priceOf k (a.disarm id).2.pending ≤ priceOf k a.pending + 0 :=
    fun id => priceOf_remove_le k id .disarmed a
  cases chore with
  | tell owner count => exact ⟨0, .record (.of_eq rfl) rfl, price_le_of [] (by simp [Chore.price])⟩
  | setOff now alarms =>
    cases alarms with
    | nil => exact ⟨0, .of_eq rfl, price_le_of [] (by simp [Chore.price])⟩
    | cons p alarms =>
      refine ⟨1, .fire p now a, price_le_of [.task p.owner p.task, .setOff now alarms] ?_⟩
      simp only [Chore.price, priceOf, totalOf_cons, totalOf_nil, Armed.price, Agenda.pending_record]
      omega
  | task owner task =>
    cases task with
    | done => exact ⟨0, .of_eq rfl, price_le_of [] (by simp [Chore.price, Task.price])⟩
    | collapse =>
      exact ⟨0, .record (.of_eq rfl) rfl, price_le_of [] (by simp [Chore.price, Task.price])⟩
    | ring rest => exact ⟨0, .record (.of_eq rfl) rfl, price_rest_le owner below rfl (hstay rfl)⟩
    | armAt id fireAt task rest =>
      exact ⟨0, .armAt id fireAt task a, price_rest_le owner below rfl (priceOf_armAt_le k id fireAt task a)⟩
    | armAfter id delay task rest =>
      exact ⟨0, .armAt id _ task a, price_rest_le owner below rfl (priceOf_armAt_le k id _ task a)⟩
    | disarm id rest =>
      exact ⟨0, .record (.remove id (fun _ => rfl) a) rfl, price_rest_le owner below rfl (hremove id)⟩
    | query id rest => exact ⟨0, .record (.of_eq rfl) rfl, price_rest_le owner below rfl (hstay rfl)⟩
    | sweep now rest => exact ⟨0, .of_eq rfl, price_begin_le rfl now a owner _ below⟩
    | sweepNow rest => exact ⟨0, .of_eq rfl, price_begin_le rfl a.clock a owner _ below⟩
    | moveClock m rest => exact ⟨0, .of_eq rfl, price_rest_le owner below rfl (hstay rfl)⟩
    | outside e rest => exact ⟨0, .of_eq rfl, price_rest_le owner below rfl (hstay rfl)⟩

private theorem Steps.pays (k : Nat) {n : Nat} {l l' : Labour ε σ} (h : Steps s n l l') :
    ∃ fired, l.agenda.Fires fired l'.agenda ∧ fired + l'.price k + n * k ≤ l.price k := by
  induction h with
  | refl l => exact ⟨0, .of_eq rfl, by omega⟩
  | @step n l l' hbusy _ ih =>
    obtain ⟨fired, hfires, hprice⟩ := pays_step (s := s) k hbusy
    obtain ⟨fired', hfires', hprice'⟩ := ih
    refine ⟨fired + fired', hfires.trans hfires', ?_⟩
    rw [Nat.succ_mul]
    omega

private theorem Steps.trans {m n : Nat} {l l' l'' : Labour ε σ} (h : Steps s m l l') (h' : Steps s n l' l'') :
    Steps s (m + n) l l'' := by
  induction h with
  | refl l => rwa [Nat.zero_add]
  | @step m l l' hbusy _ ih =>
    rw [Nat.succ_add]
    exact .step hbusy (ih h')

/-! ### Where the steps lead -/

/-- Some number of steps leads from the one to the other. -/
def Leads (s : Setting ε σ) (l l' : Labour ε σ) : Prop := ∃ n, Steps s n l l'

private theorem Leads.refl (l : Labour ε σ) : Leads s l l := ⟨0, .refl l⟩

private theorem Leads.trans {l l' l'' : Labour ε σ} (h : Leads s l l') (h' : Leads s l' l'') : Leads s l l'' := by
  obtain ⟨m, h⟩ := h
  obtain ⟨n, h'⟩ := h'
  exact ⟨m + n, h.trans h'⟩

private theorem Leads.step {a : Agenda ε σ} {chore : Chore ε} {below : List (Chore ε)} {l : Labour ε σ}
    (h : Leads s ((⟨a, chore :: below⟩ : Labour ε σ).step s) l) : Leads s ⟨a, chore :: below⟩ l := by
  obtain ⟨n, h⟩ := h
  exact ⟨n + 1, .step (List.cons_ne_nil chore below) h⟩

/-- There is one way to go on, so whoever is on the way to the end gets there. -/
private theorem Steps.leads {m n : Nat} {l l' l'' : Labour ε σ} (h : Steps s m l l') (hend : Steps s n l l'')
    (hdone : l''.chores = []) : Leads s l' l'' := by
  induction h generalizing n with
  | refl l => exact ⟨n, hend⟩
  | step hbusy _ ih =>
    cases hend with
    | refl => exact absurd hdone hbusy
    | step _ hrest => exact ih hrest

/-- A task comes to its end, if the sweeps do that can be nested in it. -/
private theorem leads_task (bound : Nat) (hsweep : ∀ now (b : Agenda ε σ) below, b.load ≤ bound →
      Leads s (begin s now b below) ⟨(b.sweep s now).2, below⟩) (owner : ProcessId) (task : Task ε) {a : Agenda ε σ}
    (ha : a.load + task.alarms ≤ bound) (below : List (Chore ε)) :
    Leads s ⟨a, .task owner task :: below⟩ ⟨task.run s (Agenda.sweep s) owner a, below⟩ := by
  have hnested : ∀ now (b : Agenda ε σ) rest, b.load + rest.alarms ≤ bound →
      (∀ {c : Agenda ε σ}, c.load + rest.alarms ≤ bound →
        Leads s ⟨c, .task owner rest :: below⟩ ⟨rest.run s (Agenda.sweep s) owner c, below⟩) →
      Leads s (begin s now b (.tell owner (b.due now).length :: .task owner rest :: below))
        ⟨rest.run s (Agenda.sweep s) owner ((b.sweep s now).2.record (.told (.swept owner (b.sweep s now).1))),
          below⟩ := by
    intro now b rest hb hrest
    have hload : (b.sweep s now).2.load ≤ b.load := Agenda.load_sweepWithin_le s _ now b
    have hcount : (b.sweep s now).1 = (b.due now).length := congrArg Prod.fst (b.sweep_eq s now)
    rw [hcount]
    refine (hsweep now b _ (by omega)).trans (.step (hrest ?_))
    show (b.sweep s now).2.load + rest.alarms ≤ bound
    omega
  induction task generalizing a with
  | done => exact .step (.refl _)
  | collapse => exact .step (.refl _)
  | ring rest ih => exact .step (ih ha)
  | armAt id fireAt task rest _ ih =>
    have harm := a.load_armAt_le id fireAt task
    refine .step (ih ?_)
    simp only [Task.alarms] at ha
    omega
  | armAfter id delay task rest _ ih =>
    have harm : (a.armAfter id delay task).load ≤ a.load + (1 + task.alarms) := a.load_armAt_le id _ task
    refine .step (ih ?_)
    simp only [Task.alarms] at ha
    omega
  | disarm id rest ih => exact .step (ih (Nat.le_trans (Nat.add_le_add_right (a.load_remove_le id .disarmed) _) ha))
  | query id rest ih => exact .step (ih ha)
  | sweep now rest ih => exact .step (hnested now a rest ha ih)
  | sweepNow rest ih => exact .step (hnested a.clock a rest ha ih)
  | moveClock m rest ih => exact .step (ih ha)
  | outside e rest ih => exact .step (ih ha)

/-- The alarms that were lifted go off one after the other. -/
private theorem leads_setOff (bound : Nat) (hsweep : ∀ now (b : Agenda ε σ) below, b.load ≤ bound →
      Leads s (begin s now b below) ⟨(b.sweep s now).2, below⟩) (now : Millis) (alarms : List (Armed ε))
    {a : Agenda ε σ} (ha : a.load + burden alarms ≤ bound) (below : List (Chore ε)) :
    Leads s ⟨a, .setOff now alarms :: below⟩ ⟨alarms.foldl (Agenda.goOff s (Agenda.sweep s) now) a, below⟩ := by
  induction alarms generalizing a with
  | nil => exact .step (.refl _)
  | cons p alarms ih =>
    rw [burden_cons] at ha
    have hload : (a.goOff s (Agenda.sweep s) now p).load ≤ a.load + p.task.alarms :=
      p.task.load_run_le (fun now b => Agenda.load_sweepWithin_le s _ now b) p.owner _
    have htask : (a.record (.fired p.ticket p.owner p.fireAt now)).load + p.task.alarms ≤ bound := by
      show a.load + p.task.alarms ≤ bound
      omega
    have hrest : Leads s ⟨a.goOff s (Agenda.sweep s) now p, .setOff now alarms :: below⟩
        ⟨alarms.foldl (Agenda.goOff s (Agenda.sweep s) now) (a.goOff s (Agenda.sweep s) now p), below⟩ := ih (by omega)
    exact .step ((leads_task bound hsweep p.owner p.task htask _).trans hrest)

/-- **A sweep comes to its end**, and leaves the agenda as it is said to. -/
theorem sweeps (now : Millis) (a : Agenda ε σ) (below : List (Chore ε)) :
    Leads s (begin s now a below) ⟨(a.sweep s now).2, below⟩ := by
  -- the sweeps nested in this one find less on the agenda
  induction hload : a.load using Nat.strongRecOn generalizing now a below with
  | ind load ih =>
    have hburden := a.load_lifted_burden s now
    have hlength := (s.order_perm a.sweeps (a.due now)).length_eq
    rw [a.sweep_eq s now, begin]
    cases hdue : s.order a.sweeps (a.due now) with
    | nil => exact .step (.refl _)
    | cons p alarms =>
      rw [hdue] at hburden hlength
      rw [List.length_cons] at hlength
      refine leads_setOff (a.load - 1) ?_ now (p :: alarms) (by omega) below
      exact fun now b below hb => ih b.load (by omega) now b below rfl

end Labour

/-- **A sweep exhausts what the agenda holds.** Whatever the tasks do (arm alarms that are due at once, replace or
disarm others, move the clock, sweep again, break off), the labour of a sweep has no endless run: the number of its
steps is bounded by the actions of the pending alarms. However far it has got, the alarms that have gone off, in nested
sweeps too, and those that are still held, together, are no more than the agenda held when the sweep began, and the
labour leads on to the agenda that the sweep is said to leave. -/
theorem Agenda.sweep_exhausts (s : Setting ε σ) (now : Millis) (a : Agenda ε σ) :
    (∀ n l, Labour.Steps s n (.begin s now a []) l →
      n ≤ 1 + priceOf 1 a.pending ∧ (∃ fired, a.Fires fired l.agenda ∧ fired + l.price 0 ≤ a.load) ∧
        Labour.Leads s l ⟨(a.sweep s now).2, []⟩) ∧
      ∃ fired, a.Fires fired (a.sweep s now).2 ∧ fired + (a.sweep s now).2.load ≤ a.load := by
  have hbegun : ∀ k, (Labour.begin s now a []).price k = k + priceOf k a.pending := fun k => Labour.price_begin now a []
  -- up to here no alarm has gone off: to lift alarms is not told
  have hpays : ∀ {n l}, Labour.Steps s n (.begin s now a []) l →
      ∃ fired, a.Fires fired l.agenda ∧ fired + l.price 0 ≤ a.load := by
    intro n l h
    obtain ⟨fired, hfires, hprice⟩ := h.pays 0
    rw [hbegun, priceOf_zero, ← Agenda.load_eq] at hprice
    exact ⟨fired, hfires, by omega⟩
  obtain ⟨m, hend⟩ := Labour.sweeps (s := s) now a []
  refine ⟨fun n l h => ⟨?_, hpays h, h.leads hend rfl⟩, ?_⟩
  · obtain ⟨fired, -, hprice⟩ := h.pays 1
    rw [hbegun] at hprice
    omega
  · obtain ⟨fired, hfires, hprice⟩ := hpays hend
    refine ⟨fired, hfires, ?_⟩
    rwa [Labour.price, priceOf_zero, totalOf_nil, Nat.add_zero, ← Agenda.load_eq] at hprice

/-- An alarm arms itself anew, due at once, and sweeps again; the second time it arms another one for later. -/
example :
    let a : Agenda Unit Unit := (Agenda.opened 0 ()).armAt ⟨"a"⟩ 5 (.armAt ⟨"a"⟩ 0 (.armAt ⟨"b"⟩ 9 .done .done)
      (.sweep 7 .done))
    let swept := (a.sweep (.inOrder fun _ _ x => x) 5).2
    (a.load, swept.history.filterMap Entry.fired?, swept.load) = (3, [0, 1], 1) := by
  decide +kernel

end Coordination.Alarm
