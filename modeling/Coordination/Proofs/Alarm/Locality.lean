import Coordination.Table
import Coordination.Proofs.Alarm.Strikes

/-!
# Alarms that mind their own process

The alarms of a sweep go off in any order. If their tasks do nothing but arm, disarm and ask for their own process, the
order makes no difference: every process is left with the same alarm, and has the same log.

What an agenda holds of one process is a cell. Such a task is `Local`: what it makes of the cell of its own process
depends on this cell alone, and it leaves all other cells as they are. So two of them commute if they are of different
processes (`Agenda.goOff_comm`), and since no process has two alarms, all orders of a sweep lead to the same cells
(`Agenda.goOff_all_perm`).
-/

namespace Coordination.Alarm

variable {ε σ : Type}

/-! ### Cells -/

def Report.owner : Report → ProcessId
  | .rang owner => owner
  | .disarmed owner _ _ => owner
  | .pending owner _ _ => owner
  | .swept owner _ => owner

/-- The process that an entry is about; a fate is told of a ticket only. -/
def Entry.owner? : Entry → Option ProcessId
  | .armed _ owner _ => some owner
  | .fired _ owner _ _ => some owner
  | .collapsed owner => some owner
  | .told report => some report.owner
  | .replaced _ => none
  | .disarmed _ => none

/-- What can be seen of an entry. -/
def Entry.seen (e : Entry) : Option LogLine × Option Report := (e.line?, e.report?)

/-- What concerns one process: its alarm, if it has one, and its log, with the reading of the clock. -/
structure Cell (ε : Type) where
  clock : Millis
  alarm : Option (Millis × Task ε)
  log : List (Option LogLine × Option Report)

namespace Agenda

/-- The pending alarms by process, without their tickets. -/
def alarms (a : Agenda ε σ) : Table ProcessId (Millis × Task ε) := a.pending.map fun p => (p.owner, p.fireAt, p.task)

/-- What can be seen of the entries about a process. -/
def logOf (id : ProcessId) (a : Agenda ε σ) : List (Option LogLine × Option Report) :=
  (a.history.filter fun e => e.owner? = some id).map Entry.seen

def cell (id : ProcessId) (a : Agenda ε σ) : Cell ε := ⟨a.clock, a.alarms.find? id, a.logOf id⟩

private theorem keys_alarms (a : Agenda ε σ) : a.alarms.keys = a.pending.map Armed.owner := List.map_map

private theorem isPending_eq (id : ProcessId) (a : Agenda ε σ) : a.isPending id = (a.alarms.find? id).isSome := by
  unfold isPending find? alarms Table.find?
  rw [List.find?_map, Option.isSome_map, Option.isSome_map]
  rfl

private theorem alarms_remove (id : ProcessId) (fate : Nat → Entry) (a : Agenda ε σ) :
    (a.remove id fate).alarms = a.alarms.erase id := by
  unfold alarms Table.erase
  rw [pending_remove, List.filter_map]
  rfl

private theorem alarms_armAt (id : ProcessId) (fireAt : Millis) (task : Task ε) (a : Agenda ε σ) :
    (a.armAt id fireAt task).alarms = a.alarms.insert id (fireAt, task) := by
  unfold alarms Table.insert Table.erase
  rw [pending_armAt, List.map_append, List.filter_map]
  rfl

private theorem logOf_record {owner : ProcessId} {e : Entry} (howner : e.owner? = some owner) (id : ProcessId)
    (a : Agenda ε σ) : (a.record e).logOf id = a.logOf id ++ if id = owner then [e.seen] else [] := by
  unfold logOf
  rw [history_record, List.filter_append, List.map_append]
  by_cases hid : id = owner
  · simp [hid, howner]
  · have hother : ¬ owner = id := fun h => hid h.symm
    simp [hid, hother, howner]

/-- Nothing can be seen of the fate of an alarm that is taken off the list. -/
private theorem logOf_remove (id id' : ProcessId) {fate : Nat → Entry} (hfate : ∀ ticket, (fate ticket).owner? = none)
    (a : Agenda ε σ) : (a.remove id fate).logOf id' = a.logOf id' := by
  unfold remove
  split
  · simp [logOf, hfate]
  · rfl

private theorem logOf_armAt (id id' : ProcessId) (fireAt : Millis) (task : Task ε) (a : Agenda ε σ) :
    (a.armAt id fireAt task).logOf id' =
      a.logOf id' ++ if id' = id then [(Entry.armed 0 id fireAt).seen] else [] :=
  (logOf_remove id id' (fun _ => rfl) (a.record (.armed a.armings id fireAt))).trans (logOf_record rfl id' a)

end Agenda

/-! ### Local changes -/

/-- A change of agendas that concerns the process `owner` only: its cell becomes what `f` makes of it, and the other
cells stay as they are. -/
def Local (owner : ProcessId) (change : Agenda ε σ → Agenda ε σ) (f : Cell ε → Cell ε) : Prop :=
  ∀ a id, (change a).cell id = if id = owner then f (a.cell id) else a.cell id

namespace Local

variable {owner : ProcessId} {change change' : Agenda ε σ → Agenda ε σ} {f f' : Cell ε → Cell ε}

private theorem comp (h' : Local owner change' f') (h : Local owner change f) :
    Local owner (change' ∘ change) (f' ∘ f) := by
  intro a id
  show (change' (change a)).cell id = _
  rw [h', h]
  by_cases hid : id = owner <;> simp [hid]

/-- A change that writes one entry about the process, and gives it another alarm or leaves it the one it has. -/
private theorem of_entry (alarm : Cell ε → Option (Millis × Task ε)) (entry : Cell ε → Entry)
    (hclock : ∀ a, (change a).clock = a.clock)
    (halarm : ∀ a id, (change a).alarms.find? id = if id = owner then alarm (a.cell id) else a.alarms.find? id)
    (hlog : ∀ a id, (change a).logOf id = a.logOf id ++ if id = owner then [(entry (a.cell id)).seen] else []) :
    Local owner change fun c => ⟨c.clock, alarm c, c.log ++ [(entry c).seen]⟩ := by
  intro a id
  unfold Agenda.cell at *
  rw [hclock, halarm, hlog]
  by_cases hid : id = owner <;> simp [hid]

/-- An entry about the process, in view of its alarm. -/
private theorem remark (σ : Type) (entry : Bool → Entry) (howner : ∀ found, (entry found).owner? = some owner) :
    ∃ f, Local owner (fun a : Agenda ε σ => a.record (entry (a.isPending owner))) f := by
  refine ⟨_, of_entry Cell.alarm (fun c => entry c.alarm.isSome) (fun _ => rfl) ?_ ?_⟩
  · intro a id
    exact (ite_self _).symm
  · intro a id
    rw [Agenda.logOf_record (howner _), Agenda.isPending_eq]
    by_cases hid : id = owner <;> simp [hid, Agenda.cell]

/-- Arms an alarm of the process for a time that the clock tells. -/
private theorem armAt (owner : ProcessId) (fireAt : Millis → Millis) (task : Task ε) :
    ∃ f, Local owner (fun a : Agenda ε σ => a.armAt owner (fireAt a.clock) task) f := by
  refine ⟨_, of_entry (fun c => some (fireAt c.clock, task)) (fun c => .armed 0 owner (fireAt c.clock))
    (fun a => a.clock_armAt ..) ?_ ?_⟩
  · intro a id
    exact (congrArg (Table.find? id) (a.alarms_armAt ..)).trans (Table.find?_insert ..)
  · intro a id
    exact a.logOf_armAt ..

private theorem disarm (owner : ProcessId) :
    ∃ f, Local owner (fun a : Agenda ε σ =>
      (a.disarm owner).2.record (.told (.disarmed owner owner (a.disarm owner).1))) f := by
  refine ⟨_, of_entry (fun _ => none) (fun c => .told (.disarmed owner owner c.alarm.isSome))
    (fun a => a.clock_remove ..) ?_ ?_⟩
  · intro a id
    exact (congrArg (Table.find? id) (a.alarms_remove owner .disarmed)).trans (Table.find?_erase ..)
  · intro a id
    have howner : (Entry.told (.disarmed owner owner (a.disarm owner).1)).owner? = some owner := rfl
    rw [Agenda.logOf_record howner]
    unfold Agenda.disarm
    rw [Agenda.logOf_remove owner id (fun _ => rfl), Agenda.isPending_eq]
    by_cases hid : id = owner <;> simp [hid, Agenda.cell]

end Local

/-! ### Tasks -/

/-- The task does nothing but arm, disarm and ask for the process whose alarm runs it. -/
def Task.MindsOwn (owner : ProcessId) : Task ε → Prop
  | .done => True
  | .collapse => True
  | .ring rest => rest.MindsOwn owner
  | .armAt id _ _ rest => id = owner ∧ rest.MindsOwn owner
  | .armAfter id _ _ rest => id = owner ∧ rest.MindsOwn owner
  | .disarm id rest => id = owner ∧ rest.MindsOwn owner
  | .query id rest => id = owner ∧ rest.MindsOwn owner
  | .sweep _ _ => False
  | .sweepNow _ => False
  | .moveClock _ _ => False
  | .outside _ _ => False

/-- What such a task makes of the cell of its process does not depend on the surroundings either. -/
private theorem Task.run_local (σ : Type) {owner : ProcessId} {task : Task ε} (h : task.MindsOwn owner) :
    ∃ f, ∀ (s : Setting ε σ) nested, Local owner (task.run s nested owner) f := by
  -- one action, and then the rest of the task
  have hstep : ∀ {change : Agenda ε σ → Agenda ε σ} {rest : Task ε}, (∃ f, Local owner change f) →
      (∃ f, ∀ (s : Setting ε σ) nested, Local owner (rest.run s nested owner) f) →
      ∃ f, ∀ (s : Setting ε σ) nested, Local owner (rest.run s nested owner ∘ change) f :=
    fun ⟨f, hchange⟩ ⟨f', hrest⟩ => ⟨f' ∘ f, fun s nested => (hrest s nested).comp hchange⟩
  induction task with
  | done => exact ⟨id, fun _ _ a i => (ite_self (a.cell i)).symm⟩
  | collapse =>
    obtain ⟨f, hf⟩ := Local.remark σ (fun _ => .collapsed owner) fun _ => rfl
    exact ⟨f, fun _ _ => hf⟩
  | ring rest ih => exact hstep (Local.remark σ (fun _ => .told (.rang owner)) fun _ => rfl) (ih h)
  | armAt id fireAt task rest _ ih =>
    obtain ⟨rfl, h⟩ := h
    exact hstep (Local.armAt id (fun _ => fireAt) task) (ih h)
  | armAfter id delay task rest _ ih =>
    obtain ⟨rfl, h⟩ := h
    exact hstep (Local.armAt id (fun clock => clock.after delay.toMillis) task) (ih h)
  | disarm id rest ih =>
    obtain ⟨rfl, h⟩ := h
    exact hstep (Local.disarm id) (ih h)
  | query id rest ih =>
    obtain ⟨rfl, h⟩ := h
    exact hstep (Local.remark σ (fun found => .told (.pending id id found)) fun _ => rfl) (ih h)
  | sweep now rest ih => exact h.elim
  | sweepNow rest ih => exact h.elim
  | moveClock m rest ih => exact h.elim
  | outside e rest ih => exact h.elim

namespace Agenda

/-- Every process has the same cell in both. -/
def Alike (a b : Agenda ε σ) : Prop := ∀ id, a.cell id = b.cell id

private theorem Alike.trans {a b c : Agenda ε σ} (hab : a.Alike b) (hbc : b.Alike c) : a.Alike c :=
  fun id => (hab id).trans (hbc id)

variable {s s' : Setting ε σ} {nested nested' : Millis → Agenda ε σ → Nat × Agenda ε σ} {now : Millis}
  {p q : Armed ε} {a b : Agenda ε σ}

private theorem goOff_local (σ : Type) (now : Millis) (h : p.task.MindsOwn p.owner) :
    ∃ f, ∀ (s : Setting ε σ) nested, Local p.owner (fun a => a.goOff s nested now p) f := by
  obtain ⟨f, hfire⟩ := Local.remark σ (fun _ => .fired p.ticket p.owner p.fireAt now) fun _ => rfl
  obtain ⟨f', hrun⟩ := Task.run_local σ h
  exact ⟨f' ∘ f, fun s nested => (hrun s nested).comp hfire⟩

private theorem goOff_alike (h : p.task.MindsOwn p.owner) (hab : a.Alike b) :
    (a.goOff s nested now p).Alike (b.goOff s' nested' now p) := by
  obtain ⟨f, hf⟩ := goOff_local σ now h
  intro id
  rw [hf s nested a id, hf s' nested' b id, hab id]

/-- Alarms of two processes can go off in either order. -/
theorem goOff_comm (hp : p.task.MindsOwn p.owner) (hq : q.task.MindsOwn q.owner) (hne : p.owner ≠ q.owner)
    (hab : a.Alike b) :
    ((a.goOff s nested now p).goOff s nested now q).Alike ((b.goOff s nested now q).goOff s nested now p) := by
  obtain ⟨f, hf⟩ := goOff_local σ now hp
  obtain ⟨g, hg⟩ := goOff_local σ now hq
  intro id
  rw [hg s nested _ id, hf s nested a id, hf s nested _ id, hg s nested b id, hab id]
  by_cases hid : id = p.owner
  · have hother : id ≠ q.owner := fun h => hne (hid.symm.trans h)
    simp only [if_pos hid, if_neg hother]
  · simp only [if_neg hid]

private theorem goOff_all_alike {due : List (Armed ε)} (hown : ∀ p ∈ due, p.task.MindsOwn p.owner) (hab : a.Alike b) :
    (due.foldl (goOff s nested now) a).Alike (due.foldl (goOff s' nested' now) b) := by
  induction due generalizing a b with
  | nil => exact hab
  | cons p due ih =>
    obtain ⟨hp, hown⟩ := List.forall_mem_cons.1 hown
    exact ih hown (goOff_alike hp hab)

/-- All orders lead to the same cells. -/
theorem goOff_all_perm {due due' : List (Armed ε)} (hperm : due.Perm due')
    (hown : ∀ p ∈ due, p.task.MindsOwn p.owner) (howners : (due.map Armed.owner).Nodup) (hab : a.Alike b) :
    (due.foldl (goOff s nested now) a).Alike (due'.foldl (goOff s nested now) b) := by
  induction hperm generalizing a b with
  | nil => exact hab
  | cons p _ ih =>
    obtain ⟨hp, hown⟩ := List.forall_mem_cons.1 hown
    exact ih hown (List.nodup_cons.1 howners).2 (goOff_alike hp hab)
  | swap p q due =>
    obtain ⟨hq, hown⟩ := List.forall_mem_cons.1 hown
    obtain ⟨hp, hown⟩ := List.forall_mem_cons.1 hown
    have hne : q.owner ≠ p.owner := by
      intro heq
      exact (List.nodup_cons.1 howners).1 (heq ▸ List.mem_cons_self ..)
    exact goOff_all_alike hown (goOff_comm hq hp hne hab)
  | @trans _ mid _ hfirst _ ih ih' =>
    have hown' : ∀ p ∈ mid, p.task.MindsOwn p.owner := fun p hp => hown p (hfirst.mem_iff.2 hp)
    have howners' := (hfirst.map Armed.owner).nodup_iff.1 howners
    exact (ih hown howners hab).trans (ih' hown' howners' fun _ => rfl)

/-- **The order of a sweep makes no difference to tasks that mind their own process.** Let no process have two pending
alarms, and let the tasks of the alarms due at `now` do nothing but arm, disarm and ask for their own process, and break
off at any point; what the alarms do that they arm is their own affair. Then for any two orders in which the due alarms
can go off, the sweep answers the same number and leaves the same alarms, by process, time and task, no two of one
process; and every process has the same log. -/
theorem sweep_any_order (s s' : Setting ε σ) (now : Millis) {a : Agenda ε σ}
    (howners : (a.pending.map Armed.owner).Nodup) (hown : ∀ p ∈ a.due now, p.task.MindsOwn p.owner) :
    let r := a.sweep s now
    let r' := a.sweep s' now
    r.1 = r'.1 ∧ r.2.alarms.Perm r'.2.alarms ∧ r.2.alarms.keys.Nodup ∧ ∀ id, r.2.logOf id = r'.2.logOf id := by
  intro r r'
  -- the lists of due alarms are two orders of one list
  have hperm : (s.order a.sweeps (a.due now)).Perm (s'.order a.sweeps (a.due now)) :=
    (s.order_perm ..).trans (s'.order_perm ..).symm
  have hown' : ∀ (s : Setting ε σ), ∀ p ∈ s.order a.sweeps (a.due now), p.task.MindsOwn p.owner :=
    fun s p hp => hown p ((s.order_perm ..).mem_iff.1 hp)
  have hdue : ((s.order a.sweeps (a.due now)).map Armed.owner).Nodup :=
    ((s.order_perm ..).map Armed.owner).nodup_iff.2 (howners.sublist (List.filter_sublist.map _))
  have halike : r.2.Alike r'.2 := by
    rw [show r = _ from a.sweep_eq s now, show r' = _ from a.sweep_eq s' now]
    exact (goOff_all_perm hperm (hown' s) hdue fun _ => rfl).trans (goOff_all_alike (hown' s') fun _ => rfl)
  have hcount : r.1 = r'.1 := by
    rw [show r = _ from a.sweep_eq s now, show r' = _ from a.sweep_eq s' now]
  have hkeys : ∀ s : Setting ε σ, (a.sweep s now).2.alarms.keys.Nodup := by
    intro s
    obtain ⟨told, htold⟩ := sweep_telling s now a
    rw [keys_alarms]
    exact htold.owners howners
  exact ⟨hcount, Table.perm_of_find?_eq (hkeys s) (hkeys s') fun id => congrArg Cell.alarm (halike id), hkeys s,
    fun id => congrArg Cell.log (halike id)⟩

end Agenda

/-- Two alarms are due at 10. Each arms another one of its process, and the second one breaks off. -/
def rota : Agenda Unit Unit :=
  ((Agenda.opened 0 ()).armAt ⟨"p"⟩ 10 (.armAfter ⟨"p"⟩ (.ofMillis 30) .done .done)
    |>.armAt ⟨"q"⟩ 10 (.armAt ⟨"q"⟩ 5 .done (.query ⟨"q"⟩ .collapse))).armAt ⟨"r"⟩ 20 .done

/-- First to last and last to first: the log of `q` is the same, but the whole histories are not. -/
theorem sweep_any_order_rota :
    (rota.pending.map Armed.owner).Nodup ∧ (∀ p ∈ rota.due 10, p.task.MindsOwn p.owner) ∧
      let r := rota.sweep (.inOrder fun _ _ x => x) 10
      let r' := rota.sweep ⟨fun _ _ x => x, fun _ due => due.reverse, fun _ => List.reverse_perm⟩ 10
      r.1 = r'.1 ∧ r.2.alarms.Perm r'.2.alarms ∧ r.2.logOf ⟨"q"⟩ = r'.2.logOf ⟨"q"⟩ ∧
        r.2.history.drop 3 =
          [.fired 0 ⟨"p"⟩ 10 10, .armed 3 ⟨"p"⟩ 30, .fired 1 ⟨"q"⟩ 10 10, .armed 4 ⟨"q"⟩ 5,
            .told (.pending ⟨"q"⟩ ⟨"q"⟩ true), .collapsed ⟨"q"⟩] ∧
        r'.2.history.drop 3 =
          [.fired 1 ⟨"q"⟩ 10 10, .armed 3 ⟨"q"⟩ 5, .told (.pending ⟨"q"⟩ ⟨"q"⟩ true), .collapsed ⟨"q"⟩,
            .fired 0 ⟨"p"⟩ 10 10, .armed 4 ⟨"p"⟩ 30] := by
  have howners : (rota.pending.map Armed.owner).Nodup := by decide
  have hown : ∀ p ∈ rota.due 10, p.task.MindsOwn p.owner := by
    rw [show rota.due 10 = rota.pending.take 2 from rfl]
    exact List.forall_mem_cons.2 ⟨⟨rfl, trivial⟩, List.forall_mem_singleton.2 ⟨rfl, rfl, trivial⟩⟩
  obtain ⟨hcount, halarms, -, hlogs⟩ := Agenda.sweep_any_order (.inOrder fun _ _ x => x)
    ⟨fun _ _ x => x, fun _ due => due.reverse, fun _ => List.reverse_perm⟩ 10 howners hown
  exact ⟨howners, hown, hcount, halarms, hlogs ⟨"q"⟩, by decide +kernel, by decide +kernel⟩

end Coordination.Alarm
