import Coordination.Saga.Notice
import Coordination.Workflow.Notice

/-!
# Observers and fan-outs

An observer of processes, or of sagas, has one method for each kind of notice. What it must do are its `Duties`; the
other methods do nothing unless an observer has its own. A fan-out is an observer as well: each of its methods calls the
same method of every member, in order, with the same arguments. So it hears a notice, of whatever kind, as its members
hear it one after the other (`Observing.hear_fanout`); if one of its methods were missing, the members, and all below
them, would miss the notices of that kind.

A tree of fan-outs (`Audience.observer`) is the same observer as a single fan-out over its leaves from left to right
(`Audience.observer_eq_fanout`). What the leaves of a tree hear of many notices is a list of deliveries
(`deliveries`): each notice goes once to each place of the tree, from left to right.
-/

namespace Coordination

/-- What every member does, one after the other. -/
def each {O σ : Type} (members : List O) (act : O → σ → σ) (s : σ) : σ := members.foldl (fun s o => act o s) s

theorem each_append {O σ : Type} (members members' : List O) (act : O → σ → σ) (s : σ) :
    each (members ++ members') act s = each members' act (each members act s) := List.foldl_append

private theorem each_map {A O σ : Type} (f : A → O) (members : List A) (act : O → σ → σ) (s : σ) :
    each (members.map f) act s = each members (fun a => act (f a)) s := List.foldl_map

theorem each_flatMap {A O σ : Type} (f : A → List O) (members : List A) (act : O → σ → σ) (s : σ) :
    each (members.flatMap f) act s = each members (fun a => each (f a) act) s := List.foldl_flatMap

/-- Observers hear notices and act on a state; they can be put together in a fan-out. -/
class Observing (O : Type) (ν σ : outParam Type) where
  hear : O → ν → σ → σ
  fanout : List O → O
  /-- A fan-out hears a notice as its members do, one after the other. -/
  hear_fanout (members : List O) (n : ν) (s : σ) : hear (fanout members) n s = each members (fun o => hear o n) s
  /-- An observer is what it makes of the notices. -/
  eq_of_hear {o o' : O} (h : ∀ n s, hear o n s = hear o' n s) : o = o'

open Observing

/-! ### Observers of processes -/

namespace Workflow

/-- What an observer of processes must do. -/
structure Duties (σ : Type) where
  started (id : ProcessId) (name : String) : σ → σ
  completed (id : ProcessId) : σ → σ
  failed (id : ProcessId) (error : Option String) : σ → σ
  timedOut (id : ProcessId) : σ → σ

structure Observer (S σ : Type) extends Duties σ where
  moved (id : ProcessId) (source target : S) : σ → σ := fun s => s

variable {S σ : Type}

/-- An observer that does what it must. -/
def Duties.only (d : Duties σ) : Observer S σ := { d with }

namespace Observer

/-- The method that is called for a notice, with the arguments of the notice. -/
def hear (o : Observer S σ) : Notice S → σ → σ
  | .started id name => o.started id name
  | .completed id => o.completed id
  | .failed id error => o.failed id error
  | .timedOut id => o.timedOut id
  | .moved id source target => o.moved id source target

/-- An observer all of whose methods do the same with the notice. -/
def ofHearing (act : Notice S → σ → σ) : Observer S σ where
  started id name := act (.started id name)
  completed id := act (.completed id)
  failed id error := act (.failed id error)
  timedOut id := act (.timedOut id)
  moved id source target := act (.moved id source target)

def fanout (members : List (Observer S σ)) : Observer S σ where
  started id name := each members fun o => o.started id name
  completed id := each members fun o => o.completed id
  failed id error := each members fun o => o.failed id error
  timedOut id := each members fun o => o.timedOut id
  moved id source target := each members fun o => o.moved id source target

instance : Observing (Observer S σ) (Notice S) σ where
  hear := hear
  fanout := fanout
  hear_fanout members n s := by cases n <;> rfl
  eq_of_hear h := congrArg ofHearing (funext fun n => funext (h n))

/-- An observer that does what it must misses the notices that are optional, and no other. -/
private theorem hear_only (o : Observer S σ) (n : Notice S) (s : σ) :
    (o.toDuties.only : Observer S σ).hear n s = if n.lifecycle?.isSome then o.hear n s else s := by
  cases n <;> rfl

end Observer

/-- The listeners of a session as observers. -/
def observerOf [ToString S] (now : Millis) : Listener → Observer S (Chronicle (Notice S) .process EventKind)
  | .silent => Duties.only ⟨fun _ _ c => c, fun _ c => c, fun _ _ c => c, fun _ c => c⟩
  | .tracing => .ofHearing fun n => .write n.line
  | .recorder label => .ofHearing (.note label)
  | .brief label => (Observer.ofHearing (.note label) : Observer S _).toDuties.only
  | .monitor =>
    let record (e : EventRecord .process EventKind) (c : Chronicle (Notice S) .process EventKind) :=
      { c with tally := c.tally.record e }
    Duties.only
      { started := fun id _ => record ⟨id, .started, now, none⟩
        completed := fun id => record ⟨id, .completed, now, none⟩
        failed := fun id error => record ⟨id, .failed, now, error⟩
        timedOut := fun id => record ⟨id, .timedOut, now, none⟩ }

private theorem hear_observerOf [ToString S] (now : Millis) (l : Listener) (n : Notice S)
    (c : Chronicle (Notice S) .process EventKind) : (observerOf now l).hear n c = l.hear now n c := by
  cases l <;> cases n <;> rfl

end Workflow

/-! ### Observers of sagas -/

namespace Saga

/-- What an observer of sagas must do. -/
structure Duties (σ : Type) where
  started (id : SagaId) (name : String) : σ → σ
  committed (id : SagaId) : σ → σ
  compensated (id : SagaId) : σ → σ
  failed (id : SagaId) (error : Option String) : σ → σ

structure Observer (σ : Type) extends Duties σ where
  stepCompleted (id : SagaId) (step : String) : σ → σ := fun s => s
  stepFailed (id : SagaId) (step error : String) : σ → σ := fun s => s
  compensationFailed (id : SagaId) (step error : String) : σ → σ := fun s => s

variable {σ : Type}

/-- An observer that does what it must. -/
def Duties.only (d : Duties σ) : Observer σ := { d with }

namespace Observer

/-- The method that is called for a notice, with the arguments of the notice. -/
def hear (o : Observer σ) : Notice → σ → σ
  | .started id name => o.started id name
  | .committed id => o.committed id
  | .compensated id => o.compensated id
  | .failed id error => o.failed id error
  | .stepCompleted id step => o.stepCompleted id step
  | .stepFailed id step error => o.stepFailed id step error
  | .compensationFailed id step error => o.compensationFailed id step error

/-- An observer all of whose methods do the same with the notice. -/
def ofHearing (act : Notice → σ → σ) : Observer σ where
  started id name := act (.started id name)
  committed id := act (.committed id)
  compensated id := act (.compensated id)
  failed id error := act (.failed id error)
  stepCompleted id step := act (.stepCompleted id step)
  stepFailed id step error := act (.stepFailed id step error)
  compensationFailed id step error := act (.compensationFailed id step error)

def fanout (members : List (Observer σ)) : Observer σ where
  started id name := each members fun o => o.started id name
  committed id := each members fun o => o.committed id
  compensated id := each members fun o => o.compensated id
  failed id error := each members fun o => o.failed id error
  stepCompleted id step := each members fun o => o.stepCompleted id step
  stepFailed id step error := each members fun o => o.stepFailed id step error
  compensationFailed id step error := each members fun o => o.compensationFailed id step error

instance : Observing (Observer σ) Notice σ where
  hear := hear
  fanout := fanout
  hear_fanout members n s := by cases n <;> rfl
  eq_of_hear h := congrArg ofHearing (funext fun n => funext (h n))

/-- An observer that does what it must misses the notices that are optional, and no other. -/
private theorem hear_only (o : Observer σ) (n : Notice) (s : σ) :
    o.toDuties.only.hear n s = if n.lifecycle?.isSome then o.hear n s else s := by
  cases n <;> rfl

end Observer

/-- The listeners of a session as observers. -/
def observerOf (now : Millis) : Listener → Observer (Chronicle Notice .saga EventKind)
  | .silent => Duties.only ⟨fun _ _ c => c, fun _ c => c, fun _ c => c, fun _ _ c => c⟩
  | .tracing => .ofHearing fun n => .write n.line
  | .recorder label => .ofHearing (.note label)
  | .brief label => (Observer.ofHearing (.note label)).toDuties.only
  | .monitor =>
    let record (e : EventRecord .saga EventKind) (c : Chronicle Notice .saga EventKind) :=
      { c with tally := c.tally.record e }
    Duties.only
      { started := fun id _ => record ⟨id, .started, now, none⟩
        committed := fun id => record ⟨id, .committed, now, none⟩
        compensated := fun id => record ⟨id, .compensated, now, none⟩
        failed := fun id error => record ⟨id, .failed, now, error⟩ }

private theorem hear_observerOf (now : Millis) (l : Listener) (n : Notice) (c : Chronicle Notice .saga EventKind) :
    (observerOf now l).hear n c = l.hear now n c := by
  cases l <;> cases n <;> rfl

end Saga

/-! ### Trees of fan-outs -/

namespace Audience

variable {α O ν σ : Type} [Observing O ν σ]

mutual

/-- One observer for an audience: every group is a fan-out. -/
def observer (leaf : α → O) : Audience α → O
  | .one a => leaf a
  | .all ms => fanout (observersOf leaf ms)

def observersOf (leaf : α → O) : List (Audience α) → List O
  | [] => []
  | m :: ms => m.observer leaf :: observersOf leaf ms

end

mutual

/-- A notice goes through the whole tree. -/
private theorem hear_observer (leaf : α → O) (n : ν) : ∀ (t : Audience α) (s : σ),
    hear (t.observer leaf) n s = t.tell (fun a => hear (leaf a) n) s
  | .one _, _ => rfl
  | .all ms, s => (hear_fanout (observersOf leaf ms) n s).trans (each_observersOf leaf n ms s)

theorem each_observersOf (leaf : α → O) (n : ν) : ∀ (ms : List (Audience α)) (s : σ),
    each (observersOf leaf ms) (fun o => hear o n) s = tellOf (fun a => hear (leaf a) n) ms s
  | [], _ => rfl
  | m :: ms, s => by
    rw [tellOf, ← hear_observer leaf n m s]
    exact each_observersOf leaf n ms _

end

/-- A tree of fan-outs is a single fan-out over its leaves. -/
theorem observer_eq_fanout (leaf : α → O) (t : Audience α) : t.observer leaf = fanout (t.leaves.map leaf) := by
  refine eq_of_hear fun n s => ?_
  rw [hear_observer, hear_fanout, each_map, tell_eq_foldl, each]

end Audience

/-- To announce a notice is to have the tree of the listeners hear it. -/
private theorem Chronicle.announce_eq_hear {ν O κ : Type} {s : Subject} [Announcement ν s κ] [DecidableEq κ]
    [Observing O ν (Chronicle ν s κ)] {leaf : Listener → O} {now : Millis}
    (h : ∀ l n c, hear (leaf l) n c = Listener.hear now n l c) (audience : Audience Listener) (n : ν)
    (c : Chronicle ν s κ) :
    c.announce audience now n = hear (audience.observer leaf) n { c with sent := c.sent ++ [n] } := by
  have hleaves : Listener.hear now n = fun l (c : Chronicle ν s κ) => hear (leaf l) n c :=
    funext fun l => funext fun c => (h l n c).symm
  rw [Chronicle.announce, Audience.hear_observer, hleaves]

/-! ### Deliveries -/

/-- A notice reaches a place of a tree, where a listener hears it. -/
structure Delivery (α ν : Type) where
  /-- The number of leaves on the left. -/
  place : Nat
  listener : α
  notice : ν

/-- A notice reaches every place of a tree, from left to right. -/
def Audience.deliveries {α ν : Type} (t : Audience α) (n : ν) : List (Delivery α ν) :=
  t.leaves.zipIdx.map fun a => ⟨a.2, a.1, n⟩

section

variable {P G ν μ σ α β : Type} [Observing P ν σ] [Observing G μ σ]

/-- A notice of one of two kinds is for the observer of its kind. -/
def hearEither (p : P) (g : G) : ν ⊕ μ → σ → σ
  | .inl n => hear p n
  | .inr n => hear g n

/-- Notices of two kinds, one after the other. -/
def hearAll (p : P) (g : G) (news : List (ν ⊕ μ)) (s : σ) : σ := each news (hearEither p g) s

/-- A notice of one of two kinds reaches the places of the tree of its kind. -/
def deliveriesOf (t : Audience α) (u : Audience β) : ν ⊕ μ → List (Delivery α ν ⊕ Delivery β μ)
  | .inl n => (t.deliveries n).map .inl
  | .inr n => (u.deliveries n).map .inr

/-- Notices of two kinds reach the places of two trees. -/
def deliveries (t : Audience α) (u : Audience β) (news : List (ν ⊕ μ)) : List (Delivery α ν ⊕ Delivery β μ) :=
  news.flatMap (deliveriesOf t u)

/-- The listener that is reached hears the notice. -/
def Delivery.take (leaf : α → P) (d : Delivery α ν) : σ → σ := hear (leaf d.listener) d.notice

/-- The listener that is reached in one of two trees hears the notice. -/
def takeEither (p : α → P) (g : β → G) : Delivery α ν ⊕ Delivery β μ → σ → σ
  | .inl d => d.take p
  | .inr d => d.take g

/-- To hear a notice is to have it delivered to the leaves. -/
private theorem Audience.hear_eq_deliveries (leaf : α → P) (t : Audience α) (n : ν) (s : σ) :
    hear (t.observer leaf) n s = each (t.deliveries n) (Delivery.take leaf) s :=
  calc hear (t.observer leaf) n s = each t.leaves (fun a => hear (leaf a) n) s := by
        rw [hear_observer, tell_eq_foldl, each]
    _ = each (t.leaves.zipIdx.map Prod.fst) (fun a => hear (leaf a) n) s := by rw [List.zipIdx_map_fst]
    _ = each (t.deliveries n) (Delivery.take leaf) s := by
        rw [each_map, deliveries, each_map]
        rfl

private theorem hearEither_eq_deliveries (p : α → P) (g : β → G) (t : Audience α) (u : Audience β) (n : ν ⊕ μ) (s : σ) :
    hearEither (t.observer p) (u.observer g) n s = each (deliveriesOf t u n) (takeEither p g) s := by
  cases n with
  | inl n =>
    rw [deliveriesOf, each_map]
    exact t.hear_eq_deliveries p n s
  | inr n =>
    rw [deliveriesOf, each_map]
    exact u.hear_eq_deliveries g n s

private theorem hearAll_eq_deliveries (p : α → P) (g : β → G) (t : Audience α) (u : Audience β) (news : List (ν ⊕ μ))
    (s : σ) :
    hearAll (t.observer p) (u.observer g) news s = each (deliveries t u news) (takeEither p g) s := by
  induction news generalizing s with
  | nil => rfl
  | cons n news ih =>
    rw [deliveries, List.flatMap_cons, each_append, ← hearEither_eq_deliveries]
    exact ih _

private theorem filter_zipIdx (l : List α) (k i : Nat) :
    (l.zipIdx k).filter (fun p => p.2 = k + i) = (l[i]?.map fun a => (a, k + i)).toList := by
  induction l generalizing k i with
  | nil => rfl
  | cons a l ih =>
    rw [List.zipIdx_cons]
    cases i with
    | zero =>
      have hrest : (l.zipIdx (k + 1)).filter (fun p => p.2 = k) = [] := by
        rw [List.filter_eq_nil_iff]
        intro p hp
        have hlater := List.le_snd_of_mem_zipIdx hp
        rw [decide_eq_true_iff]
        omega
      simp [hrest]
    | succ i =>
      have hrest := ih (k + 1) i
      rw [Nat.add_right_comm, Nat.add_assoc] at hrest
      simp [hrest]

/-- Of many notices each one reaches a place once, and in order, if there is such a place. -/
private theorem Audience.deliveries_at (t : Audience α) (ns : List ν) (i : Nat) :
    (ns.flatMap t.deliveries).filter (fun d => d.place = i) =
      t.leaves[i]?.toList.flatMap fun a => ns.map fun n => ⟨i, a, n⟩ := by
  have hplace : ∀ n : ν, (t.deliveries n).filter (fun d => d.place = i) =
      (t.leaves[i]?.map fun a => (⟨i, a, n⟩ : Delivery α ν)).toList := by
    intro n
    have hzip := filter_zipIdx t.leaves 0 i
    simp only [Nat.zero_add] at hzip
    rw [deliveries, List.filter_map]
    show (t.leaves.zipIdx.filter fun p => p.2 = i).map _ = _
    rw [hzip]
    cases t.leaves[i]? <;> rfl
  rw [List.filter_flatMap]
  simp only [hplace]
  cases t.leaves[i]? with
  | none => simp
  | some a => simp [List.map_eq_flatMap]

/-- Who looks only at a part of each list sees what comes of a part of the notices. -/
private theorem filterMap_flatMap_of {A B C D : Type} {f : A → List B} {f' : C → List D} {part : A → Option C}
    {part' : B → Option D} (h : ∀ n, (f n).filterMap part' = (part n).toList.flatMap f') (ns : List A) :
    (ns.flatMap f).filterMap part' = (ns.filterMap part).flatMap f' := by
  induction ns with
  | nil => rfl
  | cons n ns ih =>
    rw [List.flatMap_cons, List.filterMap_append, h, ih, List.filterMap_cons]
    cases part n <;> simp

/-- The places of a tree are reached by the notices of its kind, and no others. -/
private theorem deliveries_left (t : Audience α) (u : Audience β) (news : List (ν ⊕ μ)) :
    (deliveries t u news).filterMap Sum.getLeft? = (news.filterMap Sum.getLeft?).flatMap t.deliveries := by
  refine filterMap_flatMap_of ?_ news
  rintro (n | n)
  · simp [deliveriesOf, List.filterMap_map, Function.comp_def]
  · exact List.filterMap_eq_nil_iff.2 (List.forall_mem_map.2 fun _ _ => rfl)

private theorem deliveries_right (t : Audience α) (u : Audience β) (news : List (ν ⊕ μ)) :
    (deliveries t u news).filterMap Sum.getRight? = (news.filterMap Sum.getRight?).flatMap u.deliveries := by
  refine filterMap_flatMap_of ?_ news
  rintro (n | n)
  · exact List.filterMap_eq_nil_iff.2 (List.forall_mem_map.2 fun _ _ => rfl)
  · simp [deliveriesOf, List.filterMap_map, Function.comp_def]

end

/-- **A tree of fan-outs is one fan-out over its leaves.** Let observers of processes be nested in fan-outs in any way,
and observers of sagas too, any of them at several places; let them act on a state that they share. The one tree is the
same observer as the single fan-out over its leaves from left to right, and so is the other. Whatever notices are sent,
the trees do with the state what the leaves do one after the other, each notice being delivered to the leaves of its
tree from left to right; so each place of a tree hears all notices of its kind with their arguments, once and in order,
and no others. An observer that does only what it must misses the notices that are optional, and no other. The audiences
of a session are such trees: to announce a notice is to have the tree of the listeners hear it. -/
theorem nested_fanouts_flat {S : Type} [ToString S] {α β σ : Type} (t : Audience α) (u : Audience β)
    (p : α → Workflow.Observer S σ) (g : β → Saga.Observer σ) (news : List (Workflow.Notice S ⊕ Saga.Notice)) :
    t.observer p = .fanout (t.leaves.map p) ∧
      u.observer g = .fanout (u.leaves.map g) ∧
      (∀ s, hearAll (t.observer p) (u.observer g) news s = each (deliveries t u news) (takeEither p g) s) ∧
      (∀ i, ((deliveries t u news).filterMap Sum.getLeft?).filter (fun d => d.place = i) =
        t.leaves[i]?.toList.flatMap fun a => (news.filterMap Sum.getLeft?).map fun n => ⟨i, a, n⟩) ∧
      (∀ i, ((deliveries t u news).filterMap Sum.getRight?).filter (fun d => d.place = i) =
        u.leaves[i]?.toList.flatMap fun b => (news.filterMap Sum.getRight?).map fun n => ⟨i, b, n⟩) ∧
      (∀ (o : Workflow.Observer S σ) n s,
        hear (o.toDuties.only : Workflow.Observer S σ) n s = if n.lifecycle?.isSome then hear o n s else s) ∧
      (∀ (o : Saga.Observer σ) n s, hear o.toDuties.only n s = if n.lifecycle?.isSome then hear o n s else s) ∧
      (∀ audience now (n : Workflow.Notice S) c, Chronicle.announce audience now n c =
        hear (audience.observer (Workflow.observerOf now)) n { c with sent := c.sent ++ [n] }) ∧
      (∀ audience now (n : Saga.Notice) c, Chronicle.announce audience now n c =
        hear (audience.observer (Saga.observerOf now)) n { c with sent := c.sent ++ [n] }) := by
  refine ⟨t.observer_eq_fanout p, u.observer_eq_fanout g, hearAll_eq_deliveries p g t u news, ?_, ?_,
    Workflow.Observer.hear_only, Saga.Observer.hear_only, ?_, ?_⟩
  · intro i
    rw [deliveries_left, Audience.deliveries_at]
  · intro i
    rw [deliveries_right, Audience.deliveries_at]
  · intro audience now n c
    exact Chronicle.announce_eq_hear (Workflow.hear_observerOf now) audience n c
  · intro audience now n c
    exact Chronicle.announce_eq_hear (Saga.hear_observerOf now) audience n c

/-- A recorder at two places hears everything twice, and one that does what it must misses the step. -/
example :
    let a : Audience Listener := .one (.recorder "a")
    let audience := .all [a, .all [.one (.brief "b"), .all []], a]
    let c : Chronicle Saga.Notice .saga Saga.EventKind := .empty
    let c := c.announce audience 0 (.stepCompleted ⟨"s"⟩ "pay")
    ((c.announce audience 1 (.committed ⟨"s"⟩)).notes.map fun note => (note.1, note.2.lifecycle?.isSome)) =
      [("a", false), ("a", false), ("a", true), ("b", true), ("a", true)] := by
  decide

end Coordination
