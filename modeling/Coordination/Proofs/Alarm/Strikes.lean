import Coordination.Proofs.Alarm.Books
import Coordination.Proofs.Alarm.Nesting
import Mathlib.Data.List.Nodup

/-!
# The strikes of a sweep

An alarm that a sweep sets off itself strikes: it goes off, and its task is run to the end, nested sweeps included. The
strikes of a sweep are those of the alarms that were due when it began, each one once, and nothing that the tasks do
can add to them or take from them (`Agenda.sweep_strikes`). For a task can reach alarms only as long as they are on the
list: what the history tells meanwhile is the fate of alarms that were pending, or were armed later (`Tells`), and the
due alarms are off the list before the first task is run.
-/

namespace Coordination.Alarm

variable {ε σ : Type}

/-- No process has two pending alarms, and their tickets are different ones that were given out. -/
structure Agenda.Sound (a : Agenda ε σ) : Prop where
  owners : (a.pending.map Armed.owner).Nodup
  tickets : (a.pending.map Armed.ticket).Nodup
  given : ∀ p ∈ a.pending, p.ticket < a.armings

/-- An agenda whose books are in order is sound, also in the middle of a sweep. -/
theorem Kept.sound {past : List Entry} {direct : Nat} {flying : List (Armed ε)} {a : Agenda ε σ}
    (h : Kept past direct flying a) : a.Sound where
  owners := h.owners
  tickets := (List.nodup_append.1 (h.accounts.nodup_iff.2 List.nodup_range)).1
  given := fun _ hp =>
    List.mem_range.1 (h.accounts.mem_iff.1 (List.mem_append_left _ (List.mem_map_of_mem hp)))

/-! ### What the history tells -/

/-- From `a` to `b` the history tells `told`. Alarms meet their fate if they were pending, or are armed meanwhile, or
are among `own`; a pending one stays unless it meets its fate. -/
structure Tells (own : List Nat) (a b : Agenda ε σ) (told : List Entry) : Prop where
  history : b.history = a.history ++ told
  armings : a.armings ≤ b.armings
  owners : (a.pending.map Armed.owner).Nodup → (b.pending.map Armed.owner).Nodup
  fresh : ∀ e ∈ told, ∀ ticket, e.armed? = some ticket → a.armings ≤ ticket
  source : ∀ q ∈ b.pending, q ∈ a.pending ∨ .armed q.ticket q.owner q.fireAt ∈ told
  fate : (a.pending.map Armed.owner).Nodup → ∀ p ∈ a.pending,
    p ∈ b.pending ∨ ∃ e ∈ told, e.settled? = some p.ticket
  settled : ∀ e ∈ told, ∀ ticket, e.settled? = some ticket →
    ticket ∈ own ∨ ticket ∈ a.pending.map Armed.ticket ∨ a.armings ≤ ticket
  /-- A task is told that it disarmed an alarm only if one was pending, or was armed before. -/
  found : ∀ before owner id after, told = before ++ .told (.disarmed owner id true) :: after →
    (∃ q ∈ a.pending, q.owner = id) ∨ ∃ ticket fireAt, .armed ticket id fireAt ∈ before

/-- An entry of two lists in a row is in the one or in the other. -/
private theorem split_append {α : Type} {l l' before after : List α} {x : α} (h : l ++ l' = before ++ x :: after) :
    (∃ rest, l = before ++ x :: rest) ∨ ∃ rest, before = l ++ rest ∧ l' = rest ++ x :: after := by
  rcases List.append_eq_append_iff.1 h with ⟨rest, hbefore, hl'⟩ | ⟨rest, hl, hafter⟩
  · exact Or.inr ⟨rest, hbefore, hl'⟩
  · cases rest with
    | nil =>
      rw [List.append_nil] at hl
      exact Or.inr ⟨[], by rw [hl, List.append_nil], hafter.symm⟩
    | cons y rest =>
      obtain ⟨rfl, -⟩ := List.cons.inj hafter
      exact Or.inl ⟨rest, hl⟩

namespace Tells

variable {own own' : List Nat} {a b c : Agenda ε σ} {told told' : List Entry}

/-- Nothing is told if the list and the history stay as they are. -/
private theorem of_eq (hhistory : b.history = a.history) (hpending : b.pending = a.pending)
    (harmings : b.armings = a.armings) :
    Tells [] a b [] where
  history := by rw [hhistory, List.append_nil]
  armings := Nat.le_of_eq harmings.symm
  owners := by rw [hpending]; exact id
  fresh := nofun
  source := fun q hq => Or.inl (hpending ▸ hq)
  fate := fun _ p hp => Or.inl (hpending.symm ▸ hp)
  settled := nofun
  found := fun before _ _ _ h => by simp at h

private theorem refl (a : Agenda ε σ) : Tells [] a a [] := of_eq rfl rfl rfl

private theorem trans (h₁ : Tells own a b told) (h₂ : Tells own' b c told') :
    Tells (own ++ own') a c (told ++ told') where
  history := by rw [h₂.history, h₁.history, List.append_assoc]
  armings := Nat.le_trans h₁.armings h₂.armings
  owners := fun h => h₂.owners (h₁.owners h)
  fresh := by
    intro e he ticket hticket
    rcases List.mem_append.1 he with he | he
    · exact h₁.fresh e he ticket hticket
    · exact Nat.le_trans h₁.armings (h₂.fresh e he ticket hticket)
  source := by
    intro q hq
    rcases h₂.source q hq with hq | hq
    · exact (h₁.source q hq).imp_right (List.mem_append_left _)
    · exact Or.inr (List.mem_append_right _ hq)
  fate := by
    intro howners p hp
    rcases h₁.fate howners p hp with hp | ⟨e, he, hfate⟩
    · refine (h₂.fate (h₁.owners howners) p hp).imp_right ?_
      exact fun ⟨e, he, hfate⟩ => ⟨e, List.mem_append_right _ he, hfate⟩
    · exact Or.inr ⟨e, List.mem_append_left _ he, hfate⟩
  settled := by
    intro e he ticket hticket
    rcases List.mem_append.1 he with he | he
    · exact (h₁.settled e he ticket hticket).imp_left (List.mem_append_left _)
    · rcases h₂.settled e he ticket hticket with hown | hpending | hlate
      · exact Or.inl (List.mem_append_right _ hown)
      · obtain ⟨q, hq, rfl⟩ := List.mem_map.1 hpending
        rcases h₁.source q hq with hq | harmed
        · exact Or.inr (Or.inl (List.mem_map_of_mem hq))
        · exact Or.inr (Or.inr (h₁.fresh _ harmed _ rfl))
      · exact Or.inr (Or.inr (Nat.le_trans h₁.armings hlate))
  found := by
    intro before owner id after hsplit
    rcases split_append hsplit with ⟨rest, hrest⟩ | ⟨rest, rfl, hrest⟩
    · exact h₁.found before owner id rest hrest
    · rcases h₂.found rest owner id after hrest with ⟨q, hq, hid⟩ | ⟨ticket, fireAt, harmed⟩
      · rcases h₁.source q hq with hq | harmed
        · exact Or.inl ⟨q, hq, hid⟩
        · exact Or.inr ⟨q.ticket, q.fireAt, List.mem_append_left _ (hid ▸ harmed)⟩
      · exact Or.inr ⟨ticket, fireAt, List.mem_append_right _ harmed⟩

/-- One more entry is written. It may tell of an arming that comes next, or of the fate of an alarm that is off the
list. -/
private theorem record (h : Tells own a b told) {e : Entry}
    (harmed : ∀ ticket, e.armed? = some ticket → a.armings ≤ ticket) (hsettled : ∀ ticket, e.settled? = some ticket →
      ticket ∈ own ∨ ticket ∈ a.pending.map Armed.ticket ∨ a.armings ≤ ticket)
    (hfound : ∀ owner id, e = .told (.disarmed owner id true) → ∃ q ∈ a.pending, q.owner = id) :
    Tells own a (b.record e) (told ++ [e]) where
  history := by rw [Agenda.history_record, h.history, List.append_assoc]
  armings := h.armings
  owners := h.owners
  fresh := List.forall_mem_append.2 ⟨h.fresh, List.forall_mem_singleton.2 harmed⟩
  source := fun q hq => (h.source q hq).imp_right (List.mem_append_left _)
  fate := fun howners p hp =>
    (h.fate howners p hp).imp_right fun ⟨e, he, hfate⟩ => ⟨e, List.mem_append_left _ he, hfate⟩
  settled := List.forall_mem_append.2 ⟨h.settled, List.forall_mem_singleton.2 hsettled⟩
  found := by
    intro before owner id after hsplit
    rcases split_append hsplit with ⟨rest, hrest⟩ | ⟨rest, -, hrest⟩
    · exact h.found before owner id rest hrest
    · have hmem : Entry.told (.disarmed owner id true) ∈ [e] :=
        hrest ▸ List.mem_append_right _ (List.mem_cons_self ..)
      exact Or.inl (hfound owner id (List.mem_singleton.1 hmem).symm)

/-- An entry that tells of no arming, no fate and no disarming. -/
private theorem remark {e : Entry} (harmed : e.armed? = none) (hsettled : e.settled? = none)
    (hcancel : e.isCancel = false) (a : Agenda ε σ) : Tells [] a (a.record e) [e] := by
  refine (refl a).record (fun ticket h => ?_) (fun ticket h => ?_) ?_
  · rw [harmed] at h
    cases h
  · rw [hsettled] at h
    cases h
  · rintro owner id rfl
    cases hcancel

/-- An alarm that is off the list goes off. -/
private theorem fire (p : Armed ε) (now : Millis) (a : Agenda ε σ) :
    Tells [p.ticket] a (a.record (.fired p.ticket p.owner p.fireAt now))
      [.fired p.ticket p.owner p.fireAt now] := by
  have h : Tells [p.ticket] a a [] := { refl a with settled := nofun }
  refine h.record nofun (fun ticket hticket => ?_) nofun
  cases hticket
  exact Or.inl (List.mem_singleton.2 rfl)

/-! ### Arming and disarming -/

private theorem owner_ne_of_mem_remove {id : ProcessId} {fate : Nat → Entry} {q : Armed ε}
    (hq : q ∈ (a.remove id fate).pending) : q.owner ≠ id := by
  rw [Agenda.pending_remove] at hq
  simpa using (List.mem_filter.1 hq).2

/-- An alarm is taken off the list, and its fate is told. -/
private theorem remove (id : ProcessId) {fate : Nat → Entry} (hfate : ∀ ticket, (fate ticket).settled? = some ticket)
    (a : Agenda ε σ) : ∃ told, Tells [] a (a.remove id fate) told := by
  unfold Agenda.remove
  cases hfound : a.find? id with
  | none => exact ⟨[], refl a⟩
  | some p =>
    have hp : p ∈ a.pending := List.mem_of_find?_eq_some hfound
    have hmem : ∀ {e}, e ∈ [fate p.ticket] → e.settled? = some p.ticket := by
      intro e he
      rw [List.mem_singleton.1 he, hfate]
    refine ⟨[fate p.ticket], rfl, Nat.le_refl _, ?_, ?_, fun q hq => Or.inl (List.mem_filter.1 hq).1, ?_, ?_, ?_⟩
    · exact fun howners => howners.sublist (List.filter_sublist.map _)
    · intro e he ticket hticket
      have hsettled := hmem he
      cases e with
      | armed => cases hsettled
      | _ => cases hticket
    · intro howners q hq
      by_cases hid : q.owner = id
      · -- the process has no other alarm than the one that is found
        obtain rfl := List.inj_on_of_nodup_map howners hq hp (hid.trans (Kept.owner_of_find? hfound).symm)
        exact Or.inr ⟨_, List.mem_singleton.2 rfl, hfate q.ticket⟩
      · exact Or.inl (List.mem_filter.2 ⟨hq, decide_eq_true hid⟩)
    · intro e he ticket hticket
      rw [hmem he] at hticket
      cases hticket
      exact Or.inr (Or.inl (List.mem_map_of_mem hp))
    · intro before owner id after hsplit
      have hlast : .told (.disarmed owner id true) ∈ [fate p.ticket] := by
        rw [hsplit]
        exact List.mem_append_right _ (List.mem_cons_self ..)
      cases hmem hlast

private theorem armAt (id : ProcessId) (fireAt : Millis) (task : Task ε) (a : Agenda ε σ) :
    ∃ told, Tells [] a (a.armAt id fireAt task) told := by
  have harmed : Tells [] a (a.record (.armed a.armings id fireAt)) [.armed a.armings id fireAt] := by
    refine (refl a).record (fun ticket h => ?_) nofun nofun
    cases h
    exact Nat.le_refl _
  have hfate : ∀ ticket, (Entry.replaced ticket).settled? = some ticket := fun _ => rfl
  obtain ⟨told, hremoved⟩ := remove id hfate (a.record (.armed a.armings id fireAt))
  have h := harmed.trans hremoved
  have hnumber : ((a.record (.armed a.armings id fireAt)).remove id .replaced).armings = a.armings :=
    Agenda.armings_remove ..
  refine ⟨_, h.history, Nat.le_trans h.armings (Nat.le_succ _), ?_, h.fresh, ?_, ?_, h.settled, h.found⟩
  · intro howners
    unfold Agenda.armAt
    rw [List.map_append]
    refine List.nodup_append.2 ⟨h.owners howners, List.pairwise_singleton .., ?_⟩
    rintro _ howner _ hnew rfl
    obtain ⟨q, hq, hid⟩ := List.mem_map.1 howner
    exact owner_ne_of_mem_remove hq (hid.trans (List.mem_singleton.1 hnew))
  · intro q hq
    rcases List.mem_append.1 hq with hq | hq
    · exact h.source q hq
    · obtain rfl := List.mem_singleton.1 hq
      rw [hnumber]
      exact Or.inr (List.mem_cons_self ..)
  · intro howners p hp
    exact (h.fate howners p hp).imp_left (List.mem_append_left _)

/-- A task is told whether it disarmed an alarm. -/
private theorem disarm (owner id : ProcessId) (a : Agenda ε σ) :
    ∃ told, Tells [] a ((a.disarm id).2.record (.told (.disarmed owner id (a.disarm id).1))) told := by
  have hfate : ∀ ticket, (Entry.disarmed ticket).settled? = some ticket := fun _ => rfl
  obtain ⟨told, h⟩ := remove id hfate a
  refine ⟨_, h.record nofun nofun ?_⟩
  rintro _ _ heq
  obtain ⟨-, rfl, hfound⟩ : owner = _ ∧ id = _ ∧ a.isPending id = true := by simpa [Agenda.disarm] using heq
  obtain ⟨q, hq⟩ := Option.isSome_iff_exists.1 hfound
  exact ⟨q, List.mem_of_find?_eq_some hq, Kept.owner_of_find? hq⟩

end Tells

/-! ### Strikes -/

/-- An alarm that goes off, and what the history tells until its task is done. -/
structure Strike (ε : Type) where
  alarm : Armed ε
  within : List Entry

def Strike.entries (now : Millis) (k : Strike ε) : List Entry :=
  .fired k.alarm.ticket k.alarm.owner k.alarm.fireAt now :: k.within

/-- The alarms go off one after the other, in a sweep at `now` with `nested` sweeps inside: each task is run to its end
on the agenda that the one before it has left. -/
inductive Strikes (s : Setting ε σ) (nested : Millis → Agenda ε σ → Nat × Agenda ε σ) (now : Millis) :
    List (Strike ε) → Agenda ε σ → Agenda ε σ → Prop where
  | nil (a : Agenda ε σ) : Strikes s nested now [] a a
  | cons {k : Strike ε} {strikes : List (Strike ε)} {a b c : Agenda ε σ} (hrun : a.goOff s nested now k.alarm = b)
      (hwithin : Tells [] (a.record (.fired k.alarm.ticket k.alarm.owner k.alarm.fireAt now)) b k.within)
      (hrest : Strikes s nested now strikes b c) : Strikes s nested now (k :: strikes) a c

variable {s : Setting ε σ} {nested : Millis → Agenda ε σ → Nat × Agenda ε σ} {now : Millis}

/-- What sweeps do is told by the history. -/
def Telling (nested : Millis → Agenda ε σ → Nat × Agenda ε σ) : Prop :=
  ∀ now (a : Agenda ε σ), ∃ told, Tells [] a (nested now a).2 told

namespace Tells

/-- What a task does is told, if it is of the sweeps nested in it. -/
private theorem run (hnested : Telling nested) (owner : ProcessId) (task : Task ε) (a : Agenda ε σ) :
    ∃ told, Tells [] a (task.run s nested owner a) told := by
  -- one action, and then the rest of the task
  have hstep : ∀ {a b c : Agenda ε σ}, (∃ told, Tells [] a b told) → (∃ told, Tells [] b c told) →
      ∃ told, Tells [] a c told := fun ⟨told, h⟩ ⟨told', h'⟩ => ⟨told ++ told', h.trans h'⟩
  have hremark : ∀ (a : Agenda ε σ) (e : Entry), e.armed? = none → e.settled? = none → e.isCancel = false →
      ∃ told, Tells [] a (a.record e) told := fun a e h₁ h₂ h₃ => ⟨[e], remark h₁ h₂ h₃ a⟩
  induction task generalizing a with
  | done => exact ⟨[], refl a⟩
  | collapse => exact hremark a _ rfl rfl rfl
  | ring rest ih => exact hstep (hremark a _ rfl rfl rfl) (ih _)
  | armAt id fireAt task rest _ ih => exact hstep (armAt id fireAt task a) (ih _)
  | armAfter id delay task rest _ ih => exact hstep (armAt id _ task a) (ih _)
  | disarm id rest ih => exact hstep (disarm owner id a) (ih _)
  | query id rest ih => exact hstep (hremark a _ rfl rfl rfl) (ih _)
  | sweep now rest ih => exact hstep (hstep (hnested now a) (hremark _ _ rfl rfl rfl)) (ih _)
  | sweepNow rest ih => exact hstep (hstep (hnested a.clock a) (hremark _ _ rfl rfl rfl)) (ih _)
  | moveClock m rest ih => exact hstep (b := a.moveClock m) ⟨[], of_eq rfl rfl rfl⟩ (ih _)
  | outside e rest ih =>
    exact hstep (b := { a with outside := s.act e a.clock a.outside }) ⟨[], of_eq rfl rfl rfl⟩ (ih _)

end Tells

theorem exists_strikes (s : Setting ε σ) (now : Millis) (hnested : Telling nested) (alarms : List (Armed ε))
    (a : Agenda ε σ) :
    ∃ strikes, strikes.map Strike.alarm = alarms ∧
      Strikes s nested now strikes a (alarms.foldl (Agenda.goOff s nested now) a) := by
  induction alarms generalizing a with
  | nil => exact ⟨[], rfl, .nil a⟩
  | cons p alarms ih =>
    obtain ⟨within, hwithin⟩ := Tells.run (s := s) hnested p.owner p.task
      (a.record (.fired p.ticket p.owner p.fireAt now))
    obtain ⟨strikes, halarms, hstrikes⟩ := ih (a.goOff s nested now p)
    exact ⟨⟨p, within⟩ :: strikes, congrArg (p :: ·) halarms, .cons rfl hwithin hstrikes⟩

namespace Strikes

variable {strikes : List (Strike ε)} {a b : Agenda ε σ}

/-- Strikes tell of the fate of their own alarms, and otherwise as tasks do. -/
theorem tells (h : Strikes s nested now strikes a b) :
    Tells (strikes.map fun k => k.alarm.ticket) a b (strikes.flatMap (Strike.entries now)) := by
  induction h with
  | nil a => exact .refl a
  | @cons k _ a _ _ _ hwithin _ ih => exact ((Tells.fire k.alarm now a).trans hwithin).trans ih

/-- A task has no influence on alarms that are off the list when the strikes begin. -/
private theorem within (h : Strikes s nested now strikes a b) : ∀ k ∈ strikes, ∀ e ∈ k.within, ∀ ticket,
    e.settled? = some ticket → ticket ∈ a.pending.map Armed.ticket ∨ a.armings ≤ ticket := by
  induction h with
  | nil => exact nofun
  | @cons k _ a b _ _ hwithin _ ih =>
    refine List.forall_mem_cons.2 ⟨?_, ?_⟩
    · intro e he ticket hticket
      exact (hwithin.settled e he ticket hticket).resolve_left nofun
    · intro k' hk' e he ticket hticket
      rcases ih k' hk' e he ticket hticket with hpending | hlate
      · obtain ⟨q, hq, rfl⟩ := List.mem_map.1 hpending
        rcases hwithin.source q hq with hq | harmed
        · exact Or.inl (List.mem_map_of_mem hq)
        · exact Or.inr (hwithin.fresh _ harmed _ rfl)
      · exact Or.inr (Nat.le_trans hwithin.armings hlate)

end Strikes

/-! ### Sweeps -/

/-- The alarms that go off in a sweep are off the list when it begins, so their fate is told by the sweep as a whole. -/
private theorem Strikes.tells_sweep {strikes : List (Strike ε)} {a b : Agenda ε σ}
    (h : Strikes s nested now strikes (a.lifted now) b) (hdue : (strikes.map Strike.alarm).Perm (a.due now)) :
    Tells [] a b (strikes.flatMap (Strike.entries now)) := by
  have htells := h.tells
  have hpending : ∀ {q}, q ∈ (a.lifted now).pending → q ∈ a.pending := fun hq => (List.mem_filter.1 hq).1
  refine ⟨htells.history, htells.armings, ?_, htells.fresh, fun q hq => (htells.source q hq).imp_left hpending, ?_, ?_,
    ?_⟩
  · exact fun howners => htells.owners (howners.sublist (List.filter_sublist.map _))
  · intro howners p hp
    by_cases hcase : p.fireAt ≤ now
    · obtain ⟨k, hk, rfl⟩ := List.mem_map.1 (hdue.mem_iff.2 (List.mem_filter.2 ⟨hp, decide_eq_true hcase⟩))
      exact Or.inr ⟨_, List.mem_flatMap.2 ⟨k, hk, List.mem_cons_self ..⟩, rfl⟩
    · exact htells.fate (howners.sublist (List.filter_sublist.map _)) p (List.mem_filter.2 ⟨hp, decide_eq_true hcase⟩)
  · intro e he ticket hticket
    rcases htells.settled e he ticket hticket with hown | hrest | hlate
    · obtain ⟨k, hk, rfl⟩ := List.mem_map.1 hown
      have hk : k.alarm ∈ a.due now := hdue.mem_iff.1 (List.mem_map_of_mem hk)
      exact Or.inr (Or.inl (List.mem_map_of_mem (List.mem_filter.1 hk).1))
    · obtain ⟨q, hq, rfl⟩ := List.mem_map.1 hrest
      exact Or.inr (Or.inl (List.mem_map_of_mem (hpending hq)))
    · exact Or.inr (Or.inr hlate)
  · intro before owner id after hsplit
    exact (htells.found before owner id after hsplit).imp_left fun ⟨q, hq, hid⟩ => ⟨q, hpending hq, hid⟩

private theorem sweepWithin_telling (s : Setting ε σ) (depth : Nat) : Telling (Agenda.sweepWithin s depth) := by
  induction depth with
  | zero => exact fun _ a => ⟨[], .refl a⟩
  | succ depth ih =>
    intro now a
    obtain ⟨strikes, halarms, hstrikes⟩ := exists_strikes s now ih (s.order a.sweeps (a.due now)) (a.lifted now)
    exact ⟨_, hstrikes.tells_sweep (halarms ▸ s.order_perm a.sweeps (a.due now))⟩

theorem sweep_telling (s : Setting ε σ) : Telling (Agenda.sweep s) :=
  fun now a => sweepWithin_telling s (a.load + 1) now a

/-- **A sweep strikes what was due.** Let the agenda be sound, as it is whenever it is reached (`Kept.sound`), let the
alarms due at `now` go off in any order, and let their tasks do what they like. The strikes of the sweep are those of
the alarms that were due when it began, each one once, and their number is what it answers. Within the strikes nothing
else becomes of a due alarm, so it goes off even if a task disarms its process or arms another alarm for it; and a task
that disarms the process is told that there was no alarm, unless one was armed for it since. An alarm that is armed
meanwhile is none of the strikes. A pending alarm that was not due stays as it is unless the history tells of its fate;
and if no alarm was armed, none is left that is due. -/
theorem Agenda.sweep_strikes (s : Setting ε σ) (now : Millis) {a : Agenda ε σ} (h : a.Sound) :
    ∃ strikes : List (Strike ε),
      let r := a.sweep s now
      let told := strikes.flatMap (Strike.entries now)
      Strikes s (Agenda.sweep s) now strikes (a.lifted now) r.2 ∧
        strikes.map Strike.alarm = s.order a.sweeps (a.due now) ∧
        (strikes.map Strike.alarm).Perm (a.due now) ∧ r.1 = strikes.length ∧
        r.2.history = a.history ++ told ∧
        (∀ p ∈ a.due now, ∀ k ∈ strikes, ∀ e ∈ k.within, e.settled? ≠ some p.ticket) ∧
        (∀ p ∈ a.due now, ∀ before owner found after,
          told = before ++ .told (.disarmed owner p.owner found) :: after →
          (∀ ticket fireAt, .armed ticket p.owner fireAt ∉ before) → found = false) ∧
        (∀ ticket owner fireAt, .armed ticket owner fireAt ∈ told → ∀ k ∈ strikes, k.alarm.ticket ≠ ticket) ∧
        (∀ p ∈ a.pending, now < p.fireAt → (∀ e ∈ told, e.settled? ≠ some p.ticket) → p ∈ r.2.pending) ∧
        ((∀ e ∈ told, e.armed? = none) → ∀ p ∈ r.2.pending, now < p.fireAt) := by
  obtain ⟨strikes, halarms, hstrikes⟩ :=
    exists_strikes s now (sweep_telling s) (s.order a.sweeps (a.due now)) (a.lifted now)
  have hperm : (strikes.map Strike.alarm).Perm (a.due now) := halarms ▸ s.order_perm a.sweeps (a.due now)
  have hsweep := a.sweep_eq s now
  have htells := hstrikes.tells
  have hdue : ∀ {p}, p ∈ a.due now → p ∈ a.pending ∧ p.fireAt ≤ now := by
    intro p hp
    simpa [due] using hp
  -- what is left on the list was not due
  have hrest : ∀ {q}, q ∈ (a.lifted now).pending → q ∈ a.pending ∧ now < q.fireAt := by
    intro q hq
    simpa [lifted] using hq
  have howners : ((a.lifted now).pending.map Armed.owner).Nodup := h.owners.sublist (List.filter_sublist.map _)
  refine ⟨strikes, by rw [hsweep]; exact hstrikes, halarms, hperm, ?_, ?_, ?_, ?_, ?_, ?_, ?_⟩
  · rw [hsweep, ← hperm.length_eq, List.length_map]
  · rw [hsweep]
    exact htells.history
  · intro p hp k hk e he hsettled
    rcases hstrikes.within k hk e he p.ticket hsettled with hleft | hlate
    · obtain ⟨q, hq, hticket⟩ := List.mem_map.1 hleft
      obtain rfl := List.inj_on_of_nodup_map h.tickets (hrest hq).1 (hdue hp).1 hticket
      exact absurd (hdue hp).2 (UInt64.not_le.2 (hrest hq).2)
    · exact absurd (h.given p (hdue hp).1) (Nat.not_lt.2 hlate)
  · intro p hp before owner found after hsplit hnone
    cases found with
    | false => rfl
    | true =>
      rcases htells.found before owner p.owner after hsplit with ⟨q, hq, hid⟩ | ⟨ticket, fireAt, harmed⟩
      · obtain rfl := List.inj_on_of_nodup_map h.owners (hrest hq).1 (hdue hp).1 hid
        exact absurd (hdue hp).2 (UInt64.not_le.2 (hrest hq).2)
      · exact absurd harmed (hnone ticket fireAt)
  · rintro ticket owner fireAt harmed k hk rfl
    have hk : k.alarm ∈ a.due now := hperm.mem_iff.1 (List.mem_map_of_mem hk)
    exact absurd (h.given _ (hdue hk).1) (Nat.not_lt.2 (htells.fresh _ harmed _ rfl))
  · intro p hp hlater hnone
    rw [hsweep]
    have hleft : p ∈ (a.lifted now).pending := List.mem_filter.2 ⟨hp, by simpa using hlater⟩
    refine (htells.fate howners p hleft).resolve_right ?_
    rintro ⟨e, he, hfate⟩
    exact hnone e he hfate
  · intro hnone p hp
    rw [hsweep] at hp
    rcases htells.source p hp with hleft | harmed
    · exact (hrest hleft).2
    · cases hnone _ harmed

/-- Two alarms are due at 10; the task of the first one disarms the second and arms an alarm that is due at once. -/
def vigil : Agenda Unit Unit :=
  ((Agenda.opened 0 ()).armAt ⟨"p"⟩ 10 (.disarm ⟨"q"⟩ (.armAt ⟨"p"⟩ 5 .done .done))
    |>.armAt ⟨"q"⟩ 10 (.ring .collapse)).armAt ⟨"r"⟩ 20 .done

/-- Both go off, the second one although it was to be disarmed; the new alarm stays, and so does the one that is not
due. -/
theorem sweep_strikes_vigil :
    vigil.Sound ∧ ∃ strikes : List (Strike Unit), strikes.map (fun k => k.alarm.owner) = [⟨"p"⟩, ⟨"q"⟩] ∧
      (vigil.sweep (.inOrder fun _ _ x => x) 10).1 = strikes.length ∧
      (vigil.sweep (.inOrder fun _ _ x => x) 10).2.history = vigil.history ++ strikes.flatMap (Strike.entries 10) ∧
      (vigil.sweep (.inOrder fun _ _ x => x) 10).2.history.drop 3 =
        [.fired 0 ⟨"p"⟩ 10 10, .told (.disarmed ⟨"p"⟩ ⟨"q"⟩ false), .armed 3 ⟨"p"⟩ 5,
          .fired 1 ⟨"q"⟩ 10 10, .told (.rang ⟨"q"⟩), .collapsed ⟨"q"⟩] ∧
      (vigil.sweep (.inOrder fun _ _ x => x) 10).2.pending.map Armed.owner = [⟨"r"⟩, ⟨"p"⟩] := by
  have hsound : vigil.Sound := ⟨by decide, by decide, by decide⟩
  obtain ⟨strikes, -, halarms, -, hcount, hhistory, -⟩ :=
    Agenda.sweep_strikes (.inOrder fun _ _ x => x) 10 hsound
  refine ⟨hsound, strikes, ?_, hcount, hhistory, by decide +kernel, by decide +kernel⟩
  exact (List.map_map ..).symm.trans (congrArg (List.map Armed.owner) halarms)

end Coordination.Alarm
