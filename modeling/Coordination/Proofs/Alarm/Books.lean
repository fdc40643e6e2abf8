import Coordination.Alarm.Sweep

/-!
# The books of an agenda

Every arming gets a ticket, and the history of an agenda tells what became of it: the alarm was replaced, disarmed or
went off. An alarm that is off the list without such an entry is in flight: a sweep took it and has not come to it
yet. `Kept` says that pending alarms, alarms in flight and entries of the history account for every ticket once.

An alarm only ever moves from the list into the air (`Kept.lift`) and from the air into the history (`Kept.settle`),
and a task can do neither with the alarms that are in flight around it. So arming, disarming, tasks and sweeps nested
to any depth keep the books (`Kept.armAt`, `Kept.disarm`, `Kept.run`, `Kept.sweepWithin`).
-/

namespace Coordination.Alarm

namespace Entry

/-- The ticket that an arming gave out. -/
def armed? : Entry → Option Nat
  | .armed ticket _ _ => some ticket
  | _ => none

def replaced? : Entry → Option Nat
  | .replaced ticket => some ticket
  | _ => none

def disarmed? : Entry → Option Nat
  | .disarmed ticket => some ticket
  | _ => none

def fired? : Entry → Option Nat
  | .fired ticket _ _ _ => some ticket
  | _ => none

/-- The ticket whose fate an entry tells, whichever fate it is. -/
def settled? : Entry → Option Nat
  | .replaced ticket => some ticket
  | .disarmed ticket => some ticket
  | .fired ticket _ _ _ => some ticket
  | _ => none

/-- A task was told that it disarmed an alarm. -/
def isCancel : Entry → Bool
  | .told (.disarmed _ _ found) => found
  | _ => false

theorem settled_perm (history : List Entry) :
    (history.filterMap settled?).Perm
      (history.filterMap fired? ++ history.filterMap replaced? ++ history.filterMap disarmed?) := by
  induction history with
  | nil => exact List.Perm.refl _
  | cons e history ih =>
    cases e with
    | fired ticket owner fireAt now => exact ih.cons ticket
    | replaced ticket =>
      simp only [List.filterMap_cons, settled?, fired?, replaced?, disarmed?]
      refine (ih.cons ticket).trans ?_
      rw [List.append_assoc, List.append_assoc]
      exact List.perm_middle.symm
    | disarmed ticket => exact (ih.cons ticket).trans List.perm_middle.symm
    | armed ticket owner fireAt => exact ih
    | collapsed owner => exact ih
    | told report => exact ih

end Entry

/-- Alarms go off in time, and as they were armed. -/
def Punctual (history : List Entry) : Prop :=
  ∀ ticket owner fireAt now, .fired ticket owner fireAt now ∈ history →
    fireAt ≤ now ∧ .armed ticket owner fireAt ∈ history

/-- An alarm is replaced right at a later arming for the same process. -/
def Succession (history : List Entry) : Prop :=
  ∀ before ticket after, history = before ++ .replaced ticket :: after →
    ∃ earlier next owner fireAt fireAt', before = earlier ++ [.armed next owner fireAt'] ∧ ticket < next ∧
      .armed ticket owner fireAt ∈ earlier

private theorem Punctual.append {history : List Entry} (h : Punctual history) {e : Entry}
    (he : ∀ ticket owner fireAt now, e = .fired ticket owner fireAt now →
      fireAt ≤ now ∧ .armed ticket owner fireAt ∈ history) : Punctual (history ++ [e]) := by
  intro ticket owner fireAt now hm
  rcases List.mem_append.1 hm with hm | hm
  · obtain ⟨hle, ha⟩ := h ticket owner fireAt now hm
    exact ⟨hle, List.mem_append_left _ ha⟩
  · obtain ⟨hle, ha⟩ := he ticket owner fireAt now (List.mem_singleton.1 hm).symm
    exact ⟨hle, List.mem_append_left _ ha⟩

/-- The last entry of a list is the marked one, or the mark is in what comes before. -/
private theorem append_singleton_eq {α : Type} {l before after : List α} {e x : α}
    (h : l ++ [e] = before ++ x :: after) :
    (l = before ∧ e = x) ∨ ∃ after', l = before ++ x :: after' := by
  rcases List.eq_nil_or_concat after with rfl | ⟨after', y, rfl⟩
  · left
    obtain ⟨rfl, he⟩ := List.append_inj' h rfl
    exact ⟨rfl, by simpa using he⟩
  · right
    rw [List.concat_eq_append, ← List.cons_append, ← List.append_assoc] at h
    exact ⟨after', (List.append_inj' h rfl).1⟩

private theorem Succession.append {history : List Entry} (h : Succession history) {e : Entry}
    (he : ∀ ticket, e = .replaced ticket →
      ∃ earlier next owner fireAt fireAt', history = earlier ++ [.armed next owner fireAt'] ∧ ticket < next ∧
        .armed ticket owner fireAt ∈ earlier) : Succession (history ++ [e]) := by
  intro before ticket after hsplit
  rcases append_singleton_eq hsplit with ⟨rfl, rfl⟩ | ⟨after', hbefore⟩
  · exact he ticket rfl
  · exact h before ticket after' hbefore

variable {ε σ : Type}

/-- The books of an agenda are in order while the alarms `flying` are in flight; its history continues `past`, and
`direct` alarms were disarmed by calls whose answer is not in the history. -/
structure Kept (past : List Entry) (direct : Nat) (flying : List (Armed ε)) (a : Agenda ε σ) : Prop where
  /-- Every ticket is accounted for once. -/
  accounts : (a.pending.map Armed.ticket ++ (flying.map Armed.ticket ++ a.history.filterMap Entry.settled?)).Perm
    (List.range a.armings)
  armings : a.history.filterMap Entry.armed? = List.range a.armings
  owners : (a.pending.map Armed.owner).Nodup
  known : ∀ p ∈ a.pending ++ flying, .armed p.ticket p.owner p.fireAt ∈ a.history
  punctual : Punctual a.history
  succession : Succession a.history
  cancels : (a.history.filterMap Entry.disarmed?).length = direct + a.history.countP Entry.isCancel
  grown : past <+: a.history

namespace Kept

variable {past : List Entry} {direct : Nat} {flying : List (Armed ε)} {a b : Agenda ε σ}

theorem opened (clock : Millis) (outside : σ) : Kept [] 0 [] (Agenda.opened clock outside : Agenda ε σ) where
  accounts := List.Perm.refl _
  armings := rfl
  owners := List.nodup_nil
  known := by simp [Agenda.opened]
  punctual := by intro _ _ _ _ h; simp [Agenda.opened] at h
  succession := by intro _ _ _ h; simp [Agenda.opened] at h
  cancels := rfl
  grown := List.prefix_rfl

/-- The clock, the surroundings and the number of sweeps are not in the books. -/
theorem congr (h : Kept past direct flying a) (hp : b.pending = a.pending) (hh : b.history = a.history)
    (ha : b.armings = a.armings) : Kept past direct flying b where
  accounts := by rw [hp, hh, ha]; exact h.accounts
  armings := by rw [hh, ha]; exact h.armings
  owners := by rw [hp]; exact h.owners
  known := by rw [hp, hh]; exact h.known
  punctual := by rw [hh]; exact h.punctual
  succession := by rw [hh]; exact h.succession
  cancels := by rw [hh]; exact h.cancels
  grown := by rw [hh]; exact h.grown

private theorem perm {flying' : List (Armed ε)} (h : Kept past direct flying a) (hf : flying'.Perm flying) :
    Kept past direct flying' a where
  accounts := (((hf.map _).append_right _).append_left _).trans h.accounts
  armings := h.armings
  owners := h.owners
  known := fun p hp => h.known p (((hf.append_left _).mem_iff).1 hp)
  punctual := h.punctual
  succession := h.succession
  cancels := h.cancels
  grown := h.grown

/-! ### Alarms on the move -/

/-- Alarms that leave the list are in flight. -/
theorem lift (h : Kept past direct flying a) (stays : Armed ε → Bool) :
    Kept past direct (a.pending.filter (fun p => !stays p) ++ flying) { a with pending := a.pending.filter stays } where
  accounts := by
    have hsplit := (List.filter_append_perm stays a.pending).map Armed.ticket
    rw [List.map_append] at hsplit ⊢
    rw [List.append_assoc, ← List.append_assoc]
    exact (hsplit.append_right _).trans h.accounts
  armings := h.armings
  owners := h.owners.sublist (List.filter_sublist.map _)
  known := by
    intro p hp
    apply h.known
    simp only [List.mem_append, List.mem_filter] at hp ⊢
    rcases hp with hp | hp | hp
    · exact Or.inl hp.1
    · exact Or.inl hp.1
    · exact Or.inr hp
  punctual := h.punctual
  succession := h.succession
  cancels := h.cancels
  grown := h.grown

/-- An alarm in flight meets its fate. -/
theorem settle {p : Armed ε} {e : Entry} (h : Kept past direct (p :: flying) a) (hs : e.settled? = some p.ticket)
    (hpunctual : Punctual (a.history ++ [e])) (hsuccession : Succession (a.history ++ [e])) :
    Kept past (direct + (e.disarmed?.toList).length) flying (a.record e) where
  accounts := by
    simp only [Agenda.pending_record, Agenda.history_record, Agenda.armings_record, List.filterMap_append]
    rw [show [e].filterMap Entry.settled? = [p.ticket] by simp [hs], ← List.append_assoc (flying.map _)]
    refine List.Perm.trans ?_ h.accounts
    exact (List.perm_append_singleton _ _).append_left _
  armings := by
    have he : e.armed? = none := by cases e <;> first | rfl | cases hs
    simp [he, h.armings]
  owners := h.owners
  known := by
    intro q hq
    refine List.mem_append_left _ (h.known q ?_)
    simp only [Agenda.pending_record, List.mem_append, List.mem_cons] at hq ⊢
    rcases hq with hq | hq
    · exact Or.inl hq
    · exact Or.inr (Or.inr hq)
  punctual := hpunctual
  succession := hsuccession
  cancels := by
    have he : e.isCancel = false := by cases e <;> first | rfl | cases hs
    have := h.cancels
    cases hd : e.disarmed? <;> simp [hd, he] <;> omega
  grown := h.grown.trans (List.prefix_append ..)

/-- An entry that tells of no arming and of no fate; it may be the answer to a task that disarmed an alarm. -/
private theorem remark {e : Entry} (h : Kept past (direct + e.isCancel.toNat) flying a) (hs : e.settled? = none)
    (ha : e.armed? = none) : Kept past direct flying (a.record e) where
  accounts := by simpa [hs] using h.accounts
  armings := by simp [ha, h.armings]
  owners := h.owners
  known := fun q hq => List.mem_append_left _ (h.known q hq)
  punctual := h.punctual.append (by rintro _ _ _ _ rfl; cases hs)
  succession := h.succession.append (by rintro _ rfl; cases hs)
  cancels := by
    have he : e.disarmed? = none := by cases e <;> first | rfl | cases hs
    have := h.cancels
    cases hc : e.isCancel <;> simp [he, hc] at this ⊢ <;> omega
  grown := h.grown.trans (List.prefix_append ..)

private theorem tell {e : Entry} (h : Kept past direct flying a) (hc : e.isCancel = false) (hs : e.settled? = none)
    (ha : e.armed? = none) : Kept past direct flying (a.record e) := by
  refine remark ?_ hs ha
  rw [hc]
  exact h

/-- A new alarm is announced; it is in flight until it is on the list. -/
private theorem announce (h : Kept past direct flying a) (id : ProcessId) (fireAt : Millis) (task : Task ε) :
    Kept past direct (⟨a.armings, id, fireAt, task⟩ :: flying)
      { a.record (.armed a.armings id fireAt) with armings := a.armings + 1 } where
  accounts := by
    simp only [Agenda.pending_record, Agenda.history_record, List.filterMap_append, List.range_succ]
    rw [show [Entry.armed a.armings id fireAt].filterMap Entry.settled? = [] from rfl, List.append_nil]
    refine List.Perm.trans ?_ (h.accounts.append_right _)
    rw [List.map_cons, List.cons_append]
    exact List.perm_middle.trans (List.perm_append_singleton _ _).symm
  armings := by simp [Entry.armed?, h.armings, List.range_succ]
  owners := h.owners
  known := by
    intro q hq
    simp only [Agenda.pending_record, List.mem_append, List.mem_cons] at hq
    rcases hq with hq | rfl | hq
    · exact List.mem_append_left _ (h.known q (List.mem_append_left _ hq))
    · exact List.mem_append_right _ (List.mem_singleton.2 rfl)
    · exact List.mem_append_left _ (h.known q (List.mem_append_right _ hq))
  punctual := h.punctual.append (by rintro _ _ _ _ h; cases h)
  succession := h.succession.append (by rintro _ h; cases h)
  cancels := by simp [Entry.disarmed?, Entry.isCancel, h.cancels]
  grown := h.grown.trans (List.prefix_append ..)

/-- An alarm comes to stand on the list. -/
private theorem land {p : Armed ε} (h : Kept past direct (p :: flying) a) (hfree : ∀ q ∈ a.pending, q.owner ≠ p.owner) :
    Kept past direct flying { a with pending := a.pending ++ [p] } where
  accounts := by
    refine List.Perm.trans ?_ h.accounts
    simp only [List.map_append, List.map_cons, List.map_nil, List.append_assoc, List.cons_append, List.nil_append]
    exact List.Perm.refl _
  armings := h.armings
  owners := by
    simp only [List.map_append, List.map_cons, List.map_nil]
    refine List.nodup_append.2 ⟨h.owners, by simp, ?_⟩
    intro x hx y hy hxy
    obtain ⟨q, hq, rfl⟩ := List.mem_map.1 hx
    exact hfree q hq (hxy.trans (List.mem_singleton.1 hy))
  known := by
    intro q hq
    apply h.known
    simpa [or_assoc] using hq
  punctual := h.punctual
  succession := h.succession
  cancels := h.cancels
  grown := h.grown

/-! ### Arming and disarming -/

/-- In a list without repeated keys the entry found under a key is the only one. -/
private theorem filter_eq_singleton {α κ : Type} [DecidableEq κ] {f : α → κ} {l : List α} {k : κ} {x : α}
    (hl : (l.map f).Nodup) (hx : l.find? (fun y => f y = k) = some x) : l.filter (fun y => f y = k) = [x] := by
  induction l with
  | nil => simp at hx
  | cons y l ih =>
    rw [List.map_cons, List.nodup_cons] at hl
    by_cases hy : f y = k
    · obtain rfl : y = x := by simpa [hy] using hx
      have hrest : l.filter (fun z => f z = k) = [] := by
        rw [List.filter_eq_nil_iff]
        intro z hz hzk
        refine hl.1 (List.mem_map.2 ⟨z, hz, ?_⟩)
        rw [hy]; simpa using hzk
      simp [hy, hrest]
    · simp only [List.find?_cons, hy, decide_false] at hx
      simpa [hy] using ih hl.2 hx

theorem remove_of_some {id : ProcessId} {p : Armed ε} (hp : a.find? id = some p) (fate : Nat → Entry) :
    a.remove id fate =
      ({ a with pending := a.pending.filter fun q => q.owner ≠ id } : Agenda ε σ).record (fate p.ticket) := by
  simp only [Agenda.remove, hp]

theorem remove_of_none {id : ProcessId} (hp : a.find? id = none) (fate : Nat → Entry) : a.remove id fate = a := by
  simp only [Agenda.remove, hp]

theorem owner_of_find? {id : ProcessId} {p : Armed ε} (hp : a.find? id = some p) : p.owner = id := by
  have := List.find?_some hp
  simpa using this

/-- The alarm found for `id` takes off. -/
private theorem lift_found {id : ProcessId} {p : Armed ε} (h : Kept past direct flying a) (hp : a.find? id = some p) :
    Kept past direct (p :: flying) { a with pending := a.pending.filter fun q => q.owner ≠ id } := by
  have hlift := h.lift fun q => decide (q.owner ≠ id)
  have hp' : a.pending.filter (fun q => !decide (q.owner ≠ id)) = [p] := by
    simpa using filter_eq_singleton h.owners hp
  rwa [hp'] at hlift

theorem disarm (h : Kept past direct flying a) (id : ProcessId) :
    Kept past (direct + (a.disarm id).1.toNat) flying (a.disarm id).2 := by
  unfold Agenda.disarm Agenda.isPending
  dsimp only
  cases hp : a.find? id with
  | none =>
    rw [remove_of_none hp]
    exact h
  | some p =>
    rw [remove_of_some hp]
    exact (h.lift_found hp).settle (e := .disarmed p.ticket) rfl (h.punctual.append (by rintro _ _ _ _ h; cases h))
      (h.succession.append (by rintro _ h; cases h))

theorem armAt (h : Kept past direct flying a) (id : ProcessId) (fireAt : Millis) (task : Task ε) :
    Kept past direct flying (a.armAt id fireAt task) := by
  have hair := h.announce id fireAt task
  unfold Agenda.armAt
  dsimp only
  have hfind : (a.record (.armed a.armings id fireAt)).find? id = a.find? id := rfl
  cases hp : a.find? id with
  | none =>
    rw [remove_of_none (hfind.trans hp)]
    refine hair.land ?_
    intro q hq hqid
    have := List.find?_eq_none.1 hp q hq
    simp [hqid] at this
  | some p =>
    rw [remove_of_some (hfind.trans hp)]
    -- the alarm that is replaced leaves the list while the new one is in flight
    have hboth := hair.lift_found hp
    have hlast : Succession (a.history ++ [.armed a.armings id fireAt] ++ [.replaced p.ticket]) := by
      refine hair.succession.append ?_
      intro ticket ht
      obtain rfl : p.ticket = ticket := by simpa using ht
      have hmem : p ∈ a.pending := List.mem_of_find?_eq_some hp
      have hknown := h.known p (List.mem_append_left _ hmem)
      have hticket : p.ticket ∈ List.range a.armings :=
        h.accounts.mem_iff.1 (List.mem_append_left _ (List.mem_map_of_mem hmem))
      rw [owner_of_find? hp] at hknown
      exact ⟨a.history, a.armings, id, p.fireAt, fireAt, rfl, List.mem_range.1 hticket, hknown⟩
    refine (hboth.settle (e := .replaced p.ticket) rfl
      (hair.punctual.append (by rintro _ _ _ _ h; cases h)) hlast).land ?_
    intro q hq
    simp only [Agenda.pending_record, List.mem_filter] at hq
    simpa using hq.2

/-! ### Tasks and sweeps -/

variable {s : Setting ε σ} {nested : Millis → Agenda ε σ → Nat × Agenda ε σ}

/-- A task keeps the books, whatever is in flight around it, if the sweeps nested in it do. -/
theorem run (hnested : ∀ past direct flying now (a : Agenda ε σ), Kept past direct flying a →
      Kept past direct flying (nested now a).2) (owner : ProcessId) (task : Task ε) :
    ∀ {a : Agenda ε σ}, Kept past direct flying a → Kept past direct flying (task.run s nested owner a) := by
  induction task with
  | done => exact fun h => h
  | collapse => exact fun h => h.tell rfl rfl rfl
  | ring rest ih => exact fun h => ih (h.tell rfl rfl rfl)
  | armAt id fireAt task rest _ ih => exact fun h => ih (h.armAt id fireAt task)
  | armAfter id delay task rest _ ih => exact fun h => ih (h.armAt id _ task)
  | disarm id rest ih =>
    intro a h
    -- the answer that the task gets takes the place of the call's own count
    exact ih ((h.disarm id).remark (e := .told (.disarmed owner id (a.disarm id).1)) rfl rfl)
  | query id rest ih => exact fun h => ih (h.tell rfl rfl rfl)
  | sweep now rest ih => exact fun h => ih ((hnested _ _ _ now _ h).tell rfl rfl rfl)
  | sweepNow rest ih => exact fun h => ih ((hnested _ _ _ _ _ h).tell rfl rfl rfl)
  | moveClock m rest ih => exact fun h => ih (h.congr rfl rfl rfl)
  | outside e rest ih => exact fun h => ih (h.congr rfl rfl rfl)

/-- An alarm that was in flight has gone off. -/
private theorem goOff (hnested : ∀ past direct flying now (a : Agenda ε σ), Kept past direct flying a →
      Kept past direct flying (nested now a).2) {p : Armed ε} {now : Millis} (h : Kept past direct (p :: flying) a)
    (hdue : p.fireAt ≤ now) : Kept past direct flying (a.goOff s nested now p) := by
  have hknown := h.known p (List.mem_append_right _ (List.mem_cons_self ..))
  refine run hnested p.owner p.task ?_
  refine h.settle (e := .fired p.ticket p.owner p.fireAt now) rfl (h.punctual.append ?_)
    (h.succession.append (by rintro _ h; cases h))
  rintro _ _ _ _ he
  cases he
  exact ⟨hdue, hknown⟩

private theorem goOff_all (hnested : ∀ past direct flying now (a : Agenda ε σ), Kept past direct flying a →
      Kept past direct flying (nested now a).2) {now : Millis} (due : List (Armed ε)) :
    ∀ {a : Agenda ε σ}, Kept past direct (due ++ flying) a → (∀ p ∈ due, p.fireAt ≤ now) →
      Kept past direct flying (due.foldl (Agenda.goOff s nested now) a) := by
  induction due with
  | nil => exact fun h _ => h
  | cons p due ih =>
    intro a h hdue
    exact ih (h.goOff hnested (hdue p (List.mem_cons_self ..))) fun q hq => hdue q (List.mem_cons_of_mem _ hq)

theorem sweepWithin (s : Setting ε σ) (depth : Nat) :
    ∀ (past : List Entry) (direct : Nat) (flying : List (Armed ε)) (now : Millis) (a : Agenda ε σ),
      Kept past direct flying a → Kept past direct flying (a.sweepWithin s depth now).2 := by
  induction depth with
  | zero => exact fun _ _ _ _ _ h => h
  | succ depth ih =>
    intro past direct flying now a h
    have hperm := s.order_perm a.sweeps (a.due now)
    have hlift : Kept past direct (s.order a.sweeps (a.due now) ++ flying)
        { a with pending := a.pending.filter (fun p => ¬ p.fireAt ≤ now), sweeps := a.sweeps + 1 } := by
      have := h.lift fun p => decide (¬ p.fireAt ≤ now)
      simp only [decide_not, Bool.not_not] at this ⊢
      exact (this.perm (hperm.append_right _)).congr rfl rfl rfl
    refine hlift.goOff_all ih _ ?_
    intro p hp
    have := hperm.mem_iff.1 hp
    simpa [Agenda.due] using (List.mem_filter.1 this).2

end Kept

end Coordination.Alarm
