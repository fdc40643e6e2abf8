import Coordination.Exchange.Dispatch
import Coordination.Proofs.Exchange.Roll

/-!
# The visits of a publication

A publication visits handlers. From the moment a handler is entered until it is left, all that the journal tells is the
handler's own doing, with the publications that it made and their visits (`Settled`). The handlers that a publication
visits itself are those that were subscribed to its kind when it began, in the order of their subscription, up to the
first one that fails (`publish_visits`). What handlers change in the meantime has no influence on this.

An exchange is changed by subscriptions, cancellations and entries of the journal only (`Change`), in the middle of a
dispatch as well; so what holds of an exchange after any changes holds wherever a publication can begin.
-/

namespace Coordination.Exchange

variable {V : Type}

/-! ### Changes -/

/-- What can be done to an exchange, by handlers as well as from outside. -/
inductive Change (V : Type) where
  | subscribe (kind : String) (handler : Handler V)
  | cancel (ticket : Ticket)
  | clear (kind : Option String)
  | keep (name : String) (ticket : Ticket)
  | record (e : Entry V)

def Change.make : Change V → Exchange V → Exchange V
  | .subscribe kind handler, x => (x.subscribe kind handler).2
  | .cancel ticket, x => (x.cancel ticket).2
  | .clear kind, x => x.clear kind
  | .keep name ticket, x => x.keep name ticket
  | .record e, x => x.record e

/-- The exchange after changes, one after the other. -/
def after (changes : List (Change V)) (x : Exchange V) : Exchange V := changes.foldl (fun x c => c.make x) x

private theorem after_append (changes changes' : List (Change V)) (x : Exchange V) :
    x.after (changes ++ changes') = (x.after changes).after changes' :=
  List.foldl_append

/-- Whatever is changed, the subscriptions are those of a roll. -/
private theorem exists_lists_after (changes : List (Change V)) {x : Exchange V} {l : Roll V} (h : x.registry.Lists l) :
    ∃ l', (x.after changes).registry.Lists l' := by
  induction changes generalizing x l with
  | nil => exact ⟨l, h⟩
  | cons c changes ih =>
    cases c with
    | subscribe kind handler => exact ih (h.subscribe kind handler).2
    | cancel ticket => exact ih (h.cancel ticket).2
    | clear kind => exact ih (h.clear kind)
    | keep name ticket => exact ih (x := x.keep name ticket) h
    | record e => exact ih (x := x.record e) h

/-- Of each kind, the subscriptions stand in the order in which they were made. -/
private theorem Registry.Lists.ascending {r : Registry V} {l : Roll V} (h : r.Lists l) (kind : String) :
    (((r.group? kind).getD []).map (·.ticket)).Pairwise fun t t' => t.number < t'.number := by
  rw [h.getD_group, Roll.of, List.map_map]
  exact h.sound.ascending.sublist ((List.filter_sublist.map _).trans h.sound.listed)

/-! ### Journals -/

/-- An entry that tells neither that a handler was entered nor that one was left. -/
def Entry.isRemark : Entry V → Bool
  | .emitting .. => true
  | .noted _ => true
  | _ => false

/-- A part of a journal in which every handler that was entered has been left as well, and in between tells of nothing
but what was done for this handler. -/
inductive Settled : List (Entry V) → Prop where
  | nil : Settled []
  | remark {e : Entry V} {rest : List (Entry V)} (h : e.isRemark = true) (hrest : Settled rest) : Settled (e :: rest)
  | visit (ticket : Ticket) (event : Event V) (outcome : Except String Unit) {within rest : List (Entry V)}
      (hwithin : Settled within) (hrest : Settled rest) :
      Settled (.entered ticket event :: (within ++ .left ticket event outcome :: rest))

private theorem Settled.append {written written' : List (Entry V)} (h : Settled written) (h' : Settled written') :
    Settled (written ++ written') := by
  induction h with
  | nil => exact h'
  | remark he _ ih => exact .remark he ih
  | visit ticket event outcome hwithin _ _ ih =>
    rw [List.cons_append, List.append_assoc, List.cons_append]
    exact .visit ticket event outcome hwithin ih

/-- From `x` the exchange came to `y` by changes, and what was written down is settled. -/
structure Leads (x y : Exchange V) : Prop where
  changes : ∃ changes, y = x.after changes
  journal : ∃ written, y.journal = x.journal ++ written ∧ Settled written

namespace Leads

variable {x y z : Exchange V}

private theorem refl (x : Exchange V) : x.Leads x := ⟨⟨[], rfl⟩, ⟨[], (List.append_nil _).symm, .nil⟩⟩

private theorem trans (h₁ : x.Leads y) (h₂ : y.Leads z) : x.Leads z := by
  obtain ⟨⟨changes₁, rfl⟩, written₁, hjournal₁, hsettled₁⟩ := h₁
  obtain ⟨⟨changes₂, rfl⟩, written₂, hjournal₂, hsettled₂⟩ := h₂
  refine ⟨⟨changes₁ ++ changes₂, (after_append ..).symm⟩, written₁ ++ written₂, ?_, hsettled₁.append hsettled₂⟩
  rw [hjournal₂, hjournal₁, List.append_assoc]

/-- A change that is not written down. -/
private theorem quiet (c : Change V) (x : Exchange V) (hjournal : (c.make x).journal = x.journal) :
    x.Leads (c.make x) :=
  ⟨⟨[c], rfl⟩, ⟨[], by rw [hjournal, List.append_nil], .nil⟩⟩

private theorem remark {e : Entry V} (he : e.isRemark = true) (x : Exchange V) : x.Leads (x.record e) :=
  ⟨⟨[.record e], rfl⟩, ⟨[e], rfl, .remark he .nil⟩⟩

end Leads

/-! ### Reactions and dispatches -/

/-- What one handler did when it received an event: all that was written down from its entry until it was left. -/
structure Visit (V : Type) where
  subscription : Subscription V
  within : List (Entry V)
  outcome : Except String Unit

/-- What the journal tells of a visit. -/
def Visit.entries (e : Event V) (v : Visit V) : List (Entry V) :=
  .entered v.subscription.ticket e :: (v.within ++ [.left v.subscription.ticket e v.outcome])

/-- The event `e` is handed to one subscription after the other: each handler runs from the exchange that the one
before it has left, and to its end. -/
inductive Visits (nested : Event V → Exchange V → Outcome Fault V) (e : Event V) :
    List (Visit V) → Exchange V → Exchange V → Prop where
  | nil (x : Exchange V) : Visits nested e [] x x
  | cons {v : Visit V} {visits : List (Visit V)} {x y z : Exchange V}
      (hrun : (v.subscription.handler e).run nested (x.record (.entered v.subscription.ticket e)) =
        some (v.outcome, y))
      (hjournal : y.journal = x.journal ++ .entered v.subscription.ticket e :: v.within) (hwithin : Settled v.within)
      (hrest : Visits nested e visits (y.record (.left v.subscription.ticket e v.outcome)) z) :
      Visits nested e (v :: visits) x z

/-- All handlers of the group were visited and succeeded; or those up to the first one that failed, whose error is the
cause of the fault. -/
def Serves (kind : String) (group : List (Subscription V)) (visits : List (Visit V)) (result : Except Fault Unit) :
    Prop :=
  (result = .ok () ∧ visits.map Visit.subscription = group ∧ ∀ v ∈ visits, v.outcome = .ok ()) ∨
    ∃ earlier last skipped cause, visits = earlier ++ [last] ∧ group = visits.map Visit.subscription ++ skipped ∧
      (∀ v ∈ earlier, v.outcome = .ok ()) ∧ last.outcome = .error cause ∧ result = .error ⟨kind, cause⟩

/-- Publications lead from exchange to exchange. -/
def Leading (nested : Event V → Exchange V → Outcome Fault V) : Prop :=
  ∀ e (x : Exchange V) result y, nested e x = some (result, y) → x.Leads y

section

variable {nested : Event V → Exchange V → Outcome Fault V} {x y : Exchange V}

private theorem Reaction.run_leads (hnested : Leading nested) (reaction : Reaction V) {outcome : Except String Unit}
    (h : reaction.run nested x = some (outcome, y)) : x.Leads y := by
  induction reaction generalizing x with
  | done =>
    cases h
    exact .refl _
  | fail cause =>
    cases h
    exact .refl _
  | note value next ih => exact (Leads.remark rfl x).trans (ih h)
  | publish event next ih =>
    unfold Reaction.run at h
    cases hpublish : nested event x with
    | none =>
      rw [hpublish] at h
      cases h
    | some answer =>
      rw [hpublish] at h
      exact (hnested event x answer.1 answer.2 hpublish).trans (ih answer.1 h)
  | subscribe kind handler next _ ih => exact (Leads.quiet (.subscribe kind handler) x rfl).trans (ih _ h)
  | cancel ticket next ih => exact (Leads.quiet (.cancel ticket) x rfl).trans (ih _ h)
  | clear kind next ih => exact (Leads.quiet (.clear kind) x rfl).trans (ih h)
  | count kind next ih => exact ih _ h
  | keep name ticket next ih => exact (Leads.quiet (.keep name ticket) x rfl).trans (ih h)
  | lookUp name next ih => exact ih _ h

/-- A dispatch visits the handlers of its group in turn, and none after one that fails. -/
private theorem dispatch_visits (hnested : Leading nested) (e : Event V) (group : List (Subscription V))
    {result : Except Fault Unit} (h : dispatch nested e group x = some (result, y)) :
    ∃ visits, Visits nested e visits x y ∧ Serves e.kind group visits result := by
  induction group generalizing x with
  | nil =>
    cases h
    exact ⟨[], .nil _, Or.inl ⟨rfl, rfl, nofun⟩⟩
  | cons s group ih =>
    unfold dispatch at h
    cases hrun : (s.handler e).run nested (x.record (.entered s.ticket e)) with
    | none =>
      rw [hrun] at h
      cases h
    | some answer =>
      obtain ⟨outcome, z⟩ := answer
      rw [hrun] at h
      obtain ⟨-, within, hjournal, hwithin⟩ := (s.handler e).run_leads hnested hrun
      have hwritten : z.journal = x.journal ++ .entered s.ticket e :: within := by
        rw [hjournal, record, List.append_assoc, List.singleton_append]
      cases outcome with
      | error cause =>
        cases h
        exact ⟨[⟨s, within, .error cause⟩], .cons hrun hwritten hwithin (.nil _),
          Or.inr ⟨[], _, group, cause, rfl, rfl, nofun, rfl, rfl⟩⟩
      | ok _ =>
        obtain ⟨visits, hvisits, hserves⟩ := ih h
        refine ⟨⟨s, within, .ok ()⟩ :: visits, .cons hrun hwritten hwithin hvisits, ?_⟩
        rcases hserves with ⟨hresult, hall, hok⟩ | ⟨earlier, last, skipped, cause, rfl, hgroup, hok, hlast, hresult⟩
        · refine Or.inl ⟨hresult, congrArg (s :: ·) hall, ?_⟩
          exact List.forall_mem_cons.2 ⟨rfl, hok⟩
        · refine Or.inr ⟨⟨s, within, .ok ()⟩ :: earlier, last, skipped, cause, rfl, congrArg (s :: ·) hgroup, ?_, hlast,
            hresult⟩
          exact List.forall_mem_cons.2 ⟨rfl, hok⟩

namespace Visits

variable {e : Event V} {visits : List (Visit V)}

private theorem journal (h : Visits nested e visits x y) :
    y.journal = x.journal ++ visits.flatMap (Visit.entries e) := by
  induction h with
  | nil x => exact (List.append_nil _).symm
  | cons _ hjournal _ _ ih =>
    rw [ih, record, hjournal, List.flatMap_cons, Visit.entries]
    simp only [List.append_assoc, List.cons_append, List.nil_append]

private theorem settled (h : Visits nested e visits x y) : Settled (visits.flatMap (Visit.entries e)) := by
  induction h with
  | nil => exact .nil
  | cons _ _ hwithin _ ih =>
    rw [List.flatMap_cons, Visit.entries, List.cons_append, List.append_assoc]
    exact .visit _ _ _ hwithin ih

private theorem within (h : Visits nested e visits x y) : ∀ v ∈ visits, Settled v.within := by
  induction h with
  | nil => exact nofun
  | cons _ _ hwithin _ ih => exact List.forall_mem_cons.2 ⟨hwithin, ih⟩

/-- Visits lead from exchange to exchange. -/
private theorem leads (hnested : Leading nested) (h : Visits nested e visits x y) : x.Leads y := by
  refine ⟨?_, _, h.journal, h.settled⟩
  induction h with
  | nil x => exact ⟨[], rfl⟩
  | @cons v _ _ _ _ hrun _ _ _ ih =>
    obtain ⟨changes, rfl⟩ := ((v.subscription.handler e).run_leads hnested hrun).changes
    obtain ⟨changes', rfl⟩ := ih
    refine ⟨.record (.entered v.subscription.ticket e) :: changes ++
      .record (.left v.subscription.ticket e v.outcome) :: changes', ?_⟩
    rw [after_append]
    rfl

end Visits

end

/-! ### Publications -/

/-- The subscriptions that a publication finds. -/
def group (kind : String) (x : Exchange V) : List (Subscription V) := (x.registry.group? kind).getD []

/-- The exchange when a dispatch begins. -/
def starting (kind : String) (x : Exchange V) : Exchange V :=
  match x.registry.group? kind with
  | none => x
  | some group => x.record (.emitting kind group.length)

private theorem starting_leads (kind : String) (x : Exchange V) : x.Leads (x.starting kind) := by
  unfold starting
  split
  · exact .refl x
  · exact .remark rfl x

/-- A dispatch is written down if there is anybody to dispatch to. -/
private theorem Registry.Lists.journal_starting {x : Exchange V} {l : Roll V} (h : x.registry.Lists l) (kind : String) :
    (x.starting kind).journal =
      x.journal ++ if x.group kind = [] then [] else [.emitting kind (x.group kind).length] := by
  have hfound : x.group kind = l.of kind := h.getD_group kind
  rw [starting, h.groups, hfound]
  by_cases hnone : l.of kind = []
  · simp only [hnone, ↓reduceIte, List.append_nil]
  · simp only [hnone, ↓reduceIte]
    rfl

/-- A publication dispatches its event to the subscriptions that it finds. -/
private theorem publishWithin_eq_dispatch (depth : Nat) (e : Event V) (x : Exchange V) :
    publishWithin (depth + 1) e x = dispatch (publishWithin depth) e (x.group e.kind) (x.starting e.kind) := by
  unfold publishWithin group starting
  cases x.registry.group? e.kind <;> rfl

private theorem publishWithin_leading (depth : Nat) : Leading (publishWithin (V := V) depth) := by
  induction depth with
  | zero => exact fun _ _ _ _ h => nomatch h
  | succ depth ih =>
    intro e x result y h
    rw [publishWithin_eq_dispatch] at h
    obtain ⟨visits, hvisits, -⟩ := dispatch_visits ih e _ h
    exact (x.starting_leads e.kind).trans (hvisits.leads ih)

section

variable {nested nested' : Event V → Exchange V → Outcome Fault V}

/-- Whatever `nested` answers, `nested'` answers as well. -/
def Extends (nested nested' : Event V → Exchange V → Outcome Fault V) : Prop :=
  ∀ e (x : Exchange V) answer, nested e x = some answer → nested' e x = some answer

private theorem Reaction.run_extends (h : Extends nested nested') (reaction : Reaction V) {x : Exchange V}
    {answer : Except String Unit × Exchange V} (hrun : reaction.run nested x = some answer) :
    reaction.run nested' x = some answer := by
  induction reaction generalizing x with
  | done => exact hrun
  | fail cause => exact hrun
  | note value next ih => exact ih hrun
  | publish event next ih =>
    unfold Reaction.run at hrun ⊢
    cases hpublish : nested event x with
    | none =>
      rw [hpublish] at hrun
      cases hrun
    | some published =>
      rw [hpublish] at hrun
      rw [h event x published hpublish]
      exact ih published.1 hrun
  | subscribe kind handler next _ ih => exact ih _ hrun
  | cancel ticket next ih => exact ih _ hrun
  | clear kind next ih => exact ih hrun
  | count kind next ih => exact ih _ hrun
  | keep name ticket next ih => exact ih hrun
  | lookUp name next ih => exact ih _ hrun

private theorem dispatch_extends (h : Extends nested nested') (e : Event V) (group : List (Subscription V))
    {x : Exchange V} {answer : Except Fault Unit × Exchange V} (hdispatch : dispatch nested e group x = some answer) :
    dispatch nested' e group x = some answer := by
  induction group generalizing x with
  | nil => exact hdispatch
  | cons s group ih =>
    unfold dispatch at hdispatch ⊢
    cases hrun : (s.handler e).run nested (x.record (.entered s.ticket e)) with
    | none =>
      rw [hrun] at hdispatch
      cases hdispatch
    | some ran =>
      rw [hrun] at hdispatch
      rw [(s.handler e).run_extends h hrun]
      obtain ⟨cause | _, y⟩ := ran
      · exact hdispatch
      · exact ih hdispatch

end

/-- **The depth decides nothing** but whether there is an answer: a greater one gives the same. -/
theorem publishWithin_extends {depth depth' : Nat} (h : depth ≤ depth') :
    Extends (publishWithin (V := V) depth) (publishWithin depth') := by
  induction depth generalizing depth' with
  | zero => exact fun _ _ _ h => nomatch h
  | succ depth ih =>
    obtain ⟨depth', rfl⟩ : ∃ n, depth' = n + 1 := ⟨depth' - 1, by omega⟩
    intro e x answer hpublish
    rw [publishWithin_eq_dispatch] at hpublish ⊢
    exact dispatch_extends (ih (Nat.le_of_succ_le_succ h)) e _ hpublish

/-- **A publication serves those whom it finds.** Let an exchange be changed in any way, by handlers and from outside,
and let an event be published on it with an answer, at whatever depth. The handlers that the publication visits itself
are the first ones of those that were subscribed to the kind of the event when it began, in the order of the
subscriptions. One comes after the other: each runs to its end, with all the publications that it makes, before the
next one is entered. Either all of them are visited and succeed, and so does the publication; or the visits end with
the first handler that fails, and the fault has the kind of the event and this handler's error as its cause. What is
subscribed and cancelled meanwhile changes nothing of this. -/
theorem publish_visits (changes : List (Change V)) (depth : Nat) (e : Event V) {result : Except Fault Unit}
    {y : Exchange V} (h : publishWithin (depth + 1) e (opened.after changes) = some (result, y)) :
    let x := opened.after changes
    let opening := if x.group e.kind = [] then [] else [.emitting e.kind (x.group e.kind).length]
    ((x.group e.kind).map (·.ticket)).Pairwise (fun t t' => t.number < t'.number) ∧
      (∃ visits, Visits (publishWithin depth) e visits (x.starting e.kind) y ∧
        Serves e.kind (x.group e.kind) visits result ∧
        y.journal = x.journal ++ opening ++ visits.flatMap (Visit.entries e) ∧
        ∀ v ∈ visits, Settled v.within) ∧
      (∀ depth', depth ≤ depth' → publishWithin (depth' + 1) e x = some (result, y)) ∧
      ∃ more, y = opened.after (changes ++ more) := by
  intro x opening
  obtain ⟨l, hlists⟩ := exists_lists_after changes (x := opened) Registry.Lists.empty
  have hdispatch := h
  rw [publishWithin_eq_dispatch] at hdispatch
  obtain ⟨visits, hvisits, hserves⟩ := dispatch_visits (publishWithin_leading depth) e _ hdispatch
  have hopening : (x.starting e.kind).journal = x.journal ++ opening := hlists.journal_starting e.kind
  refine ⟨hlists.ascending e.kind, ⟨visits, hvisits, hserves, ?_, hvisits.within⟩, ?_, ?_⟩
  · rw [hvisits.journal, hopening]
  · exact fun depth' hdepth => publishWithin_extends (Nat.succ_le_succ hdepth) e x _ h
  · obtain ⟨more, hmore⟩ := (publishWithin_leading (depth + 1) e x result y h).changes
    exact ⟨more, by rw [hmore, after_append]⟩

/-- Subscribers to payments: the first one cancels the second, subscribes another, and publishes the shipment; the
second one fails. -/
def counter : List (Change Nat) :=
  [.subscribe "paid" fun e => .cancel ⟨2⟩ fun _ => .subscribe "paid" (fun _ => .done) fun _ =>
      .publish (e.followUp "shipped" 7) fun _ => .done,
    .subscribe "paid" fun _ => .fail "lost", .subscribe "paid" fun _ => .done,
    .subscribe "shipped" fun e => .note e.payload .done]

theorem publish_visits_counter :
    ∃ y, publishWithin 2 ⟨"paid", ⟨"s"⟩, 0⟩ (opened.after counter) = some (.error ⟨"paid", "lost"⟩, y) ∧
      y.count "paid" = 3 ∧
      ∃ visits, Serves "paid" ((opened.after counter).group "paid") visits (.error ⟨"paid", "lost"⟩) ∧
        y.journal = .emitting "paid" 3 :: visits.flatMap (Visit.entries ⟨"paid", ⟨"s"⟩, 0⟩) ∧
        ∀ v ∈ visits, Settled v.within := by
  refine ⟨_, rfl, rfl, ?_⟩
  obtain ⟨-, ⟨visits, -, hserves, hjournal, hwithin⟩, -⟩ := publish_visits counter 1 ⟨"paid", ⟨"s"⟩, 0⟩ rfl
  exact ⟨visits, hserves, hjournal, hwithin⟩

end Coordination.Exchange
