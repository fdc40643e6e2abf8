import Coordination.Exchange.Dispatch
import Coordination.Proofs.Exchange.Roll

/-!
# Plain exchanges

A plain exchange keeps its subscriptions on a roll, and publishes an event to the entries of its kind. To whoever uses
it, an exchange is a plain one: handlers run alike on both, however deep their own publications go and whatever they
change in the meantime (`Mirrors.publishWithin`), and so do calls from outside
(`play_as_plain`).
-/

namespace Coordination.Exchange

/-- An exchange that keeps its subscriptions in one list. -/
structure Plain (V : Type) where
  roll : Roll V
  kept : Table String Ticket
  journal : List (Entry V)

variable {V : Type}

namespace Plain

def opened : Plain V := ⟨.empty, [], []⟩

def record (e : Entry V) (p : Plain V) : Plain V := { p with journal := p.journal ++ [e] }

def subscribe (kind : String) (handler : Handler V) (p : Plain V) : Ticket × Plain V :=
  ((p.roll.subscribe kind handler).1, { p with roll := (p.roll.subscribe kind handler).2 })

def cancel (ticket : Ticket) (p : Plain V) : Bool × Plain V :=
  ((p.roll.cancel ticket).1, { p with roll := (p.roll.cancel ticket).2 })

def clear (kind : Option String) (p : Plain V) : Plain V := { p with roll := p.roll.clear kind }

def keep (name : String) (ticket : Ticket) (p : Plain V) : Plain V := { p with kept := p.kept.insert name ticket }

/-- How a dispatch of a plain exchange ends. -/
abbrev Outcome (ε V : Type) := Option (Except ε Unit × Plain V)

end Plain

/-- Runs a reaction on a plain exchange. -/
def Reaction.runPlain (nested : Event V → Plain V → Plain.Outcome Fault V) :
    Reaction V → Plain V → Plain.Outcome String V
  | .done, p => some (.ok (), p)
  | .fail cause, p => some (.error cause, p)
  | .note value next, p => next.runPlain nested (p.record (.noted value))
  | .publish event next, p =>
    match nested event p with
    | none => none
    | some (outcome, p) => (next outcome).runPlain nested p
  | .subscribe kind handler next, p => (next (p.subscribe kind handler).1).runPlain nested (p.subscribe kind handler).2
  | .cancel ticket next, p => (next (p.cancel ticket).1).runPlain nested (p.cancel ticket).2
  | .clear kind next, p => next.runPlain nested (p.clear kind)
  | .count kind next, p => (next (p.roll.count kind)).runPlain nested p
  | .keep name ticket next, p => next.runPlain nested (p.keep name ticket)
  | .lookUp name next, p => (next (p.kept.find? name)).runPlain nested p

namespace Plain

def dispatch (nested : Event V → Plain V → Outcome Fault V) (e : Event V) :
    List (Subscription V) → Plain V → Outcome Fault V
  | [], p => some (.ok (), p)
  | s :: rest, p =>
    match (s.handler e).runPlain nested (p.record (.entered s.ticket e)) with
    | none => none
    | some (.error cause, p) => some (.error ⟨e.kind, cause⟩, p.record (.left s.ticket e (.error cause)))
    | some (.ok (), p) => dispatch nested e rest (p.record (.left s.ticket e (.ok ())))

/-- Publishes an event to the entries of its kind, in the order of the roll; this is written down if there are any. -/
def publishWithin : Nat → Event V → Plain V → Outcome Fault V
  | 0, _, _ => none
  | depth + 1, e, p =>
    if p.roll.count e.kind = 0 then some (.ok (), p)
    else dispatch (publishWithin depth) e (p.roll.of e.kind) (p.record (.emitting e.kind (p.roll.count e.kind)))

end Plain

/-! ### Exchanges in step -/

/-- An exchange and a plain one that keep the same. -/
structure Mirrors (x : Exchange V) (p : Plain V) : Prop where
  lists : x.registry.Lists p.roll
  kept : x.kept = p.kept
  journal : x.journal = p.journal

/-- Both end with the same answer and keep the same, or neither ends. -/
inductive Agree {α : Type} : Option (α × Exchange V) → Option (α × Plain V) → Prop where
  | unfinished : Agree none none
  | ended (answer : α) {x : Exchange V} {p : Plain V} (h : x.Mirrors p) : Agree (some (answer, x)) (some (answer, p))

namespace Mirrors

variable {x : Exchange V} {p : Plain V}

private theorem opened : (Exchange.opened : Exchange V).Mirrors .opened := ⟨.empty, rfl, rfl⟩

private theorem record (h : x.Mirrors p) (e : Entry V) : (x.record e).Mirrors (p.record e) :=
  ⟨h.lists, h.kept, congrArg (· ++ [e]) h.journal⟩

private theorem subscribe (h : x.Mirrors p) (kind : String) (handler : Handler V) :
    (x.subscribe kind handler).1 = (p.subscribe kind handler).1 ∧
      (x.subscribe kind handler).2.Mirrors (p.subscribe kind handler).2 := by
  obtain ⟨hticket, hlists⟩ := h.lists.subscribe kind handler
  exact ⟨hticket, hlists, h.kept, h.journal⟩

private theorem cancel (h : x.Mirrors p) (ticket : Ticket) :
    (x.cancel ticket).1 = (p.cancel ticket).1 ∧ (x.cancel ticket).2.Mirrors (p.cancel ticket).2 := by
  obtain ⟨hfound, hlists⟩ := h.lists.cancel ticket
  exact ⟨hfound, hlists, h.kept, h.journal⟩

private theorem clear (h : x.Mirrors p) (kind : Option String) : (x.clear kind).Mirrors (p.clear kind) :=
  ⟨h.lists.clear kind, h.kept, h.journal⟩

private theorem keep (h : x.Mirrors p) (name : String) (ticket : Ticket) :
    (x.keep name ticket).Mirrors (p.keep name ticket) :=
  ⟨h.lists, congrArg (fun kept => Table.insert name ticket kept) h.kept, h.journal⟩

variable {nested : Event V → Exchange V → Outcome Fault V} {nested' : Event V → Plain V → Plain.Outcome Fault V}

/-- Publications agree on exchanges that mirror each other. -/
def Nested (nested : Event V → Exchange V → Outcome Fault V) (nested' : Event V → Plain V → Plain.Outcome Fault V) :
    Prop := ∀ e (x : Exchange V) (p : Plain V), x.Mirrors p → Agree (nested e x) (nested' e p)

/-- A reaction runs alike on both. -/
private theorem run (hnested : Nested nested nested') (reaction : Reaction V) (h : x.Mirrors p) :
    Agree (reaction.run nested x) (reaction.runPlain nested' p) := by
  induction reaction generalizing x p with
  | done => exact .ended _ h
  | fail cause => exact .ended _ h
  | note value next ih => exact ih (h.record _)
  | publish event next ih =>
    have hpublish := hnested event x p h
    unfold Reaction.run Reaction.runPlain
    generalize nested event x = outcome at hpublish ⊢
    generalize nested' event p = outcome' at hpublish ⊢
    cases hpublish with
    | unfinished => exact .unfinished
    | ended answer h => exact ih answer h
  | subscribe kind handler next _ ih =>
    obtain ⟨hticket, h⟩ := h.subscribe kind handler
    unfold Reaction.run Reaction.runPlain
    rw [← hticket]
    exact ih _ h
  | cancel ticket next ih =>
    obtain ⟨hfound, h⟩ := h.cancel ticket
    unfold Reaction.run Reaction.runPlain
    rw [← hfound]
    exact ih _ h
  | clear kind next ih => exact ih (h.clear kind)
  | count kind next ih =>
    unfold Reaction.run Reaction.runPlain
    rw [← h.lists.count]
    exact ih _ h
  | keep name ticket next ih => exact ih (h.keep name ticket)
  | lookUp name next ih =>
    unfold Reaction.run Reaction.runPlain
    rw [← h.kept]
    exact ih _ h

private theorem dispatch (hnested : Nested nested nested') (e : Event V) (group : List (Subscription V))
    (h : x.Mirrors p) :
    Agree (Exchange.dispatch nested e group x) (Plain.dispatch nested' e group p) := by
  induction group generalizing x p with
  | nil => exact .ended _ h
  | cons s group ih =>
    have hrun := run hnested (s.handler e) (h.record (.entered s.ticket e))
    unfold Exchange.dispatch Plain.dispatch
    generalize Reaction.run nested (s.handler e) _ = outcome at hrun ⊢
    generalize Reaction.runPlain nested' (s.handler e) _ = outcome' at hrun ⊢
    cases hrun with
    | unfinished => exact .unfinished
    | ended answer h =>
      cases answer with
      | error cause => exact .ended _ (h.record _)
      | ok _ => exact ih (h.record _)

/-- What an exchange does with an event, told by the roll. -/
private theorem publishWithin_eq (h : x.Mirrors p) (depth : Nat) (e : Event V) :
    Exchange.publishWithin (depth + 1) e x =
      if p.roll.count e.kind = 0 then some (.ok (), x)
      else Exchange.dispatch (Exchange.publishWithin depth) e (p.roll.of e.kind)
        (x.record (.emitting e.kind (p.roll.count e.kind))) := by
  have hgroup := h.lists.groups e.kind
  rw [Exchange.publishWithin, hgroup, ← Roll.length_of]
  by_cases hnone : p.roll.of e.kind = []
  · rw [if_pos hnone, hnone]
    rfl
  · rw [if_neg hnone, if_neg fun hlength => hnone (List.eq_nil_of_length_eq_zero hlength)]

/-- **An event is published alike on both**, and so are the events that handlers publish in turn. -/
theorem publishWithin (depth : Nat) : Nested (V := V) (Exchange.publishWithin depth) (Plain.publishWithin depth) := by
  induction depth with
  | zero => exact fun _ _ _ _ => .unfinished
  | succ depth ih =>
    intro e x p h
    rw [h.publishWithin_eq, Plain.publishWithin]
    split
    · exact .ended _ h
    · exact dispatch ih e _ (h.record _)

end Mirrors

/-! ### Calls from outside -/

/-- A call on an exchange from outside. -/
inductive Call (V : Type) where
  | subscribe (kind : String) (handler : Handler V)
  | cancel (ticket : Ticket)
  | clear (kind : Option String)
  | count (kind : String)
  | publish (depth : Nat) (event : Event V)

/-- What a call answers. -/
inductive Reply where
  | ticket (ticket : Ticket)
  | found (found : Bool)
  | cleared
  | count (count : Nat)
  | published (outcome : Except Fault Unit)

def Call.perform : Call V → Exchange V → Option (Reply × Exchange V)
  | .subscribe kind handler, x => some (.ticket (x.subscribe kind handler).1, (x.subscribe kind handler).2)
  | .cancel ticket, x => some (.found (x.cancel ticket).1, (x.cancel ticket).2)
  | .clear kind, x => some (.cleared, x.clear kind)
  | .count kind, x => some (.count (x.count kind), x)
  | .publish depth e, x => (publishWithin depth e x).map fun r => (.published r.1, r.2)

def Call.performPlain : Call V → Plain V → Option (Reply × Plain V)
  | .subscribe kind handler, p => some (.ticket (p.subscribe kind handler).1, (p.subscribe kind handler).2)
  | .cancel ticket, p => some (.found (p.cancel ticket).1, (p.cancel ticket).2)
  | .clear kind, p => some (.cleared, p.clear kind)
  | .count kind, p => some (.count (p.roll.count kind), p)
  | .publish depth e, p => (p.publishWithin depth e).map fun r => (.published r.1, r.2)

/-- Calls one after the other, with their replies. -/
def play : List (Call V) → Exchange V → Option (List Reply × Exchange V)
  | [], x => some ([], x)
  | c :: calls, x =>
    match c.perform x with
    | none => none
    | some (reply, x) => (play calls x).map fun r => (reply :: r.1, r.2)

def Plain.play : List (Call V) → Plain V → Option (List Reply × Plain V)
  | [], p => some ([], p)
  | c :: calls, p =>
    match c.performPlain p with
    | none => none
    | some (reply, p) => (play calls p).map fun r => (reply :: r.1, r.2)

private theorem Agree.same {α : Type} {answer answer' : α} {x : Exchange V} {p : Plain V} (hsame : answer = answer')
    (h : x.Mirrors p) : Agree (some (answer, x)) (some (answer', p)) := hsame ▸ .ended answer h

private theorem Agree.map {α β : Type} {outcome : Option (α × Exchange V)} {outcome' : Option (α × Plain V)}
    (h : Agree outcome outcome') (f : α → β) :
    Agree (outcome.map fun r => (f r.1, r.2)) (outcome'.map fun r => (f r.1, r.2)) := by
  cases h with
  | unfinished => exact .unfinished
  | ended answer h => exact .ended (f answer) h

namespace Mirrors

variable {x : Exchange V} {p : Plain V}

private theorem perform (h : x.Mirrors p) (c : Call V) : Agree (c.perform x) (c.performPlain p) := by
  cases c with
  | subscribe kind handler =>
    obtain ⟨hticket, h⟩ := h.subscribe kind handler
    exact .same (congrArg Reply.ticket hticket) h
  | cancel ticket =>
    obtain ⟨hfound, h⟩ := h.cancel ticket
    exact .same (congrArg Reply.found hfound) h
  | clear kind => exact .ended _ (h.clear kind)
  | count kind => exact .same (congrArg Reply.count (h.lists.count kind)) h
  | publish depth e => exact (publishWithin depth e x p h).map Reply.published

private theorem play (h : x.Mirrors p) (calls : List (Call V)) : Agree (x.play calls) (p.play calls) := by
  induction calls generalizing x p with
  | nil => exact .ended _ h
  | cons c calls ih =>
    have hcall := h.perform c
    unfold Exchange.play Plain.play
    generalize c.perform x = outcome at hcall ⊢
    generalize c.performPlain p = outcome' at hcall ⊢
    cases hcall with
    | unfinished => exact .unfinished
    | ended reply h => exact (ih h).map (reply :: ·)

end Mirrors

/-- **An exchange is a plain one.** Let an exchange be used in any way, by calls from outside and by handlers while they
run. Its replies are those of a plain exchange, and so is its journal; it does not come to an end only if the plain one
does not. Whatever it has come to: a ticket that is given out is greater than all before; a cancellation tells whether
the list had an entry with the ticket, and changes nothing if not; the groups are what the list has of each kind, and
none is empty. So an event is dispatched to the entries of its kind, in their order, and this is written down, exactly
if there are any. As handlers may give up at any point, all this holds in the middle of a dispatch as well. -/
theorem play_as_plain (calls : List (Call V)) :
    (opened.play calls = none ↔ Plain.opened.play calls = none) ∧
      ∀ replies x, opened.play calls = some (replies, x) →
        ∃ p : Plain V, Plain.opened.play calls = some (replies, p) ∧
          x.journal = p.journal ∧ x.kept = p.kept ∧
          p.roll.given.Pairwise (fun t t' => t.number < t'.number) ∧
          (p.roll.entries.map (·.ticket)).Sublist p.roll.given ∧
          (∀ kind handler, ∀ t ∈ p.roll.given, t.number < (x.subscribe kind handler).1.number) ∧
          (∀ ticket, (x.cancel ticket).1 = true ↔ ∃ e ∈ p.roll.entries, e.ticket = ticket) ∧
          (∀ ticket, (x.cancel ticket).1 = false → (x.cancel ticket).2 = x) ∧
          (∀ kind, x.registry.group? kind = if p.roll.of kind = [] then none else some (p.roll.of kind)) ∧
          (∀ g ∈ x.registry.groups, g.2 ≠ []) ∧
          (∀ kind, x.count kind = p.roll.count kind) ∧
          ∀ depth e, publishWithin (depth + 1) e x =
            if x.count e.kind = 0 then some (.ok (), x)
            else dispatch (publishWithin depth) e (p.roll.of e.kind)
              (x.record (.emitting e.kind (x.count e.kind))) := by
  have hagree : Agree (opened.play calls) (Plain.opened.play calls) := Mirrors.opened.play calls
  generalize opened.play calls = outcome at hagree ⊢
  generalize Plain.opened.play calls = outcome' at hagree ⊢
  cases hagree with
  | unfinished => exact ⟨by simp, nofun⟩
  | @ended replies x p h =>
    have hlists := h.lists
    refine ⟨by simp, ?_⟩
    rintro _ _ hended
    cases hended
    refine ⟨p, rfl, h.journal, h.kept, hlists.sound.ascending, hlists.sound.listed, ?_, ?_, ?_, hlists.groups,
      fun g hg => (hlists.mem_groups.1 hg).2, hlists.count, ?_⟩
    · intro kind handler t ht
      rw [(h.subscribe kind handler).1]
      exact Nat.lt_succ_of_le (hlists.sound.number_le ht)
    · intro ticket
      rw [(h.cancel ticket).1]
      exact Roll.holds_iff
    · intro ticket habsent
      rw [(h.cancel ticket).1] at habsent
      exact congrArg (fun r => { x with registry := r }) (hlists.cancel_absent habsent)
    · intro depth e
      have hcount : x.count e.kind = p.roll.count e.kind := hlists.count e.kind
      rw [h.publishWithin_eq, hcount]

/-- The first handler cancels the second one, and subscribes one that fails; this takes effect at the next dispatch. -/
example :
    let swap : Handler Nat := fun _ => .cancel ⟨2⟩ fun _ => .subscribe "paid" (fun _ => .fail "late") fun _ => .done
    let paid : Event Nat := ⟨"paid", ⟨"s"⟩, 0⟩
    (opened.play [.subscribe "paid" swap, .subscribe "paid" fun _ => .note 7 .done, .publish 1 paid, .count "paid",
      .publish 1 paid, .cancel ⟨2⟩, .clear (some "paid"), .publish 1 paid]).map Prod.fst =
      some [.ticket ⟨1⟩, .ticket ⟨2⟩, .published (.ok ()), .count 2, .published (.error ⟨"paid", "late"⟩), .found false,
        .cleared, .published (.ok ())] := by
  rfl

end Coordination.Exchange
