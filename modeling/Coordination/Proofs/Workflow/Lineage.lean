import Coordination.Proofs.Chart
import Coordination.Proofs.Workflow.Treatment
import Mathlib.Logic.Relation

/-!
# The lineage of a record

An office makes new records of old ones: it moves, ends and postpones them, each time at a reading of the clock that may
be any. A record that was begun and then made anew in several ways has descendants, on as many branches as one likes,
and `Design.Derives` says by which operations one comes from another. Whatever the branch, the descendant keeps the
identity of its ancestor, follows the declared transitions, is not updated earlier than the ancestor, carries an error
just if it has failed, and once it has ended only its deadline can still be moved (`Office.lineage`).

The invariant is `Record.Descends`, kept by every operation (`Record.Descends.make`).
-/

namespace Coordination.Workflow

variable {S : Type}

/-- What an office does to a record. -/
inductive Operation (S : Type) where
  | move (target : S)
  | finish (ending : Ending)
  | postpone (deadline : Millis)

namespace Operation

/-- Why the process fails, if it is made to fail. -/
def reason? : Operation S → Option String
  | .finish ending => ending.error
  | _ => none

def carryOut [ToString S] [DecidableEq S] (now : Millis) (r : Record S) (o : Office S) :
    Operation S → Except (Fault S) (Record S) × Office S
  | .move target => o.move now target r
  | .finish ending => o.finish now ending r
  | .postpone deadline => (.ok (r.postpone deadline now), o)

end Operation

/-! ### What one operation makes of a record -/

namespace Record

private theorem updatedAt_le_touchedAt (now : Millis) (r : Record S) : r.updatedAt ≤ r.touchedAt now :=
  Millis.le_max_right now r.updatedAt

private theorem error_of_finish {r next : Record S} {ending : Ending} {now : Millis}
    (h : r.finish ending now = .ok next) :
    next.error = ending.error ∧ (next.status = .failed ↔ next.error.isSome = true) := by
  obtain ⟨-, rfl⟩ := finish_ok h
  cases ending <;> simp [Ending.error, Ending.status]

end Record

/-! ### Descendants -/

/-- `r` comes from `begun` by the operations `ops`, in a workflow whose chart has the given rules. -/
structure Record.Descends (rules : List (Rule S)) (ops : List (Operation S)) (begun r : Record S) : Prop where
  id : r.id = begun.id
  name : r.name = begun.name
  startedAt : r.startedAt = begun.startedAt
  correlation : r.correlation = begun.correlation
  state : Relation.ReflTransGen (fun source target => ⟨source, target⟩ ∈ rules) begun.state r.state
  updatedAt : begun.updatedAt ≤ r.updatedAt
  /-- Of a record that has ended, only the deadline is moved, and with it the time of the update. -/
  ended : begun.isTerminal = true → r = { begun with deadline := r.deadline, updatedAt := r.updatedAt }
  /-- The error of a process that ran without one is the reason of its failure. -/
  error : begun.isTerminal = false → begun.error = none →
    r.error = ops.findSome? Operation.reason? ∧ (r.status = .failed ↔ r.error.isSome = true)

namespace Record.Descends

variable {rules : List (Rule S)} {ops : List (Operation S)} {begun r next : Record S}

private theorem refl (rules : List (Rule S)) (r : Record S) : r.Descends rules [] r where
  id := rfl
  name := rfl
  startedAt := rfl
  correlation := rfl
  state := .refl
  updatedAt := UInt64.le_refl _
  ended := fun _ => rfl
  error := by
    intro hrunning hnone
    have hstatus : r.status ≠ .failed := by
      intro hfailed
      simp [isTerminal, hfailed, Status.isTerminal] at hrunning
    simp [hnone, hstatus]

private theorem updatedAt_touched (h : begun.Descends rules ops r) (now : Millis) : begun.updatedAt ≤ r.touchedAt now :=
  UInt64.le_trans h.updatedAt (r.updatedAt_le_touchedAt now)

/-- A record that has not ended has no ancestor that has. -/
private theorem begun_running (h : begun.Descends rules ops r) (hr : r.isTerminal = false) :
    begun.isTerminal = false := by
  cases hbegun : begun.isTerminal with
  | false => rfl
  | true =>
    have hstatus : r.status = begun.status := by
      rw [h.ended hbegun]
    rw [isTerminal, hstatus] at hr
    exact hbegun.symm.trans hr

/-- An operation that does not make the process fail leaves the reason of the failure. -/
private theorem findSome?_append (h : begun.Descends rules ops r) {op : Operation S} (hop : op.reason? = none)
    (hrunning : begun.isTerminal = false) (hnone : begun.error = none) :
    (ops ++ [op]).findSome? Operation.reason? = r.error := by
  rw [List.findSome?_append, (h.error hrunning hnone).1]
  simp [hop]

private theorem move [DecidableEq S] (h : begun.Descends rules ops r) {chart : Chart S}
    (hchart : chart = .ofRules rules) {now : Millis} {target : S} (hmove : r.move chart now target = .ok next) :
    begun.Descends rules (ops ++ [.move target]) next := by
  obtain ⟨hr, hallows, rfl⟩ := move_ok hmove
  have hbegun := h.begun_running hr
  subst hchart
  refine ⟨h.id, h.name, h.startedAt, h.correlation, ?_, h.updatedAt_touched now, ?_, ?_⟩
  · exact h.state.tail ((Chart.allows_ofRules rules r.state target).1 hallows)
  · intro hended
    rw [hbegun] at hended
    cases hended
  · intro hrunning hnone
    rw [h.findSome?_append rfl hrunning hnone]
    exact ⟨rfl, (h.error hrunning hnone).2⟩

private theorem finish (h : begun.Descends rules ops r) {now : Millis} {ending : Ending}
    (hfinish : r.finish ending now = .ok next) : begun.Descends rules (ops ++ [.finish ending]) next := by
  obtain ⟨herror, hfailed⟩ := error_of_finish hfinish
  obtain ⟨hr, rfl⟩ := finish_ok hfinish
  have hbegun := h.begun_running hr
  refine ⟨h.id, h.name, h.startedAt, h.correlation, h.state, h.updatedAt_touched now, ?_, ?_⟩
  · intro hended
    rw [hbegun] at hended
    cases hended
  · intro hrunning hnone
    obtain ⟨hfound, hstatus⟩ := h.error hrunning hnone
    -- the process has not failed before, so no operation gave a reason
    have hfresh : r.error = none := by
      cases hcase : r.error with
      | none => rfl
      | some reason =>
        have := hstatus.2 (by rw [hcase]; rfl)
        simp [isTerminal, this, Status.isTerminal] at hr
    refine ⟨?_, hfailed⟩
    rw [herror, List.findSome?_append, ← hfound, hfresh]
    simp [Operation.reason?]

private theorem postpone (h : begun.Descends rules ops r) (deadline now : Millis) :
    begun.Descends rules (ops ++ [.postpone deadline]) (r.postpone deadline now) := by
  refine ⟨h.id, h.name, h.startedAt, h.correlation, h.state, h.updatedAt_touched now, ?_, ?_⟩
  · intro hended
    have hr := h.ended hended
    rw [Record.postpone, hr]
  · intro hrunning hnone
    rw [h.findSome?_append rfl hrunning hnone]
    exact ⟨rfl, (h.error hrunning hnone).2⟩

end Record.Descends

/-! ### Offices that follow a design -/

section

variable [ToString S] [DecidableEq S]

/-- An office that follows the design `w` makes `next` of `r`. -/
def Design.Makes (w : Design S) (op : Operation S) (r next : Record S) : Prop :=
  ∃ (o : Office S) (now : Millis), o.design = w ∧ (op.carryOut now r o).1 = .ok next

/-- The operations, one after the other, make `r` of `begun`. -/
inductive Design.Derives (w : Design S) : List (Operation S) → Record S → Record S → Prop
  | refl (r : Record S) : w.Derives [] r r
  | step {ops : List (Operation S)} {op : Operation S} {begun r next : Record S} (earlier : w.Derives ops begun r)
      (last : w.Makes op r next) : w.Derives (ops ++ [op]) begun next

/-- An operation that succeeds moves or ends a record that has not ended yet, or it postpones any record. -/
private theorem Design.Makes.cases {w : Design S} {op : Operation S} {r next : Record S} (h : w.Makes op r next) :
    ∃ now, (∃ target, op = .move target ∧ r.move w.chart now target = .ok next) ∨
      (∃ ending, op = .finish ending ∧ r.finish ending now = .ok next) ∨
      (∃ deadline, op = .postpone deadline ∧ next = r.postpone deadline now) := by
  obtain ⟨o, now, rfl, hop⟩ := h
  refine ⟨now, ?_⟩
  cases op with
  | move target =>
    refine Or.inl ⟨target, rfl, ?_⟩
    unfold Operation.carryOut Office.move at hop
    cases hmove : r.move o.design.chart now target with
    | error fault => simp [hmove] at hop
    | ok made => simpa [hmove] using hop
  | finish ending =>
    refine Or.inr (Or.inl ⟨ending, rfl, ?_⟩)
    unfold Operation.carryOut Office.finish at hop
    cases hfinish : r.finish ending now with
    | error fault => simp [hfinish] at hop
    | ok made => simpa [hfinish] using hop
  | postpone deadline =>
    refine Or.inr (Or.inr ⟨deadline, rfl, ?_⟩)
    simpa [Operation.carryOut, eq_comm] using hop

/-- Every operation that succeeds makes a descendant. -/
theorem Record.Descends.make {rules : List (Rule S)} {ops : List (Operation S)} {begun r next : Record S}
    (h : begun.Descends rules ops r) {w : Design S} (hchart : w.chart = .ofRules rules) {op : Operation S}
    (hmakes : w.Makes op r next) : begun.Descends rules (ops ++ [op]) next := by
  obtain ⟨now, ⟨target, rfl, hmove⟩ | ⟨ending, rfl, hfinish⟩ | ⟨deadline, rfl, rfl⟩⟩ := hmakes.cases
  · exact h.move hchart hmove
  · exact h.finish hfinish
  · exact h.postpone deadline now

private theorem Design.Derives.descends {w : Design S} {rules : List (Rule S)} (hchart : w.chart = .ofRules rules)
    {ops : List (Operation S)} {begun r : Record S} (h : w.Derives ops begun r) : begun.Descends rules ops r := by
  induction h with
  | refl r => exact .refl rules r
  | step _ hlast ih => exact ih.make hchart hlast

namespace Office

omit [DecidableEq S] in
theorem start_fresh (o : Office S) (now : Millis) (id : Option ProcessId) (key : Option String) :
    (o.start now id key).1 = o.design.fresh (o.identify id).1 key now := by
  cases id <;> rfl

/-- **What a record keeps of its beginning.** Let a process be begun, and let operations that succeed make a record of
it. The record has the identifier, the name, the start and the key of the beginning; its state is reached from the
initial one by declared transitions; and it carries an error just if it has failed, the reason that was given for the
failure. It was not updated before its start, and records that are made of it are not updated before it. If it has
ended, they differ from it at most in the deadline and the time of the update. -/
theorem lineage {o : Office S} {rules : List (Rule S)} (hchart : o.design.chart = .ofRules rules) (now : Millis)
    (id : Option ProcessId) (key : Option String) {ops : List (Operation S)} {r : Record S}
    (h : o.design.Derives ops (o.start now id key).1 r) :
    let begun := (o.start now id key).1
    (r.id = begun.id ∧ r.name = begun.name ∧ r.startedAt = begun.startedAt ∧ r.correlation = begun.correlation) ∧
      Relation.ReflTransGen (fun source target => ⟨source, target⟩ ∈ rules) o.design.initial r.state ∧
      (r.error.isSome = true ↔ r.status = .failed) ∧ r.error = ops.findSome? Operation.reason? ∧
      r.startedAt ≤ r.updatedAt ∧
      ∀ later next, o.design.Derives later r next → r.updatedAt ≤ next.updatedAt ∧
        (r.isTerminal = true → next = { r with deadline := next.deadline, updatedAt := next.updatedAt }) := by
  intro begun
  have hdescends : begun.Descends rules ops r := h.descends hchart
  have hbegun : begun = o.design.fresh (o.identify id).1 key now := o.start_fresh now id key
  obtain ⟨herror, hfailed⟩ := hdescends.error (by rw [hbegun]; rfl) (by rw [hbegun]; rfl)
  have hstate := hdescends.state
  rw [hbegun] at hstate
  have hupdated : r.startedAt ≤ r.updatedAt := by
    have hstarted : begun.startedAt = begun.updatedAt := by
      rw [hbegun]
      rfl
    rw [hdescends.startedAt, hstarted]
    exact hdescends.updatedAt
  refine ⟨⟨hdescends.id, hdescends.name, hdescends.startedAt, hdescends.correlation⟩, hstate, hfailed.symm, herror,
    hupdated, ?_⟩
  intro later next hlater
  have hnext : r.Descends rules later next := hlater.descends hchart
  exact ⟨hnext.updatedAt, hnext.ended⟩

end Office

end

namespace Office

/-- An office for orders, which are paid and then shipped. -/
def orders : Office Nat := .opened ⟨"order", 0, .ofRules [⟨0, 1⟩, ⟨1, 2⟩], some (.ofMillis 50)⟩ .nobody

/-- An order of the time 100. -/
def ordered : Record Nat := (orders.start 100 (some ⟨"p"⟩) (some "cart")).1

/-- The order is paid while the clock says 80, lost at 120, and given another deadline while the clock says 90. -/
def lost : List (Operation Nat) := [.move 1, .finish (.failed "lost"), .postpone 500]

theorem lineage_lost :
    orders.design.chart = .ofRules [⟨0, 1⟩, ⟨1, 2⟩] ∧
      ∃ r, orders.design.Derives lost ordered r ∧
        r = ⟨⟨"p"⟩, "order", .failed, 1, 100, 120, some "cart", some 500, some "lost"⟩ ∧
        r.error = lost.findSome? Operation.reason? ∧ r.startedAt ≤ r.updatedAt ∧
        ∀ later next, orders.design.Derives later r next → next.status = .failed := by
  have hpaid : orders.design.Makes (.move 1) ordered { ordered with state := 1 } := ⟨orders, 80, rfl, rfl⟩
  have hlost : orders.design.Makes (.finish (.failed "lost")) { ordered with state := 1 }
      ⟨⟨"p"⟩, "order", .failed, 1, 100, 120, some "cart", some 150, some "lost"⟩ := ⟨orders, 120, rfl, rfl⟩
  have hpostponed : orders.design.Makes (.postpone 500)
      ⟨⟨"p"⟩, "order", .failed, 1, 100, 120, some "cart", some 150, some "lost"⟩
      ⟨⟨"p"⟩, "order", .failed, 1, 100, 120, some "cart", some 500, some "lost"⟩ := ⟨orders, 90, rfl, rfl⟩
  have hderives := (((Design.Derives.refl ordered).step hpaid).step hlost).step hpostponed
  obtain ⟨-, -, -, herror, hupdated, hlater⟩ := lineage rfl 100 (some ⟨"p"⟩) (some "cart") hderives
  refine ⟨rfl, _, hderives, rfl, herror, hupdated, ?_⟩
  intro later next hnext
  rw [(hlater later next hnext).2 rfl]

end Office

end Coordination.Workflow
