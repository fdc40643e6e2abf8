import Coordination.Proofs.Workflow.Lineage

/-!
# What operations answer and announce

An operation of an office on a record either makes a new record and announces this once, or is refused and announces
nothing. Two guards decide: a process that has ended takes no operation, and only after that the chart is asked whether
the transition is declared. So the fault is that of the first guard, whatever the rules say, and it names what it is
about (`Record.move_eq_error_iff`, `Record.finish_eq_error_iff`). What is not refused is done, and changes nothing but
what the operation is for (`Record.move_eq_ok_iff`, `Record.finish_eq_ok_iff`). The notice can be read off the old
record and the new one, and nothing else becomes of the office (`Office.Answers`).
-/

namespace Coordination.Workflow

variable {S : Type}

namespace Record

variable {r next : Record S} {now : Millis}

private theorem isTerminal_eq_false_iff : r.isTerminal = false ↔ r.status = .running := by
  unfold isTerminal
  cases r.status <;> simp [Status.isTerminal]

private theorem requireRunning_eq_error {fault : Fault S} :
    r.requireRunning = .error fault ↔ r.isTerminal = true ∧ fault = .terminated r.id r.status := by
  unfold requireRunning
  cases r.isTerminal <;> simp [eq_comm]

/-! ### Endings -/

theorem finish_eq_error_iff {ending : Ending} {fault : Fault S} :
    r.finish ending now = .error fault ↔ r.isTerminal = true ∧ fault = .terminated r.id r.status := by
  rw [← requireRunning_eq_error]
  unfold finish
  cases r.requireRunning <;> simp

theorem finish_eq_ok_iff {ending : Ending} :
    r.finish ending now = .ok next ↔ r.status = .running ∧
      next = { r with status := ending.status, error := ending.error, updatedAt := max now r.updatedAt } := by
  rw [← isTerminal_eq_false_iff]
  constructor
  · exact finish_ok
  · rintro ⟨hrunning, rfl⟩
    unfold finish
    rw [requireRunning_eq_ok.2 hrunning]
    rfl

/-! ### Transitions -/

variable [DecidableEq S] {chart : Chart S} {target : S}

/-- The chart is asked only if the process runs. -/
private theorem move_of_running (hrunning : r.isTerminal = false) :
    r.move chart now target =
      ((chart.check r.state target).mapError .invalidTransition).map fun _ =>
        { r with state := target, updatedAt := r.touchedAt now } := by
  unfold move
  rw [requireRunning_eq_ok.2 hrunning]
  dsimp only
  cases chart.check r.state target <;> rfl

private theorem move_of_ended (hended : r.isTerminal = true) :
    r.move chart now target = .error (.terminated r.id r.status) := by
  unfold move
  rw [requireRunning_eq_error.2 ⟨hended, rfl⟩]

theorem move_eq_error_iff {fault : Fault S} :
    r.move chart now target = .error fault ↔
      (r.isTerminal = true ∧ fault = .terminated r.id r.status) ∨
        (r.status = .running ∧ chart.allows r.state target = false ∧
          fault = .invalidTransition ⟨r.state, target⟩) := by
  rw [← isTerminal_eq_false_iff]
  cases hended : r.isTerminal with
  | true =>
    rw [move_of_ended hended]
    simp [@eq_comm _ fault]
  | false =>
    rw [move_of_running hended]
    unfold Chart.check
    cases chart.allows r.state target <;> simp [Except.mapError, Except.map, @eq_comm _ fault]

theorem move_eq_ok_iff :
    r.move chart now target = .ok next ↔ r.status = .running ∧ chart.allows r.state target = true ∧
      next = { r with state := target, updatedAt := max now r.updatedAt } := by
  rw [← isTerminal_eq_false_iff]
  constructor
  · exact move_ok
  · rintro ⟨hrunning, hallows, rfl⟩
    rw [move_of_running hrunning, (chart.check_eq_ok_iff r.state target).2 hallows]
    rfl

end Record

/-! ### Offices -/

/-- What is announced of an ending, read off the record that it makes. -/
def Ending.notice (next : Record S) : Ending → Notice S
  | .completed => .completed next.id
  | .failed _ => .failed next.id next.error
  | .timedOut => .timedOut next.id

namespace Office

variable [ToString S]

/-- An operation of the office is refused with the faults of `refused`, and nothing becomes of the office; otherwise it
makes the records of `made`, and its notice is sent once. -/
structure Answers (now : Millis) (o : Office S) (refused : Fault S → Prop) (made : Record S → Prop)
    (notice : Record S → Notice S) (after : Except (Fault S) (Record S) × Office S) : Prop where
  refused : ∀ fault, after.1 = .error fault ↔ refused fault
  made : ∀ next, after.1 = .ok next ↔ made next
  unchanged : ∀ fault, after.1 = .error fault → after.2 = o
  announced : ∀ next, after.1 = .ok next → after.2 = o.announce now (notice next)
  sent : ∀ next, after.1 = .ok next → after.2.chronicle.sent = o.chronicle.sent ++ [notice next]

/-- What is announced is sent once. -/
private theorem Answers.of_announced {now : Millis} {o : Office S} {refused : Fault S → Prop} {made : Record S → Prop}
    {notice : Record S → Notice S} {after : Except (Fault S) (Record S) × Office S}
    (hrefused : ∀ fault, after.1 = .error fault ↔ refused fault) (hmade : ∀ next, after.1 = .ok next ↔ made next)
    (hunchanged : ∀ fault, after.1 = .error fault → after.2 = o)
    (hannounced : ∀ next, after.1 = .ok next → after.2 = o.announce now (notice next)) :
    o.Answers now refused made notice after where
  refused := hrefused
  made := hmade
  unchanged := hunchanged
  announced := hannounced
  sent := by
    intro next hnext
    rw [hannounced next hnext]
    exact Coordination.sent_announce o.audience now (notice next) o.chronicle

variable (now : Millis) (r : Record S) (o : Office S)

private theorem finish_fst (ending : Ending) : (o.finish now ending r).1 = r.finish ending now := by
  unfold finish
  cases r.finish ending now <;> rfl

private theorem finish_answers (ending : Ending) :
    o.Answers now (fun fault => r.isTerminal = true ∧ fault = .terminated r.id r.status)
      (fun next => r.status = .running ∧
        next = { r with status := ending.status, error := ending.error, updatedAt := max now r.updatedAt })
      (fun next => ending.notice next) (o.finish now ending r) := by
  refine .of_announced ?_ ?_ ?_ ?_
  · intro fault
    rw [finish_fst, Record.finish_eq_error_iff]
  · intro next
    rw [finish_fst, Record.finish_eq_ok_iff]
  · intro fault hfault
    rw [finish_fst] at hfault
    unfold finish
    rw [hfault]
  · intro next hnext
    rw [finish_fst] at hnext
    have hnotice : endNotice next.id ending = ending.notice next := by
      obtain ⟨-, rfl⟩ := Record.finish_ok hnext
      cases ending <;> rfl
    unfold finish
    rw [hnext, ← hnotice]

variable [DecidableEq S]

private theorem move_fst (target : S) : (o.move now target r).1 = r.move o.design.chart now target := by
  unfold move
  cases r.move o.design.chart now target <;> rfl

private theorem move_answers (target : S) :
    o.Answers now
      (fun fault => (r.isTerminal = true ∧ fault = .terminated r.id r.status) ∨
        (r.status = .running ∧ o.design.chart.allows r.state target = false ∧
          fault = .invalidTransition ⟨r.state, target⟩))
      (fun next => r.status = .running ∧ o.design.chart.allows r.state target = true ∧
        next = { r with state := target, updatedAt := max now r.updatedAt })
      (fun next => .moved r.id r.state next.state) (o.move now target r) := by
  refine .of_announced ?_ ?_ ?_ ?_
  · intro fault
    rw [move_fst, Record.move_eq_error_iff]
  · intro next
    rw [move_fst, Record.move_eq_ok_iff]
  · intro fault hfault
    rw [move_fst] at hfault
    unfold move
    rw [hfault]
  · intro next hnext
    rw [move_fst] at hnext
    have hstate : next.state = target := by
      obtain ⟨-, -, rfl⟩ := Record.move_ok hnext
      rfl
    unfold move
    rw [hnext, hstate]

/-- **Every operation is refused for its reason, or done and announced.** Let the chart of an office be that of any
rules, and let the record be any value. A transition is refused as terminated exactly if the process has ended, whatever
the rules say; as invalid, naming both states, exactly if it runs and the transition is not declared; otherwise it makes
the same record with the new state. An ending is refused as terminated exactly if the process has ended, and otherwise
makes the same record with the new status and error, whatever the state. Either sets the time of the update to the
later of the clock and the old one. A success sends one notice, that of the operation, with the states or the error that
the records have; a refusal sends none; and nothing else becomes of the office. -/
theorem operations_answer {o : Office S} {rules : List (Rule S)} (hchart : o.design.chart = .ofRules rules)
    (now : Millis) (r : Record S) :
    (∀ target, o.Answers now
      (fun fault => (r.isTerminal = true ∧ fault = .terminated r.id r.status) ∨
        (r.status = .running ∧ ⟨r.state, target⟩ ∉ rules ∧ fault = .invalidTransition ⟨r.state, target⟩))
      (fun next => r.status = .running ∧ ⟨r.state, target⟩ ∈ rules ∧
        next = { r with state := target, updatedAt := max now r.updatedAt })
      (fun next => .moved r.id r.state next.state) (o.move now target r)) ∧
    ∀ ending, o.Answers now (fun fault => r.isTerminal = true ∧ fault = .terminated r.id r.status)
      (fun next => r.status = .running ∧
        next = { r with status := ending.status, error := ending.error, updatedAt := max now r.updatedAt })
      (fun next => ending.notice next) (o.finish now ending r) := by
  refine ⟨fun target => ?_, fun ending => finish_answers now r o ending⟩
  -- what the chart allows is what the rules declare
  have hallows : o.design.chart.allows r.state target = true ↔ ⟨r.state, target⟩ ∈ rules := by
    rw [hchart]
    exact Chart.allows_ofRules rules r.state target
  have hrefuses : o.design.chart.allows r.state target = false ↔ ⟨r.state, target⟩ ∉ rules := by
    rw [← hallows, Bool.not_eq_true]
  have hmove := move_answers now r o target
  simp only [hallows, hrefuses] at hmove
  exact hmove

/-- A lost order takes no transition, declared or not, and a paid one, which is updated later than the clock says, only
the one that is declared. -/
theorem operations_answer_orders :
    let paid : Record Nat := ⟨⟨"p"⟩, "order", .running, 1, 100, 120, some "cart", none, none⟩
    let lost : Record Nat := { paid with status := .failed, error := some "lost" }
    orders.design.chart = .ofRules [⟨0, 1⟩, ⟨1, 2⟩] ∧
      (orders.move 90 2 lost).1 = .error (.terminated ⟨"p"⟩ .failed) ∧
      (orders.move 90 0 lost).1 = .error (.terminated ⟨"p"⟩ .failed) ∧
      (orders.move 90 0 paid).1 = .error (.invalidTransition ⟨1, 0⟩) ∧
      (orders.move 90 2 paid).1 = .ok { paid with state := 2 } ∧
      (orders.move 90 2 paid).2.chronicle.sent = [.moved ⟨"p"⟩ 1 2] ∧
      (orders.finish 90 (.failed "lost") paid).2.chronicle.sent = [.failed ⟨"p"⟩ (some "lost")] := by
  intro paid lost
  obtain ⟨hlost, -⟩ := operations_answer (o := orders) rfl 90 lost
  obtain ⟨hmove, hfinish⟩ := operations_answer (o := orders) rfl 90 paid
  have hmoved : (orders.move 90 2 paid).1 = .ok { paid with state := 2 } :=
    ((hmove 2).made _).2 ⟨rfl, by decide, rfl⟩
  have hfailed : (orders.finish 90 (.failed "lost") paid).1 = .ok lost :=
    ((hfinish (.failed "lost")).made _).2 ⟨rfl, rfl⟩
  refine ⟨rfl, ?_, ?_, ?_, hmoved, (hmove 2).sent _ hmoved, (hfinish (.failed "lost")).sent _ hfailed⟩
  · exact ((hlost 2).refused _).2 (Or.inl ⟨rfl, rfl⟩)
  · exact ((hlost 0).refused _).2 (Or.inl ⟨rfl, rfl⟩)
  · exact ((hmove 0).refused _).2 (Or.inr ⟨rfl, by decide, rfl⟩)

end Office

end Coordination.Workflow
