import Coordination.Proofs.Saga.Interleaving
import Coordination.Proofs.Saga.Stages

/-!
# What a rollback reports

A rollback goes through all the steps of its run, the newest first, whatever becomes of each. A compensation that fails
or collapses is a `Step.defect?`: it is announced, and its step is listed. When all have had their turn, the run is
compensated, this is announced as well, and what could not be undone is added to the error of the run
(`Run.rollback_reports`).
-/

namespace Coordination.Saga

variable {V : Type}

/-- The name of a step that cannot be undone, with the error that is told of its compensation. -/
def Step.defect? (step : Step V) : Option (String × String) :=
  match step.undo.ending with
  | .succeeds => none
  | .fails error => some (step.name, error)
  | .collapses => some (step.name, "compensation panicked")

/-- The steps of a run that cannot be undone, in the order in which they are tried. -/
def Run.defects (r : Run V) : List (String × String) := r.steps.reverse.filterMap Step.defect?

/-- How a defect is announced. -/
def Notice.ofDefect (id : SagaId) (defect : String × String) : Notice := .compensationFailed id defect.1 defect.2

private theorem Step.defect?_eq (step : Step V) :
    step.defect? = step.undo.ending.error?.map fun error => (step.name, error) := by
  unfold Step.defect?
  cases step.undo.ending <;> rfl

/-- The steps that fail are the ones with a defect. -/
private theorem failing_eq_defects (steps : List (Step V)) :
    failing steps = (steps.filterMap Step.defect?).map Prod.fst := by
  induction steps with
  | nil => rfl
  | cons step steps ih =>
    unfold failing at ih ⊢
    rw [List.filter_cons, List.filterMap_cons, Step.defect?_eq, Step.fails]
    cases step.undo.ending.error? with
    | none => exact ih
    | some error => exact congrArg (step.name :: ·) ih

/-! ### The notices that are sent -/

namespace Run

variable (r : Run V) (s : Scene V)

private theorem sent_announce (n : Notice) : (r.announce n s).chronicle.sent = s.chronicle.sent ++ [n] :=
  Coordination.sent_announce ..

private theorem sent_persist : (r.persist s).chronicle.sent = s.chronicle.sent := by
  unfold persist Scene.persist
  split
  · split <;> rfl
  · rfl

private theorem sent_compensate (step : Step V) :
    (r.compensate step s).2.chronicle.sent =
      s.chronicle.sent ++ (step.defect?.map (Notice.ofDefect r.record.id)).toList := by
  rw [Step.defect?_eq]
  unfold compensate
  dsimp only
  cases step.undo.ending.error? with
  | none => exact (List.append_nil _).symm
  | some error => exact r.sent_announce _ _

/-- A compensation that fails does not keep the others from their turn. -/
private theorem sent_compensateAll (steps : List (Step V)) :
    (compensateAll steps r s).2.chronicle.sent =
      s.chronicle.sent ++ (steps.filterMap Step.defect?).map (Notice.ofDefect r.record.id) := by
  induction steps generalizing r s with
  | nil => exact (List.append_nil _).symm
  | cons step steps ih =>
    have hrest := ih (r.compensate step s).1 (r.compensate step s).2
    rw [(compensate_leads step).id, sent_compensate, List.append_assoc] at hrest
    refine hrest.trans (congrArg _ ?_)
    rw [List.filterMap_cons]
    cases step.defect? <;> rfl

/-- What is sent in a rollback: what could not be undone, and in the end that the saga is compensated. -/
private theorem sent_rollback (h : r.isRunning = true) :
    (r.rollback s).2.2.chronicle.sent =
      s.chronicle.sent ++ r.defects.map (Notice.ofDefect r.record.id) ++ [.compensated r.record.id] := by
  have hid := (compensateAll_leads (r := (r.turnBack s).1) (s := (r.turnBack s).2) r.steps.reverse).id
  have hsent := sent_compensateAll (r.turnBack s).1 (r.turnBack s).2 r.steps.reverse
  rw [rollback_eq, if_pos h]
  dsimp only
  generalize compensateAll r.steps.reverse _ _ = undone at hid hsent
  have hid : undone.1.record.id = r.record.id := hid
  have hsent : undone.2.chronicle.sent = s.chronicle.sent ++ r.defects.map (Notice.ofDefect r.record.id) :=
    hsent.trans (congrArg (· ++ _) (((r.forget.withStatus .compensating).touch s).sent_persist s))
  rw [← hsent, ← hid]
  exact (sent_persist _ _).trans (sent_announce _ _ _)

end Run

/-- The error with which a rollback leaves a run is the one noted before, unless something could not be undone: then
the names of these steps are added to it. -/
private theorem Run.finalError_eq (noted : Option String) (failures : List String) :
    Run.finalError noted failures =
      if failures = [] then noted
      else some ((noted.map (· ++ "; ")).getD "" ++ ("compensation failed for: " ++ ", ".intercalate failures)) := by
  unfold Run.finalError
  cases failures with
  | nil => rfl
  | cons name failures =>
    cases noted with
    | none => exact congrArg some (String.empty_append).symm
    | some cause => rfl

/-- **A rollback tries everything and tells what went wrong.** Let a run be begun and any statements be made on it, each
in whatever scene there is by then, and let it still be under way. Then a rollback succeeds and the run ends
compensated, however its compensations end. Listed as failures are exactly the names of the steps whose compensation
failed or collapsed, the newest step first and a name as often as it applies; each of them is announced once, in this
order and with its error, and after them, once, that the saga is compensated; nothing else is sent. The error of the run
stays if everything could be undone. Otherwise the steps that could not be undone are added to it, or are the error if
there was none. -/
theorem Run.rollback_reports (rt : Runtime) (wiring : Wiring) (name : String) (correlation : Option String)
    (budget : Option Span) (s₀ : Scene V) (made : List (Statement V × Scene V)) (s : Scene V)
    (h : ((Run.begin wiring name correlation budget s₀).1.follow rt made).record.status = .running) :
    let r := (Run.begin wiring name correlation budget s₀).1.follow rt made
    let rolled := r.rollback s
    let names := r.defects.map Prod.fst
    rolled.1 = .ok () ∧ rolled.2.1.record.status = .compensated ∧ rolled.2.1.failures = names ∧
      rolled.2.2.chronicle.sent =
        s.chronicle.sent ++ (r.defects.map fun (step, error) => .compensationFailed r.record.id step error) ++
          [.compensated r.record.id] ∧
      rolled.2.1.record.error =
        if r.defects = [] then r.record.error
        else some ((r.record.error.map (· ++ "; ")).getD "" ++
          ("compensation failed for: " ++ ", ".intercalate names)) := by
  intro r rolled names
  have hstaged : r.Staged := (begin_staged wiring name correlation budget s₀).follow rt made
  have hnone : r.failures = [] := (hstaged.running h).2
  have hrunning : r.isRunning = true := isRunning_of_status h
  have hnames : r.failures ++ failing r.steps.reverse = names := by
    rw [hnone, List.nil_append]
    exact failing_eq_defects r.steps.reverse
  obtain ⟨hok, hstatus, -, hfailures, herror⟩ := r.rollback_of_running hrunning s
  rw [hnames] at hfailures herror
  refine ⟨hok, hstatus, hfailures, r.sent_rollback s hrunning, ?_⟩
  rw [herror, finalError_eq]
  simp only [names, List.map_eq_nil_iff]

/-- Of three reservations only the second can be undone; the shipping collapses when it is called back. -/
def calledBack : List (Statement Nat × Scene Nat) :=
  [(.act "reserve" .nothing (.ok 1) fun _ => ⟨.nothing, .fails "out of reach"⟩, .opened 9),
    (.act "reserve" .nothing (.ok 2) fun _ => ⟨.nothing, .succeeds⟩, .opened 2),
    (.act "ship" .nothing (.ok 3) fun _ => ⟨.nothing, .collapses⟩, .opened 4),
    (.act "reserve" .nothing (.ok 4) fun _ => ⟨.nothing, .fails "sold"⟩, .opened 4),
    (.note "called back", .opened 7)]

theorem Run.rollback_reports_calledBack :
    let r := (Run.begin (V := Nat) ⟨.nobody, true, .manual⟩ "order" none none (.opened 5)).1.follow
      ⟨.nobody, true, none⟩ calledBack
    let rolled := r.rollback (.opened 11)
    r.record.status = .running ∧ rolled.1 = .ok () ∧ rolled.2.1.failures = ["reserve", "ship", "reserve"] ∧
      rolled.2.2.chronicle.sent =
        [.compensationFailed (.nth 1) "reserve" "sold", .compensationFailed (.nth 1) "ship" "compensation panicked",
          .compensationFailed (.nth 1) "reserve" "out of reach", .compensated (.nth 1)] ∧
      rolled.2.1.record.error = some "called back; compensation failed for: reserve, ship, reserve" := by
  intro r rolled
  obtain ⟨hok, -, hfailures, hsent, herror⟩ := Run.rollback_reports ⟨.nobody, true, none⟩ ⟨.nobody, true, .manual⟩
    "order" none none (.opened 5) calledBack (.opened 11) rfl
  exact ⟨rfl, hok, hfailures, hsent, herror⟩

end Coordination.Saga
