import Coordination.Proofs.Saga.Statement

/-!
# The stages of a run

A run is under way until it is committed or compensated, and it keeps three lists that have to agree at every stage:
the steps that can still be undone, the names of the completed steps, and the steps that could not be undone
(`Run.Staged`). Each statement keeps the agreement and moves the run on from one stage to the next, or not at all
(`Turn.Orderly`). Between the statements the scene is left to others: they do what they like in it and move the clocks,
also backwards (`Run.follow`).
-/

namespace Coordination.Saga

variable {V : Type}

/-- Where a run stands between two statements. -/
structure Run.Staged (r : Run V) : Prop where
  status : r.record.status = .running ∨ r.record.status = .committed ∨ r.record.status = .compensated
  running : r.record.status = .running → r.steps.map Step.name = r.record.completed ∧ r.failures = []
  ended : r.record.status ≠ .running → r.steps = [] ∧ r.failures.Sublist r.record.completed.reverse
  times : r.record.startedAt ≤ r.record.updatedAt

/-- What a turn may do to the stage of its run. -/
structure Turn.Orderly (t : Turn V) : Prop where
  status : t.after.1.record.status =
    if t.commits then .committed else if t.rollsBack then .compensated else t.before.1.record.status
  running : t.ends = true → t.before.1.record.status = .running
  startedAt : t.after.1.record.startedAt = t.before.1.record.startedAt
  updatedAt : t.before.1.record.updatedAt ≤ t.after.1.record.updatedAt
  /-- Only a note of an error still changes a run that has ended. -/
  ended : t.before.1.record.status ≠ .running → t.after.1 = t.before.1 ∨
    ∃ error updatedAt, t.statement = .note error ∧
      t.after.1 = { t.before.1 with record := { t.before.1.record with error := some error, updatedAt } }
  staged : t.before.1.Staged → t.after.1.Staged

namespace Run

variable {r : Run V} {s : Scene V}

private theorem updatedAt_le_touch (r : Run V) (s : Scene V) : r.record.updatedAt ≤ (r.touch s).record.updatedAt :=
  Millis.le_max_right _ _

theorem isRunning_of_status (h : r.record.status = .running) : r.isRunning = true := decide_eq_true h

/-- The run after a rollback: what was left to be undone is gone, what could not be undone is listed. -/
theorem rollback_run (h : r.isRunning = true) (s : Scene V) :
    ∃ updatedAt, r.record.updatedAt ≤ updatedAt ∧ (r.rollback s).2.1 = { r with
      steps := []
      failures := r.failures ++ failing r.steps.reverse
      record := { r.record with
        status := .compensated
        error := finalError r.record.error (r.failures ++ failing r.steps.reverse)
        updatedAt } } := by
  unfold rollback
  rw [if_pos h]
  dsimp only
  rw [compensateAll_run]
  -- the clock is read when the rollback starts and again when it ends
  exact ⟨_, UInt64.le_trans (updatedAt_le_touch (r.forget.withStatus .compensating) s) (updatedAt_le_touch _ _), rfl⟩

namespace Staged

/-- A change of the time of update, and perhaps of the error, leaves a run at its stage. -/
private theorem update (h : r.Staged) (error : Option String) {updatedAt : Millis}
    (hle : r.record.updatedAt ≤ updatedAt) :
    ({ r with record := { r.record with error, updatedAt } } : Run V).Staged where
  status := h.status
  running := h.running
  ended := h.ended
  times := UInt64.le_trans h.times hle

private theorem remember (h : r.Staged) (hrunning : r.record.status = .running) (step : Step V) :
    (r.remember step).Staged where
  status := h.status
  running := fun _ => by
    obtain ⟨hsteps, hfailures⟩ := h.running hrunning
    refine ⟨?_, hfailures⟩
    show (r.steps ++ [step]).map Step.name = r.record.completed ++ [step.name]
    rw [List.map_append, hsteps]
    rfl
  ended := fun hended => absurd hrunning hended
  times := h.times

private theorem commit (h : r.Staged) (hrunning : r.record.status = .running) :
    (r.forget.withStatus .committed).Staged where
  status := .inr (.inl rfl)
  running := nofun
  ended := fun _ => ⟨rfl, by
    show r.failures.Sublist _
    rw [(h.running hrunning).2]
    exact List.nil_sublist _⟩
  times := h.times

/-- What could not be undone is part of what was completed, the newest first. -/
private theorem failing_sublist (h : r.Staged) (hrunning : r.record.status = .running) :
    (r.failures ++ failing r.steps.reverse).Sublist r.record.completed.reverse := by
  obtain ⟨hsteps, hfailures⟩ := h.running hrunning
  rw [hfailures, List.nil_append, ← hsteps, ← List.map_reverse]
  exact List.filter_sublist.map Step.name

private theorem rollback (h : r.Staged) (hrunning : r.record.status = .running) (s : Scene V) :
    (r.rollback s).2.1.Staged := by
  obtain ⟨updatedAt, hle, hrun⟩ := rollback_run (isRunning_of_status hrunning) s
  rw [hrun]
  exact {
    status := .inr (.inr rfl)
    running := nofun
    ended := fun _ => ⟨rfl, h.failing_sublist hrunning⟩
    times := UInt64.le_trans h.times hle }

end Staged

theorem begin_staged (wiring : Wiring) (name : String) (correlation : Option String) (budget : Option Span)
    (s : Scene V) : (begin wiring name correlation budget s).1.Staged where
  status := .inl rfl
  running := fun _ => ⟨rfl, rfl⟩
  ended := fun h => absurd rfl h
  times := UInt64.le_refl _

end Run

/-! ### One turn -/

namespace Turn

variable {t : Turn V}

private theorem orderly_of_idle (hrun : t.after.1 = t.before.1) (hends : t.ends = false) : t.Orderly := by
  obtain ⟨hcommits, hrollsBack⟩ := Bool.or_eq_false_iff.1 hends
  exact {
    status := by rw [hcommits, hrollsBack, hrun]; rfl
    running := fun h => by rw [hends] at h; cases h
    startedAt := by rw [hrun]
    updatedAt := by rw [hrun]; exact UInt64.le_refl _
    ended := fun _ => .inl hrun
    staged := fun h => by rw [hrun]; exact h }

end Turn

section

variable (rt : Runtime) (r : Run V) (s : Scene V)

private theorem orderly_perform (st : Statement V) (name : String) (action : Scene V → Except String V × Scene V)
    (undo : V → Undo) :
    Turn.Orderly ⟨st, .step (r.perform name action undo s).1, (r, s), (r.perform name action undo s).2⟩ := by
  have hrun := r.perform_run (s := s) name action undo
  cases hdone : r.completed? name action undo s with
  | none =>
    rw [hdone] at hrun
    obtain ⟨-, hrun⟩ := hrun
    exact Turn.orderly_of_idle hrun rfl
  | some step =>
    rw [hdone] at hrun
    obtain ⟨hrunning, -, s', hrun⟩ := hrun
    have hstatus := Run.status_of_isRunning hrunning
    exact {
      status := by rw [hrun]; rfl
      running := nofun
      startedAt := by rw [hrun]; rfl
      updatedAt := by rw [hrun]; exact (r.remember step).updatedAt_le_touch s'
      ended := fun h => absurd hstatus h
      staged := fun h => by
        rw [hrun]
        exact (h.remember hstatus step).update _ ((r.remember step).updatedAt_le_touch s') }

private theorem orderly_commit : (Statement.turn rt .commit r s).Orderly := by
  unfold Statement.turn Statement.carryOut
  dsimp only
  cases hrunning : r.isRunning with
  | false =>
    rw [r.commit_of_ended hrunning s]
    exact Turn.orderly_of_idle rfl rfl
  | true =>
    obtain ⟨hresult, hrun, -⟩ := r.commit_of_running hrunning s
    have hstatus := Run.status_of_isRunning hrunning
    have hle := (r.forget.withStatus .committed).updatedAt_le_touch s
    exact {
      status := by rw [hrun, hresult]; rfl
      running := fun _ => hstatus
      startedAt := by rw [hrun]; rfl
      updatedAt := by rw [hrun]; exact hle
      ended := fun h => absurd hstatus h
      staged := fun h => by
        rw [hrun]
        exact (h.commit hstatus).update _ hle }

private theorem orderly_rollback : (Statement.turn rt .rollback r s).Orderly := by
  unfold Statement.turn Statement.carryOut
  dsimp only
  cases hrunning : r.isRunning with
  | false =>
    rw [r.rollback_of_ended hrunning s]
    exact Turn.orderly_of_idle rfl rfl
  | true =>
    obtain ⟨hresult, -⟩ := r.rollback_of_running hrunning s
    obtain ⟨updatedAt, hle, hrun⟩ := Run.rollback_run hrunning s
    have hstatus := Run.status_of_isRunning hrunning
    exact {
      status := by rw [hrun, hresult]; rfl
      running := fun _ => hstatus
      startedAt := by rw [hrun]
      updatedAt := by rw [hrun]; exact hle
      ended := fun h => absurd hstatus h
      staged := fun h => h.rollback hstatus s }

private theorem orderly_note (error : String) : (Statement.turn rt (.note error) r s).Orderly where
  status := rfl
  running := nofun
  startedAt := rfl
  updatedAt := (r.withError (some error)).updatedAt_le_touch s
  ended := fun _ => .inr ⟨error, _, rfl, rfl⟩
  staged := fun h => h.update (some error) ((r.withError (some error)).updatedAt_le_touch s)

/-- Every statement, made in whatever scene, keeps its run in order. -/
private theorem Statement.turn_orderly (st : Statement V) : (st.turn rt r s).Orderly := by
  cases st with
  | act name passing outcome undo => exact orderly_perform r s _ name (fun s => (outcome, s.pass passing)) undo
  | actSaga name passing opening inner undo =>
    exact orderly_perform r s _ name (fun s => sagaAction rt opening (inner.run rt) (s.pass passing)) undo
  | commit => exact orderly_commit rt r s
  | rollback => exact orderly_rollback rt r s
  | note error => exact orderly_note rt r s error
  | pause passing => exact Turn.orderly_of_idle rfl rfl

end

/-! ### All turns -/

/-- Makes statements on a run, each in the scene that it finds. -/
def Run.follow (rt : Runtime) : List (Statement V × Scene V) → Run V → Run V
  | [], r => r
  | (st, s) :: made, r => follow rt made (st.turn rt r s).after.1

/-- Statements that are carried out one after the other find the scene that the one before has left. -/
theorem play_follow (rt : Runtime) (statements : List (Statement V)) (r : Run V) (s : Scene V) :
    (play rt statements r s).2.1 =
      r.follow rt ((play rt statements r s).1.map fun t => (t.statement, t.before.2)) := by
  induction statements generalizing r s with
  | nil => rfl
  | cons st statements ih => exact ih _ _

namespace Run

variable (rt : Runtime) (made : List (Statement V × Scene V)) {r : Run V}

theorem Staged.follow (h : r.Staged) : (r.follow rt made).Staged := by
  induction made generalizing r with
  | nil => exact h
  | cons statement made ih => exact ih ((statement.1.turn_orderly rt r statement.2).staged h)

private theorem startedAt_follow (r : Run V) : (r.follow rt made).record.startedAt = r.record.startedAt := by
  induction made generalizing r with
  | nil => rfl
  | cons statement made ih => exact (ih _).trans (statement.1.turn_orderly rt r statement.2).startedAt

private theorem updatedAt_follow (r : Run V) : r.record.updatedAt ≤ (r.follow rt made).record.updatedAt := by
  induction made generalizing r with
  | nil => exact UInt64.le_refl _
  | cons statement made ih => exact UInt64.le_trans (statement.1.turn_orderly rt r statement.2).updatedAt (ih _)

/-- A run that has ended stays as it is, but for its error and the time of its update. -/
private theorem follow_of_ended (h : r.record.status ≠ .running) :
    ∃ error updatedAt, r.follow rt made = { r with record := { r.record with error, updatedAt } } := by
  induction made generalizing r with
  | nil => exact ⟨_, _, rfl⟩
  | cons statement made ih =>
    rw [follow]
    rcases (statement.1.turn_orderly rt r statement.2).ended h with hrun | ⟨noted, updatedAt, -, hrun⟩
    · rw [hrun]
      exact ih h
    · rw [hrun]
      exact ih h

end Run

/-- **A run moves through its stages one way.** Let a run be begun and any statements be made on it, each in whatever
scene there is by then, and with the clocks at any time. The run is running, committed or compensated; while it is
running the steps that can be undone are the completed ones and none has failed to be undone; once it has ended none can
be undone any more, and those that could not be undone are some of the completed ones, the newest first; and its update
is not before its start. One more statement changes the status only if it is a commit or a rollback that succeeds, for
which the run has to be running; it does not set the time of the update back; and if the run has ended, only a note of
an error changes anything, namely the error and that time. So however many statements follow, the start stays, the time
of the update is not set back, and a run that has ended stays as it is but for its error and that time. -/
theorem Run.stages (rt : Runtime) (wiring : Wiring) (name : String) (correlation : Option String)
    (budget : Option Span) (s : Scene V) (made : List (Statement V × Scene V)) :
    let r := (Run.begin wiring name correlation budget s).1.follow rt made
    r.Staged ∧
      (∀ (st : Statement V) (s' : Scene V),
        let t := st.turn rt r s'
        (t.after.1.record.status =
          if t.commits then .committed else if t.rollsBack then .compensated else r.record.status) ∧
        (t.commits = true ∨ t.rollsBack = true → r.record.status = .running) ∧
        r.record.updatedAt ≤ t.after.1.record.updatedAt ∧
        (r.record.status ≠ .running → t.after.1 = r ∨ ∃ error updatedAt, st = .note error ∧
          t.after.1 = { r with record := { r.record with error := some error, updatedAt } })) ∧
      ∀ later : List (Statement V × Scene V),
        (r.follow rt later).record.startedAt = r.record.startedAt ∧
        r.record.updatedAt ≤ (r.follow rt later).record.updatedAt ∧
        (r.record.status ≠ .running → ∃ error updatedAt,
          r.follow rt later = { r with record := { r.record with error, updatedAt } }) := by
  intro r
  refine ⟨(begin_staged wiring name correlation budget s).follow rt made, ?_, ?_⟩
  · intro st s' t
    have hturn : t.Orderly := st.turn_orderly rt r s'
    exact ⟨hturn.status, fun hends => hturn.running (Bool.or_eq_true_iff.2 hends), hturn.updatedAt, hturn.ended⟩
  · intro later
    exact ⟨r.startedAt_follow rt later, r.updatedAt_follow rt later, r.follow_of_ended rt later⟩

/-- The clock goes back before the rollback, which cannot undo the one step, and an error is noted at the end. -/
example :
    let r := (Run.begin (V := Nat) ⟨.nobody, true, .manual⟩ "order" none none (.opened 5)).1.follow ⟨.nobody, true, none⟩
      [(.act "reserve" .nothing (.ok 3) fun _ => ⟨.nothing, .fails "out of reach"⟩, .opened 9), (.rollback, .opened 2),
        (.commit, .opened 20), (.note "late", .opened 4)]
    r.record.status = .compensated ∧ r.record.completed = ["reserve"] ∧ r.failures = ["reserve"] ∧
      r.record.updatedAt = 9 ∧ r.record.error = some "late" :=
  ⟨rfl, rfl, rfl, rfl, rfl⟩

/-- The run of a script is at one of its stages whenever the script comes to its result. -/
theorem Script.run_staged (rt : Runtime) (script : Script V) {r : Run V} (h : r.Staged) (s : Scene V) :
    (script.run rt r s).2.1.Staged := by
  rw [← script.play_chosen, play_follow]
  exact h.follow rt _

end Coordination.Saga
