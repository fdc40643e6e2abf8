import Coordination.Proofs.Saga.Permits
import Coordination.Proofs.Saga.Stages

/-!
# Statements that fail

A step fails for one of three reasons: the run is not under way, its budget is used up, or the action fails
(`Run.perform_cases`). A commit and a rollback fail only if the run is not under way. Whatever the reason, a statement
that fails leaves its run and the record in the archive as they were, undoes nothing, and says nothing but that an
action failed (`Run.Spared`, `Run.refusals`). -/

namespace Coordination.Saga

variable {V : Type}

/-- More time has passed from `begun` to `now` than the budget allows. -/
def UsedUp (budget : Option Span) (begun now : Span) : Prop :=
  ∃ b, budget = some b ∧ b.nanos < now.nanos - begun.nanos

/-! ### Why a step fails -/

namespace Run

variable (r : Run V) (s : Scene V)

private theorem overrun?_cases :
    (∃ b, r.budget = some b ∧ b.nanos < s.elapsed.nanos - r.begun.nanos ∧
        r.overrun? s = some (.timeout b.toMillis)) ∨
      (¬ UsedUp r.budget r.begun s.elapsed ∧ r.overrun? s = none) := by
  unfold overrun? UsedUp
  cases r.budget with
  | none => exact .inr ⟨nofun, rfl⟩
  | some b =>
    by_cases hover : b.nanos < s.elapsed.nanos - r.begun.nanos
    · exact .inl ⟨b, rfl, hover, if_pos hover⟩
    · refine .inr ⟨?_, if_neg hover⟩
      rintro ⟨_, ⟨⟩, hover'⟩
      exact hover hover'

/-- The four ways in which a step can end. -/
theorem perform_cases (name : String) (action : Scene V → Except String V × Scene V) (undo : V → Undo) :
    let acted := action (s.record (r.starting name s))
    (r.record.status ≠ .running ∧ r.perform name action undo s = (.error (.step r.record.status), r, s)) ∨
      (r.record.status = .running ∧
        ((∃ b, r.budget = some b ∧ b.nanos < s.elapsed.nanos - r.begun.nanos ∧
            r.perform name action undo s = (.error (.timeout b.toMillis), r, s)) ∨
          (¬ UsedUp r.budget r.begun s.elapsed ∧
            ((∃ cause, acted.1 = .error cause ∧ r.perform name action undo s =
                (.error (.action name cause), r, r.announce (.stepFailed r.record.id name cause) acted.2)) ∨
              ∃ value, acted.1 = .ok value ∧
                r.perform name action undo s = r.leave name undo (.ok value) acted.2)))) := by
  intro acted
  rw [perform_eq]
  unfold stepRefusal?
  by_cases hrunning : r.record.status = .running
  · rw [if_pos (isRunning_of_status hrunning)]
    refine .inr ⟨hrunning, ?_⟩
    rcases r.overrun?_cases s with ⟨b, hbudget, hover, heq⟩ | ⟨hintime, heq⟩
    · rw [heq]
      exact .inl ⟨b, hbudget, hover, rfl⟩
    · rw [heq]
      refine .inr ⟨hintime, ?_⟩
      cases hacted : acted.1 with
      | error cause =>
        refine .inl ⟨cause, rfl, ?_⟩
        show r.leave name undo acted.1 acted.2 = _
        rw [hacted]
        rfl
      | ok value =>
        refine .inr ⟨value, rfl, ?_⟩
        show r.leave name undo acted.1 acted.2 = _
        rw [hacted]
  · have hended : r.isRunning = false := decide_eq_false hrunning
    rw [hended]
    exact .inl ⟨hrunning, rfl⟩

end Run

/-! ### What a run keeps -/

/-- The run is the same saga as before, with the same budget, counted from the same time. -/
structure Run.Continues (r r' : Run V) : Prop where
  id : r'.record.id = r.record.id
  budget : r'.budget = r.budget
  begun : r'.begun = r.begun

namespace Run

private theorem continues_self (r : Run V) : r.Continues r := ⟨rfl, rfl, rfl⟩

private theorem Continues.trans {r r' r'' : Run V} (h : r.Continues r') (h' : r'.Continues r'') : r.Continues r'' :=
  ⟨h'.id.trans h.id, h'.budget.trans h.budget, h'.begun.trans h.begun⟩

private theorem perform_continues (name : String) (action : Scene V → Except String V × Scene V) (undo : V → Undo)
    (r : Run V) (s : Scene V) : r.Continues (r.perform name action undo s).2.1 := by
  unfold perform
  split
  · exact r.continues_self
  · split <;> exact ⟨rfl, rfl, rfl⟩

end Run

theorem Statement.turn_continues (rt : Runtime) (st : Statement V) (r : Run V) (s : Scene V) :
    r.Continues (st.turn rt r s).after.1 := by
  cases st with
  | act name passing outcome undo => exact r.perform_continues name (fun s => (outcome, s.pass passing)) undo s
  | actSaga name passing opening inner undo =>
    exact r.perform_continues name (fun s => sagaAction rt opening (inner.run rt) (s.pass passing)) undo s
  | commit =>
    unfold turn carryOut Run.commit
    dsimp only
    split <;> exact ⟨rfl, rfl, rfl⟩
  | rollback =>
    unfold turn carryOut
    dsimp only
    cases hrunning : r.isRunning with
    | true =>
      obtain ⟨updatedAt, -, hrun⟩ := Run.rollback_run hrunning s
      rw [hrun]
      exact ⟨rfl, rfl, rfl⟩
    | false =>
      rw [r.rollback_of_ended hrunning]
      exact r.continues_self
  | note error => exact ⟨rfl, rfl, rfl⟩
  | pause passing => exact r.continues_self

theorem Run.follow_continues (rt : Runtime) (made : List (Statement V × Scene V)) (r : Run V) :
    r.Continues (r.follow rt made) := by
  induction made generalizing r with
  | nil => exact r.continues_self
  | cons statement made ih => exact (statement.1.turn_continues rt r statement.2).trans (ih _)

/-! ### What a statement that fails leaves alone -/

/-- The name of a step. -/
def Statement.step? : Statement V → Option String
  | .act name .. => some name
  | .actSaga name .. => some name
  | _ => none

/-- The name of a step, and its action. -/
def Statement.action? (rt : Runtime) : Statement V → Option (String × (Scene V → Except String V × Scene V))
  | .act name passing outcome _ => some (name, fun s => (outcome, s.pass passing))
  | .actSaga name passing opening inner _ =>
    some (name, fun s => sagaAction rt opening (inner.run rt) (s.pass passing))
  | _ => none

/-- Why the statement failed, if it did. -/
def Turn.fault? (t : Turn V) : Option Fault :=
  match t.reply with
  | .step (.error fault) => some fault
  | .commit (.error fault) => some fault
  | .rollback (.error fault) => some fault
  | _ => none

/-- What is announced of a statement that fails. -/
def Fault.notice? (id : SagaId) : Fault → Option Notice
  | .action name cause => some (.stepFailed id name cause)
  | _ => none

/-- A statement that fails has no effect on its saga: the run and the record in the archive stay, no compensation is
carried out, and nothing is heard but that an action failed, if that is the fault. If it is not, nothing happens at
all. -/
structure Run.Spared (r : Run V) (s : Scene V) (fault : Fault) (after : Run V × Scene V) : Prop where
  run : after.1 = r
  stored : after.2.stored r.record.id = s.stored r.record.id
  undone : undoings r.record.id (s.since after.2) = []
  heard : after.2.heard r.record.id = s.heard r.record.id ++ (fault.notice? r.record.id).toList
  scene : fault.isActionFailure = false → after.2 = s

/-- What an action of a step may do: it leaves all sagas alone that are known, and nothing is heard of them. -/
structure Harmless (action : Scene V → Except String V × Scene V) : Prop where
  discreet : ∀ s : Scene V, s.Discreet (action s).2
  spares : ∀ id (s : Scene V), s.Spares id (action s).2

/-- An archive holds of a known saga what it held before, if it was spared as well as all others. -/
private theorem Scene.stored_of_spares {s t : Scene V} {id : SagaId} (h : ∀ i, s.Spares i t)
    (hknown : ¬ s.Unissued id) :
    t.stored id = s.stored id := by
  have hother : id ≠ .nth (s.issued + 1) := fun hid => hknown ⟨s.issued + 1, Nat.lt_succ_self _, hid⟩
  exact (h (.nth (s.issued + 1))).stored id hother hknown

/-- A step is performed with its action. -/
theorem Statement.turn_of_action {rt : Runtime} {st : Statement V} {name : String}
    {action : Scene V → Except String V × Scene V} (h : st.action? rt = some (name, action)) (r : Run V) (s : Scene V) :
    Harmless action ∧ ∃ undo,
      st.turn rt r s = ⟨st, .step (r.perform name action undo s).1, (r, s), (r.perform name action undo s).2⟩ ∧
        st.completed? rt r s = r.completed? name action undo s ∧ st.step? = some name := by
  cases st with
  | act name' passing outcome undo =>
    cases h
    exact ⟨⟨Scene.pass_discreet passing, fun id s => permits_spares.pass id passing s⟩, undo, rfl, rfl, rfl⟩
  | actSaga name' passing opening inner undo =>
    cases h
    refine ⟨⟨fun s => ?_, permits_spares.conducted rt passing opening inner⟩, undo, rfl, rfl, rfl⟩
    exact (Scene.pass_discreet passing s).trans (sagaAction_discreet rt opening (inner.run_speaks rt) _)
  | commit => cases h
  | rollback => cases h
  | note error => cases h
  | pause passing => cases h

namespace Run.Spared

variable {r : Run V} {s : Scene V}

private theorem of_idle {fault : Fault} (h : fault.isActionFailure = false) : r.Spared s fault (r, s) where
  run := rfl
  stored := rfl
  undone := congrArg (undoings r.record.id) s.since_self
  heard := by
    have hnotice : fault.notice? r.record.id = none := by
      cases fault with
      | action name cause => cases h
      | _ => rfl
    rw [hnotice]
    exact (List.append_nil _).symm
  scene := fun _ => rfl

/-- An action that fails has no effect on the saga of its step. -/
private theorem of_action (hknown : ¬ s.Unissued r.record.id) (name : String)
    {action : Scene V → Except String V × Scene V} (haction : Harmless action) (cause : String) :
    r.Spared s (.action name cause)
      (r, r.announce (.stepFailed r.record.id name cause) (action (s.record (r.starting name s))).2) where
  run := rfl
  stored := by
    have hspares := fun id => haction.spares id (s.record (r.starting name s))
    have hstored := Scene.stored_of_spares hspares hknown
    exact hstored
  undone := by
    have hstarted : s.Led r.record.id (s.record (r.starting name s)) := Scene.record_led (by rfl) s
    have hacted := (haction.discreet (s.record (r.starting name s))).apart
    have hrest := hacted.trans (announce_apart (.stepFailed r.record.id name cause) r _)
    show undoings r.record.id (s.since _) = []
    rw [hstarted.undoings_since hrest, hrest.undoings hknown, Scene.since_record]
    rfl
  heard := by
    have hacted := (haction.discreet (s.record (r.starting name s))).heard r.record.id hknown
    show Scene.heard _ (r.announce _ _) = _
    rw [heard_announce, if_pos (by rfl), hacted]
    rfl
  scene := nofun

end Run.Spared

namespace Run

/-! ### The reasons, and what follows -/

/-- What a step answers, in terms of the status, of the time that has passed, and of what its action comes to. -/
structure StepAnswers (r : Run V) (s : Scene V) (name : String) (outcome : Except String V) (result : Except Fault V) :
    Prop where
  step : ∀ status, result = .error (.step status) ↔ r.record.status ≠ .running ∧ status = r.record.status
  timeout : ∀ millis, result = .error (.timeout millis) ↔ r.record.status = .running ∧
    ∃ b, r.budget = some b ∧ b.nanos < s.elapsed.nanos - r.begun.nanos ∧ millis = b.toMillis
  action : ∀ step cause, result = .error (.action step cause) ↔ r.record.status = .running ∧
    ¬ UsedUp r.budget r.begun s.elapsed ∧ step = name ∧ outcome = .error cause
  ok : ∀ value, result = .ok value ↔ r.record.status = .running ∧
    ¬ UsedUp r.budget r.begun s.elapsed ∧ outcome = .ok value

theorem perform_answers (r : Run V) (s : Scene V) (name : String) (action : Scene V → Except String V × Scene V)
    (undo : V → Undo) :
    r.StepAnswers s name (action (s.record (r.starting name s))).1 (r.perform name action undo s).1 := by
  rcases r.perform_cases s name action undo with ⟨hended, heq⟩ | ⟨hrunning, ⟨b, hbudget, hover, heq⟩ |
    ⟨hintime, ⟨cause, hacted, heq⟩ | ⟨value, hacted, heq⟩⟩⟩
  · rw [heq]
    exact {
      step := by simp [hended, eq_comm]
      timeout := by simp [hended]
      action := by simp [hended]
      ok := by simp [hended] }
  · have husedUp : UsedUp r.budget r.begun s.elapsed := ⟨b, hbudget, hover⟩
    rw [heq]
    exact {
      step := by simp [hrunning]
      timeout := by simp [hrunning, hbudget, hover, eq_comm]
      action := by simp [husedUp]
      ok := by simp [husedUp] }
  · rw [heq, hacted]
    exact {
      step := by simp [hrunning]
      timeout := fun millis => ⟨nofun, fun ⟨_, b, hbudget, hover, _⟩ => absurd ⟨b, hbudget, hover⟩ hintime⟩
      action := by simp [hrunning, hintime, eq_comm]
      ok := by simp }
  · rw [heq, hacted]
    exact {
      step := by simp [hrunning, leave]
      timeout := fun millis => ⟨nofun, fun ⟨_, b, hbudget, hover, _⟩ => absurd ⟨b, hbudget, hover⟩ hintime⟩
      action := by simp [leave]
      ok := by simp [hrunning, hintime, leave] }

/-- When an action has failed, its failure is announced, and that is all. -/
private theorem perform_of_failure {r : Run V} {s : Scene V} {name step cause : String}
    {action : Scene V → Except String V × Scene V} {undo : V → Undo}
    (h : (r.perform name action undo s).1 = .error (.action step cause)) :
    step = name ∧ (r.perform name action undo s).2 =
      (r, r.announce (.stepFailed r.record.id name cause) (action (s.record (r.starting name s))).2) := by
  rcases r.perform_cases s name action undo with ⟨-, heq⟩ | ⟨-, ⟨b, -, -, heq⟩ |
    ⟨-, ⟨cause', -, heq⟩ | ⟨value, -, heq⟩⟩⟩
  · rw [heq] at h
    cases h
  · rw [heq] at h
    cases h
  · rw [heq] at h ⊢
    cases h
    exact ⟨rfl, rfl⟩
  · rw [heq] at h
    cases h

private theorem fault?_commit (rt : Runtime) (r : Run V) (s : Scene V) (fault : Fault) :
    (Statement.turn rt .commit r s).fault? = some fault ↔
      r.record.status ≠ .running ∧ fault = .finished .commit r.record.status := by
  unfold Statement.turn Statement.carryOut Turn.fault?
  dsimp only
  by_cases hrunning : r.record.status = .running
  · rw [(r.commit_of_running (isRunning_of_status hrunning) s).1]
    simp [hrunning]
  · rw [r.commit_of_ended (decide_eq_false hrunning) s]
    simp [hrunning, eq_comm]

private theorem fault?_rollback (rt : Runtime) (r : Run V) (s : Scene V) (fault : Fault) :
    (Statement.turn rt .rollback r s).fault? = some fault ↔
      r.record.status ≠ .running ∧ fault = .finished .rollBack r.record.status := by
  unfold Statement.turn Statement.carryOut Turn.fault?
  dsimp only
  by_cases hrunning : r.record.status = .running
  · rw [(r.rollback_of_running (isRunning_of_status hrunning) s).1]
    simp [hrunning]
  · rw [r.rollback_of_ended (decide_eq_false hrunning) s]
    simp [hrunning, eq_comm]

end Run

/-- A step that fails has no effect on its saga. -/
private theorem Statement.spared_of_action {rt : Runtime} {st : Statement V} {name : String}
    {action : Scene V → Except String V × Scene V} (haction : st.action? rt = some (name, action)) {r : Run V}
    {s : Scene V} (hknown : ¬ s.Unissued r.record.id) {fault : Fault} (h : (st.turn rt r s).fault? = some fault) :
    r.Spared s fault (st.turn rt r s).after := by
  obtain ⟨hharmless, undo, hturn, -⟩ := st.turn_of_action haction r s
  rw [hturn] at h ⊢
  rcases r.perform_cases s name action undo with ⟨-, heq⟩ | ⟨-, ⟨b, -, -, heq⟩ |
    ⟨-, ⟨cause, -, heq⟩ | ⟨value, -, heq⟩⟩⟩
  · rw [heq] at h ⊢
    cases h
    exact .of_idle rfl
  · rw [heq] at h ⊢
    cases h
    exact .of_idle rfl
  · rw [heq] at h ⊢
    cases h
    exact .of_action hknown name hharmless cause
  · rw [heq] at h
    cases h

private theorem Statement.spared_of_fault {rt : Runtime} {st : Statement V} {r : Run V} {s : Scene V}
    (hknown : ¬ s.Unissued r.record.id) {fault : Fault} (h : (st.turn rt r s).fault? = some fault) :
    r.Spared s fault (st.turn rt r s).after := by
  cases st with
  | act name passing outcome undo => exact spared_of_action rfl hknown h
  | actSaga name passing opening inner undo => exact spared_of_action rfl hknown h
  | commit =>
    obtain ⟨hended, rfl⟩ := (Run.fault?_commit rt r s fault).1 h
    unfold turn carryOut
    dsimp only
    rw [r.commit_of_ended (decide_eq_false hended) s]
    exact .of_idle rfl
  | rollback =>
    obtain ⟨hended, rfl⟩ := (Run.fault?_rollback rt r s fault).1 h
    unfold turn carryOut
    dsimp only
    rw [r.rollback_of_ended (decide_eq_false hended) s]
    exact .of_idle rfl
  | note error => cases h
  | pause passing => cases h

/-- **Only what succeeds has an effect.** Let a run be begun and any statements be made on it, each in whatever scene
there is by then, and let another statement be made on it where no identifier is handed out twice. A step fails as a
step just if the run is not under way, for the time just if the run is under way and more time has passed than the
budget allows, and with the error of its action just if neither is so and the action fails; otherwise it answers the
value of its action. A commit and a rollback fail just if the run is not under way. Any statement that fails leaves the
run and its record in the archive as they were, and carries out no compensation; nothing is heard of the saga but, if
the action failed, that it did, with its error. If it is not the action that failed, nothing happens at all, so it was
not started; if it is, what happened is what the action did, and the notice. -/
theorem Run.refusals (rt : Runtime) (wiring : Wiring) (name : String) (correlation : Option String)
    (budget : Option Span) (s₀ : Scene V) (made : List (Statement V × Scene V)) (s : Scene V)
    (hissued : (Run.begin wiring name correlation budget s₀).2.issued ≤ s.issued) :
    let r := (Run.begin wiring name correlation budget s₀).1.follow rt made
    r.budget = budget ∧ r.begun = s₀.elapsed ∧
      (∀ (st : Statement V) step action, st.action? rt = some (step, action) →
        let acted := action (s.record (r.starting step s))
        let t := st.turn rt r s
        ∃ result, t.reply = .step result ∧ r.StepAnswers s step acted.1 result ∧
          ∀ cause, result = .error (.action step cause) →
            t.after.2 = r.announce (.stepFailed r.record.id step cause) acted.2) ∧
      (∀ fault, (Statement.turn rt .commit r s).fault? = some fault ↔
        r.record.status ≠ .running ∧ fault = .finished .commit r.record.status) ∧
      (∀ fault, (Statement.turn rt .rollback r s).fault? = some fault ↔
        r.record.status ≠ .running ∧ fault = .finished .rollBack r.record.status) ∧
      ∀ (st : Statement V) fault, (st.turn rt r s).fault? = some fault → r.Spared s fault (st.turn rt r s).after := by
  intro r
  have hcontinues : (begin wiring name correlation budget s₀).1.Continues r := follow_continues rt made _
  have hknown : ¬ s.Unissued r.record.id := by
    rw [hcontinues.id]
    exact fun hlater => begin_known wiring name correlation budget s₀ (hlater.mono hissued)
  refine ⟨hcontinues.budget, hcontinues.begun, ?_, fault?_commit rt r s, fault?_rollback rt r s,
    fun st fault h => st.spared_of_fault hknown h⟩
  intro st step action haction acted t
  obtain ⟨-, undo, hturn, -⟩ := st.turn_of_action haction r s
  have ht : t = ⟨st, .step (r.perform step action undo s).1, (r, s), (r.perform step action undo s).2⟩ := hturn
  rw [ht]
  refine ⟨_, rfl, r.perform_answers s step action undo, ?_⟩
  intro cause hfailed
  exact congrArg Prod.snd (perform_of_failure hfailed).2

/-- The payment of an order is declined; where 100 of its milliseconds are over, it is not even tried. -/
theorem Run.refusals_order :
    let rt : Runtime := ⟨.nobody, true, none⟩
    let begun := Run.begin (V := Nat) rt.wiring "order" none (some (.ofMillis 100)) (.opened 0)
    let r := begun.1.follow rt [(.act "reserve" .nothing (.ok 3) fun _ => ⟨.nothing, .succeeds⟩, begun.2)]
    let charge : Statement Nat := .act "charge" .nothing (.error "declined") fun _ => ⟨.nothing, .succeeds⟩
    let late := begun.2.pass ⟨.ofMillis 101, .stay⟩
    (charge.turn rt r late).reply = .step (.error (.timeout 100)) ∧ (charge.turn rt r late).after = (r, late) ∧
      (charge.turn rt r begun.2).reply = .step (.error (.action "charge" "declined")) ∧
      (charge.turn rt r begun.2).after.1 = r ∧
      (charge.turn rt r begun.2).after.2.stored (.nth 1) = some begun.1.record ∧
      (charge.turn rt r begun.2).after.2.heard (.nth 1) =
        [.started (.nth 1) "order", .stepFailed (.nth 1) "charge" "declined"] := by
  intro rt begun r charge late
  have hissued : begun.2.issued ≤ late.issued := Nat.le_refl 1
  have hover : (Span.ofMillis 100).nanos < late.elapsed.nanos - begun.1.begun.nanos := by decide
  clear_value late
  obtain ⟨-, -, hstep, -, -, hvoid⟩ := Run.refusals rt rt.wiring "order" none (some (.ofMillis 100)) (.opened 0)
    [(.act "reserve" .nothing (.ok 3) fun _ => ⟨.nothing, .succeeds⟩, begun.2)] late hissued
  obtain ⟨-, -, hstep', -, -, hvoid'⟩ := Run.refusals rt rt.wiring "order" none (some (.ofMillis 100)) (.opened 0)
    [(.act "reserve" .nothing (.ok 3) fun _ => ⟨.nothing, .succeeds⟩, begun.2)] begun.2 (Nat.le_refl 1)
  obtain ⟨result, hreply, hanswers, -⟩ := hstep charge "charge" _ rfl
  obtain ⟨result', hreply', hanswers', -⟩ := hstep' charge "charge" _ rfl
  obtain rfl : result = .error (.timeout 100) :=
    (hanswers.timeout 100).2 ⟨rfl, .ofMillis 100, rfl, hover, rfl⟩
  have hintime : ¬ UsedUp r.budget r.begun begun.2.elapsed := by
    rintro ⟨b, hbudget, hover⟩
    exact absurd hover (Nat.not_lt_zero _)
  obtain rfl : result' = .error (.action "charge" "declined") :=
    (hanswers'.action "charge" "declined").2 ⟨rfl, hintime, rfl, rfl⟩
  have hfault := hvoid charge (.timeout 100) (by rw [Turn.fault?, hreply])
  have hfault' := hvoid' charge (.action "charge" "declined") (by rw [Turn.fault?, hreply'])
  exact ⟨hreply, Prod.ext hfault.run (hfault.scene rfl), hreply', hfault'.run, hfault'.stored, hfault'.heard⟩

end Coordination.Saga
