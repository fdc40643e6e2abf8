import Coordination.Proofs.Saga.Deeds

/-!
# Statements

A run is taken through its life by statements: steps, the end by a commit or a rollback, notes of errors, and pauses
in which time passes. `play` carries out statements one after the other and keeps, of each, the reply and the run and
the scene before and after it (`Turn`). What a statement does can be told from its reply (`Turn.Lawful`): only a
rollback that succeeds undoes anything, namely the steps that the run remembers, the newest first.

A script plays the statements that it chooses (`Script.chosen`), so what is proved about statements holds for
scripts.
-/

namespace Coordination.Saga

variable {V : Type}

inductive Statement (V : Type) where
  | act (name : String) (passing : Passing) (outcome : Except String V) (undo : V → Undo)
  | actSaga (name : String) (passing : Passing) (opening : Opening) (inner : Script V) (undo : V → Undo)
  | commit
  | rollback
  | note (error : String)
  | pause (passing : Passing)

/-- What a statement is answered. -/
inductive Reply (V : Type) where
  | step (result : Except Fault V)
  | commit (result : Except Fault Unit)
  | rollback (result : Except Fault Unit)
  | silence

/-- One statement in the life of a run. -/
structure Turn (V : Type) where
  statement : Statement V
  reply : Reply V
  before : Run V × Scene V
  after : Run V × Scene V

def Statement.carryOut (rt : Runtime) : Statement V → Run V → Scene V → Reply V × Run V × Scene V
  | .act name passing outcome undo, r, s =>
    let (result, after) := r.perform name (fun s => (outcome, s.pass passing)) undo s
    (.step result, after)
  | .actSaga name passing opening inner undo, r, s =>
    let (result, after) := r.perform name (fun s => sagaAction rt opening (inner.run rt) (s.pass passing)) undo s
    (.step result, after)
  | .commit, r, s =>
    let (result, after) := r.commit s
    (.commit result, after)
  | .rollback, r, s =>
    let (result, after) := r.rollback s
    (.rollback result, after)
  | .note error, r, s => (.silence, r.note error s, s)
  | .pause passing, r, s => (.silence, r, s.pass passing)

def Statement.turn (rt : Runtime) (st : Statement V) (r : Run V) (s : Scene V) : Turn V :=
  let (reply, after) := st.carryOut rt r s
  ⟨st, reply, (r, s), after⟩

/-- Carries out statements one after the other. -/
def play (rt : Runtime) : List (Statement V) → Run V → Scene V → List (Turn V) × Run V × Scene V
  | [], r, s => ([], r, s)
  | st :: statements, r, s =>
    let t := st.turn rt r s
    let (turns, after) := play rt statements t.after.1 t.after.2
    (t :: turns, after)

/-! ### Scripts -/

/-- The statements that a script chooses. -/
def Script.chosen (rt : Runtime) : Script V → Run V → Scene V → List (Statement V)
  | .done _, _, _ => []
  | .act name passing outcome undo next, r, s =>
    let (result, r', s') := r.perform name (fun s => (outcome, s.pass passing)) undo s
    .act name passing outcome undo :: (next result).chosen rt r' s'
  | .actSaga name passing opening inner undo next, r, s =>
    let (result, r', s') := r.perform name (fun s => sagaAction rt opening (inner.run rt) (s.pass passing)) undo s
    .actSaga name passing opening inner undo :: (next result).chosen rt r' s'
  | .commit next, r, s =>
    let (result, r', s') := r.commit s
    .commit :: (next result).chosen rt r' s'
  | .rollback next, r, s =>
    let (result, r', s') := r.rollback s
    .rollback :: (next result).chosen rt r' s'
  | .note error next, r, s => .note error :: next.chosen rt (r.note error s) s
  | .pause passing next, r, s => .pause passing :: next.chosen rt r (s.pass passing)

/-- The turns of a script. -/
def Script.turns (rt : Runtime) (script : Script V) (r : Run V) (s : Scene V) : List (Turn V) :=
  (play rt (script.chosen rt r s) r s).1

theorem Script.play_chosen (rt : Runtime) (script : Script V) (r : Run V) (s : Scene V) :
    (play rt (script.chosen rt r s) r s).2 = (script.run rt r s).2 := by
  induction script generalizing r s with
  | done result => rfl
  | act name passing outcome undo next ih => exact ih _ _ _
  | actSaga name passing opening inner undo next _ ih => exact ih _ _ _
  | commit next ih => exact ih _ _ _
  | rollback next ih => exact ih _ _ _
  | note error next ih => exact ih _ _
  | pause passing next ih => exact ih _ _

/-! ### Accounts of turns -/

/-- The step that is completed: its action is started and succeeds. -/
def Run.completed? (name : String) (action : Scene V → Except String V × Scene V) (undo : V → Undo) (r : Run V)
    (s : Scene V) : Option (Step V) :=
  match r.stepRefusal? s, (action (s.record (.acting r.record.id name s.elapsed (s.stored r.record.id)))).1 with
  | none, .ok value => some ⟨name, value, undo value⟩
  | _, _ => none

def Statement.completed? (rt : Runtime) : Statement V → Run V → Scene V → Option (Step V)
  | .act name passing outcome undo, r, s => r.completed? name (fun s => (outcome, s.pass passing)) undo s
  | .actSaga name passing opening inner undo, r, s =>
    r.completed? name (fun s => sagaAction rt opening (inner.run rt) (s.pass passing)) undo s
  | _, _, _ => none

namespace Turn

def completed? (rt : Runtime) (t : Turn V) : Option (Step V) := t.statement.completed? rt t.before.1 t.before.2

/-- The value that a step answered. -/
def returned? (t : Turn V) : Option V :=
  match t.reply with
  | .step (.ok value) => some value
  | _ => none

/-- The compensations that were carried out. -/
def undone (t : Turn V) : List (String × V) := undoings t.before.1.record.id (t.before.2.since t.after.2)

/-- A commit that succeeded. -/
def commits (t : Turn V) : Bool :=
  match t.reply with
  | .commit (.ok ()) => true
  | _ => false

/-- A rollback that succeeded. -/
def rollsBack (t : Turn V) : Bool :=
  match t.reply with
  | .rollback (.ok ()) => true
  | _ => false

/-- The end of the run. -/
def ends (t : Turn V) : Bool := t.commits || t.rollsBack

end Turn

/-- What a compensation is for, and the value that it is given. -/
def Step.bound (step : Step V) : String × V := (step.name, step.value)

/-- The compensation fails or collapses. -/
def Step.fails (step : Step V) : Bool := step.undo.ending.error?.isSome

/-- The names of the steps that cannot be undone. -/
def failing (steps : List (Step V)) : List String := (steps.filter Step.fails).map Step.name

/-- The steps that turns completed, oldest first. -/
def completedIn (rt : Runtime) (turns : List (Turn V)) : List (Step V) := turns.filterMap (Turn.completed? rt)

theorem completedIn_cons (rt : Runtime) (t : Turn V) (turns : List (Turn V)) :
    completedIn rt (t :: turns) = (t.completed? rt).toList ++ completedIn rt turns := by
  rw [completedIn, List.filterMap_cons]
  cases t.completed? rt <;> rfl

theorem completedIn_append (rt : Runtime) (turns turns' : List (Turn V)) :
    completedIn rt (turns ++ turns') = completedIn rt turns ++ completedIn rt turns' :=
  List.filterMap_append

/-! ### What statements do -/

namespace Run

variable {r : Run V} {s : Scene V}

theorem status_of_isRunning (h : r.isRunning = true) : r.record.status = .running := of_decide_eq_true h

theorem isRunning_of_stepRefusal? (h : r.stepRefusal? s = none) : r.isRunning = true := by
  unfold stepRefusal? at h
  split at h
  · assumption
  · cases h

/-- While a step is performed, nothing is undone for its saga. -/
private theorem undoings_perform (name : String) {action : Scene V → Except String V × Scene V} (undo : V → Undo)
    (haction : ∀ s : Scene V, s.Apart (action s).2) (hknown : ¬ s.Unissued r.record.id) :
    undoings r.record.id (s.since (r.perform name action undo s).2.2) = [] := by
  unfold perform
  split
  · rw [Scene.since_self]
    rfl
  · have hacting : s.Led r.record.id (s.record (.acting r.record.id name s.elapsed (s.stored r.record.id))) :=
      Scene.record_led (by rfl) s
    have hact := haction (s.record (.acting r.record.id name s.elapsed (s.stored r.record.id)))
    -- what comes after the start of the action is the work of others
    have hrest : ∀ t : Scene V, Scene.Apart (s.record (.acting r.record.id name s.elapsed (s.stored r.record.id))) t →
        undoings r.record.id (s.since t) = [] := by
      intro t ht
      rw [hacting.undoings_since ht, ht.undoings hknown, Scene.since_record]
      rfl
    split
    · rename_i error s' heq
      rw [heq] at hact
      exact hrest _ (hact.trans (announce_apart _ r s'))
    · rename_i value s' heq
      rw [heq] at hact
      exact hrest _ (hact.trans ((announce_apart _ _ s').trans (persist_apart _ _)))

/-- A step that is completed answers its value and is remembered; any other leaves the run as it was. -/
theorem perform_run (name : String) (action : Scene V → Except String V × Scene V) (undo : V → Undo) :
    match r.completed? name action undo s with
    | some step => r.isRunning = true ∧ (r.perform name action undo s).1 = .ok step.value ∧
        ∃ s', (r.perform name action undo s).2.1 = (r.remember step).touch s'
    | none => (∃ fault, (r.perform name action undo s).1 = .error fault) ∧ (r.perform name action undo s).2.1 = r := by
  unfold perform completed?
  cases hrefusal : r.stepRefusal? s with
  | some fault => exact ⟨⟨fault, rfl⟩, rfl⟩
  | none =>
    have hrunning := isRunning_of_stepRefusal? hrefusal
    dsimp only
    rcases action (s.record (.acting r.record.id name s.elapsed (s.stored r.record.id))) with ⟨error | value, s'⟩
    · exact ⟨⟨_, rfl⟩, rfl⟩
    · exact ⟨hrunning, rfl, s', rfl⟩

theorem commit_of_running (h : r.isRunning = true) (s : Scene V) :
    (r.commit s).1 = .ok () ∧ (r.commit s).2.1 = (r.forget.withStatus .committed).touch s ∧
      s.Apart (r.commit s).2.2 := by
  simp only [commit, h, ↓reduceIte]
  exact ⟨trivial, trivial, (announce_apart _ _ s).trans (persist_apart _ _)⟩

theorem commit_of_ended (h : r.isRunning = false) (s : Scene V) :
    r.commit s = (.error (.finished .commit r.record.status), r, s) := by
  simp [commit, h]

/-- A compensation changes nothing of its run but that it may be listed among the failures. -/
private theorem compensate_run (step : Step V) :
    (r.compensate step s).1 = { r with failures := r.failures ++ failing [step] } := by
  unfold compensate
  dsimp only
  cases h : step.undo.ending.error? with
  | none => simp [failing, Step.fails, h]
  | some error => simp [failing, Step.fails, h]

theorem compensateAll_run (steps : List (Step V)) :
    (compensateAll steps r s).1 = { r with failures := r.failures ++ failing steps } := by
  induction steps generalizing r s with
  | nil => simp [compensateAll, failing]
  | cons step steps ih =>
    rw [compensateAll]
    dsimp only
    rw [ih, compensate_run]
    simp only [failing, List.append_assoc, ← List.map_append, ← List.filter_append, List.singleton_append]

private theorem undoings_compensate (step : Step V) (hknown : ¬ s.Unissued r.record.id) :
    undoings r.record.id (s.since (r.compensate step s).2) = [step.bound] := by
  have hundoing : s.Led r.record.id (s.record (.undoing r.record.id step.name step.value (s.stored r.record.id))) :=
    Scene.record_led (by rfl) s
  have hrest : Scene.Apart (s.record (.undoing r.record.id step.name step.value (s.stored r.record.id)))
      (r.compensate step s).2 := by
    unfold compensate
    dsimp only
    split <;> exact .of_eq rfl rfl rfl
  rw [hundoing.undoings_since hrest, hrest.undoings hknown, Scene.since_record]
  simp [undoings, Deed.undone?, Step.bound]

private theorem undoings_compensateAll (steps : List (Step V)) (hknown : ¬ s.Unissued r.record.id) :
    undoings r.record.id (s.since (compensateAll steps r s).2) = steps.map Step.bound := by
  induction steps generalizing r s with
  | nil =>
    rw [compensateAll, Scene.since_self]
    rfl
  | cons step steps ih =>
    have hstep := compensate_leads (r := r) (s := s) step
    have hrest := ih (hstep.known hknown)
    rw [compensateAll]
    dsimp only
    rw [hstep.led.undoings_since (compensateAll_leads steps).led, undoings_compensate step hknown, ← hstep.id, hrest]
    rfl

/-- A rollback goes through the compensations and always ends the run. -/
theorem rollback_of_running (h : r.isRunning = true) (s : Scene V) :
    (r.rollback s).1 = .ok () ∧ (r.rollback s).2.1.record.status = .compensated ∧
      (r.rollback s).2.1.record.completed = r.record.completed ∧
      (r.rollback s).2.1.failures = r.failures ++ failing r.steps.reverse ∧
      (r.rollback s).2.1.record.error = finalError r.record.error (r.failures ++ failing r.steps.reverse) := by
  unfold rollback
  rw [if_pos h]
  dsimp only
  rw [compensateAll_run]
  exact ⟨rfl, rfl, rfl, rfl, rfl⟩

theorem rollback_of_ended (h : r.isRunning = false) (s : Scene V) :
    r.rollback s = (.error (.finished .rollBack r.record.status), r, s) := by
  simp [rollback, h]

theorem undoings_rollback (h : r.isRunning = true) (hknown : ¬ s.Unissued r.record.id) :
    undoings r.record.id (s.since (r.rollback s).2.2) = r.steps.reverse.map Step.bound := by
  have hstart : s.Apart (((r.forget.withStatus .compensating).touch s).persist s) := persist_apart _ s
  have hmiddle : undoings r.record.id (Scene.since _ (compensateAll r.steps.reverse _ _).2) = _ :=
    undoings_compensateAll (r := (r.forget.withStatus .compensating).touch s) r.steps.reverse
      (fun h => hknown (h.mono hstart.issued))
  have hled := (compensateAll_leads (r := (r.forget.withStatus .compensating).touch s)
    (s := ((r.forget.withStatus .compensating).touch s).persist s) r.steps.reverse).led
  have hend : ∀ (r' : Run V) (s' : Scene V), s'.Apart (r'.persist (r'.announce (.compensated r'.record.id) s')) :=
    fun r' s' => (announce_apart _ r' s').trans (persist_apart r' _)
  unfold rollback
  rw [if_pos h]
  dsimp only
  rw [hstart.undoings_since (hled.trans ((hend _ _).led _)), hstart.undoings hknown,
    hled.undoings_since ((hend _ _).led r.record.id), hmiddle, (hend _ _).undoings, List.nil_append, List.append_nil]
  exact fun h => hknown (h.mono (Nat.le_trans hstart.issued hled.issued))

end Run

namespace Turn

/-- What a turn may do. Only a rollback that succeeds undoes anything, and it undoes what the run remembers; a run that
has ended stays as it is. -/
structure Lawful (rt : Runtime) (t : Turn V) : Prop where
  leads : t.before.1.Leads t.before.2 t.after
  returned : t.returned? = (t.completed? rt).map Step.value
  undone : t.undone = if t.rollsBack then t.before.1.steps.reverse.map Step.bound else []
  /-- Only a run that is under way completes steps or ends. -/
  idle : t.before.1.isRunning = false → t.completed? rt = none ∧ t.ends = false
  ended : t.ends = true → t.after.1.isRunning = false
  /-- Unless the run ends, it remembers the steps that it completes and forgets none. -/
  going : t.ends = false → t.after.1.isRunning = t.before.1.isRunning ∧
    t.after.1.steps = t.before.1.steps ++ (t.completed? rt).toList ∧
    t.after.1.record.completed = t.before.1.record.completed ++ (t.completed? rt).toList.map Step.name ∧
    t.after.1.failures = t.before.1.failures

end Turn

theorem Turn.Lawful.undone_eq_nil {rt : Runtime} {t : Turn V} (h : t.Lawful rt) (hends : t.ends = false) :
    t.undone = [] := by
  have hroll : t.rollsBack = false := (Bool.or_eq_false_iff.1 hends).2
  rw [h.undone, hroll]
  rfl

theorem Turn.Lawful.running_of_ends {rt : Runtime} {t : Turn V} (h : t.Lawful rt) (hends : t.ends = true) :
    t.before.1.isRunning = true := by
  cases hcase : t.before.1.isRunning with
  | true => rfl
  | false =>
    rw [(h.idle hcase).2] at hends
    cases hends

section

variable {r : Run V} {s : Scene V}

private theorem lawful_perform (rt : Runtime) {st : Statement V} {name : String}
    {action : Scene V → Except String V × Scene V} {undo : V → Undo} (haction : ∀ s : Scene V, s.Apart (action s).2)
    (hknown : ¬ s.Unissued r.record.id) (hst : st.completed? rt r s = r.completed? name action undo s) :
    Turn.Lawful rt ⟨st, .step (r.perform name action undo s).1, (r, s), (r.perform name action undo s).2⟩ := by
  have hrun := r.perform_run (s := s) name action undo
  have hleads := r.perform_leads (s := s) name undo haction
  have hundone := r.undoings_perform (s := s) name undo haction hknown
  have hdone : ∀ reply after, Turn.completed? rt ⟨st, reply, (r, s), after⟩ = r.completed? name action undo s :=
    fun _ _ => hst
  cases hcase : r.completed? name action undo s with
  | some step =>
    rw [hcase] at hrun
    obtain ⟨hrunning, hresult, s', hafter⟩ := hrun
    rw [hresult]
    refine ⟨hleads, by rw [hdone, hcase]; rfl, hundone, fun h => ?_, (nomatch ·), fun _ => ?_⟩
    · rw [show r.isRunning = false from h] at hrunning
      cases hrunning
    · rw [hdone, hcase]
      simp only [hafter]
      exact ⟨rfl, rfl, rfl, rfl⟩
  | none =>
    rw [hcase] at hrun
    obtain ⟨⟨fault, hresult⟩, hafter⟩ := hrun
    rw [hresult]
    refine ⟨hleads, by rw [hdone, hcase]; rfl, hundone, fun _ => ⟨(hdone _ _).trans hcase, rfl⟩, (nomatch ·),
      fun _ => ?_⟩
    rw [hdone, hcase]
    simp only [hafter, Option.toList_none, List.map_nil, List.append_nil]
    exact ⟨trivial, trivial, trivial, trivial⟩

/-- A turn that neither is a step nor ends the run. -/
private theorem lawful_of_steady {rt : Runtime} {t : Turn V} (hleads : t.before.1.Leads t.before.2 t.after)
    (hundone : t.undone = []) (hdone : t.completed? rt = none) (hreturned : t.returned? = none)
    (hends : t.ends = false) (hrunning : t.after.1.isRunning = t.before.1.isRunning)
    (hsteps : t.after.1.steps = t.before.1.steps)
    (hcompleted : t.after.1.record.completed = t.before.1.record.completed)
    (hfailures : t.after.1.failures = t.before.1.failures) : t.Lawful rt where
  leads := hleads
  returned := by
    rw [hreturned, hdone]
    rfl
  undone := by
    have hroll : t.rollsBack = false := (Bool.or_eq_false_iff.1 hends).2
    rw [hundone, hroll]
    rfl
  idle := fun _ => ⟨hdone, hends⟩
  ended := fun h => by
    rw [hends] at h
    cases h
  going := fun _ => by
    rw [hdone, hsteps, hcompleted]
    exact ⟨hrunning, (List.append_nil _).symm, (List.append_nil _).symm, hfailures⟩

/-- A turn that ends a run that is under way. -/
private theorem lawful_of_end {rt : Runtime} {t : Turn V} (hleads : t.before.1.Leads t.before.2 t.after)
    (hundone : t.undone = if t.rollsBack then t.before.1.steps.reverse.map Step.bound else [])
    (hdone : t.completed? rt = none) (hreturned : t.returned? = none) (hends : t.ends = true)
    (hbefore : t.before.1.isRunning = true) (hafter : t.after.1.isRunning = false) : t.Lawful rt where
  leads := hleads
  returned := by
    rw [hreturned, hdone]
    rfl
  undone := hundone
  idle := fun h => by
    rw [hbefore] at h
    cases h
  ended := fun _ => hafter
  going := fun h => by
    rw [hends] at h
    cases h

/-- A refused end leaves the run as it is. -/
private theorem lawful_of_refusal {rt : Runtime} {st : Statement V} {reply : Reply V}
    (hdone : st.completed? rt r s = none) (hreturned : Turn.returned? ⟨st, reply, (r, s), (r, s)⟩ = none)
    (hends : Turn.ends ⟨st, reply, (r, s), (r, s)⟩ = false) : Turn.Lawful rt ⟨st, reply, (r, s), (r, s)⟩ := by
  refine lawful_of_steady ⟨rfl, rfl, .refl _ s⟩ ?_ hdone hreturned hends rfl rfl rfl rfl
  exact congrArg (undoings r.record.id) (Scene.since_self s)

private theorem lawful_commit (rt : Runtime) (hknown : ¬ s.Unissued r.record.id) :
    (Statement.turn rt .commit r s).Lawful rt := by
  unfold Statement.turn Statement.carryOut
  dsimp only
  cases hrunning : r.isRunning with
  | true =>
    obtain ⟨hresult, hrun, hapart⟩ := r.commit_of_running hrunning s
    have hundone : undoings r.record.id (s.since (r.commit s).2.2) = [] := hapart.undoings hknown
    rw [hresult]
    refine lawful_of_end Run.commit_leads hundone rfl rfl rfl hrunning ?_
    rw [hrun]
    rfl
  | false =>
    rw [r.commit_of_ended hrunning s]
    exact lawful_of_refusal rfl rfl rfl

private theorem lawful_rollback (rt : Runtime) (hknown : ¬ s.Unissued r.record.id) :
    (Statement.turn rt .rollback r s).Lawful rt := by
  unfold Statement.turn Statement.carryOut
  dsimp only
  cases hrunning : r.isRunning with
  | true =>
    obtain ⟨hresult, hstatus, -⟩ := r.rollback_of_running hrunning s
    have hundone := Run.undoings_rollback hrunning hknown
    rw [hresult]
    refine lawful_of_end Run.rollback_leads hundone rfl rfl rfl hrunning ?_
    simp [Run.isRunning, hstatus]
  | false =>
    rw [r.rollback_of_ended hrunning s]
    exact lawful_of_refusal rfl rfl rfl

/-- Every statement on a known run does what its reply says. -/
theorem Statement.turn_lawful (rt : Runtime) (st : Statement V) (hknown : ¬ s.Unissued r.record.id) :
    (st.turn rt r s).Lawful rt := by
  cases st with
  | act name passing outcome undo =>
    have haction : ∀ s : Scene V, s.Apart (outcome, s.pass passing).2 := Scene.pass_apart passing
    exact lawful_perform rt haction hknown rfl
  | actSaga name passing opening inner undo =>
    have haction : ∀ s : Scene V, s.Apart (sagaAction rt opening (inner.run rt) (s.pass passing)).2 :=
      fun s => (Scene.pass_apart passing s).trans (sagaAction_apart rt opening (inner.run_leads rt) _)
    exact lawful_perform rt haction hknown rfl
  | commit => exact lawful_commit rt hknown
  | rollback => exact lawful_rollback rt hknown
  | note error =>
    refine lawful_of_steady ⟨rfl, rfl, .refl _ s⟩ ?_ rfl rfl rfl rfl rfl rfl rfl
    exact congrArg (undoings r.record.id) (Scene.since_self s)
  | pause passing =>
    have hapart : s.Apart (s.pass passing) := Scene.pass_apart passing s
    exact lawful_of_steady ⟨rfl, rfl, hapart.led _⟩ (hapart.undoings hknown) rfl rfl rfl rfl rfl rfl rfl

end

/-! ### Statements one after the other -/

section

variable (rt : Runtime) (statements : List (Statement V)) {r : Run V} {s : Scene V}

theorem play_leads (hknown : ¬ s.Unissued r.record.id) : r.Leads s (play rt statements r s).2 := by
  induction statements generalizing r s with
  | nil => exact ⟨rfl, rfl, .refl _ s⟩
  | cons st statements ih =>
    have hturn : r.Leads s (st.turn rt r s).after := (st.turn_lawful rt hknown).leads
    exact hturn.trans (ih (hturn.known hknown))

theorem play_lawful (hknown : ¬ s.Unissued r.record.id) : ∀ t ∈ (play rt statements r s).1, t.Lawful rt := by
  induction statements generalizing r s with
  | nil => exact fun t ht => nomatch ht
  | cons st statements ih =>
    have hturn := st.turn_lawful rt hknown
    intro t ht
    rcases List.mem_cons.1 ht with rfl | ht
    · exact hturn
    · exact ih (hturn.leads.known hknown) t ht

/-- Once a run has ended, nothing more comes of it. -/
theorem play_ended (hknown : ¬ s.Unissued r.record.id) (hended : r.isRunning = false) :
    ∀ t ∈ (play rt statements r s).1, t.ends = false ∧ t.undone = [] := by
  induction statements generalizing r s with
  | nil => exact fun t ht => nomatch ht
  | cons st statements ih =>
    have hturn := st.turn_lawful rt hknown
    have hends : (st.turn rt r s).ends = false := (hturn.idle hended).2
    have hafter : (st.turn rt r s).after.1.isRunning = false := (hturn.going hends).1.trans hended
    intro t ht
    rcases List.mem_cons.1 ht with rfl | ht
    · exact ⟨hends, hturn.undone_eq_nil hends⟩
    · exact ih (hturn.leads.known hknown) hafter t ht

/-- A run that is still under way was never ended. -/
theorem play_running (hknown : ¬ s.Unissued r.record.id) (hrunning : (play rt statements r s).2.1.isRunning = true) :
    r.isRunning = true ∧ ∀ t ∈ (play rt statements r s).1, t.ends = false := by
  induction statements generalizing r s with
  | nil => exact ⟨hrunning, fun t ht => nomatch ht⟩
  | cons st statements ih =>
    have hturn := st.turn_lawful rt hknown
    obtain ⟨hafter, hrest⟩ := ih (hturn.leads.known hknown) hrunning
    have hends : (st.turn rt r s).ends = false := by
      cases hcase : (st.turn rt r s).ends with
      | false => rfl
      | true =>
        rw [hturn.ended hcase] at hafter
        cases hafter
    refine ⟨(hturn.going hends).1.symm.trans hafter, ?_⟩
    intro t ht
    rcases List.mem_cons.1 ht with rfl | ht
    · exact hends
    · exact hrest t ht

/-- Until its end, a run remembers every step that was completed. -/
theorem play_going (hknown : ¬ s.Unissued r.record.id) (hends : ∀ t ∈ (play rt statements r s).1, t.ends = false) :
    (play rt statements r s).2.1.isRunning = r.isRunning ∧
      (play rt statements r s).2.1.steps = r.steps ++ completedIn rt (play rt statements r s).1 ∧
      (play rt statements r s).2.1.record.completed =
        r.record.completed ++ (completedIn rt (play rt statements r s).1).map Step.name ∧
      (play rt statements r s).2.1.failures = r.failures := by
  induction statements generalizing r s with
  | nil => exact ⟨rfl, (List.append_nil _).symm, (List.append_nil _).symm, rfl⟩
  | cons st statements ih =>
    have hturn := st.turn_lawful rt hknown
    obtain ⟨hrunning₁, hsteps₁, hcompleted₁, hfailures₁⟩ := hturn.going (hends _ (List.mem_cons_self ..))
    obtain ⟨hrunning₂, hsteps₂, hcompleted₂, hfailures₂⟩ :=
      ih (hturn.leads.known hknown) fun t ht => hends t (List.mem_cons_of_mem _ ht)
    have hdone : completedIn rt (play rt (st :: statements) r s).1 = ((st.turn rt r s).completed? rt).toList ++
        completedIn rt (play rt statements (st.turn rt r s).after.1 (st.turn rt r s).after.2).1 :=
      completedIn_cons rt _ _
    rw [hdone, ← List.append_assoc, List.map_append, ← List.append_assoc]
    exact ⟨hrunning₂.trans hrunning₁, hsteps₂.trans (congrArg (· ++ _) hsteps₁),
      hcompleted₂.trans (congrArg (· ++ _) hcompleted₁), hfailures₂.trans hfailures₁⟩

theorem play_split {earlier later : List (Turn V)} {t : Turn V}
    (h : (play rt statements r s).1 = earlier ++ t :: later) :
    ∃ before st after, statements = before ++ st :: after ∧ (play rt before r s).1 = earlier ∧
      st.turn rt (play rt before r s).2.1 (play rt before r s).2.2 = t ∧
      (play rt after t.after.1 t.after.2).1 = later := by
  induction earlier generalizing statements r s with
  | nil =>
    cases statements with
    | nil => cases h
    | cons st statements =>
      obtain ⟨rfl, rfl⟩ := List.cons.inj h
      exact ⟨[], st, statements, rfl, rfl, rfl, rfl⟩
  | cons u earlier ih =>
    cases statements with
    | nil => cases h
    | cons st statements =>
      obtain ⟨rfl, hrest⟩ := List.cons.inj h
      obtain ⟨before, st', after, rfl, hearlier, hturn, hlater⟩ := ih _ hrest
      exact ⟨st :: before, st', after, rfl, congrArg (_ :: ·) hearlier, hturn, hlater⟩

end

end Coordination.Saga
