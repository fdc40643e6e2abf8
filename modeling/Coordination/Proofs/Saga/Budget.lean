import Coordination.Proofs.Saga.Compensation
import Coordination.Proofs.Saga.Refusals

/-!
# Budgets

A run looks at its budget only when a step is begun. So an action that is started in time is never cut off, and its step
counts, however long it takes; and since the stop watch does not go back, a step that came too late is the last word: no
action is started after it. The run stays under way, and can be rolled back as if nothing had happened (`KeepsTime`).
-/

namespace Coordination.Saga

variable {V : Type}

/-! ### Which actions are started -/

/-- The action that is started for `id`, by the name of its step, and the reading of the stop watch. -/
def Deed.started? (id : SagaId) : Deed V → Option (String × Span)
  | .acting saga step elapsed _ => if saga = id then some (step, elapsed) else none
  | .undoing .. => none

/-- The actions of `id` that are started among some deeds. -/
def startings (id : SagaId) (deeds : List (Deed V)) : List (String × Span) := deeds.filterMap (Deed.started? id)

private theorem startings_append (id : SagaId) (deeds deeds' : List (Deed V)) :
    startings id (deeds ++ deeds') = startings id deeds ++ startings id deeds' :=
  List.filterMap_append

namespace Scene

variable {s t u : Scene V} {id : SagaId}

/-- While only others do something, no action of a saga is started. -/
private theorem Apart.startings (h : s.Apart t) (hid : ¬ s.Unissued id) : startings id (s.since t) = [] := by
  refine List.filterMap_eq_nil_iff.2 ?_
  intro d hd
  have hother : d.saga ≠ id := by
    rintro rfl
    exact hid (h.mem_since hd)
  cases d with
  | acting saga step elapsed stored => exact if_neg hother
  | undoing saga step value stored => rfl

/-- From `s` to `t` no action was started at all. -/
def Restful (s t : Scene V) : Prop := ∃ deeds, t.history = s.history ++ deeds ∧ ∀ d ∈ deeds, ∀ id, d.started? id = none

private theorem restful_of_eq (h : t.history = s.history) : s.Restful t := ⟨[], by rw [h, List.append_nil], nofun⟩

private theorem Restful.trans (h : s.Restful t) (h' : t.Restful u) : s.Restful u := by
  obtain ⟨deeds, heq, hnone⟩ := h
  obtain ⟨deeds', heq', hnone'⟩ := h'
  exact ⟨deeds ++ deeds', by rw [heq', heq, List.append_assoc], List.forall_mem_append.2 ⟨hnone, hnone'⟩⟩

private theorem Restful.startings (h : s.Restful t) (id : SagaId) : startings id (s.since t) = [] := by
  obtain ⟨deeds, heq, hnone⟩ := h
  rw [since, heq, List.drop_left]
  exact List.filterMap_eq_nil_iff.2 fun d hd => hnone d hd id

end Scene

namespace Run

variable (r : Run V) (s : Scene V)

/-- A notice, and then the record. -/
private theorem announced_restful (n : Notice) : s.Restful (r.persist (r.announce n s)) :=
  Scene.restful_of_eq (history_persist r _)

private theorem commit_restful : s.Restful (r.commit s).2.2 := by
  unfold commit
  split
  · exact announced_restful _ s _
  · exact Scene.restful_of_eq rfl

private theorem compensate_restful (step : Step V) : s.Restful (r.compensate step s).2 := by
  refine ⟨[r.reversing step s], ?_, ?_⟩
  · rw [compensate_eq]
    unfold putDown
    split <;> rfl
  · intro d hd id
    rw [List.mem_singleton.1 hd]
    rfl

private theorem compensateAll_restful (steps : List (Step V)) : s.Restful (compensateAll steps r s).2 := by
  induction steps generalizing r s with
  | nil => exact Scene.restful_of_eq rfl
  | cons step steps ih => exact (r.compensate_restful s step).trans (ih _ _)

/-- In a rollback compensations are started, but no action. -/
private theorem rollback_restful : s.Restful (r.rollback s).2.2 := by
  rw [rollback_eq]
  split
  · have hturned : s.Restful (r.turnBack s).2 := Scene.restful_of_eq (history_persist _ s)
    exact (hturned.trans (compensateAll_restful _ _ _)).trans (announced_restful _ _ _)
  · exact Scene.restful_of_eq rfl

private theorem conclude_restful (result : Except Fault V) : s.Restful (r.conclude result s).2.2 := by
  rcases r.conclude_cases result s with ⟨value, -, -, heq⟩ | ⟨fault, -, heq⟩
  · rw [heq]
    exact r.commit_restful s
  · obtain ⟨t, ht, habandon⟩ := r.abandon_eq fault s
    have hrolled := (r.note fault.message s).rollback_restful s
    rw [heq, habandon]
    rcases ht with rfl | ⟨l, rfl⟩
    · exact hrolled.trans (Scene.restful_of_eq rfl)
    · exact hrolled.trans (Scene.restful_of_eq rfl)

end Run

namespace Turn

/-- The actions that were started for the saga of the turn. -/
def started (t : Turn V) : List (String × Span) := startings t.before.1.record.id (t.before.2.since t.after.2)

/-- A step that came too late. -/
def timesOut (t : Turn V) : Bool :=
  match t.reply with
  | .step (.error (.timeout _)) => true
  | _ => false

end Turn

/-- In a step one action is started, or none. -/
private theorem Run.started_perform {r : Run V} {s : Scene V} (hknown : ¬ s.Unissued r.record.id) (name : String)
    {action : Scene V → Except String V × Scene V} (undo : V → Undo) (haction : ∀ s : Scene V, s.Apart (action s).2) :
    startings r.record.id (s.since (r.perform name action undo s).2.2) = [] ∨
      r.record.status = .running ∧ ¬ UsedUp r.budget r.begun s.elapsed ∧
        startings r.record.id (s.since (r.perform name action undo s).2.2) = [(name, s.elapsed)] := by
  have hstarted : s.Led r.record.id (s.record (r.starting name s)) := Scene.record_led (by rfl) s
  -- what comes after the start of the action is the work of others
  have hrest : ∀ t : Scene V, Scene.Apart (s.record (r.starting name s)) t →
      startings r.record.id (s.since t) = [(name, s.elapsed)] := by
    intro t ht
    rw [hstarted.since_trans ht, startings_append, ht.startings hknown, Scene.since_record]
    simp [startings, starting, Deed.started?]
  have hacted := haction (s.record (r.starting name s))
  have hnothing : startings r.record.id (s.since s) = [] := congrArg (startings r.record.id) s.since_self
  rcases r.perform_cases s name action undo with ⟨-, heq⟩ | ⟨hrunning, ⟨b, -, -, heq⟩ |
    ⟨hintime, ⟨cause, -, heq⟩ | ⟨value, -, heq⟩⟩⟩
  · rw [heq]
    exact .inl hnothing
  · rw [heq]
    exact .inl hnothing
  · rw [heq]
    exact .inr ⟨hrunning, hintime, hrest _ (hacted.trans (announce_apart _ r _))⟩
  · rw [heq]
    exact .inr ⟨hrunning, hintime, hrest _ (hacted.trans ((announce_apart _ _ _).trans (persist_apart _ _)))⟩

/-- No action is started in a turn but that of a step that is begun while the run is under way and in time. -/
private theorem Statement.started_turn (rt : Runtime) (st : Statement V) {r : Run V} {s : Scene V}
    (hknown : ¬ s.Unissued r.record.id) :
    (st.turn rt r s).started = [] ∨ r.record.status = .running ∧ ¬ UsedUp r.budget r.begun s.elapsed ∧
      ∃ step, (st.turn rt r s).started = [(step, s.elapsed)] := by
  cases haction : st.action? rt with
  | some named =>
    obtain ⟨hharmless, undo, hturn, -⟩ := st.turn_of_action haction r s
    rw [hturn]
    rcases Run.started_perform hknown named.1 undo fun s => (hharmless.discreet s).apart with
      hnone | ⟨hrunning, hintime, hstarted⟩
    · exact .inl hnone
    · exact .inr ⟨hrunning, hintime, _, hstarted⟩
  | none =>
    refine .inl ?_
    cases st with
    | act name passing outcome undo => cases haction
    | actSaga name passing opening inner undo => cases haction
    | commit => exact (r.commit_restful s).startings _
    | rollback => exact (r.rollback_restful s).startings _
    | note error => exact congrArg (startings r.record.id) s.since_self
    | pause passing => exact (Scene.restful_of_eq rfl).startings _

/-! ### Which steps succeed -/

/-- The step that has succeeded, with the value that it answered. -/
def Turn.succeeded? (t : Turn V) : Option (String × V) :=
  match t.statement.step?, t.reply with
  | some name, .step (.ok value) => some (name, value)
  | _, _ => none

private theorem Run.completed?_bound (name : String) (action : Scene V → Except String V × Scene V) (undo : V → Undo)
    (r : Run V) (s : Scene V) :
    (r.completed? name action undo s).map Step.bound =
      match (r.perform name action undo s).1 with
      | .ok value => some (name, value)
      | .error _ => none := by
  unfold perform completed?
  cases r.stepRefusal? s with
  | some fault => rfl
  | none =>
    dsimp only
    rcases action (s.record (.acting r.record.id name s.elapsed (s.stored r.record.id))) with ⟨error | value, s'⟩
    · rfl
    · rfl

/-- The steps that succeed are the ones that are completed. -/
private theorem Statement.succeeded_turn (rt : Runtime) (st : Statement V) (r : Run V) (s : Scene V) :
    (st.turn rt r s).succeeded? = ((st.turn rt r s).completed? rt).map Step.bound := by
  cases haction : st.action? rt with
  | some named =>
    obtain ⟨-, undo, hturn, hcompleted, hstep⟩ := st.turn_of_action haction r s
    have hdone : (st.turn rt r s).completed? rt = r.completed? named.1 named.2 undo s := by
      rw [hturn]
      exact hcompleted
    rw [hdone, Run.completed?_bound, hturn, Turn.succeeded?, hstep]
    cases (r.perform named.1 named.2 undo s).1 with
    | ok value => rfl
    | error fault => rfl
  | none =>
    cases st with
    | act name passing outcome undo => cases haction
    | actSaga name passing opening inner undo => cases haction
    | commit => rfl
    | rollback => rfl
    | note error => rfl
    | pause passing => rfl

/-! ### Time goes on -/

private theorem UsedUp.mono {budget : Option Span} {begun now later : Span} (h : UsedUp budget begun now)
    (hle : now.nanos ≤ later.nanos) : UsedUp budget begun later := by
  obtain ⟨b, hbudget, hover⟩ := h
  exact ⟨b, hbudget, by omega⟩

section

variable (rt : Runtime) (statements : List (Statement V)) {r : Run V} {s : Scene V}

private theorem play_continues : r.Continues (play rt statements r s).2.1 := by
  rw [play_follow]
  exact Run.follow_continues rt _ r

/-- Once the budget is used up, no action is started any more. -/
private theorem play_started_of_usedUp (hknown : ¬ s.Unissued r.record.id) (h : UsedUp r.budget r.begun s.elapsed) :
    ∀ t ∈ (play rt statements r s).1, t.started = [] := by
  induction statements generalizing r s with
  | nil => exact fun t ht => nomatch ht
  | cons st statements ih =>
    intro t ht
    rcases List.mem_cons.1 ht with rfl | ht
    · rcases st.started_turn rt hknown with hnone | ⟨-, hintime, -⟩
      · exact hnone
      · exact absurd h hintime
    · -- the budget stays the same, and the stop watch does not go back
      have hcontinues := st.turn_continues rt r s
      have hleads : r.Leads s (st.turn rt r s).after := (st.turn_lawful rt hknown).leads
      have hlater := h.mono (permits_elapsed.turn rt st r s)
      rw [← hcontinues.budget, ← hcontinues.begun] at hlater
      exact ih (hleads.known hknown) hlater t ht

/-- What is started for a run is started in its turns. -/
private theorem play_startings (hknown : ¬ s.Unissued r.record.id) :
    startings r.record.id (s.since (play rt statements r s).2.2) = (play rt statements r s).1.flatMap Turn.started := by
  induction statements generalizing r s with
  | nil => exact congrArg (startings r.record.id) s.since_self
  | cons st statements ih =>
    have hturn : r.Leads s (st.turn rt r s).after := (st.turn_lawful rt hknown).leads
    have hrest := play_leads rt statements (hturn.known hknown)
    have hstarted : startings r.record.id (s.since (st.turn rt r s).after.2) = (st.turn rt r s).started := rfl
    have hlater := ih (hturn.known hknown)
    rw [hturn.id] at hlater
    show startings r.record.id (s.since (play rt statements _ _).2.2) = (_ :: _ : List (Turn V)).flatMap _
    rw [hturn.led.since_trans hrest.led, startings_append, hstarted, List.flatMap_cons, hlater]

private theorem play_succeeded :
    (play rt statements r s).1.filterMap Turn.succeeded? =
      (completedIn rt (play rt statements r s).1).map Step.bound := by
  induction statements generalizing r s with
  | nil => rfl
  | cons st statements ih =>
    show (st.turn rt r s :: (play rt statements _ _).1).filterMap _ = (completedIn rt (_ :: _)).map _
    rw [List.filterMap_cons, completedIn_cons, List.map_append, st.succeeded_turn rt r s, ← ih]
    cases (st.turn rt r s).completed? rt <;> rfl

end

/-! ### Runs keep to their budget -/

/-- How turns keep to a budget that counts from `begun`. -/
structure KeepsTime (rt : Runtime) (budget : Option Span) (begun : Span) (turns : List (Turn V)) : Prop where
  /-- An action is started only while the run is under way and its budget is not used up. -/
  started : ∀ t ∈ turns, ∀ step elapsed, (step, elapsed) ∈ t.started →
    t.before.1.record.status = .running ∧ elapsed = t.before.2.elapsed ∧ ¬ UsedUp budget begun elapsed
  /-- A step that comes too late leaves the run under way, and no action is started after it. -/
  late : ∀ earlier t later, turns = earlier ++ t :: later → t.timesOut = true →
    t.after.1.record.status = .running ∧ ∀ u ∈ later, u.started = []
  /-- A step that is begun in time counts if its action succeeds, whatever the time when it ends. -/
  counts : ∀ t ∈ turns, ∀ step action, t.statement.action? rt = some (step, action) →
    t.before.1.record.status = .running → ¬ UsedUp budget begun t.before.2.elapsed →
    ∀ value, (action (t.before.2.record (t.before.1.starting step t.before.2))).1 = .ok value →
      t.succeeded? = some (step, value) ∧ t.after.1.record.completed = t.before.1.record.completed ++ [step] ∧
        t.after.1.steps.map Step.bound = t.before.1.steps.map Step.bound ++ [(step, value)]
  /-- A rollback undoes every step that has succeeded. -/
  undone : ∀ earlier t later, turns = earlier ++ t :: later → t.rollsBack = true →
    t.undone = (earlier.filterMap Turn.succeeded?).reverse
  /-- A run that has timed out can be rolled back, as long as it has not been ended; every step that has succeeded is
  undone then. -/
  rollsBack : ∀ earlier t middle u later, turns = earlier ++ t :: (middle ++ u :: later) → t.timesOut = true →
    (∀ v ∈ middle, v.ends = false) → u.statement = .rollback →
      u.rollsBack = true ∧ u.after.1.record.status = .compensated ∧
        u.undone = ((earlier ++ t :: middle).filterMap Turn.succeeded?).reverse

/-- A step that comes too late changes nothing. -/
private theorem Statement.usedUp_of_timesOut {rt : Runtime} {st : Statement V} {r : Run V} {s : Scene V}
    (h : (st.turn rt r s).timesOut = true) :
    r.record.status = .running ∧ UsedUp r.budget r.begun s.elapsed ∧ (st.turn rt r s).after = (r, s) := by
  cases haction : st.action? rt with
  | some named =>
    obtain ⟨-, undo, hturn, -⟩ := st.turn_of_action haction r s
    rw [hturn] at h ⊢
    rcases r.perform_cases s named.1 named.2 undo with ⟨-, heq⟩ | ⟨hrunning, ⟨b, hbudget, hover, heq⟩ |
      ⟨-, ⟨cause, -, heq⟩ | ⟨value, -, heq⟩⟩⟩
    · rw [heq] at h
      cases h
    · rw [heq]
      exact ⟨hrunning, ⟨b, hbudget, hover⟩, rfl⟩
    · rw [heq] at h
      cases h
    · rw [heq] at h
      cases h
  | none =>
    cases st with
    | act name passing outcome undo => cases haction
    | actSaga name passing opening inner undo => cases haction
    | commit => cases h
    | rollback => cases h
    | note error => cases h
    | pause passing => cases h

/-- An action that succeeds counts, also if it overruns the budget. -/
private theorem Statement.counts {rt : Runtime} {st : Statement V} {r : Run V} {s : Scene V} {name : String}
    {action : Scene V → Except String V × Scene V} (hknown : ¬ s.Unissued r.record.id)
    (haction : st.action? rt = some (name, action)) (hrunning : r.record.status = .running)
    (hintime : ¬ UsedUp r.budget r.begun s.elapsed) {value : V}
    (hok : (action (s.record (r.starting name s))).1 = .ok value) :
    (st.turn rt r s).succeeded? = some (name, value) ∧
      (st.turn rt r s).after.1.record.completed = r.record.completed ++ [name] ∧
      (st.turn rt r s).after.1.steps.map Step.bound = r.steps.map Step.bound ++ [(name, value)] := by
  obtain ⟨-, undo, hturn, -, hstep⟩ := st.turn_of_action haction r s
  have hresult : (r.perform name action undo s).1 = .ok value :=
    ((r.perform_answers s name action undo).ok value).2 ⟨hrunning, hintime, hok⟩
  have hreply : (st.turn rt r s).reply = .step (.ok value) := by rw [hturn, hresult]
  have hstatement : (st.turn rt r s).statement = st := by rw [hturn]
  have hsucceeded : (st.turn rt r s).succeeded? = some (name, value) := by
    rw [Turn.succeeded?, hreply, hstatement, hstep]
  have hends : (st.turn rt r s).ends = false := by
    rw [Turn.ends, Turn.commits, Turn.rollsBack, hreply]
    rfl
  have hdone := st.succeeded_turn rt r s
  rw [hsucceeded] at hdone
  obtain ⟨step, hcompleted?, hbound⟩ := Option.map_eq_some_iff.1 hdone.symm
  obtain ⟨-, hsteps, hcompleted, -⟩ := (st.turn_lawful rt hknown).going hends
  rw [hcompleted?] at hsteps hcompleted
  refine ⟨hsucceeded, ?_, ?_⟩
  · rw [hcompleted]
    exact congrArg (fun bound => r.record.completed ++ [bound.1]) hbound
  · rw [hsteps, List.map_append]
    exact congrArg (fun bound => r.steps.map Step.bound ++ [bound]) hbound

/-- Whatever has happened, a run that is under way can be rolled back. -/
private theorem Statement.rollsBack_of_running (rt : Runtime) {r : Run V} (h : r.isRunning = true) (s : Scene V) :
    (Statement.turn rt .rollback r s).rollsBack = true ∧
      (Statement.turn rt .rollback r s).after.1.record.status = .compensated := by
  obtain ⟨hreply, hstatus, -⟩ := r.rollback_of_running h s
  refine ⟨?_, hstatus⟩
  unfold Statement.turn Statement.carryOut Turn.rollsBack
  dsimp only
  rw [hreply]

section

variable (rt : Runtime) (statements : List (Statement V)) {r : Run V} {s : Scene V}

private theorem undone_of_rollsBack (hknown : ¬ s.Unissued r.record.id) (hsteps : r.steps = [])
    {earlier later : List (Turn V)}
    {t : Turn V} (h : (play rt statements r s).1 = earlier ++ t :: later) (hroll : t.rollsBack = true) :
    t.undone = (earlier.filterMap Turn.succeeded?).reverse := by
  have hundone := undone_of_split rt statements hknown hsteps h
  obtain ⟨before, st, after, rfl, rfl, rfl, rfl⟩ := play_split rt _ h
  rw [hundone, if_pos hroll, play_succeeded]

/-- Every run that was begun keeps to its budget, whatever statements are made on it. -/
private theorem play_keepsTime (hknown : ¬ s.Unissued r.record.id) (hsteps : r.steps = []) :
    KeepsTime rt r.budget r.begun (play rt statements r s).1 where
  started := by
    intro t ht step elapsed hstarted
    obtain ⟨earlier, later, h⟩ := List.append_of_mem ht
    obtain ⟨before, st, after, rfl, rfl, rfl, rfl⟩ := play_split rt _ h
    have hcontinues := play_continues rt before (r := r) (s := s)
    rcases st.started_turn rt ((play_leads rt before hknown).known hknown) with
      hnone | ⟨hrunning, hintime, step', hsome⟩
    · rw [hnone] at hstarted
      cases hstarted
    · rw [hsome] at hstarted
      obtain ⟨rfl, rfl⟩ := Prod.mk.inj (List.mem_singleton.1 hstarted)
      rw [hcontinues.budget, hcontinues.begun] at hintime
      exact ⟨hrunning, rfl, hintime⟩
  late := by
    intro earlier t later h hlate
    obtain ⟨before, st, after, rfl, rfl, rfl, rfl⟩ := play_split rt _ h
    obtain ⟨hrunning, husedUp, hafter⟩ := Statement.usedUp_of_timesOut hlate
    rw [hafter]
    exact ⟨hrunning, play_started_of_usedUp rt after ((play_leads rt before hknown).known hknown) husedUp⟩
  counts := by
    intro t ht step action haction hrunning hintime value hok
    obtain ⟨earlier, later, h⟩ := List.append_of_mem ht
    obtain ⟨before, st, after, rfl, rfl, rfl, rfl⟩ := play_split rt _ h
    have hcontinues := play_continues rt before (r := r) (s := s)
    rw [← hcontinues.budget, ← hcontinues.begun] at hintime
    exact Statement.counts ((play_leads rt before hknown).known hknown) haction hrunning hintime hok
  undone := fun earlier t later h hroll => undone_of_rollsBack rt statements hknown hsteps h hroll
  rollsBack := by
    intro earlier t middle u later h hlate hopen hu
    have hrolled : u.rollsBack = true ∧ u.after.1.record.status = .compensated := by
      obtain ⟨before, st, after, rfl, rfl, rfl, hafter⟩ := play_split rt _ h
      obtain ⟨between, st', after', rfl, rfl, rfl, rfl⟩ := play_split rt _ hafter
      have hturn := st.turn_lawful rt ((play_leads rt before hknown).known hknown)
      have hlater := hturn.leads.known ((play_leads rt before hknown).known hknown)
      obtain ⟨hrunning, -, hafter⟩ := Statement.usedUp_of_timesOut hlate
      -- the run is under way after the step that came too late, and nothing in between ends it
      have hstays : (play rt between _ _).2.1.isRunning = true := (play_going rt between hlater hopen).1.trans (by
        rw [hafter]
        exact Run.isRunning_of_status hrunning)
      obtain rfl : st' = .rollback := hu
      exact Statement.rollsBack_of_running rt hstays _
    refine ⟨hrolled.1, hrolled.2, ?_⟩
    rw [← List.cons_append, ← List.append_assoc] at h
    exact undone_of_rollsBack rt statements hknown hsteps h hrolled.1

end

/-! ### Sagas that are conducted -/

private theorem Opening.budget_eq (rt : Runtime) (o : Opening) :
    o.budget rt = o.timeout.or (if o.standalone then none else rt.budget) := by
  unfold budget
  cases o.standalone with
  | true => exact Option.or_none.symm
  | false => rfl

namespace Script

variable (rt : Runtime) (script : Script V) {r : Run V} {s : Scene V}

private theorem play_turns (r : Run V) (s : Scene V) :
    play rt (script.chosen rt r s) r s = (script.turns rt r s, (script.run rt r s).2) :=
  Prod.ext rfl (script.play_chosen rt r s)

/-- When a saga is concluded, no action is started. -/
private theorem conclude_startings (hknown : ¬ s.Unissued r.record.id) :
    let played := script.run rt r s
    startings r.record.id (s.since (played.2.1.conclude played.1 played.2.2).2.2) =
      (script.turns rt r s).flatMap Turn.started := by
  intro played
  have hleads : r.Leads s played.2 := script.run_leads rt r s
  have hconcluded := Run.conclude_leads (r := played.2.1) (s := played.2.2) played.1
  have hrestful := played.2.1.conclude_restful played.2.2 played.1
  have hstarted := play_startings rt (script.chosen rt r s) hknown
  rw [script.play_turns] at hstarted
  rw [hleads.led.since_trans hconcluded.led, startings_append, hstarted, hrestful.startings, List.append_nil]

/-- When a saga comes to a fault with its run still open, every step that has succeeded is undone. -/
private theorem conclude_undone (hknown : ¬ s.Unissued r.record.id) (hrunning : r.isRunning = true)
    (hsteps : r.steps = []) (hopen : ∀ t ∈ script.turns rt r s, t.ends = false) (fault : Fault) :
    let played := script.run rt r s
    (played.2.1.abandon fault played.2.2).1.record.status = .compensated ∧
      undoings r.record.id (s.since (played.2.1.abandon fault played.2.2).2) =
        ((script.turns rt r s).filterMap Turn.succeeded?).reverse := by
  intro played
  have hleads : r.Leads s played.2 := script.run_leads rt r s
  have hgoing := play_going rt (script.chosen rt r s) hknown
  have hundone := play_undoings rt (script.chosen rt r s) hknown
  have hlawful := play_lawful rt (script.chosen rt r s) hknown
  have hsucceeded := play_succeeded rt (script.chosen rt r s) (r := r) (s := s)
  rw [script.play_turns] at hgoing hundone hlawful hsucceeded
  obtain ⟨hstays, hremembered, -⟩ := hgoing hopen
  -- nothing is undone before the saga is given up
  have hnone : undoings r.record.id (s.since played.2.2) = [] :=
    hundone.trans (List.flatMap_eq_nil_iff.2 fun t ht => (hlawful t ht).undone_eq_nil (hopen t ht))
  obtain ⟨hstatus, hgivenUp, -⟩ := Run.abandon_of_running fault (hstays.trans hrunning) (hleads.known hknown)
  have habandoned := Run.abandon_leads (r := played.2.1) (s := played.2.2) fault
  refine ⟨hstatus, ?_⟩
  rw [hleads.led.undoings_since habandoned.led, hnone, List.nil_append, hsucceeded]
  rw [hleads.id, hremembered, hsteps, List.nil_append] at hgivenUp
  exact hgivenUp

end Script

/-- **A budget is looked at when a step is begun.** Let a run be begun with any budget, or with none, and any statements
be made on it, with any time passing in the actions and compensations and in between. An action is started only while
the run is under way and no more time has passed since it was begun than the budget allows. After a step that came too
late, no action is started any more. A step that is begun in time succeeds if its action does, however long that takes,
and is recorded; and a rollback undoes every step that has succeeded. A run that has timed out can be rolled back as
long as nothing has ended it.

The same holds of every saga that is conducted, for the budget of its own, or else the configured one, if there is one
and the saga is not on its own. No action is started when the saga is concluded; and if it comes to a fault with its run
still open, such as a step that came too late, every step that has succeeded is undone. -/
theorem keepsTime (rt : Runtime) :
    (∀ (wiring : Wiring) (name : String) (correlation : Option String) (budget : Option Span) (s : Scene V)
        (statements : List (Statement V)),
      let begun := Run.begin wiring name correlation budget s
      KeepsTime rt budget s.elapsed (play rt statements begun.1 begun.2).1) ∧
    ∀ (o : Opening) (script : Script V) (s : Scene V),
      let begun := o.begin rt s
      let id := begun.1.record.id
      let turns := script.turns rt begun.1 begun.2
      let ended := conduct rt o script s
      KeepsTime rt (o.timeout.or (if o.standalone then none else rt.budget)) s.elapsed turns ∧
        startings id (begun.2.since ended.2.2) = turns.flatMap Turn.started ∧
        ∀ fault, (script.run rt begun.1 begun.2).1 = .error fault → (∀ t ∈ turns, t.ends = false) →
          ended.1 = .error fault ∧ ended.2.1.record.status = .compensated ∧
            undoings id (begun.2.since ended.2.2) = (turns.filterMap Turn.succeeded?).reverse := by
  refine ⟨fun wiring name correlation budget s statements => ?_, fun o script s => ?_⟩
  · exact play_keepsTime rt statements (Run.begin_known wiring name correlation budget s) rfl
  · intro begun id turns ended
    have hknown : ¬ begun.2.Unissued id := Run.begin_known (o.wiring rt) o.name o.key (o.budget rt) s
    have hended : ended = (script.run rt begun.1 begun.2).2.1.conclude (script.run rt begun.1 begun.2).1
      (script.run rt begun.1 begun.2).2.2 := rfl
    refine ⟨?_, script.conclude_startings rt hknown, ?_⟩
    · rw [← o.budget_eq]
      exact play_keepsTime rt _ hknown rfl
    · intro fault hfault hopen
      obtain ⟨hstatus, hundone⟩ := script.conclude_undone rt hknown rfl rfl hopen fault
      rw [hended, hfault]
      exact ⟨rfl, hstatus, hundone⟩

/-- The saga's own budget of 50 counts, not the configured one of 10000. The wait overruns it and still counts; the step
after it comes too late, and the wait is undone. -/
example :
    let slow : Script Nat := .act "wait" ⟨⟨200⟩, .stay⟩ (.ok 1) (fun _ => ⟨.nothing, .succeeds⟩) fun _ =>
      .act "after" .nothing (.ok 2) (fun _ => ⟨.nothing, .succeeds⟩) .done
    let o : Opening := ⟨"slow", none, some ⟨50⟩, false⟩
    let ended := conduct ⟨.nobody, true, some ⟨10000⟩⟩ o slow (.opened 0)
    ended.1 = .error (.timeout 0) ∧ ended.2.1.record.status = .compensated ∧ ended.2.1.record.completed = ["wait"] ∧
      startings (.nth 1) ended.2.2.history = [("wait", ⟨0⟩)] ∧ undoings (.nth 1) ended.2.2.history = [("wait", 1)] :=
  ⟨rfl, rfl, rfl, rfl, rfl⟩

end Coordination.Saga
