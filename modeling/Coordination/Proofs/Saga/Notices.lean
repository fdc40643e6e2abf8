import Coordination.Proofs.Saga.Statement

/-!
# What is heard of a saga

The notices about one saga make a `Tale`: it starts, steps are completed or fail, and then it is committed, or it is
compensated, and some of its compensations may fail before that. The status of a run tells how far the tale has got,
and it changes only together with what is heard (`Progress`).

Sagas that are begun inside an action have tales of their own: nothing is heard of a saga while only others are at work
(`Script.run_speaks`).
-/

namespace Coordination.Saga

variable {V : Type}

namespace Notice

/-- Whom it is about. -/
def saga : Notice → SagaId
  | .started id _ => id
  | .committed id => id
  | .compensated id => id
  | .failed id _ => id
  | .stepCompleted id _ => id
  | .stepFailed id _ _ => id
  | .compensationFailed id _ _ => id

/-- A step of `id` was completed, or its action failed. -/
def OfStep (id : SagaId) (n : Notice) : Prop :=
  ∃ step, n = .stepCompleted id step ∨ ∃ error, n = .stepFailed id step error

/-- A compensation of `id` failed. -/
def OfUndoing (id : SagaId) (n : Notice) : Prop := ∃ step error, n = .compensationFailed id step error

end Notice

/-- What is heard of a saga until its run has a status: the start; any number of steps, completed or failed; and in
the end either the commit, or any number of failed compensations and that the saga is compensated. -/
inductive Tale (id : SagaId) (name : String) : Status → List Notice → Prop
  | running {steps : List Notice} (hsteps : ∀ n ∈ steps, n.OfStep id) :
      Tale id name .running (.started id name :: steps)
  | committed {tale : List Notice} (h : Tale id name .running tale) : Tale id name .committed (tale ++ [.committed id])
  | compensating {tale undoings : List Notice} (h : Tale id name .running tale)
      (hundoings : ∀ n ∈ undoings, n.OfUndoing id) : Tale id name .compensating (tale ++ undoings)
  | compensated {tale : List Notice} (h : Tale id name .compensating tale) :
      Tale id name .compensated (tale ++ [.compensated id])

/-- How the status changes at once, and what is heard of it. -/
inductive Progress (id : SagaId) : Status → List Notice → Status → Prop
  | still (status : Status) : Progress id status [] status
  | step {n : Notice} (hn : n.OfStep id) : Progress id .running [n] .running
  | commit : Progress id .running [.committed id] .committed
  | turnBack : Progress id .running [] .compensating
  | undoing {n : Notice} (hn : n.OfUndoing id) : Progress id .compensating [n] .compensating
  | settle : Progress id .compensating [.compensated id] .compensated

section

variable {id : SagaId} {name : String} {status status' : Status} {tale news : List Notice}

/-- A tale goes on with what is heard next. -/
theorem Tale.goOn (h : Tale id name status tale) (hnext : Progress id status news status') :
    Tale id name status' (tale ++ news) := by
  cases hnext with
  | still => rwa [List.append_nil]
  | step hn =>
    cases h with
    | running hsteps =>
      refine .running (List.forall_mem_append.2 ⟨hsteps, ?_⟩)
      simpa using hn
  | commit => exact .committed h
  | turnBack => exact .compensating h nofun
  | undoing hn =>
    cases h with
    | compensating h hundoings =>
      rw [List.append_assoc]
      refine .compensating h (List.forall_mem_append.2 ⟨hundoings, ?_⟩)
      simpa using hn
  | settle => exact .compensated h

/-- A run that is not under way has come to one of its ends, or is being compensated. -/
theorem Tale.status_cases (h : Tale id name status tale) :
    status = .running ∨ status = .committed ∨ status = .compensating ∨ status = .compensated := by
  cases h with
  | running => exact .inl rfl
  | committed => exact .inr (.inl rfl)
  | compensating => exact .inr (.inr (.inl rfl))
  | compensated => exact .inr (.inr (.inr rfl))

theorem Progress.saga (h : Progress id status news status') : ∀ n ∈ news, n.saga = id := by
  cases h with
  | still => nofun
  | step hn =>
    obtain ⟨step, rfl | ⟨error, rfl⟩⟩ := hn
    · simp [Notice.saga]
    · simp [Notice.saga]
  | commit => simp [Notice.saga]
  | turnBack => nofun
  | undoing hn =>
    obtain ⟨step, error, rfl⟩ := hn
    simp [Notice.saga]
  | settle => simp [Notice.saga]

end

namespace Scene

/-- The notices about `id`, oldest first. -/
def heard (id : SagaId) (s : Scene V) : List Notice := s.chronicle.sent.filter fun n => n.saga = id

variable {s t u : Scene V} {id : SagaId}

private theorem heard_persist (r : Record) : (s.persist r).heard id = s.heard id := by
  unfold persist
  split <;> rfl

/-- A notice is heard, whoever listens. -/
private theorem heard_announce (audience : Audience Listener) (n : Notice) :
    (s.announce audience n).heard id = s.heard id ++ if n.saga = id then [n] else [] := by
  have hsent : (s.announce audience n).chronicle.sent = s.chronicle.sent ++ [n] := sent_announce ..
  rw [heard, hsent, List.filter_append, List.filter_cons, List.filter_nil]
  simp only [decide_eq_true_eq]
  rfl

/-- Others were at work from `s` to `t`, none of them known in `s`, and only they were heard of. -/
structure Discreet (s t : Scene V) : Prop where
  apart : s.Apart t
  heard : ∀ id, ¬ s.Unissued id → t.heard id = s.heard id

theorem pass_discreet (p : Passing) (s : Scene V) : s.Discreet (s.pass p) := ⟨pass_apart p s, fun _ _ => rfl⟩

theorem Discreet.trans (h₁ : s.Discreet t) (h₂ : t.Discreet u) : s.Discreet u where
  apart := h₁.apart.trans h₂.apart
  heard := fun id hid => (h₂.heard id fun h => hid (h.mono h₁.apart.issued)).trans (h₁.heard id hid)

end Scene

namespace Run

variable {r r' : Run V} {s s' : Scene V} {id : SagaId}

private theorem heard_persist (r : Run V) : (r.persist s).heard id = s.heard id := by
  unfold persist
  split
  · exact Scene.heard_persist r.record
  · rfl

theorem heard_announce (r : Run V) (n : Notice) :
    (r.announce n s).heard id = s.heard id ++ if n.saga = id then [n] else [] :=
  Scene.heard_announce r.wiring.audience n

/-! ### How a run is concluded -/

/-- A run that is given up is rolled back, if it is under way, and its failure is announced. -/
theorem abandon_eq (fault : Fault) (r : Run V) (s : Scene V) :
    let rolled := (r.note fault.message s).rollback s
    ∃ t, (t = rolled.2.2 ∨ ∃ l, t = rolled.2.2.write l) ∧ r.abandon fault s =
      (rolled.2.1, rolled.2.1.announce (.failed rolled.2.1.record.id (some fault.message)) t) := by
  intro rolled
  unfold abandon
  dsimp only
  split
  · exact ⟨_, Or.inl rfl, rfl⟩
  · exact ⟨_, Or.inr ⟨_, rfl⟩, rfl⟩

/-- A run is committed if it is under way and its script came to a value. In every other case it is given up. -/
theorem conclude_cases (result : Except Fault V) (r : Run V) (s : Scene V) :
    (∃ value, result = .ok value ∧ r.isRunning = true ∧ r.conclude result s = (.ok value, (r.commit s).2)) ∨
      ∃ fault, (result = .error fault ∨ r.isRunning = false) ∧
        r.conclude result s = (.error fault, r.abandon fault s) := by
  cases result with
  | error fault => exact Or.inr ⟨fault, Or.inl rfl, rfl⟩
  | ok value =>
    unfold conclude
    cases hrunning : r.isRunning with
    | true =>
      obtain ⟨hresult, -⟩ := r.commit_of_running hrunning s
      dsimp only
      split
      · rename_i heq
        exact Or.inl ⟨value, rfl, rfl, by rw [heq]⟩
      · rename_i heq
        rw [heq] at hresult
        cases hresult
    | false =>
      rw [r.commit_of_ended hrunning]
      exact Or.inr ⟨_, Or.inr rfl, rfl⟩

/-! ### Nothing is heard of others -/

/-- Of the sagas that are known, a statement lets nothing be heard but of its own. -/
structure Speaks (r : Run V) (s : Scene V) (after : Run V × Scene V) : Prop where
  leads : r.Leads s after
  others : ∀ id, id ≠ r.record.id → ¬ s.Unissued id → after.2.heard id = s.heard id

private theorem Speaks.trans {after : Run V × Scene V} (h₁ : r.Speaks s (r', s')) (h₂ : r'.Speaks s' after) :
    r.Speaks s after where
  leads := h₁.leads.trans h₂.leads
  others := fun id hid hknown =>
    (h₂.others id (h₁.leads.id ▸ hid) fun h => hknown (h.mono h₁.leads.led.issued)).trans (h₁.others id hid hknown)

private theorem speaks_of_id (s : Scene V) (hid : r'.record.id = r.record.id) (hwiring : r'.wiring = r.wiring) :
    r.Speaks s (r', s) := ⟨⟨hid, hwiring, .refl _ s⟩, fun _ _ _ => rfl⟩

private theorem speaks_of_discreet (r : Run V) (h : s.Discreet s') : r.Speaks s (r, s') :=
  ⟨⟨rfl, rfl, h.apart.led _⟩, fun id _ hknown => h.heard id hknown⟩

private theorem persist_speaks (r : Run V) (s : Scene V) : r.Speaks s (r, r.persist s) :=
  r.speaks_of_discreet ⟨persist_apart r s, fun _ _ => heard_persist r⟩

/-- A run announces something about itself. -/
private theorem announce_speaks (r : Run V) (s : Scene V) {n : Notice} (hn : n.saga = r.record.id) :
    r.Speaks s (r, r.announce n s) where
  leads := ⟨rfl, rfl, (announce_apart n r s).led _⟩
  others := fun id hid _ => by
    rw [heard_announce, if_neg fun h => hid (h.symm.trans hn), List.append_nil]

private theorem perform_speaks (name : String) {action : Scene V → Except String V × Scene V} (undo : V → Undo)
    (haction : ∀ s : Scene V, s.Discreet (action s).2) : r.Speaks s (r.perform name action undo s).2 := by
  have hacting : r.Speaks s (r, s.record (.acting r.record.id name s.elapsed (s.stored r.record.id))) :=
    ⟨⟨rfl, rfl, Scene.record_led (by rfl) s⟩, fun _ _ _ => rfl⟩
  have hact := hacting.trans (r.speaks_of_discreet (haction _))
  unfold perform
  cases r.stepRefusal? s with
  | some fault => exact speaks_of_id s rfl rfl
  | none =>
    dsimp only
    generalize action _ = acted at hact
    obtain ⟨error | value, s'⟩ := acted
    · exact hact.trans (r.announce_speaks s' (by rfl))
    · have hremembered : r.Speaks s' ((r.remember ⟨name, value, undo value⟩).touch s', s') := speaks_of_id s' rfl rfl
      have hsaid := announce_speaks (n := .stepCompleted r.record.id name)
        ((r.remember ⟨name, value, undo value⟩).touch s') s' rfl
      exact ((hact.trans hremembered).trans hsaid).trans (persist_speaks _ _)

private theorem commit_speaks : r.Speaks s (r.commit s).2 := by
  unfold commit
  split
  · have hended : r.Speaks s ((r.forget.withStatus .committed).touch s, s) := speaks_of_id s rfl rfl
    exact (hended.trans (announce_speaks (n := .committed r.record.id) _ s rfl)).trans (persist_speaks _ _)
  · exact speaks_of_id s rfl rfl

private theorem compensate_speaks (step : Step V) : r.Speaks s (r.compensate step s) where
  leads := compensate_leads step
  others := by
    intro id hid hknown
    unfold compensate
    dsimp only
    split
    · rfl
    · exact (r.announce_speaks _ (by rfl)).others id hid hknown

private theorem compensateAll_speaks (steps : List (Step V)) : r.Speaks s (compensateAll steps r s) := by
  induction steps generalizing r s with
  | nil => exact speaks_of_id s rfl rfl
  | cons step steps ih => exact (compensate_speaks step).trans ih

private theorem rollback_speaks : r.Speaks s (r.rollback s).2 := by
  unfold rollback
  split
  · have hstarted : r.Speaks s ((r.forget.withStatus .compensating).touch s, s) := speaks_of_id s rfl rfl
    have hundone := (hstarted.trans (persist_speaks _ s)).trans (compensateAll_speaks r.steps.reverse)
    dsimp only
    generalize compensateAll r.steps.reverse _ _ = undone at hundone
    have hended : undone.1.Speaks undone.2 (((undone.1.withStatus .compensated).withError
        (finalError undone.1.record.error undone.1.failures)).touch undone.2, undone.2) := speaks_of_id _ rfl rfl
    have hsaid := announce_speaks (n := .compensated undone.1.record.id) (((undone.1.withStatus .compensated).withError
      (finalError undone.1.record.error undone.1.failures)).touch undone.2) undone.2 rfl
    exact ((hundone.trans hended).trans hsaid).trans (persist_speaks _ _)
  · exact speaks_of_id s rfl rfl

private theorem abandon_speaks (fault : Fault) : r.Speaks s (r.abandon fault s) := by
  have hnoted : r.Speaks s (r.note fault.message s, s) := speaks_of_id s rfl rfl
  have hrolled := hnoted.trans rollback_speaks
  obtain ⟨t, ht, habandon⟩ := r.abandon_eq fault s
  rw [habandon]
  generalize (r.note fault.message s).rollback s = rolled at *
  have hskipped : rolled.2.1.Speaks rolled.2.2 (rolled.2.1, t) := by
    rcases ht with rfl | ⟨l, rfl⟩
    · exact speaks_of_id _ rfl rfl
    · exact ⟨⟨rfl, rfl, .of_eq rfl rfl rfl⟩, fun _ _ _ => rfl⟩
  exact (hrolled.trans hskipped).trans
    (announce_speaks (n := .failed rolled.2.1.record.id (some fault.message)) _ t rfl)

private theorem conclude_speaks (result : Except Fault V) : r.Speaks s (r.conclude result s).2 := by
  rcases r.conclude_cases result s with ⟨value, -, -, heq⟩ | ⟨fault, -, heq⟩
  · rw [heq]
    exact commit_speaks
  · rw [heq]
    exact abandon_speaks fault

end Run

/-! ### Sagas as a whole are discreet -/

section

variable (rt : Runtime) (o : Opening)

/-- When a saga is begun, its start is announced. -/
theorem Opening.heard_begin (s : Scene V) (id : SagaId) :
    (o.begin rt s).2.heard id =
      s.heard id ++ if (o.begin rt s).1.record.id = id then [.started (o.begin rt s).1.record.id o.name] else [] := by
  unfold Opening.begin Run.begin
  dsimp only
  rw [Run.heard_persist, Run.heard_announce]
  rfl

private theorem conductWith_discreet {play : Run V → Scene V → Except Fault V × Run V × Scene V}
    (hplay : ∀ (r : Run V) s, r.Speaks s (play r s).2) (s : Scene V) : s.Discreet (conductWith rt o play s).2.2 where
  apart := conductWith_apart rt o (fun r s => (hplay r s).leads) s
  heard := by
    intro id hid
    -- the saga that is begun has an identifier that nobody had, so `id` is another's
    have hissued : (o.begin rt s).2.issued = s.issued + 1 := Run.begin_issued ..
    have hnew : id ≠ (o.begin rt s).1.record.id := by
      rintro rfl
      exact hid ⟨s.issued + 1, by omega, rfl⟩
    have hknown : ¬ (o.begin rt s).2.Unissued id := fun h => hid (h.mono (by omega))
    have hall := (hplay (o.begin rt s).1 (o.begin rt s).2).trans
      (Run.conclude_speaks (play (o.begin rt s).1 (o.begin rt s).2).1)
    exact (hall.others id hnew hknown).trans (by rw [o.heard_begin, if_neg hnew.symm, List.append_nil])

theorem sagaAction_discreet {play : Run V → Scene V → Except Fault V × Run V × Scene V}
    (hplay : ∀ (r : Run V) s, r.Speaks s (play r s).2) (s : Scene V) : s.Discreet (sagaAction rt o play s).2 := by
  rw [sagaAction_scene]
  exact conductWith_discreet rt o hplay s

end

theorem Script.run_speaks (rt : Runtime) (script : Script V) (r : Run V) (s : Scene V) :
    r.Speaks s (script.run rt r s).2 := by
  induction script generalizing r s with
  | done result => exact Run.speaks_of_id s rfl rfl
  | act name passing outcome undo next ih =>
    have hstep : r.Speaks s (r.perform name (fun s => (outcome, s.pass passing)) undo s).2 :=
      Run.perform_speaks name undo (Scene.pass_discreet passing)
    exact hstep.trans (ih _ _ _)
  | actSaga name passing opening inner undo next ihInner ih =>
    have haction : ∀ s : Scene V, s.Discreet (sagaAction rt opening (inner.run rt) (s.pass passing)).2 :=
      fun s => (Scene.pass_discreet passing s).trans (sagaAction_discreet rt opening ihInner _)
    have hstep := Run.perform_speaks (r := r) (s := s) name undo haction
    exact hstep.trans (ih _ _ _)
  | commit next ih => exact Run.commit_speaks.trans (ih _ _ _)
  | rollback next ih => exact Run.rollback_speaks.trans (ih _ _ _)
  | note error next ih =>
    have hnoted : r.Speaks s (r.note error s, s) := Run.speaks_of_id s rfl rfl
    exact hnoted.trans (ih _ _)
  | pause passing next ih => exact (r.speaks_of_discreet (Scene.pass_discreet passing s)).trans (ih _ _)

end Coordination.Saga
