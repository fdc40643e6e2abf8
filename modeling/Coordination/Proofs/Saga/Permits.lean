import Coordination.Proofs.Saga.Notices
import Coordination.Proofs.Saga.WriteAhead

/-!
# What sagas may do to the scene

A statement on a saga changes the scene in small pieces: deeds and notices of its own, its own record in the archive,
lines of the log, time that passes, and sagas that are begun inside an action. A relation that permits each of these
pieces (`Permits`) permits every statement, every script and every saga as a whole (`Permits.turn`, `Permits.script`,
`Permits.conducted`). So it takes one look at the pieces to see that the stop watch never goes back and that no saga
touches the record of another.
-/

namespace Coordination.Saga

variable {V : Type}

/-- Where `may id s t` tells that saga `id` may take the scene from `s` to `t`: the pieces of which statements are made
are permitted. -/
structure Permits (may : SagaId → Scene V → Scene V → Prop) : Prop where
  refl : ∀ id s, may id s s
  trans : ∀ {id s t u}, may id s t → may id t u → may id s u
  record : ∀ d s, may d.saga s (s.record d)
  pass : ∀ id p s, may id s (s.pass p)
  write : ∀ id l s, may id s (s.write l)
  announce : ∀ audience n s, may n.saga s (s.announce audience n)
  persist : ∀ r s, may r.id s (s.persist r)
  /-- What a saga may do that is begun now, everyone may do. -/
  nested : ∀ {id s t}, may s.identify.1 s.identify.2 t → may id s t

namespace Permits

variable {may : SagaId → Scene V → Scene V → Prop} (h : Permits may)

include h

/-! ### Statements on a run -/

section

variable (r : Run V) (s : Scene V)

private theorem runPersist : may r.record.id s (r.persist s) := by
  unfold Run.persist
  split
  · exact h.persist r.record s
  · exact h.refl _ s

private theorem runAnnounce {n : Notice} {id : SagaId} (hn : n.saga = id) : may id s (r.announce n s) := by
  subst hn
  exact h.announce r.wiring.audience n s

/-- A notice of a run about itself, and then its record. -/
private theorem announced {n : Notice} (hn : n.saga = r.record.id) : may r.record.id s (r.persist (r.announce n s)) :=
  h.trans (h.runAnnounce r s hn) (h.runPersist r _)

private theorem perform (name : String) (action : Scene V → Except String V × Scene V) (undo : V → Undo)
    (haction : ∀ id s, may id s (action s).2) : may r.record.id s (r.perform name action undo s).2.2 := by
  rw [Run.perform_eq]
  cases r.stepRefusal? s with
  | some fault => exact h.refl _ s
  | none =>
    have hacted := h.trans (h.record (r.starting name s) s) (haction r.record.id _)
    dsimp only
    generalize action _ = acted at hacted
    obtain ⟨error | value, s'⟩ := acted
    · exact h.trans hacted (h.runAnnounce r s' rfl)
    · exact h.trans hacted (h.announced ((r.remember ⟨name, value, undo value⟩).touch s') s' rfl)

private theorem commit : may r.record.id s (r.commit s).2.2 := by
  unfold Run.commit
  split
  · exact h.announced ((r.forget.withStatus .committed).touch s) s rfl
  · exact h.refl _ s

private theorem compensate (step : Step V) : may r.record.id s (r.compensate step s).2 := by
  have hundoing := h.trans (h.record (r.reversing step s) s) (h.pass _ step.undo.passing _)
  rw [Run.compensate_eq]
  unfold Run.putDown
  split
  · exact h.trans hundoing (h.write _ _ _)
  · exact h.trans hundoing (h.runAnnounce r _ rfl)

private theorem compensateAll (steps : List (Step V)) : may r.record.id s (Run.compensateAll steps r s).2 := by
  induction steps generalizing r s with
  | nil => exact h.refl _ s
  | cons step steps ih =>
    have hrest := ih (r.compensate step s).1 (r.compensate step s).2
    rw [(Run.compensate_leads step).id] at hrest
    exact h.trans (h.compensate r s step) hrest

private theorem rollback : may r.record.id s (r.rollback s).2.2 := by
  have hid := (Run.compensateAll_leads (r := (r.turnBack s).1) (s := (r.turnBack s).2) r.steps.reverse).id
  have hturned := h.runPersist (r.turnBack s).1 s
  have hundone := h.trans hturned (h.compensateAll (r.turnBack s).1 (r.turnBack s).2 r.steps.reverse)
  rw [Run.rollback_eq]
  split
  · dsimp only
    generalize Run.compensateAll r.steps.reverse _ _ = undone at hid hundone
    have hsettled := h.announced (undone.1.settle undone.2).1 undone.2 (n := .compensated undone.1.record.id) rfl
    have hid : (undone.1.settle undone.2).1.record.id = r.record.id := hid
    rw [hid] at hsettled
    exact h.trans hundone hsettled
  · exact h.refl _ s

private theorem abandon (fault : Fault) : may r.record.id s (r.abandon fault s).2 := by
  have hid := (Run.rollback_leads (r := r.note fault.message s) (s := s)).id
  have hrolled := h.rollback (r.note fault.message s) s
  obtain ⟨t, ht, habandon⟩ := r.abandon_eq fault s
  rw [habandon]
  generalize (r.note fault.message s).rollback s = rolled at *
  have hid : rolled.2.1.record.id = r.record.id := hid
  have hskipped : may r.record.id rolled.2.2 t := by
    rcases ht with rfl | ⟨l, rfl⟩
    · exact h.refl _ _
    · exact h.write _ l _
  exact h.trans hrolled (h.trans hskipped (h.runAnnounce rolled.2.1 t hid))

private theorem conclude (result : Except Fault V) : may r.record.id s (r.conclude result s).2.2 := by
  rcases r.conclude_cases result s with ⟨value, -, -, heq⟩ | ⟨fault, -, heq⟩
  · rw [heq]
    exact h.commit r s
  · rw [heq]
    exact h.abandon r s fault

end

/-! ### Sagas as a whole -/

private theorem begin (rt : Runtime) (o : Opening) (s : Scene V) : may s.identify.1 s.identify.2 (o.begin rt s).2 :=
  h.announced (o.begin rt s).1 s.identify.2 rfl

private theorem conductWith (rt : Runtime) (o : Opening) {play : Run V → Scene V → Except Fault V × Run V × Scene V}
    (hleads : ∀ (r : Run V) s, r.Leads s (play r s).2) (hplay : ∀ (r : Run V) s, may r.record.id s (play r s).2.2)
    (id : SagaId) (s : Scene V) : may id s (conductWith rt o play s).2.2 := by
  have hplayed := hplay (o.begin rt s).1 (o.begin rt s).2
  have hid := (hleads (o.begin rt s).1 (o.begin rt s).2).id
  have hconcluded := h.conclude (play (o.begin rt s).1 (o.begin rt s).2).2.1
    (play (o.begin rt s).1 (o.begin rt s).2).2.2 (play (o.begin rt s).1 (o.begin rt s).2).1
  -- the saga is the same from its beginning to its end, and new to all others
  rw [hid] at hconcluded
  exact h.nested (h.trans (h.begin rt o s) (h.trans hplayed hconcluded))

private theorem sagaAction (rt : Runtime) (o : Opening) {play : Run V → Scene V → Except Fault V × Run V × Scene V}
    (hleads : ∀ (r : Run V) s, r.Leads s (play r s).2) (hplay : ∀ (r : Run V) s, may r.record.id s (play r s).2.2)
    (id : SagaId) (s : Scene V) : may id s (sagaAction rt o play s).2 := by
  rw [sagaAction_scene]
  exact h.conductWith rt o hleads hplay id s

/-- After a statement, the run goes on under the same identifier. -/
private theorem goOn {r : Run V} {s t : Scene V} {after : Run V × Scene V} (hleads : r.Leads s after)
    (hafter : may r.record.id s after.2) (hrest : may after.1.record.id after.2 t) : may r.record.id s t := by
  rw [hleads.id] at hrest
  exact h.trans hafter hrest

theorem script (rt : Runtime) (script : Script V) (r : Run V) (s : Scene V) :
    may r.record.id s (script.run rt r s).2.2 := by
  induction script generalizing r s with
  | done result => exact h.refl _ s
  | act name passing outcome undo next ih =>
    have hleads : r.Leads s (r.perform name (fun s => (outcome, s.pass passing)) undo s).2 :=
      Run.perform_leads name undo (Scene.pass_apart passing)
    exact h.goOn hleads (h.perform r s name _ undo fun id s => h.pass id passing s) (ih _ _ _)
  | actSaga name passing opening inner undo next ihInner ih =>
    have hinner : ∀ (r : Run V) s, r.Leads s (inner.run rt r s).2 := inner.run_leads rt
    have hleads : r.Leads s
        (r.perform name (fun s => Saga.sagaAction rt opening (inner.run rt) (s.pass passing)) undo s).2 :=
      Run.perform_leads name undo fun s => (Scene.pass_apart passing s).trans (sagaAction_apart rt opening hinner _)
    have haction : ∀ id s, may id s (Saga.sagaAction rt opening (inner.run rt) (s.pass passing)).2 :=
      fun id s => h.trans (h.pass id passing s) (h.sagaAction rt opening hinner ihInner id _)
    exact h.goOn hleads (h.perform r s name _ undo haction) (ih _ _ _)
  | commit next ih => exact h.goOn Run.commit_leads (h.commit r s) (ih _ _ _)
  | rollback next ih => exact h.goOn Run.rollback_leads (h.rollback r s) (ih _ _ _)
  | note error next ih => exact ih (r.note error s) s
  | pause passing next ih => exact h.trans (h.pass _ passing s) (ih r _)

/-- A saga that is conducted in the action of a step may be anybody's. -/
theorem conducted (rt : Runtime) (passing : Passing) (o : Opening) (inner : Script V) (id : SagaId) (s : Scene V) :
    may id s (Saga.sagaAction rt o (inner.run rt) (s.pass passing)).2 :=
  h.trans (h.pass id passing s) (h.sagaAction rt o (inner.run_leads rt) (h.script rt inner) id _)

theorem turn (rt : Runtime) (st : Statement V) (r : Run V) (s : Scene V) :
    may r.record.id s (st.turn rt r s).after.2 := by
  cases st with
  | act name passing outcome undo =>
    exact h.perform r s name (fun s => (outcome, s.pass passing)) undo fun id s => h.pass id passing s
  | actSaga name passing opening inner undo => exact h.perform r s name _ undo (h.conducted rt passing opening inner)
  | commit => exact h.commit r s
  | rollback => exact h.rollback r s
  | note error => exact h.refl _ s
  | pause passing => exact h.pass _ passing s

end Permits

/-! ### Two things that no saga does -/

/-- The stop watch never goes back. -/
theorem permits_elapsed : Permits (V := V) fun _ s t => s.elapsed.nanos ≤ t.elapsed.nanos where
  refl := fun _ _ => Nat.le_refl _
  trans := Nat.le_trans
  record := fun _ _ => Nat.le_refl _
  pass := fun _ p s => Nat.le_add_right s.elapsed.nanos p.takes.nanos
  write := fun _ _ _ => Nat.le_refl _
  announce := fun _ _ _ => Nat.le_refl _
  persist := fun r s => by
    unfold Scene.persist
    split <;> exact Nat.le_refl _
  nested := id

/-- Of the sagas that are known, the records of all but `id` are left alone. -/
structure Scene.Spares (id : SagaId) (s t : Scene V) : Prop where
  issued : s.issued ≤ t.issued
  stored : ∀ j, j ≠ id → ¬ s.Unissued j → t.stored j = s.stored j

private theorem Scene.spares_of_eq {id : SagaId} {s t : Scene V} (hissued : t.issued = s.issued)
    (hstore : t.store = s.store) :
    s.Spares id t where
  issued := Nat.le_of_eq hissued.symm
  stored := fun j _ _ => congrArg (fun store => store.inner.findById j) hstore

theorem permits_spares : Permits (V := V) Scene.Spares where
  refl := fun _ _ => Scene.spares_of_eq rfl rfl
  trans := fun h₁ h₂ => {
    issued := Nat.le_trans h₁.issued h₂.issued
    stored := fun j hj hknown => (h₂.stored j hj fun h => hknown (h.mono h₁.issued)).trans (h₁.stored j hj hknown) }
  record := fun _ _ => Scene.spares_of_eq rfl rfl
  pass := fun _ _ _ => Scene.spares_of_eq rfl rfl
  write := fun _ _ _ => Scene.spares_of_eq rfl rfl
  announce := fun _ _ _ => Scene.spares_of_eq rfl rfl
  persist := fun r s => {
    issued := Nat.le_of_eq (s.persist_within r).issued.symm
    stored := fun j hj _ => (s.persist_within r).others j hj }
  nested := by
    intro id s t h
    have hlater : s.issued ≤ s.identify.2.issued := Nat.le_succ s.issued
    refine ⟨Nat.le_trans hlater h.issued, fun j _ hknown => ?_⟩
    -- the identifier that the nested saga gets is not known yet
    have hother : j ≠ s.identify.1 := fun hj => hknown ⟨s.issued + 1, Nat.lt_succ_self _, hj⟩
    exact h.stored j hother fun h => hknown (h.mono hlater)

end Coordination.Saga
