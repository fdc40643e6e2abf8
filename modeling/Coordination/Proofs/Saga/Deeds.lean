import Coordination.Saga.Script

/-!
# Deeds

The history of a scene tells which actions and compensations were started, and for which saga. A statement on one saga
may have others begun, played and ended inside an action; these get identifiers that were not handed out before. So
between two points of a run the deeds are its own or those of sagas begun in between (`Script.run_leads`), and whatever
an action does, it carries out no compensation of the saga whose step it is.
-/

namespace Coordination.Saga

variable {V : Type}

namespace Deed

/-- Whose deed it is. -/
def saga : Deed V → SagaId
  | .acting saga .. => saga
  | .undoing saga .. => saga

/-- The step that is undone for `id`, and the value that its compensation is given. -/
def undone? (id : SagaId) : Deed V → Option (String × V)
  | .acting .. => none
  | .undoing saga step value _ => if saga = id then some (step, value) else none

end Deed

/-- The compensations of `id` among some deeds. -/
def undoings (id : SagaId) (deeds : List (Deed V)) : List (String × V) := deeds.filterMap (Deed.undone? id)

private theorem undoings_append (id : SagaId) (deeds deeds' : List (Deed V)) :
    undoings id (deeds ++ deeds') = undoings id deeds ++ undoings id deeds' :=
  List.filterMap_append

private theorem undoings_eq_nil {id : SagaId} {deeds : List (Deed V)} (h : ∀ d ∈ deeds, d.saga ≠ id) :
    undoings id deeds = [] := by
  refine List.filterMap_eq_nil_iff.2 ?_
  intro d hd
  have := h d hd
  cases d with
  | acting saga step elapsed stored => rfl
  | undoing saga step value stored => exact if_neg this

namespace Scene

/-- What was done from `s` to `t`. -/
def since (s t : Scene V) : List (Deed V) := t.history.drop s.history.length

/-- An identifier that is still to be handed out. -/
def Unissued (s : Scene V) (id : SagaId) : Prop := ∃ n, s.issued < n ∧ id = .nth n

/-- Scene `t` comes after `s`, and in between only the sagas in `who` did anything. The faults that are planned stay. -/
structure Grown (who : SagaId → Prop) (s t : Scene V) : Prop where
  deeds : ∃ new, t.history = s.history ++ new ∧ ∀ d ∈ new, who d.saga
  issued : s.issued ≤ t.issued
  plan : t.store.plan = s.store.plan

/-- In between only sagas did anything that were begun in between. -/
def Apart (s t : Scene V) : Prop := Grown s.Unissued s t

/-- In between only `id` did anything, and sagas that were begun in between. -/
def Led (id : SagaId) (s t : Scene V) : Prop := Grown (fun i => i = id ∨ s.Unissued i) s t

theorem Unissued.mono {s t : Scene V} (h : s.issued ≤ t.issued) {id : SagaId} : t.Unissued id → s.Unissued id := by
  rintro ⟨n, hn, rfl⟩
  exact ⟨n, by omega, rfl⟩

namespace Grown

variable {who who' : SagaId → Prop} {s t u : Scene V}

theorem of_eq (hh : t.history = s.history) (hi : t.issued = s.issued) (hp : t.store.plan = s.store.plan) :
    Grown who s t where
  deeds := ⟨[], by simp [hh], by simp⟩
  issued := Nat.le_of_eq hi.symm
  plan := hp

private theorem mono (h : Grown who s t) (hw : ∀ id, who id → who' id) : Grown who' s t where
  deeds := by
    obtain ⟨new, heq, hnew⟩ := h.deeds
    exact ⟨new, heq, fun d hd => hw _ (hnew d hd)⟩
  issued := h.issued
  plan := h.plan

private theorem trans (h₁ : Grown who s t) (h₂ : Grown who t u) : Grown who s u where
  deeds := by
    obtain ⟨new₁, heq₁, hnew₁⟩ := h₁.deeds
    obtain ⟨new₂, heq₂, hnew₂⟩ := h₂.deeds
    refine ⟨new₁ ++ new₂, by rw [heq₂, heq₁, List.append_assoc], ?_⟩
    intro d hd
    rcases List.mem_append.1 hd with hd | hd
    · exact hnew₁ d hd
    · exact hnew₂ d hd
  issued := Nat.le_trans h₁.issued h₂.issued
  plan := h₂.plan.trans h₁.plan

private theorem since_eq (h : Grown who s t) : t.history = s.history ++ s.since t := by
  obtain ⟨new, heq, -⟩ := h.deeds
  simp [since, heq]

theorem mem_since (h : Grown who s t) {d : Deed V} (hd : d ∈ s.since t) : who d.saga := by
  obtain ⟨new, heq, hnew⟩ := h.deeds
  exact hnew d (by simpa [since, heq] using hd)

theorem since_trans (h₁ : Grown who s t) (h₂ : Grown who' t u) : s.since u = s.since t ++ t.since u := by
  have h : u.history = s.history ++ (s.since t ++ t.since u) := by
    rw [← List.append_assoc, ← h₁.since_eq, h₂.since_eq]
  conv => lhs; rw [since, h]
  exact List.drop_left

theorem undoings_since (h₁ : Grown who s t) (h₂ : Grown who' t u) (id : SagaId) :
    undoings id (s.since u) = undoings id (s.since t) ++ undoings id (t.since u) := by
  rw [h₁.since_trans h₂, undoings_append]

end Grown

theorem since_self (s : Scene V) : s.since s = [] := List.drop_length

theorem since_record (d : Deed V) (s : Scene V) : s.since (s.record d) = [d] := by
  simp [since, record]

theorem Led.trans {id : SagaId} {s t u : Scene V} (h₁ : Led id s t) (h₂ : Led id t u) : Led id s u := by
  refine Grown.trans h₁ (Grown.mono h₂ ?_)
  rintro i (hi | hi)
  · exact Or.inl hi
  · exact Or.inr (hi.mono h₁.issued)

theorem Apart.trans {s t u : Scene V} (h₁ : Apart s t) (h₂ : Apart t u) : Apart s u :=
  Grown.trans h₁ (Grown.mono h₂ fun _ hi => hi.mono h₁.issued)

theorem Apart.led {s t : Scene V} (h : Apart s t) (id : SagaId) : Led id s t :=
  Grown.mono h fun _ hi => Or.inr hi

/-- No compensation of a saga is carried out while only others do something. -/
theorem Apart.undoings {s t : Scene V} (h : Apart s t) {id : SagaId} (hid : ¬ s.Unissued id) :
    undoings id (s.since t) = [] := by
  refine undoings_eq_nil ?_
  rintro d hd rfl
  exact hid (h.mem_since hd)

theorem record_led {d : Deed V} {id : SagaId} (hd : d.saga = id) (s : Scene V) : Led id s (s.record d) where
  deeds := ⟨[d], rfl, by simp [hd]⟩
  issued := Nat.le_refl _
  plan := rfl

theorem pass_apart (p : Passing) (s : Scene V) : Apart s (s.pass p) := .of_eq rfl rfl rfl

theorem Led.refl (id : SagaId) (s : Scene V) : Led id s s := .of_eq rfl rfl rfl

end Scene

/-! ### Statements on a run -/

namespace Run

/-- A statement keeps the identifier of its run and what it reports to, and only this saga and later ones do
anything. -/
structure Leads (r : Run V) (s : Scene V) (after : Run V × Scene V) : Prop where
  id : after.1.record.id = r.record.id
  wiring : after.1.wiring = r.wiring
  led : s.Led r.record.id after.2

variable {r : Run V} {s : Scene V}

theorem Leads.trans {r' : Run V} {s' : Scene V} {after : Run V × Scene V} (h₁ : r.Leads s (r', s'))
    (h₂ : r'.Leads s' after) : r.Leads s after where
  id := h₂.id.trans h₁.id
  wiring := h₂.wiring.trans h₁.wiring
  led := by
    refine h₁.led.trans ?_
    rw [← h₁.id]
    exact h₂.led

/-- A run stays known. -/
theorem Leads.known {after : Run V × Scene V} (h : r.Leads s after) (hknown : ¬ s.Unissued r.record.id) :
    ¬ after.2.Unissued after.1.record.id := by
  rw [h.id]
  exact fun hlater => hknown (hlater.mono h.led.issued)

theorem persist_apart (r : Run V) (s : Scene V) : s.Apart (r.persist s) :=
  .of_eq (history_persist r s) (issued_persist r s) (plan_persist r s)

theorem announce_apart (n : Notice) (r : Run V) (s : Scene V) : s.Apart (r.announce n s) := .of_eq rfl rfl rfl

/-- An action of a step may do anything that other sagas can do. -/
theorem perform_leads (name : String) {action : Scene V → Except String V × Scene V} (undo : V → Undo)
    (haction : ∀ s : Scene V, s.Apart (action s).2) : r.Leads s (r.perform name action undo s).2 := by
  unfold perform
  split
  · exact ⟨rfl, rfl, .refl _ s⟩
  · have hacting : s.Led r.record.id (s.record (.acting r.record.id name s.elapsed (s.stored r.record.id))) :=
      Scene.record_led (by rfl) s
    have hact := haction (s.record (.acting r.record.id name s.elapsed (s.stored r.record.id)))
    split
    · rename_i error s' heq
      rw [heq] at hact
      exact ⟨rfl, rfl, (hacting.trans (hact.led _)).trans ((announce_apart _ r s').led _)⟩
    · rename_i value s' heq
      rw [heq] at hact
      exact ⟨rfl, rfl, (hacting.trans (hact.led _)).trans
        (((announce_apart _ _ s').led _).trans ((persist_apart _ _).led _))⟩

theorem commit_leads : r.Leads s (r.commit s).2 := by
  unfold commit
  split
  · exact ⟨rfl, rfl, ((announce_apart _ _ s).led _).trans ((persist_apart _ _).led _)⟩
  · exact ⟨rfl, rfl, .refl _ s⟩

theorem compensate_leads (step : Step V) : r.Leads s (r.compensate step s) := by
  have hundoing : s.Led r.record.id ((s.record
      (.undoing r.record.id step.name step.value (s.stored r.record.id))).pass step.undo.passing) :=
    (Scene.record_led (by rfl) s).trans ((Scene.pass_apart _ _).led _)
  unfold compensate
  dsimp only
  split
  · exact ⟨rfl, rfl, hundoing.trans (.of_eq rfl rfl rfl)⟩
  · exact ⟨rfl, rfl, hundoing.trans ((announce_apart _ r _).led _)⟩

theorem compensateAll_leads (steps : List (Step V)) : r.Leads s (compensateAll steps r s) := by
  induction steps generalizing r s with
  | nil => exact ⟨rfl, rfl, .refl _ s⟩
  | cons step steps ih => exact (compensate_leads step).trans ih

theorem rollback_leads : r.Leads s (r.rollback s).2 := by
  unfold rollback
  split
  · have hstart : r.Leads s ((r.forget.withStatus .compensating).touch s,
        ((r.forget.withStatus .compensating).touch s).persist s) :=
      ⟨rfl, rfl, (persist_apart _ s).led _⟩
    refine (hstart.trans (compensateAll_leads r.steps.reverse)).trans ?_
    exact ⟨rfl, rfl, ((announce_apart _ _ _).led _).trans ((persist_apart _ _).led _)⟩
  · exact ⟨rfl, rfl, .refl _ s⟩

theorem abandon_leads (fault : Fault) : r.Leads s (r.abandon fault s) := by
  have hnote : r.Leads s (r.note fault.message s, s) := ⟨rfl, rfl, .refl _ s⟩
  have hroll := hnote.trans rollback_leads
  unfold abandon
  dsimp only
  refine hroll.trans ?_
  split
  · exact ⟨rfl, rfl, (announce_apart _ _ _).led _⟩
  · exact ⟨rfl, rfl, .of_eq rfl rfl rfl⟩

theorem conclude_leads (result : Except Fault V) : r.Leads s (r.conclude result s).2 := by
  have hcommit := commit_leads (r := r) (s := s)
  unfold conclude
  split
  · exact abandon_leads _
  · split
    · rename_i r' s' heq
      rw [heq] at hcommit
      exact hcommit
    · rename_i fault r' s' heq
      rw [heq] at hcommit
      exact hcommit.trans (abandon_leads fault)

end Run

/-! ### Sagas as a whole -/

namespace Run

variable (wiring : Wiring) (name : String) (correlation : Option String) (budget : Option Span) (s : Scene V)

theorem begin_issued : (begin wiring name correlation budget s).2.issued = s.issued + 1 :=
  issued_persist _ _

theorem begin_history : (begin wiring name correlation budget s).2.history = s.history :=
  history_persist _ _

theorem begin_apart : s.Apart (begin wiring name correlation budget s).2 where
  deeds := ⟨[], by rw [begin_history, List.append_nil], by simp⟩
  issued := by rw [begin_issued]; omega
  plan := plan_persist _ _

/-- A run is known: no saga that is begun from now on will have its identifier. -/
theorem begin_known :
    ¬ (begin wiring name correlation budget s).2.Unissued (begin wiring name correlation budget s).1.record.id := by
  rintro ⟨n, hn, heq⟩
  rw [begin_issued] at hn
  have := Ident.nth_inj heq
  omega

end Run

/-- A saga from its beginning to its end is the work of sagas that were not there before. -/
theorem conductWith_apart (rt : Runtime) (o : Opening) {play : Run V → Scene V → Except Fault V × Run V × Scene V}
    (hplay : ∀ (r : Run V) s, r.Leads s (play r s).2) (s : Scene V) : s.Apart (conductWith rt o play s).2.2 := by
  have hbegin : s.Apart (o.begin rt s).2 := Run.begin_apart ..
  have hissued : (o.begin rt s).2.issued = s.issued + 1 := Run.begin_issued ..
  have hlead := (hplay (o.begin rt s).1 (o.begin rt s).2).trans
    (Run.conclude_leads (play (o.begin rt s).1 (o.begin rt s).2).1)
  refine Scene.Grown.trans hbegin (hlead.led.mono ?_)
  rintro id (rfl | hid)
  · exact ⟨s.issued + 1, by omega, rfl⟩
  · exact hid.mono hbegin.issued

theorem sagaAction_scene (rt : Runtime) (o : Opening) (play : Run V → Scene V → Except Fault V × Run V × Scene V)
    (s : Scene V) : (sagaAction rt o play s).2 = (conductWith rt o play s).2.2 := by
  unfold sagaAction
  split <;> rename_i heq <;> rw [heq]

theorem sagaAction_apart (rt : Runtime) (o : Opening) {play : Run V → Scene V → Except Fault V × Run V × Scene V}
    (hplay : ∀ (r : Run V) s, r.Leads s (play r s).2) (s : Scene V) : s.Apart (sagaAction rt o play s).2 := by
  rw [sagaAction_scene]
  exact conductWith_apart rt o hplay s

theorem Script.run_leads (rt : Runtime) (script : Script V) (r : Run V) (s : Scene V) :
    r.Leads s (script.run rt r s).2 := by
  induction script generalizing r s with
  | done result => exact ⟨rfl, rfl, .refl _ s⟩
  | act name passing outcome undo next ih =>
    have hstep : r.Leads s (r.perform name (fun s => (outcome, s.pass passing)) undo s).2 :=
      Run.perform_leads name undo (Scene.pass_apart passing)
    rw [Script.run]
    exact hstep.trans (ih _ _ _)
  | actSaga name passing opening inner undo next ihInner ih =>
    have haction : ∀ s : Scene V, s.Apart (sagaAction rt opening (inner.run rt) (s.pass passing)).2 :=
      fun s => (Scene.pass_apart passing s).trans (sagaAction_apart rt opening ihInner _)
    have hstep := Run.perform_leads (r := r) (s := s) name undo haction
    rw [Script.run]
    exact hstep.trans (ih _ _ _)
  | commit next ih =>
    rw [Script.run]
    exact Run.commit_leads.trans (ih _ _ _)
  | rollback next ih =>
    rw [Script.run]
    exact Run.rollback_leads.trans (ih _ _ _)
  | note error next ih =>
    have hnote : r.Leads s (r.note error s, s) := ⟨rfl, rfl, .refl _ s⟩
    rw [Script.run]
    exact hnote.trans (ih _ _)
  | pause passing next ih =>
    have hpause : r.Leads s (r, s.pass passing) := ⟨rfl, rfl, (Scene.pass_apart passing s).led _⟩
    rw [Script.run]
    exact hpause.trans (ih _ _)

end Coordination.Saga
