import Coordination.Proofs.Saga.Compensation

/-!
# All or nothing

A script that leaves the end of its run to `conduct` gets one of two ends. If it succeeds, the run is committed and
nothing is undone; if it fails, every step that was completed is undone, and the fault of the script is answered, not
one of a compensation (`conduct_all_or_nothing`). An archive without faults then holds what became of the saga.
-/

namespace Coordination.Saga

variable {V : Type}

/-- The script neither commits nor rolls back its own run. What the scripts of inner sagas do is left open. -/
def Script.StepsOnly : Script V → Prop
  | .done _ => True
  | .act _ _ _ _ next => ∀ result, (next result).StepsOnly
  | .actSaga _ _ _ _ _ next => ∀ result, (next result).StepsOnly
  | .commit _ => False
  | .rollback _ => False
  | .note _ next => next.StepsOnly
  | .pause _ next => next.StepsOnly

private theorem Script.StepsOnly.ends (rt : Runtime) {script : Script V} (h : script.StepsOnly) (r : Run V)
    (s : Scene V) :
    ∀ t ∈ script.turns rt r s, t.ends = false := by
  induction script generalizing r s with
  | done result => exact fun t ht => nomatch ht
  | act name passing outcome undo next ih => exact List.forall_mem_cons.2 ⟨rfl, ih _ (h _) _ _⟩
  | actSaga name passing opening inner undo next _ ih => exact List.forall_mem_cons.2 ⟨rfl, ih _ (h _) _ _⟩
  | commit next => exact h.elim
  | rollback next => exact h.elim
  | note error next ih => exact List.forall_mem_cons.2 ⟨rfl, ih h _ _⟩
  | pause passing next ih => exact List.forall_mem_cons.2 ⟨rfl, ih h _ _⟩

/-- Until it is concluded, the run of such a script is under way; it remembers what was completed, and nothing was
undone. -/
private theorem Script.StepsOnly.going (rt : Runtime) {script : Script V} (h : script.StepsOnly) {r : Run V}
    {s : Scene V} (hknown : ¬ s.Unissued r.record.id) :
    (script.run rt r s).2.1.isRunning = r.isRunning ∧
      (script.run rt r s).2.1.steps = r.steps ++ completedIn rt (script.turns rt r s) ∧
      (script.run rt r s).2.1.record.completed =
        r.record.completed ++ (completedIn rt (script.turns rt r s)).map Step.name ∧
      (script.run rt r s).2.1.failures = r.failures ∧
      undoings r.record.id (s.since (script.run rt r s).2.2) = [] := by
  obtain ⟨hrunning, hsteps, hcompleted, hfailures⟩ := play_going rt _ hknown (h.ends rt r s)
  have hundone := play_undoings rt (script.chosen rt r s) hknown
  have hnone : ∀ t ∈ script.turns rt r s, t.undone = [] :=
    fun t ht => (play_lawful rt _ hknown t ht).undone_eq_nil (h.ends rt r s t ht)
  rw [← script.play_chosen]
  exact ⟨hrunning, hsteps, hcompleted, hfailures, hundone.trans (List.flatMap_eq_nil_iff.2 hnone)⟩

namespace Run

variable {r : Run V} {s : Scene V}

/-- Without faults, the archive holds the record that is written to it. -/
theorem stored_persist (harchived : r.wiring.archived = true) (hplan : ∀ n, s.store.plan .save n = none) :
    (r.persist s).stored r.record.id = some r.record := by
  unfold persist
  rw [if_pos harchived]
  exact Scene.stored_persist hplan

private theorem stored_rollback (h : r.isRunning = true) (harchived : r.wiring.archived = true)
    (hplan : ∀ n, s.store.plan .save n = none) :
    (r.rollback s).2.2.stored r.record.id = some (r.rollback s).2.1.record := by
  have hmiddle := compensateAll_leads (r := (r.forget.withStatus .compensating).touch s)
    (s := ((r.forget.withStatus .compensating).touch s).persist s) r.steps.reverse
  unfold rollback
  rw [if_pos h]
  dsimp only
  generalize compensateAll r.steps.reverse _ _ = middle at hmiddle
  have hid : middle.1.record.id = r.record.id := hmiddle.id
  have hwiring : middle.1.wiring = r.wiring := hmiddle.wiring
  have hquiet : ∀ n, middle.2.store.plan .save n = none := by
    rw [hmiddle.led.plan, plan_persist]
    exact hplan
  rw [← hid]
  rw [← hwiring] at harchived
  exact stored_persist (r := ((middle.1.withStatus .compensated).withError _).touch middle.2) harchived hquiet

/-- What becomes of a run that is under way and is given up. -/
theorem abandon_of_running (fault : Fault) (h : r.isRunning = true) (hknown : ¬ s.Unissued r.record.id) :
    (r.abandon fault s).1.record.status = .compensated ∧
      undoings r.record.id (s.since (r.abandon fault s).2) = (r.steps.map Step.bound).reverse ∧
      (r.wiring.archived = true → (∀ n, s.store.plan .save n = none) →
        ∃ record, (r.abandon fault s).2.stored r.record.id = some record ∧ record.status = .compensated ∧
          record.completed = r.record.completed ∧
          record.error = finalError (some fault.message) (r.failures ++ failing r.steps.reverse)) := by
  have hnoted : (r.note fault.message s).isRunning = true := h
  obtain ⟨hresult, hstatus, hcompleted, -, herror⟩ := rollback_of_running hnoted s
  have hundone : undoings r.record.id (s.since ((r.note fault.message s).rollback s).2.2) = r.steps.reverse.map _ :=
    undoings_rollback hnoted hknown
  have hleads := rollback_leads (r := r.note fault.message s) (s := s)
  have hlater := hleads.known hknown
  have hstored := stored_rollback (s := s) hnoted
  unfold abandon
  dsimp only
  rw [hresult]
  dsimp only
  generalize (r.note fault.message s).rollback s = rolled at *
  have hlast := announce_apart (.failed rolled.2.1.record.id (some fault.message)) rolled.2.1 rolled.2.2
  have hquiet := hlast.undoings hlater
  rw [hleads.id] at hquiet
  refine ⟨hstatus, ?_, ?_⟩
  · calc
      _ = undoings r.record.id (s.since rolled.2.2) ++ undoings r.record.id (rolled.2.2.since _) :=
        hleads.led.undoings_since hlast r.record.id
      _ = r.steps.reverse.map Step.bound ++ [] := congr (congrArg _ hundone) hquiet
      _ = (r.steps.map Step.bound).reverse := by rw [List.append_nil, List.map_reverse]
  · intro harchived hplan
    exact ⟨_, hstored harchived hplan, hstatus, hcompleted, herror⟩

private theorem finalError_some (cause : String) (failures : List String) :
    finalError (some cause) failures = some (cause ++
      if failures = [] then "" else "; compensation failed for: " ++ ", ".intercalate failures) := by
  cases failures with
  | nil => simp [finalError]
  | cons name failures =>
    have htext : ∀ names : String, "; " ++ ("compensation failed for: " ++ names) =
        "; compensation failed for: " ++ names := by
      intro names
      rw [← String.append_assoc]
      rfl
    rw [finalError, if_neg (by simp), if_neg (by simp)]
    dsimp only
    rw [String.append_assoc, htext]

/-- A run that is under way ends committed if its script came to a value. -/
private theorem conclude_ok (value : V) (h : r.isRunning = true) (hknown : ¬ s.Unissued r.record.id) :
    (r.conclude (.ok value) s).1 = .ok value ∧ (r.conclude (.ok value) s).2.1.record.status = .committed ∧
      undoings r.record.id (s.since (r.conclude (.ok value) s).2.2) = [] := by
  obtain ⟨hresult, hrun, hapart⟩ := r.commit_of_running h s
  have hundone := hapart.undoings hknown
  unfold conclude
  dsimp only
  split
  · rename_i r' s' heq
    rw [heq] at hrun hundone
    exact ⟨rfl, congrArg (·.record.status) hrun, hundone⟩
  · rename_i fault r' s' heq
    rw [heq] at hresult
    cases hresult

end Run

/-- **A saga happens as a whole or not at all.** Let a script leave the end of its run to `conduct`. What the script
comes to is what `conduct` answers. If that is a value, the run ends committed and nothing was undone. If it is a
fault, the run ends compensated and every step whose action succeeded was undone once, the newest first, with the
value of its action; and an archive without faults then holds a record with these steps and the fault, together with
the names of the steps that could not be undone, if there are any. -/
theorem conduct_all_or_nothing (rt : Runtime) (o : Opening) {script : Script V} (h : script.StepsOnly) (s : Scene V) :
    let begun := o.begin rt s
    let id := begun.1.record.id
    let played := script.run rt begun.1 begun.2
    let done := completedIn rt (script.turns rt begun.1 begun.2)
    let ended := conduct rt o script s
    ended.1 = played.1 ∧
      match played.1 with
      | .ok _ => ended.2.1.record.status = .committed ∧ undoings id (begun.2.since ended.2.2) = []
      | .error fault =>
        ended.2.1.record.status = .compensated ∧
        undoings id (begun.2.since ended.2.2) = (done.map Step.bound).reverse ∧
        ((o.wiring rt).archived = true → (∀ n, s.store.plan .save n = none) →
          ∃ record, ended.2.2.stored id = some record ∧ record.status = .compensated ∧
            record.completed = done.map Step.name ∧
            record.error = some (fault.message ++
              if failing done.reverse = [] then ""
              else "; compensation failed for: " ++ ", ".intercalate (failing done.reverse))) := by
  intro begun id played done ended
  have hknown : ¬ begun.2.Unissued id := Run.begin_known (o.wiring rt) o.name o.key (o.budget rt) s
  have hplan : begun.2.store.plan = s.store.plan := Run.plan_persist _ _
  have hleads : begun.1.Leads begun.2 played.2 := script.run_leads rt begun.1 begun.2
  have hlater := hleads.known hknown
  obtain ⟨hrunning, hsteps, hcompleted, hfailures, hundone⟩ := h.going rt hknown
  have hrunning : played.2.1.isRunning = true := hrunning
  -- what is undone is undone after the script
  have hundoings : ∀ ended : Run V × Scene V, played.2.1.Leads played.2.2 ended →
      undoings id (begun.2.since ended.2) = undoings played.2.1.record.id (played.2.2.since ended.2) := by
    intro ended hended
    rw [hleads.led.undoings_since hended.led, hleads.id]
    exact congrArg (· ++ _) hundone
  have hended : ended = played.2.1.conclude played.1 played.2.2 := rfl
  cases hresult : played.1 with
  | ok value =>
    rw [hresult] at hended
    rw [hended, hundoings _ (Run.conclude_leads _)]
    exact Run.conclude_ok value hrunning hlater
  | error fault =>
    rw [hresult] at hended
    have habandoned : ended = (.error fault, played.2.1.abandon fault played.2.2) := hended
    obtain ⟨hstatus, hundone', hstored⟩ := Run.abandon_of_running fault hrunning hlater
    rw [habandoned, hundoings _ (Run.abandon_leads fault)]
    refine ⟨rfl, hstatus, hundone'.trans ?_, ?_⟩
    · rw [hsteps]
      rfl
    · intro harchived hquiet
      have hwiring : played.2.1.wiring = o.wiring rt := hleads.wiring
      have hquiet' : ∀ n, played.2.2.store.plan .save n = none := by
        rw [hleads.led.plan, hplan]
        exact hquiet
      obtain ⟨record, hfound, hcompensated, hnames, herror⟩ := hstored (hwiring ▸ harchived) hquiet'
      rw [hleads.id] at hfound
      rw [hfailures, hsteps, Run.finalError_some] at herror
      exact ⟨record, hfound, hcompensated, hnames.trans hcompleted, herror⟩

/-- An order of three pieces: they are reserved, which cannot be undone, and then the payment fails. -/
def declinedOrder : Script Nat :=
  .act "reserve" .nothing (.ok 3) (fun _ => ⟨.nothing, .fails "out of reach"⟩) fun
    | .error fault => .done (.error fault)
    | .ok pieces => .act "charge" .nothing (.error "card declined") (fun _ => ⟨.nothing, .succeeds⟩) fun
      | .error fault => .done (.error fault)
      | .ok _ => .done (.ok pieces)

theorem conduct_declinedOrder :
    declinedOrder.StepsOnly ∧
      let ended := conduct ⟨.nobody, true, none⟩ ⟨"order", none, none, false⟩ declinedOrder (.opened 0)
      undoings (.nth 1) ended.2.2.history = [("reserve", 3)] ∧
        ∃ record, ended.2.2.stored (.nth 1) = some record ∧ record.status = .compensated ∧
          record.completed = ["reserve"] ∧
          record.error = some "step charge failed: card declined; compensation failed for: reserve" := by
  have hsteps : declinedOrder.StepsOnly := by
    rintro (fault | pieces)
    · trivial
    · rintro (fault | paid) <;> trivial
  obtain ⟨-, -, hundone, hstored⟩ :=
    conduct_all_or_nothing ⟨.nobody, true, none⟩ ⟨"order", none, none, false⟩ hsteps (.opened 0)
  exact ⟨hsteps, hundone, hstored rfl fun _ => rfl⟩

end Coordination.Saga
