import Coordination.Proofs.Saga.AllOrNothing
import Coordination.Proofs.Saga.Interleaving

/-!
# The archive runs ahead

However sagas are interleaved, an archive without faults keeps up with each of them: the stored record is the record of
the run, but for an error noted since and the time of the update. So when an action is started, the archive knows the
steps completed before; when a compensation is started, it knows that the saga is being undone, and why
(`Weave.write_ahead`).

The invariant of one saga is `Strand.Kept`, in terms of what came of its own statements. A motion keeps it and leaves
the records of the other sagas alone (`Strand.Kept.moves`).
-/

namespace Coordination.Saga

variable {V : Type}

/-- The stored record is `r`, but for the error and the time of the update. -/
def Record.Matches (stored r : Record) : Prop := { stored with error := r.error, updatedAt := r.updatedAt } = r

private theorem Record.Matches.completed {stored r : Record} (h : stored.Matches r) :
    stored.completed = r.completed := by
  unfold Record.Matches at h
  rw [← h]

private theorem Record.Matches.update {stored r : Record} (h : stored.Matches r) (error : Option String)
    (updatedAt : Millis) :
    stored.Matches { r with error := error, updatedAt := updatedAt } := by
  unfold Record.Matches at h ⊢
  rw [← h]

/-! ### What was reported -/

namespace Report

/-- The step that is completed. -/
def completed? : Report V → Option String
  | .step name (.ok _) => some name
  | _ => none

/-- The error that is noted. -/
def noted? : Report V → Option String
  | .noted error => some error
  | _ => none

/-- The action or compensation that is started. -/
def deed? : Report V → Option (Deed V)
  | .started deed => some deed
  | _ => none

/-- The saga is begun, or a step, a commit or a rollback succeeds. -/
def succeeds : Report V → Bool
  | .begun => true
  | .step _ (.ok _) => true
  | .commit (.ok ()) => true
  | .rollback (.ok ()) => true
  | _ => false

end Report

/-- The reports of one strand. -/
def reports (i : Nat) (log : List (Nat × Report V)) : List (Report V) :=
  log.filterMap fun e => if e.1 = i then some e.2 else none

private theorem reports_append (i : Nat) (log log' : List (Nat × Report V)) :
    reports i (log ++ log') = reports i log ++ reports i log' :=
  List.filterMap_append

private theorem reports_self (i : Nat) (report : Option (Report V)) :
    reports i (report.map (i, ·)).toList = report.toList := by
  cases report <;> simp [reports]

private theorem reports_other {i j : Nat} (h : i ≠ j) (report : Option (Report V)) :
    reports j (report.map (i, ·)).toList = [] := by
  cases report <;> simp [reports, h]

/-- The steps that were completed, in order. -/
def completedSteps (told : List (Report V)) : List String := told.filterMap Report.completed?

/-- The error that was noted last. -/
def lastError (told : List (Report V)) : Option String := told.reverse.findSome? Report.noted?

private theorem completedSteps_append (told : List (Report V)) (report : Report V) :
    completedSteps (told ++ [report]) = completedSteps told ++ report.completed?.toList := by
  unfold completedSteps
  rw [List.filterMap_append]
  cases h : report.completed? <;> simp [h]

private theorem completedSteps_append_of_none {report : Report V} (h : report.completed? = none)
    (told : List (Report V)) :
    completedSteps (told ++ [report]) = completedSteps told := by
  rw [completedSteps_append, h, Option.toList_none, List.append_nil]

private theorem lastError_append (told : List (Report V)) (report : Report V) :
    lastError (told ++ [report]) = report.noted?.or (lastError told) := by
  unfold lastError
  rw [List.reverse_append, List.findSome?_append, List.reverse_singleton, List.findSome?_singleton]

private theorem lastError_append_of_none {report : Report V} (h : report.noted? = none) (told : List (Report V)) :
    lastError (told ++ [report]) = lastError told := by
  rw [lastError_append, h, Option.none_or]

/-- What the archive held when an action or a compensation was started, for what was reported before. -/
def Deed.Shows (told : List (Report V)) : Deed V → Prop
  | .acting _ _ _ stored => ∃ r, stored = some r ∧ r.completed = completedSteps told
  | .undoing _ _ _ stored => ∃ r, stored = some r ∧ r.status = .compensating ∧ r.completed = completedSteps told ∧
      r.error = lastError told

/-! ### What one saga does to the scene -/

namespace Scene

/-- From `s` to `t` the deeds were done, and no record but that of `id` was written. -/
structure Within (id : SagaId) (deeds : List (Deed V)) (s t : Scene V) : Prop where
  history : t.history = s.history ++ deeds
  others : ∀ j, j ≠ id → t.stored j = s.stored j
  issued : t.issued = s.issued
  plan : t.store.plan = s.store.plan

namespace Within

variable {id : SagaId} {deeds deeds' : List (Deed V)} {s t u : Scene V}

private theorem of_eq (hhistory : t.history = s.history) (hstore : t.store = s.store) (hissued : t.issued = s.issued) :
    s.Within id [] t where
  history := hhistory.trans (List.append_nil _).symm
  others := by
    intro j _
    unfold stored
    rw [hstore]
  issued := hissued
  plan := congrArg Guarded.plan hstore

private theorem refl (id : SagaId) (s : Scene V) : s.Within id [] s := .of_eq rfl rfl rfl

private theorem trans (h : s.Within id deeds t) (h' : t.Within id deeds' u) : s.Within id (deeds ++ deeds') u where
  history := by rw [h'.history, h.history, List.append_assoc]
  others := fun j hj => (h'.others j hj).trans (h.others j hj)
  issued := h'.issued.trans h.issued
  plan := h'.plan.trans h.plan

private theorem record (d : Deed V) (id : SagaId) (s : Scene V) : s.Within id [d] (s.record d) :=
  ⟨rfl, fun _ _ => rfl, rfl, rfl⟩

end Within

theorem persist_within (r : Record) (s : Scene V) : s.Within r.id [] (s.persist r) where
  history := (history_persist r s).trans (List.append_nil _).symm
  others := by
    intro j hj
    have hchange := s.store.change_cases .save fun a => .ok (a.save r)
    unfold persist stored
    generalize s.store.change .save (fun a => .ok (a.save r)) = changed at hchange
    obtain ⟨_ | _, store⟩ := changed
    · rcases hchange with ⟨_, -, hinner⟩ | ⟨h, -⟩
      · exact congrArg (Archive.findById j) hinner
      · cases h
    · rcases hchange with ⟨_, h, -⟩ | ⟨-, hwrite⟩
      · cases h
      · have hinner : store.inner = s.store.inner.save r := (Except.ok.inj hwrite).symm
        show store.inner.findById j = s.store.inner.findById j
        rw [hinner]
        exact (Table.find?_insert r.id j r s.store.inner).trans (if_neg hj)
  issued := issued_persist r s
  plan := plan_persist r s

end Scene

namespace Run

variable {r : Run V} {s : Scene V}

private theorem persist_within (r : Run V) (s : Scene V) : s.Within r.record.id [] (r.persist s) := by
  unfold persist
  split
  · exact Scene.persist_within r.record s
  · exact .refl _ s

private theorem announce_within (n : Notice) (r : Run V) (id : SagaId) (s : Scene V) :
    s.Within id [] (r.announce n s) :=
  .of_eq rfl rfl rfl

/-- A notice, and then the record, as after every statement that succeeds. -/
private theorem announced_within (n : Notice) (r : Run V) (s : Scene V) :
    s.Within r.record.id [] (r.persist (r.announce n s)) :=
  (announce_within n r _ s).trans (persist_within r _)

private theorem stored_announced (harchived : r.wiring.archived = true) (hplan : ∀ n, s.store.plan .save n = none)
    (n : Notice) : (r.persist (r.announce n s)).stored r.record.id = some r.record :=
  stored_persist harchived hplan

end Run

/-! ### The invariant of one saga -/

namespace Strand

/-- What is true in the middle of a statement. -/
def Midway (s : Scene V) (x : Strand V) : Prop :=
  match x.pending with
  | .nothing => True
  | .acting _ _ => x.run.isRunning = true
  | .rollingBack _ => x.run.record.status = .compensating ∧ s.stored x.id = some x.run.record
  | .undoing _ _ => x.run.record.status = .compensating ∧ s.stored x.id = some x.run.record

/-- What the archive and the run hold of a saga, of which `told` was reported. -/
structure Kept (told : List (Report V)) (s : Scene V) (x : Strand V) : Prop where
  archived : x.run.wiring.archived = true
  known : ¬ s.Unissued x.id
  stored : ∃ r, s.stored x.id = some r ∧ r.Matches x.run.record
  succeeded : ∀ report, told.getLast? = some report → report.succeeds = true → s.stored x.id = some x.run.record
  completed : x.run.record.completed = completedSteps told
  /-- At the end of a rollback, the compensations that failed are added to the error. -/
  error : x.run.record.status ≠ .compensated → x.run.record.error = lastError told
  midway : x.Midway s

/-- What becomes of a strand, when a motion ends in `after`. -/
structure Moves (told : List (Report V)) (s : Scene V) (x : Strand V)
    (after : Option (Report V) × Strand V × Scene V) : Prop where
  kept : after.2.1.Kept (told ++ after.1.toList) after.2.2
  id : after.2.1.id = x.id
  within : s.Within x.id (after.1.bind Report.deed?).toList after.2.2
  shows : ∀ d, after.1 = some (.started d) → d.saga = x.id ∧ d.Shows told

namespace Kept

variable {told : List (Report V)} {s t : Scene V} {x y : Strand V}

/-- A saga stays known while no other is begun. -/
private theorem known_of_issued (h : x.Kept told s) (hissued : t.issued = s.issued) : ¬ t.Unissued x.id :=
  fun hlater => h.known (hlater.mono (Nat.le_of_eq hissued.symm))

/-- Only the record of the saga counts. -/
private theorem congr (h : x.Kept told s) (hstored : t.stored x.id = s.stored x.id) (hissued : s.issued ≤ t.issued) :
    x.Kept told t where
  archived := h.archived
  known := fun hlater => h.known (hlater.mono hissued)
  stored := by
    rw [hstored]
    exact h.stored
  succeeded := by
    rw [hstored]
    exact h.succeeded
  completed := h.completed
  error := h.error
  midway := by
    have hmidway := h.midway
    unfold Midway at hmidway ⊢
    rw [hstored]
    exact hmidway

/-- A saga whose record was written just now. -/
private theorem of_stored (harchived : x.run.wiring.archived = true) (hknown : ¬ s.Unissued x.id)
    (hstored : s.stored x.id = some x.run.record) (hcompleted : x.run.record.completed = completedSteps told)
    (herror : x.run.record.status ≠ .compensated → x.run.record.error = lastError told) (hmidway : x.Midway s) :
    x.Kept told s where
  archived := harchived
  known := hknown
  stored := ⟨_, hstored, rfl⟩
  succeeded := fun _ _ _ => hstored
  completed := hcompleted
  error := herror
  midway := hmidway

/-- A motion that neither completes a step nor notes an error, and writes no record. -/
private theorem quiet (h : x.Kept told s) {report : Report V} (hrecord : y.run.record = x.run.record)
    (hwiring : y.run.wiring = x.run.wiring) (hstored : t.stored x.id = s.stored x.id) (hissued : t.issued = s.issued)
    (hreport : report.completed? = none ∧ report.noted? = none ∧ report.succeeds = false) (hmidway : y.Midway t) :
    y.Kept (told ++ [report]) t := by
  obtain ⟨hcompleted, hnoted, hsucceeds⟩ := hreport
  have hid : y.id = x.id := congrArg Record.id hrecord
  refine ⟨?_, ?_, ?_, ?_, ?_, ?_, hmidway⟩
  · rw [hwiring]
    exact h.archived
  · rw [hid]
    exact h.known_of_issued hissued
  · rw [hid, hstored, hrecord]
    exact h.stored
  · intro report' hlast hsucceeds'
    rw [List.getLast?_concat, Option.some.injEq] at hlast
    rw [← hlast, hsucceeds] at hsucceeds'
    cases hsucceeds'
  · rw [completedSteps_append_of_none hcompleted, hrecord]
    exact h.completed
  · rw [lastError_append_of_none hnoted, hrecord]
    exact h.error

/-! ### Motions -/

/-- A statement that announces what it did and then writes the record. -/
private theorem moves_of_announced (h : x.Kept told s) (hplan : ∀ n, s.store.plan .save n = none) {r : Run V}
    (n : Notice)
    {report : Report V} (hid : r.record.id = x.id) (hwiring : r.wiring = x.run.wiring) (hdeed : report.deed? = none)
    (hcompleted : r.record.completed = completedSteps (told ++ [report]))
    (herror : r.record.status ≠ .compensated → r.record.error = lastError (told ++ [report])) :
    x.Moves told s (some report, ⟨r, .nothing⟩, r.persist (r.announce n s)) := by
  have hwithin := Run.announced_within n r s
  have harchived : r.wiring.archived = true := by
    rw [hwiring]
    exact h.archived
  refine ⟨of_stored harchived ?_ (Run.stored_announced harchived hplan n) hcompleted herror trivial, hid, ?_, ?_⟩
  · show ¬ Scene.Unissued _ r.record.id
    rw [hid]
    exact h.known_of_issued hwithin.issued
  · rw [← hid, show ((some report).bind Report.deed?) = none from hdeed]
    exact hwithin
  · intro d hd
    cases hd
    cases hdeed

/-- A motion that writes no record and starts nothing. -/
private theorem moves_of_quiet (h : x.Kept told s) {report : Report V} (hrecord : y.run.record = x.run.record)
    (hwiring : y.run.wiring = x.run.wiring) (hwithin : s.Within x.id [] t) (hstored : t.stored x.id = s.stored x.id)
    (hreport : report.completed? = none ∧ report.noted? = none ∧ report.succeeds = false)
    (hdeed : report.deed? = none) (hmidway : y.Midway t) : x.Moves told s (some report, y, t) where
  kept := h.quiet hrecord hwiring hstored hwithin.issued hreport hmidway
  id := congrArg Record.id hrecord
  within := by
    rw [show ((some report).bind Report.deed?) = none from hdeed]
    exact hwithin
  shows := by
    intro d hd
    cases hd
    cases hdeed

private theorem error_of_running (h : x.Kept told s) (hrunning : x.run.isRunning = true) :
    x.run.record.error = lastError told := by
  refine h.error ?_
  rw [Run.status_of_isRunning hrunning]
  decide

variable {r : Run V}

private theorem moves_enter (h : Kept told s ⟨r, .nothing⟩) (name : String) (undo : V → Undo) :
    Moves told s ⟨r, .nothing⟩ ((Motion.enter name undo).carryOut ⟨r, .nothing⟩ s) := by
  unfold Motion.carryOut
  dsimp only
  cases hrefusal : r.stepRefusal? s with
  | some fault => exact h.moves_of_quiet rfl rfl (.refl _ s) rfl ⟨rfl, rfl, rfl⟩ rfl trivial
  | none =>
    refine ⟨h.quiet rfl rfl rfl rfl ⟨rfl, rfl, rfl⟩ (Run.isRunning_of_stepRefusal? hrefusal), rfl, .record _ _ s, ?_⟩
    rintro d ⟨⟩
    obtain ⟨stored, hstored, hmatches⟩ := h.stored
    exact ⟨rfl, stored, hstored, hmatches.completed.trans h.completed⟩

private theorem moves_leave {name : String} {undo : V → Undo} (h : Kept told s ⟨r, .acting name undo⟩)
    (hplan : ∀ n, s.store.plan .save n = none) (outcome : Except String V) :
    Moves told s ⟨r, .acting name undo⟩ ((Motion.leave outcome).carryOut ⟨r, .acting name undo⟩ s) := by
  have hrunning : r.isRunning = true := h.midway
  cases outcome with
  | error error => exact h.moves_of_quiet rfl rfl (Run.announce_within _ r _ s) rfl ⟨rfl, rfl, rfl⟩ rfl trivial
  | ok value =>
    refine h.moves_of_announced hplan _ rfl rfl rfl ?_ ?_
    · rw [completedSteps_append, ← h.completed]
      rfl
    · intro _
      rw [lastError_append_of_none rfl]
      exact h.error_of_running hrunning

private theorem moves_commit (h : Kept told s ⟨r, .nothing⟩) (hplan : ∀ n, s.store.plan .save n = none) :
    Moves told s ⟨r, .nothing⟩ (Motion.commit.carryOut ⟨r, .nothing⟩ s) := by
  unfold Motion.carryOut Run.commit
  dsimp only
  by_cases hrunning : r.isRunning = true
  · rw [if_pos hrunning]
    refine h.moves_of_announced hplan _ rfl rfl rfl ?_ ?_
    · rw [completedSteps_append_of_none rfl]
      exact h.completed
    · intro _
      rw [lastError_append_of_none rfl]
      exact h.error_of_running hrunning
  · rw [if_neg hrunning]
    exact h.moves_of_quiet rfl rfl (.refl _ s) rfl ⟨rfl, rfl, rfl⟩ rfl trivial

/-- The archive does not hear of an error that is noted. -/
private theorem moves_note (h : Kept told s ⟨r, .nothing⟩) (error : String) :
    Moves told s ⟨r, .nothing⟩ ((Motion.note error).carryOut ⟨r, .nothing⟩ s) := by
  refine ⟨⟨h.archived, h.known, ?_, ?_, ?_, ?_, trivial⟩, rfl, .refl _ s, ?_⟩
  · obtain ⟨stored, hstored, hmatches⟩ := h.stored
    exact ⟨stored, hstored, hmatches.update _ _⟩
  · intro report hlast hsucceeds
    have hnoted : Report.noted error = report := Option.some.inj (List.getLast?_concat.symm.trans hlast)
    rw [← hnoted] at hsucceeds
    cases hsucceeds
  · exact h.completed.trans (completedSteps_append_of_none rfl told).symm
  · intro _
    exact (lastError_append told (.noted error)).symm
  · rintro d ⟨⟩

private theorem moves_turnBack (h : Kept told s ⟨r, .nothing⟩) (hplan : ∀ n, s.store.plan .save n = none) :
    Moves told s ⟨r, .nothing⟩ (Motion.turnBack.carryOut ⟨r, .nothing⟩ s) := by
  unfold Motion.carryOut Run.turnBack
  dsimp only
  by_cases hrunning : r.isRunning = true
  · rw [if_pos hrunning]
    have hwithin := Run.persist_within ((r.forget.withStatus .compensating).touch s) s
    have hstored : (((r.forget.withStatus .compensating).touch s).persist s).stored r.record.id = some _ :=
      Run.stored_persist (r := (r.forget.withStatus .compensating).touch s) h.archived hplan
    refine ⟨of_stored h.archived ?_ hstored ?_ ?_ ⟨rfl, hstored⟩, rfl, hwithin, ?_⟩
    · exact h.known_of_issued hwithin.issued
    · exact h.completed.trans (completedSteps_append_of_none rfl told).symm
    · intro _
      exact (h.error_of_running hrunning).trans (lastError_append_of_none rfl told).symm
    · rintro d ⟨⟩
  · rw [if_neg hrunning]
    exact h.moves_of_quiet rfl rfl (.refl _ s) rfl ⟨rfl, rfl, rfl⟩ rfl trivial

private theorem moves_takeUp {step : Step V} {left : List (Step V)} (h : Kept told s ⟨r, .rollingBack (step :: left)⟩) :
    Moves told s ⟨r, .rollingBack (step :: left)⟩
      (Motion.takeUp.carryOut ⟨r, .rollingBack (step :: left)⟩ s) := by
  obtain ⟨hstatus, hstored⟩ := h.midway
  refine ⟨h.quiet rfl rfl rfl rfl ⟨rfl, rfl, rfl⟩ ⟨hstatus, hstored⟩, rfl, .record _ _ s, ?_⟩
  rintro d ⟨⟩
  refine ⟨rfl, r.record, hstored, hstatus, h.completed, h.error ?_⟩
  show r.record.status ≠ .compensated
  rw [hstatus]
  decide

private theorem moves_putDown {step : Step V} {left : List (Step V)} (h : Kept told s ⟨r, .undoing step left⟩) :
    Moves told s ⟨r, .undoing step left⟩ (Motion.putDown.carryOut ⟨r, .undoing step left⟩ s) := by
  unfold Motion.carryOut Run.putDown
  dsimp only
  cases step.undo.ending.error? with
  | none => exact h.moves_of_quiet rfl rfl (.of_eq rfl rfl rfl) rfl ⟨rfl, rfl, rfl⟩ rfl h.midway
  | some error => exact h.moves_of_quiet rfl rfl (.of_eq rfl rfl rfl) rfl ⟨rfl, rfl, rfl⟩ rfl h.midway

private theorem moves_settle (h : Kept told s ⟨r, .rollingBack []⟩) (hplan : ∀ n, s.store.plan .save n = none) :
    Moves told s ⟨r, .rollingBack []⟩ (Motion.settle.carryOut ⟨r, .rollingBack []⟩ s) := by
  refine h.moves_of_announced hplan _ rfl rfl rfl ?_ ?_
  · rw [completedSteps_append_of_none rfl]
    exact h.completed
  · intro hstatus
    exact absurd rfl hstatus

/-- Every motion keeps what is known of its saga, and writes no other record. -/
theorem moves (h : x.Kept told s) (hplan : ∀ n, s.store.plan .save n = none) (m : Motion V) :
    x.Moves told s (m.carryOut x s) := by
  have hmisfit : x.Moves told s (none, x, s) :=
    ⟨(List.append_nil told).symm ▸ h, rfl, .refl _ s, fun _ hd => nomatch hd⟩
  obtain ⟨r, pending⟩ := x
  cases m with
  | enter name undo =>
    cases pending with
    | nothing => exact h.moves_enter name undo
    | _ => exact hmisfit
  | leave outcome =>
    cases pending with
    | acting name undo => exact h.moves_leave hplan outcome
    | _ => exact hmisfit
  | commit =>
    cases pending with
    | nothing => exact h.moves_commit hplan
    | _ => exact hmisfit
  | note error =>
    cases pending with
    | nothing => exact h.moves_note error
    | _ => exact hmisfit
  | turnBack =>
    cases pending with
    | nothing => exact h.moves_turnBack hplan
    | _ => exact hmisfit
  | takeUp =>
    rcases pending with _ | _ | (_ | ⟨step, left⟩) | _
    · exact hmisfit
    · exact hmisfit
    · exact hmisfit
    · exact h.moves_takeUp
    · exact hmisfit
  | putDown =>
    cases pending with
    | undoing step left => exact h.moves_putDown
    | _ => exact hmisfit
  | settle =>
    rcases pending with _ | _ | (_ | ⟨step, left⟩) | _
    · exact hmisfit
    · exact hmisfit
    · exact h.moves_settle hplan
    · exact hmisfit
    · exact hmisfit

end Kept

end Strand

/-! ### The invariant of all sagas -/

namespace Run

variable (wiring : Wiring) (name : String) (correlation : Option String) (budget : Option Span) (s : Scene V)

/-- A saga that is begun announces itself and then writes its record. -/
private theorem begin_within :
    s.identify.2.Within (begin wiring name correlation budget s).1.record.id []
      (begin wiring name correlation budget s).2 :=
  announced_within _ _ s.identify.2

private theorem begin_stored (harchived : wiring.archived = true) (hplan : ∀ n, s.store.plan .save n = none) :
    (begin wiring name correlation budget s).2.stored (begin wiring name correlation budget s).1.record.id =
      some (begin wiring name correlation budget s).1.record :=
  stored_announced (s := s.identify.2) harchived hplan _

private theorem begin_unissued : s.Unissued (begin wiring name correlation budget s).1.record.id :=
  ⟨s.issued + 1, Nat.lt_succ_self _, rfl⟩

end Run

namespace Weave

variable {w : Weave V} {i : Nat} {log : List (Nat × Report V)}

/-- Strands other than the one that was put are as before. -/
private theorem put_cases {x y z : Strand V} {s : Scene V} {j : Nat} (hx : w.strands[i]? = some x)
    (hz : (w.put i y s).strands[j]? = some z) : j = i ∧ z = y ∨ j ≠ i ∧ w.strands[j]? = some z := by
  by_cases hji : j = i
  · subst hji
    rw [getElem?_put hx] at hz
    exact Or.inl ⟨rfl, (Option.some.inj hz).symm⟩
  · unfold put at hz
    rw [List.getElem?_set_ne fun h => hji h.symm] at hz
    exact Or.inr ⟨hji, hz⟩

/-- The strand that was added is the last one. -/
private theorem add_cases {x z : Strand V} {s : Scene V} {j : Nat} (hz : (w.add x s).strands[j]? = some z) :
    j = w.strands.length ∧ z = x ∨ j < w.strands.length ∧ w.strands[j]? = some z := by
  unfold add at hz
  rcases Nat.lt_or_ge j w.strands.length with hj | hj
  · rw [List.getElem?_append_left hj] at hz
    exact Or.inr ⟨hj, hz⟩
  · rw [List.getElem?_append_right hj, List.getElem?_singleton] at hz
    split at hz
    · exact Or.inl ⟨by omega, (Option.some.inj hz).symm⟩
    · cases hz

/-- What the archive and the runs hold of all sagas, of which `log` was reported. -/
structure Kept (log : List (Nat × Report V)) (w : Weave V) : Prop where
  plan : ∀ n, w.scene.store.plan .save n = none
  distinct : ∀ (i j : Nat) (x y : Strand V), w.strands[i]? = some x → w.strands[j]? = some y → x.id = y.id → i = j
  strand : ∀ (i : Nat) (x : Strand V), w.strands[i]? = some x → x.Kept (reports i log) w.scene
  /-- Nothing was reported of strands that are still to come. -/
  told : ∀ e ∈ log, e.1 < w.strands.length

namespace Kept

private theorem opened {s : Scene V} (hplan : ∀ n, s.store.plan .save n = none) : (Weave.opened s).Kept [] where
  plan := hplan
  distinct := fun _ _ _ _ hx => nomatch hx
  strand := fun _ _ hx => nomatch hx
  told := fun _ he => nomatch he

/-- One saga goes on. -/
private theorem put (h : w.Kept log) {x : Strand V} (hx : w.strands[i]? = some x)
    {after : Option (Report V) × Strand V × Scene V} (hmoves : x.Moves (reports i log) w.scene after) :
    (w.put i after.2.1 after.2.2).Kept (log ++ (after.1.map (i, ·)).toList) where
  plan := by
    show ∀ n, after.2.2.store.plan .save n = none
    rw [hmoves.within.plan]
    exact h.plan
  distinct := by
    -- the strands have the identifiers that they had
    have hbefore : ∀ (j : Nat) (z : Strand V), (w.put i after.2.1 after.2.2).strands[j]? = some z →
        ∃ z', w.strands[j]? = some z' ∧ z.id = z'.id := by
      intro j z hz
      rcases put_cases hx hz with ⟨rfl, rfl⟩ | ⟨-, hz⟩
      · exact ⟨x, hx, hmoves.id⟩
      · exact ⟨z, hz, rfl⟩
    intro j k y z hy hz hid
    obtain ⟨y', hy', hidy⟩ := hbefore j y hy
    obtain ⟨z', hz', hidz⟩ := hbefore k z hz
    exact h.distinct j k y' z' hy' hz' (hidy.symm.trans (hid.trans hidz))
  strand := by
    intro j z hz
    rw [reports_append]
    rcases put_cases hx hz with ⟨rfl, rfl⟩ | ⟨hji, hz⟩
    · rw [reports_self]
      exact hmoves.kept
    · have hother : z.id ≠ x.id := fun hid => hji (h.distinct j i z x hz hx hid)
      rw [reports_other fun hij => hji hij.symm, List.append_nil]
      exact (h.strand j z hz).congr (hmoves.within.others z.id hother) (Nat.le_of_eq hmoves.within.issued.symm)
  told := by
    obtain ⟨hi, -⟩ := List.getElem?_eq_some_iff.1 hx
    intro e he
    show e.1 < (w.strands.set i after.2.1).length
    rw [List.length_set]
    rcases List.mem_append.1 he with he | he
    · exact h.told e he
    · obtain ⟨report, -, rfl⟩ := Option.map_eq_some_iff.1 (Option.mem_toList.1 he)
      exact hi

/-- A saga is begun beside the others. -/
private theorem add (h : w.Kept log) {x : Strand V} {t : Scene V} (hnew : x.Kept [.begun] t)
    (hunissued : w.scene.Unissued x.id) (hissued : w.scene.issued ≤ t.issued)
    (hothers : ∀ id, id ≠ x.id → t.stored id = w.scene.stored id) (hplan : t.store.plan = w.scene.store.plan) :
    (w.add x t).Kept (log ++ [(w.strands.length, .begun)]) := by
  have hother : ∀ (j : Nat) (z : Strand V), w.strands[j]? = some z → z.id ≠ x.id := by
    intro j z hz hid
    exact (h.strand j z hz).known (hid ▸ hunissued)
  refine ⟨?_, ?_, ?_, ?_⟩
  · show ∀ n, t.store.plan .save n = none
    rw [hplan]
    exact h.plan
  · intro j k y z hy hz hid
    rcases add_cases hy with ⟨rfl, rfl⟩ | ⟨-, hy'⟩
    · rcases add_cases hz with ⟨rfl, -⟩ | ⟨-, hz'⟩
      · rfl
      · exact absurd hid.symm (hother k z hz')
    · rcases add_cases hz with ⟨-, rfl⟩ | ⟨-, hz'⟩
      · exact absurd hid (hother j y hy')
      · exact h.distinct j k y z hy' hz' hid
  · intro j z hz
    rw [reports_append]
    rcases add_cases hz with ⟨rfl, rfl⟩ | ⟨hj, hz⟩
    · have hnone : reports w.strands.length log = [] :=
        List.filterMap_eq_nil_iff.2 fun e he => if_neg (Nat.ne_of_lt (h.told e he))
      have hself : reports w.strands.length [(w.strands.length, Report.begun)] = [(.begun : Report V)] :=
        reports_self _ (some .begun)
      rw [hnone, hself]
      exact hnew
    · have hnot : reports j [(w.strands.length, (Report.begun : Report V))] = [] :=
        reports_other (Nat.ne_of_gt hj) (some .begun)
      rw [hnot, List.append_nil]
      exact (h.strand j z hz).congr (hothers z.id (hother j z hz)) hissued
  · intro e he
    show e.1 < (w.strands ++ [x]).length
    rw [List.length_append, List.length_singleton]
    rcases List.mem_append.1 he with he | he
    · exact Nat.lt_succ_of_lt (h.told e he)
    · rw [List.mem_singleton.1 he]
      exact Nat.lt_succ_self _

/-- Every stitch keeps what is known of all sagas. -/
private theorem stitch (h : w.Kept log) (m : Stitch V) : (m.sew w).2.Kept (log ++ (m.sew w).1.toList) := by
  cases m with
  | begin audience timepiece name correlation budget =>
    have hwithin := Run.begin_within ⟨audience, true, timepiece⟩ name correlation budget w.scene
    have hapart := Run.begin_apart ⟨audience, true, timepiece⟩ name correlation budget w.scene
    have hnew : Strand.Kept [.begun] (Run.begin ⟨audience, true, timepiece⟩ name correlation budget w.scene).2
        ⟨(Run.begin ⟨audience, true, timepiece⟩ name correlation budget w.scene).1, .nothing⟩ :=
      .of_stored rfl (Run.begin_known _ name correlation budget w.scene)
        (Run.begin_stored _ name correlation budget w.scene rfl h.plan) rfl (fun _ => rfl) trivial
    exact h.add hnew (Run.begin_unissued ..) hapart.issued hwithin.others hapart.plan
  | on i m =>
    cases hx : w.strands[i]? with
    | some x =>
      rw [sew_on hx]
      exact h.put hx ((h.strand i x hx).moves h.plan m)
    | none =>
      simp only [Stitch.sew, hx, Option.toList_none, List.append_nil]
      exact h
  | pass p =>
    show Kept (log ++ []) { w with scene := w.scene.pass p }
    rw [List.append_nil]
    exact ⟨h.plan, h.distinct, fun j z hz => (h.strand j z hz).congr rfl (Nat.le_refl _), h.told⟩

private theorem sew (h : w.Kept log) (ms : List (Stitch V)) : (w.sew ms).2.Kept (log ++ (w.sew ms).1) := by
  induction ms generalizing w log with
  | nil =>
    rw [Weave.sew, List.append_nil]
    exact h
  | cons m ms ih =>
    rw [sew_cons, ← List.append_assoc]
    exact ih (h.stitch m)

end Kept

/-- What a stitch starts is reported, and nothing else is added to the history. -/
private theorem history_sew (h : w.Kept log) (m : Stitch V) :
    (m.sew w).2.scene.history = w.scene.history ++ ((m.sew w).1.bind fun e => e.2.deed?).toList := by
  cases m with
  | begin audience timepiece name correlation budget =>
    exact (Run.begin_history _ name correlation budget w.scene).trans (List.append_nil _).symm
  | on i m =>
    cases hx : w.strands[i]? with
    | some x =>
      have hmoves := (h.strand i x hx).moves h.plan m
      rw [sew_on hx, Option.bind_map]
      exact hmoves.within.history
    | none =>
      simp only [Stitch.sew, hx]
      exact (List.append_nil _).symm
  | pass p => exact (List.append_nil _).symm

/-- An action or a compensation that is started belongs to its strand, and the archive knows what came before. -/
private theorem shows_of_started (h : w.Kept log) {m : Stitch V} {d : Deed V}
    (hm : (m.sew w).1 = some (i, .started d)) :
    (∃ x, w.strands[i]? = some x ∧ d.saga = x.id) ∧ d.Shows (reports i log) := by
  cases m with
  | begin audience timepiece name correlation budget => cases hm
  | on j m =>
    cases hx : w.strands[j]? with
    | some x =>
      rw [sew_on hx] at hm
      obtain ⟨report, hreport, heq⟩ := Option.map_eq_some_iff.1 hm
      obtain ⟨rfl, rfl⟩ := Prod.mk.inj heq
      obtain ⟨hsaga, hshows⟩ := ((h.strand j x hx).moves h.plan m).shows d hreport
      exact ⟨⟨x, hx, hsaga⟩, hshows⟩
    | none =>
      simp only [Stitch.sew, hx] at hm
      cases hm
  | pass p => cases hm

/-- **The archive runs ahead.** Let sagas be interleaved in any way on an archive without faults. After every piece of
every statement, the stored record of each saga is the record of its run, but for the error and the time of the update,
and these as well if what came last of the saga was its beginning or a step, a commit or a rollback that succeeded.
Whatever piece comes next, if it starts an action, the stored record has the steps completed before; if it starts a
compensation, the stored record is the one of a saga that is being compensated, with all completed steps and the error
noted last. The history has nothing but what is started so. -/
theorem write_ahead {s : Scene V} (hplan : ∀ n, s.store.plan .save n = none) (earlier : List (Stitch V))
    (m : Stitch V) :
    let log := ((opened s).sew earlier).1
    let w := ((opened s).sew earlier).2
    (∀ (i j : Nat) (x y : Strand V), w.strands[i]? = some x → w.strands[j]? = some y → x.id = y.id → i = j) ∧
      (∀ (i : Nat) (x : Strand V), w.strands[i]? = some x →
        (∃ r, w.scene.stored x.id = some r ∧
          { r with error := x.run.record.error, updatedAt := x.run.record.updatedAt } = x.run.record) ∧
        ∀ report, (reports i log).getLast? = some report → report.succeeds = true →
          w.scene.stored x.id = some x.run.record) ∧
      (∀ i saga step elapsed stored, (m.sew w).1 = some (i, .started (.acting saga step elapsed stored)) →
        (∃ x, w.strands[i]? = some x ∧ saga = x.id) ∧
          ∃ r, stored = some r ∧ r.completed = completedSteps (reports i log)) ∧
      (∀ i saga step value stored, (m.sew w).1 = some (i, .started (.undoing saga step value stored)) →
        (∃ x, w.strands[i]? = some x ∧ saga = x.id) ∧
          ∃ r, stored = some r ∧ r.status = .compensating ∧ r.completed = completedSteps (reports i log) ∧
            r.error = lastError (reports i log)) ∧
      (m.sew w).2.scene.history = w.scene.history ++ ((m.sew w).1.bind fun e => e.2.deed?).toList := by
  intro log w
  have hkept : w.Kept log := (Kept.opened hplan).sew earlier
  refine ⟨hkept.distinct, ?_, ?_, ?_, history_sew hkept m⟩
  · intro i x hx
    exact ⟨(hkept.strand i x hx).stored, (hkept.strand i x hx).succeeded⟩
  · intro i saga step elapsed stored hstarted
    exact shows_of_started hkept hstarted
  · intro i saga step value stored hstarted
    exact shows_of_started hkept hstarted

/-- A payment that can be given back. -/
def refund (_ : Nat) : Undo := ⟨.nothing, .succeeds⟩

/-- Two sagas, which take turns in the middle of their steps. The first one is given up. -/
def purchases : List (Stitch Nat) :=
  [.begin .nobody .manual "order" none none, .begin .nobody .manual "gift" none none, .on 0 (.enter "pay" refund),
    .on 1 (.enter "wrap" refund), .on 1 (.leave (.ok 7)), .on 0 (.leave (.ok 3)), .on 0 (.note "sold out"),
    .on 1 .commit, .on 0 .turnBack]

theorem write_ahead_purchases :
    (∀ n, (Scene.opened 0 : Scene Nat).store.plan .save n = none) ∧
      ∃ r, ((Stitch.on 0 .takeUp).sew ((opened (Scene.opened 0)).sew purchases).2).1 =
          some (0, .started (.undoing (.nth 1) "pay" 3 (some r))) ∧
        r.status = .compensating ∧ r.completed = ["pay"] ∧ r.error = some "sold out" := by
  have hplan : ∀ n, (Scene.opened 0 : Scene Nat).store.plan .save n = none := fun _ => rfl
  obtain ⟨-, -, -, hundoing, -⟩ := write_ahead hplan purchases (.on 0 .takeUp)
  obtain ⟨-, r, hstored, hstatus, hcompleted, herror⟩ := hundoing 0 (.nth 1) "pay" 3 _ rfl
  refine ⟨hplan, r, ?_, hstatus, hcompleted, herror⟩
  rw [← hstored]
  rfl

end Weave

end Coordination.Saga
