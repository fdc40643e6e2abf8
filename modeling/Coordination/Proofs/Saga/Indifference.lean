import Coordination.Proofs.Observers
import Coordination.Proofs.Saga.Transcript
import Mathlib.Data.List.Forall2

/-!
# Indifference to the archive and to the listeners

Two runtimes may differ in their listeners, and in whether there is an archive and which of its calls fail. Their
scenes then stay `Alike`: the clocks, the actions and compensations that are started, and the notices sent agree, and
so does what the listeners make of these, if the listeners are the same. Every statement keeps this and is answered
alike, so all transcripts agree (`session_indifferent`).

The listeners of a session are of five kinds, but nothing depends on that: whatever observers there are, all that they
get to know of a session are the notices sent (`Scene.overheard`).
-/

namespace Coordination.Saga

variable {V : Type} {same : Prop}

/-- A deed, whatever was in the archive at that moment. -/
def Deed.bare : Deed V → Deed V
  | .acting saga step elapsed _ => .acting saga step elapsed none
  | .undoing saga step value _ => .undoing saga step value none

/-! ### Scenes that are alike -/

/-- A diagnostic line, unless it tells of a fault of the archive. -/
def isHeeded (l : LogLine) : Bool := l.message ≠ "Failed to persist saga state"

/-- The scenes differ only in the archive and in the lines that tell of its faults; if the listeners are not the `same`,
also in what these made of the notices. -/
structure Scene.Alike (same : Prop) (s s' : Scene V) : Prop where
  clock : s.clock = s'.clock
  wall : s.wall = s'.wall
  elapsed : s.elapsed = s'.elapsed
  issued : s.issued = s'.issued
  deeds : s.history.map Deed.bare = s'.history.map Deed.bare
  sent : s.chronicle.sent = s'.chronicle.sent
  heard : same → s.chronicle.Alike isHeeded s'.chronicle

namespace Scene

/-- Saving a record is not noticed. -/
private theorem persist_alike (r : Record) (s : Scene V) : (s.persist r).Alike same s := by
  unfold persist
  split
  · exact ⟨rfl, rfl, rfl, rfl, rfl, rfl, fun _ => ⟨rfl, rfl, rfl⟩⟩
  · refine ⟨rfl, rfl, rfl, rfl, rfl, rfl, fun _ => ⟨rfl, rfl, ?_⟩⟩
    simp [write, Chronicle.write, isHeeded]

namespace Alike

variable {s s' t : Scene V}

private theorem refl (s : Scene V) : s.Alike same s := ⟨rfl, rfl, rfl, rfl, rfl, rfl, fun _ => ⟨rfl, rfl, rfl⟩⟩

private theorem symm (h : s.Alike same s') : s'.Alike same s where
  clock := h.clock.symm
  wall := h.wall.symm
  elapsed := h.elapsed.symm
  issued := h.issued.symm
  deeds := h.deeds.symm
  sent := h.sent.symm
  heard := fun hsame =>
    let h := h.heard hsame
    ⟨h.notes.symm, h.tally.symm, h.lines.symm⟩

private theorem trans (h₁ : s.Alike same s') (h₂ : s'.Alike same t) : s.Alike same t where
  clock := h₁.clock.trans h₂.clock
  wall := h₁.wall.trans h₂.wall
  elapsed := h₁.elapsed.trans h₂.elapsed
  issued := h₁.issued.trans h₂.issued
  deeds := h₁.deeds.trans h₂.deeds
  sent := h₁.sent.trans h₂.sent
  heard := fun hsame =>
    let h₁ := h₁.heard hsame
    let h₂ := h₂.heard hsame
    ⟨h₁.notes.trans h₂.notes, h₁.tally.trans h₂.tally, h₁.lines.trans h₂.lines⟩

private theorem now (h : s.Alike same s') (t : Timepiece) : s.now t = s'.now t := by
  cases t with
  | manual => exact h.clock
  | wall => exact h.wall

private theorem pass (h : s.Alike same s') (p : Passing) : (s.pass p).Alike same (s'.pass p) :=
  { h with
    clock := congrArg p.clock.apply h.clock
    elapsed := by simp only [Scene.pass, h.elapsed] }

private theorem record (h : s.Alike same s') {d d' : Deed V} (hd : d.bare = d'.bare) :
    (s.record d).Alike same (s'.record d') :=
  { h with deeds := by simp only [Scene.record, List.map_append, h.deeds, List.map_singleton, hd] }

private theorem announce (h : s.Alike same s') {audience audience' : Audience Listener}
    (ha : same → audience = audience') (n : Notice) : (s.announce audience n).Alike same (s'.announce audience' n) :=
  { h with
    sent := by
      simp only [Scene.announce, sent_announce, h.sent]
    heard := fun hsame => by
      rw [ha hsame]
      simp only [Scene.announce, h.clock]
      exact (h.heard hsame).announce .. }

private theorem write (h : s.Alike same s') {l l' : LogLine} (hl : l = l') : (s.write l).Alike same (s'.write l') := by
  subst hl
  exact { h with heard := fun hsame => (h.heard hsame).write l }

end Alike

end Scene

/-! ### Runs that are alike -/

structure Wiring.Alike (same : Prop) (w w' : Wiring) : Prop where
  timepiece : w.timepiece = w'.timepiece
  audience : same → w.audience = w'.audience

/-- The runs differ only in whether they are archived and, if the listeners are not the `same`, in these. -/
structure Run.Alike (same : Prop) (r r' : Run V) : Prop where
  record : r.record = r'.record
  steps : r.steps = r'.steps
  budget : r.budget = r'.budget
  begun : r.begun = r'.begun
  failures : r.failures = r'.failures
  wiring : r.wiring.Alike same r'.wiring

private theorem Run.persist_alike (r : Run V) (s : Scene V) : (r.persist s).Alike same s := by
  unfold persist
  split
  · exact Scene.persist_alike r.record s
  · exact .refl s

/-- Two statements are answered alike, and their runs and scenes are alike afterwards. -/
structure Agreeing {α : Type} (same : Prop) (x x' : α × Run V × Scene V) : Prop where
  answer : x.1 = x'.1
  run : x.2.1.Alike same x'.2.1
  scene : x.2.2.Alike same x'.2.2

namespace Run.Alike

variable {r r' : Run V} {s s' : Scene V}

private theorem isRunning (h : r.Alike same r') : r.isRunning = r'.isRunning := by
  unfold Run.isRunning
  rw [h.record]

private theorem withStatus (h : r.Alike same r') (status : Status) :
    (r.withStatus status).Alike same (r'.withStatus status) :=
  { h with record := by simp only [Run.withStatus, h.record] }

private theorem withError (h : r.Alike same r') (error : Option String) :
    (r.withError error).Alike same (r'.withError error) :=
  { h with record := by simp only [Run.withError, h.record] }

private theorem forget (h : r.Alike same r') : r.forget.Alike same r'.forget := { h with steps := rfl }

private theorem remember (h : r.Alike same r') (step : Step V) : (r.remember step).Alike same (r'.remember step) :=
  { h with
    record := by simp only [Run.remember, h.record]
    steps := by simp only [Run.remember, h.steps] }

private theorem touch (h : r.Alike same r') (hs : s.Alike same s') : (r.touch s).Alike same (r'.touch s') :=
  { h with record := by simp only [Run.touch, h.record, h.wiring.timepiece, hs.now] }

private theorem persist (_ : r.Alike same r') (hs : s.Alike same s') : (r.persist s).Alike same (r'.persist s') :=
  (r.persist_alike s).trans (hs.trans (r'.persist_alike s').symm)

/-- What a run announces may name the run. -/
private theorem announce (h : r.Alike same r') (hs : s.Alike same s') (n : Record → Notice) :
    (r.announce (n r.record) s).Alike same (r'.announce (n r'.record) s') := by
  rw [h.record]
  exact hs.announce h.wiring.audience _

private theorem stepRefusal? (h : r.Alike same r') (hs : s.Alike same s') : r.stepRefusal? s = r'.stepRefusal? s' := by
  unfold Run.stepRefusal? Run.overrun?
  rw [h.isRunning, h.record, h.budget, h.begun, hs.elapsed]

/-- The scenes when the action of a step is started. -/
private theorem acting (h : r.Alike same r') (hs : s.Alike same s') (name : String) :
    (s.record (.acting r.record.id name s.elapsed (s.stored r.record.id))).Alike same
      (s'.record (.acting r'.record.id name s'.elapsed (s'.stored r'.record.id))) :=
  hs.record (by rw [h.record, hs.elapsed]; rfl)

private theorem perform (h : r.Alike same r') (hs : s.Alike same s') (name : String)
    {action action' : Scene V → Except String V × Scene V} (undo : V → Undo)
    (haction : ∀ s s' : Scene V, s.Alike same s' →
      (action s).1 = (action' s').1 ∧ (action s).2.Alike same (action' s').2) :
    Agreeing same (r.perform name action undo s) (r'.perform name action' undo s') := by
  obtain ⟨hanswer, hacted⟩ := haction _ _ (h.acting hs name)
  unfold Run.perform
  rw [← h.stepRefusal? hs]
  cases r.stepRefusal? s with
  | some fault => exact ⟨rfl, h, hs⟩
  | none =>
    dsimp only
    generalize action _ = acted at hanswer hacted
    generalize action' _ = acted' at hanswer hacted
    obtain ⟨outcome, s₁⟩ := acted
    obtain ⟨_, s₁'⟩ := acted'
    obtain rfl : outcome = _ := hanswer
    cases outcome with
    | error error => exact ⟨rfl, h, h.announce hacted (.stepFailed ·.id name error)⟩
    | ok value =>
      have hremembered := (h.remember ⟨name, value, undo value⟩).touch hacted
      exact ⟨rfl, hremembered, hremembered.persist (hremembered.announce hacted (.stepCompleted ·.id name))⟩

private theorem commit (h : r.Alike same r') (hs : s.Alike same s') : Agreeing same (r.commit s) (r'.commit s') := by
  unfold Run.commit
  rw [h.isRunning]
  split
  · have hended := (h.forget.withStatus .committed).touch hs
    exact ⟨rfl, hended, hended.persist (hended.announce hs (.committed ·.id))⟩
  · exact ⟨by rw [h.record], h, hs⟩

private theorem note (h : r.Alike same r') (hs : s.Alike same s') (error : String) :
    (r.note error s).Alike same (r'.note error s') := (h.withError (some error)).touch hs

private theorem compensate (h : r.Alike same r') (hs : s.Alike same s') (step : Step V) :
    (r.compensate step s).1.Alike same (r'.compensate step s').1 ∧
      (r.compensate step s).2.Alike same (r'.compensate step s').2 := by
  have hundoing : (s.record (.undoing r.record.id step.name step.value (s.stored r.record.id))).Alike same
      (s'.record (.undoing r'.record.id step.name step.value (s'.stored r'.record.id))) :=
    hs.record (by rw [h.record]; rfl)
  have hpassed := hundoing.pass step.undo.passing
  unfold Run.compensate
  dsimp only
  cases step.undo.ending.error? with
  | none => exact ⟨h, hpassed.write (by rw [h.record])⟩
  | some error =>
    exact ⟨{ h with failures := by simp only [h.failures] },
      h.announce hpassed (.compensationFailed ·.id step.name error)⟩

private theorem compensateAll (h : r.Alike same r') (hs : s.Alike same s') (steps : List (Step V)) :
    (Run.compensateAll steps r s).1.Alike same (Run.compensateAll steps r' s').1 ∧
      (Run.compensateAll steps r s).2.Alike same (Run.compensateAll steps r' s').2 := by
  induction steps generalizing r r' s s' with
  | nil => exact ⟨h, hs⟩
  | cons step steps ih =>
    obtain ⟨hrun, hscene⟩ := h.compensate hs step
    exact ih hrun hscene

private theorem rollback (h : r.Alike same r') (hs : s.Alike same s') :
    Agreeing same (r.rollback s) (r'.rollback s') := by
  unfold Run.rollback
  rw [h.isRunning]
  split
  · have hstarted := (h.forget.withStatus .compensating).touch hs
    obtain ⟨hundone, hscene⟩ := hstarted.compensateAll (hstarted.persist hs) r.steps.reverse
    -- the same steps are undone
    dsimp only
    rw [← h.steps]
    generalize Run.compensateAll r.steps.reverse _ (Run.persist _ s) = undone at *
    generalize Run.compensateAll r.steps.reverse _ (Run.persist _ s') = undone' at *
    rw [hundone.record, hundone.failures]
    have hended := ((hundone.withStatus .compensated).withError
      (finalError undone'.1.record.error undone'.1.failures)).touch hscene
    exact ⟨rfl, hended, hended.persist (hended.announce hscene (.compensated ·.id))⟩
  · exact ⟨by rw [h.record], h, hs⟩

private theorem abandon (h : r.Alike same r') (hs : s.Alike same s') (fault : Fault) :
    (r.abandon fault s).1.Alike same (r'.abandon fault s').1 ∧
      (r.abandon fault s).2.Alike same (r'.abandon fault s').2 := by
  obtain ⟨hanswer, hrun, hscene⟩ := (h.note hs fault.message).rollback hs
  unfold Run.abandon
  dsimp only
  generalize (r.note fault.message s).rollback s = rolled at *
  generalize (r'.note fault.message s').rollback s' = rolled' at *
  obtain ⟨outcome, r₁, s₁⟩ := rolled
  obtain ⟨_, r₁', s₁'⟩ := rolled'
  obtain rfl : outcome = _ := hanswer
  cases outcome with
  | ok _ => exact ⟨hrun, hrun.announce hscene (.failed ·.id (some fault.message))⟩
  | error skipped =>
    have hrecord : r₁.record = r₁'.record := hrun.record
    exact ⟨hrun, hrun.announce (hscene.write (by rw [hrecord])) (.failed ·.id (some fault.message))⟩

private theorem conclude (h : r.Alike same r') (hs : s.Alike same s') (result : Except Fault V) :
    Agreeing same (r.conclude result s) (r'.conclude result s') := by
  unfold Run.conclude
  cases result with
  | error fault =>
    obtain ⟨hrun, hscene⟩ := h.abandon hs fault
    exact ⟨rfl, hrun, hscene⟩
  | ok value =>
    obtain ⟨hanswer, hrun, hscene⟩ := h.commit hs
    dsimp only
    generalize r.commit s = committed at *
    generalize r'.commit s' = committed' at *
    obtain ⟨outcome, r₁, s₁⟩ := committed
    obtain ⟨_, r₁', s₁'⟩ := committed'
    obtain rfl : outcome = _ := hanswer
    cases outcome with
    | ok _ => exact ⟨rfl, hrun, hscene⟩
    | error fault =>
      obtain ⟨hrun, hscene⟩ := hrun.abandon hscene fault
      exact ⟨rfl, hrun, hscene⟩

private theorem nested (h : r.Alike same r') (hs : s.Alike same s') (name : String)
    {entries entries' : Scene V → List (Entry V)}
    (hentries : ∀ s s' : Scene V, s.Alike same s' → entries s = entries' s') :
    r.nested name entries s = r'.nested name entries' s' := by
  unfold Run.nested
  rw [h.stepRefusal? hs, hentries _ _ (h.acting hs name)]

end Run.Alike

/-! ### Executions that are alike -/

/-- The runtimes differ only in whether there is an archive and, if the listeners are not the `same`, in these. -/
structure Runtime.Alike (same : Prop) (rt rt' : Runtime) : Prop where
  budget : rt.budget = rt'.budget
  audience : same → rt.audience = rt'.audience

namespace Runtime.Alike

variable {rt rt' : Runtime} {s s' : Scene V}

private theorem wiring (h : rt.Alike same rt') (o : Opening) : (o.wiring rt).Alike same (o.wiring rt') := by
  unfold Opening.wiring
  split
  · exact ⟨rfl, fun _ => rfl⟩
  · exact ⟨rfl, h.audience⟩

private theorem begin (h : rt.Alike same rt') (hs : s.Alike same s') (o : Opening) :
    (o.begin rt s).1.Alike same (o.begin rt' s').1 ∧ (o.begin rt s).2.Alike same (o.begin rt' s').2 := by
  have hidentified : s.identify.2.Alike same s'.identify.2 :=
    { hs with issued := congrArg (· + 1) hs.issued }
  have hbudget : o.budget rt = o.budget rt' := by
    unfold Opening.budget
    rw [h.budget]
  have hrun : (o.begin rt s).1.Alike same (o.begin rt' s').1 := by
    refine ⟨?_, rfl, hbudget, hs.elapsed, rfl, h.wiring o⟩
    unfold Opening.begin Run.begin
    dsimp only
    rw [hidentified.now, (h.wiring o).timepiece, Scene.identify, Scene.identify, hs.issued]
  exact ⟨hrun, hrun.persist (hrun.announce hidentified (.started ·.id o.name))⟩

end Runtime.Alike

section

variable {rt rt' : Runtime} {o : Opening} {play play' : Run V → Scene V → Except Fault V × Run V × Scene V}

private theorem conductWith_agreeing (h : rt.Alike same rt') (o : Opening)
    (hplay : ∀ (r r' : Run V) s s', r.Alike same r' → s.Alike same s' → Agreeing same (play r s) (play' r' s'))
    {s s' : Scene V} (hs : s.Alike same s') : Agreeing same (conductWith rt o play s) (conductWith rt' o play' s') := by
  obtain ⟨hrun, hscene⟩ := h.begin hs o
  obtain ⟨hanswer, hplayed, hscene⟩ := hplay _ _ _ _ hrun hscene
  unfold conductWith
  dsimp only
  rw [hanswer]
  exact hplayed.conclude hscene _

private theorem sagaAction_alike (h : rt.Alike same rt') (o : Opening)
    (hplay : ∀ (r r' : Run V) s s', r.Alike same r' → s.Alike same s' → Agreeing same (play r s) (play' r' s'))
    {s s' : Scene V} (hs : s.Alike same s') :
    (sagaAction rt o play s).1 = (sagaAction rt' o play' s').1 ∧
      (sagaAction rt o play s).2.Alike same (sagaAction rt' o play' s').2 := by
  obtain ⟨hanswer, -, hscene⟩ := conductWith_agreeing h o hplay hs
  unfold sagaAction
  generalize conductWith rt o play s = ended at *
  generalize conductWith rt' o play' s' = ended' at *
  obtain ⟨outcome, r₁, s₁⟩ := ended
  obtain ⟨_, r₁', s₁'⟩ := ended'
  obtain rfl : outcome = _ := hanswer
  cases outcome with
  | ok value => exact ⟨rfl, hscene⟩
  | error fault => exact ⟨rfl, hscene⟩

private theorem Opening.transcript_eq (h : rt.Alike same rt') (o : Opening)
    {entries entries' : Run V → Scene V → List (Entry V)}
    (hplay : ∀ (r r' : Run V) s s', r.Alike same r' → s.Alike same s' → Agreeing same (play r s) (play' r' s'))
    (hentries : ∀ (r r' : Run V) s s', r.Alike same r' → s.Alike same s' → entries r s = entries' r' s')
    {s s' : Scene V} (hs : s.Alike same s') :
    o.transcript rt play entries s = o.transcript rt' play' entries' s' := by
  obtain ⟨hrun, hscene⟩ := h.begin hs o
  obtain ⟨hanswer, hended, -⟩ := conductWith_agreeing h o hplay hs
  unfold transcript
  dsimp only
  rw [hentries _ _ _ _ hrun hscene, hrun.record, hanswer, hended.record, hended.failures]

/-- A step whose action is a saga. -/
private theorem Run.Alike.performSaga {r r' : Run V} {s s' : Scene V} (hr : r.Alike same r') (hs : s.Alike same s')
    (h : rt.Alike same rt') (o : Opening) (name : String) (passing : Passing) (undo : V → Undo)
    {entries entries' : Run V → Scene V → List (Entry V)}
    (hplay : ∀ (r r' : Run V) s s', r.Alike same r' → s.Alike same s' → Agreeing same (play r s) (play' r' s'))
    (hentries : ∀ (r r' : Run V) s s', r.Alike same r' → s.Alike same s' → entries r s = entries' r' s') :
    Agreeing same (r.perform name (fun s => sagaAction rt o play (s.pass passing)) undo s)
        (r'.perform name (fun s => sagaAction rt' o play' (s.pass passing)) undo s') ∧
      r.nested name (fun s => o.transcript rt play entries (s.pass passing)) s =
        r'.nested name (fun s => o.transcript rt' play' entries' (s.pass passing)) s' :=
  ⟨hr.perform hs name undo fun _ _ hs => sagaAction_alike h o hplay (hs.pass passing),
    hr.nested hs name fun _ _ hs => Opening.transcript_eq h o hplay hentries (hs.pass passing)⟩

end

/-- A step whose action is not a saga. -/
private theorem Run.Alike.performPlain {r r' : Run V} {s s' : Scene V} (hr : r.Alike same r') (hs : s.Alike same s')
    (name : String) (passing : Passing) (outcome : Except String V) (undo : V → Undo) :
    Agreeing same (r.perform name (fun s => (outcome, s.pass passing)) undo s)
      (r'.perform name (fun s => (outcome, s.pass passing)) undo s') :=
  hr.perform hs name undo fun _ _ hs => ⟨rfl, hs.pass passing⟩

/-- What comes after a statement goes on from its answer. -/
private theorem Agreeing.goOn {α : Type} {rt rt' : Runtime} {x x' : α × Run V × Scene V} (h : Agreeing same x x')
    (reply : α → Reply V) (next : α → Script V)
    (hnext : ∀ (a : α) {r r' : Run V} {s s' : Scene V}, r.Alike same r' → s.Alike same s' →
      Agreeing same ((next a).run rt r s) ((next a).run rt' r' s') ∧
        (next a).transcript rt r s = (next a).transcript rt' r' s') :
    Agreeing same ((next x.1).run rt x.2.1 x.2.2) ((next x'.1).run rt' x'.2.1 x'.2.2) ∧
      .stated (reply x.1) x.2.1.record x.2.1.failures :: (next x.1).transcript rt x.2.1 x.2.2 =
        .stated (reply x'.1) x'.2.1.record x'.2.1.failures :: (next x'.1).transcript rt' x'.2.1 x'.2.2 := by
  obtain ⟨hanswer, hrun, hscene⟩ := h
  obtain ⟨hagreeing, htranscript⟩ := hnext x'.1 hrun hscene
  rw [hanswer, hrun.record, hrun.failures, htranscript]
  exact ⟨hagreeing, rfl⟩

/-- Scripts that are played on runs that are alike come to the same, and their transcripts agree. -/
private theorem Script.run_agreeing {rt rt' : Runtime} (h : rt.Alike same rt') (script : Script V) {r r' : Run V}
    {s s' : Scene V} (hr : r.Alike same r') (hs : s.Alike same s') :
    Agreeing same (script.run rt r s) (script.run rt' r' s') ∧
      script.transcript rt r s = script.transcript rt' r' s' := by
  induction script generalizing r r' s s' with
  | done result => exact ⟨⟨rfl, hr, hs⟩, rfl⟩
  | act name passing outcome undo next ih =>
    exact (hr.performPlain hs name passing outcome undo).goOn .step next ih
  | actSaga name passing opening inner undo next ihInner ih =>
    obtain ⟨hstep, hnested⟩ := hr.performSaga hs h opening name passing undo
      (fun _ _ _ _ hr hs => (ihInner hr hs).1) (fun _ _ _ _ hr hs => (ihInner hr hs).2)
    obtain ⟨hagreeing, htranscript⟩ := hstep.goOn .step next ih
    refine ⟨hagreeing, ?_⟩
    unfold transcript
    dsimp only
    rw [hnested, htranscript]
  | commit next ih => exact (hr.commit hs).goOn .commit next ih
  | rollback next ih => exact (hr.rollback hs).goOn .rollback next ih
  | note error next ih =>
    have hnoted : Agreeing same ((), r.note error s, s) ((), r'.note error s', s') := ⟨rfl, hr.note hs error, hs⟩
    exact hnoted.goOn (fun _ => .silence) (fun _ => next) fun _ => ih
  | pause passing next ih =>
    have hpassed : Agreeing same ((), r, s.pass passing) ((), r', s'.pass passing) := ⟨rfl, hr, hs.pass passing⟩
    exact hpassed.goOn (fun _ => .silence) (fun _ => next) fun _ => ih

private theorem Execution.carryOut_alike {rt rt' : Runtime} (h : rt.Alike same rt') (e : Execution V) {s s' : Scene V}
    (hs : s.Alike same s') :
    (e.carryOut rt s).1 = (e.carryOut rt' s').1 ∧ (e.carryOut rt s).2.Alike same (e.carryOut rt' s').2 := by
  have hplay : ∀ (r r' : Run V) s s', r.Alike same r' → s.Alike same s' →
      Agreeing same (e.script.run rt r s) (e.script.run rt' r' s') :=
    fun _ _ _ _ hr hs => (e.script.run_agreeing h hr hs).1
  exact ⟨Opening.transcript_eq h e.opening hplay (fun _ _ _ _ hr hs => (e.script.run_agreeing h hr hs).2)
    (hs.pass e.before), (conductWith_agreeing h e.opening hplay (hs.pass e.before)).scene⟩

/-! ### Sessions that are alike -/

private theorem Agreeing.map {α β : Type} {x x' : α × Run V × Scene V} (h : Agreeing same x x') (f : α → β) :
    Agreeing same (f x.1, x.2) (f x'.1, x'.2) := ⟨congrArg f h.answer, h.run, h.scene⟩

section

variable {rt rt' : Runtime} {r r' : Run V} {s s' : Scene V}

private theorem Statement.carryOut_agreeing (h : rt.Alike same rt') (st : Statement V) (hr : r.Alike same r')
    (hs : s.Alike same s') : Agreeing same (st.carryOut rt r s) (st.carryOut rt' r' s') := by
  cases st with
  | act name passing outcome undo => exact (hr.performPlain hs name passing outcome undo).map Reply.step
  | actSaga name passing opening inner undo =>
    have hstep := (hr.performSaga hs h opening name passing undo (fun _ _ _ _ hr hs => (inner.run_agreeing h hr hs).1)
      (fun _ _ _ _ hr hs => (inner.run_agreeing h hr hs).2)).1
    exact hstep.map Reply.step
  | commit => exact (hr.commit hs).map Reply.commit
  | rollback => exact (hr.rollback hs).map Reply.rollback
  | note error => exact ⟨rfl, hr.note hs error, hs⟩
  | pause passing => exact ⟨rfl, hr, hs.pass passing⟩

private theorem Statement.transcript_eq (h : rt.Alike same rt') (st : Statement V) (hr : r.Alike same r')
    (hs : s.Alike same s') : st.transcript rt r s = st.transcript rt' r' s' := by
  have hnested : st.nested rt r s = st.nested rt' r' s' := by
    cases st with
    | actSaga name passing opening inner undo =>
      exact (hr.performSaga hs h opening name passing undo (fun _ _ _ _ hr hs => (inner.run_agreeing h hr hs).1)
        (fun _ _ _ _ hr hs => (inner.run_agreeing h hr hs).2)).2
    | _ => rfl
  obtain ⟨hanswer, hrun, -⟩ := st.carryOut_agreeing h hr hs
  unfold transcript
  dsimp only
  rw [hnested, hanswer, hrun.record, hrun.failures]

end

section

variable {runs runs' : List (Run V)}

private theorem getElem?_alike (h : List.Forall₂ (Run.Alike same) runs runs') (i : Nat) :
    Option.Rel (Run.Alike same) runs[i]? runs'[i]? := by
  induction h generalizing i with
  | nil => exact .none
  | cons hrun _ ih =>
    cases i with
    | zero => exact .some hrun
    | succ i => exact ih i

private theorem set_alike (h : List.Forall₂ (Run.Alike same) runs runs') (i : Nat) {r r' : Run V}
    (hr : r.Alike same r') :
    List.Forall₂ (Run.Alike same) (runs.set i r) (runs'.set i r') := by
  induction h generalizing i with
  | nil => exact .nil
  | cons hrun hruns ih =>
    cases i with
    | zero => exact .cons hr hruns
    | succ i => exact .cons hrun (ih i)

end

/-- As many runs were begun by hand in both sessions, and they are alike one by one. -/
structure Session.Alike (same : Prop) (w w' : Session V) : Prop where
  runs : List.Forall₂ (Run.Alike same) w.runs w'.runs
  scene : w.scene.Alike same w'.scene

namespace Session

variable {rt rt' : Runtime} {w w' : Session V}

private theorem Alike.carryOut (hw : w.Alike same w') (h : rt.Alike same rt') (m : Move V) :
    (w.carryOut rt m).1 = (w'.carryOut rt' m).1 ∧ (w.carryOut rt m).2.Alike same (w'.carryOut rt' m).2 := by
  cases m with
  | begin o =>
    obtain ⟨hrun, hscene⟩ := h.begin hw.scene o
    refine ⟨congrArg (fun record => [Entry.begun record]) hrun.record, ?_, hscene⟩
    exact List.rel_append hw.runs (.cons hrun .nil)
  | state i st =>
    have hfound := getElem?_alike hw.runs i
    unfold Session.carryOut
    dsimp only
    generalize w.runs[i]? = found at hfound
    generalize w'.runs[i]? = found' at hfound
    cases hfound with
    | none => exact ⟨rfl, hw⟩
    | some hrun =>
      obtain ⟨-, hafter, hscene⟩ := st.carryOut_agreeing h hrun hw.scene
      exact ⟨st.transcript_eq h hrun hw.scene, set_alike hw.runs i hafter, hscene⟩
  | execute e =>
    obtain ⟨hentries, hscene⟩ := e.carryOut_alike h hw.scene
    exact ⟨hentries, hw.runs, hscene⟩
  | pass p => exact ⟨rfl, hw.runs, hw.scene.pass p⟩

private theorem Alike.carryOutAll (hw : w.Alike same w') (h : rt.Alike same rt') (moves : List (Move V)) :
    (carryOutAll rt moves w).1 = (carryOutAll rt' moves w').1 ∧
      (carryOutAll rt moves w).2.Alike same (carryOutAll rt' moves w').2 := by
  induction moves generalizing w w' with
  | nil => exact ⟨rfl, hw⟩
  | cons m moves ih =>
    obtain ⟨hentries, hsessions⟩ := hw.carryOut h m
    obtain ⟨hlater, hsessions⟩ := ih hsessions
    unfold Session.carryOutAll
    dsimp only
    rw [hentries, hlater]
    exact ⟨rfl, hsessions⟩

end Session

/-! ### Observers of any kind -/

/-- What observers have made of the notices that were sent. They may be nested in fan-outs in any way, and may do
anything with a state of their own, as long as they return: a notice is heard before the saga goes on. -/
def Scene.overheard {α σ : Type} (t : Audience α) (p : α → Observer σ) (x : σ) (s : Scene V) : σ :=
  each s.chronicle.sent (Observing.hear (t.observer p)) x

/-- Observers hear a notice when it is announced, whoever else listens. -/
theorem Scene.overheard_announce {α σ : Type} (t : Audience α) (p : α → Observer σ) (x : σ)
    (audience : Audience Listener) (n : Notice) (s : Scene V) :
    (s.announce audience n).overheard t p x = Observing.hear (t.observer p) n (s.overheard t p x) := by
  have hsent : (s.announce audience n).chronicle.sent = s.chronicle.sent ++ [n] := sent_announce ..
  rw [overheard, hsent, each_append]
  rfl

/-- Observers cannot tell scenes apart that are alike. -/
private theorem Scene.Alike.overheard {s s' : Scene V} (h : s.Alike same s') {α σ : Type} (t : Audience α)
    (p : α → Observer σ) (x : σ) : s.overheard t p x = s'.overheard t p x := by
  rw [Scene.overheard, h.sent, Scene.overheard]

/-- **Nobody depends on the archive or on the observers.** Let the same moves be made in two sessions that differ only
in whether there is an archive, what it holds and which of its calls fail, and in the listeners. Every statement and
every execution, those inside actions included, is answered alike in both, with the same record and the same failed
compensations afterwards; the same actions and compensations are started, with the same values and at the same readings
of the stop watch; and the same notices are sent. So observers of any kind, as long as they return when they are told of
something, come to the same in both sessions. If the listeners are the same, they also note and tally the same and write
the same lines, but for lines that tell of faults of the archive. -/
theorem session_indifferent (moves : List (Move V)) (budget : Option Span) (s : Scene V)
    (audience audience' : Audience Listener) (archived archived' : Bool) (store store' : Guarded Archive) :
    let one := Session.carryOutAll ⟨audience, archived, budget⟩ moves ⟨[], { s with store }⟩
    let other := Session.carryOutAll ⟨audience', archived', budget⟩ moves ⟨[], { s with store := store' }⟩
    let twin := Session.carryOutAll ⟨audience, archived', budget⟩ moves ⟨[], { s with store := store' }⟩
    (one.1 = other.1 ∧
      one.2.scene.history.map Deed.bare = other.2.scene.history.map Deed.bare ∧
      one.2.scene.chronicle.sent = other.2.scene.chronicle.sent ∧
      ∀ {α σ : Type} (t : Audience α) (p : α → Observer σ) (x : σ),
        one.2.scene.overheard t p x = other.2.scene.overheard t p x) ∧
    one.2.scene.chronicle.notes = twin.2.scene.chronicle.notes ∧
      one.2.scene.chronicle.tally = twin.2.scene.chronicle.tally ∧
      one.2.scene.chronicle.lines.filter isHeeded = twin.2.scene.chronicle.lines.filter isHeeded := by
  have hsessions : ∀ same, Session.Alike same ⟨[], { s with store }⟩ ⟨[], { s with store := store' }⟩ :=
    fun _ => ⟨.nil, rfl, rfl, rfl, rfl, rfl, rfl, fun _ => ⟨rfl, rfl, rfl⟩⟩
  have hother : Runtime.Alike False ⟨audience, archived, budget⟩ ⟨audience', archived', budget⟩ := ⟨rfl, False.elim⟩
  have htwin : Runtime.Alike True ⟨audience, archived, budget⟩ ⟨audience, archived', budget⟩ := ⟨rfl, fun _ => rfl⟩
  -- first nothing is assumed of the listeners, then that they are the same
  obtain ⟨hentries, -, hscenes⟩ := (hsessions False).carryOutAll hother moves
  obtain ⟨-, -, hsame⟩ := (hsessions True).carryOutAll htwin moves
  obtain ⟨hnotes, htally, hlines⟩ := hsame.heard trivial
  exact ⟨⟨hentries, hscenes.deeds, hscenes.sent, hscenes.overheard⟩, hnotes, htally, hlines⟩

end Coordination.Saga
