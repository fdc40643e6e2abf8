import Coordination.Proofs.Saga.Interleaving

/-!
# Ensembles

What plays a saga need not be a script. The body of a saga is any program that holds the run: it makes statements, in
view of what came of the earlier ones, it may break a statement off while it is under way, and it comes to a result.
Then the run is committed, or the saga is given up. A saga that is conducted in this way is an `Undertaking`.

An `Ensemble` is a number of undertakings side by side. Any of them may be begun or go on while others are in the middle
of a statement, as when the action of a step, or a compensation, is itself a saga. A cue begins a saga, lets one go on,
or lets time pass, and any list of cues is a course of events. A cue that does not fit does nothing.

To conduct a saga with a script is an undertaking among any others (`Ensemble.conducts`).
-/

namespace Coordination.Saga

variable {V : Type}

namespace Run

/-- What is left of giving a saga up when the rollback came to `outcome`. -/
def fail (fault : Fault) (outcome : Except Fault Unit) (r : Run V) (s : Scene V) : Scene V :=
  let s :=
    match outcome with
    | .ok () => s
    | .error skipped =>
      s.write ⟨.warn, "Rollback skipped", [("saga_id", r.record.id.text), ("error", skipped.message)]⟩
  r.announce (.failed r.record.id (some fault.message)) s

private theorem abandon_eq_fail (fault : Fault) (r : Run V) (s : Scene V) :
    r.abandon fault s =
      let rolled := (r.note fault.message s).rollback s
      (rolled.2.1, rolled.2.1.fail fault rolled.1 rolled.2.2) := rfl

end Run

/-- A rollback is under way. -/
def Pending.isUndoing : Pending V → Bool
  | .nothing => false
  | .acting _ _ => false
  | .rollingBack _ => true
  | .undoing _ _ => true

/-! ### Undertakings -/

/-- How the body of a saga leaves the run: what it came to, and the status of the run. -/
structure Leaving (V : Type) where
  result : Except Fault V
  status : Status

/-- How far a saga has got. -/
inductive Phase (V : Type) where
  /-- The body holds the run. -/
  | playing
  /-- The run is rolled back because of a fault. -/
  | givingUp (leaving : Leaving V) (fault : Fault)
  /-- The saga is over. -/
  | answered (leaving : Leaving V) (answer : Except Fault V)

/-- A saga that is conducted. -/
structure Undertaking (V : Type) where
  runtime : Runtime
  opening : Opening
  strand : Strand V
  phase : Phase V
  /-- What came of the pieces of the statements on the run. -/
  reports : List (Report V)
  /-- The body broke off a rollback. -/
  brokenOff : Bool

namespace Undertaking

def run (u : Undertaking V) : Run V := u.strand.run

def id (u : Undertaking V) : SagaId := u.run.record.id

def status (u : Undertaking V) : Status := u.run.record.status

def isOver (u : Undertaking V) : Bool :=
  match u.phase with
  | .answered _ _ => true
  | _ => false

theorem isOver_iff {u : Undertaking V} : u.isOver = true ↔ ∃ leaving answer, u.phase = .answered leaving answer := by
  unfold isOver
  cases u.phase <;> simp

theorem isOver_playing {u : Undertaking V} (h : u.phase = .playing) : u.isOver = false := by
  unfold isOver
  rw [h]

theorem isOver_givingUp {u : Undertaking V} {leaving : Leaving V} {fault : Fault}
    (h : u.phase = .givingUp leaving fault) : u.isOver = false := by
  unfold isOver
  rw [h]

/-- The saga after a piece of a statement. -/
def goOn (x : Strand V) (told : List (Report V)) (u : Undertaking V) : Undertaking V :=
  { u with strand := x, reports := u.reports ++ told }

/-- What a motion of the strand makes of the saga. -/
def moved (after : Option (Report V) × Strand V × Scene V) (u : Undertaking V) : Undertaking V × Scene V :=
  (u.goOn after.2.1 after.1.toList, after.2.2)

/-- The next piece of a statement: of the body's, or of the rollback of a saga that is given up. -/
def piece (m : Motion V) (u : Undertaking V) (s : Scene V) : Undertaking V × Scene V :=
  match u.phase with
  | .playing => u.moved (m.carryOut u.strand s)
  | .givingUp leaving fault =>
    match m.carryOut u.strand s with
    | (some (.rollback outcome), x, s) =>
      ({ u.goOn x [.rollback outcome] with phase := .answered leaving (.error fault) }, x.run.fail fault outcome s)
    | after => u.moved after
  | .answered _ _ => (u, s)

theorem piece_playing {u : Undertaking V} (h : u.phase = .playing) (m : Motion V) (s : Scene V) :
    u.piece m s = u.moved (m.carryOut u.strand s) := by
  unfold piece
  rw [h]

/-- A piece that does not end the rollback is the same as of the body's. -/
theorem piece_givingUp {u : Undertaking V} {leaving : Leaving V} {fault : Fault} (h : u.phase = .givingUp leaving fault)
    {m : Motion V} {s : Scene V} (hreport : ∀ outcome, (m.carryOut u.strand s).1 ≠ some (.rollback outcome)) :
    u.piece m s = u.moved (m.carryOut u.strand s) := by
  unfold piece
  rw [h]
  dsimp only
  split
  · rename_i heq
    exact absurd (congrArg Prod.fst heq) (hreport _)
  · rfl

/-- The body breaks off what is under way. The run stays as it is. -/
def breakOff (u : Undertaking V) : Undertaking V :=
  match u.phase with
  | .playing => { u with strand := ⟨u.run, .nothing⟩, brokenOff := u.brokenOff || u.strand.pending.isUndoing }
  | _ => u

/-- A saga is given up. -/
def giveUp (leaving : Leaving V) (fault : Fault) (u : Undertaking V) (s : Scene V) : Undertaking V × Scene V :=
  { u with strand := ⟨u.run.note fault.message s, .nothing⟩, phase := .givingUp leaving fault }.piece .turnBack s

/-- The body comes to a result. -/
def come (result : Except Fault V) (u : Undertaking V) (s : Scene V) : Undertaking V × Scene V :=
  match u.phase, u.strand.pending with
  | .playing, .nothing =>
    let leaving : Leaving V := ⟨result, u.status⟩
    match result with
    | .error fault => u.giveUp leaving fault s
    | .ok value =>
      match u.run.commit s with
      | (.ok (), r, s) => ({ u with strand := ⟨r, .nothing⟩, phase := .answered leaving (.ok value) }, s)
      | (.error fault, r, s) => { u with strand := ⟨r, .nothing⟩ }.giveUp leaving fault s
  | _, _ => (u, s)

end Undertaking

/-- How an undertaking can go on. -/
inductive Doing (V : Type) where
  | piece (m : Motion V)
  | breakOff
  | come (result : Except Fault V)

def Doing.carryOut : Doing V → Undertaking V → Scene V → Undertaking V × Scene V
  | .piece m, u, s => u.piece m s
  | .breakOff, u, s => (u.breakOff, s)
  | .come result, u, s => u.come result s

def Opening.undertake (rt : Runtime) (o : Opening) (s : Scene V) : Undertaking V × Scene V :=
  let (r, s) := o.begin rt s
  (⟨rt, o, ⟨r, .nothing⟩, .playing, [], false⟩, s)

/-! ### Ensembles -/

/-- Sagas that are conducted side by side, and what they share. -/
structure Ensemble (V : Type) where
  undertakings : List (Undertaking V)
  scene : Scene V

inductive Cue (V : Type) where
  | begin (rt : Runtime) (o : Opening)
  /-- The undertaking `i` goes on. -/
  | on (i : Nat) (d : Doing V)
  | pass (p : Passing)

def Cue.take : Cue V → Ensemble V → Ensemble V
  | .begin rt o, e =>
    let (u, s) := o.undertake rt e.scene
    ⟨e.undertakings ++ [u], s⟩
  | .on i d, e =>
    match e.undertakings[i]? with
    | some u =>
      let (u, s) := d.carryOut u e.scene
      ⟨e.undertakings.set i u, s⟩
    | none => e
  | .pass p, e => { e with scene := e.scene.pass p }

namespace Ensemble

def opened (s : Scene V) : Ensemble V := ⟨[], s⟩

/-- Takes cues one after the other. -/
def follow : List (Cue V) → Ensemble V → Ensemble V
  | [], e => e
  | cue :: cues, e => (cue.take e).follow cues

private theorem follow_cons (cue : Cue V) (cues : List (Cue V)) (e : Ensemble V) :
    e.follow (cue :: cues) = (cue.take e).follow cues := rfl

private theorem follow_append (cues cues' : List (Cue V)) (e : Ensemble V) :
    e.follow (cues ++ cues') = (e.follow cues).follow cues' := by
  induction cues generalizing e with
  | nil => rfl
  | cons cue cues ih => exact ih (cue.take e)

/-- One undertaking goes on. -/
theorem take_on (earlier later : List (Undertaking V)) (u : Undertaking V) (s : Scene V) (d : Doing V) :
    (Cue.on earlier.length d).take ⟨earlier ++ u :: later, s⟩ =
      ⟨earlier ++ (d.carryOut u s).1 :: later, (d.carryOut u s).2⟩ := by
  have hget : (earlier ++ u :: later)[earlier.length]? = some u := by simp
  simp only [Cue.take, hget]
  simp

end Ensemble

/-! ### Scripts -/

/-- Other sagas get from `s` to `t`, whatever undertakings there are besides. -/
def Scene.Beside (s t : Scene V) : Prop :=
  ∀ us : List (Undertaking V), ∃ cues others, (⟨us, s⟩ : Ensemble V).follow cues = ⟨us ++ others, t⟩

private theorem Scene.pass_beside (p : Passing) (s : Scene V) : s.Beside (s.pass p) :=
  fun us => ⟨[.pass p], [], by rw [List.append_nil]; rfl⟩

private theorem Scene.Beside.trans {s t u : Scene V} (h : s.Beside t) (h' : t.Beside u) : s.Beside u := by
  intro us
  obtain ⟨cues, others, heq⟩ := h us
  obtain ⟨cues', others', heq'⟩ := h' (us ++ others)
  refine ⟨cues ++ cues', others ++ others', ?_⟩
  rw [Ensemble.follow_append, heq, heq', List.append_assoc]

namespace Undertaking

/-- From `s`, where it is `u`, an undertaking gets to what is `after`, whatever others there are. -/
def Goes (u : Undertaking V) (s : Scene V) (after : Undertaking V × Scene V) : Prop :=
  ∀ earlier later : List (Undertaking V), ∃ cues others,
    (⟨earlier ++ u :: later, s⟩ : Ensemble V).follow cues = ⟨earlier ++ after.1 :: (later ++ others), after.2⟩

variable {u u' w : Undertaking V} {s s' t : Scene V} {after : Undertaking V × Scene V} {r : Run V} {x : Strand V}
  {told : List (Report V)}

private theorem Goes.refl (u : Undertaking V) (s : Scene V) : u.Goes s (u, s) :=
  fun _ _ => ⟨[], [], by rw [List.append_nil]; rfl⟩

private theorem Goes.trans (h : u.Goes s (u', s')) (h' : u'.Goes s' after) : u.Goes s after := by
  intro earlier later
  obtain ⟨cues, others, heq⟩ := h earlier later
  obtain ⟨cues', others', heq'⟩ := h' earlier (later ++ others)
  refine ⟨cues ++ cues', others ++ others', ?_⟩
  rw [Ensemble.follow_append, heq, heq', List.append_assoc]

private theorem goes_doing (d : Doing V) (u : Undertaking V) (s : Scene V) : u.Goes s (d.carryOut u s) :=
  fun earlier later => ⟨[.on earlier.length d], [], by
    rw [Ensemble.follow_cons, Ensemble.take_on, List.append_nil]
    rfl⟩

/-- An undertaking stays as it is while others go on. -/
private theorem Goes.beside (h : u.Goes s (u', s')) (hbeside : s'.Beside t) : u.Goes s (u', t) := by
  refine h.trans fun earlier later => ?_
  obtain ⟨cues, others, heq⟩ := hbeside (earlier ++ u' :: later)
  exact ⟨cues, others, by rw [heq, List.append_assoc]; rfl⟩

/-- A saga that is begun goes on beside the others. -/
private theorem beside_undertake {rt : Runtime} {o : Opening}
    (h : (o.undertake rt s).1.Goes (o.undertake rt s).2 (u', s')) : s.Beside s' := by
  intro us
  obtain ⟨cues, others, heq⟩ := h us []
  exact ⟨.begin rt o :: cues, u' :: others, heq⟩

/-! ### Statements in one go -/

private theorem goOn_goOn (x y : Strand V) (told told' : List (Report V)) (u : Undertaking V) :
    (u.goOn x told).goOn y told' = u.goOn y (told ++ told') := by
  simp only [goOn, List.append_assoc]

private theorem Goes.start (hx : u.strand = x) (s : Scene V) : u.Goes s (u.goOn x [], s) := by
  have hsame : u.goOn x [] = u := by simp only [goOn, ← hx, List.append_nil]
  rw [hsame]
  exact .refl u s

private theorem moved_goOn (after : Option (Report V) × Strand V × Scene V) (x : Strand V) (told : List (Report V))
    (u : Undertaking V) : (u.goOn x told).moved after = (u.goOn after.2.1 (told ++ after.1.toList), after.2.2) := by
  rw [moved, goOn_goOn]

private theorem Goes.piece (h : u.Goes s (w.goOn x told, s')) (hphase : w.phase = .playing) (m : Motion V) :
    u.Goes s (w.goOn (m.carryOut x s').2.1 (told ++ (m.carryOut x s').1.toList), (m.carryOut x s').2.2) := by
  have hgoes := h.trans (goes_doing (.piece m) _ s')
  rwa [Doing.carryOut, piece_playing (u := w.goOn x told) hphase, moved_goOn] at hgoes

/-- A piece that does not end a rollback is the same, whoever rolls the run back. -/
private theorem Goes.undoing (h : u.Goes s (w.goOn x told, s')) (hover : w.isOver = false) (m : Motion V)
    (hreport : ∀ outcome, (m.carryOut x s').1 ≠ some (.rollback outcome)) :
    u.Goes s (w.goOn (m.carryOut x s').2.1 (told ++ (m.carryOut x s').1.toList), (m.carryOut x s').2.2) := by
  cases hphase : w.phase with
  | playing => exact h.piece hphase m
  | givingUp leaving fault =>
    have hgoes := h.trans (goes_doing (.piece m) _ s')
    rwa [Doing.carryOut, piece_givingUp (u := w.goOn x told) hphase hreport, moved_goOn] at hgoes
  | answered leaving answer =>
    rw [isOver_iff.2 ⟨leaving, answer, hphase⟩] at hover
    cases hover

private theorem Goes.compensate {step : Step V} {left : List (Step V)}
    (h : u.Goes s (w.goOn ⟨r, .rollingBack (step :: left)⟩ told, s')) (hover : w.isOver = false) :
    ∃ told', u.Goes s (w.goOn ⟨(r.compensate step s').1, .rollingBack left⟩ told', (r.compensate step s').2) := by
  have htaken := h.undoing hover .takeUp nofun
  have hpassed := htaken.beside (Scene.pass_beside step.undo.passing _)
  exact ⟨_, hpassed.undoing hover .putDown nofun⟩

private theorem Goes.compensateAll {steps : List (Step V)} (h : u.Goes s (w.goOn ⟨r, .rollingBack steps⟩ told, s'))
    (hover : w.isOver = false) :
    ∃ told', u.Goes s (w.goOn ⟨(Run.compensateAll steps r s').1, .rollingBack []⟩ told',
      (Run.compensateAll steps r s').2) := by
  induction steps generalizing r s' told with
  | nil => exact ⟨told, h⟩
  | cons step steps ih =>
    obtain ⟨_, hundone⟩ := h.compensate hover
    exact ih hundone

/-- What the body does in one go: afterwards no statement is under way. -/
def Plays (u : Undertaking V) (s : Scene V) (after : Run V × Scene V) : Prop :=
  ∃ told, u.Goes s (u.goOn ⟨after.1, .nothing⟩ told, after.2)

private theorem Plays.perform (h : u.Plays s (r, s')) (hphase : u.phase = .playing) (name : String) (undo : V → Undo)
    {action : Scene V → Except String V × Scene V} (haction : ∀ s : Scene V, s.Beside (action s).2) :
    u.Plays s (r.perform name action undo s').2 := by
  obtain ⟨told, h⟩ := h
  have hentered := h.piece hphase (.enter name undo)
  rw [Run.perform_eq]
  cases hrefusal : r.stepRefusal? s' with
  | some fault =>
    simp only [Motion.carryOut, hrefusal] at hentered
    exact ⟨_, hentered⟩
  | none =>
    simp only [Motion.carryOut, hrefusal] at hentered
    have hacted := hentered.beside (haction (s'.record (r.starting name s')))
    exact ⟨_, hacted.piece hphase (.leave (action (s'.record (r.starting name s'))).1)⟩

private theorem Plays.rollback (h : u.Plays s (r, s')) (hphase : u.phase = .playing) : u.Plays s (r.rollback s').2 := by
  obtain ⟨told, h⟩ := h
  have hover := isOver_playing hphase
  have hturned := h.piece hphase .turnBack
  rw [Run.rollback_eq]
  cases hrunning : r.isRunning with
  | true =>
    simp only [Motion.carryOut, hrunning, ↓reduceIte] at hturned
    obtain ⟨_, hundone⟩ := hturned.compensateAll hover
    exact ⟨_, hundone.piece hphase .settle⟩
  | false =>
    simp only [Motion.carryOut, hrunning] at hturned
    exact ⟨_, hturned⟩

/-! ### Sagas in one go -/

/-- The undertaking when it is over. -/
def ended (r : Run V) (reports : List (Report V)) (leaving : Leaving V) (answer : Except Fault V) (u : Undertaking V) :
    Undertaking V :=
  { u with strand := ⟨r, .nothing⟩, phase := .answered leaving answer, reports }

private theorem Goes.abandon {leaving : Leaving V} {fault : Fault} (h : u.Goes s (w.giveUp leaving fault s')) :
    ∃ reports, u.Goes s
      (w.ended (w.run.abandon fault s').1 reports leaving (.error fault), (w.run.abandon fault s').2) := by
  rw [Run.abandon_eq_fail, Run.rollback_eq]
  simp only [giveUp, Undertaking.piece, Motion.carryOut] at h
  cases hrunning : (w.run.note fault.message s').isRunning with
  | true =>
    simp only [hrunning, ↓reduceIte] at h
    obtain ⟨told, hundone⟩ := h.compensateAll rfl
    have hsettled := hundone.trans (goes_doing (.piece .settle) _ _)
    exact ⟨_, hsettled⟩
  | false =>
    simp only [hrunning] at h
    exact ⟨_, h⟩

/-- The body comes to a result, and the saga is brought to its end. -/
private theorem Plays.conclude (h : u.Plays s (r, s')) (hphase : u.phase = .playing) (result : Except Fault V) :
    ∃ reports, u.Goes s
      (u.ended (r.conclude result s').2.1 reports ⟨result, r.record.status⟩ (r.conclude result s').1,
        (r.conclude result s').2.2) := by
  obtain ⟨told, h⟩ := h
  have hcame := h.trans (goes_doing (.come result) _ s')
  have hplaying : (u.goOn ⟨r, .nothing⟩ told).phase = .playing := hphase
  unfold Doing.carryOut come at hcame
  dsimp only at hcame
  rw [hplaying] at hcame
  cases result with
  | error fault => exact hcame.abandon
  | ok value =>
    unfold Run.conclude
    change u.Goes s (match r.commit s' with | (.ok (), r, s) => _ | (.error fault, r, s) => _) at hcame
    dsimp only
    generalize r.commit s' = committed at hcame
    obtain ⟨_ | _, r', t⟩ := committed
    · exact hcame.abandon
    · exact ⟨_, hcame⟩

end Undertaking

/-- A saga that is conducted goes on beside the others, until it is over. -/
private theorem conductWith_beside {rt : Runtime} {o : Opening}
    {play : Run V → Scene V → Except Fault V × Run V × Scene V}
    {s : Scene V} (hplay : (o.undertake rt s).1.Plays (o.undertake rt s).2 (play (o.begin rt s).1 (o.begin rt s).2).2) :
    s.Beside (conductWith rt o play s).2.2 := by
  obtain ⟨_, h⟩ := hplay.conclude rfl (play (o.begin rt s).1 (o.begin rt s).2).1
  exact Undertaking.beside_undertake h

private theorem Script.plays (rt : Runtime) (script : Script V) {u : Undertaking V} {r : Run V} {s s' : Scene V}
    (h : u.Plays s (r, s')) (hphase : u.phase = .playing) : u.Plays s (script.run rt r s').2 := by
  induction script generalizing u r s s' with
  | done result => exact h
  | act name passing outcome undo next ih =>
    have hstep : u.Plays s (r.perform name (fun s => (outcome, s.pass passing)) undo s').2 :=
      h.perform hphase name undo (Scene.pass_beside passing)
    exact ih _ hstep hphase
  | actSaga name passing opening inner undo next ihInner ih =>
    have haction : ∀ s : Scene V, s.Beside (sagaAction rt opening (inner.run rt) (s.pass passing)).2 := by
      intro s
      rw [sagaAction_scene]
      exact (Scene.pass_beside passing s).trans (conductWith_beside (ihInner ⟨[], .start rfl _⟩ rfl))
    have hstep := h.perform hphase name undo haction
    exact ih _ hstep hphase
  | commit next ih =>
    obtain ⟨told, h⟩ := h
    exact ih _ ⟨_, h.piece hphase .commit⟩ hphase
  | rollback next ih => exact ih _ (h.rollback hphase) hphase
  | note error next ih =>
    obtain ⟨told, h⟩ := h
    exact ih ⟨_, h.piece hphase (.note error)⟩ hphase
  | pause passing next ih =>
    obtain ⟨told, h⟩ := h
    exact ih ⟨told, h.beside (Scene.pass_beside passing s')⟩ hphase

end Coordination.Saga
