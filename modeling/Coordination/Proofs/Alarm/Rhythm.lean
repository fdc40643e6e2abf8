import Coordination.Alarm.Ticker
import Coordination.Proofs.Alarm.Attribution
import Coordination.Proofs.Alarm.Settling

/-!
# The rhythm of a ticker

A ticker sweeps its agenda at its own beats while others call the agenda as they like, sweeps included. What is done to
the agenda in a run is a list of calls, some of them beats (`Ticker.acts`); performed one after the other they lead to
the agenda at the end (`Ticker.play_acts`). So the total of the ticker can be compared with what its beats set off,
and what others set off is told apart (`Ticker.rhythm`).
-/

namespace Coordination.Alarm

variable {μ ω ε σ : Type} [Metronome μ] [StopLine ω]

/-! ### What is done to an agenda -/

namespace Ticker

/-- Something done to the agenda of a ticker. -/
structure Act (ε : Type) where
  /-- It is a beat of the ticker. -/
  own : Bool
  call : Call ε

def Act.beat : Act ε := ⟨true, .sweepNow⟩

/-- A call that is not a beat of the ticker. -/
def Act.manual (c : Call ε) : Act ε := ⟨false, c⟩

end Ticker

namespace Agenda

variable (s : Setting ε σ)

/-- The alarms that the beats set off themselves, or that the other calls do. -/
def setOff (own : Bool) : List (Ticker.Act ε) → Agenda ε σ → List Nat
  | [], _ => []
  | act :: acts, a => (if act.own = own then act.call.due a else []) ++ setOff own acts (act.call.perform s a).2

private theorem perform_append (calls calls' : List (Call ε)) (a : Agenda ε σ) :
    (a.perform s (calls ++ calls')).2 = ((a.perform s calls).2.perform s calls').2 := by
  induction calls generalizing a with
  | nil => rfl
  | cons c calls ih => exact ih (c.perform s a).2

/-- The agenda after acts, one after the other. -/
def enact (acts : List (Ticker.Act ε)) (a : Agenda ε σ) : Agenda ε σ := (a.perform s (acts.map Ticker.Act.call)).2

private theorem enact_cons (act : Ticker.Act ε) (acts : List (Ticker.Act ε)) (a : Agenda ε σ) :
    a.enact s (act :: acts) = (act.call.perform s a).2.enact s acts := rfl

private theorem enact_append (acts acts' : List (Ticker.Act ε)) (a : Agenda ε σ) :
    a.enact s (acts ++ acts') = (a.enact s acts).enact s acts' := by
  unfold enact
  rw [List.map_append, perform_append]

private theorem setOff_append (own : Bool) (acts acts' : List (Ticker.Act ε)) (a : Agenda ε σ) :
    a.setOff s own (acts ++ acts') = a.setOff s own acts ++ (a.enact s acts).setOff s own acts' := by
  induction acts generalizing a with
  | nil => rfl
  | cons act acts ih =>
    have hrest := ih (act.call.perform s a).2
    simp only [List.cons_append, setOff, hrest, List.append_assoc]
    rfl

private theorem enact_manual (calls : List (Call ε)) (a : Agenda ε σ) :
    a.enact s (calls.map .manual) = (a.perform s calls).2 := by
  unfold enact
  rw [List.map_map]
  exact congrArg (fun calls => (a.perform s calls).2) (List.map_id calls)

/-- Calls that are not beats do not count as beats. -/
private theorem setOff_manual (calls : List (Call ε)) (a : Agenda ε σ) : a.setOff s true (calls.map .manual) = [] := by
  induction calls generalizing a with
  | nil => rfl
  | cons c calls ih => exact ih (c.perform s a).2

end Agenda

/-- What beats and other calls set off is all that is set off from outside. -/
private theorem Attributed.enact (s : Setting ε σ) (acts : List (Ticker.Act ε)) {own manual : List Nat} {a : Agenda ε σ}
    (h : Attributed (own ++ manual) a.history) :
    Attributed ((own ++ a.setOff s true acts) ++ (manual ++ a.setOff s false acts)) (a.enact s acts).history := by
  induction acts generalizing own manual a with
  | nil => simpa [Agenda.setOff, Agenda.enact, Agenda.perform] using h
  | cons act acts ih =>
    obtain ⟨own', call⟩ := act
    have hcall := h.call s call
    rw [Agenda.enact_cons]
    cases own' with
    | true =>
      have hperm : ((own ++ manual) ++ call.due a).Perm ((own ++ call.due a) ++ manual) := by
        rw [List.append_assoc, List.append_assoc]
        exact List.perm_append_comm.append_left own
      simpa [Agenda.setOff] using ih (hcall.perm hperm)
    | false =>
      rw [List.append_assoc] at hcall
      simpa [Agenda.setOff] using ih hcall

namespace Ticker

/-! ### Runs -/

/-- What can happen to a ticker. It runs only when it `settle`s. -/
inductive Step (ε : Type) where
  | advance (millis : Nat)
  | send (value : Bool)
  | disconnect
  | call (c : Call ε)
  | settle

def Step.call? : Step ε → Option (Call ε)
  | .call c => some c
  | _ => none

variable (s : Setting ε σ)

def Step.take : Step ε → Ticker μ ω ε σ → Ticker μ ω ε σ
  | .advance millis, t => t.advance millis
  | .send value, t => (t.send value).2
  | .disconnect, t => t.disconnect
  | .call c, t => { t with agenda := (c.perform s t.agenda).2 }
  | .settle, t => t.settle s

/-- What a step does to the agenda. -/
def Step.acts : Step ε → Ticker μ ω ε σ → List (Act ε)
  | .call c, _ => [.manual c]
  | .settle, t => List.replicate (t.pulse.beats (Agenda.sweepNow s) t.agenda) .beat
  | _, _ => []

/-- Steps one after the other. -/
def play (steps : List (Step ε)) (t : Ticker μ ω ε σ) : Ticker μ ω ε σ := steps.foldl (fun t step => step.take s t) t

/-- What steps do to the agenda. -/
def acts : List (Step ε) → Ticker μ ω ε σ → List (Act ε)
  | [], _ => []
  | step :: steps, t => step.acts s t ++ acts steps (step.take s t)

end Ticker

variable {s : Setting ε σ}

/-- A pulse settles by its beats, and counts what they set off. -/
private theorem Pulse.Settles.enact {p : Pulse μ ω} {a : Agenda ε σ} {n : Nat} {r : Pulse μ ω × Agenda ε σ}
    (h : Settles (Agenda.sweepNow s) p a n r) :
    r.2 = a.enact s (List.replicate n .beat) ∧
      r.1.fired = p.fired + (a.setOff s true (List.replicate n .beat)).length := by
  induction h with
  | wait => exact ⟨rfl, rfl⟩
  | halt => exact ⟨rfl, rfl⟩
  | @beat p a n r _ _ ih =>
    obtain ⟨hagenda, hfired⟩ := ih
    refine ⟨hagenda, ?_⟩
    have hcount : (a.sweepNow s).1 = (Call.due .sweepNow a).length := Call.count_perform s .sweepNow a
    rw [hfired, Pulse.beat, hcount, List.replicate_succ, Agenda.setOff, List.length_append, Nat.add_assoc]
    rfl
  | read _ _ ih => exact ih

namespace Ticker

/-- The state of a ticker in a run. -/
structure Sound (t : Ticker μ ω ε σ) : Prop where
  /-- It stops only at a stop signal, or when nobody can send one. -/
  cause : t.pulse.finished = true → t.pulse.signal.value = true ∨ t.pulse.signal.connected = false
  /-- When it stops it writes its total down, once. -/
  lines : t.lines = if t.pulse.finished then [t.pulse.stopLine] else []

variable {t : Ticker μ ω ε σ}

private theorem Sound.start (interval : Nat) (stopped : Bool) (a : Agenda ε σ) :
    (Ticker.start interval stopped a : Ticker μ ω ε σ).Sound where
  cause := nofun
  lines := rfl

theorem settles (t : Ticker μ ω ε σ) :
    Pulse.Settles (Agenda.sweepNow s) t.pulse t.agenda (t.pulse.beats (Agenda.sweepNow s) t.agenda)
      ((t.settle s).pulse, (t.settle s).agenda) :=
  t.pulse.settles (Agenda.sweepNow s) t.agenda

private theorem Sound.settle (h : t.Sound) : (t.settle s).Sound := by
  obtain ⟨hvalue, hconnected, hcause⟩ := (t.settles (s := s)).frame
  refine ⟨fun hfinished => ?_, ?_⟩
  · rw [hvalue, hconnected]
    exact (hcause hfinished).elim h.cause id
  · have hlines : (t.settle s).lines = if (t.settle s).pulse.finished ∧ ¬ t.pulse.finished then
        t.lines ++ [(t.settle s).pulse.stopLine] else t.lines := rfl
    rw [hlines, h.lines]
    by_cases hfinished : t.pulse.finished = true
    · obtain ⟨-, hstays, hfired, -⟩ := (t.settles (s := s)).stops (Or.inl hfinished)
      dsimp only at hstays hfired
      simp [hfinished, hstays, Pulse.stopLine, hfired]
    · simp [hfinished]

private theorem Sound.take (h : t.Sound) (step : Step ε) : (step.take s t).Sound := by
  cases step with
  | advance millis => exact ⟨h.cause, h.lines⟩
  | send value =>
    have htake : Step.take s (.send value) t = { t with pulse := (t.pulse.send value).2 } := rfl
    rw [htake]
    rcases t.pulse.send_cases value with hsend | ⟨hrunning, hsend⟩ <;> rw [hsend]
    · exact h
    · refine ⟨fun hfinished => ?_, h.lines⟩
      cases hrunning.symm.trans hfinished
  | disconnect =>
    refine ⟨fun _ => Or.inr ?_, h.lines⟩
    exact congrArg Signal.connected (StopLine.signal_cut t.pulse.stop)
  | call c => exact ⟨h.cause, h.lines⟩
  | settle => exact h.settle

/-- A step does to the agenda what it is said to do, and the total counts what the beats among it set off. -/
private theorem take_acts (t : Ticker μ ω ε σ) (step : Step ε) :
    (step.take s t).agenda = t.agenda.enact s (step.acts s t) ∧
      (step.take s t).pulse.fired = t.pulse.fired + (t.agenda.setOff s true (step.acts s t)).length := by
  cases step with
  | advance millis => exact ⟨rfl, rfl⟩
  | send value =>
    have hfired : (t.pulse.send value).2.fired = t.pulse.fired := by
      rcases t.pulse.send_cases value with hsend | ⟨-, hsend⟩ <;> rw [hsend]
    exact ⟨rfl, hfired⟩
  | disconnect => exact ⟨rfl, rfl⟩
  | call c => exact ⟨rfl, rfl⟩
  | settle => exact t.settles.enact

private theorem Sound.play (h : t.Sound) (steps : List (Step ε)) : (t.play s steps).Sound := by
  induction steps generalizing t with
  | nil => exact h
  | cons step steps ih => exact ih (h.take step)

/-- So a run leads to what its acts lead to. -/
theorem play_acts (t : Ticker μ ω ε σ) (steps : List (Step ε)) :
    (t.play s steps).agenda = t.agenda.enact s (t.acts s steps) ∧
      (t.play s steps).pulse.fired = t.pulse.fired + (t.agenda.setOff s true (t.acts s steps)).length := by
  induction steps generalizing t with
  | nil => exact ⟨rfl, rfl⟩
  | cons step steps ih =>
    obtain ⟨hagenda, hfired⟩ := t.take_acts (s := s) step
    obtain ⟨hagenda', hfired'⟩ := ih (step.take s t)
    rw [acts, Agenda.enact_append, Agenda.setOff_append, ← hagenda, List.length_append, ← Nat.add_assoc, ← hfired]
    exact ⟨hagenda', hfired'⟩

/-- A ticker that has stopped does nothing more: what is done to its agenda are the calls of others. -/
private theorem take_finished (hfinished : t.pulse.finished = true) (step : Step ε) :
    step.acts s t = (step.call?.toList.map .manual) ∧ (step.take s t).pulse.finished = true ∧
      (step.take s t).pulse.fired = t.pulse.fired := by
  cases step with
  | advance millis => exact ⟨rfl, hfinished, rfl⟩
  | send value =>
    have hsend : (t.pulse.send value).2 = t.pulse :=
      (t.pulse.send_cases value).resolve_right fun hsent => by cases hfinished.symm.trans hsent.1
    have htake : Step.take s (.send value) t = { t with pulse := (t.pulse.send value).2 } := rfl
    rw [htake, hsend]
    exact ⟨rfl, hfinished, rfl⟩
  | disconnect => exact ⟨rfl, hfinished, rfl⟩
  | call c => exact ⟨rfl, hfinished, rfl⟩
  | settle =>
    obtain ⟨hbeats, hstays, hfired, -⟩ := (t.settles (s := s)).stops (Or.inl hfinished)
    refine ⟨?_, hstays, hfired⟩
    rw [Step.acts, hbeats]
    rfl

private theorem play_finished (hfinished : t.pulse.finished = true) (steps : List (Step ε)) :
    t.acts s steps = (steps.filterMap Step.call?).map .manual ∧ (t.play s steps).pulse.finished = true ∧
      (t.play s steps).pulse.fired = t.pulse.fired := by
  induction steps generalizing t with
  | nil => exact ⟨rfl, hfinished, rfl⟩
  | cons step steps ih =>
    obtain ⟨hacts, hstays, hfired⟩ := take_finished (s := s) hfinished step
    obtain ⟨hacts', hstays', hfired'⟩ := ih hstays
    refine ⟨?_, hstays', hfired'.trans hfired⟩
    rw [acts, hacts, hacts']
    cases step <;> rfl

/-- **A ticker counts its own beats and stops for good.** Let an agenda be scheduled in any way, and a ticker with any
interval be started on it, whatever its metronome and its stop line are made of; then let time pass, values be sent, the
line be lost and the agenda be called, sweeps included, in any order. The total of the ticker is the number of alarms
that its own beats set off, not those that were set off by other sweeps or by the tasks of alarms; no alarm goes off
twice. The ticker stops as soon as it runs with a stop signal, or without anybody to send one, if no beat is due at the
same time; otherwise it waits for the next beat. Once it has stopped it never beats again: whatever happens, its agenda
changes only by the calls of others, and the total, which it has written down once, stays the same. -/
theorem rhythm (μ ω : Type) [Metronome μ] [StopLine ω] (s : Setting ε σ) (interval : Nat) (stopped : Bool)
    (clock : Millis) (outside : σ) (schedule : List (Call ε)) (steps : List (Step ε)) :
    let opened : Agenda ε σ := .opened clock outside
    let started : Ticker μ ω ε σ := .start interval stopped (opened.perform s schedule).2
    let t := started.play s steps
    let acts := schedule.map .manual ++ started.acts s steps
    let own := opened.setOff s true acts
    let manual := opened.setOff s false acts
    t.agenda = opened.enact s acts ∧
      t.pulse.fired = own.length ∧
      Attributed (own ++ manual) t.agenda.history ∧
      (t.agenda.history.filterMap Entry.fired?).Nodup ∧ (own ++ manual).Nodup ∧
      (t.lines = if t.pulse.finished then [t.pulse.stopLine] else []) ∧
      (t.pulse.finished = true → t.pulse.signal.value = true ∨ t.pulse.signal.connected = false) ∧
      (¬ t.pulse.Torn → t.pulse.signal.value = true ∨ t.pulse.signal.connected = false →
        (t.settle s).pulse.finished = true ∧ Step.settle.acts s t = []) ∧
      ((t.settle s).pulse.finished = true ∨ ((t.settle s).pulse.signal = ⟨false, false, true⟩ ∧
        (t.settle s).pulse.elapsed < (t.settle s).pulse.deadline)) ∧
      (t.pulse.finished = true → ∀ more,
        t.acts s more = (more.filterMap Step.call?).map .manual ∧
          (t.play s more).agenda = (t.agenda.perform s (more.filterMap Step.call?)).2 ∧
          (t.play s more).pulse.fired = t.pulse.fired ∧ (t.play s more).lines = t.lines) := by
  intro opened started t acts own manual
  have hstarted : started.Sound := .start ..
  have hsound : t.Sound := hstarted.play steps
  have hschedule : started.agenda = opened.enact s (schedule.map .manual) := (opened.enact_manual s schedule).symm
  obtain ⟨hagenda, hfired⟩ := started.play_acts (s := s) steps
  have hacts : t.agenda = opened.enact s acts := by
    rw [Agenda.enact_append, ← hschedule]
    exact hagenda
  have hcount : t.pulse.fired = own.length := by
    show _ = (opened.setOff s true (schedule.map .manual ++ started.acts s steps)).length
    rw [Agenda.setOff_append, Agenda.setOff_manual, ← hschedule]
    exact hfired.trans (Nat.zero_add _)
  have hattributed : Attributed (own ++ manual) t.agenda.history := by
    rw [hacts]
    exact (show Attributed ([] ++ []) opened.history from .nil).enact s acts
  have hnodup : (t.agenda.history.filterMap Entry.fired?).Nodup := by
    rw [hacts]
    exact ((Kept.opened clock outside).perform s (acts.map Act.call)).nodup_fired
  refine ⟨hacts, hcount, hattributed, hnodup, ?_, hsound.lines, hsound.cause, ?_, ?_, ?_⟩
  · obtain ⟨nested, hperm, -⟩ := hattributed
    exact (List.nodup_append.1 (hperm.nodup_iff.1 hnodup)).1
  · intro hapart hstop
    have hearly : t.pulse.signal.connected = false →
        t.pulse.signal.connected = false ∧ t.pulse.elapsed < t.pulse.deadline :=
      fun hgone => ⟨hgone, Nat.lt_of_not_le fun hdue => hapart ⟨hdue, Or.inr hgone⟩⟩
    obtain ⟨hbeats, hfinished, -⟩ := (t.settles (s := s)).stops (Or.inr (hstop.imp_right hearly))
    refine ⟨hfinished, ?_⟩
    rw [Step.acts, hbeats]
    rfl
  · exact Pulse.next_eq_wait.1 (t.settles (s := s)).next
  · intro hfinished more
    obtain ⟨hcalls, hstays, htotal⟩ := play_finished (s := s) hfinished more
    obtain ⟨hmore, -⟩ := t.play_acts (s := s) more
    refine ⟨hcalls, ?_, htotal, ?_⟩
    · rw [hmore, hcalls, Agenda.enact_manual]
    · rw [(hsound.play more).lines, hsound.lines, hstays, hfinished, Pulse.stopLine, Pulse.stopLine, htotal]

/-- A beat sets off the first alarm, its task the second one, and somebody else the third one; then the ticker stops. -/
example :
    let alarm (id : String) (time : Millis) (task : Task Unit) : Step Unit := .call (.armAt ⟨id⟩ time task)
    let started : Ticker Delaying Signal Unit Unit := .start 100 false (.opened 50 ())
    let t := started.play (.inOrder fun _ _ x => x)
      [alarm "a" 10 (.sweep 200 .done), alarm "b" 200 .done, .settle, alarm "c" 10 .done, .advance 99, .settle,
        .call (.sweep 10), .send true, .settle, alarm "d" 10 .done, .advance 500, .settle]
    (t.pulse.finished, t.pulse.fired, t.agenda.history.filterMap Entry.fired?) = (true, 1, [0, 1, 2]) := by
  decide +kernel

end Ticker

end Coordination.Alarm
