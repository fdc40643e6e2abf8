import Coordination.Proofs.Alarm.Rhythm

/-!
# Telling a ticker to go on

The value `false` on the stop line tells a ticker to go on, which it does anyway. It wakes the ticker: the wait for the
next beat is given up and taken up again, with the same deadline, as to take notice of news moves nothing else
(`Pulse.observed_heed`). So two tickers that differ only in what they have taken notice of cannot be told apart: every
step answers the same for both of them, comes with the same beats, and leads to two such tickers again
(`Ticker.view_seen`).

`Pulse.settle` lets a beat that is due come before news. A ticker that finds both at hand may as well take notice of the
news first; `Pulse.MaySettle` leaves this open, and `Ticker.Course` is a run in which it is open at every step. What can
come of a run is the same for both tickers, too (`Ticker.Course.of_seen_eq`).
-/

namespace Coordination.Alarm

variable {μ ω ω' ε σ : Type} [Metronome μ] [StopLine ω] [StopLine ω']

namespace Pulse

variable {p : Pulse μ ω} {p' : Pulse μ ω'} {sweep : σ → Nat × σ} {x : σ} {n : Nat} {r : Pulse μ ω × σ}

/-- All that can be told of a pulse. -/
def observed (p : Pulse μ ω) : Pulse μ Signal := ⟨p.metronome, p.elapsed, p.signal, p.fired, p.finished⟩

/-- A pulse as others see it: they cannot tell whether it has taken notice of the last value. -/
def seen (p : Pulse μ ω) : Pulse μ Signal := ⟨p.metronome, p.elapsed, p.signal.heed, p.fired, p.finished⟩

/-- To take notice of news moves nothing else. -/
theorem observed_heed (p : Pulse μ ω) : p.heed.observed = p.seen := by
  rw [observed, signal_heed, heed, Metronome.giveUp_eq, seen]

private theorem seen_heed (p : Pulse μ ω) : p.heed.seen = p.seen := by
  rw [seen, signal_heed, heed, Metronome.giveUp_eq]
  rfl

omit [Metronome μ] in
private theorem seen_eq_observed (h : p.signal.unread = false) : p.seen = p.observed := by
  have hsignal : p.signal.heed = p.signal := by
    generalize p.signal = signal at h
    obtain ⟨_, unread, _⟩ := signal
    obtain rfl : unread = false := h
    rfl
  rw [seen, hsignal, observed]

omit [Metronome μ] in
private theorem seen_withStop {l : ω} {signal : Signal} (h : StopLine.signal l = signal) (p : Pulse μ ω) :
    ({ p with stop := l } : Pulse μ ω).seen = ({ p.observed with stop := signal } : Pulse μ Signal).seen := by
  rw [← h]
  rfl

omit [Metronome μ] in
/-- What pulses have in common that differ only in what they have taken notice of. -/
private theorem common_of_seen_eq (h : p.seen = p'.seen) : p'.finished = p.finished ∧ p'.signal.value = p.signal.value ∧
    p'.signal.connected = p.signal.connected ∧ p'.metronome = p.metronome ∧ p'.elapsed = p.elapsed := by
  obtain ⟨hmetronome, helapsed, hsignal, -, hfinished⟩ := Pulse.mk.inj h
  have hvalue := congrArg Signal.value hsignal
  have hconnected := congrArg Signal.connected hsignal
  exact ⟨hfinished.symm, hvalue.symm, hconnected.symm, hmetronome.symm, helapsed.symm⟩

/-- A pulse that waits and has not stopped has taken notice of all news. -/
private theorem signal_of_wait (hrunning : p.finished = false) (h : p.next = .wait) : p.signal = ⟨false, false, true⟩ :=
  ((next_eq_wait.1 h).resolve_left (Bool.eq_false_iff.1 hrunning)).1

private theorem next_seen_of_wait (h : p.next = .wait) : p.seen.next = .wait := by
  rcases next_eq_wait.1 h with hfinished | ⟨hsignal, -⟩
  · exact next_eq_wait.2 (Or.inl hfinished)
  · rw [seen_eq_observed (by rw [hsignal])]
    exact h

/-! ### Pulses that settle the same way -/

private theorem Settles.seen (h : Settles sweep p x n r) :
    (p.seen.settle sweep x).1.seen = r.1.seen ∧ (p.seen.settle sweep x).2 = r.2 := by
  induction h with
  | wait h =>
    rw [settle_of_wait (next_seen_of_wait h)]
    exact ⟨rfl, rfl⟩
  | @halt p x h =>
    have hhalt : p.seen.next = .halt := by
      obtain ⟨hrunning, hstop⟩ := next_eq_halt.1 h
      exact next_eq_halt.2 ⟨hrunning, hstop.imp_right fun hgone => ⟨hgone.1, rfl, hgone.2.2⟩⟩
    rw [settle_of_halt hhalt]
    exact ⟨rfl, rfl⟩
  | @beat p x n r h _ ih =>
    have hbeat : p.seen.next = .beat := by
      obtain ⟨hrunning, hgo, hdue⟩ := next_eq_beat.1 h
      exact next_eq_beat.2 ⟨hrunning, hgo, hdue⟩
    rw [settle_of_beat hbeat]
    exact ih
  | read _ _ ih =>
    rw [seen_heed] at ih
    exact ih

/-- News makes no difference to where a pulse settles. -/
private theorem settle_seen (sweep : σ → Nat × σ) (p : Pulse μ ω) (x : σ) :
    (p.seen.settle sweep x).1.seen = (p.settle sweep x).1.seen ∧
      (p.seen.settle sweep x).2 = (p.settle sweep x).2 :=
  (p.settles sweep x).seen

private theorem beats_seen (sweep : σ → Nat × σ) (p : Pulse μ ω) (x : σ) : p.seen.beats sweep x = p.beats sweep x :=
  congrArg Prod.snd (settle_seen (counted sweep) p (x, 0)).2

omit [Metronome μ] in
/-- News makes no difference to whether a value is received. -/
private theorem send_seen (value : Bool) (p : Pulse μ ω) :
    (p.seen.send value).1 = (p.send value).1 ∧ (p.seen.send value).2.seen = (p.send value).2.seen := by
  have hconnected : p.seen.signal.connected = p.signal.connected := rfl
  have hfinished : p.seen.finished = p.finished := rfl
  unfold send
  rw [hconnected, hfinished]
  split
  · exact ⟨rfl, rfl⟩
  · split
    · exact ⟨rfl, rfl⟩
    · exact ⟨rfl, (seen_withStop (StopLine.signal_send value p.stop) p).symm⟩

omit [Metronome μ] in
private theorem seen_disconnect (p : Pulse μ ω) : p.seen.disconnect.seen = p.disconnect.seen :=
  (seen_withStop (StopLine.signal_cut p.stop) p).symm

/-- What can become of a pulse that runs until it waits, with so many beats. A beat that is due and news, or a beat and
the loss of the line, come in any order. -/
inductive MaySettle (sweep : σ → Nat × σ) : Pulse μ ω → σ → Nat → Pulse μ ω × σ → Prop where
  | wait {p : Pulse μ ω} {x : σ} (h : p.next = .wait) : MaySettle sweep p x 0 (p, x)
  | halt {p : Pulse μ ω} {x : σ} (hrunning : p.finished = false) (hstop : p.signal.value = true) :
      MaySettle sweep p x 0 (p.halted, x)
  | lost {p : Pulse μ ω} {x : σ} (hrunning : p.finished = false) (hgo : p.signal.value = false)
      (hread : p.signal.unread = false) (hlost : p.signal.connected = false) : MaySettle sweep p x 0 (p.halted, x)
  | beat {p : Pulse μ ω} {x : σ} {n : Nat} {r : Pulse μ ω × σ} (hrunning : p.finished = false)
      (hgo : p.signal.value = false) (hdue : p.deadline ≤ p.elapsed)
      (rest : MaySettle sweep (p.beat (sweep x).1) (sweep x).2 n r) : MaySettle sweep p x (n + 1) r
  | read {p : Pulse μ ω} {x : σ} {n : Nat} {r : Pulse μ ω × σ} (hrunning : p.finished = false)
      (hgo : p.signal.value = false) (hnews : p.signal.unread = true) (rest : MaySettle sweep p.heed x n r) :
      MaySettle sweep p x n r

/-- To let beats come before news is one way to settle. -/
private theorem Settles.may (h : Settles sweep p x n r) : MaySettle sweep p x n r := by
  induction h with
  | wait h => exact .wait h
  | @halt p x h =>
    obtain ⟨hrunning, hstop⟩ := next_eq_halt.1 h
    cases hvalue : p.signal.value with
    | true => exact .halt hrunning hvalue
    | false =>
      obtain ⟨-, hread, hlost⟩ := hstop.resolve_left (Bool.eq_false_iff.1 hvalue)
      exact .lost hrunning hvalue hread hlost
  | beat h _ ih =>
    obtain ⟨hrunning, hgo, hdue⟩ := next_eq_beat.1 h
    exact .beat hrunning hgo hdue ih
  | read h _ ih =>
    obtain ⟨hrunning, hgo, -, hnews⟩ := next_eq_read.1 h
    exact .read hrunning hgo hnews ih

namespace MaySettle

/-- A pulse may take notice of news before anything else. -/
private theorem exists_heeded (sweep : σ → Nat × σ) (hrunning : p.finished = false) (hgo : p.signal.value = false) :
    ∃ q : Pulse μ ω, q.observed = p.seen ∧ ∀ {x n r}, MaySettle sweep q x n r → MaySettle sweep p x n r := by
  cases hnews : p.signal.unread with
  | true => exact ⟨p.heed, observed_heed p, fun h => .read hrunning hgo hnews h⟩
  | false => exact ⟨p, (seen_eq_observed hnews).symm, id⟩

/-- News makes no difference to what can become of a pulse. -/
private theorem of_seen_eq (h : MaySettle sweep p x n r) (heq : p.seen = p'.seen) :
    ∃ q : Pulse μ ω', MaySettle sweep p' x n (q, r.2) ∧ q.seen = r.1.seen := by
  induction h generalizing p' with
  | @wait p x h =>
    obtain ⟨hfinished, hvalue, -⟩ := common_of_seen_eq heq
    cases hrunning : p.finished with
    | true => exact ⟨p', .wait (next_eq_wait.2 (Or.inl (hfinished.trans hrunning))), heq.symm⟩
    | false =>
      have hsignal := signal_of_wait hrunning h
      have hgo : p'.signal.value = false := hvalue.trans (by rw [hsignal])
      obtain ⟨q, hq, hmay⟩ := exists_heeded sweep (hfinished.trans hrunning) hgo
      have hobserved : q.observed = p.observed := by
        rw [hq, ← heq, seen_eq_observed (by rw [hsignal])]
      have hwait : q.next = .wait := (congrArg Pulse.next hobserved).trans h
      exact ⟨q, hmay (.wait hwait), congrArg Pulse.seen hobserved⟩
  | @halt p x hrunning hstop =>
    obtain ⟨hfinished, hvalue, -⟩ := common_of_seen_eq heq
    exact ⟨p'.halted, .halt (hfinished.trans hrunning) (hvalue.trans hstop), (congrArg halted heq).symm⟩
  | @lost p x hrunning hgo hread hlost =>
    obtain ⟨hfinished, hvalue, hconnected, -⟩ := common_of_seen_eq heq
    obtain ⟨q, hq, hmay⟩ := exists_heeded sweep (hfinished.trans hrunning) (hvalue.trans hgo)
    have hobserved : q.observed = p.observed := by
      rw [hq, ← heq, seen_eq_observed hread]
    have hsignal : q.signal = p.signal := congrArg Pulse.signal hobserved
    refine ⟨q.halted, hmay (.lost ((congrArg Pulse.finished hobserved).trans hrunning) ?_ ?_ ?_),
      congrArg (fun q => q.halted.seen) hobserved⟩ <;> rwa [hsignal]
  | @beat p x n r hrunning hgo hdue _ ih =>
    obtain ⟨hfinished, hvalue, -, hmetronome, helapsed⟩ := common_of_seen_eq heq
    have hbeat : (p.beat (sweep x).1).seen = (p'.beat (sweep x).1).seen := congrArg (Pulse.beat (sweep x).1) heq
    obtain ⟨q, hsettle, hq⟩ := ih hbeat
    have hdue' : p'.deadline ≤ p'.elapsed := by
      rw [helapsed, deadline, hmetronome]
      exact hdue
    exact ⟨q, .beat (hfinished.trans hrunning) (hvalue.trans hgo) hdue' hsettle, hq⟩
  | read _ _ _ _ ih =>
    rw [seen_heed] at ih
    exact ih heq

end MaySettle

end Pulse

namespace Ticker

/-! ### What can be noticed of a run -/

/-- What a step answers. -/
inductive Reply where
  | silent
  | sent (received : Option Bool)
  | called (answer : Answer)

/-- A ticker with all that can be told of it. -/
def observed (t : Ticker μ ω ε σ) : Ticker μ Signal ε σ := ⟨t.pulse.observed, t.agenda, t.lines⟩

/-- A ticker as others see it: they cannot tell whether it has taken notice of the last value. -/
def seen (t : Ticker μ ω ε σ) : Ticker μ Signal ε σ := ⟨t.pulse.seen, t.agenda, t.lines⟩

/-- All that can be noticed of a step. -/
structure View (μ ε σ : Type) where
  reply : Reply
  /-- What the step does to the agenda, the beats of the ticker included. -/
  acts : List (Act ε)
  after : Ticker μ Signal ε σ

/-- The ticker when its pulse has settled. -/
def settled (t : Ticker μ ω ε σ) (r : Pulse μ ω × Agenda ε σ) : Ticker μ ω ε σ :=
  ⟨r.1, r.2, if r.1.finished ∧ ¬ t.pulse.finished then t.lines ++ [r.1.stopLine] else t.lines⟩

variable (s : Setting ε σ)

def Step.reply : Step ε → Ticker μ ω ε σ → Reply
  | .send value, t => .sent (t.send value).1
  | .call c, t => .called (c.perform s t.agenda).1
  | _, _ => .silent

def Step.view (step : Step ε) (t : Ticker μ ω ε σ) : View μ ε σ :=
  ⟨step.reply s t, step.acts s t, (step.take s t).seen⟩

/-- What can be noticed of steps, one after the other. -/
def account : List (Step ε) → Ticker μ ω ε σ → List (View μ ε σ)
  | [], _ => []
  | step :: steps, t => step.view s t :: account steps (step.take s t)

/-- A step can lead from one ticker to another, with such acts. -/
inductive Leads (step : Step ε) (t : Ticker μ ω ε σ) : List (Act ε) → Ticker μ ω ε σ → Prop where
  | settle {n : Nat} {r : Pulse μ ω × Agenda ε σ} (hstep : step = .settle)
      (h : t.pulse.MaySettle (Agenda.sweepNow s) t.agenda n r) : Leads step t (List.replicate n .beat) (t.settled r)
  | take (hstep : step ≠ .settle) : Leads step t (step.acts s t) (step.take s t)

/-- Steps can lead from one ticker to another, and this is noticed of them. -/
inductive Course : Ticker μ ω ε σ → List (Step ε) → List (View μ ε σ) → Ticker μ ω ε σ → Prop where
  | nil (t : Ticker μ ω ε σ) : Course t [] [] t
  | cons {t t' u : Ticker μ ω ε σ} {step : Step ε} {steps : List (Step ε)} {acts : List (Act ε)}
      {views : List (View μ ε σ)} (h : Leads s step t acts t') (rest : Course t' steps views u) :
      Course t (step :: steps) (⟨step.reply s t, acts, t'.seen⟩ :: views) u

/-- This can be noticed of steps. -/
def MayShow (steps : List (Step ε)) (views : List (View μ ε σ)) (t : Ticker μ ω ε σ) : Prop :=
  ∃ u, Course s t steps views u

variable {s} {t t' u : Ticker μ ω ε σ} {step : Step ε} {steps : List (Step ε)} {acts : List (Act ε)}
  {views : List (View μ ε σ)}

private theorem account_append (earlier later : List (Step ε)) (t : Ticker μ ω ε σ) :
    t.account s (earlier ++ later) = t.account s earlier ++ (t.play s earlier).account s later := by
  induction earlier generalizing t with
  | nil => rfl
  | cons step earlier ih => exact congrArg (step.view s t :: ·) (ih (step.take s t))

private theorem play_append (earlier later : List (Step ε)) (t : Ticker μ ω ε σ) :
    t.play s (earlier ++ later) = (t.play s earlier).play s later := List.foldl_append

/-- What a step does is what it can do. -/
private theorem leads_take (step : Step ε) (t : Ticker μ ω ε σ) : Leads s step t (step.acts s t) (step.take s t) := by
  by_cases hstep : step = .settle
  · subst hstep
    exact .settle rfl t.settles.may
  · exact .take hstep

/-- What steps do is what they can do. -/
private theorem course_play (steps : List (Step ε)) (t : Ticker μ ω ε σ) :
    Course s t steps (t.account s steps) (t.play s steps) := by
  induction steps generalizing t with
  | nil => exact .nil t
  | cons step steps ih => exact .cons (leads_take step t) (ih (step.take s t))

/-! ### Tickers that cannot be told apart -/

omit [Metronome μ] in
private theorem reply_seen (step : Step ε) (t : Ticker μ ω ε σ) : step.reply s t.seen = step.reply s t := by
  cases step with
  | send value => exact congrArg Reply.sent (Pulse.send_seen value t.pulse).1
  | _ => rfl

private theorem acts_seen (step : Step ε) (t : Ticker μ ω ε σ) : step.acts s t.seen = step.acts s t := by
  cases step with
  | settle => exact congrArg (List.replicate · _) (Pulse.beats_seen (Agenda.sweepNow s) t.pulse t.agenda)
  | _ => rfl

private theorem take_seen (step : Step ε) (t : Ticker μ ω ε σ) : (step.take s t.seen).seen = (step.take s t).seen := by
  cases step with
  | send value =>
    exact congrArg (fun pulse => (⟨pulse, t.agenda, t.lines⟩ : Ticker μ Signal ε σ)) (Pulse.send_seen value t.pulse).2
  | disconnect =>
    exact congrArg (fun pulse => (⟨pulse, t.agenda, t.lines⟩ : Ticker μ Signal ε σ)) (Pulse.seen_disconnect t.pulse)
  | settle =>
    obtain ⟨hpulse, hagenda⟩ := Pulse.settle_seen (Agenda.sweepNow s) t.pulse t.agenda
    exact congrArg t.seen.settled (Prod.ext (x := (_, _)) (y := (_, _)) hpulse hagenda)
  | _ => rfl

/-- Nothing can be noticed of what a ticker has taken notice of. -/
theorem view_seen (step : Step ε) (t : Ticker μ ω ε σ) : step.view s t.seen = step.view s t := by
  unfold Step.view
  rw [reply_seen, acts_seen, take_seen]

/-- So tickers that look the same go on to look the same. -/
private theorem account_of_seen_eq {t : Ticker μ ω ε σ} {t' : Ticker μ ω' ε σ} (h : t.seen = t'.seen)
    (steps : List (Step ε)) :
    t.account s steps = t'.account s steps ∧ (t.play s steps).seen = (t'.play s steps).seen := by
  induction steps generalizing t t' with
  | nil => exact ⟨rfl, h⟩
  | cons step steps ih =>
    have hview : step.view s t = step.view s t' := by rw [← view_seen, h, view_seen]
    have htake : (step.take s t).seen = (step.take s t').seen := by rw [← take_seen, h, take_seen]
    obtain ⟨haccount, hplay⟩ := ih htake
    rw [account, account, hview, haccount]
    exact ⟨rfl, hplay⟩

/-- What a step can do does not depend on what the ticker has taken notice of. -/
private theorem Leads.of_seen_eq (h : Leads s step t acts u) {t' : Ticker μ ω' ε σ} (heq : t.seen = t'.seen) :
    ∃ u' : Ticker μ ω' ε σ, Leads s step t' acts u' ∧ u'.seen = u.seen := by
  cases h with
  | @settle n r hstep h =>
    obtain ⟨hpulse, hagenda, -⟩ := Ticker.mk.inj heq
    obtain ⟨q, hsettle, hq⟩ := h.of_seen_eq hpulse
    rw [hagenda] at hsettle
    refine ⟨t'.settled (q, r.2), .settle hstep hsettle, ?_⟩
    show t'.seen.settled (q.seen, r.2) = t.seen.settled (r.1.seen, r.2)
    rw [hq, heq]
  | take hstep =>
    refine ⟨step.take s t', ?_, ?_⟩
    · rw [← acts_seen, heq, acts_seen]
      exact .take hstep
    · rw [← take_seen, ← heq, take_seen]

theorem Course.of_seen_eq (h : Course s t steps views u) {t' : Ticker μ ω' ε σ} (heq : t.seen = t'.seen) :
    ∃ u' : Ticker μ ω' ε σ, Course s t' steps views u' ∧ u'.seen = u.seen := by
  induction h generalizing t' with
  | nil t => exact ⟨t', .nil t', heq.symm⟩
  | @cons t v u step steps acts views h _ ih =>
    obtain ⟨v', hleads, hseen⟩ := h.of_seen_eq heq
    have hreply : step.reply s t = step.reply s t' := by rw [← reply_seen, heq, reply_seen]
    obtain ⟨u', hcourse, hu⟩ := ih hseen.symm
    rw [hreply, ← hseen]
    exact ⟨u', .cons hleads hcourse, hu⟩

/-! ### The value that changes nothing -/

/-- The ticker runs, and waits for its next beat or for news. -/
def Waits (t : Ticker μ ω ε σ) : Prop := t.pulse.finished = false ∧ t.pulse.next = .wait

instance : Decidable t.Waits := inferInstanceAs (Decidable (_ ∧ _))

/-- The value `false` is received, nothing is done, and the ticker looks as before. -/
def unmoved (t : Ticker μ ω ε σ) : View μ ε σ := ⟨.sent (some true), [], t.observed⟩

private theorem Waits.seen (h : t.Waits) : t.seen = t.observed := by
  have hread : t.pulse.signal.unread = false := by rw [Pulse.signal_of_wait h.1 h.2]
  rw [Ticker.seen, Pulse.seen_eq_observed hread, observed]

/-- The value is received, and the ticker has news. -/
private theorem Waits.send (h : t.Waits) : (t.send false).1 = some true ∧ (t.send false).2.seen = t.observed ∧
    (t.send false).2.pulse.next = .read := by
  obtain ⟨hrunning, hwait⟩ := h
  have hsignal := Pulse.signal_of_wait hrunning hwait
  have hearly := ((Pulse.next_eq_wait.1 hwait).resolve_left (Bool.eq_false_iff.1 hrunning)).2
  have hsend : t.send false =
      (some true, { t with pulse := { t.pulse with stop := StopLine.send false t.pulse.stop } }) := by
    simp [Ticker.send, Pulse.send, hsignal, hrunning]
  have hsent : StopLine.signal (StopLine.send false t.pulse.stop) = ⟨false, true, true⟩ := by
    rw [StopLine.signal_send]
    exact congrArg (Signal.send false) hsignal
  have hpulse : ({ t.pulse with stop := StopLine.send false t.pulse.stop } : Pulse μ ω).seen = t.pulse.observed := by
    rw [Pulse.seen_withStop hsent, Pulse.observed, hsignal]
    rfl
  rw [hsend]
  exact ⟨rfl, congrArg (fun pulse => (⟨pulse, t.agenda, t.lines⟩ : Ticker μ Signal ε σ)) hpulse,
    Pulse.next_eq_read.2 ⟨hrunning, congrArg Signal.value hsent, hearly, congrArg Signal.unread hsent⟩⟩

/-- It takes notice of it, and waits as before. -/
private theorem Waits.wakes (h : t.Waits) :
    ((t.send false).2.settle s).observed = t.observed ∧ Step.settle.acts s (t.send false).2 = [] := by
  obtain ⟨-, hseen, hnews⟩ := h.send
  obtain ⟨hpulse, hagenda, hlines⟩ := Ticker.mk.inj hseen
  have hheeded : (t.send false).2.pulse.heed.observed = t.pulse.observed :=
    (Pulse.observed_heed (t.send false).2.pulse).trans hpulse
  have hwait : (t.send false).2.pulse.heed.next = .wait := (congrArg Pulse.next hheeded).trans h.2
  have hsettle {τ : Type} (sweep : τ → Nat × τ) (x : τ) :
      (t.send false).2.pulse.settle sweep x = ((t.send false).2.pulse.heed, x) := by
    rw [Pulse.settle_of_read hnews, Pulse.settle_of_wait hwait]
  constructor
  · have hsettled : (t.send false).2.settle s = (t.send false).2.settled ((t.send false).2.pulse.heed, t.agenda) :=
      congrArg (t.send false).2.settled (hsettle (Agenda.sweepNow s) t.agenda)
    have hrunning : ¬ (t.send false).2.pulse.heed.finished = true :=
      Bool.eq_false_iff.1 ((congrArg Pulse.finished hheeded).trans h.1)
    rw [hsettled, settled, if_neg fun hstopped => hrunning hstopped.1, observed, hheeded]
    rfl
  · rw [Step.acts, Pulse.beats, hsettle]
    rfl

private theorem Waits.view_send (h : t.Waits) : Step.view s (.send false) t = t.unmoved := by
  obtain ⟨hreceived, hseen, -⟩ := h.send
  show (⟨.sent (t.send false).1, [], (t.send false).2.seen⟩ : View μ ε σ) = _
  rw [hreceived, hseen]
  rfl

/-- What comes of the steps after the value is what comes of them without it. -/
private theorem Waits.account_send (h : t.Waits) (later : List (Step ε)) :
    t.account s (.send false :: later) = t.unmoved :: t.account s later ∧
      (t.play s (.send false :: later)).seen = (t.play s later).seen := by
  have hseen : (Step.take s (.send false) t).seen = t.seen := h.send.2.1.trans h.seen.symm
  obtain ⟨haccount, hplay⟩ := account_of_seen_eq (s := s) hseen later
  rw [account, h.view_send, haccount]
  exact ⟨rfl, hplay⟩

/-- What can come of the steps after the value is what can come of them without it. -/
private theorem Waits.mayShow_send (h : t.Waits) (later : List (Step ε)) (views : List (View μ ε σ)) :
    t.MayShow s (.send false :: later) views ↔ ∃ rest, views = t.unmoved :: rest ∧ t.MayShow s later rest := by
  have hseen : (Step.take s (.send false) t).seen = t.seen := h.send.2.1.trans h.seen.symm
  constructor
  · rintro ⟨u, hcourse⟩
    cases hcourse with
    | @cons _ _ _ _ _ _ rest hleads hrest =>
      cases hleads with
      | settle hstep => cases hstep
      | take =>
        obtain ⟨u', hcourse, -⟩ := hrest.of_seen_eq hseen
        exact ⟨rest, congrArg (· :: rest) h.view_send, u', hcourse⟩
  · rintro ⟨rest, rfl, u, hcourse⟩
    obtain ⟨u', hcourse', -⟩ := hcourse.of_seen_eq hseen.symm
    rw [← h.view_send (s := s)]
    exact ⟨u', .cons (.take nofun) hcourse'⟩

/-- **To tell a ticker to go on changes nothing.** Let a ticker with any interval be started on any agenda, whatever its
metronome and its stop line are made of, and any steps be taken; and let the value `false` be sent at a point where the
ticker runs and waits. The value is received, and does nothing: a ticker that runs at once has no beat and is the same
as before. All that can be noticed of the other steps is the same as without it: what they answer, the beats they come
with, and the ticker and its agenda after each of them and at the end, with the pending alarms, the history of those
that went off and the total. If it is open what comes first when a beat and news are at hand at once, then what can be
noticed of the steps that follow is the same, too, at every point where the ticker waits that can be reached. -/
theorem send_false_changes_nothing (μ ω : Type) [Metronome μ] [StopLine ω] (s : Setting ε σ) (interval : Nat)
    (stopped : Bool) (a : Agenda ε σ) (earlier later : List (Step ε)) :
    let started : Ticker μ ω ε σ := .start interval stopped a
    let t := started.play s earlier
    let before := started.account s earlier
    let after := t.account s later
    (t.Waits →
        started.account s (earlier ++ later) = before ++ after ∧
          started.account s (earlier ++ .send false :: later) = before ++ t.unmoved :: after ∧
          (started.play s (earlier ++ .send false :: later)).seen = (started.play s (earlier ++ later)).seen ∧
          ((t.send false).2.settle s).observed = t.observed ∧ Step.settle.acts s (t.send false).2 = []) ∧
      Course s started earlier before t ∧
      ∀ views t, Course s started earlier views t → t.Waits →
        ∀ views', t.MayShow s (.send false :: later) views' ↔
          ∃ rest, views' = t.unmoved :: rest ∧ t.MayShow s later rest := by
  intro started t before after
  refine ⟨?_, course_play earlier started, ?_⟩
  · intro hwaits
    obtain ⟨haccount, hplay⟩ := hwaits.account_send (s := s) later
    refine ⟨account_append earlier later started, ?_, ?_, hwaits.wakes⟩
    · rw [account_append, haccount]
    · rw [play_append, play_append]
      exact hplay
  · intro views t hcourse hwaits
    exact hwaits.mayShow_send later

/-- An alarm is armed, the ticker waits for its second beat, and is told to go on before the alarm is due. -/
theorem send_false_before_a_beat :
    let s : Setting Unit Unit := .inOrder fun _ _ x => x
    let steps : List (Step Unit) := [.call (.armAt ⟨"a"⟩ 50 .done), .settle, .advance 30]
    let later : List (Step Unit) := [.call (.moveClock ⟨some 60, none⟩), .advance 70, .settle]
    let started : Ticker Delaying Signal Unit Unit := .start 100 false (.opened 0 ())
    (started.play s steps).Waits ∧
      (started.play s (steps ++ .send false :: later)).seen = (started.play s (steps ++ later)).seen ∧
      (started.play s (steps ++ later)).pulse.fired = 1 := by
  intro s steps later started
  have hwaits : (started.play s steps).Waits := by decide +kernel
  obtain ⟨-, -, hplay, -⟩ :=
    (send_false_changes_nothing Delaying Signal s 100 false (.opened 0 ()) steps later).1 hwaits
  exact ⟨hwaits, hplay, by decide +kernel⟩

end Ticker

end Coordination.Alarm
