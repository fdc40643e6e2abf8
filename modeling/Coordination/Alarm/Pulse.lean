import Coordination.Alarm.Sweep

/-!
# The pulse

A pulse sweeps an agenda at regular intervals of stop-watch time, in milliseconds, until it reads a stop signal or
learns that nobody can send one any more. What it is built on may be anything that keeps a few laws: a `Metronome`,
which says when the next beat is due, and a `StopLine`, on which it is told to stop.

The first beat is due at once. With the metronome `Delaying`, a beat that comes more than five milliseconds late moves
the next one to a full interval after the late one; else the beats keep their rhythm.

`Pulse.settle` runs the pulse until it has to wait.
-/

namespace Coordination.Alarm

/-! ### Metronomes -/

/-- What says when the next beat is due. -/
class Metronome (μ : Type) where
  start (interval : Nat) (h : 0 < interval) : μ
  /-- When the next beat is due. -/
  deadline : μ → Nat
  /-- The metronome after a beat that came at `now`. -/
  beat (now : Nat) : μ → μ
  /-- The metronome when the wait for the next beat is given up. -/
  giveUp : μ → μ
  deadline_start (interval : Nat) (h : 0 < interval) : deadline (start interval h) = 0
  /-- After a beat, the next one is due later. -/
  deadline_lt_beat (now : Nat) (m : μ) : deadline m ≤ now → deadline m < deadline (beat now m)
  /-- To give up the wait for a beat takes nothing from the metronome. -/
  giveUp_eq (m : μ) : giveUp m = m

/-- A metronome that puts the next beat off if a beat is late. -/
structure Delaying where
  interval : Nat
  interval_pos : 0 < interval
  deadline : Nat
  deriving DecidableEq, Repr

namespace Delaying

/-- How late a beat may be without moving the rhythm. -/
def slack : Nat := 5

/-- When the beat is due after the one that is due and comes at `now`. -/
def nextDeadline (now : Nat) (m : Delaying) : Nat :=
  if now > m.deadline + slack then now + m.interval else m.deadline + m.interval

private theorem deadline_lt_nextDeadline {now : Nat} {m : Delaying} (h : m.deadline ≤ now) :
    m.deadline < m.nextDeadline now := by
  have hinterval := m.interval_pos
  unfold nextDeadline
  split <;> omega

instance : Metronome Delaying where
  start interval h := ⟨interval, h, 0⟩
  deadline := deadline
  beat now m := { m with deadline := m.nextDeadline now }
  giveUp m := m
  deadline_start _ _ := rfl
  deadline_lt_beat _ _ := deadline_lt_nextDeadline
  giveUp_eq _ := rfl

end Delaying

/-! ### Stop lines -/

/-- What can be told of a stop line. -/
structure Signal where
  /-- The last value sent. -/
  value : Bool
  /-- A value was sent that the pulse has not taken notice of. -/
  unread : Bool
  /-- Somebody can still send. -/
  connected : Bool
  deriving DecidableEq, Repr

namespace Signal

/-- A line that starts with `value`; this is no news. -/
def opened (value : Bool) : Signal := ⟨value, false, true⟩

def send (value : Bool) (x : Signal) : Signal := { x with value, unread := true }

def heed (x : Signal) : Signal := { x with unread := false }

def cut (x : Signal) : Signal := { x with connected := false }

end Signal

/-- A line on which a pulse is told to stop: what is done to it can be told of it, and nothing else. -/
class StopLine (ω : Type) where
  signal : ω → Signal
  opened (value : Bool) : ω
  send (value : Bool) : ω → ω
  /-- The pulse takes notice of the last value. -/
  heed : ω → ω
  /-- Nobody can send any more. -/
  cut : ω → ω
  signal_opened (value : Bool) : signal (opened value) = .opened value
  signal_send (value : Bool) (l : ω) : signal (send value l) = (signal l).send value
  signal_heed (l : ω) : signal (heed l) = (signal l).heed
  signal_cut (l : ω) : signal (cut l) = (signal l).cut

/-- A line that is no more than what can be told of it. -/
instance : StopLine Signal where
  signal := id
  opened := .opened
  send := .send
  heed := .heed
  cut := .cut
  signal_opened _ := rfl
  signal_send _ _ := rfl
  signal_heed _ := rfl
  signal_cut _ := rfl

/-! ### Pulses -/

structure Pulse (μ ω : Type) where
  metronome : μ
  /-- The reading of the stop watch. -/
  elapsed : Nat
  stop : ω
  /-- How many alarms the beats set off. -/
  fired : Nat
  finished : Bool
  deriving DecidableEq, Repr

namespace Pulse

variable {μ ω : Type} [Metronome μ] [StopLine ω]

/-- A pulse whose stop line starts with `value`; an interval of zero counts as one millisecond. -/
def start (interval : Nat) (value : Bool) : Pulse μ ω where
  metronome := Metronome.start (max interval 1) (Nat.le_max_right ..)
  elapsed := 0
  stop := StopLine.opened value
  fired := 0
  finished := false

/-- When the next beat is due. -/
def deadline (p : Pulse μ ω) : Nat := Metronome.deadline p.metronome

def signal (p : Pulse μ ω) : Signal := StopLine.signal p.stop

/-- The line written when a pulse stops. -/
def stopLine (p : Pulse μ ω) : LogLine := ⟨.debug, "Timeout ticker stopped", [("fired", toString p.fired)]⟩

/-- What a pulse does next. -/
inductive Move where
  | halt
  | beat
  | read
  | wait
  deriving DecidableEq, Repr

/-- A pulse halts as soon as it reads a stop signal; a beat that is due comes before news on the stop line. -/
def next (p : Pulse μ ω) : Move :=
  if p.finished then .wait
  else if p.signal.value then .halt
  else if p.deadline ≤ p.elapsed then .beat
  else if p.signal.unread then .read
  else if p.signal.connected then .wait
  else .halt

/-- The pulse when it has stopped. -/
def halted (p : Pulse μ ω) : Pulse μ ω := { p with finished := true }

/-- The pulse after a beat that set off `count` alarms. -/
def beat (count : Nat) (p : Pulse μ ω) : Pulse μ ω :=
  { p with metronome := Metronome.beat p.elapsed p.metronome, fired := p.fired + count }

/-- The pulse after news on the stop line, for which it gives up the wait for the next beat. -/
def heed (p : Pulse μ ω) : Pulse μ ω :=
  { p with metronome := Metronome.giveUp p.metronome, stop := StopLine.heed p.stop }

theorem next_eq_beat {p : Pulse μ ω} :
    p.next = .beat ↔ p.finished = false ∧ p.signal.value = false ∧ p.deadline ≤ p.elapsed := by
  grind [next]

theorem next_eq_read {p : Pulse μ ω} : p.next = .read ↔
    p.finished = false ∧ p.signal.value = false ∧ p.elapsed < p.deadline ∧ p.signal.unread = true := by
  grind [next]

omit [StopLine ω] in
private theorem deadline_lt_beat {p : Pulse μ ω} (h : p.deadline ≤ p.elapsed) (count : Nat) :
    p.deadline < (p.beat count).deadline := Metronome.deadline_lt_beat p.elapsed p.metronome h

theorem deadline_heed (p : Pulse μ ω) : p.heed.deadline = p.deadline :=
  congrArg Metronome.deadline (Metronome.giveUp_eq p.metronome)

theorem signal_heed (p : Pulse μ ω) : p.heed.signal = p.signal.heed := StopLine.signal_heed p.stop

/-- Runs the pulse until it waits; `sweep` is what a beat does to the state, and counts the alarms it set off. -/
def settle {σ : Type} (sweep : σ → Nat × σ) (p : Pulse μ ω) (s : σ) : Pulse μ ω × σ :=
  match _h : p.next with
  | .wait => (p, s)
  | .halt => (p.halted, s)
  | .beat =>
    let (count, s) := sweep s
    settle sweep (p.beat count) s
  | .read => settle sweep p.heed s
termination_by (p.elapsed + 1 - p.deadline) + p.signal.unread.toNat
decreasing_by
  -- a beat moves the deadline on, and news is read once
  · have hdue := (next_eq_beat.1 _h).2.2
    have hlater := deadline_lt_beat hdue count
    show (p.elapsed + 1 - (p.beat count).deadline) + p.signal.unread.toNat < _
    omega
  · obtain ⟨-, -, -, hnews⟩ := next_eq_read.1 _h
    rw [deadline_heed, signal_heed, hnews]
    exact Nat.lt_succ_self _

/-- Stop-watch time passes. -/
def advance (by_ : Nat) (p : Pulse μ ω) : Pulse μ ω := { p with elapsed := p.elapsed + by_ }

/-- Sends a value on the stop line; tells whether anybody received it, and nothing if nobody can send. -/
def send (value : Bool) (p : Pulse μ ω) : Option Bool × Pulse μ ω :=
  if ¬ p.signal.connected then (none, p)
  else if p.finished then (some false, p)
  else (some true, { p with stop := StopLine.send value p.stop })

/-- Nobody can send any more. -/
def disconnect (p : Pulse μ ω) : Pulse μ ω := { p with stop := StopLine.cut p.stop }

end Pulse

end Coordination.Alarm
