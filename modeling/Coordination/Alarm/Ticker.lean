import Coordination.Alarm.Pulse

/-!
# Tickers

A ticker is a pulse with the agenda that it sweeps, each time at the present reading of the manual clock. When it
stops it writes down how many alarms it has set off; those set off by other sweeps are not counted.
-/

namespace Coordination.Alarm

structure Ticker (μ ω ε σ : Type) where
  pulse : Pulse μ ω
  agenda : Agenda ε σ
  lines : List LogLine

namespace Ticker

variable {μ ω ε σ : Type} [Metronome μ] [StopLine ω]

def start (interval : Nat) (stopped : Bool) (agenda : Agenda ε σ) : Ticker μ ω ε σ :=
  ⟨.start interval stopped, agenda, []⟩

/-- Runs the ticker until it waits. -/
def settle (s : Setting ε σ) (t : Ticker μ ω ε σ) : Ticker μ ω ε σ :=
  let (pulse, agenda) := t.pulse.settle (fun a => a.sweepNow s) t.agenda
  ⟨pulse, agenda, if pulse.finished ∧ ¬ t.pulse.finished then t.lines ++ [pulse.stopLine] else t.lines⟩

def advance (millis : Nat) (t : Ticker μ ω ε σ) : Ticker μ ω ε σ := { t with pulse := t.pulse.advance millis }

def send (value : Bool) (t : Ticker μ ω ε σ) : Option Bool × Ticker μ ω ε σ :=
  let (received, pulse) := t.pulse.send value
  (received, { t with pulse })

def disconnect (t : Ticker μ ω ε σ) : Ticker μ ω ε σ := { t with pulse := t.pulse.disconnect }

end Ticker

end Coordination.Alarm
