import Coordination.Json.Format
import Coordination.Time

/-!
# Settings

What a host can set: the time that processes may take, the time budget of sagas, and how often alarms are looked
at. Every setting may be left out of the JSON form.
-/

namespace Coordination

open Json Json.Reader

structure ProcessSettings where
  allowance : Option UInt64
  deriving DecidableEq, Repr

structure SagaSettings where
  budget : Option UInt64
  deriving DecidableEq, Repr

structure AlarmSettings where
  interval : UInt64
  deriving DecidableEq, Repr

structure Settings where
  process : ProcessSettings
  saga : SagaSettings
  alarm : AlarmSettings
  deriving DecidableEq, Repr

namespace ProcessSettings

def standard : ProcessSettings := ⟨none⟩

def allowanceSpan (s : ProcessSettings) : Option Span := s.allowance.map fun n => .ofMillis n.toNat

def form : Form ProcessSettings :=
  ⟨"ProcessConfig", standard, [.optional "default_timeout_millis" .defaulted word64 fun n _ => ⟨n⟩]⟩

def toJson (s : ProcessSettings) : Json := .obj [("default_timeout_millis", ofWord? s.allowance)]

end ProcessSettings

namespace SagaSettings

def standard : SagaSettings := ⟨none⟩

def budgetSpan (s : SagaSettings) : Option Span := s.budget.map fun n => .ofMillis n.toNat

def form : Form SagaSettings :=
  ⟨"SagaConfig", standard, [.optional "timeout_millis" .defaulted word64 fun n _ => ⟨n⟩]⟩

def toJson (s : SagaSettings) : Json := .obj [("timeout_millis", ofWord? s.budget)]

end SagaSettings

namespace AlarmSettings

def standard : AlarmSettings := ⟨1000⟩

/-- The interval between two beats; zero counts as one millisecond. -/
def intervalSpan (s : AlarmSettings) : Span := .ofMillis (max s.interval.toNat 1)

def form : Form AlarmSettings :=
  ⟨"SchedulerConfig", standard, [.defaulted "tick_interval_millis" (fun _ => word64) fun n _ => ⟨n⟩]⟩

def toJson (s : AlarmSettings) : Json := .obj [("tick_interval_millis", ofWord s.interval)]

end AlarmSettings

namespace Settings

def standard : Settings := ⟨.standard, .standard, .standard⟩

def form : Form Settings where
  title := "OrchestrationConfig"
  blank := standard
  fields :=
    [.defaulted "process" ProcessSettings.form.read fun process s => { s with process },
     .defaulted "saga" SagaSettings.form.read fun saga s => { s with saga },
     .defaulted "scheduler" AlarmSettings.form.read fun alarm s => { s with alarm }]

def toJson (s : Settings) : Json :=
  .obj [("process", s.process.toJson), ("saga", s.saga.toJson), ("scheduler", s.alarm.toJson)]

end Settings

end Coordination
