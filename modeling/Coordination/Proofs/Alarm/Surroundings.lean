import Coordination.Proofs.Alarm.Fates

/-!
# The surroundings of an agenda

Tasks reach the surroundings by actions only. What every action keeps is kept by whole sweeps, in whatever order the
alarms go off and however deep sweeps are nested (`Setting.Keeps.sweep`), and by every call on the agenda
(`Setting.Keeps.perform`).
-/

namespace Coordination.Alarm

variable {ε σ : Type} {s : Setting ε σ} {P : σ → Prop}

/-- Every action keeps the property `P` of the surroundings. -/
def Setting.Keeps (s : Setting ε σ) (P : σ → Prop) : Prop := ∀ e now o, P o → P (s.act e now o)

namespace Setting.Keeps

variable {nested : Millis → Agenda ε σ → Nat × Agenda ε σ}

private theorem run (h : s.Keeps P) (hnested : ∀ now (a : Agenda ε σ), P a.outside → P (nested now a).2.outside)
    (owner : ProcessId) (task : Task ε) (a : Agenda ε σ) (ha : P a.outside) :
    P (task.run s nested owner a).outside := by
  induction task generalizing a with
  | done => exact ha
  | collapse => exact ha
  | ring rest ih => exact ih _ ha
  | armAt id fireAt task rest _ ih => exact ih _ ((a.outside_armAt id fireAt task).symm ▸ ha)
  | armAfter id delay task rest _ ih => exact ih _ ((a.outside_armAt id _ task).symm ▸ ha)
  | disarm id rest ih => exact ih _ ((a.outside_remove id .disarmed).symm ▸ ha)
  | query id rest ih => exact ih _ ha
  | sweep now rest ih => exact ih _ (hnested now a ha)
  | sweepNow rest ih => exact ih _ (hnested a.clock a ha)
  | moveClock m rest ih => exact ih _ ha
  | outside e rest ih => exact ih _ (h e a.clock a.outside ha)

theorem goOff_all (h : s.Keeps P) (hnested : ∀ now (a : Agenda ε σ), P a.outside → P (nested now a).2.outside)
    (now : Millis) (due : List (Armed ε)) (a : Agenda ε σ) (ha : P a.outside) :
    P (due.foldl (Agenda.goOff s nested now) a).outside := by
  induction due generalizing a with
  | nil => exact ha
  | cons p due ih => exact ih _ (h.run hnested p.owner p.task _ ha)

private theorem sweepWithin (h : s.Keeps P) (depth : Nat) (now : Millis) (a : Agenda ε σ) (ha : P a.outside) :
    P (a.sweepWithin s depth now).2.outside := by
  induction depth generalizing now a with
  | zero => exact ha
  | succ depth ih => exact h.goOff_all ih now _ _ ha

theorem sweep (h : s.Keeps P) (now : Millis) (a : Agenda ε σ) (ha : P a.outside) : P (a.sweep s now).2.outside :=
  h.sweepWithin _ now a ha

theorem perform (h : s.Keeps P) (c : Call ε) (a : Agenda ε σ) (ha : P a.outside) : P (c.perform s a).2.outside := by
  cases c with
  | armAt id fireAt task => exact (a.outside_armAt id fireAt task).symm ▸ ha
  | armAfter id delay task => exact (a.outside_armAt id _ task).symm ▸ ha
  | disarm id => exact (a.outside_remove id .disarmed).symm ▸ ha
  | sweep now => exact h.sweep now a ha
  | sweepNow => exact h.sweep a.clock a ha
  | moveClock m => exact ha
  | outside e => exact h e a.clock a.outside ha

end Setting.Keeps

end Coordination.Alarm
