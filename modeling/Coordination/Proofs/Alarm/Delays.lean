import Coordination.Proofs.Alarm.Fates
import Coordination.Proofs.Alarm.Strikes
import Mathlib.Data.List.Pairwise

/-!
# Delays

An alarm may be armed with a delay instead of a time. A delay asks for the time stamp that many milliseconds after the
reading of the clock, or for the last one there is (`Span.dueAfter`). The sum stops at the last time stamp, but before
that the delay itself is counted in 64 bits, and of one that takes more only the low bits are left. So the deadline that
was asked for is kept exactly if the delay fits (`Span.Fits`), and otherwise the alarm goes off too early.
-/

namespace Coordination

namespace Span

/-- The deadline that a delay asks for. -/
def dueAfter (now : Millis) (delay : Span) : Nat := min (now.toNat + delay.wholeMillis) (UInt64.size - 1)

/-- A time stamp can count the delay, or what is left of it reaches up to the last time stamp all the same. -/
def Fits (now : Millis) (delay : Span) : Prop :=
  delay.wholeMillis < UInt64.size ∨ UInt64.size - 1 ≤ now.toNat + delay.wholeMillis % UInt64.size

variable {now : Millis} {shorter delay : Span}

private theorem toNat_after_toMillis (now : Millis) (delay : Span) :
    (now.after delay.toMillis).toNat = min (now.toNat + delay.wholeMillis % UInt64.size) (UInt64.size - 1) := by
  rw [Millis.toNat_after, toNat_toMillis]

private theorem after_le_dueAfter (now : Millis) (delay : Span) :
    (now.after delay.toMillis).toNat ≤ delay.dueAfter now := by
  have hmod : delay.wholeMillis % UInt64.size ≤ delay.wholeMillis := Nat.mod_le ..
  rw [toNat_after_toMillis, dueAfter]
  omega

private theorem after_eq_dueAfter_iff (now : Millis) (delay : Span) :
    (now.after delay.toMillis).toNat = delay.dueAfter now ↔ delay.Fits now := by
  have hnow : now.toNat < UInt64.size := now.toNat_lt
  rw [toNat_after_toMillis, dueAfter, Fits]
  simp only [UInt64.size] at hnow ⊢
  omega

private theorem dueAfter_mono (now : Millis) (h : shorter.nanos ≤ delay.nanos) :
    shorter.dueAfter now ≤ delay.dueAfter now := by
  have hmillis : shorter.wholeMillis ≤ delay.wholeMillis := Nat.div_le_div_right h
  unfold dueAfter
  omega

/-- A shorter delay gives no later deadline than one that fits. -/
private theorem after_le_after (h : shorter.nanos ≤ delay.nanos) (hfits : delay.Fits now) :
    now.after shorter.toMillis ≤ now.after delay.toMillis := by
  rw [UInt64.le_iff_toNat_le, (after_eq_dueAfter_iff now delay).2 hfits]
  exact Nat.le_trans (after_le_dueAfter now shorter) (dueAfter_mono now h)

end Span

namespace Alarm

variable {ε σ : Type}

/-! ### When an alarm goes off -/

private theorem eq_of_nodup_filterMap {α κ : Type} {f : α → Option κ} {l : List α} (h : (l.filterMap f).Nodup)
    {x y : α} {k : κ} (hx : x ∈ l) (hy : y ∈ l) (hfx : f x = some k) (hfy : f y = some k) : x = y := by
  have hsymm : Std.Symm fun a b => ∀ k, f a = some k → ∀ k', f b = some k' → k ≠ k' :=
    ⟨fun _ _ hab k hk k' hk' => (hab k' hk' k hk).symm⟩
  by_contra hne
  exact (List.pairwise_filterMap.1 h).forall hx hy hne k hfx k hfy rfl

/-- An alarm that goes off was armed once, and goes off at its deadline or later. -/
private theorem Kept.fired_as_armed {past : List Entry} {direct : Nat} {a : Agenda ε σ} (h : Kept past direct [] a)
    {ticket : Nat} {owner owner' : ProcessId} {fireAt fireAt' now : Millis}
    (harmed : .armed ticket owner fireAt ∈ a.history) (hfired : .fired ticket owner' fireAt' now ∈ a.history) :
    fireAt' = fireAt ∧ fireAt ≤ now := by
  obtain ⟨hdue, harmed'⟩ := h.punctual ticket owner' fireAt' now hfired
  have hnodup : (a.history.filterMap Entry.armed?).Nodup := by
    rw [h.armings]
    exact List.nodup_range
  have heq : Entry.armed ticket owner fireAt = .armed ticket owner' fireAt' :=
    eq_of_nodup_filterMap hnodup harmed harmed' rfl rfl
  cases heq
  exact ⟨rfl, hdue⟩

namespace Agenda

/-- An alarm that is due goes off in the sweep. -/
private theorem fired_of_due (s : Setting ε σ) (now : Millis) {a : Agenda ε σ} {p : Armed ε} (hp : p ∈ a.due now) :
    .fired p.ticket p.owner p.fireAt now ∈ (a.sweep s now).2.history := by
  obtain ⟨strikes, halarms, hstrikes⟩ :=
    exists_strikes s now (sweep_telling s) (s.order a.sweeps (a.due now)) (a.lifted now)
  obtain ⟨k, hk, rfl⟩ : ∃ k ∈ strikes, k.alarm = p :=
    List.mem_map.1 (halarms ▸ (s.order_perm a.sweeps (a.due now)).mem_iff.2 hp)
  rw [a.sweep_eq s now, hstrikes.tells.history]
  exact List.mem_append_right _ (List.mem_flatMap.2 ⟨k, hk, List.mem_cons_self ..⟩)

private theorem armed_mem_armAt (id : ProcessId) (fireAt : Millis) (task : Task ε) (a : Agenda ε σ) :
    .armed a.armings id fireAt ∈ (a.armAt id fireAt task).history := by
  have hremove : ∀ (fate : Nat → Entry) (b : Agenda ε σ), .armed a.armings id fireAt ∈ b.history →
      .armed a.armings id fireAt ∈ (b.remove id fate).history := by
    intro fate b hb
    unfold remove
    split
    · exact List.mem_append_left _ hb
    · exact hb
  exact hremove .replaced _ (List.mem_append_right _ (List.mem_singleton.2 rfl))

/-- **A delay is kept exactly if it fits.** Let an alarm be armed with a delay on any agenda that calls can lead to. It
is armed with a deadline that stops at the last time stamp, of a delay of which the low 64 bits are counted. This is the
deadline that was asked for exactly if the delay fits; then no shorter delay gives a later deadline. And exactly if it
fits, no sweep before that deadline sets the alarm off, whatever calls come before it. -/
theorem armAfter_kept_iff (s : Setting ε σ) (clock : Millis) (outside : σ) (calls : List (Call ε)) (id : ProcessId)
    (delay : Span) (task : Task ε) :
    let a := ((Agenda.opened clock outside).perform s calls).2
    let b := a.armAfter id delay task
    let deadline := a.clock.after delay.toMillis
    b.find? id = some ⟨a.armings, id, deadline, task⟩ ∧
      deadline.toNat = min (a.clock.toNat + delay.wholeMillis % UInt64.size) (UInt64.size - 1) ∧
      (deadline.toNat = delay.dueAfter a.clock ↔ delay.Fits a.clock) ∧
      (delay.Fits a.clock → ∀ shorter : Span, shorter.nanos ≤ delay.nanos →
        a.clock.after shorter.toMillis ≤ deadline) ∧
      ((∀ more owner fireAt now, .fired a.armings owner fireAt now ∈ (b.perform s more).2.history →
        delay.dueAfter a.clock ≤ now.toNat) ↔ delay.Fits a.clock) := by
  intro a b deadline
  have hkept : Kept b.history _ [] b :=
    (((Kept.opened clock outside).perform s calls).armAt id deadline task).rebase
  have harmed : .armed a.armings id deadline ∈ b.history := armed_mem_armAt id deadline task a
  have hfind : b.find? id = some ⟨a.armings, id, deadline, task⟩ := find?_armAt id deadline task a
  have hdeadline : deadline.toNat = delay.dueAfter a.clock ↔ delay.Fits a.clock :=
    Span.after_eq_dueAfter_iff a.clock delay
  refine ⟨hfind, Span.toNat_after_toMillis a.clock delay, hdeadline,
    fun hfits shorter h => Span.after_le_after h hfits, ?_, ?_⟩
  · intro hnever
    -- a sweep at the deadline sets the alarm off
    have hdue : ⟨a.armings, id, deadline, task⟩ ∈ b.due deadline :=
      List.mem_filter.2 ⟨List.mem_of_find?_eq_some hfind, decide_eq_true (UInt64.le_refl deadline)⟩
    have hlate := hnever [.sweep deadline] id deadline deadline (fired_of_due s deadline hdue)
    exact hdeadline.1 (Nat.le_antisymm (Span.after_le_dueAfter a.clock delay) hlate)
  · intro hfits more owner fireAt now hfired
    have hafter := hkept.perform s more
    obtain ⟨-, hnow⟩ := hafter.fired_as_armed (hafter.grown.subset harmed) hfired
    rw [← hdeadline.2 hfits]
    exact UInt64.le_iff_toNat_le.1 hnow

/-- A delay of more than five hundred million years. -/
def eternity : Span := .ofParts 18446744073709552 0

/-- The alarm should wait for the last time stamp. It is armed for the time 384 and goes off then, earlier than one with
a delay of a second. -/
theorem armAfter_wraps :
    let a : Agenda Unit Unit := Agenda.opened 0 ()
    let b := a.armAfter ⟨"p"⟩ eternity .done
    eternity.dueAfter a.clock = UInt64.size - 1 ∧ (b.find? ⟨"p"⟩).map Armed.fireAt = some 384 ∧
      (b.sweep (.inOrder fun _ _ x => x) 384).1 = 1 ∧
      a.clock.after eternity.toMillis < a.clock.after (Span.ofParts 1 0).toMillis ∧
      (Span.ofParts 1 0).nanos ≤ eternity.nanos := by
  refine ⟨by decide, by decide, by decide, by decide, by decide⟩

end Agenda

end Alarm

end Coordination
