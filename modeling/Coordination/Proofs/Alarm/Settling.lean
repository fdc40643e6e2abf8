import Coordination.Alarm.Pulse

/-!
# How a pulse settles

A pulse runs until it has to wait: it beats as long as a beat is due, takes notice of news on the stop line, and stops
when it reads a stop signal or learns that nobody can send one. `Pulse.Settles` says this step by step and counts the
beats; `Pulse.settle` does it, as the next beat always lies ahead (`Pulse.settles`). What stays as it is, and when the
pulse stops, is read off the steps (`Settles.frame`, `Settles.stops`).
-/

namespace Coordination.Alarm

variable {μ ω σ : Type} [Metronome μ] [StopLine ω]

namespace Pulse

variable {p : Pulse μ ω}

theorem next_eq_wait : p.next = .wait ↔
    p.finished = true ∨ (p.signal = ⟨false, false, true⟩ ∧ p.elapsed < p.deadline) := by
  unfold next
  generalize p.signal = signal
  obtain ⟨_, _, _⟩ := signal
  grind

theorem next_eq_halt : p.next = .halt ↔
    p.finished = false ∧ (p.signal.value = true ∨
      (p.elapsed < p.deadline ∧ p.signal.unread = false ∧ p.signal.connected = false)) := by
  grind [next]

variable {sweep : σ → Nat × σ} {x : σ}

theorem settle_of_wait (h : p.next = .wait) : p.settle sweep x = (p, x) := by
  rw [settle]
  split <;> simp_all

theorem settle_of_halt (h : p.next = .halt) : p.settle sweep x = (p.halted, x) := by
  rw [settle]
  split <;> simp_all

theorem settle_of_beat (h : p.next = .beat) :
    p.settle sweep x = (p.beat (sweep x).1).settle sweep (sweep x).2 := by
  rw [settle]
  split <;> simp_all

theorem settle_of_read (h : p.next = .read) : p.settle sweep x = p.heed.settle sweep x := by
  rw [settle]
  split <;> simp_all

/-- What a beat does to the state, and to the number of beats. -/
def counted (sweep : σ → Nat × σ) (x : σ × Nat) : Nat × (σ × Nat) := ((sweep x.1).1, (sweep x.1).2, x.2 + 1)

/-- The number of beats until the pulse waits. -/
def beats (sweep : σ → Nat × σ) (p : Pulse μ ω) (x : σ) : Nat := (p.settle (counted sweep) (x, 0)).2.2

/-- A pulse settles by so many beats, and by readings, until it waits or stops. -/
inductive Settles (sweep : σ → Nat × σ) : Pulse μ ω → σ → Nat → Pulse μ ω × σ → Prop where
  | wait {p : Pulse μ ω} {x : σ} (h : p.next = .wait) : Settles sweep p x 0 (p, x)
  | halt {p : Pulse μ ω} {x : σ} (h : p.next = .halt) : Settles sweep p x 0 (p.halted, x)
  | beat {p : Pulse μ ω} {x : σ} {n : Nat} {r : Pulse μ ω × σ} (h : p.next = .beat)
      (rest : Settles sweep (p.beat (sweep x).1) (sweep x).2 n r) : Settles sweep p x (n + 1) r
  | read {p : Pulse μ ω} {x : σ} {n : Nat} {r : Pulse μ ω × σ} (h : p.next = .read)
      (rest : Settles sweep p.heed x n r) : Settles sweep p x n r

theorem settles (sweep : σ → Nat × σ) (p : Pulse μ ω) (x : σ) :
    Settles sweep p x (p.beats sweep x) (p.settle sweep x) := by
  -- the beats are counted from any number on
  suffices h : ∃ n, Settles sweep p x n (p.settle sweep x) ∧
      ∀ m, p.settle (counted sweep) (x, m) = ((p.settle sweep x).1, (p.settle sweep x).2, n + m) by
    obtain ⟨n, hsettles, hcounted⟩ := h
    have hn : p.beats sweep x = n := congrArg (·.2.2) (hcounted 0)
    rwa [hn]
  fun_induction settle sweep p x with
  | case1 p x h => exact ⟨0, .wait h, fun m => by rw [settle_of_wait h, Nat.zero_add]⟩
  | case2 p x h => exact ⟨0, .halt h, fun m => by rw [settle_of_halt h, Nat.zero_add]⟩
  | case3 p x h count y hsweep ih =>
    obtain ⟨n, hsettles, hcounted⟩ := ih
    obtain rfl : (sweep x).1 = count := congrArg Prod.fst hsweep
    obtain rfl : (sweep x).2 = y := congrArg Prod.snd hsweep
    refine ⟨n + 1, .beat h hsettles, fun m => ?_⟩
    rw [settle_of_beat h, Nat.add_assoc, Nat.add_comm 1 m]
    exact hcounted (m + 1)
  | case4 p x h ih =>
    obtain ⟨n, hsettles, hcounted⟩ := ih
    refine ⟨n, .read h hsettles, fun m => ?_⟩
    rw [settle_of_read h]
    exact hcounted m

namespace Settles

variable {n : Nat} {r : Pulse μ ω × σ}

/-- A settled pulse has stopped, or has nothing to do. -/
theorem next (h : Settles sweep p x n r) : r.1.next = .wait := by
  induction h with
  | wait h => exact h
  | halt => exact next_eq_wait.2 (Or.inl rfl)
  | beat _ _ ih => exact ih
  | read _ _ ih => exact ih

/-- What stays as it is while a pulse settles; it stops only at a stop signal, or when nobody can send one. -/
theorem frame (h : Settles sweep p x n r) :
    r.1.signal.value = p.signal.value ∧ r.1.signal.connected = p.signal.connected ∧
      (r.1.finished = true → p.finished = true ∨ p.signal.value = true ∨ p.signal.connected = false) := by
  induction h with
  | wait => exact ⟨rfl, rfl, Or.inl⟩
  | halt h => exact ⟨rfl, rfl, fun _ => Or.inr ((next_eq_halt.1 h).2.imp_right fun hgone => hgone.2.2)⟩
  | beat _ _ ih => exact ih
  | read _ _ ih =>
    rw [signal_heed] at ih
    exact ih

/-- A pulse that has stopped has no beat, and one with a stop signal stops without a beat; so does one whose line is
gone before the next beat is due. -/
theorem stops (h : Settles sweep p x n r) (hstop : p.finished = true ∨ p.signal.value = true ∨
    (p.signal.connected = false ∧ p.elapsed < p.deadline)) :
    n = 0 ∧ r.1.finished = true ∧ r.1.fired = p.fired ∧ r.2 = x := by
  induction h with
  | wait h => grind [next_eq_wait]
  | halt => exact ⟨rfl, rfl, rfl, rfl⟩
  | beat h => grind [next_eq_beat]
  | read _ _ ih =>
    rw [signal_heed, deadline_heed] at ih
    exact ih hstop

end Settles

omit [Metronome μ] in
/-- A value that is sent is lost, or is news for a pulse that has not stopped. -/
theorem send_cases (value : Bool) (p : Pulse μ ω) : (p.send value).2 = p ∨
    (p.finished = false ∧ (p.send value).2 = { p with stop := StopLine.send value p.stop }) := by
  unfold send
  split
  · exact Or.inl rfl
  · split
    · exact Or.inl rfl
    · rename_i hrunning
      exact Or.inr ⟨eq_false_of_ne_true hrunning, rfl⟩

/-- A beat and news on the stop line are at hand at once. -/
def Torn (p : Pulse μ ω) : Prop := p.deadline ≤ p.elapsed ∧ (p.signal.unread = true ∨ p.signal.connected = false)

end Pulse

end Coordination.Alarm
