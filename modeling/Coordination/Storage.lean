/-!
# Storage faults

A storage backend may refuse any call. `Guarded` puts a backend behind a plan that says which calls fail: the plan
sees the kind of the call and how many calls came before it, so that any subset of the calls can be made to fail.
-/

namespace Coordination

inductive StorageFault where
  /-- The backend refused, for a reason of its own. -/
  | refused (reason : String)
  /-- An earlier call broke off while it held the lock on the records. -/
  | poisoned
  deriving DecidableEq, Repr

def StorageFault.message : StorageFault → String
  | .refused reason => "Storage error: " ++ reason
  | .poisoned => "Storage error: poisoned lock: another task failed inside"

/-- The calls of a record store. -/
inductive StorageCall where
  | save
  | findById
  | findByCorrelation
  | findByStatus
  | delete
  deriving DecidableEq, Repr

/-- Which calls fail, and with what reason. -/
abbrev FaultPlan := StorageCall → Nat → Option String

namespace FaultPlan

def healthy : FaultPlan := fun _ _ => none

/-- From now on the named calls fail. -/
def failing (calls : List StorageCall) (reason : String) : FaultPlan :=
  fun call _ => if call ∈ calls then some reason else none

end FaultPlan

structure Guarded (σ : Type) where
  inner : σ
  plan : FaultPlan
  calls : Nat

namespace Guarded

variable {σ α : Type}

def healthy (inner : σ) : Guarded σ := ⟨inner, .healthy, 0⟩

/-- A reading call. -/
def ask (call : StorageCall) (read : σ → Except StorageFault α) (g : Guarded σ) :
    Except StorageFault α × Guarded σ :=
  let after := { g with calls := g.calls + 1 }
  match g.plan call g.calls with
  | some reason => (.error (.refused reason), after)
  | none => (read g.inner, after)

/-- A writing call; one that fails leaves the records as they were. -/
def change (call : StorageCall) (write : σ → Except StorageFault σ) (g : Guarded σ) :
    Except StorageFault Unit × Guarded σ :=
  let after := { g with calls := g.calls + 1 }
  match g.plan call g.calls with
  | some reason => (.error (.refused reason), after)
  | none =>
    match write g.inner with
    | .ok inner => (.ok (), { after with inner := inner })
    | .error fault => (.error fault, after)

theorem plan_change (call : StorageCall) (write : σ → Except StorageFault σ) (g : Guarded σ) :
    (g.change call write).2.plan = g.plan := by
  unfold change
  dsimp only
  split
  · rfl
  · split <;> rfl

/-- A call that no fault is planned for does what it is meant to do. -/
theorem change_ok {call : StorageCall} {g : Guarded σ} (h : g.plan call g.calls = none) (write : σ → σ) :
    g.change call (fun x => .ok (write x)) = (.ok (), { g with inner := write g.inner, calls := g.calls + 1 }) := by
  simp only [change, h]

/-- A reading call leaves the records as they are. -/
theorem inner_ask (call : StorageCall) (read : σ → Except StorageFault α) (g : Guarded σ) :
    (g.ask call read).2.inner = g.inner := by
  unfold ask
  dsimp only
  split <;> rfl

/-- What a reading call answers was read from the records. -/
theorem read_of_ask {call : StorageCall} {read : σ → Except StorageFault α} {g : Guarded σ} {a : α}
    (h : (g.ask call read).1 = .ok a) : read g.inner = .ok a := by
  unfold ask at h
  dsimp only at h
  split at h
  · cases h
  · exact h

/-- A call that no fault is planned for reads the records. -/
theorem ask_ok {call : StorageCall} {g : Guarded σ} (h : g.plan call g.calls = none)
    (read : σ → Except StorageFault α) : g.ask call read = (read g.inner, { g with calls := g.calls + 1 }) := by
  simp only [ask, h]

/-- A writing call either fails and leaves the records as they are, or does what it is meant to do. -/
theorem change_cases (call : StorageCall) (write : σ → Except StorageFault σ) (g : Guarded σ) :
    (∃ fault, (g.change call write).1 = .error fault ∧ (g.change call write).2.inner = g.inner) ∨
      ((g.change call write).1 = .ok () ∧ write g.inner = .ok (g.change call write).2.inner) := by
  unfold change
  dsimp only
  split
  · exact Or.inl ⟨_, rfl, rfl⟩
  · cases hw : write g.inner with
    | ok inner => exact Or.inr ⟨rfl, rfl⟩
    | error fault => exact Or.inl ⟨fault, rfl, rfl⟩

end Guarded

end Coordination
