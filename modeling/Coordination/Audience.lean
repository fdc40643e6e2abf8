/-!
# Audiences

Notices go to an audience: one listener, or a group of audiences in order, nested as deep as one likes. `tell`
walks the tree and lets every listener act on a state; `leaves` lists the listeners from left to right, and `tell` goes
through this list (`tell_eq_foldl`).
-/

namespace Coordination

inductive Audience (α : Type) where
  | one (listener : α)
  | all (members : List (Audience α))

namespace Audience

variable {α σ : Type}

/-- The audience that hears nothing. -/
def nobody : Audience α := .all []

mutual

/-- The listeners of an audience, depth first and from left to right; one that occurs twice is listed twice. -/
def leaves : Audience α → List α
  | .one a => [a]
  | .all ms => leavesOf ms

def leavesOf : List (Audience α) → List α
  | [] => []
  | m :: ms => m.leaves ++ leavesOf ms

end

mutual

/-- Every listener acts in turn on the state that the one before it left. -/
def tell (act : α → σ → σ) : Audience α → σ → σ
  | .one a, s => act a s
  | .all ms, s => tellOf act ms s

def tellOf (act : α → σ → σ) : List (Audience α) → σ → σ
  | [], s => s
  | m :: ms, s => tellOf act ms (m.tell act s)

end

mutual

theorem tell_eq_foldl (act : α → σ → σ) : ∀ (m : Audience α) (s : σ),
    m.tell act s = m.leaves.foldl (fun s a => act a s) s
  | .one _, _ => rfl
  | .all ms, s => tellOf_eq_foldl act ms s

theorem tellOf_eq_foldl (act : α → σ → σ) : ∀ (ms : List (Audience α)) (s : σ),
    tellOf act ms s = (leavesOf ms).foldl (fun s a => act a s) s
  | [], _ => rfl
  | m :: ms, s => by
    rw [tellOf, leavesOf, List.foldl_append, ← m.tell_eq_foldl act s]
    exact tellOf_eq_foldl act ms (m.tell act s)

end

end Audience

end Coordination
