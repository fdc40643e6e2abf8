/-!
# Totals

The elements of a list have a price each, and the list has a total. What is proved of totals does not depend on the
order of the list (`totalOf_perm`), and holds of its parts (`totalOf_append`).
-/

namespace Coordination

variable {α : Type} (price : α → Nat)

/-- What the elements of a list cost together. -/
def totalOf (l : List α) : Nat := l.foldr (fun a n => price a + n) 0

@[simp] theorem totalOf_nil : totalOf price [] = 0 := rfl

@[simp] theorem totalOf_cons (a : α) (l : List α) : totalOf price (a :: l) = price a + totalOf price l := rfl

theorem totalOf_append (l l' : List α) : totalOf price (l ++ l') = totalOf price l + totalOf price l' := by
  induction l with
  | nil => exact (Nat.zero_add _).symm
  | cons a l ih => rw [List.cons_append, totalOf_cons, totalOf_cons, ih, Nat.add_assoc]

theorem totalOf_perm {l l' : List α} (h : l.Perm l') : totalOf price l = totalOf price l' := by
  induction h with
  | nil => rfl
  | cons a _ ih => rw [totalOf_cons, totalOf_cons, ih]
  | swap a b l => exact Nat.add_left_comm ..
  | trans _ _ ih ih' => exact ih.trans ih'

/-- What stays and what goes cost together what there was. -/
theorem totalOf_filter_add (stays : α → Bool) (l : List α) :
    totalOf price (l.filter stays) + totalOf price (l.filter fun a => !stays a) = totalOf price l := by
  rw [← totalOf_append]
  exact totalOf_perm price (List.filter_append_perm stays l)

theorem totalOf_filter_le (stays : α → Bool) (l : List α) : totalOf price (l.filter stays) ≤ totalOf price l := by
  rw [← totalOf_filter_add price stays l]
  exact Nat.le_add_right ..

end Coordination
