import Mathlib.Algebra.BigOperators.Group.Finset.Basic
import Mathlib.Algebra.Order.BigOperators.Group.Finset
import Mathlib.Tactic.Abel

/-!
# Weights of the parties of a system

Finitely many parties each have a local state, and a counter that they share is the sum of the
weights of these states.  A step of one party moves the counter by the difference of two
weights, and a counter that has fallen to zero says of every party that it weighs nothing.
-/

namespace Transition

variable {α β : Type*} [Fintype α] [DecidableEq α] {w : β → ℤ} {f : α → β}

/-- The sum of the weights of all parties. -/
def weight (w : β → ℤ) (f : α → β) : ℤ :=
  ∑ x, w (f x)

omit [DecidableEq α] in
/-- The weight of a constant function. -/
lemma weight_const (b : β) : weight w (fun _ : α => b) = Fintype.card α * w b := by
  simp [weight, Finset.card_univ]

/-- The weight after one party has moved to the local state `b`. -/
lemma weight_update (a : α) (b : β) :
    weight w (Function.update f a b) = weight w f + (w b - w (f a)) := by
  have hrest : ∑ x ∈ Finset.univ.erase a, w (Function.update f a b x) =
      ∑ x ∈ Finset.univ.erase a, w (f x) := by
    refine Finset.sum_congr rfl fun x hx => ?_
    rw [Function.update_of_ne (Finset.ne_of_mem_erase hx)]
  have hnew := Finset.add_sum_erase Finset.univ (fun x => w (Function.update f a b x))
    (Finset.mem_univ a)
  have hold := Finset.add_sum_erase Finset.univ (fun x => w (f x)) (Finset.mem_univ a)
  simp only [Function.update_self] at hnew
  rw [weight, weight, ← hnew, ← hold, hrest]
  abel

omit [DecidableEq α] in
/-- If weights are not negative and their sum is not positive, every party weighs nothing. -/
lemma eq_zero_of_weight_le (hw : ∀ b, 0 ≤ w b) (h : weight w f ≤ 0) (a : α) : w (f a) = 0 := by
  have hle := Finset.single_le_sum (f := fun x => w (f x)) (fun x _ => hw (f x))
    (Finset.mem_univ a)
  exact le_antisymm (hle.trans h) (hw (f a))

end Transition
