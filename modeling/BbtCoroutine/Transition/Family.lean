import Mathlib.Logic.Function.Basic
import BbtCoroutine.Transition.System

/-!
# Families of systems

Copies of one system that share nothing take their steps in any order.  Each of them then makes a
run of its own, and every run of one copy is part of a run of the family.
-/

namespace Transition

namespace System

variable {ι σ ℓ : Type*} [DecidableEq ι]

/-- Copies of a system, one for each `i`; a step of the family is a step of one copy. -/
def family (A : System σ ℓ) (ι : Type*) [DecidableEq ι] : System (ι → σ) (ι × ℓ) where
  start s := ∀ i, A.start (s i)
  next s l := (A.next (s l.1) l.2).map (Function.update s l.1)

/-- The step satisfies `P` in the copy that takes it. -/
def each (P : σ → ℓ → Prop) (s : ι → σ) (l : ι × ℓ) : Prop :=
  P (s l.1) l.2

/-- Whether a step of each member has the property can be computed. -/
instance decidableEach (P : σ → ℓ → Prop) [∀ s l, Decidable (P s l)] (s : ι → σ) (l : ι × ℓ) :
    Decidable (each P s l) :=
  inferInstanceAs (Decidable (P (s l.1) l.2))

variable {A : System σ ℓ} {P : σ → ℓ → Prop}

/-- Each copy makes a run of its own. -/
theorem ReachableWhen.component {s : ι → σ} (h : (A.family ι).ReachableWhen (each P) s) (i : ι) :
    A.ReachableWhen P (s i) := by
  refine h.induct (I := fun s => A.ReachableWhen P (s i)) ?_ ?_
  · exact fun s (hs : ∀ i, A.start (s i)) => .start (hs i)
  · rintro s ⟨j, l⟩ s' hI hP hs
    obtain ⟨t, ht, rfl⟩ := Option.map_eq_some_iff.mp hs
    by_cases hij : i = j
    · subst hij
      rw [Function.update_self]
      exact .step l hI hP ht
    · rw [Function.update_of_ne hij]
      exact hI

/-- A run of one copy, while the others stay where they are. -/
theorem ReachableWhen.family {s : σ} (h : A.ReachableWhen P s) {t : ι → σ}
    (ht : ∀ i, A.start (t i)) (i : ι) :
    (A.family ι).ReachableWhen (each P) (Function.update t i s) := by
  induction h with
  | start hs =>
    refine .start fun j => ?_
    by_cases hj : j = i
    · subst hj
      rw [Function.update_self]
      exact hs
    · rw [Function.update_of_ne hj]
      exact ht j
  | @step s s' l _ hP hs ih =>
    refine .step (i, l) ih ?_ ?_
    · rw [each, Function.update_self]
      exact hP
    · simp only [System.family, Function.update_self, hs, Option.map_some,
        Function.update_idem]

end System

end Transition
