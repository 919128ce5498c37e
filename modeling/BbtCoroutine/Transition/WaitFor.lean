import Mathlib.Data.Fintype.Card
import Mathlib.Data.Set.Finite.Basic
import Mathlib.Logic.Relation
import Mathlib.Order.WellFounded

/-!
# Parties that wait for each other

A party may be blocked on a resource and hold others.  A set of parties is deadlocked if
each of them is blocked on a resource that another one of the set holds.  In a finite
deadlocked set some parties wait for each other in a cycle.  If every party that is blocked
holds only resources below the one that it is blocked on, in some strict order, there is no
such cycle.
-/

namespace Transition

variable {T K : Type*}

/-- Every party of the set is blocked on a resource that another party of the set holds. -/
structure Deadlocked (blocked holds : T → K → Prop) (S : Set T) : Prop where
  nonempty : S.Nonempty
  waits : ∀ t ∈ S, ∃ k, blocked t k ∧ ∃ u ∈ S, u ≠ t ∧ holds u k

/-- Both parties belong to the set, and the first one is blocked on a resource that the second
one holds. -/
def WaitsFor (blocked holds : T → K → Prop) (S : Set T) (t u : T) : Prop :=
  t ∈ S ∧ u ∈ S ∧ u ≠ t ∧ ∃ k, blocked t k ∧ holds u k

namespace Deadlocked

variable {blocked holds : T → K → Prop} {S : Set T}

/-- A finite deadlocked set contains a cycle. -/
theorem exists_cycle (h : Deadlocked blocked holds S) (hfin : S.Finite) :
    ∃ t ∈ S, Relation.TransGen (WaitsFor blocked holds S) t t := by
  by_contra hnone
  push Not at hnone
  have : Finite S := hfin
  let r : S → S → Prop := fun a b => Relation.TransGen (WaitsFor blocked holds S) b a
  have : IsTrans S r := ⟨fun _ _ _ hab hbc => hbc.trans hab⟩
  have : Std.Irrefl r := ⟨fun a ha => hnone a a.2 ha⟩
  obtain ⟨t₀, ht₀⟩ := h.nonempty
  -- The party that nobody waits for transitively waits for somebody.
  have hwf : WellFounded r := Finite.wellFounded_of_trans_of_irrefl r
  obtain ⟨m, -, hm⟩ := hwf.has_min Set.univ ⟨⟨t₀, ht₀⟩, trivial⟩
  obtain ⟨k, hk, u, hu, hne, hheld⟩ := h.waits m m.2
  exact hm ⟨u, hu⟩ trivial (.single ⟨m.2, hu, hne, k, hk, hheld⟩)

end Deadlocked

variable {blocked holds : T → K → Prop} {S : Set T} {r : K → K → Prop}

/-- Along a chain of waiting parties the resources that they are blocked on ascend. -/
lemma lt_of_waitsFor [IsTrans K r]
    (hup : ∀ t k k', holds t k → blocked t k' → r k k') {t u : T} {k : K}
    (h : Relation.TransGen (WaitsFor blocked holds S) t u) (hk : blocked u k) :
    ∃ k₀, blocked t k₀ ∧ r k₀ k := by
  induction h generalizing k with
  | single h =>
    obtain ⟨-, -, -, k₀, hblocked, hheld⟩ := h
    exact ⟨k₀, hblocked, hup _ _ _ hheld hk⟩
  | tail _ h ih =>
    obtain ⟨-, -, -, k₁, hblocked, hheld⟩ := h
    obtain ⟨k₀, hk₀, hlt⟩ := ih hblocked
    exact ⟨k₀, hk₀, IsTrans.trans _ _ _ hlt (hup _ _ _ hheld hk)⟩

/-- Parties that ask for resources in ascending order do not deadlock. -/
theorem not_deadlocked_of_ascending [IsTrans K r] [Std.Irrefl r]
    (hup : ∀ t k k', holds t k → blocked t k' → r k k')
    (hone : ∀ t k k', blocked t k → blocked t k' → k = k') (hfin : S.Finite) :
    ¬ Deadlocked blocked holds S := by
  intro h
  obtain ⟨t, ht, hcycle⟩ := h.exists_cycle hfin
  obtain ⟨k, hk, -⟩ := h.waits t ht
  obtain ⟨k₀, hk₀, hlt⟩ := lt_of_waitsFor hup hcycle hk
  rw [hone t k₀ k hk₀ hk] at hlt
  exact irrefl k hlt

end Transition
