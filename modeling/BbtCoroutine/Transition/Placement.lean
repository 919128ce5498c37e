import Mathlib.Logic.ExistsUnique
import Mathlib.Logic.Function.Basic
import Mathlib.Order.Basic

/-!
# Tokens at places

Tokens are handed around between places; some of them are live.  `count t x` is how often
the token `t` lies at the place `x`, so that a place may be a list in which a token could
stand twice.  `Placed` says that each live token lies at exactly one place, once, and the
others nowhere.  A step that moves one token, brings one in or takes one out keeps it.
-/

namespace Transition

variable {τ π : Type*}

/-- Each live token lies at one place, once; a token that is not live lies nowhere. -/
structure Placed (live : τ → Prop) (count : τ → π → ℕ) : Prop where
  one : ∀ t, live t → ∃ x, count t x = 1 ∧ ∀ y, y ≠ x → count t y = 0
  none : ∀ t, ¬ live t → ∀ x, count t x = 0

namespace Placed

variable {live live' : τ → Prop} {count count' : τ → π → ℕ} {t : τ} {x y : π}

/-- What lies somewhere is live. -/
lemma live_of_pos (h : Placed live count) (hx : 0 < count t x) : live t := by
  by_contra hl
  rw [h.none t hl x] at hx
  exact absurd hx (Nat.lt_irrefl 0)

/-- What lies somewhere lies there once, and nowhere else. -/
lemma only (h : Placed live count) (hx : 0 < count t x) :
    count t x = 1 ∧ ∀ y, y ≠ x → count t y = 0 := by
  obtain ⟨z, hz, hz'⟩ := h.one t (h.live_of_pos hx)
  by_cases hxz : x = z
  · subst hxz
    exact ⟨hz, hz'⟩
  · rw [hz' x hxz] at hx
    exact absurd hx (Nat.lt_irrefl 0)

/-- What is in one place is in no other. -/
lemma eq_zero_of_ne (h : Placed live count) (hx : 0 < count t x) (hy : y ≠ x) : count t y = 0 :=
  (h.only hx).2 y hy

/-- A token lies at one place only. -/
lemma unique (h : Placed live count) (hx : 0 < count t x) (hy : 0 < count t y) : y = x := by
  by_contra hne
  rw [h.eq_zero_of_ne hx hne] at hy
  exact absurd hy (Nat.lt_irrefl 0)

/-- A live token lies at exactly one place. -/
lemma exists_unique (h : Placed live count) (ht : live t) : ∃! x, 0 < count t x := by
  obtain ⟨x, hx, -⟩ := h.one t ht
  have hpos : 0 < count t x := by rw [hx]; exact Nat.one_pos
  exact ⟨x, hpos, fun y hy => h.unique hpos hy⟩

/-- Nothing moves. -/
lemma quiet (h : Placed live count) (hl : ∀ u, live' u ↔ live u) (hc : count' = count) :
    Placed live' count' := by
  rw [hc]
  exact ⟨fun u hu => h.one u ((hl u).mp hu), fun u hu => h.none u fun hu' => hu ((hl u).mpr hu')⟩

/-- The token `t` moves from `x` to `y`. -/
lemma move (h : Placed live count) (hl : ∀ u, live' u ↔ live u) (hx : 0 < count t x)
    (hxy : y ≠ x) (hu : ∀ u, u ≠ t → count' u = count u) (hx' : count' t x = 0)
    (hy' : count' t y = count t y + 1) (hz : ∀ z, z ≠ x → z ≠ y → count' t z = count t z) :
    Placed live' count' := by
  refine ⟨fun u hlu => ?_, fun u hlu => ?_⟩
  · by_cases hut : u = t
    · subst hut
      refine ⟨y, ?_, fun z hzy => ?_⟩
      · rw [hy', h.eq_zero_of_ne hx hxy]
      · by_cases hzx : z = x
        · rw [hzx, hx']
        · rw [hz z hzx hzy, h.eq_zero_of_ne hx hzx]
    · rw [hu u hut]
      exact h.one u ((hl u).mp hlu)
  · have hnl : ¬ live u := fun hu' => hlu ((hl u).mpr hu')
    have hut : u ≠ t := by
      rintro rfl
      exact hnl (h.live_of_pos hx)
    rw [hu u hut]
    exact h.none u hnl

/-- The token `t` comes in at `y`. -/
lemma create (h : Placed live count) (ht : ¬ live t) (ht' : live' t)
    (hl : ∀ u, u ≠ t → (live' u ↔ live u)) (hu : ∀ u, u ≠ t → count' u = count u)
    (hy' : count' t y = count t y + 1) (hz : ∀ z, z ≠ y → count' t z = count t z) :
    Placed live' count' := by
  refine ⟨fun u hlu => ?_, fun u hlu => ?_⟩
  · by_cases hut : u = t
    · subst hut
      refine ⟨y, ?_, fun z hzy => ?_⟩
      · rw [hy', h.none u ht y]
      · rw [hz z hzy, h.none u ht z]
    · rw [hu u hut]
      exact h.one u ((hl u hut).mp hlu)
  · have hut : u ≠ t := by
      rintro rfl
      exact hlu ht'
    rw [hu u hut]
    exact h.none u fun hu' => hlu ((hl u hut).mpr hu')

/-- The token `t` goes away from `x`. -/
lemma remove (h : Placed live count) (ht' : ¬ live' t) (hl : ∀ u, u ≠ t → (live' u ↔ live u))
    (hx : 0 < count t x) (hu : ∀ u, u ≠ t → count' u = count u) (hx' : count' t x = 0)
    (hz : ∀ z, z ≠ x → count' t z = count t z) : Placed live' count' := by
  refine ⟨fun u hlu => ?_, fun u hlu z => ?_⟩
  · have hut : u ≠ t := by
      rintro rfl
      exact ht' hlu
    rw [hu u hut]
    exact h.one u ((hl u hut).mp hlu)
  · by_cases hut : u = t
    · subst hut
      by_cases hzx : z = x
      · rw [hzx, hx']
      · rw [hz z hzx, h.eq_zero_of_ne hx hzx]
    · rw [hu u hut]
      exact h.none u (fun hu' => hlu ((hl u hut).mpr hu')) z

/-! ### Counts that are updated -/

variable [DecidableEq τ] [DecidableEq π]

/-- The token `t` is taken at `x` and put at `y`. -/
lemma transfer (h : Placed live count) (hl : ∀ u, live' u ↔ live u) (hx : 0 < count t x)
    (hxy : y ≠ x) (hc : ∀ u, count' u = Function.update
      (Function.update (count u) x (count u x - if u = t then 1 else 0)) y
        (count u y + if u = t then 1 else 0)) : Placed live' count' := by
  refine h.move hl hx hxy (fun u hut => ?_) ?_ ?_ fun z hzx hzy => ?_
  · rw [hc, if_neg hut, Nat.sub_zero, Nat.add_zero, Function.update_eq_self,
      Function.update_eq_self]
  · rw [hc, Function.update_of_ne (Ne.symm hxy), Function.update_self, if_pos rfl, (h.only hx).1]
  · rw [hc, Function.update_self, if_pos rfl]
  · rw [hc, Function.update_of_ne hzy, Function.update_of_ne hzx]

/-- A new token `t` is put at `y`. -/
lemma enter (h : Placed live count) (ht : ¬ live t) (ht' : live' t)
    (hl : ∀ u, u ≠ t → (live' u ↔ live u))
    (hc : ∀ u, count' u = Function.update (count u) y (count u y + if u = t then 1 else 0)) :
    Placed live' count' := by
  refine h.create (y := y) ht ht' hl (fun u hut => ?_) ?_ fun z hz => ?_
  · rw [hc, if_neg hut, Nat.add_zero, Function.update_eq_self]
  · rw [hc, Function.update_self, if_pos rfl]
  · rw [hc, Function.update_of_ne hz]

/-- The token `t` is taken at `x` and is no longer live. -/
lemma leave (h : Placed live count) (ht' : ¬ live' t) (hl : ∀ u, u ≠ t → (live' u ↔ live u))
    (hx : 0 < count t x)
    (hc : ∀ u, count' u = Function.update (count u) x (count u x - if u = t then 1 else 0)) :
    Placed live' count' := by
  refine h.remove ht' hl hx (fun u hut => ?_) ?_ fun z hz => ?_
  · rw [hc, if_neg hut, Nat.sub_zero, Function.update_eq_self]
  · rw [hc, Function.update_self, if_pos rfl, (h.only hx).1]
  · rw [hc, Function.update_of_ne hz]

end Placed

end Transition
