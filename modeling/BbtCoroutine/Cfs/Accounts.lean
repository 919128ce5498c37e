import BbtCoroutine.Cfs.Model
import Mathlib.Tactic.Linarith

/-!
# The accounts of the run queues

The virtual runtime of an entity is relative to the floor of its queue while it is in one, and a
debt while it is in none.  Whatever way the entity takes through the queues, its debt is what it
has been charged for, less what the floors have risen while it was in their queues.
-/

namespace BbtCoroutine.Cfs

open Transition

variable {E Q : Type*}

/-! ## Statement -/

/-- What an entity owes. -/
def Book.debt (b : Book Q) : ℚ :=
  b.charged - b.risen

/-- The entity is in no queue, and no worker runs it. -/
def State.out (s : State E Q) (e : E) : Prop :=
  (s.entity e).linked = false ∧ (s.book e).worker = none

/-- The accounts are fair: no entity of a queue is behind the floor; an entity carries its debt
from a queue to the next one, and the debt is never negative; a queue runs at most one entity,
which is then in no queue and runs for no other; and no entity is linked twice. -/
structure Fair (s : State E Q) : Prop where
  floor_le : ∀ q e, e ∈ (s.queue q).queue → (s.queue q).floor ≤ (s.entity e).vruntime
  inside : ∀ q e, e ∈ (s.queue q).queue ∨ (s.queue q).running = some e →
    (s.entity e).vruntime = (s.book e).entry + (s.book e).debt
  outside : ∀ e, s.out e → (s.entity e).vruntime = (s.book e).debt ∧ 0 ≤ (s.book e).debt
  running : ∀ p q e, (s.queue p).running = some e →
    e ∉ (s.queue q).queue ∧ ((s.queue q).running = some e → p = q)
  linked : ∀ p q e, e ∈ (s.queue p).queue → e ∈ (s.queue q).queue → p = q
  nodup : ∀ q, (s.queue q).queue.Nodup

/-! ## The invariant -/

/-- The queues are sorted, and the hooks and the books say where the entities are. -/
structure Inv (s : State E Q) : Prop where
  sorted : ∀ q, (s.queue q).queue.Pairwise fun i j =>
    (s.entity i).vruntime ≤ (s.entity j).vruntime
  nodup : ∀ q, (s.queue q).queue.Nodup
  linked : ∀ q e, e ∈ (s.queue q).queue → (s.entity e).linked = true
  once : ∀ p q e, e ∈ (s.queue p).queue → e ∈ (s.queue q).queue → p = q
  worker : ∀ q e, (s.queue q).running = some e ↔ (s.book e).worker = some q
  apart : ∀ e, (s.book e).worker ≠ none → (s.entity e).linked = false
  floor_le : ∀ q e, e ∈ (s.queue q).queue ∨ (s.queue q).running = some e →
    (s.queue q).floor ≤ (s.entity e).vruntime
  inside : ∀ q e, e ∈ (s.queue q).queue ∨ (s.queue q).running = some e →
    (s.entity e).vruntime = (s.book e).entry + (s.book e).debt
  outside : ∀ e, s.out e → (s.entity e).vruntime = (s.book e).debt ∧ 0 ≤ (s.book e).debt

/-- The queues are fair under the invariant. -/
lemma Inv.fair {s : State E Q} (hI : Inv s) : Fair s where
  floor_le q e he := hI.floor_le q e (.inl he)
  inside := hI.inside
  outside := hI.outside
  running p q e hp := by
    have hw := (hI.worker p e).mp hp
    refine ⟨fun he => ?_, fun hq => ?_⟩
    · have hlinked := hI.linked q e he
      rw [hI.apart e (by rw [hw]; simp)] at hlinked
      cases hlinked
    · rw [(hI.worker q e).mp hq] at hw
      exact (Option.some.inj hw).symm
  linked := hI.once
  nodup := hI.nodup

variable [DecidableEq E] [DecidableEq Q] {s : State E Q} {q : Q} {x : CfsRunQueue E} {e : E}
  {y : CfsEntity} {b : Book Q}

/-- An entity that is in the hands of the queue `q`: it is linked in no other one, and no other
worker runs it. -/
def Inv.Own (s : State E Q) (q : Q) (e : E) : Prop :=
  ∀ p, p ≠ q → e ∉ (s.queue p).queue ∧ (s.queue p).running ≠ some e

/-- A change of one queue and one entity keeps the invariant. -/
lemma Inv.set (hI : Inv s) (hown : Inv.Own s q e)
    (hmem : ∀ j, j ≠ e → (j ∈ x.queue ↔ j ∈ (s.queue q).queue))
    (hrun : ∀ j, j ≠ e → (x.running = some j ↔ (s.queue q).running = some j))
    (hsorted : x.queue.Pairwise fun i j =>
      (Function.update s.entity e y i).vruntime ≤ (Function.update s.entity e y j).vruntime)
    (hnodup : x.queue.Nodup) (hlinked : e ∈ x.queue → y.linked = true)
    (hworker : x.running = some e ↔ b.worker = some q)
    (hother : b.worker = none ∨ b.worker = some q)
    (hapart : b.worker ≠ none → y.linked = false)
    (hfloor : ∀ j, j ≠ e → j ∈ x.queue ∨ x.running = some j →
      x.floor ≤ (s.entity j).vruntime)
    (hin : e ∈ x.queue ∨ x.running = some e → x.floor ≤ y.vruntime ∧
      y.vruntime = b.entry + b.debt)
    (hout : y.linked = false → b.worker = none → y.vruntime = b.debt ∧ 0 ≤ b.debt) :
    Inv (s.set q x e y b) := by
  have hq : ∀ p, (s.set q x e y b).queue p = if p = q then x else s.queue p := fun p => by
    by_cases h : p = q
    · subst h
      simp [State.set]
    · simp [State.set, h]
  have he : ∀ j, (s.set q x e y b).entity j = if j = e then y else s.entity j := fun j => by
    by_cases h : j = e
    · subst h
      simp [State.set]
    · simp [State.set, h]
  have hb : ∀ j, (s.set q x e y b).book j = if j = e then b else s.book j := fun j => by
    by_cases h : j = e
    · subst h
      simp [State.set]
    · simp [State.set, h]
  have hmem' : ∀ p j, j ∈ ((s.set q x e y b).queue p).queue ↔
      if j = e then p = q ∧ e ∈ x.queue else j ∈ (s.queue p).queue := fun p j => by
    rw [hq]
    by_cases hp : p = q <;> by_cases hj : j = e
    · simp [hp, hj]
    · simp [hp, hj, hmem j hj]
    · simp [hp, hj, (hown p hp).1]
    · simp [hp, hj]
  have hrun' : ∀ p j, ((s.set q x e y b).queue p).running = some j ↔
      if j = e then p = q ∧ x.running = some e else (s.queue p).running = some j := fun p j => by
    rw [hq]
    by_cases hp : p = q <;> by_cases hj : j = e
    · simp [hp, hj]
    · simp [hp, hj, hrun j hj]
    · simp [hp, hj, (hown p hp).2]
    · simp [hp, hj]
  refine
    { sorted := fun p => ?_
      nodup := fun p => ?_
      linked := fun p j hj => ?_
      once := fun p p' j hj hj' => ?_
      worker := fun p j => ?_
      apart := fun j hj => ?_
      floor_le := fun p j hj => ?_
      inside := fun p j hj => ?_
      outside := fun j hj => ?_ }
  · rw [hq]
    split
    · exact hsorted
    · rename_i hp
      refine (hI.sorted p).imp_of_mem fun {i j} hi hj hij => ?_
      rw [he, he, if_neg, if_neg]
      · exact hij
      · rintro rfl
        exact (hown p hp).1 hj
      · rintro rfl
        exact (hown p hp).1 hi
  · rw [hq]
    split
    · exact hnodup
    · exact hI.nodup p
  · rw [hmem'] at hj
    rw [he]
    split at hj
    · rw [if_pos ‹_›]
      exact hlinked hj.2
    · rw [if_neg ‹_›]
      exact hI.linked p j hj
  · rw [hmem'] at hj hj'
    split at hj
    · rw [if_pos ‹_›] at hj'
      rw [hj.1, hj'.1]
    · rw [if_neg ‹_›] at hj'
      exact hI.once p p' j hj hj'
  · rw [hrun', hb]
    split
    · refine ⟨fun h => ?_, fun h => ?_⟩
      · rw [h.1]
        exact hworker.mp h.2
      · rcases hother with ho | ho
        · rw [ho] at h
          cases h
        · rw [ho] at h
          obtain rfl := Option.some.inj h
          exact ⟨rfl, hworker.mpr ho⟩
    · exact hI.worker p j
  · rw [hb] at hj
    rw [he]
    split at hj
    · rw [if_pos ‹_›]
      exact hapart hj
    · rw [if_neg ‹_›]
      exact hI.apart j hj
  · rw [hmem', hrun'] at hj
    rw [he, hq]
    by_cases hje : j = e
    · rw [if_pos hje, if_pos hje] at hj
      rw [if_pos hje]
      have hp : p = q := by
        rcases hj with hj | hj
        · exact hj.1
        · exact hj.1
      rw [if_pos hp]
      exact (hin (hj.imp And.right And.right)).1
    · rw [if_neg hje, if_neg hje] at hj
      rw [if_neg hje]
      by_cases hp : p = q
      · rw [hp] at hj
        rw [if_pos hp]
        exact hfloor j hje (hj.imp (hmem j hje).mpr (hrun j hje).mpr)
      · rw [if_neg hp]
        exact hI.floor_le p j hj
  · rw [hmem', hrun'] at hj
    rw [he, hb]
    by_cases hje : j = e
    · rw [if_pos hje, if_pos hje] at hj
      rw [if_pos hje, if_pos hje]
      exact (hin (hj.imp And.right And.right)).2
    · rw [if_neg hje, if_neg hje] at hj
      rw [if_neg hje, if_neg hje]
      exact hI.inside p j hj
  · rw [State.out, he, hb] at hj
    rw [he, hb]
    by_cases hje : j = e
    · rw [if_pos hje, if_pos hje] at hj ⊢
      exact hout hj.1 hj.2
    · rw [if_neg hje, if_neg hje] at hj ⊢
      exact hI.outside j hj

/-! ## The calls keep the invariant -/

omit [DecidableEq E] [DecidableEq Q] in
/-- An entity that is linked in a queue is in the hands of that queue. -/
lemma Inv.own_of_mem (hI : Inv s) (he : e ∈ (s.queue q).queue) : Inv.Own s q e := by
  refine fun p hp => ⟨fun he' => hp (hI.once p q e he' he), fun hrun => ?_⟩
  have hlinked := hI.linked q e he
  rw [hI.apart e (by rw [(hI.worker p e).mp hrun]; simp)] at hlinked
  cases hlinked

omit [DecidableEq E] [DecidableEq Q] in
/-- An entity that runs is in the hands of the queue of its worker. -/
lemma Inv.own_of_running (hI : Inv s) (he : (s.queue q).running = some e) : Inv.Own s q e :=
  fun p hp => ⟨(hI.fair.running q p e he).1,
    fun hrun => hp ((hI.fair.running q p e he).2 hrun).symm⟩

omit [DecidableEq Q] in
/-- `upper_bound` keeps a queue sorted. -/
lemma pairwise_insertUpper {l : List E} (he : e ∉ l)
    (hl : l.Pairwise fun i j => (s.entity i).vruntime ≤ (s.entity j).vruntime) :
    (s.insertUpper e y.vruntime l).Pairwise fun i j =>
      (Function.update s.entity e y i).vruntime ≤ (Function.update s.entity e y j).vruntime := by
  induction l with
  | nil => exact List.pairwise_singleton _ _
  | cons i l ih =>
    obtain ⟨hi, hl⟩ := List.pairwise_cons.mp hl
    have hne : ∀ j ∈ i :: l, j ≠ e := fun j hj hje => he (hje ▸ hj)
    have hrest : ∀ j ∈ i :: l, Function.update s.entity e y j = s.entity j := fun j hj =>
      Function.update_of_ne (hne j hj) _ _
    unfold State.insertUpper
    rw [List.orderedInsert_cons]
    split
    · rename_i hlt
      refine List.pairwise_cons.mpr ⟨fun j hj => ?_, List.pairwise_cons.mpr ⟨fun j hj => ?_, ?_⟩⟩
      · rw [Function.update_self, hrest j hj]
        rcases List.mem_cons.mp hj with rfl | hj
        · exact hlt.le
        · exact hlt.le.trans (hi j hj)
      · rw [hrest i List.mem_cons_self, hrest j (List.mem_cons_of_mem _ hj)]
        exact hi j hj
      · refine hl.imp_of_mem fun {j k} hj hk hjk => ?_
        rwa [hrest j (List.mem_cons_of_mem _ hj), hrest k (List.mem_cons_of_mem _ hk)]
    · rename_i hlt
      refine List.pairwise_cons.mpr ⟨fun j hj => ?_, ?_⟩
      · rw [hrest i List.mem_cons_self]
        rcases (List.mem_orderedInsert _).mp hj with rfl | hj
        · rw [Function.update_self]
          exact not_lt.mp hlt
        · rw [hrest j (List.mem_cons_of_mem _ hj)]
          exact hi j hj
      · exact ih (fun h => he (List.mem_cons_of_mem _ h)) hl

omit [DecidableEq Q] in
/-- An entity that is not in the rest of a queue does not disturb its order. -/
lemma pairwise_update {l : List E} (he : e ∉ l)
    (hl : l.Pairwise fun i j => (s.entity i).vruntime ≤ (s.entity j).vruntime) :
    l.Pairwise fun i j =>
      (Function.update s.entity e y i).vruntime ≤ (Function.update s.entity e y j).vruntime := by
  refine hl.imp_of_mem fun {i j} hi hj hij => ?_
  have hne : ∀ {k}, k ∈ l → k ≠ e := fun hk hke => he (hke ▸ hk)
  rwa [Function.update_of_ne (hne hi), Function.update_of_ne (hne hj)]

/-- An enqueue keeps the invariant. -/
lemma Inv.enqueue (hI : Inv s) {priority : ℤ} {weight : ℕ}
    (hw : (s.book e).worker = none ∨ (s.book e).worker = some q) :
    Inv (s.enqueue q e priority weight).1 := by
  unfold State.enqueue
  dsimp only
  split
  · exact hI
  · rename_i h
    rw [not_or, Bool.not_eq_true] at h
    obtain ⟨hlinked, hrunning⟩ := h
    have hworker : (s.book e).worker = none :=
      hw.resolve_right fun hw => hrunning ((hI.worker q e).mpr hw)
    have hmem : ∀ p, e ∉ (s.queue p).queue := fun p he => by
      rw [hI.linked p e he] at hlinked
      cases hlinked
    obtain ⟨hv, hdebt⟩ := hI.outside e ⟨hlinked, hworker⟩
    have hentry : State.entryVruntime (s.queue q).floor (s.entity e) =
        (s.queue q).floor + (s.book e).debt := by
      unfold State.entryVruntime
      rw [hv, max_eq_right hdebt, ite_self]
    refine hI.set ?_ ?_ ?_ ?_ ?_ ?_ ?_ ?_ ?_ ?_ ?_ ?_
    · refine fun p _ => ⟨hmem p, fun hrun => ?_⟩
      rw [(hI.worker p e).mp hrun] at hworker
      cases hworker
    · intro j hj
      exact (List.mem_orderedInsert _).trans (or_iff_right hj)
    · exact fun _ _ => Iff.rfl
    · exact pairwise_insertUpper (hmem q) (hI.sorted q)
    · exact (List.perm_orderedInsert _ _ _).nodup_iff.mpr
        (List.nodup_cons.mpr ⟨hmem q, hI.nodup q⟩)
    · exact fun _ => rfl
    · exact hI.worker q e
    · exact .inl hworker
    · exact fun h => absurd hworker h
    · exact fun j hj h => hI.floor_le q j (h.imp_left fun hm =>
        ((List.mem_orderedInsert _).mp hm).resolve_left hj)
    · intro _
      refine ⟨?_, hentry⟩
      rw [hentry]
      exact le_add_of_nonneg_right hdebt
    · exact fun h => nomatch h

/-- A pick keeps the invariant. -/
lemma Inv.pick (hI : Inv s) : Inv (s.pick q).1 := by
  unfold State.pick
  dsimp only
  split
  · rename_i e l hrunning hqueue
    have hmem : e ∈ (s.queue q).queue := by
      rw [hqueue]
      exact List.mem_cons_self
    have hsub : ∀ j, j ∈ l → j ∈ (s.queue q).queue := fun j hj => by
      rw [hqueue]
      exact List.mem_cons_of_mem _ hj
    have hnodup := hI.nodup q
    have hsorted := hI.sorted q
    rw [hqueue] at hnodup hsorted
    obtain ⟨he, hl⟩ := List.nodup_cons.mp hnodup
    refine hI.set (hI.own_of_mem hmem) ?_ ?_ ?_ hl ?_ ?_ ?_ ?_ ?_ ?_ ?_
    · intro j hj
      rw [hqueue, List.mem_cons, or_iff_right hj]
    · intro j hj
      rw [hrunning]
      exact ⟨fun h => absurd (Option.some.inj h).symm hj, fun h => nomatch h⟩
    · exact pairwise_update he (List.pairwise_cons.mp hsorted).2
    · exact fun h => absurd h he
    · exact ⟨fun _ => rfl, fun _ => rfl⟩
    · exact .inr rfl
    · exact fun _ => rfl
    · rintro j hj (hm | hm)
      · exact hI.floor_le q j (.inl (hsub j hm))
      · exact absurd (Option.some.inj hm).symm hj
    · exact fun _ => ⟨hI.floor_le q e (.inl hmem), hI.inside q e (.inl hmem)⟩
    · exact fun _ h => nomatch h
  · exact hI

/-- A take keeps the invariant. -/
lemma Inv.take (hI : Inv s) : Inv (s.take q).1 := by
  unfold State.take
  dsimp only
  split
  · exact hI
  · rename_i e l hqueue
    have hmem : e ∈ (s.queue q).queue := by
      rw [hqueue]
      exact List.mem_cons_self
    have hsub : ∀ j, j ∈ l → j ∈ (s.queue q).queue := fun j hj => by
      rw [hqueue]
      exact List.mem_cons_of_mem _ hj
    have hnodup := hI.nodup q
    have hsorted := hI.sorted q
    rw [hqueue] at hnodup hsorted
    obtain ⟨he, hl⟩ := List.nodup_cons.mp hnodup
    have hlinked := hI.linked q e hmem
    have hworker : (s.book e).worker = none := by
      by_contra h
      rw [hI.apart e h] at hlinked
      cases hlinked
    have hrunning : (s.queue q).running ≠ some e := fun h => by
      rw [(hI.worker q e).mp h] at hworker
      cases hworker
    have hle := hI.floor_le q e (.inl hmem)
    have hin := hI.inside q e (.inl hmem)
    refine hI.set (hI.own_of_mem hmem) ?_ ?_ ?_ hl ?_ ?_ ?_ ?_ ?_ ?_ ?_
    · intro j hj
      rw [hqueue, List.mem_cons, or_iff_right hj]
    · exact fun _ _ => Iff.rfl
    · exact pairwise_update he (List.pairwise_cons.mp hsorted).2
    · exact fun h => absurd h he
    · exact hI.worker q e
    · exact .inl hworker
    · exact fun h => absurd hworker h
    · exact fun j hj h => hI.floor_le q j (h.imp_left (hsub j))
    · exact fun h => (h.elim he hrunning).elim
    · intro _ _
      unfold Book.debt at hin ⊢
      dsimp only
      constructor <;> linarith

omit [DecidableEq E] [DecidableEq Q] in
/-- The floor that `Account` sets is not above the first entity of the queue. -/
lemma floorAfter_le {v : ℚ} {j : E}
    (hsorted : x.queue.Pairwise fun i j => (s.entity i).vruntime ≤ (s.entity j).vruntime)
    (hj : j ∈ x.queue) (hle : x.floor ≤ (s.entity j).vruntime) :
    s.floorAfter x v ≤ (s.entity j).vruntime := by
  unfold State.floorAfter
  refine max_le hle ?_
  cases hx : x.queue with
  | nil =>
    rw [hx] at hj
    cases hj
  | cons i l =>
    rw [hx] at hj hsorted
    refine (min_le_right _ _).trans ?_
    rcases List.mem_cons.mp hj with rfl | hj
    · exact le_rfl
    · exact (List.pairwise_cons.mp hsorted).1 j hj

omit [DecidableEq E] [DecidableEq Q] in
/-- The floor that `Account` sets is not above the entity. -/
lemma floorAfter_le_self {v : ℚ} (hle : x.floor ≤ v) : s.floorAfter x v ≤ v := by
  unfold State.floorAfter
  refine max_le hle ?_
  cases x.queue with
  | nil => exact le_rfl
  | cons i l => exact min_le_left _ _

/-- A charge is not negative. -/
lemma charge_nonneg (weight elapsedUs : ℕ) : 0 ≤ State.charge weight elapsedUs :=
  div_nonneg (Nat.cast_nonneg _) (Nat.cast_nonneg _)

/-- An account keeps the invariant. -/
lemma Inv.account {s' : State E Q} {elapsedUs : ℕ} {waiting : Bool} (hI : Inv s)
    (h : s.account q e elapsedUs waiting = some s') : Inv s' := by
  unfold State.account at h
  dsimp only at h
  split at h
  · rename_i hrunning
    cases h
    have hmem : e ∉ (s.queue q).queue := (hI.fair.running q q e hrunning).1
    have hworker := (hI.worker q e).mp hrunning
    have hlinked : (s.entity e).linked = false := hI.apart e (by rw [hworker]; simp)
    have hle := hI.floor_le q e (.inr hrunning)
    have hin := hI.inside q e (.inr hrunning)
    have hcharge := charge_nonneg (s.entity e).weight elapsedUs
    have hself := floorAfter_le_self (s := s) (hle.trans (le_add_of_nonneg_right hcharge))
    refine hI.set (hI.own_of_running hrunning) ?_ ?_ ?_ (hI.nodup q) ?_ ?_ ?_ ?_ ?_ ?_ ?_
    · exact fun _ _ => Iff.rfl
    · intro j hj
      rw [hrunning]
      exact ⟨by rintro ⟨⟩, fun h => absurd (Option.some.inj h).symm hj⟩
    · exact pairwise_update hmem (hI.sorted q)
    · exact fun h => absurd h hmem
    · exact ⟨by rintro ⟨⟩, by rintro ⟨⟩⟩
    · exact .inl rfl
    · exact fun h => absurd rfl h
    · rintro j hj (hm | hm)
      · exact floorAfter_le (hI.sorted q) hm (hI.floor_le q j (.inl hm))
      · cases hm
    · exact fun h => (h.elim hmem fun h => nomatch h).elim
    · intro _ _
      unfold Book.debt at hin ⊢
      dsimp only
      constructor <;> linarith
  · cases h

/-- Every call keeps the invariant. -/
lemma Inv.next {s' : State E Q} {l : Label E Q} (hI : Inv s) (h : next s l = some s') :
    Inv s' := by
  cases l with
  | enqueue q e priority weight =>
    rw [Cfs.next] at h
    split at h
    · rename_i p hw
      split at h <;> cases h
      rename_i hp
      exact hI.enqueue (.inr (hp ▸ hw))
    · rename_i hw
      cases h
      exact hI.enqueue (.inl hw)
  | pick q =>
    cases h
    exact hI.pick
  | account q e elapsedUs waiting => exact hI.account h
  | take q =>
    cases h
    exact hI.take

/-! ## The floors -/

/-- No call lowers a floor. -/
lemma floor_le_next {s' : State E Q} {l : Label E Q} (h : next s l = some s') (p : Q) :
    (s.queue p).floor ≤ (s'.queue p).floor := by
  have hset : ∀ {q x e y b}, (s.queue q).floor ≤ x.floor →
      (s.queue p).floor ≤ ((s.set q x e y b).queue p).floor := fun {q x e y b} hx => by
    by_cases hp : p = q
    · subst hp
      simpa [State.set] using hx
    · simp [State.set, hp]
  cases l with
  | enqueue q e priority weight =>
    have hle : (s.queue p).floor ≤ ((s.enqueue q e priority weight).1.queue p).floor := by
      unfold State.enqueue
      dsimp only
      split
      · exact le_rfl
      · exact hset le_rfl
    rw [Cfs.next] at h
    split at h
    · split at h <;> cases h
      exact hle
    · cases h
      exact hle
  | pick q =>
    cases h
    unfold State.pick
    dsimp only
    split
    · exact hset le_rfl
    · exact le_rfl
  | account q e elapsedUs waiting =>
    rw [Cfs.next, State.account] at h
    split at h <;> cases h
    exact hset (le_max_left _ _)
  | take q =>
    cases h
    unfold State.take
    dsimp only
    split
    · exact le_rfl
    · exact hset le_rfl

/-! ## Main result -/

/-- The invariant holds in every reachable state. -/
lemma inv_of_reachable (h : (system E Q).Reachable s) : Inv s := by
  refine h.induct ?_ fun s l s' hI hs => hI.next hs
  rintro s rfl
  exact
    { sorted := fun _ => List.Pairwise.nil
      nodup := fun _ => List.nodup_nil
      linked := fun _ _ h => nomatch h
      once := fun _ _ _ h => nomatch h
      worker := fun _ _ => ⟨by rintro ⟨⟩, by rintro ⟨⟩⟩
      apart := fun _ _ => rfl
      floor_le := fun _ _ h => by rcases h with h | h <;> cases h
      inside := fun _ _ h => by rcases h with h | h <;> cases h
      outside := fun _ _ => ⟨(sub_self _).symm, (sub_self _).ge⟩ }

/-- In every run the accounts are fair, and no floor is lowered. -/
theorem fair_of_reachable (h : (system E Q).Reachable s) :
    Fair s ∧ ∀ s', (system E Q).PathWhen (fun _ _ => True) s s' →
      ∀ q, (s.queue q).floor ≤ (s'.queue q).floor := by
  refine ⟨(inv_of_reachable h).fair, fun s' hpath => ?_⟩
  refine hpath.induct (I := fun t => ∀ q, (s.queue q).floor ≤ (t.queue q).floor)
    (fun _ => le_rfl) fun t l t' hle _ hs q => (hle q).trans (floor_le_next hs q)

/-- The entity `e` runs on `p` while `j` waits there, and is then enqueued in `q` and stolen
back. -/
def migrate {E Q : Type*} (p q : Q) (e j : E) : List (Label E Q) :=
  [.enqueue p e 1 2, .enqueue p j 1 2, .pick p, .account p e 6 false, .enqueue q e 1 2, .pick p,
    .account p j 2 true, .take q, .enqueue p e 1 2]

/-- The entity keeps the debt of three that it has been charged for. -/
theorem fair_of_reachable_migrate : ∃ s : State (Fin 2) (Fin 2),
    (system (Fin 2) (Fin 2)).Reachable s ∧ (s.queue 0).queue = [0] ∧ (s.queue 0).floor = 1 ∧
      (s.entity 0).vruntime = 4 ∧ Fair s := by
  have hrun : (system (Fin 2) (Fin 2)).endsIn {} (migrate 0 1 0 1)
      (fun s => (s.queue 0).queue = [0] ∧ (s.queue 0).floor = 1 ∧ (s.entity 0).vruntime = 4) =
        true := by
    decide +kernel
  obtain ⟨s, hs, hqueue, hfloor, hv⟩ := System.exists_of_endsIn rfl hrun
  exact ⟨s, hs, hqueue, hfloor, hv, (fair_of_reachable hs).1⟩

end BbtCoroutine.Cfs
