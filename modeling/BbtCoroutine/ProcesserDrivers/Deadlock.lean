import BbtCoroutine.ProcesserDrivers.Stacks

/-!
# Unregistrations that wait for each other

The tests of `UnregisterProcesserDriver` exclude that a thread waits for a lease of its own.
They do not look at the callbacks of other bindings: `not_deadlockFree` is a run in which two
workers detach each other's driver inside their ticks and wait forever.  Every deadlocked set
has that shape: it contains a cycle of threads each of which made its call inside a callback
of the binding that the thread before it detaches (`deadlocks_cross`).  So there is no deadlock if
the calls that are made inside callbacks ascend in some strict order of the bindings.
-/

namespace BbtCoroutine.ProcesserDrivers

open Transition Driver

variable {T P : Type*}

namespace State

/-- The thread runs user code inside a callback of the binding, and has called out of it. -/
def Inside (s : State T P) (t : T) (k : P × ℕ) : Prop :=
  ∃ f, (k.1, f) ∈ (s.stack t).tail ∧ f.user = true ∧ f.counted = some k.2

/-- The first thread is blocked on a lease of the second one, which is blocked on another binding in
a call that it made inside the callback of that lease. -/
def Crosses (s : State T P) (S : Set T) (t u : T) : Prop :=
  t ∈ S ∧ u ∈ S ∧ u ≠ t ∧ ∃ k k', k' ≠ k ∧ s.Blocked t k ∧ s.Inside u k ∧ s.Blocked u k'

/-- The innermost frame of a blocked thread holds no lease and detaches the binding. -/
lemma Blocked.frame {s : State T P} {t : T} {k : P × ℕ} (h : s.Blocked t k) :
    ∃ f below, s.stack t = (k.1, f) :: below ∧ f.counted = none ∧ f.passed = some k.2 := by
  rcases h with ⟨below, hstack, -⟩ | ⟨below, hstack, -⟩
  · exact ⟨_, below, hstack, rfl, rfl⟩
  · exact ⟨_, below, hstack, rfl, rfl⟩

/-- A thread is blocked on one binding at a time. -/
lemma Blocked.unique {s : State T P} {t : T} {k k' : P × ℕ} (h : s.Blocked t k)
    (h' : s.Blocked t k') : k = k' := by
  obtain ⟨f, below, hstack, -, hpassed⟩ := h.frame
  obtain ⟨f', below', hstack', -, hpassed'⟩ := h'.frame
  obtain ⟨heq, -⟩ := List.cons.inj (hstack.symm.trans hstack')
  obtain ⟨hp, rfl⟩ := Prod.mk.inj heq
  exact Prod.ext hp (Option.some.inj (hpassed.symm.trans hpassed'))

end State

variable {r : P × ℕ → P × ℕ → Prop} {s : State T P} {t : T} {k k' : P × ℕ}

/-- A blocked thread holds a lease only inside a callback. -/
lemma StackInv.inside (h : StackInv r s.stack) (hb : s.Blocked t k) (hheld : s.Holds t k') :
    s.Inside t k' := by
  obtain ⟨f, below, hstack, hcounted, -⟩ := hb.frame
  obtain ⟨f', hmem, hf'⟩ := hheld
  rw [hstack] at hmem
  rcases List.mem_cons.mp hmem with heq | hmem
  · obtain ⟨-, rfl⟩ := Prod.mk.inj heq
    rw [hcounted] at hf'
    cases hf'
  · have htail : (k'.1, f') ∈ (s.stack t).tail := by rwa [hstack]
    exact ⟨f', htail, h.user t _ htail, hf'⟩

/-- A thread that is blocked inside a callback is blocked on another binding, above that of the
callback. -/
lemma StackInv.ascends (h : StackInv r s.stack) (hb : s.Blocked t k) (hheld : s.Holds t k') :
    k' ≠ k ∧ r k' k := by
  obtain ⟨f', hmem, huser, hcounted⟩ := h.inside hb hheld
  obtain ⟨f, below, hstack, -, hpassed⟩ := hb.frame
  have hpair := h.nested t
  rw [hstack] at hpair hmem
  exact (List.pairwise_cons.mp hpair).1 (k'.1, f') hmem k.2 k'.2 hpassed
    ((Frame.held_of_user huser).trans hcounted)

/-- A blocked thread holds no lease of the binding that it is blocked on. -/
lemma StackInv.not_holds (h : StackInv r s.stack) (hb : s.Blocked t k) : ¬ s.Holds t k :=
  fun hheld => (h.ascends hb hheld).1 rfl

/-- The threads of a deadlocked set have frames, so the set is finite. -/
lemma StackInv.finite_of_deadlocked (h : StackInv r s.stack) {S : Set T}
    (hS : Deadlocked s.Blocked s.Holds S) : S.Finite := by
  refine h.finite.subset fun t ht => ?_
  obtain ⟨k, hk, -⟩ := hS.waits t ht
  obtain ⟨f, below, hstack, -⟩ := hk.frame
  intro hnil
  rw [hstack] at hnil
  cases hnil

/-- What holds of the threads that are blocked in `_UnregisterDriver`. -/
structure CrossesOnly (s : State T P) : Prop where
  own : ∀ t k, s.Blocked t k → ¬ s.Holds t k
  /-- A leader that is blocked waits for a lease of another thread. -/
  holder : ∀ t k below, s.stack t = (k.1, .drain k.2) :: below → s.Blocked t k →
    ∃ u, u ≠ t ∧ s.Holds u k
  /-- A deadlock is a cycle of calls that are made inside callbacks. -/
  cycle : ∀ S, Deadlocked s.Blocked s.Holds S →
    ∃ t ∈ S, Relation.TransGen (s.Crosses S) t t

variable [DecidableEq T] [DecidableEq P] {localProcesser : T → Option P}

/-- The leases that a leader waits for are held by other threads. -/
lemma exists_holder (h : (system localProcesser).Reachable s) {below : List (P × Frame)}
    (hstack : s.stack t = (k.1, .drain k.2) :: below) (hinflight : (s.binding k).inflight ≠ 0) :
    ∃ u, s.Holds u k := by
  have hinv := Driver.inv_of_reachable (slot_reachable h k.1)
  have hmem : Frame.drain k.2 ∈ (slot k.1 s).stack t := by
    change _ ∈ own k.1 (s.stack t)
    rw [hstack, own_cons_self]
    exact List.mem_cons_self
  obtain ⟨hpos, hle⟩ := hinv.frames t _ hmem k.2 rfl
  have htally := (hinv.bound k.2 hpos hle).tally
  have hcard : (s.binding k).inflight = (s.binding k).holders.card := htally.inflight
  obtain ⟨u, hu⟩ := Multiset.card_pos_iff_exists_mem.mp (by omega : 0 < (s.binding k).holders.card)
  have hcount : (s.binding k).holders.count u =
      ((slot k.1 s).stack u).countP fun f => f.counted = some k.2 := htally.holders u
  have hpos' : 0 < (s.binding k).holders.count u := Multiset.count_pos.mpr hu
  rw [hcount, List.countP_pos_iff] at hpos'
  obtain ⟨f, hf, hcounted⟩ := hpos'
  obtain ⟨⟨p, f'⟩, hb, rfl⟩ := List.mem_map.mp hf
  obtain ⟨hb, hp⟩ := List.mem_filter.mp hb
  obtain rfl : p = k.1 := by simpa using hp
  exact ⟨u, f', hb, by simpa using hcounted⟩

/-- No thread waits for a lease of its own; a deadlocked set contains a cycle of threads that made
their calls inside callbacks of each other's bindings; and if such calls ascend in a strict order
of the bindings, there is no deadlocked set. -/
theorem deadlocks_cross (h : (system localProcesser).Reachable s) :
    CrossesOnly s ∧ ∀ (r : P × ℕ → P × ℕ → Prop) [IsStrictOrder (P × ℕ) r],
      (system localProcesser).ReachableWhen (Nests r) s →
        ∀ S, ¬ Deadlocked s.Blocked s.Holds S := by
  have hi : StackInv (fun _ _ => True) s.stack :=
    stackInv_of_reachable (h.mono fun _ _ _ _ _ _ _ _ _ _ _ => trivial)
  refine ⟨⟨fun t k hb => hi.not_holds hb, fun t k below hstack hb => ?_, fun S hS => ?_⟩,
    fun r _ hr S hS => ?_⟩
  · rcases hb with ⟨below', hstack', hinflight⟩ | ⟨below', hstack', -⟩
    · obtain ⟨u, hu⟩ := exists_holder h hstack hinflight
      refine ⟨u, ?_, hu⟩
      rintro rfl
      exact hi.not_holds (.inl ⟨below', hstack', hinflight⟩) hu
    · obtain ⟨heq, -⟩ := List.cons.inj (hstack.symm.trans hstack')
      cases (Prod.mk.inj heq).2
  · obtain ⟨t, ht, hcycle⟩ := hS.exists_cycle (hi.finite_of_deadlocked hS)
    have hcross : ∀ a b, WaitsFor s.Blocked s.Holds S a b → s.Crosses S a b := by
      rintro a b ⟨ha, hb, hne, k, hblocked, hheld⟩
      obtain ⟨k', hk', -⟩ := hS.waits b hb
      exact ⟨ha, hb, hne, k, k', (hi.ascends hk' hheld).1.symm, hblocked, hi.inside hk' hheld, hk'⟩
    exact ⟨t, ht, Relation.TransGen.mono hcross t t hcycle⟩
  · have hr' := stackInv_of_reachable hr
    have hup : ∀ t k k', s.Holds t k → s.Blocked t k' → r k k' := fun t k k' hheld hb =>
      (hr'.ascends hb hheld).2
    have hone : ∀ t k k', s.Blocked t k → s.Blocked t k' → k = k' := fun t k k' hb hb' =>
      hb.unique hb'
    exact not_deadlocked_of_ascending hup hone (hi.finite_of_deadlocked hS) hS

/-- The workers of the processers 1 and 2; the other threads are no workers. -/
def twoWorkers (t : ℕ) : Option ℕ :=
  if t = 1 ∨ t = 2 then some t else none

/-- The driver of the processer 1 is detached while it ticks. -/
theorem deadlocks_cross_ticking : ∃ s : State ℕ ℕ, s.Blocked 3 (1, 1) ∧ s.Holds 1 (1, 1) ∧
    CrossesOnly s := by
  have hrun : (system twoWorkers).endsIn {}
      [.add 1, .bind 4 1 true, .call 1 1 .tick, .run 1 false .ok, .run 1 false .ok,
        .run 1 false .ok, .unregister 3 1 1, .run 3 false .ok, .run 3 false .ok, .run 3 false .ok,
        .run 3 false .ok, .run 3 false .ok]
      (fun s => s.stack 3 = [(1, .drain 1)] ∧ (s.binding (1, 1)).inflight ≠ 0 ∧
        s.stack 1 = [(1, .running .tick 1)]) = true := by
    decide
  obtain ⟨s, hs, hleader, hinflight, hticking⟩ := System.exists_of_endsIn rfl hrun
  refine ⟨s, .inl ⟨[], hleader, hinflight⟩, ⟨.running .tick 1, ?_, rfl⟩,
    (deadlocks_cross hs).1⟩
  rw [hticking]
  exact List.mem_cons_self

/-- Each of two workers detaches the driver of the other one inside the tick of its own. -/
theorem not_deadlockFree : ∃ s : State ℕ ℕ, (system twoWorkers).Reachable s ∧
    Deadlocked s.Blocked s.Holds {1, 2} := by
  have hrun : (system twoWorkers).endsIn {}
      [.add 1, .add 2, .bind 3 1 true, .bind 4 2 true,
        .call 1 1 .tick, .run 1 false .ok, .run 1 false .ok, .run 1 false .ok,
        .call 2 2 .tick, .run 2 false .ok, .run 2 false .ok, .run 2 false .ok,
        .unregister 1 2 1, .run 1 false .ok, .run 1 false .ok, .run 1 false .ok, .run 1 false .ok,
        .run 1 false .ok,
        .unregister 2 1 1, .run 2 false .ok, .run 2 false .ok, .run 2 false .ok, .run 2 false .ok,
        .run 2 false .ok]
      (fun s => s.stack 1 = [(2, .drain 1), (1, .running .tick 1)] ∧
        s.stack 2 = [(1, .drain 1), (2, .running .tick 1)] ∧
        (s.binding (2, 1)).inflight ≠ 0 ∧ (s.binding (1, 1)).inflight ≠ 0) = true := by
    decide
  obtain ⟨s, hs, h₁, h₂, hinflight₂, hinflight₁⟩ := System.exists_of_endsIn rfl hrun
  have hholds₁ : s.Holds 1 (1, 1) := ⟨.running .tick 1, by rw [h₁]; simp, rfl⟩
  have hholds₂ : s.Holds 2 (2, 1) := ⟨.running .tick 1, by rw [h₂]; simp, rfl⟩
  refine ⟨s, hs, ⟨1, .inl rfl⟩, fun t ht => ?_⟩
  rcases ht with rfl | rfl
  · exact ⟨(2, 1), .inl ⟨_, h₁, hinflight₂⟩, 2, .inr rfl, by decide, hholds₂⟩
  · exact ⟨(1, 1), .inl ⟨_, h₂, hinflight₁⟩, 1, .inl rfl, by decide, hholds₁⟩

end BbtCoroutine.ProcesserDrivers
