import BbtCoroutine.CoPool.Steps
import BbtCoroutine.CoPool.Workers

/-!
# The coroutines of a `CoPool` and their workers

`Placed.Move` lists what a pool on its workers may do.  Each step is at most one step of the
pool, and a coroutine that runs is where its worker has it.
-/

namespace BbtCoroutine.CoPool

open Transition

variable {n : ℕ} {ι P : Type*} [DecidableEq ι] [DecidableEq P] {isCo : ι → Bool}

/-! ## The pool below -/

namespace Placed

variable {s s' : Placed n ι P}

omit [DecidableEq P] in
/-- A step of the pool alone moves no coroutine. -/
lemma step_pool {l : Label n ι} (h : s.step l = some s') :
    CoPool.next s.pool l = some s'.pool ∧ s'.place = s.place ∧ s'.running = s.running := by
  obtain ⟨t, ht, rfl⟩ := Option.map_eq_some_iff.mp h
  exact ⟨ht, rfl, rfl⟩

@[simp] lemma finish_pool (s : Placed n ι P) (p : P) (m : Member n) :
    (s.finish p m).pool = s.pool := by
  unfold finish
  split_ifs <;> rfl

/-- What a worker does with the coroutine that it runs. -/
lemma work_cases {p : P} {a : Answer ι} (h : s.work p a = some s') :
    (∃ m t, s.running p = some (.member m) ∧ s.step (.member m a) = some t ∧ s' = t.finish p m) ∨
      ∃ i, s.running p = some (.caller i) ∧ s.step (.call i a) = some s' := by
  unfold work at h
  split at h
  · rename_i m hm
    obtain ⟨t, ht, rfl⟩ := Option.map_eq_some_iff.mp h
    exact .inl ⟨m, t, hm, ht, rfl⟩
  · rename_i i hi
    exact .inr ⟨i, hi, h⟩
  · cases h

omit [DecidableEq ι] in
/-- What a coroutine does when it suspends. -/
lemma suspend_cases {p : P} (h : s.suspend p = some s') :
    (∃ m, s.running p = some (.member m) ∧ (s.pool.pc m).suspends = true ∧
        s' = s.put m .parked p none) ∨
      ∃ i, s.running p = some (.caller i) ∧ (s.pool.call i).suspends = true ∧
        s' = { s with running := Function.update s.running p none } := by
  unfold suspend at h
  split at h
  · rename_i m hm
    split_ifs at h with hs
    exact .inl ⟨m, hm, hs, (Option.some.inj h).symm⟩
  · rename_i i hi
    split_ifs at h with hs
    exact .inr ⟨i, hi, hs, (Option.some.inj h).symm⟩
  · cases h

end Placed

/-- What a step of a pool on its workers may do. -/
inductive Placed.Move (isCo : ι → Bool) (s : Placed n ι P) : Action n ι P → Placed n ι P → Prop
  | wait {l : Action n ι P} {m : Member n} {q : Place P} (hm : ∀ p, s.place m ≠ .running p)
      (hq : ∀ p, q ≠ .running p) :
      Move isCo s l { s with place := Function.update s.place m q }
  | resume {p : P} {m : Member n} (hp : s.running p = none) (hm : ∀ q, s.place m ≠ .running q) :
      Move isCo s (.resume p m) (s.put m (.running p) p (some (.member m)))
  | resumeCaller {p : P} {i : ι} (hi : isCo i = true) (hp : s.running p = none)
      (hq : ∀ q, s.running q ≠ some (.caller i)) : Move isCo s (.resumeCaller p i)
        { s with running := Function.update s.running p (some (.caller i)) }
  | suspend {p : P} {m : Member n} (hp : s.running p = some (.member m))
      (hm : (s.pool.pc m).suspends = true) : Move isCo s (.suspend p) (s.put m .parked p none)
  | suspendCaller {p : P} {i : ι} (hp : s.running p = some (.caller i))
      (hi : (s.pool.call i).suspends = true) : Move isCo s (.suspend p)
        { s with running := Function.update s.running p none }
  | member {p : P} {m : Member n} {a : Answer ι} {sh : Shared ι} {c : Pc ι}
      (hp : s.running p = some (.member m)) (hm : CoPool.Move s.pool.shared (s.pool.pc m) sh c) :
      Move isCo s (.work p a) (Placed.finish { s with
        pool := { s.pool with shared := sh, pc := Function.update s.pool.pc m c } } p m)
  | call {l : Action n ι P} {i : ι} {a : Answer ι} {sh : Shared ι} {f : Frame}
      (hp : isCo i = true → f = .latch → ∃ p, s.running p = some (.caller i) ∧ l = .work p a)
      (hi : Frame.Move s.pool.shared i a (s.pool.call i) sh f)
      (hl : f = .latch → s.pool.call i = .poll ∧ s.pool.shared.runningCoNum = 0) :
      Move isCo s l { s with
        pool := { s.pool with shared := sh, call := Function.update s.pool.call i f } }
  | setExceptionCallback {set : Bool} : Move isCo s (.setExceptionCallback set) { s with
      pool := { s.pool with shared := { s.pool.shared with exceptionCallback := set } } }

/-- A call comes to the latch when it has read that no coroutine of the pool is running. -/
lemma Frame.step_latch {sh sh' : Shared ι} {i : ι} {a : Answer ι} {f : Frame}
    (h : f.step sh i a = some (sh', .latch)) : f = .poll ∧ sh.runningCoNum = 0 := by
  cases f with
  | idle | submitted | threw | released => cases h
  | poll =>
    refine ⟨rfl, ?_⟩
    have h := congrArg Prod.snd (Option.some.inj h)
    by_contra hne
    simp [hne] at h
  | submit | check | enqueue =>
    have h := congrArg Prod.snd (Option.some.inj h)
    simp only at h
    split_ifs at h
  | notify | store | sleep => cases h
  | latch =>
    simp only [step] at h
    split_ifs at h
    cases h
  | destroy | drain =>
    obtain ⟨r, -, hr⟩ := Option.map_eq_some_iff.mp h
    have hr := congrArg Prod.snd hr
    cases hk : r.2 <;> rw [hk] at hr <;> cases hr

namespace Placed

variable [Fintype P] {s s' : Placed n ι P} {l : Action n ι P}

omit [Fintype P] in
/-- A step of a caller is a move of the threads. -/
lemma Move.of_call {i : ι} {a : Answer ι} (h : s.step (.call i a) = some s')
    (hp : isCo i = true → ∃ p, s.running p = some (.caller i) ∧ l = .work p a) :
    s.Move isCo l s' := by
  obtain ⟨t, ht, rfl⟩ := Option.map_eq_some_iff.mp h
  obtain ⟨⟨sh, f⟩, hr, rfl⟩ := Option.map_eq_some_iff.mp ht
  refine .call (fun hc _ => hp hc) (Frame.move_of_step hr) ?_
  rintro rfl
  exact Frame.step_latch hr

/-- Every step of a pool on its workers is one of the listed moves. -/
lemma move_of_next (h : next isCo s l = some s') : s.Move isCo l s' := by
  cases l with
  | regist m p =>
    simp only [next] at h
    split_ifs at h with hm
    obtain rfl := Option.some.inj h
    exact .wait (by rw [hm]; nofun) (by nofun)
  | begin i c =>
    simp only [next] at h
    split_ifs at h with hm
    obtain ⟨t, ht, rfl⟩ := Option.map_eq_some_iff.mp h
    simp only [CoPool.next] at ht
    split_ifs at ht with hi
    obtain rfl := Option.some.inj ht
    refine .call (a := {}) (by cases c <;> nofun) ?_ (by cases c <;> nofun)
    rw [hi]
    cases c <;> exact .goOn (fun _ => rfl) (by nofun) (by nofun)
  | setExceptionCallback set =>
    obtain rfl := Option.some.inj h
    exact .setExceptionCallback
  | thread i a =>
    simp only [next] at h
    split_ifs at h with hi
    exact .of_call h fun hc => absurd hc hi
  | work p a =>
    rcases work_cases h with ⟨m, t, hm, ht, rfl⟩ | ⟨i, hi, ht⟩
    · obtain ⟨u, hu, rfl⟩ := Option.map_eq_some_iff.mp ht
      obtain ⟨⟨sh, c⟩, hr, rfl⟩ := Option.map_eq_some_iff.mp hu
      exact .member hm (Pc.move_of_step hr)
    · exact .of_call ht fun _ => ⟨p, hi, rfl⟩
  | suspend p =>
    rcases suspend_cases h with ⟨m, hm, hs, rfl⟩ | ⟨i, hi, hs, rfl⟩
    · exact .suspend hm hs
    · exact .suspendCaller hi hs
  | ready m p =>
    simp only [next] at h
    split_ifs at h with hm
    obtain rfl := Option.some.inj h
    exact .wait (by rw [hm]; nofun) (by cases p <;> nofun)
  | fetch p m =>
    simp only [next] at h
    split_ifs at h with hm
    obtain rfl := Option.some.inj h
    refine .wait (fun q hq => ?_) (by nofun)
    rw [hq] at hm
    cases hm.2
  | resume p m =>
    simp only [next] at h
    split_ifs at h with hm
    obtain rfl := Option.some.inj h
    exact .resume hm.1 (by rw [hm.2]; nofun)
  | resumeCaller p i =>
    simp only [next] at h
    split_ifs at h with hi
    obtain rfl := Option.some.inj h
    exact .resumeCaller hi.1 hi.2.1 hi.2.2

/-- A step of a pool on its workers is at most one step of the pool. -/
lemma pool_next (h : next isCo s l = some s') :
    s'.pool = s.pool ∨ ∃ k, CoPool.next s.pool k = some s'.pool := by
  have hstep : ∀ {k : Label n ι} {t : Placed n ι P}, s.step k = some t →
      ∃ k, CoPool.next s.pool k = some t.pool := fun ht => ⟨_, (step_pool ht).1⟩
  cases l with
  | begin i c =>
    simp only [next] at h
    split_ifs at h
    exact .inr (hstep h)
  | setExceptionCallback set => exact .inr (hstep h)
  | thread i a =>
    simp only [next] at h
    split_ifs at h
    exact .inr (hstep h)
  | work p a =>
    rcases work_cases h with ⟨m, t, -, ht, rfl⟩ | ⟨i, -, ht⟩
    · rw [finish_pool]
      exact .inr (hstep ht)
    · exact .inr (hstep ht)
  | suspend p => rcases suspend_cases h with ⟨m, -, -, rfl⟩ | ⟨i, -, -, rfl⟩ <;> exact .inl rfl
  | regist | ready | fetch | resume | resumeCaller =>
    simp only [next] at h
    split_ifs at h
    obtain rfl := Option.some.inj h
    exact .inl rfl

end Placed

/-- A pool on its workers runs as the pool does. -/
theorem placed_simulates [Fintype P] :
    Simulation (placedSystem n P isCo) (system n ι) fun s t => s.pool = t where
  start := by
    rintro s rfl
    exact ⟨_, rfl, rfl⟩
  step := by
    rintro s l s' t - rfl hs
    rcases Placed.pool_next hs with he | ⟨k, hk⟩
    · exact .inl he
    · exact .inr ⟨k, _, hk, rfl⟩

/-! ## Who runs where -/

/-- The coroutines are where their workers have them. -/
structure Seated (isCo : ι → Bool) (s : Placed n ι P) : Prop where
  here : ∀ p m, s.running p = some (.member m) → s.place m = .running p
  there : ∀ p m, s.place m = .running p → s.running p = some (.member m)
  caller : ∀ p i, s.running p = some (.caller i) → isCo i = true
  unique : ∀ p q i, s.running p = some (.caller i) → s.running q = some (.caller i) → p = q
  down : ∀ m, s.pool.pc m = .down → ∃ p, s.place m = .running p
  latch : ∀ i, isCo i = true → s.pool.call i = .latch → ∃ p, s.running p = some (.caller i)

namespace Seated

variable {s s' : Placed n ι P}

omit [DecidableEq ι] [DecidableEq P] in
/-- A coroutine that does not run may change its queue. -/
lemma wait (h : Seated isCo s) {m : Member n} {q : Place P} (hm : ∀ p, s.place m ≠ .running p)
    (hq : ∀ p, q ≠ .running p) :
    Seated isCo { s with place := Function.update s.place m q } where
  here p x hx := by
    have hp := h.here p x hx
    have hxm : x ≠ m := by
      rintro rfl
      exact hm p hp
    simpa [hxm] using hp
  there p x hx := by
    have hxm : x ≠ m := by
      rintro rfl
      exact hq p (by simpa using hx)
    exact h.there p x (by simpa [hxm] using hx)
  caller := h.caller
  unique := h.unique
  down x hx := by
    obtain ⟨p, hp⟩ := h.down x hx
    have hxm : x ≠ m := by
      rintro rfl
      exact hm p hp
    exact ⟨p, by simpa [hxm] using hp⟩
  latch := h.latch

section

omit [DecidableEq ι]

/-- A coroutine of the pool goes to the worker `p`, or leaves it. -/
lemma put (h : Seated isCo s) {m : Member n} {q : Place P} {p : P} {c : Option (Co n ι)}
    (hm : ∀ r, s.place m = .running r → r = p) (hp : ∀ i, s.running p ≠ some (.caller i))
    (hx : ∀ x, s.running p = some (.member x) → x = m)
    (hc : q = .running p ∧ c = some (.member m) ∨
      (∀ r, q ≠ .running r) ∧ c = none ∧ s.pool.pc m ≠ .down) :
    Seated isCo (s.put m q p c) where
  here := by
    have := h.here
    simp only [Placed.put, Function.update_apply]
    grind
  there := by
    have := h.there
    simp only [Placed.put, Function.update_apply]
    grind
  caller := by
    have := h.caller
    simp only [Placed.put, Function.update_apply]
    grind
  unique := by
    have := h.unique
    simp only [Placed.put, Function.update_apply]
    grind
  down := by
    have := h.down
    simp only [Placed.put, Function.update_apply]
    grind
  latch := by
    have := h.latch
    simp only [Placed.put, Function.update_apply]
    grind

/-- A coroutine that makes calls goes to an idle worker. -/
lemma resumeCaller (h : Seated isCo s) {p : P} {i : ι} (hi : isCo i = true)
    (hp : s.running p = none) (hq : ∀ q, s.running q ≠ some (.caller i)) :
    Seated isCo { s with running := Function.update s.running p (some (.caller i)) } where
  here := by
    have := h.here
    simp only [Function.update_apply]
    grind
  there := by
    have := h.there
    simp only [Function.update_apply]
    grind
  caller := by
    have := h.caller
    simp only [Function.update_apply]
    grind
  unique := by
    have := h.unique
    simp only [Function.update_apply]
    grind
  down := h.down
  latch := by
    have := h.latch
    simp only [Function.update_apply]
    grind

/-- A coroutine that makes calls suspends outside of the latch. -/
lemma suspendCaller (h : Seated isCo s) {p : P} {i : ι} (hp : s.running p = some (.caller i))
    (hi : (s.pool.call i).suspends = true) :
    Seated isCo { s with running := Function.update s.running p none } where
  here := by
    have := h.here
    simp only [Function.update_apply]
    grind
  there := by
    have := h.there
    simp only [Function.update_apply]
    grind
  caller := by
    have := h.caller
    simp only [Function.update_apply]
    grind
  unique := by
    have := h.unique
    simp only [Function.update_apply]
    grind
  down := h.down
  latch := by
    have := h.latch
    have hne : s.pool.call i ≠ .latch := by
      intro hl
      rw [hl] at hi
      cases hi
    simp only [Function.update_apply]
    grind

end

/-- The pool makes a step of the coroutine that a worker runs. -/
lemma member (h : Seated isCo s) {p : P} {m : Member n} {sh : Shared ι} {c : Pc ι}
    (hp : s.running p = some (.member m)) :
    Seated isCo (Placed.finish { s with
      pool := { s.pool with shared := sh, pc := Function.update s.pool.pc m c } } p m) := by
  have hs : Seated isCo { s with
      pool := { s.pool with shared := sh, pc := Function.update s.pool.pc m c } } := by
    refine ⟨h.here, h.there, h.caller, h.unique, fun x hx => ?_, h.latch⟩
    by_cases hxm : x = m
    · exact ⟨p, by rw [hxm]; exact h.here p m hp⟩
    · exact h.down x (by simpa [hxm] using hx)
  unfold Placed.finish
  split_ifs with hd
  · refine hs.put ?_ ?_ ?_ (.inr ⟨by nofun, rfl, by rw [hd]; nofun⟩)
    · intro r hr
      have := h.there r m hr
      rw [h.here p m hp] at hr
      exact (Place.running.inj hr).symm
    · intro i hi
      rw [hp] at hi
      cases hi
    · intro x hx
      rw [hp] at hx
      cases hx
      rfl
  · exact hs

omit [DecidableEq P] in
/-- The pool makes a step of a call. -/
lemma call (h : Seated isCo s) {i : ι} {sh : Shared ι} {f : Frame}
    (hp : isCo i = true → f = .latch → ∃ p, s.running p = some (.caller i)) :
    Seated isCo { s with
      pool := { s.pool with shared := sh, call := Function.update s.pool.call i f } } := by
  refine ⟨h.here, h.there, h.caller, h.unique, h.down, fun j hj hl => ?_⟩
  by_cases hji : j = i
  · subst hji
    exact hp hj (by simpa using hl)
  · exact h.latch j hj (by simpa [hji] using hl)

/-- A move keeps each coroutine in one seat. -/
lemma move (h : Seated isCo s) {l : Action n ι P} (hm : s.Move isCo l s') : Seated isCo s' := by
  cases hm with
  | wait hm hq => exact h.wait hm hq
  | resume hp hm =>
    refine h.put (fun r hr => absurd hr (hm r)) ?_ ?_ (.inl ⟨rfl, rfl⟩) <;>
      rw [hp] <;> nofun
  | resumeCaller hi hp hq => exact h.resumeCaller hi hp hq
  | @suspend p m hp hs =>
    refine h.put ?_ ?_ ?_ (.inr ⟨by nofun, rfl, ?_⟩)
    · intro r hr
      rw [h.here p m hp] at hr
      exact (Place.running.inj hr).symm
    · rw [hp]
      nofun
    · intro x hx
      rw [hp] at hx
      cases hx
      rfl
    · intro hd
      rw [hd] at hs
      cases hs
  | suspendCaller hp hi => exact h.suspendCaller hp hi
  | member hp => exact h.member hp
  | call hp =>
    refine h.call fun hc hl => ?_
    obtain ⟨p, hp, -⟩ := hp hc hl
    exact ⟨p, hp⟩
  | setExceptionCallback => exact ⟨h.here, h.there, h.caller, h.unique, h.down, h.latch⟩

end Seated

end BbtCoroutine.CoPool
