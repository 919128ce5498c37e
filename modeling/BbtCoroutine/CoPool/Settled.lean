import BbtCoroutine.CoPool.Ledger

/-!
# Released pools

When a `Release` has passed the latch, every coroutine of the pool is at its end, so the drain
that follows meets no consumer, and when it finds the queue empty all items are settled.  A
`Submit` that has seen the pool running may still enqueue after that; apart from these, a
released pool stays settled.
-/

namespace BbtCoroutine.CoPool

open Transition

variable {ι : Type*} [DecidableEq ι] {n : ℕ}

/-- The step enqueues no item after a `Release` has returned. -/
def Kept (s : State n ι) : Label n ι → Prop
  | .call i a => s.call i = .enqueue → a.enqueueFails = false → ¬ s.Released
  | _ => True

/-- Whether a pool has been released can be computed. -/
instance State.decidableReleased [Fintype ι] (s : State n ι) : Decidable s.Released := by
  unfold State.Released
  infer_instance

/-- Whether a step is kept can be computed. -/
instance decidableKept [Fintype ι] (s : State n ι) (l : Label n ι) : Decidable (Kept s l) := by
  unfold Kept
  cases l <;> infer_instance

/-- A released pool has an empty queue. -/
def Drained (s : State n ι) : Prop :=
  s.Released → s.shared.works = []

/-- A coroutine of the pool enqueues nothing. -/
lemma Move.works {sh sh' : Shared ι} {p p' : Pc ι} (h : Move sh p sh' p') (hw : sh.works = []) :
    sh'.works = [] := by
  cases h with
  | take hk =>
    rw [hw] at hk
    cases hk
  | _ => exact hw

/-- A move of a caller calls no submission. -/
lemma Frame.Move.invoked {sh sh' : Shared ι} {i : ι} {a : Answer ι} {f f' : Frame}
    (h : Frame.Move sh i a f sh' f') : sh'.invoked = sh.invoked := by
  cases h <;> rfl

/-- A pool was released before the step as well, unless the step is the end of a drain. -/
lemma released_of_update {s : State n ι} {sh : Shared ι} {i : ι} {f : Frame} (hf : f ≠ .released)
    (h : State.Released { s with shared := sh, call := Function.update s.call i f }) :
    s.Released := by
  obtain ⟨j, hj⟩ := h
  refine ⟨j, ?_⟩
  by_cases hji : j = i
  · subst hji
    exact absurd (by simpa using hj) hf
  · simpa [hji] using hj

/-- A move of a caller keeps a drained pool drained. -/
lemma Drained.callMove {s : State n ι} (h : Drained s) {i : ι} {a : Answer ι} {sh : Shared ι}
    {f : Frame} (hk : Kept s (.call i a)) (hm : Frame.Move s.shared i a (s.call i) sh f) :
    Drained { s with shared := sh, call := Function.update s.call i f } := by
  intro hr
  have hk := hk
  generalize hf : s.call i = f₀ at hm
  cases hm with
  | alloc | reject | store | passLatch => exact h (released_of_update (by nofun) hr)
  | goOn _ _ hf' => exact h (released_of_update hf' hr)
  | accept ha => exact absurd (released_of_update (by nofun) hr) (hk hf ha)
  | discard hc hw =>
    have hr : s.Released := released_of_update (by rcases hc with rfl | rfl <;> nofun) hr
    rw [h hr] at hw
    cases hw
  | released hw => exact hw

/-- A kept step keeps a drained pool drained. -/
lemma Drained.next {s s' : State n ι} {l : Label n ι} (h : Drained s) (hk : Kept s l)
    (hs : next s l = some s') : Drained s' := by
  cases l with
  | begin i c =>
    simp only [CoPool.next] at hs
    split_ifs at hs with hi
    obtain rfl := Option.some.inj hs
    exact fun hr => h (released_of_update (by cases c <;> simp [Call.frame]) hr)
  | setExceptionCallback set =>
    obtain rfl := Option.some.inj hs
    exact h
  | call i a =>
    obtain ⟨r, hr, rfl⟩ := Option.map_eq_some_iff.mp hs
    exact h.callMove hk (Frame.move_of_step hr)
  | member m a =>
    obtain ⟨r, hr, rfl⟩ := Option.map_eq_some_iff.mp hs
    exact fun hrel => (Pc.move_of_step hr).works (h hrel)

omit [DecidableEq ι] in
/-- In a released pool every coroutine is at its end. -/
lemma Inv.done_of_released {s : State n ι} (h : Inv s) (hr : s.Released) (m : Member n) :
    s.pc m = .done := by
  obtain ⟨i, hi⟩ := hr
  exact h.past i (by rw [hi]; rfl) m

omit [DecidableEq ι] in
/-- A drained pool that has been released is settled. -/
lemma Inv.settled {s : State n ι} (h : Inv s) (hd : Drained s) (hr : s.Released) : s.Settled where
  settled k hk := by
    rw [or_iff_not_imp_right, Bool.not_eq_true]
    intro hdk
    rcases h.ledger.pending k hk hdk with hw | ⟨m, t, hm⟩
    · rw [hd hr] at hw
      cases hw
    · rw [h.done_of_released hr m] at hm
      cases hm
  works := hd hr

/-- No work item is invoked in a released pool. -/
lemma Inv.invoked_of_path {s s' : State n ι} (h : Inv s) (hr : s.Released)
    (hp : (system n ι).PathWhen (fun _ _ => True) s s') :
    s'.shared.invoked = s.shared.invoked := by
  have hpath : (∀ m, s'.pc m = .done) ∧ s'.shared.invoked = s.shared.invoked := by
    refine hp.induct (I := fun t => (∀ m, t.pc m = .done) ∧ t.shared.invoked = s.shared.invoked)
      ⟨h.done_of_released hr, rfl⟩ ?_
    rintro t l t' ⟨hd, hi⟩ - hs
    cases l with
    | begin i c =>
      simp only [system, CoPool.next] at hs
      split_ifs at hs
      obtain rfl := Option.some.inj hs
      exact ⟨hd, hi⟩
    | setExceptionCallback set =>
      obtain rfl := Option.some.inj hs
      exact ⟨hd, hi⟩
    | call i a =>
      obtain ⟨r, hr, rfl⟩ := Option.map_eq_some_iff.mp hs
      exact ⟨hd, (Frame.move_of_step hr).invoked.trans hi⟩
    | member m a =>
      obtain ⟨r, hr, rfl⟩ := Option.map_eq_some_iff.mp hs
      rw [hd m] at hr
      cases hr
  exact hpath.2

/-- In a run in which no `Submit` enqueues after a `Release` has returned, no item is invoked
twice, and once a `Release` has returned every accepted item is settled and none is invoked any
more. -/
theorem settled_of_kept {s : State n ι} (h : (system n ι).ReachableWhen Kept s) :
    s.InvokedOnce ∧ (s.Released → s.Settled ∧
      ∀ s', (system n ι).PathWhen (fun _ _ => True) s s' →
        s'.shared.invoked = s.shared.invoked) := by
  have hI := inv_of_reachable h.reachable
  have hd : Drained s := by
    refine h.induct ?_ fun s l s' hI hk hs => hI.next hk hs
    rintro s rfl ⟨i, hi⟩
    cases hi
  exact ⟨hI.ledger.once, fun hr => ⟨hI.settled hd hr, fun s' hp => hI.invoked_of_path hr hp⟩⟩

/-- The steps of a coroutine of the pool, with nothing to take. -/
def runs (m : Member n) (k : ℕ) : List (Label n ι) :=
  List.replicate k (.member m {})

/-- The steps of a call. -/
def calls (i : ι) (k : ℕ) : List (Label n ι) :=
  List.replicate k (.call i {})

/-- A pool of one worker is released while one item is invoked and another one is queued. -/
theorem settled_of_kept_release : ∃ s : State 1 (Fin 3),
    (system 1 (Fin 3)).ReachableWhen Kept s ∧ s.shared.accepted 1 = true ∧ s.Settled := by
  have hrun : (system 1 (Fin 3)).endsInWhen Kept (init 1 (Fin 3))
      (List.flatten [[.begin 0 .submit], calls 0 4, [.begin 1 .submitWithFuture], calls 1 4,
        runs (.work 0) 2, [.member (.work 0) { pick := some 0 }], runs (.work 0) 1,
        [.begin 2 .release], calls 2 2, runs (.work 0) 5, runs .monitor 4,
        calls 2 3, [.call 2 { pick := some 1 }], calls 2 1])
      (fun s => s.shared.accepted 1 = true ∧ s.Released) = true := by decide +kernel
  obtain ⟨s, hs, ha, hr⟩ := System.exists_of_endsInWhen rfl hrun
  exact ⟨s, hs, ha, ((settled_of_kept hs).2 hr).1⟩

/-- A `Submit` sees the pool running, the pool is released, and then the item is accepted. -/
theorem not_settled_late : ∃ s : State 1 (Fin 2),
    (system 1 (Fin 2)).Reachable s ∧ s.Released ∧ ¬ s.Settled := by
  have hrun : (system 1 (Fin 2)).endsIn (init 1 (Fin 2))
      (List.flatten [[.begin 0 .submit], calls 0 2, [.begin 1 .release], calls 1 2,
        runs (.work 0) 4, runs .monitor 4, calls 1 2, calls 0 2])
      (fun s => s.call 0 = .submitted true ∧ s.Released ∧ s.shared.works = [0]) = true := by
    decide +kernel
  obtain ⟨s, hs, -, hr, hw⟩ := System.exists_of_endsIn rfl hrun
  refine ⟨s, hs, hr, fun h => ?_⟩
  rw [h.works] at hw
  cases hw

end BbtCoroutine.CoPool
