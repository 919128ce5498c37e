import BbtCoroutine.CoPool.Model
import BbtCoroutine.Transition.Weight
import Mathlib.Data.Fintype.Option
import Mathlib.Tactic.SplitIfs

/-!
# What the steps of a `CoPool` do

`Move` lists what a coroutine of the pool may do and `Frame.Move` what a call may do, with the
members of the pool that change; `Pc.move_of_step` and `Frame.move_of_step` say that the lists
are complete.
-/

namespace BbtCoroutine.CoPool

open Transition

variable {ι : Type*} [DecidableEq ι] {n : ℕ}

/-- The number of a worker, `none` for the monitor. -/
def Member.index : Member n → Option (Fin n)
  | work i => some i
  | monitor => none

/-- The coroutines of the pool are numbered. -/
lemma Member.index_bijective : Function.Bijective (index (n := n)) := by
  constructor
  · intro m m' h
    cases m <;> cases m' <;> cases h <;> rfl
  · rintro (_ | i)
    · exact ⟨monitor, rfl⟩
    · exact ⟨work i, rfl⟩

/-- A pool of `n` workers has a monitor as well. -/
lemma card_member (n : ℕ) : Fintype.card (Member n) = n + 1 := by
  rw [Fintype.card_of_bijective Member.index_bijective, Fintype.card_option, Fintype.card_fin]

/-! ## The members of the pool -/

namespace Shared

variable {sh : Shared ι}

/-- Setting a future changes the futures only. -/
lemma exists_setFuture (sh : Shared ι) (k : ι) (f : Future) :
    ∃ g, sh.setFuture k f = { sh with future := g } := by
  unfold setFuture
  split_ifs
  · exact ⟨sh.future, rfl⟩
  · exact ⟨_, rfl⟩

/-- Deleting a submission changes the futures and marks it. -/
lemma exists_delete (sh : Shared ι) (k : ι) :
    ∃ g, sh.delete k =
      { sh with future := g, deleted := Function.update sh.deleted k true } := by
  unfold delete
  split_ifs
  · obtain ⟨g, hg⟩ := sh.exists_setFuture k .broken
    rw [hg]
    exact ⟨g, rfl⟩
  · exact ⟨sh.future, rfl⟩

/-- An exception changes the futures and the count of unhandled ones only. -/
lemma exists_handleWorkException (sh : Shared ι) (k : ι) (throws : Bool) :
    ∃ g u, sh.handleWorkException k throws =
      { sh with future := g, unhandledExceptionCount := u } := by
  unfold handleWorkException
  split_ifs
  · obtain ⟨g, hg⟩ := sh.exists_setFuture k .exception
    rw [hg]
    exact ⟨g, _, rfl⟩
  · exact ⟨sh.future, _, rfl⟩
  · exact ⟨sh.future, _, rfl⟩

/-- The items that `try_dequeue` may find. -/
lemma tryDequeue_cases {pick : Option ι} {r : Shared ι × Option ι}
    (h : sh.tryDequeue pick = some r) :
    (∃ k ∈ sh.works, r = ({ sh with works := sh.works.erase k }, some k)) ∨
      sh.works = [] ∧ r = (sh, none) := by
  cases pick with
  | some k =>
    simp only [tryDequeue] at h
    split_ifs at h with hk
    exact .inl ⟨k, hk, (Option.some.inj h).symm⟩
  | none =>
    simp only [tryDequeue] at h
    split_ifs at h with hw
    exact .inr ⟨hw, (Option.some.inj h).symm⟩

end Shared

/-! ## The moves of a coroutine of the pool -/

/-- The points of the loops at which no item is held. -/
inductive Idling : Pc ι → Prop
  | loop : Idling .loop
  | dequeue : Idling .dequeue
  | wait : Idling .wait
  | notify : Idling .notify
  | sleep : Idling .sleep

omit [DecidableEq ι] in
/-- A body begins at a point at which no item is held. -/
lemma Idling.body (m : Member n) : Idling (m.body : Pc ι) := by
  cases m
  · exact .dequeue
  · exact .notify

/-- The moves of a coroutine of the pool. -/
inductive Move (sh : Shared ι) : Pc ι → Shared ι → Pc ι → Prop
  | begin : Move sh .created { sh with runningCoNum := sh.runningCoNum + 1 } .loop
  | idle {p p' : Pc ι} (hp : Idling p) (hp' : Idling p') : Move sh p sh p'
  | stop : Move sh .loop sh .leave
  | take {k : ι} (hk : k ∈ sh.works) :
      Move sh .dequeue { sh with works := sh.works.erase k } (.invoke k)
  | invoke {k : ι} : Move sh (.invoke k)
      { sh with invoked := Function.update sh.invoked k (sh.invoked k + 1) } (.invoking k)
  | throw {k : ι} : Move sh (.invoking k) sh (.handle k)
  | finish {k : ι} {p : Pc ι} (hp : p = .invoking k ∨ p = .handle k) (g : ι → Future) (u : ℕ) :
      Move sh p { sh with future := g, unhandledExceptionCount := u } (.delete k)
  | delete {k : ι} (g : ι → Future) : Move sh (.delete k)
      { sh with future := g, deleted := Function.update sh.deleted k true } .loop
  | leave : Move sh .leave { sh with runningCoNum := sh.runningCoNum - 1 } .down
  | down : Move sh .down { sh with latch := sh.latch - 1 } .done

/-- A computed move is a listed one if its value is. -/
lemma Move.of_eq {sh sh' : Shared ι} {p p' : Pc ι} {r : Shared ι × Pc ι}
    (h : some r = some (sh', p')) (hr : Move sh p r.1 r.2) : Move sh p sh' p' := by
  obtain rfl := Option.some.inj h
  exact hr

/-- Every step of a coroutine of the pool is one of the listed moves. -/
lemma Pc.move_of_step {m : Member n} {sh sh' : Shared ι} {a : Answer ι} {p p' : Pc ι}
    (h : p.step m sh a = some (sh', p')) : Move sh p sh' p' := by
  cases p with
  | created => exact .of_eq h .begin
  | loop =>
    refine .of_eq h ?_
    dsimp only
    split_ifs
    · exact .idle .loop (.body m)
    · exact .stop
  | dequeue =>
    obtain ⟨r, hr, hp⟩ := Option.map_eq_some_iff.mp h
    refine .of_eq (congrArg some hp) ?_
    rcases Shared.tryDequeue_cases hr with ⟨k, hk, rfl⟩ | ⟨-, rfl⟩
    · exact .take hk
    · exact .idle .dequeue .wait
  | wait => exact .of_eq h (.idle .wait .loop)
  | invoke k => exact .of_eq h .invoke
  | invoking k =>
    refine .of_eq h ?_
    split_ifs
    · exact .throw
    · obtain ⟨g, hg⟩ := sh.exists_setFuture k .value
      dsimp only
      rw [hg]
      exact .finish (.inl rfl) g _
  | handle k =>
    refine .of_eq h ?_
    obtain ⟨g, u, hg⟩ := sh.exists_handleWorkException k a.throws
    dsimp only
    rw [hg]
    exact .finish (.inr rfl) g u
  | delete k =>
    refine .of_eq h ?_
    obtain ⟨g, hg⟩ := sh.exists_delete k
    dsimp only
    rw [hg]
    exact .delete g
  | notify => exact .of_eq h (.idle .notify .sleep)
  | sleep => exact .of_eq h (.idle .sleep .loop)
  | leave => exact .of_eq h .leave
  | down => exact .of_eq h .down
  | done => cases h

/-! ## The moves of a call -/

/-- The call has not enqueued an item yet. -/
def Frame.early : Frame → Bool
  | idle | submit _ | check | enqueue => true
  | _ => false

/-- The call has passed the wait for the latch. -/
def Frame.past : Frame → Bool
  | drain | released => true
  | _ => false

/-- The moves of the call `i`. -/
inductive Frame.Move (sh : Shared ι) (i : ι) (a : Answer ι) : Frame → Shared ι → Frame → Prop
  | alloc {b : Bool} (g : ι → Future) : Move sh i a (submit b) { sh with future := g } check
  | goOn {f f' : Frame} (he : f'.early = true → f.early = true)
      (hp : f'.past = true → f.past = true) (hr : f' ≠ released) : Move sh i a f sh f'
  | reject {f : Frame} (hf : f = check ∨ f = enqueue) (g : ι → Future) : Move sh i a f
      { sh with future := g, deleted := Function.update sh.deleted i true } (submitted false)
  | accept (ha : a.enqueueFails = false) : Move sh i a enqueue { sh with
      works := sh.works ++ [i], accepted := Function.update sh.accepted i true } notify
  | store : Move sh i a store { sh with isRunning := false } poll
  | passLatch (h : sh.latch ≤ 0) : Move sh i a latch sh drain
  | discard {f : Frame} (hf : f = destroy ∨ f = drain) {k : ι} (hk : k ∈ sh.works)
      (g : ι → Future) : Move sh i a f { sh with
        works := sh.works.erase k, future := g, deleted := Function.update sh.deleted k true } f
  | released (hw : sh.works = []) : Move sh i a drain sh released

/-- A computed move of a call is a listed one if its value is. -/
lemma Frame.Move.of_eq {sh sh' : Shared ι} {i : ι} {a : Answer ι} {f f' : Frame}
    {r : Shared ι × Frame} (h : some r = some (sh', f')) (hr : Frame.Move sh i a f r.1 r.2) :
    Frame.Move sh i a f sh' f' := by
  obtain rfl := Option.some.inj h
  exact hr

/-- A drain takes an item and destroys it, or goes on when the queue is empty. -/
lemma Frame.move_of_drain {sh sh' : Shared ι} {i : ι} {a : Answer ι} {f f' f'' : Frame}
    (hf : f = destroy ∨ f = drain) (h₀ : sh.works = [] → Frame.Move sh i a f sh f'')
    (h : (sh.tryDequeue a.pick).map
      (fun r => (r.2.map fun k => (r.1.delete k, f)).getD (r.1, f'')) = some (sh', f')) :
    Frame.Move sh i a f sh' f' := by
  obtain ⟨r, hr, hp⟩ := Option.map_eq_some_iff.mp h
  refine .of_eq (congrArg some hp) ?_
  rcases Shared.tryDequeue_cases hr with ⟨k, hk, rfl⟩ | ⟨hw, rfl⟩
  · obtain ⟨g, hg⟩ := Shared.exists_delete { sh with works := sh.works.erase k } k
    simp only [Option.map_some, Option.getD_some]
    rw [hg]
    exact .discard hf hk g
  · exact h₀ hw

/-- Every step of a call is one of the listed moves. -/
lemma Frame.move_of_step {sh sh' : Shared ι} {i : ι} {a : Answer ι} {f f' : Frame}
    (h : f.step sh i a = some (sh', f')) : Frame.Move sh i a f sh' f' := by
  cases f with
  | idle | submitted | threw | released => cases h
  | submit b =>
    refine .of_eq h ?_
    split_ifs
    · exact .goOn (by nofun) (by nofun) (by nofun)
    · exact .goOn (by nofun) (by nofun) (by nofun)
    · exact .alloc _
    · exact .alloc _
  | check =>
    refine .of_eq h ?_
    split_ifs
    · exact .goOn (fun _ => rfl) (by nofun) (by nofun)
    · obtain ⟨g, hg⟩ := sh.exists_delete i
      dsimp only
      rw [hg]
      exact .reject (.inl rfl) g
  | enqueue =>
    refine .of_eq h ?_
    split_ifs with he
    · obtain ⟨g, hg⟩ := sh.exists_delete i
      dsimp only
      rw [hg]
      exact .reject (.inr rfl) g
    · exact .accept (Bool.eq_false_iff.mpr he)
  | notify => exact .of_eq h (.goOn (by nofun) (by nofun) (by nofun))
  | destroy => exact move_of_drain (.inl rfl) (fun _ => .goOn (by nofun) (by nofun) (by nofun)) h
  | store => exact .of_eq h .store
  | poll =>
    refine .of_eq h ?_
    dsimp only
    split_ifs
    · exact .goOn (by nofun) (by nofun) (by nofun)
    · exact .goOn (by nofun) (by nofun) (by nofun)
  | sleep => exact .of_eq h (.goOn (by nofun) (by nofun) (by nofun))
  | latch =>
    simp only [step] at h
    split_ifs at h with hl
    exact .of_eq h (.passLatch hl)
  | drain => exact move_of_drain (.inr rfl) .released h

end BbtCoroutine.CoPool
