import BbtCoroutine.CoMutex.Excludes
import BbtCoroutine.Transition.Object

/-!
# `CoMutex` is linearizable

The users of the mutex see one cell that holds its owner or nothing.  `Effect` says what each
operation does to it, all at once: `Lock` and a `TryLock` that succeeds put the caller into the
empty cell, `UnLock` takes the caller out, and an operation that fails leaves the cell as it
is.  A `TryLock` without a timeout may fail only while the mutex has an owner.

The operations of the code lock and unlock `m_mutex`, queue events, park, and try again;
`linearizable` says that each of them nevertheless takes effect once, in a single step between
its call and its return, and that what it returns belongs to this step.
-/

namespace BbtCoroutine.CoMutex

open Transition Transition.AtomicObject

variable {Co : Type*}

/-! ## The object -/

/-- The effects of the operations of the party `i` on the owner `x` of the mutex. -/
inductive Effect (i : Co) (x : Option Co) : Op → Result → Option Co → Prop
  | locks {op : Op} (ho : op ≠ .unLock) (hx : x = none) : Effect i x op (.ret 0) (some i)
  | unLocks (hx : x = some i) : Effect i x .unLock (.ret 0) none
  | tryFails (hx : x ≠ none) : Effect i x .tryLock (.ret (-1)) x
  | tryForFails {ms : ℤ} : Effect i x (.tryLockFor ms) (.ret (-1)) x
  | expires {ms : ℤ} : Effect i x (.tryLockFor ms) (.ret 1) x
  | threw {op : Op} (ho : op = .lock ∨ ∃ ms, op = .tryLockFor ms) : Effect i x op .threw x

/-- The object that the mutex is meant to be. -/
def owner (Co : Type*) : AtomicObject Co (Option Co) Op Result where
  start x := x = none
  effect i _ := Effect i

/-- What a step shows: the call of an operation, or the return from it. -/
def see (s : State Co) : Label Co → List (Visible Co Op Result)
  | .call c op => [.call c op]
  | .run c _ =>
    match s.pc c with
    | .sysUnLock _ r => [.ret c r]
    | _ => []
  | _ => []

/-! ## The owner -/

variable [DecidableEq Co] {s t : State Co} {c : Co} {f : Fault}

/-- `m_locked_co` is the coroutine that holds the lock. -/
def Recorded (s : State Co) : Prop :=
  s.lockedCo = s.holders.head?

/-- A step keeps the owner recorded. -/
lemma Step.recorded (h : Step c s t) (hO : Owned s) (hH : Held s) (hr : Recorded s) :
    Recorded t := by
  have hown := h.owned hH hO
  cases h with
  | acquire hp ho hf =>
    change some c = (s.holders ++ [c]).head?
    rw [hO.free hf]
    rfl
  | unLock hp =>
    have hnone : ((s.onUnLocked c).goto c (.sysUnLock .unLock (.ret 0))).holders = [] :=
      hown.free rfl
    change none = ((s.onUnLocked c).goto c (.sysUnLock .unLock (.ret 0))).holders.head?
    rw [hnone]
    rfl
  | _ => exact hr

/-- The owner is recorded in every reachable state. -/
lemma recorded_of_reachable (h : (system Co).Reachable s) : Recorded s := by
  refine System.ReachableWhen.induct_with (J := Inv) (fun s h => inv_of_reachable h) ?_ ?_ h
  · rintro s rfl
    rfl
  · intro s l t hJ _ hr _ hs
    cases l with
    | run c f => exact (State.step_cases (hJ.owned.ok c) hs).recorded hJ.owned hJ.held hr
    | call c op =>
      simp only [system, next] at hs
      split at hs <;> cases hs
      exact hr
    | timer c =>
      simp only [system, next] at hs
      split at hs <;> cases hs
      exact hr
    | requestCancel c =>
      cases hs
      exact hr
    | cancelTrigger c n =>
      simp only [system, next] at hs
      split at hs <;> cases hs
      exact hr

section

omit [DecidableEq Co]

/-- A free mutex has no owner. -/
lemma Recorded.lockedCo_of_free (h : Recorded s) (hO : Owned s) (hf : s.status = .free) :
    s.lockedCo = none := by
  rw [h, hO.free hf]
  rfl

/-- A locked mutex has an owner. -/
lemma Recorded.lockedCo_of_locked (h : Recorded s) (hO : Owned s) (hl : s.status = .locked) :
    s.lockedCo ≠ none := by
  obtain ⟨k, hk⟩ := List.length_eq_one_iff.mp (hO.locked hl)
  rw [h, hk]
  exact Option.some_ne_none k

/-- Who unlocks the mutex is its owner. -/
lemma Recorded.lockedCo_of_mem (h : Recorded s) (hO : Owned s) (hc : c ∈ s.holders) :
    s.lockedCo = some c := by
  cases hs : s.status with
  | free =>
    rw [hO.free hs] at hc
    exact absurd hc List.not_mem_nil
  | locked =>
    obtain ⟨k, hk⟩ := List.length_eq_one_iff.mp (hO.locked hs)
    rw [hk] at hc
    rw [h, hk, List.mem_singleton.mp hc]
    rfl

end

/-! ## One step of an operation -/

/-- A point of the operation `op`, which has had no effect so far. -/
def Pc.Pending : Pc → Op → Prop
  | .sysLock o, op | .body o, op | .relock o, op | .settle o, op => op = o
  | .wait o, op | .regist o, op | .callback o, op | .commit o, op | .parked o, op =>
    op = o ∧ (op = .lock ∨ ∃ ms, op = .tryLockFor ms)
  | .retry, op => op = .lock
  | _, _ => False

/-- The result that a point is the last one of, and that its next step returns. -/
def Pc.last : Pc → Option Result
  | .sysUnLock _ r => some r
  | _ => none

/-- What a step of `c` leads to from a point of `op` without effect. -/
def Advances (c : Co) (x : Option Co) (op : Op) (t : State Co) : Prop :=
  ∀ x₀, System.Advances (owner Co) c x₀ x op t.lockedCo ((t.pc c).Pending op)
    ((t.pc c).last = some ·)

/-- The coroutine goes on and its operation stays without effect. -/
lemma pending_goto {op : Op} {p : Pc} (hx : t.lockedCo = s.lockedCo) (h : p.Pending op) :
    Advances c s.lockedCo op (t.goto c p) := by
  refine fun _ => .pending hx ?_
  rwa [goto_self]

/-- The operation takes its effect and goes on to its return. -/
lemma effect_goto {op o : Op} {x : Option Co} {r : Result} (h : Effect c x op r t.lockedCo) :
    Advances c x op (t.goto c (.sysUnLock o r)) := by
  refine fun _ => .effect h ?_
  rw [goto_self]
  rfl

/-- A wait that could not be made fails the operation, or `Lock` tries again. -/
lemma failed_advances {op : Op} (ho : op = .lock ∨ ∃ ms, op = .tryLockFor ms)
    (hx : t.lockedCo = s.lockedCo) : Advances c s.lockedCo op (t.goto c (State.failed op)) := by
  rcases ho with rfl | ⟨ms, rfl⟩
  · exact pending_goto hx rfl
  · refine effect_goto ?_
    rw [hx]
    exact .tryForFails

/-- An operation that finds the mutex free takes its effect. -/
lemma onLocked_advances {op : Op} (hr : Recorded s) (hO : Owned s) (ho : op ≠ .unLock)
    (hf : s.status = .free) : Advances c s.lockedCo op (s.onLocked c op) :=
  effect_goto (.locks ho (hr.lockedCo_of_free hO hf))

/-- The critical section of an operation. -/
lemma body_advances {op : Op} (hr : Recorded s) (hO : Owned s)
    (hc : op = .unLock → c ∈ s.holders) : Advances c s.lockedCo op (s.body c op) := by
  cases op with
  | lock =>
    simp only [State.body]
    split
    · exact pending_goto rfl ⟨rfl, .inl rfl⟩
    · exact onLocked_advances hr hO (by simp) (Status.eq_free ‹_›)
  | unLock => exact effect_goto (.unLocks (hr.lockedCo_of_mem hO (hc rfl)))
  | tryLock =>
    simp only [State.body]
    split
    · exact onLocked_advances hr hO (by simp) ‹_›
    · exact effect_goto (.tryFails (hr.lockedCo_of_locked hO (Status.eq_locked ‹_›)))
  | tryLockFor ms =>
    simp only [State.body]
    split
    · exact pending_goto rfl ⟨rfl, .inr ⟨ms, rfl⟩⟩
    · exact onLocked_advances hr hO (by simp) (Status.eq_free ‹_›)

/-- What follows a wait leaves an operation without effect, or ends it. -/
lemma settle_advances {op : Op} (hr : Recorded s) (hO : Owned s) (ho : op ≠ .unLock) :
    Advances c s.lockedCo op (s.settle c op) := by
  cases op with
  | tryLockFor ms =>
    simp only [State.settle]
    split
    · exact effect_goto .expires
    · split
      · exact effect_goto .tryForFails
      · exact onLocked_advances hr hO (by simp) (not_not.mp ‹_›)
  | _ => exact body_advances hr hO fun h => absurd h ho

/-- Preparing a wait leaves an operation without effect, or makes it fail. -/
lemma prepare_advances {op : Op} (ho : op = .lock ∨ ∃ ms, op = .tryLockFor ms) :
    Advances c s.lockedCo op (s.prepare c op f) := by
  unfold State.prepare
  split
  · exact effect_goto (.threw ho)
  · split
    · exact failed_advances ho rfl
    · split
      · exact effect_goto (.threw ho)
      · exact pending_goto rfl ⟨rfl, ho⟩

/-- An operation without effect takes its effect in one step, or stays without it. -/
lemma step_advances {op : Op} (hI : Inv s) (hr : Recorded s) (hp : (s.pc c).Pending op)
    (h : s.step c f = some t) : Advances c s.lockedCo op t := by
  have hok := hI.owned.ok c
  have hunlocking := hI.owned.unlocking c
  unfold State.step at h
  cases hpc : s.pc c <;> simp only [hpc] at h hp hok hunlocking
  case idle => cases h
  case sysLock =>
    split at h <;> cases h
    exact pending_goto rfl hp
  case body =>
    obtain rfl := hp
    cases h
    exact body_advances hr hI.owned hunlocking
  case wait =>
    obtain ⟨rfl, ho⟩ := hp
    cases h
    exact prepare_advances ho
  case regist =>
    cases h
    unfold State.regist
    dsimp only
    split
    · obtain ⟨rfl, ho⟩ := hp
      exact failed_advances ho rfl
    · exact pending_goto rfl hp
  case callback =>
    cases h
    exact pending_goto rfl hp
  case commit =>
    cases h
    exact pending_goto rfl hp
  case parked =>
    split at h <;> cases h
    exact pending_goto rfl hp.1
  case relock =>
    split at h <;> cases h
    exact pending_goto rfl hp
  case settle =>
    obtain rfl := hp
    cases h
    exact settle_advances hr hI.owned hok
  case retry =>
    cases h
    exact pending_goto rfl hp
  case sysUnLock => cases hp

/-- An operation that has had its effect returns. -/
lemma step_last {r : Result} (hl : (s.pc c).last = some r) (h : s.step c f = some t) :
    t.lockedCo = s.lockedCo ∧ t.pc c = .idle := by
  cases hpc : s.pc c <;> rw [hpc] at hl
  case sysUnLock =>
    simp only [State.step, hpc, Option.some.injEq] at h
    subst h
    exact ⟨rfl, goto_self _⟩
  all_goals cases hl

/-- A point of an operation without effect is not the last one. -/
lemma Pc.Pending.last {p : Pc} {op : Op} (h : p.Pending op) : p.last = none := by
  cases p with
  | sysUnLock => cases h
  | _ => rfl

/-! ## The whole system -/

omit [DecidableEq Co] in
/-- A step of the code of `c` shows the result that it returns. -/
lemma see_run : see s (.run c f) = ((s.pc c).last.map (Visible.ret c)).toList := by
  cases hpc : s.pc c <;> simp only [see, hpc] <;> rfl

/-- A step of the code of `c`, seen from the object. -/
lemma step_codeStep (hI : Inv s) (hr : Recorded s) (h : s.step c f = some t) :
    System.CodeStep (owner Co) State.lockedCo State.pc .idle Pc.Pending Pc.last s t c
      (see s (.run c f)) := by
  rw [see_run]
  refine .run (fun hpc => ?_) (fun x₀ op hp => step_advances hI hr hp h x₀)
    fun r hl => step_last hl h
  simp [State.step, hpc] at h

/-- The mutex is linearizable: whatever its users see of their calls of `Lock`, `UnLock` and
`TryLock`, they could see if each call did all it does in one step. -/
theorem linearizable_owner (Co : Type*) [DecidableEq Co] :
    (system Co).Linearizable see (owner Co) := by
  refine System.linearizable_of_last State.lockedCo State.pc .idle Pc.Pending Pc.last ?_
    (fun _ => id) rfl (fun _ _ h => h.last) ?_
  · rintro _ rfl
    exact ⟨rfl, fun _ => rfl⟩
  · intro s l t hreach hs
    cases l with
    | call c op =>
      simp only [system, next] at hs
      split at hs <;> cases hs
      rename_i hcall
      refine ⟨c, .call rfl hcall.1 ?_, fun j hj => Function.update_of_ne hj ..⟩
      rw [goto_self]
      rfl
    | run c f =>
      have hI := inv_of_reachable hreach
      exact ⟨c, step_codeStep hI (recorded_of_reachable hreach) hs,
        fun j hj => (State.step_cases (hI.owned.ok c) hs).pc_of_ne hj⟩
    | timer c =>
      simp only [system, next] at hs
      split at hs <;> cases hs
      exact ⟨c, .quiet rfl rfl, fun _ _ => rfl⟩
    | requestCancel c =>
      cases hs
      exact ⟨c, .quiet rfl rfl, fun _ _ => rfl⟩
    | cancelTrigger c n =>
      simp only [system, next] at hs
      split at hs <;> cases hs
      exact ⟨c, .quiet rfl rfl, fun _ _ => rfl⟩

end BbtCoroutine.CoMutex
