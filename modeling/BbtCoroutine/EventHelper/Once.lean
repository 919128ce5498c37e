import BbtCoroutine.EventHelper.Model
import BbtCoroutine.CoPool.Settled
import BbtCoroutine.Pollevent.Delivery

/-!
# The handler runs once

A registration delivers once if nothing else of its event is queued when a wait is delivered, and
the descriptor is not waited for in the other direction.  The handler then runs once, and the event
is released once, if whoever gets the handle keeps it: the pool has to take it and must not be
stopped or destroyed before a worker has it, and the coroutine has to be registered.  A handler that
throws leaves `m_pollevent` where it is.
-/

namespace BbtCoroutine.EventHelper

open Transition
open CoPool (Frame Move)
open Pollevent (Event Arming Handler)
open Coroutine (optReadable optWriteable optTimeout)

variable {n : ℕ} {κ : Type*} {s t : State n κ} {e : Event}

/-! ## The statement -/

/-- Nobody will do anything for the registration any more: no handler of its event is queued or
runs, and no handle waits for its coroutine, in a running pool or on a worker, or runs. -/
structure State.Rests (s : State n κ) : Prop where
  queued : s.event.queued = []
  callback : s.callback = none
  handle : ∀ d, s.handle d = .none ∨ s.handle d = .ended ∨ s.handle d = .threw
  works : ∀ d, .inl d ∈ s.pool.shared.works → s.pool.shared.isRunning = false
  pc : ∀ m d, s.pool.pc m ≠ .invoke (.inl d)

/-- The handler runs once, and the event is released once. -/
structure ExactlyOnce (s : State n κ) : Prop where
  runs : s.runs ≤ 1
  released : s.released ≤ 1
  /-- Both have happened once a wait has completed and nothing is left to do. -/
  once : s.fired = true → s.Rests → s.runs = 1 ∧ s.released = 1

/-- Nothing else of the event is queued, and a descriptor is not waited for in the other
direction. -/
def Alone (e : Event) : Handler → Prop
  | .fd f r => e.queued.erase (.fd f r) = [] ∧ e.fdWaits = []
  | .timer r => e.queued.erase (.timer r) = []

/-- A `Submit` of a handle is not refused. -/
def SubmitAccepts (s : State n κ) (a : CoPool.Answer (ℕ ⊕ κ)) : Frame → Prop
  | .submit _ => a.allocThrows = false ∧ a.allocFails = false
  | .check => s.pool.shared.isRunning = true
  | .enqueue => a.enqueueFails = false ∧ s.pool.shared.isRunning = true
  | _ => True

/-- The callback of the event gets rid of its handle. -/
def CallbackKept (s : State n κ) (e : Env κ) : Option (ℕ × Point κ) → Prop
  | some (d, .submit) => SubmitAccepts s e.answer (s.pool.call (.inl d))
  | some (_, .regist) => e.fails = false
  | _ => True

/-- A `Release` or a `~CoPool` neither stops the pool while a handle is queued nor destroys the
handle. -/
def PoolKept (s : State n κ) (a : CoPool.Answer (ℕ ⊕ κ)) : Frame → Prop
  | .store => ∀ k ∈ s.pool.shared.works, k.isRight = true
  | .destroy | .drain => a.pick.map Sum.isLeft ≠ some true
  | _ => True

/-- The step delivers the only wait that may still be delivered, loses no handle and throws nothing
from the handler. -/
def Kept (s : State n κ) : Label n κ → Prop
  | .run h => s.alive = true → Alone s.event h
  | .callback e => CallbackKept s e s.callback
  | .call j a => PoolKept s a (s.pool.call (.inr j))
  | .finish _ throws => throws = false
  | _ => True

/-- Whether a handler is alone can be computed. -/
instance decidableAlone (e : Event) (h : Handler) : Decidable (Alone e h) := by
  unfold Alone
  split <;> infer_instance

/-- Whether the pool accepts a submission can be computed. -/
instance decidableSubmitAccepts (s : State n κ) (a : CoPool.Answer (ℕ ⊕ κ)) (f : Frame) :
    Decidable (SubmitAccepts s a f) := by
  unfold SubmitAccepts
  split <;> infer_instance

/-- Whether a step of a callback is kept can be computed. -/
instance decidableCallbackKept (s : State n κ) (e : Env κ) (c : Option (ℕ × Point κ)) :
    Decidable (CallbackKept s e c) := by
  unfold CallbackKept
  split <;> infer_instance

/-- Whether a step of the pool is kept can be computed. -/
instance decidablePoolKept (s : State n κ) (a : CoPool.Answer (ℕ ⊕ κ)) (f : Frame) :
    Decidable (PoolKept s a f) := by
  unfold PoolKept
  split <;> infer_instance

/-- Whether a step is kept can be computed. -/
instance decidableKept (s : State n κ) (l : Label n κ) : Decidable (Kept s l) := by
  unfold Kept
  split <;> infer_instance

/-! ## The waits of the event -/

/-- Every wait belongs to the round, so that its handler passes the check, and the timer is armed
once. -/
structure Waits (e : Event) : Prop where
  fd : ∀ w ∈ e.fdWaits, w.2 = e.round ∧ e.sd = true
  timer : ∀ a, e.timerWait = some a → a.round = e.round ∧ e.timer = true
  queued : ∀ h ∈ e.queued, e.Passes h
  expired : ∀ r, .timer r ∈ e.queued → e.timerWait = none

/-- Nothing of the event is waited for or queued any more. -/
structure Quiet (e : Event) : Prop where
  fdWaits : e.fdWaits = []
  timerWait : e.timerWait = none
  queued : e.queued = []

/-- Waiting for the descriptor keeps the waits of the event in order. -/
lemma Waits.doAsyncWait (h : Waits e) (f : EventMask) : Waits (e.doAsyncWait f e.round) := by
  unfold Event.doAsyncWait
  split
  · rename_i hsd
    refine ⟨fun w hw => ?_, h.timer, h.queued, h.expired⟩
    obtain hw | hw := List.mem_append.mp hw
    · exact h.fd w hw
    · rw [List.mem_singleton.mp hw]
      exact ⟨rfl, hsd⟩
  · exact h

/-- Arming the timer keeps the waits of the event in order. -/
lemma Waits.armTimer (h : Waits e) (ht : e.timer = true) (hq : e.queued = []) (now : ℤ)
    (timeout : ℕ) : Waits (e.armTimer now timeout e.round) := by
  refine ⟨h.fd, fun a ha => ?_, h.queued, fun r hr => ?_⟩
  · obtain rfl := Option.some.inj ha
    exact ⟨rfl, ht⟩
  · change Handler.timer r ∈ e.queued at hr
    rw [hq] at hr
    exact absurd hr List.not_mem_nil

/-- Listening to the descriptor keeps the waits of the event in order. -/
lemma Waits.listenFd (h : Waits e) : Waits e.listenFd := by
  have hw : ∀ {e' : Event}, Waits e' → e'.round = e.round →
      Waits (e'.doAsyncWait optWriteable e.round) := fun {e'} he hr => hr ▸ he.doAsyncWait _
  unfold Event.listenFd
  dsimp only
  split <;> split
  · exact hw (h.doAsyncWait _) (Event.doAsyncWait_round _ _ _)
  · exact hw h rfl
  · exact h.doAsyncWait _
  · exact h

/-- Listening to the descriptor queues no handler. -/
lemma listenFd_queued (e : Event) : e.listenFd.queued = e.queued := by
  unfold Event.listenFd
  split <;> split <;> simp

/-- `StartListen` makes waits of the round that it opens. -/
lemma Waits.startListen (h : e.queued = []) (now : ℤ) (timeout : ℕ) :
    Waits (e.startListen now timeout) := by
  have hq : (e.openRound now timeout).cancelPending.queued = [] := h
  have hnil : ∀ {k : Handler} {p : Prop}, k ∈ (e.openRound now timeout).cancelPending.queued → p :=
    fun {k p} hk => by
      rw [hq] at hk
      exact absurd hk List.not_mem_nil
  have hc : Waits (e.openRound now timeout).cancelPending :=
    ⟨fun w hw => absurd hw List.not_mem_nil, fun a ha => (by cases ha), fun _ => hnil,
      fun _ => hnil⟩
  have hl := hc.listenFd
  have hlq := (listenFd_queued (e.openRound now timeout).cancelPending).trans hq
  rw [Pollevent.Event.startListen_eq]
  generalize (e.openRound now timeout).cancelPending.listenFd = e' at hl hlq
  unfold Event.listenTimer
  split
  · rename_i ht
    split
    · exact hl.armTimer ht hlq _ _
    · exact hl
  · split
    · have hl' : Waits { e' with timer := true } := by
        refine ⟨hl.fd, fun a ha => ⟨(hl.timer a ha).1, rfl⟩, fun k hk => ?_, hl.expired⟩
        have hp := hl.queued k hk
        cases k with
        | fd f r => exact hp
        | timer r => exact ⟨hp.1, rfl⟩
      exact hl'.armTimer rfl hlq _ _
    · exact hl

/-- What passes the check does so whatever waits there are. -/
lemma passes_congr {e e' : Event} (hr : e'.round = e.round) (hs : e'.sd = e.sd)
    (ht : e'.timer = e.timer) {h : Handler} (hp : e.Passes h) : e'.Passes h := by
  cases h with
  | fd f r => exact ⟨hp.1.trans hr.symm, hs.trans hp.2⟩
  | timer r => exact ⟨hp.1.trans hr.symm, ht.trans hp.2⟩

/-- A descriptor that is ready keeps the waits of the event in order. -/
lemma Waits.fdReady (h : Waits e) {w : EventMask × ℕ} (hw : w ∈ e.fdWaits) :
    Waits (e.fdReady w) := by
  refine ⟨fun v hv => h.fd v (List.mem_of_mem_erase hv), h.timer, fun k hk => ?_, fun r hr => ?_⟩
  · obtain hk | hk := List.mem_append.mp hk
    · exact passes_congr rfl rfl rfl (h.queued k hk)
    · rw [List.mem_singleton.mp hk]
      exact h.fd w hw
  · obtain hr | hr := List.mem_append.mp hr
    · exact h.expired r hr
    · cases List.mem_singleton.mp hr

/-- A timer that expires keeps the waits of the event in order. -/
lemma Waits.timerExpired (h : Waits e) {a : Arming} (ha : e.timerWait = some a) :
    Waits (e.timerExpired a) := by
  refine ⟨h.fd, fun b hb => (by cases hb), fun k hk => ?_, fun _ _ => rfl⟩
  obtain hk | hk := List.mem_append.mp hk
  · exact passes_congr rfl rfl rfl (h.queued k hk)
  · rw [List.mem_singleton.mp hk]
    exact h.timer a ha

/-- A handler that leaves the queue keeps the waits of the event in order. -/
lemma Waits.dequeue (h : Waits e) (k : Handler) : Waits (e.dequeue k) :=
  ⟨h.fd, h.timer, fun j hj => passes_congr rfl rfl rfl (h.queued j (List.mem_of_mem_erase hj)),
    fun r hr => h.expired r (List.mem_of_mem_erase hr)⟩

/-- A handler that runs keeps the waits of the event in order. -/
lemma Waits.handle (h : Waits e) (k : Handler) : Waits (e.handle k).1 := by
  cases k with
  | fd f r =>
    unfold Event.handle Event.onFdWaitCompleted
    dsimp only
    split
    · exact h
    · exact ⟨h.fd, fun a ha => (by cases ha),
        fun j hj => passes_congr rfl rfl rfl (h.queued j hj), fun _ _ => rfl⟩
  | timer r =>
    unfold Event.handle Event.onTimerFired
    dsimp only
    split
    · exact h
    · exact ⟨fun w hw => absurd hw List.not_mem_nil, h.timer,
        fun j hj => passes_congr rfl rfl rfl (h.queued j hj), h.expired⟩

/-- A handler that is alone leaves nothing of the event behind. -/
lemma Waits.quiet (h : Waits e) {k : Handler} (hk : k ∈ e.queued) (ha : Alone e k) :
    Quiet ((e.dequeue k).handle k).1 := by
  have hp := h.queued k hk
  cases k with
  | fd f r =>
    change Quiet ((e.dequeue (.fd f r)).onFdWaitCompleted r f).1
    unfold Event.onFdWaitCompleted
    rw [if_neg]
    · exact ⟨ha.2, rfl, ha.1⟩
    · simp [Event.dequeue, hp.1, hp.2]
  | timer r =>
    change Quiet ((e.dequeue (.timer r)).onTimerFired r).1
    unfold Event.onTimerFired
    rw [if_neg]
    · exact ⟨rfl, h.expired r hk, ha⟩
    · simp [Event.dequeue, hp.1, hp.2]

/-! ## Where the handle is -/

/-- The pool has accepted the handle. -/
structure Accepted (s : State n κ) : Prop where
  callback : s.callback = none ∨ ∃ p, s.callback = some (0, p) ∧ p ≠ .lock ∧ p ≠ .regist
  call : (s.pool.call (.inl 0) = .notify ∧ s.callback = some (0, .submit)) ∨
    s.pool.call (.inl 0) = .submitted true

/-- Where the first handle is, once its delivery has begun. -/
inductive Place (s : State n κ) : Prop
  | new (hh : s.handle 0 = .none)
      (hc : s.callback = some (0, .lock) ∨ s.callback = some (0, .regist))
      (hi : s.pool.call (.inl 0) = .idle)
  | submits (hh : s.handle 0 = .none) (hc : s.callback = some (0, .submit))
      (hf : s.pool.call (.inl 0) = .submit false ∨ s.pool.call (.inl 0) = .check ∨
        s.pool.call (.inl 0) = .enqueue)
  | queued (hh : s.handle 0 = .none) (ha : Accepted s) (hw : .inl 0 ∈ s.pool.shared.works)
      (hr : s.pool.shared.isRunning = true)
  | taken (m : CoPool.Member n) (hh : s.handle 0 = .none) (ha : Accepted s)
      (hm : s.pool.pc m = .invoke (.inl 0))
  | invoked (m : CoPool.Member n)
      (hh : s.handle 0 = .running ∨ s.handle 0 = .returned ∨ s.handle 0 = .ended)
      (ha : Accepted s) (hm : s.pool.pc m = .invoking (.inl 0))
  | settled (hh : s.handle 0 = .ended) (ha : Accepted s)
      (hv : s.pool.shared.invoked (.inl 0) = 1)
  | coroutine (hh : s.handle 0 = .ready ∨ s.handle 0 = .running ∨ s.handle 0 = .returned ∨
        s.handle 0 = .ended)
      (hc : s.callback = none ∨ s.callback = some (0, .leave))
      (hi : s.pool.call (.inl 0) = .idle)

/-- How far the registration has got. -/
inductive Phase (s : State n κ) : Prop
  | waiting (hd : s.deliveries = 0) (hc : s.callback = none) (hp : s.pollevent = true)
      (hf : s.fired = true → s.event.queued ≠ []) (hr : s.runs = 0) (hz : s.released = 0)
  | delivered (hd : s.deliveries = 1) (hw : Place s)
      (hp : s.pollevent = decide (s.handle 0 ≠ .ended))
      (hr : s.runs = if (s.handle 0).begun then 1 else 0)
      (hz : s.released = if s.handle 0 = .ended ∧ s.callback = none then 1 else 0)

/-- The place depends on the handle, the callback and the pool. -/
lemma Place.congr (h : Place s) (hh : t.handle 0 = s.handle 0) (hc : t.callback = s.callback)
    (hp : t.pool = s.pool) : Place t := by
  have hacc : Accepted s → Accepted t := fun ha => ⟨hc ▸ ha.callback, hp ▸ hc ▸ ha.call⟩
  cases h with
  | new h₁ h₂ h₃ => exact .new (hh ▸ h₁) (hc ▸ h₂) (hp ▸ h₃)
  | submits h₁ h₂ h₃ => exact .submits (hh ▸ h₁) (hc ▸ h₂) (hp ▸ h₃)
  | queued h₁ h₂ h₃ h₄ => exact .queued (hh ▸ h₁) (hacc h₂) (hp ▸ h₃) (hp ▸ h₄)
  | taken m h₁ h₂ h₃ => exact .taken m (hh ▸ h₁) (hacc h₂) (hp ▸ h₃)
  | invoked m h₁ h₂ h₃ => exact .invoked m (hh ▸ h₁) (hacc h₂) (hp ▸ h₃)
  | settled h₁ h₂ h₃ => exact .settled (hh ▸ h₁) (hacc h₂) (hp ▸ h₃)
  | coroutine h₁ h₂ h₃ => exact .coroutine (hh ▸ h₁) (hc ▸ h₂) (hp ▸ h₃)

/-- A step of the pool that keeps the handle where it is, or lets a worker take it. -/
structure KeepsHandle (s t : State n κ) : Prop where
  call : t.pool.call (.inl 0) = s.pool.call (.inl 0)
  works : .inl 0 ∈ s.pool.shared.works → s.pool.shared.isRunning = true →
    (.inl 0 ∈ t.pool.shared.works ∧ t.pool.shared.isRunning = true) ∨
      ∃ m, t.pool.pc m = .invoke (.inl 0)
  pc : ∀ m, s.pool.pc m = .invoke (.inl 0) ∨ s.pool.pc m = .invoking (.inl 0) →
    t.pool.pc m = s.pool.pc m
  invoked : t.pool.shared.invoked (.inl 0) = s.pool.shared.invoked (.inl 0)

/-- A step of the pool that leaves the handle alone keeps it in its place. -/
lemma Place.pool (h : Place s) (hh : t.handle 0 = s.handle 0) (hc : t.callback = s.callback)
    (hk : KeepsHandle s t) : Place t := by
  have hacc : Accepted s → Accepted t := fun ha => ⟨hc ▸ ha.callback, hk.call ▸ hc ▸ ha.call⟩
  cases h with
  | new h₁ h₂ h₃ => exact .new (hh ▸ h₁) (hc ▸ h₂) (hk.call ▸ h₃)
  | submits h₁ h₂ h₃ => exact .submits (hh ▸ h₁) (hc ▸ h₂) (hk.call ▸ h₃)
  | queued h₁ h₂ h₃ h₄ =>
    obtain ⟨hw, hr⟩ | ⟨m, hm⟩ := hk.works h₃ h₄
    · exact .queued (hh ▸ h₁) (hacc h₂) hw hr
    · exact .taken m (hh ▸ h₁) (hacc h₂) hm
  | taken m h₁ h₂ h₃ => exact .taken m (hh ▸ h₁) (hacc h₂) ((hk.pc m (.inl h₃)).trans h₃)
  | invoked m h₁ h₂ h₃ => exact .invoked m (hh ▸ h₁) (hacc h₂) ((hk.pc m (.inr h₃)).trans h₃)
  | settled h₁ h₂ h₃ => exact .settled (hh ▸ h₁) (hacc h₂) (hk.invoked ▸ h₃)
  | coroutine h₁ h₂ h₃ => exact .coroutine (hh ▸ h₁) (hc ▸ h₂) (hk.call ▸ h₃)

/-- The invariant. -/
structure Inv (s : State n κ) : Prop where
  waits : Waits s.event
  pool : CoPool.Inv s.pool
  fresh : ∀ d, s.deliveries ≤ d → s.handle d = .none ∧ s.pool.call (.inl d) = .idle
  quiet : s.deliveries = 1 → Quiet s.event
  phase : Phase s

/-! ## The handle on a worker -/

/-- A coroutine of the pool has only the handle of the first delivery. -/
lemma Inv.held (h : Inv s) {m : CoPool.Member n} {d k : ℕ}
    (hm : (s.pool.pc m).item = some (.inl d, k)) : d = 0 ∧ s.deliveries = 1 := by
  have hacc := (h.pool.ledger.held m _ _ hm).1
  have hlt : d < s.deliveries := by
    by_contra hge
    have hf := h.pool.fresh (.inl d) (by rw [(h.fresh d (Nat.le_of_not_lt hge)).2]; rfl)
    rw [hf.1] at hacc
    cases hacc
  cases h.phase with
  | waiting hd => omega
  | delivered hd => exact ⟨by omega, hd⟩

/-- A `Submit` that has accepted nothing yet. -/
lemma Inv.not_held (h : Inv s) {m : CoPool.Member n} {k : ℕ}
    (hm : (s.pool.pc m).item = some (.inl 0, k)) : (s.pool.call (.inl 0)).early = false := by
  refine Bool.eq_false_iff.mpr fun he => ?_
  have hacc := (h.pool.ledger.held m _ _ hm).1
  rw [(h.pool.fresh _ he).1] at hacc
  cases hacc

/-- The handle that a worker is about to invoke has not begun. -/
lemma Inv.of_invoke (h : Inv s) (hw : Place s) {m : CoPool.Member n}
    (hm : s.pool.pc m = .invoke (.inl 0)) : s.handle 0 = .none ∧ Accepted s := by
  have hi : (s.pool.pc m).item = some (.inl 0, 0) := by
    rw [hm]
    rfl
  obtain ⟨-, -, hv, hn⟩ := h.pool.ledger.held m _ _ hi
  have he := h.not_held hi
  cases hw with
  | new _ _ hc | coroutine _ _ hc =>
    rw [hc] at he
    cases he
  | submits _ _ hc =>
    obtain hc | hc | hc := hc <;>
    · rw [hc] at he
      cases he
  | queued _ _ hq => exact absurd hq hn
  | taken _ hh ha => exact ⟨hh, ha⟩
  | invoked m' _ _ hm' =>
    have hv' := (h.pool.ledger.held m' (.inl 0) 1 (by rw [hm']; rfl)).2.2.1
    rw [hv] at hv'
    cases hv'
  | settled _ _ hv' =>
    rw [hv] at hv'
    cases hv'

/-- The handle that a worker invokes has begun. -/
lemma Inv.of_invoking (h : Inv s) (hw : Place s) {m : CoPool.Member n}
    (hm : s.pool.pc m = .invoking (.inl 0)) :
    (s.handle 0 = .running ∨ s.handle 0 = .returned ∨ s.handle 0 = .ended) ∧ Accepted s := by
  have hi : (s.pool.pc m).item = some (.inl 0, 1) := by
    rw [hm]
    rfl
  obtain ⟨-, -, hv, hn⟩ := h.pool.ledger.held m _ _ hi
  have he := h.not_held hi
  cases hw with
  | new _ _ hc | coroutine _ _ hc =>
    rw [hc] at he
    cases he
  | submits _ _ hc =>
    obtain hc | hc | hc := hc <;>
    · rw [hc] at he
      cases he
  | queued _ _ hq => exact absurd hq hn
  | taken m' _ _ hm' =>
    have hv' := (h.pool.ledger.held m' (.inl 0) 0 (by rw [hm']; rfl)).2.2.1
    rw [hv] at hv'
    cases hv'
  | invoked _ hh ha => exact ⟨hh, ha⟩
  | settled hh ha => exact ⟨.inr (.inr hh), ha⟩

/-- Once delivered, the registration goes on with the first handle. -/
lemma Inv.go (h : Inv s) (hd : s.deliveries = 1) (ht : t.deliveries = 1)
    (he : t.event = s.event) (hp : CoPool.Inv t.pool)
    (hf : ∀ d, d ≠ 0 → t.handle d = s.handle d ∧ t.pool.call (.inl d) = s.pool.call (.inl d))
    (hph : Phase t) : Inv t := by
  refine ⟨he ▸ h.waits, hp, fun d hle => ?_, fun _ => he ▸ h.quiet hd, hph⟩
  have hfd := h.fresh d (by omega)
  obtain ⟨h₁, h₂⟩ := hf d (by omega)
  exact ⟨h₁.trans hfd.1, h₂.trans hfd.2⟩

/-! ## The handle -/

/-- Only the first handle exists. -/
lemma Inv.of_handle (h : Inv s) {d : ℕ} (hd : s.handle d ≠ .none) :
    d = 0 ∧ s.deliveries = 1 := by
  have hlt : d < s.deliveries := by
    by_contra hge
    exact hd (h.fresh d (Nat.le_of_not_lt hge)).1
  cases h.phase with
  | waiting hd => omega
  | delivered hd => exact ⟨by omega, hd⟩

/-- A handle that has a coroutine or a worker goes on there. -/
lemma Place.setHandle (h : Place s) {x : Handle} (hn : s.handle 0 ≠ .none)
    (he : s.handle 0 ≠ .ended) (hx : x = .running ∨ x = .returned ∨ x = .ended)
    (hh : t.handle 0 = x) (hc : t.callback = s.callback) (hp : t.pool = s.pool) : Place t := by
  have hacc : Accepted s → Accepted t := fun ha => ⟨hc ▸ ha.callback, hp ▸ hc ▸ ha.call⟩
  cases h with
  | new h₁ | submits h₁ | queued h₁ | taken _ h₁ => exact absurd h₁ hn
  | invoked m _ ha hm => exact .invoked m (hh ▸ hx) (hacc ha) (hp ▸ hm)
  | settled h₁ => exact absurd h₁ he
  | coroutine _ h₂ h₃ => exact .coroutine (.inr (hh ▸ hx)) (hc ▸ h₂) (hp ▸ h₃)

/-- The coroutine of the handle begins. -/
lemma Inv.start (h : Inv s) {d : ℕ} (hd : s.handle d = .ready) : Inv (s.call d) := by
  obtain ⟨rfl, hdel⟩ := h.of_handle (d := d) (by simp [hd])
  cases h.phase with
  | waiting hd' => omega
  | delivered _ hw hpe hru hz =>
    have hr : (s.call 0).handle 0 = .running := State.call_handle s 0
    refine h.go hdel hdel rfl h.pool (fun d hne => ⟨Function.update_of_ne hne _ _, rfl⟩)
      (.delivered hdel (hw.setHandle (by simp [hd]) (by simp [hd]) (.inl rfl) hr rfl
        rfl) ?_ ?_ ?_)
    · rw [hr]
      rw [hd] at hpe
      exact hpe
    · rw [hr]
      rw [hd] at hru
      exact congrArg (· + 1) hru
    · rw [hr]
      rw [hd] at hz
      exact hz

/-- The user's handler returns. -/
lemma Inv.finish (h : Inv s) {d : ℕ} (hd : s.handle d = .running) :
    Inv (s.setHandle d .returned) := by
  obtain ⟨rfl, hdel⟩ := h.of_handle (d := d) (by simp [hd])
  cases h.phase with
  | waiting hd' => omega
  | delivered _ hw hpe hru hz =>
    have hr : (s.setHandle 0 .returned).handle 0 = .returned := State.setHandle_handle s 0 _
    refine h.go hdel hdel rfl h.pool (fun d hne => ⟨Function.update_of_ne hne _ _, rfl⟩)
      (.delivered hdel (hw.setHandle (by simp [hd]) (by simp [hd]) (.inr (.inl rfl)) hr
        rfl rfl) ?_ ?_ ?_)
    · rw [hr]
      rw [hd] at hpe
      exact hpe
    · rw [hr]
      rw [hd] at hru
      exact hru
    · rw [hr]
      rw [hd] at hz
      exact hz

/-- The helper drops its reference to the event. -/
lemma Inv.clear (h : Inv s) {d : ℕ} (hd : s.handle d = .returned) :
    Inv (s.drop { s.setHandle d .ended with pollevent := false }) := by
  obtain ⟨rfl, hdel⟩ := h.of_handle (d := d) (by simp [hd])
  cases h.phase with
  | waiting hd' => omega
  | delivered _ hw hpe hru hz =>
    rw [hd] at hpe hru hz
    have hpe : s.pollevent = true := hpe
    have hz : s.released = 0 := hz
    have ht : s.drop { s.setHandle 0 .ended with pollevent := false } =
        { s.setHandle 0 .ended with
          pollevent := false, released := if s.callback = none then 1 else 0 } := by
      unfold State.drop State.alive
      cases hc : s.callback <;> simp [State.setHandle, hc, hpe, hz]
    rw [ht]
    have hr : Function.update s.handle 0 .ended 0 = .ended := Function.update_self _ _ _
    refine h.go hdel hdel rfl h.pool (fun d hne => ⟨Function.update_of_ne hne _ _, rfl⟩)
      (.delivered hdel (hw.setHandle (by simp [hd]) (by simp [hd]) (.inr (.inr rfl)) hr
        rfl rfl) ?_ ?_ ?_)
    · simp [State.setHandle]
    · simp only [State.setHandle, hr]
      exact hru
    · simp [State.setHandle]

/-! ## The event -/

/-- A wait of the event completes, which is the first one. -/
lemma Inv.complete (h : Inv s) {e : Event} (hw : Waits e) (hq : e.queued ≠ [])
    (hn : ¬ Quiet s.event) : Inv { s with event := e, fired := true } := by
  cases h.phase with
  | waiting hd hc hp _ hr hz =>
    refine ⟨hw, h.pool, h.fresh, fun hd' => ?_, .waiting hd hc hp (fun _ => hq) hr hz⟩
    exact absurd (hd.symm.trans hd') Nat.zero_ne_one
  | delivered hd => exact absurd (h.quiet hd) hn

/-- A queued handler runs, which is the first one. -/
lemma Inv.runHandler (h : Inv s) {k : Handler} (hk : k ∈ s.event.queued)
    (hP : s.alive = true → Alone s.event k) : Inv (s.runHandler k) := by
  cases h.phase with
  | delivered hd =>
    rw [(h.quiet hd).queued] at hk
    exact absurd hk List.not_mem_nil
  | waiting hd _ hp _ hr hrel =>
    have ha : s.alive = true := by
      rw [State.alive, hp]
      rfl
    have hwh := (h.waits.dequeue k).handle k
    have hqh := h.waits.quiet hk (hP ha)
    have hpass : (s.event.dequeue k).Passes k :=
      passes_congr rfl rfl rfl (h.waits.queued k hk)
    obtain ⟨d', hd'⟩ := Event.exists_handle_of_passes hpass
    have hf := h.fresh 0 (by omega)
    unfold State.runHandler
    dsimp only
    rw [if_pos ha]
    rcases heq : (s.event.dequeue k).handle k with ⟨e', r⟩
    rw [heq] at hwh hqh hd'
    dsimp only at hd'
    subst hd'
    refine ⟨hwh, h.pool, fun d hle => h.fresh d (by omega), fun _ => hqh,
      .delivered ?_ ?_ ?_ ?_ ?_⟩
    · exact congrArg (· + 1) hd
    · exact .new hf.1 (.inl (by rw [hd])) hf.2
    · rw [hf.1]
      exact hp
    · rw [hf.1]
      exact hr
    · rw [hf.1]
      exact hrel

/-- The last other reference to the pool is dropped. -/
lemma Inv.poolHeld (h : Inv s) (b : Bool) : Inv { s with poolHeld := b } := by
  refine ⟨h.waits, h.pool, h.fresh, h.quiet, ?_⟩
  cases h.phase with
  | waiting hd hc hp hf hr hz => exact .waiting hd hc hp hf hr hz
  | delivered hd hpl hp hr hz => exact .delivered hd (hpl.congr rfl rfl rfl) hp hr hz

/-! ## The callback of the event -/

/-- The callback that runs is that of the first delivery. -/
lemma Place.eq_zero (h : Place s) {d : ℕ} {p : Point κ} (hc : s.callback = some (d, p)) :
    d = 0 := by
  have hacc : Accepted s → d = 0 := fun ha => by
    obtain ha | ⟨q, ha, -⟩ := ha.callback
    · rw [hc] at ha
      cases ha
    · rw [hc] at ha
      exact (Prod.mk.inj (Option.some.inj ha)).1
  cases h with
  | new _ h₂ =>
    rw [hc] at h₂
    obtain h₂ | h₂ := h₂ <;> exact (Prod.mk.inj (Option.some.inj h₂)).1
  | submits _ h₂ =>
    rw [hc] at h₂
    exact (Prod.mk.inj (Option.some.inj h₂)).1
  | queued _ ha | taken _ _ ha | invoked _ _ ha | settled _ ha => exact hacc ha
  | coroutine _ h₂ =>
    rw [hc] at h₂
    obtain h₂ | h₂ := h₂
    · cases h₂
    · exact (Prod.mk.inj (Option.some.inj h₂)).1

/-- What the callback has left to do with the handle. -/
lemma Place.of_callback (h : Place s) {p : Point κ} (hc : s.callback = some (0, p)) :
    (s.handle 0 = .none ∧ s.pool.call (.inl 0) = .idle ∧ (p = .lock ∨ p = .regist)) ∨
    (s.handle 0 = .none ∧ p = .submit ∧ (s.pool.call (.inl 0) = .submit false ∨
      s.pool.call (.inl 0) = .check ∨ s.pool.call (.inl 0) = .enqueue)) ∨
    (Accepted s ∧ p ≠ .lock ∧ p ≠ .regist) ∨
    (s.pool.call (.inl 0) = .idle ∧ p = .leave) := by
  have hp : ∀ q, s.callback = some (0, q) → p = q := fun q hq => by
    rw [hc] at hq
    exact (Prod.mk.inj (Option.some.inj hq)).2
  have hacc : Accepted s → Accepted s ∧ p ≠ .lock ∧ p ≠ .regist := fun ha => by
    obtain ha' | ⟨q, hq, h₁, h₂⟩ := ha.callback
    · rw [hc] at ha'
      cases ha'
    · obtain rfl := hp q hq
      exact ⟨ha, h₁, h₂⟩
  cases h with
  | new h₁ h₂ h₃ => exact .inl ⟨h₁, h₃, h₂.imp (hp _) (hp _)⟩
  | submits h₁ h₂ h₃ => exact .inr (.inl ⟨h₁, hp _ h₂, h₃⟩)
  | queued _ ha | taken _ _ ha | invoked _ _ ha | settled _ ha =>
    exact .inr (.inr (.inl (hacc ha)))
  | coroutine _ h₂ h₃ =>
    obtain h₂ | h₂ := h₂
    · rw [hc] at h₂
      cases h₂
    · exact .inr (.inr (.inr ⟨h₃, hp _ h₂⟩))

/-- What the pool has accepted stays where it is while the callback goes on. -/
lemma Accepted.place (ha : Accepted s) (h : Place s) (hh : t.handle 0 = s.handle 0)
    (hs : t.pool.shared = s.pool.shared) (hp : t.pool.pc = s.pool.pc) (ha' : Accepted t) :
    Place t := by
  cases h with
  | new _ h₂ =>
    obtain hc | ⟨p, hc, h₃, h₄⟩ := ha.callback
    · rw [hc] at h₂
      obtain h₂ | h₂ := h₂ <;> cases h₂
    · rw [hc] at h₂
      obtain h₂ | h₂ := h₂
      · exact absurd (Prod.mk.inj (Option.some.inj h₂)).2 h₃
      · exact absurd (Prod.mk.inj (Option.some.inj h₂)).2 h₄
  | submits _ _ h₃ =>
    obtain ⟨hc, -⟩ | hc := ha.call
    · rw [hc] at h₃
      obtain h₃ | h₃ | h₃ := h₃ <;> cases h₃
    · rw [hc] at h₃
      obtain h₃ | h₃ | h₃ := h₃ <;> cases h₃
  | queued h₁ _ h₃ h₄ => exact .queued (hh.trans h₁) ha' (hs ▸ h₃) (hs ▸ h₄)
  | taken m h₁ _ h₃ => exact .taken m (hh.trans h₁) ha' (hp ▸ h₃)
  | invoked m h₁ _ h₃ => exact .invoked m (hh ▸ h₁) ha' (hp ▸ h₃)
  | settled h₁ _ h₃ => exact .settled (hh.trans h₁) ha' (hs ▸ h₃)
  | coroutine _ _ h₃ =>
    obtain ⟨hc, -⟩ | hc := ha.call
    · rw [hc] at h₃
      cases h₃
    · rw [hc] at h₃
      cases h₃

/-- The pool has accepted the handle, and the callback goes on. -/
lemma Accepted.goto (ha : Accepted s) {p : CoPool.State n (ℕ ⊕ κ)} {q : Point κ}
    (hc : s.callback ≠ some (0, .submit)) (hp : p.call (.inl 0) = s.pool.call (.inl 0))
    (h₁ : q ≠ .lock) (h₂ : q ≠ .regist) :
    Accepted { s with pool := p, callback := some (0, q) } := by
  refine ⟨.inr ⟨q, rfl, h₁, h₂⟩, .inr ?_⟩
  obtain ⟨-, hc'⟩ | hf := ha.call
  · exact absurd hc' hc
  · exact hp.trans hf

/-- The callback goes on, and leaves the handles as they are. -/
lemma Inv.callback_at (h : Inv s) {p₀ : Point κ} (hc : s.callback = some (0, p₀))
    {p : CoPool.State n (ℕ ⊕ κ)} {q : Point κ} (hp : CoPool.Inv p)
    (hcall : ∀ d, d ≠ 0 → p.call (.inl d) = s.pool.call (.inl d))
    (hw : Place { s with pool := p, callback := some (0, q) }) :
    Inv { s with pool := p, callback := some (0, q) } := by
  cases h.phase with
  | waiting _ hcb =>
    rw [hc] at hcb
    cases hcb
  | delivered hd _ hpe hru hz =>
    refine h.go hd hd rfl hp (fun d hne => ⟨rfl, hcall d hne⟩) (.delivered hd hw hpe hru ?_)
    rw [hc] at hz
    simpa using hz

/-! ## What the invariant says -/

/-- What the invariant says about the handler and the event. -/
lemma Inv.exactlyOnce (h : Inv s) : ExactlyOnce s := by
  cases h.phase with
  | waiting hd hc hp hf hr hz =>
    refine ⟨hr.trans_le (Nat.zero_le 1), hz.trans_le (Nat.zero_le 1), fun hfi hre => ?_⟩
    exact absurd hre.queued (hf hfi)
  | delivered hd hw hp hr hz =>
    refine ⟨?_, ?_, fun _ hre => ?_⟩
    · rw [hr]
      split <;> decide
    · rw [hz]
      split <;> decide
    · have hend : s.handle 0 = .ended := by
        have hre' := hre.handle 0
        cases hw with
        | new _ hc =>
          rw [hre.callback] at hc
          obtain hc | hc := hc <;> cases hc
        | submits _ hc =>
          rw [hre.callback] at hc
          cases hc
        | queued _ _ hq hrun =>
          rw [hre.works 0 hq] at hrun
          cases hrun
        | taken m _ _ hm => exact absurd hm (hre.pc m 0)
        | invoked m hh =>
          obtain hh | hh | hh := hh
          · rw [hh] at hre'
            obtain hre' | hre' | hre' := hre' <;> cases hre'
          · rw [hh] at hre'
            obtain hre' | hre' | hre' := hre' <;> cases hre'
          · exact hh
        | settled hh => exact hh
        | coroutine hh =>
          obtain hh | hh | hh | hh := hh
          · rw [hh] at hre'
            obtain hre' | hre' | hre' := hre' <;> cases hre'
          · rw [hh] at hre'
            obtain hre' | hre' | hre' := hre' <;> cases hre'
          · rw [hh] at hre'
            obtain hre' | hre' | hre' := hre' <;> cases hre'
          · exact hh
      rw [hend] at hr hz
      rw [hre.callback] at hz
      exact ⟨hr, hz⟩

variable [DecidableEq κ]

/-! ## Steps of the pool -/

/-- Taking another item leaves the item in the queue. -/
lemma mem_erase {ι : Type*} [DecidableEq ι] {l : List ι} {k j : ι} (hk : k ∈ l) (hkj : k ≠ j) :
    k ∈ l.erase j :=
  (List.mem_erase_of_ne hkj).mpr hk

/-- What a call finds in the queue stays there, unless a drain takes it. -/
lemma mem_works_of_step {ι : Type*} [DecidableEq ι] {sh : CoPool.Shared ι} {i k : ι}
    {a : CoPool.Answer ι} {f : Frame} {r : CoPool.Shared ι × Frame}
    (h : f.step sh i a = some r) (hk : k ∈ sh.works)
    (hp : f = .destroy ∨ f = .drain → a.pick ≠ some k) : k ∈ r.1.works := by
  have hdel : ∀ (sh : CoPool.Shared ι) j, (sh.delete j).works = sh.works := fun sh j => by
    obtain ⟨g, hg⟩ := sh.exists_delete j
    rw [hg]
  have hdrain : ∀ {f f' : Frame}, a.pick ≠ some k →
      (sh.tryDequeue a.pick).map (fun r => (r.2.map fun k => (r.1.delete k, f)).getD (r.1, f'))
        = some r → k ∈ r.1.works := fun {f f'} hne h => by
    obtain ⟨r', hr, rfl⟩ := Option.map_eq_some_iff.mp h
    cases hpick : a.pick with
    | none =>
      rw [hpick, CoPool.Shared.tryDequeue] at hr
      split_ifs at hr with hw
      rw [hw] at hk
      cases hk
    | some j =>
      rw [hpick, CoPool.Shared.tryDequeue] at hr
      split_ifs at hr
      obtain rfl := Option.some.inj hr
      have hkj : k ≠ j := by
        rintro rfl
        exact hne hpick
      rw [Option.map_some, Option.getD_some, hdel]
      exact mem_erase hk hkj
  cases f with
  | idle | submitted b | threw | released => cases h
  | submit b =>
    obtain rfl := Option.some.inj h
    split_ifs <;> exact hk
  | check =>
    obtain rfl := Option.some.inj h
    split_ifs
    · exact hk
    · rwa [hdel]
  | enqueue =>
    obtain rfl := Option.some.inj h
    split_ifs
    · rwa [hdel]
    · exact List.mem_append_left _ hk
  | notify | store | poll | sleep =>
    obtain rfl := Option.some.inj h
    exact hk
  | destroy => exact hdrain (hp (.inl rfl)) h
  | latch =>
    rw [CoPool.Frame.step] at h
    split_ifs at h
    obtain rfl := Option.some.inj h
    exact hk
  | drain => exact hdrain (hp (.inr rfl)) h

/-- Only a `store` stops the pool. -/
lemma isRunning_of_move {ι : Type*} [DecidableEq ι] {sh sh' : CoPool.Shared ι} {i : ι}
    {a : CoPool.Answer ι} {f f' : Frame} (h : Frame.Move sh i a f sh' f') (hf : f ≠ .store) :
    sh'.isRunning = sh.isRunning := by
  cases h with
  | store => exact absurd rfl hf
  | _ => rfl

/-- What a step of the pool leaves of the rest. -/
lemma stepPool_eq {l : CoPool.Label n (ℕ ⊕ κ)} (hs : s.stepPool l = some t) :
    ∃ p, CoPool.next s.pool l = some p ∧ t = { s with pool := p } := by
  obtain ⟨p, hp, rfl⟩ := Option.map_eq_some_iff.mp hs
  exact ⟨p, hp, rfl⟩

/-- A step of the pool that keeps the handle keeps the invariant. -/
lemma Inv.stepPool (h : Inv s) {l : CoPool.Label n (ℕ ⊕ κ)} (hs : s.stepPool l = some t)
    (hc : ∀ d, t.pool.call (.inl d) = s.pool.call (.inl d)) (hk : KeepsHandle s t) : Inv t := by
  obtain ⟨p, hp, rfl⟩ := stepPool_eq hs
  refine ⟨h.waits, h.pool.next hp, fun d hd => ⟨(h.fresh d hd).1, ?_⟩, h.quiet, ?_⟩
  · exact (hc d).trans (h.fresh d hd).2
  · cases h.phase with
    | waiting hd hcb hpe hf hr hz => exact .waiting hd hcb hpe hf hr hz
    | delivered hd hw hpe hr hz => exact .delivered hd (hw.pool rfl rfl hk) hpe hr hz

/-- A call of somebody else begins. -/
lemma Inv.begin (h : Inv s) {j : κ} {c : CoPool.Call}
    (hs : s.stepPool (.begin (.inr j) c) = some t) : Inv t := by
  have hs' := hs
  obtain ⟨p, hp, rfl⟩ := stepPool_eq hs
  simp only [CoPool.next] at hp
  split_ifs at hp
  obtain rfl := Option.some.inj hp
  have hc : ∀ d, Function.update s.pool.call (.inr j) c.frame (.inl d) = s.pool.call (.inl d) :=
    fun d => Function.update_of_ne Sum.inl_ne_inr _ _
  exact h.stepPool hs' hc ⟨hc 0, fun hw hr => .inl ⟨hw, hr⟩, fun _ _ => rfl, rfl⟩

/-- A call of somebody else goes on. -/
lemma Inv.call (h : Inv s) {j : κ} {a : CoPool.Answer (ℕ ⊕ κ)}
    (hP : PoolKept s a (s.pool.call (.inr j))) (hs : s.stepPool (.call (.inr j) a) = some t) :
    Inv t := by
  have hs' := hs
  obtain ⟨p, hp, rfl⟩ := stepPool_eq hs
  obtain ⟨r, hr, rfl⟩ := Option.map_eq_some_iff.mp hp
  have hc : ∀ d, Function.update s.pool.call (.inr j) r.2 (.inl d) = s.pool.call (.inl d) :=
    fun d => Function.update_of_ne Sum.inl_ne_inr _ _
  have hm := Frame.move_of_step hr
  refine h.stepPool hs' hc ⟨hc 0, fun hw hrun => .inl ?_, fun _ _ => rfl, ?_⟩
  · refine ⟨mem_works_of_step hr hw fun hf hpick => ?_, ?_⟩
    · obtain hf | hf := hf
      · rw [hf] at hP
        exact hP (by rw [hpick]; rfl)
      · rw [hf] at hP
        exact hP (by rw [hpick]; rfl)
    · refine (isRunning_of_move hm fun hf => ?_).trans hrun
      rw [hf] at hP
      cases hP _ hw
  · exact congrFun hm.invoked _

/-- A coroutine of the pool that has no handle of the registration makes a step. -/
lemma KeepsHandle.member {m : CoPool.Member n} {sh : CoPool.Shared (ℕ ⊕ κ)}
    {p : CoPool.Pc (ℕ ⊕ κ)} (hm : Move s.pool.shared (s.pool.pc m) sh p)
    (h₁ : s.pool.pc m ≠ .invoke (.inl 0)) (h₂ : s.pool.pc m ≠ .invoking (.inl 0)) :
    KeepsHandle s { s with pool :=
      { s.pool with shared := sh, pc := Function.update s.pool.pc m p } } where
  call := rfl
  works hw hr := by
    generalize s.pool.pc m = p₀ at hm
    cases hm with
    | @take k hk =>
      by_cases hk0 : k = .inl 0
      · subst hk0
        exact .inr ⟨m, Function.update_self _ _ _⟩
      · exact .inl ⟨mem_erase hw (Ne.symm hk0), hr⟩
    | _ => exact .inl ⟨hw, hr⟩
  pc m' hm' := by
    have hne : m' ≠ m := by
      rintro rfl
      exact hm'.elim h₁ h₂
    exact Function.update_of_ne hne _ _
  invoked := by
    generalize hp₀ : s.pool.pc m = p₀ at hm
    cases hm with
    | @invoke k =>
      have hk0 : .inl 0 ≠ k := by
        rintro rfl
        exact h₁ hp₀
      exact Function.update_of_ne hk0 _ _
    | _ => rfl

/-- A coroutine of the pool makes a step. -/
lemma Inv.member (h : Inv s) {m : CoPool.Member n} {a : CoPool.Answer (ℕ ⊕ κ)}
    (hs : s.stepMember m a = some t) : Inv t := by
  unfold State.stepMember at hs
  split at hs
  · rename_i d hpc
    obtain ⟨rfl, hd⟩ := h.held (m := m) (d := d) (k := 0) (by rw [hpc]; rfl)
    obtain ⟨p, hp, rfl⟩ := stepPool_eq hs
    have hpI := h.pool.next hp
    obtain ⟨r, hr, rfl⟩ := Option.map_eq_some_iff.mp hp
    rw [State.call, State.setHandle, hpc] at hr
    obtain rfl := Option.some.inj hr
    cases h.phase with
    | waiting hd' => omega
    | delivered _ hw hpe hru hz =>
      obtain ⟨hh, ha⟩ := h.of_invoke hw hpc
      have hh' : (s.call 0).handle 0 = .running := State.call_handle s 0
      refine h.go hd hd rfl hpI (fun d hne => ⟨Function.update_of_ne hne _ _, rfl⟩)
        (.delivered hd (.invoked m (.inl hh') ⟨ha.callback, ha.call⟩ (Function.update_self _ _ _))
          ?_ ?_ ?_)
      · rw [hh] at hpe
        rw [hh']
        exact hpe
      · rw [hh']
        rw [hh] at hru
        exact congrArg (· + 1) hru
      · rw [hh']
        rw [hh] at hz
        exact hz
  · rename_i d hpc
    obtain ⟨rfl, hd⟩ := h.held (m := m) (d := d) (k := 1) (by rw [hpc]; rfl)
    by_cases hend : s.handle 0 = if a.throws then .threw else .ended
    · rw [if_pos hend] at hs
      obtain ⟨p, hp, rfl⟩ := stepPool_eq hs
      have hpI := h.pool.next hp
      have hv := (h.pool.ledger.held m (.inl 0) 1 (by rw [hpc]; rfl)).2.2.1
      obtain ⟨r, hr, rfl⟩ := Option.map_eq_some_iff.mp hp
      rw [hpc] at hr
      cases h.phase with
      | waiting hd' => omega
      | delivered _ hw hpe hru hz =>
        obtain ⟨hh, ha⟩ := h.of_invoking hw hpc
        have hat : a.throws = false := by
          refine Bool.eq_false_iff.mpr fun hat => ?_
          rw [hat, if_pos rfl] at hend
          rw [hend] at hh
          obtain hh | hh | hh := hh <;> cases hh
        rw [hat] at hend
        obtain rfl := Option.some.inj hr
        refine h.go hd hd rfl hpI (fun d _ => ⟨rfl, rfl⟩)
          (.delivered hd (.settled hend ⟨ha.callback, ha.call⟩ ?_) hpe hru hz)
        rw [hat]
        obtain ⟨g, hg⟩ := s.pool.shared.exists_setFuture (.inl 0) .value
        dsimp only
        rw [hg]
        exact hv
    · rw [if_neg hend] at hs
      cases hs
  · rename_i h₁ h₂
    have hs' := hs
    obtain ⟨p, hp, rfl⟩ := stepPool_eq hs
    obtain ⟨r, hr, rfl⟩ := Option.map_eq_some_iff.mp hp
    exact h.stepPool hs' (fun _ => rfl) (.member (CoPool.Pc.move_of_step hr) (h₁ 0) (h₂ 0))

/-! ## Steps of the callback -/

/-- A call of the callback changes only what that call does next. -/
lemma update_call (f : Frame) {d : ℕ} (hd : d ≠ 0) :
    Function.update s.pool.call (.inl 0) f (.inl d) = s.pool.call (.inl d) :=
  Function.update_of_ne (fun h => hd (Sum.inl_injective h)) _ _

/-- The frame of the callback after it has been replaced. -/
lemma update_call_self (s : State n κ) (f : Frame) :
    Function.update s.pool.call (.inl 0) f (.inl 0) = f :=
  Function.update_self _ _ _

/-- The callback looks for the pool. -/
lemma Inv.lock (h : Inv s) {e : Env κ} (hw : Place s) (hc : s.callback = some (0, .lock))
    (hs : s.stepCallback 0 e .lock = some t) : Inv t := by
  obtain ⟨hh, hi, -⟩ | ⟨-, hn, -⟩ | ⟨-, hn, -⟩ | ⟨-, hn⟩ := hw.of_callback hc
  · rw [State.stepCallback] at hs
    split_ifs at hs
    · obtain ⟨p, hp, rfl⟩ := stepPool_eq hs
      have hpI : CoPool.Inv p := h.pool.next hp
      change (if s.pool.call (.inl 0) = .idle then _ else none) = some p at hp
      rw [if_pos hi] at hp
      obtain rfl := Option.some.inj hp
      exact h.callback_at hc hpI (fun _ => update_call _)
        (.submits hh rfl (.inl (update_call_self s _)))
    · obtain rfl := Option.some.inj hs
      exact h.callback_at hc h.pool (fun _ _ => rfl) (.new hh (.inr rfl) hi)
  · cases hn
  · exact absurd rfl hn
  · cases hn

/-- `Submit` makes a step. -/
lemma Inv.submit (h : Inv s) {e : Env κ} (hw : Place s) (hc : s.callback = some (0, .submit))
    (hP : SubmitAccepts s e.answer (s.pool.call (.inl 0)))
    (hs : s.stepCallback 0 e .submit = some t) : Inv t := by
  have heta : ∀ p : CoPool.State n (ℕ ⊕ κ),
      ({ s with pool := p } : State n κ) = { s with pool := p, callback := some (0, .submit) } :=
    fun p => by rw [← hc]
  -- a step of the call, with what it leaves of the pool
  have hstep : ∀ {f f' : Frame} (sh : CoPool.Shared (ℕ ⊕ κ)), s.pool.call (.inl 0) = f →
      s.stepPool (.call (.inl 0) e.answer) = some t →
      f.step s.pool.shared (.inl 0) e.answer = some (sh, f') →
      Place { s with
        pool := { s.pool with shared := sh, call := Function.update s.pool.call (.inl 0) f' }
        callback := some (0, .submit) } → Inv t := fun {f f'} sh hf hs hr hpl => by
    obtain ⟨p, hp, rfl⟩ := stepPool_eq hs
    have hpI := h.pool.next hp
    rw [CoPool.next, hf, hr] at hp
    obtain rfl := Option.some.inj hp
    rw [heta]
    exact h.callback_at hc hpI (fun _ => update_call _) hpl
  obtain ⟨-, -, hn⟩ | ⟨hh, -, hf⟩ | ⟨ha, -⟩ | ⟨-, hn⟩ := hw.of_callback hc
  · obtain hn | hn := hn <;> cases hn
  · rw [State.stepCallback] at hs
    obtain hf | hf | hf := hf
    · rw [hf] at hP
      simp only [hf] at hs
      let sh := { s.pool.shared with
        future := Function.update s.pool.shared.future (.inl 0) .none }
      refine hstep sh hf hs ?_ (.submits hh rfl (.inr (.inl (update_call_self s _))))
      rw [Frame.step, hP.1, hP.2]
      rfl
    · rw [hf] at hP
      simp only [hf] at hs
      refine hstep s.pool.shared hf hs (congrArg some (if_pos hP)) ?_
      exact .submits hh rfl (.inr (.inr (update_call_self s _)))
    · rw [hf] at hP
      simp only [hf] at hs
      let sh := { s.pool.shared with
        works := s.pool.shared.works ++ [Sum.inl 0]
        accepted := Function.update s.pool.shared.accepted (.inl 0) true }
      refine hstep sh hf hs ?_ (.queued hh ⟨.inr ⟨_, rfl, by simp, by simp⟩,
        .inl ⟨update_call_self s _, rfl⟩⟩ ?_ ?_)
      · rw [Frame.step, hP.1]
        rfl
      · exact List.mem_append_right _ (List.mem_singleton_self _)
      · exact hP.2
  · rw [State.stepCallback] at hs
    obtain ⟨hf, -⟩ | hf := ha.call
    · simp only [hf] at hs
      exact hstep _ hf hs rfl (ha.place hw rfl rfl rfl
        ⟨.inr ⟨_, rfl, by simp, by simp⟩, .inr (update_call_self s _)⟩)
    · simp only [hf] at hs
      obtain rfl := Option.some.inj hs
      exact h.callback_at hc h.pool (fun _ _ => rfl)
        (ha.place hw rfl rfl rfl ⟨.inr ⟨_, rfl, by simp, by simp⟩, .inr hf⟩)
  · cases hn

/-- The callback drops its reference to the pool. -/
lemma Inv.dropPool (h : Inv s) {e : Env κ} (hw : Place s) (hc : s.callback = some (0, .drop))
    (hs : s.stepCallback 0 e .drop = some t) : Inv t := by
  have hns : s.callback ≠ some (0, .submit) := by
    simp [hc]
  obtain ⟨-, -, hn⟩ | ⟨-, hn, -⟩ | ⟨ha, -⟩ | ⟨-, hn⟩ := hw.of_callback hc
  · obtain hn | hn := hn <;> cases hn
  · cases hn
  · rw [State.stepCallback] at hs
    split_ifs at hs
    · obtain rfl := Option.some.inj hs
      exact h.callback_at hc h.pool (fun _ _ => rfl)
        (ha.place hw rfl rfl rfl (ha.goto hns rfl (by simp) (by simp)))
    · obtain ⟨p, hp, rfl⟩ := stepPool_eq hs
      have hpI : CoPool.Inv p := h.pool.next hp
      change (if s.pool.call (.inr e.destroyer) = .idle then _ else none) = some p at hp
      split_ifs at hp
      obtain rfl := Option.some.inj hp
      have hne : ∀ d, Function.update s.pool.call (.inr e.destroyer) CoPool.Call.destroy.frame
          (.inl d) = s.pool.call (.inl d) := fun d => Function.update_of_ne Sum.inl_ne_inr _ _
      exact h.callback_at hc hpI (fun d _ => hne d)
        (ha.place hw rfl rfl rfl (ha.goto hns (hne 0) (by simp) (by simp)))
  · cases hn

/-- `~CoPool` has returned to the callback. -/
lemma Inv.destroyed (h : Inv s) {e : Env κ} {j : κ} (hw : Place s)
    (hc : s.callback = some (0, .destroy j)) (hs : s.stepCallback 0 e (.destroy j) = some t) :
    Inv t := by
  have hns : s.callback ≠ some (0, .submit) := by
    simp [hc]
  obtain ⟨-, -, hn⟩ | ⟨-, hn, -⟩ | ⟨ha, -⟩ | ⟨-, hn⟩ := hw.of_callback hc
  · obtain hn | hn := hn <;> cases hn
  · cases hn
  · rw [State.stepCallback] at hs
    split_ifs at hs
    obtain rfl := Option.some.inj hs
    exact h.callback_at hc h.pool (fun _ _ => rfl)
      (ha.place hw rfl rfl rfl (ha.goto hns rfl (by simp) (by simp)))
  · cases hn

/-- The handle gets a coroutine of its own. -/
lemma Inv.regist (h : Inv s) {e : Env κ} (hw : Place s) (hc : s.callback = some (0, .regist))
    (hP : e.fails = false) (hs : s.stepCallback 0 e .regist = some t) : Inv t := by
  obtain ⟨hh, hi, -⟩ | ⟨-, hn, -⟩ | ⟨-, -, hn⟩ | ⟨-, hn⟩ := hw.of_callback hc
  · rw [State.stepCallback] at hs
    rw [hP, if_neg (by decide)] at hs
    obtain rfl := Option.some.inj hs
    have hr : ((s.setHandle 0 .ready).goto 0 .leave).handle 0 = .ready :=
      State.setHandle_handle s 0 _
    cases h.phase with
    | waiting _ hcb =>
      rw [hc] at hcb
      cases hcb
    | delivered hd _ hpe hru hz =>
      refine h.go hd hd rfl h.pool (fun d hne => ⟨Function.update_of_ne hne _ _, rfl⟩)
        (.delivered hd (.coroutine (.inl hr) (.inr rfl) hi) ?_ ?_ ?_)
      · rw [hr]
        rw [hh] at hpe
        exact hpe
      · rw [hr]
        rw [hh] at hru
        exact hru
      · rw [hr]
        rw [hh] at hz
        exact hz
  · cases hn
  · exact absurd rfl hn
  · cases hn

/-- The handler of the wait returns. -/
lemma Inv.leave (h : Inv s) {e : Env κ} (hw : Place s) (hc : s.callback = some (0, .leave))
    (hs : s.stepCallback 0 e .leave = some t) : Inv t := by
  obtain rfl := Option.some.inj hs
  have ht : s.drop { s with callback := none } =
      { s with callback := none, released := s.released + if s.pollevent then 0 else 1 } := by
    unfold State.drop State.alive
    rw [hc]
    cases s.pollevent <;> rfl
  rw [ht]
  cases h.phase with
  | waiting _ hcb =>
    rw [hc] at hcb
    cases hcb
  | delivered hd _ hpe hru hz =>
    have hpl : Place { s with
        callback := none, released := s.released + if s.pollevent then 0 else 1 } := by
      obtain ⟨-, -, hn⟩ | ⟨-, hn, -⟩ | ⟨ha, -⟩ | ⟨hi, -⟩ := hw.of_callback hc
      · obtain hn | hn := hn <;> cases hn
      · cases hn
      · refine ha.place hw rfl rfl rfl ⟨.inl rfl, .inr ?_⟩
        obtain ⟨-, hc'⟩ | hf := ha.call
        · rw [hc] at hc'
          cases hc'
        · exact hf
      · cases hw with
        | coroutine h₁ => exact .coroutine h₁ (.inl rfl) hi
        | new _ h₂ =>
          rw [hc] at h₂
          obtain h₂ | h₂ := h₂ <;> cases h₂
        | submits _ h₂ =>
          rw [hc] at h₂
          cases h₂
        | queued _ ha | taken _ _ ha | invoked _ _ ha | settled _ ha =>
          obtain ⟨hf, -⟩ | hf := ha.call
          · rw [hi] at hf
            cases hf
          · rw [hi] at hf
            cases hf
    refine h.go hd hd rfl h.pool (fun _ _ => ⟨rfl, rfl⟩) (.delivered hd hpl hpe hru ?_)
    rw [hc] at hz
    by_cases hend : s.handle 0 = .ended
    · simp_all
    · simp_all

/-- The callback of the event makes a step. -/
lemma Inv.callback (h : Inv s) {e : Env κ} {c : ℕ × Point κ}
    (hP : CallbackKept s e s.callback) (hc : s.callback = some c)
    (hs : s.stepCallback c.1 e c.2 = some t) : Inv t := by
  obtain ⟨d, p⟩ := c
  rw [hc] at hP
  cases h.phase with
  | waiting _ hcb =>
    rw [hc] at hcb
    cases hcb
  | delivered _ hw =>
    obtain rfl := hw.eq_zero hc
    cases p with
    | lock => exact h.lock hw hc hs
    | submit => exact h.submit hw hc hP hs
    | drop => exact h.dropPool hw hc hs
    | destroy j => exact h.destroyed hw hc hs
    | regist => exact h.regist hw hc hP hs
    | leave => exact h.leave hw hc hs

/-! ## The runs -/

/-- Every step that is kept keeps the invariant. -/
lemma Inv.next (h : Inv s) {l : Label n κ} (hP : Kept s l) (hs : next s l = some t) : Inv t := by
  unfold EventHelper.next at hs
  split at hs
  · split_ifs at hs with hw
    obtain rfl := Option.some.inj hs
    replace hw := List.contains_iff_mem.mp hw
    refine h.complete (h.waits.fdReady hw) ?_ fun hq => ?_
    · exact List.append_ne_nil_of_right_ne_nil _ (List.cons_ne_nil _ _)
    · rw [hq.fdWaits] at hw
      exact absurd hw List.not_mem_nil
  · obtain ⟨a, ha, rfl⟩ := Option.map_eq_some_iff.mp hs
    refine h.complete (h.waits.timerExpired ha) ?_ fun hq => ?_
    · exact List.append_ne_nil_of_right_ne_nil _ (List.cons_ne_nil _ _)
    · rw [hq.timerWait] at ha
      cases ha
  · split_ifs at hs with hk
    obtain rfl := Option.some.inj hs
    exact h.runHandler hk.1 hP
  · obtain ⟨c, hc, hs⟩ := Option.bind_eq_some_iff.mp hs
    exact h.callback hP hc hs
  · split_ifs at hs with hd
    obtain rfl := Option.some.inj hs
    exact h.start hd
  · rename_i d throws
    obtain rfl : throws = false := hP
    split at hs
    · rename_i hd
      obtain rfl := Option.some.inj hs
      exact h.finish hd
    · cases hs
  · split_ifs at hs with hd
    obtain rfl := Option.some.inj hs
    exact h.clear hd
  · exact h.member hs
  · split_ifs at hs
    exact h.begin hs
  · exact h.call hP hs
  · have hs' := hs
    obtain ⟨p, hp, rfl⟩ := stepPool_eq hs
    obtain rfl := Option.some.inj hp
    exact h.stepPool hs' (fun _ => rfl) ⟨rfl, fun hw hr => .inl ⟨hw, hr⟩, fun _ _ => rfl, rfl⟩
  · split_ifs at hs
    · obtain rfl := Option.some.inj hs
      exact h.poolHeld false
    · exact (h.poolHeld false).begin hs

/-- The invariant holds in every run that is kept. -/
lemma inv_of_kept (h : (system n κ).ReachableWhen Kept s) : Inv s := by
  refine h.induct ?_ fun s l t hI hP hs => hI.next hP hs
  rintro s ⟨fd, event, ms, now, pooled, -, -, rfl⟩
  exact ⟨.startListen rfl _ _, CoPool.Inv.init, fun _ _ => ⟨rfl, rfl⟩, fun hd => (by cases hd),
    .waiting rfl rfl rfl (fun hf => by cases hf) rfl rfl⟩

/-- In every run in which the wait that is delivered is alone and the handle is kept, the handler
runs once and the event is released once. -/
theorem exactlyOnce_of_kept (h : (system n κ).ReachableWhen Kept s) : ExactlyOnce s :=
  (inv_of_kept h).exactlyOnce

/-- The steps of a registration whose handle goes to the only worker of its pool. -/
def runsInPool : List (Label 1 Unit) :=
  let c : Label 1 Unit := .callback { destroyer := () }
  let m := fun a => Label.member (.work ⟨0, Nat.one_pos⟩) a
  [.fdReady (optReadable, 1), m {}, m {}, .run (.fd optReadable 1), c, c, c, c, c, c, c,
    m { pick := some (.inl 0) }, m {}, .finish 0 false, .clear 0, m {}, m {}, c]

/-- A run whose callback runs in the pool, once. -/
theorem exactlyOnce_of_kept_runsInPool : ∃ s : State 1 Unit, ExactlyOnce s ∧
    s.fired = true ∧ s.runs = 1 ∧ s.released = 1 := by
  have hrun : (system 1 Unit).endsInWhen Kept (.init 1 Unit 3 optReadable (-1) 0 true) runsInPool
      (fun s => s.fired = true ∧ s.runs = 1 ∧ s.released = 1) = true := by decide
  obtain ⟨s, hs, hp⟩ := System.exists_of_endsInWhen (A := system 1 Unit)
    ⟨3, optReadable, -1, 0, true, by decide, by decide, rfl⟩ hrun
  exact ⟨s, exactlyOnce_of_kept hs, hp⟩

/-- The steps of a registration whose descriptor is ready and whose timer expires before the driver
of the loop runs a handler. -/
def readyAndExpired : List (Label 1 Unit) :=
  let c : Label 1 Unit := .callback { destroyer := () }
  [.fdReady (optReadable, 1), .timerExpired, .run (.fd optReadable 1), c, c, c, .run (.timer 1), c,
    c, c, .start 0, .start 1]

/-- The user's handler then runs twice. -/
theorem readyAndExpired_not_exactlyOnce :
    ¬ ∀ s : State 1 Unit, (system 1 Unit).Reachable s → ExactlyOnce s := by
  intro h
  have hrun : (system 1 Unit).endsIn (.init 1 Unit 3 (optReadable ||| optTimeout) 100 0 false)
      readyAndExpired (fun s => s.runs = 2) = true := by decide
  obtain ⟨s, hs, hr⟩ := System.exists_of_endsIn (A := system 1 Unit)
    ⟨3, optReadable ||| optTimeout, 100, 0, false, by decide, by decide, rfl⟩ hrun
  have hle := (h s hs).runs
  rw [hr] at hle
  exact absurd hle (by decide)

end BbtCoroutine.EventHelper
