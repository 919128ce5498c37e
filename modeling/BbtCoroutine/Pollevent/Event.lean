import BbtCoroutine.Coroutine.Model

/-!
# A model of `pollevent::Event`

An event owns a descriptor object, a timer object, or both.  `StartListen` opens a round
and hands waits of that round to asio.  A wait that asio holds may still be cancelled; one
whose handler is queued may not, and the handler checks the round when it runs.  What passes
that check is delivered to the callback of the owner outside the lock.

The functions are the critical sections of `Event.cc`, with the time as an argument where
the source reads the clock.  A time is a number of nanoseconds of the steady clock.
-/

namespace BbtCoroutine.Pollevent

open Coroutine (optTimeout optReadable optWriteable optPersist)

/-- `EV_CLOSED`. -/
def evClosed : EventMask := 0x80

/-- The nanoseconds in a millisecond. -/
def msecNanos : ℤ := 1000000

/-- A wait of the timer: `expires_after`, and the round it was started in. -/
structure Arming where
  ms : ℕ
  expiry : ℤ
  round : ℕ
  deriving DecidableEq, Repr

/-- A completion handler that asio has queued. -/
inductive Handler
  | fd (eventFlag : EventMask) (round : ℕ)
  | timer (round : ℕ)
  deriving DecidableEq, Repr

/-- The round a handler belongs to. -/
def Handler.round : Handler → ℕ
  | fd _ r | timer r => r

/-- A call of the owner's callback, and the round in which a persistent wait is to be made again
after it. -/
structure Delivery where
  events : EventMask
  rearm : Option ℕ := none
  deriving DecidableEq, Repr

/-- The members of an `Event`, and what asio holds for it. -/
structure Event where
  fd : ℤ
  listenEvents : EventMask
  /-- `m_sd` is not null. -/
  sd : Bool
  /-- `m_timer` is not null. -/
  timer : Bool
  round : ℕ := 0
  timeout : ℤ := -1
  /-- The waits of `m_sd` that are neither cancelled nor completed. -/
  fdWaits : List (EventMask × ℕ) := []
  /-- The wait of `m_timer` that is neither cancelled nor completed. -/
  timerWait : Option Arming := none
  /-- The handlers queued with success. -/
  queued : List Handler := []
  deriving DecidableEq, Repr

namespace Event

/-- The constructor, when the objects can be made. -/
def new (fd : ℤ) (listenEvents : EventMask) : Event where
  fd := fd
  listenEvents := listenEvents
  sd := 0 ≤ fd ∧ listenEvents &&& (optReadable ||| optWriteable ||| evClosed) ≠ 0
  timer := listenEvents &&& optTimeout ≠ 0

/-- `CancelPendingLocked`: the queued handlers are not revoked. -/
def cancelPending (e : Event) : Event :=
  { e with fdWaits := [], timerWait := none }

/-- `DoAsyncWaitLocked`. -/
def doAsyncWait (e : Event) (eventFlag : EventMask) (round : ℕ) : Event :=
  if e.sd then { e with fdWaits := e.fdWaits ++ [(eventFlag, round)] } else e

/-- `ArmTimerLocked` at the time `now`. -/
def armTimer (e : Event) (now : ℤ) (timeoutMs : ℕ) (round : ℕ) : Event :=
  { e with timerWait := some ⟨timeoutMs, now + timeoutMs * msecNanos, round⟩ }

/-- The waits on the descriptor that `StartListen` makes. -/
def listenFd (e : Event) : Event :=
  let e₁ := if e.listenEvents &&& optReadable ≠ 0 then e.doAsyncWait optReadable e.round else e
  if e.listenEvents &&& optWriteable ≠ 0 then e₁.doAsyncWait optWriteable e.round else e₁

/-- `StartListen` at the time `now`, on an event in shared ownership. -/
def startListen (e : Event) (now : ℤ) (timeout : ℕ) : Event :=
  let e₁ := ({ e with
    round := e.round + 1
    timeout := if 0 < timeout then now + (timeout + 1) * msecNanos else -1 }).cancelPending.listenFd
  if e₁.timer then
    if 0 < timeout then e₁.armTimer now timeout e₁.round else e₁
  else if 0 < timeout ∧ e₁.fd < 0 then
    { e₁ with timer := true }.armTimer now timeout e₁.round
  else e₁

/-- `OnFdWaitCompleted` up to the callback. -/
def onFdWaitCompleted (e : Event) (round : ℕ) (eventFlag : EventMask) : Event × Option Delivery :=
  if round ≠ e.round ∨ !e.sd then (e, none)
  else ({ e with timerWait := none },
    some ⟨eventFlag, if e.listenEvents &&& optPersist ≠ 0 then some round else none⟩)

/-- `OnFdWaitCompleted` after the callback. -/
def afterCallback (e : Event) (d : Delivery) : Event :=
  if d.rearm = some e.round then e.doAsyncWait d.events e.round else e

/-- `OnTimerFired` up to the callback. -/
def onTimerFired (e : Event) (round : ℕ) : Event × Option Delivery :=
  if round ≠ e.round ∨ !e.timer then (e, none)
  else ({ e with fdWaits := [] }, some ⟨optTimeout, none⟩)

/-- A queued handler runs. -/
def handle (e : Event) : Handler → Event × Option Delivery
  | .fd eventFlag round => e.onFdWaitCompleted round eventFlag
  | .timer round => e.onTimerFired round

/-- The descriptor is ready: the handler of a wait is queued. -/
def fdReady (e : Event) (w : EventMask × ℕ) : Event :=
  { e with fdWaits := e.fdWaits.erase w, queued := e.queued ++ [.fd w.1 w.2] }

/-- The timer has expired: its handler is queued. -/
def timerExpired (e : Event) (a : Arming) : Event :=
  { e with timerWait := none, queued := e.queued ++ [.timer a.round] }

/-- asio takes a handler from its queue. -/
def dequeue (e : Event) (h : Handler) : Event :=
  { e with queued := e.queued.erase h }

/-! ## What the waits of a round lead to -/

/-- A handler that is queued passes its check. -/
def Passes (e : Event) : Handler → Prop
  | .fd _ round => round = e.round ∧ e.sd = true
  | .timer round => round = e.round ∧ e.timer = true

/-- The timer wait `a` of the current round is held by asio, or a handler that passes its check
is queued. -/
def Ticking (e : Event) (a : Arming) : Prop :=
  (e.timer = true ∧ e.timerWait = some a ∧ a.round = e.round) ∨ ∃ h ∈ e.queued, e.Passes h

@[simp] lemma doAsyncWait_timer (e : Event) (f : EventMask) (r : ℕ) :
    (e.doAsyncWait f r).timer = e.timer := by
  unfold doAsyncWait
  split <;> rfl

@[simp] lemma doAsyncWait_round (e : Event) (f : EventMask) (r : ℕ) :
    (e.doAsyncWait f r).round = e.round := by
  unfold doAsyncWait
  split <;> rfl

@[simp] lemma doAsyncWait_timerWait (e : Event) (f : EventMask) (r : ℕ) :
    (e.doAsyncWait f r).timerWait = e.timerWait := by
  unfold doAsyncWait
  split <;> rfl

@[simp] lemma doAsyncWait_queued (e : Event) (f : EventMask) (r : ℕ) :
    (e.doAsyncWait f r).queued = e.queued := by
  unfold doAsyncWait
  split <;> rfl

@[simp] lemma listenFd_timer (e : Event) : e.listenFd.timer = e.timer := by
  unfold listenFd
  split <;> split <;> simp

/-- An event made with `EV_TIMEOUT` has its timer armed by `StartListen`, unless the time is
`0`. -/
lemma startListen_of_timer {e : Event} (he : e.timer = true) (now : ℤ) {timeout : ℕ}
    (ht : 0 < timeout) :
    (e.startListen now timeout).timer = true ∧
      (e.startListen now timeout).timerWait =
        some ⟨timeout, now + timeout * msecNanos, (e.startListen now timeout).round⟩ := by
  unfold startListen
  have htimer : (cancelPending { e with
      round := e.round + 1
      timeout := if 0 < timeout then now + (timeout + 1) * msecNanos else -1 }).listenFd.timer
        = true := by
    rw [listenFd_timer]
    exact he
  rw [if_pos htimer, if_pos ht]
  exact ⟨htimer, rfl⟩

/-- A handler that passes its check delivers. -/
lemma exists_handle_of_passes {e : Event} {h : Handler} (hp : e.Passes h) :
    ∃ d, (e.handle h).2 = some d := by
  cases h with
  | fd f r =>
    obtain ⟨hr, hsd⟩ := hp
    refine ⟨⟨f, if e.listenEvents &&& optPersist ≠ 0 then some r else none⟩, ?_⟩
    simp [handle, onFdWaitCompleted, hr, hsd]
  | timer r =>
    obtain ⟨hr, ht⟩ := hp
    refine ⟨⟨optTimeout, none⟩, ?_⟩
    simp [handle, onTimerFired, hr, ht]

/-- A handler that does not pass its check does nothing. -/
lemma handle_of_not_passes {e : Event} {h : Handler} (hp : ¬ e.Passes h) :
    e.handle h = (e, none) := by
  cases h with
  | fd f r =>
    refine if_pos (or_iff_not_imp_left.mpr fun hr => ?_)
    have hsd : e.sd ≠ true := fun hsd => hp ⟨not_not.mp hr, hsd⟩
    rw [Bool.eq_false_iff.mpr hsd, Bool.not_false]
  | timer r =>
    refine if_pos (or_iff_not_imp_left.mpr fun hr => ?_)
    have ht : e.timer ≠ true := fun ht => hp ⟨not_not.mp hr, ht⟩
    rw [Bool.eq_false_iff.mpr ht, Bool.not_false]

/-- A handler that delivers nothing leaves the event as it is. -/
lemma handle_eq_of_none {e : Event} {h : Handler} (hd : (e.handle h).2 = none) :
    (e.handle h).1 = e := by
  by_cases hp : e.Passes h
  · obtain ⟨d, hd'⟩ := exists_handle_of_passes hp
    rw [hd] at hd'
    cases hd'
  · rw [handle_of_not_passes hp]

/-- The descriptor being ready does not stop the timer. -/
lemma Ticking.fdReady {e : Event} {a : Arming} (h : e.Ticking a) (w : EventMask × ℕ) :
    (e.fdReady w).Ticking a := by
  rcases h with h | ⟨k, hk, hp⟩
  · exact .inl h
  · refine .inr ⟨k, List.mem_append_left _ hk, ?_⟩
    cases k <;> exact hp

/-- The expiry of the timer queues a handler that passes its check. -/
lemma Ticking.timerExpired {e : Event} {a b : Arming} (h : e.Ticking a)
    (hb : e.timerWait = some b) : (e.timerExpired b).Ticking a := by
  rcases h with ⟨ht, ha, hr⟩ | ⟨k, hk, hp⟩
  · obtain rfl : b = a := Option.some.inj (hb.symm.trans ha)
    exact .inr ⟨.timer b.round, List.mem_append_right _ (List.mem_singleton_self _), hr, ht⟩
  · refine .inr ⟨k, List.mem_append_left _ hk, ?_⟩
    cases k <;> exact hp

/-- A handler that is taken from the queue delivers, or the timer keeps ticking without it. -/
lemma Ticking.handle {e : Event} {a : Arming} (h : e.Ticking a) (k : Handler) :
    (∃ d, ((e.dequeue k).handle k).2 = some d) ∨ ((e.dequeue k).handle k).1.Ticking a := by
  cases hd : ((e.dequeue k).handle k).2 with
  | some d => exact .inl ⟨d, rfl⟩
  | none =>
    right
    rw [handle_eq_of_none hd]
    rcases h with h | ⟨j, hj, hp⟩
    · exact .inl h
    · have hjk : j ≠ k := by
        rintro rfl
        have hq : (e.dequeue j).Passes j := by cases j <;> exact hp
        obtain ⟨d, hd'⟩ := exists_handle_of_passes hq
        rw [hd] at hd'
        cases hd'
      refine .inr ⟨j, (List.mem_erase_of_ne hjk).mpr hj, ?_⟩
      cases j <;> exact hp

end Event

end BbtCoroutine.Pollevent
