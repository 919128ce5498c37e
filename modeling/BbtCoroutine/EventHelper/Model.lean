import BbtCoroutine.CoPool.Ledger
import BbtCoroutine.Pollevent.Event

/-!
# A model of `_EventHelper`

One registration by `bbtco_ev_*`: the event that the helper listens with, the driver of the
loop that runs the handlers of its waits, and `on_event_handle`, which goes to a coroutine of its
own or to the pool of the registration.  The pool is the one of `CoPool`; the callback of the event
makes the calls `inl d` of it, one for each time that it runs, and anybody else makes the calls
`inr j`, of which `~CoPool` is made by the one who drops the last reference.

The event is alive as long as `m_pollevent` or a handler that runs refers to it, and so is the
callback, which refers to the helper in turn.

`fired`, `deliveries`, `runs` and `released` are a record of the run.  The numbers of the callback
are taken from `deliveries`; no step depends on the others.
-/

namespace BbtCoroutine.EventHelper

open Transition
open Coroutine (optPersist)
open Pollevent (Event Arming Handler)

variable {n : ℕ} {κ : Type*}

/-! ## State -/

/-- How far an `on_event_handle` has got. -/
inductive Handle
  | none
  /-- Its coroutine has been registered. -/
  | ready
  /-- The user's handler runs. -/
  | running
  | returned
  /-- `m_pollevent` has been set to null. -/
  | ended
  | threw
  deriving DecidableEq

/-- The user's handler has been called. -/
def Handle.begun : Handle → Bool
  | none | ready => false
  | _ => true

/-- How far the callback of the event has got. -/
inductive Point (κ : Type*)
  /-- `m_copool.lock()`. -/
  | lock
  | submit
  /-- The reference to the pool is dropped. -/
  | drop
  /-- It was the last one: `~CoPool` runs as the call `j`. -/
  | destroy (j : κ)
  /-- `RegistCoroutineTask`. -/
  | regist
  /-- The handler of the wait returns, and drops its reference to the event. -/
  | leave
  deriving DecidableEq

/-- A registration, and the pool of `n` workers that it has been made with. -/
structure State (n : ℕ) (κ : Type*) where
  event : Event
  /-- `m_pollevent` is not null. -/
  pollevent : Bool := true
  /-- The registration was made with a pool. -/
  pooled : Bool
  /-- Somebody else has a reference to the pool. -/
  poolHeld : Bool := true
  pool : CoPool.State n (ℕ ⊕ κ) := CoPool.init n (ℕ ⊕ κ)
  /-- The callback of the event that the driver of the loop runs. -/
  callback : Option (ℕ × Point κ) := none
  handle : ℕ → Handle := fun _ => .none
  fired : Bool := false
  deliveries : ℕ := 0
  runs : ℕ := 0
  released : ℕ := 0

/-- The answers that a step of the callback may need from its surroundings. -/
structure Env (κ : Type*) where
  /-- What `Submit` finds. -/
  answer : CoPool.Answer (ℕ ⊕ κ) := {}
  /-- `RegistCoroutineTask` throws. -/
  fails : Bool := false
  /-- The number of a `~CoPool`. -/
  destroyer : κ

namespace State

/-- Somebody refers to the event. -/
def alive (s : State n κ) : Bool :=
  s.pollevent || s.callback.isSome

/-- A reference to the event is dropped on the way to `t`; with the last one it is released. -/
def drop (s t : State n κ) : State n κ :=
  if s.alive && !t.alive then { t with released := t.released + 1 } else t

/-- The callback of the event goes on at the point `p`. -/
def goto (s : State n κ) (d : ℕ) (p : Point κ) : State n κ :=
  { s with callback := some (d, p) }

/-- The handle `d` goes on. -/
def setHandle (s : State n κ) (d : ℕ) (h : Handle) : State n κ :=
  { s with handle := Function.update s.handle d h }

/-- The user's handler is called. -/
def call (s : State n κ) (d : ℕ) : State n κ :=
  { s.setHandle d .running with runs := s.runs + 1 }

@[simp] lemma setHandle_handle (s : State n κ) (d : ℕ) (h : Handle) :
    (s.setHandle d h).handle d = h :=
  Function.update_self _ _ _

@[simp] lemma call_handle (s : State n κ) (d : ℕ) : (s.call d).handle d = .running :=
  Function.update_self _ _ _

/-! ## Steps -/

/-- The driver runs the handler `h`, up to the callback of the event. -/
def runHandler (s : State n κ) (h : Handler) : State n κ :=
  let e := s.event.dequeue h
  if s.alive then
    match e.handle h with
    | (e', none) => { s with event := e' }
    | (e', some _) =>
      { s with
        event := e'
        callback := some (s.deliveries, .lock)
        deliveries := s.deliveries + 1 }
  else { s with event := e }

variable [DecidableEq κ]

/-- A step of the pool. -/
def stepPool (s : State n κ) (l : CoPool.Label n (ℕ ⊕ κ)) : Option (State n κ) :=
  (CoPool.next s.pool l).map fun p => { s with pool := p }

/-- The next step of the callback `d` of the event. -/
def stepCallback (s : State n κ) (d : ℕ) (e : Env κ) : Point κ → Option (State n κ)
  | .lock =>
    if s.pooled ∧ s.poolHeld then (s.goto d .submit).stepPool (.begin (.inl d) .submit)
    else some (s.goto d .regist)
  | .submit =>
    match s.pool.call (.inl d) with
    -- what `Submit` returns is not looked at
    | .submitted _ | .threw => some (s.goto d .drop)
    | _ => s.stepPool (.call (.inl d) e.answer)
  | .drop =>
    if s.poolHeld then some (s.goto d .leave)
    else (s.goto d (.destroy e.destroyer)).stepPool (.begin (.inr e.destroyer) .destroy)
  | .destroy j => if s.pool.call (.inr j) = .released then some (s.goto d .leave) else none
  | .regist => some (if e.fails then s.goto d .leave else (s.setHandle d .ready).goto d .leave)
  | .leave => some (s.drop { s with callback := none })

/-- A coroutine of the pool makes a step; the body of `Invoke` is the handle. -/
def stepMember (s : State n κ) (m : CoPool.Member n) (a : CoPool.Answer (ℕ ⊕ κ)) :
    Option (State n κ) :=
  match s.pool.pc m with
  | .invoke (.inl d) => (s.call d).stepPool (.member m a)
  | .invoking (.inl d) =>
    if s.handle d = if a.throws then .threw else .ended then s.stepPool (.member m a) else none
  | _ => s.stepPool (.member m a)

/-- The callback of the event refers to the pool. -/
def callbackHolds (s : State n κ) : Bool :=
  match s.callback with
  | some (_, .submit) | some (_, .drop) => true
  | _ => false

end State

/-- The steps of a registration, of its pool and of others that use the pool. -/
inductive Label (n : ℕ) (κ : Type*)
  | fdReady (w : EventMask × ℕ)
  | timerExpired
  /-- The driver of the loop runs a handler that asio has queued. -/
  | run (h : Handler)
  | callback (e : Env κ)
  /-- The coroutine of a handle begins. -/
  | start (d : ℕ)
  /-- The user's handler returns or throws. -/
  | finish (d : ℕ) (throws : Bool)
  /-- `pthis->m_pollevent = nullptr`. -/
  | clear (d : ℕ)
  | member (m : CoPool.Member n) (a : CoPool.Answer (ℕ ⊕ κ))
  /-- Somebody who has a reference to the pool calls it. -/
  | begin (j : κ) (c : CoPool.Call)
  | call (j : κ) (a : CoPool.Answer (ℕ ⊕ κ))
  | setExceptionCallback (set : Bool)
  /-- The last other reference to the pool is dropped. -/
  | dropPool (j : κ)

variable [DecidableEq κ]

/-- One step. -/
def next (s : State n κ) : Label n κ → Option (State n κ)
  | .fdReady w =>
    if s.event.fdWaits.contains w then
      some { s with event := s.event.fdReady w, fired := true }
    else none
  | .timerExpired =>
    s.event.timerWait.map fun a => { s with event := s.event.timerExpired a, fired := true }
  | .run h => if h ∈ s.event.queued ∧ s.callback = none then some (s.runHandler h) else none
  | .callback e => s.callback.bind fun c => s.stepCallback c.1 e c.2
  | .start d => if s.handle d = .ready then some (s.call d) else none
  | .finish d throws =>
    if s.handle d = .running then some (s.setHandle d (if throws then .threw else .returned))
    else none
  | .clear d =>
    if s.handle d = .returned then some (s.drop { s.setHandle d .ended with pollevent := false })
    else none
  | .member m a => s.stepMember m a
  | .begin j c =>
    if s.poolHeld ∧ c ≠ .destroy then s.stepPool (.begin (.inr j) c) else none
  | .call j a => s.stepPool (.call (.inr j) a)
  | .setExceptionCallback set => s.stepPool (.setExceptionCallback set)
  | .dropPool j =>
    if s.poolHeld then
      if s.callbackHolds then some { s with poolHeld := false }
      else ({ s with poolHeld := false } : State n κ).stepPool (.begin (.inr j) .destroy)
    else none

/-- The timeout that `StartListen` gets for `ms` milliseconds. -/
def timeoutOf (ms : ℤ) : ℕ :=
  (ms % 2 ^ 64).toNat

/-- A helper for the descriptor `fd` that has made its event at the time `now`. -/
def State.init (n : ℕ) (κ : Type*) (fd : ℤ) (event : EventMask) (ms now : ℤ) (pooled : Bool) :
    State n κ where
  event := (Event.new fd event).startListen now (timeoutOf ms)
  pooled := pooled

/-- The transition system of a registration with events that are not persistent. -/
def system (n : ℕ) (κ : Type*) [DecidableEq κ] : System (State n κ) (Label n κ) where
  start s := ∃ fd event ms now pooled, 0 < event.toInt ∧ event &&& optPersist = 0 ∧
    s = .init n κ fd event ms now pooled
  next := next

end BbtCoroutine.EventHelper
