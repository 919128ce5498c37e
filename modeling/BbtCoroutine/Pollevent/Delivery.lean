import BbtCoroutine.Pollevent.Event
import BbtCoroutine.Transition.System
import Mathlib.Data.List.Basic

/-!
# A model of the rounds of an event

Threads call `StartListen`, `CancelListen` and `Trigger` of one event while asio completes its
waits and runs the handlers.  Each step is a critical section of `m_mutex`, or a step of asio or
of a handler outside it; `StartListen` is taken apart, as a wait may complete while the next one
is still being made.

A handler that has passed its check is `running` until it has called the callback and, for a
persistent wait, has come to the place where the wait is made again.  `passed`, `calls`,
`cancelled`, `cancels` and `triggerRound` are a record of the run: no step depends on them.
-/

namespace BbtCoroutine.Pollevent

open Transition
open Coroutine (optReadable optWriteable)

/-! ## State -/

/-- What a call of the callback is about. -/
inductive Source
  | fd (eventFlag : EventMask)
  | timer
  | trigger (n : ℕ)
  deriving DecidableEq

/-- What a queued handler calls the callback with. -/
def Handler.source : Handler → Source
  | .fd f _ => .fd f
  | .timer _ => .timer

/-- A handler that `Trigger` has posted; `n` is the number of the call. -/
structure Post where
  n : ℕ
  round : ℕ
  flag : EventMask
  deriving DecidableEq

/-- A handler that has passed its check, in the round `passed`. -/
structure Run where
  source : Source
  round : ℕ
  passed : ℕ
  events : EventMask
  rearm : Option ℕ := none
  /-- The callback has returned. -/
  called : Bool := false
  deriving DecidableEq

/-- What is left of a handler whose callback has returned. -/
def Run.returned (r : Run) : List Run :=
  if r.rearm.isSome then [{ r with called := true }] else []

/-- A call of the callback, by a handler that had passed its check in the round `passed`. -/
structure Call where
  source : Source
  round : ℕ
  passed : ℕ
  deriving DecidableEq

/-- The steps of a `StartListen` that holds `m_mutex`. -/
inductive Listening
  | cancelPending
  | read
  | write
  | timer
  deriving DecidableEq

/-- An event, the handlers about it and the calls of its methods. -/
structure State where
  event : Event
  /-- A `StartListen` holds `m_mutex`, with its timeout. -/
  listening : Option (Listening × ℕ) := none
  /-- The object has not been destroyed. -/
  alive : Bool := true
  /-- The callback is in the registry. -/
  registered : Bool := true
  /-- The calls of `CancelListen` that have still to take the callback out. -/
  taking : ℕ := 0
  posts : List Post := []
  running : List Run := []
  calls : List Call := []
  /-- `CancelListen` has been called since the last `StartListen`. -/
  cancelled : Bool := false
  cancels : ℕ := 0
  triggers : ℕ := 0
  triggerRound : ℕ → ℕ := fun _ => 0

namespace Event

/-- The end of `StartListen`, which arms the timer at the time `now`. -/
def listenTimer (e : Event) (now : ℤ) (timeout : ℕ) : Event :=
  if e.timer then
    if 0 < timeout then e.armTimer now timeout e.round else e
  else if 0 < timeout ∧ e.fd < 0 then
    { e with timer := true }.armTimer now timeout e.round
  else e

/-- The beginning of `StartListen`. -/
def openRound (e : Event) (now : ℤ) (timeout : ℕ) : Event :=
  { e with
    round := e.round + 1
    timeout := if 0 < timeout then now + (timeout + 1) * msecNanos else -1 }

/-- `StartListen` is its steps one after the other. -/
lemma startListen_eq (e : Event) (now : ℤ) (timeout : ℕ) :
    e.startListen now timeout =
      ((e.openRound now timeout).cancelPending.listenFd).listenTimer now timeout :=
  rfl

/-- The critical section of `CancelListen`. -/
def cancelListen (e : Event) (needCloseFd : Bool) : Event :=
  { e with
    round := e.round + 1
    timeout := -1
    fd := if needCloseFd ∧ 0 ≤ e.fd then -1 else e.fd
    sd := false
    timer := false
    fdWaits := []
    timerWait := none }

end Event

/-! ## Steps -/

/-- The steps of the callers, of asio and of the handlers. -/
inductive Label
  | startListen (now : ℤ) (timeout : ℕ)
  /-- The `StartListen` that holds `m_mutex` goes on. -/
  | listen (now : ℤ)
  | cancelListen (needCloseFd : Bool)
  | takeCallback
  | trigger (flag : EventMask)
  | fdReady (w : EventMask × ℕ)
  | timerExpired
  | run (h : Handler)
  | runPost (p : Post)
  /-- `CallEventCallback`. -/
  | call (r : Run)
  /-- What `OnFdWaitCompleted` does after the callback. -/
  | rearm (r : Run)
  | destroy

namespace State

/-- The next step of a `StartListen` with the given timeout. -/
def listen (s : State) (now : ℤ) (timeout : ℕ) : Listening → State
  | .cancelPending =>
    { s with
      event := s.event.cancelPending
      listening := some (.read, timeout) }
  | .read =>
    { s with
      event := if s.event.listenEvents &&& optReadable ≠ 0 then
        s.event.doAsyncWait optReadable s.event.round else s.event
      listening := some (.write, timeout) }
  | .write =>
    { s with
      event := if s.event.listenEvents &&& optWriteable ≠ 0 then
        s.event.doAsyncWait optWriteable s.event.round else s.event
      listening := some (.timer, timeout) }
  | .timer =>
    { s with
      event := s.event.listenTimer now timeout
      listening := none }

/-- The handler `h` runs up to the callback. -/
def runHandler (s : State) (h : Handler) : State :=
  let e := s.event.dequeue h
  if s.alive then
    match e.handle h with
    | (e', none) => { s with event := e' }
    | (e', some d) =>
      { s with
        event := e'
        running := s.running ++ [⟨h.source, h.round, e.round, d.events, d.rearm, false⟩] }
  else { s with event := e }

/-- The posted handler `p` runs `OnCustomTriggered` up to the callback. -/
def runPosted (s : State) (p : Post) : State :=
  let t := { s with posts := s.posts.erase p }
  if s.alive ∧ p.round = s.event.round then
    { t with
      running := s.running ++ [⟨.trigger p.n, p.round, s.event.round, p.flag, none, false⟩] }
  else t

/-- The handler `r` calls the callback, if it is still in the registry. -/
def callback (s : State) (r : Run) : State :=
  { s with
    running := s.running.erase r ++ r.returned
    calls := if s.registered then s.calls ++ [⟨r.source, r.round, r.passed⟩] else s.calls }

end State

/-- A wait that equals a given one is a member. -/
lemma exists_eq_iff_mem (e : Event) (w : EventMask × ℕ) :
    (∃ v ∈ e.fdWaits, v = w) ↔ w ∈ e.fdWaits := by
  constructor
  · rintro ⟨v, hv, rfl⟩
    exact hv
  · intro h
    exact ⟨w, h, rfl⟩

/-- It is decidable whether asio holds a wait for the descriptor. -/
local instance decidableWaits (e : Event) (w : EventMask × ℕ) : Decidable (w ∈ e.fdWaits) :=
  decidable_of_iff _ (exists_eq_iff_mem e w)

/-- One step of the system. -/
def next (s : State) : Label → Option State
  | .startListen now timeout =>
    if s.listening = none ∧ s.alive = true then
      some { s with
        event := s.event.openRound now timeout
        listening := some (.cancelPending, timeout)
        cancelled := false }
    else none
  | .listen now => s.listening.map fun l => s.listen now l.2 l.1
  | .cancelListen needCloseFd =>
    if s.listening = none ∧ s.alive = true then
      some { s with
        event := s.event.cancelListen needCloseFd
        taking := s.taking + 1
        cancelled := true
        cancels := s.cancels + 1 }
    else none
  | .takeCallback =>
    if 0 < s.taking then some { s with
      registered := false
      taking := s.taking - 1 }
    else none
  | .trigger flag =>
    if s.listening = none ∧ s.alive = true then
      some { s with
        event := s.event.cancelPending
        posts := s.posts ++ [⟨s.triggers, s.event.round, flag⟩]
        triggers := s.triggers + 1
        triggerRound := Function.update s.triggerRound s.triggers s.event.round }
    else none
  | .fdReady w => if w ∈ s.event.fdWaits then some { s with event := s.event.fdReady w } else none
  | .timerExpired => s.event.timerWait.map fun a => { s with event := s.event.timerExpired a }
  | .run h => if h ∈ s.event.queued ∧ s.listening = none then some (s.runHandler h) else none
  | .runPost p => if p ∈ s.posts ∧ s.listening = none then some (s.runPosted p) else none
  | .call r => if r ∈ s.running ∧ r.called = false then some (s.callback r) else none
  | .rearm r =>
    if r ∈ s.running ∧ r.called = true ∧ s.listening = none then
      some { s with
        event := s.event.afterCallback ⟨r.events, r.rearm⟩
        running := s.running.erase r }
    else none
  | .destroy =>
    if s.listening = none ∧ s.running = [] ∧ s.taking = 0 ∧ s.alive = true then
      some { s with
        event := s.event.cancelListen false
        alive := false
        registered := false
        cancelled := true
        cancels := s.cancels + 1 }
    else none

/-- The transition system of an event. -/
def system : System State Label where
  start s := ∃ fd listenEvents, s = { event := Event.new fd listenEvents }
  next := next

end BbtCoroutine.Pollevent
