import BbtCoroutine.Sync.CoWaiter
import BbtCoroutine.Transition.System

/-!
# A model of `CoCond`

One condition, any set of coroutines that wait for it, and any set of callers of `NotifyOne` and
`NotifyAll`.  A waiter is pushed by the park callback, after its event has been registered, and it
is never taken out of the queue but by a notification.  `NotifyOne` keeps `m_mutex` from its first
pop to its return; `NotifyAll` takes it for each pop and notifies without it.  Timers and cancels
come in between.

`pushed` is the record of all waiters that have been pushed, and a call remembers what had been
pushed when it began.  No step depends on them.
-/

namespace BbtCoroutine.CoCond

open Transition

/-- The point a wait has reached. -/
inductive Pc
  | idle
  /-- The park callback is about to register the event. -/
  | regist
  | push
  | commit
  | parked
  /-- The waiter lets go of its event. -/
  | unbind
  deriving DecidableEq

/-- A waiter: the coroutine and the number of the wait that it was made for. -/
abbrev Waiter (Co : Type*) := Co × ℕ

/-- The point a notification has reached; `before` is what had been pushed when it began. -/
inductive Frame (Co : Type*)
  | idle
  /-- `NotifyOne` needs `m_mutex`. -/
  | one (before : List (Waiter Co))
  /-- The loop of `NotifyOne`. -/
  | oneLoop (before : List (Waiter Co))
  | oneHas (before : List (Waiter Co)) (e : Waiter Co)
  /-- `NotifyOne` is about to return `ret`, and it has woken these waiters. -/
  | oneDone (before : List (Waiter Co)) (ret : ℤ) (woken : List (Waiter Co))
  /-- The loop of `NotifyAll`. -/
  | all (before : List (Waiter Co))
  | allHas (before : List (Waiter Co)) (e : Waiter Co)
  /-- `NotifyAll` is about to return. -/
  | allDone (before : List (Waiter Co))
  deriving DecidableEq

/-- The state of the condition, of the waits and of the notifications. -/
structure State (Co A : Type*) where
  /-- Who holds `m_mutex`. -/
  mutex : Option A := none
  /-- `m_waiter_queue`. -/
  waiterQueue : List (Waiter Co) := []
  wait : Co → Wait := fun _ => {}
  pc : Co → Pc := fun _ => .idle
  frame : A → Frame Co := fun _ => .idle
  pushed : List (Waiter Co) := []

/-- The steps. -/
inductive Label (Co A : Type*)
  /-- `Wait` or `WaitFor` begins; if `fails`, the event cannot be made or the yield throws. -/
  | wait (c : Co) (timed fails : Bool)
  /-- `_RegistAwaitEvent`, which may return `false`. -/
  | regist (c : Co) (fails : Bool)
  | push (c : Co)
  | commitPark (c : Co)
  | resume (c : Co)
  | unbind (c : Co)
  | timeout (c : Co)
  /-- The two steps of `RequestCancel`. -/
  | requestCancel (c : Co)
  | cancelTrigger (c : Co)
  | notifyOne (a : A)
  | sysLock (a : A)
  | popOne (a : A)
  /-- `Notify` in `_NotifyOne`. -/
  | notify (a : A)
  | sysUnLock (a : A)
  | notifyAll (a : A)
  | popAll (a : A)
  /-- `Notify` in `NotifyAll`. -/
  | notifyEach (a : A)
  | allReturns (a : A)

variable {Co A : Type*} [DecidableEq Co] [DecidableEq A]

namespace State

/-- The wait of `c` becomes `w`, and `c` goes on at `p`. -/
def goOn (s : State Co A) (c : Co) (w : Wait) (p : Pc) : State Co A :=
  { s with wait := Function.update s.wait c w, pc := Function.update s.pc c p }

/-- The wait of `c` becomes `w`. -/
def setWait (s : State Co A) (c : Co) (w : Wait) : State Co A :=
  { s with wait := Function.update s.wait c w }

/-- The notification of `a` goes on at `f`. -/
def setFrame (s : State Co A) (a : A) (f : Frame Co) : State Co A :=
  { s with frame := Function.update s.frame a f }

/-- The waiter can still be woken. -/
def live (s : State Co A) (e : Waiter Co) : Bool := (s.wait e.1).live e.2

end State

/-- One step of a coroutine that waits. -/
def waits (s : State Co A) : Label Co A → Option (State Co A)
  | .wait c timed fails =>
    match s.pc c with
    | .idle =>
      if fails then some (s.setWait c (s.wait c).abandon)
      else some (s.goOn c ((s.wait c).registCustom timed) .regist)
    | _ => none
  | .regist c fails =>
    match s.pc c with
    | .regist =>
      some (s.goOn c ((s.wait c).registAwaitEvent fails) (if fails then .unbind else .push))
    | _ => none
  | .push c =>
    match s.pc c, s.mutex with
    | .push, none =>
      some { s.goOn c (s.wait c) .commit with
        waiterQueue := s.waiterQueue ++ [(c, (s.wait c).n)]
        pushed := s.pushed ++ [(c, (s.wait c).n)] }
    | _, _ => none
  | .commitPark c =>
    match s.pc c with
    | .commit => some (s.goOn c (s.wait c).commitPark .parked)
    | _ => none
  | .resume c =>
    match s.pc c, (s.wait c).round with
    | .parked, .final m => some (s.goOn c ((s.wait c).resume m) .unbind)
    | _, _ => none
  | .unbind c =>
    match s.pc c with
    | .unbind => some (s.goOn c (s.wait c).unbind .idle)
    | _ => none
  | .timeout c => if (s.wait c).timerArmed then some (s.setWait c (s.wait c).timeout) else none
  | .requestCancel c => some (s.setWait c (s.wait c).requestCancel)
  | .cancelTrigger c =>
    if (s.wait c).cancelRequested then some (s.setWait c (s.wait c).cancelTrigger) else none
  | _ => none

/-- One step of a notification. -/
def notifies (s : State Co A) : Label Co A → Option (State Co A)
  | .notifyOne a =>
    match s.frame a with
    | .idle => some (s.setFrame a (.one s.pushed))
    | _ => none
  | .sysLock a =>
    match s.frame a, s.mutex with
    | .one before, none => some ({ s with mutex := some a }.setFrame a (.oneLoop before))
    | _, _ => none
  | .popOne a =>
    match s.frame a, s.waiterQueue with
    | .oneLoop before, [] => some (s.setFrame a (.oneDone before (-1) []))
    | .oneLoop before, e :: q => some ({ s with waiterQueue := q }.setFrame a (.oneHas before e))
    | _, _ => none
  | .notify a =>
    match s.frame a with
    | .oneHas before e =>
      some ((s.setWait e.1 ((s.wait e.1).notify e.2)).setFrame a
        (if s.live e then .oneDone before 0 [e] else .oneLoop before))
    | _ => none
  | .sysUnLock a =>
    match s.frame a with
    | .oneDone _ _ _ => some ({ s with mutex := none }.setFrame a .idle)
    | _ => none
  | .notifyAll a =>
    match s.frame a with
    | .idle => some (s.setFrame a (.all s.pushed))
    | _ => none
  | .popAll a =>
    match s.frame a, s.mutex, s.waiterQueue with
    | .all before, none, [] => some (s.setFrame a (.allDone before))
    | .all before, none, e :: q => some ({ s with waiterQueue := q }.setFrame a (.allHas before e))
    | _, _, _ => none
  | .notifyEach a =>
    match s.frame a with
    | .allHas before e =>
      some ((s.setWait e.1 ((s.wait e.1).notify e.2)).setFrame a (.all before))
    | _ => none
  | .allReturns a =>
    match s.frame a with
    | .allDone _ => some (s.setFrame a .idle)
    | _ => none
  | _ => none

/-- One step. -/
def next (s : State Co A) (l : Label Co A) : Option (State Co A) :=
  (waits s l).or (notifies s l)

variable (Co A) in
/-- The transition system of one condition. -/
def system : System (State Co A) (Label Co A) where
  start s := s = {}
  next := next

end BbtCoroutine.CoCond
