import BbtCoroutine.Hook.Duration
import BbtCoroutine.Transition.System
import Mathlib.Logic.Function.Basic

/-!
# A model of `CountDownLatch`

Any number of threads call `Wait`, `WaitTimeout` and `Down`.  A step is what a thread does
between two accesses to what the threads share: the lock `m_lock`, the counter, the condition
variable and the clock.  A wait on the condition variable gives the lock up and begins in one
step; it ends when a broadcast has notified it, for no reason, or, when it is timed, with the
result of a timeout, a signal or another error.  A timeout is reported only when the clock has
reached the absolute time that was asked for, and the clock may be set to any time at any step.

`reached` and `seen` are a record of the run, on which no step depends.
-/

namespace BbtCoroutine.CountDownLatch

open Hook (Timespec int64)
open Transition

/-! ## The clock -/

/-- A reading of the clock: `tv_nsec` is less than a second. -/
def IsReading (t : Timespec) : Prop := 0 ≤ t.nsec ∧ t.nsec < 1000000000

/-- Whether a time is a reading of the clock can be computed. -/
instance decidableIsReading (t : Timespec) : Decidable (IsReading t) :=
  inferInstanceAs (Decidable (_ ∧ _))

/-- The absolute time at which a wait of `timeout` milliseconds ends that begins at `now`, if the
arithmetic of the source is defined. -/
def endTm (now : Timespec) (timeout : ℤ) : Option Timespec := do
  let ns ← int64 (now.sec * 1000000000)
  let total ← int64 (ns + now.nsec)
  let wait ← int64 (timeout * 1000000)
  let total ← int64 (total + wait)
  let sec := total.tdiv 1000000000
  some ⟨sec, total - sec * 1000000000⟩

/-- The test that follows a wait that a signal has interrupted: the time `t` has come. -/
def Passed (cur t : Timespec) : Prop := t.sec < cur.sec ∨ cur.sec = t.sec ∧ t.nsec ≤ cur.nsec

/-- Whether a time has passed can be computed. -/
instance decidablePassed (cur t : Timespec) : Decidable (Passed cur t) :=
  inferInstanceAs (Decidable (_ ∨ _))

/-! ## The state -/

/-- The operations. -/
inductive Op
  | wait
  | waitTimeout (timeout : ℤ)
  | down
  deriving DecidableEq, Repr

/-- How a wait on the condition variable ends. -/
inductive Wake
  | notified
  | spurious
  | timedOut
  | interrupted
  | failed (errno : ℤ)
  deriving DecidableEq, Repr

/-- `ETIMEDOUT`. -/
def etimedout : ℤ := 110

/-- `EINTR`. -/
def eintr : ℤ := 4

/-- What the wait returns. -/
def Wake.ret : Wake → ℤ
  | .notified | .spurious => 0
  | .timedOut => etimedout
  | .interrupted => eintr
  | .failed errno => errno

/-- Where a thread is. -/
inductive Pc
  | idle
  /-- Before the lock is taken. -/
  | enter (op : Op)
  /-- The test `m_count > 0`. -/
  | check (op : Op)
  /-- The first `clock_gettime`. -/
  | getTime (timeout : ℤ)
  | condWait
  | condTimedWait (timeout : ℤ) (t : Timespec)
  /-- In `pthread_cond_wait`. -/
  | waiting
  /-- In `pthread_cond_timedwait`. -/
  | timedWaiting (timeout : ℤ) (t : Timespec)
  /-- The wait has ended, and the lock has to be taken again. -/
  | woken
  | timedWoken (timeout : ℤ) (t : Timespec) (w : Wake)
  /-- `pthread_cond_timedwait` has returned. -/
  | result (timeout : ℤ) (t : Timespec) (w : Wake)
  /-- The second `clock_gettime`. -/
  | recheck (timeout : ℤ) (t : Timespec)
  | decrement
  /-- The test `m_count <= 0`. -/
  | test
  | broadcast
  /-- The result is known, and the lock is given up. -/
  | leave (op : Op) (r : ℤ)
  deriving DecidableEq, Repr

/-- The thread waits on the condition variable. -/
def Pc.asleep : Pc → Bool
  | .waiting | .timedWaiting _ _ => true
  | _ => false

/-- What a call has seen: the clock when the timeout was added to it, the clock when a wait timed
out or was looked at again, how the last wait ended, and whether a signal has interrupted one. -/
structure Seen where
  start : Timespec := ⟨0, 0⟩
  last : Timespec := ⟨0, 0⟩
  wake : Option Wake := none
  interrupted : Bool := false
  deriving DecidableEq, Repr

/-- The state of the latch and of the threads `Th`. -/
structure State (Th : Type*) where
  /-- `m_count`. -/
  count : ℤ
  clock : Timespec := ⟨0, 0⟩
  /-- The holder of `m_lock`. -/
  mutex : Option Th := none
  pc : Th → Pc := fun _ => .idle
  /-- The thread has been notified since it began to wait. -/
  notified : Th → Bool := fun _ => false
  seen : Th → Seen := fun _ => {}
  /-- The count has been zero or below. -/
  reached : Bool

/-- The steps. -/
inductive Label (Th : Type*)
  | call (c : Th) (op : Op)
  | run (c : Th)
  /-- The wait of the thread ends. -/
  | wake (c : Th) (w : Wake)
  /-- The clock reads `t` from now on. -/
  | clock (t : Timespec)

variable {Th : Type*} [DecidableEq Th]

namespace State

/-- The thread goes on to `p`. -/
def goto (s : State Th) (c : Th) (p : Pc) : State Th :=
  { s with pc := Function.update s.pc c p }

/-- The thread takes the lock and goes on to `p`. -/
def lock (s : State Th) (c : Th) (p : Pc) : Option (State Th) :=
  if s.mutex = none then some ({ s with mutex := some c }.goto c p) else none

/-- The thread gives the lock up and goes on to `p`. -/
def unlock (s : State Th) (c : Th) (p : Pc) : State Th :=
  { s with mutex := none }.goto c p

/-- What the call of the thread has seen. -/
def sees (s : State Th) (c : Th) (v : Seen) : State Th :=
  { s with seen := Function.update s.seen c v }

/-- The thread gives the lock up and begins to wait. -/
def sleep (s : State Th) (c : Th) (p : Pc) : State Th :=
  { s with notified := Function.update s.notified c false }.unlock c p

end State

/-- `--m_count` on an `atomic_int`, which wraps. -/
def pred (n : ℤ) : ℤ := if n = -2 ^ 31 then 2 ^ 31 - 1 else n - 1

/-- One step of a thread that does not wait on the condition variable. -/
def run (s : State Th) (c : Th) : Option (State Th) :=
  match s.pc c with
  | .idle | .waiting | .timedWaiting _ _ => none
  | .enter .down => s.lock c .decrement
  | .enter op => s.lock c (.check op)
  | .check op =>
    if 0 < s.count then
      match op with
      | .waitTimeout timeout => some (s.goto c (.getTime timeout))
      | _ => some (s.goto c .condWait)
    else some (s.goto c (.leave op 0))
  | .getTime timeout =>
    (endTm s.clock timeout).map fun t =>
      (s.sees c { s.seen c with start := s.clock }).goto c (.condTimedWait timeout t)
  | .condWait => some (s.sleep c .waiting)
  | .condTimedWait timeout t => some (s.sleep c (.timedWaiting timeout t))
  | .woken => s.lock c (.check .wait)
  | .timedWoken timeout t w => s.lock c (.result timeout t w)
  | .result timeout t w =>
    if w.ret = 0 then some (s.goto c (.leave (.waitTimeout timeout) 0))
    else if w.ret = etimedout then some (s.goto c (.leave (.waitTimeout timeout) (-1)))
    else if w.ret ≠ eintr then some (s.goto c (.leave (.waitTimeout timeout) (-1)))
    else some (s.goto c (.recheck timeout t))
  | .recheck timeout t =>
    let s' := s.sees c { s.seen c with last := s.clock }
    if Passed s.clock t then some (s'.goto c (.leave (.waitTimeout timeout) (-1)))
    else some (s'.goto c (.condTimedWait timeout t))
  | .decrement =>
    let n := pred s.count
    some ({ s with count := n, reached := s.reached || decide (n ≤ 0) }.goto c .test)
  | .test => some (s.goto c (if s.count ≤ 0 then .broadcast else .leave .down 0))
  | .broadcast =>
    some ({ s with notified := fun k => s.notified k || (s.pc k).asleep }.goto c (.leave .down 0))
  | .leave _ _ => some (s.unlock c .idle)

/-- The wait of the thread ends, and the thread has to take the lock again.  `Wait` does not look at
the result of `pthread_cond_wait`, so an error of it is as a wake-up for no reason. -/
def wake (s : State Th) (c : Th) (w : Wake) : Option (State Th) :=
  let v := { s.seen c with wake := some w }
  match s.pc c with
  | .waiting =>
    match w with
    | .notified => if s.notified c then some ((s.sees c v).goto c .woken) else none
    | .spurious => some ((s.sees c v).goto c .woken)
    | _ => none
  | .timedWaiting timeout t =>
    let p := Pc.timedWoken timeout t w
    match w with
    | .notified => if s.notified c then some ((s.sees c v).goto c p) else none
    | .spurious => some ((s.sees c v).goto c p)
    | .timedOut =>
      if Passed s.clock t then some ((s.sees c { v with last := s.clock }).goto c p) else none
    | .interrupted => some ((s.sees c { v with interrupted := true }).goto c p)
    | .failed errno =>
      if errno ≠ 0 ∧ errno ≠ etimedout ∧ errno ≠ eintr then some ((s.sees c v).goto c p) else none
  | _ => none

/-- One step of the system. -/
def next (s : State Th) : Label Th → Option (State Th)
  | .call c op =>
    if s.pc c = .idle then some ((s.sees c {}).goto c (.enter op)) else none
  | .run c => run s c
  | .wake c w => wake s c w
  | .clock t => if IsReading t then some { s with clock := t } else none

/-- The runs of a latch that begins with any count. -/
def system (Th : Type*) [DecidableEq Th] : System (State Th) (Label Th) where
  start s := ∃ (cot : ℤ) (t : Timespec), IsReading t ∧
    s = { count := cot, clock := t, reached := decide (cot ≤ 0) }
  next := next

end BbtCoroutine.CountDownLatch
