import BbtCoroutine.Hook.Duration

/-!
# The hooks of transfers, `accept` and `connect`

A hook makes the descriptor nonblocking, calls the original function and, as long as that answers
an `errno` to be retried, parks the coroutine until the descriptor is ready.  A call runs on the
list of its rounds: what the kernel answers in each of them and, if that is to be retried, what the
clock shows and how the wait ends.  When the rounds are used up the call has not returned.

`co` says that the thread has a current coroutine.  Times are in nanoseconds.
-/

namespace BbtCoroutine.HookIo

open BoundedWait (toInt)
open Hook (Timeval int32 int64)

/-- `errno`; `EWOULDBLOCK` is `EAGAIN`. -/
inductive Errno
  | eagain
  | einprogress
  | eintr
  | ealready
  | eisconn
  | ebadf
  | other (code : ℕ)
  deriving DecidableEq, Repr

/-- What a system call answers: a result that is not negative, or `-1` and an `errno`. -/
inductive Answer
  | ok (n : ℕ)
  | error (e : Errno)
  deriving DecidableEq, Repr

/-- How a wait for a descriptor ends: what `YieldUntilFdReadable` or `YieldUntilFdWriteable`
returns, and what `FdWaitEpochValid` says after that. -/
structure Wake where
  result : ℤ := 0
  epochValid : Bool := true
  deriving DecidableEq, Repr

/-- The coroutine was woken and the descriptor is still the same one. -/
def Wake.ready (w : Wake) : Bool :=
  w.result = 0 ∧ w.epochValid = true

/-- One turn of the loop of a hook. -/
structure Round where
  answer : Answer
  /-- The clock, when the rest of the timeout is computed. -/
  now : ℤ := 0
  wake : Wake := {}
  deriving DecidableEq, Repr

/-- What a call finds when it works on its descriptor. -/
structure Fd where
  /-- The answer of `F_GETFL`: whether `O_NONBLOCK` is set. -/
  getFl : Except Errno Bool := .ok false
  /-- The failure of `F_SETFL`. -/
  setFl : Option Errno := none
  /-- The timeout that `getsockopt` reports. -/
  timeout : Option Timeval := none
  /-- The clock, when the deadline is set. -/
  start : ℤ := 0
  rounds : List Round
  /-- The failure to make an accepted descriptor nonblocking. -/
  newFl : Option Errno := none
  /-- The failure of `ApplyAccept4Flags`. -/
  accept4Fl : Option Errno := none

/-- What a hook asks a wait for. -/
inductive Wait
  | endless
  | timed (ms : ℤ)
  deriving DecidableEq, Repr

/-- How a call ends. -/
inductive Outcome
  | returned (n : ℕ)
  | failed (e : Errno)
  /-- The call gives up with the `errno` of the last answer, since no time is left. -/
  | expired (e : Errno) (now : ℤ)
  /-- The coroutine is used, but the thread has none. -/
  | nullCo
  /-- An assertion fails. -/
  | asserts
  /-- An overflow of signed arithmetic. -/
  | undefined
  /-- The call has not returned. -/
  | running
  deriving DecidableEq, Repr

/-- A call: how it ends, what it waited for and how often it called the original function. -/
structure Run where
  outcome : Outcome
  waits : List Wait := []
  calls : ℕ := 0
  deriving DecidableEq, Repr

/-- The run that ends after one more system call. -/
def Run.stop (o : Outcome) : Run := ⟨o, [], 1⟩

/-- The run after a system call and a wait. -/
def Run.after (w : Wait) (r : Run) : Run :=
  ⟨r.outcome, w :: r.waits, r.calls + 1⟩

/-! ## The parts of a hook -/

/-- The failure of `CoIoNonblockGuard`. -/
def coIoNonblockGuard (fd : Fd) : Option Errno :=
  match fd.getFl with
  | .error e => some e
  | .ok true => none
  | .ok false => fd.setFl

/-- `IoTimeout`. -/
structure IoTimeout where
  ms : ℤ
  deadline : ℤ

/-- The milliseconds of a timeout. -/
def timeoutMs (tv : Timeval) : Option ℤ := do
  let ms ← int32 (toInt tv.sec * 1000)
  let usec ← int64 (tv.usec + 999)
  int32 (ms + toInt (usec.tdiv 1000))

/-- The constructor of `IoTimeout`, if it is defined. -/
def ioTimeout (fd : Fd) : Option IoTimeout :=
  match fd.timeout with
  | none => some ⟨0, fd.start⟩
  | some tv =>
    if 0 < tv.sec ∨ 0 < tv.usec then
      (timeoutMs tv).map fun ms => ⟨ms, fd.start + ms * 1000000⟩
    else some ⟨0, fd.start⟩

/-- `IoTimeout::remain_ms`. -/
def IoTimeout.remainMs (iot : IoTimeout) (now : ℤ) : ℤ :=
  let left := (iot.deadline - now).tdiv 1000000
  if 0 < left then toInt left else 0

/-- What comes of `CoWaitFdReady`. -/
inductive FdReady
  | nullCo
  /-- It returns `-1` without a wait. -/
  | expired
  | waited (w : Wait) (ret : ℤ)

/-- The wait of `CoWaitFdReady` and the check of the epoch after it. -/
def yieldUntilFd (co : Bool) (w : Wait) (k : Wake) : FdReady :=
  if co = false then .nullCo
  else if k.result ≠ 0 then .waited w k.result
  else .waited w (if k.epochValid then 0 else 2)

/-- `CoWaitFdReady`. -/
def coWaitFdReady (co : Bool) (iot : IoTimeout) (r : Round) : FdReady :=
  if iot.ms ≤ 0 then yieldUntilFd co .endless r.wake
  else if iot.remainMs r.now ≤ 0 then .expired
  else yieldUntilFd co (.timed (iot.remainMs r.now)) r.wake

/-- The loop of a hook. -/
def retry (retryable : Errno → Bool) (co : Bool) (iot : IoTimeout) : List Round → Run
  | [] => { outcome := .running }
  | r :: rs =>
    match r.answer with
    | .ok n => .stop (.returned n)
    | .error e =>
      if retryable e then
        match coWaitFdReady co iot r with
        | .nullCo => .stop .nullCo
        | .expired => .stop (.expired e r.now)
        | .waited w ret =>
          if ret = 0 then (retry retryable co iot rs).after w
          -- `ErrnoGuard` restores the `errno` of the answer.
          else ⟨.failed (if ret = 2 then .ebadf else e), [w], 1⟩
      else .stop (.failed e)

/-- The form of a hook. -/
def hookIo (retryable : Errno → Bool) (co : Bool) (fd : Fd) : Run :=
  match coIoNonblockGuard fd with
  | some e => { outcome := .failed e }
  | none =>
    match ioTimeout fd with
    | none => { outcome := .undefined }
    | some iot => retry retryable co iot fd.rounds

/-- What the original function does with an answer. -/
def Answer.outcome : Answer → Outcome
  | .ok n => .returned n
  | .error e => .failed e

/-- The original function is called, once. -/
def passThrough (fd : Fd) : Run :=
  match fd.rounds with
  | [] => { outcome := .running }
  | r :: _ => .stop r.answer.outcome

/-- What is done to an accepted descriptor may fail; then the descriptor is closed. -/
def Run.accepted (fl : Option Errno) (r : Run) : Run :=
  match r.outcome, fl with
  | .returned _, some e => { r with outcome := .failed e }
  | _, _ => r

/-! ## The hooks -/

/-- The `errno`s that the hooks of reads retry. -/
def readRetryable (e : Errno) : Bool := e = .eagain ∨ e = .einprogress ∨ e = .eintr

/-- The `errno`s that the hooks of writes and of `accept` retry. -/
def writeRetryable (e : Errno) : Bool := e = .eagain ∨ e = .eintr

/-- The `errno`s that the hook of `connect` retries. -/
def connectRetryable (e : Errno) : Bool := e = .eintr ∨ e = .einprogress ∨ e = .ealready

/-- `Hook_Read`. -/
def hookRead (co : Bool) (fd : Fd) : Run := hookIo readRetryable co fd

/-- `Hook_Write`. -/
def hookWrite (co : Bool) (fd : Fd) : Run := hookIo writeRetryable co fd

/-- `Hook_Readv`. -/
def hookReadv (co : Bool) (fd : Fd) : Run := hookIo readRetryable co fd

/-- `Hook_Writev`. -/
def hookWritev (co : Bool) (fd : Fd) : Run := hookIo writeRetryable co fd

/-- `Hook_Send`. -/
def hookSend (dontwait co : Bool) (fd : Fd) : Run :=
  if dontwait then passThrough fd else hookIo writeRetryable co fd

/-- `Hook_SendTo`. -/
def hookSendTo (dontwait co : Bool) (fd : Fd) : Run :=
  if dontwait then passThrough fd else hookIo writeRetryable co fd

/-- `Hook_SendMsg`. -/
def hookSendMsg (dontwait co : Bool) (fd : Fd) : Run :=
  if dontwait then passThrough fd else hookIo writeRetryable co fd

/-- `Hook_Recv`. -/
def hookRecv (dontwait co : Bool) (fd : Fd) : Run :=
  if dontwait then passThrough fd else hookIo readRetryable co fd

/-- `Hook_RecvFrom`. -/
def hookRecvFrom (dontwait co : Bool) (fd : Fd) : Run :=
  if dontwait then passThrough fd else hookIo readRetryable co fd

/-- `Hook_RecvMsg`. -/
def hookRecvMsg (dontwait co : Bool) (fd : Fd) : Run :=
  if dontwait then passThrough fd else hookIo readRetryable co fd

/-- `Hook_Accept`. -/
def hookAccept (co : Bool) (fd : Fd) : Run :=
  (hookIo writeRetryable co fd).accepted fd.newFl

/-- `Hook_Accept4`; without `accept4` it calls `Hook_Accept`, whose guard finds `O_NONBLOCK` set. -/
def hookAccept4 (hasAccept4 co : Bool) (fd : Fd) : Run :=
  if hasAccept4 then (hookIo writeRetryable co fd).accepted fd.newFl
  else (hookAccept co fd).accepted fd.accept4Fl

/-- The loop of `Hook_Connect`. -/
def connectRetry (co : Bool) : List Round → Run
  | [] => { outcome := .running }
  | r :: rs =>
    match r.answer with
    | .ok _ => .stop (.returned 0)
    | .error e =>
      if e = .eisconn then .stop (.returned 0)
      else if connectRetryable e then
        if co = false then .stop .nullCo
        else if r.wake.result ≠ 0 then ⟨.failed e, [.endless], 1⟩
        else if r.wake.epochValid then (connectRetry co rs).after .endless
        else ⟨.failed .ebadf, [.endless], 1⟩
      else .stop (.failed e)

/-- `Hook_Connect`. -/
def hookConnect (co : Bool) (fd : Fd) : Run :=
  match coIoNonblockGuard fd with
  | some e => { outcome := .failed e }
  | none => connectRetry co fd.rounds

/-- A transfer; `dontwait` is `MSG_DONTWAIT`. -/
inductive Transfer
  | read
  | write
  | recv (dontwait : Bool)
  | send (dontwait : Bool)
  deriving DecidableEq, Repr

namespace Transfer

/-- The hook of a transfer. -/
def hook : Transfer → Bool → Fd → Run
  | read => hookRead
  | write => hookWrite
  | recv dontwait => hookRecv dontwait
  | send dontwait => hookSend dontwait

/-- The `errno`s that the transfer retries. -/
def retryable : Transfer → Errno → Bool
  | read | recv _ => readRetryable
  | write | send _ => writeRetryable

/-- The transfer goes through. -/
def dontwait : Transfer → Bool
  | read | write => false
  | recv dontwait | send dontwait => dontwait

end Transfer

end BbtCoroutine.HookIo
