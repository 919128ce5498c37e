import BbtCoroutine.FdTable.Slots
import BbtCoroutine.Transition.System
import Mathlib.Data.Prod.Lex

/-!
# Closing a descriptor

Any number of calls of `Hook_Close` run on any numbers, the kernel hands out the numbers that
are free, and waits of any kind come and go in the table of the descriptors.  A call moves at
each critical section of the table, at each trigger of a waiter and at the underlying close.

Each number that the kernel hands out is a new generation.  A call is issued for the generation
that is open under its number at that moment, and it records which generation its underlying
close met.
-/

namespace BbtCoroutine.HookClose

open Transition

/-! ## Calls -/

/-- What a `close` returns: zero, or minus one and `errno`. -/
inductive CloseResult
  | closed
  | failed (errno : ℕ)
  deriving DecidableEq

/-- `EBADF`. -/
def ebadf : ℕ := 9

/-- `ENOMEM`. -/
def enomem : ℕ := 12

/-- `EIO`. -/
def eio : ℕ := 5

/-- The bound of `WaitFdCloseReady` in `Hook_Close`. -/
def closeReadyMs : ℕ := 3000

/-- Where a call is in `Hook_Close`. -/
inductive Pc (Ev : Type*)
  | idle
  | begin (retried : Bool)
  | trigger (snapshot : List Ev)
  | close
  | endClose (ret : CloseResult)
  | wait (i : ℕ)
  | returned (ret : CloseResult)
  deriving DecidableEq

namespace Pc

variable {Ev : Type*}

/-- The call has claimed its number and has not ended the claim. -/
def claims : Pc Ev → Bool
  | trigger _ | close | endClose _ => true
  | _ => false

/-- The underlying close is still to come. -/
def closer : Pc Ev → Bool
  | trigger _ | close => true
  | _ => false

/-- The underlying close is done, and the claim is still to be ended. -/
def ending : Pc Ev → Bool
  | endClose _ => true
  | _ => false

/-- The call has been made and has not come to its end. -/
def running : Pc Ev → Bool
  | idle | returned _ => false
  | _ => true

/-- An upper bound of the steps that a call still makes. -/
def left : Pc Ev → ℕ ×ₗ ℕ
  | idle => toLex (6, 0)
  | begin retried => toLex (5, if retried then 0 else 1)
  | trigger snapshot => toLex (4, snapshot.length)
  | close => toLex (3, 0)
  | endClose _ => toLex (2, 0)
  | wait i => toLex (1, closeReadyMs - i)
  | returned _ => toLex (0, 0)

/-- Who closes has the claim. -/
lemma claims_of_closer {p : Pc Ev} (h : p.closer = true) : p.claims = true := by
  cases p <;> first | rfl | cases h

/-- A call that has claimed its number has the underlying close before it or behind it. -/
lemma closer_or_ending {p : Pc Ev} (h : p.claims = true) : p.closer = true ∨ p.ending = true := by
  cases p with
  | trigger | close => exact .inl rfl
  | endClose => exact .inr rfl
  | _ => cases h

end Pc

/-- What the preparation of `BeginFdClose` meets. -/
inductive Preparation
  | succeeds
  | badAlloc
  | throws
  deriving DecidableEq

/-- The answers that a step may need from its surroundings. -/
structure Answer (Ev : Type*) where
  prepare : Preparation := .succeeds
  /-- The waiters that have no object any more. -/
  expired : Ev → Bool := fun _ => false
  /-- What the underlying close of an open number returns. -/
  result : CloseResult := .closed

/-- A call of `Hook_Close`. -/
structure Call (Ev : Type*) where
  fd : ℤ := -1
  pc : Pc Ev := .idle
  /-- The generation that was open under the number when the call was issued. -/
  issued : Option ℕ := none
  /-- The underlying closes: the generation that each of them met and what it returned. -/
  closes : List (Option ℕ × CloseResult) := []
  deriving DecidableEq

/-- The result of the call was not that of an underlying close of a generation. -/
def Call.gaveUp {Ev : Type*} (c : Call Ev) : Bool :=
  match c.pc with
  | .wait _ => true
  | .endClose _ | .returned _ => c.closes.all fun x => x.1.isNone
  | _ => false

/-! ## State -/

/-- The calls `ι`, the table and the numbers that are open. -/
structure State (ι Ev : Type*) where
  slots : FdSlots Ev := fun _ => none
  /-- The generation that is open under a number. -/
  opened : ℤ → Option ℕ := fun _ => none
  nextGen : ℕ := 0
  call : ι → Call Ev := fun _ => {}

namespace State

variable {ι Ev : Type*}

/-- Another call, issued for the generation `g` too, has closed it or is about to do so. -/
def Rival (s : State ι Ev) (i : ι) (g : ℕ) : Prop :=
  ∃ j, j ≠ i ∧ (s.call j).issued = some g ∧
    ((∃ r, (some g, r) ∈ (s.call j).closes) ∨
      (s.call j).pc.closer = true ∧ s.opened (s.call j).fd = some g)

variable [DecidableEq ι]

/-- The call `i` becomes `c`. -/
def setCall (s : State ι Ev) (i : ι) (c : Call Ev) : State ι Ev :=
  { s with call := Function.update s.call i c }

/-- The call `i` goes on at `p`. -/
def setPc (s : State ι Ev) (i : ι) (p : Pc Ev) : State ι Ev :=
  s.setCall i { s.call i with pc := p }

/-- `BeginFdClose` in the call `i`. -/
def beginFdClose (s : State ι Ev) (i : ι) (a : Answer Ev) (retried : Bool) :
    Option (State ι Ev) :=
  match a.prepare with
  | .throws => some (s.setPc i (.returned (.failed eio)))
  | .badAlloc =>
    if s.slots.beginAllocates (s.call i).fd then
      some (s.setPc i (if retried then .returned (.failed enomem) else .begin true))
    else none
  | .succeeds =>
    match s.slots.beginFdClose a.expired (s.call i).fd with
    | (t, none) => some ({ s with slots := t }.setPc i (.wait 0))
    | (t, some ks) => some ({ s with slots := t }.setPc i (.trigger ks))

/-- The underlying close in the call `i`; the kernel releases the number whatever it returns. -/
def close (s : State ι Ev) (i : ι) (a : Answer Ev) : State ι Ev :=
  let c := s.call i
  match s.opened c.fd with
  | none =>
    s.setCall i { c with
      pc := .endClose (.failed ebadf)
      closes := c.closes ++ [(none, .failed ebadf)] }
  | some g =>
    { s with opened := Function.update s.opened c.fd none }.setCall i { c with
      pc := .endClose a.result
      closes := c.closes ++ [(some g, a.result)] }

/-- The next step of the call `i`. -/
def step (s : State ι Ev) (i : ι) (a : Answer Ev) : Option (State ι Ev) :=
  match (s.call i).pc with
  | .idle | .returned _ => none
  | .begin retried => s.beginFdClose i a retried
  | .trigger (_ :: ks) => some (s.setPc i (.trigger ks))
  | .trigger [] => some (s.setPc i .close)
  | .close => some (s.close i a)
  | .endClose ret =>
    some ({ s with slots := s.slots.endFdClose (s.call i).fd }.setPc i (.returned ret))
  | .wait k =>
    if s.slots.fdIsClosing (s.call i).fd ∧ k < closeReadyMs then some (s.setPc i (.wait (k + 1)))
    else some (s.setPc i (.returned (.failed ebadf)))

end State

/-- The steps of the calls, of the kernel and of the waits. -/
inductive Label (ι Ev : Type*)
  /-- The kernel hands out a number that is free. -/
  | openFd (fd : ℤ)
  | hookClose (i : ι) (fd : ℤ)
  | call (i : ι) (a : Answer Ev)
  | sample (fd : ℤ)
  | track (expired : Ev → Bool) (k : Ev) (fd : ℤ) (waitEpoch : ℕ)
  | untrack (expired : Ev → Bool) (k : Ev) (fd : ℤ)

variable {ι Ev : Type*} [DecidableEq ι] [DecidableEq Ev]

/-- One step of the system. -/
def next (s : State ι Ev) : Label ι Ev → Option (State ι Ev)
  | .openFd fd =>
    if s.opened fd = none then
      some { s with
        opened := Function.update s.opened fd (some s.nextGen)
        nextGen := s.nextGen + 1 }
    else none
  | .hookClose i fd =>
    if (s.call i).pc = .idle then
      some (s.setCall i { fd, pc := .begin false, issued := s.opened fd })
    else none
  | .call i a => s.step i a
  | .sample fd => some { s with slots := (s.slots.sample fd).1 }
  | .track expired k fd waitEpoch =>
    some { s with slots := (s.slots.trackWaiter expired k fd waitEpoch).1 }
  | .untrack expired k fd => some { s with slots := s.slots.untrackWaiter expired k fd }

/-- The transition system of the calls `ι` of `Hook_Close` among waits of the events `Ev`. -/
def system (ι Ev : Type*) [DecidableEq ι] [DecidableEq Ev] :
    System (State ι Ev) (Label ι Ev) where
  start s := s = {}
  next := next

end BbtCoroutine.HookClose
