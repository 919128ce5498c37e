import BbtCoroutine.WorkerBoundary.Regist

/-!
# The callback of a select

`watchThrows` and `scanThrows` say when an exception leaves the callback of `CoSelect::Run`: a case
cannot be watched, or the first case that is not unready throws, because its item or the list of
the watchers cannot be copied.  Otherwise the waiter is watching every channel, or notified.
-/

namespace BbtCoroutine.WorkerBoundary

open Effects Code
open BbtCoroutine.Chan (Case)

variable {Co Ch α : Type} {c : Co} [DecidableEq Co] [DecidableEq Ch]

/-! ## What a select meets with -/

/-- A case from the number `i` on cannot be watched. -/
def watchThrows (a : Answer Ch α c) : List (Case Ch α) → ℕ → Bool
  | [], _ => false
  | _ :: ks, i => a.fails (.watch i) || watchThrows a ks (i + 1)

/-- The cases from the number `i` on are watched. -/
def State.watched (a : Answer Ch α c) : List (Case Ch α) → ℕ → State Co Ch α → State Co Ch α
  | [], _, s => s
  | k :: ks, i, s => State.watched a ks (i + 1) ((s.others a (.watch i)).addWatcher c k)

/-- The state in which `try_op` looks at the channel for the first time. -/
def State.tried (s : State Co Ch α) (a : Answer Ch α c) (i : ℕ) : State Co Ch α :=
  s.others a (.tryOp i)

/-- The state in which `TryRead` has the lock. -/
def State.readLocked (s : State Co Ch α) (a : Answer Ch α c) (i : ℕ) (ch : Ch) : State Co Ch α :=
  (State.setReading ch true (s.tried a i)).others a (.tryLock i)

/-- The state in which `TryWrite` has the lock. -/
def State.writeLocked (s : State Co Ch α) (a : Answer Ch α c) (i : ℕ) : State Co Ch α :=
  (s.tried a i).others a (.tryLock i)

/-- An exception leaves the try of a case: the item cannot be copied, or the watchers cannot. -/
def tryThrows (a : Answer Ch α c) (i : ℕ) (s : State Co Ch α) : Case Ch α → Bool
  | .read ch =>
    let x := (s.tried a i).shared.chan ch
    let y := (s.readLocked a i ch).shared.chan ch
    !x.isClosed && !x.isReading && !y.itemQueue.isEmpty &&
      (a.fails (.item i) || (!y.writeWatchers.isEmpty && a.fails (.watchers i)))
  | .write ch _ =>
    let x := (s.tried a i).shared.chan ch
    let y := (s.writeLocked a i).shared.chan ch
    !x.isClosed && !y.isClosed && !y.full &&
      (a.fails (.item i) || (!y.readWatchers.isEmpty && a.fails (.watchers i)))

/-- The case is not ready. -/
def unready (a : Answer Ch α c) (i : ℕ) (s : State Co Ch α) : Case Ch α → Bool
  | .read ch =>
    let x := (s.tried a i).shared.chan ch
    !x.isClosed && (x.isReading || ((s.readLocked a i ch).shared.chan ch).itemQueue.isEmpty)
  | .write ch _ =>
    let y := (s.writeLocked a i).shared.chan ch
    !((s.tried a i).shared.chan ch).isClosed && !y.isClosed && y.full

/-- What the try of a case that is not ready leaves behind. -/
def State.afterTry (s : State Co Ch α) (a : Answer Ch α c) (i : ℕ) : Case Ch α → State Co Ch α
  | .read ch =>
    if ((s.tried a i).shared.chan ch).isReading then s.tried a i
    else State.setReading ch false (s.readLocked a i ch)
  | .write _ _ => s.writeLocked a i

/-- An exception leaves `_TryAll`, from the case `i` on. -/
def scanThrows (a : Answer Ch α c) : List (Case Ch α) → ℕ → State Co Ch α → Bool
  | [], _, _ => false
  | k :: ks, i, s =>
    tryThrows a i s k || (unready a i s k && scanThrows a ks (i + 1) (s.afterTry a i k))

/-- An exception leaves the callback of a select. -/
def selectThrows (a : Answer Ch α c) (cases : List (Case Ch α)) (s : State Co Ch α) : Bool :=
  watchThrows a cases 0 || scanThrows a cases 0 (State.watched a cases 0 s)

/-! ## The functions, one by one -/

variable {a : Answer Ch α c} {s : State Co Ch α} {ls : List (Lock Ch)} {ps : List (Place Ch)}

omit [DecidableEq Co] in
/-- A channel that keeps its waiters is changed while the coroutine waits. -/
lemma Waiting.setReading {b : Bool} (h : Waiting c b ls ps s) (ch : Ch) (r : Bool) :
    Waiting c b ls ps (State.setReading ch r s) :=
  h.change (rely_setChan rfl (fun _ h => h) (fun _ h => h) fun _ h => h)

omit [DecidableEq Co] in
/-- Adding a watcher leaves a waiter waiting. -/
lemma Waiting.addWatcher {b : Bool} (h : Waiting c b ls ps s) (k : Case Ch α) :
    Waiting c b ls ps (s.addWatcher c k) := by
  cases k with
  | read ch =>
    exact h.change (f := fun sh => sh.setChan ch
        { sh.chan ch with readWatchers := (sh.chan ch).readWatchers ++ [some (sh.waiter c)] })
      (rely_setChan rfl (fun _ h => h) (fun _ h => List.mem_append_left _ h) fun _ h => h)
  | write ch val =>
    exact h.change (f := fun sh => sh.setChan ch
        { sh.chan ch with writeWatchers := (sh.chan ch).writeWatchers ++ [some (sh.waiter c)] })
      (rely_setChan rfl (fun _ h => h) (fun _ h => h) fun _ h => List.mem_append_left _ h)

end BbtCoroutine.WorkerBoundary
