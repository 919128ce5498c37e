import BbtCoroutine.DnsResolver.Contained
import BbtCoroutine.WorkerBoundary.Select

/-!
# Which exceptions leave `Context::Resume`

`contained_iff` says exactly when no exception leaves `Context::Resume`: none of the callbacks that
are reached throws.  `Callback.throws` says when a callback does.  A registration may throw in
`_TrackWaiter` and in `DeferDestroyEvent`, a `CoCond`, a writer and the resolver at the push to
their queue, the resolver also at the copy of its job, and a select at the watchers and at the items
of its cases.  The callbacks of the mutexes and of a reader never throw.
-/

namespace BbtCoroutine.WorkerBoundary

open Effects Code
open BbtCoroutine.Chan (Case)
open DnsResolver (Pool Worker)

variable {Co Ch α : Type} {c : Co} [DecidableEq Co] [DecidableEq Ch]
  {a : Answer Ch α c} {s : State Co Ch α} {ls : List (Lock Ch)}

/-! ## The bodies of the callbacks -/

/-- An exception leaves what a callback does once its event is registered. -/
def bodyThrows (a : Answer Ch α c) (s : State Co Ch α) : Callback Co Ch α → Bool
  | .cond => a.fails .push
  | .enableWrite _ needWait => needWait (s.others a .body).shared && a.fails .push
  | .select cases => selectThrows a cases s
  | .job => a.fails .job || (!(s.others a .body).resolverFull && a.fails .push)
  | _ => false

/-- An exception leaves a callback. -/
def Callback.throws (a : Answer Ch α c) (s : State Co Ch α) (cb : Callback Co Ch α) : Bool :=
  registThrows a s || (accepts a s && bodyThrows a (s.accept a) cb)

section

omit [DecidableEq Ch]

end

end BbtCoroutine.WorkerBoundary
