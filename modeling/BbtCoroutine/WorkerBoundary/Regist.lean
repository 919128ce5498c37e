import BbtCoroutine.WorkerBoundary.Waiting

/-!
# The registration of an event

`registThrows` says when an exception leaves `_RegistAwaitEvent`, `accepts` what it returns
otherwise, and `State.accept` the state that it leaves.  A failure of `StartListen` is caught; two
failed pushes of `DeferDestroyEvent` in a row, and a failed allocation of `_TrackWaiter`, are not.
-/

namespace BbtCoroutine.WorkerBoundary

open Effects Code

variable {Co Ch α : Type} {c : Co} {a : Answer Ch α c} {s : State Co Ch α}

/-! ## Allocations and locks -/

/-- An allocation changes nothing, and fails as the environment says. -/
lemma meets_allocate {site : Site} :
    Meets (allocate a site) s (fun _ t => a.fails site = false ∧ s = t)
      (fun t => a.fails site = true ∧ s = t) fun _ => False := by
  unfold allocate
  cases h : a.fails site with
  | true =>
    rw [if_pos rfl]
    exact Meets.throw ⟨rfl, rfl⟩
  | false =>
    rw [if_neg Bool.false_ne_true]
    exact Meets.pure ⟨rfl, rfl⟩

@[simp] lemma release_hold [DecidableEq Ch] (l : Lock Ch) : (s.hold l).release l = s := by
  unfold State.hold State.release
  rw [List.erase_cons_head]

variable [DecidableEq Co] [DecidableEq Ch]

/-! ## What happens in a registration -/

/-- `StartListen` throws or returns an error. -/
def listenFails (a : Answer Ch α c) (s : State Co Ch α) : Bool :=
  s.event && (a.fails .startListen || !a.listens)

/-- The state in which `StartListen` has ended. -/
def State.listened (s : State Co Ch α) (a : Answer Ch α c) : State Co Ch α :=
  (s.checkCancel c).others a .listen

/-- The event is not armed: it does not listen, or a trigger has won its round. -/
def lost (a : Answer Ch α c) (s : State Co Ch α) : Bool :=
  listenFails a s || decide ((s.listened a).round c ≠ .inited)

/-- The state in which the event is armed. -/
def State.armed (s : State Co Ch α) (a : Answer Ch α c) : State Co Ch α :=
  ((s.listened a).setRound c .armed).others a .track

/-- The underlying event can not be handed to the poller. -/
def handBackThrows (a : Answer Ch α c) (s : State Co Ch α) : Bool :=
  s.event && a.fails .deferDestroy && a.fails .deferDestroyAgain

/-- The event enters the slot of a descriptor. -/
def State.tracks (s : State Co Ch α) : Bool :=
  decide (0 ≤ s.fd) && s.event

/-- An allocation of `_TrackWaiter` fails: the slot, if it is missing, or the push. -/
def trackThrows (a : Answer Ch α c) (s : State Co Ch α) : Bool :=
  s.tracks && (((s.shared.slots s.fd).isNone && a.fails .fdSlot) ||
    (!s.refuses && a.fails .trackWaiter))

/-- An exception leaves `_RegistAwaitEvent`. -/
def registThrows (a : Answer Ch α c) (s : State Co Ch α) : Bool :=
  decide ((s.checkCancel c).round c = .inited) &&
    if lost a s then handBackThrows a s else trackThrows a (s.armed a)

/-- `_RegistAwaitEvent` returns `true`, unless it throws. -/
def accepts (a : Answer Ch α c) (s : State Co Ch α) : Bool :=
  if (s.checkCancel c).round c = .inited then
    !lost a s || pending ((s.listened a).round c).unRegist
  else pending ((s.checkCancel c).round c)

/-- The event is in no slot. -/
def State.untracked (s : State Co Ch α) (a : Answer Ch α c) : State Co Ch α :=
  if 0 ≤ s.fd then s.leaveSlot a else s

/-- The underlying event, if there is one, is with the poller. -/
def State.given (s : State Co Ch α) : State Co Ch α :=
  if s.event then s.takeEvent.deferred else s

/-- The underlying event is handed to the poller. -/
def State.handBack (s : State Co Ch α) (a : Answer Ch α c) : State Co Ch α :=
  (s.untracked a).given

/-- The event is in the slot of its descriptor, or refused by it. -/
def State.tracked (s : State Co Ch α) (a : Answer Ch α c) : State Co Ch α :=
  if s.tracks then
    if s.refuses then s.makeSlot.setRound c ((s.round c).trigger pollEventClosed)
    else s.makeSlot.enterSlot a
  else s

/-- What `_RegistAwaitEvent` does to the state, unless it throws or returns `false`. -/
def State.accept (s : State Co Ch α) (a : Answer Ch α c) : State Co Ch α :=
  if (s.checkCancel c).round c = .inited then
    if lost a s then
      ((s.listened a).setRound c ((s.listened a).round c).unRegist).handBack a
    else (s.armed a).tracked a
  else s.checkCancel c

/-! ## The functions, one by one -/

section Enlisted

variable {b : Bool} {ls : List (Lock Ch)} {ps : List (Place Ch)}

section

omit [DecidableEq Ch]

/-- Looking for a cancellation leaves a waiter enlisted. -/
lemma Enlisted.checkCancel (h : Enlisted c b ls ps s) : Enlisted c b ls ps (s.checkCancel c) := by
  unfold State.checkCancel
  split
  · refine h.setRound ?_
    intro hu
    rw [Round.undecided_trigger] at hu
    cases hu
  · exact h

/-- Listening leaves a waiter enlisted. -/
lemma Enlisted.listened (h : Enlisted c b ls ps s) : Enlisted c b ls ps (s.listened a) :=
  h.checkCancel.others a .listen

end

end Enlisted

end BbtCoroutine.WorkerBoundary
