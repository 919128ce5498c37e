import Mathlib.Logic.Function.Basic
import BbtCoroutine.Transition.System
import BbtCoroutine.CoPollEvent.Status

/-!
# A model of `CoPollEvent`

One event and any number of calls on it, each made by some thread.  A call is a
`Frame`, the point the code of its operation has reached, and every atomic access to
`m_state` (a load, a `compare_exchange`, a store) is a step of its own, so the calls
interleave exactly as the threads may.  What the code asks of its surroundings comes
back as an `Answer`: a weak exchange that fails spuriously, the result of
`StartListen`, the epoch and the closing flag of the fd slot, a callback that throws.

Beside the fields of the class the state keeps a `Ledger` of what has happened: the
exchanges that took the event out of its undecided phases, the `Trigger` and
`UnRegist` calls that returned `0`, the callbacks that were run and the `CommitPark`
that committed the park.  No step reads it.
-/

namespace BbtCoroutine.CoPollEvent

open Transition CoPollEventPhase

/-! ## Calls -/

/-- The operations of an event. -/
inductive Op
  | initFdEvent (fd : ℤ) (events : EventMask) (timeout : ℤ)
  | initCustomEvent (key : ℤ)
  | trigger (m : EventMask)
  | regist
  | unRegist
  | commitPark

/-- Where `Trigger` is called from: by a client, or inside `InitFdEvent` or `Regist`, which
ignore its result. -/
inductive TriggerSite
  | client
  | initFdEvent
  | regist
  deriving DecidableEq

/-- Where `UnRegist` is called from: by a client, or inside `Regist`. -/
inductive UnRegistSite
  | client
  | regist
  deriving DecidableEq

/-- Where `_Complete` is called from.  A `CommitPark` carries whether some `Regist` had
already returned `0` when it was called. -/
inductive CompleteSite
  | trigger (site : TriggerSite)
  | commitPark (registed : Bool)
  deriving DecidableEq

/-- What a call returned. -/
inductive Result
  | initFdEvent (ret : ℤ)
  | initCustomEvent (ret : ℤ)
  | trigger (ret : ℤ)
  | regist (ret : ℤ)
  | unRegist (ret : ℤ)
  | commitPark (registed : Bool) (ret : Bool)
  deriving DecidableEq

/-- How far a call has got.  A word is the value of `m_state` the call read last. -/
inductive Frame
  | idle
  | initFdEvent (fd : ℤ) (events : EventMask) (timeout : ℤ)
  | initFdEventSample
  | initFdEventCreate (attempt : ℕ)
  | initCustomEvent (key : ℤ)
  | trigger (site : TriggerSite) (m : EventMask)
  | triggerCas (site : TriggerSite) (m : EventMask) (word : BitVec 64)
  | complete (site : CompleteSite) (m : EventMask)
  | completeFinal (site : CompleteSite) (m : EventMask)
  | completeCallback (site : CompleteSite) (m : EventMask)
  | regist
  | registPending
  | registArming
  | registFdEvent
  | registFailed
  | registFailedCas (word : BitVec 64)
  | registCannel (word : BitVec 64)
  | registArmed
  | registDebug
  | trackWaiter
  | unRegist (site : UnRegistSite)
  | unRegistCas (site : UnRegistSite) (word : BitVec 64)
  | unRegistCannel (site : UnRegistSite) (wasArming : Bool)
  | commitPark (registed : Bool)
  | commitParkCas (registed : Bool) (word : BitVec 64)
  | returned (r : Result)
  deriving DecidableEq

/-- The answers a step may need from its surroundings. -/
structure Answer where
  /-- A `compare_exchange_weak` fails although the word is the expected one. -/
  casFails : Bool := false
  /-- `StartListen` returns `0`, or the diagnostic registration succeeds. -/
  ok : Bool := true
  /-- `StartListen`, `CreateEvent` or the callback throws. -/
  throws : Bool := false
  /-- The closing flag of the fd slot. -/
  closing : Bool := false
  /-- The epoch of the fd slot. -/
  epoch : ℕ := 0
  /-- The event made by `CreateEvent`, if it made one. -/
  created : Option ℕ := some 0
  /-- The first `push_back` of `DeferDestroyEvent` throws `bad_alloc`. -/
  pushFails : Bool := false

/-! ## State -/

/-- The members of the event other than the status word. -/
structure Fields where
  event : Option ℕ := none
  fd : ℤ := -1
  listenEvents : EventMask := 0
  timeout : ℤ := -1
  hasCustomEvent : Bool := false
  customKey : ℤ := -1
  waitEpoch : ℕ := 0
  /-- The events handed to the poller, `m_deferred_destroy`. -/
  deferredDestroy : List ℕ := []

/-- An exchange that took the event out of its undecided phases. -/
inductive Win
  | trigger (m : EventMask)
  | unRegist
  | registFailed
  deriving DecidableEq

/-- What has happened to the event so far, by the calls `ι` that did it. -/
structure Ledger (ι : Type*) where
  winners : List (ι × Win) := []
  zeroReturns : List ι := []
  callbacks : List EventMask := []
  committed : List ι := []

/-- What all calls share. -/
structure Shared (ι : Type*) where
  state : BitVec 64 := packCoPollEventState inited
  fields : Fields := {}
  ledger : Ledger ι := {}
  /-- Whether some `Regist` has returned `0`. -/
  registed : Bool := false

/-- The state of one event under the calls `ι`. -/
structure State (ι : Type*) where
  shared : Shared ι
  call : ι → Frame

variable {ι : Type*}

namespace Shared

/-- A successful exchange of the status word, with the win it is. -/
def win (sh : Shared ι) (i : ι) (w : Win) (word : BitVec 64) : Shared ι :=
  { sh with
    state := word
    ledger := { sh.ledger with winners := sh.ledger.winners ++ [(i, w)] } }

/-- A `Trigger` or `UnRegist` of the call `i` returns `0`. -/
def returnZero (sh : Shared ι) (i : ι) : Shared ι :=
  { sh with ledger := { sh.ledger with zeroReturns := sh.ledger.zeroReturns ++ [i] } }

/-- A `CommitPark` of the call `i` commits the park. -/
def commit (sh : Shared ι) (i : ι) (word : BitVec 64) : Shared ι :=
  { sh with
    state := word
    ledger := { sh.ledger with committed := sh.ledger.committed ++ [i] } }

/-- The callback is run with the mask `m`. -/
def callback (sh : Shared ι) (m : EventMask) : Shared ι :=
  { sh with ledger := { sh.ledger with callbacks := sh.ledger.callbacks ++ [m] } }

end Shared

/-! ## Handing the underlying event to the poller -/

/-- `push_back` on the deferred list; it throws or appends. -/
def pushBack (fails : Bool) (deferred : List ℕ) (event : ℕ) : Option (List ℕ) :=
  if fails then none else some (deferred ++ [event])

/-- `DeferDestroyEvent`: one failed `push_back` is tried again. -/
def deferDestroyEvent (pushFails : Bool) (deferred : List ℕ) (event : ℕ) : List ℕ :=
  match pushBack pushFails deferred event with
  | some deferred' => deferred'
  | none => (pushBack false deferred event).getD deferred

/-- `_CannelAllFdEvent`. -/
def cannelAllFdEvent (a : Answer) (f : Fields) : Fields :=
  match f.event with
  | none => f
  | some e =>
    { f with event := none, deferredDestroy := deferDestroyEvent a.pushFails f.deferredDestroy e }

/-! ## The operations, step by step -/

/-- `compare_exchange_weak` from `expected` succeeds. -/
def casWeak (sh : Shared ι) (a : Answer) (expected : BitVec 64) : Bool :=
  !a.casFails && sh.state == expected

/-- `Regist` returns. -/
def returnRegist (sh : Shared ι) (ret : ℤ) : Shared ι × Frame :=
  ({ sh with registed := sh.registed || ret == 0 }, .returned (.regist ret))

/-- `Trigger` returns to where it was called from. -/
def returnTrigger (i : ι) (sh : Shared ι) (site : TriggerSite) (ret : ℤ) : Shared ι × Frame :=
  let sh' := if ret = 0 then sh.returnZero i else sh
  match site with
  | .client => (sh', .returned (.trigger ret))
  | .initFdEvent => (sh', .returned (.initFdEvent 0))
  | .regist => returnRegist sh' 0

/-- `UnRegist` returns to where it was called from. -/
def returnUnRegist (i : ι) (sh : Shared ι) (site : UnRegistSite) (ret : ℤ) :
    Shared ι × Frame :=
  let sh' := if ret = 0 then sh.returnZero i else sh
  match site with
  | .client => (sh', .returned (.unRegist ret))
  | .regist => returnRegist sh' (-1)

/-- `_Complete` returns, normally or with an exception that its caller reports. -/
def returnComplete (i : ι) (sh : Shared ι) : CompleteSite → Shared ι × Frame
  | .trigger site => returnTrigger i sh site 0
  | .commitPark registed => (sh, .returned (.commitPark registed true))

/-- The retry loop of `Trigger` at a loaded word. -/
def triggerCas (i : ι) (sh : Shared ι) (a : Answer) (site : TriggerSite) (m : EventMask)
    (word : BitVec 64) : Shared ι × Frame :=
  match getCoPollEventPhase word with
  | some inited | some arming | some armed =>
    if casWeak sh a word then
      returnTrigger i (sh.win i (.trigger m) (packCoPollEventState pending m)) site 0
    else (sh, .triggerCas site m sh.state)
  | some parked =>
    if casWeak sh a word then
      (sh.win i (.trigger m) (packCoPollEventState triggering m), .complete (.trigger site) m)
    else (sh, .triggerCas site m sh.state)
  | _ => returnTrigger i sh site (-1)

/-- The retry loop of `UnRegist` at a loaded word. -/
def unRegistCas (i : ι) (sh : Shared ι) (a : Answer) (site : UnRegistSite) (word : BitVec 64) :
    Shared ι × Frame :=
  match getCoPollEventPhase word with
  | some inited | some arming | some armed | some parked =>
    if casWeak sh a word then
      (sh.win i .unRegist (packCoPollEventState cancelled),
        .unRegistCannel site (getCoPollEventPhase word == some arming))
    else (sh, .unRegistCas site sh.state)
  | _ => returnUnRegist i sh site (-1)

/-- The retry loop of `CommitPark` at a loaded word. -/
def commitParkCas (i : ι) (sh : Shared ι) (a : Answer) (registed : Bool) (word : BitVec 64) :
    Shared ι × Frame :=
  match getCoPollEventPhase word with
  | some armed =>
    if casWeak sh a word then
      (sh.commit i (packCoPollEventState parked), .returned (.commitPark registed false))
    else (sh, .commitParkCas registed sh.state)
  | some pending =>
    if casWeak sh a word then
      (sh.commit i (packCoPollEventState triggering (getCoPollEventFlags word)),
        .complete (.commitPark registed) (getCoPollEventFlags word))
    else (sh, .commitParkCas registed sh.state)
  | _ => (sh, .returned (.commitPark registed false))

/-- The end of every failing branch of `Regist`: a trigger that won in between makes it
succeed after all. -/
def registEnd (sh : Shared ι) (word : BitVec 64) : Shared ι × Frame :=
  if getCoPollEventPhase word = some pending then (sh, .registPending) else returnRegist sh (-1)

/-- The loop of `Regist` that turns `ARMING` into `CANCELLED` after a failed listen. -/
def registFailedCas (i : ι) (sh : Shared ι) (a : Answer) (word : BitVec 64) :
    Shared ι × Frame :=
  if getCoPollEventPhase word = some arming then
    if casWeak sh a word then
      (sh.win i .registFailed (packCoPollEventState cancelled), .registCannel word)
    else (sh, .registFailedCas sh.state)
  else (sh, .registCannel word)

/-- `_TrackWaiter`: an fd event is rejected when its slot is closing or its epoch has moved. -/
def trackWaiter (a : Answer) (f : Fields) : Bool :=
  if f.fd < 0 ∨ f.event = none then true else !(a.closing || a.epoch != f.waitEpoch)

/-- `InitFdEvent` up to the sampling of the fd slot. -/
def initFdEvent (sh : Shared ι) (fd : ℤ) (events : EventMask) (timeout : ℤ) :
    Shared ι × Frame :=
  if getCoPollEventPhase sh.state ≠ some inited ∨ timeout < 0 ∨ sh.fields.event ≠ none then
    (sh, .returned (.initFdEvent (-1)))
  else
    ({ sh with fields := { sh.fields with fd := fd, listenEvents := events, timeout := timeout } },
      .initFdEventSample)

/-- `InitFdEvent` samples the fd slot; a closing fd is latched as a trigger. -/
def initFdEventSample (sh : Shared ι) (a : Answer) : Shared ι × Frame :=
  if sh.fields.fd < 0 then (sh, .initFdEventCreate 0)
  else
    ({ sh with fields := { sh.fields with waitEpoch := a.epoch } },
      if a.closing then .trigger .initFdEvent pollEventClosed else .initFdEventCreate 0)

/-- `InitFdEvent` creates the underlying event, with at most three retries. -/
def initFdEventCreate (sh : Shared ι) (a : Answer) (attempt : ℕ) : Shared ι × Frame :=
  if a.throws then
    if 3 ≤ attempt then (sh, .returned (.initFdEvent (-1)))
    else (sh, .initFdEventCreate (attempt + 1))
  else
    ({ sh with fields := { sh.fields with event := a.created } },
      .returned (.initFdEvent (if a.created = none then -1 else 0)))

/-- `InitCustomEvent`. -/
def initCustomEvent (sh : Shared ι) (key : ℤ) : Shared ι × Frame :=
  if getCoPollEventPhase sh.state ≠ some inited ∨ sh.fields.hasCustomEvent then
    (sh, .returned (.initCustomEvent (-1)))
  else
    ({ sh with fields := { sh.fields with hasCustomEvent := true, customKey := key } },
      .returned (.initCustomEvent 0))

/-- The next step of the call `i`. -/
def Frame.step (i : ι) (sh : Shared ι) (a : Answer) : Frame → Option (Shared ι × Frame)
  | .idle | .returned _ => none
  | .initFdEvent fd events timeout => some (CoPollEvent.initFdEvent sh fd events timeout)
  | .initFdEventSample => some (CoPollEvent.initFdEventSample sh a)
  | .initFdEventCreate attempt => some (CoPollEvent.initFdEventCreate sh a attempt)
  | .initCustomEvent key => some (CoPollEvent.initCustomEvent sh key)
  | .trigger site m =>
    some (if m = 0 then returnTrigger i sh site (-1) else (sh, .triggerCas site m sh.state))
  | .triggerCas site m word => some (CoPollEvent.triggerCas i sh a site m word)
  | .complete site m =>
    some ({ sh with fields := cannelAllFdEvent a sh.fields }, .completeFinal site m)
  | .completeFinal site m =>
    some ({ sh with state := packCoPollEventState final m }, .completeCallback site m)
  | .completeCallback site m => some (returnComplete i (sh.callback m) site)
  | .regist =>
    some (sh, if getCoPollEventPhase sh.state = some pending then .registPending
      else .registArming)
  | .registPending => some (returnRegist sh (if a.ok then 0 else -1))
  | .registArming =>
    some (if sh.state = packCoPollEventState inited then
        ({ sh with state := packCoPollEventState arming }, .registFdEvent)
      else registEnd sh sh.state)
  | .registFdEvent =>
    some (sh, if sh.fields.event ≠ none ∧ (a.throws ∨ !a.ok) then .registFailed else .registArmed)
  | .registFailed => some (sh, .registFailedCas sh.state)
  | .registFailedCas word => some (CoPollEvent.registFailedCas i sh a word)
  | .registCannel word =>
    some (registEnd { sh with fields := cannelAllFdEvent a sh.fields } word)
  | .registArmed =>
    some (if sh.state = packCoPollEventState arming then
        ({ sh with state := packCoPollEventState armed }, .registDebug)
      else (sh, .registCannel sh.state))
  | .registDebug => some (sh, if a.ok then .trackWaiter else .unRegist .regist)
  | .trackWaiter =>
    some (if CoPollEvent.trackWaiter a sh.fields then returnRegist sh 0
      else (sh, .trigger .regist pollEventClosed))
  | .unRegist site => some (sh, .unRegistCas site sh.state)
  | .unRegistCas site word => some (CoPollEvent.unRegistCas i sh a site word)
  | .unRegistCannel site wasArming =>
    some (returnUnRegist i
      (if wasArming then sh else { sh with fields := cannelAllFdEvent a sh.fields }) site 0)
  | .commitPark registed => some (sh, .commitParkCas registed sh.state)
  | .commitParkCas registed word => some (CoPollEvent.commitParkCas i sh a registed word)

/-- The first frame of an operation. -/
def Op.frame (sh : Shared ι) : Op → Frame
  | .initFdEvent fd events timeout => .initFdEvent fd events timeout
  | .initCustomEvent key => .initCustomEvent key
  | .trigger m => .trigger .client m
  | .regist => .regist
  | .unRegist => .unRegist .client
  | .commitPark => .commitPark sh.registed

/-! ## The system -/

/-- A call is made, or takes its next step. -/
inductive Label (ι : Type*)
  | invoke (i : ι) (op : Op)
  | advance (i : ι) (a : Answer)

variable [DecidableEq ι]

/-- One step of the event under its calls. -/
def next (s : State ι) : Label ι → Option (State ι)
  | .invoke i op =>
    if s.call i = .idle then
      some { s with call := Function.update s.call i (op.frame s.shared) }
    else none
  | .advance i a =>
    ((s.call i).step i s.shared a).map fun r => ⟨r.1, Function.update s.call i r.2⟩

/-- A fresh event on which no call has been made. -/
def init : State ι := ⟨{}, fun _ => .idle⟩

/-- The transition system of one event; its start is the constructed event. -/
def system (ι : Type*) [DecidableEq ι] : System (State ι) (Label ι) where
  start s := s = init
  next := next

end BbtCoroutine.CoPollEvent
