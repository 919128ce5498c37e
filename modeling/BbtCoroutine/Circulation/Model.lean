import BbtCoroutine.OnYield.Model
import BbtCoroutine.Scheduler.Model
import Mathlib.Data.List.Rotate

/-!
# A model of how coroutines circulate

All workers with their run queues, the global queues, and any number of other threads.  A
thread is in the middle of at most one of the procedures that hand coroutines around; its
`Frame` is the point it has reached there, and says which coroutine it has in its hand.  A
worker also has the point of its loop `_Run` (`Loop`).  The code of a coroutine runs on its
worker's thread and may call the procedures too.

A step is what a thread does between two accesses to what the threads share: `m_admission_open`,
`m_enqueue_inflight`, a run queue, a global queue, `m_processer_map_mutex` or a lifecycle.
Which of its coroutines a queue hands out, which global queue a pull looks at, when a steal is
worth while and whether an enqueue in the third-party queue succeeds are answers of the
environment.  `m_global_queue_mutex`, which only keeps creations apart, and the notifications
are left out: without them more interleavings are possible.

A coroutine that waits for an event is made runnable by the one completion of that event,
which takes it from being parked (`Op.onActive`); if the event was triggered before the park
is committed, `CommitPark` completes it there and then.
-/

namespace BbtCoroutine.Circulation

open Transition Scheduler OnYield

/-! ## The state -/

/-- `CoroutinePriority`. -/
inductive Priority
  | low
  | normal
  | high
  | critical
  deriving DecidableEq

/-- The threads: the one of a worker, and all others. -/
inductive Agent (Th Wk : Type*)
  | outside (t : Th)
  | worker (p : Wk)
  deriving DecidableEq

/-- Where an agent is in `_EnqueueAdmitted`. -/
inductive Stage
  /-- The first look at the admission. -/
  | check
  | register
  /-- The look at the admission after the registration. -/
  | recheck
  | enqueue
  /-- `_ReleaseEnqueueSlot`. -/
  | release (enqueued : Bool)
  deriving DecidableEq

/-- What has called `_EnqueueAdmitted`, or enqueues in a global queue. -/
inductive Origin (Wk : Type*)
  /-- `_LoadBlance2Proc`, with the workers that it has not tried. -/
  | balance (rest : List Wk)
  /-- `RegistCoroutineTaskOn`. -/
  | registOn
  | onActive
  /-- The loop of a worker whose coroutine is ready. -/
  | ready
  /-- A pull of the worker, with what it may still take and the levels found empty in a row. -/
  | pull (p : Wk) (left empty : ℕ)
  /-- A steal of the worker `p` from `v`, with what it has taken and what it wants. -/
  | steal (p v : Wk) (num expect : ℕ)
  /-- `_DrainLocalToGlobal`. -/
  | drain
  deriving DecidableEq

/-- The point a thread has reached in a procedure. -/
inductive Frame (Co Wk : Type*)
  | idle
  /-- `RegistCoroutineTask` has made the coroutine. -/
  | regist (co : Co)
  /-- The loop of `_LoadBlance2Proc`. -/
  | balance (co : Co) (rest : List Wk)
  /-- The coroutine is deleted before it was handed to anybody. -/
  | discard (co : Co)
  | admission (st : Stage) (p : Wk) (pr : Priority) (co : Co) (k : Origin Wk)
  /-- The coroutine is put into a global queue, again and again until this succeeds. -/
  | globalize (pr : Priority) (co : Co) (k : Origin Wk)
  /-- The gate of `_TryGetCoroutineFromGlobal`, and its loop. -/
  | pullGate (p : Wk)
  | pulling (p : Wk) (left empty : ℕ)
  /-- The loop of `Steal`, and its end. -/
  | stealing (p v : Wk) (num expect : ℕ)
  | stole (p : Wk) (num : ℕ)
  /-- The commit of an expansion: these workers are still to be activated, the admission of the
  first one is open or not, and the threads of all of them wait at the gate. -/
  | activate (opened : Bool) (todo all : List Wk)
  /-- The gate opens. -/
  | startGate (all : List Wk)
  /-- The commit of a shrink: of the first of these workers that many members are set by
  `_BeginRetire`. -/
  | retire (stored : ℕ) (todo all : List Wk)
  deriving DecidableEq

/-- The point a worker has reached in `_Run`. -/
inductive Loop (Co Wk : Type*)
  /-- Its thread waits at the gate, or has not been made. -/
  | off
  | top
  /-- The head of the loop over 64 turns, after `n` of them; `any` is `any_dequeued`. -/
  | turn (n : ℕ) (any : Bool)
  /-- `Resume`: the code of the coroutine runs. -/
  | running (n : ℕ) (co : Co)
  /-- The run is accounted for, and the yield is to be committed. -/
  | commit (n : ℕ) (co : Co) (d : YieldDisposition)
  /-- After the turns: `_TryGetCoroutineFromGlobal` is called every fourth time. -/
  | interval (any : Bool)
  | after (any : Bool)
  /-- `TryWorkSteal`, with the workers that it has not tried. -/
  | steal (rest : List Wk)
  | waitForWork
  /-- `_WaitEnqueueQuiescent`. -/
  | quiesce
  | drain
  | exited
  deriving DecidableEq

/-- What has become of a coroutine. -/
inductive Life
  | unborn
  | live
  | dead
  deriving DecidableEq

/-- What the configuration says. -/
structure Config where
  /-- `m_cfg_processer_get_co_from_g_count`. -/
  getCoFromGCount : ℕ
  /-- `m_cfg_processer_steal_once_min_task_num`. -/
  stealOnceMinTaskNum : ℕ

/-- The state of the scheduler. -/
structure State (Th Wk Co : Type*) where
  /-- `m_processer_map_mutex`. -/
  mapMutex : Option (Agent Th Wk) := none
  /-- `m_active_snapshot`; the workers of `m_processer_map`. -/
  activeSnapshot : List Wk := []
  lifecycle : Wk → Lifecycle := fun _ => .preparing
  admissionOpen : Wk → Bool := fun _ => false
  retireRequested : Wk → Bool := fun _ => false
  enqueueInflight : Wk → ℕ := fun _ => 0
  globalCheckCounter : Wk → ℕ := fun _ => 0
  /-- `m_coroutine_queue`: the linked entities, and `m_running`. -/
  coroutineQueue : Wk → List Co := fun _ => []
  cfsRunning : Wk → Option Co := fun _ => none
  /-- The hook and the priority of the entity of a coroutine. -/
  isLinked : Co → Bool := fun _ => false
  priority : Co → Priority := fun _ => .normal
  globalQueue : Priority → List Co := fun _ => []
  life : Co → Life := fun _ => .unborn
  parked : Co → Bool := fun _ => false
  frame : Agent Th Wk → Frame Co Wk := fun _ => .idle
  loop : Wk → Loop Co Wk := fun _ => .off
  /-- `Account` has called `std::terminate`. -/
  terminated : Bool := false

/-- What the environment answers. -/
structure Env (Wk Co : Type*) where
  /-- An enqueue in a global queue succeeds; a steal is worth while. -/
  ok : Bool := true
  /-- What a queue hands out. -/
  item : Option Co := none
  /-- The level that a pull looks at. -/
  level : Priority := .normal
  /-- `m_load_idx` or `m_steal_idx`. -/
  start : ℕ := 0
  /-- How the coroutine yields, and whether its event is already triggered, with which priority. -/
  disposition : YieldDisposition := .ready
  triggered : Bool := false
  priority : Priority := .normal

variable {Th Wk Co : Type*} [DecidableEq Th] [DecidableEq Wk] [DecidableEq Co]

namespace State

/-! ## Parts of the procedures -/

/-- The thread `a` goes on at `f`. -/
def goto (s : State Th Wk Co) (a : Agent Th Wk) (f : Frame Co Wk) : State Th Wk Co :=
  { s with frame := Function.update s.frame a f }

/-- The loop of the worker `p` goes on at `l`. -/
def goLoop (s : State Th Wk Co) (p : Wk) (l : Loop Co Wk) : State Th Wk Co :=
  { s with loop := Function.update s.loop p l }

/-- `Steal` has taken `num` coroutines: the worker goes back to work, or tries the next one. -/
def stolen (s : State Th Wk Co) (a : Agent Th Wk) (p : Wk) (num : ℕ) : State Th Wk Co :=
  if 0 < num then (s.goto a .idle).goLoop p .top else s.goto a .idle

/-- `_EnqueueAdmitted` has returned `true`. -/
def admitted (s : State Th Wk Co) (a : Agent Th Wk) : Origin Wk → State Th Wk Co
  | .balance _ => { s with mapMutex := none }.goto a .idle
  | .pull p left _ => s.goto a (.pulling p (left - 1) 0)
  | .steal p v num expect => s.goto a (.stealing p v (num + 1) expect)
  | _ => s.goto a .idle

/-- `_EnqueueAdmitted` has returned `false`: the caller still has the coroutine. -/
def refused (s : State Th Wk Co) (a : Agent Th Wk) (pr : Priority) (co : Co) :
    Origin Wk → State Th Wk Co
  | .balance rest => s.goto a (.balance co rest)
  | .registOn => s.goto a (.discard co)
  | k => s.goto a (.globalize pr co k)

/-- The coroutine is in a global queue. -/
def globalized (s : State Th Wk Co) (a : Agent Th Wk) : Origin Wk → State Th Wk Co
  | .pull p left empty => s.goto a (.pulling p left (empty + 1))
  | .steal p _ num _ => s.goto a (.stole p num)
  | _ => s.goto a .idle

/-- `CfsRunQueue::Enqueue`, for an entity that is not linked. -/
def link (s : State Th Wk Co) (p : Wk) (pr : Priority) (co : Co) : State Th Wk Co :=
  { s with
    coroutineQueue := Function.update s.coroutineQueue p (s.coroutineQueue p ++ [co])
    isLinked := Function.update s.isLinked co true
    priority := Function.update s.priority co pr }

/-- `CfsRunQueue::Take`. -/
def take (s : State Th Wk Co) (p : Wk) (co : Co) : State Th Wk Co :=
  { s with
    coroutineQueue := Function.update s.coroutineQueue p ((s.coroutineQueue p).erase co)
    isLinked := Function.update s.isLinked co false }

/-- `CfsRunQueue::Pick`. -/
def pick (s : State Th Wk Co) (p : Wk) (co : Co) : State Th Wk Co :=
  { s.take p co with cfsRunning := Function.update s.cfsRunning p (some co) }

/-- The coroutine is put into a global queue. -/
def enqueueGlobal (s : State Th Wk Co) (pr : Priority) (co : Co) : State Th Wk Co :=
  { s with globalQueue := Function.update s.globalQueue pr (s.globalQueue pr ++ [co]) }

/-- The coroutine is taken out of a global queue. -/
def dequeueGlobal (s : State Th Wk Co) (pr : Priority) (co : Co) : State Th Wk Co :=
  { s with globalQueue := Function.update s.globalQueue pr ((s.globalQueue pr).erase co) }

/-- The coroutine is parked, or no longer. -/
def setParked (s : State Th Wk Co) (co : Co) (b : Bool) : State Th Wk Co :=
  { s with parked := Function.update s.parked co b }

/-- The coroutine has been created, or deleted. -/
def setLife (s : State Th Wk Co) (co : Co) (x : Life) : State Th Wk Co :=
  { s with life := Function.update s.life co x }

/-- A step of `_EnqueueAdmitted`. -/
def enqueueAdmitted (s : State Th Wk Co) (a : Agent Th Wk) (p : Wk) (pr : Priority) (co : Co)
    (k : Origin Wk) : Stage → State Th Wk Co
  | .check =>
    if s.admissionOpen p then s.goto a (.admission .register p pr co k) else s.refused a pr co k
  | .register =>
    { s with enqueueInflight := Function.update s.enqueueInflight p (s.enqueueInflight p + 1) }.goto
      a (.admission .recheck p pr co k)
  | .recheck =>
    if s.admissionOpen p then s.goto a (.admission .enqueue p pr co k)
    else s.goto a (.admission (.release false) p pr co k)
  | .enqueue =>
    if s.isLinked co = true ∨ s.cfsRunning p = some co then
      s.goto a (.admission (.release false) p pr co k)
    else (s.link p pr co).goto a (.admission (.release true) p pr co k)
  | .release enqueued =>
    let s' :=
      { s with enqueueInflight := Function.update s.enqueueInflight p (s.enqueueInflight p - 1) }
    if enqueued then s'.admitted a k else s'.refused a pr co k

/-- A step of the commit of an expansion. -/
def activate (s : State Th Wk Co) (a : Agent Th Wk) (opened : Bool) (todo all : List Wk) :
    State Th Wk Co :=
  match todo with
  | [] => { s with mapMutex := none }.goto a (.startGate all)
  | p :: todo =>
    if opened then
      { s with lifecycle := Function.update s.lifecycle p .active }.goto a
        (.activate false todo all)
    else
      { s with admissionOpen := Function.update s.admissionOpen p true }.goto a
        (.activate true (p :: todo) all)

/-- A step of the commit of a shrink: `_BeginRetire` sets three members of each worker. -/
def retire (s : State Th Wk Co) (a : Agent Th Wk) (stored : ℕ) (todo all : List Wk) :
    State Th Wk Co :=
  match todo, stored with
  | [], _ =>
    { s with
      activeSnapshot := s.activeSnapshot.filter (· ∉ all)
      mapMutex := none }.goto a .idle
  | p :: todo, 0 =>
    { s with admissionOpen := Function.update s.admissionOpen p false }.goto a
      (.retire 1 (p :: todo) all)
  | p :: todo, 1 =>
    { s with lifecycle := Function.update s.lifecycle p .retiring }.goto a
      (.retire 2 (p :: todo) all)
  | p :: todo, _ =>
    { s with retireRequested := Function.update s.retireRequested p true }.goto a
      (.retire 0 todo all)

/-- The threads of a batch begin with `_Run`. -/
def startGate (s : State Th Wk Co) (a : Agent Th Wk) (all : List Wk) : State Th Wk Co :=
  { s with
    loop := fun p => if p ∈ all ∧ s.loop p = Loop.off then .top else s.loop p }.goto a .idle

/-- A step of the loop of `_TryGetCoroutineFromGlobal`. -/
def pulling (s : State Th Wk Co) (a : Agent Th Wk) (p : Wk) (left empty : ℕ) (e : Env Wk Co) :
    Option (State Th Wk Co) :=
  if left = 0 ∨ 4 ≤ empty then some (s.goto a .idle)
  else
    match e.item with
    | none => some (s.goto a (.pulling p left (empty + 1)))
    | some co =>
      if co ∈ s.globalQueue e.level then
        some ((s.dequeueGlobal e.level co).goto a
          (.admission .check p e.level co (.pull p left empty)))
      else none

/-- A step of the loop of `Steal`. -/
def stealing (s : State Th Wk Co) (a : Agent Th Wk) (p v : Wk) (num expect : ℕ) (e : Env Wk Co) :
    Option (State Th Wk Co) :=
  if expect ≤ num ∨ s.coroutineQueue v = [] then some (s.goto a (.stole p num))
  else
    match e.item with
    | none => none
    | some co =>
      if co ∈ s.coroutineQueue v then
        some ((s.take v co).goto a
          (.admission .check p (s.priority co) co (.steal p v num expect)))
      else none

/-- What the thread `a` does next in its procedure. -/
def step (cfg : Config) (s : State Th Wk Co) (a : Agent Th Wk) (e : Env Wk Co) :
    Option (State Th Wk Co) :=
  match s.frame a with
  | .idle => none
  | .regist co =>
    if s.mapMutex ≠ none then none
    else if s.activeSnapshot = [] then some (s.goto a (.discard co))
    else some ({ s with mapMutex := some a }.goto a
      (.balance co (s.activeSnapshot.rotate (e.start % s.activeSnapshot.length))))
  | .balance co rest =>
    match rest with
    | [] => some ({ s with mapMutex := none }.goto a (.discard co))
    | p :: rest => some (s.goto a (.admission .check p .normal co (.balance rest)))
  | .discard co => some ((s.setLife co .dead).goto a .idle)
  | .admission st p pr co k => some (s.enqueueAdmitted a p pr co k st)
  | .globalize pr co k =>
    if e.ok then some ((s.enqueueGlobal pr co).globalized a k) else some s
  | .pullGate p =>
    if s.admissionOpen p then some (s.goto a (.pulling p cfg.getCoFromGCount 0))
    else some (s.goto a .idle)
  | .pulling p left empty => s.pulling a p left empty e
  | .stealing p v num expect => s.stealing a p v num expect e
  | .stole p num => some (s.stolen a p num)
  | .activate opened todo all => some (s.activate a opened todo all)
  | .startGate all => some (s.startGate a all)
  | .retire stored todo all => some (s.retire a stored todo all)

/-! ## The loop of a worker -/

/-- `CfsRunQueue::Account`, which ends the process if the entity is not the running one. -/
def account (s : State Th Wk Co) (p : Wk) (co : Co) : State Th Wk Co :=
  { s with
    cfsRunning := Function.update s.cfsRunning p none
    terminated := s.terminated || decide (s.cfsRunning p ≠ some co) }

/-- `CommitYield`, and what the worker does with its result. -/
def commitYield (s : State Th Wk Co) (p : Wk) (co : Co) (e : Env Wk Co) :
    YieldDisposition → State Th Wk Co
  | .ready => s.goto (.worker p) (.admission .check p .normal co .ready)
  | .final => s.setLife co .dead
  | .eventWait =>
    if e.triggered then s.goto (.worker p) (.admission .check p e.priority co .onActive)
    else s.setParked co true
  | .manual => s.setParked co true

/-- The head of the loop over 64 turns. -/
def turn (s : State Th Wk Co) (p : Wk) (n : ℕ) (any : Bool) (e : Env Wk Co) :
    Option (State Th Wk Co) :=
  if s.retireRequested p then some (s.goLoop p .quiesce)
  else if n < 64 ∧ s.cfsRunning p = none ∧ s.coroutineQueue p ≠ [] then
    match e.item with
    | none => none
    | some co =>
      if co ∈ s.coroutineQueue p then some ((s.pick p co).goLoop p (.running n co)) else none
  else some (s.goLoop p (.interval any))

/-- A step of `TryWorkSteal`: `Steal` looks at the admission and the lifecycles first. -/
def trySteal (cfg : Config) (s : State Th Wk Co) (p : Wk) (rest : List Wk) (e : Env Wk Co) :
    State Th Wk Co :=
  match rest with
  | [] => s.goLoop p .waitForWork
  | v :: rest =>
    let size := (s.coroutineQueue v).length
    if v ≠ p ∧ s.lifecycle v = .active ∧ s.admissionOpen v = true ∧ s.lifecycle p = .active ∧
        0 < size ∧ e.ok = true then
      (s.goLoop p (.steal rest)).goto (.worker p)
        (.stealing p v 0 (max cfg.stealOnceMinTaskNum (size / 2)))
    else s.goLoop p (.steal rest)

/-- What the worker `p` does next in its loop. -/
def work (cfg : Config) (s : State Th Wk Co) (p : Wk) (e : Env Wk Co) : Option (State Th Wk Co) :=
  match s.loop p with
  | .off | .exited => none
  | .top =>
    if s.retireRequested p then some (s.goLoop p .quiesce)
    else if s.coroutineQueue p = [] then
      some ((s.goLoop p (.turn 0 false)).goto (.worker p) (.pullGate p))
    else some (s.goLoop p (.turn 0 false))
  | .turn n any => s.turn p n any e
  | .running n co => some ((s.account p co).goLoop p (.commit n co e.disposition))
  | .commit n co d => some ((s.goLoop p (.turn (n + 1) true)).commitYield p co e d)
  | .interval any =>
    if s.retireRequested p then some (s.goLoop p .quiesce)
    else if 4 ≤ s.globalCheckCounter p + 1 then
      some (({ s with
        globalCheckCounter := Function.update s.globalCheckCounter p 0 }.goLoop p
          (.after any)).goto (.worker p) (.pullGate p))
    else
      some ({ s with
        globalCheckCounter := Function.update s.globalCheckCounter p
          (s.globalCheckCounter p + 1) }.goLoop p (.after any))
  | .after any =>
    if any = true ∧ s.coroutineQueue p ≠ [] then some (s.goLoop p .top)
    else if s.retireRequested p then some (s.goLoop p .quiesce)
    else if s.lifecycle p = .active ∧ 1 < s.activeSnapshot.length then
      some (s.goLoop p
        (.steal (s.activeSnapshot.rotate (e.start % s.activeSnapshot.length))))
    else some (s.goLoop p .waitForWork)
  | .steal rest => some (s.trySteal cfg p rest e)
  | .waitForWork =>
    if s.retireRequested p then some (s.goLoop p .top)
    else some ((s.goLoop p .top).goto (.worker p) (.pullGate p))
  | .quiesce => if s.enqueueInflight p = 0 then some (s.goLoop p .drain) else none
  | .drain =>
    if s.coroutineQueue p = [] then
      some ({ s with lifecycle := Function.update s.lifecycle p .exited }.goLoop p .exited)
    else
      match e.item with
      | none => none
      | some co =>
        if co ∈ s.coroutineQueue p then
          some ((s.take p co).goto (.worker p) (.globalize (s.priority co) co .drain))
        else none

end State

/-! ## The system -/

/-- The procedures that a thread may call. -/
inductive Op (Wk Co : Type*)
  | registCoroutineTask (co : Co)
  | registCoroutineTaskOn (target : Wk) (co : Co)
  | onActiveCoroutine (pr : Priority) (co : Co)
  /-- The commits of `_PrepareExpansionLocked` and `_CommitShrinkLocked`. -/
  | expand (batch : List Wk)
  | shrink (selected : List Wk)

/-- The thread `a` calls a procedure.  A created coroutine is a new one; the workers of an
expansion are new too, and those of a shrink have been selected among the active ones. -/
def call (s : State Th Wk Co) (a : Agent Th Wk) : Op Wk Co → Option (State Th Wk Co)
  | .registCoroutineTask co =>
    if s.life co = .unborn then
      some ((s.setLife co .live).goto a (.regist co))
    else none
  | .registCoroutineTaskOn target co =>
    if s.life co = .unborn ∧ target ∈ s.activeSnapshot then
      some ((s.setLife co .live).goto a
        (.admission .check target .normal co .registOn))
    else none
  | .onActiveCoroutine pr co =>
    if s.parked co = true then
      match a with
      | .outside _ => some ((s.setParked co false).goto a (.globalize pr co .onActive))
      | .worker p => some ((s.setParked co false).goto a (.admission .check p pr co .onActive))
    else none
  | .expand batch =>
    if s.mapMutex = none ∧ batch.Nodup ∧
        ∀ p ∈ batch, s.lifecycle p = .preparing ∧ p ∉ s.activeSnapshot then
      some ({ s with
        mapMutex := some a
        activeSnapshot := s.activeSnapshot ++ batch }.goto a (.activate false batch batch))
    else none
  | .shrink selected =>
    if s.mapMutex = none ∧ selected.Nodup ∧ a ∉ selected.map .worker ∧
        ∀ p ∈ selected, s.lifecycle p = .active ∧ p ∈ s.activeSnapshot then
      some ({ s with mapMutex := some a }.goto a (.retire 0 selected selected))
    else none

/-- The steps of the system: a thread calls a procedure or goes on in one, and a worker that is in
none goes on in its loop. -/
inductive Label (Th Wk Co : Type*)
  | call (a : Agent Th Wk) (op : Op Wk Co)
  | step (a : Agent Th Wk) (e : Env Wk Co)
  | work (p : Wk) (e : Env Wk Co)

/-- One step of the system. -/
def next (cfg : Config) (s : State Th Wk Co) : Label Th Wk Co → Option (State Th Wk Co)
  | .call a op => if s.frame a = .idle then call s a op else none
  | .step a e => s.step cfg a e
  | .work p e => if s.frame (.worker p) = .idle then s.work cfg p e else none

/-- The transition system of the scheduler; it starts with no worker and no coroutine. -/
def system (cfg : Config) (Th Wk Co : Type*) [DecidableEq Th] [DecidableEq Wk] [DecidableEq Co] :
    System (State Th Wk Co) (Label Th Wk Co) where
  start s := s = {}
  next := next cfg

end BbtCoroutine.Circulation
