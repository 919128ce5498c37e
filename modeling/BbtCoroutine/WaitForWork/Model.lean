import BbtCoroutine.GlobalPull.Model

/-!
# A model of the workers that go to sleep in `_WaitForWork`

Any number of workers pull tasks from the global queues into their local ones, steal from one
another, run what they pick, and wait for more.  Threads, and coroutines on the worker that runs
them, publish tasks and retire workers meanwhile; each moves at every access to a queue, to an
admission, to the request to retire, to the latch and to the snapshot of the active workers.

A queue is the number of its tasks.  Between two calls of `_WaitForWork` a worker may do what `_Run`
does there in any order and as often as it likes.  `m_is_running` is never cleared once a worker has
been initialised, and a wait may end at any time as if it had timed out.
-/

namespace BbtCoroutine.WaitForWork

open Transition GlobalPull

/-! ## The state -/

/-- From where `_TryGetCoroutineFromGlobal` is called. -/
inductive Caller
  /-- `_Run`. -/
  | run
  /-- `_WaitForWork` under `m_run_cond_mutex`, with the lease of a driver or without one. -/
  | recheck (leased : Bool)
  deriving DecidableEq

/-- Where a worker is. -/
inductive Stage
  /-- The worker has not been created. -/
  | absent
  | run
  /-- It has stolen a task of this priority. -/
  | stolen (p : CoroutinePriority)
  | resume
  | pull (c : Caller) (alreadyCount emptyLevels : ℕ)
  /-- A task of this priority has been dequeued. -/
  | pulled (c : Caller) (alreadyCount emptyLevels : ℕ) (p : CoroutinePriority)
  /-- `_WaitForWork` has found that no request to retire has been made. -/
  | enter (leased : Bool)
  /-- The global queues have yielded nothing. -/
  | recheckLocal (leased : Bool)
  /-- The local queue was empty too. -/
  | rechecked (leased : Bool)
  /-- Blocked in the wait for `m_run_cond`. -/
  | waiting
  | driverWait
  /-- `_DrainLocalToGlobal`. -/
  | drain
  /-- `_WakeActiveWorkers`, which is the last thing a worker does that retires. -/
  | wake (final : Bool)
  | exited
  deriving DecidableEq

/-- `m_run_cond_mutex` is held by the worker. -/
def Stage.locked : Stage → Bool
  | .pull (.recheck _) _ _ | .pulled (.recheck _) _ _ _ | .recheckLocal _ | .rechecked _ => true
  | _ => false

/-- `Processer`. -/
structure Worker where
  /-- `m_coroutine_queue`. -/
  coroutineQueue : ℕ := 0
  admissionOpen : Bool := false
  enqueueInflight : ℕ := 0
  retireRequested : Bool := false
  /-- `m_run_cond_notify`, which is `false` when something has been published. -/
  runCondNotify : Bool := true
  /-- `m_run_cond` has been notified in this wait. -/
  notified : Bool := false
  globalPullPriority : CoroutinePriority := coPriorityCritical
  stage : Stage := .absent

/-- What a thread has still to do in the calls that publish. -/
inductive Frame (W : Type*)
  | idle
  /-- `RegistCoroutineTask` or `RegistCoroutineTaskOn`, with the workers that are left to try. -/
  | regist (ps : List W)
  /-- `_EnqueueAdmitted` has passed the second check of the admission. -/
  | admitted (p : W)
  /-- `OnActiveCoroutine` has a task for a global queue. -/
  | active (k : CoroutinePriority)
  /-- The snapshot for a broadcast has not been taken. -/
  | broadcast
  /-- `_PublishRunnable` is left to do for these workers. -/
  | publish (ps : List W)
  /-- The latch of `p` has been set, and `m_run_cond` has not been notified. -/
  | notify (p : W) (ps : List W)
  /-- `_CommitShrinkLocked` has these workers left to retire, of those that it has selected. -/
  | shrink (todo selected : List W)
  /-- The admission of `p` has been closed, and its retirement not requested. -/
  | request (p : W) (todo selected : List W)

/-- Who publishes: a thread, or a worker with the coroutine that it runs. -/
inductive Agent (T W : Type*)
  | thread (t : T)
  | worker (p : W)
  deriving DecidableEq

/-- The state of the workers and of all that publish. -/
structure State (T W : Type*) where
  worker : W → Worker := fun _ => {}
  /-- `m_active_snapshot`. -/
  activeSnapshot : List W := []
  /-- `m_global_coroutine_queue`. -/
  globalQueue : CoroutinePriority → ℕ := fun _ => 0
  /-- Who holds `m_lifecycle_mutex` in `_CommitShrinkLocked`. -/
  lifecycle : Option (Agent T W) := none
  frame : Agent T W → Frame W := fun _ => .idle

/-- The steps. -/
inductive Label (T W : Type*)
  /-- `_PrepareExpansionLocked` creates the workers and publishes them. -/
  | expand (a : Agent T W) (ps : List W)
  | shrink (a : Agent T W) (ps : List W)
  | beginRetire (a : Agent T W)
  | requestRetire (a : Agent T W)
  /-- `m_active_snapshot` is replaced. -/
  | commit (a : Agent T W)
  /-- A call of `_PublishRunnable`, as that of `RegisterProcesserDriver`. -/
  | publish (a : Agent T W) (p : W)
  /-- A coroutine is created; `ps` are the candidates of `_LoadBlance2Proc`, or the target. -/
  | regist (a : Agent T W) (ps : List W)
  | beginEnqueue (a : Agent T W)
  | enqueue (a : Agent T W)
  | onActive (a : Agent T W) (k : CoroutinePriority)
  | enqueueGlobal (a : Agent T W)
  | snapshot (a : Agent T W)
  | setLatch (a : Agent T W)
  | notifyOne (a : Agent T W)
  | pull (p : W)
  /-- A probe of the queue at the cursor. -/
  | probe (p : W)
  | admitPulled (p : W)
  /-- `_TryGetCoroutineFromGlobal` returns. -/
  | pullDone (p : W)
  | pick (p : W)
  /-- The coroutine is ready again. -/
  | ready (p : W)
  /-- The coroutine waits for an event, or it has ended. -/
  | parked (p : W)
  /-- `Take` in `Steal`; the victim was active and admitted at some time before. -/
  | steal (p victim : W) (k : CoroutinePriority)
  | admitStolen (p : W)
  | waitForWork (p : W) (leased : Bool)
  /-- `m_run_cond_mutex` is taken. -/
  | lock (p : W)
  /-- The size of the local queue is read. -/
  | recheckLocal (p : W)
  /-- The latch and the request are read before the wait. -/
  | wait (p : W)
  /-- The wait is woken, and it ends if the predicate holds or the time is over. -/
  | wake (p : W) (timeout : Bool)
  | driverReturns (p : W)
  /-- The loop of `_Run` ends. -/
  | retire (p : W)
  | drain (p : W) (k : CoroutinePriority)
  | drained (p : W)
  /-- `_WakeActiveWorkers` returns to the worker. -/
  | woken (p : W)

variable {T W : Type*} [DecidableEq T] [DecidableEq W]

namespace State

/-- The worker `p` becomes `x`. -/
def setWorker (s : State T W) (p : W) (x : Worker) : State T W :=
  { s with worker := Function.update s.worker p x }

/-- The agent `a` has `f` left to do. -/
def setFrame (s : State T W) (a : Agent T W) (f : Frame W) : State T W :=
  { s with frame := Function.update s.frame a f }

/-- The worker `p` goes on at the stage. -/
def goto (s : State T W) (p : W) (g : Stage) : State T W :=
  s.setWorker p { s.worker p with stage := g }

/-- A task is enqueued in the global queue `k`. -/
def enqueueGlobal (s : State T W) (k : CoroutinePriority) : State T W :=
  { s with globalQueue := Function.update s.globalQueue k (s.globalQueue k + 1) }

/-- `_WaitForWork` clears the latch and returns. -/
def endWait (s : State T W) (p : W) : State T W :=
  s.setWorker p { s.worker p with runCondNotify := true, stage := .run }

/-- The agent can call something that publishes: a worker does so only while it runs a coroutine. -/
def calls (s : State T W) : Agent T W → Bool
  | .thread _ => true
  | .worker p => (s.worker p).stage = .resume

/-- `_EnqueueAdmitted` of the worker itself: the task goes to the local queue, or to the global
queue `k` when the worker is not admitted. -/
def keep (s : State T W) (p : W) (k : CoroutinePriority) (g : Stage) : State T W :=
  if (s.worker p).admissionOpen then
    s.setWorker p { s.worker p with
      coroutineQueue := (s.worker p).coroutineQueue + 1, stage := g }
  else (s.enqueueGlobal k).goto p g

end State

/-- `m_cfg_processer_get_co_from_g_count`. -/
def getCoFromGCount : ℕ := 16

/-- `CO_PRIORITY_NORMAL` is one of the priorities. -/
lemma one_lt_coPriorityCount : 1 < coPriorityCount := by decide

/-- `CO_PRIORITY_NORMAL`. -/
def coPriorityNormal : CoroutinePriority := ⟨1, one_lt_coPriorityCount⟩

/-- A new worker, which is admitted. -/
def Worker.activated : Worker := { admissionOpen := true, stage := .run }

/-- The priorities are visited until 16 tasks have come or four queues in a row were empty. -/
def goesOn (alreadyCount emptyLevels : ℕ) : Bool :=
  alreadyCount < getCoFromGCount && emptyLevels < coPriorityCount

/-- The predicate of the wait. -/
def Worker.due (x : Worker) : Bool := !x.runCondNotify || x.retireRequested

/-- One step of an agent that has nothing left to do. -/
def call (s : State T W) (a : Agent T W) : Label T W → Option (State T W)
  | .expand _ ps =>
    if s.lifecycle = none ∧ (∀ p ∈ ps, (s.worker p).stage = .absent) then
      some ({ s with
        worker := fun p => if p ∈ ps then .activated else s.worker p
        activeSnapshot := s.activeSnapshot ++ ps }.setFrame a (.publish ps))
    else none
  | .shrink _ ps =>
    if s.lifecycle = none ∧ (∀ p ∈ ps, p ∈ s.activeSnapshot) ∧ (∃ q ∈ s.activeSnapshot, q ∉ ps) then
      some ({ s with lifecycle := some a }.setFrame a (.shrink ps ps))
    else none
  | .publish _ p => some (s.setFrame a (.publish [p]))
  | .regist _ ps => some (s.setFrame a (.regist ps))
  | .onActive _ k =>
    match a with
    | .thread _ => some (s.setFrame a (.active k))
    | .worker p =>
      if (s.worker p).admissionOpen then
        some (s.setWorker p
          { s.worker p with coroutineQueue := (s.worker p).coroutineQueue + 1 })
      else some (s.setFrame a (.active k))
  | _ => none

/-- One step of an agent in a call. -/
def goOn (s : State T W) (a : Agent T W) : Label T W → Option (State T W)
  | .beginRetire _ =>
    match s.frame a with
    | .shrink (p :: todo) selected =>
      some ((s.setWorker p { s.worker p with admissionOpen := false }).setFrame a
        (.request p todo selected))
    | _ => none
  | .requestRetire _ =>
    match s.frame a with
    | .request p todo selected =>
      some ((s.setWorker p { s.worker p with retireRequested := true }).setFrame a
        (.shrink todo selected))
    | _ => none
  | .commit _ =>
    match s.frame a with
    | .shrink [] selected =>
      some ({ s with
        activeSnapshot := s.activeSnapshot.filter (· ∉ selected)
        lifecycle := none }.setFrame a (.publish selected))
    | _ => none
  | .beginEnqueue _ =>
    match s.frame a with
    | .regist [] => some (s.setFrame a .idle)
    | .regist (p :: ps) =>
      if (s.worker p).admissionOpen then
        some ((s.setWorker p
          { s.worker p with enqueueInflight := (s.worker p).enqueueInflight + 1 }).setFrame a
          (.admitted p))
      else some (s.setFrame a (.regist ps))
    | _ => none
  | .enqueue _ =>
    match s.frame a with
    | .admitted p =>
      some ((s.setWorker p { s.worker p with
        coroutineQueue := (s.worker p).coroutineQueue + 1
        enqueueInflight := (s.worker p).enqueueInflight - 1 }).setFrame a (.publish [p]))
    | _ => none
  | .enqueueGlobal _ =>
    match s.frame a with
    | .active k => some ((s.enqueueGlobal k).setFrame a .broadcast)
    | _ => none
  | .snapshot _ =>
    match s.frame a with
    | .broadcast => some (s.setFrame a (.publish s.activeSnapshot))
    | _ => none
  | .setLatch _ =>
    match s.frame a with
    | .publish [] => some (s.setFrame a .idle)
    | .publish (p :: ps) =>
      if (s.worker p).stage.locked then none
      else some ((s.setWorker p { s.worker p with runCondNotify := false }).setFrame a
        (.notify p ps))
    | _ => none
  | .notifyOne _ =>
    match s.frame a with
    | .notify p ps =>
      some ((s.setWorker p { s.worker p with notified := true }).setFrame a (.publish ps))
    | _ => none
  | _ => none

/-- One step of a worker. -/
@[grind =]
def work (s : State T W) (p : W) : Label T W → Option (State T W)
  | .pull _ =>
    if (s.worker p).stage = .run then
      if (s.worker p).admissionOpen then some (s.goto p (.pull .run 0 0)) else some s
    else none
  | .probe _ =>
    match (s.worker p).stage with
    | .pull c alreadyCount emptyLevels =>
      if goesOn alreadyCount emptyLevels then
        let k := (s.worker p).globalPullPriority
        let x := { s.worker p with globalPullPriority := pullNext k }
        if s.globalQueue k = 0 then
          some (s.setWorker p { x with stage := .pull c alreadyCount (emptyLevels + 1) })
        else
          some ({ s with
            globalQueue := Function.update s.globalQueue k (s.globalQueue k - 1) }.setWorker p
            { x with stage := .pulled c alreadyCount emptyLevels k })
      else none
    | _ => none
  | .admitPulled _ =>
    match (s.worker p).stage with
    | .pulled c alreadyCount emptyLevels k =>
      if (s.worker p).admissionOpen then some (s.keep p k (.pull c (alreadyCount + 1) 0))
      else some (s.keep p k (.pull c alreadyCount (emptyLevels + 1)))
    | _ => none
  | .pullDone _ =>
    match (s.worker p).stage with
    | .pull .run alreadyCount emptyLevels =>
      if goesOn alreadyCount emptyLevels then none else some (s.goto p .run)
    | .pull (.recheck leased) alreadyCount emptyLevels =>
      if goesOn alreadyCount emptyLevels then none
      else if alreadyCount = 0 then some (s.goto p (.recheckLocal leased))
      else some (s.endWait p)
    | _ => none
  | .pick _ =>
    if (s.worker p).stage = .run ∧ (s.worker p).retireRequested = false ∧
        (s.worker p).coroutineQueue ≠ 0 then
      some (s.setWorker p { s.worker p with
        coroutineQueue := (s.worker p).coroutineQueue - 1, stage := .resume })
    else none
  | .ready _ =>
    match (s.worker p).stage, s.frame (.worker p) with
    | .resume, .idle =>
      if (s.worker p).admissionOpen then some (s.keep p coPriorityNormal .run)
      else some ((s.keep p coPriorityNormal (.wake false)).setFrame (.worker p) .broadcast)
    | _, _ => none
  | .parked _ =>
    match (s.worker p).stage, s.frame (.worker p) with
    | .resume, .idle => some (s.goto p .run)
    | _, _ => none
  | .steal _ victim k =>
    if (s.worker p).stage = .run ∧ victim ≠ p ∧ (s.worker victim).coroutineQueue ≠ 0 then
      some ((s.setWorker victim { s.worker victim with
        coroutineQueue := (s.worker victim).coroutineQueue - 1 }).goto p (.stolen k))
    else none
  | .admitStolen _ =>
    match (s.worker p).stage with
    | .stolen k => some (s.keep p k .run)
    | _ => none
  | .waitForWork _ leased =>
    if (s.worker p).stage = .run ∧ (s.worker p).retireRequested = false then
      some (s.goto p (.enter leased))
    else none
  | .lock _ =>
    match (s.worker p).stage with
    | .enter leased =>
      if (s.worker p).admissionOpen then some (s.goto p (.pull (.recheck leased) 0 0))
      else some (s.goto p (.recheckLocal leased))
    | _ => none
  | .recheckLocal _ =>
    match (s.worker p).stage with
    | .recheckLocal leased =>
      if (s.worker p).coroutineQueue = 0 then some (s.goto p (.rechecked leased))
      else some (s.endWait p)
    | _ => none
  | .wait _ =>
    match (s.worker p).stage with
    | .rechecked true =>
      if (s.worker p).runCondNotify then some (s.goto p .driverWait) else some (s.endWait p)
    | .rechecked false =>
      if (s.worker p).due then some (s.endWait p)
      else some (s.setWorker p { s.worker p with notified := false, stage := .waiting })
    | _ => none
  | .wake _ timeout =>
    match (s.worker p).stage with
    | .waiting =>
      if (s.worker p).due || timeout then some (s.endWait p)
      else some (s.setWorker p { s.worker p with notified := false })
    | _ => none
  | .driverReturns _ =>
    match (s.worker p).stage with
    | .driverWait => some (s.goto p .run)
    | _ => none
  | .retire _ =>
    if (s.worker p).stage = .run ∧ (s.worker p).retireRequested = true then
      some (s.goto p .drain)
    else none
  | .drain _ k =>
    if (s.worker p).stage = .drain ∧ (s.worker p).enqueueInflight = 0 ∧
        (s.worker p).coroutineQueue ≠ 0 then
      some ((s.setWorker p { s.worker p with
        coroutineQueue := (s.worker p).coroutineQueue - 1 }).enqueueGlobal k)
    else none
  | .drained _ =>
    match s.frame (.worker p) with
    | .idle =>
      if (s.worker p).stage = .drain ∧ (s.worker p).enqueueInflight = 0 ∧
          (s.worker p).coroutineQueue = 0 then
        some ((s.goto p (.wake true)).setFrame (.worker p) .broadcast)
      else none
    | _ => none
  | .woken _ =>
    match (s.worker p).stage, s.frame (.worker p) with
    | .wake final, .idle => some (s.goto p (if final then .exited else .run))
    | _, _ => none
  | _ => none

/-- One step: an agent that is idle can call, and one that is not goes on. -/
def next (s : State T W) : Label T W → Option (State T W)
  | l@(.expand a _) | l@(.shrink a _) | l@(.publish a _) | l@(.regist a _) | l@(.onActive a _) =>
    match s.frame a with
    | .idle => if s.calls a then call s a l else none
    | _ => none
  | l@(.beginRetire a) | l@(.requestRetire a) | l@(.commit a) | l@(.beginEnqueue a) | l@(.enqueue a)
  | l@(.enqueueGlobal a) | l@(.snapshot a) | l@(.setLatch a) | l@(.notifyOne a) => goOn s a l
  | l@(.pull p) | l@(.probe p) | l@(.admitPulled p) | l@(.pullDone p) | l@(.pick p) | l@(.ready p)
  | l@(.parked p) | l@(.steal p _ _) | l@(.admitStolen p) | l@(.waitForWork p _) | l@(.lock p)
  | l@(.recheckLocal p) | l@(.wait p) | l@(.wake p _) | l@(.driverReturns p) | l@(.retire p)
  | l@(.drain p _) | l@(.drained p) | l@(.woken p) => work s p l

variable (T W) in
/-- The runs from a start, which has published a batch of workers. -/
def system : System (State T W) (Label T W) where
  start s := ∃ ps : List W, ps ≠ [] ∧ s = {
    worker := fun p => if p ∈ ps then .activated else {}
    activeSnapshot := ps }
  next := next

end BbtCoroutine.WaitForWork
