import BbtCoroutine.Scheduler.Model

/-!
# A model of the start of the runtime

`Scheduler::Start`, called by any number of threads in any of its modes.  One attempt creates
a batch of workers, each with a thread of its own that waits at the gate of the batch, then
publishes the batch and lets the threads run; in the thread mode the scheduler thread does this
for the caller, who waits for it.  Each creation of an object or of a thread may fail, and so
may the initialisation of a worker's thread; what was created is then taken back.

A step is what happens under one lock, or one access to what the threads share.  Once the
runtime is initialised the workers are resized and reaped, which may change all there is of
them (`Change`).  `published` and `started` record how many batches were published, and which
callers were told that the runtime has started; no step depends on them.
-/

namespace BbtCoroutine.Start

open Transition Scheduler

/-! ## The state -/

/-- `SchedulerStartOpt`. -/
inductive StartOpt
  | scheThread
  | scheLoop
  | scheNoLoop
  deriving DecidableEq

/-- `StartState`. -/
inductive StartState
  | notStarted
  | starting
  | initialized
  deriving DecidableEq

/-- What has become of a worker. -/
inductive Stage
  | unborn
  /-- The processer is created, its thread is not. -/
  | created
  /-- The thread has not been at the gate. -/
  | starting
  /-- The thread waits at the gate. -/
  | waiting
  | running
  /-- The function of the thread has returned. -/
  | left
  | joined
  /-- The thread could not be created, and the processer was dropped. -/
  | discarded
  deriving DecidableEq

/-- `BatchStartGate`. -/
structure Gate where
  readyNum : ℕ := 0
  failed : Bool := false
  started : Bool := false
  cancel : Bool := false

/-- What `m_sche_thread` points to, and what that thread does. -/
inductive ScheThread
  | null
  /-- It creates the workers, and the caller of `Start` waits for it. -/
  | creating
  | looping
  | returned
  deriving DecidableEq

/-- A batch that is being created: the mode and the bounds of the attempt, the gate and the
records so far. -/
structure Batch where
  opt : StartOpt
  bounds : Config.Bounds
  gate : ℕ
  records : List ProcesserId := []

/-- The number of workers that are needed. -/
def Batch.need (b : Batch) : ℕ :=
  b.bounds.initialNum

/-- The point that a call of `Start` has reached. -/
inductive Pc
  | idle
  /-- The look at `m_start_state`. -/
  | claim (opt : StartOpt) (b : Config.Bounds)
  /-- `_InitGlobalUniqInstance`. -/
  | instances (opt : StartOpt) (b : Config.Bounds)
  /-- `_Init`. -/
  | init (opt : StartOpt) (b : Config.Bounds)
  /-- The scheduler thread is to be created. -/
  | spawn (b : Config.Bounds)
  /-- `_CreateProcessers`. -/
  | lock (opt : StartOpt) (b : Config.Bounds)
  | prepare (opt : StartOpt) (b : Config.Bounds)
  /-- The loop of `_PrepareExpansionLocked`, and the thread of the processer just created. -/
  | create (b : Batch)
  | thread (b : Batch) (p : ProcesserId)
  /-- The wait for the threads. -/
  | ready (b : Batch)
  | publish (b : Batch)
  | activate (b : Batch) (todo : List ProcesserId)
  | startGate (b : Batch)
  /-- The end of `_CreateProcessers`. -/
  | target (opt : StartOpt) (b : Config.Bounds)
  | publishInitialized (opt : StartOpt) (b : Config.Bounds)
  /-- The caller is told. -/
  | report (opt : StartOpt)
  /-- `_Run` on the thread of the caller. -/
  | looping
  /-- The batch has failed; `_CancelBatch` runs without `m_lifecycle_mutex`. -/
  | unlock (b : Batch)
  | cancel (b : Batch)
  | join (opt : StartOpt) (todo : List ProcesserId)
  | relock (opt : StartOpt)
  | fail (opt : StartOpt)
  /-- The scheduler thread is joined and deleted. -/
  | joinSche
  /-- `m_start_state` goes back, and an exception is thrown. -/
  | revert

/-- How a call ends. -/
inductive Outcome
  | returned
  /-- The configuration is not accepted. -/
  | invalidArgument
  /-- The runtime has been started, or is being started. -/
  | alreadyStarted
  | failed
  deriving DecidableEq

/-- The state of the runtime while it is started. -/
structure State (T : Type*) where
  startState : StartState := .notStarted
  initialized : Bool := false
  lifecycleMutex : Option T := none
  scheThread : ScheThread := .null
  /-- `m_active_snapshot`, which is null or a list. -/
  activeSnapshot : List ProcesserId := []
  processerMap : Finset ProcesserId := ∅
  workers : List ProcesserId := []
  targetNum : ℕ := 0
  nextId : ProcesserId := 0
  stage : ProcesserId → Stage := fun _ => .unborn
  lifecycle : ProcesserId → Lifecycle := fun _ => .preparing
  admissionOpen : ProcesserId → Bool := fun _ => false
  /-- The gate of a worker, and the gates. -/
  gateOf : ProcesserId → ℕ := fun _ => 0
  gates : ℕ → Gate := fun _ => {}
  nextGate : ℕ := 0
  pc : T → Pc := fun _ => .idle
  /-- How the last call of a thread has ended. -/
  outcome : T → Option Outcome := fun _ => none
  published : ℕ := 0
  started : List T := []

variable {T : Type*} [DecidableEq T]

namespace State

/-! ## A call of `Start` -/

/-- The call of the thread `c` goes on at `x`. -/
def goto (s : State T) (c : T) (x : Pc) : State T :=
  { s with pc := Function.update s.pc c x }

/-- The call of the thread `c` ends. -/
def ends (s : State T) (c : T) (o : Outcome) : State T :=
  { s with outcome := Function.update s.outcome c (some o) }.goto c .idle

/-- The worker `p` is at `x`. -/
def setStage (s : State T) (p : ProcesserId) (x : Stage) : State T :=
  { s with stage := Function.update s.stage p x }

/-- The gate `g` is `x`. -/
def setGate (s : State T) (g : ℕ) (x : Gate) : State T :=
  { s with gates := Function.update s.gates g x }

/-- `Processer::Create` and `_Init`. -/
def createProcesser (s : State T) : State T :=
  { s with
    nextId := s.nextId + 1
    lifecycle := Function.update s.lifecycle s.nextId .preparing
    admissionOpen := Function.update s.admissionOpen s.nextId false }.setStage s.nextId .created

/-- `_Activate`. -/
def activate (s : State T) (p : ProcesserId) : State T :=
  { s with
    admissionOpen := Function.update s.admissionOpen p true
    lifecycle := Function.update s.lifecycle p .active }

/-- The batch is published. -/
def publish (s : State T) (records : List ProcesserId) : State T :=
  { s with
    processerMap := s.processerMap ∪ records.toFinset
    activeSnapshot := s.activeSnapshot ++ records
    workers := s.workers ++ records
    published := s.published + 1 }

/-- `_Init`. -/
def init (s : State T) (b : Config.Bounds) : State T :=
  { s with
    activeSnapshot := []
    processerMap := ∅
    workers := []
    targetNum := b.initialNum }

/-- The loop of `_PrepareExpansionLocked`. -/
def create (s : State T) (c : T) (b : Batch) (fault : Bool) : State T :=
  if b.records.length = b.need then s.goto c (.ready b)
  else if fault then s.goto c (.unlock b)
  else s.createProcesser.goto c (.thread b s.nextId)

/-- The thread of a worker is created, or its processer is dropped. -/
def thread (s : State T) (c : T) (b : Batch) (p : ProcesserId) (fault : Bool) : State T :=
  if fault then (s.setStage p .discarded).goto c (.unlock b)
  else
    { s with gateOf := Function.update s.gateOf p b.gate }.setStage p .starting |>.goto c
      (.create { b with records := b.records ++ [p] })

/-- The end of a successful attempt. -/
def report (s : State T) (c : T) : StartOpt → State T
  | .scheThread => { s with scheThread := .looping, started := s.started ++ [c] }.ends c .returned
  | .scheLoop => { s with started := s.started ++ [c] }.goto c .looping
  | .scheNoLoop => { s with started := s.started ++ [c] }.ends c .returned

/-- `_CreateProcessers` has returned `false`. -/
def fail (s : State T) (c : T) : StartOpt → State T
  | .scheThread => { s with lifecycleMutex := none, scheThread := .returned }.goto c .joinSche
  | _ => { s with lifecycleMutex := none }.goto c .revert

/-- What the thread `c` does next in its call. -/
def step (s : State T) (c : T) (fault : Bool) : Option (State T) :=
  match s.pc c with
  | .idle | .looping => none
  | .claim opt b =>
    if s.startState = .notStarted then
      some ({ s with startState := .starting }.goto c (.instances opt b))
    else some (s.ends c .alreadyStarted)
  | .instances opt b => if fault then some (s.goto c .revert) else some (s.goto c (.init opt b))
  | .init opt b =>
    if fault then some ({ s with scheThread := .null }.goto c .revert)
    else some (({ s with scheThread := .null }.init b).goto c
      (if opt = StartOpt.scheThread then .spawn b else .lock opt b))
  | .spawn b =>
    if fault then some (s.goto c .revert)
    else some ({ s with scheThread := .creating }.goto c (.lock .scheThread b))
  | .lock opt b =>
    if s.lifecycleMutex = none then
      some ({ s with lifecycleMutex := some c }.goto c (.prepare opt b))
    else none
  | .prepare opt b =>
    if b.initialNum = 0 then some (s.goto c (.target opt b))
    else if fault then some (s.goto c (.fail opt))
    else some ({ s with nextGate := s.nextGate + 1 }.setGate s.nextGate {} |>.goto c
      (.create { opt, bounds := b, gate := s.nextGate }))
  | .create b => some (s.create c b fault)
  | .thread b p => some (s.thread c b p fault)
  | .ready b =>
    if (s.gates b.gate).readyNum = b.need then
      some (s.goto c (if (s.gates b.gate).failed then .unlock b else .publish b))
    else none
  | .publish b =>
    if fault then some (s.goto c (.unlock b))
    else some ((s.publish b.records).goto c (.activate b b.records))
  | .activate b [] => some (s.goto c (.startGate b))
  | .activate b (p :: todo) => some ((s.activate p).goto c (.activate b todo))
  | .startGate b =>
    some ((s.setGate b.gate { s.gates b.gate with started := true }).goto c
      (.target b.opt b.bounds))
  | .target opt b =>
    some ({ s with targetNum := b.initialNum, lifecycleMutex := none }.goto c
      (.publishInitialized opt b))
  | .publishInitialized opt _ => some ({ s with initialized := true }.goto c (.report opt))
  | .report opt => some (s.report c opt)
  | .unlock b => some ({ s with lifecycleMutex := none }.goto c (.cancel b))
  | .cancel b =>
    some ((s.setGate b.gate { s.gates b.gate with cancel := true }).goto c (.join b.opt b.records))
  | .join opt [] => some (s.goto c (.relock opt))
  | .join opt (p :: todo) =>
    if s.stage p = .left then some ((s.setStage p .joined).goto c (.join opt todo)) else none
  | .relock opt =>
    if s.lifecycleMutex = none then
      some ({ s with lifecycleMutex := some c }.goto c (.fail opt))
    else none
  | .fail opt => some (s.fail c opt)
  | .joinSche => some ({ s with scheThread := .null }.goto c .revert)
  | .revert => some ({ s with startState := .notStarted }.ends c .failed)

/-! ## The threads of the workers -/

/-- What the thread of the worker `p` does next in `_WorkerMain`. -/
def work (s : State T) (p : ProcesserId) (fault : Bool) : Option (State T) :=
  let g := s.gates (s.gateOf p)
  match s.stage p with
  | .starting =>
    let g' := { g with readyNum := g.readyNum + 1, failed := g.failed || fault }
    some ((s.setGate (s.gateOf p) g').setStage p (if fault then .left else .waiting))
  | .waiting =>
    if g.cancel then some (s.setStage p .left)
    else if g.started then some (s.setStage p .running)
    else none
  | _ => none

end State

/-! ## The system -/

/-- What the worker set may become once the runtime is initialised. -/
structure Change where
  activeSnapshot : List ProcesserId
  processerMap : Finset ProcesserId
  workers : List ProcesserId
  targetNum : ℕ
  nextId : ProcesserId
  stage : ProcesserId → Stage
  lifecycle : ProcesserId → Lifecycle
  admissionOpen : ProcesserId → Bool

/-- The steps of the system; `fault` says that what is tried in the step fails. -/
inductive Label (T : Type*)
  | call (c : T) (opt : StartOpt) (cfg : Config)
  | step (c : T) (fault : Bool)
  | work (p : ProcesserId) (fault : Bool)
  | change (x : Change)

/-- A thread calls `Start`. -/
def call (s : State T) (c : T) (opt : StartOpt) (cfg : Config) : State T :=
  match cfg.resolveProcesserScalingBounds with
  | none => s.ends c .invalidArgument
  | some b => s.goto c (.claim opt b)

/-- One step of the system. -/
def next (s : State T) : Label T → Option (State T)
  | .call c opt cfg =>
    match s.pc c with
    | .idle => some (call s c opt cfg)
    | _ => none
  | .step c fault => s.step c fault
  | .work p fault => s.work p fault
  | .change x =>
    if s.initialized then
      some { s with
        activeSnapshot := x.activeSnapshot
        processerMap := x.processerMap
        workers := x.workers
        targetNum := x.targetNum
        nextId := x.nextId
        stage := x.stage
        lifecycle := x.lifecycle
        admissionOpen := x.admissionOpen }
    else none

/-- The transition system of the start. -/
def system (T : Type*) [DecidableEq T] : System (State T) (Label T) where
  start s := s = {}
  next := next

end BbtCoroutine.Start
