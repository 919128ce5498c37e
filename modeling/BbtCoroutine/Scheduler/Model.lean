import BbtCoroutine.Scheduler.Config
import BbtCoroutine.Transition.System
import Mathlib.Data.Finset.Lattice.Basic

/-!
# A model of the worker set of `Scheduler`

The resizing entry points, the automatic ticks, the bindings of drivers and the reaper,
called by any number of threads.  `m_lifecycle_mutex` serialises what resizes, so what a
call does under it is one step; a call that fails to create a batch lets go of it while
the batch is cancelled, and is two steps.  The reaper takes `m_processer_map_mutex` only
and is one step for each record that it claims, joins, marks and erases.  A worker that
retires publishes `Exited`, and its thread ends some time later.

`joins` counts how often the thread of a record was joined, and `upLog` and `downLog` are
the loads sampled since the hits of a direction were last reset, the newest first.  No step
depends on any of them.
-/

namespace BbtCoroutine.Scheduler

open Transition

/-- `ProcesserId`. -/
abbrev ProcesserId := ℕ

/-- `ProcesserScalingMode`. -/
inductive ScalingMode
  | manual
  | auto
  deriving DecidableEq

/-- `ProcesserLifecycleState`. -/
inductive Lifecycle
  | preparing
  | active
  | retiring
  | exited
  | joined
  deriving DecidableEq

/-- `ProcesserResizeResult`. -/
inductive ResizeResult
  | ok
  | pending
  | notInitialized
  | invalidTarget
  | driverBound
  | createFailed
  | selfRetire
  | busy
  deriving DecidableEq

/-- `ScalingLoad`. -/
structure ScalingLoad where
  queueTotal : ℕ
  busyPercent : ℕ
  deriving DecidableEq

/-- `WorkerRecord`. -/
structure WorkerRecord where
  processer : ProcesserId
  claimed : Bool := false
  threadExited : Bool := false
  joins : ℕ := 0
  deriving DecidableEq

/-- `kMaxOutstandingRetire`. -/
def maxOutstandingRetire : ℕ := 32

/-- `kMaxReapPerTick`. -/
def maxReapPerTick : ℕ := 8

/-- Who resizes: a manual request, or a tick in one of its directions. -/
inductive Resizer
  | manual
  | up
  | down
  deriving DecidableEq

/-- The point that the call of a thread has reached. -/
inductive Call
  | idle
  /-- `_AutoScaleTick` has passed its gate. -/
  | tick
  /-- `_CancelBatch` runs for a batch that could not be created. -/
  | cancelBatch (who : Resizer) (batch : List ProcesserId)
  | reap (reaped : ℕ)
  | join (reaped : ℕ) (id : ProcesserId)
  | markJoined (reaped : ℕ) (id : ProcesserId)
  | erase (reaped : ℕ) (id : ProcesserId)
  deriving DecidableEq

/-- What fails while a batch is prepared. -/
inductive PrepareFault
  /-- The processer of the given place cannot be created. -/
  | processer (i : ℕ)
  /-- The thread of the given place cannot be created. -/
  | thread (i : ℕ)
  /-- A thread fails to initialise. -/
  | ready
  /-- The new map or the new snapshot cannot be allocated. -/
  | publish
  deriving DecidableEq

/-- What a resizing call meets. -/
structure Resizing where
  /-- The processer of the calling thread. -/
  self : Option ProcesserId := none
  prepareFault : Option PrepareFault := none
  /-- An allocation fails while a batch is selected. -/
  shrinkThrows : Bool := false

/-- What a sample reads: the sizes of the global queues, and of each worker its runnable
coroutines and whether it is busy. -/
structure Readings where
  globalSizes : List ℕ := []
  executable : ProcesserId → ℕ := fun _ => 0
  busy : ProcesserId → Bool := fun _ => false

/-- The state of the worker set. -/
structure State (T : Type*) where
  initialized : Bool := false
  minNum : ℕ := 1
  maxNum : ℕ := 1
  targetNum : ℕ := 0
  scalingMode : ScalingMode := .manual
  scaleUpHits : ℕ := 0
  scaleDownHits : ℕ := 0
  lastAutoSample : ℤ := 0
  processerMap : Finset ProcesserId := ∅
  activeSnapshot : List ProcesserId := []
  workers : List WorkerRecord := []
  lifecycle : ProcesserId → Lifecycle := fun _ => .preparing
  /-- `m_driver_binding` is not null. -/
  driverBound : ProcesserId → Bool := fun _ => false
  nextId : ProcesserId := 0
  call : T → Call := fun _ => .idle
  upLog : List ScalingLoad := []
  downLog : List ScalingLoad := []

/-- How `_ApplyTargetLocked` ends. -/
inductive Applied (T : Type*)
  | returned (s : State T) (r : ResizeResult)
  /-- The batch is cancelled without the lifecycle mutex; then the result is `CreateFailed`. -/
  | cancel (s : State T) (batch : List ProcesserId)

namespace State

variable {T : Type*}

/-! ## Resizing -/

/-- The lifecycle of the given processers becomes `l`. -/
def setLifecycle (s : State T) (ids : List ProcesserId) (l : Lifecycle) : State T :=
  { s with lifecycle := fun p => if p ∈ ids then l else s.lifecycle p }

/-- A processer is created in the state `Preparing`. -/
def createProcesser (s : State T) : State T :=
  { s with nextId := s.nextId + 1 }.setLifecycle [s.nextId] .preparing

/-- The loop of `_PrepareExpansionLocked` with the records created so far, for `k` more
workers; the flag says whether it ends without an exception. -/
def createBatch (f : Option PrepareFault) :
    ℕ → State T → List WorkerRecord → State T × List WorkerRecord × Bool
  | 0, s, records => (s, records, true)
  | k + 1, s, records =>
    if f = some (.processer records.length) then (s, records, false)
    else if f = some (.thread records.length) then (s.createProcesser, records, false)
    else createBatch f k s.createProcesser (records ++ [{ processer := s.nextId }])

/-- The batch is published and activated. -/
def publish (s : State T) (records : List WorkerRecord) : State T :=
  let ids := records.map WorkerRecord.processer
  { s with
    processerMap := s.processerMap ∪ ids.toFinset
    activeSnapshot := s.activeSnapshot ++ ids
    workers := s.workers ++ records }.setLifecycle ids .active

/-- `_PrepareExpansionLocked`, for a batch that is not empty. -/
def prepareExpansion (s : State T) (need : ℕ) (f : Option PrepareFault) : Applied T :=
  match createBatch f need s [] with
  | (s', records, created) =>
    if created = true ∧ f ≠ some .ready ∧ f ≠ some .publish then .returned (s'.publish records) .ok
    else .cancel s' (records.map WorkerRecord.processer)

/-- `_CountOutstandingRetireLocked`. -/
def countOutstandingRetire (s : State T) : ℕ :=
  s.workers.countP fun r =>
    s.lifecycle r.processer = .retiring ∨ s.lifecycle r.processer = .exited

/-- The active processers without a driver. -/
def candidates (s : State T) : List ProcesserId :=
  s.activeSnapshot.filter fun p => s.lifecycle p = .active ∧ s.driverBound p = false

/-- The processers that a batch of `need` retires. -/
def selected (s : State T) (need : ℕ) (self : Option ProcesserId) : List ProcesserId :=
  (s.candidates.filter fun p => self ≠ some p).take need

/-- The selected processers leave the active set and retire. -/
def retire (s : State T) (ids : List ProcesserId) (target : ℕ) : State T :=
  { s with
    processerMap := s.processerMap \ ids.toFinset
    activeSnapshot := s.activeSnapshot.filter (· ∉ ids)
    targetNum := target }.setLifecycle ids .retiring

/-- `_CommitShrinkLocked`. -/
def commitShrink (s : State T) (need target : ℕ) (e : Resizing) : State T × ResizeResult :=
  if e.shrinkThrows then (s, .busy)
  else if s.candidates.length < need then (s, .driverBound)
  else if (s.selected need e.self).length < need then (s, .selfRetire)
  else if maxOutstandingRetire < sizeAdd s.countOutstandingRetire need then (s, .busy)
  else (s.retire (s.selected need e.self) target, .pending)

/-- `_ApplyTargetLocked`. -/
def applyTarget (s : State T) (target : ℕ) (e : Resizing) : Applied T :=
  let active := s.activeSnapshot.length
  if active < target then
    match s.prepareExpansion (sizeSub target active) e.prepareFault with
    | .returned s' _ => .returned { s' with targetNum := target } .ok
    | .cancel s' batch => .cancel s' batch
  else if target < active then
    let r := s.commitShrink (sizeSub active target) target e
    .returned r.1 r.2
  else .returned { s with targetNum := target } .ok

/-- The hits of the direction `up` are reset. -/
def resetUp (s : State T) : State T :=
  { s with scaleUpHits := 0, upLog := [] }

/-- The hits of the direction `down` are reset. -/
def resetDown (s : State T) : State T :=
  { s with scaleDownHits := 0, downLog := [] }

/-- `_ResetScalingSamplesLocked`. -/
def resetScalingSamples (s : State T) (now : ℤ) : State T :=
  { s.resetUp.resetDown with lastAutoSample := now }

section Calls

variable [DecidableEq T]

/-- The call of `t` goes on at `c`. -/
def goto (s : State T) (t : T) (c : Call) : State T :=
  { s with call := Function.update s.call t c }

/-! ## Manual requests -/

/-- `SetProcesserNum` up to its reaping, with its result; a batch that cannot be created has none
yet. -/
def setProcesserNum (s : State T) (t : T) (num : ℕ) (now : ℤ) (e : Resizing) :
    State T × Option ResizeResult :=
  if s.initialized = false then (s, some .notInitialized)
  else if num < s.minNum ∨ s.maxNum < num then (s, some .invalidTarget)
  else
    match s.applyTarget num e with
    | .returned s' r =>
      if r = .ok ∨ r = .pending then
        (({ s' with scalingMode := .manual }.resetScalingSamples now).goto t (.reap 0), some r)
      else (s'.goto t (.reap 0), some r)
    | .cancel s' batch => (s'.goto t (.cancelBatch .manual batch), none)

/-- `SetProcesserAutoScale`. -/
def setProcesserAutoScale (s : State T) (enable : Bool) (now : ℤ) : State T × ResizeResult :=
  if s.initialized = false then (s, .notInitialized)
  else
    ({ s with scalingMode := if enable then .auto else .manual }.resetScalingSamples now, .ok)

/-! ## Automatic ticks -/

/-- `AdvanceHits`. -/
def advanceHits (hits : ℕ) (hit : Bool) (samples : ℕ) : ℕ :=
  if hit = false then 0 else if hits < samples then sizeAdd hits 1 else hits

end Calls

end State

namespace Config

/-- The load asks for more workers. -/
def upHit (cfg : Config) (load : ScalingLoad) : Bool :=
  cfg.scaleUpQueueWatermark ≤ load.queueTotal ∨ cfg.scaleUpBusyPercent ≤ load.busyPercent

/-- The load asks for fewer workers. -/
def downHit (cfg : Config) (load : ScalingLoad) : Bool :=
  load.queueTotal ≤ cfg.scaleDownQueueWatermark ∧ load.busyPercent ≤ cfg.scaleDownBusyPercent

end Config

namespace State

variable {T : Type*} [DecidableEq T]

/-- `_ClaimAutoSampleLocked`. -/
def claimAutoSample (s : State T) (cfg : Config) (now : ℤ) : Option (State T) :=
  if s.scalingMode ≠ .auto then none
  else if now - s.lastAutoSample < nanoseconds cfg.scaleIntervalMs then none
  else some { s with lastAutoSample := now }

/-- `_SampleScalingLoadLocked`. -/
def sampleScalingLoad (s : State T) (r : Readings) : Option ScalingLoad :=
  if s.activeSnapshot = [] then none
  else
    some
      { queueTotal := (r.globalSizes ++ s.activeSnapshot.map r.executable).foldl sizeAdd 0
        busyPercent := sizeMul (s.activeSnapshot.countP r.busy) 100 / s.activeSnapshot.length }

/-- `_AccumulateScalingHitsLocked`. -/
def accumulateScalingHits (s : State T) (cfg : Config) (load : ScalingLoad) : State T :=
  { s with
    scaleUpHits := advanceHits s.scaleUpHits (cfg.upHit load) cfg.scaleUpSamples
    scaleDownHits := advanceHits s.scaleDownHits (cfg.downHit load) cfg.scaleDownSamples
    upLog := load :: s.upLog
    downLog := load :: s.downLog }

/-- The target of a batch of more workers. -/
def nextUp (s : State T) (cfg : Config) : ℕ :=
  let remain := sizeSub s.maxNum s.targetNum
  if remain ≤ cfg.scaleStep then s.maxNum else sizeAdd s.targetNum cfg.scaleStep

/-- The target of a batch of fewer workers. -/
def nextDown (s : State T) (cfg : Config) : ℕ :=
  let remain := sizeSub s.targetNum s.minNum
  if remain ≤ cfg.scaleStep then s.minNum else sizeSub s.targetNum cfg.scaleStep

/-- `_ScaleUpOneStepLocked`. -/
def scaleUpOneStep (s : State T) (cfg : Config) (t : T) (e : Resizing) : State T :=
  if s.maxNum ≤ s.targetNum then s.resetUp.goto t .idle
  else
    match s.applyTarget (s.nextUp cfg) e with
    | .returned s' r =>
      if r = .ok then s'.resetUp.resetDown.goto t .idle else s'.resetUp.goto t .idle
    | .cancel s' batch => s'.goto t (.cancelBatch .up batch)

/-- `_ScaleDownOneStepLocked`. -/
def scaleDownOneStep (s : State T) (cfg : Config) (t : T) (e : Resizing) : State T :=
  if s.targetNum ≤ s.minNum then s.resetDown.goto t .idle
  else
    match s.applyTarget (s.nextDown cfg) e with
    | .returned s' r =>
      if r = .ok ∨ r = .pending then s'.resetUp.resetDown.goto t .idle
      else s'.resetDown.goto t .idle
    | .cancel s' batch => s'.goto t (.cancelBatch .down batch)

/-- `_ApplyScalingDecisionLocked`. -/
def applyScalingDecision (s : State T) (cfg : Config) (t : T) (e : Resizing) : State T :=
  if cfg.scaleUpSamples ≤ s.scaleUpHits then s.scaleUpOneStep cfg t e
  else if cfg.scaleDownSamples ≤ s.scaleDownHits then s.scaleDownOneStep cfg t e
  else s.goto t .idle

/-- The part of `_AutoScaleTick` under the lifecycle mutex. -/
def autoScaleTick (s : State T) (cfg : Config) (t : T) (now : ℤ) (r : Readings) (e : Resizing) :
    State T :=
  match s.claimAutoSample cfg now with
  | none => s.goto t .idle
  | some s' =>
    match s'.sampleScalingLoad r with
    | none => s'.goto t .idle
    | some load => (s'.accumulateScalingHits cfg load).applyScalingDecision cfg t e

/-- The batch is cancelled and the lifecycle mutex held again. -/
def batchCancelled (s : State T) (t : T) : Resizer → State T
  | .manual => s.goto t (.reap 0)
  | .up => s.resetUp.goto t .idle
  | .down => s.resetDown.goto t .idle

/-! ## Workers and the reaper -/

/-- The record of the processer `id` becomes `f` of it. -/
def updateRecord (s : State T) (id : ProcesserId) (f : WorkerRecord → WorkerRecord) : State T :=
  { s with workers := s.workers.map fun r => if r.processer = id then f r else r }

/-- The record may be claimed by a reaper. -/
def claimable (s : State T) (r : WorkerRecord) : Bool :=
  r.claimed = false ∧ s.lifecycle r.processer = .exited ∧ r.threadExited = true

/-- The next step of a call; `joins` says whether a join succeeds. -/
def step (s : State T) (t : T) (joins : Bool) : Option (State T) :=
  match s.call t with
  | .cancelBatch who _ => some (s.batchCancelled t who)
  | .reap n =>
    if n < maxReapPerTick then
      match s.workers.find? s.claimable with
      | some r =>
        some ((s.updateRecord r.processer fun r => { r with claimed := true }).goto t
          (.join n r.processer))
      | none => some (s.goto t .idle)
    else some (s.goto t .idle)
  | .join n id =>
    if joins then
      some ((s.updateRecord id fun r => { r with joins := r.joins + 1 }).goto t (.markJoined n id))
    else some ((s.updateRecord id fun r => { r with claimed := false }).goto t .idle)
  | .markJoined n id => some ((s.setLifecycle [id] .joined).goto t (.erase n id))
  | .erase n id =>
    some ({ s with workers := s.workers.filter (·.processer ≠ id) }.goto t (.reap (n + 1)))
  | _ => none

/-- `_Init`, in `Start`. -/
def init (s : State T) (cfg : Config) (b : Config.Bounds) (now : ℤ) : State T :=
  { s with
    activeSnapshot := []
    processerMap := ∅
    workers := []
    minNum := b.minNum
    maxNum := b.maxNum
    targetNum := b.initialNum
    scalingMode := if cfg.processerAutoScale then .auto else .manual }.resetScalingSamples now

/-- `Start`: the initial batch is published, or a failed start may be repeated. -/
def start (s : State T) (cfg : Config) (b : Config.Bounds) (now : ℤ) (f : Option PrepareFault) :
    State T :=
  match (s.init cfg b now).prepareExpansion b.initialNum f with
  | .returned s' _ => { s' with targetNum := b.initialNum, initialized := true }
  | .cancel s' _ => s'

end State

/-! ## The system -/

/-- The steps of the system. -/
inductive Label (T : Type*)
  | start (now : ℤ) (f : Option PrepareFault)
  | setProcesserNum (t : T) (num : ℕ) (now : ℤ) (e : Resizing)
  | setProcesserAutoScale (enable : Bool) (now : ℤ)
  /-- `_AutoScaleTick` reads the mode without a lock. -/
  | tickGate (t : T)
  | tick (t : T) (now : ℤ) (r : Readings) (e : Resizing)
  | reap (t : T)
  | run (t : T) (joins : Bool)
  | registerDriver (p : ProcesserId)
  /-- The last step of `UnregisterProcesserDriver` empties the slot. -/
  | unregisterDriver (p : ProcesserId)
  /-- The worker has drained its queues. -/
  | workerExit (p : ProcesserId)
  /-- The thread of the worker has ended. -/
  | threadExit (p : ProcesserId)

variable {T : Type*} [DecidableEq T]

/-- One step of the system. -/
def next (cfg : Config) (s : State T) : Label T → Option (State T)
  | .start now f =>
    if s.initialized then none
    else cfg.resolveProcesserScalingBounds.map fun b => s.start cfg b now f
  | .setProcesserNum t num now e =>
    if s.call t = .idle then some (s.setProcesserNum t num now e).1 else none
  | .setProcesserAutoScale enable now => some (s.setProcesserAutoScale enable now).1
  | .tickGate t =>
    if s.call t = .idle then
      some (if s.initialized = true ∧ s.scalingMode = .auto then s.goto t .tick else s)
    else none
  | .tick t now r e => if s.call t = .tick then some (s.autoScaleTick cfg t now r e) else none
  | .reap t =>
    if s.call t = .idle then some (if s.initialized then s.goto t (.reap 0) else s) else none
  | .run t joins => s.step t joins
  | .registerDriver p =>
    if s.initialized = true ∧ p ∈ s.processerMap ∧ s.lifecycle p = .active ∧
        s.driverBound p = false then
      some { s with driverBound := Function.update s.driverBound p true }
    else none
  | .unregisterDriver p =>
    if s.driverBound p then some { s with driverBound := Function.update s.driverBound p false }
    else none
  | .workerExit p =>
    if s.lifecycle p = .retiring then some (s.setLifecycle [p] .exited) else none
  | .threadExit p =>
    if s.lifecycle p = .exited then
      some (s.updateRecord p fun r => { r with threadExited := true })
    else none

/-- The transition system of the worker set under a configuration. -/
def system (T : Type*) [DecidableEq T] (cfg : Config) : System (State T) (Label T) where
  start s := s = {}
  next := next cfg

end BbtCoroutine.Scheduler
