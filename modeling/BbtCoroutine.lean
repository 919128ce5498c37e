import BbtCoroutine.Transition.System
import BbtCoroutine.CoPollEvent.Status
import BbtCoroutine.CoPollEvent.Model
import BbtCoroutine.CoPollEvent.OneShot
import BbtCoroutine.CoPollEvent.Round
import BbtCoroutine.Sync.CoWaiter
import BbtCoroutine.Sync.WaitQueue
import BbtCoroutine.CoRWMutex.Model
import BbtCoroutine.CoRWMutex.Steps
import BbtCoroutine.CoRWMutex.Exclusion
import BbtCoroutine.CoRWMutex.Queue
import BbtCoroutine.CoRWMutex.Progress
import BbtCoroutine.Chan.Model
import BbtCoroutine.Chan.Steps
import BbtCoroutine.Chan.Moves
import BbtCoroutine.Chan.Ledger
import BbtCoroutine.Chan.Waiters
import BbtCoroutine.Chan.Wakeups
import BbtCoroutine.Chan.Select
import BbtCoroutine.Chan.Fifo
import BbtCoroutine.Chan.SelectWakeups
import BbtCoroutine.Scheduler.Config
import BbtCoroutine.Scheduler.Consistent
import BbtCoroutine.Scheduler.AutoScale
import BbtCoroutine.Scheduler.Calm
import BbtCoroutine.Scheduler.Preference
import BbtCoroutine.CoWaiter.Model
import BbtCoroutine.CoWaiter.Pairing
import BbtCoroutine.Coroutine.Cancel
import BbtCoroutine.Driver.Model
import BbtCoroutine.Driver.Protocol
import BbtCoroutine.BoundedWait.Armed
import BbtCoroutine.CoPool.Blocked
import BbtCoroutine.CoPool.Settled
import BbtCoroutine.DnsResolver.Contained
import BbtCoroutine.FiniteMap.Total
import BbtCoroutine.Hook.Poll
import BbtCoroutine.Hook.Select
import BbtCoroutine.Hook.Timeout
import BbtCoroutine.NoCacheChan.Atomic
import BbtCoroutine.Scheduler.Shrink
import BbtCoroutine.StackPool.Accounting
import BbtCoroutine.StackPool.Exact
import BbtCoroutine.HookClose.Once
import BbtCoroutine.FdWait.Epoch
import BbtCoroutine.Cfs.Accounts
import BbtCoroutine.CoMutex.Excludes
import BbtCoroutine.CoEventValue.TypeSafe
import BbtCoroutine.Pollevent.Construct
import BbtCoroutine.Pollevent.Isolated
import BbtCoroutine.Pollevent.OneDelivery
import BbtCoroutine.WaitStatus.Named
import BbtCoroutine.Establish.Atomic
import BbtCoroutine.WorkerBoundary.Contained
import BbtCoroutine.Cfs.PickOrder
import BbtCoroutine.GlobalPull.Fair
import BbtCoroutine.Hook.Duration
import BbtCoroutine.HookIo.Expiry
import BbtCoroutine.HookIo.Complete
import BbtCoroutine.HookIo.Outside
import BbtCoroutine.TwoQueueChan.Fifo
import BbtCoroutine.ProcesserDrivers.Deadlock
import BbtCoroutine.CoPoller.Release
import BbtCoroutine.CountDownLatch.Truthful
import BbtCoroutine.WakeDeferral.Lossless
import BbtCoroutine.StackBudget.Verdict
import BbtCoroutine.ObjectManager.Exact
import BbtCoroutine.WaitForWork.NoneMissed
import BbtCoroutine.CoCond.Notifies
import BbtCoroutine.OnYield.RunsOnce
import BbtCoroutine.Transition.Object
import BbtCoroutine.Chan.Linearizable
import BbtCoroutine.CoMutex.Linearizable
import BbtCoroutine.CoRWMutex.Linearizable
import BbtCoroutine.Transition.Placement
import BbtCoroutine.Circulation.Conserved
import BbtCoroutine.Start.Atomic
import BbtCoroutine.OnYield.Passes
import BbtCoroutine.EventHelper.Once
