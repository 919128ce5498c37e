import BbtCoroutine.Chan.Model

/-!
# What a step of a coroutine does to the channels

`Plan s c p a p'` lists what the coroutine `c` may do at the point `p`: the act `a`, and
the point `p'` where it goes on.  `State.plan_cases` says that the list is complete; the
invariants of the channels are proved by cases on it.

The rest describes the acts: what becomes of the members of the channels, and that the
wait records of other coroutines are at most decided.
-/

namespace BbtCoroutine.Chan

variable {Co Ch α : Type*}

/-! ## The moves of an operation -/

/-- The critical sections with the loop of a write; only the first one follows a check of
`IsClosed` under the mutex. -/
inductive WriteSection (s : State Co Ch α) (op : WriteOp) (ch : Ch) (item : α) : Pc Ch α → Prop
  | writeLock (ho : (s.chan ch).isClosed = false) :
      WriteSection s op ch item (.writeLock op ch item)
  | writeRelock : WriteSection s op ch item (.writeRelock op ch item)

/-- The critical sections with the loop of a read. -/
inductive ReadSection (op : ReadOp) (ch : Ch) : Pc Ch α → Prop
  | readLock : ReadSection op ch (.readLock op ch)
  | readRelock (ret : ℤ) : ReadSection op ch (.readRelock op ch ret)

/-- The points of `Read` between its exchange of the flag and its loop. -/
def Pc.readBegun (ch : Ch) : Pc Ch α → Prop
  | .readClosed ch' | .readClosedLock ch' | .readLock _ ch' => ch' = ch
  | _ => False

/-- The moves of the coroutine `c`. -/
inductive Plan (s : State Co Ch α) (c : Co) : Pc Ch α → Act Ch α → Pc Ch α → Prop
  | returned (ret : Ret Ch α) : Plan s c (.returned ret) .skip .idle
  -- writes
  | writeClosed {op : WriteOp} {ch : Ch} {item : α} {p : Pc Ch α}
      (hp : p = .writeCheck op ch item ∨ p = .writeLock op ch item ∨ p = .writeRecheck op ch item)
      (hc : (s.chan ch).isClosed = true) :
      Plan s c p .skip (.returned (.write op ch item (-1) none))
  | writeOpen {op : WriteOp} {ch : Ch} {item : α} :
      Plan s c (.writeCheck op ch item) .skip (.writeLock op ch item)
  | writeAgain {op : WriteOp} {ch : Ch} {item : α} :
      Plan s c (.writeRecheck op ch item) .skip (.writeRelock op ch item)
  | writeRefused {op : WriteOp} {ch : Ch} {item : α} {p : Pc Ch α} {r : ℤ}
      (hp : WriteSection s op ch item p) (hf : (s.chan ch).full = true) (hr : r ≠ 0) :
      Plan s c p .skip (.returned (.write op ch item r none))
  | writeWait {op : WriteOp} {ch : Ch} {item : α} {p : Pc Ch α} (hp : WriteSection s op ch item p)
      (hf : (s.chan ch).full = true) : Plan s c p .skip (.prepare (.write op ch item))
  | writePush {op : WriteOp} {ch : Ch} {item : α} {p : Pc Ch α} (hp : WriteSection s op ch item p)
      (hf : (s.chan ch).full = false) : Plan s c p (.push ch item)
        (.returned (.write op ch item 0 (some (s.chan ch).pushed.length)))
  | writeCallback {op : WriteOp} {ch : Ch} {item : α} :
      Plan s c (.writeCallback op ch item) (.registerEnableWriteCond ch)
        (.commit (.write op ch item))
  -- reads
  | readRefused {op : ReadOp} {ch : Ch} {p : Pc Ch α} {r : ℤ}
      (hp : p = .readCheck op ch ∨ p = .readFlag op ch) (hr : r ≠ 0) :
      Plan s c p .skip (.returned (.read op ch r []))
  | readOpen {op : ReadOp} {ch : Ch} : Plan s c (.readCheck op ch) .skip (.readFlag op ch)
  | readFlag {op : ReadOp} {ch : Ch} {p : Pc Ch α} (hf : (s.chan ch).isReading = false)
      (hp : p.readBegun ch) : Plan s c (.readFlag op ch) (.setReading ch true) p
  | readGoesOn {ch : Ch} {p p' : Pc Ch α} (hp : p.readBegun ch) (hp' : p'.readBegun ch) :
      Plan s c p .skip p'
  | readFails {op : ReadOp} {ch : Ch} {p : Pc Ch α} {r : ℤ}
      (hp : p = .readClosedLock ch ∨ ReadSection op ch p) (hr : r ≠ 0) :
      Plan s c p .skip (.readRelease ch (.read op ch r []))
  | readWait {op : ReadOp} {ch : Ch} {p : Pc Ch α} (hp : ReadSection op ch p)
      (hi : (s.chan ch).itemQueue = []) (hc : (s.chan ch).isClosed = false) :
      Plan s c p .skip (.prepare (.read op ch))
  | readPop {op : ReadOp} {ch : Ch} {p : Pc Ch α} {item : α} {items : List α}
      (hp : ReadSection op ch p) (hi : (s.chan ch).itemQueue = item :: items) :
      Plan s c p (.pop ch) (.readRelease ch (.read op ch 0 [item]))
  | readPopAll {op : ReadOp} {ch : Ch} {p : Pc Ch α} (hp : ReadSection op ch p)
      (hi : (s.chan ch).itemQueue ≠ []) :
      Plan s c p (.popAll ch) (.readRelease ch (.read op ch 0 (s.chan ch).itemQueue))
  | readCallback {op : ReadOp} {ch : Ch} :
      Plan s c (.readCallback op ch) (.recheckEnableRead ch) (.commit (.read op ch))
  | readRelease {ch : Ch} {ret : Ret Ch α} :
      Plan s c (.readRelease ch ret) (.setReading ch false) (.returned ret)
  -- `Close`
  | closeCheck {ch : Ch} {p : Pc Ch α} (hp : p = .returned (.close ch) ∨ p = .closeLock ch) :
      Plan s c (.closeCheck ch) .skip p
  | close {ch : Ch} : Plan s c (.closeLock ch) (.close ch) (.returned (.close ch))
  -- `CoSelect::Run`
  | selClosed {run : Run Ch α} {pass : Pass} {i : ℕ} {case : Case Ch α} {p : Pc Ch α}
      (hi : run.cases[i]? = some case) (hc : (s.chan case.ch).isClosed = true)
      (hp : p = .selTry run pass i ∨ p = .selLock run pass i ∧ ∃ ch val, case = .write ch val) :
      Plan s c p .skip (finishPass run pass (some i))
  | selRead {run : Run Ch α} {pass : Pass} {i : ℕ} {ch : Ch}
      (hi : run.cases[i]? = some (.read ch)) (hc : (s.chan ch).isClosed = false) :
      Plan s c (.selTry run pass i) .skip (.selFlag run pass i)
  | selWrite {run : Run Ch α} {pass : Pass} {i : ℕ} {ch : Ch} {val : α}
      (hi : run.cases[i]? = some (.write ch val)) :
      Plan s c (.selTry run pass i) .skip (.selLock run pass i)
  | selHeld {run : Run Ch α} {pass : Pass} {i : ℕ} {ch : Ch}
      (hi : run.cases[i]? = some (.read ch)) (hf : (s.chan ch).isReading = true) :
      Plan s c (.selFlag run pass i) .skip (nextCase (run.refuse pass i) pass i)
  | selFlag {run : Run Ch α} {pass : Pass} {i : ℕ} {ch : Ch}
      (hi : run.cases[i]? = some (.read ch)) (hf : (s.chan ch).isReading = false) :
      Plan s c (.selFlag run pass i) (.setReading ch true) (.selLock run pass i)
  | selFull {run : Run Ch α} {pass : Pass} {i : ℕ} {ch : Ch} {val : α}
      (hi : run.cases[i]? = some (.write ch val)) (hc : (s.chan ch).isClosed = false)
      (hf : (s.chan ch).full = true) :
      Plan s c (.selLock run pass i) .skip (nextCase run pass i)
  | selPush {run : Run Ch α} {pass : Pass} {i : ℕ} {ch : Ch} {val : α}
      (hi : run.cases[i]? = some (.write ch val)) (hc : (s.chan ch).isClosed = false)
      (hf : (s.chan ch).full = false) :
      Plan s c (.selLock run pass i) (.push ch val) (finishPass run pass (some i))
  | selEmpty {run : Run Ch α} {pass : Pass} {i : ℕ} {ch : Ch}
      (hi : run.cases[i]? = some (.read ch)) (hq : (s.chan ch).itemQueue = []) :
      Plan s c (.selLock run pass i) .skip (.selRelease run pass i false)
  | selPop {run : Run Ch α} {pass : Pass} {i : ℕ} {ch : Ch} {item : α} {items : List α}
      (hi : run.cases[i]? = some (.read ch)) (hq : (s.chan ch).itemQueue = item :: items) :
      Plan s c (.selLock run pass i) (.pop ch)
        (.selRelease { run with outs := Function.update run.outs i (some item) } pass i true)
  | selRelease {run : Run Ch α} {pass : Pass} {i : ℕ} {ready : Bool} {case : Case Ch α}
      (hi : run.cases[i]? = some case) :
      Plan s c (.selRelease run pass i ready) (.setReading case.ch false)
        (if ready then finishPass run pass (some i) else nextCase run pass i)
  | selWatch {run : Run Ch α} {i : ℕ} {case : Case Ch α} (hi : run.cases[i]? = some case) :
      Plan s c (.selWatch run i) (.addWatcher case)
        (if i + 1 < run.cases.length then .selWatch run (i + 1) else .selTry run .recheck 0)
  | selNotify {run : Run Ch α} : Plan s c (.selNotify run) .notify (.commit (.select run))
  | selUnwatch {run : Run Ch α} {i : ℕ} {index : Option ℕ} {case : Case Ch α}
      (hi : run.cases[i]? = some case) :
      Plan s c (.selUnwatch run i index) (.removeWatcher case run.waiter)
        (if i + 1 < run.cases.length then .selUnwatch run (i + 1) index
        else .returned (.select run index))
  -- waits
  | waitFails {w : Waiting Ch α} : Plan s c (.prepare w) .skip (afterWait (-1) w)
  | waitThrows {w : Waiting Ch α} : Plan s c (.prepare w) .abandon (waitThrows w)
  | registCustom {w : Waiting Ch α} (hb : ∀ ch, w.cond = some ch → s.condBusy ch = false) :
      Plan s c (.prepare w) (.registCustom w.cond w.timed) (.regist (w.begun ((s.wait c).n + 1)))
  | registFails {w : Waiting Ch α} : Plan s c (.regist w) .registFails (afterWait (-1) w)
  | registAwaitEvent {w : Waiting Ch α} : Plan s c (.regist w) .registAwaitEvent (callback w)
  | commitPark {w : Waiting Ch α} : Plan s c (.commit w) .commitPark (.parked w)
  | resume {w : Waiting Ch α} {m : EventMask} (hr : (s.wait c).round = .final m) :
      Plan s c (.parked w) (.resume m)
        (.unbind w (if w.timed then ((s.wait c).resume m).timedRet else 0))
  | unbind {w : Waiting Ch α} {ret : ℤ} : Plan s c (.unbind w ret) .unbind (afterWait ret w)

section

variable {s : State Co Ch α} {c : Co} {e : Env}

/-- A computed move is a listed one if its value is. -/
lemma Plan.of_eq {p p' : Pc Ch α} {a : Act Ch α} {r : Act Ch α × Pc Ch α}
    (h : some r = some (a, p')) (hr : Plan s c p r.1 r.2) : Plan s c p a p' := by
  obtain rfl := Option.some.inj h
  exact hr

/-- The moves of the loop of a write. -/
lemma State.writeLoop_cases {op : WriteOp} {ch : Ch} {item : α} {p : Pc Ch α}
    (hp : WriteSection s op ch item p) :
    Plan s c p (s.writeLoop e op ch item).1 (s.writeLoop e op ch item).2 := by
  cases hf : (s.chan ch).full with
  | false =>
    simp only [State.writeLoop, hf]
    exact .writePush hp hf
  | true =>
    simp only [State.writeLoop, hf, if_true]
    split
    · exact .writeWait hp hf
    · exact .writeRefused hp hf (by simp)
    · split
      · exact .writeRefused hp hf (by simp)
      · exact .writeWait hp hf

/-- The moves of the loop of a read. -/
lemma State.readLoop_cases {op : ReadOp} {ch : Ch} {p : Pc Ch α} (hp : ReadSection op ch p) :
    Plan s c p (s.readLoop e op ch).1 (s.readLoop e op ch).2 := by
  cases hi : (s.chan ch).itemQueue with
  | cons item items =>
    simp only [State.readLoop, hi]
    split
    · have hne : (s.chan ch).itemQueue ≠ [] := by simp [hi]
      exact hi ▸ .readPopAll hp hne
    · exact .readPop hp hi
  | nil =>
    simp only [State.readLoop, hi]
    cases hc : (s.chan ch).isClosed with
    | true => split <;> exact .readFails (.inr hp) (by simp)
    | false =>
      split
      · exact .readFails (.inr hp) (by simp)
      · simp only [Bool.false_eq_true, if_false]
        split
        · exact .readFails (.inr hp) (by simp)
        · exact .readWait hp hi hc
      · exact .readWait hp hi hc

/-- The moves of the preparation of a wait. -/
lemma State.prepareWait_cases {w : Waiting Ch α} :
    Plan s c (.prepare w) (s.prepareWait c e w).1 (s.prepareWait c e w).2 := by
  unfold State.prepareWait
  split
  · exact .waitFails
  · rename_i hb
    split
    · exact .waitThrows
    · refine .registCustom fun ch hw => ?_
      simpa [hw] using (not_or.mp hb).1

/-- The moves of a select that tries a case. -/
lemma State.tryCase_cases {run : Run Ch α} {pass : Pass} {i : ℕ} {case : Case Ch α}
    (hi : run.cases[i]? = some case) :
    Plan s c (.selLock run pass i) (s.tryCase run pass i case).1 (s.tryCase run pass i case).2 := by
  cases case with
  | read ch =>
    simp only [State.tryCase]
    split
    · exact .selEmpty hi ‹_›
    · exact .selPop hi ‹_›
  | write ch val =>
    simp only [State.tryCase]
    split
    · exact .selClosed hi ‹_› (.inr ⟨rfl, ch, val, rfl⟩)
    · have hc : (s.chan ch).isClosed = false := Bool.eq_false_iff.mpr ‹_›
      split
      · exact .selFull hi hc ‹_›
      · exact .selPush hi hc (Bool.eq_false_iff.mpr ‹_›)

/-- Every move of a coroutine is one of the listed ones. -/
lemma State.plan_cases [DecidableEq Co] {a : Act Ch α} {p : Pc Ch α}
    (h : s.plan c e = some (a, p)) :
    Plan s c (s.pc c) a p := by
  unfold State.plan at h
  cases hp : s.pc c <;> simp only [hp] at h
  case idle => cases h
  case returned => cases h; exact .returned _
  case writeCheck =>
    split at h <;> cases h
    · exact .writeClosed (.inl rfl) ‹_›
    · exact .writeOpen
  case writeLock =>
    split at h
    · cases h
      exact .writeClosed (.inr (.inl rfl)) ‹_›
    · exact .of_eq h (writeLoop_cases (.writeLock (Bool.eq_false_iff.mpr ‹_›)))
  case writeCallback => cases h; exact .writeCallback
  case writeRecheck =>
    split at h <;> cases h
    · exact .writeClosed (.inr (.inr rfl)) ‹_›
    · exact .writeAgain
  case writeRelock => exact .of_eq h (writeLoop_cases .writeRelock)
  case readCheck =>
    split at h <;> cases h
    · exact .readRefused (.inl rfl) (by simp)
    · exact .readOpen
  case readFlag =>
    split at h <;> cases h
    · exact .readRefused (.inr rfl) (by simp)
    · refine .readFlag (Bool.eq_false_iff.mpr ‹_›) ?_
      split <;> rfl
  case readClosed => split at h <;> cases h <;> exact .readGoesOn rfl rfl
  case readClosedLock =>
    split at h <;> cases h
    · exact .readFails (.inl rfl) (by simp)
    · exact .readGoesOn rfl rfl
  case readLock => exact .of_eq h (readLoop_cases .readLock)
  case readCallback => cases h; exact .readCallback
  case readRelock =>
    split at h
    · cases h
      exact .readFails (.inr (.readRelock _)) (by simp)
    · exact .of_eq h (readLoop_cases (.readRelock _))
  case readRelease => cases h; exact .readRelease
  case closeCheck =>
    split at h <;> cases h
    · exact .closeCheck (.inl rfl)
    · exact .closeCheck (.inr rfl)
  case closeLock => cases h; exact .close
  case selTry run pass i =>
    cases hi : run.cases[i]? with
    | none => simp [hi] at h
    | some case =>
      simp only [hi] at h
      split at h
      · cases h
        exact .selClosed hi ‹_› (.inl rfl)
      · cases case <;> cases h
        · exact .selRead hi (Bool.eq_false_iff.mpr ‹_›)
        · exact .selWrite hi
  case selFlag run pass i =>
    split at h
    · rename_i ch hi
      split at h <;> cases h
      · exact .selHeld hi ‹_›
      · exact .selFlag hi (Bool.eq_false_iff.mpr ‹_›)
    · cases h
  case selLock =>
    obtain ⟨case, hi, h⟩ := Option.map_eq_some_iff.mp h
    exact .of_eq (congrArg some h) (tryCase_cases hi)
  case selRelease =>
    obtain ⟨case, hi, h⟩ := Option.map_eq_some_iff.mp h
    cases h
    exact .selRelease hi
  case selWatch =>
    obtain ⟨case, hi, h⟩ := Option.map_eq_some_iff.mp h
    cases h
    exact .selWatch hi
  case selNotify => cases h; exact .selNotify
  case selUnwatch =>
    obtain ⟨case, hi, h⟩ := Option.map_eq_some_iff.mp h
    cases h
    exact .selUnwatch hi
  case prepare => exact .of_eq h prepareWait_cases
  case regist =>
    split at h <;> cases h
    · exact .registFails
    · exact .registAwaitEvent
  case commit => cases h; exact .commitPark
  case parked =>
    split at h <;> cases h
    exact .resume ‹_›
  case unbind => cases h; exact .unbind

end

/-! ## Where the moves lead -/

/-- What holds at the points that a pass may end in holds where it ends. -/
lemma finishPass_induct {I : Pc Ch α → Prop} {run : Run Ch α} {pass : Pass} {index : Option ℕ}
    (unwatch : pass ≠ .recheck → I (.selUnwatch run 0 index))
    (prepare : pass = .first → index = none → I (.prepare (.select run)))
    (notify : ∀ i, pass = .recheck → index = some i →
      I (.selNotify { run with cbIndex := some i }))
    (commit : pass = .recheck → index = none → I (.commit (.select run))) :
    I (finishPass run pass index) := by
  cases pass with
  | first =>
    cases index with
    | none =>
      simp only [finishPass]
      split
      · exact unwatch Pass.noConfusion
      · exact prepare rfl rfl
    | some i => exact unwatch Pass.noConfusion
  | recheck =>
    cases index with
    | none => exact commit rfl rfl
    | some i => exact notify i rfl rfl
  | last => exact unwatch Pass.noConfusion

/-- A case that is not ready leads to the next case, or to the end of the pass. -/
lemma nextCase_induct {I : Pc Ch α → Prop} {run : Run Ch α} {pass : Pass} {i : ℕ}
    (next : I (.selTry run pass (i + 1)))
    (finish : run.cases.length ≤ i + 1 → I (finishPass run pass none)) :
    I (nextCase run pass i) := by
  unfold nextCase
  split
  · exact next
  · exact finish (not_lt.mp ‹_›)

/-- What holds at the points that a wait may lead to holds where it leads. -/
lemma afterWait_induct {I : Pc Ch α → Prop} {ret : ℤ} {w : Waiting Ch α}
    (recheck : ∀ op ch item, w = .write op ch item → I (.writeRecheck op ch item))
    (fails : ∀ op ch item r, r ≠ 0 → w = .write op ch item →
      I (.returned (.write op ch item r none)))
    (read : ∀ op ch, w = .read op ch → I (.readRelock op ch ret))
    (last : ∀ run, run.cbIndex = none → w = .select run → I (.selTry run .last 0))
    (unwatch : ∀ run i, run.cbIndex = some i → w = .select run →
      I (.selUnwatch run 0 (some i))) : I (afterWait ret w) := by
  cases w with
  | write op ch item =>
    simp only [afterWait]
    split
    · exact recheck op ch item rfl
    · split <;> refine fails _ ch item _ ?_ rfl
      · split <;> decide
      · decide
  | read op ch => exact read op ch rfl
  | select run =>
    simp only [afterWait]
    split
    · exact last run ‹_› rfl
    · exact unwatch run _ ‹_› rfl

/-- What holds at the first points of the operations holds where a call leads. -/
lemma State.entry_induct {s : State Co Ch α} {c : Co} {op : Op Ch α} {p : Pc Ch α}
    {I : Pc Ch α → Prop} (h : s.entry c op = some p)
    (write : ∀ op ch item, I (.writeCheck op ch item)) (readFlag : ∀ op ch, I (.readFlag op ch))
    (readCheck : ∀ op ch, I (.readCheck op ch)) (close : ∀ ch, I (.closeCheck ch))
    (select : ∀ run : Run Ch α, run.before = s.transfers c → run.cbIndex = none →
      (∀ i, run.outs i = none) → I (.selTry run .first 0)) : I p := by
  cases op with
  | write op ch item =>
    cases h
    exact write op ch item
  | read op ch =>
    cases op <;> cases h
    · exact readFlag _ ch
    · exact readFlag _ ch
    · exact readCheck _ ch
    · exact readCheck _ ch
  | close ch =>
    cases h
    exact close ch
  | select cases timeoutMs hasDefault =>
    simp only [State.entry] at h
    split at h <;> cases h
    exact select _ rfl rfl fun _ => rfl

/-! ## The acts -/

open Wait

section

variable [DecidableEq Co] (s : State Co Ch α) (c : Co)

@[simp] lemma notifyAll_chan (q : WaitQueue Co) : (s.notifyAll q).chan = s.chan := rfl
@[simp] lemma goto_chan (p : Pc Ch α) : (s.goto c p).chan = s.chan := rfl
@[simp] lemma goto_wait (p : Pc Ch α) : (s.goto c p).wait = s.wait := rfl
@[simp] lemma goto_pc_self (p : Pc Ch α) : (s.goto c p).pc c = p := Function.update_self ..

/-- The other coroutines stay where they are. -/
lemma goto_pc_of_ne {k : Co} (h : k ≠ c) (p : Pc Ch α) : (s.goto c p).pc k = s.pc k :=
  Function.update_of_ne h ..

variable [DecidableEq Ch] (ch : Ch)

/-- A push appends its item to the queue and to the record. -/
lemma push_chan (item : α) : (s.push c ch item).chan = Function.update s.chan ch
    { s.chan ch with
      itemQueue := (s.chan ch).itemQueue ++ [item]
      pushed := (s.chan ch).pushed ++ [item] } := by
  unfold State.push
  dsimp only
  split <;> rfl

/-- A push notifies the reader and the selects that watch, if there are any. -/
lemma push_wait (item : α) : (s.push c ch item).wait =
    if (s.chan ch).isReading || !(s.chan ch).readWatchers.isEmpty then
      notifyAllIn ((s.chan ch).enableReadCond :: (s.chan ch).readWatchers) s.wait
    else s.wait := by
  unfold State.push
  dsimp only
  split
  · simp [State.onEnableRead, State.notifyAll, State.record, State.setChan]
  · rfl

variable {ch}

/-- A pop from an empty queue does nothing. -/
lemma pop_of_nil (h : (s.chan ch).itemQueue = []) : s.pop c ch = s := by
  simp [State.pop, h]

/-- A pop takes the first item to the record and removes the waiters that it passes over. -/
lemma pop_chan {item : α} {items : List α} (h : (s.chan ch).itemQueue = item :: items) :
    (s.pop c ch).chan = Function.update s.chan ch
      { s.chan ch with
        itemQueue := items
        popped := (s.chan ch).popped ++ [item]
        enableWriteConds := (notifyOneIn (s.chan ch).enableWriteConds s.wait).1 } := by
  simp [State.pop, h, State.onEnableWrite, State.setChan, State.record]

/-- A pop notifies one writer and the selects that watch. -/
lemma pop_wait {item : α} {items : List α} (h : (s.chan ch).itemQueue = item :: items) :
    (s.pop c ch).wait = notifyAllIn (s.chan ch).writeWatchers
      (notifyOneIn (s.chan ch).enableWriteConds s.wait).2.1 := by
  simp [State.pop, h, State.onEnableWrite, State.setChan, State.record, State.notifyAll]

variable (ch)

/-- `Close` changes the status, and forgets the parked writers. -/
lemma close_chan : (s.close ch).chan = Function.update s.chan ch
    { s.chan ch with
      runStatus := .chanClose
      closedAt := some ((s.chan ch).closedAt.getD (s.chan ch).pushed.length)
      enableWriteConds := [] } := by
  unfold State.close
  dsimp only
  split <;> simp [State.setChan, State.onEnableRead]

/-- `Close` notifies the parked writers, the reader and the selects that watch. -/
lemma close_wait : (s.close ch).wait =
    notifyAllIn ((s.chan ch).readWatchers ++ (s.chan ch).writeWatchers)
      (notifyAllIn (s.chan ch).enableWriteConds
        (if (s.chan ch).isReading then
          notifyAllIn ((s.chan ch).enableReadCond :: (s.chan ch).readWatchers) s.wait
        else s.wait)) := by
  unfold State.close
  dsimp only
  split <;> simp [State.setChan, State.onEnableRead, State.notifyAll]

/-! ### Wait records -/

/-- The acts that do not concern the wait of the coroutine itself. -/
def Act.notifies : Act Ch α → Bool
  | .registCustom _ _ | .abandon | .registAwaitEvent | .registFails | .commitPark | .resume _
  | .unbind => false
  | _ => true

/-- A pop changes the wait records by notifying only. -/
lemma pop_notified (k : Co) : Notified (s.wait k) ((s.pop c ch).wait k) := by
  cases hi : (s.chan ch).itemQueue with
  | nil =>
    rw [pop_of_nil s c hi]
    exact Notified.refl _
  | cons item items =>
    rw [pop_wait s c hi]
    exact (notifyOneIn_notified _ _ k).trans (notifyAllIn_notified _ _ k)

/-- Several pops change the wait records by notifying only. -/
lemma popN_notified (n : ℕ) (k : Co) : Notified (s.wait k) ((State.popN c ch n s).wait k) := by
  induction n generalizing s with
  | zero => exact Notified.refl _
  | succ n ih => exact (pop_notified s c ch k).trans (ih _)

variable {s c}

/-- Such an act changes the wait records by notifying only. -/
lemma apply_notified {a : Act Ch α} (h : a.notifies = true) (k : Co) :
    Notified (s.wait k) ((s.apply c a).wait k) := by
  cases a with
  | push ch item =>
    change Notified _ ((s.push c ch item).wait k)
    rw [push_wait]
    split
    · exact notifyAllIn_notified _ _ k
    · exact Notified.refl _
  | pop ch => exact pop_notified s c ch k
  | popAll ch => exact popN_notified s c ch _ k
  | close ch =>
    change Notified _ ((s.close ch).wait k)
    rw [close_wait]
    refine Notified.trans ?_ (notifyAllIn_notified _ _ k)
    refine Notified.trans ?_ (notifyAllIn_notified _ _ k)
    split
    · exact notifyAllIn_notified _ _ k
    · exact Notified.refl _
  | registerEnableWriteCond ch =>
    change Notified _ ((s.registerEnableWriteCond c ch).wait k)
    unfold State.registerEnableWriteCond
    dsimp only
    split
    · exact Notified.refl _
    · exact notifyAllIn_notified _ _ k
  | recheckEnableRead ch =>
    change Notified _ ((s.recheckEnableRead ch).wait k)
    unfold State.recheckEnableRead
    dsimp only
    split
    · exact notifyAllIn_notified _ _ k
    · exact Notified.refl _
  | notify => exact notifyAllIn_notified _ _ k
  | addWatcher case => cases case <;> exact Notified.refl _
  | removeWatcher case => cases case <;> exact Notified.refl _
  | skip | setReading => exact Notified.refl _
  | _ => cases h

/-- Every other act changes the wait record of the coroutine itself only. -/
lemma apply_wait_of_ne {a : Act Ch α} (h : a.notifies = false) {k : Co} (hk : k ≠ c) :
    (s.apply c a).wait k = s.wait k := by
  cases a with
  | registCustom cond timed => cases cond <;> exact Function.update_of_ne hk ..
  | abandon | registAwaitEvent | registFails | commitPark | resume | unbind =>
    exact Function.update_of_ne hk ..
  | _ => cases h

/-- The waits of the others are at most decided. -/
lemma apply_later (a : Act Ch α) {k : Co} (hk : k ≠ c) :
    (s.wait k).Later ((s.apply c a).wait k) := by
  cases h : a.notifies with
  | true => exact (apply_notified h k).later
  | false =>
    rw [apply_wait_of_ne h hk]
    exact Later.refl _

/-! ### Points -/

/-- What each pop keeps, several pops keep. -/
lemma popN_induct {I : State Co Ch α → Prop} (hpop : ∀ s, I s → I (s.pop c ch)) (n : ℕ) (h : I s) :
    I (State.popN c ch n s) := by
  induction n generalizing s with
  | zero => exact h
  | succ n ih => exact ih (hpop s h)

/-- A pop does not move a coroutine. -/
lemma pop_pc : (s.pop c ch).pc = s.pc := by
  unfold State.pop
  dsimp only
  split <;> rfl

/-- An act does not move a coroutine. -/
lemma apply_pc (a : Act Ch α) : (s.apply c a).pc = s.pc := by
  cases a with
  | push ch item =>
    change (s.push c ch item).pc = _
    unfold State.push
    dsimp only
    split <;> rfl
  | pop ch => exact pop_pc ch
  | popAll ch =>
    exact popN_induct ch (I := fun t => t.pc = s.pc) (fun t h => (pop_pc ch).trans h) _ rfl
  | close ch =>
    change (s.close ch).pc = _
    unfold State.close
    dsimp only
    split <;> rfl
  | registerEnableWriteCond ch =>
    change (s.registerEnableWriteCond c ch).pc = _
    unfold State.registerEnableWriteCond
    dsimp only
    split <;> rfl
  | recheckEnableRead ch =>
    change (s.recheckEnableRead ch).pc = _
    unfold State.recheckEnableRead
    dsimp only
    split <;> rfl
  | addWatcher case => cases case <;> rfl
  | removeWatcher case => cases case <;> rfl
  | registCustom cond timed => cases cond <;> rfl
  | _ => rfl

/-! ### Channels -/

/-- What an act of `c` in the state `s` may do to the members of the channel `ch`. -/
inductive Touch (s : State Co Ch α) (c : Co) (ch : Ch) :
    Act Ch α → Chan Co α → Chan Co α → Prop
  | none (a : Act Ch α) (x : Chan Co α) : Touch s c ch a x x
  | push (item : α) : Touch s c ch (.push ch item) (s.chan ch)
      { s.chan ch with
        itemQueue := (s.chan ch).itemQueue ++ [item]
        pushed := (s.chan ch).pushed ++ [item] }
  | pop {a : Act Ch α} {x : Chan Co α} {item : α} {items : List α} (w : Co → Wait)
      (ha : a = .pop ch ∨ a = .popAll ch) (hi : x.itemQueue = item :: items) :
      Touch s c ch a x
        { x with
          itemQueue := items
          popped := x.popped ++ [item]
          enableWriteConds := (notifyOneIn x.enableWriteConds w).1 }
  | close : Touch s c ch (.close ch) (s.chan ch)
      { s.chan ch with
        runStatus := .chanClose
        closedAt := some ((s.chan ch).closedAt.getD (s.chan ch).pushed.length)
        enableWriteConds := [] }
  | setReading (b : Bool) : Touch s c ch (.setReading ch b) (s.chan ch)
      { s.chan ch with isReading := b }
  | registerEnableWriteCond (hc : (s.chan ch).isClosed = false) (hf : (s.chan ch).full = true) :
      Touch s c ch (.registerEnableWriteCond ch) (s.chan ch)
        { s.chan ch with
          enableWriteConds := (s.chan ch).enableWriteConds ++ [some (c, (s.wait c).n)] }
  | addWatcher (case : Case Ch α) (rs ws : WaitQueue Co) : Touch s c ch (.addWatcher case)
      (s.chan ch) { s.chan ch with readWatchers := rs, writeWatchers := ws }
  | removeWatcher (case : Case Ch α) (waiter : Option ℕ) (rs ws : WaitQueue Co) :
      Touch s c ch (.removeWatcher case waiter) (s.chan ch)
        { s.chan ch with readWatchers := rs, writeWatchers := ws }
  | registCustom (timed : Bool) : Touch s c ch (.registCustom (some ch) timed) (s.chan ch)
      { s.chan ch with enableReadCond := some (c, (s.wait c).n + 1) }

/-- An act that changes one channel touches the others not at all. -/
lemma touch_update {a : Act Ch α} {ch' : Ch} {x : Chan Co α}
    (h : Touch s c ch' a (s.chan ch') x) (ch : Ch) :
    Touch s c ch a (s.chan ch) (Function.update s.chan ch' x ch) := by
  by_cases hc : ch = ch'
  · subst hc
    rwa [Function.update_self]
  · rw [Function.update_of_ne hc]
    exact .none a _

/-- A pop in the course of an act. -/
lemma touch_pop {a : Act Ch α} {ch' : Ch} (ha : a = .pop ch' ∨ a = .popAll ch')
    (t : State Co Ch α) (ch : Ch) :
    Touch s c ch a (t.chan ch) ((t.pop c ch').chan ch) := by
  cases hi : (t.chan ch').itemQueue with
  | nil =>
    rw [pop_of_nil t c hi]
    exact .none a _
  | cons item items =>
    rw [pop_chan t c hi]
    by_cases hc : ch = ch'
    · subst hc
      rw [Function.update_self]
      exact .pop t.wait ha hi
    · rw [Function.update_of_ne hc]
      exact .none a _

/-- What holds of a channel and is kept by what the act may do to it holds after the act. -/
lemma apply_induct {I : Chan Co α → Prop} {a : Act Ch α} {ch : Ch}
    (hI : ∀ x x', Touch s c ch a x x' → I x → I x') (h : I (s.chan ch)) :
    I ((s.apply c a).chan ch) := by
  cases a with
  | push ch' item =>
    change I ((s.push c ch' item).chan ch)
    rw [push_chan]
    exact hI _ _ (touch_update (.push item) ch) h
  | pop ch' => exact hI _ _ (touch_pop (.inl rfl) s ch) h
  | popAll ch' =>
    exact popN_induct ch' (I := fun t => I (t.chan ch))
      (fun t ht => hI _ _ (touch_pop (.inr rfl) t ch) ht) _ h
  | close ch' =>
    change I ((s.close ch').chan ch)
    rw [close_chan]
    exact hI _ _ (touch_update .close ch) h
  | setReading ch' b => exact hI _ _ (touch_update (.setReading b) ch) h
  | registerEnableWriteCond ch' =>
    change I ((s.registerEnableWriteCond c ch').chan ch)
    unfold State.registerEnableWriteCond
    dsimp only
    split
    · rename_i hn
      simp only [Bool.and_eq_true, Bool.not_eq_true'] at hn
      exact hI _ _ (touch_update (.registerEnableWriteCond hn.1 hn.2) ch) h
    · exact h
  | recheckEnableRead ch' =>
    change I ((s.recheckEnableRead ch').chan ch)
    unfold State.recheckEnableRead
    dsimp only
    split <;> exact h
  | addWatcher case =>
    cases case <;> exact hI _ _ (touch_update (.addWatcher _ _ _) ch) h
  | removeWatcher case waiter =>
    cases case <;> exact hI _ _ (touch_update (.removeWatcher _ waiter _ _) ch) h
  | registCustom cond timed =>
    cases cond with
    | none => exact h
    | some ch' => exact hI _ _ (touch_update (.registCustom timed) ch) h
  | _ => exact h

/-- A member that the act does not change. -/
lemma apply_member {β : Type*} (f : Chan Co α → β) {a : Act Ch α} {ch : Ch}
    (hf : ∀ x x', Touch s c ch a x x' → f x' = f x) :
    f ((s.apply c a).chan ch) = f (s.chan ch) :=
  apply_induct (I := fun x => f x = f (s.chan ch)) (fun x x' hx h => (hf x x' hx).trans h) rfl

end

/-! ## The labels -/

section

variable [DecidableEq Co] [DecidableEq Ch] {s s' : State Co Ch α}

/-- The ways in which the system takes a step. -/
inductive Next (s : State Co Ch α) : Label Co Ch α → State Co Ch α → Prop
  | call {c : Co} {op : Op Ch α} {p : Pc Ch α} (hp : s.pc c = .idle)
      (he : s.entry c op = some p) : Next s (.call c op) (s.goto c p)
  | run {c : Co} {e : Env} {a : Act Ch α} {p : Pc Ch α} (h : Plan s c (s.pc c) a p) :
      Next s (.run c e) ((s.apply c a).goto c p)
  | wait {c : Co} {w : Wait} {l : Label Co Ch α} (h : (s.wait c).Later w) :
      Next s l (s.setWait c w)

/-- Every step of the system is one of the listed ones. -/
lemma next_cases {l : Label Co Ch α} (h : next s l = some s') : Next s l s' := by
  cases l with
  | call c op =>
    simp only [next] at h
    split at h
    · obtain ⟨p, he, rfl⟩ := Option.map_eq_some_iff.mp h
      exact .call ‹_› he
    · cases h
  | run c e =>
    obtain ⟨⟨a, p⟩, hp, rfl⟩ := Option.map_eq_some_iff.mp h
    exact .run (State.plan_cases hp)
  | timer c =>
    simp only [next] at h
    split at h <;> cases h
    exact .wait (later_trigger _ _)
  | requestCancel c =>
    cases h
    exact .wait (later_requestCancel _)
  | cancelTrigger c =>
    simp only [next] at h
    split at h <;> cases h
    exact .wait (later_trigger _ _)

end

end BbtCoroutine.Chan
