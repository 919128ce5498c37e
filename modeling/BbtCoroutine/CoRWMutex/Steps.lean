import BbtCoroutine.CoRWMutex.Model

/-!
# What a step of a coroutine does to the lock

`Step c f s s'` lists the ways in which one step of the coroutine `c`, with the fault
`f`, can change the state, one constructor for each, and `State.step_cases` says that the
list is complete.  The invariants of the lock are proved by cases on it.
-/

namespace BbtCoroutine.CoRWMutex

variable {Co : Type*} [DecidableEq Co]

/-- The operations that may wait. -/
def Op.waits : Op → Bool
  | .rLock | .wLock | .tryRLockFor _ | .tryWLockFor _ => true
  | _ => false

/-- The operations that enter as a reader. -/
def Op.reads : Op → Bool
  | .rLock | .tryRLock | .tryRLockFor _ => true
  | _ => false

/-- The operations that enter as a writer. -/
def Op.writes : Op → Bool
  | .wLock | .tryWLock | .tryWLockFor _ => true
  | _ => false

/-- An operation that enters as a reader does nothing that a writer does. -/
lemma Op.reads_cases {op : Op} (h : op.reads = true) :
    op.writer = false ∧ op.writes = false ∧ op ≠ .wUnLock := by
  cases op with
  | rLock | tryRLock | tryRLockFor ms => exact ⟨rfl, rfl, by simp⟩
  | _ => cases h

/-- An operation that enters as a writer does nothing that a reader does. -/
lemma Op.writes_cases {op : Op} (h : op.writes = true) : op.reads = false ∧ op ≠ .rUnLock := by
  cases op with
  | wLock | tryWLock | tryWLockFor ms => exact ⟨rfl, by simp⟩
  | _ => cases h

/-- An operation that waits as a writer enters as one. -/
lemma Op.writes_of_writer {op : Op} (h : op.writer = true) : op.writes = true := by
  cases op <;> first | rfl | cases h

/-- The operation must wait. -/
def State.blocked (s : State Co) (op : Op) : Prop :=
  if op.writer then s.status ≠ .free else s.readBlocked

/-- Where an operation is when it enters the lock: in its first critical section, or in the one
after a wait. -/
inductive Entering : Op → Bool → Pc → Prop
  | body (op : Op) (waited : Bool) : Entering op waited (.body op waited)
  | settle (op : Op) : Entering op true (.settle op .notified)

/-- The ways in which a step of `c` leads from `s` to `s'`. -/
inductive Step (c : Co) (f : Fault) (s : State Co) : State Co → Prop
  | enter {op : Op} (hp : s.pc c = .sysLock op) (hm : s.mutex = none) :
      Step c f s ((s.sysLock c).goto c (.body op false))
  | park {op : Op} {b : Bool} (hp : s.pc c = .body op b) (ho : op.waits = true)
      (hb : s.blocked op) : Step c f s (s.goto c (.wait op b))
  | refuse {op : Op} {b : Bool} (hp : s.pc c = .body op b) (ho : op.waits = false) :
      Step c f s (s.goto c (.sysUnLock op b (.ret (-1))))
  | acquireRead {op : Op} {b : Bool} (hp : Entering op b (s.pc c)) (ho : op.reads = true)
      (hb : ¬ s.readBlocked) : Step c f s ((s.acquireRead c).goto c (.sysUnLock op b (.ret 0)))
  | acquireWrite {op : Op} {b flag : Bool} (hp : s.pc c = .body op b) (ho : op.writes = true)
      (hf : s.status = .free)
      (hb : flag = s.hasWaitWlock ∨ flag = decide (0 < s.waitWlockNum)) :
      Step c f s (({ s with hasWaitWlock := flag }.acquireWrite c).goto c
        (.sysUnLock op b (.ret 0)))
  | rUnLock {b : Bool} (hp : s.pc c = .body .rUnLock b) :
      Step c f s ((s.rUnLock c).goto c (.sysUnLock .rUnLock b (.ret 0)))
  | wUnLock {b : Bool} (hp : s.pc c = .body .wUnLock b) :
      Step c f s ((s.wUnLock c).goto c (.sysUnLock .wUnLock b (.ret 0)))
  | prepareFails {op : Op} {b : Bool} {r : Result} (hp : s.pc c = .wait op b) (hr : r ≠ .ret 0) :
      Step c f s (s.goto c (.sysUnLock op b r))
  | prepareAbandons {op : Op} {b : Bool} {r : Result} {slot : Option (Co × ℕ)}
      (hp : s.pc c = .wait op b) (hr : r ≠ .ret 0)
      (hs : slot = none ∨ slot = some (c, (s.wait c).n + 1)) :
      Step c f s (((s.push op slot).setWait c (s.wait c).abandon).goto c (.sysUnLock op b r))
  | prepare {op : Op} {b : Bool} (hp : s.pc c = .wait op b) :
      Step c f s (((s.push op (some (c, (s.wait c).n + 1))).setWait c
        ((s.wait c).registCustom op.timed)).goto c (.regist op b))
  | registFails {op : Op} {b : Bool} (hp : s.pc c = .regist op b) :
      Step c f s ((s.setWait c ((s.wait c).registAwaitEvent true).unbind).goto c
        (.sysUnLock op b (.ret (-1))))
  | regist {op : Op} {b : Bool} (hp : s.pc c = .regist op b) :
      Step c f s ((s.setWait c ((s.wait c).registAwaitEvent false)).goto c (.callback op b))
  | callback {op : Op} {b : Bool} (hp : s.pc c = .callback op b) :
      Step c f s (s.callback c op)
  | commit {op : Op} (hp : s.pc c = .commit op) :
      Step c f s ((s.setWait c (s.wait c).commitPark).goto c (.parked op))
  | resume {op : Op} {m : EventMask} (hp : s.pc c = .parked op)
      (hr : (s.wait c).round = .final m) : Step c f s (s.resume c op f m)
  | unbind {op : Op} {ret : WaitRet} (hp : s.pc c = .unbind op ret) :
      Step c f s (s.unbind c op ret)
  | relock {op : Op} {ret : WaitRet} (hp : s.pc c = .relock op ret) (hm : s.mutex = none) :
      Step c f s ((s.sysLock c).goto c (.settle op ret))
  | again {op : Op} {ret : WaitRet} (hp : s.pc c = .settle op ret) (ho : op = .rLock) :
      Step c f s (s.goto c (.body op true))
  | readerGivesUp {op : Op} {ret : WaitRet} {r : Result} (hp : s.pc c = .settle op ret)
      (ho : op.writer = false) (hr : r ≠ .ret 0) (hb : ret = .timedOut ∨ s.readBlocked) :
      Step c f s (s.goto c (.sysUnLock op true r))
  | withdrawAgain {ret : WaitRet} (hp : s.pc c = .settle .wLock ret) :
      Step c f s ((s.withdraw c).goto c (.body .wLock true))
  | writerGivesUp {op : Op} {ret : WaitRet} {r : Result} (hp : s.pc c = .settle op ret)
      (ho : op.writer = true) (hr : r ≠ .ret 0) (hb : ret = .notified → s.status ≠ .free) :
      Step c f s ((s.withdraw c).goto c (.sysUnLock op true r))
  | withdrawAcquire {op : Op} (hp : s.pc c = .settle op .notified) (ho : op.writer = true)
      (hf : s.status = .free) :
      Step c f s (((s.withdraw c).acquireWrite c).goto c (.sysUnLock op true (.ret 0)))
  | leave {op : Op} {b : Bool} {r : Result} (hp : s.pc c = .sysUnLock op b r) :
      Step c f s ((s.sysUnLock c).goto c .idle)

/-- The steps of the critical section. -/
lemma State.body_cases {s : State Co} {c : Co} {f : Fault} {op : Op} {b : Bool}
    (hp : s.pc c = .body op b) :
    Step c f s (s.body c op b) := by
  have he : Entering op b (s.pc c) := hp ▸ .body op b
  cases op <;> simp only [State.body]
  case rLock | tryRLockFor =>
    split
    · exact .park hp rfl ‹_›
    · exact .acquireRead he rfl ‹_›
  case tryRLock =>
    split
    · exact .refuse hp rfl
    · exact .acquireRead he rfl ‹_›
  case wLock =>
    split
    · exact .park hp rfl ‹_›
    · exact .acquireWrite hp rfl (not_not.mp ‹_›) (.inr rfl)
  case tryWLockFor =>
    split
    · exact .park hp rfl ‹_›
    · exact .acquireWrite hp rfl (not_not.mp ‹_›) (.inl rfl)
  case tryWLock =>
    split
    · exact .refuse hp rfl
    · exact .acquireWrite hp rfl (not_not.mp ‹_›) (.inl rfl)
  case rUnLock => exact .rUnLock hp
  case wUnLock => exact .wUnLock hp

/-- The steps of the preparation of a wait. -/
lemma State.prepare_cases {s : State Co} {c : Co} {op : Op} {b : Bool} {f : Fault}
    (hp : s.pc c = .wait op b) : Step c f s (s.prepare c op b f) := by
  unfold State.prepare
  split
  · exact .prepareFails hp (by simp)
  · cases f with
    | createThrows => exact .prepareFails hp (by simp)
    | registNull => exact .prepareAbandons hp (by simp) (.inr rfl)
    | yieldThrows => exact .prepareAbandons hp (by simp) (.inl rfl)
    | _ => exact .prepare hp

/-- What holds of the operation at a point, whatever the state: only waiting operations get to
the points of a wait, and a wait that threw is settled by writers only. -/
def Pc.Ok : Pc → Prop
  | .wait op _ | .regist op _ | .callback op _ | .commit op | .parked op | .unbind op _ =>
    op.waits = true
  | .relock op ret | .settle op ret => op.waits = true ∧ (ret = .threw → op.writer = true)
  | .body op waited => waited = true → op.waits = true
  | _ => True

/-- The steps after a wait. -/
lemma State.settle_cases {s : State Co} {c : Co} {f : Fault} {op : Op} {ret : WaitRet}
    (hp : s.pc c = .settle op ret) (hok : (s.pc c).Ok) : Step c f s (s.settle c op ret) := by
  rw [hp] at hok
  obtain ⟨ho, ht⟩ := hok
  cases op with
  | wLock =>
    cases ret with
    | threw => exact .writerGivesUp hp rfl (by simp) (by simp)
    | _ => exact .withdrawAgain hp
  | tryWLockFor ms =>
    cases ret with
    | threw => exact .writerGivesUp hp rfl (by simp) (by simp)
    | timedOut => exact .writerGivesUp hp rfl (by simp) (by simp)
    | notified =>
      simp only [State.settle]
      split
      · exact .writerGivesUp hp rfl (by simp) fun _ => ‹_›
      · exact .withdrawAcquire hp rfl (not_not.mp ‹_›)
  | tryRLockFor ms =>
    cases ret with
    | threw => cases ht rfl
    | timedOut => exact .readerGivesUp hp rfl (by simp) (.inl rfl)
    | notified =>
      simp only [State.settle]
      split
      · exact .readerGivesUp hp rfl (by simp) (.inr ‹_›)
      · exact .acquireRead (hp ▸ .settle _) rfl ‹_›
  | rLock => exact .again hp rfl
  | _ => cases ho

/-- Every step of a coroutine is one of the listed ones. -/
lemma State.step_cases {s s' : State Co} {c : Co} {f : Fault} (hok : (s.pc c).Ok)
    (h : s.step c f = some s') : Step c f s s' := by
  unfold State.step at h
  cases hp : s.pc c with
  | idle => simp [hp] at h
  | sysLock op =>
    simp only [hp] at h
    split at h <;> cases h
    exact .enter hp ‹_›
  | body op b =>
    simp only [hp, Option.some.injEq] at h
    exact h ▸ body_cases hp
  | wait op b =>
    simp only [hp, Option.some.injEq] at h
    exact h ▸ prepare_cases hp
  | regist op b =>
    simp only [hp, Option.some.injEq, State.regist] at h
    split at h <;> cases h
    · exact .registFails hp
    · exact .regist hp
  | callback op b =>
    simp only [hp, Option.some.injEq] at h
    exact h ▸ .callback hp
  | commit op =>
    simp only [hp, Option.some.injEq] at h
    exact h ▸ .commit hp
  | parked op =>
    simp only [hp] at h
    split at h <;> cases h
    exact .resume hp ‹_›
  | unbind op ret =>
    simp only [hp, Option.some.injEq] at h
    exact h ▸ .unbind hp
  | relock op ret =>
    simp only [hp] at h
    split at h <;> cases h
    exact .relock hp ‹_›
  | settle op ret =>
    simp only [hp, Option.some.injEq] at h
    exact h ▸ settle_cases hp hok
  | sysUnLock op b r =>
    simp only [hp, Option.some.injEq] at h
    exact h ▸ .leave hp

end BbtCoroutine.CoRWMutex
