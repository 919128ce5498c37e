import BbtCoroutine.CoMutex.Model

/-!
# What a step of a coroutine does to `CoMutex`

`Step c s t` lists the ways in which one step of the coroutine `c` can change the state, one
constructor for each, and `State.step_cases` says that the list is complete.  The invariants
of the mutex are proved by cases on it.
-/

namespace BbtCoroutine.CoMutex

variable {Co : Type*} [DecidableEq Co]

/-- What holds of the operation at a point, whatever the state: `UnLock` never waits. -/
def Pc.Ok : Pc → Prop
  | .wait op | .regist op | .callback op | .commit op | .parked op | .relock op | .settle op =>
    op ≠ .unLock
  | _ => True

/-- The operation `op` is where it looks at the status: in its first critical section, or in the
one after a wait. -/
def Pc.looks (op : Op) (p : Pc) : Prop :=
  p = .body op ∨ p = .settle op

/-- The operation `op` goes on at `p` because its wait could not be made: it tries again, or it
returns something other than 0. -/
def Pc.unmade (op : Op) (p : Pc) : Prop :=
  p = .retry ∨ ∃ r, r ≠ .ret 0 ∧ p = .sysUnLock op r

/-- The ways in which a step of `c` leads from `s` to `t`. -/
inductive Step (c : Co) (s : State Co) : State Co → Prop
  | enter {op : Op} (hp : s.pc c = .sysLock op) (hm : s.mutex = none) :
      Step c s ((s.sysLock c).goto c (.body op))
  | acquire {op : Op} (hp : (s.pc c).looks op) (ho : op ≠ .unLock) (hf : s.status = .free) :
      Step c s (s.onLocked c op)
  | block {op : Op} (hp : (s.pc c).looks op) (ho : op ≠ .unLock) (hl : s.status = .locked) :
      Step c s (s.goto c (.wait op))
  | refuse {op : Op} {r : ℤ} (hp : (s.pc c).looks op) (ho : op ≠ .unLock) (hr : r ≠ 0)
      (hl : s.status = .locked) : Step c s (s.goto c (.sysUnLock op (.ret r)))
  | timedOut {op : Op} (hp : s.pc c = .settle op) (ht : s.timedOut c) :
      Step c s (s.goto c (.sysUnLock op (.ret 1)))
  | unLock (hp : s.pc c = .body .unLock) :
      Step c s ((s.onUnLocked c).goto c (.sysUnLock .unLock (.ret 0)))
  | fail {op : Op} {p : Pc} (hp : s.pc c = .wait op) (hr : p.unmade op) : Step c s (s.goto c p)
  | abandon {op : Op} (hp : s.pc c = .wait op) :
      Step c s (((s.registCustom c op).push none).goto c (.sysUnLock op .threw))
  | prepare {op : Op} (hp : s.pc c = .wait op) :
      Step c s (((s.registCustom c op).push (some (c, s.events c + 1))).goto c (.regist op))
  | registFails {op : Op} {p : Pc} {r : Round} (hp : s.pc c = .regist op)
      (hr : p.unmade op) (hl : (s.event (s.last c)).Later r) :
      Step c s ((s.setEvent (s.last c) r.unRegist).goto c p)
  | regist {op : Op} {r : Round} (hp : s.pc c = .regist op)
      (hl : (s.event (s.last c)).Later r) :
      Step c s ((s.setEvent (s.last c) r.regist).goto c (.callback op))
  | callback {op : Op} (hp : s.pc c = .callback op) :
      Step c s ((s.sysUnLock c).goto c (.commit op))
  | commit {op : Op} (hp : s.pc c = .commit op) :
      Step c s ((s.setEvent (s.last c) (s.event (s.last c)).commitPark).goto c (.parked op))
  | resume {op : Op} {m : EventMask} (hp : s.pc c = .parked op)
      (hr : s.event (s.last c) = .final m) : Step c s (s.resume c op m)
  | relock {op : Op} (hp : s.pc c = .relock op) (hm : s.mutex = none) :
      Step c s ((s.sysLock c).goto c (.settle op))
  | retry (hp : s.pc c = .retry) : Step c s ((s.sysUnLock c).goto c (.sysLock .lock))
  | leave {op : Op} {r : Result} (hp : s.pc c = .sysUnLock op r) :
      Step c s ((s.sysUnLock c).goto c .idle)

/-- An operation whose wait could not be made goes on without one. -/
lemma failed_unmade (op : Op) : (State.failed op).unmade op := by
  cases op with
  | lock => exact .inl rfl
  | _ => exact .inr ⟨_, by simp, rfl⟩

/-- A mutex that is not locked is free. -/
lemma Status.eq_free {x : Status} (h : x ≠ .locked) : x = .free := by
  cases x with
  | free => rfl
  | locked => exact absurd rfl h

/-- A mutex that is not free is locked. -/
lemma Status.eq_locked {x : Status} (h : x ≠ .free) : x = .locked := by
  cases x with
  | free => exact absurd rfl h
  | locked => rfl

/-- The steps of the critical section. -/
lemma State.body_cases {s : State Co} {c : Co} {op : Op} (hp : (s.pc c).looks op)
    (ho : op = .unLock → s.pc c = .body .unLock) : Step c s (s.body c op) := by
  cases op with
  | lock =>
    simp only [State.body]
    split
    · exact .block hp (by simp) ‹_›
    · exact .acquire hp (by simp) (Status.eq_free ‹_›)
  | unLock => exact .unLock (ho rfl)
  | tryLock =>
    simp only [State.body]
    split
    · exact .acquire hp (by simp) ‹_›
    · exact .refuse hp (by simp) (by simp) (Status.eq_locked ‹_›)
  | tryLockFor ms =>
    simp only [State.body]
    split
    · exact .block hp (by simp) ‹_›
    · exact .acquire hp (by simp) (Status.eq_free ‹_›)

/-- The steps of the preparation of a wait. -/
lemma State.prepare_cases {s : State Co} {c : Co} {op : Op} {f : Fault}
    (hp : s.pc c = .wait op) : Step c s (s.prepare c op f) := by
  unfold State.prepare
  split
  · exact .fail hp (.inr ⟨_, by simp, rfl⟩)
  · split
    · exact .fail hp (failed_unmade op)
    · split
      · exact .abandon hp
      · exact .prepare hp

/-- The steps of a registration. -/
lemma State.regist_cases {s : State Co} {c : Co} {op : Op} {f : Fault}
    (hp : s.pc c = .regist op) : Step c s (s.regist c op f) := by
  have hl : (s.event (s.last c)).Later (if s.cancelRequested c then
      (s.event (s.last c)).trigger pollEventCancelled else s.event (s.last c)) := by
    split
    · exact Round.later_act (.trigger _) _
    · exact Round.Later.refl _
  unfold State.regist
  dsimp only
  split
  · exact .registFails hp (failed_unmade op) hl
  · exact .regist hp hl

/-- The steps after a wait. -/
lemma State.settle_cases {s : State Co} {c : Co} {op : Op} (hp : s.pc c = .settle op)
    (ho : op ≠ .unLock) : Step c s (s.settle c op) := by
  cases op with
  | tryLockFor ms =>
    simp only [State.settle]
    split
    · exact .timedOut hp ‹_›
    · split
      · exact .refuse (.inr hp) (by simp) (by simp) (Status.eq_locked ‹_›)
      · exact .acquire (.inr hp) (by simp) (not_not.mp ‹_›)
  | _ => exact State.body_cases (.inr hp) fun h => absurd h ho

/-- Every step of a coroutine is one of the listed ones. -/
lemma State.step_cases {s t : State Co} {c : Co} {f : Fault} (hok : (s.pc c).Ok)
    (h : s.step c f = some t) : Step c s t := by
  unfold State.step at h
  cases hp : s.pc c with
  | idle => simp [hp] at h
  | sysLock op =>
    simp only [hp] at h
    split at h <;> cases h
    exact .enter hp ‹_›
  | body op =>
    simp only [hp, Option.some.injEq] at h
    exact h ▸ body_cases (.inl hp) fun ho => ho ▸ hp
  | wait op =>
    simp only [hp, Option.some.injEq] at h
    exact h ▸ prepare_cases hp
  | regist op =>
    simp only [hp, Option.some.injEq] at h
    exact h ▸ regist_cases hp
  | callback op =>
    simp only [hp, Option.some.injEq] at h
    exact h ▸ .callback hp
  | commit op =>
    simp only [hp, Option.some.injEq] at h
    exact h ▸ .commit hp
  | parked op =>
    simp only [hp] at h
    split at h <;> cases h
    exact .resume hp ‹_›
  | relock op =>
    simp only [hp] at h
    split at h <;> cases h
    exact .relock hp ‹_›
  | settle op =>
    simp only [hp, Option.some.injEq] at h
    rw [hp] at hok
    exact h ▸ settle_cases hp hok
  | retry =>
    simp only [hp, Option.some.injEq] at h
    exact h ▸ .retry hp
  | sysUnLock op r =>
    simp only [hp, Option.some.injEq] at h
    exact h ▸ .leave hp

/-! ## Where the coroutines are after a step -/

variable {s t : State Co} {c : Co}

/-- The coroutine is where it has gone. -/
lemma goto_self (p : Pc) : (s.goto c p).pc c = p := Function.update_self ..

/-- The other coroutines stay where they are. -/
lemma goto_of_ne {k : Co} (hk : k ≠ c) {p : Pc} : (s.goto c p).pc k = s.pc k :=
  Function.update_of_ne hk ..

/-- A step of a coroutine moves no other one. -/
lemma Step.pc_of_ne (h : Step c s t) {k : Co} (hk : k ≠ c) : t.pc k = s.pc k := by
  cases h <;> exact Function.update_of_ne hk ..

end BbtCoroutine.CoMutex
