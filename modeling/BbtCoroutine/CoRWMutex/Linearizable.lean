import BbtCoroutine.CoRWMutex.Exclusion
import BbtCoroutine.Transition.Object

/-!
# `CoRWMutex` is linearizable

The users of the lock see who is in it: a number of readers, or one writer.  `Effect` says
what each operation does to them, all at once: a reader enters while there is no writer, a
writer enters the empty lock, an unlock takes out a holder, and an operation that fails leaves
the lock as it is.  `TryWLock` without a timeout may fail only while somebody is in the lock;
a reader may also be refused in favour of writers that wait.

`linearizable` says that every operation takes effect once and in a single step between its
call and its return, whatever it does to `m_mutex`, the queues and the counters, and however
its wait ends.
-/

namespace BbtCoroutine.CoRWMutex

open Transition Transition.AtomicObject

variable {Co : Type*}

/-! ## The object -/

/-- Who is in the lock. -/
structure Occupants (Co : Type*) where
  readers : List Co := []
  writer : Option Co := none

/-- The effects of the operations of the party `i` on the lock with the occupants `x`. -/
inductive Effect [DecidableEq Co] (i : Co) (x : Occupants Co) :
    Op → Result → Occupants Co → Prop
  | reads {op : Op} (ho : op.reads = true) (hw : x.writer = none) :
      Effect i x op (.ret 0) { x with readers := x.readers ++ [i] }
  | writes {op : Op} (ho : op.writes = true) (hw : x.writer = none) (hr : x.readers = []) :
      Effect i x op (.ret 0) { x with writer := some i }
  | rUnLocks (hi : i ∈ x.readers) :
      Effect i x .rUnLock (.ret 0) { x with readers := x.readers.erase i }
  | wUnLocks (hi : x.writer = some i) : Effect i x .wUnLock (.ret 0) { x with writer := none }
  | readRefused : Effect i x .tryRLock (.ret (-1)) x
  | writeRefused (h : x.writer ≠ none ∨ x.readers ≠ []) : Effect i x .tryWLock (.ret (-1)) x
  | waitFails {op : Op} (ho : op.waits = true) : Effect i x op (.ret (-1)) x
  | expires {op : Op} (ho : op.timed = true) : Effect i x op (.ret 1) x
  | threw {op : Op} (ho : op.waits = true) : Effect i x op .threw x

/-- The object that the lock is meant to be. -/
def occupied (Co : Type*) [DecidableEq Co] : AtomicObject Co (Occupants Co) Op Result where
  start x := x = {}
  effect i _ := Effect i

/-- Who is in the lock. -/
def State.occupants (s : State Co) : Occupants Co :=
  ⟨s.core.readers, s.core.writers.head?⟩

/-- The result that a point is the last one of, and that its next step returns.  A reader whose
wait threw after its park callback does not lock `m_mutex` again. -/
def Pc.last : Pc → Option Result
  | .sysUnLock _ _ r => some r
  | .unbind op .threw => if op.writer then none else some .threw
  | _ => none

/-- What a step shows: the call of an operation, or the return from it. -/
def see (s : State Co) : Label Co → List (Visible Co Op Result)
  | .call c op => [.call c op]
  | .run c _ => ((s.pc c).last.map (Visible.ret c)).toList
  | _ => []

/-- A point of the operation `op`, which has had no effect so far. -/
def Pc.Pending : Pc → Op → Prop
  | .sysLock o, op | .body o _, op | .wait o _, op | .regist o _, op | .callback o _, op
  | .commit o, op | .parked o, op | .relock o _, op | .settle o _, op => op = o
  | .unbind o ret, op => op = o ∧ (ret = .threw → o.writer = true)
  | _, _ => False

/-! ## Who is in the lock -/

variable [DecidableEq Co] {s t : State Co} {c : Co} {f : Fault}

/-- There is no writer unless the status says so. -/
lemma Inv.writer_eq_none (h : Inv s) (hs : s.status ≠ .wlocked) : s.occupants.writer = none := by
  have hw : s.core.writers = [] := by
    cases hst : s.status with
    | free => exact (h.core.free hst).2
    | rlocked => exact (h.core.rlocked hst).2
    | wlocked => exact absurd hst hs
  change s.core.writers.head? = none
  rw [hw]
  rfl

/-- The lock is not empty unless the status says so. -/
lemma Inv.occupied_of_ne (h : Inv s) (hs : s.status ≠ .free) :
    s.occupants.writer ≠ none ∨ s.occupants.readers ≠ [] := by
  cases hst : s.status with
  | free => exact absurd hst hs
  | rlocked => exact .inr (h.core.rlocked hst).1
  | wlocked =>
    left
    obtain ⟨k, hk⟩ := List.length_eq_one_iff.mp (h.core.wlocked hst).2
    change s.core.writers.head? ≠ none
    rw [hk]
    exact Option.some_ne_none k

/-- A coroutine that writes is the only writer. -/
lemma Inv.writers_of_mem (h : Inv s) (hc : c ∈ s.writers) : s.core.writers = [c] := by
  have hmem : c ∈ s.core.writers := hc
  cases hst : s.status with
  | free => simp [(h.core.free hst).2] at hmem
  | rlocked => simp [(h.core.rlocked hst).2] at hmem
  | wlocked =>
    obtain ⟨k, hk⟩ := List.length_eq_one_iff.mp (h.core.wlocked hst).2
    rw [hk] at hmem ⊢
    rw [List.mem_singleton.mp hmem]

omit [DecidableEq Co] in
/-- Who is in the lock depends on the lock only. -/
lemma occupants_of_core (h : t.core = s.core) : t.occupants = s.occupants := by
  rw [State.occupants, h, State.occupants]

/-- A reader that enters is one more reader. -/
lemma acquireRead_occupants : (s.acquireRead c).occupants =
    { s.occupants with readers := s.occupants.readers ++ [c] } := by
  rw [State.occupants, acquireRead_core]
  rfl

/-- A reader that leaves is one reader less. -/
lemma rUnLock_occupants : (s.rUnLock c).occupants =
    { s.occupants with readers := s.occupants.readers.erase c } := by
  rw [State.occupants, rUnLock_core]
  rfl

/-- A writer that withdraws changes nothing of who is in the lock. -/
lemma withdraw_occupants : (s.withdraw c).occupants = s.occupants := by
  rw [State.occupants, withdraw_core, State.occupants]

/-- What a step of `c` leads to from a point of `op` without effect. -/
def Advances (c : Co) (x : Occupants Co) (op : Op) (t : State Co) : Prop :=
  ∀ x₀, System.Advances (occupied Co) c x₀ x op t.occupants ((t.pc c).Pending op)
    ((t.pc c).last = some ·)

/-- The coroutine goes on and its operation stays without effect. -/
lemma pending_goto {op : Op} {p : Pc} (hx : t.occupants = s.occupants) (h : p.Pending op) :
    Advances c s.occupants op (t.goto c p) := by
  refine fun _ => .pending hx ?_
  rwa [goto_pc_self]

/-- The operation takes its effect and goes on to its return. -/
lemma effect_goto {op : Op} {x : Occupants Co} {b : Bool} {r : Result}
    (h : Effect c x op r t.occupants) : Advances c x op (t.goto c (.sysUnLock op b r)) := by
  refine fun _ => .effect h ?_
  rw [goto_pc_self]
  rfl

/-- The operation fails and leaves the lock as it is. -/
lemma fails_goto {op : Op} {b : Bool} {r : Result} (hx : t.occupants = s.occupants)
    (h : Effect c s.occupants op r s.occupants) :
    Advances c s.occupants op (t.goto c (.sysUnLock op b r)) :=
  effect_goto (hx ▸ h)

/-- A reader that enters takes its effect. -/
lemma acquireRead_advances {op : Op} {b : Bool} (hI : Inv s) (ho : op.reads = true)
    (hb : ¬ s.readBlocked) :
    Advances c s.occupants op ((s.acquireRead c).goto c (.sysUnLock op b (.ret 0))) := by
  refine effect_goto ?_
  rw [acquireRead_occupants]
  exact .reads ho (hI.writer_eq_none fun hs => hb (.inl hs))

/-- A writer that enters takes its effect. -/
lemma acquireWrite_advances {op : Op} {b : Bool} (hI : Inv s) (ho : op.writes = true)
    (hf : s.status = .free) (ht : t.core.readers = s.core.readers)
    (hw : t.core.writers = s.core.writers) :
    Advances c s.occupants op ((t.acquireWrite c).goto c (.sysUnLock op b (.ret 0))) := by
  refine effect_goto ?_
  obtain ⟨hr, hnone⟩ := hI.core.free hf
  have hwriters : t.writers = [] := hw.trans hnone
  have hx : (t.acquireWrite c).occupants = { s.occupants with writer := some c } := by
    rw [State.occupants, acquireWrite_core]
    simp only [hwriters, State.occupants, ht]
    rfl
  rw [hx]
  refine .writes ho ?_ hr
  exact hI.writer_eq_none (by simp [hf])

/-- `RUnLock` takes its effect. -/
lemma rUnLock_advances {b : Bool} (hm : c ∈ s.readers) :
    Advances c s.occupants .rUnLock ((s.rUnLock c).goto c (.sysUnLock .rUnLock b (.ret 0))) := by
  refine effect_goto ?_
  rw [rUnLock_occupants]
  exact .rUnLocks hm

/-- `WUnLock` takes its effect. -/
lemma wUnLock_advances {b : Bool} (hI : Inv s) (hm : c ∈ s.writers) :
    Advances c s.occupants .wUnLock ((s.wUnLock c).goto c (.sysUnLock .wUnLock b (.ret 0))) := by
  have hw := hI.writers_of_mem hm
  have hwriter : s.occupants.writer = some c := by
    change s.core.writers.head? = some c
    rw [hw]
    rfl
  have hx : (s.wUnLock c).occupants = { s.occupants with writer := none } := by
    have hw' : s.writers = [c] := hw
    rw [State.occupants, wUnLock_core, hw']
    simp [State.occupants]
  refine effect_goto ?_
  rw [hx]
  exact .wUnLocks hwriter

/-! ## One step of an operation -/

/-- The critical section of an operation. -/
lemma body_advances {op : Op} {b : Bool} (hI : Inv s) (hp : s.pc c = .body op b) :
    Advances c s.occupants op (s.body c op b) := by
  have hholder : ∀ o, (s.pc c).unlocking o → s.mayCall c o := hI.holder c
  rw [hp] at hholder
  cases op <;> simp only [State.body]
  case rLock | tryRLockFor =>
    split
    · exact pending_goto rfl rfl
    · exact acquireRead_advances hI rfl ‹_›
  case tryRLock =>
    split
    · exact fails_goto rfl .readRefused
    · exact acquireRead_advances hI rfl ‹_›
  case wLock | tryWLockFor =>
    split
    · exact pending_goto rfl rfl
    · exact acquireWrite_advances hI rfl (not_not.mp ‹_›) rfl rfl
  case tryWLock =>
    split
    · exact fails_goto rfl (.writeRefused (hI.occupied_of_ne ‹_›))
    · exact acquireWrite_advances hI rfl (not_not.mp ‹_›) rfl rfl
  case rUnLock => exact rUnLock_advances (hholder _ ⟨rfl, .inl rfl⟩)
  case wUnLock => exact wUnLock_advances hI (hholder _ ⟨rfl, .inr rfl⟩)

/-- Preparing a wait leaves an operation without effect, or makes it fail. -/
lemma prepare_advances {op : Op} {b : Bool} (ho : op.waits = true) :
    Advances c s.occupants op (s.prepare c op b f) := by
  have hpush : ∀ slot w, ((s.push op slot).setWait c w).core = s.core := by simp
  unfold State.prepare
  split
  · exact fails_goto rfl (.waitFails ho)
  · cases f with
    | createThrows => exact fails_goto rfl (.threw ho)
    | registNull => exact fails_goto (occupants_of_core (hpush ..)) (.waitFails ho)
    | yieldThrows => exact fails_goto (occupants_of_core (hpush ..)) (.threw ho)
    | _ => exact pending_goto (occupants_of_core (hpush ..)) rfl

/-- What follows a wait leaves an operation without effect, or ends it. -/
lemma settle_advances {op : Op} {ret : WaitRet} (hI : Inv s) (ho : op.waits = true)
    (ht : ret = .threw → op.writer = true) : Advances c s.occupants op (s.settle c op ret) := by
  cases op with
  | wLock =>
    cases ret with
    | threw => exact fails_goto withdraw_occupants (.threw rfl)
    | _ => exact pending_goto withdraw_occupants rfl
  | tryWLockFor ms =>
    cases ret with
    | threw => exact fails_goto withdraw_occupants (.threw rfl)
    | timedOut => exact fails_goto withdraw_occupants (.expires rfl)
    | notified =>
      simp only [State.settle]
      split
      · exact fails_goto withdraw_occupants (.waitFails rfl)
      · exact acquireWrite_advances hI rfl (not_not.mp ‹_›) rfl rfl
  | tryRLockFor ms =>
    cases ret with
    | threw => cases ht rfl
    | timedOut => exact fails_goto rfl (.expires rfl)
    | notified =>
      simp only [State.settle]
      split
      · exact fails_goto rfl (.waitFails rfl)
      · exact acquireRead_advances hI rfl ‹_›
  | rLock => exact pending_goto rfl rfl
  | _ => cases ho

/-- The wait of an operation ends: it is still without effect, or a reader whose wait threw. -/
lemma resume_advances {op : Op} {m : EventMask} (ho : op.waits = true) :
    Advances c s.occupants op (s.resume c op f m) := by
  have hcore : (s.resume c op f m).occupants = s.occupants := rfl
  have hpc : (s.resume c op f m).pc c =
      .unbind op (State.waitRet op f ((s.wait c).resume m)) := goto_pc_self ..
  by_cases hr : State.waitRet op f ((s.wait c).resume m) = .threw ∧ op.writer = false
  · refine fun _ => .effect (Effect.threw ho) ?_
    rw [hpc, hr.1]
    simp [Pc.last, hr.2]
  · refine fun _ => .pending hcore ?_
    rw [hpc]
    refine ⟨rfl, fun ht => ?_⟩
    rw [← Bool.not_eq_false]
    exact fun hw => hr ⟨ht, hw⟩

/-- An operation without effect takes its effect in one step, or stays without it. -/
lemma step_advances {op : Op} (hI : Inv s) (hp : (s.pc c).Pending op)
    (h : s.step c f = some t) : Advances c s.occupants op t := by
  have hok : (s.pc c).Ok := hI.control.ok c
  unfold State.step at h
  cases hpc : s.pc c <;> simp only [hpc] at h hp hok
  case idle => cases h
  case sysLock =>
    split at h <;> cases h
    exact pending_goto rfl hp
  case body =>
    obtain rfl := hp
    cases h
    exact body_advances hI hpc
  case wait =>
    obtain rfl := hp
    cases h
    exact prepare_advances hok
  case regist =>
    obtain rfl := hp
    cases h
    unfold State.regist
    split
    · exact fails_goto rfl (.waitFails hok)
    · exact pending_goto rfl rfl
  case callback o b =>
    cases h
    unfold State.callback
    split
    · refine fun _ => .pending rfl ?_
      rwa [goto_pc_self]
    · exact pending_goto rfl hp
  case commit =>
    cases h
    exact pending_goto rfl hp
  case parked =>
    obtain rfl := hp
    split at h <;> cases h
    exact resume_advances hok
  case unbind o ret =>
    obtain ⟨rfl, hw⟩ := hp
    cases h
    have hcond : ¬ (ret = .threw ∧ op.writer = false) := by
      rintro ⟨hr, hf⟩
      rw [hw hr] at hf
      cases hf
    rw [State.unbind, if_neg hcond]
    exact pending_goto rfl rfl
  case relock =>
    split at h <;> cases h
    exact pending_goto rfl hp
  case settle =>
    obtain rfl := hp
    cases h
    exact settle_advances hI hok.1 hok.2
  case sysUnLock => cases hp

/-- An operation that has had its effect returns. -/
lemma step_last {r : Result} (hl : (s.pc c).last = some r) (h : s.step c f = some t) :
    t.occupants = s.occupants ∧ t.pc c = .idle := by
  cases hpc : s.pc c <;> rw [hpc] at hl
  case sysUnLock =>
    simp only [State.step, hpc, Option.some.injEq] at h
    subst h
    exact ⟨rfl, goto_pc_self ..⟩
  case unbind op ret =>
    simp only [State.step, hpc, Option.some.injEq] at h
    subst h
    cases ret with
    | threw =>
      have hw : op.writer = false := by
        by_contra hw
        simp [Pc.last, hw] at hl
      rw [State.unbind, if_pos ⟨rfl, hw⟩]
      exact ⟨rfl, goto_pc_self ..⟩
    | _ => cases hl
  all_goals cases hl

/-- A point of an operation without effect is not the last one. -/
lemma Pc.Pending.last {p : Pc} {op : Op} (h : p.Pending op) : p.last = none := by
  cases p with
  | unbind o ret =>
    cases ret with
    | threw => simp [Pc.last, h.2 rfl]
    | _ => rfl
  | sysUnLock => cases h
  | _ => rfl

/-! ## The whole system -/

/-- A step of the code of `c`, seen from the object. -/
lemma step_codeStep (hI : Inv s) (h : s.step c f = some t) :
    System.CodeStep (occupied Co) State.occupants State.pc .idle Pc.Pending Pc.last s t c
      (see s (.run c f)) := by
  refine .run (fun hpc => ?_) (fun x₀ op hp => step_advances hI hp h x₀) fun r hl => step_last hl h
  simp [State.step, hpc] at h

/-- The lock is linearizable: whatever its users see of their calls, they could see if each call
did all it does in one step. -/
theorem linearizable_occupied (Co : Type*) [DecidableEq Co] :
    (system Co).Linearizable see (occupied Co) := by
  refine System.linearizable_of_last State.occupants State.pc .idle Pc.Pending Pc.last ?_
    (fun _ => id) rfl (fun _ _ h => h.last) ?_
  · rintro _ rfl
    exact ⟨rfl, fun _ => rfl⟩
  · intro s l t hreach hs
    cases l with
    | call c op =>
      simp only [system, next] at hs
      split at hs <;> cases hs
      rename_i hcall
      refine ⟨c, .call rfl hcall.1 ?_, fun j hj => goto_pc_of_ne s c hj⟩
      rw [goto_pc_self]
      rfl
    | run c f =>
      have hI := inv_of_reachable hreach
      exact ⟨c, step_codeStep hI hs, fun j hj =>
        (State.step_cases (hI.control.ok c) hs).pc_of_ne hj⟩
    | timer c =>
      simp only [system, next] at hs
      split at hs <;> cases hs
      exact ⟨c, .quiet rfl rfl, fun _ _ => rfl⟩
    | requestCancel c =>
      cases hs
      exact ⟨c, .quiet rfl rfl, fun _ _ => rfl⟩
    | cancelTrigger c =>
      simp only [system, next] at hs
      split at hs <;> cases hs
      exact ⟨c, .quiet rfl rfl, fun _ _ => rfl⟩

end BbtCoroutine.CoRWMutex
