import BbtCoroutine.CoRWMutex.Queue

/-!
# When `CoRWMutex` strands no waiter

A waiter is stranded when it is parked although nothing holds it back and nobody is on
the way to wake it.  `RUnLock` and `WUnLock` prevent that by passing the lock on, but a
writer that gives up after a wait withdraws from `m_wait_wlock_num` and wakes nobody:
readers that were parked only because of it stay parked (`stranded_reader`).

`strandless_of_kept` is the exact positive statement: in every run in which each writer
that gives up leaves somebody behind who will see to the readers, or no reader to see
to (`Kept`), no waiter is ever stranded.  The invariant `Progress` says who that is in
every state.
-/

namespace BbtCoroutine.CoRWMutex

open Transition Wait

variable {Co : Type*}

/-! ## Who is stuck and who is on the way -/

/-- At the point `p` with the wait `w` an operation of the given kind is parked, or about to be,
and undecided. -/
def stuckAt (p : Pc) (w : Wait) (writer : Bool) : Bool :=
  match p with
  | .commit op | .parked op => op.writer == writer && w.round.undecided
  | _ => false

/-- An operation of the given kind was notified and will take the lock if it can. -/
def wokenAt (p : Pc) (w : Wait) (writer : Bool) : Bool :=
  match p with
  | .commit op | .parked op => op.writer == writer && w.round.won == some pollEventCustom
  | .unbind op ret | .relock op ret | .settle op ret => op.writer == writer && ret == .notified
  | .body op waited => op.writer == writer && waited
  | _ => false

/-- A counted writer whose wait is decided, or one that is giving up. -/
def withdrawingAt (p : Pc) (w : Wait) : Bool :=
  match p with
  | .commit op | .parked op => op.writer && !w.round.undecided
  | .unbind op _ | .relock op _ | .settle op _ => op.writer
  | .sysUnLock op waited r => op.writer && waited && r != .ret 0
  | _ => false

/-- A writer on its way from one wait to the next, or giving up. -/
def reparkingAt (p : Pc) : Bool :=
  match p with
  | .body op waited | .wait op waited | .regist op waited | .callback op waited =>
    op.writer && waited
  | .sysUnLock op waited r => op.writer && waited && r != .ret 0
  | _ => false

/-- A wake-up or a timeout of `c` has not been processed yet: its round is decided, or it has been
resumed and is not yet out of the critical section it was resumed for. -/
def State.inFlight (s : State Co) (c : Co) : Bool :=
  match s.pc c with
  | .commit _ | .parked _ => !(s.wait c).round.undecided
  | .unbind _ _ | .relock _ _ | .settle _ _ => true
  | .body _ waited | .wait _ waited | .regist _ waited | .callback _ waited
  | .sysUnLock _ waited _ => waited
  | _ => false

/-- The coroutine is parked in the operation. -/
def State.parkedIn (s : State Co) (c : Co) (writer : Bool) : Bool :=
  match s.pc c with
  | .parked op => op.writer == writer && (s.wait c).round == .parked
  | _ => false

/-- No waiter is stranded: with every wake-up and timeout processed, nobody is parked in the free
lock, and no reader is parked under readers when no writer waits. -/
def Strandless (s : State Co) : Prop :=
  (∀ c, s.inFlight c = false) →
    (s.status = .free → ∀ c b, s.parkedIn c b = false) ∧
    (s.status = .rlocked → s.waitWlockNum = 0 → ∀ c, s.parkedIn c false = false)

/-- Some operation of the given kind is stuck. -/
def State.Stuck (s : State Co) (writer : Bool) : Prop :=
  ∃ k, stuckAt (s.pc k) (s.wait k) writer = true

/-- Some operation of the given kind was notified. -/
def State.Woken (s : State Co) (writer : Bool) : Prop :=
  ∃ k, wokenAt (s.pc k) (s.wait k) writer = true

/-- Some writer is withdrawing. -/
def State.Withdrawing (s : State Co) : Prop :=
  ∃ k, withdrawingAt (s.pc k) (s.wait k) = true

/-- Some writer is about to wait again, or to give up. -/
def State.Reparking (s : State Co) : Prop :=
  ∃ k, reparkingAt (s.pc k) = true

/-- The coroutine is a writer that has waited and releases the mutex with a result other
than `0`. -/
def State.givesUp (s : State Co) (c : Co) : Bool :=
  match s.pc c with
  | .sysUnLock op waited r => op.writer && waited && r != .ret 0
  | _ => false

/-- What is asked of a step.  A writer that gives up after a wait must leave behind another waiting
writer, a writer in the lock, a notified coroutine, or no parked reader; and no yield throws after
its park callback has run. -/
def Kept (s : State Co) : Label Co → Prop
  | .run c f => f ≠ .lateThrow ∧ (s.givesUp c = true →
      0 < s.waitWlockNum ∨ s.status = .wlocked ∨ (∃ b, s.Woken b) ∨ ¬ s.Stuck false)
  | _ => True

/-- Whoever is stuck has somebody on the way. -/
structure Progress (s : State Co) : Prop where
  /-- A writer stuck in the free lock: a writer was notified. -/
  writer : s.status = .free → s.Stuck true → s.Woken true
  /-- A reader stuck in the free lock: somebody was notified, or a writer is withdrawing. -/
  reader : s.status = .free → s.Stuck false → (∃ b, s.Woken b) ∨ s.Withdrawing
  /-- A reader stuck under readers while no writer is counted: a reader was notified, or a writer is
  about to wait again or to give up. -/
  shared : s.status = .rlocked → s.waitWlockNum = 0 → s.Stuck false →
    s.Woken false ∨ s.Reparking

/-! ## A decided wait stays decided -/

section

variable {p : Pc} {w w' : Wait} {b : Bool}

/-- Who is stuck later was stuck before. -/
lemma stuckAt_of_later (h : w.Later w') (hs : stuckAt p w' b = true) : stuckAt p w b = true := by
  unfold stuckAt at *
  split at hs
  · simp only [Bool.and_eq_true] at hs ⊢
    exact ⟨hs.1, (h.undecided hs.2).1⟩
  · simp only [Bool.and_eq_true] at hs ⊢
    exact ⟨hs.1, (h.undecided hs.2).1⟩
  · cases hs

/-- Who was woken stays woken. -/
lemma wokenAt_of_later (h : w.Later w') (hs : wokenAt p w b = true) : wokenAt p w' b = true := by
  have hwon : w.round.won = some pollEventCustom → w'.round.won = some pollEventCustom :=
    fun hw => ((h.decided (Round.undecided_of_won hw)).2).trans hw
  cases p <;> simp_all [wokenAt]

/-- A writer that withdraws goes on withdrawing. -/
lemma withdrawingAt_of_later (h : w.Later w') (hs : withdrawingAt p w = true) :
    withdrawingAt p w' = true := by
  have hd : w.round.undecided = false → w'.round.undecided = false := fun hd => (h.decided hd).1
  cases p <;> simp_all [withdrawingAt]

end

variable [DecidableEq Co] {s s' : State Co} {c : Co} {f : Fault}

/-- A step of one coroutine at most decides the waits of the others. -/
lemma Step.wait_later (h : Step c f s s') {k : Co} (hk : k ≠ c) :
    (s.wait k).Later (s'.wait k) := by
  have same : ∀ {w : Wait}, (s.wait k).Later ((s.setWait c w).wait k) := fun {w} => by
    have hw : (s.setWait c w).wait k = s.wait k := Function.update_of_ne hk ..
    rw [hw]
    exact Wait.Later.refl _
  cases h with
  | acquireRead => exact (later_acquireRead s c).wait k
  | rUnLock => exact (later_rUnLock s c).wait k
  | wUnLock => exact (later_wUnLock s c).wait k
  | callback =>
    unfold State.callback
    split <;> exact Wait.Later.refl _
  | prepareAbandons | prepare =>
    simp only [State.goto, State.setWait, push_wait, Function.update_of_ne hk]
    exact Wait.Later.refl _
  | registFails | regist | commit | resume | unbind => exact same
  | _ => exact Wait.Later.refl _

/-- The coroutines other than `c` are where they were, their waits at most decided. -/
structure Others (c : Co) (s s' : State Co) : Prop where
  pc : ∀ k, k ≠ c → s'.pc k = s.pc k
  wait : ∀ k, k ≠ c → (s.wait k).Later (s'.wait k)

/-- A step of `c` moves the others on at most. -/
lemma Step.others (h : Step c f s s') : Others c s s' :=
  ⟨fun _ => h.pc_of_ne, fun _ => h.wait_later⟩

section

variable (h : Others c s s')
include h

section

omit [DecidableEq Co]

/-- Somebody else who is stuck was stuck before. -/
lemma Others.stuck {b : Bool} (hc : stuckAt (s'.pc c) (s'.wait c) b = true → s.Stuck b)
    (hs : s'.Stuck b) : s.Stuck b := by
  obtain ⟨k, hk⟩ := hs
  by_cases hkc : k = c
  · exact hc (hkc ▸ hk)
  · rw [h.pc k hkc] at hk
    exact ⟨k, stuckAt_of_later (h.wait k hkc) hk⟩

/-- Somebody else who was woken stays woken. -/
lemma Others.woken {b : Bool} (hc : wokenAt (s.pc c) (s.wait c) b = true → s'.Woken b)
    (hs : s.Woken b) : s'.Woken b := by
  obtain ⟨k, hk⟩ := hs
  by_cases hkc : k = c
  · exact hc (hkc ▸ hk)
  · refine ⟨k, ?_⟩
    rw [h.pc k hkc]
    exact wokenAt_of_later (h.wait k hkc) hk

/-- Somebody else who withdraws goes on withdrawing. -/
lemma Others.withdrawing (hc : withdrawingAt (s.pc c) (s.wait c) = true → s'.Withdrawing)
    (hs : s.Withdrawing) : s'.Withdrawing := by
  obtain ⟨k, hk⟩ := hs
  by_cases hkc : k = c
  · exact hc (hkc ▸ hk)
  · refine ⟨k, ?_⟩
    rw [h.pc k hkc]
    exact withdrawingAt_of_later (h.wait k hkc) hk

/-- Somebody else who is on the way to its next wait stays so. -/
lemma Others.reparking (hc : reparkingAt (s.pc c) = true → s'.Reparking)
    (hs : s.Reparking) : s'.Reparking := by
  obtain ⟨k, hk⟩ := hs
  by_cases hkc : k = c
  · exact hc (hkc ▸ hk)
  · exact ⟨k, by rw [h.pc k hkc]; exact hk⟩

/-- A step that leaves status and counter alone and takes nobody off the way. -/
lemma Progress.same (hP : Progress s) (hs : s'.status = s.status)
    (hn : s'.waitWlockNum = s.waitWlockNum)
    (stuck : ∀ b, stuckAt (s'.pc c) (s'.wait c) b = true →
      stuckAt (s.pc c) (s.wait c) b = true)
    (woken : ∀ b, wokenAt (s.pc c) (s.wait c) b = true →
      wokenAt (s'.pc c) (s'.wait c) b = true)
    (withdrawing : withdrawingAt (s.pc c) (s.wait c) = true →
      withdrawingAt (s'.pc c) (s'.wait c) = true)
    (reparking : reparkingAt (s.pc c) = true → reparkingAt (s'.pc c) = true) :
    Progress s' := by
  have hstuck : ∀ {b}, s'.Stuck b → s.Stuck b := fun {b} => h.stuck fun hk => ⟨c, stuck b hk⟩
  have hwoken : ∀ {b}, s.Woken b → s'.Woken b := fun {b} => h.woken fun hk => ⟨c, woken b hk⟩
  refine ⟨fun hf hst => ?_, fun hf hst => ?_, fun hr h0 hst => ?_⟩
  · exact hwoken (hP.writer (hs ▸ hf) (hstuck hst))
  · rcases hP.reader (hs ▸ hf) (hstuck hst) with ⟨b, hw⟩ | hw
    · exact .inl ⟨b, hwoken hw⟩
    · exact .inr (h.withdrawing (fun hk => ⟨c, withdrawing hk⟩) hw)
  · rcases hP.shared (hs ▸ hr) (hn ▸ h0) (hstuck hst) with hw | hw
    · exact .inl (hwoken hw)
    · exact .inr (h.reparking (fun hk => ⟨c, reparking hk⟩) hw)

end

end

/-- A counted writer in the free lock is on the way, or another one is. -/
lemma onTheWay_of_counted (hI : Inv s) (hf : s.status = .free)
    (hw : s.status = .free → s.Stuck true → s.Woken true) (hn : s.waitWlockNum ≠ 0) :
    (∃ b, s.Woken b) ∨ s.Withdrawing := by
  have hlen : s.waitingWriters ≠ [] := by
    intro he
    have hnum : s.waitWlockNum = s.waitingWriters.length := hI.core.num
    rw [he] at hnum
    exact hn hnum
  obtain ⟨k, hk⟩ := List.exists_mem_of_ne_nil _ hlen
  rw [hI.counted k] at hk
  cases hu : (s.wait k).round.undecided with
  | false =>
    refine .inr ⟨k, ?_⟩
    cases hp : s.pc k <;> simp_all [Pc.counted, withdrawingAt]
  | true =>
    have : stuckAt (s.pc k) (s.wait k) true = true ∨
        withdrawingAt (s.pc k) (s.wait k) = true := by
      cases hp : s.pc k <;> simp_all [Pc.counted, withdrawingAt, stuckAt]
    rcases this with hst | hd
    · exact .inl ⟨true, hw hf ⟨k, hst⟩⟩
    · exact .inr ⟨k, hd⟩

/-! ## Passing the lock on -/

section

variable (hI : Inv s) (hQ : QueueInv s) (hm : s.mutex = some c) (hc : (s.pc c).waiting = none)
include hI hQ hm hc

/-- A live waiter in a queue belongs to an operation that is parked or about to be. -/
lemma pc_of_live {b : Bool} {k : Co} {n : ℕ} (he : some (k, n) ∈ s.queue b)
    (hl : (s.wait k).live n = true) :
    k ≠ c ∧ ∃ op, op.writer = b ∧ (s.pc k = .commit op ∨ s.pc k = .parked op) := by
  obtain ⟨hn, hbound, -, hu⟩ := live_eq_true_iff.mp hl
  obtain ⟨op, hop, hb⟩ := (hQ.entry b k n he).2 hn.symm hbound
  have hkc : k ≠ c := by
    rintro rfl
    rw [hc] at hop
    cases hop
  have hheld : (s.pc k).holds ≠ true := fun hh => by
    have := (hI.control.mutex k).mpr hh
    exact hkc (Option.some.inj (this.symm.trans hm))
  refine ⟨hkc, op, hb, ?_⟩
  cases hp : s.pc k with
  | commit op' => rw [hp] at hop; exact .inl (by cases hop; rfl)
  | parked op' => rw [hp] at hop; exact .inr (by cases hop; rfl)
  | unbind op' r =>
    rw [hQ.resumed k op' r hp] at hu
    cases hu
  | regist | callback => simp [hp, Pc.holds] at hheld
  | _ => simp [hp, Pc.waiting] at hop

/-- If `_NotifyOne` finds somebody in a queue, an operation of that kind is notified. -/
lemma woken_notifyOneIn {b : Bool} {w : Co → Wait} (hn : ∀ k, Notified (s.wait k) (w k))
    (h : (notifyOneIn (s.queue b) w).2.2 = true) :
    ∃ k, k ≠ c ∧ wokenAt (s.pc k) ((notifyOneIn (s.queue b) w).2.1 k) b = true := by
  obtain ⟨dead, k, n, rest, hq, -, hl, -, hw⟩ := exists_of_notifyOneIn h
  have he : some (k, n) ∈ s.queue b := by simp [hq]
  have hl' : (s.wait k).live n = true := (hn k).eq_of_live hl ▸ hl
  obtain ⟨hkc, op, hb, hp⟩ := pc_of_live hI hQ hm hc he hl'
  refine ⟨k, hkc, ?_⟩
  rcases hp with hp | hp <;> simp [hp, wokenAt, hb, hw]

omit hI hm hc in
/-- If `_NotifyOne` finds nobody in a queue, no operation of that kind is stuck. -/
lemma not_stuck_of_notifyOneIn {b : Bool} {w : Co → Wait}
    (hn : ∀ k, Notified (s.wait k) (w k)) (h : (notifyOneIn (s.queue b) w).2.2 = false) (k : Co) :
    stuckAt (s.pc k) (w k) b = false := by
  by_contra hst
  rw [Bool.not_eq_false] at hst
  obtain ⟨op, hop, hb, hu⟩ : ∃ op, (s.pc k).waiting = some op ∧ op.writer = b ∧
      (w k).round.undecided = true := by
    cases hp : s.pc k <;> simp_all [stuckAt, Pc.waiting]
  have hw := (hn k).same hu
  obtain ⟨he, hl⟩ := hQ.queued k op hop (hw ▸ hu)
  have := not_live_of_notifyOneIn h (hb ▸ he)
  rw [hw, hl] at this
  cases this

/-- After `_NotifyOne` a writer is notified, or no writer is stuck and, unless a reader is
notified, no reader either. -/
lemma handled_notifyOne {t : State Co} {p : Pc} (hpc : t.pc = s.pc) (hwait : t.wait = s.wait)
    (hq : ∀ b, t.queue b = s.queue b) (hp : ∀ w b, stuckAt p w b = false) :
    (t.notifyOne.goto c p).Woken true ∨ ¬ (t.notifyOne.goto c p).Stuck true ∧
      ((t.notifyOne.goto c p).Woken false ∨ ¬ (t.notifyOne.goto c p).Stuck false) := by
  have hqw : t.waitWritelockQueue = s.queue true := hq true
  have hqr : t.waitReadlockQueue = s.queue false := hq false
  have hpcs : ∀ k, k ≠ c → (t.notifyOne.goto c p).pc k = s.pc k := fun k hk => by
    rw [goto_pc_of_ne _ _ hk, ← hpc]
    exact congrFun (congrArg Control.pc (notifyOne_control t)) k
  have hself : (t.notifyOne.goto c p).pc c = p := goto_pc_self ..
  have hstuck : ∀ b, (∀ k, stuckAt (s.pc k) (t.notifyOne.wait k) b = false) →
      ¬ (t.notifyOne.goto c p).Stuck b := by
    rintro b hk ⟨k, hst⟩
    by_cases hkc : k = c
    · rw [hkc, hself, hp] at hst
      cases hst
    · rw [hpcs k hkc] at hst
      have := hk k
      change stuckAt (s.pc k) (t.notifyOne.wait k) b = true at hst
      rw [this] at hst
      cases hst
  have hrefl : ∀ k, Notified (s.wait k) (s.wait k) := fun k => Notified.refl _
  cases hw : (notifyOneIn (s.queue true) s.wait).2.2 with
  | true =>
    obtain ⟨k, hkc, hk⟩ := woken_notifyOneIn hI hQ hm hc hrefl hw
    refine .inl ⟨k, ?_⟩
    rw [hpcs k hkc]
    have : t.notifyOne.wait = (notifyOneIn (s.queue true) s.wait).2.1 := by
      simp [State.notifyOne, hqw, hwait, hw]
    change wokenAt (s.pc k) (t.notifyOne.wait k) true = true
    rw [this]
    exact hk
  | false =>
    have hn : ∀ k, Notified (s.wait k) ((notifyOneIn (s.queue true) s.wait).2.1 k) :=
      fun k => notifyOneIn_notified _ _ k
    have hwt : t.notifyOne.wait = (notifyOneIn (s.queue false)
        (notifyOneIn (s.queue true) s.wait).2.1).2.1 := by
      simp [State.notifyOne, hqw, hqr, hwait, hw]
    refine .inr ⟨hstuck true fun k => ?_, ?_⟩
    · have h0 := not_stuck_of_notifyOneIn hQ hrefl hw k
      by_contra hst
      rw [Bool.not_eq_false] at hst
      have hl : (s.wait k).Later (t.notifyOne.wait k) := by
        rw [hwt]
        exact ((hn k).trans (notifyOneIn_notified _ _ k)).later
      rw [stuckAt_of_later hl hst] at h0
      cases h0
    · cases hr : (notifyOneIn (s.queue false) (notifyOneIn (s.queue true) s.wait).2.1).2.2 with
      | true =>
        obtain ⟨k, hkc, hk⟩ := woken_notifyOneIn hI hQ hm hc hn hr
        refine .inl ⟨k, ?_⟩
        rw [hpcs k hkc]
        change wokenAt (s.pc k) (t.notifyOne.wait k) false = true
        rw [hwt]
        exact hk
      | false =>
        refine .inr (hstuck false fun k => ?_)
        have h0 := not_stuck_of_notifyOneIn hQ hn hr k
        by_contra hst
        rw [Bool.not_eq_false] at hst
        rw [hwt] at hst
        rw [stuckAt_of_later (notifyOneIn_notified _ _ k).later hst] at h0
        cases h0

end

/-- After `_NotifyAll(true)` no reader is stuck. -/
lemma not_stuck_notifyAllReaders (hQ : QueueInv s) {t : State Co} {p : Pc} (hpc : t.pc = s.pc)
    (hwait : t.wait = s.wait) (hq : t.waitReadlockQueue = s.queue false)
    (hp : ∀ w b, stuckAt p w b = false) : ¬ (t.notifyAllReaders.goto c p).Stuck false := by
  rintro ⟨k, hst⟩
  by_cases hkc : k = c
  · rw [hkc, goto_pc_self, hp] at hst
    cases hst
  · rw [goto_pc_of_ne _ _ hkc] at hst
    change stuckAt (t.pc k) (notifyAllIn t.waitReadlockQueue t.wait k) false = true at hst
    rw [hpc, hwait, hq] at hst
    obtain ⟨op, hop, hb, hu⟩ : ∃ op, (s.pc k).waiting = some op ∧ op.writer = false ∧
        (notifyAllIn (s.queue false) s.wait k).round.undecided = true := by
      cases hp : s.pc k <;> simp_all [stuckAt, Pc.waiting]
    have hw := (notifyAllIn_notified (s.queue false) s.wait k).same hu
    obtain ⟨he, hl⟩ := hQ.queued k op hop (hw ▸ hu)
    have := not_live_notifyAllIn s.wait (hb ▸ he)
    rw [hw, hl] at this
    cases this

omit [DecidableEq Co] in
/-- Nobody is stuck in an empty queue. -/
lemma not_stuck_of_empty (hQ : QueueInv s) {b : Bool} (hq : s.queue b = []) : ¬ s.Stuck b := by
  rintro ⟨k, hst⟩
  obtain ⟨op, hop, hb, hu⟩ : ∃ op, (s.pc k).waiting = some op ∧ op.writer = b ∧
      (s.wait k).round.undecided = true := by
    cases hp : s.pc k <;> simp_all [stuckAt, Pc.waiting]
  have := (hQ.queued k op hop hu).1
  rw [hb, hq] at this
  cases this

/-! ## The step lemma -/

omit [DecidableEq Co] in
/-- Once a writer is in the lock there is nothing to show. -/
lemma Progress.of_wlocked (h : s.status = .wlocked) : Progress s :=
  ⟨fun hf => by simp [h] at hf, fun hf => by simp [h] at hf, fun hr => by simp [h] at hr⟩

omit [DecidableEq Co] in
/-- The lock is free and was passed on. -/
lemma Progress.of_handled (hs : s.status = .free)
    (h : s.Woken true ∨ ¬ s.Stuck true ∧ (s.Woken false ∨ ¬ s.Stuck false)) : Progress s := by
  refine ⟨fun _ hst => ?_, fun _ hst => ?_, fun hr => by simp [hs] at hr⟩
  · rcases h with hw | ⟨hn, -⟩
    · exact hw
    · exact absurd hst hn
  · rcases h with hw | ⟨-, hw | hn⟩
    · exact .inl ⟨true, hw⟩
    · exact .inl ⟨false, hw⟩
    · exact absurd hst hn

/-- A notification is the reason a wait ends with, unless the yield throws. -/
lemma waitRet_of_custom (op : Op) {f : Fault} (hf : f ≠ .lateThrow) (w : Wait) :
    State.waitRet op f (w.resume pollEventCustom) = .notified := by
  simp [State.waitRet, hf, timedRet_resume_custom]

omit [DecidableEq Co] in
/-- A step of `c` that is not about the lock itself keeps the invariant. -/
lemma Progress.quiet (hP : Progress s) (ho : Others c s s') (hcore : s'.core = s.core)
    (stuck : ∀ b, stuckAt (s'.pc c) (s'.wait c) b = true →
      stuckAt (s.pc c) (s.wait c) b = true)
    (woken : ∀ b, wokenAt (s.pc c) (s.wait c) b = true →
      wokenAt (s'.pc c) (s'.wait c) b = true)
    (withdrawing : withdrawingAt (s.pc c) (s.wait c) = true →
      withdrawingAt (s'.pc c) (s'.wait c) = true)
    (reparking : reparkingAt (s.pc c) = true → reparkingAt (s'.pc c) = true) :
    Progress s' :=
  hP.same ho (congrArg Core.status hcore) (congrArg Core.waitWlockNum hcore) stuck woken
    withdrawing reparking

/-- A step of `c`, which is not a writer's, while no reader may enter: if the lock is free a counted
writer keeps them out. -/
lemma Progress.of_readBlocked (hP : Progress s) (hI' : Inv s') (ho : Others c s s')
    (hcore : s'.core = s.core) (hb : s.readBlocked)
    (stuck : stuckAt (s'.pc c) (s'.wait c) true = false)
    (woken : wokenAt (s.pc c) (s.wait c) true = false) : Progress s' := by
  have hs : s'.status = s.status := congrArg Core.status hcore
  have hflag : s'.hasWaitWlock = decide (0 < s'.waitWlockNum) := hI'.core.flag
  have hflag' : s'.hasWaitWlock = s.hasWaitWlock := congrArg Core.hasWaitWlock hcore
  have hn : s.status ≠ .wlocked → 0 < s'.waitWlockNum := fun hw => by
    rw [hflag', hb.resolve_left hw] at hflag
    exact of_decide_eq_true hflag.symm
  have hwriter : s'.status = .free → s'.Stuck true → s'.Woken true := fun hf hst => by
    have hst' : s.Stuck true := ho.stuck (fun hk => by simp [stuck] at hk) hst
    exact ho.woken (fun hk => by simp [woken] at hk) (hP.writer (hs ▸ hf) hst')
  refine ⟨hwriter, fun hf _ => ?_, fun hr h0 _ => ?_⟩
  · have := hn (by rw [← hs, hf]; simp)
    exact onTheWay_of_counted hI' hf hwriter (by omega)
  · have := hn (by rw [← hs, hr]; simp)
    omega

/-- A notified writer outside the critical sections is counted. -/
lemma counted_of_woken (hI : Inv s) (h : s.Woken true) :
    0 < s.waitWlockNum ∨ ∃ k, (s.pc k).holds = true ∧ ∃ op, s.pc k = .body op true := by
  obtain ⟨k, hk⟩ := h
  have hcounted : (s.pc k).counted = true → 0 < s.waitWlockNum := fun hc => by
    have hnum : s.waitWlockNum = s.waitingWriters.length := hI.core.num
    have := List.length_pos_of_mem ((hI.counted k).mpr hc)
    omega
  cases hp : s.pc k with
  | body op waited =>
    simp only [hp, wokenAt, Bool.and_eq_true] at hk
    exact .inr ⟨k, by rw [hp]; rfl, op, by rw [hp, hk.2]⟩
  | _ => exact .inl (hcounted (by simp_all [wokenAt, Pc.counted]))

/-- A reader that enters passes the lock on to the parked readers, unless a writer is counted. -/
lemma Progress.acquireRead {op : Op} {b : Bool} (hQ : QueueInv s) (hb : ¬ s.readBlocked) :
    Progress ((s.acquireRead c).goto c (.sysUnLock op b (.ret 0))) := by
  have hst : ¬ ((s.acquireRead c).goto c (.sysUnLock op b (.ret 0))).Stuck false := by
    have hf : s.hasWaitWlock = false := Bool.eq_false_iff.mpr fun hf => hb (.inr hf)
    simp only [State.acquireRead, hf]
    exact not_stuck_notifyAllReaders hQ rfl rfl rfl fun _ _ => rfl
  have hs : ((s.acquireRead c).goto c (.sysUnLock op b (.ret 0))).status = .rlocked :=
    congrArg Core.status (acquireRead_core s c)
  exact ⟨fun hf => by simp [hs] at hf, fun hf => by simp [hs] at hf,
    fun _ _ h => absurd h hst⟩

/-- A reader that leaves the lock free passes it on. -/
lemma Progress.rUnLock {b : Bool} (hP : Progress s) (hI : Inv s) (hQ : QueueInv s)
    (ho : Others c s ((s.rUnLock c).goto c (.sysUnLock .rUnLock b (.ret 0))))
    (hp : s.pc c = .body .rUnLock b) :
    Progress ((s.rUnLock c).goto c (.sysUnLock .rUnLock b (.ret 0))) := by
  have hok : (s.pc c).Ok := hI.control.ok c
  have hm : s.mutex = some c := (hI.control.mutex c).mpr (by simp [State.control, hp, Pc.holds])
  by_cases h0 : s.rlockHoldNum - 1 = 0
  · have hs : ((s.rUnLock c).goto c (.sysUnLock .rUnLock b (.ret 0))).status = .free := by
      have := congrArg Core.status (rUnLock_core s c)
      rwa [if_pos h0] at this
    refine .of_handled hs ?_
    simp only [State.rUnLock, h0, if_true]
    exact handled_notifyOne hI hQ hm (by rw [hp]; rfl) rfl rfl (fun _ => rfl) (by intros; rfl)
  · have hs : ((s.rUnLock c).goto c (.sysUnLock .rUnLock b (.ret 0))).status = .rlocked := by
      have := congrArg Core.status (rUnLock_core s c)
      rwa [if_neg h0] at this
    have hs₀ : s.status = .rlocked :=
      hI.rlocked_of_mem (hI.holder c .rUnLock (by simp [hp, Pc.unlocking]))
    have hb : b = false := by
      rw [hp] at hok
      by_contra hb
      rw [Bool.not_eq_false] at hb
      exact Bool.false_ne_true (hok hb)
    refine hP.same ho (hs.trans hs₀.symm) (congrArg Core.waitWlockNum (rUnLock_core s c))
      ?_ ?_ ?_ ?_ <;> simp [hp, hb, stuckAt, wokenAt, withdrawingAt, reparkingAt]

/-- A writer that leaves passes the lock on to a parked writer, or else to the parked readers. -/
lemma Progress.wUnLock {b : Bool} (hI : Inv s) (hQ : QueueInv s)
    (ho : Others c s ((s.wUnLock c).goto c (.sysUnLock .wUnLock b (.ret 0))))
    (hp : s.pc c = .body .wUnLock b) :
    Progress ((s.wUnLock c).goto c (.sysUnLock .wUnLock b (.ret 0))) := by
  have hm : s.mutex = some c := (hI.control.mutex c).mpr (by simp [State.control, hp, Pc.holds])
  have hs : ((s.wUnLock c).goto c (.sysUnLock .wUnLock b (.ret 0))).status = .free :=
    congrArg Core.status (wUnLock_core s c)
  have hempty : ∀ b', s.queue b' = [] →
      ¬ ((s.wUnLock c).goto c (.sysUnLock .wUnLock b (.ret 0))).Stuck b' := by
    intro b' hq hst
    refine not_stuck_of_empty hQ hq (ho.stuck (fun hk => ?_) hst)
    rw [goto_pc_self] at hk
    cases hk
  refine .of_handled hs ?_
  by_cases hq : s.waitWritelockQueue = []
  · refine .inr ⟨hempty true hq, .inr ?_⟩
    by_cases hr : s.waitReadlockQueue = []
    · exact hempty false hr
    · simp only [State.wUnLock, ne_eq, hq, hr, not_true_eq_false, not_false_eq_true, if_true,
        if_false]
      exact not_stuck_notifyAllReaders hQ rfl rfl rfl (by intros; rfl)
  · simp only [State.wUnLock, ne_eq, hq, not_false_eq_true, if_true]
    exact handled_notifyOne hI hQ hm (by rw [hp]; rfl) rfl rfl (fun _ => rfl) (by intros; rfl)

/-- An operation that finds the lock taken, or is kept out by a counted writer, goes to wait. -/
lemma Progress.park {op : Op} {b : Bool} (hP : Progress s)
    (hI' : Inv (s.goto c (.wait op b))) (ho : Others c s (s.goto c (.wait op b)))
    (hp : s.pc c = .body op b) (hb : s.blocked op) : Progress (s.goto c (.wait op b)) := by
  have hs : (s.goto c (.wait op b)).status = s.status := rfl
  have hstuck : ∀ {b'}, (s.goto c (.wait op b)).Stuck b' → s.Stuck b' := fun {b'} =>
    ho.stuck fun hk => by rw [goto_pc_self] at hk; cases hk
  cases ho' : op.writer with
  | true =>
    have hne : s.status ≠ .free := by simpa [State.blocked, ho'] using hb
    refine ⟨fun hf => absurd hf hne, fun hf => absurd hf hne, fun hr h0 hst => ?_⟩
    rcases hP.shared hr h0 (hstuck hst) with hk | hk
    · exact .inl (ho.woken (fun hk => by simp [hp, wokenAt, ho'] at hk) hk)
    · refine .inr (ho.reparking (fun hk => ⟨c, ?_⟩) hk)
      rw [hp] at hk
      rw [goto_pc_self]
      exact hk
  | false =>
    refine hP.of_readBlocked hI' ho rfl (by simpa [State.blocked, ho'] using hb) ?_ ?_
    · simp [stuckAt]
    · simp [hp, wokenAt, ho']

/-- The callback of the yield counts a writer before it gives the mutex up. -/
lemma Progress.callback {op : Op} {b : Bool} (hP : Progress s) (hI : Inv s)
    (hI' : Inv (s.callback c op)) (hQ : QueueInv s) (ho : Others c s (s.callback c op))
    (hp : s.pc c = .callback op b) : Progress (s.callback c op) := by
  have hb : s.blocked op := hQ.blocked c op (by rw [hp]; rfl)
  have hnum : s.waitWlockNum = s.waitingWriters.length := hI.core.num
  cases ho' : op.writer with
  | true =>
    have hne : s.status ≠ .free := by simpa [State.blocked, ho'] using hb
    have hs : (s.callback c op).status = s.status := by
      unfold State.callback
      split <;> rfl
    have hn : (s.callback c op).waitWlockNum = s.waitWlockNum + 1 := by
      simp [State.callback, ho', State.goto, State.sysUnLock]
    exact ⟨fun hf => absurd (hs ▸ hf) hne, fun hf => absurd (hs ▸ hf) hne,
      fun _ h0 => by omega⟩
  | false =>
    have hs : s.callback c op = (s.sysUnLock c).goto c (.commit op) := by
      simp [State.callback, ho']
    rw [hs] at ho hI' ⊢
    refine hP.of_readBlocked hI' ho rfl (by simpa [State.blocked, ho'] using hb) ?_ ?_
    · simp [stuckAt, ho']
    · simp [hp, wokenAt]

/-- The winner of a wait is what the operation returns with. -/
lemma Progress.resume {op : Op} {m : EventMask} (hP : Progress s)
    (ho : Others c s (s.resume c op f m)) (hf : f ≠ .lateThrow) (hp : s.pc c = .parked op)
    (hr : (s.wait c).round = .final m) : Progress (s.resume c op f m) := by
  refine hP.quiet ho rfl ?_ ?_ ?_ ?_
  · simp [State.resume, stuckAt]
  · intro b hb
    obtain ⟨rfl, rfl⟩ : op.writer = b ∧ m = pollEventCustom := by
      simpa [hp, hr, wokenAt, Round.won] using hb
    simp [State.resume, wokenAt, waitRet_of_custom op hf]
  · simp +contextual [hp, State.resume, withdrawingAt]
  · simp [hp, reparkingAt]

/-- The waiter leaves its queue entry behind and goes on with what the wait returned. -/
lemma Progress.unbind {op : Op} {ret : WaitRet} (hP : Progress s)
    (ho : Others c s (s.unbind c op ret)) (hp : s.pc c = .unbind op ret) :
    Progress (s.unbind c op ret) := by
  refine hP.quiet ho rfl ?_ ?_ ?_ ?_
  · rw [State.unbind, goto_pc_self]
    split <;> simp [stuckAt]
  · rw [State.unbind, goto_pc_self, hp]
    split
    · rename_i hr
      simp [hr.1, wokenAt]
    · simp [wokenAt]
  · rw [State.unbind, goto_pc_self, hp]
    split
    · rename_i hr
      simp [hr.2, withdrawingAt]
    · simp [withdrawingAt]
  · simp [hp, reparkingAt]

/-- A writer that withdraws and tries again is on its way. -/
lemma Progress.withdrawAgain (s : State Co) (c : Co) :
    Progress ((s.withdraw c).goto c (.body .wLock true)) := by
  have hw : ((s.withdraw c).goto c (.body .wLock true)).Woken true :=
    ⟨c, by simp [wokenAt, Op.writer]⟩
  have hr : ((s.withdraw c).goto c (.body .wLock true)).Reparking :=
    ⟨c, by simp [reparkingAt, Op.writer]⟩
  exact ⟨fun _ _ => hw, fun _ _ => .inl ⟨true, hw⟩, fun _ _ _ => .inr hr⟩

/-- A writer that gives up is on its way out of the critical section. -/
lemma Progress.writerGivesUp {op : Op} {ret : WaitRet} {r : Result} (hP : Progress s)
    (ho : Others c s ((s.withdraw c).goto c (.sysUnLock op true r)))
    (hp : s.pc c = .settle op ret) (hw : op.writer = true) (hr : r ≠ .ret 0)
    (hb : ret = .notified → s.status ≠ .free) :
    Progress ((s.withdraw c).goto c (.sysUnLock op true r)) := by
  refine ⟨fun hf hst => ?_, fun _ _ => .inr ⟨c, ?_⟩, fun _ _ _ => .inr ⟨c, ?_⟩⟩
  · have hne : ret ≠ .notified := fun h => hb h hf
    have hst' : s.Stuck true := ho.stuck (fun hk => by simp [stuckAt] at hk) hst
    exact ho.woken (fun hk => by simp [hp, hne, wokenAt] at hk) (hP.writer hf hst')
  · simp [withdrawingAt, hw, hr]
  · simp [reparkingAt, hw, hr]

/-- A writer that gives up leaves somebody behind who sees to the readers, or none to see to. -/
lemma Progress.leave {op : Op} {b : Bool} {r : Result} (hP : Progress s) (hI : Inv s)
    (hI' : Inv ((s.sysUnLock c).goto c .idle)) (ho : Others c s ((s.sysUnLock c).goto c .idle))
    (hp : s.pc c = .sysUnLock op b r) (hg : s.givesUp c = true) (hK : Kept s (.run c f)) :
    Progress ((s.sysUnLock c).goto c .idle) := by
  have hm : s.mutex = some c := (hI.control.mutex c).mpr (by simp [State.control, hp, Pc.holds])
  have hstuck : ∀ {b}, ((s.sysUnLock c).goto c .idle).Stuck b → s.Stuck b := fun {b} =>
    ho.stuck fun hk => by simp [stuckAt] at hk
  have hwoken : ∀ {b}, s.Woken b → ((s.sysUnLock c).goto c .idle).Woken b := fun {b} =>
    ho.woken fun hk => by simp [hp, wokenAt] at hk
  have hwriter : s.status = .free → ((s.sysUnLock c).goto c .idle).Stuck true →
      ((s.sysUnLock c).goto c .idle).Woken true := fun hf hst =>
    hwoken (hP.writer hf (hstuck hst))
  rcases hK.2 hg with hn | hl | ⟨b, hb⟩ | hn
  · refine ⟨hwriter, fun hf _ => ?_, fun _ h0 => ?_⟩
    · exact onTheWay_of_counted hI' hf hwriter (by change s.waitWlockNum ≠ 0; omega)
    · change s.waitWlockNum = 0 at h0
      omega
  · exact .of_wlocked hl
  · refine ⟨hwriter, fun _ _ => .inl ⟨b, hwoken hb⟩, fun _ h0 _ => ?_⟩
    cases b with
    | false => exact .inl (hwoken hb)
    | true =>
      change s.waitWlockNum = 0 at h0
      rcases counted_of_woken hI hb with hn | ⟨k, hk, op', hp'⟩
      · omega
      · have hkc : k = c :=
          Option.some.inj (((hI.control.mutex k).mpr hk).symm.trans hm)
        rw [hkc, hp] at hp'
        cases hp'
  · exact ⟨hwriter, fun _ hst => absurd (hstuck hst) hn, fun _ _ hst => absurd (hstuck hst) hn⟩

/-- Every step of a coroutine that is `Kept` keeps the invariant. -/
lemma Step.progress (h : Step c f s s') (hI : Inv s) (hI' : Inv s') (hQ : QueueInv s)
    (hP : Progress s) (hK : Kept s (.run c f)) : Progress s' := by
  have ho := h.others
  have hok : (s.pc c).Ok := hI.control.ok c
  cases h with
  | enter hp =>
    refine hP.quiet ho rfl ?_ ?_ ?_ ?_ <;>
      simp [hp, stuckAt, wokenAt, withdrawingAt, reparkingAt]
  | @refuse op b hp hw =>
    have hb : b = false := by
      rw [hp] at hok
      by_contra hb
      rw [Bool.not_eq_false] at hb
      simp [hok hb] at hw
    refine hP.quiet ho rfl ?_ ?_ ?_ ?_ <;>
      simp [hp, hb, stuckAt, wokenAt, withdrawingAt, reparkingAt]
  | prepareFails hp hr =>
    refine hP.quiet ho rfl ?_ ?_ ?_ ?_ <;>
      simp +contextual [hp, hr, stuckAt, wokenAt, withdrawingAt, reparkingAt]
  | prepareAbandons hp hr hs =>
    refine hP.quiet ho (by simp) ?_ ?_ ?_ ?_ <;>
      simp +contextual [hp, hr, stuckAt, wokenAt, withdrawingAt, reparkingAt]
  | prepare hp =>
    refine hP.quiet ho (by simp) ?_ ?_ ?_ ?_ <;>
      simp +contextual [hp, stuckAt, wokenAt, withdrawingAt, reparkingAt]
  | registFails hp =>
    refine hP.quiet ho rfl ?_ ?_ ?_ ?_ <;>
      simp +contextual [hp, stuckAt, wokenAt, withdrawingAt, reparkingAt]
  | regist hp =>
    refine hP.quiet ho rfl ?_ ?_ ?_ ?_ <;>
      simp +contextual [hp, stuckAt, wokenAt, withdrawingAt, reparkingAt]
  | @commit op hp =>
    have hw : (((s.setWait c (s.wait c).commitPark).goto c (.parked op)).wait c) =
        (s.wait c).commitPark := Function.update_self ..
    refine hP.quiet ho rfl ?_ ?_ ?_ ?_ <;>
      simp +contextual [hp, hw, stuckAt, wokenAt, withdrawingAt, reparkingAt]
  | resume hp hr => exact hP.resume ho hK.1 hp hr
  | unbind hp => exact hP.unbind ho hp
  | relock hp hm =>
    refine hP.quiet ho rfl ?_ ?_ ?_ ?_ <;>
      simp [hp, stuckAt, wokenAt, withdrawingAt, reparkingAt]
  | again hp hw =>
    subst hw
    refine hP.quiet ho rfl ?_ ?_ ?_ ?_ <;>
      simp +contextual [hp, stuckAt, wokenAt, withdrawingAt, reparkingAt, Op.writer]
  | acquireWrite | withdrawAcquire => exact .of_wlocked rfl
  | acquireRead _ _ hb => exact .acquireRead hQ hb
  | rUnLock hp => exact hP.rUnLock hI hQ ho hp
  | wUnLock hp => exact .wUnLock hI hQ ho hp
  | park hp _ hb => exact hP.park hI' ho hp hb
  | callback hp => exact hP.callback hI hI' hQ ho hp
  | @readerGivesUp op ret r hp hw hr hb =>
    rcases hb with rfl | hb
    · refine hP.quiet ho rfl ?_ ?_ ?_ ?_ <;>
        simp [hp, hw, stuckAt, wokenAt, withdrawingAt, reparkingAt]
    · refine hP.of_readBlocked hI' ho rfl hb ?_ ?_ <;> simp [hp, hw, stuckAt, wokenAt]
  | withdrawAgain => exact .withdrawAgain s c
  | writerGivesUp hp hw hr hb => exact hP.writerGivesUp ho hp hw hr hb
  | @leave op b r hp =>
    cases hg : s.givesUp c with
    | true => exact hP.leave hI hI' ho hp hg hK
    | false =>
      simp only [State.givesUp, hp] at hg
      refine hP.quiet ho rfl ?_ ?_ ?_ ?_ <;>
        simp [hp, hg, stuckAt, wokenAt, withdrawingAt, reparkingAt]

/-- The wait record of one coroutine moves on. -/
lemma Progress.setWait {w : Wait} (hP : Progress s) (h : (s.wait c).Later w) :
    Progress (s.setWait c w) := by
  have ho : Others c s (s.setWait c w) := ⟨fun _ _ => rfl, fun k _ => (later_setWait s c h).wait k⟩
  have hl : (s.wait c).Later ((s.setWait c w).wait c) := (later_setWait s c h).wait c
  exact hP.quiet ho rfl (fun _ => stuckAt_of_later hl) (fun _ => wokenAt_of_later hl)
    (withdrawingAt_of_later hl) id

/-- The step lemma of the system. -/
lemma Progress.next {l : Label Co} (hI : Inv s) (hI' : Inv s') (hQ : QueueInv s)
    (hP : Progress s) (hK : Kept s l) (hs : next s l = some s') : Progress s' := by
  cases l with
  | call c op =>
    simp only [CoRWMutex.next] at hs
    split at hs <;> cases hs
    rename_i hc
    have ho : Others c s (s.goto c (.sysLock op)) :=
      ⟨fun _ hk => goto_pc_of_ne _ _ hk, fun _ _ => Wait.Later.refl _⟩
    refine hP.quiet ho rfl ?_ ?_ ?_ ?_ <;>
      simp [hc.1, stuckAt, wokenAt, withdrawingAt, reparkingAt]
  | run c f => exact (State.step_cases (hI.control.ok c) hs).progress hI hI' hQ hP hK
  | timer c =>
    simp only [CoRWMutex.next] at hs
    split at hs <;> cases hs
    exact hP.setWait (later_trigger _ _)
  | requestCancel c =>
    cases hs
    exact hP.setWait (later_requestCancel _)
  | cancelTrigger c =>
    simp only [CoRWMutex.next] at hs
    split at hs <;> cases hs
    exact hP.setWait (later_trigger _ _)

/-! ## All runs -/

omit [DecidableEq Co] in
/-- Nobody is stuck initially. -/
lemma progress_init : Progress ({} : State Co) := by
  have hst : ∀ b, ¬ ({} : State Co).Stuck b := fun b ⟨k, hk⟩ => by cases hk
  exact ⟨fun _ h => absurd h (hst _), fun _ h => absurd h (hst _), fun _ _ h => absurd h (hst _)⟩

/-- The invariant of the queues holds in every reachable state. -/
lemma queueInv_of_reachable (h : (system Co).Reachable s) : QueueInv s := by
  refine System.ReachableWhen.induct_with (J := Inv) (I := QueueInv)
    (fun _ hr => inv_of_reachable hr) ?_ (fun _ _ _ hI _ hQ _ hs => hQ.next hI hs) h
  rintro _ rfl
  exact queueInv_init

/-- Somebody is on the way in every state that a run of kept steps reaches. -/
lemma progress_of_kept (h : (system Co).ReachableWhen Kept s) : Progress s := by
  refine System.ReachableWhen.induct_with (J := fun s => Inv s ∧ QueueInv s) (I := Progress)
    (fun _ hr => ⟨inv_of_reachable hr.reachable, queueInv_of_reachable hr.reachable⟩) ?_
    (fun _ _ _ hJ hJ' hP hK hs => hP.next hJ.1 hJ'.1 hJ.2 hK hs) h
  rintro _ rfl
  exact progress_init

section

omit [DecidableEq Co]

/-- Somebody who was woken is in flight. -/
lemma State.Woken.inFlight {b : Bool} (h : s.Woken b) : ∃ c, s.inFlight c = true := by
  obtain ⟨c, hc⟩ := h
  refine ⟨c, ?_⟩
  cases hp : s.pc c with
  | commit | parked =>
    simp only [hp, wokenAt, Bool.and_eq_true, beq_iff_eq] at hc
    simp [State.inFlight, hp, Round.undecided_of_won hc.2]
  | _ => simp_all [wokenAt, State.inFlight]

/-- Somebody who withdraws is in flight. -/
lemma State.Withdrawing.inFlight (h : s.Withdrawing) : ∃ c, s.inFlight c = true := by
  obtain ⟨c, hc⟩ := h
  exact ⟨c, by cases hp : s.pc c <;> simp_all [withdrawingAt, State.inFlight]⟩

/-- Somebody on the way to its next wait is in flight. -/
lemma State.Reparking.inFlight (h : s.Reparking) : ∃ c, s.inFlight c = true := by
  obtain ⟨c, hc⟩ := h
  exact ⟨c, by cases hp : s.pc c <;> simp_all [reparkingAt, State.inFlight]⟩

/-- Who is parked in a queue is stuck. -/
lemma State.Stuck.of_parkedIn {b : Bool} (h : s.parkedIn c b = true) : s.Stuck b := by
  refine ⟨c, ?_⟩
  cases hp : s.pc c with
  | parked op =>
    simp only [State.parkedIn, hp, Bool.and_eq_true, beq_iff_eq] at h
    simp [stuckAt, h.1, h.2, Round.undecided]
  | _ => simp [State.parkedIn, hp] at h

/-- With nobody on the way, nobody can be stuck. -/
lemma Progress.strandless (hP : Progress s) : Strandless s := by
  intro hquiet
  have hno : ¬ ∃ c, s.inFlight c = true := fun ⟨c, hc⟩ => by simp [hquiet c] at hc
  refine ⟨fun hf c b => ?_, fun hr h0 c => ?_⟩ <;> rw [← Bool.not_eq_true] <;> intro hp
  · have hst := State.Stuck.of_parkedIn hp
    cases b with
    | true => exact hno (hP.writer hf hst).inFlight
    | false =>
      rcases hP.reader hf hst with ⟨b, hw⟩ | hw
      · exact hno hw.inFlight
      · exact hno hw.inFlight
  · rcases hP.shared hr h0 (.of_parkedIn hp) with hw | hw
    · exact hno hw.inFlight
    · exact hno hw.inFlight

end

/-- In every run of kept steps no waiter is ever stranded. -/
theorem strandless_of_kept (h : (system Co).ReachableWhen Kept s) : Strandless s :=
  (progress_of_kept h).strandless

/-- Nothing fails in the step, and a writer that gives up leaves another waiting writer: a part of
`Kept` that can be evaluated. -/
def leavesWriter (s : State Co) : Label Co → Bool
  | .run c f => f = .none && (!s.givesUp c || 0 < s.waitWlockNum)
  | _ => true

omit [DecidableEq Co] in
/-- A step that leaves a writer behind is kept. -/
lemma kept_of_leavesWriter {l : Label Co} (h : leavesWriter s l = true) : Kept s l := by
  cases l with
  | run c f =>
    simp only [leavesWriter, Bool.and_eq_true, decide_eq_true_eq, Bool.or_eq_true,
      Bool.not_eq_true'] at h
    obtain ⟨rfl, hg | hn⟩ := h
    · exact ⟨by simp, fun hg' => by simp [hg] at hg'⟩
    · exact ⟨by simp, fun _ => .inl hn⟩
  | _ => trivial

/-- A writer times out next to another waiting writer. -/
theorem strandless_two_writers : ∃ s : State (Fin 3),
    s.pc 1 = .idle ∧ s.parkedIn 2 true = true ∧ Strandless s := by
  have h : (system (Fin 3)).endsInWhen (fun s l => leavesWriter s l = true) {}
      [performs 0 .rLock 3, performs 1 (.tryWLockFor 10) 6, performs 2 .wLock 6, [.timer 1],
        List.replicate 5 (.run 1 .none)].flatten
      (fun s => s.pc 1 = .idle ∧ s.parkedIn 2 true = true) = true := by
    decide
  obtain ⟨s, hs, hi, hp⟩ := System.exists_of_endsInWhen (A := system (Fin 3)) rfl h
  exact ⟨s, hi, hp, strandless_of_kept (hs.mono fun _ _ => kept_of_leavesWriter)⟩

/-- The steps of runs without cancels and failures. -/
def Label.listed : Label Co → Bool
  | .call _ _ | .timer _ => true
  | .run _ f => f = .none
  | _ => false

/-- Whether a state strands nobody can be computed. -/
instance [Fintype Co] (s : State Co) : Decidable (Strandless s) :=
  inferInstanceAs (Decidable (_ → _))

/-- A writer times out and strands the reader that parked behind it: under readers, and in the free
lock if the unlock has met the writer between its timeout and its withdrawal. -/
theorem stranded_reader :
    (∃ s : State (Fin 3), (system (Fin 3)).ReachableWhen (fun _ l => l.listed = true) s ∧
      s.status = .rlocked ∧ ¬ Strandless s) ∧
    ∃ s : State (Fin 3), (system (Fin 3)).ReachableWhen (fun _ l => l.listed = true) s ∧
      s.status = .free ∧ ¬ Strandless s := by
  have h : (system (Fin 3)).endsInWhen (fun _ l => l.listed = true) {}
      [performs 0 .rLock 3, performs 1 (.tryWLockFor 10) 6, performs 2 .rLock 6, [.timer 1],
        List.replicate 5 (.run 1 .none)].flatten
      (fun s => s.status = .rlocked ∧ ¬ Strandless s) = true := by
    decide
  have h' : (system (Fin 3)).endsInWhen (fun _ l => l.listed = true) {}
      [performs 0 .rLock 3, performs 1 (.tryWLockFor 10) 6, performs 2 .rLock 6, [.timer 1],
        performs 0 .rUnLock 3, List.replicate 9 (.run 2 .none),
        List.replicate 5 (.run 1 .none)].flatten
      (fun s => s.status = .free ∧ ¬ Strandless s) = true := by
    decide
  exact ⟨System.exists_of_endsInWhen (A := system (Fin 3)) rfl h,
    System.exists_of_endsInWhen (A := system (Fin 3)) rfl h'⟩

end BbtCoroutine.CoRWMutex
