import BbtCoroutine.CountDownLatch.Model

/-!
# What `CountDownLatch` reports

`Truthful` says what the results of `Wait` and `WaitTimeout` mean, and that a count of zero leaves
no waiter without a notification.  A thread that is about to return holds the lock since its last
test, so the count is that of the test.

`WaitTimeout` looks at the count once, before it waits, so its results say less than those of
`Wait`: `not_truthful` has a run in which it returns 0 although the count is positive throughout,
one in which it reports a timeout at a count of zero, and one in which it waits on at a count of
zero after a signal.
-/

namespace BbtCoroutine.CountDownLatch

open Hook (Timespec int64)
open Transition

variable {Th : Type*} {s t : State Th} {c k : Th}

/-! ## The statement -/

/-- The thread is in `Down` and has the broadcast before it. -/
def Pc.notifies : Pc → Bool
  | .test | .broadcast => true
  | _ => false

/-- A notification of `k` is pending: it has been notified since it began to wait, or a `Down` that
holds the lock is about to look at the count and notify it. -/
def State.Pending (s : State Th) (k : Th) : Prop :=
  s.notified k = true ∨ ∃ d, s.mutex = some d ∧ (s.pc d).notifies = true

/-- The results of the latch are truthful. -/
structure Truthful (s : State Th) : Prop where
  /-- `Wait` returns at a count of zero or below. -/
  wait : ∀ k r, s.pc k = .leave .wait r → s.count ≤ 0
  /-- `WaitTimeout` returns 0 only if the count has been zero or below, or its wait has ended for no
  reason. -/
  zero : ∀ k timeout, s.pc k = .leave (.waitTimeout timeout) 0 →
    s.reached = true ∨ (s.seen k).wake = some .spurious
  /-- The only other result of `WaitTimeout` is -1, and then the clock has passed the time of the
  call by the timeout, or the wait has failed with an error of its own. -/
  timeout : ∀ k timeout r, s.pc k = .leave (.waitTimeout timeout) r → r ≠ 0 →
    r = -1 ∧ ((s.seen k).start.ns + timeout * 1000000 ≤ (s.seen k).last.ns ∨
      ∃ errno, (s.seen k).wake = some (.failed errno))
  /-- At a count of zero or below every thread that waits has a notification pending, unless a
  signal has interrupted its wait. -/
  pending : s.count ≤ 0 → ∀ k, (s.pc k).asleep = true →
    s.Pending k ∨ (s.seen k).interrupted = true

/-! ## The end of a timed wait -/

/-- A computation on `long long` that is defined has the exact result. -/
lemma eq_of_int64 {n m : ℤ} (h : int64 n = some m) : m = n := by
  unfold int64 at h
  split at h
  · exact (Option.some.inj h).symm
  · cases h

/-- The end of a wait is as many nanoseconds after its beginning as were asked for. -/
lemma endTm_ns {now e : Timespec} {timeout : ℤ} (h : endTm now timeout = some e) :
    e.ns = now.ns + timeout * 1000000 ∧ e.nsec < 1000000000 := by
  simp only [endTm, Option.bind_eq_bind, Option.bind_eq_some_iff] at h
  obtain ⟨n₁, h₁, n₂, h₂, n₃, h₃, n₄, h₄, h⟩ := h
  rw [← Option.some.inj h]
  have e₁ := eq_of_int64 h₁
  have e₂ := eq_of_int64 h₂
  have e₃ := eq_of_int64 h₃
  have e₄ := eq_of_int64 h₄
  have hm := Int.tmod_lt_of_pos n₄ (show (0 : ℤ) < 1000000000 by omega)
  have hd := Int.tmod_def n₄ 1000000000
  unfold Timespec.ns
  constructor <;> dsimp only <;> omega

/-- A reading that has passed the end of a wait is not smaller in nanoseconds. -/
lemma ns_le_of_passed {cur e : Timespec} (hc : IsReading cur) (he : e.nsec < 1000000000)
    (h : Passed cur e) : e.ns ≤ cur.ns := by
  obtain ⟨h0, h1⟩ := hc
  unfold Timespec.ns
  obtain h | ⟨h, hn⟩ := h <;> omega

/-! ## The invariant -/

/-- The thread holds the lock. -/
def Pc.holds : Pc → Bool
  | .idle | .enter _ | .waiting | .timedWaiting _ _ | .woken | .timedWoken _ _ _ => false
  | _ => true

/-- The wait ends as many milliseconds after its beginning as were asked for. -/
def Seen.Ends (v : Seen) (timeout : ℤ) (e : Timespec) : Prop :=
  e.ns = v.start.ns + timeout * 1000000 ∧ e.nsec < 1000000000

/-- The wait that ends at `e` has ended with `w`. -/
structure Seen.Ended (v : Seen) (reached : Bool) (e : Timespec) (w : Wake) : Prop where
  wake : v.wake = some w
  notified : w = .notified → reached = true
  timedOut : w = .timedOut → e.ns ≤ v.last.ns
  interrupted : w = .interrupted → v.interrupted = true
  failed : ∀ errno, w = .failed errno → errno ≠ 0 ∧ errno ≠ etimedout ∧ errno ≠ eintr

/-- What holds of a thread at a point of an operation. -/
def Pc.Fits (count : ℤ) (reached : Bool) (v : Seen) : Pc → Prop
  | .getTime _ | .condWait => 0 < count
  | .condTimedWait timeout e => v.Ends timeout e ∧ (0 < count ∨ v.interrupted = true)
  | .timedWaiting timeout e => v.Ends timeout e
  | .recheck timeout e => v.Ends timeout e ∧ v.interrupted = true
  | .timedWoken timeout e w | .result timeout e w => v.Ends timeout e ∧ v.Ended reached e w
  | .broadcast => reached = true
  | .leave .wait _ => count ≤ 0
  | .leave (.waitTimeout timeout) r =>
    r = 0 ∧ (reached = true ∨ v.wake = some .spurious) ∨
      r = -1 ∧ (v.start.ns + timeout * 1000000 ≤ v.last.ns ∨
        ∃ errno, v.wake = some (.failed errno))
  | _ => True

/-- What holds in every state. -/
structure Inv (s : State Th) : Prop where
  clock : IsReading s.clock
  mutex : ∀ k, (s.pc k).holds = true ↔ s.mutex = some k
  reached : s.count ≤ 0 → s.reached = true
  notified : ∀ k, s.notified k = true → s.reached = true
  fits : ∀ k, (s.pc k).Fits s.count s.reached (s.seen k)
  pending : s.count ≤ 0 → ∀ k, (s.pc k).asleep = true →
    s.Pending k ∨ (s.seen k).interrupted = true

/-- The answers are truthful under the invariant. -/
lemma Inv.truthful (h : Inv s) : Truthful s where
  wait k r hk := by
    have hf := h.fits k
    rw [hk] at hf
    exact hf
  zero k timeout hk := by
    have hf := h.fits k
    rw [hk] at hf
    obtain ⟨-, hf⟩ | ⟨h0, -⟩ := hf
    · exact hf
    · exact absurd h0 (by decide)
  timeout k timeout r hk hr := by
    have hf := h.fits k
    rw [hk] at hf
    obtain ⟨h0, -⟩ | hf := hf
    · exact absurd h0 hr
    · exact hf
  pending := h.pending

/-- Where the lock is not held, the count is not known. -/
lemma Pc.Fits.count {n m : ℤ} {b : Bool} {v : Seen} {p : Pc} (h : p.Fits n b v)
    (hp : p.holds = false) : p.Fits m b v := by
  cases p with
  | idle | enter _ | waiting | woken => exact trivial
  | timedWaiting | timedWoken => exact h
  | _ => cases hp

/-- What has been reached stays reached. -/
lemma Pc.Fits.reached {n : ℤ} {b b' : Bool} {v : Seen} {p : Pc} (h : p.Fits n b v)
    (hb : b = true → b' = true) : p.Fits n b' v := by
  cases p with
  | timedWoken | result =>
    obtain ⟨he, hw⟩ := h
    exact ⟨he, { hw with notified := fun hn => hb (hw.notified hn) }⟩
  | broadcast => exact hb h
  | leave op r =>
    cases op with
    | waitTimeout timeout =>
      obtain ⟨hr, h⟩ | h := h
      · exact .inl ⟨hr, h.imp_left hb⟩
      · exact .inr h
    | _ => exact h
  | _ => exact h

variable [DecidableEq Th]

/-! ## The steps -/

/-- The lock after a step of `c` from a point that holds it or not to the point `p`. -/
inductive Locks (s t : State Th) (c : Th) (p : Pc) : Prop
  | keeps (h : t.mutex = s.mutex) (hp : p.holds = (s.pc c).holds)
  | locks (h : t.mutex = some c) (hs : s.mutex = none) (hp : p.holds = true)
  | unlocks (h : t.mutex = none) (hs : (s.pc c).holds = true) (hp : p.holds = false)

/-- The mutex is held by who is inside after the step too. -/
lemma Inv.mutex_of_locks (h : Inv s) {p : Pc} (hpc : t.pc = Function.update s.pc c p)
    (hl : Locks s t c p) (k : Th) : (t.pc k).holds = true ↔ t.mutex = some k := by
  have hm := h.mutex k
  have hc := h.mutex c
  rw [hpc]
  by_cases hk : k = c
  · subst hk
    rw [Function.update_self]
    obtain ⟨ht, hp⟩ | ⟨ht, -, hp⟩ | ⟨ht, -, hp⟩ := hl
    · rw [ht, hp]
      exact hm
    · rw [ht, hp]
      simp
    · rw [ht, hp]
      simp
  · rw [Function.update_of_ne hk]
    obtain ⟨ht, -⟩ | ⟨ht, hs, -⟩ | ⟨ht, hs, -⟩ := hl
    · rw [ht]
      exact hm
    · rw [hm, hs, ht]
      simp [Ne.symm hk]
    · rw [hm, hc.mp hs, ht]
      simp [Ne.symm hk]

/-- A step of `c` that does not change the count keeps the invariant. -/
lemma Inv.step (h : Inv s) {p : Pc} {v : Seen} (hclock : t.clock = s.clock)
    (hcount : t.count = s.count) (hreached : t.reached = s.reached)
    (hpc : t.pc = Function.update s.pc c p) (hseen : t.seen = Function.update s.seen c v)
    (hl : Locks s t c p) (hnotified : ∀ k, t.notified k = true → s.reached = true)
    (hother : ∀ k, k ≠ c → s.notified k = true → t.notified k = true)
    (hfits : p.Fits s.count s.reached v)
    (hasleep : s.count ≤ 0 → p.asleep = true → v.interrupted = true)
    (hnotifies : s.count ≤ 0 → (s.pc c).notifies = true →
      p.notifies = true ∨ ∀ k, (s.pc k).asleep = true → t.notified k = true) : Inv t where
  clock := hclock ▸ h.clock
  mutex := h.mutex_of_locks hpc hl
  reached hn := by
    rw [hreached]
    exact h.reached (hcount ▸ hn)
  notified k hk := by
    rw [hreached]
    exact hnotified k hk
  fits k := by
    rw [hpc, hseen, hcount, hreached]
    by_cases hk : k = c
    · subst hk
      rw [Function.update_self, Function.update_self]
      exact hfits
    · rw [Function.update_of_ne hk, Function.update_of_ne hk]
      exact h.fits k
  pending hn k hk := by
    rw [hcount] at hn
    have hmutex := h.mutex_of_locks hpc hl
    rw [hpc] at hk
    rw [hseen]
    by_cases hkc : k = c
    · subst hkc
      rw [Function.update_self] at hk ⊢
      exact .inr (hasleep hn hk)
    · rw [Function.update_of_ne hkc] at hk ⊢
      obtain (hp | ⟨d, hd, hnd⟩) | hi := h.pending hn k hk
      · exact .inl (.inl (hother k hkc hp))
      · -- the pending broadcast is that of `d`; it is gone only if `d = c` has done it
        by_cases hdc : d = c
        · subst hdc
          obtain hp | hall := hnotifies hn hnd
          · refine .inl (.inr ⟨d, (hmutex d).mp ?_, ?_⟩) <;> rw [hpc, Function.update_self]
            · cases p with
              | test | broadcast => rfl
              | _ => cases hp
            · exact hp
          · exact .inl (.inl (hall k hk))
        · refine .inl (.inr ⟨d, (hmutex d).mp ?_, ?_⟩) <;> rw [hpc, Function.update_of_ne hdc]
          · exact (h.mutex d).mpr hd
          · exact hnd
      · exact .inr hi

/-- A step in which the thread neither takes the lock nor gives it up nor begins to wait. -/
lemma Inv.sees (h : Inv s) {p : Pc} {v : Seen} (hp : p.holds = (s.pc c).holds)
    (hfits : p.Fits s.count s.reached v) (hasleep : p.asleep = false)
    (hn : s.count ≤ 0 → (s.pc c).notifies = true → p.notifies = true) :
    Inv ((s.sees c v).goto c p) := by
  refine h.step rfl rfl rfl rfl rfl (.keeps rfl hp) h.notified (fun _ _ hk => hk) hfits ?_ ?_
  · intro _ ha
    rw [hasleep] at ha
    cases ha
  · intro h0 hc
    exact .inl (hn h0 hc)

/-- The same when nothing is seen. -/
lemma Inv.goto (h : Inv s) {p : Pc} (hp : p.holds = (s.pc c).holds)
    (hfits : p.Fits s.count s.reached (s.seen c)) (hasleep : p.asleep = false)
    (hn : s.count ≤ 0 → (s.pc c).notifies = true → p.notifies = true) : Inv (s.goto c p) := by
  have hsees : (s.sees c (s.seen c)).goto c p = s.goto c p := by
    unfold State.sees State.goto
    rw [Function.update_eq_self]
  rw [← hsees]
  exact h.sees hp hfits hasleep hn

/-- A thread that holds the lock notifies nobody after it has taken it. -/
lemma Inv.lock (h : Inv s) {p : Pc} (hs : s.lock c p = some t) (hp : p.holds = true)
    (hfits : p.Fits s.count s.reached (s.seen c)) (hasleep : p.asleep = false) : Inv t := by
  unfold State.lock at hs
  split at hs
  · rename_i hm
    obtain rfl := Option.some.inj hs
    refine h.step rfl rfl rfl rfl (Function.update_eq_self c s.seen).symm (.locks rfl hm hp)
      h.notified (fun _ _ hk => hk) hfits ?_ ?_
    · intro _ ha
      rw [hasleep] at ha
      cases ha
    · intro _ hc
      have hholds : (s.pc c).holds = true := by
        cases hpc : s.pc c with
        | test | broadcast => rfl
        | _ =>
          rw [hpc] at hc
          cases hc
      rw [(h.mutex c).mp hholds] at hm
      cases hm
  · cases hs

/-- A thread begins to wait. -/
lemma Inv.sleep (h : Inv s) {p : Pc} (hc : (s.pc c).holds = true) (hp : p.holds = false)
    (hn : (s.pc c).notifies = false) (hfits : p.Fits s.count s.reached (s.seen c))
    (hasleep : s.count ≤ 0 → (s.seen c).interrupted = true) : Inv (s.sleep c p) := by
  refine h.step rfl rfl rfl rfl (Function.update_eq_self c s.seen).symm (.unlocks rfl hc hp)
    ?_ ?_ hfits (fun h0 _ => hasleep h0) ?_
  · intro k hk
    by_cases hkc : k = c
    · subst hkc
      have hf : Function.update s.notified k false k = true := hk
      rw [Function.update_self] at hf
      cases hf
    · have hf : Function.update s.notified c false k = true := hk
      rw [Function.update_of_ne hkc] at hf
      exact h.notified k hf
  · intro k hkc hk
    have hf : Function.update s.notified c false k = s.notified k := Function.update_of_ne hkc _ _
    exact hf.trans hk
  · intro _ hc'
    rw [hn] at hc'
    cases hc'

/-- The test of the count. -/
lemma Inv.check (h : Inv s) {op : Op} (hpc : s.pc c = .check op) (hs : run s c = some t) :
    Inv t := by
  have hquiet : (s.pc c).notifies = true → False := by
    rw [hpc]
    exact Bool.false_ne_true
  simp only [run, hpc] at hs
  split at hs
  · rename_i hpos
    cases op with
    | waitTimeout timeout =>
      obtain rfl := Option.some.inj hs
      exact h.goto (by rw [hpc]; rfl) hpos rfl fun _ hn => (hquiet hn).elim
    | wait | down =>
      obtain rfl := Option.some.inj hs
      exact h.goto (by rw [hpc]; rfl) hpos rfl fun _ hn => (hquiet hn).elim
  · rename_i hpos
    obtain rfl := Option.some.inj hs
    refine h.goto (by rw [hpc]; rfl) ?_ rfl fun _ hn => (hquiet hn).elim
    have hzero : s.count ≤ 0 := by omega
    cases op with
    | wait => exact hzero
    | waitTimeout timeout => exact .inl ⟨rfl, .inl (h.reached hzero)⟩
    | down => exact trivial

/-- The result of a timed wait. -/
lemma Inv.result (h : Inv s) {timeout : ℤ} {e : Timespec} {w : Wake}
    (hpc : s.pc c = .result timeout e w) (hs : run s c = some t) : Inv t := by
  have hquiet : (s.pc c).notifies = true → False := by
    rw [hpc]
    exact Bool.false_ne_true
  have hholds {op : Op} {r : ℤ} : (Pc.leave op r).holds = (s.pc c).holds := by
    rw [hpc]
    rfl
  have hfits := h.fits c
  rw [hpc] at hfits
  obtain ⟨hends, hended⟩ := hfits
  simp only [run, hpc] at hs
  cases w with
  | notified =>
    obtain rfl := Option.some.inj hs
    exact h.goto hholds (.inl ⟨rfl, .inl (hended.notified rfl)⟩) rfl fun _ hn => (hquiet hn).elim
  | spurious =>
    obtain rfl := Option.some.inj hs
    exact h.goto hholds (.inl ⟨rfl, .inr hended.wake⟩) rfl fun _ hn => (hquiet hn).elim
  | timedOut =>
    obtain rfl := Option.some.inj hs
    refine h.goto hholds (.inr ⟨rfl, .inl ?_⟩) rfl fun _ hn => (hquiet hn).elim
    rw [← hends.1]
    exact hended.timedOut rfl
  | interrupted =>
    obtain rfl := Option.some.inj hs
    exact h.goto (by rw [hpc]; rfl) ⟨hends, hended.interrupted rfl⟩ rfl
      fun _ hn => (hquiet hn).elim
  | failed errno =>
    obtain ⟨h0, h1, h2⟩ := hended.failed errno rfl
    have hret : (Wake.failed errno).ret = errno := rfl
    rw [← hret] at h0 h1 h2
    rw [if_neg h0, if_neg h1, if_pos h2] at hs
    obtain rfl := Option.some.inj hs
    exact h.goto hholds (.inr ⟨rfl, .inr ⟨errno, hended.wake⟩⟩) rfl fun _ hn => (hquiet hn).elim

/-- The second look at the clock. -/
lemma Inv.recheck (h : Inv s) {timeout : ℤ} {e : Timespec} (hpc : s.pc c = .recheck timeout e)
    (hs : run s c = some t) : Inv t := by
  have hquiet : (s.pc c).notifies = true → False := by
    rw [hpc]
    exact Bool.false_ne_true
  have hfits := h.fits c
  rw [hpc] at hfits
  obtain ⟨hends, hint⟩ := hfits
  simp only [run, hpc] at hs
  split at hs
  · rename_i hpassed
    obtain rfl := Option.some.inj hs
    refine h.sees (by rw [hpc]; rfl) (.inr ⟨rfl, .inl ?_⟩) rfl fun _ hn => (hquiet hn).elim
    have hle := ns_le_of_passed h.clock hends.2 hpassed
    rw [hends.1] at hle
    exact hle
  · obtain rfl := Option.some.inj hs
    exact h.sees (by rw [hpc]; rfl) ⟨hends, .inr hint⟩ rfl fun _ hn => (hquiet hn).elim

/-- `Down` changes the count; nobody else holds the lock, so nobody has tested it. -/
lemma Inv.decrement (h : Inv s) (hpc : s.pc c = .decrement) (hs : run s c = some t) : Inv t := by
  have hholds : (s.pc c).holds = true := by
    rw [hpc]
    rfl
  have hmutex := (h.mutex c).mp hholds
  simp only [run, hpc] at hs
  obtain rfl := Option.some.inj hs
  have hpc' : ∀ k, k ≠ c → Function.update s.pc c .test k = s.pc k := fun k hk =>
    Function.update_of_ne hk _ _
  have hmono : s.reached = true → (s.reached || decide (pred s.count ≤ 0)) = true := by
    intro hr
    rw [hr]
    rfl
  refine ⟨h.clock, h.mutex_of_locks rfl (.keeps rfl ?_), ?_, ?_, ?_, ?_⟩
  · rw [hpc]
    rfl
  · intro hn
    exact Bool.or_eq_true_iff.mpr (.inr (decide_eq_true hn))
  · intro k hk
    exact hmono (h.notified k hk)
  · intro k
    have hf := h.fits k
    by_cases hk : k = c
    · subst hk
      simp only [State.goto, Function.update_self]
      exact trivial
    · simp only [State.goto, hpc' k hk]
      have hfree : (s.pc k).holds = false := by
        rw [← Bool.not_eq_true, h.mutex, hmutex]
        exact fun he => hk (Option.some.inj he).symm
      exact (hf.reached hmono).count hfree
  · intro _ k _
    refine .inl (.inr ⟨c, hmutex, ?_⟩)
    simp only [State.goto, Function.update_self]
    rfl

/-- The broadcast notifies every thread that waits. -/
lemma Inv.broadcast (h : Inv s) (hpc : s.pc c = .broadcast) (hs : run s c = some t) : Inv t := by
  have hfits := h.fits c
  rw [hpc] at hfits
  simp only [run, hpc] at hs
  obtain rfl := Option.some.inj hs
  refine h.step rfl rfl rfl rfl (Function.update_eq_self c s.seen).symm (.keeps rfl ?_)
    (fun _ _ => hfits) ?_ trivial (fun _ ha => absurd ha Bool.false_ne_true) ?_
  · rw [hpc]
    rfl
  · intro k _ hk
    exact Bool.or_eq_true_iff.mpr (.inl hk)
  · intro _ _
    refine .inr fun k hk => ?_
    exact Bool.or_eq_true_iff.mpr (.inr hk)

/-- A step of the code keeps the invariant. -/
lemma Inv.run (h : Inv s) (hs : run s c = some t) : Inv t := by
  have hfits := h.fits c
  cases hpc : s.pc c with
  | check op => exact h.check hpc hs
  | result timeout e w => exact h.result hpc hs
  | recheck timeout e => exact h.recheck hpc hs
  | decrement => exact h.decrement hpc hs
  | broadcast => exact h.broadcast hpc hs
  | idle | waiting | timedWaiting timeout e =>
    simp only [CountDownLatch.run, hpc] at hs
    cases hs
  | enter op =>
    simp only [CountDownLatch.run, hpc] at hs
    cases op with
    | down => exact h.lock hs rfl trivial rfl
    | wait | waitTimeout timeout => exact h.lock hs rfl trivial rfl
  | getTime timeout =>
    rw [hpc] at hfits
    simp only [CountDownLatch.run, hpc, Option.map_eq_some_iff] at hs
    obtain ⟨e, he, rfl⟩ := hs
    refine h.sees (by rw [hpc]; rfl) ⟨endTm_ns he, .inl hfits⟩ rfl fun _ hn => ?_
    rw [hpc] at hn
    cases hn
  | condWait =>
    rw [hpc] at hfits
    simp only [CountDownLatch.run, hpc] at hs
    obtain rfl := Option.some.inj hs
    refine h.sleep (by rw [hpc]; rfl) rfl (by rw [hpc]; rfl) trivial fun h0 => ?_
    exact absurd hfits (not_lt.mpr h0)
  | condTimedWait timeout e =>
    rw [hpc] at hfits
    obtain ⟨hends, hpos⟩ := hfits
    simp only [CountDownLatch.run, hpc] at hs
    obtain rfl := Option.some.inj hs
    refine h.sleep (by rw [hpc]; rfl) rfl (by rw [hpc]; rfl) hends fun h0 => ?_
    exact hpos.resolve_left (not_lt.mpr h0)
  | woken =>
    simp only [CountDownLatch.run, hpc] at hs
    exact h.lock hs rfl trivial rfl
  | timedWoken timeout e w =>
    rw [hpc] at hfits
    simp only [CountDownLatch.run, hpc] at hs
    exact h.lock hs rfl hfits rfl
  | test =>
    simp only [CountDownLatch.run, hpc] at hs
    obtain rfl := Option.some.inj hs
    split
    · rename_i h0
      exact h.goto (by rw [hpc]; rfl) (h.reached h0) rfl fun _ _ => rfl
    · rename_i h0
      exact h.goto (by rw [hpc]; rfl) trivial rfl fun h0' _ => absurd h0' h0
  | leave op r =>
    simp only [CountDownLatch.run, hpc] at hs
    obtain rfl := Option.some.inj hs
    refine h.step rfl rfl rfl rfl (Function.update_eq_self c s.seen).symm
      (.unlocks rfl (by rw [hpc]; rfl) rfl) h.notified (fun _ _ hk => hk) trivial
      (fun _ ha => absurd ha Bool.false_ne_true) fun _ hn => ?_
    rw [hpc] at hn
    cases hn

/-- A wait that ends leaves the lock to be taken. -/
lemma Inv.awake (h : Inv s) {p : Pc} {v : Seen} (hasleep : (s.pc c).asleep = true)
    (hp : p.holds = false) (hfits : p.Fits s.count s.reached v) (hnot : p.asleep = false) :
    Inv ((s.sees c v).goto c p) := by
  have hc : (s.pc c).holds = false ∧ (s.pc c).notifies = false := by
    cases hpc : s.pc c with
    | waiting | timedWaiting timeout e => exact ⟨rfl, rfl⟩
    | _ =>
      rw [hpc] at hasleep
      cases hasleep
  refine h.sees (hp.trans hc.1.symm) hfits hnot fun _ hn => ?_
  rw [hc.2] at hn
  cases hn

/-- The end of a wait keeps the invariant. -/
lemma Inv.wake {w : Wake} (h : Inv s) (hs : wake s c w = some t) : Inv t := by
  have hfits := h.fits c
  cases hpc : s.pc c with
  | waiting =>
    have hasleep : (s.pc c).asleep = true := by
      rw [hpc]
      rfl
    simp only [CountDownLatch.wake, hpc] at hs
    cases w with
    | notified =>
      simp only [Option.ite_none_right_eq_some] at hs
      obtain ⟨-, hs⟩ := hs
      obtain rfl := Option.some.inj hs
      exact h.awake hasleep rfl trivial rfl
    | spurious =>
      obtain rfl := Option.some.inj hs
      exact h.awake hasleep rfl trivial rfl
    | timedOut | interrupted | failed errno => cases hs
  | timedWaiting timeout e =>
    have hasleep : (s.pc c).asleep = true := by
      rw [hpc]
      rfl
    rw [hpc] at hfits
    simp only [CountDownLatch.wake, hpc] at hs
    cases w with
    | notified =>
      simp only [Option.ite_none_right_eq_some] at hs
      obtain ⟨hn, hs⟩ := hs
      obtain rfl := Option.some.inj hs
      refine h.awake hasleep rfl ⟨hfits, ?_⟩ rfl
      exact ⟨rfl, fun _ => h.notified c hn, Wake.noConfusion, Wake.noConfusion,
        fun _ => Wake.noConfusion⟩
    | spurious =>
      obtain rfl := Option.some.inj hs
      refine h.awake hasleep rfl ⟨hfits, ?_⟩ rfl
      exact ⟨rfl, Wake.noConfusion, Wake.noConfusion, Wake.noConfusion, fun _ => Wake.noConfusion⟩
    | timedOut =>
      simp only [Option.ite_none_right_eq_some] at hs
      obtain ⟨hpassed, hs⟩ := hs
      obtain rfl := Option.some.inj hs
      refine h.awake hasleep rfl ⟨hfits, ?_⟩ rfl
      exact ⟨rfl, Wake.noConfusion, fun _ => ns_le_of_passed h.clock hfits.2 hpassed,
        Wake.noConfusion, fun _ => Wake.noConfusion⟩
    | interrupted =>
      obtain rfl := Option.some.inj hs
      refine h.awake hasleep rfl ⟨hfits, ?_⟩ rfl
      exact ⟨rfl, Wake.noConfusion, Wake.noConfusion, fun _ => rfl, fun _ => Wake.noConfusion⟩
    | failed errno =>
      simp only [Option.ite_none_right_eq_some] at hs
      obtain ⟨herr, hs⟩ := hs
      obtain rfl := Option.some.inj hs
      refine h.awake hasleep rfl ⟨hfits, ?_⟩ rfl
      refine ⟨rfl, Wake.noConfusion, Wake.noConfusion, Wake.noConfusion, ?_⟩
      intro errno' he
      cases he
      exact herr
  | _ =>
    simp only [CountDownLatch.wake, hpc] at hs
    cases hs

/-- The step lemma of the latch. -/
lemma Inv.next {l : Label Th} (h : Inv s) (hs : next s l = some t) : Inv t := by
  cases l with
  | call c op =>
    simp only [CountDownLatch.next, Option.ite_none_right_eq_some] at hs
    obtain ⟨hpc, hs⟩ := hs
    obtain rfl := Option.some.inj hs
    refine h.sees (by rw [hpc]; rfl) trivial rfl fun _ hn => ?_
    rw [hpc] at hn
    cases hn
  | run c => exact h.run hs
  | wake c w => exact h.wake hs
  | clock now =>
    simp only [CountDownLatch.next, Option.ite_none_right_eq_some] at hs
    obtain ⟨hnow, hs⟩ := hs
    obtain rfl := Option.some.inj hs
    exact { h with clock := hnow }

/-- Nobody uses the latch at first. -/
lemma inv_start (hs : (system Th).start s) : Inv s := by
  obtain ⟨cot, now, hnow, rfl⟩ := hs
  refine ⟨hnow, ?_, ?_, ?_, ?_, ?_⟩
  · intro k
    constructor <;> intro hk <;> cases hk
  · intro hn
    exact decide_eq_true hn
  · intro k hk
    cases hk
  · intro k
    exact trivial
  · intro _ k hk
    cases hk

/-- The latch reports truthfully in every run: whoever calls what, whenever a wait ends for no
reason, and whatever the clock reads. -/
theorem truthful_of_reachable (h : (system Th).Reachable s) : Truthful s := by
  have hI : Inv s := h.induct (fun _ => inv_start) fun _ _ _ hI hs => hI.next hs
  exact hI.truthful

/-! ## What the results do not say -/

/-- A latch for one call of `Down`. -/
def one : State Bool := { count := 1, reached := false }

/-- The first thread has called `WaitTimeout` with five milliseconds and waits. -/
def timedWait : List (Label Bool) :=
  .call true (.waitTimeout 5) :: List.replicate 4 (.run true)

/-- The second thread calls `Down`; it notifies whoever waits then. -/
def countDown : List (Label Bool) :=
  .call false .down :: List.replicate 5 (.run false)

/-- The first thread waits, the second one brings the count to zero, and the first one is
notified. -/
theorem truthful_of_reachable_notified : ∃ s : State Bool, (system Bool).Reachable s ∧
    s.pc true = .leave (.waitTimeout 5) 0 ∧ (s.seen true).wake = some .notified ∧ s.count = 0 ∧
      Truthful s := by
  have hrun : (system Bool).endsIn one
      [timedWait, countDown, [.wake true .notified, .run true, .run true]].flatten
      (fun s => s.pc true = .leave (.waitTimeout 5) 0 ∧ (s.seen true).wake = some .notified ∧
        s.count = 0) = true := by
    decide
  have hone : (system Bool).start one := ⟨1, ⟨0, 0⟩, by decide, rfl⟩
  obtain ⟨s, hs, h1, h2, h3⟩ := System.exists_of_endsIn hone hrun
  exact ⟨s, hs, h1, h2, h3, truthful_of_reachable hs⟩

/-- `WaitTimeout` returns 0 at a count that has never been zero, it returns -1 at a count of zero,
and it waits at a count of zero with no notification pending. -/
theorem not_truthful :
    (∃ s : State Bool, (system Bool).Reachable s ∧ s.pc true = .leave (.waitTimeout 5) 0 ∧
      s.count = 1 ∧ s.reached = false) ∧
    (∃ s : State Bool, (system Bool).Reachable s ∧ s.pc true = .leave (.waitTimeout 5) (-1) ∧
      s.count = 0) ∧
    ∃ s : State Bool, (system Bool).Reachable s ∧ s.count = 0 ∧ (s.pc true).asleep = true ∧
      s.notified true = false ∧ s.mutex = none := by
  have hspurious : (system Bool).endsIn one
      (timedWait ++ [.wake true .spurious, .run true, .run true])
      (fun s => s.pc true = .leave (.waitTimeout 5) 0 ∧ s.count = 1 ∧ s.reached = false) =
        true := by
    decide
  have htimeout : (system Bool).endsIn one
      [timedWait, .clock ⟨1, 0⟩ :: .wake true .timedOut :: countDown,
        [.run true, .run true]].flatten
      (fun s => s.pc true = .leave (.waitTimeout 5) (-1) ∧ s.count = 0) = true := by
    decide
  have hsignal : (system Bool).endsIn one
      [timedWait, .wake true .interrupted :: countDown, List.replicate 4 (.run true)].flatten
      (fun s => s.count = 0 ∧ (s.pc true).asleep = true ∧ s.notified true = false ∧
        s.mutex = none) = true := by
    decide
  have hone : (system Bool).start one := ⟨1, ⟨0, 0⟩, by decide, rfl⟩
  exact ⟨System.exists_of_endsIn hone hspurious, System.exists_of_endsIn hone htimeout,
    System.exists_of_endsIn hone hsignal⟩

end BbtCoroutine.CountDownLatch
