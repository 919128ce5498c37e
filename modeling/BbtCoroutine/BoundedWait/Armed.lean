import BbtCoroutine.BoundedWait.Model

/-!
# A bounded wait is armed

An operation is `Bounded` when the time it computed for its wait is not `0` and below the
limit of the timer.  The invariant follows that time from the plan of the
operation through `InitFdEvent` to `StartListen`: whenever the coroutine is parked, the
timer of this very wait has been started with it.

A timer that has been started is disarmed only by a handler whose callback is then on its
way, so the clock and asio alone bring every parked bounded wait to its end.
-/

namespace BbtCoroutine

open Transition Pollevent
open Coroutine (optTimeout optReadable optWriteable)

/-- The wait asks for a timer of `n` milliseconds. -/
def Coroutine.Wait.Timed (w : Coroutine.Wait) (n : ℤ) : Prop :=
  n ≠ 0 ∧ ∃ fd events, w.fdEvent = some (fd, events, n) ∧ events &&& optTimeout ≠ 0

namespace BoundedWait

/-! ## The time of a wait -/

namespace Op

/-- The milliseconds an operation waits for, when it read the clock at `start` and, for this
wait, at `reading`. -/
def remainingMs (start reading : ℤ) : Op → ℤ
  | waitOptions deadline | waitCombined _ _ _ deadline => toInt (ceilMs (deadline - reading))
  | tryRead timeout | tryWrite timeout => chanRemaining timeout start reading
  | waitWithTimeout ms | waitWithTimeoutAndCallback ms | yieldUntilTimeout ms | waitFor ms
  | tryLock ms | tryRLock ms | tryWLock ms | selectRun ms _ => ms

/-- The time for the wait is a positive number of milliseconds; a time that comes from a deadline
is below the limit of the timer and, as an `int`, not `0`: `InitFdEvent` refuses what is
negative.  The combined wait and the channel operations refuse what is not positive. -/
def Bounded (reading : ℤ) : Op → Prop
  | waitOptions deadline =>
    toInt (ceilMs (deadline - reading)) ≠ 0 ∧ ceilMs (deadline - reading) < intMax
  | waitCombined _ _ _ deadline => ceilMs (deadline - reading) < intMax
  | tryRead _ | tryWrite _ => True
  | waitWithTimeout ms | waitWithTimeoutAndCallback ms | yieldUntilTimeout ms | waitFor ms
  | tryLock ms | tryRLock ms | tryWLock ms | selectRun ms _ => 1 ≤ ms

/-- Whether the remaining time of an operation fits can be computed. -/
instance (reading : ℤ) (op : Op) : Decidable (op.Bounded reading) := by
  cases op <;> unfold Bounded <;> infer_instance

end Op

/-- A wait that registers a timeout is timed. -/
lemma timed_registCustom {n : ℤ} (hn : n ≠ 0) :
    (Coroutine.Wait.registCustom (some n)).Timed n :=
  ⟨hn, -1, optTimeout, rfl, by decide⟩

/-- A yield with a timeout is timed. -/
lemma timed_yieldUntilTimeout {n : ℤ} (hn : n ≠ 0) :
    (Coroutine.Wait.yieldUntilTimeout n).Timed n :=
  ⟨hn, -1, optTimeout, rfl, by decide⟩

/-- A wait with options and a timeout is timed. -/
lemma timed_waitOptions {n : ℤ} (hn : n ≠ 0) : (Coroutine.Wait.waitOptions (some n)).Timed n :=
  ⟨hn, -1, optTimeout, rfl, by decide⟩

/-- The timer bit makes the listening mask of a combined wait nonzero. -/
lemma timed_waitCombined (fd : ℤ) (r w : Bool) {n : ℤ} (hn : n ≠ 0) :
    (Coroutine.Wait.waitCombined fd (fdListenEvents r w) (some n)).Timed n := by
  refine ⟨hn, fd, fdListenEvents r w ||| optTimeout, ?_, ?_⟩
  · refine if_pos ?_
    rw [Option.isSome_some, if_pos rfl]
    cases r <;> cases w <;> decide
  · cases r <;> cases w <;> decide

/-- A fresh wait with a timeout is timed. -/
lemma timed_of_waitInFresh {ms n : ℤ} {a : Answer} {w : Coroutine.Wait} (hn : 1 ≤ ms)
    (hms : ms = n) (h : waitInFresh ms a = .create w) : w.Timed n := by
  subst hms
  obtain rfl : Coroutine.Wait.registCustom (some ms) = w := Plan.create.inj h
  exact timed_registCustom (ne_of_gt hn)

/-- A wait of `CoWaiter` with a timeout is timed. -/
lemma timed_of_waitWithTimeout {ms n : ℤ} {a : Answer} {w : Coroutine.Wait} (hn : 1 ≤ ms)
    (hms : ms = n) (h : waitWithTimeoutAndCallback ms a = .create w) : w.Timed n := by
  subst hms
  unfold waitWithTimeoutAndCallback at h
  split at h
  · cases h
  · obtain rfl := Plan.create.inj h
    exact timed_registCustom (ne_of_gt hn)

/-- A timed lock waits with its timeout. -/
lemma timed_of_timedLock {ms : ℤ} {a : Answer} {w : Coroutine.Wait} (hn : 1 ≤ ms)
    (h : timedLock ms a = .create w) : w.Timed ms := by
  unfold timedLock at h
  split_ifs at h
  exact timed_of_waitInFresh hn rfl h

/-- An operation that waits without another reading of the clock makes a timer for its
milliseconds. -/
lemma timed_of_enter {op : Op} {now start reading : ℤ} {a : Answer} {w : Coroutine.Wait}
    (h : op.enter now a = .create w) (hb : op.Bounded reading) :
    w.Timed (op.remainingMs start reading) := by
  cases op with
  | waitWithTimeout ms => exact timed_of_waitWithTimeout hb rfl h
  | waitWithTimeoutAndCallback ms => exact timed_of_waitWithTimeout hb rfl h
  | waitOptions deadline =>
    simp only [Op.enter, waitOptions] at h
    split_ifs at h
  | waitCombined fd r v deadline =>
    simp only [Op.enter, waitCombined] at h
    split_ifs at h
  | yieldUntilTimeout ms =>
    simp only [Op.enter, yieldUntilTimeout] at h
    split_ifs at h
    obtain rfl := Plan.create.inj h
    exact timed_yieldUntilTimeout (ne_of_gt hb)
  | waitFor ms => exact timed_of_waitInFresh (a := a) hb rfl h
  | tryLock ms =>
    simp only [Op.enter, tryLock] at h
    split_ifs at h
    obtain rfl := Plan.create.inj h
    exact timed_registCustom (ne_of_gt hb)
  | tryRLock ms => exact timed_of_timedLock hb h
  | tryWLock ms => exact timed_of_timedLock hb h
  | tryRead timeout =>
    simp only [Op.enter] at h
    split_ifs at h
  | tryWrite timeout =>
    simp only [Op.enter] at h
    split_ifs at h
  | selectRun ms hasDefault =>
    simp only [Op.enter, selectRun] at h
    split_ifs at h with h₁ h₂
    · exact timed_of_waitInFresh hb rfl h
    · exact absurd (le_trans (by decide) (hb : 1 ≤ ms)) h₂

/-- An operation with a deadline makes a timer for the time that remained at its second reading
of the clock. -/
lemma timed_of_second {op : Op} {start reading : ℤ} {w : Coroutine.Wait}
    (h : op.second reading = .create w) (hb : op.Bounded reading) :
    w.Timed (op.remainingMs start reading) := by
  cases op with
  | waitOptions deadline =>
    obtain ⟨hpos, hlt⟩ := hb
    simp only [Op.second, waitOptionsRemaining, if_pos hlt] at h
    obtain rfl := Plan.create.inj h
    exact timed_waitOptions hpos
  | waitCombined fd r v deadline =>
    have hlt : ceilMs (deadline - reading) < intMax := hb
    simp only [Op.second, waitCombinedRemaining, if_pos hlt] at h
    split_ifs at h with hpos
    obtain rfl := Plan.create.inj h
    refine timed_waitCombined fd r v ?_
    rw [toInt_of_le (not_le.mp hpos).le hlt.le]
    exact (not_le.mp hpos).ne'
  | _ => cases h

/-- A round of a channel operation makes a timer for the time that remains to it. -/
lemma timed_of_loopRound {op : Op} {start reading : ℤ} {a : Answer} {w : Coroutine.Wait}
    (h : op.loopRound start reading a = .create w) :
    w.Timed (op.remainingMs start reading) := by
  cases op with
  | tryRead timeout =>
    simp only [Op.loopRound, tryReadRound] at h
    split_ifs at h with hc
    exact timed_of_waitWithTimeout (not_le.mp (not_or.mp hc).2) rfl h
  | tryWrite timeout =>
    simp only [Op.loopRound, tryWriteRound] at h
    split_ifs at h with hc
    exact timed_of_waitInFresh (not_le.mp (not_or.mp hc).2) rfl h
  | _ => cases h

/-! ## The invariant -/

/-- The event of a wait that is not registered yet has a timer for `n` milliseconds. -/
def Waiting.Prepared (v : Waiting) (n : ℤ) : Prop :=
  1 ≤ n ∧ v.timeout = n ∧ ∃ fd events, v.event = some (Event.new fd events) ∧
    events &&& optTimeout ≠ 0

/-- `StartListen` has started the timer of this wait with `n` milliseconds, not after `now`; it
still ticks, or a callback is on its way. -/
def Waiting.Armed (v : Waiting) (now n : ℤ) : Prop :=
  ∃ e a, v.event = some e ∧ v.started = some a ∧ (a.ms : ℤ) = n ∧
    a.expiry ≤ now + n * msecNanos ∧ (v.delivering ≠ [] ∨ e.Ticking a)

/-- What is known of a bounded wait at each point of the operation. -/
def State.Inv (s : State) : Prop :=
  match s.pc with
  | .create op w => op.Bounded s.reading → w.Timed (op.remainingMs s.start s.reading)
  | .regist op => op.Bounded s.reading → s.wait.round.undecided = true →
      s.wait.Prepared (op.remainingMs s.start s.reading)
  | .commit op | .suspended op => op.Bounded s.reading →
      s.wait.round.undecided = true →
      1 ≤ op.remainingMs s.start s.reading ∧
        s.wait.Armed s.now (op.remainingMs s.start s.reading)
  | _ => True

/-- The event of a wait with a timer is made with that timer, or the wait is closed at once. -/
lemma prepared_of_create {a : Answer} {w : Coroutine.Wait} {v : Waiting} {n : ℤ}
    (hw : w.Timed n) (hv : Waiting.create a w = some v) (hu : v.round.undecided = true) :
    v.Prepared n := by
  obtain ⟨hn, fd, events, hfd, hev⟩ := hw
  unfold Waiting.create at hv
  rw [hfd] at hv
  split_ifs at hv
  simp only [Waiting.initFdEvent] at hv
  split_ifs at hv with hneg
  · obtain rfl := Option.some.inj hv
    simp at hu
  · obtain rfl := Option.some.inj hv
    exact ⟨by omega, rfl, fd, events, rfl, hev⟩

/-- `StartListen` of a wait with a timer arms it. -/
lemma armed_listen {v : Waiting} {n now : ℤ} {a : Answer} {e : Event} (hv : v.Prepared n)
    (he : v.event = some e) : (v.listen now a e).Armed now n := by
  obtain ⟨hn, ht, fd, events, hev, hmask⟩ := hv
  obtain rfl : e = Event.new fd events := Option.some.inj (he.symm.trans hev)
  have hms : ((max 0 v.timeout).toNat : ℤ) = n := by
    rw [ht]
    omega
  have htimer : (Event.new fd events).timer = true := by
    simpa [Event.new] using hmask
  have hpos : 0 < (max 0 v.timeout).toNat := by omega
  obtain ⟨h₁, h₂⟩ := Event.startListen_of_timer htimer now hpos
  refine ⟨_, _, ?_, ?_, hms, ?_, .inr (.inl ⟨h₁, h₂, rfl⟩)⟩
  · unfold Waiting.listen
    dsimp only
    split <;> rfl
  · unfold Waiting.listen
    dsimp only
    split <;> exact h₂
  · rw [hms]

/-- What `Regist` does when it returns `0`: nothing to a wait that is decided, and else it
listens to the event, if there is one. -/
lemma eq_of_regist {v v' : Waiting} {now : ℤ} {a : Answer} (h : v.regist now a = some v') :
    (v.round.undecided = false ∧ v' = v) ∨
      (v.round.undecided = true ∧
        (v.event = none ∨ ∃ e, v.event = some e ∧ v' = v.listen now a e)) := by
  have hf : ¬ a.fails = true := by
    intro hf
    rw [Waiting.regist, if_pos hf] at h
    cases h
  rw [Waiting.regist, if_neg hf] at h
  cases hr : v.round with
  | pending m =>
    rw [hr] at h
    exact .inl ⟨rfl, (Option.some.inj h).symm⟩
  | inited =>
    rw [hr] at h
    refine .inr ⟨rfl, ?_⟩
    cases he : v.event with
    | none => exact .inl rfl
    | some e =>
      rw [he] at h
      simp only at h
      split_ifs at h
      exact .inr ⟨e, rfl, (Option.some.inj h).symm⟩
  | armed =>
    rw [hr] at h
    cases h
  | parked =>
    rw [hr] at h
    cases h
  | final m =>
    rw [hr] at h
    cases h
  | cancelled =>
    rw [hr] at h
    cases h

/-- The registration of a wait with a timer arms it, unless the wait is decided. -/
lemma armed_registAwaitEvent {v v' : Waiting} {n now : ℤ} {a : Answer}
    (hv : v.round.undecided = true → v.Prepared n) (h : v.registAwaitEvent now a = some v')
    (hu : v'.round.undecided = true) : 1 ≤ n ∧ v'.Armed now n := by
  unfold Waiting.registAwaitEvent at h
  rcases eq_of_regist h with ⟨hdec, rfl⟩ | ⟨hund, he⟩
  · rw [hdec] at hu
    cases hu
  · split_ifs at h hund he
    · have hdec : (v.trigger pollEventCancelled).round.undecided = false :=
        Round.undecided_trigger _ _
      rw [hdec] at hund
      cases hund
    · obtain ⟨hn, ht, fd, events, hev, hmask⟩ := hv hund
      rcases he with he | ⟨e, he, rfl⟩
      · rw [he] at hev
        cases hev
      · exact ⟨hn, armed_listen ⟨hn, ht, fd, events, hev, hmask⟩ he⟩

/-- A wait stays armed as time passes. -/
lemma Waiting.Armed.later {v : Waiting} {now n : ℤ} (h : v.Armed now n) (ns : ℕ) :
    v.Armed (now + ns) n := by
  obtain ⟨e, a, he, hs, hms, hx, ht⟩ := h
  exact ⟨e, a, he, hs, hms, by omega, ht⟩

/-- A step of the event that keeps the timer ticking keeps the wait armed. -/
lemma Waiting.Armed.event {v : Waiting} {now n : ℤ} {e e' : Event} (h : v.Armed now n)
    (he : v.event = some e) (ht : ∀ a, e.Ticking a → e'.Ticking a) :
    ({ v with event := some e' } : Waiting).Armed now n := by
  obtain ⟨e₀, a, he₀, hs, hms, hx, hd⟩ := h
  obtain rfl : e = e₀ := Option.some.inj (he.symm.trans he₀)
  exact ⟨e', a, rfl, hs, hms, hx, hd.imp_right (ht a)⟩

/-- A handler that runs leaves the timer ticking or puts a callback on its way. -/
lemma Waiting.Armed.handle {v : Waiting} {now n : ℤ} {e : Event} (h : v.Armed now n)
    (he : v.event = some e) (k : Handler) : (v.handle e k).Armed now n := by
  obtain ⟨e₀, a, he₀, hs, hms, hx, hd⟩ := h
  obtain rfl : e = e₀ := Option.some.inj (he.symm.trans he₀)
  refine ⟨_, a, rfl, hs, hms, hx, ?_⟩
  rcases hd with hd | ht
  · exact .inl (List.append_ne_nil_of_left_ne_nil hd _)
  · rcases ht.handle k with ⟨d, hd⟩ | ht
    · left
      simp [Waiting.handle, hd]
    · exact .inr ht

/-- An event that has just been made has nothing that asio could complete. -/
lemma Waiting.Prepared.idle {v : Waiting} {n : ℤ} {e : Event} (h : v.Prepared n)
    (he : v.event = some e) : e.fdWaits = [] ∧ e.timerWait = none ∧ e.queued = [] := by
  obtain ⟨-, -, fd, events, hev, -⟩ := h
  obtain rfl : e = Event.new fd events := Option.some.inj (he.symm.trans hev)
  exact ⟨rfl, rfl, rfl⟩

/-- An operation whose plan makes a timed wait keeps the invariant. -/
lemma inv_follow {s : State} {op : Op} {p : Plan}
    (h : ∀ w, p = .create w → op.Bounded s.reading →
      w.Timed (op.remainingMs s.start s.reading)) : (s.follow op p).Inv := by
  cases p with
  | create w => exact h w rfl
  | «return» => trivial
  | remaining => trivial
  | loop => trivial

/-- A step of asio on the event keeps the invariant, if it cannot happen to an event that has
just been made and keeps a ticking timer ticking. -/
lemma State.Inv.event {s : State} (h : s.Inv) {e : Event} {v : Waiting}
    (he : s.wait.event = some e) (hr : v.round = s.wait.round)
    (hne : ¬ (e.fdWaits = [] ∧ e.timerWait = none ∧ e.queued = []))
    (hv : ∀ n, s.wait.Armed s.now n → v.Armed s.now n) :
    ({ s with wait := v } : State).Inv := by
  unfold State.Inv at *
  dsimp only
  cases hpc : s.pc with
  | regist op =>
    rw [hpc] at h
    intro hb hu
    rw [hr] at hu
    exact absurd ((h hb hu).idle he) hne
  | commit op =>
    rw [hpc] at h
    intro hb hu
    rw [hr] at hu
    exact ⟨(h hb hu).1, hv _ (h hb hu).2⟩
  | suspended op =>
    rw [hpc] at h
    intro hb hu
    rw [hr] at hu
    exact ⟨(h hb hu).1, hv _ (h hb hu).2⟩
  | create op w =>
    rw [hpc] at h
    exact h
  | _ => trivial

/-- A step that decides the wait keeps the invariant. -/
lemma State.Inv.decided {s : State} (h : s.Inv) {v : Waiting}
    (hv : v.round.undecided = false) : ({ s with wait := v } : State).Inv := by
  unfold State.Inv at *
  dsimp only
  cases hpc : s.pc with
  | regist op =>
    intro _ hu
    rw [hv] at hu
    cases hu
  | commit op =>
    intro _ hu
    rw [hv] at hu
    cases hu
  | suspended op =>
    intro _ hu
    rw [hv] at hu
    cases hu
  | create op w =>
    rw [hpc] at h
    exact h
  | _ => trivial

/-- Time that passes keeps the invariant. -/
lemma State.Inv.advance {s : State} (h : s.Inv) (ns : ℕ) :
    ({ s with now := s.now + ns } : State).Inv := by
  unfold State.Inv at *
  dsimp only
  cases hpc : s.pc with
  | commit op =>
    rw [hpc] at h
    exact fun hb hu => ⟨(h hb hu).1, (h hb hu).2.later ns⟩
  | suspended op =>
    rw [hpc] at h
    exact fun hb hu => ⟨(h hb hu).1, (h hb hu).2.later ns⟩
  | regist op =>
    rw [hpc] at h
    exact h
  | create op w =>
    rw [hpc] at h
    exact h
  | _ => trivial

/-- A step of the coroutine keeps the invariant. -/
lemma State.Inv.step {s s' : State} (h : s.Inv) {a : Answer} (hs : s.pc.step s a = some s') :
    s'.Inv := by
  unfold State.Inv at h
  cases hpc : s.pc with
  | idle =>
    rw [hpc] at hs
    cases hs
  | suspended op =>
    rw [hpc] at hs
    cases hs
  | entry op =>
    rw [hpc] at hs
    obtain rfl := Option.some.inj hs
    exact inv_follow fun w hw hb => timed_of_enter hw hb
  | remaining op =>
    rw [hpc] at hs
    obtain rfl := Option.some.inj hs
    exact inv_follow fun w hw hb => timed_of_second hw hb
  | looping op =>
    rw [hpc] at hs
    obtain rfl := Option.some.inj hs
    exact inv_follow fun w hw _ => timed_of_loopRound hw
  | create op w =>
    rw [hpc] at hs h
    obtain rfl := Option.some.inj hs
    cases hv : Waiting.create a w with
    | none => trivial
    | some v => exact fun hb hu => prepared_of_create (h hb) hv hu
  | regist op =>
    rw [hpc] at hs h
    obtain rfl := Option.some.inj hs
    cases hv : s.wait.registAwaitEvent s.now a with
    | none => trivial
    | some v => exact fun hb hu => armed_registAwaitEvent (h hb) hv hu
  | commit op =>
    rw [hpc] at hs h
    obtain rfl := Option.some.inj hs
    intro hb hu
    rw [Waiting.commitPark, Round.undecided_commitPark] at hu
    exact h hb hu

/-- Every step keeps the invariant. -/
lemma State.Inv.next {s s' : State} {l : Label} (h : s.Inv)
    (hs : BoundedWait.next s l = some s') : s'.Inv := by
  cases l with
  | advance ns =>
    obtain rfl := Option.some.inj hs
    exact h.advance ns
  | begin op =>
    simp only [BoundedWait.next] at hs
    split_ifs at hs
    obtain rfl := Option.some.inj hs
    trivial
  | step a => exact h.step hs
  | resume a =>
    simp only [BoundedWait.next] at hs
    split at hs
    · obtain rfl := Option.some.inj hs
      unfold State.resume
      split <;> trivial
    · cases hs
  | trigger m =>
    simp only [BoundedWait.next] at hs
    split_ifs at hs
    obtain rfl := Option.some.inj hs
    exact h.decided (Round.undecided_trigger _ _)
  | fdReady w =>
    obtain ⟨e, he, hs⟩ := Option.bind_eq_some_iff.mp hs
    split_ifs at hs with hw
    obtain rfl := Option.some.inj hs
    refine h.event he rfl ?_ fun n hn => hn.event he fun a ha => ha.fdReady w
    rintro ⟨hnil, -⟩
    rw [hnil] at hw
    cases hw
  | timerExpired =>
    obtain ⟨e, he, hs⟩ := Option.bind_eq_some_iff.mp hs
    obtain ⟨b, hb, hs⟩ := Option.bind_eq_some_iff.mp hs
    split_ifs at hs
    obtain rfl := Option.some.inj hs
    refine h.event he rfl ?_ fun n hn => hn.event he fun a ha => ha.timerExpired hb
    rintro ⟨-, hnone, -⟩
    rw [hnone] at hb
    cases hb
  | handle k =>
    obtain ⟨e, he, hs⟩ := Option.bind_eq_some_iff.mp hs
    split_ifs at hs with hk
    obtain rfl := Option.some.inj hs
    refine h.event he rfl ?_ fun n hn => hn.handle he k
    rintro ⟨-, -, hnil⟩
    rw [hnil] at hk
    cases hk
  | deliver d =>
    simp only [BoundedWait.next] at hs
    split_ifs at hs
    obtain rfl := Option.some.inj hs
    exact h.decided (Round.undecided_trigger _ _)

/-- The invariant holds in every reachable state. -/
theorem inv_of_reachable {s : State} (hs : system.Reachable s) : s.Inv := by
  refine System.Reachable.induct ?_ ?_ hs
  · intro s h
    rw [show s = _ from h]
    trivial
  · intro s l s' h hl
    exact h.next hl

/-! ## The end of a bounded wait -/

/-- The coroutine is parked in the operation, and nobody has decided its wait. -/
def State.ParkedIn (s : State) (op : Op) : Prop :=
  s.pc = .suspended op ∧ s.wait.round = .parked

/-- Whether an operation is parked can be computed. -/
instance (s : State) (op : Op) : Decidable (s.ParkedIn op) := by
  unfold State.ParkedIn
  infer_instance

/-- The clock and asio alone bring the wait to its end, at the time `t` or at once. -/
def State.Ends (s : State) (t : ℤ) : Prop :=
  ∃ s' m, system.PathWhen (fun _ l => l.clockwork = true) s s' ∧ s'.pc = s.pc ∧
    s'.wait.round = .final m ∧ s'.now ≤ max s.now t

/-- A step of the clock or of asio that leaves the coroutine where it is can come first. -/
lemma State.Ends.after {s s' : State} {l : Label} {t : ℤ} (h : s'.Ends t)
    (hl : l.clockwork = true) (hs : BoundedWait.next s l = some s') (hpc : s'.pc = s.pc)
    (ht : s'.now ≤ max s.now t) : s.Ends t := by
  obtain ⟨u, m, hpath, hupc, hround, hnow⟩ := h
  have hfirst : system.PathWhen (fun _ l => l.clockwork = true) s s' := .single ⟨l, hl, hs⟩
  exact ⟨u, m, hfirst.trans hpath, hupc.trans hpc, hround,
    hnow.trans (max_le ht (le_max_right _ _))⟩

/-- A callback on its way ends a parked wait. -/
lemma ends_of_delivering {s : State} {op : Op} (hp : s.ParkedIn op) (t : ℤ)
    (hd : s.wait.delivering ≠ []) : s.Ends t := by
  obtain ⟨d, hd⟩ := List.exists_mem_of_ne_nil _ hd
  have hstep : BoundedWait.next s (.deliver d) = some { s with wait := s.wait.deliver d } :=
    if_pos hd
  refine ⟨_, d.events, .single ⟨.deliver d, rfl, hstep⟩, rfl, ?_, le_max_left _ _⟩
  change s.wait.round.trigger d.events = .final d.events
  rw [hp.2]
  rfl

/-- A queued handler that passes its check ends a parked wait. -/
lemma ends_of_queued {s : State} {op : Op} (hp : s.ParkedIn op) (t : ℤ) {e : Event}
    (he : s.wait.event = some e) {k : Handler} (hk : k ∈ e.queued) (hpass : e.Passes k) :
    s.Ends t := by
  have hstep : BoundedWait.next s (.handle k) = some { s with wait := s.wait.handle e k } := by
    simp only [BoundedWait.next, he, Option.bind_some, if_pos hk]
  have hpass' : (e.dequeue k).Passes k := by cases k <;> exact hpass
  obtain ⟨d, hd⟩ := Event.exists_handle_of_passes hpass'
  have hdel : (s.wait.handle e k).delivering ≠ [] := by
    simp [Waiting.handle, hd]
  have hp' : State.ParkedIn { s with wait := s.wait.handle e k } op := ⟨hp.1, hp.2⟩
  have hend := ends_of_delivering hp' t hdel
  exact hend.after rfl hstep rfl (le_max_left _ _)

/-- A timer that ticks ends a parked wait once it has expired. -/
lemma ends_of_ticking {s : State} {op : Op} (hp : s.ParkedIn op) {e : Event} {a : Arming}
    (he : s.wait.event = some e) (ht : e.Ticking a) : s.Ends a.expiry := by
  rcases ht with ⟨htimer, hwait, hround⟩ | ⟨k, hk, hpass⟩
  · -- time passes until the expiry, and the handler of the timer is queued
    let s₁ : State := { s with now := s.now + (a.expiry - s.now).toNat }
    let s₂ : State := { s₁ with wait := { s.wait with event := some (e.timerExpired a) } }
    have hle : a.expiry ≤ s₁.now := by
      change a.expiry ≤ s.now + (a.expiry - s.now).toNat
      omega
    have hle' : s₁.now ≤ max s.now a.expiry := by
      change s.now + (a.expiry - s.now).toNat ≤ max s.now a.expiry
      omega
    have hexpire : BoundedWait.next s₁ .timerExpired = some s₂ := by
      have he₁ : s₁.wait.event = some e := he
      simp only [BoundedWait.next, he₁, Option.bind_some, hwait, if_pos hle]
      rfl
    have hend : s₂.Ends a.expiry :=
      ends_of_queued (⟨hp.1, hp.2⟩ : s₂.ParkedIn op) _ rfl
        (List.mem_append_right _ (List.mem_singleton_self _)) ⟨hround, htimer⟩
    have hend₁ : s₁.Ends a.expiry := hend.after rfl hexpire rfl (le_max_left _ _)
    exact hend₁.after (l := .advance (a.expiry - s.now).toNat) rfl rfl rfl hle'
  · exact ends_of_queued hp _ he hk hpass

/-- Whenever a bounded wait has parked the coroutine, the timer of this wait was started with
the milliseconds the operation had left, and the clock and asio alone end the wait by the
expiry of that timer. -/
theorem armed_of_parked {s : State} (hs : system.Reachable s) {op : Op} (hp : s.ParkedIn op)
    (hb : op.Bounded s.reading) :
    ∃ a, s.wait.started = some a ∧ (a.ms : ℤ) = op.remainingMs s.start s.reading ∧ 0 < a.ms ∧
      a.expiry ≤ s.now + a.ms * msecNanos ∧ s.Ends a.expiry := by
  have hinv := inv_of_reachable hs
  unfold State.Inv at hinv
  rw [hp.1] at hinv
  obtain ⟨hn, e, a, he, hstarted, hms, hexp, hd⟩ := hinv hb (by rw [hp.2]; rfl)
  refine ⟨a, hstarted, hms, by omega, by rw [hms]; exact hexp, ?_⟩
  rcases hd with hd | ht
  · exact ends_of_delivering hp _ hd
  · exact ends_of_ticking hp he ht

/-- A combined wait whose second reading of the clock leaves half a millisecond to the deadline
parks with a timer of one millisecond. -/
theorem armed_of_parked_combined : ∃ s, system.Reachable s ∧
    s.ParkedIn (.waitCombined 3 true false 5000000) ∧
    ∃ a, s.wait.started = some a ∧ (a.ms : ℤ) = 1 ∧ s.Ends a.expiry := by
  have hrun : system.endsIn { now := 0, wait := { round := .cancelled } }
      [.begin (.waitCombined 3 true false 5000000), .step {}, .advance 4500000, .step {},
        .step {}, .advance 700000, .step {}, .step {}]
      (fun s => s.ParkedIn (.waitCombined 3 true false 5000000) ∧ s.reading = 4500000) = true := by
    decide +kernel
  obtain ⟨s, hs, hp, hr⟩ := System.exists_of_endsIn rfl hrun
  have hb : Op.Bounded s.reading (.waitCombined 3 true false 5000000) := by
    rw [hr]
    decide
  obtain ⟨a, ha, hms, -, -, hend⟩ := armed_of_parked hs hp hb
  refine ⟨s, hs, hp, a, ha, ?_, hend⟩
  rw [hms, Op.remainingMs, hr]
  decide

/-- A parked wait that has no event is not ended by the clock and asio. -/
lemma parked_of_clockwork {s s' : State} {op : Op} (hp : s.ParkedIn op)
    (he : s.wait.event = none) (hd : s.wait.delivering = [])
    (h : system.PathWhen (fun _ l => l.clockwork = true) s s') : s'.ParkedIn op := by
  have key : s'.ParkedIn op ∧ s'.wait.event = none ∧ s'.wait.delivering = [] := by
    refine h.induct (I := fun s => s.ParkedIn op ∧ s.wait.event = none ∧
      s.wait.delivering = []) ⟨hp, he, hd⟩ ?_
    rintro s l s' ⟨hp, he, hd⟩ hl hs
    cases l with
    | advance ns =>
      obtain rfl := Option.some.inj hs
      exact ⟨hp, he, hd⟩
    | timerExpired =>
      simp [system, BoundedWait.next, he] at hs
    | handle k =>
      simp [system, BoundedWait.next, he] at hs
    | deliver d =>
      simp [system, BoundedWait.next, hd] at hs
    | _ => cases hl
  exact key.1

/-- A deadline that is accepted, but lies `INT_MAX` milliseconds ahead, parks the coroutine
without a timer; no passing of time ends the wait. -/
theorem unarmed_far_deadline : ∃ s op, system.Reachable s ∧
    op = .waitOptions (2147483647 * 1000000) ∧ s.ParkedIn op ∧ s.wait.started = none ∧
    ∀ s', system.PathWhen (fun _ l => l.clockwork = true) s s' → s'.ParkedIn op := by
  have hrun : system.endsIn { now := 0, wait := { round := .cancelled } }
      [.begin (.waitOptions (2147483647 * 1000000)), .step {}, .step {}, .step {}, .step {},
        .step {}]
      (fun s => s.ParkedIn (.waitOptions (2147483647 * 1000000)) ∧ s.wait.started = none ∧
        s.wait.event = none ∧ s.wait.delivering = []) = true := by
    decide +kernel
  obtain ⟨s, hs, hp, hstarted, he, hd⟩ := System.exists_of_endsIn rfl hrun
  exact ⟨s, _, hs, rfl, hp, hstarted, fun s' h => parked_of_clockwork hp he hd h⟩

end BoundedWait

end BbtCoroutine
