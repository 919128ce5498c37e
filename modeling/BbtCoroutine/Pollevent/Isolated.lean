import BbtCoroutine.Pollevent.Delivery
import Mathlib.Data.List.Count

/-!
# The rounds are isolated

A handler is delivered only if it passes its check in its own round.  A wait of the current
round is one token: it is held by asio, its handler is queued or runs, or it has still to be
made; so no direction is ever waited for twice.  A trigger is one token as well, until its
callback has been called or its round is over.
-/

namespace BbtCoroutine.Pollevent

open Transition
open Coroutine (optReadable optWriteable optPersist optTimeout)

/-! ## Statement -/

/-- The handlers of the trigger `n` that are posted or run. -/
def State.pending (s : State) (n : ℕ) : ℕ :=
  s.posts.countP (fun p => p.n = n) + s.running.countP fun r => r.source = .trigger n

/-- How often the callback has been called for the trigger `n`. -/
def State.callsOf (s : State) (n : ℕ) : ℕ :=
  s.calls.countP fun c => c.source = .trigger n

/-- The rounds are isolated: every call of the callback has passed its check in its own round; a
cancelled event waits for nothing; no trigger is delivered twice, and a trigger of the current
round of an event that is alive and has never been cancelled is either still on its way or has
been delivered; and at most one wait for each direction belongs to the current round. -/
structure Isolated (s : State) : Prop where
  passed : ∀ c ∈ s.calls, c.passed = c.round
  cancelled : s.cancelled = true → s.event.fdWaits = [] ∧ s.event.timerWait = none
  trigger : ∀ n < s.triggers, s.callsOf n ≤ 1 ∧
    (s.triggerRound n = s.event.round → s.alive = true → s.cancels = 0 →
      s.pending n + s.callsOf n = 1)
  waits : ∀ f, s.event.fdWaits.count (f, s.event.round) ≤ 1

/-! ## Tokens -/

/-- The running handlers that are going to wait for the direction `f` again, in the round `n`. -/
def Run.rearms (f : EventMask) (n : ℕ) (r : Run) : Bool :=
  r.source = .fd f ∧ r.rearm = some n

/-- The wait for the direction `f` that a `StartListen` has still to make. -/
def unarmed (f : EventMask) : Option (Listening × ℕ) → ℕ
  | some (.cancelPending, _) | some (.read, _) => 1
  | some (.write, _) => if f = optReadable then 0 else 1
  | _ => 0

/-- The waits for the direction `f` in the current round, wherever they are. -/
def State.tokens (s : State) (f : EventMask) : ℕ :=
  s.event.fdWaits.count (f, s.event.round) + s.event.queued.count (.fd f s.event.round) +
    s.running.countP (Run.rearms f s.event.round) + unarmed f s.listening

/-- What is known of a running handler. -/
structure Run.Good (r : Run) (s : State) : Prop where
  passed : r.passed = r.round
  round_le : r.round ≤ s.event.round
  rearm : ∀ n, r.rearm = some n → n = r.round ∧ r.source = .fd r.events
  trigger : ∀ n, r.source = .trigger n → n < s.triggers ∧ s.triggerRound n = r.round ∧
    r.rearm = none
  called : r.called = true → r.rearm.isSome = true

/-- The waits, the handlers and the calls are as they should be. -/
structure Inv (s : State) : Prop where
  fdWaits_le : ∀ w ∈ s.event.fdWaits, w.2 ≤ s.event.round
  queued_le : ∀ h ∈ s.event.queued, h.round ≤ s.event.round
  timer_le : ∀ a, s.event.timerWait = some a → a.round ≤ s.event.round
  posts : ∀ p ∈ s.posts, p.n < s.triggers ∧ s.triggerRound p.n = p.round
  running : ∀ r ∈ s.running, r.Good s
  triggerRound_le : ∀ n < s.triggers, s.triggerRound n ≤ s.event.round
  calls : ∀ c ∈ s.calls, c.passed = c.round ∧ ∀ n, c.source = .trigger n → n < s.triggers
  tokens : ∀ f, s.tokens f ≤ 1
  once : ∀ n, s.pending n + s.callsOf n ≤ 1
  delivered : ∀ n < s.triggers, s.triggerRound n = s.event.round → s.alive = true →
    s.cancels = 0 → s.pending n + s.callsOf n = 1
  cancelled : s.cancelled = true → s.event.sd = false ∧ s.event.timer = false ∧
    s.event.fdWaits = [] ∧ s.event.timerWait = none ∧ s.listening = none
  registered : s.registered = false ∨ 0 < s.taking → s.cancels ≠ 0

/-- The rounds of an event are isolated under the invariant. -/
lemma Inv.isolated {s : State} (hI : Inv s) : Isolated s where
  passed c hc := (hI.calls c hc).1
  cancelled h := ⟨(hI.cancelled h).2.2.1, (hI.cancelled h).2.2.2.1⟩
  trigger n hn := ⟨(Nat.le_add_left _ _).trans (hI.once n), hI.delivered n hn⟩
  waits f := by
    have h := hI.tokens f
    unfold State.tokens at h
    omega

/-! ## A new round -/

section

variable {s : State}

/-- In a new round there are no tokens but the waits that are still to be made. -/
lemma Inv.count_succ (hI : Inv s) (f : EventMask) :
    s.event.fdWaits.count (f, s.event.round + 1) = 0 ∧
      s.event.queued.count (.fd f (s.event.round + 1)) = 0 ∧
      s.running.countP (Run.rearms f (s.event.round + 1)) = 0 := by
  refine ⟨List.count_eq_zero.mpr fun h => ?_, List.count_eq_zero.mpr fun h => ?_,
    List.countP_eq_zero.mpr fun r hr h => ?_⟩
  · exact absurd (hI.fdWaits_le _ h) (Nat.not_succ_le_self _)
  · exact absurd (hI.queued_le _ h) (Nat.not_succ_le_self _)
  · rw [Run.rearms, decide_eq_true_iff] at h
    have hg := hI.running r hr
    have hround := (hg.rearm _ h.2).1
    have hle := hg.round_le
    omega

/-- A new round ends the triggers of the one before. -/
lemma Inv.triggerRound_ne (hI : Inv s) {n : ℕ} (hn : n < s.triggers) :
    s.triggerRound n ≠ s.event.round + 1 :=
  (Nat.lt_succ_of_le (hI.triggerRound_le n hn)).ne

/-- A run stays in order while the rounds go on. -/
lemma Run.Good.mono {r : Run} {t : State} (h : r.Good s) (hround : s.event.round ≤ t.event.round)
    (htriggers : t.triggers = s.triggers) (htr : t.triggerRound = s.triggerRound) : r.Good t where
  passed := h.passed
  round_le := h.round_le.trans hround
  rearm := h.rearm
  trigger n hn := by
    rw [htriggers, htr]
    exact h.trigger n hn
  called := h.called

/-- Opening a round keeps the invariant. -/
lemma Inv.startListen (hI : Inv s) (now : ℤ) (timeout : ℕ) :
    Inv { s with
      event := s.event.openRound now timeout
      listening := some (.cancelPending, timeout)
      cancelled := false } where
  fdWaits_le w hw := (hI.fdWaits_le w hw).trans (Nat.le_succ _)
  queued_le h hh := (hI.queued_le h hh).trans (Nat.le_succ _)
  timer_le a ha := (hI.timer_le a ha).trans (Nat.le_succ _)
  posts := hI.posts
  running r hr := (hI.running r hr).mono (Nat.le_succ _) rfl rfl
  triggerRound_le n hn := (hI.triggerRound_le n hn).trans (Nat.le_succ _)
  calls := hI.calls
  tokens f := by
    obtain ⟨hwaits, hqueued, hrunning⟩ := hI.count_succ f
    change s.event.fdWaits.count (f, s.event.round + 1) +
      s.event.queued.count (.fd f (s.event.round + 1)) +
      s.running.countP (Run.rearms f (s.event.round + 1)) + 1 ≤ 1
    rw [hwaits, hqueued, hrunning]
  once := hI.once
  delivered n hn hround := absurd hround (hI.triggerRound_ne hn)
  cancelled h := by cases h
  registered := hI.registered

/-- The critical section of `CancelListen` keeps the invariant, whatever becomes of the object and
of the callback. -/
lemma Inv.cancelListen (hI : Inv s) (hl : s.listening = none) (needCloseFd : Bool)
    (alive registered : Bool) (taking : ℕ) :
    Inv { s with
      event := s.event.cancelListen needCloseFd
      alive := alive
      registered := registered
      taking := taking
      cancelled := true
      cancels := s.cancels + 1 } where
  fdWaits_le w hw := by cases hw
  queued_le h hh := (hI.queued_le h hh).trans (Nat.le_succ _)
  timer_le a ha := by cases ha
  posts := hI.posts
  running r hr := (hI.running r hr).mono (Nat.le_succ _) rfl rfl
  triggerRound_le n hn := (hI.triggerRound_le n hn).trans (Nat.le_succ _)
  calls := hI.calls
  tokens f := by
    obtain ⟨-, hqueued, hrunning⟩ := hI.count_succ f
    change 0 + s.event.queued.count (.fd f (s.event.round + 1)) +
      s.running.countP (Run.rearms f (s.event.round + 1)) + unarmed f s.listening ≤ 1
    rw [hqueued, hrunning, hl]
    exact Nat.zero_le _
  once := hI.once
  delivered n hn hround := absurd hround (hI.triggerRound_ne hn)
  cancelled _ := ⟨rfl, rfl, rfl, rfl, hl⟩
  registered _ := Nat.succ_ne_zero _

/-! ## Steps within a round -/

/-- A step that opens no round and keeps the triggers where they are keeps the invariant. -/
lemma Inv.within (hI : Inv s) {e : Event} {l : Option (Listening × ℕ)} {rs : List Run}
    (hround : e.round = s.event.round)
    (hwaits : ∀ w ∈ e.fdWaits, w ∈ s.event.fdWaits ∨ w.2 = s.event.round)
    (hqueued : ∀ h ∈ e.queued, h ∈ s.event.queued ∨ h.round ≤ s.event.round)
    (htimer : ∀ a, e.timerWait = some a →
      s.event.timerWait = some a ∨ a.round = s.event.round)
    (hrunning : ∀ r ∈ rs, r.Good s)
    (htrigger : ∀ n, rs.countP (fun r => r.source = .trigger n) =
      s.running.countP fun r => r.source = .trigger n)
    (htokens : ∀ f, e.fdWaits.count (f, s.event.round) + e.queued.count (.fd f s.event.round) +
      rs.countP (Run.rearms f s.event.round) + unarmed f l ≤ 1)
    (hcancelled : s.cancelled = true → e.sd = false ∧ e.timer = false ∧ e.fdWaits = [] ∧
      e.timerWait = none ∧ l = none) :
    Inv { s with event := e, listening := l, running := rs } := by
  have hpending : ∀ n, ({ s with event := e, listening := l, running := rs } : State).pending n =
      s.pending n := fun n => congrArg (_ + ·) (htrigger n)
  exact
    { fdWaits_le := fun w hw => by
        change w.2 ≤ e.round
        rw [hround]
        exact (hwaits w hw).elim (hI.fdWaits_le w) le_of_eq
      queued_le := fun h hh => by
        change h.round ≤ e.round
        rw [hround]
        exact (hqueued h hh).elim (hI.queued_le h) id
      timer_le := fun a ha => by
        change a.round ≤ e.round
        rw [hround]
        exact (htimer a ha).elim (hI.timer_le a) le_of_eq
      posts := hI.posts
      running := fun r hr => (hrunning r hr).mono hround.ge rfl rfl
      triggerRound_le := fun n hn => (hI.triggerRound_le n hn).trans hround.ge
      calls := hI.calls
      tokens := fun f => by
        change e.fdWaits.count (f, e.round) + e.queued.count (.fd f e.round) +
          rs.countP (Run.rearms f e.round) + unarmed f l ≤ 1
        rw [hround]
        exact htokens f
      once := fun n => by
        rw [hpending]
        exact hI.once n
      delivered := fun n hn hr ha hc => by
        rw [hpending]
        exact hI.delivered n hn (hr.trans hround) ha hc
      cancelled := hcancelled
      registered := hI.registered }

/-- Waiting for the descriptor adds one wait at most. -/
lemma count_doAsyncWait (e : Event) (f g : EventMask) (n : ℕ) :
    (e.doAsyncWait g n).fdWaits.count (f, n) ≤
      e.fdWaits.count (f, n) + if f = g then 1 else 0 := by
  unfold Event.doAsyncWait
  split
  · rw [List.count_append, List.count_singleton]
    refine Nat.add_le_add_left ?_ _
    by_cases h : f = g
    · subst h
      simp
    · have hne : ((g, n) == (f, n)) = false := by simp [Ne.symm h]
      rw [hne]
      exact Nat.zero_le _
  · exact Nat.le_add_right _ _

/-- A wait for the descriptor was there before, or is of the new round. -/
lemma mem_doAsyncWait {e : Event} {f : EventMask} {n : ℕ} {w : EventMask × ℕ}
    (h : w ∈ (e.doAsyncWait f n).fdWaits) : w ∈ e.fdWaits ∨ w.2 = n := by
  unfold Event.doAsyncWait at h
  split at h
  · exact (List.mem_append.mp h).imp_right fun h => by rw [List.mem_singleton.mp h]
  · exact .inl h

@[simp] lemma listenTimer_round (e : Event) (now : ℤ) (timeout : ℕ) :
    (e.listenTimer now timeout).round = e.round := by
  unfold Event.listenTimer
  split <;> split <;> rfl

@[simp] lemma listenTimer_fdWaits (e : Event) (now : ℤ) (timeout : ℕ) :
    (e.listenTimer now timeout).fdWaits = e.fdWaits := by
  unfold Event.listenTimer
  split <;> split <;> rfl

@[simp] lemma listenTimer_queued (e : Event) (now : ℤ) (timeout : ℕ) :
    (e.listenTimer now timeout).queued = e.queued := by
  unfold Event.listenTimer
  split <;> split <;> rfl

/-- A `StartListen` that is not at its end is not that of a cancelled event. -/
lemma Inv.not_cancelled (hI : Inv s) {l : Listening × ℕ} (hl : s.listening = some l) :
    s.cancelled ≠ true := fun h => by
  rw [(hI.cancelled h).2.2.2.2] at hl
  cases hl

@[simp] lemma listenTimer_timerWait (e : Event) (now : ℤ) (timeout : ℕ) {a : Arming}
    (h : (e.listenTimer now timeout).timerWait = some a) :
    e.timerWait = some a ∨ a.round = e.round := by
  unfold Event.listenTimer at h
  split at h <;> split at h <;> first | exact .inl h | (cases h; exact .inr rfl)

/-- A step of `StartListen` that makes the wait for the direction `g`. -/
lemma Inv.arm (hI : Inv s) {l : Option (Listening × ℕ)} {p : Prop} [Decidable p] {g : EventMask}
    (hnc : s.cancelled ≠ true)
    (hl : ∀ f, (if f = g then 1 else 0) + unarmed f l ≤ unarmed f s.listening) :
    Inv { s with
      event := if p then s.event.doAsyncWait g s.event.round else s.event
      listening := l } := by
  refine hI.within (by split <;> simp) ?_ ?_ ?_ hI.running (fun _ => rfl) (fun f => ?_)
    fun h => absurd h hnc
  · intro w hw
    split at hw
    · exact mem_doAsyncWait hw
    · exact .inl hw
  · intro h hh
    split at hh
    · rw [Event.doAsyncWait_queued] at hh
      exact .inl hh
    · exact .inl hh
  · intro a ha
    split at ha
    · rw [Event.doAsyncWait_timerWait] at ha
      exact .inl ha
    · exact .inl ha
  · have h := hI.tokens f
    have hf := hl f
    unfold State.tokens at h
    split
    · have hcount := count_doAsyncWait s.event f g s.event.round
      rw [Event.doAsyncWait_queued]
      omega
    · omega

/-- Listening keeps the invariant. -/
lemma Inv.listen (hI : Inv s) {l : Listening} {timeout : ℕ}
    (hl : s.listening = some (l, timeout)) (now : ℤ) : Inv (s.listen now timeout l) := by
  have hnc := hI.not_cancelled hl
  cases l with
  | cancelPending =>
    refine hI.within rfl (by rintro w ⟨⟩) (fun h hh => .inl hh) (by rintro a ⟨⟩) hI.running
      (fun _ => rfl) (fun f => ?_) fun h => absurd h hnc
    have h := hI.tokens f
    unfold State.tokens at h
    rw [hl] at h
    change 0 + s.event.queued.count _ + s.running.countP _ + 1 ≤ 1
    simp only [unarmed] at h
    omega
  | read =>
    refine hI.arm hnc fun f => ?_
    rw [hl]
    simp only [unarmed]
    split <;> omega
  | write =>
    refine hI.arm hnc fun f => ?_
    have hne : optWriteable ≠ optReadable := by decide
    rw [hl]
    simp only [unarmed]
    split
    · rename_i hf
      rw [hf, if_neg hne]
    · exact Nat.zero_le _
  | timer =>
    refine hI.within (by simp) (fun w hw => ?_) (fun h hh => ?_)
      (fun a ha => listenTimer_timerWait _ _ _ ha) hI.running (fun _ => rfl)
      (fun f => ?_) fun h => absurd h hnc
    · rw [listenTimer_fdWaits] at hw
      exact .inl hw
    · rw [listenTimer_queued] at hh
      exact .inl hh
    · have h := hI.tokens f
      unfold State.tokens at h
      rw [listenTimer_fdWaits, listenTimer_queued]
      exact (Nat.le_add_right _ _).trans h

/-- The completion of a wait moves its token to the queue. -/
lemma Inv.fdReady (hI : Inv s) {w : EventMask × ℕ} (hw : w ∈ s.event.fdWaits) :
    Inv { s with event := s.event.fdReady w } := by
  refine hI.within rfl (fun v hv => .inl (List.mem_of_mem_erase hv)) (fun h hh => ?_)
    (fun a ha => .inl ha) hI.running (fun _ => rfl) (fun f => ?_) fun h => ?_
  · refine (List.mem_append.mp hh).imp_right fun hh => ?_
    rw [List.mem_singleton.mp hh]
    exact hI.fdWaits_le w hw
  · have h := hI.tokens f
    unfold State.tokens at h
    change (s.event.fdWaits.erase w).count _ + (s.event.queued ++ [_]).count _ + _ + _ ≤ 1
    rw [List.count_append, List.count_singleton]
    by_cases hf : w = (f, s.event.round)
    · have hpos : 0 < s.event.fdWaits.count (f, s.event.round) :=
        List.count_pos_iff.mpr (hf ▸ hw)
      rw [hf, List.count_erase_self, if_pos (beq_self_eq_true _)]
      omega
    · have hne : (Handler.fd w.1 w.2 == Handler.fd f s.event.round) = false := by
        rw [beq_eq_false_iff_ne]
        intro heq
        obtain ⟨hfst, hsnd⟩ := Handler.fd.inj heq
        exact hf (Prod.ext hfst hsnd)
      rw [List.count_erase_of_ne (Ne.symm hf), hne]
      exact h
  · rw [(hI.cancelled h).2.2.1] at hw
    cases hw

/-- A timer that expires keeps the invariant. -/
lemma Inv.timerExpired (hI : Inv s) {a : Arming} (ha : s.event.timerWait = some a) :
    Inv { s with event := s.event.timerExpired a } := by
  refine hI.within rfl (fun v hv => .inl hv) (fun h hh => ?_) (by rintro a ⟨⟩) hI.running
    (fun _ => rfl) (fun f => ?_) fun h => ?_
  · refine (List.mem_append.mp hh).imp_right fun hh => ?_
    rw [List.mem_singleton.mp hh]
    exact hI.timer_le a ha
  · have h := hI.tokens f
    unfold State.tokens at h
    change s.event.fdWaits.count _ + (s.event.queued ++ [_]).count _ + _ + _ ≤ 1
    rw [List.count_append]
    exact h
  · rw [(hI.cancelled h).2.2.2.1] at ha
    cases ha

/-! ## Handlers -/

/-- The handler of the descriptor disarms the timer and delivers. -/
lemma handle_fd {e : Event} (f : EventMask) (hsd : e.sd = true) :
    e.handle (.fd f e.round) = ({ e with timerWait := none },
      some ⟨f, if e.listenEvents &&& optPersist ≠ 0 then some e.round else none⟩) := by
  simp [Event.handle, Event.onFdWaitCompleted, hsd]

/-- The handler of the timer drops the waits for the descriptor and delivers. -/
lemma handle_timer {e : Event} (ht : e.timer = true) :
    e.handle (.timer e.round) = ({ e with fdWaits := [] }, some ⟨optTimeout, none⟩) := by
  simp [Event.handle, Event.onTimerFired, ht]

/-- What a queued handler does when it runs: it is dropped, or it passes its check. -/
lemma runHandler_cases (s : State) (h : Handler) :
    s.runHandler h = { s with event := s.event.dequeue h } ∨
      (∃ f, h = .fd f s.event.round ∧ s.event.sd = true ∧
        s.runHandler h =
          { s with
            event := { s.event.dequeue h with timerWait := none }
            running := s.running ++ [⟨.fd f, s.event.round, s.event.round, f,
              if s.event.listenEvents &&& optPersist ≠ 0 then some s.event.round else none,
              false⟩] }) ∨
      h = .timer s.event.round ∧ s.event.timer = true ∧
        s.runHandler h =
          { s with
            event := { s.event.dequeue h with fdWaits := [] }
            running := s.running ++ [⟨.timer, s.event.round, s.event.round, optTimeout, none,
              false⟩] } := by
  unfold State.runHandler
  dsimp only
  by_cases ha : s.alive = true
  · rw [if_pos ha]
    by_cases hp : (s.event.dequeue h).Passes h
    · cases h with
      | fd f r =>
        obtain ⟨hr, hsd⟩ := hp
        have hr : r = s.event.round := hr
        subst hr
        refine .inr (.inl ⟨f, rfl, hsd, ?_⟩)
        rw [show (s.event.dequeue (.fd f s.event.round)).handle (.fd f s.event.round) = _ from
          handle_fd f hsd]
        rfl
      | timer r =>
        obtain ⟨hr, ht⟩ := hp
        have hr : r = s.event.round := hr
        subst hr
        refine .inr (.inr ⟨rfl, ht, ?_⟩)
        rw [show (s.event.dequeue (.timer s.event.round)).handle (.timer s.event.round) = _ from
          handle_timer ht]
        rfl
    · left
      rw [Event.handle_of_not_passes hp]
  · left
    rw [if_neg ha]

/-- A handler that runs keeps the invariant. -/
lemma Inv.runHandler (hI : Inv s) {h : Handler} (hh : h ∈ s.event.queued) :
    Inv (s.runHandler h) := by
  have hpos : ∀ f, h = .fd f s.event.round →
      (s.event.queued.erase h).count (.fd f s.event.round) + 1 =
        s.event.queued.count (.fd f s.event.round) := by
    rintro f rfl
    rw [List.count_erase_self]
    exact Nat.sub_add_cancel (List.count_pos_iff.mpr hh)
  have hle : ∀ f, (s.event.queued.erase h).count (.fd f s.event.round) ≤
      s.event.queued.count (.fd f s.event.round) := fun f =>
    List.erase_sublist.count_le _
  have hgood : ∀ {r : Run}, r.Good s → ∀ j ∈ s.running ++ [r], j.Good s := fun hr j hj => by
    rcases List.mem_append.mp hj with hj | hj
    · exact hI.running j hj
    · rw [List.mem_singleton.mp hj]
      exact hr
  rcases runHandler_cases s h with heq | ⟨f, hf, hsd, heq⟩ | ⟨hf, ht, heq⟩
  · rw [heq]
    refine hI.within rfl (fun w hw => .inl hw) (fun j hj => .inl (List.mem_of_mem_erase hj))
      (fun a ha => .inl ha) hI.running (fun _ => rfl) (fun f => ?_) fun hc => hI.cancelled hc
    have htok := hI.tokens f
    unfold State.tokens at htok
    have hlef := hle f
    change _ + (s.event.queued.erase h).count _ + _ + _ ≤ 1
    change s.event.fdWaits.count (f, s.event.round) + _ + _ + _ ≤ 1
    omega
  · rw [heq]
    refine hI.within rfl (fun w hw => .inl hw) (fun j hj => .inl (List.mem_of_mem_erase hj))
      (by rintro a ⟨⟩) (hgood ⟨rfl, le_rfl, fun n hn => ?_, by rintro n ⟨⟩, by rintro ⟨⟩⟩)
      (fun n => ?_)
      (fun g => ?_) fun hc => ?_
    · dsimp only at hn
      split at hn <;> cases hn
      exact ⟨rfl, rfl⟩
    · rw [List.countP_append]
      rfl
    · have htok := hI.tokens g
      unfold State.tokens at htok
      rw [List.countP_append, List.countP_singleton]
      change s.event.fdWaits.count (g, s.event.round) + (s.event.queued.erase h).count _ + _ +
        _ ≤ 1
      by_cases hg : f = g
      · have hp := hpos g (hg ▸ hf)
        generalize Run.rearms g s.event.round (Run.mk _ _ _ _ _ _) = b
        cases b <;> simp only [if_true, if_false, Bool.false_eq_true] <;> omega
      · have hlef := hle g
        rw [if_neg (by simp [Run.rearms, hg])]
        omega
    · rw [(hI.cancelled hc).1] at hsd
      cases hsd
  · rw [heq]
    refine hI.within rfl (by rintro w ⟨⟩) (fun j hj => .inl (List.mem_of_mem_erase hj))
      (fun a ha => .inl ha)
      (hgood ⟨rfl, le_rfl, by rintro n ⟨⟩, by rintro n ⟨⟩, by rintro ⟨⟩⟩) (fun n => ?_)
      (fun g => ?_) fun hc => ?_
    · rw [List.countP_append]
      rfl
    · have htok := hI.tokens g
      unfold State.tokens at htok
      have hlef := hle g
      rw [List.countP_append]
      change 0 + (s.event.queued.erase h).count _ + (_ + 0) + _ ≤ 1
      omega
    · rw [(hI.cancelled hc).2.1] at ht
      cases ht

/-- The deliveries of a round after one of them has ended. -/
lemma countP_erase_trigger {l : List Run} {r : Run} (hr : r ∈ l) (n : ℕ) :
    (l.erase r).countP (fun r => r.source = .trigger n) + (if r.source = .trigger n then 1 else 0) =
      l.countP fun r => r.source = .trigger n := by
  rw [List.countP_erase]
  have hpos : r.source = .trigger n → 0 < l.countP fun r => r.source = .trigger n := fun h =>
    List.countP_pos_iff.mpr ⟨r, hr, by simpa using h⟩
  by_cases h : r.source = .trigger n
  · have := hpos h
    simp only [hr, h, decide_true, and_self, if_true]
    omega
  · simp [h]

/-- A callback that arms the event again keeps the invariant. -/
lemma Inv.rearm (hI : Inv s) {r : Run} (hr : r ∈ s.running) (hcalled : r.called = true) :
    Inv { s with
      event := s.event.afterCallback ⟨r.events, r.rearm⟩
      running := s.running.erase r } := by
  have hgood := hI.running r hr
  have hs : ∀ n, r.source ≠ .trigger n := fun n hn => by
    have hre := hgood.called hcalled
    rw [(hgood.trigger n hn).2.2] at hre
    cases hre
  refine hI.within ?_ (fun w hw => ?_) (fun j hj => ?_) (fun a ha => ?_)
    (fun j hj => hI.running j (List.mem_of_mem_erase hj)) (fun n => ?_) (fun f => ?_) fun hc => ?_
  · unfold Event.afterCallback
    split <;> simp
  · unfold Event.afterCallback at hw
    split at hw
    · exact mem_doAsyncWait hw
    · exact .inl hw
  · unfold Event.afterCallback at hj
    split at hj
    · rw [Event.doAsyncWait_queued] at hj
      exact .inl hj
    · exact .inl hj
  · unfold Event.afterCallback at ha
    split at ha
    · rw [Event.doAsyncWait_timerWait] at ha
      exact .inl ha
    · exact .inl ha
  · rw [← countP_erase_trigger hr n, if_neg (hs n), Nat.add_zero]
  · have htok := hI.tokens f
    unfold State.tokens at htok
    have herase : (s.running.erase r).countP (Run.rearms f s.event.round) ≤
        s.running.countP (Run.rearms f s.event.round) := List.erase_sublist.countP_le
    unfold Event.afterCallback
    split
    · rename_i hround
      have hround : r.rearm = some s.event.round := hround
      have hcount := count_doAsyncWait s.event f r.events s.event.round
      rw [Event.doAsyncWait_queued]
      by_cases hf : f = r.events
      · have hre : Run.rearms f s.event.round r = true := by
          rw [Run.rearms, decide_eq_true_iff, hf]
          exact ⟨(hgood.rearm _ hround).2, hround⟩
        have hone : (s.running.erase r).countP (Run.rearms f s.event.round) + 1 =
            s.running.countP (Run.rearms f s.event.round) := by
          rw [List.countP_erase, if_pos ⟨hr, hre⟩]
          exact Nat.sub_add_cancel (List.countP_pos_iff.mpr ⟨r, hr, hre⟩)
        rw [if_pos hf] at hcount
        dsimp only at hcount ⊢
        omega
      · rw [if_neg hf] at hcount
        dsimp only at hcount ⊢
        omega
    · omega
  · obtain ⟨hsd, ht, hw, ha, hl⟩ := hI.cancelled hc
    have hsame : s.event.afterCallback ⟨r.events, r.rearm⟩ = s.event := by
      unfold Event.afterCallback Event.doAsyncWait
      rw [hsd]
      split <;> rfl
    rw [hsame]
    exact ⟨hsd, ht, hw, ha, hl⟩

/-! ## Triggers and calls -/

/-- A trigger keeps the invariant. -/
lemma Inv.trigger (hI : Inv s) (flag : EventMask) :
    Inv { s with
      event := s.event.cancelPending
      posts := s.posts ++ [⟨s.triggers, s.event.round, flag⟩]
      triggers := s.triggers + 1
      triggerRound := Function.update s.triggerRound s.triggers s.event.round } := by
  have hlt : ∀ {n}, n < s.triggers →
      Function.update s.triggerRound s.triggers s.event.round n = s.triggerRound n := fun hn =>
    Function.update_of_ne hn.ne _ _
  have hfresh : s.pending s.triggers + s.callsOf s.triggers = 0 := by
    unfold State.pending State.callsOf
    have hposts : s.posts.countP (fun p => p.n = s.triggers) = 0 :=
      List.countP_eq_zero.mpr fun p hp h => (hI.posts p hp).1.ne (by simpa using h)
    have hrunning : (s.running.countP fun r => r.source = .trigger s.triggers) = 0 :=
      List.countP_eq_zero.mpr fun r hr h =>
        (((hI.running r hr).trigger s.triggers (by simpa using h)).1).false
    have hcalls : (s.calls.countP fun c => c.source = .trigger s.triggers) = 0 :=
      List.countP_eq_zero.mpr fun c hc h =>
        ((hI.calls c hc).2 s.triggers (by simpa using h)).false
    rw [hposts, hrunning, hcalls]
  have hposted : ∀ n, (s.posts ++ [Post.mk s.triggers s.event.round flag]).countP
      (fun p => p.n = n) = s.posts.countP (fun p => p.n = n) +
        if n = s.triggers then 1 else 0 := fun n => by
    rw [List.countP_append, List.countP_singleton]
    by_cases hn : n = s.triggers
    · rw [if_pos hn, if_pos (by simp [hn])]
    · rw [if_neg hn, if_neg (by simpa using Ne.symm hn)]
  refine
    { fdWaits_le := by rintro w ⟨⟩
      queued_le := hI.queued_le
      timer_le := by rintro a ⟨⟩
      posts := fun p hp => ?_
      running := fun r hr => ?_
      triggerRound_le := fun n hn => ?_
      calls := fun c hc => ⟨(hI.calls c hc).1, fun n hn => ((hI.calls c hc).2 n hn).trans
        (Nat.lt_succ_self _)⟩
      tokens := fun f => ?_
      once := fun n => ?_
      delivered := fun n hn hround ha hc => ?_
      cancelled := fun hc => ?_
      registered := hI.registered }
  · dsimp only
    rcases List.mem_append.mp hp with hp | hp
    · obtain ⟨hn, hround⟩ := hI.posts p hp
      exact ⟨hn.trans (Nat.lt_succ_self _), (hlt hn).trans hround⟩
    · rw [List.mem_singleton.mp hp]
      exact ⟨Nat.lt_succ_self _, Function.update_self _ _ _⟩
  · have hg := hI.running r hr
    refine ⟨hg.passed, hg.round_le, hg.rearm, fun n hn => ?_, hg.called⟩
    obtain ⟨hn, hround, hre⟩ := hg.trigger n hn
    exact ⟨hn.trans (Nat.lt_succ_self _), (hlt hn).trans hround, hre⟩
  · rcases (Nat.lt_succ_iff_lt_or_eq.mp hn) with hn | rfl
    · exact (hlt hn).trans_le (hI.triggerRound_le n hn)
    · exact (Function.update_self _ _ _).le
  · have htok := hI.tokens f
    unfold State.tokens at htok ⊢
    change 0 + s.event.queued.count (.fd f s.event.round) +
      s.running.countP (Run.rearms f s.event.round) + unarmed f s.listening ≤ 1
    omega
  · have honce := hI.once n
    unfold State.pending State.callsOf at honce hfresh ⊢
    dsimp only
    rw [hposted]
    split
    · rename_i hn
      rw [hn]
      omega
    · omega
  · unfold State.pending State.callsOf at hfresh ⊢
    dsimp only at hround hc ha ⊢
    rw [hposted]
    rcases (Nat.lt_succ_iff_lt_or_eq.mp hn) with hn | rfl
    · rw [if_neg hn.ne]
      rw [hlt hn] at hround
      have := hI.delivered n hn hround ha hc
      unfold State.pending State.callsOf at this
      omega
    · rw [if_pos rfl]
      omega
  · obtain ⟨hsd, ht, -, -, hl⟩ := hI.cancelled hc
    exact ⟨hsd, ht, rfl, rfl, hl⟩

/-- A posted handler that is dropped or passes its check keeps the invariant. -/
lemma Inv.runPosted (hI : Inv s) {p : Post} (hp : p ∈ s.posts) : Inv (s.runPosted p) := by
  obtain ⟨hn, hround⟩ := hI.posts p hp
  have herase : ∀ n, (s.posts.erase p).countP (fun q => q.n = n) + (if p.n = n then 1 else 0) =
      s.posts.countP fun q => q.n = n := fun n => by
    rw [List.countP_erase]
    by_cases h : p.n = n
    · have hpos : 0 < s.posts.countP fun q => q.n = n :=
        List.countP_pos_iff.mpr ⟨p, hp, by simpa using h⟩
      simp only [hp, h, decide_true, and_self, if_true]
      omega
    · simp [h]
  unfold State.runPosted
  dsimp only
  split
  · rename_i hpass
    have hcount : ∀ n, (s.running ++ [Run.mk (.trigger p.n) p.round s.event.round p.flag none
        false]).countP (fun r => r.source = .trigger n) =
          (s.running.countP fun r => r.source = .trigger n) + if p.n = n then 1 else 0 :=
      fun n => by
        rw [List.countP_append, List.countP_singleton]
        simp
    have hpending : ∀ n, (s.posts.erase p).countP (fun q => q.n = n) +
        (s.running ++ [Run.mk (.trigger p.n) p.round s.event.round p.flag none
          false]).countP (fun r => r.source = .trigger n) = s.pending n := fun n => by
      have h := herase n
      unfold State.pending
      rw [hcount]
      omega
    refine
      { hI with
        posts := fun q hq => hI.posts q (List.mem_of_mem_erase hq)
        running := fun r hr => ?_
        tokens := fun f => ?_
        once := fun n => ?_
        delivered := fun n hn hr ha hc => ?_ }
    · rcases List.mem_append.mp hr with hr | hr
      · exact (hI.running r hr).mono le_rfl rfl rfl
      · rw [List.mem_singleton.mp hr]
        refine ⟨hpass.2.symm, hpass.2.le, by rintro m ⟨⟩, fun m hm => ?_, by rintro ⟨⟩⟩
        cases hm
        exact ⟨hn, hround, rfl⟩
    · have htok := hI.tokens f
      unfold State.tokens at htok ⊢
      rw [List.countP_append]
      exact htok
    · exact (congrArg (· + s.callsOf n) (hpending n)).trans_le (hI.once n)
    · exact (congrArg (· + s.callsOf n) (hpending n)).trans (hI.delivered n hn hr ha hc)
  · rename_i hpass
    refine
      { hI with
        posts := fun q hq => hI.posts q (List.mem_of_mem_erase hq)
        running := fun r hr => (hI.running r hr).mono le_rfl rfl rfl
        tokens := hI.tokens
        once := fun n => ?_
        delivered := fun n hn hr ha hc => ?_ }
    · have h := hI.once n
      have he := herase n
      unfold State.pending State.callsOf at h ⊢
      dsimp only
      omega
    · have hne : p.n ≠ n := by
        rintro rfl
        exact hpass ⟨ha, hround.symm.trans hr⟩
      have h := hI.delivered n hn hr ha hc
      have he := herase n
      unfold State.pending State.callsOf at h ⊢
      rw [if_neg hne] at he
      dsimp only
      omega

/-- The runs that are counted after a callback has returned. -/
lemma countP_returned (r : Run) (p : Run → Bool) (hp : p { r with called := true } = p r) :
    r.returned.countP p = if r.rearm.isSome ∧ p r = true then 1 else 0 := by
  unfold Run.returned
  split
  · rename_i h
    rw [List.countP_singleton, hp]
    simp [h]
  · rename_i h
    simp [h]

/-- A call of the callback keeps the invariant. -/
lemma Inv.callback (hI : Inv s) {r : Run} (hr : r ∈ s.running) : Inv (s.callback r) := by
  have hgood := hI.running r hr
  have hrest : ∀ n, (s.running.erase r ++ r.returned).countP
      (fun j => j.source = .trigger n) + (if r.source = .trigger n then 1 else 0) =
        s.running.countP fun j => j.source = .trigger n := fun n => by
    rw [List.countP_append, ← countP_erase_trigger hr n, countP_returned r _ rfl]
    by_cases h : r.source = .trigger n
    · rw [(hgood.trigger n h).2.2]
      simp
    · simp [h]
  have hcalls : ∀ n, s.registered = true → (s.calls ++ [Call.mk r.source r.round r.passed]).countP
      (fun c => c.source = .trigger n) = s.callsOf n + if r.source = .trigger n then 1 else 0 :=
    fun n _ => by
      rw [List.countP_append, List.countP_singleton]
      simp [State.callsOf]
  have hcount : ∀ n, (s.callback r).pending n + (s.callback r).callsOf n +
      (if s.registered = false ∧ r.source = .trigger n then 1 else 0) =
        s.pending n + s.callsOf n := fun n => by
    have h := hrest n
    unfold State.callback State.pending
    dsimp only
    rw [State.callsOf]
    cases hreg : s.registered with
    | true =>
      have hc := hcalls n hreg
      simp only [if_true, Bool.true_eq_false, false_and, if_false]
      omega
    | false =>
      simp only [Bool.false_eq_true, if_false, true_and]
      change _ + s.callsOf n + _ = _
      omega
  refine
    { fdWaits_le := hI.fdWaits_le
      queued_le := hI.queued_le
      timer_le := hI.timer_le
      posts := hI.posts
      running := fun j hj => ?_
      triggerRound_le := hI.triggerRound_le
      calls := fun c hc => ?_
      tokens := fun f => ?_
      once := fun n => ?_
      delivered := fun n hn hround ha hc => ?_
      cancelled := hI.cancelled
      registered := hI.registered }
  · rcases List.mem_append.mp hj with hj | hj
    · exact (hI.running j (List.mem_of_mem_erase hj)).mono le_rfl rfl rfl
    · unfold Run.returned at hj
      split at hj
      · rename_i hre
        rw [List.mem_singleton.mp hj]
        exact ⟨hgood.passed, hgood.round_le, hgood.rearm, hgood.trigger, fun _ => hre⟩
      · cases hj
  · change c ∈ (if s.registered then _ else _) at hc
    split at hc
    · rcases List.mem_append.mp hc with hc | hc
      · exact hI.calls c hc
      · rw [List.mem_singleton.mp hc]
        exact ⟨hgood.passed, fun n hn => (hgood.trigger n hn).1⟩
    · exact hI.calls c hc
  · have htok := hI.tokens f
    unfold State.tokens at htok ⊢
    change s.event.fdWaits.count (f, s.event.round) +
      s.event.queued.count (.fd f s.event.round) +
      (s.running.erase r ++ r.returned).countP (Run.rearms f s.event.round) +
      unarmed f s.listening ≤ 1
    rw [List.countP_append, List.countP_erase, countP_returned r _ rfl]
    by_cases h : Run.rearms f s.event.round r = true
    · have hpos : 0 < s.running.countP (Run.rearms f s.event.round) :=
        List.countP_pos_iff.mpr ⟨r, hr, h⟩
      rw [if_pos ⟨hr, h⟩]
      split <;> omega
    · rw [if_neg fun hr => h hr.2, if_neg fun hr => h hr.2]
      omega
  · have h := hcount n
    have honce := hI.once n
    omega
  · have h := hcount n
    have hd := hI.delivered n hn hround ha hc
    have hreg : ¬ (s.registered = false ∧ r.source = .trigger n) := fun hreg =>
      hI.registered (.inl hreg.1) hc
    rw [if_neg hreg] at h
    omega

/-- Every step keeps the invariant. -/
lemma Inv.next {t : State} {l : Label} (hI : Inv s) (h : next s l = some t) : Inv t := by
  cases l with
  | startListen now timeout =>
    rw [Pollevent.next] at h
    split at h <;> cases h
    exact hI.startListen now timeout
  | listen now =>
    obtain ⟨⟨l, timeout⟩, hl, rfl⟩ := Option.map_eq_some_iff.mp h
    exact hI.listen hl now
  | cancelListen needCloseFd =>
    rw [Pollevent.next] at h
    split at h <;> cases h
    rename_i hg
    exact hI.cancelListen hg.1 needCloseFd _ _ _
  | takeCallback =>
    rw [Pollevent.next] at h
    split at h <;> cases h
    rename_i hg
    exact { hI with
      running := fun r hr => (hI.running r hr).mono le_rfl rfl rfl
      tokens := hI.tokens
      once := hI.once
      delivered := hI.delivered
      registered := fun _ => hI.registered (.inr hg) }
  | trigger flag =>
    rw [Pollevent.next] at h
    split at h <;> cases h
    exact hI.trigger flag
  | fdReady w =>
    rw [Pollevent.next] at h
    split at h <;> cases h
    exact hI.fdReady ‹_›
  | timerExpired =>
    obtain ⟨a, ha, rfl⟩ := Option.map_eq_some_iff.mp h
    exact hI.timerExpired ha
  | run j =>
    rw [Pollevent.next] at h
    split at h <;> cases h
    rename_i hg
    exact hI.runHandler hg.1
  | runPost p =>
    rw [Pollevent.next] at h
    split at h <;> cases h
    rename_i hg
    exact hI.runPosted hg.1
  | call r =>
    rw [Pollevent.next] at h
    split at h <;> cases h
    rename_i hg
    exact hI.callback hg.1
  | rearm r =>
    rw [Pollevent.next] at h
    split at h <;> cases h
    rename_i hg
    exact hI.rearm hg.1 hg.2.1
  | destroy =>
    rw [Pollevent.next] at h
    split at h <;> cases h
    rename_i hg
    exact hI.cancelListen hg.1 false _ _ _

/-! ## Main result -/

/-- The invariant holds in every reachable state. -/
lemma inv_of_reachable (h : system.Reachable s) : Inv s := by
  refine h.induct ?_ fun s l t hI hs => hI.next hs
  rintro s ⟨fd, listenEvents, rfl⟩
  exact
    { fdWaits_le := by rintro w ⟨⟩
      queued_le := by rintro h ⟨⟩
      timer_le := by rintro a ⟨⟩
      posts := by rintro p ⟨⟩
      running := by rintro r ⟨⟩
      triggerRound_le := by rintro n ⟨⟩
      calls := by rintro c ⟨⟩
      tokens := fun f => Nat.zero_le _
      once := fun n => Nat.zero_le _
      delivered := by rintro n ⟨⟩
      cancelled := by rintro ⟨⟩
      registered := by rintro (h | h) <;> cases h }

/-- In every run the rounds are isolated. -/
theorem isolated_of_reachable (h : system.Reachable s) : Isolated s :=
  (inv_of_reachable h).isolated

end

/-- A persistent event is ready while its first trigger is on its way; it is restarted while the
callback runs, and triggered again. -/
def restart : List Label :=
  [.startListen 0 5, .listen 0, .listen 0, .listen 0, .listen 0, .fdReady (optReadable, 1),
    .trigger optWriteable, .run (.fd optReadable 1),
    .call ⟨.fd optReadable, 1, 1, optReadable, some 1, false⟩, .startListen 0 5, .listen 0,
    .listen 0, .listen 0, .listen 0, .rearm ⟨.fd optReadable, 1, 1, optReadable, some 1, true⟩,
    .runPost ⟨0, 1, optWriteable⟩, .trigger optWriteable, .runPost ⟨1, 2, optWriteable⟩,
    .call ⟨.trigger 1, 2, 2, optWriteable, none, false⟩]

/-- The trigger of the first round is dropped, and that of the second one is delivered. -/
theorem isolated_of_reachable_restart : ∃ s : State, system.Reachable s ∧
    s.callsOf 0 = 0 ∧ s.callsOf 1 = 1 ∧ s.calls.length = 2 ∧ Isolated s := by
  have hrun : system.endsIn
      { event := Event.new 3 (optReadable ||| optTimeout ||| optPersist) } restart
      (fun s => s.callsOf 0 = 0 ∧ s.callsOf 1 = 1 ∧ s.calls.length = 2) = true := by
    decide +kernel
  obtain ⟨s, hs, h0, h1, hlen⟩ := System.exists_of_endsIn (A := system) ⟨_, _, rfl⟩ hrun
  exact ⟨s, hs, h0, h1, hlen, isolated_of_reachable hs⟩

/-- An event is cancelled and started again, and then triggered. -/
def triggerCancelled : List Label :=
  [.cancelListen false, .takeCallback, .startListen 0 0, .listen 0, .listen 0, .listen 0,
    .listen 0, .trigger optReadable, .runPost ⟨0, 2, optReadable⟩,
    .call ⟨.trigger 0, 2, 2, optReadable, none, false⟩]

/-- The trigger is accepted in the current round of a live event, and is not delivered. -/
theorem not_delivered_cancelled : ∃ s : State, system.Reachable s ∧ s.triggers = 1 ∧
    s.triggerRound 0 = s.event.round ∧ s.alive = true ∧ s.pending 0 = 0 ∧ s.callsOf 0 = 0 := by
  have hrun : system.endsIn { event := Event.new (-1) 0 } triggerCancelled
      (fun s => s.triggers = 1 ∧ s.triggerRound 0 = s.event.round ∧ s.alive = true ∧
        s.pending 0 = 0 ∧ s.callsOf 0 = 0) = true := by
    decide +kernel
  obtain ⟨s, hs, h⟩ := System.exists_of_endsIn (A := system) ⟨_, _, rfl⟩ hrun
  exact ⟨s, hs, h⟩

end BbtCoroutine.Pollevent
