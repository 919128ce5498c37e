import BbtCoroutine.Pollevent.Isolated

/-!
# One delivery for a round

An event that is not persistent is to call its callback once in a round.  A handler cancels the
waits of the other kind, but it neither revokes a handler that is queued already nor closes the
round; so two completions of one round are both delivered if both are queued, or if the event
waits for both directions.
-/

namespace BbtCoroutine.Pollevent

open Transition
open Coroutine (optReadable optWriteable optPersist optTimeout)

/-! ## Statement -/

/-- The source is a completion of the round `n`. -/
def completes (n : ℕ) (source : Source) (round : ℕ) : Bool :=
  match source with
  | .trigger _ => false
  | _ => round == n

/-- How often the callback has been called for the completions of the round `n`. -/
def State.completions (s : State) (n : ℕ) : ℕ :=
  s.calls.countP fun c => completes n c.source c.round

/-- The handler finds the object alive and passes its check. -/
def State.passes (s : State) (h : Handler) : Bool :=
  s.alive && (s.event.handle h).2.isSome

/-- The step delivers no completion while another one of the round is queued, and none of the
descriptor while it is still waited for in the other direction. -/
def Kept (s : State) : Label → Prop
  | .run h => s.passes h = true →
    (∀ j ∈ s.event.queued.erase h, j.round ≠ s.event.round) ∧
      (h.source ≠ .timer → ∀ w ∈ s.event.fdWaits, w.2 ≠ s.event.round)
  | _ => True

/-! ## The invariant -/

/-- The handlers of completions of the round `n` that have passed their checks. -/
def State.passed (s : State) (n : ℕ) : ℕ :=
  s.completions n + s.running.countP fun r => completes n r.source r.round

/-- Nothing of the current round is waited for or queued any more. -/
structure Closed (s : State) : Prop where
  fdWaits : ∀ w ∈ s.event.fdWaits, w.2 ≠ s.event.round
  timerWait : ∀ a, s.event.timerWait = some a → a.round ≠ s.event.round
  queued : ∀ h ∈ s.event.queued, h.round ≠ s.event.round
  listening : s.listening = none

/-- A round is delivered once, and is closed then. -/
structure Once (s : State) : Prop where
  rearm : ∀ r ∈ s.running, r.rearm = none
  passed_le : ∀ n, s.passed n ≤ 1
  closed : s.passed s.event.round ≠ 0 → Closed s
  later : ∀ n, s.event.round < n → s.passed n = 0

section

variable {s : State}

/-! ## The timer -/

/-- The timer is armed once in a round: a `StartListen` that has still to arm it finds neither a
wait nor a handler of the round, and a handler of the round is the only one. -/
structure TimerOnce (s : State) : Prop where
  arming : s.listening ≠ none →
    (∀ a, s.event.timerWait = some a → a.round ≠ s.event.round) ∧
      .timer s.event.round ∉ s.event.queued
  queued : .timer s.event.round ∈ s.event.queued →
    ∀ a, s.event.timerWait = some a → a.round ≠ s.event.round

/-- In a new round the timer has not been armed. -/
lemma Inv.timerOnce (hI : Inv s) {t : State} (hround : t.event.round = s.event.round + 1)
    (htimer : t.event.timerWait = s.event.timerWait ∨ t.event.timerWait = none)
    (hqueued : t.event.queued = s.event.queued) : TimerOnce t := by
  have hwait : ∀ a, t.event.timerWait = some a → a.round ≠ t.event.round := fun a ha => by
    rcases htimer with h | h
    · have hle := hI.timer_le a (h.symm.trans ha)
      omega
    · rw [h] at ha
      cases ha
  refine ⟨fun _ => ⟨hwait, fun h => ?_⟩, fun _ => hwait⟩
  rw [hqueued, hround] at h
  exact absurd (hI.queued_le _ h) (Nat.not_succ_le_self _)

/-- A step that opens no round and arms no timer keeps that. -/
lemma TimerOnce.within (hT : TimerOnce s) {t : State} (hround : t.event.round = s.event.round)
    (htimer : t.event.timerWait = s.event.timerWait ∨ t.event.timerWait = none)
    (hqueued : .timer s.event.round ∈ t.event.queued → .timer s.event.round ∈ s.event.queued)
    (hl : t.listening ≠ none → s.listening ≠ none) : TimerOnce t := by
  have hwait : (∀ a, s.event.timerWait = some a → a.round ≠ s.event.round) →
      ∀ a, t.event.timerWait = some a → a.round ≠ t.event.round := fun h a ha => by
    rw [hround]
    rcases htimer with ht | ht
    · exact h a (ht.symm.trans ha)
    · rw [ht] at ha
      cases ha
  refine ⟨fun h => ?_, fun h => ?_⟩
  · obtain ⟨hw, hq⟩ := hT.arming (hl h)
    exact ⟨hwait hw, fun h => hq (hqueued (hround ▸ h))⟩
  · exact hwait (hT.queued (hqueued (hround ▸ h)))

/-- Every step keeps the timer armed once in a round. -/
lemma TimerOnce.next {t : State} {l : Label} (hT : TimerOnce s) (hI : Inv s)
    (hs : next s l = some t) : TimerOnce t := by
  cases l with
  | startListen now timeout =>
    rw [Pollevent.next] at hs
    split at hs <;> cases hs
    exact hI.timerOnce rfl (.inl rfl) rfl
  | listen now =>
    obtain ⟨⟨l, timeout⟩, hl, rfl⟩ := Option.map_eq_some_iff.mp hs
    have hsome : s.listening ≠ none := by simp [hl]
    cases l with
    | cancelPending => exact hT.within rfl (.inr rfl) id fun _ => hsome
    | read | write =>
      refine hT.within ?_ (.inl ?_) (fun h => ?_) fun _ => hsome
      · dsimp only [State.listen]
        split <;> simp
      · dsimp only [State.listen]
        split <;> simp
      · dsimp only [State.listen] at h
        split at h
        · rwa [Event.doAsyncWait_queued] at h
        · exact h
    | timer =>
      refine ⟨fun h => absurd rfl h, fun h => ?_⟩
      dsimp only [State.listen] at h
      rw [listenTimer_round, listenTimer_queued] at h
      exact absurd h (hT.arming hsome).2
  | cancelListen needCloseFd =>
    rw [Pollevent.next] at hs
    split at hs <;> cases hs
    exact hI.timerOnce rfl (.inr rfl) rfl
  | takeCallback =>
    rw [Pollevent.next] at hs
    split at hs <;> cases hs
    exact ⟨hT.arming, hT.queued⟩
  | trigger flag =>
    rw [Pollevent.next] at hs
    split at hs <;> cases hs
    exact hT.within rfl (.inr rfl) id id
  | fdReady w =>
    rw [Pollevent.next] at hs
    split at hs <;> cases hs
    refine hT.within rfl (.inl rfl) (fun h => ?_) id
    exact (List.mem_append.mp h).resolve_right (by simp)
  | timerExpired =>
    obtain ⟨a, ha, rfl⟩ := Option.map_eq_some_iff.mp hs
    refine ⟨fun h => ⟨by rintro a ⟨⟩, fun hq => ?_⟩, fun _ => by rintro a ⟨⟩⟩
    obtain ⟨hw, hn⟩ := hT.arming h
    rcases List.mem_append.mp hq with hq | hq
    · exact hn hq
    · exact hw a ha (Handler.timer.inj (List.mem_singleton.mp hq)).symm
  | run j =>
    rw [Pollevent.next] at hs
    split at hs <;> cases hs
    rcases runHandler_cases s j with heq | ⟨f, -, -, heq⟩ | ⟨-, -, heq⟩ <;> rw [heq]
    · exact hT.within rfl (.inl rfl) List.mem_of_mem_erase id
    · exact hT.within rfl (.inr rfl) List.mem_of_mem_erase id
    · exact hT.within rfl (.inl rfl) List.mem_of_mem_erase id
  | runPost p =>
    rw [Pollevent.next] at hs
    split at hs <;> cases hs
    unfold State.runPosted
    dsimp only
    split <;> exact ⟨hT.arming, hT.queued⟩
  | call r =>
    rw [Pollevent.next] at hs
    split at hs <;> cases hs
    exact ⟨hT.arming, hT.queued⟩
  | rearm r =>
    rw [Pollevent.next] at hs
    split at hs <;> cases hs
    refine hT.within ?_ (.inl ?_) (fun h => ?_) id
    · dsimp only [Event.afterCallback]
      split <;> simp
    · dsimp only [Event.afterCallback]
      split <;> simp
    · dsimp only [Event.afterCallback] at h
      split at h
      · rwa [Event.doAsyncWait_queued] at h
      · exact h
  | destroy =>
    rw [Pollevent.next] at hs
    split at hs <;> cases hs
    exact hI.timerOnce rfl (.inr rfl) rfl

/-! ## Deliveries -/

/-- A step that delivers nothing, and closes what was closed, keeps the invariant. -/
lemma Once.within (hO : Once s) {t : State} (hrunning : t.running = s.running)
    (hcalls : t.calls = s.calls) (hround : s.event.round ≤ t.event.round)
    (hclosed : t.event.round = s.event.round → Closed s → Closed t) : Once t := by
  have hpassed : ∀ n, t.passed n = s.passed n := fun n => by
    unfold State.passed State.completions
    rw [hrunning, hcalls]
  refine ⟨fun r hr => hO.rearm r (hrunning ▸ hr), fun n => ?_, fun h => ?_, fun n hn => ?_⟩
  · rw [hpassed]
    exact hO.passed_le n
  · rw [hpassed] at h
    rcases hround.eq_or_lt with heq | hlt
    · rw [← heq] at h
      exact hclosed heq.symm (hO.closed h)
    · exact absurd (hO.later _ hlt) h
  · rw [hpassed]
    exact hO.later n (hround.trans_lt hn)

/-- A completion of a round that is still open is delivered once, and closes it. -/
lemma Once.pass (hO : Once s) {t : State} {r : Run} (hopen : ¬ Closed s)
    (hrunning : t.running = s.running ++ [r]) (hcalls : t.calls = s.calls)
    (hround : t.event.round = s.event.round) (hr : r.round = s.event.round)
    (hrearm : r.rearm = none) (hclosed : Closed t) : Once t := by
  have hzero : s.passed s.event.round = 0 := by
    by_contra h
    exact hopen (hO.closed h)
  have hpassed : ∀ n, t.passed n ≤ s.passed n + if n = s.event.round then 1 else 0 := fun n => by
    unfold State.passed State.completions
    rw [hrunning, hcalls, List.countP_append, List.countP_singleton, ← Nat.add_assoc]
    refine Nat.add_le_add_left ?_ _
    unfold completes
    rw [hr]
    by_cases hn : n = s.event.round
    · rw [if_pos hn]
      split <;> split <;> omega
    · rw [if_neg hn, if_neg]
      cases r.source <;> simp [Ne.symm hn]
  refine ⟨fun j hj => ?_, fun n => ?_, fun _ => hclosed, fun n hn => ?_⟩
  · rw [hrunning] at hj
    rcases List.mem_append.mp hj with hj | hj
    · exact hO.rearm j hj
    · rw [List.mem_singleton.mp hj]
      exact hrearm
  · refine (hpassed n).trans ?_
    split
    · rename_i hn
      rw [hn, hzero]
    · exact hO.passed_le n
  · rw [hround] at hn
    have h := hpassed n
    rw [hO.later n hn, if_neg hn.ne'] at h
    exact Nat.le_zero.mp h

/-- A handler that is run delivers a completion of a round that is open, and closes it. -/
lemma Once.runHandler (hO : Once s) (hT : TimerOnce s) {h : Handler}
    (hp : s.event.listenEvents &&& optPersist = 0) (hh : h ∈ s.event.queued)
    (hl : s.listening = none) (hk : Kept s (.run h)) :
    Once (s.runHandler h) := by
  have hdrop : Once { s with event := s.event.dequeue h } :=
    hO.within rfl rfl le_rfl fun _ hc => ⟨hc.fdWaits, hc.timerWait,
      fun j hj => hc.queued j (List.mem_of_mem_erase hj), hc.listening⟩
  by_cases ha : s.alive = true
  · rcases runHandler_cases s h with heq | ⟨f, rfl, hsd, heq⟩ | ⟨rfl, ht, heq⟩ <;> rw [heq]
    · exact hdrop
    · have hk := hk (by rw [State.passes, ha, handle_fd f hsd]; rfl)
      refine hO.pass (fun hc => hc.queued _ hh rfl) rfl rfl rfl rfl ?_
        ⟨hk.2 (by rintro ⟨⟩), by rintro a ⟨⟩, hk.1, hl⟩
      exact if_neg (not_not.mpr hp)
    · have hk := hk (by rw [State.passes, ha, handle_timer ht]; rfl)
      exact hO.pass (fun hc => hc.queued _ hh rfl) rfl rfl rfl rfl rfl
        ⟨by rintro w ⟨⟩, hT.queued hh, hk.1, hl⟩
  · rw [show s.runHandler h = { s with event := s.event.dequeue h } from if_neg ha]
    exact hdrop

/-- A posted handler delivers no completion. -/
lemma Once.runPosted (hO : Once s) (p : Post) : Once (s.runPosted p) := by
  unfold State.runPosted
  dsimp only
  split
  · have hpassed : ∀ n, s.completions n + (s.running ++ [Run.mk (.trigger p.n) p.round
        s.event.round p.flag none false]).countP (fun r => completes n r.source r.round) =
          s.passed n := fun n => by
      rw [List.countP_append, List.countP_singleton]
      rfl
    refine ⟨fun r hr => ?_, fun n => (hpassed n).trans_le (hO.passed_le n), fun h => ?_,
      fun n hn => (hpassed n).trans (hO.later n hn)⟩
    · rcases List.mem_append.mp hr with hr | hr
      · exact hO.rearm r hr
      · rw [List.mem_singleton.mp hr]
    · have hc := hO.closed fun h0 => h ((hpassed _).trans h0)
      exact ⟨hc.fdWaits, hc.timerWait, hc.queued, hc.listening⟩
  · exact hO.within rfl rfl le_rfl fun _ hc => ⟨hc.fdWaits, hc.timerWait, hc.queued, hc.listening⟩

/-- A call of the callback delivers what has passed its check. -/
lemma Once.callback (hO : Once s) {r : Run} (hr : r ∈ s.running) : Once (s.callback r) := by
  have hreturned : r.returned = [] := by
    unfold Run.returned
    rw [hO.rearm r hr]
    rfl
  have hrunning : (s.callback r).running = s.running.erase r := by
    unfold State.callback
    rw [hreturned, List.append_nil]
  have hcalls : ∀ n, (s.callback r).completions n ≤
      s.completions n + if completes n r.source r.round then 1 else 0 := fun n => by
    unfold State.completions State.callback
    dsimp only
    cases s.registered
    · exact Nat.le_add_right _ _
    · rw [if_pos rfl, List.countP_append, List.countP_singleton]
  have herase : ∀ n, (s.running.erase r).countP (fun r => completes n r.source r.round) +
      (if completes n r.source r.round then 1 else 0) =
        s.running.countP fun r => completes n r.source r.round := fun n => by
    rw [(List.perm_cons_erase hr).countP_eq, List.countP_cons]
  have hpassed : ∀ n, (s.callback r).passed n ≤ s.passed n := fun n => by
    unfold State.passed
    rw [hrunning]
    have := hcalls n
    have := herase n
    omega
  refine ⟨fun j hj => ?_, fun n => (hpassed n).trans (hO.passed_le n), fun h => ?_, fun n hn => ?_⟩
  · rw [hrunning] at hj
    exact hO.rearm j (List.mem_of_mem_erase hj)
  · have hc := hO.closed fun h0 => h (Nat.le_zero.mp ((hpassed _).trans_eq h0))
    exact ⟨hc.fdWaits, hc.timerWait, hc.queued, hc.listening⟩
  · exact Nat.le_zero.mp ((hpassed n).trans_eq (hO.later n hn))

/-- A `StartListen` that goes on delivers nothing, and its round is open. -/
lemma Once.listen (hO : Once s) {l : Listening} {timeout : ℕ}
    (hl : s.listening = some (l, timeout)) (now : ℤ) : Once (s.listen now timeout l) := by
  have hopen : ¬ Closed s := fun hc => by
    rw [hc.listening] at hl
    cases hl
  cases l with
  | cancelPending => exact hO.within rfl rfl le_rfl fun _ hc => absurd hc hopen
  | read | write =>
    refine hO.within rfl rfl ?_ fun _ hc => absurd hc hopen
    dsimp only [State.listen]
    split <;> simp
  | timer => exact hO.within rfl rfl (by simp [State.listen]) fun _ hc => absurd hc hopen

@[simp] lemma doAsyncWait_listenEvents (e : Event) (f : EventMask) (r : ℕ) :
    (e.doAsyncWait f r).listenEvents = e.listenEvents := by
  unfold Event.doAsyncWait
  split <;> rfl

@[simp] lemma listenTimer_listenEvents (e : Event) (now : ℤ) (timeout : ℕ) :
    (e.listenTimer now timeout).listenEvents = e.listenEvents := by
  unfold Event.listenTimer
  split_ifs <;> rfl

/-- The flags of an event do not change. -/
lemma listenEvents_next {t : State} {l : Label} (hs : next s l = some t) :
    t.event.listenEvents = s.event.listenEvents := by
  cases l with
  | listen now =>
    obtain ⟨⟨l, timeout⟩, -, rfl⟩ := Option.map_eq_some_iff.mp hs
    cases l with
    | cancelPending => rfl
    | read | write =>
      dsimp only [State.listen]
      split <;> simp
    | timer => exact listenTimer_listenEvents _ _ _
  | timerExpired =>
    obtain ⟨a, -, rfl⟩ := Option.map_eq_some_iff.mp hs
    rfl
  | run j =>
    rw [Pollevent.next] at hs
    split at hs <;> cases hs
    rcases runHandler_cases s j with heq | ⟨f, -, -, heq⟩ | ⟨-, -, heq⟩ <;> rw [heq] <;> rfl
  | runPost p =>
    rw [Pollevent.next] at hs
    split at hs <;> cases hs
    unfold State.runPosted
    dsimp only
    split <;> rfl
  | rearm r =>
    rw [Pollevent.next] at hs
    split at hs <;> cases hs
    dsimp only [Event.afterCallback]
    split <;> simp
  | startListen | cancelListen | takeCallback | trigger | fdReady | call | destroy =>
    rw [Pollevent.next] at hs
    split at hs <;> cases hs
    rfl

/-- Every step that satisfies the condition keeps the invariant. -/
lemma Once.next {t : State} {l : Label} (hO : Once s) (hT : TimerOnce s) (hI : Inv s)
    (hp : s.event.listenEvents &&& optPersist = 0) (hk : Kept s l) (hs : next s l = some t) :
    Once t := by
  cases l with
  | startListen now timeout =>
    rw [Pollevent.next] at hs
    split at hs <;> cases hs
    exact hO.within rfl rfl (Nat.le_succ _) fun h _ => absurd h (Nat.succ_ne_self _)
  | listen now =>
    obtain ⟨⟨l, timeout⟩, hl, rfl⟩ := Option.map_eq_some_iff.mp hs
    exact hO.listen hl now
  | cancelListen needCloseFd =>
    rw [Pollevent.next] at hs
    split at hs <;> cases hs
    exact hO.within rfl rfl (Nat.le_succ _) fun h _ => absurd h (Nat.succ_ne_self _)
  | takeCallback =>
    rw [Pollevent.next] at hs
    split at hs <;> cases hs
    exact hO.within rfl rfl le_rfl fun _ hc => ⟨hc.fdWaits, hc.timerWait, hc.queued, hc.listening⟩
  | trigger flag =>
    rw [Pollevent.next] at hs
    split at hs <;> cases hs
    exact hO.within rfl rfl le_rfl fun _ hc =>
      ⟨by rintro w ⟨⟩, by rintro a ⟨⟩, hc.queued, hc.listening⟩
  | fdReady w =>
    rw [Pollevent.next] at hs
    split at hs <;> cases hs
    rename_i hw
    refine hO.within rfl rfl le_rfl fun _ hc => ⟨fun v hv => ?_, hc.timerWait, fun h hh => ?_,
      hc.listening⟩
    · exact hc.fdWaits v (List.mem_of_mem_erase hv)
    · rcases List.mem_append.mp hh with hh | hh
      · exact hc.queued h hh
      · rw [List.mem_singleton.mp hh]
        exact hc.fdWaits w hw
  | timerExpired =>
    obtain ⟨a, ha, rfl⟩ := Option.map_eq_some_iff.mp hs
    refine hO.within rfl rfl le_rfl fun _ hc => ⟨hc.fdWaits, by rintro a ⟨⟩, fun h hh => ?_,
      hc.listening⟩
    rcases List.mem_append.mp hh with hh | hh
    · exact hc.queued h hh
    · rw [List.mem_singleton.mp hh]
      exact hc.timerWait a ha
  | run j =>
    rw [Pollevent.next] at hs
    split at hs <;> cases hs
    rename_i hg
    exact hO.runHandler hT hp hg.1 hg.2 hk
  | runPost p =>
    rw [Pollevent.next] at hs
    split at hs <;> cases hs
    exact hO.runPosted p
  | call r =>
    rw [Pollevent.next] at hs
    split at hs <;> cases hs
    rename_i hg
    exact hO.callback hg.1
  | rearm r =>
    rw [Pollevent.next] at hs
    split at hs <;> cases hs
    rename_i hg
    have hre := (hI.running r hg.1).called hg.2.1
    rw [hO.rearm r hg.1] at hre
    cases hre
  | destroy =>
    rw [Pollevent.next] at hs
    split at hs <;> cases hs
    exact hO.within rfl rfl (Nat.le_succ _) fun h _ => absurd h (Nat.succ_ne_self _)

/-! ## Main result -/

/-- The timer is armed once in a round, in every reachable state. -/
lemma timerOnce_of_reachable (h : system.Reachable s) : TimerOnce s := by
  refine h.induct_with (fun _ => inv_of_reachable) ?_ fun s l t hI _ hT _ hs => hT.next hI hs
  rintro s ⟨fd, listenEvents, rfl⟩
  exact ⟨fun h => absurd rfl h, by rintro ⟨⟩⟩

/-- An event has delivered once at most after a run of kept steps. -/
lemma once_of_kept (h : system.ReachableWhen Kept s) :
    s.event.listenEvents &&& optPersist = 0 → Once s := by
  refine h.induct_with (I := fun s => s.event.listenEvents &&& optPersist = 0 → Once s)
    (J := fun s => Inv s ∧ TimerOnce s)
    (fun s hs => ⟨inv_of_reachable hs.reachable, timerOnce_of_reachable hs.reachable⟩) ?_
    fun s l t hJ _ hO hk hs hp => ?_
  · rintro s ⟨fd, listenEvents, rfl⟩ -
    exact ⟨by rintro r ⟨⟩, fun n => Nat.zero_le _, fun h => absurd rfl h, fun n _ => rfl⟩
  · rw [listenEvents_next hs] at hp
    exact (hO hp).next hJ.2 hJ.1 hp hk hs

/-- In every run whose steps satisfy the condition, an event that is not persistent calls its
callback at most once for the completions of a round. -/
theorem completions_le_of_kept (h : system.ReachableWhen Kept s)
    (hp : s.event.listenEvents &&& optPersist = 0) (n : ℕ) : s.completions n ≤ 1 :=
  (Nat.le_add_right _ _).trans ((once_of_kept h hp).passed_le n)

end

/-- Whether a step is kept can be computed. -/
instance decidableKept (s : State) (l : Label) : Decidable (Kept s l) :=
  match l with
  | .run h => inferInstanceAs (Decidable (s.passes h = true → _ ∧ _))
  | .startListen _ _ | .listen _ | .cancelListen _ | .takeCallback | .trigger _ | .fdReady _
  | .timerExpired | .runPost _ | .call _ | .rearm _ | .destroy => inferInstanceAs (Decidable True)

/-- A descriptor becomes ready in a round with a timeout, and again in the next one. -/
def readyTwice : List Label :=
  [.startListen 0 5, .listen 0, .listen 0, .listen 0, .listen 0, .fdReady (optReadable, 1),
    .run (.fd optReadable 1), .call ⟨.fd optReadable, 1, 1, optReadable, none, false⟩,
    .startListen 9 5, .listen 9, .listen 9, .listen 9, .listen 9, .timerExpired,
    .run (.timer 2), .call ⟨.timer, 2, 2, optTimeout, none, false⟩]

/-- Each of the two rounds calls the callback once. -/
theorem completions_le_of_kept_readyTwice : ∃ s : State, system.ReachableWhen Kept s ∧
    s.completions 1 = 1 ∧ s.completions 2 = 1 ∧ ∀ n, s.completions n ≤ 1 := by
  have hrun : system.endsInWhen Kept { event := Event.new 3 (optReadable ||| optTimeout) }
      readyTwice (fun s => s.event.listenEvents &&& optPersist = 0 ∧ s.completions 1 = 1 ∧
        s.completions 2 = 1) = true := by
    decide +kernel
  obtain ⟨s, hs, hp, h1, h2⟩ := System.exists_of_endsInWhen (A := system) ⟨_, _, rfl⟩ hrun
  exact ⟨s, hs, h1, h2, completions_le_of_kept hs hp⟩

/-- The timer expires while the handler of the descriptor is queued. -/
def readyExpired : List Label :=
  [.startListen 0 5, .listen 0, .listen 0, .listen 0, .listen 0, .fdReady (optReadable, 1),
    .timerExpired, .run (.fd optReadable 1),
    .call ⟨.fd optReadable, 1, 1, optReadable, none, false⟩, .run (.timer 1),
    .call ⟨.timer, 1, 1, optTimeout, none, false⟩]

/-- One round of an event that is not persistent calls the callback with both reasons. -/
theorem not_completions_le_readyExpired : ∃ s : State, system.Reachable s ∧
    s.event.listenEvents &&& optPersist = 0 ∧
      s.calls = [⟨.fd optReadable, 1, 1⟩, ⟨.timer, 1, 1⟩] ∧ s.completions 1 = 2 := by
  have hrun : system.endsIn { event := Event.new 3 (optReadable ||| optTimeout) } readyExpired
      (fun s => s.event.listenEvents &&& optPersist = 0 ∧
        s.calls = [⟨.fd optReadable, 1, 1⟩, ⟨.timer, 1, 1⟩] ∧ s.completions 1 = 2) = true := by
    decide +kernel
  obtain ⟨s, hs, h⟩ := System.exists_of_endsIn (A := system) ⟨_, _, rfl⟩ hrun
  exact ⟨s, hs, h⟩

end BbtCoroutine.Pollevent
