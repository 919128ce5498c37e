import BbtCoroutine.OnYield.RunsOnce

/-!
# The records of `DebugMgr`

`Records` says, for each place that the coroutine or its driver can be at, whether the awaited event
is in `m_event_map`, and `Pc.resumed` whether the coroutine is in `m_co_map`.  In a correct run in
which no callback reports failure while it still awaits an event, every step of the coroutine and of
its driver keeps them.
-/

namespace BbtCoroutine.OnYield

open Transition

variable {sh sh' : Shared} {d : Debug} {a : Alloc} {pc : Pc} {i k : ℕ}

/-! ## Correct runs -/

/-- The awaited event was awaited by an earlier call that has failed. -/
def Shared.stale (sh : Shared) : Prop :=
  ∃ j, j < sh.ctx.calls ∧ (sh.ctx.call j).failed ∧ (sh.ctx.call j).await = sh.awaitEvent

/-- What the last registration of the callback that is at work has returned. -/
def Pc.verdict : Pc → Option (Option Bool)
  | callback _ (.user v) => some v
  | _ => none

/-- A step of a correct run.  Only a driver that has the coroutine resumes it, after `CommitYield`
if it waits for an event; a callback registers the awaited event, once, and reports success for an
event of its own call only if it has; and of two attempts at a diagnostic registration of a
coroutine or an event the second one succeeds. -/
def Correct (s : State) : Label → Prop
  | .resume a => s.shared.driven = true ∧ a.retryFails = false ∧
      (s.pc = .returned → s.shared.yieldDisposition ≠ .eventWait)
  | .advance e => e.alloc.retryFails = false
  | .registAwaitEvent => s.pc.verdict = some none
  | .regist k => s.pc.verdict = some none ∧ s.shared.awaitEvent = some k
  | .report true => s.shared.awaitEvent = none ∨ s.pc.verdict = some (some true) ∨ s.shared.stale
  | _ => True

/-- Whether a call has failed can be computed. -/
instance decidableFailed (c : Call) : Decidable c.failed :=
  inferInstanceAs (Decidable (false ∈ c.reports ∨ .threw ∈ c.answers))

/-- Whether the await event is a stale one can be computed. -/
instance decidableStale (sh : Shared) : Decidable sh.stale :=
  inferInstanceAs (Decidable (∃ j, j < sh.ctx.calls ∧ _))

/-- Whether a step is correct can be computed. -/
instance decidableCorrect (s : State) (l : Label) : Decidable (Correct s l) := by
  unfold Correct
  split <;> infer_instance

/-! ## Assertions that hold -/

@[simp] lemma Debug.assert_true (d : Debug) : d.assert true = d := by
  simp [assert]

/-- A coroutine without a record is registered, at the second attempt if need be. -/
lemma Debug.onEventResumeCo_eq (h : d.coMap = false) (ha : a.retryFails = false) :
    d.onEventResumeCo a = { d with coMap := true } := by
  have hr : ∀ b, d.registResumeCo b = { d with coMap := !b } := fun b => by
    simp [registResumeCo, h]
  unfold onEventResumeCo
  split
  · have hd : d.registResumeCo true = d := by
      rw [hr, Bool.not_true, ← h]
    rw [hd, ha, hr]
    rfl
  · exact hr false

/-- The record of a coroutine that yields for an event. -/
lemma Debug.onEventYieldCo_eq (h : d.coMap = true) :
    d.onEventYieldCo = { d with coMap := false } := by
  simp [onEventYieldCo, h]

/-- The check of a coroutine that has not been recorded. -/
lemma Debug.checkIsResumedCo_eq (h : d.coMap = false) : d.checkIsResumedCo = d := by
  simp [checkIsResumedCo, h]

/-- The record of an event that is triggered. -/
lemma Debug.onEventTriggerEvent_eq (h : d.eventMap k = true) :
    d.onEventTriggerEvent k = d.setEvent k false := by
  simp [onEventTriggerEvent, h]

/-- An event without a record is registered, at the second attempt if need be. -/
lemma Debug.dbgRegist_eq (h : d.eventMap k = false) (ha : a.retryFails = false) :
    d.dbgRegist k a = (d.setEvent k true, true) := by
  have hr : ∀ b, d.tryRegistEvent k b = (d.setEvent k !b, !b) := fun b => by
    simp [tryRegistEvent, h]
  have hd : d.setEvent k false = d := by
    rw [setEvent, ← h, Function.update_eq_self]
  unfold dbgRegist
  rw [hr]
  cases a.fails with
  | false => rfl
  | true =>
    simp only [Bool.not_true, Bool.false_eq_true, if_false]
    rw [hd, hr, ha]
    rfl

/-! ## Where records are -/

/-- The coroutine has a record at this place. -/
def Pc.resumed (sh : Shared) : Pc → Bool
  | .running | .continues _ | .exception | .exceptionUnRegist _ | .exit => true
  | .switched _ => decide (sh.ctx.onyieldCallbackResult ≠ .checkFailed)
  | .check | .returned => decide (sh.runStatus = .final)
  | _ => false

/-- The awaited event has no record yet. -/
def Shared.Fresh (sh : Shared) : Prop :=
  ∀ k, sh.awaitEvent = some k → sh.debug.eventMap k = false

/-- The awaited event has a record. -/
def Shared.Recorded (sh : Shared) : Prop :=
  ∀ k, sh.awaitEvent = some k → sh.debug.eventMap k = true

/-- The coroutine is suspended, and waits for the event if it awaits one. -/
structure Shared.Suspended (sh : Shared) : Prop where
  runStatus : sh.runStatus = .suspend
  waits : sh.awaitEvent ≠ none → sh.yieldDisposition = .eventWait

/-- The awaited event while a callback is at work. -/
def Step.Records (sh : Shared) : Step → Prop
  | .user (some true) | .trackWaiter _ _ | .closed _ _ => sh.Recorded
  | .user _ | .loadAwait | .unRegist _ _ | .failed _ => sh.Fresh
  | .checkCancel k | .cancel k | .regist k _ | .listen k _ | .record k _ _ =>
    sh.awaitEvent = some k ∧ sh.debug.eventMap k = false

/-- The event `k` while it is completed. -/
def Stage.Records (sh : Shared) (k : ℕ) : Stage → Prop
  | .trigger => sh.debug.eventMap k = true
  | .active => sh.awaitEvent = none
  | _ => True

/-- The awaited event at each place. -/
def Records (sh : Shared) : Pc → Prop
  | .running | .continues _ | .switched _ | .threw _ => sh.Fresh
  | .store _ => sh.Fresh ∧ sh.Suspended
  | .check => sh.Fresh ∧ (sh.ctx.onyieldCallback ≠ none → sh.Suspended)
  | .callback _ st => sh.Suspended ∧ st.Records sh
  | .returned => (sh.yieldDisposition = .eventWait → sh.Recorded) ∧
      (sh.yieldDisposition ≠ .eventWait → sh.Fresh)
  | .commitPark k => sh.debug.eventMap k = true
  | .complete k _ st => st.Records sh k
  | .exception | .exceptionUnRegist _ | .exit => sh.Fresh ∧ sh.runStatus = .final
  | .ready => sh.driven = true → sh.Fresh
  | .final | .destroyed => True

/-- What holds of the tables at every place. -/
structure Tables (sh : Shared) : Prop where
  asserted : sh.debug.asserted = false
  /-- Only events that exist have a record. -/
  live : ∀ k, sh.debug.eventMap k = true → sh.alive k = true
  await : ∀ k, sh.awaitEvent = some k → sh.alive k = true
  destroyed : ∀ k, sh.eventDestroyed k = true → k < sh.next

/-- The records are as the place demands. -/
structure Books (sh : Shared) (pc : Pc) : Prop where
  tables : Tables sh
  coMap : sh.debug.coMap = pc.resumed sh
  holds : ∀ k, pc.holds = some k → sh.alive k = true
  records : Records sh pc

/-- A place that holds on to no event. -/
lemma free (h : pc.holds = none) : ∀ k, pc.holds = some k → sh.alive k = true := by
  intro k hk
  rw [h] at hk
  cases hk

/-! ## Steps of the tables -/

/-- Without an await event nothing is stale. -/
lemma Shared.Fresh.of_none (h : sh.awaitEvent = none) : sh.Fresh := by
  intro k hk
  rw [h] at hk
  cases hk

/-- Without an await event the records are complete. -/
lemma Shared.Recorded.of_none (h : sh.awaitEvent = none) : sh.Recorded := by
  intro k hk
  rw [h] at hk
  cases hk

/-- A step that makes neither events nor records. -/
lemma Tables.mono (h : Tables sh) (hn : sh'.next = sh.next)
    (hd : sh'.eventDestroyed = sh.eventDestroyed)
    (ha : sh'.awaitEvent = sh.awaitEvent ∨ sh'.awaitEvent = none)
    (hs : sh'.debug.asserted = sh.debug.asserted)
    (he : ∀ k, sh'.debug.eventMap k = true → sh.debug.eventMap k = true) : Tables sh' where
  asserted := hs.trans h.asserted
  live k hk := by
    have hl := h.live k (he k hk)
    rwa [Shared.alive, hn, hd]
  await k hk := by
    obtain ha | ha := ha
    · have hl := h.await k (ha ▸ hk)
      rwa [Shared.alive, hn, hd]
    · rw [ha] at hk
      cases hk
  destroyed k hk := by
    rw [hn]
    exact h.destroyed k (hd ▸ hk)

/-- A record that is erased was there. -/
lemma Debug.of_setEvent_false {j : ℕ} (h : (d.setEvent k false).eventMap j = true) :
    d.eventMap j = true := by
  by_cases hj : j = k
  · subst hj
    simp [setEvent] at h
  · simpa only [setEvent, Function.update_of_ne hj] using h

/-- The event `k` gets a record. -/
lemma Tables.record (h : Tables sh) (hk : sh.alive k = true) :
    Tables { sh with debug := sh.debug.setEvent k true } where
  asserted := h.asserted
  live j hj := by
    by_cases hjk : j = k
    · subst hjk
      exact hk
    · refine h.live j ?_
      simpa only [Debug.setEvent, Function.update_of_ne hjk] using hj
  await := h.await
  destroyed := h.destroyed

/-- The record of the event `k` is erased. -/
lemma Tables.trigger (h : Tables sh) :
    Tables { sh with debug := sh.debug.setEvent k false } :=
  h.mono rfl rfl (.inl rfl) rfl fun _ hj => Debug.of_setEvent_false hj

/-- An event is made for the next wait. -/
lemma Tables.registCustom (h : Tables sh) :
    Tables { sh with awaitEvent := some sh.next, next := sh.next + 1 } where
  asserted := h.asserted
  live k hk := by
    have hl := h.live k hk
    simp only [Shared.alive, Bool.and_eq_true, decide_eq_true_eq] at hl ⊢
    exact ⟨Nat.lt_succ_of_lt hl.1, hl.2⟩
  await k hk := by
    obtain rfl := Option.some.inj hk
    simp only [Shared.alive, Bool.and_eq_true, decide_eq_true_eq, Bool.not_eq_true']
    refine ⟨Nat.lt_succ_self _, Bool.eq_false_iff.mpr fun hd => ?_⟩
    exact Nat.lt_irrefl _ (h.destroyed _ hd)
  destroyed k hk := Nat.lt_succ_of_lt (h.destroyed k hk)

/-- The event that is made has no record. -/
lemma Tables.fresh_next (h : Tables sh) : sh.debug.eventMap sh.next = false := by
  refine Bool.eq_false_iff.mpr fun hk => ?_
  have hl := h.live _ hk
  simp [Shared.alive] at hl

/-! ## Steps of the coroutine and of its driver -/

/-- Rounds and requests do not touch the records. -/
lemma Records.other (h : Records sh pc) (f : ℕ → Round) (b : Bool) :
    Records { sh with round := f, cancelRequested := b } pc := by
  cases pc with
  | store i => exact ⟨h.1, h.2.1, h.2.2⟩
  | check => exact ⟨h.1, fun hn => ⟨(h.2 hn).1, (h.2 hn).2⟩⟩
  | callback i st => exact ⟨⟨h.1.1, h.1.2⟩, h.2⟩
  | _ => exact h

/-- Other parties change rounds, and ask for the cancellation. -/
lemma Books.other (h : Books sh pc) (f : ℕ → Round) (b : Bool) :
    Books { sh with round := f, cancelRequested := b } pc :=
  ⟨h.tables.mono rfl rfl (.inl rfl) rfl fun _ hk => hk, h.coMap, h.holds, h.records.other f b⟩

/-- A round does not touch the books. -/
lemma Books.setRound (h : Books sh pc) (k : ℕ) (r : Round) : Books (sh.setRound k r) pc :=
  h.other _ sh.cancelRequested

/-- The callback goes on. -/
lemma Books.callback {st st' : Step} (h : Books sh (.callback i st)) (hr : st'.Records sh)
    (hk : ∀ k, (Pc.callback i st').holds = some k → sh.alive k = true) :
    Books sh (.callback i st') :=
  ⟨h.tables, h.coMap, hk, h.records.1, hr⟩

/-- The callback goes on with the same event. -/
lemma Books.callback_same {st st' : Step} (h : Books sh (.callback i st)) (hr : st'.Records sh)
    (hk : (Pc.callback i st').holds = (Pc.callback i st).holds) : Books sh (.callback i st') :=
  h.callback hr fun k hj => h.holds k (hk ▸ hj)

/-- The callback goes on and holds on to no event. -/
lemma Books.callback_none {st st' : Step} (h : Books sh (.callback i st)) (hr : st'.Records sh)
    (hk : (Pc.callback i st').holds = none) : Books sh (.callback i st') := by
  refine h.callback hr fun k hj => ?_
  rw [hk] at hj
  cases hj

/-- `_RegistAwaitEvent` has failed. -/
lemma Books.clearAwait {st : Step} {v : Option Bool} (h : Books sh (.callback i st))
    (hv : v ≠ some true) : Books sh.clearAwait (.callback i (.user v)) := by
  refine ⟨h.tables.mono rfl rfl (.inr rfl) rfl fun _ hk => hk, h.coMap, fun k hk => ?_, ?_⟩
  · cases hk
  · refine ⟨⟨h.records.1.runStatus, fun hn => absurd rfl hn⟩, ?_⟩
    rcases v with _ | _ | _
    · exact .of_none rfl
    · exact .of_none rfl
    · exact absurd rfl hv

/-- The event gets its record. -/
lemma Books.recordEvent {aw armed : Bool} (h : Books sh (.callback i (.record k aw armed)))
    (ha : a.retryFails = false) :
    Books (recordEvent sh a k aw armed).1 (.callback i (recordEvent sh a k aw armed).2) := by
  obtain ⟨hs, hk, he⟩ := h.records
  have hl := h.holds k rfl
  have hrec : Shared.Recorded { sh with debug := sh.debug.setEvent k true } := by
    intro j hj
    obtain rfl := Option.some.inj (hk.symm.trans hj)
    simp [Debug.setEvent]
  simp only [OnYield.recordEvent, Debug.dbgRegist_eq he ha, if_true]
  refine ⟨h.tables.record hl, h.coMap, fun j hj => ?_, ⟨hs.runStatus, hs.waits⟩, ?_⟩
  · cases armed with
    | true => exact Option.some.inj hj ▸ hl
    | false => cases hj
  · cases armed with
    | true => exact hrec
    | false => exact hrec

/-- The callback makes a step of its own. -/
lemma Books.callback_step {st : Step} {e : Env} {r : Shared × Step}
    (h : Books sh (.callback i st)) (he : e.alloc.retryFails = false)
    (hs : st.step sh e = some r) : Books r.1 (.callback i r.2) := by
  cases st with
  | user v => cases hs
  | loadAwait =>
    obtain rfl := Option.some.inj hs
    unfold loadAwaitEvent
    have hf : sh.Fresh := h.records.2
    cases hk : sh.awaitEvent with
    | none => exact h.callback_none hf rfl
    | some k =>
      have hc : Books sh (.callback i (.checkCancel k)) := by
        refine h.callback ⟨hk, hf k hk⟩ fun j hj => ?_
        exact Option.some.inj hj ▸ h.tables.await k hk
      dsimp only
      split
      · exact hc.setRound k _
      · exact hc
  | checkCancel k =>
    obtain rfl := Option.some.inj hs
    dsimp only
    split <;> exact h.callback_same h.records.2 rfl
  | cancel k =>
    obtain rfl := Option.some.inj hs
    have hc : Books sh (.callback i (.regist k true)) := h.callback_same h.records.2 rfl
    exact hc.setRound k _
  | regist k aw =>
    obtain rfl := Option.some.inj hs
    obtain ⟨-, ha, hm⟩ := h.records
    have hf : sh.Fresh := fun j hj => Option.some.inj (ha.symm.trans hj) ▸ hm
    unfold registEvent
    cases sh.round k with
    | pending m => exact h.callback_same h.records.2 rfl
    | inited => exact h.callback_same h.records.2 rfl
    | armed | parked | final m | cancelled => exact h.callback_none hf rfl
  | listen k aw =>
    obtain rfl := Option.some.inj hs
    obtain ⟨-, ha, hm⟩ := h.records
    have hf : sh.Fresh := fun j hj => Option.some.inj (ha.symm.trans hj) ▸ hm
    have hc : ∀ b, Books sh (.callback i (.record k aw b)) := fun b =>
      h.callback_same h.records.2 rfl
    have hn : Books sh (.callback i (.failed aw)) := h.callback_none hf rfl
    unfold listenEvent
    cases sh.round k with
    | pending m => exact hc false
    | inited =>
      dsimp only
      split
      · exact (hc true).setRound k _
      · exact hn.setRound k _
    | armed | parked | final m | cancelled => exact hn
  | record k aw armed =>
    obtain rfl := Option.some.inj hs
    exact h.recordEvent he
  | unRegist k aw =>
    obtain rfl := Option.some.inj hs
    have hn : Books sh (.callback i (.failed aw)) := h.callback_none h.records.2 rfl
    exact hn.setRound k _
  | trackWaiter k aw =>
    obtain rfl := Option.some.inj hs
    dsimp only
    split
    · exact h.callback_none h.records.2 rfl
    · exact h.callback_same h.records.2 rfl
  | closed k aw =>
    obtain rfl := Option.some.inj hs
    have hn : Books sh (.callback i (.user (some true))) := h.callback_none h.records.2 rfl
    exact hn.setRound k _
  | failed aw =>
    obtain rfl := Option.some.inj hs
    cases aw with
    | true => exact h.clearAwait (by decide)
    | false => exact h.callback_none h.records.2 rfl

/-- The coroutine goes on where it was switched out. -/
lemma Books.goOn {p : Point} {r : Shared × Pc} (hF : Fits sh (.switched p))
    (h : Books sh (.switched p)) (ha : a.retryFails = false) (hs : goOn sh a p = some r) :
    Books r.1 r.2 := by
  obtain ⟨-, ok, hl, -, -⟩ := hF
  have hco : sh.debug.coMap = decide (sh.ctx.onyieldCallbackResult ≠ .checkFailed) := h.coMap
  have hquiet : sh.ctx.Quiet → Books sh .running := fun hq => by
    refine ⟨h.tables, ?_, free rfl, h.records⟩
    rw [hco, hq.result]
    rfl
  cases p with
  | main =>
    obtain rfl := Option.some.inj hs
    exact hquiet hl
  | yield =>
    obtain rfl := Option.some.inj hs
    exact hquiet hl
  | yieldWithCallback i =>
    obtain rfl := Option.some.inj hs
    have ht : Tables { sh with ctx := sh.ctx.reset.answer i (.returned sh.ctx.ret) } :=
      h.tables.mono rfl rfl (.inl rfl) rfl fun _ hk => hk
    by_cases hr : sh.ctx.onyieldCallbackResult = .checkFailed
    · have hco' : sh.debug.coMap = false := by
        rw [hco, hr]
        rfl
      have hret : sh.ctx.ret ≠ 0 := by
        rw [Context.ret, if_pos hr]
        decide
      rw [if_pos hret, Shared.restore, Debug.onEventResumeCo_eq hco' ha]
      exact ⟨ht.mono rfl rfl (.inl rfl) rfl fun _ hk => hk, rfl, free rfl, h.records⟩
    · have hret : ¬ sh.ctx.ret ≠ 0 := by
        rw [Context.ret, if_neg hr]
        decide
      rw [if_neg hret]
      refine ⟨ht, ?_, free rfl, h.records⟩
      rw [hco, decide_eq_true hr]
      rfl
  | done => cases hs

/-- The park is committed, or the event has to be completed. -/
lemma Books.commitPark (h : Books sh (.commitPark k)) :
    Books (commitPark sh k).1 (commitPark sh k).2 := by
  have hready : ∀ r, Books { sh.setRound k r with driven := false } .ready := fun r =>
    ⟨h.tables.mono rfl rfl (.inl rfl) rfl fun _ hk => hk, h.coMap, free rfl, fun hd => by cases hd⟩
  unfold OnYield.commitPark
  cases sh.round k with
  | pending m =>
    have hc : Books sh (.complete k m .trigger) := ⟨h.tables, h.coMap, h.holds, h.records⟩
    exact hc.setRound k _
  | inited | armed | parked | final m | cancelled => exact hready _

/-- The driver completes the event. -/
lemma Books.complete {m : EventMask} {st : Stage} {r : Shared × Option Stage}
    (h : Books sh (.complete k m st)) (hs : st.step sh k = some r) :
    Books r.1 ((r.2.map (Pc.complete k m)).getD .ready) := by
  have hk := h.holds k rfl
  cases st with
  | trigger =>
    obtain rfl := Option.some.inj hs
    rw [Debug.onEventTriggerEvent_eq h.records]
    exact ⟨h.tables.trigger, h.coMap, h.holds, trivial⟩
  | store =>
    simp only [Stage.step] at hs
    split at hs
    · cases hs
    · obtain rfl := Option.some.inj hs
      exact ⟨h.tables, h.coMap, h.holds, trivial⟩
  | clear =>
    obtain rfl := Option.some.inj hs
    exact ⟨h.tables.mono rfl rfl (.inr rfl) rfl fun _ hk => hk, h.coMap, h.holds, rfl⟩
  | active =>
    obtain rfl := Option.some.inj hs
    rw [Debug.checkIsResumedCo_eq h.coMap]
    refine ⟨h.tables.mono rfl rfl (.inl rfl) rfl fun _ hk => hk, h.coMap, free rfl, fun _ => ?_⟩
    exact .of_none h.records

/-- The callback has been left, or there is none. -/
lemma Books.check (hF : Fits sh .check) (h : Books sh .check) :
    Books sh ((sh.ctx.onyieldCallback.map (Pc.callback · (.user none))).getD .returned) := by
  have hco : sh.debug.coMap = decide (sh.runStatus = .final) := h.coMap
  obtain ⟨hf, hsus⟩ := h.records
  cases hcb : sh.ctx.onyieldCallback with
  | some i =>
    have hs := hsus (by simp [hcb])
    refine ⟨h.tables, ?_, free rfl, hs, hf⟩
    rw [hco, hs.runStatus]
    rfl
  | none =>
    refine ⟨h.tables, hco, free rfl, fun hd => ?_, fun _ => hf⟩
    obtain ⟨p, -, hl, hw⟩ := hF
    obtain ⟨i, rfl⟩ := hw hd
    rw [Context.Holds.callback hl] at hcb
    cases hcb

/-- The coroutine or its driver goes on. -/
lemma Books.step {e : Env} {r : Shared × Pc} (hF : Fits sh pc) (h : Books sh pc)
    (ha : e.alloc.retryFails = false) (hs : pc.step sh e = some r) : Books r.1 r.2 := by
  cases pc with
  | ready | running | returned | final | destroyed => cases hs
  | switched p => exact h.goOn hF ha hs
  | store i =>
    obtain ⟨hf, hsus⟩ := h.records
    simp only [Pc.step, storeCallback] at hs
    split at hs
    · cases hs
    · split at hs
      · obtain rfl := Option.some.inj hs
        exact ⟨h.tables.mono rfl rfl (.inl rfl) rfl fun _ hk => hk, h.coMap, free rfl, hf⟩
      · obtain rfl := Option.some.inj hs
        refine ⟨h.tables.mono rfl rfl (.inl rfl) rfl fun _ hk => hk, ?_, free rfl, hf,
          fun _ => ⟨hsus.runStatus, hsus.waits⟩⟩
        refine h.coMap.trans ?_
        simp only [Pc.resumed, hsus.runStatus]
        rfl
  | threw i =>
    obtain rfl := Option.some.inj hs
    rw [Shared.restore, Debug.onEventResumeCo_eq h.coMap ha]
    exact ⟨h.tables.mono rfl rfl (.inr rfl) rfl fun _ hk => hk, rfl, free rfl, .of_none rfl⟩
  | continues i =>
    obtain rfl := Option.some.inj hs
    exact ⟨h.tables, h.coMap, free rfl, h.records⟩
  | check =>
    obtain rfl := Option.some.inj hs
    exact h.check hF
  | callback i st =>
    obtain ⟨r', hr, rfl⟩ := Option.map_eq_some_iff.mp hs
    exact h.callback_step ha hr
  | commitPark k =>
    obtain rfl := Option.some.inj hs
    exact h.commitPark
  | complete k m st =>
    obtain ⟨r', hr, rfl⟩ := Option.map_eq_some_iff.mp hs
    exact h.complete hr
  | exception =>
    obtain rfl := Option.some.inj hs
    dsimp only
    cases hk : sh.awaitEvent with
    | none => exact ⟨h.tables, h.coMap, free rfl, h.records⟩
    | some k =>
      refine ⟨h.tables, h.coMap, fun j hj => ?_, h.records⟩
      exact Option.some.inj hj ▸ h.tables.await k hk
  | exceptionUnRegist k =>
    obtain rfl := Option.some.inj hs
    exact ⟨h.tables.mono rfl rfl (.inr rfl) rfl fun _ hk => hk, h.coMap, free rfl, .of_none rfl,
      h.records.2⟩
  | exit =>
    obtain rfl := Option.some.inj hs
    obtain ⟨hf, hfin⟩ := h.records
    refine ⟨h.tables.mono rfl rfl (.inl rfl) rfl fun _ hk => hk, ?_, free rfl, hf,
      fun hn => absurd hF.2.1.callback hn⟩
    refine h.coMap.trans ?_
    simp only [Pc.resumed, hfin]
    rfl

/-- A driver that has the coroutine switches it in. -/
lemma Books.resume {r : Shared × Pc} (hF : Rests sh) (ht : Tables sh)
    (hc : sh.debug.coMap = false) (hf : sh.Fresh) (ha : a.retryFails = false)
    (hs : resume sh a = some r) : Books r.1 r.2 := by
  have hres := hF.ne_checkFailed
  unfold OnYield.resume at hs
  split at hs
  · obtain ⟨p, -, rfl⟩ := Option.map_eq_some_iff.mp hs
    rw [Debug.onEventResumeCo_eq hc ha]
    exact ⟨ht.mono rfl rfl (.inl rfl) rfl fun _ hk => hk, (decide_eq_true hres).symm, free rfl, hf⟩
  · cases hs

/-- `CommitYield` decides what becomes of the coroutine. -/
lemma Books.commitYield {r : Shared × Pc} (h : Books sh .returned)
    (hs : commitYield sh = some r) : Books r.1 r.2 := by
  have hco : sh.debug.coMap = decide (sh.runStatus = .final) := h.coMap
  obtain ⟨hw, hf⟩ := h.records
  unfold OnYield.commitYield at hs
  split at hs
  · rename_i hfin
    obtain rfl := Option.some.inj hs
    rw [Debug.onEventYieldCo_eq (hco.trans (decide_eq_true hfin))]
    exact ⟨h.tables.mono rfl rfl (.inl rfl) rfl fun _ hk => hk, rfl, free rfl, trivial⟩
  · rename_i hfin
    have hco' : sh.debug.coMap = false := hco.trans (decide_eq_false hfin)
    split at hs
    · rename_i k hd ha
      obtain rfl := Option.some.inj hs
      refine ⟨h.tables, hco', fun j hj => ?_, hw hd k ha⟩
      exact Option.some.inj hj ▸ h.tables.await k ha
    · cases hs
    · rename_i hsome hnone
      obtain rfl := Option.some.inj hs
      refine ⟨h.tables, hco', free rfl, fun _ => hf fun hd => ?_⟩
      cases ha : sh.awaitEvent with
      | none => exact hnone hd ha
      | some k => exact hsome k hd ha

/-- The coroutine yields. -/
lemma Books.yield {l : Label} {r : Shared × Pc} (hF : Fits sh .running) (h : Books sh .running)
    (hs : yield sh l = some r) : Books r.1 r.2 := by
  have hq := hF.2.1.callback
  have hf : sh.Fresh := h.records
  unfold OnYield.yield at hs
  split at hs
  · obtain rfl := Option.some.inj hs
    rw [Shared.suspend, Debug.onEventYieldCo_eq h.coMap]
    exact ⟨h.tables.mono rfl rfl (.inl rfl) rfl fun _ hk => hk, rfl, free rfl, hf,
      fun hn => absurd hq hn⟩
  · obtain rfl := Option.some.inj hs
    rw [Shared.suspend, Debug.onEventYieldCo_eq h.coMap]
    exact ⟨h.tables.mono rfl rfl (.inl rfl) rfl fun _ hk => hk, rfl, free rfl, hf,
      fun hn => absurd hq hn⟩
  · obtain rfl := Option.some.inj hs
    rw [Shared.suspend, Debug.onEventYieldCo_eq h.coMap]
    exact ⟨h.tables.mono rfl rfl (.inl rfl) rfl fun _ hk => hk, rfl, free rfl, hf, rfl,
      fun hn => if_neg hn⟩
  · cases hs

/-- The function of the coroutine makes a step. -/
lemma Books.run {l : Label} {r : Shared × Pc} (hF : Fits sh .running) (h : Books sh .running)
    (hs : run sh l = some r) : Books r.1 r.2 := by
  unfold OnYield.run at hs
  split at hs
  · split at hs
    · obtain rfl := Option.some.inj hs
      refine ⟨h.tables.registCustom, h.coMap, free rfl, fun k hk => ?_⟩
      exact Option.some.inj hk ▸ h.tables.fresh_next
    · cases hs
  · obtain rfl := Option.some.inj hs
    exact ⟨h.tables.mono rfl rfl (.inr rfl) rfl fun _ hk => hk, h.coMap, free rfl, .of_none rfl⟩
  · obtain rfl := Option.some.inj hs
    have ht : Tables { sh with yieldDisposition := .final, runStatus := .final } :=
      h.tables.mono rfl rfl (.inl rfl) rfl fun _ hk => hk
    dsimp only
    split <;> exact ⟨ht, h.coMap, free rfl, h.records, rfl⟩
  · split at hs
    · exact h.yield hF hs
    · cases hs

/-- The callback reports. -/
lemma Books.report {v : Option Bool} {ok : Bool} {r : Shared × Pc}
    (h : Books sh (.callback i (.user v)))
    (ht : ok = true → sh.awaitEvent = none ∨ v = some true)
    (hf : ok = false → sh.awaitEvent = none) (hs : report sh i ok = some r) :
    Books r.1 r.2 := by
  obtain ⟨hsus, hrec⟩ := h.records
  cases ok with
  | true =>
    obtain rfl := Option.some.inj hs
    refine ⟨h.tables.mono rfl rfl (.inl rfl) rfl fun _ hk => hk, ?_, free rfl, fun _ => ?_,
      fun hd => ?_⟩
    · refine h.coMap.trans ?_
      simp only [Pc.resumed, hsus.runStatus]
      rfl
    · obtain ha | rfl := ht rfl
      · exact Shared.Recorded.of_none ha
      · exact hrec
    · refine Shared.Fresh.of_none ?_
      by_contra ha
      exact hd (hsus.waits ha)
  | false =>
    obtain ⟨p, -, rfl⟩ := Option.map_eq_some_iff.mp hs
    exact ⟨h.tables.mono rfl rfl (.inl rfl) rfl fun _ hk => hk, h.coMap, free rfl,
      Shared.Fresh.of_none (hf rfl)⟩

/-- The code of the callback makes a step. -/
lemma Books.runCallback {s : State} {v : Option Bool} {l : Label} {r : Shared × Pc}
    (hs : s.pc = .callback i (.user v)) (h : Books s.shared (.callback i (.user v)))
    (hst : s.shared.stale → s.shared.awaitEvent = none) (hC : Correct s l) (hP : ClearsAwait s l)
    (hr : runCallback s.shared i l = some r) : Books r.1 r.2 := by
  have hv : ∀ w, s.pc.verdict = some w → v = w := fun w hw => by
    rw [hs] at hw
    exact Option.some.inj hw
  unfold OnYield.runCallback at hr
  split at hr
  · obtain rfl := Option.some.inj hr
    obtain rfl := hv none hC
    exact h.callback_none h.records.2 rfl
  · rename_i k
    obtain rfl := hv none hC.1
    split at hr
    · obtain rfl := Option.some.inj hr
      refine h.callback ⟨hC.2, h.records.2 k hC.2⟩ fun j hj => ?_
      exact Option.some.inj hj ▸ h.tables.await k hC.2
    · cases hr
  · rename_i ok
    refine h.report ?_ ?_ hr
    · rintro rfl
      obtain ha | hw | ha := hC
      · exact .inl ha
      · exact .inr (hv _ hw)
      · exact .inl (hst ha)
    · rintro rfl
      exact hP
  · cases hr

/-- What a failed call has awaited is awaited no more. -/
lemma Awaits.stale (h : Awaits sh) (hs : sh.stale) : sh.awaitEvent = none := by
  obtain ⟨j, -, hf, hw⟩ := hs
  by_contra hn
  obtain ⟨k, hk⟩ := Option.ne_none_iff_exists'.mp hn
  exact h.failed j k hf (hw.trans hk) hk

/-- The coroutine or its driver makes a step of a correct run. -/
lemma Books.drive {s : State} {l : Label} {r : Shared × Pc} (hI : Inv s)
    (h : Books s.shared s.pc) (hC : Correct s l) (hP : ClearsAwait s l)
    (hs : drive s.shared s.pc l = some r) : Books r.1 r.2 := by
  have hF := hI.fits
  unfold OnYield.drive at hs
  split at hs
  · exact h.step hF hC hs
  · split at hs
    · rename_i hpc
      obtain ⟨hd, ha, hw⟩ := hC
      obtain hpc | hpc := hpc
      · rw [hpc] at hF h
        exact .resume hF h.tables h.coMap (h.records hd) ha hs
      · have hw := hw hpc
        rw [hpc] at hF h
        have hst : s.shared.runStatus ≠ .final := by
          rintro hfin
          simp [OnYield.resume, hfin] at hs
        exact .resume hF h.tables (h.coMap.trans (decide_eq_false hst)) (h.records.2 hw) ha hs
    · cases hs
  · split at hs
    · rename_i hpc
      rw [hpc] at h
      exact h.commitYield hs
    · cases hs
  · split at hs
    · obtain rfl := Option.some.inj hs
      exact ⟨h.tables.mono rfl rfl (.inr rfl) rfl fun _ hk => hk, rfl, free rfl, trivial⟩
    · cases hs
  · split at hs
    · rename_i hpc
      rw [hpc] at hF h
      exact h.run hF hs
    · rename_i i v hpc
      rw [hpc] at h
      exact h.runCallback hpc hI.awaits.stale hC hP hs
    · cases hs

end BbtCoroutine.OnYield
