import BbtCoroutine.OnYield.Model

/-!
# The calls of `YieldWithCallback` and the place of the coroutine

`Fits` says what the members of `Context` and the record of the calls are at each place that the
coroutine, or its driver, can be at.  Other parties and the code of a callback do not touch them.
-/

namespace BbtCoroutine.OnYield

open Transition

variable {sh sh' : Shared} {c c' : Context} {pc pc' : Pc} {i : ℕ}

/-! ## Calls -/

/-- The call has ended as what became of its callback demands. -/
def Call.Settled (c : Call) : Prop :=
  (c.installed = true ∧ ∃ ok, c.reports = [ok] ∧
    c.answers = [.returned (if ok then 0 else -1)]) ∨
  (c.installed = false ∧ c.reports = [] ∧ c.answers = [.threw])

/-- No call is in progress. -/
structure Context.Quiet (c : Context) : Prop where
  callback : c.onyieldCallback = none
  result : c.onyieldCallbackResult = .noCheck
  settled : ∀ j < c.calls, (c.call j).Settled

/-- The last call, `i`, is in progress. -/
structure Context.InCall (c : Context) (i : ℕ) (installed : Bool) (reports : List Bool) :
    Prop where
  last : c.calls = i + 1
  installed : (c.call i).installed = installed
  reports : (c.call i).reports = reports
  answers : (c.call i).answers = []
  settled : ∀ j < i, (c.call j).Settled

/-- The callback of the last call, `i`, is in its place. -/
structure Context.Holds (c : Context) (i : ℕ) (result : YieldCheckStatus)
    (reports : List Bool) : Prop extends c.InCall i true reports where
  callback : c.onyieldCallback = some i
  result : c.onyieldCallbackResult = result

/-- What a coroutine that has been switched out at `p` has left behind. -/
def Context.Left (c : Context) (result : YieldCheckStatus) (reports : List Bool) :
    Point → Prop
  | .yieldWithCallback i => c.Holds i result reports
  | _ => c.Quiet

/-- The result of a check. -/
def checkResult (ok : Bool) : YieldCheckStatus :=
  if ok then .checkSuccess else .checkFailed

/-- The coroutine is switched out and its callback, if it has left one, has succeeded. -/
def Rests (sh : Shared) : Prop :=
  ∃ p, sh.ctx.context = some p ∧ sh.ctx.Left .checkSuccess [true] p ∧
    (sh.yieldDisposition = .eventWait → ∃ i, p = .yieldWithCallback i)

/-- What holds at each place. -/
def Fits (sh : Shared) : Pc → Prop
  | .running => sh.ctx.context = none ∧ sh.ctx.Quiet ∧ sh.runStatus = .running
  | .continues i =>
    sh.ctx.context = none ∧ sh.ctx.Quiet ∧ sh.runStatus = .running ∧
      sh.yieldDisposition = .manual ∧ i < sh.ctx.calls ∧ (sh.ctx.call i).erred
  | .store i => sh.ctx.context = none ∧ sh.ctx.onyieldCallback = none ∧
      sh.ctx.onyieldCallbackResult = .noCheck ∧ sh.ctx.InCall i false []
  | .threw i => sh.ctx.context = none ∧ sh.ctx.onyieldCallback = none ∧
      sh.ctx.onyieldCallbackResult = .noCheck ∧ sh.ctx.InCall i false []
  | .switched p => sh.ctx.context = none ∧ ∃ ok, sh.ctx.Left (checkResult ok) [ok] p ∧
      (ok = true → sh.runStatus = .running) ∧ (ok = false → ∃ i, p = .yieldWithCallback i)
  | .check => ∃ p, sh.ctx.context = some p ∧ sh.ctx.Left .noCheck [] p ∧
      (sh.yieldDisposition = .eventWait → ∃ i, p = .yieldWithCallback i)
  | .callback i _ => sh.ctx.context = some (.yieldWithCallback i) ∧ sh.ctx.Holds i .noCheck []
  | .exception | .exceptionUnRegist _ | .exit =>
    sh.ctx.context = none ∧ sh.ctx.Quiet ∧ sh.yieldDisposition ≠ .eventWait
  | .ready | .returned | .commitPark _ | .complete _ _ _ | .final | .destroyed => Rests sh

/-! ## Steps that do not touch the context -/

/-- What other parties and the code of a callback leave as it is. -/
structure Keeps (sh sh' : Shared) : Prop where
  ctx : sh'.ctx = sh.ctx
  runStatus : sh'.runStatus = sh.runStatus
  next : sh'.next = sh.next
  awaitEvent : sh'.awaitEvent = sh.awaitEvent ∨ sh'.awaitEvent = none
  yieldDisposition :
    sh'.yieldDisposition = sh.yieldDisposition ∨ sh'.yieldDisposition = .manual

/-- Nothing need change. -/
@[refl] lemma Keeps.refl (sh : Shared) : Keeps sh sh :=
  ⟨rfl, rfl, rfl, .inl rfl, .inl rfl⟩

/-- A round may change. -/
lemma Keeps.setRound (sh : Shared) (k : ℕ) (r : Round) : Keeps sh (sh.setRound k r) :=
  ⟨rfl, rfl, rfl, .inl rfl, .inl rfl⟩

/-- The await event may be cleared. -/
lemma Keeps.clearAwait (sh : Shared) : Keeps sh sh.clearAwait :=
  ⟨rfl, rfl, rfl, .inr rfl, .inr rfl⟩

/-- The records of the assertions may change. -/
lemma Keeps.debug (sh : Shared) (d : Debug) (b : Bool) :
    Keeps sh { sh with debug := d, driven := b } :=
  ⟨rfl, rfl, rfl, .inl rfl, .inl rfl⟩

/-- Listening leaves the context as it is. -/
lemma Keeps.listenEvent (sh : Shared) (e : Env) (k : ℕ) (aw : Bool) :
    Keeps sh (listenEvent sh e k aw).1 := by
  unfold OnYield.listenEvent
  cases sh.round k with
  | inited =>
    dsimp only
    split
    · exact .setRound sh k _
    · exact .setRound sh k _
  | pending m => exact .refl sh
  | armed => exact .refl sh
  | parked => exact .refl sh
  | final m => exact .refl sh
  | cancelled => exact .refl sh

/-- The completion of an event keeps the context. -/
lemma Stage.step_keeps {st : Stage} {k : ℕ} {r : Shared × Option Stage}
    (h : st.step sh k = some r) : Keeps sh r.1 := by
  cases st with
  | trigger =>
    obtain rfl := Option.some.inj h
    exact .debug sh _ sh.driven
  | store =>
    simp only [Stage.step] at h
    split at h
    · cases h
    · obtain rfl := Option.some.inj h
      exact .refl sh
  | clear =>
    obtain rfl := Option.some.inj h
    exact .clearAwait sh
  | active =>
    obtain rfl := Option.some.inj h
    exact .debug sh _ true

/-- The code of a callback keeps the context. -/
lemma Step.step_keeps {st : Step} {e : Env} {r : Shared × Step} (h : st.step sh e = some r) :
    Keeps sh r.1 := by
  cases st with
  | user v => cases h
  | loadAwait =>
    obtain rfl := Option.some.inj h
    unfold loadAwaitEvent
    split
    · exact .refl sh
    · dsimp only
      split
      · exact .setRound sh _ _
      · exact .refl sh
  | checkCancel k | regist k aw | trackWaiter k aw =>
    obtain rfl := Option.some.inj h
    exact .refl sh
  | cancel k | unRegist k aw | closed k aw =>
    obtain rfl := Option.some.inj h
    exact .setRound sh k _
  | listen k aw =>
    obtain rfl := Option.some.inj h
    exact .listenEvent sh e k aw
  | record k aw armed =>
    obtain rfl := Option.some.inj h
    exact .debug sh _ sh.driven
  | failed aw =>
    obtain rfl := Option.some.inj h
    cases aw with
    | true => exact .clearAwait sh
    | false => exact .refl sh

/-- The calls of other parties keep the context. -/
lemma Frame.step_keeps {f : Frame} {r : Shared × Frame} (h : f.step sh = some r) :
    Keeps sh r.1 := by
  cases f with
  | requestCancel =>
    obtain rfl := Option.some.inj h
    exact ⟨rfl, rfl, rfl, .inl rfl, .inl rfl⟩
  | loadAwait =>
    obtain rfl := Option.some.inj h
    exact .refl sh
  | trigger k m =>
    obtain rfl := Option.some.inj h
    split
    · exact .refl sh
    · exact .setRound sh k _
  | complete k m st =>
    obtain ⟨r', hr, rfl⟩ := Option.map_eq_some_iff.mp h
    exact Stage.step_keeps hr
  | returned => cases h

/-- What waits for an event has left a callback, also after such a step. -/
lemma Keeps.waits (h : Keeps sh sh') {p : Prop} (hp : sh.yieldDisposition = .eventWait → p) :
    sh'.yieldDisposition = .eventWait → p := by
  intro hd
  obtain he | he := h.yieldDisposition
  · exact hp (he ▸ hd)
  · rw [he] at hd
    cases hd

/-- A coroutine that rests goes on resting. -/
lemma Rests.keeps (h : Rests sh) (hk : Keeps sh sh') : Rests sh' := by
  obtain ⟨p, hp, hl, hd⟩ := h
  exact ⟨p, by rw [hk.ctx, hp], by rwa [hk.ctx], hk.waits hd⟩

/-- Such a step keeps what holds at a place. -/
lemma Fits.keeps (h : Fits sh pc) (hk : Keeps sh sh') : Fits sh' pc := by
  cases pc with
  | running => simpa only [Fits, hk.ctx, hk.runStatus] using h
  | continues i =>
    obtain ⟨hc, hq, hr, hd, hi, he⟩ := h
    simp only [Fits, hk.ctx, hk.runStatus]
    refine ⟨hc, hq, hr, ?_, hi, he⟩
    obtain hd' | hd' := hk.yieldDisposition
    · rw [hd', hd]
    · exact hd'
  | store i => simpa only [Fits, hk.ctx] using h
  | threw i => simpa only [Fits, hk.ctx] using h
  | switched p => simpa only [Fits, hk.ctx, hk.runStatus] using h
  | check =>
    obtain ⟨p, hp, hl, hd⟩ := h
    exact ⟨p, by rw [hk.ctx, hp], by rwa [hk.ctx], hk.waits hd⟩
  | callback i st => simpa only [Fits, hk.ctx] using h
  | exception | exceptionUnRegist k | exit =>
    obtain ⟨hc, hq, hd⟩ := h
    exact ⟨by rw [hk.ctx, hc], by rwa [hk.ctx], fun hw => hk.waits (fun hw => hd hw) hw⟩
  | ready | returned | commitPark k | complete k m st | final | destroyed => exact Rests.keeps h hk

/-- Only a coroutine that has just been switched in can find that its callback has failed. -/
lemma Context.Left.ne_checkFailed {r : YieldCheckStatus} {l : List Bool} {p : Point}
    (h : c.Left r l p) (hr : r ≠ .checkFailed) : c.onyieldCallbackResult ≠ .checkFailed := by
  cases p with
  | yieldWithCallback i =>
    rw [Holds.result h]
    exact hr
  | main | yield | done =>
    rw [Quiet.result h]
    decide

/-- The callback of a coroutine that rests has not failed. -/
lemma Rests.ne_checkFailed (h : Rests sh) : sh.ctx.onyieldCallbackResult ≠ .checkFailed := by
  obtain ⟨p, -, hl, -⟩ := h
  exact hl.ne_checkFailed (by decide)

/-- Only a coroutine that has just been switched out has a failed callback. -/
lemma Fits.switched (h : Fits sh pc) (hr : sh.ctx.onyieldCallbackResult = .checkFailed) :
    ∃ p, pc = .switched p := by
  cases pc with
  | switched p => exact ⟨p, rfl⟩
  | running | exception | exceptionUnRegist k | exit | continues i =>
    rw [Context.Quiet.result h.2.1] at hr
    cases hr
  | store i | threw i =>
    rw [h.2.2.1] at hr
    cases hr
  | check =>
    obtain ⟨p, -, hl, -⟩ := h
    exact absurd hr (hl.ne_checkFailed (by decide))
  | callback i st =>
    rw [h.2.result] at hr
    cases hr
  | ready | returned | commitPark k | complete k m st | final | destroyed =>
    exact absurd hr (Rests.ne_checkFailed h)

/-! ## Steps of the context -/

/-- Switching out begins no call. -/
lemma Context.Quiet.switchOut (h : c.Quiet) (p : Point) : (c.switchOut p).Quiet :=
  ⟨h.callback, h.result, h.settled⟩

/-- Switching in begins no call. -/
lemma Context.Quiet.switchIn (h : c.Quiet) : c.switchIn.Quiet :=
  ⟨h.callback, h.result, h.settled⟩

/-- Switching out leaves the callback in its place. -/
lemma Context.Holds.switchOut {r : YieldCheckStatus} {l : List Bool} (h : c.Holds i r l)
    (p : Point) : (c.switchOut p).Holds i r l :=
  ⟨⟨h.last, h.installed, h.reports, h.answers, h.settled⟩, h.callback, h.result⟩

/-- Switching in leaves the callback in its place. -/
lemma Context.Holds.switchIn {r : YieldCheckStatus} {l : List Bool} (h : c.Holds i r l) :
    c.switchIn.Holds i r l :=
  ⟨⟨h.last, h.installed, h.reports, h.answers, h.settled⟩, h.callback, h.result⟩

/-- Switching in leaves what was left behind. -/
lemma Context.Left.switchIn {r : YieldCheckStatus} {l : List Bool} {p : Point}
    (h : c.Left r l p) : c.switchIn.Left r l p := by
  cases p with
  | main => exact Quiet.switchIn h
  | yield => exact Quiet.switchIn h
  | yieldWithCallback i => exact Holds.switchIn h
  | done => exact Quiet.switchIn h

/-- A call begins. -/
lemma Context.Quiet.begin (h : c.Quiet) (k : Option ℕ) :
    (c.begin k).InCall c.calls false [] where
  last := rfl
  installed := by simp [Context.begin]
  reports := by simp [Context.begin]
  answers := by simp [Context.begin]
  settled j hj := by
    simp only [Context.begin, Function.update_of_ne hj.ne]
    exact h.settled j hj

/-- The callback is stored. -/
lemma Context.InCall.install (h : c.InCall i false []) :
    (c.install i).Holds i .noCheck [] where
  last := h.last
  installed := by simp [Context.install, setCall]
  reports := by simpa [Context.install, setCall] using h.reports
  answers := by simpa [Context.install, setCall] using h.answers
  settled j hj := by
    simp only [Context.install, setCall, Function.update_of_ne hj.ne]
    exact h.settled j hj
  callback := rfl
  result := rfl

/-- The callback could not be stored. -/
lemma Context.InCall.reset (h : c.InCall i false []) : c.reset.InCall i false [] :=
  ⟨h.last, h.installed, h.reports, h.answers, h.settled⟩

/-- The last call ends. -/
lemma Context.InCall.answer {b : Bool} {l : List Bool} (h : c.InCall i b l) {r : Answer}
    (hs : Call.Settled { c.call i with answers := [r] }) :
    ∀ j < (c.answer i r).calls, ((c.answer i r).call j).Settled := by
  intro j hj
  have hj' : j < i + 1 := h.last ▸ hj
  simp only [Context.answer, setCall, h.answers, List.nil_append]
  obtain hlt | rfl := Nat.lt_succ_iff_lt_or_eq.mp hj'
  · rw [Function.update_of_ne hlt.ne]
    exact h.settled j hlt
  · rw [Function.update_self]
    exact hs

/-- The call whose callback could not be stored throws. -/
lemma Context.InCall.threw (h : c.InCall i false []) (hc : c.onyieldCallback = none)
    (hr : c.onyieldCallbackResult = .noCheck) : (c.answer i .threw).Quiet where
  callback := hc
  result := hr
  settled := h.answer (.inr ⟨h.installed, h.reports, rfl⟩)

/-- The callback reports. -/
lemma Context.Holds.report (h : c.Holds i .noCheck []) (ok : Bool) :
    (c.report i ok).Holds i (checkResult ok) [ok] where
  last := h.last
  installed := by simpa [Context.report, setCall] using h.installed
  reports := by simp [Context.report, setCall, h.reports]
  answers := by simpa [Context.report, setCall] using h.answers
  settled j hj := by
    simp only [Context.report, setCall, Function.update_of_ne hj.ne]
    exact h.settled j hj
  callback := h.callback
  result := rfl

/-- What the call returns is what its callback has reported. -/
lemma Context.Holds.ret {ok : Bool} (h : c.Holds i (checkResult ok) [ok]) :
    c.ret = if ok then 0 else -1 := by
  rw [Context.ret, h.result]
  cases ok <;> rfl

/-- The call returns. -/
lemma Context.Holds.returned {ok : Bool} (h : c.Holds i (checkResult ok) [ok]) :
    (c.reset.answer i (.returned c.ret)).Quiet where
  callback := rfl
  result := rfl
  settled := by
    have hr : c.reset.InCall i true [ok] :=
      ⟨h.last, h.installed, h.reports, h.answers, h.settled⟩
    refine hr.answer (.inl ⟨hr.installed, ok, hr.reports, ?_⟩)
    rw [h.ret]

/-! ## Steps -/

/-- A callback that has failed is answered by an error. -/
lemma Context.erred_answer (c : Context) (i : ℕ) {r : Answer}
    (hr : r = .returned (-1) ∨ r = .threw) : ((c.answer i r).call i).erred := by
  simp only [Context.answer, setCall, Function.update_self, Call.erred, List.mem_append,
    List.mem_singleton]
  obtain rfl | rfl := hr
  · exact .inl (.inr rfl)
  · exact .inr (.inr rfl)

/-- The coroutine goes on where it was switched out. -/
lemma Fits.goOn {p : Point} {a : Alloc} {r : Shared × Pc} (h : Fits sh (.switched p))
    (hs : goOn sh a p = some r) : Fits r.1 r.2 := by
  obtain ⟨hc, ok, hl, hr, hp⟩ := h
  have hok : (∀ i, p ≠ .yieldWithCallback i) → ok = true := by
    intro hne
    refine Bool.eq_true_of_not_eq_false fun hf => ?_
    obtain ⟨i, hi⟩ := hp hf
    exact hne i hi
  cases p with
  | main =>
    obtain rfl := Option.some.inj hs
    exact ⟨hc, hl, hr (hok fun i => nofun)⟩
  | yield =>
    obtain rfl := Option.some.inj hs
    exact ⟨hc, hl, hr (hok fun i => nofun)⟩
  | yieldWithCallback i =>
    have hl : sh.ctx.Holds i (checkResult ok) [ok] := hl
    obtain rfl := Option.some.inj hs
    have hq := hl.returned
    cases ok with
    | true =>
      rw [if_neg (by rw [hl.ret]; decide)]
      exact ⟨hc, hq, hr rfl⟩
    | false =>
      rw [if_pos (by rw [hl.ret]; decide)]
      have hi : i < sh.ctx.calls := hl.last ▸ Nat.lt_succ_self i
      exact ⟨hc, hq, rfl, rfl, hi, Context.erred_answer _ i (.inl (by rw [hl.ret]; rfl))⟩
  | done => cases hs

/-- The callback is stored, or the storing throws. -/
lemma Fits.store {throws : Bool} {r : Shared × Pc} (h : Fits sh (.store i))
    (hs : storeCallback sh throws i = some r) : Fits r.1 r.2 := by
  obtain ⟨hc, hn, -, hi⟩ := h
  simp only [storeCallback, hn, ne_eq, not_true_eq_false, if_false] at hs
  split at hs
  · obtain rfl := Option.some.inj hs
    exact ⟨hc, rfl, rfl, hi.reset⟩
  · obtain rfl := Option.some.inj hs
    exact ⟨.yieldWithCallback i, rfl, hi.install.switchOut _, fun _ => ⟨i, rfl⟩⟩

/-- The call whose callback could not be stored throws. -/
lemma Fits.threw {a : Alloc} (h : Fits sh (.threw i)) :
    Fits ({ sh with awaitEvent := none, ctx := sh.ctx.answer i .threw }.restore a)
      (.continues i) := by
  obtain ⟨hc, hn, hr, hi⟩ := h
  have hlt : i < sh.ctx.calls := hi.last ▸ Nat.lt_succ_self i
  exact ⟨hc, hi.threw hn hr, rfl, rfl, hlt, Context.erred_answer _ i (.inr rfl)⟩

/-- `Context::Resume` finds the callback that has been left, or none. -/
lemma Fits.check (h : Fits sh .check) :
    Fits sh ((sh.ctx.onyieldCallback.map (Pc.callback · (.user none))).getD .returned) := by
  obtain ⟨p, hp, hl, hd⟩ := h
  cases p with
  | yieldWithCallback i =>
    have hl : sh.ctx.Holds i .noCheck [] := hl
    rw [hl.callback]
    exact ⟨hp, hl⟩
  | main | yield | done =>
    have hl : sh.ctx.Quiet := hl
    rw [hl.callback]
    exact ⟨_, hp, hl, hd⟩

/-- The park is committed, or the event has to be completed. -/
lemma Fits.commitPark {k : ℕ} (h : Fits sh (.commitPark k)) :
    Fits (commitPark sh k).1 (commitPark sh k).2 := by
  unfold OnYield.commitPark
  cases sh.round k with
  | pending m => exact Rests.keeps h (.setRound sh k _)
  | inited | armed | parked | final m | cancelled =>
    exact Rests.keeps h ⟨rfl, rfl, rfl, .inl rfl, .inl rfl⟩

/-- A step of the coroutine or of its driver. -/
lemma Fits.step {e : Env} {r : Shared × Pc} (h : Fits sh pc) (hs : pc.step sh e = some r) :
    Fits r.1 r.2 := by
  cases pc with
  | ready | running | returned | final | destroyed => cases hs
  | switched p => exact h.goOn hs
  | store i => exact h.store hs
  | threw i =>
    obtain rfl := Option.some.inj hs
    exact h.threw
  | continues i =>
    obtain rfl := Option.some.inj hs
    exact ⟨h.1, h.2.1, h.2.2.1⟩
  | check =>
    obtain rfl := Option.some.inj hs
    exact h.check
  | callback i st =>
    obtain ⟨r', hr, rfl⟩ := Option.map_eq_some_iff.mp hs
    have hk : Fits sh (.callback i r'.2) := h
    exact hk.keeps (Step.step_keeps hr)
  | commitPark k =>
    obtain rfl := Option.some.inj hs
    exact h.commitPark
  | complete k m st =>
    obtain ⟨r', hr, rfl⟩ := Option.map_eq_some_iff.mp hs
    have hk : Rests r'.1 := Rests.keeps h (Stage.step_keeps hr)
    dsimp only
    cases r'.2 <;> exact hk
  | exception =>
    obtain rfl := Option.some.inj hs
    cases sh.awaitEvent <;> exact h
  | exceptionUnRegist k =>
    obtain rfl := Option.some.inj hs
    exact h
  | exit =>
    obtain rfl := Option.some.inj hs
    exact ⟨.done, rfl, h.2.1.switchOut _, fun hw => absurd hw h.2.2⟩

/-- The driver switches the coroutine in. -/
lemma Fits.resume {a : Alloc} {r : Shared × Pc} (h : Rests sh) (hs : resume sh a = some r) :
    Fits r.1 r.2 := by
  obtain ⟨p, hp, hl, -⟩ := h
  unfold OnYield.resume at hs
  split at hs
  · rw [hp] at hs
    obtain rfl := Option.some.inj hs
    exact ⟨rfl, true, hl.switchIn, fun _ => rfl, nofun⟩
  · cases hs

/-- `CommitYield` decides what becomes of the coroutine. -/
lemma Fits.commitYield {r : Shared × Pc} (h : Rests sh) (hs : commitYield sh = some r) :
    Fits r.1 r.2 := by
  unfold OnYield.commitYield at hs
  split at hs
  · obtain rfl := Option.some.inj hs
    obtain ⟨p, hp, hl, -⟩ := h
    exact ⟨p, hp, hl, nofun⟩
  · split at hs
    · obtain rfl := Option.some.inj hs
      exact h
    · cases hs
    · obtain rfl := Option.some.inj hs
      exact h

/-- The coroutine yields. -/
lemma Fits.yield {l : Label} {r : Shared × Pc} (h : Fits sh .running)
    (hs : yield sh l = some r) : Fits r.1 r.2 := by
  obtain ⟨hc, hq, -⟩ := h
  unfold OnYield.yield at hs
  split at hs
  · obtain rfl := Option.some.inj hs
    exact ⟨.yield, rfl, hq.switchOut _, nofun⟩
  · obtain rfl := Option.some.inj hs
    exact ⟨.yield, rfl, hq.switchOut _, nofun⟩
  · obtain rfl := Option.some.inj hs
    exact ⟨hc, hq.callback, hq.result, hq.begin _⟩
  · cases hs

/-- The function of the coroutine makes a step. -/
lemma Fits.run {l : Label} {r : Shared × Pc} (h : Fits sh .running) (hs : run sh l = some r) :
    Fits r.1 r.2 := by
  unfold OnYield.run at hs
  split at hs
  · split at hs
    · obtain rfl := Option.some.inj hs
      exact h
    · cases hs
  · obtain rfl := Option.some.inj hs
    exact h
  · obtain rfl := Option.some.inj hs
    have hd : YieldDisposition.final ≠ .eventWait := nofun
    split
    · exact ⟨h.1, h.2.1, hd⟩
    · exact ⟨h.1, h.2.1, hd⟩
  · split at hs
    · exact h.yield hs
    · cases hs

/-- The callback reports; if it has failed, the coroutine is switched in at once. -/
lemma Fits.report {st : Step} {ok : Bool} {r : Shared × Pc} (h : Fits sh (.callback i st))
    (hs : report sh i ok = some r) : Fits r.1 r.2 := by
  obtain ⟨hc, hl⟩ := h
  cases ok with
  | true =>
    obtain rfl := Option.some.inj hs
    exact ⟨_, hc, hl.report true, fun _ => ⟨i, rfl⟩⟩
  | false =>
    simp only [OnYield.report, hc, Option.map_some, Option.some.injEq] at hs
    subst hs
    exact ⟨rfl, false, (hl.report false).switchIn, nofun, fun _ => ⟨i, rfl⟩⟩

/-- The code of a callback makes a step. -/
lemma Fits.runCallback {st : Step} {l : Label} {r : Shared × Pc} (h : Fits sh (.callback i st))
    (hs : runCallback sh i l = some r) : Fits r.1 r.2 := by
  unfold OnYield.runCallback at hs
  split at hs
  · obtain rfl := Option.some.inj hs
    exact h
  · split at hs
    · obtain rfl := Option.some.inj hs
      exact h
    · cases hs
  · exact h.report hs
  · cases hs

/-- The coroutine or its driver makes a step. -/
lemma Fits.drive {l : Label} {r : Shared × Pc} (h : Fits sh pc) (hs : drive sh pc l = some r) :
    Fits r.1 r.2 := by
  unfold OnYield.drive at hs
  split at hs
  · exact h.step hs
  · split at hs
    · rename_i hpc
      obtain rfl | rfl := hpc
      · exact Fits.resume h hs
      · exact Fits.resume h hs
    · cases hs
  · split at hs
    · rename_i hpc
      subst hpc
      exact Fits.commitYield h hs
    · cases hs
  · split at hs
    · rename_i hpc
      obtain rfl := Option.some.inj hs
      obtain rfl | rfl | rfl := hpc <;> exact Rests.keeps h ⟨rfl, rfl, rfl, .inr rfl, .inl rfl⟩
    · cases hs
  · split at hs
    · exact h.run hs
    · exact h.runCallback hs
    · cases hs

/-- What a step of the system does: the coroutine or its driver moves, a call of another party
moves or begins, or somebody else changes an event. -/
inductive Moves (s : State) (l : Label) : State → Prop
  | drive (r : Shared × Pc) (h : drive s.shared s.pc l = some r) :
      Moves s l { s with shared := r.1, pc := r.2 }
  | call (n : ℕ) (f : Frame) (r : Shared × Frame) (hf : s.frames[n]? = some f)
      (h : f.step s.shared = some r) :
      Moves s l { s with shared := r.1, frames := s.frames.set n r.2 }
  | begin (f : Frame) : Moves s l { s with frames := s.frames ++ [f] }
  | event (sh : Shared) (h : Keeps s.shared sh) : Moves s l { s with shared := sh }

/-- Every step is one of these. -/
lemma Moves.of_next {s s' : State} {l : Label} (hs : next s l = some s') : Moves s l s' := by
  unfold OnYield.next at hs
  split at hs
  · obtain rfl := Option.some.inj hs
    exact .begin _
  · split at hs
    · obtain rfl := Option.some.inj hs
      exact .begin _
    · cases hs
  · split at hs
    · obtain rfl := Option.some.inj hs
      exact .event _ (.setRound s.shared _ _)
    · cases hs
  · split at hs
    · obtain rfl := Option.some.inj hs
      exact .event _ ⟨rfl, rfl, rfl, .inl rfl, .inl rfl⟩
    · cases hs
  · obtain ⟨f, hf, hs⟩ := Option.bind_eq_some_iff.mp hs
    obtain ⟨r, hr, rfl⟩ := Option.map_eq_some_iff.mp hs
    exact .call _ f r hf hr
  · obtain ⟨r, hr, rfl⟩ := Option.map_eq_some_iff.mp hs
    exact .drive r hr

end BbtCoroutine.OnYield
