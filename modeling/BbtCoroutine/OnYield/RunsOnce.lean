import BbtCoroutine.OnYield.Fits

/-!
# Every callback runs once, after the switch

`RunsOnce` holds in every run in which no callback reports failure while the coroutine still awaits
an event.  `_RegistAwaitEvent` clears the event when it fails, and so does the handler of a callback
that cannot be stored; what a callback reports otherwise leaves the event where it is.
-/

namespace BbtCoroutine.OnYield

open Transition

variable {sh sh' : Shared} {pc : Pc} {s s' : State} {i : ℕ}

/-! ## The statement -/

/-- `Context::Resume` is at work on a callback. -/
def Pc.inResume : Pc → Bool
  | check | callback _ _ => true
  | _ => false

/-- The code of the coroutine runs. -/
def Pc.runs : Pc → Bool
  | running | continues _ | exception | exceptionUnRegist _ | exit => true
  | _ => false

/-- What becomes of the callbacks. -/
structure RunsOnce (s : State) : Prop where
  /-- A callback runs only if it has been stored, and once at most. -/
  once : ∀ i < s.shared.ctx.calls, (s.shared.ctx.call i).reports.length ≤ 1 ∧
    ((s.shared.ctx.call i).reports ≠ [] → (s.shared.ctx.call i).installed = true)
  /-- When it runs, the coroutine has been switched out in the call that stored it. -/
  afterSwitch : ∀ i st, s.pc = .callback i st →
    s.shared.ctx.context = some (.yieldWithCallback i) ∧
      (s.shared.ctx.call i).installed = true ∧ (s.shared.ctx.call i).reports = []
  /-- No callback is left when `Resume` has returned. -/
  ran : s.pc.inResume = false → ∀ i < s.shared.ctx.calls,
    (s.shared.ctx.call i).installed = true → (s.shared.ctx.call i).reports.length = 1
  /-- When the code of the coroutine runs, every call has ended, once and as its callback has
  reported. -/
  settled : s.pc.runs = true → ∀ i < s.shared.ctx.calls, (s.shared.ctx.call i).Settled
  /-- A call that ends with an error lets the coroutine go on. -/
  delivers : ∀ l s', next s l = some s' → ∀ i, (s'.shared.ctx.call i).erred →
    ¬ (s.shared.ctx.call i).erred → s'.pc = .continues i
  /-- It then runs, awaits nothing and has the disposition `MANUAL`. -/
  continues : ∀ i, s.pc = .continues i →
    s.shared.runStatus = .running ∧ s.shared.awaitEvent = none ∧
      s.shared.yieldDisposition = .manual
  /-- `CommitYield` is about to park it only for a call whose callback has succeeded. -/
  waits : s.pc = .returned → s.shared.yieldDisposition = .eventWait →
    ∃ i, s.shared.ctx.context = some (.yieldWithCallback i) ∧
      (s.shared.ctx.call i).reports = [true]
  /-- It parks it on no event of a call that has failed. -/
  parks : ∀ k, s.pc = .commitPark k → ∀ i, (s.shared.ctx.call i).failed →
    (s.shared.ctx.call i).await ≠ some k

/-- A callback reports failure only when the coroutine awaits nothing any more. -/
def ClearsAwait (s : State) : Label → Prop
  | .report false => s.shared.awaitEvent = none
  | _ => True

/-- Whether a step clears the await event after a failed call can be computed. -/
instance decidableClearsAwait (s : State) (l : Label) : Decidable (ClearsAwait s l) := by
  unfold ClearsAwait
  split <;> infer_instance

/-! ## Errors -/

/-- A call that gets an answer has an error only if the answer is one. -/
lemma Context.erred_of_answer {c : Context} {j : ℕ} {r : Answer}
    (h : ((c.answer i r).call j).erred) (hn : ¬ (c.call j).erred) :
    j = i ∧ (r = .returned (-1) ∨ r = .threw) := by
  by_cases hj : j = i
  · subst hj
    refine ⟨rfl, ?_⟩
    simp only [Context.answer, Context.setCall_self, Call.erred, List.mem_append,
      List.mem_singleton] at h
    simp only [Call.erred, not_or] at hn
    obtain (h | h) | (h | h) := h
    · exact absurd h hn.1
    · exact .inl h.symm
    · exact absurd h hn.2
    · exact .inr h.symm
  · rw [Context.answer, Context.setCall_of_ne _ _ hj] at h
    exact absurd h hn

/-- Only a call that ends can get an error. -/
lemma Context.erred_setCall {c : Context} {j : ℕ} {r : Call}
    (h : ((c.setCall i r).call j).erred) (hr : r.answers = (c.call i).answers) :
    (c.call j).erred := by
  by_cases hj : j = i
  · subst hj
    rw [Context.setCall_self, Call.erred, hr] at h
    exact h
  · rw [Context.setCall_of_ne _ _ hj] at h
    exact h

/-! ## What a step does to the calls -/

/-- What a step of the coroutine or of its driver does to the calls, to what is awaited and to
the place. -/
inductive Effect (sh : Shared) (l : Label) : Shared → Pc → Prop
  /-- The calls are left as they are, and nothing fails. -/
  | same (sh' : Shared) (pc' : Pc) (hc : sh'.ctx.call = sh.ctx.call) (hn : sh'.next = sh.next)
      (ha : sh'.awaitEvent = sh.awaitEvent ∨ sh'.awaitEvent = none)
      (hs : ∀ p, pc' = .switched p → sh'.ctx.onyieldCallbackResult ≠ .checkFailed)
      (hi : ∀ i, pc' ≠ .continues i)
      (hk : ∀ k, pc' = .commitPark k → sh.awaitEvent = some k) : Effect sh l sh' pc'
  | create (ha : sh.awaitEvent = none) :
      Effect sh l { sh with awaitEvent := some sh.next, next := sh.next + 1 } .running
  | begin (sh' : Shared) (hc : sh'.ctx.call = (sh.ctx.begin sh.awaitEvent).call)
      (hn : sh'.next = sh.next) (ha : sh'.awaitEvent = sh.awaitEvent) :
      Effect sh l sh' (.store sh.ctx.calls)
  | install (i : ℕ) (sh' : Shared) (hc : sh'.ctx.call = (sh.ctx.install i).call)
      (hn : sh'.next = sh.next) (ha : sh'.awaitEvent = sh.awaitEvent) : Effect sh l sh' .check
  | succeeded (i : ℕ) (sh' : Shared) (hc : sh'.ctx.call = (sh.ctx.report i true).call)
      (hn : sh'.next = sh.next) (ha : sh'.awaitEvent = sh.awaitEvent) : Effect sh l sh' .returned
  | failed (i : ℕ) (p : Point) (sh' : Shared) (hl : l = .report false)
      (hc : sh'.ctx.call = (sh.ctx.report i false).call)
      (hn : sh'.next = sh.next) (ha : sh'.awaitEvent = sh.awaitEvent) :
      Effect sh l sh' (.switched p)
  | returned (i : ℕ) (sh' : Shared) (hr : sh.ctx.onyieldCallbackResult ≠ .checkFailed)
      (hc : sh'.ctx.call = (sh.ctx.answer i (.returned 0)).call)
      (hn : sh'.next = sh.next) (ha : sh'.awaitEvent = sh.awaitEvent) : Effect sh l sh' .running
  | erred (i : ℕ) (sh' : Shared) (hr : sh.ctx.onyieldCallbackResult = .checkFailed)
      (hc : sh'.ctx.call = (sh.ctx.answer i (.returned (-1))).call)
      (hn : sh'.next = sh.next) (ha : sh'.awaitEvent = sh.awaitEvent) :
      Effect sh l sh' (.continues i)
  | threw (i : ℕ) (sh' : Shared) (hc : sh'.ctx.call = (sh.ctx.answer i .threw).call)
      (hn : sh'.next = sh.next) (ha : sh'.awaitEvent = none) : Effect sh l sh' (.continues i)

/-- A place that says nothing about the calls. -/
def Pc.plain : Pc → Bool
  | switched _ | continues _ | commitPark _ => false
  | _ => true

/-- The step changes no calls and leads to a place that says nothing about them. -/
lemma Effect.plain (l : Label) (hc : sh'.ctx.call = sh.ctx.call) (hn : sh'.next = sh.next)
    (ha : sh'.awaitEvent = sh.awaitEvent ∨ sh'.awaitEvent = none) (hp : pc.plain = true) :
    Effect sh l sh' pc := by
  refine .same sh' pc hc hn ha ?_ ?_ ?_
  · rintro p rfl
    cases hp
  · rintro i rfl
    cases hp
  · rintro k rfl
    cases hp

/-- Such a step is made by what does not touch the context. -/
lemma Keeps.effect (h : Keeps sh sh') (l : Label) (hp : pc.plain = true) : Effect sh l sh' pc :=
  .plain l (by rw [h.ctx]) h.next h.awaitEvent hp

/-- A coroutine that goes on after a switch has its effect. -/
lemma Effect.goOn {l : Label} {a : Alloc} {p : Point} {r : Shared × Pc}
    (h : Fits sh (.switched p)) (hs : goOn sh a p = some r) : Effect sh l r.1 r.2 := by
  cases p with
  | main | yield =>
    obtain rfl := Option.some.inj hs
    exact .plain l rfl rfl (.inl rfl) rfl
  | yieldWithCallback i =>
    obtain ⟨-, ok, hl, -⟩ := h
    have hl : sh.ctx.Holds i (checkResult ok) [ok] := hl
    obtain rfl := Option.some.inj hs
    cases ok with
    | true =>
      rw [if_neg (by rw [hl.ret]; decide), hl.ret]
      exact .returned i _ (by rw [hl.result]; decide) rfl rfl rfl
    | false =>
      rw [if_pos (by rw [hl.ret]; decide), hl.ret]
      exact .erred i _ hl.result rfl rfl rfl
  | done => cases hs

/-- A step of the code has its effect. -/
lemma Effect.step {l : Label} {e : Env} {r : Shared × Pc} (h : Fits sh pc)
    (hs : pc.step sh e = some r) : Effect sh l r.1 r.2 := by
  cases pc with
  | ready | running | returned | final | destroyed => cases hs
  | switched p => exact .goOn h hs
  | store i =>
    simp only [Pc.step, storeCallback] at hs
    split at hs
    · cases hs
    · split at hs
      · obtain rfl := Option.some.inj hs
        exact .plain l rfl rfl (.inl rfl) rfl
      · obtain rfl := Option.some.inj hs
        exact .install i _ rfl rfl rfl
  | threw i =>
    obtain rfl := Option.some.inj hs
    exact .threw i _ rfl rfl rfl
  | continues i =>
    obtain rfl := Option.some.inj hs
    exact .plain l rfl rfl (.inl rfl) rfl
  | check =>
    obtain rfl := Option.some.inj hs
    cases sh.ctx.onyieldCallback <;> exact .plain l rfl rfl (.inl rfl) rfl
  | callback i st =>
    obtain ⟨r', hr, rfl⟩ := Option.map_eq_some_iff.mp hs
    exact (Step.step_keeps hr).effect l rfl
  | commitPark k =>
    obtain rfl := Option.some.inj hs
    unfold OnYield.commitPark
    cases sh.round k <;> exact .plain l rfl rfl (.inl rfl) rfl
  | complete k m st =>
    obtain ⟨r', hr, rfl⟩ := Option.map_eq_some_iff.mp hs
    dsimp only
    cases r'.2 <;> exact (Stage.step_keeps hr).effect l rfl
  | exception =>
    obtain rfl := Option.some.inj hs
    cases sh.awaitEvent <;> exact .plain l rfl rfl (.inl rfl) rfl
  | exceptionUnRegist k =>
    obtain rfl := Option.some.inj hs
    exact .plain l rfl rfl (.inr rfl) rfl
  | exit =>
    obtain rfl := Option.some.inj hs
    exact .plain l rfl rfl (.inl rfl) rfl

/-- A resumption has its effect. -/
lemma Effect.resume {l : Label} {a : Alloc} {r : Shared × Pc} (h : Rests sh)
    (hs : resume sh a = some r) : Effect sh l r.1 r.2 := by
  have hres := h.ne_checkFailed
  obtain ⟨p, hp, -⟩ := h
  unfold OnYield.resume at hs
  split at hs
  · rw [hp] at hs
    obtain rfl := Option.some.inj hs
    exact .same _ _ rfl rfl (.inl rfl) (fun _ _ => hres) (fun _ => nofun) (fun _ => nofun)
  · cases hs

/-- The commit of a yield has its effect. -/
lemma Effect.commitYield {l : Label} {r : Shared × Pc} (hs : commitYield sh = some r) :
    Effect sh l r.1 r.2 := by
  unfold OnYield.commitYield at hs
  split at hs
  · obtain rfl := Option.some.inj hs
    exact .plain l rfl rfl (.inl rfl) rfl
  · split at hs
    · rename_i k hd ha
      obtain rfl := Option.some.inj hs
      refine .same _ _ rfl rfl (.inl rfl) (fun _ => nofun) (fun _ => nofun) fun k' hk => ?_
      rw [ha, Pc.commitPark.inj hk]
    · cases hs
    · obtain rfl := Option.some.inj hs
      exact .plain l rfl rfl (.inl rfl) rfl

/-- A yield has its effect. -/
lemma Effect.yield {l l' : Label} {r : Shared × Pc} (hs : yield sh l = some r) :
    Effect sh l' r.1 r.2 := by
  unfold OnYield.yield at hs
  split at hs
  · obtain rfl := Option.some.inj hs
    exact .plain l' rfl rfl (.inl rfl) rfl
  · obtain rfl := Option.some.inj hs
    exact .plain l' rfl rfl (.inl rfl) rfl
  · obtain rfl := Option.some.inj hs
    exact .begin _ rfl rfl rfl
  · cases hs

/-- A step of the code of the coroutine has its effect. -/
lemma Effect.run {l : Label} {r : Shared × Pc} (hs : run sh l = some r) :
    Effect sh l r.1 r.2 := by
  unfold OnYield.run at hs
  split at hs
  · split at hs
    · rename_i ha
      obtain rfl := Option.some.inj hs
      exact .create ha
    · cases hs
  · obtain rfl := Option.some.inj hs
    exact .plain _ rfl rfl (.inr rfl) rfl
  · obtain rfl := Option.some.inj hs
    split <;> exact .plain _ rfl rfl (.inl rfl) rfl
  · split at hs
    · exact .yield hs
    · cases hs

/-- A step of a callback has its effect. -/
lemma Effect.runCallback {l : Label} {r : Shared × Pc} (hs : runCallback sh i l = some r) :
    Effect sh l r.1 r.2 := by
  unfold OnYield.runCallback at hs
  split at hs
  · obtain rfl := Option.some.inj hs
    exact .plain _ rfl rfl (.inl rfl) rfl
  · split at hs
    · obtain rfl := Option.some.inj hs
      exact .plain _ rfl rfl (.inl rfl) rfl
    · cases hs
  · rename_i ok
    cases ok with
    | true =>
      obtain rfl := Option.some.inj hs
      exact .succeeded i _ rfl rfl rfl
    | false =>
      obtain ⟨p, -, rfl⟩ := Option.map_eq_some_iff.mp hs
      exact .failed i p _ rfl rfl rfl rfl
  · cases hs

/-- Every step of the coroutine or of its driver is one of these. -/
lemma Effect.of_drive {l : Label} {r : Shared × Pc} (h : Fits sh pc)
    (hs : drive sh pc l = some r) : Effect sh l r.1 r.2 := by
  unfold OnYield.drive at hs
  split at hs
  · exact .step h hs
  · split at hs
    · rename_i hpc
      obtain rfl | rfl := hpc
      · exact .resume h hs
      · exact .resume h hs
    · cases hs
  · split at hs
    · exact .commitYield hs
    · cases hs
  · split at hs
    · obtain rfl := Option.some.inj hs
      exact .plain _ rfl rfl (.inr rfl) rfl
    · cases hs
  · split at hs
    · exact .run hs
    · exact .runCallback hs
    · cases hs

/-! ## Failed calls -/

/-- A step that does not bring back the event of a failed call. -/
structure Tame (sh sh' : Shared) : Prop where
  next : sh'.next = sh.next
  awaitEvent : sh'.awaitEvent = sh.awaitEvent ∨ sh'.awaitEvent = none
  await : ∀ i k, (sh'.ctx.call i).await = some k →
    (sh.ctx.call i).await = some k ∨ sh.awaitEvent = some k
  failed : ∀ i, (sh'.ctx.call i).failed → sh'.awaitEvent = none ∨
    ((sh.ctx.call i).failed ∧ (sh'.ctx.call i).await = (sh.ctx.call i).await)

/-- The step leaves the calls as they are. -/
lemma Tame.of_call (hc : sh'.ctx.call = sh.ctx.call) (hn : sh'.next = sh.next)
    (ha : sh'.awaitEvent = sh.awaitEvent ∨ sh'.awaitEvent = none) : Tame sh sh' where
  next := hn
  awaitEvent := ha
  await i k h := .inl (by rwa [hc] at h)
  failed i h := .inr ⟨by rwa [hc] at h, by rw [hc]⟩

/-- A step that leaves the context alone brings no event back. -/
lemma Keeps.tame (h : Keeps sh sh') : Tame sh sh' :=
  .of_call (by rw [h.ctx]) h.next h.awaitEvent

/-- The record of a call changes, and the call fails only if nothing is awaited. -/
lemma Tame.of_setCall {r : Call} (hc : sh'.ctx.call = (sh.ctx.setCall i r).call)
    (hn : sh'.next = sh.next) (ha : sh'.awaitEvent = sh.awaitEvent ∨ sh'.awaitEvent = none)
    (hw : r.await = (sh.ctx.call i).await)
    (hf : r.failed → sh'.awaitEvent = none ∨ (sh.ctx.call i).failed) : Tame sh sh' where
  next := hn
  awaitEvent := ha
  await j k h := by
    rw [hc] at h
    by_cases hj : j = i
    · subst hj
      rw [Context.setCall_self, hw] at h
      exact .inl h
    · rw [Context.setCall_of_ne _ _ hj] at h
      exact .inl h
  failed j h := by
    rw [hc] at h ⊢
    by_cases hj : j = i
    · subst hj
      rw [Context.setCall_self] at h ⊢
      exact (hf h).imp_right fun h => ⟨h, hw⟩
    · rw [Context.setCall_of_ne _ _ hj] at h ⊢
      exact .inr ⟨h, rfl⟩

/-- A call begins. -/
lemma Tame.begin (hc : sh'.ctx.call = (sh.ctx.begin sh.awaitEvent).call)
    (hn : sh'.next = sh.next) (ha : sh'.awaitEvent = sh.awaitEvent) : Tame sh sh' where
  next := hn
  awaitEvent := .inl ha
  await j k h := by
    rw [hc] at h
    by_cases hj : j = sh.ctx.calls
    · subst hj
      simp only [Context.begin, Function.update_self] at h
      exact .inr h
    · simp only [Context.begin, Function.update_of_ne hj] at h
      exact .inl h
  failed j h := by
    rw [hc] at h ⊢
    by_cases hj : j = sh.ctx.calls
    · subst hj
      simp [Context.begin, Call.failed] at h
    · simp only [Context.begin, Function.update_of_ne hj] at h ⊢
      exact .inr ⟨h, trivial⟩

/-- Every step but the making of an event is tame, unless a callback reports failure while
something is awaited. -/
lemma Effect.tame {l : Label} (h : Effect sh l sh' pc)
    (hl : l = .report false → sh.awaitEvent = none) :
    Tame sh sh' ∨ sh.awaitEvent = none ∧ pc = .running ∧
      sh' = { sh with awaitEvent := some sh.next, next := sh.next + 1 } := by
  cases h with
  | same _ _ hc hn ha => exact .inl (.of_call hc hn ha)
  | create ha => exact .inr ⟨ha, rfl, rfl⟩
  | begin _ hc hn ha => exact .inl (.begin hc hn ha)
  | install i _ hc hn ha =>
    exact .inl (.of_setCall (r := { sh.ctx.call i with installed := true }) hc hn (.inl ha) rfl
      .inr)
  | succeeded i _ hc hn ha =>
    refine .inl (.of_setCall hc hn (.inl ha) rfl fun h => .inr ?_)
    simpa [Call.failed] using h
  | failed i p _ hl' hc hn ha =>
    exact .inl (.of_setCall hc hn (.inl ha) rfl fun _ => .inl (ha.trans (hl hl')))
  | returned i _ hr hc hn ha =>
    refine .inl (.of_setCall hc hn (.inl ha) rfl fun h => .inr ?_)
    simpa [Call.failed] using h
  | erred i _ hr hc hn ha =>
    refine .inl (.of_setCall hc hn (.inl ha) rfl fun h => .inr ?_)
    simpa [Call.failed] using h
  | threw i _ hc hn ha => exact .inl (.of_setCall hc hn (.inr ha) rfl fun _ => .inl ha)

/-- The events of the calls, and that no event of a failed call is awaited again. -/
structure Awaits (sh : Shared) : Prop where
  await_lt : ∀ k, sh.awaitEvent = some k → k < sh.next
  call_lt : ∀ i k, (sh.ctx.call i).await = some k → k < sh.next
  failed : ∀ i k, (sh.ctx.call i).failed → (sh.ctx.call i).await = some k →
    sh.awaitEvent ≠ some k

/-- No event of a failed call is awaited again after a tame step. -/
lemma Awaits.tame (h : Awaits sh) (ht : Tame sh sh') : Awaits sh' where
  await_lt k hk := by
    rw [ht.next]
    obtain ha | ha := ht.awaitEvent
    · exact h.await_lt k (ha ▸ hk)
    · rw [ha] at hk
      cases hk
  call_lt i k hk := by
    rw [ht.next]
    obtain hk | hk := ht.await i k hk
    · exact h.call_lt i k hk
    · exact h.await_lt k hk
  failed i k hf hk := by
    obtain ha | ⟨hf, he⟩ := ht.failed i hf
    · rw [ha]
      nofun
    · obtain ha | ha := ht.awaitEvent
      · rw [ha]
        exact h.failed i k hf (he ▸ hk)
      · rw [ha]
        nofun

/-- The event that is made is new. -/
lemma Awaits.create (h : Awaits sh) :
    Awaits { sh with awaitEvent := some sh.next, next := sh.next + 1 } where
  await_lt k hk := by
    obtain rfl := Option.some.inj hk
    exact Nat.lt_succ_self _
  call_lt i k hk := Nat.lt_succ_of_lt (h.call_lt i k hk)
  failed i k hf hk he := by
    obtain rfl := Option.some.inj he
    exact (h.call_lt i _ hk).false

/-- What is awaited at the places where that matters. -/
def Cleared (sh : Shared) : Pc → Prop
  | .switched _ => sh.ctx.onyieldCallbackResult = .checkFailed → sh.awaitEvent = none
  | .continues _ => sh.awaitEvent = none
  | .commitPark k => ∀ i, (sh.ctx.call i).failed → (sh.ctx.call i).await ≠ some k
  | _ => True

/-- The invariant of the runs. -/
structure Inv (s : State) : Prop where
  fits : Fits s.shared s.pc
  awaits : Awaits s.shared
  cleared : Cleared s.shared s.pc

/-- What is awaited is not made more by a step that does not touch the context. -/
lemma Cleared.keeps (h : Cleared sh pc) (hk : Keeps sh sh') : Cleared sh' pc := by
  have hnone : sh.awaitEvent = none → sh'.awaitEvent = none := fun hn =>
    hk.awaitEvent.elim (fun h => h.trans hn) id
  cases pc with
  | switched p => exact fun hr => hnone (h (by rwa [hk.ctx] at hr))
  | continues i => exact hnone h
  | commitPark k => simpa only [Cleared, hk.ctx] using h
  | _ => trivial

/-- A step of others keeps the invariant. -/
lemma Inv.keeps (h : Inv s) (hk : Keeps s.shared sh') (fs : List Frame) :
    Inv { s with shared := sh', frames := fs } :=
  ⟨h.fits.keeps hk, h.awaits.tame hk.tame, h.cleared.keeps hk⟩

/-- What is awaited after a step of the coroutine or of its driver. -/
lemma Effect.cleared {l : Label} {pc' : Pc} (he : Effect sh l sh' pc') (hc : Cleared sh pc)
    (ha : Awaits sh) (hl : l = .report false → sh.awaitEvent = none)
    (hp : sh.ctx.onyieldCallbackResult = .checkFailed → ∃ p, pc = .switched p) :
    Cleared sh' pc' := by
  cases he with
  | same _ _ hcall hn haw hs hi hk =>
    cases pc' with
    | switched p => exact fun hr => absurd hr (hs p rfl)
    | continues i => exact absurd rfl (hi i)
    | commitPark k =>
      intro i hf hw
      rw [hcall] at hf hw
      exact ha.failed i k hf hw (hk k rfl)
    | _ => trivial
  | failed i p _ hl' _ _ haw => exact fun _ => haw.trans (hl hl')
  | erred i _ hr _ _ haw =>
    obtain ⟨p, rfl⟩ := hp hr
    exact haw.trans (hc hr)
  | threw i _ _ _ haw => exact haw
  | create | begin | install | succeeded | returned => trivial

/-- A step of the coroutine or of its driver. -/
lemma Inv.drive {l : Label} {r : Shared × Pc} (h : Inv s) (hP : ClearsAwait s l)
    (hs : drive s.shared s.pc l = some r) : Inv { s with shared := r.1, pc := r.2 } := by
  have he := Effect.of_drive h.fits hs
  have hl : l = .report false → s.shared.awaitEvent = none := by
    rintro rfl
    exact hP
  have ha : Awaits r.1 := by
    obtain ht | ⟨-, -, hr⟩ := he.tame hl
    · exact h.awaits.tame ht
    · rw [hr]
      exact h.awaits.create
  exact ⟨h.fits.drive hs, ha, he.cleared h.cleared h.awaits hl h.fits.switched⟩

/-- The invariant holds in every run in which the condition is kept. -/
lemma inv_of_reachableWhen (h : system.ReachableWhen ClearsAwait s) : Inv s := by
  refine h.induct ?_ ?_
  · rintro s rfl
    refine ⟨⟨.main, rfl, ⟨rfl, rfl, nofun⟩, nofun⟩, ⟨nofun, nofun, ?_⟩, trivial⟩
    exact fun i k hf => nofun
  · intro s l s' hI hP hs
    cases Moves.of_next hs with
    | drive r hr => exact hI.drive hP hr
    | call n f r hf hr => exact hI.keeps (Frame.step_keeps hr) _
    | begin f => exact hI.keeps (.refl s.shared) _
    | event sh hk => exact hI.keeps hk s.frames

/-! ## The runs -/

/-- A call that has an error after a step, but not before it, lets the coroutine go on. -/
lemma Effect.delivers {l : Label} (he : Effect sh l sh' pc) (h : (sh'.ctx.call i).erred)
    (hn : ¬ (sh.ctx.call i).erred) : pc = .continues i := by
  cases he with
  | same _ _ hc =>
    rw [hc] at h
    exact absurd h hn
  | create => exact absurd h hn
  | begin _ hc =>
    rw [hc] at h
    by_cases hi : i = sh.ctx.calls
    · subst hi
      simp [Context.begin, Call.erred] at h
    · simp only [Context.begin, Function.update_of_ne hi] at h
      exact absurd h hn
  | install j _ hc =>
    rw [hc] at h
    exact absurd (Context.erred_setCall (r := { sh.ctx.call j with installed := true }) h rfl) hn
  | succeeded j _ hc =>
    rw [hc] at h
    exact absurd (Context.erred_setCall
      (r := { sh.ctx.call j with reports := (sh.ctx.call j).reports ++ [true] }) h rfl) hn
  | failed j p _ _ hc =>
    rw [hc] at h
    exact absurd (Context.erred_setCall
      (r := { sh.ctx.call j with reports := (sh.ctx.call j).reports ++ [false] }) h rfl) hn
  | returned j _ _ hc =>
    rw [hc] at h
    obtain ⟨-, h | h⟩ := Context.erred_of_answer h hn
    · exact absurd h (by decide)
    · cases h
  | erred j _ _ hc =>
    rw [hc] at h
    rw [(Context.erred_of_answer h hn).1]
  | threw j _ hc =>
    rw [hc] at h
    rw [(Context.erred_of_answer h hn).1]

/-- A call that has not ended is the last one, and the code of the coroutine does not run. -/
inductive Call.Open (c : Call) (pc : Pc) : Prop
  | storing (hi : c.installed = false) (hr : c.reports = [])
  | waiting (hp : pc.inResume = true) (hi : c.installed = true) (hr : c.reports = [])
  | ran (ok : Bool) (hi : c.installed = true) (hr : c.reports = [ok])

/-- All calls have ended, but perhaps the last one. -/
lemma Context.InCall.call {b : Bool} {l : List Bool} {c : Context} {j : ℕ} (h : c.InCall i b l)
    (hj : j < c.calls) (ho : (c.call i).Open pc) :
    (c.call j).Settled ∨ (c.call j).Open pc := by
  rw [h.last] at hj
  obtain hlt | rfl := Nat.lt_succ_iff_lt_or_eq.mp hj
  · exact .inl (h.settled j hlt)
  · exact .inr ho

/-- A call that has been left behind is settled or open. -/
lemma Context.Left.call {r : YieldCheckStatus} {l : List Bool} {p : Point} {c : Context} {j : ℕ}
    (h : c.Left r l p) (hj : j < c.calls)
    (hl : (l = [] ∧ pc.inResume = true) ∨ ∃ ok, l = [ok]) :
    (c.call j).Settled ∨ (c.call j).Open pc := by
  cases p with
  | main | yield | done => exact .inl (Context.Quiet.settled h j hj)
  | yieldWithCallback i =>
    have hc : c.InCall i true l := Context.Holds.toInCall h
    refine hc.call hj ?_
    obtain ⟨hl, hp⟩ | ⟨ok, hl⟩ := hl
    · exact .waiting hp hc.installed (hc.reports.trans hl)
    · exact .ran ok hc.installed (hc.reports.trans hl)

/-- At each place all calls have ended, but perhaps the last one. -/
lemma Fits.call (h : Fits sh pc) {j : ℕ} (hj : j < sh.ctx.calls) :
    (sh.ctx.call j).Settled ∨ pc.runs = false ∧ (sh.ctx.call j).Open pc := by
  cases pc with
  | running | exception | exceptionUnRegist k | exit | continues i =>
    exact .inl (h.2.1.settled j hj)
  | store i | threw i =>
    have hi := h.2.2.2
    exact (hi.call hj (.storing hi.installed hi.reports)).imp_right fun ho => ⟨rfl, ho⟩
  | switched p =>
    obtain ⟨-, ok, hl, -⟩ := h
    exact (hl.call hj (.inr ⟨ok, rfl⟩)).imp_right fun ho => ⟨rfl, ho⟩
  | check =>
    obtain ⟨p, -, hl, -⟩ := h
    exact (hl.call hj (.inl ⟨rfl, rfl⟩)).imp_right fun ho => ⟨rfl, ho⟩
  | callback i st =>
    have hi := h.2.toInCall
    exact (hi.call hj (.waiting rfl hi.installed hi.reports)).imp_right fun ho => ⟨rfl, ho⟩
  | ready | returned | commitPark k | complete k m st | final | destroyed =>
    obtain ⟨p, -, hl, -⟩ := h
    exact (hl.call hj (.inr ⟨true, rfl⟩)).imp_right fun ho => ⟨rfl, ho⟩

/-- What the invariant says about the calls, the parks and the errors. -/
lemma Inv.runsOnce (h : Inv s) : RunsOnce s where
  once i hi := by
    obtain (⟨hin, ok, hr, -⟩ | ⟨-, hr, -⟩) | ⟨-, ho⟩ := h.fits.call hi
    · exact ⟨by simp [hr], fun _ => hin⟩
    · exact ⟨by simp [hr], fun hne => absurd hr hne⟩
    · cases ho with
      | storing _ hr => exact ⟨by simp [hr], fun hne => absurd hr hne⟩
      | waiting _ hin hr => exact ⟨by simp [hr], fun _ => hin⟩
      | ran ok hin hr => exact ⟨by simp [hr], fun _ => hin⟩
  afterSwitch i st hp := by
    have hf := h.fits
    rw [hp] at hf
    exact ⟨hf.1, hf.2.installed, hf.2.reports⟩
  ran hp i hi hin := by
    obtain (⟨-, ok, hr, -⟩ | ⟨hn, -⟩) | ⟨-, ho⟩ := h.fits.call hi
    · simp [hr]
    · rw [hn] at hin
      cases hin
    · cases ho with
      | storing hn _ =>
        rw [hn] at hin
        cases hin
      | waiting hp' _ _ =>
        rw [hp] at hp'
        cases hp'
      | ran ok _ hr => simp [hr]
  settled hp i hi := by
    obtain hs | ⟨hr, -⟩ := h.fits.call hi
    · exact hs
    · rw [hp] at hr
      cases hr
  delivers l s' hs i he hn := by
    cases Moves.of_next hs with
    | drive r hr => exact (Effect.of_drive h.fits hr).delivers he hn
    | call n f r hf hr =>
      rw [(Frame.step_keeps hr).ctx] at he
      exact absurd he hn
    | begin f => exact absurd he hn
    | event sh hk =>
      rw [hk.ctx] at he
      exact absurd he hn
  continues i hp := by
    have hf := h.fits
    have hc := h.cleared
    rw [hp] at hf hc
    exact ⟨hf.2.2.1, hc, hf.2.2.2.1⟩
  waits hp hd := by
    have hf := h.fits
    rw [hp] at hf
    obtain ⟨p, hctx, hl, hw⟩ := hf
    obtain ⟨i, rfl⟩ := hw hd
    exact ⟨i, hctx, Context.InCall.reports (Context.Holds.toInCall hl)⟩
  parks k hp := by
    have hc := h.cleared
    rw [hp] at hc
    exact hc

/-- In every run in which a callback reports failure only when nothing is awaited any more, each
callback runs once and a failed one leaves no trace. -/
theorem runsOnce_of_reachableWhen (h : system.ReachableWhen ClearsAwait s) : RunsOnce s :=
  (inv_of_reachableWhen h).runsOnce

/-- The steps of a first call whose event cannot be registered. -/
def failsToRegist : List Label :=
  [.resume {}, .advance {}, .registCustom, .yieldWithCallback, .advance {}, .advance {},
    .registAwaitEvent, .advance { testFail := true }, .advance {}, .advance {}, .advance {},
    .report false, .advance {}]

/-- A run whose registration fails once calls its callback once. -/
theorem runsOnce_of_reachableWhen_failsToRegist :
    ∃ s, (RunsOnce s ∧ s.pc = .continues 0) ∧ (s.shared.ctx.call 0).reports = [false] := by
  have hrun : system.endsInWhen ClearsAwait {} failsToRegist (fun s =>
      s.pc = .continues 0 ∧ (s.shared.ctx.call 0).reports = [false]) = true := by decide
  obtain ⟨s, hs, hp, hr⟩ := System.exists_of_endsInWhen rfl hrun
  exact ⟨s, ⟨runsOnce_of_reachableWhen hs, hp⟩, hr⟩

/-- The steps of a first call whose callback reports failure although the event has not been
registered, and of a second one, on no event of its own, whose callback succeeds. -/
def failsAwaiting : List Label :=
  [.resume {}, .advance {}, .registCustom, .yieldWithCallback, .advance {}, .advance {},
    .report false, .advance {}, .advance {}, .yieldWithCallback, .advance {}, .advance {},
    .report true, .commitYield]

/-- The coroutine then parks on the event of the call that has failed. -/
theorem failsAwaiting_not_runsOnce :
    ¬ ∀ s, system.Reachable s → RunsOnce s := by
  intro h
  have hrun : system.endsIn {} failsAwaiting (fun s => s.pc = .commitPark 0 ∧
      (s.shared.ctx.call 0).reports = [false] ∧ (s.shared.ctx.call 0).await = some 0) = true := by
    decide
  obtain ⟨s, hs, hp, hr, hw⟩ := System.exists_of_endsIn rfl hrun
  refine (h s hs).parks 0 hp 0 (.inl ?_) hw
  rw [hr]
  exact List.mem_singleton_self _

end BbtCoroutine.OnYield
