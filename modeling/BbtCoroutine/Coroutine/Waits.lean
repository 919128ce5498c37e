import BbtCoroutine.Coroutine.Model

/-!
# The waits of a coroutine

`Effect` says what one step of the coroutine, or of the worker that runs it, can do.  From it
follows the invariant of the waits: an event is parked only while the coroutine is suspended
on it, whoever wins it is completed by one call, and the coroutine comes back from a wait at
most once and reads the mask of the winner.
-/

namespace BbtCoroutine

open Transition

namespace Coroutine

/-! ## The operations on the shared state -/

namespace Shared

variable (sh : Shared) (j k : ℕ) (r : Round) (m : EventMask) (fd : ℤ)

@[simp] lemma setRound_event :
    (sh.setRound k r).event j = if j = k then { sh.event k with round := r } else sh.event j := by
  by_cases h : j = k <;> simp [setRound, h]

@[simp] lemma publish_event :
    (sh.publish k).event j =
      if j = k then { sh.event k with published := true } else sh.event j := by
  by_cases h : j = k <;> simp [publish, h]

@[simp] lemma setFd_event :
    (sh.setFd k fd).event j = if j = k then { sh.event k with fd := fd } else sh.event j := by
  by_cases h : j = k <;> simp [setFd, h]

@[simp] lemma createEvent_event :
    (sh.createEvent k).event j =
      if j = k then { sh.event k with event := true } else sh.event j := by
  by_cases h : j = k <;> simp [createEvent, h]

@[simp] lemma create_event : sh.create.event j = if j = sh.next then {} else sh.event j := by
  by_cases h : j = sh.next <;> simp [create, h]

@[simp] lemma trigger_event :
    (sh.trigger k m).event j =
      if j = k then { sh.event k with round := (sh.event k).round.trigger m }
      else sh.event j := by
  rw [trigger, setRound_event]

@[simp] lemma clearAwait_event : sh.clearAwait.event = sh.event := rfl

end Shared

/-! ## Points of a wait -/

/-- The mask that `OnCoPollEvent` stores and the event it clears, stage by stage. -/
def Stage.Ok (sh : Shared) (k : ℕ) (m : EventMask) : Stage → Prop
  | store => sh.awaitEvent = some k
  | clear => sh.awaitEvent = some k ∧ sh.lastResumeEvent = some (normalizeTriggerEvent m)
  | active => sh.awaitEvent = none ∧ sh.lastResumeEvent = some (normalizeTriggerEvent m)

namespace Pc

/-- The event of the wait that the coroutine is in. -/
def wait : Pc → Option ℕ
  | running | entry _ | create _ | final => none
  | initCustom _ k | initFd k _ _ | initSample k | initClosed k | initCreate k | initFailed k
  | yield k | yieldThrew k | regist k | registCheck k | registCancel k | registEvent k
  | registListen k | trackWaiter k | registClosed k | registFailed k | commit k | commitPark k
  | complete k _ _ | suspended k => some k

/-- The event of a wait that has looked at the cancel flag. -/
def checked : Pc → Option ℕ
  | registEvent k | registListen k | trackWaiter k | registClosed k | registFailed k | commit k
  | commitPark k | complete k _ _ | suspended k => some k
  | _ => none

/-- Who has checked for a cancellation is in a wait. -/
lemma wait_of_checked {pc : Pc} {k : ℕ} (h : pc.checked = some k) : pc.wait = some k := by
  cases pc <;> first | exact h | cases h

/-- What holds of the await slot and of the event of the wait at each point before the
coroutine is left to others. -/
def Ok (sh : Shared) : Pc → Prop
  | running | entry _ | create _ | final => sh.awaitEvent = none
  | initCustom _ k | initFd k _ _ | initSample k | initClosed k | initCreate k | initFailed k =>
    sh.awaitEvent = some k ∧ (sh.event k).published = false ∧ (sh.event k).round.early = true
  | yield k | yieldThrew k =>
    sh.awaitEvent = some k ∧ (sh.event k).published = true ∧ (sh.event k).round.early = true
  | regist k | registListen k =>
    sh.awaitEvent = some k ∧ (sh.event k).published = true ∧
      sh.yieldDisposition = .eventWait ∧ (sh.event k).round.early = true
  | registCheck k | registCancel k | registEvent k =>
    sh.awaitEvent = some k ∧ (sh.event k).published = true ∧ sh.yieldDisposition = .eventWait ∧
      ((sh.event k).round.early = true ∨ (sh.event k).round = .cancelled)
  | trackWaiter k | registClosed k | commit k | commitPark k =>
    sh.awaitEvent = some k ∧ (sh.event k).published = true ∧
      sh.yieldDisposition = .eventWait ∧ (sh.event k).round.registered = true
  | registFailed k =>
    sh.awaitEvent = some k ∧ (sh.event k).published = true ∧ (sh.event k).round = .cancelled
  | complete k m stage =>
    (sh.event k).published = true ∧ (sh.event k).round = .final m ∧ stage.Ok sh k m
  | suspended k => (sh.event k).published = true

/-- The wait on `k` is over without a resumption: it never got as far as the registration, its
yield threw, or the registration failed. -/
def GivenUp (sh : Shared) (k : ℕ) : Prop :=
  ((sh.event k).round.early = true ∧ ((sh.event k).published = true → k ∈ sh.threw)) ∨
    (sh.event k).round = .cancelled

/-- What one step of the coroutine or of its worker can do. -/
structure Effect (sh : Shared) (pc : Pc) (sh' : Shared) (pc' : Pc) : Prop where
  ok : pc'.Ok sh'
  cancelRequested : sh'.cancelRequested = sh.cancelRequested
  resumed : sh'.resumed = sh.resumed
  threw : sh.threw ⊆ sh'.threw
  /-- The other events stay as they are. -/
  event : ∀ j < sh.next, pc.wait ≠ some j → sh'.event j = sh.event j
  unborn : sh.next ≤ sh'.next ∧ ∀ j, sh'.next ≤ j → sh'.event j = sh.event j
  born : ∀ k, sh.next ≤ k → k < sh'.next → pc'.wait = some k
  wait : ∀ k, pc'.wait = some k → k < sh'.next ∧ (pc.wait = some k ∨ k = sh.next)
  left : ∀ k, pc.wait = some k → pc'.wait ≠ some k → pc'.wait = none ∧ GivenUp sh' k
  queued : (∀ k, pc' ≠ .suspended k) → sh'.queued = sh.queued
  decided : ∀ k < sh.next, (sh.event k).round.undecided = false →
    (sh'.event k).round.undecided = false
  checked : ∀ k, pc'.checked = some k → pc.checked = some k ∨ sh.cancelRequested = false ∨
    (sh'.event k).round.undecided = false
  suspended : ∀ k, pc' = .suspended k →
    ((sh'.event k).round = .parked ∧ sh'.queued = sh.queued ∧ sh'.awaitEvent = some k) ∨
      ∃ m, (sh'.event k).round = .final m ∧ sh'.queued = sh.queued + 1 ∧ sh'.awaitEvent = none ∧
        sh'.lastResumeEvent = some (normalizeTriggerEvent m)

end Pc

/-! ## What a step can do -/

/-- From `sh` to `sh'` only the event `k` changes, beside the slots of the coroutine itself. -/
structure Touch (k : ℕ) (sh sh' : Shared) : Prop where
  cancelRequested : sh'.cancelRequested = sh.cancelRequested
  queued : sh'.queued = sh.queued
  next : sh'.next = sh.next
  resumed : sh'.resumed = sh.resumed
  threw : sh'.threw = sh.threw
  event : ∀ j, j ≠ k → sh'.event j = sh.event j
  decided : (sh.event k).round.undecided = false → (sh'.event k).round.undecided = false

namespace Touch

variable {k : ℕ} {sh sh' sh'' : Shared}

/-- A step may leave the event alone. -/
lemma refl (k : ℕ) (sh : Shared) : Touch k sh sh :=
  ⟨rfl, rfl, rfl, rfl, rfl, fun _ _ => rfl, id⟩

/-- Two steps that touch one event at most. -/
lemma trans (h : Touch k sh sh') (h' : Touch k sh' sh'') : Touch k sh sh'' where
  cancelRequested := h'.cancelRequested.trans h.cancelRequested
  queued := h'.queued.trans h.queued
  next := h'.next.trans h.next
  resumed := h'.resumed.trans h.resumed
  threw := h'.threw.trans h.threw
  event j hj := (h'.event j hj).trans (h.event j hj)
  decided hd := h'.decided (h.decided hd)

/-- A round may be replaced by one that is no less decided. -/
lemma setRound {r : Round}
    (hr : (sh.event k).round.undecided = false → r.undecided = false) :
    Touch k sh (sh.setRound k r) :=
  ⟨rfl, rfl, rfl, rfl, rfl, fun j hj => by simp [hj], fun hd => by simpa using hr hd⟩

/-- A trigger touches its event only. -/
lemma trigger (k : ℕ) (sh : Shared) (m : EventMask) : Touch k sh (sh.trigger k m) :=
  setRound fun _ => Round.undecided_trigger _ m

/-- Publishing touches its event only. -/
lemma publish (k : ℕ) (sh : Shared) : Touch k sh (sh.publish k) :=
  ⟨rfl, rfl, rfl, rfl, rfl, fun j hj => by simp [hj], fun hd => by simpa using hd⟩

/-- Recording a descriptor touches its event only. -/
lemma setFd (k : ℕ) (sh : Shared) (fd : ℤ) : Touch k sh (sh.setFd k fd) :=
  ⟨rfl, rfl, rfl, rfl, rfl, fun j hj => by simp [hj], fun hd => by simpa using hd⟩

/-- Making the poll event touches its event only. -/
lemma createEvent (k : ℕ) (sh : Shared) : Touch k sh (sh.createEvent k) :=
  ⟨rfl, rfl, rfl, rfl, rfl, fun j hj => by simp [hj], fun hd => by simpa using hd⟩

end Touch

namespace Pc.Effect

variable {k : ℕ} {sh sh' : Shared} {pc pc' : Pc}

/-- A step between two points outside of a wait. -/
lemma idle (hw : pc.wait = none) (hw' : pc'.wait = none) (hok : pc'.Ok sh) :
    Effect sh pc sh pc' where
  ok := hok
  cancelRequested := rfl
  resumed := rfl
  threw := List.Subset.refl _
  event _ _ _ := rfl
  unborn := ⟨le_rfl, fun _ _ => rfl⟩
  born _ hk hk' := absurd hk (not_le.mpr hk')
  wait k hk := by simp [hw'] at hk
  left k hk := by simp [hw] at hk
  queued _ := rfl
  decided _ _ h := h
  checked k hk := by
    have hk' := wait_of_checked hk
    rw [hw'] at hk'
    cases hk'
  suspended k hk := by subst hk; cases hw'

/-- A step of a wait that touches its event at most and leaves the coroutine to others. -/
lemma suspend (hw : pc.wait = some k) (hw' : pc'.wait = some k) (hk : k < sh.next) {q : ℕ}
    (ht : Touch k { sh with queued := q } sh') (hok : pc'.Ok sh')
    (hq : (∀ j, pc' ≠ .suspended j) → sh'.queued = sh.queued)
    (hs : ∀ j, pc' = .suspended j →
      ((sh'.event j).round = .parked ∧ sh'.queued = sh.queued ∧ sh'.awaitEvent = some j) ∨
        ∃ m, (sh'.event j).round = .final m ∧ sh'.queued = sh.queued + 1 ∧
          sh'.awaitEvent = none ∧ sh'.lastResumeEvent = some (normalizeTriggerEvent m))
    (hc : pc'.checked = some k → pc.checked = some k ∨ sh.cancelRequested = false ∨
      (sh'.event k).round.undecided = false) :
    Effect sh pc sh' pc' where
  ok := hok
  cancelRequested := ht.cancelRequested
  resumed := ht.resumed
  threw := ht.threw ▸ List.Subset.refl _
  event j _ hj := ht.event j fun h => hj (h ▸ hw)
  unborn := ⟨ht.next.ge, fun j hj => ht.event j (by have : sh'.next = sh.next := ht.next; omega)⟩
  born _ hj hj' := absurd (hj'.trans_eq ht.next) (not_lt.mpr hj)
  wait j hj := by
    obtain rfl : k = j := Option.some.inj (hw'.symm.trans hj)
    exact ⟨lt_of_lt_of_eq hk ht.next.symm, .inl hw⟩
  left j hj hj' := by
    obtain rfl : k = j := Option.some.inj (hw.symm.trans hj)
    exact absurd hw' hj'
  queued := hq
  decided j _ hj := by
    by_cases hjk : j = k
    · subst hjk
      exact ht.decided hj
    · rwa [ht.event j hjk]
  checked j hj := by
    obtain rfl : k = j := Option.some.inj (hw'.symm.trans (wait_of_checked hj))
    exact hc hj
  suspended := hs

/-- A step of a wait that touches its event at most and does not leave the coroutine to
others. -/
lemma touch (hw : pc.wait = some k) (hw' : pc'.wait = some k) (hk : k < sh.next)
    (ht : Touch k sh sh') (hok : pc'.Ok sh') (hs : ∀ j, pc' ≠ .suspended j)
    (hc : pc'.checked = some k → pc.checked = some k ∨ sh.cancelRequested = false ∨
      (sh'.event k).round.undecided = false) :
    Effect sh pc sh' pc' :=
  suspend (q := sh.queued) hw hw' hk ht hok (fun _ => ht.queued) (fun j hj => absurd hj (hs j)) hc

/-- A step that ends a wait without a resumption. -/
lemma giveUp {l : List ℕ} (hw : pc.wait = some k) (hg : GivenUp { sh.clearAwait with threw := l } k)
    (hl : sh.threw ⊆ l) : Effect sh pc { sh.clearAwait with threw := l } .running where
  ok := rfl
  cancelRequested := rfl
  resumed := rfl
  threw := hl
  event _ _ _ := rfl
  unborn := ⟨le_rfl, fun _ _ => rfl⟩
  born _ hk hk' := absurd hk (not_le.mpr hk')
  wait j hj := by cases hj
  left j hj _ := by
    obtain rfl : k = j := Option.some.inj (hw.symm.trans hj)
    exact ⟨rfl, hg⟩
  queued _ := rfl
  decided _ _ h := h
  checked j hj := by cases hj
  suspended j hj := by cases hj

/-- The step that makes the event of a wait. -/
lemma create (hw : pc.wait = none) (hw' : pc'.wait = some sh.next) (hc : pc'.checked = none)
    (ht : Touch sh.next sh.create sh') (hok : pc'.Ok sh') : Effect sh pc sh' pc' where
  ok := hok
  cancelRequested := ht.cancelRequested
  resumed := ht.resumed
  threw := ht.threw ▸ List.Subset.refl _
  event j hj _ := by rw [ht.event j hj.ne, Shared.create_event, if_neg hj.ne]
  unborn := by
    have hn : sh'.next = sh.next + 1 := ht.next
    refine ⟨by omega, fun j hj => ?_⟩
    have hj : j ≠ sh.next := by omega
    rw [ht.event j hj, Shared.create_event, if_neg hj]
  born j hj hj' := by
    have hn : sh'.next = sh.next + 1 := ht.next
    obtain rfl : j = sh.next := by omega
    exact hw'
  wait j hj := by
    obtain rfl : sh.next = j := Option.some.inj (hw'.symm.trans hj)
    have hn : sh'.next = sh.next + 1 := ht.next
    exact ⟨by omega, .inr rfl⟩
  left j hj := by simp [hw] at hj
  queued _ := ht.queued
  decided j hj hd := by rwa [ht.event j hj.ne, Shared.create_event, if_neg hj.ne]
  checked j hj := by simp [hc] at hj
  suspended j hj := by subst hj; cases hc

end Pc.Effect

namespace Pc

open Effect

/-- `InitFdEvent` or the yield follow the creation and `InitCustomEvent`. -/
lemma initEvent_ok (w : Wait) (sh : Shared) {k : ℕ} (ha : sh.awaitEvent = some k)
    (hp : (sh.event k).published = false) (he : (sh.event k).round.early = true) :
    Touch k sh (initEvent w k sh).1 ∧ (initEvent w k sh).2.Ok (initEvent w k sh).1 ∧
      (initEvent w k sh).2.wait = some k ∧ (initEvent w k sh).2.checked = none := by
  unfold initEvent
  split
  · exact ⟨.refl _ _, ⟨ha, hp, he⟩, rfl, rfl⟩
  · exact ⟨.publish _ _, ⟨ha, by simp, by simpa using he⟩, rfl, rfl⟩

section

variable {k : ℕ} {sh sh' : Shared} {a : Answer} {pc' : Pc}

/-- The wait makes its event. -/
lemma effect_create {w : Wait} (hok : Ok sh (.create w))
    (hs : step sh a (.create w) = some (sh', pc')) : Effect sh (.create w) sh' pc' := by
  have ha : sh.awaitEvent = none := hok
  simp only [step, ha, if_true, Option.some.injEq] at hs
  split at hs
  · cases hs
    exact Effect.create rfl rfl rfl (.refl _ _) ⟨rfl, by simp, by simp [Round.early]⟩
  · obtain ⟨ht, hok', hw', hc⟩ :=
      initEvent_ok w sh.create rfl (by simp) (by simp [Round.early])
    rw [hs] at ht hok' hw' hc
    exact Effect.create rfl hw' hc ht hok'

/-- `InitCustomEvent` succeeds, or is followed by the failure of the wait. -/
lemma effect_initCustom {w : Wait} (hok : Ok sh (.initCustom w k)) (hk : k < sh.next)
    (hs : step sh a (.initCustom w k) = some (sh', pc')) : Effect sh (.initCustom w k) sh' pc' := by
  obtain ⟨ha, hp, he⟩ := hok
  simp only [step, Option.some.injEq] at hs
  split at hs
  · obtain ⟨ht, hok', hw', hc⟩ := initEvent_ok w sh ha hp he
    rw [hs] at ht hok' hw' hc
    refine touch rfl hw' hk ht hok' ?_ fun h => ?_
    · rintro j rfl
      cases hc
    · rw [hc] at h
      cases h
  · cases hs
    exact touch rfl rfl hk (.refl _ _) ⟨ha, hp, he⟩ (by rintro _ ⟨⟩) (by rintro ⟨⟩)

/-- `InitFdEvent` records the descriptor and the interest, or fails. -/
lemma effect_initFd {fd ms : ℤ} (hok : Ok sh (.initFd k fd ms)) (hk : k < sh.next)
    (hs : step sh a (.initFd k fd ms) = some (sh', pc')) : Effect sh (.initFd k fd ms) sh' pc' := by
  obtain ⟨ha, hp, he⟩ := hok
  simp only [step, Option.some.injEq] at hs
  split at hs
  · cases hs
    exact touch rfl rfl hk (.setFd _ _ _) ⟨ha, by simpa using hp, by simpa using he⟩
      (by rintro _ ⟨⟩) (by rintro ⟨⟩)
  · cases hs
    exact touch rfl rfl hk (.refl _ _) ⟨ha, hp, he⟩ (by rintro _ ⟨⟩) (by rintro ⟨⟩)

/-- `InitFdEvent` looks at the generation of the descriptor. -/
lemma effect_initSample (hok : Ok sh (.initSample k)) (hk : k < sh.next)
    (hs : step sh a (.initSample k) = some (sh', pc')) : Effect sh (.initSample k) sh' pc' := by
  simp only [step, Option.some.injEq, Prod.mk.injEq] at hs
  obtain ⟨rfl, hs⟩ := hs
  split at hs
  · subst hs
    exact touch rfl rfl hk (.refl _ _) hok (by rintro _ ⟨⟩) (by rintro ⟨⟩)
  · subst hs
    exact touch rfl rfl hk (.refl _ _) hok (by rintro _ ⟨⟩) (by rintro ⟨⟩)

/-- A descriptor that was closed meanwhile triggers the event. -/
lemma effect_initClosed (hok : Ok sh (.initClosed k)) (hk : k < sh.next)
    (hs : step sh a (.initClosed k) = some (sh', pc')) : Effect sh (.initClosed k) sh' pc' := by
  obtain ⟨ha, hp, he⟩ := hok
  cases hs
  refine touch rfl rfl hk ((Touch.trigger _ _ _).trans (.publish _ _)) ⟨ha, ?_, ?_⟩
    (by rintro _ ⟨⟩) (by rintro ⟨⟩)
  · simp
  · simpa using Round.early_trigger _ he

/-- `InitFdEvent` makes the poll event and publishes the event. -/
lemma effect_initCreate (hok : Ok sh (.initCreate k)) (hk : k < sh.next)
    (hs : step sh a (.initCreate k) = some (sh', pc')) : Effect sh (.initCreate k) sh' pc' := by
  obtain ⟨ha, hp, he⟩ := hok
  simp only [step, Option.some.injEq] at hs
  split at hs
  · cases hs
    refine touch rfl rfl hk ((Touch.createEvent _ _).trans (.publish _ _)) ⟨ha, ?_, ?_⟩
      (by rintro _ ⟨⟩) (by rintro ⟨⟩)
    · simp
    · simpa using he
  · cases hs
    exact touch rfl rfl hk (.refl _ _) ⟨ha, hp, he⟩ (by rintro _ ⟨⟩) (by rintro ⟨⟩)

/-- A wait whose event could not be made is given up. -/
lemma effect_initFailed (hok : Ok sh (.initFailed k))
    (hs : step sh a (.initFailed k) = some (sh', pc')) : Effect sh (.initFailed k) sh' pc' := by
  obtain ⟨ha, hp, he⟩ := hok
  cases hs
  exact giveUp (l := sh.threw) rfl (.inl ⟨he, fun h => by simp_all⟩) (List.Subset.refl _)

/-- The yield chooses its disposition, and the callback of the yield may throw. -/
lemma effect_yield (hok : Ok sh (.yield k)) (hk : k < sh.next)
    (hs : step sh a (.yield k) = some (sh', pc')) : Effect sh (.yield k) sh' pc' := by
  obtain ⟨ha, hp, he⟩ := hok
  have ht : Touch k sh { sh with yieldDisposition := .eventWait } :=
    ⟨rfl, rfl, rfl, rfl, rfl, fun _ _ => rfl, id⟩
  have hd : (if sh.awaitEvent = none then Disposition.manual else .eventWait) = .eventWait := by
    simp [ha]
  simp only [step, hd, Option.some.injEq, Prod.mk.injEq] at hs
  obtain ⟨rfl, hs⟩ := hs
  split at hs
  · subst hs
    exact touch rfl rfl hk ht ⟨ha, hp, he⟩ (by rintro _ ⟨⟩) (by rintro ⟨⟩)
  · subst hs
    exact touch rfl rfl hk ht ⟨ha, hp, rfl, he⟩ (by rintro _ ⟨⟩) (by rintro ⟨⟩)

/-- A yield whose callback threw gives the wait up. -/
lemma effect_yieldThrew (hok : Ok sh (.yieldThrew k))
    (hs : step sh a (.yieldThrew k) = some (sh', pc')) : Effect sh (.yieldThrew k) sh' pc' := by
  obtain ⟨ha, hp, he⟩ := hok
  cases hs
  exact giveUp rfl (.inl ⟨he, fun _ => List.mem_cons_self ..⟩) (List.subset_cons_self ..)

/-- `Regist` finds the await event, which a cancellation may have withdrawn. -/
lemma effect_regist (hok : Ok sh (.regist k)) (hk : k < sh.next)
    (hs : step sh a (.regist k) = some (sh', pc')) : Effect sh (.regist k) sh' pc' := by
  obtain ⟨ha, hp, hd, he⟩ := hok
  simp only [step, ha, Option.some.injEq, Prod.mk.injEq] at hs
  obtain ⟨hs, rfl⟩ := hs
  split at hs
  · subst hs
    have hr : (sh.event k).round.unRegist.early = true ∨
        (sh.event k).round.unRegist = .cancelled := by
      revert he
      cases (sh.event k).round <;> simp [Round.unRegist, Round.early]
    refine touch rfl rfl hk (.setRound fun h => ?_) ⟨ha, by simpa using hp, hd, by simpa using hr⟩
      (by rintro _ ⟨⟩) (by rintro ⟨⟩)
    revert h
    cases (sh.event k).round <;> simp [Round.unRegist, Round.undecided]
  · subst hs
    exact touch rfl rfl hk (.refl _ _) ⟨ha, hp, hd, .inl he⟩ (by rintro _ ⟨⟩) (by rintro ⟨⟩)

/-- `Regist` looks for a cancellation. -/
lemma effect_registCheck (hok : Ok sh (.registCheck k)) (hk : k < sh.next)
    (hs : step sh a (.registCheck k) = some (sh', pc')) : Effect sh (.registCheck k) sh' pc' := by
  simp only [step, Option.some.injEq, Prod.mk.injEq] at hs
  obtain ⟨rfl, hs⟩ := hs
  split at hs
  · subst hs
    exact touch rfl rfl hk (.refl _ _) hok (by rintro _ ⟨⟩) (by rintro ⟨⟩)
  · subst hs
    refine touch rfl rfl hk (.refl _ _) hok (by rintro _ ⟨⟩) fun _ => .inr (.inl ?_)
    simpa using ‹¬sh.cancelRequested = true›

/-- `Regist` delivers the cancellation it has found. -/
lemma effect_registCancel (hok : Ok sh (.registCancel k)) (hk : k < sh.next)
    (hs : step sh a (.registCancel k) = some (sh', pc')) : Effect sh (.registCancel k) sh' pc' := by
  obtain ⟨ha, hp, hd, he⟩ := hok
  cases hs
  refine touch rfl rfl hk (.trigger _ _ _) ⟨ha, by simpa using hp, hd, ?_⟩
    (by rintro _ ⟨⟩)
    fun _ => .inr (.inr (by simp))
  rcases he with he | he
  · exact .inl (by simpa using Round.early_trigger _ he)
  · exact .inr (by simp [he])

/-- `Regist` of the event arms it, finds it triggered or finds it cancelled. -/
lemma effect_registEvent (hok : Ok sh (.registEvent k)) (hk : k < sh.next)
    (hs : step sh a (.registEvent k) = some (sh', pc')) : Effect sh (.registEvent k) sh' pc' := by
  obtain ⟨ha, hp, hd, he⟩ := hok
  have hs : Coroutine.registEvent sh k = (sh', pc') := Option.some.inj hs
  rw [Round.early_iff, or_assoc] at he
  rcases he with hr | ⟨m, hr⟩ | hr
  · rw [Coroutine.registEvent, hr] at hs
    cases hs
    exact touch rfl rfl hk (.refl _ _) ⟨ha, hp, hd, by simp [hr, Round.early]⟩ (by rintro _ ⟨⟩)
      fun _ => .inl rfl
  · rw [Coroutine.registEvent, hr] at hs
    cases hs
    exact touch rfl rfl hk (.refl _ _) ⟨ha, hp, hd, by simp [hr, Round.registered]⟩
      (by rintro _ ⟨⟩)
      fun _ => .inl rfl
  · rw [Coroutine.registEvent, hr] at hs
    cases hs
    exact touch rfl rfl hk (.refl _ _) ⟨ha, hp, hr⟩ (by rintro _ ⟨⟩) fun _ => .inl rfl

/-- The poll event is listened to, or the registration is withdrawn. -/
lemma effect_registListen (hok : Ok sh (.registListen k)) (hk : k < sh.next)
    (hs : step sh a (.registListen k) = some (sh', pc')) : Effect sh (.registListen k) sh' pc' := by
  obtain ⟨ha, hp, hd, he⟩ := hok
  have hs : Coroutine.registListen sh a k = (sh', pc') := Option.some.inj hs
  rcases Round.early_iff.mp he with hr | ⟨m, hr⟩
  · rw [Coroutine.registListen, hr] at hs
    dsimp only at hs
    split at hs
    · cases hs
      exact touch rfl rfl hk (.setRound fun _ => rfl) ⟨ha, by simpa using hp, by simp⟩
        (by rintro _ ⟨⟩)
        fun _ => .inl rfl
    · cases hs
      refine touch rfl rfl hk (.setRound fun h => ?_)
        ⟨ha, by simpa using hp, hd, by simp [Round.registered]⟩ (by rintro _ ⟨⟩) fun _ => .inl rfl
      simp [hr, Round.undecided] at h
  · rw [Coroutine.registListen, hr] at hs
    cases hs
    exact touch rfl rfl hk (.refl _ _) ⟨ha, hp, hd, by simp [hr, Round.registered]⟩
      (by rintro _ ⟨⟩)
      fun _ => .inl rfl

/-- The waiter is tracked under the generation of its descriptor. -/
lemma effect_trackWaiter (hok : Ok sh (.trackWaiter k)) (hk : k < sh.next)
    (hs : step sh a (.trackWaiter k) = some (sh', pc')) : Effect sh (.trackWaiter k) sh' pc' := by
  simp only [step, Option.some.injEq, Prod.mk.injEq] at hs
  obtain ⟨rfl, hs⟩ := hs
  split at hs
  · subst hs
    exact touch rfl rfl hk (.refl _ _) hok (by rintro _ ⟨⟩) fun _ => .inl rfl
  · subst hs
    exact touch rfl rfl hk (.refl _ _) hok (by rintro _ ⟨⟩) fun _ => .inl rfl

/-- A descriptor that was closed meanwhile triggers the registered event. -/
lemma effect_registClosed (hok : Ok sh (.registClosed k)) (hk : k < sh.next)
    (hs : step sh a (.registClosed k) = some (sh', pc')) : Effect sh (.registClosed k) sh' pc' := by
  obtain ⟨ha, hp, hd, he⟩ := hok
  cases hs
  exact touch rfl rfl hk (.trigger _ _ _)
    ⟨ha, by simpa using hp, hd, by simpa using Round.registered_trigger _ he⟩ (by rintro _ ⟨⟩)
    fun _ => .inl rfl

/-- A wait whose registration failed is given up. -/
lemma effect_registFailed (hok : Ok sh (.registFailed k))
    (hs : step sh a (.registFailed k) = some (sh', pc')) : Effect sh (.registFailed k) sh' pc' := by
  obtain ⟨ha, hp, hr⟩ := hok
  cases hs
  exact giveUp (l := sh.threw) rfl (.inr hr) (List.Subset.refl _)

/-- The switch to the scheduler is committed. -/
lemma effect_commit (hok : Ok sh (.commit k)) (hk : k < sh.next)
    (hs : step sh a (.commit k) = some (sh', pc')) : Effect sh (.commit k) sh' pc' := by
  obtain ⟨ha, hp, hd, he⟩ := hok
  have hs : commitYield sh k = some (sh', pc') := hs
  rw [commitYield, hd, ha] at hs
  cases hs
  exact touch rfl rfl hk (.refl _ _) ⟨ha, hp, hd, he⟩ (by rintro _ ⟨⟩) fun _ => .inl rfl

/-- The event is parked, or was triggered before and is completed at once. -/
lemma effect_commitPark (hok : Ok sh (.commitPark k)) (hk : k < sh.next)
    (hs : step sh a (.commitPark k) = some (sh', pc')) : Effect sh (.commitPark k) sh' pc' := by
  obtain ⟨ha, hp, hd, he⟩ := hok
  have hs : Coroutine.commitPark sh k = (sh', pc') := Option.some.inj hs
  have ht : Touch k sh (sh.setRound k (sh.event k).round.commitPark) :=
    .setRound fun h => by simpa using h
  rw [Coroutine.commitPark] at hs
  cases hs
  cases hr : (sh.event k).round with
  | armed =>
    simp only [hr] at ht
    refine suspend (q := sh.queued) rfl rfl hk ht (by simpa [Ok] using hp)
      (fun h => absurd rfl (h k)) ?_ fun _ => .inl rfl
    rintro j ⟨⟩
    exact .inl ⟨by simp [Round.commitPark], rfl, ha⟩
  | pending m =>
    simp only [hr] at ht
    exact touch rfl rfl hk ht ⟨by simpa using hp, by simp [Round.commitPark], ha⟩
      (by rintro _ ⟨⟩)
      fun _ => .inl rfl
  | inited | parked | final m | cancelled => simp [hr, Round.registered] at he

/-- The completion of an event that was triggered before the park. -/
lemma effect_complete {m : EventMask} {stage : Stage} (hok : Ok sh (.complete k m stage))
    (hk : k < sh.next) (hs : step sh a (.complete k m stage) = some (sh', pc')) :
    Effect sh (.complete k m stage) sh' pc' := by
  obtain ⟨hp, hr, hst⟩ := hok
  cases stage with
  | store =>
    have ha : sh.awaitEvent = some k := hst
    have hstep : Stage.store.step sh m =
        some ({ sh with lastResumeEvent := some (normalizeTriggerEvent m) }, some .clear) := by
      rw [Stage.step, if_neg (by simp [ha])]
    rw [step, hstep] at hs
    cases hs
    exact touch rfl rfl hk ⟨rfl, rfl, rfl, rfl, rfl, fun _ _ => rfl, id⟩
      ⟨hp, hr, ha, rfl⟩ (by rintro _ ⟨⟩) fun _ => .inl rfl
  | clear =>
    cases hs
    exact touch rfl rfl hk ⟨rfl, rfl, rfl, rfl, rfl, fun _ _ => rfl, id⟩
      ⟨hp, hr, rfl, hst.2⟩ (by rintro _ ⟨⟩) fun _ => .inl rfl
  | active =>
    cases hs
    refine suspend (q := sh.queued + 1) rfl rfl hk
      ⟨rfl, rfl, rfl, rfl, rfl, fun _ _ => rfl, id⟩ hp (fun h => absurd rfl (h k)) ?_
      fun _ => .inl rfl
    rintro j ⟨⟩
    exact .inr ⟨m, hr, rfl, hst⟩

end

/-- What one step of the coroutine does to the waits. -/
lemma effect_of_step {sh sh' : Shared} {a : Answer} {pc pc' : Pc} (hok : pc.Ok sh)
    (hw : ∀ k, pc.wait = some k → k < sh.next) (hs : pc.step sh a = some (sh', pc')) :
    Effect sh pc sh' pc' := by
  cases pc with
  | running | suspended _ | final => cases hs
  | entry w =>
    cases hs
    exact idle rfl (by split <;> rfl) (by split <;> exact hok)
  | create w => exact effect_create hok hs
  | initCustom _ k => exact effect_initCustom hok (hw k rfl) hs
  | initFd k _ _ => exact effect_initFd hok (hw k rfl) hs
  | initSample k => exact effect_initSample hok (hw k rfl) hs
  | initClosed k => exact effect_initClosed hok (hw k rfl) hs
  | initCreate k => exact effect_initCreate hok (hw k rfl) hs
  | initFailed k => exact effect_initFailed hok hs
  | yield k => exact effect_yield hok (hw k rfl) hs
  | yieldThrew k => exact effect_yieldThrew hok hs
  | regist k => exact effect_regist hok (hw k rfl) hs
  | registCheck k => exact effect_registCheck hok (hw k rfl) hs
  | registCancel k => exact effect_registCancel hok (hw k rfl) hs
  | registEvent k => exact effect_registEvent hok (hw k rfl) hs
  | registListen k => exact effect_registListen hok (hw k rfl) hs
  | trackWaiter k => exact effect_trackWaiter hok (hw k rfl) hs
  | registClosed k => exact effect_registClosed hok (hw k rfl) hs
  | registFailed k => exact effect_registFailed hok hs
  | commit k => exact effect_commit hok (hw k rfl) hs
  | commitPark k => exact effect_commitPark hok (hw k rfl) hs
  | complete k _ _ => exact effect_complete hok (hw k rfl) hs

end Pc

/-! ## The invariant of the waits -/

/-- The call is running the completion callback of an event. -/
def Frame.completing : Frame → Bool
  | complete _ _ _ _ => true
  | _ => false

variable {ι : Type*}

/-- How the coroutine that waits for `k` comes back: nobody has won the event, one call runs the
completion of its winner, or the coroutine is in a run queue. -/
inductive Resuming (s : State ι) (k : ℕ) : Prop
  | parked (hr : (s.shared.event k).round = .parked) (ha : s.shared.awaitEvent = some k)
      (hq : s.shared.queued = 0) (hc : ∀ i, (s.call i).completing = false)
  | completing (i : ι) (c : Caller) (m : EventMask) (stage : Stage)
      (hr : (s.shared.event k).round = .final m) (hi : s.call i = .complete c k m stage)
      (hst : stage.Ok s.shared k m) (hq : s.shared.queued = 0)
      (hc : ∀ j, j ≠ i → (s.call j).completing = false)
  | ready (m : EventMask) (hr : (s.shared.event k).round = .final m)
      (hl : s.shared.lastResumeEvent = some (normalizeTriggerEvent m)) (hq : s.shared.queued = 1)
      (ha : s.shared.awaitEvent = none) (hc : ∀ i, (s.call i).completing = false)

/-- The wait on `k` is over: the coroutine was resumed from it once, with the mask of the
winner, or it was given up. -/
def Past (sh : Shared) (k : ℕ) : Prop :=
  (∃ m, (sh.event k).round = .final m ∧
      sh.resumedFrom k = [some (normalizeTriggerEvent m)]) ∨
    (sh.resumedFrom k = [] ∧ Pc.GivenUp sh k)

/-- The invariant of the waits of a coroutine. -/
structure Inv (s : State ι) : Prop where
  ok : s.pc.Ok s.shared
  wait : ∀ k, s.pc.wait = some k → k < s.shared.next ∧ s.shared.resumedFrom k = []
  past : ∀ k < s.shared.next, s.pc.wait ≠ some k → Past s.shared k
  unborn : ∀ k, s.shared.next ≤ k →
    (s.shared.event k).published = false ∧ s.shared.resumedFrom k = []
  target : ∀ i c k m, s.call i = .trigger c k m → k < s.shared.next
  quiet : (∀ k, s.pc ≠ .suspended k) →
    s.shared.queued = 0 ∧ ∀ i, (s.call i).completing = false
  resuming : ∀ k, s.pc = .suspended k → Resuming s k

/-- The resumptions from an event depend on the record only. -/
lemma Shared.resumedFrom_congr {sh sh' : Shared} (h : sh'.resumed = sh.resumed) (k : ℕ) :
    sh'.resumedFrom k = sh.resumedFrom k := by
  rw [Shared.resumedFrom, h, Shared.resumedFrom]

/-- The resumptions from each event after one more. -/
lemma Shared.resumedFrom_append {sh sh' : Shared} {k : ℕ} {e : Option EventMask}
    (h : sh'.resumed = sh.resumed ++ [(k, e)]) (j : ℕ) :
    sh'.resumedFrom j = sh.resumedFrom j ++ if k = j then [e] else [] := by
  rw [Shared.resumedFrom, h, Shared.resumedFrom, List.filter_append, List.map_append]
  split <;> simp [*]

/-- The record of a wait that is over depends on its event and on the record only. -/
lemma Past.congr {sh sh' : Shared} {k : ℕ} (h : Past sh k) (he : sh'.event k = sh.event k)
    (hr : sh'.resumedFrom k = sh.resumedFrom k) (ht : sh.threw ⊆ sh'.threw) : Past sh' k := by
  rcases h with ⟨m, hm, hr'⟩ | ⟨hr', ⟨hl, hp⟩ | hc⟩
  · exact .inl ⟨m, he ▸ hm, hr ▸ hr'⟩
  · exact .inr ⟨hr ▸ hr', .inl ⟨he ▸ hl, fun h => ht (hp (he ▸ h))⟩⟩
  · exact .inr ⟨hr ▸ hr', .inr (he ▸ hc)⟩

/-- A wait that is over is not affected by late triggers. -/
lemma Past.trigger {sh : Shared} {j : ℕ} (h : Past sh j) (k : ℕ) (m : EventMask) :
    Past (sh.trigger k m) j := by
  have hr : (sh.trigger k m).resumedFrom j = sh.resumedFrom j :=
    Shared.resumedFrom_congr rfl j
  by_cases hjk : j = k
  · subst hjk
    rcases h with ⟨n, hn, hr'⟩ | ⟨hr', ⟨hl, hp⟩ | hc⟩
    · exact .inl ⟨n, by simp [hn], hr ▸ hr'⟩
    · exact .inr ⟨hr ▸ hr',
        .inl ⟨by simpa using Round.early_trigger m hl, fun h => hp (by simpa using h)⟩⟩
    · exact .inr ⟨hr ▸ hr', .inr (by simp [hc])⟩
  · exact h.congr (by simp [hjk]) hr (List.Subset.refl _)

/-- What holds at a point of a wait is not affected by a trigger. -/
lemma Pc.Ok.trigger {sh : Shared} {pc : Pc} (h : pc.Ok sh) (k : ℕ) (m : EventMask) :
    pc.Ok (sh.trigger k m) := by
  have key : ∀ j, ((sh.trigger k m).event j).published = (sh.event j).published ∧
      (((sh.trigger k m).event j).round = (sh.event j).round ∨
        ((sh.trigger k m).event j).round = (sh.event j).round.trigger m) := by
    intro j
    by_cases hj : j = k <;> simp [hj]
  cases pc with
  | running | entry w | create w | final => exact h
  | suspended j => exact (key j).1.trans h
  | complete j n stage =>
    obtain ⟨hp, hr⟩ := key j
    refine ⟨hp.trans h.1, ?_, h.2.2⟩
    rcases hr with hr | hr
    · exact hr.trans h.2.1
    · rw [hr, h.2.1, Round.trigger_final]
  | registFailed j =>
    obtain ⟨hp, hr⟩ := key j
    refine ⟨h.1, hp.trans h.2.1, ?_⟩
    rcases hr with hr | hr
    · exact hr.trans h.2.2
    · rw [hr, h.2.2, Round.trigger_cancelled]
  | registCheck j | registCancel j | registEvent j =>
    obtain ⟨hp, hr⟩ := key j
    refine ⟨h.1, hp.trans h.2.1, h.2.2.1, ?_⟩
    rcases hr with hr | hr
    · exact hr ▸ h.2.2.2
    · rcases h.2.2.2 with he | hc
      · exact .inl (hr ▸ Round.early_trigger m he)
      · exact .inr (by rw [hr, hc, Round.trigger_cancelled])
  | regist j | registListen j =>
    obtain ⟨hp, hr⟩ := key j
    refine ⟨h.1, hp.trans h.2.1, h.2.2.1, ?_⟩
    rcases hr with hr | hr
    · exact hr ▸ h.2.2.2
    · exact hr ▸ Round.early_trigger m h.2.2.2
  | trackWaiter j | registClosed j | commit j | commitPark j =>
    obtain ⟨hp, hr⟩ := key j
    refine ⟨h.1, hp.trans h.2.1, h.2.2.1, ?_⟩
    rcases hr with hr | hr
    · exact hr ▸ h.2.2.2
    · exact hr ▸ Round.registered_trigger m h.2.2.2
  | initCustom w j | initFd j fd ms | initSample j | initClosed j | initCreate j | initFailed j
  | yield j | yieldThrew j =>
    obtain ⟨hp, hr⟩ := key j
    refine ⟨h.1, hp.trans h.2.1, ?_⟩
    rcases hr with hr | hr
    · exact hr ▸ h.2.2
    · exact hr ▸ Round.early_trigger m h.2.2

/-! ## The invariant is kept -/

namespace Inv

variable {s : State ι}

/-- An event is parked only while the coroutine is suspended on it. -/
lemma suspended_of_parked (h : Inv s) {k : ℕ} (hk : k < s.shared.next)
    (hr : (s.shared.event k).round = .parked) : s.pc = .suspended k := by
  by_cases hw : s.pc.wait = some k
  · have hok := h.ok
    cases hpc : s.pc <;> rw [hpc] at hw hok <;> cases hw <;>
      first | rfl | simp_all [Pc.Ok, Round.early, Round.registered]
  · rcases h.past k hk hw with ⟨m, hm, -⟩ | ⟨-, ⟨hl, -⟩ | hc⟩
    · simp [hr] at hm
    · simp [hr, Round.early] at hl
    · simp [hr] at hc

/-- The event in the await slot is the event of the wait. -/
lemma wait_of_await (h : Inv s) {k : ℕ} (ha : s.shared.awaitEvent = some k) :
    s.pc.wait = some k := by
  have hok := h.ok
  by_cases hs : ∃ j, s.pc = .suspended j
  · obtain ⟨j, hj⟩ := hs
    suffices hjk : s.shared.awaitEvent = some j by
      rw [hj, ← ha, hjk]
      rfl
    rcases h.resuming j hj with ⟨-, ha', -, -⟩ | ⟨i, c, m, stage, -, -, hst, -, -⟩ |
      ⟨m, -, -, -, ha', -⟩
    · exact ha'
    · cases stage with
      | store => exact hst
      | clear => exact hst.1
      | active => simp [Stage.Ok, ha] at hst
    · simp [ha] at ha'
  · cases hpc : s.pc <;> rw [hpc] at hok <;> first
      | exact absurd hpc (fun h => hs ⟨_, h⟩)
      | simp_all [Pc.Ok, Pc.wait]
    rename_i j m stage
    cases stage <;> simp_all [Stage.Ok]

/-- A step that changes neither the shared state nor the wait keeps the invariant. -/
lemma move (h : Inv s) {pc : Pc} (hw : s.pc.wait = none) (hw' : pc.wait = none)
    (hok : pc.Ok s.shared) : Inv { s with pc := pc } where
  ok := hok
  wait k hk := by simp [hw'] at hk
  past k hk _ := h.past k hk (by simp [hw])
  unborn := h.unborn
  target := h.target
  quiet _ := h.quiet fun k hk => by simp [hk, Pc.wait] at hw
  resuming k hk := by subst hk; cases hw'

/-- A call that is not completing an event moves on to a point of the same kind. -/
lemma setCall [DecidableEq ι] (h : Inv s) {i : ι} {f : Frame} (hi : (s.call i).completing = false)
    (hf : f.completing = false) (ht : ∀ c k m, f = .trigger c k m → k < s.shared.next) :
    Inv { s with call := Function.update s.call i f } := by
  have hc : ∀ j, (Function.update s.call i f j).completing = (s.call j).completing := by
    intro j
    by_cases hj : j = i
    · subst hj
      simp [hi, hf]
    · simp [hj]
  refine ⟨h.ok, h.wait, h.past, h.unborn, ?_, ?_, ?_⟩
  · intro j c k m hj
    by_cases hji : j = i
    · subst hji
      exact ht c k m (by simpa using hj)
    · exact h.target j c k m (by simpa [hji] using hj)
  · intro hp
    obtain ⟨hq, hn⟩ := h.quiet hp
    exact ⟨hq, fun j => (hc j).trans (hn j)⟩
  · intro k hk
    rcases h.resuming k hk with ⟨hr, ha, hq, hn⟩ | ⟨j, c, m, stage, hr, hj, hst, hq, hn⟩ |
      ⟨m, hr, hl, hq, ha, hn⟩
    · exact .parked hr ha hq fun j => (hc j).trans (hn j)
    · have hji : j ≠ i := by
        rintro rfl
        simp [hj, Frame.completing] at hi
      exact .completing j c m stage hr (by simp [hji, hj]) hst hq
        fun l hl => (hc l).trans (hn l hl)
    · exact .ready m hr hl hq ha fun j => (hc j).trans (hn j)

/-- The cancel flag does not matter to the waits. -/
lemma setCancel (h : Inv s) :
    Inv { s with shared := { s.shared with cancelRequested := true } } := by
  refine ⟨?_, h.wait, h.past, h.unborn, h.target, h.quiet, ?_⟩
  · have hok := h.ok
    cases hpc : s.pc <;> rw [hpc] at hok <;> exact hok
  · intro k hk
    rcases h.resuming k hk with ⟨hr, ha, hq, hn⟩ | ⟨j, c, m, stage, hr, hj, hst, hq, hn⟩ |
      ⟨m, hr, hl, hq, ha, hn⟩
    · exact .parked hr ha hq hn
    · exact .completing j c m stage hr hj hst hq hn
    · exact .ready m hr hl hq ha hn

/-- A step of the coroutine or of its worker keeps the invariant. -/
lemma advance (h : Inv s) {sh : Shared} {pc : Pc} {a : Answer}
    (hs : s.pc.step s.shared a = some (sh, pc)) : Inv { s with shared := sh, pc := pc } := by
  have he : Pc.Effect s.shared s.pc sh pc :=
    Pc.effect_of_step h.ok (fun k hk => (h.wait k hk).1) hs
  have hns : ∀ k, s.pc ≠ .suspended k := by
    intro k hk
    rw [hk] at hs
    cases hs
  obtain ⟨hq, hn⟩ := h.quiet hns
  have hr := Shared.resumedFrom_congr he.resumed
  refine ⟨he.ok, ?_, ?_, ?_, ?_, ?_, ?_⟩
  · intro k hk
    obtain ⟨hlt, hk' | rfl⟩ := he.wait k hk
    · exact ⟨hlt, (hr k).trans (h.wait k hk').2⟩
    · exact ⟨hlt, (hr _).trans (h.unborn _ le_rfl).2⟩
  · intro k hk hw
    by_cases hk' : s.pc.wait = some k
    · exact .inr ⟨(hr k).trans (h.wait k hk').2, (he.left k hk' hw).2⟩
    · rcases lt_or_ge k s.shared.next with hlt | hge
      · exact (h.past k hlt hk').congr (he.event k hlt hk') (hr k) he.threw
      · exact absurd (he.born k hge hk) hw
  · intro k hk
    have hk' := he.unborn.1.trans hk
    exact ⟨by rw [he.unborn.2 k hk]; exact (h.unborn k hk').1, (hr k).trans (h.unborn k hk').2⟩
  · intro i c k m hi
    exact (h.target i c k m hi).trans_le he.unborn.1
  · intro hp
    exact ⟨(he.queued hp).trans hq, hn⟩
  · intro k hk
    rcases he.suspended k hk with ⟨hr, hq', ha⟩ | ⟨m, hr, hq', ha, hl⟩
    · exact .parked hr ha (hq'.trans hq) hn
    · exact .ready m hr hl (by simpa [hq] using hq') ha hn

/-- A trigger of an event that is not parked keeps the invariant. -/
lemma triggerEarly (h : Inv s) {k : ℕ} (m : EventMask) (hk : k < s.shared.next)
    (hr : (s.shared.event k).round ≠ .parked) :
    Inv { s with shared := s.shared.trigger k m } := by
  refine ⟨h.ok.trigger k m, fun j hj => ?_, fun j hj hw => (h.past j hj hw).trigger k m,
    fun j hj => ?_, h.target, h.quiet, fun j hj => ?_⟩
  · exact ⟨(h.wait j hj).1, (Shared.resumedFrom_congr rfl j).trans (h.wait j hj).2⟩
  · have hjk : j ≠ k := (hk.trans_le hj).ne'
    exact ⟨by simpa [hjk] using (h.unborn j hj).1,
      (Shared.resumedFrom_congr rfl j).trans (h.unborn j hj).2⟩
  · have hround : ((s.shared.trigger k m).event j).round = (s.shared.event j).round ∨
        j = k ∧ ((s.shared.trigger k m).event j).round = (s.shared.event j).round.trigger m := by
      by_cases hjk : j = k <;> simp [hjk]
    have hfinal : ∀ n, (s.shared.event j).round = .final n →
        ((s.shared.trigger k m).event j).round = .final n := by
      intro n hn
      rcases hround with he | ⟨-, he⟩
      · exact he.trans hn
      · rw [he, hn, Round.trigger_final]
    rcases h.resuming j hj with ⟨hr', ha, hq, hn⟩ | ⟨l, c', n, stage, hr', hl, hst, hq, hn⟩ |
      ⟨n, hr', hl, hq, ha, hn⟩
    · rcases hround with he | ⟨rfl, -⟩
      · exact .parked (he.trans hr') ha hq hn
      · exact absurd hr' hr
    · exact .completing l c' n stage (hfinal n hr') hl hst hq hn
    · exact .ready n (hfinal n hr') hl hq ha hn

/-- The trigger that wins a parked event makes its call complete the event. -/
lemma triggerParked [DecidableEq ι] (h : Inv s) {i : ι} {k : ℕ} (c : Caller) (m : EventMask)
    (hk : k < s.shared.next) (hr : (s.shared.event k).round = .parked) :
    Inv { s with
      shared := s.shared.trigger k m
      call := Function.update s.call i (.complete c k m .store) } := by
  have hpc := h.suspended_of_parked hk hr
  have hw : s.pc.wait = some k := by rw [hpc]; rfl
  rcases h.resuming k hpc with ⟨-, ha, hq, hn⟩ | ⟨_, _, _, _, hr', -⟩ | ⟨_, hr', -⟩
  · refine ⟨h.ok.trigger k m, fun j hj => ?_, fun j hj hw => (h.past j hj hw).trigger k m,
      fun j hj => ?_, fun j c' l n hj => ?_, fun hp => absurd hpc (hp k), fun j hj => ?_⟩
    · exact ⟨(h.wait j hj).1, (Shared.resumedFrom_congr rfl j).trans (h.wait j hj).2⟩
    · have hjk : j ≠ k := (hk.trans_le hj).ne'
      exact ⟨by simpa [hjk] using (h.unborn j hj).1,
        (Shared.resumedFrom_congr rfl j).trans (h.unborn j hj).2⟩
    · by_cases hji : j = i
      · simp [hji] at hj
      · exact h.target j c' l n (by simpa [hji] using hj)
    · obtain rfl : k = j := by
        have hj : s.pc = .suspended j := hj
        simpa [hpc] using hj
      refine .completing i c m .store (by simp [hr, Round.trigger]) (by simp) ha hq fun j hj => ?_
      simpa [hj] using hn j
  · simp [hr] at hr'
  · simp [hr] at hr'

/-- The completing call takes its next step. -/
lemma complete [DecidableEq ι] (h : Inv s) {i : ι} {c : Caller} {k : ℕ} {m : EventMask}
    {stage : Stage} {sh : Shared} {next : Option Stage} (hi : s.call i = .complete c k m stage)
    (hs : stage.step s.shared m = some (sh, next)) :
    Inv { s with
      shared := sh
      call := Function.update s.call i ((next.map (.complete c k m)).getD (.returned c)) } := by
  have hci : (s.call i).completing = true := by rw [hi]; rfl
  obtain ⟨j, hpc⟩ : ∃ j, s.pc = .suspended j := by
    by_contra hp
    exact absurd ((h.quiet fun j hj => hp ⟨j, hj⟩).2 i) (by simp [hci])
  rcases h.resuming j hpc with ⟨-, -, -, hn⟩ | ⟨l, c', n, stage', hr, hl, hst, hq, hn⟩ |
    ⟨-, -, -, -, -, hn⟩
  · simp [hn i] at hci
  · obtain rfl : i = l := by
      by_contra hil
      simp [hn i hil] at hci
    rw [hi] at hl
    cases hl
    have htarget : ∀ f, (∀ c k m, f ≠ Frame.trigger c k m) → ∀ j c' l n,
        Function.update s.call i f j = .trigger c' l n → l < s.shared.next := by
      intro f hf j c' l n hj
      by_cases hji : j = i
      · subst hji
        exact absurd (by simpa using hj) (hf c' l n)
      · exact h.target j c' l n (by simpa [hji] using hj)
    have hothers : ∀ f, ∀ l, l ≠ i → (Function.update s.call i f l).completing = false := by
      intro f l hl
      simpa [hl] using hn l hl
    cases stage with
    | store =>
      have ha : s.shared.awaitEvent = some k := hst
      rw [Stage.step, if_neg (by simp [ha])] at hs
      cases hs
      refine ⟨?_, h.wait, h.past, h.unborn, htarget _ nofun, fun hp => absurd hpc (hp k), ?_⟩
      · simpa [hpc, Pc.Ok] using h.ok
      · intro j hj
        obtain rfl : k = j := by
          have hj : s.pc = .suspended j := hj
          simpa [hpc] using hj
        exact .completing i c m .clear hr (by simp) ⟨ha, rfl⟩ hq (hothers _)
    | clear =>
      cases hs
      refine ⟨?_, h.wait, h.past, h.unborn, htarget _ nofun, fun hp => absurd hpc (hp k), ?_⟩
      · simpa [hpc, Pc.Ok] using h.ok
      · intro j hj
        obtain rfl : k = j := by
          have hj : s.pc = .suspended j := hj
          simpa [hpc] using hj
        exact .completing i c m .active hr (by simp) ⟨rfl, hst.2⟩ hq (hothers _)
    | active =>
      cases hs
      refine ⟨?_, h.wait, h.past, h.unborn, htarget _ nofun, fun hp => absurd hpc (hp k), ?_⟩
      · simpa [hpc, Pc.Ok] using h.ok
      · intro j hj
        obtain rfl : k = j := by
          have hj : s.pc = .suspended j := hj
          simpa [hpc] using hj
        refine .ready m hr hst.2 (by simp [hq]) hst.1 fun l => ?_
        by_cases hl : l = i
        · simp [hl, Frame.completing]
        · exact hothers _ l hl
  · simp [hn i] at hci

/-- The resumption of the coroutine ends its wait. -/
lemma resume (h : Inv s) {k : ℕ} (hpc : s.pc = .suspended k) (hq : 0 < s.shared.queued) :
    Inv { s with shared := s.shared.resume k, pc := .running } := by
  have hw : s.pc.wait = some k := by rw [hpc]; rfl
  rcases h.resuming k hpc with ⟨-, -, hq', -⟩ | ⟨_, _, _, _, -, -, -, hq', -⟩ |
    ⟨m, hr, hl, hq', ha, hn⟩
  · omega
  · omega
  · have hres : ∀ j, (s.shared.resume k).resumedFrom j =
        s.shared.resumedFrom j ++ if k = j then [s.shared.lastResumeEvent] else [] :=
      fun j => Shared.resumedFrom_append rfl j
    refine ⟨ha, nofun, fun j hj _ => ?_, fun j hj => ?_, h.target, fun _ => ⟨?_, hn⟩, nofun⟩
    · by_cases hjk : k = j
      · subst hjk
        exact .inl ⟨m, hr, by rw [hres, (h.wait k hw).2, if_pos rfl, hl, List.nil_append]⟩
      · refine (h.past j hj fun hj' => hjk ?_).congr rfl ?_ (List.Subset.refl _)
        · exact Option.some.inj (hw.symm.trans hj')
        · rw [hres, if_neg hjk, List.append_nil]
    · have hkj : k ≠ j := fun e => absurd (h.wait k hw).1 (not_lt.mpr (e ▸ hj))
      exact ⟨(h.unborn j hj).1, by rw [hres, if_neg hkj, (h.unborn j hj).2, List.nil_append]⟩
    · exact Nat.sub_eq_zero_of_le hq'.le

/-- A step of a call keeps the invariant. -/
lemma call [DecidableEq ι] (h : Inv s) {i : ι} {sh : Shared} {f : Frame}
    (hs : (s.call i).step s.shared = some (sh, f)) :
    Inv { s with shared := sh, call := Function.update s.call i f } := by
  cases hi : s.call i with
  | idle | returned c =>
    rw [hi] at hs
    cases hs
  | requestCancel =>
    rw [hi] at hs
    cases hs
    exact h.setCancel.setCall (by rw [hi]; rfl) rfl (by simp)
  | loadAwait =>
    rw [hi, Frame.step] at hs
    cases ha : s.shared.awaitEvent with
    | none =>
      rw [ha] at hs
      cases hs
      exact h.setCall (by rw [hi]; rfl) rfl (by simp)
    | some k =>
      rw [ha] at hs
      cases hs
      refine h.setCall (by rw [hi]; rfl) rfl ?_
      rintro c k m ⟨⟩
      exact (h.wait _ (h.wait_of_await ha)).1
  | trigger c k m =>
    have hk := h.target i c k m hi
    have hc : (s.call i).completing = false := by rw [hi]; rfl
    rw [hi, Frame.step] at hs
    split at hs
    · cases hs
      exact h.setCall hc rfl (by simp)
    · cases hs
      split
      · exact h.triggerParked c m hk ‹_›
      · exact (h.triggerEarly m hk ‹_›).setCall hc rfl (by simp)
  | complete c k m stage =>
    rw [hi, Frame.step, Option.map_eq_some_iff] at hs
    obtain ⟨⟨sh', next⟩, hs, hf⟩ := hs
    cases hf
    exact h.complete hi hs

/-- Every step keeps the invariant. -/
lemma next [DecidableEq ι] (h : Inv s) {s' : State ι} {l : Label ι}
    (hs : Coroutine.next s l = some s') : Inv s' := by
  cases l with
  | wait w =>
    simp only [Coroutine.next] at hs
    split at hs
    · rename_i hpc
      cases hs
      exact h.move (by rw [hpc]; rfl) rfl (by simpa [hpc, Pc.Ok] using h.ok)
    · cases hs
  | finish =>
    simp only [Coroutine.next] at hs
    split at hs
    · rename_i hpc ha
      cases hs
      exact h.move (by rw [hpc]; rfl) rfl ha
    · rename_i hpc ha
      have ha' : s.shared.awaitEvent = none := by simpa [hpc, Pc.Ok] using h.ok
      simp [ha'] at ha
    · cases hs
  | advance a =>
    rw [Coroutine.next, Option.map_eq_some_iff] at hs
    obtain ⟨⟨sh, pc⟩, hs, rfl⟩ := hs
    exact h.advance hs
  | resume =>
    simp only [Coroutine.next] at hs
    split at hs
    · rename_i k hpc
      split at hs
      · cases hs
        exact h.resume hpc ‹_›
      · cases hs
    · cases hs
  | requestCancel i =>
    rw [Coroutine.next] at hs
    split at hs
    · rename_i hi
      cases hs
      exact h.setCall (by rw [hi]; rfl) rfl nofun
    · cases hs
  | trigger i k m =>
    rw [Coroutine.next] at hs
    split at hs
    · rename_i hi
      cases hs
      refine h.setCall (by rw [hi.1]; rfl) rfl ?_
      rintro c k m ⟨⟩
      by_contra hk
      simp [(h.unborn k (not_lt.mp hk)).1] at hi
    · cases hs
  | call i =>
    rw [Coroutine.next, Option.map_eq_some_iff] at hs
    obtain ⟨⟨sh, f⟩, hs, rfl⟩ := hs
    exact h.call hs

end Inv

/-- The invariant holds in every reachable state. -/
theorem inv_of_reachable [DecidableEq ι] {s : State ι} (h : (system ι).Reachable s) : Inv s := by
  refine System.Reachable.induct ?_ (fun s l s' hI hs => hI.next hs) h
  rintro s rfl
  refine ⟨rfl, nofun, fun k hk => absurd hk (Nat.not_lt_zero k), fun k _ => ⟨rfl, rfl⟩, ?_,
    fun _ => ⟨rfl, fun _ => rfl⟩, nofun⟩
  intro i c k m hi
  cases hi

end Coroutine

end BbtCoroutine
