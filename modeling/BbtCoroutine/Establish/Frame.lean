import BbtCoroutine.Establish.Model

/-!
# What the parts of a setup do

Each part of the setup of a wait leaves the locks, the queues and the slots alone, and says what
it makes of `m_await_event`.
-/

namespace BbtCoroutine.Establish

open Effects Code

/-! ## What the parts leave alone -/

/-- Only the event of the attempt, its round and the slots may differ. -/
structure Frame (s t : State) : Prop where
  runStatus : t.runStatus = s.runStatus
  onYield : t.onYield = s.onYield
  held : t.held = s.held
  events : s.events ≤ t.events
  waiters : t.waiters = s.waiters
  mutexQueue : t.mutexQueue = s.mutexQueue
  readQueue : t.readQueue = s.readQueue
  writeQueue : t.writeQueue = s.writeQueue

namespace Frame

variable {s t u : State}

/-- A part may leave everything alone. -/
lemma refl (s : State) : Frame s s :=
  ⟨rfl, rfl, rfl, le_rfl, rfl, rfl, rfl, rfl⟩

/-- What two parts leave alone their sequence leaves alone. -/
lemma trans (h : Frame s t) (h' : Frame t u) : Frame s u where
  runStatus := h'.runStatus.trans h.runStatus
  onYield := h'.onYield.trans h.onYield
  held := h'.held.trans h.held
  events := h.events.trans h'.events
  waiters := h'.waiters.trans h.waiters
  mutexQueue := h'.mutexQueue.trans h.mutexQueue
  readQueue := h'.readQueue.trans h.readQueue
  writeQueue := h'.writeQueue.trans h.writeQueue

end Frame

@[simp] lemma release_hold (s : State) (l : Lock) : (s.hold l).release l = s := by
  unfold State.hold State.release
  rw [List.erase_cons_head]

/-- What is done under a lock. -/
lemma Frame.guarded {s t : State} {l : Lock} (h : Frame (s.hold l) t) :
    Frame s (t.release l) where
  runStatus := h.runStatus
  onYield := h.onYield
  held := by
    unfold State.release
    dsimp only
    rw [h.held]
    exact List.erase_cons_head l s.held
  events := h.events
  waiters := h.waiters
  mutexQueue := h.mutexQueue
  readQueue := h.readQueue
  writeQueue := h.writeQueue

/-- Besides, the slots are as they were and `m_await_event` is `e`. -/
structure Awaits (s t : State) (e : Option Obj) : Prop extends Frame s t where
  slot : t.slot = s.slot
  awaitEvent : t.awaitEvent = e

section

variable {s t u : State} {e e' : Option Obj} {a : Answer} {k : ℕ}

/-- A part that leaves everything alone leaves the await event as it is. -/
lemma Awaits.refl (s : State) : Awaits s s s.awaitEvent :=
  ⟨.refl s, rfl, rfl⟩

/-- The await event after two parts is that of the second one. -/
lemma Awaits.trans (h : Awaits s t e) (h' : Awaits t u e') : Awaits s u e' :=
  ⟨h.toFrame.trans h'.toFrame, h'.slot.trans h.slot, h'.awaitEvent⟩

/-- A lock that is taken and released. -/
lemma meets_guarded {α : Type} {p : Code State α} {l : Lock} {Q : α → State → Prop}
    {E P : State → Prop}
    (h : Meets p (s.hold l) (fun x t => Q x (t.release l)) (fun t => E (t.release l)) P) :
    Meets (guarded l p) s Q E P :=
  Meets.scope h

/-- What setting the await event does. -/
lemma meets_setAwaitEvent {E P : State → Prop} (e : Option Obj) :
    Meets (setAwaitEvent e) s (fun _ t => t = { s with awaitEvent := e }) E P := by
  refine meets_guarded (Meets.modify ?_)
  exact congrArg (fun t : State => { t with awaitEvent := e }) (release_hold s _)

/-- What reading the await event does. -/
lemma meets_getAwaitEvent {E P : State → Prop} :
    Meets getAwaitEvent s (fun e t => e = s.awaitEvent ∧ s = t) E P := by
  exact meets_guarded (Meets.gets ⟨rfl, (release_hold s _).symm⟩)

/-- An allocation changes nothing, and fails as the environment says. -/
lemma meets_allocate {site : Site} {P : State → Prop} :
    Meets (allocate a site) s (fun _ t => s = t ∧ a.fails site = false)
      (fun t => s = t ∧ a.fails site = true) P := by
  refine Meets.ite (fun h => ?_) (fun h => ?_)
  · exact Meets.throw ⟨rfl, h⟩
  · exact Meets.pure ⟨rfl, Bool.eq_false_iff.mpr h⟩

/-- An allocation that may be made changes nothing. -/
lemma meets_allocateIf {site : Site} {heap : Bool} {P : State → Prop} :
    Meets (allocateIf heap a site) s (fun _ t => s = t) (fun t => s = t) P := by
  refine Meets.ite (fun _ => ?_) (fun _ => Meets.pure rfl)
  exact meets_allocate.mono (fun _ _ h => h.1) (fun _ h => h.1) fun _ h => h

/-- A trigger leaves the await event as it is. -/
lemma awaits_trigger (k : ℕ) (m : EventMask) : Awaits s (s.trigger k m) s.awaitEvent :=
  ⟨⟨rfl, rfl, rfl, le_rfl, rfl, rfl, rfl, rfl⟩, rfl, rfl⟩

/-- What a trigger on a condition does. -/
lemma meets_triggerIf {b : Bool} {m : EventMask} {E P : State → Prop} :
    Meets (triggerIf b k m) s (fun _ t => t = if b then s.trigger k m else s) E P := by
  refine Meets.ite (fun h => ?_) (fun h => ?_)
  · exact Meets.modify (if_pos h).symm
  · exact Meets.pure (if_neg h).symm

/-- An event that was triggered is not initialised any more. -/
lemma round_trigger_ne (s : State) (k : ℕ) (m : EventMask) : (s.trigger k m).round k ≠ .inited := by
  intro hr
  have hu := Round.undecided_trigger (s.round k) m
  simp only [State.trigger, Function.update_self] at hr
  rw [hr] at hu
  cases hu

/-- A trigger on a condition leaves the await event as it is. -/
lemma awaits_triggerIf (b : Bool) (k : ℕ) (m : EventMask) :
    Awaits s (if b then s.trigger k m else s) s.awaitEvent := by
  cases b with
  | true => exact awaits_trigger k m
  | false => exact .refl s

/-- Making the event fails as its allocation does. -/
lemma meets_create {P : State → Prop} :
    Meets (create a) s
      (fun k t => k = s.events ∧ t = s.makeEvent ∧ a.fails .event = false)
      (fun t => s = t ∧ a.fails .event = true) P := by
  refine Meets.call meets_allocate ?_ (fun _ h => h) fun _ h => h
  rintro - t ⟨rfl, hf⟩
  exact Meets.bind (Meets.gets (Meets.bind (Meets.modify (Meets.pure ⟨rfl, rfl, hf⟩))))

/-- The event of the attempt is published. -/
lemma awaits_publish (k : ℕ) :
    Awaits s { s.makeEvent with awaitEvent := some (.own k) } (some (.own k)) :=
  ⟨⟨rfl, rfl, rfl, Nat.le_succ _, rfl, rfl, rfl, rfl⟩, rfl, rfl⟩

/-- What `InitCustomEvent` does, and when it returns 0. -/
lemma meets_initCustomEvent {E P : State → Prop} :
    Meets (initCustomEvent a k) s
      (fun ret t => Awaits s t s.awaitEvent ∧ (ret = 0 → a.cancelledCustom = false) ∧
        (a.cancelledCustom = false → s.round k = .inited → ret = 0 ∧ t.round k = .inited)) E P := by
  refine Meets.call (F := E) (G := P) meets_triggerIf ?_ (fun _ h => h) fun _ h => h
  rintro - t rfl
  refine Meets.bind (Meets.gets (Meets.pure
    ⟨awaits_triggerIf _ _ _, fun h0 => ?_, fun hc hr => ?_⟩))
  · refine Bool.eq_false_iff.mpr fun hc => ?_
    rw [hc, if_pos rfl, if_pos (round_trigger_ne _ _ _)] at h0
    cases h0
  · rw [hc, if_neg Bool.false_ne_true]
    exact ⟨if_neg (not_not.mpr hr), hr⟩

/-- `InitFdEvent` throws only where the slot of the descriptor cannot be made. -/
lemma meets_initFdEvent {fd timeout : ℤ} {P : State → Prop} :
    Meets (initFdEvent a k fd timeout) s (fun _ t => Awaits s t s.awaitEvent)
      (fun t => Awaits s t s.awaitEvent ∧ 0 ≤ fd ∧ 0 ≤ timeout ∧ a.cancelledFd = false ∧
        a.fails .fdSlot = true) P := by
  refine Meets.call (F := fun _ => False) (G := P) meets_triggerIf ?_ (fun _ h => h.elim)
    fun _ h => h
  rintro - t rfl
  have hT := awaits_triggerIf (s := s) a.cancelledFd k pollEventCancelled
  refine Meets.bind (Meets.gets (Meets.ite (fun _ => Meets.pure hT) fun hpass => ?_))
  have hcancel : a.cancelledFd = false := by
    refine Bool.eq_false_iff.mpr fun hc => hpass (.inl ?_)
    rw [hc, if_pos rfl]
    exact round_trigger_ne _ _ _
  have hsame : (if a.cancelledFd then s.trigger k pollEventCancelled else s) = s := by
    rw [hcancel]
    exact if_neg Bool.false_ne_true
  rw [hsame] at hpass ⊢
  have hrest : ∀ closing : Bool, Meets (do
      triggerIf closing k pollEventClosed
      pure (if closing then 0 else createEvent a 4)) s (fun _ t => Awaits s t s.awaitEvent)
      (fun t => Awaits s t s.awaitEvent ∧ 0 ≤ fd ∧ 0 ≤ timeout ∧ a.cancelledFd = false ∧
        a.fails .fdSlot = true) P := by
    intro closing
    refine Meets.call (F := fun _ => False) (G := P) meets_triggerIf ?_ (fun _ h => h.elim)
      fun _ h => h
    rintro - t rfl
    exact Meets.pure (awaits_triggerIf _ _ _)
  refine Meets.bind (Meets.ite (fun hfd => ?_) fun _ => Meets.pure (hrest false))
  refine meets_guarded (Meets.call meets_allocate ?_ ?_ fun _ h => h)
  · rintro - t ⟨rfl, -⟩
    refine Meets.pure ?_
    rw [release_hold]
    exact hrest a.closing
  · rintro t ⟨rfl, hf⟩
    rw [release_hold]
    exact ⟨.refl s, hfd, not_lt.mp fun h => hpass (.inr h), hcancel, hf⟩

/-- Where the slot of the descriptor cannot be made, `InitFdEvent` throws. -/
lemma meets_initFdEvent_throws {fd timeout : ℤ} (hr : s.round k = .inited)
    (hc : a.cancelledFd = false) (ht : 0 ≤ timeout) (hfd : 0 ≤ fd) (hf : a.fails .fdSlot = true) :
    Meets (initFdEvent a k fd timeout) s (fun _ _ => False)
      (fun t => t.awaitEvent = s.awaitEvent) fun _ => False := by
  refine Meets.call (F := fun _ => False) (G := fun _ => False) meets_triggerIf ?_
    (fun _ h => h.elim) fun _ h => h
  rintro - t rfl
  rw [hc, if_neg Bool.false_ne_true]
  refine Meets.bind (Meets.gets (Meets.ite (fun h => ?_) fun _ => ?_))
  · rcases h with h | h
    · exact absurd hr h
    · exact absurd ht (not_le.mpr h)
  · refine Meets.bind (Meets.ite (fun _ => ?_) fun h => absurd hfd h)
    refine meets_guarded (Meets.call meets_allocate ?_ ?_ fun _ h => h)
    · rintro - t ⟨-, h⟩
      exact absurd (h.symm.trans hf) Bool.false_ne_true
    · rintro t ⟨rfl, -⟩
      rfl

/-- What follows `InitCustomEvent` in the makers of an await event. -/
lemma meets_afterInit {ret : ℤ} {E P : State → Prop} (hs : s.awaitEvent = some (.own k)) :
    Meets (afterInit k ret) s
      (fun e t => Awaits s t (e.map .own) ∧ (e = none ∨ e = some k ∧ ret = 0) ∧
        (ret = 0 → e = some k ∧ t = s)) E P := by
  refine Meets.ite (fun h => ?_) fun h =>
    Meets.pure ⟨?_, .inr ⟨rfl, not_not.mp h⟩, fun _ => ⟨rfl, rfl⟩⟩
  · refine Meets.call (F := E) (G := P) (meets_setAwaitEvent none) ?_ (fun _ h => h) fun _ h => h
    rintro - t rfl
    exact Meets.pure ⟨⟨⟨rfl, rfl, rfl, le_rfl, rfl, rfl, rfl, rfl⟩, rfl, rfl⟩, .inl rfl,
      fun h0 => absurd h0 h⟩
  · rw [Option.map_some, ← hs]
    exact .refl s

/-- `RegistCustom` either publishes an event or takes it back. -/
lemma meets_registCustom (hs : s.awaitEvent = none) (timeout : Option ℤ) {P : State → Prop} :
    Meets (registCustom a timeout) s
      (fun e t => Awaits s t (e.map .own) ∧
        (∀ k, e = some k → s.events ≤ k ∧ a.fails .event = false ∧ a.cancelledCustom = false) ∧
        (timeout = none → a.cancelledCustom = false →
          e = some s.events ∧ t.round s.events = .inited))
      (fun t => Awaits s t none ∧ a.fails .event = true) P := by
  refine Meets.call (F := fun _ => False) (G := P) meets_getAwaitEvent ?_ (fun _ h => h.elim)
    fun _ h => h
  rintro e t ⟨rfl, rfl⟩
  refine Meets.ite (fun h => absurd hs h) fun _ => ?_
  refine Meets.call meets_create ?_ ?_ fun _ h => h
  swap
  · rintro t ⟨rfl, hf⟩
    refine ⟨?_, hf⟩
    rw [← hs]
    exact .refl s
  rintro k t ⟨rfl, rfl, hmade⟩
  refine Meets.call (F := fun _ => False) (G := P) (meets_setAwaitEvent _) ?_
    (fun _ h => h.elim) fun _ h => h
  rintro - t rfl
  have hpub := awaits_publish (s := s) s.events
  refine Meets.call (F := fun _ => False) (G := P) meets_initCustomEvent ?_
    (fun _ h => h.elim) fun _ h => h
  rintro ret t ⟨hT, hcustom, hret⟩
  refine Meets.call (F := fun _ => False) (G := P) (meets_afterInit hT.awaitEvent) ?_
    (fun _ h => h.elim) fun _ h => h
  rintro e u ⟨hU, he, hok⟩
  have hsu : Awaits s u (e.map .own) := (hpub.trans hT).trans hU
  have hnew : ∀ k, e = some k →
      s.events ≤ k ∧ a.fails .event = false ∧ a.cancelledCustom = false := by
    rintro k rfl
    rcases he with he | ⟨he, h0⟩
    · cases he
    · exact ⟨(Option.some.inj he).ge, hmade, hcustom h0⟩
  cases e with
  | none =>
    refine Meets.pure ⟨hsu, hnew, fun _ hc => ?_⟩
    obtain ⟨h0, -⟩ := hret hc (Function.update_self ..)
    obtain ⟨h, -⟩ := hok h0
    cases h
  | some k =>
    cases timeout with
    | none =>
      refine Meets.pure ⟨hsu, hnew, fun _ hc => ?_⟩
      obtain ⟨h0, hround⟩ := hret hc (Function.update_self ..)
      obtain ⟨hk, rfl⟩ := hok h0
      exact ⟨hk, hround⟩
    | some ms =>
      refine Meets.call meets_initFdEvent ?_ ?_ fun _ h => h
      · intro ret v hV
        refine (meets_afterInit (hV.awaitEvent.trans hU.awaitEvent)).mono ?_ (fun _ h => h)
          fun _ h => h
        rintro e w ⟨hW, he', -⟩
        refine ⟨(hsu.trans hV).trans hW, ?_, by rintro ⟨⟩⟩
        rintro j rfl
        rcases he' with he' | ⟨he', -⟩
        · cases he'
        · exact hnew j (congrArg some (Option.some.inj he').symm)
      · rintro v ⟨-, hfd, -⟩
        exact absurd hfd (by decide)

/-- The storage of the callback fails only as a whole. -/
lemma meets_contextYieldWithCallback {α : Type} {heap : Bool} (hs : s.onYield = false) :
    Meets (contextYieldWithCallback a heap : Code State α) s (fun _ _ => False) (fun t => s = t)
      fun _ => True := by
  refine Meets.bind (Meets.onThrow (Meets.call meets_allocateIf ?_ ?_ fun _ h => h))
  · rintro - t rfl
    exact Meets.modify (Meets.park trivial)
  · rintro t rfl
    exact Meets.modify (by rw [← hs])

/-- A yield that fails leaves the coroutine running, without an awaited event. -/
lemma meets_yieldWithCallback {α : Type} {heap : Bool} (hr : s.runStatus = .running)
    (hs : s.onYield = false) :
    Meets (yieldWithCallback a heap : Code State α) s (fun _ _ => False) (fun t => Awaits s t none)
      fun _ => True := by
  refine Meets.bind (Meets.modify (Meets.onThrow ?_))
  have hctx : Meets (contextYieldWithCallback a heap : Code State α)
      { s with runStatus := .suspend } (fun _ _ => False)
      (fun t => { s with runStatus := .suspend } = t) fun _ => True :=
    meets_contextYieldWithCallback hs
  refine hctx.mono (fun _ _ h => h) ?_ fun _ h => h
  rintro t rfl
  refine Meets.call (F := fun _ => False) (G := fun _ => False) (meets_setAwaitEvent none) ?_
    (fun _ h => h.elim) fun _ h => h.elim
  rintro - t rfl
  exact Meets.modify ⟨⟨hr.symm, rfl, rfl, le_rfl, rfl, rfl, rfl, rfl⟩, rfl, rfl⟩

end

end BbtCoroutine.Establish
