import BbtCoroutine.WaitStatus.Model

/-!
# The status of a wait names its winner

A wait that reports a status reads it off the mask of the trigger that won its round.  That
fails in four ways: a cancellation that triggers the event while it is still initialised
makes the initialisation fail; a deadline that passes between the two readings of the clock
makes the options form ask for a negative time; a close is reported as a cancellation; and a
wait that throws in its initialisation makes the later ones fail.  In a run that avoids the
four every status names its winner (`named_of_kept`).
-/

namespace BbtCoroutine.WaitStatus

open Transition Pollevent
open BoundedWait (Waiting ceilMs toInt toInt_of_le intMax fdListenEvents)
open Coroutine (optTimeout optReadable optWriteable optPersist normalizeTriggerEvent)
open CoWaiter (Form Status)

/-! ## Statement -/

/-- What the contract says of a wait `op` that has returned `st`. -/
structure Named (s : State) (op : Op) (st : Status) : Prop where
  /-- The status is that of the one trigger that won the round. -/
  winner : ∀ c, s.winner = some c → c.status = some st
  /-- A wait is cancelled if it found a cancellation at its entry, -/
  entered : s.entered = true → st = .cancelled
  /-- and only then, or if a cancellation won. -/
  cancelled : st = .cancelled → s.entered = true ∨ s.winner = some .cancelled
  timedOut : st = .timedOut → op.deadline ≤ s.now
  completed : st = .completed → s.winner = some .notify
  fdReadable : st = .fdReadable → s.winner = some .readable
  fdWriteable : st = .fdWriteable → s.winner = some .writeable
  /-- The runtime is unavailable only if the event could not be made or registered. -/
  runtimeUnavailable : st = .runtimeUnavailable → s.lacked = true

/-- The initialisation of the event has still to look at its phase. -/
def Pc.initialising : Pc → Bool
  | .initCustom _ _ | .initFd _ _ _ _ => true
  | _ => false

/-- What is asked of a step of the coroutine. -/
def Pc.StepKept (s : State) (a : Answer) : Pc → Prop
  | remaining (.options deadline) => 0 ≤ ceilMs (deadline - s.now)
  | initSample _ _ => 0 ≤ s.wait.fd → a.throws = false
  | initClosed _ => s.wait.round.undecided = false
  | initCreate _ _ => a.created = false → s.wait.round.undecided = true
  | track _ => s.refused a → s.wait.round.undecided = false
  | _ => True

/-- What is asked of a step: no cancellation triggers an event whose initialisation has still to
look at its phase, or whose making then fails; the options form finds time left at its second
reading of the clock; no close triggers an event that is undecided; and the slot of a descriptor
can be made. -/
def Kept (s : State) : Label → Prop
  | .cancelTrigger => s.pc.initialising = false
  | .close => s.wait.round.undecided = false
  | .step a => s.pc.StepKept s a
  | _ => True

/-- Whether a step of the code is kept can be computed. -/
instance decidableStepKept (s : State) (a : Answer) (pc : Pc) : Decidable (pc.StepKept s a) :=
  match pc with
  | .remaining (.options deadline) => inferInstanceAs (Decidable (0 ≤ ceilMs (deadline - s.now)))
  | .initSample _ _ => inferInstanceAs (Decidable (_ → _))
  | .initClosed _ => inferInstanceAs (Decidable (_ = _))
  | .initCreate _ _ => inferInstanceAs (Decidable (_ → _))
  | .track _ => inferInstanceAs (Decidable (_ → _))
  | .remaining (.combined _ _ _ _) | .idle | .entry _ | .create _ _ | .initCustom _ _
  | .initFd _ _ _ _ | .publish _ | .yield _ | .registCheck _ | .regist _ | .commit _ | .parked _
  | .resumed _ _ | .returned _ _ => inferInstanceAs (Decidable True)

/-- Whether a step of the system is kept can be computed. -/
instance decidableKept (s : State) (l : Label) : Decidable (Kept s l) :=
  match l with
  | .cancelTrigger | .close => inferInstanceAs (Decidable (_ = _))
  | .step a => decidableStepKept s a s.pc
  | .advance _ | .begin _ | .resume | .requestCancel | .notify | .waiterCancel | .fdReady _
  | .timerExpired | .handle _ | .deliver _ => inferInstanceAs (Decidable True)

/-! ## The event of a wait -/

namespace Op

/-- The wait asks for the readiness `f` of a descriptor. -/
def Wants (op : Op) (f : EventMask) : Prop :=
  op.form = .combined ∧ (f = optReadable ∨ f = optWriteable)

end Op

/-- A call of the callback that is on its way is for a readiness that was asked for, or for a
deadline that has passed. -/
def CallOk (op : Op) (now : ℤ) (m : EventMask) : Prop :=
  op.Wants m ∨ m = optTimeout ∧ op.deadline ≤ now

/-- What holds of the event of a wait. -/
structure EventOk (op : Op) (now : ℤ) (e : Event) : Prop where
  listen : ∀ f, f = optReadable ∨ f = optWriteable → e.listenEvents &&& f ≠ 0 → op.Wants f
  persist : e.listenEvents &&& optPersist = 0
  fdWaits : ∀ w ∈ e.fdWaits, op.Wants w.1
  timerWait : ∀ a, e.timerWait = some a → op.deadline ≤ a.expiry
  fdQueued : ∀ f n, .fd f n ∈ e.queued → op.Wants f
  timerQueued : ∀ n, .timer n ∈ e.queued → op.deadline ≤ now

/-- The winner `c` may have won. -/
def Cause.Ok (op : Op) (now : ℤ) : Cause → Prop
  | .timer => op.deadline ≤ now
  | .readable | .writeable => op.form = .combined
  | .closed => False
  | .notify | .cancelled => True

/-- What holds of the wait `op` and of the record of it. -/
structure Facts (s : State) (op : Op) : Prop where
  timeout : 0 < s.wait.timeout → op.deadline ≤ s.now + s.wait.timeout * msecNanos
  event : ∀ e, s.wait.event = some e → EventOk op s.now e
  delivering : ∀ d ∈ s.wait.delivering, CallOk op s.now d.events ∧ d.rearm = none
  winner : s.wait.round.won = s.winner.map Cause.mask
  cause : ∀ c, s.winner = some c → c.Ok op s.now

/-- The arguments of `InitFdEvent` are those of the wait. -/
structure ArgsOk (op : Op) (now : ℤ) (events : EventMask) (timeout : ℤ) : Prop where
  listen : ∀ f, f = optReadable ∨ f = optWriteable → events &&& f ≠ 0 → op.Wants f
  persist : events &&& optPersist = 0
  nonneg : 0 ≤ timeout
  timeout : 0 < timeout → op.deadline ≤ now + timeout * msecNanos

/-- The time for the timer of the wait. -/
def TimeOk (op : Op) (now : ℤ) (timeoutMs : Option ℤ) : Prop :=
  ∀ t, timeoutMs = some t → 0 ≤ t ∧ op.deadline ≤ now + t * msecNanos

/-! ## The invariant -/

namespace Pc

/-- The wait that the coroutine is in, or has returned from. -/
def op : Pc → Option Op
  | idle => none
  | entry op | remaining op | create op _ | initCustom op _ | initFd op _ _ _ | initSample op _
  | initClosed op | initCreate op _ | publish op | yield op | registCheck op | regist op
  | track op | commit op | parked op | resumed op _ | returned op _ => some op

/-- The waiter can hold the event of the wait. -/
def published : Pc → Bool
  | yield _ | registCheck _ | regist _ | track _ | commit _ | parked _ | resumed _ _ => true
  | _ => false

/-- The wait has not returned. -/
def waiting : Pc → Bool
  | idle | returned _ _ => false
  | _ => true

/-- What holds of the wait at each point. -/
def At (s : State) : Pc → Prop
  | idle | track _ | commit _ | parked _ => True
  | entry _ | remaining _ => s.wait = { round := .cancelled }
  | create op ms => s.wait = { round := .cancelled } ∧ TimeOk op s.now ms
  | initCustom op ms => s.wait = {} ∧ TimeOk op s.now ms
  | initFd op _ events timeout => s.wait = {} ∧ ArgsOk op s.now events timeout
  | initSample op events | initCreate op events =>
    s.wait.round.early = true ∧ (s.wait.event = none ∧ s.wait.delivering = []) ∧
      ArgsOk op s.now events s.wait.timeout
  | initClosed _ | publish _ | yield _ | registCheck _ | regist _ => s.wait.round.early = true
  | resumed _ true =>
    ∃ m, s.wait.round = .final m ∧ s.lastResumeEvent = normalizeTriggerEvent m
  | resumed _ false => s.wait.round.undecided = false ∧ s.winner = none ∧ s.lacked = true
  | returned op st => s.wait.round.undecided = false ∧ Named s op st

end Pc

/-- The invariant of the waits. -/
structure Inv (s : State) : Prop where
  facts : ∀ op, s.pc.op = some op → Facts s op
  entered : s.pc.waiting = true → s.entered = false
  bound : s.bound = true → s.pc.published = true
  leaked : s.leaked = false
  at_pc : s.pc.At s

section

variable {s t : State} {op : Op} {now now' : ℤ}

/-! ## Time passes -/

/-- What holds of a trigger in flight stays true as time passes. -/
lemma CallOk.mono {m : EventMask} (h : CallOk op now m) (hn : now ≤ now') : CallOk op now' m :=
  h.imp_right fun h => ⟨h.1, h.2.trans hn⟩

/-- What holds of a poll event stays true as time passes. -/
lemma EventOk.mono {e : Event} (h : EventOk op now e) (hn : now ≤ now') : EventOk op now' e :=
  { h with timerQueued := fun n hq => (h.timerQueued n hq).trans hn }

/-- What holds of the cause of a resumption stays true as time passes. -/
lemma Cause.Ok.mono {c : Cause} (h : c.Ok op now) (hn : now ≤ now') : c.Ok op now' := by
  cases c with
  | timer => exact le_trans h hn
  | _ => exact h

/-- What holds of the arguments of a wait stays true as time passes. -/
lemma ArgsOk.mono {events : EventMask} {timeout : ℤ} (h : ArgsOk op now events timeout)
    (hn : now ≤ now') : ArgsOk op now' events timeout :=
  { h with timeout := fun ht => (h.timeout ht).trans (add_le_add_left hn _) }

/-- What holds of the timeout of a wait stays true as time passes. -/
lemma TimeOk.mono {ms : Option ℤ} (h : TimeOk op now ms) (hn : now ≤ now') :
    TimeOk op now' ms := by
  intro t ht
  obtain ⟨h0, hd⟩ := h t ht
  exact ⟨h0, hd.trans (add_le_add_left hn _)⟩

/-- A status stays named while the winner is the same and time passes. -/
lemma Named.mono {st : Status} (h : Named s op st) (hw : t.winner = s.winner)
    (he : t.entered = s.entered) (hl : t.lacked = s.lacked) (hn : s.now ≤ t.now) :
    Named t op st where
  winner := by rw [hw]; exact h.winner
  entered := by rw [he]; exact h.entered
  cancelled := by rw [he, hw]; exact h.cancelled
  timedOut hs := (h.timedOut hs).trans hn
  completed := by rw [hw]; exact h.completed
  fdReadable := by rw [hw]; exact h.fdReadable
  fdWriteable := by rw [hw]; exact h.fdWriteable
  runtimeUnavailable := by rw [hl]; exact h.runtimeUnavailable

/-- The facts about a wait stay true while its record is the same and time passes. -/
lemma Facts.mono (h : Facts s op) (hv : t.wait = s.wait) (hw : t.winner = s.winner)
    (hn : s.now ≤ t.now) : Facts t op := by
  refine ⟨?_, ?_, ?_, ?_, ?_⟩
  · rw [hv]
    exact fun ht => (h.timeout ht).trans (add_le_add_left hn _)
  · rw [hv]
    exact fun e he => (h.event e he).mono hn
  · rw [hv]
    exact fun d hd => ⟨(h.delivering d hd).1.mono hn, (h.delivering d hd).2⟩
  · rw [hv, hw]
    exact h.winner
  · rw [hw]
    exact fun c hc => (h.cause c hc).mono hn

/-! ## Triggers -/

/-- A decided round is not triggered again. -/
lemma trigger_of_decided (hd : s.wait.round.undecided = false) (c : Cause) : s.trigger c = s := by
  unfold State.trigger Waiting.trigger
  rw [Round.trigger_of_not_undecided hd, if_neg (by simp [hd])]

/-- A trigger by a party that may win. -/
lemma Facts.trigger (h : Facts s op) {c : Cause}
    (hc : s.wait.round.undecided = true → c.Ok op s.now) : Facts (s.trigger c) op := by
  cases hu : s.wait.round.undecided with
  | false =>
    rw [trigger_of_decided hu]
    exact h
  | true =>
    refine ⟨h.timeout, h.event, h.delivering, ?_, fun d hd => ?_⟩
    · unfold State.trigger
      rw [if_pos hu]
      exact Round.won_trigger_of_undecided hu
    · unfold State.trigger at hd
      rw [if_pos hu] at hd
      cases hd
      exact hc hu

/-- What other parties, the clock and asio do to a wait: at most they decide its round. -/
structure Env (s t : State) : Prop where
  pc : t.pc = s.pc
  entered : t.entered = s.entered
  lacked : t.lacked = s.lacked
  lastResumeEvent : t.lastResumeEvent = s.lastResumeEvent
  leaked : t.leaked = s.leaked
  bound : t.bound = true → s.bound = true
  now : s.now ≤ t.now
  timeout : t.wait.timeout = s.wait.timeout
  initialising : s.pc.initialising = true → s.wait = {} → t.wait = {}
  quiet : s.wait.event = none ∧ s.wait.delivering = [] →
    t.wait.event = none ∧ t.wait.delivering = []
  unmade : s.wait = { round := .cancelled } → t.wait = { round := .cancelled }
  round : t.wait.round = s.wait.round ∧ t.winner = s.winner ∨
    s.wait.round.undecided = true ∧ ∃ m, t.wait.round = s.wait.round.trigger m

/-- The environment does not touch a decided round. -/
lemma Env.decided (h : Env s t) (hd : s.wait.round.undecided = false) :
    t.wait.round = s.wait.round ∧ t.winner = s.winner := by
  rcases h.round with h | ⟨hu, -⟩
  · exact h
  · rw [hd] at hu
    cases hu

/-- The environment leaves an early round early. -/
lemma Env.early (h : Env s t) (he : s.wait.round.early = true) :
    t.wait.round.early = true := by
  rcases h.round with ⟨hr, -⟩ | ⟨-, m, hr⟩
  · rwa [hr]
  · rw [hr]
    exact Round.early_trigger m he

/-- What holds at a point of the code is not affected by the environment. -/
lemma Env.at_pc (h : Env s t) {pc : Pc} (hpc : s.pc = pc) (ha : pc.At s) : pc.At t := by
  cases pc with
  | idle | track _ | commit _ | parked _ => trivial
  | entry _ | remaining _ => exact h.unmade ha
  | create op ms => exact ⟨h.unmade ha.1, ha.2.mono h.now⟩
  | initCustom op ms => exact ⟨h.initialising (by rw [hpc]; rfl) ha.1, ha.2.mono h.now⟩
  | initFd op fd events timeout =>
    exact ⟨h.initialising (by rw [hpc]; rfl) ha.1, ha.2.mono h.now⟩
  | initSample op events | initCreate op events =>
    refine ⟨h.early ha.1, h.quiet ha.2.1, ?_⟩
    rw [h.timeout]
    exact ha.2.2.mono h.now
  | initClosed _ | publish _ | yield _ | registCheck _ | regist _ => exact h.early ha
  | resumed op ok =>
    cases ok with
    | true =>
      obtain ⟨m, hr, hl⟩ := ha
      exact ⟨m, (h.decided (by rw [hr]; rfl)).1.trans hr, h.lastResumeEvent.trans hl⟩
    | false =>
      obtain ⟨hd, hw, hl⟩ := ha
      obtain ⟨hr, hw'⟩ := h.decided hd
      exact ⟨by rw [hr]; exact hd, hw'.trans hw, h.lacked.trans hl⟩
  | returned op st =>
    obtain ⟨hd, hn⟩ := ha
    obtain ⟨hr, hw⟩ := h.decided hd
    exact ⟨by rw [hr]; exact hd, hn.mono hw h.entered h.lacked h.now⟩

/-- What the other parties do keeps the invariant. -/
lemma Inv.env (hI : Inv s) (h : Env s t) (hf : ∀ op, Facts s op → Facts t op) : Inv t := by
  refine ⟨fun op hop => ?_, ?_, fun hb => ?_, h.leaked.trans hI.leaked, ?_⟩
  · rw [h.pc] at hop
    exact hf op (hI.facts op hop)
  · rw [h.pc, h.entered]
    exact hI.entered
  · rw [h.pc]
    exact hI.bound (h.bound hb)
  · rw [h.pc]
    exact h.at_pc rfl hI.at_pc

/-- A trigger is a step of the environment, except while the event is being made. -/
lemma env_trigger (hi : s.pc.initialising = false) (c : Cause) : Env s (s.trigger c) where
  pc := rfl
  entered := rfl
  lacked := rfl
  lastResumeEvent := rfl
  leaked := rfl
  bound := id
  now := le_rfl
  timeout := rfl
  initialising h := absurd (hi.symm.trans h) Bool.false_ne_true
  quiet := id
  unmade h := by
    rw [trigger_of_decided (by rw [h]; rfl)]
    exact h
  round := by
    cases hu : s.wait.round.undecided with
    | false =>
      rw [trigger_of_decided hu]
      exact .inl ⟨rfl, rfl⟩
    | true => exact .inr ⟨rfl, c.mask, rfl⟩

/-- A trigger by a party that may win keeps the invariant. -/
lemma Inv.trigger (hI : Inv s) (hi : s.pc.initialising = false) {c : Cause}
    (hc : ∀ op, s.pc.op = some op → s.wait.round.undecided = true → c.Ok op s.now) :
    Inv (s.trigger c) := by
  have hE := env_trigger hi c
  refine ⟨fun op hop => (hI.facts op hop).trigger (hc op hop), hI.entered, hI.bound, hI.leaked, ?_⟩
  exact hE.at_pc rfl hI.at_pc

/-! ## asio -/

/-- What holds of a poll event stays true when its descriptor is ready. -/
lemma EventOk.fdReady {e : Event} (h : EventOk op now e) {w : EventMask × ℕ}
    (hw : w ∈ e.fdWaits) : EventOk op now (e.fdReady w) where
  listen := h.listen
  persist := h.persist
  fdWaits v hv := h.fdWaits v (List.mem_of_mem_erase hv)
  timerWait := h.timerWait
  fdQueued f n hq := by
    rcases List.mem_append.mp hq with hq | hq
    · exact h.fdQueued f n hq
    · obtain ⟨rfl, -⟩ := Handler.fd.inj (List.mem_singleton.mp hq)
      exact h.fdWaits w hw
  timerQueued n hq := by
    rcases List.mem_append.mp hq with hq | hq
    · exact h.timerQueued n hq
    · cases List.mem_singleton.mp hq

/-- What holds of a poll event stays true when its timer expires. -/
lemma EventOk.timerExpired {e : Event} (h : EventOk op now e) {a : Arming}
    (ha : e.timerWait = some a) (hn : a.expiry ≤ now) : EventOk op now (e.timerExpired a) where
  listen := h.listen
  persist := h.persist
  fdWaits := h.fdWaits
  timerWait b hb := by cases hb
  fdQueued f n hq := by
    rcases List.mem_append.mp hq with hq | hq
    · exact h.fdQueued f n hq
    · cases List.mem_singleton.mp hq
  timerQueued n hq := by
    rcases List.mem_append.mp hq with hq | hq
    · exact h.timerQueued n hq
    · exact (h.timerWait a ha).trans hn

/-- A handler that is run delivers what may be delivered. -/
lemma EventOk.handle {e : Event} (h : EventOk op now e) {k : Handler} (hk : k ∈ e.queued) :
    EventOk op now ((e.dequeue k).handle k).1 ∧
      ∀ d, ((e.dequeue k).handle k).2 = some d → CallOk op now d.events ∧ d.rearm = none := by
  have hd : EventOk op now (e.dequeue k) :=
    ⟨h.listen, h.persist, h.fdWaits, h.timerWait,
      fun f n hq => h.fdQueued f n (List.mem_of_mem_erase hq),
      fun n hq => h.timerQueued n (List.mem_of_mem_erase hq)⟩
  have hpersist : (e.dequeue k).listenEvents &&& optPersist = 0 := h.persist
  cases k with
  | fd f n =>
    unfold Event.handle Event.onFdWaitCompleted
    dsimp only
    split
    · exact ⟨hd, by rintro d ⟨⟩⟩
    · refine ⟨⟨hd.listen, hd.persist, hd.fdWaits, by rintro a ⟨⟩, hd.fdQueued, hd.timerQueued⟩, ?_⟩
      rintro d ⟨⟩
      exact ⟨.inl (h.fdQueued f n hk), if_neg (not_not.mpr hpersist)⟩
  | timer n =>
    unfold Event.handle Event.onTimerFired
    dsimp only
    split
    · exact ⟨hd, by rintro d ⟨⟩⟩
    · refine ⟨⟨hd.listen, hd.persist, by rintro w ⟨⟩, hd.timerWait, hd.fdQueued, hd.timerQueued⟩,
        ?_⟩
      rintro d ⟨⟩
      exact ⟨.inr ⟨rfl, h.timerQueued n hk⟩, rfl⟩

/-- The event of the wait changes, and its round does not. -/
lemma Facts.setEvent (h : Facts s op) {e : Event} {l : List Delivery} (he : EventOk op s.now e)
    (hl : ∀ d ∈ l, CallOk op s.now d.events ∧ d.rearm = none) :
    Facts { s with wait := { s.wait with event := some e, delivering := l } } op where
  timeout := h.timeout
  event e' he' := by
    obtain rfl : e = e' := Option.some.inj he'
    exact he
  delivering := hl
  winner := h.winner
  cause := h.cause

/-- A step of the poll event and of the deliveries in flight is one of the environment. -/
lemma env_setEvent {e : Event} (he : s.wait.event = some e) (e' : Event) (l : List Delivery) :
    Env s { s with wait := { s.wait with event := some e', delivering := l } } where
  pc := rfl
  entered := rfl
  lacked := rfl
  lastResumeEvent := rfl
  leaked := rfl
  bound := id
  now := le_rfl
  timeout := rfl
  initialising _ h := by
    rw [h] at he
    cases he
  quiet h := by
    rw [h.1] at he
    cases he
  unmade h := by
    rw [h] at he
    cases he
  round := .inl ⟨rfl, rfl⟩

/-- The cause of a call names its mask. -/
lemma mask_ofEvents {m : EventMask} (h : CallOk op now m) :
    (Cause.ofEvents m).mask = m ∧ (Cause.ofEvents m).Ok op now := by
  rcases h with ⟨hform, rfl | rfl⟩ | ⟨rfl, hd⟩
  · exact ⟨rfl, hform⟩
  · exact ⟨rfl, hform⟩
  · exact ⟨rfl, hd⟩

/-- The callback of an event that is not persistent makes no wait again. -/
lemma afterCallback_of_rearm_none {d : Delivery} (h : d.rearm = none) (e : Event) :
    e.afterCallback d = e := by
  unfold Event.afterCallback
  rw [h]
  exact if_neg (by simp)

/-- A call of the callback triggers the event. -/
lemma Inv.deliver (hI : Inv s) {d : Delivery} (hd : d ∈ s.wait.delivering) :
    Inv { s with
      wait := s.wait.deliver d
      winner := if s.wait.round.undecided then some (.ofEvents d.events) else s.winner } := by
  refine hI.env ?_ fun op hF => ?_
  · refine ⟨rfl, rfl, rfl, rfl, rfl, id, le_rfl, rfl, fun _ h => ?_, fun h => ?_, fun h => ?_, ?_⟩
    · rw [h] at hd
      exact absurd hd List.not_mem_nil
    · rw [h.2] at hd
      exact absurd hd List.not_mem_nil
    · rw [h] at hd
      exact absurd hd List.not_mem_nil
    · cases hu : s.wait.round.undecided with
      | false => exact .inl ⟨Round.trigger_of_not_undecided hu, rfl⟩
      | true => exact .inr ⟨rfl, d.events, rfl⟩
  · obtain ⟨hcall, hrearm⟩ := hF.delivering d hd
    obtain ⟨hmask, hok⟩ := mask_ofEvents hcall
    refine ⟨hF.timeout, fun e he => ?_, fun d' hd' => hF.delivering d' (List.mem_of_mem_erase hd'),
      ?_, fun c hc => ?_⟩
    · obtain ⟨e', he', rfl⟩ := Option.map_eq_some_iff.mp he
      rw [afterCallback_of_rearm_none hrearm]
      exact hF.event e' he'
    · change (s.wait.round.trigger d.events).won = _
      cases hu : s.wait.round.undecided with
      | false =>
        rw [Round.trigger_of_not_undecided hu]
        exact hF.winner
      | true =>
        rw [Round.won_trigger_of_undecided hu]
        exact congrArg some hmask.symm
    · dsimp only at hc
      split at hc
      · cases hc
        exact hok
      · exact hF.cause c hc

/-! ## The event is made -/

/-- Rounding up to milliseconds does not shorten a timeout. -/
lemma le_ceilMs (ns : ℤ) : ns ≤ ceilMs ns * msecNanos := by
  unfold ceilMs msecNanos
  omega

/-- The interest of a wait does not ask for a persistent event. -/
lemma persist_fdListenEvents (r w timed : Bool) :
    (fdListenEvents r w ||| if timed then optTimeout else 0) &&& optPersist = 0 := by
  cases r <;> cases w <;> cases timed <;> decide

/-- The arguments that an operation passes on are its own. -/
lemma argsOk_of_fdEvent {ms : Option ℤ} {fd t : ℤ} {events : EventMask} (hms : TimeOk op now ms)
    (h : op.fdEvent ms = some (fd, events, t)) : ArgsOk op now events t := by
  cases op with
  | options d =>
    obtain ⟨t', rfl, ht⟩ := Option.map_eq_some_iff.mp h
    cases ht
    obtain ⟨h0, hd⟩ := hms t rfl
    refine ⟨?_, by decide, h0, fun _ => hd⟩
    rintro f (rfl | rfl) hf
    · exact absurd (by decide) hf
    · exact absurd (by decide) hf
  | combined fd' r w d =>
    obtain ⟨-, h⟩ := Option.ite_none_right_eq_some.mp h
    cases h
    refine ⟨fun f hf _ => ⟨rfl, hf⟩, ?_, ?_, ?_⟩
    · exact persist_fdListenEvents r w ms.isSome
    · cases ms with
      | none => exact le_rfl
      | some t => exact (hms t rfl).1
    · cases ms with
      | none => exact fun h => absurd h (lt_irrefl 0)
      | some t => exact fun _ => (hms t rfl).2

/-- A new poll event has the interest of its wait and no timer. -/
lemma eventOk_new {events : EventMask} {t : ℤ} (h : ArgsOk op now events t) (fd : ℤ) :
    EventOk op now (Event.new fd events) where
  listen := h.listen
  persist := h.persist
  fdWaits w hw := absurd hw List.not_mem_nil
  timerWait a ha := by cases ha
  fdQueued f n hq := absurd hq List.not_mem_nil
  timerQueued n hq := absurd hq List.not_mem_nil

/-- A wait for an event that the operation wants keeps what holds of the poll event. -/
lemma EventOk.doAsyncWait {e : Event} (h : EventOk op now e) {f : EventMask} (hf : op.Wants f)
    (n : ℕ) : EventOk op now (e.doAsyncWait f n) := by
  unfold Event.doAsyncWait
  split
  · refine ⟨h.listen, h.persist, fun w hw => ?_, h.timerWait, h.fdQueued, h.timerQueued⟩
    rcases List.mem_append.mp hw with hw | hw
    · exact h.fdWaits w hw
    · rw [List.mem_singleton.mp hw]
      exact hf
  · exact h

/-- Listening to the descriptor keeps what holds of the poll event. -/
lemma EventOk.listenFd {e : Event} (h : EventOk op now e) : EventOk op now e.listenFd := by
  have hread : EventOk op now
      (if e.listenEvents &&& optReadable ≠ 0 then e.doAsyncWait optReadable e.round else e) := by
    split
    · rename_i hr
      exact h.doAsyncWait (h.listen optReadable (.inl rfl) hr) _
    · exact h
  unfold Event.listenFd
  dsimp only
  by_cases hw : e.listenEvents &&& optWriteable ≠ 0
  · rw [if_pos hw]
    exact hread.doAsyncWait (h.listen optWriteable (.inr rfl) hw) _
  · rw [if_neg hw]
    exact hread

/-- `StartListen` waits for what was asked for, and for the deadline. -/
lemma EventOk.startListen {e : Event} (h : EventOk op now e) {t : ℕ}
    (ht : 0 < t → op.deadline ≤ now + t * msecNanos) : EventOk op now (e.startListen now t) := by
  have hcancel : EventOk op now ({ e with
      round := e.round + 1
      timeout := if 0 < t then now + (t + 1) * msecNanos else -1 }).cancelPending :=
    ⟨h.listen, h.persist, fun w hw => absurd hw List.not_mem_nil, by rintro a ⟨⟩, h.fdQueued,
      h.timerQueued⟩
  have hfd := hcancel.listenFd
  have harm : ∀ {e' : Event}, EventOk op now e' → 0 < t → ∀ n,
      EventOk op now (e'.armTimer now t n) := by
    intro e' h' hpos n
    refine ⟨h'.listen, h'.persist, h'.fdWaits, ?_, h'.fdQueued, h'.timerQueued⟩
    rintro a ⟨⟩
    exact ht hpos
  unfold Event.startListen
  dsimp only
  generalize Event.listenFd _ = e' at hfd ⊢
  have hmade : EventOk op now { e' with timer := true } :=
    ⟨hfd.listen, hfd.persist, hfd.fdWaits, hfd.timerWait, hfd.fdQueued, hfd.timerQueued⟩
  by_cases htimer : e'.timer = true
  · rw [if_pos htimer]
    by_cases hpos : 0 < t
    · rw [if_pos hpos]
      exact harm hfd hpos _
    · rw [if_neg hpos]
      exact hfd
  · rw [if_neg htimer]
    by_cases hpos : 0 < t ∧ e'.fd < 0
    · rw [if_pos hpos]
      exact harm hmade hpos.1 _
    · rw [if_neg hpos]
      exact hfd

/-! ## The steps of the coroutine -/

/-- A wait whose round nobody has won yet. -/
lemma facts_of_new {r : Round} (hv : s.wait = { round := r }) (hr : r.won = none)
    (hw : s.winner = none) : Facts s op := by
  refine ⟨?_, ?_, ?_, ?_, ?_⟩
  · rw [hv]
    exact fun h => absurd (show (0 : ℤ) < -1 from h) (by decide)
  · rw [hv]
    rintro e ⟨⟩
  · rw [hv]
    exact fun d hd => absurd hd List.not_mem_nil
  · rw [hv, hw]
    exact hr
  · rw [hw]
    rintro c ⟨⟩

/-- A wait whose round nobody has won has no winner. -/
lemma Facts.winner_none (h : Facts s op) (hr : s.wait.round.won = none) : s.winner = none := by
  have hw := h.winner
  rw [hr] at hw
  exact Option.map_eq_none_iff.mp hw.symm

/-- Nobody has won an undecided round. -/
lemma won_of_undecided {r : Round} (h : r.undecided = true) : r.won = none := by
  cases r <;> first | rfl | cases h

/-- A wait that nobody has won and that is refused. -/
lemma named_of_refused {st : Status} (hw : s.winner = none) (he : s.entered = false)
    (ht : st = .timedOut → op.deadline ≤ s.now) (hl : st = .runtimeUnavailable → s.lacked = true)
    (hst : st ≠ .cancelled ∧ st ≠ .completed ∧ st ≠ .fdReadable ∧ st ≠ .fdWriteable) :
    Named s op st where
  winner c hc := by
    rw [hw] at hc
    cases hc
  entered h := absurd (he.symm.trans h) Bool.false_ne_true
  cancelled h := absurd h hst.1
  timedOut := ht
  completed h := absurd h hst.2.1
  fdReadable h := absurd h hst.2.2.1
  fdWriteable h := absurd h hst.2.2.2
  runtimeUnavailable := hl

/-- A wait that leaves without an event returns what the contract says. -/
lemma inv_leave {st : Status} (hb : s.bound = false) (hl : s.leaked = false) (hw : s.winner = none)
    (hn : Named s op st) : Inv (s.leave op st) where
  facts op' hop := by
    obtain rfl : op = op' := Option.some.inj hop
    exact facts_of_new rfl rfl hw
  entered h := by cases h
  bound h := absurd (hb.symm.trans h) Bool.false_ne_true
  leaked := hl
  at_pc := ⟨rfl, ⟨hn.winner, hn.entered, hn.cancelled, hn.timedOut, hn.completed, hn.fdReadable,
    hn.fdWriteable, hn.runtimeUnavailable⟩⟩

/-- The coroutine goes on, and the wait stays as it is. -/
lemma Inv.goto (hI : Inv s) {pc : Pc} (hop : s.pc.op = some op) (hpc : pc.op = some op)
    (hw : s.pc.waiting = true) (hb : s.pc.published = true → pc.published = true)
    (ha : pc.At { s with pc := pc }) : Inv { s with pc := pc } where
  facts op' hop' := by
    obtain rfl : op = op' := Option.some.inj (hpc.symm.trans hop')
    exact (hI.facts op hop).mono rfl rfl le_rfl
  entered _ := hI.entered hw
  bound h := hb (hI.bound h)
  leaked := hI.leaked
  at_pc := ha

/-- A wait that has not been published is not bound. -/
lemma Inv.unbound (hI : Inv s) (h : s.pc.published = false) : s.bound = false := by
  cases hb : s.bound with
  | false => rfl
  | true => exact absurd (h.symm.trans (hI.bound hb)) Bool.false_ne_true

/-- The entry checks. -/
lemma Inv.enter (hI : Inv s) (hpc : s.pc = .entry op) (a : Answer) : Inv (s.enter op a) := by
  have hop : s.pc.op = some op := by rw [hpc]; rfl
  have hat : s.wait = { round := .cancelled } := by
    have h := hI.at_pc
    rw [hpc] at h
    exact h
  have hw : s.winner = none := (hI.facts op hop).winner_none (by rw [hat]; rfl)
  have he : s.entered = false := hI.entered (by rw [hpc]; rfl)
  have hb : s.bound = false := hI.unbound (by rw [hpc]; rfl)
  have hrefuse : ∀ st, (st = .timedOut → op.deadline ≤ s.now) → st ≠ .runtimeUnavailable →
      st ≠ .cancelled ∧ st ≠ .completed ∧ st ≠ .fdReadable ∧ st ≠ .fdWriteable →
      Inv (s.leave op st) := by
    intro st ht hl hst
    exact inv_leave hb hI.leaked hw (named_of_refused hw he ht (fun h => absurd h hl) hst)
  unfold State.enter
  split
  · exact hrefuse _ (by rintro ⟨⟩) (by decide) (by decide)
  split
  · exact hrefuse _ (by rintro ⟨⟩) (by decide) (by decide)
  split
  · -- the wait has found a cancellation
    have hn : Named { s with entered := true } op .cancelled := by
      refine ⟨fun c hc => ?_, fun _ => rfl, fun _ => .inl rfl, ?_, ?_, ?_, ?_, ?_⟩
      · rw [hw] at hc
        cases hc
      all_goals rintro ⟨⟩
    exact inv_leave (s := { s with entered := true }) hb hI.leaked hw hn
  split
  · rename_i hdl
    exact hrefuse _ (fun _ => hdl) (by decide) (by decide)
  split
  · exact hrefuse _ (by rintro ⟨⟩) (by decide) (by decide)
  · exact hI.goto hop rfl (by rw [hpc]; rfl) (by rw [hpc]; rintro ⟨⟩) hat

/-- The time that is left is never too short for the deadline. -/
lemma timeOk_of_remain {n : ℤ} (hn : n = ceilMs (op.deadline - now)) (h0 : 0 ≤ n) :
    TimeOk op now (if n < intMax then some (toInt n) else none) := by
  intro t ht
  obtain ⟨hlt, ht⟩ := Option.ite_none_right_eq_some.mp ht
  rw [toInt_of_le h0 hlt.le] at ht
  obtain rfl : n = t := Option.some.inj ht
  have hle := le_ceilMs (op.deadline - now)
  rw [← hn] at hle
  exact ⟨h0, by omega⟩

/-- A kept step of the system is a kept step of the code at its point. -/
lemma kept_step {pc : Pc} {a : Answer} (hK : Kept s (.step a)) (hpc : s.pc = pc) :
    pc.StepKept s a := by
  rw [← hpc]
  exact hK

/-- The second reading of the clock. -/
lemma Inv.remain (hI : Inv s) (hpc : s.pc = .remaining op) {a : Answer} (hK : Kept s (.step a)) :
    Inv (s.remain op) := by
  have hop : s.pc.op = some op := by rw [hpc]; rfl
  have hat : s.wait = { round := .cancelled } := by
    have h := hI.at_pc
    rw [hpc] at h
    exact h
  have hw : s.winner = none := (hI.facts op hop).winner_none (by rw [hat]; rfl)
  have he : s.entered = false := hI.entered (by rw [hpc]; rfl)
  have hb : s.bound = false := hI.unbound (by rw [hpc]; rfl)
  unfold State.remain
  dsimp only
  split
  · rename_i hle
    have hdl : op.deadline ≤ s.now := by
      have h := le_ceilMs (op.deadline - s.now)
      have hm : (0 : ℤ) < msecNanos := by decide
      have h0 : ceilMs (op.deadline - s.now) * msecNanos ≤ 0 :=
        Int.mul_nonpos_of_nonpos_of_nonneg hle.2 hm.le
      omega
    have hn : Named s op .timedOut :=
      named_of_refused hw he (fun _ => hdl) (by rintro ⟨⟩) (by decide)
    exact inv_leave hb hI.leaked hw hn
  · rename_i hleft
    have h0 : 0 ≤ ceilMs (op.deadline - s.now) := by
      cases op with
      | options d =>
        exact kept_step hK hpc
      | combined fd r w d =>
        rcases le_total (ceilMs (d - s.now)) 0 with h | h
        · exact absurd ⟨rfl, h⟩ hleft
        · exact h
    exact hI.goto hop rfl (by rw [hpc]; rfl) (by rw [hpc]; rintro ⟨⟩)
      ⟨hat, timeOk_of_remain rfl h0⟩

/-- What holds at the point where the coroutine is. -/
lemma Inv.here (hI : Inv s) {pc : Pc} (hpc : s.pc = pc) : pc.At s := by
  rw [← hpc]
  exact hI.at_pc

/-- The object of the event is made, or its allocation throws. -/
lemma Inv.create (hI : Inv s) {ms : Option ℤ} (hpc : s.pc = .create op ms) (a : Answer) :
    Inv (s.create op ms a) := by
  have hop : s.pc.op = some op := by rw [hpc]; rfl
  obtain ⟨hat, hms⟩ := hI.here hpc
  have hw : s.winner = none := (hI.facts op hop).winner_none (by rw [hat]; rfl)
  have hb : s.bound = false := hI.unbound (by rw [hpc]; rfl)
  unfold State.create
  rw [if_neg (by rw [hI.leaked]; exact Bool.false_ne_true)]
  split
  · exact ⟨by rintro op ⟨⟩, by rintro ⟨⟩, fun h => absurd (hb.symm.trans h) Bool.false_ne_true,
      hI.leaked, trivial⟩
  · refine ⟨fun op' hop' => ?_, fun _ => hI.entered (by rw [hpc]; rfl), fun h => ?_, hI.leaked,
      rfl, hms⟩
    · obtain rfl : op = op' := Option.some.inj hop'
      exact facts_of_new rfl rfl hw
    · exact absurd (hb.symm.trans h) Bool.false_ne_true

/-- `InitCustomEvent` succeeds: nobody has triggered the event yet. -/
lemma Inv.initCustom (hI : Inv s) {ms : Option ℤ} (hpc : s.pc = .initCustom op ms) :
    Inv (s.initCustom op ms) := by
  have hop : s.pc.op = some op := by rw [hpc]; rfl
  have hwait : s.pc.waiting = true := by rw [hpc]; rfl
  have hpub : ∀ pc : Pc, s.pc.published = true → pc.published = true := by
    intro pc h
    rw [hpc] at h
    cases h
  obtain ⟨hat, hms⟩ := hI.here hpc
  have hround : s.wait.round = .inited := by rw [hat]
  unfold State.initCustom
  rw [if_neg (not_not.mpr hround)]
  split
  · rename_i fd events t hfd
    exact hI.goto hop rfl hwait (hpub _) ⟨hat, argsOk_of_fdEvent hms hfd⟩
  · exact hI.goto hop rfl hwait (hpub _) (congrArg Round.early hround)

/-- The check of `InitFdEvent` succeeds. -/
lemma Inv.initFd (hI : Inv s) {fd t : ℤ} {events : EventMask}
    (hpc : s.pc = .initFd op fd events t) : Inv (s.initFd op fd events t) := by
  have hop : s.pc.op = some op := by rw [hpc]; rfl
  obtain ⟨hat, hargs⟩ := hI.here hpc
  have hpass : ¬ (s.wait.round ≠ .inited ∨ t < 0 ∨ s.wait.event ≠ none) := by
    rw [hat]
    rintro (h | h | h)
    · exact h rfl
    · exact absurd hargs.nonneg (not_le.mpr h)
    · exact h rfl
  have hF := hI.facts op hop
  unfold State.initFd
  rw [if_neg hpass]
  refine ⟨fun op' hop' => ?_, fun _ => hI.entered (by rw [hpc]; rfl), fun h => ?_, hI.leaked, ?_⟩
  · obtain rfl : op = op' := Option.some.inj hop'
    exact ⟨hargs.timeout, hF.event, hF.delivering, hF.winner, hF.cause⟩
  · exact absurd ((hI.unbound (by rw [hpc]; rfl)).symm.trans h) Bool.false_ne_true
  · exact ⟨by rw [hat]; rfl, by rw [hat]; exact ⟨rfl, rfl⟩, hargs⟩

/-- The closing flag is sampled. -/
lemma Inv.initSample (hI : Inv s) {events : EventMask} (hpc : s.pc = .initSample op events)
    {a : Answer} (hK : Kept s (.step a)) : Inv (s.initSample op events a) := by
  have hop : s.pc.op = some op := by rw [hpc]; rfl
  have hwait : s.pc.waiting = true := by rw [hpc]; rfl
  have hpub : ∀ pc : Pc, s.pc.published = true → pc.published = true := by
    intro pc h
    rw [hpc] at h
    cases h
  have hslot : 0 ≤ s.wait.fd → a.throws = false := kept_step hK hpc
  have hat := hI.here hpc
  unfold State.initSample
  split
  · rename_i h
    exact absurd ((hslot h.1).symm.trans h.2) Bool.false_ne_true
  split
  · exact hI.goto hop rfl hwait (hpub _) hat.1
  · exact hI.goto hop rfl hwait (hpub _) hat

/-- An fd that is being closed triggers an event that is decided already. -/
lemma Inv.initClosed (hI : Inv s) (hpc : s.pc = .initClosed op) {a : Answer}
    (hK : Kept s (.step a)) : Inv { s.trigger .closed with pc := .publish op } := by
  have hdec : s.wait.round.undecided = false := kept_step hK hpc
  rw [trigger_of_decided hdec]
  exact hI.goto (by rw [hpc]; rfl) rfl (by rw [hpc]; rfl) (by rw [hpc]; rintro ⟨⟩) (hI.here hpc)

/-- `CreateEvent` makes an event, or the wait returns that there is none. -/
lemma Inv.initCreate (hI : Inv s) {events : EventMask} (hpc : s.pc = .initCreate op events)
    {a : Answer} (hK : Kept s (.step a)) : Inv (s.initCreate op events a) := by
  have hop : s.pc.op = some op := by rw [hpc]; rfl
  obtain ⟨hearly, ⟨-, hd⟩, hargs⟩ := hI.here hpc
  have hF := hI.facts op hop
  have he : s.entered = false := hI.entered (by rw [hpc]; rfl)
  have hb : s.bound = false := hI.unbound (by rw [hpc]; rfl)
  unfold State.initCreate
  split
  · refine ⟨fun op' hop' => ?_, fun _ => he, fun h => ?_, hI.leaked, hearly⟩
    · obtain rfl : op = op' := Option.some.inj hop'
      refine ⟨hF.timeout, fun e hev => ?_, hF.delivering, hF.winner, hF.cause⟩
      obtain rfl := Option.some.inj hev
      exact eventOk_new hargs _
    · exact absurd (hb.symm.trans h) Bool.false_ne_true
  · rename_i hfail
    have hund : s.wait.round.undecided = true := by
      exact kept_step hK hpc (Bool.eq_false_iff.mpr hfail)
    have hw : s.winner = none := hF.winner_none (won_of_undecided hund)
    exact inv_leave (s := { s with lacked := true }) hb hI.leaked hw
      (named_of_refused hw he (by rintro ⟨⟩) (fun _ => rfl) (by decide))

/-- The waiter takes the event. -/
lemma Inv.publish (hI : Inv s) (hpc : s.pc = .publish op) :
    Inv { s with bound := true, pc := .yield op } where
  facts op' hop' := by
    have hop : s.pc.op = some op := by rw [hpc]; rfl
    obtain rfl : op = op' := Option.some.inj hop'
    exact (hI.facts op hop).mono rfl rfl le_rfl
  entered _ := hI.entered (by rw [hpc]; rfl)
  bound _ := rfl
  leaked := hI.leaked
  at_pc := hI.here hpc

/-- The coroutine yields, or the callback of the yield cannot be kept. -/
lemma Inv.yield (hI : Inv s) (hpc : s.pc = .yield op) (throws : Bool) :
    Inv (if throws then { s with bound := false, pc := .idle }
      else { s with pc := .registCheck op }) := by
  split
  · exact ⟨by rintro op ⟨⟩, by rintro ⟨⟩, by rintro ⟨⟩, hI.leaked, trivial⟩
  · exact hI.goto (by rw [hpc]; rfl) rfl (by rw [hpc]; rfl) (fun _ => rfl) (hI.here hpc)

/-- A cancellation that came before the registration triggers the event. -/
lemma Inv.registCheck (hI : Inv s) (hpc : s.pc = .registCheck op) :
    Inv { (if s.cancelRequested then s.trigger .cancelled else s) with pc := .regist op } := by
  have hop : s.pc.op = some op := by rw [hpc]; rfl
  have hgo : ∀ {t : State}, Inv t → t.pc = s.pc → Inv { t with pc := .regist op } := by
    intro t hT ht
    exact hT.goto (ht ▸ hop) rfl (by rw [ht, hpc]; rfl) (fun _ => rfl) (hT.here (ht.trans hpc))
  split
  · refine hgo (hI.trigger (by rw [hpc]; rfl) fun op' hop' _ => ?_) rfl
    exact trivial
  · exact hgo hI rfl

/-- The event is listened to. -/
lemma Facts.listen (hF : Facts s op) (hr : s.wait.round = .inited) {e : Event}
    (he : s.wait.event = some e) :
    Facts { s with wait := s.wait.listen s.now { listens := true } e } op := by
  have hstart : EventOk op s.now (e.startListen s.now (max 0 s.wait.timeout).toNat) := by
    refine (hF.event e he).startListen fun hpos => ?_
    have ht := hF.timeout (by omega)
    rw [show ((max 0 s.wait.timeout).toNat : ℤ) = s.wait.timeout by omega]
    exact ht
  have hw : s.winner = none := hF.winner_none (by rw [hr]; rfl)
  unfold Waiting.listen
  dsimp only
  rw [if_neg (fun h => Bool.false_ne_true h.2)]
  refine ⟨hF.timeout, fun e' he' => ?_, hF.delivering, ?_, hF.cause⟩
  · obtain rfl := Option.some.inj he'
    exact hstart
  · exact congrArg (Option.map Cause.mask) hw.symm

/-- A registration that succeeds. -/
lemma Facts.regist (hF : Facts s op) (he : s.wait.round.early = true) {v : Waiting} {listens : Bool}
    (h : s.wait.regist s.now { listens := listens } = some v) :
    Facts { s with wait := v } op := by
  unfold Waiting.regist at h
  rw [if_neg Bool.false_ne_true] at h
  rcases Round.early_iff.mp he with hr | ⟨m, hr⟩
  · rw [hr] at h
    cases hev : s.wait.event with
    | none =>
      rw [hev] at h
      cases h
      have hw : s.winner = none := hF.winner_none (by rw [hr]; rfl)
      refine ⟨hF.timeout, by rintro e ⟨⟩, hF.delivering, ?_, hF.cause⟩
      exact congrArg (Option.map Cause.mask) hw.symm
    | some e =>
      rw [hev] at h
      obtain ⟨hl, h⟩ := Option.ite_none_right_eq_some.mp h
      obtain rfl : listens = true := hl
      cases h
      exact hF.listen hr hev
  · rw [hr] at h
    cases h
    exact hF

/-- A registration fails only on an event that nobody has triggered. -/
lemma inited_of_regist {v : Waiting} (he : v.round.early = true) {listens : Bool}
    (h : v.regist now { listens := listens } = none) : v.round = .inited ∧ listens = false := by
  unfold Waiting.regist at h
  rw [if_neg Bool.false_ne_true] at h
  rcases Round.early_iff.mp he with hr | ⟨m, hr⟩
  · rw [hr] at h
    cases hev : v.event with
    | none =>
      rw [hev] at h
      cases h
    | some e =>
      rw [hev] at h
      cases listens with
      | true => cases h
      | false => exact ⟨hr, rfl⟩
  · rw [hr] at h
    cases h

/-- The event is registered, or the coroutine goes on without a wait. -/
lemma Inv.regist (hI : Inv s) (hpc : s.pc = .regist op) (a : Answer) : Inv (s.regist op a) := by
  have hop : s.pc.op = some op := by rw [hpc]; rfl
  have he : s.entered = false := hI.entered (by rw [hpc]; rfl)
  have hearly : s.wait.round.early = true := hI.here hpc
  have hF := hI.facts op hop
  unfold State.regist
  split
  · rename_i v hv
    refine ⟨fun op' hop' => ?_, fun _ => he, fun _ => rfl, hI.leaked, trivial⟩
    obtain rfl : op = op' := Option.some.inj hop'
    exact (hF.regist hearly hv).mono rfl rfl le_rfl
  · rename_i hnone
    obtain ⟨hr, hl⟩ := inited_of_regist hearly hnone
    have hw : s.winner = none := hF.winner_none (by rw [hr]; rfl)
    have hover : s.wait.round.unRegist = .cancelled := by rw [hr]; rfl
    refine ⟨fun op' hop' => ?_, fun _ => he, fun _ => rfl, hI.leaked,
      congrArg Round.undecided hover, hw, by rw [hl]; exact Bool.or_true _⟩
    obtain rfl : op = op' := Option.some.inj hop'
    refine ⟨hF.timeout, hF.event, hF.delivering, ?_, hF.cause⟩
    change s.wait.round.unRegist.won = s.winner.map Cause.mask
    rw [hover, hw]
    rfl

/-- A descriptor that was closed triggers an event that is decided already. -/
lemma Inv.track (hI : Inv s) (hpc : s.pc = .track op) {a : Answer} (hK : Kept s (.step a)) :
    Inv { (if s.refused a then s.trigger .closed else s) with pc := .commit op } := by
  have hop : s.pc.op = some op := by rw [hpc]; rfl
  have hdec : s.refused a → s.wait.round.undecided = false := kept_step hK hpc
  have hsame : (if s.refused a then s.trigger .closed else s) = s := by
    split
    · rename_i hr
      exact trigger_of_decided (hdec hr) _
    · rfl
  rw [hsame]
  exact hI.goto hop rfl (by rw [hpc]; rfl) (fun _ => rfl) trivial

/-- The park is committed. -/
lemma Inv.commit (hI : Inv s) (hpc : s.pc = .commit op) :
    Inv { s with wait := s.wait.commitPark, pc := .parked op } := by
  have hop : s.pc.op = some op := by rw [hpc]; rfl
  have hF := hI.facts op hop
  refine ⟨fun op' hop' => ?_, fun _ => hI.entered (by rw [hpc]; rfl), fun _ => rfl, hI.leaked,
    trivial⟩
  obtain rfl : op = op' := Option.some.inj hop'
  refine ⟨hF.timeout, hF.event, hF.delivering, ?_, hF.cause⟩
  exact (Round.won_commitPark _).trans hF.winner

/-- A coroutine that is resumed finds the mask of its winner. -/
lemma Inv.resume (hI : Inv s) (hpc : s.pc = .parked op) {m : EventMask}
    (hr : s.wait.round = .final m) :
    Inv { s with lastResumeEvent := normalizeTriggerEvent m, pc := .resumed op true } := by
  have hop : s.pc.op = some op := by rw [hpc]; rfl
  refine ⟨fun op' hop' => ?_, fun _ => hI.entered (by rw [hpc]; rfl), fun _ => rfl, hI.leaked,
    m, hr, rfl⟩
  obtain rfl : op = op' := Option.some.inj hop'
  exact (hI.facts op hop).mono rfl rfl le_rfl

/-- The status that is read off the mask of a winner is the status of the winner. -/
lemma resolve_mask {c : Cause} (hc : c.Ok op now) :
    c.status = some (op.form.resolve (normalizeTriggerEvent c.mask)) := by
  cases c with
  | closed => exact absurd hc id
  | readable | writeable =>
    rw [show op.form = .combined from hc]
    decide
  | notify | timer | cancelled => cases op <;> exact rfl

/-- A status belongs to one cause only. -/
lemma Cause.eq_of_status {c d : Cause} {st : Status} (hc : c.status = some st)
    (hd : d.status = some st) : c = d := by
  cases c <;> cases d <;> first | rfl | cases hc.trans hd.symm

/-- A wait that was won returns the status of its winner. -/
lemma named_of_winner {c : Cause} {st : Status} (hw : s.winner = some c) (hc : c.Ok op s.now)
    (hst : c.status = some st) (he : s.entered = false) : Named s op st where
  winner d hd := by
    obtain rfl : c = d := Option.some.inj (hw.symm.trans hd)
    exact hst
  entered h := absurd (he.symm.trans h) Bool.false_ne_true
  cancelled h := .inr (hw.trans (congrArg some (Cause.eq_of_status hst (by rw [h]; rfl))))
  timedOut h := by
    obtain rfl : c = .timer := Cause.eq_of_status hst (by rw [h]; rfl)
    exact hc
  completed h := hw.trans (congrArg some (Cause.eq_of_status hst (by rw [h]; rfl)))
  fdReadable h := hw.trans (congrArg some (Cause.eq_of_status hst (by rw [h]; rfl)))
  fdWriteable h := hw.trans (congrArg some (Cause.eq_of_status hst (by rw [h]; rfl)))
  runtimeUnavailable h := by
    rw [h] at hst
    cases c <;> cases hst

/-- The wait returns. -/
lemma Inv.finish (hI : Inv s) {ok : Bool} (hpc : s.pc = .resumed op ok) : Inv (s.finish op ok) := by
  have hop : s.pc.op = some op := by rw [hpc]; rfl
  have he : s.entered = false := hI.entered (by rw [hpc]; rfl)
  have hF := hI.facts op hop
  unfold State.finish
  refine ⟨fun op' hop' => ?_, by rintro ⟨⟩, by rintro ⟨⟩, hI.leaked, ?_⟩
  · obtain rfl : op = op' := Option.some.inj hop'
    exact hF.mono rfl rfl le_rfl
  · cases ok with
    | false =>
      obtain ⟨hdec, hw, hl⟩ := hI.here hpc
      rw [if_neg Bool.false_ne_true]
      refine ⟨hdec, ?_⟩
      have hn : Named s op .runtimeUnavailable :=
        named_of_refused hw he (by rintro ⟨⟩) (fun _ => hl) (by decide)
      exact hn.mono rfl rfl rfl le_rfl
    | true =>
      obtain ⟨m, hr, hl⟩ := hI.here hpc
      have hwon := hF.winner
      rw [hr] at hwon
      obtain ⟨c, hc, hm⟩ := Option.map_eq_some_iff.mp hwon.symm
      rw [if_pos rfl, hl, ← hm]
      refine ⟨by rw [hr]; rfl, ?_⟩
      have hok := hF.cause c hc
      exact (named_of_winner hc hok (resolve_mask hok) he).mono rfl rfl rfl le_rfl

/-- Another wait begins. -/
lemma Inv.begin (hI : Inv s) (hw : s.pc.waiting = false) (op : Op) :
    Inv { s with
      pc := .entry op
      wait := { round := .cancelled }
      winner := none
      entered := false
      lacked := false } := by
  have hpub : s.pc.published = false := by
    cases hpc : s.pc with
    | idle | returned _ _ => rfl
    | _ =>
      rw [hpc] at hw
      cases hw
  refine ⟨fun op' _ => facts_of_new rfl rfl rfl, fun _ => rfl, fun h => ?_, hI.leaked, rfl⟩
  exact absurd ((hI.unbound hpub).symm.trans h) Bool.false_ne_true

/-! ## The runs -/

/-- The state changes, but nothing that the invariant is about. -/
lemma Inv.same (hI : Inv s) (h : Env s t) (hv : t.wait = s.wait) (hw : t.winner = s.winner) :
    Inv t :=
  hI.env h fun _ hF => hF.mono hv hw h.now

/-- The coroutine takes a step. -/
lemma Inv.step (hI : Inv s) {a : Answer} (hK : Kept s (.step a)) (hs : s.pc.step s a = some t) :
    Inv t := by
  cases hpc : s.pc with
  | idle | parked op | returned op st =>
    rw [hpc] at hs
    cases hs
  | entry op =>
    rw [hpc] at hs
    obtain rfl := Option.some.inj hs
    exact hI.enter hpc a
  | remaining op =>
    rw [hpc] at hs
    obtain rfl := Option.some.inj hs
    exact hI.remain hpc hK
  | create op ms =>
    rw [hpc] at hs
    obtain rfl := Option.some.inj hs
    exact hI.create hpc a
  | initCustom op ms =>
    rw [hpc] at hs
    obtain rfl := Option.some.inj hs
    exact hI.initCustom hpc
  | initFd op fd events timeout =>
    rw [hpc] at hs
    obtain rfl := Option.some.inj hs
    exact hI.initFd hpc
  | initSample op events =>
    rw [hpc] at hs
    obtain rfl := Option.some.inj hs
    exact hI.initSample hpc hK
  | initClosed op =>
    rw [hpc] at hs
    obtain rfl := Option.some.inj hs
    exact hI.initClosed hpc hK
  | initCreate op events =>
    rw [hpc] at hs
    obtain rfl := Option.some.inj hs
    exact hI.initCreate hpc hK
  | publish op =>
    rw [hpc] at hs
    obtain rfl := Option.some.inj hs
    exact hI.publish hpc
  | yield op =>
    rw [hpc] at hs
    obtain rfl := Option.some.inj hs
    exact hI.yield hpc a.throws
  | registCheck op =>
    rw [hpc] at hs
    obtain rfl := Option.some.inj hs
    exact hI.registCheck hpc
  | regist op =>
    rw [hpc] at hs
    obtain rfl := Option.some.inj hs
    exact hI.regist hpc a
  | track op =>
    rw [hpc] at hs
    obtain rfl := Option.some.inj hs
    exact hI.track hpc hK
  | commit op =>
    rw [hpc] at hs
    obtain rfl := Option.some.inj hs
    exact hI.commit hpc
  | resumed op ok =>
    rw [hpc] at hs
    obtain rfl := Option.some.inj hs
    exact hI.finish hpc

/-- An event of asio keeps the invariant. -/
lemma Inv.setEvent (hI : Inv s) {e e' : Event} {l : List Delivery} (he : s.wait.event = some e)
    (h : ∀ op, Facts s op → EventOk op s.now e' ∧
      ∀ d ∈ l, CallOk op s.now d.events ∧ d.rearm = none) :
    Inv { s with wait := { s.wait with event := some e', delivering := l } } :=
  hI.env (env_setEvent he e' l) fun op hF => hF.setEvent (h op hF).1 (h op hF).2

/-- The step lemma of the system. -/
lemma Inv.next (hI : Inv s) {l : Label} (hK : Kept s l) (hs : next s l = some t) : Inv t := by
  cases l with
  | advance ns =>
    obtain rfl := Option.some.inj hs
    refine hI.same ⟨rfl, rfl, rfl, rfl, rfl, id, ?_, rfl, fun _ h => h, id, id, .inl ⟨rfl, rfl⟩⟩
      rfl rfl
    exact le_add_of_nonneg_right (Int.natCast_nonneg ns)
  | begin op =>
    unfold WaitStatus.next at hs
    dsimp only at hs
    split at hs
    · rename_i hpc
      obtain rfl := Option.some.inj hs
      exact hI.begin (by rw [hpc]; rfl) op
    · rename_i hpc
      obtain rfl := Option.some.inj hs
      exact hI.begin (by rw [hpc]; rfl) op
    · cases hs
  | step a => exact hI.step hK hs
  | resume =>
    unfold WaitStatus.next at hs
    dsimp only at hs
    split at hs
    · rename_i op m hpc hr
      obtain rfl := Option.some.inj hs
      exact hI.resume hpc hr
    · cases hs
  | requestCancel =>
    obtain rfl := Option.some.inj hs
    exact hI.same ⟨rfl, rfl, rfl, rfl, rfl, id, le_rfl, rfl, fun _ h => h, id, id, .inl ⟨rfl, rfl⟩⟩
      rfl rfl
  | cancelTrigger =>
    obtain ⟨-, hs⟩ := Option.ite_none_right_eq_some.mp hs
    cases hs
    exact hI.trigger hK fun op _ _ => trivial
  | notify =>
    obtain ⟨hb, hs⟩ := Option.ite_none_right_eq_some.mp hs
    cases hs
    have hi : s.pc.initialising = false := by
      have hpub := hI.bound hb
      cases hpc : s.pc with
      | initCustom _ _ | initFd _ _ _ _ =>
        rw [hpc] at hpub
        cases hpub
      | _ => rfl
    have hT : Inv (s.trigger .notify) := hI.trigger hi fun op _ _ => trivial
    exact hT.same ⟨rfl, rfl, rfl, rfl, rfl, by rintro ⟨⟩, le_rfl, rfl, fun _ h => h, id, id,
      .inl ⟨rfl, rfl⟩⟩ rfl rfl
  | waiterCancel =>
    obtain rfl := Option.some.inj hs
    exact hI.same ⟨rfl, rfl, rfl, rfl, rfl, by rintro ⟨⟩, le_rfl, rfl, fun _ h => h, id, id,
      .inl ⟨rfl, rfl⟩⟩ rfl rfl
  | close =>
    obtain ⟨-, hs⟩ := Option.ite_none_right_eq_some.mp hs
    cases hs
    rw [trigger_of_decided hK]
    exact hI
  | fdReady w =>
    obtain ⟨e, he, hs⟩ := Option.bind_eq_some_iff.mp hs
    obtain ⟨hw, hs⟩ := Option.ite_none_right_eq_some.mp hs
    cases hs
    refine hI.setEvent he fun op hF => ⟨?_, hF.delivering⟩
    exact (hF.event e he).fdReady (List.contains_iff_mem.mp hw)
  | timerExpired =>
    obtain ⟨e, he, hs⟩ := Option.bind_eq_some_iff.mp hs
    obtain ⟨a, ha, hs⟩ := Option.bind_eq_some_iff.mp hs
    obtain ⟨hn, hs⟩ := Option.ite_none_right_eq_some.mp hs
    cases hs
    exact hI.setEvent he fun op hF => ⟨(hF.event e he).timerExpired ha hn, hF.delivering⟩
  | handle k =>
    obtain ⟨e, he, hs⟩ := Option.bind_eq_some_iff.mp hs
    obtain ⟨hk, hs⟩ := Option.ite_none_right_eq_some.mp hs
    cases hs
    refine hI.setEvent he fun op hF => ?_
    obtain ⟨hev, hcall⟩ := (hF.event e he).handle hk
    refine ⟨hev, fun d hd => ?_⟩
    rcases List.mem_append.mp hd with hd | hd
    · exact hF.delivering d hd
    · exact hcall d (Option.mem_toList.mp hd)
  | deliver d =>
    obtain ⟨hd, hs⟩ := Option.ite_none_right_eq_some.mp hs
    cases hs
    exact hI.deliver hd

end

/-- The invariant holds at every point of a run that keeps the condition. -/
lemma inv_of_kept {s : State} (h : system.ReachableWhen Kept s) : Inv s := by
  refine h.induct (fun s hs => ?_) fun s l t hI hK hs => hI.next hK hs
  rw [hs]
  exact ⟨by rintro op ⟨⟩, by rintro ⟨⟩, by rintro ⟨⟩, rfl, trivial⟩

/-- In a run that keeps the condition every wait returns the status that names its winner. -/
theorem named_of_kept {s : State} (h : system.ReachableWhen Kept s) {op : Op} {st : Status}
    (hr : s.pc = .returned op st) : Named s op st :=
  ((inv_of_kept h).here hr).2

/-- A wait with options that a `Notify` completes. -/
def notifiedRun : List Label :=
  [[.begin (.options 5000000)], List.replicate 13 (.step {}),
    [.notify, .resume, .step {}]].flatten

/-- It returns `Completed`, and the status names its winner. -/
theorem named_of_kept_notified :
    ∃ s, system.ReachableWhen Kept s ∧ s.winner = some .notify ∧
      Named s (.options 5000000) .completed := by
  have hrun : system.endsInWhen Kept { now := 0 } notifiedRun
      (fun s => s.pc = .returned (.options 5000000) .completed ∧ s.winner = some .notify) =
        true := by
    decide +kernel
  obtain ⟨s, hs, hpc, hw⟩ := System.exists_of_endsInWhen (s := ({ now := 0 } : State)) rfl hrun
  exact ⟨s, hs, hw, named_of_kept hs hpc⟩

/-- A wait with options whose event a cancellation triggers before `InitCustomEvent` looks at its
phase. -/
def cancelledInitRun : List Label :=
  [.begin (.options 5000000), .step {}, .step {}, .step {}, .requestCancel, .cancelTrigger,
    .step {}]

/-- It returns that the runtime is unavailable, although nothing was lacking and the cancellation
has won. -/
theorem not_named_cancelledInit :
    ¬ ∀ s op st, system.Reachable s → s.pc = .returned op st → Named s op st := by
  intro h
  have hrun : system.endsIn { now := 0 } cancelledInitRun
      (fun s => s.pc = .returned (.options 5000000) .runtimeUnavailable ∧
        s.winner = some .cancelled ∧ s.lacked = false) = true := by
    decide +kernel
  obtain ⟨s, hs, hpc, hw, hl⟩ := System.exists_of_endsIn (s := ({ now := 0 } : State)) rfl hrun
  have hn := h s _ _ hs hpc
  exact absurd (hl.symm.trans (hn.runtimeUnavailable rfl)) Bool.false_ne_true

end BbtCoroutine.WaitStatus
