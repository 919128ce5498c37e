import BbtCoroutine.CoWaiter.Slot

/-!
# Notifications are paired with rounds

A round is completed by the one notification that wins its event, and the payload it delivers
is the payload of that notification; every other end of a round delivers the empty payload.
-/

namespace BbtCoroutine.CoWaiter

open Transition Coroutine

namespace Frame

variable {ι V : Type*}

/-- The round and the payload of a notification that has stored its payload. -/
def stored : Frame ι V → Option (ι × Option V)
  | notifyStatus e v | notifyTrigger e v | notifyUnlock e v _ | notified (some e) v _ =>
    some (e, v)
  | _ => none

/-- The round and the payload of a notification that has won the event. -/
def succeeded : Frame ι V → Option (ι × Option V)
  | notifyUnlock e v true => some (e, v)
  | notified (some e) v ret => if ret = 0 then some (e, v) else none
  | _ => none

/-- Where the round of a wait is at each point of the wait. -/
def Ok (r : Round) : Frame ι V → Prop
  | publish _ | yield _ | threw _ | regist _ => r.early = true
  | commit _ => r.registered = true
  | parked _ => r = .parked ∨ ∃ m, r = .final m
  | resumed _ true m => ∃ n, r = .final n ∧ m = normalizeTriggerEvent n
  | resumed _ false _ => r = .cancelled
  | _ => True

/-- A call that has stored a value has a target. -/
lemma target_of_stored {f : Frame ι V} {e : ι} {v : Option V} (h : f.stored = some (e, v)) :
    f.target = some e := by
  cases f with
  | notified e' v' r =>
    cases e' with
    | none => cases h
    | some e' =>
      cases h
      rfl
  | notifyStatus e' v' | notifyTrigger e' v' | notifyUnlock e' v' w =>
    cases h
    rfl
  | _ => cases h

/-- A call that has succeeded has stored its value. -/
lemma stored_of_succeeded {f : Frame ι V} {p : ι × Option V} (h : f.succeeded = some p) :
    f.stored = some p := by
  cases f with
  | notified e' v' r =>
    cases e' with
    | none => cases h
    | some e' =>
      rw [succeeded] at h
      split at h
      · exact h
      · cases h
  | notifyUnlock e' v' w =>
    cases w with
    | false => cases h
    | true => exact h
  | _ => cases h

/-- A trigger does not move a round away from where its wait expects it. -/
lemma Ok.trigger {f : Frame ι V} {r : Round} (h : f.Ok r) (m : EventMask) :
    f.Ok (r.trigger m) := by
  cases f with
  | publish f | yield f | threw f | regist f => exact Round.early_trigger m h
  | commit f => exact Round.registered_trigger m h
  | parked f =>
    rcases h with rfl | ⟨n, rfl⟩
    · exact .inr ⟨m, rfl⟩
    · exact .inr ⟨n, rfl⟩
  | resumed f ok n =>
    cases ok with
    | true =>
      obtain ⟨n, rfl, hn⟩ := h
      exact ⟨n, rfl, hn⟩
    | false =>
      obtain rfl : r = .cancelled := h
      rfl
  | _ => trivial

end Frame

/-- A final round is decided. -/
lemma undecided_of_isFinal {r : Round} (h : isFinal r = true) : r.undecided = false := by
  cases r <;> first | rfl | cases h

/-- The masks of timers, fds, closes and cancellations are not that of a notification. -/
lemma Cause.mask_ne_custom (c : Cause) : c.mask ≠ pollEventCustom := by
  cases c <;> decide

/-- A wait is completed exactly by the mask of a notification. -/
lemma Form.resolve_custom (f : Form) :
    f.resolve (normalizeTriggerEvent pollEventCustom) = .completed ∧
      normalizeTriggerEvent pollEventCustom &&& pollEventCustom ≠ 0 := by
  cases f <;> decide

/-- A cause other than a notification does not complete a wait. -/
lemma Form.resolve_cause (f : Form) (c : Cause) :
    f.resolve (normalizeTriggerEvent c.mask) ≠ .completed ∧
      normalizeTriggerEvent c.mask &&& pollEventCustom = 0 := by
  cases f <;> cases c <;> decide

variable {ι V : Type*}

section Invariant

variable [Inhabited V]

/-- What a wait of a form that reports a status has returned: its round was won, its
registration failed, or it was refused before its event was published. -/
inductive Ended (s : State ι V) (i : ι) (f : Form) : Status → Option V → Prop
  | won (m : EventMask) (hr : (s.shared.event i).round = .final m) :
    Ended s i f (f.resolve (normalizeTriggerEvent m))
      (some (if m = pollEventCustom then (s.shared.event i).notifyValue else default))
  | failed (hr : (s.shared.event i).round = .cancelled) :
    Ended s i f .runtimeUnavailable (some default)
  | refused {st : Status} (hst : st ≠ .completed) (ht : ∀ n, (s.call n).target ≠ some i) :
    Ended s i f st none

/-- The invariant of the rounds. -/
structure Rounds (s : State ι V) : Prop where
  ok : ∀ i, (s.call i).Ok (s.shared.event i).round
  won : ∀ e m, (s.shared.event e).round.won = some m →
    m = pollEventCustom ∨ ∃ c : Cause, m = c.mask
  custom : ∀ e, (s.shared.event e).round.won = some pollEventCustom →
    ∃ n v, (s.call n).succeeded = some (e, v)
  succeeded : ∀ n e v, (s.call n).succeeded = some (e, v) →
    (s.shared.event e).round.won = some pollEventCustom
  stored : ∀ n e v, (s.call n).stored = some (e, v) →
    (s.shared.event e).notifyValue = v.getD default
  clean : ∀ e, (∀ n v, (s.call n).stored ≠ some (e, v)) →
    (s.shared.event e).notifyValue = default
  live : ∀ e, (s.call e).waiting = true → isFinal (s.shared.event e).round = false →
    s.shared.coEvent = some e
  ended : ∀ i f st x, s.call i = .returned f (.status st x) → Ended s i f st x

end Invariant

namespace Rounds

variable [DecidableEq ι] [Inhabited V] {s : State ι V}

/-- A step of the call `i` that neither stores a payload nor decides an event.  It may move
the round of `i` itself. -/
lemma keep (h : Rounds s) {i : ι} {sh : Shared ι V} {fr : Frame ι V}
    (hev : ∀ j, j ≠ i → sh.event j = s.shared.event j)
    (hwon : (sh.event i).round.won = (s.shared.event i).round.won)
    (hval : (sh.event i).notifyValue = (s.shared.event i).notifyValue)
    (hst : fr.stored = (s.call i).stored) (hsu : fr.succeeded = (s.call i).succeeded)
    (ht : ∀ e, fr.target = some e →
      (s.call i).target = some e ∨ (s.call e).hasReturned = false)
    (hok : fr.Ok (sh.event i).round)
    (hlive : ∀ e, (Function.update s.call i fr e).waiting = true →
      isFinal (sh.event e).round = false → sh.coEvent = some e)
    (hnew : (s.call i).hasReturned = false)
    (hended : ∀ f st x, fr = .returned f (.status st x) →
      Ended ⟨sh, Function.update s.call i fr⟩ i f st x) :
    Rounds ⟨sh, Function.update s.call i fr⟩ := by
  have hw : ∀ j, (sh.event j).round.won = (s.shared.event j).round.won := by
    intro j
    by_cases hj : j = i
    · rw [hj, hwon]
    · rw [hev j hj]
  have hv : ∀ j, (sh.event j).notifyValue = (s.shared.event j).notifyValue := by
    intro j
    by_cases hj : j = i
    · rw [hj, hval]
    · rw [hev j hj]
  have hcall : ∀ j, (Function.update s.call i fr j).stored = (s.call j).stored ∧
      (Function.update s.call i fr j).succeeded = (s.call j).succeeded := by
    intro j
    by_cases hj : j = i
    · subst hj
      simpa using ⟨hst, hsu⟩
    · simp [hj]
  refine ⟨fun j => ?_, fun e m he => h.won e m (hw e ▸ he), fun e he => ?_, fun n e v hn => ?_,
    fun n e v hn => ?_, fun e he => ?_, hlive, fun j f st x hj => ?_⟩
  · by_cases hj : j = i
    · subst hj
      simpa using hok
    · simpa [hj, hev j hj] using h.ok j
  · obtain ⟨n, v, hn⟩ := h.custom e (hw e ▸ he)
    exact ⟨n, v, (hcall n).2.trans hn⟩
  · exact (hw e).trans (h.succeeded n e v ((hcall n).2 ▸ hn))
  · exact (hv e).trans (h.stored n e v ((hcall n).1 ▸ hn))
  · exact (hv e).trans (h.clean e fun n v => (hcall n).1 ▸ he n v)
  · by_cases hji : j = i
    · subst hji
      exact hended f st x (by simpa using hj)
    · have hj' : s.call j = .returned f (.status st x) := by simpa [hji] using hj
      cases h.ended j f st x hj' with
      | won m hr =>
        rw [← hev j hji] at hr ⊢
        exact .won m hr
      | failed hr => exact .failed ((hev j hji) ▸ hr)
      | refused hst ht' =>
        refine .refused hst fun n hn => ?_
        by_cases hni : n = i
        · subst hni
          rcases ht j (by simpa using hn) with ht | ht
          · exact ht' n ht
          · rw [hj'] at ht
            cases ht
        · exact ht' n (by simpa [hni] using hn)

/-- A wait that is under way keeps its slot. -/
lemma live_update (h : Rounds s) {i : ι} {fr : Frame ι V}
    (hw : fr.waiting = true → (s.call i).waiting = true) (e : ι)
    (he : (Function.update s.call i fr e).waiting = true)
    (hf : isFinal (s.shared.event e).round = false) : s.shared.coEvent = some e := by
  by_cases hei : e = i
  · subst hei
    exact h.live e (hw (by simpa using he)) hf
  · exact h.live e (by simpa [hei] using he) hf

/-- A wait that has not published its event is refused. -/
lemma refused (hS : Slots s) {i : ι} {f : Form} {sh : Shared ι V} {st : Status}
    (hb : (s.call i).bound = false) (hr : (s.call i).hasReturned = false)
    (hst : st ≠ .completed) {r : Result V} :
    Ended ⟨sh, Function.update s.call i (.returned f r)⟩ i f st none := by
  refine .refused hst fun n hn => ?_
  by_cases hni : n = i
  · simp [hni, Frame.target] at hn
  · rcases hS.begun n i (by simpa [hni] using hn) with h | h
    · simp [hb] at h
    · simp [hr] at h

/-- A wait returns without having published its event. -/
lemma refuse (h : Rounds s) (hS : Slots s) {i : ι} {f : Form} {sh : Shared ι V} {st : Status}
    (hev : sh.event = s.shared.event) (hc : sh.coEvent = s.shared.coEvent)
    (hi : s.call i = .wait f ∨ s.call i = .create f) (hst : st ≠ .completed) :
    Rounds ⟨sh, Function.update s.call i (.returned f (f.refuse st))⟩ := by
  refine h.keep (fun j _ => by rw [hev]) (by rw [hev]) (by rw [hev]) ?_ ?_
    (by simp [Frame.target]) trivial ?_ ?_ ?_
  · rcases hi with hi | hi <;> rw [hi] <;> rfl
  · rcases hi with hi | hi <;> rw [hi] <;> rfl
  · intro e he hf
    rw [hc]
    exact h.live_update (by rintro ⟨⟩) e he (hev ▸ hf)
  · rcases hi with hi | hi <;> rw [hi] <;> rfl
  · rintro f' st' x hx
    obtain ⟨rfl, hst'⟩ := Frame.returned.inj hx
    rw [Form.refuse] at hst'
    split at hst'
    · cases hst'
      refine refused hS ?_ ?_ hst <;> rcases hi with hi | hi <;> rw [hi] <;> rfl
    · cases hst'

/-- The entry of a wait. -/
lemma enter (h : Rounds s) (hS : Slots s) {i : ι} {f : Form} {sh : Shared ι V} {fr : Frame ι V}
    (hi : s.call i = .wait f) {a : Answer} (hs : CoWaiter.enter s.shared i a f = (sh, fr)) :
    Rounds ⟨sh, Function.update s.call i fr⟩ := by
  unfold CoWaiter.enter at hs
  split at hs
  · cases hs
    exact h.refuse hS rfl rfl (.inl hi) (by decide)
  · split at hs
    · cases hs
      exact h.refuse hS rfl rfl (.inl hi) (by decide)
    · split at hs
      · cases hs
        exact h.keep (fun _ _ => rfl) rfl rfl (by rw [hi]; rfl) (by rw [hi]; rfl)
          (by simp [Frame.target]) trivial (h.live_update nofun) (by rw [hi]; rfl) nofun
      · rename_i e he
        split at hs
        · rename_i hfin
          cases hs
          refine h.keep (fun _ _ => rfl) rfl rfl (by rw [hi]; rfl) (by rw [hi]; rfl)
            (by simp [Frame.target]) trivial (fun j hj hf => ?_) (by rw [hi]; rfl) nofun
          -- a round under way holds the slot, which is that of a final round
          have hj' := h.live_update (by nofun) j hj hf
          obtain rfl : e = j := Option.some.inj (he.symm.trans hj')
          rw [hfin.2] at hf
          cases hf
        · cases hs
          exact h.refuse hS rfl rfl (.inl hi) (by decide)

/-- The event of a wait is made. -/
lemma create (h : Rounds s) (hS : Slots s) {i : ι} {f : Form} {sh : Shared ι V}
    {fr : Frame ι V} (hi : s.call i = .create f) {a : Answer}
    (hs : CoWaiter.create s.shared i a f = (sh, fr)) :
    Rounds ⟨sh, Function.update s.call i fr⟩ := by
  unfold CoWaiter.create at hs
  split at hs
  · cases hs
    exact h.refuse hS rfl rfl (.inr hi) (by decide)
  · split at hs
    · cases hs
      have hnone : ∀ n v, (s.call n).stored ≠ some (i, v) := by
        intro n v hn
        have := hS.begun n i (Frame.target_of_stored hn)
        simp [hi, Frame.bound, Frame.hasReturned] at this
      have hcall : ∀ n, (Function.update s.call i (.publish f) n).stored = (s.call n).stored ∧
          (Function.update s.call i (.publish f) n).succeeded = (s.call n).succeeded ∧
          (Function.update s.call i (.publish f) n).target = (s.call n).target := by
        intro n
        by_cases hn : n = i
        · subst hn
          simp [hi, Frame.stored, Frame.succeeded, Frame.target]
        · simp [hn]
      refine ⟨fun j => ?_, fun e m he => ?_, fun e he => ?_, fun n e v hn => ?_,
        fun n e v hn => ?_, fun e he => ?_, fun e he hf => ?_, fun j f' st x hj => ?_⟩
      · by_cases hj : j = i
        · simp [hj, Frame.Ok, Round.early]
        · simpa [hj] using h.ok j
      · by_cases hei : e = i
        · simp [hei, Round.won] at he
        · exact h.won e m (by simpa [hei] using he)
      · by_cases hei : e = i
        · simp [hei, Round.won] at he
        · obtain ⟨n, v, hn⟩ := h.custom e (by simpa [hei] using he)
          exact ⟨n, v, (hcall n).2.1.trans hn⟩
      · have hn' := (hcall n).2.1.symm.trans hn
        have hei : e ≠ i := by
          rintro rfl
          exact hnone n v (Frame.stored_of_succeeded hn')
        simpa [hei] using h.succeeded n e v hn'
      · have hn' := (hcall n).1.symm.trans hn
        have hei : e ≠ i := by
          rintro rfl
          exact hnone n v hn'
        simpa [hei] using h.stored n e v hn'
      · by_cases hei : e = i
        · simp [hei]
        · simpa [hei] using h.clean e fun n v => (hcall n).1 ▸ he n v
      · by_cases hei : e = i
        · simp [hei, Frame.waiting] at he
        · exact h.live e (by simpa [hei] using he) (by simpa [hei] using hf)
      · have hji : j ≠ i := by
          rintro rfl
          simp at hj
        have hev : (s.shared.make i).event j = s.shared.event j := by simp [hji]
        cases h.ended j f' st x (by simpa [hji] using hj) with
        | won m hr =>
          rw [← hev] at hr ⊢
          exact .won m hr
        | failed hr => exact .failed (hev ▸ hr)
        | refused hst ht => exact .refused hst fun n => (hcall n).2.2 ▸ ht n
    · cases hs
      exact h.refuse hS rfl rfl (.inr hi) (by decide)

/-- The event of a wait is put into the slot. -/
lemma publish (h : Rounds s) (hS : Slots s) {i : ι} {f : Form} (hi : s.call i = .publish f) :
    Rounds ⟨{ s.shared with notifyMutex := none, coEvent := some i, runStatus := .condWait },
      Function.update s.call i (.yield f)⟩ := by
  have hvac := hS.vacant i (by rw [hi]; rfl)
  have hok : (s.shared.event i).round.early = true := by simpa [hi, Frame.Ok] using h.ok i
  refine h.keep (fun _ _ => rfl) rfl rfl (by rw [hi]; rfl) (by rw [hi]; rfl)
    (by simp [Frame.target]) hok (fun e he hf => ?_) (by rw [hi]; rfl) nofun
  by_cases hei : e = i
  · rw [hei]
  · have he' : s.shared.coEvent = some e := h.live e (by simpa [hei] using he) hf
    rw [hvac] at he'
    cases he'

/-- A wait cleans up and returns. -/
lemma unbind (h : Rounds s) {i : ι} {f : Form} {r : Result V} (hb : (s.call i).bound = true)
    (hr : ∀ st x, r = .status st x → Ended ⟨s.shared.unbind i,
      Function.update s.call i (.returned f r)⟩ i f st x) :
    Rounds ⟨s.shared.unbind i, Function.update s.call i (.returned f r)⟩ := by
  refine h.keep (fun _ _ => by rw [unbind_event]) (by rw [unbind_event]) (by rw [unbind_event])
    ?_ ?_ (by simp [Frame.target]) trivial (fun e he hf => ?_) ?_ ?_
  · cases hi : s.call i <;> rw [hi] at hb <;> first | rfl | cases hb
  · cases hi : s.call i <;> rw [hi] at hb <;> first | rfl | cases hb
  · by_cases hei : e = i
    · simp [hei, Frame.waiting] at he
    · rw [unbind_event] at hf
      exact (unbind_keeps _ hei (h.live e (by simpa [hei] using he) hf)).1
  · cases hi : s.call i <;> rw [hi] at hb <;> first | rfl | cases hb
  · rintro f' st x hx
    obtain ⟨rfl, hx'⟩ := Frame.returned.inj hx
    exact hr st x hx'

/-- The registration and the commit of the park move the round of a wait. -/
lemma setRound (h : Rounds s) {i : ι} {r : Round} {fr : Frame ι V}
    (hw : (s.call i).waiting = true) (hwon : r.won = (s.shared.event i).round.won)
    (hfin : isFinal (s.shared.event i).round = true → isFinal r = true) (hok : fr.Ok r)
    (hst : fr.stored = none) (hsu : fr.succeeded = none) (ht : fr.target = none)
    (hr : fr.hasReturned = false) :
    Rounds ⟨s.shared.setRound i r, Function.update s.call i fr⟩ := by
  refine h.keep (fun j hj => by simp [hj]) (by simpa using hwon) (by simp) ?_ ?_ (by simp [ht])
    (by simpa using hok) (fun e he hf => ?_) ?_ ?_
  · rw [hst]
    cases hi : s.call i <;> rw [hi] at hw <;> first | rfl | cases hw
  · rw [hsu]
    cases hi : s.call i <;> rw [hi] at hw <;> first | rfl | cases hw
  · have hf' : isFinal (s.shared.event e).round = false := by
      by_cases hei : e = i
      · subst hei
        by_contra hne
        simp [hfin (by simpa using hne)] at hf
      · simpa [hei] using hf
    exact h.live_update (fun _ => hw) e he hf'
  · cases hi : s.call i <;> rw [hi] at hw <;> first | rfl | cases hw
  · rintro f st x rfl
    cases hr

/-- A trigger of the event `e`, by the notification `i` or by another party. -/
lemma trigger (h : Rounds s) {i e : ι} {m : EventMask} {fr : Frame ι V}
    (hm : m = pollEventCustom ∨ ∃ c : Cause, m = c.mask)
    (hst : fr.stored = (s.call i).stored) (ht : fr.target = (s.call i).target)
    (hok : ∀ r, (s.call i).Ok r → fr.Ok r) (hw : fr.waiting = (s.call i).waiting)
    (hr : ∀ f r, fr = .returned f r → s.call i = fr)
    (hold : ∀ p, (s.call i).succeeded = some p → fr.succeeded = some p)
    (hnew : ∀ e' v, fr.succeeded = some (e', v) → (s.call i).succeeded = some (e', v) ∨
      (e' = e ∧ m = pollEventCustom ∧ (s.shared.event e).round.undecided = true))
    (hwin : m = pollEventCustom → (s.shared.event e).round.undecided = true →
      ∃ v, fr.succeeded = some (e, v)) :
    Rounds ⟨s.shared.setRound e ((s.shared.event e).round.trigger m),
      Function.update s.call i fr⟩ := by
  -- the round of `e` keeps its winner or gets its first one
  have hround : ∀ j,
      ((j = e → (s.shared.event e).round.undecided = false) ∧
        ((s.shared.setRound e ((s.shared.event e).round.trigger m)).event j).round =
          (s.shared.event j).round) ∨
      (j = e ∧ (s.shared.event e).round.undecided = true ∧
        ((s.shared.setRound e ((s.shared.event e).round.trigger m)).event j).round =
          (s.shared.event e).round.trigger m) := by
    intro j
    by_cases hj : j = e
    · subst hj
      cases hd : (s.shared.event j).round.undecided
      · exact .inl ⟨fun _ => rfl, by simp [Round.trigger_of_not_undecided hd]⟩
      · exact .inr (by simp)
    · exact .inl ⟨fun h => absurd h hj, by simp [hj]⟩
  have hval : ∀ j,
      ((s.shared.setRound e ((s.shared.event e).round.trigger m)).event j).notifyValue =
      (s.shared.event j).notifyValue := by
    intro j
    by_cases hj : j = e <;> simp [hj]
  have hc : (s.shared.setRound e ((s.shared.event e).round.trigger m)).coEvent =
      s.shared.coEvent := rfl
  generalize s.shared.setRound e ((s.shared.event e).round.trigger m) = sh at hround hval hc ⊢
  have hcall : ∀ n, (n = i ∧ Function.update s.call i fr n = fr) ∨
      (n ≠ i ∧ Function.update s.call i fr n = s.call n) := by
    intro n
    by_cases hn : n = i
    · exact .inl ⟨hn, by simp [hn]⟩
    · exact .inr ⟨hn, by simp [hn]⟩
  generalize Function.update s.call i fr = call at hcall ⊢
  have hstored : ∀ n, (call n).stored = (s.call n).stored ∧
      (call n).target = (s.call n).target ∧ (call n).waiting = (s.call n).waiting := by
    intro n
    rcases hcall n with ⟨rfl, hn⟩ | ⟨-, hn⟩
    · rw [hn]
      exact ⟨hst, ht, hw⟩
    · rw [hn]
      exact ⟨rfl, rfl, rfl⟩
  have hfinal : ∀ j, isFinal (s.shared.event j).round = true →
      (sh.event j).round = (s.shared.event j).round := by
    intro j hj
    rcases hround j with ⟨-, hr⟩ | ⟨rfl, hd, -⟩
    · exact hr
    · rw [undecided_of_isFinal hj] at hd
      cases hd
  refine ⟨fun j => ?_, fun j n hj => ?_, fun j hj => ?_, fun n j v hn => ?_, fun n j v hn => ?_,
    fun j hj => ?_, fun j hj hf => ?_, fun j f st x hj => ?_⟩
  · have hj : (call j).Ok (s.shared.event j).round := by
      rcases hcall j with ⟨rfl, hj⟩ | ⟨-, hj⟩
      · rw [hj]
        exact hok _ (h.ok j)
      · rw [hj]
        exact h.ok j
    change (call j).Ok (sh.event j).round
    rcases hround j with ⟨-, hr⟩ | ⟨rfl, -, hr⟩
    · rw [hr]
      exact hj
    · rw [hr]
      exact hj.trigger m
  · have hj : (sh.event j).round.won = some n := hj
    rcases hround j with ⟨-, hr⟩ | ⟨rfl, hd, hr⟩
    · exact h.won j n (hr ▸ hj)
    · rw [hr, Round.won_trigger_of_undecided hd] at hj
      cases hj
      exact hm
  · have hj : (sh.event j).round.won = some pollEventCustom := hj
    change ∃ n v, (call n).succeeded = some (j, v)
    rcases hround j with ⟨-, hr⟩ | ⟨rfl, hd, hr⟩
    · obtain ⟨n, v, hn⟩ := h.custom j (hr ▸ hj)
      refine ⟨n, v, ?_⟩
      rcases hcall n with ⟨rfl, hc⟩ | ⟨-, hc⟩
      · rw [hc]
        exact hold _ hn
      · rw [hc]
        exact hn
    · rw [hr, Round.won_trigger_of_undecided hd] at hj
      obtain ⟨v, hv⟩ := hwin (Option.some.inj hj) hd
      refine ⟨i, v, ?_⟩
      rcases hcall i with ⟨-, hc⟩ | ⟨hc, -⟩
      · rw [hc]
        exact hv
      · exact absurd rfl hc
  · have hn : (call n).succeeded = some (j, v) := hn
    change (sh.event j).round.won = some pollEventCustom
    have hn' : (s.call n).succeeded = some (j, v) ∨
        (j = e ∧ m = pollEventCustom ∧ (s.shared.event e).round.undecided = true) := by
      rcases hcall n with ⟨rfl, hc⟩ | ⟨-, hc⟩
      · exact hnew j v (hc ▸ hn)
      · exact .inl (hc ▸ hn)
    rcases hround j with ⟨hd, hr⟩ | ⟨rfl, hd, hr⟩
    · rw [hr]
      rcases hn' with hn' | ⟨hje, -, hd'⟩
      · exact h.succeeded n j v hn'
      · rw [hd hje] at hd'
        cases hd'
    · rw [hr, Round.won_trigger_of_undecided hd]
      rcases hn' with hn' | ⟨-, rfl, -⟩
      · have := Round.undecided_of_won (h.succeeded n j v hn')
        rw [hd] at this
        cases this
      · rfl
  · exact (hval j).trans (h.stored n j v ((hstored n).1 ▸ hn))
  · exact (hval j).trans (h.clean j fun n v => (hstored n).1 ▸ hj n v)
  · have hf : isFinal (sh.event j).round = false := hf
    refine hc.trans (h.live j ((hstored j).2.2 ▸ hj) ?_)
    by_contra hne
    rw [hfinal j (by simpa using hne)] at hf
    exact hne hf
  · have hj' : s.call j = .returned f (.status st x) := by
      have hj : call j = .returned f (.status st x) := hj
      rcases hcall j with ⟨rfl, hc⟩ | ⟨-, hc⟩
      · rw [hc] at hj
        rw [hr f _ hj, hj]
      · rwa [hc] at hj
    cases h.ended j f st x hj' with
    | won n hr =>
      rw [← hval j]
      exact .won n ((hfinal j (by rw [hr]; rfl)).trans hr)
    | failed hr => exact .failed ((hfinal j (by rw [hr]; rfl)).trans hr)
    | refused hst' ht' => exact .refused hst' fun n => (hstored n).2.1 ▸ ht' n

/-- What a wait that has come back returns. -/
lemma ended_of_resumed (h : Rounds s) {i : ι} {f : Form} {ok : Bool} {m : EventMask}
    {st : Status} {x : Option V} {fr : Frame ι V} (hi : s.call i = .resumed f ok m)
    (hx : f.result ok m (s.shared.event i).notifyValue = .status st x) :
    Ended ⟨s.shared.unbind i, Function.update s.call i fr⟩ i f st x := by
  have hok := h.ok i
  rw [hi] at hok
  have hst : Result.status (if ok then f.resolve m else .runtimeUnavailable)
      (some (if ok ∧ m &&& pollEventCustom ≠ 0 then (s.shared.event i).notifyValue else default)) =
      .status st x := by
    cases f <;> first | exact hx | cases hx
  cases ok with
  | false =>
    have hr : (s.shared.event i).round = .cancelled := hok
    cases hst
    exact .failed (by simpa using hr)
  | true =>
    obtain ⟨n, hr, rfl⟩ := hok
    have hc : (normalizeTriggerEvent n &&& pollEventCustom ≠ 0) ↔ n = pollEventCustom := by
      rcases h.won i n (by rw [hr]; rfl) with rfl | ⟨c, rfl⟩
      · exact ⟨fun _ => rfl, fun _ => (f.resolve_custom).2⟩
      · exact ⟨fun hne => absurd (f.resolve_cause c).2 hne, fun he => absurd he c.mask_ne_custom⟩
    have hval : (if true = true ∧ normalizeTriggerEvent n &&& pollEventCustom ≠ 0 then
        (s.shared.event i).notifyValue else default) =
        if n = pollEventCustom then ((s.shared.unbind i).event i).notifyValue else default := by
      simp only [hc, true_and, unbind_event]
    rw [hval] at hst
    cases hst
    exact .won n (by simpa using hr)

/-- A notification stores its payload in the event of its round. -/
lemma notifyValue (h : Rounds s) (hS : Slots s) {i e : ι} {v : Option V}
    (hi : s.call i = .notifyValue e v) :
    Rounds ⟨(v.map (s.shared.setNotifyValue e)).getD s.shared,
      Function.update s.call i (.notifyStatus e v)⟩ := by
  -- no other notification is for this round, so its payload is still the empty one
  have hother : ∀ n v', n ≠ i → (s.call n).stored ≠ some (e, v') := by
    intro n v' hn hst
    exact hn (hS.unique n i e (Frame.target_of_stored hst) (by rw [hi]; rfl))
  have hempty : (s.shared.event e).notifyValue = default := by
    refine h.clean e fun n v' hn => ?_
    by_cases hni : n = i
    · rw [hni, hi] at hn
      cases hn
    · exact hother n v' hni hn
  have hsh : ∀ j, (((v.map (s.shared.setNotifyValue e)).getD s.shared).event j).round =
      (s.shared.event j).round ∧
      (((v.map (s.shared.setNotifyValue e)).getD s.shared).event j).notifyValue =
        if j = e then v.getD default else (s.shared.event j).notifyValue := by
    intro j
    by_cases hj : j = e
    · cases v <;> simp [hj, hempty]
    · cases v <;> simp [hj]
  have hc : ((v.map (s.shared.setNotifyValue e)).getD s.shared).coEvent = s.shared.coEvent := by
    cases v <;> rfl
  generalize (v.map (s.shared.setNotifyValue e)).getD s.shared = sh at hsh hc ⊢
  have hcall : ∀ n, (n = i ∧ Function.update s.call i (.notifyStatus e v) n = .notifyStatus e v) ∨
      (n ≠ i ∧ Function.update s.call i (.notifyStatus e v) n = s.call n) := by
    intro n
    by_cases hn : n = i
    · exact .inl ⟨hn, by simp [hn]⟩
    · exact .inr ⟨hn, by simp [hn]⟩
  generalize Function.update s.call i (.notifyStatus e v) = call at hcall ⊢
  have hsame : ∀ n, (call n).succeeded = (s.call n).succeeded ∧
      (call n).target = (s.call n).target ∧ (call n).waiting = (s.call n).waiting := by
    intro n
    rcases hcall n with ⟨rfl, hn⟩ | ⟨-, hn⟩
    · rw [hn, hi]
      exact ⟨rfl, rfl, rfl⟩
    · rw [hn]
      exact ⟨rfl, rfl, rfl⟩
  have hstored : ∀ n j v', (call n).stored = some (j, v') ↔
      (n = i ∧ j = e ∧ v' = v) ∨ (n ≠ i ∧ (s.call n).stored = some (j, v')) := by
    intro n j v'
    rcases hcall n with ⟨rfl, hn⟩ | ⟨hni, hn⟩
    · simp [hn, Frame.stored, eq_comm]
    · simp [hn, hni]
  refine ⟨fun j => ?_, fun j m hj => ?_, fun j hj => ?_, fun n j v' hn => ?_, fun n j v' hn => ?_,
    fun j hj => ?_, fun j hj hf => ?_, fun j f st x hj => ?_⟩
  · change (call j).Ok (sh.event j).round
    rw [(hsh j).1]
    rcases hcall j with ⟨rfl, hj⟩ | ⟨-, hj⟩
    · rw [hj]
      trivial
    · rw [hj]
      exact h.ok j
  · exact h.won j m ((hsh j).1 ▸ hj)
  · obtain ⟨n, v', hn⟩ := h.custom j ((hsh j).1 ▸ hj)
    exact ⟨n, v', (hsame n).1.trans hn⟩
  · change (sh.event j).round.won = some pollEventCustom
    rw [(hsh j).1]
    exact h.succeeded n j v' ((hsame n).1 ▸ hn)
  · change (sh.event j).notifyValue = v'.getD default
    rw [(hsh j).2]
    rcases (hstored n j v').mp hn with ⟨-, rfl, rfl⟩ | ⟨hni, hn⟩
    · rw [if_pos rfl]
    · have hje : j ≠ e := by
        rintro rfl
        exact hother n v' hni hn
      rw [if_neg hje]
      exact h.stored n j v' hn
  · change (sh.event j).notifyValue = default
    have hje : j ≠ e := by
      rintro rfl
      exact hj i v ((hstored i j v).mpr (.inl ⟨rfl, rfl, rfl⟩))
    rw [(hsh j).2, if_neg hje]
    refine h.clean j fun n v' hn => ?_
    by_cases hni : n = i
    · rw [hni, hi] at hn
      cases hn
    · exact hj n v' ((hstored n j v').mpr (.inr ⟨hni, hn⟩))
  · exact hc.trans (h.live j ((hsame j).2.2 ▸ hj) ((hsh j).1 ▸ hf))
  · have hj' : s.call j = .returned f (.status st x) := by
      have hj : call j = .returned f (.status st x) := hj
      rcases hcall j with ⟨-, hc⟩ | ⟨-, hc⟩
      · rw [hc] at hj
        cases hj
      · rwa [hc] at hj
    have hje : j ≠ e := by
      rintro rfl
      have := hS.slot j (hS.holds i j (by rw [hi]; rfl) (by rw [hi]; rfl))
      rw [hj'] at this
      cases this
    cases h.ended j f st x hj' with
    | won m hr =>
      have hval : (s.shared.event j).notifyValue = (sh.event j).notifyValue := by
        rw [(hsh j).2, if_neg hje]
      rw [hval]
      exact .won m ((hsh j).1.trans hr)
    | failed hr => exact .failed ((hsh j).1.trans hr)
    | refused hst ht => exact .refused hst fun n => (hsame n).2.1 ▸ ht n

/-- Every step of a call keeps the invariant of the rounds. -/
lemma advance (h : Rounds s) (hS : Slots s) {i : ι} {a : Answer} {sh : Shared ι V}
    {fr : Frame ι V} (hs : (s.call i).step s.shared i a = some (sh, fr)) :
    Rounds ⟨sh, Function.update s.call i fr⟩ := by
  have hok := h.ok i
  cases hi : s.call i with
  | idle | returned f r | notified e v r =>
    rw [hi] at hs
    cases hs
  | wait f =>
    rw [hi, Frame.step] at hs
    split at hs
    · cases hs
      exact h.refuse hS rfl rfl (.inl hi) (by decide)
    · split at hs
      · cases hs
        exact h.refuse hS rfl rfl (.inl hi) (by decide)
      · split at hs
        · exact h.enter hS hi (Option.some.inj hs)
        · cases hs
  | create f =>
    rw [hi] at hs
    exact h.create hS hi (Option.some.inj hs)
  | publish f =>
    rw [hi] at hs
    cases hs
    exact h.publish hS hi
  | yield f =>
    rw [hi] at hs hok
    cases hs
    have hkeep : ∀ fr : Frame ι V, fr = .threw f ∨ fr = .regist f →
        Rounds ⟨s.shared, Function.update s.call i fr⟩ := by
      rintro fr (rfl | rfl) <;>
        exact h.keep (fun _ _ => rfl) rfl rfl (by rw [hi]; rfl) (by rw [hi]; rfl)
          (by simp [Frame.target]) hok (h.live_update (by rw [hi]; exact fun _ => rfl))
          (by rw [hi]; rfl) (by simp)
    exact hkeep _ (by split <;> simp)
  | threw f =>
    rw [hi, Frame.step] at hs
    split at hs
    · cases hs
      exact h.unbind (by rw [hi]; rfl) (by rintro _ _ ⟨⟩)
    · cases hs
  | regist f =>
    rw [hi] at hs hok
    obtain ⟨r, hr, rfl, hfr⟩ := regist_spec (Option.some.inj hs)
    have hmove : r.won = (s.shared.event i).round.won ∧
        (isFinal (s.shared.event i).round = true → isFinal r = true) ∧
        (isFinal r = true → r = .cancelled) ∧ (isFinal r = false → r.registered = true) := by
      rcases Round.early_iff.mp hok with he | ⟨m, he⟩ <;> rw [he] at hr ⊢ <;>
        rcases hr with rfl | rfl <;> refine ⟨rfl, ?_, ?_, ?_⟩ <;> intro h <;>
        first | rfl | cases h
    obtain ⟨hwon, hfin, hcan, hreg⟩ := hmove
    rcases hfr with ⟨hf, rfl⟩ | ⟨hf, rfl⟩
    · exact h.setRound (by rw [hi]; rfl) hwon hfin (hcan hf) rfl rfl rfl rfl
    · exact h.setRound (by rw [hi]; rfl) hwon hfin (hreg hf) rfl rfl rfl rfl
  | commit f =>
    rw [hi] at hs hok
    cases hs
    have hmove : (s.shared.event i).round.commitPark = .parked ∨
        ∃ m, (s.shared.event i).round.commitPark = .final m := by
      have hok : (s.shared.event i).round.registered = true := hok
      cases hr : (s.shared.event i).round <;> rw [hr] at hok <;>
        simp [Round.commitPark, Round.registered] at hok ⊢
    refine h.setRound (by rw [hi]; rfl) (Round.won_commitPark _) (fun hf => ?_) hmove
      rfl rfl rfl rfl
    cases hr : (s.shared.event i).round <;> rw [hr] at hf <;> first | rfl | cases hf
  | parked f =>
    rw [hi, Frame.step] at hs
    split at hs
    · rename_i m hm
      cases hs
      exact h.keep (fun _ _ => rfl) rfl rfl (by rw [hi]; rfl) (by rw [hi]; rfl)
        (by simp [Frame.target]) ⟨m, hm, rfl⟩ (h.live_update (by rintro ⟨⟩)) (by rw [hi]; rfl)
        (by simp)
    · cases hs
  | resumed f ok m =>
    rw [hi] at hok
    rw [hi, Frame.step] at hs
    split at hs
    · cases hs
      exact h.unbind (by rw [hi]; rfl) fun st x hx => h.ended_of_resumed hi hx
    · cases hs
  | notify v =>
    rw [hi, Frame.step] at hs
    split at hs
    · have hs : CoWaiter.notify s.shared i v = (sh, fr) := Option.some.inj hs
      unfold CoWaiter.notify at hs
      split at hs
      · rename_i e he hw
        cases hs
        refine h.keep (fun _ _ => rfl) rfl rfl (by rw [hi]; rfl) (by rw [hi]; rfl)
          (fun e' he' => ?_)
          trivial (h.live_update (by rintro ⟨⟩)) (by rw [hi]; rfl) (by simp)
        obtain rfl : e = e' := by simpa [Frame.target] using he'
        have hb := hS.slot e he
        refine .inr ?_
        cases hc : s.call e <;> rw [hc] at hb <;> first | rfl | cases hb
      · cases hs
        exact h.keep (fun _ _ => rfl) rfl rfl (by rw [hi]; rfl) (by rw [hi]; rfl)
          (by simp [Frame.target]) trivial (h.live_update (by rintro ⟨⟩)) (by rw [hi]; rfl)
            (by simp)
    · cases hs
  | notifyStatus e v =>
    rw [hi] at hs
    cases hs
    exact h.keep (fun _ _ => rfl) rfl rfl (by rw [hi]; rfl) (by rw [hi]; rfl)
      (by rw [hi]; exact fun _ h => .inl h) trivial (h.live_update (by rintro ⟨⟩))
      (by rw [hi]; rfl) (by simp)
  | notifyUnlock e v won =>
    rw [hi] at hs
    cases hs
    refine h.keep (fun _ _ => rfl) rfl rfl (by rw [hi]; rfl) ?_
      (by rw [hi]; exact fun _ h => .inl h) trivial (h.live_update (by rintro ⟨⟩))
      (by rw [hi]; rfl) (by simp)
    rw [hi]
    cases won <;> rfl
  | notifyValue e v =>
    rw [hi] at hs
    cases hs
    exact h.notifyValue hS hi
  | notifyTrigger e v =>
    rw [hi] at hs
    cases hs
    refine h.trigger (.inl rfl) (by rw [hi]; rfl) (by rw [hi]; rfl) (by rw [hi]; exact fun _ => id)
      (by rw [hi]; rfl) (by rintro _ _ ⟨⟩) (by rw [hi]; rintro _ ⟨⟩) ?_ ?_
    · intro e' v' hn
      cases hd : (s.shared.event e).round.undecided <;> rw [hd] at hn <;> cases hn
      exact .inr ⟨rfl, rfl, rfl⟩
    · intro _ hd
      exact ⟨v, by rw [hd]; rfl⟩

/-- Every step keeps the invariant of the rounds. -/
lemma next (h : Rounds s) (hS : Slots s) {s' : State ι V} {l : Label ι V}
    (hs : CoWaiter.next s l = some s') : Rounds s' := by
  cases l with
  | wait i f =>
    simp only [CoWaiter.next] at hs
    split at hs
    · rename_i hi
      cases hs
      exact h.keep (fun _ _ => rfl) rfl rfl (by rw [hi]; rfl) (by rw [hi]; rfl)
        (by simp [Frame.target]) trivial (h.live_update (by rintro ⟨⟩)) (by rw [hi]; rfl) (by simp)
    · cases hs
  | notify i v =>
    simp only [CoWaiter.next] at hs
    split at hs
    · rename_i hi
      cases hs
      exact h.keep (fun _ _ => rfl) rfl rfl (by rw [hi]; rfl) (by rw [hi]; rfl)
        (by simp [Frame.target]) trivial (h.live_update (by rintro ⟨⟩)) (by rw [hi]; rfl) (by simp)
    · cases hs
  | advance i a =>
    rw [CoWaiter.next, Option.map_eq_some_iff] at hs
    obtain ⟨⟨sh, fr⟩, hs, rfl⟩ := hs
    exact h.advance hS hs
  | trigger e c =>
    simp only [CoWaiter.next] at hs
    split at hs
    · cases hs
      have htr : Rounds ⟨s.shared.setRound e ((s.shared.event e).round.trigger c.mask),
          Function.update s.call e (s.call e)⟩ :=
        h.trigger (.inr ⟨c, rfl⟩) rfl rfl (fun _ => id) rfl (fun _ _ _ => rfl) (fun _ => id)
          (fun _ _ => .inl) (fun hm => absurd hm c.mask_ne_custom)
      simpa using htr
    · cases hs
  | cancel =>
    cases hs
    refine ⟨h.ok, h.won, h.custom, h.succeeded, h.stored, h.clean, h.live, fun i f st x hi => ?_⟩
    cases h.ended i f st x hi with
    | won m hr => exact .won m hr
    | failed hr => exact .failed hr
    | refused hst ht => exact .refused hst ht

end Rounds

/-- The invariant of the rounds holds in every reachable state. -/
theorem rounds_of_reachable [DecidableEq ι] [Inhabited V] {s : State ι V}
    (h : (system ι V).Reachable s) : Rounds s := by
  refine System.ReachableWhen.induct_with (J := Slots) (I := Rounds)
    (fun s hs => slots_of_reachable hs.reachable) ?_ ?_ h
  · rintro s rfl
    exact ⟨fun _ => trivial, nofun, nofun, nofun, nofun, fun _ _ => rfl, nofun, nofun⟩
  · intro s l s' hS _ hR _ hs
    exact hR.next hS hs

/-! ## Pairing -/

/-- The call is a wait about to clean up after its round. -/
def Frame.cleansUp : Frame ι V → Bool
  | .threw _ | .resumed _ _ _ => true
  | _ => false

section Pairing

variable [DecidableEq ι] [Inhabited V] {s : State ι V}

omit [DecidableEq ι] [Inhabited V] in
/-- While a wait has returned, a notification that won its round has returned too. -/
lemma notified_of_succeeded (hS : Slots s) {i n : ι} {f : Form} {r : Result V} {v : Option V}
    (hi : s.call i = .returned f r) (hn : (s.call n).succeeded = some (i, v)) :
    s.call n = .notified (some i) v 0 := by
  cases hc : s.call n with
  | notified e v' ret =>
    rw [hc] at hn
    cases e with
    | none => cases hn
    | some e =>
      rw [Frame.succeeded] at hn
      split at hn
      · cases hn
        simp [*]
      · cases hn
  | notifyUnlock e v' won =>
    rw [hc] at hn
    cases won with
    | false => cases hn
    | true =>
      cases hn
      -- it still holds the mutex, so the round is still in the slot
      have hb := hS.slot i (hS.holds n i (by rw [hc]; rfl) (by rw [hc]; rfl))
      rw [hi] at hb
      cases hb
  | _ =>
    rw [hc] at hn
    cases hn

omit [DecidableEq ι] in
/-- A wait is completed exactly when a notification won its round, and delivers its payload. -/
lemma completed_iff (hS : Slots s) (hR : Rounds s) {i : ι} {f : Form} {st : Status}
    {x : Option V} (hi : s.call i = .returned f (.status st x)) :
    (st = .completed ↔ ∃ n v, s.call n = .notified (some i) v 0) ∧
    (∀ n v, s.call n = .notified (some i) v 0 → x = some (v.getD default)) ∧
    (st ≠ .completed → ∀ y, x = some y → y = default) := by
  have hwon : ∀ n v, s.call n = .notified (some i) v 0 →
      (s.shared.event i).round.won = some pollEventCustom := by
    intro n v hn
    exact hR.succeeded n i v (by rw [hn]; rfl)
  cases hR.ended i f st x hi with
  | won m hr =>
    have hm : (s.shared.event i).round.won = some m := by rw [hr]; rfl
    rcases hR.won i m hm with rfl | ⟨c, rfl⟩
    · obtain ⟨n, v, hn⟩ := hR.custom i hm
      refine ⟨⟨fun _ => ⟨n, v, notified_of_succeeded hS hi hn⟩, fun _ => f.resolve_custom.1⟩,
        fun n v hn => ?_, fun hne => absurd f.resolve_custom.1 hne⟩
      rw [if_pos rfl, hR.stored n i v (by rw [hn]; rfl)]
    · refine ⟨⟨fun h => absurd h (f.resolve_cause c).1, ?_⟩, ?_, ?_⟩
      · rintro ⟨n, v, hn⟩
        rw [hwon n v hn] at hm
        exact absurd (Option.some.inj hm).symm c.mask_ne_custom
      · intro n v hn
        rw [hwon n v hn] at hm
        exact absurd (Option.some.inj hm).symm c.mask_ne_custom
      · intro _ y hy
        rw [if_neg c.mask_ne_custom] at hy
        exact (Option.some.inj hy).symm
  | failed hr =>
    have hno : ∀ n v, s.call n ≠ .notified (some i) v 0 := by
      intro n v hn
      have := hwon n v hn
      rw [hr] at this
      cases this
    refine ⟨⟨nofun, ?_⟩, fun n v hn => absurd hn (hno n v), ?_⟩
    · rintro ⟨n, v, hn⟩
      exact absurd hn (hno n v)
    · intro _ y hy
      exact (Option.some.inj hy).symm
  | refused hst ht =>
    have hno : ∀ n v, s.call n ≠ .notified (some i) v 0 := by
      intro n v hn
      exact ht n (by rw [hn]; rfl)
    refine ⟨⟨fun h => absurd h hst, ?_⟩, fun n v hn => absurd hn (hno n v), nofun⟩
    rintro ⟨n, v, hn⟩
    exact absurd hn (hno n v)

/-- `CoWaiter` pairs notifications with rounds: at most one notification succeeds for a round;
a wait that reports a status is completed exactly when one notification succeeded for its
round, delivers the payload of that notification, and the empty payload otherwise; a round
under way keeps the slot; and the clean-up of one round leaves the events and the slot of
every other round. -/
theorem notifications_paired (h : (system ι V).Reachable s) :
    (∀ e n n' v v', s.call n = .notified (some e) v 0 → s.call n' = .notified (some e) v' 0 →
      n = n') ∧
    (∀ i f st x, s.call i = .returned f (.status st x) →
      (st = .completed ↔ ∃! n, ∃ v, s.call n = .notified (some i) v 0) ∧
      (∀ n v, s.call n = .notified (some i) v 0 → x = some (v.getD default)) ∧
      (st ≠ .completed → ∀ y, x = some y → y = default)) ∧
    (∀ e, (s.call e).waiting = true → isFinal (s.shared.event e).round = false →
      s.shared.coEvent = some e) ∧
    (∀ i a s', next s (.advance i a) = some s' → (s.call i).cleansUp = true → ∀ e, e ≠ i →
      s'.shared.event e = s.shared.event e ∧ (s.shared.coEvent = some e →
        s'.shared.coEvent = some e ∧ s'.shared.runStatus = s.shared.runStatus)) := by
  have hS := slots_of_reachable h
  have hR := rounds_of_reachable h
  have hone : ∀ e n n' v v', s.call n = .notified (some e) v 0 →
      s.call n' = .notified (some e) v' 0 → n = n' := by
    intro e n n' v v' hn hn'
    exact hS.unique n n' e (by rw [hn]; rfl) (by rw [hn']; rfl)
  refine ⟨hone, fun i f st x hi => ?_, hR.live, fun i a s' hs hi e he => ?_⟩
  · obtain ⟨hcomp, hval, hempty⟩ := completed_iff hS hR hi
    refine ⟨hcomp.trans ⟨?_, fun ⟨n, ⟨v, hn⟩, _⟩ => ⟨n, v, hn⟩⟩, hval, hempty⟩
    rintro ⟨n, v, hn⟩
    exact ⟨n, ⟨v, hn⟩, fun n' ⟨v', hn'⟩ => hone i n' n v' v hn' hn⟩
  · rw [next, Option.map_eq_some_iff] at hs
    obtain ⟨⟨sh, fr⟩, hs, rfl⟩ := hs
    have hsh : sh = s.shared.unbind i := by
      cases hc : s.call i <;> rw [hc] at hi hs <;> try cases hi
      all_goals
        rw [Frame.step] at hs
        split at hs
        · cases hs
          rfl
        · cases hs
    subst hsh
    exact ⟨by rw [unbind_event], unbind_keeps s.shared he⟩

end Pairing

/-- The first wait is notified, and a second wait takes the slot before the first one goes on. -/
def evictedRun : List (Label ℕ ℕ) :=
  [[.wait 0 .options], List.replicate 6 (.advance 0 {}), [.notify 1 (some 7)],
    List.replicate 5 (.advance 1 {}), [.wait 2 .options], List.replicate 3 (.advance 2 {}),
    List.replicate 2 (.advance 0 {})].flatten

/-- A round is completed with the payload of its notification although a newer wait has taken
the slot in between. -/
theorem notifications_paired_evicted : ∃ s : State ℕ ℕ, (system ℕ ℕ).Reachable s ∧
    s.call 0 = .returned .options (.status .completed (some 7)) ∧
    s.shared.coEvent = some 2 ∧ ∃! n, ∃ v, s.call n = .notified (some 0) v 0 := by
  have hrun : (system ℕ ℕ).endsIn init evictedRun
      (fun s => s.call 0 = .returned .options (.status .completed (some 7)) ∧
        s.shared.coEvent = some 2) = true := by
    decide +kernel
  obtain ⟨s, hs, hret, hslot⟩ := System.exists_of_endsIn rfl hrun
  exact ⟨s, hs, hret, hslot, (((notifications_paired hs).2.1 0 _ _ _ hret).1).mp rfl⟩

end BbtCoroutine.CoWaiter
