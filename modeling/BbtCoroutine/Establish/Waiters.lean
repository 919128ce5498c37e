import BbtCoroutine.Establish.Frame

/-!
# The waits in a waiter and the waits of the coroutine

A wait that is refused or fails is undone: no event is awaited, and no slot holds an event of the
attempt.  The exception is the slot of a descriptor that cannot be made: nobody catches what
`InitFdEvent` throws then, and the event stays in `m_await_event`.
-/

namespace BbtCoroutine.Establish

open Effects Code
open BoundedWait (intMax toInt)
open CoWaiter (Status)

/-! ## Waiters -/

/-- An attempt that began in `s` is undone, and no slot holds an event of it. -/
structure Undone (s t : State) : Prop extends Frame s t where
  awaitEvent : t.awaitEvent = none
  slot : ∀ w k, s.events ≤ k → t.slot w ≠ some (.own k)

section

variable {s t u : State} {a : Answer} {w : Obj} {k : ℕ}

/-- The slots that hold an event of the attempt that began in `s`. -/
def State.OnlyIn (s t : State) (w : Obj) (k : ℕ) : Prop :=
  ∀ w' k', s.events ≤ k' → t.slot w' = some (.own k') → w' = w ∧ k' = k

@[simp] lemma setSlot_self (e : Option Obj) : (s.setSlot w e).slot w = e :=
  Function.update_self ..

/-- Setting a slot leaves the others alone. -/
lemma setSlot_of_ne {w' : Obj} {e : Option Obj} (h : w' ≠ w) :
    (s.setSlot w e).slot w' = s.slot w' :=
  Function.update_of_ne h ..

/-- Only a slot differs after it has been set. -/
lemma frame_setSlot (e : Option Obj) : Frame s (s.setSlot w e) :=
  ⟨rfl, rfl, rfl, le_rfl, rfl, rfl, rfl, rfl⟩

/-- Only a slot differs after it has been cleared. -/
lemma frame_clearSlot : Frame s (s.clearSlot w k) := by
  unfold State.clearSlot
  split
  · exact frame_setSlot none
  · exact .refl s

/-- Clearing a slot leaves the await event as it is. -/
lemma awaitEvent_clearSlot : (s.clearSlot w k).awaitEvent = s.awaitEvent := by
  unfold State.clearSlot
  split <;> rfl

/-- What is in a slot after `clearSlot` was there before. -/
lemma of_clearSlot {w' : Obj} {k' : ℕ} (h : (s.clearSlot w k).slot w' = some (.own k')) :
    s.slot w' = some (.own k') ∧ ¬(w' = w ∧ k' = k) := by
  unfold State.clearSlot at h
  split at h
  · by_cases hw : w' = w
    · rw [hw, setSlot_self] at h
      cases h
    · rw [setSlot_of_ne hw] at h
      exact ⟨h, fun hc => hw hc.1⟩
  · rename_i hne
    refine ⟨h, ?_⟩
    rintro ⟨rfl, rfl⟩
    exact hne h

/-- What others do to the waiter puts no event of the attempt anywhere. -/
lemma meets_meanwhile {E P : State → Prop} (h : s.OnlyIn t w k) :
    Meets (meanwhile a w) t
      (fun _ u => Frame t u ∧ u.awaitEvent = t.awaitEvent ∧ s.OnlyIn u w k) E P := by
  unfold meanwhile
  split
  · exact Meets.pure ⟨.refl t, rfl, h⟩
  · rename_i e _
    refine Meets.modify ⟨frame_setSlot _, rfl, fun w' k' hk hw => ?_⟩
    by_cases hww : w' = w
    · rw [hww, setSlot_self] at hw
      obtain ⟨n, -, hn⟩ := Option.map_eq_some_iff.mp hw
      cases hn
    · rw [setSlot_of_ne hww] at hw
      exact h w' k' hk hw

/-- The yield of a wait fails only as a whole. -/
lemma meets_suspendIn {α : Type} {heap : Bool} (hst : Frame s t) (hr : s.runStatus = .running)
    (hy : s.onYield = false) (h : s.OnlyIn t w k) :
    Meets (suspendIn a w k heap : Code State α) t (fun _ _ => False) (fun u => Undone s u)
      fun _ => True := by
  refine Meets.call (F := fun _ => False) (G := fun _ => False) (meets_meanwhile h) ?_
    (fun _ h => h.elim) fun _ h => h.elim
  rintro - u ⟨hF, -, hu⟩
  have hsu := hst.trans hF
  -- the handler empties the slot, if it still holds the event
  have hback : ∀ v, Frame u v → v.slot = u.slot → Meets (do
      setAwaitEvent none
      guarded .notify (modify fun s => s.clearSlot w k)) v
      (fun _ v => Undone s v) (fun v => Undone s v) fun v => Undone s v := by
    intro v hv hslot
    refine Meets.call (F := fun _ => False) (G := fun _ => False) (meets_setAwaitEvent none) ?_
      (fun _ h => h.elim) fun _ h => h.elim
    rintro - v' rfl
    refine meets_guarded (Meets.modify ⟨?_, awaitEvent_clearSlot, fun w' k' hk hw => ?_⟩)
    · refine (hsu.trans hv).trans (Frame.trans (t := { v with awaitEvent := none }) ?_ ?_)
      · exact ⟨rfl, rfl, rfl, le_rfl, rfl, rfl, rfl, rfl⟩
      · exact Frame.guarded (l := .notify) frame_clearSlot
    · obtain ⟨hw', hne⟩ := of_clearSlot hw
      rw [show _ = u.slot from hslot] at hw'
      exact hne (hu w' k' hk hw')
  refine Meets.onThrow (Meets.call meets_allocateIf ?_ ?_ fun _ h => h)
  · rintro - v rfl
    refine (meets_yieldWithCallback (hsu.runStatus.trans hr) (hsu.onYield.trans hy)).mono
      (fun _ _ h => h) (fun v hv => ?_) fun _ h => h
    exact hback v hv.toFrame hv.slot
  · rintro v rfl
    exact hback u (.refl u) rfl

/-- What an attempt needs of the state it begins in. -/
structure Idle (s : State) : Prop where
  running : s.runStatus = .running
  awaitEvent : s.awaitEvent = none
  onYield : s.onYield = false
  slot : ∀ w k, s.slot w = some (.own k) → k < s.events

/-- An idle coroutine awaits nothing. -/
lemma Idle.awaits (hs : Idle s) : Awaits s s none := by
  rw [← hs.awaitEvent]
  exact .refl s

/-- An attempt that has not touched the slots. -/
lemma Awaits.undone (h : Awaits s t none) (hs : Idle s) : Undone s t :=
  ⟨h.toFrame, h.awaitEvent, fun w k hk hw =>
    absurd (hs.slot w k ((congrFun h.slot w).symm.trans hw)) (not_lt.mpr hk)⟩

/-- What is done to the slots under the mutex of the waiter. -/
lemma Awaits.guarded {e : Option Obj} {l : Lock} (h : Awaits (s.hold l) t e) :
    Awaits s (t.release l) e :=
  ⟨h.toFrame.guarded, h.slot, h.awaitEvent⟩

/-- The event is put into an empty slot. -/
lemma onlyIn_setSlot (hs : Idle s) (ht : t.slot = s.slot) (k : ℕ) :
    s.OnlyIn (t.setSlot w (some (.own k))) w k := by
  intro w' k' hk hw
  by_cases hww : w' = w
  · rw [hww, setSlot_self] at hw
    cases hw
    exact ⟨hww, rfl⟩
  · rw [setSlot_of_ne hww, ht] at hw
    exact absurd (hs.slot w' k' hw) (not_lt.mpr hk)

/-- An empty slot is emptied. -/
lemma slot_setSlot_none (h : s.slot w = none) : (s.setSlot w none).slot = s.slot := by
  unfold State.setSlot
  rw [← h]
  exact Function.update_eq_self w s.slot

/-- A wait that returns a number is refused or fails without a trace. -/
lemma meets_waitIn {timeout : Option ℤ} {heap : Bool} (hs : Idle s) :
    Meets (waitIn a w timeout heap) s (fun _ t => Undone s t ∧ t.slot = s.slot)
      (fun t => Undone s t) fun _ => True := by
  refine Meets.bind (meets_guarded (Meets.bind (Meets.gets (Meets.ite (fun _ => ?_) fun hw => ?_))))
  · refine Meets.pure (Meets.pure ?_)
    rw [release_hold]
    exact ⟨hs.awaits.undone hs, rfl⟩
  · have hempty : s.slot w = none := not_not.mp hw
    refine Meets.call (meets_registCustom (s := s.hold .notify) hs.awaitEvent timeout) ?_ ?_
      fun _ h => h
    · rintro e t ⟨hT, -, -⟩
      have hU : Awaits s (t.release .notify) (e.map .own) := hT.guarded
      refine Meets.bind (Meets.modify (Meets.pure ?_))
      cases e with
      | none =>
        have hslot : (t.setSlot w none).slot = s.slot :=
          (slot_setSlot_none ((congrFun hT.slot w).trans hempty)).trans hT.slot
        have hV : Awaits s ((t.setSlot w none).release .notify) none :=
          ⟨hU.toFrame.trans (frame_setSlot none), hslot, hU.awaitEvent⟩
        exact Meets.pure ⟨hV.undone hs, hslot⟩
      | some k =>
        refine (meets_suspendIn (s := s) ?_ hs.running hs.onYield ?_).mono
          (fun _ _ h => h.elim) (fun _ h => h) fun _ h => h
        · exact hU.toFrame.trans (frame_setSlot (w := w) (some (.own k)))
        · exact onlyIn_setSlot (t := t) hs hT.slot k
    · rintro t ⟨hT, -⟩
      exact hT.guarded.undone hs

/-- What the making of an event for a status leaves. -/
def StatusPost (s : State) (e : Status ⊕ ℕ) (t : State) : Prop :=
  match e with
  | .inl _ => Awaits s t none
  | .inr k => Awaits s t (some (.own k))

/-- What the checks leave: the slot is occupied, or there is no trace. -/
def EntryPost (s : State) (w : Obj) (e : Status ⊕ ℕ) (t : State) : Prop :=
  match e with
  | .inl _ => Undone s t
  | .inr k => Frame s t ∧ s.OnlyIn t w k

/-- The forms that return a status: a refusal or a failure leaves no trace. -/
lemma meets_statusEntry {regist : Code State (Status ⊕ ℕ)} (hs : Idle s)
    (h : a.cancelRequested = false → a.expired = false → s.slot w = none ∨ a.final = true →
      Meets regist ((s.hold .notify).setSlot w none)
        (StatusPost ((s.hold .notify).setSlot w none))
        (fun t => Awaits ((s.hold .notify).setSlot w none) t none) fun _ => False) :
    Meets (statusEntry a w regist) s (EntryPost s w) (fun t => Undone s t) fun _ => False := by
  -- the slot is emptied, and the event is taken back
  have hback : ∀ t, Awaits ((s.hold .notify).setSlot w none) t none →
      Undone s (t.release .notify) := by
    intro t hT
    have hF : Frame (s.hold .notify) t := (frame_setSlot none).trans hT.toFrame
    refine ⟨hF.guarded, hT.awaitEvent, fun w' k hk hw => ?_⟩
    have hw' := (congrFun hT.slot w').symm.trans hw
    by_cases hww : w' = w
    · rw [hww, setSlot_self] at hw'
      cases hw'
    · rw [setSlot_of_ne hww] at hw'
      exact absurd (hs.slot w' k hw') (not_lt.mpr hk)
  have hrefuse : ∀ st : Status, Meets (pure (.inl st) : Code State (Status ⊕ ℕ)) (s.hold .notify)
      (fun e t => EntryPost s w e (t.release .notify)) (fun t => Undone s (t.release .notify))
      fun _ => False := by
    intro st
    refine Meets.pure ?_
    rw [release_hold]
    exact hs.awaits.undone hs
  refine meets_guarded (Meets.bind (Meets.gets ?_))
  refine Meets.ite (fun _ => hrefuse _) fun hcancel => ?_
  refine Meets.ite (fun _ => hrefuse _) fun hexpired => ?_
  refine Meets.ite (fun _ => hrefuse _) fun hfree => ?_
  have hslot : s.slot w = none ∨ a.final = true := by
    by_cases hw : s.slot w = none
    · exact .inl hw
    · exact .inr (Bool.eq_true_of_not_eq_false fun hf => hfree ⟨hw, hf⟩)
  refine Meets.bind (Meets.modify ?_)
  refine Meets.call (h (Bool.eq_false_iff.mpr hcancel) (Bool.eq_false_iff.mpr hexpired) hslot)
    ?_ (fun t hT => hback t hT) fun _ h => h
  rintro (st | k) t hT
  · exact Meets.pure (hback t hT)
  · refine Meets.bind (Meets.modify (Meets.pure ⟨?_, fun w' k' hk hw => ?_⟩))
    · exact Frame.guarded (((frame_setSlot none).trans hT.toFrame).trans (frame_setSlot _))
    · by_cases hww : w' = w
      · rw [hww] at hw
        cases (setSlot_self (s := t) (some (.own k))).symm.trans hw
        exact ⟨hww, rfl⟩
      · have hw' := (setSlot_of_ne (s := t) hww).symm.trans hw
        rw [hT.slot, setSlot_of_ne hww] at hw'
        exact absurd (hs.slot w' k' hw') (not_lt.mpr hk)

/-- What follows the checks of the forms that return a status. -/
lemma meets_afterEntry (hs : Idle s) {e : Status ⊕ ℕ} (he : EntryPost s w e t) :
    Meets (afterEntry a w e) t (fun _ t => Undone s t) (fun t => Undone s t) fun _ => True := by
  cases e with
  | inl st => exact Meets.pure he
  | inr k =>
    exact (meets_suspendIn he.1 hs.running hs.onYield he.2).mono (fun _ _ h => h.elim)
      (fun _ h => h) fun _ h => h

/-- A wait with options leaves nothing behind, however it ends. -/
lemma meets_waitOptions (hs : Idle s) :
    Meets (waitOptions a w) s (fun _ t => Undone s t) (fun t => Undone s t) fun _ => True := by
  refine Meets.call (meets_statusEntry hs fun _ _ _ => ?_)
    (fun e t he => meets_afterEntry hs he) (fun _ h => h) fun _ h => h.elim
  refine Meets.call (G := fun _ => False)
    (meets_registCustom (s := (s.hold .notify).setSlot w none) hs.awaitEvent _) ?_
    (fun _ h => h.1) fun _ h => h
  rintro e t ⟨hT, -⟩
  cases e with
  | none => exact Meets.pure hT
  | some k => exact Meets.pure hT

/-- The combined form gets as far as the slot of the descriptor, once it makes its event. -/
def Answer.CombinedReaches (a : Answer) (fd : ℤ) (wantFd : Bool) : Prop :=
  a.fails .event = false ∧ a.cancelledCustom = false ∧ a.cancelledFd = false ∧ 0 ≤ fd ∧
    0 < a.remainMs ∧ (wantFd = true ∨ a.timeoutMs ≠ none)

/-- A combined registration that does not throw has a status. -/
lemma meets_combinedRegist {fd : ℤ} {wantFd : Bool} (hs : s.awaitEvent = none)
    (h : ¬(a.CombinedReaches fd wantFd ∧ a.fails .fdSlot = true)) :
    Meets (combinedRegist a fd wantFd) s (StatusPost s) (fun t => Awaits s t none)
      fun _ => False := by
  have hsame : Awaits s s none := by
    rw [← hs]
    exact .refl s
  refine Meets.ite (fun _ => Meets.pure hsame) fun hremain => ?_
  refine Meets.call (G := fun _ => False) (meets_registCustom hs none) ?_
    (fun _ h => h.1) fun _ h => h
  rintro e t ⟨hT, hnew, -⟩
  cases e with
  | none => exact Meets.pure hT
  | some k =>
    obtain ⟨-, hevent, hcustom⟩ := hnew k rfl
    refine Meets.ite (fun _ => Meets.pure hT) fun hlisten => ?_
    have hwant : wantFd = true ∨ a.timeoutMs ≠ none := by
      by_cases hw : wantFd = true
      · exact .inl hw
      · exact .inr fun ht => hlisten ⟨Bool.eq_false_iff.mpr hw, ht⟩
    refine Meets.call (G := fun _ => False) meets_initFdEvent ?_ ?_ fun _ h => h
    · intro ret u hU
      refine Meets.call (F := fun _ => False) (G := fun _ => False)
        (meets_afterInit (hU.awaitEvent.trans hT.awaitEvent)) ?_ (fun _ h => h.elim) fun _ h => h
      rintro e v ⟨hV, -, -⟩
      have hsv : Awaits s v (e.map .own) := (hT.trans hU).trans hV
      cases e with
      | none => exact Meets.pure hsv
      | some j => exact Meets.pure hsv
    · rintro u ⟨-, hfd, -, hcancel, hf⟩
      exact absurd ⟨⟨hevent, hcustom, hcancel, hfd, not_le.mp hremain, hwant⟩, hf⟩ h

/-- A combined wait that does not throw leaves nothing behind. -/
lemma meets_waitCombined {fd : ℤ} {wantFd : Bool} (hs : Idle s)
    (h : a.cancelRequested = false → a.expired = false → s.slot w = none ∨ a.final = true →
      ¬(a.CombinedReaches fd wantFd ∧ a.fails .fdSlot = true)) :
    Meets (waitCombined a w fd wantFd) s (fun _ t => Undone s t) (fun t => Undone s t)
      fun _ => True := by
  refine Meets.ite (fun _ => Meets.pure (hs.awaits.undone hs)) fun _ => ?_
  refine Meets.call (meets_statusEntry hs fun hc he hw => ?_)
    (fun e t he => meets_afterEntry hs he) (fun _ h => h) fun _ h => h.elim
  exact meets_combinedRegist (s := (s.hold .notify).setSlot w none) hs.awaitEvent (h hc he hw)

/-! ## The waits of the coroutine -/

/-- The fd waits of `Coroutine` get as far as the slot of the descriptor. -/
def Answer.ReachesFd (a : Answer) (fd timeout : ℤ) : Prop :=
  a.cancelRequested = false ∧ a.fails .event = false ∧ a.cancelledFd = false ∧ 0 ≤ timeout ∧ 0 ≤ fd

/-- A yield that does not throw leaves nothing behind. -/
lemma meets_yieldUntil {fd timeout : ℤ} (hs : Idle s)
    (h : ¬(a.ReachesFd fd timeout ∧ a.fails .fdSlot = true)) :
    Meets (yieldUntil a fd timeout) s (fun _ t => Undone s t) (fun t => Undone s t)
      fun _ => True := by
  refine Meets.ite (fun _ => Meets.pure (hs.awaits.undone hs)) fun hcancel => ?_
  refine Meets.call meets_create ?_ ?_ fun _ h => h
  swap
  · rintro t ⟨rfl, -⟩
    exact hs.awaits.undone hs
  rintro k t ⟨rfl, rfl, hevent⟩
  refine Meets.call (F := fun _ => False) (G := fun _ => False) (meets_setAwaitEvent _) ?_
    (fun _ h => h.elim) fun _ h => h.elim
  rintro - t rfl
  have hpub := awaits_publish (s := s) s.events
  refine Meets.call meets_initFdEvent ?_ ?_ fun _ h => h
  · intro ret t hT
    refine Meets.call (F := fun _ => False) (G := fun _ => False)
      (meets_afterInit hT.awaitEvent) ?_ (fun _ h => h.elim) fun _ h => h.elim
    rintro e u ⟨hU, -, -⟩
    have hsu : Awaits s u (e.map .own) := (hpub.trans hT).trans hU
    refine Meets.ite (fun he => ?_) fun _ => ?_
    · rw [he] at hsu
      exact Meets.pure (hsu.undone hs)
    · refine (meets_yieldWithCallback (hsu.runStatus.trans hs.running)
        (hsu.onYield.trans hs.onYield)).mono (fun _ _ h => h.elim) ?_ fun _ h => h
      intro v hV
      exact (hsu.trans hV).undone hs
  · rintro t ⟨-, hfd, ht, hc, hf⟩
    exact absurd ⟨⟨Bool.eq_false_iff.mpr hcancel, hevent, hc, ht, hfd⟩, hf⟩ h

/-- Where the slot of the descriptor cannot be made, the event stays behind. -/
lemma meets_yieldUntil_throws {fd timeout : ℤ} (h : a.ReachesFd fd timeout)
    (hf : a.fails .fdSlot = true) :
    Meets (yieldUntil a fd timeout) s (fun _ _ => False) (fun t => t.awaitEvent ≠ none)
      fun _ => False := by
  obtain ⟨hcancel, hevent, hc, ht, hfd⟩ := h
  refine Meets.ite (fun h => absurd (hcancel.symm.trans h) Bool.false_ne_true) fun _ => ?_
  refine Meets.call meets_create ?_ ?_ fun _ h => h
  swap
  · rintro t ⟨-, h⟩
    exact absurd (hevent.symm.trans h) Bool.false_ne_true
  rintro k t ⟨rfl, rfl, -⟩
  refine Meets.call (F := fun _ => False) (G := fun _ => False) (meets_setAwaitEvent _) ?_
    (fun _ h => h.elim) fun _ h => h.elim
  rintro - t rfl
  refine Meets.call (meets_initFdEvent_throws (Function.update_self ..) hc ht hfd hf)
    (fun _ _ h => h.elim) ?_ fun _ h => h
  intro t hT
  rw [hT]
  exact Option.some_ne_none _

/-- The same for the combined form. -/
lemma meets_combinedRegist_throws {fd : ℤ} {wantFd : Bool} (hs : s.awaitEvent = none)
    (h : a.CombinedReaches fd wantFd) (hf : a.fails .fdSlot = true) :
    Meets (combinedRegist a fd wantFd) s (fun _ _ => False) (fun t => t.awaitEvent ≠ none)
      fun _ => False := by
  obtain ⟨hevent, hcustom, hc, hfd, hremain, hwant⟩ := h
  have hms : 0 ≤ a.timeoutMs.getD 0 := by
    unfold Answer.timeoutMs
    split
    · rename_i hlt
      unfold intMax at hlt
      rw [Option.getD_some]
      unfold toInt
      rw [Int.bmod_eq_of_le (by omega) (by omega)]
      exact hremain.le
    · exact le_rfl
  refine Meets.ite (fun h => absurd hremain (not_lt.mpr h)) fun _ => ?_
  refine Meets.call (G := fun _ => False) (meets_registCustom hs none) ?_ ?_ fun _ h => h
  swap
  · rintro t ⟨-, h⟩
    exact absurd (hevent.symm.trans h) Bool.false_ne_true
  rintro e t ⟨hT, -, hmade⟩
  obtain ⟨rfl, hround⟩ := hmade rfl hcustom
  refine Meets.ite (fun h => ?_) fun _ => ?_
  · rcases hwant with hw | hw
    · exact absurd (h.1.symm.trans hw) Bool.false_ne_true
    · exact absurd h.2 hw
  · refine Meets.call (meets_initFdEvent_throws hround hc hms hfd hf) (fun _ _ h => h.elim) ?_
      fun _ h => h
    intro u hU
    rw [hU, hT.awaitEvent]
    exact Option.some_ne_none _

/-- A combined wait whose slot throws leaves the await event behind. -/
lemma meets_waitCombined_throws {w : Obj} {fd : ℤ} {wantFd : Bool} (hs : s.awaitEvent = none)
    (hcancel : a.cancelRequested = false) (hexpired : a.expired = false)
    (hslot : s.slot w = none ∨ a.final = true) (h : a.CombinedReaches fd wantFd)
    (hf : a.fails .fdSlot = true) :
    Meets (waitCombined a w fd wantFd) s (fun _ _ => False) (fun t => t.awaitEvent ≠ none)
      fun _ => False := by
  refine Meets.ite (fun hbad => absurd hbad.2 (not_lt.mpr h.2.2.2.1)) fun _ => ?_
  refine Meets.bind (meets_guarded (Meets.bind (Meets.gets ?_)))
  refine Meets.ite (fun h => absurd (hcancel.symm.trans h) Bool.false_ne_true) fun _ => ?_
  refine Meets.ite (fun h => absurd (hexpired.symm.trans h) Bool.false_ne_true) fun _ => ?_
  refine Meets.ite (fun h => ?_) fun _ => ?_
  · rcases hslot with hw | hw
    · exact absurd hw h.1
    · exact absurd (h.2.symm.trans hw) Bool.false_ne_true
  · refine Meets.bind (Meets.modify ?_)
    exact Meets.call
      (meets_combinedRegist_throws (s := (s.hold .notify).setSlot w none) hs h hf)
      (fun _ _ h => h.elim) (fun _ h => h) fun _ h => h

end

end BbtCoroutine.Establish
