import BbtCoroutine.CoWaiter.Model

/-!
# The slot of a `CoWaiter`

The slot names the round of a wait under way; a notification under way is for the round in
the slot; and a round is the target of at most one notification, because the first one leaves
the run status active before it lets go of the mutex.
-/

namespace BbtCoroutine.CoWaiter

open Transition Coroutine

namespace Frame

variable {ι V : Type*}

/-- The call holds `m_notify_mutex`. -/
@[grind] def locked : Frame ι V → Bool
  | create _ | publish _ | notifyValue _ _ | notifyStatus _ _ | notifyTrigger _ _
  | notifyUnlock _ _ _ => true
  | _ => false

/-- The call is a wait that has put its round into the slot and has not cleaned up yet. -/
@[grind] def bound : Frame ι V → Bool
  | yield _ | threw _ | regist _ | commit _ | parked _ | resumed _ _ _ => true
  | _ => false

/-- The call is a wait whose round may still be decided. -/
@[grind] def waiting : Frame ι V → Bool
  | yield _ | regist _ | commit _ | parked _ => true
  | _ => false

/-- The call is a wait that has found the slot free and makes its event. -/
@[grind] def preparing : Frame ι V → Bool
  | create _ | publish _ => true
  | _ => false

/-- The call is a wait that has returned. -/
@[grind] def hasReturned : Frame ι V → Bool
  | returned _ _ => true
  | _ => false

/-- The round that a notification is for. -/
@[grind] def target : Frame ι V → Option ι
  | notifyValue e _ | notifyStatus e _ | notifyTrigger e _ | notifyUnlock e _ _ => some e
  | notified e _ _ => e
  | _ => none

/-- A wait holds the mutex while it makes its event. -/
@[grind →] lemma locked_of_preparing {f : Frame ι V} (h : f.preparing = true) :
    f.locked = true := by
  cases f <;> first | rfl | cases h

/-- The notification has not changed the run status yet. -/
@[grind] def beforeStatus : Frame ι V → Bool
  | notifyValue _ _ | notifyStatus _ _ => true
  | _ => false

end Frame

variable {ι V : Type*} [DecidableEq ι]

section Shared

variable (sh : Shared ι V) (e j : ι) (r : Round) (v : V)

@[simp, grind =] lemma setRound_event : (sh.setRound e r).event j =
    if j = e then { sh.event e with round := r } else sh.event j := by
  by_cases h : j = e <;> simp [Shared.setRound, h]

@[simp, grind =] lemma setNotifyValue_event : (sh.setNotifyValue e v).event j =
    if j = e then { sh.event e with notifyValue := v } else sh.event j := by
  by_cases h : j = e <;> simp [Shared.setNotifyValue, h]

@[simp, grind =] lemma make_event [Inhabited V] : (sh.make e).event j =
    if j = e then { made := true, notifyValue := default } else sh.event j := by
  by_cases h : j = e <;> simp [Shared.make, h]

@[simp, grind =] lemma unbind_event : (sh.unbind e).event = sh.event := by
  unfold Shared.unbind
  split <;> rfl

@[simp, grind =] lemma unbind_notifyMutex : (sh.unbind e).notifyMutex = sh.notifyMutex := by
  unfold Shared.unbind
  split <;> rfl

/-- The clean-up of one round leaves the slot of every other round and its run status. -/
lemma unbind_keeps {e j : ι} (hj : j ≠ e) (h : sh.coEvent = some j) :
    (sh.unbind e).coEvent = some j ∧ (sh.unbind e).runStatus = sh.runStatus := by
  have : sh.coEvent ≠ some e := by
    rw [h]
    exact fun hje => hj (Option.some.inj hje)
  rw [Shared.unbind, if_neg this]
  exact ⟨h, rfl⟩

end Shared

/-- What the registration of an event does to its round and to the wait. -/
lemma regist_spec {sh sh' : Shared ι V} {i : ι} {a : Answer} {f : Form} {fr : Frame ι V}
    (h : regist sh i a f = (sh', fr)) :
    ∃ r, (r = (sh.event i).round.unRegist ∨ r = (sh.event i).round.regist) ∧
      sh' = sh.setRound i r ∧
      ((isFinal r = true ∧ fr = .resumed f false 0) ∨ (isFinal r = false ∧ fr = .commit f)) := by
  rw [regist] at h
  generalize hr : (if a.registFails then (sh.event i).round.unRegist
    else (sh.event i).round.regist) = r at h
  cases h
  refine ⟨r, ?_, rfl, ?_⟩
  · split at hr
    · exact .inl hr.symm
    · exact .inr hr.symm
  · cases hf : isFinal r
    · exact .inr ⟨rfl, rfl⟩
    · exact .inl ⟨rfl, rfl⟩

/-- The invariant of the slot. -/
structure Slots (s : State ι V) : Prop where
  mutex : ∀ i, (s.call i).locked = true ↔ s.shared.notifyMutex = some i
  slot : ∀ e, s.shared.coEvent = some e → (s.call e).bound = true
  vacant : ∀ i, (s.call i).preparing = true → s.shared.coEvent = none
  holds : ∀ n e, (s.call n).locked = true → (s.call n).target = some e →
    s.shared.coEvent = some e
  begun : ∀ n e, (s.call n).target = some e →
    (s.call e).bound = true ∨ (s.call e).hasReturned = true
  unique : ∀ n n' e, (s.call n).target = some e → (s.call n').target = some e → n = n'
  fresh : ∀ n e, (s.call n).target = some e → s.shared.coEvent = some e →
    s.shared.runStatus = .condWait → (s.call n).beforeStatus = true

namespace Slots

variable {s : State ι V}

/-- A step of the call `i` that leaves the mutex, the slot and the run status as they are, and
keeps what the call is to them. -/
lemma keep (h : Slots s) {i : ι} {sh : Shared ι V} {fr : Frame ι V}
    (hm : sh.notifyMutex = s.shared.notifyMutex) (hc : sh.coEvent = s.shared.coEvent)
    (hr : sh.runStatus = s.shared.runStatus) (hl : fr.locked = (s.call i).locked)
    (ht : fr.target = (s.call i).target) (hst : fr.beforeStatus = (s.call i).beforeStatus)
    (hp : fr.preparing = true → (s.call i).preparing = true)
    (hb : (s.call i).bound = true → fr.bound = true)
    (hd : (s.call i).hasReturned = true → fr.hasReturned = true) :
    Slots ⟨sh, Function.update s.call i fr⟩ := by
  have hcall : ∀ j, (Function.update s.call i fr j).locked = (s.call j).locked ∧
      (Function.update s.call i fr j).target = (s.call j).target ∧
      (Function.update s.call i fr j).beforeStatus = (s.call j).beforeStatus ∧
      ((s.call j).bound = true → (Function.update s.call i fr j).bound = true) ∧
      ((s.call j).hasReturned = true → (Function.update s.call i fr j).hasReturned = true) := by
    intro j
    by_cases hj : j = i
    · subst hj
      simpa using ⟨hl, ht, hst, hb, hd⟩
    · simp [hj]
  refine ⟨fun j => ?_, fun e he => ?_, fun j hj => ?_, fun n e hn he => ?_, fun n e hn => ?_,
    fun n n' e hn hn' => ?_, fun n e hn he hw => ?_⟩
  · rw [(hcall j).1, hm]
    exact h.mutex j
  · exact (hcall e).2.2.2.1 (h.slot e (hc ▸ he))
  · rw [hc]
    by_cases hji : j = i
    · subst hji
      exact h.vacant j (hp (by simpa using hj))
    · exact h.vacant j (by simpa [hji] using hj)
  · rw [hc]
    exact h.holds n e ((hcall n).1 ▸ hn) ((hcall n).2.1 ▸ he)
  · rw [(hcall n).2.1] at hn
    exact (h.begun n e hn).imp (hcall e).2.2.2.1 (hcall e).2.2.2.2
  · exact h.unique n n' e ((hcall n).2.1 ▸ hn) ((hcall n').2.1 ▸ hn')
  · rw [(hcall n).2.2.1]
    exact h.fresh n e ((hcall n).2.1 ▸ hn) (hc ▸ he) (hr ▸ hw)

omit [DecidableEq ι] in
/-- While nobody holds the mutex and the slot awaits a notification, no call has notified its
round. -/
lemma target_ne (h : Slots s) {e : ι} (hm : s.shared.notifyMutex = none)
    (he : s.shared.coEvent = some e) (hw : s.shared.runStatus = .condWait) (n : ι) :
    (s.call n).target ≠ some e := by
  intro hn
  have hb := h.fresh n e hn he hw
  have hl : (s.call n).locked = true := by
    cases hc : s.call n <;> simp [hc, Frame.beforeStatus] at hb <;> rfl
  rw [(h.mutex n).mp hl] at hm
  cases hm

/-- A step of the call `i` while no other call holds the mutex. -/
lemma alone (h : Slots s) {i : ι} {sh : Shared ι V} {fr : Frame ι V}
    (hm : s.shared.notifyMutex = none ∨ s.shared.notifyMutex = some i)
    (hl : sh.notifyMutex = if fr.locked then some i else none)
    (hslot : ∀ e, sh.coEvent = some e →
      e = i ∧ fr.bound = true ∨ e ≠ i ∧ s.shared.coEvent = some e)
    (hvacant : fr.preparing = true → sh.coEvent = none)
    (hholds : ∀ e, fr.locked = true → fr.target = some e → sh.coEvent = some e)
    (hbegun : (s.call i).bound = true ∨ (s.call i).hasReturned = true →
      fr.bound = true ∨ fr.hasReturned = true)
    (htarget : ∀ e, fr.target = some e → (s.call i).target = some e ∨
      s.shared.coEvent = some e ∧ ∀ n, (s.call n).target ≠ some e)
    (hfresh : ∀ e, fr.target = some e → sh.coEvent = some e → sh.runStatus = .condWait →
      fr.beforeStatus = true)
    (hothers : ∀ n e, n ≠ i → (s.call n).target = some e → sh.coEvent = some e →
      sh.runStatus = .condWait → (s.call n).beforeStatus = true) :
    Slots ⟨sh, Function.update s.call i fr⟩ := by
  have hfree : ∀ j, j ≠ i → (s.call j).locked = false := by
    intro j hj
    rw [Bool.eq_false_iff]
    intro hlj
    have hlj := (h.mutex j).mp hlj
    rcases hm with hm | hm <;> rw [hm] at hlj
    · cases hlj
    · exact hj (Option.some.inj hlj).symm
  have hold : ∀ e, (s.call e).bound = true ∨ (s.call e).hasReturned = true →
      (Function.update s.call i fr e).bound = true ∨
        (Function.update s.call i fr e).hasReturned = true := by
    intro e he
    by_cases hei : e = i
    · subst hei
      simpa using hbegun he
    · simpa [hei] using he
  refine ⟨fun j => ?_, fun e he => ?_, fun j hj => ?_, fun n e hn he => ?_, fun n e hn => ?_,
    fun n n' e hn hn' => ?_, fun n e hn he hw => ?_⟩
  · by_cases hj : j = i
    · subst hj
      cases hf : fr.locked <;> simp [hl, hf]
    · have hij : i ≠ j := fun hij => hj hij.symm
      cases hf : fr.locked <;> simp [hl, hf, hj, hij, hfree j hj]
  · rcases hslot e he with ⟨rfl, hb⟩ | ⟨hei, he⟩
    · simpa using hb
    · simpa [hei] using h.slot e he
  · by_cases hji : j = i
    · subst hji
      exact hvacant (by simpa using hj)
    · have hj : (s.call j).preparing = true := by simpa [hji] using hj
      have hlj := hfree j hji
      rw [Frame.locked_of_preparing hj] at hlj
      cases hlj
  · by_cases hni : n = i
    · subst hni
      exact hholds e (by simpa using hn) (by simpa using he)
    · have hn : (s.call n).locked = true := by simpa [hni] using hn
      rw [hfree n hni] at hn
      cases hn
  · refine hold e ?_
    by_cases hni : n = i
    · subst hni
      rcases htarget e (by simpa using hn) with hn | ⟨he, -⟩
      · exact h.begun n e hn
      · exact .inl (h.slot e he)
    · exact h.begun n e (by simpa [hni] using hn)
  · have hnew : ∀ m, m ≠ i → (s.call m).target = some e → fr.target ≠ some e := by
      intro m hmi hm' hfr
      rcases htarget e hfr with hi | ⟨-, hno⟩
      · exact hmi (h.unique m i e hm' hi)
      · exact hno m hm'
    by_cases hni : n = i <;> by_cases hni' : n' = i
    · rw [hni, hni']
    · subst hni
      exact absurd (by simpa using hn) (hnew n' hni' (by simpa [hni'] using hn'))
    · subst hni'
      exact absurd (by simpa using hn') (hnew n hni (by simpa [hni] using hn))
    · exact h.unique n n' e (by simpa [hni] using hn) (by simpa [hni'] using hn')
  · by_cases hni : n = i
    · subst hni
      simpa using hfresh e (by simpa using hn) he hw
    · simpa [hni] using hothers n e hni (by simpa [hni] using hn) he hw

omit [DecidableEq ι] in
/-- The slot does not hold the round of a call that is no wait. -/
lemma slot_of_notification (h : Slots s) {i : ι} (hi : (s.call i).bound = false) {fr : Frame ι V}
    (e : ι) (he : s.shared.coEvent = some e) :
    e = i ∧ fr.bound = true ∨ e ≠ i ∧ s.shared.coEvent = some e := by
  refine .inr ⟨?_, he⟩
  rintro rfl
  rw [h.slot e he] at hi
  cases hi

/-- The entry of a wait. -/
lemma enter (h : Slots s) {i : ι} {f : Form} {sh : Shared ι V} {fr : Frame ι V}
    (hi : s.call i = .wait f) (hm : s.shared.notifyMutex = none) {a : Answer}
    (hs : CoWaiter.enter s.shared i a f = (sh, fr)) : Slots ⟨sh, Function.update s.call i fr⟩ := by
  have hret : ∀ r, Slots ⟨s.shared, Function.update s.call i (.returned f r)⟩ := fun r =>
    h.keep rfl rfl rfl (by rw [hi]; rfl) (by rw [hi]; rfl) (by rw [hi]; rfl) nofun
      (by rw [hi]; nofun) (by rw [hi]; nofun)
  unfold CoWaiter.enter at hs
  split at hs
  · cases hs
    exact hret _
  · split at hs
    · cases hs
      exact hret _
    · split at hs
      · rename_i hco
        cases hs
        exact h.alone (.inl hm) rfl (by rw [hco]; nofun) (fun _ => hco) (by nofun)
          (by rw [hi]; nofun) (by nofun) (by nofun) (by rw [hco]; nofun)
      · split at hs
        · cases hs
          exact h.alone (.inl hm) rfl (by nofun) (fun _ => rfl) (by nofun)
            (by rw [hi]; nofun) (by nofun) (by nofun) (by nofun)
        · cases hs
          exact hret _

/-- The check of a notification. -/
lemma notify (h : Slots s) {i : ι} {v : Option V} {sh : Shared ι V} {fr : Frame ι V}
    (hi : s.call i = .notify v) (hm : s.shared.notifyMutex = none)
    (hs : CoWaiter.notify s.shared i v = (sh, fr)) :
    Slots ⟨sh, Function.update s.call i fr⟩ := by
  unfold CoWaiter.notify at hs
  split at hs
  · rename_i e he hw
    cases hs
    have hnew := h.target_ne hm he hw
    exact h.alone (.inl hm) rfl (h.slot_of_notification (by rw [hi]; rfl)) (by nofun)
      (fun j _ hj => Option.some.inj hj ▸ he) (by rw [hi]; nofun)
      (fun j hj => .inr (Option.some.inj hj ▸ ⟨he, hnew⟩)) (fun _ _ _ _ => rfl)
      fun n j _ hn hj hr => h.fresh n j hn hj hr
  · cases hs
    exact h.keep rfl rfl rfl (by rw [hi]; rfl) (by rw [hi]; rfl) (by rw [hi]; rfl)
      nofun (by rw [hi]; nofun) (by rw [hi]; nofun)

/-- A wait that has ended cleans up. -/
lemma unbind (h : Slots s) {i : ι} {f : Form} {r : Result V}
    (hm : s.shared.notifyMutex = none) :
    Slots ⟨s.shared.unbind i, Function.update s.call i (.returned f r)⟩ := by
  have hkept : ∀ e, (s.shared.unbind i).coEvent = some e → e ≠ i ∧ s.shared.coEvent = some e ∧
      (s.shared.unbind i).runStatus = s.shared.runStatus := by
    intro e he
    unfold Shared.unbind at he ⊢
    split_ifs at he ⊢ with hc
    · exact ⟨fun hei => hc (hei ▸ he), he, rfl⟩
  refine h.alone (.inl hm) (by rw [unbind_notifyMutex, hm]; rfl)
    (fun e he => .inr ⟨(hkept e he).1, (hkept e he).2.1⟩) (by nofun) (by nofun) (fun _ => .inr rfl)
    (by nofun) (by nofun) fun n e _ hn he hw => ?_
  obtain ⟨-, hc, hr⟩ := hkept e he
  exact h.fresh n e hn hc (hr ▸ hw)

/-- Every step of a call keeps the invariant of the slot. -/
lemma advance [Inhabited V] (h : Slots s) {i : ι} {a : Answer} {sh : Shared ι V}
    {fr : Frame ι V} (hs : (s.call i).step s.shared i a = some (sh, fr)) :
    Slots ⟨sh, Function.update s.call i fr⟩ := by
  cases hi : s.call i with
  | idle | returned f r | notified e v r =>
    rw [hi] at hs
    cases hs
  | wait f =>
    rw [hi, Frame.step] at hs
    have hret : ∀ r, Slots ⟨s.shared, Function.update s.call i (.returned f r)⟩ := fun r =>
      h.keep rfl rfl rfl (by rw [hi]; rfl) (by rw [hi]; rfl) (by rw [hi]; rfl)
        nofun (by rw [hi]; nofun) (by rw [hi]; nofun)
    split at hs
    · cases hs
      exact hret _
    · split at hs
      · cases hs
        exact hret _
      · split at hs
        · exact h.enter hi ‹_› (Option.some.inj hs)
        · cases hs
  | create f =>
    have hs : CoWaiter.create s.shared i a f = (sh, fr) := by
      rw [hi] at hs
      exact Option.some.inj hs
    unfold CoWaiter.create at hs
    have hmi : s.shared.notifyMutex = some i := (h.mutex i).mp (by rw [hi]; rfl)
    have hco : s.shared.coEvent = none := h.vacant i (by rw [hi]; rfl)
    have hret : ∀ r, Slots ⟨{ s.shared with notifyMutex := none },
        Function.update s.call i (.returned f r)⟩ := fun r =>
      h.alone (.inr hmi) rfl (by rw [hco]; nofun) (by nofun) (by nofun)
        (fun _ => .inr rfl) (by nofun) (by nofun) (by rw [hco]; nofun)
    split at hs
    · cases hs
      exact hret _
    · split at hs
      · cases hs
        exact h.keep rfl rfl rfl (by rw [hi]; rfl) (by rw [hi]; rfl) (by rw [hi]; rfl)
          (by rw [hi]; exact fun _ => rfl) (by rw [hi]; nofun) (by rw [hi]; nofun)
      · cases hs
        exact hret _
  | notify v =>
    rw [hi, Frame.step] at hs
    split at hs
    · exact h.notify hi ‹_› (Option.some.inj hs)
    · cases hs
  | publish f =>
    rw [hi] at hs
    cases hs
    have hmi : s.shared.notifyMutex = some i := (h.mutex i).mp (by rw [hi]; rfl)
    refine h.alone (.inr hmi) rfl (fun e he => .inl ⟨(Option.some.inj he).symm, rfl⟩) (by nofun)
      (by nofun) (fun _ => .inl rfl) (by nofun) (by nofun) fun n e _ hn he _ => ?_
    obtain rfl := Option.some.inj he
    -- the round of this wait has not begun, so no notification is for it
    rcases h.begun n i hn with hb | hb <;> rw [hi] at hb <;> cases hb
  | notifyStatus e v =>
    rw [hi] at hs
    cases hs
    have hmi : s.shared.notifyMutex = some i := (h.mutex i).mp (by rw [hi]; rfl)
    have he : s.shared.coEvent = some e := h.holds i e (by rw [hi]; rfl) (by rw [hi]; rfl)
    exact h.alone (.inr hmi) hmi (h.slot_of_notification (by rw [hi]; rfl)) (by nofun)
      (fun j _ hj => Option.some.inj hj ▸ he) (by rw [hi]; nofun) (fun j hj => .inl (hi ▸ hj))
      (by nofun) (by nofun)
  | notifyUnlock e v won =>
    rw [hi] at hs
    cases hs
    have hmi : s.shared.notifyMutex = some i := (h.mutex i).mp (by rw [hi]; rfl)
    refine h.alone (.inr hmi) rfl (h.slot_of_notification (by rw [hi]; rfl)) (by nofun)
      (by nofun) (by rw [hi]; nofun) (fun j hj => .inl (hi ▸ hj)) (fun j hj he hw => ?_)
      fun n j _ hn hj hr => h.fresh n j hn hj hr
    have hb := h.fresh i j (by rw [hi]; exact hj) he hw
    rw [hi] at hb
    cases hb
  | yield f =>
    rw [hi] at hs
    cases hs
    have hkeep : ∀ fr : Frame ι V, fr = .threw f ∨ fr = .regist f →
        Slots ⟨s.shared, Function.update s.call i fr⟩ := by
      rintro fr (rfl | rfl) <;>
        exact h.keep rfl rfl rfl (by rw [hi]; rfl) (by rw [hi]; rfl) (by rw [hi]; rfl)
          nofun (fun _ => rfl) (by rw [hi]; nofun)
    exact hkeep _ (by split <;> simp)
  | commit f =>
    rw [hi] at hs
    cases hs
    exact h.keep rfl rfl rfl (by rw [hi]; rfl) (by rw [hi]; rfl) (by rw [hi]; rfl)
      nofun (fun _ => rfl) (by rw [hi]; nofun)
  | regist f =>
    rw [hi] at hs
    obtain ⟨r, -, rfl, hfr⟩ := regist_spec (Option.some.inj hs)
    rcases hfr with ⟨-, rfl⟩ | ⟨-, rfl⟩ <;>
      exact h.keep rfl rfl rfl (by rw [hi]; rfl) (by rw [hi]; rfl) (by rw [hi]; rfl)
        nofun (fun _ => rfl) (by rw [hi]; nofun)
  | parked f =>
    rw [hi, Frame.step] at hs
    split at hs
    · cases hs
      exact h.keep rfl rfl rfl (by rw [hi]; rfl) (by rw [hi]; rfl) (by rw [hi]; rfl)
        nofun (fun _ => rfl) (by rw [hi]; nofun)
    · cases hs
  | threw f | resumed f ok m =>
    rw [hi, Frame.step] at hs
    split at hs
    · cases hs
      exact h.unbind ‹_›
    · cases hs
  | notifyValue e v =>
    rw [hi] at hs
    cases hs
    refine h.keep ?_ ?_ ?_ (by rw [hi]; rfl) (by rw [hi]; rfl) (by rw [hi]; rfl)
      nofun (by rw [hi]; nofun) (by rw [hi]; nofun) <;> cases v <;> rfl
  | notifyTrigger e v =>
    rw [hi] at hs
    cases hs
    exact h.keep rfl rfl rfl (by rw [hi]; rfl) (by rw [hi]; rfl) (by rw [hi]; rfl)
      nofun (by rw [hi]; nofun) (by rw [hi]; nofun)

/-- Every step keeps the invariant of the slot. -/
lemma next [Inhabited V] (h : Slots s) {s' : State ι V} {l : Label ι V}
    (hs : CoWaiter.next s l = some s') : Slots s' := by
  cases l with
  | wait i f =>
    simp only [CoWaiter.next] at hs
    split at hs
    · rename_i hi
      cases hs
      exact h.keep rfl rfl rfl (by rw [hi]; rfl) (by rw [hi]; rfl) (by rw [hi]; rfl)
        nofun (by rw [hi]; nofun) (by rw [hi]; nofun)
    · cases hs
  | notify i v =>
    simp only [CoWaiter.next] at hs
    split at hs
    · rename_i hi
      cases hs
      exact h.keep rfl rfl rfl (by rw [hi]; rfl) (by rw [hi]; rfl) (by rw [hi]; rfl)
        nofun (by rw [hi]; nofun) (by rw [hi]; nofun)
    · cases hs
  | advance i a =>
    rw [CoWaiter.next, Option.map_eq_some_iff] at hs
    obtain ⟨⟨sh, fr⟩, hs, rfl⟩ := hs
    exact h.advance hs
  | trigger e c =>
    simp only [CoWaiter.next] at hs
    split at hs
    · cases hs
      exact ⟨h.mutex, h.slot, h.vacant, h.holds, h.begun, h.unique, h.fresh⟩
    · cases hs
  | cancel =>
    cases hs
    exact ⟨h.mutex, h.slot, h.vacant, h.holds, h.begun, h.unique, fun n e _ _ hw => by cases hw⟩

end Slots

/-- The invariant of the slot holds in every reachable state. -/
theorem slots_of_reachable [Inhabited V] {s : State ι V} (h : (system ι V).Reachable s) :
    Slots s := by
  refine System.Reachable.induct ?_ (fun s l s' hI hs => hI.next hs) h
  rintro s rfl
  constructor
  · exact fun i => ⟨nofun, nofun⟩
  all_goals nofun

end BbtCoroutine.CoWaiter
