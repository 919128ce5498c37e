import BbtCoroutine.CoCond.Model

/-!
# Notifications of a condition reach live waiters

`Notifies` says what `NotifyOne` and `NotifyAll` have done when they return.  A waiter that has been
pushed and can still be woken is in the queue, or a notification has it in its hand; that invariant
is all that the statement needs.
-/

namespace BbtCoroutine.CoCond

open Transition

variable {Co A : Type*} {s t : State Co A}

/-! ## The statement -/

/-- A `NotifyAll` has taken the waiter out of the queue and is about to notify it. -/
def State.Taken (s : State Co A) (e : Waiter Co) : Prop :=
  ∃ a before, s.frame a = .allHas before e

/-- What the notifications have done. -/
structure Notifies [DecidableEq Co] [DecidableEq A] (s : State Co A) : Prop where
  /-- `NotifyOne` returns `0` if it has woken exactly one waiter, and `-1` if it has woken none. -/
  ret : ∀ a before ret woken, s.frame a = .oneDone before ret woken →
    (ret = 0 ∧ woken.length = 1) ∨ (ret = -1 ∧ woken = [])
  /-- The waiter that it has woken was still waiting; one that was not is passed over. -/
  wakes : ∀ a before e t, s.frame a = .oneHas before e → next s (.notify a) = some t →
    if s.live e then
      t.frame a = .oneDone before 0 [e] ∧ (t.wait e.1).round.won = some pollEventCustom
    else t.frame a = .oneLoop before ∧ ∀ e', t.live e' = s.live e'
  /-- It returns `-1` only if no waiter is left in the queue. -/
  none : ∀ a before woken, s.frame a = .oneDone before (-1) woken → s.waiterQueue = []
  /-- A waiter that was pushed before it began, and can still be woken when it returns, is still in
  the queue, behind the one that it has woken, or a `NotifyAll` has taken it. -/
  registered : ∀ a before ret woken, s.frame a = .oneDone before ret woken → ∀ e ∈ before,
    s.live e = true → s.Taken e ∨ e ∈ s.waiterQueue ∧
      ∃ e' l, ret = 0 ∧ woken = [e'] ∧ s.pushed = l ++ e' :: s.waiterQueue
  /-- A waiter that was pushed before a `NotifyAll` began, and can still be woken when it returns,
  has been taken by another `NotifyAll`. -/
  all : ∀ a before, s.frame a = .allDone before → ∀ e ∈ before, s.live e = true → s.Taken e
  /-- A waiter that a `NotifyAll` has taken is woken by its next step, if it is still waiting. -/
  taken : ∀ a before e, s.frame a = .allHas before e → ∃ t, next s (.notifyEach a) = some t ∧
    t.live e = false ∧ (s.live e = true → (t.wait e.1).round.won = some pollEventCustom)

/-! ## The invariant -/

/-- What holds of a notification. -/
def Frame.Fits (s : State Co A) (a : A) : Frame Co → Prop
  | .idle => True
  | .one before | .all before => ∀ e ∈ before, e ∈ s.pushed
  | .oneLoop before => s.mutex = some a ∧ ∀ e ∈ before, e ∈ s.pushed
  | .oneHas before e => s.mutex = some a ∧ (∀ e ∈ before, e ∈ s.pushed) ∧
    ∃ l, s.pushed = l ++ e :: s.waiterQueue
  | .oneDone before ret woken => s.mutex = some a ∧ (∀ e ∈ before, e ∈ s.pushed) ∧
    ((ret = -1 ∧ woken = [] ∧ s.waiterQueue = []) ∨
      ∃ e l, ret = 0 ∧ woken = [e] ∧ s.pushed = l ++ e :: s.waiterQueue)
  | .allHas before _ => ∀ e ∈ before, e ∈ s.pushed
  | .allDone before => (∀ e ∈ before, e ∈ s.pushed) ∧
    ∀ e ∈ before, (s.wait e.1).live e.2 = true → s.Taken e

/-- The waiter that a notification has in its hand. -/
def Frame.hand : Frame Co → Option (Waiter Co)
  | .oneHas _ e | .allHas _ e => some e
  | _ => none

/-- A notification has the waiter in its hand. -/
def State.InHand (s : State Co A) (e : Waiter Co) : Prop :=
  ∃ a, (s.frame a).hand = some e

/-- What holds in every state. -/
structure Inv (s : State Co A) : Prop where
  queue : s.waiterQueue <:+ s.pushed
  bound : ∀ e ∈ s.pushed, e.2 ≤ (s.wait e.1).n
  frames : ∀ a, (s.frame a).Fits s a
  covered : ∀ e ∈ s.pushed, (s.wait e.1).live e.2 = true → e ∈ s.waiterQueue ∨ s.InHand e

/-! ## The waits -/

/-- A step that leaves the queue alone and makes no waiter live that has been pushed. -/
lemma Inv.of_wait (h : Inv s) (hf : t.frame = s.frame) (hm : t.mutex = s.mutex)
    (hq : t.waiterQueue = s.waiterQueue) (hp : t.pushed = s.pushed)
    (hn : ∀ e ∈ s.pushed, e.2 ≤ (t.wait e.1).n)
    (hl : ∀ e ∈ s.pushed, (t.wait e.1).live e.2 = true → (s.wait e.1).live e.2 = true) :
    Inv t := by
  have htaken : ∀ e, s.Taken e → t.Taken e := by
    rintro e ⟨a, before, ha⟩
    exact ⟨a, before, by rw [hf]; exact ha⟩
  refine ⟨by rw [hq, hp]; exact h.queue, by rw [hp]; exact hn, fun a => ?_, ?_⟩
  · have hfit := h.frames a
    rw [hf]
    cases hfr : s.frame a with
    | idle => trivial
    | one before | all before | allHas before e =>
      rw [hfr] at hfit
      unfold Frame.Fits
      rw [hp]
      exact hfit
    | oneLoop before | oneHas before e | oneDone before ret woken =>
      rw [hfr] at hfit
      unfold Frame.Fits
      rw [hp, hm]
      try rw [hq]
      exact hfit
    | allDone before =>
      rw [hfr] at hfit
      refine ⟨?_, fun e he hle => ?_⟩
      · rw [hp]
        exact hfit.1
      · exact htaken e (hfit.2 e he (hl e (hfit.1 e he) hle))
  · intro e he hle
    rw [hp] at he
    rw [hq]
    refine (h.covered e he (hl e he hle)).imp_right ?_
    rintro ⟨a, ha⟩
    exact ⟨a, by rw [hf]; exact ha⟩

/-- No registration makes a waiter live. -/
lemma live_of_registAwaitEvent {w : Wait} {fails : Bool} {n : ℕ}
    (h : (w.registAwaitEvent fails).live n = true) : w.live n = true := by
  obtain ⟨hn, hb, hr, hu⟩ := Wait.live_eq_true_iff.mp h
  cases fails with
  | true =>
    exfalso
    unfold Wait.registAwaitEvent at hu
    dsimp only at hu
    rw [if_pos rfl] at hu
    generalize (if w.cancelRequested then w.round.trigger pollEventCancelled else w.round) = r at hu
    cases r <;> cases hu
  | false =>
    obtain ⟨hu', -⟩ := (Wait.later_registAwaitEvent w).undecided hu
    exact Wait.live_eq_true_iff.mpr ⟨hn, hb, hr, hu'⟩

variable [DecidableEq Co]

/-- A step of one wait, which is not a new one. -/
lemma Inv.setWait (h : Inv s) {c : Co} {w : Wait} (hf : t.frame = s.frame)
    (hm : t.mutex = s.mutex) (hq : t.waiterQueue = s.waiterQueue) (hp : t.pushed = s.pushed)
    (hw : t.wait = Function.update s.wait c w) (hn : (s.wait c).n ≤ w.n)
    (hl : ∀ n ≤ (s.wait c).n, w.live n = true → (s.wait c).live n = true) : Inv t := by
  refine h.of_wait hf hm hq hp ?_ ?_
  · intro e he
    rw [hw]
    by_cases hc : e.1 = c
    · have hb := h.bound e he
      rw [hc] at hb ⊢
      rw [Function.update_self]
      exact hb.trans hn
    · rw [Function.update_of_ne hc]
      exact h.bound e he
  · intro e he
    rw [hw]
    by_cases hc : e.1 = c
    · have hb := h.bound e he
      rw [hc] at hb ⊢
      rw [Function.update_self]
      exact hl e.2 hb
    · rw [Function.update_of_ne hc]
      exact id

/-- A step of a wait. -/
lemma Inv.waits (h : Inv s) {l : Label Co A} (hs : CoCond.waits s l = some t) : Inv t := by
  unfold CoCond.waits at hs
  split at hs
  · rename_i c timed fails
    split at hs
    · split at hs
      · obtain rfl := Option.some.inj hs
        refine h.setWait rfl rfl rfl rfl rfl (Nat.le_succ _) fun n _ hl => ?_
        rw [Wait.live_abandon] at hl
        cases hl
      · obtain rfl := Option.some.inj hs
        refine h.setWait rfl rfl rfl rfl rfl (Nat.le_succ _) fun n hn hl => ?_
        -- the new wait has a number that no pushed waiter has
        have hnew : (s.wait c).n + 1 = n := (Wait.live_eq_true_iff.mp hl).1
        omega
    · cases hs
  · split at hs
    · obtain rfl := Option.some.inj hs
      exact h.setWait rfl rfl rfl rfl rfl le_rfl fun n _ => live_of_registAwaitEvent
    · cases hs
  · rename_i c
    split at hs
    · rename_i hpc hmut
      obtain rfl := Option.some.inj hs
      have hsub : ∀ e ∈ s.pushed, e ∈ s.pushed ++ [(c, (s.wait c).n)] := fun e he =>
        List.mem_append_left _ he
      have hw : Function.update s.wait c (s.wait c) = s.wait := Function.update_eq_self c s.wait
      have hfree : ∀ a, s.mutex ≠ some a := by
        intro a ha
        rw [hmut] at ha
        cases ha
      refine ⟨?_, ?_, fun a => ?_, ?_⟩
      · obtain ⟨l, hl⟩ := h.queue
        exact ⟨l, by rw [← List.append_assoc, hl]⟩
      · intro e he
        show e.2 ≤ (Function.update s.wait c (s.wait c) e.1).n
        rw [hw]
        obtain he | he := List.mem_append.mp he
        · exact h.bound e he
        · obtain rfl := List.mem_singleton.mp he
          exact le_rfl
      · have hfit := h.frames a
        show (s.frame a).Fits _ a
        cases hfr : s.frame a with
        | idle => trivial
        | one before | all before | allHas before e =>
          rw [hfr] at hfit
          exact fun e he => hsub e (hfit e he)
        | oneLoop before | oneHas before e | oneDone before ret woken =>
          rw [hfr] at hfit
          exact absurd hfit.1 (hfree a)
        | allDone before =>
          rw [hfr] at hfit
          refine ⟨fun e he => hsub e (hfit.1 e he), fun e he hl => hfit.2 e he ?_⟩
          rw [← hw]
          exact hl
      · intro e he hl
        have hl' : (s.wait e.1).live e.2 = true := by
          rw [← hw]
          exact hl
        obtain he | he := List.mem_append.mp he
        · obtain hin | hin := h.covered e he hl'
          · exact .inl (List.mem_append_left _ hin)
          · exact .inr hin
        · exact .inl (List.mem_append_right _ he)
    · cases hs
  · split at hs
    · obtain rfl := Option.some.inj hs
      refine h.setWait rfl rfl rfl rfl rfl le_rfl fun n _ hl => ?_
      rwa [Wait.live_commitPark] at hl
    · cases hs
  · split at hs
    · obtain rfl := Option.some.inj hs
      exact h.setWait rfl rfl rfl rfl rfl le_rfl fun n _ => id
    · cases hs
  · split at hs
    · obtain rfl := Option.some.inj hs
      refine h.setWait rfl rfl rfl rfl rfl le_rfl fun n _ hl => ?_
      rw [Wait.live_unbind] at hl
      cases hl
    · cases hs
  · split at hs
    · obtain rfl := Option.some.inj hs
      refine h.setWait rfl rfl rfl rfl rfl le_rfl fun n _ hl => ?_
      rw [Wait.live_timeout] at hl
      cases hl
    · cases hs
  · obtain rfl := Option.some.inj hs
    exact h.setWait rfl rfl rfl rfl rfl le_rfl fun n _ => id
  · split at hs
    · obtain rfl := Option.some.inj hs
      refine h.setWait rfl rfl rfl rfl rfl le_rfl fun n _ hl => ?_
      rw [Wait.live_cancelTrigger] at hl
      cases hl
    · cases hs
  · cases hs

/-! ## The notifications -/

variable [DecidableEq A] {a : A} {f : Frame Co}

section

omit [DecidableEq Co]

/-- A waiter stays taken if it is not in the hand of `a`. -/
lemma State.Taken.keep {e : Waiter Co} (h : s.Taken e) (ht : t.frame = Function.update s.frame a f)
    (ha : (s.frame a).hand ≠ some e) : t.Taken e := by
  obtain ⟨b, before, hb⟩ := h
  refine ⟨b, before, ?_⟩
  rw [ht, Function.update_of_ne, hb]
  rintro rfl
  rw [hb] at ha
  exact ha rfl

/-- A waiter stays in a hand if it is not in that of `a`. -/
lemma State.InHand.keep {e : Waiter Co} (h : s.InHand e)
    (ht : t.frame = Function.update s.frame a f) (ha : (s.frame a).hand ≠ some e) :
    t.InHand e := by
  obtain ⟨b, hb⟩ := h
  refine ⟨b, ?_⟩
  rw [ht, Function.update_of_ne, hb]
  rintro rfl
  exact ha hb

/-- A step of the notification of `a`. -/
lemma Inv.notifier (h : Inv s) (ht : t.frame = Function.update s.frame a f)
    (hp : t.pushed = s.pushed) (hn : ∀ e ∈ s.pushed, e.2 ≤ (t.wait e.1).n)
    (hmine : ∀ b, b ≠ a → s.mutex = some b → t.mutex = some b ∧ t.waiterQueue = s.waiterQueue)
    (hlive : ∀ e : Waiter Co, (t.wait e.1).live e.2 = true → (s.wait e.1).live e.2 = true)
    (htaken : ∀ e, (t.wait e.1).live e.2 = true → s.Taken e → t.Taken e)
    (hq : t.waiterQueue <:+ s.pushed) (hf : f.Fits t a)
    (hcov : ∀ e ∈ s.pushed, (t.wait e.1).live e.2 = true → e ∈ t.waiterQueue ∨ t.InHand e) :
    Inv t := by
  refine ⟨by rw [hp]; exact hq, by rw [hp]; exact hn, fun b => ?_, by rw [hp]; exact hcov⟩
  rw [ht]
  by_cases hb : b = a
  · subst hb
    rw [Function.update_self]
    exact hf
  · rw [Function.update_of_ne hb]
    have hfit := h.frames b
    cases hfr : s.frame b with
    | idle => trivial
    | one before | all before | allHas before e =>
      rw [hfr] at hfit
      unfold Frame.Fits
      rw [hp]
      exact hfit
    | oneLoop before | oneHas before e | oneDone before ret woken =>
      rw [hfr] at hfit
      obtain ⟨hm, hw⟩ := hmine b hb hfit.1
      unfold Frame.Fits
      rw [hp, hm]
      try rw [hw]
      exact ⟨rfl, hfit.2⟩
    | allDone before =>
      rw [hfr] at hfit
      unfold Frame.Fits
      rw [hp]
      exact ⟨hfit.1, fun e he hl => htaken e hl (hfit.2 e he (hlive e hl))⟩

/-- A step of the notification of `a` that has nothing in its hand and changes no wait. -/
lemma Inv.setFrame (h : Inv s) (ht : t.frame = Function.update s.frame a f)
    (hp : t.pushed = s.pushed) (hw : t.wait = s.wait) (hq : t.waiterQueue = s.waiterQueue)
    (hmine : ∀ b, b ≠ a → s.mutex = some b → t.mutex = some b)
    (ha : (s.frame a).hand = none) (hf : f.Fits t a) : Inv t := by
  have hno : ∀ e, (s.frame a).hand ≠ some e := fun e he => by
    rw [ha] at he
    cases he
  refine h.notifier ht hp (by rw [hw]; exact h.bound) (fun b hb hm => ⟨hmine b hb hm, hq⟩) ?_ ?_
    (by rw [hq]; exact h.queue) hf ?_
  · rw [hw]
    exact fun _ => id
  · exact fun e _ hx => hx.keep ht (hno e)
  · rw [hw, hq]
    exact fun e he hl => (h.covered e he hl).imp_right fun hx => hx.keep ht (hno e)

end

omit [DecidableEq A] in
/-- `Notify` leaves no new waiter live, and not the one that it is called on. -/
lemma live_setWait {e k : Waiter Co}
    (h : (Function.update s.wait e.1 ((s.wait e.1).notify e.2) k.1).live k.2 = true) :
    (s.wait k.1).live k.2 = true ∧ k ≠ e := by
  by_cases hk : k.1 = e.1
  · rw [hk, Function.update_self] at h
    refine ⟨hk ▸ (Wait.live_of_notify h).1, ?_⟩
    rintro rfl
    rw [Wait.live_notify_self] at h
    cases h
  · rw [Function.update_of_ne hk] at h
    exact ⟨h, fun he => hk (by rw [he])⟩

omit [DecidableEq A] in
/-- `Notify` begins no wait. -/
lemma n_setWait (e : Waiter Co) (c : Co) :
    (Function.update s.wait e.1 ((s.wait e.1).notify e.2) c).n = (s.wait c).n := by
  by_cases hc : c = e.1
  · rw [hc, Function.update_self, Wait.notify_n]
  · rw [Function.update_of_ne hc]

/-- A notification notifies the waiter that it has in its hand. -/
lemma Inv.notified (h : Inv s) {e : Waiter Co} (ht : t.frame = Function.update s.frame a f)
    (hp : t.pushed = s.pushed)
    (hw : t.wait = Function.update s.wait e.1 ((s.wait e.1).notify e.2))
    (hq : t.waiterQueue = s.waiterQueue) (hm : t.mutex = s.mutex)
    (ha : (s.frame a).hand = some e) (hf : f.Fits t a) : Inv t := by
  have hlive : ∀ k : Waiter Co, (t.wait k.1).live k.2 = true →
      (s.wait k.1).live k.2 = true ∧ k ≠ e := by
    rw [hw]
    exact fun k => live_setWait
  refine h.notifier ht hp ?_ (fun b _ hb => ⟨hm.trans hb, hq⟩) (fun k hk => (hlive k hk).1) ?_
    (by rw [hq]; exact h.queue) hf ?_
  · rw [hw]
    intro k hk
    rw [n_setWait]
    exact h.bound k hk
  · intro k hk hx
    refine hx.keep ht fun hb => (hlive k hk).2 ?_
    exact Option.some.inj (hb.symm.trans ha)
  · intro k hk hl
    rw [hq]
    obtain ⟨hl', hne⟩ := hlive k hl
    exact (h.covered k hk hl').imp_right fun hx =>
      hx.keep ht fun hb => hne (Option.some.inj (hb.symm.trans ha))

omit [DecidableEq Co] in
/-- A notification takes the first waiter out of the queue. -/
lemma Inv.pops (h : Inv s) {e : Waiter Co} {q : List (Waiter Co)}
    (ht : t.frame = Function.update s.frame a f) (hp : t.pushed = s.pushed) (hw : t.wait = s.wait)
    (hq : s.waiterQueue = e :: q) (hq' : t.waiterQueue = q)
    (hmine : ∀ b, b ≠ a → s.mutex ≠ some b)
    (ha : (s.frame a).hand = none) (hf : f.Fits t a) (hhand : t.InHand e) : Inv t := by
  have hno : ∀ k, (s.frame a).hand ≠ some k := fun k hk => by
    rw [ha] at hk
    cases hk
  have hsuffix : q <:+ s.pushed := (List.suffix_cons e q).trans (hq ▸ h.queue)
  refine h.notifier ht hp (by rw [hw]; exact h.bound) (fun b hb hm => absurd hm (hmine b hb)) ?_ ?_
    (by rw [hq']; exact hsuffix) hf ?_
  · rw [hw]
    exact fun _ => id
  · exact fun k _ hx => hx.keep ht (hno k)
  · rw [hw, hq']
    intro k hk hl
    obtain hin | hin := h.covered k hk hl
    · rw [hq] at hin
      obtain rfl | hin := List.mem_cons.mp hin
      · exact .inr hhand
      · exact .inl hin
    · exact .inr (hin.keep ht (hno k))

omit [DecidableEq Co] [DecidableEq A] in
/-- A waiter is in the hand of a `NotifyAll`, if no `NotifyOne` can have it. -/
lemma Inv.taken_of_inHand (h : Inv s) {e : Waiter Co} (he : s.InHand e)
    (hno : ∀ b, s.mutex = some b → (s.frame b).hand ≠ some e) : s.Taken e := by
  obtain ⟨b, hb⟩ := he
  have hfit := h.frames b
  cases hfr : s.frame b with
  | allHas before k =>
    rw [hfr] at hb
    obtain rfl := Option.some.inj hb
    exact ⟨b, before, hfr⟩
  | oneHas before k =>
    rw [hfr] at hfit
    exact absurd hb (hno b hfit.1)
  | idle | one before | oneLoop before | oneDone before ret woken | all before | allDone before =>
    rw [hfr] at hb
    cases hb

/-- A step of a notification. -/
lemma Inv.notifies (h : Inv s) {l : Label Co A} (hs : CoCond.notifies s l = some t) : Inv t := by
  unfold CoCond.notifies at hs
  split at hs
  · rename_i a
    split at hs
    · rename_i hfr
      obtain rfl := Option.some.inj hs
      refine h.setFrame rfl rfl rfl rfl (fun _ _ => id) ?_ fun _ => id
      rw [hfr]
      rfl
    · cases hs
  · rename_i a
    split at hs
    · rename_i before hfr hmut
      have hfit := h.frames a
      rw [hfr] at hfit
      obtain rfl := Option.some.inj hs
      refine h.setFrame rfl rfl rfl rfl ?_ ?_ ⟨rfl, hfit⟩
      · exact fun b _ hb => by rw [hmut] at hb; cases hb
      · rw [hfr]
        rfl
    · cases hs
  · rename_i a
    split at hs
    · rename_i before hfr hempty
      have hfit := h.frames a
      rw [hfr] at hfit
      obtain rfl := Option.some.inj hs
      refine h.setFrame rfl rfl rfl rfl (fun _ _ => id) ?_
        ⟨hfit.1, hfit.2, .inl ⟨rfl, rfl, hempty⟩⟩
      rw [hfr]
      rfl
    · rename_i before e q hfr hcons
      have hfit := h.frames a
      rw [hfr] at hfit
      obtain rfl := Option.some.inj hs
      obtain ⟨l, hl⟩ := h.queue
      rw [hcons] at hl
      refine h.pops rfl rfl rfl hcons rfl ?_ ?_ ⟨hfit.1, hfit.2, l, hl.symm⟩ ?_
      · intro b hb hm
        rw [hfit.1] at hm
        exact hb (Option.some.inj hm).symm
      · rw [hfr]
        rfl
      · exact ⟨a, congrArg Frame.hand (Function.update_self a _ s.frame)⟩
    · cases hs
  · rename_i a
    split at hs
    · rename_i before e hfr
      have hfit := h.frames a
      rw [hfr] at hfit
      obtain ⟨hm, hb, l, hl⟩ := hfit
      obtain rfl := Option.some.inj hs
      refine h.notified rfl rfl rfl rfl rfl ?_ ?_
      · rw [hfr]
        rfl
      · split
        · exact ⟨hm, hb, .inr ⟨e, l, rfl, rfl, hl⟩⟩
        · exact ⟨hm, hb⟩
    · cases hs
  · rename_i a
    split at hs
    · rename_i hfr
      have hfit := h.frames a
      rw [hfr] at hfit
      obtain rfl := Option.some.inj hs
      refine h.setFrame rfl rfl rfl rfl ?_ ?_ trivial
      · intro b hb hm
        rw [hfit.1] at hm
        exact absurd (Option.some.inj hm).symm hb
      · rw [hfr]
        rfl
    · cases hs
  · rename_i a
    split at hs
    · rename_i hfr
      obtain rfl := Option.some.inj hs
      refine h.setFrame rfl rfl rfl rfl (fun _ _ => id) ?_ fun _ => id
      rw [hfr]
      rfl
    · cases hs
  · rename_i a
    split at hs
    · rename_i before hfr hmut hempty
      have hfit := h.frames a
      rw [hfr] at hfit
      obtain rfl := Option.some.inj hs
      refine h.setFrame rfl rfl rfl rfl (fun _ _ => id) ?_ ⟨hfit, fun e he hl => ?_⟩
      · rw [hfr]
        rfl
      -- the queue is empty and no `NotifyOne` is in its loop, so another `NotifyAll` has it
      · obtain hin | hin := h.covered e (hfit e he) hl
        · rw [hempty] at hin
          cases hin
        · refine (h.taken_of_inHand hin fun b hb => ?_).keep rfl ?_
          · rw [hmut] at hb
            cases hb
          · rw [hfr]
            exact fun he => by cases he
    · rename_i before e q hfr hmut hcons
      have hfit := h.frames a
      rw [hfr] at hfit
      obtain rfl := Option.some.inj hs
      refine h.pops rfl rfl rfl hcons rfl ?_ ?_ hfit ?_
      · exact fun b _ hb => by rw [hmut] at hb; cases hb
      · rw [hfr]
        rfl
      · exact ⟨a, congrArg Frame.hand (Function.update_self a _ s.frame)⟩
    · cases hs
  · rename_i a
    split at hs
    · rename_i before e hfr
      have hfit := h.frames a
      rw [hfr] at hfit
      obtain rfl := Option.some.inj hs
      refine h.notified rfl rfl rfl rfl rfl ?_ hfit
      rw [hfr]
      rfl
    · cases hs
  · rename_i a
    split at hs
    · rename_i hfr
      obtain rfl := Option.some.inj hs
      refine h.setFrame rfl rfl rfl rfl (fun _ _ => id) ?_ trivial
      rw [hfr]
      rfl
    · cases hs
  · cases hs

/-! ## The runs -/

/-- Every step keeps what holds of the queue and of the notifications. -/
lemma Inv.next (h : Inv s) {l : Label Co A} (hs : CoCond.next s l = some t) : Inv t := by
  obtain hs | ⟨-, hs⟩ := Option.or_eq_some_iff.mp hs
  · exact h.waits hs
  · exact h.notifies hs

/-- Such a run begins with nothing in the queue. -/
lemma inv_of_reachable (h : (system Co A).Reachable s) : Inv s := by
  refine h.induct (I := Inv) ?_ fun s l t hI hs => hI.next hs
  rintro s rfl
  refine ⟨List.suffix_rfl, ?_, fun _ => trivial, ?_⟩
  · exact fun e he => by cases he
  · exact fun e he => by cases he

omit [DecidableEq Co] [DecidableEq A] in
/-- What a notification does to the waiter in its hand. -/
lemma won_of_notify {e : Waiter Co} (hl : s.live e = true) :
    ((s.wait e.1).notify e.2).round.won = some pollEventCustom := by
  rw [Wait.notify_of_live hl]
  exact Round.won_trigger_of_undecided (Wait.live_eq_true_iff.mp hl).2.2.2

omit [DecidableEq A] in
/-- A notification of a waiter that has stopped waiting changes no other. -/
lemma live_notify_dead {e : Waiter Co} (hl : s.live e = false) (k : Waiter Co) :
    (Function.update s.wait e.1 ((s.wait e.1).notify e.2) k.1).live k.2 = s.live k := by
  by_cases hk : k.1 = e.1
  · rw [hk, Function.update_self, Wait.live_notify_of_dead hl, State.live, hk]
  · rw [Function.update_of_ne hk]
    rfl

/-- The notifications reach the live waiters in every run. -/
theorem notifies_of_reachable (h : (system Co A).Reachable s) : Notifies s := by
  have hI := inv_of_reachable h
  refine ⟨?_, ?_, ?_, ?_, ?_, ?_⟩
  · intro a before ret woken hfr
    have hfit := hI.frames a
    rw [hfr] at hfit
    obtain ⟨rfl, rfl, -⟩ | ⟨e, l, rfl, rfl, -⟩ := hfit.2.2
    · exact .inr ⟨rfl, rfl⟩
    · exact .inl ⟨rfl, rfl⟩
  · intro a before e t hfr hs
    simp only [CoCond.next, CoCond.waits, CoCond.notifies, hfr, Option.none_or] at hs
    obtain rfl := Option.some.inj hs
    cases hl : s.live e with
    | true =>
      refine ⟨?_, ?_⟩
      · exact Function.update_self _ _ _
      · show (Function.update s.wait e.1 _ e.1).round.won = _
        rw [Function.update_self]
        exact won_of_notify hl
    | false =>
      refine ⟨?_, fun e' => live_notify_dead hl e'⟩
      exact Function.update_self _ _ _
  · intro a before woken hfr
    have hfit := hI.frames a
    rw [hfr] at hfit
    obtain ⟨-, -, hq⟩ | ⟨e, l, hr, -, -⟩ := hfit.2.2
    · exact hq
    · exact absurd hr (by decide)
  · intro a before ret woken hfr e he hl
    have hfit := hI.frames a
    rw [hfr] at hfit
    obtain ⟨hm, hb, hret⟩ := hfit
    obtain hin | hin := hI.covered e (hb e he) hl
    · obtain ⟨-, -, hq⟩ | ⟨e', l, hr, hw, hq⟩ := hret
      · rw [hq] at hin
        cases hin
      · exact .inr ⟨hin, e', l, hr, hw, hq⟩
    · refine .inl (hI.taken_of_inHand hin fun b hb' hx => ?_)
      rw [hm] at hb'
      obtain rfl := Option.some.inj hb'
      rw [hfr] at hx
      cases hx
  · intro a before hfr e he hl
    have hfit := hI.frames a
    rw [hfr] at hfit
    exact hfit.2 e he hl
  · intro a before e hfr
    refine ⟨(s.setWait e.1 ((s.wait e.1).notify e.2)).setFrame a (.all before), ?_, ?_,
      fun hl => ?_⟩
    · simp only [CoCond.next, CoCond.waits, CoCond.notifies, hfr, Option.none_or]
    · show (Function.update s.wait e.1 _ e.1).live e.2 = false
      rw [Function.update_self]
      exact Wait.live_notify_self _ _
    · show (Function.update s.wait e.1 _ e.1).round.won = _
      rw [Function.update_self]
      exact won_of_notify hl

/-- A coroutine waits, one thread pops it in `NotifyAll`, and another one finds the queue empty. -/
def overtakes : List (Label Unit Bool) :=
  [.wait () false false, .regist () false, .push (), .commitPark (), .notifyAll true,
    .notifyAll false, .popAll true, .popAll false]

/-- A `NotifyAll` may return although a waiter that was registered before it began still waits. -/
theorem notifyAll_overtakes : ¬ ∀ s : State Unit Bool, (system Unit Bool).Reachable s →
    ∀ a before, s.frame a = .allDone before → ∀ e ∈ before, s.live e = false := by
  intro hall
  have hend : (system Unit Bool).endsIn {} overtakes (fun s =>
      s.frame false = .allDone [((), 1)] ∧ s.live ((), 1) = true) = true := by
    decide
  obtain ⟨s, hr, hfr, hl⟩ := System.exists_of_endsIn rfl hend
  rw [hall s hr false _ hfr ((), 1) List.mem_cons_self] at hl
  cases hl

/-- Two coroutines wait, and the wait of the first one times out before a `NotifyOne`. -/
def passesOver : List (Label Bool Unit) :=
  [.wait false true false, .regist false false, .push false, .commitPark false,
    .wait true false false, .regist true false, .push true, .commitPark true, .timeout false,
    .notifyOne (), .sysLock (), .popOne (), .notify (), .popOne (), .notify ()]

/-- `NotifyOne` has passed over the first waiter, and returns `0` for the second one. -/
theorem notifies_of_reachable_passesOver : ∃ s, (system Bool Unit).Reachable s ∧
    s.frame () = .oneDone [(false, 1), (true, 1)] 0 [(true, 1)] ∧ Notifies s := by
  have hend : (system Bool Unit).endsIn {} passesOver (fun s =>
      s.frame () = .oneDone [(false, 1), (true, 1)] 0 [(true, 1)]) = true := by
    decide
  obtain ⟨s, hr, hs⟩ := System.exists_of_endsIn rfl hend
  exact ⟨s, hr, hs, notifies_of_reachable hr⟩

end BbtCoroutine.CoCond
