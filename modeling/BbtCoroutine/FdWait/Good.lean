import BbtCoroutine.FdWait.Model
import Mathlib.Logic.Basic

/-!
# The events of the waits

What is known of an event depends on the step at which its owner is in the wait for it.  An
event samples its epoch once, before it can be armed; it is armed only if the number was not
being closed then, and what decides an event that has seen the close is the close itself, unless
another trigger came first.
-/

namespace BbtCoroutine.FdWait

open Transition

/-! ## Rounds -/

/-- The round has not been armed, or it was decided before. -/
def unarmed : Round → Bool
  | .inited | .pending _ | .cancelled => true
  | _ => false

/-- A trigger does not arm a round. -/
lemma unarmed_trigger {r : Round} (m : EventMask) (h : unarmed r = true) :
    unarmed (r.trigger m) = true := by
  cases r <;> first | rfl | cases h

/-- A round that has been triggered is not a new one. -/
lemma trigger_ne_inited (r : Round) (m : EventMask) : r.trigger m ≠ .inited := by
  cases r <;> simp [Round.trigger]

variable {Co κ : Type*}

namespace Event

variable {e : Event Co} {m : EventMask}

/-- An event that is not armed does not listen. -/
lemma not_listening_of_unarmed (h : unarmed e.round = true) : e.listening = false := by
  unfold listening
  cases hr : e.round <;> first | rfl | (rw [hr] at h; cases h)

/-- The event samples nothing, is not moved and does not expire when it is decided. -/
structure Same (e e' : Event Co) : Prop where
  owner : e'.owner = e.owner
  fd : e'.fd = e.fd
  waitEpoch : e'.waitEpoch = e.waitEpoch
  event : e'.event = e.event
  expired : e'.expired = e.expired
  sampled : e'.sampled = e.sampled

/-- A trigger does not touch the registration. -/
lemma same_trigger : e.Same (e.trigger m) := by
  unfold trigger
  split <;> exact ⟨rfl, rfl, rfl, rfl, rfl, rfl⟩

/-- A withdrawal does not touch the registration. -/
lemma same_unRegist : e.Same e.unRegist := by
  unfold unRegist
  split <;> exact ⟨rfl, rfl, rfl, rfl, rfl, rfl⟩

/-- `CommitPark` does not touch the registration. -/
lemma same_commitPark : e.Same e.commitPark :=
  ⟨rfl, rfl, rfl, rfl, rfl, rfl⟩

/-- A triggered event listens no more. -/
lemma listening_trigger (hm : m ≠ 0) : (e.trigger m).listening = false := by
  rw [trigger, if_neg hm]
  unfold listening
  cases e.round <;> rfl

end Event

/-! ## Events and steps -/

/-- An event that is armed has been made for a number that was not being closed. -/
def Event.ready (e : Event Co) : Prop :=
  0 ≤ e.fd → e.event = true ∧ ∃ n, e.sampled = some (n, false)

/-- What is known of an event whose owner is at the step `p` of the wait for it. -/
def Event.Fits (e : Event Co) : Option Step → Prop
  | some .initFd => unarmed e.round = true ∧ e.sampled = none
  | some .initSample => unarmed e.round = true ∧ e.sampled = none ∧ 0 ≤ e.fd
  | some .initClosed => unarmed e.round = true ∧ ∃ n, e.sampled = some (n, true)
  | some .initCreate =>
    unarmed e.round = true ∧ (0 ≤ e.fd → ∃ n, e.sampled = some (n, false))
  | some .yield | some .registCancel | some .regist =>
    unarmed e.round = true ∧ (e.round = .inited → e.ready)
  | some .registFailed => e.round = .cancelled
  | some .failed => unarmed e.round = true
  | some .trackWaiter => e.round ≠ .parked ∧ e.ready
  | some .registClosed | some .commitPark | some .suspended => e.listening = true → e.ready
  | none => e.listening = false

/-- An event is as it should be: its owner is at the step `p` of the wait for it, and its number
has been claimed `n` times. -/
structure Event.Good (e : Event Co) (p : Option Step) (n : ℕ) : Prop where
  fits : e.Fits p
  sample : ∀ m closing, e.sampled = some (m, closing) → 0 ≤ e.fd ∧ e.waitEpoch = m ∧ m ≤ n
  latched : ∀ m, e.sampled = some (m, true) →
    p = some .initClosed ∨ e.round.won = some pollEventClosed ∨ e.round = .cancelled
  alive : p ≠ none → e.expired = false
  decided : e.stage = .untrack ∨ e.stage = .callback ∨ e.stage = .called →
    ∃ m, e.round = .final m
  unRegisted : e.stage = .unRegist → e.round = .cancelled

section

variable {e e' : Event Co} {p : Option Step} {n : ℕ} {m : EventMask}

/-- What decides a round, or leaves it alone, keeps what is known of the event. -/
structure Event.Decides (e e' : Event Co) : Prop where
  same : e.Same e'
  unarmed : unarmed e.round = true → unarmed e'.round = true
  inited : e'.round = .inited → e.round = .inited
  listening : e'.listening = true → e.listening = true
  parked : e'.round = .parked → e.round = .parked
  cancelled : e.round = .cancelled → e'.round = .cancelled

/-- What fits a point still fits after the round has been decided. -/
lemma Event.Decides.fits (h : e.Decides e') (hf : e.Fits p) : e'.Fits p := by
  have hready : e.ready → e'.ready := fun hr hfd => by
    rw [h.same.event, h.same.sampled]
    exact hr (by rwa [← h.same.fd])
  cases p with
  | none =>
    by_contra hl
    have hl' := h.listening (by simpa [Event.Fits] using hl)
    rw [Event.Fits, hl'] at hf
    cases hf
  | some p =>
    cases p <;> unfold Event.Fits at hf ⊢
    case initFd => exact ⟨h.unarmed hf.1, h.same.sampled.trans hf.2⟩
    case initSample =>
      exact ⟨h.unarmed hf.1, h.same.sampled.trans hf.2.1, by rw [h.same.fd]; exact hf.2.2⟩
    case initClosed => exact ⟨h.unarmed hf.1, by rw [h.same.sampled]; exact hf.2⟩
    case initCreate => exact ⟨h.unarmed hf.1, by rw [h.same.sampled, h.same.fd]; exact hf.2⟩
    case yield | registCancel | regist =>
      exact ⟨h.unarmed hf.1, fun hr => hready (hf.2 (h.inited hr))⟩
    case registFailed => exact h.cancelled hf
    case failed => exact h.unarmed hf
    case trackWaiter =>
      exact ⟨fun hr => hf.1 (h.parked hr), hready hf.2⟩
    case registClosed | commitPark | suspended => exact fun hl => hready (hf (h.listening hl))

/-- A step may leave a round as it is. -/
lemma Event.Decides.refl : e.Decides e :=
  ⟨⟨rfl, rfl, rfl, rfl, rfl, rfl⟩, id, id, id, id, id⟩

/-- A trigger decides a round. -/
lemma Event.decides_trigger : e.Decides (e.trigger m) := by
  by_cases hm : m = 0
  · rw [Event.trigger, if_pos hm]
    exact .refl
  · have hr : (e.trigger m).round = e.round.trigger m := by rw [Event.trigger, if_neg hm]
    refine ⟨Event.same_trigger, ?_, ?_, ?_, ?_, ?_⟩
    · rw [hr]
      exact unarmed_trigger m
    · rw [hr]
      exact fun h => absurd h (trigger_ne_inited _ m)
    · rw [Event.listening_trigger hm]
      rintro ⟨⟩
    · rw [hr]
      exact fun h => absurd h (Round.trigger_ne_parked _ m)
    · rw [hr]
      intro h
      rw [h]
      rfl

/-- A withdrawal decides a round. -/
lemma Event.decides_unRegist : e.Decides e.unRegist := by
  by_cases hu : e.round.undecided = true
  · have hr : e.unRegist.round = .cancelled := by rw [Event.unRegist, if_pos hu]
    refine ⟨Event.same_unRegist, ?_, ?_, ?_, ?_, ?_⟩
    · exact fun _ => by rw [hr]; rfl
    · rw [hr]
      rintro ⟨⟩
    · rw [Event.listening, hr]
      rintro ⟨⟩
    · rw [hr]
      rintro ⟨⟩
    · exact fun _ => hr
  · rw [Event.unRegist, if_neg hu]
    exact .refl

/-- A trigger keeps an event in order. -/
lemma Event.Good.trigger (h : e.Good p n) (m : EventMask) : (e.trigger m).Good p n := by
  have hd : e.Decides (e.trigger m) := Event.decides_trigger
  refine ⟨hd.fits h.fits, ?_, ?_, ?_, ?_, ?_⟩
  · rw [hd.same.sampled, hd.same.fd, hd.same.waitEpoch]
    exact h.sample
  · rw [hd.same.sampled]
    intro j hj
    refine (h.latched j hj).imp_right fun hr => ?_
    unfold Event.trigger
    split
    · exact hr
    · have hu : e.round.undecided = false := by
        rcases hr with hr | hr
        · exact Round.undecided_of_won hr
        · rw [hr]
          rfl
      dsimp only
      rwa [Round.trigger_of_not_undecided hu]
  · rw [hd.same.expired]
    exact h.alive
  · unfold Event.trigger
    split
    · exact h.decided
    · by_cases hp : e.round = .parked
      · exact fun _ => ⟨m, by dsimp only; rw [hp]; rfl⟩
      · dsimp only
        rw [if_neg hp]
        intro hs
        obtain ⟨j, hj⟩ := h.decided hs
        exact ⟨j, by rw [hj]; rfl⟩
  · unfold Event.trigger
    split
    · exact h.unRegisted
    · dsimp only
      split
      · rintro ⟨⟩
      · intro hs
        rw [h.unRegisted hs]
        rfl

/-- A withdrawal keeps an event in order. -/
lemma Event.Good.unRegist (h : e.Good p n) : e.unRegist.Good p n := by
  have hd : e.Decides e.unRegist := Event.decides_unRegist
  refine ⟨hd.fits h.fits, ?_, ?_, ?_, ?_, ?_⟩
  · rw [hd.same.sampled, hd.same.fd, hd.same.waitEpoch]
    exact h.sample
  · rw [hd.same.sampled]
    unfold Event.unRegist
    split
    · exact fun j hj => .inr (.inr rfl)
    · exact h.latched
  · rw [hd.same.expired]
    exact h.alive
  · unfold Event.unRegist
    split
    · rintro (hs | hs | hs) <;> cases hs
    · exact h.decided
  · unfold Event.unRegist
    split
    · exact fun _ => rfl
    · exact h.unRegisted

/-- A fresh event is as it should be. -/
lemma Event.good_new (c : Co) (fd : ℤ) :
    ({ owner := c, fd := fd } : Event Co).Good (some .initFd) n where
  fits := ⟨rfl, rfl⟩
  sample := by simp
  latched := by simp
  alive _ := rfl
  decided := by simp
  unRegisted := by simp

/-- The owner goes on to the step `p`, and the event stays as it is. -/
lemma Event.Good.goes {q : Step} (h : e.Good (some q) n) (hq : q ≠ .initClosed)
    (hf : e.Fits p) : e.Good p n where
  fits := hf
  sample := h.sample
  latched j hj := by
    refine (h.latched j hj).imp_left fun hp => ?_
    cases hp
    exact absurd rfl hq
  alive _ := h.alive (by simp)
  decided := h.decided
  unRegisted := h.unRegisted

/-- The latch of a close wins if no other trigger has done so. -/
lemma Event.Good.initClosed (h : e.Good (some .initClosed) n) (hk : e.round.won = none) :
    (e.trigger pollEventClosed).Good (some .yield) n := by
  have hg := h.trigger pollEventClosed
  have hclosed : pollEventClosed ≠ 0 := by decide
  have hr : (e.trigger pollEventClosed).round = e.round.trigger pollEventClosed := by
    rw [Event.trigger, if_neg hclosed]
  have hf := h.fits
  refine ⟨⟨hg.fits.1, fun hi => ?_⟩, hg.sample, fun j hj => .inr ?_, fun _ => hg.alive (by simp),
    hg.decided, hg.unRegisted⟩
  · rw [hr] at hi
    exact absurd hi (trigger_ne_inited _ _)
  · rw [hr]
    cases hround : e.round with
    | inited => exact .inl rfl
    | cancelled => exact .inr rfl
    | pending =>
      rw [hround] at hk
      cases hk
    | armed | parked | final =>
      have := hf.1
      rw [hround] at this
      cases this

/-- The sample of the epoch. -/
lemma Event.Good.initSample {closing : Bool} (h : e.Good (some .initSample) n) :
    { e with waitEpoch := n, sampled := some (n, closing) }.Good
      (some (if closing then .initClosed else .initCreate)) n := by
  obtain ⟨hu, -, hfd⟩ := h.fits
  refine ⟨?_, ?_, ?_, fun _ => h.alive (by simp), h.decided, h.unRegisted⟩
  · cases closing with
    | true => exact ⟨hu, n, rfl⟩
    | false => exact ⟨hu, fun _ => ⟨n, rfl⟩⟩
  · rintro m c ⟨⟩
    exact ⟨hfd, rfl, le_rfl⟩
  · rintro m ⟨⟩
    exact .inl rfl

/-- The registration arms a fresh event. -/
lemma Event.Good.regist (h : e.Good (some .regist) n) (hr : e.round = .inited) :
    { e with round := .armed }.Good (some .trackWaiter) n := by
  have hready := h.fits.2 hr
  refine ⟨⟨by simp, hready⟩, h.sample, ?_, fun _ => h.alive (by simp), ?_, ?_⟩
  · intro m hm
    rcases h.latched m hm with hp | hw | hc
    · cases hp
    · rw [hr] at hw
      cases hw
    · rw [hr] at hc
      cases hc
  · intro hs
    obtain ⟨m, hm⟩ := h.decided hs
    rw [hr] at hm
    cases hm
  · intro hs
    have := h.unRegisted hs
    rw [hr] at this
    cases this

/-- The registration of a fresh event fails. -/
lemma Event.Good.registFailed (h : e.Good (some .regist) n) (hr : e.round = .inited) :
    { e with round := .cancelled }.Good (some .registFailed) n := by
  refine ⟨rfl, h.sample, fun m hm => .inr (.inr rfl), fun _ => h.alive (by simp), ?_,
    fun _ => rfl⟩
  intro hs
  obtain ⟨m, hm⟩ := h.decided hs
  rw [hr] at hm
  cases hm

/-- The park is committed. -/
lemma Event.Good.commitPark (h : e.Good (some .commitPark) n) :
    e.commitPark.Good (some .suspended) n := by
  have hl : e.commitPark.listening = true → e.listening = true := by
    unfold Event.listening Event.commitPark
    cases e.round <;> simp [Round.commitPark]
  refine ⟨fun h' => h.fits (hl h'), h.sample, fun m hm => ?_, fun _ => h.alive (by simp), ?_, ?_⟩
  · rcases h.latched m hm with hp | hw | hc
    · cases hp
    · exact .inr (.inl ((Round.won_commitPark _).trans hw))
    · refine .inr (.inr ?_)
      rw [Event.commitPark, hc]
      rfl
  · unfold Event.commitPark
    dsimp only
    cases hr : e.round with
    | pending m => exact fun _ => ⟨m, rfl⟩
    | inited | armed | parked | cancelled =>
      intro hs
      obtain ⟨m, hm⟩ := h.decided hs
      rw [hr] at hm
      cases hm
    | final m => exact fun _ => ⟨m, rfl⟩
  · unfold Event.commitPark
    dsimp only
    cases hr : e.round with
    | pending m => rintro ⟨⟩
    | inited | armed | parked | cancelled | final =>
      intro hs
      have := h.unRegisted hs
      rw [hr] at this
      first | rfl | cases this

variable {ι : Type*} [DecidableEq κ] {s : State ι Co κ} {cr : Bool} {k : κ} {a : Answer}
  {q : Step} {t : FdSlots κ}

/-- A step of a coroutine keeps its event as it should be. -/
lemma good_of_waitStep (hs : s.waitStep cr k e a q = some (t, e', p))
    (hg : e.Good (some q) (s.closes e.fd))
    (hepoch : (s.slots.slot e.fd).epoch = s.closes e.fd)
    (hk : q = .initClosed → e.round.won = none) : e'.Good p (s.closes e.fd) := by
  have hfits := hg.fits
  cases q with
  | initFd =>
    cases hs
    refine hg.goes (by simp) ?_
    split
    · split
      · exact ⟨hfits.1, hfits.2, ‹_›⟩
      · exact ⟨hfits.1, fun hfd => absurd hfd ‹_›⟩
    · exact hfits.1
  | initSample =>
    cases hs
    rw [hepoch]
    exact hg.initSample
  | initClosed =>
    cases hs
    exact hg.initClosed (hk rfl)
  | initCreate =>
    dsimp only [State.waitStep] at hs
    split at hs <;> cases hs
    · exact hg.goes (by simp) hfits.1
    · have hready : { e with event := true }.ready := fun hfd => ⟨rfl, hfits.2 hfd⟩
      exact ⟨⟨hfits.1, fun _ => hready⟩, hg.sample, fun m hm => (hg.latched m hm).imp_left
        (by rintro ⟨⟩), fun _ => hg.alive (by simp), hg.decided, hg.unRegisted⟩
  | yield =>
    cases hs
    refine hg.goes (by simp) ?_
    split
    · exact Event.not_listening_of_unarmed hfits.1
    · exact hfits
  | registCancel =>
    cases hs
    split
    · have hgt := hg.trigger pollEventCancelled
      exact hgt.goes (by simp) hgt.fits
    · exact hg.goes (by simp) hfits
  | regist =>
    dsimp only [State.waitStep] at hs
    cases hr : e.round with
    | pending m =>
      rw [hr] at hs
      cases hs
      refine hg.goes (by simp) fun hl => ?_
      rw [Event.not_listening_of_unarmed hfits.1] at hl
      cases hl
    | inited =>
      rw [hr] at hs
      dsimp only at hs
      split at hs <;> cases hs
      · exact hg.registFailed hr
      · exact hg.regist hr
    | cancelled | armed | parked | final =>
      rw [hr] at hs
      cases hs
      exact hg.goes (by simp) hfits.1
  | registFailed =>
    cases hs
    refine hg.goes (by simp) ?_
    rw [Event.Fits, hfits]
    rfl
  | failed =>
    cases hs
    exact hg.goes (by simp) (Event.not_listening_of_unarmed hfits)
  | trackWaiter =>
    dsimp only [State.waitStep] at hs
    split at hs
    · cases hs
      exact hg.goes (by simp) fun _ => hfits.2
    · split at hs <;> cases hs <;> exact hg.goes (by simp) fun _ => hfits.2
  | registClosed =>
    cases hs
    have hgt := hg.trigger pollEventClosed
    exact hgt.goes (by simp) hgt.fits
  | commitPark =>
    cases hs
    exact hg.commitPark
  | suspended =>
    dsimp only [State.waitStep] at hs
    split at hs <;> cases hs
    rename_i hcalled
    obtain ⟨m, hm⟩ := hg.decided (.inr (.inr hcalled))
    refine hg.goes (by simp) ?_
    rw [Event.Fits, Event.listening, hm]
    rfl

/-- What a later step has left of an event. -/
structure Event.Follows (e e' : Event Co) : Prop where
  owner : e'.owner = e.owner
  fd : e'.fd = e.fd
  sampled : e.sampled ≠ none → e'.sampled = e.sampled ∧ e'.waitEpoch = e.waitEpoch
  final : ∀ m, e.round = .final m → e'.round = .final m ∧ e'.waitEpoch = e.waitEpoch

section

omit [DecidableEq κ]

/-- An event with the same registration follows if its winner stays. -/
lemma Event.Same.follows (h : e.Same e')
    (hr : ∀ m, e.round = .final m → e'.round = .final m) : e.Follows e' :=
  ⟨h.owner, h.fd, fun _ => ⟨h.sampled, h.waitEpoch⟩, fun m hm => ⟨hr m hm, h.waitEpoch⟩⟩

/-- A trigger follows the event. -/
lemma Event.follows_trigger : e.Follows (e.trigger m) := by
  refine Event.same_trigger.follows fun j hj => ?_
  unfold Event.trigger
  split
  · exact hj
  · dsimp only
    rw [hj]
    rfl

/-- A withdrawal follows the event. -/
lemma Event.follows_unRegist : e.Follows e.unRegist := by
  refine Event.same_unRegist.follows fun j hj => ?_
  rw [Event.unRegist, hj]
  exact hj

end

/-- A step of a wait follows the event. -/
lemma follows_of_waitStep (hs : s.waitStep cr k e a q = some (t, e', p))
    (hf : e.Fits (some q)) : e.Follows e' := by
  have hrefl : e.Follows e := ⟨rfl, rfl, fun _ => ⟨rfl, rfl⟩, fun m hm => ⟨hm, rfl⟩⟩
  cases q with
  | initFd | yield | registFailed | failed =>
    cases hs
    exact hrefl
  | initSample =>
    cases hs
    refine ⟨rfl, rfl, fun h => absurd hf.2.1 h, fun m hm => ?_⟩
    have hu := hf.1
    rw [hm] at hu
    cases hu
  | initClosed | registClosed =>
    cases hs
    exact Event.follows_trigger
  | initCreate =>
    dsimp only [State.waitStep] at hs
    split at hs <;> cases hs
    · exact hrefl
    · exact ⟨rfl, rfl, fun _ => ⟨rfl, rfl⟩, fun m hm => ⟨hm, rfl⟩⟩
  | registCancel =>
    cases hs
    split
    · exact Event.follows_trigger
    · exact hrefl
  | regist =>
    dsimp only [State.waitStep] at hs
    cases hr : e.round with
    | inited =>
      rw [hr] at hs
      dsimp only at hs
      split at hs <;> cases hs <;>
        exact ⟨rfl, rfl, fun _ => ⟨rfl, rfl⟩, fun m hm => by rw [hr] at hm; cases hm⟩
    | pending | cancelled | armed | parked | final =>
      rw [hr] at hs
      cases hs
      exact hrefl
  | trackWaiter =>
    dsimp only [State.waitStep] at hs
    split at hs
    · cases hs
      exact hrefl
    · split at hs <;> cases hs <;> exact hrefl
  | commitPark =>
    cases hs
    refine Event.same_commitPark.follows fun m hm => ?_
    rw [Event.commitPark, hm]
    rfl
  | suspended =>
    dsimp only [State.waitStep] at hs
    split at hs <;> cases hs
    exact hrefl

end

end BbtCoroutine.FdWait
