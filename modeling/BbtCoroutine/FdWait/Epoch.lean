import BbtCoroutine.FdWait.Good
import Mathlib.Data.Fintype.Basic

/-!
# The close epochs are sound

A close claims a number and advances its epoch.  A wait that has sampled the epoch before, or
while the number was being closed, is told apart from a wait for the next descriptor of the
number: what is in the table carries the current epoch, what the close has taken out of it is
triggered, and the check after the wait fails.

The last part needs one condition: nothing else triggers an event between the sample that sees
the close and the trigger that latches it.
-/

namespace BbtCoroutine.FdWait

open Transition
open Coroutine (normalizeTriggerEvent)

variable {ι Co κ : Type*} [DecidableEq κ]

/-! ## Statement -/

/-- The coroutine that waits for the event has not come to the end of its registration. -/
def State.registering (s : State ι Co κ) (k : κ) (e : Event Co) : Prop :=
  (s.co e.owner).stepAt k = some .trackWaiter ∨ (s.co e.owner).stepAt k = some .registClosed

/-- The close epochs are sound: the check after a wait fails if the number has been claimed since
the sample or was being closed then; the events in the table carry the current epoch of a number
that is not being closed; once `BeginFdClose` has returned, no event that has sampled the claimed
epoch stays armed; and the epoch of a number counts its claims, and is never forgotten. -/
structure EpochSound (s : State ι Co κ) : Prop where
  stale : ∀ c k e n closing, (s.co c).last.wait = some k → s.event k = some e →
    e.sampled = some (n, closing) → n < s.closes e.fd ∨ closing = true →
    s.fdWaitEpochValid c e.fd = false
  table : ∀ fd k, k ∈ (s.slots.slot fd).waiters → (s.slots.slot fd).closing = false ∧
    ∃ e, s.event k = some e ∧ e.fd = fd ∧ e.waitEpoch = s.slots.fdEpoch fd
  closed : ∀ i fd n, s.call i = .returned fd n → ∀ k e closing, s.event k = some e →
    e.fd = fd → e.sampled = some (n, closing) → ¬ s.registering k e → e.listening = false
  kept : ∀ fd, s.slots.fdEpoch fd = s.closes fd ∧ (s.closes fd ≠ 0 → s.slots fd ≠ none)

/-- The step does not latch the close of a number on an event that another trigger has won, and
does not exhaust the epochs of a number. -/
def Kept (s : State ι Co κ) : Label ι Co κ → Prop
  | .step c _ =>
    match (s.co c).pc with
    | some (.initClosed, k) => ((s.event k).all fun e => e.round.won = none) = true
    | _ => True
  | .call i _ =>
    match s.call i with
    | .begin fd => s.slots.fdIsClosing fd = false → s.closes fd + 1 < epochMod
    | _ => True
  | _ => True

/-! ## The invariant -/

/-- The table, the events and the calls are as they should be. -/
structure Inv (s : State ι Co κ) : Prop where
  good : ∀ k e, s.event k = some e → e.Good ((s.co e.owner).stepAt k) (s.closes e.fd)
  owned : ∀ c p k, (s.co c).pc = some (p, k) → ∃ e, s.event k = some e ∧ e.owner = c
  epoch : ∀ fd, (s.slots.slot fd).epoch = s.closes fd
  table : ∀ fd k, k ∈ (s.slots.slot fd).waiters → (s.slots.slot fd).closing = false ∧
    ∃ e c, s.event k = some e ∧ e.fd = fd ∧ e.sampled = some (s.closes fd, c)
  entered : ∀ k e, s.event k = some e → e.listening = true → 0 ≤ e.fd → ¬ s.registering k e →
    k ∈ (s.slots.slot e.fd).waiters ∨
      ∃ i ks, s.call i = .trigger e.fd e.waitEpoch ks ∧ k ∈ ks
  claimed : ∀ i fd n, (s.call i).claim = some (fd, n) → n < s.closes fd
  sole : ∀ i j x, (s.call i).claim = some x → (s.call j).claim = some x → i = j
  last : ∀ c k, (s.co c).last.wait = some k → ∃ e m, s.event k = some e ∧
    e.round = .final m ∧ (s.co c).last = ⟨some k, normalizeTriggerEvent m, e.fd, e.waitEpoch⟩

/-! ## What a step does to the table -/

/-- What a step for the event `k`, which becomes `e`, does to the table. -/
structure Tracks (s : State ι Co κ) (t : FdSlots κ) (k : κ) (e : Event Co) : Prop where
  same : ∀ fd, (t.slot fd).epoch = (s.slots.slot fd).epoch ∧
    (t.slot fd).closing = (s.slots.slot fd).closing
  enters : ∀ fd j, j ∈ (t.slot fd).waiters → j ∈ (s.slots.slot fd).waiters ∨
    j = k ∧ e.fd = fd ∧ (s.slots.slot fd).closing = false ∧
      e.waitEpoch = (s.slots.slot fd).epoch ∧ e.sampled ≠ none
  stays : ∀ fd j, s.expired j = false → (j = k → e.listening = true) →
    j ∈ (s.slots.slot fd).waiters → j ∈ (t.slot fd).waiters

section

variable {s : State ι Co κ} {t : FdSlots κ} {k : κ} {e e' : Event Co} {cr : Bool} {a : Answer}
  {q : Step} {p : Option Step}

omit [DecidableEq κ] in
/-- What a step that leaves the table alone does to it. -/
lemma tracks_of_slot (h : t.slot = s.slots.slot) : Tracks s t k e := by
  refine ⟨fun fd => ?_, fun fd j hj => .inl ?_, fun fd j _ _ hj => ?_⟩
  · rw [h]
    exact ⟨rfl, rfl⟩
  · rwa [h] at hj
  · rwa [h]

/-- What untracking an event that does not listen does to the table. -/
lemma tracks_untrack (hl : e'.listening = false) :
    Tracks s (e.untrack k s.slots s.expired) k e' := by
  unfold Event.untrack
  split
  · exact tracks_of_slot rfl
  · refine ⟨fun fd => ?_, fun fd j hj => .inl ?_, fun fd j he hk hj => ?_⟩
    · obtain ⟨hc, hep⟩ := FdSlots.untrackWaiter_slot s.slots s.expired k e.fd fd
      exact ⟨hep, hc⟩
    · rw [FdSlots.slot_untrackWaiter] at hj
      by_cases hfd : fd = e.fd
      · subst hfd
        rw [Function.update_self] at hj
        exact List.mem_of_mem_filter hj
      · rwa [Function.update_of_ne hfd] at hj
    · have hjk : j ≠ k := by
        rintro rfl
        rw [hk rfl] at hl
        cases hl
      rw [FdSlots.slot_untrackWaiter]
      by_cases hfd : fd = e.fd
      · subst hfd
        rw [Function.update_self]
        exact List.mem_filter.mpr ⟨hj, by simp [hjk, he]⟩
      · rwa [Function.update_of_ne hfd]

omit [DecidableEq κ] in
/-- An event is entered when its registration comes to its end. -/
lemma tracks_trackWaiter {b : Bool}
    (h : s.slots.trackWaiter s.expired k e.fd e.waitEpoch = (t, b)) (hfd : 0 ≤ e.fd)
    (hr : e.ready) : Tracks s t k e ∧
      (b = true → s.expired k = false → k ∈ (t.slot e.fd).waiters) := by
  cases b with
  | false => exact ⟨tracks_of_slot (FdSlots.trackWaiter_false h).2, by rintro ⟨⟩⟩
  | true =>
    obtain ⟨hc, hep, waiters, ht, hsub, hall⟩ := FdSlots.trackWaiter_true h
    obtain ⟨-, n, hn⟩ := hr hfd
    refine ⟨⟨fun fd => ?_, fun fd j hj => ?_, fun fd j he _ hj => ?_⟩, fun _ he => ?_⟩
    · rw [ht]
      by_cases hne : fd = e.fd
      · subst hne
        simp
      · simp [hne]
    · rw [ht] at hj
      by_cases hne : fd = e.fd
      · subst hne
        rw [Function.update_self] at hj
        rcases List.mem_append.mp (hsub.subset hj) with hj | hj
        · exact .inl hj
        · exact .inr ⟨List.mem_singleton.mp hj, rfl, hc, hep.symm, by simp [hn]⟩
      · rw [Function.update_of_ne hne] at hj
        exact .inl hj
    · rw [ht]
      by_cases hne : fd = e.fd
      · subst hne
        rw [Function.update_self]
        exact hall j (List.mem_append_left _ hj) he
      · rwa [Function.update_of_ne hne]
    · rw [ht, Function.update_self]
      exact hall k (List.mem_append_right _ (List.mem_singleton_self k)) he

/-- What a step of a wait does to the table. -/
lemma tracks_of_waitStep (hs : s.waitStep cr k e a q = some (t, e', p))
    (hf : e.Fits (some q)) : Tracks s t k e' := by
  cases q with
  | initFd | initClosed | yield | registCancel | failed | registClosed | commitPark =>
    cases hs
    exact tracks_of_slot rfl
  | initSample =>
    cases hs
    exact tracks_of_slot (FdSlots.slot_sample _ _)
  | initCreate =>
    dsimp only [State.waitStep] at hs
    split at hs <;> cases hs <;> exact tracks_of_slot rfl
  | regist =>
    dsimp only [State.waitStep] at hs
    cases hr : e.round with
    | inited =>
      rw [hr] at hs
      dsimp only at hs
      split at hs <;> cases hs <;> exact tracks_of_slot rfl
    | pending | cancelled | armed | parked | final =>
      rw [hr] at hs
      cases hs
      exact tracks_of_slot rfl
  | registFailed =>
    cases hs
    refine tracks_untrack ?_
    unfold Event.listening
    rw [hf]
    rfl
  | trackWaiter =>
    dsimp only [State.waitStep] at hs
    split at hs
    · cases hs
      exact tracks_of_slot rfl
    · rename_i hne
      rw [not_or, not_lt, Bool.not_eq_false] at hne
      split at hs <;> cases hs <;> exact (tracks_trackWaiter ‹_› hne.1 hf.2).1
  | suspended =>
    dsimp only [State.waitStep] at hs
    split at hs <;> cases hs
    exact tracks_of_slot rfl

/-- An event that listens when its registration has come to its end is in the table. -/
lemma entered_of_waitStep {n : ℕ} (hs : s.waitStep cr k e a q = some (t, e', p))
    (hf : e.Fits (some q)) (hg : e'.Good p n) (hl : e'.listening = true) (hfd : 0 ≤ e'.fd)
    (he : s.expired k = false) (hp : p ≠ some .trackWaiter ∧ p ≠ some .registClosed) :
    k ∈ (t.slot e'.fd).waiters ∨ q = .commitPark ∧ e.listening = true ∧ t = s.slots := by
  have hunarmed : ∀ {e : Event Co}, unarmed e.round = true → e.listening = true → False :=
    fun hu hl => by
      rw [Event.not_listening_of_unarmed hu] at hl
      cases hl
  have hfits := hg.fits
  cases q with
  | initFd =>
    cases hs
    exact (hunarmed hf.1 hl).elim
  | initSample =>
    cases hs
    exact (hunarmed hf.1 hl).elim
  | initClosed | registClosed =>
    cases hs
    rw [Event.listening_trigger (by decide)] at hl
    cases hl
  | initCreate =>
    dsimp only [State.waitStep] at hs
    split at hs <;> cases hs
    · exact (hunarmed hfits hl).elim
    · exact (hunarmed hfits.1 hl).elim
  | yield =>
    cases hs
    exact (hunarmed hf.1 hl).elim
  | registCancel =>
    cases hs
    exact (hunarmed hfits.1 hl).elim
  | regist =>
    dsimp only [State.waitStep] at hs
    cases hr : e.round with
    | inited =>
      rw [hr] at hs
      dsimp only at hs
      split at hs <;> cases hs
      · cases hl
      · exact absurd rfl hp.1
    | pending | cancelled | armed | parked | final =>
      rw [hr] at hs
      cases hs
      exact (hunarmed hf.1 hl).elim
  | registFailed =>
    cases hs
    exact (hunarmed hfits hl).elim
  | failed =>
    cases hs
    exact (hunarmed hf hl).elim
  | trackWaiter =>
    dsimp only [State.waitStep] at hs
    split at hs
    · rename_i hneg
      cases hs
      rcases hneg with hneg | hneg
      · exact absurd hfd (not_le.mpr hneg)
      · rw [(hf.2 hfd).1] at hneg
        cases hneg
    · rename_i hne
      rw [not_or, not_lt, Bool.not_eq_false] at hne
      split at hs <;> cases hs
      · exact .inl ((tracks_trackWaiter ‹_› hne.1 hf.2).2 rfl he)
      · exact absurd rfl hp.2
  | commitPark =>
    cases hs
    refine .inr ⟨rfl, ?_, rfl⟩
    unfold Event.listening Event.commitPark at hl
    unfold Event.listening
    cases hr : e.round <;> rw [hr] at hl <;> first | rfl | cases hl
  | suspended =>
    dsimp only [State.waitStep] at hs
    split at hs <;> cases hs
    rw [hfits] at hl
    cases hl

end

/-! ## The steps keep the invariant -/

section

variable [DecidableEq Co] {s : State ι Co κ} {t : FdSlots κ} {k j : κ} {e e' : Event Co} {c : Co}
  {x : CoState κ}

omit [DecidableEq Co] in
/-- An event that listens has not been destroyed. -/
lemma Inv.expired_eq_false (hI : Inv s) (he : s.event k = some e) (hl : e.listening = true) :
    s.expired k = false := by
  have hg := hI.good k e he
  unfold State.expired
  rw [he]
  refine hg.alive fun hp => ?_
  have hf := hg.fits
  rw [hp, Event.Fits, hl] at hf
  cases hf

/-- The events after a step of a wait. -/
lemma move_event : (s.move t k e c x).event j = if j = k then some e else s.event j := by
  by_cases h : j = k
  · subst h
    simp [State.move, State.setEvent, State.setCo]
  · simp [State.move, State.setEvent, State.setCo, h]

/-- The coroutines after a step of a wait. -/
lemma move_co {d : Co} : (s.move t k e c x).co d = if d = c then x else s.co d := by
  by_cases h : d = c
  · subst h
    simp [State.move, State.setCo]
  · simp [State.move, State.setEvent, State.setCo, h]

/-- A step for the event `k` and its owner keeps the invariant. -/
lemma Inv.move (hI : Inv s) (he : s.event k = some e) (hc : e.owner = c) (hf : e.Follows e')
    (ht : Tracks s t k e')
    (hx : x.pc = (s.co c).pc ∨
      (∃ q, (s.co c).pc = some (q, k)) ∧ ∀ q j, x.pc = some (q, j) → j = k)
    (hg : e'.Good (x.stepAt k) (s.closes e.fd))
    (hent : e'.listening = true → 0 ≤ e'.fd →
      ¬ (x.stepAt k = some .trackWaiter ∨ x.stepAt k = some .registClosed) →
      k ∈ (t.slot e'.fd).waiters ∨ ∃ i ks, s.call i = .trigger e'.fd e'.waitEpoch ks ∧ k ∈ ks)
    (hlast : x.last = (s.co c).last ∨ ∃ m, e'.round = .final m ∧
      x.last = ⟨some k, normalizeTriggerEvent m, e'.fd, e'.waitEpoch⟩) :
    Inv (s.move t k e' c x) := by
  have hco : ∀ d j, j ≠ k → ((s.move t k e' c x).co d).stepAt j = (s.co d).stepAt j := by
    intro d j hj
    rw [move_co]
    split
    · rename_i hd
      subst hd
      rcases hx with hx | ⟨⟨q, hq⟩, hx⟩
      · unfold CoState.stepAt
        rw [hx]
      · have hold : (s.co d).stepAt j = none := by
          unfold CoState.stepAt
          rw [hq]
          simp [hj.symm]
        rw [hold]
        unfold CoState.stepAt
        cases hpc : x.pc with
        | none => rfl
        | some y =>
          have := hx y.1 y.2 hpc
          simp [this, hj.symm]
    · rfl
  have hself : (s.move t k e' c x).co c = x := by rw [move_co, if_pos rfl]
  have hev : ∀ j ej, (s.move t k e' c x).event j = some ej →
      j = k ∧ ej = e' ∨ j ≠ k ∧ s.event j = some ej := fun j ej hj => by
    rw [move_event] at hj
    split at hj
    · cases hj
      exact .inl ⟨‹_›, rfl⟩
    · exact .inr ⟨‹_›, hj⟩
  have hlater : ∀ j ej m, s.event j = some ej → ej.round = .final m →
      ∃ ej', (s.move t k e' c x).event j = some ej' ∧ ej'.round = .final m ∧ ej'.fd = ej.fd ∧
        ej'.waitEpoch = ej.waitEpoch := fun j ej m hj hm => by
    rw [move_event]
    split
    · rename_i hjk
      subst hjk
      rw [he] at hj
      cases hj
      exact ⟨e', rfl, (hf.final m hm).1, hf.fd, (hf.final m hm).2⟩
    · exact ⟨ej, hj, hm, rfl, rfl⟩
  refine
    { good := fun j ej hj => ?_
      owned := fun d q j hj => ?_
      epoch := fun fd => (ht.same fd).1.trans (hI.epoch fd)
      table := fun fd j hj => ?_
      entered := fun j ej hj hl hfd hr => ?_
      claimed := hI.claimed
      sole := hI.sole
      last := fun d j hj => ?_ }
  · rcases hev j ej hj with ⟨rfl, rfl⟩ | ⟨hjk, hj⟩
    · rw [hf.owner, hc, hself, hf.fd]
      exact hg
    · rw [hco _ _ hjk]
      exact hI.good j ej hj
  · by_cases hjk : j = k
    · subst hjk
      refine ⟨e', by rw [move_event, if_pos rfl], ?_⟩
      rw [move_co] at hj
      split at hj
      · rename_i hd
        rw [hf.owner, hc, hd]
      · obtain ⟨ej, hej, hown⟩ := hI.owned d q j hj
        rw [he] at hej
        cases hej
        rw [hf.owner, hown]
    · have hd : (s.co d).pc = some (q, j) := by
        rw [move_co] at hj
        split at hj
        · rename_i hd
          subst hd
          rcases hx with hx | ⟨-, hx⟩
          · rw [← hx, hj]
          · exact absurd (hx q j hj) hjk
        · exact hj
      obtain ⟨ej, hej, hown⟩ := hI.owned d q j hd
      exact ⟨ej, by rw [move_event, if_neg hjk, hej], hown⟩
  · change j ∈ (t.slot fd).waiters at hj
    change (t.slot fd).closing = false ∧ _
    rw [(ht.same fd).2]
    rcases ht.enters fd j hj with hold | ⟨rfl, hfd, hcl, hep, hsome⟩
    · obtain ⟨hcl, ej, cl, hej, hfd, hs⟩ := hI.table fd j hold
      refine ⟨hcl, ?_⟩
      by_cases hjk : j = k
      · subst hjk
        rw [he] at hej
        cases hej
        refine ⟨e', cl, by rw [move_event, if_pos rfl], by rw [hf.fd, hfd], ?_⟩
        rw [(hf.sampled (by simp [hs])).1, hs]
        rfl
      · exact ⟨ej, cl, by rw [move_event, if_neg hjk, hej], hfd, hs⟩
    · obtain ⟨⟨n, cl⟩, hn⟩ := Option.ne_none_iff_exists'.mp hsome
      have hw := (hg.sample n cl hn).2.1
      refine ⟨hcl, e', cl, by rw [move_event, if_pos rfl], hfd, ?_⟩
      rw [hn, ← hw, hep, hI.epoch]
      rfl
  · rcases hev j ej hj with ⟨rfl, rfl⟩ | ⟨hjk, hj⟩
    · refine hent hl hfd ?_
      rwa [State.registering, hf.owner, hc, hself] at hr
    · rw [State.registering, hco _ _ hjk] at hr
      refine (hI.entered j ej hj hl hfd hr).imp_left fun hm => ?_
      exact ht.stays _ j (hI.expired_eq_false hj hl) (fun h => absurd h hjk) hm
  · rw [move_co] at hj ⊢
    split at hj
    · rename_i hd
      subst hd
      rw [if_pos rfl]
      rcases hlast with hlast | ⟨m, hm, hlast⟩
      · rw [hlast] at hj ⊢
        obtain ⟨ej, m, hej, hm, hl⟩ := hI.last d j hj
        obtain ⟨ej', h1, h2, h3, h4⟩ := hlater j ej m hej hm
        exact ⟨ej', m, h1, h2, by rw [hl, h3, h4]⟩
      · rw [hlast] at hj ⊢
        cases hj
        exact ⟨e', m, by rw [move_event, if_pos rfl], hm, rfl⟩
    · rename_i hd
      rw [if_neg hd]
      obtain ⟨ej, m, hej, hm, hl⟩ := hI.last d j hj
      obtain ⟨ej', h1, h2, h3, h4⟩ := hlater j ej m hej hm
      exact ⟨ej', m, h1, h2, by rw [hl, h3, h4]⟩

/-- A step of a coroutine keeps the invariant. -/
lemma Inv.stepCo {s' : State ι Co κ} {a : Answer} (hI : Inv s) (hk : Kept s (.step c a))
    (hs : s.stepCo c a = some s') : Inv s' := by
  unfold State.stepCo at hs
  split at hs
  · cases hs
  · rename_i q k hpc
    obtain ⟨e, he, hs⟩ := Option.bind_eq_some_iff.mp hs
    obtain ⟨⟨t, e', p⟩, hw, rfl⟩ := Option.map_eq_some_iff.mp hs
    obtain ⟨e₂, he₂, hown⟩ := hI.owned c q k hpc
    rw [he] at he₂
    cases he₂
    have hat : (s.co e.owner).stepAt k = some q := by
      rw [hown]
      unfold CoState.stepAt
      rw [hpc]
      simp
    have hnew : ({ s.co c with pc := p.map fun p => (p, k) } : CoState κ).stepAt k = p := by
      unfold CoState.stepAt
      cases p <;> simp
    have hold := hI.good k e he
    rw [hat] at hold
    have hgood : e'.Good p (s.closes e.fd) := by
      refine good_of_waitStep hw hold (hI.epoch e.fd) fun hq => ?_
      subst hq
      dsimp only [Kept] at hk
      rw [hpc] at hk
      dsimp only at hk
      rw [he] at hk
      simpa using hk
    have hf := follows_of_waitStep hw hold.fits
    refine hI.move he hown hf (tracks_of_waitStep hw hold.fits) (.inr ⟨⟨q, hpc⟩, ?_⟩)
      (by rwa [hnew]) (fun hl hfd hr => ?_) (.inl rfl)
    · intro q' j hj
      cases p with
      | none => cases hj
      | some p =>
        cases hj
        rfl
    · rw [hnew, not_or] at hr
      have hne : s.expired k = false := by
        unfold State.expired
        rw [he]
        exact hold.alive (by simp)
      rcases entered_of_waitStep hw hold.fits hgood hl hfd hne hr with hin | ⟨rfl, hle, rfl⟩
      · exact .inl hin
      · rw [hf.fd] at hfd ⊢
        obtain ⟨-, n, hn⟩ := hold.fits hle hfd
        rw [(hf.sampled (by simp [hn])).2]
        refine hI.entered k e he hle hfd ?_
        rw [State.registering, hat]
        simp

/-- A step that touches one event only keeps the invariant. -/
lemma Inv.setEvent (hI : Inv s) (he : s.event k = some e) (hf : e.Follows e')
    (hw : e'.waitEpoch = e.waitEpoch) (hl : e'.listening = true → e.listening = true)
    (hg : e'.Good ((s.co e.owner).stepAt k) (s.closes e.fd)) : Inv (s.setEvent k e') := by
  have hmove : s.setEvent k e' = s.move s.slots k e' e.owner (s.co e.owner) := by
    simp [State.move, State.setCo, State.setEvent]
  rw [hmove]
  refine hI.move he rfl hf (tracks_of_slot rfl) (.inl rfl) hg (fun hl' hfd hr => ?_) (.inl rfl)
  rw [hf.fd, hw]
  exact hI.entered k e he (hl hl') (by rwa [← hf.fd]) hr

/-- A trigger keeps the invariant. -/
lemma Inv.trigger (hI : Inv s) (he : s.event k = some e) (m : EventMask) :
    Inv (s.setEvent k (e.trigger m)) :=
  hI.setEvent he Event.follows_trigger Event.same_trigger.waitEpoch
    Event.decides_trigger.listening ((hI.good k e he).trigger m)

/-- A withdrawal keeps the invariant. -/
lemma Inv.unRegist (hI : Inv s) (he : s.event k = some e) : Inv (s.setEvent k e.unRegist) :=
  hI.setEvent he Event.follows_unRegist Event.same_unRegist.waitEpoch
    Event.decides_unRegist.listening (hI.good k e he).unRegist

/-- The release of an event that its owner is done with keeps the invariant. -/
lemma Inv.release (hI : Inv s) (he : s.event k = some e)
    (hp : (s.co e.owner).stepAt k = none) : Inv (s.setEvent k { e with expired := true }) := by
  have hg := hI.good k e he
  rw [hp] at hg
  refine hI.setEvent he ⟨rfl, rfl, fun _ => ⟨rfl, rfl⟩, fun m hm => ⟨hm, rfl⟩⟩ rfl id ?_
  rw [hp]
  exact ⟨hg.fits, hg.sample, hg.latched, fun h => absurd rfl h, hg.decided, hg.unRegisted⟩

/-- A step of the thread that has decided an event keeps the invariant. -/
lemma Inv.complete (hI : Inv s) (he : s.event k = some e) (hs : s.complete k e = some (t, e')) :
    Inv (s.move t k e' e.owner
      { s.co e.owner with last := State.lastWait k e (s.co e.owner).last }) := by
  have hg := hI.good k e he
  have hstage : ∀ st, { e with stage := st }.Fits ((s.co e.owner).stepAt k) := fun st =>
    Event.Decides.fits ⟨⟨rfl, rfl, rfl, rfl, rfl, rfl⟩, id, id, id, id, id⟩ hg.fits
  have hf : ∀ st, e.Follows { e with stage := st } := fun st =>
    ⟨rfl, rfl, fun _ => ⟨rfl, rfl⟩, fun m hm => ⟨hm, rfl⟩⟩
  unfold State.complete at hs
  cases hst : e.stage with
  | none | called | unRegisted =>
    rw [hst] at hs
    cases hs
  | untrack =>
    rw [hst] at hs
    cases hs
    obtain ⟨m, hm⟩ := hg.decided (.inl hst)
    have hl : ({ e with stage := Stage.callback } : Event Co).listening = false := by
      rw [Event.listening, hm]
      rfl
    refine hI.move he rfl (hf _) (tracks_untrack hl) (.inl rfl)
      ⟨hstage _, hg.sample, hg.latched, hg.alive, fun _ => ⟨m, hm⟩, by rintro ⟨⟩⟩
      (fun hl' => by rw [hl] at hl'; cases hl') (.inl ?_)
    unfold State.lastWait
    rw [hst]
  | callback =>
    rw [hst] at hs
    cases hs
    obtain ⟨m, hm⟩ := hg.decided (.inr (.inl hst))
    have hl : ({ e with stage := Stage.called } : Event Co).listening = false := by
      rw [Event.listening, hm]
      rfl
    refine hI.move he rfl (hf _) (tracks_of_slot rfl) (.inl rfl)
      ⟨hstage _, hg.sample, hg.latched, hg.alive, fun _ => ⟨m, hm⟩, by rintro ⟨⟩⟩
      (fun hl' => by rw [hl] at hl'; cases hl') (.inr ⟨m, hm, ?_⟩)
    unfold State.lastWait
    rw [hst, hm]
    rfl
  | unRegist =>
    rw [hst] at hs
    cases hs
    have hc := hg.unRegisted hst
    have hl : ({ e with stage := Stage.unRegisted } : Event Co).listening = false := by
      rw [Event.listening, hc]
      rfl
    refine hI.move he rfl (hf _) (tracks_untrack hl) (.inl rfl)
      ⟨hstage _, hg.sample, hg.latched, hg.alive, (by rintro (h | h | h) <;> cases h),
        by rintro ⟨⟩⟩
      (fun hl' => by rw [hl] at hl'; cases hl') (.inl ?_)
    unfold State.lastWait
    rw [hst]

/-- A coroutine begins to wait on a fresh event. -/
lemma Inv.wait (hI : Inv s) (hpc : (s.co c).pc = none) (hk : s.event k = none) (fd : ℤ) :
    Inv (s.move s.slots k { owner := c, fd } c { s.co c with pc := some (.initFd, k) }) := by
  have hold : ∀ j ej, s.event j = some ej → j ≠ k := by
    rintro j ej hj rfl
    rw [hk] at hj
    cases hj
  have hev : ∀ {j ej}, s.event j = some ej →
      (s.move s.slots k { owner := c, fd } c { s.co c with pc := some (.initFd, k) }).event j =
        some ej := fun hj => by rw [move_event, if_neg (hold _ _ hj), hj]
  have hat : ∀ d j, j ≠ k → ((s.move s.slots k { owner := c, fd } c
      { s.co c with pc := some (.initFd, k) }).co d).stepAt j = (s.co d).stepAt j :=
    fun d j hj => by
    rw [move_co]
    split
    · rename_i hd
      subst hd
      unfold CoState.stepAt
      simp [hpc, hj.symm]
    · rfl
  refine
    { good := fun j ej hj => ?_
      owned := fun d q j hj => ?_
      epoch := hI.epoch
      table := fun fd' j hj => ?_
      entered := fun j ej hj hl hfd hr => ?_
      claimed := hI.claimed
      sole := hI.sole
      last := fun d j hj => ?_ }
  · rw [move_event] at hj
    split at hj
    · rename_i hjk
      subst hjk
      rw [Option.some.injEq] at hj
      subst hj
      have hself : ({ s.co c with pc := some (.initFd, j) } : CoState κ).stepAt j =
          some .initFd := by simp [CoState.stepAt]
      rw [move_co, if_pos rfl, hself]
      exact Event.good_new c fd
    · rename_i hjk
      rw [hat _ _ hjk]
      exact hI.good j ej hj
  · rw [move_co] at hj
    split at hj
    · rename_i hd
      cases hj
      exact ⟨_, by rw [move_event, if_pos rfl], hd.symm⟩
    · obtain ⟨ej, hej, hown⟩ := hI.owned d q j hj
      exact ⟨ej, hev hej, hown⟩
  · obtain ⟨hcl, ej, cl, hej, hfd, hs⟩ := hI.table fd' j hj
    exact ⟨hcl, ej, cl, hev hej, hfd, hs⟩
  · rw [move_event] at hj
    split at hj
    · cases hj
      exact absurd hl (by simp [Event.listening])
    · rename_i hjk
      rw [State.registering, hat _ _ hjk] at hr
      exact hI.entered j ej hj hl hfd hr
  · have hlast : ((s.move s.slots k { owner := c, fd } c
        { s.co c with pc := some (.initFd, k) }).co d).last = (s.co d).last := by
      rw [move_co]
      split
      · rename_i hd
        subst hd
        rfl
      · rfl
    rw [hlast] at hj ⊢
    obtain ⟨ej, m, hej, hm, hl⟩ := hI.last d j hj
    exact ⟨ej, m, hev hej, hm, hl⟩

/-- A request to cancel keeps the invariant. -/
lemma Inv.requestCancel (hI : Inv s) (c : Co) :
    Inv (s.setCo c { s.co c with cancelRequested := true }) := by
  have hpc : ∀ d, ((s.setCo c { s.co c with cancelRequested := true }).co d).pc = (s.co d).pc ∧
      ((s.setCo c { s.co c with cancelRequested := true }).co d).last = (s.co d).last :=
    fun d => by
      unfold State.setCo
      by_cases hd : d = c
      · subst hd
        simp
      · simp [hd]
  have hat : ∀ d j, ((s.setCo c { s.co c with cancelRequested := true }).co d).stepAt j =
      (s.co d).stepAt j := fun d j => by
    unfold CoState.stepAt
    rw [(hpc d).1]
  exact
    { hI with
      good := fun j ej hj => by
        rw [hat]
        exact hI.good j ej hj
      owned := fun d q j hj => hI.owned d q j (by rwa [(hpc d).1] at hj)
      entered := fun j ej hj hl hfd hr => by
        rw [State.registering, hat] at hr
        exact hI.entered j ej hj hl hfd hr
      last := fun d j hj => by
        rw [(hpc d).2] at hj ⊢
        exact hI.last d j hj }

/-! ### The calls -/

variable [DecidableEq ι] {i : ι} {f : Frame κ}

omit [DecidableEq Co] in
/-- A call goes on, and does not forget an event that listens. -/
lemma Inv.setCall (hI : Inv s) (ht : t.slot = s.slots.slot)
    (hclaim : f.claim = (s.call i).claim ∨ f.claim = none)
    (hks : ∀ fd n ks j ej, s.call i = .trigger fd n ks → j ∈ ks → s.event j = some ej →
      ej.listening = true → ∃ ks', f = .trigger fd n ks' ∧ j ∈ ks') :
    Inv ({ s with slots := t }.setCall i f) := by
  have hself : ({ s with slots := t }.setCall i f).call i = f := by simp [State.setCall]
  have hother : ∀ {j}, j ≠ i → ({ s with slots := t }.setCall i f).call j = s.call j :=
    fun hj => by simp [State.setCall, hj]
  have hcl : ∀ {j x}, (({ s with slots := t }.setCall i f).call j).claim = some x →
      (s.call j).claim = some x := fun {j x} h => by
    by_cases hj : j = i
    · subst hj
      rw [hself] at h
      rcases hclaim with hc | hc
      · rw [← hc, h]
      · rw [hc] at h
        cases h
    · rwa [hother hj] at h
  exact
    { good := hI.good
      owned := hI.owned
      epoch := fun fd => (congrArg FdSlot.epoch (congrFun ht fd)).trans (hI.epoch fd)
      table := fun fd j hj => by
        change j ∈ (t.slot fd).waiters at hj
        change (t.slot fd).closing = false ∧ _
        rw [ht] at hj ⊢
        exact hI.table fd j hj
      entered := fun j ej hj hl hfd hr => by
        change j ∈ (t.slot _).waiters ∨ _
        rw [ht]
        refine (hI.entered j ej hj hl hfd hr).imp_right ?_
        rintro ⟨i', ks, hi', hm⟩
        by_cases hii : i' = i
        · subst hii
          obtain ⟨ks', rfl, hm'⟩ := hks _ _ ks j ej hi' hm hj hl
          exact ⟨i', ks', hself, hm'⟩
        · exact ⟨i', ks, by rw [hother hii, hi'], hm⟩
      claimed := fun j fd n h => hI.claimed j fd n (hcl h)
      sole := fun j j' x h h' => hI.sole j j' x (hcl h) (hcl h')
      last := hI.last }

omit [DecidableEq κ] [DecidableEq Co] [DecidableEq ι] in
/-- What holds of an event stays true as the epochs go on. -/
lemma Event.Good.mono {p : Option Step} {n m : ℕ} (h : e.Good p n) (hn : n ≤ m) : e.Good p m :=
  ⟨h.fits, fun j cl hj => ⟨(h.sample j cl hj).1, (h.sample j cl hj).2.1,
    (h.sample j cl hj).2.2.trans hn⟩, h.latched, h.alive, h.decided, h.unRegisted⟩

omit [DecidableEq Co] in
/-- A claim keeps the invariant: what was in the table is going to be triggered. -/
lemma Inv.claim (hI : Inv s) {fd : ℤ} {ks : List κ} (hi : s.call i = .begin fd)
    (hk : s.slots.fdIsClosing fd = false → s.closes fd + 1 < epochMod)
    (hs : s.slots.beginFdClose s.expired fd = (t, some ks)) :
    Inv (s.claim i fd t ks) := by
  obtain ⟨hcl, hks, ht⟩ := FdSlots.beginFdClose_some hs
  have hle : ∀ fd', s.closes fd' ≤ Function.update s.closes fd (s.closes fd + 1) fd' :=
    fun fd' => by
      by_cases h : fd' = fd
      · subst h
        simp
      · simp [h]
  have hself : (s.claim i fd t ks).call i = .trigger fd (s.closes fd) ks := by
    simp [State.claim, State.setCall]
  have hother : ∀ {j}, j ≠ i → (s.claim i fd t ks).call j = s.call j := fun hj => by
    simp [State.claim, State.setCall, hj]
  refine
    { good := fun j ej hj => (hI.good j ej hj).mono (hle ej.fd)
      owned := hI.owned
      epoch := fun fd' => ?_
      table := fun fd' j hj => ?_
      entered := fun j ej hj hl hfd hr => ?_
      claimed := fun j fd' n h => ?_
      sole := fun j j' x h h' => ?_
      last := hI.last }
  · change (t.slot fd').epoch = Function.update s.closes fd (s.closes fd + 1) fd'
    rw [ht]
    by_cases h : fd' = fd
    · subst h
      rw [Function.update_self, Function.update_self, FdSlot.close, hI.epoch]
      exact Nat.mod_eq_of_lt (hk (by rw [FdSlots.fdIsClosing_eq, hcl]))
    · rw [Function.update_of_ne h, Function.update_of_ne h]
      exact hI.epoch fd'
  · change j ∈ (t.slot fd').waiters at hj
    change (t.slot fd').closing = false ∧
      ∃ e c, s.event j = some e ∧ e.fd = fd' ∧
        e.sampled = some (Function.update s.closes fd (s.closes fd + 1) fd', c)
    rw [ht] at hj ⊢
    by_cases h : fd' = fd
    · subst h
      rw [Function.update_self] at hj
      cases hj
    · rw [Function.update_of_ne h] at hj
      rw [Function.update_of_ne h, Function.update_of_ne h]
      exact hI.table fd' j hj
  · change j ∈ (t.slot ej.fd).waiters ∨ _
    rcases hI.entered j ej hj hl hfd hr with hm | ⟨i', ks', hi', hm⟩
    · by_cases h : ej.fd = fd
      · subst h
        have hjs : s.event j = some ej := hj
        obtain ⟨-, ej', cl, hej', -, hsam⟩ := hI.table _ j hm
        rw [hjs] at hej'
        cases hej'
        have hw := ((hI.good j ej hjs).sample _ _ hsam).2.1
        refine .inr ⟨i, ks, by rw [hself, hw], ?_⟩
        rw [hks]
        exact List.mem_filter.mpr ⟨hm, by rw [hI.expired_eq_false hj hl]; rfl⟩
      · left
        rw [ht, Function.update_of_ne h]
        exact hm
    · refine .inr ⟨i', ks', ?_, hm⟩
      rw [hother ?_, hi']
      rintro rfl
      rw [hi] at hi'
      cases hi'
  · change n < Function.update s.closes fd (s.closes fd + 1) fd'
    by_cases hji : j = i
    · subst hji
      rw [hself] at h
      cases h
      rw [Function.update_self]
      exact Nat.lt_succ_self _
    · rw [hother hji] at h
      exact (hI.claimed j fd' n h).trans_le (hle fd')
  · have hnew : ∀ {j}, j ≠ i → (s.call j).claim = some (fd, s.closes fd) → False :=
      fun _ h => (hI.claimed _ _ _ h).false
    by_cases hj : j = i <;> by_cases hj' : j' = i
    · rw [hj, hj']
    · subst hj
      rw [hself] at h
      cases h
      rw [hother hj'] at h'
      exact (hnew hj' h').elim
    · subst hj'
      rw [hself] at h'
      cases h'
      rw [hother hj] at h
      exact (hnew hj h).elim
    · rw [hother hj] at h
      rw [hother hj'] at h'
      exact hI.sole j j' x h h'

/-- A step of a call keeps the invariant. -/
lemma Inv.stepCall {s' : State ι Co κ} {b : Bool} (hI : Inv s) (hk : Kept s (.call i b))
    (hs : s.stepCall i b = some s') : Inv s' := by
  unfold State.stepCall at hs
  split at hs
  · rename_i fd hi
    have hnone : ∀ fd' n ks j ej, s.call i = .trigger fd' n ks → j ∈ ks → s.event j = some ej →
        ej.listening = true → ∃ ks', (Frame.threw fd : Frame κ) = .trigger fd' n ks' ∧ j ∈ ks' := by
      intro fd' n ks j ej hi'
      rw [hi] at hi'
      cases hi'
    split at hs
    · split at hs <;> cases hs
      exact hI.setCall rfl (.inr rfl) hnone
    · split at hs
      · rename_i t ht
        cases hs
        refine hI.setCall (FdSlots.beginFdClose_none ht).2 (.inr rfl) ?_
        intro fd' n ks j ej hi'
        rw [hi] at hi'
        cases hi'
      · rename_i t ks ht
        cases hs
        dsimp only [Kept] at hk
        rw [hi] at hk
        exact hI.claim hi hk ht
  · rename_i fd n k ks hi
    obtain ⟨e, he, rfl⟩ := Option.map_eq_some_iff.mp hs
    have hI' := hI.trigger he pollEventClosed
    refine hI'.setCall rfl (.inl ?_) ?_
    · change _ = (s.call i).claim
      rw [hi]
      rfl
    · intro fd' n' ks' j ej hi' hj hej hl
      change s.call i = _ at hi'
      rw [hi] at hi'
      cases hi'
      refine ⟨ks, rfl, ?_⟩
      rcases List.mem_cons.mp hj with rfl | hj
      · have hej' : ej = e.trigger pollEventClosed := by
          simpa [State.setEvent, eq_comm] using hej
        rw [hej', Event.listening_trigger (by decide)] at hl
        cases hl
      · exact hj
  · rename_i fd n hi
    cases hs
    refine hI.setCall rfl (.inl ?_) ?_
    · rw [hi]
      rfl
    · intro fd' n' ks' j ej hi' hj
      rw [hi] at hi'
      cases hi'
      cases hj
  · cases hs

omit [DecidableEq Co] [DecidableEq ι] in
/-- The end of a close keeps the invariant. -/
lemma Inv.endFdClose (hI : Inv s) (fd : ℤ) : Inv { s with slots := s.slots.endFdClose fd } := by
  have hslot : ∀ fd', ((s.slots.endFdClose fd).slot fd').epoch = (s.slots.slot fd').epoch ∧
      ((s.slots.endFdClose fd).slot fd').waiters = (s.slots.slot fd').waiters ∧
      ((s.slots.slot fd').closing = false →
        ((s.slots.endFdClose fd).slot fd').closing = false) := fun fd' => by
    rw [FdSlots.slot_endFdClose]
    by_cases h : fd' = fd
    · subst h
      simp
    · simp [h]
  exact
    { hI with
      epoch := fun fd' => (hslot fd').1.trans (hI.epoch fd')
      table := fun fd' j hj => by
        change j ∈ ((s.slots.endFdClose fd).slot fd').waiters at hj
        rw [(hslot fd').2.1] at hj
        obtain ⟨hc, h⟩ := hI.table fd' j hj
        exact ⟨(hslot fd').2.2 hc, h⟩
      entered := fun j ej hj hl hfd hr => by
        change j ∈ ((s.slots.endFdClose fd).slot _).waiters ∨ _
        rw [(hslot _).2.1]
        exact hI.entered j ej hj hl hfd hr }

/-- Every step that is kept keeps the invariant. -/
lemma Inv.next {s' : State ι Co κ} {l : Label ι Co κ} (hI : Inv s) (hk : Kept s l)
    (hs : next s l = some s') : Inv s' := by
  cases l with
  | wait c k fd =>
    rw [FdWait.next] at hs
    split at hs <;> cases hs
    rename_i h
    exact hI.wait h.1 h.2.2 fd
  | step c a => exact hI.stepCo hk hs
  | requestCancel c =>
    cases hs
    exact hI.requestCancel c
  | trigger k m =>
    obtain ⟨e, he, rfl⟩ := Option.map_eq_some_iff.mp hs
    exact hI.trigger he m
  | unRegist k =>
    obtain ⟨e, he, rfl⟩ := Option.map_eq_some_iff.mp hs
    exact hI.unRegist he
  | complete k =>
    obtain ⟨e, he, hs⟩ := Option.bind_eq_some_iff.mp hs
    obtain ⟨⟨t, e'⟩, hc, rfl⟩ := Option.map_eq_some_iff.mp hs
    exact hI.complete he hc
  | release k =>
    obtain ⟨e, he, hs⟩ := Option.bind_eq_some_iff.mp hs
    split at hs <;> cases hs
    rename_i h
    exact hI.release he h.1
  | begin i fd =>
    rw [FdWait.next] at hs
    split at hs <;> cases hs
    rename_i hi
    refine hI.setCall rfl (.inr rfl) ?_
    intro fd' n ks j ej hi'
    rw [hi] at hi'
    cases hi'
  | call i b => exact hI.stepCall hk hs
  | endFdClose fd =>
    cases hs
    exact hI.endFdClose fd
  | waitFdCloseReady fd =>
    cases hs
    exact hI

end

/-! ## Main result -/

section

variable [DecidableEq Co] [DecidableEq ι] {s : State ι Co κ}

/-- The invariant holds in every state of a run of kept steps. -/
lemma inv_of_kept (h : (system ι Co κ).ReachableWhen Kept s) : Inv s := by
  refine h.induct ?_ fun s l s' hI hk hs => hI.next hk hs
  rintro s rfl
  exact
    { good := by rintro k e ⟨⟩
      owned := by rintro c p k ⟨⟩
      epoch := fun _ => rfl
      table := by rintro fd k ⟨⟩
      entered := by rintro k e ⟨⟩
      claimed := by rintro i fd n ⟨⟩
      sole := by rintro i j x ⟨⟩
      last := by rintro c k ⟨⟩ }

/-- The mask of a close still names the close after it has been normalized. -/
lemma closed_normalize : normalizeTriggerEvent pollEventClosed &&& pollEventClosed ≠ 0 := by
  decide

/-- As long as the latch of a close is not forestalled by another trigger and no number runs out
of epochs, the close epochs are sound. -/
theorem epochSound_of_kept (h : (system ι Co κ).ReachableWhen Kept s) : EpochSound s := by
  have hI := inv_of_kept h
  refine ⟨fun c k e n closing hlast he hsam hor => ?_, fun fd k hk => ?_,
    fun i fd n hi k e closing he hfd hsam hr => ?_, fun fd => ?_⟩
  · obtain ⟨e', m, he', hm, hl⟩ := hI.last c k hlast
    rw [he] at he'
    cases he'
    have hg := hI.good k e he
    obtain ⟨hfd, hw, hn⟩ := hg.sample n closing hsam
    unfold State.fdWaitEpochValid
    rw [hl]
    dsimp only
    split
    · rfl
    · rename_i hbit
      rw [if_neg (by simp [hfd]), FdSlots.fdEpoch_eq, hI.epoch, beq_eq_false_iff_ne, hw]
      rcases hor with hlt | rfl
      · exact hlt.ne'
      · exfalso
        refine hbit ?_
        rcases hg.latched n hsam with hp | hwon | hcan
        · have hu := hg.fits
          rw [hp, Event.Fits, hm] at hu
          cases hu.1
        · rw [hm] at hwon
          cases hwon
          exact closed_normalize
        · rw [hm] at hcan
          cases hcan
  · obtain ⟨hc, e, cl, he, hfd, hsam⟩ := hI.table fd k hk
    refine ⟨hc, e, he, hfd, ?_⟩
    rw [FdSlots.fdEpoch_eq, hI.epoch]
    exact ((hI.good k e he).sample _ _ hsam).2.1
  · by_contra hl
    rw [Bool.not_eq_false] at hl
    obtain ⟨h0, hw, -⟩ := (hI.good k e he).sample n closing hsam
    have hclaim : (s.call i).claim = some (fd, n) := by
      rw [hi]
      rfl
    rcases hI.entered k e he hl h0 hr with hm | ⟨j, ks, hj, -⟩
    · obtain ⟨-, e', cl, he', -, hsam'⟩ := hI.table e.fd k hm
      rw [he] at he'
      cases he'
      rw [hsam] at hsam'
      cases hsam'
      rw [hfd] at hclaim
      exact (hI.claimed i fd _ hclaim).false
    · have hji : j = i := by
        refine hI.sole j i (fd, n) ?_ hclaim
        rw [hj, hfd, hw]
        rfl
      rw [hji, hi] at hj
      cases hj
  · refine ⟨by rw [FdSlots.fdEpoch_eq, hI.epoch], fun hne hnone => hne ?_⟩
    rw [← hI.epoch]
    unfold FdSlots.slot
    rw [hnone]
    rfl

/-- Whether a step is kept can be computed. -/
instance decidableKept (s : State ι Co κ) (l : Label ι Co κ) : Decidable (Kept s l) := by
  cases l <;> unfold Kept <;> dsimp only
  case step => split <;> infer_instance
  case call => split <;> infer_instance
  all_goals infer_instance

end

/-- The coroutine `c` waits on the event `k` for the number `fd`, up to the park. -/
def park {ι Co κ : Type*} (c : Co) (k : κ) (fd : ℤ) : List (Label ι Co κ) :=
  .wait c k fd :: List.replicate 8 (.step c {})

/-- The call `i` closes the number `fd` while `c` waits for it on `k` and `d` is about to enter its
event `j`; then `c` is resumed. -/
def closeParked {ι Co κ : Type*} (i : ι) (c d : Co) (k j : κ) (fd : ℤ) : List (Label ι Co κ) :=
  List.flatten [park c k fd, .wait d j fd :: List.replicate 6 (.step d {}),
    [.begin i fd, .call i false, .call i false, .call i false, .endFdClose fd],
    [.step d {}, .step d {}, .step d {}, .complete k, .complete k, .step c {}]]

/-- The close wakes the coroutine that is parked, and the event of the other one is refused. -/
theorem epochSound_of_kept_close : ∃ s : State (Fin 1) (Fin 2) (Fin 2),
    (system (Fin 1) (Fin 2) (Fin 2)).ReachableWhen Kept s ∧ s.call 0 = .returned 3 0 ∧
      (s.co 0).pc = none ∧ s.fdWaitEpochValid 0 3 = false ∧ EpochSound s := by
  have hrun : (system (Fin 1) (Fin 2) (Fin 2)).endsInWhen Kept {} (closeParked 0 0 1 0 1 3)
      (fun s => s.call 0 = .returned 3 0 ∧ (s.co 0).pc = none ∧
        s.fdWaitEpochValid 0 3 = false) = true := by decide +kernel
  obtain ⟨s, hs, hc, hp, hv⟩ := System.exists_of_endsInWhen rfl hrun
  exact ⟨s, hs, hc, hp, hv, epochSound_of_kept hs⟩

/-- A cancellation comes between the sample that sees the close and the latch. -/
def cancelBeforeLatch {ι Co κ : Type*} (i : ι) (c : Co) (k : κ) (fd : ℤ) : List (Label ι Co κ) :=
  List.flatten [[.begin i fd, .call i false, .call i false],
    [.wait c k fd, .step c {}, .step c {}, .requestCancel c, .trigger k pollEventCancelled],
    List.replicate 5 (.step c {}), [.complete k, .complete k, .step c {}, .endFdClose fd]]

/-- The check after that wait succeeds, although the number was being closed at the sample. -/
theorem not_epochSound_cancelled : ∃ s : State (Fin 1) (Fin 1) (Fin 1),
    (system (Fin 1) (Fin 1) (Fin 1)).Reachable s ∧ (s.co 0).pc = none ∧
      s.fdWaitEpochValid 0 3 = true ∧ ¬ EpochSound s := by
  have hrun : (system (Fin 1) (Fin 1) (Fin 1)).endsIn {} (cancelBeforeLatch 0 0 0 3)
      (fun s => (s.co 0).pc = none ∧ s.fdWaitEpochValid 0 3 = true ∧
        (s.co 0).last.wait = some 0 ∧
          (s.event 0).any (fun e => e.fd = 3 ∧ e.sampled = some (1, true)) = true) = true := by
    decide +kernel
  obtain ⟨s, hs, hp, hv, hl, he⟩ := System.exists_of_endsIn rfl hrun
  obtain ⟨e, he, hfd⟩ := (Option.any_eq_true _ _).mp he
  obtain ⟨hfd, hsam⟩ := of_decide_eq_true hfd
  refine ⟨s, hs, hp, hv, fun h => ?_⟩
  have hfalse := h.stale 0 0 e 1 true hl he hsam (.inr rfl)
  rw [hfd, hv] at hfalse
  cases hfalse

end BbtCoroutine.FdWait
