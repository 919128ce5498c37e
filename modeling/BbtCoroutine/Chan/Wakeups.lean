import BbtCoroutine.Chan.Waiters
import Mathlib.Data.Finset.Card

/-!
# A channel strands no waiter

A writer that waits is owed a wake-up when the channel gets room or is closed, a reader
when an item comes or the channel is closed.  The invariant behind both is a count: if a
waiting writer can still be notified, there are at least as many woken writers that have
not yet got back to their critical section as there are free slots.

The count must go on until the woken writer has the mutex again: while it is resumed but
not yet back, its slot is free and no wake-up is under way (`resumed_before_relock`).
-/

namespace BbtCoroutine.Chan

open Transition Wait

variable {Co Ch α : Type*}

/-! ## Woken writers -/

/-- At the point, with the wait `w`, a write of `ch` was notified and has not yet got back to its
critical section. -/
def Pc.woken (ch : Ch) (w : Wait) : Pc Ch α → Prop
  | .commit w₀ | .parked w₀ => w₀.kind = .write ch ∧ w.round.won = some pollEventCustom
  | .unbind w₀ ret => w₀.kind = .write ch ∧ ret = 0
  | .writeRecheck _ ch' _ | .writeRelock _ ch' _ => ch' = ch
  | _ => False

/-- The coroutine `k` is a woken writer of `ch`. -/
def State.wokenWriter (s : State Co Ch α) (ch : Ch) (k : Co) : Prop :=
  (s.pc k).woken ch (s.wait k)

/-- Enough writers of `ch` are woken to fill it, if one that waits can still be notified. -/
def WriterInv (s : State Co Ch α) (ch : Ch) : Prop :=
  ∀ k n, some (k, n) ∈ (s.chan ch).enableWriteConds → (s.wait k).live n = true →
    (s.chan ch).isClosed = false ∧ ∃ ks : Finset Co, (∀ j ∈ ks, s.wokenWriter ch j) ∧
      ((s.chan ch).maxSize : ℕ) ≤ (s.chan ch).itemQueue.length + ks.card

/-- A reader waits undecided only at an open and empty channel. -/
def ReaderInv (s : State Co Ch α) : Prop :=
  ∀ ch k, (s.pc k).past = some (.read ch) → (s.wait k).round.undecided = true →
    (s.chan ch).isClosed = false ∧ (s.chan ch).itemQueue = []

/-- Who was woken stays woken. -/
lemma woken_later {p : Pc Ch α} {ch : Ch} {w w' : Wait} (h : p.woken ch w) (hl : w.Later w') :
    p.woken ch w' := by
  cases p with
  | commit w₀ => exact ⟨h.1, (hl.decided (Round.undecided_of_won h.2)).2.trans h.2⟩
  | parked w₀ => exact ⟨h.1, (hl.decided (Round.undecided_of_won h.2)).2.trans h.2⟩
  | _ => exact h

/-- An undecided operation that is past its callback is not woken. -/
lemma not_woken_of_past {p : Pc Ch α} {kind : WaitKind Ch} {ch : Ch} {w : Wait}
    (hp : p.past = some kind) (hu : w.round.undecided = true) : ¬ p.woken ch w := by
  intro h
  cases p with
  | commit w₀ | parked w₀ =>
    rw [Round.undecided_of_won h.2] at hu
    cases hu
  | _ => cases hp

/-- A write that is past its callback is woken if it was notified. -/
lemma woken_of_past {p : Pc Ch α} {ch : Ch} {w : Wait} (hp : p.past = some (.write ch))
    (hw : w.round.won = some pollEventCustom) : p.woken ch w := by
  cases p with
  | commit w₀ | parked w₀ => exact ⟨Option.some.inj hp, hw⟩
  | _ => cases hp

/-- A read that has begun has not been woken. -/
lemma not_woken_of_readBegun {p : Pc Ch α} {ch ch' : Ch} {w : Wait} (hp : p.readBegun ch') :
    ¬ p.woken ch w := by
  cases p <;> simp_all [Pc.readBegun, Pc.woken]

section

variable [DecidableEq Co] [DecidableEq Ch] {s s' : State Co Ch α} {c : Co} {ch : Ch}
  {a : Act Ch α} {p p' : Pc Ch α}

/-- A woken writer stays one until it is back in its critical section, or finds the channel
closed. -/
lemma Plan.woken (h : Plan s c p a p') (hw : p.woken ch (s.wait c)) :
    p'.woken ch ((s.apply c a).wait c) ∨ (s.chan ch).isClosed = true ∨
      a = .skip ∧ (s.chan ch).full = true ∨ ∃ item, a = .push ch item := by
  cases h with
  | @commitPark w =>
    refine .inl ?_
    have hl : (s.wait c).Later ((s.apply c (.commitPark : Act Ch α)).wait c) :=
      apply_later_self rfl
    exact woken_later (p := .parked w) hw hl
  | @resume w m hr =>
    obtain ⟨hk, hwon⟩ := hw
    rw [hr] at hwon
    obtain rfl : m = pollEventCustom := Option.some.inj hwon
    exact .inl ⟨hk, by simp [timedRet_resume_custom]⟩
  | @unbind w ret =>
    obtain ⟨hk, rfl⟩ := hw
    cases w <;> cases hk
    exact .inl rfl
  | writeClosed hp hc =>
    rcases hp with rfl | rfl | rfl
    · cases hw
    · cases hw
    · cases hw
      exact .inr (.inl hc)
  | writeAgain => exact .inl hw
  | writeRefused hp hf | writeWait hp hf =>
    cases hp <;> cases hw
    exact .inr (.inr (.inl ⟨rfl, hf⟩))
  | writePush hp hf =>
    cases hp <;> cases hw
    exact .inr (.inr (.inr ⟨_, rfl⟩))
  | readRefused hp => rcases hp with rfl | rfl <;> cases hw
  | readGoesOn hp => exact absurd hw (not_woken_of_readBegun hp)
  | readFails hp =>
    rcases hp with rfl | hp
    · cases hw
    · cases hp <;> cases hw
  | readWait hp | readPop hp | readPopAll hp => cases hp <;> cases hw
  | selClosed hi hc hp => rcases hp with rfl | ⟨rfl, -⟩ <;> cases hw
  | _ => cases hw

/-! ## What the acts do to the items of a channel -/

/-- The members that waiting readers and writers look at. -/
def dataPart (x : Chan Co α) : List α × ChanStatus :=
  (x.itemQueue, x.runStatus)

/-- Only four acts concern the items and the status of a channel. -/
lemma apply_dataPart (hpush : ∀ item, a ≠ .push ch item) (hpop : a ≠ .pop ch)
    (hall : a ≠ .popAll ch) (hclose : a ≠ .close ch) :
    dataPart ((s.apply c a).chan ch) = dataPart (s.chan ch) := by
  refine apply_member dataPart fun x x' h => ?_
  cases h with
  | push item => exact absurd rfl (hpush item)
  | pop w ha hi => exact (ha.elim hpop hall).elim
  | close => exact absurd rfl hclose
  | _ => rfl

omit [DecidableEq Co] in
/-- The same data say the same of the close. -/
lemma isClosed_of_dataPart {x x' : Chan Co α} (h : dataPart x' = dataPart x) :
    x'.isClosed = x.isClosed := by
  have hr : x'.runStatus = x.runStatus := congrArg Prod.snd h
  rw [Chan.isClosed, Chan.isClosed, hr]

/-! ## Readers -/

/-- A push decides the wait of the reader of the channel. -/
lemma push_decides (hF : FlagInv s) (hW : WaitInv s) {k : Co} {item : α}
    (hp : (s.pc k).past = some (.read ch)) (hu : (s.wait k).round.undecided = true) :
    ((s.push c ch item).wait k).round.undecided = false := by
  have hw := waiting_of_past hp
  have hl := hW.live k (by simp [hw]) hu
  have hr := hF.held k ch (reading_of_waiting hw)
  rw [push_wait, hr, Bool.true_or, if_pos rfl, hW.cond ch k hw]
  exact decided_notifyAllIn List.mem_cons_self hl

/-- `Close` decides the wait of the reader of the channel. -/
lemma close_decides (hF : FlagInv s) (hW : WaitInv s) {k : Co}
    (hp : (s.pc k).past = some (.read ch)) (hu : (s.wait k).round.undecided = true) :
    ((s.close ch).wait k).round.undecided = false := by
  have hw := waiting_of_past hp
  have hl := hW.live k (by simp [hw]) hu
  have hr := hF.held k ch (reading_of_waiting hw)
  rw [close_wait, hr, if_pos rfl, hW.cond ch k hw]
  have hd := decided_notifyAllIn (q := some (k, (s.wait k).n) :: (s.chan ch).readWatchers)
    List.mem_cons_self hl
  have hd' := ((notifyAllIn_notified (s.chan ch).enableWriteConds _ k).later.decided hd).1
  exact ((notifyAllIn_notified _ _ k).later.decided hd').1

omit [DecidableEq Ch] in
/-- A read that is still undecided after its callback has found nothing to read. -/
lemma idle_of_rechecked (hl : (s.wait c).live (s.wait c).n = true)
    (hc : (s.chan ch).enableReadCond = some (c, (s.wait c).n))
    (hu : ((s.recheckEnableRead ch).wait c).round.undecided = true) :
    (s.chan ch).isClosed = false ∧ (s.chan ch).itemQueue = [] := by
  unfold State.recheckEnableRead at hu
  dsimp only at hu
  split at hu
  · have hd := decided_notifyAllIn (List.mem_singleton_self (some (c, (s.wait c).n))) hl
    rw [hc] at hu
    have hu' : (notifyAllIn [some (c, (s.wait c).n)] s.wait c).round.undecided = true := hu
    rw [hd] at hu'
    cases hu'
  · rename_i hn
    simpa [and_comm] using hn

omit [DecidableEq Co] [DecidableEq Ch] in
/-- A pop is planned only if there is an item. -/
lemma Plan.ne_nil_of_pop (h : Plan s c p (.pop ch) p') : (s.chan ch).itemQueue ≠ [] := by
  cases h with
  | readPop _ hi | selPop _ hi => simp [hi]

omit [DecidableEq Co] [DecidableEq Ch] in
/-- A read of all items is planned only if there is one. -/
lemma Plan.ne_nil_of_popAll (h : Plan s c p (.popAll ch) p') : (s.chan ch).itemQueue ≠ [] := by
  cases h with
  | readPopAll _ hi => exact hi

/-- A move of `c` keeps the invariant of the readers. -/
lemma ReaderInv.move (hF : FlagInv s) (hW : WaitInv s) (hI : ReaderInv s)
    (h : Plan s c (s.pc c) a p) : ReaderInv ((s.apply c a).goto c p) := by
  intro ch k hp hu
  rw [goto_wait] at hu
  by_cases hkc : k = c
  · subst hkc
    rw [goto_pc_self] at hp
    have hw := h.waiting
    rcases h.past hp with ⟨hs, rfl⟩ | ⟨ch', hk, -⟩ | ⟨ch', hk, rfl⟩ | hk
    · have hl : (s.wait k).Later ((s.apply k (.commitPark : Act Ch α)).wait k) :=
        apply_later_self rfl
      exact hI ch k hs (hl.undecided hu).1
    · cases hk
    · cases hk
      have hs : (s.pc k).waiting = some (.read ch) := by
        rcases hw with ⟨w, -, ha, -⟩ | ⟨ha | ha | ha, -⟩ | ⟨-, hw⟩
        · cases ha
        · cases ha
        · cases ha
        · cases ha
        · exact hw.symm.trans (waiting_of_past hp)
      have hl : (s.wait k).Later ((s.apply k (.recheckEnableRead ch : Act Ch α)).wait k) :=
        apply_later_self rfl
      have hlive := hW.live k (by simp [hs]) (hl.undecided hu).1
      have hidle := idle_of_rechecked hlive (hW.cond ch k hs) hu
      have hd : dataPart ((s.apply k (.recheckEnableRead ch)).chan ch) = dataPart (s.chan ch) :=
        apply_dataPart (by simp) (by simp) (by simp) (by simp)
      exact ⟨(isClosed_of_dataPart hd).trans hidle.1, (congrArg Prod.fst hd).trans hidle.2⟩
    · cases hk
  · rw [apply_goto_pc_of_ne hkc] at hp
    have hus := ((apply_later (s := s) a hkc).undecided hu).1
    obtain ⟨hc, hi⟩ := hI ch k hp hus
    have hpush : ∀ item, a ≠ .push ch item := by
      rintro item rfl
      have hd : ((s.apply c (.push ch item)).wait k).round.undecided = false :=
        push_decides hF hW hp hus
      rw [hd] at hu
      cases hu
    have hclose : a ≠ .close ch := by
      rintro rfl
      have hd : ((s.apply c (.close ch : Act Ch α)).wait k).round.undecided = false :=
        close_decides hF hW hp hus
      rw [hd] at hu
      cases hu
    have hpop : a ≠ .pop ch ∧ a ≠ .popAll ch := by
      constructor <;> rintro rfl
      · exact h.ne_nil_of_pop hi
      · exact h.ne_nil_of_popAll hi
    have hd : dataPart ((s.apply c a).chan ch) = dataPart (s.chan ch) :=
      apply_dataPart hpush hpop.1 hpop.2 hclose
    exact ⟨(isClosed_of_dataPart hd).trans hc, (congrArg Prod.fst hd).trans hi⟩

/-! ## Writers -/

/-- A live waiter among the waiting writers belongs to a write past its callback. -/
def EntryInv (s : State Co Ch α) : Prop :=
  ∀ ch k n, some (k, n) ∈ (s.chan ch).enableWriteConds → (s.wait k).live n = true →
    (s.pc k).past = some (.write ch)

/-- A pop wakes the first waiting writer, if there is one. -/
lemma WriterInv.pop (hE : EntryInv s) (hI : ∀ ch, WriterInv s ch) (c : Co) (ch' ch : Ch) :
    WriterInv (s.pop c ch') ch := by
  intro k n he hl
  have hn := pop_notified s c ch'
  have hl' : (s.wait k).live n = true := (hn k).eq_of_live hl ▸ hl
  have he' := pop_conds_sub s c ch ch' he
  obtain ⟨hc, ks, hks, hlen⟩ := hI ch k n he' hl'
  have hwoken : ∀ j ∈ ks, (s.pop c ch').wokenWriter ch j := fun j hj => by
    have hj := woken_later (hks j hj) (hn j).later
    rwa [State.wokenWriter, pop_pc]
  cases hi : (s.chan ch').itemQueue with
  | nil =>
    rw [pop_of_nil s c hi] at hwoken ⊢
    exact ⟨hc, ks, hwoken, hlen⟩
  | cons item items =>
    by_cases hch : ch = ch'
    · subst hch
      -- the entry of `k` is still there, so another one before it was notified
      have hfound : (notifyOneIn (s.chan ch).enableWriteConds s.wait).2.2 = true := by
        by_contra hf
        rw [not_live_of_notifyOneIn (Bool.eq_false_iff.mpr hf) he'] at hl'
        cases hl'
      obtain ⟨dead, j, m, rest, hq, -, hlj, -, hwon⟩ := exists_of_notifyOneIn hfound
      have hpast := hE ch j m (by simp [hq]) hlj
      have hu := (live_eq_true_iff.mp hlj).2.2.2
      have hjks : j ∉ ks := fun hj => not_woken_of_past hpast hu (hks j hj)
      refine ⟨?_, insert j ks, fun i hi' => ?_, ?_⟩
      · rw [pop_chan s c hi, Function.update_self]
        exact hc
      · rcases Finset.mem_insert.mp hi' with rfl | hi'
        · rw [State.wokenWriter, pop_pc, pop_wait s c hi]
          have hd := (notifyAllIn_notified (s.chan ch).writeWatchers
            (notifyOneIn (s.chan ch).enableWriteConds s.wait).2.1 i).later.decided
              (Round.undecided_of_won hwon)
          exact woken_of_past hpast (hd.2.trans hwon)
        · exact hwoken i hi'
      · rw [Finset.card_insert_of_notMem hjks, pop_chan s c hi, Function.update_self]
        rw [hi, List.length_cons] at hlen
        simp only
        omega
    · refine ⟨?_, ks, hwoken, ?_⟩
      · rw [pop_chan s c hi, Function.update_of_ne hch]
        exact hc
      · rw [pop_chan s c hi, Function.update_of_ne hch]
        exact hlen

/-- A pop keeps the entries of the waiters. -/
lemma EntryInv.pop (hE : EntryInv s) (c : Co) (ch : Ch) : EntryInv (s.pop c ch) := by
  intro ch' k n he hl
  rw [pop_pc]
  exact hE ch' k n (pop_conds_sub s c ch' ch he) ((pop_notified s c ch k).eq_of_live hl ▸ hl)

omit [DecidableEq Ch] in
/-- A coroutine that is not a woken writer may go anywhere. -/
lemma WriterInv.goto (hI : WriterInv s ch) (hw : ∀ w ch, ¬ (s.pc c).woken ch w) :
    WriterInv (s.goto c p) ch := by
  intro k n he hl
  obtain ⟨hc, ks, hks, hlen⟩ := hI k n he hl
  refine ⟨hc, ks, fun j hj => ?_, hlen⟩
  have hjc : j ≠ c := by
    rintro rfl
    exact hw _ _ (hks j hj)
  rw [State.wokenWriter, goto_pc_of_ne _ _ hjc]
  exact hks j hj

omit [DecidableEq Co] [DecidableEq Ch] in
/-- Who pops has not been woken for a wait. -/
lemma Plan.not_woken_of_pop (h : Plan s c p a p') (ha : a = .pop ch ∨ a = .popAll ch) (w : Wait)
    (ch' : Ch) : ¬ p.woken ch' w := by
  rcases ha with rfl | rfl
  · cases h with
    | readPop hp => cases hp <;> exact id
    | selPop => exact id
  · cases h with
    | readPopAll hp => cases hp <;> exact id

/-- Other acts take no item away. -/
lemma apply_length_le (hpop : a ≠ .pop ch) (hall : a ≠ .popAll ch) (hclose : a ≠ .close ch) :
    ((s.apply c a).chan ch).isClosed = (s.chan ch).isClosed ∧
      (s.chan ch).itemQueue.length ≤ ((s.apply c a).chan ch).itemQueue.length := by
  refine apply_induct (I := fun x => x.isClosed = (s.chan ch).isClosed ∧
    (s.chan ch).itemQueue.length ≤ x.itemQueue.length) (fun x x' h hx => ?_) ⟨rfl, le_rfl⟩
  cases h with
  | push item => exact ⟨hx.1, by simp⟩
  | pop w ha hi => exact (ha.elim hpop hall).elim
  | close => exact absurd rfl hclose
  | _ => exact hx

omit [DecidableEq Co] [DecidableEq Ch] in
/-- A full channel owes no wake-up. -/
lemma writerInv_of_full (hc : (s.chan ch).isClosed = false) (hf : (s.chan ch).full = true) :
    (s.chan ch).isClosed = false ∧ ∃ ks : Finset Co, (∀ j ∈ ks, s.wokenWriter ch j) ∧
      ((s.chan ch).maxSize : ℕ) ≤ (s.chan ch).itemQueue.length + ks.card :=
  ⟨hc, ∅, by simp, by simpa [Chan.full] using hf⟩

/-- A move that pops nothing keeps the invariant of the writers. -/
lemma WriterInv.move_of_not_pop (hF : FlagInv s) (hW : WaitInv s) (hI : WriterInv s ch)
    (h : Plan s c (s.pc c) a p) (hpop : a ≠ .pop ch) (hall : a ≠ .popAll ch) :
    WriterInv ((s.apply c a).goto c p) ch := by
  intro k n he hl
  have hmax := (grows_apply (s := s) (c := c) a ch).maxSize
  have hclose : a ≠ .close ch := by
    rintro rfl
    have hx : (s.apply c (.close ch : Act Ch α)).chan ch = _ := congrFun (close_chan s ch) ch
    rw [Function.update_self] at hx
    rw [goto_chan, hx] at he
    cases he
  obtain ⟨hcl, hlen'⟩ := apply_length_le (s := s) (c := c) hpop hall hclose
  rcases apply_conds_sub he with he' | ⟨rfl, -, hc, hf⟩
  · -- the waiter was there before, and live
    have hlive : (s.wait k).live n = true := by
      have hlater : (s.wait k).Later ((s.apply c a).wait k) := by
        by_cases hkc : k = c
        · subst hkc
          have hpast := ((hW.move hF h).entry ch k n he).2 hl
          rw [goto_pc_self] at hpast
          rcases h.past hpast with ⟨-, rfl⟩ | ⟨ch', -, rfl⟩ | ⟨ch', -, rfl⟩ | hk
          · exact apply_later_self rfl
          · exact apply_later_self rfl
          · exact apply_later_self rfl
          · cases hk
        · exact apply_later a hkc
      rwa [← hlater.live (live_eq_true_iff.mp hl).2.2.2]
    obtain ⟨hc, ks, hks, hlen⟩ := hI k n he' hlive
    -- all woken writers that stay woken
    have others : ∀ j ∈ ks, j ≠ c → ((s.apply c a).goto c p).wokenWriter ch j := fun j hj hjc => by
      rw [State.wokenWriter, apply_goto_pc_of_ne hjc]
      exact woken_later (hks j hj) (apply_later a hjc)
    have keep : (c ∈ ks → ((s.apply c a).goto c p).wokenWriter ch c) →
        (((s.apply c a).goto c p).chan ch).isClosed = false ∧ ∃ ks : Finset Co,
          (∀ j ∈ ks, ((s.apply c a).goto c p).wokenWriter ch j) ∧
            ((((s.apply c a).goto c p).chan ch).maxSize : ℕ) ≤
              (((s.apply c a).goto c p).chan ch).itemQueue.length + ks.card := by
      intro hcks
      refine ⟨hcl.trans hc, ks, fun j hj => ?_, ?_⟩
      · by_cases hjc : j = c
        · exact hjc ▸ hcks (hjc ▸ hj)
        · exact others j hj hjc
      · rw [goto_chan, hmax]
        omega
    by_cases hcks : c ∈ ks
    · rcases h.woken (hks c hcks) with hw | hcl' | ⟨rfl, hf⟩ | ⟨item, rfl⟩
      · refine keep fun _ => ?_
        rw [State.wokenWriter, goto_pc_self]
        exact hw
      · rw [hc] at hcl'
        cases hcl'
      · exact writerInv_of_full (s := (s.apply c .skip).goto c p) hc hf
      · -- the woken writer fills the slot it was woken for
        refine ⟨hcl.trans hc, ks.erase c, fun j hj => ?_, ?_⟩
        · obtain ⟨hjc, hj⟩ := Finset.mem_erase.mp hj
          exact others j hj hjc
        · have hx : (s.apply c (.push ch item)).chan ch = _ :=
            congrFun (push_chan s c ch item) ch
          rw [Function.update_self] at hx
          rw [goto_chan, hx, Finset.card_erase_of_mem hcks]
          simp only [List.length_append, List.length_singleton]
          omega
    · exact keep fun hj => absurd hj hcks
  · -- `c` has just queued itself: the channel is full
    have hd : dataPart ((s.apply c (.registerEnableWriteCond ch)).chan ch) =
        dataPart (s.chan ch) := apply_dataPart (by simp) (by simp) (by simp) (by simp)
    have hi : ((s.apply c (.registerEnableWriteCond ch)).chan ch).itemQueue =
        (s.chan ch).itemQueue := congrArg Prod.fst hd
    refine writerInv_of_full (hcl.trans hc) ?_
    rwa [Chan.full, goto_chan, hmax, hi]

/-- A move of `c` keeps the invariant of the writers. -/
lemma WriterInv.move (hF : FlagInv s) (hW : WaitInv s) (hI : ∀ ch, WriterInv s ch)
    (h : Plan s c (s.pc c) a p) (ch : Ch) : WriterInv ((s.apply c a).goto c p) ch := by
  have hE : EntryInv s := fun ch k n he => (hW.entry ch k n he).2
  by_cases hpop : ∃ ch', a = .pop ch' ∨ a = .popAll ch'
  · obtain ⟨ch', ha⟩ := hpop
    have hw := h.not_woken_of_pop ha
    have hpc := apply_pc (s := s) (c := c) a
    have key : ∀ n, EntryInv (State.popN c ch' n s) ∧
        ∀ ch, WriterInv (State.popN c ch' n s) ch := fun n =>
      popN_induct ch' (I := fun t => EntryInv t ∧ ∀ ch, WriterInv t ch)
        (fun t ht => ⟨ht.1.pop c ch', fun ch => .pop ht.1 ht.2 c ch' ch⟩) n ⟨hE, hI⟩
    have hs : WriterInv (s.apply c a) ch := by
      rcases ha with rfl | rfl
      · exact (key 1).2 ch
      · exact (key _).2 ch
    exact hs.goto (by rwa [hpc])
  · have hn := not_exists.mp hpop ch
    exact (hI ch).move_of_not_pop hF hW h (fun ha => hn (.inl ha)) (fun ha => hn (.inr ha))

/-! ## All runs -/

/-- The invariants of the waiting readers and writers. -/
structure WakeInv (s : State Co Ch α) : Prop where
  flag : FlagInv s
  wait : WaitInv s
  reader : ReaderInv s
  writer : ∀ ch, WriterInv s ch

/-- The step lemma of the channels. -/
lemma WakeInv.next {l : Label Co Ch α} (hS : WakeInv s) (h : next s l = some s') :
    WakeInv s' := by
  obtain ⟨hF, hW⟩ := waitInv_next hS.flag hS.wait h
  refine ⟨hF, hW, ?_, ?_⟩
  · cases next_cases h with
    | @call c op p hp he =>
      intro ch k hk hu
      by_cases hkc : k = c
      · rw [hkc, goto_pc_self, past_of_waiting_none (entry_reading he).2] at hk
        cases hk
      · rw [goto_pc_of_ne _ _ hkc] at hk
        exact hS.reader ch k hk hu
    | run hp => exact hS.reader.move hS.flag hS.wait hp
    | wait hw =>
      intro ch k hk hu
      exact hS.reader ch k hk ((later_setWait hw k).undecided hu).1
  · intro ch
    cases next_cases h with
    | call hp he =>
      refine (hS.writer ch).goto fun w ch => ?_
      rw [hp]
      exact id
    | run hp => exact WriterInv.move hS.flag hS.wait hS.writer hp ch
    | wait hw =>
      intro k n he hl
      have hl' := (later_setWait hw k).live (live_eq_true_iff.mp hl).2.2.2 n
      obtain ⟨hc, ks, hks, hlen⟩ := hS.writer ch k n he (hl'.symm.trans hl)
      exact ⟨hc, ks, fun j hj => woken_later (hks j hj) (later_setWait hw j), hlen⟩

omit [DecidableEq Co] [DecidableEq Ch] in
/-- The invariant of the wake-ups holds initially. -/
lemma wakeInv_init (size : Ch → ℕ+) : WakeInv (init size : State Co Ch α) where
  flag := (waitInv_init size).1
  wait := (waitInv_init size).2
  reader ch k h := by cases h
  writer ch k n h := by cases h

/-- The invariant of the wake-ups holds in every reachable state. -/
lemma wakeInv_of_reachable (h : (system Co Ch α).Reachable s) : WakeInv s := by
  refine System.Reachable.induct (I := WakeInv) ?_ (fun _ _ _ hS hs => hS.next hs) h
  rintro _ ⟨size, rfl⟩
  exact wakeInv_init size

/-- The coroutine is parked in a wait of the given kind that is still armed. -/
def State.parkedIn (s : State Co Ch α) (k : Co) (kind : WaitKind Ch) : Bool :=
  match s.pc k with
  | .parked w => w.kind = kind && (s.wait k).round == .parked
  | _ => false

/-- A wake-up was delivered to the write of `k` on `ch`, and the coroutine is not yet resumed. -/
def State.pendingWriter (s : State Co Ch α) (ch : Ch) (k : Co) : Bool :=
  (s.pc k).past = some (.write ch) && (s.wait k).round.won == some pollEventCustom

omit [DecidableEq Co] in
/-- Who is parked is past the last check and undecided. -/
lemma past_of_parkedIn {k : Co} {kind : WaitKind Ch} (h : s.parkedIn k kind = true) :
    (s.pc k).past = some kind ∧ (s.wait k).round.undecided = true := by
  cases hp : s.pc k with
  | parked w =>
    simp only [State.parkedIn, hp, Bool.and_eq_true, decide_eq_true_eq, beq_iff_eq] at h
    exact ⟨congrArg some h.1, by rw [h.2]; rfl⟩
  | _ => simp [State.parkedIn, hp] at h

/-- No waiter of a channel is stranded, read in a state. -/
structure NoneStranded (s : State Co Ch α) (ch : Ch) : Prop where
  /-- Behind a parked writer there are as many woken writers as there are free slots. -/
  writer : ∀ k, s.parkedIn k (.write ch) = true → (s.chan ch).isClosed = false ∧
    ∃ ks : Finset Co, k ∉ ks ∧ (∀ j ∈ ks, s.wokenWriter ch j) ∧
      ((s.chan ch).maxSize : ℕ) - (s.chan ch).itemQueue.length ≤ ks.card
  /-- A reader is parked only at an open and empty channel. -/
  reader : ∀ k, s.parkedIn k (.read ch) = true →
    (s.chan ch).isClosed = false ∧ (s.chan ch).itemQueue = []
  /-- A wake-up of a writer goes to the first live waiter, past the dead ones. -/
  wake : (∃ k n, some (k, n) ∈ (s.chan ch).enableWriteConds ∧ (s.wait k).live n = true) →
    ∃ dead k n rest, (s.chan ch).enableWriteConds = dead ++ some (k, n) :: rest ∧
      (∀ j m, some (j, m) ∈ dead → (s.wait j).live m = false) ∧ (s.wait k).live n = true ∧
      ((s.onEnableWrite ch).chan ch).enableWriteConds = rest ∧
      ((s.onEnableWrite ch).wait k).round.won = some pollEventCustom

/-- Whatever the coroutines do, a channel strands no waiter. -/
theorem noneStranded_of_reachable (h : (system Co Ch α).Reachable s) (ch : Ch) :
    NoneStranded s ch := by
  have hS := wakeInv_of_reachable h
  refine ⟨fun k hk => ?_, fun k hk => ?_, fun ⟨k, n, he, hl⟩ => ?_⟩
  · obtain ⟨hp, hu⟩ := past_of_parkedIn hk
    have hl := hS.wait.live k (by simp [waiting_of_past hp]) hu
    obtain ⟨hc, ks, hks, hlen⟩ := hS.writer ch k _ (hS.wait.queued ch k hp hu) hl
    refine ⟨hc, ks, fun hkks => not_woken_of_past hp hu (hks k hkks), hks, ?_⟩
    omega
  · obtain ⟨hp, hu⟩ := past_of_parkedIn hk
    exact hS.reader ch k hp hu
  · have hfound : (notifyOneIn (s.chan ch).enableWriteConds s.wait).2.2 = true := by
      by_contra hf
      rw [not_live_of_notifyOneIn (Bool.eq_false_iff.mpr hf) he] at hl
      cases hl
    obtain ⟨dead, j, m, rest, hq, hdead, hlj, hrest, hwon⟩ := exists_of_notifyOneIn hfound
    refine ⟨dead, j, m, rest, hq, hdead, hlj, ?_, ?_⟩
    · simpa [State.onEnableWrite, State.setChan] using hrest
    · have hd := (notifyAllIn_notified (s.chan ch).writeWatchers
        (notifyOneIn (s.chan ch).enableWriteConds s.wait).2.1 j).later.decided
          (Round.undecided_of_won hwon)
      exact hd.2.trans hwon

/-- Two writers `b` and `c` wait for a channel of size one that `a` has filled, and `a` makes room
for the first. -/
def twoWriters (a b c : Co) (ch : Ch) : List (Label Co Ch ℕ) :=
  [performs a (.write .write ch 1) 3, performs b (.write .write ch 2) 6,
    performs c (.write .write ch 3) 6, performs a (.read .tryRead ch) 5].flatten

/-- The first writer is woken, the second one still waits. -/
theorem noneStranded_twoWriters : ∃ s : State (Fin 3) (Fin 1) ℕ,
    s.parkedIn 2 (.write 0) = true ∧ (s.chan 0).full = false ∧ NoneStranded s 0 := by
  have h : (system (Fin 3) (Fin 1) ℕ).endsIn (init fun _ => 1) (twoWriters 0 1 2 0)
      (fun s => s.parkedIn 2 (.write 0) = true ∧ (s.chan 0).full = false) = true := by
    decide
  obtain ⟨s, hs, hp, hf⟩ := System.exists_of_endsIn (A := system (Fin 3) (Fin 1) ℕ) ⟨_, rfl⟩ h
  exact ⟨s, hp, hf, noneStranded_of_reachable hs 0⟩

/-- Between the resumption of a woken writer and its critical section no wake-up is under way,
although there is a free slot and another writer is parked. -/
theorem resumed_before_relock : ¬ ∀ s : State (Fin 3) (Fin 1) ℕ,
    (system (Fin 3) (Fin 1) ℕ).ReachableWhen (fun _ l => l.listed = true) s →
      ∀ k, s.parkedIn k (.write 0) = true → (s.chan 0).isClosed = false ∧
        ((s.chan 0).full = true ∨
          ∃ ks : Finset (Fin 3), (∀ j ∈ ks, s.pendingWriter 0 j = true) ∧
            ((s.chan 0).maxSize : ℕ) - (s.chan 0).itemQueue.length ≤ ks.card) := by
  intro hall
  have h : (system (Fin 3) (Fin 1) ℕ).endsInWhen (fun _ l => l.listed = true) (init fun _ => 1)
      (twoWriters 0 1 2 0 ++ [.run 1 .none])
      (fun s => s.parkedIn 2 (.write 0) = true ∧ (s.chan 0).full = false ∧
        ((s.chan 0).maxSize : ℕ) - (s.chan 0).itemQueue.length = 1 ∧
        ∀ j, s.pendingWriter 0 j = false) = true := by
    decide
  obtain ⟨s, hs, hp, hf, hfree, hj⟩ :=
    System.exists_of_endsInWhen (A := system (Fin 3) (Fin 1) ℕ) ⟨_, rfl⟩ h
  rcases (hall s hs 2 hp).2 with hf' | ⟨ks, hks, hlen⟩
  · rw [hf] at hf'
    cases hf'
  · have hks : ks = ∅ := by
      rw [Finset.eq_empty_iff_forall_notMem]
      intro j hjk
      have := hks j hjk
      rw [hj j] at this
      cases this
    rw [hks, Finset.card_empty] at hlen
    omega

end

end BbtCoroutine.Chan
