import BbtCoroutine.Chan.Ledger

/-!
# Who waits at a channel

`m_is_reading` is held by one operation, and the waiter in `m_enable_read_cond` is the
one that this operation waits with.  A writer whose wait is undecided has its waiter in
`m_enable_write_conds`, where a reader can notify it, and a live waiter there belongs to
such a writer.
-/

namespace BbtCoroutine.Chan

open Transition Wait

variable {Co Ch α : Type*}

/-! ## Points -/

/-- The channel whose flag `m_is_reading` an operation holds. -/
def Pc.reading : Pc Ch α → Option Ch
  | .readClosed ch | .readClosedLock ch | .readLock _ ch | .readCallback _ ch
  | .readRelock _ ch _ | .readRelease ch _ => some ch
  | .prepare w | .regist w | .commit w | .parked w | .unbind w _ => w.cond
  | .selLock run _ i =>
    match run.cases[i]? with
    | some (.read ch) => some ch
    | _ => none
  | .selRelease run _ i _ => run.cases[i]?.map Case.ch
  | _ => none

/-- What a coroutine waits for. -/
inductive WaitKind (Ch : Type*)
  | write (ch : Ch)
  | read (ch : Ch)
  | select
  deriving DecidableEq

/-- The kind of a wait. -/
def Waiting.kind : Waiting Ch α → WaitKind Ch
  | .write _ ch _ => .write ch
  | .read _ ch => .read ch
  | .select _ => .select

/-- The wait whose waiter is bound at a point. -/
def Pc.waiting : Pc Ch α → Option (WaitKind Ch)
  | .regist w | .commit w | .parked w | .unbind w _ => some w.kind
  | .writeCallback _ ch _ => some (.write ch)
  | .readCallback _ ch => some (.read ch)
  | .selTry _ .recheck _ | .selFlag _ .recheck _ | .selLock _ .recheck _
  | .selRelease _ .recheck _ _ | .selWatch _ _ | .selNotify _ => some .select
  | _ => none

/-- The wait whose callback has run and that has not been resumed. -/
def Pc.past : Pc Ch α → Option (WaitKind Ch)
  | .commit w | .parked w => some w.kind
  | _ => none

/-- A coroutine past its last check is waiting. -/
lemma waiting_of_past {p : Pc Ch α} {kind : WaitKind Ch} (h : p.past = some kind) :
    p.waiting = some kind := by
  cases p <;> first | exact h | cases h

/-- A read that has begun holds the flag. -/
lemma reading_of_readBegun {p : Pc Ch α} {ch : Ch} (h : p.readBegun ch) :
    p.reading = some ch := by
  cases p <;> first | exact congrArg some h | cases h

/-- A read that has begun is not waiting yet. -/
lemma waiting_of_readBegun {p : Pc Ch α} {ch : Ch} (h : p.readBegun ch) : p.waiting = none := by
  cases p <;> first | rfl | cases h

/-- A pass that has ended holds no flag. -/
lemma reading_finishPass (run : Run Ch α) (pass : Pass) (index : Option ℕ) :
    (finishPass run pass index).reading = none := by
  exact finishPass_induct (I := fun p => p.reading = none) (fun _ => rfl) (fun _ _ => rfl)
    (fun _ _ _ => rfl) fun _ _ => rfl

/-- A pass that goes on holds no flag. -/
lemma reading_nextCase (run : Run Ch α) (pass : Pass) (i : ℕ) :
    (nextCase run pass i).reading = none := by
  exact nextCase_induct (I := fun p => p.reading = none) rfl fun _ =>
    reading_finishPass run pass none

/-- A select waits while it rechecks. -/
def Pass.waiting : Pass → Option (WaitKind Ch)
  | .recheck => some .select
  | _ => none

/-- At the end of a pass a select waits if it was rechecking. -/
lemma waiting_finishPass (run : Run Ch α) (pass : Pass) (index : Option ℕ) :
    (finishPass run pass index).waiting = pass.waiting := by
  refine finishPass_induct (I := fun p => p.waiting = pass.waiting) ?_ ?_ ?_ ?_
  · cases pass <;> simp [Pass.waiting, Pc.waiting]
  · rintro rfl -
    rfl
  · rintro _ rfl -
    rfl
  · rintro rfl -
    rfl

/-- A pass that goes on waits if it is a recheck. -/
lemma waiting_nextCase (run : Run Ch α) (pass : Pass) (i : ℕ) :
    (nextCase run pass i).waiting = pass.waiting := by
  refine nextCase_induct (I := fun p => p.waiting = pass.waiting) ?_ fun _ =>
    waiting_finishPass run pass none
  cases pass <;> rfl

/-- After a wait a reader still holds the flag of its channel. -/
lemma reading_afterWait (ret : ℤ) (w : Waiting Ch α) : (afterWait ret w).reading = w.cond := by
  refine afterWait_induct (I := fun p => p.reading = w.cond) ?_ ?_ ?_ ?_ ?_
  · rintro _ _ _ rfl
    rfl
  · rintro _ _ _ _ _ rfl
    rfl
  · rintro _ _ rfl
    rfl
  · rintro _ _ rfl
    rfl
  · rintro _ _ _ rfl
    rfl

/-- After a wait nobody is waiting. -/
lemma waiting_afterWait (ret : ℤ) (w : Waiting Ch α) : (afterWait ret w).waiting = none := by
  exact afterWait_induct (I := fun p => p.waiting = none) (fun _ _ _ _ => rfl)
    (fun _ _ _ _ _ _ => rfl) (fun _ _ _ => rfl) (fun _ _ _ => rfl) fun _ _ _ _ => rfl

/-- Who is not waiting is not past the last check. -/
lemma past_of_waiting_none {p : Pc Ch α} (h : p.waiting = none) : p.past = none := by
  cases p <;> first | rfl | cases h

@[simp] lemma kind_begun (n : ℕ) (w : Waiting Ch α) : (w.begun n).kind = w.kind := by
  cases w <;> rfl

section

variable {s : State Co Ch α} {c : Co} {p p' : Pc Ch α} {a : Act Ch α}

/-- An operation takes and drops the flag by the acts that set it. -/
lemma Plan.reading (h : Plan s c p a p') :
    (∃ ch, a = .setReading ch true ∧ (s.chan ch).isReading = false ∧ p.reading = none ∧
        p'.reading = some ch) ∨
      (∃ ch, a = .setReading ch false ∧ p.reading = some ch ∧ p'.reading = none) ∨
      (∀ ch b, a ≠ .setReading ch b) ∧ p'.reading = p.reading := by
  cases h with
  | readFlag hf hp => exact .inl ⟨_, rfl, hf, rfl, reading_of_readBegun hp⟩
  | selFlag hi hf => exact .inl ⟨_, rfl, hf, rfl, by simp [Pc.reading, hi]⟩
  | readRelease => exact .inr (.inl ⟨_, rfl, rfl, rfl⟩)
  | selRelease hi =>
    refine .inr (.inl ⟨_, rfl, by simp [Pc.reading, hi], ?_⟩)
    split
    · exact reading_finishPass ..
    · exact reading_nextCase ..
  | readGoesOn hp hp' =>
    exact .inr (.inr ⟨by simp, (reading_of_readBegun hp').trans (reading_of_readBegun hp).symm⟩)
  | writeClosed hp => rcases hp with rfl | rfl | rfl <;> exact .inr (.inr ⟨by simp, rfl⟩)
  | writeRefused hp | writeWait hp | writePush hp => cases hp <;> exact .inr (.inr ⟨by simp, rfl⟩)
  | readRefused hp => rcases hp with rfl | rfl <;> exact .inr (.inr ⟨by simp, rfl⟩)
  | readFails hp =>
    rcases hp with rfl | hp <;> [skip; cases hp] <;> exact .inr (.inr ⟨by simp, rfl⟩)
  | readWait hp | readPop hp | readPopAll hp => cases hp <;> exact .inr (.inr ⟨by simp, rfl⟩)
  | closeCheck hp => rcases hp with rfl | rfl <;> exact .inr (.inr ⟨by simp, rfl⟩)
  | selClosed hi hc hp =>
    refine .inr (.inr ⟨by simp, (reading_finishPass ..).trans ?_⟩)
    rcases hp with rfl | ⟨rfl, ch, val, rfl⟩ <;> simp [Pc.reading, hi]
  | selPush hi =>
    exact .inr (.inr ⟨by simp, (reading_finishPass ..).trans (by simp [Pc.reading, hi])⟩)
  | selFull hi =>
    exact .inr (.inr ⟨by simp, (reading_nextCase ..).trans (by simp [Pc.reading, hi])⟩)
  | selWrite hi | selEmpty hi | selPop hi =>
    exact .inr (.inr ⟨by simp, by simp [Pc.reading, hi, Case.ch]⟩)
  | selHeld => exact .inr (.inr ⟨by simp, reading_nextCase ..⟩)
  | selWatch | selUnwatch =>
    refine .inr (.inr ⟨by simp, ?_⟩)
    split <;> rfl
  | waitFails | registFails | unbind => exact .inr (.inr ⟨by simp, reading_afterWait ..⟩)
  | @waitThrows w => cases w <;> exact .inr (.inr ⟨by simp, rfl⟩)
  | @registCustom w => cases w <;> exact .inr (.inr ⟨by simp, rfl⟩)
  | @registAwaitEvent w => cases w <;> exact .inr (.inr ⟨by simp, rfl⟩)
  | _ => exact .inr (.inr ⟨by simp, rfl⟩)

/-- The acts that neither begin nor end a wait. -/
def Act.goesOn : Act Ch α → Bool
  | .registCustom _ _ | .abandon | .registFails | .unbind => false
  | _ => true

/-- The acts that end a wait. -/
def Act.ends (a : Act Ch α) : Prop :=
  a = .abandon ∨ a = .registFails ∨ a = .unbind

/-- A move begins a wait, ends one, or goes on with it. -/
lemma Plan.waiting (h : Plan s c p a p') :
    (∃ w, p = .prepare w ∧ a = .registCustom w.cond w.timed ∧
        p' = .regist (w.begun ((s.wait c).n + 1))) ∨
      a.ends ∧ p'.waiting = none ∨ a.goesOn = true ∧ p'.waiting = p.waiting := by
  have goesOn : ∀ {p p' : Pc Ch α} {a : Act Ch α}, a.goesOn = true → p'.waiting = p.waiting →
      (∃ w, p = .prepare w ∧ a = .registCustom w.cond w.timed ∧
          p' = .regist (w.begun ((s.wait c).n + 1))) ∨
        a.ends ∧ p'.waiting = none ∨ a.goesOn = true ∧ p'.waiting = p.waiting :=
    fun ha hp => .inr (.inr ⟨ha, hp⟩)
  cases h with
  | @registCustom w => exact .inl ⟨w, rfl, rfl, rfl⟩
  | registFails | unbind => exact .inr (.inl ⟨by simp [Act.ends], waiting_afterWait ..⟩)
  | @waitThrows w => exact .inr (.inl ⟨.inl rfl, by cases w <;> rfl⟩)
  | waitFails => exact goesOn rfl (waiting_afterWait ..)
  | readFlag hf hp => exact goesOn rfl (waiting_of_readBegun hp)
  | readGoesOn hp hp' =>
    exact goesOn rfl ((waiting_of_readBegun hp').trans (waiting_of_readBegun hp).symm)
  | writeClosed hp => rcases hp with rfl | rfl | rfl <;> exact goesOn rfl rfl
  | writeRefused hp | writeWait hp | writePush hp => cases hp <;> exact goesOn rfl rfl
  | readRefused hp => rcases hp with rfl | rfl <;> exact goesOn rfl rfl
  | readFails hp =>
    rcases hp with rfl | hp
    · exact goesOn rfl rfl
    · cases hp <;> exact goesOn rfl rfl
  | readWait hp | readPop hp | readPopAll hp => cases hp <;> exact goesOn rfl rfl
  | closeCheck hp => rcases hp with rfl | rfl <;> exact goesOn rfl rfl
  | @selClosed run pass i case p hi hc hp =>
    refine goesOn rfl ((waiting_finishPass ..).trans ?_)
    rcases hp with rfl | ⟨rfl, -⟩ <;> cases pass <;> rfl
  | @selPush run pass => exact goesOn rfl ((waiting_finishPass ..).trans (by cases pass <;> rfl))
  | @selFull run pass => exact goesOn rfl ((waiting_nextCase ..).trans (by cases pass <;> rfl))
  | @selHeld run pass => exact goesOn rfl ((waiting_nextCase ..).trans (by cases pass <;> rfl))
  | @selRead run pass => exact goesOn rfl (by cases pass <;> rfl)
  | @selWrite run pass => exact goesOn rfl (by cases pass <;> rfl)
  | @selFlag run pass => exact goesOn rfl (by cases pass <;> rfl)
  | @selEmpty run pass => exact goesOn rfl (by cases pass <;> rfl)
  | @selPop run pass => exact goesOn rfl (by cases pass <;> rfl)
  | @selRelease run pass =>
    refine goesOn rfl ?_
    split
    · exact (waiting_finishPass ..).trans (by cases pass <;> rfl)
    · exact (waiting_nextCase ..).trans (by cases pass <;> rfl)
  | selWatch | selUnwatch => exact goesOn rfl (by split <;> rfl)
  | @registAwaitEvent w => exact goesOn rfl (by cases w <;> rfl)
  | _ => exact goesOn rfl rfl

/-- From a wait whose callback has run, an undecided coroutine can only park. -/
lemma Plan.past_of_past (h : Plan s c p a p') {kind : WaitKind Ch} (hp : p.past = some kind)
    (hu : (s.wait c).round.undecided = true) : p'.past = some kind := by
  cases h with
  | commitPark => exact hp
  | resume hr =>
    rw [hr] at hu
    cases hu
  | writeClosed hw => rcases hw with rfl | rfl | rfl <;> cases hp
  | writeRefused hw | writeWait hw | writePush hw => cases hw <;> cases hp
  | readRefused hw => rcases hw with rfl | rfl <;> cases hp
  | readFails hw =>
    rcases hw with rfl | hw
    · cases hp
    · cases hw <;> cases hp
  | readWait hw | readPop hw | readPopAll hw => cases hw <;> cases hp
  | readGoesOn hw => rw [past_of_waiting_none (waiting_of_readBegun hw)] at hp; cases hp
  | selClosed hi hc hw => rcases hw with rfl | ⟨rfl, -⟩ <;> cases hp
  | _ => cases hp

/-- What makes a coroutine get past the callback of a wait. -/
lemma Plan.past (h : Plan s c p a p') {kind : WaitKind Ch} (hp : p'.past = some kind) :
    p.past = some kind ∧ a = .commitPark ∨
      (∃ ch, kind = .write ch ∧ a = .registerEnableWriteCond ch) ∨
      (∃ ch, kind = .read ch ∧ a = .recheckEnableRead ch) ∨ kind = .select := by
  have hfinish : ∀ run pass index, (finishPass run pass index : Pc Ch α).past = some kind →
      kind = .select := by
    intro run pass index h
    cases pass <;> cases index <;> simp only [finishPass] at h <;>
      first | cases h; rfl | cases h | (split at h <;> cases h)
  have hnext : ∀ run pass i, (nextCase run pass i : Pc Ch α).past = some kind →
      kind = .select := by
    intro run pass i h
    unfold nextCase at h
    split at h
    · cases h
    · exact hfinish _ _ _ h
  cases h with
  | commitPark => exact .inl ⟨hp, rfl⟩
  | writeCallback => cases hp; exact .inr (.inl ⟨_, rfl, rfl⟩)
  | readCallback => cases hp; exact .inr (.inr (.inl ⟨_, rfl, rfl⟩))
  | selNotify => cases hp; exact .inr (.inr (.inr rfl))
  | selClosed | selPush => exact .inr (.inr (.inr (hfinish _ _ _ hp)))
  | selHeld | selFull => exact .inr (.inr (.inr (hnext _ _ _ hp)))
  | selRelease =>
    split at hp
    · exact .inr (.inr (.inr (hfinish _ _ _ hp)))
    · exact .inr (.inr (.inr (hnext _ _ _ hp)))
  | selWatch | selUnwatch => split at hp <;> cases hp
  | waitFails | registFails | unbind =>
    rw [past_of_waiting_none (waiting_afterWait ..)] at hp
    cases hp
  | @waitThrows w => cases w <;> cases hp
  | @registAwaitEvent w => cases w <;> cases hp
  | readFlag hf hw => rw [past_of_waiting_none (waiting_of_readBegun hw)] at hp; cases hp
  | readGoesOn hw hw' => rw [past_of_waiting_none (waiting_of_readBegun hw')] at hp; cases hp
  | closeCheck hw => rcases hw with rfl | rfl <;> cases hp
  | _ => cases hp

end

/-! ## What the acts do to the waiters of a channel -/

section

variable [DecidableEq Co] [DecidableEq Ch] {s s' : State Co Ch α} {c : Co} {ch : Ch}

/-- Only one act concerns the flag. -/
lemma apply_isReading {a : Act Ch α} (hs : ∀ ch b, a ≠ .setReading ch b) (ch : Ch) :
    ((s.apply c a).chan ch).isReading = (s.chan ch).isReading := by
  refine apply_member Chan.isReading fun x x' h => ?_
  cases h with
  | setReading b => exact absurd rfl (hs ch b)
  | _ => rfl

/-- Only one act concerns the waiting reader. -/
lemma apply_enableReadCond {a : Act Ch α} (hr : ∀ timed, a ≠ .registCustom (some ch) timed) :
    ((s.apply c a).chan ch).enableReadCond = (s.chan ch).enableReadCond := by
  refine apply_member Chan.enableReadCond fun x x' h => ?_
  cases h with
  | registCustom timed => exact absurd rfl (hr timed)
  | _ => rfl

/-- A pop takes a waiting writer out of the queue only by notifying it. -/
lemma pop_conds_keep (s : State Co Ch α) (c : Co) (ch : Ch) {k : Co} {n : ℕ}
    (h : some (k, n) ∈ (s.chan ch).enableWriteConds)
    (hl : ((s.pop c ch).wait k).live n = true) :
    some (k, n) ∈ ((s.pop c ch).chan ch).enableWriteConds := by
  cases hi : (s.chan ch).itemQueue with
  | nil => rwa [pop_of_nil s c hi]
  | cons item items =>
    rw [pop_wait s c hi] at hl
    rw [pop_chan s c hi, Function.update_self]
    refine mem_notifyOneIn h ?_
    rwa [(notifyAllIn_notified _ _ k).eq_of_live hl] at hl

/-- Only `_RegisterEnableWriteCond` adds a waiting writer. -/
lemma apply_conds_sub {a : Act Ch α} {e : Option (Co × ℕ)}
    (h : e ∈ ((s.apply c a).chan ch).enableWriteConds) :
    e ∈ (s.chan ch).enableWriteConds ∨
      a = .registerEnableWriteCond ch ∧ e = some (c, (s.wait c).n) ∧
        (s.chan ch).isClosed = false ∧ (s.chan ch).full = true := by
  refine apply_induct (I := fun x => e ∈ x.enableWriteConds → e ∈ (s.chan ch).enableWriteConds ∨
    a = .registerEnableWriteCond ch ∧ e = some (c, (s.wait c).n) ∧
      (s.chan ch).isClosed = false ∧ (s.chan ch).full = true) (fun x x' ht hx he => ?_) .inl h
  cases ht with
  | pop w => exact hx ((notifyOneIn_suffix _ _).subset he)
  | close => cases he
  | registerEnableWriteCond hc hf =>
    rcases List.mem_append.mp he with he | he
    · exact .inl he
    · exact .inr ⟨rfl, List.mem_singleton.mp he, hc, hf⟩
  | _ => exact hx he

/-- A pop adds no waiting writer. -/
lemma pop_conds_sub (s : State Co Ch α) (c : Co) (ch ch' : Ch) {e : Option (Co × ℕ)}
    (h : e ∈ ((s.pop c ch').chan ch).enableWriteConds) : e ∈ (s.chan ch).enableWriteConds := by
  rcases apply_conds_sub (a := .pop ch') h with he | ⟨ha, -⟩
  · exact he
  · cases ha

/-- A waiting writer leaves the queue only by being notified. -/
lemma apply_conds_keep {a : Act Ch α} {k : Co} {n : ℕ}
    (h : some (k, n) ∈ (s.chan ch).enableWriteConds)
    (hl : ((s.apply c a).wait k).live n = true) :
    some (k, n) ∈ ((s.apply c a).chan ch).enableWriteConds := by
  by_cases hpop : a = .pop ch
  · subst hpop
    exact pop_conds_keep s c ch h hl
  by_cases hall : a = .popAll ch
  · subst hall
    refine popN_induct ch (I := fun t => (t.wait k).live n = true →
      some (k, n) ∈ (t.chan ch).enableWriteConds) (fun t ht hl => ?_) _ (fun _ => h) hl
    refine pop_conds_keep t c ch (ht ?_) hl
    rwa [(pop_notified t c ch k).eq_of_live hl] at hl
  refine apply_induct (I := fun x => some (k, n) ∈ x.enableWriteConds) (fun x x' ht hx => ?_) h
  cases ht with
  | pop w ha hi => exact (ha.elim hpop hall).elim
  | close =>
    change ((s.close ch).wait k).live n = true at hl
    rw [close_wait] at hl
    rw [(notifyAllIn_notified _ _ k).eq_of_live hl, not_live_notifyAllIn _ h] at hl
    cases hl
  | registerEnableWriteCond hc hf => exact List.mem_append_left _ hx
  | _ => exact hx

end

/-! ## The invariants -/

/-- The flag `m_is_reading` of a channel is set exactly while one operation holds it. -/
structure FlagInv (s : State Co Ch α) : Prop where
  held : ∀ k ch, (s.pc k).reading = some ch → (s.chan ch).isReading = true
  holder : ∀ ch, (s.chan ch).isReading = true → ∃ k, (s.pc k).reading = some ch
  unique : ∀ j k ch, (s.pc j).reading = some ch → (s.pc k).reading = some ch → j = k

/-- The waiters of a coroutine that waits can be notified, and nobody else can. -/
structure WaitInv (s : State Co Ch α) : Prop where
  /-- A waiter is bound only inside its wait. -/
  bound : ∀ k, (s.wait k).bound = true → (s.pc k).waiting ≠ none
  /-- The waiter of an undecided wait is live. -/
  live : ∀ k, (s.pc k).waiting ≠ none → (s.wait k).round.undecided = true →
    (s.wait k).live (s.wait k).n = true
  /-- A live waiter among the waiting writers of a channel belongs to a write that waits for it. -/
  entry : ∀ ch k n, some (k, n) ∈ (s.chan ch).enableWriteConds → n ≤ (s.wait k).n ∧
    ((s.wait k).live n = true → (s.pc k).past = some (.write ch))
  /-- A write that waits undecided is among them. -/
  queued : ∀ ch k, (s.pc k).past = some (.write ch) → (s.wait k).round.undecided = true →
    some (k, (s.wait k).n) ∈ (s.chan ch).enableWriteConds
  /-- A read that waits is bound to the waiter of its channel. -/
  cond : ∀ ch k, (s.pc k).waiting = some (.read ch) →
    (s.chan ch).enableReadCond = some (k, (s.wait k).n)
  /-- The waiter of a channel is bound by a read that waits for it. -/
  condBusy : ∀ ch k n, (s.chan ch).enableReadCond = some (k, n) → n ≤ (s.wait k).n ∧
    (n = (s.wait k).n → (s.wait k).bound = true → (s.pc k).waiting = some (.read ch))

section

variable [DecidableEq Co] [DecidableEq Ch] {s s' : State Co Ch α} {c : Co} {ch : Ch}

omit [DecidableEq Ch] in
/-- Who waits to read holds the flag. -/
lemma reading_of_waiting {p : Pc Ch α} (h : p.waiting = some (.read ch)) :
    p.reading = some ch := by
  have hw : ∀ w : Waiting Ch α, w.kind = .read ch → w.cond = some ch := by
    intro w hk
    cases w <;> cases hk
    rfl
  cases p with
  | regist w | commit w | parked w | unbind w => exact hw w (Option.some.inj h)
  | readCallback => cases h; rfl
  | selTry run pass | selFlag run pass | selLock run pass | selRelease run pass =>
    cases pass <;> cases h
  | _ => cases h

omit [DecidableEq Co] [DecidableEq Ch] in
/-- An operation that is called holds no flag and does not wait. -/
lemma entry_reading {op : Op Ch α} {p : Pc Ch α} (h : s.entry c op = some p) :
    p.reading = none ∧ p.waiting = none := by
  exact State.entry_induct h (I := fun p => p.reading = none ∧ p.waiting = none)
    (fun _ _ _ => ⟨rfl, rfl⟩) (fun _ _ => ⟨rfl, rfl⟩) (fun _ _ => ⟨rfl, rfl⟩)
    (fun _ => ⟨rfl, rfl⟩) fun _ _ _ _ => ⟨rfl, rfl⟩

/-- A move of `c` keeps the invariant of the flags. -/
lemma FlagInv.move (hF : FlagInv s) {a : Act Ch α} {p : Pc Ch α} (h : Plan s c (s.pc c) a p) :
    FlagInv ((s.apply c a).goto c p) := by
  have hpc : ∀ k, k ≠ c → ((s.apply c a).goto c p).pc k = s.pc k := fun k hk => by
    rw [goto_pc_of_ne _ _ hk, apply_pc]
  rcases h.reading with ⟨ch, rfl, hf, hr, hp⟩ | ⟨ch, rfl, hr, hp⟩ | ⟨ha, hp⟩
  · -- `c` takes the free flag of `ch`
    have hfree : ∀ k, (s.pc k).reading ≠ some ch := fun k hk => by
      rw [hF.held k ch hk] at hf
      cases hf
    have hflag : ∀ ch', (((s.apply c (.setReading ch true)).goto c p).chan ch').isReading =
        if ch' = ch then true else (s.chan ch').isReading := fun ch' => by
      by_cases hc : ch' = ch
      · subst hc
        simp [State.apply, State.setReading, State.setChan]
      · simp [State.apply, State.setReading, State.setChan, hc]
    refine ⟨fun k ch' hk => ?_, fun ch' hc => ?_, fun j k ch' hj hk => ?_⟩
    · rw [hflag]
      by_cases hkc : k = c
      · rw [hkc, goto_pc_self, hp] at hk
        cases hk
        rw [if_pos rfl]
      · rw [hpc k hkc] at hk
        rw [hF.held k ch' hk, ite_self]
    · by_cases hcc : ch' = ch
      · exact ⟨c, by rw [goto_pc_self, hp, hcc]⟩
      · rw [hflag, if_neg hcc] at hc
        obtain ⟨k, hk⟩ := hF.holder ch' hc
        have hkc : k ≠ c := by
          rintro rfl
          rw [hr] at hk
          cases hk
        exact ⟨k, by rw [hpc k hkc, hk]⟩
    · have key : ∀ j, j ≠ c → (((s.apply c (.setReading ch true)).goto c p).pc j).reading =
          some ch' → ch' ≠ ch := fun j hj hr' he => by
        rw [hpc j hj, he] at hr'
        exact hfree j hr'
      by_cases hjc : j = c <;> by_cases hkc : k = c
      · rw [hjc, hkc]
      · rw [hjc, goto_pc_self, hp] at hj
        exact absurd (Option.some.inj hj).symm (key k hkc hk)
      · rw [hkc, goto_pc_self, hp] at hk
        exact absurd (Option.some.inj hk).symm (key j hjc hj)
      · rw [hpc j hjc] at hj
        rw [hpc k hkc] at hk
        exact hF.unique j k ch' hj hk
  · -- `c` drops the flag of `ch`
    have hflag : ∀ ch', ch' ≠ ch →
        (((s.apply c (.setReading ch false)).goto c p).chan ch').isReading =
          (s.chan ch').isReading := fun ch' hc => by
      simp [State.apply, State.setReading, State.setChan, hc]
    have hself : (((s.apply c (.setReading ch false)).goto c p).chan ch).isReading = false := by
      simp [State.apply, State.setReading, State.setChan]
    have hne : ∀ j, (((s.apply c (.setReading ch false)).goto c p).pc j).reading ≠ none →
        j ≠ c := by
      rintro j hj rfl
      rw [goto_pc_self, hp] at hj
      exact hj rfl
    refine ⟨fun k ch' hk => ?_, fun ch' hc => ?_, fun j k ch' hj hk => ?_⟩
    · have hkc := hne k (by simp [hk])
      rw [hpc k hkc] at hk
      have hcc : ch' ≠ ch := by
        rintro rfl
        exact hkc (hF.unique k c ch' hk hr)
      rw [hflag ch' hcc]
      exact hF.held k ch' hk
    · have hcc : ch' ≠ ch := by
        rintro rfl
        rw [hself] at hc
        cases hc
      rw [hflag ch' hcc] at hc
      obtain ⟨k, hk⟩ := hF.holder ch' hc
      have hkc : k ≠ c := by
        rintro rfl
        rw [hr] at hk
        exact hcc (Option.some.inj hk).symm
      exact ⟨k, by rw [hpc k hkc, hk]⟩
    · rw [hpc j (hne j (by simp [hj]))] at hj
      rw [hpc k (hne k (by simp [hk]))] at hk
      exact hF.unique j k ch' hj hk
  · have hreading : ∀ k, (((s.apply c a).goto c p).pc k).reading = (s.pc k).reading := fun k => by
      by_cases hkc : k = c
      · rw [hkc, goto_pc_self, hp]
      · rw [hpc k hkc]
    have hflag := apply_isReading (s := s) (c := c) ha
    refine ⟨fun k ch' hk => ?_, fun ch' hc => ?_, fun j k ch' hj hk => ?_⟩
    · rw [hreading] at hk
      exact (hflag ch').trans (hF.held k ch' hk)
    · obtain ⟨k, hk⟩ := hF.holder ch' ((hflag ch').symm.trans hc)
      exact ⟨k, (hreading k).trans hk⟩
    · rw [hreading] at hj hk
      exact hF.unique j k ch' hj hk

omit [DecidableEq Ch] in
/-- A coroutine that only moves, outside its reads, keeps the invariant of the flags. -/
lemma FlagInv.goto (hF : FlagInv s) {p : Pc Ch α} (hp : p.reading = (s.pc c).reading) :
    FlagInv (s.goto c p) := by
  have hreading : ∀ k, ((s.goto c p).pc k).reading = (s.pc k).reading := fun k => by
    by_cases hkc : k = c
    · rw [hkc, goto_pc_self, hp]
    · rw [goto_pc_of_ne _ _ hkc]
  refine ⟨fun k ch' hk => ?_, fun ch' hc => ?_, fun j k ch' hj hk => ?_⟩
  · rw [hreading] at hk
    exact hF.held k ch' hk
  · obtain ⟨k, hk⟩ := hF.holder ch' hc
    exact ⟨k, (hreading k).trans hk⟩
  · rw [hreading] at hj hk
    exact hF.unique j k ch' hj hk

/-- An act that goes on with the wait of the coroutine at most decides it. -/
lemma apply_later_self {a : Act Ch α} (ha : a.goesOn = true) :
    (s.wait c).Later ((s.apply c a).wait c) := by
  cases hn : a.notifies with
  | true => exact (apply_notified hn c).later
  | false =>
    cases a with
    | registAwaitEvent =>
      change Later _ ((s.setWait c _).wait c)
      simp only [State.setWait, Function.update_self]
      exact later_registAwaitEvent _
    | commitPark =>
      change Later _ ((s.setWait c _).wait c)
      simp only [State.setWait, Function.update_self]
      exact later_commitPark _
    | resume m =>
      change Later _ ((s.setWait c _).wait c)
      simp only [State.setWait, Function.update_self]
      exact later_resume _ m
    | _ => simp [Act.notifies, Act.goesOn] at hn ha

/-- An act that ends the wait of the coroutine unbinds its waiter. -/
lemma apply_unbound {a : Act Ch α} (ha : a.ends) :
    ((s.apply c a).wait c).bound = false := by
  rcases ha with rfl | rfl | rfl <;>
    simp [State.apply, State.setWait, Wait.abandon, Wait.unbind]

/-- The wait record of a coroutine that binds its event. -/
lemma apply_registCustom_wait (cond : Option Ch) (timed : Bool) :
    (s.apply c (.registCustom cond timed)).wait c = (s.wait c).registCustom timed := by
  cases cond <;> exact Function.update_self ..

/-- An act does not lower the number of a wait. -/
lemma apply_n_le (a : Act Ch α) (k : Co) : (s.wait k).n ≤ ((s.apply c a).wait k).n := by
  by_cases hk : k = c
  · subst hk
    cases ha : a.goesOn with
    | true => exact (apply_later_self ha).n.ge
    | false =>
      cases a with
      | registCustom cond timed =>
        rw [apply_registCustom_wait]
        exact Nat.le_succ _
      | abandon | registFails | unbind =>
        simp [State.apply, State.setWait, Wait.abandon, Wait.unbind, registAwaitEvent]
      | _ => cases ha
  · exact (apply_later a hk).n.ge

/-- A write that is still undecided after its callback has been queued by it. -/
lemma queued_of_registered (hl : (s.wait c).live (s.wait c).n = true)
    (hu : ((s.registerEnableWriteCond c ch).wait c).round.undecided = true) :
    some (c, (s.wait c).n) ∈ ((s.registerEnableWriteCond c ch).chan ch).enableWriteConds := by
  unfold State.registerEnableWriteCond at hu ⊢
  dsimp only at hu ⊢
  split at hu
  · rename_i hn
    rw [if_pos hn]
    simp [State.setChan]
  · have hd := decided_notifyAllIn (List.mem_singleton_self (some (c, (s.wait c).n))) hl
    have hu' : (notifyAllIn [some (c, (s.wait c).n)] s.wait c).round.undecided = true := hu
    rw [hd] at hu'
    cases hu'

omit [DecidableEq Co] [DecidableEq Ch] in
/-- Who registers as a writer is past the last check of a write. -/
lemma Plan.past_of_register {p p' : Pc Ch α} (h : Plan s c p (.registerEnableWriteCond ch) p') :
    p'.past = some (.write ch) := by
  cases h
  rfl

section

variable {a : Act Ch α} {p : Pc Ch α}

/-- The other coroutines stay where they are. -/
lemma apply_goto_pc_of_ne {k : Co} (hk : k ≠ c) : ((s.apply c a).goto c p).pc k = s.pc k := by
  rw [goto_pc_of_ne _ _ hk, apply_pc]

/-- The wait of `c` goes on. -/
lemma WaitInv.goesOn (hW : WaitInv s) (h : Plan s c (s.pc c) a p) (ha : a.goesOn = true)
    (hp : p.waiting = (s.pc c).waiting) : WaitInv ((s.apply c a).goto c p) := by
  have hself : ((s.apply c a).goto c p).pc c = p := goto_pc_self ..
  have hwait : ∀ k, (((s.apply c a).goto c p).pc k).waiting = (s.pc k).waiting := fun k => by
    by_cases hkc : k = c
    · rw [hkc, hself, hp]
    · rw [apply_goto_pc_of_ne hkc]
  have later : ∀ k, (s.wait k).Later ((s.apply c a).wait k) := fun k => by
    by_cases hkc : k = c
    · exact hkc ▸ apply_later_self ha
    · exact apply_later a hkc
  have hlive : ∀ k n, ((s.apply c a).wait k).live n = true → (s.wait k).live n = true :=
    fun k n hl => by rwa [← (later k).live (live_eq_true_iff.mp hl).2.2.2]
  have hregist : ∀ ch timed, a ≠ .registCustom (some ch) timed := by
    rintro ch timed rfl
    cases ha
  have hlive' : ∀ k, (s.pc k).waiting ≠ none →
      ((s.apply c a).wait k).round.undecided = true →
        ((s.apply c a).wait k).live (s.wait k).n = true := fun k hw hu => by
    rw [(later k).live hu]
    exact hW.live k hw ((later k).undecided hu).1
  refine ⟨fun k hb => ?_, fun k hw hu => ?_, fun ch k n he => ?_, fun ch k hpast hu => ?_,
    fun ch k hw => ?_, fun ch k n he => ?_⟩
  · rw [hwait]
    exact hW.bound k ((later k).bound ▸ hb)
  · rw [hwait] at hw
    rw [goto_wait, (later k).n]
    exact hlive' k hw hu
  · rw [goto_wait, (later k).n]
    rcases apply_conds_sub he with he | ⟨rfl, he, -⟩
    · obtain ⟨hn, hpast⟩ := hW.entry ch k n he
      refine ⟨hn, fun hl => ?_⟩
      by_cases hkc : k = c
      · subst hkc
        rw [hself]
        exact h.past_of_past (hpast (hlive k n hl))
          (live_eq_true_iff.mp (hlive k n hl)).2.2.2
      · rw [apply_goto_pc_of_ne hkc]
        exact hpast (hlive k n hl)
    · cases he
      exact ⟨le_rfl, fun _ => by rw [hself]; exact h.past_of_register⟩
  · have hw := waiting_of_past hpast
    rw [hwait] at hw
    have hl := hlive' k (by simp [hw]) hu
    rw [goto_wait, (later k).n]
    by_cases hkc : k = c
    · subst hkc
      rw [hself] at hpast
      rcases h.past hpast with ⟨hs, -⟩ | ⟨ch', hk, rfl⟩ | ⟨ch', hk, -⟩ | hk
      · exact apply_conds_keep (hW.queued ch k hs ((later k).undecided hu).1) hl
      · cases hk
        exact queued_of_registered (hW.live k (by simp [hw]) ((later k).undecided hu).1) hu
      · cases hk
      · cases hk
    · rw [apply_goto_pc_of_ne hkc] at hpast
      exact apply_conds_keep (hW.queued ch k hpast ((later k).undecided hu).1) hl
  · rw [hwait] at hw
    rw [goto_wait, (later k).n]
    exact (apply_enableReadCond (hregist ch)).trans (hW.cond ch k hw)
  · rw [goto_wait, (later k).n, (later k).bound, hwait]
    exact hW.condBusy ch k n ((apply_enableReadCond (hregist ch)).symm.trans he)

/-- The wait of `c` begins or ends: what is left to show about `c` alone. -/
lemma WaitInv.change (hW : WaitInv s) (hconds : ∀ ch, a ≠ .registerEnableWriteCond ch)
    (hdead : ∀ n, n ≤ (s.wait c).n → ((s.apply c a).wait c).live n = false)
    (bound : ((s.apply c a).wait c).bound = true → p.waiting ≠ none)
    (live : p.waiting ≠ none → ((s.apply c a).wait c).live ((s.apply c a).wait c).n = true)
    (past : p.past = none)
    (cond : ∀ ch, p.waiting = some (.read ch) →
      ((s.apply c a).chan ch).enableReadCond = some (c, ((s.apply c a).wait c).n))
    (others : ∀ ch k, k ≠ c → (s.pc k).waiting = some (.read ch) →
      ((s.apply c a).chan ch).enableReadCond = (s.chan ch).enableReadCond)
    (condBusy : ∀ ch k n, ((s.apply c a).chan ch).enableReadCond = some (k, n) →
      (s.chan ch).enableReadCond = some (k, n) ∧ (k = c → ((s.apply c a).wait c).bound = true →
        n ≠ ((s.apply c a).wait c).n) ∨
      k = c ∧ n = ((s.apply c a).wait c).n ∧ p.waiting = some (.read ch)) :
    WaitInv ((s.apply c a).goto c p) := by
  have hself : ((s.apply c a).goto c p).pc c = p := goto_pc_self ..
  have hn := apply_n_le (s := s) (c := c) a
  refine ⟨fun k hb => ?_, fun k hw hu => ?_, fun ch k n he => ?_, fun ch k hpast hu => ?_,
    fun ch k hw => ?_, fun ch k n he => ?_⟩
  · by_cases hkc : k = c
    · rw [hkc] at hb ⊢
      rw [hself]
      exact bound hb
    · rw [apply_goto_pc_of_ne hkc]
      exact hW.bound k ((apply_later a hkc).bound ▸ hb)
  · by_cases hkc : k = c
    · rw [hkc] at hw ⊢
      rw [hself] at hw
      exact live hw
    · rw [apply_goto_pc_of_ne hkc] at hw
      have hl := apply_later (s := s) a hkc
      rw [goto_wait, hl.n, hl.live hu]
      exact hW.live k hw (hl.undecided hu).1
  · rcases apply_conds_sub he with he | ⟨ha, -⟩
    · obtain ⟨hle, hpast⟩ := hW.entry ch k n he
      refine ⟨hle.trans (hn k), fun hl => ?_⟩
      by_cases hkc : k = c
      · subst hkc
        rw [goto_wait, hdead n hle] at hl
        cases hl
      · rw [apply_goto_pc_of_ne hkc]
        refine hpast ?_
        rwa [goto_wait, (apply_later a hkc).live (live_eq_true_iff.mp hl).2.2.2] at hl
    · exact absurd ha (hconds ch)
  · by_cases hkc : k = c
    · rw [hkc, hself, past] at hpast
      cases hpast
    · rw [apply_goto_pc_of_ne hkc] at hpast
      have hl := apply_later (s := s) a hkc
      have hu' := (hl.undecided hu).1
      rw [goto_wait, hl.n]
      refine apply_conds_keep (hW.queued ch k hpast hu') ?_
      rw [hl.live hu]
      exact hW.live k (by simp [waiting_of_past hpast]) hu'
  · by_cases hkc : k = c
    · rw [hkc] at hw ⊢
      rw [hself] at hw
      exact cond ch hw
    · rw [apply_goto_pc_of_ne hkc] at hw
      rw [goto_wait, (apply_later a hkc).n]
      exact (others ch k hkc hw).trans (hW.cond ch k hw)
  · rcases condBusy ch k n he with ⟨he, hne⟩ | ⟨rfl, rfl, hw⟩
    · obtain ⟨hle, hwait⟩ := hW.condBusy ch k n he
      refine ⟨hle.trans (hn k), fun hk hb => ?_⟩
      by_cases hkc : k = c
      · subst hkc
        exact absurd hk (hne rfl hb)
      · have hl := apply_later (s := s) a hkc
        rw [apply_goto_pc_of_ne hkc]
        rw [goto_wait] at hk hb
        exact hwait (hk.trans hl.n) (hl.bound ▸ hb)
    · exact ⟨le_rfl, fun _ _ => by rw [hself]; exact hw⟩

/-- A move of `c` keeps the invariant of the waits. -/
lemma WaitInv.move (hF : FlagInv s) (hW : WaitInv s) (h : Plan s c (s.pc c) a p) :
    WaitInv ((s.apply c a).goto c p) := by
  rcases h.waiting with ⟨w, hq, rfl, rfl⟩ | ⟨ha, hp⟩ | ⟨ha, hp⟩
  · have hwait := apply_registCustom_wait (s := s) (c := c) w.cond w.timed
    have hreading : (s.pc c).reading = w.cond := by rw [hq]; rfl
    have hkind : ∀ ch, (Pc.regist (w.begun ((s.wait c).n + 1))).waiting = some (.read ch) ↔
        w.cond = some ch := fun ch => by
      cases w <;> simp [Pc.waiting, Waiting.begun, Waiting.kind, Waiting.cond]
    have hset : ∀ ch, w.cond = some ch →
        ((s.apply c (.registCustom w.cond w.timed)).chan ch).enableReadCond =
          some (c, (s.wait c).n + 1) := fun ch hc => by
      rw [hc]
      simp [State.apply, State.registCustom, State.setChan]
    have hkeep : ∀ ch, w.cond ≠ some ch →
        ((s.apply c (.registCustom w.cond w.timed)).chan ch).enableReadCond =
          (s.chan ch).enableReadCond := fun ch hc =>
      apply_enableReadCond fun timed ha => hc (Act.registCustom.inj ha).1
    refine hW.change (by simp) (fun n hn => ?_) (fun _ => by simp [Pc.waiting]) (fun _ => ?_) rfl
      (fun ch h => ?_) (fun ch k hkc hk => hkeep ch fun hc => hkc ?_) (fun ch k n he => ?_)
    · have hne : (s.wait c).n + 1 ≠ n := by omega
      rw [hwait]
      simp [Wait.live, Wait.registCustom, hne]
    · rw [hwait]
      simp [Wait.live, Wait.registCustom, Round.undecided]
    · rw [hset ch ((hkind ch).mp h), hwait]
      rfl
    · exact hF.unique k c ch (reading_of_waiting hk) (hreading.trans hc)
    · by_cases hc : w.cond = some ch
      · rw [hset ch hc] at he
        cases he
        exact .inr ⟨rfl, by rw [hwait]; rfl, (hkind ch).mpr hc⟩
      · rw [hkeep ch hc] at he
        refine .inl ⟨he, fun hk _ hn => ?_⟩
        have hle := (hW.condBusy ch k n he).1
        rw [hwait, Wait.registCustom] at hn
        rw [hk] at hle
        simp only at hn
        omega
  · have hb := apply_unbound (s := s) (c := c) ha
    have hregist : ∀ ch timed, a ≠ .registCustom (some ch) timed := by
      rintro ch timed rfl
      rcases ha with ha | ha | ha <;> cases ha
    refine hW.change ?_ (fun n _ => ?_) (fun h => ?_) (fun h => absurd hp h)
      (past_of_waiting_none hp) (fun ch h => ?_) (fun ch k _ _ => apply_enableReadCond (hregist ch))
      (fun ch k n he => .inl ⟨(apply_enableReadCond (hregist ch)).symm.trans he, fun _ h => ?_⟩)
    · rintro ch rfl
      rcases ha with ha | ha | ha <;> cases ha
    · by_contra hl
      rw [Bool.not_eq_false, live_eq_true_iff, hb] at hl
      cases hl.2.1
    · rw [hb] at h
      cases h
    · rw [hp] at h
      cases h
    · rw [hb] at h
      cases h
  · exact hW.goesOn h ha hp

section

omit [DecidableEq Ch]

/-- A coroutine that calls an operation keeps the invariant of the waits. -/
lemma WaitInv.call (hW : WaitInv s) (hp : (s.pc c).waiting = none) (hp' : p.waiting = none) :
    WaitInv (s.goto c p) := by
  have hwait : ∀ k, ((s.goto c p).pc k).waiting = (s.pc k).waiting := fun k => by
    by_cases hkc : k = c
    · rw [hkc, goto_pc_self, hp, hp']
    · rw [goto_pc_of_ne _ _ hkc]
  have hpast : ∀ k, ((s.goto c p).pc k).past = (s.pc k).past := fun k => by
    by_cases hkc : k = c
    · rw [hkc, goto_pc_self, past_of_waiting_none hp, past_of_waiting_none hp']
    · rw [goto_pc_of_ne _ _ hkc]
  refine ⟨fun k hb => ?_, fun k hw => ?_, fun ch k n he => ?_, fun ch k hk => ?_, fun ch k hw => ?_,
    fun ch k n he => ?_⟩
  · rw [hwait]
    exact hW.bound k hb
  · rw [hwait] at hw
    exact hW.live k hw
  · rw [hpast]
    exact hW.entry ch k n he
  · rw [hpast] at hk
    exact hW.queued ch k hk
  · rw [hwait] at hw
    exact hW.cond ch k hw
  · rw [hwait]
    exact hW.condBusy ch k n he

/-- Replacing a wait record by a later one replaces each by a later one. -/
lemma later_setWait {w : Wait} (hw : (s.wait c).Later w) (k : Co) :
    (s.wait k).Later ((s.setWait c w).wait k) := by
  by_cases hkc : k = c
  · subst hkc
    simpa [State.setWait] using hw
  · simpa [State.setWait, hkc] using Wait.Later.refl _

/-- A wait record that moves on keeps the invariant of the waits. -/
lemma WaitInv.setWait (hW : WaitInv s) {w : Wait} (hw : (s.wait c).Later w) :
    WaitInv (s.setWait c w) := by
  have later := later_setWait hw
  refine ⟨fun k hb => hW.bound k ((later k).bound ▸ hb), fun k hk hu => ?_, fun ch k n he => ?_,
    fun ch k hk hu => ?_, fun ch k hk => ?_, fun ch k n he => ?_⟩
  · rw [(later k).n, (later k).live hu]
    exact hW.live k hk ((later k).undecided hu).1
  · obtain ⟨hn, hl⟩ := hW.entry ch k n he
    refine ⟨(later k).n ▸ hn, fun h => hl ?_⟩
    rwa [(later k).live (live_eq_true_iff.mp h).2.2.2] at h
  · rw [(later k).n]
    exact hW.queued ch k hk ((later k).undecided hu).1
  · rw [(later k).n]
    exact hW.cond ch k hk
  · rw [(later k).n, (later k).bound]
    exact hW.condBusy ch k n he

end

end

/-- The step lemma of the flags and the waits. -/
lemma waitInv_next {l : Label Co Ch α} (hF : FlagInv s) (hW : WaitInv s)
    (h : next s l = some s') : FlagInv s' ∧ WaitInv s' := by
  cases next_cases h with
  | call hp he =>
    obtain ⟨hr, hw⟩ := entry_reading he
    exact ⟨hF.goto (by rw [hr, hp]; rfl), hW.call (by rw [hp]; rfl) hw⟩
  | run hp => exact ⟨hF.move hp, hW.move hF hp⟩
  | wait hw => exact ⟨⟨hF.held, hF.holder, hF.unique⟩, hW.setWait hw⟩

omit [DecidableEq Co] [DecidableEq Ch] in
/-- No coroutine reads or waits in the initial state. -/
lemma waitInv_init (size : Ch → ℕ+) :
    FlagInv (init size : State Co Ch α) ∧ WaitInv (init size : State Co Ch α) := by
  refine ⟨⟨fun k ch h => ?_, fun ch h => ?_, fun j k ch h => ?_⟩,
    ⟨fun k h => ?_, fun k h => ?_, fun ch k n h => ?_, fun ch k h => ?_, fun ch k h => ?_,
      fun ch k n h => ?_⟩⟩
  all_goals first | cases h | exact absurd rfl h

/-- Both invariants hold in every reachable state. -/
lemma waitInv_of_reachable (h : (system Co Ch α).Reachable s) : FlagInv s ∧ WaitInv s := by
  refine System.Reachable.induct (I := fun s => FlagInv s ∧ WaitInv s) ?_
    (fun _ _ _ hI hs => waitInv_next hI.1 hI.2 hs) h
  rintro _ ⟨size, rfl⟩
  exact waitInv_init size

end

end BbtCoroutine.Chan
