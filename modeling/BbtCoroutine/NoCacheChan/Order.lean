import BbtCoroutine.NoCacheChan.Steps

/-!
# Which writers wait at a channel without a cache

A write places its item in one critical section and registers its waiter in a later one, so
the queue of the waiters need not have the order of the items.  A reader that takes an item
releases the first live waiter of the queue.  If this is the writer of the item whenever that
writer waits (`InOrder`), no writer goes on waiting once its item has been read
(`unread_of_parked`); else one may (`read_but_parked`).
-/

namespace BbtCoroutine.NoCacheChan

open Transition Wait

variable {Co α : Type*} [DecidableEq Co]

/-! ## The queue and the wait records -/

/-- The acts of a coroutine on its own wait record. -/
def Act.own : Act α → Bool
  | .registCustom _ | .abandon | .registAwaitEvent | .registFails | .commitPark | .resume _
  | .unbind => true
  | _ => false

section

variable {s : State Co α} {c k : Co} {n : ℕ} {a : Act α}

/-- A coroutine only notifies the waiters of others. -/
lemma notified_apply (h : k ≠ c ∨ a.own = false) :
    Notified (s.wait k) ((s.apply c a).wait k) := by
  cases a with
  | skip => exact Notified.refl _
  | setReading b => exact Notified.refl _
  | place item =>
    simp only [State.apply, State.place]
    split_ifs
    · exact notifyAllIn_notified _ _ k
    · exact Notified.refl _
  | take => exact notifyOneIn_notified _ _ k
  | close =>
    simp only [State.apply, State.close]
    split_ifs
    · exact (notifyAllIn_notified _ _ k).trans (notifyAllIn_notified _ _ k)
    · exact notifyAllIn_notified _ _ k
  | registerEnableWriteCond slot =>
    simp only [State.apply, State.registerEnableWriteCond]
    split_ifs
    · exact Notified.refl _
    · exact notifyAllIn_notified _ _ k
  | recheckEnableRead =>
    simp only [State.apply, State.recheckEnableRead]
    split_ifs
    · exact notifyAllIn_notified _ _ k
    · exact Notified.refl _
  | registCustom w =>
    have hk : k ≠ c := h.resolve_right (by rintro ⟨⟩)
    cases w <;> simp only [State.apply, State.registCustom, State.setWait] <;>
      rw [Function.update_of_ne hk] <;> exact Notified.refl _
  | _ =>
    have hk : k ≠ c := h.resolve_right (by rintro ⟨⟩)
    simp only [State.apply, State.setWait]
    rw [Function.update_of_ne hk]
    exact Notified.refl _

/-- Only the registration of a writer enters a waiter into the queue. -/
lemma mem_conds_apply (h : some (k, n) ∈ (s.apply c a).chan.enableWriteConds) :
    some (k, n) ∈ s.chan.enableWriteConds ∨ ∃ slot, a = .registerEnableWriteCond slot ∧ k = c ∧
      n = (s.wait c).n ∧ s.chan.readIdx ≤ slot ∧ (s.apply c a).wait = s.wait := by
  cases a with
  | place item =>
    simp only [State.apply, place_chan] at h
    exact .inl h
  | take => exact .inl ((notifyOneIn_suffix _ _).subset h)
  | close =>
    simp only [State.apply, close_chan] at h
    cases h
  | registerEnableWriteCond slot =>
    simp only [State.apply, State.registerEnableWriteCond] at h ⊢
    split_ifs at h ⊢ with hw
    · rcases List.mem_append.mp h with h | h
      · exact .inl h
      · obtain ⟨rfl, rfl⟩ := Prod.mk.inj (Option.some.inj (List.mem_singleton.mp h))
        rw [Bool.and_eq_true] at hw
        exact .inr ⟨slot, rfl, rfl, rfl, of_decide_eq_true hw.2, rfl⟩
    · exact .inl h
  | recheckEnableRead =>
    simp only [State.apply, State.recheckEnableRead] at h
    split_ifs at h <;> exact .inl h
  | registCustom w => cases w <;> exact .inl h
  | _ => exact .inl h

/-- A waiter that is still live has not left the queue. -/
lemma mem_conds_of_live (h : some (k, n) ∈ s.chan.enableWriteConds)
    (hl : ((s.apply c a).wait k).live n = true) :
    some (k, n) ∈ (s.apply c a).chan.enableWriteConds := by
  cases a with
  | place item =>
    simp only [State.apply, place_chan]
    exact h
  | take => exact mem_notifyOneIn h hl
  | close =>
    have hw : ∃ w, (s.apply c .close).wait = notifyAllIn s.chan.enableWriteConds w := by
      simp only [State.apply, State.close]
      split_ifs <;> exact ⟨_, rfl⟩
    obtain ⟨w, hw⟩ := hw
    rw [hw, not_live_notifyAllIn w h] at hl
    cases hl
  | registerEnableWriteCond slot =>
    simp only [State.apply, State.registerEnableWriteCond]
    split_ifs
    · exact List.mem_append_left _ h
    · exact h
  | recheckEnableRead =>
    simp only [State.apply, State.recheckEnableRead]
    split_ifs <;> exact h
  | registCustom w => cases w <;> exact h
  | _ => exact h

/-- What a coroutine makes of its own wait record. -/
lemma own_wait_apply (ha : a.own = true) :
    (∃ w timed, a = .registCustom w ∧ (s.apply c a).wait c = (s.wait c).registCustom timed) ∨
      ((s.wait c).n ≤ ((s.apply c a).wait c).n ∧ ∀ n, ((s.apply c a).wait c).live n = false) ∨
      ((a = .registAwaitEvent ∨ a = .commitPark ∨ ∃ m, a = .resume m) ∧
        Later (s.wait c) ((s.apply c a).wait c)) := by
  cases a with
  | registCustom w =>
    refine .inl ?_
    cases w with
    | write slot => exact ⟨_, false, rfl, Function.update_self ..⟩
    | read => exact ⟨_, true, rfl, Function.update_self ..⟩
  | abandon =>
    refine .inr (.inl ?_)
    simp only [State.apply, State.setWait, Function.update_self]
    exact ⟨Nat.le_succ _, live_abandon _⟩
  | registFails =>
    refine .inr (.inl ?_)
    simp only [State.apply, State.setWait, Function.update_self]
    exact ⟨le_rfl, live_unbind _⟩
  | unbind =>
    refine .inr (.inl ?_)
    simp only [State.apply, State.setWait, Function.update_self]
    exact ⟨le_rfl, live_unbind _⟩
  | registAwaitEvent =>
    refine .inr (.inr ⟨.inl rfl, ?_⟩)
    simp only [State.apply, State.setWait, Function.update_self]
    exact later_registAwaitEvent _
  | commitPark =>
    refine .inr (.inr ⟨.inr (.inl rfl), ?_⟩)
    simp only [State.apply, State.setWait, Function.update_self]
    exact later_commitPark _
  | resume m =>
    refine .inr (.inr ⟨.inr (.inr ⟨m, rfl⟩), ?_⟩)
    simp only [State.apply, State.setWait, Function.update_self]
    exact later_resume _ _
  | _ => cases ha

end

/-! ## The waiting writers -/

/-- The item of a write whose callback has run and that has not been resumed. -/
def Pc.past : Pc α → Option ℕ
  | .commit (.write slot) | .parked (.write slot) => some slot
  | _ => none

/-- The wait has begun, and its callback has not run. -/
def Pc.registering : Pc α → Bool
  | .regist _ | .callback _ => true
  | _ => false

/-- A live waiter of the queue is that of a write whose callback has run, and such a write has
its waiter in the queue as long as its wait is undecided. -/
structure Waiters (s : State Co α) : Prop where
  known : ∀ k n, some (k, n) ∈ s.chan.enableWriteConds → n ≤ (s.wait k).n
  writer : ∀ k n, some (k, n) ∈ s.chan.enableWriteConds → (s.wait k).live n = true →
    ∃ slot, (s.pc k).past = some slot
  queued : ∀ k slot, (s.pc k).past = some slot → (s.wait k).round.undecided = true →
    (s.wait k).live (s.wait k).n = true ∧
      some (k, (s.wait k).n) ∈ s.chan.enableWriteConds
  bound : ∀ k, (s.pc k).registering = true → (s.wait k).round.undecided = true →
    (s.wait k).live (s.wait k).n = true

section

variable {s s' : State Co α} {c : Co} {e : Env} {a : Act α} {p p' : Pc α}

/-- A waiter past the last check parks, or its round is decided. -/
lemma Plan.past (h : Plan s c e p a p') {slot : ℕ} (hp : p.past = some slot) :
    a = .commitPark ∧ p'.past = some slot ∨ (s.wait c).round.undecided = false := by
  cases h with
  | @commitPark w => exact .inl ⟨rfl, by cases w <;> exact hp⟩
  | resume hr =>
    right
    rw [hr]
    rfl
  | readGoesOn h => rcases h with rfl | rfl <;> cases hp
  | readFails h => rcases h with rfl | h <;> [skip; cases h] <;> cases hp
  | readWait h | take h => cases h <;> cases hp
  | _ => cases hp

/-- After a wait nobody is past the last check. -/
lemma past_afterWait (ret : ℤ) (w : Waiting) : (afterWait ret w : Pc α).past = none := by
  cases w <;> rfl

/-- After a wait nobody registers. -/
lemma registering_afterWait (ret : ℤ) (w : Waiting) :
    (afterWait ret w : Pc α).registering = false := by
  cases w <;> rfl

/-- How a write comes to the points behind its callback. -/
lemma Plan.to_past (h : Plan s c e p a p') {slot : ℕ} (hp : p'.past = some slot) :
    p = .callback (.write slot) ∧ a = .registerEnableWriteCond slot ∨
      p.past = some slot ∧ a = .commitPark := by
  cases h with
  | registerEnableWriteCond =>
    obtain rfl := Option.some.inj hp
    exact .inl ⟨rfl, rfl⟩
  | @commitPark w => exact .inr ⟨by cases w <;> exact hp, rfl⟩
  | readGoesOn _ h => rcases h with rfl | rfl <;> cases hp
  | closeCheck h => rcases h with rfl | rfl <;> cases hp
  | waitFails | registFails | unbind =>
    rw [past_afterWait] at hp
    cases hp
  | @waitThrows w => cases w <;> cases hp
  | _ => cases hp

/-- Who registers as a writer is past the last check. -/
lemma Plan.past_of_register {slot : ℕ} (h : Plan s c e p (.registerEnableWriteCond slot) p') :
    p'.past = some slot := by
  cases h
  rfl

/-- How a coroutine comes to the points before its callback. -/
lemma Plan.to_registering (h : Plan s c e p a p') (hp : p'.registering = true) :
    (∃ w, a = .registCustom w) ∨ p.registering = true ∧ a = .registAwaitEvent := by
  cases h with
  | registCustom => exact .inl ⟨_, rfl⟩
  | registAwaitEvent => exact .inr ⟨rfl, rfl⟩
  | readGoesOn _ h => rcases h with rfl | rfl <;> cases hp
  | closeCheck h => rcases h with rfl | rfl <;> cases hp
  | waitFails | registFails | unbind =>
    rw [registering_afterWait] at hp
    cases hp
  | @waitThrows w => cases w <;> cases hp
  | _ => cases hp

/-- The wait that has just begun is the one that can be notified. -/
lemma live_registCustom (w : Wait) (timed : Bool) {n : ℕ} :
    (w.registCustom timed).live n = true ↔ n = w.n + 1 := by
  rw [live_eq_true_iff]
  constructor
  · rintro ⟨rfl, -⟩
    rfl
  · rintro rfl
    exact ⟨rfl, rfl, rfl, rfl⟩

omit [DecidableEq Co] in
/-- Steps that only decide rounds keep the invariant. -/
lemma Waiters.later (hW : Waiters s) (hchan : s'.chan = s.chan) (hpc : s'.pc = s.pc)
    (hwait : ∀ k, Later (s.wait k) (s'.wait k)) : Waiters s' where
  known k n h := by
    rw [hchan] at h
    rw [(hwait k).n]
    exact hW.known k n h
  writer k n h hl := by
    have hu := (live_eq_true_iff.mp hl).2.2.2
    rw [(hwait k).live hu] at hl
    rw [hchan] at h
    rw [hpc]
    exact hW.writer k n h hl
  queued k slot hp hu := by
    rw [hpc] at hp
    rw [(hwait k).live hu, (hwait k).n, hchan]
    exact hW.queued k slot hp ((hwait k).undecided hu).1
  bound k hp hu := by
    rw [hpc] at hp
    rw [(hwait k).live hu, (hwait k).n]
    exact hW.bound k hp ((hwait k).undecided hu).1

/-- A waiter of the queue that is live after a step of a coroutine was so before, and is that of
the same write. -/
lemma Waiters.live_of_run (hW : Waiters s) (h : Plan s c e (s.pc c) a p') {k : Co} {n : ℕ}
    (hmem : some (k, n) ∈ s.chan.enableWriteConds)
    (hl : ((s.apply c a).wait k).live n = true) :
    (s.wait k).live n = true ∧ ∀ slot, (s.pc k).past = some slot →
      (((s.apply c a).goto c p').pc k).past = some slot := by
  have hu := (live_eq_true_iff.mp hl).2.2.2
  have hlive : (s.wait k).live n = true := by
    by_cases hk : k ≠ c ∨ a.own = false
    · rwa [(notified_apply hk).same hu] at hl
    · obtain ⟨hkc, hown⟩ := not_or.mp hk
      obtain rfl := not_not.mp hkc
      rcases own_wait_apply (s := s) (c := k) (by simpa using hown) with
        ⟨w, timed, -, hw⟩ | ⟨-, hw⟩ | ⟨-, hw⟩
      · -- the wait that begins is none of those in the queue
        rw [hw, live_registCustom] at hl
        have hknown := hW.known k n hmem
        omega
      · rw [hw n] at hl
        cases hl
      · rwa [hw.live hu] at hl
  refine ⟨hlive, fun slot hp => ?_⟩
  simp only [State.goto, apply_pc]
  by_cases hk : k = c
  · subst hk
    rw [Function.update_self]
    rcases h.past hp with ⟨-, hp'⟩ | hdec
    · exact hp'
    · rw [(live_eq_true_iff.mp hlive).2.2.2] at hdec
      cases hdec
  · rw [Function.update_of_ne hk]
    exact hp

/-- A step of a coroutine keeps the invariant. -/
lemma Waiters.run (hW : Waiters s) (h : Plan s c e (s.pc c) a p') :
    Waiters ((s.apply c a).goto c p') := by
  have hpc (k : Co) (hk : k ≠ c) : ((s.apply c a).goto c p').pc k = s.pc k := by
    simp only [State.goto, apply_pc]
    exact Function.update_of_ne hk _ _
  have hself : ((s.apply c a).goto c p').pc c = p' := by
    simp only [State.goto]
    exact Function.update_self ..
  -- the record of another coroutine is the same while its round is undecided
  have hsame (k : Co) (hk : k ≠ c ∨ a.own = false)
      (hu : ((s.apply c a).wait k).round.undecided = true) : (s.apply c a).wait k = s.wait k :=
    (notified_apply hk).same hu
  refine ⟨fun k n hmem => ?_, fun k n hmem hl => ?_, fun k slot hp hu => ?_, fun k hp hu => ?_⟩
  · change n ≤ ((s.apply c a).wait k).n
    have hn : (s.wait k).n ≤ ((s.apply c a).wait k).n := by
      by_cases hk : k ≠ c ∨ a.own = false
      · rw [(notified_apply hk).n]
      · obtain ⟨hkc, hown⟩ := not_or.mp hk
        obtain rfl := not_not.mp hkc
        rcases own_wait_apply (s := s) (c := k) (by simpa using hown) with
          ⟨w, timed, -, hw⟩ | ⟨hw, -⟩ | ⟨-, hw⟩
        · rw [hw]
          exact Nat.le_succ _
        · exact hw
        · exact hw.n.ge
    rcases mem_conds_apply hmem with hmem | ⟨slot, -, rfl, rfl, -⟩
    · exact (hW.known k n hmem).trans hn
    · exact hn
  · change ((s.apply c a).wait k).live n = true at hl
    rcases mem_conds_apply hmem with hmem | ⟨slot, rfl, rfl, -⟩
    · obtain ⟨hlive, hpast⟩ := hW.live_of_run h hmem hl
      obtain ⟨slot, hp⟩ := hW.writer k n hmem hlive
      exact ⟨slot, hpast slot hp⟩
    · rw [hself]
      exact ⟨slot, h.past_of_register⟩
  · change ((s.apply c a).wait k).round.undecided = true at hu
    change ((s.apply c a).wait k).live ((s.apply c a).wait k).n = true ∧
      some (k, ((s.apply c a).wait k).n) ∈ (s.apply c a).chan.enableWriteConds
    by_cases hk : k = c
    · subst hk
      rw [hself] at hp
      rcases h.to_past hp with ⟨hp, rfl⟩ | ⟨hp, rfl⟩
      · have heq := hsame k (.inr rfl) hu
        rw [heq] at hu
        have hlive := hW.bound k (by rw [hp]; rfl) hu
        rw [heq]
        refine ⟨hlive, ?_⟩
        simp only [State.apply, State.registerEnableWriteCond] at heq ⊢
        split_ifs at heq ⊢
        · exact List.mem_append_right _ (List.mem_singleton_self _)
        · -- the writer has notified itself
          have hdec := decided_notifyAllIn (List.mem_singleton_self _) hlive
          simp only [State.notifyAll] at heq
          rw [heq, hu] at hdec
          cases hdec
      · have hlater := later_commitPark (s.wait k)
        simp only [State.apply, State.setWait, Function.update_self] at hu ⊢
        rw [hlater.live hu, hlater.n]
        exact hW.queued k slot hp (hlater.undecided hu).1
    · rw [hpc k hk] at hp
      have heq := hsame k (.inl hk) hu
      rw [heq] at hu ⊢
      obtain ⟨hlive, hmem⟩ := hW.queued k slot hp hu
      exact ⟨hlive, mem_conds_of_live hmem (by rw [heq]; exact hlive)⟩
  · change ((s.apply c a).wait k).round.undecided = true at hu
    change ((s.apply c a).wait k).live ((s.apply c a).wait k).n = true
    by_cases hk : k = c
    · subst hk
      rw [hself] at hp
      rcases h.to_registering hp with ⟨w, rfl⟩ | ⟨hp, rfl⟩
      · cases w <;>
          simp only [State.apply, State.registCustom, State.setWait, Function.update_self] <;>
          exact (live_registCustom _ _).mpr rfl
      · have hlater := later_registAwaitEvent (s.wait k)
        simp only [State.apply, State.setWait, Function.update_self] at hu ⊢
        rw [hlater.live hu, hlater.n]
        exact hW.bound k hp (hlater.undecided hu).1
    · rw [hpc k hk] at hp
      have heq := hsame k (.inl hk) hu
      rw [heq] at hu ⊢
      exact hW.bound k hp hu

end

omit [DecidableEq Co] in
/-- There are no waiters initially. -/
lemma waiters_start : Waiters ({} : State Co α) where
  known _ _ h := absurd h List.not_mem_nil
  writer _ _ h := absurd h List.not_mem_nil
  queued _ _ h := absurd h (by nofun)
  bound _ h := absurd h (by nofun)

/-- The points where an operation starts. -/
lemma past_entry (op : Op α) : (entry op).past = none ∧ (entry op).registering = false := by
  cases op <;> exact ⟨rfl, rfl⟩

/-- A step that is not one of a coroutine changes at most the wait record of one coroutine, or
starts an operation of an idle one. -/
lemma next_cases {s s' : State Co α} {l : Label Co α} (h : next s l = some s') :
    (∃ c op, s.pc c = .idle ∧ s' = s.goto c (entry op)) ∨
      (∃ c e r, l = .run c e ∧ s.plan c e = some r ∧ s' = (s.apply c r.1).goto c r.2) ∨
      s'.chan = s.chan ∧ s'.pc = s.pc ∧ ∀ k, Later (s.wait k) (s'.wait k) := by
  have hset {c : Co} {w : Wait} (hw : Later (s.wait c) w) (k : Co) :
      Later (s.wait k) ((s.setWait c w).wait k) := by
    simp only [State.setWait]
    by_cases hk : k = c
    · subst hk
      rw [Function.update_self]
      exact hw
    · rw [Function.update_of_ne hk]
      exact .refl _
  cases l with
  | call c op =>
    simp only [next] at h
    split at h
    · obtain rfl := Option.some.inj h
      exact .inl ⟨c, op, ‹_›, rfl⟩
    · cases h
  | run c e =>
    obtain ⟨r, hr, rfl⟩ := Option.map_eq_some_iff.mp h
    exact .inr (.inl ⟨c, e, r, rfl, hr, rfl⟩)
  | timer c =>
    simp only [next] at h
    split_ifs at h
    obtain rfl := Option.some.inj h
    exact .inr (.inr ⟨rfl, rfl, hset (later_trigger _ _)⟩)
  | requestCancel c =>
    obtain rfl := Option.some.inj h
    exact .inr (.inr ⟨rfl, rfl, hset (later_requestCancel _)⟩)
  | cancelTrigger c =>
    simp only [next] at h
    split_ifs at h
    obtain rfl := Option.some.inj h
    exact .inr (.inr ⟨rfl, rfl, hset (later_trigger _ _)⟩)

/-- An operation starts outside of any wait. -/
lemma Waiters.call {s : State Co α} (hW : Waiters s) {c : Co} (op : Op α)
    (hc : s.pc c = .idle) : Waiters (s.goto c (entry op)) := by
  have hpc (k : Co) : ((s.goto c (entry op)).pc k).past = (s.pc k).past ∧
      ((s.goto c (entry op)).pc k).registering = (s.pc k).registering := by
    simp only [State.goto]
    by_cases hk : k = c
    · subst hk
      rw [Function.update_self, (past_entry op).1, (past_entry op).2, hc]
      exact ⟨rfl, rfl⟩
    · rw [Function.update_of_ne hk]
      exact ⟨rfl, rfl⟩
  exact ⟨hW.known, fun k n hmem hl => (hpc k).1 ▸ hW.writer k n hmem hl,
    fun k slot hp => hW.queued k slot ((hpc k).1 ▸ hp),
    fun k hp => hW.bound k ((hpc k).2 ▸ hp)⟩

/-- The step lemma of the waiters. -/
lemma waiters_next {s s' : State Co α} {l : Label Co α} (hW : Waiters s)
    (h : next s l = some s') : Waiters s' := by
  rcases next_cases h with ⟨c, op, hc, rfl⟩ | ⟨c, e, r, -, hr, rfl⟩ | ⟨hchan, hpc, hwait⟩
  · exact hW.call op hc
  · exact hW.run (State.plan_cases hr)
  · exact hW.later hchan hpc hwait

/-! ## Writers whose item has been read -/

/-- The first live waiter of a queue. -/
def firstLive : WaitQueue Co → (Co → Wait) → Option (Co × ℕ)
  | [], _ => none
  | none :: q, w => firstLive q w
  | some (c, n) :: q, w => if (w c).live n then some (c, n) else firstLive q w

/-- `_OnEnableWrite` releases the first live waiter. -/
lemma not_live_of_firstLive {q : WaitQueue Co} {w : Co → Wait} {k : Co} {n : ℕ}
    (h : firstLive q w = some (k, n)) : ((notifyOneIn q w).2.1 k).live n = false := by
  induction q generalizing w with
  | nil => cases h
  | cons slot q ih =>
    cases slot with
    | none => exact ih h
    | some e =>
      simp only [firstLive] at h
      simp only [notifyOneIn]
      split_ifs at h ⊢ with hl
      · obtain ⟨rfl, rfl⟩ := Prod.mk.inj (Option.some.inj h)
        dsimp only
        rw [Function.update_self]
        exact live_notify_self _ _
      · refine ih ?_
        -- the notified dead waiter leaves the others as live as they were
        have hlive : ∀ j m, (Function.update w e.1 ((w e.1).notify e.2) j).live m =
            (w j).live m := fun j m => by
          by_cases hj : j = e.1
          · rw [hj, Function.update_self, live_notify_of_dead (Bool.eq_false_iff.mpr hl)]
          · rw [Function.update_of_ne hj]
        have hfirst : ∀ q : WaitQueue Co,
            firstLive q (Function.update w e.1 ((w e.1).notify e.2)) = firstLive q w := by
          intro q
          induction q with
          | nil => rfl
          | cons slot q ih =>
            cases slot with
            | none => exact ih
            | some x =>
              simp only [firstLive]
              rw [hlive, ih]
        rw [hfirst]
        exact h

/-- The slot of the queue is the live waiter of the write that has placed the item `slot`. -/
def State.waitsFor (s : State Co α) (slot : ℕ) : Option (Co × ℕ) → Bool
  | none => false
  | some (k, n) => (s.wait k).live n && (s.pc k).past == some slot

/-- A coroutine takes an item only when the writer of the item, if it waits, is the first live
waiter of the queue. -/
def InOrder [DecidableEq α] (s : State Co α) : Label Co α → Prop
  | .run c e => (s.plan c e).map Prod.fst = some .take →
    ∀ x ∈ s.chan.enableWriteConds, s.waitsFor s.chan.readIdx x = true →
      firstLive s.chan.enableWriteConds s.wait = x
  | _ => True

/-- Whether a step is in order can be computed. -/
instance [DecidableEq α] (s : State Co α) (l : Label Co α) : Decidable (InOrder s l) := by
  unfold InOrder
  cases l <;> infer_instance

/-- No writer waits whose item has been read. -/
structure Unread (s : State Co α) : Prop where
  entry : ∀ k n, some (k, n) ∈ s.chan.enableWriteConds → (s.wait k).live n = true →
    ∃ slot, (s.pc k).past = some slot ∧ s.chan.readIdx ≤ slot
  parked : ∀ k slot, s.pc k = .parked (.write slot) → (s.wait k).round.undecided = true →
    s.chan.readIdx ≤ slot

omit [DecidableEq Co] in
/-- The waiters of the queue decide about the parked writers. -/
lemma Waiters.unread {s : State Co α} (hW : Waiters s)
    (h : ∀ k n, some (k, n) ∈ s.chan.enableWriteConds → (s.wait k).live n = true →
      ∀ slot, (s.pc k).past = some slot → s.chan.readIdx ≤ slot) : Unread s where
  entry k n hmem hl := by
    obtain ⟨slot, hp⟩ := hW.writer k n hmem hl
    exact ⟨slot, hp, h k n hmem hl slot hp⟩
  parked k slot hp hu := by
    have hpast : (s.pc k).past = some slot := by rw [hp]; rfl
    obtain ⟨hl, hmem⟩ := hW.queued k slot hpast hu
    exact h k _ hmem hl slot hpast

omit [DecidableEq Co] in
/-- An unread place is not behind the next one to read. -/
lemma Unread.le {s : State Co α} (hU : Unread s) {k : Co} {n slot : ℕ}
    (hmem : some (k, n) ∈ s.chan.enableWriteConds) (hl : (s.wait k).live n = true)
    (hp : (s.pc k).past = some slot) : s.chan.readIdx ≤ slot := by
  obtain ⟨slot', hp', hle⟩ := hU.entry k n hmem hl
  obtain rfl := Option.some.inj (hp'.symm.trans hp)
  exact hle

/-- A step of a coroutine that takes items in order leaves no writer waiting. -/
lemma Unread.run {s : State Co α} {c : Co} {e : Env} {a : Act α} {p' : Pc α} (hW : Waiters s)
    (hU : Unread s) (h : Plan s c e (s.pc c) a p')
    (horder : a = .take → ∀ x ∈ s.chan.enableWriteConds,
      s.waitsFor s.chan.readIdx x = true → firstLive s.chan.enableWriteConds s.wait = x) :
    Unread ((s.apply c a).goto c p') := by
  refine (hW.run h).unread fun k n hmem hl slot hp => ?_
  change ((s.apply c a).wait k).live n = true at hl
  change (s.apply c a).chan.readIdx ≤ slot
  rcases mem_conds_apply hmem with hold | ⟨slot', rfl, rfl, -, hle, -⟩
  · -- the writer was waiting before
    obtain ⟨hlive, hpast⟩ := hW.live_of_run h hold hl
    obtain ⟨slot', hp', hle⟩ := hU.entry k n hold hlive
    obtain rfl := Option.some.inj ((hpast slot' hp').symm.trans hp)
    cases a with
    | take =>
      rcases hle.lt_or_eq with hlt | heq
      · exact hlt
      · have hfirst := horder rfl _ hold (by simp [State.waitsFor, hlive, hp', heq])
        rw [show ((s.apply c .take).wait k).live n = false from
          not_live_of_firstLive hfirst] at hl
        cases hl
    | place item =>
      simp only [State.apply, place_chan]
      exact hle
    | close =>
      simp only [State.apply, close_chan]
      exact hle
    | _ =>
      rw [(sameItems_apply (c := c) rfl).readIdx]
      exact hle
  · rw [(sameItems_apply rfl).readIdx]
    simp only [State.goto, apply_pc, Function.update_self, h.past_of_register] at hp
    obtain rfl := Option.some.inj hp
    exact hle

/-- A step that takes items in order leaves no writer waiting whose item has been read. -/
lemma unread_next [DecidableEq α] {s s' : State Co α} {l : Label Co α} (hW : Waiters s)
    (hU : Unread s) (ho : InOrder s l) (h : next s l = some s') : Unread s' := by
  refine (waiters_next hW h).unread fun k n hmem hl slot hp => ?_
  rcases next_cases h with ⟨c, op, hc, rfl⟩ | ⟨c, e, r, rfl, hr, rfl⟩ | ⟨hchan, hpc, hwait⟩
  · refine hU.le hmem hl ?_
    simp only [State.goto] at hp
    by_cases hk : k = c
    · subst hk
      rw [Function.update_self, (past_entry op).1] at hp
      cases hp
    · rwa [Function.update_of_ne hk] at hp
  · refine (hU.run hW (State.plan_cases hr) fun ha => ho ?_).le hmem hl hp
    rw [hr, Option.map_some, ha]
  · rw [hchan] at hmem ⊢
    rw [hpc] at hp
    rw [(hwait k).live (live_eq_true_iff.mp hl).2.2.2] at hl
    exact hU.le hmem hl hp

/-- **Writers are released in the order of their items.**  In every run of a channel without a
cache in which each reader that takes an item finds the writer of the item, if it waits, as the
first live waiter of the queue, no writer waits whose item has been read. -/
theorem unread_of_inOrder [DecidableEq α] {s : State Co α}
    (h : (system Co α).ReachableWhen InOrder s) : Unread s := by
  have key : Waiters s ∧ Unread s := by
    refine h.induct (I := fun s => Waiters s ∧ Unread s) ?_ ?_
    · rintro s rfl
      exact ⟨waiters_start, waiters_start.unread fun _ _ h => absurd h List.not_mem_nil⟩
    · rintro s l s' ⟨hW, hU⟩ ho hs
      exact ⟨waiters_next hW hs, unread_next hW hU ho hs⟩
  exact key.2

/-- Two writes, the second of which has registered its waiter first, and a read. -/
def overtaken : List (Label ℕ ℕ) :=
  [performs 0 (.write 7) 2, performs 1 (.write 8) 6, List.replicate 4 (.run 0 .none),
    performs 2 .read 3].flatten

/-- Two writers that register in the order of their items, and a read. -/
theorem unread_of_inOrder_read : ∃ s : State ℕ ℕ,
    (system ℕ ℕ).ReachableWhen InOrder s ∧ s.pc 1 = .parked (.write 1) ∧
      s.chan.readIdx = 1 ∧ Unread s := by
  have hrun : (system ℕ ℕ).endsInWhen InOrder {}
      [performs 0 (.write 7) 6, performs 1 (.write 8) 6, performs 2 .read 3].flatten
      (fun s => s.pc 1 = .parked (.write 1) ∧ s.chan.readIdx = 1) = true := by
    decide +kernel
  obtain ⟨s, hs, hp, hr⟩ := System.exists_of_endsInWhen rfl hrun
  exact ⟨s, hs, hp, hr, unread_of_inOrder hs⟩

/-- The writer that registers last goes on waiting although its item has been read. -/
theorem read_but_parked : ∃ s : State ℕ ℕ, (system ℕ ℕ).Reachable s ∧
    s.pc 0 = .parked (.write 0) ∧ (s.wait 0).live 1 = true ∧
    some (0, 1) ∈ s.chan.enableWriteConds ∧ 0 < s.chan.readIdx := by
  have hrun : (system ℕ ℕ).endsIn {} overtaken (fun s => s.pc 0 = .parked (.write 0) ∧
      (s.wait 0).live 1 = true ∧ some (0, 1) ∈ s.chan.enableWriteConds ∧
      0 < s.chan.readIdx) = true := by
    decide +kernel
  exact System.exists_of_endsIn rfl hrun

end BbtCoroutine.NoCacheChan
