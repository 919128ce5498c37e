import BbtCoroutine.CoMutex.Steps

/-!
# `CoMutex` excludes and loses no wake-up

The invariant has four parts: who holds `m_mutex` (`Held`), who holds the lock (`Owned`), which
events are queued (`Queued`), and that somebody is on the way to a free lock that somebody is
stuck in front of (`Progress`).  A wake-up is on its way from the trigger until the operation it
went to has come back into the critical section and has looked at the status there.
-/

namespace BbtCoroutine.CoMutex

open Transition

variable {Co : Type*}

/-! ## Statement -/

/-- The points at which an operation holds `m_mutex`. -/
def Pc.holds : Pc → Bool
  | .body _ | .wait _ | .regist _ | .callback _ | .settle _ | .retry | .sysUnLock _ _ => true
  | _ => false

/-- The coroutine has handed `m_mutex` over and is parked, or about to be. -/
def Pc.parks : Pc → Bool
  | .commit _ | .parked _ => true
  | _ => false

/-- The coroutine has been resumed and has not looked at the status since. -/
def Pc.resumed : Pc → Bool
  | .relock _ | .settle _ => true
  | _ => false

/-- The coroutine is parked, or about to be, and its event can still be triggered. -/
def State.Stuck (s : State Co) (k : Co) : Prop :=
  (s.pc k).parks = true ∧ (s.event (s.last k)).undecided = true

/-- A wake-up of `k` is delivered, and `k` has not looked at the status since. -/
def State.Woken (s : State Co) (k : Co) : Prop :=
  (s.event (s.last k)).won = some pollEventCustom ∧
    ((s.pc k).parks = true ∨ (s.pc k).resumed = true)

/-- A queued event can still be triggered. -/
def State.Live (s : State Co) (k : Co) (n : ℕ) : Prop :=
  some (k, n) ∈ s.waitEventQueue ∧ (s.event (k, n)).undecided = true

/-- The record of who holds the lock after a step that leads the coroutine `c` to the given point:
a call that is about to return 0 has put `c` in or, for `UnLock`, taken it out. -/
def Pc.record [DecidableEq Co] (c : Co) (holders : List Co) : Pc → List Co
  | .sysUnLock op r =>
    if r = .ret 0 then if op = .unLock then holders.erase c else holders ++ [c] else holders
  | _ => holders

/-- The record after the step `l` to `t`: nothing but a step of a coroutine changes it. -/
def recordAfter [DecidableEq Co] (holders : List Co) (l : Label Co) (t : State Co) : List Co :=
  match l with
  | .run c _ => (t.pc c).record c holders
  | _ => holders

/-- The contract of the mutex, read in a state. -/
structure Excludes [DecidableEq Co] (s : State Co) : Prop where
  /-- At most one coroutine holds the lock. -/
  holders : s.holders.length ≤ 1
  /-- The status is `LOCKED` exactly while one does. -/
  locked : s.status = .locked ↔ s.holders ≠ []
  /-- A `Lock` or `TryLock` that is about to return 0 has the lock. -/
  acquired : ∀ c op, s.pc c = .sysUnLock op (.ret 0) → op ≠ .unLock → c ∈ s.holders
  /-- Each step puts into the record the coroutine whose acquisition it makes succeed, takes out of
  it the one whose `UnLock` it makes succeed, and changes it in no other way. -/
  recorded : ∀ l t, next s l = some t → t.holders = recordAfter s.holders l t
  /-- Nobody is stuck in front of the free lock without a wake-up on its way. -/
  wakeUp : s.status = .free → (∃ k, s.Stuck k) → ∃ k, s.Woken k
  /-- An event that can be triggered is that of a coroutine in its wait. -/
  live : ∀ k n, s.Live k n → (s.pc k).holds = false → n = s.events k ∧ s.Stuck k
  /-- `UnLock` wakes a coroutine whenever such an event is queued. -/
  notified : ∀ c f t, s.pc c = .body .unLock → s.step c f = some t → (∃ k n, s.Live k n) →
    ∃ k, s.Stuck k ∧ t.Woken k
  /-- A coroutine that was woken does not take it for a timeout. -/
  acts : ∀ k, s.Woken k → (s.pc k).resumed = true → ¬ s.timedOut k
  /-- Only a coroutine inside a critical section holds `m_mutex`. -/
  mutex : ∀ k, s.mutex = some k ↔ (s.pc k).holds = true
  /-- No coroutine unlocks it without having locked it, and none is a lock behind. -/
  sysUnLocks : ∀ k, s.sysLocks k = s.sysUnLocks k + if s.mutex = some k then 1 else 0
  /-- However an operation has ended, `m_mutex` was unlocked as often as it was locked. -/
  released : ∀ k, s.pc k = .idle → s.mutex ≠ some k ∧ s.sysLocks k = s.sysUnLocks k

/-! ## `m_mutex` -/

section Held

variable [DecidableEq Co]

/-- `m_mutex` is held by the one operation that is in a critical section, and every other
coroutine has unlocked it as often as it locked it. -/
structure Held (s : State Co) : Prop where
  mutex : ∀ k, s.mutex = some k ↔ (s.pc k).holds = true
  sys : ∀ k, s.sysLocks k = s.sysUnLocks k + if s.mutex = some k then 1 else 0

variable {s t : State Co} {c : Co} {p : Pc}

/-- The coroutine goes on without locking or unlocking. -/
lemma Held.goto (h : Held s) (hp : p.holds = (s.pc c).holds)
    (hpc : t.pc = Function.update s.pc c p) (hm : t.mutex = s.mutex)
    (hl : t.sysLocks = s.sysLocks) (hu : t.sysUnLocks = s.sysUnLocks) : Held t := by
  refine ⟨fun k => ?_, fun k => ?_⟩
  · rw [hm, hpc]
    by_cases hk : k = c
    · rw [hk, Function.update_self, hp]
      exact h.mutex c
    · rw [Function.update_of_ne hk]
      exact h.mutex k
  · rw [hm, hl, hu]
    exact h.sys k

/-- The coroutine locks the free mutex. -/
lemma Held.lock (h : Held s) (hm : s.mutex = none) (hp : p.holds = true) :
    Held ((s.sysLock c).goto c p) := by
  have hfree : ∀ k, (s.pc k).holds = false := by
    intro k
    rw [Bool.eq_false_iff, ne_eq, ← h.mutex k, hm]
    exact Option.some_ne_none k ∘ Eq.symm
  refine ⟨fun k => ?_, fun k => ?_⟩
  · change some c = some k ↔ (Function.update s.pc c p k).holds = true
    by_cases hk : k = c
    · rw [hk, Function.update_self]
      exact ⟨fun _ => hp, fun _ => rfl⟩
    · rw [Function.update_of_ne hk, hfree k]
      exact ⟨fun he => absurd (Option.some.inj he).symm hk, fun he => absurd he (by simp)⟩
  · have hsys := h.sys k
    rw [hm, if_neg (Option.some_ne_none k ∘ Eq.symm)] at hsys
    change Function.update s.sysLocks c (s.sysLocks c + 1) k =
      s.sysUnLocks k + if some c = some k then 1 else 0
    by_cases hk : k = c
    · subst hk
      rw [Function.update_self, if_pos rfl, hsys]
    · rw [Function.update_of_ne hk, if_neg fun he => hk (Option.some.inj he).symm]
      exact hsys

/-- The holder unlocks the mutex. -/
lemma Held.unlock (h : Held s) (hc : (s.pc c).holds = true) (hp : p.holds = false) :
    Held ((s.sysUnLock c).goto c p) := by
  have hm : s.mutex = some c := (h.mutex c).mpr hc
  refine ⟨fun k => ?_, fun k => ?_⟩
  · change none = some k ↔ (Function.update s.pc c p k).holds = true
    by_cases hk : k = c
    · rw [hk, Function.update_self, hp]
      simp
    · rw [Function.update_of_ne hk, ← h.mutex k, hm]
      exact ⟨fun he => absurd he (by simp), fun he => absurd (Option.some.inj he).symm hk⟩
  · have hsys := h.sys k
    rw [hm] at hsys
    change s.sysLocks k = Function.update s.sysUnLocks c (s.sysUnLocks c + 1) k +
      if none = some k then 1 else 0
    by_cases hk : k = c
    · subst hk
      rw [if_pos rfl] at hsys
      rw [Function.update_self, if_neg (by simp), hsys]
    · rw [if_neg fun he => hk (Option.some.inj he).symm] at hsys
      rw [Function.update_of_ne hk, if_neg (by simp), hsys]

omit [DecidableEq Co] in
/-- Who looks at the lock holds `m_mutex`. -/
lemma Pc.looks.holds {op : Op} (h : p.looks op) : p.holds = true := by
  rcases h with rfl | rfl <;> rfl

omit [DecidableEq Co] in
/-- Who goes on without a wait holds `m_mutex`. -/
lemma Pc.unmade.holds {op : Op} (h : p.unmade op) : p.holds = true := by
  rcases h with rfl | ⟨r, -, rfl⟩ <;> rfl

/-- A step keeps `m_mutex` with the coroutine that holds it. -/
lemma Step.held (h : Step c s t) (hH : Held s) : Held t := by
  cases h with
  | enter hp hm => exact hH.lock hm rfl
  | relock hp hm => exact hH.lock hm rfl
  | callback hp => exact hH.unlock (by rw [hp]; rfl) rfl
  | retry hp => exact hH.unlock (by rw [hp]; rfl) rfl
  | leave hp => exact hH.unlock (by rw [hp]; rfl) rfl
  | acquire hp => exact hH.goto (by rw [hp.holds]; rfl) rfl rfl rfl rfl
  | block hp => exact hH.goto (by rw [hp.holds]; rfl) rfl rfl rfl rfl
  | refuse hp => exact hH.goto (by rw [hp.holds]; rfl) rfl rfl rfl rfl
  | fail hp hr => exact hH.goto (by rw [hp, hr.holds]; rfl) rfl rfl rfl rfl
  | registFails hp hr => exact hH.goto (by rw [hp, hr.holds]; rfl) rfl rfl rfl rfl
  | timedOut hp | unLock hp | abandon hp | prepare hp | regist hp | commit hp | resume hp =>
    exact hH.goto (by rw [hp]; rfl) rfl rfl rfl rfl

/-- The mutex has one holder. -/
lemma Held.unique (hH : Held s) {k : Co} (hk : (s.pc k).holds = true)
    (hc : (s.pc c).holds = true) : k = c := by
  have hmk := (hH.mutex k).mpr hk
  have hmc := (hH.mutex c).mpr hc
  exact Option.some.inj (hmk.symm.trans hmc)

end Held

/-! ## The lock -/

/-- An `UnLock` is under way and has not yet released the lock. -/
def Pc.unlocking : Pc → Prop
  | .sysLock op | .body op => op = .unLock
  | _ => False

/-- The operation has decided to wait and still holds `m_mutex`. -/
def Pc.deciding : Pc → Bool
  | .wait _ | .regist _ | .callback _ => true
  | _ => false

/-- Who decides holds `m_mutex`. -/
lemma Pc.holds_of_deciding {p : Pc} (h : p.deciding = true) : p.holds = true := by
  cases p <;> first | rfl | cases h

section Owned

/-- The status agrees with the record of who holds the lock. -/
structure Owned (s : State Co) : Prop where
  free : s.status = .free → s.holders = []
  locked : s.status = .locked → s.holders.length = 1
  unlocking : ∀ k, (s.pc k).unlocking → k ∈ s.holders
  deciding : ∀ k, (s.pc k).deciding = true → s.status = .locked
  ok : ∀ k, (s.pc k).Ok

variable [DecidableEq Co] {s t : State Co} {c : Co} {p : Pc}

/-- The coroutine goes on without taking or releasing the lock. -/
lemma Owned.goto (h : Owned s) (hpc : t.pc = Function.update s.pc c p)
    (hs : t.status = s.status) (hh : t.holders = s.holders)
    (hu : p.unlocking → c ∈ s.holders) (hd : p.deciding = true → s.status = .locked)
    (hok : p.Ok) : Owned t := by
  have hself : t.pc c = p := by rw [hpc, Function.update_self]
  have hne : ∀ k, k ≠ c → t.pc k = s.pc k := by
    intro k hk
    rw [hpc, Function.update_of_ne hk]
  refine ⟨fun hf => ?_, fun hl => ?_, fun k hk => ?_, fun k hk => ?_, fun k => ?_⟩
  · rw [hh]
    exact h.free (hs ▸ hf)
  · rw [hh]
    exact h.locked (hs ▸ hl)
  · rw [hh]
    by_cases hkc : k = c
    · subst hkc
      exact hu (hself ▸ hk)
    · exact h.unlocking k (hne k hkc ▸ hk)
  · rw [hs]
    by_cases hkc : k = c
    · subst hkc
      exact hd (hself ▸ hk)
    · exact h.deciding k (hne k hkc ▸ hk)
  · by_cases hkc : k = c
    · subst hkc
      exact hself ▸ hok
    · exact hne k hkc ▸ h.ok k

/-- The lock is free and the coroutine takes it. -/
lemma Owned.acquire (h : Owned s) (hf : s.status = .free) (op : Op) :
    Owned (s.onLocked c op) := by
  have hholders := h.free hf
  have hpc : (s.onLocked c op).pc = Function.update s.pc c (.sysUnLock op (.ret 0)) := rfl
  refine ⟨fun he => Status.noConfusion he, fun _ => ?_, fun k hk => ?_, fun _ _ => rfl, fun k => ?_⟩
  · change (s.holders ++ [c]).length = 1
    rw [hholders]
    rfl
  · rw [hpc] at hk
    by_cases hkc : k = c
    · rw [hkc, Function.update_self] at hk
      exact hk.elim
    · rw [Function.update_of_ne hkc] at hk
      have hmem := h.unlocking k hk
      rw [hholders] at hmem
      exact absurd hmem List.not_mem_nil
  · rw [hpc]
    by_cases hkc : k = c
    · rw [hkc, Function.update_self]
      trivial
    · rw [Function.update_of_ne hkc]
      exact h.ok k

/-- The holder releases the lock: nobody else is in it, and nobody decides to wait. -/
lemma Owned.unLock (h : Owned s) (hH : Held s) (hp : s.pc c = .body .unLock) :
    Owned ((s.onUnLocked c).goto c (.sysUnLock .unLock (.ret 0))) := by
  have hc : c ∈ s.holders := h.unlocking c (by rw [hp]; rfl)
  have hholders : s.holders = [c] := by
    have hlen : s.holders.length = 1 := by
      cases hs : s.status with
      | free =>
        rw [h.free hs] at hc
        exact absurd hc List.not_mem_nil
      | locked => exact h.locked hs
    obtain ⟨k, hk⟩ := List.length_eq_one_iff.mp hlen
    rw [hk] at hc ⊢
    rw [List.mem_singleton.mp hc]
  have hpc : ((s.onUnLocked c).goto c (.sysUnLock .unLock (.ret 0))).pc =
      Function.update s.pc c (.sysUnLock .unLock (.ret 0)) := rfl
  refine ⟨fun _ => ?_, fun he => Status.noConfusion he, fun k hk => ?_, fun k hk => ?_,
    fun k => ?_⟩
  · change s.holders.erase c = []
    rw [hholders]
    simp
  · rw [hpc] at hk
    by_cases hkc : k = c
    · rw [hkc, Function.update_self] at hk
      exact hk.elim
    · rw [Function.update_of_ne hkc] at hk
      have hmem := h.unlocking k hk
      rw [hholders] at hmem
      exact absurd (List.mem_singleton.mp hmem) hkc
  · rw [hpc] at hk
    by_cases hkc : k = c
    · rw [hkc, Function.update_self] at hk
      cases hk
    · rw [Function.update_of_ne hkc] at hk
      exact absurd (hH.unique (Pc.holds_of_deciding hk) (by rw [hp]; rfl)) hkc
  · rw [hpc]
    by_cases hkc : k = c
    · rw [hkc, Function.update_self]
      trivial
    · rw [Function.update_of_ne hkc]
      exact h.ok k

omit [DecidableEq Co] in
/-- Who goes on without a wait neither unlocks nor decides. -/
lemma Pc.unmade.ok {op : Op} (h : p.unmade op) :
    ¬ p.unlocking ∧ p.deciding = false ∧ p.Ok := by
  rcases h with rfl | ⟨r, -, rfl⟩ <;> exact ⟨id, rfl, trivial⟩

/-- A step keeps the owner the one that the status says. -/
lemma Step.owned (h : Step c s t) (hH : Held s) (hO : Owned s) : Owned t := by
  have hok := hO.ok c
  have hdec : (s.pc c).deciding = true → s.status = .locked := hO.deciding c
  cases h with
  | enter hp =>
    refine hO.goto rfl rfl rfl (fun hu => hO.unlocking c ?_) (absurd · Bool.false_ne_true) trivial
    rw [hp]
    exact hu
  | acquire hp ho hf => exact hO.acquire hf _
  | block hp ho hl => exact hO.goto rfl rfl rfl False.elim (fun _ => hl) ho
  | unLock hp => exact hO.unLock hH hp
  | fail hp hr =>
    obtain ⟨hu, hd, hok⟩ := hr.ok
    exact hO.goto rfl rfl rfl (absurd · hu) (absurd · (ne_of_eq_of_ne hd Bool.false_ne_true)) hok
  | registFails hp hr =>
    obtain ⟨hu, hd, hok⟩ := hr.ok
    exact hO.goto rfl rfl rfl (absurd · hu) (absurd · (ne_of_eq_of_ne hd Bool.false_ne_true)) hok
  | prepare hp | regist hp =>
    rw [hp] at hok hdec
    exact hO.goto rfl rfl rfl False.elim hdec hok
  | callback hp | commit hp | resume hp | relock hp =>
    rw [hp] at hok
    exact hO.goto rfl rfl rfl False.elim (absurd · Bool.false_ne_true) hok
  | retry hp => exact hO.goto rfl rfl rfl (by rintro ⟨⟩) (absurd · Bool.false_ne_true) trivial
  | refuse hp | timedOut hp | abandon hp | leave hp =>
    exact hO.goto rfl rfl rfl False.elim (absurd · Bool.false_ne_true) trivial

/-! ## The record -/

/-- Who goes on without a wait is not recorded as a holder. -/
lemma Pc.unmade.record {op : Op} (h : p.unmade op) (l : List Co) :
    p.record c l = l := by
  rcases h with rfl | ⟨r, hr, rfl⟩
  · rfl
  · exact if_neg hr

/-- A step of `c` changes the record as the point that it leads to says. -/
lemma Step.record (h : Step c s t) : t.holders = (t.pc c).record c s.holders := by
  cases h with
  | acquire hp ho hf =>
    rw [State.onLocked, goto_self]
    exact (if_neg ho).symm
  | unLock hp =>
    rw [goto_self]
    rfl
  | refuse hp ho hr hl =>
    rw [goto_self]
    exact (if_neg fun he => hr (Result.ret.inj he)).symm
  | timedOut hp ht =>
    rw [goto_self]
    rfl
  | fail hp hr =>
    rw [goto_self, hr.record]
    rfl
  | registFails hp hr hl =>
    rw [goto_self, hr.record]
    rfl
  | abandon hp =>
    rw [goto_self]
    rfl
  | resume hp hr =>
    rw [State.resume, goto_self]
    rfl
  | _ hp =>
    rw [goto_self]
    rfl

/-- The step lemma of the record. -/
lemma next_record {l : Label Co} (hok : ∀ k, (s.pc k).Ok) (h : next s l = some t) :
    t.holders = recordAfter s.holders l t := by
  cases l with
  | run c f => exact (State.step_cases (hok c) h).record
  | call c op | timer c | cancelTrigger c n =>
    rw [next] at h
    split at h <;> cases h
    rfl
  | requestCancel c =>
    cases h
    rfl

/-- The acquisitions that are about to return 0 are in the record. -/
def Acquired (s : State Co) : Prop :=
  ∀ c op, s.pc c = .sysUnLock op (.ret 0) → op ≠ .unLock → c ∈ s.holders

/-- A step of `c` keeps the others in the record. -/
lemma mem_record_of_ne {k : Co} (hk : k ≠ c) {l : List Co} (h : k ∈ l) (p : Pc) :
    k ∈ p.record c l := by
  cases p with
  | sysUnLock op r =>
    simp only [Pc.record]
    split_ifs
    · exact (List.mem_erase_of_ne hk).mpr h
    · exact List.mem_append_left _ h
    · exact h
  | _ => exact h

/-- A step keeps the acquisitions recorded. -/
lemma Step.acquired (h : Step c s t) (hA : Acquired s) : Acquired t := by
  intro k op hk ho
  rw [h.record]
  by_cases hkc : k = c
  · subst hkc
    rw [hk, Pc.record, if_pos rfl, if_neg ho]
    exact List.mem_append_right _ List.mem_cons_self
  · rw [h.pc_of_ne hkc] at hk
    exact mem_record_of_ne hkc (hA k op hk ho) _

end Owned

/-! ## The queue -/

/-- The event of the operation is queued. -/
def Pc.waiting : Pc → Bool
  | .regist _ | .callback _ | .commit _ | .parked _ => true
  | _ => false

/-- Who parks is waiting. -/
lemma Pc.waiting_of_parks {p : Pc} (h : p.parks = true) : p.waiting = true := by
  cases p <;> first | rfl | cases h

/-- Who waits outside of `m_mutex` parks. -/
lemma Pc.parks_of_waiting {p : Pc} (h : p.waiting = true) (hm : p.holds = false) :
    p.parks = true := by
  cases p with
  | commit op | parked op => rfl
  | regist op | callback op => cases hm
  | _ => cases h

section Queued

/-- An operation whose wait is undecided has its event in the queue, and every event in the queue
that can still be triggered is that of such an operation. -/
structure Queued (s : State Co) : Prop where
  entry : ∀ k n, some (k, n) ∈ s.waitEventQueue → n ≤ s.events k ∧
    ((s.event (k, n)).undecided = true → n = s.events k ∧ (s.pc k).waiting = true)
  queued : ∀ k, (s.pc k).waiting = true → (s.event (s.last k)).undecided = true →
    some (s.last k) ∈ s.waitEventQueue
  resumed : ∀ k, (s.pc k).resumed = true → s.event (s.last k) = .final (s.lastResumeEvent k)

variable [DecidableEq Co] {s t : State Co} {c : Co} {p : Pc}

/-- The coroutine goes on, and events move on in their rounds. -/
lemma Queued.goesOn (h : Queued s) (hpc : t.pc = Function.update s.pc c p)
    (hq : t.waitEventQueue = s.waitEventQueue) (hn : t.events = s.events)
    (hev : ∀ e, (s.event e).Later (t.event e))
    (hm : ∀ k, k ≠ c → t.lastResumeEvent k = s.lastResumeEvent k)
    (hw : p.waiting = (s.pc c).waiting ∨
      p.waiting = false ∧ (t.event (s.last c)).undecided = false)
    (hr : p.resumed = true → t.event (s.last c) = .final (t.lastResumeEvent c)) : Queued t := by
  have hself : t.pc c = p := by rw [hpc, Function.update_self]
  have hne : ∀ k, k ≠ c → t.pc k = s.pc k := by
    intro k hk
    rw [hpc, Function.update_of_ne hk]
  have hlast : ∀ k, t.last k = s.last k := by
    intro k
    unfold State.last
    rw [hn]
  refine ⟨fun k n he => ?_, fun k hk hu => ?_, fun k hk => ?_⟩
  · rw [hq] at he
    rw [hn]
    obtain ⟨hle, hund⟩ := h.entry k n he
    refine ⟨hle, fun hu => ?_⟩
    obtain ⟨rfl, hwait⟩ := hund ((hev _).undecided hu)
    refine ⟨rfl, ?_⟩
    by_cases hkc : k = c
    · subst hkc
      rw [hself]
      rcases hw with hw | ⟨-, hd⟩
      · exact hw.trans hwait
      · exact absurd (hd.symm.trans hu) Bool.false_ne_true
    · rw [hne k hkc]
      exact hwait
  · rw [hlast] at hu ⊢
    rw [hq]
    refine h.queued k ?_ ((hev _).undecided hu)
    by_cases hkc : k = c
    · subst hkc
      rw [hself] at hk
      rcases hw with hw | ⟨hw, -⟩
      · exact hw.symm.trans hk
      · exact absurd (hw.symm.trans hk) Bool.false_ne_true
    · exact hne k hkc ▸ hk
  · rw [hlast]
    by_cases hkc : k = c
    · subst hkc
      exact hr (hself ▸ hk)
    · rw [hm k hkc]
      exact (hev _).final _ (h.resumed k (hne k hkc ▸ hk))

/-- One event moves on in its round. -/
lemma later_setEvent {e : Co × ℕ} {r : Round} (hr : (s.event e).Later r) (d : Co × ℕ) :
    (s.event d).Later ((s.setEvent e r).event d) := by
  change (s.event d).Later (Function.update s.event e r d)
  by_cases hd : d = e
  · rw [hd, Function.update_self]
    exact hr
  · rw [Function.update_of_ne hd]
    exact Round.Later.refl _

/-- A later round of an event keeps the queue in order. -/
lemma Queued.setEvent (h : Queued s) {e : Co × ℕ} {r : Round} (hr : (s.event e).Later r) :
    Queued (s.setEvent e r) :=
  h.goesOn (c := e.1) (Function.update_eq_self _ _).symm rfl rfl (later_setEvent hr)
    (fun _ _ => rfl) (.inl rfl) fun hres => (later_setEvent hr _).final _ (h.resumed _ hres)

/-- `_NotifyOne` drops from the queue what can no longer be triggered. -/
lemma Queued.notifyOne (h : Queued s) : Queued s.notifyOne := by
  have hev := triggerOneIn_later pollEventCustom s.waitEventQueue s.event
  obtain ⟨hsub, hkeep⟩ :=
    mem_triggerOneIn (m := pollEventCustom) (q := s.waitEventQueue) (r := s.event)
  refine ⟨fun k n he => ?_, fun k hk hu => ?_, fun k hk => ?_⟩
  · obtain ⟨hle, hund⟩ := h.entry k n (hsub _ he)
    exact ⟨hle, fun hu => hund ((hev _).undecided hu)⟩
  · exact hkeep _ (h.queued k hk ((hev _).undecided hu)) hu
  · exact (hev _).final _ (h.resumed k hk)

/-- A new event is made, and it or a null slot is pushed. -/
lemma Queued.begin (h : Queued s) {op : Op} {slot : Option (Co × ℕ)}
    (hc : (s.pc c).waiting = false) (hr : p.resumed = false)
    (hs : slot = none ∧ p.waiting = false ∨
      slot = some (c, s.events c + 1) ∧ p.waiting = true) :
    Queued (((s.registCustom c op).push slot).goto c p) := by
  have hself : Function.update s.pc c p c = p := Function.update_self ..
  have hevents : Function.update s.events c (s.events c + 1) c = s.events c + 1 :=
    Function.update_self ..
  have hold : ∀ k n, (k ≠ c ∨ n ≤ s.events c) →
      Function.update s.event (c, s.events c + 1) .inited (k, n) = s.event (k, n) := by
    intro k n hk
    apply Function.update_of_ne
    intro he
    obtain ⟨rfl, rfl⟩ := Prod.mk.inj he
    rcases hk with hk | hk
    · exact hk rfl
    · omega
  refine ⟨fun k n he => ?_, fun k hk hu => ?_, fun k hk => ?_⟩
  · change some (k, n) ∈ s.waitEventQueue ++ [slot] at he
    change n ≤ Function.update s.events c (s.events c + 1) k ∧
      ((Function.update s.event (c, s.events c + 1) .inited (k, n)).undecided = true →
        n = Function.update s.events c (s.events c + 1) k ∧
          (Function.update s.pc c p k).waiting = true)
    rcases List.mem_append.mp he with he | he
    · obtain ⟨hle, hund⟩ := h.entry k n he
      by_cases hkc : k = c
      · subst hkc
        rw [hevents, hold k n (.inr hle)]
        refine ⟨hle.trans (Nat.le_succ _), fun hu => ?_⟩
        exact absurd (hc.symm.trans (hund hu).2) Bool.false_ne_true
      · rw [Function.update_of_ne hkc, Function.update_of_ne hkc, hold k n (.inl hkc)]
        exact ⟨hle, hund⟩
    · rcases hs with ⟨rfl, -⟩ | ⟨rfl, hw⟩
      · cases List.mem_singleton.mp he
      · obtain ⟨rfl, rfl⟩ := Prod.mk.inj (Option.some.inj (List.mem_singleton.mp he))
        rw [hevents, hself]
        exact ⟨le_rfl, fun _ => ⟨rfl, hw⟩⟩
  · change (Function.update s.pc c p k).waiting = true at hk
    change (Function.update s.event (c, s.events c + 1) .inited
      (k, Function.update s.events c (s.events c + 1) k)).undecided = true at hu
    change some (k, Function.update s.events c (s.events c + 1) k) ∈ s.waitEventQueue ++ [slot]
    by_cases hkc : k = c
    · subst hkc
      rw [hself] at hk
      rw [hevents]
      rcases hs with ⟨-, hw⟩ | ⟨rfl, -⟩
      · exact absurd (hw.symm.trans hk) Bool.false_ne_true
      · exact List.mem_append_right _ (List.mem_singleton.mpr rfl)
    · rw [Function.update_of_ne hkc] at hk hu ⊢
      rw [hold k _ (.inl hkc)] at hu
      exact List.mem_append_left _ (h.queued k hk hu)
  · change (Function.update s.pc c p k).resumed = true at hk
    change Function.update s.event (c, s.events c + 1) .inited
      (k, Function.update s.events c (s.events c + 1) k) = .final (s.lastResumeEvent k)
    by_cases hkc : k = c
    · subst hkc
      rw [hself, hr] at hk
      cases hk
    · rw [Function.update_of_ne hkc] at hk ⊢
      rw [hold k _ (.inl hkc)]
      exact h.resumed k hk

/-- A step keeps the queue in order. -/
lemma Step.queued (h : Step c s t) (hQ : Queued s) : Queued t := by
  have hrefl : ∀ e, (s.event e).Later (s.event e) := fun e => Round.Later.refl _
  -- the coroutine goes on, and no event does
  have quiet : ∀ p : Pc, t.pc = Function.update s.pc c p →
      t.waitEventQueue = s.waitEventQueue → t.events = s.events → t.event = s.event →
      t.lastResumeEvent = s.lastResumeEvent → p.waiting = (s.pc c).waiting →
      (p.resumed = true → (s.pc c).resumed = true) → Queued t := by
    intro p hpc hq hn hev hm hw hr
    refine hQ.goesOn hpc hq hn (fun e => hev ▸ hrefl e) (fun k _ => congrFun hm k) (.inl hw) ?_
    intro hres
    rw [hev, hm]
    exact hQ.resumed c (hr hres)
  have hlooks : ∀ {op}, (s.pc c).looks op → (s.pc c).waiting = false := by
    rintro op (hp | hp) <;> rw [hp] <;> rfl
  have hover : ∀ {p : Pc} {op : Op}, p.unmade op → p.waiting = false ∧ p.resumed = false := by
    rintro p op (rfl | ⟨r, -, rfl⟩) <;> exact ⟨rfl, rfl⟩
  cases h with
  | enter hp | callback hp | retry hp | leave hp | timedOut hp =>
    exact quiet _ rfl rfl rfl rfl rfl (by rw [hp]; rfl) (absurd · Bool.false_ne_true)
  | relock hp => exact quiet _ rfl rfl rfl rfl rfl (by rw [hp]; rfl) fun _ => by rw [hp]; rfl
  | acquire hp | block hp | refuse hp =>
    exact quiet _ rfl rfl rfl rfl rfl (by rw [hlooks hp]; rfl) (absurd · Bool.false_ne_true)
  | fail hp hr =>
    obtain ⟨hw, hres⟩ := hover hr
    exact quiet _ rfl rfl rfl rfl rfl (by rw [hp]; exact hw)
      (absurd · (ne_of_eq_of_ne hres Bool.false_ne_true))
  | unLock hp =>
    have hN : Queued (s.onUnLocked c) := ⟨hQ.notifyOne.entry, hQ.notifyOne.queued,
      hQ.notifyOne.resumed⟩
    refine hN.goesOn rfl rfl rfl (fun e => Round.Later.refl _) (fun _ _ => rfl) (.inl ?_)
      (absurd · Bool.false_ne_true)
    change false = (s.pc c).waiting
    rw [hp]
    rfl
  | abandon hp => exact hQ.begin (by rw [hp]; rfl) rfl (.inl ⟨rfl, rfl⟩)
  | prepare hp => exact hQ.begin (by rw [hp]; rfl) rfl (.inr ⟨rfl, rfl⟩)
  | @registFails op p r hp hr hl =>
    obtain ⟨hw, hres⟩ := hover hr
    refine hQ.goesOn rfl rfl rfl (later_setEvent (hl.trans (Round.later_act .unRegist _)))
      (fun _ _ => rfl) (.inr ⟨hw, ?_⟩) (absurd · (ne_of_eq_of_ne hres Bool.false_ne_true))
    change (Function.update s.event (s.last c) r.unRegist (s.last c)).undecided = false
    rw [Function.update_self]
    exact Round.undecided_unRegist r
  | regist hp hl =>
    exact hQ.goesOn rfl rfl rfl (later_setEvent (hl.trans (Round.later_act .regist _)))
      (fun _ _ => rfl) (.inl (by rw [hp]; rfl)) (absurd · Bool.false_ne_true)
  | commit hp =>
    exact hQ.goesOn rfl rfl rfl (later_setEvent (Round.later_act .commitPark _))
      (fun _ _ => rfl) (.inl (by rw [hp]; rfl)) (absurd · Bool.false_ne_true)
  | @resume op m hp hr =>
    refine hQ.goesOn rfl rfl rfl hrefl (fun k hk => Function.update_of_ne hk ..)
      (.inr ⟨rfl, ?_⟩) fun _ => ?_
    · change (s.event (s.last c)).undecided = false
      rw [hr]
      rfl
    · change s.event (s.last c) = .final (Function.update s.lastResumeEvent c m c)
      rw [Function.update_self]
      exact hr

end Queued

/-! ## Wake-ups -/

section Progress

/-- Somebody is on the way to a free lock that somebody is stuck in front of. -/
def Progress (s : State Co) : Prop :=
  s.status = .free → (∃ k, s.Stuck k) → ∃ k, s.Woken k

/-- While the mutex is locked its holder will pass it on. -/
lemma Progress.of_locked {s : State Co} (h : s.status = .locked) : Progress s := by
  intro hf
  rw [h] at hf
  cases hf

variable [DecidableEq Co] {s t : State Co} {c : Co} {p : Pc}

omit [DecidableEq Co] in
/-- A coroutine that was woken was not resumed by a timeout. -/
lemma Queued.not_timedOut (hQ : Queued s) {k : Co} (hw : s.Woken k)
    (hr : (s.pc k).resumed = true) : ¬ s.timedOut k := by
  have hfinal := hQ.resumed k hr
  have hwon := hw.1
  rw [hfinal] at hwon
  have hmask : s.lastResumeEvent k = pollEventCustom := Option.some.inj hwon
  unfold State.timedOut
  rw [hmask]
  decide

/-- The coroutine goes on, and events move on in their rounds. -/
lemma Progress.goesOn (h : Progress s) (hpc : t.pc = Function.update s.pc c p)
    (hs : t.status = s.status) (hn : t.events = s.events)
    (hev : ∀ e, (s.event e).Later (t.event e))
    (hstuck : p.parks = true → (s.pc c).parks = true)
    (hwoken : s.Woken c → p.parks = true ∨ p.resumed = true) : Progress t := by
  have hself : t.pc c = p := by rw [hpc, Function.update_self]
  have hne : ∀ k, k ≠ c → t.pc k = s.pc k := by
    intro k hk
    rw [hpc, Function.update_of_ne hk]
  have hlast : ∀ k, t.last k = s.last k := by
    intro k
    unfold State.last
    rw [hn]
  rintro hf ⟨k, hk, hu⟩
  have hstuck : s.Stuck k := by
    refine ⟨?_, (hev _).undecided (hlast k ▸ hu)⟩
    by_cases hkc : k = c
    · subst hkc
      exact hstuck (hself ▸ hk)
    · exact hne k hkc ▸ hk
  obtain ⟨j, hwon, hj⟩ := h (hs ▸ hf) ⟨k, hstuck⟩
  refine ⟨j, ?_, ?_⟩
  · rw [hlast]
    exact (hev _).won _ hwon
  · by_cases hjc : j = c
    · subst hjc
      rw [hself]
      exact hwoken ⟨hwon, hj⟩
    · rw [hne j hjc]
      exact hj

/-- `_NotifyOne` wakes a coroutine if an event can be triggered. -/
lemma Queued.woken_notifyOne (hQ : Queued s) (hH : Held s) (hc : s.pc c = .body .unLock)
    (hl : ∃ k n, s.Live k n) :
    ∃ k, s.Stuck k ∧ ((s.onUnLocked c).goto c (.sysUnLock .unLock (.ret 0))).Woken k := by
  rcases triggerOneIn_cases pollEventCustom s.waitEventQueue s.event with
    ⟨dead, ⟨k, n⟩, rest, hq, -, hu, heq⟩ | ⟨hall, -⟩
  · have hmem : some (k, n) ∈ s.waitEventQueue := by
      rw [hq]
      exact List.mem_append_right _ List.mem_cons_self
    obtain ⟨rfl, hwait⟩ := (hQ.entry k n hmem).2 hu
    have hkc : k ≠ c := by
      rintro rfl
      rw [hc] at hwait
      cases hwait
    have hparks : (s.pc k).parks = true := by
      apply Pc.parks_of_waiting hwait
      rw [Bool.eq_false_iff]
      intro hm
      exact hkc (hH.unique hm (by rw [hc]; rfl))
    refine ⟨k, ⟨hparks, hu⟩, ?_, .inl ?_⟩
    · change ((triggerOneIn pollEventCustom s.waitEventQueue s.event).2 (s.last k)).won = _
      rw [heq]
      change (Function.update s.event (s.last k) _ (s.last k)).won = _
      rw [Function.update_self]
      exact Round.won_trigger_of_undecided hu
    · change (Function.update s.pc c _ k).parks = true
      rw [Function.update_of_ne hkc]
      exact hparks
  · obtain ⟨k, n, hmem, hu⟩ := hl
    rw [hall _ hmem] at hu
    cases hu

/-- `UnLock` leaves nobody stuck without having woken somebody. -/
lemma Progress.unLock (hQ : Queued s) (hH : Held s) (hc : s.pc c = .body .unLock) :
    Progress ((s.onUnLocked c).goto c (.sysUnLock .unLock (.ret 0))) := by
  rintro - ⟨k, hk, hu⟩
  change (Function.update s.pc c _ k).parks = true at hk
  have hkc : k ≠ c := by
    rintro rfl
    rw [Function.update_self] at hk
    cases hk
  rw [Function.update_of_ne hkc] at hk
  have hev := triggerOneIn_later pollEventCustom s.waitEventQueue s.event (s.last k)
  have hold := hev.undecided hu
  have hmem := hQ.queued k (Pc.waiting_of_parks hk) hold
  obtain ⟨j, -, hj⟩ := hQ.woken_notifyOne hH hc ⟨k, s.events k, hmem, hold⟩
  exact ⟨j, hj⟩

/-- A step leaves somebody who will see to the waiters. -/
lemma Step.progress (h : Step c s t) (hH : Held s) (hO : Owned s) (hQ : Queued s)
    (hP : Progress s) : Progress t := by
  have hrefl : ∀ e, (s.event e).Later (s.event e) := fun e => Round.Later.refl _
  have hnot : (s.pc c).parks = false → (s.pc c).resumed = false → ¬ s.Woken c := by
    rintro h1 h2 ⟨-, hw | hw⟩
    · exact absurd (h1.symm.trans hw) Bool.false_ne_true
    · exact absurd (h2.symm.trans hw) Bool.false_ne_true
  have hdec : (s.pc c).deciding = true → s.status = .locked := hO.deciding c
  cases h with
  | acquire hp => exact .of_locked rfl
  | block hp ho hl => exact .of_locked hl
  | refuse hp ho hr hl => exact .of_locked hl
  | unLock hp => exact .unLock hQ hH hp
  | fail hp | abandon hp | prepare hp | registFails hp | regist hp | callback hp =>
    rw [hp] at hdec
    exact .of_locked (hdec rfl)
  | timedOut hp ht =>
    refine hP.goesOn rfl rfl rfl hrefl (absurd · Bool.false_ne_true) fun hw => ?_
    exact absurd ht (hQ.not_timedOut hw (by rw [hp]; rfl))
  | enter hp | retry hp | leave hp =>
    refine hP.goesOn rfl rfl rfl hrefl (absurd · Bool.false_ne_true) fun hw => ?_
    exact absurd hw (hnot (by rw [hp]; rfl) (by rw [hp]; rfl))
  | commit hp =>
    exact hP.goesOn rfl rfl rfl (later_setEvent (Round.later_act .commitPark _))
      (fun _ => by rw [hp]; rfl) fun _ => .inl rfl
  | resume hp | relock hp =>
    exact hP.goesOn rfl rfl rfl hrefl (absurd · Bool.false_ne_true) fun _ => .inr rfl

end Progress

/-! ## All runs -/

section

variable [DecidableEq Co] {s t : State Co} {c : Co} {p : Pc}

/-- The invariant of the mutex. -/
structure Inv (s : State Co) : Prop where
  held : Held s
  owned : Owned s
  acquired : Acquired s
  queued : Queued s
  progress : Progress s

/-- An event moves on in its round. -/
lemma Inv.setEvent (h : Inv s) {e : Co × ℕ} {r : Round} (hr : (s.event e).Later r) :
    Inv (s.setEvent e r) where
  held := ⟨h.held.mutex, h.held.sys⟩
  owned := ⟨h.owned.free, h.owned.locked, h.owned.unlocking, h.owned.deciding, h.owned.ok⟩
  acquired := h.acquired
  queued := h.queued.setEvent hr
  progress :=
    h.progress.goesOn (c := e.1) (Function.update_eq_self _ _).symm rfl rfl (later_setEvent hr) id
      fun hw => hw.2

/-- A coroutine calls an operation. -/
lemma Inv.call (h : Inv s) {op : Op} (hp : s.pc c = .idle) (hm : s.mayCall c op) :
    Inv (s.goto c (.sysLock op)) where
  held := h.held.goto (by rw [hp]; rfl) rfl rfl rfl rfl
  owned := h.owned.goto rfl rfl rfl hm (absurd · Bool.false_ne_true) trivial
  acquired k op' hk ho := by
    by_cases hkc : k = c
    · subst hkc
      rw [goto_self] at hk
      cases hk
    · rw [goto_of_ne hkc] at hk
      exact h.acquired k op' hk ho
  queued :=
    h.queued.goesOn rfl rfl rfl (fun e => Round.Later.refl _) (fun _ _ => rfl)
      (.inl (by rw [hp]; rfl)) (absurd · Bool.false_ne_true)
  progress := by
    refine h.progress.goesOn rfl rfl rfl (fun e => Round.Later.refl _)
      (absurd · Bool.false_ne_true) ?_
    rintro ⟨-, hw | hw⟩ <;> rw [hp] at hw <;> cases hw

/-- Every step of the system keeps the invariant. -/
lemma Inv.next {l : Label Co} (h : Inv s) (hs : next s l = some t) : Inv t := by
  cases l with
  | call c op =>
    rw [CoMutex.next] at hs
    split at hs <;> cases hs
    rename_i hc
    exact h.call hc.1 hc.2
  | run c f =>
    have hstep := State.step_cases (h.owned.ok c) hs
    exact ⟨hstep.held h.held, hstep.owned h.held h.owned, hstep.acquired h.acquired,
      hstep.queued h.queued,
      hstep.progress h.held h.owned h.queued h.progress⟩
  | timer c =>
    rw [CoMutex.next] at hs
    split at hs <;> cases hs
    exact h.setEvent (Round.later_act (.trigger _) _)
  | requestCancel c =>
    cases hs
    exact ⟨⟨h.held.mutex, h.held.sys⟩,
      ⟨h.owned.free, h.owned.locked, h.owned.unlocking, h.owned.deciding, h.owned.ok⟩, h.acquired,
      ⟨h.queued.entry, h.queued.queued, h.queued.resumed⟩, h.progress⟩
  | cancelTrigger c n =>
    rw [CoMutex.next] at hs
    split at hs <;> cases hs
    exact h.setEvent (Round.later_act (.trigger _) _)

/-- The invariant holds initially. -/
lemma inv_start : Inv ({} : State Co) where
  held := ⟨fun k => ⟨fun h => absurd h.symm (Option.some_ne_none k),
    (absurd · Bool.false_ne_true)⟩, fun k => rfl⟩
  owned := ⟨fun _ => rfl, fun h => Status.noConfusion h, fun k => False.elim,
    fun k => (absurd · Bool.false_ne_true), fun k => trivial⟩
  acquired c op h := by cases h
  queued := ⟨fun k n h => absurd h List.not_mem_nil, fun k => (absurd · Bool.false_ne_true),
    fun k => (absurd · Bool.false_ne_true)⟩
  progress := by
    rintro - ⟨k, hk, -⟩
    cases hk

/-- The invariant holds in every reachable state. -/
lemma inv_of_reachable (h : (system Co).Reachable s) : Inv s := by
  refine h.induct ?_ fun s l t hI hs => hI.next hs
  rintro s rfl
  exact inv_start

/-- In every run the mutex excludes, and loses no wake-up. -/
theorem excludes_of_reachable (h : (system Co).Reachable s) : Excludes s := by
  obtain ⟨hH, hO, hA, hQ, hP⟩ := inv_of_reachable h
  have hidle : ∀ k, s.pc k = .idle → s.mutex ≠ some k := by
    intro k hk hm
    have hholds := (hH.mutex k).mp hm
    rw [hk] at hholds
    cases hholds
  refine ⟨?_, ?_, hA, fun l t => next_record hO.ok, hP, fun k n hl hm => ?_,
    fun c f t hc hs hl => ?_,
    fun k hw hr => hQ.not_timedOut hw hr, hH.mutex, hH.sys, fun k hk => ⟨hidle k hk, ?_⟩⟩
  · cases hs : s.status with
    | free =>
      rw [hO.free hs]
      exact Nat.zero_le _
    | locked => exact (hO.locked hs).le
  · constructor
    · intro hs he
      have hlen := hO.locked hs
      rw [he] at hlen
      cases hlen
    · intro hne
      apply Status.eq_locked
      intro hf
      exact hne (hO.free hf)
  · obtain ⟨hmem, hu⟩ := hl
    obtain ⟨rfl, hwait⟩ := (hQ.entry k n hmem).2 hu
    exact ⟨rfl, Pc.parks_of_waiting hwait hm, hu⟩
  · unfold State.step at hs
    simp only [hc, Option.some.injEq] at hs
    subst hs
    exact hQ.woken_notifyOne hH hc hl
  · have hsys := hH.sys k
    rwa [if_neg (hidle k hk)] at hsys

end

/-- Two coroutines wait for the lock, one of them with a timer that expires; the release wakes the
other one. -/
theorem excludes_of_reachable_timer : ∃ s : State (Fin 3), (system (Fin 3)).Reachable s ∧
    s.status = .free ∧ s.event (1, 1) = .final pollEventTimeout ∧
      s.event (2, 1) = .final pollEventCustom ∧ Excludes s := by
  have hrun : (system (Fin 3)).endsIn {}
      [performs 0 .lock 3, performs 1 (.tryLockFor 5) 6, performs 2 .lock 6, [.timer 1],
        performs 0 .unLock 3].flatten
      (fun s => s.status = .free ∧ s.event (1, 1) = .final pollEventTimeout ∧
        s.event (2, 1) = .final pollEventCustom) = true := by
    decide +kernel
  obtain ⟨s, hs, hf, h1, h2⟩ := System.exists_of_endsIn rfl hrun
  exact ⟨s, hs, hf, h1, h2, excludes_of_reachable hs⟩

/-- The coroutine that was woken has been resumed and not come back to the mutex: the lock is free,
a coroutine is parked, and no wake-up is delivered and not resumed. -/
theorem no_delivered_wakeUp_resumed : ∃ s : State (Fin 3), (system (Fin 3)).Reachable s ∧
    s.status = .free ∧ s.pc 2 = .parked .lock ∧ s.event (s.last 2) = .parked ∧
      ∀ k, ¬ ((s.event (s.last k)).won = some pollEventCustom ∧ (s.pc k).parks = true) := by
  have hrun : (system (Fin 3)).endsIn {}
      [performs 0 .lock 3, performs 1 .lock 6, performs 2 .lock 6, performs 0 .unLock 3,
        [.run 1 .none]].flatten
      (fun s => s.status = .free ∧ s.pc 2 = .parked .lock ∧ s.event (s.last 2) = .parked ∧
        ∀ k, ¬ ((s.event (s.last k)).won = some pollEventCustom ∧ (s.pc k).parks = true)) =
        true := by
    decide +kernel
  obtain ⟨s, hs, h⟩ := System.exists_of_endsIn rfl hrun
  exact ⟨s, hs, h⟩

end BbtCoroutine.CoMutex
