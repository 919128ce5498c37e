import BbtCoroutine.Circulation.Moves
import Mathlib.Data.Set.Card

/-!
# The admission of workers

`_EnqueueAdmitted` registers the enqueuer in `m_enqueue_inflight` and looks at the admission
again; `_BeginRetire` closes the admission before it asks the worker to retire, and the worker
waits for the registered enqueuers before it hands its coroutines over.  So no thread is about
to enqueue at a worker that has waited (`Drained`).

This rests on three invariants: `m_enqueue_inflight` counts the registered threads (`Slots`),
`m_processer_map_mutex` is held by one thread (`Locks`), and the workers of a resize are as its
commit needs them (`Commits`).
-/

namespace BbtCoroutine.Circulation

open Transition Scheduler OnYield

variable {Th Wk Co : Type*}

/-! ## Invariants -/

/-- `m_enqueue_inflight` of a worker counts the threads that are registered there. -/
def Slots (s : State Th Wk Co) : Prop :=
  ∀ p, {a | (s.frame a).slot = some p}.encard = s.enqueueInflight p

/-- A thread in a procedure that needs `m_processer_map_mutex` holds it. -/
def Locks (s : State Th Wk Co) : Prop :=
  ∀ a, (s.frame a).locked = true → s.mapMutex = some a

/-- The workers that a commit still has to deal with are as it left them. -/
def Frame.Ready (lifecycle : Wk → Lifecycle) (admissionOpen : Wk → Bool) : Frame Co Wk → Prop
  | .activate _ todo _ => todo.Nodup ∧ ∀ p ∈ todo, lifecycle p = .preparing
  | .retire n (p :: _) _ =>
    (1 ≤ n → admissionOpen p = false) ∧
      (2 ≤ n → lifecycle p = .retiring ∨ lifecycle p = .exited)
  | _ => True

/-- How the commits of resizes and the loops of the workers agree. -/
structure Commits (s : State Th Wk Co) : Prop where
  frames : ∀ a, (s.frame a).Ready s.lifecycle s.admissionOpen
  requested : ∀ p, s.retireRequested p = true →
    s.admissionOpen p = false ∧ (s.lifecycle p = .retiring ∨ s.lifecycle p = .exited)
  past : ∀ p, (s.loop p).past = true → s.retireRequested p = true
  exited : ∀ p, s.lifecycle p = .exited → s.loop p = .exited

/-- No thread is about to enqueue at a worker that has waited for the enqueuers, and a worker
that has left has no coroutines. -/
structure Drained (s : State Th Wk Co) : Prop where
  passed : ∀ p, (s.loop p).drained = true → ∀ a, (s.frame a).passed ≠ some p
  empty : ∀ p, s.loop p = .exited → s.coroutineQueue p = []

/-- A thread that has passed the check has an admission slot. -/
lemma Frame.slot_of_passed {f : Frame Co Wk} {p : Wk} (h : f.passed = some p) :
    f.slot = some p := by
  unfold Frame.passed at h
  split at h
  · exact h
  · cases h

/-- A thread that commits holds the mutex of the map. -/
lemma Frame.locked_of_commits {f : Frame Co Wk} (h : f.commits = true) : f.locked = true := by
  unfold Frame.commits at h
  split at h
  · rfl
  · rfl
  · cases h

/-- A frame that does not commit is ready. -/
lemma Frame.ready_of_commits {f : Frame Co Wk} {y : Wk → Lifecycle} {o : Wk → Bool}
    (h : f.commits = false) : f.Ready y o := by
  cases f with
  | activate => cases h
  | retire => cases h
  | _ => trivial

/-- A worker that has waited for the enqueuers has left its loop. -/
lemma Loop.past_of_drained {l : Loop Co Wk} (h : l.drained = true) : l.past = true := by
  cases l with
  | drain => rfl
  | exited => rfl
  | _ => cases h

variable [DecidableEq Th] [DecidableEq Wk] [DecidableEq Co]
  {s r t : State Th Wk Co} {a b : Agent Th Wk} {p : Wk} {f : Frame Co Wk} {l : Loop Co Wk}

/-! ## Registered threads -/

section

omit [DecidableEq Co]

/-- The thread stays registered where it is, or nowhere. -/
lemma Slots.goto (hS : Slots s) (hf' : r.frame = s.frame)
    (hn : r.enqueueInflight = s.enqueueInflight) (hf : f.slot = (s.frame a).slot) :
    Slots (r.goto a f) := by
  intro p
  have hset : {b | ((r.goto a f).frame b).slot = some p} = {b | (s.frame b).slot = some p} := by
    ext b
    by_cases hba : b = a
    · subst hba
      simp only [Set.mem_ofPred_eq, frame_goto_self, hf]
    · simp only [Set.mem_ofPred_eq, frame_goto_of_ne hba, hf']
  rw [hset, hS p]
  exact congrArg _ (congrFun hn p).symm

/-- The thread is registered. -/
lemma Slots.register (hS : Slots s) (ha : (s.frame a).slot = none) (hf : f.slot = some p)
    (hf' : r.frame = s.frame) (hn : r.enqueueInflight =
      Function.update s.enqueueInflight p (s.enqueueInflight p + 1)) : Slots (r.goto a f) := by
  intro q
  change _ = ((r.enqueueInflight q : ℕ) : ℕ∞)
  have hna : a ∉ {b | (s.frame b).slot = some q} := by simp [ha]
  rw [hn]
  by_cases hq : q = p
  · subst hq
    have hset : {b | ((r.goto a f).frame b).slot = some q} =
        insert a {b | (s.frame b).slot = some q} := by
      ext b
      by_cases hba : b = a
      · subst hba
        simp [hf]
      · simp [frame_goto_of_ne hba, hf', hba]
    rw [hset, Set.encard_insert_of_notMem hna, hS q, Function.update_self]
    push_cast
    rfl
  · have hset : {b | ((r.goto a f).frame b).slot = some q} = {b | (s.frame b).slot = some q} := by
      ext b
      by_cases hba : b = a
      · subst hba
        simp [hf, ha, Ne.symm hq]
      · simp [frame_goto_of_ne hba, hf']
    rw [hset, hS q, Function.update_of_ne hq]

/-- The thread is no longer registered. -/
lemma Slots.release (hS : Slots s) (ha : (s.frame a).slot = some p) (hf : f.slot = none)
    (hf' : r.frame = s.frame) (hn : r.enqueueInflight =
      Function.update s.enqueueInflight p (s.enqueueInflight p - 1)) : Slots (r.goto a f) := by
  intro q
  change _ = ((r.enqueueInflight q : ℕ) : ℕ∞)
  rw [hn]
  have hset : {b | ((r.goto a f).frame b).slot = some q} =
      {b | (s.frame b).slot = some q} \ {a} := by
    ext b
    by_cases hba : b = a
    · subst hba
      simp [hf]
    · simp [frame_goto_of_ne hba, hf', hba]
  rw [hset]
  by_cases hq : q = p
  · subst hq
    have hmem : a ∈ {b | (s.frame b).slot = some q} := ha
    rw [Set.encard_sdiff_singleton_of_mem hmem, hS q, Function.update_self]
    push_cast
    rfl
  · rw [Set.sdiff_singleton_eq_self (by simp [ha, Ne.symm hq]), hS q, Function.update_of_ne hq]

end

omit [DecidableEq Th] [DecidableEq Wk] [DecidableEq Co] in
/-- Where nobody is registered, nobody has passed the admission. -/
lemma Slots.passed_ne (hS : Slots s) (hn : s.enqueueInflight p = 0) (a : Agent Th Wk) :
    (s.frame a).passed ≠ some p := by
  intro ha
  have hempty := hS p
  rw [hn, Nat.cast_zero, Set.encard_eq_zero] at hempty
  exact Set.eq_empty_iff_forall_notMem.mp hempty a (Frame.slot_of_passed ha)

/-- Each step keeps the count of the registered threads. -/
lemma Move.slots (h : Move s t) (hS : Slots s) : Slots t := by
  cases h with
  | stay | turns | pick | account | parks | ends | drains | exits => exact hS
  | walk hG hs => exact hS.goto rfl rfl hs
  | lock hf | unlock hf | discard hf | link hf | opens hf | activates hf | activated hf
  | starts hf | closes hf | retires hf | requests hf | retired hf | stolen hf =>
    exact hS.goto rfl rfl (by rw [hf]; rfl)
  | register hf => exact hS.register (by rw [hf]; rfl) rfl rfl rfl
  | release hf hG hs => exact hS.release (by rw [hf]; rfl) hs rfl rfl
  | toGlobal hf hG hs => exact hS.goto rfl rfl (by rw [hf, hs]; rfl)
  | fromGlobal hf hs' hc hG hs | fromLocal hf hs' hc hG hs =>
    exact hS.goto rfl rfl (hs.trans hs'.symm)
  | turnsTo hi hr hp hl hq hf =>
    refine hS.goto rfl rfl ?_
    rw [hi]
    rcases hf with rfl | ⟨v, expect, rest, rfl, -⟩ <;> rfl
  | yields hi | expands hi | shrinks hi => exact hS.goto rfl rfl (by rw [hi]; rfl)
  | creates hi hu hG hs | wakes hi hu hG hs => exact hS.goto rfl rfl (by rw [hi, hs]; rfl)

/-! ## The mutex -/

omit [DecidableEq Th] [DecidableEq Wk] [DecidableEq Co] in
/-- The mutex of the map has one holder. -/
lemma Locks.eq (hK : Locks s) (ha : (s.frame a).locked = true) (hb : (s.frame b).locked = true) :
    b = a :=
  Option.some.inj ((hK b hb).symm.trans (hK a ha))

omit [DecidableEq Th] [DecidableEq Wk] [DecidableEq Co] in
/-- While a thread commits a resize, no other one does. -/
lemma Locks.commits (hK : Locks s) (ha : (s.frame a).commits = true) (hb : b ≠ a) :
    (s.frame b).commits = false := by
  by_contra hc
  rw [Bool.not_eq_false] at hc
  exact hb (hK.eq (Frame.locked_of_commits ha) (Frame.locked_of_commits hc))

section

omit [DecidableEq Co]

/-- A step of one agent keeps the mutex of the map with its holder. -/
lemma Locks.goto (hf' : r.frame = s.frame) (ha : f.locked = true → r.mapMutex = some a)
    (hb : ∀ b, b ≠ a → (s.frame b).locked = true → r.mapMutex = some b) :
    Locks (r.goto a f) := by
  intro b hlb
  by_cases hba : b = a
  · subst hba
    rw [frame_goto_self] at hlb
    exact ha hlb
  · rw [frame_goto_of_ne hba, hf'] at hlb
    exact hb b hba hlb

/-- The thread does not take the mutex and does not release it. -/
lemma Locks.same (hK : Locks s) (hf' : r.frame = s.frame) (hm : r.mapMutex = s.mapMutex)
    (hf : f.locked = true → (s.frame a).locked = true) : Locks (r.goto a f) := by
  refine Locks.goto hf' (fun h => ?_) fun b _ h => ?_
  · rw [hm]
    exact hK a (hf h)
  · rw [hm]
    exact hK b h

/-- The thread takes the mutex. -/
lemma Locks.lock (hK : Locks s) (hm : s.mapMutex = none) (hf' : r.frame = s.frame)
    (hm' : r.mapMutex = some a) : Locks (r.goto a f) := by
  refine Locks.goto hf' (fun _ => hm') fun b _ h => ?_
  have hb := hK b h
  rw [hm] at hb
  cases hb

/-- The thread releases the mutex. -/
lemma Locks.unlock (hK : Locks s) (ha : (s.frame a).locked = true) (hf' : r.frame = s.frame)
    (hf : f.locked = false) : Locks (r.goto a f) :=
  Locks.goto hf' (fun h => absurd (hf.symm.trans h) Bool.false_ne_true) fun _ hba h =>
    absurd (hK.eq ha h) hba

end

/-- Each step keeps the mutex with its holder. -/
lemma Move.locks (h : Move s t) (hK : Locks s) : Locks t := by
  cases h with
  | stay | turns | pick | account | parks | ends | drains | exits => exact hK
  | walk hG | toGlobal _ hG | fromGlobal _ _ _ hG | fromLocal _ _ _ hG | creates _ _ hG
  | wakes _ _ hG => exact hK.same rfl rfl hG.locked
  | lock hf hm => exact hK.lock hm rfl rfl
  | unlock hf | activated hf | retired hf => exact hK.unlock (by rw [hf]; rfl) rfl rfl
  | register hf | link hf =>
    refine hK.same rfl rfl fun h => ?_
    rw [hf]
    exact h
  | release hf hG hs hh hm =>
    rcases hm with rfl | ⟨rfl, ha, hf'⟩
    · exact hK.same rfl rfl hG.locked
    · exact hK.unlock ha rfl hf'
  | discard hf | stolen hf | starts hf => exact hK.same rfl rfl fun h => by cases h
  | opens hf | activates hf | closes hf | retires hf | requests hf =>
    exact hK.same rfl rfl fun _ => by rw [hf]; rfl
  | turnsTo hi hr hp hl hq hf =>
    refine hK.same rfl rfl fun h => ?_
    rcases hf with rfl | ⟨v, expect, rest, rfl, -⟩ <;> cases h
  | yields hi hl hk =>
    refine hK.same rfl rfl fun h => ?_
    rcases hk with rfl | rfl <;> cases h
  | expands hi hm | shrinks hi hm => exact hK.lock hm rfl rfl

/-! ## The commits -/

omit [DecidableEq Co] in
/-- The thread goes on at a point that is no commit. -/
lemma Commits.goto (hC : Commits s) (hf' : r.frame = s.frame) (hl' : r.loop = s.loop)
    (hy : r.lifecycle = s.lifecycle) (ho : r.admissionOpen = s.admissionOpen)
    (hr : r.retireRequested = s.retireRequested) (hf : f.commits = false) :
    Commits (r.goto a f) := by
  refine ⟨fun b => ?_, fun p => ?_, fun p => ?_, fun p => ?_⟩
  · change Frame.Ready r.lifecycle r.admissionOpen _
    by_cases hba : b = a
    · subst hba
      rw [frame_goto_self]
      exact Frame.ready_of_commits hf
    · rw [frame_goto_of_ne hba, hf', hy, ho]
      exact hC.frames b
  · change r.retireRequested p = true → r.admissionOpen p = false ∧
      (r.lifecycle p = _ ∨ r.lifecycle p = _)
    rw [hr, ho, hy]
    exact hC.requested p
  · change (r.loop p).past = true → r.retireRequested p = true
    rw [hr, hl']
    exact hC.past p
  · change r.lifecycle p = _ → r.loop p = _
    rw [hy, hl']
    exact hC.exited p

omit [DecidableEq Th] [DecidableEq Co] in
/-- The loop of a worker that has not left goes on; it leaves only on request. -/
lemma Commits.goLoop (hC : Commits s) (hf' : r.frame = s.frame) (hl' : r.loop = s.loop)
    (hy : r.lifecycle = s.lifecycle) (ho : r.admissionOpen = s.admissionOpen)
    (hr : r.retireRequested = s.retireRequested) (hp : s.loop p ≠ .exited)
    (hl : l.past = true → s.retireRequested p = true) : Commits (r.goLoop p l) := by
  refine ⟨fun b => ?_, fun q => ?_, fun q => ?_, fun q => ?_⟩
  · change Frame.Ready r.lifecycle r.admissionOpen (r.frame b)
    rw [hf', hy, ho]
    exact hC.frames b
  · change r.retireRequested q = true → r.admissionOpen q = false ∧
      (r.lifecycle q = _ ∨ r.lifecycle q = _)
    rw [hr, ho, hy]
    exact hC.requested q
  · change _ → r.retireRequested q = true
    rw [hr]
    by_cases hq : q = p
    · subst hq
      rw [loop_goLoop_self]
      exact hl
    · rw [loop_goLoop_of_ne hq, hl']
      exact hC.past q
  · change r.lifecycle q = _ → _
    rw [hy]
    intro hx
    have hxl := hC.exited q hx
    have hq : q ≠ p := by
      rintro rfl
      exact hp hxl
    rw [loop_goLoop_of_ne hq, hl', hxl]

omit [DecidableEq Co] in
/-- The frames after a step of a commit: nobody else commits. -/
lemma Commits.ready {y : Wk → Lifecycle} {o : Wk → Bool} (hK : Locks s)
    (ha : (s.frame a).commits = true) (hf' : r.frame = s.frame) (hf : f.Ready y o) :
    ∀ b, ((r.goto a f).frame b).Ready y o := by
  intro b
  by_cases hba : b = a
  · subst hba
    rw [frame_goto_self]
    exact hf
  · rw [frame_goto_of_ne hba, hf']
    exact Frame.ready_of_commits (hK.commits ha hba)

omit [DecidableEq Co] in
/-- A resize begins. -/
lemma Commits.begin (hC : Commits s) (hf' : r.frame = s.frame) (hl' : r.loop = s.loop)
    (hy : r.lifecycle = s.lifecycle) (ho : r.admissionOpen = s.admissionOpen)
    (hr : r.retireRequested = s.retireRequested) (hf : f.Ready s.lifecycle s.admissionOpen) :
    Commits (r.goto a f) := by
  have hG : Commits (r.goto a .idle) := hC.goto hf' hl' hy ho hr rfl
  refine ⟨fun b => ?_, hG.requested, hG.past, hG.exited⟩
  change Frame.Ready r.lifecycle r.admissionOpen _
  rw [hy, ho]
  by_cases hba : b = a
  · subst hba
    rw [frame_goto_self]
    exact hf
  · rw [frame_goto_of_ne hba, hf']
    exact hC.frames b

omit [DecidableEq Th] [DecidableEq Wk] [DecidableEq Co] in
/-- A worker that is not active yet has not been asked to retire. -/
lemma Commits.not_requested (hC : Commits s) (hp : s.lifecycle p = .preparing) :
    s.retireRequested p ≠ true := by
  intro hr
  have h := (hC.requested p hr).2
  simp [hp] at h

omit [DecidableEq Th] [DecidableEq Co] in
/-- A worker that has waited for the enqueuers leaves. -/
lemma Commits.exits (hC : Commits s) (hl : s.loop p = .drain) :
    Commits ({ s with lifecycle := Function.update s.lifecycle p .exited }.goLoop p .exited) := by
  have hr : s.retireRequested p = true := hC.past p (by rw [hl]; rfl)
  refine ⟨fun b => ?_, fun q hq => ?_, fun q hq => ?_, fun q hq => ?_⟩
  · change Frame.Ready (Function.update s.lifecycle p .exited) s.admissionOpen (s.frame b)
    have hb := hC.frames b
    cases hfb : s.frame b with
    | activate o todo all =>
      rw [hfb] at hb
      refine ⟨hb.1, fun q hq => ?_⟩
      have hqp : q ≠ p := by
        rintro rfl
        exact hC.not_requested (hb.2 q hq) hr
      rw [Function.update_of_ne hqp]
      exact hb.2 q hq
    | retire n todo all =>
      cases todo with
      | nil => trivial
      | cons q todo =>
        rw [hfb] at hb
        refine ⟨hb.1, fun hn => ?_⟩
        by_cases hqp : q = p
        · subst hqp
          exact .inr (Function.update_self ..)
        · rw [Function.update_of_ne hqp]
          exact hb.2 hn
    | _ => trivial
  · refine ⟨(hC.requested q hq).1, ?_⟩
    change Function.update s.lifecycle p _ q = _ ∨ Function.update s.lifecycle p _ q = _
    by_cases hqp : q = p
    · subst hqp
      exact .inr (Function.update_self ..)
    · rw [Function.update_of_ne hqp]
      exact (hC.requested q hq).2
  · by_cases hqp : q = p
    · subst hqp
      exact hr
    · rw [loop_goLoop_of_ne hqp] at hq
      exact hC.past q hq
  · by_cases hqp : q = p
    · subst hqp
      exact loop_goLoop_self
    · rw [loop_goLoop_of_ne hqp]
      refine hC.exited q ?_
      change Function.update s.lifecycle p _ q = _ at hq
      rwa [Function.update_of_ne hqp] at hq

/-- Each step keeps the commits and the loops in accord. -/
lemma Move.commits (h : Move s t) (hK : Locks s) (hT : Thieves s) (hC : Commits s) :
    Commits t := by
  cases h with
  | stay => exact hC
  | walk hG | release _ hG | toGlobal _ hG | fromGlobal _ _ _ hG | fromLocal _ _ _ hG
  | creates _ _ hG | wakes _ _ hG => exact hC.goto rfl rfl rfl rfl rfl hG.commits
  | lock | unlock | discard | register | link | activated | retired =>
    exact hC.goto rfl rfl rfl rfl rfl rfl
  | @stolen a p num hf =>
    obtain ⟨-, rest, hl⟩ := hT a p (by rw [hf]; rfl)
    refine Commits.goLoop (hC.goto (r := s) rfl rfl rfl rfl rfl rfl) rfl rfl rfl rfl rfl ?_
      fun h => by cases h
    change s.loop p ≠ _
    rw [hl]
    simp
  | @opens a p todo all hf =>
    have hR := hC.frames a
    rw [hf] at hR
    refine ⟨Commits.ready hK (by rw [hf]; rfl) rfl hR, fun q hq => ?_, hC.past, hC.exited⟩
    have hqp : q ≠ p := by
      rintro rfl
      exact hC.not_requested (hR.2 q List.mem_cons_self) hq
    change Function.update s.admissionOpen p true q = false ∧ _
    rw [Function.update_of_ne hqp]
    exact hC.requested q hq
  | @activates a p todo all hf =>
    have hR := hC.frames a
    rw [hf] at hR
    obtain ⟨hp, hn⟩ := List.nodup_cons.mp hR.1
    refine ⟨Commits.ready hK (by rw [hf]; rfl) rfl ⟨hn, fun q hq => ?_⟩, fun q hq => ?_, hC.past,
      fun q hq => ?_⟩
    · have hqp : q ≠ p := by
        rintro rfl
        exact hp hq
      change Function.update s.lifecycle p _ q = _
      rw [Function.update_of_ne hqp]
      exact hR.2 q (List.mem_cons_of_mem _ hq)
    · have hqp : q ≠ p := by
        rintro rfl
        exact hC.not_requested (hR.2 q List.mem_cons_self) hq
      change _ ∧ (Function.update s.lifecycle p _ q = _ ∨ Function.update s.lifecycle p _ q = _)
      rw [Function.update_of_ne hqp]
      exact hC.requested q hq
    · change Function.update s.lifecycle p _ q = _ at hq
      by_cases hqp : q = p
      · subst hqp
        rw [Function.update_self] at hq
        cases hq
      · rw [Function.update_of_ne hqp] at hq
        exact hC.exited q hq
  | @starts a all hf =>
    refine ⟨fun b => ?_, hC.requested, fun q hq => ?_, fun q hq => ?_⟩
    · exact (hC.goto (a := a) (f := .idle) (r := s) rfl rfl rfl rfl rfl rfl).frames b
    · change (ite _ _ _ : Loop Co Wk).past = true at hq
      split at hq
      · cases hq
      · exact hC.past q hq
    · have hx := hC.exited q hq
      change (ite _ _ _ : Loop Co Wk) = _
      rw [if_neg (by simp [hx]), hx]
  | @closes a p todo all hf =>
    refine ⟨Commits.ready hK (by rw [hf]; rfl) rfl
      ⟨fun _ => Function.update_self .., fun h => by omega⟩, fun q hq => ?_, hC.past, hC.exited⟩
    refine ⟨?_, (hC.requested q hq).2⟩
    change Function.update s.admissionOpen p false q = false
    by_cases hqp : q = p
    · subst hqp
      exact Function.update_self ..
    · rw [Function.update_of_ne hqp]
      exact (hC.requested q hq).1
  | @retires a p todo all hf =>
    have hR := hC.frames a
    rw [hf] at hR
    refine ⟨Commits.ready hK (by rw [hf]; rfl) rfl
      ⟨fun _ => hR.1 le_rfl, fun _ => .inl (Function.update_self ..)⟩, fun q hq => ?_, hC.past,
      fun q hq => ?_⟩
    · refine ⟨(hC.requested q hq).1, ?_⟩
      change Function.update s.lifecycle p _ q = _ ∨ Function.update s.lifecycle p _ q = _
      by_cases hqp : q = p
      · subst hqp
        exact .inl (Function.update_self ..)
      · rw [Function.update_of_ne hqp]
        exact (hC.requested q hq).2
    · change Function.update s.lifecycle p _ q = _ at hq
      by_cases hqp : q = p
      · subst hqp
        rw [Function.update_self] at hq
        cases hq
      · rw [Function.update_of_ne hqp] at hq
        exact hC.exited q hq
  | @requests a p n todo all hf =>
    have hR := hC.frames a
    rw [hf] at hR
    refine ⟨Commits.ready hK (by rw [hf]; rfl) rfl ?_, fun q hq => ?_, fun q hq => ?_, hC.exited⟩
    · cases todo with
      | nil => trivial
      | cons q todo => exact ⟨fun h => by omega, fun h => by omega⟩
    · change Function.update s.retireRequested p true q = true at hq
      by_cases hqp : q = p
      · subst hqp
        exact ⟨hR.1 (by omega), hR.2 (by omega)⟩
      · rw [Function.update_of_ne hqp] at hq
        exact hC.requested q hq
    · change Function.update s.retireRequested p true q = true
      by_cases hqp : q = p
      · subst hqp
        exact Function.update_self ..
      · rw [Function.update_of_ne hqp]
        exact hC.past q hq
  | @turns p c l hi hr hp hl hd hq =>
    refine hC.goLoop rfl rfl rfl rfl rfl (fun hx => ?_) hq
    rw [hx] at hp
    cases hp
  | @turnsTo p c l f hi hr hp hl hq hf =>
    refine Commits.goto (hC.goLoop (r := { s with globalCheckCounter := c }) rfl rfl rfl rfl rfl
      (fun hx => ?_) fun h => absurd (hq.symm.trans h) Bool.false_ne_true) rfl rfl rfl rfl rfl ?_
    · rw [hx] at hp
      cases hp
    · rcases hf with rfl | ⟨v, expect, rest, rfl, -⟩ <;> rfl
  | pick hl | account hl =>
    exact hC.goLoop rfl rfl rfl rfl rfl (by rw [hl]; simp) fun h => by cases h
  | @parks p n co d hl =>
    exact hC.goLoop (r := s.setParked co true) (l := .turn _ true) rfl rfl rfl rfl rfl
      (by rw [hl]; simp) fun h => by cases h
  | @ends p n co hl =>
    exact hC.goLoop (r := s.setLife co .dead) (l := .turn _ true) rfl rfl rfl rfl rfl
      (by rw [hl]; simp) fun h => by cases h
  | @drains p hl =>
    exact hC.goLoop rfl rfl rfl rfl rfl (by rw [hl]; simp) fun _ => hC.past p (by rw [hl]; rfl)
  | yields hi hl hk =>
    exact Commits.goto (hC.goLoop (r := s) rfl rfl rfl rfl rfl (by rw [hl]; simp)
      fun h => by cases h) rfl rfl rfl rfl rfl rfl
  | exits hl => exact hC.exits hl
  | expands hi hm hn hb => exact hC.begin rfl rfl rfl rfl rfl ⟨hn, fun p hp => (hb p hp).1⟩
  | shrinks hi hm hn hb =>
    refine hC.begin rfl rfl rfl rfl rfl ?_
    rename_i selected
    cases selected with
    | nil => trivial
    | cons p todo => exact ⟨fun h => by omega, fun h => by omega⟩

/-! ## Workers that have waited -/

omit [DecidableEq Co] in
/-- The thread goes on; if it has now passed the admission of a worker, that one has not waited
yet. -/
lemma Drained.goto (hD : Drained s) (hf' : r.frame = s.frame) (hl' : r.loop = s.loop)
    (hq : ∀ p, s.loop p = .exited → r.coroutineQueue p = [])
    (hf : ∀ p, f.passed = some p → (s.loop p).drained = false) : Drained (r.goto a f) := by
  refine ⟨fun p hp b hb => ?_, fun p hp => hq p ?_⟩
  · change (r.loop p).drained = true at hp
    rw [hl'] at hp
    by_cases hba : b = a
    · subst hba
      rw [frame_goto_self] at hb
      exact Bool.false_ne_true ((hf p hb).symm.trans hp)
    · rw [frame_goto_of_ne hba, hf'] at hb
      exact hD.passed p hp b hb
  · rw [← hl']
    exact hp

omit [DecidableEq Th] [DecidableEq Co] in
/-- The loop of a worker goes on, and the worker does not wait. -/
lemma Drained.goLoop (hD : Drained s) (hf' : r.frame = s.frame) (hl' : r.loop = s.loop)
    (hq : ∀ p, s.loop p = .exited → r.coroutineQueue p = []) (hl : l.drained = false) :
    Drained (r.goLoop p l) := by
  refine ⟨fun q hp b hb => ?_, fun q hp => ?_⟩
  · have hqp : q ≠ p := by
      rintro rfl
      rw [loop_goLoop_self] at hp
      exact Bool.false_ne_true (hl.symm.trans hp)
    rw [loop_goLoop_of_ne hqp, hl'] at hp
    refine hD.passed q hp b ?_
    rw [← hf']
    exact hb
  · have hqp : q ≠ p := by
      rintro rfl
      rw [loop_goLoop_self] at hp
      rw [hp] at hl
      cases hl
    rw [loop_goLoop_of_ne hqp, hl'] at hp
    exact hq q hp

omit [DecidableEq Th] in
/-- The queue from which a coroutine is taken is not that of a worker that has left. -/
lemma Drained.take (hD : Drained s) {co : Co} (hc : co ∈ s.coroutineQueue p) (q : Wk)
    (hq : s.loop q = .exited) : (s.take p co).coroutineQueue q = [] := by
  have hqp : q ≠ p := by
    rintro rfl
    rw [hD.empty q hq] at hc
    cases hc
  change Function.update s.coroutineQueue p _ q = []
  rw [Function.update_of_ne hqp]
  exact hD.empty q hq

omit [DecidableEq Th] in
/-- A thread that has passed the admission enqueues at a worker that has not waited. -/
lemma Drained.link (hD : Drained s) {co : Co} {pr : Priority}
    (ha : (s.frame a).passed = some p) (q : Wk) (hq : s.loop q = .exited) :
    (s.link p pr co).coroutineQueue q = [] := by
  have hqp : q ≠ p := by
    rintro rfl
    exact hD.passed q (by rw [hq]; rfl) a ha
  change Function.update s.coroutineQueue p _ q = []
  rw [Function.update_of_ne hqp]
  exact hD.empty q hq

omit [DecidableEq Th] [DecidableEq Wk] [DecidableEq Co] in
/-- Where the admission is open, the worker has not waited. -/
lemma Commits.not_drained (hC : Commits s) (ho : s.admissionOpen p = true) :
    (s.loop p).drained = false := by
  by_contra hd
  rw [Bool.not_eq_false] at hd
  have h := (hC.requested p (hC.past p (Loop.past_of_drained hd))).1
  exact Bool.false_ne_true (h.symm.trans ho)

/-- Each step keeps the enqueuers away from the workers that have waited. -/
lemma Move.drained (h : Move s t) (hS : Slots s) (hC : Commits s) (hD : Drained s) :
    Drained t := by
  cases h with
  | stay => exact hD
  | walk hG | release _ hG | toGlobal _ hG | fromGlobal _ _ _ hG | creates _ _ hG
  | wakes _ _ hG =>
    exact hD.goto rfl rfl hD.empty fun p hp => hC.not_drained (hG.passed p hp)
  | fromLocal _ _ hc hG =>
    exact hD.goto rfl rfl (hD.take hc) fun p hp => hC.not_drained (hG.passed p hp)
  | lock | unlock | discard | register | opens | activates | activated | closes | retires
  | requests | retired | expands | shrinks =>
    exact hD.goto rfl rfl hD.empty fun p hp => by cases hp
  | link hf hl =>
    exact hD.goto rfl rfl (hD.link (by rw [hf]; rfl)) fun p hp => by cases hp
  | stolen hf =>
    exact Drained.goLoop (hD.goto (r := s) rfl rfl hD.empty fun p hp => by cases hp) rfl rfl
      hD.empty rfl
  | @starts a all hf =>
    refine ⟨fun q hq => ?_, fun q hq => hD.empty q ?_⟩
    · change (ite _ _ _ : Loop Co Wk).drained = true at hq
      split at hq
      · cases hq
      · exact (hD.goto (a := a) (f := .idle) (r := s) rfl rfl hD.empty
          fun p hp => by cases hp).passed q hq
    · change (ite _ _ _ : Loop Co Wk) = _ at hq
      split at hq
      · cases hq
      · exact hq
  | turns hi hr hp hl hd => exact hD.goLoop rfl rfl hD.empty hd
  | @turnsTo p c l f hi hr hp hl hq hf =>
    have hd : l.drained = false := by
      by_contra h
      rw [Bool.not_eq_false] at h
      exact Bool.false_ne_true (hq.symm.trans (Loop.past_of_drained h))
    have hD' := hD.goLoop (r := { s with globalCheckCounter := c }) (p := p) rfl rfl hD.empty hd
    refine hD'.goto rfl rfl hD'.empty fun q h => ?_
    rcases hf with rfl | ⟨v, expect, rest, rfl, -⟩ <;> cases h
  | pick hl hc => exact hD.goLoop rfl rfl (hD.take hc) rfl
  | account => exact hD.goLoop rfl rfl hD.empty rfl
  | @parks p n co => exact hD.goLoop (r := s.setParked co true) rfl rfl hD.empty rfl
  | @ends p n co => exact hD.goLoop (r := s.setLife co .dead) rfl rfl hD.empty rfl
  | @yields p n co d pr k hi hl hk =>
    have hD' := hD.goLoop (r := s) (p := p) (l := .turn (n + 1) true) rfl rfl hD.empty rfl
    exact hD'.goto rfl rfl hD'.empty fun q h => by cases h
  | @drains p hl hn =>
    refine ⟨fun q hq a => ?_, fun q hq => ?_⟩
    · by_cases hqp : q = p
      · subst hqp
        exact hS.passed_ne hn a
      · rw [loop_goLoop_of_ne hqp] at hq
        exact hD.passed q hq a
    · have hqp : q ≠ p := by
        rintro rfl
        rw [loop_goLoop_self] at hq
        cases hq
      rw [loop_goLoop_of_ne hqp] at hq
      exact hD.empty q hq
  | @exits p hl hq =>
    refine ⟨fun q h a => ?_, fun q h => ?_⟩
    · by_cases hqp : q = p
      · subst hqp
        exact hD.passed q (by rw [hl]; rfl) a
      · rw [loop_goLoop_of_ne hqp] at h
        exact hD.passed q h a
    · by_cases hqp : q = p
      · subst hqp
        exact hq
      · rw [loop_goLoop_of_ne hqp] at h
        exact hD.empty q h

end BbtCoroutine.Circulation
