import BbtCoroutine.Circulation.Places

/-!
# What a step of the scheduler does

`Move s t` lists the ways in which a step can lead from `s` to `t`, one constructor for each
kind of change, and `next_cases` says that the list is complete.  Of the frames a move says
only what the invariants are about: which coroutine is in the hand (`Frame.hand`), at which
worker the thread is registered as an enqueuer (`Frame.slot`) and whether it has then seen the
admission open (`Frame.passed`), and whether it holds `m_processer_map_mutex`.
-/

namespace BbtCoroutine.Circulation

open Transition Scheduler OnYield

variable {Th Wk Co : Type*}

/-! ## What matters of a frame -/

/-- The worker in whose `m_enqueue_inflight` the thread is counted. -/
def Frame.slot : Frame Co Wk → Option Wk
  | .admission .recheck p _ _ _ | .admission .enqueue p _ _ _
  | .admission (.release _) p _ _ _ => some p
  | _ => none

/-- The worker whose admission the thread has seen open after it was counted. -/
def Frame.passed : Frame Co Wk → Option Wk
  | .admission .enqueue p _ _ _ => some p
  | _ => none

/-- The procedure holds `m_processer_map_mutex` meanwhile. -/
def Origin.locked : Origin Wk → Bool
  | .balance _ => true
  | _ => false

/-- The thread holds `m_processer_map_mutex`. -/
def Frame.locked : Frame Co Wk → Bool
  | .balance _ _ | .activate _ _ _ | .retire _ _ _ => true
  | .admission _ _ _ _ k => k.locked
  | _ => false

/-- The worker that steals. -/
def Origin.thief : Origin Wk → Option Wk
  | .steal p _ _ _ => some p
  | _ => none

/-- The worker that steals. -/
def Frame.thief : Frame Co Wk → Option Wk
  | .stealing p _ _ _ | .stole p _ => some p
  | .admission _ _ _ _ k | .globalize _ _ k => k.thief
  | _ => none

/-- The thread commits a resize. -/
def Frame.commits : Frame Co Wk → Bool
  | .activate _ _ _ | .retire _ _ _ => true
  | _ => false

/-- The coroutine whose code runs on a worker. -/
def Loop.executes : Loop Co Wk → Option Co
  | .running _ co => some co
  | _ => none

/-- The worker has left its loop to retire. -/
def Loop.past : Loop Co Wk → Bool
  | .quiesce | .drain | .exited => true
  | _ => false

/-- The worker has waited for the enqueuers. -/
def Loop.drained : Loop Co Wk → Bool
  | .drain | .exited => true
  | _ => false

variable [DecidableEq Th] [DecidableEq Wk] [DecidableEq Co]

/-! ## The moves -/

/-- The thread `a` goes on at `f`, which is no commit of a resize. -/
structure Goes (s : State Th Wk Co) (a : Agent Th Wk) (f : Frame Co Wk) : Prop where
  locked : f.locked = true → (s.frame a).locked = true
  thief : ∀ p, f.thief = some p → (s.frame a).thief = some p
  commits : f.commits = false
  passed : ∀ p, f.passed = some p → s.admissionOpen p = true

/-- The ways in which a step leads from `s` to another state. -/
inductive Move (s : State Th Wk Co) : State Th Wk Co → Prop
  | stay : Move s s
  -- procedures
  | walk {a : Agent Th Wk} {f : Frame Co Wk} (hG : Goes s a f) (hs : f.slot = (s.frame a).slot)
      (hh : f.hand = (s.frame a).hand) : Move s (s.goto a f)
  | lock {a : Agent Th Wk} {co : Co} {rest : List Wk} (hf : s.frame a = .regist co)
      (hm : s.mapMutex = none) :
      Move s ({ s with mapMutex := some a }.goto a (.balance co rest))
  | unlock {a : Agent Th Wk} {co : Co} (hf : s.frame a = .balance co []) :
      Move s ({ s with mapMutex := none }.goto a (.discard co))
  | discard {a : Agent Th Wk} {co : Co} (hf : s.frame a = .discard co) :
      Move s ((s.setLife co .dead).goto a .idle)
  | register {a : Agent Th Wk} {p : Wk} {pr : Priority} {co : Co} {k : Origin Wk}
      (hf : s.frame a = .admission .register p pr co k) :
      Move s ({ s with
        enqueueInflight := Function.update s.enqueueInflight p (s.enqueueInflight p + 1) }.goto a
          (.admission .recheck p pr co k))
  | link {a : Agent Th Wk} {p : Wk} {pr : Priority} {co : Co} {k : Origin Wk}
      (hf : s.frame a = .admission .enqueue p pr co k) (hl : s.isLinked co = false) :
      Move s ((s.link p pr co).goto a (.admission (.release true) p pr co k))
  | release {a : Agent Th Wk} {p : Wk} {pr : Priority} {co : Co} {k : Origin Wk} {b : Bool}
      {m : Option (Agent Th Wk)} {f : Frame Co Wk}
      (hf : s.frame a = .admission (.release b) p pr co k) (hG : Goes s a f) (hs : f.slot = none)
      (hh : f.hand = (s.frame a).hand)
      (hm : m = s.mapMutex ∨ m = none ∧ (s.frame a).locked = true ∧ f.locked = false) :
      Move s ({ s with
        enqueueInflight := Function.update s.enqueueInflight p (s.enqueueInflight p - 1)
        mapMutex := m }.goto a f)
  | toGlobal {a : Agent Th Wk} {pr : Priority} {co : Co} {k : Origin Wk} {f : Frame Co Wk}
      (hf : s.frame a = .globalize pr co k) (hG : Goes s a f) (hs : f.slot = none)
      (hh : f.hand = none) : Move s ((s.enqueueGlobal pr co).goto a f)
  | fromGlobal {a : Agent Th Wk} {pr : Priority} {co : Co} {f : Frame Co Wk}
      (hf : (s.frame a).hand = none) (hs' : (s.frame a).slot = none) (hc : co ∈ s.globalQueue pr)
      (hG : Goes s a f) (hs : f.slot = none) (hh : f.hand = some co) :
      Move s ((s.dequeueGlobal pr co).goto a f)
  | fromLocal {a : Agent Th Wk} {p : Wk} {co : Co} {f : Frame Co Wk}
      (hf : (s.frame a).hand = none) (hs' : (s.frame a).slot = none)
      (hc : co ∈ s.coroutineQueue p) (hG : Goes s a f) (hs : f.slot = none)
      (hh : f.hand = some co) : Move s ((s.take p co).goto a f)
  | stolen {a : Agent Th Wk} {p : Wk} {num : ℕ} (hf : s.frame a = .stole p num) :
      Move s ((s.goto a .idle).goLoop p .top)
  -- commits of resizes
  | opens {a : Agent Th Wk} {p : Wk} {todo all : List Wk}
      (hf : s.frame a = .activate false (p :: todo) all) :
      Move s ({ s with admissionOpen := Function.update s.admissionOpen p true }.goto a
        (.activate true (p :: todo) all))
  | activates {a : Agent Th Wk} {p : Wk} {todo all : List Wk}
      (hf : s.frame a = .activate true (p :: todo) all) :
      Move s ({ s with lifecycle := Function.update s.lifecycle p .active }.goto a
        (.activate false todo all))
  | activated {a : Agent Th Wk} {o : Bool} {all : List Wk} (hf : s.frame a = .activate o [] all) :
      Move s ({ s with mapMutex := none }.goto a (.startGate all))
  | starts {a : Agent Th Wk} {all : List Wk} (hf : s.frame a = .startGate all) :
      Move s (s.startGate a all)
  | closes {a : Agent Th Wk} {p : Wk} {todo all : List Wk}
      (hf : s.frame a = .retire 0 (p :: todo) all) :
      Move s ({ s with admissionOpen := Function.update s.admissionOpen p false }.goto a
        (.retire 1 (p :: todo) all))
  | retires {a : Agent Th Wk} {p : Wk} {todo all : List Wk}
      (hf : s.frame a = .retire 1 (p :: todo) all) :
      Move s ({ s with lifecycle := Function.update s.lifecycle p .retiring }.goto a
        (.retire 2 (p :: todo) all))
  | requests {a : Agent Th Wk} {p : Wk} {n : ℕ} {todo all : List Wk}
      (hf : s.frame a = .retire (n + 2) (p :: todo) all) :
      Move s ({ s with retireRequested := Function.update s.retireRequested p true }.goto a
        (.retire 0 todo all))
  | retired {a : Agent Th Wk} {n : ℕ} {all : List Wk} (hf : s.frame a = .retire n [] all) :
      Move s ({ s with
        activeSnapshot := s.activeSnapshot.filter (· ∉ all)
        mapMutex := none }.goto a .idle)
  -- loops
  | turns {p : Wk} {c : Wk → ℕ} {l : Loop Co Wk} (hi : s.frame (.worker p) = .idle)
      (hr : (s.loop p).resumes = none) (hp : (s.loop p).past = false) (hl : l.resumes = none)
      (hd : l.drained = false) (hq : l.past = true → s.retireRequested p = true) :
      Move s ({ s with globalCheckCounter := c }.goLoop p l)
  | turnsTo {p : Wk} {c : Wk → ℕ} {l : Loop Co Wk} {f : Frame Co Wk}
      (hi : s.frame (.worker p) = .idle) (hr : (s.loop p).resumes = none)
      (hp : (s.loop p).past = false) (hl : l.resumes = none) (hq : l.past = false)
      (hf : f = .pullGate p ∨
        ∃ v expect rest, f = .stealing p v 0 expect ∧ l = .steal rest) :
      Move s (({ s with globalCheckCounter := c }.goLoop p l).goto (.worker p) f)
  | pick {p : Wk} {n : ℕ} {any : Bool} {co : Co} (hl : s.loop p = .turn n any)
      (hc : co ∈ s.coroutineQueue p) :
      Move s ((s.pick p co).goLoop p (.running n co))
  | account {p : Wk} {n : ℕ} {co : Co} {d : YieldDisposition} (hl : s.loop p = .running n co) :
      Move s ((s.account p co).goLoop p (.commit n co d))
  | yields {p : Wk} {n : ℕ} {co : Co} {d : YieldDisposition} {pr : Priority} {k : Origin Wk}
      (hi : s.frame (.worker p) = .idle) (hl : s.loop p = .commit n co d)
      (hk : k = .ready ∨ k = .onActive) :
      Move s ((s.goLoop p (.turn (n + 1) true)).goto (.worker p) (.admission .check p pr co k))
  | parks {p : Wk} {n : ℕ} {co : Co} {d : YieldDisposition} (hl : s.loop p = .commit n co d) :
      Move s ((s.goLoop p (.turn (n + 1) true)).setParked co true)
  | ends {p : Wk} {n : ℕ} {co : Co} (hl : s.loop p = .commit n co .final) :
      Move s ((s.goLoop p (.turn (n + 1) true)).setLife co .dead)
  | drains {p : Wk} (hl : s.loop p = .quiesce) (hn : s.enqueueInflight p = 0) :
      Move s (s.goLoop p .drain)
  | exits {p : Wk} (hl : s.loop p = .drain) (hq : s.coroutineQueue p = []) :
      Move s ({ s with lifecycle := Function.update s.lifecycle p .exited }.goLoop p .exited)
  -- calls
  | creates {a : Agent Th Wk} {co : Co} {f : Frame Co Wk} (hi : s.frame a = .idle)
      (hu : s.life co = .unborn) (hG : Goes s a f) (hs : f.slot = none) (hh : f.hand = some co) :
      Move s ((s.setLife co .live).goto a f)
  | wakes {a : Agent Th Wk} {co : Co} {f : Frame Co Wk} (hi : s.frame a = .idle)
      (hu : s.parked co = true) (hG : Goes s a f) (hs : f.slot = none) (hh : f.hand = some co) :
      Move s ((s.setParked co false).goto a f)
  | expands {a : Agent Th Wk} {batch : List Wk} (hi : s.frame a = .idle)
      (hm : s.mapMutex = none) (hn : batch.Nodup)
      (hb : ∀ p ∈ batch, s.lifecycle p = .preparing ∧ p ∉ s.activeSnapshot) :
      Move s ({ s with
        mapMutex := some a
        activeSnapshot := s.activeSnapshot ++ batch }.goto a (.activate false batch batch))
  | shrinks {a : Agent Th Wk} {selected : List Wk} (hi : s.frame a = .idle)
      (hm : s.mapMutex = none) (hn : selected.Nodup)
      (hb : ∀ p ∈ selected, s.lifecycle p = .active ∧ p ∈ s.activeSnapshot) :
      Move s ({ s with mapMutex := some a }.goto a (.retire 0 selected selected))

/-! ## Every step is one of them -/

variable {s r t : State Th Wk Co} {a : Agent Th Wk} {p : Wk} {co : Co} {f : Frame Co Wk}
  {e : Env Wk Co} {cfg : Config}

omit [DecidableEq Th] [DecidableEq Wk] [DecidableEq Co] in
/-- A thread that goes on at such a point holds no lock and is in no steal. -/
lemma Goes.of_free (hl : f.locked = false) (ht : f.thief = none) (hc : f.commits = false)
    (hp : f.passed = none) : Goes s a f :=
  ⟨fun h => absurd (hl.symm.trans h) Bool.false_ne_true, fun p h => by simp [ht] at h, hc,
    fun p h => by simp [hp] at h⟩

omit [DecidableEq Th] [DecidableEq Wk] [DecidableEq Co] in
/-- Doing nothing moves nothing. -/
lemma Goes.idle : Goes s a .idle := .of_free rfl rfl rfl rfl

omit [DecidableEq Co] in
/-- A caller that was refused goes on with the coroutine. -/
lemma goes_refused {st : Stage} {pr : Priority} {k : Origin Wk}
    (hf : s.frame a = .admission st p pr co k) :
    ∃ f, t.refused a pr co k = t.goto a f ∧ Goes s a f ∧ f.slot = none ∧ f.hand = some co := by
  cases k with
  | balance rest =>
    refine ⟨_, rfl, ⟨fun _ => ?_, fun p h => ?_, rfl, fun p h => ?_⟩, rfl, rfl⟩
    · rw [hf]
      rfl
    · cases h
    · cases h
  | registOn => exact ⟨_, rfl, .of_free rfl rfl rfl rfl, rfl, rfl⟩
  | steal q v num expect =>
    refine ⟨_, rfl, ⟨fun h => ?_, fun p h => ?_, rfl, fun p h => ?_⟩, rfl, rfl⟩
    · cases h
    · rw [hf]
      exact h
    · cases h
  | _ => exact ⟨_, rfl, .of_free rfl rfl rfl rfl, rfl, rfl⟩

/-- The enqueue of an admitted coroutine is a move. -/
lemma enqueueAdmitted_move {st : Stage} {pr : Priority} {k : Origin Wk}
    (hf : s.frame a = .admission st p pr co k) : Move s (s.enqueueAdmitted a p pr co k st) := by
  have hgoes : ∀ st', (∀ q, (Frame.admission st' p pr co k).passed = some q →
      s.admissionOpen q = true) → Goes s a (.admission st' p pr co k) := by
    intro st' hp
    refine ⟨fun h => ?_, fun q h => ?_, rfl, hp⟩ <;> rw [hf] <;> exact h
  cases st with
  | check =>
    rw [State.enqueueAdmitted]
    split
    · exact .walk (hgoes _ (by simp [Frame.passed])) (by rw [hf]; rfl) (by rw [hf]; rfl)
    · obtain ⟨f, he, hG, hs, hh⟩ := goes_refused (t := s) hf
      rw [he]
      exact .walk hG (by rw [hf, hs]; rfl) (by rw [hf, hh]; rfl)
  | register => exact .register hf
  | recheck =>
    rw [State.enqueueAdmitted]
    split
    · rename_i ho
      refine .walk (hgoes _ fun q hq => ?_) (by rw [hf]; rfl) (by rw [hf]; rfl)
      cases hq
      exact ho
    · exact .walk (hgoes _ (by simp [Frame.passed])) (by rw [hf]; rfl) (by rw [hf]; rfl)
  | enqueue =>
    rw [State.enqueueAdmitted]
    split
    · exact .walk (hgoes _ (by simp [Frame.passed])) (by rw [hf]; rfl) (by rw [hf]; rfl)
    · rename_i hne
      exact .link hf (Bool.eq_false_iff.mpr fun h => hne (.inl h))
  | release enqueued =>
    rw [State.enqueueAdmitted]
    cases enqueued with
    | false =>
      obtain ⟨f, he, hG, hs, hh⟩ := goes_refused (t := { s with
        enqueueInflight := Function.update s.enqueueInflight p (s.enqueueInflight p - 1) }) hf
      rw [if_neg (by simp), he]
      exact .release hf hG hs (by rw [hf, hh]; rfl) (.inl rfl)
    | true =>
      rw [if_pos rfl]
      cases k with
      | balance rest =>
        exact .release hf .idle rfl (by rw [hf]; rfl) (.inr ⟨rfl, by rw [hf]; rfl, rfl⟩)
      | pull q left empty =>
        exact .release hf (.of_free rfl rfl rfl rfl) rfl (by rw [hf]; rfl) (.inl rfl)
      | steal q v num expect =>
        refine .release hf ⟨fun h => ?_, fun q h => ?_, rfl, fun q h => ?_⟩ rfl (by rw [hf]; rfl)
          (.inl rfl)
        · cases h
        · rw [hf]
          exact h
        · cases h
      | _ => exact .release hf .idle rfl (by rw [hf]; rfl) (.inl rfl)

/-- The step to a global queue is a move. -/
lemma globalize_move {pr : Priority} {k : Origin Wk} (hf : s.frame a = .globalize pr co k) :
    Move s ((s.enqueueGlobal pr co).globalized a k) := by
  cases k with
  | steal q v num expect =>
    refine .toGlobal hf ⟨fun h => ?_, fun q h => ?_, rfl, fun q h => ?_⟩ rfl rfl
    · cases h
    · rw [hf]
      exact h
    · cases h
  | _ => exact .toGlobal hf (.of_free rfl rfl rfl rfl) rfl rfl

/-- A step of a pull is a move. -/
lemma pulling_move {left empty : ℕ} (hf : s.frame a = .pulling p left empty)
    (h : s.pulling a p left empty e = some t) : Move s t := by
  unfold State.pulling at h
  split at h
  · cases h
    exact .walk .idle (by rw [hf]; rfl) (by rw [hf]; rfl)
  · split at h
    · cases h
      exact .walk (.of_free rfl rfl rfl rfl) (by rw [hf]; rfl) (by rw [hf]; rfl)
    · split at h <;> cases h
      exact .fromGlobal (by rw [hf]; rfl) (by rw [hf]; rfl) ‹_› (.of_free rfl rfl rfl rfl) rfl rfl

/-- A step of a steal is a move. -/
lemma stealing_move {v : Wk} {num expect : ℕ} (hf : s.frame a = .stealing p v num expect)
    (h : s.stealing a p v num expect e = some t) : Move s t := by
  have hgoes : ∀ f : Frame Co Wk, f.locked = false → f.thief = some p → f.commits = false →
      f.passed = none → Goes s a f := by
    intro f hl ht hc hp
    refine ⟨fun h => absurd (hl.symm.trans h) Bool.false_ne_true, fun q h => ?_, hc,
      fun q h => by simp [hp] at h⟩
    rw [hf]
    exact ht.symm.trans h
  unfold State.stealing at h
  split at h
  · cases h
    exact .walk (hgoes _ rfl rfl rfl rfl) (by rw [hf]; rfl) (by rw [hf]; rfl)
  · split at h
    · cases h
    · split at h <;> cases h
      exact .fromLocal (by rw [hf]; rfl) (by rw [hf]; rfl) ‹_› (hgoes _ rfl rfl rfl rfl) rfl rfl

/-- A step of an agent in the middle of a call is a move. -/
lemma step_move (h : s.step cfg a e = some t) : Move s t := by
  unfold State.step at h
  cases hf : s.frame a <;> simp only [hf] at h
  case idle => cases h
  case regist =>
    split at h
    · cases h
    · rename_i hm
      split at h <;> cases h
      · exact .walk (.of_free rfl rfl rfl rfl) (by rw [hf]; rfl) (by rw [hf]; rfl)
      · exact .lock hf (not_not.mp hm)
  case balance co rest =>
    cases rest <;> cases h
    · exact .unlock hf
    · refine .walk ⟨fun _ => by rw [hf]; rfl, fun q h => ?_, rfl, fun q h => ?_⟩
        (by rw [hf]; rfl) (by rw [hf]; rfl)
      · cases h
      · cases h
  case discard =>
    cases h
    exact .discard hf
  case admission =>
    cases h
    exact enqueueAdmitted_move hf
  case globalize =>
    split at h <;> cases h
    · exact globalize_move hf
    · exact .stay
  case pullGate =>
    split at h <;> cases h <;>
      exact .walk (.of_free rfl rfl rfl rfl) (by rw [hf]; rfl) (by rw [hf]; rfl)
  case pulling => exact pulling_move hf h
  case stealing => exact stealing_move hf h
  case stole =>
    cases h
    unfold State.stolen
    split
    · exact .stolen hf
    · exact .walk .idle (by rw [hf]; rfl) (by rw [hf]; rfl)
  case activate o todo all =>
    cases h
    cases todo with
    | nil => exact .activated hf
    | cons p todo =>
      cases o with
      | true => exact .activates hf
      | false => exact .opens hf
  case startGate =>
    cases h
    exact .starts hf
  case retire n todo all =>
    cases h
    cases todo with
    | nil => exact .retired hf
    | cons p todo =>
      rcases n with _ | _ | n
      · exact .closes hf
      · exact .retires hf
      · exact .requests hf

/-! ### The loop -/

/-- The loop goes on without a call. -/
lemma turns_move {l : Loop Co Wk} (hi : s.frame (.worker p) = .idle)
    (hr : (s.loop p).resumes = none) (hp : (s.loop p).past = false) (hl : l.resumes = none)
    (hd : l.drained = false) (hq : l.past = true → s.retireRequested p = true) :
    Move s (s.goLoop p l) :=
  .turns (c := s.globalCheckCounter) hi hr hp hl hd hq

/-- The loop calls a procedure of the worker. -/
lemma turnsTo_move {l : Loop Co Wk} (hi : s.frame (.worker p) = .idle)
    (hr : (s.loop p).resumes = none) (hp : (s.loop p).past = false) (hl : l.resumes = none)
    (hq : l.past = false)
    (hf : f = .pullGate p ∨ ∃ v expect rest, f = .stealing p v 0 expect ∧ l = .steal rest) :
    Move s ((s.goLoop p l).goto (.worker p) f) :=
  .turnsTo (c := s.globalCheckCounter) hi hr hp hl hq hf

/-- A turn of the loop is a move. -/
lemma turn_move {n : ℕ} {any : Bool} (hi : s.frame (.worker p) = .idle)
    (hl : s.loop p = .turn n any) (h : s.turn p n any e = some t) : Move s t := by
  unfold State.turn at h
  split at h
  · cases h
    exact turns_move hi (by rw [hl]; rfl) (by rw [hl]; rfl) rfl rfl fun _ => ‹_›
  · split at h
    · split at h
      · cases h
      · split at h <;> cases h
        exact .pick hl ‹_›
    · cases h
      exact turns_move hi (by rw [hl]; rfl) (by rw [hl]; rfl) rfl rfl
        (absurd · Bool.false_ne_true)

/-- The choice of a victim is a move. -/
lemma trySteal_move {rest : List Wk} (hi : s.frame (.worker p) = .idle)
    (hl : s.loop p = .steal rest) : Move s (s.trySteal cfg p rest e) := by
  have hr : (s.loop p).resumes = none := by rw [hl]; rfl
  have hp : (s.loop p).past = false := by rw [hl]; rfl
  cases rest with
  | nil => exact turns_move hi hr hp rfl rfl (absurd · Bool.false_ne_true)
  | cons v rest =>
    rw [State.trySteal]
    split
    · exact turnsTo_move hi hr hp rfl rfl (.inr ⟨v, _, rest, rfl, rfl⟩)
    · exact turns_move hi hr hp rfl rfl (absurd · Bool.false_ne_true)

/-- The commit of a yield is a move. -/
lemma commitYield_move {n : ℕ} {d : YieldDisposition} (hi : s.frame (.worker p) = .idle)
    (hl : s.loop p = .commit n co d) :
    Move s ((s.goLoop p (.turn (n + 1) true)).commitYield p co e d) := by
  cases d with
  | ready => exact .yields hi hl (.inl rfl)
  | final => exact .ends hl
  | eventWait =>
    rw [State.commitYield]
    split
    · exact .yields hi hl (.inr rfl)
    · exact .parks hl
  | manual => exact .parks hl

/-- A step of the loop is a move. -/
lemma work_move (hi : s.frame (.worker p) = .idle) (h : s.work cfg p e = some t) : Move s t := by
  unfold State.work at h
  cases hl : s.loop p <;> simp only [hl] at h
  case off => cases h
  case exited => cases h
  case top =>
    have hr : (s.loop p).resumes = none := by rw [hl]; rfl
    have hp : (s.loop p).past = false := by rw [hl]; rfl
    split at h
    · cases h
      exact turns_move hi hr hp rfl rfl fun _ => ‹_›
    · split at h <;> cases h
      · exact turnsTo_move hi hr hp rfl rfl (.inl rfl)
      · exact turns_move hi hr hp rfl rfl (absurd · Bool.false_ne_true)
  case turn => exact turn_move hi hl h
  case running =>
    cases h
    exact .account hl
  case commit =>
    cases h
    exact commitYield_move hi hl
  case interval =>
    have hr : (s.loop p).resumes = none := by rw [hl]; rfl
    have hp : (s.loop p).past = false := by rw [hl]; rfl
    split at h
    · cases h
      exact turns_move hi hr hp rfl rfl fun _ => ‹_›
    · split at h <;> cases h
      · exact .turnsTo hi hr hp rfl rfl (.inl rfl)
      · exact .turns hi hr hp rfl rfl (absurd · Bool.false_ne_true)
  case after =>
    have hr : (s.loop p).resumes = none := by rw [hl]; rfl
    have hp : (s.loop p).past = false := by rw [hl]; rfl
    split at h
    · cases h
      exact turns_move hi hr hp rfl rfl (absurd · Bool.false_ne_true)
    · split at h
      · cases h
        exact turns_move hi hr hp rfl rfl fun _ => ‹_›
      · split at h <;> cases h <;>
          exact turns_move hi hr hp rfl rfl (absurd · Bool.false_ne_true)
  case steal =>
    cases h
    exact trySteal_move hi hl
  case waitForWork =>
    have hr : (s.loop p).resumes = none := by rw [hl]; rfl
    have hp : (s.loop p).past = false := by rw [hl]; rfl
    split at h <;> cases h
    · exact turns_move hi hr hp rfl rfl (absurd · Bool.false_ne_true)
    · exact turnsTo_move hi hr hp rfl rfl (.inl rfl)
  case quiesce =>
    split at h <;> cases h
    exact .drains hl ‹_›
  case drain =>
    split at h
    · cases h
      exact .exits hl ‹_›
    · split at h
      · cases h
      · split at h <;> cases h
        exact .fromLocal (by rw [hi]; rfl) (by rw [hi]; rfl) ‹_› (.of_free rfl rfl rfl rfl) rfl rfl

/-! ### Calls -/

/-- A call is a move. -/
lemma call_move {op : Op Wk Co} (hi : s.frame a = .idle) (h : call s a op = some t) :
    Move s t := by
  cases op with
  | registCoroutineTask co =>
    rw [call] at h
    split at h <;> cases h
    exact .creates hi ‹_› (.of_free rfl rfl rfl rfl) rfl rfl
  | registCoroutineTaskOn target co =>
    rw [call] at h
    split at h <;> cases h
    rename_i hc
    exact .creates hi hc.1 (.of_free rfl rfl rfl rfl) rfl rfl
  | onActiveCoroutine pr co =>
    simp only [call] at h
    split at h
    · cases a <;> cases h <;> exact .wakes hi ‹_› (.of_free rfl rfl rfl rfl) rfl rfl
    · cases h
  | expand batch =>
    rw [call] at h
    split at h <;> cases h
    rename_i hc
    exact .expands hi hc.1 hc.2.1 hc.2.2
  | shrink selected =>
    rw [call] at h
    split at h <;> cases h
    rename_i hc
    exact .shrinks hi hc.1 hc.2.1 hc.2.2.2

/-- Every step of the system is one of the listed moves. -/
lemma next_cases {l : Label Th Wk Co} (h : next cfg s l = some t) : Move s t := by
  cases l with
  | call a op =>
    rw [next] at h
    split at h
    · exact call_move ‹_› h
    · cases h
  | step a e => exact step_move h
  | work p e =>
    rw [next] at h
    split at h
    · exact work_move ‹_› h
    · cases h

/-! ## Steals -/

/-- A thread that steals is that of a worker whose loop is there. -/
def Thieves (s : State Th Wk Co) : Prop :=
  ∀ a p, (s.frame a).thief = some p → a = .worker p ∧ ∃ rest, s.loop p = .steal rest

omit [DecidableEq Th] [DecidableEq Wk] [DecidableEq Co] in
/-- A worker that is in no procedure, or whose loop is elsewhere, does not steal. -/
lemma Thieves.ne (hT : Thieves s)
    (h : s.frame (.worker p) = .idle ∨ ∀ rest, s.loop p ≠ .steal rest) (a : Agent Th Wk) :
    (s.frame a).thief ≠ some p := by
  intro ha
  obtain ⟨rfl, rest, hl⟩ := hT a p ha
  rcases h with hi | hne
  · rw [hi] at ha
    cases ha
  · exact hne rest hl

omit [DecidableEq Co] in
/-- A thread goes on in the same steal, or in none. -/
lemma Thieves.goto (hT : Thieves s)
    (hf' : r.frame = s.frame) (hl' : r.loop = s.loop)
    (hf : ∀ p, f.thief = some p → (s.frame a).thief = some p) : Thieves (r.goto a f) := by
  intro b p hb
  change b = _ ∧ ∃ rest, r.loop p = _
  rw [hl']
  by_cases hba : b = a
  · subst hba
    rw [frame_goto_self] at hb
    exact hT b p (hf p hb)
  · rw [frame_goto_of_ne hba, hf'] at hb
    exact hT b p hb

omit [DecidableEq Th] [DecidableEq Co] in
/-- The loop of a worker that does not steal goes on. -/
lemma Thieves.goLoop {l : Loop Co Wk} (hT : Thieves s)
    (hf' : r.frame = s.frame) (hl' : r.loop = s.loop) (hp : ∀ a, (s.frame a).thief ≠ some p) :
    Thieves (r.goLoop p l) := by
  intro b q hb
  have hb' : (s.frame b).thief = some q := by rw [← hf']; exact hb
  have hq : q ≠ p := by
    rintro rfl
    exact hp b hb'
  rw [loop_goLoop_of_ne hq, hl']
  exact hT b q hb'

/-- Each step keeps the steals with their workers. -/
lemma Move.thieves (h : Move s t) (hT : Thieves s) : Thieves t := by
  cases h with
  | stay => exact hT
  | walk hG | release _ hG | toGlobal _ hG | fromGlobal _ _ _ hG | fromLocal _ _ _ hG
  | creates _ _ hG | wakes _ _ hG => exact hT.goto rfl rfl hG.thief
  | lock | unlock | discard | opens | activates | activated | closes | retires | requests
  | retired | expands | shrinks => exact hT.goto rfl rfl fun p hp => by cases hp
  | register hf | link hf =>
    refine hT.goto rfl rfl fun p hp => ?_
    rw [hf]
    exact hp
  | @stolen a p num hf =>
    obtain ⟨rfl, -⟩ := hT a p (by rw [hf]; rfl)
    refine Thieves.goLoop (hT.goto (r := s) rfl rfl fun q hq => by cases hq) rfl rfl fun b hb => ?_
    by_cases hba : b = .worker p
    · subst hba
      rw [frame_goto_self] at hb
      cases hb
    · rw [frame_goto_of_ne hba] at hb
      exact hba (hT b p hb).1
  | @starts a all hf =>
    intro b q hb
    have hb' : (s.frame b).thief = some q := by
      by_cases hba : b = a
      · subst hba
        simp [State.startGate, State.goto, Frame.thief] at hb
      · simpa [State.startGate, State.goto, Function.update_of_ne hba] using hb
    obtain ⟨hbq, rest, hl⟩ := hT b q hb'
    refine ⟨hbq, rest, ?_⟩
    simp [State.startGate, State.goto, hl]
  | turns hi => exact hT.goLoop rfl rfl (hT.ne (.inl hi))
  | @turnsTo p c l f hi hr hp hl hq hf =>
    intro b q hb
    by_cases hbp : b = .worker p
    · subst hbp
      rcases hf with rfl | ⟨v, expect, rest, rfl, rfl⟩
      · simp [State.goto, Frame.thief] at hb
      · obtain rfl : p = q := by simpa [State.goto, Frame.thief] using hb
        exact ⟨rfl, rest, by simp [State.goto, State.goLoop]⟩
    · have hb' : (s.frame b).thief = some q := by
        simpa [State.goto, State.goLoop, Function.update_of_ne hbp] using hb
      exact hT.goLoop (r := { s with globalCheckCounter := c }) rfl rfl (hT.ne (.inl hi)) b q hb'
  | pick hl | account hl | parks hl | ends hl | drains hl | exits hl =>
    exact hT.goLoop rfl rfl (hT.ne (.inr fun rest => by rw [hl]; simp))
  | yields hi hl hk =>
    refine Thieves.goto (hT.goLoop (r := s) rfl rfl (hT.ne (.inl hi))) rfl rfl fun q hq => ?_
    rcases hk with rfl | rfl <;> cases hq

omit [DecidableEq Th] [DecidableEq Wk] [DecidableEq Co] in
/-- The loop of a worker that steals runs no coroutine. -/
lemma Thieves.resumes (hT : Thieves s) {num : ℕ}
    (hf : s.frame a = .stole p num) : (s.loop p).resumes = none := by
  obtain ⟨-, rest, hl⟩ := hT a p (by rw [hf]; rfl)
  rw [hl]
  rfl

end BbtCoroutine.Circulation
