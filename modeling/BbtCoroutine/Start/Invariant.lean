import BbtCoroutine.Start.Model
import Mathlib.Data.Finset.Lattice.Lemmas

/-!
# The runtime starts once or not at all

`Bare` says that nothing has been published and no worker is left except some that are listed,
and `Full` that exactly the given workers have been published.  `Fits` says which of them holds
at each point of an attempt.  At most one attempt is under way at a time, and none after one has
succeeded (`Inv`).
-/

namespace BbtCoroutine.Start

open Transition Scheduler

variable {T : Type*} [DecidableEq T]

/-! ## The invariant -/

/-- The call is an attempt: it has claimed the start. -/
def Pc.attempt : Pc → Bool
  | .idle | .claim _ _ | .looping => false
  | _ => true

/-- Nothing is left of the worker. -/
def Stage.Gone (x : Stage) : Prop :=
  x = .unborn ∨ x = .joined ∨ x = .discarded

/-- The scheduler thread while workers are created. -/
def StartOpt.sche : StartOpt → ScheThread
  | .scheThread => .creating
  | _ => .null

/-- Nothing has been published, and of the workers only those in the list may be left. -/
structure Bare (s : State T) (m : Option T) (x : ScheThread) (left : List ProcesserId) :
    Prop where
  initialized : s.initialized = false
  activeSnapshot : s.activeSnapshot = []
  processerMap : s.processerMap = ∅
  workers : s.workers = []
  lifecycleMutex : s.lifecycleMutex = m
  scheThread : s.scheThread = x
  gone : ∀ p, p ∉ left → (s.stage p).Gone
  published : s.published = 0
  started : s.started = []

/-- The given workers have been published and no others, and the runtime is not initialised. -/
structure Full (s : State T) (records : List ProcesserId) : Prop where
  initialized : s.initialized = false
  activeSnapshot : s.activeSnapshot = records
  processerMap : s.processerMap = records.toFinset
  workers : s.workers = records
  nodup : records.Nodup
  published : s.published ≤ 1
  started : s.started = []

/-- The runtime is initialised, and the caller has not been told. -/
structure Told (s : State T) : Prop where
  initialized : s.initialized = true
  published : s.published ≤ 1
  started : s.started = []

/-- The worker is active and admits coroutines. -/
def Active (s : State T) (p : ProcesserId) : Prop :=
  s.lifecycle p = .active ∧ s.admissionOpen p = true

/-- What holds at a point of an attempt of the thread `c`. -/
def Fits (s : State T) (c : T) : Pc → Prop
  | .instances _ _ | .init _ _ | .spawn _ | .revert => Bare s none .null []
  | .lock opt _ | .relock opt => Bare s none opt.sche []
  | .prepare opt _ | .fail opt => Bare s (some c) opt.sche []
  | .create b => Bare s (some c) b.opt.sche b.records ∧ b.records.Nodup ∧
      (∀ p ∈ b.records, p < s.nextId) ∧ b.records.length ≤ b.need
  | .thread b p => Bare s (some c) b.opt.sche (p :: b.records) ∧ (b.records ++ [p]).Nodup ∧
      (∀ q ∈ b.records ++ [p], q < s.nextId) ∧ b.records.length < b.need
  | .ready b | .publish b => Bare s (some c) b.opt.sche b.records ∧ b.records.Nodup ∧
      b.records.length = b.need
  | .unlock b => Bare s (some c) b.opt.sche b.records
  | .cancel b => Bare s none b.opt.sche b.records
  | .join opt todo => Bare s none opt.sche todo
  | .joinSche => Bare s none .returned []
  | .activate b todo => Full s b.records ∧ b.records.length = b.need ∧
      ∀ p ∈ b.records, p ∈ todo ∨ Active s p
  | .startGate b => Full s b.records ∧ b.records.length = b.need ∧ ∀ p ∈ b.records, Active s p
  | .target _ b | .publishInitialized _ b =>
    ∃ records, Full s records ∧ records.length = b.initialNum ∧ ∀ p ∈ records, Active s p
  | .report _ => Told s
  | .idle | .claim _ _ | .looping => True

/-- Where the start of the runtime is. -/
inductive Inv (s : State T) : Prop
  | rest (ha : ∀ d, (s.pc d).attempt = false) (hs : s.startState = .notStarted)
      (hb : Bare s none .null [])
  | attempt {c : T} (hc : (s.pc c).attempt = true) (ha : ∀ d, d ≠ c → (s.pc d).attempt = false)
      (hs : s.startState = .starting) (hf : Fits s c (s.pc c))
  | done (ha : ∀ d, (s.pc d).attempt = false) (hs : s.startState = .starting)
      (hi : s.initialized = true) (hp : s.published ≤ 1) (hl : s.started.length = 1)

/-! ## Steps of others -/

variable {s t r : State T} {c : T} {x : Pc}

/-- What a step that is not one of the attempt leaves as it is. -/
structure Keeps (s t : State T) : Prop where
  bare : ∀ m x left, Bare s m x left → Bare t m x left
  full : ∀ records, Full s records → Full t records
  told : Told s → Told t
  active : ∀ p, s.initialized = false → Active s p → Active t p
  nextId : s.initialized = false → s.nextId = t.nextId

omit [DecidableEq T] in
/-- What fits a point fits it after a step that keeps the rest. -/
lemma Fits.keeps (h : Fits s c x) (hk : Keeps s t) : Fits t c x := by
  cases x with
  | create b =>
    obtain ⟨hb, hn, hlt, hl⟩ := h
    exact ⟨hk.bare _ _ _ hb, hn, by rwa [← hk.nextId hb.initialized], hl⟩
  | thread b p =>
    obtain ⟨hb, hn, hlt, hl⟩ := h
    exact ⟨hk.bare _ _ _ hb, hn, by rwa [← hk.nextId hb.initialized], hl⟩
  | ready b | publish b => exact ⟨hk.bare _ _ _ h.1, h.2⟩
  | activate b todo =>
    exact ⟨hk.full _ h.1, h.2.1, fun p hp =>
      (h.2.2 p hp).imp_right (hk.active p h.1.initialized)⟩
  | startGate b =>
    exact ⟨hk.full _ h.1, h.2.1, fun p hp => hk.active p h.1.initialized (h.2.2 p hp)⟩
  | target opt b | publishInitialized opt b =>
    obtain ⟨records, hF, hl, ha⟩ := h
    exact ⟨records, hk.full _ hF, hl, fun p hp => hk.active p hF.initialized (ha p hp)⟩
  | report opt => exact hk.told h
  | idle | claim | looping => trivial
  | _ => exact hk.bare _ _ _ h

/-- A thread that makes no attempt goes on; the others stay where they are. -/
lemma Inv.keeps (hI : Inv s) (hk : Keeps s t) (hx : (s.pc c).attempt = false)
    (hx' : (t.pc c).attempt = false) (hp : ∀ d, d ≠ c → t.pc d = s.pc d)
    (hs : t.startState = s.startState) (hi : s.initialized = true → t.initialized = true)
    (hpub : t.published = s.published) (hst : t.started = s.started) : Inv t := by
  have hother : ∀ d, (s.pc d).attempt = false → (t.pc d).attempt = false := by
    intro d hd
    by_cases hdc : d = c
    · rw [hdc, hx']
    · rw [hp d hdc, hd]
  cases hI with
  | rest ha hs' hb => exact .rest (fun d => hother d (ha d)) (hs.trans hs') (hk.bare _ _ _ hb)
  | @attempt e hc ha hs' hf =>
    have hec : e ≠ c := by
      rintro rfl
      exact Bool.false_ne_true (hx.symm.trans hc)
    refine .attempt (c := e) (by rw [hp e hec, hc]) (fun d hd => hother d (ha d hd))
      (hs.trans hs') ?_
    rw [hp e hec]
    exact hf.keeps hk
  | done ha hs' hi' hp' hl =>
    exact .done (fun d => hother d (ha d)) (hs.trans hs') (hi hi') (hpub ▸ hp') (hst ▸ hl)

/-- A step that changes no more than a point and an outcome. -/
lemma Keeps.ends {o : Outcome} : Keeps s (s.ends c o) :=
  ⟨fun _ _ _ h => { h with }, fun _ h => { h with }, fun h => { h with }, fun _ _ h => h,
    fun _ => rfl⟩

/-- Going on keeps the rest. -/
lemma Keeps.goto : Keeps s (s.goto c x) :=
  ⟨fun _ _ _ h => { h with }, fun _ h => { h with }, fun h => { h with }, fun _ _ h => h,
    fun _ => rfl⟩

omit [DecidableEq T] in
/-- The thread of a worker takes a step. -/
lemma Keeps.work {p : ProcesserId} {g : ℕ → Gate} {y : Stage} (hp : ¬ (s.stage p).Gone) :
    Keeps s ({ s with gates := g }.setStage p y) := by
  refine ⟨fun m x left h => { h with gone := fun q hq => ?_ }, fun _ h => { h with },
    fun h => { h with }, fun _ _ h => h, fun _ => rfl⟩
  have hqp : q ≠ p := by
    rintro rfl
    exact hp (h.gone q hq)
  change (Function.update s.stage p y q).Gone
  rw [Function.update_of_ne hqp]
  exact h.gone q hq

omit [DecidableEq T] in
/-- What happens once the runtime is initialised. -/
lemma Keeps.change (hi : s.initialized = true) (ht : t.initialized = true)
    (hp : t.published = s.published) (hst : t.started = s.started) : Keeps s t := by
  refine ⟨fun _ _ _ h => ?_, fun _ h => ?_, fun h => ⟨ht, by rw [hp]; exact h.published,
    by rw [hst]; exact h.started⟩, fun _ h => ?_, fun h => ?_⟩
  · exact absurd (h.initialized.symm.trans hi) Bool.false_ne_true
  · exact absurd (h.initialized.symm.trans hi) Bool.false_ne_true
  · exact absurd (h.symm.trans hi) Bool.false_ne_true
  · exact absurd (h.symm.trans hi) Bool.false_ne_true

/-! ## Steps of the attempt -/

/-- The attempt goes on. -/
lemma Inv.goto (ha : ∀ d, d ≠ c → (s.pc d).attempt = false) (hp : r.pc = s.pc)
    (hx : x.attempt = true) (hs : r.startState = .starting) (hf : Fits r c x) :
    Inv (r.goto c x) := by
  have hself : (r.goto c x).pc c = x := Function.update_self ..
  refine .attempt (c := c) (by rw [hself, hx]) (fun d hd => ?_) hs ?_
  · change (Function.update r.pc c x d).attempt = false
    rw [Function.update_of_ne hd, hp]
    exact ha d hd
  · rw [hself]
    exact hf.keeps .goto

/-- The attempt is over. -/
lemma attempt_goto_false (ha : ∀ d, d ≠ c → (s.pc d).attempt = false) (hp : r.pc = s.pc)
    (hx : x.attempt = false) (d : T) : ((r.goto c x).pc d).attempt = false := by
  change (Function.update r.pc c x d).attempt = false
  by_cases hd : d = c
  · subst hd
    rw [Function.update_self, hx]
  · rw [Function.update_of_ne hd, hp]
    exact ha d hd

/-- Only the thread option has a scheduler thread. -/
lemma StartOpt.sche_of_ne {opt : StartOpt} (h : opt ≠ .scheThread) : opt.sche = .null := by
  cases opt with
  | scheThread => exact absurd rfl h
  | _ => rfl

section

omit [DecidableEq T]

/-- A processer is created. -/
lemma Bare.createProcesser {m : Option T} {y : ScheThread} {left : List ProcesserId}
    (h : Bare s m y left) : Bare s.createProcesser m y (s.nextId :: left) := by
  refine { h with gone := fun q hq => ?_ }
  have hne : q ≠ s.nextId := fun hq' => hq (hq' ▸ List.mem_cons_self)
  change (Function.update s.stage s.nextId _ q).Gone
  rw [Function.update_of_ne hne]
  exact h.gone q fun hq' => hq (List.mem_cons_of_mem _ hq')

/-- The first of the remaining workers is gone. -/
lemma Bare.setStage {m : Option T} {y : ScheThread} {left : List ProcesserId} {p : ProcesserId}
    {z : Stage} (h : Bare s m y (p :: left)) (hz : z.Gone) : Bare (s.setStage p z) m y left := by
  refine { h with gone := fun q hq => ?_ }
  change (Function.update s.stage p z q).Gone
  by_cases hqp : q = p
  · subst hqp
    rw [Function.update_self]
    exact hz
  · rw [Function.update_of_ne hqp]
    refine h.gone q fun hq' => ?_
    rcases List.mem_cons.mp hq' with rfl | hq'
    · exact hqp rfl
    · exact hq hq'

/-- A worker that is among those left goes on. -/
lemma Bare.stage_of_mem {m : Option T} {y : ScheThread} {left left' : List ProcesserId}
    {p : ProcesserId} {z : Stage} (h : Bare s m y left) (hl : ∀ q, q ∈ left → q ∈ left')
    (hp : p ∈ left') : Bare (s.setStage p z) m y left' := by
  refine { h with gone := fun q hq => ?_ }
  have hqp : q ≠ p := by
    rintro rfl
    exact hq hp
  change (Function.update s.stage p z q).Gone
  rw [Function.update_of_ne hqp]
  exact h.gone q fun hq' => hq (hl q hq')

/-- The batch is published. -/
lemma Bare.publish {m : Option T} {y : ScheThread} {left records : List ProcesserId}
    (h : Bare s m y left) (hn : records.Nodup) : Full (s.publish records) records where
  initialized := h.initialized
  activeSnapshot := by rw [State.publish, h.activeSnapshot, List.nil_append]
  processerMap := by rw [State.publish, h.processerMap, Finset.empty_union]
  workers := by rw [State.publish, h.workers, List.nil_append]
  nodup := hn
  published := by rw [State.publish, h.published]
  started := h.started

end

/-- Each step of an attempt goes on with it, gives it up and leaves nothing, or ends it. -/
lemma Inv.step {fault : Bool} (hc : (s.pc c).attempt = true)
    (ha : ∀ d, d ≠ c → (s.pc d).attempt = false) (hs : s.startState = .starting)
    (hf : Fits s c (s.pc c)) (h : s.step c fault = some t) : Inv t := by
  unfold State.step at h
  cases hpc : s.pc c <;> rw [hpc] at hc hf <;> simp only [hpc] at h
  case idle | claim | looping => cases hc
  case instances =>
    split at h <;> cases h <;> exact .goto ha rfl rfl hs hf
  case init opt b =>
    have hb : Bare { s with scheThread := .null } none .null [] := { hf with scheThread := rfl }
    split at h <;> cases h
    · exact .goto ha rfl rfl hs hb
    · have hb' : Bare (State.init { s with scheThread := .null } b) none .null [] :=
        { hb with activeSnapshot := rfl, processerMap := rfl, workers := rfl }
      split
      · exact .goto ha rfl rfl hs hb'
      · rename_i ho
        refine .goto ha rfl rfl hs ?_
        rw [Fits, StartOpt.sche_of_ne ho]
        exact hb'
  case spawn b =>
    split at h <;> cases h
    · exact .goto ha rfl rfl hs hf
    · exact .goto ha rfl rfl hs { hf with scheThread := rfl }
  case lock opt b =>
    split at h <;> cases h
    exact .goto ha rfl rfl hs { hf with lifecycleMutex := rfl }
  case prepare opt b =>
    split at h
    · cases h
      rename_i hn
      refine .goto ha rfl rfl hs ⟨[], ⟨hf.initialized, hf.activeSnapshot, hf.processerMap,
        hf.workers, .nil, ?_, hf.started⟩, hn.symm, by simp⟩
      rw [hf.published]
      exact Nat.zero_le 1
    · split at h <;> cases h
      · exact .goto ha rfl rfl hs hf
      · exact .goto ha rfl rfl hs ⟨{ hf with }, .nil, by simp, Nat.zero_le _⟩
  case create b =>
    obtain ⟨hb, hn, hlt, hl⟩ := hf
    cases h
    rw [State.create]
    split
    · exact .goto ha rfl rfl hs ⟨hb, hn, ‹_›⟩
    · split
      · exact .goto ha rfl rfl hs hb
      · have hnew : s.nextId ∉ b.records := fun hm => absurd (hlt _ hm) (Nat.lt_irrefl _)
        refine .goto ha rfl rfl hs ⟨hb.createProcesser, ?_, fun q hq => ?_, by omega⟩
        · exact List.nodup_append_comm.mp (List.nodup_cons.mpr ⟨hnew, hn⟩)
        · change q < s.nextId + 1
          rcases List.mem_append.mp hq with hq | hq
          · exact Nat.lt_succ_of_lt (hlt q hq)
          · rw [List.mem_singleton.mp hq]
            exact Nat.lt_succ_self _
  case thread b p =>
    obtain ⟨hb, hn, hlt, hl⟩ := hf
    cases h
    rw [State.thread]
    split
    · exact .goto ha rfl rfl hs (hb.setStage (.inr (.inr rfl)))
    · refine .goto ha rfl rfl hs ⟨?_, hn, hlt, ?_⟩
      · refine Bare.stage_of_mem { hb with } (fun q (hq : q ∈ p :: b.records) => ?_) (by simp)
        rcases List.mem_cons.mp hq with rfl | hq
        · simp
        · simp [hq]
      · rw [List.length_append]
        exact hl
  case ready b =>
    split at h <;> cases h
    split
    · exact .goto ha rfl rfl hs hf.1
    · exact .goto ha rfl rfl hs hf
  case publish b =>
    split at h <;> cases h
    · exact .goto ha rfl rfl hs hf.1
    · exact .goto ha rfl rfl hs ⟨hf.1.publish hf.2.1, hf.2.2, fun p hp => .inl hp⟩
  case activate b todo =>
    obtain ⟨hF, hl, hact⟩ := hf
    cases todo with
    | nil =>
      cases h
      exact .goto ha rfl rfl hs ⟨hF, hl, fun p hp => (hact p hp).resolve_left (by simp)⟩
    | cons q todo =>
      cases h
      refine .goto ha rfl rfl hs ⟨{ hF with }, hl, fun p hp => ?_⟩
      by_cases hpq : p = q
      · subst hpq
        exact .inr ⟨Function.update_self .., Function.update_self ..⟩
      · refine (hact p hp).imp (fun hm => (List.mem_cons.mp hm).resolve_left hpq) fun hA => ?_
        change Function.update s.lifecycle q _ p = _ ∧ Function.update s.admissionOpen q _ p = _
        rw [Function.update_of_ne hpq, Function.update_of_ne hpq]
        exact hA
  case startGate b =>
    cases h
    exact .goto ha rfl rfl hs ⟨b.records, { hf.1 with }, hf.2.1, hf.2.2⟩
  case target opt b =>
    cases h
    obtain ⟨records, hF, hl, hact⟩ := hf
    exact .goto ha rfl rfl hs ⟨records, { hF with }, hl, hact⟩
  case publishInitialized opt b =>
    cases h
    obtain ⟨records, hF, -, -⟩ := hf
    exact .goto ha rfl rfl hs ⟨rfl, hF.published, hF.started⟩
  case report opt =>
    cases h
    have hlen : (s.started ++ [c]).length = 1 := by
      rw [hf.started]
      rfl
    cases opt with
    | scheLoop =>
      exact .done (attempt_goto_false ha rfl rfl) hs hf.initialized hf.published hlen
    | _ => exact .done (attempt_goto_false ha rfl rfl) hs hf.initialized hf.published hlen
  case unlock b =>
    cases h
    exact .goto ha rfl rfl hs { hf with lifecycleMutex := rfl }
  case cancel b =>
    cases h
    exact .goto ha rfl rfl hs { hf with }
  case join opt todo =>
    cases todo with
    | nil =>
      cases h
      exact .goto ha rfl rfl hs hf
    | cons p todo =>
      simp only at h
      split at h <;> cases h
      exact .goto ha rfl rfl hs (hf.setStage (.inr (.inl rfl)))
  case relock opt =>
    split at h <;> cases h
    exact .goto ha rfl rfl hs { hf with lifecycleMutex := rfl }
  case fail opt =>
    cases h
    cases opt with
    | scheThread => exact .goto ha rfl rfl hs { hf with lifecycleMutex := rfl, scheThread := rfl }
    | _ => exact .goto ha rfl rfl hs { hf with lifecycleMutex := rfl }
  case joinSche =>
    cases h
    exact .goto ha rfl rfl hs { hf with scheThread := rfl }
  case revert =>
    cases h
    exact .rest (attempt_goto_false ha rfl rfl) rfl { hf with }

/-! ## Every run -/

/-- A thread that has ended its attempt makes none. -/
lemma attempt_goto_self (hx : x.attempt = false) : ((s.goto c x).pc c).attempt = false := by
  have hself : (s.goto c x).pc c = x := Function.update_self ..
  rw [hself, hx]

/-- A call that makes no attempt ends, or goes on to the look at the state. -/
lemma Inv.call (hI : Inv s) {opt : StartOpt} {cfg : Config} (hc : s.pc c = .idle) :
    Inv (call s c opt cfg) := by
  have hx : (s.pc c).attempt = false := by rw [hc]; rfl
  unfold Start.call
  split
  · exact hI.keeps .ends hx (attempt_goto_self rfl) (fun d hd => Function.update_of_ne hd ..) rfl id
      rfl rfl
  · exact hI.keeps .goto hx (attempt_goto_self rfl) (fun d hd => Function.update_of_ne hd ..) rfl id
      rfl rfl

/-- The look at `m_start_state` begins the only attempt, or ends the call. -/
lemma Inv.claim (hI : Inv s) {opt : StartOpt} {b : Config.Bounds} {fault : Bool}
    (hc : s.pc c = .claim opt b) (h : s.step c fault = some t) : Inv t := by
  have hx : (s.pc c).attempt = false := by rw [hc]; rfl
  unfold State.step at h
  simp only [hc] at h
  split at h <;> cases h
  · rename_i hs
    cases hI with
    | rest ha hs' hb => exact .goto (fun d _ => ha d) rfl rfl rfl { hb with }
    | attempt hc' ha hs' hf =>
      rw [hs] at hs'
      cases hs'
    | done ha hs' =>
      rw [hs] at hs'
      cases hs'
  · exact hI.keeps .ends hx (attempt_goto_self rfl) (fun d hd => Function.update_of_ne hd ..) rfl id
      rfl rfl

omit [DecidableEq T] in
/-- The thread of a worker goes on. -/
lemma Inv.work (hI : Inv s) {p : ProcesserId} {fault : Bool} (h : s.work p fault = some t) :
    Inv t := by
  have hkeeps : ∀ {g : ℕ → Gate} {y : Stage}, ¬ (s.stage p).Gone →
      Inv ({ s with gates := g }.setStage p y) := by
    intro g y hp
    have hk := Keeps.work (s := s) (g := g) (y := y) hp
    cases hI with
    | rest ha hs hb => exact .rest ha hs (hk.bare _ _ _ hb)
    | attempt hc ha hs hf => exact .attempt hc ha hs (hf.keeps hk)
    | done ha hs hi hpub hl => exact .done ha hs hi hpub hl
  unfold State.work at h
  dsimp only at h
  split at h
  · rename_i hp
    cases h
    exact hkeeps (by simp [Stage.Gone, hp])
  · rename_i hp
    have hgone : ¬ (s.stage p).Gone := by simp [Stage.Gone, hp]
    split at h
    · cases h
      exact hkeeps hgone
    · split at h <;> cases h
      exact hkeeps hgone
  · cases h

omit [DecidableEq T] in
/-- The worker set changes after the start. -/
lemma Inv.change (hI : Inv s) (hi : s.initialized = true) (ht : t.initialized = true)
    (hp : t.published = s.published) (hst : t.started = s.started) (hpc : t.pc = s.pc)
    (hs' : t.startState = s.startState) : Inv t := by
  have hk : Keeps s t := .change hi ht hp hst
  cases hI with
  | rest ha hs hb => exact absurd (hb.initialized.symm.trans hi) Bool.false_ne_true
  | attempt hc ha hs hf =>
    refine .attempt (by rw [hpc]; exact hc) (by rw [hpc]; exact ha) (hs'.trans hs) ?_
    rw [hpc]
    exact hf.keeps hk
  | done ha hs _ hpub hl =>
    exact .done (by rw [hpc]; exact ha) (hs'.trans hs) ht (hp ▸ hpub) (hst ▸ hl)

/-- The step lemma of `Start`. -/
lemma Inv.next {l : Label T} (hI : Inv s) (h : next s l = some t) : Inv t := by
  cases l with
  | call c opt cfg =>
    cases hc : s.pc c <;> simp only [Start.next, hc] at h <;> cases h
    exact hI.call hc
  | step c fault =>
    change s.step c fault = some t at h
    by_cases hx : (s.pc c).attempt = true
    · cases hI with
      | rest ha => exact absurd ((ha c).symm.trans hx) Bool.false_ne_true
      | @attempt d hd ha hs hf =>
        have hcd : c = d := by
          by_contra hcd
          exact Bool.false_ne_true ((ha c hcd).symm.trans hx)
        subst hcd
        exact Inv.step hd ha hs hf h
      | done ha => exact absurd ((ha c).symm.trans hx) Bool.false_ne_true
    · cases hc : s.pc c <;> rw [hc] at hx
      case claim => exact hI.claim hc h
      case idle =>
        unfold State.step at h
        simp only [hc] at h
        cases h
      case looping =>
        unfold State.step at h
        simp only [hc] at h
        cases h
      all_goals exact absurd rfl hx
  | work p fault => exact hI.work h
  | change x =>
    rw [Start.next] at h
    split at h <;> cases h
    rename_i hi
    exact hI.change hi hi rfl rfl rfl rfl

/-- The invariant holds in every reachable state. -/
lemma inv_of_reachable (h : (system T).Reachable s) : Inv s := by
  refine h.induct (I := Inv) (fun s₀ hs => ?_) fun s₁ s₂ l hI hs => hI.next hs
  rw [hs]
  exact .rest (fun _ => rfl) rfl ⟨rfl, rfl, rfl, rfl, rfl, rfl, fun _ _ => .inl rfl, rfl, rfl⟩

end BbtCoroutine.Start
