import BbtCoroutine.Start.Invariant

/-!
# The start is atomic

What holds of the start in every run (`Atomic`).  That a later `Start` can succeed is shown by
the run in which nothing fails: the attempt creates one worker after the other, the threads
come to the gate, the batch is published and activated.
-/

namespace BbtCoroutine.Start

open Transition Scheduler

variable {T : Type*} [DecidableEq T] {s t : State T} {c : T}

/-! ## The run in which nothing fails -/

/-- The steps of the call of the thread `c` and of the workers in which nothing fails. -/
def Label.Quiet (c : T) : Label T → Prop
  | .call d _ _ => d = c
  | .step d fault => d = c ∧ fault = false
  | .work _ fault => fault = false
  | .change _ => False

/-- A run of such steps. -/
def Path (c : T) : State T → State T → Prop :=
  (system T).PathWhen fun _ l => l.Quiet c

/-- A path with one more step of the code. -/
lemma Path.step {u : State T} (h : Path c s t) (hs : t.step c false = some u) : Path c s u :=
  h.tail ⟨.step c false, ⟨rfl, rfl⟩, hs⟩

/-- Two paths in sequence. -/
lemma Path.trans {u : State T} (h : Path c s t) (h' : Path c t u) : Path c s u :=
  Relation.ReflTransGen.trans h h'

/-- A path with one more step of a worker. -/
lemma Path.work {u : State T} {p : ProcesserId} (h : Path c s t)
    (hs : t.work p false = some u) : Path c s u :=
  h.tail ⟨.work p false, rfl, hs⟩

@[simp]
lemma pc_goto {x : Pc} : (s.goto c x).pc c = x :=
  Function.update_self ..

/-- The workers that an attempt has created wait to be taken to the gate. -/
structure Creating (s : State T) (c : T) (b : Batch) : Prop where
  pc : s.pc c = .create b
  gate : s.gates b.gate = {}
  nodup : b.records.Nodup
  stage : ∀ p ∈ b.records, s.stage p = .starting ∧ s.gateOf p = b.gate ∧ p < s.nextId

/-- A worker is created. -/
lemma Creating.step {b : Batch} (h : Creating s c b) (hl : b.records.length < b.need) :
    ∃ t, Path c s t ∧ Creating t c { b with records := b.records ++ [s.nextId] } := by
  have hcreate : s.step c false = some (s.createProcesser.goto c (.thread b s.nextId)) := by
    simp [State.step, h.pc, State.create, Nat.ne_of_lt hl]
  set s₁ := s.createProcesser.goto c (.thread b s.nextId) with hs₁
  have hthread : s₁.step c false = some (s₁.thread c b s.nextId false) := by
    rw [State.step, hs₁, pc_goto]
  refine ⟨_, (Path.step .refl hcreate).step hthread, ⟨pc_goto, h.gate, ?_, fun p hp => ?_⟩⟩
  · refine List.nodup_append_comm.mp (List.nodup_cons.mpr ⟨fun hm => ?_, h.nodup⟩)
    exact Nat.lt_irrefl _ (h.stage _ hm).2.2
  · change Function.update (Function.update s.stage s.nextId _) s.nextId _ p = _ ∧
      Function.update s.gateOf s.nextId b.gate p = b.gate ∧ p < s.nextId + 1
    rcases List.mem_append.mp hp with hp | hp
    · obtain ⟨hst, hg, hlt⟩ := h.stage p hp
      have hne : p ≠ s.nextId := Nat.ne_of_lt hlt
      rw [Function.update_of_ne hne, Function.update_of_ne hne, Function.update_of_ne hne]
      exact ⟨hst, hg, Nat.lt_succ_of_lt hlt⟩
    · rw [List.mem_singleton.mp hp, Function.update_self, Function.update_self]
      exact ⟨rfl, rfl, Nat.lt_succ_self _⟩

/-- All workers are created. -/
lemma Creating.all {b : Batch} (k : ℕ) (h : Creating s c b) (hk : b.records.length + k = b.need) :
    ∃ t records, Path c s t ∧ Creating t c { b with records := records } ∧
      records.length = b.need := by
  induction k generalizing s b with
  | zero => exact ⟨s, b.records, .refl, h, hk⟩
  | succ k ih =>
    obtain ⟨u, hu, hC⟩ := h.step (by omega)
    obtain ⟨t, records, ht, hC', hl⟩ := ih hC (by
      change (b.records ++ [s.nextId]).length + k = b.need
      rw [List.length_append, List.length_singleton]
      omega)
    exact ⟨t, records, hu.trans ht, hC', hl⟩

/-- The threads come to the gate. -/
lemma path_ready {b : Batch} (todo : List ProcesserId) (k : ℕ) (hpc : s.pc c = .ready b)
    (hg : s.gates b.gate = { readyNum := k }) (hn : todo.Nodup)
    (hst : ∀ p ∈ todo, s.stage p = .starting ∧ s.gateOf p = b.gate) :
    ∃ t, Path c s t ∧ t.pc c = .ready b ∧
      t.gates b.gate = { readyNum := k + todo.length } := by
  induction todo generalizing s k with
  | nil => exact ⟨s, .refl, hpc, hg⟩
  | cons p todo ih =>
    obtain ⟨hp, hgp⟩ := hst p List.mem_cons_self
    obtain ⟨hnp, hn'⟩ := List.nodup_cons.mp hn
    have hwork : s.work p false =
        some ((s.setGate b.gate { readyNum := k + 1 }).setStage p .waiting) := by
      simp [State.work, hp, hgp, hg]
    set u := (s.setGate b.gate { readyNum := k + 1 }).setStage p .waiting with hu
    have hst' : ∀ q ∈ todo, u.stage q = .starting ∧ u.gateOf q = b.gate := by
      intro q hq
      have hqp : q ≠ p := by
        rintro rfl
        exact hnp hq
      change Function.update s.stage p _ q = _ ∧ _
      rw [Function.update_of_ne hqp]
      exact hst q (List.mem_cons_of_mem _ hq)
    obtain ⟨t, ht, hpc', hg'⟩ := ih (s := u) (k + 1) hpc (Function.update_self ..) hn' hst'
    refine ⟨t, (Path.work .refl hwork).trans ht, hpc', ?_⟩
    rw [hg', List.length_cons, Nat.add_assoc, Nat.add_comm 1]

/-- The workers are activated. -/
lemma path_activate {b : Batch} (todo : List ProcesserId) (hpc : s.pc c = .activate b todo) :
    ∃ t, Path c s t ∧ t.pc c = .startGate b := by
  induction todo generalizing s with
  | nil =>
    have hstep : s.step c false = some (s.goto c (.startGate b)) := by
      rw [State.step, hpc]
    exact ⟨_, Path.step .refl hstep, pc_goto⟩
  | cons p todo ih =>
    have hstep : s.step c false = some ((s.activate p).goto c (.activate b todo)) := by
      rw [State.step, hpc]
    obtain ⟨t, ht, hpc'⟩ := ih (s := (s.activate p).goto c (.activate b todo)) pc_goto
    exact ⟨t, (Path.step .refl hstep).trans ht, hpc'⟩

/-- A call claims the start and initialises. -/
lemma path_init (opt : StartOpt) {cfg : Config} {b : Config.Bounds}
    (hs : s.startState = .notStarted) (hm : s.lifecycleMutex = none) (hc : s.pc c = .idle)
    (hb : cfg.resolveProcesserScalingBounds = some b) :
    ∃ t, Path c s t ∧ t.pc c = .init opt b ∧ t.lifecycleMutex = none := by
  have hcall : Path c s (s.goto c (.claim opt b)) := by
    refine .single ⟨.call c opt cfg, rfl, ?_⟩
    simp [system, next, hc, call, hb]
  have hclaim : (s.goto c (.claim opt b)).step c false = some
      ({ s.goto c (.claim opt b) with startState := .starting }.goto c (.instances opt b)) := by
    simp [State.step, State.goto, hs]
  set u := { s.goto c (.claim opt b) with startState := .starting }.goto c (.instances opt b)
    with hu
  have hinst : u.step c false = some (u.goto c (.init opt b)) := by
    simp [State.step, hu]
  exact ⟨_, (hcall.step hclaim).step hinst, pc_goto, hm⟩

/-- An attempt gets to `_CreateProcessers`, on its own thread or on the scheduler thread. -/
lemma path_lock {opt : StartOpt} {b : Config.Bounds} (hc : s.pc c = .init opt b)
    (hm : s.lifecycleMutex = none) :
    ∃ t, Path c s t ∧ t.pc c = .lock opt b ∧ t.lifecycleMutex = none := by
  set u := State.init { s with scheThread := .null } b with hu
  by_cases ho : opt = .scheThread
  · subst ho
    have hinit : s.step c false = some (u.goto c (.spawn b)) := by
      simp [State.step, hc, hu]
    have hspawn : (u.goto c (.spawn b)).step c false = some
        ({ u.goto c (.spawn b) with scheThread := .creating }.goto c (.lock .scheThread b)) := by
      simp [State.step]
    exact ⟨_, (Path.step .refl hinit).step hspawn, pc_goto, hm⟩
  · have hinit : s.step c false = some (u.goto c (.lock opt b)) := by
      simp [State.step, hc, hu, ho]
    exact ⟨_, .step .refl hinit, pc_goto, hm⟩

/-- A batch whose threads are all at the gate is published and started. -/
lemma path_publish {b : Batch} (hc : s.pc c = .ready b)
    (hg : s.gates b.gate = { readyNum := b.need }) :
    ∃ t, Path c s t ∧ t.pc c = .target b.opt b.bounds := by
  have hready : s.step c false = some (s.goto c (.publish b)) := by
    simp [State.step, hc, hg]
  have hpub : (s.goto c (.publish b)).step c false = some
      (((s.goto c (.publish b)).publish b.records).goto c (.activate b b.records)) := by
    simp [State.step]
  obtain ⟨t, ht, hpc⟩ := path_activate (s := ((s.goto c (.publish b)).publish b.records).goto c
    (.activate b b.records)) b.records pc_goto
  have hgate : t.step c false = some ((t.setGate b.gate { t.gates b.gate with
      started := true }).goto c (.target b.opt b.bounds)) := by
    simp [State.step, hpc]
  exact ⟨_, (((Path.step .refl hready).step hpub).trans ht).step hgate, pc_goto⟩

/-- An attempt creates its workers and publishes them. -/
lemma path_target {opt : StartOpt} {b : Config.Bounds} (hc : s.pc c = .prepare opt b) :
    ∃ t, Path c s t ∧ t.pc c = .target opt b := by
  by_cases hn : b.initialNum = 0
  · have hstep : s.step c false = some (s.goto c (.target opt b)) := by
      simp [State.step, hc, hn]
    exact ⟨_, .step .refl hstep, pc_goto⟩
  · let x : Batch := { opt, bounds := b, gate := s.nextGate }
    have hstep : s.step c false = some
        (({ s with nextGate := s.nextGate + 1 }.setGate s.nextGate {}).goto c (.create x)) := by
      simp [State.step, hc, hn, x]
    obtain ⟨t, records, ht, hC, hl⟩ := Creating.all (s := ({ s with
      nextGate := s.nextGate + 1 }.setGate s.nextGate {}).goto c (.create x)) (b := x) x.need
      ⟨pc_goto, Function.update_self .., .nil, by simp [x]⟩ (by simp [x])
    have hcreate : t.step c false = some (t.goto c (.ready { x with records })) := by
      have hl' : records.length = Batch.need { x with records := records } := hl
      simp [State.step, hC.pc, State.create, hl']
    obtain ⟨u, hu, hpc, hg⟩ := path_ready (s := t.goto c (.ready { x with records })) records 0
      pc_goto hC.gate hC.nodup fun p hp => ⟨(hC.stage p hp).1, (hC.stage p hp).2.1⟩
    rw [Nat.zero_add, hl] at hg
    obtain ⟨v, hv, hpc'⟩ := path_publish hpc hg
    exact ⟨v, ((((Path.step .refl hstep).trans ht).step hcreate).trans hu).trans hv, hpc'⟩

/-- A call that claims the start, and in which nothing fails, comes to the end of it. -/
lemma path_publishInitialized (opt : StartOpt) {cfg : Config} {b : Config.Bounds}
    (hs : s.startState = .notStarted) (hm : s.lifecycleMutex = none) (hc : s.pc c = .idle)
    (hb : cfg.resolveProcesserScalingBounds = some b) :
    ∃ t, Path c s t ∧ t.pc c = .publishInitialized opt b := by
  obtain ⟨s₁, h₁, hc₁, hm₁⟩ := path_init opt hs hm hc hb
  obtain ⟨s₂, h₂, hc₂, hm₂⟩ := path_lock hc₁ hm₁
  have hlock : s₂.step c false = some
      ({ s₂ with lifecycleMutex := some c }.goto c (.prepare opt b)) := by
    simp [State.step, hc₂, hm₂]
  obtain ⟨s₃, h₃, hc₃⟩ := path_target (s := { s₂ with lifecycleMutex := some c }.goto c
    (.prepare opt b)) pc_goto
  have htarget : s₃.step c false = some ({ s₃ with
      targetNum := b.initialNum, lifecycleMutex := none }.goto c (.publishInitialized opt b)) := by
    simp [State.step, hc₃]
  exact ⟨_, (((h₁.trans h₂).step hlock).trans h₃).step htarget, pc_goto⟩

/-! ## The statement -/

/-- Nothing is left of the attempts so far. -/
structure Clean (s : State T) : Prop where
  initialized : s.initialized = false
  activeSnapshot : s.activeSnapshot = []
  processerMap : s.processerMap = ∅
  workers : s.workers = []
  scheThread : s.scheThread = .null
  /-- Each worker that was created has been joined or dropped. -/
  gone : ∀ p, (s.stage p).Gone

/-- The start of the runtime is atomic. -/
structure Atomic (s : State T) : Prop where
  /-- At most one batch is published, and one caller is told of a start. -/
  once : s.published ≤ 1 ∧ s.started.length ≤ 1
  /-- A failed attempt leaves nothing behind, and the start can be tried again. -/
  fails : ∀ c fault t, s.step c fault = some t → t.pc c = .idle → t.outcome c = some .failed →
    t.startState = .notStarted ∧ Clean t
  clean : s.startState = .notStarted → Clean s
  /-- A later call succeeds if nothing fails. -/
  retry : s.startState = .notStarted → ∀ c, s.pc c = .idle → ∀ (_ : StartOpt) (cfg : Config) b,
    cfg.resolveProcesserScalingBounds = some b → ∃ t, Path c s t ∧ t.initialized = true ∧
      t.started = [c] ∧ t.activeSnapshot.length = b.initialNum
  /-- The runtime becomes initialised when the workers are published and active, in the number
  that the attempt was to create. -/
  visible : ∀ l t, next s l = some t → s.initialized = false → t.initialized = true →
    ∃ c opt b, s.pc c = .publishInitialized opt b ∧ t.activeSnapshot.length = b.initialNum ∧
      t.activeSnapshot.Nodup ∧ t.processerMap = t.activeSnapshot.toFinset ∧
        t.workers = t.activeSnapshot ∧ ∀ p ∈ t.activeSnapshot, Active t p

/-! ## Proof -/

/-- A step that ends a call with a failure puts `m_start_state` back. -/
lemma notStarted_of_failed {fault : Bool} (h : s.step c fault = some t) (hi : t.pc c = .idle)
    (ho : t.outcome c = some .failed) : t.startState = .notStarted := by
  have hne : ∀ {r : State T} {x : Pc}, x ≠ .idle → (r.goto c x).pc c ≠ .idle := by
    intro r x hx
    rwa [pc_goto]
  unfold State.step at h
  cases hpc : s.pc c <;> simp only [hpc] at h
  case idle | looping => cases h
  case claim =>
    split at h <;> cases h
    · exact absurd hi (hne (by simp))
    · simp [State.ends, State.goto] at ho
  case init =>
    split at h <;> cases h
    · exact absurd hi (hne (by simp))
    · exact absurd hi (hne (by split <;> simp))
  case create =>
    cases h
    unfold State.create at hi
    split at hi
    · exact absurd hi (hne (by simp))
    · split at hi <;> exact absurd hi (hne (by simp))
  case thread =>
    cases h
    unfold State.thread at hi
    split at hi <;> exact absurd hi (hne (by simp))
  case ready =>
    split at h <;> cases h
    exact absurd hi (hne (by split <;> simp))
  case activate b todo =>
    cases todo <;> cases h <;> exact absurd hi (hne (by simp))
  case report opt =>
    cases h
    cases opt with
    | scheLoop => exact absurd hi (hne (by simp))
    | _ => simp [State.report, State.ends, State.goto] at ho
  case join opt todo =>
    cases todo with
    | nil =>
      cases h
      exact absurd hi (hne (by simp))
    | cons p todo =>
      simp only at h
      split at h <;> cases h
      exact absurd hi (hne (by simp))
  case fail opt =>
    cases h
    cases opt <;> exact absurd hi (hne (by simp))
  case revert =>
    cases h
    rfl
  case prepare =>
    split at h
    · cases h
      exact absurd hi (hne (by simp))
    · split at h <;> cases h <;> exact absurd hi (hne (by simp))
  case instances | spawn | lock | publish | relock =>
    split at h <;> cases h <;> exact absurd hi (hne (by simp))
  all_goals
    cases h
    exact absurd hi (hne (by simp))

/-- Only one step makes the runtime initialised. -/
lemma initialized_or {l : Label T} (h : next s l = some t) (hs : s.initialized = false)
    (ht : t.initialized = true) : ∃ c opt b, s.pc c = .publishInitialized opt b ∧
      t = { s with initialized := true }.goto c (.report opt) := by
  have hsame : t.initialized ≠ s.initialized := by
    rw [hs, ht]
    simp
  cases l with
  | call c opt cfg =>
    refine absurd ?_ hsame
    cases hc : s.pc c <;> simp only [next, hc] at h <;> cases h
    unfold call
    split <;> rfl
  | step c fault =>
    change s.step c fault = some t at h
    unfold State.step at h
    cases hpc : s.pc c <;> simp only [hpc] at h
    case idle | looping => cases h
    case publishInitialized opt b =>
      cases h
      exact ⟨c, opt, b, hpc, rfl⟩
    case create b =>
      cases h
      refine absurd ?_ hsame
      unfold State.create
      split
      · rfl
      · split <;> rfl
    case thread b p =>
      cases h
      refine absurd ?_ hsame
      unfold State.thread
      split <;> rfl
    case prepare =>
      refine absurd ?_ hsame
      split at h
      · cases h
        rfl
      · split at h <;> cases h <;> rfl
    case activate b todo => cases todo <;> cases h <;> exact absurd rfl hsame
    case report opt => cases opt <;> cases h <;> exact absurd rfl hsame
    case fail opt => cases opt <;> cases h <;> exact absurd rfl hsame
    case join opt todo =>
      cases todo with
      | nil =>
        cases h
        exact absurd rfl hsame
      | cons p todo =>
        simp only at h
        split at h <;> cases h
        exact absurd rfl hsame
    case claim | instances | init | spawn | lock | ready | publish | relock =>
      split at h <;> cases h <;> exact absurd rfl hsame
    all_goals
      cases h
      exact absurd rfl hsame
  | work p fault =>
    refine absurd ?_ hsame
    change s.work p fault = some t at h
    unfold State.work at h
    dsimp only at h
    split at h
    · cases h
      rfl
    · split at h
      · cases h
        rfl
      · split at h <;> cases h
        rfl
    · cases h
  | change x =>
    rw [next, hs] at h
    cases h

section

omit [DecidableEq T]

/-- An attempt has published once at most, and has started nothing. -/
lemma Fits.once {x : Pc} (hx : x.attempt = true) (h : Fits s c x) :
    s.published ≤ 1 ∧ s.started = [] := by
  have hbare : ∀ {m y left}, Bare s m y left → s.published ≤ 1 ∧ s.started = [] := by
    intro m y left hb
    rw [hb.published]
    exact ⟨Nat.zero_le 1, hb.started⟩
  cases x with
  | idle | claim | looping => cases hx
  | create | thread | ready | publish => exact hbare h.1
  | activate | startGate => exact ⟨h.1.published, h.1.started⟩
  | target | publishInitialized =>
    obtain ⟨records, hF, -⟩ := h
    exact ⟨hF.published, hF.started⟩
  | report => exact ⟨h.published, h.started⟩
  | _ => exact hbare h

/-- Between the attempts nothing is left behind. -/
lemma Inv.clean (hI : Inv s) (hs : s.startState = .notStarted) :
    Bare s none .null [] ∧ ∀ d, (s.pc d).attempt = false := by
  cases hI with
  | rest ha _ hb => exact ⟨hb, ha⟩
  | attempt _ _ hs' =>
    rw [hs] at hs'
    cases hs'
  | done _ hs' =>
    rw [hs] at hs'
    cases hs'

/-- A bare state is clean. -/
lemma Bare.clean (h : Bare s none .null []) : Clean s :=
  ⟨h.initialized, h.activeSnapshot, h.processerMap, h.workers, h.scheThread,
    fun p => h.gone p List.not_mem_nil⟩

end

/-- What is published when an attempt is about to tell that the runtime is initialised. -/
lemma Inv.published (hI : Inv s) {opt : StartOpt} {b : Config.Bounds}
    (hc : s.pc c = .publishInitialized opt b) :
    ∃ records, Full s records ∧ records.length = b.initialNum ∧ ∀ p ∈ records, Active s p := by
  cases hI with
  | rest ha =>
    have h := ha c
    rw [hc] at h
    cases h
  | @attempt d hd ha hs hf =>
    have hcd : c = d := by
      by_contra hcd
      have h := ha c hcd
      rw [hc] at h
      cases h
    subst hcd
    rw [hc] at hf
    exact hf
  | done ha =>
    have h := ha c
    rw [hc] at h
    cases h

/-- The start is atomic, whatever fails in whichever attempt, and however the calls interleave. -/
theorem atomic_of_reachable (h : (system T).Reachable s) : Atomic s where
  once := by
    cases inv_of_reachable h with
    | rest _ _ hb =>
      rw [hb.published, hb.started]
      exact ⟨Nat.zero_le 1, Nat.zero_le 1⟩
    | attempt hc _ _ hf =>
      obtain ⟨hp, hl⟩ := hf.once hc
      rw [hl]
      exact ⟨hp, Nat.zero_le 1⟩
    | done _ _ _ hp hl => exact ⟨hp, hl.le⟩
  fails c fault t ht hi ho := by
    have hs := notStarted_of_failed ht hi ho
    have hI := inv_of_reachable (h.step (.step c fault) ht)
    exact ⟨hs, (hI.clean hs).1.clean⟩
  clean hs := ((inv_of_reachable h).clean hs).1.clean
  retry hs c hc opt cfg b hb := by
    have hb' := ((inv_of_reachable h).clean hs).1
    obtain ⟨t, ht, hpc⟩ := path_publishInitialized opt hs hb'.lifecycleMutex hc hb
    have hI := inv_of_reachable (h.path ht)
    obtain ⟨records, hF, hl, -⟩ := hI.published hpc
    have hinit : t.step c false = some ({ t with initialized := true }.goto c (.report opt)) := by
      rw [State.step, hpc]
    set u := { t with initialized := true }.goto c (.report opt) with hu
    have hreport : u.step c false = some (u.report c opt) := by
      rw [State.step, hu, pc_goto]
    refine ⟨_, (ht.step hinit).step hreport, ?_⟩
    have hstarted : t.started ++ [c] = [c] := by
      rw [hF.started]
      rfl
    have hlen : t.activeSnapshot.length = b.initialNum := by
      rw [hF.activeSnapshot, hl]
    cases opt <;> exact ⟨rfl, hstarted, hlen⟩
  visible l t ht hs hti := by
    obtain ⟨c, opt, b, hpc, rfl⟩ := initialized_or ht hs hti
    obtain ⟨records, hF, hl, hact⟩ := (inv_of_reachable h).published hpc
    obtain rfl := hF.activeSnapshot
    exact ⟨c, opt, b, hpc, hl, hF.nodup, hF.processerMap, hF.workers, hact⟩

/-- An attempt fails at the thread of the second worker, while another thread calls `Start`. -/
def failingRun : List (Label Bool) :=
  let cfg : Config := { staticThreadNum := 2 }
  let go : Label Bool := .step true false
  [.call true .scheThread cfg, go, go, go, go, go, go, go, go, go, .step true true, .work 0 false,
    .call false .scheNoLoop cfg, .step false false, go, go, .work 0 false, go, go, go, go, go, go]

/-- The failed attempt has left nothing behind. -/
theorem atomic_of_reachable_of_failingRun : ∃ s : State Bool, (s.startState = .notStarted ∧
    s.outcome true = some .failed ∧ s.outcome false = some .alreadyStarted ∧
      s.stage 0 = .joined ∧ s.stage 1 = .discarded) ∧ Atomic s := by
  have hrun : (system Bool).endsIn {} failingRun (fun s => s.startState = .notStarted ∧
      s.outcome true = some .failed ∧ s.outcome false = some .alreadyStarted ∧
        s.stage 0 = .joined ∧ s.stage 1 = .discarded) = true := by
    decide
  obtain ⟨s, hs, hp⟩ := System.exists_of_endsIn rfl hrun
  exact ⟨s, hp, atomic_of_reachable hs⟩

end BbtCoroutine.Start
