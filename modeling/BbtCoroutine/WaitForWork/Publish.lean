import BbtCoroutine.WaitForWork.Invariant

/-!
# The steps of those who publish

Who has enqueued a task, or has begun to retire a worker, has the latches of those concerned in its
frame until they are set.
-/

namespace BbtCoroutine.WaitForWork

open Transition GlobalPull

variable {T W : Type*} {s t : State T W}

/-! ## Frames -/

/-- Who is on the way stays on the way if nobody loses a latch from its frame. -/
lemma State.OnTheWay.mono {p : W} (h : s.OnTheWay p)
    (hact : p ∈ s.activeSnapshot → p ∈ t.activeSnapshot) (hS : s.Sends p → t.Sends p)
    (hret : ∀ r, (s.worker r).retires → (t.worker r).retires) : t.OnTheWay p := by
  obtain h | ⟨hin, r, hr⟩ := h
  · exact .inl (hS h)
  · exact .inr ⟨hact hin, r, hret r hr⟩

variable [DecidableEq T] [DecidableEq W] {a : Agent T W} {f : Frame W}

/-- Another frame for one agent. -/
lemma State.Sends.of_frame {p : W} (h : s.Sends p) (ht : t.frame = Function.update s.frame a f)
    (hact : p ∈ s.activeSnapshot → p ∈ t.activeSnapshot)
    (hf : (s.frame a).sends s.activeSnapshot p → f.sends t.activeSnapshot p) : t.Sends p := by
  obtain ⟨b, hb⟩ := h
  by_cases hba : b = a
  · subst hba
    refine ⟨b, ?_⟩
    rw [ht, Function.update_self]
    exact hf hb
  · refine ⟨b, ?_⟩
    rw [ht, Function.update_of_ne hba]
    cases hfr : s.frame b with
    | broadcast =>
      rw [hfr] at hb
      exact hact hb
    | idle | regist ps | admitted q | active k | publish ps | notify q ps | shrink todo selected
    | request q todo selected =>
      rw [hfr] at hb
      exact hb

/-- The new frame of an agent. -/
lemma State.sends_of_frame {p : W} (ht : t.frame = Function.update s.frame a f)
    (hf : f.sends t.activeSnapshot p) : t.Sends p := by
  refine ⟨a, ?_⟩
  rw [ht, Function.update_self]
  exact hf

/-- A request that is left to others. -/
lemma State.Requests.of_frame {p : W} (h : s.Requests p)
    (ht : t.frame = Function.update s.frame a f)
    (hf : ∀ todo selected, s.frame a ≠ .request p todo selected) : t.Requests p := by
  obtain ⟨b, todo, selected, hb⟩ := h
  refine ⟨b, todo, selected, ?_⟩
  rw [ht, Function.update_of_ne, hb]
  rintro rfl
  exact hf todo selected hb

/-- A notification that is left to others. -/
lemma State.Notifies.of_frame {p : W} (h : s.Notifies p)
    (ht : t.frame = Function.update s.frame a f) (hf : ∀ ps, s.frame a ≠ .notify p ps) :
    t.Notifies p := by
  obtain ⟨b, ps, hb⟩ := h
  refine ⟨b, ps, ?_⟩
  rw [ht, Function.update_of_ne, hb]
  rintro rfl
  exact hf ps hb

/-- A step of an agent that leaves the snapshot and the global queues alone, and touches the workers
in `P` only. -/
lemma Inv.agent (h : Inv s) (P : W → Prop) (ht : t.frame = Function.update s.frame a f)
    (hact : t.activeSnapshot = s.activeSnapshot) (hl : t.lifecycle = s.lifecycle)
    (hG : t.globalQueue = s.globalQueue) (hw : ∀ q, ¬ P q → t.worker q = s.worker q)
    (hfit : ∀ q, P q → Fits t q) (hret : ∀ r, (s.worker r).retires → (t.worker r).retires)
    (hsends : ∀ q, ¬ P q → (s.frame a).sends s.activeSnapshot q → f.sends s.activeSnapshot q)
    (hreq : ∀ q todo selected, ¬ P q → s.frame a ≠ .request q todo selected)
    (hnot : ∀ q ps, ¬ P q → s.frame a ≠ .notify q ps) (hf : f.Fits t a) : Inv t where
  fits q := by
    by_cases hq : P q
    · exact hfit q hq
    have hS : s.Sends q → t.Sends q := fun hx =>
      hx.of_frame ht (fun hi => hact ▸ hi) fun hi => hact ▸ hsends q hq hi
    refine (h.fits q).untouched (hw q hq) hS (fun hx => hx.of_frame ht fun _ _ => hreq q _ _ hq)
      (fun hx => hx.of_frame ht fun _ => hnot q _ hq) (fun hi => hact ▸ hi)
      (fun _ hx => hx.mono (fun hi => hact ▸ hi) hS hret) ?_
    intro _ k hk
    rw [hG] at hk
    exact .inl hk
  frames b := by
    rw [ht]
    by_cases hb : b = a
    · subst hb
      rw [Function.update_self]
      exact hf
    · rw [Function.update_of_ne hb]
      have hfr := h.frames b
      cases hx : s.frame b with
      | shrink todo selected | request q todo selected =>
        rw [hx] at hfr
        unfold Frame.Fits
        rw [hact, hl]
        exact hfr
      | idle | regist ps | admitted q | active k | broadcast | publish ps | notify q ps => trivial
  nonempty := by
    rw [hact]
    exact h.nonempty

/-- A step that changes only what is left to do for an agent. -/
lemma Inv.setFrame (h : Inv s)
    (hsends : ∀ q, (s.frame a).sends s.activeSnapshot q → f.sends s.activeSnapshot q)
    (hreq : ∀ q todo selected, s.frame a ≠ .request q todo selected)
    (hnot : ∀ q ps, s.frame a ≠ .notify q ps) (hf : f.Fits s a) : Inv (s.setFrame a f) := by
  refine h.agent (fun _ => False) rfl rfl rfl rfl (fun _ _ => rfl) (fun _ hx => hx.elim)
    (fun _ => id) (fun q _ => hsends q) (fun q todo selected _ => hreq q todo selected)
    (fun q ps _ => hnot q ps) ?_
  cases f <;> exact hf

/-- A step of an agent that touches the worker `p`, which stays where it is with its latch. -/
lemma Inv.agentAt (h : Inv s) {p : W} {x : Worker} (hst : x.stage = (s.worker p).stage)
    (hl : x.runCondNotify = (s.worker p).runCondNotify)
    (hc : x.globalPullPriority = (s.worker p).globalPullPriority)
    (hq : x.coroutineQueue ≠ 0 →
      (s.worker p).coroutineQueue ≠ 0 ∨ f.sends s.activeSnapshot p)
    (hC : x.admissionOpen = false → x.retireRequested = true ∨
      (∃ todo selected, f = .request p todo selected) ∨ (s.worker p).admissionOpen = false ∧
        x.retireRequested = (s.worker p).retireRequested ∧
        ∀ todo selected, s.frame a ≠ .request p todo selected)
    (hR : x.retireRequested = true →
      (s.worker p).retireRequested = true ∨ f.sends s.activeSnapshot p)
    (hn : (s.worker p).notified = true → x.notified = true)
    (hN : x.notified = true ∨ ∀ ps, s.frame a ≠ .notify p ps)
    (hret : (s.worker p).admissionOpen = false → x.admissionOpen = false)
    (hsends : ∀ q, (s.frame a).sends s.activeSnapshot q → f.sends s.activeSnapshot q)
    (hreq : ∀ q todo selected, q ≠ p → s.frame a ≠ .request q todo selected)
    (hnot : ∀ q ps, q ≠ p → s.frame a ≠ .notify q ps) (hf : f.Fits s a) :
    Inv ((s.setWorker p x).setFrame a f) := by
  generalize ht : (s.setWorker p x).setFrame a f = t
  have hfr : t.frame = Function.update s.frame a f := by rw [← ht]; rfl
  have hact : t.activeSnapshot = s.activeSnapshot := by rw [← ht]; rfl
  have hself : t.worker p = x := by
    rw [← ht]
    exact Function.update_self _ _ _
  have hother : ∀ q, q ≠ p → t.worker q = s.worker q := fun q hq => by
    rw [← ht]
    exact Function.update_of_ne hq _ _
  have hret' : ∀ r, (s.worker r).retires → (t.worker r).retires := by
    intro r hr
    by_cases hrp : r = p
    · subst hrp
      rw [hself]
      unfold Worker.retires
      rw [hst]
      exact ⟨hr.1.imp_left hret, hr.2⟩
    · rw [hother r hrp]
      exact hr
  have hnew : f.sends s.activeSnapshot p → t.Sends p := fun hx =>
    State.sends_of_frame hfr (hact ▸ hx)
  refine h.agent (· = p) hfr hact (by rw [← ht]; rfl) (by rw [← ht]; rfl) hother ?_ hret'
    (fun q _ => hsends q) hreq hnot ?_
  · rintro q rfl
    have hS : s.Sends q → t.Sends q := fun hx =>
      hx.of_frame hfr (fun hx => hact ▸ hx) fun hx => hact ▸ hsends q hx
    refine (h.fits q).stays ?_ ?_ ?_ ?_ ?_ ?_ ?_ hS ?_ (fun hx => hact ▸ hx)
      (fun _ hx => hx.mono (fun hx => hact ▸ hx) hS hret') ?_
    · rw [hself, hst]
    · rw [hself, hl]
    · rw [hself, hc]
    · rw [hself]
      exact fun hx => (hq hx).imp_right hnew
    · rw [hself, hst]
      intro h₁ h₂
      obtain h₂ | ⟨todo, selected, rfl⟩ | ⟨h₂, h₃, h₄⟩ := hC h₂
      · exact .inl h₂
      · exact .inr ⟨a, todo, selected, by rw [hfr, Function.update_self]⟩
      · rw [h₃]
        exact ((h.fits q).closed h₁ h₂).imp_right fun hx => hx.of_frame hfr h₄
    · rw [hself]
      exact fun hx => (hR hx).imp_right hnew
    · rw [hself]
      exact hn
    · rw [hself]
      intro hx
      obtain hN | hN := hN
      · exact .inl hN
      · exact .inr (hx.of_frame hfr hN)
    · intro _ k hk
      rw [← ht] at hk
      exact .inl hk
  · rw [← ht]
    cases f <;> exact hf

/-! ## The steps -/

/-- An agent that is idle calls. -/
lemma Inv.setFrame_of_idle (h : Inv s) (hi : s.frame a = .idle) (hf : f.Fits s a) :
    Inv (s.setFrame a f) := by
  refine h.setFrame ?_ ?_ ?_ hf
  · intro q hq
    rw [hi] at hq
    exact hq.elim
  · intro q todo selected he
    rw [hi] at he
    cases he
  · intro q ps he
    rw [hi] at he
    cases he

/-- New workers are published. -/
lemma Inv.expand (h : Inv s) {ps : List W} (hi : s.frame a = .idle) (hl : s.lifecycle = none)
    (hab : ∀ p ∈ ps, (s.worker p).stage = .absent) :
    Inv ({ s with
      worker := fun p => if p ∈ ps then .activated else s.worker p
      activeSnapshot := s.activeSnapshot ++ ps }.setFrame a (.publish ps)) := by
  generalize ht : ({ s with
      worker := fun p => if p ∈ ps then .activated else s.worker p
      activeSnapshot := s.activeSnapshot ++ ps }.setFrame a (.publish ps)) = t
  have hfr : t.frame = Function.update s.frame a (.publish ps) := by rw [← ht]; rfl
  have hact : t.activeSnapshot = s.activeSnapshot ++ ps := by rw [← ht]; rfl
  have hg : t.globalQueue = s.globalQueue := by rw [← ht]; rfl
  have hlc : t.lifecycle = s.lifecycle := by rw [← ht]; rfl
  have hnew : ∀ p ∈ ps, t.worker p = .activated := fun p hp => by
    rw [← ht]
    exact if_pos hp
  have hold : ∀ p, p ∉ ps → t.worker p = s.worker p := fun p hp => by
    rw [← ht]
    exact if_neg hp
  have hret : ∀ r, (s.worker r).retires → (t.worker r).retires := by
    intro r hr
    rw [hold r fun hp => hr.2.1 (hab r hp)]
    exact hr
  refine ⟨fun q => ?_, fun b => ?_, ?_⟩
  · by_cases hq : q ∈ ps
    · refine Fits.of_awake ?_ ?_
      · rw [hnew q hq]
        rfl
      · intro hc
        rw [hnew q hq] at hc
        cases hc
    · have hin : q ∈ s.activeSnapshot → q ∈ t.activeSnapshot := fun hx => by
        rw [hact]
        exact List.mem_append_left _ hx
      have hS : s.Sends q → t.Sends q := fun hx => hx.of_frame hfr hin fun hx => by
        rw [hi] at hx
        exact hx.elim
      refine (h.fits q).untouched (hold q hq) hS
        (fun hx => hx.of_frame hfr fun _ _ => by rw [hi]; exact fun he => by cases he)
        (fun hx => hx.of_frame hfr fun _ => by rw [hi]; exact fun he => by cases he) ?_
        (fun _ hx => hx.mono hin hS hret) ?_
      · intro hx
        rw [hact] at hx
        exact (List.mem_append.mp hx).resolve_right hq
      · intro _ k hk
        rw [hg] at hk
        exact .inl hk
  · rw [hfr]
    by_cases hb : b = a
    · subst hb
      rw [Function.update_self]
      trivial
    · rw [Function.update_of_ne hb]
      have hx := h.frames b
      cases hs : s.frame b with
      | shrink todo selected | request q todo selected =>
        rw [hs] at hx
        have := hx.2.1
        rw [hl] at this
        cases this
      | idle | regist ps | admitted q | active k | broadcast | publish ps | notify q ps => trivial
  · rw [hact]
    exact fun he => h.nonempty (List.append_eq_nil_iff.mp he).1

/-- A shrink begins, and takes `m_lifecycle_mutex`. -/
lemma Inv.shrink (h : Inv s) {ps : List W} (hi : s.frame a = .idle) (hl : s.lifecycle = none)
    (hq : ∃ q ∈ s.activeSnapshot, q ∉ ps) :
    Inv ({ s with lifecycle := some a }.setFrame a (.shrink ps ps)) := by
  have hfree : ∀ b, (s.frame b).Fits { s with lifecycle := some a } b := by
    intro b
    have hx := h.frames b
    cases hs : s.frame b with
    | shrink todo selected | request q todo selected =>
      rw [hs] at hx
      have := hx.2.1
      rw [hl] at this
      cases this
    | idle | regist ps | admitted q | active k | broadcast | publish ps | notify q ps => trivial
  have h' : Inv { s with lifecycle := some a } := by
    refine ⟨fun q => ?_, hfree, h.nonempty⟩
    exact (h.fits q).untouched rfl id id id id (fun _ => id) fun _ _ hk => .inl hk
  exact h'.setFrame_of_idle hi ⟨fun _ => id, rfl, hq⟩

/-- The admission of a worker is closed. -/
lemma Inv.beginRetire (h : Inv s) {p : W} {todo selected : List W}
    (hi : s.frame a = .shrink (p :: todo) selected) :
    Inv ((s.setWorker p { s.worker p with admissionOpen := false }).setFrame a
      (.request p todo selected)) := by
  have hf := h.frames a
  rw [hi] at hf
  refine h.agentAt rfl rfl rfl .inl ?_ .inl id (.inr ?_) (fun _ => rfl) ?_ ?_ ?_ ?_
  · exact fun _ => .inr (.inl ⟨todo, selected, rfl⟩)
  · intro ps he
    rw [hi] at he
    cases he
  · intro q hq
    rw [hi] at hq
    exact hq
  · intro q todo' selected' _ he
    rw [hi] at he
    cases he
  · intro q ps _ he
    rw [hi] at he
    cases he
  · exact ⟨⟨hf.1 p List.mem_cons_self, fun q hq => hf.1 q (List.mem_cons_of_mem _ hq)⟩, hf.2⟩

/-- The retirement of a worker whose admission is closed is requested. -/
lemma Inv.requestRetire (h : Inv s) {p : W} {todo selected : List W}
    (hi : s.frame a = .request p todo selected) :
    Inv ((s.setWorker p { s.worker p with retireRequested := true }).setFrame a
      (.shrink todo selected)) := by
  have hf := h.frames a
  rw [hi] at hf
  refine h.agentAt rfl rfl rfl .inl (fun _ => .inl rfl) (fun _ => .inr hf.1.1) id (.inr ?_) id
    ?_ ?_ ?_ ⟨hf.1.2, hf.2⟩
  · intro ps he
    rw [hi] at he
    cases he
  · intro q hq
    rw [hi] at hq
    exact hq
  · intro q todo' selected' hq he
    rw [hi] at he
    cases he
    exact hq rfl
  · intro q ps _ he
    rw [hi] at he
    cases he

/-- The retired workers leave the snapshot. -/
lemma Inv.commit (h : Inv s) {selected : List W} (hi : s.frame a = .shrink [] selected) :
    Inv ({ s with
      activeSnapshot := s.activeSnapshot.filter (· ∉ selected)
      lifecycle := none }.setFrame a (.publish selected)) := by
  generalize ht : ({ s with
      activeSnapshot := s.activeSnapshot.filter (· ∉ selected)
      lifecycle := none }.setFrame a (.publish selected)) = t
  have hfr : t.frame = Function.update s.frame a (.publish selected) := by rw [← ht]; rfl
  have hact : t.activeSnapshot = s.activeSnapshot.filter (· ∉ selected) := by rw [← ht]; rfl
  have hw : t.worker = s.worker := by rw [← ht]; rfl
  have hg : t.globalQueue = s.globalQueue := by rw [← ht]; rfl
  have hmem : ∀ q, q ∈ t.activeSnapshot ↔ q ∈ s.activeSnapshot ∧ q ∉ selected := by
    intro q
    rw [hact, List.mem_filter, decide_eq_true_iff]
  have hf := h.frames a
  rw [hi] at hf
  have hS : ∀ q, s.Sends q → t.Sends q := by
    intro q hq
    by_cases hsel : q ∈ selected
    · exact State.sends_of_frame hfr hsel
    · refine hq.of_frame hfr (fun hx => (hmem q).mpr ⟨hx, hsel⟩) fun hx => ?_
      rw [hi] at hx
      exact hx
  refine ⟨fun q => ?_, fun b => ?_, ?_⟩
  · refine (h.fits q).untouched (by rw [hw]) (hS q)
      (fun hx => hx.of_frame hfr fun _ _ => by rw [hi]; exact fun he => by cases he)
      (fun hx => hx.of_frame hfr fun _ => by rw [hi]; exact fun he => by cases he)
      (fun hx => ((hmem q).mp hx).1) (fun hx ho => ho.mono (fun _ => hx) (hS q) ?_) ?_
    · rw [hw]
      exact fun _ => id
    · intro _ k hk
      rw [hg] at hk
      exact .inl hk
  · rw [hfr]
    by_cases hb : b = a
    · subst hb
      rw [Function.update_self]
      trivial
    · rw [Function.update_of_ne hb]
      have hx := h.frames b
      cases hs : s.frame b with
      | shrink todo selected' | request q todo selected' =>
        rw [hs] at hx
        have hba := hx.2.1
        rw [hf.2.1] at hba
        exact absurd (Option.some.inj hba).symm hb
      | idle | regist ps | admitted q | active k | broadcast | publish ps | notify q ps => trivial
  · obtain ⟨q, hq, hsel⟩ := hf.2.2
    exact List.ne_nil_of_mem ((hmem q).mpr ⟨hq, hsel⟩)

/-- The admission of a worker is found open. -/
lemma Inv.beginEnqueue (h : Inv s) {p : W} {ps : List W} (hi : s.frame a = .regist (p :: ps))
    (n : ℕ) :
    Inv ((s.setWorker p { s.worker p with enqueueInflight := n }).setFrame a (.admitted p)) := by
  refine h.agentAt rfl rfl rfl .inl ?_ .inl id (.inr ?_) id ?_ ?_ ?_ trivial
  · intro hc
    refine .inr (.inr ⟨hc, rfl, fun todo selected he => ?_⟩)
    rw [hi] at he
    cases he
  · intro ps' he
    rw [hi] at he
    cases he
  · intro q hq
    rw [hi] at hq
    exact hq.elim
  · intro q todo selected _ he
    rw [hi] at he
    cases he
  · intro q ps' _ he
    rw [hi] at he
    cases he

/-- A task is enqueued in the local queue of a worker, whose latch is to be set now. -/
lemma Inv.enqueue (h : Inv s) {p : W} (hi : s.frame a = .admitted p) (n m : ℕ) :
    Inv ((s.setWorker p { s.worker p with coroutineQueue := n, enqueueInflight := m }).setFrame a
      (.publish [p])) := by
  refine h.agentAt rfl rfl rfl (fun _ => .inr List.mem_cons_self) ?_ .inl id (.inr ?_) id
    ?_ ?_ ?_ trivial
  · intro hc
    refine .inr (.inr ⟨hc, rfl, fun todo selected he => ?_⟩)
    rw [hi] at he
    cases he
  · intro ps' he
    rw [hi] at he
    cases he
  · intro q hq
    rw [hi] at hq
    exact hq.elim
  · intro q todo selected _ he
    rw [hi] at he
    cases he
  · intro q ps' _ he
    rw [hi] at he
    cases he

/-- A task is enqueued in a global queue, and a broadcast is to follow. -/
lemma Inv.enqueueGlobal (h : Inv s) {k : CoroutinePriority} (hi : s.frame a = .active k) :
    Inv ((s.enqueueGlobal k).setFrame a .broadcast) := by
  have h₁ : Inv (s.setFrame a .broadcast) := by
    refine h.setFrame ?_ ?_ ?_ trivial
    · intro q hq
      rw [hi] at hq
      exact hq.elim
    · intro q todo selected he
      rw [hi] at he
      cases he
    · intro q ps he
      rw [hi] at he
      cases he
  have hsends : ∀ q ∈ s.activeSnapshot, ((s.enqueueGlobal k).setFrame a .broadcast).Sends q := by
    intro q hq
    refine ⟨a, ?_⟩
    show Frame.sends s.activeSnapshot q (Function.update s.frame a .broadcast a)
    rw [Function.update_self]
    exact hq
  refine ⟨fun q => ?_, h₁.frames, h₁.nonempty⟩
  exact (h₁.fits q).untouched rfl id id id id (fun _ => id) fun hin _ _ =>
    .inr (.inl (hsends q hin))

/-- The snapshot for a broadcast is taken. -/
lemma Inv.snapshot (h : Inv s) (hi : s.frame a = .broadcast) :
    Inv (s.setFrame a (.publish s.activeSnapshot)) := by
  refine h.setFrame ?_ ?_ ?_ trivial
  · intro q hq
    rw [hi] at hq
    exact hq
  · intro q todo selected he
    rw [hi] at he
    cases he
  · intro q ps he
    rw [hi] at he
    cases he

/-- The latch of a worker is set. -/
lemma Inv.setLatch (h : Inv s) {p : W} {ps : List W} (hi : s.frame a = .publish (p :: ps)) :
    Inv ((s.setWorker p { s.worker p with runCondNotify := false }).setFrame a
      (.notify p ps)) := by
  generalize ht : (s.setWorker p { s.worker p with runCondNotify := false }).setFrame a
    (.notify p ps) = t
  have hfr : t.frame = Function.update s.frame a (.notify p ps) := by rw [← ht]; rfl
  have hact : t.activeSnapshot = s.activeSnapshot := by rw [← ht]; rfl
  have hself : t.worker p = { s.worker p with runCondNotify := false } := by
    rw [← ht]
    exact Function.update_self _ _ _
  have hother : ∀ q, q ≠ p → t.worker q = s.worker q := fun q hq => by
    rw [← ht]
    exact Function.update_of_ne hq _ _
  refine h.agent (· = p) hfr hact (by rw [← ht]; rfl) (by rw [← ht]; rfl) hother ?_ ?_ ?_ ?_ ?_
    trivial
  · rintro q rfl
    refine ⟨?_, ?_, fun _ _ => .inl ?_, fun _ _ _ _ => .inl ?_, fun _ _ => .inr ?_⟩
    · rw [hself]
      intro _ hl
      cases hl
    · rw [hself]
      exact fun h₁ h₂ => ((h.fits q).closed h₁ h₂).imp_right fun hx =>
        hx.of_frame hfr fun _ _ => by rw [hi]; exact fun he => by cases he
    · rw [hself]
    · rw [hself]
    · exact ⟨a, ps, by rw [hfr, Function.update_self]⟩
  · intro r hr
    by_cases hrp : r = p
    · subst hrp
      rw [hself]
      exact hr
    · rw [hother r hrp]
      exact hr
  · intro q hq hx
    rw [hi] at hx
    exact (List.mem_cons.mp hx).resolve_left hq
  · intro q todo selected _ he
    rw [hi] at he
    cases he
  · intro q ps' _ he
    rw [hi] at he
    cases he

/-- `m_run_cond` of a worker is notified. -/
lemma Inv.notifyOne (h : Inv s) {p : W} {ps : List W} (hi : s.frame a = .notify p ps) :
    Inv ((s.setWorker p { s.worker p with notified := true }).setFrame a (.publish ps)) := by
  refine h.agentAt rfl rfl rfl .inl ?_ .inl (fun _ => rfl) (.inl rfl) id ?_ ?_ ?_ trivial
  · intro hc
    refine .inr (.inr ⟨hc, rfl, fun todo selected he => ?_⟩)
    rw [hi] at he
    cases he
  · intro q hq
    rw [hi] at hq
    exact hq
  · intro q todo selected _ he
    rw [hi] at he
    cases he
  · intro q ps' hq he
    rw [hi] at he
    cases he
    exact hq rfl

end BbtCoroutine.WaitForWork
