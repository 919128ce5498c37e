import BbtCoroutine.Driver.Stages

/-!
# The driver protocol is generation-safe

Each step of a frame keeps the invariant of its own generation and leaves the others alone.
`generationSafe_of_reachable` draws the consequences.  The lease, not the start of the
callback, is what a generation grants while it is bound: `wake_starts_detaching` is a run
in which a wake whose lease was granted in time starts while the generation is being
detached.
-/

namespace BbtCoroutine.Driver

open Transition

variable {T : Type*} [DecidableEq T] {s s' : State T} {t : T} {g : ℕ} {f : Frame}
  {below : List Frame}

namespace Tally

variable {b : Binding T} {stack : T → List Frame}

/-- A frame whose lease is counted makes its thread a holder. -/
lemma mem_holders (h : Tally g b stack) (hf : f ∈ stack t) (hc : f.counted = some g) :
    t ∈ b.holders := by
  rw [← Multiset.count_pos, h.holders t]
  exact List.countP_pos_iff.mpr ⟨f, hf, by simpa using hc⟩

/-- A generation of which a frame holds a lease has leases. -/
lemma inflight_ne_zero (h : Tally g b stack) (hf : f ∈ stack t) (hc : f.counted = some g) :
    b.inflight ≠ 0 := by
  rw [h.inflight]
  exact (Multiset.card_pos_iff_exists_mem.mpr ⟨t, h.mem_holders hf hc⟩).ne'

/-- Without leases no frame holds one. -/
lemma counted_ne (h : Tally g b stack) (hzero : b.inflight = 0) (hf : f ∈ stack t) :
    f.counted ≠ some g :=
  fun hc => h.inflight_ne_zero hf hc hzero

/-- The frame of a leader is the only one. -/
lemma leader_eq (h : Tally g b stack) (hstack : stack t = f :: below) (hf : f.leads = some g) :
    b.leader = some (t, f) ∧ (below.filter fun f => f.leads = some g) = [] := by
  have hl := h.leader t
  rw [hstack, List.filter_cons_of_pos (by simpa using hf)] at hl
  cases hleader : b.leader with
  | none =>
    rw [hleader] at hl
    cases hl
  | some r =>
    obtain ⟨t', f'⟩ := r
    rw [hleader] at hl
    by_cases ht : t' = t
    · subst ht
      simp only [ledBy, if_true] at hl
      obtain ⟨rfl, hrest⟩ := List.cons.inj hl
      exact ⟨rfl, hrest⟩
    · simp only [ledBy, if_neg ht] at hl
      cases hl

end Tally

namespace Inv

/-- The frames of a thread change without a lease, a leader or the shared state. -/
lemma setStack {fs : List Frame} (h : Inv s)
    (hcount : ∀ g, (fs.countP fun f => f.counted = some g) =
      (s.stack t).countP fun f => f.counted = some g)
    (hleads : ∀ g, (fs.filter fun f => f.leads = some g) =
      (s.stack t).filter fun f => f.leads = some g)
    (hframes : ∀ f ∈ fs, ∀ g, f.generation = some g →
      0 < g ∧ g ≤ s.shared.driverNextGeneration) : Inv (s.setStack t fs) := by
  refine ⟨h.le_max, h.slot, fun t' f hf g hg => ?_, fun g hpos hle => ?_, h.fresh⟩
  · by_cases ht : t' = t
    · subst ht
      rw [State.setStack_stack_self] at hf
      exact hframes f hf g hg
    · rw [State.setStack_stack_of_ne _ ht] at hf
      exact h.frames t' f hf g hg
  · obtain ⟨hstage, htally⟩ := h.bound g hpos hle
    refine ⟨hstage, htally.inflight, fun t' => ?_, fun t' => ?_⟩
    · by_cases ht : t' = t
      · subst ht
        rw [State.setStack_stack_self, hcount]
        exact htally.holders t'
      · rw [State.setStack_stack_of_ne _ ht]
        exact htally.holders t'
    · by_cases ht : t' = t
      · subst ht
        rw [State.setStack_stack_self, hleads]
        exact htally.leader t'
      · rw [State.setStack_stack_of_ne _ ht]
        exact htally.leader t'

/-- A frame that touches the binding of its generation keeps the invariant if it keeps that of
the generation. -/
lemma update {b : Binding T} {slot : Option ℕ} (h : Inv s) (new : List Frame)
    (hstack : s.stack t = f :: below) (hf : f.generation = some g)
    (hnew : ∀ f' ∈ new, f'.generation = some g)
    (hslot : slot = s.shared.driverBinding ∨ (slot = none ∧ s.shared.driverBinding = some g))
    (hstage : Stage g b (slot = some g)) (hinflight : b.inflight = b.holders.card)
    (hothers : ∀ t', t' ≠ t → b.holders.count t' = (s.shared.binding g).holders.count t')
    (hown : b.holders.count t + ([f].countP fun f => f.counted = some g) =
      (s.shared.binding g).holders.count t + new.countP fun f => f.counted = some g)
    (hleader : ((new ++ below).filter fun f => f.leads = some g) = ledBy t b.leader)
    (hled : ∀ t', t' ≠ t → ledBy t' b.leader = ledBy t' (s.shared.binding g).leader) :
    Inv (({ s with shared := { s.shared.set g b with driverBinding := slot } }).setStack t
      (new ++ below)) := by
  have hbound := h.frames t f (by rw [hstack]; exact List.mem_cons_self) g hf
  have hslot' : ∀ g', slot = some g' → s.shared.driverBinding = some g' := by
    intro g' hg'
    rcases hslot with rfl | ⟨rfl, -⟩
    · exact hg'
    · cases hg'
  have hcount : ∀ g', g' ≠ g → ((new ++ below).countP fun f => f.counted = some g') =
      (s.stack t).countP fun f => f.counted = some g' := by
    intro g' hne
    have hzero : new.countP (fun f => decide (f.counted = some g')) = 0 := by
      refine List.countP_eq_zero.mpr fun f' hf' hc => ?_
      have hgen := Frame.generation_of_counted (of_decide_eq_true hc)
      rw [hnew f' hf'] at hgen
      exact hne (Option.some.inj hgen).symm
    have hfirst : f.counted ≠ some g' := by
      intro hc
      have hgen := Frame.generation_of_counted hc
      rw [hf] at hgen
      exact hne (Option.some.inj hgen).symm
    rw [List.countP_append, hzero, hstack, List.countP_cons_of_neg (by simpa using hfirst),
      Nat.zero_add]
  have hfilter : ∀ g', g' ≠ g → ((new ++ below).filter fun f => f.leads = some g') =
      (s.stack t).filter fun f => f.leads = some g' := by
    intro g' hne
    have hnil : new.filter (fun f => decide (f.leads = some g')) = [] := by
      refine List.filter_eq_nil_iff.mpr fun f' hf' hc => ?_
      have hgen := Frame.generation_of_leads (of_decide_eq_true hc)
      rw [hnew f' hf'] at hgen
      exact hne (Option.some.inj hgen).symm
    have hfirst : f.leads ≠ some g' := by
      intro hc
      have hgen := Frame.generation_of_leads hc
      rw [hf] at hgen
      exact hne (Option.some.inj hgen).symm
    rw [List.filter_append, hnil, hstack, List.filter_cons_of_neg (by simpa using hfirst),
      List.nil_append]
  refine ⟨h.le_max, fun g' hg' => h.slot g' (hslot' g' hg'), fun t' f' hf' g' hg' => ?_,
    fun g' hpos hle => ?_, fun g' hg' => ?_⟩
  · by_cases ht : t' = t
    · subst ht
      rw [State.setStack_stack_self] at hf'
      rcases List.mem_append.mp hf' with hmem | hmem
      · rw [hnew f' hmem] at hg'
        obtain rfl := Option.some.inj hg'
        exact hbound
      · exact h.frames t' f' (by rw [hstack]; exact List.mem_cons_of_mem _ hmem) g' hg'
    · rw [State.setStack_stack_of_ne _ ht] at hf'
      exact h.frames t' f' hf' g' hg'
  · obtain ⟨hstage', htally⟩ := h.bound g' hpos hle
    by_cases hgg : g' = g
    · subst hgg
      have hbinding : ({ s.shared.set g' b with driverBinding := slot }).binding g' = b :=
        Shared.set_binding_self _ _ _
      refine ⟨?_, ?_, fun t' => ?_, fun t' => ?_⟩
      · rw [State.setStack_shared, hbinding]
        exact hstage
      · rw [State.setStack_shared, hbinding]
        exact hinflight
      · rw [State.setStack_shared, hbinding]
        have htotal := htally.holders t
        rw [hstack, List.countP_cons] at htotal
        by_cases ht : t' = t
        · subst ht
          rw [State.setStack_stack_self, List.countP_append]
          simp only [List.countP_cons, List.countP_nil] at hown
          omega
        · rw [State.setStack_stack_of_ne _ ht, hothers t' ht]
          exact htally.holders t'
      · rw [State.setStack_shared, hbinding]
        by_cases ht : t' = t
        · subst ht
          rw [State.setStack_stack_self]
          exact hleader
        · rw [State.setStack_stack_of_ne _ ht, hled t' ht]
          exact htally.leader t'
    · have hbinding : ({ s.shared.set g b with driverBinding := slot }).binding g' =
          s.shared.binding g' := Shared.set_binding_of_ne _ hgg _
      refine ⟨?_, ?_, fun t' => ?_, fun t' => ?_⟩
      · have hiff : (slot = some g') = (s.shared.driverBinding = some g') := by
          rcases hslot with rfl | ⟨rfl, hg⟩
          · rfl
          · rw [hg]
            simp [Ne.symm hgg]
        rw [State.setStack_shared, hbinding]
        change Stage g' _ (slot = some g')
        rw [hiff]
        exact hstage'
      · rw [State.setStack_shared, hbinding]
        exact htally.inflight
      · rw [State.setStack_shared, hbinding]
        by_cases ht : t' = t
        · subst ht
          rw [State.setStack_stack_self, hcount g' hgg]
          exact htally.holders t'
        · rw [State.setStack_stack_of_ne _ ht]
          exact htally.holders t'
      · rw [State.setStack_shared, hbinding]
        by_cases ht : t' = t
        · subst ht
          rw [State.setStack_stack_self, hfilter g' hgg]
          exact htally.leader t'
        · rw [State.setStack_stack_of_ne _ ht]
          exact htally.leader t'
  · have hne : g' ≠ g := by
      rintro rfl
      rcases hg' with hzero | hlt
      · omega
      · exact absurd hbound.2 hlt.not_ge
    exact (Shared.set_binding_of_ne _ hne _).trans (h.fresh g' hg')

/-- A frame that leads no detachment touches the leases of its generation. -/
lemma touch {b : Binding T} (h : Inv s) (new : List Frame) (hstack : s.stack t = f :: below)
    (hf : f.generation = some g) (hnew : ∀ f' ∈ new, f'.generation = some g)
    (hstage : Stage g b (s.shared.driverBinding = some g)) (hinflight : b.inflight = b.holders.card)
    (hothers : ∀ t', t' ≠ t → b.holders.count t' = (s.shared.binding g).holders.count t')
    (hown : b.holders.count t + ([f].countP fun f => f.counted = some g) =
      (s.shared.binding g).holders.count t + new.countP fun f => f.counted = some g)
    (hleads : f.leads = none) (hleads' : ∀ f' ∈ new, f'.leads = none)
    (hleader : b.leader = (s.shared.binding g).leader) :
    Inv (({ s with shared := s.shared.set g b }).setStack t (new ++ below)) := by
  have hbound := h.frames t f (by rw [hstack]; exact List.mem_cons_self) g hf
  have hsame := (h.bound g hbound.1 hbound.2).tally.leader t
  rw [hstack, List.filter_cons_of_neg (by simp [hleads])] at hsame
  refine h.update new hstack hf hnew (.inl rfl) hstage hinflight hothers hown ?_ ?_
  · have hnil : new.filter (fun f => decide (f.leads = some g)) = [] := by
      refine List.filter_eq_nil_iff.mpr fun f' hf' hl => ?_
      have hsome := of_decide_eq_true hl
      rw [hleads' f' hf'] at hsome
      cases hsome
    rw [List.filter_append, hnil, List.nil_append, hleader]
    exact hsame
  · intro t' _
    rw [hleader]

/-- The leader of a generation goes on to the frame `f'`. -/
lemma lead {b : Binding T} {slot : Option ℕ} (h : Inv s) (f' : Frame)
    (hstack : s.stack t = f :: below) (hf : f.leads = some g) (hf' : f'.leads = some g)
    (hslot : slot = s.shared.driverBinding ∨ (slot = none ∧ s.shared.driverBinding = some g))
    (hstage : Stage g b (slot = some g)) (hinflight : b.inflight = b.holders.card)
    (hothers : ∀ t', t' ≠ t → b.holders.count t' = (s.shared.binding g).holders.count t')
    (hown : b.holders.count t + ([f].countP fun f => f.counted = some g) =
      (s.shared.binding g).holders.count t + [f'].countP fun f => f.counted = some g)
    (hleader : b.leader = some (t, f')) :
    Inv (({ s with shared := { s.shared.set g b with driverBinding := slot } }).setStack t
      ([f'] ++ below)) := by
  have hgen := Frame.generation_of_leads hf
  have hbound := h.frames t f (by rw [hstack]; exact List.mem_cons_self) g hgen
  obtain ⟨hold, hrest⟩ := (h.bound g hbound.1 hbound.2).tally.leader_eq hstack hf
  refine h.update [f'] hstack hgen (fun f'' hmem => ?_) hslot hstage hinflight hothers hown ?_ ?_
  · rw [List.mem_singleton.mp hmem]
    exact Frame.generation_of_leads hf'
  · rw [hleader, List.filter_append, hrest, List.append_nil,
      List.filter_cons_of_pos (by simpa using hf')]
    simp [ledBy]
  · intro t' ht
    rw [hleader, hold]
    simp [ledBy, Ne.symm ht]

/-- A frame without a lease that leads nothing returns. -/
lemma returns (h : Inv s) (hstack : s.stack t = f :: below) (hcounted : f.counted = none)
    (hleads : f.leads = none) : Inv (s.setStack t ([] ++ below)) := by
  refine h.setStack (fun g => ?_) (fun g => ?_) fun f' hf' => ?_
  · simp [hstack, hcounted]
  · simp [hstack, hleads]
  · exact h.frames t f' (by rw [hstack]; exact List.mem_cons_of_mem _ hf')

/-- A frame that leads nothing goes on to one with the same lease that leads nothing. -/
lemma goesOn (h : Inv s) (f' : Frame) (hstack : s.stack t = f :: below)
    (hcounted : f'.counted = f.counted) (hleads : f.leads = none) (hleads' : f'.leads = none)
    (hbound : ∀ g, f'.generation = some g → 0 < g ∧ g ≤ s.shared.driverNextGeneration) :
    Inv (s.setStack t ([f'] ++ below)) := by
  refine h.setStack (fun g => ?_) (fun g => ?_) fun f'' hf'' => ?_
  · simp [hstack, List.countP_cons, hcounted]
  · simp [hstack, hleads, hleads']
  · rcases List.mem_cons.mp hf'' with rfl | hf''
    · exact hbound
    · exact h.frames t f'' (by rw [hstack]; exact List.mem_cons_of_mem _ hf'')

/-- The generation of the first frame of a thread has been bound. -/
lemma bounds (h : Inv s) (hstack : s.stack t = f :: below) (hg : f.generation = some g) :
    0 < g ∧ g ≤ s.shared.driverNextGeneration :=
  h.frames t f (by rw [hstack]; exact List.mem_cons_self) g hg

/-- The invariant of the generation of the first frame of a thread. -/
lemma genInv (h : Inv s) (hstack : s.stack t = f :: below) (hg : f.generation = some g) :
    GenInv s g :=
  h.bound g (h.bounds hstack hg).1 (h.bounds hstack hg).2

section

variable {f' : Option Frame} {sh : Shared T} {d skip : Bool} {o : Outcome}

/-- A callback reads the slot. -/
lemma advance_enter {c : Callback} (h : Inv s) (hstack : s.stack t = .enter c :: below)
    (ha : Frame.advance s.shared t below d skip o (.enter c) = some (sh, f')) :
    Inv (({ s with shared := sh }).setStack t (f'.toList ++ below)) := by
  rw [Frame.advance] at ha
  split_ifs at ha
  · obtain ⟨rfl, rfl⟩ := Prod.mk.inj (Option.some.inj ha)
    exact h.returns hstack rfl rfl
  · obtain ⟨rfl, rfl⟩ := Prod.mk.inj (Option.some.inj ha)
    cases hslot : s.shared.driverBinding with
    | none =>
      exact h.returns hstack rfl rfl
    | some g =>
      refine h.goesOn (.lease c g) hstack rfl rfl rfl fun g' hg' => ?_
      obtain rfl := Option.some.inj hg'
      exact h.slot g hslot

/-- A lease is granted if the generation is bound, and counted. -/
lemma advance_lease {c : Callback} (h : Inv s) (hstack : s.stack t = .lease c g :: below)
    (ha : Frame.advance s.shared t below d skip o (.lease c g) = some (sh, f')) :
    Inv (({ s with shared := sh }).setStack t (f'.toList ++ below)) := by
  obtain ⟨hstage, htally⟩ := h.genInv hstack rfl
  rw [Frame.advance] at ha
  split_ifs at ha with hgrants
  · obtain ⟨rfl, rfl⟩ := Prod.mk.inj (Option.some.inj ha)
    have hbound : (s.shared.binding g).state = .bound := by
      simp only [Binding.grants, Bool.false_eq_true, false_and, or_false,
        decide_eq_true_eq] at hgrants
      exact hgrants.2
    obtain ⟨hslot, hr, hd, hl, hw, hs⟩ :=
      hstage.attached_of_state (by rw [hbound]; decide)
    refine h.touch [.granted c g] hstack rfl (by simp [Frame.generation])
      (.attached hslot hr (by simp [Binding.acquire, hbound]) hd hl hw hs) ?_ (fun t' ht => ?_)
      ?_ rfl (by simp [Frame.leads]) rfl
    · simp [Binding.acquire, htally.inflight]
    · exact Multiset.count_cons_of_ne ht _
    · simp [Binding.acquire, Frame.counted, Frame.held]
  · obtain ⟨rfl, rfl⟩ := Prod.mk.inj (Option.some.inj ha)
    exact h.returns hstack rfl rfl

/-- The callback of a lease begins, unless it is to be skipped. -/
lemma advance_granted {c : Callback} (h : Inv s) (hstack : s.stack t = .granted c g :: below)
    (ha : Frame.advance s.shared t below d skip o (.granted c g) = some (sh, f')) :
    Inv (({ s with shared := sh }).setStack t (f'.toList ++ below)) := by
  have hbound := h.bounds hstack rfl
  rw [Frame.advance] at ha
  split_ifs at ha
  · obtain ⟨rfl, rfl⟩ := Prod.mk.inj (Option.some.inj ha)
    exact h.goesOn (.release g) hstack rfl rfl rfl (by simpa [Frame.generation] using hbound)
  · obtain ⟨rfl, rfl⟩ := Prod.mk.inj (Option.some.inj ha)
    exact h.goesOn (.running c g) hstack rfl rfl rfl (by simpa [Frame.generation] using hbound)

/-- A callback returns, and may have failed. -/
lemma advance_running {c : Callback} (h : Inv s) (hstack : s.stack t = .running c g :: below)
    (ha : Frame.advance s.shared t below d skip o (.running c g) = some (sh, f')) :
    Inv (({ s with shared := sh }).setStack t (f'.toList ++ below)) := by
  have hbound := h.bounds hstack rfl
  rw [Frame.advance] at ha
  split_ifs at ha
  · obtain ⟨rfl, rfl⟩ := Prod.mk.inj (Option.some.inj ha)
    exact h.goesOn (.release g) hstack rfl rfl rfl (by simpa [Frame.generation] using hbound)
  · obtain ⟨rfl, rfl⟩ := Prod.mk.inj (Option.some.inj ha)
    exact h.goesOn (.fail c g _) hstack rfl rfl rfl (by simpa [Frame.generation] using hbound)

/-- A failure is recorded. -/
lemma advance_fail {c : Callback} {err : Bool} (h : Inv s)
    (hstack : s.stack t = .fail c g err :: below)
    (ha : Frame.advance s.shared t below d skip o (.fail c g err) = some (sh, f')) :
    Inv (({ s with shared := sh }).setStack t (f'.toList ++ below)) := by
  have hmem : Frame.fail c g err ∈ s.stack t := by
    rw [hstack]
    exact List.mem_cons_self
  obtain ⟨hstage, htally⟩ := h.genInv hstack rfl
  have hne := htally.inflight_ne_zero hmem rfl
  obtain ⟨rfl, rfl⟩ := Prod.mk.inj (Option.some.inj ha)
  have hsame : ((s.shared.binding g).driverFail c err).inflight = (s.shared.binding g).inflight ∧
      ((s.shared.binding g).driverFail c err).holders = (s.shared.binding g).holders ∧
      ((s.shared.binding g).driverFail c err).leader = (s.shared.binding g).leader := by
    unfold Binding.driverFail
    split
    · split_ifs <;> exact ⟨rfl, rfl, rfl⟩
    · exact ⟨rfl, rfl, rfl⟩
    · exact ⟨rfl, rfl, rfl⟩
  obtain ⟨hinflight, hholders, hleader⟩ := hsame
  refine h.touch [.release g] hstack rfl (by simp [Frame.generation])
    (hstage.driverFail hne c err) ?_ (fun t' _ => by rw [hholders]) ?_ rfl
    (by simp [Frame.leads]) hleader
  · rw [hinflight, hholders]
    exact htally.inflight
  · rw [hholders]
    simp [Frame.counted, Frame.held]

/-- A lease is given back. -/
lemma advance_release (h : Inv s) (hstack : s.stack t = .release g :: below)
    (ha : Frame.advance s.shared t below d skip o (.release g) = some (sh, f')) :
    Inv (({ s with shared := sh }).setStack t (f'.toList ++ below)) := by
  have hmem : Frame.release g ∈ s.stack t := by
    rw [hstack]
    exact List.mem_cons_self
  obtain ⟨hstage, htally⟩ := h.genInv hstack rfl
  have hne := htally.inflight_ne_zero hmem rfl
  have hin := htally.mem_holders hmem rfl
  obtain ⟨rfl, rfl⟩ := Prod.mk.inj (Option.some.inj ha)
  refine h.touch [] hstack rfl (by simp)
    (hstage.of_inflight hne rfl rfl rfl rfl rfl rfl) ?_ (fun t' ht => ?_) ?_ rfl (by simp) rfl
  · change (s.shared.binding g).inflight - 1 = _
    rw [htally.inflight]
    exact (Multiset.card_erase_of_mem hin).symm
  · exact Multiset.count_erase_of_ne ht _
  · have hpos := Multiset.count_pos.mpr hin
    change Multiset.count t ((s.shared.binding g).holders.erase t) + _ = _
    rw [Multiset.count_erase_self]
    simp [Frame.counted, Frame.held]
    omega

/-- `_UnregisterDriver` looks at the slot and at the leases of its own thread. -/
lemma advance_unregister (h : Inv s) (hstack : s.stack t = .unregister g :: below)
    (ha : Frame.advance s.shared t below d skip o (.unregister g) = some (sh, f')) :
    Inv (({ s with shared := sh }).setStack t (f'.toList ++ below)) := by
  rw [Frame.advance] at ha
  split_ifs at ha with hslot hself
  · obtain ⟨rfl, rfl⟩ := Prod.mk.inj (Option.some.inj ha)
    exact h.returns hstack rfl rfl
  · obtain ⟨rfl, rfl⟩ := Prod.mk.inj (Option.some.inj ha)
    exact h.returns hstack rfl rfl
  · obtain ⟨rfl, rfl⟩ := Prod.mk.inj (Option.some.inj ha)
    have hbound := h.slot g (not_not.mp hslot)
    exact h.goesOn (.lead g) hstack rfl rfl rfl (by simpa [Frame.generation] using hbound)

/-- The first detachment of a generation leads it, and the others join it. -/
lemma advance_lead (h : Inv s) (hstack : s.stack t = .lead g :: below)
    (ha : Frame.advance s.shared t below d skip o (.lead g) = some (sh, f')) :
    Inv (({ s with shared := sh }).setStack t (f'.toList ++ below)) := by
  obtain ⟨hstage, htally⟩ := h.genInv hstack rfl
  rw [Frame.advance] at ha
  split_ifs at ha with hreserved
  · obtain ⟨rfl, rfl⟩ := Prod.mk.inj (Option.some.inj ha)
    obtain ⟨hslot, -, hd, hl, hw, hs⟩ := hstage.attached_of_reserved hreserved
    have hold := htally.leader t
    rw [hl, hstack, List.filter_cons_of_neg (by simp [Frame.leads])] at hold
    refine h.update [.terminal g] hstack rfl (by simp [Frame.generation]) (.inl rfl)
      (.leading hslot rfl rfl hd rfl hw hs) ?_ (fun t' ht => ?_) ?_ ?_ (fun t' ht => ?_)
    · simp [Binding.reserve, Binding.acquire, htally.inflight]
    · exact Multiset.count_cons_of_ne ht _
    · simp [Binding.reserve, Binding.acquire, Frame.counted, Frame.held]
    · rw [List.filter_append, hold]
      simp [Binding.reserve, ledBy, Frame.leads]
    · simp [Binding.reserve, ledBy, hl, Ne.symm ht]
  · obtain ⟨rfl, rfl⟩ := Prod.mk.inj (Option.some.inj ha)
    have hbound := h.bounds hstack rfl
    exact h.goesOn (.join g) hstack rfl rfl rfl (by simpa [Frame.generation] using hbound)

/-- A detachment that has joined returns once the generation is detached. -/
lemma advance_join (h : Inv s) (hstack : s.stack t = .join g :: below)
    (ha : Frame.advance s.shared t below d skip o (.join g) = some (sh, f')) :
    Inv (({ s with shared := sh }).setStack t (f'.toList ++ below)) := by
  obtain ⟨hstage, htally⟩ := h.genInv hstack rfl
  rw [Frame.advance] at ha
  split_ifs at ha with hd
  obtain ⟨rfl, rfl⟩ := Prod.mk.inj (Option.some.inj ha)
  obtain ⟨hslot, hinflight, hl, hw, hstate⟩ := hstage.of_detached hd
  have hr : (s.shared.binding g).terminalWakeReserved = true := by
    by_contra hr
    have hnot := hstage.attached_of_reserved (by simpa using hr)
    rw [hnot.2.2.1] at hd
    cases hd
  refine h.touch [] hstack rfl (by simp)
    (.detached hslot hr hstate hd hl hw hinflight) htally.inflight (fun _ _ => rfl) ?_ rfl
    (by simp) rfl
  simp [Frame.counted, Frame.held]

/-- The terminal wake begins. -/
lemma advance_terminal (h : Inv s) (hstack : s.stack t = .terminal g :: below)
    (ha : Frame.advance s.shared t below d skip o (.terminal g) = some (sh, f')) :
    Inv (({ s with shared := sh }).setStack t (f'.toList ++ below)) := by
  obtain ⟨hstage, htally⟩ := h.genInv hstack rfl
  obtain ⟨rfl, rfl⟩ := Prod.mk.inj (Option.some.inj ha)
  obtain ⟨⟨hr, hstate, hd, hs⟩, hcase⟩ := hstage.of_leader (htally.leader_eq hstack rfl).1
  have hzero : s.shared.driverBinding = some g ∧ (s.shared.binding g).terminalWakes = 0 := by
    simpa using hcase
  refine h.lead (.terminalWake g) hstack rfl rfl (.inl rfl)
    (.waking hzero.1 hr hstate hd rfl (.inl rfl) (by simp [hzero.2]) hs) htally.inflight
    (fun _ _ => rfl) ?_ rfl
  simp [Binding.led, Frame.counted, Frame.held]

/-- The terminal wake returns. -/
lemma advance_terminalWake (h : Inv s) (hstack : s.stack t = .terminalWake g :: below)
    (ha : Frame.advance s.shared t below d skip o (.terminalWake g) = some (sh, f')) :
    Inv (({ s with shared := sh }).setStack t (f'.toList ++ below)) := by
  obtain ⟨hstage, htally⟩ := h.genInv hstack rfl
  obtain ⟨rfl, rfl⟩ := Prod.mk.inj (Option.some.inj ha)
  obtain ⟨⟨hr, hstate, hd, hs⟩, hcase⟩ := hstage.of_leader (htally.leader_eq hstack rfl).1
  have hone : s.shared.driverBinding = some g ∧ (s.shared.binding g).terminalWakes = 1 := by
    simpa using hcase
  refine h.lead (.terminalRelease g) hstack rfl rfl (.inl rfl)
    (.waking hone.1 hr hstate hd rfl (.inr (.inl rfl)) hone.2 hs) htally.inflight
    (fun _ _ => rfl) ?_ rfl
  simp [Binding.led, Frame.counted, Frame.held]

/-- The lease of the terminal wake is given back. -/
lemma advance_terminalRelease (h : Inv s) (hstack : s.stack t = .terminalRelease g :: below)
    (ha : Frame.advance s.shared t below d skip o (.terminalRelease g) = some (sh, f')) :
    Inv (({ s with shared := sh }).setStack t (f'.toList ++ below)) := by
  have hmem : Frame.terminalRelease g ∈ s.stack t := by
    rw [hstack]
    exact List.mem_cons_self
  obtain ⟨hstage, htally⟩ := h.genInv hstack rfl
  have hin := htally.mem_holders hmem rfl
  obtain ⟨rfl, rfl⟩ := Prod.mk.inj (Option.some.inj ha)
  obtain ⟨⟨hr, hstate, hd, hs⟩, hcase⟩ := hstage.of_leader (htally.leader_eq hstack rfl).1
  have hone : s.shared.driverBinding = some g ∧ (s.shared.binding g).terminalWakes = 1 := by
    simpa using hcase
  refine h.lead (.drain g) hstack rfl rfl (.inl rfl)
    (.waking hone.1 hr hstate hd rfl (.inr (.inr rfl)) hone.2 hs) ?_ (fun t' ht => ?_) ?_ rfl
  · change (s.shared.binding g).inflight - 1 = _
    rw [htally.inflight]
    exact (Multiset.card_erase_of_mem hin).symm
  · exact Multiset.count_erase_of_ne ht _
  · have hpos := Multiset.count_pos.mpr hin
    change Multiset.count t ((s.shared.binding g).holders.erase t) + _ = _
    rw [Multiset.count_erase_self]
    simp [Frame.counted, Frame.held]
    omega

/-- The leader waits until no lease is counted any more. -/
lemma advance_drain (h : Inv s) (hstack : s.stack t = .drain g :: below)
    (ha : Frame.advance s.shared t below d skip o (.drain g) = some (sh, f')) :
    Inv (({ s with shared := sh }).setStack t (f'.toList ++ below)) := by
  obtain ⟨hstage, htally⟩ := h.genInv hstack rfl
  rw [Frame.advance] at ha
  split_ifs at ha with hzero
  obtain ⟨rfl, rfl⟩ := Prod.mk.inj (Option.some.inj ha)
  obtain ⟨⟨hr, hstate, hd, hs⟩, hcase⟩ := hstage.of_leader (htally.leader_eq hstack rfl).1
  have hone : s.shared.driverBinding = some g ∧ (s.shared.binding g).terminalWakes = 1 := by
    simpa using hcase
  refine h.lead (.clear g) hstack rfl rfl (.inl rfl)
    (.clearing hone.1 hr hstate hd rfl hone.2 hzero hs) htally.inflight (fun _ _ => rfl) ?_ rfl
  simp [Binding.led, Frame.counted, Frame.held]

/-- The leader clears the slot. -/
lemma advance_clear (h : Inv s) (hstack : s.stack t = .clear g :: below)
    (ha : Frame.advance s.shared t below d skip o (.clear g) = some (sh, f')) :
    Inv (({ s with shared := sh }).setStack t (f'.toList ++ below)) := by
  obtain ⟨hstage, htally⟩ := h.genInv hstack rfl
  obtain ⟨rfl, rfl⟩ := Prod.mk.inj (Option.some.inj ha)
  obtain ⟨⟨hr, hstate, hd, hs⟩, hcase⟩ := hstage.of_leader (htally.leader_eq hstack rfl).1
  have hone : s.shared.driverBinding = some g ∧ (s.shared.binding g).terminalWakes = 1 ∧
      (s.shared.binding g).inflight = 0 := by
    simpa using hcase
  refine h.lead (.detach g) hstack rfl rfl (.inr ⟨if_pos hone.1, hone.1⟩)
    (.cleared (by simp [hone.1]) hr hstate hd rfl hone.2.1 hone.2.2 hs) htally.inflight
    (fun _ _ => rfl) ?_ rfl
  simp [Binding.led, Frame.counted, Frame.held]

/-- The leader has detached its generation. -/
lemma advance_detach (h : Inv s) (hstack : s.stack t = .detach g :: below)
    (ha : Frame.advance s.shared t below d skip o (.detach g) = some (sh, f')) :
    Inv (({ s with shared := sh }).setStack t (f'.toList ++ below)) := by
  obtain ⟨hstage, htally⟩ := h.genInv hstack rfl
  obtain ⟨rfl, rfl⟩ := Prod.mk.inj (Option.some.inj ha)
  obtain ⟨hold, hrest⟩ := htally.leader_eq hstack rfl
  obtain ⟨⟨hr, hstate, -, -⟩, hcase⟩ := hstage.of_leader hold
  have hone : s.shared.driverBinding ≠ some g ∧ (s.shared.binding g).terminalWakes = 1 ∧
      (s.shared.binding g).inflight = 0 := by
    simpa using hcase
  refine h.update [] hstack rfl (by simp) (.inl rfl)
    (.detached hone.1 hr hstate rfl rfl hone.2.1 hone.2.2) htally.inflight (fun _ _ => rfl) ?_ ?_
    (fun t' ht => ?_)
  · simp [Frame.counted, Frame.held]
  · rw [List.nil_append, hrest]
    rfl
  · rw [hold]
    simp [ledBy, Ne.symm ht]

/-- A step of a frame keeps the invariant. -/
lemma advance (h : Inv s) (hstack : s.stack t = f :: below)
    (ha : f.advance s.shared t below d skip o = some (sh, f')) :
    Inv (({ s with shared := sh }).setStack t (f'.toList ++ below)) := by
  cases f with
  | enter => exact h.advance_enter hstack ha
  | lease => exact h.advance_lease hstack ha
  | granted => exact h.advance_granted hstack ha
  | running => exact h.advance_running hstack ha
  | fail => exact h.advance_fail hstack ha
  | release => exact h.advance_release hstack ha
  | unregister => exact h.advance_unregister hstack ha
  | lead => exact h.advance_lead hstack ha
  | join => exact h.advance_join hstack ha
  | terminal => exact h.advance_terminal hstack ha
  | terminalWake => exact h.advance_terminalWake hstack ha
  | terminalRelease => exact h.advance_terminalRelease hstack ha
  | drain => exact h.advance_drain hstack ha
  | clear => exact h.advance_clear hstack ha
  | detach => exact h.advance_detach hstack ha

end

/-- A new driver is bound to a generation that no frame has seen. -/
lemma bind (h : Inv s) (active : Bool) :
    Inv ({ s with shared := (s.shared.bindDriver active).1 }) ∧
    ((s.shared.bindDriver active).2 = none → (s.shared.bindDriver active).1 = s.shared) ∧
    ∀ g, (s.shared.bindDriver active).2 = some g → s.shared.driverBinding = none ∧
      (s.shared.bindDriver active).1.driverBinding = some g ∧
      g = s.shared.driverNextGeneration + 1 ∧
      (s.shared.bindDriver active).1.driverNextGeneration = g := by
  unfold Shared.bindDriver
  dsimp only
  split_ifs with hactive hslot hmax
  · exact ⟨h, fun _ => rfl, fun g hg => by cases hg⟩
  · exact ⟨h, fun _ => rfl, fun g hg => by cases hg⟩
  · exact ⟨h, fun _ => rfl, fun g hg => by cases hg⟩
  · have hnone : s.shared.driverBinding = none := not_not.mp hslot
    have hle := h.le_max
    refine ⟨⟨?_, fun g hg => ?_, fun t' f hf g hg => ?_, fun g hpos hg => ?_, fun g hg => ?_⟩,
      fun hno => (by cases hno), fun g hg => ?_⟩
    · change s.shared.driverNextGeneration + 1 ≤ generationMax
      omega
    · obtain rfl := Option.some.inj hg
      exact ⟨Nat.succ_pos _, le_rfl⟩
    · obtain ⟨hpos, hbound⟩ := h.frames t' f hf g hg
      exact ⟨hpos, hbound.trans (Nat.le_succ _)⟩
    · by_cases hnew : g = s.shared.driverNextGeneration + 1
      · have hfresh : ∀ t' f, f ∈ s.stack t' → f.generation ≠ some g := by
          intro t' f hf hgen
          have hbound := (h.frames t' f hf g hgen).2
          omega
        have hself : (s.shared.set g ({} : Binding T)).binding g = {} :=
          Shared.set_binding_self _ _ _
        rw [← hnew]
        constructor
        · change Stage g ((s.shared.set g ({} : Binding T)).binding g) (some g = some g)
          rw [hself]
          exact .attached rfl rfl (by simp) rfl rfl rfl rfl
        · change Tally g ((s.shared.set g ({} : Binding T)).binding g) s.stack
          rw [hself]
          refine ⟨rfl, fun t' => ?_, fun t' => ?_⟩
          · refine (List.countP_eq_zero.mpr fun f hf hc => ?_).symm
            exact hfresh t' f hf (Frame.generation_of_counted (of_decide_eq_true hc))
          · refine List.filter_eq_nil_iff.mpr fun f hf hl => ?_
            exact hfresh t' f hf (Frame.generation_of_leads (of_decide_eq_true hl))
      · have hold : g ≤ s.shared.driverNextGeneration := by
          have hg' : g ≤ s.shared.driverNextGeneration + 1 := hg
          omega
        obtain ⟨hstage, htally⟩ := h.bound g hpos hold
        have hother : (s.shared.set (s.shared.driverNextGeneration + 1)
            ({} : Binding T)).binding g = s.shared.binding g := Shared.set_binding_of_ne _ hnew _
        constructor
        · change Stage g ((s.shared.set (s.shared.driverNextGeneration + 1)
            ({} : Binding T)).binding g) (some (s.shared.driverNextGeneration + 1) = some g)
          have hiff : (some (s.shared.driverNextGeneration + 1) = some g) = (none = some g) := by
            simp [Ne.symm hnew]
          rw [hother, hiff, ← hnone]
          exact hstage
        · change Tally g ((s.shared.set (s.shared.driverNextGeneration + 1)
            ({} : Binding T)).binding g) s.stack
          rw [hother]
          exact htally
    · have hne : g ≠ s.shared.driverNextGeneration + 1 := by
        rcases hg with hzero | hlt
        · omega
        · exact hlt.ne'
      refine (Shared.set_binding_of_ne _ hne _).trans (h.fresh g ?_)
      rcases hg with hzero | hlt
      · exact .inl hzero
      · exact .inr (Nat.lt_of_succ_lt hlt)
    · obtain rfl := Option.some.inj hg
      exact ⟨hnone, rfl, rfl, rfl⟩

/-- A call enters. -/
lemma push {f : Frame} (h : Inv s) (hcounted : f.counted = none) (hleads : f.leads = none)
    (hgen : f.generation = none) : Inv (s.setStack t (f :: s.stack t)) := by
  refine h.setStack (fun g => ?_) (fun g => ?_) fun f' hf' g hg => ?_
  · rw [List.countP_cons_of_neg (by simp [hcounted])]
  · rw [List.filter_cons_of_neg (by simp [hleads])]
  · rcases List.mem_cons.mp hf' with rfl | hf'
    · rw [hgen] at hg
      cases hg
    · exact h.frames t f' hf' g hg

/-- Every step keeps the invariant. -/
lemma step {l : Label T} (h : Inv s) (hs : next s l = some s') : Inv s' := by
  cases l with
  | bind t active =>
    obtain ⟨hi, -, -⟩ := h.bind active
    rw [next] at hs
    split_ifs at hs
    generalize s.shared.bindDriver active = a at hs hi
    obtain ⟨sh, r⟩ := a
    cases r with
    | none =>
      obtain rfl := Option.some.inj hs
      exact hi
    | some g =>
      obtain rfl := Option.some.inj hs
      exact hi.push (t := t) rfl rfl rfl
  | call t c | unregister t g =>
    rw [next] at hs
    split_ifs at hs
    obtain rfl := Option.some.inj hs
    exact h.push rfl rfl rfl
  | defer t | undefer t =>
    rw [next] at hs
    split_ifs at hs
    obtain rfl := Option.some.inj hs
    exact ⟨h.le_max, h.slot, h.frames, fun g hpos hle =>
      ⟨(h.bound g hpos hle).stage, (h.bound g hpos hle).tally⟩, h.fresh⟩
  | run t skip o =>
    rw [next] at hs
    split at hs
    · cases hs
    · rename_i f below hstack
      obtain ⟨⟨sh, f'⟩, ha, rfl⟩ := Option.map_eq_some_iff.mp hs
      exact h.advance hstack ha

end Inv

/-- The invariant holds in every reachable state. -/
theorem inv_of_reachable (h : (system T).Reachable s) : Inv s := by
  refine System.Reachable.induct (I := Inv) ?_ (fun s l s' hi hs => hi.step hs) h
  rintro s rfl
  refine ⟨Nat.zero_le _, fun g hg => (by cases hg), fun t f hf => (by cases hf),
    fun g hpos hle => ?_, fun _ _ => rfl⟩
  have hzero : g ≤ 0 := hle
  omega

/-! ## What a step changes -/

/-- What a step of a frame of the generation `g` makes of the shared state. -/
structure Touches (g : ℕ) (sh sh' : Shared T) : Prop where
  driverNextGeneration : sh'.driverNextGeneration = sh.driverNextGeneration
  others : ∀ g', g' ≠ g → sh'.binding g' = sh.binding g'
  slot : sh'.driverBinding = sh.driverBinding ∨
    (sh'.driverBinding = none ∧ sh.driverBinding = some g)
  detaching : (sh.binding g).state = .detaching → (sh'.binding g).state = .detaching
  succeeded : (sh.binding g).succeeded = true → (sh'.binding g).succeeded = true

omit [DecidableEq T] in
/-- Setting a binding touches its generation only. -/
lemma touches_set {sh : Shared T} {b : Binding T} {slot : Option ℕ}
    (hslot : slot = sh.driverBinding ∨ (slot = none ∧ sh.driverBinding = some g))
    (hstate : (sh.binding g).state = .detaching → b.state = .detaching)
    (hsucceeded : (sh.binding g).succeeded = true → b.succeeded = true) :
    Touches g sh { sh.set g b with driverBinding := slot } where
  driverNextGeneration := rfl
  others g' hne := Shared.set_binding_of_ne _ hne _
  slot := hslot
  detaching hd := by
    have hself : (sh.set g b).binding g = b := Shared.set_binding_self _ _ _
    change ((sh.set g b).binding g).state = _
    rw [hself]
    exact hstate hd
  succeeded hs := by
    have hself : (sh.set g b).binding g = b := Shared.set_binding_self _ _ _
    change ((sh.set g b).binding g).succeeded = _
    rw [hself]
    exact hsucceeded hs

/-- A step of a frame leaves the shared state as it is, or touches the generation of the frame. -/
lemma advance_touches {f' : Option Frame} {sh sh' : Shared T} {d skip : Bool} {o : Outcome}
    (ha : f.advance sh t below d skip o = some (sh', f')) :
    sh' = sh ∨ ∃ g, f.generation = some g ∧ Touches g sh sh' := by
  have hread : ∀ r : Option Frame, some (sh, r) = some (sh', f') → sh' = sh := by
    intro r hr
    exact (Prod.mk.inj (Option.some.inj hr)).1.symm
  cases f with
  | enter c | unregister g =>
    rw [Frame.advance] at ha
    left
    split_ifs at ha <;> exact hread _ ha
  | granted c g | running c g =>
    rw [Frame.advance] at ha
    left
    split_ifs at ha <;> exact hread _ ha
  | lease c g =>
    rw [Frame.advance] at ha
    split_ifs at ha
    · obtain ⟨rfl, rfl⟩ := Prod.mk.inj (Option.some.inj ha)
      exact .inr ⟨g, rfl, touches_set (.inl rfl) id id⟩
    · exact .inl (hread _ ha)
  | fail c g err =>
    obtain ⟨rfl, rfl⟩ := Prod.mk.inj (Option.some.inj ha)
    refine .inr ⟨g, rfl, touches_set (.inl rfl) (fun hd => ?_) (fun hs => ?_)⟩
    · unfold Binding.driverFail
      rw [hd]
      dsimp only
      split_ifs
      · rfl
      · exact hd
    · unfold Binding.driverFail
      split
      · split_ifs <;> exact hs
      · exact hs
      · exact hs
  | lead g =>
    rw [Frame.advance] at ha
    split_ifs at ha
    · obtain ⟨rfl, rfl⟩ := Prod.mk.inj (Option.some.inj ha)
      exact .inr ⟨g, rfl, touches_set (.inl rfl) (fun _ => rfl) id⟩
    · exact .inl (hread _ ha)
  | join g =>
    rw [Frame.advance] at ha
    split_ifs at ha
    obtain ⟨rfl, rfl⟩ := Prod.mk.inj (Option.some.inj ha)
    exact .inr ⟨g, rfl, touches_set (.inl rfl) id fun _ => rfl⟩
  | detach g =>
    obtain ⟨rfl, rfl⟩ := Prod.mk.inj (Option.some.inj ha)
    exact .inr ⟨g, rfl, touches_set (.inl rfl) id fun _ => rfl⟩
  | drain g =>
    rw [Frame.advance] at ha
    split_ifs at ha
    obtain ⟨rfl, rfl⟩ := Prod.mk.inj (Option.some.inj ha)
    exact .inr ⟨g, rfl, touches_set (.inl rfl) id id⟩
  | release g | terminal g | terminalWake g | terminalRelease g =>
    obtain ⟨rfl, rfl⟩ := Prod.mk.inj (Option.some.inj ha)
    exact .inr ⟨g, rfl, touches_set (.inl rfl) id id⟩
  | clear g =>
    obtain ⟨rfl, rfl⟩ := Prod.mk.inj (Option.some.inj ha)
    refine .inr ⟨g, rfl, touches_set ?_ id id⟩
    by_cases hslot : sh.driverBinding = some g
    · exact .inr ⟨if_pos hslot, hslot⟩
    · exact .inl (if_neg hslot)

/-- What holds of a step from `s` to `s'`. -/
structure SafeStep (s : State T) (l : Label T) (s' : State T) : Prop where
  /-- A new binding has a generation greater than all before. -/
  newer : ∀ g, s'.shared.driverBinding = some g → s.shared.driverBinding ≠ some g →
    s.shared.driverBinding = none ∧ s.shared.driverNextGeneration < g
  /-- A call with a token, or for a generation that it has read, changes no other generation. -/
  others : ∀ t skip o f below g, l = .run t skip o → s.stack t = f :: below →
    f.generation ≠ some g → s'.shared.binding g = s.shared.binding g ∧
      (s.shared.driverBinding = some g → s'.shared.driverBinding = some g)
  /-- A lease is granted only while the generation is bound. -/
  granted : ∀ t c g below, s.stack t = .lease c g :: below → s'.stack t = .granted c g :: below →
    (s.shared.binding g).state = .bound ∧ s.shared.driverBinding = some g
  detaching : ∀ g, (s.shared.binding g).state = .detaching →
    (s'.shared.binding g).state = .detaching
  succeeded : ∀ g, (s.shared.binding g).succeeded = true →
    (s'.shared.binding g).succeeded = true

/-- A step that leaves the frames of the other threads as they are, and whose thread is free,
grants no lease. -/
lemma not_granted_of_free {t' : T} {c : Callback} (hfree : s.free t = true)
    (hstack : ∀ t', t' ≠ t → s'.stack t' = s.stack t') (hl : s.stack t' = .lease c g :: below)
    (hg : s'.stack t' = .granted c g :: below) : False := by
  by_cases ht : t' = t
  · subst ht
    rw [State.free, hl] at hfree
    cases hfree
  · rw [hstack t' ht, hl] at hg
    cases hg

/-- A step outside the frames leaves the shared state as it is. -/
lemma safeStep_of_shared {l : Label T} (hl : ∀ t skip o, l ≠ .run t skip o)
    (hfree : s.free t = true) (hstack : ∀ t', t' ≠ t → s'.stack t' = s.stack t')
    (hshared : s'.shared = s.shared) : SafeStep s l s' where
  newer g hg hne := by
    rw [hshared] at hg
    exact absurd hg hne
  others t' skip o _ _ _ heq := absurd heq (hl t' skip o)
  granted _ _ _ _ hlease hg := (not_granted_of_free hfree hstack hlease hg).elim
  detaching g hd := by rwa [hshared]
  succeeded g hs := by rwa [hshared]

/-- A binding of a new generation changes no other one. -/
lemma Inv.safeStep_bind {active : Bool} (h : Inv s) (hfree : s.free t = true)
    (hstack : ∀ t', t' ≠ t → s'.stack t' = s.stack t')
    (hshared : s'.shared = (s.shared.bindDriver active).1) :
    SafeStep s (.bind t active) s' := by
  obtain ⟨hi, hsame, hnew⟩ := h.bind active
  cases hr : (s.shared.bindDriver active).2 with
  | none =>
    exact safeStep_of_shared (fun _ _ _ => by simp) hfree hstack (hshared.trans (hsame hr))
  | some g =>
    obtain ⟨hnone, hslot, hg, -⟩ := hnew g hr
    have hbinding : (s.shared.bindDriver active).1.binding =
        Function.update s.shared.binding g {} := by
      unfold Shared.bindDriver at hr ⊢
      split_ifs at hr ⊢ with h₁ h₂ h₃
      obtain rfl := Option.some.inj hr
      rfl
    have hfresh : s.shared.binding g = {} := h.fresh g (.inr (by omega))
    have hkept : ∀ g', s'.shared.binding g' = s.shared.binding g' := by
      intro g'
      rw [hshared, hbinding]
      by_cases hne : g' = g
      · subst hne
        rw [Function.update_self, hfresh]
      · rw [Function.update_of_ne hne]
    refine ⟨fun g' hg' _ => ?_, fun t' skip o f below g' heq => (by cases heq),
      fun t' c g' below hlease hgranted => (not_granted_of_free hfree hstack hlease hgranted).elim,
      fun g' hd => (by rwa [hkept g']), fun g' hs => (by rwa [hkept g'])⟩
    rw [hshared, hslot] at hg'
    obtain rfl := Option.some.inj hg'
    exact ⟨hnone, by omega⟩

/-- Every step from a state with the invariant is safe. -/
lemma Inv.safeStep {l : Label T} (h : Inv s) (hs : next s l = some s') : SafeStep s l s' := by
  cases l with
  | bind t active =>
    rw [next] at hs
    split_ifs at hs with hfree
    generalize hbind : s.shared.bindDriver active = a at hs
    obtain ⟨sh, r⟩ := a
    cases r with
    | none =>
      obtain rfl := Option.some.inj hs
      exact h.safeStep_bind hfree (fun _ _ => rfl) (by rw [hbind])
    | some g =>
      obtain rfl := Option.some.inj hs
      exact h.safeStep_bind hfree (fun t' ht => State.setStack_stack_of_ne _ ht _) (by
        rw [hbind, State.setStack_shared])
  | call t c | unregister t g =>
    rw [next] at hs
    split_ifs at hs with hfree
    obtain rfl := Option.some.inj hs
    exact safeStep_of_shared (fun _ _ _ => by simp) hfree
      (fun t' ht => State.setStack_stack_of_ne _ ht _) rfl
  | defer t | undefer t =>
    rw [next] at hs
    split_ifs at hs with hfree
    obtain rfl := Option.some.inj hs
    exact safeStep_of_shared (fun _ _ _ => by simp) hfree (fun _ _ => rfl) rfl
  | run t skip o =>
    rw [next] at hs
    split at hs
    · cases hs
    · rename_i f below hstack
      obtain ⟨⟨sh, f'⟩, ha, rfl⟩ := Option.map_eq_some_iff.mp hs
      have htouch := advance_touches ha
      refine ⟨fun g hg hne => ?_, fun t' skip' o' f₀ below₀ g heq hstack' hgen => ?_,
        fun t' c g below' hlease hgranted => ?_, fun g hd => ?_, fun g hsucc => ?_⟩
      · rw [State.setStack_shared] at hg
        rcases htouch with hsame | ⟨g', -, htouch⟩
        · exact absurd (hsame ▸ hg) hne
        · rcases htouch.slot with hslot | ⟨hslot, -⟩
          · exact absurd (hslot ▸ hg) hne
          · rw [show sh.driverBinding = none from hslot] at hg
            cases hg
      · cases heq
        obtain ⟨rfl, rfl⟩ := List.cons.inj (hstack.symm.trans hstack')
        rw [State.setStack_shared]
        rcases htouch with hsame | ⟨g', hg', htouch⟩
        · rw [show sh = s.shared from hsame]
          exact ⟨rfl, id⟩
        · have hne : g ≠ g' := by
            rintro rfl
            exact hgen hg'
          refine ⟨htouch.others g hne, fun hslot => ?_⟩
          rcases htouch.slot with heq | ⟨-, hold⟩
          · exact heq.trans hslot
          · rw [hslot] at hold
            exact absurd (Option.some.inj hold) hne
      · by_cases ht : t' = t
        · subst ht
          obtain ⟨rfl, rfl⟩ := List.cons.inj (hstack.symm.trans hlease)
          rw [Frame.advance] at ha
          split_ifs at ha with hgrants
          · have hbound : (s.shared.binding g).state = .bound := by
              simp only [Binding.grants, Bool.false_eq_true, false_and, or_false,
                decide_eq_true_eq] at hgrants
              exact hgrants.2
            obtain ⟨hpos, hle⟩ := h.frames t' _ (by rw [hstack]; exact List.mem_cons_self) g rfl
            exact ⟨hbound,
              ((h.bound g hpos hle).stage.attached_of_state (by rw [hbound]; decide)).1⟩
          · obtain ⟨rfl, rfl⟩ := Prod.mk.inj (Option.some.inj ha)
            rw [State.setStack_stack_self] at hgranted
            have hlen := congrArg List.length hgranted
            simp at hlen
        · rw [State.setStack_stack_of_ne _ ht] at hgranted
          rw [show s.stack t' = _ from hgranted] at hlease
          cases hlease
      · rw [State.setStack_shared]
        rcases htouch with hsame | ⟨g', -, htouch⟩
        · rwa [show sh = s.shared from hsame]
        · by_cases hne : g = g'
          · subst hne
            exact htouch.detaching hd
          · rwa [show sh.binding g = s.shared.binding g from htouch.others g hne]
      · rw [State.setStack_shared]
        rcases htouch with hsame | ⟨g', -, htouch⟩
        · rwa [show sh = s.shared from hsame]
        · by_cases hne : g = g'
          · subst hne
            exact htouch.succeeded hsucc
          · rwa [show sh.binding g = s.shared.binding g from htouch.others g hne]

/-! ## Safety of the generations -/

/-- The generation of the callback that runs in the frame, or starts with its next step. -/
def Frame.calls : Frame → Option ℕ
  | .granted _ g | .running _ g | .terminal g | .terminalWake g => some g
  | _ => none

/-- A frame that calls the driver holds a lease. -/
lemma Frame.counted_of_calls (h : f.calls = some g) : f.counted = some g := by
  cases f <;> first | exact h | cases h

/-- What holds of a reachable state. -/
structure SafeState (s : State T) : Prop where
  /-- Every generation that is bound, or that a frame has read, was given out. -/
  known : (∀ g, s.shared.driverBinding = some g → g ≤ s.shared.driverNextGeneration) ∧
    ∀ t, ∀ f ∈ s.stack t, ∀ g, f.generation = some g → g ≤ s.shared.driverNextGeneration
  /-- Every other generation was detached from the slot, and nobody calls its driver. -/
  one : ∀ g, 0 < g → g ≤ s.shared.driverNextGeneration → s.shared.driverBinding ≠ some g →
    (s.shared.binding g).state = .detaching ∧ ∀ t, ∀ f ∈ s.stack t, f.calls ≠ some g
  quiet : ∀ g, (s.shared.binding g).succeeded = true → ∀ t, ∀ f ∈ s.stack t, f.calls ≠ some g
  terminalWakes : ∀ g, (s.shared.binding g).terminalWakes ≤ 1 ∧
    ((s.shared.binding g).detached = true → (s.shared.binding g).terminalWakes = 1)
  /-- The generation of a callback has a lease and is not detached. -/
  leased : ∀ t, ∀ f ∈ s.stack t, ∀ g, f.calls = some g → (s.shared.binding g).inflight ≠ 0 ∧
    (s.shared.binding g).detached = false

/-- The invariant makes a state safe. -/
lemma Inv.safeState (h : Inv s) : SafeState s := by
  have hgen : ∀ g, (0 < g ∧ g ≤ s.shared.driverNextGeneration ∧ GenInv s g) ∨
      (s.shared.binding g = {} ∧ ∀ t, ∀ f ∈ s.stack t, f.generation ≠ some g) := by
    intro g
    by_cases hg : 0 < g ∧ g ≤ s.shared.driverNextGeneration
    · exact .inl ⟨hg.1, hg.2, h.bound g hg.1 hg.2⟩
    · refine .inr ⟨h.fresh g (by omega), fun t f hf hgen => hg (h.frames t f hf g hgen)⟩
  have hcalls : ∀ {f : Frame} {g : ℕ}, f.calls = some g → f.generation = some g :=
    fun hc => Frame.generation_of_counted (Frame.counted_of_calls hc)
  refine ⟨⟨fun g hg => (h.slot g hg).2, fun t f hf g hg => (h.frames t f hf g hg).2⟩,
    fun g hpos hle hslot => ?_, fun g hs t f hf hc => ?_, fun g => ?_, fun t f hf g hc => ?_⟩
  · obtain ⟨hstate, hzero⟩ := (h.bound g hpos hle).stage.of_not_slot hslot
    exact ⟨hstate, fun t f hf hc =>
      (h.bound g hpos hle).tally.counted_ne hzero hf (Frame.counted_of_calls hc)⟩
  · rcases hgen g with ⟨-, -, hinv⟩ | ⟨-, hnone⟩
    · have hzero := (hinv.stage.of_detached (hinv.stage.detached_of_succeeded hs)).2.1
      exact hinv.tally.counted_ne hzero hf (Frame.counted_of_calls hc)
    · exact hnone t f hf (hcalls hc)
  · rcases hgen g with ⟨-, -, hinv⟩ | ⟨hfresh, -⟩
    · exact ⟨hinv.stage.terminalWakes_le, fun hd => (hinv.stage.of_detached hd).2.2.2.1⟩
    · rw [hfresh]
      exact ⟨Nat.zero_le _, fun hd => (by cases hd)⟩
  · rcases hgen g with ⟨-, -, hinv⟩ | ⟨-, hnone⟩
    · have hne := hinv.tally.inflight_ne_zero hf (Frame.counted_of_calls hc)
      refine ⟨hne, ?_⟩
      by_contra hd
      exact hne (hinv.stage.of_detached (by simpa using hd)).2.1
    · exact absurd (hcalls hc) (hnone t f hf)

/-- The driver protocol is generation-safe: in every reachable state, in every step from it, and
after every detachment that has returned `Ok`. -/
theorem generationSafe_of_reachable (h : (system T).Reachable s) :
    SafeState s ∧ (∀ l s', next s l = some s' → SafeStep s l s') ∧
    ∀ g, (s.shared.binding g).succeeded = true → ∀ s' : State T,
      (system T).PathWhen (fun _ _ => True) s s' → ∀ t, ∀ f ∈ s'.stack t, f.calls ≠ some g := by
  have hi := inv_of_reachable h
  refine ⟨hi.safeState, fun l s' hs => hi.safeStep hs, fun g hg s' hpath => ?_⟩
  have hlater : (system T).Reachable s' ∧ (s'.shared.binding g).succeeded = true := by
    refine System.PathWhen.induct
      (I := fun s => (system T).Reachable s ∧ (s.shared.binding g).succeeded = true)
      ⟨h, hg⟩ ?_ hpath
    rintro s₁ l s₂ ⟨hr, hsucc⟩ - hs
    exact ⟨hr.step l hs, ((inv_of_reachable hr).safeStep hs).succeeded g hsucc⟩
  exact (inv_of_reachable hlater.1).safeState.quiet g hlater.2

/-- The first generation is detached and a second one bound. -/
theorem generationSafe_rebound : ∃ s : State ℕ,
    ((s.shared.binding 1).succeeded = true ∧ s.shared.driverBinding = some 2) ∧ SafeState s := by
  have hrun : (system ℕ).endsIn {}
      [.bind 0 true, .run 0 false .ok, .run 0 false .ok, .unregister 1 1, .run 1 false .ok,
        .run 1 false .ok, .run 1 false .ok, .run 0 false .ok, .run 0 false .ok, .run 0 false .ok,
        .run 1 false .ok, .run 1 false .ok, .run 1 false .ok, .run 1 false .ok, .run 1 false .ok,
        .bind 2 true]
      (fun s => (s.shared.binding 1).succeeded = true ∧ s.shared.driverBinding = some 2) =
        true := by
    decide
  obtain ⟨s, hs, hp⟩ := System.exists_of_endsIn rfl hrun
  exact ⟨s, hp, (generationSafe_of_reachable hs).1⟩

/-- A wake whose lease was granted while its generation was bound starts while the generation is
being detached. -/
theorem wake_starts_detaching : ∃ s s' : State ℕ, (system ℕ).Reachable s ∧
    s.stack 0 = [.granted .wake 1] ∧ (s.shared.binding 1).state = .detaching ∧
    next s (.run 0 false .ok) = some s' ∧ s'.stack 0 = [.running .wake 1] := by
  have hrun : (system ℕ).endsIn {}
      [.bind 0 true, .run 0 false .ok, .run 0 false .ok, .unregister 1 1, .run 1 false .ok,
        .run 1 false .ok]
      (fun s => s.stack 0 = [.granted .wake 1] ∧ (s.shared.binding 1).state = .detaching ∧
        (next s (.run 0 false .ok)).any (fun s' => s'.stack 0 = [.running .wake 1])) = true := by
    decide
  obtain ⟨s, hs, hstack, hstate, hnext⟩ := System.exists_of_endsIn rfl hrun
  obtain ⟨s', hs', hrunning⟩ := (Option.any_eq_true _ _).mp hnext
  exact ⟨s, s', hs, hstack, hstate, hs', of_decide_eq_true hrunning⟩

end BbtCoroutine.Driver
