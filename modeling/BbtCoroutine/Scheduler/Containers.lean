import BbtCoroutine.Scheduler.Resize
import Mathlib.Data.Finset.Dedup

/-!
# The containers of the worker set

`WellFormed` relates the five containers that a resize changes: the active snapshot, the
map from identities to processers, the records of the workers, the lifecycles and the
bindings of drivers.  Each operation on the worker set keeps it.
-/

namespace BbtCoroutine.Scheduler

variable {T : Type*}

/-- The containers of the worker set agree. -/
structure WellFormed (s : State T) : Prop where
  nodup : s.activeSnapshot.Nodup
  map : s.processerMap = s.activeSnapshot.toFinset
  active : ∀ p, s.lifecycle p = .active ↔ p ∈ s.activeSnapshot
  driver : ∀ p, s.driverBound p = true → p ∈ s.activeSnapshot
  records : ∀ p ∈ s.activeSnapshot, ∃ r ∈ s.workers, r.processer = p
  fresh : ∀ r ∈ s.workers, r.processer < s.nextId
  workers : (s.workers.map WorkerRecord.processer).Nodup
  outstanding : s.countOutstandingRetire ≤ maxOutstandingRetire

namespace State

variable {s s' : State T}

/-- The retirement of a worker is not finished. -/
def outstanding (s : State T) (r : WorkerRecord) : Prop :=
  s.lifecycle r.processer = .retiring ∨ s.lifecycle r.processer = .exited

/-- Whether a record is outstanding can be computed. -/
instance (s : State T) : DecidablePred s.outstanding := fun _ => instDecidableOr

/-- The outstanding retirements are counted. -/
lemma countOutstandingRetire_eq (s : State T) :
    s.countOutstandingRetire = s.workers.countP fun r => decide (s.outstanding r) :=
  rfl

/-- The retirements that are outstanding afterwards were so before. -/
lemma countOutstandingRetire_le
    (hw : (s'.workers.map WorkerRecord.processer).Sublist (s.workers.map WorkerRecord.processer))
    (h : ∀ r ∈ s'.workers, s'.outstanding r → s.outstanding r) :
    s'.countOutstandingRetire ≤ s.countOutstandingRetire := by
  have heq : ∀ l : List WorkerRecord, l.countP (fun r => decide (s.outstanding r)) =
      (l.map WorkerRecord.processer).countP
        fun p => decide (s.lifecycle p = .retiring ∨ s.lifecycle p = .exited) := by
    intro l
    rw [List.countP_map]
    rfl
  rw [countOutstandingRetire_eq, countOutstandingRetire_eq]
  calc s'.workers.countP (fun r => decide (s'.outstanding r))
      ≤ s'.workers.countP (fun r => decide (s.outstanding r)) :=
        List.countP_mono_left fun r hr hout =>
          decide_eq_true (h r hr (of_decide_eq_true hout))
    _ ≤ s.workers.countP (fun r => decide (s.outstanding r)) := by
        rw [heq, heq]
        exact hw.countP_le

@[simp] lemma setLifecycle_lifecycle (s : State T) (ids : List ProcesserId) (l : Lifecycle)
    (p : ProcesserId) :
    (s.setLifecycle ids l).lifecycle p = if p ∈ ids then l else s.lifecycle p :=
  rfl

end State

namespace WellFormed

variable {s s' : State T} {records : List WorkerRecord}

/-- The identities of active processers have been given out. -/
lemma lt_nextId (h : WellFormed s) {p : ProcesserId} (hp : p ∈ s.activeSnapshot) :
    p < s.nextId := by
  obtain ⟨r, hr, rfl⟩ := h.records p hp
  exact h.fresh r hr

/-- The containers agree in a state with the same worker set. -/
lemma congr (h : WellFormed s) (hsnap : s'.activeSnapshot = s.activeSnapshot)
    (hmap : s'.processerMap = s.processerMap) (hlife : s'.lifecycle = s.lifecycle)
    (hdriver : s'.driverBound = s.driverBound) (hworkers : s'.workers = s.workers)
    (hnext : s'.nextId = s.nextId) : WellFormed s' := by
  refine ⟨?_, ?_, ?_, ?_, ?_, ?_, ?_, ?_⟩
  · rw [hsnap]
    exact h.nodup
  · rw [hsnap, hmap]
    exact h.map
  · rw [hsnap, hlife]
    exact h.active
  · rw [hsnap, hdriver]
    exact h.driver
  · rw [hsnap, hworkers]
    exact h.records
  · rw [hworkers, hnext]
    exact h.fresh
  · rw [hworkers]
    exact h.workers
  · refine (State.countOutstandingRetire_le (by rw [hworkers]) fun r _ hout => ?_).trans
      h.outstanding
    rwa [State.outstanding, hlife] at hout

/-! ## Resizing -/

/-- The processers of a batch that is being prepared change nothing. -/
lemma created (h : WellFormed s) (hc : Created s s' records) : WellFormed s' := by
  have hframe := hc.frame
  have hsnap : s'.activeSnapshot = s.activeSnapshot := by rw [hframe]
  have hworkers : s'.workers = s.workers := by rw [hframe]
  refine ⟨?_, ?_, fun p => ?_, ?_, ?_, ?_, ?_, ?_⟩
  · rw [hsnap]
    exact h.nodup
  · rw [hsnap, ← h.map, hframe]
  · rw [hsnap, ← h.active p]
    rcases hc.lifecycle p with heq | ⟨hle, heq⟩
    · rw [heq]
    · have hnot : s.lifecycle p ≠ .active := fun hp =>
        absurd (h.lt_nextId ((h.active p).mp hp)) hle.not_gt
      simp [heq, hnot]
  · rw [hsnap, hframe]
    exact h.driver
  · rw [hsnap, hworkers]
    exact h.records
  · rw [hworkers]
    exact fun r hr => (h.fresh r hr).trans_le hc.le
  · rw [hworkers]
    exact h.workers
  · refine (State.countOutstandingRetire_le (by rw [hworkers]) fun r hr hout => ?_).trans
      h.outstanding
    rw [hworkers] at hr
    rwa [State.outstanding, hc.lifecycle_eq (h.fresh r hr)] at hout

/-- The identities of a batch are new. -/
lemma batch_disjoint (h : WellFormed s) (hc : Created s s' records) {p : ProcesserId}
    (hp : p ∈ records.map WorkerRecord.processer) :
    p ∉ s.activeSnapshot ∧ ∀ r ∈ s.workers, r.processer ≠ p := by
  obtain ⟨r, hr, rfl⟩ := List.mem_map.mp hp
  have hle := (hc.mem r hr).1
  exact ⟨fun hmem => absurd (h.lt_nextId hmem) hle.not_gt,
    fun r' hr' heq => absurd (h.fresh r' hr') (heq ▸ hle.not_gt)⟩

/-- The batch enters all containers at once. -/
lemma publish (h : WellFormed s) (hc : Created s s' records) :
    WellFormed (s'.publish records) := by
  have h' := h.created hc
  have hsnap : s'.activeSnapshot = s.activeSnapshot := by rw [hc.frame]
  have hworkers : s'.workers = s.workers := by rw [hc.frame]
  have hnew : ∀ r ∈ s'.workers, r.processer ∉ records.map WorkerRecord.processer := by
    intro r hr hmem
    rw [hworkers] at hr
    exact (h.batch_disjoint hc hmem).2 r hr rfl
  refine ⟨?_, ?_, fun p => ?_, ?_, ?_, ?_, ?_, ?_⟩
  · refine List.Nodup.append h'.nodup hc.nodup fun p hp hp' => ?_
    rw [hsnap] at hp
    exact (h.batch_disjoint hc hp').1 hp
  · change s'.processerMap ∪ _ = List.toFinset (_ ++ _)
    rw [h'.map]
    ext p
    simp
  · change (if p ∈ records.map WorkerRecord.processer then Lifecycle.active
      else s'.lifecycle p) = _ ↔ p ∈ s'.activeSnapshot ++ _
    rw [List.mem_append, ← h'.active p]
    split_ifs with hp <;> simp [hp]
  · intro p hp
    exact List.mem_append_left _ (h'.driver p hp)
  · intro p hp
    rcases List.mem_append.mp hp with hp | hp
    · obtain ⟨r, hr, heq⟩ := h'.records p hp
      exact ⟨r, List.mem_append_left _ hr, heq⟩
    · obtain ⟨r, hr, heq⟩ := List.mem_map.mp hp
      exact ⟨r, List.mem_append_right _ hr, heq⟩
  · intro r hr
    rcases List.mem_append.mp hr with hr | hr
    · exact h'.fresh r hr
    · exact (hc.mem r hr).2.1
  · change ((s'.workers ++ records).map WorkerRecord.processer).Nodup
    rw [List.map_append]
    refine List.Nodup.append h'.workers hc.nodup fun p hp hp' => ?_
    obtain ⟨r, hr, rfl⟩ := List.mem_map.mp hp
    exact hnew r hr hp'
  · have hold : ∀ r ∈ s'.workers, (s'.publish records).outstanding r → s'.outstanding r := by
      intro r hr hout
      have heq : (s'.publish records).lifecycle r.processer = s'.lifecycle r.processer :=
        if_neg (hnew r hr)
      rwa [State.outstanding, heq] at hout
    have hbatch : ∀ r ∈ records, ¬ (s'.publish records).outstanding r := by
      intro r hr hout
      have heq : (s'.publish records).lifecycle r.processer = .active :=
        if_pos (List.mem_map_of_mem hr)
      rw [State.outstanding, heq] at hout
      simp at hout
    rw [State.countOutstandingRetire_eq]
    change (s'.workers ++ records).countP _ ≤ _
    have hzero : records.countP (fun r => decide ((s'.publish records).outstanding r)) = 0 :=
      List.countP_eq_zero.mpr (by simpa using hbatch)
    rw [List.countP_append, hzero, Nat.add_zero]
    refine le_trans ?_ h'.outstanding
    rw [State.countOutstandingRetire_eq]
    exact List.countP_mono_left fun r hr hout =>
      decide_eq_true (hold r hr (of_decide_eq_true hout))

/-- A selected processer is active, has no driver and is not the caller's. -/
lemma selected_spec {need : ℕ} {self : Option ProcesserId} {p : ProcesserId}
    (hp : p ∈ s.selected need self) :
    p ∈ s.activeSnapshot ∧ s.lifecycle p = .active ∧ s.driverBound p = false ∧
      self ≠ some p := by
  have hp := List.mem_filter.mp (List.mem_of_mem_take hp)
  have hcand := List.mem_filter.mp hp.1
  simp only [decide_eq_true_eq] at hp hcand
  exact ⟨hcand.1, hcand.2.1, hcand.2.2, hp.2⟩

/-- No worker is selected twice. -/
lemma selected_nodup (h : WellFormed s) (need : ℕ) (self : Option ProcesserId) :
    (s.selected need self).Nodup :=
  ((h.nodup.filter _).filter _).sublist (List.take_sublist _ _)

/-- The elements with one property or another are at most as many as those with each. -/
lemma countP_or_le {α : Type*} (p q : α → Bool) (l : List α) :
    l.countP (fun a => p a || q a) ≤ l.countP p + l.countP q := by
  induction l with
  | nil => simp
  | cons a l ih =>
    simp only [List.countP_cons]
    cases p a <;> cases q a <;> simp <;> omega

/-- The records of the processers in a list without duplicates are at most as many as these. -/
lemma countP_mem_le (h : WellFormed s) (ids : List ProcesserId) :
    s.workers.countP (fun r => decide (r.processer ∈ ids)) ≤ ids.length := by
  have hsub : (s.workers.filter fun r => decide (r.processer ∈ ids)).map
      WorkerRecord.processer ⊆ ids := by
    intro p hp
    obtain ⟨r, hr, rfl⟩ := List.mem_map.mp hp
    simpa using (List.mem_filter.mp hr).2
  have hnodup : ((s.workers.filter fun r => decide (r.processer ∈ ids)).map
      WorkerRecord.processer).Nodup :=
    h.workers.sublist (List.filter_sublist.map _)
  have hle := (List.subperm_of_subset hnodup hsub).length_le
  rwa [List.length_map, ← List.countP_eq_length_filter] at hle

/-- The selected processers leave the active set as a whole. -/
lemma retire (h : WellFormed s) {ids : List ProcesserId} {target : ℕ}
    (hsel : ∀ p ∈ ids, s.driverBound p = false)
    (hout : s.countOutstandingRetire + ids.length ≤ maxOutstandingRetire) :
    WellFormed (s.retire ids target) := by
  refine ⟨h.nodup.filter _, ?_, fun p => ?_, fun p hp => ?_, fun p hp => ?_, h.fresh,
    h.workers, ?_⟩
  · change s.processerMap \ ids.toFinset = (s.activeSnapshot.filter (· ∉ ids)).toFinset
    ext p
    simp [h.map]
  · change (if p ∈ ids then Lifecycle.retiring else s.lifecycle p) = _ ↔
      p ∈ s.activeSnapshot.filter (· ∉ ids)
    rw [List.mem_filter, ← h.active p]
    split_ifs with hp <;> simp [hp]
  · have hnot : p ∉ ids := by
      intro hmem
      have hfree := hsel p hmem
      rw [show s.driverBound p = true from hp] at hfree
      cases hfree
    exact List.mem_filter.mpr ⟨h.driver p hp, by simpa using hnot⟩
  · exact h.records p (List.mem_filter.mp hp).1
  · have hsplit : ∀ r ∈ s.workers, (s.retire ids target).outstanding r →
        s.outstanding r ∨ r.processer ∈ ids := by
      intro r _ hr
      by_cases hmem : r.processer ∈ ids
      · exact .inr hmem
      · left
        have heq : (s.retire ids target).lifecycle r.processer = s.lifecycle r.processer :=
          if_neg hmem
        rwa [State.outstanding, heq] at hr
    calc (s.retire ids target).countOutstandingRetire
        ≤ s.workers.countP (fun r => decide (s.outstanding r) || decide (r.processer ∈ ids)) := by
          rw [State.countOutstandingRetire_eq]
          refine List.countP_mono_left fun r hr hd => ?_
          simpa using hsplit r hr (of_decide_eq_true hd)
      _ ≤ s.countOutstandingRetire + ids.length := by
          rw [State.countOutstandingRetire_eq]
          exact (countP_or_le _ _ _).trans (Nat.add_le_add_left (h.countP_mem_le ids) _)
      _ ≤ maxOutstandingRetire := hout

/-! ## Retired workers -/

/-- The containers agree after a step that changes only retired workers and their records. -/
lemma departed (h : WellFormed s) (hsnap : s'.activeSnapshot = s.activeSnapshot)
    (hmap : s'.processerMap = s.processerMap) (hdriver : s'.driverBound = s.driverBound)
    (hnext : s'.nextId = s.nextId)
    (hactive : ∀ p, s'.lifecycle p = .active ↔ s.lifecycle p = .active)
    (hout : ∀ r ∈ s'.workers, s'.outstanding r → s.outstanding r)
    (hworkers :
      (s'.workers.map WorkerRecord.processer).Sublist (s.workers.map WorkerRecord.processer))
    (hkeep : ∀ r ∈ s.workers, r.processer ∈ s.activeSnapshot →
      ∃ r' ∈ s'.workers, r'.processer = r.processer) : WellFormed s' := by
  refine ⟨?_, ?_, fun p => ?_, ?_, fun p hp => ?_, fun r hr => ?_, h.workers.sublist hworkers,
    (State.countOutstandingRetire_le hworkers hout).trans h.outstanding⟩
  · rw [hsnap]
    exact h.nodup
  · rw [hsnap, hmap]
    exact h.map
  · rw [hsnap, hactive, h.active]
  · rw [hsnap, hdriver]
    exact h.driver
  · rw [hsnap] at hp
    obtain ⟨r, hr, rfl⟩ := h.records p hp
    exact hkeep r hr hp
  · obtain ⟨r₀, hr₀, heq⟩ :=
      List.mem_map.mp (hworkers.subset (List.mem_map_of_mem hr))
    rw [← heq, hnext]
    exact h.fresh r₀ hr₀

/-- An update of a record keeps its processer. -/
lemma map_updateRecord (s : State T) (id : ProcesserId) {f : WorkerRecord → WorkerRecord}
    (hf : ∀ r, (f r).processer = r.processer) :
    (s.updateRecord id f).workers.map WorkerRecord.processer =
      s.workers.map WorkerRecord.processer := by
  change (s.workers.map _).map _ = _
  rw [List.map_map]
  refine List.map_congr_left fun r _ => ?_
  by_cases h : r.processer = id <;> simp [h, hf]

/-- An update of a record keeps the containers well formed. -/
lemma updateRecord (h : WellFormed s) (id : ProcesserId) {f : WorkerRecord → WorkerRecord}
    (hf : ∀ r, (f r).processer = r.processer) : WellFormed (s.updateRecord id f) := by
  refine h.departed rfl rfl rfl rfl (fun _ => Iff.rfl) (fun _ _ hout => hout)
    (by rw [map_updateRecord s id hf]) fun r hr _ => ?_
  have hmem : r.processer ∈ (s.updateRecord id f).workers.map WorkerRecord.processer := by
    rw [map_updateRecord s id hf]
    exact List.mem_map_of_mem hr
  obtain ⟨r', hr', heq⟩ := List.mem_map.mp hmem
  exact ⟨r', hr', heq⟩

/-- The worker of `p` goes on from one stage of its retirement to the next. -/
lemma setLifecycle (h : WellFormed s) {p : ProcesserId} {l : Lifecycle} (hl : l ≠ .active)
    (hp : s.lifecycle p = .retiring ∨ s.lifecycle p = .exited) :
    WellFormed (s.setLifecycle [p] l) := by
  refine h.departed rfl rfl rfl rfl (fun q => ?_) (fun r _ hout => ?_) (List.Sublist.refl _)
    fun r hr _ => ⟨r, hr, rfl⟩
  · by_cases hq : q = p
    · subst hq
      rcases hp with hp | hp <;> simp [hp, hl]
    · simp [hq]
  · by_cases hr : r.processer = p
    · rw [State.outstanding, hr]
      exact hp
    · simpa [State.outstanding, hr] using hout

/-- The record of a worker that is not active is erased. -/
lemma erase (h : WellFormed s) {id : ProcesserId} (hid : s.lifecycle id ≠ .active) :
    WellFormed { s with workers := s.workers.filter (·.processer ≠ id) } := by
  refine h.departed rfl rfl rfl rfl (fun _ => Iff.rfl) (fun _ _ hout => hout)
    (List.filter_sublist.map _) fun r hr hmem => ⟨r, ?_, rfl⟩
  have hne : r.processer ≠ id := by
    rintro rfl
    exact hid ((h.active _).mpr hmem)
  exact List.mem_filter.mpr ⟨hr, by simpa using hne⟩

/-! ## Drivers -/

/-- Binding a driver keeps the containers well formed. -/
lemma bindDriver (h : WellFormed s) {p : ProcesserId} (hp : s.lifecycle p = .active) :
    WellFormed { s with driverBound := Function.update s.driverBound p true } := by
  refine ⟨h.nodup, h.map, h.active, fun q hq => ?_, h.records, h.fresh, h.workers,
    h.outstanding⟩
  by_cases heq : q = p
  · subst heq
    exact (h.active q).mp hp
  · exact h.driver q (by simpa [Function.update_of_ne heq] using hq)

/-- Unbinding a driver keeps the containers well formed. -/
lemma unbindDriver (h : WellFormed s) (p : ProcesserId) :
    WellFormed { s with driverBound := Function.update s.driverBound p false } := by
  refine ⟨h.nodup, h.map, h.active, fun q hq => ?_, h.records, h.fresh, h.workers,
    h.outstanding⟩
  by_cases heq : q = p
  · subst heq
    simp at hq
  · exact h.driver q (by simpa [Function.update_of_ne heq] using hq)

end WellFormed

end BbtCoroutine.Scheduler
