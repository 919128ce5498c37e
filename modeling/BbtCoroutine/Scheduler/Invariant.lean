import BbtCoroutine.Scheduler.Reaper

/-!
# The invariant of the worker set

`Inv` is the invariant of the worker set: its containers agree, the records agree with the
calls of the reapers, and the target of a running set is the number of active workers and lies
within the bounds.  A resize keeps it in each of its outcomes.
-/

namespace BbtCoroutine.Scheduler

variable {T : Type*}

/-- Once the initial batch runs, the target is the number of active workers and lies within the
bounds; before that there is no worker. -/
structure Counted (s : State T) : Prop where
  notInitialized : s.initialized = false → s.activeSnapshot = [] ∧ s.workers = []
  length : s.initialized = true → s.activeSnapshot.length = s.targetNum
  bounds : s.initialized = true → s.minNum ≤ s.targetNum ∧ s.targetNum ≤ s.maxNum
  maxNum_le : s.maxNum ≤ intMax

namespace Counted

variable {s : State T}

/-- The records change, but none comes to be. -/
lemma setWorkers (h : Counted s) {l : List WorkerRecord} (hl : s.workers = [] → l = []) :
    Counted { s with workers := l } :=
  ⟨fun hno => ⟨(h.1 hno).1, hl (h.1 hno).2⟩, h.2, h.3, h.4⟩

/-- A record changes. -/
lemma updateRecord (h : Counted s) (id : ProcesserId) (f : WorkerRecord → WorkerRecord) :
    Counted (s.updateRecord id f) :=
  h.setWorkers fun hnil => by rw [hnil, List.map_nil]

/-- The call of a thread goes on. -/
lemma goto [DecidableEq T] (h : Counted s) (t : T) (c : Call) : Counted (s.goto t c) :=
  ⟨h.1, h.2, h.3, h.4⟩

end Counted

/-- The invariant of the worker set. -/
structure Inv (s : State T) : Prop where
  wellFormed : WellFormed s
  receipts : Receipts s
  counted : Counted s

namespace Inv

variable {s s' : State T}

/-- The invariant does not depend on the mode, the samples and the logs. -/
lemma congr (h : Inv s)
    (hs : s' = { s' with
      initialized := s.initialized
      minNum := s.minNum
      maxNum := s.maxNum
      targetNum := s.targetNum
      processerMap := s.processerMap
      activeSnapshot := s.activeSnapshot
      workers := s.workers
      lifecycle := s.lifecycle
      driverBound := s.driverBound
      nextId := s.nextId
      call := s.call }) : Inv s' := by
  obtain ⟨hw, hr, hc⟩ := h
  rw [hs]
  exact ⟨hw.congr rfl rfl rfl rfl rfl rfl,
    hr.transfer rfl (fun _ => .inl rfl) (fun _ _ _ => rfl) fun _ _ hl => hl,
    hc.1, hc.2, hc.3, hc.4⟩

/-- The target of a running set is in the range of an `int`. -/
lemma targetNum_le (h : Inv s) (hinit : s.initialized = true) : s.targetNum ≤ intMax :=
  (h.counted.bounds hinit).2.trans h.counted.maxNum_le

/-- The preparation of a batch keeps the invariant. -/
lemma created {records : List WorkerRecord} (h : Inv s) (hcr : Created s s' records) :
    Inv s' := by
  have hlife : ∀ r ∈ s.workers, s'.lifecycle r.processer = s.lifecycle r.processer :=
    fun r hmem => hcr.lifecycle_eq (h.wellFormed.fresh r hmem)
  have hworkers : s'.workers = s.workers := by rw [hcr.frame]
  have hcall : s'.call = s.call := by rw [hcr.frame]
  have hcounted : Counted s' := by
    rw [hcr.frame]
    exact ⟨h.counted.1, h.counted.2, h.counted.3, h.counted.4⟩
  refine ⟨h.wellFormed.created hcr, h.receipts.transfer hworkers
    (fun t => .inl (by rw [hcall])) (fun r hmem _ => hlife r hmem) (fun r hmem hl => ?_),
    hcounted⟩
  rwa [hlife r hmem]

/-- Each outcome of a resize within the bounds keeps the invariant and the calls. -/
lemma applied {target : ℕ} {e : Resizing} {a : Applied T} (h : Inv s)
    (ha : s.ApplyOutcome target e a) (hinit : s.initialized = true) (hmin : s.minNum ≤ target)
    (hmax : target ≤ s.maxNum) : Inv a.state ∧ a.state.call = s.call := by
  have hw := h.wellFormed
  have hr := h.receipts
  have hc := h.counted
  cases ha with
  | @grown s' records hlt hcr hlen =>
    have hinit' : s'.initialized = s.initialized := by rw [hcr.frame]
    have hmin' : s'.minNum = s.minNum := by rw [hcr.frame]
    have hmax' : s'.maxNum = s.maxNum := by rw [hcr.frame]
    have hsnap : s'.activeSnapshot = s.activeSnapshot := by rw [hcr.frame]
    have hcall : s'.call = s.call := by rw [hcr.frame]
    have hw' := hw.publish hcr
    have hr' := hr.publish hw hcr
    refine ⟨⟨hw'.congr rfl rfl rfl rfl rfl rfl,
      hr'.transfer rfl (fun _ => .inl rfl) (fun _ _ _ => rfl) (fun _ _ hl => hl),
      fun hno => ?_, fun _ => ?_, fun _ => ?_, ?_⟩, hcall⟩
    · have hno' : s'.initialized = false := hno
      rw [hinit', hinit] at hno'
      cases hno'
    · change (s'.activeSnapshot ++ records.map WorkerRecord.processer).length = target
      rw [List.length_append, hsnap, hc.length hinit, List.length_map, hlen]
      omega
    · change s'.minNum ≤ target ∧ target ≤ s'.maxNum
      rw [hmin', hmax']
      exact ⟨hmin, hmax⟩
    · change s'.maxNum ≤ intMax
      rw [hmax']
      exact hc.maxNum_le
  | @cancelled s' records hlt hcr =>
    refine ⟨h.created hcr, ?_⟩
    change s'.call = s.call
    rw [hcr.frame]
  | shrunk hlt hlen hout =>
    have hsel : ∀ p ∈ s.selected (s.targetNum - target) e.self, _ :=
      fun p hp => WellFormed.selected_spec hp
    have hsub : s.selected (s.targetNum - target) e.self ⊆ s.activeSnapshot :=
      fun p hp => (hsel p hp).1
    refine ⟨⟨hw.retire (fun p hp => (hsel p hp).2.2.1) (by rwa [hlen]),
      hr.transfer rfl (fun _ => .inl rfl) (fun r _ hgone => ?_) (fun r _ hl => ?_),
      fun hno => ?_, fun _ => ?_, fun _ => ⟨hmin, hmax⟩, hc.maxNum_le⟩, rfl⟩
    · have hnot : r.processer ∉ s.selected (s.targetNum - target) e.self := by
        intro hmem
        rw [(hsel _ hmem).2.1] at hgone
        simp at hgone
      exact if_neg hnot
    · change (if r.processer ∈ s.selected (s.targetNum - target) e.self then Lifecycle.retiring
        else s.lifecycle r.processer).unclaimed
      split_ifs
      · trivial
      · exact hl
    · have hno' : s.initialized = false := hno
      rw [hinit] at hno'
      cases hno'
    · change (s.activeSnapshot.filter
        (· ∉ s.selected (s.targetNum - target) e.self)).length = target
      have hsplit := List.length_eq_length_filter_add (l := s.activeSnapshot)
        fun p => decide (p ∈ s.selected (s.targetNum - target) e.self)
      have hperm : (s.activeSnapshot.filter
          fun p => decide (p ∈ s.selected (s.targetNum - target) e.self)).Perm
          (s.selected (s.targetNum - target) e.self) := by
        refine (List.perm_ext_iff_of_nodup (hw.nodup.filter _) (hw.selected_nodup _ _)).mpr
          fun p => ?_
        rw [List.mem_filter, decide_eq_true_eq]
        exact ⟨fun hp => hp.2, fun hp => ⟨hsub hp, hp⟩⟩
      have hnot : (s.activeSnapshot.filter
          fun p => decide (p ∉ s.selected (s.targetNum - target) e.self)) =
          s.activeSnapshot.filter
            fun p => !decide (p ∈ s.selected (s.targetNum - target) e.self) := by
        simp only [decide_not]
      rw [hnot]
      have hlength := hc.length hinit
      rw [hperm.length_eq, hlen] at hsplit
      omega
  | rejected hlt hok hpending => exact ⟨h, rfl⟩
  | same heq => exact ⟨h, rfl⟩

end Inv

end BbtCoroutine.Scheduler
