import BbtCoroutine.Scheduler.Model

/-!
# What a resize does to the worker set

`Created` says what the preparation of a batch leaves, finished or not, and
`State.applyTarget_spec` lists the five ways in which `_ApplyTargetLocked` ends: the batch
is published, it must be cancelled, the selected workers retire, the shrink is rejected, or
the target is the present one.  The invariants of the worker set are proved by cases on
it.
-/

namespace BbtCoroutine.Scheduler

variable {T : Type*}

/-! ## The preparation of a batch -/

/-- The state `s'` differs from `s` by the processers created for a batch with the given
records. -/
structure Created (s s' : State T) (records : List WorkerRecord) : Prop where
  frame : s' = { s with nextId := s'.nextId, lifecycle := s'.lifecycle }
  le : s.nextId ≤ s'.nextId
  lifecycle : ∀ p, s'.lifecycle p = s.lifecycle p ∨
    (s.nextId ≤ p ∧ s'.lifecycle p = .preparing)
  mem : ∀ r ∈ records, s.nextId ≤ r.processer ∧ r.processer < s'.nextId ∧
    r.claimed = false ∧ r.joins = 0
  nodup : (records.map WorkerRecord.processer).Nodup

namespace Created

variable {s s' s'' : State T} {records records' : List WorkerRecord}

/-- Creating no worker changes nothing. -/
lemma refl (s : State T) : Created s s [] :=
  ⟨rfl, le_rfl, fun _ => .inl rfl, by simp, by simp⟩

/-- One processer is created, with or without a record for it. -/
lemma createProcesser (s : State T) (b : Bool) :
    Created s s.createProcesser (if b then [{ processer := s.nextId }] else []) := by
  refine ⟨rfl, Nat.le_succ _, fun p => ?_, fun r hr => ?_, ?_⟩
  · by_cases hp : p = s.nextId
    · subst hp
      right
      exact ⟨le_rfl, by simp [State.createProcesser, State.setLifecycle]⟩
    · left
      simp [State.createProcesser, State.setLifecycle, hp]
  · cases b with
    | false => simp at hr
    | true =>
      obtain rfl := List.mem_singleton.mp hr
      exact ⟨le_rfl, Nat.lt_succ_self _, rfl, rfl⟩
  · cases b <;> simp

/-- Two creations in sequence. -/
lemma trans (h : Created s s' records) (h' : Created s' s'' records') :
    Created s s'' (records ++ records') := by
  refine ⟨?_, h.le.trans h'.le, fun p => ?_, fun r hr => ?_, ?_⟩
  · rw [h'.frame, h.frame]
  · rcases h'.lifecycle p with hp' | ⟨hle, hp'⟩
    · rw [hp']
      exact h.lifecycle p
    · exact .inr ⟨h.le.trans hle, hp'⟩
  · rcases List.mem_append.mp hr with hr | hr
    · obtain ⟨h₁, h₂, h₃⟩ := h.mem r hr
      exact ⟨h₁, h₂.trans_le h'.le, h₃⟩
    · obtain ⟨h₁, h₂, h₃⟩ := h'.mem r hr
      exact ⟨h.le.trans h₁, h₂, h₃⟩
  · rw [List.map_append]
    refine List.Nodup.append h.nodup h'.nodup ?_
    intro p hp hp'
    obtain ⟨r, hr, rfl⟩ := List.mem_map.mp hp
    obtain ⟨r', hr', heq⟩ := List.mem_map.mp hp'
    have hlt := (h.mem r hr).2.1
    have hge := (h'.mem r' hr').1
    exact (hlt.trans_le hge).ne' heq

/-- A creation changes the next id and the lifecycles only. -/
lemma exists_eq (h : Created s s' records) :
    ∃ n l, s' = { s with nextId := n, lifecycle := l } :=
  ⟨_, _, h.frame⟩

/-- What was created before is as it was. -/
lemma lifecycle_eq (h : Created s s' records) {p : ProcesserId} (hp : p < s.nextId) :
    s'.lifecycle p = s.lifecycle p := by
  rcases h.lifecycle p with h | ⟨hle, -⟩
  · exact h
  · exact absurd hp hle.not_gt

end Created

namespace Applied

/-- The state in which `_ApplyTargetLocked` returns, or lets go of the lifecycle mutex. -/
def state : Applied T → State T
  | returned s _ => s
  | cancel s _ => s

end Applied

namespace State

variable {s : State T}

/-- The loop adds records to those that it was called with, all of them on success. -/
lemma createBatch_spec (f : Option PrepareFault) (k : ℕ) (s : State T)
    (records : List WorkerRecord) :
    ∃ new, (createBatch f k s records).2.1 = records ++ new ∧
      Created s (createBatch f k s records).1 new ∧
      ((createBatch f k s records).2.2 = true → new.length = k) := by
  induction k generalizing s records with
  | zero => exact ⟨[], by simp [createBatch], .refl s, fun _ => rfl⟩
  | succ k ih =>
    rw [createBatch]
    split_ifs with hproc hthread
    · exact ⟨[], by simp, .refl s, by simp⟩
    · exact ⟨[], by simp, Created.createProcesser s false, by simp⟩
    · obtain ⟨new, hrecords, hcreated, hlength⟩ :=
        ih s.createProcesser (records ++ [{ processer := s.nextId }])
      refine ⟨{ processer := s.nextId } :: new, ?_, ?_, fun hok => ?_⟩
      · rw [hrecords]
        simp
      · exact (Created.createProcesser s true).trans hcreated
      · simpa using hlength hok

/-! ## The outcome of a resize -/

/-- The ways in which `_ApplyTargetLocked` ends. -/
inductive ApplyOutcome (s : State T) (target : ℕ) (e : Resizing) : Applied T → Prop
  | grown {s' : State T} {records : List WorkerRecord} (hlt : s.targetNum < target)
      (hc : Created s s' records) (hlen : records.length = target - s.targetNum) :
      ApplyOutcome s target e
        (.returned { s'.publish records with targetNum := target } .ok)
  | cancelled {s' : State T} {records : List WorkerRecord} (hlt : s.targetNum < target)
      (hc : Created s s' records) :
      ApplyOutcome s target e (.cancel s' (records.map WorkerRecord.processer))
  | shrunk (hlt : target < s.targetNum)
      (hlen : (s.selected (s.targetNum - target) e.self).length = s.targetNum - target)
      (hout : s.countOutstandingRetire + (s.targetNum - target) ≤ maxOutstandingRetire) :
      ApplyOutcome s target e
        (.returned (s.retire (s.selected (s.targetNum - target) e.self) target) .pending)
  | rejected {r : ResizeResult} (hlt : target < s.targetNum) (hok : r ≠ .ok)
      (hpending : r ≠ .pending) : ApplyOutcome s target e (.returned s r)
  | same (heq : target = s.targetNum) : ApplyOutcome s target e (.returned s .ok)

/-- The preparation of a batch publishes it as a whole or must be cancelled. -/
lemma prepareExpansion_spec (s : State T) (need : ℕ) (f : Option PrepareFault) :
    (∃ s' records, Created s s' records ∧ records.length = need ∧
      s.prepareExpansion need f = .returned (s'.publish records) .ok) ∨
    ∃ s' records, Created s s' records ∧
      s.prepareExpansion need f = .cancel s' (records.map WorkerRecord.processer) := by
  obtain ⟨new, hrecords, hcreated, hlength⟩ := createBatch_spec f need s []
  rw [List.nil_append] at hrecords
  unfold prepareExpansion
  dsimp only
  split_ifs with h
  · left
    exact ⟨_, new, hcreated, hlength h.1, by rw [hrecords]⟩
  · right
    exact ⟨_, new, hcreated, by rw [hrecords]⟩

/-- A shrink within the bounds retires a whole batch or changes nothing. -/
lemma commitShrink_spec (s : State T) (need target : ℕ) (e : Resizing)
    (hneed : s.countOutstandingRetire + need < sizeMod) :
    ((s.selected need e.self).length = need ∧
      s.countOutstandingRetire + need ≤ maxOutstandingRetire ∧
      s.commitShrink need target e = (s.retire (s.selected need e.self) target, .pending)) ∨
    ∃ r, r ≠ .ok ∧ r ≠ .pending ∧ s.commitShrink need target e = (s, r) := by
  unfold commitShrink
  rw [sizeAdd_eq hneed]
  split_ifs with hthrows hcand hsel hout
  · exact .inr ⟨_, by decide, by decide, rfl⟩
  · exact .inr ⟨_, by decide, by decide, rfl⟩
  · exact .inr ⟨_, by decide, by decide, rfl⟩
  · exact .inr ⟨_, by decide, by decide, rfl⟩
  · left
    have hle : (s.selected need e.self).length ≤ need := List.length_take_le _ _
    exact ⟨by omega, by omega, rfl⟩

/-- With as many active workers as the target says, and both targets in the range of an `int`,
`_ApplyTargetLocked` ends in one of the five ways. -/
theorem applyTarget_spec (target : ℕ) (e : Resizing)
    (hlen : s.activeSnapshot.length = s.targetNum) (hnum : s.targetNum ≤ intMax)
    (htarget : target ≤ intMax) (hout : s.countOutstandingRetire ≤ maxOutstandingRetire) :
    ApplyOutcome s target e (s.applyTarget target e) := by
  have hmod : intMax + maxOutstandingRetire < sizeMod := by decide
  unfold applyTarget
  dsimp only
  rw [hlen]
  split_ifs with hup hdown
  · rw [sizeSub_eq hup.le (by omega)]
    rcases s.prepareExpansion_spec (target - s.targetNum) e.prepareFault with
      ⟨s', records, hc, hl, heq⟩ | ⟨s', records, hc, heq⟩
    · rw [heq]
      exact .grown hup hc hl
    · rw [heq]
      exact .cancelled hup hc
  · rw [sizeSub_eq hdown.le (by omega)]
    rcases s.commitShrink_spec (s.targetNum - target) target e (by omega)
      with ⟨hl, ho, heq⟩ | ⟨r, hok, hpending, heq⟩
    · rw [heq]
      exact .shrunk hdown hl ho
    · rw [heq]
      exact .rejected hdown hok hpending
  · have heq : target = s.targetNum := by omega
    subst heq
    exact .same rfl

/-- A resize changes the worker set only. -/
lemma ApplyOutcome.frame {target : ℕ} {e : Resizing} {a : Applied T}
    (h : s.ApplyOutcome target e a) :
    a.state = { s with
      targetNum := a.state.targetNum
      processerMap := a.state.processerMap
      activeSnapshot := a.state.activeSnapshot
      workers := a.state.workers
      lifecycle := a.state.lifecycle
      nextId := a.state.nextId } := by
  cases h with
  | grown _ hc =>
    obtain ⟨n, l, rfl⟩ := hc.exists_eq
    rfl
  | cancelled _ hc =>
    obtain ⟨n, l, rfl⟩ := hc.exists_eq
    rfl
  | shrunk => rfl
  | rejected => rfl
  | same => rfl

/-! ## The targets of a tick -/

/-- A batch of more workers keeps to the step and to the upper bound. -/
lemma nextUp_mem {cfg : Config} (h : s.targetNum < s.maxNum) (hmax : s.maxNum ≤ intMax)
    (hstep : cfg.scaleStep ≤ intMax) (hpos : 0 < cfg.scaleStep) :
    s.targetNum < s.nextUp cfg ∧ s.nextUp cfg ≤ s.maxNum ∧
      s.nextUp cfg = min s.maxNum (s.targetNum + cfg.scaleStep) := by
  have hmod : intMax + intMax < sizeMod := by decide
  unfold nextUp
  dsimp only
  rw [sizeSub_eq h.le (by omega), sizeAdd_eq (by omega)]
  split_ifs with hle <;> omega

/-- A batch of fewer workers keeps to the step and to the lower bound. -/
lemma nextDown_mem {cfg : Config} (h : s.minNum < s.targetNum) (hnum : s.targetNum ≤ intMax)
    (hpos : 0 < cfg.scaleStep) :
    s.nextDown cfg < s.targetNum ∧ s.minNum ≤ s.nextDown cfg ∧
      s.nextDown cfg = max s.minNum (s.targetNum - cfg.scaleStep) := by
  have hmod : intMax + intMax < sizeMod := by decide
  unfold nextDown
  dsimp only
  rw [sizeSub_eq h.le (by omega)]
  split_ifs with hle
  · omega
  · rw [sizeSub_eq (by omega) (by omega)]
    omega

end State

end BbtCoroutine.Scheduler
