import BbtCoroutine.Scheduler.Containers

/-!
# The reaper

`Receipts` relates the records of the workers to the calls of the reapers: a record that is
claimed is held by exactly one call, whose next step tells how far its removal has come, and
a record that nobody has claimed was never joined.  Several reapers may run at once; the
claim of a record, made under the map mutex, keeps them apart.
-/

namespace BbtCoroutine.Scheduler

variable {T : Type*}

/-- The processer whose record the call has claimed. -/
def Call.claim : Call → Option ProcesserId
  | .join _ id | .markJoined _ id | .erase _ id => some id
  | _ => none

/-- How far the removal of the record has come, by the next step of the call that claimed it. -/
def State.Holds (s : State T) (r : WorkerRecord) : Call → Prop
  | .join _ id => id = r.processer ∧ s.lifecycle r.processer = .exited ∧ r.joins = 0
  | .markJoined _ id => id = r.processer ∧ s.lifecycle r.processer = .exited ∧ r.joins = 1
  | .erase _ id => id = r.processer ∧ s.lifecycle r.processer = .joined ∧ r.joins = 1
  | _ => False

/-- The worker of an unclaimed record is active, retires or has exited. -/
def Lifecycle.unclaimed : Lifecycle → Prop
  | .active | .retiring | .exited => True
  | _ => False

/-- The records of the workers and the calls of the reapers agree. -/
structure Receipts (s : State T) : Prop where
  unclaimed : ∀ r ∈ s.workers, r.claimed = false →
    r.joins = 0 ∧ (s.lifecycle r.processer).unclaimed
  claimed : ∀ r ∈ s.workers, r.claimed = true → ∃ t, s.Holds r (s.call t)
  held : ∀ t id, (s.call t).claim = some id →
    ∃ r ∈ s.workers, r.processer = id ∧ r.claimed = true ∧ s.Holds r (s.call t)
  unique : ∀ t t' id, (s.call t).claim = some id → (s.call t').claim = some id → t = t'

namespace State

variable {s s' : State T} {r : WorkerRecord} {c : Call}

/-- A call that holds a record has claimed its processer. -/
lemma Holds.claim_eq (h : s.Holds r c) : c.claim = some r.processer := by
  cases c <;> simp only [Holds] at h
  all_goals
    obtain ⟨rfl, -⟩ := h
    rfl

/-- The worker of a record that is held has exited or was joined. -/
lemma Holds.lifecycle (h : s.Holds r c) :
    s.lifecycle r.processer = .exited ∨ s.lifecycle r.processer = .joined := by
  cases c <;> simp only [Holds] at h
  · exact .inl h.2.1
  · exact .inl h.2.1
  · exact .inr h.2.1

/-- A claim depends on the lifecycle of its worker only. -/
lemma Holds.congr (h : s.Holds r c) (hl : s'.lifecycle r.processer = s.lifecycle r.processer) :
    s'.Holds r c := by
  cases c <;> simp only [Holds] at h ⊢
  all_goals
    rw [hl]
    exact h

/-- A worker that is claimed has been joined once at most. -/
lemma Holds.joins_le (h : s.Holds r c) : r.joins ≤ 1 := by
  cases c <;> simp only [Holds] at h <;> omega

end State

namespace Receipts

variable {s s' : State T}

/-- A record is claimed and held at `t` if the call of `t` has claimed its processer. -/
lemma holds_of_claim (h : Receipts s) (hw : WellFormed s) {t : T} {r : WorkerRecord}
    (hr : r ∈ s.workers) (hc : (s.call t).claim = some r.processer) :
    r.claimed = true ∧ s.Holds r (s.call t) := by
  obtain ⟨r', hr', heq, hclaimed, hheld⟩ := h.held t _ hc
  obtain rfl := List.inj_on_of_nodup_map hw.workers hr' hr heq
  exact ⟨hclaimed, hheld⟩

/-- The receipts agree after a step that touches no record, no call of a reaper, and no worker
that has exited. -/
lemma transfer (h : Receipts s) (hworkers : s'.workers = s.workers)
    (hcall : ∀ t, s'.call t = s.call t ∨
      ((s.call t).claim = none ∧ (s'.call t).claim = none))
    (hgone : ∀ r ∈ s.workers, s.lifecycle r.processer = .exited ∨
      s.lifecycle r.processer = .joined → s'.lifecycle r.processer = s.lifecycle r.processer)
    (hlive : ∀ r ∈ s.workers, (s.lifecycle r.processer).unclaimed →
      (s'.lifecycle r.processer).unclaimed) : Receipts s' := by
  have hsame : ∀ t id, (s'.call t).claim = some id → s'.call t = s.call t := by
    intro t id hc
    rcases hcall t with heq | ⟨-, hnone⟩
    · exact heq
    · rw [hnone] at hc
      cases hc
  refine ⟨fun r hr hcl => ?_, fun r hr hcl => ?_, fun t id hc => ?_, fun t t' id hc hc' => ?_⟩
  · rw [hworkers] at hr
    obtain ⟨hj, hl⟩ := h.unclaimed r hr hcl
    exact ⟨hj, hlive r hr hl⟩
  · rw [hworkers] at hr
    obtain ⟨t, ht⟩ := h.claimed r hr hcl
    refine ⟨t, ?_⟩
    rcases hcall t with heq | ⟨hnone, -⟩
    · rw [heq]
      exact ht.congr (hgone r hr ht.lifecycle)
    · rw [ht.claim_eq] at hnone
      cases hnone
  · have heq := hsame t id hc
    rw [heq] at hc ⊢
    obtain ⟨r, hr, hid, hcl, hheld⟩ := h.held t id hc
    rw [hworkers]
    exact ⟨r, hr, hid, hcl, hheld.congr (hgone r hr hheld.lifecycle)⟩
  · have heq := hsame t id hc
    have heq' := hsame t' id hc'
    rw [heq] at hc
    rw [heq'] at hc'
    exact h.unique t t' id hc hc'

/-- A batch of unclaimed records of active workers enters. -/
lemma publish {records : List WorkerRecord} (h : Receipts s) (hw : WellFormed s)
    (hc : Created s s' records) : Receipts (s'.publish records) := by
  have hworkers : s'.workers = s.workers := by rw [hc.frame]
  have hcalls : s'.call = s.call := by rw [hc.frame]
  have hlife : ∀ r ∈ s.workers,
      (s'.publish records).lifecycle r.processer = s.lifecycle r.processer := by
    intro r hr
    have hnot : r.processer ∉ records.map WorkerRecord.processer :=
      fun hmem => (hw.batch_disjoint hc hmem).2 r hr rfl
    exact (if_neg hnot).trans (hc.lifecycle_eq (hw.fresh r hr))
  have hnew : ∀ r ∈ records, r.claimed = false ∧ r.joins = 0 ∧
      (s'.publish records).lifecycle r.processer = .active :=
    fun r hr => ⟨(hc.mem r hr).2.2.1, (hc.mem r hr).2.2.2, if_pos (List.mem_map_of_mem hr)⟩
  have hmem : ∀ r ∈ (s'.publish records).workers, r ∈ s.workers ∨ r ∈ records := by
    intro r hr
    rw [← hworkers]
    exact List.mem_append.mp hr
  refine ⟨fun r hr hcl => ?_, fun r hr hcl => ?_, fun t id hcl => ?_, fun t t' id h₁ h₂ => ?_⟩
  · rcases hmem r hr with hr | hr
    · rw [hlife r hr]
      exact h.unclaimed r hr hcl
    · rw [(hnew r hr).2.2]
      exact ⟨(hnew r hr).2.1, trivial⟩
  · rcases hmem r hr with hr | hr
    · obtain ⟨t, ht⟩ := h.claimed r hr hcl
      refine ⟨t, ?_⟩
      change State.Holds _ r (s'.call t)
      rw [hcalls]
      exact ht.congr (hlife r hr)
    · rw [(hnew r hr).1] at hcl
      cases hcl
  · change (s'.call t).claim = some id at hcl
    rw [hcalls] at hcl
    obtain ⟨r, hr, hid, hclaimed, hheld⟩ := h.held t id hcl
    refine ⟨r, List.mem_append_left _ (by rwa [hworkers]), hid, hclaimed, ?_⟩
    change State.Holds _ r (s'.call t)
    rw [hcalls]
    exact hheld.congr (hlife r hr)
  · change (s'.call t).claim = some id at h₁
    change (s'.call t').claim = some id at h₂
    rw [hcalls] at h₁ h₂
    exact h.unique t t' id h₁ h₂

/-- The receipts agree after a step of `t` that changes one record, claimed by nobody else. -/
lemma update {id : ProcesserId} {t : T} {f : WorkerRecord → WorkerRecord} (h : Receipts s)
    (hid : ∀ r, (f r).processer = r.processer)
    (hworkers : s'.workers = s.workers.map fun r => if r.processer = id then f r else r)
    (hlife : ∀ p, p ≠ id → s'.lifecycle p = s.lifecycle p)
    (hcall : ∀ t', t' ≠ t → s'.call t' = s.call t')
    (hothers : ∀ t', t' ≠ t → (s.call t').claim ≠ some id)
    (hown : (s.call t).claim = some id ∨ (s.call t).claim = none)
    (hnew : ∀ r ∈ s.workers, r.processer = id →
      ((f r).claimed = true ∧ s'.Holds (f r) (s'.call t)) ∨
      ((f r).claimed = false ∧ (f r).joins = 0 ∧ (s'.lifecycle id).unclaimed ∧
        (s'.call t).claim = none))
    (hmem : (s'.call t).claim = none ∨ (s'.call t).claim = some id ∧
      ∃ r ∈ s.workers, r.processer = id) : Receipts s' := by
  have hcases : ∀ r ∈ s'.workers, (r ∈ s.workers ∧ r.processer ≠ id) ∨
      ∃ r₀ ∈ s.workers, r₀.processer = id ∧ r = f r₀ := by
    intro r hr
    rw [hworkers] at hr
    obtain ⟨r₀, hr₀, rfl⟩ := List.mem_map.mp hr
    split_ifs with heq
    · exact .inr ⟨r₀, hr₀, heq, rfl⟩
    · exact .inl ⟨hr₀, heq⟩
  have hkeep : ∀ r ∈ s.workers, r.processer ≠ id → r ∈ s'.workers := by
    intro r hr hne
    rw [hworkers]
    exact List.mem_map.mpr ⟨r, hr, if_neg hne⟩
  have hstep : ∀ r ∈ s.workers, r.processer = id → f r ∈ s'.workers := by
    intro r hr heq
    rw [hworkers]
    exact List.mem_map.mpr ⟨r, hr, if_pos heq⟩
  refine ⟨fun r hr hcl => ?_, fun r hr hcl => ?_, fun t' p hc => ?_, fun t₁ t₂ p h₁ h₂ => ?_⟩
  · rcases hcases r hr with ⟨hr, hne⟩ | ⟨r₀, hr₀, heq, rfl⟩
    · rw [hlife _ hne]
      exact h.unclaimed r hr hcl
    · rcases hnew r₀ hr₀ heq with ⟨hcl', -⟩ | ⟨-, hj, hl, -⟩
      · rw [hcl'] at hcl
        cases hcl
      · rw [hid, heq]
        exact ⟨hj, hl⟩
  · rcases hcases r hr with ⟨hr, hne⟩ | ⟨r₀, hr₀, heq, rfl⟩
    · obtain ⟨t', ht'⟩ := h.claimed r hr hcl
      have hne' : t' ≠ t := by
        rintro rfl
        rw [ht'.claim_eq] at hown
        rcases hown with hown | hown
        · exact hne (Option.some.inj hown)
        · cases hown
      refine ⟨t', ?_⟩
      rw [hcall t' hne']
      exact ht'.congr (hlife _ hne)
    · rcases hnew r₀ hr₀ heq with ⟨-, hheld⟩ | ⟨hcl', -⟩
      · exact ⟨t, hheld⟩
      · rw [hcl'] at hcl
        cases hcl
  · by_cases ht : t' = t
    · subst ht
      rcases hmem with hnone | ⟨hsome, r, hr, heq⟩
      · rw [hnone] at hc
        cases hc
      · have hp : id = p := Option.some.inj (hsome.symm.trans hc)
        subst hp
        rcases hnew r hr heq with ⟨hcl, hheld⟩ | ⟨-, -, -, hnone⟩
        · exact ⟨f r, hstep r hr heq, (hid r).trans heq, hcl, hheld⟩
        · rw [hnone] at hsome
          cases hsome
    · rw [hcall t' ht] at hc ⊢
      obtain ⟨r, hr, hp, hcl, hheld⟩ := h.held t' p hc
      have hne : r.processer ≠ id := by
        rw [hp]
        rintro rfl
        exact hothers t' ht hc
      exact ⟨r, hkeep r hr hne, hp, hcl, hheld.congr (hlife _ hne)⟩
  · have hone : ∀ t', t' ≠ t → (s'.call t).claim = some p → (s'.call t').claim ≠ some p := by
      intro t' ht' hc hc'
      rcases hmem with hnone | ⟨hsome, -⟩
      · rw [hnone] at hc
        cases hc
      · have hp : id = p := Option.some.inj (hsome.symm.trans hc)
        subst hp
        rw [hcall t' ht'] at hc'
        exact hothers t' ht' hc'
    by_cases ht₁ : t₁ = t
    · subst ht₁
      by_contra hne
      exact hone t₂ (fun heq => hne heq.symm) h₁ h₂
    · by_cases ht₂ : t₂ = t
      · subst ht₂
        exact absurd h₁ (hone t₁ ht₁ h₂)
      · rw [hcall _ ht₁] at h₁
        rw [hcall _ ht₂] at h₂
        exact h.unique t₁ t₂ p h₁ h₂

end Receipts

/-! ## The steps of a call -/

section Run

variable [DecidableEq T] {s s' : State T} {t : T}

/-- The ways in which the call of `t` goes on. -/
inductive Run (s : State T) (t : T) : State T → Prop
  | cancelled {who : Resizer} {batch : List ProcesserId} (hc : s.call t = .cancelBatch who batch) :
      Run s t (s.batchCancelled t who)
  | claim {n : ℕ} {r : WorkerRecord} (hc : s.call t = .reap n) (hr : r ∈ s.workers)
      (hfree : r.claimed = false) (hexit : s.lifecycle r.processer = .exited) :
      Run s t ((s.updateRecord r.processer fun r => { r with claimed := true }).goto t
        (.join n r.processer))
  | stop {n : ℕ} (hc : s.call t = .reap n) : Run s t (s.goto t .idle)
  | joined {n : ℕ} {id : ProcesserId} (hc : s.call t = .join n id) :
      Run s t ((s.updateRecord id fun r => { r with joins := r.joins + 1 }).goto t
        (.markJoined n id))
  | joinFails {n : ℕ} {id : ProcesserId} (hc : s.call t = .join n id) :
      Run s t ((s.updateRecord id fun r => { r with claimed := false }).goto t .idle)
  | mark {n : ℕ} {id : ProcesserId} (hc : s.call t = .markJoined n id) :
      Run s t ((s.setLifecycle [id] .joined).goto t (.erase n id))
  | erase {n : ℕ} {id : ProcesserId} (hc : s.call t = .erase n id) :
      Run s t ({ s with workers := s.workers.filter (·.processer ≠ id) }.goto t (.reap (n + 1)))

/-- A step of a call is a listed one. -/
lemma run_of_step {joins : Bool} (h : s.step t joins = some s') : Run s t s' := by
  unfold State.step at h
  split at h
  · rename_i who batch hc
    obtain rfl := Option.some.inj h
    exact .cancelled hc
  · rename_i n hc
    split_ifs at h with hn
    · split at h
      · rename_i r hfind
        obtain rfl := Option.some.inj h
        have hclaim := List.find?_some hfind
        simp only [State.claimable, decide_eq_true_eq] at hclaim
        exact .claim hc (List.mem_of_find?_eq_some hfind) hclaim.1 hclaim.2.1
      · obtain rfl := Option.some.inj h
        exact .stop hc
    · obtain rfl := Option.some.inj h
      exact .stop hc
  · rename_i n id hc
    split_ifs at h
    · obtain rfl := Option.some.inj h
      exact .joined hc
    · obtain rfl := Option.some.inj h
      exact .joinFails hc
  · rename_i n id hc
    obtain rfl := Option.some.inj h
    exact .mark hc
  · rename_i n id hc
    obtain rfl := Option.some.inj h
    exact .erase hc
  · cases h

@[simp] lemma goto_call_self (s : State T) (t : T) (c : Call) : (s.goto t c).call t = c :=
  Function.update_self _ _ _

/-- The other threads stay at their calls. -/
lemma goto_call_of_ne (s : State T) {t t' : T} (h : t' ≠ t) (c : Call) :
    (s.goto t c).call t' = s.call t' :=
  Function.update_of_ne h _ _

/-- A call that goes on keeps the containers well formed. -/
lemma WellFormed.goto (h : WellFormed s) (t : T) (c : Call) : WellFormed (s.goto t c) :=
  h.congr rfl rfl rfl rfl rfl rfl

/-- A call that has claimed nothing may go on to a point where it has claimed nothing. -/
lemma Receipts.goto (h : Receipts s) {c : Call} (ht : (s.call t).claim = none)
    (hc : c.claim = none) : Receipts (s.goto t c) := by
  refine h.transfer rfl (fun t' => ?_) (fun _ _ _ => rfl) (fun _ _ hl => hl)
  by_cases heq : t' = t
  · subst heq
    right
    exact ⟨ht, by rwa [goto_call_self]⟩
  · exact .inl (goto_call_of_ne s heq c)

/-- The step of a call keeps the containers. -/
lemma Run.wellFormed (h : Run s t s') (hw : WellFormed s) (hr : Receipts s) : WellFormed s' := by
  cases h with
  | @cancelled who batch hc =>
    cases who
    all_goals exact hw.congr rfl rfl rfl rfl rfl rfl
  | claim hc hmem hfree hexit =>
    refine WellFormed.goto (hw.updateRecord _ ?_) _ _
    exact fun _ => rfl
  | stop hc => exact hw.goto _ _
  | joined hc =>
    refine WellFormed.goto (hw.updateRecord _ ?_) _ _
    exact fun _ => rfl
  | joinFails hc =>
    refine WellFormed.goto (hw.updateRecord _ ?_) _ _
    exact fun _ => rfl
  | mark hc =>
    obtain ⟨r, -, hid, -, hheld⟩ := hr.held t _ (by rw [hc]; rfl)
    rw [hc] at hheld
    obtain ⟨-, hexit, -⟩ := hheld
    rw [hid] at hexit
    exact (hw.setLifecycle (by decide) (.inr hexit)).goto _ _
  | erase hc =>
    obtain ⟨r, -, hid, -, hheld⟩ := hr.held t _ (by rw [hc]; rfl)
    rw [hc] at hheld
    obtain ⟨-, hjoined, -⟩ := hheld
    rw [hid] at hjoined
    exact (hw.erase (by rw [hjoined]; decide)).goto _ _

/-- The step of a call keeps the receipts. -/
lemma Run.receipts (h : Run s t s') (hw : WellFormed s) (hr : Receipts s) : Receipts s' := by
  cases h with
  | @cancelled who batch hc =>
    have hclaim : (s.call t).claim = none := by
      rw [hc]
      rfl
    have hgoto : ∀ c : Call, c.claim = none → Receipts (s.goto t c) :=
      fun c => hr.goto hclaim
    cases who with
    | manual => exact hgoto _ rfl
    | up =>
      exact (hgoto .idle rfl).transfer rfl (fun _ => .inl rfl) (fun _ _ _ => rfl)
        fun _ _ hl => hl
    | down =>
      exact (hgoto .idle rfl).transfer rfl (fun _ => .inl rfl) (fun _ _ _ => rfl)
        fun _ _ hl => hl
  | @claim n r hc hmem hfree hexit =>
    refine hr.update (f := fun r => { r with claimed := true }) (fun _ => rfl) rfl
      (fun _ _ => rfl) (fun t' ht => goto_call_of_ne _ ht _) (fun t' _ hclaim => ?_) ?_
      (fun r' hr' heq => ?_) ?_
    · obtain ⟨hcl, -⟩ := hr.holds_of_claim hw hmem hclaim
      rw [hfree] at hcl
      cases hcl
    · rw [hc]
      exact .inr rfl
    · left
      obtain rfl := List.inj_on_of_nodup_map hw.workers hr' hmem heq
      rw [goto_call_self]
      exact ⟨rfl, rfl, hexit, (hr.unclaimed _ hr' hfree).1⟩
    · rw [goto_call_self]
      exact .inr ⟨rfl, r, hmem, rfl⟩
  | stop hc => exact hr.goto (by rw [hc]; rfl) rfl
  | @joined n id hc =>
    have hclaim : (s.call t).claim = some id := by
      rw [hc]
      rfl
    refine hr.update (f := fun r => { r with joins := r.joins + 1 }) (fun _ => rfl) rfl
      (fun _ _ => rfl) (fun t' ht => goto_call_of_ne _ ht _)
      (fun t' ht hclaim' => ht (hr.unique _ _ _ hclaim' hclaim)) (.inl hclaim)
      (fun r hmem heq => ?_) ?_
    · left
      subst heq
      obtain ⟨hcl, hheld⟩ := hr.holds_of_claim hw hmem hclaim
      rw [hc] at hheld
      obtain ⟨-, hexit, hj⟩ := hheld
      rw [goto_call_self]
      exact ⟨hcl, rfl, hexit, by rw [hj]⟩
    · obtain ⟨r, hmem, hid, -⟩ := hr.held t id hclaim
      rw [goto_call_self]
      exact .inr ⟨rfl, r, hmem, hid⟩
  | @joinFails n id hc =>
    have hclaim : (s.call t).claim = some id := by
      rw [hc]
      rfl
    refine hr.update (f := fun r => { r with claimed := false }) (fun _ => rfl) rfl
      (fun _ _ => rfl) (fun t' ht => goto_call_of_ne _ ht _)
      (fun t' ht hclaim' => ht (hr.unique _ _ _ hclaim' hclaim)) (.inl hclaim)
      (fun r hmem heq => ?_) (by rw [goto_call_self]; exact .inl rfl)
    right
    subst heq
    obtain ⟨-, hheld⟩ := hr.holds_of_claim hw hmem hclaim
    rw [hc] at hheld
    obtain ⟨-, hexit, hj⟩ := hheld
    refine ⟨rfl, hj, ?_, by rw [goto_call_self]; rfl⟩
    change (s.lifecycle r.processer).unclaimed
    rw [hexit]
    trivial
  | @mark n id hc =>
    have hclaim : (s.call t).claim = some id := by
      rw [hc]
      rfl
    refine hr.update (f := fun r => r) (fun _ => rfl) ?_ (fun p hp => ?_)
      (fun t' ht => goto_call_of_ne _ ht _)
      (fun t' ht hclaim' => ht (hr.unique _ _ _ hclaim' hclaim)) (.inl hclaim)
      (fun r hmem heq => ?_) ?_
    · simp only [ite_self, List.map_id']
      rfl
    · change (if p ∈ [id] then _ else _) = _
      simp [hp]
    · left
      subst heq
      obtain ⟨hcl, hheld⟩ := hr.holds_of_claim hw hmem hclaim
      rw [hc] at hheld
      rw [goto_call_self]
      exact ⟨hcl, rfl, if_pos (List.mem_singleton_self _), hheld.2.2⟩
    · obtain ⟨r, hmem, hid, -⟩ := hr.held t id hclaim
      rw [goto_call_self]
      exact .inr ⟨rfl, r, hmem, hid⟩
  | @erase n id hc =>
    have hclaim : (s.call t).claim = some id := by
      rw [hc]
      rfl
    have hne : ∀ t', t' ≠ t → (s.call t').claim ≠ some id :=
      fun t' ht hclaim' => ht (hr.unique _ _ _ hclaim' hclaim)
    have hcall : ∀ t', (({ s with
        workers := s.workers.filter (·.processer ≠ id) } : State T).goto t
          (.reap (n + 1))).call t' = s.call t' ∨ t' = t := by
      intro t'
      by_cases ht : t' = t
      · exact .inr ht
      · exact .inl (goto_call_of_ne _ ht _)
    refine ⟨fun r hmem hcl => hr.unclaimed r (List.mem_filter.mp hmem).1 hcl,
      fun r hmem hcl => ?_, fun t' p hclaim' => ?_, fun t₁ t₂ p h₁ h₂ => ?_⟩
    · obtain ⟨hmem, hid⟩ := List.mem_filter.mp hmem
      obtain ⟨t', ht'⟩ := hr.claimed r hmem hcl
      refine ⟨t', ?_⟩
      rcases hcall t' with heq | rfl
      · rw [heq]
        exact ht'.congr rfl
      · rw [ht'.claim_eq] at hclaim
        simp [Option.some.inj hclaim] at hid
    · rcases hcall t' with heq | rfl
      · rw [heq] at hclaim' ⊢
        obtain ⟨r, hmem, hid, hcl, hheld⟩ := hr.held t' p hclaim'
        have hp : r.processer ≠ id := by
          rw [hid]
          rintro rfl
          have ht : t' = t := hr.unique _ _ _ hclaim' hclaim
          rw [ht, goto_call_self, hc] at heq
          cases heq
        exact ⟨r, List.mem_filter.mpr ⟨hmem, by simpa using hp⟩, hid, hcl, hheld.congr rfl⟩
      · rw [goto_call_self] at hclaim'
        cases hclaim'
    · rcases hcall t₁ with heq₁ | rfl
      · rcases hcall t₂ with heq₂ | rfl
        · rw [heq₁] at h₁
          rw [heq₂] at h₂
          exact hr.unique _ _ _ h₁ h₂
        · rw [goto_call_self] at h₂
          cases h₂
      · rw [goto_call_self] at h₁
        cases h₁

end Run

end BbtCoroutine.Scheduler
