import BbtCoroutine.WaitForWork.Publish

/-!
# The steps of the workers

A worker goes to sleep only after it has found all queues empty, and whoever has enqueued a task
since then is on the way to its latch.
-/

namespace BbtCoroutine.WaitForWork

open Transition GlobalPull

variable {T W : Type*} [DecidableEq W] {s t : State T W} {p : W} {x : Worker}
  {g : CoroutinePriority → ℕ}

/-! ## Awake and half asleep -/

/-- The worker exists and has not begun to drain its queue. -/
def Stage.works : Stage → Bool
  | .absent | .drain => false
  | _ => true

omit [DecidableEq W] in
/-- A worker that works exists. -/
lemma Stage.ne_absent {c : Stage} (h : c.works = true) : c ≠ .absent := by
  rintro rfl
  cases h

omit [DecidableEq W] in
/-- A worker that works and retires is not admitted. -/
lemma Worker.retires.closed (h : x.retires) (hw : x.stage.works = true) :
    x.admissionOpen = false := by
  refine h.1.resolve_right fun he => ?_
  rw [he] at hw
  cases hw

/-- A step of the worker `p`, which may change the global queues. -/
lemma Inv.workAt (h : Inv s)
    (hfit : Fits { s with worker := Function.update s.worker p x, globalQueue := g } p)
    (hO : (s.worker p).retires → x.retires ∨ ∀ q ∈ s.activeSnapshot, s.Sends q)
    (hG : ∀ k, g k ≠ 0 → s.globalQueue k ≠ 0 ∨ x.retires ∨ ∀ q ∈ s.activeSnapshot, s.Sends q) :
    Inv { s with worker := Function.update s.worker p x, globalQueue := g } := by
  generalize ht : { s with worker := Function.update s.worker p x, globalQueue := g } = t at hfit ⊢
  have hfr : t.frame = s.frame := by rw [← ht]
  have hact : t.activeSnapshot = s.activeSnapshot := by rw [← ht]
  have hself : t.worker p = x := by
    rw [← ht]
    exact Function.update_self _ _ _
  have hother : ∀ q, q ≠ p → t.worker q = s.worker q := fun q hq => by
    rw [← ht]
    exact Function.update_of_ne hq _ _
  have hS : ∀ q, s.Sends q → t.Sends q := by
    rintro q ⟨a, ha⟩
    exact ⟨a, by rw [hfr, hact]; exact ha⟩
  refine ⟨fun q => ?_, fun b => ?_, ?_⟩
  · by_cases hq : q = p
    · rw [hq]
      exact hfit
    refine (h.fits q).untouched (hother q hq) (hS q) ?_ ?_ (fun hx => hact ▸ hx) ?_ ?_
    · rintro ⟨a, todo, selected, ha⟩
      exact ⟨a, todo, selected, by rw [hfr]; exact ha⟩
    · rintro ⟨a, ps, ha⟩
      exact ⟨a, ps, by rw [hfr]; exact ha⟩
    · rintro hin (hs | ⟨hin', r, hr⟩)
      · exact .inl (hS q hs)
      · by_cases hrp : r = p
        · subst hrp
          obtain hx | hx := hO hr
          · exact .inr ⟨hin, r, by rw [hself]; exact hx⟩
          · exact .inl (hS q (hx q hin'))
        · exact .inr ⟨hin, r, by rw [hother r hrp]; exact hr⟩
    · intro hin k hk
      rw [← ht] at hk
      obtain hk | hx | hx := hG k hk
      · exact .inl hk
      · exact .inr (.inr ⟨hin, p, by rw [hself]; exact hx⟩)
      · exact .inr (.inl (hS q (hx q (hact ▸ hin))))
  · rw [hfr]
    have hx := h.frames b
    cases hs : s.frame b with
    | shrink todo selected | request q todo selected =>
      rw [hs] at hx
      rw [← ht]
      exact hx
    | idle | regist ps | admitted q | active k | broadcast | publish ps | notify q ps => trivial
  · rw [hact]
    exact h.nonempty

/-- A worker that is not about to sleep after the step. -/
lemma Inv.awake (h : Inv s) (hne : (s.worker p).stage ≠ .absent) (hst : x.stage.waits = false)
    (hadm : x.admissionOpen = (s.worker p).admissionOpen)
    (hreq : x.retireRequested = (s.worker p).retireRequested)
    (hO : (s.worker p).retires → x.retires ∨ ∀ q ∈ s.activeSnapshot, s.Sends q)
    (hG : ∀ k, g k ≠ 0 → s.globalQueue k ≠ 0 ∨ x.retires ∨ ∀ q ∈ s.activeSnapshot, s.Sends q) :
    Inv { s with worker := Function.update s.worker p x, globalQueue := g } := by
  refine h.workAt (Fits.of_awake ?_ ?_) hO hG
  · show (Function.update s.worker p x p).stage.waits = false
    rw [Function.update_self]
    exact hst
  · show (Function.update s.worker p x p).admissionOpen = false →
      (Function.update s.worker p x p).retireRequested = true ∨ _
    rw [Function.update_self, hadm, hreq]
    exact (h.fits p).closed hne

/-- A worker that is in `_WaitForWork` after the step, with its latch as before. -/
lemma Inv.dozes (h : Inv s) (hne : (s.worker p).stage.works = true)
    (hadm : x.admissionOpen = (s.worker p).admissionOpen)
    (hreq : x.retireRequested = (s.worker p).retireRequested)
    (hl : x.runCondNotify = (s.worker p).runCondNotify) (hst : x.stage.waits = true)
    (hw : x.retireRequested = true → (s.worker p).stage.waits = true)
    (hown : x.stage.past = true → x.runCondNotify = true → x.coroutineQueue ≠ 0 → s.Sends p)
    (hshared : p ∈ s.activeSnapshot → ∀ k, x.seen k → g k ≠ 0 →
      x.runCondNotify = false ∨ s.OnTheWay p)
    (hsig : x.stage = .waiting → x.runCondNotify = true)
    (hG : ∀ k, g k ≠ 0 → s.globalQueue k ≠ 0 ∨ x.admissionOpen = false) :
    Inv { s with worker := Function.update s.worker p x, globalQueue := g } := by
  have hx : x.admissionOpen = false → x.retires := by
    intro hc
    refine ⟨.inl hc, ?_, ?_, ?_⟩ <;>
    · intro he
      rw [he] at hst
      cases hst
  have hret : (s.worker p).retires → x.retires := fun hr => hx (hadm.trans (hr.closed hne))
  refine h.workAt ?_ (fun hr => .inl (hret hr)) fun k hk => (hG k hk).imp_right fun hc =>
    .inl (hx hc)
  have hself : Function.update s.worker p x p = x := Function.update_self _ _ _
  have hO : s.OnTheWay p → State.OnTheWay
      { s with worker := Function.update s.worker p x, globalQueue := g } p := by
    refine fun ho => ho.mono id id fun r hr => ?_
    by_cases hrp : r = p
    · subst hrp
      show (Function.update s.worker r x r).retires
      rw [hself]
      exact hret hr
    · show (Function.update s.worker p x r).retires
      rw [Function.update_of_ne hrp]
      exact hr
  refine ⟨?_, ?_, ?_, ?_, ?_⟩ <;> dsimp only <;> rw [hself]
  · exact hown
  · rw [hadm, hreq]
    exact fun _ => (h.fits p).closed (Stage.ne_absent hne)
  · intro _ hr
    rw [hl]
    exact (h.fits p).retired (hw hr) (hreq ▸ hr)
  · exact fun hin k hk hg => (hshared hin k hk hg).imp_right hO
  · intro hwt hlt
    rw [hsig hwt] at hlt
    cases hlt

/-- In this stage a worker is not about to sleep, and has not come to its final broadcast. -/
def Stage.awake : Stage → Bool
  | .absent | .wake true | .exited => false
  | c => !c.waits

/-- What being awake rules out. -/
lemma Stage.awake_spec {c : Stage} (h : c.awake = true) :
    c.waits = false ∧ c ≠ .absent ∧ c ≠ .wake true ∧ c ≠ .exited := by
  cases c with
  | absent | exited => cases h
  | wake final =>
    cases final with
    | false => exact ⟨rfl, by decide, by decide, by decide⟩
    | true => cases h
  | _ =>
    exact ⟨by simpa [Stage.awake] using h, Stage.noConfusion, Stage.noConfusion,
      Stage.noConfusion⟩

/-- The worker goes on to a stage in which it is awake, and its admission is as before. -/
lemma Inv.goesOn (h : Inv s) {c : Stage} (hst : (s.worker p).stage = c) (hc : c.works = true)
    (hx : x.stage.awake = true) (hadm : x.admissionOpen = (s.worker p).admissionOpen)
    (hreq : x.retireRequested = (s.worker p).retireRequested)
    (hG : ∀ k, g k ≠ 0 → s.globalQueue k ≠ 0) :
    Inv { s with worker := Function.update s.worker p x, globalQueue := g } := by
  obtain ⟨hw, hne⟩ := Stage.awake_spec hx
  have hworks : (s.worker p).stage.works = true := by rw [hst]; exact hc
  exact h.awake (Stage.ne_absent hworks) hw hadm hreq
    (fun hr => .inl ⟨.inl (hadm.trans (hr.closed hworks)), hne⟩) fun k hk => .inl (hG k hk)

/-- The worker only goes on to a stage in which it is awake. -/
lemma Inv.goto (h : Inv s) {c c' : Stage} (hst : (s.worker p).stage = c) (hc : c.works = true)
    (hc' : c'.awake = true) : Inv (s.goto p c') :=
  h.goesOn (g := s.globalQueue) hst hc hc' rfl rfl fun _ => id

/-- A task is kept, in the local queue or in a global one. -/
lemma Inv.keep (h : Inv s) {c c' : Stage} (hst : (s.worker p).stage = c) (hc : c.works = true)
    (hc' : c'.awake = true) (k : CoroutinePriority) : Inv (s.keep p k c') := by
  obtain ⟨hw, hr⟩ := Stage.awake_spec hc'
  have hworks : (s.worker p).stage.works = true := by rw [hst]; exact hc
  unfold State.keep
  split
  · exact h.goesOn (g := s.globalQueue) hst hc hc' rfl rfl fun _ => id
  · rename_i hadm
    have hclosed : (s.worker p).admissionOpen = false := Bool.eq_false_of_not_eq_true hadm
    exact h.awake (g := Function.update s.globalQueue k (s.globalQueue k + 1))
      (Stage.ne_absent hworks) hw rfl rfl (fun _ => .inl ⟨.inl hclosed, hr⟩)
      fun _ _ => .inr (.inl ⟨.inl hclosed, hr⟩)

/-- `_WaitForWork` returns. -/
lemma Inv.endWait (h : Inv s) {c : Stage} (hst : (s.worker p).stage = c) (hc : c.works = true) :
    Inv (s.endWait p) :=
  h.goesOn (g := s.globalQueue) hst hc rfl rfl rfl fun _ => id

/-! ## Pulls -/

variable [DecidableEq T]

/-- A call of `_TryGetCoroutineFromGlobal`. -/
lemma Inv.pull (h : Inv s) (hs : work s p (.pull p) = some t) : Inv t := by
  simp only [work] at hs
  split at hs
  · rename_i hst
    split at hs
    · obtain rfl := Option.some.inj hs
      exact h.goto hst rfl rfl
    · obtain rfl := Option.some.inj hs
      exact h
  · cases hs

/-- A probe. -/
lemma Inv.probe (h : Inv s) (hs : work s p (.probe p) = some t) : Inv t := by
  simp only [work] at hs
  split at hs
  · rename_i c n m hst
    have hne : (s.worker p).stage.works = true := by rw [hst]; rfl
    split at hs
    · split at hs
      · rename_i hzero
        obtain rfl := Option.some.inj hs
        cases c with
        | run => exact h.goesOn (g := s.globalQueue) hst rfl rfl rfl rfl fun _ => id
        | recheck leased =>
          refine h.dozes (g := s.globalQueue) hne rfl rfl rfl rfl ?_ ?_ ?_ ?_ fun _ => .inl
          · rw [hst]
            exact fun _ => rfl
          · exact fun hx => by cases hx
          · rintro hin k ⟨hn, hv⟩ hg
            refine (h.fits p).shared hin k ?_ hg
            unfold Worker.seen
            rw [hst]
            refine ⟨hn, (visited_pullNext hv).resolve_left ?_⟩
            rintro rfl
            exact hg hzero
          · exact fun hx => by cases hx
      · obtain rfl := Option.some.inj hs
        have hG : ∀ k, Function.update s.globalQueue (s.worker p).globalPullPriority
            (s.globalQueue (s.worker p).globalPullPriority - 1) k ≠ 0 → s.globalQueue k ≠ 0 := by
          intro k hk
          by_cases hkp : k = (s.worker p).globalPullPriority
          · subst hkp
            assumption
          · rwa [Function.update_of_ne hkp] at hk
        cases c with
        | run => exact h.goesOn hst rfl rfl rfl rfl hG
        | recheck leased =>
          refine h.dozes hne rfl rfl rfl rfl ?_ ?_ ?_ ?_ fun k hk => .inl (hG k hk)
          · rw [hst]
            exact fun _ => rfl
          · exact fun hx => by cases hx
          · exact fun _ _ hk => hk.elim
          · exact fun hx => by cases hx
    · cases hs
  · cases hs

/-- A dequeued task comes into the local queue, or goes back. -/
lemma Inv.admitPulled (h : Inv s) (hs : work s p (.admitPulled p) = some t) : Inv t := by
  simp only [work] at hs
  split at hs
  · rename_i c n m k hst
    have hne : (s.worker p).stage.works = true := by rw [hst]; rfl
    cases c with
    | run =>
      split at hs
      · obtain rfl := Option.some.inj hs
        exact h.keep hst rfl rfl k
      · obtain rfl := Option.some.inj hs
        exact h.keep hst rfl rfl k
    | recheck leased =>
      have hw : (s.worker p).stage.waits = true := by rw [hst]; rfl
      split at hs
      · rename_i hadm
        obtain rfl := Option.some.inj hs
        unfold State.keep
        rw [if_pos hadm]
        refine h.dozes (g := s.globalQueue) hne rfl rfl rfl rfl (fun _ => hw) ?_ ?_ ?_ fun _ => .inl
        · exact fun hx => by cases hx
        · exact fun _ _ hk => absurd hk.1 (Nat.succ_ne_zero n)
        · exact fun hx => by cases hx
      · rename_i hadm
        have hclosed : (s.worker p).admissionOpen = false := Bool.eq_false_of_not_eq_true hadm
        obtain rfl := Option.some.inj hs
        unfold State.keep
        rw [if_neg hadm]
        refine h.dozes (g := Function.update s.globalQueue k (s.globalQueue k + 1)) hne rfl rfl rfl
          rfl (fun _ => hw) ?_ ?_ ?_ fun _ _ => .inr hclosed
        · exact fun hx => by cases hx
        · exact fun _ _ _ _ => (h.sends_of_closed hw hclosed).imp_right .inl
        · exact fun hx => by cases hx
  · cases hs

/-- The end of a call of `_TryGetCoroutineFromGlobal`. -/
lemma Inv.pullDone (h : Inv s) (hs : work s p (.pullDone p) = some t) : Inv t := by
  simp only [work] at hs
  split at hs
  · rename_i n m hst
    split at hs
    · cases hs
    · obtain rfl := Option.some.inj hs
      exact h.goto hst rfl rfl
  · rename_i leased n m hst
    have hne : (s.worker p).stage.works = true := by rw [hst]; rfl
    have hw : (s.worker p).stage.waits = true := by rw [hst]; rfl
    split at hs
    · cases hs
    rename_i hend
    split at hs
    · rename_i hn
      subst hn
      obtain rfl := Option.some.inj hs
      -- no task has come, so the last four queues in a row were empty
      have hm : coPriorityCount ≤ m := by
        by_contra hlt
        exact hend (Bool.and_eq_true_iff.mpr ⟨rfl, decide_eq_true (Nat.lt_of_not_le hlt)⟩)
      refine h.dozes (g := s.globalQueue) hne rfl rfl rfl rfl (fun _ => hw) ?_ ?_ ?_ fun _ => .inl
      · exact fun hx => by cases hx
      · intro hin k _ hg
        refine (h.fits p).shared hin k ?_ hg
        unfold Worker.seen
        rw [hst]
        exact ⟨rfl, visited_of_le hm k⟩
      · exact fun hx => by cases hx
    · obtain rfl := Option.some.inj hs
      exact h.endWait hst rfl
  · cases hs

/-! ## The wait -/

/-- `_WaitForWork` is called. -/
lemma Inv.waitForWork (h : Inv s) {leased : Bool} (hs : work s p (.waitForWork p leased) = some t) :
    Inv t := by
  simp only [work] at hs
  split at hs
  · rename_i hst
    obtain rfl := Option.some.inj hs
    refine h.dozes (g := s.globalQueue) ?_ rfl rfl rfl rfl ?_ ?_ ?_ ?_ fun _ => .inl
    · rw [hst.1]
      rfl
    · intro hr
      rw [hst.2] at hr
      cases hr
    · exact fun hx => by cases hx
    · exact fun _ _ hk => hk.elim
    · exact fun hx => by cases hx
  · cases hs

/-- `m_run_cond_mutex` is taken, and the global queues are about to be visited. -/
lemma Inv.lock (h : Inv s) (hs : work s p (.lock p) = some t) : Inv t := by
  simp only [work] at hs
  split at hs
  · rename_i leased hst
    have hne : (s.worker p).stage.works = true := by rw [hst]; rfl
    have hw : (s.worker p).stage.waits = true := by rw [hst]; rfl
    split at hs
    · obtain rfl := Option.some.inj hs
      refine h.dozes (g := s.globalQueue) hne rfl rfl rfl rfl (fun _ => hw) ?_ ?_ ?_ fun _ => .inl
      · exact fun hx => by cases hx
      · exact fun _ _ hk => absurd hk.2 (Nat.not_lt_zero _)
      · exact fun hx => by cases hx
    · rename_i hadm
      have hclosed : (s.worker p).admissionOpen = false := Bool.eq_false_of_not_eq_true hadm
      obtain rfl := Option.some.inj hs
      refine h.dozes (g := s.globalQueue) hne rfl rfl rfl rfl (fun _ => hw) ?_ ?_ ?_ fun _ => .inl
      · exact fun hx => by cases hx
      · exact fun _ _ _ _ => (h.sends_of_closed hw hclosed).imp_right .inl
      · exact fun hx => by cases hx
  · cases hs

/-- The size of the local queue is read. -/
lemma Inv.recheckLocal (h : Inv s) (hs : work s p (.recheckLocal p) = some t) : Inv t := by
  simp only [work] at hs
  split at hs
  · rename_i leased hst
    have hne : (s.worker p).stage.works = true := by rw [hst]; rfl
    have hw : (s.worker p).stage.waits = true := by rw [hst]; rfl
    split at hs
    · rename_i hq
      obtain rfl := Option.some.inj hs
      refine h.dozes (g := s.globalQueue) hne rfl rfl rfl rfl (fun _ => hw) ?_ ?_ ?_ fun _ => .inl
      · exact fun _ _ hne => absurd hq hne
      · intro hin k _ hg
        refine (h.fits p).shared hin k ?_ hg
        unfold Worker.seen
        rw [hst]
        trivial
      · exact fun hx => by cases hx
    · obtain rfl := Option.some.inj hs
      exact h.endWait hst rfl
  · cases hs

/-- The latch and the request are read, and the worker goes to sleep if there is neither. -/
lemma Inv.wait (h : Inv s) (hs : work s p (.wait p) = some t) : Inv t := by
  simp only [work] at hs
  split at hs
  · rename_i hst
    split at hs
    · obtain rfl := Option.some.inj hs
      exact h.goto hst rfl rfl
    · obtain rfl := Option.some.inj hs
      exact h.endWait hst rfl
  · rename_i hst
    have hne : (s.worker p).stage.works = true := by rw [hst]; rfl
    split at hs
    · obtain rfl := Option.some.inj hs
      exact h.endWait hst rfl
    · rename_i hdue
      obtain ⟨hlatch, -⟩ := Bool.or_eq_false_iff.mp (Bool.eq_false_of_not_eq_true hdue)
      have hl : (s.worker p).runCondNotify = true := by
        rwa [Bool.not_eq_false'] at hlatch
      obtain rfl := Option.some.inj hs
      refine h.dozes (g := s.globalQueue) hne rfl rfl rfl rfl ?_ ?_ ?_ (fun _ => hl) fun _ => .inl
      · rw [hst]
        exact fun _ => rfl
      · refine fun _ h₂ h₃ => (h.fits p).own ?_ h₂ h₃
        rw [hst]
        rfl
      · intro hin k _ hg
        refine (h.fits p).shared hin k ?_ hg
        unfold Worker.seen
        rw [hst]
        trivial
  · cases hs

/-- A wait is woken. -/
lemma Inv.wake (h : Inv s) {timeout : Bool} (hs : work s p (.wake p timeout) = some t) :
    Inv t := by
  simp only [work] at hs
  split at hs
  · rename_i hst
    have hne : (s.worker p).stage.works = true := by rw [hst]; rfl
    split at hs
    · obtain rfl := Option.some.inj hs
      exact h.endWait hst rfl
    · rename_i hdue
      obtain ⟨hdue, -⟩ := Bool.or_eq_false_iff.mp (Bool.eq_false_of_not_eq_true hdue)
      obtain ⟨hlatch, -⟩ := Bool.or_eq_false_iff.mp hdue
      have hl : (s.worker p).runCondNotify = true := by
        rwa [Bool.not_eq_false'] at hlatch
      obtain rfl := Option.some.inj hs
      refine h.dozes (g := s.globalQueue) hne rfl rfl rfl ?_ ?_ ?_ ?_ (fun _ => hl) fun _ => .inl
      · show (s.worker p).stage.waits = true
        rw [hst]
        rfl
      · rw [hst]
        exact fun _ => rfl
      · exact (h.fits p).own
      · exact (h.fits p).shared
  · cases hs

/-! ## The coroutines and the end of a worker -/

omit [DecidableEq T] in
/-- A task leaves the local queue of a worker, which stays where it is. -/
lemma Inv.taken (h : Inv s) {n : ℕ} (hn : (s.worker p).coroutineQueue ≠ 0) :
    Inv (s.setWorker p { s.worker p with coroutineQueue := n }) := by
  refine h.workAt (g := s.globalQueue) ?_ ?_ fun _ => .inl
  · have hself : Function.update s.worker p { s.worker p with coroutineQueue := n } p =
        { s.worker p with coroutineQueue := n } := Function.update_self _ _ _
    refine (h.fits p).stays ?_ ?_ ?_ (fun _ => .inl hn) ?_ ?_ ?_ id (fun hx => .inr hx) id ?_
      fun _ _ => .inl
    all_goals dsimp only
    all_goals try rw [hself]
    · exact (h.fits p).closed
    · exact .inl
    · exact id
    · refine fun _ ho => ho.mono id id fun r hr => ?_
      by_cases hrp : r = p
      · subst hrp
        show (Function.update s.worker r _ r).retires
        rw [Function.update_self]
        exact hr
      · show (Function.update s.worker p _ r).retires
        rw [Function.update_of_ne hrp]
        exact hr
  · exact .inl

/-- A task is picked from the local queue. -/
lemma Inv.pick (h : Inv s) (hs : work s p (.pick p) = some t) : Inv t := by
  simp only [work] at hs
  split at hs
  · rename_i hst
    obtain rfl := Option.some.inj hs
    exact h.goesOn (g := s.globalQueue) hst.1 rfl rfl rfl rfl fun _ => id
  · cases hs

/-- A coroutine that is ready again is kept by the worker, or broadcast. -/
lemma Inv.ready (h : Inv s) (hs : work s p (.ready p) = some t) : Inv t := by
  simp only [work] at hs
  split at hs
  · rename_i hst hidle
    split at hs
    · obtain rfl := Option.some.inj hs
      exact h.keep hst rfl rfl _
    · rename_i hadm
      obtain rfl := Option.some.inj hs
      have h' : Inv (s.setFrame (.worker p) .broadcast) := h.setFrame_of_idle hidle trivial
      have hk : Inv ((s.setFrame (.worker p) .broadcast).keep p coPriorityNormal (.wake false)) :=
        h'.keep hst rfl rfl _
      have hadm' : ¬ ((s.setFrame (.worker p) .broadcast).worker p).admissionOpen = true := hadm
      unfold State.keep at hk ⊢
      rw [if_neg hadm'] at hk
      rw [if_neg hadm]
      exact hk
  · cases hs

/-- A coroutine waits for an event, or it has ended. -/
lemma Inv.parked (h : Inv s) (hs : work s p (.parked p) = some t) : Inv t := by
  simp only [work] at hs
  split at hs
  · rename_i hst hidle
    obtain rfl := Option.some.inj hs
    exact h.goto hst rfl rfl
  · cases hs

/-- A task is stolen. -/
lemma Inv.steal (h : Inv s) {victim : W} {k : CoroutinePriority}
    (hs : work s p (.steal p victim k) = some t) : Inv t := by
  simp only [work] at hs
  split at hs
  · rename_i hst
    obtain rfl := Option.some.inj hs
    have h' := h.taken (n := (s.worker victim).coroutineQueue - 1) hst.2.2
    refine h'.goto (c := .run) ?_ rfl rfl
    show (Function.update s.worker victim _ p).stage = .run
    rw [Function.update_of_ne hst.2.1.symm, hst.1]
  · cases hs

/-- A stolen task is kept. -/
lemma Inv.admitStolen (h : Inv s) (hs : work s p (.admitStolen p) = some t) : Inv t := by
  simp only [work] at hs
  split at hs
  · rename_i k hst
    obtain rfl := Option.some.inj hs
    exact h.keep hst rfl rfl k
  · cases hs

/-- The driver returns from its wait. -/
lemma Inv.driverReturns (h : Inv s) (hs : work s p (.driverReturns p) = some t) : Inv t := by
  simp only [work] at hs
  split at hs
  · rename_i hst
    obtain rfl := Option.some.inj hs
    exact h.goto hst rfl rfl
  · cases hs

/-- The loop of `_Run` ends. -/
lemma Inv.retire (h : Inv s) (hs : work s p (.retire p) = some t) : Inv t := by
  simp only [work] at hs
  split at hs
  · rename_i hst
    obtain rfl := Option.some.inj hs
    exact h.goto hst.1 rfl rfl
  · cases hs

/-- A task goes from the local queue to a global one. -/
lemma Inv.drain (h : Inv s) {k : CoroutinePriority} (hs : work s p (.drain p k) = some t) :
    Inv t := by
  simp only [work] at hs
  split at hs
  · rename_i hst
    obtain rfl := Option.some.inj hs
    have hret : ∀ n, Worker.retires { s.worker p with coroutineQueue := n } := by
      intro n
      unfold Worker.retires
      rw [hst.1]
      exact ⟨.inr rfl, Stage.noConfusion, Stage.noConfusion, Stage.noConfusion⟩
    refine h.awake (g := Function.update s.globalQueue k (s.globalQueue k + 1)) ?_ ?_ rfl rfl
      (fun _ => .inl (hret _)) fun _ _ => .inr (.inl (hret _))
    · rw [hst.1]
      exact Stage.noConfusion
    · show (s.worker p).stage.waits = false
      rw [hst.1]
      rfl
  · cases hs

/-- The local queue is empty for good, and the final broadcast begins. -/
lemma Inv.drained (h : Inv s) (hs : work s p (.drained p) = some t) : Inv t := by
  simp only [work] at hs
  split at hs
  · rename_i hidle
    split at hs
    · rename_i hst
      obtain rfl := Option.some.inj hs
      have h' : Inv (s.setFrame (.worker p) .broadcast) := h.setFrame_of_idle hidle trivial
      have hsends : ∀ q ∈ s.activeSnapshot, (s.setFrame (.worker p) .broadcast).Sends q := by
        intro q hq
        refine ⟨.worker p, ?_⟩
        show Frame.sends s.activeSnapshot q (Function.update s.frame (.worker p) .broadcast _)
        rw [Function.update_self]
        exact hq
      refine h'.awake (p := p) (g := s.globalQueue) ?_ rfl rfl rfl (fun _ => .inr hsends)
        fun _ => .inl
      show (s.worker p).stage ≠ .absent
      rw [hst.1]
      exact Stage.noConfusion
    · cases hs
  · cases hs

/-- The worker has broadcast. -/
lemma Inv.woken (h : Inv s) (hs : work s p (.woken p) = some t) : Inv t := by
  simp only [work] at hs
  split at hs
  · rename_i final hst hidle
    have hne : (s.worker p).stage.works = true := by rw [hst]; rfl
    obtain rfl := Option.some.inj hs
    cases final with
    | false => exact h.goto hst rfl rfl
    | true =>
      exact h.awake (g := s.globalQueue) (Stage.ne_absent hne) rfl rfl rfl
        (fun hr => absurd hst hr.2.2.1) fun _ => .inl
  · cases hs

end BbtCoroutine.WaitForWork
