import BbtCoroutine.WaitForWork.Model

/-!
# What keeps a worker from missing a task

Whoever enqueues a task still has to set the latches, or has set them.  `Fits` says this of one
worker, for its own queue, for the global queues that it has found empty, and for its retirement.
-/

namespace BbtCoroutine.WaitForWork

open Transition GlobalPull

variable {T W : Type*} {s t : State T W}

/-! ## Who is on the way to the latch -/

/-- What is left to do includes setting the latch of `p`. -/
def Frame.sends (active : List W) (p : W) : Frame W → Prop
  | .broadcast => p ∈ active
  | .publish ps | .notify _ ps => p ∈ ps
  | .shrink _ selected | .request _ _ selected => p ∈ selected
  | _ => False

/-- A publisher is on its way to the latch of `p`. -/
def State.Sends (s : State T W) (p : W) : Prop :=
  ∃ a, (s.frame a).sends s.activeSnapshot p

/-- The retirement has begun, and the final broadcast has not. -/
def Worker.retires (x : Worker) : Prop :=
  (x.admissionOpen = false ∨ x.stage = .drain) ∧
    x.stage ≠ .absent ∧ x.stage ≠ .wake true ∧ x.stage ≠ .exited

/-- A publisher is on its way to the latch of `p`, or a retiring worker will broadcast to it. -/
def State.OnTheWay (s : State T W) (p : W) : Prop :=
  s.Sends p ∨ p ∈ s.activeSnapshot ∧ ∃ r, (s.worker r).retires

/-- The retirement of `p` is about to be requested. -/
def State.Requests (s : State T W) (p : W) : Prop :=
  ∃ a todo selected, s.frame a = .request p todo selected

/-- `m_run_cond` of `p` is about to be notified. -/
def State.Notifies (s : State T W) (p : W) : Prop :=
  ∃ a ps, s.frame a = .notify p ps

/-! ## A worker -/

/-- The worker has found its local queue empty. -/
def Stage.past : Stage → Bool
  | .rechecked _ | .waiting => true
  | _ => false

/-- The worker is in `_WaitForWork` and is not sure to come back. -/
def Stage.waits : Stage → Bool
  | .enter _ | .pull (.recheck _) _ _ | .pulled (.recheck _) _ _ _ | .recheckLocal _ | .rechecked _
  | .waiting => true
  | _ => false

/-- The queue `k` is one of the last `n` that were visited before the cursor came to `c`. -/
def visited (c : CoroutinePriority) (n : ℕ) (k : CoroutinePriority) : Prop :=
  (k.val + coPriorityCount - c.val - 1) % coPriorityCount < n

/-- The worker may go to sleep because it has found the global queue `k` empty. -/
def Worker.seen (x : Worker) (k : CoroutinePriority) : Prop :=
  match x.stage with
  | .pull (.recheck _) alreadyCount emptyLevels =>
    alreadyCount = 0 ∧ visited x.globalPullPriority emptyLevels k
  | .recheckLocal _ | .rechecked _ | .waiting => True
  | _ => False

/-- What holds of a worker. -/
structure Fits (s : State T W) (p : W) : Prop where
  own : (s.worker p).stage.past = true → (s.worker p).runCondNotify = true →
    (s.worker p).coroutineQueue ≠ 0 → s.Sends p
  closed : (s.worker p).stage ≠ .absent → (s.worker p).admissionOpen = false →
    (s.worker p).retireRequested = true ∨ s.Requests p
  retired : (s.worker p).stage.waits = true → (s.worker p).retireRequested = true →
    (s.worker p).runCondNotify = false ∨ s.Sends p
  shared : p ∈ s.activeSnapshot → ∀ k, (s.worker p).seen k → s.globalQueue k ≠ 0 →
    (s.worker p).runCondNotify = false ∨ s.OnTheWay p
  signalled : (s.worker p).stage = .waiting → (s.worker p).runCondNotify = false →
    (s.worker p).notified = true ∨ s.Notifies p

/-- What holds of the frame of `a`. -/
def Frame.Fits (s : State T W) (a : Agent T W) : Frame W → Prop
  | .shrink todo selected => (∀ q ∈ todo, q ∈ selected) ∧ s.lifecycle = some a ∧
    ∃ q ∈ s.activeSnapshot, q ∉ selected
  | .request p todo selected => (p ∈ selected ∧ ∀ q ∈ todo, q ∈ selected) ∧
    s.lifecycle = some a ∧ ∃ q ∈ s.activeSnapshot, q ∉ selected
  | _ => True

/-- What holds in every state. -/
structure Inv (s : State T W) : Prop where
  fits : ∀ p, Fits s p
  frames : ∀ a, (s.frame a).Fits s a
  nonempty : s.activeSnapshot ≠ []

/-! ## General facts -/

/-- A visit to the queue at the cursor adds it to those visited last. -/
lemma visited_pullNext {c k : CoroutinePriority} {n : ℕ} (h : visited (pullNext c) (n + 1) k) :
    k = c ∨ visited c n k := by
  obtain ⟨c, hc⟩ := c
  obtain ⟨k, hk⟩ := k
  have hc' : c < 4 := hc
  have hk' : k < 4 := hk
  have h' : (k + 4 - (c + 4 - 1) % 4 - 1) % 4 < n + 1 := h
  show _ ∨ (k + 4 - c - 1) % 4 < n
  by_cases hck : k = c
  · exact .inl (Fin.ext hck)
  · right
    omega

/-- Four visits in a row visit every queue. -/
lemma visited_of_le {c : CoroutinePriority} {n : ℕ} (h : coPriorityCount ≤ n)
    (k : CoroutinePriority) : visited c n k :=
  (Nat.mod_lt _ (Nat.succ_pos 3)).trans_le h

/-- A retiring worker in a wait has been sent for. -/
lemma Inv.sends_of_closed (h : Inv s) {p : W} (hst : (s.worker p).stage.waits = true)
    (hc : (s.worker p).admissionOpen = false) :
    (s.worker p).runCondNotify = false ∨ s.Sends p := by
  have hne : (s.worker p).stage ≠ .absent := by
    intro he
    rw [he] at hst
    cases hst
  obtain hr | ⟨a, todo, selected, hr⟩ := (h.fits p).closed hne hc
  · exact (h.fits p).retired hst hr
  · have hf := h.frames a
    rw [hr] at hf
    refine .inr ⟨a, ?_⟩
    rw [hr]
    exact hf.1.1

/-- A worker that stays where it is, with its latch as it was. -/
lemma Fits.stays {p : W} (h : Fits s p) (hst : (t.worker p).stage = (s.worker p).stage)
    (hl : (t.worker p).runCondNotify = (s.worker p).runCondNotify)
    (hc : (t.worker p).globalPullPriority = (s.worker p).globalPullPriority)
    (hq : (t.worker p).coroutineQueue ≠ 0 → (s.worker p).coroutineQueue ≠ 0 ∨ t.Sends p)
    (hC : (t.worker p).stage ≠ .absent → (t.worker p).admissionOpen = false →
      (t.worker p).retireRequested = true ∨ t.Requests p)
    (hR : (t.worker p).retireRequested = true →
      (s.worker p).retireRequested = true ∨ t.Sends p)
    (hn : (s.worker p).notified = true → (t.worker p).notified = true)
    (hS : s.Sends p → t.Sends p)
    (hN : s.Notifies p → (t.worker p).notified = true ∨ t.Notifies p)
    (hact : p ∈ t.activeSnapshot → p ∈ s.activeSnapshot)
    (hO : p ∈ t.activeSnapshot → s.OnTheWay p → t.OnTheWay p)
    (hG : p ∈ t.activeSnapshot → ∀ k, t.globalQueue k ≠ 0 → s.globalQueue k ≠ 0 ∨ t.OnTheWay p) :
    Fits t p := by
  have hseen : ∀ k, (t.worker p).seen k → (s.worker p).seen k := by
    intro k hk
    unfold Worker.seen at hk ⊢
    rwa [hst, hc] at hk
  refine ⟨?_, hC, ?_, ?_, ?_⟩
  · rw [hst, hl]
    intro h₁ h₂ h₃
    obtain h₃ | h₃ := hq h₃
    · exact hS (h.own h₁ h₂ h₃)
    · exact h₃
  · rw [hst, hl]
    intro h₁ h₂
    obtain h₂ | h₂ := hR h₂
    · exact (h.retired h₁ h₂).imp_right hS
    · exact .inr h₂
  · rw [hl]
    intro hin k hk hg
    obtain hg | ho := hG hin k hg
    · exact (h.shared (hact hin) k (hseen k hk) hg).imp_right (hO hin)
    · exact .inr ho
  · rw [hst, hl]
    intro h₁ h₂
    obtain h₃ | h₃ := h.signalled h₁ h₂
    · exact .inl (hn h₃)
    · exact hN h₃

/-- A worker that a step does not touch. -/
lemma Fits.untouched {p : W} (h : Fits s p) (hw : t.worker p = s.worker p)
    (hS : s.Sends p → t.Sends p) (hR : s.Requests p → t.Requests p)
    (hN : s.Notifies p → t.Notifies p) (hact : p ∈ t.activeSnapshot → p ∈ s.activeSnapshot)
    (hO : p ∈ t.activeSnapshot → s.OnTheWay p → t.OnTheWay p)
    (hG : p ∈ t.activeSnapshot → ∀ k, t.globalQueue k ≠ 0 → s.globalQueue k ≠ 0 ∨ t.OnTheWay p) :
    Fits t p := by
  refine h.stays ?_ ?_ ?_ ?_ ?_ ?_ ?_ hS (fun hx => .inr (hN hx)) hact hO hG
  all_goals rw [hw]
  · exact .inl
  · exact fun h₁ h₂ => (h.closed h₁ h₂).imp_right hR
  · exact .inl
  · exact id

/-- A worker that is not about to sleep need only have been asked to retire. -/
lemma Fits.of_awake {p : W} (hst : (t.worker p).stage.waits = false)
    (hc : (t.worker p).admissionOpen = false → (t.worker p).retireRequested = true ∨ t.Requests p) :
    Fits t p := by
  refine ⟨?_, fun _ => hc, ?_, ?_, ?_⟩
  · intro h
    cases hs : (t.worker p).stage <;> rw [hs] at h hst <;> first | (cases hst; done) | cases h
  · intro h
    rw [hst] at h
    cases h
  · intro _ k hk
    unfold Worker.seen at hk
    cases hs : (t.worker p).stage with
    | pull c n m =>
      rw [hs] at hk hst
      cases c with
      | run => exact hk.elim
      | recheck b => cases hst
    | recheckLocal b | rechecked b | waiting =>
      rw [hs] at hst
      cases hst
    | absent | run | stolen k | resume | pulled c n m k | enter b | driverWait | drain | wake b
    | exited =>
      rw [hs] at hk
      exact hk.elim
  · intro h
    rw [h] at hst
    cases hst

end BbtCoroutine.WaitForWork
