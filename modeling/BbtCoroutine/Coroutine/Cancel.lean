import BbtCoroutine.Coroutine.Waits

/-!
# No cancellation is lost

A wait looks at the cancel flag after its event is in `m_await_event`; `RequestCancel` stores
the flag before it reads `m_await_event`.  So of a wait and a cancellation one sees the
other: once a `RequestCancel` has read the slot, the event of a wait that has passed its look
is won, unless it is the event that this call is about to trigger.  Whoever wins an event, the
coroutine is resumed from it exactly once and reads the mask of the winner.
-/

namespace BbtCoroutine.Coroutine

open Transition

/-! ## Cancellations under way -/

namespace Frame

/-- A `RequestCancel` that has read `m_await_event`. -/
def loaded : Frame → Bool
  | trigger .requestCancel _ _ | complete .requestCancel _ _ _ | returned .requestCancel => true
  | _ => false

/-- A `RequestCancel` that has stored the flag. -/
def stored (f : Frame) : Bool :=
  f == loadAwait || f.loaded

/-- A call that has loaded the await event has stored the request. -/
lemma stored_of_loaded {f : Frame} (h : f.loaded = true) : f.stored = true := by
  simp [stored, h]

end Frame

variable {ι : Type*}

/-- Every wait that has passed its look at the flag is known to a cancellation that has read
the await slot. -/
structure Heard (s : State ι) : Prop where
  stored : ∀ i, (s.call i).stored = true → s.shared.cancelRequested = true
  mask : ∀ i k m, s.call i = .trigger .requestCancel k m → m = pollEventCancelled
  told : ∀ i, (s.call i).loaded = true → ∀ k, s.pc.checked = some k →
    (∀ m, s.call i ≠ .trigger .requestCancel k m) →
    (s.shared.event k).round.undecided = false

/-- A wait whose event has left the await slot is decided. -/
lemma Inv.decided_of_await_ne {s : State ι} (h : Inv s) {k : ℕ} (hk : s.pc.checked = some k)
    (ha : s.shared.awaitEvent ≠ some k) : (s.shared.event k).round.undecided = false := by
  have hok := h.ok
  cases hpc : s.pc <;> rw [hpc] at hk hok <;> cases hk
  case suspended =>
    rcases h.resuming k hpc with ⟨-, ha', -, -⟩ | ⟨_, _, m, _, hr, -⟩ | ⟨m, hr, -⟩
    · exact absurd ha' ha
    · rw [hr]; rfl
    · rw [hr]; rfl
  case complete m stage =>
    rw [hok.2.1]
    rfl
  all_goals exact absurd hok.1 ha

/-- The completion callback leaves the events and the flag as they are. -/
lemma Stage.step_frame {sh sh' : Shared} {m : EventMask} {stage : Stage} {next : Option Stage}
    (h : stage.step sh m = some (sh', next)) :
    sh'.event = sh.event ∧ sh'.cancelRequested = sh.cancelRequested := by
  cases stage with
  | store =>
    rw [Stage.step] at h
    split at h
    · cases h
    · cases h
      exact ⟨rfl, rfl⟩
  | clear | active =>
    cases h
    exact ⟨rfl, rfl⟩

namespace Heard

variable {s : State ι}

/-- A step that ends at a point outside of a checked wait. -/
lemma leave (h : Heard s) {sh : Shared} {pc : Pc}
    (hf : sh.cancelRequested = s.shared.cancelRequested) (hpc : pc.checked = none) :
    Heard { s with shared := sh, pc := pc } where
  stored i hi := hf.trans (h.stored i hi)
  mask := h.mask
  told i _ k hk := by simp [hpc] at hk

/-- A step of the coroutine or of its worker. -/
lemma advance (h : Heard s) (hI : Inv s) {sh : Shared} {pc : Pc} {a : Answer}
    (hs : s.pc.step s.shared a = some (sh, pc)) : Heard { s with shared := sh, pc := pc } := by
  have he : Pc.Effect s.shared s.pc sh pc :=
    Pc.effect_of_step hI.ok (fun k hk => (hI.wait k hk).1) hs
  refine ⟨fun i hi => he.cancelRequested.trans (h.stored i hi), h.mask, fun i hi k hk hne => ?_⟩
  rcases he.checked k hk with hk' | hf | hd
  · exact he.decided k (hI.wait k (Pc.wait_of_checked hk')).1 (h.told i hi k hk' hne)
  · have := h.stored i (Frame.stored_of_loaded hi)
    simp [hf] at this
  · exact hd

/-- A call moves to `f`, and what it does to the shared state decides no event anew. -/
lemma setCall [DecidableEq ι] (h : Heard s) (hI : Inv s) {i : ι} {sh : Shared} {f : Frame}
    (hf : s.shared.cancelRequested = true → sh.cancelRequested = true)
    (hd : ∀ k < s.shared.next, (s.shared.event k).round.undecided = false →
      (sh.event k).round.undecided = false)
    (hst : f.stored = true → sh.cancelRequested = true)
    (hm : ∀ k m, f = .trigger .requestCancel k m → m = pollEventCancelled)
    (ht : f.loaded = true → ∀ k, s.pc.checked = some k →
      (∀ m, f ≠ .trigger .requestCancel k m) → (sh.event k).round.undecided = false) :
    Heard { s with shared := sh, call := Function.update s.call i f } := by
  refine ⟨fun j hj => ?_, fun j k m hj => ?_, fun j hj k hk hne => ?_⟩
  · by_cases hji : j = i
    · subst hji
      exact hst (by simpa using hj)
    · exact hf (h.stored j (by simpa [hji] using hj))
  · by_cases hji : j = i
    · subst hji
      exact hm k m (by simpa using hj)
    · exact h.mask j k m (by simpa [hji] using hj)
  · by_cases hji : j = i
    · subst hji
      exact ht (by simpa using hj) k hk (by simpa using hne)
    · exact hd k (hI.wait k (Pc.wait_of_checked hk)).1
        (h.told j (by simpa [hji] using hj) k hk (by simpa [hji] using hne))

/-- A step of a call. -/
lemma call [DecidableEq ι] (h : Heard s) (hI : Inv s) {i : ι} {sh : Shared} {f : Frame}
    (hs : (s.call i).step s.shared = some (sh, f)) :
    Heard { s with shared := sh, call := Function.update s.call i f } := by
  have hold : (s.call i).loaded = true → s.shared.cancelRequested = true :=
    fun hi => h.stored i (Frame.stored_of_loaded hi)
  cases hi : s.call i with
  | idle | returned c =>
    rw [hi] at hs
    cases hs
  | requestCancel =>
    rw [hi] at hs
    cases hs
    exact h.setCall hI (fun _ => rfl) (fun _ _ hd => hd) (fun _ => rfl) (by rintro _ _ ⟨⟩)
      (by rintro ⟨⟩)
  | loadAwait =>
    rw [hi] at hs
    have hf : s.shared.cancelRequested = true := h.stored i (by rw [hi]; rfl)
    cases hs
    refine h.setCall hI id (fun _ _ hd => hd) (fun _ => hf) ?_ fun _ k hk hne => ?_
    · intro k m hm
      split at hm
      · cases hm
      · cases hm
        rfl
    · refine hI.decided_of_await_ne hk fun ha => ?_
      exact hne pollEventCancelled (by simp [ha])
  | trigger c k m =>
    rw [hi, Frame.step] at hs
    have htold : Frame.loaded (.trigger c k m) = true → ∀ j, s.pc.checked = some j → j ≠ k →
        (s.shared.event j).round.undecided = false := by
      intro hl j hj hjk
      refine h.told i (by rw [hi]; exact hl) j hj fun n hn => hjk ?_
      rw [hi] at hn
      cases hn
      rfl
    have hloaded : ∀ f : Frame, f = .complete c k m .store ∨ f = .returned c →
        f.loaded = Frame.loaded (.trigger c k m) := by
      rintro f (rfl | rfl) <;> cases c <;> rfl
    have hmask : Frame.loaded (.trigger c k m) = true → m = pollEventCancelled := by
      intro hl
      cases c with
      | requestCancel => exact h.mask i k m hi
      | trigger => cases hl
    rw [hi] at hold
    split at hs
    · rename_i hm
      cases hs
      refine h.setCall hI id (fun _ _ hd => hd) (fun hl => ?_) (by rintro _ _ ⟨⟩)
        fun hl j hj _ => ?_
      · exact hold (by rw [← hloaded _ (.inr rfl)]; simpa [Frame.stored] using hl)
      · have := hmask (by rw [← hloaded _ (.inr rfl)]; exact hl)
        rw [this] at hm
        cases hm
    · cases hs
      have hf : (if (s.shared.event k).round = .parked then Frame.complete c k m .store
          else .returned c) = .complete c k m .store ∨
          (if (s.shared.event k).round = .parked then Frame.complete c k m .store
          else .returned c) = .returned c := by
        split
        · exact .inl rfl
        · exact .inr rfl
      have hl' := hloaded _ hf
      have hd : ∀ j, j = k ∨ (s.shared.event j).round.undecided = false →
          ((s.shared.trigger k m).event j).round.undecided = false := by
        intro j hj
        by_cases hjk : j = k
        · simp [hjk]
        · simpa [hjk] using hj.resolve_left hjk
      refine h.setCall hI id (fun j _ hj => hd j (.inr hj)) (fun hl => ?_) ?_ fun hl j hj _ => ?_
      · refine hold (hl' ▸ ?_)
        rcases hf with hf | hf <;> rw [hf] at hl ⊢ <;> simpa [Frame.stored] using hl
      · rcases hf with hf | hf <;> rw [hf] <;> simp
      · by_cases hjk : j = k
        · exact hd j (.inl hjk)
        · exact hd j (.inr (htold (hl' ▸ hl) j hj hjk))
  | complete c k m stage =>
    rw [hi, Frame.step, Option.map_eq_some_iff] at hs
    obtain ⟨⟨sh', next⟩, hs, hf⟩ := hs
    obtain ⟨hev, hcr⟩ := Stage.step_frame hs
    cases hf
    have hl' : ∀ next : Option Stage,
        ((next.map (Frame.complete c k m)).getD (.returned c)).loaded = (s.call i).loaded ∧
          ((next.map (Frame.complete c k m)).getD (.returned c)).stored = (s.call i).loaded ∧
          ∀ j n, (next.map (Frame.complete c k m)).getD (.returned c) ≠
            .trigger .requestCancel j n := by
      rw [hi]
      rintro (_ | stage) <;> cases c <;> exact ⟨rfl, rfl, (by rintro _ _ ⟨⟩)⟩
    obtain ⟨h₁, h₂, h₃⟩ := hl' next
    refine h.setCall hI (fun hc => hcr.trans hc) (fun j _ hd => hev ▸ hd)
      (fun hl => hcr.trans (hold (h₂ ▸ hl))) (fun j n hn => absurd hn (h₃ j n))
      fun hl j hj _ => ?_
    rw [hev]
    exact h.told i (h₁ ▸ hl) j hj (by rw [hi]; rintro _ ⟨⟩)

/-- Every step keeps what cancellations know. -/
lemma next [DecidableEq ι] (h : Heard s) (hI : Inv s) {s' : State ι} {l : Label ι}
    (hs : Coroutine.next s l = some s') : Heard s' := by
  cases l with
  | wait w =>
    simp only [Coroutine.next] at hs
    split at hs
    · cases hs
      exact h.leave rfl rfl
    · cases hs
  | finish =>
    simp only [Coroutine.next] at hs
    split at hs
    · cases hs
      exact h.leave rfl rfl
    · cases hs
      exact h.leave rfl rfl
    · cases hs
  | advance a =>
    rw [Coroutine.next, Option.map_eq_some_iff] at hs
    obtain ⟨⟨sh, pc⟩, hs, rfl⟩ := hs
    exact h.advance hI hs
  | resume =>
    simp only [Coroutine.next] at hs
    split at hs
    · split at hs
      · cases hs
        exact h.leave rfl rfl
      · cases hs
    · cases hs
  | requestCancel i =>
    rw [Coroutine.next] at hs
    split at hs
    · cases hs
      exact h.setCall hI id (fun _ _ hd => hd) (by rintro ⟨⟩) (by rintro _ _ ⟨⟩) (by rintro ⟨⟩)
    · cases hs
  | trigger i k m =>
    rw [Coroutine.next] at hs
    split at hs
    · cases hs
      exact h.setCall hI id (fun _ _ hd => hd) (by rintro ⟨⟩) (by rintro _ _ ⟨⟩) (by rintro ⟨⟩)
    · cases hs
  | call i =>
    rw [Coroutine.next, Option.map_eq_some_iff] at hs
    obtain ⟨⟨sh, f⟩, hs, rfl⟩ := hs
    exact h.call hI hs

end Heard

/-- What cancellations know holds in every reachable state. -/
theorem heard_of_reachable [DecidableEq ι] {s : State ι} (h : (system ι).Reachable s) :
    Heard s := by
  refine System.ReachableWhen.induct_with (J := Inv) (I := Heard)
    (fun s hs => inv_of_reachable hs.reachable) ?_ ?_ h
  · rintro s rfl
    exact ⟨nofun, nofun, nofun⟩
  · intro s l s' hI _ hH _ hs
    exact hH.next hI hs

/-! ## The way back -/

/-- The steps that bring a suspended coroutine back: those of a call under way and the
resumption by a worker. -/
def Label.ComesBack : Label ι → Prop
  | call _ | resume => True
  | _ => False

/-- How many steps of `OnCoPollEvent` are left. -/
def Stage.rest : Stage → ℕ
  | store => 3
  | clear => 2
  | active => 1

variable [DecidableEq ι]

/-- A coroutine in a run queue is resumed with the mask it was left. -/
lemma exists_resumed_of_ready {s : State ι} (h : Inv s) {k : ℕ} {m : EventMask}
    (hpc : s.pc = .suspended k) (hq : s.shared.queued = 1)
    (hl : s.shared.lastResumeEvent = some (normalizeTriggerEvent m)) :
    ∃ s', (system ι).PathWhen (fun _ l => l.ComesBack) s s' ∧
      s'.shared.resumedFrom k = [some (normalizeTriggerEvent m)] := by
  have hres := (h.wait k (by rw [hpc]; rfl)).2
  refine ⟨{ s with shared := s.shared.resume k, pc := .running },
    .single ⟨.resume, trivial, ?_⟩, ?_⟩
  · simp [system, next, hpc, hq]
  · have happ : (s.shared.resume k).resumedFrom k = _ := Shared.resumedFrom_append rfl k
    rw [happ, hres, if_pos rfl, hl, List.nil_append]

/-- A stage of the callback is followed by the next one or by its end. -/
lemma Stage.rest_of_step {sh sh' : Shared} {m : EventMask} {stage : Stage} {next : Option Stage}
    (h : stage.step sh m = some (sh', next)) :
    stage.rest = (next.map Stage.rest).getD 0 + 1 := by
  cases stage with
  | store =>
    rw [Stage.step] at h
    split at h
    · cases h
    · cases h
      rfl
  | clear | active =>
    cases h
    rfl

/-- A stage of the callback that the invariant describes can be performed. -/
lemma Stage.Ok.exists_step {sh : Shared} {k : ℕ} {m : EventMask} {stage : Stage}
    (h : stage.Ok sh k m) : ∃ sh' next, stage.step sh m = some (sh', next) := by
  cases stage with
  | store =>
    have ha : sh.awaitEvent = some k := h
    exact ⟨_, _, by rw [Stage.step, if_neg (by simp [ha])]⟩
  | clear | active => exact ⟨_, _, rfl⟩

/-- A suspended coroutine whose event is won is brought back by the call that completes the
event, or it is already in a run queue. -/
lemma exists_resumed {s : State ι} (h : Inv s) {k : ℕ} {m : EventMask}
    (hpc : s.pc = .suspended k) (hr : (s.shared.event k).round = .final m) :
    ∃ s', (system ι).PathWhen (fun _ l => l.ComesBack) s s' ∧
      s'.shared.resumedFrom k = [some (normalizeTriggerEvent m)] := by
  have key : ∀ n, ∀ {s : State ι}, Inv s → s.pc = .suspended k →
      (s.shared.event k).round = .final m →
      (∀ i c j n' stage, s.call i = .complete c j n' stage → stage.rest ≤ n) →
      ∃ s', (system ι).PathWhen (fun _ l => l.ComesBack) s s' ∧
        s'.shared.resumedFrom k = [some (normalizeTriggerEvent m)] := by
    intro n
    induction n with
    | zero =>
      intro s h hpc hr hn
      rcases h.resuming k hpc with ⟨hr', -⟩ | ⟨i, c, n, stage, -, hi, -⟩ | ⟨n, hr', hl, hq, -, -⟩
      · simp [hr] at hr'
      · exact absurd (hn i c k n stage hi) (by cases stage <;> simp [Stage.rest])
      · obtain rfl : m = n := by simpa [hr] using hr'
        exact exists_resumed_of_ready h hpc hq hl
    | succ n ih =>
      intro s h hpc hr hn
      rcases h.resuming k hpc with ⟨hr', -⟩ | ⟨i, c, n', stage, hr', hi, hst, -, hc⟩ |
        ⟨n', hr', hl, hq, -, -⟩
      · simp [hr] at hr'
      · obtain rfl : m = n' := by simpa [hr] using hr'
        obtain ⟨sh, nxt, hs⟩ := hst.exists_step
        have hrest := Stage.rest_of_step hs
        have hnext : (system ι).next s (.call i) = some { s with
            shared := sh
            call := Function.update s.call i
              ((nxt.map (.complete c k m)).getD (.returned c)) } := by
          simp [system, next, hi, Frame.step, hs]
        obtain ⟨s', hp, hs'⟩ := ih (h.complete hi hs) hpc
          ((congrFun (Stage.step_frame hs).1 k).symm ▸ hr) fun j c' l n' stage' hj => by
            have hle := hn i c k m stage hi
            by_cases hji : j = i
            · cases nxt with
              | none => simp [hji] at hj
              | some next =>
                obtain ⟨rfl, rfl, rfl, rfl⟩ : c = c' ∧ k = l ∧ m = n' ∧ next = stage' := by
                  simpa [hji] using hj
                simp at hrest
                omega
            · have := hc j hji
              simp only [Function.update_of_ne hji] at hj
              rw [hj] at this
              cases this
        exact ⟨s', .head ⟨.call i, trivial, hnext⟩ hp, hs'⟩
      · obtain rfl : m = n' := by simpa [hr] using hr'
        exact exists_resumed_of_ready h hpc hq hl
  refine key 3 h hpc hr ?_
  intro _ _ _ _ stage _
  cases stage <;> simp [Stage.rest]

/-- A `RequestCancel` has returned. -/
def CancelReturned (s : State ι) : Prop :=
  ∃ i, s.call i = .returned .requestCancel

/-- No cancellation is lost: once a `RequestCancel` has returned, a coroutine suspended on an
event is suspended on one that is won, whatever wait it is in; and a won event brings the
coroutine back exactly once with the mask of the winner, unless the yield threw before the
coroutine was suspended. -/
theorem cancel_not_lost {s : State ι} (h : (system ι).Reachable s) :
    (CancelReturned s → ∀ k, s.pc = .suspended k →
      ∃ m, (s.shared.event k).round.won = some m) ∧
    (∀ k m, (s.shared.event k).published = true → (s.shared.event k).round.won = some m →
      (s.pc.wait = some k ∧ s.shared.resumedFrom k = []) ∨
        s.shared.resumedFrom k = [some (normalizeTriggerEvent m)] ∨ k ∈ s.shared.threw) ∧
    (∀ k m, s.pc = .suspended k → (s.shared.event k).round.won = some m →
      ∃ s', (system ι).PathWhen (fun _ l => l.ComesBack) s s' ∧
        s'.shared.resumedFrom k = [some (normalizeTriggerEvent m)]) := by
  have hI := inv_of_reachable h
  have hH := heard_of_reachable h
  refine ⟨?_, fun k m hp hw => ?_, fun k m hpc hw => ?_⟩
  · rintro ⟨i, hi⟩ k hpc
    have hd := hH.told i (by rw [hi]; rfl) k (by rw [hpc]; rfl) (by rw [hi]; nofun)
    rcases hI.resuming k hpc with ⟨hr, -⟩ | ⟨-, -, m, -, hr, -⟩ | ⟨m, hr, -⟩
    · simp [hr, Round.undecided] at hd
    · exact ⟨m, by rw [hr]; rfl⟩
    · exact ⟨m, by rw [hr]; rfl⟩
  · by_cases hk : s.pc.wait = some k
    · exact .inl ⟨hk, (hI.wait k hk).2⟩
    · have hlt : k < s.shared.next := by
        by_contra hge
        simp [(hI.unborn k (not_lt.mp hge)).1] at hp
      rcases hI.past k hlt hk with ⟨n, hr, hres⟩ | ⟨-, ⟨-, ht⟩ | hc⟩
      · rw [hr] at hw
        cases hw
        exact .inr (.inl hres)
      · exact .inr (.inr (ht hp))
      · simp [hc, Round.won] at hw
  · refine exists_resumed hI hpc ?_
    rcases hI.resuming k hpc with ⟨hr, -⟩ | ⟨-, -, n, -, hr, -⟩ | ⟨n, hr, -⟩
    · simp [hr, Round.won] at hw
    · rw [hr] at hw
      cases hw
      exact hr
    · rw [hr] at hw
      cases hw
      exact hr

/-- A timed wait that is cancelled after it has parked. -/
theorem cancel_not_lost_parked :
    ∃ s : State ℕ, (system ℕ).Reachable s ∧ s.pc = .suspended 0 ∧
      ∃ m, (s.shared.event 0).round.won = some m := by
  have hrun : (system ℕ).endsIn init
      [.wait (.yieldUntilTimeout 5) :: List.replicate 13 (.advance {}),
        .requestCancel 0 :: List.replicate 6 (.call 0)].flatten
      (fun s => s.pc = .suspended 0 ∧ s.call 0 = .returned .requestCancel) = true := by
    decide +kernel
  obtain ⟨s, hs, hpc, hi⟩ := System.exists_of_endsIn rfl hrun
  exact ⟨s, hs, hpc, (cancel_not_lost hs).1 ⟨0, hi⟩ 0 hpc⟩

end BbtCoroutine.Coroutine
