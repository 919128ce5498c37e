import BbtCoroutine.Circulation.Admission

/-!
# Coroutines are conserved

In every run of the scheduler, with any number of workers that are added and retired and any
number of threads that create and wake coroutines, each live coroutine is at exactly one
place, and a worker that has exited leaves no coroutine behind and gets none any more.

The invariant says where the coroutines are (`Lives`), that the run queues agree with the hooks
and with the loops (`Queues`), and how workers are admitted and retire (`Drained` and what it
rests on).
-/

namespace BbtCoroutine.Circulation

open Transition Scheduler OnYield

variable {Th Wk Co : Type*} [DecidableEq Th] [DecidableEq Wk] [DecidableEq Co]
  {s t : State Th Wk Co}

/-! ## Places -/

section

omit [DecidableEq Th] [DecidableEq Wk]

/-- A coroutine in the hand of an agent is counted there. -/
lemma count_hand {a : Agent Th Wk} {co : Co} (h : (s.frame a).hand = some co) :
    0 < s.count co (.hand a) := by
  rw [State.count, if_pos h]
  exact Nat.one_pos

/-- A coroutine that a loop runs is counted there. -/
lemma count_running {p : Wk} {co : Co} (h : (s.loop p).resumes = some co) :
    0 < s.count co (.running p) := by
  rw [State.count, if_pos h]
  exact Nat.one_pos

/-- A coroutine in a local queue is counted there. -/
lemma count_localQueue {p : Wk} {co : Co} (h : co ∈ s.coroutineQueue p) :
    0 < s.count co (.localQueue p) :=
  List.count_pos_iff.mpr h

/-- A coroutine in a global queue is counted there. -/
lemma count_globalQueue {pr : Priority} {co : Co} (h : co ∈ s.globalQueue pr) :
    0 < s.count co (.globalQueue pr) :=
  List.count_pos_iff.mpr h

end

/-- The thread goes on with what it has in its hand, and no other place changes. -/
lemma Lives.walk {r : State Th Wk Co} {a : Agent Th Wk} {f : Frame Co Wk} (hL : Lives s)
    (hc : r.count = s.count) (hl : r.life = s.life) (hh : f.hand = (r.frame a).hand) :
    Lives (r.goto a f) := by
  refine Placed.quiet hL (fun u => ?_) ((count_goto_same hh).trans hc)
  change r.life u = .live ↔ _
  rw [hl]

/-- A worker goes on without a coroutine. -/
lemma Lives.turn {r : State Th Wk Co} {p : Wk} {l : Loop Co Wk} (hL : Lives s)
    (hc : r.count = s.count) (hl : r.life = s.life) (hr : l.resumes = (r.loop p).resumes) :
    Lives (r.goLoop p l) := by
  refine Placed.quiet hL (fun u => ?_) ((count_goLoop_same hr).trans hc)
  change r.life u = .live ↔ _
  rw [hl]

/-- A coroutine in the hand of a thread goes into a queue. -/
lemma Lives.ofHand {r : State Th Wk Co} {a : Agent Th Wk} {co : Co} {y : Place Th Wk}
    {f : Frame Co Wk} (hL : Lives s) (hh : (s.frame a).hand = some co)
    (hy : y ≠ .hand a) (hf' : r.frame = s.frame) (hl : r.life = s.life) (hf : f.hand = none)
    (hc : ∀ u, r.count u = Function.update (s.count u) y (s.count u y + if u = co then 1 else 0)) :
    Lives (r.goto a f) := by
  refine Placed.transfer hL (fun u => ?_) (count_hand hh) hy fun u => ?_
  · change r.life u = .live ↔ _
    rw [hl]
  · rw [count_goto_take ((congrArg Frame.hand (congrFun hf' a)).trans hh) hf, hc,
      Function.update_of_ne (Ne.symm hy),
      Function.update_comm hy]

/-- A coroutine goes from another place into the hand of a thread. -/
lemma Lives.toHand {r : State Th Wk Co} {a : Agent Th Wk} {co : Co} {x : Place Th Wk}
    {f : Frame Co Wk} (hL : Lives s) (hh : (s.frame a).hand = none) (hx : 0 < s.count co x)
    (hxa : x ≠ .hand a) (hf' : r.frame = s.frame) (hl : r.life = s.life) (hf : f.hand = some co)
    (hc : ∀ u, r.count u = Function.update (s.count u) x (s.count u x - if u = co then 1 else 0)) :
    Lives (r.goto a f) := by
  refine Placed.transfer hL (fun u => ?_) hx (Ne.symm hxa) fun u => ?_
  · change r.life u = .live ↔ _
    rw [hl]
  · rw [count_goto_put ((congrArg Frame.hand (congrFun hf' a)).trans hh) hf, hc,
      Function.update_of_ne (Ne.symm hxa)]

omit [DecidableEq Th] [DecidableEq Wk] in
/-- Only what is made or deleted changes its life. -/
lemma life_setLife_of_ne {co u : Co} {x : Life} (hu : u ≠ co) :
    (s.setLife co x).life u = .live ↔ s.life u = .live := by
  change Function.update s.life co x u = .live ↔ _
  rw [Function.update_of_ne hu]

omit [DecidableEq Th] in
/-- The start of the workers of a batch moves no coroutine. -/
lemma count_startGate {all : List Wk} :
    (State.count { s with
      loop := fun p => if p ∈ all ∧ s.loop p = Loop.off then .top else s.loop p }) =
      s.count := by
  funext u x
  cases x with
  | running p =>
    simp only [State.count]
    split
    · rename_i hp
      rw [hp.2]
      rfl
    · rfl
  | _ => rfl

/-- Each step keeps the places of the coroutines. -/
lemma Move.lives (h : Move s t) (hT : Thieves s) (hL : Lives s) : Lives t := by
  cases h with
  | stay => exact hL
  | walk hG hs hh => exact hL.walk rfl rfl hh
  | lock hf | unlock hf | register hf | opens hf | activates hf | activated hf | closes hf
  | retires hf | requests hf | retired hf =>
    refine hL.walk rfl rfl ?_
    change _ = (s.frame _).hand
    rw [hf]
    rfl
  | expands hi | shrinks hi =>
    refine hL.walk rfl rfl ?_
    change _ = (s.frame _).hand
    rw [hi]
    rfl
  | release hf hG hs hh => exact hL.walk rfl rfl hh
  | @discard a co hf =>
    have hh : (s.frame a).hand = some co := by rw [hf]; rfl
    refine Placed.leave hL ?_ (fun u hu => life_setLife_of_ne hu) (count_hand hh) fun u =>
      count_goto_take hh rfl
    simp [State.goto, State.setLife]
  | link hf hl => exact hL.ofHand (by rw [hf]; rfl) (by simp) rfl rfl rfl fun u => count_link
  | toGlobal hf hG hs hh =>
    exact hL.ofHand (by rw [hf]; rfl) (by simp) rfl rfl hh fun u => count_enqueueGlobal
  | fromGlobal hf hs' hc hG hs hh =>
    exact hL.toHand hf (count_globalQueue hc) (by simp) rfl rfl hh fun u => count_dequeueGlobal
  | fromLocal hf hs' hc hG hs hh =>
    exact hL.toHand hf (count_localQueue hc) (by simp) rfl rfl hh fun u => count_take
  | stolen hf =>
    refine Lives.turn (hL.walk (r := s) rfl rfl ?_) rfl rfl (hT.resumes hf).symm
    rw [hf]
    rfl
  | @starts a all hf =>
    refine hL.walk (count_startGate) rfl ?_
    change _ = (s.frame _).hand
    rw [hf]
    rfl
  | turns hi hr hp hl hd hq => exact hL.turn rfl rfl (hl.trans hr.symm)
  | turnsTo hi hr hp hl hq hf =>
    refine Lives.walk (hL.turn (r := { s with globalCheckCounter := _ }) rfl rfl
      (hl.trans hr.symm)) rfl rfl ?_
    change _ = (s.frame _).hand
    rw [hi]
    rcases hf with rfl | ⟨v, expect, rest, rfl, -⟩ <;> rfl
  | @pick p n any co hl hc =>
    have hr : (s.loop p).resumes = none := by rw [hl]; rfl
    refine Placed.transfer (x := .localQueue p) (y := .running p) hL (fun u => Iff.rfl)
      (count_localQueue hc) (by simp) fun u => ?_
    rw [count_goLoop_put (s := s.pick p co) hr rfl, count_pick, count_take,
      Function.update_of_ne (by simp)]
  | account hl =>
    refine hL.turn rfl rfl ?_
    change _ = (s.loop _).resumes
    rw [hl]
    rfl
  | @yields p n co d pr k hi hl hk =>
    have hr : (s.loop p).resumes = some co := by rw [hl]; rfl
    exact hL.toHand (by rw [hi]; rfl) (count_running hr) (by simp) rfl rfl rfl fun u =>
      count_goLoop_take hr rfl
  | @parks p n co d hl =>
    have hr : (s.loop p).resumes = some co := by rw [hl]; rfl
    have hp : s.parked co = false := by
      have h := hL.eq_zero_of_ne (count_running hr) (y := .parked) (by simp)
      simpa [State.count] using h
    refine Placed.transfer (x := .running p) (y := .parked) hL (fun u => Iff.rfl)
      (count_running hr) (by simp) fun u => ?_
    rw [count_park (s := s.goLoop p _) hp, count_goLoop_take hr rfl,
      Function.update_of_ne (by simp)]
  | @ends p n co hl =>
    have hr : (s.loop p).resumes = some co := by rw [hl]; rfl
    refine Placed.leave hL ?_ (fun u hu => life_setLife_of_ne hu) (count_running hr) fun u => ?_
    · simp [State.setLife]
    · exact count_goLoop_take hr rfl
  | drains hl hn | exits hl hq =>
    refine hL.turn rfl rfl ?_
    change _ = (s.loop _).resumes
    rw [hl]
    rfl
  | @creates a co f hi hu hG hs hh =>
    refine Placed.enter hL (t := co) (y := .hand a) ?_ ?_ (fun u hu => life_setLife_of_ne hu)
      fun u => ?_
    · rw [hu]
      simp
    · simp [State.goto, State.setLife]
    · exact count_goto_put (by change (s.frame a).hand = none; rw [hi]; rfl) hh
  | wakes hi hu hG hs hh =>
    refine hL.toHand (by rw [hi]; rfl) ?_ (by simp) rfl rfl hh fun u => count_unpark hu
    rw [State.count, hu]
    exact Nat.one_pos

/-! ## Run queues -/

/-- The run queues agree with the hooks and with the loops, and `Account` has not failed. -/
structure Queues (s : State Th Wk Co) : Prop where
  cfsRunning : ∀ p, s.cfsRunning p = (s.loop p).executes
  isLinked : ∀ co, s.isLinked co = true ↔ ∃ p, co ∈ s.coroutineQueue p
  terminated : s.terminated = false

omit [DecidableEq Wk] [DecidableEq Co] in
/-- A loop that resumes nothing executes nothing. -/
lemma Loop.executes_of_resumes {l : Loop Co Wk} (h : l.resumes = none) : l.executes = none := by
  cases l with
  | running => cases h
  | _ => rfl

omit [DecidableEq Th] [DecidableEq Co] in
/-- The loop of a worker goes on and no code begins or ends to run. -/
lemma Queues.goLoop {r : State Th Wk Co} {p : Wk} {l : Loop Co Wk} (hQ : Queues s)
    (hl' : r.loop = s.loop) (hc : r.cfsRunning = s.cfsRunning) (hi : r.isLinked = s.isLinked)
    (hq : r.coroutineQueue = s.coroutineQueue) (ht : r.terminated = s.terminated)
    (hl : l.executes = (s.loop p).executes) : Queues (r.goLoop p l) := by
  refine ⟨fun q => ?_, fun u => ?_, ht.trans hQ.terminated⟩
  · change r.cfsRunning q = _
    rw [hc, hQ.cfsRunning q]
    by_cases hqp : q = p
    · subst hqp
      rw [loop_goLoop_self, hl]
    · rw [loop_goLoop_of_ne hqp, hl']
  · change r.isLinked u = true ↔ ∃ q, u ∈ r.coroutineQueue q
    rw [hi, hq]
    exact hQ.isLinked u

omit [DecidableEq Th] in
/-- The hooks after an enqueue. -/
lemma Queues.link (hQ : Queues s) (p : Wk) (pr : Priority) (co u : Co) :
    (s.link p pr co).isLinked u = true ↔ ∃ q, u ∈ (s.link p pr co).coroutineQueue q := by
  change Function.update s.isLinked co true u = true ↔
    ∃ q, u ∈ Function.update s.coroutineQueue p (s.coroutineQueue p ++ [co]) q
  by_cases hu : u = co
  · subst hu
    rw [Function.update_self]
    exact ⟨fun _ => ⟨p, by simp⟩, fun _ => rfl⟩
  · rw [Function.update_of_ne hu, hQ.isLinked u]
    refine exists_congr fun q => ?_
    by_cases hqp : q = p
    · subst hqp
      simp [hu]
    · rw [Function.update_of_ne hqp]

omit [DecidableEq Th] in
/-- The hooks after a coroutine was taken out of the one queue in which it was. -/
lemma Queues.take (hQ : Queues s) (hL : Lives s) {p : Wk} {co : Co}
    (hc : co ∈ s.coroutineQueue p) (u : Co) :
    (s.take p co).isLinked u = true ↔ ∃ q, u ∈ (s.take p co).coroutineQueue q := by
  change Function.update s.isLinked co false u = true ↔
    ∃ q, u ∈ Function.update s.coroutineQueue p ((s.coroutineQueue p).erase co) q
  by_cases hu : u = co
  · subst hu
    rw [Function.update_self]
    refine ⟨fun h => (by cases h), ?_⟩
    rintro ⟨q, hq⟩
    have hpos := count_localQueue hc
    by_cases hqp : q = p
    · subst hqp
      rw [Function.update_self, ← List.count_pos_iff, List.count_erase_self] at hq
      have hone : (s.coroutineQueue q).count u = 1 := (hL.only hpos).1
      omega
    · rw [Function.update_of_ne hqp] at hq
      exact absurd (Place.localQueue.inj (hL.unique hpos (count_localQueue hq))) hqp
  · rw [Function.update_of_ne hu, hQ.isLinked u]
    refine exists_congr fun q => ?_
    by_cases hqp : q = p
    · subst hqp
      rw [Function.update_self, List.mem_erase_of_ne hu]
    · rw [Function.update_of_ne hqp]

/-- Each step keeps the run queues, the hooks and the loops in accord. -/
lemma Move.queues (h : Move s t) (hL : Lives s) (hT : Thieves s) (hQ : Queues s) : Queues t := by
  cases h with
  | stay => exact hQ
  | walk | lock | unlock | discard | register | release | toGlobal | fromGlobal | opens
  | activates | activated | closes | retires | requests | retired | creates | wakes | expands
  | shrinks => exact ⟨hQ.cfsRunning, hQ.isLinked, hQ.terminated⟩
  | @link a p pr co => exact ⟨hQ.cfsRunning, hQ.link p pr co, hQ.terminated⟩
  | fromLocal _ _ hc => exact ⟨hQ.cfsRunning, hQ.take hL hc, hQ.terminated⟩
  | @stolen a p num hf =>
    refine hQ.goLoop (r := s.goto a .idle) rfl rfl rfl rfl rfl ?_
    exact (Loop.executes_of_resumes (hT.resumes hf)).symm
  | @starts a all hf =>
    refine ⟨fun q => (hQ.cfsRunning q).trans ?_, hQ.isLinked, hQ.terminated⟩
    change _ = (ite _ _ _ : Loop Co Wk).executes
    split
    · rename_i hq
      rw [hq.2]
      rfl
    · rfl
  | turns hi hr hp hl =>
    exact hQ.goLoop rfl rfl rfl rfl rfl
      ((Loop.executes_of_resumes hl).trans (Loop.executes_of_resumes hr).symm)
  | @turnsTo p c l f hi hr hp hl =>
    have hQ' := hQ.goLoop (r := { s with globalCheckCounter := c }) (p := p) rfl rfl rfl rfl rfl
      ((Loop.executes_of_resumes hl).trans (Loop.executes_of_resumes hr).symm)
    exact ⟨hQ'.cfsRunning, hQ'.isLinked, hQ'.terminated⟩
  | @pick p n any co hl hc =>
    refine ⟨fun q => ?_, hQ.take hL hc, hQ.terminated⟩
    change Function.update s.cfsRunning p _ q = _
    by_cases hqp : q = p
    · subst hqp
      rw [Function.update_self, loop_goLoop_self]
      rfl
    · rw [Function.update_of_ne hqp, loop_goLoop_of_ne hqp]
      exact hQ.cfsRunning q
  | @account p n co d hl =>
    refine ⟨fun q => ?_, hQ.isLinked, ?_⟩
    · change Function.update s.cfsRunning p _ q = _
      by_cases hqp : q = p
      · subst hqp
        rw [Function.update_self, loop_goLoop_self]
        rfl
      · rw [Function.update_of_ne hqp, loop_goLoop_of_ne hqp]
        exact hQ.cfsRunning q
    · change (s.terminated || decide (s.cfsRunning p ≠ some co)) = false
      rw [hQ.terminated, hQ.cfsRunning p, hl]
      simp [Loop.executes]
  | @yields p n co d pr k hi hl hk =>
    have hQ' := hQ.goLoop (r := s) (p := p) (l := .turn (n + 1) true) rfl rfl rfl rfl rfl
      (by rw [hl]; rfl)
    exact ⟨hQ'.cfsRunning, hQ'.isLinked, hQ'.terminated⟩
  | @parks p n co d hl =>
    exact hQ.goLoop (r := s.setParked co true) rfl rfl rfl rfl rfl (by rw [hl]; rfl)
  | @ends p n co hl =>
    exact hQ.goLoop (r := s.setLife co .dead) rfl rfl rfl rfl rfl (by rw [hl]; rfl)
  | drains hl | exits hl => exact hQ.goLoop rfl rfl rfl rfl rfl (by rw [hl]; rfl)

/-! ## Every run -/

/-- The invariant of the scheduler. -/
structure Inv (s : State Th Wk Co) : Prop where
  lives : Lives s
  queues : Queues s
  thieves : Thieves s
  slots : Slots s
  locks : Locks s
  commits : Commits s
  drained : Drained s

omit [DecidableEq Th] [DecidableEq Wk] in
/-- The invariant holds initially. -/
lemma inv_start : Inv ({} : State Th Wk Co) where
  lives := by
    refine ⟨fun u hu => (by cases hu), fun u _ x => ?_⟩
    cases x <;> rfl
  queues := by
    refine ⟨fun _ => rfl, fun u => ⟨fun h => (by cases h), ?_⟩, rfl⟩
    rintro ⟨p, hp⟩
    cases hp
  thieves := fun a p h => by cases h
  slots := fun p => by simp [Frame.slot]
  locks := fun a h => by cases h
  commits := ⟨fun _ => trivial, fun _ h => (by cases h), fun _ h => (by cases h),
    fun _ h => (by cases h)⟩
  drained := ⟨fun _ h => (by cases h), fun _ h => (by cases h)⟩

/-- A move keeps the invariant. -/
lemma Inv.step (hI : Inv s) (h : Move s t) : Inv t where
  lives := h.lives hI.thieves hI.lives
  queues := h.queues hI.lives hI.thieves hI.queues
  thieves := h.thieves hI.thieves
  slots := h.slots hI.slots
  locks := h.locks hI.locks
  commits := h.commits hI.locks hI.thieves hI.commits
  drained := h.drained hI.slots hI.commits hI.drained

/-- What a scheduler owes its coroutines. -/
structure Conserved (s : State Th Wk Co) : Prop where
  /-- Each live coroutine is at one place, once. -/
  live : ∀ co, s.life co = .live → ∃ x, s.count co x = 1 ∧ ∀ y, y ≠ x → s.count co y = 0
  /-- One that has not been created, or has been deleted, is nowhere. -/
  gone : ∀ co, s.life co ≠ .live → ∀ x, s.count co x = 0
  /-- A worker that has published `Exited` has no coroutines, and nobody is about to enqueue
  there. -/
  exited : ∀ p, s.lifecycle p = .exited →
    s.coroutineQueue p = [] ∧ s.admissionOpen p = false ∧ ∀ a, (s.frame a).passed ≠ some p
  /-- An enqueue does not fail because the entity is linked or running already. -/
  enqueue : ∀ a p pr co k, s.frame a = .admission .enqueue p pr co k →
    s.isLinked co = false ∧ ∀ q, s.cfsRunning q ≠ some co
  /-- `Account` does not end the process. -/
  terminated : s.terminated = false

omit [DecidableEq Th] [DecidableEq Wk] in
/-- The coroutines are conserved under the invariant. -/
lemma Inv.conserved (hI : Inv s) : Conserved s where
  live := hI.lives.one
  gone := hI.lives.none
  exited p hp := by
    have hl := hI.commits.exited p hp
    refine ⟨hI.drained.empty p hl, ?_, hI.drained.passed p (by rw [hl]; rfl)⟩
    exact (hI.commits.requested p (hI.commits.past p (by rw [hl]; rfl))).1
  enqueue a p pr co k hf := by
    have hh : 0 < s.count co (.hand a) := count_hand (by rw [hf]; rfl)
    refine ⟨Bool.eq_false_iff.mpr fun hl => ?_, fun q hq => ?_⟩
    · obtain ⟨q, hq⟩ := (hI.queues.isLinked co).mp hl
      exact absurd (hI.lives.unique hh (count_localQueue hq)) (by simp)
    · rw [hI.queues.cfsRunning q] at hq
      have hr : (s.loop q).resumes = some co := by
        cases hl : s.loop q <;> rw [hl] at hq <;> simp_all [Loop.executes, Loop.resumes]
      exact absurd (hI.lives.unique hh (count_running hr)) (by simp)
  terminated := hI.queues.terminated

/-- The invariant holds in every run. -/
lemma inv_of_reachable {cfg : Config} (h : (system cfg Th Wk Co).Reachable s) : Inv s := by
  refine h.induct (I := Inv) (fun s₀ hs => ?_) fun s₁ s₂ l hI hs => ?_
  · rw [hs]
    exact inv_start
  · exact hI.step (next_cases hs)

/-- In every run no coroutine is lost or duplicated, whatever workers are added and retired. -/
theorem conserved_of_reachable {cfg : Config} (h : (system cfg Th Wk Co).Reachable s) :
    Conserved s :=
  (inv_of_reachable h).conserved

/-- Two workers are added, a coroutine is created at the first one, which then retires. -/
def retireRun : List (Label Unit Bool Unit) :=
  let a : Agent Unit Bool := .outside ()
  let go : Label Unit Bool Unit := .step a {}
  let work : Label Unit Bool Unit := .work false {}
  [.call a (.expand [false, true]), go, go, go, go, go, go,
    .call a (.registCoroutineTask ()), go, go, go, go, go, go, go,
    .call a (.shrink [false]), go, go, go, go,
    work, work, .work false { item := some () }, .step (.worker false) {}, work]

/-- The coroutine of a worker that has left is in a global queue. -/
theorem conserved_of_reachable_of_retireRun : ∃ s : State Unit Bool Unit,
    (s.lifecycle false = .exited ∧ s.life () = .live ∧ s.globalQueue .normal = [()]) ∧
      Conserved s := by
  have hrun : (system ⟨1, 1⟩ Unit Bool Unit).endsIn {} retireRun (fun s =>
      s.lifecycle false = .exited ∧ s.life () = .live ∧ s.globalQueue .normal = [()]) = true := by
    decide
  obtain ⟨s, hs, hp⟩ := System.exists_of_endsIn rfl hrun
  exact ⟨s, hp, conserved_of_reachable hs⟩

/-! ## From now on -/

/-- A live coroutine stays live unless it has ended on its worker, or no worker has taken it after
its creation. -/
lemma Move.kept (h : Move s t) {co : Co} (hl : s.life co = .live) :
    t.life co = .live ∨ (∃ p n, s.loop p = .commit n co .final) ∨
      ∃ a, s.frame a = .discard co := by
  have hdead : ∀ {u : Co}, u ≠ co → (s.setLife u .dead).life co = .live := fun hu => by
    change Function.update s.life _ _ co = _
    rwa [Function.update_of_ne (Ne.symm hu)]
  cases h with
  | @discard a u hf =>
    by_cases hu : u = co
    · exact .inr (.inr ⟨a, hu ▸ hf⟩)
    · exact .inl (hdead hu)
  | @ends p n u hf =>
    by_cases hu : u = co
    · exact .inr (.inl ⟨p, n, hu ▸ hf⟩)
    · exact .inl (hdead hu)
  | @creates a u f hi hu =>
    left
    change Function.update s.life _ _ co = _
    by_cases hco : co = u
    · rw [hco, Function.update_self]
    · rwa [Function.update_of_ne hco]
  | _ => exact .inl hl

/-- A worker that has left its loop for good does not come back. -/
lemma Move.loop_exited (h : Move s t) (hT : Thieves s) {p : Wk} (hx : s.loop p = .exited) :
    t.loop p = .exited := by
  have hne : ∀ {r : State Th Wk Co} {q : Wk} {l : Loop Co Wk}, s.loop q ≠ .exited →
      r.loop = s.loop → (r.goLoop q l).loop p = .exited := by
    intro r q l hq hr
    have hpq : p ≠ q := by
      rintro rfl
      exact hq hx
    rw [loop_goLoop_of_ne hpq, hr, hx]
  cases h with
  | @stolen a q num hf =>
    obtain ⟨-, rest, hl⟩ := hT a q (by rw [hf]; rfl)
    exact hne (r := s.goto a .idle) (by simp [hl]) rfl
  | starts hf =>
    change (ite _ _ _ : Loop Co Wk) = _
    rw [if_neg (by simp [hx]), hx]
  | @turns q c l hi hr hp =>
    exact hne (r := { s with globalCheckCounter := c })
      (fun hq => by simp [hq, Loop.past] at hp) rfl
  | @turnsTo q c l f hi hr hp =>
    exact hne (r := { s with globalCheckCounter := c })
      (fun hq => by simp [hq, Loop.past] at hp) rfl
  | @pick q n any co hl => exact hne (r := s.pick q co) (by simp [hl]) rfl
  | @account q n co d hl => exact hne (r := s.account q co) (by simp [hl]) rfl
  | yields hi hl => exact hne (r := s) (by simp [hl]) rfl
  | parks hl => exact hne (r := s) (by simp [hl]) rfl
  | ends hl => exact hne (r := s) (by simp [hl]) rfl
  | drains hl => exact hne (r := s) (by simp [hl]) rfl
  | @exits q hl =>
    exact hne (r := { s with lifecycle := Function.update s.lifecycle q .exited })
      (by simp [hl]) rfl
  | _ => exact hx

/-- What the scheduler promises in a state, for its next step, and for whatever comes later. -/
structure Circulates (cfg : Config) (s : State Th Wk Co) : Prop where
  /-- Each live coroutine is at exactly one place. -/
  place : ∀ co, s.life co = .live → ∃! x, 0 < s.count co x
  /-- Nothing is at a place twice. -/
  once : ∀ co x, s.count co x ≤ 1
  /-- No two workers resume a coroutine. -/
  resumed : ∀ p q co, (s.loop p).resumes = some co → (s.loop q).resumes = some co → q = p
  /-- A coroutine stays live until it has ended on its worker, or is deleted because no worker has
  taken it after its creation. -/
  kept : ∀ l t co, next cfg s l = some t → s.life co = .live →
    t.life co = .live ∨ (∃ p n, s.loop p = .commit n co .final) ∨ ∃ a, s.frame a = .discard co
  /-- The local queue of a worker that has published `Exited` is empty and stays so. -/
  exited : ∀ p, s.lifecycle p = .exited → ∀ t,
    (system cfg Th Wk Co).PathWhen (fun _ _ => True) s t → t.coroutineQueue p = []

/-- In every run, each live coroutine is at one place until it ends. -/
theorem circulates_of_reachable {cfg : Config} (h : (system cfg Th Wk Co).Reachable s) :
    Circulates cfg s := by
  have hI := inv_of_reachable h
  refine ⟨fun co hl => hI.lives.exists_unique hl, fun co x => ?_, fun p q co hp hq => ?_,
    fun l t co hs hl => (next_cases hs).kept hl, fun p hp t hpath => ?_⟩
  · rcases Nat.eq_zero_or_pos (s.count co x) with h0 | hpos
    · omega
    · exact (hI.lives.only hpos).1.le
  · exact Place.running.inj (hI.lives.unique (count_running hp) (count_running hq))
  · have hlater : Inv t ∧ t.loop p = .exited := by
      refine System.PathWhen.induct (I := fun t => Inv t ∧ t.loop p = .exited)
        ⟨hI, hI.commits.exited p hp⟩ (fun t l u ht _ hs => ?_) hpath
      have hm := next_cases hs
      exact ⟨ht.1.step hm, hm.loop_exited ht.1.thieves ht.2⟩
    exact hlater.1.drained.empty p hlater.2

/-- A coroutine is created at the first of two workers and stolen by the second one; before it is
in the queue of the thief, the first worker retires. -/
def stealRun : List (Label Unit Bool Unit) :=
  let a : Agent Unit Bool := .outside ()
  let go : Label Unit Bool Unit := .step a {}
  let thief : Label Unit Bool Unit := .work true {}
  let pull : Label Unit Bool Unit := .step (.worker true) {}
  let work : Label Unit Bool Unit := .work false {}
  [.call a (.expand [false, true]), go, go, go, go, go, go,
    .call a (.registCoroutineTask ()), go, go, go, go, go, go, go,
    thief, pull, pull, pull, pull, pull, pull, thief, thief, thief, thief,
    .step (.worker true) { item := some () },
    .call a (.shrink [false]), go, go, go, go, work, work, work]

/-- The coroutine is in the hand of the thief when its former worker has left. -/
theorem circulates_of_reachable_of_stealRun : ∃ s : State Unit Bool Unit,
    (s.lifecycle false = .exited ∧ s.life () = .live ∧ s.count () (.hand (.worker true)) = 1) ∧
      Circulates ⟨1, 1⟩ s := by
  have hrun : (system ⟨1, 1⟩ Unit Bool Unit).endsIn {} stealRun (fun s =>
      s.lifecycle false = .exited ∧ s.life () = .live ∧
        s.count () (.hand (.worker true)) = 1) = true := by
    decide
  obtain ⟨s, hs, hp⟩ := System.exists_of_endsIn rfl hrun
  exact ⟨s, hp, circulates_of_reachable hs⟩

end BbtCoroutine.Circulation
