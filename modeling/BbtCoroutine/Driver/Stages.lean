import BbtCoroutine.Driver.Model

/-!
# The stages of a generation

A generation is attached until a leader detaches it, and then goes through the stages of
its leader.  `Stage` says what is known of its binding in each stage, and `GenInv` adds
that the leases and the leader are those of the frames of the threads.  A step of a frame
touches no generation but its own.
-/

namespace BbtCoroutine.Driver

variable {T : Type*}

/-- The stage of a generation, by its binding and by whether it is in the slot. -/
inductive Stage (g : ℕ) (b : Binding T) : Prop → Prop
  | attached {p : Prop} (hslot : p) (hreserved : b.terminalWakeReserved = false)
      (hstate : b.state ≠ .detaching) (hdetached : b.detached = false) (hleader : b.leader = none)
      (hwakes : b.terminalWakes = 0) (hsucceeded : b.succeeded = false) : Stage g b p
  | leading {p : Prop} {t : T} (hslot : p) (hreserved : b.terminalWakeReserved = true)
      (hstate : b.state = .detaching) (hdetached : b.detached = false)
      (hleader : b.leader = some (t, .terminal g)) (hwakes : b.terminalWakes = 0)
      (hsucceeded : b.succeeded = false) : Stage g b p
  | waking {p : Prop} {t : T} {f : Frame} (hslot : p) (hreserved : b.terminalWakeReserved = true)
      (hstate : b.state = .detaching) (hdetached : b.detached = false)
      (hleader : b.leader = some (t, f))
      (hf : f = .terminalWake g ∨ f = .terminalRelease g ∨ f = .drain g)
      (hwakes : b.terminalWakes = 1) (hsucceeded : b.succeeded = false) : Stage g b p
  | clearing {p : Prop} {t : T} (hslot : p) (hreserved : b.terminalWakeReserved = true)
      (hstate : b.state = .detaching) (hdetached : b.detached = false)
      (hleader : b.leader = some (t, .clear g)) (hwakes : b.terminalWakes = 1)
      (hinflight : b.inflight = 0) (hsucceeded : b.succeeded = false) : Stage g b p
  | cleared {p : Prop} {t : T} (hslot : ¬ p) (hreserved : b.terminalWakeReserved = true)
      (hstate : b.state = .detaching) (hdetached : b.detached = false)
      (hleader : b.leader = some (t, .detach g)) (hwakes : b.terminalWakes = 1)
      (hinflight : b.inflight = 0) (hsucceeded : b.succeeded = false) : Stage g b p
  | detached {p : Prop} (hslot : ¬ p) (hreserved : b.terminalWakeReserved = true)
      (hstate : b.state = .detaching) (hdetached : b.detached = true) (hleader : b.leader = none)
      (hwakes : b.terminalWakes = 1) (hinflight : b.inflight = 0) : Stage g b p

/-- The frame of the leader, if it belongs to `t`. -/
def ledBy [DecidableEq T] (t : T) : Option (T × Frame) → List Frame
  | some (t', f) => if t' = t then [f] else []
  | none => []

/-- The leases and the leader of the generation `g` are those of the frames of the threads. -/
structure Tally [DecidableEq T] (g : ℕ) (b : Binding T) (stack : T → List Frame) : Prop where
  inflight : b.inflight = b.holders.card
  holders : ∀ t, b.holders.count t = (stack t).countP fun f => f.counted = some g
  leader : ∀ t, ((stack t).filter fun f => f.leads = some g) = ledBy t b.leader

/-- The invariant of a generation that has been bound. -/
structure GenInv [DecidableEq T] (s : State T) (g : ℕ) : Prop where
  stage : Stage g (s.shared.binding g) (s.shared.driverBinding = some g)
  tally : Tally g (s.shared.binding g) s.stack

/-- The generation that a frame has read from the slot. -/
def Frame.generation : Frame → Option ℕ
  | .enter _ | .unregister _ => none
  | .lease _ g | .granted _ g | .running _ g | .fail _ g _ | .release g | .lead g | .join g
  | .terminal g | .terminalWake g | .terminalRelease g | .drain g | .clear g | .detach g => some g

/-- A frame that holds a lease is of its generation. -/
lemma Frame.generation_of_counted {f : Frame} {g : ℕ} (h : f.counted = some g) :
    f.generation = some g := by
  cases f <;> first | exact h | cases h

/-- A frame that leads a detachment is of its generation. -/
lemma Frame.generation_of_leads {f : Frame} {g : ℕ} (h : f.leads = some g) :
    f.generation = some g := by
  cases f <;> first | exact h | cases h

/-- The invariant of the driver slot. -/
structure Inv [DecidableEq T] (s : State T) : Prop where
  le_max : s.shared.driverNextGeneration ≤ generationMax
  slot : ∀ g, s.shared.driverBinding = some g → 0 < g ∧ g ≤ s.shared.driverNextGeneration
  frames : ∀ t, ∀ f ∈ s.stack t, ∀ g, f.generation = some g →
    0 < g ∧ g ≤ s.shared.driverNextGeneration
  bound : ∀ g, 0 < g → g ≤ s.shared.driverNextGeneration → GenInv s g
  fresh : ∀ g, g = 0 ∨ s.shared.driverNextGeneration < g → s.shared.binding g = {}

namespace Stage

variable {g : ℕ} {b b' : Binding T} {p : Prop}

/-- Only an attached generation may be bound. -/
lemma attached_of_state (h : Stage g b p) (hb : b.state ≠ .detaching) :
    p ∧ b.terminalWakeReserved = false ∧ b.detached = false ∧ b.leader = none ∧
      b.terminalWakes = 0 ∧ b.succeeded = false := by
  cases h with
  | attached hslot hreserved hstate hdetached hleader hwakes hsucceeded =>
    exact ⟨hslot, hreserved, hdetached, hleader, hwakes, hsucceeded⟩
  | leading _ _ hstate | waking _ _ hstate | clearing _ _ hstate | cleared _ _ hstate
  | detached _ _ hstate => exact absurd hstate hb

/-- A generation that nobody has begun to detach is attached. -/
lemma attached_of_reserved (h : Stage g b p) (hb : b.terminalWakeReserved = false) :
    p ∧ b.state ≠ .detaching ∧ b.detached = false ∧ b.leader = none ∧ b.terminalWakes = 0 ∧
      b.succeeded = false := by
  cases h with
  | attached hslot hreserved hstate hdetached hleader hwakes hsucceeded =>
    exact ⟨hslot, hstate, hdetached, hleader, hwakes, hsucceeded⟩
  | leading _ hr | waking _ hr | clearing _ hr | cleared _ hr | detached _ hr =>
    rw [hr] at hb
    cases hb

/-- The stage does not depend on leases and failures as long as a lease is held. -/
lemma of_inflight (h : Stage g b p) (hne : b.inflight ≠ 0) (hstate : b'.state = b.state)
    (hreserved : b'.terminalWakeReserved = b.terminalWakeReserved)
    (hdetached : b'.detached = b.detached) (hleader : b'.leader = b.leader)
    (hwakes : b'.terminalWakes = b.terminalWakes) (hsucceeded : b'.succeeded = b.succeeded) :
    Stage g b' p := by
  cases h with
  | attached h₁ h₂ h₃ h₄ h₅ h₆ h₇ =>
    exact .attached h₁ (hreserved.trans h₂) (by rwa [hstate]) (hdetached.trans h₄)
      (hleader.trans h₅) (hwakes.trans h₆) (hsucceeded.trans h₇)
  | leading h₁ h₂ h₃ h₄ h₅ h₆ h₇ =>
    exact .leading h₁ (hreserved.trans h₂) (hstate.trans h₃) (hdetached.trans h₄)
      (hleader.trans h₅) (hwakes.trans h₆) (hsucceeded.trans h₇)
  | waking h₁ h₂ h₃ h₄ h₅ hf h₆ h₇ =>
    exact .waking h₁ (hreserved.trans h₂) (hstate.trans h₃) (hdetached.trans h₄)
      (hleader.trans h₅) hf (hwakes.trans h₆) (hsucceeded.trans h₇)
  | clearing _ _ _ _ _ _ hzero | cleared _ _ _ _ _ _ hzero | detached _ _ _ _ _ _ hzero =>
    exact absurd hzero hne

/-- The frame of the leader tells the stage. -/
lemma of_leader {t : T} {f : Frame} (h : Stage g b p) (hl : b.leader = some (t, f)) :
    (b.terminalWakeReserved = true ∧ b.state = .detaching ∧ b.detached = false ∧
      b.succeeded = false) ∧
    (f = .terminal g ∧ p ∧ b.terminalWakes = 0 ∨
      (f = .terminalWake g ∨ f = .terminalRelease g ∨ f = .drain g) ∧ p ∧ b.terminalWakes = 1 ∨
      f = .clear g ∧ p ∧ b.terminalWakes = 1 ∧ b.inflight = 0 ∨
      f = .detach g ∧ ¬ p ∧ b.terminalWakes = 1 ∧ b.inflight = 0) := by
  have hf : ∀ {t' f'}, b.leader = some (t', f') → f = f' := by
    intro t' f' hl'
    exact (Prod.mk.inj (Option.some.inj (hl.symm.trans hl'))).2
  cases h with
  | leading hslot hr hstate hd hleader hwakes hs =>
    exact ⟨⟨hr, hstate, hd, hs⟩, .inl ⟨hf hleader, hslot, hwakes⟩⟩
  | waking hslot hr hstate hd hleader hf' hwakes hs =>
    rw [← hf hleader] at hf'
    exact ⟨⟨hr, hstate, hd, hs⟩, .inr (.inl ⟨hf', hslot, hwakes⟩)⟩
  | clearing hslot hr hstate hd hleader hwakes hinflight hs =>
    exact ⟨⟨hr, hstate, hd, hs⟩, .inr (.inr (.inl ⟨hf hleader, hslot, hwakes, hinflight⟩))⟩
  | cleared hslot hr hstate hd hleader hwakes hinflight hs =>
    exact ⟨⟨hr, hstate, hd, hs⟩, .inr (.inr (.inr ⟨hf hleader, hslot, hwakes, hinflight⟩))⟩
  | attached _ _ _ _ hleader | detached _ _ _ _ hleader =>
    rw [hleader] at hl
    cases hl

/-- A failure is recorded, and ends the state `Bound` only. -/
lemma driverFail (h : Stage g b p) (hne : b.inflight ≠ 0) (c : Callback) (err : Bool) :
    Stage g (b.driverFail c err) p := by
  unfold Binding.driverFail
  split
  · split_ifs
    · exact h.of_inflight hne rfl rfl rfl rfl rfl rfl
    · exact h
  · exact h
  · rename_i hbound
    obtain ⟨hslot, hr, hd, hl, hw, hs⟩ := h.attached_of_state (by rw [hbound]; decide)
    exact .attached hslot hr (by simp) hd hl hw hs

/-- A generation whose detachment has returned `Ok` is detached. -/
lemma detached_of_succeeded (h : Stage g b p) (hb : b.succeeded = true) : b.detached = true := by
  cases h with
  | detached _ _ _ hdetached => exact hdetached
  | attached _ _ _ _ _ _ hs | leading _ _ _ _ _ _ hs | waking _ _ _ _ _ _ _ hs
  | clearing _ _ _ _ _ _ _ hs | cleared _ _ _ _ _ _ _ hs =>
    rw [hs] at hb
    cases hb

/-- What is known of a detached generation. -/
lemma of_detached (h : Stage g b p) (hb : b.detached = true) :
    ¬ p ∧ b.inflight = 0 ∧ b.leader = none ∧ b.terminalWakes = 1 ∧ b.state = .detaching := by
  cases h with
  | detached hslot _ hstate _ hleader hwakes hinflight =>
    exact ⟨hslot, hinflight, hleader, hwakes, hstate⟩
  | attached _ _ _ hd | leading _ _ _ hd | waking _ _ _ hd | clearing _ _ _ hd
  | cleared _ _ _ hd =>
    rw [hd] at hb
    cases hb

/-- A generation that has left the slot is being detached and has no lease. -/
lemma of_not_slot (h : Stage g b p) (hp : ¬ p) : b.state = .detaching ∧ b.inflight = 0 := by
  cases h with
  | attached hslot | leading hslot | waking hslot | clearing hslot => exact absurd hslot hp
  | cleared _ _ hstate _ _ _ hinflight | detached _ _ hstate _ _ _ hinflight =>
    exact ⟨hstate, hinflight⟩

/-- There is one terminal wake at most. -/
lemma terminalWakes_le (h : Stage g b p) : b.terminalWakes ≤ 1 := by
  cases h <;> omega

end Stage

end BbtCoroutine.Driver
