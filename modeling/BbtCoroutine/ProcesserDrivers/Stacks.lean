import BbtCoroutine.ProcesserDrivers.Model
import BbtCoroutine.Driver.Protocol
import Mathlib.Data.List.Pairwise
import Mathlib.Data.Set.Finite.Basic

/-!
# The frames of a thread

All frames of a thread but the innermost one run user code.  `_UnregisterDriver` goes beyond
its tests only if the thread holds no lease of the binding, so no frame that has passed them is
inside a callback of its own binding, and inside callbacks of other bindings only as the
condition of the run says.  `slot` is the state of one processer: what the threads do to it is a
run of `Driver.system`.
-/

namespace BbtCoroutine

open Transition Driver

namespace Driver.Frame

/-- The generation that the frame detaches, or whose detachment it joins, once the tests of
`_UnregisterDriver` are passed. -/
def passed : Frame → Option ℕ
  | lead g | join g | terminal g | terminalWake g | terminalRelease g | drain g | clear g
  | detach g => some g
  | _ => none

variable {T : Type*} [DecidableEq T] {sh sh' : Shared T} {t : T} {below : List Frame}
  {deferring skip : Bool} {o : Outcome} {f f' : Frame} {g : ℕ}

/-- Only a call that has been tested passes. -/
lemma passed_of_advance
    (h : f.advance sh t below deferring skip o = some (sh', some f')) (hp : f'.passed = some g) :
    f.passed = some g ∨ (f = .unregister g ∧ sh.driverBinding = some g ∧ deferring = false ∧
      some g ∉ below.map held) := by
  cases f with
  | unregister g' =>
    rw [advance] at h
    split_ifs at h with hslot htest
    · cases h
    · cases h
    · obtain ⟨rfl, rfl⟩ : sh = sh' ∧ lead g' = f' := by simpa using h
      obtain rfl : g' = g := Option.some.inj hp
      simp only [not_not] at hslot
      simp only [not_or, Bool.not_eq_true] at htest
      exact .inr ⟨rfl, hslot, htest⟩
  | lead g' =>
    rw [advance] at h
    split_ifs at h
    · obtain ⟨-, rfl⟩ : _ ∧ terminal g' = f' := by simpa using h
      exact .inl hp
    · obtain ⟨-, rfl⟩ : _ ∧ join g' = f' := by simpa using h
      exact .inl hp
  | enter c =>
    rw [advance] at h
    split_ifs at h
    · cases h
    · obtain ⟨-, a, -, rfl⟩ : _ ∧ ∃ a, sh.driverBinding = some a ∧ Frame.lease c a = f' := by
        simpa using h
      cases hp
  | lease c g' | granted c g' | running c g' | drain g' | join g' =>
    rw [advance] at h
    split_ifs at h <;> simp only [Option.some.injEq, Prod.mk.injEq, reduceCtorEq, and_false] at h
      <;> obtain ⟨-, rfl⟩ := h <;> exact .inl hp
  | fail c g' err | release g' | terminal g' | terminalWake g' | terminalRelease g' | clear g'
  | detach g' =>
    simp only [advance, Option.some.injEq, Prod.mk.injEq, reduceCtorEq, and_false] at h
      <;> obtain ⟨-, rfl⟩ := h <;> exact .inl hp

/-- A frame that runs user code has its lease on the list of its thread. -/
lemma held_of_user (h : f.user = true) : f.held = f.counted := by
  cases f <;> first | rfl | cases h

end Driver.Frame

/-- A binding is refused. -/
lemma Driver.next_bind_none {T : Type*} [DecidableEq T] {s : Driver.State T} {sh : Shared T} {t : T}
    {active : Bool} (hfree : s.free t = true) (h : s.shared.bindDriver active = (sh, none)) :
    Driver.next s (.bind t active) = some { s with shared := sh } := by
  rw [Driver.next, if_pos hfree, h]

/-- A binding succeeds. -/
lemma Driver.next_bind_some {T : Type*} [DecidableEq T] {s : Driver.State T} {sh : Shared T} {t : T}
    {active : Bool} {g : ℕ} (hfree : s.free t = true)
    (h : s.shared.bindDriver active = (sh, some g)) :
    Driver.next s (.bind t active) =
      some ({ s with shared := sh }.setStack t (.enter .wake :: s.stack t)) := by
  rw [Driver.next, if_pos hfree, h]

namespace ProcesserDrivers

variable {T P : Type*}

/-- What is known of the frames of the threads in a run whose nested detachments ascend in `r`. -/
structure StackInv (r : P × ℕ → P × ℕ → Prop) (stack : T → List (P × Frame)) : Prop where
  user : ∀ t, ∀ b ∈ (stack t).tail, b.2.user = true
  nested : ∀ t, (stack t).Pairwise fun a b => ∀ g h, a.2.passed = some g → b.2.held = some h →
    (b.1, h) ≠ (a.1, g) ∧ r (b.1, h) (a.1, g)
  finite : {t | stack t ≠ []}.Finite

namespace StackInv

variable {r : P × ℕ → P × ℕ → Prop} {stack : T → List (P × Frame)}

/-- Without frames there is nothing to know. -/
lemma start : StackInv r fun _ : T => ([] : List (P × Frame)) where
  user t b hb := by cases hb
  nested t := List.Pairwise.nil
  finite := by simp

variable [DecidableEq T] {t : T}

/-- The frames of one thread change. -/
lemma update (h : StackInv r stack) (fs : List (P × Frame)) (huser : ∀ b ∈ fs.tail, b.2.user = true)
    (hnested : fs.Pairwise fun a b => ∀ g h, a.2.passed = some g → b.2.held = some h →
      (b.1, h) ≠ (a.1, g) ∧ r (b.1, h) (a.1, g)) :
    StackInv r (Function.update stack t fs) where
  user t' b hb := by
    by_cases ht : t' = t
    · subst ht
      rw [Function.update_self] at hb
      exact huser b hb
    · rw [Function.update_of_ne ht] at hb
      exact h.user t' b hb
  nested t' := by
    by_cases ht : t' = t
    · subst ht
      rw [Function.update_self]
      exact hnested
    · rw [Function.update_of_ne ht]
      exact h.nested t'
  finite := by
    refine (h.finite.union (Set.finite_singleton t)).subset fun t' ht' => ?_
    by_cases ht : t' = t
    · exact .inr ht
    · refine .inl ?_
      have hne : Function.update stack t fs t' ≠ [] := ht'
      rwa [Function.update_of_ne ht] at hne

/-- A thread that is free makes a call, which has passed no test yet. -/
lemma push (h : StackInv r stack) (hfree : (stack t).head?.all (fun f => f.2.user) = true)
    (p : P) {f : Frame} (hf : f.passed = none) :
    StackInv r (Function.update stack t ((p, f) :: stack t)) := by
  refine h.update _ (fun b hb => ?_) (List.pairwise_cons.mpr ⟨fun b _ g _ hp => ?_, h.nested t⟩)
  · rw [List.tail_cons] at hb
    cases hstack : stack t with
    | nil =>
      rw [hstack] at hb
      cases hb
    | cons a below =>
      rw [hstack] at hb hfree
      rcases List.mem_cons.mp hb with rfl | hmem
      · simpa using hfree
      · exact h.user t b (by rwa [hstack])
  · rw [hf] at hp
    cases hp

/-- The innermost frame of a thread ends. -/
lemma pop {a : P × Frame} {below : List (P × Frame)} (h : StackInv r stack)
    (hstack : stack t = a :: below) : StackInv r (Function.update stack t below) := by
  refine h.update _ (fun b hb => h.user t b ?_) ?_
  · rw [hstack]
    exact List.mem_of_mem_tail hb
  · have hpair := h.nested t
    rw [hstack] at hpair
    exact (List.pairwise_cons.mp hpair).2

/-- The innermost frame of a thread goes on. -/
lemma replace {p : P} {f f' : Frame} {below : List (P × Frame)} (h : StackInv r stack)
    (hstack : stack t = (p, f) :: below)
    (hpassed : ∀ g, f'.passed = some g → f.passed = some g ∨
      ∀ b ∈ below, ∀ h, b.2.held = some h → (b.1, h) ≠ (p, g) ∧ r (b.1, h) (p, g)) :
    StackInv r (Function.update stack t ((p, f') :: below)) := by
  have hpair := h.nested t
  rw [hstack] at hpair
  obtain ⟨hhead, htail⟩ := List.pairwise_cons.mp hpair
  refine h.update _ (fun b hb => h.user t b ?_)
    (List.pairwise_cons.mpr ⟨fun b hb g k hp hheld => ?_, htail⟩)
  · rw [hstack]
    exact hb
  · rcases hpassed g hp with hold | hnew
    · exact hhead b hb g k hold hheld
    · exact hnew b hb k hheld

end StackInv

section Own

variable [DecidableEq P] {p q : P}

@[simp] lemma own_cons_self (f : Frame) (fs : List (P × Frame)) :
    own p ((p, f) :: fs) = f :: own p fs := by
  rw [own, List.filter_cons_of_pos (by simp)]
  rfl

/-- A frame of another worker is none of its own. -/
lemma own_cons_of_ne (h : q ≠ p) (f : Frame) (fs : List (P × Frame)) :
    own p ((q, f) :: fs) = own p fs := by
  rw [own, List.filter_cons_of_neg (by simpa using h), own]

/-- The frame that follows takes the place of the one before. -/
lemma own_append_self (f : Option Frame) (fs : List (P × Frame)) :
    own p (f.toList.map (Prod.mk p) ++ fs) = f.toList ++ own p fs := by
  cases f with
  | none => rfl
  | some f => exact own_cons_self f fs

/-- A frame of another worker leaves its own as they are. -/
lemma own_append_of_ne (h : q ≠ p) (f : Option Frame) (fs : List (P × Frame)) :
    own p (f.toList.map (Prod.mk q) ++ fs) = own p fs := by
  cases f with
  | none => rfl
  | some f => exact own_cons_of_ne h f fs

end Own

/-- The leases on the list of a thread that belong to the processer `p`. -/
lemma mem_own_map_held [DecidableEq P] {p : P} {fs : List (P × Frame)} {b : P × Frame} {g : ℕ}
    (hb : b ∈ fs) (hp : b.1 = p) (hheld : b.2.held = some g) :
    some g ∈ (own p fs).map Frame.held :=
  List.mem_map.mpr ⟨b.2, List.mem_map.mpr ⟨b, List.mem_filter.mpr ⟨hb, by simpa using hp⟩, rfl⟩,
    hheld⟩

variable [DecidableEq T] [DecidableEq P] {localProcesser : T → Option P}
  {r : P × ℕ → P × ℕ → Prop} {s s' : State T P}

/-- Every step keeps what is known of the frames. -/
lemma StackInv.step {l : Label T P} (h : StackInv r s.stack) (hl : Nests r s l)
    (hs : next localProcesser s l = some s') : StackInv r s'.stack := by
  cases l with
  | add p =>
    obtain rfl := Option.some.inj hs
    exact h
  | retire p | suspend t | resume t | defer t | undefer t =>
    rw [next] at hs
    split_ifs at hs
    obtain rfl := Option.some.inj hs
    exact h
  | bind t p active =>
    rw [next] at hs
    split_ifs at hs with hfree hmap
    · split at hs
      · obtain rfl := Option.some.inj hs
        exact h
      · obtain rfl := Option.some.inj hs
        exact h.push hfree p rfl
    · obtain rfl := Option.some.inj hs
      exact h
  | call t p c =>
    rw [next] at hs
    split_ifs at hs with hcall
    obtain rfl := Option.some.inj hs
    exact h.push hcall.1 p rfl
  | unregister t p g =>
    rw [next] at hs
    split_ifs at hs with hfree
    · obtain rfl := Option.some.inj hs
      exact h
    · obtain rfl := Option.some.inj hs
      exact h
    · obtain rfl := Option.some.inj hs
      exact h.push hfree p rfl
  | run t skip o =>
    rw [next] at hs
    split at hs
    · cases hs
    rename_i p f below hstack
    obtain ⟨⟨sh, f'⟩, ha, rfl⟩ := Option.map_eq_some_iff.mp hs
    cases f' with
    | none => exact h.pop hstack
    | some f' =>
      refine h.replace hstack fun g hp => ?_
      rcases Frame.passed_of_advance ha hp with hold | ⟨rfl, hslot, hdeferring, hown⟩
      · exact .inl hold
      -- The outer frames are those of the state in which the call passes its tests.
      refine .inr fun b hb k hheld => ?_
      have huser : b.2.user = true := h.user t b (by rwa [hstack])
      have hcounted : b.2.counted = some k := by rw [← Frame.held_of_user huser, hheld]
      have hnot : ∀ b' ∈ below, b'.1 = p → b'.2.held ≠ some g := fun b' hb' hp' hheld' =>
        hown (mem_own_map_held hb' hp' hheld')
      refine ⟨fun heq => ?_, hl t skip o (p, g) rfl ⟨⟨below, hstack⟩, hslot, ?_, ?_⟩ (b.1, k)
        ⟨b.2, by rw [hstack]; exact List.mem_cons_of_mem _ hb, hcounted⟩⟩
      · obtain ⟨hp', rfl⟩ := Prod.mk.inj heq
        exact hnot b hb hp' hheld
      · simpa using hdeferring
      · rintro ⟨f', hmem, hc⟩
        rw [hstack] at hmem
        rcases List.mem_cons.mp hmem with heq | hmem
        · obtain ⟨-, rfl⟩ := Prod.mk.inj heq
          cases hc
        · have huser' : f'.user = true := h.user t (p, f') (by rwa [hstack])
          exact hnot (p, f') hmem rfl ((Frame.held_of_user huser').trans hc)

/-- What is known of the frames in every state of a run whose nested detachments ascend. -/
lemma stackInv_of_reachable (h : (system localProcesser).ReachableWhen (Nests r) s) :
    StackInv r s.stack := by
  refine h.induct (I := fun s => StackInv r s.stack) ?_ fun s l s' hi hl hs => hi.step hl hs
  rintro s rfl
  exact .start

/-! ## One processer -/

/-- What the threads see of the slot of one processer. -/
def slot (p : P) (s : State T P) : Driver.State T where
  shared := s.processer p
  stack t := own p (s.stack t)
  deferral := s.deferral

variable {p q : P} {t : T}

/-- The slot of a worker after a stack has been replaced. -/
lemma slot_setStack (fs : List (P × Frame)) :
    slot p (s.setStack t fs) = (slot p s).setStack t (own p fs) := by
  refine congrArg (fun st => Driver.State.mk (s.processer p) st s.deferral) (funext fun t' => ?_)
  exact Function.apply_update (fun _ => own p) s.stack t fs t'

/-- Frames of other processers do not matter. -/
lemma slot_setStack_of_own {fs : List (P × Frame)} (h : own p fs = own p (s.stack t)) :
    slot p (s.setStack t fs) = slot p s := by
  rw [slot_setStack, h]
  exact congrArg (fun st => Driver.State.mk (s.processer p) st s.deferral)
    (Function.update_eq_self t _)

section

omit [DecidableEq T]

/-- The slot of the worker whose driver changes. -/
lemma slot_setProcesser_self (sh : Shared T) :
    slot p (s.setProcesser p sh) = { slot p s with shared := sh } :=
  congrArg (fun sh' => Driver.State.mk sh' (fun t => own p (s.stack t)) s.deferral)
    (s.setProcesser_processer_self p sh)

/-- The slots of the other workers stay what they are. -/
lemma slot_setProcesser_of_ne (h : q ≠ p) (sh : Shared T) :
    slot p (s.setProcesser q sh) = slot p s :=
  congrArg (fun sh' => Driver.State.mk sh' (fun t => own p (s.stack t)) s.deferral)
    (s.setProcesser_processer_of_ne h.symm sh)

/-- A thread that is free is free for every processer. -/
lemma slot_free (h : StackInv r s.stack) (hfree : s.free t = true) :
    (slot p s).free t = true := by
  have huser : ∀ b ∈ s.stack t, b.2.user = true := by
    intro b hb
    cases hstack : s.stack t with
    | nil =>
      rw [hstack] at hb
      cases hb
    | cons a below =>
      rw [hstack] at hb
      rw [State.free, hstack] at hfree
      rcases List.mem_cons.mp hb with rfl | hmem
      · simpa using hfree
      · exact h.user t b (by rwa [hstack])
  rw [Driver.State.free, Option.all_eq_true]
  intro f hf
  obtain ⟨b, hb, rfl⟩ := List.mem_map.mp (List.mem_of_mem_head? hf)
  exact huser b (List.mem_filter.mp hb).1

end

/-- What the threads do to one processer is a run of its slot. -/
lemma slot_simulation (p : P) :
    Simulation (system localProcesser) (Driver.system T) fun s d => d = slot p s where
  start s hs := by
    subst hs
    exact ⟨{}, rfl, rfl⟩
  step s l s' d hr hd hs := by
    subst hd
    have hi : StackInv (fun _ _ => True) s.stack :=
      stackInv_of_reachable (hr.mono fun _ _ _ _ _ _ _ _ _ _ _ => trivial)
    have hpush : ∀ (s : State T P) t q f, q ≠ p →
        slot p (s.setStack t ((q, f) :: s.stack t)) = slot p s := fun s t q f hq =>
      slot_setStack_of_own (own_cons_of_ne hq f _)
    change next localProcesser s l = some s' at hs
    cases l with
    | add q =>
      obtain rfl := Option.some.inj hs
      exact .inl rfl
    | retire q | suspend t | resume t =>
      rw [next] at hs
      split_ifs at hs
      obtain rfl := Option.some.inj hs
      exact .inl rfl
    | defer t =>
      rw [next] at hs
      split_ifs at hs with hfree
      obtain rfl := Option.some.inj hs
      exact .inr ⟨.defer t, _, if_pos (slot_free hi hfree), rfl⟩
    | undefer t =>
      rw [next] at hs
      split_ifs at hs with hfree
      obtain rfl := Option.some.inj hs
      exact .inr ⟨.undefer t, _, if_pos (slot_free hi hfree), rfl⟩
    | bind t q active =>
      rw [next] at hs
      split_ifs at hs with hfree hmap
      · by_cases hq : q = p
        · subst hq
          refine .inr ⟨.bind t active, slot q s', ?_, rfl⟩
          change Driver.next (slot q s) (.bind t active) = some (slot q s')
          split at hs
          · rename_i sh hbind
            obtain rfl := Option.some.inj hs
            rw [Driver.next_bind_none (slot_free hi hfree) hbind, slot_setProcesser_self]
          · rename_i sh g hbind
            obtain rfl := Option.some.inj hs
            rw [Driver.next_bind_some (slot_free hi hfree) hbind, slot_setStack,
              slot_setProcesser_self, own_cons_self]
            rfl
        · split at hs
          · obtain rfl := Option.some.inj hs
            exact .inl (slot_setProcesser_of_ne hq _).symm
          · obtain rfl := Option.some.inj hs
            exact .inl ((hpush _ t q _ hq).trans (slot_setProcesser_of_ne hq _)).symm
      · obtain rfl := Option.some.inj hs
        exact .inl rfl
    | call t q c =>
      rw [next] at hs
      split_ifs at hs with hcall
      obtain rfl := Option.some.inj hs
      by_cases hq : q = p
      · subst hq
        refine .inr ⟨.call t c, _, if_pos (slot_free hi hcall.1), ?_⟩
        rw [slot_setStack, own_cons_self]
        rfl
      · exact .inl (hpush s t q _ hq).symm
    | unregister t q g =>
      rw [next] at hs
      split_ifs at hs with hfree
      · obtain rfl := Option.some.inj hs
        exact .inl rfl
      · obtain rfl := Option.some.inj hs
        exact .inl rfl
      · obtain rfl := Option.some.inj hs
        by_cases hq : q = p
        · subst hq
          refine .inr ⟨.unregister t g, _, if_pos (slot_free hi hfree), ?_⟩
          rw [slot_setStack, own_cons_self]
          rfl
        · exact .inl (hpush s t q _ hq).symm
    | run t skip o =>
      rw [next] at hs
      split at hs
      · cases hs
      rename_i q f below hstack
      obtain ⟨⟨sh, f'⟩, ha, rfl⟩ := Option.map_eq_some_iff.mp hs
      by_cases hq : q = p
      · subst hq
        refine .inr ⟨.run t skip o, _, ?_, rfl⟩
        have hown : (slot q s).stack t = f :: own q below := by
          rw [← own_cons_self]
          exact congrArg (own q) hstack
        rw [show (Driver.system T).next = Driver.next from rfl, Driver.next, hown]
        change Option.map _ (f.advance (s.processer q) t (own q below) _ skip o) = _
        rw [show decide (0 < (slot q s).deferral t) = decide (0 < s.deferral t) from rfl, ha,
          Option.map_some, slot_setStack, slot_setProcesser_self, own_append_self]
      · refine .inl ?_
        rw [slot_setStack_of_own, slot_setProcesser_of_ne hq]
        rw [own_append_of_ne hq, State.setProcesser_stack, hstack, own_cons_of_ne hq]

/-- The slot of one processer is in a state that its own system reaches. -/
lemma slot_reachable (h : (system localProcesser).Reachable s) (p : P) :
    (Driver.system T).Reachable (slot p s) := by
  obtain ⟨_, hr, rfl⟩ := (slot_simulation p).exists_reachable h
  exact hr

end ProcesserDrivers

end BbtCoroutine
