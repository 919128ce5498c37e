import BbtCoroutine.WakeDeferral.Model
import Mathlib.Data.List.Nodup

/-!
# The deferral loses and duplicates no wake-up

`Lossless` says when a wake-up is issued and what becomes of those that were deferred.  The guards
that are alive are on top of the stack, since no wake-up is issued while there is one; so the depth
is zero while a flush goes on, and the requests that the drivers make then are not deferred again
to a guard that is already being destroyed.
-/

namespace BbtCoroutine.WakeDeferral

open Transition

variable {P : Type*} [DecidableEq P] {s t : State P}

/-! ## The statement -/

/-- The `n`-th outermost guard is alive. -/
def State.Open (s : State P) (n : ℕ) : Prop := n = s.scopes ∧ 0 < s.depth

/-- No wake-up is lost or duplicated. -/
structure Lossless (s : State P) : Prop where
  /-- No driver is woken at a positive depth. -/
  noWake : ∀ l t, next s l = some t → t.wakes ≠ s.wakes → s.depth = 0
  /-- At depth zero nothing is deferred. -/
  nothing : s.depth = 0 → s.pending = false
  /-- The destructor of an outermost guard flushes once if a request was deferred to it, and not
  otherwise. -/
  once : ∀ n, (s.deferred n ≠ [] ∧ ¬ s.Open n → (s.flushed n).length = 1) ∧
    (s.deferred n = [] ∨ s.Open n → s.flushed n = [])
  /-- It flushes over the active processors, and the processors with a driver are active. -/
  covers : ∀ t, next s .exit = some t → s.depth = 1 → s.deferred s.scopes ≠ [] →
    t.flushed s.scopes = [s.active] ∧ ∀ p, s.bound p = true → p ∈ s.active
  /-- The flush asks each of them once, and then is over. -/
  called : ∀ n, ∀ l ∈ s.flushed n, l.Nodup ∧ (l = s.called n ∨
    ∃ rest, .flushing n rest ∈ s.stack ∧ l = s.called n ++ rest)
  /-- What it asks for is done, not deferred: a driver that grants its lease is woken. -/
  issues : ∀ n p ps rest granted t, s.stack = .flushing n (p :: ps) :: rest →
    next s (.flush granted) = some t →
      t.wakes = if s.bound p && granted then s.wakes ++ [p] else s.wakes

/-! ## The invariant -/

/-- The number of the guard whose destructor the frame belongs to. -/
def Frame.flushOf : Frame P → Option ℕ
  | .flushing n _ => some n
  | _ => none

/-- The guards that are alive are on top of the stack. -/
def Shaped (stack : List (Frame P)) (depth : ℤ) : Prop :=
  ∃ (k : ℕ) (rest : List (Frame P)), stack = List.replicate k .scope ++ rest ∧
    .scope ∉ rest ∧ depth = k

/-- What holds in every state. -/
structure Inv (s : State P) : Prop where
  shaped : Shaped s.stack s.depth
  pending : s.pending = true ↔ 0 < s.depth ∧ s.deferred s.scopes ≠ []
  fresh : ∀ n, s.scopes < n → s.deferred n = []
  once : ∀ n, (s.deferred n ≠ [] ∧ ¬ s.Open n → (s.flushed n).length = 1) ∧
    (s.deferred n = [] ∨ s.Open n → s.flushed n = [])
  notCalled : ∀ n, s.flushed n = [] → s.called n = []
  flushing : ∀ n rest, .flushing n rest ∈ s.stack → s.flushed n = [s.called n ++ rest]
  flushes : (s.stack.filterMap Frame.flushOf).Nodup
  called : ∀ n, ∀ l ∈ s.flushed n, l = s.called n ∨
    ∃ rest, .flushing n rest ∈ s.stack ∧ l = s.called n ++ rest
  nodup : ∀ n, ∀ l ∈ s.flushed n, l.Nodup
  active : s.active.Nodup
  bound : ∀ p, s.bound p = true → p ∈ s.active

omit [DecidableEq P]

/-- The depth of a shaped stack is not negative. -/
lemma Shaped.nonneg {stack : List (Frame P)} {depth : ℤ} (h : Shaped stack depth) : 0 ≤ depth := by
  obtain ⟨k, -, -, -, rfl⟩ := h
  exact Int.natCast_nonneg k

/-- A frame that is no guard is on top at depth zero only. -/
lemma Shaped.eq_zero {f : Frame P} {rest : List (Frame P)} {depth : ℤ}
    (h : Shaped (f :: rest) depth) (hf : f ≠ .scope) : depth = 0 ∧ Shaped rest 0 := by
  obtain ⟨k, rest', hs, hrest, rfl⟩ := h
  cases k with
  | zero =>
    rw [List.replicate_zero, List.nil_append] at hs
    rw [← hs] at hrest
    exact ⟨rfl, 0, rest, rfl, fun hm => hrest (List.mem_cons_of_mem _ hm), rfl⟩
  | succ k =>
    rw [List.replicate_succ, List.cons_append] at hs
    exact absurd (List.cons.inj hs).1 hf

/-- A guard on top of the stack counts. -/
lemma Shaped.of_scope {rest : List (Frame P)} {depth : ℤ} (h : Shaped (.scope :: rest) depth) :
    0 < depth ∧ Shaped rest (depth - 1) := by
  obtain ⟨k, rest', hs, hrest, rfl⟩ := h
  cases k with
  | zero =>
    rw [List.replicate_zero, List.nil_append] at hs
    rw [← hs] at hrest
    exact absurd List.mem_cons_self hrest
  | succ k =>
    rw [List.replicate_succ, List.cons_append] at hs
    refine ⟨by omega, k, rest', (List.cons.inj hs).2, hrest, by omega⟩

/-- One more scope makes the stack deeper. -/
lemma Shaped.scope {stack : List (Frame P)} {depth : ℤ} (h : Shaped stack depth) :
    Shaped (.scope :: stack) (depth + 1) := by
  obtain ⟨k, rest, rfl, hrest, rfl⟩ := h
  exact ⟨k + 1, rest, rfl, hrest, by omega⟩

/-- A frame that is no guard is pushed at depth zero. -/
lemma Shaped.cons {f : Frame P} {stack : List (Frame P)} (h : Shaped stack 0) (hf : f ≠ .scope) :
    Shaped (f :: stack) 0 := by
  obtain ⟨k, rest, rfl, hrest, hk⟩ := h
  obtain rfl : k = 0 := by omega
  refine ⟨0, f :: rest, rfl, ?_, rfl⟩
  intro hm
  obtain rfl | hm := List.mem_cons.mp hm
  · exact hf rfl
  · exact hrest hm

/-! ## The steps -/

/-- Outside of the scopes the depth is 0. -/
lemma Inv.depth_eq_zero (h : Inv s) (hd : ¬ 0 < s.depth) : s.depth = 0 := by
  have hnonneg := h.shaped.nonneg
  omega

/-- A frame that is not that of a flush does not matter to the flushes. -/
lemma mem_cons_flushing {f : Frame P} {stack rest : List (Frame P)} {n : ℕ} {ps : List P}
    (hs : stack = f :: rest) (hf : f.flushOf = none) :
    .flushing n ps ∈ stack ↔ .flushing n ps ∈ rest := by
  rw [hs, List.mem_cons]
  refine or_iff_right fun he => ?_
  rw [← he] at hf
  cases hf

/-- A driver is woken at depth zero. -/
lemma Inv.wake (h : Inv s) (hd : ¬ 0 < s.depth) (p : P) : Inv (s.wake p) := by
  have hzero := h.depth_eq_zero hd
  have hmem : ∀ n rest, Frame.flushing n rest ∈ (s.wake p).stack ↔ .flushing n rest ∈ s.stack :=
    fun n rest => mem_cons_flushing rfl rfl
  refine { h with shaped := ?_, flushing := ?_, flushes := h.flushes, called := ?_ }
  · have hs := h.shaped
    rw [hzero] at hs
    exact hzero ▸ hs.cons fun he => by cases he
  · intro n rest hm
    exact h.flushing n rest ((hmem n rest).mp hm)
  · intro n l hl
    obtain he | ⟨rest, hm, he⟩ := h.called n l hl
    · exact .inl he
    · exact .inr ⟨rest, (hmem n rest).mpr hm, he⟩

/-- A request is deferred at a positive depth. -/
lemma Inv.defer (h : Inv s) (hd : 0 < s.depth) (p : P) : Inv (s.defer p) := by
  have hself : (s.defer p).deferred s.scopes = s.deferred s.scopes ++ [p] :=
    Function.update_self _ _ _
  refine { h with pending := ?_, fresh := ?_, once := ?_ }
  · constructor
    · intro _
      refine ⟨hd, fun he => ?_⟩
      have hnil := (List.append_eq_nil_iff.mp (hself.symm.trans he)).2
      cases hnil
    · intro _
      rfl
  · intro n hn
    have hne : n ≠ s.scopes := Nat.ne_of_gt hn
    exact (Function.update_of_ne hne _ _).trans (h.fresh n hn)
  · intro n
    by_cases hn : n = s.scopes
    · subst hn
      refine ⟨fun hc => absurd ⟨rfl, hd⟩ hc.2, fun _ => (h.once s.scopes).2 (.inr ⟨rfl, hd⟩)⟩
    · have hne : (s.defer p).deferred n = s.deferred n := Function.update_of_ne hn _ _
      rw [hne]
      exact h.once n

/-- A wake of the driver keeps the invariant. -/
lemma Inv.wakeDriver (h : Inv s) (p : P) (granted : Bool) : Inv (s.wakeDriver p granted) := by
  unfold State.wakeDriver
  split
  · rename_i hd
    exact h.defer hd p
  · rename_i hd
    split
    · exact h.wake hd p
    · exact h

/-- A guard is built. -/
lemma Inv.enter (h : Inv s) : Inv s.enter := by
  have hmem : ∀ n rest, Frame.flushing n rest ∈ s.enter.stack ↔ .flushing n rest ∈ s.stack :=
    fun n rest => mem_cons_flushing rfl rfl
  have hnonneg := h.shaped.nonneg
  have hpos : 0 < s.enter.depth := by
    have he : s.enter.depth = s.depth + 1 := rfl
    omega
  by_cases hd : s.depth ≤ 0
  · -- an outermost guard: nothing has been deferred to it
    have hscopes : s.enter.scopes = s.scopes + 1 := if_pos hd
    have hnew : s.deferred (s.scopes + 1) = [] := h.fresh _ (Nat.lt_succ_self _)
    refine ⟨h.shaped.scope, ?_, ?_, ?_, h.notCalled, ?_, h.flushes, ?_, h.nodup, h.active, h.bound⟩
    · constructor
      · intro hp
        exact absurd (h.pending.mp hp).1 (Int.not_lt.mpr hd)
      · rintro ⟨-, hne⟩
        rw [hscopes] at hne
        exact absurd hnew hne
    · intro n hn
      rw [hscopes] at hn
      exact h.fresh n (Nat.lt_of_succ_lt hn)
    · intro n
      have hnot : ¬ s.Open n := fun ho => absurd ho.2 (Int.not_lt.mpr hd)
      obtain ⟨h1, h2⟩ := h.once n
      refine ⟨fun hc => h1 ⟨hc.1, hnot⟩, ?_⟩
      rintro (he | ⟨hn, -⟩)
      · exact h2 (.inl he)
      · rw [hscopes] at hn
        subst hn
        exact h2 (.inl hnew)
    · intro n rest hm
      exact h.flushing n rest ((hmem n rest).mp hm)
    · intro n l hl
      obtain he | ⟨rest, hm, he⟩ := h.called n l hl
      · exact .inl he
      · exact .inr ⟨rest, (hmem n rest).mpr hm, he⟩
  · have hd' : 0 < s.depth := Int.not_le.mp hd
    have hscopes : s.enter.scopes = s.scopes := if_neg hd
    have hopen : ∀ n, s.enter.Open n ↔ s.Open n := by
      intro n
      unfold State.Open
      rw [hscopes]
      exact and_congr_right fun _ => iff_of_true hpos hd'
    refine ⟨h.shaped.scope, ?_, ?_, ?_, h.notCalled, ?_, h.flushes, ?_, h.nodup, h.active, h.bound⟩
    · rw [hscopes]
      exact h.pending.trans (and_congr_left fun _ => iff_of_true hd' hpos)
    · intro n hn
      rw [hscopes] at hn
      exact h.fresh n hn
    · intro n
      rw [hopen]
      exact h.once n
    · intro n rest hm
      exact h.flushing n rest ((hmem n rest).mp hm)
    · intro n l hl
      obtain he | ⟨rest, hm, he⟩ := h.called n l hl
      · exact .inl he
      · exact .inr ⟨rest, (hmem n rest).mpr hm, he⟩

/-- The destructor of an outermost guard with nothing deferred, or that of an inner one. -/
lemma Inv.leave (h : Inv s) {rest : List (Frame P)} {d : ℤ} (hs : s.stack = .scope :: rest)
    (hd : d = s.depth - 1) (hpending : d = 0 → s.pending = false) :
    Inv { s with depth := d, stack := rest } := by
  have hshaped := h.shaped
  rw [hs] at hshaped
  obtain ⟨hpos, hrest⟩ := hshaped.of_scope
  have hnonneg := hrest.nonneg
  have hdeferred : d = 0 → s.deferred s.scopes = [] := by
    intro h0
    by_contra hne
    have hp := h.pending.mpr ⟨hpos, hne⟩
    rw [hpending h0] at hp
    cases hp
  refine { h with
    shaped := ?_, pending := ?_, once := ?_, flushing := ?_, flushes := ?_, called := ?_ }
  · exact hd ▸ hrest
  · constructor
    · intro hp
      refine ⟨?_, (h.pending.mp hp).2⟩
      have h0 : d ≠ 0 := by
        intro h0
        rw [hpending h0] at hp
        cases hp
      have hd' : 0 ≤ d := hd ▸ hnonneg
      show 0 < d
      omega
    · rintro ⟨-, hne⟩
      exact h.pending.mpr ⟨hpos, hne⟩
  · intro n
    obtain ⟨h1, h2⟩ := h.once n
    constructor
    · rintro ⟨hne, hopen⟩
      refine h1 ⟨hne, ?_⟩
      rintro ⟨rfl, -⟩
      refine hne (hdeferred ?_)
      have hle : ¬ 0 < d := fun h0 => hopen ⟨rfl, h0⟩
      omega
    · rintro (he | ⟨hn, -⟩)
      · exact h2 (.inl he)
      · exact h2 (.inr ⟨hn, hpos⟩)
  · intro n ps hm
    exact h.flushing n ps ((mem_cons_flushing hs rfl).mpr hm)
  · have hf := h.flushes
    rw [hs] at hf
    exact hf
  · intro n l hl
    obtain he | ⟨ps, hm, he⟩ := h.called n l hl
    · exact .inl he
    · exact .inr ⟨ps, (mem_cons_flushing hs rfl).mp hm, he⟩

/-- The destructor of an outermost guard begins its flush. -/
lemma Inv.beginFlush (h : Inv s) {rest : List (Frame P)} (hs : s.stack = .scope :: rest)
    (hd : s.depth = 1) (hp : s.pending = true) : Inv { s with
      depth := 0
      pending := false
      stack := .flushing s.scopes s.active :: rest
      flushed := Function.update s.flushed s.scopes (s.flushed s.scopes ++ [s.active]) } := by
  have hshaped := h.shaped
  rw [hs] at hshaped
  have hrest := hshaped.of_scope.2
  obtain ⟨hpos, hne⟩ := h.pending.mp hp
  -- nothing has been flushed for this guard, so it has neither a frame nor a call
  have hnone : s.flushed s.scopes = [] := (h.once s.scopes).2 (.inr ⟨rfl, hpos⟩)
  have hcalled := h.notCalled _ hnone
  have hnot : ∀ n ps, Frame.flushing n ps ∈ rest → n ≠ s.scopes := by
    rintro n ps hm rfl
    have hf := h.flushing _ ps ((mem_cons_flushing hs rfl).mpr hm)
    rw [hnone] at hf
    cases hf
  have hself : Function.update s.flushed s.scopes (s.flushed s.scopes ++ [s.active]) s.scopes =
      [s.active] := by
    rw [Function.update_self, hnone]
    rfl
  have hother : ∀ n, n ≠ s.scopes → Function.update s.flushed s.scopes
      (s.flushed s.scopes ++ [s.active]) n = s.flushed n := fun n hn =>
    Function.update_of_ne hn _ _
  refine ⟨?_, ?_, h.fresh, ?_, ?_, ?_, ?_, ?_, ?_, h.active, h.bound⟩
  · rw [hd] at hrest
    exact hrest.cons fun he => by cases he
  · constructor
    · intro hp
      cases hp
    · rintro ⟨h0, -⟩
      cases h0
  · intro n
    by_cases hn : n = s.scopes
    · subst hn
      constructor
      · intro _
        exact congrArg List.length hself
      · rintro (he | ⟨-, h0⟩)
        · exact absurd he hne
        · cases h0
    · obtain ⟨h1, h2⟩ := h.once n
      constructor
      · rintro ⟨hne', -⟩
        exact (congrArg List.length (hother n hn)).trans (h1 ⟨hne', fun ho => hn ho.1⟩)
      · rintro (he | ⟨-, h0⟩)
        · exact (hother n hn).trans (h2 (.inl he))
        · cases h0
  · intro n hn
    by_cases hns : n = s.scopes
    · subst hns
      exact hcalled
    · exact h.notCalled n ((hother n hns).symm.trans hn)
  · intro n ps hm
    obtain he | hm := List.mem_cons.mp hm
    · obtain ⟨rfl, rfl⟩ := Frame.flushing.inj he
      refine hself.trans ?_
      show [s.active] = [s.called s.scopes ++ s.active]
      rw [hcalled]
      rfl
    · refine (hother n (hnot n ps hm)).trans (h.flushing n ps ?_)
      exact (mem_cons_flushing hs rfl).mpr hm
  · have hf := h.flushes
    rw [hs] at hf
    refine List.nodup_cons.mpr ⟨?_, hf⟩
    intro hm
    obtain ⟨f, hf, he⟩ := List.mem_filterMap.mp hm
    cases f with
    | flushing n ps => exact hnot n ps hf (Option.some.inj he)
    | scope | waking p => cases he
  · intro n l hl
    by_cases hn : n = s.scopes
    · subst hn
      have hl' : l ∈ [s.active] := by
        rw [← hself]
        exact hl
      obtain rfl := List.mem_singleton.mp hl'
      refine .inr ⟨s.active, List.mem_cons_self, ?_⟩
      show s.active = s.called s.scopes ++ s.active
      rw [hcalled]
      rfl
    · obtain he | ⟨ps, hm, he⟩ := h.called n l (hother n hn ▸ hl)
      · exact .inl he
      · exact .inr ⟨ps, List.mem_cons_of_mem _ ((mem_cons_flushing hs rfl).mp hm), he⟩
  · intro n l hl
    by_cases hn : n = s.scopes
    · subst hn
      have hl' : l ∈ [s.active] := by
        rw [← hself]
        exact hl
      obtain rfl := List.mem_singleton.mp hl'
      exact h.active
    · exact h.nodup n l (hother n hn ▸ hl)

/-- The end of a scope keeps the invariant. -/
lemma Inv.exit (h : Inv s) {rest : List (Frame P)} (hs : s.stack = .scope :: rest) :
    Inv (s.exit rest) := by
  have hshaped := h.shaped
  rw [hs] at hshaped
  have hpos := hshaped.of_scope.1
  unfold State.exit
  split
  · rename_i hd
    refine h.leave hs rfl fun h0 => ?_
    omega
  · rename_i hd
    split
    · rename_i hp
      exact h.beginFlush hs (by omega) hp
    · rename_i hp
      exact h.leave hs (by omega) fun _ => Bool.not_eq_true _ ▸ hp

/-- The flush takes the next processor. -/
lemma Inv.advance (h : Inv s) {n : ℕ} {p : P} {ps : List P} {rest : List (Frame P)}
    (hs : s.stack = .flushing n (p :: ps) :: rest) : Inv (s.advance n p ps rest) := by
  have hshaped := h.shaped
  rw [hs] at hshaped
  obtain ⟨hzero, hrest⟩ := hshaped.eq_zero fun he => by cases he
  have hflushes := h.flushes
  rw [hs] at hflushes
  have hnot : ∀ k qs, Frame.flushing k qs ∈ rest → k ≠ n := by
    rintro k qs hm rfl
    exact (List.nodup_cons.mp hflushes).1 (List.mem_filterMap.mpr ⟨_, hm, rfl⟩)
  have hmem : ∀ k qs, Frame.flushing k qs ∈ rest → Frame.flushing k qs ∈ s.stack := by
    intro k qs hm
    rw [hs]
    exact List.mem_cons_of_mem _ hm
  have hflushed : s.flushed n = [s.called n ++ p :: ps] :=
    h.flushing n (p :: ps) (hs ▸ List.mem_cons_self)
  have hself : (s.advance n p ps rest).called n = s.called n ++ [p] := Function.update_self _ _ _
  have hother : ∀ k, k ≠ n → (s.advance n p ps rest).called k = s.called k := fun k hk =>
    Function.update_of_ne hk _ _
  refine { h with shaped := ?_, notCalled := ?_, flushing := ?_, flushes := hflushes, called := ?_ }
  · have hcons : Shaped (.flushing n ps :: rest) 0 := hrest.cons fun he => by cases he
    exact hzero ▸ hcons
  · intro k hk
    by_cases hkn : k = n
    · subst hkn
      have hk' : s.flushed k = [] := hk
      rw [hflushed] at hk'
      cases hk'
    · exact (hother k hkn).trans (h.notCalled k hk)
  · intro k qs hm
    obtain he | hm := List.mem_cons.mp hm
    · obtain ⟨rfl, rfl⟩ := Frame.flushing.inj he
      rw [hself, List.append_assoc]
      exact hflushed
    · rw [hother k (hnot k qs hm)]
      exact h.flushing k qs (hmem k qs hm)
  · intro k l hl
    by_cases hkn : k = n
    · subst hkn
      have hl' : l ∈ s.flushed k := hl
      rw [hflushed] at hl'
      obtain rfl := List.mem_singleton.mp hl'
      refine .inr ⟨ps, List.mem_cons_self, ?_⟩
      rw [hself, List.append_assoc]
      rfl
    · rw [hother k hkn]
      obtain he | ⟨qs, hm, he⟩ := h.called k l hl
      · exact .inl he
      · rw [hs] at hm
        obtain he' | hm := List.mem_cons.mp hm
        · exact absurd (Frame.flushing.inj he').1 hkn
        · exact .inr ⟨qs, List.mem_cons_of_mem _ hm, he⟩

/-- A wake-up returns, or a flush that has nothing left ends. -/
lemma Inv.pop (h : Inv s) {f : Frame P} {rest : List (Frame P)} (hs : s.stack = f :: rest)
    (hf : f ≠ .scope) (hdone : ∀ n ps, f = .flushing n ps → ps = []) :
    Inv { s with stack := rest } := by
  have hshaped := h.shaped
  rw [hs] at hshaped
  obtain ⟨hzero, hrest⟩ := hshaped.eq_zero hf
  have hmem : ∀ k qs, Frame.flushing k qs ∈ rest → Frame.flushing k qs ∈ s.stack := by
    intro k qs hm
    rw [hs]
    exact List.mem_cons_of_mem _ hm
  refine { h with shaped := ?_, flushing := ?_, flushes := ?_, called := ?_ }
  · exact hzero ▸ hrest
  · intro n ps hm
    exact h.flushing n ps (hmem n ps hm)
  · have hflushes := h.flushes
    rw [hs] at hflushes
    cases f with
    | flushing n ps => exact (List.nodup_cons.mp hflushes).2
    | scope | waking p => exact hflushes
  · intro n l hl
    obtain he | ⟨ps, hm, he⟩ := h.called n l hl
    · exact .inl he
    · rw [hs] at hm
      obtain he' | hm := List.mem_cons.mp hm
      · rw [hdone n ps he'.symm, List.append_nil] at he
        exact .inl he
      · exact .inr ⟨ps, hm, he⟩

/-- The other threads change the processors and the drivers. -/
lemma Inv.others (h : Inv s) {active : List P} {bound : P → Bool} (ha : active.Nodup)
    (hb : ∀ p, bound p = true → p ∈ active) : Inv { s with active := active, bound := bound } :=
  { h with active := ha, bound := hb }

variable [DecidableEq P]

/-- The step lemma of the deferral. -/
lemma Inv.next {l : Label P} (h : Inv s) (hs : next s l = some t) : Inv t := by
  cases l with
  | enter =>
    obtain ⟨-, hs⟩ := Option.ite_none_right_eq_some.mp hs
    obtain rfl := Option.some.inj hs
    exact h.enter
  | request p granted =>
    obtain ⟨-, hs⟩ := Option.ite_none_right_eq_some.mp hs
    obtain rfl := Option.some.inj hs
    exact h.wakeDriver p granted
  | exit =>
    simp only [WakeDeferral.next] at hs
    split at hs
    · rename_i hstack
      obtain rfl := Option.some.inj hs
      exact h.exit hstack
    · cases hs
  | flush granted =>
    simp only [WakeDeferral.next] at hs
    split at hs
    · rename_i hstack
      obtain rfl := Option.some.inj hs
      exact (h.advance hstack).wakeDriver _ granted
    · cases hs
  | finish =>
    simp only [WakeDeferral.next] at hs
    split at hs
    · rename_i hstack
      obtain rfl := Option.some.inj hs
      refine h.pop hstack (fun he => by cases he) ?_
      intro n ps he
      exact (Frame.flushing.inj he).2.symm
    · cases hs
  | unregisterDriver p =>
    obtain ⟨-, hs⟩ := Option.ite_none_right_eq_some.mp hs
    split at hs
    · obtain rfl := Option.some.inj hs
      exact h
    · rename_i hd
      split at hs
      · obtain rfl := Option.some.inj hs
        exact h.wake hd p
      · obtain rfl := Option.some.inj hs
        exact h
  | back =>
    simp only [WakeDeferral.next] at hs
    split at hs
    · rename_i hstack
      obtain rfl := Option.some.inj hs
      exact h.pop hstack (fun he => by cases he) fun n ps he => by cases he
    · cases hs
  | publish p =>
    obtain ⟨hp, hs⟩ := Option.ite_none_left_eq_some.mp hs
    obtain rfl := Option.some.inj hs
    refine h.others ?_ fun q hq => List.mem_append_left _ (h.bound q hq)
    refine List.nodup_append.mpr ⟨h.active, List.nodup_singleton p, ?_⟩
    rintro q hq r hr rfl
    exact hp (List.mem_singleton.mp hr ▸ hq)
  | retire p =>
    obtain ⟨hp, hs⟩ := Option.ite_none_left_eq_some.mp hs
    obtain rfl := Option.some.inj hs
    refine h.others (h.active.erase p) fun q hq => ?_
    refine (List.mem_erase_of_ne ?_).mpr (h.bound q hq)
    rintro rfl
    exact hp hq
  | bind p =>
    obtain ⟨hp, hs⟩ := Option.ite_none_right_eq_some.mp hs
    obtain rfl := Option.some.inj hs
    refine h.others h.active fun q hq => ?_
    by_cases hqp : q = p
    · exact hqp ▸ hp
    · rw [Function.update_of_ne hqp] at hq
      exact h.bound q hq
  | unbind p =>
    obtain rfl := Option.some.inj hs
    refine h.others h.active fun q hq => ?_
    by_cases hqp : q = p
    · subst hqp
      rw [Function.update_self] at hq
      cases hq
    · rw [Function.update_of_ne hqp] at hq
      exact h.bound q hq

omit [DecidableEq P] in
/-- No guard has been built. -/
lemma inv_start : Inv ({} : State P) := by
  refine ⟨⟨0, [], rfl, ?_, rfl⟩, ?_, fun _ _ => rfl, ?_, fun _ _ => rfl, ?_, List.nodup_nil, ?_, ?_,
    List.nodup_nil, ?_⟩
  · intro hm
    cases hm
  · constructor
    · intro hp
      cases hp
    · rintro ⟨h0, -⟩
      cases h0
  · intro n
    exact ⟨fun hc => absurd rfl hc.1, fun _ => rfl⟩
  · intro n ps hm
    cases hm
  · intro n l hl
    cases hl
  · intro n l hl
    cases hl
  · intro p hp
    cases hp

/-- The invariant holds in every reachable state. -/
lemma inv_of_reachable (h : (system P).Reachable s) : Inv s := by
  refine h.induct ?_ fun _ _ _ hI hs => hI.next hs
  rintro s rfl
  exact inv_start

/-! ## The result -/

omit [DecidableEq P] in
/-- A request is not a wake-up while a guard is alive. -/
lemma wakes_wakeDriver (s : State P) (p : P) (granted : Bool) : (s.wakeDriver p granted).wakes =
    if s.depth ≤ 0 ∧ (s.bound p && granted) = true then s.wakes ++ [p] else s.wakes := by
  unfold State.wakeDriver
  split
  · rename_i hd
    rw [if_neg fun hc => Int.not_lt.mpr hc.1 hd]
    rfl
  · rename_i hd
    have hle : s.depth ≤ 0 := Int.not_lt.mp hd
    split
    · rename_i hb
      rw [if_pos ⟨hle, hb⟩]
      rfl
    · rename_i hb
      rw [if_neg fun hc => hb hc.2]

/-- A step that wakes a driver is made at depth zero. -/
lemma Inv.noWake {l : Label P} (h : Inv s) (hs : WakeDeferral.next s l = some t)
    (hw : t.wakes ≠ s.wakes) : s.depth = 0 := by
  have hcall {u : State P} {p : P} {granted : Bool} (hd : u.depth = s.depth)
      (hu : u.wakes = s.wakes) (hw : (u.wakeDriver p granted).wakes ≠ s.wakes) : s.depth = 0 := by
    rw [wakes_wakeDriver, hu] at hw
    split at hw
    · rename_i hc
      exact h.depth_eq_zero (Int.not_lt.mpr (hd ▸ hc.1))
    · exact absurd rfl hw
  cases l with
  | request p granted =>
    obtain ⟨-, hs⟩ := Option.ite_none_right_eq_some.mp hs
    obtain rfl := Option.some.inj hs
    exact hcall rfl rfl hw
  | flush granted =>
    simp only [WakeDeferral.next] at hs
    split at hs
    · obtain rfl := Option.some.inj hs
      exact hcall (u := s.advance _ _ _ _) rfl rfl hw
    · cases hs
  | unregisterDriver p =>
    obtain ⟨-, hs⟩ := Option.ite_none_right_eq_some.mp hs
    split at hs
    · obtain rfl := Option.some.inj hs
      exact absurd rfl hw
    · rename_i hd
      exact h.depth_eq_zero hd
  | exit =>
    simp only [WakeDeferral.next] at hs
    split at hs
    · obtain rfl := Option.some.inj hs
      refine absurd ?_ hw
      unfold State.exit
      split
      · rfl
      · split <;> rfl
    · cases hs
  | finish | back =>
    simp only [WakeDeferral.next] at hs
    split at hs
    · obtain rfl := Option.some.inj hs
      exact absurd rfl hw
    · cases hs
  | enter | bind p =>
    obtain ⟨-, hs⟩ := Option.ite_none_right_eq_some.mp hs
    obtain rfl := Option.some.inj hs
    exact absurd rfl hw
  | publish p | retire p =>
    obtain ⟨-, hs⟩ := Option.ite_none_left_eq_some.mp hs
    obtain rfl := Option.some.inj hs
    exact absurd rfl hw
  | unbind p =>
    obtain rfl := Option.some.inj hs
    exact absurd rfl hw

/-- In every run of the thread, with guards that are nested in any way and left in any way and
requests at any depth, no wake-up is lost or duplicated. -/
theorem lossless_of_reachable (h : (system P).Reachable s) : Lossless s where
  noWake _ _ := (inv_of_reachable h).noWake
  nothing hd := by
    by_contra hp
    have hpos := ((inv_of_reachable h).pending.mp (Bool.not_eq_false _ ▸ hp)).1
    omega
  once := (inv_of_reachable h).once
  covers t ht hd hne := by
    have hI := inv_of_reachable h
    have hopen : s.Open s.scopes := ⟨rfl, by omega⟩
    have hp := hI.pending.mpr ⟨hopen.2, hne⟩
    refine ⟨?_, hI.bound⟩
    simp only [WakeDeferral.next] at ht
    split at ht
    · obtain rfl := Option.some.inj ht
      unfold State.exit
      rw [if_neg (by omega), if_pos hp, (hI.once s.scopes).2 (.inr hopen)]
      exact Function.update_self _ _ _
    · cases ht
  called n l hl := ⟨(inv_of_reachable h).nodup n l hl, (inv_of_reachable h).called n l hl⟩
  issues n p ps rest granted t hstack ht := by
    have hshaped := (inv_of_reachable h).shaped
    rw [hstack] at hshaped
    have hzero := (hshaped.eq_zero fun he => by cases he).1
    simp only [WakeDeferral.next, hstack] at ht
    obtain rfl := Option.some.inj ht
    rw [wakes_wakeDriver]
    have hle : (s.advance n p ps rest).depth ≤ 0 := Int.le_of_eq hzero
    by_cases hb : (s.bound p && granted) = true
    · rw [if_pos hb]
      exact if_pos ⟨hle, hb⟩
    · rw [if_neg hb]
      exact if_neg fun hc => hb hc.2

/-- Two requests are deferred by nested guards, the driver that the flush wakes defers another one,
and a guard of its own flushes that. -/
theorem lossless_of_reachable_nested : ∃ s : State ℕ, (system ℕ).Reachable s ∧
    s.flushed 1 = [[1, 2]] ∧ s.flushed 2 = [[1, 2]] ∧ s.wakes = [1, 1, 2, 2] ∧ s.stack = [] ∧
      Lossless s := by
  have hrun : (system ℕ).endsIn {}
      ([.publish 1, .publish 2, .bind 1, .bind 2, .enter, .request 2 true, .enter, .request 1 true,
        .exit, .exit, .flush true, .enter, .request 2 true, .exit, .flush true, .back, .flush true,
        .back, .finish, .back, .flush true, .back, .finish])
      (fun s => s.flushed 1 = [[1, 2]] ∧ s.flushed 2 = [[1, 2]] ∧ s.wakes = [1, 1, 2, 2] ∧
        s.stack = []) = true := by
    decide
  obtain ⟨s, hs, h1, h2, h3, h4⟩ := System.exists_of_endsIn rfl hrun
  exact ⟨s, hs, h1, h2, h3, h4, lossless_of_reachable hs⟩

end BbtCoroutine.WakeDeferral
