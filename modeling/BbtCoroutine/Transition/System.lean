import Mathlib.Logic.Relation

/-!
# Transition systems with executable steps

A concurrent component is described by its states, the labels of its steps (which
party moves, and how the environment answers it) and a partial step function:
`next s l = none` says that the step `l` is not enabled in `s`.  Interleavings are
the runs of such a system.

`ReachableWhen P` is the set of states reached by runs all of whose steps satisfy
`P`; `Reachable` is the unrestricted case.  Every invariant of the development is
proved through `ReachableWhen.induct`: it holds at the start and each step keeps it.
A `Simulation` relates the runs of a detailed system to those of a more abstract one.
-/

namespace Transition

/-- A transition system: its start states and its partial step function. -/
structure System (σ ℓ : Type*) where
  /-- The states a run may start in. -/
  start : σ → Prop
  /-- The state after the step `l`, if that step is enabled. -/
  next : σ → ℓ → Option σ

namespace System

variable {σ ℓ : Type*}

/-- The states reached from a start state by steps that all satisfy `P`. -/
inductive ReachableWhen (A : System σ ℓ) (P : σ → ℓ → Prop) : σ → Prop
  | start {s : σ} (h : A.start s) : ReachableWhen A P s
  | step {s s' : σ} (l : ℓ) (h : ReachableWhen A P s) (hP : P s l)
      (hs : A.next s l = some s') : ReachableWhen A P s'

/-- The states reached from a start state by any steps. -/
def Reachable (A : System σ ℓ) : σ → Prop :=
  A.ReachableWhen fun _ _ => True

/-- The state after performing the steps of a list in order, if each of them is enabled and
satisfies `P`. -/
def runWhen (A : System σ ℓ) (P : σ → ℓ → Prop) [∀ s l, Decidable (P s l)] :
    σ → List ℓ → Option σ
  | s, [] => some s
  | s, l :: ls => if P s l then (A.next s l).bind fun s' => A.runWhen P s' ls else none

variable {A : System σ ℓ} {P Q : σ → ℓ → Prop}

/-- A start is reachable. -/
lemma Reachable.start {s : σ} (h : A.start s) : A.Reachable s :=
  ReachableWhen.start h

/-- A step from a reachable state leads to one. -/
lemma Reachable.step {s s' : σ} (h : A.Reachable s) (l : ℓ) (hs : A.next s l = some s') :
    A.Reachable s' :=
  ReachableWhen.step l h trivial hs

/-- A run that satisfies a stronger condition satisfies a weaker one. -/
lemma ReachableWhen.mono (hPQ : ∀ s l, P s l → Q s l) {s : σ} (h : A.ReachableWhen P s) :
    A.ReachableWhen Q s := by
  induction h with
  | start h => exact .start h
  | step l _ hP hs ih => exact .step l ih (hPQ _ _ hP) hs

/-- A state reached under a condition is reachable. -/
lemma ReachableWhen.reachable {s : σ} (h : A.ReachableWhen P s) : A.Reachable s :=
  h.mono fun _ _ _ => trivial

/-- The invariant rule: what holds at the start and is kept by every step that satisfies
the condition holds in every state such a run reaches. -/
theorem ReachableWhen.induct {I : σ → Prop} (h₀ : ∀ s, A.start s → I s)
    (hstep : ∀ s l s', I s → P s l → A.next s l = some s' → I s') {s : σ}
    (h : A.ReachableWhen P s) : I s := by
  induction h with
  | start h => exact h₀ _ h
  | step l _ hP hs ih => exact hstep _ _ _ ih hP hs

/-- The invariant rule for unrestricted runs. -/
theorem Reachable.induct {I : σ → Prop} (h₀ : ∀ s, A.start s → I s)
    (hstep : ∀ s l s', I s → A.next s l = some s' → I s') {s : σ} (h : A.Reachable s) : I s :=
  ReachableWhen.induct h₀ (fun s l s' hI _ hs => hstep s l s' hI hs) h

/-- The invariant rule with an auxiliary invariant that is already known. -/
theorem ReachableWhen.induct_with {I J : σ → Prop} (hJ : ∀ s, A.ReachableWhen P s → J s)
    (h₀ : ∀ s, A.start s → I s)
    (hstep : ∀ s l s', J s → J s' → I s → P s l → A.next s l = some s' → I s') {s : σ}
    (h : A.ReachableWhen P s) : I s := by
  induction h with
  | start h => exact h₀ _ h
  | step l hr hP hs ih => exact hstep _ _ _ (hJ _ hr) (hJ _ (.step l hr hP hs)) ih hP hs

/-- A run that satisfies the condition and starts in a state so reached ends in one. -/
lemma ReachableWhen.runWhen [∀ s l, Decidable (P s l)] {s s' : σ} {ls : List ℓ}
    (h : A.ReachableWhen P s) (hr : A.runWhen P s ls = some s') : A.ReachableWhen P s' := by
  induction ls generalizing s with
  | nil =>
    cases hr
    exact h
  | cons l ls ih =>
    rw [System.runWhen] at hr
    split at hr
    · obtain ⟨t, ht, hr⟩ := Option.bind_eq_some_iff.mp hr
      exact ih (.step l h ‹_› ht) hr
    · cases hr

/-- The second state is reached from the first one by steps that all satisfy `P`. -/
def PathWhen (A : System σ ℓ) (P : σ → ℓ → Prop) : σ → σ → Prop :=
  Relation.ReflTransGen fun s s' => ∃ l, P s l ∧ A.next s l = some s'

/-- The invariant rule for the states that are reached from a given one. -/
theorem PathWhen.induct {I : σ → Prop} {s s' : σ} (hs : I s)
    (hstep : ∀ s l s', I s → P s l → A.next s l = some s' → I s') (h : A.PathWhen P s s') :
    I s' := by
  induction h with
  | refl => exact hs
  | tail _ hl ih =>
    obtain ⟨l, hP, hl⟩ := hl
    exact hstep _ l _ ih hP hl

/-- What is reached from a reachable state is reachable. -/
lemma Reachable.path {s s' : σ} (hs : A.Reachable s) (h : A.PathWhen P s s') :
    A.Reachable s' :=
  h.induct hs fun _ l _ hr _ hl => hr.step l hl

/-- Whether a list of steps can be performed under the condition and ends in a state with the
property `p`. -/
def endsInWhen (A : System σ ℓ) (P : σ → ℓ → Prop) [∀ s l, Decidable (P s l)] (s : σ)
    (ls : List ℓ) (p : σ → Prop) [DecidablePred p] : Bool :=
  (A.runWhen P s ls).any fun s' => decide (p s')

/-- A run whose end is checked by evaluation leads from a start state to a state with the
checked property. -/
lemma exists_of_endsInWhen [∀ s l, Decidable (P s l)] {s : σ} {ls : List ℓ} {p : σ → Prop}
    [DecidablePred p] (hs : A.start s) (h : A.endsInWhen P s ls p = true) :
    ∃ s', A.ReachableWhen P s' ∧ p s' := by
  obtain ⟨s', hr, hp⟩ := (Option.any_eq_true _ _).mp h
  exact ⟨s', .runWhen (.start hs) hr, of_decide_eq_true hp⟩

/-- Whether a list of steps can be performed and ends in a state with the property `p`. -/
def endsIn (A : System σ ℓ) (s : σ) (ls : List ℓ) (p : σ → Prop) [DecidablePred p] : Bool :=
  A.endsInWhen (fun _ _ => True) s ls p

/-- A run that is computed leads to a reachable state with its property. -/
lemma exists_of_endsIn {s : σ} {ls : List ℓ} {p : σ → Prop} [DecidablePred p]
    (hs : A.start s) (h : A.endsIn s ls p = true) : ∃ s', A.Reachable s' ∧ p s' :=
  exists_of_endsInWhen hs h

/-! ### What a run shows -/

section

variable {ε : Type*}

/-- What a run of a system shows when `see` says what each step shows. -/
inductive Shows (A : System σ ℓ) (see : σ → ℓ → List ε) : List ε → σ → Prop
  | start {s : σ} (h : A.start s) : Shows A see [] s
  | step {es : List ε} {s s' : σ} (l : ℓ) (h : Shows A see es s)
      (hs : A.next s l = some s') : Shows A see (es ++ see s l) s'

variable {see : σ → ℓ → List ε}

/-- A run that shows something ends in a reachable state. -/
lemma Shows.reachable {es : List ε} {s : σ} (h : A.Shows see es s) : A.Reachable s := by
  induction h with
  | start h => exact .start h
  | step l _ hs ih => exact ih.step l hs

/-- Every reachable state is the end of a run that shows something. -/
lemma Reachable.exists_shows (see : σ → ℓ → List ε) {s : σ} (h : A.Reachable s) :
    ∃ es, A.Shows see es s := by
  induction h with
  | start h => exact ⟨[], .start h⟩
  | step l _ _ hs ih =>
    obtain ⟨es, hes⟩ := ih
    exact ⟨_, hes.step l hs⟩

end

end System

/-- A simulation of the system `A` by the system `B`: start states are related to start
states, and each step of `A` from a reachable state is matched by at most one step of `B`. -/
structure Simulation {σ ℓ τ κ : Type*} (A : System σ ℓ) (B : System τ κ)
    (R : σ → τ → Prop) : Prop where
  start : ∀ s, A.start s → ∃ t, B.start t ∧ R s t
  step : ∀ s l s' t, A.Reachable s → R s t → A.next s l = some s' →
    R s' t ∨ ∃ m t', B.next t m = some t' ∧ R s' t'

namespace Simulation

variable {σ ℓ τ κ : Type*} {A : System σ ℓ} {B : System τ κ} {R : σ → τ → Prop}

/-- Every reachable state of the simulated system is related to a reachable state of the
simulating one. -/
theorem exists_reachable (h : Simulation A B R) {s : σ} (hs : A.Reachable s) :
    ∃ t, B.Reachable t ∧ R s t := by
  have key : A.Reachable s ∧ ∃ t, B.Reachable t ∧ R s t := by
    refine System.Reachable.induct (I := fun s => A.Reachable s ∧ ∃ t, B.Reachable t ∧ R s t)
      ?_ ?_ hs
    · intro s h₀
      obtain ⟨t, ht, hR⟩ := h.start s h₀
      exact ⟨.start h₀, t, .start ht, hR⟩
    · rintro s l s' ⟨hr, t, ht, hR⟩ hs'
      refine ⟨hr.step l hs', ?_⟩
      rcases h.step s l s' t hr hR hs' with hR' | ⟨m, t', hm, hR'⟩
      · exact ⟨t, ht, hR'⟩
      · exact ⟨t', ht.step m hm, hR'⟩
  exact key.2

end Simulation

end Transition
