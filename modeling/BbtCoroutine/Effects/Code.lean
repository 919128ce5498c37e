import Mathlib.Logic.Basic

/-!
# Code that may throw or park

A piece of sequential code is a function of the state.  It ends in one of three ways: it returns
a value, it throws, or it parks, that is, it gives up its thread in the middle.  An exception
unwinds the code up to a handler and leaves the state as it is; code that parks is not unwound.

`Meets p s Q E P` says how `p` may end when it starts in `s`: it returns a value and a state with
`Q`, or it throws in a state with `E`, or it parks in a state with `P`.  There is one rule for
each way to put code together.
-/

namespace Effects

variable {σ α β : Type}

/-- How a piece of code ends. -/
inductive Outcome (α : Type)
  | ok (a : α)
  | threw
  | parked
  deriving DecidableEq, Repr

/-- A piece of code that works on a state. -/
def Code (σ α : Type) :=
  σ → Outcome α × σ

namespace Code

/-- Nothing is done. -/
def ret (a : α) : Code σ α :=
  fun s => (.ok a, s)

/-- One piece of code after the other. -/
def andThen (p : Code σ α) (f : α → Code σ β) : Code σ β := fun s =>
  match p s with
  | (.ok a, t) => f a t
  | (.threw, t) => (.threw, t)
  | (.parked, t) => (.parked, t)

/-- Code is a monad: what follows is run if the code before returns. -/
instance : Monad (Code σ) where
  pure := ret
  bind := andThen

/-- An exception is thrown. -/
def throw : Code σ α :=
  fun s => (.threw, s)

/-- The thread is given up. -/
def park : Code σ α :=
  fun s => (.parked, s)

/-- The state is read. -/
def gets (f : σ → α) : Code σ α :=
  fun s => (.ok (f s), s)

/-- The state is changed. -/
def modify (f : σ → σ) : Code σ Unit :=
  fun s => (.ok (), f s)

/-- The code runs if `b` holds. -/
def when (b : Bool) (p : Code σ Unit) : Code σ Unit :=
  if b then p else pure ()

/-- A handler that catches whatever `p` throws, runs `h` and throws again. -/
def onThrow (p : Code σ α) (h : Code σ Unit) : Code σ α := fun s =>
  match p s with
  | (.ok a, t) => (.ok a, t)
  | (.threw, t) => (.threw, (h t).2)
  | (.parked, t) => (.parked, t)

/-- A handler that catches whatever `p` throws and goes on with `h`. -/
def catchAll (p h : Code σ α) : Code σ α := fun s =>
  match p s with
  | (.ok a, t) => (.ok a, t)
  | (.threw, t) => h t
  | (.parked, t) => (.parked, t)

/-- An object whose constructor does `enter` and whose destructor does `leave` lives while `p`
runs. -/
def scope (enter leave : σ → σ) (p : Code σ α) : Code σ α := fun s =>
  match p (enter s) with
  | (.ok a, t) => (.ok a, leave t)
  | (.threw, t) => (.threw, leave t)
  | (.parked, t) => (.parked, t)

end Code

open Code

/-! ## How code ends -/

/-- The end `o` in the state `t` is a value with `Q`, an exception with `E`, or a park with `P`. -/
def Outcome.Meets (o : Outcome α) (t : σ) (Q : α → σ → Prop) (E P : σ → Prop) : Prop :=
  match o with
  | ok a => Q a t
  | threw => E t
  | parked => P t

/-- Started in `s`, the code returns with `Q`, throws with `E`, or parks with `P`. -/
def Meets (p : Code σ α) (s : σ) (Q : α → σ → Prop) (E P : σ → Prop) : Prop :=
  (p s).1.Meets (p s).2 Q E P

/-- What code meets its outcome meets. -/
lemma meets_iff {p : Code σ α} {s t : σ} {o : Outcome α} (hp : p s = (o, t))
    {Q : α → σ → Prop} {E P : σ → Prop} : Meets p s Q E P ↔ o.Meets t Q E P := by
  unfold Meets
  rw [hp]

namespace Meets

variable {p : Code σ α} {f : α → Code σ β} {s : σ} {Q Q' : α → σ → Prop} {R : β → σ → Prop}
  {E E' P P' : σ → Prop}

/-- What code meets it meets with weaker ends. -/
lemma mono (h : Meets p s Q E P) (hQ : ∀ a t, Q a t → Q' a t) (hE : ∀ t, E t → E' t)
    (hP : ∀ t, P t → P' t) : Meets p s Q' E' P' := by
  rcases hp : p s with ⟨o, t⟩
  rw [meets_iff hp] at h ⊢
  cases o with
  | ok a => exact hQ a t h
  | threw => exact hE t h
  | parked => exact hP t h

/-- Returning a value meets what holds of it. -/
lemma pure {a : α} (h : Q a s) : Meets (pure a : Code σ α) s Q E P :=
  h

/-- Throwing meets what holds of the state. -/
lemma throw (h : E s) : Meets (Code.throw : Code σ α) s Q E P :=
  h

/-- Parking meets what holds of the state. -/
lemma park (h : P s) : Meets (Code.park : Code σ α) s Q E P :=
  h

/-- Reading the state meets what holds of the value. -/
lemma gets {g : σ → α} (h : Q (g s) s) : Meets (Code.gets g) s Q E P :=
  h

/-- Changing the state meets what holds of the new one. -/
lemma modify {g : σ → σ} {Q : Unit → σ → Prop} (h : Q () (g s)) : Meets (Code.modify g) s Q E P :=
  h

/-- The rule of sequences. -/
lemma bind (h : Meets p s (fun a t => Meets (f a) t R E P) E P) : Meets (p >>= f) s R E P := by
  rcases hp : p s with ⟨o, t⟩
  rw [meets_iff hp] at h
  change Meets (p.andThen f) s R E P
  cases o with
  | ok a =>
    have heq : p.andThen f s = f a t := by rw [andThen, hp]
    unfold Meets
    rw [heq]
    exact h
  | threw =>
    have heq : p.andThen f s = (.threw, t) := by rw [andThen, hp]
    exact (meets_iff heq).mpr h
  | parked =>
    have heq : p.andThen f s = (.parked, t) := by rw [andThen, hp]
    exact (meets_iff heq).mpr h

/-- The rule of calls: a caller uses what the callee meets, and goes on with the rest. -/
lemma call {F G : σ → Prop} (h : Meets p s Q F G) (hf : ∀ a t, Q a t → Meets (f a) t R E P)
    (hE : ∀ t, F t → E t) (hP : ∀ t, G t → P t) : Meets (p >>= f) s R E P :=
  bind (h.mono hf hE hP)

/-- The rule of calls whose result is only renamed. -/
lemma map {g : α → β} (h : Meets p s (fun a => R (g a)) E P) : Meets (g <$> p) s R E P :=
  bind h

/-- The rule of handlers that throw again. -/
lemma onThrow {c : Code σ Unit}
    (h : Meets p s Q (fun t => Meets c t (fun _ => E) E E) P) : Meets (p.onThrow c) s Q E P := by
  rcases hp : p s with ⟨o, t⟩
  rw [meets_iff hp] at h
  cases o with
  | ok a =>
    have heq : p.onThrow c s = (.ok a, t) := by rw [Code.onThrow, hp]
    exact (meets_iff heq).mpr h
  | threw =>
    have heq : p.onThrow c s = (.threw, (c t).2) := by rw [Code.onThrow, hp]
    refine (meets_iff heq).mpr ?_
    rcases hc : c t with ⟨o, u⟩
    have h' : o.Meets u (fun _ => E) E E := (meets_iff hc).mp h
    cases o with
    | ok _ => exact h'
    | threw => exact h'
    | parked => exact h'
  | parked =>
    have heq : p.onThrow c s = (.parked, t) := by rw [Code.onThrow, hp]
    exact (meets_iff heq).mpr h

/-- The rule of handlers that go on. -/
lemma catchAll {c : Code σ α} (h : Meets p s Q (fun t => Meets c t Q E P) P) :
    Meets (p.catchAll c) s Q E P := by
  rcases hp : p s with ⟨o, t⟩
  rw [meets_iff hp] at h
  cases o with
  | ok a =>
    have heq : p.catchAll c s = (.ok a, t) := by rw [Code.catchAll, hp]
    exact (meets_iff heq).mpr h
  | threw =>
    have heq : p.catchAll c s = c t := by rw [Code.catchAll, hp]
    unfold Meets
    rw [heq]
    exact h
  | parked =>
    have heq : p.catchAll c s = (.parked, t) := by rw [Code.catchAll, hp]
    exact (meets_iff heq).mpr h

/-- The rule of scoped objects. -/
lemma scope {enter leave : σ → σ}
    (h : Meets p (enter s) (fun a t => Q a (leave t)) (fun t => E (leave t)) P) :
    Meets (p.scope enter leave) s Q E P := by
  rcases hp : p (enter s) with ⟨o, t⟩
  rw [meets_iff hp] at h
  cases o with
  | ok a =>
    have heq : p.scope enter leave s = (.ok a, leave t) := by rw [Code.scope, hp]
    exact (meets_iff heq).mpr h
  | threw =>
    have heq : p.scope enter leave s = (.threw, leave t) := by rw [Code.scope, hp]
    exact (meets_iff heq).mpr h
  | parked =>
    have heq : p.scope enter leave s = (.parked, t) := by rw [Code.scope, hp]
    exact (meets_iff heq).mpr h

/-- The rule of branches. -/
lemma ite {c : Prop} [Decidable c] {q : Code σ α} (hp : c → Meets p s Q E P)
    (hq : ¬c → Meets q s Q E P) : Meets (if c then p else q) s Q E P := by
  by_cases hc : c
  · rw [if_pos hc]
    exact hp hc
  · rw [if_neg hc]
    exact hq hc

/-- The rule of code that runs under a condition. -/
lemma when {b : Bool} {p : Code σ Unit} {Q : Unit → σ → Prop} (hp : b = true → Meets p s Q E P)
    (hq : b = false → Q () s) : Meets (Code.when b p) s Q E P := by
  refine ite hp ?_
  intro hb
  exact pure (hq (Bool.eq_false_iff.mpr hb))

end Meets

end Effects
