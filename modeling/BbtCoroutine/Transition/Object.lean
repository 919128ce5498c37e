import BbtCoroutine.Transition.System
import Mathlib.Logic.Function.Basic

/-!
# Atomic objects and linearizability

An atomic object has a state and, for each operation, the effects that the operation may
have on it and the replies that go with them.  In a use of the object any number of parties
call operations; between its call and its return an operation takes effect once, in a
single step, and the other parties may do anything before and after that step.  An effect
may depend on the state in which the operation was called, so that an object can say that
nothing called after a moment happens any more.

What the parties see of a run are the calls and the returns with their replies.  A system
is `Linearizable` to an object if every sequence of visible events that one of its runs
shows is shown by a use of the object.  `linearizable_of_local` is the rule by which it is
proved: each party's point fits one of the stages of an operation, and a step of the system
moves one party along these stages and leaves the points of the others fitting.
`linearizable_of_points` is the form of the rule for a system whose parties have program points,
and `linearizable_of_last` the one for points that say by themselves how far an operation has come.
-/

namespace Transition

variable {σ ℓ ι τ Op Ret : Type*}

/-- An object whose operations take effect in one step. -/
structure AtomicObject (ι τ Op Ret : Type*) where
  /-- The states in which the object may be made. -/
  start : τ → Prop
  /-- `effect i x₀ x op r x'`: an operation `op` that the party `i` called in the state `x₀` may
  take the object from the state `x` to the state `x'` and reply `r`. -/
  effect : ι → τ → τ → Op → Ret → τ → Prop

/-- What the parties see: that one of them calls an operation, or gets a reply. -/
inductive Visible (ι Op Ret : Type*)
  | call (i : ι) (op : Op)
  | ret (i : ι) (r : Ret)

namespace AtomicObject

/-- The stage of a party: it has called nothing, its operation has had no effect so far, or it
has had its effect. -/
inductive Stage (τ Op Ret : Type*)
  | idle
  | called (op : Op) (x₀ : τ)
  | done (r : Ret)

/-- A state of the object in use. -/
structure Use (ι τ Op Ret : Type*) where
  obj : τ
  stage : ι → Stage τ Op Ret

/-- A step of a party on the object, with the events it shows. -/
inductive Moves (O : AtomicObject ι τ Op Ret) (i : ι) :
    τ → Stage τ Op Ret → List (Visible ι Op Ret) → τ → Stage τ Op Ret → Prop
  | call (x : τ) (op : Op) : Moves O i x .idle [.call i op] x (.called op x)
  | effect {x₀ x x' : τ} {op : Op} {r : Ret} (h : O.effect i x₀ x op r x') :
      Moves O i x (.called op x₀) [] x' (.done r)
  | ret (x : τ) (r : Ret) : Moves O i x (.done r) [.ret i r] x .idle

/-- What a step of a system has to be for the object: the party `i` stays at its stage, or
makes one of its moves. -/
inductive Matches (O : AtomicObject ι τ Op Ret) (i : ι) (x : τ) (st : Stage τ Op Ret) :
    List (Visible ι Op Ret) → τ → Stage τ Op Ret → Prop
  | stay : Matches O i x st [] x st
  | move {es : List (Visible ι Op Ret)} {x' : τ} {st' : Stage τ Op Ret}
      (h : O.Moves i x st es x' st') : Matches O i x st es x' st'

variable [DecidableEq ι]

/-- What a use of the object shows from its start on. -/
inductive Shows (O : AtomicObject ι τ Op Ret) :
    List (Visible ι Op Ret) → Use ι τ Op Ret → Prop
  | start {x : τ} (h : O.start x) : Shows O [] ⟨x, fun _ => .idle⟩
  | step {es es' : List (Visible ι Op Ret)} {u : Use ι τ Op Ret} {i : ι} {x : τ}
      {st : Stage τ Op Ret} (h : Shows O es u) (hm : O.Moves i u.obj (u.stage i) es' x st) :
      Shows O (es ++ es') ⟨x, Function.update u.stage i st⟩

end AtomicObject

namespace System

open AtomicObject

variable {A : System σ ℓ} {see : σ → ℓ → List (Visible ι Op Ret)}

/-- Whatever a run of the system shows is shown by a use of the object: each operation takes
effect in a single step between its call and its return. -/
def Linearizable [DecidableEq ι] (A : System σ ℓ) (see : σ → ℓ → List (Visible ι Op Ret))
    (O : AtomicObject ι τ Op Ret) : Prop :=
  ∀ es s, A.Shows see es s → ∃ u, O.Shows es u

/-- The rule of linearizability.  `abs` is the state of the object and `fits s i st` says that
the point of the party `i` fits the stage `st`. -/
theorem linearizable_of_local [DecidableEq ι] {O : AtomicObject ι τ Op Ret} (abs : σ → τ)
    (fits : σ → ι → Stage τ Op Ret → Prop)
    (hstart : ∀ s, A.start s → O.start (abs s) ∧ ∀ i, fits s i .idle)
    (hstep : ∀ s l s', A.Reachable s → A.next s l = some s' →
      ∃ i, (∀ j st, j ≠ i → fits s j st → fits s' j st) ∧
        ∀ st, fits s i st → ∃ st', O.Matches i (abs s) st (see s l) (abs s') st' ∧ fits s' i st') :
    A.Linearizable see O := by
  intro es s h
  suffices hu : ∃ u, O.Shows es u ∧ u.obj = abs s ∧ ∀ i, fits s i (u.stage i) by
    obtain ⟨u, hu, -⟩ := hu
    exact ⟨u, hu⟩
  induction h with
  | start h =>
    obtain ⟨hO, hfits⟩ := hstart _ h
    exact ⟨_, .start hO, rfl, hfits⟩
  | @step es s s' l h hs ih =>
    obtain ⟨u, hu, hobj, hfits⟩ := ih
    obtain ⟨i, hothers, hi⟩ := hstep s l s' h.reachable hs
    obtain ⟨st', hm, hst'⟩ := hi (u.stage i) (hfits i)
    have hfits' : ∀ j, fits s' j (Function.update u.stage i st' j) := by
      intro j
      by_cases hj : j = i
      · subst hj
        rwa [Function.update_self]
      · rw [Function.update_of_ne hj]
        exact hothers j _ hj (hfits j)
    rw [← hobj] at hm
    generalize abs s' = x' at hm ⊢
    generalize see s l = es' at hm ⊢
    cases hm with
    | stay =>
      rw [Function.update_eq_self] at hfits'
      rw [List.append_nil]
      exact ⟨u, hu, rfl, hfits'⟩
    | move hm => exact ⟨_, hu.step hm, rfl, hfits'⟩

/-! ### Parties with program points -/

section

variable {P : Type*}

/-- What a step leads to from a point of an operation without effect: the operation stays without
effect and the object as it is, or it has just had its effect. -/
inductive Advances (O : AtomicObject ι τ Op Ret) (i : ι) (x₀ x : τ) (op : Op) (x' : τ)
    (pending : Prop) (done : Ret → Prop) : Prop
  | pending (hx : x' = x) (h : pending)
  | effect {r : Ret} (h : O.effect i x₀ x op r x') (hr : done r)

/-- The point of the party `i` fits a stage of its operation. -/
def StageFits (pc : σ → ι → P) (idle : P) (pending : τ → σ → P → Op → Prop)
    (done : P → Ret → Prop) (s : σ) (i : ι) : Stage τ Op Ret → Prop
  | .idle => pc s i = idle
  | .called op x₀ => pending x₀ s (pc s i) op
  | .done r => done (pc s i) r

/-- A party whose point stays what it is stays at its stage. -/
lemma StageFits.same {pc : σ → ι → P} {idle : P} {pending : τ → σ → P → Op → Prop}
    {done : P → Ret → Prop} {s s' : σ} {i : ι} {st : Stage τ Op Ret}
    (h : StageFits pc idle pending done s i st) (hpc : pc s' i = pc s i)
    (hp : ∀ x₀ op, pending x₀ s (pc s i) op → pending x₀ s' (pc s i) op) :
    StageFits pc idle pending done s' i st := by
  cases st with
  | idle => exact hpc.trans h
  | called op x₀ =>
    rw [StageFits, hpc]
    exact hp x₀ op h
  | done r =>
    rw [StageFits, hpc]
    exact h

/-- What a step of a system is for one of its parties, of which `pc` is the point: nothing, a call,
or a step of its code.  A point may be one of an operation without effect that was called in a
given state (`pending`), or one of an operation that has had its effect (`done`). -/
inductive PointStep (O : AtomicObject ι τ Op Ret) (abs : σ → τ) (pc : σ → ι → P) (idle : P)
    (pending : τ → σ → P → Op → Prop) (done : P → Ret → Prop) (s s' : σ) (i : ι) :
    List (Visible ι Op Ret) → Prop
  | quiet (hx : abs s' = abs s) (hpc : pc s' i = pc s i)
      (hp : ∀ x₀ op, pending x₀ s (pc s i) op → pending x₀ s' (pc s i) op) :
      PointStep O abs pc idle pending done s s' i []
  | call {op : Op} (hx : abs s' = abs s) (hpc : pc s i = idle)
      (hp : pending (abs s) s' (pc s' i) op) :
      PointStep O abs pc idle pending done s s' i [.call i op]
  | run (hpc : pc s i ≠ idle)
      (hp : ∀ x₀ op, pending x₀ s (pc s i) op →
        Advances O i x₀ (abs s) op (abs s') (pending x₀ s' (pc s' i) op) (done (pc s' i)))
      (hd : ∀ r, done (pc s i) r → abs s' = abs s ∧ done (pc s' i) r) :
      PointStep O abs pc idle pending done s s' i []
  | ret {r : Ret} (hx : abs s' = abs s) (hpc : pc s' i = idle)
      (hp : ∀ x₀ op, ¬ pending x₀ s (pc s i) op) (hd : ∀ r', done (pc s i) r' → r' = r)
      (hne : pc s i ≠ idle) : PointStep O abs pc idle pending done s s' i [.ret i r]

/-- The rule of linearizability for parties with program points: each step is one of a single
party, and leaves the points of the others what they are. -/
theorem linearizable_of_points [DecidableEq ι] {O : AtomicObject ι τ Op Ret} (abs : σ → τ)
    (pc : σ → ι → P) (idle : P) (pending : τ → σ → P → Op → Prop) (done : P → Ret → Prop)
    (hstart : ∀ s, A.start s → O.start (abs s) ∧ ∀ i, pc s i = idle)
    (hpending : ∀ x₀ s op, ¬ pending x₀ s idle op) (hdone : ∀ r, ¬ done idle r)
    (hstep : ∀ s l s', A.Reachable s → A.next s l = some s' →
      ∃ i, PointStep O abs pc idle pending done s s' i (see s l) ∧ ∀ j, j ≠ i → pc s' j = pc s j ∧
        ∀ x₀ op, pending x₀ s (pc s j) op → pending x₀ s' (pc s j) op) :
    A.Linearizable see O := by
  refine linearizable_of_local abs (StageFits pc idle pending done) hstart ?_
  intro s l s' hreach hs
  obtain ⟨i, hi, hothers⟩ := hstep s l s' hreach hs
  refine ⟨i, fun j st hj hst => ?_, fun st hst => ?_⟩
  · obtain ⟨hpc, hp⟩ := hothers j hj
    exact hst.same hpc hp
  · generalize see s l = es at hi ⊢
    cases hi with
    | quiet hx hpc hp =>
      rw [hx]
      exact ⟨st, .stay, hst.same hpc hp⟩
    | @call op hx hpc hp =>
      rw [hx]
      cases st with
      | idle => exact ⟨_, .move (.call ..), hp⟩
      | called o x₀ => exact absurd hst (hpc ▸ hpending x₀ s o)
      | done r => exact absurd hst (hpc ▸ hdone r)
    | run hpc hp hd =>
      cases st with
      | idle => exact absurd hst hpc
      | called op x₀ =>
        cases hp x₀ op hst with
        | pending hx h => exact ⟨.called op x₀, hx ▸ .stay, h⟩
        | effect h hr => exact ⟨.done _, .move (.effect h), hr⟩
      | done r =>
        obtain ⟨hx, hr⟩ := hd r hst
        exact ⟨.done r, hx ▸ .stay, hr⟩
    | ret hx hpc hp hd hne =>
      rw [hx]
      cases st with
      | idle => exact absurd hst hne
      | called op x₀ => exact absurd hst (hp x₀ op)
      | done r =>
        obtain rfl := hd r hst
        exact ⟨.idle, .move (.ret ..), hpc⟩

/-! ### Parties whose points say how far an operation has come -/

/-- What a step of a system is for one of its parties, if a point says by itself whether it is one
of an operation without effect (`pending`), and whether the next step returns (`last`). -/
inductive CodeStep (O : AtomicObject ι τ Op Ret) (abs : σ → τ) (pc : σ → ι → P) (idle : P)
    (pending : P → Op → Prop) (last : P → Option Ret) (s s' : σ) (i : ι) :
    List (Visible ι Op Ret) → Prop
  | quiet (hx : abs s' = abs s) (hpc : pc s' i = pc s i) :
      CodeStep O abs pc idle pending last s s' i []
  | call {op : Op} (hx : abs s' = abs s) (hpc : pc s i = idle) (hp : pending (pc s' i) op) :
      CodeStep O abs pc idle pending last s s' i [.call i op]
  | run (hpc : pc s i ≠ idle)
      (hp : ∀ x₀ op, pending (pc s i) op →
        Advances O i x₀ (abs s) op (abs s') (pending (pc s' i) op) (last (pc s' i) = some ·))
      (hl : ∀ r, last (pc s i) = some r → abs s' = abs s ∧ pc s' i = idle) :
      CodeStep O abs pc idle pending last s s' i ((last (pc s i)).map (Visible.ret i)).toList

/-- The steps of the code of a party are those of its point. -/
lemma CodeStep.pointStep {O : AtomicObject ι τ Op Ret} {abs : σ → τ} {pc : σ → ι → P} {idle : P}
    {pending : P → Op → Prop} {last : P → Option Ret} {s s' : σ} {i : ι}
    {es : List (Visible ι Op Ret)} (h : CodeStep O abs pc idle pending last s s' i es)
    (hpending : ∀ p op, pending p op → last p = none) :
    PointStep O abs pc idle (fun _ _ => pending) (last · = some ·) s s' i es := by
  cases h with
  | quiet hx hpc => exact .quiet hx hpc fun _ _ => id
  | call hx hpc hp => exact .call hx hpc hp
  | run hpc hp hl =>
    cases hlast : last (pc s i) with
    | none =>
      refine .run hpc hp fun r hr => ?_
      rw [hlast] at hr
      cases hr
    | some r =>
      obtain ⟨hx, hidle⟩ := hl r hlast
      refine .ret hx hidle (fun x₀ op hop => ?_) (fun r' hr => ?_) hpc
      · rw [hpending _ _ hop] at hlast
        cases hlast
      · exact (Option.some.inj (hlast.symm.trans hr)).symm

/-- The rule of linearizability for parties whose points say how far an operation has come. -/
theorem linearizable_of_last [DecidableEq ι] {O : AtomicObject ι τ Op Ret} (abs : σ → τ)
    (pc : σ → ι → P) (idle : P) (pending : P → Op → Prop) (last : P → Option Ret)
    (hstart : ∀ s, A.start s → O.start (abs s) ∧ ∀ i, pc s i = idle)
    (hidle : ∀ op, ¬ pending idle op) (hlast : last idle = none)
    (hpending : ∀ p op, pending p op → last p = none)
    (hstep : ∀ s l s', A.Reachable s → A.next s l = some s' →
      ∃ i, CodeStep O abs pc idle pending last s s' i (see s l) ∧ ∀ j, j ≠ i → pc s' j = pc s j) :
    A.Linearizable see O := by
  refine linearizable_of_points abs pc idle (fun _ _ => pending) (last · = some ·) hstart
    (fun _ _ => hidle) (fun r hr => ?_) fun s l s' hreach hs => ?_
  · rw [hlast] at hr
    cases hr
  · obtain ⟨i, hi, hothers⟩ := hstep s l s' hreach hs
    exact ⟨i, hi.pointStep hpending, fun j hj => ⟨hothers j hj, fun _ _ => id⟩⟩

end

end System

end Transition
