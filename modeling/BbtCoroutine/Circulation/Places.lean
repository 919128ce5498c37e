import BbtCoroutine.Circulation.Model
import BbtCoroutine.Transition.Placement

/-!
# Where the coroutines are

A live coroutine is in a run queue, in a global queue, in the hand of a thread that moves it,
on a worker that resumes it, or parked.  `State.count` says how often it is at such a place, and
`Lives` that each live coroutine is at one of them, once.  The lemmas say how each part of a
step of the scheduler changes the places, and that `Lives` is kept.
-/

namespace BbtCoroutine.Circulation

open Transition Scheduler OnYield

variable {Th Wk Co : Type*}

/-! ## Places -/

/-- The coroutine that a thread has in its hand. -/
def Frame.hand : Frame Co Wk → Option Co
  | .regist co | .balance co _ | .discard co | .globalize _ co _ => some co
  | .admission (.release true) _ _ _ _ => none
  | .admission _ _ _ co _ => some co
  | _ => none

/-- The coroutine that a worker resumes, until its yield is committed. -/
def Loop.resumes : Loop Co Wk → Option Co
  | .running _ co | .commit _ co _ => some co
  | _ => none

/-- A place where a coroutine may be. -/
inductive Place (Th Wk : Type*)
  | localQueue (p : Wk)
  | globalQueue (pr : Priority)
  | hand (a : Agent Th Wk)
  | running (p : Wk)
  | parked
  deriving DecidableEq

variable [DecidableEq Th] [DecidableEq Wk] [DecidableEq Co]

/-- How often the coroutine is at a place. -/
def State.count (s : State Th Wk Co) (co : Co) : Place Th Wk → ℕ
  | .localQueue p => (s.coroutineQueue p).count co
  | .globalQueue pr => (s.globalQueue pr).count co
  | .hand a => if (s.frame a).hand = some co then 1 else 0
  | .running p => if (s.loop p).resumes = some co then 1 else 0
  | .parked => (s.parked co).toNat

/-- Each live coroutine is at one place, once. -/
def Lives (s : State Th Wk Co) : Prop :=
  Placed (fun co => s.life co = .live) s.count

variable {s t : State Th Wk Co} {a : Agent Th Wk} {p : Wk} {co u : Co} {f : Frame Co Wk}
  {l : Loop Co Wk} {pr : Priority}

omit [DecidableEq Co] in
@[simp]
lemma frame_goto_self : (s.goto a f).frame a = f :=
  Function.update_self ..

omit [DecidableEq Co] in
/-- The other agents stay at their frames. -/
lemma frame_goto_of_ne {b : Agent Th Wk} (h : b ≠ a) : (s.goto a f).frame b = s.frame b :=
  Function.update_of_ne h ..

omit [DecidableEq Th] [DecidableEq Co] in
@[simp]
lemma loop_goLoop_self : (s.goLoop p l).loop p = l :=
  Function.update_self ..

omit [DecidableEq Th] [DecidableEq Co] in
/-- The other loops stay where they are. -/
lemma loop_goLoop_of_ne {q : Wk} (h : q ≠ p) : (s.goLoop p l).loop q = s.loop q :=
  Function.update_of_ne h ..

/-! ## What the parts of a step do to the places -/

/-- A coroutine that an agent takes in hand or gives away. -/
lemma count_goto : (s.goto a f).count u =
    Function.update (s.count u) (.hand a) (if f.hand = some u then 1 else 0) := by
  funext x
  cases x with
  | hand b =>
    by_cases hb : b = a
    · subst hb
      simp [State.count, State.goto]
    · simp [State.count, State.goto, Function.update_of_ne, hb]
  | _ => rw [Function.update_of_ne (by simp)]; rfl

/-- A coroutine that a loop begins or ceases to run. -/
lemma count_goLoop : (s.goLoop p l).count u =
    Function.update (s.count u) (.running p) (if l.resumes = some u then 1 else 0) := by
  funext x
  cases x with
  | running q =>
    by_cases hq : q = p
    · subst hq
      simp [State.count, State.goLoop]
    · simp [State.count, State.goLoop, Function.update_of_ne, hq]
  | _ => rw [Function.update_of_ne (by simp)]; rfl

omit [DecidableEq Th] [DecidableEq Wk] in
/-- One more at the end of a queue. -/
lemma count_append_one (q : List Co) (co u : Co) :
    (q ++ [co]).count u = q.count u + if u = co then 1 else 0 := by
  by_cases hu : u = co
  · simp [hu]
  · simp [hu, Ne.symm hu]

omit [DecidableEq Th] [DecidableEq Wk] in
/-- One less in a queue. -/
lemma count_erase_one (q : List Co) (co u : Co) :
    (q.erase co).count u = q.count u - if u = co then 1 else 0 := by
  by_cases hu : u = co
  · simp [hu]
  · simp [hu, List.count_erase_of_ne]

/-- Linking puts the coroutine into the local queue once more. -/
lemma count_link : (s.link p pr co).count u = Function.update (s.count u) (.localQueue p)
    (s.count u (.localQueue p) + if u = co then 1 else 0) := by
  funext x
  cases x with
  | localQueue q =>
    by_cases hq : q = p
    · subst hq
      simp only [State.count, State.link, Function.update_self, count_append_one]
    · simp [State.count, State.link, Function.update_of_ne, hq]
  | _ => rw [Function.update_of_ne (by simp)]; rfl

/-- Taking removes the coroutine from the local queue once. -/
lemma count_take : (s.take p co).count u = Function.update (s.count u) (.localQueue p)
    (s.count u (.localQueue p) - if u = co then 1 else 0) := by
  funext x
  cases x with
  | localQueue q =>
    by_cases hq : q = p
    · subst hq
      simp only [State.count, State.take, Function.update_self, count_erase_one]
    · simp [State.count, State.take, Function.update_of_ne, hq]
  | _ => rw [Function.update_of_ne (by simp)]; rfl

omit [DecidableEq Th] in
/-- Picking places as taking does. -/
lemma count_pick : (s.pick p co).count u = (s.take p co).count u :=
  rfl

/-- Enqueueing puts the coroutine into the global queue once more. -/
lemma count_enqueueGlobal : (s.enqueueGlobal pr co).count u =
    Function.update (s.count u) (.globalQueue pr)
      (s.count u (.globalQueue pr) + if u = co then 1 else 0) := by
  funext x
  cases x with
  | globalQueue q =>
    by_cases hq : q = pr
    · subst hq
      simp only [State.count, State.enqueueGlobal, Function.update_self, count_append_one]
    · simp [State.count, State.enqueueGlobal, Function.update_of_ne, hq]
  | _ => rw [Function.update_of_ne (by simp)]; rfl

/-- Dequeueing removes the coroutine from the global queue once. -/
lemma count_dequeueGlobal : (s.dequeueGlobal pr co).count u =
    Function.update (s.count u) (.globalQueue pr)
      (s.count u (.globalQueue pr) - if u = co then 1 else 0) := by
  funext x
  cases x with
  | globalQueue q =>
    by_cases hq : q = pr
    · subst hq
      simp only [State.count, State.dequeueGlobal, Function.update_self, count_erase_one]
    · simp [State.count, State.dequeueGlobal, Function.update_of_ne, hq]
  | _ => rw [Function.update_of_ne (by simp)]; rfl

/-- A coroutine is or is not in its wait. -/
lemma count_setParked (b : Bool) : (s.setParked co b).count u =
    Function.update (s.count u) .parked (if u = co then b.toNat else s.count u .parked) := by
  funext x
  cases x with
  | parked =>
    by_cases hu : u = co
    · subst hu
      simp [State.count, State.setParked]
    · simp [State.count, State.setParked, Function.update_of_ne, hu]
  | _ => rw [Function.update_of_ne (by simp)]; rfl

/-! ### Hands and workers -/

/-- The thread goes on with the same coroutine in its hand. -/
lemma count_goto_same (h : f.hand = (s.frame a).hand) : (s.goto a f).count = s.count := by
  funext u
  rw [count_goto, h]
  exact Function.update_eq_self ..

/-- The thread takes the coroutine in its hand. -/
lemma count_goto_put (h : (s.frame a).hand = none) (hf : f.hand = some co) :
    (s.goto a f).count u = Function.update (s.count u) (.hand a)
      (s.count u (.hand a) + if u = co then 1 else 0) := by
  rw [count_goto, hf]
  simp [State.count, h, eq_comm]

/-- The thread lets go of the coroutine. -/
lemma count_goto_take (h : (s.frame a).hand = some co) (hf : f.hand = none) :
    (s.goto a f).count u = Function.update (s.count u) (.hand a)
      (s.count u (.hand a) - if u = co then 1 else 0) := by
  rw [count_goto, hf]
  by_cases hu : u = co
  · simp [State.count, h, hu]
  · simp [State.count, h, hu, Ne.symm hu]

/-- The worker goes on with the same coroutine, or with none. -/
lemma count_goLoop_same (h : l.resumes = (s.loop p).resumes) : (s.goLoop p l).count = s.count := by
  funext u
  rw [count_goLoop, h]
  exact Function.update_eq_self ..

/-- The worker begins to resume the coroutine. -/
lemma count_goLoop_put (h : (s.loop p).resumes = none) (hl : l.resumes = some co) :
    (s.goLoop p l).count u = Function.update (s.count u) (.running p)
      (s.count u (.running p) + if u = co then 1 else 0) := by
  rw [count_goLoop, hl]
  simp [State.count, h, eq_comm]

/-- The worker is done with the coroutine. -/
lemma count_goLoop_take (h : (s.loop p).resumes = some co) (hl : l.resumes = none) :
    (s.goLoop p l).count u = Function.update (s.count u) (.running p)
      (s.count u (.running p) - if u = co then 1 else 0) := by
  rw [count_goLoop, hl]
  by_cases hu : u = co
  · simp [State.count, h, hu]
  · simp [State.count, h, hu, Ne.symm hu]

/-- Parking puts the coroutine into its wait once more. -/
lemma count_park (h : s.parked co = false) : (s.setParked co true).count u =
    Function.update (s.count u) .parked (s.count u .parked + if u = co then 1 else 0) := by
  rw [count_setParked]
  by_cases hu : u = co
  · simp [State.count, h, hu]
  · simp [hu]

/-- Unparking takes the coroutine out of its wait. -/
lemma count_unpark (h : s.parked co = true) : (s.setParked co false).count u =
    Function.update (s.count u) .parked (s.count u .parked - if u = co then 1 else 0) := by
  rw [count_setParked]
  by_cases hu : u = co
  · simp [State.count, h, hu]
  · simp [hu]

end BbtCoroutine.Circulation
