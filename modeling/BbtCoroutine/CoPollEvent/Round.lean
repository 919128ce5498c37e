import BbtCoroutine.CoPollEvent.OneShot

/-!
# One round of an event

The clients of `CoPollEvent` that park coroutines need no more of an event than its
`Round`: whether it is registered, whether the park is committed, and the mask of the
trigger that won it.  `Trigger`, `Regist`, `CommitPark` and `UnRegist` act on a round
in one step each, and a trigger of a parked round delivers its mask at once.

`round_simulates` connects this view with the interleaved event: each atomic access of
`CoPollEvent.system` is matched by at most one of these steps.
-/

namespace BbtCoroutine

open Transition

/-- The state of an event as its clients see it. -/
inductive Round
  | inited
  | armed
  | parked
  | pending (m : EventMask)
  | final (m : EventMask)
  | cancelled
  deriving DecidableEq, Repr

namespace Round

/-- A trigger can still win the round. -/
def undecided : Round → Bool
  | inited | armed | parked => true
  | _ => false

/-- `Trigger`; it returns `0` exactly on an undecided round. -/
def trigger (m : EventMask) : Round → Round
  | inited | armed => pending m
  | parked => final m
  | r => r

/-- `Regist`; it returns `0` on a fresh round and on one that is already won. -/
def regist : Round → Round
  | inited => armed
  | r => r

/-- `Regist` returns `0`. -/
def registOk : Round → Bool
  | inited | pending _ => true
  | _ => false

/-- `CommitPark`. -/
def commitPark : Round → Round
  | armed => parked
  | pending m => final m
  | r => r

/-- `UnRegist`, and what a failed `Regist` does to a fresh round. -/
def unRegist : Round → Round
  | inited | armed | parked => cancelled
  | r => r

/-- The mask of the trigger that won the round. -/
def won : Round → Option EventMask
  | pending m | final m => some m
  | _ => none

/-- The steps of a round. -/
inductive Action
  | trigger (m : EventMask)
  | regist
  | commitPark
  | unRegist

/-- The effect of a step on a round. -/
def act : Action → Round → Round
  | .trigger m => trigger m
  | .regist => regist
  | .commitPark => commitPark
  | .unRegist => unRegist

/-- The transition system of one round. -/
def system : System Round Action where
  start r := r = inited
  next r a := some (act a r)

@[simp] lemma won_trigger_of_undecided {r : Round} {m : EventMask} (h : r.undecided = true) :
    (r.trigger m).won = some m := by
  cases r <;> first | rfl | cases h

/-- A round that somebody has won is decided. -/
lemma undecided_of_won {r : Round} {m : EventMask} (h : r.won = some m) :
    r.undecided = false := by
  cases r <;> first | rfl | cases h

/-- A trigger does nothing to a decided round. -/
lemma trigger_of_not_undecided {r : Round} {m : EventMask} (h : r.undecided = false) :
    r.trigger m = r := by
  cases r <;> first | rfl | cases h

@[simp] lemma undecided_trigger (r : Round) (m : EventMask) :
    (r.trigger m).undecided = false := by
  cases r <;> rfl

@[simp] lemma undecided_commitPark (r : Round) : r.commitPark.undecided = r.undecided := by
  cases r <;> rfl

@[simp] lemma won_commitPark (r : Round) : r.commitPark.won = r.won := by
  cases r <;> rfl

/-- The round is not registered yet. -/
def early : Round → Bool
  | inited | pending _ => true
  | _ => false

/-- The round is registered, but its park is not committed. -/
def registered : Round → Bool
  | armed | pending _ => true
  | _ => false

/-- When a round is early. -/
lemma early_iff {r : Round} : r.early = true ↔ r = inited ∨ ∃ m, r = pending m := by
  cases r <;> simp [early]

/-- A trigger leaves an early round early. -/
lemma early_trigger {r : Round} (m : EventMask) (h : r.early = true) :
    (r.trigger m).early = true := by
  cases r <;> first | rfl | cases h

/-- A trigger leaves a registered round registered. -/
lemma registered_trigger {r : Round} (m : EventMask) (h : r.registered = true) :
    (r.trigger m).registered = true := by
  cases r <;> first | rfl | cases h

@[simp] lemma trigger_final (m n : EventMask) : (final m).trigger n = final m := rfl

@[simp] lemma trigger_cancelled (n : EventMask) : cancelled.trigger n = cancelled := rfl

/-- A triggered round is not parked. -/
lemma trigger_ne_parked (r : Round) (m : EventMask) : r.trigger m ≠ parked := by
  cases r <;> nofun

end Round

namespace CoPollEvent

variable {ι : Type*}

/-- The round of an outcome: it is won at the exchange, and its mask delivered from the
moment the event is being completed. -/
def Outcome.round : Outcome ι → Round
  | inited | arming => .inited
  | armed => .armed
  | parked _ => .parked
  | pending _ m => .pending m
  | completing _ _ m _ _ | completed _ _ m => .final m
  | unRegisting _ _ | unRegisted _ _ | registFailed _ => .cancelled

/-- A move of the outcome is at most one step of its round. -/
lemma Outcome.Move.round {o o' : Outcome ι} (h : Move o o') :
    o'.round = o.round ∨ ∃ a, o'.round = Round.act a o.round := by
  cases h with
  | arming => exact .inl rfl
  | armed => exact .inr ⟨.regist, rfl⟩
  | parked k => exact .inr ⟨.commitPark, rfl⟩
  | pending i m ho => exact .inr ⟨.trigger m, by cases ho <;> rfl⟩
  | triggered i k m => exact .inr ⟨.trigger m, rfl⟩
  | consumed i k m => exact .inr ⟨.commitPark, rfl⟩
  | stored i k m b => exact .inl rfl
  | completed i k m b => exact .inl rfl
  | unRegisting i ho => exact .inr ⟨.unRegist, by cases ho <;> rfl⟩
  | unRegisted i c => exact .inl rfl
  | registFailed i => exact .inr ⟨.unRegist, rfl⟩

/-- The interleaved event is simulated by its round. -/
theorem round_simulates [DecidableEq ι] :
    Simulation (system ι) Round.system fun s r => ∃ o, Inv s o ∧ o.round = r where
  start := by
    rintro s rfl
    obtain ⟨o, ho⟩ := exists_inv (System.Reachable.start (A := system ι) rfl)
    have hw := congrArg getCoPollEventPhase ho.word
    rw [Outcome.phase_word] at hw
    have : o = .inited := Outcome.phase_eq_inited (Option.some.inj
      (hw.symm.trans (getCoPollEventPhase_pack _ _)))
    exact ⟨.inited, rfl, o, ho, by rw [this]; rfl⟩
  step := by
    rintro s l s' r _ ⟨o, ho, rfl⟩ hs
    obtain ⟨o', hm, ho'⟩ := ho.next hs
    rcases hm with rfl | hm
    · exact .inl ⟨_, ho', rfl⟩
    · rcases hm.round with hr | ⟨a, hr⟩
      · exact .inl ⟨o', ho', hr⟩
      · exact .inr ⟨a, _, rfl, o', ho', hr⟩

end CoPollEvent

end BbtCoroutine
