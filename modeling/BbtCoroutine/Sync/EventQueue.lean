import BbtCoroutine.CoPollEvent.Round

/-!
# Queues of events

A primitive may queue the events of its waiters themselves.  To notify one waiter it pops
events until one is triggered with effect; null slots and events whose round is over are
dropped on the way.
-/

namespace BbtCoroutine

/-! ## One round, later -/

/-- The round `r'` is `r` at a later point: a round that is over stays as it was decided. -/
structure Round.Later (r r' : Round) : Prop where
  undecided : r'.undecided = true → r.undecided = true
  won : ∀ m, r.won = some m → r'.won = some m
  final : ∀ m, r = .final m → r' = .final m

namespace Round

/-- A round may stay as it is. -/
lemma Later.refl (r : Round) : Later r r :=
  ⟨id, fun _ h => h, fun _ h => h⟩

/-- Moving on is transitive. -/
lemma Later.trans {r r' r'' : Round} (h : Later r r') (h' : Later r' r'') : Later r r'' where
  undecided hu := h.undecided (h'.undecided hu)
  won m hm := h'.won m (h.won m hm)
  final m hm := h'.final m (h.final m hm)

/-- An action moves a round on. -/
lemma later_act (a : Action) (r : Round) : Later r (act a r) := by
  refine ⟨fun hu => ?_, fun m hm => ?_, fun m hm => ?_⟩
  · cases a <;> cases r <;> first | rfl | cases hu
  · cases r with
    | pending k | final k => cases a <;> exact hm
    | _ => cases hm
  · subst hm
    cases a <;> rfl

@[simp] lemma undecided_unRegist (r : Round) : r.unRegist.undecided = false := by
  cases r <;> rfl

end Round

/-! ## The queue -/

variable {ι : Type*} [DecidableEq ι]

/-- Events are popped until one is triggered with effect. -/
def triggerOneIn (m : EventMask) :
    List (Option ι) → (ι → Round) → List (Option ι) × (ι → Round)
  | [], r => ([], r)
  | none :: q, r => triggerOneIn m q r
  | some e :: q, r =>
    if (r e).undecided then (q, Function.update r e ((r e).trigger m)) else triggerOneIn m q r

/-- The first event of the queue whose round is undecided is triggered, and those before it are
dropped; if there is none the queue is emptied. -/
lemma triggerOneIn_cases (m : EventMask) (q : List (Option ι)) (r : ι → Round) :
    (∃ dead e rest, q = dead ++ some e :: rest ∧
      (∀ d, some d ∈ dead → (r d).undecided = false) ∧ (r e).undecided = true ∧
      triggerOneIn m q r = (rest, Function.update r e ((r e).trigger m))) ∨
    (∀ e, some e ∈ q → (r e).undecided = false) ∧ triggerOneIn m q r = ([], r) := by
  induction q with
  | nil =>
    right
    exact ⟨fun e he => absurd he List.not_mem_nil, rfl⟩
  | cons slot q ih =>
    have hcons : (∀ d, some d ∈ [slot] → (r d).undecided = false) →
        triggerOneIn m (slot :: q) r = triggerOneIn m q r →
        (∃ dead e rest, slot :: q = dead ++ some e :: rest ∧
          (∀ d, some d ∈ dead → (r d).undecided = false) ∧ (r e).undecided = true ∧
          triggerOneIn m (slot :: q) r = (rest, Function.update r e ((r e).trigger m))) ∨
        (∀ e, some e ∈ slot :: q → (r e).undecided = false) ∧
          triggerOneIn m (slot :: q) r = ([], r) := by
      intro hslot hq
      rw [hq]
      rcases ih with ⟨dead, e, rest, rfl, hdead, he, heq⟩ | ⟨hall, heq⟩
      · refine .inl ⟨slot :: dead, e, rest, rfl, ?_, he, heq⟩
        intro d hd
        rcases List.mem_cons.mp hd with hd | hd
        · exact hslot d (List.mem_singleton.mpr hd)
        · exact hdead d hd
      · refine .inr ⟨?_, heq⟩
        intro d hd
        rcases List.mem_cons.mp hd with hd | hd
        · exact hslot d (List.mem_singleton.mpr hd)
        · exact hall d hd
    cases slot with
    | none =>
      apply hcons _ rfl
      intro d hd
      cases List.mem_singleton.mp hd
    | some e =>
      by_cases he : (r e).undecided = true
      · exact .inl ⟨[], e, q, rfl, fun d hd => absurd hd List.not_mem_nil, he, if_pos he⟩
      · apply hcons _ (if_neg he)
        intro d hd
        cases List.mem_singleton.mp hd
        exact Bool.eq_false_iff.mpr he

/-- Popping leaves every event at a later point of its round. -/
lemma triggerOneIn_later (m : EventMask) (q : List (Option ι)) (r : ι → Round) (e : ι) :
    (r e).Later ((triggerOneIn m q r).2 e) := by
  rcases triggerOneIn_cases m q r with ⟨dead, d, rest, -, -, -, heq⟩ | ⟨-, heq⟩
  · rw [heq]
    by_cases he : e = d
    · subst he
      change (r e).Later (Function.update r e _ e)
      rw [Function.update_self]
      exact Round.later_act (.trigger m) _
    · change (r e).Later (Function.update r d _ e)
      rw [Function.update_of_ne he]
      exact Round.Later.refl _
  · rw [heq]
    exact Round.Later.refl _

/-- What is left of the queue was in it, and what can still be triggered is left. -/
lemma mem_triggerOneIn {m : EventMask} {q : List (Option ι)} {r : ι → Round} :
    (∀ e, e ∈ (triggerOneIn m q r).1 → e ∈ q) ∧
      ∀ e, some e ∈ q → ((triggerOneIn m q r).2 e).undecided = true →
        some e ∈ (triggerOneIn m q r).1 := by
  rcases triggerOneIn_cases m q r with ⟨dead, d, rest, rfl, hdead, -, heq⟩ | ⟨hall, heq⟩
  · rw [heq]
    refine ⟨fun e he => List.mem_append_right _ (List.mem_cons_of_mem _ he), fun e he hu => ?_⟩
    change (Function.update r d _ e).undecided = true at hu
    have hne : e ≠ d := by
      rintro rfl
      rw [Function.update_self, Round.undecided_trigger] at hu
      cases hu
    rw [Function.update_of_ne hne] at hu
    rcases List.mem_append.mp he with he | he
    · rw [hdead e he] at hu
      cases hu
    · exact (List.mem_cons.mp he).resolve_left fun h => hne (Option.some.inj h)
  · rw [heq]
    refine ⟨fun e he => absurd he List.not_mem_nil, fun e he hu => ?_⟩
    rw [hall e he] at hu
    cases hu

end BbtCoroutine
