import BbtCoroutine.CoPoller.Model
import Mathlib.Data.List.Count

/-!
# Events die on the driver thread

An event that was created has one reference besides that of a running handler, until it is
destroyed: the pointer of its owner moves through `DeferDestroyEvent` into the list and from
there into the driver's hands.  So a handler never drops the last one, and the driver does
it in `_BeginDrive` or `FlushDeferredEvents`, outside the dispatch.  The task of an
`_EventHelper` breaks the chain: it drops the pointer of the owner on a worker
(`not_diesOnDriver`).
-/

namespace BbtCoroutine.CoPoller

open Transition

variable {T E : Type*} [DecidableEq E] {s s' : State T E} {t : T} {e e' : E}

/-- Where the events that were deferred before the present poll step are. -/
def State.Due (s : State T E) : Prop :=
  match s.stage with
  | .idle => True
  | .began => ∀ e ∈ s.due, e ∈ s.deferredDestroy
  | .releasing => ∀ e ∈ s.due, e ∈ s.taken ∨ (s.event e).destroyed.length = 1
  | .polling => ∀ e ∈ s.due, (s.event e).destroyed.length = 1

omit [DecidableEq E] in
/-- Nothing that a step does within a stage loses a deferred event. -/
lemma State.Due.mono (h : s.Due) (hstage : s'.stage = s.stage) (hdue : s'.due = s.due)
    (hdeferred : ∀ e ∈ s.deferredDestroy, s.stage = .began → e ∈ s'.deferredDestroy)
    (htaken : ∀ e ∈ s.taken, e ∈ s'.taken ∨ (s'.event e).destroyed.length = 1)
    (hdestroyed : ∀ e, (s.event e).destroyed.length = 1 → (s'.event e).destroyed.length = 1) :
    s'.Due := by
  unfold State.Due at h ⊢
  rw [hstage, hdue]
  cases hs : s.stage with
  | idle => trivial
  | began =>
    rw [hs] at h
    exact fun e he => hdeferred e (h e he) hs
  | releasing =>
    rw [hs] at h
    intro e he
    rcases h e he with hmem | hone
    · exact htaken e hmem
    · exact .inr (hdestroyed e hone)
  | polling =>
    rw [hs] at h
    exact fun e he => hdestroyed e (h e he)

/-- The invariant of the poller. -/
structure Inv (s : State T E) : Prop where
  one : ∀ e, s.held e + (s.event e).destroyed.length = (s.event e).created.toNat
  place : ∀ e, ∀ d ∈ (s.event e).destroyed, s.driverTid = some d.thread ∧ d.inDispatch = false
  handler : ∀ e, s.handler = some e → s.stage = .polling ∧ s.held e = 1
  taken : s.taken ≠ [] → s.driverTid ≠ none ∧ s.stage ≠ .polling
  driver : s.stage ≠ .idle → s.driverTid ≠ none
  due : s.Due

namespace State

@[simp] lemma setEvent_event_self (s : State T E) (e : E) (v : Event T) :
    (s.setEvent e v).event e = v :=
  Function.update_self _ _ _

/-- Setting an event leaves the others alone. -/
lemma setEvent_event_of_ne (s : State T E) (h : e' ≠ e) (v : Event T) :
    (s.setEvent e v).event e' = s.event e' :=
  Function.update_of_ne h _ _

/-- Who holds an event after it has been set. -/
lemma held_setEvent_self (s : State T E) (e : E) (v : Event T) :
    (s.setEvent e v).held e = v.owner.toNat + v.hand.isSome.toNat + s.deferredDestroy.count e +
      s.taken.count e := by
  rw [held, setEvent_event_self]
  rfl

/-- Who holds the others after an event has been set. -/
lemma held_setEvent_of_ne (s : State T E) (h : e' ≠ e) (v : Event T) :
    (s.setEvent e v).held e' = s.held e' := by
  rw [held, held, setEvent_event_of_ne s h v]
  rfl

end State

namespace Inv

/-- An event is held at most once. -/
lemma held_le (h : Inv s) (e : E) : s.held e ≤ 1 := by
  have hone := h.one e
  have hle := Bool.toNat_le (s.event e).created
  omega

/-- An event that is held was created and has not been destroyed. -/
lemma of_held (h : Inv s) (hheld : s.held e ≠ 0) :
    s.held e = 1 ∧ (s.event e).created = true ∧ (s.event e).destroyed = [] := by
  have hone := h.one e
  have hle := Bool.toNat_le (s.event e).created
  refine ⟨by omega, ?_, List.length_eq_zero_iff.mp (by omega)⟩
  cases hc : (s.event e).created with
  | true => rfl
  | false =>
    rw [hc, Bool.toNat_false] at hone
    omega

/-- A step that leaves the lists, the stage and the record of the destructions as they are. -/
lemma update (h : Inv s) (v : Event T) (hheld : (s.setEvent e v).held e + v.destroyed.length =
      v.created.toNat) (hdestroyed : v.destroyed = (s.event e).destroyed)
    (hhandler : s.handler = some e → (s.setEvent e v).held e = 1) : Inv (s.setEvent e v) := by
  have hsame : ∀ e', ((s.setEvent e v).event e').destroyed = (s.event e').destroyed := by
    intro e'
    by_cases he : e' = e
    · subst he
      rw [State.setEvent_event_self, hdestroyed]
    · rw [State.setEvent_event_of_ne s he]
  refine ⟨fun e' => ?_, fun e' d hd => ?_, fun e' he' => ?_, h.taken, h.driver, ?_⟩
  · by_cases he : e' = e
    · subst he
      rw [State.setEvent_event_self]
      exact hheld
    · rw [State.setEvent_event_of_ne s he, State.held_setEvent_of_ne s he]
      exact h.one e'
  · rw [hsame e'] at hd
    exact h.place e' d hd
  · obtain ⟨hstage, hone⟩ := h.handler e' he'
    refine ⟨hstage, ?_⟩
    by_cases he : e' = e
    · subst he
      exact hhandler he'
    · rw [State.held_setEvent_of_ne s he]
      exact hone
  · exact h.due.mono rfl rfl (fun _ he' _ => he') (fun e' he' => .inl he') fun e' hone => by
      rwa [hsame e']

/-- A step that moves references, so that every event is held as before. -/
lemma keep (h : Inv s) (hheld : ∀ e, s'.held e = s.held e)
    (hcreated : ∀ e, (s'.event e).created = (s.event e).created)
    (hdestroyed : ∀ e, (s'.event e).destroyed = (s.event e).destroyed)
    (htid : s'.driverTid = s.driverTid) (hstage : s'.stage = s.stage)
    (hhandler : s'.handler = s.handler) (hdue : s'.due = s.due)
    (hdeferred : ∀ e ∈ s.deferredDestroy, s.stage = .began → e ∈ s'.deferredDestroy)
    (htaken : ∀ e ∈ s.taken, e ∈ s'.taken)
    (hnew : s'.taken ≠ [] → s.driverTid ≠ none ∧ s.stage ≠ .polling) : Inv s' where
  one e := by
    rw [hheld, hdestroyed, hcreated]
    exact h.one e
  place e d hd := by
    rw [hdestroyed] at hd
    rw [htid]
    exact h.place e d hd
  handler e he := by
    rw [hhandler] at he
    rw [hstage, hheld]
    exact h.handler e he
  taken hne := by
    rw [htid, hstage]
    exact hnew hne
  driver hne := by
    rw [hstage] at hne
    rw [htid]
    exact h.driver hne
  due := h.due.mono hstage hdue hdeferred (fun e he => .inl (htaken e he)) fun e hone => by
    rwa [hdestroyed]

/-- A handler runs only in the dispatch. -/
lemma handler_eq_none (h : Inv s) (hstage : s.stage ≠ .polling) : s.handler = none := by
  cases hs : s.handler with
  | none => rfl
  | some e => exact absurd (h.handler e hs).1 hstage

/-- A step that changes an event without moving a reference to it. -/
lemma keep_setEvent (h : Inv s) {v : Event T}
    (hheld : v.owner.toNat + v.hand.isSome.toNat =
      (s.event e).owner.toNat + (s.event e).hand.isSome.toNat)
    (hcreated : v.created = (s.event e).created)
    (hdestroyed : v.destroyed = (s.event e).destroyed) : Inv (s.setEvent e v) := by
  have hother : ∀ e', e' ≠ e → (s.setEvent e v).event e' = s.event e' := fun e' he =>
    State.setEvent_event_of_ne s he v
  refine h.keep (fun e' => ?_) (fun e' => ?_) (fun e' => ?_) rfl rfl rfl rfl
    (fun _ he _ => he) (fun _ he => he) h.taken
  · by_cases he : e' = e
    · subst he
      rw [State.held_setEvent_self, State.held, hheld]
    · exact State.held_setEvent_of_ne s he v
  · by_cases he : e' = e
    · subst he
      rw [State.setEvent_event_self, hcreated]
    · rw [hother e' he]
  · by_cases he : e' = e
    · subst he
      rw [State.setEvent_event_self, hdestroyed]
    · rw [hother e' he]

/-- An event is created, and its owner holds it. -/
lemma create (h : Inv s) (kind : Owner) (hcreated : (s.event e).created = false) :
    Inv (s.setEvent e { created := true, kind := kind, owner := true }) := by
  have hone := h.one e
  rw [hcreated, Bool.toNat_false] at hone
  have hheld : s.held e = 0 := by omega
  have hnone : (s.event e).destroyed = [] := List.length_eq_zero_iff.mp (by omega)
  have hnew : (s.setEvent e { created := true, kind := kind, owner := true }).held e = 1 := by
    rw [State.held_setEvent_self]
    simp only [State.held] at hheld
    simp only [Bool.toNat_true, Option.isSome_none, Bool.toNat_false]
    omega
  refine h.update _ ?_ hnone.symm fun _ => hnew
  rw [hnew]
  rfl

/-- `_CannelAllFdEvent` moves the pointer of the owner. -/
lemma cannel (h : Inv s) (t : T) (howner : (s.event e).owner = true) :
    Inv (s.setEvent e { s.event e with owner := false, hand := some t }) := by
  have hle := h.held_le e
  have hhand : (s.event e).hand.isSome = false := by
    cases hs : (s.event e).hand.isSome with
    | false => rfl
    | true =>
      simp only [State.held, howner, hs, Bool.toNat_true] at hle
      omega
  refine h.keep_setEvent ?_ rfl rfl
  rw [howner, hhand]
  rfl

/-- `DeferDestroyEvent` puts the event on the list. -/
lemma deferDestroy (h : Inv s) (hhand : (s.event e).hand = some t) :
    Inv { s.setEvent e { s.event e with hand := none } with
      deferredDestroy := s.deferredDestroy ++ [e] } := by
  refine h.keep (fun e' => ?_) (fun e' => ?_) (fun e' => ?_) rfl rfl rfl rfl
    (fun _ he _ => List.mem_append_left _ he) (fun _ he => he) h.taken
  · by_cases he : e' = e
    · subst he
      simp only [State.held, State.setEvent, Function.update_self, hhand, List.count_append,
        List.count_singleton_self, Option.isSome_none, Option.isSome_some, Bool.toNat_false,
        Bool.toNat_true]
      omega
    · simp only [State.held, State.setEvent, Function.update_of_ne he, List.count_append,
        List.count_singleton, beq_iff_eq, if_neg (Ne.symm he), Nat.add_zero]
  · by_cases he : e' = e
    · subst he
      simp only [State.setEvent, Function.update_self]
    · simp only [State.setEvent, Function.update_of_ne he]
  · by_cases he : e' = e
    · subst he
      simp only [State.setEvent, Function.update_self]
    · simp only [State.setEvent, Function.update_of_ne he]

/-- The driver takes the list. -/
lemma take (h : Inv s) (hstage : s.stage = .began) :
    Inv { s with
      deferredDestroy := [], taken := s.taken ++ s.deferredDestroy, stage := .releasing } := by
  have hdriver : s.driverTid ≠ none := h.driver (by rw [hstage]; decide)
  refine ⟨fun e => ?_, h.place, fun e he => ?_, fun _ => ⟨hdriver, by simp⟩, fun _ => hdriver, ?_⟩
  · have hone := h.one e
    simp only [State.held, List.count_append, List.count_nil] at hone ⊢
    omega
  · have hpoll := (h.handler e he).1
    rw [hstage] at hpoll
    cases hpoll
  · have hdue := h.due
    rw [State.Due, hstage] at hdue
    exact fun e he => .inl (List.mem_append_right _ (hdue e he))

/-- The driver destroys, outside the dispatch, an event that was held. -/
lemma destroy {d : T} (h : Inv s) (hheld : s.held e = 1) (hdriver : s.driverTid = some d)
    (hstage : s.stage ≠ .polling)
    (hothers : ∀ e', e' ≠ e → s'.event e' = s.event e' ∧ s'.held e' = s.held e')
    (hgone : s'.held e = 0) (hcreated : (s'.event e).created = (s.event e).created)
    (hdestroyed : (s'.event e).destroyed = (s.event e).destroyed ++ [⟨d, false⟩])
    (htid : s'.driverTid = s.driverTid) (hstage' : s'.stage = s.stage)
    (hhandler : s'.handler = s.handler) (hdue : s'.due = s.due)
    (hdeferred : s'.deferredDestroy = s.deferredDestroy)
    (htaken : ∀ e' ∈ s.taken, e' ≠ e → e' ∈ s'.taken) (hsub : s'.taken ≠ [] → s.taken ≠ []) :
    Inv s' := by
  obtain ⟨-, hc, hnone⟩ := h.of_held (by omega : s.held e ≠ 0)
  rw [hnone, List.nil_append] at hdestroyed
  have hquiet := h.handler_eq_none hstage
  refine ⟨fun e' => ?_, fun e' d' hd' => ?_, fun e' he' => ?_, fun hne => ?_, fun hne => ?_, ?_⟩
  · by_cases he : e' = e
    · subst he
      rw [hgone, hdestroyed, hcreated, hc]
      rfl
    · rw [(hothers e' he).1, (hothers e' he).2]
      exact h.one e'
  · rw [htid]
    by_cases he : e' = e
    · subst he
      rw [hdestroyed, List.mem_singleton] at hd'
      subst hd'
      exact ⟨hdriver, rfl⟩
    · rw [(hothers e' he).1] at hd'
      exact h.place e' d' hd'
  · rw [hhandler, hquiet] at he'
    cases he'
  · rw [htid, hstage']
    exact h.taken (hsub hne)
  · rw [htid]
    exact h.driver (by rwa [hstage'] at hne)
  · refine h.due.mono hstage' hdue (fun e' he' _ => by rwa [hdeferred]) (fun e' he' => ?_)
      fun e' hone => ?_
    · by_cases he : e' = e
      · subst he
        rw [hdestroyed]
        exact .inr rfl
      · exact .inl (htaken e' he' he)
    · by_cases he : e' = e
      · subst he
        rw [hdestroyed]
        rfl
      · rwa [(hothers e' he).1]

end Inv

variable [DecidableEq T]

/-- Outside the dispatch the last reference destroys the event. -/
lemma State.release_of_last {d : T} (hlast : s.held e = 0) (hhandler : s.handler = none)
    (hstage : s.stage ≠ .polling) :
    s.release d e = s.setEvent e { s.event e with
      destroyed := (s.event e).destroyed ++ [⟨d, false⟩] } := by
  have hout : decide (s.driverTid = some d ∧ s.stage = .polling) = false :=
    decide_eq_false fun hin => hstage hin.2
  rw [State.release, if_pos ⟨hlast, by rw [hhandler]; simp⟩, hout]

namespace Inv

/-- `FlushDeferredEvents` takes the list on the driver thread outside the dispatch. -/
lemma flush (h : Inv s) (t : T) (hstage : s.stage ≠ .began) : Inv (s.flushDeferredEvents t) := by
  unfold State.flushDeferredEvents
  split_ifs with hdriver hpoll
  · exact h.keep (fun _ => rfl) (fun _ => rfl) (fun _ => rfl) rfl rfl rfl rfl (fun _ he _ => he)
      (fun _ he => he) h.taken
  · exact h.keep (fun _ => rfl) (fun _ => rfl) (fun _ => rfl) rfl rfl rfl rfl (fun _ he _ => he)
      (fun _ he => he) h.taken
  · refine h.keep (fun e => ?_) (fun _ => rfl) (fun _ => rfl) rfl rfl rfl rfl
      (fun _ _ hb => absurd hb hstage) (fun _ he => List.mem_append_left _ he) fun _ => ⟨?_, hpoll⟩
    · simp only [State.held, List.count_append, List.count_nil]
      omega
    · rw [not_not.mp hdriver]
      simp

/-- The driver drops an event that it has taken. -/
lemma drop {d : T} (h : Inv s) (hmem : e ∈ s.taken) (hdriver : s.driverTid = some d) :
    Inv ({ s with taken := s.taken.erase e }.release d e) := by
  have hstage : s.stage ≠ .polling := (h.taken (List.ne_nil_of_mem hmem)).2
  have hcount : 0 < s.taken.count e := List.count_pos_iff.mpr hmem
  have hheld : s.held e = 1 := by
    have hle := h.held_le e
    simp only [State.held] at hle ⊢
    omega
  have hgone : ({ s with taken := s.taken.erase e } : State T E).held e = 0 := by
    simp only [State.held, List.count_erase_self] at hheld ⊢
    omega
  rw [State.release_of_last hgone (h.handler_eq_none hstage) hstage]
  refine h.destroy hheld hdriver hstage (fun e' he => ⟨?_, ?_⟩) ?_ ?_ ?_ rfl rfl rfl rfl rfl
    (fun e' he' hne => (List.mem_erase_of_ne hne).mpr he') fun _ => List.ne_nil_of_mem hmem
  · exact State.setEvent_event_of_ne _ he _
  · rw [State.held_setEvent_of_ne _ he]
    simp only [State.held, List.count_erase_of_ne he]
  · rw [State.held_setEvent_self]
    exact hgone
  · rw [State.setEvent_event_self]
  · rw [State.setEvent_event_self]

/-- The driver cannot defer an event, and drops it outside the dispatch. -/
lemma dropHand (h : Inv s) (hhand : (s.event e).hand = some t) (hdriver : s.driverTid = some t)
    (hstage : s.stage ≠ .polling) :
    Inv ((s.setEvent e { s.event e with hand := none }).release t e) := by
  have hheld : s.held e = 1 := by
    have hle := h.held_le e
    simp only [State.held, hhand, Option.isSome_some, Bool.toNat_true] at hle ⊢
    omega
  have hgone : (s.setEvent e { s.event e with hand := none }).held e = 0 := by
    rw [State.held_setEvent_self]
    simp only [State.held, hhand, Option.isSome_some, Bool.toNat_true] at hheld
    simp only [Option.isSome_none, Bool.toNat_false]
    omega
  rw [State.release_of_last hgone (h.handler_eq_none hstage) hstage]
  refine h.destroy hheld hdriver hstage (fun e' he => ⟨?_, ?_⟩) ?_ ?_ ?_ rfl rfl rfl rfl rfl
    (fun e' he' _ => he') id
  · rw [State.setEvent_event_of_ne _ he, State.setEvent_event_of_ne _ he]
  · rw [State.held_setEvent_of_ne _ he, State.held_setEvent_of_ne _ he]
  · rw [State.held_setEvent_self, State.setEvent_event_self]
    rw [State.held_setEvent_self] at hgone
    exact hgone
  · rw [State.setEvent_event_self, State.setEvent_event_self]
  · rw [State.setEvent_event_self, State.setEvent_event_self]

/-- Every step of the condition keeps the invariant. -/
lemma step {l : Label T E} (h : Inv s) (hl : Proper s l) (hs : next s l = some s') : Inv s' := by
  cases l with
  | create e kind =>
    rw [next] at hs
    split_ifs at hs with hcreated
    obtain rfl := Option.some.inj hs
    exact h.create kind hcreated
  | cannel t e =>
    simp only [next] at hs
    split_ifs at hs with hkind howner
    · obtain rfl := Option.some.inj hs
      exact h.cannel t howner
    · obtain rfl := Option.some.inj hs
      exact h
  | deferDestroy t e oom =>
    simp only [next] at hs
    split_ifs at hs with hhand hoom
    · obtain rfl := Option.some.inj hs
      subst hoom
      obtain ⟨hdriver, hstage⟩ := hl rfl
      exact h.dropHand hhand hdriver hstage
    · obtain rfl := Option.some.inj hs
      exact h.deferDestroy hhand
  | beginDrive t =>
    rw [next] at hs
    split_ifs at hs with hidle
    obtain rfl := Option.some.inj hs
    obtain ⟨hstage, htaken, htid⟩ := hidle
    refine ⟨h.one, fun e d hd => ?_, fun e he => ?_, fun hne => absurd htaken hne, by simp,
      fun _ he => he⟩
    · obtain ⟨hplace, hout⟩ := h.place e d hd
      refine ⟨?_, hout⟩
      rcases htid with hnone | hsame
      · rw [hnone] at hplace
        cases hplace
      · rwa [← hsame]
    · have hpoll := (h.handler e he).1
      rw [hstage] at hpoll
      cases hpoll
  | take =>
    rw [next] at hs
    split_ifs at hs with hstage
    obtain rfl := Option.some.inj hs
    exact h.take hstage
  | drop e =>
    rw [next] at hs
    split_ifs at hs with hmem
    obtain ⟨d, hdriver, rfl⟩ := Option.map_eq_some_iff.mp hs
    exact h.drop hmem hdriver
  | poll =>
    rw [next] at hs
    split_ifs at hs with hready
    obtain rfl := Option.some.inj hs
    obtain ⟨hstage, htaken⟩ := hready
    have hdriver : s.driverTid ≠ none := h.driver (by rw [hstage]; decide)
    refine ⟨h.one, h.place, fun e he => ?_, fun hne => absurd htaken hne, fun _ => hdriver, ?_⟩
    · have hpoll := (h.handler e he).1
      rw [hstage] at hpoll
      cases hpoll
    · have hdue := h.due
      rw [State.Due, hstage] at hdue
      intro e he
      rcases hdue e he with hmem | hone
      · rw [htaken] at hmem
        cases hmem
      · exact hone
  | handle e =>
    rw [next] at hs
    split_ifs at hs with hready
    obtain rfl := Option.some.inj hs
    obtain ⟨hstage, -, hheld⟩ := hready
    refine ⟨h.one, h.place, fun e' he' => ⟨hstage, ?_⟩, h.taken, h.driver, h.due⟩
    obtain rfl : e = e' := Option.some.inj he'
    exact (h.of_held hheld).1
  | submit =>
    rw [next] at hs
    obtain ⟨e, -, hs⟩ := Option.bind_eq_some_iff.mp hs
    simp only at hs
    split_ifs at hs
    obtain rfl := Option.some.inj hs
    exact h.keep_setEvent rfl rfl rfl
  | leave =>
    rw [next] at hs
    obtain ⟨e, hhandler, hs⟩ := Option.bind_eq_some_iff.mp hs
    obtain ⟨d, hdriver, rfl⟩ := Option.map_eq_some_iff.mp hs
    have hheld : ({ s with handler := none } : State T E).held e = 1 := (h.handler e hhandler).2
    -- The list or the owner still holds the event, so the handler does not destroy it.
    rw [State.release, if_neg fun hlast => by omega]
    exact ⟨h.one, h.place, fun e' he' => (by cases he'), h.taken, h.driver, h.due⟩
  | endPoll =>
    rw [next] at hs
    split_ifs at hs with hready
    obtain rfl := Option.some.inj hs
    refine ⟨h.one, h.place, fun e he => ?_, fun hne => ⟨(h.taken hne).1, by simp⟩,
      fun hne => absurd rfl hne, trivial⟩
    rw [show s.handler = some e from he] at hready
    cases hready.2
  | flush t =>
    rw [next] at hs
    split_ifs at hs with hstage
    obtain rfl := Option.some.inj hs
    exact h.flush t hstage
  | reset t e =>
    have howner : (s.event e).owner = false := hl
    simp only [next, howner, Bool.false_eq_true, if_false] at hs
    split_ifs at hs
    obtain rfl := Option.some.inj hs
    exact h.keep_setEvent (by rw [howner]) rfl rfl

end Inv

/-- The invariant holds in every state of a run of proper steps. -/
lemma inv_of_reachable (h : (system T E).ReachableWhen Proper s) : Inv s := by
  refine h.induct (I := Inv) ?_ fun s l s' hi hl hs => hi.step hl hs
  rintro s rfl
  exact ⟨fun _ => rfl, fun _ _ hd => (by cases hd), fun _ he => (by cases he),
    fun hne => absurd rfl hne, fun hne => absurd rfl hne, trivial⟩

/-- Where, how often and when the events of the poller are destroyed. -/
structure DiesOnDriver (s : State T E) : Prop where
  /-- The last reference is dropped by the driver thread, outside the dispatch. -/
  place : ∀ e, ∀ d ∈ (s.event e).destroyed, s.driverTid = some d.thread ∧ d.inDispatch = false
  once : ∀ e, (s.event e).destroyed.length ≤ 1
  alive : ∀ e, s.held e ≠ 0 ∨ s.handler = some e → (s.event e).destroyed = []
  /-- What was deferred when the poll step began is destroyed before its dispatch. -/
  due : s.stage = .polling → ∀ e ∈ s.due, (s.event e).destroyed.length = 1

/-- In a run in which no task of an `_EventHelper` gives its event up, and every event can be
deferred, the events die on the driver thread. -/
theorem diesOnDriver_of_reachable (h : (system T E).ReachableWhen Proper s) : DiesOnDriver s := by
  have hi := inv_of_reachable h
  refine ⟨hi.place, fun e => ?_, fun e he => ?_, fun hstage => ?_⟩
  · have hone := hi.one e
    have hle := Bool.toNat_le (s.event e).created
    omega
  · rcases he with hheld | hhandler
    · exact (hi.of_held hheld).2.2
    · exact (hi.of_held (by rw [(hi.handler e hhandler).2]; decide)).2.2
  · have hdue := hi.due
    rw [State.Due, hstage] at hdue
    exact hdue

/-- The event of a wait is deferred by its handler and destroyed by the next poll step. -/
theorem diesOnDriver_deferred : ∃ s : State ℕ ℕ,
    (s.stage = .polling ∧ (s.event 0).destroyed = [⟨0, false⟩]) ∧ DiesOnDriver s := by
  have hrun : (system ℕ ℕ).endsInWhen Proper {}
      [.create 0 .coPollEvent, .beginDrive 0, .take, .poll, .handle 0, .cannel 0 0,
        .deferDestroy 0 0 false, .leave, .endPoll, .beginDrive 0, .take, .drop 0, .poll]
      (fun s => s.stage = .polling ∧ (s.event 0).destroyed = [⟨0, false⟩]) = true := by
    decide
  obtain ⟨s, hs, hend⟩ := System.exists_of_endsInWhen rfl hrun
  exact ⟨s, hend, diesOnDriver_of_reachable hs⟩

/-- The task of a helper destroys the event on its own thread, or leaves the last reference to the
handler, in the dispatch. -/
theorem not_diesOnDriver :
    (∃ s : State ℕ ℕ, (system ℕ ℕ).Reachable s ∧ s.driverTid = some 0 ∧
      (s.event 0).destroyed = [⟨1, false⟩] ∧ ¬ DiesOnDriver s) ∧
    ∃ s : State ℕ ℕ, (system ℕ ℕ).Reachable s ∧ s.driverTid = some 0 ∧
      (s.event 0).destroyed = [⟨0, true⟩] ∧ ¬ DiesOnDriver s := by
  have hworker : (system ℕ ℕ).endsIn {}
      [.create 0 .eventHelper, .beginDrive 0, .take, .poll, .handle 0, .submit, .leave, .reset 1 0]
      (fun s => s.driverTid = some 0 ∧ (s.event 0).destroyed = [⟨1, false⟩]) = true := by
    decide
  have hdispatch : (system ℕ ℕ).endsIn {}
      [.create 0 .eventHelper, .beginDrive 0, .take, .poll, .handle 0, .submit, .reset 1 0, .leave]
      (fun s => s.driverTid = some 0 ∧ (s.event 0).destroyed = [⟨0, true⟩]) = true := by
    decide
  obtain ⟨s, hs, htid, hdestroyed⟩ := System.exists_of_endsIn rfl hworker
  obtain ⟨s', hs', htid', hdestroyed'⟩ := System.exists_of_endsIn rfl hdispatch
  refine ⟨⟨s, hs, htid, hdestroyed, fun hdies => ?_⟩, s', hs', htid', hdestroyed', fun hdies => ?_⟩
  · have hplace := (hdies.place 0 ⟨1, false⟩ (by rw [hdestroyed]; exact List.mem_cons_self)).1
    rw [htid] at hplace
    cases hplace
  · have hplace := (hdies.place 0 ⟨0, true⟩ (by rw [hdestroyed']; exact List.mem_cons_self)).2
    cases hplace

end BbtCoroutine.CoPoller
