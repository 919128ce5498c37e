import BbtCoroutine.GlobalPull.Model
import Mathlib.Data.List.Perm.Basic

/-!
# Pulls from the global queues are fair

The cursor goes round the priorities, from one call to the next, so no priority is passed over.  A
call that stays below its limit has found four queues in a row dry, unless the worker was retired
when it was called.  Every coroutine that is taken comes into the local queue or goes back.
-/

namespace BbtCoroutine.GlobalPull

open Transition

variable {Co : Type*} [DecidableEq Co]

/-! ## Statement -/

/-- The steps of the worker in a call, except for an `enqueue` that fails. -/
def Label.works : Label Co → ℕ
  | .probe _ | .admitItem _ | .putBack true | .ret => 1
  | _ => 0

/-- A call begins. -/
def Label.isCall : Label Co → Bool
  | .call => true
  | _ => false

/-- How often a coroutine is in the queues, in the hand of the worker and with others. -/
def State.holds (s : State Co) (item : Co) : ℕ :=
  (∑ p, (s.globalQueue p).count item) + s.coroutineQueue.count item + s.pc.hand.count item +
    s.moved.count item

/-- The pulls are fair.  Four probes in a row visit every priority once, and a queue that holds
something at each of `n` probes in a row supplies `n / 4` of them.  A call stays below its limit
only if its last four probes were dry or the worker was not admitted; then it took nothing, without
a probe.  A call is not admitted only if the worker is retired when it is made.  No coroutine is
lost or doubled.  A call can always go on, and ends after a bounded number of steps. -/
structure Fair (limit : ℕ) (s : State Co) : Prop where
  rotation : ∀ w, w <:+: s.probes → w.length = coPriorityCount →
    ∀ p, w.countP (fun pr => pr.priority = p) = 1
  supply : ∀ w, w <:+: s.probes → ∀ p, (∀ pr ∈ w, pr.found p = true) →
    w.length / coPriorityCount ≤ w.countP fun pr => pr.priority = p ∧ pr.item.isSome = true
  result : ∀ k ∈ s.calls, k.alreadyCount = k.probes.countP fun pr => !pr.dry
  stop : ∀ k ∈ s.calls, k.alreadyCount < limit → k.admitted = false ∨
    ∃ pre last, k.probes = pre ++ last ∧ last.length = coPriorityCount ∧
      ∀ pr ∈ last, pr.dry = true
  refused : ∀ k ∈ s.calls, k.admitted = false → k.probes = [] ∧ k.alreadyCount = 0
  admits : ∀ s', next limit s .call = some s' → s.admissionOpen = true →
    s'.pc = .loop ∧ s'.calls = s.calls
  retired : ∀ l s' k, next limit s l = some s' → s'.calls = s.calls ++ [k] →
    k.admitted = false → l.isCall = true ∧ s.admissionOpen = false
  kept : ∀ item, s.holds item = s.enqueued.count item
  goesOn : s.pc ≠ .idle → ∃ l : Label Co, l.works = 1 ∧ (next limit s l).isSome = true
  ends : ∀ ls s', (system Co limit).runWhen (fun _ l => l.isCall = false) s ls = some s' →
    (ls.map Label.works).sum ≤ 3 * (5 * limit + coPriorityCount) + 2

/-! ## The cursor -/

section Rotation

variable {w : List (Probe Co)}

/-- Each probe is of the priority where the cursor went from the one before. -/
def Rotates (l : List (Probe Co)) : Prop :=
  l.IsChain fun a b => b.priority = pullNext a.priority

omit [DecidableEq Co] in
/-- Four probes in a row are one of each priority. -/
lemma countP_of_rotates (h : Rotates w) (hlen : w.length = coPriorityCount)
    (p : CoroutinePriority) : w.countP (fun pr => pr.priority = p) = 1 := by
  have hround : ∀ a p : CoroutinePriority,
      [a, pullNext a, pullNext (pullNext a), pullNext (pullNext (pullNext a))].countP
        (fun q => q = p) = 1 := by
    decide
  obtain ⟨a, b, c, d, rfl⟩ := List.length_eq_four.mp hlen
  obtain ⟨hab, h⟩ := List.isChain_cons_cons.mp h
  obtain ⟨hbc, h⟩ := List.isChain_cons_cons.mp h
  obtain ⟨hcd, -⟩ := List.isChain_cons_cons.mp h
  have hmap := hround a.priority p
  rw [← hab, ← hbc, ← hcd] at hmap
  rw [← hmap]
  exact (List.countP_map (p := fun q => decide (q = p)) (f := Probe.priority)
    (l := [a, b, c, d])).symm

omit [DecidableEq Co] in
/-- A queue that supplies whenever it is probed supplies one probe in four. -/
lemma div_le_countP (w : List (Probe Co)) {p : CoroutinePriority} (h : Rotates w)
    (hsome : ∀ pr ∈ w, pr.priority = p → pr.item.isSome = true) :
    w.length / coPriorityCount ≤ w.countP fun pr => pr.priority = p ∧ pr.item.isSome = true := by
  rcases lt_or_ge w.length coPriorityCount with hlt | hge
  · rw [Nat.div_eq_of_lt hlt]
    exact Nat.zero_le _
  · have htake : (w.take coPriorityCount).length = coPriorityCount := List.length_take_of_le hge
    have hone := countP_of_rotates
      ( List.IsChain.infix h (List.take_prefix coPriorityCount w).isInfix) htake p
    have hrest := div_le_countP (w.drop coPriorityCount) (p := p) (List.IsChain.drop h _)
      fun pr hpr => hsome pr (List.mem_of_mem_drop hpr)
    have hfirst : (w.take coPriorityCount).countP (fun pr => pr.priority = p) ≤
        (w.take coPriorityCount).countP
          fun pr => pr.priority = p ∧ pr.item.isSome = true := by
      refine List.countP_mono_left ?_
      intro pr hpr hp
      have hp' := of_decide_eq_true hp
      exact decide_eq_true ⟨hp', hsome pr (List.mem_of_mem_take hpr) hp'⟩
    have hsum : w.countP (fun pr => pr.priority = p ∧ pr.item.isSome = true) =
        (w.take coPriorityCount).countP (fun pr => pr.priority = p ∧ pr.item.isSome = true) +
          (w.drop coPriorityCount).countP (fun pr => pr.priority = p ∧ pr.item.isSome = true) := by
      rw [← List.countP_append, List.take_append_drop]
    rw [List.length_drop] at hrest
    have hdiv : w.length / coPriorityCount = (w.length - coPriorityCount) / coPriorityCount + 1 :=
      Nat.div_eq_sub_div (Nat.succ_pos 3) hge
    omega
termination_by w.length
decreasing_by
  rw [List.length_drop]
  exact Nat.sub_lt ((Nat.succ_pos 3).trans_le hge) (Nat.succ_pos 3)

end Rotation

/-! ## What a step does -/

section Effect

variable {limit : ℕ} {s s' : State Co} {l : Label Co}

/-- The cursor is moved for the next probe. -/
def State.advance (s : State Co) : State Co :=
  { s with globalPullPriority := pullNext s.globalPullPriority }

/-- A probe that takes `item`. -/
def State.takenProbe (s : State Co) (item : Co) : Probe Co :=
  ⟨s.globalPullPriority, s.found, some item, false⟩

/-- What a step does. -/
inductive Effect (limit : ℕ) (s : State Co) : Label Co → State Co → Prop
  | call (hpc : s.pc = .idle) : Effect limit s .call s.call
  | empty {i} (hpc : s.pc = .loop) (hgo : s.goesOn limit = true)
      (hqueue : s.globalQueue s.globalPullPriority = []) :
      Effect limit s (.probe i)
        (s.advance.iterate ⟨s.globalPullPriority, s.found, none, false⟩ 0)
  | take {i item} (hpc : s.pc = .loop) (hgo : s.goesOn limit = true)
      (hqueue : (s.globalQueue s.globalPullPriority)[i]? = some item) :
      Effect limit s (.probe i)
        { s.advance.setQueue s.globalPullPriority
            ((s.globalQueue s.globalPullPriority).eraseIdx i) with
          pc := .admitItem item (s.takenProbe item) }
  | accept {linked item probe} (hpc : s.pc = .admitItem item probe) :
      Effect limit s (.admitItem linked)
        ({ s with coroutineQueue := s.coroutineQueue ++ [item] }.iterate probe 1)
  | refuse {linked item probe} (hpc : s.pc = .admitItem item probe) :
      Effect limit s (.admitItem linked)
        { s with pc := .putBack item { probe with refused := true } }
  | putBack {item probe} (hpc : s.pc = .putBack item probe) :
      Effect limit s (.putBack true)
        ((s.setQueue probe.priority (s.globalQueue probe.priority ++ [item])).iterate probe 0)
  | putBackFails {item probe} (hpc : s.pc = .putBack item probe) :
      Effect limit s (.putBack false) s
  | ret (hpc : s.pc = .loop) (hgo : s.goesOn limit = false) : Effect limit s .ret (s.ret true)
  | enqueue {p item} :
      Effect limit s (.enqueue p item)
        { s.setQueue p (s.globalQueue p ++ [item]) with enqueued := s.enqueued ++ [item] }
  | dequeue {p i item} (hqueue : (s.globalQueue p)[i]? = some item) :
      Effect limit s (.dequeue p i)
        { s.setQueue p ((s.globalQueue p).eraseIdx i) with moved := s.moved ++ [item] }
  | steal {i item} (hqueue : s.coroutineQueue[i]? = some item) :
      Effect limit s (.steal i)
        { s with coroutineQueue := s.coroutineQueue.eraseIdx i, moved := s.moved ++ [item] }
  | retire : Effect limit s .retire { s with admissionOpen := false }

omit [DecidableEq Co] in
/-- The steps, one by one. -/
lemma effect_of_next (h : next limit s l = some s') : Effect limit s l s' := by
  cases l with
  | call =>
    rw [next] at h
    split at h
    · next hpc =>
      cases h
      exact .call hpc
    · cases h
  | probe i =>
    rw [next] at h
    split at h
    · next hpc =>
      split at h
      · next hgo =>
        unfold State.probe at h
        dsimp only at h
        split at h
        · next hqueue =>
          cases h
          exact .empty hpc hgo hqueue
        · obtain ⟨item, hitem, rfl⟩ := Option.map_eq_some_iff.mp h
          exact .take hpc hgo hitem
      · cases h
    · cases h
  | admitItem linked =>
    rw [next] at h
    split at h
    · next item probe hpc =>
      cases h
      unfold State.admitItem
      split
      · exact .refuse hpc
      · exact .accept hpc
    · cases h
  | putBack ok =>
    rw [next] at h
    split at h
    · next item probe hpc =>
      cases h
      cases ok with
      | true => exact .putBack hpc
      | false => exact .putBackFails hpc
    · cases h
  | ret =>
    rw [next] at h
    split at h
    · next hpc =>
      split at h
      · cases h
      · next hgo =>
        cases h
        exact .ret hpc (Bool.eq_false_iff.mpr hgo)
    · cases h
  | enqueue p item =>
    cases h
    exact .enqueue
  | dequeue p i =>
    obtain ⟨item, hitem, rfl⟩ := Option.map_eq_some_iff.mp h
    exact .dequeue hitem
  | steal i =>
    obtain ⟨item, hitem, rfl⟩ := Option.map_eq_some_iff.mp h
    exact .steal hitem
  | retire =>
    cases h
    exact .retire

end Effect

/-! ## The probes -/

section Turns

variable {limit : ℕ} {s s' : State Co} {l : Label Co} {log : List (Probe Co)}
  {cursor : CoroutinePriority} {pr : Probe Co}

/-- The probe that has taken a coroutine but has not come to its end. -/
def Pc.pending : Pc Co → List (Probe Co)
  | .admitItem _ probe | .putBack _ probe => [probe]
  | _ => []

/-- The probes have gone round, the cursor is next, and a probe takes something if there is
something. -/
structure Turns (log : List (Probe Co)) (cursor : CoroutinePriority) : Prop where
  rotates : Rotates log
  cursor : ∀ pr ∈ log.getLast?, cursor = pullNext pr.priority
  took : ∀ pr ∈ log, pr.item.isSome = pr.found pr.priority

section

omit [DecidableEq Co]

/-- One more probe, of the queue whose turn it is. -/
lemma Turns.append (h : Turns log cursor) (hp : pr.priority = cursor)
    (htook : pr.item.isSome = pr.found pr.priority) : Turns (log ++ [pr]) (pullNext cursor) where
  rotates := by
    refine List.isChain_append.mpr ⟨h.rotates, .singleton pr, ?_⟩
    rintro a ha b hb
    obtain rfl := Option.some.inj hb
    exact hp.trans (h.cursor a ha)
  cursor := by
    intro a ha
    rw [List.getLast?_concat] at ha
    obtain rfl := Option.some.inj ha
    rw [hp]
  took := by
    intro a ha
    rcases List.mem_append.mp ha with ha | ha
    · exact h.took a ha
    · rwa [List.mem_singleton.mp ha]

/-- Whether the last coroutine is refused does not matter. -/
lemma Turns.refuse (h : Turns (log ++ [pr]) cursor) :
    Turns (log ++ [{ pr with refused := true }]) cursor where
  rotates := by
    obtain ⟨hlog, -, hlast⟩ := List.isChain_append.mp h.rotates
    refine List.isChain_append.mpr ⟨hlog, .singleton _, ?_⟩
    rintro a ha b hb
    obtain rfl := Option.some.inj hb
    exact hlast a ha pr rfl
  cursor := by
    intro a ha
    rw [List.getLast?_concat] at ha
    obtain rfl := Option.some.inj ha
    exact h.cursor pr List.getLast?_concat
  took := by
    intro a ha
    rcases List.mem_append.mp ha with ha | ha
    · exact h.took a (List.mem_append_left _ ha)
    · rw [List.mem_singleton.mp ha]
      exact h.took pr (List.mem_append_right _ (List.mem_singleton_self _))

/-- A step keeps the turns of the queues. -/
lemma turns_next (h : Turns (s.probes ++ s.pc.pending) s.globalPullPriority)
    (hs : next limit s l = some s') :
    Turns (s'.probes ++ s'.pc.pending) s'.globalPullPriority := by
  cases effect_of_next hs with
  | call hpc =>
    rw [hpc] at h
    unfold State.call
    split <;> exact h
  | empty hpc hgo hqueue =>
    rw [hpc] at h
    change Turns (s.probes ++ []) s.globalPullPriority at h
    change Turns (s.probes ++ [_] ++ []) (pullNext s.globalPullPriority)
    rw [List.append_nil] at h ⊢
    refine h.append rfl ?_
    change false = !(s.globalQueue s.globalPullPriority).isEmpty
    rw [hqueue]
    rfl
  | @take i item hpc hgo hqueue =>
    rw [hpc] at h
    change Turns (s.probes ++ []) s.globalPullPriority at h
    rw [List.append_nil] at h
    refine h.append rfl ?_
    change true = !(s.globalQueue s.globalPullPriority).isEmpty
    have hmem := List.mem_of_getElem? hqueue
    rw [List.isEmpty_eq_false_iff.mpr (List.ne_nil_of_mem hmem)]
    rfl
  | accept hpc | putBack hpc =>
    rw [hpc] at h
    change Turns (s.probes ++ [_] ++ []) s.globalPullPriority
    rwa [List.append_nil]
  | refuse hpc =>
    rw [hpc] at h
    exact h.refuse
  | ret hpc hgo =>
    rw [hpc] at h
    exact h
  | putBackFails _ | enqueue | dequeue _ | steal _ | retire => exact h

end

end Turns

/-! ## The coroutines -/

section Kept

variable {limit : ℕ} {s s' : State Co} {l : Label Co} {item a : Co}

/-- What a queue loses or gains the queues lose or gain. -/
lemma sum_count_update (f : CoroutinePriority → List Co) (p : CoroutinePriority) (q : List Co)
    (a : Co) : (∑ r, (Function.update f p q r).count a) + (f p).count a =
      (∑ r, (f r).count a) + q.count a := by
  have hother : ∑ r ∈ Finset.univ.erase p, (Function.update f p q r).count a =
      ∑ r ∈ Finset.univ.erase p, (f r).count a := by
    refine Finset.sum_congr rfl ?_
    intro r hr
    rw [Function.update_of_ne (Finset.ne_of_mem_erase hr)]
  rw [← Finset.add_sum_erase _ _ (Finset.mem_univ p),
    ← Finset.add_sum_erase _ _ (Finset.mem_univ p),
    hother, Function.update_self]
  omega

/-- A coroutine that is taken out of a list. -/
lemma count_eraseIdx {q : List Co} {i : ℕ} (h : q[i]? = some item) (a : Co) :
    q.count a = (q.eraseIdx i).count a + [item].count a := by
  obtain ⟨hi, rfl⟩ := List.getElem?_eq_some_iff.mp h
  rw [← (List.getElem_cons_eraseIdx_perm hi).count_eq a, List.count_cons, List.count_singleton]

/-- A step keeps the number of places of each coroutine. -/
lemma holds_next (hs : next limit s l = some s') (a : Co)
    (h : s.holds a = s.enqueued.count a) : s'.holds a = s'.enqueued.count a := by
  unfold State.holds at h ⊢
  cases effect_of_next hs with
  | call hpc =>
    rw [hpc] at h
    unfold State.call
    split <;> exact h
  | empty hpc hgo hqueue | ret hpc hgo =>
    rw [hpc] at h
    exact h
  | @take i item hpc hgo hqueue =>
    rw [hpc] at h
    change _ + _ + ([] : List Co).count a + _ = _ at h
    change (∑ r, (Function.update s.globalQueue _ _ r).count a) + s.coroutineQueue.count a +
      [item].count a + s.moved.count a = s.enqueued.count a
    have hsum := sum_count_update s.globalQueue s.globalPullPriority
      ((s.globalQueue s.globalPullPriority).eraseIdx i) a
    have hitem := count_eraseIdx hqueue a
    rw [List.count_nil] at h
    omega
  | @accept linked item probe hpc =>
    rw [hpc] at h
    change _ + _ + [item].count a + _ = _ at h
    change (∑ r, (s.globalQueue r).count a) + (s.coroutineQueue ++ [item]).count a +
      ([] : List Co).count a + s.moved.count a = s.enqueued.count a
    rw [List.count_append, List.count_nil]
    omega
  | refuse hpc =>
    rw [hpc] at h
    exact h
  | @putBack item probe hpc =>
    rw [hpc] at h
    change _ + _ + [item].count a + _ = _ at h
    change (∑ r, (Function.update s.globalQueue _ _ r).count a) + s.coroutineQueue.count a +
      ([] : List Co).count a + s.moved.count a = s.enqueued.count a
    have hsum := sum_count_update s.globalQueue probe.priority
      (s.globalQueue probe.priority ++ [item]) a
    rw [List.count_append] at hsum
    rw [List.count_nil]
    omega
  | @enqueue p item =>
    change (∑ r, (Function.update s.globalQueue _ _ r).count a) + s.coroutineQueue.count a +
      s.pc.hand.count a + s.moved.count a = (s.enqueued ++ [item]).count a
    have hsum := sum_count_update s.globalQueue p (s.globalQueue p ++ [item]) a
    rw [List.count_append] at hsum ⊢
    omega
  | @dequeue p i item hqueue =>
    change (∑ r, (Function.update s.globalQueue _ _ r).count a) + s.coroutineQueue.count a +
      s.pc.hand.count a + (s.moved ++ [item]).count a = s.enqueued.count a
    have hsum := sum_count_update s.globalQueue p ((s.globalQueue p).eraseIdx i) a
    have hitem := count_eraseIdx hqueue a
    rw [List.count_append]
    omega
  | @steal i item hqueue =>
    change (∑ r, (s.globalQueue r).count a) + (s.coroutineQueue.eraseIdx i).count a +
      s.pc.hand.count a + (s.moved ++ [item]).count a = s.enqueued.count a
    have hitem := count_eraseIdx hqueue a
    rw [List.count_append]
    omega
  | putBackFails _ | retire => exact h

end Kept

/-! ## The counters -/

section Counted

variable {limit : ℕ} {s s' : State Co} {l : Label Co} {n e : ℕ} {log : List (Probe Co)}
  {pr : Probe Co}

/-- The last four probes were dry. -/
def RunsDry (log : List (Probe Co)) : Prop :=
  ∃ pre last, log = pre ++ last ∧ last.length = coPriorityCount ∧ ∀ pr ∈ last, pr.dry = true

/-- The counters `already_count` and `empty_levels` of a call with the probes `log`. -/
structure Counts (n e : ℕ) (log : List (Probe Co)) : Prop where
  already : n = log.countP fun pr => !pr.dry
  levels : e ≤ coPriorityCount
  empty : ∃ pre last, log = pre ++ last ∧ last.length = e ∧ ∀ pr ∈ last, pr.dry = true

section

omit [DecidableEq Co]

/-- No probe counts for nothing. -/
lemma counts_nil : Counts 0 0 ([] : List (Probe Co)) :=
  ⟨rfl, Nat.zero_le _, [], [], rfl, rfl, fun _ h => absurd h List.not_mem_nil⟩

/-- A dry probe. -/
lemma Counts.dry (h : Counts n e log) (hpr : pr.dry = true) (he : e < coPriorityCount) :
    Counts n (e + 1) (log ++ [pr]) where
  already := by
    rw [List.countP_append, h.already, List.countP_singleton, hpr]
    rfl
  levels := he
  empty := by
    obtain ⟨pre, last, rfl, rfl, hlast⟩ := h.empty
    refine ⟨pre, last ++ [pr], List.append_assoc _ _ _, List.length_append, ?_⟩
    intro a ha
    rcases List.mem_append.mp ha with ha | ha
    · exact hlast a ha
    · rwa [List.mem_singleton.mp ha]

/-- A probe that brings a coroutine. -/
lemma Counts.came (h : Counts n e log) (hpr : pr.dry = false) : Counts (n + 1) 0 (log ++ [pr]) where
  already := by
    rw [List.countP_append, h.already, List.countP_singleton, hpr]
    rfl
  levels := Nat.zero_le _
  empty := ⟨log ++ [pr], [], (List.append_nil _).symm, rfl, fun _ h => absurd h List.not_mem_nil⟩

/-- A loop that ends below the limit has run dry. -/
lemma Counts.runsDry (h : Counts n e log) (he : ¬e < coPriorityCount) : RunsDry log := by
  obtain ⟨pre, last, hlog, hlen, hlast⟩ := h.empty
  exact ⟨pre, last, hlog, hlen.trans (h.levels.antisymm (not_lt.mp he)), hlast⟩

end

/-- The counters are right, and so are the results of the calls that have returned. -/
structure Counted (limit : ℕ) (s : State Co) : Prop where
  counts : Counts s.alreadyCount s.emptyLevels s.callProbes
  admitItem : ∀ item pr, s.pc = .admitItem item pr → pr.dry = false
  putBack : ∀ item pr, s.pc = .putBack item pr → pr.dry = true
  goesOn : s.pc.pending ≠ [] → s.goesOn limit = true
  result : ∀ k ∈ s.calls, k.alreadyCount = k.probes.countP fun pr => !pr.dry
  stop : ∀ k ∈ s.calls, k.alreadyCount < limit → k.admitted = false ∨ RunsDry k.probes
  refused : ∀ k ∈ s.calls, k.admitted = false → k.probes = [] ∧ k.alreadyCount = 0

section

omit [DecidableEq Co]

/-- A pull goes on while it has neither enough nor found all queues empty. -/
lemma goesOn_iff : s.goesOn limit = true ↔
    s.alreadyCount < limit ∧ s.emptyLevels < coPriorityCount := by
  rw [State.goesOn, Bool.and_eq_true, decide_eq_true_iff, decide_eq_true_iff]

/-- An iteration keeps the counts of the call. -/
lemma Counted.iterate (h : Counted limit s) {pulled : ℕ}
    (hcounts : Counts (s.alreadyCount + pulled) (if pulled = 0 then s.emptyLevels + 1 else 0)
      (s.callProbes ++ [pr])) : Counted limit (s.iterate pr pulled) where
  counts := hcounts
  admitItem := by rintro item pr ⟨⟩
  putBack := by rintro item pr ⟨⟩
  goesOn hne := absurd rfl hne
  result := h.result
  stop := h.stop
  refused := h.refused

/-- A call returns. -/
lemma Counted.ret (h : Counted limit s) {admitted : Bool}
    (hstop : s.alreadyCount < limit → admitted = false ∨ RunsDry s.callProbes)
    (hrefused : admitted = false → s.callProbes = [] ∧ s.alreadyCount = 0) :
    Counted limit (s.ret admitted) where
  counts := h.counts
  admitItem := by rintro item pr ⟨⟩
  putBack := by rintro item pr ⟨⟩
  goesOn hne := absurd rfl hne
  result := by
    intro k hk
    rcases List.mem_append.mp hk with hk | hk
    · exact h.result k hk
    · rw [List.mem_singleton.mp hk]
      exact h.counts.already
  stop := by
    intro k hk
    rcases List.mem_append.mp hk with hk | hk
    · exact h.stop k hk
    · rw [List.mem_singleton.mp hk]
      exact hstop
  refused := by
    intro k hk
    rcases List.mem_append.mp hk with hk | hk
    · exact h.refused k hk
    · rw [List.mem_singleton.mp hk]
      exact hrefused

/-- A step keeps the counts of the call. -/
lemma Counted.next (h : Counted limit s) (hs : next limit s l = some s') : Counted limit s' := by
  cases effect_of_next hs with
  | call hpc =>
    unfold State.call
    have hcall : Counted limit
        { s with alreadyCount := 0, emptyLevels := 0, callProbes := [], pc := .loop } :=
      ⟨counts_nil, by rintro item pr ⟨⟩, by rintro item pr ⟨⟩, fun hne => absurd rfl hne,
        h.result, h.stop, h.refused⟩
    split
    · exact hcall
    · exact hcall.ret (fun _ => .inl rfl) fun _ => ⟨rfl, rfl⟩
  | empty hpc hgo hqueue =>
    have hadvance : Counted limit s.advance :=
      ⟨h.counts, h.admitItem, h.putBack, h.goesOn, h.result, h.stop, h.refused⟩
    exact hadvance.iterate (h.counts.dry rfl (goesOn_iff.mp hgo).2)
  | take hpc hgo hqueue =>
    refine ⟨h.counts, ?_, by rintro item pr ⟨⟩, fun _ => hgo, h.result, h.stop, h.refused⟩
    rintro item pr ⟨⟩
    rfl
  | @accept linked item probe hpc =>
    have hqueue : Counted limit { s with coroutineQueue := s.coroutineQueue ++ [item] } :=
      ⟨h.counts, h.admitItem, h.putBack, h.goesOn, h.result, h.stop, h.refused⟩
    exact hqueue.iterate (h.counts.came (h.admitItem item probe hpc))
  | @refuse linked item probe hpc =>
    refine ⟨h.counts, by rintro item pr ⟨⟩, ?_, fun _ => h.goesOn ?_, h.result, h.stop, h.refused⟩
    · rintro item pr ⟨⟩
      exact Bool.or_true _
    · rw [hpc]
      exact List.cons_ne_nil _ _
  | @putBack item probe hpc =>
    have hqueue : Counted limit
        (s.setQueue probe.priority (s.globalQueue probe.priority ++ [item])) :=
      ⟨h.counts, h.admitItem, h.putBack, h.goesOn, h.result, h.stop, h.refused⟩
    have hgo : s.goesOn limit = true := by
      refine h.goesOn ?_
      rw [hpc]
      exact List.cons_ne_nil _ _
    exact hqueue.iterate (h.counts.dry (h.putBack item probe hpc) (goesOn_iff.mp hgo).2)
  | ret hpc hgo =>
    refine h.ret ?_ (by simp)
    intro hlt
    refine .inr (h.counts.runsDry ?_)
    intro hlevels
    rw [goesOn_iff.mpr ⟨hlt, hlevels⟩] at hgo
    cases hgo
  | enqueue | dequeue _ | steal _ | retire =>
    exact ⟨h.counts, h.admitItem, h.putBack, h.goesOn, h.result, h.stop, h.refused⟩
  | putBackFails _ => exact h

end

end Counted

/-! ## The end of a call -/

section Fuel

variable {limit : ℕ} {s s' : State Co} {l : Label Co}

/-- A bound for the steps that are left in a call. -/
def State.fuel (limit : ℕ) (s : State Co) : ℕ :=
  let iterations := 5 * (limit - s.alreadyCount) + (coPriorityCount - s.emptyLevels)
  match s.pc with
  | .idle => 0
  | .loop => 3 * iterations + 2
  | .admitItem _ _ => 3 * iterations + 1
  | .putBack _ _ => 3 * iterations

section

omit [DecidableEq Co]

/-- A step in a call uses up the fuel that it takes. -/
lemma fuel_next (h : Counted limit s) (hs : next limit s l = some s') (hl : l.isCall = false) :
    l.works + s'.fuel limit ≤ s.fuel limit := by
  have hpending : s.pc.pending ≠ [] → s.alreadyCount < limit ∧ s.emptyLevels < 4 :=
    fun hne => goesOn_iff.mp (h.goesOn hne)
  cases effect_of_next hs with
  | call hpc => cases hl
  | empty hpc hgo hqueue =>
    have hlevels : s.emptyLevels < 4 := (goesOn_iff.mp hgo).2
    rw [State.fuel, State.fuel, hpc]
    change 1 + (3 * (5 * (limit - s.alreadyCount) + (4 - (s.emptyLevels + 1))) + 2) ≤
      3 * (5 * (limit - s.alreadyCount) + (4 - s.emptyLevels)) + 2
    omega
  | take hpc hgo hqueue =>
    rw [State.fuel, State.fuel, hpc]
    exact (Nat.add_comm _ _).le
  | accept hpc =>
    obtain ⟨hlt, hlevels⟩ := hpending (by rw [hpc]; exact List.cons_ne_nil _ _)
    rw [State.fuel, State.fuel, hpc]
    change 1 + (3 * (5 * (limit - (s.alreadyCount + 1)) + 4) + 2) ≤
      3 * (5 * (limit - s.alreadyCount) + (4 - s.emptyLevels)) + 1
    omega
  | refuse hpc =>
    rw [State.fuel, State.fuel, hpc]
    exact (Nat.add_comm _ _).le
  | putBack hpc =>
    obtain ⟨-, hlevels⟩ := hpending (by rw [hpc]; exact List.cons_ne_nil _ _)
    rw [State.fuel, State.fuel, hpc]
    change 1 + (3 * (5 * (limit - s.alreadyCount) + (4 - (s.emptyLevels + 1))) + 2) ≤
      3 * (5 * (limit - s.alreadyCount) + (4 - s.emptyLevels))
    omega
  | ret hpc hgo =>
    rw [State.fuel, State.fuel, hpc]
    exact Nat.le_add_left 1 (_ + 1)
  | putBackFails _ | enqueue | dequeue _ | steal _ | retire => exact (Nat.zero_add _).le

/-- The steps of a run without a call fit into the fuel. -/
lemma works_le_fuel {ls : List (Label Co)} (h : Counted limit s)
    (hrun : (system Co limit).runWhen (fun _ l => l.isCall = false) s ls = some s') :
    (ls.map Label.works).sum ≤ s.fuel limit := by
  induction ls generalizing s with
  | nil => exact Nat.zero_le _
  | cons l ls ih =>
    rw [System.runWhen] at hrun
    split at hrun
    · next hl =>
      obtain ⟨t, ht, hrest⟩ := Option.bind_eq_some_iff.mp hrun
      have hstep := fuel_next h ht hl
      have hsum := ih (h.next ht) hrest
      rw [List.map_cons, List.sum_cons]
      omega
    · cases hrun

/-- The fuel that a call may need is bounded. -/
lemma fuel_le (s : State Co) : s.fuel limit ≤ 3 * (5 * limit + coPriorityCount) + 2 := by
  have halready : limit - s.alreadyCount ≤ limit := Nat.sub_le _ _
  have hlevels : coPriorityCount - s.emptyLevels ≤ coPriorityCount := Nat.sub_le _ _
  unfold State.fuel
  dsimp only
  split <;> omega

/-- A call that has not returned can make a step. -/
lemma exists_step (limit : ℕ) (hpc : s.pc ≠ .idle) :
    ∃ l : Label Co, l.works = 1 ∧ (next limit s l).isSome = true := by
  cases h : s.pc with
  | idle => exact absurd h hpc
  | loop =>
    by_cases hgo : s.goesOn limit = true
    · refine ⟨.probe 0, rfl, ?_⟩
      rw [next, h]
      dsimp only
      rw [if_pos hgo]
      unfold State.probe
      dsimp only
      split
      · rfl
      · next hne =>
        rw [Option.isSome_map, isSome_getElem?]
        exact List.length_pos_iff.mpr hne
    · refine ⟨.ret, rfl, ?_⟩
      rw [next, h]
      dsimp only
      rw [if_neg hgo]
      rfl
  | admitItem item probe =>
    refine ⟨.admitItem false, rfl, ?_⟩
    rw [next, h]
    rfl
  | putBack item probe =>
    refine ⟨.putBack true, rfl, ?_⟩
    rw [next, h]
    rfl

end

end Fuel

/-! ## Admission -/

section Admission

variable {limit : ℕ} {s s' : State Co} {l : Label Co}

omit [DecidableEq Co] in
/-- A call that is made while the admission is open goes into its loop. -/
lemma call_of_open (hs : next limit s .call = some s') (hopen : s.admissionOpen = true) :
    s'.pc = .loop ∧ s'.calls = s.calls := by
  cases effect_of_next hs with
  | call hpc =>
    rw [State.call, if_pos hopen]
    exact ⟨rfl, rfl⟩

omit [DecidableEq Co] in
/-- A call that returns without admission was made, in the same step, by a worker that is
retired. -/
lemma returned_not_admitted {k : Call Co} (hs : next limit s l = some s')
    (hk : s'.calls = s.calls ++ [k]) (hadmitted : k.admitted = false) :
    l.isCall = true ∧ s.admissionOpen = false := by
  have hkeeps : s'.calls = s.calls → False := by
    intro h
    rw [h] at hk
    exact List.cons_ne_nil _ _ (List.self_eq_append_right.mp hk)
  cases effect_of_next hs with
  | call hpc =>
    refine ⟨rfl, ?_⟩
    rw [Bool.eq_false_iff]
    intro hopen
    exact hkeeps (call_of_open hs hopen).2
  | ret hpc hgo =>
    have hmem := List.append_cancel_left hk
    rw [← List.singleton_injective hmem] at hadmitted
    cases hadmitted
  | _ => exact absurd rfl hkeeps

end Admission

/-! ## Main result -/

/-- In every run the pulls are fair. -/
theorem pullsFair_of_reachable {limit : ℕ} {s : State Co} (h : (system Co limit).Reachable s) :
    Fair limit s := by
  have hturns : Turns (s.probes ++ s.pc.pending) s.globalPullPriority := by
    refine h.induct (I := fun s => Turns (s.probes ++ s.pc.pending) s.globalPullPriority) ?_ ?_
    · rintro s rfl
      exact ⟨.nil, fun _ h => absurd h (by rintro ⟨⟩), fun _ h => absurd h List.not_mem_nil⟩
    · intro s l s' hI hs
      exact turns_next hI hs
  have hcounted : Counted limit s := by
    refine h.induct (I := Counted limit) ?_ ?_
    · rintro s rfl
      exact ⟨counts_nil, by rintro item pr ⟨⟩, by rintro item pr ⟨⟩, fun hne => absurd rfl hne,
        fun _ h => absurd h List.not_mem_nil, fun _ h => absurd h List.not_mem_nil,
        fun _ h => absurd h List.not_mem_nil⟩
    · intro s l s' hI hs
      exact hI.next hs
  have hholds : ∀ a, s.holds a = s.enqueued.count a := by
    refine h.induct (I := fun s => ∀ a, s.holds a = s.enqueued.count a) ?_ ?_
    · rintro s rfl a
      rfl
    · intro s l s' hI hs a
      exact holds_next hs a (hI a)
  have hrotates : ∀ w, w <:+: s.probes → Rotates w := by
    intro w hw
    exact List.IsChain.infix hturns.rotates (hw.trans (List.prefix_append _ _).isInfix)
  refine ⟨?_, ?_, hcounted.result, hcounted.stop, hcounted.refused, fun s' => call_of_open,
    fun l s' k => returned_not_admitted, hholds, exists_step limit, ?_⟩
  · intro w hw hlen p
    exact countP_of_rotates (hrotates w hw) hlen p
  · intro w hw p hfound
    refine div_le_countP w (hrotates w hw) ?_
    rintro pr hpr rfl
    rw [hturns.took pr (List.mem_append_left _ (hw.subset hpr))]
    exact hfound pr hpr
  · intro ls s' hrun
    exact (works_le_fuel hcounted hrun).trans (fuel_le s)

/-- Two coroutines of different priorities are pulled in one call. -/
def pullTwo : List (Label Bool) :=
  [.enqueue coPriorityCritical false, .enqueue ⟨0, Nat.succ_pos 3⟩ true, .call, .probe 0,
    .admitItem false, .probe 0, .probe 0, .probe 0, .admitItem false, .probe 0, .probe 0, .probe 0,
    .probe 0, .ret]

/-- The call pulls both of them and then runs dry. -/
theorem pullsFair_of_reachable_pullTwo : ∃ s : State Bool, (system Bool 16).Reachable s ∧
    s.coroutineQueue = [false, true] ∧ s.calls.map (fun k => k.alreadyCount) = [2] ∧
    Fair 16 s := by
  have hrun : (system Bool 16).endsIn {} pullTwo
      (fun s => s.coroutineQueue = [false, true] ∧
        s.calls.map (fun k => k.alreadyCount) = [2]) = true := by
    decide
  obtain ⟨s, hs, hqueue, hcalls⟩ := System.exists_of_endsIn rfl hrun
  exact ⟨s, hs, hqueue, hcalls, pullsFair_of_reachable hs⟩

/-- A worker that is retired takes nothing, without a probe and without a refusal. -/
theorem not_stop_of_retire : ¬∀ s : State (Fin 1), (system (Fin 1) 16).Reachable s →
    ∀ k ∈ s.calls, k.alreadyCount < 16 →
      (∃ pre last, k.probes = pre ++ last ∧ last.length = coPriorityCount ∧
        ∀ pr ∈ last, pr.item = none) ∨ ∃ pr ∈ k.probes, pr.refused = true := by
  intro h
  have hrun : (system (Fin 1) 16).endsIn {} [.enqueue 0 0, .retire, .call]
      (fun s => s.calls.map (fun k => k.alreadyCount + k.probes.length) = [0]) = true := by
    decide
  obtain ⟨s, hs, hcalls⟩ := System.exists_of_endsIn rfl hrun
  obtain ⟨k, hk, hcount⟩ : ∃ k ∈ s.calls, k.alreadyCount + k.probes.length = 0 := by
    have hmem : 0 ∈ s.calls.map fun k => k.alreadyCount + k.probes.length := by
      rw [hcalls]
      exact List.mem_singleton_self _
    exact List.mem_map.mp hmem
  obtain ⟨halready, hprobes⟩ := Nat.add_eq_zero_iff.mp hcount
  have hnil : k.probes = [] := List.length_eq_zero_iff.mp hprobes
  rcases h s hs k hk (by rw [halready]; decide) with ⟨pre, last, hlog, hlen, -⟩ | ⟨pr, hpr, -⟩
  · rw [hlog, List.length_append, hlen] at hprobes
    exact absurd (Nat.eq_zero_of_add_eq_zero_left hprobes) (by decide)
  · rw [hnil] at hpr
    exact absurd hpr List.not_mem_nil

end BbtCoroutine.GlobalPull
