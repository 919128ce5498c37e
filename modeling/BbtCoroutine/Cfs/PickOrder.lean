import BbtCoroutine.Cfs.Accounts
import Mathlib.Algebra.Order.Floor.Ring
import Mathlib.Data.Rat.Floor

/-!
# The order in which a run queue picks

While an entity `x` waits in a queue, another entity `y` may be picked, run and enqueued again many
times.  The position of `y` in the queue never falls, and each of its runs raises it by at least
the least charge.  So `y` is picked only a bounded number of times before `x`.  Two entities with
the same virtual runtime are picked in the order in which they were enqueued.
-/

namespace BbtCoroutine.Cfs

open Transition

variable {E Q : Type*} [DecidableEq E] [DecidableEq Q]

/-! ## Statement -/

/-- The virtual runtime of an entity in the queue `q`; a debt counts from the floor on. -/
def State.position (s : State E Q) (q : Q) (e : E) : ℚ :=
  if (s.entity e).linked = true ∨ (s.queue q).running = some e then (s.entity e).vruntime
  else (s.queue q).floor + (s.entity e).vruntime

/-- How far the entity `x` is ahead of `y` in the queue `q`. -/
def State.lead (s : State E Q) (q : Q) (x y : E) : ℚ :=
  (s.entity x).vruntime - s.position q y

/-- The call does not enqueue `e` in another queue than `q`, nor with a weight above `w`. -/
def Label.stays (q : Q) (e : E) (w : ℕ) : Label E Q → Prop
  | .enqueue p j _ weight => j = e → p = q ∧ weight ≤ w
  | _ => True

/-- Whether a call leaves an entity in its queue can be computed. -/
instance (q : Q) (e : E) (w : ℕ) : ∀ l : Label E Q, Decidable (l.stays q e w)
  | .enqueue p j _ weight => inferInstanceAs (Decidable (j = e → p = q ∧ weight ≤ w))
  | .pick _ | .account _ _ _ _ | .take _ => inferInstanceAs (Decidable True)

/-- The entity `x` is in the queue `q`, and the call leaves `y` there. -/
def Ahead (q : Q) (x y : E) (w : ℕ) (s : State E Q) (l : Label E Q) : Prop :=
  x ∈ (s.queue q).queue ∧ l.stays q y w

/-- Whether one entity is in the queue and the call leaves the other there can be computed. -/
instance (q : Q) (x y : E) (w : ℕ) (s : State E Q) (l : Label E Q) :
    Decidable (Ahead q x y w s l) :=
  inferInstanceAs (Decidable (_ ∧ _))

/-- The call picks the entity `e` in the queue `q`. -/
def State.picks (s : State E Q) (q : Q) (e : E) : Label E Q → ℕ
  | .pick p => if p = q ∧ (s.pick q).2 = some e then 1 else 0
  | _ => 0

/-- How often the entity `e` is picked in the queue `q` while the calls are made. -/
def picks (q : Q) (e : E) : State E Q → List (Label E Q) → ℕ
  | _, [] => 0
  | s, l :: ls => s.picks q e l + (next s l).elim 0 fun s' => picks q e s' ls

/-- Both entities are in the queue `q`. -/
def Both (q : Q) (x y : E) (s : State E Q) (_ : Label E Q) : Prop :=
  x ∈ (s.queue q).queue ∧ y ∈ (s.queue q).queue

/-- Whether both entities are in the queue can be computed. -/
instance (q : Q) (x y : E) (s : State E Q) (l : Label E Q) : Decidable (Both q x y s l) :=
  inferInstanceAs (Decidable (_ ∧ _))

/-- The queues are not unfair to an entity that waits.  While `x` is in a queue, an entity that
stays there and whose weight is at most `w` is picked at most once more than charges of `1 / w` fit
into the lead of `x`.  An entity that is enqueued with the virtual runtime of `x` is not picked as
long as both stay in the queue. -/
structure Ordered (s : State E Q) : Prop where
  bounded : ∀ q x y (w : ℕ) ls s', x ≠ y → Inv.Own s q y → (s.entity y).weight ≤ w →
    (system E Q).runWhen (Ahead q x y w) s ls = some s' →
    (picks q y s ls : ℤ) ≤ max 0 (⌊s.lead q x y * w⌋ + 1)
  inOrder : ∀ q x y priority weight ls s', x ∈ (s.queue q).queue →
    (s.book y).worker = none → (s.enqueue q y priority weight).2 = true →
    ((s.enqueue q y priority weight).1.entity x).vruntime =
      ((s.enqueue q y priority weight).1.entity y).vruntime →
    (system E Q).runWhen (Both q x y) (s.enqueue q y priority weight).1 ls = some s' →
    x ∈ (s'.queue q).queue → (s'.pick q).2 ≠ some y

/-! ## What a call does -/

section Effect

variable {s s' : State E Q} {l : Label E Q}

/-- What a call does to a queue and to an entity. -/
inductive Effect (s : State E Q) : Label E Q → State E Q → Prop
  | none (l : Label E Q) (hpick : ∀ p, l = .pick p → (s.pick p).2 = Option.none) : Effect s l s
  | enqueue {p e priority weight z b} (hlinked : (s.entity e).linked = false)
      (hrunning : (s.queue p).running ≠ some e) (hz : z.linked = true)
      (hv : z.vruntime = State.entryVruntime (s.queue p).floor (s.entity e))
      (hw : z.weight = max 1 weight) :
      Effect s (.enqueue p e priority weight)
        (s.set p { s.queue p with queue := s.insertUpper e z.vruntime (s.queue p).queue } e z b)
  | pick {p e es z b} (hrunning : (s.queue p).running = Option.none)
      (hqueue : (s.queue p).queue = e :: es) (hsnd : (s.pick p).2 = some e)
      (hz : z.linked = false) (hv : z.vruntime = (s.entity e).vruntime)
      (hw : z.weight = (s.entity e).weight) :
      Effect s (.pick p) (s.set p { s.queue p with queue := es, running := some e } e z b)
  | account {p e elapsedUs waiting z b floor} (hrunning : (s.queue p).running = some e)
      (hfloor : (s.queue p).floor ≤ floor) (hz : z.linked = (s.entity e).linked)
      (hv : z.vruntime =
        (s.entity e).vruntime + State.charge (s.entity e).weight elapsedUs - floor)
      (hw : z.weight = (s.entity e).weight) :
      Effect s (.account p e elapsedUs waiting)
        (s.set p { s.queue p with running := Option.none, floor := floor } e z b)
  | take {p e es z b} (hqueue : (s.queue p).queue = e :: es) (hz : z.linked = false)
      (hv : z.vruntime = (s.entity e).vruntime - (s.queue p).floor)
      (hw : z.weight = (s.entity e).weight) :
      Effect s (.take p) (s.set p { s.queue p with queue := es } e z b)

/-- What an enqueue does. -/
lemma effect_enqueue (p : Q) (e : E) (priority : ℤ) (weight : ℕ) :
    Effect s (.enqueue p e priority weight) (s.enqueue p e priority weight).1 := by
  unfold State.enqueue
  dsimp only
  split
  · exact .none _ (by rintro q ⟨⟩)
  · rename_i h
    rw [not_or, Bool.not_eq_true] at h
    exact .enqueue h.1 h.2 rfl rfl rfl

/-- The four operations, one by one. -/
lemma effect_of_next (h : next s l = some s') : Effect s l s' := by
  cases l with
  | enqueue p e priority weight =>
    rw [next] at h
    split at h
    · split at h
      · cases h
        exact effect_enqueue p e priority weight
      · cases h
    · cases h
      exact effect_enqueue p e priority weight
  | pick p =>
    cases h
    rcases hp : s.pick p with ⟨t, o⟩
    have hsnd : (s.pick p).2 = o := by rw [hp]
    unfold State.pick at hp
    dsimp only at hp
    split at hp
    · rename_i e es hrunning hqueue
      cases hp
      exact .pick hrunning hqueue hsnd rfl rfl rfl
    · cases hp
      refine .none _ ?_
      intro r hr
      cases hr
      exact hsnd
  | account p e elapsedUs waiting =>
    rw [next, State.account] at h
    split at h
    · rename_i hrunning
      cases h
      exact .account hrunning (le_max_left _ _) rfl rfl rfl
    · cases h
  | take p =>
    cases h
    unfold State.take
    dsimp only
    split
    · exact .none _ (by rintro q ⟨⟩)
    · rename_i e es hqueue
      exact .take hqueue rfl rfl rfl

end Effect

/-! ## One step -/

section Step

variable {s s' : State E Q} {p q : Q} {c : CfsRunQueue E} {e j x y : E} {z : CfsEntity}
  {b : Book Q} {w : ℕ} {l : Label E Q}

@[simp] lemma entity_set : (s.set q c e z b).entity j = if j = e then z else s.entity j := by
  by_cases h : j = e
  · rw [h, if_pos rfl]
    exact Function.update_self _ _ _
  · rw [if_neg h]
    exact Function.update_of_ne h _ _

@[simp] lemma queue_set : (s.set q c e z b).queue p = if p = q then c else s.queue p := by
  by_cases h : p = q
  · rw [h, if_pos rfl]
    exact Function.update_self _ _ _
  · rw [if_neg h]
    exact Function.update_of_ne h _ _

/-- An entity that stays in a queue keeps its virtual runtime. -/
lemma vruntime_next (hI : Inv s) (h : next s l = some s') (hx : x ∈ (s.queue q).queue)
    (hx' : x ∈ (s'.queue q).queue) : (s'.entity x).vruntime = (s.entity x).vruntime := by
  have hlinked := hI.linked q x hx
  cases effect_of_next h with
  | none => rfl
  | @enqueue p e priority weight z b hl hrunning hz hv hw =>
    have hne : x ≠ e := by
      rintro rfl
      rw [hl] at hlinked
      cases hlinked
    rw [entity_set, if_neg hne]
  | @pick p e es z b hrunning hqueue hsnd hz hv hw =>
    rw [entity_set]
    split
    · next heq => rw [hv, heq]
    · rfl
  | @account p e elapsedUs waiting z b floor hrunning hfloor hz hv hw =>
    have hne : x ≠ e := by
      rintro rfl
      exact (hI.fair.running p q x hrunning).1 hx
    rw [entity_set, if_neg hne]
  | @take p e es z b hqueue hz hv hw =>
    have hne : x ≠ e := by
      rintro rfl
      have hmem : x ∈ (s.queue p).queue := by
        rw [hqueue]
        exact List.mem_cons_self
      obtain rfl := hI.once p q x hmem hx
      have hnodup := hI.nodup p
      rw [queue_set, if_pos rfl] at hx'
      rw [hqueue] at hnodup
      exact (List.nodup_cons.mp hnodup).1 hx'
    rw [entity_set, if_neg hne]

/-- An entity stays in the hands of its queue. -/
lemma own_next (hown : Inv.Own s q y) (hl : l.stays q y w) (h : next s l = some s') :
    Inv.Own s' q y := by
  intro r hr
  obtain ⟨hmem, hrun⟩ := hown r hr
  cases effect_of_next h with
  | none => exact ⟨hmem, hrun⟩
  | @enqueue p e priority weight z b hlinked hrunning hz hv hw =>
    rw [queue_set]
    split
    · next heq =>
      refine ⟨?_, heq ▸ hrun⟩
      intro hy
      rcases (List.mem_orderedInsert _).mp hy with rfl | hy
      · exact hr (heq.trans (hl rfl).1)
      · exact hmem (heq ▸ hy)
    · exact ⟨hmem, hrun⟩
  | @pick p e es z b hrunning hqueue hsnd hz hv hw =>
    rw [queue_set]
    split
    · next heq =>
      subst heq
      rw [hqueue, List.mem_cons, not_or] at hmem
      exact ⟨hmem.2, fun he => hmem.1 (Option.some.inj he).symm⟩
    · exact ⟨hmem, hrun⟩
  | @account p e elapsedUs waiting z b floor hrunning hfloor hz hv hw =>
    rw [queue_set]
    split
    · next heq => exact ⟨heq ▸ hmem, by rintro ⟨⟩⟩
    · exact ⟨hmem, hrun⟩
  | @take p e es z b hqueue hz hv hw =>
    rw [queue_set]
    split
    · next heq =>
      subst heq
      rw [hqueue, List.mem_cons, not_or] at hmem
      exact ⟨hmem.2, hrun⟩
    · exact ⟨hmem, hrun⟩

/-- Only an enqueue sets the weight of an entity. -/
lemma weight_next (h : next s l = some s') (j : E) :
    (s'.entity j).weight = (s.entity j).weight ∨
      ∃ p priority weight, l = .enqueue p j priority weight ∧
        (s'.entity j).weight = max 1 weight := by
  cases effect_of_next h with
  | none => exact .inl rfl
  | @enqueue p e priority weight z b hlinked hrunning hz hv hw =>
    rw [entity_set]
    split
    · next heq =>
      subst heq
      exact .inr ⟨p, priority, weight, rfl, hw⟩
    · exact .inl rfl
  | @pick p e es z b _ _ _ _ _ hw | @account p e _ _ z b _ _ _ _ _ hw
  | @take p e es z b _ _ _ hw =>
    rw [entity_set]
    split
    · next heq => exact .inl (hw.trans (congrArg (fun k => (s.entity k).weight) heq.symm))
    · exact .inl rfl

/-- Weights stay positive. -/
lemma one_le_weight_next (hpos : ∀ e, 1 ≤ (s.entity e).weight) (h : next s l = some s') (j : E) :
    1 ≤ (s'.entity j).weight := by
  rcases weight_next h j with heq | ⟨p, priority, weight, -, heq⟩
  · rw [heq]
    exact hpos j
  · rw [heq]
    exact le_max_left _ _

/-- The weight of an entity that stays in its queue stays bounded. -/
lemma weight_le_next (hl : l.stays q y w) (hpos : 1 ≤ w) (hw : (s.entity y).weight ≤ w)
    (h : next s l = some s') : (s'.entity y).weight ≤ w := by
  rcases weight_next h y with heq | ⟨p, priority, weight, rfl, heq⟩
  · rw [heq]
    exact hw
  · rw [heq]
    exact max_le hpos (hl rfl).2

end Step

/-! ## The position of an entity -/

section Position

variable {s s' : State E Q} {q : Q} {x y : E} {w : ℕ} {l : Label E Q}

section

omit [DecidableEq Q]

/-- The position of an entity in the queue. -/
lemma position_of_mem (hI : Inv s) (hy : y ∈ (s.queue q).queue) :
    s.position q y = (s.entity y).vruntime :=
  if_pos (.inl (hI.linked q y hy))

/-- The position of the entity that runs. -/
lemma position_of_running (hy : (s.queue q).running = some y) :
    s.position q y = (s.entity y).vruntime :=
  if_pos (.inr hy)

/-- The position of an entity outside of the queue. -/
lemma position_of_out (hlinked : (s.entity y).linked = false)
    (hrunning : (s.queue q).running ≠ some y) :
    s.position q y = (s.queue q).floor + (s.entity y).vruntime := by
  refine if_neg ?_
  rintro (h | h)
  · rw [hlinked] at h
    cases h
  · exact hrunning h

end

/-- A call on another entity does not lower the position. -/
lemma position_le_of_other {p : Q} {c : CfsRunQueue E} {e : E} {z : CfsEntity} {b : Book Q}
    (hne : y ≠ e) (hrun : p = q → (c.running = some y ↔ (s.queue p).running = some y))
    (hfloor : (s.queue p).floor ≤ c.floor) :
    s.position q y ≤ (s.set p c e z b).position q y := by
  have hrun' : ((s.set p c e z b).queue q).running = some y ↔ (s.queue q).running = some y := by
    rw [queue_set]
    split
    · next heq => rw [hrun heq.symm, heq]
    · rfl
  have hfloor' : (s.queue q).floor ≤ ((s.set p c e z b).queue q).floor := by
    rw [queue_set]
    split
    · next heq => rwa [heq]
    · exact le_rfl
  have hentity : (s.set p c e z b).entity y = s.entity y := by rw [entity_set, if_neg hne]
  by_cases hin : (s.entity y).linked = true ∨ (s.queue q).running = some y
  · have hin' : ((s.set p c e z b).entity y).linked = true ∨
        ((s.set p c e z b).queue q).running = some y := by rwa [hentity, hrun']
    rw [State.position, if_pos hin, State.position, if_pos hin', hentity]
  · have hin' : ¬(((s.set p c e z b).entity y).linked = true ∨
        ((s.set p c e z b).queue q).running = some y) := by rwa [hentity, hrun']
    rw [State.position, if_neg hin, State.position, if_neg hin', hentity]
    exact add_le_add_left hfloor' _

/-- A run raises the position by its charge. -/
lemma position_account {floor : ℚ} {elapsedUs : ℕ} {z : CfsEntity} {b : Book Q} (hI : Inv s)
    (hrunning : (s.queue q).running = some y) (hz : z.linked = (s.entity y).linked)
    (hv : z.vruntime =
      (s.entity y).vruntime + State.charge (s.entity y).weight elapsedUs - floor) :
    (s.set q { s.queue q with running := none, floor := floor } y z b).position q y =
      s.position q y + State.charge (s.entity y).weight elapsedUs := by
  have hlinked : (s.entity y).linked = false := by
    refine hI.apart y ?_
    rw [(hI.worker q y).mp hrunning]
    rintro ⟨⟩
  have hout := position_of_out (s := s.set q { s.queue q with running := none, floor := floor }
    y z b) (q := q) (y := y) (by rw [entity_set, if_pos rfl, hz, hlinked])
    (by rw [queue_set, if_pos rfl]; rintro ⟨⟩)
  rw [hout, position_of_running hrunning, entity_set, if_pos rfl, queue_set, if_pos rfl, hv]
  exact add_sub_cancel _ _

/-- No call lowers the position of an entity in its queue. -/
lemma position_le_next (hI : Inv s) (hown : Inv.Own s q y) (hl : l.stays q y w)
    (h : next s l = some s') : s.position q y ≤ s'.position q y := by
  have hqueue : ∀ p, y ∈ (s.queue p).queue ∨ (s.queue p).running = some y → p = q := by
    intro p hp
    by_contra hne
    exact hp.elim (hown p hne).1 (hown p hne).2
  cases effect_of_next h with
  | none => exact le_rfl
  | @enqueue p e priority weight z b hlinked hrunning hz hv hw =>
    by_cases hne : y = e
    · subst hne
      obtain rfl := (hl rfl).1
      have hin : (s.set p { s.queue p with
          queue := s.insertUpper y z.vruntime (s.queue p).queue } y z b).position p y =
          z.vruntime := by
        rw [State.position, if_pos, entity_set, if_pos rfl]
        rw [entity_set, if_pos rfl]
        exact .inl hz
      rw [hin, position_of_out hlinked hrunning, hv, State.entryVruntime]
      refine add_le_add_right ?_ _
      split
      · exact le_max_right _ _
      · exact le_rfl
    · exact position_le_of_other hne (fun _ => Iff.rfl) le_rfl
  | @pick p e es z b hrunning hes hsnd hz hv hw =>
    by_cases hne : y = e
    · subst hne
      have hmem : y ∈ (s.queue p).queue := by
        rw [hes]
        exact List.mem_cons_self
      obtain rfl := hqueue p (.inl hmem)
      rw [position_of_mem hI hmem, position_of_running, entity_set, if_pos rfl, hv]
      rw [queue_set, if_pos rfl]
    · refine position_le_of_other hne (fun _ => ?_) le_rfl
      rw [hrunning]
      exact ⟨fun he => absurd (Option.some.inj he).symm hne, by rintro ⟨⟩⟩
  | @account p e elapsedUs waiting z b floor hrunning hfloor hz hv hw =>
    by_cases hne : y = e
    · subst hne
      obtain rfl := hqueue p (.inr hrunning)
      rw [position_account hI hrunning hz hv]
      exact le_add_of_nonneg_right (charge_nonneg _ _)
    · refine position_le_of_other hne (fun _ => ?_) hfloor
      rw [hrunning]
      exact ⟨by rintro ⟨⟩, fun he => absurd (Option.some.inj he).symm hne⟩
  | @take p e es z b hes hz hv hw =>
    by_cases hne : y = e
    · subst hne
      have hmem : y ∈ (s.queue p).queue := by
        rw [hes]
        exact List.mem_cons_self
      obtain rfl := hqueue p (.inl hmem)
      have hrunning : (s.queue p).running ≠ some y := fun hrun =>
        (hI.fair.running p p y hrun).1 hmem
      rw [position_of_mem hI hmem, position_of_out, entity_set, if_pos rfl, queue_set, if_pos rfl,
        hv]
      · exact (add_sub_cancel _ _).ge
      · rw [entity_set, if_pos rfl, hz]
      · rwa [queue_set, if_pos rfl]
    · exact position_le_of_other hne (fun _ => Iff.rfl) le_rfl

end Position

/-! ## How often an entity is picked -/

section Room

variable {s s' : State E Q} {q : Q} {x y : E} {w : ℕ} {l : Label E Q}

/-- How often the entity `y` can still be picked before `x`. -/
def State.room (s : State E Q) (q : Q) (x y : E) (w : ℕ) : ℤ :=
  max 0 (⌊s.lead q x y * w⌋ + if (s.queue q).running = some y then 0 else 1)

omit [DecidableEq Q] in
/-- A lower lead leaves less room. -/
lemma room_le_of_lead_le (hlead : s'.lead q x y ≤ s.lead q x y)
    (hrun : (s'.queue q).running = some y ↔ (s.queue q).running = some y) :
    s'.room q x y w ≤ s.room q x y w := by
  have hfloor : ⌊s'.lead q x y * w⌋ ≤ ⌊s.lead q x y * w⌋ :=
    Int.floor_mono (mul_le_mul_of_nonneg_right hlead (Nat.cast_nonneg w))
  unfold State.room
  refine max_le_max le_rfl ?_
  by_cases h : (s.queue q).running = some y
  · rw [if_pos h, if_pos (hrun.mpr h)]
    exact add_le_add_left hfloor _
  · rw [if_neg h, if_neg (mt hrun.mp h)]
    exact add_le_add_left hfloor _

omit [DecidableEq E] [DecidableEq Q] in
/-- An entity that is first in its queue is not behind the others. -/
lemma vruntime_head_le {es : List E} (hI : Inv s) (hqueue : (s.queue q).queue = y :: es)
    (hx : x ∈ (s.queue q).queue) : (s.entity y).vruntime ≤ (s.entity x).vruntime := by
  have hsorted := hI.sorted q
  rw [hqueue] at hsorted hx
  rcases List.mem_cons.mp hx with rfl | hx
  · exact le_rfl
  · exact (List.pairwise_cons.mp hsorted).1 x hx

omit [DecidableEq Q] in
/-- A pick needs room. -/
lemma room_pick {es : List E} (hI : Inv s) (hqueue : (s.queue q).queue = y :: es)
    (hx : x ∈ (s.queue q).queue) (hrun : (s.queue q).running = none)
    (hrun' : (s'.queue q).running = some y) (hlead : s'.lead q x y ≤ s.lead q x y) :
    1 + s'.room q x y w ≤ s.room q x y w := by
  have hmem : y ∈ (s.queue q).queue := by
    rw [hqueue]
    exact List.mem_cons_self
  have hnonneg : 0 ≤ s.lead q x y := by
    rw [State.lead, position_of_mem hI hmem]
    exact sub_nonneg_of_le (vruntime_head_le hI hqueue hx)
  have hfloor : ⌊s'.lead q x y * w⌋ ≤ ⌊s.lead q x y * w⌋ :=
    Int.floor_mono (mul_le_mul_of_nonneg_right hlead (Nat.cast_nonneg w))
  have hfloor₀ : 0 ≤ ⌊s.lead q x y * w⌋ :=
    Int.floor_nonneg.mpr (mul_nonneg hnonneg (Nat.cast_nonneg w))
  have hne : (s.queue q).running ≠ some y := by
    rw [hrun]
    rintro ⟨⟩
  rw [State.room, State.room, if_pos hrun', if_neg hne]
  omega

omit [DecidableEq Q] in
/-- A run makes room for at most one more pick, and its charge takes that room. -/
lemma room_account (elapsedUs : ℕ) (hpos : 1 ≤ (s.entity y).weight)
    (hw : (s.entity y).weight ≤ w) (hrun : (s.queue q).running = some y)
    (hlead : s'.lead q x y = s.lead q x y - State.charge (s.entity y).weight elapsedUs) :
    s'.room q x y w ≤ s.room q x y w := by
  have hone : (1 : ℚ) ≤ State.charge (s.entity y).weight elapsedUs * w := by
    have hpos' : (0 : ℚ) < (s.entity y).weight := Nat.cast_pos.mpr hpos
    have helapsed : (1 : ℚ) ≤ (max 1 elapsedUs : ℕ) := Nat.one_le_cast.mpr (le_max_left _ _)
    have hweight : ((s.entity y).weight : ℚ) ≤ w := Nat.cast_le.mpr hw
    rw [State.charge, div_mul_eq_mul_div, one_le_div hpos']
    calc ((s.entity y).weight : ℚ) ≤ 1 * w := by rwa [one_mul]
      _ ≤ (max 1 elapsedUs : ℕ) * w := mul_le_mul_of_nonneg_right helapsed (Nat.cast_nonneg w)
  have hfloor : ⌊s'.lead q x y * w⌋ + 1 ≤ ⌊s.lead q x y * w⌋ := by
    rw [← Int.floor_add_one, hlead, sub_mul]
    exact Int.floor_mono (by linarith)
  have hle : s'.room q x y w ≤ max 0 (⌊s'.lead q x y * w⌋ + 1) := by
    refine max_le_max le_rfl (add_le_add_right ?_ _)
    split
    · exact zero_le_one
    · exact le_rfl
  refine hle.trans ?_
  rw [State.room, if_pos hrun]
  omega

/-- A step uses up the room that it takes. -/
lemma room_next (hI : Inv s) (hpos : ∀ e, 1 ≤ (s.entity e).weight) (hxy : x ≠ y)
    (hown : Inv.Own s q y) (hw : (s.entity y).weight ≤ w) (hl : l.stays q y w)
    (hx : x ∈ (s.queue q).queue) (hx' : x ∈ (s'.queue q).queue) (h : next s l = some s') :
    (s.picks q y l : ℤ) + s'.room q x y w ≤ s.room q x y w := by
  have hlead : s'.lead q x y ≤ s.lead q x y := by
    unfold State.lead
    rw [vruntime_next hI h hx hx']
    exact sub_le_sub_left (position_le_next hI hown hl h) _
  have hother : s.picks q y l = 0 →
      ((s'.queue q).running = some y ↔ (s.queue q).running = some y) →
      (s.picks q y l : ℤ) + s'.room q x y w ≤ s.room q x y w := by
    intro hpicks hrun
    rw [hpicks, Nat.cast_zero, zero_add]
    exact room_le_of_lead_le hlead hrun
  cases effect_of_next h with
  | none l hpick =>
    refine hother ?_ Iff.rfl
    cases l with
    | pick p =>
      refine if_neg ?_
      rintro ⟨rfl, hsome⟩
      rw [hpick p rfl] at hsome
      cases hsome
    | _ => rfl
  | @enqueue p e priority weight z b hlinked hrunning hz hv hweight =>
    refine hother rfl ?_
    rw [queue_set]
    split
    · next heq => rw [heq]
    · rfl
  | @pick p e es z b hrunning hqueue hsnd hz hv hweight =>
    by_cases hpick : p = q ∧ e = y
    · obtain ⟨rfl, rfl⟩ := hpick
      have hone : s.picks p e (.pick p) = 1 := if_pos ⟨rfl, hsnd⟩
      rw [hone, Nat.cast_one]
      refine room_pick hI hqueue hx hrunning ?_ hlead
      rw [queue_set, if_pos rfl]
    · refine hother (if_neg ?_) ?_
      · rintro ⟨rfl, hsome⟩
        rw [hsnd] at hsome
        exact hpick ⟨rfl, Option.some.inj hsome⟩
      · rw [queue_set]
        split
        · next heq =>
          rw [heq, hrunning]
          exact ⟨fun he => absurd ⟨heq.symm, Option.some.inj he⟩ hpick, by rintro ⟨⟩⟩
        · rfl
  | @account p e elapsedUs waiting z b floor hrunning hfloor hz hv hweight =>
    by_cases hrun : p = q ∧ e = y
    · obtain ⟨rfl, rfl⟩ := hrun
      have hzero : s.picks p e (.account p e elapsedUs waiting) = 0 := rfl
      rw [hzero, Nat.cast_zero, zero_add]
      refine room_account elapsedUs (hpos e) hw hrunning ?_
      unfold State.lead
      rw [vruntime_next hI h hx hx', position_account hI hrunning hz hv]
      exact sub_add_eq_sub_sub _ _ _
    · refine hother rfl ?_
      rw [queue_set]
      split
      · next heq =>
        rw [heq, hrunning]
        exact ⟨by rintro ⟨⟩, fun he => absurd ⟨heq.symm, Option.some.inj he⟩ hrun⟩
      · rfl
  | @take p e es z b hqueue hz hv hweight =>
    refine hother rfl ?_
    rw [queue_set]
    split
    · next heq => rw [heq]
    · rfl

/-- When another entity is picked the entity `x` stays in the queue. -/
lemma mem_of_picks (hxy : x ≠ y) (hx : x ∈ (s.queue q).queue) (h : next s l = some s')
    (hpicks : s.picks q y l ≠ 0) : x ∈ (s'.queue q).queue := by
  cases l with
  | pick p =>
    obtain ⟨rfl, hsome⟩ : p = q ∧ (s.pick q).2 = some y := by
      by_contra hno
      exact hpicks (if_neg hno)
    cases effect_of_next h with
    | none l hpick => exact hx
    | @pick p e es z b hrunning hqueue hsnd hz hv hweight =>
      rw [hsnd] at hsome
      obtain rfl := Option.some.inj hsome
      rw [hqueue] at hx
      rw [queue_set, if_pos rfl]
      exact (List.mem_cons.mp hx).resolve_left hxy
  | _ => exact absurd rfl hpicks

/-- The picks of a run fit into the room. -/
lemma picks_le_room {ls : List (Label E Q)} (hI : Inv s) (hpos : ∀ e, 1 ≤ (s.entity e).weight)
    (hxy : x ≠ y) (hown : Inv.Own s q y) (hw : (s.entity y).weight ≤ w)
    (h : (system E Q).runWhen (Ahead q x y w) s ls = some s') :
    (picks q y s ls : ℤ) ≤ s.room q x y w := by
  induction ls generalizing s with
  | nil => exact le_max_left _ _
  | cons l ls ih =>
    rw [System.runWhen] at h
    split at h
    · next hahead =>
      obtain ⟨hx, hl⟩ := hahead
      obtain ⟨t, ht, hrest⟩ := Option.bind_eq_some_iff.mp h
      have hstep : next s l = some t := ht
      rw [picks, hstep, Option.elim_some, Nat.cast_add]
      by_cases hx' : x ∈ (t.queue q).queue
      · have hpos' := one_le_weight_next hpos hstep
        have hw' := weight_le_next hl ((hpos y).trans hw) hw hstep
        have hroom := room_next hI hpos hxy hown hw hl hx hx' hstep
        have hrun := ih (hI.next hstep) hpos' (own_next hown hl hstep) hw' hrest
        linarith
      · have hzero : s.picks q y l = 0 := by
          by_contra hne
          exact hx' (mem_of_picks hxy hx hstep hne)
        have hnil : ls = [] := by
          cases ls with
          | nil => rfl
          | cons k ks =>
            rw [System.runWhen, if_neg fun hk => hx' hk.1] at hrest
            cases hrest
        rw [hzero, hnil]
        exact le_max_left _ _
    · cases h

end Room

/-! ## The order of equals -/

section Order

variable {s s' : State E Q} {q : Q} {x y : E} {l : Label E Q}

omit [DecidableEq E] [DecidableEq Q] in
/-- An entity is enqueued behind those that are not behind it. -/
lemma sublist_insertUpper {v : ℚ} {es : List E} (hx : x ∈ es) (hle : (s.entity x).vruntime ≤ v)
    (hsorted : es.Pairwise fun i j => (s.entity i).vruntime ≤ (s.entity j).vruntime) :
    [x, y].Sublist (s.insertUpper y v es) := by
  induction es with
  | nil => cases hx
  | cons e es ih =>
    obtain ⟨hfirst, hrest⟩ := List.pairwise_cons.mp hsorted
    have hnot : ¬v < (s.entity e).vruntime := by
      rw [not_lt]
      rcases List.mem_cons.mp hx with rfl | hx
      · exact hle
      · exact (hfirst x hx).trans hle
    rw [State.insertUpper, List.orderedInsert_cons, if_neg hnot]
    rcases List.mem_cons.mp hx with rfl | hx
    · refine List.Sublist.cons_cons _ (List.singleton_sublist.mpr ?_)
      exact (List.mem_orderedInsert _).mpr (.inl rfl)
    · exact (ih hx hrest).cons _

/-- Two entities that stay in a queue keep their order. -/
lemma sublist_next (hI : Inv s) (hxy : [x, y].Sublist (s.queue q).queue)
    (h : next s l = some s') (hx : x ∈ (s'.queue q).queue) :
    [x, y].Sublist (s'.queue q).queue := by
  have htail : ∀ {e es}, (s.queue q).queue = e :: es → x ∈ es → [x, y].Sublist es := by
    intro e es hqueue hx
    have hnodup := hI.nodup q
    rw [hqueue] at hxy hnodup
    rcases List.sublist_cons_iff.mp hxy with hsub | ⟨r, hr, -⟩
    · exact hsub
    · obtain ⟨rfl, -⟩ := List.cons.inj hr
      exact absurd hx (List.nodup_cons.mp hnodup).1
  cases effect_of_next h with
  | none => exact hxy
  | @enqueue p e priority weight z b hlinked hrunning hz hv hw =>
    rw [queue_set]
    split
    · next heq =>
      subst heq
      exact hxy.trans (List.sublist_orderedInsert _ _)
    · exact hxy
  | @pick p e es z b hrunning hqueue hsnd hz hv hw =>
    rw [queue_set] at hx ⊢
    split
    · next heq =>
      subst heq
      rw [if_pos rfl] at hx
      exact htail hqueue hx
    · exact hxy
  | @account p e elapsedUs waiting z b floor hrunning hfloor hz hv hw =>
    rw [queue_set]
    split
    · next heq => exact heq ▸ hxy
    · exact hxy
  | @take p e es z b hqueue hz hv hw =>
    rw [queue_set] at hx ⊢
    split
    · next heq =>
      subst heq
      rw [if_pos rfl] at hx
      exact htail hqueue hx
    · exact hxy

/-- An entity that is enqueued comes after one with its virtual runtime. -/
lemma sublist_enqueue {priority : ℤ} {weight : ℕ} (hI : Inv s) (hx : x ∈ (s.queue q).queue)
    (h : (s.enqueue q y priority weight).2 = true)
    (hv : ((s.enqueue q y priority weight).1.entity x).vruntime =
      ((s.enqueue q y priority weight).1.entity y).vruntime) :
    [x, y].Sublist ((s.enqueue q y priority weight).1.queue q).queue := by
  unfold State.enqueue at h hv ⊢
  dsimp only at h hv ⊢
  split at h
  · cases h
  · rename_i hfree
    rw [if_neg hfree] at hv ⊢
    have hne : x ≠ y := by
      rintro rfl
      exact hfree (.inl (hI.linked q x hx))
    rw [entity_set, if_neg hne, entity_set, if_pos rfl] at hv
    rw [queue_set, if_pos rfl]
    exact sublist_insertUpper hx hv.le (hI.sorted q)

omit [DecidableEq E] [DecidableEq Q] in
/-- The second one of two is not the first in the queue. -/
lemma ne_cons_of_sublist {es : List E} (hI : Inv s) (hxy : [x, y].Sublist (s.queue q).queue) :
    (s.queue q).queue ≠ y :: es := by
  intro hqueue
  have hnodup := hI.nodup q
  rw [hqueue] at hxy hnodup
  refine (List.nodup_cons.mp hnodup).1 ?_
  rcases List.sublist_cons_iff.mp hxy with hsub | ⟨r, hr, hsub⟩
  · exact hsub.subset (List.mem_cons_of_mem _ (List.mem_singleton_self y))
  · obtain ⟨-, rfl⟩ := List.cons.inj hr
    exact hsub.subset (List.mem_singleton_self y)

/-- Two entities that stay in a queue during a run keep their order. -/
lemma sublist_run {ls : List (Label E Q)} (hI : Inv s) (hxy : [x, y].Sublist (s.queue q).queue)
    (h : (system E Q).runWhen (Both q x y) s ls = some s') (hx : x ∈ (s'.queue q).queue)
    (hy : y ∈ (s'.queue q).queue) : Inv s' ∧ [x, y].Sublist (s'.queue q).queue := by
  induction ls generalizing s with
  | nil =>
    cases h
    exact ⟨hI, hxy⟩
  | cons l ls ih =>
    rw [System.runWhen] at h
    split at h
    · obtain ⟨t, ht, hrest⟩ := Option.bind_eq_some_iff.mp h
      have hstep : next s l = some t := ht
      have hboth : x ∈ (t.queue q).queue ∧ y ∈ (t.queue q).queue := by
        cases ls with
        | nil =>
          cases hrest
          exact ⟨hx, hy⟩
        | cons k ks =>
          rw [System.runWhen] at hrest
          split at hrest
          · assumption
          · cases hrest
      exact ih (hI.next hstep) (sublist_next hI hxy hstep hboth.1) hrest
    · cases h

end Order

/-! ## Main result -/

/-- Weights are positive in every reachable state. -/
lemma one_le_weight_of_reachable {s : State E Q} (h : (system E Q).Reachable s) (e : E) :
    1 ≤ (s.entity e).weight := by
  refine h.induct (I := fun s => ∀ e, 1 ≤ (s.entity e).weight) ?_ ?_ e
  · rintro s rfl e
    exact le_rfl
  · intro s l s' hpos hs
    exact one_le_weight_next hpos hs

/-- In every state that is reached the queues pick in order: an entity that waits is overtaken
only a bounded number of times, and equals are picked in the order in which they came. -/
theorem ordered_of_reachable {s : State E Q} (h : (system E Q).Reachable s) : Ordered s where
  bounded q x y w ls s' hxy hown hw hrun := by
    refine (picks_le_room (inv_of_reachable h) (one_le_weight_of_reachable h) hxy hown hw
      hrun).trans ?_
    refine max_le_max le_rfl (add_le_add_right ?_ _)
    split
    · exact zero_le_one
    · exact le_rfl
  inOrder q x y priority weight ls s' hx hout hsucceeds hv hrun hx' hpick := by
    have hI := inv_of_reachable h
    have hqueue : ∃ es, (s'.queue q).queue = y :: es := by
      unfold State.pick at hpick
      dsimp only at hpick
      split at hpick
      · rename_i e es hrunning hes
        cases hpick
        exact ⟨es, hes⟩
      · cases hpick
    obtain ⟨es, hes⟩ := hqueue
    have hy' : y ∈ (s'.queue q).queue := by
      rw [hes]
      exact List.mem_cons_self
    obtain ⟨hI', hsub⟩ := sublist_run (hI.enqueue (.inl hout)) (sublist_enqueue hI hx hsucceeds hv)
      hrun hx' hy'
    exact ne_cons_of_sublist hI' hsub hes

/-- The entity `x` runs while `y` waits, and is enqueued again. -/
def fallBehind {E Q : Type*} (q : Q) (x y : E) : List (Label E Q) :=
  [.enqueue q x 1 2, .enqueue q y 1 2, .pick q, .account q x 4 false, .enqueue q x 1 2]

/-- The entity `y` runs and is enqueued again. -/
def overtake {E Q : Type*} (q : Q) (y : E) : List (Label E Q) :=
  [.pick q, .account q y 1 false, .enqueue q y 1 2]

/-- The other entity overtakes twice, and could do so at most five times. -/
theorem ordered_of_reachable_overtake : ∃ s : State (Fin 2) (Fin 1),
    (system (Fin 2) (Fin 1)).Reachable s ∧ (s.queue 0).queue = [1, 0] ∧ s.lead 0 0 1 = 2 ∧
      picks 0 1 s (overtake 0 1 ++ overtake 0 1) = 2 ∧ Ordered s := by
  have hrun : (system (Fin 2) (Fin 1)).endsIn {} (fallBehind 0 0 1)
      (fun s => (s.queue 0).queue = [1, 0] ∧ s.lead 0 0 1 = 2 ∧
        picks 0 1 s (overtake 0 1 ++ overtake 0 1) = 2) = true := by
    decide +kernel
  obtain ⟨s, hs, hqueue, hlead, hpicks⟩ := System.exists_of_endsIn rfl hrun
  exact ⟨s, hs, hqueue, hlead, hpicks, ordered_of_reachable hs⟩

end BbtCoroutine.Cfs
