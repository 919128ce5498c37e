import BbtCoroutine.ObjectManager.Model
import Mathlib.Algebra.Order.Ring.Nat
import Mathlib.Data.Finset.Card

/-!
# The accounts of the managers

An account is that of a manager or that of a kind.  `Moves` lists what a step can do to the
accounts: it moves one account by one member, or none.
-/

namespace BbtCoroutine.ObjectManager

variable {T M K Ob : Type*} [DecidableEq M] {s t : State T M K Ob}

/-! ## What an account counts -/

/-- The account counts a member in this phase. -/
def Phase.charged (p : Phase) : Account M → Bool
  | .manager _ => p = .counted || p = .live
  | .kind _ => p = .live || p = .settled

/-- The account has counted the member. -/
def Phase.opened (p : Phase) : Account M → Bool
  | .manager _ => !(p = .fresh || p = .indexed || p = .discarded)
  | .kind _ => !(p = .fresh || p = .indexed || p = .counted || p = .discarded)

/-- The member is in the index, unless its manager has been destroyed. -/
def Phase.registered (p : Phase) : Bool := !(p = .fresh || p = .gone || p = .discarded)

/-- The account is that of the manager or of the kind of the member. -/
def Member.belongs (x : Member M K) : Account M → Bool
  | .manager m => x.manager = some m
  | .kind c => x.kindStats = some c

/-- The account counts the member now. -/
def Member.charged (x : Member M K) (a : Account M) : Bool := x.belongs a && x.phase.charged a

/-- The account has counted the member. -/
def Member.opened (x : Member M K) (a : Account M) : Bool := x.belongs a && x.phase.opened a

/-- The object has been registered, and its destructor has not begun. -/
def Member.committed (x : Member M K) (a : Account M) : Bool := x.belongs a && x.phase = .live

/-! ## The accounts -/

/-- What holds of one account. -/
structure AccountInv (s : State T M K Ob) (a : Account M) : Prop where
  inside : ∀ o, (s.member o).charged a = true → o ∈ s.objects
  balance : (s.counters a).created = (s.counters a).destroyed + (s.counters a).alive
  alive : (s.counters a).alive = (s.objects.filter fun o => (s.member o).charged a).card
  le_peak : (s.counters a).alive ≤ (s.counters a).peak
  created : ∀ o, s.created a o = ((s.member o).opened a).toNat
  destroyed : ∀ o, s.destroyed a o + ((s.member o).charged a).toNat = s.created a o

/-- What holds of the accounts. -/
def Accounts (s : State T M K Ob) : Prop := ∀ a, AccountInv s a

/-- The accounts see the same of an object. -/
def Same (x y : Member M K) (a : Account M) : Prop :=
  y.charged a = x.charged a ∧ y.opened a = x.opened a

variable [DecidableEq Ob]

/-- What a step does to the accounts. -/
inductive Moves (s t : State T M K Ob) : Prop
  | quiet (hobj : s.objects ⊆ t.objects) (hc : t.counters = s.counters)
      (hcr : t.created = s.created) (hd : t.destroyed = s.destroyed)
      (hx : ∀ a o, Same (s.member o) (t.member o) a)
  | opens (a : Account M) (o : Ob) (hobj : t.objects = s.objects) (ho : o ∈ s.objects)
      (hc : t.counters = (s.onCreate a o).counters) (hcr : t.created = (s.onCreate a o).created)
      (hd : t.destroyed = s.destroyed)
      (hx : ∀ b k, k ≠ o ∨ b ≠ a → Same (s.member k) (t.member k) b)
      (hs : (s.member o).opened a = false) (ht : (t.member o).charged a = true)
      (ht' : (t.member o).opened a = true)
  | settles (a : Account M) (o : Ob) (hobj : t.objects = s.objects)
      (hc : t.counters = (s.onDestroy a o).counters) (hcr : t.created = s.created)
      (hd : t.destroyed = (s.onDestroy a o).destroyed)
      (hx : ∀ b k, k ≠ o ∨ b ≠ a → Same (s.member k) (t.member k) b)
      (hs : (s.member o).charged a = true) (ht : (t.member o).charged a = false)
      (ht' : (t.member o).opened a = true)

omit [DecidableEq Ob] in
/-- A member that is counted has been counted before. -/
lemma Member.opened_of_charged {x : Member M K} {a : Account M} (h : x.charged a = true) :
    x.opened a = true := by
  obtain ⟨hb, hp⟩ := Bool.and_eq_true_iff.mp h
  refine Bool.and_eq_true_iff.mpr ⟨hb, ?_⟩
  cases a with
  | manager m | kind c => cases hx : x.phase <;> rw [hx] at hp <;> first | rfl | cases hp

omit [DecidableEq Ob] in
/-- A member that has not been counted is not counted. -/
lemma Member.not_charged {x : Member M K} {a : Account M} (ho : x.opened a = false) :
    x.charged a = false := by
  cases hc : x.charged a with
  | false => rfl
  | true =>
    rw [Member.opened_of_charged hc] at ho
    cases ho

namespace AccountInv

variable {a : Account M} {o : Ob}

omit [DecidableEq Ob] in
/-- A step that does not touch an account keeps it exact. -/
lemma same (h : AccountInv s a) (hobj : s.objects ⊆ t.objects)
    (hc : t.counters a = s.counters a) (hcr : t.created a = s.created a)
    (hd : t.destroyed a = s.destroyed a) (hx : ∀ o, Same (s.member o) (t.member o) a) :
    AccountInv t a where
  inside o ho := by
    rw [(hx o).1] at ho
    exact hobj (h.inside o ho)
  balance := by
    rw [hc]
    exact h.balance
  alive := by
    rw [hc, h.alive]
    congr 1
    ext o
    rw [Finset.mem_filter, Finset.mem_filter, (hx o).1]
    exact and_congr_left fun ho => iff_of_true (h.inside o ho) (hobj (h.inside o ho))
  le_peak := by
    rw [hc]
    exact h.le_peak
  created o := by
    rw [hcr, (hx o).2]
    exact h.created o
  destroyed o := by
    rw [hcr, hd, (hx o).1]
    exact h.destroyed o

/-- `OnCreate` of an account for a member that it has not counted keeps it exact. -/
lemma onCreate (h : AccountInv s a) (hobj : t.objects = s.objects) (ho : o ∈ s.objects)
    (hc : t.counters = (s.onCreate a o).counters) (hcr : t.created = (s.onCreate a o).created)
    (hd : t.destroyed = s.destroyed) (hx : ∀ k, k ≠ o → Same (s.member k) (t.member k) a)
    (hs : (s.member o).opened a = false) (ht : (t.member o).charged a = true)
    (ht' : (t.member o).opened a = true) : AccountInv t a := by
  have hs' := Member.not_charged hs
  have hself : t.counters a = (s.counters a).onCreate := by
    rw [hc]
    exact Function.update_self _ _ _
  have hrecord : t.created a = Function.update (s.created a) o (s.created a o + 1) := by
    rw [hcr]
    exact Function.update_self _ _ _
  have hfilter : t.objects.filter (fun k => (t.member k).charged a = true) =
      insert o (s.objects.filter fun k => (s.member k).charged a = true) := by
    ext k
    rw [Finset.mem_insert, Finset.mem_filter, Finset.mem_filter, hobj]
    by_cases hk : k = o
    · subst hk
      exact iff_of_true ⟨ho, ht⟩ (.inl rfl)
    · rw [(hx k hk).1]
      exact (or_iff_right hk).symm
  have hnot : o ∉ s.objects.filter fun k => (s.member k).charged a = true := by
    intro hm
    rw [(Finset.mem_filter.mp hm).2] at hs'
    cases hs'
  refine ⟨fun k hk => ?_, ?_, ?_, ?_, fun k => ?_, fun k => ?_⟩
  · rw [hobj]
    by_cases hko : k = o
    · exact hko ▸ ho
    · rw [(hx k hko).1] at hk
      exact h.inside k hk
  · have hbal := h.balance
    rw [hself]
    show (s.counters a).created + 1 = (s.counters a).destroyed + ((s.counters a).alive + 1)
    omega
  · rw [hself, hfilter, Finset.card_insert_of_notMem hnot, ← h.alive]
    rfl
  · rw [hself]
    exact Nat.le_max_right _ _
  · rw [hrecord]
    by_cases hk : k = o
    · have hz := h.created o
      rw [hs] at hz
      simp [hk, hz, ht']
    · rw [Function.update_of_ne hk, (hx k hk).2]
      exact h.created k
  · rw [hrecord, hd]
    by_cases hk : k = o
    · have hz := h.destroyed o
      rw [hs'] at hz
      simp [hk, ht, ← hz]
    · rw [Function.update_of_ne hk, (hx k hk).1]
      exact h.destroyed k

/-- `OnDestroy` of an account for a member that it counts keeps it exact. -/
lemma onDestroy (h : AccountInv s a) (hobj : t.objects = s.objects)
    (hc : t.counters = (s.onDestroy a o).counters) (hcr : t.created = s.created)
    (hd : t.destroyed = (s.onDestroy a o).destroyed)
    (hx : ∀ k, k ≠ o → Same (s.member k) (t.member k) a)
    (hs : (s.member o).charged a = true) (ht : (t.member o).charged a = false)
    (ht' : (t.member o).opened a = true) : AccountInv t a := by
  have hself : t.counters a = (s.counters a).onDestroy := by
    rw [hc]
    exact Function.update_self _ _ _
  have hrecord : t.destroyed a = Function.update (s.destroyed a) o (s.destroyed a o + 1) := by
    rw [hd]
    exact Function.update_self _ _ _
  have hmem : o ∈ s.objects.filter fun k => (s.member k).charged a = true :=
    Finset.mem_filter.mpr ⟨h.inside o hs, hs⟩
  have hfilter : t.objects.filter (fun k => (t.member k).charged a = true) =
      (s.objects.filter fun k => (s.member k).charged a = true).erase o := by
    ext k
    rw [Finset.mem_erase, Finset.mem_filter, Finset.mem_filter, hobj]
    by_cases hk : k = o
    · subst hk
      rw [ht]
      exact iff_of_false (fun hm => by cases hm.2) fun hm => hm.1 rfl
    · rw [(hx k hk).1]
      exact (and_iff_right hk).symm
  have hpos : 0 < (s.counters a).alive := by
    rw [h.alive]
    exact Finset.card_pos.mpr ⟨o, hmem⟩
  refine ⟨fun k hk => ?_, ?_, ?_, ?_, fun k => ?_, fun k => ?_⟩
  · rw [hobj]
    by_cases hko : k = o
    · exact h.inside k (hko ▸ hs)
    · rw [(hx k hko).1] at hk
      exact h.inside k hk
  · have hbal := h.balance
    rw [hself]
    show (s.counters a).created = (s.counters a).destroyed + 1 + ((s.counters a).alive - 1)
    omega
  · rw [hself, hfilter, Finset.card_erase_of_mem hmem, ← h.alive]
    rfl
  · rw [hself]
    exact (Nat.sub_le _ _).trans h.le_peak
  · rw [hcr, h.created k]
    by_cases hk : k = o
    · rw [hk, ht', Member.opened_of_charged hs]
    · rw [(hx k hk).2]
  · rw [hcr, hrecord]
    by_cases hk : k = o
    · have hz := h.destroyed o
      rw [hs] at hz
      simp [hk, ht, ← hz]
    · rw [Function.update_of_ne hk, (hx k hk).1]
      exact h.destroyed k

end AccountInv

/-- A step keeps the accounts exact. -/
lemma Moves.accounts (h : Moves s t) (hA : Accounts s) : Accounts t := by
  intro b
  cases h with
  | quiet hobj hc hcr hd hx => exact (hA b).same hobj (by rw [hc]) (by rw [hcr]) (by rw [hd]) (hx b)
  | opens a o hobj ho hc hcr hd hx hs ht ht' =>
    by_cases hb : b = a
    · subst hb
      exact (hA b).onCreate hobj ho hc hcr hd (fun k hk => hx b k (.inl hk)) hs ht ht'
    · exact (hA b).same hobj.ge (by rw [hc]; exact Function.update_of_ne hb _ _)
        (by rw [hcr]; exact Function.update_of_ne hb _ _) (by rw [hd])
        fun k => hx b k (.inr hb)
  | settles a o hobj hc hcr hd hx hs ht ht' =>
    by_cases hb : b = a
    · subst hb
      exact (hA b).onDestroy hobj hc hcr hd (fun k hk => hx b k (.inl hk)) hs ht ht'
    · exact (hA b).same hobj.ge (by rw [hc]; exact Function.update_of_ne hb _ _) (by rw [hcr])
        (by rw [hd]; exact Function.update_of_ne hb _ _) fun k => hx b k (.inr hb)

/-- A step moves a peak only with the number that is alive. -/
lemma Moves.peak (h : Moves s t) (hA : Accounts s) (b : Account M) :
    (t.counters b).peak = max (s.counters b).peak (t.counters b).alive := by
  have hsame : (s.counters b).peak = max (s.counters b).peak (s.counters b).alive :=
    (max_eq_left (hA b).le_peak).symm
  cases h with
  | quiet hobj hc => rwa [hc]
  | opens a o hobj ho hc =>
    by_cases hb : b = a
    · have hself : t.counters b = (s.counters b).onCreate := by
        rw [hc, hb]
        exact Function.update_self _ _ _
      rw [hself]
      rfl
    · have hother : t.counters b = s.counters b := by
        rw [hc]
        exact Function.update_of_ne hb _ _
      rwa [hother]
  | settles a o hobj hc =>
    by_cases hb : b = a
    · have hself : t.counters b = (s.counters b).onDestroy := by
        rw [hc, hb]
        exact Function.update_self _ _ _
      rw [hself]
      exact (max_eq_left ((Nat.sub_le _ _).trans (hA b).le_peak)).symm
    · have hother : t.counters b = s.counters b := by
        rw [hc]
        exact Function.update_of_ne hb _ _
      rwa [hother]

end BbtCoroutine.ObjectManager
