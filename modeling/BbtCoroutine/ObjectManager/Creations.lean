import BbtCoroutine.ObjectManager.Model

/-!
# The creations of the managers

A creation holds its manager and the object that it has been given, and nobody else touches that
object.  Each lemma says that `Creations` survives one of the things that a step does.
-/

namespace BbtCoroutine.ObjectManager

variable {T M K Ob : Type*} {s t : State T M K Ob}

/-! ## The creations -/

/-- The object that a creation holds. -/
def Creation.owner (c : Creation M K Ob) : Option Ob :=
  match c.stage with
  | .creating => none
  | .delivered o | .informed o _ | .bucketed o _ | .keyed o _ _ | .indexed o _ | .counted o _ =>
    some o

/-- The object of a creation is as the creation has left it. -/
def Creation.Fits (c : Creation M K Ob) (s : State T M K Ob) : Prop :=
  match c.stage with
  | .creating => True
  | .delivered o | .informed o _ | .bucketed o _ | .keyed o _ _ =>
    o ∈ s.objects ∧ (s.member o).phase = .fresh
  | .indexed o info => o ∈ s.objects ∧ (s.member o).phase = .indexed ∧
    (s.member o).manager = some c.manager ∧ (s.member o).kindStats = some info.kind
  | .counted o info => o ∈ s.objects ∧ (s.member o).phase = .counted ∧
    (s.member o).manager = some c.manager ∧ (s.member o).kindStats = some info.kind

/-- What holds of the creations. -/
structure Creations (s : State T M K Ob) : Prop where
  users : ∀ u m, u ∈ s.users m ↔ ∃ c, s.creation u = some c ∧ c.manager = m
  alive : ∀ u c, s.creation u = some c → s.alive c.manager = true
  holder : ∀ o u, s.holder o = some u ↔ ∃ c, s.creation u = some c ∧ c.owner = some o
  fits : ∀ u c, s.creation u = some c → c.Fits s
  outside : ∀ o, o ∉ s.objects → (s.member o).phase = .fresh

/-- A creation depends on its object only. -/
lemma Creation.Fits.frame {c : Creation M K Ob} (h : c.Fits s) (hobj : s.objects ⊆ t.objects)
    (hm : ∀ o, c.owner = some o → t.member o = s.member o) : c.Fits t := by
  unfold Creation.Fits at h ⊢
  unfold Creation.owner at hm
  cases hst : c.stage with
  | creating => trivial
  | delivered o | informed o info | bucketed o info | keyed o info k | indexed o info
  | counted o info =>
    rw [hst] at h hm
    dsimp only at h hm ⊢
    rw [hm o rfl]
    exact ⟨hobj h.1, h.2⟩

/-- A step that changes no creation and no object that a creation holds. -/
lemma Creations.others (h : Creations s) (hc : t.creation = s.creation) (hu : t.users = s.users)
    (hh : t.holder = s.holder) (hobj : s.objects ⊆ t.objects)
    (ha : ∀ u c, s.creation u = some c → t.alive c.manager = s.alive c.manager)
    (hm : ∀ o, s.holder o ≠ none → t.member o = s.member o)
    (ho : ∀ o, o ∉ t.objects → (t.member o).phase = .fresh) : Creations t where
  users u m := by
    rw [hu, hc]
    exact h.users u m
  alive u c hcu := by
    rw [hc] at hcu
    rw [ha u c hcu]
    exact h.alive u c hcu
  holder o u := by
    rw [hh, hc]
    exact h.holder o u
  fits u c hcu := by
    rw [hc] at hcu
    refine (h.fits u c hcu).frame hobj fun o ho => hm o ?_
    rw [(h.holder o u).mpr ⟨c, hcu, ho⟩]
    exact Option.some_ne_none u
  outside := ho

/-- What a creation holds has been constructed, and it is not in the hands of its destructor. -/
lemma Creations.held (h : Creations s) {o : Ob} (ho : s.holder o ≠ none) : o ∈ s.objects ∧
    ((s.member o).phase = .fresh ∨ (s.member o).phase = .indexed ∨
      (s.member o).phase = .counted) := by
  obtain ⟨u, hu⟩ := Option.ne_none_iff_exists'.mp ho
  obtain ⟨c, hc, hco⟩ := (h.holder o u).mp hu
  have hfit := h.fits u c hc
  unfold Creation.Fits at hfit
  unfold Creation.owner at hco
  cases hst : c.stage with
  | creating =>
    rw [hst] at hco
    cases hco
  | delivered o' | informed o' info | bucketed o' info | keyed o' info k =>
    rw [hst] at hco hfit
    obtain rfl := Option.some.inj hco
    exact ⟨hfit.1, .inl hfit.2⟩
  | indexed o' info =>
    rw [hst] at hco hfit
    obtain rfl := Option.some.inj hco
    exact ⟨hfit.1, .inr (.inl hfit.2.1)⟩
  | counted o' info =>
    rw [hst] at hco hfit
    obtain rfl := Option.some.inj hco
    exact ⟨hfit.1, .inr (.inr hfit.2.1)⟩

/-- A creation holds objects that have been constructed. -/
lemma Creations.owner_mem (h : Creations s) {u : T} {c : Creation M K Ob}
    (hc : s.creation u = some c) {o : Ob} (ho : c.owner = some o) : o ∈ s.objects := by
  have hu := (h.holder o u).mpr ⟨c, hc, ho⟩
  refine (h.held ?_).1
  rw [hu]
  exact Option.some_ne_none u

variable [DecidableEq T]

/-- A creation that goes on, and keeps the object that it has. -/
lemma Creations.goesOn (h : Creations s) {u : T} {c : Creation M K Ob} {stage : Stage K Ob}
    (hc : s.creation u = some c)
    (ht : t.creation = Function.update s.creation u (some (c.at stage)))
    (hu : t.users = s.users) (hh : t.holder = s.holder) (hobj : t.objects = s.objects)
    (ha : t.alive = s.alive) (hown : (c.at stage).owner = c.owner)
    (hm : ∀ o, c.owner ≠ some o → t.member o = s.member o) (hf : (c.at stage).Fits t) :
    Creations t where
  users v m := by
    rw [hu, ht, h.users v m]
    by_cases hv : v = u
    · subst hv
      rw [Function.update_self, hc]
      constructor
      · rintro ⟨c', hc', rfl⟩
        obtain rfl := Option.some.inj hc'
        exact ⟨_, rfl, rfl⟩
      · rintro ⟨c', hc', rfl⟩
        obtain rfl := Option.some.inj hc'
        exact ⟨c, rfl, rfl⟩
    · rw [Function.update_of_ne hv]
  alive v c' hc' := by
    rw [ha]
    rw [ht] at hc'
    by_cases hv : v = u
    · subst hv
      rw [Function.update_self] at hc'
      obtain rfl := Option.some.inj hc'
      exact h.alive v c hc
    · rw [Function.update_of_ne hv] at hc'
      exact h.alive v c' hc'
  holder o v := by
    rw [hh, ht, h.holder o v]
    by_cases hv : v = u
    · subst hv
      rw [Function.update_self, hc]
      constructor
      · rintro ⟨c', hc', ho⟩
        obtain rfl := Option.some.inj hc'
        exact ⟨_, rfl, hown.trans ho⟩
      · rintro ⟨c', hc', ho⟩
        obtain rfl := Option.some.inj hc'
        exact ⟨c, rfl, hown.symm.trans ho⟩
    · rw [Function.update_of_ne hv]
  fits v c' hc' := by
    rw [ht] at hc'
    by_cases hv : v = u
    · subst hv
      rw [Function.update_self] at hc'
      obtain rfl := Option.some.inj hc'
      exact hf
    · rw [Function.update_of_ne hv] at hc'
      refine (h.fits v c' hc').frame (hobj ▸ Finset.Subset.refl _) fun o ho => hm o fun ho' => hv ?_
      have h₁ := (h.holder o v).mpr ⟨c', hc', ho⟩
      rw [(h.holder o u).mpr ⟨c, hc, ho'⟩] at h₁
      exact (Option.some.inj h₁).symm
  outside o ho := by
    rw [hobj] at ho
    by_cases hco : c.owner = some o
    · exact absurd (h.owner_mem hc hco) ho
    · rw [hm o hco]
      exact h.outside o ho

/-- A creation that begins. -/
lemma Creations.begins [DecidableEq M] (h : Creations s) {u : T} {c : Creation M K Ob}
    (hno : s.creation u = none) (hal : s.alive c.manager = true) (hst : c.stage = .creating)
    (ht : t.creation = Function.update s.creation u (some c))
    (hu : t.users = Function.update s.users c.manager (insert u (s.users c.manager)))
    (hh : t.holder = s.holder) (hobj : t.objects = s.objects) (ha : t.alive = s.alive)
    (hm : t.member = s.member) : Creations t where
  users v m := by
    rw [hu, ht]
    by_cases hv : v = u
    · subst hv
      rw [Function.update_self]
      by_cases hmm : m = c.manager
      · subst hmm
        rw [Function.update_self]
        exact iff_of_true (Finset.mem_insert_self _ _) ⟨c, rfl, rfl⟩
      · rw [Function.update_of_ne hmm, h.users v m, hno]
        constructor
        · rintro ⟨c', hc', -⟩
          cases hc'
        · rintro ⟨c', hc', hcm⟩
          obtain rfl := Option.some.inj hc'
          exact absurd hcm.symm hmm
    · rw [Function.update_of_ne hv, ← h.users v m]
      by_cases hmm : m = c.manager
      · subst hmm
        rw [Function.update_self, Finset.mem_insert]
        exact or_iff_right hv
      · rw [Function.update_of_ne hmm]
  alive v c' hc' := by
    rw [ha]
    rw [ht] at hc'
    by_cases hv : v = u
    · subst hv
      rw [Function.update_self] at hc'
      obtain rfl := Option.some.inj hc'
      exact hal
    · rw [Function.update_of_ne hv] at hc'
      exact h.alive v c' hc'
  holder o v := by
    rw [hh, ht, h.holder o v]
    by_cases hv : v = u
    · subst hv
      rw [Function.update_self, hno]
      constructor
      · rintro ⟨c', hc', -⟩
        cases hc'
      · rintro ⟨c', hc', ho⟩
        obtain rfl := Option.some.inj hc'
        unfold Creation.owner at ho
        rw [hst] at ho
        cases ho
    · rw [Function.update_of_ne hv]
  fits v c' hc' := by
    rw [ht] at hc'
    by_cases hv : v = u
    · subst hv
      rw [Function.update_self] at hc'
      obtain rfl := Option.some.inj hc'
      unfold Creation.Fits
      rw [hst]
      trivial
    · rw [Function.update_of_ne hv] at hc'
      exact (h.fits v c' hc').frame (hobj ▸ Finset.Subset.refl _) fun o _ => by rw [hm]
  outside o ho := by
    rw [hobj] at ho
    rw [hm]
    exact h.outside o ho

/-- The creator delivers an object that nobody holds. -/
lemma Creations.delivers [DecidableEq Ob] (h : Creations s) {u : T} {c : Creation M K Ob} {o : Ob}
    (hc : s.creation u = some c) (hst : c.owner = none) (hin : o ∈ s.objects)
    (hfree : s.holder o = none) (hph : (s.member o).phase = .fresh)
    (ht : t.creation = Function.update s.creation u (some (c.at (.delivered o))))
    (hu : t.users = s.users) (hh : t.holder = Function.update s.holder o (some u))
    (hobj : t.objects = s.objects) (ha : t.alive = s.alive) (hm : t.member = s.member) :
    Creations t where
  users v m := by
    rw [hu, ht, h.users v m]
    by_cases hv : v = u
    · subst hv
      rw [Function.update_self, hc]
      constructor
      · rintro ⟨c', hc', rfl⟩
        obtain rfl := Option.some.inj hc'
        exact ⟨_, rfl, rfl⟩
      · rintro ⟨c', hc', rfl⟩
        obtain rfl := Option.some.inj hc'
        exact ⟨c, rfl, rfl⟩
    · rw [Function.update_of_ne hv]
  alive v c' hc' := by
    rw [ha]
    rw [ht] at hc'
    by_cases hv : v = u
    · subst hv
      rw [Function.update_self] at hc'
      obtain rfl := Option.some.inj hc'
      exact h.alive v c hc
    · rw [Function.update_of_ne hv] at hc'
      exact h.alive v c' hc'
  holder k v := by
    rw [hh, ht]
    by_cases hk : k = o
    · subst hk
      rw [Function.update_self]
      by_cases hv : v = u
      · subst hv
        rw [Function.update_self]
        exact iff_of_true rfl ⟨_, rfl, rfl⟩
      · rw [Function.update_of_ne hv, ← h.holder k v, hfree]
        exact iff_of_false (fun he => hv (Option.some.inj he).symm) fun he => by cases he
    · rw [Function.update_of_ne hk, h.holder k v]
      by_cases hv : v = u
      · subst hv
        rw [Function.update_self, hc]
        constructor
        · rintro ⟨c', hc', ho⟩
          obtain rfl := Option.some.inj hc'
          rw [hst] at ho
          cases ho
        · rintro ⟨c', hc', ho⟩
          obtain rfl := Option.some.inj hc'
          exact absurd (Option.some.inj ho).symm hk
      · rw [Function.update_of_ne hv]
  fits v c' hc' := by
    rw [ht] at hc'
    by_cases hv : v = u
    · subst hv
      rw [Function.update_self] at hc'
      obtain rfl := Option.some.inj hc'
      show o ∈ t.objects ∧ (t.member o).phase = .fresh
      rw [hobj, hm]
      exact ⟨hin, hph⟩
    · rw [Function.update_of_ne hv] at hc'
      exact (h.fits v c' hc').frame (hobj ▸ Finset.Subset.refl _) fun o _ => by rw [hm]
  outside k hk := by
    rw [hobj] at hk
    rw [hm]
    exact h.outside k hk

/-- A creation that returns or throws, and lets go of its object. -/
lemma Creations.ends [DecidableEq M] [DecidableEq Ob] (h : Creations s) {u : T}
    {c : Creation M K Ob} (hc : s.creation u = some c)
    (ht : t.creation = (s.finish u c.manager c.owner).creation)
    (hu : t.users = (s.finish u c.manager c.owner).users)
    (hh : t.holder = (s.finish u c.manager c.owner).holder) (hobj : t.objects = s.objects)
    (ha : t.alive = s.alive) (hm : ∀ o, c.owner ≠ some o → t.member o = s.member o) :
    Creations t where
  users v m := by
    rw [hu, ht]
    simp only [State.finish]
    by_cases hv : v = u
    · subst hv
      rw [Function.update_self]
      by_cases hmm : m = c.manager
      · subst hmm
        rw [Function.update_self]
        exact iff_of_false (Finset.notMem_erase _ _) fun ⟨c', hc', _⟩ => by cases hc'
      · rw [Function.update_of_ne hmm, h.users v m, hc]
        constructor
        · rintro ⟨c', hc', hcm⟩
          obtain rfl := Option.some.inj hc'
          exact absurd hcm.symm hmm
        · rintro ⟨c', hc', -⟩
          cases hc'
    · rw [Function.update_of_ne hv, ← h.users v m]
      by_cases hmm : m = c.manager
      · subst hmm
        rw [Function.update_self, Finset.mem_erase]
        exact and_iff_right hv
      · rw [Function.update_of_ne hmm]
  alive v c' hc' := by
    rw [ha]
    rw [ht] at hc'
    simp only [State.finish] at hc'
    by_cases hv : v = u
    · subst hv
      rw [Function.update_self] at hc'
      cases hc'
    · rw [Function.update_of_ne hv] at hc'
      exact h.alive v c' hc'
  holder o v := by
    rw [hh, ht]
    simp only [State.finish]
    have hone : c.owner = some o → s.holder o = some u := fun ho => (h.holder o u).mpr ⟨c, hc, ho⟩
    by_cases ho : c.owner = some o
    · rw [if_pos ho]
      refine iff_of_false (fun he => by cases he) ?_
      rintro ⟨c', hc', ho'⟩
      by_cases hv : v = u
      · subst hv
        rw [Function.update_self] at hc'
        cases hc'
      · rw [Function.update_of_ne hv] at hc'
        have hv' := (h.holder o v).mpr ⟨c', hc', ho'⟩
        rw [hone ho] at hv'
        exact hv (Option.some.inj hv').symm
    · rw [if_neg ho, h.holder o v]
      by_cases hv : v = u
      · subst hv
        rw [Function.update_self, hc]
        constructor
        · rintro ⟨c', hc', ho'⟩
          obtain rfl := Option.some.inj hc'
          exact absurd ho' ho
        · rintro ⟨c', hc', -⟩
          cases hc'
      · rw [Function.update_of_ne hv]
  fits v c' hc' := by
    rw [ht] at hc'
    simp only [State.finish] at hc'
    by_cases hv : v = u
    · subst hv
      rw [Function.update_self] at hc'
      cases hc'
    · rw [Function.update_of_ne hv] at hc'
      refine (h.fits v c' hc').frame (hobj ▸ Finset.Subset.refl _) fun o ho => hm o fun ho' => hv ?_
      have h₁ := (h.holder o v).mpr ⟨c', hc', ho⟩
      rw [(h.holder o u).mpr ⟨c, hc, ho'⟩] at h₁
      exact (Option.some.inj h₁).symm
  outside o ho := by
    rw [hobj] at ho
    by_cases hco : c.owner = some o
    · exact absurd (h.owner_mem hc hco) ho
    · rw [hm o hco]
      exact h.outside o ho

end BbtCoroutine.ObjectManager
