import BbtCoroutine.StackBudget.Paths
import Mathlib.Algebra.Order.BigOperators.Group.List
import Mathlib.Data.Finset.Card

/-!
# The walk over the call graph

`walk_sound` says what a walk that leaves nothing unknown has seen, and `walk_runs` that a walk
over a known function leaves nothing unknown and returns, unless a call path is too large.  The
cache may hold a result that is too small, of a function that is on a cycle or reaches one; but
then something is unknown already, and stays so.
-/

namespace BbtCoroutine.StackBudget

variable {O S : Type} [DecidableEq O] [LinearOrder S] {g : Context O S} {k : O × S}

/-! ## The result for one function -/

/-- A sequence of computations that succeeds is one of computations that succeed. -/
lemma bind_eq_ok {α β : Type} {x : Except Error α} {f : α → Except Error β} {b : β} :
    x >>= f = .ok b ↔ ∃ a, x = .ok a ∧ f a = .ok b := by
  cases x with
  | error e =>
    constructor
    · intro h
      cases h
    · rintro ⟨a, ha, -⟩
      cases ha
  | ok a =>
    constructor
    · intro h
      exact ⟨a, rfl, h⟩
    · rintro ⟨a', ha, h⟩
      cases ha
      exact h

/-- A sum that did not overflow is the sum. -/
lemma add_eq_ok {l : List ℕ} {n : ℕ} (h : add l = .ok n) : n = l.sum := by
  unfold add at h
  split at h
  · exact (Except.ok.inj h).symm
  · cases h

/-- The child of `k` for the target `t` is the result for a function, or a summary. -/
def IsChild (g : Context O S) (k : O × S) (t : S) (r : Total O S) : Prop :=
  (∃ k', g.resolve k.1 t = some k' ∧ Correct g k' r) ∨
    g.resolve k.1 t = none ∧ ∃ n, g.external t = some n ∧ r = externalTotal t n

/-- The children are those of the targets. -/
structure AreChildren (g : Context O S) (k : O × S) (ts : List S) (rs : List (Total O S)) :
    Prop where
  complete : ∀ t ∈ ts, ∃ r ∈ rs, IsChild g k t r
  sound : ∀ r ∈ rs, ∃ t ∈ ts, IsChild g k t r

/-- What can follow the frame of `k` on a call path. -/
structure Follows (g : Context O S) (k : O × S) (f : Frame S) (r : Total O S) : Prop where
  path : CallPath g k (compilerItem k f.stack.bytes :: r.path)
  cost : cost g.abi r.path = r.conditional
  depth : r.path.length = r.depth
  staticPath : CallPath g k (compilerItem k f.stack.bytes :: r.staticPath)
  raw : rawCost r.staticPath = r.raw

/-- Nothing follows a frame without targets. -/
lemma follows_nothing {f : Frame S} (hf : g.frame k = some f) : Follows g k f {} :=
  ⟨.stop hf, rfl, rfl, .stop hf, rfl⟩

/-- The report of a child follows the frame. -/
lemma IsChild.follows {f : Frame S} {t : S} {r : Total O S} (h : IsChild g k t r)
    (hf : g.frame k = some f) (ht : t ∈ f.targets) : Follows g k f r := by
  obtain ⟨k', hk', hr⟩ | ⟨hnone, n, hn, rfl⟩ := h
  · have hc : Calls g k k' := ⟨f, hf, t, ht, hk'⟩
    obtain ⟨hp, hcost, hdepth⟩ := hr.path
    exact ⟨.call hf hc hp, hcost, hdepth, .call hf hc hr.staticPath.1, hr.staticPath.2⟩
  · exact ⟨.external hf ht hnone hn, rfl, rfl, .stop hf, rfl⟩

omit [DecidableEq O] [LinearOrder S] in
/-- The largest child is a child, if there is one. -/
lemma getD_argmax (f : Total O S → ℕ) (rs : List (Total O S)) :
    (rs = [] ∧ (rs.argmax f).getD {} = {}) ∨
      (rs.argmax f).getD {} ∈ rs ∧ ∀ r ∈ rs, f r ≤ f ((rs.argmax f).getD {}) := by
  cases hm : rs.argmax f with
  | none =>
    have hnil := List.argmax_eq_none.mp hm
    exact .inl ⟨hnil, rfl⟩
  | some m => exact .inr ⟨List.argmax_mem hm, fun r hr => List.le_of_mem_argmax hr hm⟩

/-- The deepest of the reports of the children follows the frame. -/
lemma AreChildren.follows {f : Frame S} {rs : List (Total O S)} {m : Total O S → ℕ}
    (h : AreChildren g k f.targets rs) (hf : g.frame k = some f) :
    Follows g k f ((rs.argmax m).getD {}) := by
  obtain ⟨-, he⟩ | ⟨hm, -⟩ := getD_argmax m rs
  · rw [he]
    exact follows_nothing hf
  · obtain ⟨t, ht, hc⟩ := h.sound _ hm
    exact hc.follows hf ht

/-- A call path from `k` is its frame, or goes on as one of the children. -/
lemma AreChildren.cases {f : Frame S} {rs : List (Total O S)} {p : List (Item O S)}
    (h : AreChildren g k f.targets rs) (hf : g.frame k = some f) (hp : CallPath g k p) :
    ∃ q, p = compilerItem k f.stack.bytes :: q ∧ (q = [] ∨
      ∃ r ∈ rs, rawCost q ≤ r.raw ∧ cost g.abi q ≤ r.conditional) := by
  cases hp with
  | stop hf' =>
    rw [hf] at hf'
    obtain rfl := Option.some.inj hf'
    exact ⟨[], rfl, .inl rfl⟩
  | external hf' ht hr he =>
    rw [hf] at hf'
    obtain rfl := Option.some.inj hf'
    obtain ⟨r, hm, hc⟩ := h.complete _ ht
    refine ⟨_, rfl, .inr ⟨r, hm, ?_⟩⟩
    obtain ⟨k', hk', -⟩ | ⟨-, n, hn, rfl⟩ := hc
    · rw [hr] at hk'
      cases hk'
    · rw [he] at hn
      obtain rfl := Option.some.inj hn
      exact ⟨Nat.le_refl _, Nat.le_refl _⟩
  | call hf' hc hp =>
    rw [hf] at hf'
    obtain rfl := Option.some.inj hf'
    obtain ⟨f', hf'', t, ht, hk'⟩ := hc
    rw [hf] at hf''
    obtain rfl := Option.some.inj hf''
    obtain ⟨r, hm, hc⟩ := h.complete t ht
    refine ⟨_, rfl, .inr ⟨r, hm, ?_⟩⟩
    obtain ⟨k'', hk'', hr⟩ | ⟨hnone, -⟩ := hc
    · rw [hk'] at hk''
      obtain rfl := Option.some.inj hk''
      exact ⟨hr.raw.2 ⟨_, hp, rfl⟩, hr.conditional.2 ⟨_, hp, rfl⟩⟩
    · rw [hk'] at hnone
      cases hnone

/-- The result for a function is correct if those for its targets are. -/
lemma AreChildren.correct {f : Frame S} {rs : List (Total O S)} {r : Total O S}
    (h : AreChildren g k f.targets rs) (hf : g.frame k = some f)
    (hr : combine k f.stack.bytes g.abi rs = .ok r) : Correct g k r := by
  unfold combine at hr
  obtain ⟨n, hn, hr⟩ := bind_eq_ok.mp hr
  obtain ⟨m, hm, hr⟩ := bind_eq_ok.mp hr
  obtain rfl := Except.ok.inj hr
  have hraw := h.follows (m := Total.raw) hf
  have hbest := h.follows (m := Total.conditional) hf
  have hn' : n = f.stack.bytes + ((rs.argmax Total.raw).getD {}).raw := by
    rw [add_eq_ok hn]
    simp
  have hm' : m = f.stack.bytes + g.abi + ((rs.argmax Total.conditional).getD {}).conditional := by
    rw [add_eq_ok hm]
    simp [Nat.add_assoc]
  have hcost : cost g.abi (compilerItem k f.stack.bytes ::
      ((rs.argmax Total.conditional).getD {}).path) = m := by
    rw [cost_cons, hbest.cost, hm']
  have hrawCost : rawCost (compilerItem k f.stack.bytes ::
      ((rs.argmax Total.raw).getD {}).staticPath) = n := by
    rw [rawCost_cons, hraw.raw, hn']
  refine ⟨⟨⟨_, hraw.staticPath, hrawCost⟩, ?_⟩, ⟨⟨_, hbest.path, hcost⟩, ?_⟩,
    ⟨hbest.path, hcost, ?_⟩, hraw.staticPath, hrawCost⟩
  · rintro _ ⟨p, hp, rfl⟩
    obtain ⟨q, rfl, rfl | ⟨r, hrs, hle, -⟩⟩ := h.cases hf hp
    · rw [rawCost_cons]
      exact hn' ▸ Nat.add_le_add_left (Nat.zero_le _) _
    · rw [rawCost_cons, hn']
      obtain ⟨rfl, -⟩ | ⟨-, hmax⟩ := getD_argmax Total.raw rs
      · cases hrs
      · exact Nat.add_le_add_left (hle.trans (hmax r hrs)) _
  · rintro _ ⟨p, hp, rfl⟩
    obtain ⟨q, rfl, rfl | ⟨r, hrs, -, hle⟩⟩ := h.cases hf hp
    · rw [cost_cons]
      exact hm' ▸ Nat.add_le_add_left (Nat.zero_le _) _
    · rw [cost_cons, hm']
      obtain ⟨rfl, -⟩ | ⟨-, hmax⟩ := getD_argmax Total.conditional rs
      · cases hrs
      · exact Nat.add_le_add_left (hle.trans (hmax r hrs)) _
  · rw [List.length_cons, hbest.depth, Nat.add_comm]

/-! ## What a walk that leaves nothing unknown has seen -/

/-- A frame has no mismatches if its graph and the machine code name the same targets. -/
lemma Frame.mismatches_eq_nil {f : Frame S} :
    f.mismatches = [] ↔ ∀ x, x ∈ f.graph ↔ x ∈ f.machine := by
  have hmem : ∀ x, x ∈ f.mismatches ↔
      x ∈ f.graph ∧ x ∉ f.machine ∨ x ∈ f.machine ∧ x ∉ f.graph := by
    intro x
    simp [Frame.mismatches]
  rw [List.eq_nil_iff_forall_not_mem]
  refine forall_congr' fun x => ?_
  rw [hmem]
  tauto

/-- A frame without reasons to doubt it has been analysed. -/
lemma Analysed.of_reasons {f : Frame S} (hf : g.frame k = some f) (hr : f.reasons k = [])
    (hs : g.selects k = .ok) (ht : ∀ t ∈ f.targets, g.resolve k.1 t ≠ none ∨ g.external t ≠ none) :
    Analysed g k f := by
  simp only [Frame.reasons, List.append_eq_nil_iff] at hr
  obtain ⟨⟨⟨hstatic, hstrong⟩, htransfers⟩, hmatching⟩ := hr
  have hone : ∀ t ∈ f.transfers, t.target ≠ none ∧ t.offset = false := by
    intro t hm
    have hnil := List.flatMap_eq_nil_iff.mp htransfers t hm
    unfold Frame.transferReasons at hnil
    split at hnil
    · cases hnil
    · rename_i hsome
      refine ⟨by rw [hsome]; exact Option.some_ne_none _, ?_⟩
      split at hnil
      · cases hnil
      · rename_i hoff
        exact Bool.eq_false_of_not_eq_true hoff
  refine ⟨hf, ?_, ?_, fun t hm => (hone t hm).1, fun t hm => (hone t hm).2, ?_, hs, ht⟩
  · split at hstatic
    · cases hstatic
    · rename_i hq
      exact not_not.mp hq
  · split at hstrong
    · cases hstrong
    · rename_i hw
      exact Bool.eq_false_of_not_eq_true hw
  · exact Frame.mismatches_eq_nil.mp (List.map_eq_nil_iff.mp hmatching)

/-- There is no reason to doubt a frame that has been analysed. -/
lemma Analysed.reasons {f : Frame S} (h : Analysed g k f) : f.reasons k = [] := by
  simp only [Frame.reasons, List.append_eq_nil_iff]
  refine ⟨⟨⟨if_neg (not_not.mpr h.static), if_neg (by rw [h.strong]; exact Bool.false_ne_true)⟩,
    ?_⟩, ?_⟩
  · refine List.flatMap_eq_nil_iff.mpr fun t hm => ?_
    unfold Frame.transferReasons
    split
    · rename_i hnone
      exact absurd hnone (h.direct t hm)
    · exact if_neg (by rw [h.whole t hm]; exact Bool.false_ne_true)
  · rw [Frame.mismatches_eq_nil.mpr h.matching]
    rfl

/-- A result in the cache is correct, if nothing is unknown. -/
def CacheOk (g : Context O S) (st : WalkState O S) : Prop :=
  ∀ k r, st.cache k = some r → st.unknown = ∅ → Known g k ∧ Correct g k r

/-- What is known of a walk that returns. -/
def Sound (g : Context O S)
    (rec : O × S → WalkState O S → Except Error (Total O S × WalkState O S)) : Prop :=
  ∀ k st r st', rec k st = .ok (r, st') → CacheOk g st →
    st.unknown ⊆ st'.unknown ∧ CacheOk g st' ∧ (st'.unknown = ∅ → Known g k ∧ Correct g k r)

omit [DecidableEq O] [LinearOrder S] in
/-- A part of the empty set is empty. -/
lemma subset_empty {s t : Finset (Reason O S)} (h : s ⊆ t) (ht : t = ∅) : s = ∅ :=
  Finset.subset_empty.mp (ht ▸ h)

/-- The cache stays in order while nothing is forgotten. -/
lemma CacheOk.mono {st st' : WalkState O S} (h : CacheOk g st) (hc : st'.cache = st.cache)
    (hu : st.unknown ⊆ st'.unknown) : CacheOk g st' := by
  intro k r hr he
  rw [hc] at hr
  exact h k r hr (subset_empty hu he)

/-- Noting reasons forgets none. -/
lemma subset_note (st : WalkState O S) (l : List (Reason O S)) :
    st.unknown ⊆ (st.note l).unknown := Finset.subset_union_left

/-- A reason that is noted leaves something unknown. -/
lemma nil_of_note {st : WalkState O S} {l : List (Reason O S)}
    (h : (st.note l).unknown = ∅) : l = [] :=
  List.toFinset_eq_empty_iff l |>.mp (subset_empty Finset.subset_union_right h)

/-- The walk over the targets is sound if the walk below is. -/
lemma walkTargets_sound {rec : O × S → WalkState O S → Except Error (Total O S × WalkState O S)}
    (hrec : Sound g rec) (ts : List S) {st st' : WalkState O S} {rs : List (Total O S)}
    (h : g.walkTargets rec k ts st = .ok (rs, st')) (hst : CacheOk g st) :
    st.unknown ⊆ st'.unknown ∧ CacheOk g st' ∧ (st'.unknown = ∅ →
      AreChildren g k ts rs ∧ ∀ t ∈ ts, ∀ k', g.resolve k.1 t = some k' → Known g k') := by
  induction ts generalizing st rs with
  | nil =>
    obtain ⟨rfl, rfl⟩ := Prod.mk.inj (Except.ok.inj h)
    refine ⟨Finset.Subset.refl _, hst, fun _ => ⟨⟨?_, ?_⟩, ?_⟩⟩
    · intro t ht
      cases ht
    · intro r hr
      cases hr
    · intro t ht
      cases ht
  | cons t ts ih =>
    unfold Context.walkTargets at h
    split at h
    · rename_i k' hk'
      obtain ⟨⟨r, st₁⟩, hr, h⟩ := bind_eq_ok.mp h
      obtain ⟨⟨rs', st₂⟩, hrs, h⟩ := bind_eq_ok.mp h
      obtain ⟨rfl, rfl⟩ := Prod.mk.inj (Except.ok.inj h)
      obtain ⟨hsub₁, hok₁, hres₁⟩ := hrec _ _ _ _ hr hst
      obtain ⟨hsub₂, hok₂, hres₂⟩ := ih hrs hok₁
      refine ⟨hsub₁.trans hsub₂, hok₂, fun he => ?_⟩
      obtain ⟨hknown, hcorrect⟩ := hres₁ (subset_empty hsub₂ he)
      obtain ⟨⟨hcomplete, hsound⟩, hall⟩ := hres₂ he
      have hchild : IsChild g k t r := .inl ⟨k', hk', hcorrect⟩
      refine ⟨⟨?_, ?_⟩, ?_⟩
      · intro t' ht'
        obtain rfl | ht' := List.mem_cons.mp ht'
        · exact ⟨r, List.mem_cons_self, hchild⟩
        · obtain ⟨r', hr', hc⟩ := hcomplete t' ht'
          exact ⟨r', List.mem_cons_of_mem _ hr', hc⟩
      · intro r' hr'
        obtain rfl | hr' := List.mem_cons.mp hr'
        · exact ⟨t, List.mem_cons_self, hchild⟩
        · obtain ⟨t', ht', hc⟩ := hsound r' hr'
          exact ⟨t', List.mem_cons_of_mem _ ht', hc⟩
      · intro t' ht' k'' hk''
        obtain rfl | ht' := List.mem_cons.mp ht'
        · rw [hk'] at hk''
          obtain rfl := Option.some.inj hk''
          exact hknown
        · exact hall t' ht' k'' hk''
    · rename_i hnone
      split at h
      · rename_i n hn
        obtain ⟨⟨rs', st₂⟩, hrs, h⟩ := bind_eq_ok.mp h
        obtain ⟨rfl, rfl⟩ := Prod.mk.inj (Except.ok.inj h)
        obtain ⟨hsub, hok, hres⟩ := ih hrs hst
        refine ⟨hsub, hok, fun he => ?_⟩
        obtain ⟨⟨hcomplete, hsound⟩, hall⟩ := hres he
        have hchild : IsChild g k t (externalTotal t n) := .inr ⟨hnone, n, hn, rfl⟩
        refine ⟨⟨?_, ?_⟩, ?_⟩
        · intro t' ht'
          obtain rfl | ht' := List.mem_cons.mp ht'
          · exact ⟨_, List.mem_cons_self, hchild⟩
          · obtain ⟨r', hr', hc⟩ := hcomplete t' ht'
            exact ⟨r', List.mem_cons_of_mem _ hr', hc⟩
        · intro r' hr'
          obtain rfl | hr' := List.mem_cons.mp hr'
          · exact ⟨t, List.mem_cons_self, hchild⟩
          · obtain ⟨t', ht', hc⟩ := hsound r' hr'
            exact ⟨t', List.mem_cons_of_mem _ ht', hc⟩
        · intro t' ht' k'' hk''
          obtain rfl | ht' := List.mem_cons.mp ht'
          · rw [hnone] at hk''
            cases hk''
          · exact hall t' ht' k'' hk''
      · obtain ⟨hsub, hok, -⟩ := ih h (hst.mono rfl (subset_note _ _))
        refine ⟨(subset_note _ _).trans hsub, hok, fun he => ?_⟩
        have hnil := nil_of_note (subset_empty hsub he)
        cases hnil

/-- Looking at the selection is sound. -/
lemma verify_sound {st st' : WalkState O S} (h : g.verify k st = .ok st') :
    st.unknown ⊆ st'.unknown ∧ st'.cache = st.cache ∧ st'.active = st.active ∧
      (st'.unknown = ∅ → g.selects k = .ok) := by
  unfold Context.verify at h
  split at h
  · rename_i hs
    obtain rfl := Except.ok.inj h
    split <;> exact ⟨Finset.Subset.refl _, rfl, rfl, fun _ => hs⟩
  · obtain rfl := Except.ok.inj h
    refine ⟨subset_note _ _, rfl, rfl, fun he => ?_⟩
    have hnil := nil_of_note he
    cases hnil
  · cases h

/-- A walk that leaves nothing unknown has seen a known function and returns its result. -/
theorem walk_sound (n : ℕ) : Sound g (g.walk n) := by
  induction n with
  | zero =>
    intro k st r st' h
    cases h
  | succ n ih =>
    intro k st r st' h hst
    unfold Context.walk at h
    dsimp only at h
    split at h
    · cases h
    · split at h
      · -- the function is active: it is on a cycle
        obtain ⟨rfl, rfl⟩ := Prod.mk.inj (Except.ok.inj h)
        refine ⟨subset_note _ _, hst.mono rfl (subset_note _ _), fun he => ?_⟩
        have hnil := nil_of_note he
        cases hnil
      · split at h
        · rename_i r' hr'
          obtain ⟨rfl, rfl⟩ := Prod.mk.inj (Except.ok.inj h)
          exact ⟨Finset.Subset.refl _, hst, fun he => hst k r' hr' he⟩
        · split at h
          · obtain ⟨rfl, rfl⟩ := Prod.mk.inj (Except.ok.inj h)
            refine ⟨subset_note _ _, hst.mono rfl (subset_note _ _), fun he => ?_⟩
            have hnil := nil_of_note he
            cases hnil
          · rename_i f hf
            obtain ⟨st₁, hv, h⟩ := bind_eq_ok.mp h
            obtain ⟨⟨rs, st₂⟩, hrs, h⟩ := bind_eq_ok.mp h
            obtain ⟨r', hr', h⟩ := bind_eq_ok.mp h
            obtain ⟨rfl, rfl⟩ := Prod.mk.inj (Except.ok.inj h)
            obtain ⟨hsub₁, hcache₁, -, hsel⟩ := verify_sound hv
            have hnote : st.unknown ⊆ st₁.unknown := (subset_note _ _).trans hsub₁
            obtain ⟨hsub₂, hok₂, hres⟩ := walkTargets_sound ih f.targets hrs
              (hst.mono hcache₁ hnote)
            have hknown : st₂.unknown = ∅ → Known g k ∧ Correct g k r' := by
              intro he
              obtain ⟨hchildren, hall⟩ := hres he
              have he₁ : st₁.unknown = ∅ := subset_empty hsub₂ he
              refine ⟨.intro ⟨f, .of_reasons hf ?_ (hsel he₁) ?_⟩ ?_, hchildren.correct hf hr'⟩
              · exact nil_of_note (subset_empty hsub₁ he₁)
              · intro t ht
                obtain ⟨r'', -, ⟨k', hk', -⟩ | ⟨-, m, hm, -⟩⟩ := hchildren.complete t ht
                · exact .inl (hk' ▸ Option.some_ne_none _)
                · exact .inr (hm ▸ Option.some_ne_none _)
              · rintro k' ⟨f', hf', t, ht, hk'⟩
                rw [hf] at hf'
                obtain rfl := Option.some.inj hf'
                exact hall t ht k' hk'
            refine ⟨hnote.trans hsub₂, ?_, hknown⟩
            intro k' r'' hc he
            by_cases hk : k' = k
            · subst hk
              simp only [Function.update_self, Option.some.injEq] at hc
              subst hc
              exact hknown he
            · simp only [Function.update_of_ne hk] at hc
              exact hok₂ k' r'' hc he

/-! ## A walk over a known function -/

omit [DecidableEq O] [LinearOrder S] in
/-- The raw cost of a path is at most its cost. -/
lemma rawCost_le_cost (abi : ℕ) (p : List (Item O S)) : rawCost p ≤ cost abi p := by
  refine List.sum_le_sum fun i _ => ?_
  unfold Item.raw Item.cost
  cases i.provenance with
  | compiler => exact Nat.le_add_right _ _
  | userAsserted => exact Nat.zero_le _

/-- A sum is computed, or it exceeds the limit. -/
lemma add_cases (l : List ℕ) : add l = .ok l.sum ∨ add l = .error .overflow ∧ limit < l.sum := by
  unfold add
  split
  · exact .inl rfl
  · rename_i h
    exact .inr ⟨rfl, Nat.lt_of_not_le h⟩

/-- A computation of the walk returns with nothing unknown, or some call path is too large. -/
def Runs {α : Type} (g : Context O S) (active : Finset (O × S)) (path : List (Item O S) → Prop)
    (x : Except Error (α × WalkState O S)) : Prop :=
  (∃ a st, x = .ok (a, st) ∧ st.unknown = ∅ ∧ st.active = active ∧ CacheOk g st) ∨
    x = .error .overflow ∧ ∃ p, path p ∧ limit < cost g.abi p

/-- The sums for a function fit, or one of its call paths is too large. -/
lemma AreChildren.combine {f : Frame S} {rs : List (Total O S)}
    (h : AreChildren g k f.targets rs) (hf : g.frame k = some f) :
    (∃ r, combine k f.stack.bytes g.abi rs = .ok r) ∨
      combine k f.stack.bytes g.abi rs = .error .overflow ∧
        ∃ p, CallPath g k p ∧ limit < cost g.abi p := by
  have hraw := h.follows (m := Total.raw) hf
  have hbest := h.follows (m := Total.conditional) hf
  unfold StackBudget.combine
  obtain h₁ | ⟨h₁, hlt⟩ := add_cases [f.stack.bytes, ((rs.argmax Total.raw).getD {}).raw]
  · obtain h₂ | ⟨h₂, hlt⟩ := add_cases
      [f.stack.bytes, g.abi, ((rs.argmax Total.conditional).getD {}).conditional]
    · exact .inl ⟨_, bind_eq_ok.mpr ⟨_, h₁, bind_eq_ok.mpr ⟨_, h₂, rfl⟩⟩⟩
    · refine .inr ⟨?_, _, hbest.path, ?_⟩
      · simp only [h₁, h₂, bind, Except.bind]
      · rw [cost_cons, hbest.cost]
        simpa [Nat.add_assoc] using hlt
  · refine .inr ⟨?_, _, hraw.staticPath, ?_⟩
    · simp only [h₁, bind, Except.bind]
    · refine lt_of_lt_of_le ?_ (rawCost_le_cost g.abi _)
      rw [rawCost_cons, hraw.raw]
      simpa using hlt

/-- The walk over the targets succeeds if the walk below does. -/
lemma walkTargets_runs {rec : O × S → WalkState O S → Except Error (Total O S × WalkState O S)}
    {f : Frame S} {active : Finset (O × S)} (hk : Analysed g k f)
    (hrec : ∀ k' st, Calls g k k' → CacheOk g st → st.unknown = ∅ → st.active = active →
      Runs g active (CallPath g k') (rec k' st)) (ts : List S) (hts : ∀ t ∈ ts, t ∈ f.targets)
    {st : WalkState O S} (hst : CacheOk g st) (hu : st.unknown = ∅) (ha : st.active = active) :
    Runs g active (fun p => ∃ k', Calls g k k' ∧ CallPath g k' p) (g.walkTargets rec k ts st) := by
  induction ts generalizing st with
  | nil => exact .inl ⟨[], st, rfl, hu, ha, hst⟩
  | cons t ts ih =>
    have ih' := @ih fun t' ht' => hts t' (List.mem_cons_of_mem _ ht')
    have ht : t ∈ f.targets := hts t List.mem_cons_self
    unfold Context.walkTargets
    split
    · rename_i k' hk'
      have hc : Calls g k k' := ⟨f, hk.frame, t, ht, hk'⟩
      obtain ⟨r, st₁, hr, hu₁, ha₁, hok₁⟩ | ⟨hr, p, hp, hlt⟩ := hrec k' st hc hst hu ha
      · rw [hr]
        obtain ⟨rs, st₂, hrs, hst₂⟩ | ⟨hrs, hp⟩ := ih' hok₁ hu₁ ha₁
        · refine .inl ⟨r :: rs, st₂, ?_, hst₂⟩
          exact bind_eq_ok.mpr ⟨_, rfl, bind_eq_ok.mpr ⟨_, hrs, rfl⟩⟩
        · refine .inr ⟨?_, hp⟩
          simp only [hrs, bind, Except.bind]
      · rw [hr]
        exact .inr ⟨rfl, p, ⟨k', hc, hp⟩, hlt⟩
    · rename_i hnone
      split
      · rename_i n hn
        obtain ⟨rs, st₂, hrs, hst₂⟩ | ⟨hrs, hp⟩ := ih' hst hu ha
        · refine .inl ⟨externalTotal t n :: rs, st₂, ?_, hst₂⟩
          exact bind_eq_ok.mpr ⟨_, hrs, rfl⟩
        · refine .inr ⟨?_, hp⟩
          simp only [hrs, bind, Except.bind]
      · rename_i hn
        obtain h | h := hk.targets t ht
        · exact absurd hnone h
        · exact absurd hn h

/-- Looking at a selection that is in order succeeds. -/
lemma verify_runs (st : WalkState O S) (hs : g.selects k = .ok) :
    ∃ st', g.verify k st = .ok st' ∧ st'.unknown = st.unknown := by
  unfold Context.verify
  rw [hs]
  by_cases hsel : g.selection.isSome
  · exact ⟨_, rfl, by rw [if_pos hsel]⟩
  · exact ⟨_, rfl, by rw [if_neg hsel]⟩

/-- A walk over a known function, with enough of the recursion limit left, leaves nothing unknown,
and it returns unless a call path is too large. -/
theorem walk_runs (n : ℕ) {st : WalkState O S} (hk : Known g k) (hst : CacheOk g st)
    (hu : st.unknown = ∅)
    (hactive : ∀ a ∈ st.active, Relation.TransGen (Calls g) a k)
    (hn : ∀ p, CallPath g k p → p.length ≤ n) :
    Runs g st.active (CallPath g k) (g.walk n k st) := by
  induction n generalizing k st with
  | zero =>
    obtain ⟨f, hf⟩ := hk.good
    exact absurd (hn _ (.stop hf.frame)) (Nat.not_succ_le_zero 0)
  | succ n ih =>
    obtain ⟨f, hf⟩ := hk.good
    obtain ⟨obj, hobj, -⟩ := Option.bind_eq_some_iff.mp hf.frame
    have hnot : k ∉ st.active := fun ha => hk.not_cyclic (hactive k ha)
    unfold Context.walk
    dsimp only
    rw [hobj]
    dsimp only
    rw [if_neg hnot]
    split
    · rename_i r hr
      exact .inl ⟨r, _, rfl, hu, rfl, hst⟩
    · rw [hf.frame]
      dsimp only
      obtain ⟨st₁, hv, hu₁⟩ := verify_runs (WalkState.note
        { st with visited := insert k st.visited } (f.reasons k)) hf.selected
      obtain ⟨-, hcache₁, hactive₁, -⟩ := verify_sound hv
      have hu₁' : st₁.unknown = ∅ := by
        rw [hu₁, hf.reasons]
        exact (Finset.union_empty _).trans hu
      have hst₁ : CacheOk g { st₁ with active := insert k st₁.active } :=
        hst.mono hcache₁ (hu ▸ Finset.empty_subset _)
      have hrec : ∀ k' st', Calls g k k' → CacheOk g st' → st'.unknown = ∅ →
          st'.active = insert k st.active → Runs g (insert k st.active) (CallPath g k')
            (g.walk n k' st') := by
        intro k' st' hc hst' hu' ha'
        have hin : ∀ a ∈ st'.active, Relation.TransGen (Calls g) a k' := by
          intro a ha
          rw [ha'] at ha
          obtain rfl | ha := Finset.mem_insert.mp ha
          · exact .single hc
          · exact (hactive a ha).tail hc
        rw [← ha']
        exact ih (hk.calls hc) hst' hu' hin fun p hp =>
          Nat.le_of_succ_le_succ (hn _ (.call hf.frame hc hp))
      rw [hv]
      have hactive₁' : insert k st₁.active = insert k st.active := congrArg (insert k) hactive₁
      obtain ⟨rs, st₂, hrs, hu₂, ha₂, hok₂⟩ | ⟨hrs, p, ⟨k', hc, hp⟩, hlt⟩ :=
        walkTargets_runs hf hrec f.targets (fun _ ht => ht) hst₁ hu₁' hactive₁'
      · obtain ⟨-, -, hres⟩ := walkTargets_sound (walk_sound n) f.targets hrs hst₁
        obtain ⟨hchildren, -⟩ := hres hu₂
        obtain ⟨r, hr⟩ | ⟨hr, hp⟩ := hchildren.combine hf.frame
        · refine .inl ⟨r, _, bind_eq_ok.mpr ⟨_, rfl, bind_eq_ok.mpr ⟨_, hrs,
            bind_eq_ok.mpr ⟨_, hr, rfl⟩⟩⟩, hu₂, ?_, ?_⟩
          · show st₂.active.erase k = st.active
            rw [ha₂, Finset.erase_insert hnot]
          · intro k' r' hc he
            by_cases hk' : k' = k
            · subst hk'
              simp only [Function.update_self, Option.some.injEq] at hc
              subst hc
              exact ⟨hk, hchildren.correct hf.frame hr⟩
            · simp only [Function.update_of_ne hk'] at hc
              exact hok₂ k' r' hc he
        · refine .inr ⟨?_, hp⟩
          simp only [hrs, hr, bind, Except.bind]
      · refine .inr ⟨?_, _, .call hf.frame hc hp, ?_⟩
        · simp only [hrs, bind, Except.bind]
        · rw [cost_cons]
          exact lt_of_lt_of_le hlt (Nat.le_add_left _ _)

end BbtCoroutine.StackBudget
