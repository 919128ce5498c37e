import BbtCoroutine.StackBudget.Walk

/-!
# What the verdict promises

`NeverUnderReports` states the three promises of the analysis: the result for a known program is
that of its largest call path, anything that is not known shows, and a size that is recommended
covers every call path.  They hold of every set of objects, every assertion and every link.
-/

namespace BbtCoroutine.StackBudget

variable {O S : Type} [DecidableEq O] [LinearOrder S] {g : Context O S} {k : O × S} {depth : ℕ}

/-! ## The statement -/

/-- Something that the function reaches is not fully known, or is on a cycle. -/
def Suspect (g : Context O S) (k : O × S) : Prop :=
  ∃ k', Reaches g k k' ∧ (¬ Good g k' ∨ Cyclic g k')

/-- The report recommends whole pages, which the usable stack has and every call path fits in. -/
def Recommends (g : Context O S) (m : Manifest O S) (r : EntryReport O S) : Prop :=
  ∃ n, r.recommendedUsableBytes = some n ∧ m.pageSize ∣ n ∧ n ≤ r.entry.usableBytes ∧
    ∀ p, CallPath g r.entry.key p → cost g.abi p + g.runtimeExtra + m.marginBytes ≤ n

/-- The analysis never reports less than a call path needs. -/
structure NeverUnderReports (g : Context O S) (depth : ℕ) : Prop where
  /-- For a known function the result is that of the largest call paths, unless the sum for one of
  them is too large for the arithmetic; the recursion need not be deeper than a call path. -/
  exact : ∀ k, ¬ Suspect g k → (∀ p, CallPath g k p → p.length ≤ depth) →
    (∃ a, g.aggregate depth k = .ok a ∧ Correct g k a.total) ∨
      g.aggregate depth k = .error .overflow ∧ ∃ p, CallPath g k p ∧ limit < cost g.abi p
  /-- No call path of a known function has more items than there are functions, and one more for
  an external function. -/
  bounded : ∀ k, ¬ Suspect g k → ∀ p, CallPath g k p → p.length ≤ g.keys.length + 1
  /-- What is not known shows in the result. -/
  unknown : ∀ k a, g.aggregate depth k = .ok a → Suspect g k → a.unknown ≠ ∅
  /-- It shows in the report, and the verdict is not that the stack is within the model. -/
  suspect : ∀ m stale inputs s rs, g.analyze depth m stale inputs = .ok (s, rs) →
    ∀ r ∈ rs, Suspect g r.entry.key →
      r.unknownEdges ≠ ∅ ∧ r.status ≠ .withinModel ∧ s ≠ .withinModel
  /-- Where the verdict is that the stack is within the model, the recommended size is right. -/
  recommends : ∀ m stale inputs s rs, g.analyze depth m stale inputs = .ok (s, rs) →
    rs.map EntryReport.entry = m.entries ∧
      (s = .withinModel → ∀ r ∈ rs, r.status = .withinModel) ∧
      ∀ r ∈ rs, r.status = .withinModel → Recommends g m r

/-! ## The result of `aggregate` -/

/-- A function is known or suspect. -/
lemma not_suspect_iff : ¬ Suspect g k ↔ Known g k := by
  rw [known_iff]
  unfold Suspect
  push Not
  rfl

/-- Nothing is in the cache at first. -/
lemma cacheOk_start : CacheOk g {} := by
  intro k r hr
  cases hr

/-- An aggregate contains the total of its walk. -/
lemma aggregate_eq_ok {a : Context.Aggregate O S} (h : g.aggregate depth k = .ok a) :
    ∃ st, g.walk depth k {} = .ok (a.total, st) ∧ st.unknown ⊆ a.unknown := by
  obtain ⟨⟨r, st⟩, hw, h⟩ := bind_eq_ok.mp h
  obtain rfl := Except.ok.inj h
  exact ⟨st, hw, subset_note _ _⟩

/-- A result with nothing unknown is that of a known function. -/
lemma aggregate_sound {a : Context.Aggregate O S} (h : g.aggregate depth k = .ok a)
    (hu : a.unknown = ∅) : Known g k ∧ Correct g k a.total := by
  obtain ⟨st, hw, hsub⟩ := aggregate_eq_ok h
  obtain ⟨-, -, hres⟩ := walk_sound depth k {} a.total st hw cacheOk_start
  exact hres (subset_empty hsub hu)

/-- The aggregate of a known function is correct, or overflows for a reason. -/
lemma aggregate_runs (hk : Known g k) (hd : ∀ p, CallPath g k p → p.length ≤ depth) :
    (∃ a, g.aggregate depth k = .ok a ∧ Correct g k a.total) ∨
      g.aggregate depth k = .error .overflow ∧ ∃ p, CallPath g k p ∧ limit < cost g.abi p := by
  have hruns := walk_runs depth hk cacheOk_start rfl (fun a ha => absurd ha (Finset.notMem_empty a))
    hd
  obtain ⟨r, st, hw, hu, -⟩ | ⟨hw, hp⟩ := hruns
  · refine .inl ⟨_, bind_eq_ok.mpr ⟨_, hw, rfl⟩, ?_⟩
    obtain ⟨-, -, hres⟩ := walk_sound depth k {} r st hw cacheOk_start
    exact (hres hu).2
  · refine .inr ⟨?_, hp⟩
    unfold Context.aggregate
    simp only [hw, bind, Except.bind]

/-! ## The report of an entry -/

/-- The next multiple of the page size. -/
lemma dvd_align {value page n : ℕ} (hp : 0 < page) (h : align value page = .ok n) :
    page ∣ n ∧ value ≤ n := by
  have hn : n = value + (page - value % page) % page := by
    rw [add_eq_ok h]
    simp
  have hdiv := Nat.div_add_mod value page
  have hlt := Nat.mod_lt value hp
  refine ⟨?_, by omega⟩
  by_cases h0 : value % page = 0
  · rw [h0, Nat.sub_zero, Nat.mod_self, Nat.add_zero] at hn
    rw [hn]
    exact Nat.dvd_of_mod_eq_zero h0
  · rw [Nat.mod_eq_of_lt (by omega)] at hn
    have hsum : n = page * (value / page) + page := by omega
    rw [hsum]
    exact Nat.dvd_add (Nat.dvd_mul_right _ _) (Nat.dvd_refl page)

omit [DecidableEq O] in
/-- A budget is a multiple of the page size and contains what it is made of. -/
lemma budget_eq_ok {m : Manifest O S} {conditional total n : ℕ} (hp : 0 < m.pageSize)
    (h : g.budget m conditional = .ok (total, n)) :
    m.pageSize ∣ n ∧ conditional + g.runtimeExtra + m.marginBytes ≤ n := by
  obtain ⟨total', ht, h⟩ := bind_eq_ok.mp h
  obtain ⟨n', hn, h⟩ := bind_eq_ok.mp h
  obtain ⟨_, -, h⟩ := bind_eq_ok.mp h
  obtain ⟨rfl, rfl⟩ := Prod.mk.inj (Except.ok.inj h)
  obtain ⟨hdvd, hle⟩ := dvd_align hp hn
  have htotal : total' = conditional + g.runtimeExtra + m.marginBytes := by
    rw [add_eq_ok ht]
    simp [Nat.add_assoc]
  exact ⟨hdvd, htotal ▸ hle⟩

/-- What holds of the report of an entry. -/
structure Reports (g : Context O S) (m : Manifest O S) (e : Entry O S) (r : EntryReport O S) :
    Prop where
  entry : r.entry = e
  suspect : Suspect g e.key → r.unknownEdges ≠ ∅
  unknown : r.unknownEdges ≠ ∅ → r.status ≠ .withinModel
  recommends : r.status = .withinModel → Recommends g m r

/-- The report of an entry. -/
lemma analyzeEntry_reports {m : Manifest O S} {e : Entry O S} {r : EntryReport O S}
    (hp : 0 < m.pageSize) (h : g.analyzeEntry depth m e = .ok r) : Reports g m e r := by
  obtain ⟨a, ha, h⟩ := bind_eq_ok.mp h
  obtain ⟨budget, hb, h⟩ := bind_eq_ok.mp h
  obtain rfl := Except.ok.inj h
  set unknown := if g.selection.isSome then a.unknown else insert .link a.unknown with hunknown
  have hsub : a.unknown ⊆ unknown := by
    rw [hunknown]
    split
    · exact Finset.Subset.refl _
    · exact Finset.subset_insert _ _
  have hstatus : unknown ≠ ∅ → (Context.report e a.total unknown budget).status ≠ .withinModel := by
    intro hne
    unfold Context.report
    dsimp only
    split
    · intro he
      cases he
    · intro he
      cases he
  refine ⟨rfl, ?_, hstatus, ?_⟩
  · intro hs he
    have hknown := (aggregate_sound ha (subset_empty hsub he)).1
    exact not_suspect_iff.mpr hknown hs
  · intro hw
    have he : unknown = ∅ := by
      by_contra hne
      exact hstatus hne hw
    have hcorrect := (aggregate_sound ha (subset_empty hsub he)).2
    unfold Context.budgetIfKnown at hb
    rw [if_pos he] at hb
    cases hbud : g.budget m a.total.conditional with
    | error err =>
      rw [hbud] at hb
      cases hb
    | ok b =>
      rw [hbud] at hb
      obtain rfl := Except.ok.inj hb
      obtain ⟨total, n⟩ := b
      obtain ⟨hdvd, hle⟩ := budget_eq_ok hp hbud
      refine ⟨n, rfl, hdvd, ?_, ?_⟩
      · by_contra hlt
        have hexceeds : e.usableBytes < a.total.raw ∨
            (some (total, n)).any (e.usableBytes < ·.2) = true :=
          .inr (decide_eq_true (Nat.lt_of_not_le hlt))
        unfold Context.report at hw
        dsimp only at hw
        rw [if_pos hexceeds] at hw
        cases hw
      · intro p hpath
        have hmax : cost g.abi p ≤ a.total.conditional := hcorrect.conditional.2 ⟨p, hpath, rfl⟩
        omega

/-- A check of the link inputs that leaves something unknown takes the recommendation back. -/
lemma Reports.downgrade {m : Manifest O S} {e : Entry O S} {r : EntryReport O S}
    (h : Reports g m e r) : Reports g m e (Context.downgrade r) := by
  have hstatus : (Context.downgrade r).status ≠ .withinModel := by
    unfold Context.downgrade
    dsimp only
    split <;> intro he <;> cases he
  exact ⟨h.entry, fun _ => Finset.insert_ne_empty _ _, fun _ => hstatus,
    fun hw => absurd hw hstatus⟩

/-! ## The report -/

/-- The reports of the entries. -/
lemma mapM_reports {m : Manifest O S} (hp : 0 < m.pageSize) {es : List (Entry O S)}
    {rs : List (EntryReport O S)} (h : es.mapM (g.analyzeEntry depth m) = .ok rs) :
    List.Forall₂ (Reports g m) es rs := by
  induction es generalizing rs with
  | nil =>
    obtain rfl := Except.ok.inj h
    exact .nil
  | cons e es ih =>
    rw [List.mapM_cons] at h
    obtain ⟨r, hr, h⟩ := bind_eq_ok.mp h
    obtain ⟨rs', hrs, h⟩ := bind_eq_ok.mp h
    obtain rfl := Except.ok.inj h
    exact .cons (analyzeEntry_reports hp hr) (ih hrs)

/-- What was required holds. -/
lemma require_eq_ok {p : Prop} [Decidable p] {e : Error} {u : Unit} (h : require p e = .ok u) :
    p := by
  unfold require at h
  split at h
  · assumption
  · cases h

/-- Every entry has a report, and the status of the whole is that of the entries. -/
lemma analyze_reports {m : Manifest O S} {stale : Bool} {inputs : Selection} {s : Status}
    {rs : List (EntryReport O S)} (h : g.analyze depth m stale inputs = .ok (s, rs)) :
    List.Forall₂ (Reports g m) m.entries rs ∧ s = Context.status rs := by
  obtain ⟨_, hm, h⟩ := bind_eq_ok.mp h
  obtain ⟨_, -, h⟩ := bind_eq_ok.mp h
  obtain ⟨_, -, h⟩ := bind_eq_ok.mp h
  obtain ⟨rs', hrs, h⟩ := bind_eq_ok.mp h
  have hall := mapM_reports (require_eq_ok hm).1.1 hrs
  cases inputs with
  | ok =>
    obtain ⟨rfl, rfl⟩ := Prod.mk.inj (Except.ok.inj h)
    exact ⟨hall, rfl⟩
  | unknown =>
    obtain ⟨rfl, rfl⟩ := Prod.mk.inj (Except.ok.inj h)
    exact ⟨List.forall₂_map_right_iff.mpr (hall.imp fun _ _ hr => hr.downgrade), rfl⟩
  | stale => cases h

omit [DecidableEq O] [LinearOrder S] in
/-- A report within the model has only entries within the model. -/
lemma status_eq_withinModel {rs : List (EntryReport O S)}
    (h : Context.status rs = .withinModel) (r : EntryReport O S) (hr : r ∈ rs) :
    r.status = .withinModel := by
  unfold Context.status at h
  split at h
  · cases h
  · rename_i hexceeds
    split at h
    · cases h
    · rename_i hunknown
      cases hs : r.status with
      | withinModel => rfl
      | exceeds => exact absurd ⟨r, hr, hs⟩ hexceeds
      | unknown => exact absurd ⟨r, hr, hs⟩ hunknown

/-- The reports are those of the entries, in their order. -/
lemma forall₂_reports {m : Manifest O S} {es : List (Entry O S)} {rs : List (EntryReport O S)}
    (h : List.Forall₂ (Reports g m) es rs) :
    rs.map EntryReport.entry = es ∧ ∀ r ∈ rs, Reports g m r.entry r := by
  induction h with
  | nil => exact ⟨rfl, fun r hr => by cases hr⟩
  | cons hr _ ih =>
    obtain ⟨hmap, hall⟩ := ih
    refine ⟨congrArg₂ List.cons hr.entry hmap, fun r' hr' => ?_⟩
    obtain rfl | hr' := List.mem_cons.mp hr'
    · exact hr.entry.symm ▸ hr
    · exact hall r' hr'

/-- The analysis never reports less than a call path needs, whatever the objects, the call graph,
the assertion and the link. -/
theorem neverUnderReports (g : Context O S) (depth : ℕ) : NeverUnderReports g depth where
  exact k hk hd := aggregate_runs (not_suspect_iff.mp hk) hd
  bounded k hk p hp := (not_suspect_iff.mp hk).length_le hp
  unknown k a ha hs he := not_suspect_iff.mpr (aggregate_sound ha he).1 hs
  suspect m stale inputs s rs h r hr hs := by
    obtain ⟨hall, rfl⟩ := analyze_reports h
    have hreport := (forall₂_reports hall).2 r hr
    have hne := hreport.suspect hs
    have hstatus := hreport.unknown hne
    exact ⟨hne, hstatus, fun hw => hstatus (status_eq_withinModel hw r hr)⟩
  recommends m stale inputs s rs h := by
    obtain ⟨hall, rfl⟩ := analyze_reports h
    obtain ⟨hmap, hreports⟩ := forall₂_reports hall
    exact ⟨hmap, status_eq_withinModel, fun r hr => (hreports r hr).recommends⟩

/-- A function with one frame and direct calls of the given functions. -/
def exampleFunction (callees : List ℕ) : List (Transfer ℕ) := callees.map (⟨some ·, false, false⟩)

/-- The function 0 calls 1 and 2, and both call 3. -/
def exampleObject : Obj ℕ where
  nodes := [(0, some ⟨16, .static⟩), (1, some ⟨8, .static⟩), (2, some ⟨40, .static⟩),
    (3, some ⟨24, .static⟩)]
  graph := [(0, 1), (0, 2), (1, 3), (2, 3)]
  nm := [(0, .globalText), (1, .localText), (2, .globalText), (3, .globalText)]
  blocks := [(0, exampleFunction [1, 2]), (1, exampleFunction [3]), (2, exampleFunction [3]),
    (3, exampleFunction [])]
  emitted := by decide

/-- The object with a complete assertion and a final link. -/
def exampleContext : Context ℕ ℕ where
  objects := [(0, exampleObject)]
  assertion := some ⟨512, 8, [], requiredCoverage⟩
  selection := some fun _ => .ok

example : ((exampleContext.analyze 5 ⟨4096, 64, [⟨0, 0, 8192⟩]⟩ false .ok).toOption.map fun r =>
    (r.1, r.2.map EntryReport.staticKnownPathBytes, r.2.map EntryReport.recommendedUsableBytes)) =
      some (.withinModel, [80], [some 4096]) := by
  decide

end BbtCoroutine.StackBudget
