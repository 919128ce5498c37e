import BbtCoroutine.ObjectManager.Steps

/-!
# The managers account exactly

`Exact` says what the counters and the index are in every state, whatever the creations and the
destructors have done so far, and what follows when none of them is under way.
-/

namespace BbtCoroutine.ObjectManager

open Transition

variable {T M K Ob : Type*} [DecidableEq M] {s t : State T M K Ob}

/-! ## The statement -/

/-- The registration has got past the insertion into the index. -/
def Creation.past (c : Creation M K Ob) : Bool :=
  match c.stage with
  | .indexed _ _ | .counted _ _ => true
  | _ => false

/-- No member is being committed or destroyed. -/
def State.AtRest (s : State T M K Ob) : Prop :=
  ∀ o ∈ s.objects, (s.member o).phase = .fresh ∨ (s.member o).phase = .live ∨
    (s.member o).phase = .gone ∨ (s.member o).phase = .discarded

/-- What is known of the counters and of the index. -/
structure Exact [DecidableEq T] [DecidableEq K] [DecidableEq Ob] (ofId : ℕ → K)
    (s : State T M K Ob) : Prop where
  /-- What has been created and not destroyed is alive. -/
  balance : ∀ a, (s.counters a).created = (s.counters a).destroyed + (s.counters a).alive
  /-- As many members are alive as the account counts. -/
  alive : ∀ a, (s.counters a).alive = (s.objects.filter fun o => (s.member o).charged a).card
  /-- The peak is the largest number that was alive in the run. -/
  peak : ∀ a, (s.counters a).peak = s.highest a
  /-- The index of a manager holds the keys of its members. -/
  index : ∀ m, s.alive m = true → ∀ k o, s.members m k = some o ↔
    (s.member o).manager = some m ∧ (s.member o).entry = some k ∧ (s.member o).phase.registered
  /-- Every member that is counted is counted once, and every destructor settles that once. -/
  settled : ∀ a o, s.created a o ≤ 1 ∧
    s.destroyed a o + ((s.member o).charged a).toNat = s.created a o
  /-- A member whose destructor has returned was counted by its accounts and is not counted any
  more. -/
  gone : ∀ a o, (s.member o).phase = .gone → (s.member o).belongs a = true →
    s.created a o = 1 ∧ s.destroyed a o = 1
  /-- When nothing is under way, the accounts count the committed members, and so does the index. -/
  atRest : s.AtRest →
    (∀ a, (s.counters a).alive = (s.objects.filter fun o => (s.member o).committed a).card) ∧
    ∀ m, s.alive m = true → ∀ k o, s.members m k = some o ↔
      (s.member o).manager = some m ∧ (s.member o).entry = some k ∧ (s.member o).phase = .live
  /-- A creation that has not got past the insertion, and so one that fails, has left the counters
  and the index as they were. -/
  failed : ∀ l u t, l.of = some u → step ofId s l = some t → ¬ (s.creation u).any Creation.past →
    ¬ (t.creation u).any Creation.past → t.counters = s.counters ∧ t.members = s.members
  /-- A creation that has got past it does not fail. -/
  succeeds : ∀ l u t c, l.of = some u → step ofId s l = some t → s.creation u = some c →
    c.past = true → (t.creation u).any Creation.past = true ∨
      t.creation u = none ∧ ∃ o, c.owner = some o ∧ (t.member o).phase = .live

variable [DecidableEq T] [DecidableEq K] [DecidableEq Ob]

/-! ## The runs -/

omit [DecidableEq T] [DecidableEq K] [DecidableEq Ob] in
/-- At rest the accounts count the committed members. -/
lemma Member.charged_eq_committed {x : Member M K} (hx : x.phase = .fresh ∨ x.phase = .live ∨
    x.phase = .gone ∨ x.phase = .discarded) (a : Account M) : x.charged a = x.committed a := by
  unfold Member.charged Member.committed
  obtain h | h | h | h := hx <;> rw [h] <;> cases a <;> rfl

omit [DecidableEq M] [DecidableEq K] [DecidableEq Ob] in
/-- A creation that has got past the insertion is about to be counted. -/
lemma Creation.past_cases {c : Creation M K Ob} (h : c.past = true) :
    (∃ o info, c.stage = .indexed o info) ∨ ∃ o info, c.stage = .counted o info := by
  unfold Creation.past at h
  cases hst : c.stage with
  | indexed o info => exact .inl ⟨o, info, rfl⟩
  | counted o info => exact .inr ⟨o, info, rfl⟩
  | creating | delivered o | informed o info | bucketed o info | keyed o info k =>
    rw [hst] at h
    cases h

/-- What holds in every state of a run. -/
lemma inv_of_reachable {ofId : ℕ → K} (h : (system T M K Ob ofId).Reachable s) :
    Inv s ∧ ∀ a, (s.counters a).peak = s.highest a := by
  refine h.induct (I := fun s => Inv s ∧ ∀ a, (s.counters a).peak = s.highest a) ?_ ?_
  · rintro s rfl
    refine ⟨⟨fun a => ⟨fun o ho => ?_, rfl, rfl, Nat.le_refl 0, fun o => ?_, fun o => ?_⟩,
      ⟨?_, ?_, ?_, ?_, ?_⟩, ?_⟩, fun _ => rfl⟩
    · rw [Member.not_charged (Member.unopened a (.inl rfl))] at ho
      cases ho
    · rw [Member.unopened a (.inl rfl)]
      rfl
    · rw [Member.not_charged (Member.unopened a (.inl rfl))]
      rfl
    · exact fun u m => iff_of_false (Finset.notMem_empty u) fun ⟨c, hc, _⟩ => by cases hc
    · exact fun u c hc => by cases hc
    · exact fun o u => iff_of_false (fun he => by cases he) fun ⟨c, hc, _⟩ => by cases hc
    · exact fun u c hc => by cases hc
    · exact fun _ _ => rfl
    · exact fun m _ k o => iff_of_false (fun he => by cases he) fun he => by cases he.1
  · intro s l t' ⟨hI, hp⟩ hs
    obtain ⟨t, ht, rfl⟩ := Option.map_eq_some_iff.mp hs
    obtain ⟨hm, hc, hi⟩ := hI.step ht
    have hA := hm.accounts hI.accounts
    refine ⟨⟨fun a => ⟨(hA a).inside, (hA a).balance, (hA a).alive, (hA a).le_peak,
        (hA a).created, (hA a).destroyed⟩,
      ⟨hc.users, hc.alive, hc.holder, ?_, hc.outside⟩, hi⟩, fun a => ?_⟩
    · exact fun u c hu => (hc.fits u c hu).frame (Finset.Subset.refl _) fun _ _ => rfl
    · show (t.counters a).peak = max (s.highest a) (t.counters a).alive
      rw [hm.peak hI.accounts a, hp a]

omit [DecidableEq M] [DecidableEq K] [DecidableEq Ob] in
/-- Setting the creation that a step goes on with. -/
lemma past_setCreation {u : T} {c : Creation M K Ob} (h : c.past = true) :
    ((s.setCreation u c).creation u).any Creation.past = true := by
  show (Function.update s.creation u (some c) u).any Creation.past = true
  rw [Function.update_self]
  exact h

/-- Until it gets past the insertion, a creation leaves the counters and the index alone. -/
lemma advance_failed {ofId : ℕ → K} {u : T} {c : Creation M K Ob} {l : Label T M K Ob}
    (hs : advance ofId s u c l = some t) (hc : c.past = false)
    (ht : ¬ (t.creation u).any Creation.past = true) :
    t.counters = s.counters ∧ t.members = s.members := by
  unfold advance at hs
  split at hs
  · split at hs
    · obtain rfl := Option.some.inj hs
      exact ⟨rfl, rfl⟩
    · split at hs
      · split at hs
        · obtain rfl := Option.some.inj hs
          exact ⟨rfl, rfl⟩
        · obtain rfl := Option.some.inj hs
          exact ⟨rfl, rfl⟩
        · cases hs
      · cases hs
    · cases hs
  · split at hs
    · split at hs
      · obtain rfl := Option.some.inj hs
        exact ⟨rfl, rfl⟩
      · obtain rfl := Option.some.inj hs
        exact ⟨rfl, rfl⟩
    · cases hs
  · split at hs
    · split at hs
      · obtain rfl := Option.some.inj hs
        exact ⟨rfl, rfl⟩
      · obtain rfl := Option.some.inj hs
        exact ⟨rfl, rfl⟩
    · cases hs
  · split at hs
    · split at hs
      · obtain rfl := Option.some.inj hs
        exact ⟨rfl, rfl⟩
      · obtain rfl := Option.some.inj hs
        exact ⟨rfl, rfl⟩
    · cases hs
  · split at hs
    · split at hs
      · obtain rfl := Option.some.inj hs
        exact ⟨rfl, rfl⟩
      split at hs
      · obtain rfl := Option.some.inj hs
        exact ⟨rfl, rfl⟩
      · obtain rfl := Option.some.inj hs
        exact absurd (past_setCreation rfl) ht
    · cases hs
  · split at hs
    · rename_i hst
      rw [Creation.past, hst] at hc
      cases hc
    · cases hs
  · split at hs
    · rename_i hst
      rw [Creation.past, hst] at hc
      cases hc
    · cases hs
  · cases hs

/-- Past the insertion a creation does not fail. -/
lemma advance_succeeds {ofId : ℕ → K} {u : T} {c : Creation M K Ob} {l : Label T M K Ob}
    (hs : advance ofId s u c l = some t) (hc : c.past = true) :
    (t.creation u).any Creation.past = true ∨
      t.creation u = none ∧ ∃ o, c.owner = some o ∧ (t.member o).phase = .live := by
  obtain ⟨o, info, hst⟩ | ⟨o, info, hst⟩ := c.past_cases hc
  · unfold advance at hs
    rw [hst] at hs
    cases l with
    | onCreate v =>
      obtain rfl := Option.some.inj hs
      exact .inl (past_setCreation rfl)
    | creator v owner | info v fails hook id | bucket v fails | key v fails | emplace v fails
    | onCreateKind v | construct o info | create v m key kind name | destroy o | onDestroyKind o
    | onMemberDestroy o | destroyManager m => cases hs
  · unfold advance at hs
    rw [hst] at hs
    cases l with
    | onCreateKind v =>
      obtain rfl := Option.some.inj hs
      refine .inr ⟨Function.update_self _ _ _, o, ?_, ?_⟩
      · rw [Creation.owner, hst]
      · show (Function.update s.member o _ o).phase = .live
        rw [Function.update_self]
    | creator v owner | info v fails hook id | bucket v fails | key v fails | emplace v fails
    | onCreate v | construct o info | create v m key kind name | destroy o | onDestroyKind o
    | onMemberDestroy o | destroyManager m => cases hs

/-- A step of a creation begins it, or goes on with it. -/
lemma step_of {ofId : ℕ → K} {l : Label T M K Ob} {u : T} (hl : l.of = some u)
    (hs : step ofId s l = some t) :
    (s.creation u = none ∧ t.counters = s.counters ∧ t.members = s.members) ∨
      ∃ c, s.creation u = some c ∧ advance ofId s u c l = some t := by
  cases l with
  | construct o info | destroy o | onDestroyKind o | onMemberDestroy o | destroyManager m =>
    cases hl
  | create v m key kind name =>
    obtain rfl := Option.some.inj hl
    simp only [step] at hs
    split at hs
    · rename_i hno
      obtain rfl := Option.some.inj hs
      exact .inl ⟨hno.1, rfl, rfl⟩
    · cases hs
  | creator v owner | info v fails hook id | bucket v fails | key v fails | emplace v fails
  | onCreate v | onCreateKind v =>
    obtain rfl := Option.some.inj hl
    exact .inr (Option.bind_eq_some_iff.mp hs)

/-- The managers account exactly in every state of every run. -/
theorem accountsExactly_of_reachable {ofId : ℕ → K} (h : (system T M K Ob ofId).Reachable s) :
    Exact ofId s := by
  obtain ⟨⟨hA, hC, hI⟩, hp⟩ := inv_of_reachable h
  refine ⟨fun a => (hA a).balance, fun a => (hA a).alive, hp, hI, ?_, ?_, ?_, ?_, ?_⟩
  · intro a o
    refine ⟨?_, (hA a).destroyed o⟩
    rw [(hA a).created o]
    exact Bool.toNat_le _
  · intro a o hph hb
    have hcr := (hA a).created o
    have hds := (hA a).destroyed o
    have hopen : (s.member o).opened a = true := by
      unfold Member.opened
      rw [hb, hph]
      cases a <;> rfl
    have hcharged : (s.member o).charged a = false := by
      unfold Member.charged
      rw [hb, hph]
      cases a <;> rfl
    rw [hopen] at hcr
    rw [hcharged, hcr] at hds
    exact ⟨hcr, hds⟩
  · intro hrest
    constructor
    · intro a
      rw [(hA a).alive]
      congr 1
      refine Finset.filter_congr fun o ho => ?_
      rw [Member.charged_eq_committed (hrest o ho) a]
    · intro m hal k o
      rw [hI m hal k o]
      refine and_congr_right fun _ => and_congr_right fun _ => ?_
      by_cases ho : o ∈ s.objects
      · obtain h | h | h | h := hrest o ho <;> rw [h] <;> decide
      · rw [hC.outside o ho]
        decide
  · intro l u t hl hs hno ht
    obtain ⟨-, hc, hm⟩ | ⟨c, hc, hs⟩ := step_of hl hs
    · exact ⟨hc, hm⟩
    · rw [hc] at hno
      exact advance_failed hs (Bool.eq_false_of_not_eq_true hno) ht
  · intro l u t c hl hs hc hpast
    obtain ⟨hno, -, -⟩ | ⟨c', hc', hs⟩ := step_of hl hs
    · rw [hc] at hno
      cases hno
    · obtain rfl := Option.some.inj (hc.symm.trans hc')
      exact advance_succeeds hs hpast

/-- A run that registers an object, fails to register another one under the same key, destroys the
manager, and destroys the member. -/
def registers : List (Label Bool Unit ℕ Bool) :=
  [.construct true { id := 7 }, .construct false {}, .create true () (some 3) "kind" "a",
    .create false () (some 3) "kind" "b", .creator false (some false),
    .info false false .none (some 8), .bucket false false, .key false false,
    .creator true (some true), .info true false .none none, .bucket true false, .key true false,
    .emplace true false, .onCreate true, .onCreateKind true, .emplace false false, .destroy false,
    .destroyManager (), .destroy true, .onDestroyKind true, .onMemberDestroy true]

/-- The accounts are exact at the end of such a run. -/
theorem accountsExactly_of_reachable_registers :
    ∃ s, (system Bool Unit ℕ Bool id).Reachable s ∧
    (s.counters (.manager ())).created = 1 ∧ (s.counters (.manager ())).alive = 0 ∧
    Exact id s := by
  have hend : (system Bool Unit ℕ Bool id).endsIn {} registers (fun s =>
      (s.counters (.manager ())).created = 1 ∧ (s.counters (.manager ())).alive = 0) = true := by
    decide
  obtain ⟨s, hr, hc, ha⟩ := System.exists_of_endsIn rfl hend
  exact ⟨s, hr, hc, ha, accountsExactly_of_reachable hr⟩

end BbtCoroutine.ObjectManager
