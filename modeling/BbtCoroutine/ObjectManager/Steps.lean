import BbtCoroutine.ObjectManager.Accounts
import BbtCoroutine.ObjectManager.Creations

/-!
# What the steps of the managers and the members do

Every step moves one account by one member or none, and it keeps the creations and the index.
-/

namespace BbtCoroutine.ObjectManager

variable {T M K Ob : Type*} {s t : State T M K Ob}

/-! ## The index -/

/-- The index of a manager holds the keys of its registered members. -/
def Indexed (s : State T M K Ob) : Prop :=
  ∀ m, s.alive m = true → ∀ k o, s.members m k = some o ↔
    (s.member o).manager = some m ∧ (s.member o).entry = some k ∧ (s.member o).phase.registered

/-- The index holds what it held. -/
lemma Indexed.frame (h : Indexed s) (ha : ∀ m, t.alive m = true → s.alive m = true)
    (hi : ∀ m, t.alive m = true → t.members m = s.members m)
    (hm : ∀ o, t.member o = s.member o ∨
      (s.member o).phase.registered = (t.member o).phase.registered ∧
        ((s.member o).phase.registered = false ∨ (t.member o).manager = (s.member o).manager ∧
          (t.member o).entry = (s.member o).entry)) : Indexed t := by
  intro m hal k o
  rw [hi m hal, h m (ha m hal) k o]
  obtain ho | ⟨hr, hn | ⟨hmm, he⟩⟩ := hm o
  · rw [ho]
  · rw [← hr, hn]
    exact iff_of_false (fun hx => by cases hx.2.2) fun hx => by cases hx.2.2
  · rw [hmm, he, hr]

variable [DecidableEq M]

/-! ## The steps -/

/-- What no account has counted looks the same to all of them. -/
lemma same_of_unopened {x y : Member M K} {a : Account M} (hx : x.opened a = false)
    (hy : y.opened a = false) : Same x y a :=
  ⟨by rw [Member.not_charged hx, Member.not_charged hy], by rw [hx, hy]⟩

/-- No account has counted a member in these phases. -/
lemma Member.unopened {x : Member M K} (a : Account M)
    (h : x.phase = .fresh ∨ x.phase = .indexed ∨ x.phase = .discarded) : x.opened a = false := by
  refine Bool.and_eq_false_iff.mpr (.inr ?_)
  obtain h | h | h := h <;> rw [h] <;> cases a <;> rfl

variable [DecidableEq T] [DecidableEq K] [DecidableEq Ob]

/-- What holds in every state. -/
structure Inv (s : State T M K Ob) : Prop where
  accounts : Accounts s
  creations : Creations s
  indexed : Indexed s

/-- What a step does, and what holds after it. -/
structure Goes (s t : State T M K Ob) : Prop where
  moves : Moves s t
  creations : Creations t
  indexed : Indexed t

/-- An object is constructed. -/
lemma Inv.construct (h : Inv s) {ofId : ℕ → K} {o : Ob} {info : Info}
    (hs : step ofId s (.construct o info) = some t) : Goes s t := by
  simp only [step] at hs
  split at hs
  · cases hs
  rename_i hno
  obtain rfl := Option.some.inj hs
  have hfresh := h.creations.outside o hno
  have hself : (({ s with objects := insert o s.objects }.setMember o { info := info }).member o) =
      { info := info } := Function.update_self _ _ _
  have hother : ∀ k, k ≠ o →
      ({ s with objects := insert o s.objects }.setMember o { info := info }).member k =
        s.member k := fun k hk => Function.update_of_ne hk _ _
  refine ⟨.quiet (Finset.subset_insert _ _) rfl rfl rfl ?_, ?_, ?_⟩
  · intro a k
    by_cases hk : k = o
    · subst hk
      rw [hself]
      exact same_of_unopened (Member.unopened a (.inl hfresh)) (Member.unopened a (.inl rfl))
    · rw [hother k hk]
      exact ⟨rfl, rfl⟩
  · refine h.creations.others rfl rfl rfl (Finset.subset_insert _ _) (fun _ _ _ => rfl) ?_ ?_
    · intro k hk
      refine hother k fun he => hno ?_
      rw [← he]
      exact (h.creations.held hk).1
    · intro k hk
      obtain ⟨hk, hk'⟩ := not_or.mp (mt Finset.mem_insert.mpr hk)
      rw [hother k hk]
      exact h.creations.outside k hk'
  · refine h.indexed.frame (fun _ ha => ha) (fun _ _ => rfl) fun k => ?_
    by_cases hk : k = o
    · subst hk
      rw [hself, hfresh]
      exact .inr ⟨rfl, .inl rfl⟩
    · exact .inl (hother k hk)

/-- A creation begins. -/
lemma Inv.create (h : Inv s) {ofId : ℕ → K} {u : T} {m : M} {key : Option K} {kind name : String}
    (hs : step ofId s (.create u m key kind name) = some t) : Goes s t := by
  simp only [step] at hs
  split at hs
  · rename_i hno
    obtain rfl := Option.some.inj hs
    refine ⟨.quiet (Finset.Subset.refl _) rfl rfl rfl fun _ _ => ⟨rfl, rfl⟩, ?_, h.indexed⟩
    exact h.creations.begins hno.1 hno.2 rfl rfl rfl rfl rfl rfl rfl
  · cases hs

omit [DecidableEq K] in
/-- A creation returns or throws without having counted its object. -/
lemma Inv.ends (h : Inv s) {u : T} {c : Creation M K Ob} (hc : s.creation u = some c)
    {owner : Option Ob} (ho : c.owner = owner) : Goes s (s.finish u c.manager owner) := by
  subst ho
  exact ⟨.quiet (Finset.Subset.refl _) rfl rfl rfl fun _ _ => ⟨rfl, rfl⟩,
    h.creations.ends hc rfl rfl rfl rfl rfl fun _ _ => rfl, h.indexed⟩

omit [DecidableEq K] in
/-- A creation goes on, and does nothing to its object or to what the accounts count. -/
lemma Inv.goesOn (h : Inv s) {u : T} {c : Creation M K Ob} {stage : Stage K Ob}
    (hc : s.creation u = some c) (hown : (c.at stage).owner = c.owner)
    (hf : (c.at stage).Fits s) : Goes s (s.setCreation u (c.at stage)) :=
  ⟨.quiet (Finset.Subset.refl _) rfl rfl rfl fun _ _ => ⟨rfl, rfl⟩,
    h.creations.goesOn hc rfl rfl rfl rfl rfl hown (fun _ _ => rfl)
      (hf.frame (Finset.Subset.refl _) fun _ _ => rfl), h.indexed⟩

/-- The creator delivers an object, or it fails, or it has delivered a member. -/
lemma Inv.creator (h : Inv s) {ofId : ℕ → K} {u v : T} {c : Creation M K Ob} {owner : Option Ob}
    (hc : s.creation u = some c) (hs : advance ofId s u c (.creator v owner) = some t) :
    Goes s t := by
  simp only [advance] at hs
  split at hs
  · rename_i hst
    obtain rfl := Option.some.inj hs
    refine h.ends hc ?_
    rw [Creation.owner, hst]
  · rename_i o hst
    have hno : c.owner = none := by rw [Creation.owner, hst]
    split at hs
    · rename_i hin
      split at hs
      · rename_i hph
        obtain rfl := Option.some.inj hs
        refine ⟨.quiet (Finset.Subset.refl _) rfl rfl rfl fun _ _ => ⟨rfl, rfl⟩, ?_, h.indexed⟩
        exact h.creations.delivers hc hno hin.1 hin.2 hph rfl rfl rfl rfl rfl rfl
      · obtain rfl := Option.some.inj hs
        exact h.ends hc hno
      · cases hs
    · cases hs
  · cases hs

/-- The identity is fetched. -/
lemma Inv.info (h : Inv s) {ofId : ℕ → K} {u v : T} {c : Creation M K Ob} {fails : Bool}
    {hook : Hook} {id : Option ℕ} (hc : s.creation u = some c)
    (hs : advance ofId s u c (.info v fails hook id) = some t) : Goes s t := by
  have hfit := h.creations.fits u c hc
  simp only [advance] at hs
  split at hs
  · rename_i o hst
    have ho : c.owner = some o := by rw [Creation.owner, hst]
    simp only [Creation.Fits, hst] at hfit
    split at hs
    · obtain rfl := Option.some.inj hs
      exact h.ends hc ho
    · obtain rfl := Option.some.inj hs
      exact h.goesOn hc ho.symm hfit
  · cases hs

/-- The counters of the kind are fetched or made. -/
lemma Inv.bucket (h : Inv s) {ofId : ℕ → K} {u v : T} {c : Creation M K Ob} {fails : Bool}
    (hc : s.creation u = some c) (hs : advance ofId s u c (.bucket v fails) = some t) :
    Goes s t := by
  have hfit := h.creations.fits u c hc
  simp only [advance] at hs
  split at hs
  · rename_i o info hst
    have ho : c.owner = some o := by rw [Creation.owner, hst]
    simp only [Creation.Fits, hst] at hfit
    split at hs
    · obtain rfl := Option.some.inj hs
      exact h.ends hc ho
    · obtain rfl := Option.some.inj hs
      refine ⟨.quiet (Finset.Subset.refl _) rfl rfl rfl fun _ _ => ⟨rfl, rfl⟩, ?_, h.indexed⟩
      exact h.creations.goesOn hc rfl rfl rfl rfl rfl ho.symm (fun _ _ => rfl) hfit
  · cases hs

/-- The key is found out. -/
lemma Inv.key (h : Inv s) {ofId : ℕ → K} {u v : T} {c : Creation M K Ob} {fails : Bool}
    (hc : s.creation u = some c) (hs : advance ofId s u c (.key v fails) = some t) :
    Goes s t := by
  have hfit := h.creations.fits u c hc
  simp only [advance] at hs
  split at hs
  · rename_i o info hst
    have ho : c.owner = some o := by rw [Creation.owner, hst]
    simp only [Creation.Fits, hst] at hfit
    split at hs
    · obtain rfl := Option.some.inj hs
      exact h.ends hc ho
    · obtain rfl := Option.some.inj hs
      generalize c.key.getD (ofId info.id) = k
      have hself := Function.update_self o { s.member o with key := some k } s.member
      have hother : ∀ i, i ≠ o → Function.update s.member o { s.member o with key := some k } i =
          s.member i := fun i hi => Function.update_of_ne hi _ _
      refine ⟨.quiet (Finset.Subset.refl _) rfl rfl rfl ?_, ?_, ?_⟩
      · intro a i
        by_cases hi : i = o
        · subst hi
          show Same _ (Function.update s.member i _ i) a
          rw [hself]
          exact ⟨rfl, rfl⟩
        · show Same _ (Function.update s.member o _ i) a
          rw [hother i hi]
          exact ⟨rfl, rfl⟩
      · refine h.creations.goesOn hc rfl rfl rfl rfl rfl ho.symm ?_ ⟨hfit.1, ?_⟩
        · intro i hi
          exact hother i fun he => hi (he ▸ ho)
        · show (Function.update s.member o _ o).phase = .fresh
          rw [hself]
          exact hfit.2
      · refine h.indexed.frame (fun _ ha => ha) (fun _ _ => rfl) fun i => ?_
        by_cases hi : i = o
        · subst hi
          refine .inr ?_
          show _ = (Function.update s.member i _ i).phase.registered ∧
            (_ ∨ (Function.update s.member i _ i).manager = _ ∧
              (Function.update s.member i _ i).entry = _)
          rw [hself]
          exact ⟨rfl, .inr ⟨rfl, rfl⟩⟩
        · exact .inl (hother i hi)
  · cases hs

/-- The key is put into the index, and the member is committed. -/
lemma Inv.emplace (h : Inv s) {ofId : ℕ → K} {u v : T} {c : Creation M K Ob} {fails : Bool}
    (hc : s.creation u = some c) (hs : advance ofId s u c (.emplace v fails) = some t) :
    Goes s t := by
  have hfit := h.creations.fits u c hc
  simp only [advance] at hs
  split at hs
  · rename_i o info k hst
    have ho : c.owner = some o := by rw [Creation.owner, hst]
    simp only [Creation.Fits, hst] at hfit
    split at hs
    · obtain rfl := Option.some.inj hs
      exact h.ends hc ho
    split at hs
    · obtain rfl := Option.some.inj hs
      exact h.ends hc ho
    rename_i hfree
    have hnone : s.members c.manager k = none := Option.not_isSome_iff_eq_none.mp hfree
    obtain rfl := Option.some.inj hs
    generalize hx : ({ s.member o with
      info := info, manager := some c.manager, kindStats := some info.kind, entry := some k,
      phase := .indexed } : Member M K) = x
    have hxm : x.manager = some c.manager := by rw [← hx]
    have hxk : x.kindStats = some info.kind := by rw [← hx]
    have hxe : x.entry = some k := by rw [← hx]
    have hxp : x.phase = .indexed := by rw [← hx]
    have hself := Function.update_self o x s.member
    have hother : ∀ i, i ≠ o → Function.update s.member o x i = s.member i :=
      fun i hi => Function.update_of_ne hi _ _
    refine ⟨.quiet (Finset.Subset.refl _) rfl rfl rfl ?_, ?_, ?_⟩
    · intro a i
      show Same _ (Function.update s.member o x i) a
      by_cases hi : i = o
      · subst hi
        rw [hself]
        exact same_of_unopened (Member.unopened a (.inl hfit.2))
          (Member.unopened a (.inr (.inl hxp)))
      · rw [hother i hi]
        exact ⟨rfl, rfl⟩
    · refine h.creations.goesOn hc rfl rfl rfl rfl rfl ho.symm ?_ ⟨hfit.1, ?_⟩
      · intro i hi
        exact hother i fun he => hi (he ▸ ho)
      · show (Function.update s.member o x o).phase = .indexed ∧
          (Function.update s.member o x o).manager = some c.manager ∧
          (Function.update s.member o x o).kindStats = some info.kind
        rw [hself]
        exact ⟨hxp, hxm, hxk⟩
    · intro m hal k' i
      show Function.update s.members c.manager
        (Function.update (s.members c.manager) k (some o)) m k' = some i ↔
        (Function.update s.member o x i).manager = some m ∧
          (Function.update s.member o x i).entry = some k' ∧
          (Function.update s.member o x i).phase.registered
      have hold := h.indexed m hal k' i
      have hplace : Function.update s.members c.manager
          (Function.update (s.members c.manager) k (some o)) m k' =
          if m = c.manager ∧ k' = k then some o else s.members m k' := by
        by_cases hm : m = c.manager
        · subst hm
          rw [Function.update_self]
          by_cases hk : k' = k
          · subst hk
            rw [Function.update_self, if_pos ⟨rfl, rfl⟩]
          · rw [Function.update_of_ne hk, if_neg fun he => hk he.2]
        · rw [Function.update_of_ne hm, if_neg fun he => hm he.1]
      rw [hplace]
      by_cases hi : i = o
      · subst hi
        rw [hself, hxm, hxe, hxp]
        by_cases hmk : m = c.manager ∧ k' = k
        · obtain ⟨rfl, rfl⟩ := hmk
          rw [if_pos ⟨rfl, rfl⟩]
          exact iff_of_true rfl ⟨rfl, rfl, rfl⟩
        · rw [if_neg hmk, hold, hfit.2]
          refine iff_of_false (fun hr => by cases hr.2.2) fun hr => hmk ?_
          exact ⟨(Option.some.inj hr.1).symm, (Option.some.inj hr.2.1).symm⟩
      · rw [hother i hi]
        by_cases hmk : m = c.manager ∧ k' = k
        · obtain ⟨rfl, rfl⟩ := hmk
          rw [if_pos ⟨rfl, rfl⟩, ← hold, hnone]
          exact iff_of_false (fun he => hi (Option.some.inj he).symm) fun he => by cases he
        · rw [if_neg hmk]
          exact hold
  · cases hs

omit [DecidableEq T] [DecidableEq K] in
/-- A step to another phase, which one account counts or uncounts and the others do not see. -/
lemma Moves.of_phase {a : Account M} {o : Ob} {q : Phase}
    (hb : (s.member o).belongs a = true) (ho : o ∈ s.objects) (hobj : t.objects = s.objects)
    (hm : t.member = Function.update s.member o { s.member o with phase := q })
    (hx : ∀ b, b ≠ a → (s.member o).belongs b = true →
      q.charged b = (s.member o).phase.charged b ∧ q.opened b = (s.member o).phase.opened b)
    (hq : q.opened a = true)
    (h : t.counters = (s.onCreate a o).counters ∧ t.created = (s.onCreate a o).created ∧
        t.destroyed = s.destroyed ∧ (s.member o).phase.opened a = false ∧ q.charged a = true ∨
      t.counters = (s.onDestroy a o).counters ∧ t.created = s.created ∧
        t.destroyed = (s.onDestroy a o).destroyed ∧ (s.member o).phase.charged a = true ∧
        q.charged a = false) : Moves s t := by
  have hself : t.member o = { s.member o with phase := q } := by
    rw [hm, Function.update_self]
  have hsame : ∀ b k, k ≠ o ∨ b ≠ a → Same (s.member k) (t.member k) b := by
    intro b k hbk
    by_cases hk : k = o
    · subst hk
      have hba : b ≠ a := hbk.resolve_left fun hn => hn rfl
      rw [hself]
      cases hbb : (s.member k).belongs b with
      | false => exact ⟨by unfold Member.charged; rw [hbb]; exact congrArg (· && _) hbb,
          by unfold Member.opened; rw [hbb]; exact congrArg (· && _) hbb⟩
      | true =>
        obtain ⟨hc, hop⟩ := hx b hba hbb
        exact ⟨congrArg ((s.member k).belongs b && ·) hc,
          congrArg ((s.member k).belongs b && ·) hop⟩
    · rw [hm, Function.update_of_ne hk]
      exact ⟨rfl, rfl⟩
  have hbt : (t.member o).belongs a = true := by
    rw [hself]
    exact hb
  have hphase : (t.member o).phase = q := by rw [hself]
  have hopen : (t.member o).opened a = true := by
    unfold Member.opened
    rw [hbt, hphase, hq]
    rfl
  obtain ⟨hc, hcr, hd, hs, hch⟩ | ⟨hc, hcr, hd, hs, hch⟩ := h
  · refine .opens a o hobj ho hc hcr hd hsame ?_ ?_ hopen
    · unfold Member.opened
      rw [hb, hs]
      rfl
    · unfold Member.charged
      rw [hbt, hphase, hch]
      rfl
  · refine .settles a o hobj hc hcr hd hsame ?_ ?_ hopen
    · unfold Member.charged
      rw [hb, hs]
      rfl
    · unfold Member.charged
      rw [hbt, hphase, hch]
      rfl

section

omit [DecidableEq T] [DecidableEq M] [DecidableEq K]

/-- A step to another phase in which the member is as registered as before. -/
lemma Indexed.of_phase (h : Indexed s) {o : Ob} {q : Phase} (ha : t.alive = s.alive)
    (hi : t.members = s.members)
    (hm : t.member = Function.update s.member o { s.member o with phase := q })
    (hq : (s.member o).phase.registered = q.registered) : Indexed t := by
  refine h.frame (fun m hal => ha ▸ hal) (fun m _ => by rw [hi]) fun k => ?_
  by_cases hk : k = o
  · subst hk
    rw [hm, Function.update_self]
    exact .inr ⟨hq, .inr ⟨rfl, rfl⟩⟩
  · rw [hm, Function.update_of_ne hk]
    exact .inl rfl

/-- A destructor of an object that no creation holds. -/
lemma Creations.of_phase (h : Creations s) {o : Ob} {q : Phase} (ho : s.holder o = none)
    (hin : o ∈ s.objects) (hc : t.creation = s.creation) (hu : t.users = s.users)
    (hh : t.holder = s.holder) (hobj : t.objects = s.objects) (ha : t.alive = s.alive)
    (hm : t.member = Function.update s.member o { s.member o with phase := q }) : Creations t := by
  refine h.others hc hu hh (hobj ▸ Finset.Subset.refl _) (fun _ _ _ => by rw [ha]) ?_ ?_
  · intro k hk
    rw [hm, Function.update_of_ne fun he : k = o => hk (he ▸ ho)]
  · intro k hk
    rw [hobj] at hk
    rw [hm, Function.update_of_ne fun he : k = o => hk (he ▸ hin)]
    exact h.outside k hk

/-- What is neither new nor in the hands of a creation has been constructed and is free. -/
lemma Creations.free (h : Creations s) {o : Ob} (hn : (s.member o).phase ≠ .fresh)
    (hi : (s.member o).phase ≠ .indexed) (hc : (s.member o).phase ≠ .counted) :
    o ∈ s.objects ∧ s.holder o = none := by
  constructor
  · by_contra ho
    exact hn (h.outside o ho)
  · by_contra ho
    obtain hf | hf | hf := (h.held ho).2
    · exact hn hf
    · exact hi hf
    · exact hc hf

end

/-- The manager counts the member. -/
lemma Inv.onCreate (h : Inv s) {ofId : ℕ → K} {u v : T} {c : Creation M K Ob}
    (hc : s.creation u = some c) (hs : advance ofId s u c (.onCreate v) = some t) : Goes s t := by
  have hfit := h.creations.fits u c hc
  simp only [advance] at hs
  split at hs
  · rename_i o info hst
    have ho : c.owner = some o := by rw [Creation.owner, hst]
    simp only [Creation.Fits, hst] at hfit
    obtain ⟨hin, hph, hman, hkind⟩ := hfit
    obtain rfl := Option.some.inj hs
    refine ⟨Moves.of_phase (a := .manager c.manager) (o := o) (q := .counted) ?_ hin rfl rfl ?_ rfl
      (.inl ⟨rfl, rfl, rfl, ?_, rfl⟩), ?_, h.indexed.of_phase rfl rfl rfl ?_⟩
    · exact decide_eq_true hman
    · intro b hb hbelongs
      rw [hph]
      cases b with
      | manager m =>
        have hm := of_decide_eq_true hbelongs
        rw [hman] at hm
        exact absurd (congrArg Account.manager (Option.some.inj hm).symm) hb
      | kind k => exact ⟨rfl, rfl⟩
    · rw [hph]
      rfl
    · refine h.creations.goesOn hc rfl rfl rfl rfl rfl ho.symm ?_ ⟨hin, ?_⟩
      · intro i hi
        exact Function.update_of_ne (fun he : i = o => hi (he ▸ ho)) _ _
      · show (Function.update s.member o _ o).phase = .counted ∧
          (Function.update s.member o _ o).manager = some c.manager ∧
          (Function.update s.member o _ o).kindStats = some info.kind
        rw [Function.update_self]
        exact ⟨rfl, hman, hkind⟩
    · rw [hph]
      rfl
  · cases hs

/-- The kind counts the member, and the creation returns it. -/
lemma Inv.onCreateKind (h : Inv s) {ofId : ℕ → K} {u v : T} {c : Creation M K Ob}
    (hc : s.creation u = some c) (hs : advance ofId s u c (.onCreateKind v) = some t) :
    Goes s t := by
  have hfit := h.creations.fits u c hc
  simp only [advance] at hs
  split at hs
  · rename_i o info hst
    have ho : c.owner = some o := by rw [Creation.owner, hst]
    simp only [Creation.Fits, hst] at hfit
    obtain ⟨hin, hph, hman, hkind⟩ := hfit
    obtain rfl := Option.some.inj hs
    refine ⟨Moves.of_phase (a := .kind info.kind) (o := o) (q := .live) ?_ hin rfl rfl ?_ rfl
      (.inl ⟨rfl, rfl, rfl, ?_, rfl⟩), ?_, h.indexed.of_phase rfl rfl rfl ?_⟩
    · exact decide_eq_true hkind
    · intro b hb hbelongs
      rw [hph]
      cases b with
      | manager m => exact ⟨rfl, rfl⟩
      | kind k =>
        have hk := of_decide_eq_true hbelongs
        rw [hkind] at hk
        exact absurd (congrArg Account.kind (Option.some.inj hk).symm) hb
    · rw [hph]
      rfl
    · rw [← ho]
      exact h.creations.ends hc rfl rfl rfl rfl rfl fun i hi =>
        Function.update_of_ne (fun he : i = o => hi (he ▸ ho)) _ _
    · rw [hph]
      rfl
  · cases hs

/-- An object without registration is destroyed, or the destructor of a member settles the counters
of its manager. -/
lemma Inv.destroy (h : Inv s) {ofId : ℕ → K} {o : Ob} (hs : step ofId s (.destroy o) = some t) :
    Goes s t := by
  simp only [step] at hs
  split at hs
  swap
  · cases hs
  rename_i hin
  split at hs
  · rename_i hph
    obtain rfl := Option.some.inj hs
    refine ⟨.quiet (Finset.Subset.refl _) rfl rfl rfl ?_,
      h.creations.of_phase hin.2 hin.1 rfl rfl rfl rfl rfl rfl,
      h.indexed.of_phase rfl rfl rfl (by rw [hph]; rfl)⟩
    intro a k
    show Same _ (Function.update s.member o _ k) a
    by_cases hk : k = o
    · subst hk
      rw [Function.update_self]
      exact same_of_unopened (Member.unopened a (.inl hph)) (Member.unopened a (.inr (.inr rfl)))
    · rw [Function.update_of_ne hk]
      exact ⟨rfl, rfl⟩
  · rename_i hph
    obtain ⟨m, hman, rfl⟩ := Option.map_eq_some_iff.mp hs
    refine ⟨Moves.of_phase (a := .manager m) (o := o) (q := .settled) (decide_eq_true hman) hin.1
      rfl rfl ?_ rfl (.inr ⟨rfl, rfl, rfl, by rw [hph]; rfl, rfl⟩),
      h.creations.of_phase hin.2 hin.1 rfl rfl rfl rfl rfl rfl,
      h.indexed.of_phase rfl rfl rfl (by rw [hph]; rfl)⟩
    intro b hb hbelongs
    rw [hph]
    cases b with
    | manager m' =>
      have hm := of_decide_eq_true hbelongs
      rw [hman] at hm
      exact absurd (congrArg Account.manager (Option.some.inj hm).symm) hb
    | kind k => exact ⟨rfl, rfl⟩
  · cases hs

/-- The destructor settles the counters of the kind. -/
lemma Inv.onDestroyKind (h : Inv s) {ofId : ℕ → K} {o : Ob}
    (hs : step ofId s (.onDestroyKind o) = some t) : Goes s t := by
  simp only [step] at hs
  split at hs
  · rename_i hph
    obtain ⟨hin, hfree⟩ := h.creations.free (o := o) (by rw [hph]; exact Phase.noConfusion)
      (by rw [hph]; exact Phase.noConfusion) (by rw [hph]; exact Phase.noConfusion)
    obtain ⟨k, hkind, rfl⟩ := Option.map_eq_some_iff.mp hs
    refine ⟨Moves.of_phase (a := .kind k) (o := o) (q := .uncounted) (decide_eq_true hkind) hin
      rfl rfl ?_ rfl (.inr ⟨rfl, rfl, rfl, by rw [hph]; rfl, rfl⟩),
      h.creations.of_phase hfree hin rfl rfl rfl rfl rfl rfl,
      h.indexed.of_phase rfl rfl rfl (by rw [hph]; rfl)⟩
    intro b hb hbelongs
    rw [hph]
    cases b with
    | manager m => exact ⟨rfl, rfl⟩
    | kind k' =>
      have hk := of_decide_eq_true hbelongs
      rw [hkind] at hk
      exact absurd (congrArg Account.kind (Option.some.inj hk).symm) hb
  · cases hs

/-- The end of the destructor takes the member out of the index, if that still exists. -/
lemma Inv.onMemberDestroy (h : Inv s) {ofId : ℕ → K} {o : Ob}
    (hs : step ofId s (.onMemberDestroy o) = some t) : Goes s t := by
  simp only [step] at hs
  split at hs
  · rename_i m k hph hman hent
    obtain ⟨hin, hfree⟩ := h.creations.free (o := o) (by rw [hph]; exact Phase.noConfusion)
      (by rw [hph]; exact Phase.noConfusion) (by rw [hph]; exact Phase.noConfusion)
    obtain rfl := Option.some.inj hs
    refine ⟨.quiet (Finset.Subset.refl _) rfl rfl rfl ?_,
      h.creations.of_phase hfree hin rfl rfl rfl rfl rfl rfl, ?_⟩
    · intro a i
      show Same _ (Function.update s.member o _ i) a
      by_cases hi : i = o
      · subst hi
        rw [Function.update_self]
        unfold Same Member.charged Member.opened
        rw [hph]
        cases a <;> exact ⟨rfl, rfl⟩
      · rw [Function.update_of_ne hi]
        exact ⟨rfl, rfl⟩
    · intro m' hal k' i
      have hold := h.indexed m' hal k' i
      have hat : s.alive m = true → s.members m k = some o := fun ha =>
        (h.indexed m ha k o).mpr ⟨hman, hent, by rw [hph]; rfl⟩
      show (if s.alive m = true then Function.update s.members m
          (Function.update (s.members m) k none) else s.members) m' k' = some i ↔
        (Function.update s.member o { s.member o with phase := .gone } i).manager = some m' ∧
          (Function.update s.member o { s.member o with phase := .gone } i).entry = some k' ∧
          (Function.update s.member o { s.member o with phase := .gone } i).phase.registered
      have hplace : (if s.alive m = true then Function.update s.members m
          (Function.update (s.members m) k none) else s.members) m' k' =
          if m' = m ∧ k' = k then none else s.members m' k' := by
        by_cases hm : m' = m
        · subst hm
          have hal' : s.alive m' = true := hal
          rw [if_pos hal', Function.update_self]
          by_cases hk : k' = k
          · subst hk
            rw [Function.update_self, if_pos ⟨rfl, rfl⟩]
          · rw [Function.update_of_ne hk, if_neg fun he => hk he.2]
        · have hoff : ¬ (m' = m ∧ k' = k) := fun he => hm he.1
          rw [if_neg hoff]
          split
          · rw [Function.update_of_ne hm]
          · rfl
      rw [hplace]
      by_cases hi : i = o
      · subst hi
        rw [Function.update_self]
        refine iff_of_false (fun he => ?_) fun he => by cases he.2.2
        by_cases hmk : m' = m ∧ k' = k
        · rw [if_pos hmk] at he
          cases he
        · rw [if_neg hmk, hold, hman, hent] at he
          exact hmk ⟨(Option.some.inj he.1).symm, (Option.some.inj he.2.1).symm⟩
      · rw [Function.update_of_ne hi]
        by_cases hmk : m' = m ∧ k' = k
        · obtain ⟨rfl, rfl⟩ := hmk
          rw [if_pos ⟨rfl, rfl⟩, ← hold, hat hal]
          exact iff_of_false (fun he => by cases he) fun he => hi (Option.some.inj he).symm
        · rw [if_neg hmk]
          exact hold
  · cases hs

/-- A manager that no creation holds is destroyed. -/
lemma Inv.destroyManager (h : Inv s) {ofId : ℕ → K} {m : M}
    (hs : step ofId s (.destroyManager m) = some t) : Goes s t := by
  simp only [step] at hs
  split at hs
  · rename_i hm
    obtain rfl := Option.some.inj hs
    have hne : ∀ m', Function.update s.alive m false m' = true → m' ≠ m := by
      rintro m' hal rfl
      rw [Function.update_self] at hal
      cases hal
    refine ⟨.quiet (Finset.Subset.refl _) rfl rfl rfl fun _ _ => ⟨rfl, rfl⟩, ?_, ?_⟩
    · refine h.creations.others rfl rfl rfl (Finset.Subset.refl _) ?_ (fun _ _ => rfl)
        h.creations.outside
      intro u c hc
      refine Function.update_of_ne (fun he => ?_) _ _
      have hu := (h.creations.users u m).mpr ⟨c, hc, he⟩
      rw [hm.2] at hu
      cases hu
    · refine h.indexed.frame (fun m' hal => ?_) (fun m' hal => ?_) fun _ => .inl rfl
      · have hal' : Function.update s.alive m false m' = true := hal
        rwa [Function.update_of_ne (hne m' hal)] at hal'
      · exact Function.update_of_ne (hne m' hal) _ _
  · cases hs

/-- Every step keeps the accounts, the creations and the index. -/
lemma Inv.step (h : Inv s) {ofId : ℕ → K} {l : Label T M K Ob}
    (hs : ObjectManager.step ofId s l = some t) : Goes s t := by
  cases l with
  | construct o info => exact h.construct hs
  | create u m key kind name => exact h.create hs
  | destroy o => exact h.destroy hs
  | onDestroyKind o => exact h.onDestroyKind hs
  | onMemberDestroy o => exact h.onMemberDestroy hs
  | destroyManager m => exact h.destroyManager hs
  | creator u owner =>
    obtain ⟨c, hc, hs⟩ := Option.bind_eq_some_iff.mp hs
    exact h.creator hc hs
  | info u fails hook id =>
    obtain ⟨c, hc, hs⟩ := Option.bind_eq_some_iff.mp hs
    exact h.info hc hs
  | bucket u fails =>
    obtain ⟨c, hc, hs⟩ := Option.bind_eq_some_iff.mp hs
    exact h.bucket hc hs
  | key u fails =>
    obtain ⟨c, hc, hs⟩ := Option.bind_eq_some_iff.mp hs
    exact h.key hc hs
  | emplace u fails =>
    obtain ⟨c, hc, hs⟩ := Option.bind_eq_some_iff.mp hs
    exact h.emplace hc hs
  | onCreate u =>
    obtain ⟨c, hc, hs⟩ := Option.bind_eq_some_iff.mp hs
    exact h.onCreate hc hs
  | onCreateKind u =>
    obtain ⟨c, hc, hs⟩ := Option.bind_eq_some_iff.mp hs
    exact h.onCreateKind hc hs

end BbtCoroutine.ObjectManager
