import BbtCoroutine.CoPool.Steps
import Mathlib.Data.List.Perm.Basic

/-!
# The ledger of a `CoPool`

Each accepted item is queued, held by one coroutine of the pool or destroyed, and
`m_running_co_num` and the latch count the coroutines that are in their loops and those that
are not at their end.
-/

namespace BbtCoroutine.CoPool

open Transition

variable {ι : Type*} {n : ℕ}

/-! ## Counters -/

/-- Whether a coroutine is counted in `m_running_co_num`. -/
def Pc.begun : Pc ι → ℤ
  | created | down | done => 0
  | _ => 1

/-- Whether a coroutine has still to count the latch down. -/
def Pc.left : Pc ι → ℤ
  | done => 0
  | _ => 1

/-- A coroutine of the pool leaves a count that is not negative. -/
lemma Pc.left_nonneg (p : Pc ι) : 0 ≤ p.left := by
  cases p <;> simp [left]

/-- A coroutine of the pool begins a count that is not negative. -/
lemma Pc.begun_nonneg (p : Pc ι) : 0 ≤ p.begun := by
  cases p <;> simp [begun]

/-- Only a coroutine that is done has nothing left. -/
lemma Pc.left_eq_zero {p : Pc ι} (h : p.left = 0) : p = .done := by
  cases p <;> first | rfl | cases h

/-- A coroutine that idles has begun. -/
lemma Idling.begun {p : Pc ι} (h : Idling p) : p.begun = 1 := by
  cases h <;> rfl

/-- A coroutine that idles has not left. -/
lemma Idling.left {p : Pc ι} (h : Idling p) : p.left = 1 := by
  cases h <;> rfl

/-- A move of a coroutine moves `m_running_co_num` by what it weighs. -/
lemma Move.runningCoNum [DecidableEq ι] {sh sh' : Shared ι} {p p' : Pc ι} (h : Move sh p sh' p') :
    sh'.runningCoNum = sh.runningCoNum + (p'.begun - p.begun) := by
  cases h with
  | idle hp hp' => rw [hp.begun, hp'.begun]; simp
  | finish hp => rcases hp with rfl | rfl <;> simp [Pc.begun]
  | _ => simp [Pc.begun, sub_eq_add_neg]

/-- A move of a coroutine moves the latch by what it weighs. -/
lemma Move.latch [DecidableEq ι] {sh sh' : Shared ι} {p p' : Pc ι} (h : Move sh p sh' p') :
    sh'.latch = sh.latch + (p'.left - p.left) := by
  cases h with
  | idle hp hp' => rw [hp.left, hp'.left]; simp
  | finish hp => rcases hp with rfl | rfl <;> simp [Pc.left]
  | _ => simp [Pc.left, sub_eq_add_neg]

/-! ## Items -/

/-- The item that a coroutine holds, and how often it has been invoked. -/
def Pc.item : Pc ι → Option (ι × ℕ)
  | invoke k => some (k, 0)
  | invoking k | handle k | delete k => some (k, 1)
  | _ => none

/-- Where the items are. -/
structure Ledger (sh : Shared ι) (pc : Member n → Pc ι) : Prop where
  nodup : sh.works.Nodup
  queued : ∀ k ∈ sh.works,
    sh.accepted k = true ∧ sh.deleted k = false ∧ sh.invoked k = 0
  held : ∀ m k t, (pc m).item = some (k, t) →
    sh.accepted k = true ∧ sh.deleted k = false ∧ sh.invoked k = t ∧ k ∉ sh.works
  unique : ∀ m m' k t t', (pc m).item = some (k, t) → (pc m').item = some (k, t') → m = m'
  pending : ∀ k, sh.accepted k = true → sh.deleted k = false →
    k ∈ sh.works ∨ ∃ m t, (pc m).item = some (k, t)
  once : ∀ k, sh.invoked k ≤ 1

/-- A coroutine that idles holds no item. -/
lemma Idling.item {p : Pc ι} (h : Idling p) : p.item = none := by
  cases h <;> rfl

variable [DecidableEq ι]

namespace Ledger

variable {sh sh' : Shared ι} {pc pc' : Member n → Pc ι}

omit [DecidableEq ι] in
/-- The ledger depends on the queue, the record of the items and what the coroutines hold. -/
lemma congr (h : Ledger sh pc) (hw : sh'.works = sh.works) (ha : sh'.accepted = sh.accepted)
    (hd : sh'.deleted = sh.deleted) (hi : sh'.invoked = sh.invoked)
    (hp : ∀ m, (pc' m).item = (pc m).item) : Ledger sh' pc' where
  nodup := hw ▸ h.nodup
  queued := by rw [hw, ha, hd, hi]; exact h.queued
  held := by simp only [hw, ha, hd, hi, hp]; exact h.held
  unique := by simp only [hp]; exact h.unique
  pending := by simp only [hw, ha, hd, hp]; exact h.pending
  once := by rw [hi]; exact h.once

/-- A fresh item is accepted. -/
lemma accept (h : Ledger sh pc) {i : ι} (ha : sh.accepted i = false) (hd : sh.deleted i = false)
    (hi : sh.invoked i = 0) : Ledger { sh with
      works := sh.works ++ [i], accepted := Function.update sh.accepted i true } pc where
  nodup := by
    refine List.nodup_append.mpr ⟨h.nodup, List.nodup_singleton i, ?_⟩
    intro k hk j hj hkj
    obtain rfl := List.mem_singleton.mp hj
    subst hkj
    simp [(h.queued k hk).1] at ha
  queued := by
    intro k hk
    by_cases hki : k = i
    · subst hki
      exact ⟨by simp, hd, hi⟩
    · have hk := h.queued k (by simpa [hki] using hk)
      simpa [hki] using hk
  held := by
    intro m k t hm
    have hk := h.held m k t hm
    have hki : k ≠ i := by
      rintro rfl
      simp [hk.1] at ha
    simpa [hki] using hk
  unique := h.unique
  pending := by
    intro k hk hdk
    by_cases hki : k = i
    · exact .inl (by simp [hki])
    · have hk := h.pending k (by simpa [hki] using hk) hdk
      exact hk.imp_left fun hk => List.mem_append_left _ hk
  once := h.once

/-- An item that is not accepted is destroyed. -/
lemma reject (h : Ledger sh pc) {i : ι} (ha : sh.accepted i = false) (g : ι → Future) :
    Ledger { sh with future := g, deleted := Function.update sh.deleted i true } pc where
  nodup := h.nodup
  queued := by
    intro k hk
    have hki : k ≠ i := by
      rintro rfl
      simp [(h.queued k hk).1] at ha
    simpa [hki] using h.queued k hk
  held := by
    intro m k t hm
    have hki : k ≠ i := by
      rintro rfl
      simp [(h.held m k t hm).1] at ha
    simpa [hki] using h.held m k t hm
  unique := h.unique
  pending := by
    intro k hk hdk
    have hki : k ≠ i := by
      rintro rfl
      simp at hdk
    exact h.pending k hk (by simpa [hki] using hdk)
  once := h.once

/-- A drain takes an item from the queue and destroys it. -/
lemma discard (h : Ledger sh pc) {k : ι} (hk : k ∈ sh.works) (g : ι → Future) :
    Ledger { sh with
      works := sh.works.erase k
      future := g
      deleted := Function.update sh.deleted k true } pc where
  nodup := h.nodup.erase k
  queued := by
    intro j hj
    obtain ⟨hjk, hj⟩ := (h.nodup.mem_erase_iff).mp hj
    simpa [hjk] using h.queued j hj
  held := by
    intro m j t hm
    have hj := h.held m j t hm
    have hjk : j ≠ k := by
      rintro rfl
      exact hj.2.2.2 hk
    simpa [hjk, h.nodup.mem_erase_iff] using hj
  unique := h.unique
  pending := by
    intro j hj hdj
    have hjk : j ≠ k := by
      rintro rfl
      simp at hdj
    have hj := h.pending j hj (by simpa [hjk] using hdj)
    exact hj.imp_left fun hj => h.nodup.mem_erase_iff.mpr ⟨hjk, hj⟩
  once := h.once

/-! ### The moves of a coroutine -/

variable {m : Member n} {p : Pc ι} {k : ι}

omit [DecidableEq ι] in
/-- A move between points at which the same item is held. -/
lemma item_update {pc : Member n → Pc ι} (h : p.item = (pc m).item) (x : Member n) :
    (Function.update pc m p x).item = (pc x).item := by
  by_cases hx : x = m
  · subst hx
    simpa using h
  · simp [hx]

/-- A coroutine that takes a submission keeps the ledger. -/
lemma take (h : Ledger sh pc) (hm : (pc m).item = none) (hk : k ∈ sh.works) :
    Ledger { sh with works := sh.works.erase k } (Function.update pc m (.invoke k)) where
  nodup := h.nodup.erase k
  queued j hj := h.queued j (List.mem_of_mem_erase hj)
  held x j t hx := by
    by_cases hxm : x = m
    · subst hxm
      obtain ⟨rfl, rfl⟩ : k = j ∧ 0 = t := by simpa [Pc.item] using hx
      obtain ⟨ha, hd, hi⟩ := h.queued k hk
      exact ⟨ha, hd, hi, h.nodup.not_mem_erase⟩
    · obtain ⟨ha, hd, hi, hw⟩ := h.held x j t (by simpa [hxm] using hx)
      exact ⟨ha, hd, hi, fun hj => hw (List.mem_of_mem_erase hj)⟩
  unique x x' j t t' hx hx' := by
    have hne : ∀ y t, y ≠ m → (pc y).item = some (k, t) → False :=
      fun y t _ hy => (h.held y k t hy).2.2.2 hk
    by_cases hxm : x = m <;> by_cases hxm' : x' = m
    · rw [hxm, hxm']
    · subst hxm
      obtain ⟨rfl, rfl⟩ : k = j ∧ 0 = t := by simpa [Pc.item] using hx
      exact (hne x' t' hxm' (by simpa [hxm'] using hx')).elim
    · subst hxm'
      obtain ⟨rfl, rfl⟩ : k = j ∧ 0 = t' := by simpa [Pc.item] using hx'
      exact (hne x t hxm (by simpa [hxm] using hx)).elim
    · exact h.unique x x' j t t' (by simpa [hxm] using hx) (by simpa [hxm'] using hx')
  pending j ha hd := by
    rcases h.pending j ha hd with hj | ⟨x, t, hx⟩
    · by_cases hjk : j = k
      · exact .inr ⟨m, 0, by simp [Pc.item, hjk]⟩
      · exact .inl (h.nodup.mem_erase_iff.mpr ⟨hjk, hj⟩)
    · have hxm : x ≠ m := by
        rintro rfl
        rw [hm] at hx
        cases hx
      exact .inr ⟨x, t, by simpa [hxm] using hx⟩
  once := h.once

omit [DecidableEq ι] in
/-- Two coroutines hold different items. -/
lemma ne_of_held (h : Ledger sh pc) {t t' : ℕ} (hm : (pc m).item = some (k, t)) {x : Member n}
    {j : ι} (hx : (pc x).item = some (j, t')) (hxm : x ≠ m) : j ≠ k := by
  rintro rfl
  exact hxm (h.unique x m j t' t hx hm)

/-- A call of a submission keeps the ledger. -/
lemma invoke (h : Ledger sh pc) (hm : pc m = .invoke k) :
    Ledger { sh with invoked := Function.update sh.invoked k (sh.invoked k + 1) }
      (Function.update pc m (.invoking k)) where
  nodup := h.nodup
  queued j hj := by
    have hm : (pc m).item = some (k, 0) := by rw [hm]; rfl
    have hjk : j ≠ k := by
      rintro rfl
      exact (h.held m j 0 hm).2.2.2 hj
    simpa [hjk] using h.queued j hj
  held x j t hx := by
    have hm : (pc m).item = some (k, 0) := by rw [hm]; rfl
    by_cases hxm : x = m
    · subst hxm
      obtain ⟨rfl, rfl⟩ : k = j ∧ 1 = t := by simpa [Pc.item] using hx
      obtain ⟨ha, hd, hi, hw⟩ := h.held x k 0 hm
      exact ⟨ha, hd, by simp [hi], hw⟩
    · have hx : (pc x).item = some (j, t) := by simpa [hxm] using hx
      simpa [h.ne_of_held hm hx hxm] using h.held x j t hx
  unique x x' j t t' hx hx' := by
    have hm : (pc m).item = some (k, 0) := by rw [hm]; rfl
    have hold : ∀ y s, (Function.update pc m (.invoking k) y).item = some (j, s) →
        ∃ s', (pc y).item = some (j, s') := by
      intro y s hy
      by_cases hym : y = m
      · subst hym
        obtain ⟨rfl, -⟩ : k = j ∧ 1 = s := by simpa [Pc.item] using hy
        exact ⟨0, hm⟩
      · exact ⟨s, by simpa [hym] using hy⟩
    obtain ⟨s, hs⟩ := hold x t hx
    obtain ⟨s', hs'⟩ := hold x' t' hx'
    exact h.unique x x' j s s' hs hs'
  pending j ha hd := by
    refine (h.pending j ha hd).imp_right ?_
    rintro ⟨x, t, hx⟩
    by_cases hxm : x = m
    · subst hxm
      obtain ⟨rfl, -⟩ : k = j ∧ 0 = t := by simpa [hm, Pc.item] using hx
      exact ⟨x, 1, by simp [Pc.item]⟩
    · exact ⟨x, t, by simpa [hxm] using hx⟩
  once j := by
    by_cases hjk : j = k
    · subst hjk
      have hi : sh.invoked j = 0 := (h.held m j 0 (by rw [hm]; rfl)).2.2.1
      simp [hi]
    · simpa [hjk] using h.once j

/-- The deletion of a submission keeps the ledger. -/
lemma delete (h : Ledger sh pc) (hm : pc m = .delete k) (g : ι → Future) :
    Ledger { sh with future := g, deleted := Function.update sh.deleted k true }
      (Function.update pc m .loop) where
  nodup := h.nodup
  queued j hj := by
    have hjk : j ≠ k := by
      rintro rfl
      exact (h.held m j 1 (by rw [hm]; rfl)).2.2.2 hj
    simpa [hjk] using h.queued j hj
  held x j t hx := by
    have hxm : x ≠ m := by
      rintro rfl
      simp [Pc.item] at hx
    have hx : (pc x).item = some (j, t) := by simpa [hxm] using hx
    have hjk : j ≠ k := h.ne_of_held (t := 1) (by rw [hm]; rfl) hx hxm
    simpa [hjk] using h.held x j t hx
  unique x x' j t t' hx hx' := by
    have hold : ∀ y s, (Function.update pc m .loop y).item = some (j, s) →
        (pc y).item = some (j, s) := by
      intro y s hy
      by_cases hym : y = m
      · subst hym
        simp [Pc.item] at hy
      · simpa [hym] using hy
    exact h.unique x x' j t t' (hold x t hx) (hold x' t' hx')
  pending j ha hd := by
    have hjk : j ≠ k := by
      rintro rfl
      simp at hd
    refine (h.pending j ha (by simpa [hjk] using hd)).imp_right ?_
    rintro ⟨x, t, hx⟩
    have hxm : x ≠ m := by
      rintro rfl
      rw [hm] at hx
      exact hjk (congrArg Prod.fst (Option.some.inj hx)).symm
    exact ⟨x, t, by simpa [hxm] using hx⟩
  once := h.once

/-- A move of a coroutine leaves the items alone that are not accepted. -/
lemma fresh_move (h : Ledger sh pc) {sh' : Shared ι} (hm : Move sh (pc m) sh' p)
    (ha : sh.accepted k = false) : sh'.accepted k = sh.accepted k ∧
      sh'.deleted k = sh.deleted k ∧ sh'.invoked k = sh.invoked k := by
  have hne : ∀ j t, (pc m).item = some (j, t) → k ≠ j := by
    rintro j t hj rfl
    simp [(h.held m k t hj).1] at ha
  generalize hp : pc m = q at hm
  cases hm with
  | begin | idle | stop | take | throw | finish | leave | down => exact ⟨rfl, rfl, rfl⟩
  | @invoke j => exact ⟨rfl, rfl, by simp [hne j 0 (by rw [hp]; rfl)]⟩
  | @delete j g => exact ⟨rfl, by simp [hne j 1 (by rw [hp]; rfl)], rfl⟩

/-- Every move of a coroutine keeps the ledger. -/
lemma move (h : Ledger sh pc) {sh' : Shared ι} (hm : Move sh (pc m) sh' p) :
    Ledger sh' (Function.update pc m p) := by
  have hsilent : ∀ {sh' : Shared ι} {p : Pc ι}, sh'.works = sh.works →
      sh'.accepted = sh.accepted → sh'.deleted = sh.deleted → sh'.invoked = sh.invoked →
      p.item = (pc m).item → Ledger sh' (Function.update pc m p) :=
    fun hw ha hd hi hp => h.congr hw ha hd hi (item_update hp)
  generalize hp : pc m = q at hm
  cases hm with
  | begin | stop | throw | leave | down => exact hsilent rfl rfl rfl rfl (by rw [hp]; rfl)
  | idle hq hp' => exact hsilent rfl rfl rfl rfl (by rw [hp, hp'.item, hq.item])
  | finish hq g u =>
    refine hsilent rfl rfl rfl rfl ?_
    rcases hq with rfl | rfl <;> rw [hp] <;> rfl
  | take hk => exact h.take (by rw [hp]; rfl) hk
  | invoke => exact h.invoke hp
  | delete g => exact h.delete hp g

end Ledger

/-! ## The invariant -/

/-- What holds in every reachable state of a pool. -/
structure Inv (s : State n ι) : Prop where
  runningCoNum : s.shared.runningCoNum = weight Pc.begun s.pc
  latch : s.shared.latch = weight Pc.left s.pc
  ledger : Ledger s.shared s.pc
  fresh : ∀ i, (s.call i).early = true →
    s.shared.accepted i = false ∧ s.shared.deleted i = false ∧ s.shared.invoked i = 0
  past : ∀ i, (s.call i).past = true → ∀ m, s.pc m = .done

namespace Inv

variable {s : State n ι}

omit [DecidableEq ι] in
/-- The invariant holds initially. -/
lemma init : Inv (init n ι) where
  runningCoNum := by
    rw [CoPool.init, weight_const]
    simp [Pc.begun]
  latch := by
    rw [CoPool.init, weight_const, card_member]
    simp [Pc.left]
  ledger :=
    { nodup := List.nodup_nil
      queued := by nofun
      held := by nofun
      unique := by nofun
      pending := by nofun
      once := fun _ => Nat.zero_le 1 }
  fresh := fun _ _ => ⟨rfl, rfl, rfl⟩
  past := by nofun

/-- A move of a coroutine of the pool. -/
lemma move (h : Inv s) {m : Member n} {sh : Shared ι} {p : Pc ι}
    (hm : Move s.shared (s.pc m) sh p) :
    Inv { s with shared := sh, pc := Function.update s.pc m p } where
  runningCoNum := by
    rw [weight_update, ← h.runningCoNum]
    exact hm.runningCoNum
  latch := by
    rw [weight_update, ← h.latch]
    exact hm.latch
  ledger := h.ledger.move hm
  fresh i hi := by
    have hf := h.fresh i hi
    obtain ⟨ha, hd, hi⟩ := h.ledger.fresh_move hm hf.1
    rwa [ha, hd, hi]
  past i hi x := by
    have hdone : s.pc m = .done := h.past i hi m
    rw [hdone] at hm
    nomatch hm

/-- A move of a call keeps the counters and the ledger. -/
lemma ledger_callMove (h : Inv s) {i : ι} {a : Answer ι} {sh : Shared ι} {f : Frame}
    (hm : Frame.Move s.shared i a (s.call i) sh f) :
    sh.runningCoNum = s.shared.runningCoNum ∧ sh.latch = s.shared.latch ∧ Ledger sh s.pc := by
  generalize hf : s.call i = f₀ at hm
  cases hm with
  | alloc | store => exact ⟨rfl, rfl, h.ledger.congr rfl rfl rfl rfl fun _ => rfl⟩
  | goOn | passLatch | released => exact ⟨rfl, rfl, h.ledger⟩
  | reject hc g =>
    have ha := (h.fresh i (by rw [hf]; rcases hc with rfl | rfl <;> rfl)).1
    exact ⟨rfl, rfl, h.ledger.reject ha g⟩
  | accept =>
    obtain ⟨ha, hd, hi⟩ := h.fresh i (by rw [hf]; rfl)
    exact ⟨rfl, rfl, h.ledger.accept ha hd hi⟩
  | discard hc hk g => exact ⟨rfl, rfl, h.ledger.discard hk g⟩

/-- The items of the calls that have not enqueued theirs stay fresh. -/
lemma fresh_callMove (h : Inv s) {i j : ι} {a : Answer ι} {sh : Shared ι} {f : Frame}
    (hm : Frame.Move s.shared i a (s.call i) sh f)
    (hj : (Function.update s.call i f j).early = true) :
    sh.accepted j = false ∧ sh.deleted j = false ∧ sh.invoked j = 0 := by
  generalize hf : s.call i = f₀ at hm
  have hearly : (j = i → f.early = true → (s.call i).early = true) →
      s.shared.accepted j = false ∧ s.shared.deleted j = false ∧ s.shared.invoked j = 0 := by
    intro he
    refine h.fresh j ?_
    by_cases hji : j = i
    · subst hji
      exact he rfl (by simpa using hj)
    · simpa [hji] using hj
  have hne : f.early = false → j ≠ i := by
    rintro hn rfl
    simp [hn] at hj
  cases hm with
  | alloc => exact hearly fun _ _ => by rw [hf]; rfl
  | goOn he => exact hearly fun _ => by rw [hf]; exact he
  | reject =>
    have hji := hne rfl
    simpa [hji] using hearly fun he => absurd he hji
  | accept =>
    have hji := hne rfl
    simpa [hji] using hearly fun he => absurd he hji
  | store | passLatch | released => exact hearly (by nofun)
  | @discard _ hc k hk g =>
    have hjk := hearly fun _ he => by rcases hc with rfl | rfl <;> cases he
    have hne : j ≠ k := by
      rintro rfl
      simp [(h.ledger.queued j hk).1] at hjk
    simpa [hne] using hjk

/-- A call passes the latch when every coroutine of the pool is at its end. -/
lemma past_callMove (h : Inv s) {i j : ι} {a : Answer ι} {sh : Shared ι} {f : Frame}
    (hm : Frame.Move s.shared i a (s.call i) sh f)
    (hj : (Function.update s.call i f j).past = true) (m : Member n) : s.pc m = .done := by
  by_cases hji : j = i
  · subst hji
    have hj : f.past = true := by simpa using hj
    generalize hf : s.call j = f₀ at hm
    cases hm with
    | alloc | reject | accept | store => cases hj
    | goOn _ hp => exact h.past j (by rw [hf]; exact hp hj) m
    | passLatch hl =>
      rw [h.latch] at hl
      exact Pc.left_eq_zero (eq_zero_of_weight_le Pc.left_nonneg hl m)
    | discard => exact h.past j (by rw [hf]; exact hj) m
    | released => exact h.past j (by rw [hf]; rfl) m
  · exact h.past j (by simpa [hji] using hj) m

/-- A move of a call keeps the invariant. -/
lemma callMove (h : Inv s) {i : ι} {a : Answer ι} {sh : Shared ι} {f : Frame}
    (hm : Frame.Move s.shared i a (s.call i) sh f) :
    Inv { s with shared := sh, call := Function.update s.call i f } where
  runningCoNum := (h.ledger_callMove hm).1.trans h.runningCoNum
  latch := (h.ledger_callMove hm).2.1.trans h.latch
  ledger := (h.ledger_callMove hm).2.2
  fresh _ hj := h.fresh_callMove hm hj
  past _ hj := h.past_callMove hm hj

/-- A call that begins keeps the invariant. -/
lemma begin (h : Inv s) {i : ι} (hi : s.call i = .idle) (c : Call) :
    Inv { s with call := Function.update s.call i c.frame } := by
  have hm : Frame.Move s.shared i {} (s.call i) s.shared c.frame := by
    rw [hi]
    cases c <;> exact .goOn (fun _ => rfl) (by nofun) (by nofun)
  exact h.callMove hm

/-- The step lemma of the pool. -/
lemma next {s' : State n ι} {l : Label n ι} (h : Inv s) (hs : next s l = some s') : Inv s' := by
  cases l with
  | begin i c =>
    simp only [CoPool.next] at hs
    split_ifs at hs with hi
    obtain rfl := Option.some.inj hs
    exact h.begin hi c
  | setExceptionCallback set =>
    obtain rfl := Option.some.inj hs
    exact ⟨h.runningCoNum, h.latch, h.ledger.congr rfl rfl rfl rfl fun _ => rfl, h.fresh, h.past⟩
  | call i a =>
    obtain ⟨r, hr, rfl⟩ := Option.map_eq_some_iff.mp hs
    exact h.callMove (Frame.move_of_step hr)
  | member m a =>
    obtain ⟨r, hr, rfl⟩ := Option.map_eq_some_iff.mp hs
    exact h.move (Pc.move_of_step hr)

end Inv

/-- The invariant holds in every reachable state of a pool. -/
theorem inv_of_reachable {s : State n ι} (h : (system n ι).Reachable s) : Inv s := by
  refine h.induct ?_ fun s l s' hI hs => hI.next hs
  rintro s rfl
  exact Inv.init

end BbtCoroutine.CoPool
