import BbtCoroutine.HookClose.Model
import Mathlib.Data.Fintype.Basic
import Mathlib.Logic.Basic

/-!
# Each generation is closed once

The mark of a close is keyed by the number and outlives the underlying close, so a call for the
next generation of the number may meet the mark of the previous one, and a call that comes late
may claim the next generation, or a number that is free and then handed out again.  In the runs in
which none of this happens, and in which the preparation
succeeds at the second attempt at the latest, each generation is closed once, by a call that was
issued for it, and each other call for it fails with `EBADF`.
-/

namespace BbtCoroutine.HookClose

open Transition

variable {ι Ev : Type*}

/-- Each generation is closed at most once, and only by a call that was issued for it.  A call
issued for a generation performs the close and reports its result, unless another call closes
the same generation: it fails with `EBADF` then.  Each call that runs comes to its end. -/
structure ClosedOnce [DecidableEq ι] (s : State ι Ev) : Prop where
  own : ∀ i g r, (some g, r) ∈ (s.call i).closes → (s.call i).issued = some g
  once : ∀ i j g r r', (some g, r) ∈ (s.call i).closes → (some g, r') ∈ (s.call j).closes → i = j
  result : ∀ i g r, (s.call i).issued = some g → (s.call i).pc = .returned r →
    (s.call i).closes = [(some g, r)] ∨
      (∀ x ∈ (s.call i).closes, x.1 = none) ∧ r = .failed ebadf ∧ s.Rival i g
  finishes : ∀ i, (s.call i).pc.running = true → (∃ s', s.step i {} = some s') ∧
    ∀ a s', s.step i a = some s' → (s'.call i).pc.left < (s.call i).pc.left

/-! ## Runs that keep to the generations -/

/-- `BeginFdClose` in the call `i` finds the number as it should be: a mark that it meets there has
not been left behind, after the underlying close, by a call for another generation than the one
that is open and that `i` was issued for; and a number that it claims is open in no generation but
that one. -/
def State.Finds (s : State ι Ev) (i : ι) : Prop :=
  if (s.slots.slot (s.call i).fd).closing = true then
    (s.call i).issued ≠ none → s.opened (s.call i).fd = (s.call i).issued →
      ∀ j, (s.call j).pc.ending = true → (s.call j).fd = (s.call i).fd →
        (s.call j).issued = (s.call i).issued
  else s.opened (s.call i).fd = none ∨ s.opened (s.call i).fd = (s.call i).issued

/-- The step of the call `i` prepares its claim, and finds the number as it should be. -/
def State.Kept (s : State ι Ev) (i : ι) (a : Answer Ev) : Prop :=
  match (s.call i).pc with
  | .begin retried =>
    match a.prepare with
    | .succeeds => s.Finds i
    | .badAlloc => retried = false
    | .throws => False
  | _ => True

/-- A step of a call is as it should be, and the kernel hands out no number on which an underlying
close is still to come. -/
def Kept (s : State ι Ev) : Label ι Ev → Prop
  | .call i a => s.Kept i a
  | .openFd fd => ∀ i, (s.call i).pc.closer = true → (s.call i).fd ≠ fd
  | _ => True

/-! ## The invariant -/

/-- The underlying closes of a call are those of its point. -/
def Call.Fits (c : Call Ev) : Prop :=
  match c.pc with
  | .idle => c.closes = [] ∧ c.issued = none
  | .begin _ | .trigger _ | .close | .wait _ => c.closes = []
  | .endClose r => ∃ x, c.closes = [(x, r)] ∧ (x = none → r = .failed ebadf)
  | .returned r => c.closes = [] ∧ r = .failed ebadf ∨
      ∃ x, c.closes = [(x, r)] ∧ (x = none → r = .failed ebadf)

/-- The numbers, the generations and the marks are as they should be. -/
structure Inv (s : State ι Ev) : Prop where
  fits : ∀ i, (s.call i).Fits
  marked : ∀ i, (s.call i).pc.claims = true → (s.slots.slot (s.call i).fd).closing = true
  claimed : ∀ fd, (s.slots.slot fd).closing = true →
    ∃ i, (s.call i).fd = fd ∧ (s.call i).pc.claims = true
  sole : ∀ i j, (s.call i).pc.claims = true → (s.call j).pc.claims = true →
    (s.call i).fd = (s.call j).fd → i = j
  opened_lt : ∀ fd g, s.opened fd = some g → g < s.nextGen
  opened_inj : ∀ fd fd' g, s.opened fd = some g → s.opened fd' = some g → fd = fd'
  issued_lt : ∀ i g, (s.call i).issued = some g → g < s.nextGen
  issued_fd : ∀ i fd g, (s.call i).issued = some g → s.opened fd = some g → (s.call i).fd = fd
  own : ∀ i g r, (some g, r) ∈ (s.call i).closes → (s.call i).issued = some g
  gone : ∀ i g r, (some g, r) ∈ (s.call i).closes → ∀ fd, s.opened fd ≠ some g
  once : ∀ i j g r r', (some g, r) ∈ (s.call i).closes → (some g, r') ∈ (s.call j).closes → i = j
  known : ∀ i g, (s.call i).issued = some g → s.opened (s.call i).fd = some g ∨
    ∃ j r, (some g, r) ∈ (s.call j).closes
  rival : ∀ i g, (s.call i).issued = some g → (s.call i).gaveUp = true → s.Rival i g
  target : ∀ i, (s.call i).pc.closer = true →
    s.opened (s.call i).fd = none ∨ s.opened (s.call i).fd = (s.call i).issued

/-! ## The steps of a call -/

/-- What a step of the call `i` does, apart from the underlying close: the table becomes `t`, and
the call goes on at `p`. -/
inductive Jump (s : State ι Ev) (i : ι) (a : Answer Ev) : FdSlots Ev → Pc Ev → Prop
  | retry (h : (s.call i).pc = .begin false) (ha : a.prepare = .badAlloc) :
    Jump s i a s.slots (.begin true)
  | fails {b : Bool} {ret : CloseResult} (h : (s.call i).pc = .begin b)
      (ha : a.prepare = .throws ∨ a.prepare = .badAlloc ∧ b = true) :
    Jump s i a s.slots (.returned ret)
  | refused {b : Bool} {t : FdSlots Ev} (h : (s.call i).pc = .begin b)
      (ha : a.prepare = .succeeds) (hc : (s.slots.slot (s.call i).fd).closing = true)
      (ht : t.slot = s.slots.slot) : Jump s i a t (.wait 0)
  | claim {b : Bool} {t : FdSlots Ev} {ks : List Ev} (h : (s.call i).pc = .begin b)
      (ha : a.prepare = .succeeds) (hc : (s.slots.slot (s.call i).fd).closing = false)
      (ht : t.slot = Function.update s.slots.slot (s.call i).fd
        (s.slots.slot (s.call i).fd).close) : Jump s i a t (.trigger ks)
  | trigger {k : Ev} {ks : List Ev} (h : (s.call i).pc = .trigger (k :: ks)) :
    Jump s i a s.slots (.trigger ks)
  | triggered (h : (s.call i).pc = .trigger []) : Jump s i a s.slots .close
  | ended {ret : CloseResult} (h : (s.call i).pc = .endClose ret) :
    Jump s i a (s.slots.endFdClose (s.call i).fd) (.returned ret)
  | waits {k : ℕ} (h : (s.call i).pc = .wait k) (hk : k < closeReadyMs) :
    Jump s i a s.slots (.wait (k + 1))
  | waited {k : ℕ} (h : (s.call i).pc = .wait k) :
    Jump s i a s.slots (.returned (.failed ebadf))

section

variable {s s' : State ι Ev} {i : ι} {a : Answer Ev} {t : FdSlots Ev} {p : Pc Ev}

/-- A jump leads down. -/
lemma Jump.left_lt (h : Jump s i a t p) : p.left < (s.call i).pc.left := by
  cases h with
  | retry h | trigger h =>
    rw [h]
    exact Prod.Lex.toLex_lt_toLex.mpr (.inr ⟨rfl, by simp⟩)
  | waits h hk =>
    rw [h]
    exact Prod.Lex.toLex_lt_toLex.mpr (.inr ⟨rfl, by omega⟩)
  | fails h | refused h | claim h | triggered h | ended h | waited h =>
    rw [h]
    exact Prod.Lex.toLex_lt_toLex.mpr (.inl (by simp))

/-- A jump leaves the marks alone, makes a claim or ends one. -/
lemma Jump.mark (h : Jump s i a t p) :
    t.slot = s.slots.slot ∧ p.claims = (s.call i).pc.claims ∨
      (s.slots.slot (s.call i).fd).closing = false ∧ p.claims = true ∧
        t.slot = Function.update s.slots.slot (s.call i).fd (s.slots.slot (s.call i).fd).close ∨
      (s.call i).pc.claims = true ∧ p.claims = false ∧
        t.slot = Function.update s.slots.slot (s.call i).fd
          { s.slots.slot (s.call i).fd with closing := false } := by
  cases h with
  | retry h | fails h | trigger h | triggered h | waits h | waited h =>
    rw [h]
    exact .inl ⟨rfl, rfl⟩
  | refused h ha hc ht =>
    rw [h]
    exact .inl ⟨ht, rfl⟩
  | claim h ha hc ht => exact .inr (.inl ⟨hc, rfl, ht⟩)
  | ended h =>
    rw [h]
    exact .inr (.inr ⟨rfl, rfl, FdSlots.slot_endFdClose _ _⟩)

/-- A jump does not take back that the underlying close is to come. -/
lemma Jump.closer (h : Jump s i a t p) (hc : (s.call i).pc.closer = true) : p.closer = true := by
  cases h with
  | trigger | triggered => rfl
  | retry h | fails h | refused h | claim h | ended h | waits h | waited h =>
    rw [h] at hc
    cases hc

/-- Where the underlying close is to come after a jump, it was to come before, or the number is
claimed for the generation that is open. -/
lemma Jump.target (h : Jump s i a t p) (hk : s.Kept i a) (hp : p.closer = true) :
    (s.call i).pc.closer = true ∨
      s.opened (s.call i).fd = none ∨ s.opened (s.call i).fd = (s.call i).issued := by
  cases h with
  | claim h ha hc =>
    unfold State.Kept at hk
    rw [h, ha] at hk
    have hfinds : s.Finds i := hk
    rw [State.Finds, if_neg (by simp [hc])] at hfinds
    exact .inr hfinds
  | trigger h | triggered h =>
    rw [h]
    exact .inl rfl
  | retry | fails | refused | ended | waits | waited => cases hp

/-- A call that jumps fits its new point. -/
lemma Jump.fits (h : Jump s i a t p) (hk : s.Kept i a) (hf : (s.call i).Fits) :
    { s.call i with pc := p }.Fits := by
  unfold Call.Fits at hf ⊢
  cases h with
  | retry h | refused h | claim h | trigger h | triggered h | waits h =>
    rw [h] at hf
    exact hf
  | fails h ha =>
    unfold State.Kept at hk
    rw [h] at hk
    rcases ha with ha | ⟨ha, rfl⟩ <;> rw [ha] at hk <;> cases hk
  | ended h =>
    rw [h] at hf
    exact .inr hf
  | waited h =>
    rw [h] at hf
    exact .inl ⟨hf, rfl⟩

/-- A call gives up when it is refused. -/
lemma Jump.gaveUp (h : Jump s i a t p) (hk : s.Kept i a)
    (hg : { s.call i with pc := p }.gaveUp = true) : (s.call i).gaveUp = true ∨
      (s.slots.slot (s.call i).fd).closing = true ∧ a.prepare = .succeeds ∧
        ∃ b, (s.call i).pc = .begin b := by
  unfold Call.gaveUp at hg ⊢
  cases h with
  | retry | claim | trigger | triggered => cases hg
  | fails h ha =>
    unfold State.Kept at hk
    rw [h] at hk
    rcases ha with ha | ⟨ha, rfl⟩ <;> rw [ha] at hk <;> cases hk
  | refused h ha hc => exact .inr ⟨hc, ha, _, h⟩
  | ended h | waits h =>
    rw [h]
    exact .inl hg
  | waited h =>
    rw [h]
    exact .inl rfl

variable [DecidableEq ι]

/-- A step of `BeginFdClose`. -/
lemma jump_of_begin {b : Bool} (h : (s.call i).pc = .begin b)
    (hs : s.beginFdClose i a b = some s') :
    ∃ t p, Jump s i a t p ∧ s' = { s with slots := t }.setPc i p := by
  unfold State.beginFdClose at hs
  cases ha : a.prepare with
  | throws =>
    rw [ha] at hs
    cases hs
    exact ⟨_, _, .fails h (.inl ha), rfl⟩
  | badAlloc =>
    rw [ha] at hs
    dsimp only at hs
    split at hs
    · cases b with
      | false =>
        cases hs
        exact ⟨_, _, .retry h ha, rfl⟩
      | true =>
        cases hs
        exact ⟨_, _, .fails h (.inr ⟨ha, rfl⟩), rfl⟩
    · cases hs
  | succeeds =>
    rw [ha] at hs
    dsimp only at hs
    split at hs
    · rename_i u hu
      cases hs
      obtain ⟨hc, ht⟩ := FdSlots.beginFdClose_none hu
      exact ⟨u, _, .refused h ha hc ht, rfl⟩
    · rename_i u ks hu
      cases hs
      obtain ⟨hc, -, ht⟩ := FdSlots.beginFdClose_some hu
      exact ⟨u, _, .claim h ha hc ht, rfl⟩

/-- A step of a call is a jump or the underlying close. -/
lemma step_cases (hs : s.step i a = some s') :
    (∃ t p, Jump s i a t p ∧ s' = { s with slots := t }.setPc i p) ∨
      (s.call i).pc = .close ∧ s' = s.close i a := by
  unfold State.step at hs
  split at hs
  · cases hs
  · cases hs
  · rename_i b h
    exact .inl (jump_of_begin h hs)
  · rename_i k ks h
    cases hs
    exact .inl ⟨_, _, .trigger h, rfl⟩
  · rename_i h
    cases hs
    exact .inl ⟨_, _, .triggered h, rfl⟩
  · rename_i h
    cases hs
    exact .inr ⟨h, rfl⟩
  · rename_i ret h
    cases hs
    exact .inl ⟨_, _, .ended h, rfl⟩
  · rename_i k h
    split at hs
    · rename_i hk
      cases hs
      exact .inl ⟨_, _, .waits h hk.2, rfl⟩
    · cases hs
      exact .inl ⟨_, _, .waited h, rfl⟩

/-- Every step of a call leads down. -/
lemma left_lt_of_step (hs : s.step i a = some s') :
    (s'.call i).pc.left < (s.call i).pc.left := by
  rcases step_cases hs with ⟨t, p, hj, rfl⟩ | ⟨hpc, rfl⟩
  · simpa [State.setPc, State.setCall] using hj.left_lt
  · rw [hpc]
    unfold State.close
    dsimp only
    split <;> simp [State.setCall, Pc.left, Prod.Lex.toLex_lt_toLex]

/-- A call that runs can make a step. -/
lemma exists_step (h : (s.call i).pc.running = true) : ∃ s', s.step i {} = some s' := by
  unfold State.step
  cases hpc : (s.call i).pc with
  | idle | returned =>
    rw [hpc] at h
    cases h
  | begin b =>
    dsimp only [State.beginFdClose]
    split <;> exact ⟨_, rfl⟩
  | trigger ks => cases ks <;> exact ⟨_, rfl⟩
  | close | endClose => exact ⟨_, rfl⟩
  | wait k =>
    dsimp only
    split <;> exact ⟨_, rfl⟩

end

/-! ## The steps keep the invariant -/

section

variable [DecidableEq ι] {s : State ι Ev} {i j : ι} {a : Answer Ev} {t : FdSlots Ev} {p : Pc Ev}
  {g : ℕ}

@[simp]
lemma setPc_fd : ((s.setPc i p).call j).fd = (s.call j).fd := by
  by_cases h : j = i
  · subst h
    simp [State.setPc, State.setCall]
  · simp [State.setPc, State.setCall, h]

@[simp]
lemma setPc_issued : ((s.setPc i p).call j).issued = (s.call j).issued := by
  by_cases h : j = i
  · subst h
    simp [State.setPc, State.setCall]
  · simp [State.setPc, State.setCall, h]

@[simp]
lemma setPc_closes : ((s.setPc i p).call j).closes = (s.call j).closes := by
  by_cases h : j = i
  · subst h
    simp [State.setPc, State.setCall]
  · simp [State.setPc, State.setCall, h]

@[simp]
lemma setPc_opened : (s.setPc i p).opened = s.opened :=
  rfl

@[simp]
lemma setPc_slots : (s.setPc i p).slots = s.slots :=
  rfl

/-- The claims of the calls after one of them has moved. -/
lemma claims_setPc :
    ((s.setPc i p).call j).pc.claims = if j = i then p.claims else (s.call j).pc.claims := by
  by_cases h : j = i
  · subst h
    simp [State.setPc, State.setCall]
  · simp [State.setPc, State.setCall, h]

@[simp]
lemma setPc_self : (s.setPc i p).call i = { s.call i with pc := p } := by
  simp [State.setPc, State.setCall]

/-- The other calls stay where they are. -/
lemma setPc_of_ne (h : j ≠ i) : (s.setPc i p).call j = s.call j := by
  simp [State.setPc, State.setCall, h]

/-- A rival remains one. -/
lemma Jump.rival (h : Jump s i a t p) (hr : s.Rival j g) :
    ({ s with slots := t }.setPc i p).Rival j g := by
  obtain ⟨k, hk, hi, hc⟩ := hr
  refine ⟨k, hk, by simpa using hi, ?_⟩
  rcases hc with ⟨r, hr⟩ | ⟨hc, ho⟩
  · exact .inl ⟨r, by simpa using hr⟩
  · refine .inr ⟨?_, by simpa using ho⟩
    by_cases hki : k = i
    · subst hki
      simpa using h.closer hc
    · rw [setPc_of_ne hki]
      exact hc

omit [DecidableEq ι] in
/-- The generation of a refused call is closed by another one. -/
lemma Inv.rival_of_refused (hI : Inv s) (hk : s.Kept i a) {b : Bool}
    (hb : (s.call i).pc = .begin b) (ha : a.prepare = .succeeds)
    (hc : (s.slots.slot (s.call i).fd).closing = true) (hg : (s.call i).issued = some g) :
    s.Rival i g := by
  have hnone : (s.call i).closes = [] := by
    have := hI.fits i
    unfold Call.Fits at this
    rwa [hb] at this
  rcases hI.known i g hg with ho | ⟨j, r, hj⟩
  · obtain ⟨j, hfd, hj⟩ := hI.claimed _ hc
    have hissued : (s.call j).issued = some g := by
      rcases Pc.closer_or_ending hj with hcj | hej
      · have htarget := hI.target j hcj
        rw [hfd, ho] at htarget
        rcases htarget with h | h
        · cases h
        · exact h.symm
      · unfold State.Kept at hk
        rw [hb, ha] at hk
        have hfinds : s.Finds i := hk
        rw [State.Finds, if_pos hc] at hfinds
        rw [← hg]
        exact hfinds (by simp [hg]) (by rw [ho, hg]) j hej hfd
    have hji : j ≠ i := by
      rintro rfl
      rw [hb] at hj
      cases hj
    have hopen : s.opened (s.call j).fd = some g := by
      rw [hfd]
      exact ho
    cases hpc : (s.call j).pc with
    | trigger | close => exact ⟨j, hji, hissued, .inr ⟨by rw [hpc]; rfl, hopen⟩⟩
    | endClose ret =>
      have hf := hI.fits j
      unfold Call.Fits at hf
      rw [hpc] at hf
      obtain ⟨x, hx, -⟩ := hf
      cases x with
      | some g' =>
        have hmem : (some g', ret) ∈ (s.call j).closes := by
          rw [hx]
          exact List.mem_singleton_self _
        have hown := hI.own j g' ret hmem
        rw [hissued] at hown
        cases hown
        exact absurd hopen (hI.gone j g ret hmem _)
      | none =>
        have hgave : (s.call j).gaveUp = true := by
          unfold Call.gaveUp
          rw [hpc, hx]
          rfl
        obtain ⟨k, hkj, hik, ⟨r, hr⟩ | ⟨hck, hok⟩⟩ := hI.rival j g hissued hgave
        · exact absurd hopen (hI.gone k g r hr _)
        · have hfdk := hI.opened_inj _ _ _ hok hopen
          exact absurd (hI.sole k j (Pc.claims_of_closer hck) hj hfdk) hkj
    | idle | begin | wait | returned =>
      rw [hpc] at hj
      cases hj
  · refine ⟨j, ?_, hI.own j g r hj, .inl ⟨r, hj⟩⟩
    rintro rfl
    rw [hnone] at hj
    cases hj

/-- A jump keeps the invariant. -/
lemma Inv.jump (hI : Inv s) (hk : s.Kept i a) (h : Jump s i a t p) :
    Inv ({ s with slots := t }.setPc i p) where
  fits j := by
    by_cases hj : j = i
    · subst hj
      rw [setPc_self]
      exact h.fits hk (hI.fits j)
    · rw [setPc_of_ne hj]
      exact hI.fits j
  marked j hj := by
    rw [claims_setPc] at hj
    rw [setPc_fd, setPc_slots]
    rcases h.mark with ⟨ht, hp⟩ | ⟨hc, hp, ht⟩ | ⟨hi, hp, ht⟩
    · rw [ht]
      exact hI.marked j (by grind)
    · by_cases hfd : (s.call j).fd = (s.call i).fd
      · rw [ht, hfd, Function.update_self]
        rfl
      · rw [ht, Function.update_of_ne hfd]
        exact hI.marked j (by grind)
    · have hji : j ≠ i := by grind
      have hcj : (s.call j).pc.claims = true := by grind
      rw [ht, Function.update_of_ne fun hfd => hji (hI.sole j i hcj hi hfd)]
      exact hI.marked j hcj
  claimed fd hfd := by
    simp only [claims_setPc, setPc_fd]
    rw [setPc_slots] at hfd
    rcases h.mark with ⟨ht, hp⟩ | ⟨hc, hp, ht⟩ | ⟨hi, hp, ht⟩
    · rw [ht] at hfd
      obtain ⟨j, hj, hc⟩ := hI.claimed fd hfd
      exact ⟨j, hj, by grind⟩
    · by_cases hi : fd = (s.call i).fd
      · exact ⟨i, hi.symm, by simp [hp]⟩
      · rw [ht, Function.update_of_ne hi] at hfd
        obtain ⟨j, hj, hc⟩ := hI.claimed fd hfd
        exact ⟨j, hj, by grind⟩
    · have hne : fd ≠ (s.call i).fd := by
        rintro rfl
        rw [ht, Function.update_self] at hfd
        cases hfd
      rw [ht, Function.update_of_ne hne] at hfd
      obtain ⟨j, hj, hc⟩ := hI.claimed fd hfd
      exact ⟨j, hj, by grind⟩
  sole j k hj hk hfd := by
    rw [claims_setPc] at hj hk
    rw [setPc_fd, setPc_fd] at hfd
    rcases h.mark with ⟨ht, hp⟩ | ⟨hc, hp, ht⟩ | ⟨hi, hp, ht⟩
    · exact hI.sole j k (by grind) (by grind) hfd
    · by_contra hjk
      have := hI.marked j
      have := hI.marked k
      have := hI.sole j k
      grind
    · exact hI.sole j k (by grind) (by grind) hfd
  opened_lt := hI.opened_lt
  opened_inj := hI.opened_inj
  issued_lt j g hg := hI.issued_lt j g (by simpa using hg)
  issued_fd j fd g hg ho := by simpa using hI.issued_fd j fd g (by simpa using hg) ho
  own j g r hr := by simpa using hI.own j g r (by simpa using hr)
  gone j g r hr := hI.gone j g r (by simpa using hr)
  once j k g r r' hr hr' := hI.once j k g r r' (by simpa using hr) (by simpa using hr')
  known j g hg := by simpa using hI.known j g (by simpa using hg)
  rival j g hg hgave := by
    have hg' : (s.call j).issued = some g := by simpa using hg
    refine h.rival ?_
    by_cases hj : j = i
    · subst hj
      rw [setPc_self] at hgave
      rcases h.gaveUp hk hgave with hold | ⟨hc, ha, b, hb⟩
      · exact hI.rival j g hg' hold
      · exact hI.rival_of_refused hk hb ha hc hg'
    · rw [setPc_of_ne hj] at hgave
      exact hI.rival j g hg' hgave
  target j hc := by
    simp only [setPc_fd, setPc_opened, setPc_issued]
    by_cases hj : j = i
    · subst hj
      rw [setPc_self] at hc
      rcases h.target hk hc with hold | hnew
      · exact hI.target j hold
      · exact hnew
    · rw [setPc_of_ne hj] at hc
      exact hI.target j hc

/-! ### The underlying close -/

@[simp]
lemma setCall_self {c : Call Ev} : (s.setCall i c).call i = c := by
  simp [State.setCall]

/-- The other calls stay what they are. -/
lemma setCall_of_ne {c : Call Ev} (h : j ≠ i) : (s.setCall i c).call j = s.call j := by
  simp [State.setCall, h]

/-- The call after an underlying close of what is open as `x`. -/
def Call.closed (c : Call Ev) (x : Option ℕ) (r : CloseResult) : Call Ev :=
  { c with
    pc := .endClose r
    closes := [(x, r)] }

/-- The state after the underlying close of the call `i`. -/
def State.closed (s : State ι Ev) (i : ι) (r : CloseResult) : State ι Ev :=
  { s with opened := Function.update s.opened (s.call i).fd none }.setCall i
    ((s.call i).closed (s.opened (s.call i).fd) r)

/-- A call that has nothing to close is done. -/
lemma close_eq (h : (s.call i).closes = []) : ∃ r, s.close i a = s.closed i r ∧
    (s.opened (s.call i).fd = none → r = .failed ebadf) := by
  unfold State.close State.closed Call.closed
  dsimp only
  cases ho : s.opened (s.call i).fd with
  | none =>
    refine ⟨_, ?_, fun _ => rfl⟩
    rw [Function.update_eq_self_iff.mpr ho.symm, h]
    rfl
  | some g =>
    rw [h]
    exact ⟨a.result, rfl, by rintro ⟨⟩⟩

/-- The calls after a close. -/
lemma closed_call {r : CloseResult} :
    (s.closed i r).call j =
      if j = i then (s.call i).closed (s.opened (s.call i).fd) r else s.call j := by
  unfold State.closed
  by_cases hj : j = i
  · subst hj
    simp
  · rw [setCall_of_ne hj, if_neg hj]

/-- The underlying close keeps the invariant: the call was issued for what it closes. -/
lemma Inv.closed (hI : Inv s) {r : CloseResult} (hpc : (s.call i).pc = .close)
    (hr : s.opened (s.call i).fd = none → r = .failed ebadf) : Inv (s.closed i r) := by
  have hk := hI.target i (by rw [hpc]; rfl)
  have hempty : (s.call i).closes = [] := by
    have := hI.fits i
    unfold Call.Fits at this
    rwa [hpc] at this
  have hclaim : (s.call i).pc.claims = true := by
    rw [hpc]
    rfl
  have hclaims : ∀ j, ((s.closed i r).call j).pc.claims = (s.call j).pc.claims := fun j => by
    rw [closed_call]
    split
    · subst_vars
      rw [hclaim]
      rfl
    · rfl
  have hfd : ∀ j, ((s.closed i r).call j).fd = (s.call j).fd := fun j => by
    rw [closed_call]
    split
    · subst_vars
      rfl
    · rfl
  have hissued : ∀ j, ((s.closed i r).call j).issued = (s.call j).issued := fun j => by
    rw [closed_call]
    split
    · subst_vars
      rfl
    · rfl
  have hcloses : ∀ j g r', (some g, r') ∈ ((s.closed i r).call j).closes ↔
      j = i ∧ s.opened (s.call i).fd = some g ∧ r' = r ∨ (some g, r') ∈ (s.call j).closes :=
    fun j g r' => by
    rw [closed_call]
    split
    · subst_vars
      simp [Call.closed, hempty, eq_comm]
    · simp [*]
  have hopened : ∀ fd g, (s.closed i r).opened fd = some g ↔
      fd ≠ (s.call i).fd ∧ s.opened fd = some g := fun fd g => by
    change Function.update s.opened (s.call i).fd none fd = some g ↔ _
    by_cases h : fd = (s.call i).fd
    · subst h
      simp
    · simp [h]
  refine
    { fits := fun j => ?_
      marked := fun j hj => ?_
      claimed := fun fd h => ?_
      sole := fun j k hj hk h => ?_
      opened_lt := fun fd g h => hI.opened_lt fd g ((hopened fd g).mp h).2
      opened_inj := fun fd fd' g h h' =>
        hI.opened_inj fd fd' g ((hopened fd g).mp h).2 ((hopened fd' g).mp h').2
      issued_lt := fun j g h => hI.issued_lt j g (by rwa [hissued] at h)
      issued_fd := fun j fd g h h' => ?_
      own := fun j g r' h => ?_
      gone := fun j g r' h fd h' => ?_
      once := fun j k g r' r'' h h' => ?_
      known := fun j g h => ?_
      rival := fun j g h h' => ?_
      target := fun j hc => ?_ }
  · rw [closed_call]
    split
    · exact ⟨_, rfl, hr⟩
    · exact hI.fits j
  · rw [hclaims] at hj
    rw [hfd]
    exact hI.marked j hj
  · obtain ⟨j, hj, hc⟩ := hI.claimed fd h
    exact ⟨j, by rw [hfd, hj], by rw [hclaims, hc]⟩
  · rw [hclaims] at hj hk
    rw [hfd, hfd] at h
    exact hI.sole j k hj hk h
  · rw [hissued] at h
    rw [hfd]
    exact hI.issued_fd j fd g h ((hopened fd g).mp h').2
  · rw [hissued]
    rcases (hcloses j g r').mp h with ⟨rfl, ho, -⟩ | h
    · rcases hk with hk | hk
      · rw [ho] at hk
        cases hk
      · rw [← hk, ho]
    · exact hI.own j g r' h
  · obtain ⟨hne, ho'⟩ := (hopened fd g).mp h'
    rcases (hcloses j g r').mp h with ⟨rfl, ho, -⟩ | h
    · exact hne (hI.opened_inj _ _ _ ho' ho)
    · exact hI.gone j g r' h fd ho'
  · rcases (hcloses j g r').mp h with ⟨hj, ho, -⟩ | hold <;>
      rcases (hcloses k g r'').mp h' with ⟨hk, ho', -⟩ | hold'
    · rw [hj, hk]
    · exact absurd ho (hI.gone k g r'' hold' _)
    · exact absurd ho' (hI.gone j g r' hold _)
    · exact hI.once j k g r' r'' hold hold'
  · rw [hissued] at h
    rw [hfd]
    rcases hI.known j g h with ho | ⟨k, r', hr'⟩
    · by_cases hj : (s.call j).fd = (s.call i).fd
      · rw [hj] at ho
        exact .inr ⟨i, r, (hcloses i g r).mpr (.inl ⟨rfl, ho, rfl⟩)⟩
      · exact .inl ((hopened _ g).mpr ⟨hj, ho⟩)
    · exact .inr ⟨k, r', (hcloses k g r').mpr (.inr hr')⟩
  · rw [hissued] at h
    rw [closed_call] at h'
    split at h'
    · rename_i hj
      subst hj
      have hx : s.opened (s.call j).fd = none := by simpa [Call.gaveUp, Call.closed] using h'
      rcases hI.known j g h with ho | ⟨k, r', hr'⟩
      · rw [hx] at ho
        cases ho
      · refine ⟨k, ?_, ?_, .inl ⟨r', (hcloses k g r').mpr (.inr hr')⟩⟩
        · rintro rfl
          rw [hempty] at hr'
          cases hr'
        · rw [hissued]
          exact hI.own k g r' hr'
    · obtain ⟨k, hkj, hik, ⟨r', hr'⟩ | ⟨hck, hok⟩⟩ := hI.rival j g h h'
      · exact ⟨k, hkj, by rw [hissued, hik], .inl ⟨r', (hcloses k g r').mpr (.inr hr')⟩⟩
      · refine ⟨k, hkj, by rw [hissued, hik], ?_⟩
        by_cases hki : k = i
        · subst hki
          exact .inl ⟨r, (hcloses k g r).mpr (.inl ⟨rfl, hok, rfl⟩)⟩
        · refine .inr ⟨by rw [closed_call, if_neg hki, hck], ?_⟩
          rw [hfd]
          refine (hopened _ g).mpr ⟨fun hfdk => hki ?_, hok⟩
          exact hI.sole k i (Pc.claims_of_closer hck) hclaim hfdk
  · have hj : j ≠ i := by
      rintro rfl
      rw [closed_call, if_pos rfl] at hc
      cases hc
    rw [closed_call, if_neg hj] at hc
    have hne : (s.call j).fd ≠ (s.call i).fd := fun hfd =>
      hj (hI.sole j i (Pc.claims_of_closer hc) hclaim hfd)
    have ho : (s.closed i r).opened (s.call j).fd = s.opened (s.call j).fd :=
      Function.update_of_ne hne ..
    rw [hfd, hissued, ho]
    exact hI.target j hc

/-! ### The kernel, new calls and waits -/

omit [DecidableEq ι] in
/-- A step of a wait does not touch the marks. -/
lemma Inv.setSlots (hI : Inv s)
    (ht : ∀ fd, (t.slot fd).closing = (s.slots.slot fd).closing) : Inv { s with slots := t } :=
  { hI with
    marked := fun j hj => (ht _).trans (hI.marked j hj)
    claimed := fun fd hfd => hI.claimed fd ((ht fd).symm.trans hfd) }

omit [DecidableEq ι] in
/-- A number that the kernel hands out is a new generation. -/
lemma Inv.openFd (hI : Inv s) {fd : ℤ} (ho : s.opened fd = none)
    (hk : ∀ i, (s.call i).pc.closer = true → (s.call i).fd ≠ fd) :
    Inv { s with
      opened := Function.update s.opened fd (some s.nextGen)
      nextGen := s.nextGen + 1 } := by
  have hopened : ∀ fd' g, Function.update s.opened fd (some s.nextGen) fd' = some g ↔
      fd' = fd ∧ g = s.nextGen ∨ s.opened fd' = some g := fun fd' g => by
    by_cases h : fd' = fd
    · subst h
      simp [ho, eq_comm]
    · simp [h]
  have hlt := hI.opened_lt
  have hissued := hI.issued_lt
  have hown := hI.own
  have hgone := hI.gone
  exact
    { hI with
      opened_lt := fun fd' g h => by
        have := (hopened fd' g).mp h
        grind
      opened_inj := fun fd' fd'' g h h' => by
        have := (hopened fd' g).mp h
        have := (hopened fd'' g).mp h'
        have := hI.opened_inj fd' fd'' g
        grind
      issued_lt := fun j g h => (hissued j g h).trans (Nat.lt_succ_self _)
      issued_fd := fun j fd' g h h' => by
        have := (hopened fd' g).mp h'
        have := hI.issued_fd j fd' g h
        grind
      gone := fun j g r h fd' h' => by
        have := (hopened fd' g).mp h'
        have := hissued j g (hown j g r h)
        have := hgone j g r h fd'
        grind
      known := fun j g h => (hI.known j g h).imp_left fun h' => (hopened _ g).mpr (.inr h')
      rival := fun j g h h' => by
        obtain ⟨k, hkj, hik, hk⟩ := hI.rival j g h h'
        exact ⟨k, hkj, hik, hk.imp_right fun hk => ⟨hk.1, (hopened _ g).mpr (.inr hk.2)⟩⟩
      target := fun j hc => by
        dsimp only at hc ⊢
        rw [Function.update_of_ne (hk j hc)]
        exact hI.target j hc }

/-- A call of `Hook_Close` for the number `fd`. -/
def State.issue (s : State ι Ev) (i : ι) (fd : ℤ) : State ι Ev :=
  s.setCall i { fd, pc := .begin false, issued := s.opened fd }

/-- A new call is issued for the generation that is open. -/
lemma Inv.issue (hI : Inv s) (hpc : (s.call i).pc = .idle) (fd : ℤ) : Inv (s.issue i fd) := by
  obtain ⟨hempty, hnone⟩ : (s.call i).closes = [] ∧ (s.call i).issued = none := by
    have := hI.fits i
    unfold Call.Fits at this
    rwa [hpc] at this
  have hself : (s.issue i fd).call i = { fd, pc := .begin false, issued := s.opened fd } :=
    setCall_self
  have hother : ∀ {j}, j ≠ i → (s.issue i fd).call j = s.call j := setCall_of_ne
  have hclaims : ∀ j, ((s.issue i fd).call j).pc.claims = true ↔
      (s.call j).pc.claims = true := fun j => by
    by_cases hj : j = i
    · subst hj
      rw [hself, hpc]
      simp [Pc.claims]
    · rw [hother hj]
  have hne : ∀ {j}, (s.call j).pc.claims = true → j ≠ i := by
    rintro j hj rfl
    rw [hpc] at hj
    cases hj
  have hcloses : ∀ j, ((s.issue i fd).call j).closes = (s.call j).closes := fun j => by
    by_cases hj : j = i
    · subst hj
      rw [hself, hempty]
    · rw [hother hj]
  have hissued : ∀ j g, ((s.issue i fd).call j).issued = some g →
      j = i ∧ s.opened fd = some g ∨ j ≠ i ∧ (s.call j).issued = some g := fun j g h => by
    by_cases hj : j = i
    · subst hj
      rw [hself] at h
      exact .inl ⟨rfl, h⟩
    · rw [hother hj] at h
      exact .inr ⟨hj, h⟩
  have hkeeps : ∀ {j g}, (s.call j).issued = some g → j ≠ i := by
    rintro j g h rfl
    rw [hnone] at h
    cases h
  refine
    { fits := fun j => ?_
      marked := fun j hj => ?_
      claimed := fun fd' h => ?_
      sole := fun j k hj hk h => ?_
      opened_lt := hI.opened_lt
      opened_inj := hI.opened_inj
      issued_lt := fun j g h => ?_
      issued_fd := fun j fd' g h h' => ?_
      own := fun j g r h => ?_
      gone := fun j g r h => hI.gone j g r (by rwa [hcloses] at h)
      once := fun j k g r r' h h' =>
        hI.once j k g r r' (by rwa [hcloses] at h) (by rwa [hcloses] at h')
      known := fun j g h => ?_
      rival := fun j g h h' => ?_
      target := fun j hc => ?_ }
  · by_cases hj : j = i
    · subst hj
      rw [hself]
      rfl
    · rw [hother hj]
      exact hI.fits j
  · rw [hclaims] at hj
    rw [hother (hne hj)]
    exact hI.marked j hj
  · obtain ⟨j, hj, hc⟩ := hI.claimed fd' h
    exact ⟨j, by rw [hother (hne hc), hj], (hclaims j).mpr hc⟩
  · rw [hclaims] at hj hk
    rw [hother (hne hj), hother (hne hk)] at h
    exact hI.sole j k hj hk h
  · rcases hissued j g h with ⟨-, h⟩ | ⟨-, h⟩
    · exact hI.opened_lt fd g h
    · exact hI.issued_lt j g h
  · rcases hissued j g h with ⟨rfl, hg⟩ | ⟨hj, hg⟩
    · rw [hself]
      exact hI.opened_inj fd fd' g hg h'
    · rw [hother hj]
      exact hI.issued_fd j fd' g hg h'
  · rw [hcloses] at h
    have := hI.own j g r h
    rw [hother (hkeeps this), this]
  · simp only [hcloses]
    rcases hissued j g h with ⟨rfl, hg⟩ | ⟨hj, hg⟩
    · rw [hself]
      exact .inl hg
    · rw [hother hj]
      exact hI.known j g hg
  · rcases hissued j g h with ⟨rfl, -⟩ | ⟨hj, h⟩
    · rw [hself] at h'
      cases h'
    · rw [hother hj] at h'
      obtain ⟨k, hkj, hik, hk⟩ := hI.rival j g h h'
      refine ⟨k, hkj, ?_⟩
      rw [hother (hkeeps hik)]
      exact ⟨hik, hk⟩
  · have hj : j ≠ i := by
      rintro rfl
      rw [hself] at hc
      cases hc
    rw [hother hj] at hc ⊢
    exact hI.target j hc

variable [DecidableEq Ev] {s' : State ι Ev} {l : Label ι Ev}

/-- Every step that is kept keeps the invariant. -/
lemma Inv.next (hI : Inv s) (hk : Kept s l) (hs : next s l = some s') : Inv s' := by
  cases l with
  | openFd fd =>
    rw [HookClose.next] at hs
    split at hs
    · rename_i ho
      cases hs
      exact hI.openFd ho hk
    · cases hs
  | hookClose i fd =>
    rw [HookClose.next] at hs
    split at hs
    · rename_i hpc
      cases hs
      exact hI.issue hpc fd
    · cases hs
  | call i a =>
    rcases step_cases hs with ⟨t, p, hj, rfl⟩ | ⟨hpc, rfl⟩
    · exact hI.jump hk hj
    · have hempty := hI.fits i
      unfold Call.Fits at hempty
      rw [hpc] at hempty
      obtain ⟨r, hr, hbad⟩ := close_eq (a := a) hempty
      rw [hr]
      exact hI.closed hpc hbad
  | sample fd =>
    cases hs
    exact hI.setSlots fun fd' => by rw [FdSlots.slot_sample]
  | track expired k fd waitEpoch =>
    cases hs
    exact hI.setSlots fun fd' => (FdSlots.trackWaiter_slot _ _ _ _ _ fd').1
  | untrack expired k fd =>
    cases hs
    exact hI.setSlots fun fd' => (FdSlots.untrackWaiter_slot _ _ _ _ fd').1

end

/-! ## Main result -/

variable [DecidableEq ι] [DecidableEq Ev] {s : State ι Ev}

/-- The invariant holds in every state of a run of kept steps. -/
lemma inv_of_kept (h : (system ι Ev).ReachableWhen Kept s) : Inv s := by
  refine h.induct ?_ fun s l s' hI hk hs => hI.next hk hs
  rintro s rfl
  exact
    { fits := fun i => ⟨rfl, rfl⟩
      marked := by rintro i ⟨⟩
      claimed := by rintro fd ⟨⟩
      sole := by rintro i j ⟨⟩
      opened_lt := by rintro fd g ⟨⟩
      opened_inj := by rintro fd fd' g ⟨⟩
      issued_lt := by rintro i g ⟨⟩
      issued_fd := by rintro i fd g ⟨⟩
      own := by rintro i g r ⟨⟩
      gone := by rintro i g r ⟨⟩
      once := by rintro i j g r r' ⟨⟩
      known := by rintro i g ⟨⟩
      rival := by rintro i g ⟨⟩
      target := by rintro i ⟨⟩ }

/-- As long as no call meets a mark on its own generation that a call for another one has left, no
call claims a number that is open in another generation, and no number is handed out on which an
underlying close is still to come, each generation is closed once. -/
theorem closedOnce_of_kept (h : (system ι Ev).ReachableWhen Kept s) : ClosedOnce s := by
  have hI := inv_of_kept h
  refine ⟨hI.own, hI.once, fun i g r hg hr => ?_, fun i hi => ⟨exists_step hi, fun a s' =>
    left_lt_of_step⟩⟩
  have hf := hI.fits i
  unfold Call.Fits at hf
  rw [hr] at hf
  have hgave : (∀ x ∈ (s.call i).closes, x.1 = none) → s.Rival i g := fun hall => by
    refine hI.rival i g hg ?_
    unfold Call.gaveUp
    rw [hr]
    simpa using hall
  rcases hf with ⟨hnil, hbad⟩ | ⟨x, hx, hbad⟩
  · have hall : ∀ x ∈ (s.call i).closes, x.1 = none := by simp [hnil]
    exact .inr ⟨hall, hbad, hgave hall⟩
  · cases x with
    | none =>
      have hall : ∀ x ∈ (s.call i).closes, x.1 = none := by simp [hx]
      exact .inr ⟨hall, hbad rfl, hgave hall⟩
    | some g' =>
      have hown := hI.own i g' r (by simp [hx])
      rw [hg] at hown
      cases hown
      exact .inl hx

/-- Whether the calls are as a close has to find them can be computed. -/
instance decidableFinds [Fintype ι] (s : State ι Ev) (i : ι) : Decidable (s.Finds i) := by
  unfold State.Finds
  infer_instance

/-- Whether a step of a call is kept can be computed. -/
instance decidableKeptCall [Fintype ι] (s : State ι Ev) (i : ι) (a : Answer Ev) :
    Decidable (s.Kept i a) := by
  unfold State.Kept
  split
  · split <;> infer_instance
  · infer_instance

/-- Whether a step is kept can be computed. -/
instance decidableKept [Fintype ι] (s : State ι Ev) (l : Label ι Ev) : Decidable (Kept s l) := by
  cases l <;> unfold Kept <;> infer_instance

/-- The calls `i` and `j` close the number `fd` while `k` waits for it: `i` claims it, `j` is
refused, and the number is handed out again. -/
def doubleClose (i j : ι) (k : Ev) (fd : ℤ) : List (Label ι Ev) :=
  [.openFd fd, .sample fd, .track (fun _ => false) k fd 0, .hookClose i fd, .hookClose j fd,
    .call i {}, .call j {}, .call i {}, .call i {}, .call i {}, .openFd fd, .call i {}, .call j {}]

/-- Two calls close one generation: one of them performs the close, the other one fails. -/
theorem closedOnce_of_kept_double : ∃ s : State (Fin 2) ℕ,
    (system (Fin 2) ℕ).ReachableWhen Kept s ∧ (s.call 0).pc = .returned .closed ∧
      (s.call 1).pc = .returned (.failed ebadf) ∧ s.opened 3 = some 1 ∧ ClosedOnce s := by
  have hrun : (system (Fin 2) ℕ).endsInWhen Kept {} (doubleClose 0 1 5 3)
      (fun s => (s.call 0).pc = .returned .closed ∧ (s.call 1).pc = .returned (.failed ebadf) ∧
        s.opened 3 = some 1) = true := by decide +kernel
  obtain ⟨s, hs, h0, h1, ho⟩ := System.exists_of_endsInWhen rfl hrun
  exact ⟨s, hs, h0, h1, ho, closedOnce_of_kept hs⟩

/-- The call `i` has closed the number `fd`, which is handed out again; the new owner closes it
in the call `j` before the claim of `i` has ended. -/
def closeReused (i j : ι) (fd : ℤ) : List (Label ι Ev) :=
  [.openFd fd, .hookClose i fd, .call i {}, .call i {}, .call i {}, .openFd fd, .hookClose j fd,
    .call j {}, .call i {}, .call j {}]

/-- The close of a new generation fails although no other call is issued for it, and the
generation stays open. -/
theorem not_closedOnce_reused : ∃ s : State (Fin 2) ℕ, (system (Fin 2) ℕ).Reachable s ∧
    (s.call 1).issued = some 1 ∧ (s.call 1).pc = .returned (.failed ebadf) ∧
      s.opened 3 = some 1 ∧ ¬ ClosedOnce s := by
  have hrun : (system (Fin 2) ℕ).endsIn {} (closeReused 0 1 3)
      (fun s => (s.call 1).issued = some 1 ∧ (s.call 1).pc = .returned (.failed ebadf) ∧
        s.opened 3 = some 1 ∧ (s.call 1).closes = [] ∧ (s.call 0).issued = some 0) = true := by
    decide +kernel
  obtain ⟨s, hs, hg, hr, ho, hnil, h0⟩ := System.exists_of_endsIn rfl hrun
  refine ⟨s, hs, hg, hr, ho, fun h => ?_⟩
  rcases h.result 1 1 _ hg hr with hx | ⟨-, -, j, hj, hissued, -⟩
  · rw [hnil] at hx
    cases hx
  · have hj0 : j = 0 := by omega
    rw [hj0, h0] at hissued
    cases hissued

/-- The calls `i` and `j` are issued for one generation; `j` comes to the table when `i` is done
and the number has been handed out again. -/
def closeLate (i j : ι) (fd : ℤ) : List (Label ι Ev) :=
  [.openFd fd, .hookClose i fd, .hookClose j fd, .call i {}, .call i {}, .call i {}, .call i {},
    .openFd fd, .call j {}, .call j {}, .call j {}]

/-- A late call closes the next generation. -/
theorem not_closedOnce_late : ∃ s : State (Fin 2) ℕ, (system (Fin 2) ℕ).Reachable s ∧
    (s.call 1).issued = some 0 ∧ (some 1, .closed) ∈ (s.call 1).closes ∧ ¬ ClosedOnce s := by
  have hrun : (system (Fin 2) ℕ).endsIn {} (closeLate 0 1 3)
      (fun s => (s.call 1).issued = some 0 ∧ (some 1, .closed) ∈ (s.call 1).closes) = true := by
    decide +kernel
  obtain ⟨s, hs, hg, hc⟩ := System.exists_of_endsIn rfl hrun
  refine ⟨s, hs, hg, hc, fun h => ?_⟩
  have hown := h.own 1 1 _ hc
  rw [hg] at hown
  cases hown

end BbtCoroutine.HookClose
