import BbtCoroutine.Hook.Watch
import Mathlib.Data.Finset.Card

/-!
# A model of the emulation of `select`

`SelectCore` folds the three sets into one array of `pollfd`, an entry for each descriptor that
is in one of them, and unfolds what `PollCore` reports into the sets again.
-/

namespace BbtCoroutine.Hook

/-- An `fd_set`, or a null pointer. -/
abbrev FdSet := Option (Finset ℕ)

/-- The sets that `select` is called with. -/
structure FdSets where
  read : FdSet
  write : FdSet
  except : FdSet
  deriving DecidableEq

/-- `FD_SETSIZE`. -/
def fdSetSize : ℤ := 1024

/-- The set is given, and `FD_ISSET` holds. -/
def FdSet.has (s : FdSet) (fd : ℕ) : Prop := ∃ t, s = some t ∧ fd ∈ t

/-- Whether a set has a descriptor can be computed. -/
instance (s : FdSet) (fd : ℕ) : Decidable (s.has fd) :=
  match s with
  | none => .isFalse fun ⟨_, h, _⟩ => absurd h (by nofun)
  | some t => decidable_of_iff (fd ∈ t) ⟨fun h => ⟨t, rfl, h⟩, fun ⟨_, h, hm⟩ => by
      obtain rfl := Option.some.inj h; exact hm⟩

/-- The events that the sets ask for of a descriptor. -/
def requestedEvents (sets : FdSets) (fd : ℕ) : EventMask :=
  (if sets.read.has fd then pollIn else 0) ||| (if sets.write.has fd then pollOut else 0) |||
    (if sets.except.has fd then pollPri else 0)

/-- The array that `SelectCore` polls. -/
def selectPfds (nfds : ℤ) (sets : FdSets) : List PollFd :=
  ((List.range nfds.toNat).filter fun fd => requestedEvents sets fd ≠ 0).map fun (fd : ℕ) =>
    { fd, events := requestedEvents sets fd }

/-- Errors, hang-ups and invalid descriptors, which `poll` reports unasked. -/
def troubles : EventMask := pollHup ||| pollErr ||| pollNval

/-- What puts a descriptor into the read set. -/
def readConditions : EventMask := pollIn ||| troubles

/-- What puts a descriptor into the write set. -/
def writeConditions : EventMask := pollOut ||| troubles

/-- What puts a descriptor into the except set. -/
def exceptConditions : EventMask := pollPri

/-- The descriptors with one of the conditions, as the loop over the array sets them. -/
def raised (conditions : EventMask) (pfds : List PollFd) : Finset ℕ :=
  pfds.foldl (fun s p => if p.revents &&& conditions ≠ 0 then insert p.fd.toNat s else s) ∅

/-- The sets as they are written back. -/
def writeBack (sets : FdSets) (pfds : List PollFd) : FdSets where
  read := sets.read.map fun _ => raised readConditions pfds
  write := sets.write.map fun _ => raised writeConditions pfds
  except := sets.except.map fun _ => raised exceptConditions pfds

/-- The bits of a set that are counted. -/
def countSet (nfds : ℤ) (s : FdSet) : ℕ :=
  (List.range nfds.toNat).countP fun fd => s.has fd

/-- `SelectCore`: its result, and the sets as it leaves them. -/
def selectCore (nfds : ℤ) (sets : FdSets) (timeoutMs : ℤ) (σ : Schedule) : ℤ × FdSets :=
  if fdSetSize < nfds then (-1, sets)
  else
    let answer := pollCore (selectPfds nfds sets) timeoutMs σ
    if answer.1 < 0 then (answer.1, sets)
    else
      let sets' := writeBack sets answer.2
      (countSet nfds sets'.read + countSet nfds sets'.write + countSet nfds sets'.except, sets')

/-! ## What `select` promises -/

/-- A set is written back as promised: it has no descriptor that was not in the set, and one
that was in the set and below `nfds` if and only if the answer has one of its conditions. -/
structure SetAgrees (nfds : ℤ) (conditions : EventMask) (answer : List PollFd)
    (s s' : FdSet) : Prop where
  given : s' = none ↔ s = none
  requested : ∀ fd, s'.has fd → s.has fd ∧ fd < nfds.toNat
  exact : ∀ fd, s.has fd → fd < nfds.toNat →
    (s'.has fd ↔ ∃ p ∈ answer, p.fd = fd ∧ p.revents &&& conditions ≠ 0)

/-- The number of bits of a set. -/
def FdSet.bits (s : FdSet) : ℕ := s.elim 0 Finset.card

/-- The sets and the result agree with `select`. -/
structure Agrees (nfds : ℤ) (sets : FdSets) (answer : List PollFd) (r : ℤ × FdSets) : Prop where
  read : SetAgrees nfds readConditions answer sets.read r.2.read
  write : SetAgrees nfds writeConditions answer sets.write r.2.write
  except : SetAgrees nfds exceptConditions answer sets.except r.2.except
  count : r.1 = r.2.read.bits + r.2.write.bits + r.2.except.bits

/-! ## The array and the answer -/

/-- The entries that `select` polls are those of the requested descriptors. -/
lemma mem_selectPfds {nfds : ℤ} {sets : FdSets} {p : PollFd} :
    p ∈ selectPfds nfds sets ↔ ∃ fd : ℕ, fd < nfds.toNat ∧ requestedEvents sets fd ≠ 0 ∧
      p = { fd, events := requestedEvents sets fd } := by
  unfold selectPfds
  rw [List.mem_map]
  constructor
  · rintro ⟨fd, hfd, rfl⟩
    obtain ⟨hlt, hne⟩ := List.mem_filter.mp hfd
    exact ⟨fd, List.mem_range.mp hlt, of_decide_eq_true hne, rfl⟩
  · rintro ⟨fd, hlt, hne, rfl⟩
    exact ⟨fd, List.mem_filter.mpr ⟨List.mem_range.mpr hlt, decide_eq_true hne⟩, rfl⟩

/-- A set after the answers with a condition have been raised in it. -/
lemma mem_foldl_raised {conditions : EventMask} {pfds : List PollFd} {s : Finset ℕ} {fd : ℕ} :
    fd ∈ pfds.foldl
        (fun s p => if p.revents &&& conditions ≠ 0 then insert p.fd.toNat s else s) s ↔
      fd ∈ s ∨ ∃ p ∈ pfds, p.fd.toNat = fd ∧ p.revents &&& conditions ≠ 0 := by
  induction pfds generalizing s with
  | nil => simp
  | cons p pfds ih =>
    rw [List.foldl_cons, ih]
    split_ifs with hp
    · rw [Finset.mem_insert, List.exists_mem_cons_iff]
      constructor
      · rintro ((rfl | hs) | hrest)
        · exact .inr (.inl ⟨rfl, hp⟩)
        · exact .inl hs
        · exact .inr (.inr hrest)
      · rintro (hs | ⟨rfl, -⟩ | hrest)
        · exact .inl (.inr hs)
        · exact .inl (.inl rfl)
        · exact .inr hrest
    · rw [List.exists_mem_cons_iff]
      refine or_congr_right ⟨.inr, fun h => h.resolve_left fun hhead => hp hhead.2⟩

/-- The descriptors with one of the conditions are those of the entries that have one. -/
lemma mem_raised {conditions : EventMask} {pfds : List PollFd} {fd : ℕ} :
    fd ∈ raised conditions pfds ↔
      ∃ p ∈ pfds, p.fd.toNat = fd ∧ p.revents &&& conditions ≠ 0 := by
  unfold raised
  rw [mem_foldl_raised]
  simp

/-- The result -1 is not a count. -/
lemma neg_one_not_nonneg : ¬ (0 : ℤ) ≤ -1 := by decide

/-- A call of `PollCore` that succeeds leaves the results of one snapshot. -/
lemma pollCore_answer {fds : List PollFd} {timeoutMs : ℤ} {σ : Schedule}
    (h : 0 ≤ (pollCore fds timeoutMs σ).1) :
    ∃ k, (pollCore fds timeoutMs σ).2 = nativePoll k fds := by
  unfold pollCore at h ⊢
  cases hfirst : σ.first with
  | none =>
    rw [hfirst] at h
    exact absurd h neg_one_not_nonneg
  | some k =>
    rw [hfirst] at h
    dsimp only at h ⊢
    split_ifs at h ⊢
    · exact ⟨k, rfl⟩
    · exact ⟨k, rfl⟩
    · exact ⟨k, rfl⟩
    · exact absurd h neg_one_not_nonneg
    · exact absurd h neg_one_not_nonneg
    · cases hlast : σ.last with
      | none =>
        rw [hlast] at h
        exact absurd h neg_one_not_nonneg
      | some k' =>
        dsimp only
        rw [nativePoll_nativePoll]
        exact ⟨k', rfl⟩

/-- An entry of the answer stands for a descriptor that some set asks for, and what it reports
beyond that are troubles. -/
lemma entry_of_answer {nfds timeoutMs : ℤ} {sets : FdSets} {σ : Schedule} {p : PollFd}
    (h : 0 ≤ (pollCore (selectPfds nfds sets) timeoutMs σ).1)
    (hp : p ∈ (pollCore (selectPfds nfds sets) timeoutMs σ).2) :
    ∃ fd : ℕ, p.fd = fd ∧ fd < nfds.toNat ∧
      p.revents &&& ~~~(requestedEvents sets fd ||| troubles) = 0 := by
  obtain ⟨k, hk⟩ := pollCore_answer h
  rw [hk] at hp
  obtain ⟨q, hq, rfl⟩ := List.mem_map.mp hp
  obtain ⟨fd, hlt, -, rfl⟩ := mem_selectPfds.mp hq
  refine ⟨fd, rfl, hlt, ?_⟩
  dsimp only
  unfold nativeRevents
  rw [if_neg (by dsimp only; omega)]
  cases k fd with
  | none =>
    refine BitVec.eq_of_getLsbD_eq fun i _ => ?_
    simp only [troubles, BitVec.getLsbD_and, BitVec.getLsbD_or, BitVec.getLsbD_not]
    cases pollNval.getLsbD i <;> simp
  | some f =>
    refine BitVec.eq_of_getLsbD_eq fun i _ => ?_
    simp only [troubles, BitVec.getLsbD_and, BitVec.getLsbD_or, BitVec.getLsbD_not]
    cases (requestedEvents sets fd).getLsbD i <;> cases pollErr.getLsbD i <;>
      cases pollHup.getLsbD i <;> simp

/-! ## The sets -/

/-- A set with new members has them, if it was passed at all. -/
lemma has_map {s : FdSet} {t : Finset ℕ} {fd : ℕ} :
    FdSet.has (s.map fun _ => t) fd ↔ s ≠ none ∧ fd ∈ t := by
  cases s with
  | none =>
    refine iff_of_false ?_ fun h => h.1 rfl
    rintro ⟨u, hu, -⟩
    cases hu
  | some u =>
    constructor
    · rintro ⟨v, hv, hfd⟩
      obtain rfl := Option.some.inj hv
      exact ⟨by nofun, hfd⟩
    · rintro ⟨-, hfd⟩
      exact ⟨t, rfl, hfd⟩

/-- A set is written back as promised if and only if the entries with one of its conditions
are of descriptors that were in it. -/
lemma setAgrees_iff {nfds : ℤ} {conditions : EventMask} {answer : List PollFd} {s : FdSet}
    (hentry : ∀ p ∈ answer, ∃ fd : ℕ, p.fd = fd ∧ fd < nfds.toNat) :
    SetAgrees nfds conditions answer s (s.map fun _ => raised conditions answer) ↔
      ∀ p ∈ answer, p.revents &&& conditions ≠ 0 → s ≠ none → s.has p.fd.toNat := by
  constructor
  · intro h p hp hrev hs
    exact (h.requested p.fd.toNat (has_map.mpr ⟨hs, mem_raised.mpr ⟨p, hp, rfl, hrev⟩⟩)).1
  · intro h
    refine ⟨Option.map_eq_none_iff, fun fd hfd => ?_, fun fd hfd hlt => ?_⟩
    · obtain ⟨hs, hmem⟩ := has_map.mp hfd
      obtain ⟨p, hp, rfl, hrev⟩ := mem_raised.mp hmem
      obtain ⟨fd, hpfd, hlt⟩ := hentry p hp
      refine ⟨h p hp hrev hs, ?_⟩
      rw [hpfd, Int.toNat_natCast]
      exact hlt
    · have hs : s ≠ none := by
        rintro rfl
        obtain ⟨t, ht, -⟩ := hfd
        cases ht
      rw [has_map, and_iff_right hs, mem_raised]
      constructor
      · rintro ⟨p, hp, rfl, hrev⟩
        obtain ⟨fd, hpfd, -⟩ := hentry p hp
        exact ⟨p, hp, by rw [hpfd, Int.toNat_natCast], hrev⟩
      · rintro ⟨p, hp, hpfd, hrev⟩
        exact ⟨p, hp, by rw [hpfd, Int.toNat_natCast], hrev⟩

/-- The bits that are counted are all the bits of a set. -/
lemma countSet_eq_bits {nfds : ℤ} {s : FdSet} (h : ∀ fd, s.has fd → fd < nfds.toNat) :
    countSet nfds s = s.bits := by
  unfold countSet FdSet.bits
  cases s with
  | none =>
    refine List.countP_eq_zero.mpr fun fd _ hfd => ?_
    obtain ⟨t, ht, -⟩ := of_decide_eq_true hfd
    cases ht
  | some t =>
    have hiff (fd : ℕ) : FdSet.has (some t) fd ↔ fd ∈ t :=
      ⟨fun ⟨_, hu, hfd⟩ => Option.some.inj hu ▸ hfd, fun hfd => ⟨t, rfl, hfd⟩⟩
    have hfilter : (Finset.range nfds.toNat).filter (· ∈ t) = t := by
      refine Finset.ext fun fd => ?_
      rw [Finset.mem_filter, Finset.mem_range]
      exact ⟨fun hfd => hfd.2, fun hfd => ⟨h fd ((hiff fd).mpr hfd), hfd⟩⟩
    calc (List.range nfds.toNat).countP (fun fd => FdSet.has (some t) fd)
        = (List.range nfds.toNat).countP (fun fd => fd ∈ t) := by simp only [hiff]
      _ = ((List.range nfds.toNat).filter fun fd => fd ∈ t).length := List.countP_eq_length_filter
      _ = ((Finset.range nfds.toNat).filter (· ∈ t)).card := rfl
      _ = t.card := by rw [hfilter]

/-! ## The conditions -/

/-- A condition that is reported beyond the troubles is one that is asked for. -/
lemma meets_requested {r e c : EventMask} (hcov : r &&& ~~~(e ||| troubles) = 0)
    (hc : r &&& c ≠ 0) : c &&& (e ||| troubles) ≠ 0 := by
  rw [BitVec.and_comm] at hc
  exact and_ne_zero_of_covered hc hcov

/-- Each of the three conditions is asked for by its own set only. -/
lemma requested_of_meets {sets : FdSets} {fd : ℕ} :
    (pollIn &&& (requestedEvents sets fd ||| troubles) ≠ 0 → sets.read.has fd) ∧
      (pollOut &&& (requestedEvents sets fd ||| troubles) ≠ 0 → sets.write.has fd) ∧
      (pollPri &&& (requestedEvents sets fd ||| troubles) ≠ 0 → sets.except.has fd) := by
  unfold requestedEvents
  by_cases hr : sets.read.has fd <;> by_cases hw : sets.write.has fd <;>
    by_cases he : sets.except.has fd <;> simp only [hr, hw, he, if_true, if_false] <;> decide

/-- One of two conditions is raised. -/
lemma and_or_ne_zero {r a b : EventMask} : r &&& (a ||| b) ≠ 0 ↔ r &&& a ≠ 0 ∨ r &&& b ≠ 0 := by
  rw [BitVec.and_or_distrib_left]
  exact (not_congr BitVec.or_eq_zero_iff).trans not_and_or

/-- A set that asks for a condition of its own, besides the troubles, agrees if and only if the
troubles are of descriptors that are in it. -/
lemma setAgrees_troubles_iff {nfds : ℤ} {own : EventMask} {answer : List PollFd} {s : FdSet}
    (hentry : ∀ p ∈ answer, ∃ fd : ℕ, p.fd = fd ∧ fd < nfds.toNat)
    (hown : ∀ p ∈ answer, p.revents &&& own ≠ 0 → s.has p.fd.toNat) :
    SetAgrees nfds (own ||| troubles) answer s (s.map fun _ => raised (own ||| troubles) answer) ↔
      ∀ p ∈ answer, p.revents &&& troubles ≠ 0 → s ≠ none → s.has p.fd.toNat := by
  rw [setAgrees_iff hentry]
  refine forall₂_congr fun p hp => ?_
  rw [and_or_ne_zero]
  constructor
  · exact fun h hrev => h (.inr hrev)
  · rintro h (hrev | hrev) hs
    · exact hown p hp hrev
    · exact h hrev hs

/-- **The emulation of `select`.**  A call of `SelectCore` that succeeds agrees with `select`
if and only if each descriptor that `poll` reports an error, a hang-up or invalidity of is in
the read set and in the write set, as far as these are given. -/
theorem agrees_iff (nfds : ℤ) (sets : FdSets) (timeoutMs : ℤ) (σ : Schedule) :
    (0 ≤ (selectCore nfds sets timeoutMs σ).1 →
      Agrees nfds sets (pollCore (selectPfds nfds sets) timeoutMs σ).2
        (selectCore nfds sets timeoutMs σ)) ↔
      fdSetSize < nfds ∨ (pollCore (selectPfds nfds sets) timeoutMs σ).1 < 0 ∨
        ∀ p ∈ (pollCore (selectPfds nfds sets) timeoutMs σ).2, p.revents &&& troubles ≠ 0 →
          (sets.read ≠ none → sets.read.has p.fd.toNat) ∧
          (sets.write ≠ none → sets.write.has p.fd.toNat) := by
  unfold selectCore
  by_cases hsize : fdSetSize < nfds
  · rw [if_pos hsize]
    exact iff_of_true (fun h => absurd h neg_one_not_nonneg) (.inl hsize)
  rw [if_neg hsize, or_iff_right hsize]
  dsimp only
  by_cases hfail : (pollCore (selectPfds nfds sets) timeoutMs σ).1 < 0
  · rw [if_pos hfail]
    exact iff_of_true (fun h => absurd hfail (by omega)) (.inl hfail)
  rw [if_neg hfail, or_iff_right hfail]
  have hsucc : 0 ≤ (pollCore (selectPfds nfds sets) timeoutMs σ).1 := by omega
  have hcov := fun p => entry_of_answer (p := p) hsucc
  set answer := (pollCore (selectPfds nfds sets) timeoutMs σ).2
  have hentry : ∀ p ∈ answer, ∃ fd : ℕ, p.fd = fd ∧ fd < nfds.toNat := fun p hp => by
    obtain ⟨fd, hfd, hlt, -⟩ := hcov p hp
    exact ⟨fd, hfd, hlt⟩
  -- a condition other than the troubles is of a descriptor that its set asks for
  have hasked : ∀ p ∈ answer, (p.revents &&& pollIn ≠ 0 → sets.read.has p.fd.toNat) ∧
      (p.revents &&& pollOut ≠ 0 → sets.write.has p.fd.toNat) ∧
      (p.revents &&& pollPri ≠ 0 → sets.except.has p.fd.toNat) := fun p hp => by
    obtain ⟨fd, hfd, -, hrev⟩ := hcov p hp
    rw [hfd, Int.toNat_natCast]
    exact ⟨fun h => requested_of_meets.1 (meets_requested hrev h),
      fun h => requested_of_meets.2.1 (meets_requested hrev h),
      fun h => requested_of_meets.2.2 (meets_requested hrev h)⟩
  have hread := setAgrees_troubles_iff hentry fun p hp => (hasked p hp).1
  have hwrite := setAgrees_troubles_iff hentry fun p hp => (hasked p hp).2.1
  have hexcept : SetAgrees nfds exceptConditions answer sets.except
      (writeBack sets answer).except :=
    (setAgrees_iff hentry).mpr fun p hp hrev _ => (hasked p hp).2.2 hrev
  constructor
  · intro h p hp hrev
    have hagrees := h (by dsimp only; omega)
    exact ⟨hread.mp hagrees.read p hp hrev, hwrite.mp hagrees.write p hp hrev⟩
  · intro h _
    have hr : SetAgrees nfds readConditions answer sets.read (writeBack sets answer).read :=
      hread.mpr fun p hp hrev => (h p hp hrev).1
    have hw : SetAgrees nfds writeConditions answer sets.write (writeBack sets answer).write :=
      hwrite.mpr fun p hp hrev => (h p hp hrev).2
    refine ⟨hr, hw, hexcept, ?_⟩
    dsimp only
    rw [countSet_eq_bits fun fd hfd => (hr.requested fd hfd).2,
      countSet_eq_bits fun fd hfd => (hw.requested fd hfd).2,
      countSet_eq_bits fun fd hfd => (hexcept.requested fd hfd).2]

/-- A descriptor that hangs up, and one that has nothing to report. -/
def hungUp : Schedule where
  first := some fun fd => if fd = 3 then some { ready := pollHup }
    else if fd = 4 then some { ready := 0 } else none
  adding := idle []
  last := none
  elapsed := 0

/-- The sets of a call that reads from one descriptor and writes to another. -/
def readAndWrite : FdSets where
  read := some {3}
  write := some {4}
  except := none

/-- The descriptor that hangs up was only to be read from, and is in the write set as well. -/
theorem not_agrees_hungUp :
    0 ≤ (selectCore 5 readAndWrite (-1) hungUp).1 ∧
    ¬ Agrees 5 readAndWrite (pollCore (selectPfds 5 readAndWrite) (-1) hungUp).2
      (selectCore 5 readAndWrite (-1) hungUp) := by
  refine ⟨by decide +kernel, fun h => ?_⟩
  have hwritten := h.write.requested 3 (by decide +kernel)
  exact absurd hwritten.1 (by decide +kernel)

end BbtCoroutine.Hook
