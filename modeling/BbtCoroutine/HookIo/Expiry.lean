import BbtCoroutine.HookIo.Loop

/-!
# When the timeout of a socket ends a transfer

`read`, `recv`, `write` and `send` set a deadline and compute the rest of the time, rounded down to
milliseconds, before each wait.  So they give up as soon as less than a millisecond is left.

`onTime_iff` says when this is too early.  The clock does not run backwards.
-/

namespace BbtCoroutine.HookIo

open BoundedWait (intMax toInt toInt_of_le)
open Hook (Timeval int32 int32_of_le)

/-! ## Statement -/

/-- The nanoseconds of a timeout. -/
def duration (tv : Timeval) : ℤ := tv.sec * 1000000000 + tv.usec * 1000

/-- The milliseconds of a timeout, rounded up. -/
def ceilMs (tv : Timeval) : ℤ := tv.sec * 1000 + (tv.usec + 999) / 1000

/-- A timeout that is finite and an `int` of milliseconds. -/
def Finite (tv : Timeval) : Prop :=
  (0 ≤ tv.sec ∧ 0 ≤ tv.usec) ∧ (0 < tv.sec ∨ 0 < tv.usec) ∧ ceilMs tv ≤ intMax

/-- The rounds that the kernel leaves to the hook: those whose answer is to be retried, up to the
first wait that fails. -/
def retried (retryable : Errno → Bool) : List Round → List Round
  | [] => []
  | r :: rs =>
    match r.answer with
    | .ok _ => []
    | .error e =>
      if retryable e then r :: (if r.wake.ready then retried retryable rs else []) else []

/-- The rounds in which the transfer looks at the clock as long as it has time left. -/
def Transfer.asked (op : Transfer) (fd : Fd) : List Round :=
  if op.dontwait ∨ (coIoNonblockGuard fd).isSome then [] else retried op.retryable fd.rounds

/-- The call that began at `began` gives up only when `d` nanoseconds are over, and none of its
waits is unbounded. -/
structure OnTime (began d : ℤ) (r : Run) : Prop where
  elapsed : ∀ e t, r.outcome = .expired e t → began + d ≤ t
  bounded : .endless ∉ r.waits

/-! ## The rest of the time -/

section Remaining

variable {iot : IoTimeout} {now : ℤ}

/-- The rest of the time is rounded down. -/
lemma remainMs_nonpos_iff (h : iot.deadline - now ≤ intMax * 1000000) :
    iot.remainMs now ≤ 0 ↔ iot.deadline - 1000000 < now := by
  change (if 0 < (iot.deadline - now).tdiv 1000000 then
    toInt ((iot.deadline - now).tdiv 1000000) else 0) ≤ 0 ↔ _
  unfold intMax at h
  rcases le_or_gt 0 (iot.deadline - now) with hpos | hneg
  · rw [Int.tdiv_eq_ediv_of_nonneg hpos]
    split
    · next hleft =>
      rw [toInt_of_le hleft.le (by unfold intMax; omega)]
      omega
    · next hleft => omega
  · have hdiv : 0 ≤ (-(iot.deadline - now)).tdiv 1000000 :=
      Int.tdiv_nonneg (by omega) (by decide)
    rw [Int.neg_tdiv] at hdiv
    rw [if_neg (by omega)]
    omega

/-- The timeout of a finite interval is rounded up to milliseconds. -/
lemma timeoutMs_of_finite {tv : Timeval} (h : Finite tv) : timeoutMs tv = some (ceilMs tv) := by
  obtain ⟨⟨hsec, husec⟩, -, hle⟩ := h
  have hlt : tv.usec + 999 < 2 ^ 63 := by
    unfold ceilMs intMax at hle
    omega
  exact Hook.selectMs_of_le hsec (by omega) hlt (by decide) hle

/-- A finite timeout is positive when it is rounded up. -/
lemma ceilMs_pos {tv : Timeval} (h : Finite tv) : 0 < ceilMs tv := by
  obtain ⟨⟨hsec, husec⟩, hpos, -⟩ := h
  unfold ceilMs
  omega

/-- The timeout of a call with a finite interval. -/
lemma ioTimeout_of_finite {fd : Fd} {tv : Timeval} (hfd : fd.timeout = some tv) (h : Finite tv) :
    ioTimeout fd = some ⟨ceilMs tv, fd.start + ceilMs tv * 1000000⟩ := by
  unfold ioTimeout
  rw [hfd]
  change (if 0 < tv.sec ∨ 0 < tv.usec then _ else _) = _
  rw [if_pos h.2.1, timeoutMs_of_finite h]
  rfl

end Remaining

/-! ## The loop -/

section Loop

variable {retryable : Errno → Bool} {iot : IoTimeout}

/-- With a finite timeout the wait of a round is bounded. -/
lemma waitFor_ne_endless (hms : 0 < iot.ms) (now : ℤ) : iot.waitFor now ≠ some .endless := by
  unfold IoTimeout.waitFor
  rw [if_neg hms.not_ge]
  split
  · rintro ⟨⟩
  · rintro ⟨⟩

/-- With a finite timeout no wait is unbounded. -/
lemma not_endless_retry (hms : 0 < iot.ms) (rs : List Round) :
    .endless ∉ (retry retryable true iot rs).waits := by
  induction rs with
  | nil => exact List.not_mem_nil
  | cons r rs ih =>
    have hturn := turn_retry retryable iot r rs
    generalize retry retryable true iot (r :: rs) = run at hturn ⊢
    cases hturn with
    | ok h => exact List.not_mem_nil
    | final h hfinal => exact List.not_mem_nil
    | expired h hretry hwait => exact List.not_mem_nil
    | ready h hretry hwait hready =>
      rintro hmem
      rcases List.mem_cons.mp hmem with rfl | hmem
      · exact waitFor_ne_endless hms _ hwait
      · exact ih hmem
    | lost h hretry hwait hready =>
      rintro hmem
      rw [← List.mem_singleton.mp hmem] at hwait
      exact waitFor_ne_endless hms _ hwait

/-- An answer to be retried is followed by the next round if the descriptor is ready. -/
lemma retried_of_error {r : Round} {rs : List Round} {e : Errno} (h : r.answer = .error e)
    (hretry : retryable e = true) :
    retried retryable (r :: rs) =
      r :: (if r.wake.ready then retried retryable rs else []) := by
  rw [retried, h]
  exact if_pos hretry

/-- A successful answer is not retried. -/
lemma retried_of_ok {r : Round} {rs : List Round} {n : ℕ} (h : r.answer = .ok n) :
    retried retryable (r :: rs) = [] := by
  rw [retried, h]

/-- A final error is not retried. -/
lemma retried_of_final {r : Round} {rs : List Round} {e : Errno} (h : r.answer = .error e)
    (hfinal : retryable e = false) : retried retryable (r :: rs) = [] := by
  rw [retried, h]
  exact if_neg (ne_true_of_eq_false hfinal)

/-- Only answers are retried. -/
lemma retried_subset (rs : List Round) : retried retryable rs ⊆ rs := by
  induction rs with
  | nil => exact List.Subset.refl _
  | cons r rs ih =>
    unfold retried
    split
    · exact List.nil_subset _
    · split
      · refine List.cons_subset_cons _ ?_
        split
        · exact ih
        · exact List.nil_subset _
      · exact List.nil_subset _

/-- A wait is refused in the last millisecond before the deadline. -/
lemma waitFor_eq_none_iff (hms : 0 < iot.ms) {now : ℤ}
    (hleft : iot.deadline - now ≤ intMax * 1000000) :
    iot.waitFor now = none ↔ iot.deadline - 1000000 < now := by
  rw [← remainMs_nonpos_iff hleft]
  unfold IoTimeout.waitFor
  rw [if_neg hms.not_ge]
  split
  · next hle => exact ⟨fun _ => hle, fun _ => rfl⟩
  · next hgt => exact ⟨by rintro ⟨⟩, fun hle => absurd hle hgt⟩

/-- A loop gives up in time if and only if it does not look at the clock in the last millisecond
before the deadline while the time is not over. -/
lemma elapsed_retry_iff (hms : 0 < iot.ms) {limit : ℤ} {rs : List Round}
    (hleft : ∀ r ∈ rs, iot.deadline - r.now ≤ intMax * 1000000)
    (hclock : (rs.map Round.now).Pairwise (· ≤ ·)) :
    (∀ e t, (retry retryable true iot rs).outcome = .expired e t → limit ≤ t) ↔
      ∀ r ∈ retried retryable rs, ¬ (iot.deadline - 1000000 < r.now ∧ r.now < limit) := by
  induction rs with
  | nil => exact ⟨fun _ r hr => absurd hr List.not_mem_nil, by rintro - e t ⟨⟩⟩
  | cons r rs ih =>
    obtain ⟨hfirst, hrest⟩ := List.pairwise_cons.mp hclock
    have ih := ih (fun r' hr' => hleft r' (List.mem_cons_of_mem r hr')) hrest
    have hnone := waitFor_eq_none_iff hms (hleft r List.mem_cons_self)
    have hearly : ∀ w, iot.waitFor r.now = some w → ¬ iot.deadline - 1000000 < r.now := by
      intro w hwait hlt
      rw [hnone.mpr hlt] at hwait
      cases hwait
    have hturn := turn_retry retryable iot r rs
    generalize retry retryable true iot (r :: rs) = run at hturn ⊢
    cases hturn with
    | ok h =>
      rw [retried_of_ok h]
      exact ⟨fun _ r hr => absurd hr List.not_mem_nil, by rintro - e t ⟨⟩⟩
    | final h hfinal =>
      rw [retried_of_final h hfinal]
      exact ⟨fun _ r hr => absurd hr List.not_mem_nil, by rintro - e t ⟨⟩⟩
    | @expired e h hretry hwait =>
      have hlate := hnone.mp hwait
      rw [retried_of_error h hretry]
      constructor
      · -- The later rounds look at a later clock.
        intro htime r' hr'
        have hle : limit ≤ r.now := htime e r.now rfl
        rcases List.mem_cons.mp hr' with rfl | hr'
        · exact fun hearly => hearly.2.not_ge hle
        · have hmem : r' ∈ rs := by
            split at hr'
            · exact retried_subset rs hr'
            · exact absurd hr' List.not_mem_nil
          exact fun hearly => (hle.trans (hfirst _ (List.mem_map_of_mem hmem))).not_gt hearly.2
      · rintro hnot e' t ⟨⟩
        exact not_lt.mp fun hlt => hnot r List.mem_cons_self ⟨hlate, hlt⟩
    | @ready e w h hretry hwait hready =>
      rw [retried_of_error h hretry, if_pos hready]
      refine ih.trans ⟨?_, fun hnot r' hr' => hnot r' (List.mem_cons_of_mem r hr')⟩
      intro hnot r' hr'
      rcases List.mem_cons.mp hr' with rfl | hr'
      · exact fun hlate => hearly w hwait hlate.1
      · exact hnot r' hr'
    | lost h hretry hwait hready =>
      rw [retried_of_error h hretry, if_neg (ne_true_of_eq_false hready)]
      refine ⟨fun _ r' hr' hlate => ?_, by rintro - e t ⟨⟩⟩
      rw [List.mem_singleton.mp hr'] at hlate
      exact hearly _ hwait hlate.1

end Loop

/-! ## The transfers -/

/-- A call that is passed through is on time. -/
lemma onTime_passThrough (began d : ℤ) (fd : Fd) : OnTime began d (passThrough fd) := by
  unfold passThrough
  split
  · exact ⟨by rintro e t ⟨⟩, List.not_mem_nil⟩
  · next r _ _ =>
    cases hanswer : r.answer with
    | ok n =>
      refine ⟨?_, List.not_mem_nil⟩
      rintro e t ⟨⟩
    | error e =>
      refine ⟨?_, List.not_mem_nil⟩
      rintro e t ⟨⟩

/-- A transfer with a timeout is on time if and only if it does not look at the clock in the last
millisecond before its deadline while the time that was asked for is not over. -/
theorem onTime_iff (op : Transfer) (fd : Fd) (began : ℤ) (tv : Timeval)
    (htimeout : fd.timeout = some tv) (htv : Finite tv)
    (hclock : (began :: fd.start :: fd.rounds.map Round.now).Pairwise (· ≤ ·)) :
    OnTime began (duration tv) (op.hook true fd) ↔
      ∀ r ∈ op.asked fd, ¬ (fd.start + ceilMs tv * 1000000 - 1000000 < r.now ∧
        r.now < began + duration tv) := by
  unfold Transfer.asked
  cases hdontwait : op.dontwait with
  | true =>
    rw [hook_of_dontwait hdontwait, if_pos (.inl rfl)]
    exact ⟨fun _ r hr => absurd hr List.not_mem_nil, fun _ => onTime_passThrough _ _ _⟩
  | false =>
    rw [hook_of_wait hdontwait]
    unfold hookIo
    cases hguard : coIoNonblockGuard fd with
    | some e =>
      rw [if_pos (.inr rfl)]
      exact ⟨fun _ r hr => absurd hr List.not_mem_nil,
        fun _ => ⟨by rintro e t ⟨⟩, List.not_mem_nil⟩⟩
    | none =>
      have hms := ceilMs_pos htv
      have hle := htv.2.2
      obtain ⟨-, hclock⟩ := List.pairwise_cons.mp hclock
      obtain ⟨hstart, hclock⟩ := List.pairwise_cons.mp hclock
      have hleft : ∀ r ∈ fd.rounds,
          fd.start + ceilMs tv * 1000000 - r.now ≤ intMax * 1000000 := by
        intro r hr
        have hafter := hstart r.now (List.mem_map_of_mem hr)
        omega
      rw [if_neg (by decide), ioTimeout_of_finite htimeout htv]
      have htime : (∀ e t, (retry op.retryable true
            ⟨ceilMs tv, fd.start + ceilMs tv * 1000000⟩ fd.rounds).outcome = .expired e t →
            began + duration tv ≤ t) ↔
          ∀ r ∈ retried op.retryable fd.rounds,
            ¬ (fd.start + ceilMs tv * 1000000 - 1000000 < r.now ∧ r.now < began + duration tv) :=
        elapsed_retry_iff hms hleft hclock
      exact ⟨fun h => htime.mp h.elapsed, fun h => ⟨htime.mpr h, not_endless_retry hms _⟩⟩

/-- A `recv` with a timeout of ten milliseconds: a wake that is spurious, then no answer in time. -/
def tooEarly : Fd where
  timeout := some ⟨0, 10000⟩
  rounds := [⟨.error .eagain, 1, {}⟩, ⟨.error .eagain, 9000100, {}⟩]

/-- After nine milliseconds the call gives up. -/
theorem not_onTime_tooEarly :
    tooEarly.timeout = some ⟨0, 10000⟩ ∧ Finite ⟨0, 10000⟩ ∧
      (Transfer.recv false).hook true tooEarly = ⟨.expired .eagain 9000100, [.timed 9], 2⟩ ∧
      ¬ OnTime 0 (duration ⟨0, 10000⟩) ((Transfer.recv false).hook true tooEarly) := by
  have hrun : (Transfer.recv false).hook true tooEarly =
      ⟨.expired .eagain 9000100, [.timed 9], 2⟩ := by
    decide
  refine ⟨rfl, ⟨by decide, by decide, by decide⟩, hrun, ?_⟩
  intro h
  rw [hrun] at h
  exact absurd (h.elapsed .eagain 9000100 rfl) (by decide)

/-- A `recv` with the same timeout that looks at the clock when the time is over. -/
def inTime : Fd :=
  { tooEarly with rounds := [⟨.error .eagain, 1, {}⟩, ⟨.error .eagain, 10000000, {}⟩] }

/-- The run in time is the one on time. -/
theorem onTime_iff_inTime :
    OnTime 0 (duration ⟨0, 10000⟩) ((Transfer.recv false).hook true inTime) :=
  (onTime_iff (.recv false) inTime 0 ⟨0, 10000⟩ rfl ⟨by decide, by decide, by decide⟩
    (by decide)).mpr (by decide)

end BbtCoroutine.HookIo
