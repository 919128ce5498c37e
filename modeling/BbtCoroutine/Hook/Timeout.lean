import BbtCoroutine.Hook.Poll

/-!
# When the emulation of `poll` returns zero

A call of `PollCore` waits at most once, on its epoll set or, with an empty array, for the
time alone.  What ends the wait is not told to the call: the timer, a condition of a
descriptor, a spurious wake and a cancellation all make the coroutine's wait return `0`, and
what the call returns depends on the snapshot that it takes afterwards.

A `Course` is what a call meets up to the end of its wait.  What it takes of time is in
`Spans`: a wait that its timer ends has lasted as long as the timeout, and otherwise any
time may pass.  `zero_only_on_timeout_iff` states for which courses a result of `0` means
that the timeout is over, whatever has happened to the files before the last snapshot.
-/

namespace BbtCoroutine.Hook

/-! ## How a wait ends -/

/-- How the wait of a call ends. -/
inductive WaitEnd
  /-- The coroutine has been asked to cancel before it could wait. -/
  | cancelRequested
  /-- The wait cannot be set up. -/
  | fails
  | timer
  /-- A descriptor of the epoll set has a condition. -/
  | ready
  | spurious
  | cancelled
  deriving DecidableEq, Repr

/-- What `YieldUntilTimeout` and `YieldUntilFdReadable` return. -/
def WaitEnd.yieldRet : WaitEnd → ℤ
  | cancelRequested => 1
  | fails => -1
  | _ => 0

/-- What a call of `PollCore` meets up to the end of its wait. -/
structure Course where
  /-- The files at the first snapshot, unless the native `poll` fails. -/
  first : Option Files
  /-- `epoll_create1` succeeds. -/
  creates : Bool := true
  /-- The files when the epoll set is filled. -/
  adding : Files
  /-- The descriptors that epoll has no room for. -/
  refuses : ℤ → Bool := fun _ => false
  /-- The end of the wait, if there is one. -/
  waitEnd : WaitEnd

/-- The nanoseconds that a call takes before, in and after its wait. -/
structure Spans (timeoutMs : ℤ) (waitEnd : WaitEnd) where
  before : ℕ
  waited : ℕ
  after : ℕ
  /-- No timer of the event loop fires early. -/
  timer : waitEnd = .timer → timeoutMs * 1000000 ≤ waited

/-- The call comes to wait. -/
def Course.waits (c : Course) (fds : List PollFd) (timeoutMs : ℤ) : Bool :=
  match c.first with
  | none => false
  | some k => readyCount (nativePoll k fds) = 0 ∧
      if fds = [] then 0 < timeoutMs
      else timeoutMs ≠ 0 ∧ c.creates = true ∧ epollSet c.adding c.refuses fds ≠ []

/-- What the call meets in all, with `last` as the files at its last snapshot. -/
def Course.schedule (c : Course) (fds : List PollFd) (timeoutMs : ℤ) (last : Option Files)
    (spans : Spans timeoutMs c.waitEnd) : Schedule where
  first := c.first
  creates := c.creates
  adding := c.adding
  refuses := c.refuses
  yieldRet := c.waitEnd.yieldRet
  last := last
  elapsed := spans.before + (if c.waits fds timeoutMs then spans.waited else 0) + spans.after

/-! ## The result of a call -/

/-- The call lasts at least as long as its timeout. -/
def TimedOut (timeoutMs : ℤ) (σ : Schedule) : Prop :=
  0 ≤ timeoutMs ∧ timeoutMs * 1000000 ≤ σ.elapsed

/-- The first snapshot fails or has something to report. -/
def Course.Reports (c : Course) (fds : List PollFd) : Prop :=
  ∀ k, c.first = some k → ∃ p ∈ fds, nativeRevents k p ≠ 0

/-- The course of a call is one in which it takes no other end for that of its time: its first
snapshot fails or has something to report; or its epoll set cannot be made; or it waits, and its
wait ends before it begins or is ended by its timer. -/
def Course.KeepsTime (c : Course) (fds : List PollFd) (timeoutMs : ℤ) : Prop :=
  timeoutMs = 0 ∨ c.Reports fds ∨ (fds ≠ [] ∧ c.creates = false) ∨
    c.waits fds timeoutMs = true ∧
      (c.waitEnd = .cancelRequested ∨ c.waitEnd = .fails ∨ 0 < timeoutMs ∧ c.waitEnd = .timer)

variable {c : Course} {fds : List PollFd} {timeoutMs : ℤ} {last : Option Files}
  {spans : Spans timeoutMs c.waitEnd} {k : Files}

/-- When a call of `poll` waits. -/
lemma waits_eq_true : c.waits fds timeoutMs = true ↔
    ∃ k, c.first = some k ∧ readyCount (nativePoll k fds) = 0 ∧
      if fds = [] then 0 < timeoutMs
      else timeoutMs ≠ 0 ∧ c.creates = true ∧ epollSet c.adding c.refuses fds ≠ [] := by
  unfold Course.waits
  cases c.first with
  | none => simp
  | some k => simp

/-- A call without an answer of the kernel reports nothing. -/
lemma reports_of_none (h : c.first = none) : c.Reports fds := by
  intro k hk
  rw [h] at hk
  cases hk

/-- When a call reports. -/
lemma reports_iff (h : c.first = some k) : c.Reports fds ↔ 0 < readyCount (nativePoll k fds) := by
  rw [readyCount_pos]
  constructor
  · exact fun hr => hr k h
  · intro hr k' hk'
    rw [h] at hk'
    exact Option.some.inj hk' ▸ hr

/-- Past its first snapshot, a call that waits is one that makes its epoll set and has an entry in
it, or that has only its time to wait for. -/
lemma waits_iff_of_quiet (hfirst : c.first = some k)
    (hquiet : readyCount (nativePoll k fds) = 0) (htimeout : timeoutMs ≠ 0) :
    c.waits fds timeoutMs = true ↔ if fds = [] then 0 < timeoutMs
      else c.creates = true ∧ epollSet c.adding c.refuses fds ≠ [] := by
  rw [waits_eq_true]
  constructor
  · rintro ⟨-, -, -, h⟩
    split_ifs at h ⊢
    · exact h
    · exact h.2
  · intro h
    refine ⟨k, hfirst, hquiet, ?_⟩
    split_ifs at h ⊢
    · exact h
    · exact ⟨htimeout, h⟩

/-- The call fails past its first snapshot, before it takes the last one. -/
def Course.FailsLater (c : Course) (fds : List PollFd) (timeoutMs : ℤ) : Prop :=
  (fds ≠ [] ∧ c.creates = false) ∨ (c.waits fds timeoutMs = true ∧ c.waitEnd.yieldRet ≠ 0)

/-- A call that fails when it is about to wait returns -1. -/
lemma pollCore_of_failsLater (hfirst : c.first = some k)
    (hquiet : readyCount (nativePoll k fds) = 0) (htimeout : timeoutMs ≠ 0)
    (hfails : c.FailsLater fds timeoutMs) :
    (pollCore fds timeoutMs (c.schedule fds timeoutMs last spans)).1 = -1 := by
  unfold Course.FailsLater at hfails
  rw [waits_iff_of_quiet hfirst hquiet htimeout] at hfails
  simp only [pollCore, Course.schedule, hfirst, epollSet_nativePoll]
  rw [if_neg (by omega)]
  by_cases hfds : fds = []
  · rcases hfails with ⟨hne, -⟩ | ⟨hpos, hret⟩
    · exact absurd hfds hne
    · rw [if_pos hfds] at hpos ⊢
      exact if_pos ⟨hpos, hret⟩
  · rw [if_neg hfds]
    by_cases hcreates : c.creates = false
    · rw [if_pos hcreates]
    · rcases hfails with ⟨-, hno⟩ | ⟨hwaits, hret⟩
      · exact absurd hno hcreates
      · rw [if_neg hfds] at hwaits
        rw [if_neg hcreates, if_pos ⟨hwaits.2, hret⟩]

/-- A call that does not fail before returns what its last snapshot finds, and `0` for an empty
array. -/
lemma pollCore_of_not_failsLater (k' : Files)
    (spans : Spans timeoutMs c.waitEnd) (hfirst : c.first = some k)
    (hquiet : readyCount (nativePoll k fds) = 0) (htimeout : timeoutMs ≠ 0)
    (hfails : ¬ c.FailsLater fds timeoutMs) :
    (pollCore fds timeoutMs (c.schedule fds timeoutMs (some k') spans)).1 =
      readyCount (nativePoll k' fds) := by
  obtain ⟨hcreates, hret⟩ := not_or.mp hfails
  rw [waits_iff_of_quiet hfirst hquiet htimeout] at hret
  simp only [pollCore, Course.schedule, hfirst, epollSet_nativePoll]
  rw [if_neg (by omega)]
  by_cases hfds : fds = []
  · rw [if_pos hfds] at hret ⊢
    rw [hfds]
    exact if_neg hret
  · have hmakes : ¬ c.creates = false := fun hno => hcreates ⟨hfds, hno⟩
    rw [if_neg hfds] at hret ⊢
    rw [if_neg hmakes, if_neg fun h => hret ⟨⟨Bool.eq_true_of_not_eq_false hmakes, h.1⟩, h.2⟩]
    simp only [nativePoll_nativePoll]

/-- The shortest time that a call can take. -/
def shortest (timeoutMs : ℤ) (waitEnd : WaitEnd) : Spans timeoutMs waitEnd where
  before := 0
  waited := if waitEnd = .timer then (timeoutMs * 1000000).toNat else 0
  after := 0
  timer h := by
    rw [if_pos h]
    exact Int.self_le_toNat _

/-- When a yield returns 0. -/
lemma yieldRet_eq_zero_iff {w : WaitEnd} :
    w.yieldRet = 0 ↔ w ≠ .cancelRequested ∧ w ≠ .fails := by
  cases w <;> decide

/-- A wait that its timer ends makes the call last. -/
lemma timedOut_of_timer (hwaits : c.waits fds timeoutMs = true) (hpos : 0 < timeoutMs)
    (hend : c.waitEnd = .timer) : TimedOut timeoutMs (c.schedule fds timeoutMs last spans) := by
  have hlast := spans.timer hend
  refine ⟨hpos.le, ?_⟩
  simp only [Course.schedule, hwaits, if_true]
  push_cast
  omega

/-- A call that its timer does not end may be over at once. -/
lemma not_timedOut_shortest (htimeout : timeoutMs ≠ 0)
    (hend : ¬ (c.waits fds timeoutMs = true ∧ 0 < timeoutMs ∧ c.waitEnd = .timer)) :
    ¬ TimedOut timeoutMs (c.schedule fds timeoutMs last (shortest timeoutMs c.waitEnd)) := by
  rintro ⟨hpos, hover⟩
  simp only [Course.schedule, shortest] at hover
  by_cases hwaits : c.waits fds timeoutMs = true
  · have htimer : c.waitEnd ≠ .timer := fun h => hend ⟨hwaits, by omega, h⟩
    rw [if_pos hwaits, if_neg htimer] at hover
    omega
  · rw [if_neg hwaits] at hover
    omega

/-- **When zero means a timeout.**  Whatever the last snapshot of a call of `PollCore` finds and
however long the call takes, a result of `0` means that its timeout is not negative and over, if
and only if the course of the call is one that keeps the time. -/
theorem zero_only_on_timeout_iff (fds : List PollFd) (timeoutMs : ℤ) (c : Course) :
    (∀ last spans, (pollCore fds timeoutMs (c.schedule fds timeoutMs last spans)).1 = 0 →
        TimedOut timeoutMs (c.schedule fds timeoutMs last spans)) ↔
      c.KeepsTime fds timeoutMs := by
  by_cases htimeout : timeoutMs = 0
  · exact iff_of_true (fun _ _ _ => ⟨by omega, by omega⟩) (.inl htimeout)
  cases hfirst : c.first with
  | none =>
    refine iff_of_true (fun last spans hzero => ?_) (.inr (.inl (reports_of_none hfirst)))
    simp [pollCore, Course.schedule, hfirst] at hzero
  | some k =>
    by_cases hready : 0 < readyCount (nativePoll k fds)
    · refine iff_of_true (fun last spans hzero => ?_)
        (.inr (.inl ((reports_iff hfirst).mpr hready)))
      simp only [pollCore, Course.schedule, hfirst, if_pos (Or.inl hready)] at hzero
      omega
    have hquiet : readyCount (nativePoll k fds) = 0 := by omega
    by_cases hfails : c.FailsLater fds timeoutMs
    · refine iff_of_true (fun last spans hzero => ?_) (.inr (.inr ?_))
      · rw [pollCore_of_failsLater hfirst hquiet htimeout hfails] at hzero
        cases hzero
      · refine hfails.imp id fun ⟨hwaits, hret⟩ => ⟨hwaits, ?_⟩
        by_contra hnot
        rw [not_or, not_or] at hnot
        exact hret (yieldRet_eq_zero_iff.mpr ⟨hnot.1, hnot.2.1⟩)
    · constructor
      · -- the last snapshot finds what the first one found, and no time has passed
        intro h
        by_contra hnot
        have hzero := pollCore_of_not_failsLater k (shortest timeoutMs c.waitEnd) hfirst hquiet
          htimeout hfails
        rw [hquiet] at hzero
        refine not_timedOut_shortest htimeout (fun hend => hnot ?_) (h _ _ hzero)
        exact .inr (.inr (.inr ⟨hend.1, .inr (.inr hend.2)⟩))
      · rintro (h0 | hrep | hno | ⟨hwaits, hcancel | hfail | ⟨hpos, hend⟩⟩) last spans -
        · exact absurd h0 htimeout
        · exact absurd ((reports_iff hfirst).mp hrep) hready
        · exact absurd (.inl hno) hfails
        · exact absurd (.inr ⟨hwaits, by rw [hcancel]; decide⟩) hfails
        · exact absurd (.inr ⟨hwaits, by rw [hfail]; decide⟩) hfails
        · exact timedOut_of_timer hwaits hpos hend

/-- Nothing is ready at any time. -/
def quiet (waitEnd : WaitEnd) : Course where
  first := some fun _ => none
  adding := fun _ => none
  waitEnd := waitEnd

/-- An array of which every entry is ignored: `poll` would sleep for the whole second, and the
emulation returns `0` at once. -/
theorem zero_before_timeout_ignored :
    ¬ ∀ last spans, (pollCore [{ fd := -1, events := pollIn }] 1000
        ((quiet .timer).schedule [{ fd := -1, events := pollIn }] 1000 last spans)).1 = 0 →
      TimedOut 1000
        ((quiet .timer).schedule [{ fd := -1, events := pollIn }] 1000 last spans) := by
  intro h
  obtain ⟨-, hlate⟩ := h (some fun _ => none) (shortest 1000 .timer) (by decide +kernel)
  revert hlate
  decide +kernel

end BbtCoroutine.Hook
