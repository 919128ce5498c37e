import BbtCoroutine.BoundedWait.Model

/-!
# How long the hooked sleeps wait

`sleep`, `usleep`, `nanosleep`, `clock_nanosleep`, `select` and `pselect` convert the time that is
asked for to milliseconds of type `int`.  The conversions have the widths of the source: unsigned
arithmetic is modulo `2 ^ 32`, a conversion to `int` too, and an overflow of signed arithmetic is
undefined.

`honoured_iff` says which requests are honoured.  The conversions round up, but none of them
checks that the number of milliseconds is one.
-/

namespace BbtCoroutine.Hook

open BoundedWait (intMax toInt toInt_of_le)

/-! ## Arithmetic -/

/-- The conversion to an `unsigned int`. -/
def toUnsigned (n : ℕ) : ℕ := n % 2 ^ 32

/-- The result of an operation on `int`, if it is defined. -/
def int32 (n : ℤ) : Option ℤ :=
  if -2 ^ 31 ≤ n ∧ n < 2 ^ 31 then some n else none

/-- The result of an operation on `long long`, if it is defined. -/
def int64 (n : ℤ) : Option ℤ :=
  if -2 ^ 63 ≤ n ∧ n < 2 ^ 63 then some n else none

/-! ## The waits -/

/-- What a call does that has nothing else to wait for. -/
inductive Pause
  /-- The original function is called. -/
  | native
  | returns (r : ℤ)
  /-- The wait is refused. -/
  | fails
  /-- The wait has no timer. -/
  | endless
  | timed (ms : ℤ)
  /-- The conversion is undefined. -/
  | undefined
  deriving DecidableEq, Repr

/-- A wait with a timeout: `InitFdEvent` refuses a negative one, and `StartListen` starts a timer
only for a positive one. -/
def yieldUntil (ms : ℤ) : Pause :=
  if ms < 0 then .fails else if ms = 0 then .endless else .timed ms

/-- A wait whose timeout may be undefined. -/
def pauseFor (f : ℤ → Pause) : Option ℤ → Pause
  | none => .undefined
  | some ms => f ms

/-! ## The sleeps -/

/-- `timespec`. -/
structure Timespec where
  sec : ℤ
  nsec : ℤ
  deriving DecidableEq, Repr

/-- `timeval`. -/
structure Timeval where
  sec : ℤ
  usec : ℤ
  deriving DecidableEq, Repr

/-- `Hook_Sleep`. -/
def hookSleep (ms : ℤ) : Pause :=
  if ms ≤ 0 then .returns (-1) else yieldUntil ms

/-- `sleep`. -/
def sleep (sec : ℕ) : Pause :=
  hookSleep (toInt (toUnsigned (sec * 1000)))

/-- `Hook_USleep`. -/
def hookUSleep (usec : ℕ) : Pause :=
  if usec = 0 then .returns 0 else yieldUntil (toInt (toUnsigned (usec + 999) / 1000 : ℕ))

/-- The milliseconds of a relative time. -/
def relativeMs (req : Timespec) : Option ℤ := do
  let ms ← int64 (req.sec * 1000)
  int64 (ms + (req.nsec + 999999).tdiv 1000000)

/-- A sleep of a number of milliseconds of type `long long`. -/
def sleepMs (ms : ℤ) : Pause :=
  if ms ≤ 0 then .returns 0 else yieldUntil (toInt ms)

/-- `Hook_Nanosleep`. -/
def hookNanosleep (req : Timespec) : Pause :=
  pauseFor sleepMs (relativeMs req)

/-- `clockid_t`. -/
inductive ClockId
  | monotonic
  | realtime
  | other
  deriving DecidableEq, Repr

/-- The nanoseconds that remain to an absolute time. -/
def remainNs (req now : Timespec) : Option ℤ := do
  let sec ← int64 (req.sec - now.sec)
  let ns ← int64 (sec * 1000000000)
  int64 (ns + (req.nsec - now.nsec))

/-- A sleep until an absolute time that is `ns` nanoseconds away. -/
def sleepNs (ns : ℤ) : Pause :=
  if ns ≤ 0 then .returns 0
  else pauseFor (fun n => yieldUntil (toInt (n.tdiv 1000000))) (int64 (ns + 999999))

/-- `Hook_ClockNanosleep`; `now` is what `clock_gettime` says. -/
def hookClockNanosleep (clock : ClockId) (abstime : Bool) (req now : Timespec) : Pause :=
  if clock = .other then .native
  else if abstime then pauseFor sleepNs (remainNs req now)
  else pauseFor sleepMs (relativeMs req)

/-! ## `select` and `pselect` -/

/-- The wait of `PollCore` when nothing is ready; `empty` says that it has no descriptor, and
`epoll` accepts one of those that it has. -/
def pollPause (empty : Bool) (timeoutMs : ℤ) : Pause :=
  if timeoutMs = 0 then .returns 0
  else if empty then if 0 < timeoutMs then yieldUntil timeoutMs else .returns 0
  else if timeoutMs < 0 then .endless
  else yieldUntil timeoutMs

/-- `Hook_Select`. -/
def hookSelect (empty : Bool) (timeout : Timeval) : Pause :=
  pauseFor (pollPause empty) do
    let ms ← int32 (toInt timeout.sec * 1000)
    let usec ← int64 (timeout.usec + 999)
    int32 (ms + toInt (usec.tdiv 1000))

/-- `Hook_PSelect`. -/
def hookPSelect (empty : Bool) (timeout : Timespec) : Pause :=
  pauseFor (pollPause empty) do
    let ms ← int32 (toInt timeout.sec * 1000)
    let nsec ← int64 (timeout.nsec + 999999)
    int32 (ms + toInt (nsec.tdiv 1000000))

/-! ## Statement -/

/-- A call with a time. -/
inductive Call
  | sleep (sec : ℕ)
  | usleep (usec : ℕ)
  | nanosleep (req : Timespec)
  | clockNanosleep (clock : ClockId) (abstime : Bool) (req now : Timespec)
  | select (empty : Bool) (timeout : Timeval)
  | pselect (empty : Bool) (timeout : Timespec)
  deriving DecidableEq, Repr

/-- What the call does. -/
def Call.pause : Call → Pause
  | .sleep sec => Hook.sleep sec
  | .usleep usec => hookUSleep usec
  | .nanosleep req => hookNanosleep req
  | .clockNanosleep clock abstime req now => hookClockNanosleep clock abstime req now
  | .select empty timeout => hookSelect empty timeout
  | .pselect empty timeout => hookPSelect empty timeout

/-- A time that the native calls accept. -/
def Timespec.Legal (t : Timespec) : Prop :=
  (0 ≤ t.sec ∧ t.sec < 2 ^ 63) ∧ 0 ≤ t.nsec ∧ t.nsec < 1000000000

/-- A time that the native `select` accepts. -/
def Timeval.Legal (t : Timeval) : Prop :=
  (0 ≤ t.sec ∧ t.sec < 2 ^ 63) ∧ 0 ≤ t.usec ∧ t.usec < 2 ^ 63

/-- The arguments are such that the native call accepts them. -/
def Call.Legal : Call → Prop
  | .sleep sec => sec < 2 ^ 32
  | .usleep usec => usec < 2 ^ 32
  | .nanosleep req => req.Legal
  | .clockNanosleep _ _ req now => req.Legal ∧ now.Legal
  | .select _ timeout => timeout.Legal
  | .pselect _ timeout => timeout.Legal

/-- The nanoseconds of a time. -/
def Timespec.ns (t : Timespec) : ℤ := t.sec * 1000000000 + t.nsec

/-- The nanoseconds that the call asks for. -/
def Call.duration : Call → ℤ
  | .sleep sec => sec * 1000000000
  | .usleep usec => usec * 1000
  | .nanosleep req => req.ns
  | .clockNanosleep _ abstime req now => if abstime then max 0 (req.ns - now.ns) else req.ns
  | .select _ timeout => timeout.sec * 1000000000 + timeout.usec * 1000
  | .pselect _ timeout => timeout.ns

/-- A wait of `d` nanoseconds: it neither fails nor ends too early nor has no end. -/
def Pause.Honours (d : ℤ) : Pause → Prop
  | .native => True
  | .returns r => d = 0 ∧ r = 0
  | .timed ms => d ≤ ms * 1000000
  | .fails | .endless | .undefined => False

/-- The call waits for the time that it is asked for. -/
def Call.Honoured (c : Call) : Prop :=
  c.pause.Honours c.duration

/-- An absolute time that is at most `INT_MAX` milliseconds away, and whose distance in nanoseconds
is a `long long` also when it has passed. -/
def FitsUntil (req now : Timespec) : Prop :=
  (-2 ^ 63 ≤ (req.sec - now.sec) * 1000000000 ∧ -2 ^ 63 ≤ req.ns - now.ns) ∧
    req.ns - now.ns ≤ intMax * 1000000

/-- The time is one of at most `INT_MAX` milliseconds; the hook of `sleep` refuses `0`, and that of
`usleep` rounds up without an overflow. -/
def Call.Fits : Call → Prop
  | .sleep sec => 0 < sec ∧ (Call.sleep sec).duration ≤ intMax * 1000000
  | .usleep usec => usec + 999 < 2 ^ 32
  | .clockNanosleep .other _ _ _ => True
  | .clockNanosleep _ true req now => FitsUntil req now
  | c => c.duration ≤ intMax * 1000000

/-! ## Conversions -/

section Conversions

variable {n d ms : ℤ}

/-- A value cast to `int` is at most the largest one. -/
lemma toInt_le (n : ℤ) : toInt n ≤ intMax := by
  have hlt := Int.bmod_lt (x := n) (m := 2 ^ 32) (by decide)
  unfold toInt intMax
  omega

/-- A value that was checked to fit is at most the largest `int`. -/
lemma int32_eq_some {m : ℤ} (h : int32 n = some m) : m ≤ intMax := by
  unfold int32 at h
  unfold intMax
  split at h
  · cases h
    omega
  · cases h

/-- A value in the range of `int` fits. -/
lemma int32_of_le (h0 : 0 ≤ n) (hn : n ≤ intMax) : int32 n = some n := by
  unfold intMax at hn
  exact if_pos (by omega)

/-- A value in the range of a 64-bit integer fits. -/
lemma int64_of_lt (h0 : 0 ≤ n) (hn : n < 2 ^ 63) : int64 n = some n :=
  if_pos ⟨by omega, hn⟩

/-- A yield honours a duration if its milliseconds do and are positive. -/
lemma honours_yieldUntil : (yieldUntil ms).Honours d ↔ 0 < ms ∧ d ≤ ms * 1000000 := by
  unfold yieldUntil
  split_ifs with hneg hzero
  · exact ⟨False.elim, fun h => absurd h.1 (by omega)⟩
  · exact ⟨False.elim, fun h => absurd h.1 (by omega)⟩
  · exact ⟨fun h => ⟨by omega, h⟩, And.right⟩

/-- A timer of an `int` is too short for more. -/
lemma le_of_honours_yieldUntil (hms : ms ≤ intMax) (h : (yieldUntil ms).Honours d) :
    d ≤ intMax * 1000000 :=
  (honours_yieldUntil.mp h).2.trans (by omega)

end Conversions

/-! ## The calls, one by one -/

section Calls

/-- A hooked sleep honours a duration if its milliseconds do and are positive. -/
lemma honours_hookSleep {d ms : ℤ} :
    (hookSleep ms).Honours d ↔ 0 < ms ∧ d ≤ ms * 1000000 := by
  unfold hookSleep
  split
  · next hle =>
    exact ⟨fun h => absurd h.2 (by decide), fun h => absurd h.1 (by omega)⟩
  · exact honours_yieldUntil

/-- When `sleep` is honoured. -/
lemma honoured_sleep (sec : ℕ) : (Call.sleep sec).Honoured ↔ (Call.sleep sec).Fits := by
  change (hookSleep (toInt (toUnsigned (sec * 1000)))).Honours (sec * 1000000000) ↔
    0 < sec ∧ (sec * 1000000000 : ℤ) ≤ intMax * 1000000
  rw [honours_hookSleep]
  constructor
  · rintro ⟨hpos, hle⟩
    have hint := toInt_le (toUnsigned (sec * 1000))
    refine ⟨Nat.pos_of_ne_zero ?_, by omega⟩
    rintro rfl
    exact absurd hpos (by decide)
  · rintro ⟨hpos, hle⟩
    unfold intMax at hle
    have hmod : toUnsigned (sec * 1000) = sec * 1000 := Nat.mod_eq_of_lt (by omega)
    rw [hmod, toInt_of_le (Int.natCast_nonneg _) (by unfold intMax; omega)]
    omega

/-- When `usleep` is honoured. -/
lemma honoured_usleep {usec : ℕ} (h : usec < 2 ^ 32) :
    (Call.usleep usec).Honoured ↔ (Call.usleep usec).Fits := by
  change (hookUSleep usec).Honours (usec * 1000) ↔ usec + 999 < 2 ^ 32
  unfold hookUSleep toUnsigned
  split
  · next hzero =>
    subst hzero
    exact ⟨fun _ => by decide, fun _ => ⟨rfl, rfl⟩⟩
  · next hzero =>
    have hlt : ((usec + 999) % 2 ^ 32 / 1000 : ℕ) ≤ (intMax : ℤ) := by
      unfold intMax
      omega
    rw [toInt_of_le (Int.natCast_nonneg _) hlt, honours_yieldUntil]
    constructor
    · rintro ⟨hpos, -⟩
      omega
    · intro hfits
      rw [Nat.mod_eq_of_lt hfits]
      omega

/-- The milliseconds of a relative time, rounded up. -/
lemma relativeMs_of_le {req : Timespec} (h : req.Legal) (hle : req.ns ≤ intMax * 1000000) :
    relativeMs req = some (req.sec * 1000 + (req.nsec + 999999) / 1000000) := by
  obtain ⟨⟨hsec, -⟩, hnsec, hlt⟩ := h
  unfold Timespec.ns intMax at hle
  rw [relativeMs, int64_of_lt (by omega) (by omega), Int.tdiv_eq_ediv_of_nonneg (by omega)]
  exact int64_of_lt (by omega) (by omega)

/-- A sleep of milliseconds that fit. -/
lemma honours_sleepMs {d ms : ℤ} (hd : d ≤ ms * 1000000) (hms : ms ≤ intMax)
    (hzero : ms ≤ 0 → d = 0) : (sleepMs ms).Honours d := by
  unfold sleepMs
  split
  · next hle => exact ⟨hzero hle, rfl⟩
  · next hpos =>
    rw [toInt_of_le (by omega) hms]
    exact honours_yieldUntil.mpr ⟨by omega, hd⟩

/-- A pause in milliseconds honours no more than the largest `int`. -/
lemma le_of_honours_sleepMs {d ms : ℤ} (h : (sleepMs ms).Honours d) : d ≤ intMax * 1000000 := by
  unfold sleepMs at h
  split at h
  · rw [h.1]
    decide
  · exact le_of_honours_yieldUntil (toInt_le _) h

/-- When a relative pause is honoured. -/
lemma honours_relative {req : Timespec} (h : req.Legal) :
    (pauseFor sleepMs (relativeMs req)).Honours req.ns ↔ req.ns ≤ intMax * 1000000 := by
  constructor
  · intro hhon
    cases hms : relativeMs req with
    | none =>
      rw [hms] at hhon
      exact hhon.elim
    | some ms =>
      rw [hms] at hhon
      exact le_of_honours_sleepMs hhon
  · intro hle
    rw [relativeMs_of_le h hle]
    obtain ⟨⟨hsec, -⟩, hnsec, hlt⟩ := h
    unfold Timespec.ns at hle ⊢
    refine honours_sleepMs ?_ ?_ ?_
    · omega
    · unfold intMax at hle ⊢
      omega
    · omega

/-- A value that fits 64 bits is the value itself. -/
lemma int64_eq_some {n m : ℤ} (h : int64 n = some m) : m = n ∧ -2 ^ 63 ≤ n := by
  unfold int64 at h
  split at h
  · next hn =>
    cases h
    exact ⟨rfl, hn.1⟩
  · cases h

/-- The rest of an absolute pause is the difference of the two times. -/
lemma remainNs_eq_some {req now : Timespec} {n : ℤ} (h : remainNs req now = some n) :
    n = req.ns - now.ns ∧ -2 ^ 63 ≤ (req.sec - now.sec) * 1000000000 ∧ -2 ^ 63 ≤ n := by
  obtain ⟨sec, hsec, h⟩ := Option.bind_eq_some_iff.mp h
  obtain ⟨ns, hns, h⟩ := Option.bind_eq_some_iff.mp h
  obtain ⟨rfl, -⟩ := int64_eq_some hsec
  obtain ⟨rfl, hmul⟩ := int64_eq_some hns
  obtain ⟨rfl, hadd⟩ := int64_eq_some h
  refine ⟨?_, hmul, hadd⟩
  unfold Timespec.ns
  omega

/-- The rest of an absolute pause that fits is computed. -/
lemma remainNs_of_fits {req now : Timespec} (h : req.Legal) (hnow : now.Legal)
    (hfits : FitsUntil req now) : remainNs req now = some (req.ns - now.ns) := by
  obtain ⟨⟨hsec, hsec'⟩, hnsec, hlt⟩ := h
  obtain ⟨⟨hnow, hnow'⟩, hnow_nsec, hnow_lt⟩ := hnow
  obtain ⟨⟨hmul, hadd⟩, hle⟩ := hfits
  unfold intMax Timespec.ns at hle
  unfold Timespec.ns at hadd ⊢
  have hsec_sub : int64 (req.sec - now.sec) = some (req.sec - now.sec) := if_pos (by omega)
  have hsec_mul : int64 ((req.sec - now.sec) * 1000000000) =
      some ((req.sec - now.sec) * 1000000000) := if_pos (by omega)
  have hsum : (req.sec - now.sec) * 1000000000 + (req.nsec - now.nsec) =
      req.sec * 1000000000 + req.nsec - (now.sec * 1000000000 + now.nsec) := by omega
  rw [remainNs, hsec_sub, Option.bind_eq_bind, Option.bind_some, hsec_mul, Option.bind_some, hsum]
  exact if_pos (by omega)

/-- A sleep of at most `INT_MAX` milliseconds, given in nanoseconds. -/
lemma honours_sleepNs {ns : ℤ} (hle : ns ≤ intMax * 1000000) :
    (sleepNs ns).Honours (max 0 ns) := by
  unfold sleepNs
  unfold intMax at hle
  split
  · next hneg => exact ⟨max_eq_left hneg, rfl⟩
  · next hpos =>
    rw [max_eq_right (by omega), int64_of_lt (by omega) (by omega)]
    change (yieldUntil (toInt _)).Honours _
    rw [Int.tdiv_eq_ediv_of_nonneg (by omega), toInt_of_le (by omega) (by unfold intMax; omega)]
    exact honours_yieldUntil.mpr ⟨by omega, by omega⟩

/-- A pause in nanoseconds honours no more than the largest `int` of milliseconds. -/
lemma le_of_honours_sleepNs {ns : ℤ} (h : (sleepNs ns).Honours (max 0 ns)) :
    ns ≤ intMax * 1000000 := by
  unfold sleepNs at h
  split at h
  · next hle => exact hle.trans (by decide)
  · cases hms : int64 (ns + 999999) with
    | none =>
      rw [hms] at h
      exact h.elim
    | some ms =>
      rw [hms] at h
      exact (le_max_right _ _).trans (le_of_honours_yieldUntil (toInt_le _) h)

/-- A sleep until an absolute time. -/
lemma honours_absolute {req now : Timespec} (h : req.Legal) (hnow : now.Legal) :
    (pauseFor sleepNs (remainNs req now)).Honours (max 0 (req.ns - now.ns)) ↔
      FitsUntil req now := by
  constructor
  · intro hhon
    cases hns : remainNs req now with
    | none =>
      rw [hns] at hhon
      exact hhon.elim
    | some ns =>
      rw [hns] at hhon
      obtain ⟨rfl, hmul, hadd⟩ := remainNs_eq_some hns
      exact ⟨⟨hmul, hadd⟩, le_of_honours_sleepNs hhon⟩
  · intro hfits
    rw [remainNs_of_fits h hnow hfits]
    exact honours_sleepNs hfits.2

/-- A `select` or `pselect` whose milliseconds fit. -/
lemma honours_pollPause {empty : Bool} {d ms : ℤ} (hd : d ≤ ms * 1000000) (h0 : 0 ≤ ms)
    (hzero : ms = 0 → d = 0) : (pollPause empty ms).Honours d := by
  unfold pollPause
  split_ifs with hms hempty hpos hneg
  · exact ⟨hzero hms, rfl⟩
  · exact honours_yieldUntil.mpr ⟨hpos, hd⟩
  · omega
  · omega
  · exact honours_yieldUntil.mpr ⟨by omega, hd⟩

/-- The pause of `poll` honours no more than the largest `int` of milliseconds. -/
lemma le_of_honours_pollPause {empty : Bool} {d ms : ℤ} (hms : ms ≤ intMax)
    (h : (pollPause empty ms).Honours d) : d ≤ intMax * 1000000 := by
  unfold pollPause at h
  split_ifs at h
  · rw [h.1]
    decide
  · exact le_of_honours_yieldUntil hms h
  · rw [h.1]
    decide
  · exact h.elim
  · exact le_of_honours_yieldUntil hms h

/-- A `select` or `pselect` of `sec` seconds and `b` milliseconds. -/
lemma honours_selectMs {empty : Bool} {d sec b : ℤ} {ms : Option ℤ}
    (hms : ∀ m, ms = some m → m ≤ intMax)
    (hsome : d ≤ intMax * 1000000 → ms = some (sec * 1000 + b))
    (hsum : d ≤ (sec * 1000 + b) * 1000000) (h0 : 0 ≤ sec * 1000 + b)
    (hzero : sec * 1000 + b = 0 → d = 0) :
    (pauseFor (pollPause empty) ms).Honours d ↔ d ≤ intMax * 1000000 := by
  constructor
  · intro hhon
    cases h : ms with
    | none =>
      rw [h] at hhon
      exact hhon.elim
    | some m =>
      rw [h] at hhon
      exact le_of_honours_pollPause (hms m h) hhon
  · intro hle
    rw [hsome hle]
    exact honours_pollPause hsum h0 hzero

/-- When `clock_nanosleep` is honoured. -/
lemma honoured_clockNanosleep {clock : ClockId} {abstime : Bool} {req now : Timespec}
    (h : req.Legal) (hnow : now.Legal) :
    (Call.clockNanosleep clock abstime req now).Honoured ↔
      (Call.clockNanosleep clock abstime req now).Fits := by
  cases clock with
  | other => exact ⟨fun _ => trivial, fun _ => trivial⟩
  | monotonic =>
    cases abstime with
    | false => exact honours_relative h
    | true => exact honours_absolute h hnow
  | realtime =>
    cases abstime with
    | false => exact honours_relative h
    | true => exact honours_absolute h hnow

/-- A sum of milliseconds is an `int` only if it is at most `INT_MAX`. -/
lemma le_of_selectMs {sec : ℤ} {part : Option ℤ} {u m : ℤ}
    (h : (do
      let ms ← int32 (toInt sec * 1000)
      let n ← part
      int32 (ms + toInt (n.tdiv u))) = some m) : m ≤ intMax := by
  obtain ⟨ms, -, h⟩ := Option.bind_eq_some_iff.mp h
  obtain ⟨n, -, h⟩ := Option.bind_eq_some_iff.mp h
  exact int32_eq_some h

/-- A sum of milliseconds that fits. -/
lemma selectMs_of_le {sec n u : ℤ} (hsec : 0 ≤ sec) (hn : 0 ≤ n) (hlt : n < 2 ^ 63) (hu : 0 < u)
    (hle : sec * 1000 + n / u ≤ intMax) :
    (do
      let ms ← int32 (toInt sec * 1000)
      let n ← int64 n
      int32 (ms + toInt (n.tdiv u))) = some (sec * 1000 + n / u) := by
  have hdiv : 0 ≤ n / u := Int.ediv_nonneg hn hu.le
  rw [toInt_of_le hsec (by omega), int32_of_le (by omega) (by omega), int64_of_lt hn hlt,
    Option.bind_eq_bind, Option.bind_some, Option.bind_some, Int.tdiv_eq_ediv_of_nonneg hn,
    toInt_of_le hdiv (by omega)]
  exact int32_of_le (by omega) (by omega)

/-- When `pselect` is honoured. -/
lemma honoured_pselect {empty : Bool} {timeout : Timespec} (h : timeout.Legal) :
    (Call.pselect empty timeout).Honoured ↔ (Call.pselect empty timeout).Fits := by
  obtain ⟨⟨hsec, -⟩, hnsec, hlt⟩ := h
  change (hookPSelect empty timeout).Honours timeout.ns ↔ timeout.ns ≤ intMax * 1000000
  unfold hookPSelect Timespec.ns
  refine honours_selectMs (fun m hm => le_of_selectMs hm)
    (fun hle => selectMs_of_le hsec (by omega) (by omega) (by decide) ?_) ?_ ?_ ?_
  · unfold intMax at hle ⊢
    omega
  · omega
  · omega
  · omega

/-- When `select` is honoured. -/
lemma honoured_select {empty : Bool} {timeout : Timeval} (h : timeout.Legal) :
    (Call.select empty timeout).Honoured ↔ (Call.select empty timeout).Fits := by
  obtain ⟨⟨hsec, -⟩, husec, hlt⟩ := h
  change (hookSelect empty timeout).Honours (timeout.sec * 1000000000 + timeout.usec * 1000) ↔
    timeout.sec * 1000000000 + timeout.usec * 1000 ≤ intMax * 1000000
  unfold hookSelect
  refine honours_selectMs (fun m hm => le_of_selectMs hm)
    (fun hle => selectMs_of_le hsec (by omega) ?_ (by decide) ?_) ?_ ?_ ?_
  · unfold intMax at hle
    omega
  · unfold intMax at hle ⊢
    omega
  · omega
  · omega
  · omega

end Calls

/-! ## The requests that are honoured -/

/-- A call honours a legal request exactly if the time fits. -/
theorem honoured_iff (c : Call) (h : c.Legal) : c.Honoured ↔ c.Fits := by
  cases c with
  | sleep sec => exact honoured_sleep sec
  | usleep usec => exact honoured_usleep h
  | nanosleep req => exact honours_relative h
  | clockNanosleep clock abstime req now => exact honoured_clockNanosleep h.1 h.2
  | select empty timeout => exact honoured_select h
  | pselect empty timeout => exact honoured_pselect h

/-- A sleep of a millisecond and a nanosecond. -/
theorem honoured_iff_nanosleep :
    (Call.nanosleep ⟨0, 1000001⟩).pause = .timed 2 ∧
      ((Call.nanosleep ⟨0, 1000001⟩).Honoured ↔ (Call.nanosleep ⟨0, 1000001⟩).Fits) :=
  ⟨by decide, honoured_iff _ ⟨by decide, by decide⟩⟩

/-- A sleep of `2 ^ 32` milliseconds has no end. -/
theorem not_honoured_nanosleep :
    ∃ c : Call, c.Legal ∧ c.pause = .endless ∧ ¬ c.Honoured :=
  ⟨.nanosleep ⟨4294967, 296000000⟩, ⟨by decide, by decide⟩, by decide, fun h => h⟩

end BbtCoroutine.Hook
