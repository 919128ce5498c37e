import BbtCoroutine.HookIo.Loop

/-!
# What a transfer on a blocking stream moves

A hook passes the whole buffer to the kernel in each round, while the descriptor is nonblocking.
The first answer that is not an error ends the call.  `wholly_iff` says that such a call moves a
prefix of its data and nothing twice, and when it moves the whole of it.
-/

namespace BbtCoroutine.HookIo

variable {α : Type*}

/-! ## Statement -/

/-- The transfers that wait for the whole of their data on a blocking descriptor. -/
inductive Whole
  | write
  | send
  /-- `recv` with `MSG_WAITALL`. -/
  | recvWaitAll
  deriving DecidableEq, Repr

/-- The transfer of a coroutine. -/
def Whole.transfer : Whole → Transfer
  | write => .write
  | send => .send false
  | recvWaitAll => .recv false

/-- The data that an answer of the kernel moves.  For a `write` or `send`, `want` is the buffer; for
a `recv`, it is what the stream has to give, up to the length of the buffer. -/
def Answer.moved (want : List α) : Answer → List α
  | .ok n => want.take n
  | .error _ => []

/-- The data that the first `calls` system calls move. -/
def moved (want : List α) (rounds : List Round) (calls : ℕ) : List α :=
  ((rounds.take calls).map fun r => r.answer.moved want).flatten

/-- The first answer that is not an error. -/
def firstOk (rounds : List Round) : Option ℕ :=
  rounds.findSome? fun r =>
    match r.answer with
    | .ok n => some n
    | .error _ => none

/-- The kernel takes or gives some data, if there are any, or none for now. -/
def Answer.Accepts (want : List α) : Answer → Prop
  | .ok n => n ≤ want.length ∧ (n = 0 → want = [])
  | .error e => e = .eagain

/-- A blocking stream without a timeout; there are no errors, no signals and no cancellation, and
nobody closes the descriptor. -/
structure Undisturbed (want : List α) (fd : Fd) : Prop where
  getFl : fd.getFl = .ok false
  setFl : fd.setFl = none
  timeout : ∀ tv, fd.timeout = some tv → tv.sec = 0 ∧ tv.usec = 0
  accepts : ∀ r ∈ fd.rounds, r.answer.Accepts want
  ready : ∀ r ∈ fd.rounds, r.wake.ready = true

/-- The call returns only when all data have been moved. -/
def Wholly (want : List α) (fd : Fd) (r : Run) : Prop :=
  r.outcome = .running ∨ (r.outcome = .returned want.length ∧ moved want fd.rounds r.calls = want)

/-! ## The loop -/

section Loop

variable {retryable : Errno → Bool} {iot : IoTimeout} {want : List α}

/-- Without calls nothing has been moved. -/
lemma moved_nil (rounds : List Round) : moved want rounds 0 = [] := rfl

/-- What the first call moves comes before what the others move. -/
lemma moved_cons (r : Round) (rs : List Round) (calls : ℕ) :
    moved want (r :: rs) (calls + 1) = r.answer.moved want ++ moved want rs calls := rfl

/-- The first call may be the first that succeeds. -/
lemma firstOk_of_ok {r : Round} {rs : List Round} {n : ℕ} (h : r.answer = .ok n) :
    firstOk (r :: rs) = some n := by
  rw [firstOk, List.findSome?_cons, h]

/-- A call that fails is not the first that succeeds. -/
lemma firstOk_of_error {r : Round} {rs : List Round} {e : Errno} (h : r.answer = .error e) :
    firstOk (r :: rs) = firstOk rs := by
  rw [firstOk, List.findSome?_cons, h]
  rfl

/-- The loop goes on to the first answer that is not an error. -/
lemma retry_undisturbed (hms : iot.ms ≤ 0) (hagain : retryable .eagain = true) {rs : List Round}
    (haccepts : ∀ r ∈ rs, r.answer.Accepts want) (hready : ∀ r ∈ rs, r.wake.ready = true) :
    (retry retryable true iot rs).outcome = (firstOk rs).elim .running .returned ∧
      moved want rs (retry retryable true iot rs).calls =
        (firstOk rs).elim [] fun n => want.take n := by
  induction rs with
  | nil => exact ⟨rfl, rfl⟩
  | cons r rs ih =>
    have hfirst := haccepts r List.mem_cons_self
    have hwoken := hready r List.mem_cons_self
    obtain ⟨houtcome, hmoved⟩ := ih (fun r' hr' => haccepts r' (List.mem_cons_of_mem r hr'))
      fun r' hr' => hready r' (List.mem_cons_of_mem r hr')
    have hturn := turn_retry retryable iot r rs
    generalize retry retryable true iot (r :: rs) = run at hturn ⊢
    cases hturn with
    | @ok n h =>
      rw [firstOk_of_ok h]
      refine ⟨rfl, ?_⟩
      change moved want (r :: rs) (0 + 1) = _
      rw [moved_cons, moved_nil, h, List.append_nil]
      rfl
    | @final e h hfinal =>
      rw [h] at hfirst
      rw [hfirst, hagain] at hfinal
      cases hfinal
    | expired h hretry hwait =>
      rw [IoTimeout.waitFor, if_pos hms] at hwait
      cases hwait
    | @ready e w h hretry hwait hk =>
      rw [firstOk_of_error h]
      refine ⟨houtcome, ?_⟩
      change moved want (r :: rs) ((retry retryable true iot rs).calls + 1) = _
      rw [moved_cons, h, hmoved]
      rfl
    | lost h hretry hwait hk =>
      rw [hk] at hwoken
      cases hwoken

end Loop

/-! ## The transfers -/

/-- An undisturbed descriptor has no timeout. -/
lemma ioTimeout_of_undisturbed {want : List α} {fd : Fd} (h : Undisturbed want fd) :
    ioTimeout fd = some ⟨0, fd.start⟩ := by
  unfold ioTimeout
  split
  · rfl
  · next tv htv =>
    obtain ⟨hsec, husec⟩ := h.timeout tv htv
    rw [if_neg (by omega)]

/-- On an undisturbed descriptor the hook retries until the call succeeds. -/
lemma hookIo_of_undisturbed {want : List α} {fd : Fd} (retryable : Errno → Bool)
    (h : Undisturbed want fd) :
    hookIo retryable true fd = retry retryable true ⟨0, fd.start⟩ fd.rounds := by
  have hguard : coIoNonblockGuard fd = none := by
    unfold coIoNonblockGuard
    rw [h.getFl]
    exact h.setFl
  rw [hookIo, hguard, ioTimeout_of_undisturbed h]

/-- A call that would block is retried. -/
lemma retryable_eagain (op : Transfer) : op.retryable .eagain = true := by
  cases op with
  | read => rfl
  | write => rfl
  | recv dontwait => rfl
  | send dontwait => rfl

/-- A transfer on a blocking stream moves a prefix of its data, once; it moves the whole if and
only if the first answer of the kernel does. -/
theorem wholly_iff (op : Whole) {want : List α} {fd : Fd} (h : Undisturbed want fd) :
    moved want fd.rounds (op.transfer.hook true fd).calls <+: want ∧
      (Wholly want fd (op.transfer.hook true fd) ↔
        ∀ n, firstOk fd.rounds = some n → n = want.length) := by
  have hwait : op.transfer.dontwait = false := by
    cases op with
    | write => rfl
    | send => rfl
    | recvWaitAll => rfl
  rw [hook_of_wait hwait, hookIo_of_undisturbed _ h]
  have hms : (⟨0, fd.start⟩ : IoTimeout).ms ≤ 0 := le_refl _
  obtain ⟨houtcome, hmoved⟩ :=
    retry_undisturbed hms (retryable_eagain op.transfer) h.accepts h.ready
  unfold Wholly
  rw [houtcome, hmoved]
  cases hfirst : firstOk fd.rounds with
  | none => exact ⟨List.nil_prefix, by rintro - n ⟨⟩, fun _ => .inl rfl⟩
  | some n =>
    refine ⟨List.take_prefix n want, ?_, ?_⟩
    · rintro (hrun | ⟨hreturned, -⟩) n' ⟨⟩
      · cases hrun
      · exact (Outcome.returned.inj hreturned)
    · intro hall
      rw [hall n rfl]
      exact .inr ⟨rfl, List.take_length⟩

/-- The kernel takes two bytes and then one. -/
def twoThenOne : Fd where
  rounds := [⟨.error .eagain, 0, {}⟩, ⟨.ok 2, 0, {}⟩, ⟨.ok 1, 0, {}⟩]

/-- The run of two bytes and one more is undisturbed. -/
lemma undisturbed_twoThenOne {want : List α} (h : 2 ≤ want.length) :
    Undisturbed want twoThenOne where
  getFl := rfl
  setFl := rfl
  timeout := by rintro tv ⟨⟩
  accepts := by
    intro r hr
    rcases List.mem_cons.mp hr with rfl | hr
    · rfl
    · rcases List.mem_cons.mp hr with rfl | hr
      · exact ⟨h, by rintro ⟨⟩⟩
      · rw [List.mem_singleton.mp hr]
        exact ⟨by omega, by rintro ⟨⟩⟩
  ready := by decide

/-- A `write` of two bytes. -/
theorem wholly_iff_two :
    Wholly ['a', 'b'] twoThenOne (Whole.write.transfer.hook true twoThenOne) :=
  (wholly_iff .write (undisturbed_twoThenOne (by decide))).2.mpr (by rintro n ⟨⟩; rfl)

/-- A `write` of three bytes returns with the last one left. -/
theorem not_wholly_three :
    Undisturbed ['a', 'b', 'c'] twoThenOne ∧
      Whole.write.transfer.hook true twoThenOne = ⟨.returned 2, [.endless], 2⟩ ∧
      ¬ Wholly ['a', 'b', 'c'] twoThenOne (Whole.write.transfer.hook true twoThenOne) := by
  have hrun : Whole.write.transfer.hook true twoThenOne = ⟨.returned 2, [.endless], 2⟩ := by
    decide
  refine ⟨undisturbed_twoThenOne (by decide), hrun, ?_⟩
  rw [hrun]
  rintro (hrunning | ⟨hreturned, -⟩)
  · cases hrunning
  · exact absurd (Outcome.returned.inj hreturned) (by decide)

end BbtCoroutine.HookIo
