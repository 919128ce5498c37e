import BbtCoroutine.HookIo.Loop

/-!
# Hooked calls of a thread without a current coroutine

An entry point looks at `EnableUseCo`, a flag of the thread that is set on each worker, also while
it runs code of a driver or of the scheduler.  The hooks of the sleeps, of `poll` and of the
resolver assert that there is a current coroutine, and those of the transfers, of `accept` and of
`connect` use it as soon as they have to wait.

`actsNative_iff` says which calls are native all the same.
-/

namespace BbtCoroutine.HookIo

/-! ## The entry points -/

/-- The entry points with a descriptor; `dontwait` is `MSG_DONTWAIT`, and `hasAccept4` says that
there is an original `accept4`. -/
inductive Io
  | connect
  | read
  | write
  | readv
  | writev
  | accept
  | accept4 (hasAccept4 : Bool)
  | send (dontwait : Bool)
  | sendto (dontwait : Bool)
  | sendmsg (dontwait : Bool)
  | recv (dontwait : Bool)
  | recvfrom (dontwait : Bool)
  | recvmsg (dontwait : Bool)
  deriving DecidableEq, Repr

/-- The entry points whose hooks begin with the assertion that there is a current coroutine. -/
inductive Asserting
  | sleep
  | usleep
  | nanosleep
  | clockNanosleep
  | poll
  | select
  | pselect
  | getaddrinfo
  | getnameinfo
  | gethostbyname
  | gethostbyaddr
  deriving DecidableEq, Repr

/-- The entry points, without `socket` and `close`. -/
inductive Call
  | io (op : Io)
  | asserting (op : Asserting)
  deriving DecidableEq, Repr

/-- The hook of an entry point with a descriptor. -/
def Io.hook : Io → Bool → Fd → Run
  | connect => hookConnect
  | read => hookRead
  | write => hookWrite
  | readv => hookReadv
  | writev => hookWritev
  | accept => hookAccept
  | accept4 hasAccept4 => hookAccept4 hasAccept4
  | send dontwait => hookSend dontwait
  | sendto dontwait => hookSendTo dontwait
  | sendmsg dontwait => hookSendMsg dontwait
  | recv dontwait => hookRecv dontwait
  | recvfrom dontwait => hookRecvFrom dontwait
  | recvmsg dontwait => hookRecvMsg dontwait

/-- What a call meets: its descriptor, with what the kernel answers while that is nonblocking, and
what the original function answers when it may block. -/
structure Site where
  fd : Fd
  first : Round
  rest : List Round
  rounds_eq : fd.rounds = first :: rest
  blocking : Answer

/-- The hook of a thread without a coroutine. -/
def Call.hook : Call → Site → Run
  | io op, site => op.hook false site.fd
  | asserting _, _ => { outcome := .asserts }

/-- What is done to a result by `accept4` without an original one. -/
def Answer.accepted (fl : Option Errno) : Answer → Answer
  | .ok n => fl.elim (.ok n) .error
  | .error e => .error e

/-- The call is marked not to wait. -/
def Io.dontwait : Io → Bool
  | send dontwait | sendto dontwait | sendmsg dontwait => dontwait
  | recv dontwait | recvfrom dontwait | recvmsg dontwait => dontwait
  | _ => false

/-- What the original function answers in the mode that the caller sees. -/
def Io.answer (op : Io) (site : Site) : Answer :=
  if op.dontwait ∨ site.fd.getFl = .ok true then site.first.answer else site.blocking

/-- What the call returns on a thread without coroutines. -/
def Call.native : Call → Site → Answer
  | io (.accept4 false), site => (Io.answer (.accept4 false) site).accepted site.fd.accept4Fl
  | io op, site => op.answer site
  | asserting _, site => site.blocking

/-- An entry point, on a thread without a current coroutine. -/
def Call.enter (c : Call) (enableUseCo : Bool) (site : Site) : Run :=
  if enableUseCo then c.hook site else .stop (c.native site).outcome

/-! ## Statement -/

/-- The result and the `errno` of a call that has returned. -/
def Outcome.answer : Outcome → Option Answer
  | .returned n => some (.ok n)
  | .failed e | .expired e _ => some (.error e)
  | _ => none

/-- The call returns what the native call returns, and it parks nothing. -/
def Call.ActsNative (c : Call) (enableUseCo : Bool) (site : Site) : Prop :=
  (c.enter enableUseCo site).outcome.answer = some (c.native site) ∧
    (c.enter enableUseCo site).waits = []

/-- The answer is one that a hook retries. -/
def Answer.retried (retryable : Errno → Bool) : Answer → Bool
  | .ok _ => false
  | .error e => retryable e

namespace Io

/-- The `errno`s that the hook retries. -/
def retryable : Io → Errno → Bool
  | connect => connectRetryable
  | read | readv | recv _ | recvfrom _ | recvmsg _ => readRetryable
  | _ => writeRetryable

/-- What the hook makes of an answer that it does not retry. -/
def finish (op : Io) (fd : Fd) (a : Answer) : Answer :=
  match op with
  | connect => if a = .error .eisconn then .ok 0 else
      match a with
      | .ok _ => .ok 0
      | .error e => .error e
  | accept | accept4 true => a.accepted fd.newFl
  | accept4 false => (a.accepted fd.newFl).accepted fd.accept4Fl
  | _ => a

/-- The timeout that the hook respects; that of `connect` has none. -/
def timeout (op : Io) (fd : Fd) : Option IoTimeout :=
  if op = connect then some ⟨0, fd.start⟩ else ioTimeout fd

/-- The first answer to the hook ends the call, with the native result: the descriptor cannot be
made nonblocking, the answer is not to be retried, or the time is over before the first wait. -/
def EndsAtOnce (op : Io) (site : Site) (native : Answer) : Prop :=
  match coIoNonblockGuard site.fd with
  | some e => native = .error e
  | none => ∃ iot, op.timeout site.fd = some iot ∧
      if site.first.answer.retried op.retryable then
        iot.waitFor site.first.now = none ∧ site.first.answer = native
      else op.finish site.fd site.first.answer = native

end Io

/-- The thread is no worker, the call is marked not to wait, or it ends at once. -/
def Call.NeedsNoCoroutine (c : Call) (enableUseCo : Bool) (site : Site) : Prop :=
  enableUseCo = false ∨
    match c with
    | .io op => op.dontwait = true ∨ op.EndsAtOnce site (c.native site)
    | .asserting _ => False

/-! ## The hooks without a coroutine -/

/-- An answer ends a run with itself. -/
lemma answer_outcome (a : Answer) : a.outcome.answer = some a := by
  cases a with
  | ok n => rfl
  | error e => rfl

/-- A run after its descriptor has been accepted. -/
lemma answer_accepted (fl : Option Errno) (r : Run) :
    (r.accepted fl).outcome.answer = r.outcome.answer.map (Answer.accepted fl) := by
  obtain ⟨outcome, waits, calls⟩ := r
  cases outcome with
  | returned n =>
    cases fl with
    | none => rfl
    | some e => rfl
  | failed e => rfl
  | expired e now => rfl
  | nullCo => rfl
  | asserts => rfl
  | undefined => rfl
  | running => rfl

/-- Accepting a descriptor does not wait. -/
lemma waits_accepted (fl : Option Errno) (r : Run) : (r.accepted fl).waits = r.waits := by
  unfold Run.accepted
  split
  · rfl
  · rfl

section Direct

variable {retryable : Errno → Bool} {iot : IoTimeout} {fin : Answer → Answer}

/-- The loop without a coroutine makes one call. -/
lemma retry_false {r : Round} {rs : List Round} (hfin : ∀ e, fin (.error e) = .error e)
    (a : Answer) :
    ((retry retryable false iot (r :: rs)).outcome.answer.map fin = some a ∧
        (retry retryable false iot (r :: rs)).waits = []) ↔
      if r.answer.retried retryable then iot.waitFor r.now = none ∧ r.answer = a
      else fin r.answer = a := by
  cases hanswer : r.answer with
  | ok n =>
    have hrun : retry retryable false iot (r :: rs) = .stop (.returned n) := by
      rw [retry, hanswer]
    rw [hrun, if_neg (by rintro ⟨⟩)]
    exact ⟨fun h => Option.some.inj h.1, fun h => ⟨congrArg some h, rfl⟩⟩
  | error e =>
    cases hretry : retryable e with
    | false =>
      have hrun : retry retryable false iot (r :: rs) = .stop (.failed e) := by
        rw [retry, hanswer]
        exact if_neg (ne_true_of_eq_false hretry)
      have hretried : Answer.retried retryable (.error e) = false := hretry
      rw [hrun, if_neg (ne_true_of_eq_false hretried)]
      exact ⟨fun h => Option.some.inj h.1, fun h => ⟨congrArg some h, rfl⟩⟩
    | true =>
      have hretried : Answer.retried retryable (.error e) = true := hretry
      rw [if_pos hretried]
      cases hwait : iot.waitFor r.now with
      | none =>
        have hrun : retry retryable false iot (r :: rs) = .stop (.expired e r.now) := by
          rw [retry_of_error hanswer hretry, coWaitFdReady_of_none hwait]
        rw [hrun]
        refine ⟨fun h => ⟨rfl, ?_⟩, fun h => ⟨?_, rfl⟩⟩
        · exact (hfin e).symm.trans (Option.some.inj h.1)
        · exact congrArg some ((hfin e).trans h.2)
      | some w =>
        have hrun : retry retryable false iot (r :: rs) = .stop .nullCo := by
          rw [retry_of_error hanswer hretry, coWaitFdReady_of_some hwait]
          rfl
        rw [hrun]
        exact ⟨by rintro ⟨⟨⟩, -⟩, by rintro ⟨⟨⟩, -⟩⟩

/-- A hook without a coroutine returns at once or not at all. -/
lemma hookIo_false (site : Site) (hfin : ∀ e, fin (.error e) = .error e) (a : Answer) :
    ((hookIo retryable false site.fd).outcome.answer.map fin = some a ∧
        (hookIo retryable false site.fd).waits = []) ↔
      match coIoNonblockGuard site.fd with
      | some e => a = .error e
      | none => ∃ iot, ioTimeout site.fd = some iot ∧
          if site.first.answer.retried retryable then
            iot.waitFor site.first.now = none ∧ site.first.answer = a
          else fin site.first.answer = a := by
  unfold hookIo
  cases coIoNonblockGuard site.fd with
  | some e =>
    refine ⟨fun h => ?_, ?_⟩
    · exact (Option.some.inj h.1).symm.trans (hfin e)
    · rintro rfl
      exact ⟨congrArg some (hfin e), rfl⟩
  | none =>
    cases ioTimeout site.fd with
    | none => exact ⟨by rintro ⟨⟨⟩, -⟩, by rintro ⟨iot, ⟨⟩, -⟩⟩
    | some iot =>
      rw [site.rounds_eq]
      refine (retry_false hfin a).trans ⟨fun h => ⟨iot, rfl, h⟩, ?_⟩
      rintro ⟨iot, ⟨⟩, h⟩
      exact h

end Direct

/-- The hook of `connect` without a coroutine. -/
lemma hookConnect_false (site : Site) (a : Answer) :
    ((hookConnect false site.fd).outcome.answer = some a ∧ (hookConnect false site.fd).waits = []) ↔
      Io.EndsAtOnce .connect site a := by
  unfold hookConnect Io.EndsAtOnce
  cases coIoNonblockGuard site.fd with
  | some e => exact ⟨fun h => (Option.some.inj h.1).symm, fun h => ⟨congrArg some h.symm, rfl⟩⟩
  | none =>
    rw [site.rounds_eq]
    have htimeout : ∀ p : IoTimeout → Prop,
        (∃ iot, Io.timeout .connect site.fd = some iot ∧ p iot) ↔ p ⟨0, site.fd.start⟩ := by
      intro p
      refine ⟨?_, fun h => ⟨_, rfl, h⟩⟩
      rintro ⟨iot, ⟨⟩, h⟩
      exact h
    change _ ↔ ∃ iot, Io.timeout .connect site.fd = some iot ∧ _
    rw [htimeout]
    change (connectRetry false (site.first :: site.rest)).outcome.answer = some a ∧
      (connectRetry false (site.first :: site.rest)).waits = [] ↔ _
    cases hanswer : site.first.answer with
    | ok n =>
      have hrun : connectRetry false (site.first :: site.rest) = .stop (.returned 0) := by
        rw [connectRetry, hanswer]
      rw [hrun, if_neg (by rintro ⟨⟩)]
      exact ⟨fun h => Option.some.inj h.1, fun h => ⟨congrArg some h, rfl⟩⟩
    | error e =>
      by_cases hconn : e = .eisconn
      · subst hconn
        have hrun : connectRetry false (site.first :: site.rest) = .stop (.returned 0) := by
          rw [connectRetry, hanswer]
          rfl
        rw [hrun, if_neg (by rintro ⟨⟩)]
        exact ⟨fun h => Option.some.inj h.1, fun h => ⟨congrArg some h, rfl⟩⟩
      · cases hretry : connectRetryable e with
        | true =>
          have hrun : connectRetry false (site.first :: site.rest) = .stop .nullCo := by
            rw [connectRetry, hanswer]
            exact (if_neg hconn).trans (if_pos hretry)
          have hretried : Answer.retried (Io.retryable .connect) (.error e) = true := hretry
          rw [hrun, if_pos hretried]
          exact ⟨by rintro ⟨⟨⟩, -⟩, by rintro ⟨⟨⟩, -⟩⟩
        | false =>
          have hrun : connectRetry false (site.first :: site.rest) = .stop (.failed e) := by
            rw [connectRetry, hanswer]
            exact (if_neg hconn).trans (if_neg (ne_true_of_eq_false hretry))
          have hretried : Answer.retried (Io.retryable .connect) (.error e) = false := hretry
          have hfinish : Io.finish .connect site.fd (.error e) = .error e :=
            if_neg fun h => hconn (Answer.error.inj h)
          rw [hrun, if_neg (ne_true_of_eq_false hretried), hfinish]
          exact ⟨fun h => Option.some.inj h.1, fun h => ⟨congrArg some h, rfl⟩⟩

/-- A hook that does no more than to finish the answer. -/
lemma hook_false_of_form {op : Io} {site : Site} (hne : op ≠ .connect)
    (hform : (op.hook false site.fd).outcome.answer =
      (hookIo op.retryable false site.fd).outcome.answer.map (op.finish site.fd))
    (hwaits : (op.hook false site.fd).waits = (hookIo op.retryable false site.fd).waits)
    (hfin : ∀ e, op.finish site.fd (.error e) = .error e) (a : Answer) :
    ((op.hook false site.fd).outcome.answer = some a ∧ (op.hook false site.fd).waits = []) ↔
      op.EndsAtOnce site a := by
  rw [hform, hwaits, hookIo_false site hfin a]
  unfold Io.EndsAtOnce Io.timeout
  rw [if_neg hne]

/-- A hook that is the common form. -/
lemma hook_false_of_hookIo {op : Io} {site : Site} (hne : op ≠ .connect)
    (hform : op.hook false site.fd = hookIo op.retryable false site.fd)
    (hfin : op.finish site.fd = id) (a : Answer) :
    ((op.hook false site.fd).outcome.answer = some a ∧ (op.hook false site.fd).waits = []) ↔
      op.EndsAtOnce site a := by
  refine hook_false_of_form hne ?_ (congrArg Run.waits hform) ?_ a
  · rw [hform, hfin, Option.map_id]
    rfl
  · rw [hfin]
    exact fun e => rfl

/-- A hook without a coroutine ends at once or not at all. -/
lemma hook_false (op : Io) (site : Site) (h : op.dontwait = false) (a : Answer) :
    ((op.hook false site.fd).outcome.answer = some a ∧ (op.hook false site.fd).waits = []) ↔
      op.EndsAtOnce site a := by
  cases op with
  | connect => exact hookConnect_false site a
  | read | readv => exact hook_false_of_hookIo (by rintro ⟨⟩) rfl rfl a
  | write | writev => exact hook_false_of_hookIo (by rintro ⟨⟩) rfl rfl a
  | accept =>
    refine hook_false_of_form (by rintro ⟨⟩) ?_ ?_ (fun e => rfl) a
    · exact answer_accepted _ _
    · exact waits_accepted _ _
  | accept4 hasAccept4 =>
    cases hasAccept4 with
    | true =>
      refine hook_false_of_form (by rintro ⟨⟩) ?_ ?_ (fun e => rfl) a
      · exact answer_accepted _ _
      · exact waits_accepted _ _
    | false =>
      refine hook_false_of_form (by rintro ⟨⟩) ?_ ?_ (fun e => rfl) a
      · change ((hookAccept false site.fd).accepted site.fd.accept4Fl).outcome.answer = _
        rw [answer_accepted, hookAccept, answer_accepted, Option.map_map]
        rfl
      · exact (waits_accepted _ _).trans (waits_accepted _ _)
  | send dontwait | sendto dontwait | sendmsg dontwait =>
    cases h
    exact hook_false_of_hookIo (by rintro ⟨⟩) rfl rfl a
  | recv dontwait | recvfrom dontwait | recvmsg dontwait =>
    cases h
    exact hook_false_of_hookIo (by rintro ⟨⟩) rfl rfl a

/-- A call that is marked not to wait goes through. -/
lemma hook_dontwait {op : Io} (h : op.dontwait = true) (co : Bool) (fd : Fd) :
    op.hook co fd = passThrough fd := by
  cases op with
  | send dontwait | sendto dontwait | sendmsg dontwait =>
    cases h
    rfl
  | recv dontwait | recvfrom dontwait | recvmsg dontwait =>
    cases h
    rfl
  | _ => cases h

/-- A call with `MSG_DONTWAIT` gets the first answer of the kernel. -/
lemma native_dontwait {op : Io} (h : op.dontwait = true) (site : Site) :
    (Call.io op).native site = site.first.answer := by
  have hanswer : op.answer site = site.first.answer := if_pos (.inl h)
  cases op with
  | accept4 hasAccept4 => cases h
  | _ => exact hanswer

/-- An entry point on a thread without a current coroutine is native if and only if it needs no
coroutine. -/
theorem actsNative_iff (c : Call) (enableUseCo : Bool) (site : Site) :
    c.ActsNative enableUseCo site ↔ c.NeedsNoCoroutine enableUseCo site := by
  unfold Call.ActsNative Call.NeedsNoCoroutine
  cases enableUseCo with
  | false => exact ⟨fun _ => .inl rfl, fun _ => ⟨answer_outcome _, rfl⟩⟩
  | true =>
    cases c with
    | asserting op => exact ⟨by rintro ⟨⟨⟩, -⟩, by rintro (⟨⟨⟩⟩ | ⟨⟨⟩⟩)⟩
    | io op =>
      cases hdontwait : op.dontwait with
      | false =>
        refine (hook_false op site hdontwait _).trans ⟨fun h => .inr (.inr h), ?_⟩
        rintro (⟨⟨⟩⟩ | htrue | h)
        · rw [hdontwait] at htrue
          cases htrue
        · exact h
      | true =>
        refine ⟨fun _ => .inr (.inl hdontwait), fun _ => ?_⟩
        have hrun : (Call.io op).enter true site = .stop site.first.answer.outcome := by
          change op.hook false site.fd = _
          rw [hook_dontwait hdontwait, passThrough, site.rounds_eq]
        rw [hrun, native_dontwait hdontwait]
        exact ⟨answer_outcome _, rfl⟩

/-- A nonblocking descriptor from which there is nothing to read. -/
def nothingToRead : Site where
  fd := { getFl := .ok true, rounds := [⟨.error .eagain, 0, {}⟩] }
  first := ⟨.error .eagain, 0, {}⟩
  rest := []
  rounds_eq := rfl
  blocking := .ok 0

/-- On a worker, a `read` of a driver uses the coroutine that it does not have. -/
theorem not_actsNative_read :
    (Call.io .read).native nothingToRead = .error .eagain ∧
      (Call.io .read).enter true nothingToRead = ⟨.nullCo, [], 1⟩ ∧
      ¬ (Call.io .read).ActsNative true nothingToRead := by
  have hrun : (Call.io .read).enter true nothingToRead = ⟨.nullCo, [], 1⟩ := by decide
  refine ⟨rfl, hrun, ?_⟩
  rintro ⟨hanswer, -⟩
  rw [hrun] at hanswer
  cases hanswer

end BbtCoroutine.HookIo
