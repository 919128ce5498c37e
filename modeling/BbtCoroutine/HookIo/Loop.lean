import BbtCoroutine.HookIo.Model

/-!
# One turn of the loop of a hook

`turn_retry` says what the loop makes of its first round when it runs in a coroutine.  What holds
of a whole call is proved from it by induction on the rounds.
-/

namespace BbtCoroutine.HookIo

/-- The wait of a round, if there is time left. -/
def IoTimeout.waitFor (iot : IoTimeout) (now : ℤ) : Option Wait :=
  if iot.ms ≤ 0 then some .endless
  else if iot.remainMs now ≤ 0 then none
  else some (.timed (iot.remainMs now))

/-- What the loop makes of its first round, in a coroutine. -/
inductive Turn (retryable : Errno → Bool) (iot : IoTimeout) (r : Round) (rs : List Round) :
    Run → Prop
  | ok {n} (h : r.answer = .ok n) : Turn retryable iot r rs (.stop (.returned n))
  | final {e} (h : r.answer = .error e) (hfinal : retryable e = false) :
      Turn retryable iot r rs (.stop (.failed e))
  | expired {e} (h : r.answer = .error e) (hretry : retryable e = true)
      (hwait : iot.waitFor r.now = none) : Turn retryable iot r rs (.stop (.expired e r.now))
  | ready {e w} (h : r.answer = .error e) (hretry : retryable e = true)
      (hwait : iot.waitFor r.now = some w) (hready : r.wake.ready = true) :
      Turn retryable iot r rs ((retry retryable true iot rs).after w)
  | lost {e e' w} (h : r.answer = .error e) (hretry : retryable e = true)
      (hwait : iot.waitFor r.now = some w) (hready : r.wake.ready = false) :
      Turn retryable iot r rs ⟨.failed e', [w], 1⟩

section Loop

variable {retryable : Errno → Bool} {iot : IoTimeout}

/-- A call that has no time left does not wait. -/
lemma coWaitFdReady_of_none {co : Bool} {r : Round} (h : iot.waitFor r.now = none) :
    coWaitFdReady co iot r = .expired := by
  unfold IoTimeout.waitFor at h
  unfold coWaitFdReady
  split at h
  · cases h
  · next hms =>
    split at h
    · next hleft => rw [if_neg hms, if_pos hleft]
    · cases h

/-- A call that has time left yields until the descriptor is ready. -/
lemma coWaitFdReady_of_some {co : Bool} {r : Round} {w : Wait} (h : iot.waitFor r.now = some w) :
    coWaitFdReady co iot r = yieldUntilFd co w r.wake := by
  unfold IoTimeout.waitFor at h
  unfold coWaitFdReady
  split at h
  · next hms =>
    cases h
    rw [if_pos hms]
  · next hms =>
    split at h
    · cases h
    · next hleft =>
      cases h
      rw [if_neg hms, if_neg hleft]

/-- A wait ends well if and only if the coroutine is woken and the descriptor is the same. -/
lemma yieldUntilFd_true (w : Wait) (k : Wake) :
    ∃ ret, yieldUntilFd true w k = .waited w ret ∧ (ret = 0 ↔ k.ready = true) := by
  obtain ⟨result, valid⟩ := k
  by_cases hres : result = 0
  · subst hres
    cases valid with
    | true => exact ⟨0, rfl, by decide⟩
    | false => exact ⟨2, rfl, by decide⟩
  · refine ⟨result, ?_, fun h => absurd h hres, fun h => absurd (of_decide_eq_true h).1 hres⟩
    unfold yieldUntilFd
    rw [if_neg (by decide), if_pos hres]

/-- What follows an answer to be retried. -/
lemma retry_of_error {co : Bool} {r : Round} {rs : List Round} {e : Errno}
    (h : r.answer = .error e) (hretry : retryable e = true) :
    retry retryable co iot (r :: rs) =
      match coWaitFdReady co iot r with
      | .nullCo => .stop .nullCo
      | .expired => .stop (.expired e r.now)
      | .waited w ret =>
        if ret = 0 then (retry retryable co iot rs).after w
        else ⟨.failed (if ret = 2 then .ebadf else e), [w], 1⟩ := by
  rw [retry, h]
  exact if_pos hretry

/-- The loop makes one of these of its first round. -/
lemma turn_retry (retryable : Errno → Bool) (iot : IoTimeout) (r : Round) (rs : List Round) :
    Turn retryable iot r rs (retry retryable true iot (r :: rs)) := by
  cases hanswer : r.answer with
  | ok n =>
    have hrun : retry retryable true iot (r :: rs) = .stop (.returned n) := by
      rw [retry, hanswer]
    rw [hrun]
    exact .ok hanswer
  | error e =>
    cases hretry : retryable e with
    | false =>
      have hrun : retry retryable true iot (r :: rs) = .stop (.failed e) := by
        rw [retry, hanswer]
        exact if_neg (ne_true_of_eq_false hretry)
      rw [hrun]
      exact .final hanswer hretry
    | true =>
      rw [retry_of_error hanswer hretry]
      cases hwait : iot.waitFor r.now with
      | none =>
        rw [coWaitFdReady_of_none hwait]
        exact .expired hanswer hretry hwait
      | some w =>
        obtain ⟨ret, hyield, hready⟩ := yieldUntilFd_true w r.wake
        rw [coWaitFdReady_of_some hwait, hyield]
        change Turn retryable iot r rs (if ret = 0 then _ else _)
        split
        · next hret => exact .ready hanswer hretry hwait (hready.mp hret)
        · next hret =>
          exact .lost hanswer hretry hwait (eq_false_of_ne_true fun h => hret (hready.mpr h))

end Loop

/-! ## The transfers -/

/-- A call with `MSG_DONTWAIT` is passed through. -/
lemma hook_of_dontwait {op : Transfer} (h : op.dontwait = true) (co : Bool) (fd : Fd) :
    op.hook co fd = passThrough fd := by
  cases op with
  | read => cases h
  | write => cases h
  | recv dontwait =>
    cases h
    rfl
  | send dontwait =>
    cases h
    rfl

/-- Any other call goes through the loop. -/
lemma hook_of_wait {op : Transfer} (h : op.dontwait = false) (co : Bool) (fd : Fd) :
    op.hook co fd = hookIo op.retryable co fd := by
  cases op with
  | read => rfl
  | write => rfl
  | recv dontwait =>
    cases h
    rfl
  | send dontwait =>
    cases h
    rfl

end BbtCoroutine.HookIo
