import BbtCoroutine.CoPool.Ledger
import BbtCoroutine.CoPool.Seats

/-!
# The worker that a `Release` blocks

A `Release` yields its worker as long as `m_running_co_num` is not zero, but a coroutine of the
pool that has not run yet is not counted, and the wait for the latch keeps the worker.  So a
`Release` may block the only worker that could run the coroutines it waits for.  As long as a
`Release` goes to the latch only when every coroutine of the pool has run, or another worker is
not blocked, each coroutine that the latch waits for can be run by some other worker.
-/

namespace BbtCoroutine.CoPool

open Transition

variable {n : ℕ} {ι P : Type*} [DecidableEq ι] [DecidableEq P] {isCo : ι → Bool}

/-- A coroutine of the pool is counted down, or will be by its next step. -/
def Pc.ended : Pc ι → Bool
  | down | done => true
  | _ => false

/-- The step does not send a `Release` to the latch on the last worker that is not blocked while
some coroutine of the pool has not run. -/
def Placed.Kept (s : Placed n ι P) : Action n ι P → Prop
  | .work p _ =>
    ∀ i, s.running p = some (.caller i) → s.pool.call i = .poll →
      s.pool.shared.runningCoNum = 0 →
        (∃ q, q ≠ p ∧ ¬ s.Blocked q) ∨ ∀ m, s.pool.pc m ≠ .created
  | _ => True

section Decidable

variable [Fintype ι] (s : Placed n ι P)

/-- Whether a thread is blocked can be computed. -/
instance Placed.decidableBlocked (p : P) : Decidable (s.Blocked p) := by
  unfold Placed.Blocked
  infer_instance

/-- Whether an action is kept can be computed. -/
instance Placed.decidableKept [Fintype P] (l : Action n ι P) : Decidable (s.Kept l) := by
  unfold Placed.Kept
  cases l <;> infer_instance

end Decidable

/-- A blocked worker is not the last one, or every coroutine of the pool is at its end. -/
def Placed.Open (s : Placed n ι P) : Prop :=
  ∀ p, s.Blocked p → (∃ q, ¬ s.Blocked q) ∨ ∀ m, (s.pool.pc m).ended = true

omit [DecidableEq ι] in
/-- If no coroutine of the pool is counted as running and all of them have run, they are at
their end. -/
lemma Inv.ended {t : State n ι} (h : Inv t) (hr : t.shared.runningCoNum = 0)
    (hc : ∀ m, t.pc m ≠ .created) (m : Member n) : (t.pc m).ended = true := by
  have hb : (t.pc m).begun = 0 :=
    eq_zero_of_weight_le Pc.begun_nonneg (h.runningCoNum.symm.trans hr).le m
  have hm := hc m
  cases hp : t.pc m <;> simp [hp, Pc.begun, Pc.ended] at hb hm ⊢

omit [DecidableEq ι] in
/-- A coroutine of the pool that has ended does not begin again. -/
lemma Move.ended {sh sh' : Shared ι} {p p' : Pc ι} [DecidableEq ι] (h : Move sh p sh' p')
    (he : p.ended = true) : p'.ended = true := by
  cases h with
  | down => rfl
  | idle hp => cases hp <;> cases he
  | finish hp => rcases hp with rfl | rfl <;> cases he
  | _ => cases he

namespace Placed

variable {s s' : Placed n ι P}

omit [DecidableEq ι] [DecidableEq P] in
/-- A step that blocks no worker. -/
lemma Open.of_imp (h : s.Open) (hb : ∀ p, s'.Blocked p → s.Blocked p)
    (he : ∀ m, (s.pool.pc m).ended = true → (s'.pool.pc m).ended = true) : s'.Open := by
  intro p hp
  rcases h p (hb p hp) with ⟨q, hq⟩ | hm
  · exact .inl ⟨q, fun hq' => hq (hb q hq')⟩
  · exact .inr fun m => he m (hm m)

omit [DecidableEq ι] in
/-- A worker is blocked by what it ran before, unless it has turned to a `Release` at the
latch. -/
lemma blocked_of_update {p q : P} {c : Option (Co n ι)}
    (h : Blocked { s with running := Function.update s.running p c } q)
    (hc : ∀ i, c = some (.caller i) → s.pool.call i ≠ .latch) : s.Blocked q := by
  obtain ⟨i, hi, hl⟩ := h
  by_cases hqp : q = p
  · subst hqp
    exact absurd hl (hc i (by simpa using hi))
  · exact ⟨i, by simpa [hqp] using hi, hl⟩

omit [DecidableEq P] in
/-- A call that moves blocks at most the worker that runs it. -/
lemma blocked_of_call {i : ι} {sh : Shared ι} {f : Frame} {q : P}
    (h : Blocked { s with
      pool := { s.pool with shared := sh, call := Function.update s.pool.call i f } } q) :
    s.Blocked q ∨ f = .latch ∧ s.running q = some (.caller i) := by
  obtain ⟨j, hj, hl⟩ := h
  by_cases hji : j = i
  · subst hji
    exact .inr ⟨by simpa using hl, hj⟩
  · exact .inl ⟨j, hj, by simpa [hji] using hl⟩

omit [DecidableEq P] in
/-- A step of a call, under the condition. -/
lemma Open.call (ho : s.Open) (hI : Inv s.pool) (h : Seated isCo s) {l : Action n ι P}
    (hk : s.Kept l) {i : ι} {a : Answer ι} {sh : Shared ι} {f : Frame}
    (hp : isCo i = true → f = .latch → ∃ p, s.running p = some (.caller i) ∧ l = .work p a)
    (hl : f = .latch → s.pool.call i = .poll ∧ s.pool.shared.runningCoNum = 0) :
    Open { s with
      pool := { s.pool with shared := sh, call := Function.update s.pool.call i f } } := by
  by_cases hf : f = .latch ∧ isCo i = true
  · obtain ⟨hpoll, hzero⟩ := hl hf.1
    obtain ⟨p, hcaller, rfl⟩ := hp hf.2 hf.1
    intro r hr
    rcases hk i hcaller hpoll hzero with ⟨q, hqp, hq⟩ | hc
    · refine .inl ⟨q, fun hq' => ?_⟩
      rcases blocked_of_call hq' with hb | ⟨-, hrun⟩
      · exact hq hb
      · exact hqp (h.unique q p i hrun hcaller)
    · exact .inr (hI.ended hzero hc)
  · refine ho.of_imp (fun q hq => ?_) fun m he => he
    refine (blocked_of_call hq).resolve_right fun hr => hf ⟨hr.1, h.caller q i hr.2⟩

/-- A kept action keeps a thread open for the pool. -/
lemma Open.move (ho : s.Open) (hI : Inv s.pool) (h : Seated isCo s) {l : Action n ι P}
    (hk : s.Kept l) (hm : s.Move isCo l s') : s'.Open := by
  cases hm with
  | wait | setExceptionCallback => exact ho.of_imp (fun q hq => hq) fun m he => he
  | resume | suspend => exact ho.of_imp (fun q hq => blocked_of_update hq (by nofun)) fun m he => he
  | suspendCaller => exact ho.of_imp (fun q hq => blocked_of_update hq (by nofun)) fun m he => he
  | @resumeCaller p i hi hp hq =>
    refine ho.of_imp (fun q hb => blocked_of_update hb fun j hj hl => ?_) fun m he => he
    obtain rfl : i = j := by simpa using hj
    obtain ⟨r, hr⟩ := h.latch i hi hl
    exact hq r hr
  | @member p m a sh c hp hm =>
    have hs : Open { s with
        pool := { s.pool with shared := sh, pc := Function.update s.pool.pc m c } } := by
      refine ho.of_imp (fun q hq => hq) fun x he => ?_
      by_cases hx : x = m
      · subst hx
        simpa using hm.ended he
      · simpa [hx] using he
    unfold finish
    split_ifs
    · exact hs.of_imp (fun q hq => blocked_of_update hq (by nofun)) fun m he => he
    · exact hs
  | call hp _ hl => exact ho.call hI h hk hp hl

omit [DecidableEq ι] [DecidableEq P] in
/-- Every coroutine that the latch waits for can be run by a worker that is not blocked. -/
lemma Open.not_stuck (ho : s.Open) (h : Seated isCo s) (p : P) (m : Member n) :
    ¬ s.Stuck p m := by
  rintro ⟨hb, hd, honly⟩
  have hrun : ∃ q, s.CanRun q m := by
    by_cases hr : ∃ r, s.place m = .running r
    · obtain ⟨r, hr⟩ := hr
      refine ⟨r, ?_, fun q hq => Place.running.inj (hr.symm.trans hq)⟩
      rintro ⟨i, hi, -⟩
      rw [h.there r m hr] at hi
      cases hi
    · rcases ho p hb with ⟨q, hq⟩ | he
      · exact ⟨q, hq, fun r hr' => absurd ⟨r, hr'⟩ hr⟩
      · have hdown : s.pool.pc m = .down := by
          have he := he m
          cases hp : s.pool.pc m <;> simp [hp, Pc.ended] at he hd ⊢
        exact absurd (h.down m hdown) hr
  obtain ⟨q, hq⟩ := hrun
  exact hq.1 (honly q hq ▸ hb)

end Placed

/-- In a run in which no `Release` goes to the latch on the last worker that is not blocked while
some coroutine of the pool has not run, no worker is blocked by the wait for a coroutine that no
other worker can run. -/
theorem not_stuck_of_kept [Fintype P] {s : Placed n ι P}
    (h : (placedSystem n P isCo).ReachableWhen Placed.Kept s) (p : P) (m : Member n) :
    ¬ s.Stuck p m := by
  have hall : Seated isCo s ∧ s.Open := by
    refine h.induct_with (I := fun s => Seated isCo s ∧ s.Open) (J := fun s => Inv s.pool)
      ?_ ?_ ?_
    · intro s hs
      obtain ⟨t, ht, rfl⟩ := placed_simulates.exists_reachable hs.reachable
      exact inv_of_reachable ht
    · rintro s rfl
      refine ⟨⟨by nofun, by nofun, by nofun, by nofun, by nofun, by nofun⟩, ?_⟩
      rintro p ⟨i, hi, -⟩
      cases hi
    · rintro s l s' hI - ⟨hs, ho⟩ hk hn
      have hm := Placed.move_of_next hn
      exact ⟨hs.move hm, ho.move hI hs hk hm⟩
  exact hall.2.not_stuck hall.1 p m

/-- The start of a pool, whose monitor and whose coroutine `w` are queued on the processer `p`, and
of a coroutine on `p` that releases it. -/
def startAndRelease (w : Fin n) (p : P) : List (Action n Unit P) :=
  [.regist (.work w) p, .regist .monitor p, .resumeCaller p (), .begin () .release, .work p {},
    .work p {}]

/-- A `Release` blocks one of two workers, and the other one can run the pool. -/
theorem not_stuck_of_kept_two : ∃ s : Placed 1 Unit (Fin 2),
    (placedSystem 1 (Fin 2) fun _ => true).ReachableWhen Placed.Kept s ∧
      s.pool.pc .monitor = .created ∧ s.Blocked 0 ∧ ¬ s.Stuck 0 .monitor := by
  have hrun : (placedSystem 1 (Fin 2) fun _ => true).endsInWhen Placed.Kept
      (Placed.init 1 Unit (Fin 2)) (startAndRelease 0 0)
      (fun s => s.pool.pc .monitor = .created ∧ s.Blocked 0) = true := by decide +kernel
  obtain ⟨s, hs, hm, hb⟩ := System.exists_of_endsInWhen rfl hrun
  exact ⟨s, hs, hm, hb, not_stuck_of_kept hs 0 .monitor⟩

/-- A `Release` blocks the only worker before the pool has run. -/
theorem stuck_only_worker : ∃ s : Placed 1 Unit Unit,
    (placedSystem 1 Unit fun _ => true).Reachable s ∧ ∃ p m, s.Stuck p m := by
  have hrun : (placedSystem 1 Unit fun _ => true).endsIn (Placed.init 1 Unit Unit)
      (startAndRelease 0 ())
      (fun s => s.running () = some (.caller ()) ∧ s.pool.call () = .latch ∧
        s.pool.pc .monitor = .created) = true := by decide +kernel
  obtain ⟨s, hs, hr, hl, hm⟩ := System.exists_of_endsIn rfl hrun
  exact ⟨s, hs, (), .monitor, ⟨(), hr, hl⟩, by rw [hm]; nofun, fun _ _ => rfl⟩

end BbtCoroutine.CoPool
