import BbtCoroutine.CoRWMutex.Exclusion

/-!
# The wait queues of `CoRWMutex`

An operation whose wait is undecided has its waiter in the queue of its kind, where
`Notify` can reach it, and a live waiter in a queue belongs to an operation of that kind
which is in its wait.  Dead waiters and null slots may be anywhere between them.
-/

namespace BbtCoroutine.CoRWMutex

open Transition Wait

variable {Co : Type*}

/-- The operation whose waiter is bound at a point. -/
def Pc.waiting : Pc → Option Op
  | .regist op _ | .callback op _ | .commit op | .parked op | .unbind op _ => some op
  | _ => none

/-- The operation that has decided to wait and still holds the mutex. -/
def Pc.deciding : Pc → Option Op
  | .wait op _ | .regist op _ | .callback op _ => some op
  | _ => none

/-- Who decides holds `m_mutex`. -/
lemma Pc.holds_of_deciding {p : Pc} {op : Op} (h : p.deciding = some op) : p.holds = true := by
  cases p <;> first | rfl | cases h

/-- Who enters is not waiting. -/
lemma Entering.waiting {op : Op} {b : Bool} {p : Pc} (h : Entering op b p) :
    p.waiting = none := by
  cases h <;> rfl

/-- The queue of the writers or of the readers. -/
def State.queue (s : State Co) (writer : Bool) : WaitQueue Co :=
  if writer then s.waitWritelockQueue else s.waitReadlockQueue

/-- The invariant of the queues. -/
structure QueueInv (s : State Co) : Prop where
  /-- A queued waiter was made for a wait that has begun, and if it still holds its event its
  operation is of the kind of the queue. -/
  entry : ∀ b k n, some (k, n) ∈ s.queue b → n ≤ (s.wait k).n ∧
    (n = (s.wait k).n → (s.wait k).bound = true →
      ∃ op, (s.pc k).waiting = some op ∧ op.writer = b)
  /-- The waiter of an undecided wait is queued and live. -/
  queued : ∀ k op, (s.pc k).waiting = some op → (s.wait k).round.undecided = true →
    some (k, (s.wait k).n) ∈ s.queue op.writer ∧ (s.wait k).live (s.wait k).n = true
  /-- A coroutine that has been resumed was resumed by a trigger. -/
  resumed : ∀ k op r, s.pc k = .unbind op r → (s.wait k).round.undecided = false
  /-- An operation that has decided to wait still has to. -/
  blocked : ∀ k op, (s.pc k).deciding = some op → s.blocked op

/-! ## Steps that keep every wait -/

/-- Every wait and its place in the queues are the same in `s'` as in `s`, or have been decided
since. -/
structure State.Later (s s' : State Co) : Prop where
  wait : ∀ k, (s.wait k).Later (s'.wait k)
  sub : ∀ b k n, some (k, n) ∈ s'.queue b → some (k, n) ∈ s.queue b
  keep : ∀ b k n, some (k, n) ∈ s.queue b → (s'.wait k).live n = true →
    some (k, n) ∈ s'.queue b

/-- The queues stay in order while the wait records move on. -/
lemma QueueInv.later {s s' : State Co} (h : QueueInv s) (hl : s.Later s')
    (hpc : ∀ k, (s'.pc k).waiting = (s.pc k).waiting)
    (hr : ∀ k op r, s'.pc k = .unbind op r → (s.wait k).round.undecided = false)
    (hb : ∀ k op, (s'.pc k).deciding = some op → s'.blocked op) : QueueInv s' where
  entry b k n hm := by
    obtain ⟨hn, hw⟩ := h.entry b k n (hl.sub b k n hm)
    rw [(hl.wait k).n, (hl.wait k).bound, hpc]
    exact ⟨hn, hw⟩
  queued k op hp hu := by
    rw [hpc] at hp
    obtain ⟨hm, hlive⟩ := h.queued k op hp ((hl.wait k).undecided hu).1
    rw [← (hl.wait k).n] at hm hlive
    rw [← (hl.wait k).live hu] at hlive
    exact ⟨hl.keep _ _ _ hm hlive, hlive⟩
  resumed k op r hp := ((hl.wait k).decided (hr k op r hp)).1
  blocked := hb

/-- The waits and the queues are the same. -/
lemma State.Later.of_same {s s' : State Co} (hw : s'.wait = s.wait)
    (hr : s'.waitReadlockQueue = s.waitReadlockQueue)
    (hq : s'.waitWritelockQueue = s.waitWritelockQueue) : s.Later s' where
  wait k := by rw [hw]; exact Wait.Later.refl _
  sub b k n h := by rwa [queue, hr, hq] at h
  keep b k n h _ := by rwa [queue, hr, hq]

/-- Moving on is transitive. -/
lemma State.Later.trans {s s' s'' : State Co} (h : s.Later s') (h' : s'.Later s'') :
    s.Later s'' where
  wait k := (h.wait k).trans (h'.wait k)
  sub b k n hm := h.sub b k n (h'.sub b k n hm)
  keep b k n hm hl := by
    have hu := (live_eq_true_iff.mp hl).2.2.2
    exact h'.keep b k n (h.keep b k n hm ((h'.wait k).live hu n ▸ hl)) hl

/-- Notifying moves the wait records on, and removes from the queues only what is decided. -/
lemma State.Later.of_notified {s s' : State Co} (h : ∀ k, Notified (s.wait k) (s'.wait k))
    (sub : ∀ b e, e ∈ s'.queue b → e ∈ s.queue b)
    (keep : ∀ b k n, some (k, n) ∈ s.queue b → (s'.wait k).live n = true →
      some (k, n) ∈ s'.queue b) : s.Later s' :=
  ⟨fun k => (h k).later, fun b _ _ => sub b _, keep⟩

variable [DecidableEq Co]

section

variable (s : State Co) (c : Co)

/-- Notifying all readers moves the wait records on. -/
lemma later_notifyAllReaders : s.Later s.notifyAllReaders := by
  refine .of_notified (fun k => notifyAllIn_notified _ _ k) (fun b e hm => ?_)
    (fun b k n hm hl => ?_)
  · cases b
    · simp [State.queue, State.notifyAllReaders] at hm
    · exact hm
  · cases b
    · have hd : (s.notifyAllReaders.wait k).live n = false := not_live_notifyAllIn s.wait hm
      rw [hd] at hl
      cases hl
    · exact hm

/-- Notifying one writer, or the readers, moves the wait records on. -/
lemma later_notifyOne : s.Later s.notifyOne := by
  unfold State.notifyOne
  dsimp only
  split
  · refine .of_notified (fun k => notifyOneIn_notified _ _ k) (fun b e hm => ?_)
      (fun b k n hm hl => ?_)
    · cases b
      · exact hm
      · exact (notifyOneIn_suffix _ _).subset hm
    · cases b
      · exact hm
      · exact mem_notifyOneIn hm hl
  · have hn : ∀ k, Notified ((notifyOneIn s.waitWritelockQueue s.wait).2.1 k)
        ((notifyOneIn s.waitReadlockQueue
          (notifyOneIn s.waitWritelockQueue s.wait).2.1).2.1 k) :=
      fun k => notifyOneIn_notified _ _ k
    refine .of_notified (fun k => (notifyOneIn_notified _ _ k).trans (hn k))
      (fun b e hm => ?_) (fun b k n hm hl => ?_)
    · cases b
      · exact (notifyOneIn_suffix _ _).subset hm
      · exact (notifyOneIn_suffix _ _).subset hm
    · cases b
      · exact mem_notifyOneIn hm hl
      · have he := (hn k).eq_of_live hl
        have hl' : ((notifyOneIn s.waitWritelockQueue s.wait).2.1 k).live n = true := he ▸ hl
        exact mem_notifyOneIn hm hl'

/-- Taking the lock for reading moves the wait records on. -/
lemma later_acquireRead : s.Later (s.acquireRead c) := by
  unfold State.acquireRead
  dsimp only
  split
  · exact .of_same rfl rfl rfl
  · refine State.Later.trans ?_ (later_notifyAllReaders _)
    exact .of_same rfl rfl rfl

/-- `RUnLock` moves the wait records on. -/
lemma later_rUnLock : s.Later (s.rUnLock c) := by
  by_cases h : s.rlockHoldNum - 1 = 0 <;> simp only [State.rUnLock, h, if_true, if_false]
  · refine State.Later.trans ?_ (later_notifyOne _)
    exact .of_same rfl rfl rfl
  · exact .of_same rfl rfl rfl

/-- `WUnLock` moves the wait records on. -/
lemma later_wUnLock : s.Later (s.wUnLock c) := by
  unfold State.wUnLock
  dsimp only
  split
  · refine State.Later.trans ?_ (later_notifyOne _)
    exact .of_same rfl rfl rfl
  · split
    · refine State.Later.trans ?_ (later_notifyAllReaders _)
      exact .of_same rfl rfl rfl
    · exact .of_same rfl rfl rfl

variable {s c} in

/-- A coroutine that goes on does not touch the wait records. -/
lemma State.Later.goto {s' : State Co} (h : s.Later s') (p : Pc) :
    s.Later (s'.goto c p) :=
  ⟨h.wait, h.sub, h.keep⟩

/-- One wait record moves on. -/
lemma later_setWait {w : Wait} (h : (s.wait c).Later w) : s.Later (s.setWait c w) where
  wait k := by
    by_cases hk : k = c
    · subst hk
      simpa [State.setWait] using h
    · simpa [State.setWait, hk] using Wait.Later.refl _
  sub _ _ _ h := h
  keep _ _ _ h _ := h

end

/-! ## Steps that begin or end a wait -/

/-- The wait of `c` is another one in `s'`; those of the others are untouched. -/
lemma QueueInv.replace {s s' : State Co} {c : Co} (h : QueueInv s)
    (hw : ∀ k, k ≠ c → s'.wait k = s.wait k) (hp : ∀ k, k ≠ c → s'.pc k = s.pc k)
    (sub : ∀ b k n, k ≠ c → some (k, n) ∈ s'.queue b → some (k, n) ∈ s.queue b)
    (keep : ∀ b e, e ∈ s.queue b → e ∈ s'.queue b)
    (entry : ∀ b n, some (c, n) ∈ s'.queue b → n ≤ (s'.wait c).n ∧
      (n = (s'.wait c).n → (s'.wait c).bound = true →
        ∃ op, (s'.pc c).waiting = some op ∧ op.writer = b))
    (queued : ∀ op, (s'.pc c).waiting = some op →
      some (c, (s'.wait c).n) ∈ s'.queue op.writer ∧ (s'.wait c).live (s'.wait c).n = true)
    (hb : ∀ k op, (s'.pc k).deciding = some op → s'.blocked op)
    (hr : ∀ op r, s'.pc c ≠ .unbind op r) : QueueInv s' where
  entry b k n hm := by
    by_cases hk : k = c
    · exact hk ▸ entry b n (hk ▸ hm)
    · rw [hw k hk, hp k hk]
      exact h.entry b k n (sub b k n hk hm)
  queued k op hwait hu := by
    by_cases hk : k = c
    · exact hk ▸ queued op (hk ▸ hwait)
    · rw [hp k hk] at hwait
      rw [hw k hk] at hu ⊢
      obtain ⟨hm, hl⟩ := h.queued k op hwait hu
      exact ⟨keep _ _ hm, hl⟩
  resumed k op r hres := by
    by_cases hk : k = c
    · exact absurd (hk ▸ hres) (hr op r)
    · rw [hp k hk] at hres
      rw [hw k hk]
      exact h.resumed k op r hres
  blocked := hb

section

omit [DecidableEq Co]

/-- The queues after an entry has been pushed. -/
lemma queue_push (s : State Co) (op : Op) (slot : Option (Co × ℕ)) (b : Bool) :
    (s.push op slot).queue b = if op.writer = b then s.queue b ++ [slot] else s.queue b := by
  unfold State.push State.queue
  cases op.writer <;> cases b <;> rfl

/-- What is in a queue after an entry has been pushed. -/
lemma mem_queue_push {s : State Co} {op : Op} {slot e : Option (Co × ℕ)} {b : Bool} :
    e ∈ (s.push op slot).queue b ↔ e ∈ s.queue b ∨ op.writer = b ∧ e = slot := by
  rw [queue_push]
  split
  · rename_i h
    simp [h]
  · rename_i h
    simp [h]

@[simp] lemma push_wait (s : State Co) (op : Op) (slot : Option (Co × ℕ)) :
    (s.push op slot).wait = s.wait := by
  unfold State.push
  split <;> rfl

end

/-- A slot of `c` is pushed and `c` begins a wait with the record `w`, at the point `p`. -/
lemma QueueInv.begin {s : State Co} {c : Co} {op : Op} {slot : Option (Co × ℕ)} {w : Wait} {p : Pc}
    (h : QueueInv s) (hs : slot = none ∨ slot = some (c, (s.wait c).n + 1))
    (hn : w.n = (s.wait c).n + 1)
    (hw : w.bound = true → p.waiting = some op)
    (hl : ∀ op', p.waiting = some op' →
      op' = op ∧ slot = some (c, (s.wait c).n + 1) ∧ w.live w.n = true)
    (hr : ∀ op r, p ≠ .unbind op r)
    (hb : ∀ k o, ((((s.push op slot).setWait c w).goto c p).pc k).deciding = some o →
      (((s.push op slot).setWait c w).goto c p).blocked o) :
    QueueInv (((s.push op slot).setWait c w).goto c p) := by
  have hwait : (((s.push op slot).setWait c w).goto c p).wait c = w := Function.update_self ..
  refine h.replace (c := c) (fun k hk => ?_) (fun k hk => ?_) (fun b k n hk hm => ?_)
    (fun b e hm => mem_queue_push.mpr (.inl hm)) (fun b n hm => ?_) (fun op' hop => ?_) hb
    (fun op r hr' => ?_)
  · simp [State.goto, State.setWait, hk]
  · rw [goto_pc_of_ne _ _ hk]
    exact congrFun (congrArg Control.pc (push_control s op slot)) k
  · rcases mem_queue_push.mp hm with hm | ⟨-, hm⟩
    · exact hm
    · rcases hs with rfl | rfl
      · cases hm
      · exact absurd (Prod.mk.inj (Option.some.inj hm)).1 hk
  · rw [hwait, goto_pc_self]
    rcases mem_queue_push.mp hm with hm | ⟨hop, hm⟩
    · have := (h.entry b c n hm).1
      exact ⟨by omega, fun hn' => by omega⟩
    · rcases hs with rfl | rfl
      · cases hm
      · have hn' := (Prod.mk.inj (Option.some.inj hm)).2
        exact ⟨by omega, fun _ hbound => ⟨op, hw hbound, hop⟩⟩
  · rw [goto_pc_self] at hop
    obtain ⟨rfl, rfl, hlive⟩ := hl op' hop
    rw [hwait]
    refine ⟨mem_queue_push.mpr (.inr ⟨rfl, ?_⟩), hlive⟩
    rw [hn]
  · rw [goto_pc_self] at hr'
    exact hr op r hr'

section

variable {s s' : State Co} {c : Co} {f : Fault}

/-- A step outside the critical sections leaves the core alone. -/
lemma Step.core_eq (h : Step c f s s') (hc : (s.pc c).holds = false) : s'.core = s.core := by
  cases h with
  | acquireRead hp ho hb => simp [hp.holds] at hc
  | enter | commit | resume | unbind | relock => rfl
  | _ hp => simp [hp, Pc.holds] at hc

omit [DecidableEq Co] in
/-- Whether an operation is blocked depends on the lock only. -/
lemma State.blocked_congr (h : s'.core = s.core) {op : Op} (hb : s.blocked op) :
    s'.blocked op := by
  have hs : s'.status = s.status := congrArg Core.status h
  have hf : s'.hasWaitWlock = s.hasWaitWlock := congrArg Core.hasWaitWlock h
  unfold State.blocked State.readBlocked at *
  rwa [hs, hf]

/-- An operation that decides to park is blocked. -/
lemma Step.blocked (h : Step c f s s') (hI : Inv s) (hQ : QueueInv s) (k : Co) (op : Op)
    (hk : (s'.pc k).deciding = some op) : s'.blocked op := by
  by_cases hkc : k = c
  · subst hkc
    cases h with
    | park hp ho hb =>
      rw [goto_pc_self] at hk
      cases hk
      exact hb
    | prepare hp =>
      rw [goto_pc_self] at hk
      cases hk
      exact State.blocked_congr (by simp) (hQ.blocked k _ (by rw [hp]; rfl))
    | regist hp =>
      rw [goto_pc_self] at hk
      cases hk
      exact State.blocked_congr rfl (hQ.blocked k _ (by rw [hp]; rfl))
    | callback hp =>
      unfold State.callback at hk
      split at hk <;> simp [Pc.deciding] at hk
    | unbind hp =>
      rw [State.unbind, goto_pc_self] at hk
      split at hk <;> cases hk
    | _ =>
      simp only [State.resume, goto_pc_self] at hk
      cases hk
  · rw [h.pc_of_ne hkc] at hk
    refine State.blocked_congr (h.core_eq ?_) (hQ.blocked k op hk)
    by_contra hc
    rw [Bool.not_eq_false] at hc
    have hm := (hI.control.mutex c).mpr hc
    have hm' := (hI.control.mutex k).mpr (Pc.holds_of_deciding hk)
    rw [hm] at hm'
    exact hkc (Option.some.inj hm').symm

/-- Every step keeps the invariant of the queues. -/
lemma Step.queue (h : Step c f s s') (hI : Inv s) (hQ : QueueInv s) : QueueInv s' := by
  have hb := h.blocked hI hQ
  have hne : ∀ {k}, k ≠ c → s'.pc k = s.pc k := h.pc_of_ne
  -- the wait goes on
  have goesOn : ∀ p : Pc, s.Later s' → s'.pc c = p → p.waiting = (s.pc c).waiting →
      (∀ op r, p ≠ .unbind op r) → QueueInv s' := by
    intro p hl hp hw hr
    refine hQ.later hl (fun k => ?_) (fun k op r hk => ?_) hb
    · by_cases hk : k = c
      · rw [hk, hp, hw]
      · rw [hne hk]
    · by_cases hkc : k = c
      · rw [hkc, hp] at hk
        exact absurd hk (hr op r)
      · rw [hne hkc] at hk
        exact hQ.resumed k op r hk
  -- the wait ends and its waiter lets go of the event
  have ends : ∀ p : Pc, (∀ k, k ≠ c → s'.wait k = s.wait k) → (∀ b, s'.queue b = s.queue b) →
      (s'.wait c).n = (s.wait c).n → (s'.wait c).bound = false → s'.pc c = p →
      p.waiting = none → QueueInv s' := by
    intro p hw hq hn hbound hp hwait
    refine hQ.replace hw (fun k hk => hne hk) (fun b k n _ hm => hq b ▸ hm)
      (fun b e hm => (hq b).symm ▸ hm) (fun b n hm => ?_) (fun op hop => ?_) hb (fun op r hr => ?_)
    · rw [hq] at hm
      rw [hn, hbound]
      exact ⟨(hQ.entry b c n hm).1, fun _ hb => by cases hb⟩
    · rw [hp, hwait] at hop
      cases hop
    · rw [← hp, hr] at hwait
      cases hwait
  cases h with
  | prepareAbandons hp hr hs =>
    exact hQ.begin hs rfl (fun h => by cases h) (fun _ h => by cases h) (by rintro _ _ ⟨⟩) hb
  | prepare hp =>
    refine hQ.begin (.inr rfl) rfl (fun _ => rfl) (fun op' h => ?_) (by rintro _ _ ⟨⟩) hb
    exact ⟨(Option.some.inj h).symm, rfl, by simp [live, registCustom, Round.undecided]⟩
  | registFails hp =>
    exact ends _ (fun k hk => Function.update_of_ne hk ..) (fun _ => rfl)
      (by simp [State.goto, State.setWait, Wait.unbind, registAwaitEvent])
      (by simp [State.goto, State.setWait, Wait.unbind]) (goto_pc_self ..) rfl
  | unbind hp =>
    exact ends _ (fun k hk => Function.update_of_ne hk ..) (fun _ => rfl)
      (by simp [State.unbind, State.goto, State.setWait, Wait.unbind])
      (by simp [State.unbind, State.goto, State.setWait, Wait.unbind]) (goto_pc_self ..)
      (by split <;> rfl)
  | resume hp hr =>
    refine hQ.later ((later_setWait s c (later_resume _ _)).goto _) (fun k => ?_)
      (fun k op r hk => ?_) hb
    · by_cases hk : k = c
      · rw [hk, State.resume, goto_pc_self, hp]
        rfl
      · rw [hne hk]
    · by_cases hkc : k = c
      · rw [hkc, hr]
        rfl
      · rw [hne hkc] at hk
        exact hQ.resumed k op r hk
  | @callback op b hp =>
    have hpc : (s.callback c op).pc c = .commit op := by
      unfold State.callback
      split <;> simp
    refine goesOn _ ?_ hpc (by rw [hp]; rfl) (by rintro _ _ ⟨⟩)
    unfold State.callback
    split <;> exact .of_same rfl rfl rfl
  | acquireRead hp ho hb =>
    exact goesOn _ ((later_acquireRead s c).goto _) (goto_pc_self ..) hp.waiting.symm
      (by rintro _ _ ⟨⟩)
  | rUnLock hp =>
    exact goesOn _ ((later_rUnLock s c).goto _) (goto_pc_self ..) (by rw [hp]; rfl)
      (by rintro _ _ ⟨⟩)
  | wUnLock hp =>
    exact goesOn _ ((later_wUnLock s c).goto _) (goto_pc_self ..) (by rw [hp]; rfl)
      (by rintro _ _ ⟨⟩)
  | regist hp =>
    exact goesOn _ ((later_setWait s c (later_registAwaitEvent _)).goto _) (goto_pc_self ..)
      (by rw [hp]; rfl) (by rintro _ _ ⟨⟩)
  | commit hp =>
    exact goesOn _ ((later_setWait s c (later_commitPark _)).goto _) (goto_pc_self ..)
      (by rw [hp]; rfl) (by rintro _ _ ⟨⟩)
  | enter hp | park hp | refuse hp | acquireWrite hp | prepareFails hp | relock hp | again hp
  | readerGivesUp hp | withdrawAgain hp | writerGivesUp hp | withdrawAcquire hp | leave hp =>
    exact goesOn _ (.of_same rfl rfl rfl) (goto_pc_self ..) (by rw [hp]; rfl) (by rintro _ _ ⟨⟩)

end

/-! ## All runs -/

omit [DecidableEq Co] in
/-- The queues are in order initially. -/
lemma queueInv_init : QueueInv ({} : State Co) where
  entry b k n hm := by cases b <;> cases hm
  queued k op hp := by cases hp
  resumed k op r hp := by cases hp
  blocked k op hp := by cases hp

/-- The step lemma of the system. -/
lemma QueueInv.next {s s' : State Co} {l : Label Co} (hI : Inv s) (h : QueueInv s)
    (hs : next s l = some s') : QueueInv s' := by
  have hl : ∀ {c w}, (s.wait c).Later w → QueueInv (s.setWait c w) := fun {c w} hw =>
    h.later (later_setWait s c hw) (fun _ => rfl) h.resumed h.blocked
  cases l with
  | call c op =>
    simp only [CoRWMutex.next] at hs
    split at hs <;> cases hs
    rename_i hc
    refine h.later (.of_same rfl rfl rfl) (fun k => ?_) (fun k o r hk => ?_) (fun k o hk => ?_)
    · by_cases hk : k = c
      · rw [hk, goto_pc_self, hc.1]
        rfl
      · rw [goto_pc_of_ne _ _ hk]
    · by_cases hkc : k = c
      · rw [hkc, goto_pc_self] at hk
        cases hk
      · rw [goto_pc_of_ne _ _ hkc] at hk
        exact h.resumed k o r hk
    · by_cases hkc : k = c
      · rw [hkc, goto_pc_self] at hk
        cases hk
      · rw [goto_pc_of_ne _ _ hkc] at hk
        exact h.blocked k o hk
  | run c f => exact (State.step_cases (hI.control.ok c) hs).queue hI h
  | timer c =>
    simp only [CoRWMutex.next] at hs
    split at hs <;> cases hs
    exact hl (later_trigger _ _)
  | requestCancel c =>
    cases hs
    exact hl (later_requestCancel _)
  | cancelTrigger c =>
    simp only [CoRWMutex.next] at hs
    split at hs <;> cases hs
    exact hl (later_trigger _ _)

end BbtCoroutine.CoRWMutex
