import BbtCoroutine.NoCacheChan.Order

/-!
# What a write to a channel without a cache leaves in it

A write that fails should leave nothing in the channel, and a write to a closed channel should
place nothing.  Both hold if no write reaches its critical section after the channel was closed
and no wait of a write fails before its item has been read (`atomic_of_kept`).  Neither is
ensured: `Write` checks `IsClosed` before it locks and not again (`placed_after_close`), and a
failed wait does not withdraw the item.
-/

namespace BbtCoroutine.NoCacheChan

open Transition Wait

variable {Co α : Type*} [DecidableEq Co]

/-! ## The items -/

/-- The members of a channel agree with the list of its items, and nothing was placed since it
was closed. -/
structure Ledger (x : NoCacheChan Co α) : Prop where
  count : x.readIdx + x.itemCacheRef.length = x.writeIdx
  length : x.placed.length = x.writeIdx
  stored : x.itemCacheRef = x.placed.drop x.readIdx
  closed : x.isClosed = x.closedAt.isSome
  nothing : ∀ n, x.closedAt = some n → x.writeIdx = n

/-- The channel `x'` is `x` at a later time. -/
structure Grows (x x' : NoCacheChan Co α) : Prop where
  readIdx : x.readIdx ≤ x'.readIdx
  writeIdx : x.writeIdx ≤ x'.writeIdx

section

omit [DecidableEq Co]

/-- A channel may stay as it is. -/
lemma Grows.refl (x : NoCacheChan Co α) : Grows x x := ⟨le_rfl, le_rfl⟩

/-- Growing is transitive. -/
lemma Grows.trans {x x' x'' : NoCacheChan Co α} (h : Grows x x') (h' : Grows x' x'') :
    Grows x x'' :=
  ⟨h.readIdx.trans h'.readIdx, h.writeIdx.trans h'.writeIdx⟩

/-- A channel with the same items has not shrunk. -/
lemma SameItems.grows {x x' : NoCacheChan Co α} (h : SameItems x x') : Grows x x' :=
  ⟨h.readIdx.ge, h.writeIdx.ge⟩

/-- The ledger depends on the items only. -/
lemma Ledger.same {x x' : NoCacheChan Co α} (hL : Ledger x) (h : SameItems x x') :
    Ledger x' where
  count := by rw [h.readIdx, h.itemCacheRef, h.writeIdx, hL.count]
  length := by rw [h.placed, h.writeIdx, hL.length]
  stored := by rw [h.itemCacheRef, h.placed, h.readIdx, hL.stored]
  closed := by rw [h.isClosed, h.closedAt, hL.closed]
  nothing n hn := by
    rw [h.closedAt] at hn
    rw [h.writeIdx, hL.nothing n hn]

end

section

variable {s s' : State Co α} {c : Co} {e : Env} {a : Act α} {p p' : Pc α}

/-- An act does not shrink the channel. -/
lemma grows_apply : Grows s.chan (s.apply c a).chan := by
  cases a with
  | place item =>
    simp only [State.apply, place_chan]
    exact ⟨le_rfl, Nat.le_succ _⟩
  | take => exact ⟨Nat.le_succ _, le_rfl⟩
  | close =>
    simp only [State.apply, close_chan]
    exact ⟨le_rfl, le_rfl⟩
  | _ => exact (sameItems_apply rfl).grows

/-- The ledger is kept if items are placed only while the channel is open and taken only while
there are any. -/
lemma Ledger.apply (hL : Ledger s.chan)
    (hplace : ∀ item, a = .place item → s.chan.isClosed = false)
    (htake : a = .take → s.chan.readIdx < s.chan.writeIdx) : Ledger (s.apply c a).chan := by
  have hcount := hL.count
  cases a with
  | place item =>
    have hopen := hplace item rfl
    simp only [State.apply, place_chan]
    refine ⟨?_, ?_, ?_, hL.closed, fun n hn => ?_⟩
    · simp only [List.length_append, List.length_singleton]
      omega
    · simp only [List.length_append, List.length_singleton]
      rw [hL.length]
    · simp only
      rw [List.drop_append_of_le_length (by rw [hL.length]; omega), ← hL.stored]
    · rw [hL.closed, hn] at hopen
      cases hopen
  | take =>
    have hlt := htake rfl
    refine ⟨?_, hL.length, ?_, hL.closed, hL.nothing⟩
    · change s.chan.readIdx + 1 + s.chan.itemCacheRef.tail.length = s.chan.writeIdx
      rw [List.length_tail]
      omega
    · change s.chan.itemCacheRef.tail = s.chan.placed.drop (s.chan.readIdx + 1)
      rw [hL.stored, List.tail_drop]
  | close =>
    simp only [State.apply, close_chan]
    refine ⟨hcount, hL.length, hL.stored, rfl, fun n hn => ?_⟩
    obtain rfl := Option.some.inj hn
    cases hc : s.chan.closedAt with
    | none => rfl
    | some n => exact hL.nothing n hc
  | _ => exact hL.same (sameItems_apply rfl)

end

/-! ## The writes -/

/-- A write that waits has placed its item. -/
def Waiting.Placed (x : NoCacheChan Co α) : Waiting → Prop
  | .write slot => slot < x.writeIdx
  | .read => True

/-- A write that succeeds has placed its item, and the item of one that fails has been read. -/
def Ret.Sound (x : NoCacheChan Co α) : Ret α → Prop
  | .write r o => (r = 0 → ∃ slot, o = some slot ∧ slot < x.writeIdx) ∧
      (r ≠ 0 → ∀ slot, o = some slot → slot < x.readIdx)
  | _ => True

/-- What is known of the item of an operation at a point. -/
def Pc.Sound (x : NoCacheChan Co α) : Pc α → Prop
  | .prepare w | .regist w | .callback w | .commit w | .parked w => w.Placed x
  | .unbind w r => w.Placed x ∧ ∀ slot, w = .write slot → r = 0
  | .readRelease ret | .returned ret => ret.Sound x
  | _ => True

section

omit [DecidableEq Co]

/-- An item that was placed stays placed. -/
lemma Waiting.Placed.grows {x x' : NoCacheChan Co α} {w : Waiting} (h : w.Placed x)
    (hx : Grows x x') : w.Placed x' := by
  cases w with
  | write slot => exact Nat.lt_of_lt_of_le h hx.writeIdx
  | read => trivial

/-- A result stays sound while the channel grows. -/
lemma Ret.Sound.grows {x x' : NoCacheChan Co α} {ret : Ret α} (h : ret.Sound x)
    (hx : Grows x x') : ret.Sound x' := by
  cases ret with
  | write r o =>
    refine ⟨fun hr => ?_, fun hr slot ho => (h.2 hr slot ho).trans_le hx.readIdx⟩
    obtain ⟨slot, ho, hlt⟩ := h.1 hr
    exact ⟨slot, ho, hlt.trans_le hx.writeIdx⟩
  | _ => trivial

/-- What holds at a point stays true while the channel grows. -/
lemma Pc.Sound.grows {x x' : NoCacheChan Co α} {p : Pc α} (h : p.Sound x) (hx : Grows x x') :
    p.Sound x' := by
  cases p with
  | prepare w | regist w | callback w | commit w | parked w => exact Waiting.Placed.grows h hx
  | unbind w r => exact ⟨Waiting.Placed.grows h.1 hx, h.2⟩
  | readRelease ret | returned ret => exact Ret.Sound.grows h hx
  | _ => trivial

/-- A write whose wait fails has failed itself. -/
lemma sound_afterWait_fail {x : NoCacheChan Co α} {w : Waiting}
    (h : ∀ slot, w = .write slot → slot < x.readIdx) : (afterWait (-1) w : Pc α).Sound x := by
  cases w with
  | write slot =>
    refine ⟨fun hr => absurd hr (by decide), fun _ slot' ho => ?_⟩
    obtain rfl := Option.some.inj ho
    exact h slot rfl
  | read => trivial

/-- Where a wait leads is sound. -/
lemma sound_afterWait {x : NoCacheChan Co α} {w : Waiting} {r : ℤ} (h : w.Placed x)
    (hr : ∀ slot, w = .write slot → r = 0) : (afterWait r w : Pc α).Sound x := by
  cases w with
  | write slot =>
    obtain rfl := hr slot rfl
    exact ⟨fun _ => ⟨slot, rfl, h⟩, fun hne => absurd rfl hne⟩
  | read => trivial

end

/-- At the point `p` nothing goes wrong: a write places its item in an open channel, and a wait
of a write fails only after its item has been read. -/
def Pc.Kept (x : NoCacheChan Co α) (e : Env) : Pc α → Prop
  | .writeLock _ => x.isClosed = false
  | .prepare (.write slot) => e = .registNull → slot < x.readIdx
  | .regist (.write slot) => e = .registFails → slot < x.readIdx
  | _ => True

/-- No write places its item in a closed channel, and no wait of a write fails before its item
has been read. -/
def Kept (s : State Co α) : Label Co α → Prop
  | .run c e => (s.pc c).Kept s.chan e
  | _ => True

/-- Whether a step at a point is kept can be computed. -/
instance Pc.decidableKept (x : NoCacheChan Co α) (e : Env) (p : Pc α) : Decidable (p.Kept x e) := by
  unfold Pc.Kept
  split <;> infer_instance

/-- Whether a step is kept can be computed. -/
instance decidableKept (s : State Co α) (l : Label Co α) : Decidable (Kept s l) :=
  match l with
  | .run c e => Pc.decidableKept s.chan e (s.pc c)
  | .call _ _ | .timer _ | .requestCancel _ | .cancelTrigger _ => isTrue trivial

/-- The channel and every operation are as they should be. -/
structure Inv (s : State Co α) : Prop where
  ledger : Ledger s.chan
  sound : ∀ c, (s.pc c).Sound s.chan

section

variable {s s' : State Co α} {c : Co} {e : Env} {a : Act α} {p p' : Pc α}

/-- A step of a coroutine that is kept leads it to a sound point. -/
lemma Plan.sound (h : Plan s c e p a p') (hp : p.Sound s.chan) (hk : p.Kept s.chan e) :
    p'.Sound (s.apply c a).chan := by
  have hg := grows_apply (s := s) (c := c) (a := a)
  cases h with
  | writeClosed => exact ⟨fun hr => absurd hr (by decide), fun _ _ ho => absurd ho (by rintro ⟨⟩)⟩
  | handOver hh =>
    simp only [State.apply, place_chan]
    exact ⟨fun _ => ⟨_, rfl, Nat.lt_succ_self _⟩, fun hr => absurd rfl hr⟩
  | place hh =>
    simp only [State.apply, place_chan]
    exact Nat.lt_succ_self _
  | readGoesOn _ hp' => rcases hp' with rfl | rfl <;> trivial
  | readRelease => exact Ret.Sound.grows hp hg
  | closeCheck hp' => rcases hp' with rfl | rfl <;> trivial
  | @waitFails w he =>
    refine sound_afterWait_fail fun slot hw => ?_
    subst hw
    exact hk (he.resolve_left (by rintro ⟨⟩))
  | @waitThrows w => cases w <;> trivial
  | registCustom => exact Waiting.Placed.grows hp hg
  | @registFails w he =>
    refine (sound_afterWait_fail fun slot hw => ?_).grows hg
    subst hw
    exact hk he
  | registAwaitEvent => exact Waiting.Placed.grows hp hg
  | @registerEnableWriteCond slot =>
    exact Waiting.Placed.grows (x := s.chan) (w := .write slot) hp hg
  | recheckEnableRead => trivial
  | commitPark => exact Waiting.Placed.grows hp hg
  | resume hr hw => exact ⟨Waiting.Placed.grows hp hg, hw⟩
  | unbind => exact (sound_afterWait hp.1 hp.2).grows hg
  | _ => trivial

/-- A kept step places an item only on an open channel. -/
lemma Plan.place_open (h : Plan s c e p a p') (hk : p.Kept s.chan e) {item : α}
    (ha : a = .place item) : s.chan.isClosed = false := by
  subst ha
  cases h <;> exact hk

/-- An item is taken only if there is one. -/
lemma Plan.take_lt (h : Plan s c e p a p') (ha : a = .take) :
    s.chan.readIdx < s.chan.writeIdx := by
  subst ha
  cases h
  assumption

/-- A kept step keeps the invariant. -/
lemma Inv.next (hI : Inv s) {l : Label Co α} (hk : Kept s l) (h : next s l = some s') : Inv s' := by
  rcases next_cases h with ⟨c, op, hc, rfl⟩ | ⟨c, e, r, rfl, hr, rfl⟩ | ⟨hchan, hpc, -⟩
  · refine ⟨hI.ledger, fun k => ?_⟩
    simp only [State.goto]
    by_cases hkc : k = c
    · subst hkc
      rw [Function.update_self]
      cases op <;> trivial
    · rw [Function.update_of_ne hkc]
      exact hI.sound k
  · have hplan := State.plan_cases hr
    refine ⟨hI.ledger.apply (fun item => hplan.place_open hk) hplan.take_lt, fun k => ?_⟩
    simp only [State.goto, apply_pc]
    by_cases hkc : k = c
    · subst hkc
      rw [Function.update_self]
      exact hplan.sound (hI.sound k) hk
    · rw [Function.update_of_ne hkc]
      exact (hI.sound k).grows grows_apply
  · refine ⟨hchan ▸ hI.ledger, fun k => ?_⟩
    rw [hpc, hchan]
    exact hI.sound k

/-- A step does not shrink the channel. -/
lemma grows_next {l : Label Co α} (h : next s l = some s') : Grows s.chan s'.chan := by
  rcases next_cases h with ⟨c, op, -, rfl⟩ | ⟨c, e, r, -, -, rfl⟩ | ⟨hchan, -, -⟩
  · exact .refl _
  · exact grows_apply (s := s)
  · rw [hchan]
    exact .refl _

/-- A read returns the item at the read index. -/
lemma Plan.read_eq (h : Plan s c e p a p') {r : ℤ} {i : ℕ} {item : α}
    (hp : p' = .readRelease (.read r (some (i, item)))) : i = s.chan.readIdx := by
  cases h with
  | take =>
    simp only [Pc.readRelease.injEq, Ret.read.injEq] at hp
    obtain ⟨x, -, hx⟩ := Option.map_eq_some_iff.mp hp.2
    exact (Prod.mk.inj hx).1.symm
  | readGoesOn _ hp' => rcases hp' with rfl | rfl <;> cases hp
  | closeCheck hp' => rcases hp' with rfl | rfl <;> cases hp
  | @waitFails w | @waitThrows w | @registFails w | @unbind w => cases w <;> cases hp
  | _ => cases hp

end

/-! ## Runs -/

/-- No read from the state `s` on returns the item with the index `slot`. -/
def NeverRead (s : State Co α) (slot : ℕ) : Prop :=
  ∀ s', (system Co α).PathWhen (fun _ _ => True) s s' → ∀ c e a r i item,
    s'.plan c e = some (a, .readRelease (.read r (some (i, item)))) → i ≠ slot

/-- What was read is not read again. -/
lemma neverRead_of_lt {s : State Co α} {slot : ℕ} (h : slot < s.chan.readIdx) :
    NeverRead s slot := by
  intro s' hpath c e a r i item hplan
  have hg : Grows s.chan s'.chan := hpath.induct (I := fun t => Grows s.chan t.chan) (.refl _)
    fun t l t' ht _ hl => ht.trans (grows_next hl)
  have hi := (State.plan_cases hplan).read_eq rfl
  have hle := hg.readIdx
  omega

/-- The indices count the items, a closed channel takes no more, a write that succeeds has placed
its item, and one that fails has left nothing. -/
structure Atomic (s : State Co α) : Prop where
  count : s.chan.readIdx + s.chan.itemCacheRef.length = s.chan.writeIdx
  closed : ∀ n, s.chan.closedAt = some n → s.chan.writeIdx = n
  placed : ∀ c r o, s.pc c = .returned (.write r o) → r = 0 →
    ∃ slot, o = some slot ∧ slot < s.chan.writeIdx
  failed : ∀ c r slot, s.pc c = .returned (.write r (some slot)) → r ≠ 0 →
    slot < s.chan.readIdx ∧ NeverRead s slot

omit [DecidableEq Co] in
/-- The invariant holds initially. -/
lemma inv_start : Inv ({} : State Co α) where
  ledger := ⟨rfl, rfl, rfl, rfl, fun _ h => absurd h (by nofun)⟩
  sound _ := trivial

/-- **Writes are atomic in their result.**  In every run of a channel without a cache in which no
write places its item after the channel was closed and no wait of a write fails before its item
has been read, a write that fails leaves nothing in the channel, and one that has placed nothing
before the channel is closed never does. -/
theorem atomic_of_kept {s : State Co α} (h : (system Co α).ReachableWhen Kept s) : Atomic s := by
  have hI : Inv s := by
    refine h.induct (I := Inv) ?_ fun s l s' hI hk hs => hI.next hk hs
    rintro s rfl
    exact inv_start
  refine ⟨hI.ledger.count, hI.ledger.nothing, fun c r o hp hr => ?_, fun c r slot hp hr => ?_⟩
  · have hsound := hI.sound c
    rw [hp] at hsound
    exact hsound.1 hr
  · have hsound := hI.sound c
    rw [hp] at hsound
    have hlt := hsound.2 hr slot rfl
    exact ⟨hlt, neverRead_of_lt hlt⟩

/-- A write that waits for its reader, and the channel is closed after that. -/
theorem atomic_of_kept_read : ∃ s : State ℕ ℕ, (system ℕ ℕ).ReachableWhen Kept s ∧
    s.pc 0 = .returned (.write 0 (some 0)) ∧ s.chan.closedAt = some 1 ∧ Atomic s := by
  have hrun : (system ℕ ℕ).endsInWhen Kept {}
      [performs 0 (.write 7) 6, performs 1 .read 4, performs 2 .close 2,
        List.replicate 2 (.run 0 .none)].flatten
      (fun s => s.pc 0 = .returned (.write 0 (some 0)) ∧ s.chan.closedAt = some 1) = true := by
    decide +kernel
  obtain ⟨s, hs, hp, hc⟩ := System.exists_of_endsInWhen rfl hrun
  exact ⟨s, hs, hp, hc, atomic_of_kept hs⟩

/-- A write that has found the channel open places its item after it was closed, and succeeds. -/
theorem placed_after_close : ∃ s : State ℕ ℕ, (system ℕ ℕ).Reachable s ∧
    s.pc 0 = .returned (.write 0 (some 0)) ∧ s.chan.closedAt = some 0 ∧ s.chan.writeIdx = 1 := by
  have hrun : (system ℕ ℕ).endsIn {}
      [performs 0 (.write 7) 1, performs 1 .close 2, List.replicate 7 (.run 0 .none)].flatten
      (fun s => s.pc 0 = .returned (.write 0 (some 0)) ∧ s.chan.closedAt = some 0 ∧
        s.chan.writeIdx = 1) = true := by
    decide +kernel
  exact System.exists_of_endsIn rfl hrun

end BbtCoroutine.NoCacheChan
