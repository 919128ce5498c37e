import BbtCoroutine.NoCacheChan.Model

/-!
# What a step of a coroutine does to a channel without a cache

`Plan s c e p a p'` lists what the coroutine `c` may do at the point `p` when the environment
answers with `e`, and `State.plan_cases` says that the list is complete.  The rest describes
the acts: what becomes of the members of the channel and of the wait records.
-/

namespace BbtCoroutine.NoCacheChan

open Wait

variable {Co α : Type*}

/-! ## The moves of an operation -/

/-- The critical sections with the loop of `Read`. -/
inductive ReadSection : Pc α → Prop
  | readLock : ReadSection .readLock
  | readRelock (ret : ℤ) : ReadSection (.readRelock ret)

/-- The moves of the coroutine `c`. -/
inductive Plan [DecidableEq Co] (s : State Co α) (c : Co) (e : Env) :
    Pc α → Act α → Pc α → Prop
  | returned (ret : Ret α) : Plan s c e (.returned ret) .skip .idle
  | writeClosed {item : α} : Plan s c e (.writeCheck item) .skip (.returned (.write (-1) none))
  | writeOpen {item : α} : Plan s c e (.writeCheck item) .skip (.writeLock item)
  | handOver {item : α} (hh : s.handsOver = true) : Plan s c e (.writeLock item) (.place item)
      (.returned (.write 0 (some s.chan.writeIdx)))
  | place {item : α} (hh : s.handsOver = false) : Plan s c e (.writeLock item) (.place item)
      (.prepare (.write s.chan.writeIdx))
  | readRefused : Plan s c e .readFlag .skip (.returned (.read (-2) none))
  | readFlag : Plan s c e .readFlag (.setReading true) .readClosed
  | readGoesOn {p p' : Pc α} (hp : p = .readClosed ∨ p = .readClosedLock)
      (hp' : p' = .readClosedLock ∨ p' = .readLock) : Plan s c e p .skip p'
  | readFails {p : Pc α} {r : ℤ} (hp : p = .readClosedLock ∨ ReadSection p) :
      Plan s c e p .skip (.readRelease (.read r none))
  | readWait {p : Pc α} (hp : ReadSection p) : Plan s c e p .skip (.prepare .read)
  | take {p : Pc α} (hp : ReadSection p) (hi : s.chan.readIdx < s.chan.writeIdx) :
      Plan s c e p .take
        (.readRelease (.read 0 (s.chan.itemCacheRef.head?.map (s.chan.readIdx, ·))))
  | readRelease {ret : Ret α} : Plan s c e (.readRelease ret) (.setReading false) (.returned ret)
  | closeCheck {p : Pc α} (hp : p = .returned .close ∨ p = .closeLock) :
      Plan s c e .closeCheck .skip p
  | close : Plan s c e .closeLock .close (.returned .close)
  | waitFails {w : Waiting} (he : s.busy w = true ∨ e = .registNull) :
      Plan s c e (.prepare w) .skip (afterWait (-1) w)
  | waitThrows {w : Waiting} : Plan s c e (.prepare w) .abandon (waitThrows w)
  | registCustom {w : Waiting} : Plan s c e (.prepare w) (.registCustom w) (.regist w)
  | registFails {w : Waiting} (he : e = .registFails) :
      Plan s c e (.regist w) .registFails (afterWait (-1) w)
  | registAwaitEvent {w : Waiting} : Plan s c e (.regist w) .registAwaitEvent (.callback w)
  | registerEnableWriteCond {slot : ℕ} : Plan s c e (.callback (.write slot))
      (.registerEnableWriteCond slot) (.commit (.write slot))
  | recheckEnableRead : Plan s c e (.callback .read) .recheckEnableRead (.commit .read)
  | commitPark {w : Waiting} : Plan s c e (.commit w) .commitPark (.parked w)
  | resume {w : Waiting} {m : EventMask} {r : ℤ} (hr : (s.wait c).round = .final m)
      (hw : ∀ slot, w = .write slot → r = 0) : Plan s c e (.parked w) (.resume m) (.unbind w r)
  | unbind {w : Waiting} {ret : ℤ} : Plan s c e (.unbind w ret) .unbind (afterWait ret w)

section

variable [DecidableEq Co] {s : State Co α} {c : Co} {e : Env}

/-- A computed move is a listed one if its value is. -/
lemma Plan.of_eq {p p' : Pc α} {a : Act α} {r : Act α × Pc α} (h : some r = some (a, p'))
    (hr : Plan s c e p r.1 r.2) : Plan s c e p a p' := by
  obtain rfl := Option.some.inj h
  exact hr

/-- The moves of the loop of a read. -/
lemma State.readLoop_cases {p : Pc α} (hp : ReadSection p) :
    Plan s c e p s.readLoop.1 s.readLoop.2 := by
  unfold State.readLoop
  split_ifs with hi
  · exact .take hp hi
  · exact .readFails (.inr hp)
  · exact .readWait hp

/-- The moves of the preparation of a wait. -/
lemma State.prepareWait_cases {w : Waiting} :
    Plan s c e (.prepare w) (s.prepareWait e w).1 (s.prepareWait e w).2 := by
  unfold State.prepareWait
  split_ifs with hw
  · exact .waitFails hw
  · exact .waitThrows
  · exact .registCustom

/-- Every move of a coroutine is one of the listed ones. -/
lemma State.plan_cases {a : Act α} {p : Pc α} (h : s.plan c e = some (a, p)) :
    Plan s c e (s.pc c) a p := by
  unfold State.plan at h
  cases hp : s.pc c <;> simp only [hp] at h
  case idle => cases h
  case returned =>
    cases h
    exact .returned _
  case writeCheck =>
    split_ifs at h <;> cases h
    · exact .writeClosed
    · exact .writeOpen
  case writeLock =>
    split_ifs at h with hh <;> cases h
    · exact .handOver hh
    · exact .place (Bool.eq_false_iff.mpr hh)
  case readFlag =>
    split_ifs at h <;> cases h
    · exact .readRefused
    · exact .readFlag
  case readClosed =>
    split_ifs at h <;> cases h
    · exact .readGoesOn (.inl rfl) (.inl rfl)
    · exact .readGoesOn (.inl rfl) (.inr rfl)
  case readClosedLock =>
    split_ifs at h <;> cases h
    · exact .readFails (.inl rfl)
    · exact .readGoesOn (.inr rfl) (.inr rfl)
  case readLock => exact .of_eq h (readLoop_cases .readLock)
  case readRelock ret =>
    split_ifs at h
    · cases h
      exact .readFails (.inr (.readRelock ret))
    · exact .of_eq h (readLoop_cases (.readRelock ret))
  case readRelease =>
    cases h
    exact .readRelease
  case closeCheck =>
    split_ifs at h <;> cases h
    · exact .closeCheck (.inl rfl)
    · exact .closeCheck (.inr rfl)
  case closeLock =>
    cases h
    exact .close
  case prepare => exact .of_eq h prepareWait_cases
  case regist =>
    split_ifs at h with he <;> cases h
    · exact .registFails he
    · exact .registAwaitEvent
  case callback w =>
    cases w <;> cases h
    · exact .registerEnableWriteCond
    · exact .recheckEnableRead
  case commit =>
    cases h
    exact .commitPark
  case parked w =>
    split at h <;> cases h
    refine .resume ‹_› fun slot hw => ?_
    rw [hw]
    rfl
  case unbind =>
    cases h
    exact .unbind

end

/-! ## The acts -/

section

variable [DecidableEq Co] (s : State Co α) (c : Co)

@[simp] lemma apply_pc (a : Act α) : (s.apply c a).pc = s.pc := by
  cases a with
  | place item =>
    simp only [State.apply, State.place]
    split_ifs <;> rfl
  | close =>
    simp only [State.apply, State.close]
    split_ifs <;> rfl
  | registerEnableWriteCond slot =>
    simp only [State.apply, State.registerEnableWriteCond]
    split_ifs <;> rfl
  | recheckEnableRead =>
    simp only [State.apply, State.recheckEnableRead]
    split_ifs <;> rfl
  | registCustom w => cases w <;> rfl
  | _ => rfl

end

/-- The members of a channel that record its items. -/
structure SameItems (x x' : NoCacheChan Co α) : Prop where
  itemCacheRef : x'.itemCacheRef = x.itemCacheRef
  readIdx : x'.readIdx = x.readIdx
  writeIdx : x'.writeIdx = x.writeIdx
  isClosed : x'.isClosed = x.isClosed
  placed : x'.placed = x.placed
  closedAt : x'.closedAt = x.closedAt

/-- A channel has the items that it has. -/
lemma SameItems.refl (x : NoCacheChan Co α) : SameItems x x := ⟨rfl, rfl, rfl, rfl, rfl, rfl⟩

/-- The acts that move an item or close the channel. -/
def Act.moves : Act α → Bool
  | .place _ | .take | .close => true
  | _ => false

section

variable [DecidableEq Co] {s : State Co α} {c : Co}

/-- The other acts leave the items as they are. -/
lemma sameItems_apply {a : Act α} (h : a.moves = false) :
    SameItems s.chan (s.apply c a).chan := by
  cases a with
  | place item => cases h
  | take => cases h
  | close => cases h
  | registerEnableWriteCond slot =>
    simp only [State.apply, State.registerEnableWriteCond]
    split_ifs <;> exact ⟨rfl, rfl, rfl, rfl, rfl, rfl⟩
  | recheckEnableRead =>
    simp only [State.apply, State.recheckEnableRead]
    split_ifs <;> exact .refl _
  | registCustom w => cases w <;> exact ⟨rfl, rfl, rfl, rfl, rfl, rfl⟩
  | _ => exact ⟨rfl, rfl, rfl, rfl, rfl, rfl⟩

/-- Placing an item. -/
lemma place_chan (item : α) : (s.place item).chan =
    { s.chan with
      itemCacheRef := s.chan.itemCacheRef ++ [item], writeIdx := s.chan.writeIdx + 1
      placed := s.chan.placed ++ [item] } := by
  simp only [State.place]
  split_ifs <;> rfl

/-- Closing the channel. -/
lemma close_chan : s.close.chan =
    { s.chan with
      isClosed := true, closedAt := some (s.chan.closedAt.getD s.chan.writeIdx)
      enableWriteConds := [] } := by
  simp only [State.close]
  split_ifs <;> rfl

end

end BbtCoroutine.NoCacheChan
