import Mathlib.Data.List.Basic
import Mathlib.Algebra.Order.Ring.Nat
import Mathlib.Logic.Function.Basic

/-!
# The table of the descriptors

`CoPollEvent` keeps a slot for each descriptor number: its close epoch, whether a close of it is
under way, and the events that wait for it.  Each function here is one critical section of
`_WaitersMtx`.  The waiters are weak references; `expired` tells which of them have no object
any more.

A slot that has never been closed may be erased, and it is the same then as an absent one: what
a function does is said by `FdSlots.slot`, which cannot see the difference.
-/

namespace BbtCoroutine

/-- The number of values of a `uint64_t`. -/
def epochMod : ℕ := 2 ^ 64

/-- `FdSlot`. -/
structure FdSlot (Ev : Type*) where
  epoch : ℕ := 0
  closing : Bool := false
  waiters : List Ev := []
  deriving DecidableEq

/-- `FdSlots`. -/
abbrev FdSlots (Ev : Type*) :=
  ℤ → Option (FdSlot Ev)

variable {Ev : Type*}

namespace FdSlot

/-- The slot may be erased once no close of it is under way. -/
def unused (x : FdSlot Ev) : Bool :=
  x.waiters.isEmpty && x.epoch == 0

/-- The slot after a close has begun. -/
def close (x : FdSlot Ev) : FdSlot Ev where
  epoch := (x.epoch + 1) % epochMod
  closing := true
  waiters := []

/-- A slot that is unused and not closing is the default one. -/
lemma eq_default {x : FdSlot Ev} (h : x.unused = true) (hc : x.closing = false) : x = {} := by
  obtain ⟨epoch, closing, waiters⟩ := x
  rw [unused, Bool.and_eq_true, List.isEmpty_iff, beq_iff_eq] at h
  obtain ⟨rfl, rfl⟩ := h
  cases hc
  rfl

end FdSlot

namespace FdSlots

/-- The slot of `fd`; an absent one is as `_Slots()[fd]` makes it. -/
def slot (t : FdSlots Ev) (fd : ℤ) : FdSlot Ev :=
  (t fd).getD {}

/-- `FdEpoch`. -/
def fdEpoch (t : FdSlots Ev) (fd : ℤ) : ℕ :=
  match t fd with
  | none => 0
  | some x => x.epoch

/-- `FdIsClosing`. -/
def fdIsClosing (t : FdSlots Ev) (fd : ℤ) : Bool :=
  match t fd with
  | none => false
  | some x => x.closing

/-- The slot of `fd` becomes `x`. -/
def set (t : FdSlots Ev) (fd : ℤ) (x : FdSlot Ev) : FdSlots Ev :=
  Function.update t fd (some x)

/-- The slot of `fd` becomes `x`, and is erased if nothing is known of it. -/
def store (t : FdSlots Ev) (fd : ℤ) (x : FdSlot Ev) : FdSlots Ev :=
  if x.unused && !x.closing then Function.update t fd none else t.set fd x

/-- The sample that `InitFdEvent` takes: the table, the epoch and whether `fd` is being closed. -/
def sample (t : FdSlots Ev) (fd : ℤ) : FdSlots Ev × ℕ × Bool :=
  (t.set fd (t.slot fd), (t.slot fd).epoch, (t.slot fd).closing)

/-- `_TrackWaiter` of an event `k` that waits for `fd`; `false` says that it is refused. -/
def trackWaiter (t : FdSlots Ev) (expired : Ev → Bool) (k : Ev) (fd : ℤ) (waitEpoch : ℕ) :
    FdSlots Ev × Bool :=
  let x := t.slot fd
  if x.closing || x.epoch != waitEpoch then (t.set fd x, false)
  else
    let waiters := x.waiters ++ [k]
    if 16 < waiters.length then
      (t.store fd { x with waiters := waiters.filter fun j => !expired j }, true)
    else (t.set fd { x with waiters := waiters }, true)

/-- `_UntrackWaiter` of an event `k` that waits for `fd`. -/
def untrackWaiter [DecidableEq Ev] (t : FdSlots Ev) (expired : Ev → Bool) (k : Ev) (fd : ℤ) :
    FdSlots Ev :=
  match t fd with
  | none => t
  | some x => t.store fd { x with waiters := x.waiters.filter fun j => !(j == k || expired j) }

/-- The critical section of `BeginFdClose`; `none` says that it returns `false`, and otherwise
the events that it is going to trigger are returned. -/
def beginFdClose (t : FdSlots Ev) (expired : Ev → Bool) (fd : ℤ) :
    FdSlots Ev × Option (List Ev) :=
  let x := t.slot fd
  if x.closing then (t.set fd x, none)
  else (t.set fd x.close, some (x.waiters.filter fun j => !expired j))

/-- The preparation of `BeginFdClose` allocates a slot or the list of the waiters. -/
def beginAllocates (t : FdSlots Ev) (fd : ℤ) : Bool :=
  match t fd with
  | none => true
  | some x => !x.closing && !x.waiters.isEmpty

/-- `EndFdClose`. -/
def endFdClose (t : FdSlots Ev) (fd : ℤ) : FdSlots Ev :=
  match t fd with
  | none => t
  | some x => t.store fd { x with closing := false }

/-! ## What the functions do to the slots -/

/-- The epoch of a descriptor is that of its slot. -/
lemma fdEpoch_eq (t : FdSlots Ev) (fd : ℤ) : t.fdEpoch fd = (t.slot fd).epoch := by
  unfold fdEpoch slot
  cases t fd <;> rfl

/-- Whether a descriptor is closing is what its slot says. -/
lemma fdIsClosing_eq (t : FdSlots Ev) (fd : ℤ) : t.fdIsClosing fd = (t.slot fd).closing := by
  unfold fdIsClosing slot
  cases t fd <;> rfl

/-- Setting a slot replaces it. -/
lemma slot_set (t : FdSlots Ev) (fd : ℤ) (x : FdSlot Ev) :
    (t.set fd x).slot = Function.update t.slot fd x := by
  funext fd'
  by_cases h : fd' = fd
  · subst h
    simp [slot, set]
  · simp [slot, set, h]

/-- An erased slot is the same as an unused one. -/
lemma slot_store (t : FdSlots Ev) (fd : ℤ) (x : FdSlot Ev) :
    (t.store fd x).slot = Function.update t.slot fd x := by
  unfold store
  split
  · rename_i h
    obtain ⟨hu, hc⟩ := Bool.and_eq_true_iff.mp h
    have hx : x = {} := FdSlot.eq_default hu (by simpa using hc)
    funext fd'
    by_cases hfd : fd' = fd
    · subst hfd
      simp [slot, hx]
    · simp [slot, hfd]
  · exact slot_set t fd x

/-- Taking a sample changes no slot. -/
lemma slot_sample (t : FdSlots Ev) (fd : ℤ) : (t.sample fd).1.slot = t.slot := by
  rw [sample, slot_set, Function.update_eq_self]

/-- The end of a close resets the mark of its slot. -/
lemma slot_endFdClose (t : FdSlots Ev) (fd : ℤ) :
    (t.endFdClose fd).slot =
      Function.update t.slot fd { t.slot fd with closing := false } := by
  unfold endFdClose
  split
  · rename_i h
    have hslot : t.slot fd = {} := by
      rw [slot, h]
      rfl
    rw [hslot]
    exact (Function.update_eq_self_iff.mpr hslot.symm).symm
  · rename_i x h
    have hslot : t.slot fd = x := by
      rw [slot, h]
      rfl
    rw [slot_store, hslot]

/-- `BeginFdClose` is refused exactly while `fd` is being closed. -/
lemma beginFdClose_none {t u : FdSlots Ev} {expired : Ev → Bool} {fd : ℤ}
    (h : t.beginFdClose expired fd = (u, none)) :
    (t.slot fd).closing = true ∧ u.slot = t.slot := by
  unfold beginFdClose at h
  dsimp only at h
  split at h
  · cases h
    exact ⟨‹_›, by rw [slot_set, Function.update_eq_self]⟩
  · cases h

/-- A close that begins empties the slot and takes its waiters. -/
lemma beginFdClose_some {t u : FdSlots Ev} {expired : Ev → Bool} {fd : ℤ} {ks : List Ev}
    (h : t.beginFdClose expired fd = (u, some ks)) :
    (t.slot fd).closing = false ∧ ks = (t.slot fd).waiters.filter (fun j => !expired j) ∧
      u.slot = Function.update t.slot fd (t.slot fd).close := by
  unfold beginFdClose at h
  dsimp only at h
  split at h
  · cases h
  · rename_i hc
    cases h
    exact ⟨by simpa using hc, rfl, slot_set _ _ _⟩

/-- A refused event is not entered, and the slot shows why. -/
lemma trackWaiter_false {t u : FdSlots Ev} {expired : Ev → Bool} {k : Ev} {fd : ℤ} {e : ℕ}
    (h : t.trackWaiter expired k fd e = (u, false)) :
    ((t.slot fd).closing = true ∨ (t.slot fd).epoch ≠ e) ∧ u.slot = t.slot := by
  unfold trackWaiter at h
  dsimp only at h
  split at h
  · rename_i hc
    cases h
    refine ⟨by simpa using hc, ?_⟩
    rw [slot_set, Function.update_eq_self]
  · split at h <;> cases h

/-- An event is entered under the current epoch of a slot that is not being closed. -/
lemma trackWaiter_true {t u : FdSlots Ev} {expired : Ev → Bool} {k : Ev} {fd : ℤ} {e : ℕ}
    (h : t.trackWaiter expired k fd e = (u, true)) :
    (t.slot fd).closing = false ∧ (t.slot fd).epoch = e ∧
      ∃ waiters, u.slot = Function.update t.slot fd { t.slot fd with waiters := waiters } ∧
        waiters.Sublist ((t.slot fd).waiters ++ [k]) ∧
        ∀ j ∈ (t.slot fd).waiters ++ [k], expired j = false → j ∈ waiters := by
  unfold trackWaiter at h
  dsimp only at h
  split at h
  · cases h
  · rename_i hc
    have hx : (t.slot fd).closing = false ∧ (t.slot fd).epoch = e := by simpa using hc
    refine ⟨hx.1, hx.2, ?_⟩
    split at h <;> cases h
    · exact ⟨_, slot_store _ _ _, List.filter_sublist, fun j hj he =>
        List.mem_filter.mpr ⟨hj, by simp [he]⟩⟩
    · exact ⟨_, slot_set _ _ _, List.Sublist.refl _, fun j hj _ => hj⟩

/-- An event that is entered or refused leaves the epochs and the marks as they are. -/
lemma trackWaiter_slot (t : FdSlots Ev) (expired : Ev → Bool) (k : Ev) (fd : ℤ) (e : ℕ) (fd' : ℤ) :
    ((t.trackWaiter expired k fd e).1.slot fd').closing = (t.slot fd').closing ∧
      ((t.trackWaiter expired k fd e).1.slot fd').epoch = (t.slot fd').epoch := by
  rcases h : t.trackWaiter expired k fd e with ⟨u, entered⟩
  cases entered with
  | false =>
    rw [(trackWaiter_false h).2]
    exact ⟨rfl, rfl⟩
  | true =>
    obtain ⟨-, -, waiters, hu, -⟩ := trackWaiter_true h
    rw [hu]
    by_cases hfd : fd' = fd
    · subst hfd
      simp
    · simp [hfd]

/-- Untracking removes the waiter and what has expired from the slot. -/
lemma slot_untrackWaiter [DecidableEq Ev] (t : FdSlots Ev) (expired : Ev → Bool) (k : Ev)
    (fd : ℤ) :
    (t.untrackWaiter expired k fd).slot = Function.update t.slot fd
      { t.slot fd with
        waiters := (t.slot fd).waiters.filter fun j => !(j == k || expired j) } := by
  unfold untrackWaiter
  split
  · rename_i h
    have hslot : t.slot fd = {} := by
      rw [slot, h]
      rfl
    rw [hslot]
    exact (Function.update_eq_self_iff.mpr hslot.symm).symm
  · rename_i x h
    have hslot : t.slot fd = x := by
      rw [slot, h]
      rfl
    rw [slot_store, hslot]

/-- An event that is taken out leaves the epochs and the marks as they are. -/
lemma untrackWaiter_slot [DecidableEq Ev] (t : FdSlots Ev) (expired : Ev → Bool) (k : Ev)
    (fd fd' : ℤ) :
    ((t.untrackWaiter expired k fd).slot fd').closing = (t.slot fd').closing ∧
      ((t.untrackWaiter expired k fd).slot fd').epoch = (t.slot fd').epoch := by
  rw [slot_untrackWaiter]
  by_cases hfd : fd' = fd
  · subst hfd
    simp
  · simp [hfd]

end FdSlots

end BbtCoroutine
