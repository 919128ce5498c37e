import Mathlib.Data.BitVec

/-!
# The packed status word of a `CoPollEvent`

`Define.hpp` keeps the phase of an event and the mask of the trigger that won it in
one 64-bit word: the phase in the low byte, the mask (a C++ `short`) in the two bytes
above.  This file models the word bit for bit and proves that packing loses nothing.
-/

namespace BbtCoroutine

/-- A C++ `short` used as an event mask, by its bit pattern. -/
abbrev EventMask := BitVec 16

/-! ## The event bits of `PollEventType` -/

/-- `POLL_EVENT_TIMEOUT`. -/
def pollEventTimeout : EventMask := 0x001

/-- `POLL_EVENT_CUSTOM`. -/
def pollEventCustom : EventMask := 0x008

/-- `POLL_EVENT_CANCELLED`. -/
def pollEventCancelled : EventMask := 0x100

/-- `POLL_EVENT_CLOSED`. -/
def pollEventClosed : EventMask := 0x200

/-- `CoPollEventPhase`: the internal phases of an event. -/
inductive CoPollEventPhase
  | inited
  | arming
  | armed
  | parked
  | pending
  | triggering
  | final
  | cancelled
  deriving DecidableEq, Repr

namespace CoPollEventPhase

/-- The value of a phase in the status word. -/
def code : CoPollEventPhase → BitVec 64
  | inited => 0
  | arming => 1
  | armed => 2
  | parked => 3
  | pending => 4
  | triggering => 5
  | final => 6
  | cancelled => 7

/-- The phase with a given value; a value above `7` names no enumerator. -/
def ofCode (w : BitVec 64) : Option CoPollEventPhase :=
  [inited, arming, armed, parked, pending, triggering, final, cancelled].find? (·.code = w)

@[simp] lemma ofCode_code (p : CoPollEventPhase) : ofCode p.code = some p := by
  cases p <;> decide

/-- The phases an event can only be in after `CommitPark` has acted on it, or after it has
been cancelled. -/
def Settled : CoPollEventPhase → Prop
  | parked | triggering | final | cancelled => True
  | _ => False

/-- The phases no operation leaves. -/
def Terminal : CoPollEventPhase → Prop
  | final | cancelled => True
  | _ => False

end CoPollEventPhase

open CoPollEventPhase

/-! ## Packing -/

/-- `CO_POLLEVENT_PHASE_MASK`. -/
def coPollEventPhaseMask : BitVec 64 := 0xff

/-- `CO_POLLEVENT_FLAGS_MASK`. -/
def coPollEventFlagsMask : BitVec 64 := 0xffff <<< 8

/-- `PackCoPollEventState`. -/
def packCoPollEventState (phase : CoPollEventPhase) (flags : EventMask := 0) : BitVec 64 :=
  phase.code ||| (flags.setWidth 64 <<< 8)

/-- `GetCoPollEventPhase`; `none` stands for a byte that names no phase. -/
def getCoPollEventPhase (state : BitVec 64) : Option CoPollEventPhase :=
  ofCode (state &&& coPollEventPhaseMask)

/-- `GetCoPollEventFlags`. -/
def getCoPollEventFlags (state : BitVec 64) : EventMask :=
  ((state &&& coPollEventFlagsMask) >>> 8).setWidth 16

/-- A phase occupies the low byte only. -/
lemma code_getLsbD (p : CoPollEventPhase) {i : ℕ} (hi : 8 ≤ i) : p.code.getLsbD i = false := by
  have hlt : p.code.toNat < 2 ^ 8 := by cases p <;> decide
  exact Nat.testBit_lt_two_pow (hlt.trans_le (Nat.pow_le_pow_right (by decide) hi))

/-- The bits of the mask of the phases. -/
lemma coPollEventPhaseMask_getLsbD (i : ℕ) :
    coPollEventPhaseMask.getLsbD i = decide (i < 8) := by
  have h : coPollEventPhaseMask = (BitVec.allOnes 8).setWidth 64 := by decide
  rw [h, BitVec.getLsbD_setWidth, BitVec.getLsbD_allOnes]
  grind

/-- The bits of the mask of the flags. -/
lemma coPollEventFlagsMask_getLsbD {i : ℕ} (hi : i < 16) :
    coPollEventFlagsMask.getLsbD (8 + i) = true := by
  have h : coPollEventFlagsMask = ((BitVec.allOnes 16).setWidth 64) <<< 8 := by decide
  rw [h, BitVec.getLsbD_shiftLeft, BitVec.getLsbD_setWidth, BitVec.getLsbD_allOnes]
  grind

/-- The bits of a packed state. -/
lemma packCoPollEventState_getLsbD (p : CoPollEventPhase) (m : EventMask) (i : ℕ) :
    (packCoPollEventState p m).getLsbD i =
      (p.code.getLsbD i || (decide (8 ≤ i) && m.getLsbD (i - 8))) := by
  rw [packCoPollEventState, BitVec.getLsbD_or, BitVec.getLsbD_shiftLeft, BitVec.getLsbD_setWidth]
  have := m.getLsbD_of_ge (i - 8)
  grind

/-- The phase read back from a packed word. -/
@[simp] lemma getCoPollEventPhase_pack (p : CoPollEventPhase) (m : EventMask) :
    getCoPollEventPhase (packCoPollEventState p m) = some p := by
  have h : packCoPollEventState p m &&& coPollEventPhaseMask = p.code := by
    refine BitVec.eq_of_getLsbD_eq fun i _ => ?_
    rw [BitVec.getLsbD_and, packCoPollEventState_getLsbD, coPollEventPhaseMask_getLsbD]
    have := @code_getLsbD p i
    grind
  rw [getCoPollEventPhase, h, ofCode_code]

/-- The mask read back from a packed word. -/
@[simp] lemma getCoPollEventFlags_pack (p : CoPollEventPhase) (m : EventMask) :
    getCoPollEventFlags (packCoPollEventState p m) = m := by
  refine BitVec.eq_of_getLsbD_eq fun i hi => ?_
  rw [getCoPollEventFlags, BitVec.getLsbD_setWidth, BitVec.getLsbD_ushiftRight,
    BitVec.getLsbD_and, packCoPollEventState_getLsbD, coPollEventFlagsMask_getLsbD hi,
    code_getLsbD p (Nat.le_add_right 8 i)]
  simp [hi]

end BbtCoroutine
