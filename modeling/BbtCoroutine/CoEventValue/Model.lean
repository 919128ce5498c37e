import Mathlib.Data.List.Basic
import Mathlib.Logic.Function.Basic

/-!
# A model of `CoEventValue`

A value that a notification carries is stored with the id of its type.  The id of a base type is
a constant, an interface owner registers ids for the types of its own, and the id of a pointer is
computed from the id of what it points to.

A qualified type is a type with its `const` and `volatile`; the qualifiers of a pointer are kept
by what points to it.  The sizes are those of an LP64 platform.
-/

namespace BbtCoroutine.CoEventValue

/-! ## Types -/

/-- A type with a registered id; `C` are the types that are registered by interface owners. -/
inductive BaseType (C : Type*)
  | bool
  | char
  | signedChar
  | unsignedChar
  | short
  | unsignedShort
  | int
  | unsignedInt
  | long
  | unsignedLong
  | longLong
  | unsignedLongLong
  | float
  | double
  | void
  | custom (c : C)
  deriving DecidableEq

/-- The qualifiers of a type. -/
structure Qualifiers where
  const : Bool := false
  volatile : Bool := false
  deriving DecidableEq

/-- A type without qualifiers of its own: a base type, or a pointer to a type with its
qualifiers. -/
inductive CType (C : Type*)
  | base (b : BaseType C)
  | pointer (q : Qualifiers) (pointee : CType C)
  deriving DecidableEq

/-- `CoEventValueTypeId`. -/
abbrev TypeId :=
  UInt32

/-- `kCoEventValueNone`. -/
def none : TypeId := 0

/-- `kCoEventValueCustomBegin`. -/
def customBegin : TypeId := 0x100

/-- `kCoEventValuePointerBegin`. -/
def pointerBegin : TypeId := 0x10000

/-- `kCoEventValueMaxPointerDepth`. -/
def maxPointerDepth : ℕ := 7

/-- `CoEventValue::kInlineSize`. -/
def inlineSize : ℕ := 24

/-- The registrations with `BBT_COEVENT_VALUE_REGISTER_TYPE`. -/
structure Registry (C : Type*) where
  id : C → TypeId
  sizeof : C → ℕ
  customBegin_le : ∀ c, customBegin ≤ id c
  lt_pointerBegin : ∀ c, id c < pointerBegin
  id_injective : Function.Injective id

variable {C : Type*}

/-- The id of a base type. -/
def BaseType.id (r : Registry C) : BaseType C → TypeId
  | bool => 1
  | char => 2
  | unsignedChar => 3
  | short => 4
  | unsignedShort => 5
  | int => 6
  | unsignedInt => 7
  | long => 8
  | unsignedLong => 9
  | float => 10
  | double => 11
  | void => 12
  | signedChar => 13
  | longLong => 14
  | unsignedLongLong => 15
  | custom c => r.id c

/-- The size of a base type; `void` has none. -/
def BaseType.sizeof (r : Registry C) : BaseType C → Option ℕ
  | bool | char | signedChar | unsignedChar => some 1
  | short | unsignedShort => some 2
  | int | unsignedInt | float => some 4
  | long | unsignedLong | longLong | unsignedLongLong | double => some 8
  | void => Option.none
  | custom c => some (r.sizeof c)

namespace Qualifiers

/-- The summands of `const` and `volatile` in the id of a pointer. -/
def bits (q : Qualifiers) : TypeId :=
  (if q.const then 1 else 0) + if q.volatile then 2 else 0

end Qualifiers

namespace CType

/-- `CoEventValuePointerDepth` of the type with the qualifiers `q`: the specialisation is for
pointers without qualifiers. -/
def pointerDepth (q : Qualifiers) : CType C → ℕ
  | base _ => 0
  | pointer p t => if q.const || q.volatile then 0 else 1 + pointerDepth p t

/-- The assertions of `CoEventValueTraits` hold. -/
def accepted : CType C → Bool
  | base _ => true
  | pointer q t => decide (pointerDepth q t + 1 ≤ maxPointerDepth) && accepted t

/-- `CoEventValueTraits::id`. -/
def id (r : Registry C) : CType C → TypeId
  | base b => b.id r
  | pointer q t => pointerBegin + id r t * 4 + q.bits

/-- `sizeof`. -/
def sizeof (r : Registry C) : CType C → Option ℕ
  | base b => b.sizeof r
  | pointer _ _ => some 8

end CType

/-! ## Values -/

/-- A type that `From` and `Get` accept, with its own qualifiers. -/
structure ValueType (r : Registry C) where
  qualifiers : Qualifiers := {}
  type : CType C
  size : ℕ
  accepted : type.accepted = true
  sizeof : type.sizeof r = some size
  size_le : size ≤ inlineSize

/-- The bytes of an object of a type. -/
structure Object {r : Registry C} (T : ValueType r) where
  bytes : List UInt8
  length_bytes : bytes.length = T.size

/-- The members of a `CoEventValue`. -/
structure Value where
  buf : List UInt8
  size : UInt8 := 0
  type : TypeId := none
  length_buf : buf.length = inlineSize

variable {r : Registry C}

/-- `From`. -/
def from' (T : ValueType r) (value : Object T) : Value where
  buf := value.bytes ++ List.replicate (inlineSize - T.size) 0
  size := UInt8.ofNat T.size
  type := T.type.id r
  length_buf := by
    rw [List.length_append, List.length_replicate, value.length_bytes]
    exact Nat.add_sub_cancel' T.size_le

/-- `Get`: whether it succeeds, and what `out` is after it. -/
def Value.get (x : Value) (U : ValueType r) (out : Object U) : Bool × Object U :=
  if x.type = none ∨ x.type ≠ U.type.id r ∨ x.size.toNat ≠ U.size then (false, out)
  else
    (true,
      { bytes := x.buf.take U.size
        length_bytes := by
          rw [List.length_take, x.length_buf]
          exact Nat.min_eq_left U.size_le })

end BbtCoroutine.CoEventValue
