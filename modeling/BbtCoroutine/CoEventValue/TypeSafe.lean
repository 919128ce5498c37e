import BbtCoroutine.CoEventValue.Model
import Mathlib.Algebra.Order.Ring.Nat
import Mathlib.Tactic.Ring

/-!
# The values are type safe

The id of a pointer type is a number in base four: the id of the innermost type, and a digit and
a constant for each pointer.  As long as this number stays below `2 ^ 32` it tells the types
apart.  The depth that is checked forgets the pointers below a qualified one, so it does not
bound the number.
-/

namespace BbtCoroutine.CoEventValue

variable {C : Type*} {r : Registry C}

/-! ## Statement -/

namespace CType

/-- How many pointers the type consists of, qualified or not. -/
def levels : CType C → ℕ
  | base _ => 0
  | pointer _ t => t.levels + 1

/-- What the pointers lead to in the end. -/
def innermost : CType C → BaseType C
  | base b => b
  | pointer _ t => t.innermost

/-- The arithmetic of the id leaves the range of 32 bits. -/
def wraps (r : Registry C) : CType C → Prop
  | base _ => False
  | pointer q t =>
    t.wraps r ∨ 2 ^ 32 ≤ pointerBegin.toNat + (t.id r).toNat * 4 + q.bits.toNat

/-- The type has at most seven pointers, or it has eight and the id of the innermost type is
small enough. -/
def fits (r : Registry C) (t : CType C) : Prop :=
  t.levels ≤ 7 ∨ t.levels = 8 ∧ (t.innermost.id r).toNat < 43691

end CType

/-- A value of the type `T` is read back as what it is, and as nothing else; the ids of `T` and
`U` are computed without a wrap and tell the types apart. -/
structure TypeSafe (T U : ValueType r) : Prop where
  same : U.type = T.type → ∀ (v : Object T) (out : Object U),
    ((from' T v).get U out).1 = true ∧ ((from' T v).get U out).2.bytes = v.bytes
  other : U.type ≠ T.type → ∀ (v : Object T) (out : Object U),
    (from' T v).get U out = (false, out)
  id_inj : T.type.id r = U.type.id r → T.type = U.type
  wraps_left : ¬ T.type.wraps r
  wraps_right : ¬ U.type.wraps r

/-! ## Ids as numbers -/

/-- The id of a type is below the ids of the qualified ones. -/
lemma BaseType.id_lt (b : BaseType C) : (b.id r).toNat < 65536 := by
  cases b with
  | custom c => exact UInt32.lt_iff_toNat_lt.mp (r.lt_pointerBegin c)
  | _ => exact of_decide_eq_true rfl

/-- The id of a type is positive. -/
lemma BaseType.id_pos (b : BaseType C) : 0 < (b.id r).toNat := by
  cases b with
  | custom c => exact lt_of_lt_of_le (by decide) (UInt32.le_iff_toNat_le.mp (r.customBegin_le c))
  | _ => exact of_decide_eq_true rfl

/-- The base type of the library with the given id. -/
def BaseType.ofId : ℕ → BaseType C
  | 1 => bool
  | 2 => char
  | 3 => unsignedChar
  | 4 => short
  | 5 => unsignedShort
  | 6 => int
  | 7 => unsignedInt
  | 8 => long
  | 9 => unsignedLong
  | 10 => float
  | 11 => double
  | 12 => void
  | 13 => signedChar
  | 14 => longLong
  | _ => unsignedLongLong

/-- A base type of the library is known by its id, which is below those of the other types. -/
lemma BaseType.ofId_id (b : BaseType C) :
    (∃ c, b = custom c) ∨ (b.id r).toNat < 256 ∧ ofId (b.id r).toNat = b := by
  cases b with
  | custom c => exact .inl ⟨c, rfl⟩
  | _ => exact .inr ⟨of_decide_eq_true rfl, rfl⟩

/-- Different types have different ids. -/
lemma BaseType.id_injective : Function.Injective (BaseType.id (C := C) r) := by
  have hc : ∀ c, 256 ≤ (r.id c).toNat := fun c => UInt32.le_iff_toNat_le.mp (r.customBegin_le c)
  intro b b' h
  rcases b.ofId_id (r := r) with ⟨c, rfl⟩ | ⟨hlt, hb⟩
  · rcases b'.ofId_id (r := r) with ⟨c', rfl⟩ | ⟨hlt', -⟩
    · rw [r.id_injective h]
    · rw [← h] at hlt'
      exact absurd (hc c) (not_le.mpr hlt')
  · rcases b'.ofId_id (r := r) with ⟨c', rfl⟩ | ⟨-, hb'⟩
    · rw [h] at hlt
      exact absurd (hc c') (not_le.mpr hlt)
    · rw [← hb, ← hb', h]

/-- The qualifiers take two bits. -/
lemma Qualifiers.bits_lt (q : Qualifiers) : q.bits.toNat < 4 := by
  obtain ⟨const, volatile⟩ := q
  cases const <;> cases volatile <;> decide

/-- Different qualifiers have different bits. -/
lemma Qualifiers.bits_injective {q q' : Qualifiers} (h : q.bits.toNat = q'.bits.toNat) :
    q = q' := by
  obtain ⟨const, volatile⟩ := q
  obtain ⟨const', volatile'⟩ := q'
  revert h
  cases const <;> cases volatile <;> cases const' <;> cases volatile' <;> decide

namespace CType

/-- The id of a pointer, unless its arithmetic wraps. -/
lemma id_pointer {q : Qualifiers} {t : CType C} (h : ¬ (pointer q t).wraps r) :
    ((pointer q t).id r).toNat = 65536 + (t.id r).toNat * 4 + q.bits.toNat := by
  have hlt : 65536 + (t.id r).toNat * 4 + q.bits.toNat < 2 ^ 32 := by
    by_contra hge
    exact h (.inr (not_lt.mp hge))
  change (pointerBegin + t.id r * 4 + q.bits).toNat = _
  rw [UInt32.toNat_add, UInt32.toNat_add, UInt32.toNat_mul]
  change ((65536 + (t.id r).toNat * 4 % 2 ^ 32) % 2 ^ 32 + q.bits.toNat) % 2 ^ 32 = _
  omega

/-- If the id of a pointer does not wrap, that of its target does not. -/
lemma not_wraps_of_pointer {q : Qualifiers} {t : CType C} (h : ¬ (pointer q t).wraps r) :
    ¬ t.wraps r :=
  fun ht => h (.inl ht)

/-- Ids that do not wrap tell the types apart. -/
lemma eq_of_id_eq {t u : CType C} (ht : ¬ t.wraps r) (hu : ¬ u.wraps r)
    (h : (t.id r).toNat = (u.id r).toNat) : t = u := by
  induction t generalizing u with
  | base b =>
    have hb := b.id_lt (r := r)
    cases u with
    | base b' => rw [BaseType.id_injective (UInt32.toNat_inj.mp h)]
    | pointer q' u =>
      rw [id_pointer hu] at h
      change (b.id r).toNat = _ at h
      omega
  | pointer q t ih =>
    rw [id_pointer ht] at h
    cases u with
    | base b' =>
      have hb := b'.id_lt (r := r)
      change _ = (b'.id r).toNat at h
      omega
    | pointer q' u =>
      rw [id_pointer hu] at h
      have hq := q.bits_lt
      have hq' := q'.bits_lt
      have hid : (t.id r).toNat = (u.id r).toNat := by omega
      have hbits : q.bits.toNat = q'.bits.toNat := by omega
      rw [ih (not_wraps_of_pointer ht) (not_wraps_of_pointer hu) hid,
        Qualifiers.bits_injective hbits]

/-- An id that does not wrap is positive. -/
lemma id_pos {t : CType C} (ht : ¬ t.wraps r) : 0 < (t.id r).toNat := by
  cases t with
  | base b => exact b.id_pos
  | pointer q t =>
    rw [id_pointer ht]
    omega

/-! ## When an id wraps -/

/-- The id without a bound. -/
def exactId (r : Registry C) : CType C → ℕ
  | base b => (b.id r).toNat
  | pointer q t => 65536 + t.exactId r * 4 + q.bits.toNat

/-- An id that does not wrap is the exact one. -/
lemma id_eq_exactId {t : CType C} (ht : ¬ t.wraps r) : (t.id r).toNat = t.exactId r := by
  induction t with
  | base b => rfl
  | pointer q t ih => rw [id_pointer ht, exactId, ih (not_wraps_of_pointer ht)]

/-- An id wraps if the exact one has more than 32 bits. -/
lemma wraps_iff_exactId {t : CType C} : t.wraps r ↔ 2 ^ 32 ≤ t.exactId r := by
  induction t with
  | base b =>
    have hb := b.id_lt (r := r)
    refine ⟨False.elim, fun h => ?_⟩
    rw [exactId] at h
    omega
  | pointer q t ih =>
    rw [wraps, exactId]
    by_cases ht : t.wraps r
    · refine ⟨fun _ => ?_, fun _ => .inl ht⟩
      have := ih.mp ht
      omega
    · rw [id_eq_exactId ht]
      exact ⟨fun h => h.resolve_left ht, .inr⟩

/-- The id of `d` pointers without qualifiers to a type with the id `b`. -/
def stacked (b : ℕ) : ℕ → ℕ
  | 0 => b
  | d + 1 => 65536 + stacked b d * 4

/-- Stacking is monotone. -/
lemma stacked_mono {b b' d d' : ℕ} (hb : b ≤ b') (hd : d ≤ d') :
    stacked b d ≤ stacked b' d' := by
  induction hd with
  | refl =>
    induction d with
    | zero => exact hb
    | succ d ih =>
      rw [stacked, stacked]
      omega
  | step _ ih =>
    rw [stacked]
    omega

/-- The number of the pointers and the innermost type leave `4 ^ t.levels` ids to a type. -/
lemma exactId_bounds (t : CType C) :
    stacked (t.innermost.id r).toNat t.levels ≤ t.exactId r ∧
      t.exactId r < stacked (t.innermost.id r).toNat t.levels + 4 ^ t.levels := by
  induction t with
  | base b => exact ⟨le_rfl, Nat.lt_succ_self _⟩
  | pointer q t ih =>
    obtain ⟨hlo, hhi⟩ := ih
    have hq := q.bits_lt
    rw [exactId, innermost, levels, stacked, pow_succ]
    omega

/-- The id of a type is computed without a wrap exactly if the type fits. -/
lemma not_wraps_iff_fits {t : CType C} : ¬ t.wraps r ↔ t.fits r := by
  obtain ⟨hlo, hhi⟩ := exactId_bounds (r := r) t
  have hb := t.innermost.id_lt (r := r)
  rw [wraps_iff_exactId, not_le, fits]
  rcases lt_trichotomy t.levels 8 with hd | hd | hd
  · have hd : t.levels ≤ 7 := Nat.le_of_lt_succ hd
    refine ⟨fun _ => .inl hd, fun _ => ?_⟩
    calc t.exactId r < stacked (t.innermost.id r).toNat t.levels + 4 ^ t.levels := hhi
      _ ≤ stacked 65535 7 + 4 ^ 7 :=
        Nat.add_le_add (stacked_mono (Nat.le_of_lt_succ hb) hd)
          (Nat.pow_le_pow_right (by decide) hd)
      _ ≤ 2 ^ 32 := by decide
  · rw [hd] at hlo hhi ⊢
    simp only [stacked] at hlo hhi
    omega
  · have hnine : 2 ^ 32 ≤ t.exactId r :=
      calc 2 ^ 32 ≤ stacked 0 9 := by decide
        _ ≤ stacked (t.innermost.id r).toNat t.levels := stacked_mono (Nat.zero_le _) hd
        _ ≤ t.exactId r := hlo
    omega

end CType

/-! ## Values -/

/-- What is read as its own type is what was stored. -/
lemma get_same {T U : ValueType r} (h : U.type = T.type) (ht : ¬ T.type.wraps r) (v : Object T)
    (out : Object U) :
    ((from' T v).get U out).1 = true ∧ ((from' T v).get U out).2.bytes = v.bytes := by
  have hsize : U.size = T.size := by
    have := U.sizeof
    rw [h, T.sizeof] at this
    exact (Option.some.inj this).symm
  have hpos := CType.id_pos ht
  have hlt : T.size < 256 := lt_of_le_of_lt T.size_le (by decide)
  have hnone : T.type.id r ≠ none := by
    intro hn
    rw [hn] at hpos
    exact absurd hpos (by decide)
  have hu8 : (UInt8.ofNat T.size).toNat = U.size := by
    rw [hsize, UInt8.toNat_ofNat_of_lt' hlt]
  have hcond : ¬ ((from' T v).type = none ∨ (from' T v).type ≠ U.type.id r ∨
      (from' T v).size.toNat ≠ U.size) := by
    rintro (h' | h' | h')
    · exact hnone h'
    · exact h' (by rw [h]; rfl)
    · exact h' hu8
  rw [Value.get, if_neg hcond]
  refine ⟨rfl, ?_⟩
  change (v.bytes ++ _).take U.size = v.bytes
  rw [hsize, ← v.length_bytes, List.take_left]

/-- What has another id is not read. -/
lemma get_other {T U : ValueType r} (h : T.type.id r ≠ U.type.id r) (v : Object T)
    (out : Object U) : (from' T v).get U out = (false, out) := by
  rw [Value.get, if_pos (.inr (.inl h))]

/-- The values of the types `T` and `U` are type safe exactly if both types fit. -/
theorem typeSafe_iff (T U : ValueType r) : TypeSafe T U ↔ T.type.fits r ∧ U.type.fits r := by
  rw [← CType.not_wraps_iff_fits, ← CType.not_wraps_iff_fits]
  refine ⟨fun h => ⟨h.wraps_left, h.wraps_right⟩, fun ⟨ht, hu⟩ => ?_⟩
  have hinj : T.type.id r = U.type.id r → T.type = U.type := fun h =>
    CType.eq_of_id_eq ht hu (congrArg UInt32.toNat h)
  exact
    { same := fun h => get_same h ht
      other := fun h => get_other fun hid => h (hinj hid).symm
      id_inj := hinj
      wraps_left := ht
      wraps_right := hu }

/-- No type is registered. -/
def noCustom : Registry Empty where
  id c := c.elim
  sizeof c := c.elim
  customBegin_le c := c.elim
  lt_pointerBegin c := c.elim
  id_injective c := c.elim

/-- `n` pointers to `b`, each but the last `const`. -/
def constPointers {C : Type*} (b : BaseType C) : ℕ → CType C
  | 0 => .base b
  | n + 1 => .pointer { const := true } (constPointers b n)

/-- The assertions accept `const` pointers of any depth. -/
lemma accepted_constPointers (b : BaseType C) (n : ℕ) :
    (constPointers b n).accepted = true := by
  induction n with
  | zero => rfl
  | succ n ih =>
    rw [constPointers, CType.accepted, ih, Bool.and_true, decide_eq_true_iff]
    cases n <;> exact Nat.le_add_left 1 6

/-- A value of such a pointer type. -/
def constPointersType (r : Registry C) (b : BaseType C) (n : ℕ) : ValueType r where
  type := constPointers b (n + 1)
  size := 8
  accepted := accepted_constPointers b (n + 1)
  sizeof := rfl
  size_le := by decide

/-- Sixteen pointers to `int` are read back as sixteen pointers to `char`. -/
theorem not_typeSafe_constPointers :
    (constPointersType noCustom .char 15).type ≠ (constPointersType noCustom .int 15).type ∧
      (∀ (v : Object (constPointersType noCustom .int 15))
        (out : Object (constPointersType noCustom .char 15)),
        ((from' _ v).get _ out).1 = true) ∧
      ¬ TypeSafe (constPointersType noCustom .int 15) (constPointersType noCustom .char 15) := by
  have hne : (constPointersType noCustom .char 15).type ≠
      (constPointersType noCustom .int 15).type := by decide
  have hget : ∀ (v : Object (constPointersType noCustom .int 15))
      (out : Object (constPointersType noCustom .char 15)),
      ((from' _ v).get _ out).1 = true := by
    intro v out
    have hid : (constPointersType noCustom .int 15).type.id noCustom =
        (constPointersType noCustom .char 15).type.id noCustom := by decide +kernel
    have hnone : (constPointersType noCustom .int 15).type.id noCustom ≠ none := by
      decide +kernel
    rw [Value.get, if_neg]
    rintro (h | h | h)
    · exact hnone h
    · exact h hid
    · exact h rfl
  refine ⟨hne, hget, fun h => ?_⟩
  have hother := h.other hne ⟨List.replicate 8 0, rfl⟩ ⟨List.replicate 8 0, rfl⟩
  have htrue := hget ⟨List.replicate 8 0, rfl⟩ ⟨List.replicate 8 0, rfl⟩
  rw [hother] at htrue
  cases htrue

end BbtCoroutine.CoEventValue
