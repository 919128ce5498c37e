import Mathlib.Data.Finmap
import Mathlib.Algebra.BigOperators.Group.Multiset.Basic

/-!
# Finite maps with a default value

A finite map whose missing entries stand for a default value, and the sum of a quantity over
its entries.  As long as the quantity of the default value is `0`, the sum depends only on the
values: `total_insert` says what an insertion adds, and `total_erase` that the erasure of an
entry with the default value changes nothing.
-/

namespace FiniteMap

variable {κ β M : Type*} [DecidableEq κ] [AddCommMonoid M]

/-- The value of a key, `d` if the map has none. -/
def get (d : β) (m : Finmap fun _ : κ => β) (k : κ) : β :=
  (m.lookup k).getD d

/-- The sum of `f` over the values of the map. -/
def total (f : β → M) (m : Finmap fun _ : κ => β) : M :=
  (m.entries.map fun e => f e.2).sum

variable {d : β} {m : Finmap fun _ : κ => β} {k : κ} {b : β} {f : β → M}

@[simp] lemma get_empty (d : β) (k : κ) : get d (∅ : Finmap fun _ : κ => β) k = d := by
  rw [get, Finmap.lookup_empty, Option.getD_none]

/-- The value of a key that is found. -/
lemma get_of_lookup (h : m.lookup k = some b) : get d m k = b := by
  rw [get, h, Option.getD_some]

/-- The value of a key that is not found. -/
lemma get_of_none (h : m.lookup k = none) : get d m k = d := by
  rw [get, h, Option.getD_none]

/-- Insertion updates the value of its key. -/
lemma get_insert (d : β) (m : Finmap fun _ : κ => β) (k : κ) (b : β) :
    get d (m.insert k b) = Function.update (get d m) k b := by
  funext j
  by_cases hj : j = k
  · subst hj
    rw [Function.update_self, get, Finmap.lookup_insert, Option.getD_some]
  · rw [Function.update_of_ne hj, get, Finmap.lookup_insert_of_ne _ hj, get]

/-- An entry with the default value can be erased. -/
lemma get_erase (h : get d m k = d) : get d (m.erase k) = get d m := by
  funext j
  by_cases hj : j = k
  · subst hj
    rw [h, get, Finmap.lookup_erase, Option.getD_none]
  · rw [get, Finmap.lookup_erase_ne hj, get]

/-- A map is what is left without a key, and the entry of the key. -/
lemma insert_erase_of_lookup (h : m.lookup k = some b) : (m.erase k).insert k b = m := by
  refine Finmap.ext_lookup fun j => ?_
  by_cases hj : j = k
  · subst hj
    rw [Finmap.lookup_insert, h]
  · rw [Finmap.lookup_insert_of_ne _ hj, Finmap.lookup_erase_ne hj]

/-- The total after a new key has been inserted. -/
lemma total_insert_of_notMem (h : k ∉ m) : total f (m.insert k b) = f b + total f m := by
  rw [total, Finmap.entries_insert_of_notMem h, Multiset.map_cons, Multiset.sum_cons, total]

/-- The sum, with the entry of one key set apart. -/
lemma total_eq (h0 : f d = 0) (m : Finmap fun _ : κ => β) (k : κ) :
    total f m = f (get d m k) + total f (m.erase k) := by
  cases hk : m.lookup k with
  | none =>
    have herase : m.erase k = m := Finmap.ext_lookup fun j => by
      by_cases hj : j = k
      · subst hj
        rw [Finmap.lookup_erase, hk]
      · rw [Finmap.lookup_erase_ne hj]
    rw [get_of_none hk, h0, zero_add, herase]
  | some b =>
    rw [get_of_lookup hk, ← total_insert_of_notMem Finmap.notMem_erase_self,
      insert_erase_of_lookup hk]

/-- What an insertion adds to the sum. -/
lemma total_insert (h0 : f d = 0) (m : Finmap fun _ : κ => β) (k : κ) (b : β) :
    total f (m.insert k b) + f (get d m k) = total f m + f b := by
  have herase : (m.insert k b).erase k = m.erase k := Finmap.ext_lookup fun j => by
    by_cases hj : j = k
    · subst hj
      rw [Finmap.lookup_erase, Finmap.lookup_erase]
    · rw [Finmap.lookup_erase_ne hj, Finmap.lookup_erase_ne hj, Finmap.lookup_insert_of_ne _ hj]
  rw [total_eq h0 (m.insert k b) k, get_insert, Function.update_self, herase,
    total_eq h0 m k]
  ac_rfl

/-- The erasure of an entry with the default value does not change the sum. -/
lemma total_erase (h0 : f d = 0) (h : get d m k = d) : total f (m.erase k) = total f m := by
  rw [total_eq h0 m k, h, h0, zero_add]

omit [DecidableEq κ] in
/-- The sum of two quantities. -/
lemma total_add (f g : β → M) (m : Finmap fun _ : κ => β) :
    total (fun b => f b + g b) m = total f m + total g m :=
  Multiset.sum_map_add

/-- The sum depends only on the values of the map. -/
lemma total_congr {f f' : β → M} (h : ∀ k, f (get d m k) = f' (get d m k)) :
    total f m = total f' m := by
  refine congrArg Multiset.sum (Multiset.map_congr rfl fun e he => ?_)
  have hlookup : m.lookup e.1 = some e.2 := Finmap.lookup_eq_some_iff.mpr he
  rw [← get_of_lookup (d := d) hlookup]
  exact h e.1

/-- The elements of a sum of multisets are those of its entries. -/
lemma exists_of_mem_total {α : Type*} {f : β → Multiset α} {x : α} (h : x ∈ total f m) :
    ∃ k b, m.lookup k = some b ∧ x ∈ f b := by
  obtain ⟨t, ht, hx⟩ := Multiset.mem_join.mp h
  obtain ⟨e, he, rfl⟩ := Multiset.mem_map.mp ht
  exact ⟨e.1, e.2, Finmap.lookup_eq_some_iff.mpr he, hx⟩

end FiniteMap
