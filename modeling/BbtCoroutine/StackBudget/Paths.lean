import BbtCoroutine.StackBudget.Model
import Mathlib.Data.Set.Finite.Basic
import Mathlib.Logic.Relation
import Mathlib.Order.Bounds.Basic
import Mathlib.Order.WellFounded

/-!
# The call paths of a program

`Known` says that everything a function can reach is fully known and that no call path from it
runs in a cycle, `CallPath` lists the items of a call path, and `Correct` says that the result of
a walk is that of the largest one.
-/

namespace BbtCoroutine.StackBudget

variable {O S : Type} [DecidableEq O] [LinearOrder S] {g : Context O S} {k k' : O × S}

/-! ## The call graph -/

/-- The function `a` calls `b`. -/
def Calls (g : Context O S) (a b : O × S) : Prop :=
  ∃ f, g.frame a = some f ∧ ∃ t ∈ f.targets, g.resolve a.1 t = some b

/-- Nothing about the function is unknown. -/
structure Analysed (g : Context O S) (k : O × S) (f : Frame S) : Prop where
  frame : g.frame k = some f
  /-- The size of the frame is static. -/
  static : f.stack.qualifier = .static
  /-- The definition is strong. -/
  strong : f.kind.isWeak = false
  /-- Every transfer names a function. -/
  direct : ∀ t ∈ f.transfers, t.target ≠ none
  /-- Every transfer goes to the entry of the function. -/
  whole : ∀ t ∈ f.transfers, t.offset = false
  /-- The call graph and the disassembly agree. -/
  matching : ∀ x, x ∈ f.graph ↔ x ∈ f.machine
  /-- The final link selects the function. -/
  selected : g.selects k = .ok
  /-- Every target is defined or has a summary. -/
  targets : ∀ t ∈ f.targets, g.resolve k.1 t ≠ none ∨ g.external t ≠ none

/-- The function is fully known. -/
def Good (g : Context O S) (k : O × S) : Prop := ∃ f, Analysed g k f

/-- The function and everything that it can reach is fully known, and no cycle is reached. -/
inductive Known (g : Context O S) : O × S → Prop
  | intro {k : O × S} (hgood : Good g k) (h : ∀ k', Calls g k k' → Known g k') : Known g k

/-- A path reaches the function. -/
def Reaches (g : Context O S) : O × S → O × S → Prop := Relation.ReflTransGen (Calls g)

/-- The function is on a cycle. -/
def Cyclic (g : Context O S) (k : O × S) : Prop := Relation.TransGen (Calls g) k k

/-- A known function is good. -/
lemma Known.good (h : Known g k) : Good g k := by
  cases h with
  | intro hgood _ => exact hgood

/-- The callees of a known function are known. -/
lemma Known.calls (h : Known g k) (hc : Calls g k k') : Known g k' := by
  cases h with
  | intro _ h => exact h k' hc

/-- What a known function reaches is known. -/
lemma Known.reaches (h : Known g k) (hr : Reaches g k k') : Known g k' := by
  induction hr with
  | refl => exact h
  | tail _ hc ih => exact ih.calls hc

/-- A known function is not on a cycle. -/
lemma Known.not_cyclic (h : Known g k) : ¬ Cyclic g k := by
  induction h with
  | intro _ _ ih =>
    intro hc
    obtain ⟨k', hk', hr⟩ := Relation.TransGen.head'_iff.mp hc
    exact ih k' hk' (.tail' hr hk')

/-- The functions with metadata. -/
def Context.keys (g : Context O S) : List (O × S) :=
  g.objects.flatMap fun o => o.2.nodes.map fun n => (o.1, n.1)

/-- A function with a frame is one of the keys. -/
lemma Context.mem_keys {f : Frame S} (h : g.frame k = some f) : k ∈ g.keys := by
  obtain ⟨obj, hobj, hf⟩ := Option.bind_eq_some_iff.mp h
  obtain ⟨node, hnode, -⟩ := Option.bind_eq_some_iff.mp hf
  obtain ⟨l₁, l₂, hl, -⟩ := List.lookup_eq_some_iff.mp hobj
  obtain ⟨n₁, n₂, hn, -⟩ := List.lookup_eq_some_iff.mp hnode
  refine List.mem_flatMap.mpr ⟨(k.1, obj), ?_, List.mem_map.mpr ⟨(k.2, node), ?_, rfl⟩⟩
  · rw [hl]
    exact List.mem_append_right _ List.mem_cons_self
  · rw [hn]
    exact List.mem_append_right _ List.mem_cons_self

/-- `Known` is what its name says: everything that is reached is fully known and on no cycle. -/
theorem known_iff :
    Known g k ↔ ∀ k', Reaches g k k' → Good g k' ∧ ¬ Cyclic g k' := by
  constructor
  · intro h k' hr
    exact ⟨(h.reaches hr).good, (h.reaches hr).not_cyclic⟩
  · intro h
    -- the functions that are reached are finitely many, and calls among them are acyclic
    let R : Set (O × S) := {a | Reaches g k a}
    have hfin : R.Finite := by
      refine Set.Finite.subset (List.finite_toSet g.keys) fun a ha => ?_
      obtain ⟨⟨f, hf⟩, -⟩ := h a ha
      exact Context.mem_keys hf.frame
    have : Finite R := hfin
    let r : R → R → Prop := fun a b => Relation.TransGen (Calls g) b a
    have : IsTrans R r := ⟨fun _ _ _ hab hbc => hbc.trans hab⟩
    have : Std.Irrefl r := ⟨fun a ha => (h a a.2).2 ha⟩
    have hwf : WellFounded r := Finite.wellFounded_of_trans_of_irrefl r
    have hall : ∀ a : R, Known g a := by
      intro a
      induction a using hwf.induction with
      | _ a ih =>
        refine .intro (h a a.2).1 fun b hb => ?_
        exact ih ⟨b, Relation.ReflTransGen.tail a.2 hb⟩ (.single hb)
    exact hall ⟨k, .refl⟩

/-! ## The cost of a call path -/

/-- The items of the call paths that begin with the function.  A path may end at any function or
with an external function. -/
inductive CallPath (g : Context O S) : O × S → List (Item O S) → Prop
  | stop {k : O × S} {f : Frame S} (hf : g.frame k = some f) :
      CallPath g k [compilerItem k f.stack.bytes]
  | external {k : O × S} {f : Frame S} {t : S} {n : ℕ} (hf : g.frame k = some f)
      (ht : t ∈ f.targets) (hr : g.resolve k.1 t = none) (he : g.external t = some n) :
      CallPath g k [compilerItem k f.stack.bytes, assertedItem t n]
  | call {k k' : O × S} {f : Frame S} {p : List (Item O S)} (hf : g.frame k = some f)
      (hc : Calls g k k') (hp : CallPath g k' p) :
      CallPath g k (compilerItem k f.stack.bytes :: p)

/-- A known function with a frame is none of those on the way to it, so that these are fewer than
the functions. -/
lemma Known.card_lt {f : Frame S} (hk : Known g k) (hf : g.frame k = some f)
    (active : Finset (O × S))
    (hactive : ∀ a ∈ active, a ∈ g.keys ∧ Relation.TransGen (Calls g) a k) :
    k ∉ active ∧ active.card + 1 ≤ g.keys.toFinset.card := by
  have hnot : k ∉ active := fun ha => hk.not_cyclic (hactive k ha).2
  refine ⟨hnot, ?_⟩
  rw [← Finset.card_insert_of_notMem hnot]
  refine Finset.card_le_card fun a ha => List.mem_toFinset.mpr ?_
  obtain rfl | ha := Finset.mem_insert.mp ha
  · exact Context.mem_keys hf
  · exact (hactive a ha).1

/-- The items of a call path are functions that are not on the way to its first one, and at most
one that is external. -/
lemma Known.length_add_card_le (hk : Known g k) {p : List (Item O S)} (hp : CallPath g k p)
    (active : Finset (O × S))
    (hactive : ∀ a ∈ active, a ∈ g.keys ∧ Relation.TransGen (Calls g) a k) :
    p.length + active.card ≤ g.keys.toFinset.card + 1 := by
  induction hp generalizing active with
  | stop hf =>
    obtain ⟨-, hle⟩ := hk.card_lt hf active hactive
    simp only [List.length_singleton]
    omega
  | external hf =>
    obtain ⟨-, hle⟩ := hk.card_lt hf active hactive
    simp only [List.length_cons, List.length_nil]
    omega
  | @call k k' f p hf hc hp ih =>
    obtain ⟨hnot, -⟩ := hk.card_lt hf active hactive
    have hle := ih (hk.calls hc) (insert k active) fun a ha => by
      obtain rfl | ha := Finset.mem_insert.mp ha
      · exact ⟨Context.mem_keys hf, .single hc⟩
      · exact ⟨(hactive a ha).1, (hactive a ha).2.tail hc⟩
    rw [Finset.card_insert_of_notMem hnot] at hle
    rw [List.length_cons]
    omega

/-- A call path of a known function has no more items than there are functions, and one more for
an external function. -/
lemma Known.length_le (hk : Known g k) {p : List (Item O S)} (hp : CallPath g k p) :
    p.length ≤ g.keys.length + 1 := by
  have hle := hk.length_add_card_le hp ∅ fun a ha => absurd ha (Finset.notMem_empty a)
  have hcard := List.toFinset_card_le g.keys
  rw [Finset.card_empty] at hle
  omega

/-- What the compiler says of an item. -/
def Item.raw (i : Item O S) : ℕ :=
  match i.provenance with
  | .compiler => i.bytes
  | .userAsserted => 0

/-- What an item costs when the ABI adds `abi` bytes to each frame. -/
def Item.cost (abi : ℕ) (i : Item O S) : ℕ :=
  match i.provenance with
  | .compiler => i.bytes + abi
  | .userAsserted => i.bytes

/-- The sum of the frames of a path. -/
def rawCost (p : List (Item O S)) : ℕ := (p.map Item.raw).sum

/-- The sum of the costs of a path. -/
def cost (abi : ℕ) (p : List (Item O S)) : ℕ := (p.map (Item.cost abi)).sum

omit [DecidableEq O] [LinearOrder S] in
/-- The raw cost of a path with one more frame. -/
lemma rawCost_cons (b : ℕ) (p : List (Item O S)) :
    rawCost (compilerItem k b :: p) = b + rawCost p := List.sum_cons

omit [DecidableEq O] [LinearOrder S] in
/-- The cost of a path with one more frame. -/
lemma cost_cons (abi b : ℕ) (p : List (Item O S)) :
    cost abi (compilerItem k b :: p) = b + abi + cost abi p := List.sum_cons

/-- The result of a walk over the function is that of its largest call paths. -/
structure Correct (g : Context O S) (k : O × S) (r : Total O S) : Prop where
  raw : IsGreatest {n | ∃ p, CallPath g k p ∧ rawCost p = n} r.raw
  conditional : IsGreatest {n | ∃ p, CallPath g k p ∧ cost g.abi p = n} r.conditional
  path : CallPath g k r.path ∧ cost g.abi r.path = r.conditional ∧ r.path.length = r.depth
  staticPath : CallPath g k r.staticPath ∧ rawCost r.staticPath = r.raw

end BbtCoroutine.StackBudget
