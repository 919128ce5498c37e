import Mathlib.Data.Finset.Basic
import Mathlib.Data.List.MinMax
import Mathlib.Data.List.Sort
import Mathlib.Logic.Function.Basic
import Mathlib.Algebra.Order.Ring.Nat

/-!
# A model of `stack_budget.py`

`aggregate` walks over the call graph of the analysed objects from an entry and computes, with
a cache, the largest stack of a call path; `analyze` compares the budget with the usable stack of
each entry.

What the tools say of an object is its `Obj`: the call graph of the compiler with the frames, the
symbols of `nm` and the transfers of the disassembly.  Whether the final link selects a function
of an object (`verify_selection`) and what the check of the link inputs says are parameters, and
so is the recursion limit of the interpreter, at which a walk ends with an error.
-/

namespace BbtCoroutine.StackBudget

variable {O S : Type}

/-- `LIMIT`. -/
def limit : ℕ := 2 ^ 63 - 1

/-- What ends an analysis without a report. -/
inductive Error
  /-- A `BudgetError` of the arithmetic. -/
  | overflow
  /-- A `BudgetError` with the status `STALE`. -/
  | stale
  /-- A `BudgetError` of the checks of the manifest and of the assertion. -/
  | invalid
  /-- A `KeyError`: an object that is not analysed. -/
  | unknownObject
  /-- A `RecursionError`. -/
  | recursionLimit
  deriving DecidableEq, Repr

/-- `add`. -/
def add (values : List ℕ) : Except Error ℕ :=
  if values.sum ≤ limit then .ok values.sum else .error .overflow

/-- `align`. -/
def align (value page : ℕ) : Except Error ℕ :=
  add [value, (page - value % page) % page]

/-! ## The objects -/

/-- The qualifier of a frame. -/
inductive Qualifier
  | static
  | dynamic
  | dynamicBounded
  deriving DecidableEq, Repr

/-- The kind of a symbol: `T`, `t`, `W`, `w` or another letter. -/
inductive Kind
  | globalText
  | localText
  | weak
  | weakUndefined
  | other
  deriving DecidableEq, Repr

/-- The kind is in `"TtWw"`. -/
def Kind.emitted (k : Kind) : Bool := k ≠ .other

/-- The kind is in `"Ww"`. -/
def Kind.isWeak (k : Kind) : Bool := k = .weak || k = .weakUndefined

/-- The kind is `T` or `W`. -/
def Kind.isGlobal (k : Kind) : Bool := k = .globalText || k = .weak

/-- The decoration of a node. -/
structure Stack where
  bytes : ℕ
  qualifier : Qualifier
  deriving DecidableEq, Repr

/-- A transfer of control in the disassembly of a function. -/
structure Transfer (S : Type) where
  symbol : Option S
  indirect : Bool
  offset : Bool
  deriving DecidableEq

/-- The function that is called, if the transfer names one. -/
def Transfer.target (t : Transfer S) : Option S := if t.indirect then none else t.symbol

/-- An analysed object.  A node with a stack is an emitted symbol, as `read_object` requires.  The
set of the edges is a list. -/
structure Obj (S : Type) [DecidableEq S] where
  nodes : List (S × Option Stack)
  graph : List (S × S)
  nm : List (S × Kind)
  blocks : List (S × List (Transfer S))
  emitted : ∀ n ∈ nodes, n.2 ≠ none → (nm.lookup n.1).any Kind.emitted = true

/-- What the analysis says of a function that it can see. -/
structure Frame (S : Type) where
  stack : Stack
  kind : Kind
  transfers : List (Transfer S)
  graph : List S

/-- `REQUIRED_COVERAGE`. -/
def requiredCoverage : List String :=
  ["coroutine_wrapper", "std_function", "fcontext", "exception_unwind", "destructors", "stack_chk",
    "red_zone", "return_address", "alignment", "runtime_callbacks", "no_interposition",
    "dynamic_loader"]

/-- The manual assertion. -/
structure Assertion (S : Type) where
  runtimeExtraBytes : ℕ
  abiExtraPerFrameBytes : ℕ
  external : List (S × ℕ)
  covers : List String

/-- The result of `verify_selection`. -/
inductive Selection
  | ok
  | unknown
  | stale
  deriving DecidableEq, Repr

/-- What an analysis is given. -/
structure Context (O S : Type) [DecidableEq S] where
  objects : List (O × Obj S)
  assertion : Option (Assertion S)
  /-- `verify_selection`, if there is evidence of a final link. -/
  selection : Option (O × S → Selection)

/-- Why a budget is not known. -/
inductive Reason (O S : Type)
  /-- Recursive SCC. -/
  | recursive (k : O × S)
  /-- Missing stack or machine metadata. -/
  | missing (k : O × S)
  | qualifier (k : O × S) (q : Qualifier)
  | weak (k : O × S)
  /-- Indirect or unresolved machine transfer. -/
  | indirect (k : O × S)
  /-- Transfer that does not go to the entry of a function. -/
  | offset (k : O × S)
  /-- VCG/machine edge mismatch. -/
  | mismatch (k : O × S) (target : S)
  | selection (k : O × S)
  /-- Missing metadata or summary of a target. -/
  | summary (k : O × S) (target : S)
  | notAsserted
  | coverageGap (gap : String)
  /-- Final ELF or link-selection evidence is missing. -/
  | link
  /-- What the check of the link inputs says. -/
  | linkInputs
  deriving DecidableEq

/-- Where the bytes of an item come from. -/
inductive Provenance
  | compiler
  | userAsserted
  deriving DecidableEq, Repr

/-- An item of a call path. -/
structure Item (O S : Type) where
  object : Option O
  symbol : S
  bytes : ℕ
  provenance : Provenance
  deriving DecidableEq

/-- What a walk returns. -/
structure Total (O S : Type) where
  raw : ℕ := 0
  conditional : ℕ := 0
  path : List (Item O S) := []
  depth : ℕ := 0
  staticPath : List (Item O S) := []
  deriving DecidableEq

/-- What the walks of one call of `aggregate` share. -/
structure WalkState (O S : Type) where
  unknown : Finset (Reason O S) := ∅
  visited : Finset (O × S) := ∅
  active : Finset (O × S) := ∅
  selected : Finset (O × S) := ∅
  cache : O × S → Option (Total O S) := fun _ => none

variable [DecidableEq O] [LinearOrder S]

namespace Frame

/-- The functions that the disassembly calls. -/
def machine (f : Frame S) : List S := f.transfers.filterMap Transfer.target

/-- `sorted(graph | machine)`. -/
def targets (f : Frame S) : List S := (f.graph ++ f.machine).dedup.insertionSort (· ≤ ·)

/-- `sorted(graph ^ machine)`. -/
def mismatches (f : Frame S) : List S :=
  (f.graph.filter (· ∉ f.machine) ++ f.machine.filter (· ∉ f.graph)).dedup.insertionSort (· ≤ ·)

/-- What a transfer leaves unknown. -/
def transferReasons (k : O × S) (t : Transfer S) : List (Reason O S) :=
  match t.target with
  | none => [.indirect k]
  | some _ => if t.offset then [.offset k] else []

/-- What the function itself leaves unknown. -/
def reasons (f : Frame S) (k : O × S) : List (Reason O S) :=
  (if f.stack.qualifier ≠ .static then [.qualifier k f.stack.qualifier] else []) ++
    (if f.kind.isWeak then [.weak k] else []) ++ f.transfers.flatMap (transferReasons k) ++
    f.mismatches.map (.mismatch k)

end Frame

/-- The metadata of a function of the object. -/
def Obj.frame (obj : Obj S) (symbol : S) : Option (Frame S) := do
  let node ← obj.nodes.lookup symbol
  let stack ← node
  let transfers ← obj.blocks.lookup symbol
  let kind ← obj.nm.lookup symbol
  some ⟨stack, kind, transfers, (obj.graph.filter (·.1 = symbol)).map Prod.snd⟩

namespace Context

variable (g : Context O S)

/-- The metadata of a function. -/
def frame (k : O × S) : Option (Frame S) := (g.objects.lookup k.1).bind (·.frame k.2)

/-- `resolve`. -/
def resolve (owner : O) (symbol : S) : Option (O × S) :=
  if ((g.objects.lookup owner).bind (·.nm.lookup symbol)).any Kind.emitted then some (owner, symbol)
  else
    match g.objects.filter fun o => (o.2.nm.lookup symbol).any Kind.isGlobal with
    | [o] => some (o.1, symbol)
    | _ => none

/-- The summary of an external function. -/
def external (symbol : S) : Option ℕ := g.assertion.bind (·.external.lookup symbol)

/-- What the ABI adds to a frame. -/
def abi : ℕ := (g.assertion.map Assertion.abiExtraPerFrameBytes).getD 0

/-- What the runtime adds to a budget. -/
def runtimeExtra : ℕ := (g.assertion.map Assertion.runtimeExtraBytes).getD 0

/-- What the final link says of the function. -/
def selects (k : O × S) : Selection := (g.selection.map (· k)).getD .ok

end Context

/-- Some reasons why the budget is not known are added. -/
def WalkState.note (st : WalkState O S) (l : List (Reason O S)) : WalkState O S :=
  { st with unknown := st.unknown ∪ l.toFinset }

/-- An item for a frame. -/
def compilerItem (k : O × S) (bytes : ℕ) : Item O S := ⟨some k.1, k.2, bytes, .compiler⟩

/-- An item for an external function. -/
def assertedItem (symbol : S) (bytes : ℕ) : Item O S := ⟨none, symbol, bytes, .userAsserted⟩

/-- The child for an external function. -/
def externalTotal (symbol : S) (bytes : ℕ) : Total O S :=
  { conditional := bytes, path := [assertedItem symbol bytes], depth := 1 }

/-- The result for a function with the given children. -/
def combine (k : O × S) (frame abi : ℕ) (children : List (Total O S)) :
    Except Error (Total O S) := do
  let raw := (children.argmax Total.raw).getD {}
  let best := (children.argmax Total.conditional).getD {}
  let known ← add [frame, raw.raw]
  let conditional ← add [frame, abi, best.conditional]
  return ⟨known, conditional, compilerItem k frame :: best.path, 1 + best.depth,
    compilerItem k frame :: raw.staticPath⟩

namespace Context

variable (g : Context O S)

/-- The call of `verify_selection`. -/
def verify (k : O × S) (st : WalkState O S) : Except Error (WalkState O S) :=
  match g.selects k with
  | .ok =>
    .ok (if g.selection.isSome then { st with selected := insert k st.selected } else st)
  | .unknown => .ok (st.note [.selection k])
  | .stale => .error .stale

/-- The loop over the targets of `k`; `rec` walks over a function. -/
def walkTargets (rec : O × S → WalkState O S → Except Error (Total O S × WalkState O S))
    (k : O × S) : List S → WalkState O S → Except Error (List (Total O S) × WalkState O S)
  | [], st => .ok ([], st)
  | t :: ts, st =>
    match g.resolve k.1 t with
    | some k' => do
      let (r, st) ← rec k' st
      let (rs, st) ← walkTargets rec k ts st
      return (r :: rs, st)
    | none =>
      match g.external t with
      | some n => do
        let (rs, st) ← walkTargets rec k ts st
        return (externalTotal t n :: rs, st)
      | none => walkTargets rec k ts (st.note [.summary k t])

/-- `walk`; the first argument is what is left of the recursion limit. -/
def walk : ℕ → O × S → WalkState O S → Except Error (Total O S × WalkState O S)
  | 0, _, _ => .error .recursionLimit
  | n + 1, k, st =>
    let st := { st with visited := insert k st.visited }
    match g.objects.lookup k.1 with
    | none => .error .unknownObject
    | some _ =>
      if k ∈ st.active then .ok ({}, st.note [.recursive k])
      else
        match st.cache k with
        | some r => .ok (r, st)
        | none =>
          match g.frame k with
          | none => .ok ({}, st.note [.missing k])
          | some f => do
            let st ← g.verify k (st.note (f.reasons k))
            let (children, st) ← g.walkTargets (walk n) k f.targets
              { st with active := insert k st.active }
            let r ← combine k f.stack.bytes g.abi children
            return (r, { st with
              active := st.active.erase k, cache := Function.update st.cache k (some r) })

/-- What the assertion leaves unknown. -/
def assertionReasons : List (Reason O S) :=
  match g.assertion with
  | none => [.notAsserted]
  | some a => (requiredCoverage.filter (· ∉ a.covers)).map .coverageGap

/-- What `aggregate` returns. -/
structure Aggregate (O S : Type) where
  total : Total O S
  unknown : Finset (Reason O S)
  visited : Finset (O × S)
  selected : Finset (O × S)

/-- `aggregate`. -/
def aggregate (depth : ℕ) (k : O × S) : Except Error (Aggregate O S) := do
  let (r, st) ← g.walk depth k {}
  return ⟨r, (st.note g.assertionReasons).unknown, st.visited, st.selected⟩

end Context

/-! ## The verdict -/

/-- An entry of the manifest. -/
structure Entry (O S : Type) where
  object : O
  symbol : S
  usableBytes : ℕ

/-- The function that an entry selects. -/
def Entry.key (e : Entry O S) : O × S := (e.object, e.symbol)

/-- The manifest. -/
structure Manifest (O S : Type) where
  pageSize : ℕ
  marginBytes : ℕ
  entries : List (Entry O S)

/-- The status of an entry and of a report. -/
inductive Status
  | withinModel
  | exceeds
  | unknown
  deriving DecidableEq, Repr

/-- What `analyze` reports of an entry. -/
structure EntryReport (O S : Type) where
  entry : Entry O S
  status : Status
  staticKnownPathBytes : ℕ
  conditionalBudgetBytes : Option ℕ
  recommendedUsableBytes : Option ℕ
  unknownEdges : Finset (Reason O S)
  criticalPath : List (Item O S)
  staticCriticalPath : List (Item O S)
  modeledFrameDepth : ℕ

/-- `integer`. -/
def IsInteger (n : ℕ) (positive : Bool) : Prop := (if positive then 1 else 0) ≤ n ∧ n ≤ limit

/-- Whether a number of a manifest is an integer can be computed. -/
instance decidableIsInteger (n : ℕ) (positive : Bool) : Decidable (IsInteger n positive) :=
  inferInstanceAs (Decidable (_ ∧ _))

/-- `require`. -/
def require (p : Prop) [Decidable p] (e : Error) : Except Error Unit :=
  if p then .ok () else .error e

namespace Context

variable (g : Context O S)

/-- The entry selects an emitted function of an object, and its stack is one of whole pages. -/
def EntryValid (pageSize : ℕ) (e : Entry O S) : Prop :=
  ((g.objects.lookup e.object).bind fun o => (o.nodes.lookup e.symbol).join).isSome = true ∧
    IsInteger e.usableBytes true ∧ e.usableBytes % pageSize = 0 ∧ e.usableBytes + pageSize ≤ limit

/-- Whether an entry is valid can be computed. -/
instance decidableEntryValid (pageSize : ℕ) (e : Entry O S) : Decidable (g.EntryValid pageSize e) :=
  inferInstanceAs (Decidable (_ ∧ _))

/-- The checks of `manifest_inputs`. -/
def ManifestValid (m : Manifest O S) : Prop :=
  IsInteger m.pageSize true ∧ IsInteger m.marginBytes false ∧ g.objects ≠ [] ∧
    (∀ e ∈ m.entries, g.EntryValid m.pageSize e) ∧ m.entries ≠ []

/-- Whether a manifest is valid can be computed. -/
instance decidableManifestValid (m : Manifest O S) : Decidable (g.ManifestValid m) :=
  inferInstanceAs (Decidable (_ ∧ _))

/-- The checks of `assertion_inputs`. -/
def AssertionValid : Prop :=
  ∀ a ∈ g.assertion, IsInteger a.runtimeExtraBytes true ∧
    IsInteger a.abiExtraPerFrameBytes true ∧ ∀ x ∈ a.external, IsInteger x.2 true

/-- Whether an assertion is valid can be computed. -/
instance decidableAssertionValid : Decidable g.AssertionValid :=
  inferInstanceAs (Decidable (∀ a ∈ g.assertion, _))

/-- The budget of an entry with nothing unknown: the total and the recommended size. -/
def budget (m : Manifest O S) (conditional : ℕ) : Except Error (ℕ × ℕ) := do
  let total ← add [conditional, g.runtimeExtra, m.marginBytes]
  let recommendation ← align total m.pageSize
  let _ ← add [recommendation, m.pageSize]
  return (total, recommendation)

/-- The budget of an entry, if nothing is unknown. -/
def budgetIfKnown (m : Manifest O S) (unknown : Finset (Reason O S)) (conditional : ℕ) :
    Except Error (Option (ℕ × ℕ)) :=
  if unknown = ∅ then some <$> g.budget m conditional else .ok none

/-- The report of an entry with the given result and budget. -/
def report (e : Entry O S) (total : Total O S) (unknown : Finset (Reason O S))
    (budget : Option (ℕ × ℕ)) : EntryReport O S where
  entry := e
  status :=
    if e.usableBytes < total.raw ∨ budget.any (e.usableBytes < ·.2) then .exceeds
    else if unknown ≠ ∅ then .unknown
    else .withinModel
  staticKnownPathBytes := total.raw
  conditionalBudgetBytes := budget.map Prod.fst
  recommendedUsableBytes := budget.map Prod.snd
  unknownEdges := unknown
  criticalPath := total.path
  staticCriticalPath := total.staticPath
  modeledFrameDepth := total.depth

/-- The report of an entry before the link inputs are checked. -/
def analyzeEntry (depth : ℕ) (m : Manifest O S) (e : Entry O S) :
    Except Error (EntryReport O S) := do
  let a ← g.aggregate depth e.key
  let unknown := if g.selection.isSome then a.unknown else insert .link a.unknown
  let budget ← g.budgetIfKnown m unknown a.total.conditional
  return report e a.total unknown budget

/-- The report of an entry after a check of the link inputs that has left something unknown. -/
def downgrade (r : EntryReport O S) : EntryReport O S :=
  { r with
    unknownEdges := insert .linkInputs r.unknownEdges
    conditionalBudgetBytes := none
    recommendedUsableBytes := none
    status := if r.entry.usableBytes < r.staticKnownPathBytes then .exceeds else .unknown }

/-- The status of the report. -/
def status (rs : List (EntryReport O S)) : Status :=
  if ∃ r ∈ rs, r.status = .exceeds then .exceeds
  else if ∃ r ∈ rs, r.status = .unknown then .unknown
  else .withinModel

/-- `analyze`; `stale` says that the evidence of the final link is stale, and `inputs` is what the
check of the link inputs says. -/
def analyze (depth : ℕ) (m : Manifest O S) (stale : Bool) (inputs : Selection) :
    Except Error (Status × List (EntryReport O S)) := do
  require (g.ManifestValid m) .invalid
  require g.AssertionValid .invalid
  require (stale = false) .stale
  let rs ← m.entries.mapM (g.analyzeEntry depth m)
  match inputs with
  | .ok => return (status rs, rs)
  | .unknown => return (status (rs.map downgrade), rs.map downgrade)
  | .stale => throw .stale

end Context

end BbtCoroutine.StackBudget
