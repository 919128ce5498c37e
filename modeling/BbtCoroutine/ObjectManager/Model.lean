import BbtCoroutine.Transition.System
import Mathlib.Data.Finset.Basic
import Mathlib.Data.Nat.Notation
import Mathlib.Logic.Function.Basic

/-!
# A model of `ManagerBase` and `MemberBase`

Any number of managers register members under keys, and count them; every kind of object has
counters too, which the managers share.  A creation is a transaction of many steps: its creator,
the hook of the object, an allocation or the insertion into the index may fail, and what other
threads do comes in between.  The destructor of a member settles its counters and takes it out of
the index of its manager, if that still exists.

A creation holds its manager and the object that its creator has delivered; nobody else registers
or destroys that object meanwhile, as `Create` requires.  `created`, `destroyed` and `highest` are
a record of the run, on which no step depends.
-/

namespace BbtCoroutine.ObjectManager

open Transition

variable {T M K Ob : Type*}

/-! ## The counters -/

/-- `CoObjectCounters`. -/
structure Counters where
  created : ℕ := 0
  destroyed : ℕ := 0
  alive : ℕ := 0
  peak : ℕ := 0
  deriving DecidableEq, Repr

/-- `OnCreate`. -/
def Counters.onCreate (c : Counters) : Counters :=
  { c with created := c.created + 1, alive := c.alive + 1, peak := max c.peak (c.alive + 1) }

/-- `OnDestroy`. -/
def Counters.onDestroy (c : Counters) : Counters :=
  { c with destroyed := c.destroyed + 1, alive := c.alive - 1 }

/-- The counters of a manager and those of a kind. -/
inductive Account (M : Type*)
  | manager (m : M)
  | kind (name : String)
  deriving DecidableEq

/-! ## The state -/

/-- `CoObjectInfo`. -/
structure Info where
  id : ℕ := 0
  kind : String := ""
  name : String := ""
  deriving DecidableEq, Repr

/-- How far a member has come. -/
inductive Phase
  /-- `m_committed` is not set. -/
  | fresh
  /-- It is in the index, and `m_committed` is set. -/
  | indexed
  /-- The manager has counted it. -/
  | counted
  /-- Its kind has counted it too. -/
  | live
  /-- Its destructor has settled the counters of the manager. -/
  | settled
  /-- The destructor has settled the counters of the kind too. -/
  | uncounted
  /-- The destructor has returned. -/
  | gone
  /-- It was destroyed without having been registered. -/
  | discarded
  deriving DecidableEq, Repr

/-- `MemberBase`. -/
structure Member (M K : Type*) where
  info : Info := {}
  key : Option K := none
  manager : Option M := none
  kindStats : Option String := none
  /-- The key at `m_entry`. -/
  entry : Option K := none
  phase : Phase := .fresh

/-- How far a creation has come. -/
inductive Stage (K Ob : Type*)
  | creating
  | delivered (o : Ob)
  | informed (o : Ob) (info : Info)
  /-- The counters of the kind exist. -/
  | bucketed (o : Ob) (info : Info)
  | keyed (o : Ob) (info : Info) (k : K)
  | indexed (o : Ob) (info : Info)
  | counted (o : Ob) (info : Info)

/-- A call of `_Create`; without a key the id of the object is its key. -/
structure Creation (M K Ob : Type*) where
  manager : M
  key : Option K
  kind : String
  name : String
  stage : Stage K Ob := .creating

/-- The state of the managers, the members and the creations. -/
structure State (T M K Ob : Type*) where
  /-- The manager has not been destroyed. -/
  alive : M → Bool := fun _ => true
  /-- `m_members`. -/
  members : M → K → Option Ob := fun _ _ => none
  counters : Account M → Counters := fun _ => {}
  /-- The kinds that have counters. -/
  buckets : String → Bool := fun _ => false
  /-- The objects that have been constructed. -/
  objects : Finset Ob := ∅
  member : Ob → Member M K := fun _ => {}
  creation : T → Option (Creation M K Ob) := fun _ => none
  /-- The creations that hold the manager. -/
  users : M → Finset T := fun _ => ∅
  /-- The creation that holds the object. -/
  holder : Ob → Option T := fun _ => none
  created : Account M → Ob → ℕ := fun _ _ => 0
  destroyed : Account M → Ob → ℕ := fun _ _ => 0
  highest : Account M → ℕ := fun _ => 0

/-- What the hook `GetObjectInfo` does. -/
inductive Hook
  /-- The object has none. -/
  | none
  | throws
  | returns (info : Info)

/-- The steps. -/
inductive Label (T M K Ob : Type*)
  /-- An object is constructed. -/
  | construct (o : Ob) (info : Info)
  | create (t : T) (m : M) (key : Option K) (kind name : String)
  /-- The creator delivers an object, or it throws or returns null. -/
  | creator (t : T) (owner : Option Ob)
  /-- The identity is fetched; `id` is that of `CreateObjectInfo`, if it does not throw. -/
  | info (t : T) (fails : Bool) (hook : Hook) (id : Option ℕ)
  /-- `GetOrCreateCoObjectCounters`. -/
  | bucket (t : T) (fails : Bool)
  | key (t : T) (fails : Bool)
  /-- The insertion into the index, and the commit if it succeeds. -/
  | emplace (t : T) (fails : Bool)
  | onCreate (t : T)
  | onCreateKind (t : T)
  /-- An object without registration is destroyed, or the destructor of a member begins. -/
  | destroy (o : Ob)
  | onDestroyKind (o : Ob)
  /-- The end of the destructor of a member. -/
  | onMemberDestroy (o : Ob)
  | destroyManager (m : M)

variable [DecidableEq T] [DecidableEq M] [DecidableEq K] [DecidableEq Ob]

/-- The creation goes on at the stage. -/
def Creation.at (c : Creation M K Ob) (stage : Stage K Ob) : Creation M K Ob :=
  { c with stage := stage }

namespace State

/-- The creation `t` becomes `c`. -/
def setCreation (s : State T M K Ob) (t : T) (c : Creation M K Ob) : State T M K Ob :=
  { s with creation := Function.update s.creation t (some c) }

/-- The object `o` becomes `x`. -/
def setMember (s : State T M K Ob) (o : Ob) (x : Member M K) : State T M K Ob :=
  { s with member := Function.update s.member o x }

/-- The creation `t` of the manager `m` returns or throws; it has held the object, if any. -/
def finish (s : State T M K Ob) (t : T) (m : M) (owner : Option Ob) : State T M K Ob :=
  { s with
    creation := Function.update s.creation t none
    users := Function.update s.users m ((s.users m).erase t)
    holder := fun o => if owner = some o then none else s.holder o }

/-- `OnCreate` of the account for the object. -/
def onCreate (s : State T M K Ob) (a : Account M) (o : Ob) : State T M K Ob :=
  { s with
    counters := Function.update s.counters a (s.counters a).onCreate
    created := Function.update s.created a
      (Function.update (s.created a) o (s.created a o + 1)) }

/-- `OnDestroy` of the account for the object. -/
def onDestroy (s : State T M K Ob) (a : Account M) (o : Ob) : State T M K Ob :=
  { s with
    counters := Function.update s.counters a (s.counters a).onDestroy
    destroyed := Function.update s.destroyed a
      (Function.update (s.destroyed a) o (s.destroyed a o + 1)) }

end State

/-- The identity of an object: its own one, else that of the hook, else a new one. -/
def chooseInfo (own : Info) (kind name : String) (hook : Hook) (id : Option ℕ) : Option Info :=
  let fresh := id.map fun n => { id := n, kind := kind, name := name }
  if own.id ≠ 0 then some own
  else
    match hook with
    | .throws => none
    | .none => fresh
    | .returns info => if info.id ≠ 0 then some info else fresh

/-- What a creation does next; `fails` says that a step of it throws. -/
def advance (ofId : ℕ → K) (s : State T M K Ob) (t : T) (c : Creation M K Ob) :
    Label T M K Ob → Option (State T M K Ob)
  | .creator _ owner =>
    match c.stage, owner with
    | .creating, none => some (s.finish t c.manager none)
    | .creating, some o =>
      if o ∈ s.objects ∧ s.holder o = none then
        match (s.member o).phase with
        | .fresh =>
          some ({ s with holder := Function.update s.holder o (some t) }.setCreation t
            (c.at (.delivered o)))
        | .live => some (s.finish t c.manager none)
        | _ => none
      else none
    | _, _ => none
  | .info _ fails hook id =>
    match c.stage with
    | .delivered o =>
      match if fails then none else chooseInfo (s.member o).info c.kind c.name hook id with
      | none => some (s.finish t c.manager (some o))
      | some info => some (s.setCreation t (c.at (.informed o info)))
    | _ => none
  | .bucket _ fails =>
    match c.stage with
    | .informed o info =>
      if fails then some (s.finish t c.manager (some o))
      else some ({ s with buckets := Function.update s.buckets info.kind true }.setCreation t
        (c.at (.bucketed o info)))
    | _ => none
  | .key _ fails =>
    match c.stage with
    | .bucketed o info =>
      if fails then some (s.finish t c.manager (some o))
      else
        let k := c.key.getD (ofId info.id)
        some ((s.setMember o { s.member o with key := some k }).setCreation t
          (c.at (.keyed o info k)))
    | _ => none
  | .emplace _ fails =>
    match c.stage with
    | .keyed o info k =>
      if fails then some (s.finish t c.manager (some o))
      else if (s.members c.manager k).isSome then some (s.finish t c.manager (some o))
      else
        let x := { s.member o with
          info := info, manager := some c.manager, kindStats := some info.kind, entry := some k,
          phase := .indexed }
        let members := Function.update s.members c.manager
          (Function.update (s.members c.manager) k (some o))
        some (({ s with members := members }.setMember o x).setCreation t (c.at (.indexed o info)))
    | _ => none
  | .onCreate _ =>
    match c.stage with
    | .indexed o info =>
      some (((s.onCreate (.manager c.manager) o).setMember o
        { s.member o with phase := .counted }).setCreation t (c.at (.counted o info)))
    | _ => none
  | .onCreateKind _ =>
    match c.stage with
    | .counted o info =>
      some (((s.onCreate (.kind info.kind) o).setMember o
        { s.member o with phase := .live }).finish t c.manager (some o))
    | _ => none
  | _ => none

/-- `~MemberBase`, after the test of `m_committed`. -/
def destruct (s : State T M K Ob) (o : Ob) (m : M) : State T M K Ob :=
  (s.onDestroy (.manager m) o).setMember o { s.member o with phase := .settled }

/-- The creation that a step belongs to. -/
def Label.of : Label T M K Ob → Option T
  | .creator t _ | .info t _ _ _ | .bucket t _ | .key t _ | .emplace t _ | .onCreate t
  | .onCreateKind t | .create t _ _ _ _ => some t
  | _ => none

/-- One step; `ofId` is the key of an object that is registered under its id. -/
def step (ofId : ℕ → K) (s : State T M K Ob) : Label T M K Ob → Option (State T M K Ob)
  | .construct o info =>
    if o ∈ s.objects then none
    else some ({ s with objects := insert o s.objects }.setMember o { info := info })
  | .create t m key kind name =>
    if s.creation t = none ∧ s.alive m = true then
      some ({ s with users := Function.update s.users m (insert t (s.users m)) }.setCreation t
        { manager := m, key := key, kind := kind, name := name })
    else none
  | .destroy o =>
    if o ∈ s.objects ∧ s.holder o = none then
      match (s.member o).phase with
      | .fresh => some (s.setMember o { s.member o with phase := .discarded })
      | .live => (s.member o).manager.map (destruct s o)
      | _ => none
    else none
  | .onDestroyKind o =>
    match (s.member o).phase with
    | .settled => (s.member o).kindStats.map fun kind =>
      (s.onDestroy (.kind kind) o).setMember o { s.member o with phase := .uncounted }
    | _ => none
  | .onMemberDestroy o =>
    match (s.member o).phase, (s.member o).manager, (s.member o).entry with
    | .uncounted, some m, some k =>
      let members :=
        if s.alive m then Function.update s.members m (Function.update (s.members m) k none)
        else s.members
      some ({ s with members := members }.setMember o { s.member o with phase := .gone })
    | _, _, _ => none
  | .destroyManager m =>
    if s.alive m = true ∧ s.users m = ∅ then
      some { s with
        alive := Function.update s.alive m false
        members := Function.update s.members m fun _ => none }
    else none
  | l => l.of.bind fun t => (s.creation t).bind fun c => advance ofId s t c l

/-- One step, after which the record of the highest counts is brought up to date. -/
def next (ofId : ℕ → K) (s : State T M K Ob) (l : Label T M K Ob) : Option (State T M K Ob) :=
  (step ofId s l).map fun t =>
    { t with highest := fun a => max (s.highest a) (t.counters a).alive }

variable (T M K Ob) in
/-- The runs with managers that have registered nothing yet. -/
def system (ofId : ℕ → K) : System (State T M K Ob) (Label T M K Ob) where
  start s := s = {}
  next := next ofId

end BbtCoroutine.ObjectManager
