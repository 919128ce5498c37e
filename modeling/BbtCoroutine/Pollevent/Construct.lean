import BbtCoroutine.Pollevent.Event
import Mathlib.Data.List.Basic
import Mathlib.Logic.Function.Basic

/-!
# The constructor of an event

`Event::Event` duplicates the descriptor, makes the objects of asio and enters the callback in
the registry, each of which may throw.  What has been made before is undone by a handler, or by
the destructors of the members: the destructor of a `stream_descriptor` closes what it has
adopted.

A callback of the user is an `Option`, as a `std::function` may be empty; an empty one is copied
without allocation.
-/

namespace BbtCoroutine.Pollevent

open Coroutine (optTimeout optReadable optWriteable)

variable {Cb : Type*}

/-! ## The constructor -/

/-- What a constructor works on: the registry of the callbacks and the last id it has been asked
for, the count of the live events, the open descriptors, those that the reactor watches, and the
calls of `close` so far. -/
structure Loop (Cb : Type*) where
  lastId : ℕ := 0
  callbacks : ℕ → Option (Option Cb) := fun _ => none
  eventCount : ℕ := 0
  opened : List ℕ := []
  watched : List ℕ := []
  closes : List ℕ := []
  callbacks_fresh : ∀ id, lastId < id → callbacks id = none := by intros; rfl

/-- Which of the steps of a constructor fail, and the number that `dup` returns. -/
structure Failures (s : Loop Cb) where
  dup : Option { d : ℕ // d ∉ s.opened }
  sdFails : Bool := false
  timerFails : Bool := false
  insertFails : Bool := false
  copyFails : Bool := false

namespace Loop

/-- `GenerateId`. -/
def generateId (s : Loop Cb) : Loop Cb :=
  { s with
    lastId := s.lastId + 1
    callbacks_fresh := fun id h => s.callbacks_fresh id (Nat.lt_of_succ_lt h) }

/-- `dup` has returned `d`. -/
def dup (s : Loop Cb) (d : ℕ) : Loop Cb :=
  { s with opened := d :: s.opened }

/-- `close`. -/
def close (s : Loop Cb) (d : ℕ) : Loop Cb :=
  { s with
    opened := s.opened.erase d
    closes := s.closes ++ [d] }

/-- A `stream_descriptor` adopts `d`. -/
def adopt (s : Loop Cb) (d : ℕ) : Loop Cb :=
  { s with watched := d :: s.watched }

/-- `release` of the `stream_descriptor` of `d`. -/
def release (s : Loop Cb) (d : ℕ) : Loop Cb :=
  { s with watched := s.watched.erase d }

/-- The entry of the last id becomes `cb`. -/
def assign (s : Loop Cb) (cb : Option Cb) : Loop Cb :=
  { s with
    callbacks := Function.update s.callbacks s.lastId (some cb)
    callbacks_fresh := fun id h => by
      rw [Function.update_of_ne h.ne']
      exact s.callbacks_fresh id h }

/-- `IncEventCount`. -/
def incEventCount (s : Loop Cb) : Loop Cb :=
  { s with eventCount := s.eventCount + 1 }

/-- The descriptor is duplicated and adopted; `none` says that the constructor throws. -/
def makeSd (s : Loop Cb) (isFdEvent : Bool) (dup : Option ℕ) (fails : Bool) :
    Loop Cb × Option (Option ℕ) :=
  if !isFdEvent then (s, some none)
  else
    match dup with
    | none => (s, none)
    | some d => if fails then ((s.dup d).close d, none) else ((s.dup d).adopt d, some (some d))

/-- What the handler does when the timer cannot be made, and the destructors of the members when
the callback cannot be entered. -/
def dropSd (s : Loop Cb) : Option ℕ → Loop Cb
  | none => s
  | some d => (s.release d).close d

/-- `AddEventCallback`: the entry is inserted, and the callback is copied to it; whether both
succeed. -/
def addEventCallback (s : Loop Cb) (cb : Option Cb) (insertFails copyFails : Bool) :
    Loop Cb × Bool :=
  if insertFails then (s, false)
  else if copyFails && cb.isSome then (s.assign none, false)
  else (s.assign cb, true)

/-- The event is about a descriptor. -/
def isFdEvent (fd : ℤ) (listenEvents : EventMask) : Bool :=
  0 ≤ fd ∧ listenEvents &&& (optReadable ||| optWriteable ||| evClosed) ≠ 0

/-- The event has a timer. -/
def isTimer (listenEvents : EventMask) : Bool :=
  listenEvents &&& optTimeout ≠ 0

/-- The constructor; `none` says that it throws. -/
def construct (s : Loop Cb) (fd : ℤ) (listenEvents : EventMask) (cb : Option Cb)
    (f : Failures s) : Loop Cb × Option Event :=
  match s.generateId.makeSd (isFdEvent fd listenEvents) (f.dup.map Subtype.val) f.sdFails with
  | (t, none) => (t, none)
  | (t, some sd) =>
    if isTimer listenEvents && f.timerFails then (t.dropSd sd, none)
    else
      match t.addEventCallback cb f.insertFails f.copyFails with
      | (u, false) => (u.dropSd sd, none)
      | (u, true) => (u.incEventCount, some (Event.new fd listenEvents))

/-! ## What is left after a failure -/

/-- The number that the constructor duplicates the descriptor to. -/
def duplicate {s : Loop Cb} (fd : ℤ) (listenEvents : EventMask) (f : Failures s) : Option ℕ :=
  if isFdEvent fd listenEvents then f.dup.map Subtype.val else none

/-- Everything is as it was before a call that has duplicated a descriptor to `d`, and that
descriptor has been closed once. -/
structure Restored (s s' : Loop Cb) (d : Option ℕ) : Prop where
  callbacks : s'.callbacks = s.callbacks
  eventCount : s'.eventCount = s.eventCount
  opened : s'.opened = s.opened
  watched : s'.watched = s.watched
  closes : s'.closes = s.closes ++ d.toList

/-- The constructor comes to the copy of the callback, and the callback is not empty. -/
def copies {s : Loop Cb} (fd : ℤ) (listenEvents : EventMask) (cb : Option Cb) (f : Failures s) :
    Bool :=
  (!isFdEvent fd listenEvents || f.dup.isSome && !f.sdFails) &&
    !(isTimer listenEvents && f.timerFails) && !f.insertFails && cb.isSome

section

variable {s : Loop Cb} {fd : ℤ} {listenEvents : EventMask} {cb : Option Cb} {f : Failures s}

/-- The objects that are made before the callback is entered, and the descriptor that is
duplicated for them. -/
structure Made (s t : Loop Cb) (sd : Option ℕ) : Prop where
  callbacks : t.callbacks = s.callbacks
  lastId : t.lastId = s.lastId + 1
  eventCount : t.eventCount = s.eventCount
  opened : t.opened = sd.toList ++ s.opened
  watched : t.watched = sd.toList ++ s.watched
  closes : t.closes = s.closes

/-- The descriptor is duplicated and adopted, or nothing of it is left. -/
lemma makeSd_spec (fd : ℤ) (listenEvents : EventMask) (f : Failures s) :
    (∃ t sd, s.generateId.makeSd (isFdEvent fd listenEvents) (f.dup.map Subtype.val) f.sdFails =
        (t, some sd) ∧ Made s t sd ∧ sd = duplicate fd listenEvents f ∧
        (!isFdEvent fd listenEvents || f.dup.isSome && !f.sdFails) = true) ∨
      ∃ t, s.generateId.makeSd (isFdEvent fd listenEvents) (f.dup.map Subtype.val) f.sdFails =
        (t, none) ∧ Restored s t (duplicate fd listenEvents f) ∧
        (!isFdEvent fd listenEvents || f.dup.isSome && !f.sdFails) = false := by
  unfold makeSd duplicate
  cases hfd : isFdEvent fd listenEvents with
  | false => exact .inl ⟨_, _, rfl, ⟨rfl, rfl, rfl, rfl, rfl, rfl⟩, rfl, rfl⟩
  | true =>
    cases hd : f.dup with
    | none =>
      exact .inr ⟨_, rfl, ⟨rfl, rfl, rfl, rfl, (List.append_nil _).symm⟩, rfl⟩
    | some d =>
      cases hs : f.sdFails with
      | false => exact .inl ⟨_, _, rfl, ⟨rfl, rfl, rfl, rfl, rfl, rfl⟩, rfl, rfl⟩
      | true =>
        refine .inr ⟨_, rfl, ⟨rfl, rfl, ?_, rfl, rfl⟩, rfl⟩
        exact List.erase_cons_head _ _

/-- What has been made is dropped, and the registry is as it was. -/
lemma Made.dropSd {t : Loop Cb} {sd : Option ℕ} (h : Made s t sd) :
    Restored s (t.dropSd sd) sd := by
  obtain ⟨hcallbacks, -, hcount, hopened, hwatched, hcloses⟩ := h
  cases sd with
  | none => exact ⟨hcallbacks, hcount, hopened, hwatched, hcloses.trans (List.append_nil _).symm⟩
  | some d =>
    refine ⟨hcallbacks, hcount, ?_, ?_, ?_⟩
    · change t.opened.erase d = s.opened
      rw [hopened]
      exact List.erase_cons_head _ _
    · change t.watched.erase d = s.watched
      rw [hwatched]
      exact List.erase_cons_head _ _
    · change t.closes ++ [d] = _
      rw [hcloses]
      rfl

/-- Dropping a descriptor keeps the callbacks. -/
lemma dropSd_callbacks (t : Loop Cb) (sd : Option ℕ) : (t.dropSd sd).callbacks = t.callbacks := by
  cases sd <;> rfl

/-- An entry that is left for a new id is seen in the registry. -/
lemma assign_ne {t : Loop Cb} {sd : Option ℕ} (h : Made s t sd) (x : Option Cb) :
    (t.assign x).callbacks ≠ s.callbacks := by
  intro heq
  have hid := congrFun heq t.lastId
  rw [s.callbacks_fresh t.lastId (by rw [h.lastId]; exact Nat.lt_succ_self _)] at hid
  change Function.update t.callbacks t.lastId (some x) t.lastId = none at hid
  rw [Function.update_self] at hid
  cases hid

/-- A constructor that throws restores what it has found, exactly if it does not fail to copy the
callback. -/
theorem restored_iff (s : Loop Cb) (fd : ℤ) (listenEvents : EventMask) (cb : Option Cb)
    (f : Failures s) :
    ((s.construct fd listenEvents cb f).2 = none →
      Restored s (s.construct fd listenEvents cb f).1 (duplicate fd listenEvents f)) ↔
      ¬ (copies fd listenEvents cb f = true ∧ f.copyFails = true) := by
  unfold construct copies
  rcases makeSd_spec fd listenEvents f with
    ⟨t, sd, ht, hmade, hsd, hreach⟩ | ⟨t, ht, hres, hreach⟩
  · rw [ht, hreach, ← hsd]
    dsimp only
    cases htimer : isTimer listenEvents && f.timerFails with
    | true =>
      refine ⟨fun _ => by simp, fun _ _ => ?_⟩
      exact hmade.dropSd
    | false =>
      cases hinsert : f.insertFails with
      | true =>
        refine ⟨fun _ => by simp, fun _ _ => ?_⟩
        exact hmade.dropSd
      | false =>
        cases hcopy : f.copyFails && cb.isSome with
        | true =>
          obtain ⟨hc, hs⟩ := Bool.and_eq_true_iff.mp hcopy
          refine ⟨fun h => ?_, fun h => absurd ⟨by simp [hs], hc⟩ h⟩
          have hres : Restored s ((t.assign none).dropSd sd) sd := by
            simpa [addEventCallback, hc, hs] using h
          refine absurd ?_ (assign_ne hmade none)
          rw [← hres.callbacks, dropSd_callbacks]
        | false =>
          refine ⟨?_, ?_⟩
          · rintro - ⟨hs, hc⟩
            simp [hc] at hcopy
            simp [hcopy] at hs
          · intro _ h
            simp [addEventCallback, hcopy] at h
  · rw [ht, hreach]
    exact ⟨fun _ => by simp, fun _ _ => hres⟩

end

/-- The callback of a timer event cannot be copied: an empty entry is left for its id. -/
theorem not_restored_copy :
    let s : Loop Unit := {}
    let f : Failures s := { dup := none, copyFails := true }
    (s.construct (-1) optTimeout (some ()) f).2.isNone ∧
      (s.construct (-1) optTimeout (some ()) f).1.callbacks 1 = some none ∧
      ¬ Restored s (s.construct (-1) optTimeout (some ()) f).1
        (duplicate (-1) optTimeout f) := by
  refine ⟨by decide, by decide, fun h => ?_⟩
  have hid := congrFun h.callbacks 1
  revert hid
  decide

end Loop

end BbtCoroutine.Pollevent
