import BbtCoroutine.Chan.Steps

/-!
# What a channel accepts

A channel holds no more items than it has room for, and those it has accepted are those it
has handed out, followed by those it holds, in this order (`records_of_reachable`).

A closed channel should accept nothing.  The check of `IsClosed` under the mutex ensures
it for the first critical section of a write, but a write that has waited checks before it
locks again, and `Close` fits in between (`accepted_after_close`).
`nothingAccepted_of_kept` states that this is the only gap.
-/

namespace BbtCoroutine.Chan

open Transition

variable {Co Ch α : Type*}

/-! ## One channel -/

/-- The members of a channel agree with its record. -/
structure Ledger (x : Chan Co α) : Prop where
  fifo : x.pushed = x.popped ++ x.itemQueue
  size : x.itemQueue.length ≤ x.maxSize
  closedAt : x.isClosed = x.closedAt.isSome

/-- Nothing was accepted since the channel was closed. -/
structure Sealed (x : Chan Co α) : Prop extends Ledger x where
  accepted : ∀ n, x.closedAt = some n → x.pushed.length = n

/-- The channel `x'` is `x` at a later time. -/
structure Grows (x x' : Chan Co α) : Prop where
  maxSize : x'.maxSize = x.maxSize
  pushed : x.pushed <+: x'.pushed
  popped : x.popped <+: x'.popped
  closedAt : ∀ n, x'.closedAt = some n → x.closedAt = some n ∨ x.pushed.length ≤ n
  isClosed : x.isClosed = true → x'.isClosed = true

/-- A channel may stay as it is. -/
lemma Grows.refl (x : Chan Co α) : Grows x x :=
  ⟨rfl, List.prefix_rfl, List.prefix_rfl, fun _ h => .inl h, id⟩

/-- Growing is transitive. -/
lemma Grows.trans {x x' x'' : Chan Co α} (h : Grows x x') (h' : Grows x' x'') : Grows x x'' where
  maxSize := h'.maxSize.trans h.maxSize
  pushed := h.pushed.trans h'.pushed
  popped := h.popped.trans h'.popped
  closedAt n hn := by
    rcases h'.closedAt n hn with hn' | hn'
    · exact h.closedAt n hn'
    · exact .inr (h.pushed.length_le.trans hn')
  isClosed hc := h'.isClosed (h.isClosed hc)

/-- The members of the record are the same. -/
structure SameRecord (x x' : Chan Co α) : Prop where
  maxSize : x'.maxSize = x.maxSize
  itemQueue : x'.itemQueue = x.itemQueue
  runStatus : x'.runStatus = x.runStatus
  pushed : x'.pushed = x.pushed
  popped : x'.popped = x.popped
  closedAt : x'.closedAt = x.closedAt

/-- What an act may do to the record of a channel; `G` is what is known of one that is pushed to. -/
inductive RecordMove (G : Chan Co α → Prop) (x : Chan Co α) : Chan Co α → Prop
  | same {x' : Chan Co α} (h : SameRecord x x') : RecordMove G x x'
  | push (hG : G x) (item : α) : RecordMove G x
      { x with itemQueue := x.itemQueue ++ [item], pushed := x.pushed ++ [item] }
  | pop {item : α} {items : List α} {q : WaitQueue Co} (h : x.itemQueue = item :: items) :
      RecordMove G x
        { x with itemQueue := items, popped := x.popped ++ [item], enableWriteConds := q }
  | close (q : WaitQueue Co) : RecordMove G x
      { x with
        runStatus := .chanClose
        closedAt := some (x.closedAt.getD x.pushed.length)
        enableWriteConds := q }

section

variable {x x' : Chan Co α}

/-- The same record says the same of the close. -/
lemma SameRecord.isClosed (h : SameRecord x x') : x'.isClosed = x.isClosed := by
  rw [Chan.isClosed, h.runStatus, Chan.isClosed]

/-- The ledger depends on the record only. -/
lemma Ledger.same (hL : Ledger x) (h : SameRecord x x') : Ledger x' where
  fifo := by rw [h.pushed, h.popped, h.itemQueue, hL.fifo]
  size := by
    rw [h.itemQueue, h.maxSize]
    exact hL.size
  closedAt := by rw [h.isClosed, h.closedAt, hL.closedAt]

/-- The same record has not shrunk. -/
lemma SameRecord.grows (h : SameRecord x x') : Grows x x' :=
  ⟨h.maxSize, h.pushed ▸ List.prefix_rfl, h.popped ▸ List.prefix_rfl,
    fun _ hn => .inl (h.closedAt ▸ hn), fun hc => h.isClosed.trans hc⟩

/-- The ledger is kept if items are pushed only where there is room. -/
lemma Ledger.move (hL : Ledger x) (h : RecordMove (fun x => x.full = false) x x') : Ledger x' := by
  cases h with
  | same h => exact hL.same h
  | push hf item =>
    have hlen : ¬ (x.maxSize : ℕ) ≤ x.itemQueue.length := by simpa [Chan.full] using hf
    refine ⟨by simp [hL.fifo], ?_, hL.closedAt⟩
    simp only [List.length_append, List.length_singleton]
    omega
  | pop h =>
    have hsize := hL.size
    rw [h, List.length_cons] at hsize
    refine ⟨by simp [hL.fifo, h], ?_, hL.closedAt⟩
    simp only
    omega
  | close q => exact ⟨hL.fifo, hL.size, rfl⟩

/-- A channel stays sealed if items are pushed only while it is open. -/
lemma Sealed.move (hS : Sealed x)
    (h : RecordMove (fun x => x.full = false ∧ x.isClosed = false) x x') : Sealed x' := by
  cases h with
  | same h =>
    refine ⟨hS.toLedger.same h, fun n hn => ?_⟩
    rw [h.pushed]
    exact hS.accepted n (h.closedAt ▸ hn)
  | push hG item =>
    refine ⟨hS.toLedger.move (.push hG.1 item), fun n hn => ?_⟩
    have hc := hS.closedAt
    replace hn : x.closedAt = some n := hn
    rw [hG.2, hn] at hc
    cases hc
  | pop h => exact ⟨hS.toLedger.move (.pop h), hS.accepted⟩
  | close q =>
    refine ⟨hS.toLedger.move (.close q), fun n hn => ?_⟩
    cases hc : x.closedAt with
    | none => simpa [hc] using hn
    | some m =>
      rw [← hS.accepted m hc]
      simp only [hc, Option.getD_some, Option.some.injEq] at hn
      rw [← hn, hS.accepted m hc]

/-- A move of the record does not shrink it. -/
lemma RecordMove.grows {G : Chan Co α → Prop} (h : RecordMove G x x') : Grows x x' := by
  cases h with
  | same h => exact h.grows
  | push hG item => exact ⟨rfl, List.prefix_append _ _, List.prefix_rfl, fun _ h => .inl h, id⟩
  | pop h => exact ⟨rfl, List.prefix_rfl, List.prefix_append _ _, fun _ h => .inl h, id⟩
  | close q =>
    refine ⟨rfl, List.prefix_rfl, List.prefix_rfl, fun n hn => ?_, fun _ => rfl⟩
    cases hc : x.closedAt with
    | none => simp_all
    | some m => simp_all

end

/-! ## One act -/

variable [DecidableEq Co] [DecidableEq Ch] {s s' : State Co Ch α} {c : Co}

variable {G : Chan Co α → Prop}

omit [DecidableEq Ch] in
/-- What an act does to a channel is one of the moves of the record. -/
lemma Touch.record {a : Act Ch α} {ch : Ch} {x x' : Chan Co α} (h : Touch s c ch a x x')
    (hpush : ∀ item, a = .push ch item → G (s.chan ch)) : RecordMove G x x' := by
  cases h with
  | push item => exact .push (hpush item rfl) item
  | pop w ha hi => exact .pop hi
  | close => exact .close []
  | _ => exact .same ⟨rfl, rfl, rfl, rfl, rfl, rfl⟩

/-- What the moves of the record keep is kept by every act. -/
lemma apply_record {I : Chan Co α → Prop} {a : Act Ch α} {ch : Ch}
    (hI : ∀ x x', RecordMove G x x' → I x → I x')
    (hpush : ∀ ch item, a = .push ch item → G (s.chan ch)) (h : I (s.chan ch)) :
    I ((s.apply c a).chan ch) :=
  apply_induct (fun _ _ hx => hI _ _ (hx.record (hpush ch))) h

/-- An act does not shrink a record. -/
lemma grows_apply (a : Act Ch α) (ch : Ch) : Grows (s.chan ch) ((s.apply c a).chan ch) :=
  apply_record (G := fun _ => True) (fun _ _ h hx => hx.trans h.grows) (fun _ _ _ => trivial)
    (.refl _)

/-! ## One step -/

omit [DecidableEq Co] [DecidableEq Ch] in
/-- The guards of a push: there is room, and the channel is open unless the write has waited. -/
lemma Plan.push {p p' : Pc Ch α} {ch : Ch} {item : α} (h : Plan s c p (.push ch item) p') :
    (s.chan ch).full = false ∧
      ((s.chan ch).isClosed = false ∨ ∃ op, p = .writeRelock op ch item) := by
  cases h with
  | writePush hp hf =>
    refine ⟨hf, ?_⟩
    cases hp with
    | writeLock ho => exact .inl ho
    | writeRelock => exact .inr ⟨_, rfl⟩
  | selPush hi hc hf => exact ⟨hf, .inl hc⟩

/-- The result that an operation has at a point. -/
def Pc.ret : Pc Ch α → Option (Ret Ch α)
  | .readRelease _ ret | .returned ret => some ret
  | _ => none

/-- A successful result is in the record of its channel. -/
def Ret.Recorded (x : Ch → Chan Co α) : Ret Ch α → Prop
  | .write _ ch item r slot => r = 0 → ∃ i, slot = some i ∧ (x ch).pushed[i]? = some item
  | .read _ ch r items => r = 0 → items ≠ [] ∧ items <:+: (x ch).popped
  | _ => True

omit [DecidableEq Co] [DecidableEq Ch] in
/-- What was recorded stays recorded. -/
lemma Ret.Recorded.grows {x x' : Ch → Chan Co α} {ret : Ret Ch α} (h : ret.Recorded x)
    (hg : ∀ ch, Grows (x ch) (x' ch)) : ret.Recorded x' := by
  cases ret with
  | write op ch item r slot =>
    intro hr
    obtain ⟨i, hs, hi⟩ := h hr
    obtain ⟨items, hp⟩ := (hg ch).pushed
    obtain ⟨hlt, -⟩ := List.getElem?_eq_some_iff.mp hi
    exact ⟨i, hs, by rw [← hp, List.getElem?_append_left hlt, hi]⟩
  | read op ch r items =>
    intro hr
    obtain ⟨hne, hi⟩ := h hr
    exact ⟨hne, hi.trans (hg ch).popped.isInfix⟩
  | _ => trivial

omit [DecidableEq Co] [DecidableEq Ch] in
/-- A wait that ends an operation records nothing. -/
lemma recorded_afterWait {x : Ch → Chan Co α} {ret : ℤ} {w : Waiting Ch α} {r : Ret Ch α}
    (h : (afterWait ret w).ret = some r) : r.Recorded x := by
  refine afterWait_induct (I := fun p => p.ret = some r → r.Recorded x) ?_ ?_ ?_ ?_ ?_ h
  · exact fun _ _ _ _ h => by cases h
  · rintro _ _ _ _ hr - ⟨⟩
    exact fun h => absurd h hr
  · exact fun _ _ _ h => by cases h
  · exact fun _ _ _ h => by cases h
  · exact fun _ _ _ _ h => by cases h

section

omit [DecidableEq Ch]

/-- A pass that has ended returns nothing yet. -/
lemma ret_finishPass (run : Run Ch α) (pass : Pass) (index : Option ℕ) :
    (finishPass run pass index).ret = none := by
  exact finishPass_induct (I := fun p => p.ret = none) (fun _ => rfl) (fun _ _ => rfl)
    (fun _ _ _ => rfl) fun _ _ => rfl

/-- A pass that goes on returns nothing yet. -/
lemma ret_nextCase (run : Run Ch α) (pass : Pass) (i : ℕ) : (nextCase run pass i).ret = none := by
  exact nextCase_induct (I := fun p => p.ret = none) rfl fun _ => ret_finishPass run pass none

/-- A read that has begun returns nothing yet. -/
lemma ret_of_readBegun {p : Pc Ch α} {ch : Ch} (h : p.readBegun ch) : p.ret = none := by
  cases p <;> first | rfl | cases h

end

/-- `ReadAll` hands out the whole queue. -/
lemma popN_popped (ch : Ch) (n : ℕ) (hn : n ≤ (s.chan ch).itemQueue.length) :
    ((State.popN c ch n s).chan ch).popped =
      (s.chan ch).popped ++ (s.chan ch).itemQueue.take n := by
  induction n generalizing s with
  | zero => simp [State.popN]
  | succ n ih =>
    cases hi : (s.chan ch).itemQueue with
    | nil => simp [hi] at hn
    | cons item items =>
      have hx := congrFun (pop_chan s c hi) ch
      rw [Function.update_self] at hx
      rw [State.popN, ih, hx]
      · simp
      · rw [hx]
        simpa [hi] using hn

/-- What a move returns has been recorded. -/
lemma Plan.recorded {p p' : Pc Ch α} {a : Act Ch α} (h : Plan s c p a p')
    (hr : ∀ ret, p.ret = some ret → ret.Recorded s.chan) (ret : Ret Ch α)
    (hp : p'.ret = some ret) : ret.Recorded (s.apply c a).chan := by
  cases h with
  | writePush hw hf =>
    cases hp
    intro _
    refine ⟨_, rfl, ?_⟩
    change ((s.push c _ _).chan _).pushed[_]? = _
    rw [push_chan, Function.update_self]
    simp
  | readPop hw hi =>
    cases hp
    intro _
    refine ⟨by simp, ?_⟩
    change _ <:+: ((s.pop c _).chan _).popped
    rw [pop_chan s c hi, Function.update_self]
    exact (List.suffix_append _ _).isInfix
  | @readPopAll op ch p hw hi =>
    cases hp
    intro _
    refine ⟨hi, ?_⟩
    change _ <:+: ((State.popN c ch _ s).chan ch).popped
    rw [popN_popped ch _ le_rfl, List.take_length]
    exact (List.suffix_append _ _).isInfix
  | readRelease => exact (hr ret hp).grows (grows_apply _)
  | writeClosed | writeRefused hw hf hr | readRefused hw hr | readFails hw hr =>
    cases hp
    intro h0
    first | exact absurd h0 hr | cases h0
  | waitFails | registFails | unbind => exact recorded_afterWait hp
  | @waitThrows w => cases w <;> cases hp <;> trivial
  | closeCheck hc => rcases hc with rfl | rfl <;> cases hp; trivial
  | close => cases hp; trivial
  | readFlag hf hb => rw [ret_of_readBegun hb] at hp; cases hp
  | readGoesOn hb hb' => rw [ret_of_readBegun hb'] at hp; cases hp
  | selClosed | selPush => rw [ret_finishPass] at hp; cases hp
  | selHeld | selFull => rw [ret_nextCase] at hp; cases hp
  | selRelease =>
    split at hp
    · rw [ret_finishPass] at hp; cases hp
    · rw [ret_nextCase] at hp; cases hp
  | selWatch => split at hp <;> cases hp
  | selUnwatch =>
    split at hp <;> cases hp
    trivial
  | @registAwaitEvent w => cases w <;> cases hp
  | _ => cases hp

/-! ## All runs -/

/-- Every channel and every result agree with the records. -/
structure Records (s : State Co Ch α) : Prop where
  ledger : ∀ ch, Ledger (s.chan ch)
  ret : ∀ k ret, (s.pc k).ret = some ret → ret.Recorded s.chan

omit [DecidableEq Co] [DecidableEq Ch] in
/-- Nothing is recorded initially. -/
lemma records_init (size : Ch → ℕ+) : Records (init size : State Co Ch α) where
  ledger ch := ⟨rfl, Nat.zero_le _, rfl⟩
  ret k ret h := by cases h

omit [DecidableEq Co] [DecidableEq Ch] in
/-- An operation that is called returns nothing yet. -/
lemma entry_ret {op : Op Ch α} {p : Pc Ch α} (h : s.entry c op = some p) : p.ret = none := by
  exact State.entry_induct h (I := fun p => p.ret = none) (fun _ _ _ => rfl) (fun _ _ => rfl)
    (fun _ _ => rfl) (fun _ => rfl) fun _ _ _ _ => rfl

/-- The step lemma of the records. -/
lemma Records.next {l : Label Co Ch α} (hR : Records s) (h : next s l = some s') :
    Records s' := by
  cases next_cases h with
  | @call c op p hp he =>
    refine ⟨hR.ledger, fun k ret hk => ?_⟩
    by_cases hkc : k = c
    · rw [hkc, goto_pc_self, entry_ret he] at hk
      cases hk
    · rw [goto_pc_of_ne _ _ hkc] at hk
      exact hR.ret k ret hk
  | @run c e a p hp =>
    refine ⟨fun ch => ?_, fun k ret hk => ?_⟩
    · exact apply_record (fun _ _ hm hx => hx.move hm) (fun ch item ha => (ha ▸ hp).push.1)
        (hR.ledger ch)
    · by_cases hkc : k = c
      · rw [hkc, goto_pc_self] at hk
        exact hp.recorded (hR.ret c) ret hk
      · rw [goto_pc_of_ne _ _ hkc, apply_pc] at hk
        exact (hR.ret k ret hk).grows (grows_apply a)
  | wait hw => exact ⟨hR.ledger, hR.ret⟩

/-- The records are right in every reachable state. -/
lemma records_of_reachable (h : (system Co Ch α).Reachable s) : Records s := by
  refine System.Reachable.induct (I := Records) ?_ (fun _ _ _ hR hs => hR.next hs) h
  rintro _ ⟨size, rfl⟩
  exact records_init size

/-! ## Closed channels -/

/-- What a closed channel has accepted, read in a state. -/
structure NothingAccepted (s : State Co Ch α) (ch : Ch) : Prop where
  closedAt : (s.chan ch).isClosed = (s.chan ch).closedAt.isSome
  /-- Since the critical section of `Close` no item was enqueued. -/
  pushed : ∀ n, (s.chan ch).closedAt = some n → (s.chan ch).pushed.length = n
  /-- A write that returns `0` had enqueued its item before. -/
  write : ∀ k op item slot, s.pc k = .returned (.write op ch item 0 slot) →
    ∃ i, slot = some i ∧ (s.chan ch).pushed[i]? = some item ∧
      ∀ n, (s.chan ch).closedAt = some n → i < n

/-- What is asked of a step: a write that locks again after a wait finds the channel open, or full
once more. -/
def KeptOpen (s : State Co Ch α) : Label Co Ch α → Prop
  | .run c _ => ∀ op ch item, s.pc c = .writeRelock op ch item →
    (s.chan ch).isClosed = false ∨ (s.chan ch).full = true
  | _ => True

/-- The step lemma of a closed channel. -/
lemma Sealed.next {l : Label Co Ch α} (hS : ∀ ch, Sealed (s.chan ch)) (hK : KeptOpen s l)
    (h : next s l = some s') (ch : Ch) : Sealed (s'.chan ch) := by
  cases next_cases h with
  | call => exact hS ch
  | @run c e a p hp =>
    refine apply_record (fun _ _ hm hx => hx.move hm) (fun ch item ha => ?_) (hS ch)
    subst ha
    obtain ⟨hf, hc | ⟨op, hop⟩⟩ := hp.push
    · exact ⟨hf, hc⟩
    · have := hK op ch item hop
      rw [hf] at this
      exact ⟨hf, by simpa using this⟩
  | wait => exact hS ch

/-- In every run of kept steps a closed channel accepts nothing. -/
theorem nothingAccepted_of_kept (h : (system Co Ch α).ReachableWhen KeptOpen s) (ch : Ch) :
    NothingAccepted s ch := by
  have hS : ∀ ch, Sealed (s.chan ch) := by
    refine System.ReachableWhen.induct (I := fun s => ∀ ch, Sealed (s.chan ch)) ?_
      (fun _ _ _ hS hK hs => Sealed.next hS hK hs) h
    rintro _ ⟨size, rfl⟩ ch
    exact ⟨(records_init size).ledger ch, fun n hn => by cases hn⟩
  have hR := records_of_reachable h.reachable
  refine ⟨(hS ch).closedAt, (hS ch).accepted, fun k op item slot hk => ?_⟩
  have hr : Ret.Recorded s.chan (.write op ch item 0 slot) := hR.ret k _ (by rw [hk]; rfl)
  obtain ⟨i, hs, hi⟩ := hr rfl
  refine ⟨i, hs, hi, fun n hn => ?_⟩
  rw [← (hS ch).accepted n hn]
  exact (List.getElem?_eq_some_iff.mp hi).1

/-- The steps of runs without cancels and failures. -/
def Label.listed : Label Co Ch α → Bool
  | .call _ _ | .timer _ => true
  | .run _ e => e = .none
  | _ => false

/-- A writer that waits, a reader that makes room, and a writer that has filled the channel
before. -/
def wokenWriter : List (Label (Fin 2) (Fin 1) ℕ) :=
  [performs 0 (.write .write 0 1) 3, performs 1 (.write .write 0 2) 6,
    performs 0 (.read .tryRead 0) 5, List.replicate 3 (.run 1 .none)].flatten

/-- The woken writer is in time. -/
theorem nothingAccepted_wokenWriter : ∃ s : State (Fin 2) (Fin 1) ℕ,
    (s.chan 0).closedAt = some 2 ∧ NothingAccepted s 0 := by
  have h : (system (Fin 2) (Fin 1) ℕ).endsInWhen
      (fun s l => l.listed = true ∧ (s.chan 0).isClosed = false) (init fun _ => 1)
      [wokenWriter, [.run 1 .none], performs 0 (.close 0) 2].flatten
      (fun s => (s.chan 0).closedAt = some 2) = true := by
    decide
  obtain ⟨s, hs, hc⟩ := System.exists_of_endsInWhen (A := system (Fin 2) (Fin 1) ℕ) ⟨_, rfl⟩ h
  refine ⟨s, hc, nothingAccepted_of_kept (hs.mono fun t l hl => ?_) 0⟩
  cases l with
  | run c e => exact fun op ch item _ => .inl (Subsingleton.elim 0 ch ▸ hl.2)
  | _ => trivial

/-- The channel is closed after the woken writer has checked and before it locks again: its item
is enqueued nevertheless, and the write returns `0`. -/
theorem accepted_after_close : ∃ s : State (Fin 2) (Fin 1) ℕ,
    (system (Fin 2) (Fin 1) ℕ).ReachableWhen (fun _ l => l.listed = true) s ∧
      ((s.chan 0).closedAt = some 1 ∧ (s.chan 0).pushed = [1, 2]) ∧ ¬ NothingAccepted s 0 := by
  have h : (system (Fin 2) (Fin 1) ℕ).endsInWhen (fun _ l => l.listed = true) (init fun _ => 1)
      [wokenWriter, performs 0 (.close 0) 3, [.run 1 .none]].flatten
      (fun s => (s.chan 0).closedAt = some 1 ∧ (s.chan 0).pushed = [1, 2]) = true := by
    decide
  obtain ⟨s, hs, hc⟩ := System.exists_of_endsInWhen (A := system (Fin 2) (Fin 1) ℕ) ⟨_, rfl⟩ h
  refine ⟨s, hs, hc, fun hN => ?_⟩
  have := hN.pushed 1 hc.1
  rw [hc.2] at this
  cases this

end BbtCoroutine.Chan
