import BbtCoroutine.Chan.Steps

/-!
# What a step moves

A read goes on to reset the flag with the items that it has taken, a write returns `0` when
its item is in the queue, a select stores the item of a read case in the output of the case
and takes a write case for hit.  So the points between which a step leads say what it moves
(`State.moved`), without a look at the queues.

`next_moves` states that the queues agree: what a step brings to a channel is appended to its
items, what it takes is taken from their front, and no other step changes the items of any
channel.
-/

namespace BbtCoroutine.Chan

variable {Co Ch α : Type*}

/-! ## The points of a step -/

/-- The index of the case that a select has come to, when it has just ended a pass. -/
def Pc.hit : Pc Ch α → Option ℕ
  | .selUnwatch _ _ index => index
  | .selNotify run => run.cbIndex
  | _ => none

/-- What a select has stored in the output of the case `i`. -/
def Run.took (run : Run Ch α) (i : ℕ) : List (Transfer Ch α) :=
  match run.cases[i]? with
  | some (.read ch) => (run.outs i).toList.map (.read ch)
  | _ => []

/-- What an operation has just taken when it reaches the point. -/
def Pc.takes : Pc Ch α → List (Transfer Ch α)
  | .readRelease _ (.read _ ch r items) => if r = 0 then items.map (.read ch) else []
  | .selRelease run _ i true => run.took i
  | _ => []

/-- What an operation has brought by going from the point `p` to the point `p'`. -/
def State.brings (s : State Co Ch α) (p p' : Pc Ch α) : List (Transfer Ch α) :=
  match p with
  | .writeLock _ _ _ | .writeRelock _ _ _ =>
    match p' with
    | .returned (.write _ ch item r _) => if r = 0 then [.wrote ch item] else []
    | _ => []
  | .selLock run _ i =>
    match run.cases[i]? with
    | some (.write ch val) =>
      if p'.hit = some i ∧ (s.chan ch).isClosed = false then [.wrote ch val] else []
    | _ => []
  | _ => []

section

variable [DecidableEq Ch]

/-- The items that the transfers have taken from `ch`. -/
def readFrom (ch : Ch) (ts : List (Transfer Ch α)) : List α :=
  ts.filterMap fun t =>
    match t with
    | .read ch' item => if ch' = ch then some item else none
    | .wrote _ _ => none

/-- The items that the transfers have brought to `ch`. -/
def writtenTo (ch : Ch) (ts : List (Transfer Ch α)) : List α :=
  ts.filterMap fun t =>
    match t with
    | .read _ _ => none
    | .wrote ch' item => if ch' = ch then some item else none

@[simp] lemma readFrom_append (ch : Ch) (ts ts' : List (Transfer Ch α)) :
    readFrom ch (ts ++ ts') = readFrom ch ts ++ readFrom ch ts' :=
  List.filterMap_append ..

@[simp] lemma writtenTo_append (ch : Ch) (ts ts' : List (Transfer Ch α)) :
    writtenTo ch (ts ++ ts') = writtenTo ch ts ++ writtenTo ch ts' :=
  List.filterMap_append ..

variable [DecidableEq Co]

/-- What the step `l` moves between a coroutine and the channels. -/
def State.moved (s : State Co Ch α) (l : Label Co Ch α) : List (Transfer Ch α) :=
  match l with
  | .run c e =>
    match next s (.run c e) with
    | some t => (t.pc c).takes ++ s.brings (s.pc c) (t.pc c)
    | none => []
  | _ => []

end

/-! ## The acts -/

/-- What an act moves. -/
def State.transfersOf (s : State Co Ch α) : Act Ch α → List (Transfer Ch α)
  | .push ch item => [.wrote ch item]
  | .pop ch => ((s.chan ch).itemQueue.take 1).map (.read ch)
  | .popAll ch => (s.chan ch).itemQueue.map (.read ch)
  | _ => []

section

variable [DecidableEq Ch] {s t : State Co Ch α} {c : Co}

/-- From `s` to `t` the coroutine `c` has made the transfers `ts`: the items of each channel have
changed by them, and so have its records and that of `c`. -/
structure MovesTo (s t : State Co Ch α) (c : Co) (ts : List (Transfer Ch α)) : Prop where
  transfers : t.transfers c = s.transfers c ++ ts
  items : ∀ ch, (s.chan ch).itemQueue ++ writtenTo ch ts =
    readFrom ch ts ++ (t.chan ch).itemQueue
  pushed : ∀ ch, (t.chan ch).pushed = (s.chan ch).pushed ++ writtenTo ch ts
  popped : ∀ ch, (t.chan ch).popped = (s.chan ch).popped ++ readFrom ch ts

/-- A step that moves nothing. -/
lemma MovesTo.refl (s : State Co Ch α) (c : Co) : MovesTo s s c [] :=
  ⟨(List.append_nil _).symm, fun _ => List.append_nil _, fun _ => (List.append_nil _).symm,
    fun _ => (List.append_nil _).symm⟩

/-- What two steps move one after the other. -/
lemma MovesTo.trans {u : State Co Ch α} {ts ts' : List (Transfer Ch α)}
    (h : MovesTo s t c ts) (h' : MovesTo t u c ts') : MovesTo s u c (ts ++ ts') where
  transfers := by rw [h'.transfers, h.transfers, List.append_assoc]
  items ch := by
    rw [writtenTo_append, readFrom_append, ← List.append_assoc, h.items, List.append_assoc,
      h'.items, List.append_assoc]
  pushed ch := by rw [h'.pushed, h.pushed, writtenTo_append, List.append_assoc]
  popped ch := by rw [h'.popped, h.popped, readFrom_append, List.append_assoc]

end

section

variable [DecidableEq Co] [DecidableEq Ch] {s s' : State Co Ch α} {c : Co}

/-- A pop records that its coroutine has read the item. -/
lemma pop_transfers (s : State Co Ch α) (c : Co) {ch : Ch} {item : α} {items : List α}
    (hi : (s.chan ch).itemQueue = item :: items) :
    (s.pop c ch).transfers c = s.transfers c ++ [.read ch item] := by
  simp [State.pop, hi, State.record, State.onEnableWrite, State.notifyAll, State.setChan]

/-- A push records that its coroutine has written the item. -/
lemma push_transfers (s : State Co Ch α) (c : Co) (ch : Ch) (item : α) :
    (s.push c ch item).transfers c = s.transfers c ++ [.wrote ch item] := by
  unfold State.push
  dsimp only
  split <;> simp [State.record, State.onEnableRead, State.notifyAll, State.setChan]

/-- A pop records nothing of the other coroutines. -/
lemma pop_transfers_of_ne (s : State Co Ch α) (c : Co) (ch : Ch) {k : Co} (hk : k ≠ c) :
    (s.pop c ch).transfers k = s.transfers k := by
  unfold State.pop
  dsimp only
  split
  · rfl
  · simp [State.record, State.onEnableWrite, State.notifyAll, State.setChan, hk]

/-- The acts that move no item. -/
def Act.moves : Act Ch α → Bool
  | .push _ _ | .pop _ | .popAll _ => true
  | _ => false

/-- Such an act is not recorded. -/
lemma apply_transfers {a : Act Ch α} (ha : a.moves = false) :
    (s.apply c a).transfers = s.transfers := by
  cases a with
  | push | pop | popAll => cases ha
  | close ch =>
    change (s.close ch).transfers = _
    unfold State.close
    dsimp only
    split <;> rfl
  | registerEnableWriteCond ch =>
    change (s.registerEnableWriteCond c ch).transfers = _
    unfold State.registerEnableWriteCond
    dsimp only
    split <;> rfl
  | recheckEnableRead ch =>
    change (s.recheckEnableRead ch).transfers = _
    unfold State.recheckEnableRead
    dsimp only
    split <;> rfl
  | addWatcher case => cases case <;> rfl
  | removeWatcher case => cases case <;> rfl
  | registCustom cond timed => cases cond <;> rfl
  | _ => rfl

/-- An act of `c` moves nothing for the others. -/
lemma apply_transfers_of_ne (a : Act Ch α) {k : Co} (hk : k ≠ c) :
    (s.apply c a).transfers k = s.transfers k := by
  cases hm : a.moves with
  | false => rw [apply_transfers hm]
  | true =>
    cases a with
    | push ch item =>
      change (s.push c ch item).transfers k = _
      unfold State.push
      dsimp only
      split <;> simp [State.record, State.onEnableRead, State.notifyAll, hk, State.setChan]
    | pop ch => exact pop_transfers_of_ne s c ch hk
    | popAll ch =>
      exact popN_induct ch (I := fun t => t.transfers k = s.transfers k)
        (fun t ht => (pop_transfers_of_ne t c ch hk).trans ht) _ rfl
    | _ => cases hm

/-- A push moves its item into the queue. -/
lemma push_movesTo (s : State Co Ch α) (c : Co) (ch : Ch) (item : α) :
    MovesTo s (s.push c ch item) c [.wrote ch item] := by
  refine ⟨push_transfers s c ch item, ?_, ?_, ?_⟩ <;> intro ch' <;> rw [push_chan] <;>
    by_cases hc : ch' = ch
  all_goals
    first
    | subst hc
      simp [readFrom, writtenTo]
    | simp [readFrom, writtenTo, Function.update_of_ne hc, Ne.symm hc]

/-- A pop moves the first item out of the queue. -/
lemma pop_movesTo (s : State Co Ch α) (c : Co) {ch : Ch} {item : α} {items : List α}
    (hi : (s.chan ch).itemQueue = item :: items) :
    MovesTo s (s.pop c ch) c [.read ch item] := by
  refine ⟨pop_transfers s c hi, ?_, ?_, ?_⟩ <;> intro ch' <;> rw [pop_chan s c hi] <;>
    by_cases hc : ch' = ch
  all_goals
    first
    | subst hc
      simp [readFrom, writtenTo, hi]
    | simp [readFrom, writtenTo, Function.update_of_ne hc, Ne.symm hc]

/-- The loop of `ReadAll` takes the items one after the other. -/
lemma popN_movesTo (c : Co) (ch : Ch) (n : ℕ) (s : State Co Ch α) :
    MovesTo s (State.popN c ch n s) c (((s.chan ch).itemQueue.take n).map (.read ch)) := by
  induction n generalizing s with
  | zero => exact .refl s c
  | succ n ih =>
    cases hi : (s.chan ch).itemQueue with
    | nil =>
      have := ih (s.pop c ch)
      rw [pop_of_nil s c hi, hi] at this
      rw [State.popN, pop_of_nil s c hi]
      simpa using this
    | cons item items =>
      have hrest := ih (s.pop c ch)
      have hx := congrFun (pop_chan s c hi) ch
      rw [Function.update_self] at hx
      rw [hx] at hrest
      exact (pop_movesTo s c hi).trans hrest

/-- An act that moves nothing leaves the items of the channels and their records. -/
lemma apply_kept {a : Act Ch α} (ha : a.moves = false) (ch : Ch) :
    ((s.apply c a).chan ch).itemQueue = (s.chan ch).itemQueue ∧
      ((s.apply c a).chan ch).pushed = (s.chan ch).pushed ∧
      ((s.apply c a).chan ch).popped = (s.chan ch).popped := by
  refine apply_induct (I := fun x => x.itemQueue = (s.chan ch).itemQueue ∧
    x.pushed = (s.chan ch).pushed ∧ x.popped = (s.chan ch).popped)
    (fun x x' h hx => ?_) ⟨rfl, rfl, rfl⟩
  cases h with
  | push => cases ha
  | pop w hp hi => rcases hp with rfl | rfl <;> cases ha
  | _ => exact hx

/-- Whatever an act moves, the items of the channels and the records have changed by it. -/
lemma apply_movesTo (a : Act Ch α) : MovesTo s (s.apply c a) c (s.transfersOf a) := by
  cases hm : a.moves with
  | true =>
    cases a with
    | push ch item => exact push_movesTo s c ch item
    | pop ch => exact popN_movesTo c ch 1 s
    | popAll ch =>
      have h := popN_movesTo c ch (s.chan ch).itemQueue.length s
      rwa [List.take_length] at h
    | _ => cases hm
  | false =>
    have hts : s.transfersOf a = [] := by cases a <;> first | rfl | cases hm
    rw [hts]
    refine ⟨by rw [apply_transfers hm, List.append_nil], fun ch => ?_, fun ch => ?_, fun ch => ?_⟩
    · exact (List.append_nil _).trans (apply_kept hm ch).1.symm
    · exact (apply_kept hm ch).2.1.trans (List.append_nil _).symm
    · exact (apply_kept hm ch).2.2.trans (List.append_nil _).symm

end

/-! ## One step -/

section

variable {s : State Co Ch α} {c : Co}

/-- A pass that has ended moves nothing. -/
lemma takes_finishPass (run : Run Ch α) (pass : Pass) (index : Option ℕ) :
    (finishPass run pass index).takes = [] := by
  exact finishPass_induct (I := fun p => p.takes = []) (fun _ => rfl) (fun _ _ => rfl)
    (fun _ _ _ => rfl) fun _ _ => rfl

/-- A pass that ends with a case has hit it. -/
lemma hit_finishPass (run : Run Ch α) (pass : Pass) (i : ℕ) :
    (finishPass run pass (some i)).hit = some i := by
  cases pass <;> rfl

/-- A pass that goes on moves nothing. -/
lemma takes_nextCase (run : Run Ch α) (pass : Pass) (i : ℕ) :
    (nextCase run pass i).takes = [] := by
  exact nextCase_induct (I := fun p => p.takes = []) rfl fun _ => takes_finishPass run pass none

/-- A pass that goes on has hit no case yet. -/
lemma hit_nextCase (run : Run Ch α) (pass : Pass) (i : ℕ) : (nextCase run pass i).hit = none := by
  refine nextCase_induct (I := fun p => p.hit = none) rfl fun _ => ?_
  exact finishPass_induct (I := fun p => p.hit = none) (fun _ => rfl) (fun _ _ => rfl)
    (fun _ _ h => by cases h) fun _ _ => rfl

/-- Where a wait leads, nothing is moved. -/
lemma takes_afterWait (ret : ℤ) (w : Waiting Ch α) : (afterWait ret w).takes = [] := by
  exact afterWait_induct (I := fun p => p.takes = []) (fun _ _ _ _ => rfl)
    (fun _ _ _ _ _ _ => rfl) (fun _ _ _ => rfl) (fun _ _ _ => rfl) fun _ _ _ _ => rfl

/-- A read that has begun has moved nothing yet. -/
lemma takes_of_readBegun {p : Pc Ch α} {ch : Ch} (h : p.readBegun ch) : p.takes = [] := by
  cases p <;> first | rfl | cases h

/-- What the points of a move say is what its act moves. -/
lemma Plan.transfers {p p' : Pc Ch α} {a : Act Ch α} (h : Plan s c p a p') :
    p'.takes ++ s.brings p p' = s.transfersOf a := by
  cases h with
  | writeClosed hp => rcases hp with rfl | rfl | rfl <;> rfl
  | writeRefused hp hf hr => cases hp <;> simp [Pc.takes, State.brings, State.transfersOf, hr]
  | writeWait hp => cases hp <;> rfl
  | writePush hp => cases hp <;> rfl
  | readRefused hp => rcases hp with rfl | rfl <;> rfl
  | readFlag hf hp => rw [takes_of_readBegun hp]; rfl
  | readGoesOn hp hp' =>
    rw [takes_of_readBegun hp']
    cases p <;> first | rfl | cases hp
  | readFails hp hr =>
    rcases hp with rfl | hp
    · simp [Pc.takes, State.brings, State.transfersOf, hr]
    · cases hp <;> simp [Pc.takes, State.brings, State.transfersOf, hr]
  | readWait hp => cases hp <;> rfl
  | readPop hp hi => cases hp <;> simp [Pc.takes, State.brings, State.transfersOf, hi]
  | readPopAll hp => cases hp <;> simp [Pc.takes, State.brings, State.transfersOf]
  | closeCheck hp => rcases hp with rfl | rfl <;> rfl
  | selClosed hi hc hp =>
    rw [takes_finishPass]
    rcases hp with rfl | ⟨rfl, ch, val, rfl⟩
    · rfl
    · have hc' : (s.chan ch).isClosed = true := hc
      simp [State.brings, State.transfersOf, hi, hc']
  | selHeld => rw [takes_nextCase]; rfl
  | selFull hi =>
    rw [takes_nextCase]
    simp [State.brings, State.transfersOf, hi, hit_nextCase]
  | selPush hi hc =>
    rw [takes_finishPass]
    simp [State.brings, State.transfersOf, hi, hit_finishPass, hc]
  | selEmpty hi => simp [Pc.takes, State.brings, State.transfersOf, hi]
  | selPop hi hq => simp [Pc.takes, Run.took, State.brings, State.transfersOf, hi, hq]
  | selRelease =>
    split
    · rw [takes_finishPass]; rfl
    · rw [takes_nextCase]; rfl
  | selWatch | selUnwatch => split <;> rfl
  | waitFails | registFails | unbind => rw [takes_afterWait]; rfl
  | @waitThrows w => cases w <;> rfl
  | @registAwaitEvent w => cases w <;> rfl
  | _ => rfl

end

section

variable [DecidableEq Co] [DecidableEq Ch] {s s' : State Co Ch α}

/-- What a step of `c` moves is recorded, and the queues have changed by it. -/
lemma next_moves {c : Co} {e : Env} (h : next s (.run c e) = some s') :
    MovesTo s s' c (s.moved (.run c e)) := by
  have hmoved : s.moved (.run c e) = (s'.pc c).takes ++ s.brings (s.pc c) (s'.pc c) := by
    simp only [State.moved, h]
  rw [hmoved]
  obtain ⟨⟨a, p⟩, hp, rfl⟩ := Option.map_eq_some_iff.mp h
  rw [goto_pc_self, (State.plan_cases hp).transfers]
  have hm := apply_movesTo (s := s) (c := c) a
  exact ⟨hm.transfers, hm.items, hm.pushed, hm.popped⟩

/-- A step in which `c` does not go on records nothing for it. -/
lemma next_transfers_of_ne {c : Co} {l : Label Co Ch α} (h : next s l = some s')
    (hl : ∀ e, l ≠ .run c e) : s'.transfers c = s.transfers c := by
  cases next_cases h with
  | call | wait => rfl
  | @run k e a p hp =>
    have hkc : c ≠ k := by
      rintro rfl
      exact hl e rfl
    exact apply_transfers_of_ne a hkc

end

end BbtCoroutine.Chan
