import BbtCoroutine.Chan.Steps
import BbtCoroutine.Transition.Object

/-!
# The channels are linearizable

The users of the channels see bounded queues that can be closed (`Buffer`).  `Effect` says
what each operation may do to them, all at once, and what it replies: a write appends its
item where there is room, a read takes the front item or all of them, a select does what one
of its cases does, `Close` closes.  The error codes say something of the queues too: `-1`
that the channel is closed, and for `Read` and `ReadAll` that it is empty as well.

A write that has waited may push its item into a channel that was closed meanwhile, so the
effect of a write asks for a channel that was open when the write was called.

`linearizable` says that in every run of the system each operation takes effect exactly once
and in a single step, between its call and its return, although its code takes many: it locks
and unlocks, waits, is woken or cancelled, registers itself and tries its cases again.
-/

namespace BbtCoroutine.Chan

open Transition Transition.AtomicObject

variable {Co Ch α : Type*}

/-! ## The object -/

/-- What the users of a channel see of it. -/
structure Buffer (α : Type*) where
  size : ℕ+
  items : List α
  closed : Bool

/-- What an operation returns; a select returns its index and what it stored in the output of
the case. -/
inductive Reply (α : Type*)
  | write (r : ℤ)
  | read (r : ℤ) (items : List α)
  | close
  | select (index : Option ℕ) (value : Option α)
  | threw

/-- The queue has no room. -/
def Buffer.full (b : Buffer α) : Prop :=
  (b.size : ℕ) ≤ b.items.length

/-- The operations that may wait; only these may throw. -/
def Op.mayWait : Op Ch α → Prop
  | .write op _ _ => op ≠ .tryWrite
  | .read op _ => op ≠ .tryRead
  | .close _ => False
  | .select _ _ _ => True

section

variable [DecidableEq Ch]

/-- The effects of the operations on the queues `x`; `x₀` are the queues at the call. -/
inductive Effect (x₀ x : Ch → Buffer α) : Op Ch α → Reply α → (Ch → Buffer α) → Prop
  | wrote {op : WriteOp} {ch : Ch} {item : α} (ho : (x₀ ch).closed = false)
      (hf : ¬ (x ch).full) : Effect x₀ x (.write op ch item) (.write 0)
        (Function.update x ch { x ch with items := (x ch).items ++ [item] })
  | writeClosed {op : WriteOp} {ch : Ch} {item : α} (hc : (x ch).closed = true) :
      Effect x₀ x (.write op ch item) (.write (-1)) x
  | writeFails {op : WriteOp} {ch : Ch} {item : α} (hf : op = .tryWrite → (x ch).full) :
      Effect x₀ x (.write op ch item) (.write (-2)) x
  | writeExpires {t : ℤ} {ch : Ch} {item : α} :
      Effect x₀ x (.write (.tryWriteFor t) ch item) (.write 1) x
  | readOne {op : ReadOp} {ch : Ch} {item : α} {items : List α} (ho : op ≠ .readAll)
      (hi : (x ch).items = item :: items) : Effect x₀ x (.read op ch) (.read 0 [item])
        (Function.update x ch { x ch with items := items })
  | readAll {ch : Ch} (hi : (x ch).items ≠ []) :
      Effect x₀ x (.read .readAll ch) (.read 0 (x ch).items)
        (Function.update x ch { x ch with items := [] })
  | readClosed {op : ReadOp} {ch : Ch} (hc : (x ch).closed = true)
      (hi : op = .read ∨ op = .readAll → (x ch).items = []) :
      Effect x₀ x (.read op ch) (.read (-1) []) x
  | readFails {op : ReadOp} {ch : Ch} : Effect x₀ x (.read op ch) (.read (-2) []) x
  | readExpires {t : ℤ} {ch : Ch} (hi : (x ch).items = []) :
      Effect x₀ x (.read (.tryReadFor t) ch) (.read 1 []) x
  | close {ch : Ch} : Effect x₀ x (.close ch) .close
      (Function.update x ch { x ch with closed := true })
  | selectRead {cases : List (Case Ch α)} {ms : ℤ} {d : Bool} {i : ℕ} {ch : Ch} {item : α}
      {items : List α} (hi : cases[i]? = some (.read ch)) (hq : (x ch).items = item :: items) :
      Effect x₀ x (.select cases ms d) (.select (some i) (some item))
        (Function.update x ch { x ch with items := items })
  | selectWrite {cases : List (Case Ch α)} {ms : ℤ} {d : Bool} {i : ℕ} {ch : Ch} {val : α}
      (hi : cases[i]? = some (.write ch val)) (hc : (x ch).closed = false)
      (hf : ¬ (x ch).full) : Effect x₀ x (.select cases ms d) (.select (some i) none)
        (Function.update x ch { x ch with items := (x ch).items ++ [val] })
  | selectClosed {cases : List (Case Ch α)} {ms : ℤ} {d : Bool} {i : ℕ} {case : Case Ch α}
      (hi : cases[i]? = some case) (hc : (x case.ch).closed = true) :
      Effect x₀ x (.select cases ms d) (.select (some i) none) x
  | selectNone {cases : List (Case Ch α)} {ms : ℤ} {d : Bool} :
      Effect x₀ x (.select cases ms d) (.select none none) x
  | threw {op : Op Ch α} (hw : op.mayWait) : Effect x₀ x op .threw x

/-- The object that the channels are meant to be. -/
def buffers (Co Ch α : Type*) [DecidableEq Ch] :
    AtomicObject Co (Ch → Buffer α) (Op Ch α) (Reply α) where
  start x := ∀ ch, (x ch).items = [] ∧ (x ch).closed = false
  effect _ := Effect

end

/-! ## What the points of the code stand for -/

/-- What the users of the channel `x` see of it. -/
def buffer (x : Chan Co α) : Buffer α :=
  ⟨x.maxSize, x.itemQueue, x.isClosed⟩

/-- What the users of the channels see of them. -/
def State.buffers (s : State Co Ch α) (ch : Ch) : Buffer α :=
  (s.chan ch).buffer

/-- What a select replies that ends with the given index. -/
def Run.reply (run : Run Ch α) (index : Option ℕ) : Reply α :=
  .select index (index.bind run.outs)

/-- The operation that a select was called with. -/
def Run.op (run : Run Ch α) : Op Ch α :=
  .select run.cases run.timeoutMs run.hasDefault

/-- A select that has stored nothing so far. -/
structure Run.Fresh (run : Run Ch α) : Prop where
  cbIndex : run.cbIndex = none
  outs : ∀ i, run.outs i = none

/-- What the caller gets of the end of an operation. -/
def Ret.reply : Ret Ch α → Reply α
  | .write _ _ _ r _ => .write r
  | .read _ _ r items => .read r items
  | .close _ => .close
  | .select run index => run.reply index
  | .threw => .threw

/-- A wait of the operation `op`, which has had no effect so far. -/
def Waiting.Pending (x₀ : Ch → Buffer α) : Waiting Ch α → Op Ch α → Prop
  | .write o ch item, op => op = .write o ch item ∧ o ≠ .tryWrite ∧ (x₀ ch).closed = false
  | .read o ch, op => op = .read o ch ∧ o ≠ .tryRead
  | .select run, op => op = run.op ∧ run.Fresh

/-- A wait of a select whose callback has done what a case does. -/
def Waiting.Done : Waiting Ch α → Reply α → Prop
  | .select run, r => run.cbIndex ≠ none ∧ r = run.reply run.cbIndex
  | _, _ => False

/-- A point of the operation `op`, which has had no effect so far; `x` are the queues. -/
def Pc.Pending (x₀ x : Ch → Buffer α) : Pc Ch α → Op Ch α → Prop
  | .writeCheck o ch item, op => op = .write o ch item
  | .writeLock o ch item, op => op = .write o ch item ∧ (x₀ ch).closed = false
  | .writeCallback o ch item, op | .writeRecheck o ch item, op | .writeRelock o ch item, op =>
    op = .write o ch item ∧ o ≠ .tryWrite ∧ (x₀ ch).closed = false
  | .readCheck o ch, op => op = .read o ch ∧ o ≠ .read ∧ o ≠ .readAll
  | .readFlag o ch, op | .readLock o ch, op => op = .read o ch
  | .readClosed ch, op => op = .read .read ch
  | .readClosedLock ch, op => op = .read .read ch ∧ (x ch).closed = true
  | .readCallback o ch, op | .readRelock o ch _, op => op = .read o ch ∧ o ≠ .tryRead
  | .closeCheck ch, op | .closeLock ch, op => op = .close ch
  | .selTry run _ _, op | .selFlag run _ _, op | .selLock run _ _, op
  | .selRelease run _ _ false, op | .selWatch run _, op => op = run.op ∧ run.Fresh
  | .prepare w, op | .regist w, op | .commit w, op | .parked w, op | .unbind w _, op =>
    w.Pending x₀ op
  | _, _ => False

/-- A point of an operation that has had its effect and will reply `r`. -/
def Pc.Done : Pc Ch α → Reply α → Prop
  | .readRelease _ ret, r | .returned ret, r => r = ret.reply
  | .selRelease run _ i true, r => r = run.reply (some i)
  | .selNotify run, r => run.cbIndex ≠ none ∧ r = run.reply run.cbIndex
  | .selUnwatch run _ index, r => r = run.reply index
  | .commit w, r | .parked w, r | .unbind w _, r => w.Done r
  | _, _ => False

/-- In the state `s` the point is one of an operation `op` that was called when the queues were `x₀`
and has had no effect so far. -/
def PendingIn (x₀ : Ch → Buffer α) (s : State Co Ch α) (p : Pc Ch α) (op : Op Ch α) : Prop :=
  p.Pending x₀ s.buffers op ∧ ∀ ch, (x₀ ch).closed = true → (s.buffers ch).closed = true

/-- What a step shows: the call of an operation, or the return from it. -/
def see (s : State Co Ch α) : Label Co Ch α → List (Visible Co (Op Ch α) (Reply α))
  | .call c op => [.call c op]
  | .run c _ =>
    match s.pc c with
    | .returned ret => [.ret c ret.reply]
    | _ => []
  | _ => []

/-! ## The queues after an act -/

section

variable [DecidableEq Co] [DecidableEq Ch] (s : State Co Ch α) (c : Co) (ch : Ch)

omit [DecidableEq Co] in
/-- Replacing a channel replaces its buffer. -/
lemma setChan_buffers (x : Chan Co α) :
    (s.setChan ch x).buffers = Function.update s.buffers ch x.buffer := by
  funext ch'
  by_cases h : ch' = ch
  · subst h
    simp [State.buffers, State.setChan]
  · simp [State.buffers, State.setChan, h]

omit [DecidableEq Co] [DecidableEq Ch] in
/-- The buffers depend on the channels only. -/
lemma buffers_of_chan {s s' : State Co Ch α} (h : s'.chan = s.chan) : s'.buffers = s.buffers := by
  funext ch
  rw [State.buffers, h, State.buffers]

omit [DecidableEq Co] in
/-- A step that replaces one channel replaces its buffer. -/
lemma buffers_of_update {s s' : State Co Ch α} {x : Chan Co α}
    (h : s'.chan = Function.update s.chan ch x) :
    s'.buffers = Function.update s.buffers ch x.buffer := by
  rw [← setChan_buffers]
  exact buffers_of_chan h

/-- A push appends its item to the buffer. -/
lemma push_buffers (item : α) : (s.push c ch item).buffers = Function.update s.buffers ch
    { s.buffers ch with items := (s.buffers ch).items ++ [item] } :=
  buffers_of_update ch (push_chan s c ch item)

/-- A pop takes the first item of the buffer. -/
lemma pop_buffers {item : α} {items : List α} (h : (s.buffers ch).items = item :: items) :
    (s.pop c ch).buffers = Function.update s.buffers ch { s.buffers ch with items := items } :=
  buffers_of_update ch (pop_chan s c h)

/-- As many pops as there are items empty the buffer. -/
lemma popN_buffers {items : List α} (h : (s.buffers ch).items = items) :
    (State.popN c ch items.length s).buffers =
      Function.update s.buffers ch { s.buffers ch with items := [] } := by
  induction items generalizing s with
  | nil =>
    have hself : { s.buffers ch with items := [] } = s.buffers ch := by rw [← h]
    rw [hself, Function.update_eq_self]
    rfl
  | cons item items ih =>
    have hpop := pop_buffers s c ch h
    have hitems : ((s.pop c ch).buffers ch).items = items := by rw [hpop, Function.update_self]
    rw [List.length_cons, State.popN, ih (s.pop c ch) hitems, hpop, Function.update_self,
      Function.update_idem]

/-- `Close` closes the buffer. -/
lemma close_buffers : (s.close ch).buffers =
    Function.update s.buffers ch { s.buffers ch with closed := true } :=
  buffers_of_update ch (close_chan s ch)

/-- The acts by which no item moves and nothing is closed. -/
def Act.silent : Act Ch α → Bool
  | .push _ _ | .pop _ | .popAll _ | .close _ => false
  | _ => true

variable {s c}

/-- The users of the channels see nothing of such an act. -/
lemma apply_buffers {a : Act Ch α} (h : a.silent = true) :
    (s.apply c a).buffers = s.buffers := by
  refine funext fun ch => apply_member Chan.buffer fun x x' ht => ?_
  cases ht with
  | push | close => cases h
  | pop w ha hi => rcases ha with rfl | rfl <;> cases h
  | _ => rfl

/-! ## One step of an operation -/

/-- What a step leads to from a point of `op` without effect: the queues are as before and `op`
is still without effect, or it has just had one. -/
inductive Advances (x₀ x : Ch → Buffer α) (op : Op Ch α) (p : Pc Ch α) : (Ch → Buffer α) → Prop
  | pending (h : p.Pending x₀ x op) : Advances x₀ x op p x
  | effect {r : Reply α} {x' : Ch → Buffer α} (h : Effect x₀ x op r x') (hp : p.Done r) :
      Advances x₀ x op p x'

variable {x₀ : Ch → Buffer α} {e : Env}

omit [DecidableEq Co] [DecidableEq Ch] in
/-- The channel is full if its buffer is. -/
lemma full_iff : (s.chan ch).full = true ↔ (s.buffers ch).full :=
  decide_eq_true_iff

/-- The loop of a write is one of an operation without effect, or its effect. -/
lemma writeLoop_advances {op : WriteOp} {item : α} (ho : (x₀ ch).closed = false) :
    Advances x₀ s.buffers (.write op ch item) (s.writeLoop e op ch item).2
      (s.apply c (s.writeLoop e op ch item).1).buffers := by
  unfold State.writeLoop
  split
  · rename_i hf
    cases op with
    | write => exact .pending ⟨rfl, by simp, ho⟩
    | tryWrite => exact .effect (.writeFails fun _ => (full_iff ch).mp hf) rfl
    | tryWriteFor timeout =>
      dsimp only
      split
      · exact .effect .writeExpires rfl
      · exact .pending ⟨rfl, by simp, ho⟩
  · rename_i hf
    have hroom : ¬ (s.buffers ch).full := fun h => hf ((full_iff ch).mpr h)
    have hpush : Advances x₀ s.buffers (.write op ch item)
        (.returned (.write op ch item 0 (some (s.chan ch).pushed.length)))
        (s.push c ch item).buffers := by
      rw [push_buffers]
      exact .effect (.wrote ho hroom) rfl
    exact hpush

/-- The loop of a read is one of an operation without effect, or its effect. -/
lemma readLoop_advances {op : ReadOp} :
    Advances x₀ s.buffers (.read op ch) (s.readLoop e op ch).2
      (s.apply c (s.readLoop e op ch).1).buffers := by
  unfold State.readLoop
  cases hi : (s.chan ch).itemQueue with
  | nil =>
    have hitems : (s.buffers ch).items = [] := hi
    cases op with
    | tryRead => exact .effect .readFails rfl
    | tryReadFor timeout =>
      dsimp only
      split
      · exact .effect (.readClosed ‹_› fun _ => hitems) rfl
      · split
        · exact .effect (.readExpires hitems) rfl
        · exact .pending ⟨rfl, by simp⟩
    | read | readAll =>
      dsimp only
      split
      · exact .effect (.readClosed ‹_› fun _ => hitems) rfl
      · exact .pending ⟨rfl, by simp⟩
  | cons item items =>
    have hitems : (s.buffers ch).items = item :: items := hi
    have hone (ho : op ≠ .readAll) : Advances x₀ s.buffers (.read op ch)
        (.readRelease ch (.read op ch 0 [item])) (s.pop c ch).buffers := by
      rw [pop_buffers s c ch hitems]
      exact .effect (.readOne ho hitems) rfl
    cases op with
    | readAll =>
      have hne : (s.buffers ch).items ≠ [] := by simp [hitems]
      have hall : Advances x₀ s.buffers (.read .readAll ch)
          (.readRelease ch (.read .readAll ch 0 (s.buffers ch).items))
          (State.popN c ch (s.buffers ch).items.length s).buffers := by
        rw [popN_buffers s c ch rfl]
        exact .effect (.readAll hne) rfl
      dsimp only
      rw [← hitems]
      exact hall
    | read => exact hone (by simp)
    | tryRead => exact hone (by simp)
    | tryReadFor timeout => exact hone (by simp)

omit [DecidableEq Ch] in
/-- A pass that ends with a case leads to points with that reply. -/
lemma done_finishPass (run : Run Ch α) (pass : Pass) (i : ℕ) :
    (finishPass run pass (some i)).Done (run.reply (some i)) := by
  cases pass with
  | first | last => rfl
  | recheck => exact ⟨Option.some_ne_none i, rfl⟩

variable {run : Run Ch α} {pass : Pass} {i : ℕ} {x : Ch → Buffer α}

/-- A pass that ends with no case leaves the select without effect, or ends it. -/
lemma finishPass_advances (hr : run.Fresh) :
    Advances x₀ x run.op (finishPass run pass none) x := by
  have hnone : Effect x₀ x run.op (run.reply none) x := .selectNone
  cases pass with
  | first =>
    rw [finishPass]
    split
    · exact .effect hnone rfl
    · exact .pending ⟨rfl, hr⟩
  | recheck => exact .pending ⟨rfl, hr⟩
  | last => exact .effect hnone rfl

/-- A case that is not ready leaves the select without effect, or ends it with its reply. -/
lemma nextCase_advances (hr : run.Fresh) :
    Advances x₀ x run.op (nextCase run pass i) x := by
  unfold nextCase
  split
  · exact .pending ⟨rfl, hr⟩
  · exact finishPass_advances hr

section

omit [DecidableEq Ch]

/-- A select that notes a case being read has still taken nothing. -/
lemma Run.Fresh.refuse (hr : run.Fresh) : (run.refuse pass i).Fresh := by
  unfold Run.refuse
  split
  · exact ⟨hr.cbIndex, hr.outs⟩
  · exact hr

/-- Noting a case being read does not change the operation. -/
lemma op_refuse (run : Run Ch α) (pass : Pass) (i : ℕ) : (run.refuse pass i).op = run.op := by
  unfold Run.refuse
  split <;> rfl

/-- A fresh select that ends with a case has stored nothing. -/
lemma Run.Fresh.reply (hr : run.Fresh) (i : ℕ) : run.reply (some i) = .select (some i) none := by
  rw [Run.reply, Option.bind_some, hr.outs i]

end

omit [DecidableEq Co] in
/-- A case whose channel is found closed ends the select. -/
lemma closed_advances {case : Case Ch α} (hr : run.Fresh) (hi : run.cases[i]? = some case)
    (hc : (s.chan case.ch).isClosed = true) :
    Advances x₀ s.buffers run.op (finishPass run pass (some i)) s.buffers := by
  refine .effect ?_ (done_finishPass run pass i)
  rw [hr.reply i]
  exact .selectClosed hi hc

/-- Trying a case is a step of a select without effect, or its effect. -/
lemma tryCase_advances {case : Case Ch α} (hr : run.Fresh) (hi : run.cases[i]? = some case) :
    Advances x₀ s.buffers run.op (s.tryCase run pass i case).2
      (s.apply c (s.tryCase run pass i case).1).buffers := by
  cases case with
  | read ch =>
    rw [State.tryCase]
    cases hq : (s.chan ch).itemQueue with
    | nil => exact .pending ⟨rfl, hr⟩
    | cons item items =>
      have hpop : Advances x₀ s.buffers run.op
          (.selRelease { run with outs := Function.update run.outs i (some item) } pass i true)
          (s.pop c ch).buffers := by
        rw [pop_buffers s c ch hq]
        refine .effect (.selectRead hi hq) ?_
        simp [Pc.Done, Run.reply]
      exact hpop
  | write ch val =>
    rw [State.tryCase]
    split
    · exact closed_advances hr hi ‹_›
    · rename_i hc
      split
      · exact nextCase_advances hr
      · rename_i hf
        have hroom : ¬ (s.buffers ch).full := fun h => hf ((full_iff ch).mpr h)
        have hpush : Advances x₀ s.buffers run.op (finishPass run pass (some i))
            (s.push c ch val).buffers := by
          rw [push_buffers]
          refine .effect ?_ (done_finishPass run pass i)
          rw [hr.reply i]
          exact .selectWrite hi (Bool.eq_false_iff.mpr hc) hroom
        exact hpush

/-! ### Waits -/

variable {w : Waiting Ch α} {op : Op Ch α}

omit [DecidableEq Ch] in
/-- An operation that waits may wait. -/
lemma Waiting.Pending.mayWait (h : w.Pending x₀ op) : op.mayWait := by
  cases w with
  | write o ch item =>
    obtain ⟨rfl, ho, -⟩ := h
    exact ho
  | read o ch =>
    obtain ⟨rfl, ho⟩ := h
    exact ho
  | select run =>
    obtain ⟨rfl, -⟩ := h
    trivial

/-- A wait that ends without effect leads back into the operation, or fails it. -/
lemma afterWait_advances {ret : ℤ} (h : w.Pending x₀ op) :
    Advances x₀ x op (afterWait ret w) x := by
  cases w with
  | write o ch item =>
    obtain ⟨rfl, ho, hopen⟩ := h
    unfold afterWait
    dsimp only
    split
    · exact .pending ⟨rfl, ho, hopen⟩
    · have hfails : Effect x₀ x (.write o ch item) (.write (-2)) x :=
        .writeFails fun h => absurd h ho
      cases o with
      | tryWriteFor timeout =>
        dsimp only
        split
        · exact .effect .writeExpires rfl
        · exact .effect hfails rfl
      | write => exact .effect hfails rfl
      | tryWrite => exact absurd rfl ho
  | read o ch =>
    obtain ⟨rfl, ho⟩ := h
    exact .pending ⟨rfl, ho⟩
  | select run =>
    obtain ⟨rfl, hr⟩ := h
    rw [afterWait, hr.cbIndex]
    exact .pending ⟨rfl, hr⟩

/-- A wait that throws ends its operation without effect. -/
lemma waitThrows_advances (h : w.Pending x₀ op) : Advances x₀ x op (waitThrows w) x := by
  refine .effect (.threw h.mayWait) ?_
  cases w <;> rfl

omit [DecidableEq Ch] in
/-- The wait that begins is one of the same operation. -/
lemma begun_pending {n : ℕ} (h : w.Pending x₀ op) : (w.begun n).Pending x₀ op := by
  cases w with
  | write | read => exact h
  | select run => exact ⟨h.1, h.2.cbIndex, h.2.outs⟩

omit [DecidableEq Ch] in
/-- The callback of a wait is a point of its operation. -/
lemma callback_pending (h : w.Pending x₀ op) : (callback w).Pending x₀ x op := by
  cases w <;> exact h

/-- Preparing a wait leaves its operation without effect, or ends it. -/
lemma prepareWait_advances (h : w.Pending x₀ op) :
    Advances x₀ s.buffers op (s.prepareWait c e w).2
      (s.apply c (s.prepareWait c e w).1).buffers := by
  unfold State.prepareWait
  split
  · exact afterWait_advances h
  · split
    · exact waitThrows_advances h
    · have hb : (s.apply c (.registCustom w.cond w.timed)).buffers = s.buffers :=
        apply_buffers rfl
      dsimp only
      rw [hb]
      exact .pending (begun_pending h)

omit [DecidableEq Ch] in
/-- A wait whose callback has done what a case does leads to the end of the select. -/
lemma afterWait_done {ret : ℤ} {r : Reply α} (h : w.Done r) : (afterWait ret w).Done r := by
  cases w with
  | write | read => cases h
  | select run =>
    obtain ⟨hne, rfl⟩ := h
    obtain ⟨i, hi⟩ := Option.ne_none_iff_exists'.mp hne
    rw [afterWait, hi]
    rfl

/-! ### Any point -/

variable {a : Act Ch α} {p : Pc Ch α}

/-- An act that does not touch the buffers advances an operation as its point does. -/
lemma Advances.silent (ha : a.silent = true) (h : Advances x₀ s.buffers op p s.buffers) :
    Advances x₀ s.buffers op p (s.apply c a).buffers := by
  rw [apply_buffers ha]
  exact h

/-- The act and the point that a step is computed to have advance the operation. -/
lemma Advances.of_eq {q : Act Ch α × Pc Ch α} (h : some q = some (a, p))
    (hq : Advances x₀ s.buffers op q.2 (s.apply c q.1).buffers) :
    Advances x₀ s.buffers op p (s.apply c a).buffers := by
  obtain rfl := Option.some.inj h
  exact hq

/-- An operation without effect takes its effect in one step, or stays without it. -/
lemma plan_advances (hmono : ∀ ch, (x₀ ch).closed = true → (s.buffers ch).closed = true)
    (hp : (s.pc c).Pending x₀ s.buffers op) (h : s.plan c e = some (a, p)) :
    Advances x₀ s.buffers op p (s.apply c a).buffers := by
  have hopen : ∀ {ch}, (s.chan ch).isClosed ≠ true → (x₀ ch).closed = false := fun hc =>
    Bool.eq_false_iff.mpr fun h => hc (hmono _ h)
  unfold State.plan at h
  cases hpc : s.pc c <;> simp only [hpc] at h hp
  case idle => cases h
  case returned => cases hp
  case writeCheck =>
    obtain rfl := hp
    split at h <;> cases h
    · exact .effect (.writeClosed ‹_›) rfl
    · exact .pending ⟨rfl, hopen ‹_›⟩
  case writeLock =>
    obtain ⟨rfl, ho⟩ := hp
    split at h
    · cases h
      exact .effect (.writeClosed ‹_›) rfl
    · exact .of_eq h (writeLoop_advances _ ho)
  case writeCallback =>
    cases h
    exact .silent rfl (.pending hp)
  case writeRecheck =>
    obtain ⟨rfl, ho⟩ := hp
    split at h <;> cases h
    · exact .effect (.writeClosed ‹_›) rfl
    · exact .pending ⟨rfl, ho⟩
  case writeRelock =>
    obtain ⟨rfl, -, ho⟩ := hp
    exact .of_eq h (writeLoop_advances _ ho)
  case readCheck =>
    obtain ⟨rfl, hr, ha⟩ := hp
    split at h <;> cases h
    · exact .effect (.readClosed ‹_› fun ho => absurd ho (not_or.mpr ⟨hr, ha⟩)) rfl
    · exact .pending rfl
  case readFlag =>
    obtain rfl := hp
    split at h <;> cases h
    · exact .effect .readFails rfl
    · refine .silent rfl (.pending ?_)
      split
      · rename_i ho
        exact congrArg (Op.read · _) ho
      · rfl
  case readClosed =>
    obtain rfl := hp
    split at h <;> cases h
    · exact .pending ⟨rfl, ‹_›⟩
    · exact .pending rfl
  case readClosedLock =>
    obtain ⟨rfl, hc⟩ := hp
    split at h <;> cases h
    · refine .effect (.readClosed hc fun _ => ?_) rfl
      exact List.isEmpty_iff.mp ‹_›
    · exact .pending rfl
  case readLock =>
    obtain rfl := hp
    exact .of_eq h (readLoop_advances _)
  case readCallback =>
    cases h
    exact .silent rfl (.pending hp)
  case readRelock =>
    obtain ⟨rfl, -⟩ := hp
    split at h
    · cases h
      exact .effect .readFails rfl
    · exact .of_eq h (readLoop_advances _)
  case readRelease => cases hp
  case closeCheck ch =>
    obtain rfl := hp
    split at h <;> cases h
    · rename_i hc
      have hclose : Effect x₀ s.buffers (.close ch) .close
          (Function.update s.buffers ch { s.buffers ch with closed := true }) := .close
      have hself : { s.buffers ch with closed := true } = s.buffers ch := by
        rw [← show (s.buffers ch).closed = true from hc]
      rw [hself, Function.update_eq_self] at hclose
      exact .effect hclose rfl
    · exact .pending rfl
  case closeLock ch =>
    obtain rfl := hp
    cases h
    have hclose : Advances x₀ s.buffers (.close ch) (.returned (.close ch))
        (s.close ch).buffers := by
      rw [close_buffers]
      exact .effect .close rfl
    exact hclose
  case selTry run pass i =>
    obtain ⟨rfl, hr⟩ := hp
    cases hi : run.cases[i]? with
    | none => simp [hi] at h
    | some case =>
      simp only [hi] at h
      split at h
      · cases h
        exact closed_advances hr hi ‹_›
      · cases case <;> cases h <;> exact .pending ⟨rfl, hr⟩
  case selFlag run pass i =>
    obtain ⟨rfl, hr⟩ := hp
    split at h
    · split at h <;> cases h
      · exact op_refuse run pass i ▸ nextCase_advances hr.refuse
      · exact .silent rfl (.pending ⟨rfl, hr⟩)
    · cases h
  case selLock =>
    obtain ⟨rfl, hr⟩ := hp
    obtain ⟨case, hi, h⟩ := Option.map_eq_some_iff.mp h
    exact .of_eq (congrArg some h) (tryCase_advances hr hi)
  case selRelease run pass i ready =>
    obtain ⟨case, hi, h⟩ := Option.map_eq_some_iff.mp h
    cases h
    cases ready with
    | true => cases hp
    | false =>
      obtain ⟨rfl, hr⟩ := hp
      exact .silent rfl (nextCase_advances hr)
  case selWatch =>
    obtain ⟨rfl, hr⟩ := hp
    obtain ⟨case, hi, h⟩ := Option.map_eq_some_iff.mp h
    cases h
    refine .silent rfl (.pending ?_)
    split <;> exact ⟨rfl, hr⟩
  case selNotify => cases hp
  case selUnwatch => cases hp
  case prepare => exact .of_eq h (prepareWait_advances hp)
  case regist =>
    split at h <;> cases h
    · exact .silent rfl (afterWait_advances hp)
    · exact .silent rfl (.pending (callback_pending hp))
  case commit =>
    cases h
    exact .silent rfl (.pending hp)
  case parked =>
    split at h <;> cases h
    exact .silent rfl (.pending hp)
  case unbind =>
    cases h
    exact .silent rfl (afterWait_advances hp)

omit [DecidableEq Co] [DecidableEq Ch] in
/-- An operation that has had its effect has no other. -/
lemma plan_done {r : Reply α} (hp : (s.pc c).Done r) (h : s.plan c e = some (a, p)) :
    a.silent = true ∧ (p.Done r ∨ p = .idle ∧ ∃ ret, s.pc c = .returned ret ∧ r = ret.reply) := by
  unfold State.plan at h
  cases hpc : s.pc c <;> simp only [hpc] at h hp
  case returned ret =>
    cases h
    exact ⟨rfl, .inr ⟨rfl, ret, rfl, hp⟩⟩
  case readRelease =>
    cases h
    exact ⟨rfl, .inl hp⟩
  case selRelease run pass i ready =>
    obtain ⟨case, hi, h⟩ := Option.map_eq_some_iff.mp h
    cases h
    cases ready with
    | false => cases hp
    | true =>
      obtain rfl := hp
      exact ⟨rfl, .inl (done_finishPass run pass i)⟩
  case selNotify =>
    cases h
    exact ⟨rfl, .inl hp⟩
  case selUnwatch =>
    obtain ⟨case, hi, h⟩ := Option.map_eq_some_iff.mp h
    cases h
    refine ⟨rfl, .inl ?_⟩
    split <;> exact hp
  case commit =>
    cases h
    exact ⟨rfl, .inl hp⟩
  case parked =>
    split at h <;> cases h
    exact ⟨rfl, .inl hp⟩
  case unbind =>
    cases h
    exact ⟨rfl, .inl (afterWait_done hp)⟩
  all_goals cases hp

/-! ## The whole system -/

/-- A channel that its users see closed stays so. -/
lemma apply_closed (a : Act Ch α) (h : (s.buffers ch).closed = true) :
    ((s.apply c a).buffers ch).closed = true := by
  refine apply_induct (I := fun x => x.isClosed = true) (fun x x' ht hx => ?_) h
  cases ht with
  | close => rfl
  | _ => exact hx

omit [DecidableEq Ch] in
/-- A point keeps its meaning while the closed channels stay closed. -/
lemma Pc.Pending.mono {x' : Ch → Buffer α} (h : p.Pending x₀ x op)
    (hx : ∀ ch, (x ch).closed = true → (x' ch).closed = true) : p.Pending x₀ x' op := by
  cases p with
  | readClosedLock ch => exact ⟨h.1, hx ch h.2⟩
  | selRelease run pass i ready => cases ready <;> exact h
  | _ => exact h

omit [DecidableEq Co] [DecidableEq Ch] in
/-- A point stays one of an operation without effect while no buffer is reopened. -/
lemma PendingIn.mono {s' : State Co Ch α} (h : PendingIn x₀ s p op)
    (hx : ∀ ch, (s.buffers ch).closed = true → (s'.buffers ch).closed = true) :
    PendingIn x₀ s' p op :=
  ⟨h.1.mono hx, fun ch hch => hx ch (h.2 ch hch)⟩

omit [DecidableEq Ch] in
/-- An operation starts without effect. -/
lemma pendingIn_entry (h : s.entry c op = some p) :
    PendingIn s.buffers (s.goto c p) ((s.goto c p).pc c) op := by
  refine ⟨?_, fun _ hch => hch⟩
  rw [goto_pc_self]
  cases op with
  | write o ch item =>
    cases h
    rfl
  | read o ch =>
    cases o <;> cases h
    · rfl
    · rfl
    · exact ⟨rfl, by simp⟩
    · exact ⟨rfl, by simp⟩
  | close ch =>
    cases h
    rfl
  | select cases timeoutMs hasDefault =>
    rw [State.entry] at h
    split at h <;> cases h
    exact ⟨rfl, rfl, fun _ => rfl⟩

/-- A step of the code of `c`, seen from the object. -/
lemma plan_pointStep (h : s.plan c e = some (a, p)) :
    System.PointStep (buffers Co Ch α) State.buffers State.pc .idle PendingIn Pc.Done s
      ((s.apply c a).goto c p) c (see s (.run c e)) := by
  have hgoto : ((s.apply c a).goto c p).pc c = p := goto_pc_self ..
  have hadv : ∀ x₀ op, PendingIn x₀ s (s.pc c) op → System.Advances (buffers Co Ch α) c x₀
      s.buffers op (s.apply c a).buffers (PendingIn x₀ ((s.apply c a).goto c p) p op) p.Done := by
    rintro x₀ op ⟨hp, hmono⟩
    have hpending (hp : p.Pending x₀ (s.apply c a).buffers op) :
        PendingIn x₀ ((s.apply c a).goto c p) p op :=
      ⟨hp, fun ch hch => apply_closed ch a (hmono ch hch)⟩
    have hadv := plan_advances hmono hp h
    generalize (s.apply c a).buffers = x' at hadv hpending ⊢
    cases hadv with
    | pending hp' => exact .pending rfl (hpending hp')
    | effect he hd => exact .effect he hd
  have hdone : ∀ r, (s.pc c).Done r → (∀ ret, s.pc c ≠ .returned ret) →
      (s.apply c a).buffers = s.buffers ∧ p.Done r := by
    intro r hd hne
    obtain ⟨ha, hd | ⟨-, ret, hpc, -⟩⟩ := plan_done hd h
    · exact ⟨apply_buffers ha, hd⟩
    · exact absurd hpc (hne ret)
  cases hpc : s.pc c with
  | returned ret =>
    obtain ⟨ha, hd | ⟨rfl, -⟩⟩ := plan_done (r := ret.reply) (hpc ▸ rfl) h
    · simp only [State.plan, hpc, Option.some.injEq, Prod.mk.injEq] at h
      obtain ⟨-, rfl⟩ := h
      cases hd
    · simp only [see, hpc]
      refine .ret (apply_buffers ha) hgoto ?_ ?_ ?_ <;> rw [hpc]
      · exact fun _ _ hp => hp.1
      · exact fun _ => id
      · simp
  | idle => simp [State.plan, hpc] at h
  | _ =>
    simp only [see, hpc]
    refine .run (by simp [hpc]) ?_ ?_ <;> rw [hgoto]
    · exact hadv
    · exact fun r hd => hdone r hd (by simp [hpc])

end

/-- The channels are linearizable: whatever any number of coroutines see of their calls of
`Write`, `TryWrite`, `Read`, `ReadAll`, `TryRead`, `Close` and `CoSelect::Run` on any number of
channels, they could see if each call did all it does in one step. -/
theorem linearizable_buffers (Co Ch α : Type*) [DecidableEq Co] [DecidableEq Ch] :
    (system Co Ch α).Linearizable see (buffers Co Ch α) := by
  refine System.linearizable_of_points State.buffers State.pc .idle PendingIn Pc.Done ?_
    (fun _ _ _ h => h.1) (fun _ => id) ?_
  · rintro _ ⟨size, rfl⟩
    exact ⟨fun _ => ⟨rfl, rfl⟩, fun _ => rfl⟩
  · intro s l s' _ hs
    cases l with
    | call c op =>
      simp only [system, next] at hs
      split at hs
      · rename_i hidle
        obtain ⟨p, hp, rfl⟩ := Option.map_eq_some_iff.mp hs
        exact ⟨c, .call rfl hidle (pendingIn_entry hp),
          fun j hj => ⟨goto_pc_of_ne s c hj p, fun _ _ h => h⟩⟩
      · cases hs
    | run c e =>
      obtain ⟨⟨a, p⟩, hp, rfl⟩ := Option.map_eq_some_iff.mp hs
      refine ⟨c, plan_pointStep hp, fun j hj =>
        ⟨?_, fun _ _ h => h.mono fun ch => apply_closed ch a⟩⟩
      rw [goto_pc_of_ne _ c hj p, apply_pc]
    | timer c =>
      simp only [system, next] at hs
      split at hs <;> cases hs
      exact ⟨c, .quiet rfl rfl fun _ _ => id, fun _ _ => ⟨rfl, fun _ _ => id⟩⟩
    | requestCancel c =>
      cases hs
      exact ⟨c, .quiet rfl rfl fun _ _ => id, fun _ _ => ⟨rfl, fun _ _ => id⟩⟩
    | cancelTrigger c =>
      simp only [system, next] at hs
      split at hs <;> cases hs
      exact ⟨c, .quiet rfl rfl fun _ _ => id, fun _ _ => ⟨rfl, fun _ _ => id⟩⟩

end BbtCoroutine.Chan
