import BbtCoroutine.TwoQueueChan.Model
import Mathlib.Tactic.SplitIfs

/-!
# The channel without a cache is two queues

The overridden and the inherited operations do not see the items of each other.  Within each of
the two queues the items come out in the order in which they went in, and an operation that holds
the flag of the readers neither parks nor reports that there is nothing as long as the oldest item
of its own queue is an accepted one.  `twoFifos_of_reachable` says so for every run.

The item of a `Write` whose wait has failed is not an accepted one, and nothing is said of it.
-/

namespace BbtCoroutine.TwoQueueChan

open Transition

variable {Co α : Type*} [DecidableEq Co]

/-! ## Statement -/

/-- The items of one queue in a list of items. -/
def Queue.of (q : Queue) (l : List (Queue × α)) : List α :=
  (l.filter fun x => x.1 = q).map Prod.snd

/-- The operation that has set the flag and is about to look at its queue. -/
def Pc.looks : Pc α → Option ReadOp
  | readClosed | readClosedLock => some .read
  | readLock op | readRelock op _ => some op
  | _ => none

/-- What a coroutine whose operation looks at a queue with an item does in a step. -/
structure Obtains (s s' : State Co α) (c : Co) (op : ReadOp) : Prop where
  /-- It does not park. -/
  goesOn : s'.pc c ≠ .readWait op
  /-- It ends with the oldest items, or because its wait has failed. -/
  result : ∀ r items, s'.pc c = .readRelease op r items →
    (r = 0 ∧ items = s.oldest op) ∨
      r = -2 ∧ ∃ ret, s.pc c = .readRelock op ret ∧ ret ≠ 0 ∧ ret ≠ 1

/-- The item with the index `n` in its queue was not left there by a `Write` that has failed. -/
def State.keeps (s : State Co α) (q : Queue) (n : ℕ) : Bool :=
  !(decide (q = .cacheRef) && s.failed.contains n)

/-- The accepted items of a list of items of one queue, the first of which has the index `n`. -/
def State.kept (s : State Co α) (q : Queue) (n : ℕ) (l : List α) : List α :=
  ((l.zipIdx n).filter fun x => s.keeps q x.2).map Prod.fst

/-- The items that an operation places by going from the point `p` to the point `p'`. -/
def Pc.places (p p' : Pc α) : List (Queue × α) :=
  match p, p' with
  | writeLock item, _ => [(.cacheRef, item)]
  | tryWriteLock item, returned r | tryWriteForLock item, returned r
  | tryWriteForRelock item, returned r => if r = 0 then [(.itemQueue, item)] else []
  | _, _ => []

/-- The index of the item whose `Write` fails by going from the point `p` to the point `p'`. -/
def Pc.fails (p p' : Pc α) : List ℕ :=
  match p, p' with
  | writeWait isWritingIdx, returned r => if r = 0 then [] else [isWritingIdx]
  | _, _ => []

/-- The records of a run agree with what the operations report. -/
structure Recorded (s s' : State Co α) (c : Co) : Prop where
  /-- `TryWrite` places its item by returning `0`, `Write` before it waits or returns `0`. -/
  placed : s'.placed = s.placed ++ (s.pc c).places (s'.pc c)
  /-- A `Write` goes on to wait with the index of its item. -/
  index : ∀ item n, s.pc c = .writeLock item → s'.pc c = .writeWait n →
    n = (Queue.cacheRef.of s.placed).length
  /-- It fails if it returns from its wait with another result than `0`. -/
  failed : s'.failed = s.failed ++ (s.pc c).fails (s'.pc c)
  /-- A read returns what it has in its hand, which is something if its result is `0`. -/
  returned : s'.returned = s.returned ++ (s.pc c).hand
  result : ∀ op r items, s.pc c = .readRelease op r items →
    s'.pc c = .returned r ∧ (r = 0 ↔ items ≠ [])

/-- The two queues of the channel. -/
structure TwoFifos (s : State Co α) : Prop where
  recorded : ∀ c o s', s.run c o = some s' → Recorded s s' c
  /-- The accepted items that the reads of a queue have returned are the first accepted items that
  its writes have placed. -/
  inOrder : ∀ q : Queue, s.kept q 0 (q.of s.returned) <+: s.kept q 0 (q.of s.placed)
  /-- An operation that looks at its queue finds there the accepted items that have not been
  returned. -/
  unread : ∀ c op, (s.pc c).looks = some op →
    s.kept op.queue 0 (op.queue.of s.placed) = s.kept op.queue 0 (op.queue.of s.returned) ++
      s.kept op.queue (op.queue.of s.returned).length (s.queue op.queue)
  /-- It takes what it finds, if the oldest item is an accepted one. -/
  obtains : ∀ c op o s', (s.pc c).looks = some op → s.queue op.queue ≠ [] →
    s.keeps op.queue (op.queue.of s.returned).length = true →
      s.run c o = some s' → Obtains s s' c op

/-! ## What a step can do -/

/-- The items that have been taken and not yet returned. -/
def State.inHand (s : State Co α) : List (Queue × α) :=
  s.reader.elim [] fun c => (s.pc c).hand

/-- A read that is about to return `0` has something to return, and no other read has. -/
def Pc.sound : Pc α → Prop
  | readRelease _ r items => r = 0 ↔ items ≠ []
  | _ => True

/-- What a step of the coroutine `c` can do. -/
inductive Effect (s : State Co α) (c : Co) : State Co α → Prop
  | goes {p} (hreads : p.reads = (s.pc c).reads) (hhand : p.hand = (s.pc c).hand)
      (hsound : p.sound) : Effect s c (s.goto c p)
  | pushes {p} (q : Queue) (item : α) (hreads : (s.pc c).reads = false) (hp : p.reads = false) :
      Effect s c ((s.push q item).goto c p)
  | sets {p} (hfree : s.reader = none) (hreads : (s.pc c).reads = false) (hp : p.reads = true)
      (hhand : p.hand = []) (hsound : p.sound) :
      Effect s c ({ s with reader := some c }.goto c p)
  | pops (op : ReadOp) (hitem : s.hasItem op = true) (hreads : (s.pc c).reads = true)
      (hhand : (s.pc c).hand = []) :
      Effect s c ((s.pop op).goto c (.readRelease op 0 (s.oldest op)))
  | returns {op r items} (hpc : s.pc c = .readRelease op r items) :
      Effect s c ({ s with
        reader := none
        returned := s.returned ++ items.map fun a => (op.queue, a) }.goto c (.returned r))
  | closes {p} (hreads : (s.pc c).reads = false) (hp : p.reads = false) :
      Effect s c ({ s with isClosed := true }.goto c p)
  | fails {n r} (hreads : (s.pc c).reads = false) :
      Effect s c ({ s with failed := s.failed ++ [n] }.goto c (.returned r))

section Effects

variable {s s' : State Co α} {c : Co}

/-- Outside of a read there is no item in hand. -/
lemma hand_of_reads {p : Pc α} (h : p.reads = false) : p.hand = [] := by
  cases p with
  | readRelease op r items => cases h
  | _ => rfl

/-- Outside of a read there is nothing to check. -/
lemma sound_of_reads {p : Pc α} (h : p.reads = false) : p.sound := by
  cases p with
  | readRelease op r items => cases h
  | _ => trivial

/-- A step of an operation that does not read goes on there. -/
lemma Effect.goes_of_reads {p : Pc α} (hreads : (s.pc c).reads = false) (hp : p.reads = false) :
    Effect s c (s.goto c p) :=
  .goes (hp.trans hreads.symm) ((hand_of_reads hp).trans (hand_of_reads hreads).symm)
    (sound_of_reads hp)

/-- The loop of `TryWriteFor` changes no queue but the one that it writes to. -/
lemma effect_tryWriteForLoop {item : α} {o : Answer} (h : (s.pc c).reads = false) :
    Effect s c (s.tryWriteForLoop c item o) := by
  unfold State.tryWriteForLoop
  split_ifs
  · exact .goes_of_reads h rfl
  · exact .goes_of_reads h rfl
  · exact .pushes _ _ h rfl

omit [DecidableEq Co] in
/-- A read that finds nothing stays a read without an item. -/
lemma readEmpty_reads (s : State Co α) (op : ReadOp) (o : Answer) :
    (s.readEmpty op o).reads = true ∧ (s.readEmpty op o).hand = [] ∧
      (s.readEmpty op o).sound := by
  unfold State.readEmpty
  cases op with
  | tryRead => exact ⟨rfl, rfl, by simp [Pc.sound]⟩
  | tryReadFor | read | readAll => split_ifs <;> exact ⟨rfl, rfl, by simp [Pc.sound]⟩

/-- The loop of a read takes what it hands out from the queues. -/
lemma effect_readLoop {op : ReadOp} {o : Answer} (hreads : (s.pc c).reads = true)
    (hhand : (s.pc c).hand = []) : Effect s c (s.readLoop c op o) := by
  unfold State.readLoop
  split_ifs with hitem
  · exact .pops op hitem hreads hhand
  · obtain ⟨hr, hh, hs⟩ := readEmpty_reads s op o
    exact .goes (hr.trans hreads.symm) (hh.trans hhand.symm) hs

/-- A choice between two points of an operation that does not read. -/
lemma Effect.goes_ite {b : Prop} [Decidable b] {p p' : Pc α} (h : (s.pc c).reads = false)
    (hp : p.reads = false) (hp' : p'.reads = false) :
    Effect s c (s.goto c (if b then p else p')) := by
  split_ifs
  · exact .goes_of_reads h hp
  · exact .goes_of_reads h hp'

/-- Each step has one of the effects. -/
lemma effect_of_run {o : Answer} (h : s.run c o = some s') : Effect s c s' := by
  unfold State.run at h
  cases hpc : s.pc c with
  | idle =>
    rw [hpc] at h
    cases h
  | returned r =>
    rw [hpc] at h
    obtain rfl := Option.some.inj h
    exact .goes_of_reads (congrArg Pc.reads hpc) rfl
  | writeCheck item | tryWriteCheck item | tryWriteForCheck item | tryWriteForWoken item =>
    rw [hpc] at h
    obtain rfl := Option.some.inj h
    exact .goes_ite (congrArg Pc.reads hpc) rfl rfl
  | writeLock item =>
    rw [hpc] at h
    obtain rfl := Option.some.inj h
    refine .pushes _ _ (congrArg Pc.reads hpc) ?_
    split_ifs
    · rfl
    · rfl
  | writeWait n =>
    rw [hpc] at h
    change (if o.ret = 0 then _ else _) = _ at h
    split_ifs at h
    · obtain rfl := Option.some.inj h
      exact .goes_of_reads (congrArg Pc.reads hpc) rfl
    · obtain rfl := Option.some.inj h
      exact .fails (congrArg Pc.reads hpc)
  | tryWriteLock item =>
    rw [hpc] at h
    change (if s.isClosed then _ else if _ then _ else _) = _ at h
    split_ifs at h
    · obtain rfl := Option.some.inj h
      exact .goes_of_reads (congrArg Pc.reads hpc) rfl
    · obtain rfl := Option.some.inj h
      exact .goes_of_reads (congrArg Pc.reads hpc) rfl
    · obtain rfl := Option.some.inj h
      exact .pushes _ _ (congrArg Pc.reads hpc) rfl
  | tryWriteForLock item =>
    rw [hpc] at h
    change (if s.isClosed then _ else _) = _ at h
    split_ifs at h
    · obtain rfl := Option.some.inj h
      exact .goes_of_reads (congrArg Pc.reads hpc) rfl
    · obtain rfl := Option.some.inj h
      exact effect_tryWriteForLoop (congrArg Pc.reads hpc)
  | tryWriteForWait item =>
    rw [hpc] at h
    obtain rfl := Option.some.inj h
    exact .goes_ite (congrArg Pc.reads hpc) rfl rfl
  | tryWriteForRelock item =>
    rw [hpc] at h
    obtain rfl := Option.some.inj h
    exact effect_tryWriteForLoop (congrArg Pc.reads hpc)
  | readCheck op | closeCheck =>
    rw [hpc] at h
    obtain rfl := Option.some.inj h
    exact .goes_ite (congrArg Pc.reads hpc) rfl rfl
  | readFlag op =>
    rw [hpc] at h
    change (if s.reader.isSome then _ else _) = _ at h
    split_ifs at h with hreader hread
    · obtain rfl := Option.some.inj h
      exact .goes_of_reads (congrArg Pc.reads hpc) rfl
    · obtain rfl := Option.some.inj h
      exact .sets (Option.not_isSome_iff_eq_none.mp hreader) (congrArg Pc.reads hpc) rfl rfl
        trivial
    · obtain rfl := Option.some.inj h
      exact .sets (Option.not_isSome_iff_eq_none.mp hreader) (congrArg Pc.reads hpc) rfl rfl
        trivial
  | readClosed | readClosedLock =>
    rw [hpc] at h
    obtain rfl := Option.some.inj h
    split_ifs
    · exact .goes (congrArg Pc.reads hpc).symm (congrArg Pc.hand hpc).symm (by simp [Pc.sound])
    · exact .goes (congrArg Pc.reads hpc).symm (congrArg Pc.hand hpc).symm (by simp [Pc.sound])
  | readLock op =>
    rw [hpc] at h
    obtain rfl := Option.some.inj h
    exact effect_readLoop (congrArg Pc.reads hpc) (congrArg Pc.hand hpc)
  | readWait op =>
    rw [hpc] at h
    obtain rfl := Option.some.inj h
    exact .goes (congrArg Pc.reads hpc).symm (congrArg Pc.hand hpc).symm trivial
  | readRelock op ret =>
    rw [hpc] at h
    change (if ret ≠ 0 ∧ ret ≠ 1 then _ else _) = _ at h
    split_ifs at h
    · obtain rfl := Option.some.inj h
      exact .goes (congrArg Pc.reads hpc).symm (congrArg Pc.hand hpc).symm
        (by simp [Pc.sound])
    · obtain rfl := Option.some.inj h
      exact effect_readLoop (congrArg Pc.reads hpc) (congrArg Pc.hand hpc)
  | readRelease op r items =>
    rw [hpc] at h
    obtain rfl := Option.some.inj h
    exact .returns hpc
  | closeLock =>
    rw [hpc] at h
    obtain rfl := Option.some.inj h
    exact .closes (congrArg Pc.reads hpc) rfl

end Effects

/-! ## The invariant -/

/-- What holds in every state. -/
structure Inv (s : State Co α) : Prop where
  /-- The flag is set by the one operation that reads. -/
  reader : ∀ c, (s.pc c).reads = true ↔ s.reader = some c
  /-- An item is returned, in the hand of the reader, or in its queue. -/
  order : ∀ q : Queue, q.of s.placed = q.of s.returned ++ (q.of s.inHand ++ s.queue q)
  /-- The indices count the items of `m_item_cache_ref`. -/
  index : s.writeIdx = s.readIdx + (s.queue .cacheRef).length
  count : s.writeIdx = (Queue.cacheRef.of s.placed).length
  sound : ∀ c, (s.pc c).sound

section Queues

variable {q q' : Queue}

/-- The items of a queue among two lists. -/
lemma of_append (q : Queue) (l l' : List (Queue × α)) : q.of (l ++ l') = q.of l ++ q.of l' := by
  unfold Queue.of
  rw [List.filter_append, List.map_append]

/-- The items of a queue among its own items. -/
lemma of_map_self (q : Queue) (items : List α) : q.of (items.map fun a => (q, a)) = items := by
  unfold Queue.of
  rw [List.filter_eq_self.mpr, List.map_map]
  · exact List.map_id items
  · intro x hx
    obtain ⟨a, -, rfl⟩ := List.mem_map.mp hx
    exact decide_eq_true rfl

/-- The items of a queue among those of another one. -/
lemma of_map_of_ne (h : q' ≠ q) (items : List α) : q.of (items.map fun a => (q', a)) = [] := by
  unfold Queue.of
  rw [List.filter_eq_nil_iff.mpr]
  · rfl
  · intro x hx
    obtain ⟨a, -, rfl⟩ := List.mem_map.mp hx
    exact fun heq => h (of_decide_eq_true heq)

end Queues

section Invariant

variable {s s' : State Co α} {c : Co}

/-- The point of each coroutine after one of them has moved. -/
lemma pc_goto (s : State Co α) (c : Co) (p : Pc α) (c' : Co) :
    (s.goto c p).pc c' = if c' = c then p else s.pc c' :=
  Function.update_apply s.pc c p c'

/-- A step that leaves the hand of its coroutine alone. -/
lemma inHand_goto {p : Pc α} (h : p.hand = (s.pc c).hand) : (s.goto c p).inHand = s.inHand := by
  unfold State.inHand
  change s.reader.elim [] _ = s.reader.elim [] _
  cases s.reader with
  | none => rfl
  | some c' =>
    change ((s.goto c p).pc c').hand = (s.pc c').hand
    rw [pc_goto]
    split_ifs with heq
    · rw [h, heq]
    · rfl

/-- The points stay in order if the new one is. -/
lemma sound_goto {p : Pc α} (h : ∀ c, (s.pc c).sound) (hp : p.sound) (c' : Co) :
    ((s.goto c p).pc c').sound := by
  rw [pc_goto]
  split_ifs
  · exact hp
  · exact h c'

/-- A step of an operation that leaves the flag as it is. -/
lemma reader_goto {p : Pc α} (h : ∀ c, (s.pc c).reads = true ↔ s.reader = some c)
    (hreads : p.reads = (s.pc c).reads) (c' : Co) :
    ((s.goto c p).pc c').reads = true ↔ s.reader = some c' := by
  rw [pc_goto]
  split_ifs with heq
  · rw [hreads, heq]
    exact h c
  · exact h c'

section

omit [DecidableEq Co]

/-- What an operation takes is a first part of its queue. -/
lemma oldest_append_drop (s : State Co α) (op : ReadOp) :
    s.queue op.queue = s.oldest op ++ (s.queue op.queue).drop (s.oldest op).length := by
  have htake : ∀ l : List α, l = l.take 1 ++ l.drop (l.take 1).length := by
    intro l
    cases l with
    | nil => rfl
    | cons a l => rfl
  cases op with
  | readAll =>
    change s.queue .itemQueue = s.queue .itemQueue ++ _
    rw [List.self_eq_append_right]
    exact List.drop_length
  | read | tryRead | tryReadFor => exact htake _

/-- `Read` finds an item exactly if its queue has one. -/
lemma hasItem_iff (h : s.writeIdx = s.readIdx + (s.queue .cacheRef).length) (op : ReadOp) :
    s.hasItem op = true ↔ s.queue op.queue ≠ [] := by
  have hempty : ∀ l : List α, (!l.isEmpty) = true ↔ l ≠ [] := by
    intro l
    cases l with
    | nil => exact ⟨by rintro ⟨⟩, fun h => absurd rfl h⟩
    | cons a l => exact ⟨fun _ => List.cons_ne_nil a l, fun _ => rfl⟩
  cases op with
  | read =>
    refine decide_eq_true_iff.trans (Iff.trans ?_ List.length_pos_iff)
    rw [h]
    exact Nat.lt_add_right_iff_pos
  | tryRead | tryReadFor | readAll => exact hempty _

/-- An operation that finds an item takes one. -/
lemma oldest_ne_nil (h : s.writeIdx = s.readIdx + (s.queue .cacheRef).length) {op : ReadOp}
    (hitem : s.hasItem op = true) : s.oldest op ≠ [] := by
  have hne := (hasItem_iff h op).mp hitem
  cases op with
  | readAll => exact hne
  | read | tryRead | tryReadFor => simpa [State.oldest] using hne

/-- A push keeps the order and the count of the items. -/
lemma Inv.push (hI : Inv s) (q' : Queue) (item : α) :
    (∀ q : Queue, q.of (s.push q' item).placed =
      q.of s.returned ++ (q.of s.inHand ++ (s.push q' item).queue q)) ∧
    (s.push q' item).writeIdx = s.readIdx + ((s.push q' item).queue .cacheRef).length ∧
    (s.push q' item).writeIdx = (Queue.cacheRef.of (s.push q' item).placed).length := by
  refine ⟨?_, ?_, ?_⟩
  · intro q
    change q.of (s.placed ++ [item].map fun a => (q', a)) =
      _ ++ (_ ++ Function.update s.queue q' _ q)
    rw [of_append, hI.order q]
    by_cases heq : q' = q
    · subst heq
      rw [of_map_self, Function.update_self, List.append_assoc, List.append_assoc]
    · rw [of_map_of_ne heq, Function.update_of_ne (Ne.symm heq), List.append_nil]
  · change (if q' = .cacheRef then s.writeIdx + 1 else s.writeIdx) =
      s.readIdx + (Function.update s.queue q' _ .cacheRef).length
    split_ifs with heq
    · subst heq
      rw [Function.update_self, List.length_append, hI.index]
      rfl
    · rw [Function.update_of_ne (Ne.symm heq)]
      exact hI.index
  · change (if q' = .cacheRef then s.writeIdx + 1 else s.writeIdx) =
      (Queue.cacheRef.of (s.placed ++ [item].map fun a => (q', a))).length
    rw [of_append, List.length_append, ← hI.count]
    split_ifs with heq
    · subst heq
      rw [of_map_self]
      rfl
    · rw [of_map_of_ne heq]
      rfl

/-- A pop keeps the order and the count of the items. -/
lemma Inv.pop (hI : Inv s) {op : ReadOp} (hitem : s.hasItem op = true) :
    (∀ q : Queue, s.queue q =
      q.of ((s.oldest op).map fun a => (op.queue, a)) ++ (s.pop op).queue q) ∧
    s.writeIdx = (s.pop op).readIdx + ((s.pop op).queue .cacheRef).length := by
  constructor
  · intro q
    change _ = _ ++ Function.update s.queue op.queue _ q
    by_cases heq : op.queue = q
    · subst heq
      rw [of_map_self, Function.update_self]
      exact oldest_append_drop s op
    · rw [of_map_of_ne heq, Function.update_of_ne (Ne.symm heq)]
      rfl
  · cases op with
    | read =>
      have hne : s.queue .cacheRef ≠ [] := (hasItem_iff hI.index .read).mp hitem
      obtain ⟨a, l, hqueue⟩ := List.exists_cons_of_ne_nil hne
      have holdest : s.oldest .read = [a] := by
        change (s.queue .cacheRef).take 1 = [a]
        rw [hqueue]
        rfl
      have hpop : (s.pop .read).queue .cacheRef = l := by
        refine (Function.update_self Queue.cacheRef _ s.queue).trans ?_
        change (s.queue .cacheRef).drop (s.oldest .read).length = l
        rw [holdest, hqueue]
        rfl
      change s.writeIdx = s.readIdx + 1 + _
      rw [hpop, hI.index, hqueue, List.length_cons]
      omega
    | tryRead | tryReadFor | readAll => exact hI.index

end

/-- Each step keeps the invariant. -/
lemma Inv.run (hI : Inv s) {o : Answer} (h : s.run c o = some s') : Inv s' := by
  cases effect_of_run h with
  | goes hreads hhand hsound =>
    refine ⟨reader_goto hI.reader hreads, fun q => ?_, hI.index, hI.count,
      sound_goto hI.sound hsound⟩
    rw [inHand_goto hhand]
    exact hI.order q
  | @pushes p q' item hreads hp =>
    obtain ⟨horder, hindex, hcount⟩ := hI.push q' item
    refine ⟨reader_goto hI.reader (hp.trans hreads.symm), fun q => ?_, hindex, hcount,
      sound_goto hI.sound (sound_of_reads hp)⟩
    have hhand : p.hand = ((s.push q' item).pc c).hand :=
      (hand_of_reads hp).trans (hand_of_reads hreads).symm
    rw [inHand_goto hhand]
    exact horder q
  | @sets p hfree hreads hp hhand hsound =>
    refine ⟨fun c' => ?_, fun q => ?_, hI.index, hI.count, sound_goto hI.sound hsound⟩
    · change ((s.goto c p).pc c').reads = true ↔ some c = some c'
      rw [pc_goto]
      split_ifs with heq
      · exact ⟨fun _ => congrArg some heq.symm, fun _ => hp⟩
      · refine ⟨fun hreads' => ?_, fun hsome => absurd (Option.some.inj hsome).symm heq⟩
        have hreader := (hI.reader c').mp hreads'
        rw [hfree] at hreader
        cases hreader
    · have hbefore : s.inHand = [] := by rw [State.inHand, hfree]; rfl
      have hafter : State.inHand ({ s with reader := some c }.goto c p) = [] := by
        change ((s.goto c p).pc c).hand = []
        rw [pc_goto, if_pos rfl, hhand]
      have horder := hI.order q
      rw [hbefore] at horder
      rw [hafter]
      exact horder
  | @pops op hitem hreads hhand =>
    obtain ⟨horder, hindex⟩ := hI.pop hitem
    have hsound : Pc.sound (.readRelease op 0 (s.oldest op)) :=
      ⟨fun _ => oldest_ne_nil hI.index hitem, fun _ => rfl⟩
    refine ⟨reader_goto hI.reader hreads.symm, fun q => ?_, hindex, hI.count,
      sound_goto hI.sound hsound⟩
    have hreader := (hI.reader c).mp hreads
    have hbefore : s.inHand = [] := by rw [State.inHand, hreader]; exact hhand
    have hafter : ((s.pop op).goto c (.readRelease op 0 (s.oldest op))).inHand =
        (s.oldest op).map fun a => (op.queue, a) := by
      change s.reader.elim [] _ = _
      rw [hreader]
      change (((s.pop op).goto c _).pc c).hand = _
      rw [pc_goto, if_pos rfl]
      rfl
    have hplaced := hI.order q
    rw [hbefore, horder q] at hplaced
    rw [hafter]
    exact hplaced
  | @returns op r items hpc =>
    have hreader : s.reader = some c := (hI.reader c).mp (congrArg Pc.reads hpc)
    refine ⟨fun c' => ?_, fun q => ?_, hI.index, hI.count, sound_goto hI.sound trivial⟩
    · change ((s.goto c (.returned r)).pc c').reads = true ↔ none = some c'
      rw [pc_goto]
      split_ifs with heq
      · exact ⟨by rintro ⟨⟩, by rintro ⟨⟩⟩
      · refine ⟨fun hreads' => ?_, by rintro ⟨⟩⟩
        rw [(hI.reader c').mp hreads'] at hreader
        exact absurd (Option.some.inj hreader) heq
    · have hbefore : s.inHand = items.map fun a => (op.queue, a) := by
        rw [State.inHand, hreader]
        change (s.pc c).hand = _
        rw [hpc]
        rfl
      have hplaced := hI.order q
      rw [hbefore] at hplaced
      change q.of s.placed = q.of (s.returned ++ _) ++ ([] ++ s.queue q)
      rw [hplaced, of_append, List.append_assoc]
      rfl
  | @closes p hreads hp =>
    refine ⟨reader_goto hI.reader (hp.trans hreads.symm), fun q => ?_, hI.index, hI.count,
      sound_goto hI.sound (sound_of_reads hp)⟩
    have hhand : p.hand = (s.pc c).hand := (hand_of_reads hp).trans (hand_of_reads hreads).symm
    change _ = _ ++ (q.of (s.goto c p).inHand ++ _)
    rw [inHand_goto hhand]
    exact hI.order q
  | @fails n r hreads =>
    refine ⟨reader_goto hI.reader hreads.symm, fun q => ?_, hI.index, hI.count,
      sound_goto hI.sound trivial⟩
    have hhand : Pc.hand (.returned r) = (s.pc c).hand := (hand_of_reads hreads).symm
    change _ = _ ++ (q.of (s.goto c (.returned r)).inHand ++ _)
    rw [inHand_goto hhand]
    exact hI.order q

omit [DecidableEq Co] in
/-- The invariant holds initially. -/
lemma inv_start : Inv ({} : State Co α) where
  reader _ := ⟨by rintro ⟨⟩, by rintro ⟨⟩⟩
  order _ := rfl
  index := rfl
  count := rfl
  sound _ := trivial

/-- An operation that is called does not read yet. -/
lemma entry_reads (op : Op α) : op.entry.reads = false := by
  cases op with
  | read op =>
    cases op with
    | read | tryRead | tryReadFor | readAll => rfl
  | _ => rfl

/-- The invariant holds in every state. -/
lemma inv_of_reachable (h : (system Co α).Reachable s) : Inv s := by
  refine System.Reachable.induct (I := Inv) ?_ ?_ h
  · intro s hs
    rw [hs]
    exact inv_start
  · intro s l s' hI hs
    cases l with
    | run c o => exact hI.run hs
    | call c op =>
      simp only [system, TwoQueueChan.next] at hs
      cases hpc : s.pc c with
      | idle =>
        rw [hpc] at hs
        obtain rfl := Option.some.inj hs
        have hreads : (s.pc c).reads = false := congrArg Pc.reads hpc
        refine ⟨reader_goto hI.reader ((entry_reads op).trans hreads.symm), fun q => ?_, hI.index,
          hI.count, sound_goto hI.sound (sound_of_reads (entry_reads op))⟩
        rw [inHand_goto ((hand_of_reads (entry_reads op)).trans (hand_of_reads hreads).symm)]
        exact hI.order q
      | _ =>
        rw [hpc] at hs
        cases hs

end Invariant

/-! ## What a reader obtains -/

section Reader

variable {s s' : State Co α} {c : Co}

/-- A read that looks into the queues has no item in hand. -/
lemma reads_of_looks {p : Pc α} {op : ReadOp} (h : p.looks = some op) :
    p.reads = true ∧ p.hand = [] := by
  cases p with
  | readClosed | readClosedLock | readLock op | readRelock op ret => exact ⟨rfl, rfl⟩
  | _ => cases h

omit [DecidableEq Co] in
/-- What has not been returned is in the queue of the operation that looks at it. -/
lemma unread_of_looks (hI : Inv s) {op : ReadOp} (h : (s.pc c).looks = some op) (q : Queue) :
    q.of s.placed = q.of s.returned ++ s.queue q := by
  obtain ⟨hreads, hhand⟩ := reads_of_looks h
  have hempty : s.inHand = [] := by
    rw [State.inHand, (hI.reader c).mp hreads]
    exact hhand
  have horder := hI.order q
  rw [hempty] at horder
  exact horder

/-- The loop takes the oldest items, if there are any. -/
lemma obtains_readLoop {op : ReadOp} {o : Answer} (hitem : s.hasItem op = true) :
    Obtains s (s.readLoop c op o) c op := by
  have hpc : (s.readLoop c op o).pc c = .readRelease op 0 (s.oldest op) := by
    unfold State.readLoop
    rw [if_pos hitem, pc_goto, if_pos rfl]
  constructor
  · rw [hpc]
    rintro ⟨⟩
  · intro r items h
    rw [hpc] at h
    obtain ⟨-, hr, hitems⟩ := Pc.readRelease.inj h
    exact .inl ⟨hr.symm, hitems.symm⟩

/-- A step to a point where the operation still looks at its queue. -/
lemma obtains_goto {op op' : ReadOp} {p : Pc α} (h : p.looks = some op') :
    Obtains s (s.goto c p) c op := by
  have hpc : (s.goto c p).pc c = p := by rw [pc_goto, if_pos rfl]
  constructor
  · rw [hpc]
    rintro rfl
    cases h
  · intro r items hp
    rw [hpc] at hp
    rw [hp] at h
    cases h

/-- An operation that looks at its queue obtains what there is. -/
lemma obtains_of_run (hI : Inv s) {op : ReadOp} {o : Answer} (hlooks : (s.pc c).looks = some op)
    (hne : s.queue op.queue ≠ []) (h : s.run c o = some s') : Obtains s s' c op := by
  have hitem : s.hasItem op = true := (hasItem_iff hI.index op).mpr hne
  unfold State.run at h
  cases hpc : s.pc c with
  | readClosed =>
    rw [hpc] at h
    obtain rfl := Option.some.inj h
    split_ifs
    · exact obtains_goto rfl
    · exact obtains_goto rfl
  | readClosedLock =>
    rw [hpc] at h hlooks
    obtain rfl := Option.some.inj h
    obtain rfl := Option.some.inj hlooks
    have hlt : s.readIdx < s.writeIdx := of_decide_eq_true hitem
    rw [if_neg (by omega)]
    exact obtains_goto rfl
  | readLock op' =>
    rw [hpc] at h hlooks
    obtain rfl := Option.some.inj h
    obtain rfl := Option.some.inj hlooks
    exact obtains_readLoop hitem
  | readRelock op' ret =>
    rw [hpc] at h hlooks
    obtain rfl := Option.some.inj hlooks
    change (if ret ≠ 0 ∧ ret ≠ 1 then _ else _) = _ at h
    split_ifs at h with hret
    · obtain rfl := Option.some.inj h
      have hnext : (s.goto c (.readRelease op' (-2) [])).pc c = .readRelease op' (-2) [] := by
        rw [pc_goto, if_pos rfl]
      refine ⟨?_, fun r items hr => .inr ⟨?_, ret, hpc, hret.1, hret.2⟩⟩
      · rw [hnext]
        rintro ⟨⟩
      · rw [hnext] at hr
        exact (Pc.readRelease.inj hr).2.1.symm
    · obtain rfl := Option.some.inj h
      exact obtains_readLoop hitem
  | _ =>
    rw [hpc] at hlooks
    cases hlooks

end Reader

/-! ## The records -/

section Records

variable {s s' : State Co α} {c : Co}

omit [DecidableEq Co] in
/-- The kept items of two lists. -/
lemma kept_append (s : State Co α) (q : Queue) (n : ℕ) (l l' : List α) :
    s.kept q n (l ++ l') = s.kept q n l ++ s.kept q (n + l.length) l' := by
  unfold State.kept
  rw [List.zipIdx_append, List.filter_append, List.map_append]

/-- What a step is recorded as that leads to the point `p`. -/
lemma Recorded.goto {t : State Co α} {p : Pc α}
    (hplaced : t.placed = s.placed ++ (s.pc c).places p)
    (hindex : ∀ item n, s.pc c = .writeLock item → p = .writeWait n →
      n = (Queue.cacheRef.of s.placed).length)
    (hfailed : t.failed = s.failed ++ (s.pc c).fails p)
    (hreturned : t.returned = s.returned ++ (s.pc c).hand)
    (hresult : ∀ op r items, s.pc c = .readRelease op r items →
      p = .returned r ∧ (r = 0 ↔ items ≠ [])) : Recorded s (t.goto c p) c := by
  have hpc : (t.goto c p).pc c = p := by rw [pc_goto, if_pos rfl]
  refine ⟨?_, fun item n hw hn => hindex item n hw (hpc.symm.trans hn), ?_, hreturned,
    fun op r items hr => ?_⟩
  · rw [hpc]
    exact hplaced
  · rw [hpc]
    exact hfailed
  · rw [hpc]
    exact hresult op r items hr

/-- The points from which no item moves, whatever comes next. -/
def Pc.silent : Pc α → Bool
  | writeLock _ | writeWait _ | tryWriteLock _ | tryWriteForLock _ | tryWriteForRelock _
  | readRelease _ _ _ => false
  | _ => true

/-- A step from such a point is not recorded. -/
lemma Recorded.silent {t : State Co α} {p : Pc α} (h : (s.pc c).silent = true)
    (hplaced : t.placed = s.placed) (hfailed : t.failed = s.failed)
    (hreturned : t.returned = s.returned) : Recorded s (t.goto c p) c := by
  have hnil : (s.pc c).places p = [] ∧ (s.pc c).fails p = [] ∧ (s.pc c).hand = [] := by
    cases hpc : s.pc c <;> first | exact ⟨rfl, rfl, rfl⟩ | (rw [hpc] at h; cases h)
  refine .goto ?_ (fun item n hw _ => ?_) ?_ ?_ (fun op r items hr => ?_)
  · rw [hplaced, hnil.1, List.append_nil]
  · rw [hw] at h
    cases h
  · rw [hfailed, hnil.2.1, List.append_nil]
  · rw [hreturned, hnil.2.2, List.append_nil]
  · rw [hr] at h
    cases h

/-- The loop of `TryWriteFor` records what it accepts. -/
lemma recorded_tryWriteForLoop {item : α} {o : Answer}
    (h : s.pc c = .tryWriteForLock item ∨ s.pc c = .tryWriteForRelock item) :
    Recorded s (s.tryWriteForLoop c item o) c := by
  unfold State.tryWriteForLoop
  split_ifs <;> rcases h with h | h <;> refine .goto ?_ ?_ ?_ ?_ ?_ <;>
    simp [h, Pc.places, Pc.fails, Pc.hand, State.push]

/-- The loop of a read records what it returns. -/
lemma recorded_readLoop {op : ReadOp} {o : Answer} (h : (s.pc c).silent = true) :
    Recorded s (s.readLoop c op o) c := by
  unfold State.readLoop
  split_ifs <;> exact .silent h rfl rfl rfl

/-- Each step is recorded. -/
lemma recorded_of_run (hI : Inv s) {o : Answer} (h : s.run c o = some s') : Recorded s s' c := by
  unfold State.run at h
  cases hpc : s.pc c with
  | idle =>
    rw [hpc] at h
    cases h
  | writeLock item =>
    rw [hpc] at h
    obtain rfl := Option.some.inj h
    split_ifs <;> refine .goto ?_ ?_ ?_ ?_ ?_ <;>
      simp [hpc, Pc.places, Pc.fails, Pc.hand, State.push, hI.count]
  | writeWait n =>
    rw [hpc] at h
    change (if o.ret = 0 then _ else _) = _ at h
    split_ifs at h <;> obtain rfl := Option.some.inj h <;> refine .goto ?_ ?_ ?_ ?_ ?_ <;>
      simp [hpc, Pc.places, Pc.fails, Pc.hand]
  | tryWriteLock item =>
    rw [hpc] at h
    change (if s.isClosed then _ else if _ then _ else _) = _ at h
    split_ifs at h <;> obtain rfl := Option.some.inj h <;> refine .goto ?_ ?_ ?_ ?_ ?_ <;>
      simp [hpc, Pc.places, Pc.fails, Pc.hand, State.push]
  | tryWriteForLock item =>
    rw [hpc] at h
    change (if s.isClosed then _ else _) = _ at h
    split_ifs at h
    · obtain rfl := Option.some.inj h
      refine .goto ?_ ?_ ?_ ?_ ?_ <;> simp [hpc, Pc.places, Pc.fails, Pc.hand]
    · obtain rfl := Option.some.inj h
      exact recorded_tryWriteForLoop (.inl hpc)
  | tryWriteForRelock item =>
    rw [hpc] at h
    obtain rfl := Option.some.inj h
    exact recorded_tryWriteForLoop (.inr hpc)
  | readFlag op =>
    rw [hpc] at h
    change (if s.reader.isSome then _ else _) = _ at h
    split_ifs at h <;> obtain rfl := Option.some.inj h <;>
      exact .silent (by rw [hpc]; rfl) rfl rfl rfl
  | readRelock op ret =>
    rw [hpc] at h
    change (if ret ≠ 0 ∧ ret ≠ 1 then _ else _) = _ at h
    split_ifs at h <;> obtain rfl := Option.some.inj h
    · exact .silent (by rw [hpc]; rfl) rfl rfl rfl
    · exact recorded_readLoop (by rw [hpc]; rfl)
  | readLock op =>
    rw [hpc] at h
    obtain rfl := Option.some.inj h
    exact recorded_readLoop (by rw [hpc]; rfl)
  | readRelease op r items =>
    have hsound : r = 0 ↔ items ≠ [] := by simpa [hpc, Pc.sound] using hI.sound c
    rw [hpc] at h
    obtain rfl := Option.some.inj h
    refine .goto ?_ ?_ ?_ ?_ ?_
    · simp [hpc, Pc.places]
    · simp [hpc]
    · simp [hpc, Pc.fails]
    · rw [hpc]
      rfl
    · intro op' r' items' hr
      obtain ⟨rfl, rfl, rfl⟩ := Pc.readRelease.inj (hpc.symm.trans hr)
      exact ⟨rfl, hsound⟩
  | _ =>
    rw [hpc] at h
    obtain rfl := Option.some.inj h
    exact .silent (by rw [hpc]; rfl) rfl rfl rfl

end Records

/-- In every run the channel is two queues. -/
theorem twoFifos_of_reachable {s : State Co α} (h : (system Co α).Reachable s) : TwoFifos s where
  recorded _ _ _ := recorded_of_run (inv_of_reachable h)
  inOrder q := by
    rw [(inv_of_reachable h).order q, kept_append]
    exact List.prefix_append _ _
  unread _ op hlooks := by
    rw [unread_of_looks (inv_of_reachable h) hlooks op.queue, kept_append, Nat.zero_add]
  obtains _ _ _ _ hlooks hne _ := obtains_of_run (inv_of_reachable h) hlooks hne

/-- The coroutine `c` goes on `n` times. -/
def goOn (n c : ℕ) (ret : ℤ) : List (Label ℕ ℕ) :=
  List.replicate n (.run c { ret := ret })

/-- A `Read` waits; a `TryWrite` places an item, then a `Write`. -/
def mixed : List (Label ℕ ℕ) :=
  .call 1 (.read .read) :: goOn 3 1 0 ++ .call 0 (.tryWrite 7) :: goOn 2 0 0 ++
    .call 2 (.write 8) :: goOn 2 2 0 ++ goOn 3 1 0

/-- A run that writes to both queues returns the urgent item first. -/
theorem twoFifos_of_reachable_mixed : ∃ s : State ℕ ℕ, (system ℕ ℕ).Reachable s ∧
    s.returned.map Prod.snd = [8] ∧ s.queue .itemQueue = [7] ∧ TwoFifos s := by
  have hrun : (system ℕ ℕ).endsIn {} mixed
      (fun s => s.returned.map Prod.snd = [8] ∧ s.queue .itemQueue = [7]) = true := by
    decide
  obtain ⟨s, hs, hreturned, hqueue⟩ := System.exists_of_endsIn rfl hrun
  exact ⟨s, hs, hreturned, hqueue, twoFifos_of_reachable hs⟩

/-- The channel is not one queue: an item of a `Write` overtakes that of a `TryWrite`; a `Read`
parks although there is an item; and a `TryRead` of a closed channel reports that there is none. -/
theorem not_oneFifo :
    (∃ s : State ℕ ℕ, (system ℕ ℕ).Reachable s ∧ s.pc 0 = .returned 0 ∧ s.pc 2 = .returned 0 ∧
      s.placed.map Prod.snd = [7, 8] ∧ s.returned.map Prod.snd = [8] ∧
      ¬ s.returned.map Prod.snd <+: s.placed.map Prod.snd) ∧
    (∃ s : State ℕ ℕ, (system ℕ ℕ).Reachable s ∧ s.pc 0 = .returned 0 ∧
      s.placed.map Prod.snd = [7] ∧ s.returned.map Prod.snd = [] ∧ s.pc 1 = .readWait .read) ∧
    ∃ s : State ℕ ℕ, (system ℕ ℕ).Reachable s ∧ s.pc 0 = .returned 0 ∧
      s.queue .itemQueue = [7] ∧ s.reader = none ∧ s.pc 1 = .returned (-1) := by
  refine ⟨?_, ?_, ?_⟩
  · have hrun : (system ℕ ℕ).endsIn {} mixed
        (fun s => (s.pc 0 = .returned 0 ∧ s.pc 2 = .returned 0) ∧
          s.placed.map Prod.snd = [7, 8] ∧ s.returned.map Prod.snd = [8]) = true := by
      decide
    obtain ⟨s, hs, ⟨hpc, hpc'⟩, hplaced, hreturned⟩ := System.exists_of_endsIn rfl hrun
    refine ⟨s, hs, hpc, hpc', hplaced, hreturned, ?_⟩
    rw [hplaced, hreturned]
    decide
  · have hrun : (system ℕ ℕ).endsIn {}
        (.call 0 (.tryWrite 7) :: goOn 2 0 0 ++ .call 1 (.read .read) :: goOn 3 1 0)
        (fun s => s.pc 0 = .returned 0 ∧ s.placed.map Prod.snd = [7] ∧
          s.returned.map Prod.snd = [] ∧ s.pc 1 = .readWait .read) = true := by
      decide
    exact System.exists_of_endsIn rfl hrun
  · have hrun : (system ℕ ℕ).endsIn {}
        (.call 0 (.tryWrite 7) :: goOn 2 0 0 ++ .call 2 .close :: goOn 2 2 0 ++
          .call 1 (.read .tryRead) :: goOn 1 1 0)
        (fun s => s.pc 0 = .returned 0 ∧ s.queue .itemQueue = [7] ∧ s.reader = none ∧
          s.pc 1 = .returned (-1)) = true := by
      decide
    exact System.exists_of_endsIn rfl hrun

end BbtCoroutine.TwoQueueChan
