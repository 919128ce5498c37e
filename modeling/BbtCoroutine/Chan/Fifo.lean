import BbtCoroutine.Chan.Select

/-!
# A buffered channel is a bounded queue

A run moves items between its coroutines and the channels step by step (`State.moved`).  In
every run the items that were brought to a channel are those that were taken from it, followed
by those it holds, in this order.

What an operation returns is what it has taken since it was called (`Pc.taken`), and a write
returns `0` in the step that brings its item.
-/

namespace BbtCoroutine.Chan

open Transition

variable {Co Ch α : Type*}

/-! ## What an operation holds -/

/-- What a select has stored in its outputs. -/
def Run.taken (run : Run Ch α) : List (Transfer Ch α) :=
  (List.range run.cases.length).flatMap run.took

/-- What a waiting operation has taken. -/
def Waiting.taken : Waiting Ch α → List (Transfer Ch α)
  | .select run => run.taken
  | _ => []

/-- What an operation has taken that ends with the result. -/
def Ret.taken : Ret Ch α → List (Transfer Ch α)
  | .read _ ch r items => if r = 0 then items.map (.read ch) else []
  | .select run _ => run.taken
  | _ => []

/-- What an operation has taken at the point, since it was called. -/
def Pc.taken : Pc Ch α → List (Transfer Ch α)
  | .readRelease _ ret | .returned ret => ret.taken
  | .selTry run _ _ | .selFlag run _ _ | .selLock run _ _ | .selRelease run _ _ _
  | .selWatch run _ | .selNotify run | .selUnwatch run _ _ => run.taken
  | .prepare w | .regist w | .commit w | .parked w | .unbind w _ => w.taken
  | _ => []

section

variable {run run' : Run Ch α}

/-- A list that is made of one part only. -/
lemma flatMap_range_eq {β : Type*} {f : ℕ → List β} {i n : ℕ} (hi : i < n)
    (hf : ∀ j, j ≠ i → f j = []) : (List.range n).flatMap f = f i := by
  induction n with
  | zero => omega
  | succ n ih =>
    rw [List.range_succ, List.flatMap_append, List.flatMap_singleton]
    by_cases hn : i = n
    · subst hn
      have hnil : (List.range i).flatMap f = [] := by
        refine List.flatMap_eq_nil_iff.mpr fun j hj => hf j ?_
        exact (List.mem_range.mp hj).ne
      rw [hnil, List.nil_append]
    · rw [ih (by omega), hf n (fun h => hn h.symm), List.append_nil]

/-- A case without an output has taken nothing. -/
lemma took_of_none {i : ℕ} (h : run.outs i = none) : run.took i = [] := by
  unfold Run.took
  split
  · rw [h]
    rfl
  · rfl

/-- A select without outputs has taken nothing. -/
lemma taken_of_none (h : ∀ i, run.outs i = none) : run.taken = [] :=
  List.flatMap_eq_nil_iff.mpr fun i _ => took_of_none (h i)

/-- The end of a pass has taken what the pass has. -/
lemma taken_finishPass (run : Run Ch α) (pass : Pass) (index : Option ℕ) :
    (finishPass run pass index).taken = run.taken := by
  exact finishPass_induct (I := fun p => p.taken = run.taken) (fun _ => rfl) (fun _ _ => rfl)
    (fun _ _ _ => rfl) fun _ _ => rfl

/-- A pass that goes on has taken what it had. -/
lemma taken_nextCase (run : Run Ch α) (pass : Pass) (i : ℕ) :
    (nextCase run pass i).taken = run.taken := by
  exact nextCase_induct (I := fun p => p.taken = run.taken) rfl fun _ =>
    taken_finishPass run pass none

/-- Where a wait leads, the operation has taken what it had. -/
lemma taken_afterWait (ret : ℤ) (w : Waiting Ch α) : (afterWait ret w).taken = w.taken := by
  refine afterWait_induct (I := fun p => p.taken = w.taken) ?_ ?_ ?_ ?_ ?_
  · rintro _ _ _ rfl
    rfl
  · rintro _ _ _ _ _ rfl
    rfl
  · rintro _ _ rfl
    rfl
  · rintro _ _ rfl
    rfl
  · rintro _ _ _ rfl
    rfl

/-- A read that has begun has taken nothing yet. -/
lemma taken_of_readBegun {p : Pc Ch α} {ch : Ch} (h : p.readBegun ch) : p.taken = [] := by
  cases p <;> first | rfl | cases h

end

section

variable [DecidableEq Co] [DecidableEq Ch] {s s' : State Co Ch α} {c : Co} {a : Act Ch α}
  {p p' : Pc Ch α}

omit [DecidableEq Co] [DecidableEq Ch] in
/-- An operation that goes on holds what it held and what it has just taken. -/
lemma Plan.taken (h : Plan s c p a p') (hs : s.SelOk c p) (hp : ∀ ret, p ≠ .returned ret) :
    p'.taken = p.taken ++ p'.takes := by
  cases h with
  | returned ret => exact absurd rfl (hp ret)
  | writeClosed hw => rcases hw with rfl | rfl | rfl <;> rfl
  | writeRefused hw | writeWait hw | writePush hw => cases hw <;> rfl
  | readRefused hw hr => rcases hw with rfl | rfl <;> simp [Pc.taken, Ret.taken, Pc.takes, hr]
  | readFlag hf hw => rw [taken_of_readBegun hw, takes_of_readBegun hw]; rfl
  | readGoesOn hw hw' =>
    rw [taken_of_readBegun hw, taken_of_readBegun hw', takes_of_readBegun hw']; rfl
  | readFails hw hr =>
    rcases hw with rfl | hw
    · simp [Pc.taken, Ret.taken, Pc.takes, hr]
    · cases hw <;> simp [Pc.taken, Ret.taken, Pc.takes, hr]
  | readWait hw => cases hw <;> rfl
  | readPop hw | readPopAll hw => cases hw <;> rfl
  | readRelease => exact (List.append_nil _).symm
  | closeCheck hw => rcases hw with rfl | rfl <;> rfl
  | selClosed hi hc hw =>
    rw [taken_finishPass, takes_finishPass, List.append_nil]
    rcases hw with rfl | ⟨rfl, -⟩ <;> rfl
  | @selHeld run pass i =>
    rw [taken_nextCase, takes_nextCase, List.append_nil]
    unfold Run.refuse
    split <;> rfl
  | selFull => rw [taken_nextCase, takes_nextCase, List.append_nil]; rfl
  | selPush => rw [taken_finishPass, takes_finishPass, List.append_nil]; rfl
  | selEmpty | selRead | selWrite | selFlag | selNotify => exact (List.append_nil _).symm
  | @selPop run pass i ch item items hi =>
    obtain ⟨⟨own, -, hh⟩, -⟩ := hs
    have hn := hh.of_none.2
    have hlt : i < run.cases.length := (List.getElem?_eq_some_iff.mp hi).1
    change Run.taken _ = run.taken ++ _
    rw [taken_of_none hn, List.nil_append]
    refine flatMap_range_eq hlt fun j hj => took_of_none ?_
    simp only [Function.update_of_ne hj]
    exact hn j
  | @selRelease run pass i ready =>
    split
    · rw [taken_finishPass, takes_finishPass, List.append_nil]; rfl
    · rw [taken_nextCase, takes_nextCase, List.append_nil]; rfl
  | selWatch | selUnwatch => split <;> exact (List.append_nil _).symm
  | waitFails | registFails | unbind =>
    rw [taken_afterWait, takes_afterWait, List.append_nil]; rfl
  | @waitThrows w =>
    cases w with
    | select run =>
      obtain ⟨⟨own, -, hh⟩, -⟩ := hs
      exact (List.append_nil _).symm.trans (congrArg (· ++ _) (taken_of_none hh.of_none.2).symm)
    | _ => rfl
  | @registCustom w => cases w <;> exact (List.append_nil _).symm
  | @registAwaitEvent w => cases w <;> exact (List.append_nil _).symm
  | _ => exact (List.append_nil _).symm

/-- An operation begins with nothing taken. -/
lemma call_taken {op : Op Ch α} (h : next s (.call c op) = some s') : (s'.pc c).taken = [] := by
  simp only [next] at h
  split at h
  · obtain ⟨p, he, rfl⟩ := Option.map_eq_some_iff.mp h
    rw [goto_pc_self]
    cases op with
    | read op ch => cases op <;> cases he <;> rfl
    | select cases timeoutMs hasDefault =>
      simp only [State.entry] at he
      split at he <;> cases he
      exact taken_of_none fun _ => rfl
    | _ => cases he; rfl
  · cases h

omit [DecidableEq Co] [DecidableEq Ch] in
/-- The flag is not reset with the result of a write. -/
lemma Plan.not_release (h : Plan s c p a p') {ch ch' : Ch} {op : WriteOp} {item : α} {r : ℤ}
    {slot : Option ℕ} : p' ≠ .readRelease ch (.write op ch' item r slot) := by
  intro hp
  have hret : ∀ {q : Pc Ch α}, q.ret = none → q ≠ .readRelease ch (.write op ch' item r slot) :=
    fun hq hq' => by simp [hq', Pc.ret] at hq
  cases h with
  | closeCheck hw => rcases hw with rfl | rfl <;> cases hp
  | readFlag hf hw => exact hret (ret_of_readBegun hw) hp
  | readGoesOn hw hw' => exact hret (ret_of_readBegun hw') hp
  | selClosed | selPush => exact hret (ret_finishPass ..) hp
  | selHeld | selFull => exact hret (ret_nextCase ..) hp
  | selRelease =>
    split at hp
    · exact hret (ret_finishPass ..) hp
    · exact hret (ret_nextCase ..) hp
  | selWatch | selUnwatch => split at hp <;> cases hp
  | @waitFails w | @registFails w | @unbind w =>
    cases w <;> simp only [afterWait] at hp <;> repeat' split at hp
    all_goals cases hp
  | @waitThrows w | @registAwaitEvent w => cases w <;> cases hp
  | _ => cases hp

omit [DecidableEq Co] [DecidableEq Ch] in
/-- A write returns `0` from the critical section in which it has pushed its item. -/
lemma Plan.accepts (h : Plan s c p a p') {op : WriteOp} {ch : Ch} {item : α} {slot : Option ℕ}
    (hp : p' = .returned (.write op ch item 0 slot))
    (hrel : ∀ ch' r slot, p ≠ .readRelease ch' (.write op ch item r slot)) :
    p'.takes ++ s.brings p p' = [.wrote ch item] := by
  have hret : ∀ {q : Pc Ch α}, q.ret = none → q ≠ .returned (.write op ch item 0 slot) :=
    fun hq hq' => by simp [hq', Pc.ret] at hq
  cases h with
  | writeRefused hw hf hr =>
    cases hp
    exact absurd rfl hr
  | writePush hw =>
    cases hp
    cases hw <;> rfl
  | readRelease =>
    cases hp
    exact absurd rfl (hrel _ _ _)
  | closeCheck hw => rcases hw with rfl | rfl <;> cases hp
  | readFlag hf hw => exact absurd hp (hret (ret_of_readBegun hw))
  | readGoesOn hw hw' => exact absurd hp (hret (ret_of_readBegun hw'))
  | selClosed | selPush => exact absurd hp (hret (ret_finishPass ..))
  | selHeld | selFull => exact absurd hp (hret (ret_nextCase ..))
  | selRelease =>
    split at hp
    · exact absurd hp (hret (ret_finishPass ..))
    · exact absurd hp (hret (ret_nextCase ..))
  | selWatch | selUnwatch => split at hp <;> cases hp
  | @waitFails w | @registFails w | @unbind w =>
    cases w <;> simp only [afterWait] at hp <;> repeat' split at hp
    all_goals simp at hp
  | @waitThrows w | @registAwaitEvent w => cases w <;> cases hp
  | _ => cases hp

/-! ## All runs -/

/-- No flag is reset with the result of a write. -/
lemma release_of_reachable (h : (system Co Ch α).Reachable s) (k : Co) {ch ch' : Ch}
    {op : WriteOp} {item : α} {r : ℤ} {slot : Option ℕ} :
    s.pc k ≠ .readRelease ch (.write op ch' item r slot) := by
  refine System.Reachable.induct
    (I := fun s => ∀ k, s.pc k ≠ .readRelease ch (.write op ch' item r slot)) ?_ ?_ h k
  · rintro _ ⟨size, rfl⟩ k
    simp [init]
  · intro s l s' hI hs k
    cases next_cases hs with
    | @call c op' p hp he =>
      by_cases hkc : k = c
      · rw [hkc, goto_pc_self]
        intro hq
        have hret := entry_ret he
        simp [hq, Pc.ret] at hret
      · rw [goto_pc_of_ne _ _ hkc]
        exact hI k
    | @run c e a p hp =>
      by_cases hkc : k = c
      · rw [hkc, goto_pc_self]
        exact hp.not_release
      · rw [apply_goto_pc_of_ne hkc]
        exact hI k
    | wait => exact hI k

/-- The records of a channel are what the run has moved. -/
lemma records_of_shows {ts : List (Transfer Ch α)}
    (h : (system Co Ch α).Shows State.moved ts s) (ch : Ch) :
    (s.chan ch).pushed = writtenTo ch ts ∧ (s.chan ch).popped = readFrom ch ts := by
  induction h with
  | start h =>
    obtain ⟨size, rfl⟩ := h
    exact ⟨rfl, rfl⟩
  | @step ts s s' l h hs ih =>
    replace hs : next s l = some s' := hs
    rw [writtenTo_append, readFrom_append, ← ih.1, ← ih.2]
    cases l with
    | run c e => exact ⟨(next_moves hs).pushed ch, (next_moves hs).popped ch⟩
    | call => cases next_cases hs <;> exact ⟨(List.append_nil _).symm, (List.append_nil _).symm⟩
    | timer | requestCancel | cancelTrigger =>
      cases next_cases hs
      exact ⟨(List.append_nil _).symm, (List.append_nil _).symm⟩

/-- A channel as a bounded queue, after a run that has moved `ts`. -/
structure BoundedFifo (ts : List (Transfer Ch α)) (s : State Co Ch α) (ch : Ch) : Prop where
  /-- It holds at most `maxSize` items. -/
  size : (s.chan ch).itemQueue.length ≤ (s.chan ch).maxSize
  /-- What was handed out is a prefix of what was accepted. -/
  handedOut : readFrom ch ts <+: writtenTo ch ts
  /-- The rest of what was accepted is what the queue holds. -/
  rest : writtenTo ch ts = readFrom ch ts ++ (s.chan ch).itemQueue
  /-- A write that returns `0` has had its item accepted, at its place. -/
  write : ∀ k op item slot, s.pc k = .returned (.write op ch item 0 slot) →
    ∃ i, slot = some i ∧ (writtenTo ch ts)[i]? = some item
  /-- It comes to return `0` in the step that brings its item, and in no other. -/
  accepts : ∀ k e s' op item slot, next s (.run k e) = some s' →
    s'.pc k = .returned (.write op ch item 0 slot) → s.moved (.run k e) = [.wrote ch item]
  /-- A read that returns `0` gives items that were handed out one after the other. -/
  read : ∀ k op items, s.pc k = .returned (.read op ch 0 items) →
    items ≠ [] ∧ items <:+: readFrom ch ts
  /-- An operation that is called holds nothing. -/
  called : ∀ k op s', next s (.call k op) = some s' → (s'.pc k).taken = []
  /-- While it goes on, up to its return, it comes to hold what its steps take, each item once. -/
  takes : ∀ k e s', next s (.run k e) = some s' → (∀ ret, s.pc k ≠ .returned ret) →
    (s'.pc k).taken = (s.pc k).taken ++ (s'.pc k).takes

/-- Whatever the coroutines do, a channel is a bounded queue. -/
theorem boundedFifo_of_shows {ts : List (Transfer Ch α)}
    (h : (system Co Ch α).Shows State.moved ts s) (ch : Ch) : BoundedFifo ts s ch := by
  have hR := records_of_reachable h.reachable
  obtain ⟨hpushed, hpopped⟩ := records_of_shows h ch
  have hfifo := (hR.ledger ch).fifo
  rw [hpushed, hpopped] at hfifo
  refine ⟨(hR.ledger ch).size, ?_, hfifo, fun k op item slot hk => ?_,
    fun k e s' op item slot hs hk => ?_, fun k op items hk => ?_, fun k op s' hs => ?_,
    fun k e s' hs hk => ?_⟩
  · rw [hfifo]
    exact List.prefix_append _ _
  · have hr : Ret.Recorded s.chan (.write op ch item 0 slot) := hR.ret k _ (by rw [hk]; rfl)
    rw [← hpushed]
    exact hr rfl
  · have hm : s.moved (.run k e) = (s'.pc k).takes ++ s.brings (s.pc k) (s'.pc k) := by
      simp only [State.moved, hs]
    rw [hm]
    obtain ⟨⟨a, p⟩, hp, rfl⟩ := Option.map_eq_some_iff.mp hs
    rw [goto_pc_self] at hk ⊢
    exact (State.plan_cases hp).accepts hk fun _ _ _ => release_of_reachable h.reachable k
  · have hr : Ret.Recorded s.chan (.read op ch 0 items) := hR.ret k _ (by rw [hk]; rfl)
    rw [← hpopped]
    exact hr rfl
  · exact call_taken hs
  · obtain ⟨⟨a, p⟩, hp, rfl⟩ := Option.map_eq_some_iff.mp hs
    rw [goto_pc_self]
    exact (State.plan_cases hp).taken ((selectInv_of_reachable h.reachable).sel k) hk

/-- Three items go through a channel of size two; the second one is taken by a select. -/
theorem boundedFifo_three : ∃ (ts : List (Transfer (Fin 1) ℕ)) (s : State (Fin 1) (Fin 1) ℕ),
    readFrom 0 ts = [1, 2] ∧ writtenTo 0 ts = [1, 2, 3] ∧ BoundedFifo ts s 0 := by
  have h : (system (Fin 1) (Fin 1) ℕ).endsIn (init fun _ => 2)
      [performs 0 (.write .write 0 1) 3, performs 0 (.write .tryWrite 0 2) 3,
        performs 0 (.read .tryRead 0) 5, performs 0 (.select [.read 0] 0 false) 6,
        performs 0 (.write .write 0 3) 3].flatten
      (fun s => (s.chan 0).popped = [1, 2] ∧ (s.chan 0).pushed = [1, 2, 3]) = true := by
    decide
  obtain ⟨s, hs, hpopped, hpushed⟩ :=
    System.exists_of_endsIn (A := system (Fin 1) (Fin 1) ℕ) ⟨_, rfl⟩ h
  obtain ⟨ts, hts⟩ := hs.exists_shows State.moved
  obtain ⟨hw, hr⟩ := records_of_shows hts 0
  exact ⟨ts, s, hr.symm.trans hpopped, hw.symm.trans hpushed, boundedFifo_of_shows hts 0⟩

end

end BbtCoroutine.Chan
