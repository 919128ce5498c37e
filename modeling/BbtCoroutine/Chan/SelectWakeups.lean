import BbtCoroutine.Chan.Select

/-!
# What a `CoSelect` sleeps through

In its callback a select first adds its watchers and then tries its cases again.  A case
that is not ready then is one that has nothing to give, or one whose channel is being
read.  In the first case the watcher is notified as soon as there is something.  In the
second case nobody is told when the flag `m_is_reading` is reset: if the reader leaves
items behind, the select sleeps through them (`asleep_beside_item`).

So a select is awake whenever no flag is dropped at a channel with items while another
select sleeps that has found it set (`LeavesNothing`).
-/

namespace BbtCoroutine.Chan

open Transition Wait

variable {Co Ch α : Type*}

/-! ## Selects that wait -/

/-- The channel whose flag the next step drops. -/
def Pc.releases : Pc Ch α → Option Ch
  | .readRelease ch _ => some ch
  | .selRelease run _ i _ => run.cases[i]?.map Case.ch
  | _ => none

/-- The run of a select that tries its cases in its callback, or sleeps after that. -/
def Pc.rechecking : Pc Ch α → Option (Run Ch α)
  | .selTry run .recheck _ | .selFlag run .recheck _ | .selLock run .recheck _
  | .selRelease run .recheck _ false | .commit (.select run) | .parked (.select run) => some run
  | _ => none

/-- The select has found `ch` being read in its callback. -/
def Run.blind [DecidableEq Ch] (run : Run Ch α) (ch : Ch) : Bool :=
  run.refused.any fun j =>
    match run.cases[j]? with
    | some (.read ch') => ch' = ch
    | _ => false

/-- The coroutine `k` waits in a select that was not yet woken and that has found `ch` being
read. -/
def State.blind [DecidableEq Ch] (s : State Co Ch α) (k : Co) (ch : Ch) : Bool :=
  (s.wait k).round.undecided && (s.pc k).rechecking.any (Run.blind · ch)

/-- A case has nothing to give; `refused` tells that its channel was found being read. -/
def State.Quiet (s : State Co Ch α) (refused : Prop) : Case Ch α → Prop
  | .read ch => (s.chan ch).isClosed = false ∧
    ((s.chan ch).itemQueue = [] ∨ refused ∧ (s.chan ch).isReading = true)
  | .write ch _ => (s.chan ch).isClosed = false ∧ (s.chan ch).full = true

/-- The cases below `hi` have nothing to give. -/
def State.QuietBelow (s : State Co Ch α) (run : Run Ch α) (hi : ℕ) : Prop :=
  ∀ j < hi, ∀ case, run.cases[j]? = some case → s.Quiet (j ∈ run.refused) case

/-- What a select that waits has found out in its callback. -/
def State.Checked (s : State Co Ch α) : Pc Ch α → Prop
  | .selTry run .recheck i => s.QuietBelow run i
  | .selFlag run .recheck i | .selLock run .recheck i => s.QuietBelow run i ∧
    ∀ ch, run.cases[i]? = some (.read ch) → (s.chan ch).isClosed = false
  | .selRelease run .recheck i false => s.QuietBelow run i ∧
    ∃ ch, run.cases[i]? = some (.read ch) ∧ (s.chan ch).isClosed = false ∧
      (s.chan ch).itemQueue = []
  | .commit (.select run) | .parked (.select run) => s.QuietBelow run run.cases.length
  | _ => True

/-- The cases below `hi` have their watchers. -/
def State.WatchedBelow (s : State Co Ch α) (k : Co) (run : Run Ch α) (hi : ℕ) : Prop :=
  ∀ j < hi, ∀ case, run.cases[j]? = some case →
    some (k, (s.wait k).n) ∈ watchers (s.chan case.side.1) case.side.2

/-- The run of a select between its first watcher and its resumption, with the number of cases
that have their watchers. -/
def Pc.watched : Pc Ch α → Option (Run Ch α × ℕ)
  | .selWatch run i => some (run, i)
  | .selTry run .recheck _ | .selFlag run .recheck _ | .selLock run .recheck _
  | .selRelease run .recheck _ _ | .selNotify run | .commit (.select run)
  | .parked (.select run) => some (run, run.cases.length)
  | _ => none

/-- The watchers of the selects that wait are in the lists. -/
def Registered (s : State Co Ch α) : Prop :=
  ∀ k run hi, (s.pc k).watched = some (run, hi) → s.WatchedBelow k run hi

/-! ## Who wakes a watcher -/

section

variable [DecidableEq Co] [DecidableEq Ch] {s s' : State Co Ch α} {c k : Co} {a : Act Ch α}
  {p p' : Pc Ch α} {ch : Ch} {b : Bool} {n : ℕ}

omit [DecidableEq Ch] in
/-- A waiter is decided by `_NotifyAll`, even if it was notified before. -/
lemma decided_of_notified {q : WaitQueue Co} {w : Co → Wait} (hm : some (k, n) ∈ q)
    (hl : (s.wait k).live n = true) (hn : Notified (s.wait k) (w k)) :
    (notifyAllIn q w k).round.undecided = false := by
  by_contra hu
  rw [Bool.not_eq_false] at hu
  have hw := hn.same ((notifyAllIn_notified q w k).later.undecided hu).1
  have hd := decided_notifyAllIn hm (hw ▸ hl)
  rw [hd] at hu
  cases hu

/-- A push wakes the watchers for items. -/
lemma push_wakes (hm : some (k, n) ∈ (s.chan ch).readWatchers) (hl : (s.wait k).live n = true)
    (item : α) : ((s.push c ch item).wait k).round.undecided = false := by
  have hne : (s.chan ch).readWatchers ≠ [] := List.ne_nil_of_mem hm
  rw [push_wait, if_pos (by simp [hne])]
  exact decided_notifyAllIn (List.mem_cons_of_mem _ hm) hl

/-- A pop wakes the watchers for room. -/
lemma pop_wakes (hq : (s.chan ch).itemQueue ≠ []) (hm : some (k, n) ∈ (s.chan ch).writeWatchers)
    (hl : (s.wait k).live n = true) : ((s.pop c ch).wait k).round.undecided = false := by
  obtain ⟨item, items, hi⟩ := List.exists_cons_of_ne_nil hq
  rw [pop_wait s c hi]
  exact decided_of_notified hm hl (notifyOneIn_notified _ _ k)

/-- Reading all items wakes each select that watches to write. -/
lemma popAll_wakes (hq : (s.chan ch).itemQueue ≠ [])
    (hm : some (k, n) ∈ (s.chan ch).writeWatchers) (hl : (s.wait k).live n = true) :
    ((s.apply c (.popAll ch)).wait k).round.undecided = false := by
  obtain ⟨item, items, hi⟩ := List.exists_cons_of_ne_nil hq
  change ((State.popN c ch (s.chan ch).itemQueue.length s).wait k).round.undecided = false
  rw [hi, List.length_cons]
  exact ((popN_notified _ c ch _ k).later.decided (pop_wakes hq hm hl)).1

/-- `Close` wakes all watchers. -/
lemma close_wakes (hm : some (k, n) ∈ watchers (s.chan ch) b) (hl : (s.wait k).live n = true) :
    ((s.close ch).wait k).round.undecided = false := by
  have hm' : some (k, n) ∈ (s.chan ch).readWatchers ++ (s.chan ch).writeWatchers := by
    cases b with
    | false => exact List.mem_append_left _ hm
    | true => exact List.mem_append_right _ hm
  rw [close_wait]
  refine decided_of_notified hm' hl (Notified.trans ?_ (notifyAllIn_notified _ _ k))
  split
  · exact notifyAllIn_notified _ _ k
  · exact Notified.refl _

/-! ## What stays as it was found -/

/-- Only `Close` closes a channel. -/
lemma apply_isClosed (hclose : a ≠ .close ch) :
    ((s.apply c a).chan ch).isClosed = (s.chan ch).isClosed := by
  refine apply_member Chan.isClosed fun x x' h => ?_
  cases h with
  | close => exact absurd rfl hclose
  | _ => rfl

/-- Only a push fills an empty queue. -/
lemma apply_nil (hpush : ∀ item, a ≠ .push ch item) (hi : (s.chan ch).itemQueue = []) :
    ((s.apply c a).chan ch).itemQueue = [] := by
  refine apply_induct (I := fun x => x.itemQueue = []) (fun x x' h hx => ?_) hi
  cases h with
  | push item => exact absurd rfl (hpush item)
  | pop w ha hi =>
    rw [hx] at hi
    cases hi
  | _ => exact hx

/-- Only one act resets the flag. -/
lemma apply_isReading_true (hs : a ≠ .setReading ch false) (hr : (s.chan ch).isReading = true) :
    ((s.apply c a).chan ch).isReading = true := by
  refine apply_induct (I := fun x => x.isReading = true) (fun x x' h hx => ?_) hr
  cases h with
  | setReading b =>
    cases b with
    | false => exact absurd rfl hs
    | true => rfl
  | _ => exact hx

/-- The channel of a watcher that is not woken stays open. -/
lemma apply_open (hm : some (k, n) ∈ watchers (s.chan ch) b) (hl : (s.wait k).live n = true)
    (hu : ((s.apply c a).wait k).round.undecided = true) (ho : (s.chan ch).isClosed = false) :
    ((s.apply c a).chan ch).isClosed = false := by
  have hclose : a ≠ .close ch := by
    rintro rfl
    have hd : ((s.apply c (.close ch)).wait k).round.undecided = false := close_wakes hm hl
    rw [hd] at hu
    cases hu
  exact (apply_isClosed hclose).trans ho

/-- The channel of a watcher for items that is not woken stays empty. -/
lemma apply_empty (hm : some (k, n) ∈ (s.chan ch).readWatchers) (hl : (s.wait k).live n = true)
    (hu : ((s.apply c a).wait k).round.undecided = true) (hi : (s.chan ch).itemQueue = []) :
    ((s.apply c a).chan ch).itemQueue = [] := by
  refine apply_nil ?_ hi
  rintro item rfl
  have hd : ((s.apply c (.push ch item)).wait k).round.undecided = false := push_wakes hm hl item
  rw [hd] at hu
  cases hu

/-- The channel of a watcher for room that is not woken stays full. -/
lemma apply_full (hm : some (k, n) ∈ (s.chan ch).writeWatchers) (hl : (s.wait k).live n = true)
    (hu : ((s.apply c a).wait k).round.undecided = true) (hf : (s.chan ch).full = true) :
    ((s.apply c a).chan ch).full = true := by
  have hne : (s.chan ch).itemQueue ≠ [] := by
    intro hi
    simp [Chan.full, hi] at hf
  have hpop : a ≠ .pop ch := by
    rintro rfl
    have hd : ((s.apply c (.pop ch)).wait k).round.undecided = false := pop_wakes hne hm hl
    rw [hd] at hu
    cases hu
  have hall : a ≠ .popAll ch := by
    rintro rfl
    rw [popAll_wakes hne hm hl] at hu
    cases hu
  have hclose : a ≠ .close ch := by
    rintro rfl
    have hd : ((s.apply c (.close ch)).wait k).round.undecided = false :=
      close_wakes (b := true) hm hl
    rw [hd] at hu
    cases hu
  have hlen := (apply_length_le (s := s) (c := c) hpop hall hclose).2
  simp only [Chan.full, decide_eq_true_eq] at hf ⊢
  rw [(grows_apply a ch).maxSize]
  exact hf.trans hlen

/-- A case of a select that is not woken still has nothing to give, unless a flag is dropped. -/
lemma State.Quiet.apply {refused : Prop} {case : Case Ch α} (h : s.Quiet refused case)
    (hm : some (k, n) ∈ watchers (s.chan case.side.1) case.side.2)
    (hl : (s.wait k).live n = true) (hu : ((s.apply c a).wait k).round.undecided = true)
    (hrel : ∀ ch, case = .read ch → a = .setReading ch false → refused →
      (s.chan ch).itemQueue = []) : (s.apply c a).Quiet refused case := by
  cases case with
  | read ch =>
    refine ⟨apply_open (b := false) hm hl hu h.1, ?_⟩
    rcases h.2 with hi | ⟨hr, hf⟩
    · exact .inl (apply_empty hm hl hu hi)
    · by_cases ha : a = .setReading ch false
      · exact .inl (apply_empty hm hl hu (hrel ch rfl ha hr))
      · exact .inr ⟨hr, apply_isReading_true ha hf⟩
  | write ch val =>
    exact ⟨apply_open (b := true) hm hl hu h.1, apply_full hm hl hu h.2⟩

/-- The cases below stay quiet through an act that does not decide the wait. -/
lemma State.QuietBelow.apply {run : Run Ch α} {hi : ℕ} (h : s.QuietBelow run hi)
    (hm : s.WatchedBelow k run run.cases.length) (hl : (s.wait k).live (s.wait k).n = true)
    (hu : ((s.apply c a).wait k).round.undecided = true)
    (hrel : ∀ ch, a = .setReading ch false → run.blind ch = true → (s.chan ch).itemQueue = []) :
    (s.apply c a).QuietBelow run hi := by
  intro j hj case hc
  have hlen := (List.getElem?_eq_some_iff.mp hc).1
  refine (h j hj case hc).apply (hm j hlen case hc) hl hu fun ch hcase ha hr => hrel ch ha ?_
  subst hcase
  exact List.any_eq_true.mpr ⟨j, hr, by simp [hc]⟩

/-! ## The watchers -/

/-- A watcher stays in its list until its coroutine removes it. -/
lemma watcher_keep (hm : some (k, n) ∈ watchers (s.chan ch) b)
    (h : k ≠ c ∨ ∀ case waiter, a ≠ .removeWatcher case waiter) :
    some (k, n) ∈ watchers ((s.apply c a).chan ch) b := by
  by_cases hadd : ∃ case, a = .addWatcher case
  · obtain ⟨case, rfl⟩ := hadd
    change _ ∈ watchers ((s.addWatcher c case).chan ch) b
    rw [addWatcher_watchers]
    split
    · exact List.mem_append_left _ hm
    · exact hm
  by_cases hremove : ∃ case waiter, a = .removeWatcher case waiter
  · obtain ⟨case, waiter, rfl⟩ := hremove
    have hkc : k ≠ c := h.resolve_right fun h => h case waiter rfl
    change _ ∈ watchers ((s.removeWatcher c waiter case).chan ch) b
    rw [removeWatcher_watchers]
    split
    · exact mem_without.mpr ⟨hm, fun h => hkc h.1⟩
    · exact hm
  · rwa [apply_watchers (fun case ha => hadd ⟨case, ha⟩)
      (fun case waiter ha => hremove ⟨case, waiter, ha⟩)]

section

omit [DecidableEq Ch]

/-- Only a recheck ends at a point that is watched, with all its cases. -/
lemma watched_finishPass {run run' : Run Ch α} {pass : Pass} {index : Option ℕ} {hi : ℕ}
    (h : (finishPass run pass index).watched = some (run', hi)) :
    pass = .recheck ∧ run'.cases = run.cases ∧ hi = run.cases.length := by
  refine finishPass_induct (I := fun p => p.watched = some (run', hi) →
    pass = .recheck ∧ run'.cases = run.cases ∧ hi = run.cases.length) ?_ ?_ ?_ ?_ h
  · exact fun _ h => by cases h
  · exact fun _ _ h => by cases h
  · rintro _ rfl - ⟨⟩
    exact ⟨rfl, rfl, rfl⟩
  · rintro rfl - ⟨⟩
    exact ⟨rfl, rfl, rfl⟩

/-- Only a recheck goes on at a point that is watched, with all its cases. -/
lemma watched_nextCase {run run' : Run Ch α} {pass : Pass} {i hi : ℕ}
    (h : (nextCase run pass i).watched = some (run', hi)) :
    pass = .recheck ∧ run'.cases = run.cases ∧ hi = run.cases.length := by
  refine nextCase_induct (I := fun p => p.watched = some (run', hi) →
    pass = .recheck ∧ run'.cases = run.cases ∧ hi = run.cases.length) ?_
    (fun _ => watched_finishPass) h
  intro h
  cases pass <;> cases h
  exact ⟨rfl, rfl, rfl⟩

/-- After a wait nothing is watched. -/
lemma watched_afterWait (ret : ℤ) (w : Waiting Ch α) : (afterWait ret w).watched = none := by
  exact afterWait_induct (I := fun p => p.watched = none) (fun _ _ _ _ => rfl)
    (fun _ _ _ _ _ _ => rfl) (fun _ _ _ => rfl) (fun _ _ _ => rfl) fun _ _ _ _ => rfl

end

omit [DecidableEq Co] [DecidableEq Ch] in
/-- A select adds its watchers case by case and keeps them. -/
lemma Plan.watched (h : Plan s c p a p') {run' : Run Ch α} {hi' : ℕ}
    (hp : p'.watched = some (run', hi')) :
    (∃ run hi, p.watched = some (run, hi) ∧ run'.cases = run.cases ∧
      (∀ case waiter, a ≠ .removeWatcher case waiter) ∧ a.goesOn = true ∧
      (hi' = hi ∨ hi' ≤ hi + 1 ∧ ∃ case, a = .addWatcher case ∧ run.cases[hi]? = some case)) ∨
      hi' = 0 := by
  cases h with
  | @selClosed run pass i case p hi hc hw =>
    obtain ⟨rfl, hr, rfl⟩ := watched_finishPass hp
    rcases hw with rfl | ⟨rfl, -⟩ <;> exact .inl ⟨run, _, rfl, hr, by simp, rfl, .inl rfl⟩
  | @selRead run pass | @selWrite run pass | @selFlag run pass =>
    cases pass <;> cases hp
    exact .inl ⟨_, _, rfl, rfl, by simp, rfl, .inl rfl⟩
  | @selEmpty run pass | @selPop run pass =>
    cases pass <;> cases hp
    exact .inl ⟨_, _, rfl, rfl, by simp, rfl, .inl rfl⟩
  | @selHeld run pass i =>
    obtain ⟨rfl, hr, rfl⟩ := watched_nextCase hp
    have hc := (refuse_waiter run .recheck i).2
    exact .inl ⟨run, _, rfl, hr.trans hc, by simp, rfl, .inl (by rw [hc])⟩
  | @selFull run =>
    obtain ⟨rfl, hr, rfl⟩ := watched_nextCase hp
    exact .inl ⟨run, _, rfl, hr, by simp, rfl, .inl rfl⟩
  | @selPush run =>
    obtain ⟨rfl, hr, rfl⟩ := watched_finishPass hp
    exact .inl ⟨run, _, rfl, hr, by simp, rfl, .inl rfl⟩
  | @selRelease run =>
    split at hp
    · obtain ⟨rfl, hr, rfl⟩ := watched_finishPass hp
      exact .inl ⟨run, _, rfl, hr, by simp, rfl, .inl rfl⟩
    · obtain ⟨rfl, hr, rfl⟩ := watched_nextCase hp
      exact .inl ⟨run, _, rfl, hr, by simp, rfl, .inl rfl⟩
  | @selWatch run i case hi =>
    split at hp <;> cases hp
    · exact .inl ⟨run', i, rfl, rfl, by simp, rfl, .inr ⟨le_rfl, case, rfl, hi⟩⟩
    · exact .inl ⟨run', i, rfl, rfl, by simp, rfl, .inr ⟨not_lt.mp ‹_›, case, rfl, hi⟩⟩
  | selNotify => cases hp; exact .inl ⟨_, _, rfl, rfl, by simp, rfl, .inl rfl⟩
  | selUnwatch => split at hp <;> cases hp
  | @registAwaitEvent w =>
    cases w <;> cases hp
    exact .inr rfl
  | @commitPark w =>
    cases w <;> cases hp
    exact .inl ⟨_, _, rfl, rfl, by simp, rfl, .inl rfl⟩
  | waitFails | registFails | unbind =>
    rw [watched_afterWait] at hp
    cases hp
  | @waitThrows w => cases w <;> cases hp
  | readFlag hf hw | readGoesOn _ hw => cases p' <;> first | exact hw.elim | cases hp
  | closeCheck hw => rcases hw with rfl | rfl <;> cases hp
  | _ => cases hp

/-- A move of `c` keeps the watchers. -/
lemma Registered.move (hR : Registered s) (h : Plan s c (s.pc c) a p) :
    Registered ((s.apply c a).goto c p) := by
  intro k run' hi' hp j hj case hcase
  rw [goto_chan, goto_wait]
  by_cases hkc : k = c
  · subst hkc
    rw [goto_pc_self] at hp
    rcases h.watched hp with ⟨run, hi, hw, hc, hne, hgo, hhi⟩ | rfl
    · rw [hc] at hcase
      rw [(apply_later_self hgo).n]
      by_cases hlt : j < hi
      · exact watcher_keep (hR k run hi hw j hlt case hcase) (.inr hne)
      · -- the watcher that has just been added
        rcases hhi with rfl | ⟨hle, case', rfl, hcase'⟩
        · exact absurd hj hlt
        · obtain rfl : j = hi := by omega
          rw [hcase] at hcase'
          cases hcase'
          change _ ∈ watchers ((s.addWatcher k case).chan case.side.1) case.side.2
          rw [addWatcher_watchers, if_pos rfl]
          exact List.mem_append_right _ (List.mem_singleton_self _)
    · exact absurd hj (Nat.not_lt_zero j)
  · rw [apply_goto_pc_of_ne hkc] at hp
    rw [(apply_later a hkc).n]
    exact watcher_keep (hR k run' hi' hp j hj case hcase) (.inl hkc)

/-! ## The second look -/

omit [DecidableEq Ch] in
/-- A select that rechecks is watched in all its cases and waits. -/
lemma watched_of_rechecking {run : Run Ch α} (h : p.rechecking = some run) :
    p.watched = some (run, run.cases.length) ∧ p.waiting ≠ none := by
  cases p with
  | selTry r pass | selFlag r pass | selLock r pass =>
    cases pass <;> cases h
    exact ⟨rfl, by simp [Pc.waiting]⟩
  | selRelease r pass i ready =>
    cases pass <;> cases ready <;> cases h
    exact ⟨rfl, by simp [Pc.waiting]⟩
  | commit w | parked w =>
    cases w <;> cases h
    exact ⟨rfl, by simp [Pc.waiting]⟩
  | _ => cases h

/-- What a select has found out stays true while it is not woken, unless a flag is dropped. -/
lemma State.Checked.apply (h : s.Checked p)
    (hm : ∀ run, p.rechecking = some run → s.WatchedBelow k run run.cases.length)
    (hl : ∀ run, p.rechecking = some run → (s.wait k).live (s.wait k).n = true)
    (hu : ((s.apply c a).wait k).round.undecided = true)
    (hrel : ∀ run ch, p.rechecking = some run → a = .setReading ch false → run.blind ch = true →
      (s.chan ch).itemQueue = []) : (s.apply c a).Checked p := by
  have quiet : ∀ {run : Run Ch α} {hi : ℕ}, p.rechecking = some run → s.QuietBelow run hi →
      (s.apply c a).QuietBelow run hi := fun hr hq =>
    hq.apply (hm _ hr) (hl _ hr) hu fun ch => hrel _ ch hr
  have watcher : ∀ {run : Run Ch α} {i : ℕ} {ch : Ch}, p.rechecking = some run →
      run.cases[i]? = some (.read ch) → some (k, (s.wait k).n) ∈ watchers (s.chan ch) false :=
    fun hr hi => hm _ hr _ (List.getElem?_eq_some_iff.mp hi).1 _ hi
  cases p with
  | selTry run pass =>
    cases pass
    · trivial
    · exact quiet rfl h
    · trivial
  | selFlag run pass | selLock run pass =>
    cases pass
    · trivial
    · exact ⟨quiet rfl h.1, fun ch hi => apply_open (watcher rfl hi) (hl _ rfl) hu (h.2 ch hi)⟩
    · trivial
  | selRelease run pass i ready =>
    cases pass <;> cases ready <;> try trivial
    obtain ⟨hq, ch, hi, ho, he⟩ := h
    exact ⟨quiet rfl hq, ch, hi, apply_open (watcher rfl hi) (hl _ rfl) hu ho,
      apply_empty (watcher rfl hi) (hl _ rfl) hu he⟩
  | commit w | parked w =>
    cases w <;> try trivial
    exact quiet rfl h
  | _ => trivial

section

omit [DecidableEq Co] [DecidableEq Ch]

/-- A pass that has found a case has nothing left to check. -/
lemma checked_finishPass_some (run : Run Ch α) (pass : Pass) (i : ℕ) :
    s.Checked (finishPass run pass (some i)) := by
  cases pass <;> trivial

/-- A pass that goes on has checked the cases below. -/
lemma checked_nextCase {run : Run Ch α} {pass : Pass} {i : ℕ}
    (h : pass = .recheck → s.QuietBelow run (i + 1)) : s.Checked (nextCase run pass i) := by
  refine nextCase_induct ?_ fun hlast => finishPass_induct (fun _ => trivial)
    (fun _ _ => trivial) (fun _ _ h => by cases h) fun hp _ j hj => h hp j (by omega)
  cases pass
  · trivial
  · exact h rfl
  · trivial

/-- After a wait there is nothing left to check. -/
lemma checked_afterWait (ret : ℤ) (w : Waiting Ch α) : s.Checked (afterWait ret w) := by
  exact afterWait_induct (fun _ _ _ _ => trivial) (fun _ _ _ _ _ _ => trivial)
    (fun _ _ _ => trivial) (fun _ _ _ => trivial) fun _ _ _ _ => trivial

/-- One more case is quiet. -/
lemma State.QuietBelow.succ {run : Run Ch α} {i : ℕ} {case : Case Ch α} (h : s.QuietBelow run i)
    (hi : run.cases[i]? = some case) (hq : s.Quiet (i ∈ run.refused) case) :
    s.QuietBelow run (i + 1) := by
  intro j hj case' hc
  rcases Nat.lt_succ_iff_lt_or_eq.mp hj with hlt | rfl
  · exact h j hlt case' hc
  · rw [hi] at hc
    cases hc
    exact hq

/-- A case whose channel is being read is noted as such. -/
lemma State.QuietBelow.refuse {run : Run Ch α} {i : ℕ} {ch : Ch} (h : s.QuietBelow run i)
    (hi : run.cases[i]? = some (.read ch)) (ho : (s.chan ch).isClosed = false)
    (hf : (s.chan ch).isReading = true) : s.QuietBelow (run.refuse .recheck i) (i + 1) := by
  refine State.QuietBelow.succ (fun j hj case hc => ?_) hi
    ⟨ho, .inr ⟨List.mem_cons_self, hf⟩⟩
  have hq := h j hj case hc
  cases case with
  | read ch' => exact ⟨hq.1, hq.2.imp_right fun hr => ⟨List.mem_cons_of_mem _ hr.1, hr.2⟩⟩
  | write ch' val => exact hq

end

/-- A select that is not woken has made no mistake in its own steps. -/
lemma Plan.checked (hR : Registered s) (hW : WaitInv s) (h : Plan s c (s.pc c) a p)
    (hs : (s.wait c).round.undecided = true → s.Checked (s.pc c))
    (hu : ((s.apply c a).wait c).round.undecided = true) : (s.apply c a).Checked p := by
  have old : a.goesOn = true → s.Checked (s.pc c) := fun ha =>
    hs ((apply_later_self ha).undecided hu).1
  have quiet : ∀ {run : Run Ch α} {hi : ℕ}, a.goesOn = true → (s.pc c).rechecking = some run →
      s.QuietBelow run hi →
      (∀ ch, a = .setReading ch false → (s.chan ch).itemQueue = []) →
        (s.apply c a).QuietBelow run hi := by
    intro run hi ha hr hq hrel
    obtain ⟨hw, hwait⟩ := watched_of_rechecking hr
    exact hq.apply (hR c run _ hw) (hW.live c hwait ((apply_later_self ha).undecided hu).1) hu
      fun ch hc _ => hrel ch hc
  generalize hp : s.pc c = q at h old quiet
  cases h with
  | selClosed | selPush => exact checked_finishPass_some ..
  | @selRead run pass i ch hi hc =>
    cases pass
    · trivial
    · refine ⟨old rfl, fun ch' hi' => ?_⟩
      rw [hi] at hi'
      cases hi'
      exact hc
    · trivial
  | @selWrite run pass i ch val hi =>
    cases pass
    · trivial
    · refine ⟨old rfl, fun ch' hi' => ?_⟩
      rw [hi] at hi'
      cases hi'
    · trivial
  | @selHeld run pass i ch hi hf =>
    refine checked_nextCase ?_
    rintro rfl
    obtain ⟨hq, ho⟩ := old rfl
    exact hq.refuse hi (ho ch hi) hf
  | @selFlag run pass i ch hi hf =>
    cases pass
    · trivial
    · obtain ⟨hq, ho⟩ := old rfl
      refine ⟨quiet rfl rfl hq (by simp), fun ch' hi' => ?_⟩
      rw [apply_isClosed (by simp)]
      exact ho ch' hi'
    · trivial
  | @selFull run pass i ch val hi hc hf =>
    refine checked_nextCase ?_
    rintro rfl
    exact (old rfl).1.succ hi ⟨hc, hf⟩
  | @selEmpty run pass i ch hi hq =>
    cases pass
    · trivial
    · exact ⟨(old rfl).1, ch, hi, (old rfl).2 ch hi, hq⟩
    · trivial
  | @selPop run pass => cases pass <;> trivial
  | @selRelease run pass i ready case hi =>
    cases ready with
    | true => exact checked_finishPass_some ..
    | false =>
      refine checked_nextCase ?_
      rintro rfl
      obtain ⟨hq, ch, hi', ho, he⟩ := old rfl
      rw [hi] at hi'
      cases hi'
      refine State.QuietBelow.succ (quiet rfl rfl hq fun ch' ha => ?_) hi ⟨?_, .inl ?_⟩
      · cases ha
        exact he
      · rw [apply_isClosed (by simp)]
        exact ho
      · exact apply_nil (by simp) he
  | selWatch =>
    split
    · trivial
    · intro j hj
      exact absurd hj (Nat.not_lt_zero j)
  | @selNotify run =>
    -- the select has notified itself
    have hl := hW.live c (by rw [hp]; simp [Pc.waiting]) ((apply_later_self rfl).undecided hu).1
    have hd : ((s.apply c .notify).wait c).round.undecided = false :=
      decided_notifyAllIn (List.mem_singleton_self _) hl
    rw [hd] at hu
    cases hu
  | selUnwatch => split <;> trivial
  | waitFails | registFails | unbind => exact checked_afterWait ..
  | @waitThrows w | @registAwaitEvent w => cases w <;> trivial
  | @commitPark w =>
    cases w <;> try trivial
    exact old rfl
  | readFlag _ hw | readGoesOn _ hw => cases p <;> trivial
  | closeCheck hw => rcases hw with rfl | rfl <;> trivial
  | _ => trivial

/-! ## All runs -/

/-- What is asked of a step: a flag is dropped at an empty channel, or no other select waits that
has found it set. -/
def LeavesNothing (s : State Co Ch α) : Label Co Ch α → Prop
  | .run c _ => ∀ ch, (s.pc c).releases = some ch →
    (s.chan ch).itemQueue = [] ∨ ∀ k, k ≠ c → s.blind k ch = false
  | _ => True

/-- The invariant of the selects that wait. -/
structure SleepInv (s : State Co Ch α) : Prop where
  registered : Registered s
  checked : ∀ k, (s.wait k).round.undecided = true → s.Checked (s.pc k)

omit [DecidableEq Co] [DecidableEq Ch] in
/-- The act that resets the flag is that of a point that releases it. -/
lemma Plan.releases (h : Plan s c p (.setReading ch false) p') : p.releases = some ch := by
  cases h with
  | readRelease => rfl
  | selRelease hi => simp [Pc.releases, hi]

omit [DecidableEq Co] [DecidableEq Ch] in
/-- An operation that is called is not watched and has checked nothing. -/
lemma entry_watched {op : Op Ch α} (h : s.entry c op = some p) :
    p.watched = none ∧ s.Checked p := by
  exact State.entry_induct h (I := fun p => p.watched = none ∧ s.Checked p)
    (fun _ _ _ => ⟨rfl, trivial⟩) (fun _ _ => ⟨rfl, trivial⟩) (fun _ _ => ⟨rfl, trivial⟩)
    (fun _ => ⟨rfl, trivial⟩) fun _ _ _ _ => ⟨rfl, trivial⟩

/-- The step lemma of the selects that wait. -/
lemma SleepInv.next {l : Label Co Ch α} (hW : WaitInv s) (hS : SleepInv s)
    (hK : LeavesNothing s l) (h : next s l = some s') : SleepInv s' := by
  cases next_cases h with
  | @call c op p hp he =>
    obtain ⟨hw, hc⟩ := entry_watched he
    constructor
    · intro k run hi hk
      by_cases hkc : k = c
      · rw [hkc, goto_pc_self, hw] at hk
        cases hk
      · rw [goto_pc_of_ne _ _ hkc] at hk
        exact hS.registered k run hi hk
    · intro k hu
      by_cases hkc : k = c
      · rw [hkc, goto_pc_self]
        exact hc
      · rw [goto_pc_of_ne _ _ hkc]
        exact hS.checked k hu
  | @run c e a p hp =>
    refine ⟨hS.registered.move hp, fun k hu => ?_⟩
    by_cases hkc : k = c
    · subst hkc
      rw [goto_pc_self]
      exact hp.checked hS.registered hW (hS.checked k) hu
    · rw [apply_goto_pc_of_ne hkc]
      have hus := ((apply_later (s := s) a hkc).undecided hu).1
      refine (hS.checked k hus).apply
        (fun run hr => hS.registered k run _ (watched_of_rechecking hr).1)
        (fun run hr => hW.live k (watched_of_rechecking hr).2 hus) hu fun run ch hr ha hb => ?_
      subst ha
      refine (hK ch hp.releases).resolve_right fun hk => ?_
      have hblind := hk k hkc
      simp [State.blind, hus, hr, hb] at hblind
  | @wait c w l hw =>
    constructor
    · intro k run hi hk j hj case hc
      rw [(later_setWait hw k).n]
      exact hS.registered k run hi hk j hj case hc
    · intro k hu
      exact hS.checked k ((later_setWait hw k).undecided hu).1

/-- The invariant of the selects that wait holds in every state of a run of kept steps. -/
lemma sleepInv_of_kept (h : (system Co Ch α).ReachableWhen LeavesNothing s) : SleepInv s := by
  refine System.ReachableWhen.induct_with (J := fun s => WaitInv s) (I := SleepInv)
    (fun s hs => (waitInv_of_reachable hs.reachable).2) ?_
    (fun _ _ _ hW _ hS hK hs => hS.next hW hK hs) h
  rintro _ ⟨size, rfl⟩
  exact ⟨fun k run hi hk => (by cases hk), fun k hu => trivial⟩

/-- A case is ready: its channel has an item, or room, or is closed. -/
def State.ready (s : State Co Ch α) : Case Ch α → Bool
  | .read ch => !(s.chan ch).itemQueue.isEmpty || (s.chan ch).isClosed
  | .write ch _ => !(s.chan ch).full || (s.chan ch).isClosed

/-- The coroutine is in no operation, or parked in one and not yet notified. -/
def State.atRest (s : State Co Ch α) (k : Co) : Bool :=
  match s.pc k with
  | .idle => true
  | .parked _ => (s.wait k).round == .parked
  | _ => false

/-- The coroutine is parked in a select one of whose cases is ready. -/
def State.sleepsThrough (s : State Co Ch α) (k : Co) : Bool :=
  match s.pc k with
  | .parked (.select run) => run.cases.any s.ready
  | _ => false

omit [DecidableEq Co] [DecidableEq Ch] in
/-- At rest a flag is held by readers of empty channels only. -/
lemma empty_of_isReading (hS : WakeInv s) (hrest : ∀ j, s.atRest j = true)
    (hf : (s.chan ch).isReading = true) : (s.chan ch).itemQueue = [] := by
  obtain ⟨j, hj⟩ := hS.flag.holder ch hf
  have hr := hrest j
  cases hp : s.pc j with
  | parked w =>
    rw [hp] at hj
    simp only [State.atRest, hp, beq_iff_eq] at hr
    cases w with
    | read op ch' =>
      cases hj
      exact (hS.reader ch j (by rw [hp]; rfl) (by rw [hr]; rfl)).2
    | write | select => cases hj
  | idle =>
    rw [hp] at hj
    cases hj
  | _ => simp [State.atRest, hp] at hr

/-- In every run of kept steps no select sleeps through a ready case. -/
theorem awake_of_kept (h : (system Co Ch α).ReachableWhen LeavesNothing s)
    (hrest : ∀ j, s.atRest j = true) (k : Co) : s.sleepsThrough k = false := by
  have hS := sleepInv_of_kept h
  have hwake := wakeInv_of_reachable h.reachable
  cases hp : s.pc k with
  | parked w =>
    cases w with
    | select run =>
      have hr := hrest k
      simp only [State.atRest, hp, beq_iff_eq] at hr
      have hc := hS.checked k (by rw [hr]; rfl)
      rw [hp] at hc
      simp only [State.sleepsThrough, hp, List.any_eq_false]
      intro case hm
      obtain ⟨j, hj, hcase⟩ := List.mem_iff_getElem.mp hm
      have hq := hc j hj case (by rw [List.getElem?_eq_getElem hj, hcase])
      cases case with
      | read ch =>
        have he : (s.chan ch).itemQueue = [] :=
          hq.2.elim id fun hf => empty_of_isReading hwake hrest hf.2
        simp [State.ready, hq.1, he]
      | write ch val => simp [State.ready, hq.1, hq.2]
    | write | read => simp [State.sleepsThrough, hp]
  | _ => simp [State.sleepsThrough, hp]

/-- The step drops a flag. -/
def State.dropsFlag (s : State Co Ch α) : Label Co Ch α → Bool
  | .run c _ => (s.pc c).releases.isSome
  | _ => false

/-- The select of `d` waits for a channel whose only item, written by `a`, the reader `b` has just
taken. -/
def sleepsBesideReader (a b d : Co) (ch : Ch) : List (Label Co Ch ℕ) :=
  [performs a (.write .write ch 1) 3, performs b (.read .tryRead ch) 3,
    performs d (.select [.read ch] (-1) false) 8, List.replicate 2 (.run b .none)].flatten

/-- The channel is empty, and the select rightly sleeps. -/
theorem awake_sleepsBesideReader : ∃ s : State (Fin 3) (Fin 1) ℕ,
    s.parkedIn 2 .select = true ∧ s.sleepsThrough 2 = false := by
  have h : (system (Fin 3) (Fin 1) ℕ).endsInWhen
      (fun s l => (s.dropsFlag l && !(s.chan 0).itemQueue.isEmpty) = false)
      (init fun _ => 2) (sleepsBesideReader 0 1 2 0)
      (fun s => (∀ j, s.atRest j = true) ∧ s.parkedIn 2 .select = true) = true := by
    decide
  obtain ⟨s, hs, hr, hp⟩ := System.exists_of_endsInWhen (A := system (Fin 3) (Fin 1) ℕ) ⟨_, rfl⟩ h
  refine ⟨s, hp, awake_of_kept (hs.mono fun t l hl => ?_) hr 2⟩
  cases l with
  | run c e =>
    intro ch hch
    obtain rfl : 0 = ch := Subsingleton.elim 0 ch
    simp only [State.dropsFlag, hch, Option.isSome_some, Bool.true_and, Bool.not_eq_false'] at hl
    exact .inl (List.isEmpty_iff.mp hl)
  | _ => trivial

/-- The reader of a channel with two items is stopped before it drops the flag.  A select finds
the channel being read and falls asleep; then the reader is done, and leaves one item behind. -/
theorem asleep_beside_item : ∃ s : State (Fin 3) (Fin 1) ℕ,
    (system (Fin 3) (Fin 1) ℕ).ReachableWhen (fun _ l => l.listed = true) s ∧
      (∀ j, s.atRest j = true) ∧ s.sleepsThrough 2 = true := by
  have h : (system (Fin 3) (Fin 1) ℕ).endsInWhen (fun _ l => l.listed = true) (init fun _ => 2)
      (performs 0 (.write .write 0 2) 3 ++ sleepsBesideReader 0 1 2 0)
      (fun s => (∀ j, s.atRest j = true) ∧ s.sleepsThrough 2 = true) = true := by
    decide
  obtain ⟨s, hs, hr, hp⟩ := System.exists_of_endsInWhen (A := system (Fin 3) (Fin 1) ℕ) ⟨_, rfl⟩ h
  exact ⟨s, hs, hr, hp⟩

end

end BbtCoroutine.Chan
