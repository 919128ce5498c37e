import BbtCoroutine.Chan.Moves
import BbtCoroutine.Chan.Wakeups

/-!
# What a `CoSelect` moves and what it leaves behind

Every point of `Run` has a result so far: none while the cases are being tried, and the
index of the case that was hit from then on.  `Hit` says what the coroutine has moved in
this call for that result.  The watchers of a select are in the lists of its cases only
between their registration in the callback and their removal at the end.
-/

namespace BbtCoroutine.Chan

open Transition Wait

variable {Co Ch α : Type*}

/-! ## What a run has moved -/

/-- With the result `index`, what the coroutine has moved since the call of `run`, and what was
stored in the outputs. -/
inductive Hit (s : State Co Ch α) (run : Run Ch α) : Option ℕ → List (Transfer Ch α) → Prop
  | nothing (ho : ∀ i, run.outs i = none) : Hit s run none []
  | closed {i : ℕ} {case : Case Ch α} (hi : run.cases[i]? = some case)
      (hc : (s.chan case.ch).isClosed = true) (ho : ∀ i, run.outs i = none) : Hit s run (some i) []
  | read {i : ℕ} {ch : Ch} {item : α} (hi : run.cases[i]? = some (.read ch))
      (ho : run.outs i = some item) (hn : ∀ j, j ≠ i → run.outs j = none) :
      Hit s run (some i) [.read ch item]
  | wrote {i : ℕ} {ch : Ch} {val : α} (hi : run.cases[i]? = some (.write ch val))
      (ho : ∀ i, run.outs i = none) : Hit s run (some i) [.wrote ch val]

/-- The coroutine `c` has moved what the result of its run says. -/
def State.HasHit (s : State Co Ch α) (c : Co) (run : Run Ch α) (index : Option ℕ) : Prop :=
  ∃ own, s.transfers c = run.before ++ own ∧ Hit s run index own

/-- The result of a run that is about to wait is right. -/
def State.BeginOk (s : State Co Ch α) (c : Co) : Waiting Ch α → Prop
  | .select run => s.HasHit c run none ∧ run.cbIndex = none
  | _ => True

/-- The result of a run that waits is right. -/
def State.WaitOk (s : State Co Ch α) (c : Co) : Waiting Ch α → Prop
  | .select run => s.HasHit c run run.cbIndex
  | _ => True

/-- The result of a run that returns is right. -/
def State.RetOk (s : State Co Ch α) (c : Co) : Ret Ch α → Prop
  | .select run index => s.HasHit c run index
  | _ => True

/-- The result of a run is right at the point. -/
def State.SelOk (s : State Co Ch α) (c : Co) : Pc Ch α → Prop
  | .selTry run _ _ | .selFlag run _ _ | .selLock run _ _ | .selWatch run _ =>
    s.HasHit c run none ∧ run.cbIndex = none
  | .selRelease run _ i ready =>
    s.HasHit c run (if ready then some i else none) ∧ run.cbIndex = none
  | .selNotify run => s.HasHit c run run.cbIndex
  | .selUnwatch run _ index => s.HasHit c run index
  | .prepare w | .regist w => s.BeginOk c w
  | .commit w | .parked w | .unbind w _ => s.WaitOk c w
  | .readRelease _ ret | .returned ret => s.RetOk c ret
  | _ => True

section

variable {s s' : State Co Ch α} {c : Co} {run : Run Ch α}

/-- A hit stays one while no channel is reopened. -/
lemma Hit.mono {index : Option ℕ} {own : List (Transfer Ch α)} (h : Hit s run index own)
    (hc : ∀ ch, (s.chan ch).isClosed = true → (s'.chan ch).isClosed = true) :
    Hit s' run index own := by
  cases h with
  | nothing ho => exact .nothing ho
  | closed hi hcl ho => exact .closed hi (hc _ hcl) ho
  | read hi ho hn => exact .read hi ho hn
  | wrote hi ho => exact .wrote hi ho

/-- A result survives what the others do. -/
lemma State.HasHit.mono {index : Option ℕ} (h : s.HasHit c run index)
    (ht : s'.transfers c = s.transfers c)
    (hc : ∀ ch, (s.chan ch).isClosed = true → (s'.chan ch).isClosed = true) :
    s'.HasHit c run index := by
  obtain ⟨own, hown, hh⟩ := h
  exact ⟨own, ht.trans hown, hh.mono hc⟩

/-- Only the cases, the outputs and the past of a run matter for its result. -/
lemma State.HasHit.congr {run' : Run Ch α} {index : Option ℕ} (h : s.HasHit c run index)
    (hcases : run'.cases = run.cases) (houts : run'.outs = run.outs)
    (hbefore : run'.before = run.before) : s.HasHit c run' index := by
  obtain ⟨own, hown, hh⟩ := h
  refine ⟨own, by rw [hbefore, hown], ?_⟩
  cases hh with
  | nothing ho => exact .nothing (by rwa [houts])
  | closed hi hcl ho => exact .closed (by rwa [hcases]) hcl (by rwa [houts])
  | read hi ho hn => exact .read (by rwa [hcases]) (by rwa [houts]) (by rwa [houts])
  | wrote hi ho => exact .wrote (by rwa [hcases]) (by rwa [houts])

/-- A point of a select stays in order while the own transfers are the same. -/
lemma State.SelOk.mono {p : Pc Ch α} (h : s.SelOk c p) (ht : s'.transfers c = s.transfers c)
    (hc : ∀ ch, (s.chan ch).isClosed = true → (s'.chan ch).isClosed = true) : s'.SelOk c p := by
  cases p with
  | selTry | selFlag | selLock | selWatch | selRelease => exact ⟨h.1.mono ht hc, h.2⟩
  | selNotify | selUnwatch => exact State.HasHit.mono h ht hc
  | prepare w | regist w =>
    cases w with
    | select run => exact ⟨h.1.mono ht hc, h.2⟩
    | _ => trivial
  | commit w | parked w | unbind w =>
    cases w with
    | select run => exact State.HasHit.mono h ht hc
    | _ => trivial
  | readRelease ch ret | returned ret =>
    cases ret with
    | select run index => exact State.HasHit.mono h ht hc
    | _ => trivial
  | _ => trivial

/-- A wait that may begin is in order. -/
lemma State.BeginOk.waitOk {w : Waiting Ch α} (h : s.BeginOk c w) : s.WaitOk c w := by
  cases w with
  | select run =>
    change s.HasHit c run run.cbIndex
    rw [h.2]
    exact h.1
  | _ => trivial

/-- A pass that has ended leaves the result it has found. -/
lemma selOk_finishPass {pass : Pass} {index : Option ℕ} (h : s.HasHit c run index)
    (hcb : run.cbIndex = none) : s.SelOk c (finishPass run pass index) := by
  refine finishPass_induct (fun _ => h) ?_ ?_ ?_
  · rintro - rfl
    exact ⟨h, hcb⟩
  · rintro i - rfl
    exact State.HasHit.congr h rfl rfl rfl
  · rintro - rfl
    change s.HasHit c run run.cbIndex
    rwa [hcb]

/-- A case that is not ready leaves a select in order. -/
lemma selOk_nextCase {pass : Pass} {i : ℕ} (h : s.HasHit c run none) (hcb : run.cbIndex = none) :
    s.SelOk c (nextCase run pass i) := by
  exact nextCase_induct ⟨h, hcb⟩ fun _ => selOk_finishPass h hcb

/-- Where a wait leads, a select is in order. -/
lemma selOk_afterWait {ret : ℤ} {w : Waiting Ch α} (h : s.WaitOk c w) :
    s.SelOk c (afterWait ret w) := by
  refine afterWait_induct (fun _ _ _ _ => trivial) (fun _ _ _ _ _ _ => trivial)
    (fun _ _ _ => trivial) ?_ ?_
  · rintro run hcb rfl
    have h' : s.HasHit c run run.cbIndex := h
    rw [hcb] at h'
    exact ⟨h', hcb⟩
  · rintro run i hcb rfl
    have h' : s.HasHit c run run.cbIndex := h
    rwa [hcb] at h'

/-- A select without a hit has moved nothing. -/
lemma Hit.of_none {own : List (Transfer Ch α)} (h : Hit s run none own) :
    own = [] ∧ ∀ i, run.outs i = none := by
  cases h
  exact ⟨rfl, ‹_›⟩

end

section

variable [DecidableEq Co] [DecidableEq Ch] {s s' : State Co Ch α} {c : Co} {a : Act Ch α}
  {p p' : Pc Ch α}

/-- A move of a coroutine keeps the result of its run right. -/
lemma Plan.selOk (h : Plan s c p a p') (hs : s.SelOk c p) : (s.apply c a).SelOk c p' := by
  have hclosed : ∀ ch, (s.chan ch).isClosed = true → ((s.apply c a).chan ch).isClosed = true :=
    fun ch => (grows_apply a ch).isClosed
  -- nothing is moved and the result stays
  have stay : a.moves = false → s.SelOk c p' → (s.apply c a).SelOk c p' := fun ha h =>
    h.mono (congrFun (apply_transfers ha) c) hclosed
  cases h with
  | selClosed hi hc hp =>
    refine stay rfl (selOk_finishPass ?_ ?_)
    · rcases hp with rfl | ⟨rfl, -⟩ <;> obtain ⟨⟨own, hown, hh⟩, -⟩ := hs <;>
        exact ⟨own, hown, hh.of_none.1 ▸ .closed hi hc hh.of_none.2⟩
    · rcases hp with rfl | ⟨rfl, -⟩ <;> exact hs.2
  | selRead | selWrite | selFlag => exact stay rfl hs
  | selHeld =>
    refine stay rfl (selOk_nextCase (hs.1.congr ?_ ?_ ?_) ?_) <;> unfold Run.refuse <;>
      split <;> first | rfl | exact hs.2
  | selFull => exact stay rfl (selOk_nextCase hs.1 hs.2)
  | selEmpty => exact stay rfl hs
  | @selPush run pass i ch val hi =>
    obtain ⟨⟨own, hown, hh⟩, hcb⟩ := hs
    refine selOk_finishPass ⟨[.wrote ch val], ?_, .wrote hi hh.of_none.2⟩ hcb
    rw [hh.of_none.1, List.append_nil] at hown
    rw [← hown]
    exact push_transfers s c ch val
  | @selPop run pass i ch item items hi hq =>
    obtain ⟨⟨own, hown, hh⟩, hcb⟩ := hs
    refine ⟨⟨[.read ch item], ?_, ?_⟩, hcb⟩
    · rw [hh.of_none.1, List.append_nil] at hown
      change _ = run.before ++ _
      rw [← hown]
      exact pop_transfers s c hq
    · refine .read hi (Function.update_self ..) fun j hj => ?_
      simp only [Function.update_of_ne hj]
      exact hh.of_none.2 j
  | @selRelease run pass i ready =>
    refine stay rfl ?_
    split
    · rename_i hr
      exact selOk_finishPass (by simpa [hr] using hs.1) hs.2
    · rename_i hr
      exact selOk_nextCase (by simpa [hr] using hs.1) hs.2
  | selWatch => exact stay rfl (by split <;> exact hs)
  | selNotify => exact stay rfl hs
  | selUnwatch => exact stay rfl (by split <;> exact hs)
  | waitFails => exact stay rfl (selOk_afterWait (State.BeginOk.waitOk hs))
  | @waitThrows w => cases w <;> trivial
  | @registCustom w =>
    refine stay rfl ?_
    cases w with
    | select run => exact ⟨hs.1.congr rfl rfl rfl, hs.2⟩
    | _ => trivial
  | registFails => exact stay rfl (selOk_afterWait (State.BeginOk.waitOk hs))
  | @registAwaitEvent w =>
    cases w with
    | select run => exact stay rfl hs
    | _ => trivial
  | commitPark => exact stay rfl hs
  | resume => exact stay rfl hs
  | unbind => exact stay rfl (selOk_afterWait hs)
  | closeCheck hp => rcases hp with rfl | rfl <;> trivial
  | readGoesOn => cases p' <;> trivial
  | readFlag => cases p' <;> trivial
  | readRelease => exact stay rfl hs
  | _ => trivial

end

/-! ## Where a run is registered -/

/-- The channel of a case, and whether the case writes. -/
def Case.side : Case Ch α → Ch × Bool
  | .read ch => (ch, false)
  | .write ch _ => (ch, true)

/-- The watchers of a channel for its items, or for its room. -/
def watchers (x : Chan Co α) (write : Bool) : WaitQueue Co :=
  if write then x.writeWatchers else x.readWatchers

/-- The run at a point where its watchers may be registered, with the first case that may still
have one. -/
def Pc.watching : Pc Ch α → Option (Run Ch α × ℕ)
  | .selTry run pass _ | .selFlag run pass _ | .selLock run pass _ | .selRelease run pass _ _ =>
    if pass = .first then none else some (run, 0)
  | .selWatch run _ | .selNotify run | .commit (.select run) | .parked (.select run)
  | .unbind (.select run) _ => some (run, 0)
  | .selUnwatch run i _ => some (run, i)
  | _ => none

/-- The run of a select whose waiter is bound. -/
def Pc.bound : Pc Ch α → Option (Run Ch α)
  | .selTry run .recheck _ | .selFlag run .recheck _ | .selLock run .recheck _
  | .selRelease run .recheck _ _ | .selWatch run _ | .selNotify run | .regist (.select run)
  | .commit (.select run) | .parked (.select run) | .unbind (.select run) _ => some run
  | _ => none

/-- The watchers in the lists belong to runs that will remove them. -/
structure WatchInv (s : State Co Ch α) : Prop where
  entry : ∀ ch b k n, some (k, n) ∈ watchers (s.chan ch) b →
    ∃ run lo, (s.pc k).watching = some (run, lo) ∧ run.waiter = some n ∧
      ∃ j case, lo ≤ j ∧ run.cases[j]? = some case ∧ case.side = (ch, b)
  waiter : ∀ k run, (s.pc k).bound = some run → run.waiter = some (s.wait k).n

section

variable [DecidableEq Co] [DecidableEq Ch] {s s' : State Co Ch α} {c : Co} {a : Act Ch α}
  {p p' : Pc Ch α} {ch : Ch} {b : Bool}

/-- Only two acts concern the watchers. -/
lemma apply_watchers (hadd : ∀ case, a ≠ .addWatcher case)
    (hremove : ∀ case waiter, a ≠ .removeWatcher case waiter) :
    watchers ((s.apply c a).chan ch) b = watchers (s.chan ch) b := by
  refine apply_member (watchers · b) fun x x' h => ?_
  cases h with
  | addWatcher case => exact absurd rfl (hadd case)
  | removeWatcher case waiter => exact absurd rfl (hremove case waiter)
  | _ => rfl

omit [DecidableEq Co] in
/-- A watcher is added to its side of its channel. -/
lemma addWatcher_watchers (case : Case Ch α) :
    watchers ((s.addWatcher c case).chan ch) b =
      if case.side = (ch, b) then watchers (s.chan ch) b ++ [some (c, (s.wait c).n)]
      else watchers (s.chan ch) b := by
  cases case with
  | read ch' =>
    by_cases hc : ch = ch'
    · subst hc
      cases b <;> simp [State.addWatcher, State.setChan, Case.side, watchers]
    · have hc' : ch' ≠ ch := fun h => hc h.symm
      cases b <;> simp [State.addWatcher, State.setChan, Case.side, watchers, hc, hc']
  | write ch' val =>
    by_cases hc : ch = ch'
    · subst hc
      cases b <;> simp [State.addWatcher, State.setChan, Case.side, watchers]
    · have hc' : ch' ≠ ch := fun h => hc h.symm
      cases b <;> simp [State.addWatcher, State.setChan, Case.side, watchers, hc, hc']

/-- A watcher is removed from its side of its channel. -/
lemma removeWatcher_watchers (case : Case Ch α) (waiter : Option ℕ) :
    watchers ((s.removeWatcher c waiter case).chan ch) b =
      if case.side = (ch, b) then State.without (watchers (s.chan ch) b) c waiter
      else watchers (s.chan ch) b := by
  cases case with
  | read ch' =>
    by_cases hc : ch = ch'
    · subst hc
      cases b <;> simp [State.removeWatcher, State.setChan, Case.side, watchers]
    · have hc' : ch' ≠ ch := fun h => hc h.symm
      cases b <;> simp [State.removeWatcher, State.setChan, Case.side, watchers, hc, hc']
  | write ch' val =>
    by_cases hc : ch = ch'
    · subst hc
      cases b <;> simp [State.removeWatcher, State.setChan, Case.side, watchers]
    · have hc' : ch' ≠ ch := fun h => hc h.symm
      cases b <;> simp [State.removeWatcher, State.setChan, Case.side, watchers, hc, hc']

section

omit [DecidableEq Ch]

/-- What is left of a queue after the entries of a waiter have been removed. -/
lemma mem_without {q : WaitQueue Co} {waiter : Option ℕ} {k : Co} {n : ℕ} :
    some (k, n) ∈ State.without q c waiter ↔ some (k, n) ∈ q ∧ ¬ (k = c ∧ waiter = some n) := by
  cases waiter with
  | none => simp [State.without]
  | some m =>
    simp only [State.without, List.mem_filter, decide_eq_true_eq, ne_eq, Option.some.injEq,
      Prod.mk.injEq]
    constructor
    · rintro ⟨hm, hne⟩
      exact ⟨hm, fun h => hne ⟨h.1, h.2.symm⟩⟩
    · rintro ⟨hm, hne⟩
      exact ⟨hm, fun h => hne ⟨h.1, h.2.symm⟩⟩

/-- The end of a later pass still watches all cases. -/
lemma watching_finishPass (run : Run Ch α) {pass : Pass} (hp : pass ≠ .first) (index : Option ℕ) :
    ∃ run', (finishPass run pass index).watching = some (run', 0) ∧ run'.waiter = run.waiter ∧
      run'.cases = run.cases := by
  cases pass <;> cases index <;> first | exact absurd rfl hp | exact ⟨_, rfl, rfl, rfl⟩

/-- A later pass that goes on still watches all cases. -/
lemma watching_nextCase (run : Run Ch α) {pass : Pass} (hp : pass ≠ .first) (i : ℕ) :
    ∃ run', (nextCase run pass i).watching = some (run', 0) ∧ run'.waiter = run.waiter ∧
      run'.cases = run.cases := by
  exact nextCase_induct
    (I := fun p => ∃ run', p.watching = some (run', 0) ∧ run'.waiter = run.waiter ∧
      run'.cases = run.cases)
    ⟨run, by simp [Pc.watching, hp], rfl, rfl⟩ fun _ => watching_finishPass run hp none

/-- Noting a case being read changes neither the waiter nor the cases. -/
lemma refuse_waiter (run : Run Ch α) (pass : Pass) (i : ℕ) :
    (run.refuse pass i).waiter = run.waiter ∧ (run.refuse pass i).cases = run.cases := by
  unfold Run.refuse
  split <;> exact ⟨rfl, rfl⟩

end

omit [DecidableEq Co] [DecidableEq Ch] in
/-- A run with watchers keeps them until it removes them case by case. -/
lemma Plan.watching (h : Plan s c p a p') {run : Run Ch α} {lo : ℕ}
    (hp : p.watching = some (run, lo)) :
    (∃ run', p'.watching = some (run', lo) ∧ run'.waiter = run.waiter ∧ run'.cases = run.cases) ∧
        (∀ case waiter, a ≠ .removeWatcher case waiter) ∨
      ∃ case, a = .removeWatcher case run.waiter ∧ run.cases[lo]? = some case ∧
        (p'.watching = some (run, lo + 1) ∨ run.cases.length ≤ lo + 1) := by
  -- a pass other than the first one keeps the watchers
  have pass : ∀ {r : Run Ch α} {pass : Pass}, (if pass = .first then none else some (r, 0)) =
      some (run, lo) → pass ≠ .first ∧ r = run ∧ 0 = lo := by
    intro r pass hp
    split at hp
    · cases hp
    · exact ⟨‹_›, Prod.mk.inj (Option.some.inj hp)⟩
  cases h with
  | @selClosed r q i case p hi hc hw =>
    have hp' : (if q = .first then none else some (r, 0)) = some (run, lo) := by
      rcases hw with rfl | ⟨rfl, -⟩ <;> exact hp
    obtain ⟨hq, rfl, rfl⟩ := pass hp'
    exact .inl ⟨watching_finishPass r hq _, by simp⟩
  | selRead | selWrite | selFlag | selEmpty => exact .inl ⟨⟨run, hp, rfl, rfl⟩, by simp⟩
  | @selPop r q =>
    obtain ⟨hq, rfl, rfl⟩ := pass hp
    exact .inl ⟨⟨_, if_neg hq, rfl, rfl⟩, by simp⟩
  | @selHeld r q i =>
    obtain ⟨hq, rfl, rfl⟩ := pass hp
    obtain ⟨run', h, hw, hc⟩ := watching_nextCase (r.refuse q i) hq i
    exact .inl ⟨⟨run', h, hw.trans (refuse_waiter r q i).1, hc.trans (refuse_waiter r q i).2⟩,
      by simp⟩
  | @selFull r q i =>
    obtain ⟨hq, rfl, rfl⟩ := pass hp
    exact .inl ⟨watching_nextCase r hq i, by simp⟩
  | @selPush r q =>
    obtain ⟨hq, rfl, rfl⟩ := pass hp
    exact .inl ⟨watching_finishPass r hq _, by simp⟩
  | @selRelease r q i =>
    obtain ⟨hq, rfl, rfl⟩ := pass hp
    refine .inl ⟨?_, by simp⟩
    split
    · exact watching_finishPass r hq _
    · exact watching_nextCase r hq i
  | selWatch =>
    cases hp
    refine .inl ⟨⟨run, ?_, rfl, rfl⟩, by simp⟩
    split <;> rfl
  | selNotify =>
    cases hp
    exact .inl ⟨⟨run, rfl, rfl, rfl⟩, by simp⟩
  | selUnwatch hi =>
    cases hp
    refine .inr ⟨_, rfl, hi, ?_⟩
    split
    · exact .inl rfl
    · exact .inr (not_lt.mp ‹_›)
  | @commitPark w | @resume w =>
    cases w <;> cases hp
    exact .inl ⟨⟨run, rfl, rfl, rfl⟩, by simp⟩
  | @unbind w =>
    cases w <;> cases hp
    refine .inl ⟨⟨run, ?_, rfl, rfl⟩, by simp⟩
    simp only [afterWait]
    split <;> rfl
  | writeClosed hw => rcases hw with rfl | rfl | rfl <;> cases hp
  | writeRefused hw | writeWait hw | writePush hw => cases hw <;> cases hp
  | readRefused hw => rcases hw with rfl | rfl <;> cases hp
  | readFails hw =>
    rcases hw with rfl | hw
    · cases hp
    · cases hw <;> cases hp
  | readWait hw | readPop hw | readPopAll hw => cases hw <;> cases hp
  | readGoesOn hw => cases p <;> first | exact hw.elim | cases hp
  | _ => cases hp

section

omit [DecidableEq Ch]

/-- Only a recheck ends at a point that holds a bound waiter. -/
lemma bound_finishPass {run run' : Run Ch α} {pass : Pass} {index : Option ℕ}
    (h : (finishPass run pass index).bound = some run') :
    pass = .recheck ∧ run'.waiter = run.waiter := by
  refine finishPass_induct
    (I := fun p => p.bound = some run' → pass = .recheck ∧ run'.waiter = run.waiter) ?_ ?_ ?_ ?_ h
  · exact fun _ h => by cases h
  · exact fun _ _ h => by cases h
  · rintro _ rfl - ⟨⟩
    exact ⟨rfl, rfl⟩
  · rintro rfl - ⟨⟩
    exact ⟨rfl, rfl⟩

/-- Only a recheck goes on at a point that holds a bound waiter. -/
lemma bound_nextCase {run run' : Run Ch α} {pass : Pass} {i : ℕ}
    (h : (nextCase run pass i).bound = some run') :
    pass = .recheck ∧ run'.waiter = run.waiter := by
  refine nextCase_induct
    (I := fun p => p.bound = some run' → pass = .recheck ∧ run'.waiter = run.waiter) ?_
    (fun _ => bound_finishPass) h
  intro h
  cases pass <;> cases h
  exact ⟨rfl, rfl⟩

/-- After a wait no waiter is bound. -/
lemma bound_afterWait (ret : ℤ) (w : Waiting Ch α) : (afterWait ret w).bound = none := by
  exact afterWait_induct (I := fun p => p.bound = none) (fun _ _ _ _ => rfl)
    (fun _ _ _ _ _ _ => rfl) (fun _ _ _ => rfl) (fun _ _ _ => rfl) fun _ _ _ _ => rfl

end

omit [DecidableEq Co] [DecidableEq Ch] in
/-- A run whose waiter is bound has just bound it or goes on with it. -/
lemma Plan.bound (h : Plan s c p a p') {run' : Run Ch α} (hp : p'.bound = some run') :
    (∃ run, p.bound = some run ∧ run'.waiter = run.waiter ∧ a.goesOn = true) ∨
      ∃ cond timed, a = .registCustom cond timed ∧ run'.waiter = some ((s.wait c).n + 1) := by
  cases h with
  | @selClosed run pass i case p hi hc hw =>
    obtain ⟨rfl, hr⟩ := bound_finishPass hp
    rcases hw with rfl | ⟨rfl, -⟩ <;> exact .inl ⟨run, rfl, hr, rfl⟩
  | @selRead run pass | @selWrite run pass | @selFlag run pass =>
    cases pass <;> cases hp
    exact .inl ⟨_, rfl, rfl, rfl⟩
  | @selEmpty run pass | @selPop run pass =>
    cases pass <;> cases hp
    exact .inl ⟨_, rfl, rfl, rfl⟩
  | @selHeld run pass i =>
    obtain ⟨rfl, hr⟩ := bound_nextCase hp
    exact .inl ⟨run, rfl, hr.trans (refuse_waiter run .recheck i).1, rfl⟩
  | @selFull run =>
    obtain ⟨rfl, hr⟩ := bound_nextCase hp
    exact .inl ⟨run, rfl, hr, rfl⟩
  | @selPush run =>
    obtain ⟨rfl, hr⟩ := bound_finishPass hp
    exact .inl ⟨run, rfl, hr, rfl⟩
  | @selRelease run =>
    split at hp
    · obtain ⟨rfl, hr⟩ := bound_finishPass hp
      exact .inl ⟨run, rfl, hr, rfl⟩
    · obtain ⟨rfl, hr⟩ := bound_nextCase hp
      exact .inl ⟨run, rfl, hr, rfl⟩
  | @selWatch run =>
    split at hp <;> cases hp <;> exact .inl ⟨_, rfl, rfl, rfl⟩
  | selNotify => cases hp; exact .inl ⟨_, rfl, rfl, rfl⟩
  | selUnwatch => split at hp <;> cases hp
  | @registCustom w =>
    cases w <;> cases hp
    exact .inr ⟨_, _, rfl, rfl⟩
  | @registAwaitEvent w | @commitPark w | @resume w =>
    cases w <;> cases hp
    exact .inl ⟨_, rfl, rfl, rfl⟩
  | waitFails | registFails | unbind =>
    rw [bound_afterWait] at hp
    cases hp
  | @waitThrows w => cases w <;> cases hp
  | readFlag hf hw | readGoesOn _ hw => cases p' <;> first | exact hw.elim | cases hp
  | closeCheck hw => rcases hw with rfl | rfl <;> cases hp
  | _ => cases hp

/-- A watcher that `c` has left in a list is still accounted for after its move. -/
lemma WatchInv.own (hW : WatchInv s) (h : Plan s c (s.pc c) a p) {n : ℕ}
    (he : some (c, n) ∈ watchers (s.chan ch) b)
    (he' : some (c, n) ∈ watchers ((s.apply c a).chan ch) b) :
    ∃ run lo, p.watching = some (run, lo) ∧ run.waiter = some n ∧
      ∃ j case, lo ≤ j ∧ run.cases[j]? = some case ∧ case.side = (ch, b) := by
  obtain ⟨run, lo, hp, hn, j, case, hlo, hj, hside⟩ := hW.entry ch b c n he
  rcases h.watching hp with ⟨⟨run', hp', hw, hc⟩, -⟩ | ⟨case', rfl, hi, hnext⟩
  · exact ⟨run', lo, hp', hw.trans hn, j, case, hlo, hc ▸ hj, hside⟩
  · -- the watchers of the case `lo` have just been removed
    change some (c, n) ∈ watchers ((s.removeWatcher c run.waiter case').chan ch) b at he'
    rw [removeWatcher_watchers] at he'
    have hne : case'.side ≠ (ch, b) := by
      intro hs
      rw [if_pos hs, mem_without] at he'
      exact he'.2 ⟨rfl, hn⟩
    have hlt : lo < j := by
      refine lt_of_le_of_ne hlo ?_
      rintro rfl
      rw [hi] at hj
      exact hne (Option.some.inj hj ▸ hside)
    rcases hnext with hp' | hlen
    · exact ⟨run, lo + 1, hp', hn, j, case, hlt, hj, hside⟩
    · obtain ⟨hlen', -⟩ := List.getElem?_eq_some_iff.mp hj
      omega

/-- A move of `c` keeps the invariant of the watchers. -/
lemma WatchInv.move (hW : WatchInv s) (h : Plan s c (s.pc c) a p) :
    WatchInv ((s.apply c a).goto c p) := by
  have hself : ((s.apply c a).goto c p).pc c = p := goto_pc_self ..
  refine ⟨fun ch b k n he => ?_, fun k run hb => ?_⟩
  · rw [goto_chan] at he
    have old : some (k, n) ∈ watchers (s.chan ch) b →
        ∃ run lo, (((s.apply c a).goto c p).pc k).watching = some (run, lo) ∧
          run.waiter = some n ∧ ∃ j case, lo ≤ j ∧ run.cases[j]? = some case ∧
            case.side = (ch, b) := by
      intro ho
      by_cases hkc : k = c
      · subst hkc
        rw [hself]
        exact hW.own h ho he
      · rw [apply_goto_pc_of_ne hkc]
        exact hW.entry ch b k n ho
    by_cases hadd : ∃ case, a = .addWatcher case
    · obtain ⟨case, rfl⟩ := hadd
      have he' : some (k, n) ∈ watchers ((s.addWatcher c case).chan ch) b := he
      rw [addWatcher_watchers] at he'
      split at he'
      · rename_i hside
        rcases List.mem_append.mp he' with ho | hnew
        · exact old ho
        · -- the watcher that `c` has just added
          obtain ⟨rfl, rfl⟩ := Prod.mk.inj (Option.some.inj (List.mem_singleton.mp hnew))
          rw [hself]
          generalize hq : s.pc k = q at h
          cases h with
          | @selWatch run i _ hi =>
            have hn := hW.waiter k run (by rw [hq]; rfl)
            refine ⟨run, 0, ?_, hn, i, case, Nat.zero_le _, hi, hside⟩
            split <;> rfl
      · exact old he'
    by_cases hremove : ∃ case waiter, a = .removeWatcher case waiter
    · obtain ⟨case, waiter, rfl⟩ := hremove
      have he' : some (k, n) ∈ watchers ((s.removeWatcher c waiter case).chan ch) b := he
      rw [removeWatcher_watchers] at he'
      split at he'
      · exact old (mem_without.mp he').1
      · exact old he'
    · refine old ?_
      rwa [apply_watchers (fun case ha => hadd ⟨case, ha⟩)
        (fun case waiter ha => hremove ⟨case, waiter, ha⟩)] at he
  · rw [goto_wait]
    by_cases hkc : k = c
    · subst hkc
      rw [hself] at hb
      rcases h.bound hb with ⟨run', hb', hr, ha⟩ | ⟨cond, timed, rfl, hr⟩
      · rw [hr, hW.waiter k run' hb', (apply_later_self ha).n]
      · rw [hr, apply_registCustom_wait]
        rfl
    · rw [apply_goto_pc_of_ne hkc] at hb
      rw [hW.waiter k run hb, (apply_later a hkc).n]

/-! ## All runs -/

/-- The invariant of the selects. -/
structure SelectInv (s : State Co Ch α) : Prop where
  sel : ∀ k, s.SelOk k (s.pc k)
  watch : WatchInv s

omit [DecidableEq Co] [DecidableEq Ch] in
/-- A select that is called is in order. -/
lemma entry_selOk {op : Op Ch α} (h : s.entry c op = some p) : s.SelOk c p := by
  refine State.entry_induct h (fun _ _ _ => trivial) (fun _ _ => trivial) (fun _ _ => trivial)
    (fun _ => trivial) fun run hbefore hcb houts => ⟨?_, hcb⟩
  exact ⟨[], by rw [hbefore, List.append_nil], .nothing houts⟩

omit [DecidableEq Co] [DecidableEq Ch] in
/-- An operation that is called has bound no waiter. -/
lemma entry_bound {op : Op Ch α} (h : s.entry c op = some p) : p.bound = none := by
  exact State.entry_induct h (I := fun p => p.bound = none) (fun _ _ _ => rfl) (fun _ _ => rfl)
    (fun _ _ => rfl) (fun _ => rfl) fun _ _ _ _ => rfl

/-- The step lemma of the selects. -/
lemma SelectInv.next {l : Label Co Ch α} (hS : SelectInv s) (h : next s l = some s') :
    SelectInv s' := by
  cases next_cases h with
  | @call c op p hp he =>
    refine ⟨fun k => ?_, fun ch b k n hn => ?_, fun k run hb => ?_⟩
    · by_cases hkc : k = c
      · rw [hkc, goto_pc_self]
        exact State.SelOk.mono (entry_selOk he) rfl fun _ => id
      · rw [goto_pc_of_ne _ _ hkc]
        exact (hS.sel k).mono rfl fun _ => id
    · have hkc : k ≠ c := by
        rintro rfl
        obtain ⟨run, lo, hw, -⟩ := hS.watch.entry ch b k n hn
        rw [hp] at hw
        cases hw
      rw [goto_pc_of_ne _ _ hkc]
      exact hS.watch.entry ch b k n hn
    · by_cases hkc : k = c
      · rw [hkc, goto_pc_self, entry_bound he] at hb
        cases hb
      · rw [goto_pc_of_ne _ _ hkc] at hb
        exact hS.watch.waiter k run hb
  | @run c e a p hp =>
    refine ⟨fun k => ?_, hS.watch.move hp⟩
    by_cases hkc : k = c
    · rw [hkc, goto_pc_self]
      exact (hp.selOk (hS.sel c)).mono rfl fun _ => id
    · rw [apply_goto_pc_of_ne hkc]
      exact (hS.sel k).mono (apply_transfers_of_ne a hkc) fun ch => (grows_apply a ch).isClosed
  | @wait c w l hw =>
    refine ⟨fun k => (hS.sel k).mono rfl fun _ => id, hS.watch.entry, fun k run hb => ?_⟩
    rw [(later_setWait hw k).n]
    exact hS.watch.waiter k run hb

/-- The invariant of the selects holds in every reachable state. -/
lemma selectInv_of_reachable (h : (system Co Ch α).Reachable s) : SelectInv s := by
  refine System.Reachable.induct (I := SelectInv) ?_ (fun _ _ _ hS hs => hS.next hs) h
  rintro _ ⟨size, rfl⟩
  refine ⟨fun k => trivial, fun ch b k n hn => ?_, fun k run hb => ?_⟩
  · cases b <;> cases hn
  · cases hb

/-- A `CoSelect` moves at most one item, on the case it returns, and leaves no watcher behind. -/
structure OneCase (s : State Co Ch α) (c : Co) : Prop where
  /-- When `Run` begins, it knows what the coroutine has moved before. -/
  begins : ∀ cases timeoutMs hasDefault s',
    next s (.call c (.select cases timeoutMs hasDefault)) = some s' →
      s'.transfers c = s.transfers c ∧
        s'.pc c = .selTry { cases, timeoutMs, hasDefault, before := s.transfers c } .first 0
  /-- When `Run` returns: what it has moved on the channels and stored in the outputs. -/
  moved : ∀ run index, s.pc c = .returned (.select run index) →
    ∃ own, s.transfers c = run.before ++ own ∧ own.length ≤ 1 ∧
      (∀ t ∈ own, ∃ i, index = some i ∧
        ((∃ ch item, run.cases[i]? = some (.read ch) ∧ t = .read ch item ∧
            run.outs i = some item) ∨
          ∃ ch val, run.cases[i]? = some (.write ch val) ∧ t = .wrote ch val)) ∧
      (∀ j item, run.outs j = some item →
        index = some j ∧ ∃ ch, own = [.read ch item]) ∧
      (index = none → own = []) ∧
      (∀ i, index = some i → own = [] →
        ∃ case, run.cases[i]? = some case ∧ (s.chan case.ch).isClosed = true)
  /-- What a step of the coroutine moves is recorded for it, and changes the channels and no others:
  what is brought is appended to the items of its channel, what is taken is taken from their
  front. -/
  recorded : ∀ e s', next s (.run c e) = some s' →
    s'.transfers c = s.transfers c ++ s.moved (.run c e) ∧
      ∀ ch, (s.chan ch).itemQueue ++ writtenTo ch (s.moved (.run c e)) =
        readFrom ch (s.moved (.run c e)) ++ (s'.chan ch).itemQueue
  /-- No other step records anything for the coroutine. -/
  others : ∀ l s', next s l = some s' → (∀ e, l ≠ .run c e) → s'.transfers c = s.transfers c
  /-- Outside its operations the coroutine watches no channel. -/
  unwatched : (s.pc c = .idle ∨ ∃ ret, s.pc c = .returned ret) →
    ∀ ch b n, some (c, n) ∉ watchers (s.chan ch) b

/-- However the users of the channels interleave, a `CoSelect` moves on exactly the case that it
returns. -/
theorem oneCase_of_reachable (h : (system Co Ch α).Reachable s) (c : Co) : OneCase s c := by
  have hS := selectInv_of_reachable h
  refine ⟨fun cases ms d s' hs => ?_, fun run index hp => ?_, fun e s' hs => ?_,
    fun l s' hs hl => next_transfers_of_ne hs hl, fun hp ch b n he => ?_⟩
  · simp only [next] at hs
    split at hs
    · obtain ⟨p, he, rfl⟩ := Option.map_eq_some_iff.mp hs
      simp only [State.entry] at he
      split at he <;> cases he
      exact ⟨rfl, goto_pc_self ..⟩
    · cases hs
  · have hsel := hS.sel c
    rw [hp] at hsel
    obtain ⟨own, hown, hh⟩ := hsel
    refine ⟨own, hown, ?_⟩
    cases hh with
    | nothing ho => simp [ho]
    | closed hi hc ho =>
      refine ⟨by simp, by simp, by simp [ho], by simp, ?_⟩
      rintro _ ⟨⟩ -
      exact ⟨_, hi, hc⟩
    | @read i ch item hi ho hn =>
      refine ⟨by simp, ?_, fun j item' hj => ?_, by simp, by simp⟩
      · simp only [List.mem_singleton, forall_eq]
        exact ⟨i, rfl, .inl ⟨ch, item, hi, rfl, ho⟩⟩
      · have hij : j = i := by
          by_contra hne
          rw [hn j hne] at hj
          cases hj
        subst hij
        rw [ho] at hj
        cases hj
        exact ⟨rfl, ch, rfl⟩
    | @wrote i ch val hi ho =>
      refine ⟨by simp, ?_, by simp [ho], by simp, by simp⟩
      simp only [List.mem_singleton, forall_eq]
      exact ⟨i, rfl, .inr ⟨ch, val, hi, rfl⟩⟩
  · exact ⟨(next_moves hs).transfers, (next_moves hs).items⟩
  · obtain ⟨run, lo, hw, -⟩ := hS.watch.entry ch b c n he
    rcases hp with hp | ⟨ret, hp⟩ <;> rw [hp] at hw <;> cases hw

/-- What the select of `c` has just returned. -/
def State.returnedIndex (s : State Co Ch α) (c : Co) : Option (Option ℕ) :=
  match s.pc c with
  | .returned (.select _ index) => some index
  | _ => none

/-- The select of `a` waits to read `inbox` or to write `outbox`, which `b` has filled, and then
`b` writes an item to `inbox`. -/
def selectRead (a b : Co) (inbox outbox : Ch) : List (Label Co Ch ℕ) :=
  [performs b (.write .write outbox 7) 3,
    performs a (.select [.write outbox 8, .read inbox] (-1) false) 17,
    performs b (.write .write inbox 9) 3, List.replicate 10 (.run a .none)].flatten

/-- The item is moved and stored by the case that is returned. -/
theorem oneCase_selectRead : ∃ s : State (Fin 2) (Fin 2) ℕ,
    s.returnedIndex 0 = some (some 1) ∧ OneCase s 0 := by
  have h : (system (Fin 2) (Fin 2) ℕ).endsIn (init fun _ => 1) (selectRead 0 1 0 1)
      (fun s => s.returnedIndex 0 = some (some 1)) = true := by
    decide
  obtain ⟨s, hs, hp⟩ := System.exists_of_endsIn (A := system (Fin 2) (Fin 2) ℕ) ⟨_, rfl⟩ h
  exact ⟨s, hp, oneCase_of_reachable hs 0⟩

end

end BbtCoroutine.Chan
