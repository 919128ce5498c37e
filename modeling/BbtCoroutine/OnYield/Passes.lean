import BbtCoroutine.OnYield.Records
import BbtCoroutine.Transition.Family

/-!
# The assertions of `DebugMgr` hold

Of the events of a coroutine at most one is parked or being completed at a time, and then no driver
has the coroutine; so the record that a trigger erases is there, and the coroutine that is handed
to the scheduler has none.
-/

namespace BbtCoroutine.OnYield

open Transition

variable {ι : Type*} {s s' : State} {sh sh' : Shared} {pc : Pc} {frames : List Frame} {i k : ℕ}

/-! ## Parks -/

/-- Neither a coroutine nor a driver is at work. -/
def Pc.away : Pc → Bool
  | ready | destroyed => true
  | _ => false

/-- The call completes an event. -/
def Frame.completing : Frame → Bool
  | complete _ _ _ => true
  | _ => false

/-- No event is parked. -/
def Shared.Unparked (sh : Shared) : Prop :=
  ∀ k, sh.round k ≠ .parked

/-- What has become of the last park. -/
inductive Parks (sh : Shared) (pc : Pc) (frames : List Frame) : Prop
  /-- The coroutine is not parked. -/
  | idle (hd : sh.driven = true ∨ pc.away = true) (hr : sh.Unparked)
      (hf : ∀ f ∈ frames, f.completing = false)
  /-- The event `k` is parked. -/
  | parked (k : ℕ) (hd : sh.driven = false) (hp : pc.away = true)
      (hr : ∀ j, sh.round j = .parked → j = k) (hf : ∀ f ∈ frames, f.completing = false)
      (he : sh.eventDestroyed k = false → sh.debug.eventMap k = true)
  /-- The call `n` completes the event `k`. -/
  | completes (n k : ℕ) (m : EventMask) (st : Stage) (hd : sh.driven = false)
      (hp : pc.away = true) (hr : sh.Unparked) (hn : frames[n]? = some (.complete k m st))
      (hf : ∀ j f, frames[j]? = some f → j ≠ n → f.completing = false) (he : st.Records sh k)

/-- The records fit, and the calls of other parties hold on to events that exist. -/
structure Matched (s : State) : Prop where
  books : Books s.shared s.pc
  parks : Parks s.shared s.pc s.frames
  holds : ∀ f ∈ s.frames, ∀ k, f.holds = some k → s.shared.alive k = true

/-! ## Steps of the driver -/

/-- What a step of the coroutine or of its driver leaves of the parks, `CommitPark` apart. -/
structure Calm (sh sh' : Shared) : Prop where
  next : sh.next ≤ sh'.next
  destroyed : sh'.eventDestroyed = sh.eventDestroyed
  driven : sh.driven = true → sh'.driven = true
  round : ∀ k, sh'.round k = .parked → sh.round k = .parked

/-- Nothing happens in a calm step that changes nothing. -/
@[refl] lemma Calm.refl (sh : Shared) : Calm sh sh :=
  ⟨le_rfl, rfl, id, fun _ => id⟩

/-- The rounds are left as they are. -/
lemma Calm.of_round (hn : sh.next ≤ sh'.next) (hd : sh'.eventDestroyed = sh.eventDestroyed)
    (hv : sh'.driven = sh.driven) (hr : sh'.round = sh.round) : Calm sh sh' :=
  ⟨hn, hd, fun h => hv.trans h, fun k h => by rwa [hr] at h⟩

/-- One round changes, and is not parked. -/
lemma Calm.setRound (sh : Shared) (k : ℕ) {r : Round} (hr : r ≠ .parked) :
    Calm sh (sh.setRound k r) := by
  refine ⟨le_rfl, rfl, id, fun j h => ?_⟩
  by_cases hj : j = k
  · subst hj
    simp only [Shared.setRound, Function.update_self] at h
    exact absurd h hr
  · simpa only [Shared.setRound, Function.update_of_ne hj] using h

/-- A withdrawal does not park a round. -/
lemma Round.unRegist_ne_parked (r : Round) : r.unRegist ≠ .parked := by
  cases r <;> nofun

/-- The callback makes a step of its own. -/
lemma Calm.callback {st : Step} {e : Env} {r : Shared × Step} (hs : st.step sh e = some r) :
    Calm sh r.1 := by
  cases st with
  | user v => cases hs
  | loadAwait =>
    obtain rfl := Option.some.inj hs
    unfold loadAwaitEvent
    split
    · exact .refl sh
    · dsimp only
      split
      · exact .setRound sh _ (Round.unRegist_ne_parked _)
      · exact .refl sh
  | checkCancel k | regist k aw | trackWaiter k aw =>
    obtain rfl := Option.some.inj hs
    exact .refl sh
  | cancel k | closed k aw =>
    obtain rfl := Option.some.inj hs
    exact .setRound sh k (Round.trigger_ne_parked _ _)
  | unRegist k aw =>
    obtain rfl := Option.some.inj hs
    exact .setRound sh k (Round.unRegist_ne_parked _)
  | listen k aw =>
    obtain rfl := Option.some.inj hs
    unfold listenEvent
    cases sh.round k with
    | inited =>
      dsimp only
      split <;> exact .setRound sh k nofun
    | armed | parked | pending m | final m | cancelled => exact .refl sh
  | record k aw armed =>
    obtain rfl := Option.some.inj hs
    exact .of_round le_rfl rfl rfl rfl
  | failed aw =>
    obtain rfl := Option.some.inj hs
    cases aw <;> exact .of_round le_rfl rfl rfl rfl

/-- The completion of an event. -/
lemma Calm.complete {st : Stage} {r : Shared × Option Stage} (hs : st.step sh k = some r) :
    Calm sh r.1 := by
  cases st with
  | trigger | clear =>
    obtain rfl := Option.some.inj hs
    exact .of_round le_rfl rfl rfl rfl
  | store =>
    simp only [Stage.step] at hs
    split at hs
    · cases hs
    · obtain rfl := Option.some.inj hs
      exact .refl sh
  | active =>
    obtain rfl := Option.some.inj hs
    exact ⟨le_rfl, rfl, fun _ => rfl, fun _ => id⟩

/-- The coroutine or its driver goes on. -/
lemma Calm.step {e : Env} {r : Shared × Pc} (hs : pc.step sh e = some r) :
    Calm sh r.1 ∨ ∃ k, pc = .commitPark k ∧ r = commitPark sh k := by
  cases pc with
  | ready | running | returned | final | destroyed => cases hs
  | switched p =>
    refine .inl ?_
    cases p with
    | main | yield =>
      obtain rfl := Option.some.inj hs
      exact .refl sh
    | yieldWithCallback i =>
      obtain rfl := Option.some.inj hs
      split <;> exact .of_round le_rfl rfl rfl rfl
    | done => cases hs
  | store i =>
    simp only [Pc.step, storeCallback] at hs
    split at hs
    · cases hs
    · split at hs <;>
      · obtain rfl := Option.some.inj hs
        exact .inl (.of_round le_rfl rfl rfl rfl)
  | threw i | continues i | check | exit =>
    obtain rfl := Option.some.inj hs
    exact .inl (.of_round le_rfl rfl rfl rfl)
  | callback i st =>
    obtain ⟨r', hr, rfl⟩ := Option.map_eq_some_iff.mp hs
    exact .inl (.callback hr)
  | commitPark k =>
    obtain rfl := Option.some.inj hs
    exact .inr ⟨k, rfl, rfl⟩
  | complete k m st =>
    obtain ⟨r', hr, rfl⟩ := Option.map_eq_some_iff.mp hs
    exact .inl (.complete hr)
  | exception =>
    obtain rfl := Option.some.inj hs
    exact .inl (.refl sh)
  | exceptionUnRegist k =>
    obtain rfl := Option.some.inj hs
    have hc := Calm.setRound sh k (Round.unRegist_ne_parked (sh.round k))
    exact .inl ⟨hc.next, hc.destroyed, hc.driven, hc.round⟩

/-- The function of the coroutine makes a step. -/
lemma Calm.run {l : Label} {r : Shared × Pc} (hs : run sh l = some r) : Calm sh r.1 := by
  unfold OnYield.run at hs
  split at hs
  · split at hs
    · obtain rfl := Option.some.inj hs
      exact .of_round (Nat.le_succ _) rfl rfl rfl
    · cases hs
  · obtain rfl := Option.some.inj hs
    exact .of_round le_rfl rfl rfl rfl
  · obtain rfl := Option.some.inj hs
    exact .of_round le_rfl rfl rfl rfl
  · split at hs
    · unfold OnYield.yield at hs
      split at hs
      · obtain rfl := Option.some.inj hs
        exact .of_round le_rfl rfl rfl rfl
      · obtain rfl := Option.some.inj hs
        exact .of_round le_rfl rfl rfl rfl
      · obtain rfl := Option.some.inj hs
        exact .of_round le_rfl rfl rfl rfl
      · cases hs
    · cases hs

/-- The code of a callback makes a step. -/
lemma Calm.runCallback {l : Label} {r : Shared × Pc} (hs : runCallback sh i l = some r) :
    Calm sh r.1 := by
  unfold OnYield.runCallback at hs
  split at hs
  · obtain rfl := Option.some.inj hs
    exact .refl sh
  · split at hs
    · obtain rfl := Option.some.inj hs
      exact .refl sh
    · cases hs
  · rename_i ok
    cases ok with
    | true =>
      obtain rfl := Option.some.inj hs
      exact .of_round le_rfl rfl rfl rfl
    | false =>
      obtain ⟨p, -, rfl⟩ := Option.map_eq_some_iff.mp hs
      exact .of_round le_rfl rfl rfl rfl
  · cases hs

/-- Every step of the coroutine or of its driver is calm, `CommitPark` apart. -/
lemma Calm.drive {l : Label} {r : Shared × Pc} (hs : drive sh pc l = some r) :
    Calm sh r.1 ∨ ∃ k, pc = .commitPark k ∧ r = commitPark sh k := by
  unfold OnYield.drive at hs
  split at hs
  · exact Calm.step hs
  · refine .inl ?_
    split at hs
    · unfold OnYield.resume at hs
      split at hs
      · obtain ⟨p, -, rfl⟩ := Option.map_eq_some_iff.mp hs
        exact .of_round le_rfl rfl rfl rfl
      · cases hs
    · cases hs
  · refine .inl ?_
    split at hs
    · unfold OnYield.commitYield at hs
      split at hs
      · obtain rfl := Option.some.inj hs
        exact .of_round le_rfl rfl rfl rfl
      · split at hs
        · obtain rfl := Option.some.inj hs
          exact .refl sh
        · cases hs
        · obtain rfl := Option.some.inj hs
          exact .refl sh
    · cases hs
  · refine .inl ?_
    split at hs
    · obtain rfl := Option.some.inj hs
      exact .of_round le_rfl rfl rfl rfl
    · cases hs
  · refine .inl ?_
    split at hs
    · exact .run hs
    · exact .runCallback hs
    · cases hs

/-- An event that is alive stays alive in a calm step. -/
lemma Calm.alive (h : Calm sh sh') (hk : sh.alive k = true) : sh'.alive k = true := by
  rw [Shared.alive, Bool.and_eq_true, decide_eq_true_eq] at hk ⊢
  rw [h.destroyed]
  exact ⟨hk.1.trans_le h.next, hk.2⟩

/-- A coroutine that is not parked is not parked by a calm step. -/
lemma Calm.unparked (h : Calm sh sh') (hr : sh.Unparked) : sh'.Unparked :=
  fun k hk => hr k (h.round k hk)

/-- An event that is alive is alive after the commit of a park. -/
lemma commitPark_alive (sh : Shared) (j k : ℕ) :
    (OnYield.commitPark sh j).1.alive k = sh.alive k := by
  unfold OnYield.commitPark
  cases sh.round j <;> rfl

/-- While the coroutine or a driver is at work, nothing is parked. -/
lemma Parks.at_work (h : Parks sh pc frames) (hp : pc.away = false) :
    sh.driven = true ∧ sh.Unparked ∧ ∀ f ∈ frames, f.completing = false := by
  cases h with
  | idle hd hr hf => exact ⟨hd.resolve_right (by rw [hp]; decide), hr, hf⟩
  | parked k _ hp' =>
    rw [hp] at hp'
    cases hp'
  | completes n k m st _ hp' =>
    rw [hp] at hp'
    cases hp'

/-- Nothing is parked either while a driver has the coroutine. -/
lemma Parks.of_driven (h : Parks sh pc frames) (hd : sh.driven = true) :
    sh.Unparked ∧ ∀ f ∈ frames, f.completing = false := by
  cases h with
  | idle _ hr hf => exact ⟨hr, hf⟩
  | parked k hd' =>
    rw [hd] at hd'
    cases hd'
  | completes n k m st hd' =>
    rw [hd] at hd'
    cases hd'

/-- The park is committed. -/
lemma Parks.commitPark (h : Parks sh (.commitPark k) frames) (he : sh.debug.eventMap k = true) :
    Parks (commitPark sh k).1 (commitPark sh k).2 frames := by
  obtain ⟨hd, hr, hf⟩ := h.at_work rfl
  have hready : ∀ r : Round, r ≠ .parked →
      Parks { sh.setRound k r with driven := false } .ready frames := fun r hne =>
    .idle (.inr rfl) ((Calm.setRound sh k hne).unparked hr) hf
  unfold OnYield.commitPark
  cases hk : sh.round k with
  | pending m =>
    have hne : Round.final m ≠ .parked := nofun
    exact .idle (.inl hd) ((Calm.setRound sh k hne).unparked hr) hf
  | armed =>
    refine .parked k rfl rfl (fun j hj => ?_) hf fun _ => he
    by_contra hne
    refine hr j ?_
    simpa only [Shared.setRound, Function.update_of_ne hne] using hj
  | inited => exact hready .inited nofun
  | final m => exact hready (.final m) nofun
  | cancelled => exact hready .cancelled nofun
  | parked => exact absurd hk (hr k)

/-- The coroutine is destroyed. -/
lemma Parks.destroy (h : Parks sh pc frames) :
    Parks { sh with awaitEvent := none, debug := sh.debug.onEventDestroyCo } .destroyed
      frames := by
  cases h with
  | idle _ hr hf => exact .idle (.inr rfl) hr hf
  | parked k hd _ hr hf he => exact .parked k hd rfl hr hf he
  | completes n k m st hd _ hr hn hf he =>
    refine .completes n k m st hd rfl hr hn hf ?_
    cases st with
    | trigger => exact he
    | store => trivial
    | clear => trivial
    | active => rfl

/-- A parked coroutine can be resumed once a driver has it, and destroyed. -/
lemma Parks.away {l : Label} {r : Shared × Pc} (h : Parks s.shared s.pc s.frames)
    (hp : s.pc.away = true) (hC : Correct s l) (hs : drive s.shared s.pc l = some r) :
    Parks r.1 r.2 s.frames := by
  unfold OnYield.drive at hs
  split at hs
  · cases hpc : s.pc with
    | ready | destroyed =>
      rw [hpc] at hs
      cases hs
    | _ =>
      rw [hpc] at hp
      cases hp
  · split at hs
    · obtain ⟨hr, hf⟩ := h.of_driven hC.1
      unfold OnYield.resume at hs
      split at hs
      · obtain ⟨p, -, rfl⟩ := Option.map_eq_some_iff.mp hs
        exact .idle (.inl hC.1) hr hf
      · cases hs
    · cases hs
  · split at hs
    · rename_i hpc
      rw [hpc] at hp
      cases hp
    · cases hs
  · split at hs
    · obtain rfl := Option.some.inj hs
      exact h.destroy
    · cases hs
  · split at hs
    · rename_i hpc
      rw [hpc] at hp
      cases hp
    · rename_i hpc
      rw [hpc] at hp
      cases hp
    · cases hs

/-- The coroutine or its driver makes a step. -/
lemma Matched.drive {l : Label} {r : Shared × Pc} (hI : Inv s) (h : Matched s)
    (hC : Correct s l) (hP : ClearsAwait s l) (hs : drive s.shared s.pc l = some r) :
    Matched { s with shared := r.1, pc := r.2 } := by
  have hb := h.books.drive hI hC hP hs
  have hc := Calm.drive hs
  refine ⟨hb, ?_, fun f hf k hk => ?_⟩
  · cases hp : s.pc.away with
    | false =>
      obtain ⟨hd, hr, hf⟩ := h.parks.at_work hp
      obtain hc | ⟨k, hpc, rfl⟩ := hc
      · exact .idle (.inl (hc.driven hd)) (hc.unparked hr) hf
      · have hpk := h.parks
        have hbk := h.books.records
        rw [hpc] at hpk hbk
        exact hpk.commitPark hbk
    | true => exact h.parks.away hp hC hs
  · obtain hc | ⟨j, -, rfl⟩ := hc
    · exact hc.alive (h.holds f hf k hk)
    · rw [commitPark_alive]
      exact h.holds f hf k hk

/-! ## Steps of other parties -/

/-- A call that completes nothing goes on, and completes nothing. -/
lemma Parks.set {n : ℕ} {f f' : Frame} (h : Parks sh pc frames) (hn : frames[n]? = some f)
    (hf : f.completing = false) (hf' : f'.completing = false) :
    Parks sh pc (frames.set n f') := by
  have hmem : (∀ g ∈ frames, g.completing = false) →
      ∀ g ∈ frames.set n f', g.completing = false := fun hall g hg => by
    obtain hg | rfl := List.mem_or_eq_of_mem_set hg
    · exact hall g hg
    · exact hf'
  cases h with
  | idle hd hr hall => exact .idle hd hr (hmem hall)
  | parked k hd hp hr hall he => exact .parked k hd hp hr (hmem hall) he
  | completes j k m st hd hp hr hj hall he =>
    have hne : n ≠ j := by
      rintro rfl
      rw [hn] at hj
      rw [Option.some.inj hj] at hf
      cases hf
    refine .completes j k m st hd hp hr ?_ (fun i g hg hi => ?_) he
    · rw [List.getElem?_set_ne hne, hj]
    · by_cases hin : i = n
      · subst hin
        rw [List.getElem?_set_self (List.getElem?_eq_some_iff.mp hn).1] at hg
        rw [← Option.some.inj hg]
        exact hf'
      · rw [List.getElem?_set_ne (Ne.symm hin)] at hg
        exact hall i g hg hi

/-- A call begins. -/
lemma Parks.begin {f : Frame} (h : Parks sh pc frames) (hf : f.completing = false) :
    Parks sh pc (frames ++ [f]) := by
  have hmem : (∀ g ∈ frames, g.completing = false) →
      ∀ g ∈ frames ++ [f], g.completing = false := fun hall g hg => by
    obtain hg | hg := List.mem_append.mp hg
    · exact hall g hg
    · rw [List.mem_singleton.mp hg]
      exact hf
  cases h with
  | idle hd hr hall => exact .idle hd hr (hmem hall)
  | parked k hd hp hr hall he => exact .parked k hd hp hr (hmem hall) he
  | completes j k m st hd hp hr hj hall he =>
    have hlt := (List.getElem?_eq_some_iff.mp hj).1
    refine .completes j k m st hd hp hr ?_ (fun i g hg hi => ?_) he
    · rw [List.getElem?_append_left hlt, hj]
    · by_cases hil : i < frames.length
      · rw [List.getElem?_append_left hil] at hg
        exact hall i g hg hi
      · rw [List.getElem?_append_right (Nat.le_of_not_lt hil)] at hg
        have hmem := List.mem_of_getElem? hg
        rw [List.mem_singleton.mp hmem]
        exact hf

/-- A round changes that is not parked after it. -/
lemma Parks.setRound {r : Round} (h : Parks sh pc frames) (k : ℕ) (hr : r ≠ .parked) :
    Parks (sh.setRound k r) pc frames := by
  have hc := Calm.setRound sh k hr
  cases h with
  | idle hd hu hf => exact .idle hd (hc.unparked hu) hf
  | parked j hd hp hu hf he => exact .parked j hd hp (fun i hi => hu i (hc.round i hi)) hf he
  | completes n j m st hd hp hu hn hf he =>
    refine .completes n j m st hd hp (hc.unparked hu) hn hf ?_
    cases st <;> exact he

/-- A cancellation is requested. -/
lemma Parks.requestCancel (h : Parks sh pc frames) :
    Parks { sh with cancelRequested := true } pc frames := by
  cases h with
  | idle hd hr hf => exact .idle hd hr hf
  | parked k hd hp hr hf he => exact .parked k hd hp hr hf he
  | completes n k m st hd hp hr hn hf he =>
    refine .completes n k m st hd hp hr hn hf ?_
    cases st <;> exact he

/-- A trigger completes the event that is parked, and no other. -/
lemma Parks.trigger {n : ℕ} {m : EventMask} (h : Parks sh pc frames)
    (hn : frames[n]? = some (.trigger k m)) (hk : sh.alive k = true) :
    Parks (sh.setRound k ((sh.round k).trigger m)) pc
      (frames.set n (if sh.round k = .parked then .complete k m .trigger else .returned)) := by
  have hne := Round.trigger_ne_parked (sh.round k) m
  split
  · rename_i hpk
    cases h with
    | idle _ hr => exact absurd hpk (hr k)
    | completes _ _ _ _ _ _ hr => exact absurd hpk (hr k)
    | parked j hd hp hr hf he =>
      obtain rfl := hr k hpk
      have hlt := (List.getElem?_eq_some_iff.mp hn).1
      have hd' : sh.eventDestroyed k = false := by
        simp only [Shared.alive, Bool.and_eq_true, Bool.not_eq_true'] at hk
        exact hk.2
      refine .completes n k m .trigger hd hp (fun j hj => ?_) (List.getElem?_set_self hlt)
        (fun i f hi hin => ?_) (he hd')
      · have hjk := hr j ((Calm.setRound sh k hne).round j hj)
        subst hjk
        simp only [Shared.setRound, Function.update_self] at hj
        exact hne hj
      · rw [List.getElem?_set_ne (Ne.symm hin)] at hi
        exact hf f (List.mem_of_getElem? hi)
  · exact (h.set hn rfl rfl).setRound k hne

/-- A call that completes an event is the only one, and nobody is at work. -/
lemma Parks.complete {n : ℕ} {m : EventMask} {st : Stage} (h : Parks sh pc frames)
    (hn : frames[n]? = some (.complete k m st)) :
    sh.driven = false ∧ pc.away = true ∧ sh.Unparked ∧ st.Records sh k ∧
      ∀ j f, frames[j]? = some f → j ≠ n → f.completing = false := by
  cases h with
  | idle _ _ hf => cases hf _ (List.mem_of_getElem? hn)
  | parked _ _ _ _ hf => cases hf _ (List.mem_of_getElem? hn)
  | completes j k' m' st' hd hp hr hj hf he =>
    have hnj : n = j := by
      by_contra hne
      cases hf n _ hn hne
    subst hnj
    rw [hn] at hj
    cases Option.some.inj hj
    exact ⟨hd, hp, hr, he, hf⟩

/-- The records while nobody is at work. -/
lemma Books.away (ht : Tables sh) (hc : sh.debug.coMap = false) (hp : pc.away = true)
    (hf : sh.driven = true → sh.Fresh) : Books sh pc := by
  cases pc with
  | ready => exact ⟨ht, hc, free rfl, hf⟩
  | destroyed => exact ⟨ht, hc, free rfl, trivial⟩
  | _ => cases hp

/-- A coroutine that is away is not in the table of the coroutines. -/
lemma Books.coMap_of_away (h : Books sh pc) (hp : pc.away = true) : sh.debug.coMap = false := by
  cases pc with
  | ready | destroyed => exact h.coMap
  | _ => cases hp

/-- The completion of an event by a call makes a step. -/
lemma Matched.complete {n : ℕ} {m : EventMask} {st : Stage} {r : Shared × Option Stage}
    (h : Matched s) (hn : s.frames[n]? = some (.complete k m st))
    (hs : st.step s.shared k = some r) :
    Books r.1 s.pc ∧ Parks r.1 s.pc (s.frames.set n ((r.2.map (Frame.complete k m)).getD
      .returned)) := by
  obtain ⟨hd, hp, hr, he, hf⟩ := h.parks.complete hn
  have hc := h.books.coMap_of_away hp
  have ht := h.books.tables
  have hlt := (List.getElem?_eq_some_iff.mp hn).1
  have hnd : ∀ {p : Prop}, s.shared.driven = true → p := fun hd' => by
    rw [hd] at hd'
    cases hd'
  have hset : ∀ f' j f, (s.frames.set n f')[j]? = some f → j ≠ n → f.completing = false :=
    fun f' j f hj hne => by
      rw [List.getElem?_set_ne (Ne.symm hne)] at hj
      exact hf j f hj hne
  cases st with
  | trigger =>
    obtain rfl := Option.some.inj hs
    rw [Debug.onEventTriggerEvent_eq he]
    exact ⟨.away ht.trigger hc hp hnd,
      .completes n k m .store hd hp hr (List.getElem?_set_self hlt) (hset _) trivial⟩
  | store =>
    simp only [Stage.step] at hs
    split at hs
    · cases hs
    · obtain rfl := Option.some.inj hs
      exact ⟨.away ht hc hp hnd,
        .completes n k m .clear hd hp hr (List.getElem?_set_self hlt) (hset _) trivial⟩
  | clear =>
    obtain rfl := Option.some.inj hs
    exact ⟨.away (ht.mono rfl rfl (.inr rfl) rfl fun _ hk => hk) hc hp hnd,
      .completes n k m .active hd hp hr (List.getElem?_set_self hlt) (hset _) rfl⟩
  | active =>
    obtain rfl := Option.some.inj hs
    rw [Debug.checkIsResumedCo_eq hc]
    refine ⟨.away (ht.mono rfl rfl (.inl rfl) rfl fun _ hk => hk) hc hp fun _ => .of_none he,
      .idle (.inl rfl) hr fun f hfm => ?_⟩
    obtain ⟨j, hj⟩ := List.getElem?_of_mem hfm
    by_cases hjn : j = n
    · subst hjn
      rw [List.getElem?_set_self hlt] at hj
      rw [← Option.some.inj hj]
      rfl
    · exact hset _ j f hj hjn

/-- A call holds on to the event that it was made for, or to the one that it has loaded. -/
lemma Frame.step_alive {f : Frame} {r : Shared × Frame} (ht : Tables sh)
    (hf : ∀ k, f.holds = some k → sh.alive k = true) (hs : f.step sh = some r) :
    r.1.alive = sh.alive ∧ ∀ k, r.2.holds = some k → sh.alive k = true := by
  cases f with
  | requestCancel =>
    obtain rfl := Option.some.inj hs
    exact ⟨rfl, nofun⟩
  | loadAwait =>
    obtain rfl := Option.some.inj hs
    refine ⟨rfl, fun k hk => ht.await k ?_⟩
    dsimp only at hk
    cases ha : sh.awaitEvent with
    | none =>
      rw [ha] at hk
      cases hk
    | some j =>
      rw [ha] at hk
      exact hk
  | trigger k m =>
    obtain rfl := Option.some.inj hs
    split
    · exact ⟨rfl, nofun⟩
    · refine ⟨rfl, fun j hj => hf j ?_⟩
      dsimp only at hj
      split at hj
      · exact hj
      · cases hj
  | complete k m st =>
    obtain ⟨r', hr, rfl⟩ := Option.map_eq_some_iff.mp hs
    have hk := hf k rfl
    have hc : r'.1.alive = sh.alive := by
      cases st with
      | trigger | clear | active =>
        obtain rfl := Option.some.inj hr
        rfl
      | store =>
        simp only [Stage.step] at hr
        split at hr
        · cases hr
        · obtain rfl := Option.some.inj hr
          rfl
    refine ⟨hc, fun j hj => ?_⟩
    dsimp only at hj
    cases hst : r'.2 with
    | none =>
      rw [hst] at hj
      cases hj
    | some st' =>
      rw [hst] at hj
      exact hf j hj
  | returned => cases hs

/-- A call of another party makes a step. -/
lemma Matched.call {n : ℕ} {f : Frame} {r : Shared × Frame} (h : Matched s)
    (hn : s.frames[n]? = some f) (hs : f.step s.shared = some r) :
    Matched { s with shared := r.1, frames := s.frames.set n r.2 } := by
  obtain ⟨hal, hho⟩ := Frame.step_alive h.books.tables (h.holds f (List.mem_of_getElem? hn)) hs
  have hbp : Books r.1 s.pc ∧ Parks r.1 s.pc (s.frames.set n r.2) := by
    cases f with
    | requestCancel =>
      obtain rfl := Option.some.inj hs
      exact ⟨h.books.other _ true, (h.parks.set hn rfl rfl).requestCancel⟩
    | loadAwait =>
      obtain rfl := Option.some.inj hs
      refine ⟨h.books, h.parks.set hn rfl ?_⟩
      cases s.shared.awaitEvent <;> rfl
    | trigger k m =>
      obtain rfl := Option.some.inj hs
      split
      · exact ⟨h.books, h.parks.set hn rfl rfl⟩
      · exact ⟨h.books.setRound k _,
          h.parks.trigger hn (h.holds _ (List.mem_of_getElem? hn) k rfl)⟩
    | complete k m st =>
      obtain ⟨r', hr, rfl⟩ := Option.map_eq_some_iff.mp hs
      exact h.complete hn hr
    | returned => cases hs
  refine ⟨hbp.1, hbp.2, fun g hg k hk => ?_⟩
  rw [hal]
  obtain hg | rfl := List.mem_or_eq_of_mem_set hg
  · exact h.holds g hg k hk
  · exact hho k hk

/-- A call begins. -/
lemma Matched.begin {f : Frame} (h : Matched s) (hc : f.completing = false)
    (hf : ∀ k, f.holds = some k → s.shared.alive k = true) :
    Matched { s with frames := s.frames ++ [f] } := by
  refine ⟨h.books, h.parks.begin hc, fun g hg k hk => ?_⟩
  obtain hg | hg := List.mem_append.mp hg
  · exact h.holds g hg k hk
  · rw [List.mem_singleton.mp hg] at hk
    exact hf k hk

/-! ## The last reference to an event goes away -/

/-- The event `k` is destroyed. -/
def Shared.destroyEvent (sh : Shared) (k : ℕ) : Shared :=
  { sh with
    eventDestroyed := Function.update sh.eventDestroyed k true
    debug := sh.debug.onEventDestroyEvent k }

/-- Destroying an event leaves the entries of the others alone. -/
lemma Shared.eventMap_destroyEvent {j : ℕ} (hj : j ≠ k) :
    (sh.destroyEvent k).debug.eventMap j = sh.debug.eventMap j := by
  simp only [destroyEvent, Debug.onEventDestroyEvent, Debug.setEvent, Function.update_of_ne hj]

/-- Destroying an event removes its entry. -/
lemma Shared.eventMap_destroyEvent_self : (sh.destroyEvent k).debug.eventMap k = false := by
  simp only [destroyEvent, Debug.onEventDestroyEvent, Debug.setEvent, Function.update_self]

/-- Destroying an event leaves the others alive. -/
lemma Shared.alive_destroyEvent {j : ℕ} (hj : j ≠ k) :
    (sh.destroyEvent k).alive j = sh.alive j := by
  simp only [alive, destroyEvent, Function.update_of_ne hj]
  rfl

/-- Destroying an event leaves the numbers to come unused. -/
lemma Shared.Fresh.destroyEvent (h : sh.Fresh) (k : ℕ) : (sh.destroyEvent k).Fresh := by
  intro j hj
  by_cases hjk : j = k
  · subst hjk
    exact eventMap_destroyEvent_self
  · rw [eventMap_destroyEvent hjk]
    exact h j hj

/-- Destroying an event that nobody awaits keeps the records. -/
lemma Shared.Recorded.destroyEvent (h : sh.Recorded) (hk : sh.awaitEvent ≠ some k) :
    (sh.destroyEvent k).Recorded := by
  intro j hj
  have hjk : j ≠ k := by
    rintro rfl
    exact hk hj
  rw [eventMap_destroyEvent hjk]
  exact h j hj

/-- The tables lose the record of an event that nobody holds on to. -/
lemma Tables.destroyEvent (h : Tables sh) (hk : sh.alive k = true)
    (ha : sh.awaitEvent ≠ some k) : Tables (sh.destroyEvent k) where
  asserted := h.asserted
  live j hj := by
    have hjk : j ≠ k := by
      rintro rfl
      rw [Shared.eventMap_destroyEvent_self] at hj
      cases hj
    rw [Shared.eventMap_destroyEvent hjk] at hj
    rw [Shared.alive_destroyEvent hjk]
    exact h.live j hj
  await j hj := by
    have hjk : j ≠ k := by
      rintro rfl
      exact ha hj
    rw [Shared.alive_destroyEvent hjk]
    exact h.await j hj
  destroyed j hj := by
    by_cases hjk : j = k
    · subst hjk
      simp only [Shared.alive, Bool.and_eq_true, decide_eq_true_eq] at hk
      exact hk.1
    · simp only [Shared.destroyEvent, Function.update_of_ne hjk] at hj
      exact h.destroyed j hj

/-- The callback does not see that another event is destroyed. -/
lemma Step.Records.destroyEvent {st : Step} (h : st.Records sh) (ha : sh.awaitEvent ≠ some k) :
    st.Records (sh.destroyEvent k) := by
  have hon : ∀ j, sh.awaitEvent = some j ∧ sh.debug.eventMap j = false →
      (sh.destroyEvent k).awaitEvent = some j ∧ (sh.destroyEvent k).debug.eventMap j = false := by
    rintro j ⟨hj, hm⟩
    have hjk : j ≠ k := by
      rintro rfl
      exact ha hj
    exact ⟨hj, by rw [Shared.eventMap_destroyEvent hjk, hm]⟩
  cases st with
  | user v =>
    rcases v with _ | _ | _
    · exact Shared.Fresh.destroyEvent h k
    · exact Shared.Fresh.destroyEvent h k
    · exact Shared.Recorded.destroyEvent h ha
  | loadAwait | unRegist j aw | failed aw => exact Shared.Fresh.destroyEvent h k
  | trackWaiter j aw | closed j aw => exact Shared.Recorded.destroyEvent h ha
  | checkCancel j | cancel j | regist j aw | listen j aw | record j aw armed => exact hon j h

/-- Destroying another event keeps the records of a completion. -/
lemma Stage.Records.destroyEvent {st : Stage} {j : ℕ} (h : st.Records sh j) (hj : j ≠ k) :
    st.Records (sh.destroyEvent k) j := by
  cases st with
  | trigger => exact (Shared.eventMap_destroyEvent hj).trans h
  | store => trivial
  | clear => trivial
  | active => exact h

/-- Neither does anybody else. -/
lemma Records.destroyEvent (h : Records sh pc) (ha : sh.awaitEvent ≠ some k)
    (hp : pc.holds ≠ some k) : Records (sh.destroyEvent k) pc := by
  have hne : ∀ j, pc.holds = some j → j ≠ k := by
    rintro j hj rfl
    exact hp hj
  cases pc with
  | running | continues i | switched p | threw i => exact Shared.Fresh.destroyEvent h k
  | store i => exact ⟨h.1.destroyEvent k, h.2.1, h.2.2⟩
  | check => exact ⟨h.1.destroyEvent k, fun hn => ⟨(h.2 hn).1, (h.2 hn).2⟩⟩
  | callback i st => exact ⟨⟨h.1.1, h.1.2⟩, h.2.destroyEvent ha⟩
  | returned => exact ⟨fun hd => (h.1 hd).destroyEvent ha, fun hd => (h.2 hd).destroyEvent k⟩
  | commitPark j => exact (Shared.eventMap_destroyEvent (hne j rfl)).trans h
  | complete j m st => exact Stage.Records.destroyEvent h (hne j rfl)
  | exception | exceptionUnRegist j | exit => exact ⟨h.1.destroyEvent k, h.2⟩
  | ready => exact fun hd => (h hd).destroyEvent k
  | final | destroyed => trivial

/-- An event that nobody holds on to is destroyed. -/
lemma Matched.destroyEvent (h : Matched s) (hk : s.shared.alive k = true)
    (ha : s.shared.awaitEvent ≠ some k) (hp : s.pc.holds ≠ some k)
    (hf : ∀ f ∈ s.frames, f.holds ≠ some k) :
    Matched { s with shared := s.shared.destroyEvent k } := by
  refine ⟨⟨h.books.tables.destroyEvent hk ha, h.books.coMap, fun j hj => ?_,
    h.books.records.destroyEvent ha hp⟩, ?_, fun f hfm j hj => ?_⟩
  · have hjk : j ≠ k := by
      rintro rfl
      exact hp hj
    rw [Shared.alive_destroyEvent hjk]
    exact h.books.holds j hj
  · cases h.parks with
    | idle hd hr hfc => exact .idle hd hr hfc
    | parked j hd hpa hr hfc he =>
      refine .parked j hd hpa hr hfc fun hdj => ?_
      by_cases hjk : j = k
      · subst hjk
        simp [Shared.destroyEvent] at hdj
      · simp only [Shared.destroyEvent, Function.update_of_ne hjk] at hdj
        rw [Shared.eventMap_destroyEvent hjk]
        exact he hdj
    | completes n j m st hd hpa hr hn hfc he =>
      have hjk : j ≠ k := by
        rintro rfl
        exact hf _ (List.mem_of_getElem? hn) rfl
      exact .completes n j m st hd hpa hr hn hfc (he.destroyEvent hjk)
  · have hjk : j ≠ k := by
      rintro rfl
      exact hf f hfm hj
    rw [Shared.alive_destroyEvent hjk]
    exact h.holds f hfm j hj

/-- A party other than the driver drops its registration of an event. -/
lemma Parks.unRegist (h : Parks sh pc frames) (k : ℕ) :
    Parks (sh.setRound k (sh.round k).unRegist) pc frames :=
  h.setRound k (Round.unRegist_ne_parked _)

/-! ## The runs -/

/-- Every step of a correct run keeps the records, if no callback reports failure while the
coroutine still awaits an event. -/
lemma Matched.next {l : Label} (hI : Inv s) (h : Matched s) (hC : Correct s l)
    (hP : ClearsAwait s l) (hs : next s l = some s') : Matched s' := by
  unfold OnYield.next at hs
  split at hs
  · obtain rfl := Option.some.inj hs
    exact h.begin rfl nofun
  · split at hs
    · rename_i hk
      obtain rfl := Option.some.inj hs
      exact h.begin rfl fun j hj => Option.some.inj hj ▸ hk
    · cases hs
  · split at hs
    · obtain rfl := Option.some.inj hs
      exact ⟨h.books.setRound _ _, h.parks.unRegist _, h.holds⟩
    · cases hs
  · split at hs
    · rename_i hg
      obtain rfl := Option.some.inj hs
      exact h.destroyEvent hg.1 hg.2.1 hg.2.2.1 hg.2.2.2
    · cases hs
  · obtain ⟨f, hf, hs⟩ := Option.bind_eq_some_iff.mp hs
    obtain ⟨r, hr, rfl⟩ := Option.map_eq_some_iff.mp hs
    exact h.call hf hr
  · obtain ⟨r, hr, rfl⟩ := Option.map_eq_some_iff.mp hs
    exact h.drive hI hC hP hr

/-- Both conditions on a step. -/
def CorrectAndClears (s : State) (l : Label) : Prop :=
  Correct s l ∧ ClearsAwait s l

/-- Whether a step is kept can be computed. -/
instance decidableCorrectAndClears (s : State) (l : Label) : Decidable (CorrectAndClears s l) :=
  inferInstanceAs (Decidable (_ ∧ _))

/-- The records match in every state of a run of kept steps. -/
lemma matched_of_reachableWhen (h : system.ReachableWhen CorrectAndClears s) : Matched s := by
  refine h.induct_with (J := Inv) ?_ ?_ ?_
  · exact fun s hs => inv_of_reachableWhen (hs.mono fun _ _ hl => hl.2)
  · rintro s rfl
    have hf : Shared.Fresh {} := .of_none rfl
    exact ⟨⟨⟨rfl, nofun, nofun, nofun⟩, rfl, nofun, fun _ => hf⟩,
      .idle (.inl rfl) (fun _ => nofun) nofun, nofun⟩
  · intro s l s' hI _ h hl hs
    exact h.next hI hl.1 hl.2 hs

/-- No assertion of `DebugMgr` has failed, and its tables have no record of a coroutine or an event
that has been destroyed. -/
structure Passes (s : State) : Prop where
  asserted : s.shared.debug.asserted = false
  coroutine : s.pc = .destroyed → s.shared.debug.coMap = false
  event : ∀ k, s.shared.eventDestroyed k = true → s.shared.debug.eventMap k = false

/-- The assertions pass where the records match. -/
lemma Matched.passes (h : Matched s) : Passes s where
  asserted := h.books.tables.asserted
  coroutine hp := h.books.coMap_of_away (by rw [hp]; rfl)
  event k hk := by
    refine Bool.eq_false_iff.mpr fun hm => ?_
    have hl := h.books.tables.live k hm
    simp [Shared.alive, hk] at hl

variable [DecidableEq ι]

/-- In every correct run of any number of coroutines in which callbacks report failure only when
nothing is awaited any more, the assertions hold. -/
theorem passes_of_reachableWhen {s : ι → State}
    (h : (system.family ι).ReachableWhen (System.each CorrectAndClears) s) (i : ι) :
    Passes (s i) :=
  (matched_of_reachableWhen (h.component i)).passes

/-- The steps of two coroutines: the first one waits for an event that is triggered once it is
parked, the second one yields meanwhile, and each has a registration that fails at first. -/
def waitsAndYields : List (ℕ × Label) :=
  let one := Prod.mk 0
  let two := Prod.mk 1
  [one (.resume { fails := true }), two (.resume {}), one (.advance {}), one .registCustom,
    one .yieldWithCallback, two (.advance {}), one (.advance {}), one (.advance {}), two .yield,
    one .registAwaitEvent, one (.advance {}), one (.advance {}), two (.advance {}),
    one (.advance {}), one (.advance {}), one (.advance { alloc := { fails := true } }),
    one (.advance {}), two .commitYield, one (.report true), one .commitYield, one (.advance {}),
    one (.trigger 0 pollEventCancelled), one (.call 0), two (.resume { fails := true }),
    one (.call 0), one (.call 0), one (.call 0), one (.call 0), one (.resume {}),
    two (.advance {}), one (.advance {})]

/-- The two runs of a wait and of a yield pass their assertions. -/
theorem passes_of_reachableWhen_waitsAndYields :
    ∃ s : ℕ → State, (Passes (s 0) ∧ Passes (s 1)) ∧ (s 0).pc = .running ∧
      (s 0).shared.round 0 = .final pollEventCancelled ∧ (s 1).pc = .running := by
  have hrun : (system.family ℕ).endsInWhen (System.each CorrectAndClears) (fun _ => {})
      waitsAndYields (fun s => (s 0).pc = .running ∧
        (s 0).shared.round 0 = .final pollEventCancelled ∧ (s 1).pc = .running) = true := by
    decide
  obtain ⟨s, hs, hp⟩ := System.exists_of_endsInWhen (fun _ => rfl) hrun
  exact ⟨s, ⟨passes_of_reachableWhen hs 0, passes_of_reachableWhen hs 1⟩, hp⟩

/-- The steps of a call whose callback reports failure although the event has not been registered,
of a trigger of that event, and of a second call, on no event of its own, whose callback
succeeds. -/
def wakesUnregisted : List Label :=
  [.resume {}, .advance {}, .registCustom, .yieldWithCallback, .advance {}, .advance {},
    .report false, .advance {}, .advance {}, .trigger 0 pollEventCancelled, .call 0,
    .yieldWithCallback, .advance {}, .advance {}, .report true, .commitYield, .advance {},
    .advance {}]

/-- The second yield then completes an event that has no record. -/
theorem wakesUnregisted_not_passes :
    ¬ ∀ s : ℕ → State, (system.family ℕ).ReachableWhen (System.each Correct) s →
      ∀ i, Passes (s i) := by
  intro h
  have hrun : system.endsInWhen Correct {} wakesUnregisted
      (fun s => s.shared.debug.asserted = true) = true := by decide
  obtain ⟨s, hs, ha⟩ := System.exists_of_endsInWhen rfl hrun
  have hp := h _ (hs.family (t := fun _ => {}) (fun _ => rfl) 0) 0
  rw [Function.update_self] at hp
  rw [hp.asserted] at ha
  cases ha

end BbtCoroutine.OnYield
