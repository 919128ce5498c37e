import BbtCoroutine.WorkerBoundary.Model

/-!
# What a callback keeps

From the registration of its event on, a coroutine that is switching out is `Waiting`: the round
of its event is registered, its waiter can be notified, and it stays in every list it has been
put into until its round is won.  The moves of the other parties keep this by `Rely`, and so do
the steps of the callback itself: each of them is such a move.
-/

namespace BbtCoroutine.WorkerBoundary

open Effects Code
open BbtCoroutine.Chan (Case)

section

variable {Co Ch α : Type} {c : Co}

/-! ## Rely -/

namespace Rely

variable {sh sh' sh'' : Shared Co Ch α}

/-- A round that is undecided later is as it was. -/
lemma undecided (h : Rely c sh sh') (hu : (sh'.wait c).round.undecided = true) :
    (sh'.wait c).round = (sh.wait c).round := by
  rcases h.round with hr | ⟨m, hr⟩
  · exact hr
  · rw [hr, Round.undecided_trigger] at hu
    cases hu

/-- A registered round stays registered. -/
lemma registered (h : Rely c sh sh') (hr : (sh.wait c).round.registered = true) :
    (sh'.wait c).round.registered = true := by
  rcases h.round with he | ⟨m, he⟩
  · rwa [he]
  · rw [he]
    exact Round.registered_trigger m hr

/-- A step that leaves the wait records as they are and takes no waiter out of a list. -/
lemma of_queue (hw : sh'.wait = sh.wait) (hr : sh'.resolver = sh.resolver)
    (hq : ∀ p e, e ∈ sh.queue p → e ∈ sh'.queue p) : Rely c sh sh' where
  n := by rw [hw]
  bound := by rw [hw]
  round := .inl (by rw [hw])
  runStatus _ := by rw [hw]
  listed _ p hp := hq p _ hp
  idle := by
    rw [hr]
    exact id

/-- A step that only notifies. -/
lemma of_notified {w : Co → Wait} (hw : ∀ k, Wait.Notified (sh.wait k) (w k)) :
    Rely c sh { sh with wait := w } where
  n := (hw c).n
  bound := (hw c).bound
  round := by
    rcases (hw c).round with hr | ⟨-, hr⟩
    · exact .inl hr
    · exact .inr ⟨_, hr⟩
  runStatus hu := congrArg Wait.runStatus ((hw c).same hu)
  listed _ p hp := by
    cases p with
    | _ => exact hp
  idle := id

end Rely

/-! ## Waiting -/

/-- The coroutine `c` is switching out: it holds the locks `ls`, and its waiter is in the lists
`ps`. -/
structure Enlisted (c : Co) (notifies : Bool) (ls : List (Lock Ch)) (ps : List (Place Ch))
    (s : State Co Ch α) : Prop where
  held : s.held = ls
  await : s.await = true
  waiter : notifies = true → (s.round c).undecided = true →
    (s.shared.wait c).bound = true ∧ (s.shared.wait c).runStatus = .condWait
  listed : (s.round c).undecided = true → ∀ p ∈ ps, some (s.shared.waiter c) ∈ s.shared.queue p
  idle : s.shared.resolver.thread = .none → s.shared.resolver.queue = []

/-- It is switching out, and its event is registered. -/
structure Waiting (c : Co) (notifies : Bool) (ls : List (Lock Ch)) (ps : List (Place Ch))
    (s : State Co Ch α) : Prop extends Enlisted c notifies ls ps s where
  registered : (s.round c).registered = true

variable {b : Bool} {ls : List (Lock Ch)} {ps : List (Place Ch)} {s : State Co Ch α}

namespace Enlisted

/-- A waiter stays enlisted while the others do theirs. -/
lemma change (h : Enlisted c b ls ps s) {f : Shared Co Ch α → Shared Co Ch α}
    (hf : Rely c s.shared (f s.shared)) : Enlisted c b ls ps (s.change f) where
  held := h.held
  await := h.await
  waiter hb hu := by
    have hu' : (s.round c).undecided = true := by
      rw [State.round, ← hf.undecided hu]
      exact hu
    obtain ⟨hbound, hstatus⟩ := h.waiter hb hu'
    exact ⟨hf.bound.trans hbound, (hf.runStatus hu).trans hstatus⟩
  listed hu p hp := by
    have hu' : (s.round c).undecided = true := by
      rw [State.round, ← hf.undecided hu]
      exact hu
    have hmem := hf.listed hu p (h.listed hu' p hp)
    change some (c, ((f s.shared).wait c).n) ∈ (f s.shared).queue p
    rwa [hf.n]
  idle := hf.idle h.idle

/-- The environment leaves a waiter enlisted. -/
lemma others (h : Enlisted c b ls ps s) (a : Answer Ch α c) (p : Point) :
    Enlisted c b ls ps (s.others a p) :=
  h.change ((a.others p).property _)

/-- Taking a lock leaves a waiter enlisted. -/
lemma hold (h : Enlisted c b ls ps s) (l : Lock Ch) : Enlisted c b (l :: ls) ps (s.hold l) :=
  { h with held := congrArg (l :: ·) h.held }

/-- Giving up a lock leaves a waiter enlisted. -/
lemma release [DecidableEq Ch] {l : Lock Ch} (h : Enlisted c b (l :: ls) ps s) :
    Enlisted c b ls ps (s.release l) :=
  { h with held := by rw [State.release, h.held, List.erase_cons_head] }

/-- The round is changed, but not back to an undecided one. -/
lemma setRound [DecidableEq Co] (h : Enlisted c b ls ps s) {r : Round}
    (hr : r.undecided = true → (s.round c).undecided = true) :
    Enlisted c b ls ps (s.setRound c r) := by
  have hwait : (s.setRound c r).shared.wait c = { s.shared.wait c with round := r } :=
    Function.update_self _ _ _
  have hqueue : ∀ p, (s.setRound c r).shared.queue p = s.shared.queue p := by
    intro p
    cases p with
    | _ => rfl
  refine ⟨h.held, h.await, ?_, ?_, h.idle⟩
  · intro hb hu
    rw [State.round, hwait] at hu
    rw [hwait]
    exact h.waiter hb (hr hu)
  · intro hu p hp
    rw [State.round, hwait] at hu
    rw [hqueue, Shared.waiter, hwait]
    exact h.listed (hr hu) p hp

end Enlisted

namespace Waiting

/-- A waiter goes on waiting while the others do theirs. -/
lemma change (h : Waiting c b ls ps s) {f : Shared Co Ch α → Shared Co Ch α}
    (hf : Rely c s.shared (f s.shared)) : Waiting c b ls ps (s.change f) :=
  ⟨h.toEnlisted.change hf, hf.registered h.registered⟩

/-- The environment leaves a waiter waiting. -/
lemma others (h : Waiting c b ls ps s) (a : Answer Ch α c) (p : Point) :
    Waiting c b ls ps (s.others a p) :=
  h.change ((a.others p).property _)

/-- Taking a lock leaves a waiter waiting. -/
lemma hold (h : Waiting c b ls ps s) (l : Lock Ch) : Waiting c b (l :: ls) ps (s.hold l) :=
  ⟨h.toEnlisted.hold l, h.registered⟩

/-- Giving up a lock leaves a waiter waiting. -/
lemma release [DecidableEq Ch] {l : Lock Ch} (h : Waiting c b (l :: ls) ps s) :
    Waiting c b ls ps (s.release l) :=
  ⟨h.toEnlisted.release, h.registered⟩

/-- Once the round is won it does not matter where the waiter is. -/
lemma decided {ps' : List (Place Ch)} (h : Waiting c b ls ps s)
    (hd : (s.round c).undecided = false) : Waiting c b ls ps' s := by
  refine ⟨⟨h.held, h.await, h.waiter, ?_, h.idle⟩, h.registered⟩
  intro hu
  rw [hd] at hu
  cases hu

end Waiting

/-! ## The steps of a callback as moves -/

section Moves

variable [DecidableEq Co] [DecidableEq Ch] {sh : Shared Co Ch α}

omit [DecidableEq Co] in
/-- What stays in the lists of the channel that is changed stays in every list. -/
lemma mem_queue_setChan {ch : Ch} {x : Chan Co α} {e : Option (Co × ℕ)}
    (hr : x.enableReadCond = (sh.chan ch).enableReadCond)
    (hw : e ∈ (sh.chan ch).enableWriteConds → e ∈ x.enableWriteConds)
    (hrw : e ∈ (sh.chan ch).readWatchers → e ∈ x.readWatchers)
    (hww : e ∈ (sh.chan ch).writeWatchers → e ∈ x.writeWatchers) (p : Place Ch)
    (he : e ∈ sh.queue p) : e ∈ (sh.setChan ch x).queue p := by
  have hchan : ∀ (f : Chan Co α → WaitQueue Co) (j : Ch), (e ∈ f (sh.chan ch) → e ∈ f x) →
      e ∈ f (sh.chan j) → e ∈ f ((sh.setChan ch x).chan j) := by
    intro f j hf hj
    have hset : (sh.setChan ch x).chan j = if j = ch then x else sh.chan j :=
      Function.update_apply _ _ _ _
    rw [hset]
    split
    · next heq => exact hf (heq ▸ hj)
    · exact hj
  cases p with
  | enableRead j => exact hchan (fun y => [y.enableReadCond]) j (by rw [hr]; exact id) he
  | enableWrite j => exact hchan Chan.enableWriteConds j hw he
  | readWatcher j => exact hchan Chan.readWatchers j hrw he
  | writeWatcher j => exact hchan Chan.writeWatchers j hww he
  | _ => exact he

omit [DecidableEq Co] in
/-- A channel that keeps its waiters is changed. -/
lemma rely_setChan {ch : Ch} {x : Chan Co α}
    (hr : x.enableReadCond = (sh.chan ch).enableReadCond)
    (hw : ∀ e ∈ (sh.chan ch).enableWriteConds, e ∈ x.enableWriteConds)
    (hrw : ∀ e ∈ (sh.chan ch).readWatchers, e ∈ x.readWatchers)
    (hww : ∀ e ∈ (sh.chan ch).writeWatchers, e ∈ x.writeWatchers) :
    Rely c sh (sh.setChan ch x) :=
  .of_queue rfl rfl fun p e => mem_queue_setChan hr (hw e) (hrw e) (hww e) p

end Moves

end

end BbtCoroutine.WorkerBoundary
