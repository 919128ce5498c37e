import BbtCoroutine.CoPollEvent.Model

/-!
# A `CoPollEvent` is one-shot

The life of an event, whatever its calls do and in whatever order, is a path of a
small machine, `Outcome`: undecided until one exchange wins it, then either waiting
for `CommitPark`, being completed by one call, completed, or cancelled.  An outcome
determines the status word, the whole ledger and which call is inside `_Complete` or
inside the cleanup of `UnRegist` (its `Role`).

`Frame.step_effect` says once what a step of a call can do to the word and to the
ledger, `Matches.step` follows the outcome along one step, and the theorems about all
runs are read off the outcome.
-/

namespace BbtCoroutine.CoPollEvent

open Transition CoPollEventPhase

variable {ι : Type*}

/-! ## Roles -/

/-- The part a call plays once the event is decided. -/
inductive Role
  | none
  | canceller
  | completer (byTrigger : Bool) (m : EventMask) (stored : Bool)
  deriving DecidableEq

/-- Whether `_Complete` runs inside a `Trigger`. -/
def CompleteSite.byTrigger : CompleteSite → Bool
  | .trigger _ => true
  | .commitPark _ => false

/-- The role of a frame: a completer before or after its store of `FINAL`, or a canceller
whose `UnRegist` has won and not yet returned. -/
def Frame.role : Frame → Role
  | .complete site m | .completeFinal site m => .completer site.byTrigger m false
  | .completeCallback site m => .completer site.byTrigger m true
  | .unRegistCannel _ _ => .canceller
  | _ => .none

/-! ## Outcomes -/

/-- What is decided about an event: `i` is the call that won it, `k` the call of
`CommitPark` that committed the park, `m` the winning mask. -/
inductive Outcome (ι : Type*)
  | inited
  | arming
  | armed
  | parked (k : ι)
  | pending (i : ι) (m : EventMask)
  | completing (i k : ι) (m : EventMask) (byTrigger stored : Bool)
  | completed (i k : ι) (m : EventMask)
  | unRegisting (i : ι) (c : Option ι)
  | unRegisted (i : ι) (c : Option ι)
  | registFailed (i : ι)

namespace Outcome

/-- The phase of an outcome. -/
def phase : Outcome ι → CoPollEventPhase
  | inited => .inited
  | arming => .arming
  | armed => .armed
  | parked _ => .parked
  | pending _ _ => .pending
  | completing _ _ _ _ stored => if stored then .final else .triggering
  | completed _ _ _ => .final
  | unRegisting _ _ | unRegisted _ _ | registFailed _ => .cancelled

/-- The mask in the status word of an outcome. -/
def mask : Outcome ι → EventMask
  | pending _ m | completing _ _ m _ _ | completed _ _ m => m
  | _ => 0

/-- The status word of an outcome. -/
def word (o : Outcome ι) : BitVec 64 :=
  packCoPollEventState o.phase o.mask

/-- What has happened when the outcome is `o`. -/
def ledger : Outcome ι → Ledger ι
  | inited | arming | armed => {}
  | parked k => { committed := [k] }
  | pending i m => { winners := [(i, .trigger m)], zeroReturns := [i] }
  | completing i k m byTrigger _ =>
    { winners := [(i, .trigger m)], zeroReturns := if byTrigger then [] else [i],
      committed := [k] }
  | completed i k m =>
    { winners := [(i, .trigger m)], zeroReturns := [i], callbacks := [m], committed := [k] }
  | unRegisting i c => { winners := [(i, .unRegist)], committed := c.toList }
  | unRegisted i c => { winners := [(i, .unRegist)], zeroReturns := [i], committed := c.toList }
  | registFailed i => { winners := [(i, .registFailed)] }

/-- The call that runs `_Complete`: the winning `Trigger` or the `CommitPark`. -/
def runner (byTrigger : Bool) (i k : ι) : ι :=
  if byTrigger then i else k

/-- The role of each call when the outcome is `o`. -/
def role [DecidableEq ι] : Outcome ι → ι → Role
  | completing i k m byTrigger stored, j =>
    if j = runner byTrigger i k then .completer byTrigger m stored else .none
  | unRegisting i _, j => if j = i then .canceller else .none
  | _, _ => .none

@[simp] lemma phase_word (o : Outcome ι) : getCoPollEventPhase o.word = some o.phase :=
  getCoPollEventPhase_pack _ _

@[simp] lemma flags_word (o : Outcome ι) : getCoPollEventFlags o.word = o.mask :=
  getCoPollEventFlags_pack _ _

/-- An event still undecided in a phase whose ledger is `c`. -/
inductive Open : Outcome ι → Option ι → Prop
  | inited : Open inited none
  | arming : Open arming none
  | armed : Open armed none
  | parked (k : ι) : Open (parked k) (some k)

/-- The moves of the life of an event. -/
inductive Move : Outcome ι → Outcome ι → Prop
  | arming : Move inited arming
  | armed : Move arming armed
  | parked (k : ι) : Move armed (parked k)
  | pending {o : Outcome ι} (i : ι) (m : EventMask) : Open o none → Move o (pending i m)
  | triggered (i k : ι) (m : EventMask) : Move (parked k) (completing i k m true false)
  | consumed (i k : ι) (m : EventMask) : Move (pending i m) (completing i k m false false)
  | stored (i k : ι) (m : EventMask) (b : Bool) :
      Move (completing i k m b false) (completing i k m b true)
  | completed (i k : ι) (m : EventMask) (b : Bool) :
      Move (completing i k m b true) (completed i k m)
  | unRegisting {o : Outcome ι} {c : Option ι} (i : ι) : Open o c → Move o (unRegisting i c)
  | unRegisted (i : ι) (c : Option ι) : Move (unRegisting i c) (unRegisted i c)
  | registFailed (i : ι) : Move arming (registFailed i)

/-- The only outcome in the phase `INITED`. -/
lemma phase_eq_inited {o : Outcome ι} (h : o.phase = .inited) : o = inited := by
  cases o with
  | completing i k m b stored => cases stored <;> cases h
  | _ => first | rfl | cases h

/-- The only outcome in the phase `ARMING`. -/
lemma phase_eq_arming {o : Outcome ι} (h : o.phase = .arming) : o = arming := by
  cases o with
  | completing i k m b stored => cases stored <;> cases h
  | _ => first | rfl | cases h

/-- The only outcome in the phase `ARMED`. -/
lemma phase_eq_armed {o : Outcome ι} (h : o.phase = .armed) : o = armed := by
  cases o with
  | completing i k m b stored => cases stored <;> cases h
  | _ => first | rfl | cases h

/-- An outcome in the phase `PARKED` says who has parked the event. -/
lemma phase_eq_parked {o : Outcome ι} (h : o.phase = .parked) : ∃ k, o = parked k := by
  cases o with
  | completing i k m b stored => cases stored <;> cases h
  | parked k => exact ⟨k, rfl⟩
  | _ => cases h

/-- An outcome in the phase `PENDING` says who has triggered the event, and with what. -/
lemma phase_eq_pending {o : Outcome ι} (h : o.phase = .pending) : ∃ i m, o = pending i m := by
  cases o with
  | completing i k m b stored => cases stored <;> cases h
  | pending i m => exact ⟨i, m, rfl⟩
  | _ => cases h

/-- An outcome before any decision, from its phase. -/
lemma open_of_phase {o : Outcome ι}
    (h : o.phase = .inited ∨ o.phase = .arming ∨ o.phase = .armed) : Open o none := by
  rcases h with h | h | h
  · rw [phase_eq_inited h]
    exact .inited
  · rw [phase_eq_arming h]
    exact .arming
  · rw [phase_eq_armed h]
    exact .armed

/-- While an outcome is open, the ledger holds at most the call of `CommitPark` that won. -/
lemma Open.ledger {o : Outcome ι} {c : Option ι} (h : Open o c) :
    o.ledger = { committed := c.toList } := by
  cases h <;> rfl

/-- A terminal phase is never left. -/
lemma Move.terminal {o o' : Outcome ι} (h : Move o o') (ht : o.phase.Terminal) :
    o'.word = o.word := by
  cases h with
  | completed i k m b => rfl
  | unRegisted i c => rfl
  | pending i m ho => cases ho <;> cases ht
  | unRegisting i ho => cases ho <;> cases ht
  | _ => cases ht

/-- Once the park is settled it stays so. -/
lemma Move.settled {o o' : Outcome ι} (h : Move o o') (hs : o.phase.Settled) :
    o'.phase.Settled := by
  cases h with
  | pending i m ho => cases ho <;> cases hs
  | _ => trivial

/-- The event is past its registration. -/
def Registed (o : Outcome ι) : Prop :=
  o.phase ≠ .inited ∧ o.phase ≠ .arming

/-- `CommitPark` has nothing left to do. -/
def Settled (o : Outcome ι) : Prop :=
  o.phase.Settled

/-- A settled event has been registered. -/
lemma Settled.registed {o : Outcome ι} (h : o.Settled) : o.Registed := by
  constructor <;> intro hp <;> rw [Settled, hp] at h <;> exact h

/-- A registered event is armed or pending, or it has been settled. -/
lemma Registed.settled_or {o : Outcome ι} (h : o.Registed) :
    o.phase = .armed ∨ o.phase = .pending ∨ o.Settled := by
  unfold Settled Registed at *
  cases hp : o.phase <;> simp_all [CoPollEventPhase.Settled]

/-- A move, or none. -/
def Advance (o o' : Outcome ι) : Prop :=
  o' = o ∨ Move o o'

/-- A settled outcome stays settled. -/
lemma Advance.settled {o o' : Outcome ι} (h : Advance o o') (hs : o.Settled) : o'.Settled := by
  rcases h with rfl | h
  · exact hs
  · exact h.settled hs

/-- A registered outcome stays registered. -/
lemma Advance.registed {o o' : Outcome ι} (h : Advance o o') (hr : o.Registed) :
    o'.Registed := by
  rcases h with rfl | h
  · exact hr
  · cases h with
    | arming => exact absurd rfl hr.1
    | stored | completed => exact ⟨by simp [phase], by simp [phase]⟩
    | _ => exact ⟨by simp [phase], by simp [phase]⟩

end Outcome

/-! ## The effect of one step -/

/-- What one step of the call `i` does to the word and the ledger, and how its role
changes. -/
inductive Effect (i : ι) (sh sh' : Shared ι) : Role → Role → Prop
  | quiet (r : Role) (hw : sh'.state = sh.state) (hl : sh'.ledger = sh.ledger) :
      Effect i sh sh' r r
  | arming (h : sh.state = packCoPollEventState inited)
      (hw : sh'.state = packCoPollEventState arming) (hl : sh'.ledger = sh.ledger) :
      Effect i sh sh' .none .none
  | armed (h : sh.state = packCoPollEventState arming)
      (hw : sh'.state = packCoPollEventState armed) (hl : sh'.ledger = sh.ledger) :
      Effect i sh sh' .none .none
  | pending (m : EventMask)
      (h : getCoPollEventPhase sh.state = some inited ∨
        getCoPollEventPhase sh.state = some arming ∨ getCoPollEventPhase sh.state = some armed)
      (hw : sh'.state = packCoPollEventState pending m)
      (hl : sh'.ledger = { sh.ledger with
        winners := sh.ledger.winners ++ [(i, .trigger m)]
        zeroReturns := sh.ledger.zeroReturns ++ [i] }) :
      Effect i sh sh' .none .none
  | triggered (m : EventMask) (h : getCoPollEventPhase sh.state = some parked)
      (hw : sh'.state = packCoPollEventState triggering m)
      (hl : sh'.ledger = { sh.ledger with
        winners := sh.ledger.winners ++ [(i, .trigger m)] }) :
      Effect i sh sh' .none (.completer true m false)
  | parked (h : getCoPollEventPhase sh.state = some armed)
      (hw : sh'.state = packCoPollEventState parked)
      (hl : sh'.ledger = { sh.ledger with committed := sh.ledger.committed ++ [i] }) :
      Effect i sh sh' .none .none
  | consumed (m : EventMask) (h : getCoPollEventPhase sh.state = some pending)
      (hm : getCoPollEventFlags sh.state = m)
      (hw : sh'.state = packCoPollEventState triggering m)
      (hl : sh'.ledger = { sh.ledger with committed := sh.ledger.committed ++ [i] }) :
      Effect i sh sh' .none (.completer false m false)
  | stored (b : Bool) (m : EventMask) (hw : sh'.state = packCoPollEventState final m)
      (hl : sh'.ledger = sh.ledger) :
      Effect i sh sh' (.completer b m false) (.completer b m true)
  | completed (b : Bool) (m : EventMask) (hw : sh'.state = sh.state)
      (hl : sh'.ledger = { sh.ledger with
        callbacks := sh.ledger.callbacks ++ [m]
        zeroReturns := sh.ledger.zeroReturns ++ if b then [i] else [] }) :
      Effect i sh sh' (.completer b m true) .none
  | unRegisting
      (h : getCoPollEventPhase sh.state = some inited ∨
        getCoPollEventPhase sh.state = some arming ∨ getCoPollEventPhase sh.state = some armed ∨
        getCoPollEventPhase sh.state = some parked)
      (hw : sh'.state = packCoPollEventState cancelled)
      (hl : sh'.ledger = { sh.ledger with
        winners := sh.ledger.winners ++ [(i, .unRegist)] }) :
      Effect i sh sh' .none .canceller
  | unRegisted (hw : sh'.state = sh.state)
      (hl : sh'.ledger = { sh.ledger with zeroReturns := sh.ledger.zeroReturns ++ [i] }) :
      Effect i sh sh' .canceller .none
  | registFailed (h : getCoPollEventPhase sh.state = some arming)
      (hw : sh'.state = packCoPollEventState cancelled)
      (hl : sh'.ledger = { sh.ledger with
        winners := sh.ledger.winners ++ [(i, .registFailed)] }) :
      Effect i sh sh' .none .none

/-- A compare-and-swap succeeds only on the word that it expects. -/
lemma casWeak_eq {sh : Shared ι} {a : Answer} {w : BitVec 64} (h : casWeak sh a w = true) :
    sh.state = w := by
  simp only [casWeak, Bool.and_eq_true, beq_iff_eq] at h
  exact h.2

section

variable (i : ι) (sh : Shared ι) (a : Answer)

/-- The return from `Regist` leaves the outcome as it is. -/
lemma returnRegist_effect (ret : ℤ) :
    Effect i sh (returnRegist sh ret).1 .none (returnRegist sh ret).2.role :=
  .quiet _ rfl rfl

/-- The end of `Regist` leaves the outcome as it is, whatever word it has loaded. -/
lemma registEnd_effect (w : BitVec 64) :
    Effect i sh (registEnd sh w).1 .none (registEnd sh w).2.role := by
  unfold registEnd
  split
  · exact .quiet _ rfl rfl
  · exact returnRegist_effect i sh _

@[simp] lemma returnTrigger_role (site : TriggerSite) (ret : ℤ) :
    (returnTrigger i sh site ret).2.role = .none := by
  cases site <;> rfl

@[simp] lemma returnTrigger_state (site : TriggerSite) (ret : ℤ) :
    (returnTrigger i sh site ret).1.state = sh.state := by
  cases site <;> simp only [returnTrigger, returnRegist] <;> split <;> rfl

@[simp] lemma returnTrigger_ledger (site : TriggerSite) (ret : ℤ) :
    (returnTrigger i sh site ret).1.ledger =
      { sh.ledger with
        zeroReturns := sh.ledger.zeroReturns ++ if ret = 0 then [i] else [] } := by
  cases site <;> simp only [returnTrigger, returnRegist] <;> split <;>
    simp [Shared.returnZero]

@[simp] lemma returnUnRegist_role (site : UnRegistSite) (ret : ℤ) :
    (returnUnRegist i sh site ret).2.role = .none := by
  cases site <;> rfl

@[simp] lemma returnUnRegist_state (site : UnRegistSite) (ret : ℤ) :
    (returnUnRegist i sh site ret).1.state = sh.state := by
  cases site <;> simp only [returnUnRegist, returnRegist] <;> split <;> rfl

@[simp] lemma returnUnRegist_ledger (site : UnRegistSite) (ret : ℤ) :
    (returnUnRegist i sh site ret).1.ledger =
      { sh.ledger with
        zeroReturns := sh.ledger.zeroReturns ++ if ret = 0 then [i] else [] } := by
  cases site <;> simp only [returnUnRegist, returnRegist] <;> split <;>
    simp [Shared.returnZero]

/-- A failed `Trigger` changes nothing. -/
lemma returnTrigger_effect (site : TriggerSite) :
    Effect i sh (returnTrigger i sh site (-1)).1 .none (returnTrigger i sh site (-1)).2.role := by
  rw [returnTrigger_role]
  exact .quiet _ (by simp) (by simp)

/-- What the compare-and-swap of a trigger does to the outcome. -/
lemma triggerCas_effect (site : TriggerSite) (m : EventMask) (w : BitVec 64) :
    Effect i sh (triggerCas i sh a site m w).1 .none (triggerCas i sh a site m w).2.role := by
  unfold triggerCas
  split
  case h_5 => exact returnTrigger_effect i sh site
  case h_4 h =>
    split
    · rename_i hc
      obtain rfl := casWeak_eq hc
      exact .triggered m h rfl rfl
    · exact .quiet _ rfl rfl
  all_goals
    rename_i h
    split
    · rename_i hc
      obtain rfl := casWeak_eq hc
      rw [returnTrigger_role]
      exact .pending m (by simp [h]) (by simp [Shared.win]) (by simp [Shared.win])
    · exact .quiet _ rfl rfl

/-- What the compare-and-swap of a withdrawal does to the outcome. -/
lemma unRegistCas_effect (site : UnRegistSite) (w : BitVec 64) :
    Effect i sh (unRegistCas i sh a site w).1 .none (unRegistCas i sh a site w).2.role := by
  unfold unRegistCas
  split
  case h_5 =>
    rw [returnUnRegist_role]
    exact .quiet _ (by simp) (by simp)
  all_goals
    rename_i h
    split
    · rename_i hc
      obtain rfl := casWeak_eq hc
      exact .unRegisting (by simp [h]) rfl rfl
    · exact .quiet _ rfl rfl

/-- What the compare-and-swap of `CommitPark` does to the outcome. -/
lemma commitParkCas_effect (registed : Bool) (w : BitVec 64) :
    Effect i sh (commitParkCas i sh a registed w).1 .none
      (commitParkCas i sh a registed w).2.role := by
  unfold commitParkCas
  split
  · rename_i h
    split
    · rename_i hc
      obtain rfl := casWeak_eq hc
      exact .parked h rfl rfl
    · exact .quiet _ rfl rfl
  · rename_i h
    split
    · rename_i hc
      obtain rfl := casWeak_eq hc
      exact .consumed _ h rfl rfl rfl
    · exact .quiet _ rfl rfl
  · exact .quiet _ rfl rfl

/-- What the compare-and-swap of a failed registration does to the outcome. -/
lemma registFailedCas_effect (w : BitVec 64) :
    Effect i sh (registFailedCas i sh a w).1 .none (registFailedCas i sh a w).2.role := by
  unfold registFailedCas
  split
  · rename_i h
    split
    · rename_i hc
      obtain rfl := casWeak_eq hc
      exact .registFailed h rfl rfl
    · exact .quiet _ rfl rfl
  · exact .quiet _ rfl rfl

/-- The callback of a completer, and its return. -/
lemma returnComplete_effect (site : CompleteSite) (m : EventMask) :
    Effect i sh (returnComplete i (sh.callback m) site).1 (.completer site.byTrigger m true)
      (returnComplete i (sh.callback m) site).2.role := by
  cases site with
  | trigger site =>
    rw [returnComplete, returnTrigger_role]
    exact .completed _ m (by simp [Shared.callback])
      (by simp [Shared.callback, CompleteSite.byTrigger])
  | commitPark registed =>
    exact .completed _ m rfl (by simp [Shared.callback, CompleteSite.byTrigger, returnComplete])

end

/-- Every step of a call has one of the listed effects. -/
lemma Frame.step_effect {i : ι} {sh sh' : Shared ι} {a : Answer} {f f' : Frame}
    (h : f.step i sh a = some (sh', f')) : Effect i sh sh' f.role f'.role := by
  cases f <;> simp only [Frame.step, Option.some.injEq, reduceCtorEq] at h
  case initFdEvent fd events timeout =>
    unfold CoPollEvent.initFdEvent at h
    split at h <;> cases h <;> exact .quiet _ rfl rfl
  case initFdEventSample =>
    unfold CoPollEvent.initFdEventSample at h
    split at h <;> cases h
    · exact .quiet _ rfl rfl
    · cases a.closing <;> exact .quiet _ rfl rfl
  case initFdEventCreate attempt =>
    unfold CoPollEvent.initFdEventCreate at h
    split at h
    · split at h <;> cases h <;> exact .quiet _ rfl rfl
    · cases h
      exact .quiet _ rfl rfl
  case initCustomEvent key =>
    unfold CoPollEvent.initCustomEvent at h
    split at h <;> cases h <;> exact .quiet _ rfl rfl
  case trigger site m =>
    split at h
    · obtain ⟨rfl, rfl⟩ := Prod.ext_iff.mp h
      exact returnTrigger_effect i sh site
    · cases h
      exact .quiet _ rfl rfl
  case triggerCas site m w =>
    obtain ⟨rfl, rfl⟩ := Prod.ext_iff.mp h
    exact triggerCas_effect i sh a site m w
  case complete site m =>
    cases h
    exact .quiet _ rfl rfl
  case completeFinal site m =>
    cases h
    exact .stored _ m rfl rfl
  case completeCallback site m =>
    obtain ⟨rfl, rfl⟩ := Prod.ext_iff.mp h
    exact returnComplete_effect i sh site m
  case regist =>
    cases h
    split <;> exact .quiet _ rfl rfl
  case registPending =>
    cases h
    exact .quiet _ rfl rfl
  case registArming =>
    split at h
    · cases h
      exact .arming ‹_› rfl rfl
    · obtain ⟨rfl, rfl⟩ := Prod.ext_iff.mp h
      exact registEnd_effect i sh _
  case registFdEvent =>
    cases h
    split <;> exact .quiet _ rfl rfl
  case registFailed =>
    cases h
    exact .quiet _ rfl rfl
  case registFailedCas w =>
    obtain ⟨rfl, rfl⟩ := Prod.ext_iff.mp h
    exact registFailedCas_effect i sh a w
  case registCannel w =>
    unfold registEnd at h
    split at h <;> cases h <;> exact .quiet _ rfl rfl
  case registArmed =>
    split at h <;> cases h
    · exact .armed ‹_› rfl rfl
    · exact .quiet _ rfl rfl
  case registDebug =>
    cases h
    split <;> exact .quiet _ rfl rfl
  case trackWaiter =>
    split at h <;> cases h <;> exact .quiet _ rfl rfl
  case unRegist site =>
    cases h
    exact .quiet _ rfl rfl
  case unRegistCas site w =>
    obtain ⟨rfl, rfl⟩ := Prod.ext_iff.mp h
    exact unRegistCas_effect i sh a site w
  case unRegistCannel site wasArming =>
    obtain ⟨rfl, rfl⟩ := Prod.ext_iff.mp h
    rw [returnUnRegist_role]
    refine .unRegisted ?_ ?_
    · rw [returnUnRegist_state]
      split <;> rfl
    · rw [returnUnRegist_ledger]
      split <;> rfl
  case commitPark registed =>
    cases h
    exact .quiet _ rfl rfl
  case commitParkCas registed w =>
    obtain ⟨rfl, rfl⟩ := Prod.ext_iff.mp h
    exact commitParkCas_effect i sh a registed w

/-! ## Following the outcome -/

variable [DecidableEq ι]

/-- The state `s` is one in which the outcome is `o`. -/
structure Matches (s : State ι) (o : Outcome ι) : Prop where
  word : s.shared.state = o.word
  ledger : s.shared.ledger = o.ledger
  role : ∀ k, (s.call k).role = o.role k

namespace Outcome

/-- A completer is the runner of the completion in progress. -/
lemma role_eq_completer {o : Outcome ι} {j : ι} {b stored : Bool} {m : EventMask}
    (h : o.role j = .completer b m stored) :
    ∃ i k, o = completing i k m b stored ∧ j = runner b i k := by
  cases o with
  | completing i k m' b' stored' =>
    simp only [role] at h
    split at h <;> cases h
    exact ⟨i, k, rfl, ‹_›⟩
  | unRegisting i c =>
    simp only [role] at h
    split at h <;> cases h
  | _ => cases h

/-- A canceller is the one whose withdrawal is in progress. -/
lemma role_eq_canceller {o : Outcome ι} {j : ι} (h : o.role j = .canceller) :
    ∃ c, o = unRegisting j c := by
  cases o with
  | completing i k m' b' stored' =>
    simp only [role] at h
    split at h <;> cases h
  | unRegisting i c =>
    simp only [role] at h
    split at h <;> cases h
    rename_i hj
    exact ⟨c, by rw [hj]⟩
  | _ => cases h

/-- No call has a role while the event is open. -/
lemma Open.role {o : Outcome ι} {c : Option ι} (h : Open o c) (j : ι) : o.role j = .none := by
  cases h <;> rfl

end Outcome

/-- A matching state after the call `i` has moved on, from what the move does to the word,
the ledger and the role of `i`. -/
lemma Matches.update {s : State ι} {o o' : Outcome ι} {i : ι} {sh' : Shared ι} {f' : Frame}
    (h : Matches s o) (hw : sh'.state = o'.word) (hl : sh'.ledger = o'.ledger)
    (hi : f'.role = o'.role i) (hk : ∀ k, k ≠ i → o'.role k = o.role k) :
    Matches ⟨sh', Function.update s.call i f'⟩ o' := by
  refine ⟨hw, hl, fun k => ?_⟩
  change (Function.update s.call i f' k).role = o'.role k
  by_cases hki : k = i
  · rw [hki, Function.update_self, hi]
  · rw [Function.update_of_ne hki, h.role, hk k hki]

/-- One step of a call is matched by at most one move of the outcome. -/
lemma Matches.step {s : State ι} {o : Outcome ι} {i : ι} {sh' : Shared ι} {f' : Frame}
    (h : Matches s o) (he : Effect i s.shared sh' (s.call i).role f'.role) :
    ∃ o', Outcome.Advance o o' ∧ Matches ⟨sh', Function.update s.call i f'⟩ o' := by
  have hword := h.word
  have hledger := h.ledger
  have hrole := h.role i
  generalize (s.call i).role = r at he hrole
  generalize hr' : f'.role = r' at he
  cases he with
  | quiet _ hw hl =>
    exact ⟨o, .inl rfl, h.update (hw.trans hword) (hl.trans hledger) (hr'.trans hrole)
      fun _ _ => rfl⟩
  | arming h₀ hw hl =>
    have ho : o = .inited := Outcome.phase_eq_inited (by
      have := congrArg getCoPollEventPhase (hword.symm.trans h₀)
      simpa using this)
    subst ho
    exact ⟨.arming, .inr .arming, h.update hw (hl.trans hledger) hr' fun _ _ => rfl⟩
  | armed h₀ hw hl =>
    have ho : o = .arming := Outcome.phase_eq_arming (by
      have := congrArg getCoPollEventPhase (hword.symm.trans h₀)
      simpa using this)
    subst ho
    exact ⟨.armed, .inr .armed, h.update hw (hl.trans hledger) hr' fun _ _ => rfl⟩
  | pending m h₀ hw hl =>
    rw [hword, Outcome.phase_word] at h₀
    have ho : Outcome.Open o none := Outcome.open_of_phase (by simpa using h₀)
    refine ⟨.pending i m, .inr (.pending i m ho), h.update hw ?_ hr' fun k _ => (ho.role k).symm⟩
    rw [hl, hledger, ho.ledger]
    rfl
  | triggered m h₀ hw hl =>
    rw [hword, Outcome.phase_word] at h₀
    obtain ⟨k, rfl⟩ := Outcome.phase_eq_parked (Option.some.inj h₀)
    refine ⟨.completing i k m true false, .inr (.triggered i k m), h.update hw ?_ ?_ ?_⟩
    · rw [hl, hledger]
      rfl
    · simpa [Outcome.role, Outcome.runner] using hr'
    · intro j hj
      simp [Outcome.role, Outcome.runner, hj]
  | parked h₀ hw hl =>
    rw [hword, Outcome.phase_word] at h₀
    have ho := Outcome.phase_eq_armed (Option.some.inj h₀)
    subst ho
    refine ⟨.parked i, .inr (.parked i), h.update hw ?_ hr' fun _ _ => rfl⟩
    rw [hl, hledger]
    rfl
  | consumed m h₀ hm hw hl =>
    rw [hword, Outcome.phase_word] at h₀
    obtain ⟨j, m', rfl⟩ := Outcome.phase_eq_pending (Option.some.inj h₀)
    rw [hword, Outcome.flags_word] at hm
    subst hm
    refine ⟨.completing j i m' false false, .inr (.consumed j i m'), h.update hw ?_ ?_ ?_⟩
    · rw [hl, hledger]
      rfl
    · simpa [Outcome.role, Outcome.runner, Outcome.mask] using hr'
    · intro k hk
      simp [Outcome.role, Outcome.runner, hk]
  | stored b m hw hl =>
    obtain ⟨j, k, rfl, hi⟩ := Outcome.role_eq_completer hrole.symm
    refine ⟨.completing j k m b true, .inr (.stored j k m b), h.update hw ?_ ?_ ?_⟩
    · rw [hl, hledger]
      rfl
    · simpa [Outcome.role, hi] using hr'
    · intro l hl
      simp [Outcome.role, ← hi, hl]
  | completed b m hw hl =>
    obtain ⟨j, k, rfl, hi⟩ := Outcome.role_eq_completer hrole.symm
    refine ⟨.completed j k m, .inr (.completed j k m b), h.update (hw.trans hword) ?_ hr' ?_⟩
    · rw [hl, hledger]
      cases b <;> simp_all [Outcome.ledger, Outcome.runner]
    · intro l hl
      simp [Outcome.role, ← hi, hl]
  | unRegisting h₀ hw hl =>
    rw [hword, Outcome.phase_word] at h₀
    obtain ⟨c, ho⟩ : ∃ c, Outcome.Open o c := by
      rcases h₀ with h₀ | h₀ | h₀ | h₀
      · exact ⟨_, Outcome.open_of_phase (.inl (Option.some.inj h₀))⟩
      · exact ⟨_, Outcome.open_of_phase (.inr (.inl (Option.some.inj h₀)))⟩
      · exact ⟨_, Outcome.open_of_phase (.inr (.inr (Option.some.inj h₀)))⟩
      · obtain ⟨k, rfl⟩ := Outcome.phase_eq_parked (Option.some.inj h₀)
        exact ⟨_, .parked k⟩
    refine ⟨.unRegisting i c, .inr (.unRegisting i ho), h.update hw ?_ ?_ ?_⟩
    · rw [hl, hledger, ho.ledger]
      rfl
    · simpa [Outcome.role] using hr'
    · intro k hk
      rw [ho.role k]
      simp [Outcome.role, hk]
  | unRegisted hw hl =>
    obtain ⟨c, rfl⟩ := Outcome.role_eq_canceller hrole.symm
    refine ⟨.unRegisted i c, .inr (.unRegisted i c), h.update (hw.trans hword) ?_ hr' ?_⟩
    · rw [hl, hledger]
      rfl
    · intro k hk
      simp [Outcome.role, hk]
  | registFailed h₀ hw hl =>
    rw [hword, Outcome.phase_word] at h₀
    have ho := Outcome.phase_eq_arming (Option.some.inj h₀)
    subst ho
    refine ⟨.registFailed i, .inr (.registFailed i), h.update hw ?_ hr' fun _ _ => rfl⟩
    rw [hl, hledger]
    rfl

/-- One step of the system is matched by at most one move of the outcome. -/
lemma Matches.next {s s' : State ι} {o : Outcome ι} {l : Label ι} (h : Matches s o)
    (hs : next s l = some s') : ∃ o', Outcome.Advance o o' ∧ Matches s' o' := by
  cases l with
  | invoke i op =>
    simp only [CoPollEvent.next] at hs
    split at hs
    · rename_i hi
      cases hs
      have hr := h.role i
      rw [hi] at hr
      exact ⟨o, .inl rfl, h.update h.word h.ledger (by rw [← hr]; cases op <;> rfl)
        fun _ _ => rfl⟩
    · cases hs
  | advance i a =>
    obtain ⟨⟨sh', f'⟩, hf, rfl⟩ := Option.map_eq_some_iff.mp hs
    exact h.step (Frame.step_effect hf)

/-! ## What a call knows -/

section

variable {ι : Type*}

/-- What a caller of `_Complete` may rely on: inside a `Regist` the event is registered, and a
`CommitPark` that followed a successful `Regist` has settled the park. -/
def CompleteSite.Known (o : Outcome ι) : CompleteSite → Prop
  | .trigger site => site = .regist → o.Registed
  | .commitPark registed => registed = true → o.Settled

/-- What the result of a call tells: a `CommitPark` that followed a successful `Regist` leaves
the park settled. -/
def Result.Known (o : Outcome ι) : Result → Prop
  | .commitPark registed _ => registed = true → o.Settled
  | _ => True

/-- What a call may rely on about the outcome: inside a `Regist` that will return `0` the
event is registered, and a `CommitPark` that followed such a `Regist` either still has
something to do or leaves the park settled. -/
def Frame.Known (o : Outcome ι) : Frame → Prop
  | .registPending | .registDebug | .trackWaiter => o.Registed
  | .trigger site _ | .triggerCas site _ _ => site = .regist → o.Registed
  | .complete site _ | .completeFinal site _ | .completeCallback site _ => site.Known o
  | .registFailedCas w | .registCannel w => getCoPollEventPhase w = some pending → o.Registed
  | .commitPark registed => registed = true → o.Registed
  | .commitParkCas registed w => registed = true → o.Registed ∧
      (getCoPollEventPhase w = some armed ∨ getCoPollEventPhase w = some pending ∨ o.Settled)
  | .returned r => r.Known o
  | _ => True

/-- What the site of a completion knows stays true while the outcome advances. -/
lemma CompleteSite.Known.advance {o o' : Outcome ι} (h : Outcome.Advance o o')
    {site : CompleteSite} (hs : site.Known o) : site.Known o' := by
  cases site with
  | trigger site => exact fun hr => h.registed (hs hr)
  | commitPark registed => exact fun hr => h.settled (hs hr)

/-- What a result says stays true while the outcome advances. -/
lemma Result.Known.advance {o o' : Outcome ι} (h : Outcome.Advance o o') {r : Result}
    (hr : r.Known o) : r.Known o' := by
  cases r with
  | commitPark registed ret => exact fun hb => h.settled (hr hb)
  | _ => trivial

/-- What a call relies on is not undone by the moves of others. -/
lemma Frame.Known.advance {o o' : Outcome ι} (h : Outcome.Advance o o') {f : Frame}
    (hf : f.Known o) : f.Known o' := by
  cases f with
  | registPending | registDebug | trackWaiter => exact h.registed hf
  | trigger | triggerCas => exact fun hr => h.registed (hf hr)
  | complete | completeFinal | completeCallback => exact CompleteSite.Known.advance h hf
  | registFailedCas w | registCannel w => exact fun hw => h.registed (hf hw)
  | commitPark registed => exact fun hr => h.registed (hf hr)
  | commitParkCas registed w =>
    exact fun hr => ⟨h.registed (hf hr).1, (hf hr).2.imp_right (.imp_right h.settled)⟩
  | returned r => exact Result.Known.advance h hf
  | _ => trivial

section

variable {i : ι} {sh sh' : Shared ι} {o : Outcome ι} {a : Answer} {f' : Frame}

/-- What `Regist` returns is known, and the event counts as registered only if it is. -/
lemma returnRegist_known {ret : ℤ} (h : ret = 0 → o.Registed) (hr : sh.registed → o.Registed) :
    (returnRegist sh ret).2.Known o ∧ ((returnRegist sh ret).1.registed → o.Registed) := by
  refine ⟨trivial, fun h' => ?_⟩
  simp only [returnRegist, Bool.or_eq_true, beq_iff_eq] at h'
  exact h'.elim hr h

/-- What the end of `Regist` returns is known, and the event counts as registered only if it is. -/
lemma registEnd_known {w : BitVec 64} (h : getCoPollEventPhase w = some pending → o.Registed)
    (hr : sh.registed → o.Registed) :
    (registEnd sh w).2.Known o ∧ ((registEnd sh w).1.registed → o.Registed) := by
  unfold registEnd
  split
  · exact ⟨h ‹_›, hr⟩
  · exact returnRegist_known (fun h => by simp at h) hr

/-- What a trigger returns is known, and the event counts as registered only if it is. -/
lemma returnTrigger_known {site : TriggerSite} {ret : ℤ} (h : site = .regist → o.Registed)
    (hr : sh.registed → o.Registed) :
    (returnTrigger i sh site ret).2.Known o ∧
      ((returnTrigger i sh site ret).1.registed → o.Registed) := by
  have hr' : (if ret = 0 then sh.returnZero i else sh).registed → o.Registed := by
    split <;> exact hr
  cases site with
  | client => exact ⟨trivial, hr'⟩
  | initFdEvent => exact ⟨trivial, hr'⟩
  | regist => exact returnRegist_known (fun _ => h rfl) hr'

/-- What `UnRegist` returns is known, and the event counts as registered only if it is. -/
lemma returnUnRegist_known {site : UnRegistSite} {ret : ℤ} (hr : sh.registed → o.Registed) :
    (returnUnRegist i sh site ret).2.Known o ∧
      ((returnUnRegist i sh site ret).1.registed → o.Registed) := by
  have hr' : (if ret = 0 then sh.returnZero i else sh).registed → o.Registed := by
    split <;> exact hr
  cases site with
  | client => exact ⟨trivial, hr'⟩
  | regist => exact returnRegist_known (fun h => by simp at h) hr'

/-- What a completion returns is known, and the event counts as registered only if it is. -/
lemma returnComplete_known {site : CompleteSite} (h : site.Known o)
    (hr : sh.registed → o.Registed) :
    (returnComplete i sh site).2.Known o ∧
      ((returnComplete i sh site).1.registed → o.Registed) := by
  cases site with
  | trigger site => exact returnTrigger_known h hr
  | commitPark registed => exact ⟨h, hr⟩

/-- The point after the compare-and-swap of a trigger is known. -/
lemma triggerCas_known {site : TriggerSite} {m : EventMask} {w : BitVec 64}
    (h : site = .regist → o.Registed) (hr : sh.registed → o.Registed) :
    (triggerCas i sh a site m w).2.Known o ∧
      ((triggerCas i sh a site m w).1.registed → o.Registed) := by
  unfold triggerCas
  split
  case h_5 => exact returnTrigger_known h hr
  all_goals
    split
    · first
      | exact returnTrigger_known h hr
      | exact ⟨h, hr⟩
    · exact ⟨h, hr⟩

/-- The point after the compare-and-swap of a withdrawal is known. -/
lemma unRegistCas_known {site : UnRegistSite} {w : BitVec 64} (hr : sh.registed → o.Registed) :
    (unRegistCas i sh a site w).2.Known o ∧
      ((unRegistCas i sh a site w).1.registed → o.Registed) := by
  unfold unRegistCas
  split
  case h_5 => exact returnUnRegist_known hr
  all_goals
    split
    · exact ⟨trivial, hr⟩
    · exact ⟨trivial, hr⟩

/-- `CommitPark` keeps its promise: the exchange that parks or consumes settles the park, and
so does finding neither `ARMED` nor `PENDING`. -/
lemma commitParkCas_known {registed : Bool} {w : BitVec 64} (hw : sh.state = o.word)
    (hw' : (commitParkCas i sh a registed w).1.state = o'.word) (ho : Outcome.Advance o o')
    (h : Frame.Known o (.commitParkCas registed w)) (hr : sh.registed → o'.Registed) :
    (commitParkCas i sh a registed w).2.Known o' ∧
      ((commitParkCas i sh a registed w).1.registed → o'.Registed) := by
  have hagain : Frame.Known o' (.commitParkCas registed sh.state) := fun hb => by
    have hreg := (h hb).1
    refine ⟨ho.registed hreg, ?_⟩
    rw [hw, Outcome.phase_word, Option.some_inj, Option.some_inj]
    exact hreg.settled_or.imp_right (.imp_right ho.settled)
  unfold commitParkCas at hw' ⊢
  split
  · rename_i hp
    split
    · rename_i hc
      refine ⟨fun _ => ?_, hr⟩
      simp only [hp, hc, if_true, Shared.commit] at hw'
      have := congrArg getCoPollEventPhase hw'
      rw [getCoPollEventPhase_pack, Outcome.phase_word, Option.some_inj] at this
      rw [Outcome.Settled, ← this]
      trivial
    · exact ⟨hagain, hr⟩
  · rename_i hp
    split
    · rename_i hc
      refine ⟨fun _ => ?_, hr⟩
      simp only [hp, hc, if_true, Shared.commit] at hw'
      have := congrArg getCoPollEventPhase hw'
      rw [getCoPollEventPhase_pack, Outcome.phase_word, Option.some_inj] at this
      rw [Outcome.Settled, ← this]
      trivial
    · exact ⟨hagain, hr⟩
  · rename_i hp₁ hp₂
    refine ⟨fun hb => ?_, hr⟩
    rcases (h hb).2 with hp | hp | hs
    · exact absurd hp hp₁
    · exact absurd hp hp₂
    · exact ho.settled hs

/-- An event whose word says `PENDING` has been registered. -/
lemma registed_of_pending (h : getCoPollEventPhase o.word = some pending) : o.Registed := by
  rw [Outcome.phase_word, Option.some_inj] at h
  exact ⟨by simp [h], by simp [h]⟩

/-- A step of a call keeps what the call relies on, and `Regist` returns `0` only when the event
is registered. -/
lemma Frame.step_known {f : Frame} (hf : f.step i sh a = some (sh', f'))
    (hw : sh.state = o.word) (hw' : sh'.state = o'.word) (ho : Outcome.Advance o o')
    (h : f.Known o) (hr : sh.registed → o.Registed) :
    f'.Known o' ∧ (sh'.registed → o'.Registed) := by
  replace hr : sh.registed → o'.Registed := fun hb => ho.registed (hr hb)
  have h' := h.advance ho
  cases f <;> simp only [Frame.step, Option.some.injEq, reduceCtorEq] at hf
  case initFdEvent fd events timeout =>
    unfold CoPollEvent.initFdEvent at hf
    split at hf <;> cases hf <;> exact ⟨trivial, hr⟩
  case initFdEventSample =>
    unfold CoPollEvent.initFdEventSample at hf
    split at hf <;> cases hf
    · exact ⟨trivial, hr⟩
    · refine ⟨?_, hr⟩
      split
      · exact fun h => by cases h
      · trivial
  case initFdEventCreate attempt =>
    unfold CoPollEvent.initFdEventCreate at hf
    split at hf
    · split at hf <;> cases hf <;> exact ⟨trivial, hr⟩
    · cases hf
      exact ⟨trivial, hr⟩
  case initCustomEvent key =>
    unfold CoPollEvent.initCustomEvent at hf
    split at hf <;> cases hf <;> exact ⟨trivial, hr⟩
  case trigger site m =>
    split at hf
    · obtain ⟨rfl, rfl⟩ := Prod.ext_iff.mp hf
      exact returnTrigger_known h' hr
    · cases hf
      exact ⟨h', hr⟩
  case triggerCas site m w =>
    obtain ⟨rfl, rfl⟩ := Prod.ext_iff.mp hf
    exact triggerCas_known h' hr
  case complete site m | completeFinal site m =>
    cases hf
    exact ⟨h', hr⟩
  case completeCallback site m =>
    obtain ⟨rfl, rfl⟩ := Prod.ext_iff.mp hf
    exact returnComplete_known h' hr
  case regist =>
    cases hf
    refine ⟨?_, hr⟩
    split
    · rename_i hp
      exact ho.registed (registed_of_pending (hw ▸ hp))
    · trivial
  case registPending =>
    obtain ⟨rfl, rfl⟩ := Prod.ext_iff.mp hf
    exact returnRegist_known (fun _ => h') hr
  case registArming =>
    split at hf
    · cases hf
      exact ⟨trivial, hr⟩
    · obtain ⟨rfl, rfl⟩ := Prod.ext_iff.mp hf
      exact registEnd_known (fun hp => ho.registed (registed_of_pending (hw ▸ hp))) hr
  case registFdEvent =>
    cases hf
    refine ⟨?_, hr⟩
    split <;> trivial
  case registFailed =>
    cases hf
    exact ⟨fun hp => ho.registed (registed_of_pending (hw ▸ hp)), hr⟩
  case registFailedCas w =>
    obtain ⟨rfl, rfl⟩ := Prod.ext_iff.mp hf
    unfold CoPollEvent.registFailedCas
    split
    · split
      · exact ⟨h', hr⟩
      · exact ⟨fun hp => ho.registed (registed_of_pending (hw ▸ hp)), hr⟩
    · exact ⟨h', hr⟩
  case registCannel w =>
    obtain ⟨rfl, rfl⟩ := Prod.ext_iff.mp hf
    exact registEnd_known h' hr
  case registArmed =>
    split at hf <;> cases hf
    · have hp := congrArg getCoPollEventPhase hw'
      simp only [getCoPollEventPhase_pack, Outcome.phase_word, Option.some_inj] at hp
      exact ⟨⟨by simp [← hp], by simp [← hp]⟩, hr⟩
    · exact ⟨fun hp => ho.registed (registed_of_pending (hw ▸ hp)), hr⟩
  case registDebug =>
    cases hf
    refine ⟨?_, hr⟩
    split
    · exact h'
    · trivial
  case trackWaiter =>
    split at hf
    · obtain ⟨rfl, rfl⟩ := Prod.ext_iff.mp hf
      exact returnRegist_known (fun _ => h') hr
    · cases hf
      exact ⟨fun _ => h', hr⟩
  case unRegist site =>
    cases hf
    exact ⟨trivial, hr⟩
  case unRegistCas site w =>
    obtain ⟨rfl, rfl⟩ := Prod.ext_iff.mp hf
    exact unRegistCas_known hr
  case unRegistCannel site wasArming =>
    obtain ⟨rfl, rfl⟩ := Prod.ext_iff.mp hf
    refine returnUnRegist_known ?_
    split <;> exact hr
  case commitPark registed =>
    cases hf
    refine ⟨fun hb => ⟨h' hb, ?_⟩, hr⟩
    rw [hw, Outcome.phase_word, Option.some_inj, Option.some_inj]
    exact (h hb).settled_or.imp_right (.imp_right ho.settled)
  case commitParkCas registed w =>
    obtain ⟨rfl, rfl⟩ := Prod.ext_iff.mp hf
    exact commitParkCas_known hw hw' ho h hr

end

end

/-! ## Calls that returned zero -/

section

variable {ι : Type*}

/-- A call that returned `0` from `Trigger` or `UnRegist`. -/
def Frame.ReturnedZero (f : Frame) : Prop :=
  f = .returned (.trigger 0) ∨ f = .returned (.unRegist 0)

/-- The calls that returned `0` are never forgotten. -/
lemma Effect.zeroReturns_subset {i : ι} {sh sh' : Shared ι} {r r' : Role}
    (h : Effect i sh sh' r r') : sh.ledger.zeroReturns ⊆ sh'.ledger.zeroReturns := by
  cases h <;> simp_all

variable {i : ι} {sh sh' : Shared ι} {a : Answer} {f f' : Frame}

/-- A trigger that returns 0 is in the ledger. -/
lemma returnTrigger_zero {site : TriggerSite} {ret : ℤ}
    (h : (returnTrigger i sh site ret).2.ReturnedZero) :
    i ∈ (returnTrigger i sh site ret).1.ledger.zeroReturns := by
  cases site with
  | client =>
    have hret : ret = 0 := by simpa [Frame.ReturnedZero, returnTrigger] using h
    simp [hret]
  | _ => simp [Frame.ReturnedZero, returnTrigger, returnRegist] at h

/-- A withdrawal that returns 0 is in the ledger. -/
lemma returnUnRegist_zero {site : UnRegistSite} {ret : ℤ}
    (h : (returnUnRegist i sh site ret).2.ReturnedZero) :
    i ∈ (returnUnRegist i sh site ret).1.ledger.zeroReturns := by
  cases site with
  | client =>
    have hret : ret = 0 := by simpa [Frame.ReturnedZero, returnUnRegist] using h
    simp [hret]
  | regist => simp [Frame.ReturnedZero, returnUnRegist, returnRegist] at h

/-- The end of `Regist` does not return 0 for a win. -/
lemma not_returnedZero_registEnd (w : BitVec 64) : ¬ (registEnd sh w).2.ReturnedZero := by
  unfold registEnd
  split <;> simp [Frame.ReturnedZero, returnRegist]

/-- A `Trigger` or `UnRegist` that returns `0` is recorded when it does. -/
lemma Frame.step_returnedZero (h : f.step i sh a = some (sh', f')) (hz : f'.ReturnedZero) :
    i ∈ sh'.ledger.zeroReturns := by
  cases f <;> simp only [Frame.step, Option.some.injEq, reduceCtorEq] at h
  case trigger site m =>
    split at h
    · obtain ⟨rfl, rfl⟩ := Prod.ext_iff.mp h
      exact returnTrigger_zero hz
    · cases h
      simp [ReturnedZero] at hz
  case triggerCas site m w =>
    obtain ⟨rfl, rfl⟩ := Prod.ext_iff.mp h
    unfold CoPollEvent.triggerCas at hz ⊢
    split at hz
    case h_5 => exact returnTrigger_zero hz
    all_goals
      split at hz
      · first
        | rename_i hc; simp only [hc, if_true]; exact returnTrigger_zero hz
        | simp [ReturnedZero] at hz
      · simp [ReturnedZero] at hz
  case completeCallback site m =>
    obtain ⟨rfl, rfl⟩ := Prod.ext_iff.mp h
    cases site with
    | trigger site => exact returnTrigger_zero hz
    | commitPark registed => simp [ReturnedZero, returnComplete] at hz
  case unRegistCas site w =>
    obtain ⟨rfl, rfl⟩ := Prod.ext_iff.mp h
    unfold CoPollEvent.unRegistCas at hz ⊢
    split at hz
    case h_5 => exact returnUnRegist_zero hz
    all_goals split at hz <;> simp [ReturnedZero] at hz
  case unRegistCannel site wasArming =>
    obtain ⟨rfl, rfl⟩ := Prod.ext_iff.mp h
    exact returnUnRegist_zero hz
  case registArming =>
    split at h
    · cases h
      simp [ReturnedZero] at hz
    · obtain ⟨rfl, rfl⟩ := Prod.ext_iff.mp h
      exact absurd hz (not_returnedZero_registEnd _)
  case registCannel w =>
    obtain ⟨rfl, rfl⟩ := Prod.ext_iff.mp h
    exact absurd hz (not_returnedZero_registEnd _)
  case commitParkCas registed w =>
    obtain ⟨rfl, rfl⟩ := Prod.ext_iff.mp h
    unfold CoPollEvent.commitParkCas at hz
    split at hz
    · split at hz <;> simp [ReturnedZero] at hz
    · split at hz <;> simp [ReturnedZero] at hz
    · simp [ReturnedZero] at hz
  case registFailedCas w =>
    obtain ⟨rfl, rfl⟩ := Prod.ext_iff.mp h
    unfold CoPollEvent.registFailedCas at hz
    split at hz
    · split at hz <;> simp [ReturnedZero] at hz
    · simp [ReturnedZero] at hz
  case initFdEvent fd events timeout =>
    unfold CoPollEvent.initFdEvent at h
    split at h <;> cases h <;> simp [ReturnedZero] at hz
  case initFdEventSample =>
    unfold CoPollEvent.initFdEventSample at h
    split at h <;> cases h
    · simp [ReturnedZero] at hz
    · split at hz <;> simp [ReturnedZero] at hz
  case initFdEventCreate attempt =>
    unfold CoPollEvent.initFdEventCreate at h
    split at h
    · split at h <;> cases h <;> simp [ReturnedZero] at hz
    · cases h
      simp [ReturnedZero] at hz
  case initCustomEvent key =>
    unfold CoPollEvent.initCustomEvent at h
    split at h <;> cases h <;> simp [ReturnedZero] at hz
  case registArmed | trackWaiter =>
    split at h <;> cases h <;> simp [ReturnedZero] at hz
  case regist | registFdEvent | registDebug =>
    cases h
    split at hz <;> simp [ReturnedZero] at hz
  all_goals
    cases h
    simp [ReturnedZero] at hz

end

/-! ## All runs -/

/-- The invariant of an event: it has an outcome, and every call may rely on what it knows. -/
structure Inv (s : State ι) (o : Outcome ι) : Prop extends Matches s o where
  registed : s.shared.registed → o.Registed
  known : ∀ k, (s.call k).Known o
  zero : ∀ k, (s.call k).ReturnedZero → k ∈ s.shared.ledger.zeroReturns

/-- The step lemma: the invariant moves along with the outcome. -/
lemma Inv.next {s s' : State ι} {o : Outcome ι} {l : Label ι} (h : Inv s o)
    (hs : next s l = some s') : ∃ o', Outcome.Advance o o' ∧ Inv s' o' := by
  obtain ⟨o', ho, hm⟩ := h.toMatches.next hs
  refine ⟨o', ho, ?_⟩
  cases l with
  | invoke i op =>
    simp only [CoPollEvent.next] at hs
    split at hs <;> cases hs
    refine ⟨hm, fun hr => ho.registed (h.registed hr), fun k => ?_, fun k hz => ?_⟩
    · by_cases hk : k = i
      · subst hk
        simp only [Function.update_self]
        cases op with
        | commitPark => exact fun hr => ho.registed (h.registed hr)
        | trigger m => exact fun h => by cases h
        | _ => trivial
      · simp only [Function.update_of_ne hk]
        exact (h.known k).advance ho
    · by_cases hk : k = i
      · subst hk
        cases op <;> simp [Frame.ReturnedZero, Op.frame] at hz
      · simp only [Function.update_of_ne hk] at hz
        exact h.zero k hz
  | advance i a =>
    obtain ⟨⟨sh', f'⟩, hf, rfl⟩ := Option.map_eq_some_iff.mp hs
    obtain ⟨hk, hr⟩ := Frame.step_known hf h.word hm.word ho (h.known i) h.registed
    refine ⟨hm, hr, fun k => ?_, fun k hz => ?_⟩
    · by_cases hki : k = i
      · subst hki
        simpa using hk
      · simp only [Function.update_of_ne hki]
        exact (h.known k).advance ho
    · by_cases hki : k = i
      · subst hki
        exact Frame.step_returnedZero hf (by simpa using hz)
      · simp only [Function.update_of_ne hki] at hz
        exact (Frame.step_effect hf).zeroReturns_subset (h.zero k hz)

/-- In every reachable state the event has an outcome that its calls agree with. -/
theorem exists_inv {s : State ι} (h : (system ι).Reachable s) : ∃ o, Inv s o := by
  refine System.Reachable.induct (I := fun s => ∃ o, Inv s o) ?_ ?_ h
  · rintro _ rfl
    exact ⟨.inited, ⟨rfl, rfl, fun _ => rfl⟩, Bool.noConfusion, fun _ => trivial,
      fun _ hz => by simp [init, Frame.ReturnedZero] at hz⟩
  · rintro s l s' ⟨o, ho⟩ hs
    obtain ⟨o', -, ho'⟩ := ho.next hs
    exact ⟨o', ho'⟩

/-- A call that is not under way. -/
def Frame.Quiet (f : Frame) : Prop :=
  f = .idle ∨ ∃ r, f = .returned r

/-- A quiet frame plays no part. -/
lemma Frame.Quiet.role {f : Frame} (h : f.Quiet) : f.role = .none := by
  obtain rfl | ⟨r, rfl⟩ := h <;> rfl

/-- The one-shot contract of an event, read in a state. -/
structure OneShot (s : State ι) : Prop where
  /-- At most one `Trigger` or `UnRegist`, by a client or inside another call, returns `0`. -/
  zeroReturns : s.shared.ledger.zeroReturns.length ≤ 1
  /-- The calls of clients are among them. -/
  returnedZero : ∀ i, (s.call i).ReturnedZero → i ∈ s.shared.ledger.zeroReturns
  /-- Whoever returned `0` is the one winner. -/
  winner : ∀ i ∈ s.shared.ledger.zeroReturns,
    s.shared.ledger.winners = [(i, .unRegist)] ∨
      ∃ m, s.shared.ledger.winners = [(i, .trigger m)]
  /-- The callback runs at most once. -/
  callbacks : s.shared.ledger.callbacks.length ≤ 1
  /-- It runs after `CommitPark`, with the mask of the one winning `Trigger`. -/
  callback : ∀ m ∈ s.shared.ledger.callbacks,
    s.shared.ledger.committed ≠ [] ∧ ∃ i, s.shared.ledger.winners = [(i, .trigger m)]
  /-- It never runs if `UnRegist` wins. -/
  unRegist : ∀ i, (i, Win.unRegist) ∈ s.shared.ledger.winners → s.shared.ledger.callbacks = []
  /-- It has run if a `Trigger` won, a `CommitPark` made after a successful `Regist` has
  returned, and so have all other calls. -/
  completed : ∀ i m k ret, (i, Win.trigger m) ∈ s.shared.ledger.winners →
    s.call k = .returned (.commitPark true ret) → (∀ j, (s.call j).Quiet) →
    s.shared.ledger.callbacks = [m]
  /-- `FINAL` and `CANCELLED` are never left. -/
  terminal : ∀ p l s', getCoPollEventPhase s.shared.state = some p → p.Terminal →
    next s l = some s' → getCoPollEventPhase s'.shared.state = some p

namespace Outcome

omit [DecidableEq ι]

/-- At most one call returns 0. -/
lemma zeroReturns_length (o : Outcome ι) : o.ledger.zeroReturns.length ≤ 1 := by
  cases o with
  | completing i k m b stored => cases b <;> simp [ledger]
  | _ => simp [ledger]

/-- A call that returns 0 is the only winner, and it was a withdrawal or a trigger. -/
lemma winners_of_zeroReturns {o : Outcome ι} {i : ι} (h : i ∈ o.ledger.zeroReturns) :
    o.ledger.winners = [(i, .unRegist)] ∨ ∃ m, o.ledger.winners = [(i, .trigger m)] := by
  cases o with
  | completing j k m b stored => cases b <;> simp_all [ledger]
  | _ => simp_all [ledger]

/-- Only a completed event has called back. -/
lemma eq_completed_of_callbacks {o : Outcome ι} (h : o.ledger.callbacks ≠ []) :
    ∃ i k m, o = completed i k m := by
  cases o with
  | completed i k m => exact ⟨i, k, m, rfl⟩
  | _ => exact absurd rfl h

end Outcome

/-- When a `Trigger` has won, the park is settled and no call is under way, the event is
completed. -/
lemma Matches.completed_of_quiet {s : State ι} {o : Outcome ι} (h : Matches s o) {i : ι}
    {m : EventMask} (hw : (i, Win.trigger m) ∈ o.ledger.winners) (hs : o.Settled)
    (hq : ∀ j, (s.call j).Quiet) : ∃ k, o = .completed i k m := by
  cases o with
  | completed j k m' =>
    simp only [Outcome.ledger, List.mem_singleton, Prod.mk.injEq, Win.trigger.injEq] at hw
    obtain ⟨rfl, rfl⟩ := hw
    exact ⟨k, rfl⟩
  | completing j k m' b stored =>
    have hr := h.role (Outcome.runner b j k)
    rw [(hq _).role] at hr
    simp [Outcome.role] at hr
  | pending j m' => exact absurd hs id
  | _ => simp [Outcome.ledger] at hw

/-- Whatever the calls on an event do and however they interleave, the event is one-shot. -/
theorem oneShot_of_reachable {s : State ι} (h : (system ι).Reachable s) : OneShot s := by
  obtain ⟨o, ho⟩ := exists_inv h
  refine ⟨?_, ho.zero, ?_, ?_, ?_, ?_, ?_, ?_⟩
  · rw [ho.ledger]
    exact o.zeroReturns_length
  · intro i hi
    rw [ho.ledger] at hi ⊢
    exact Outcome.winners_of_zeroReturns hi
  · rw [ho.ledger]
    by_cases hc : o.ledger.callbacks = []
    · simp [hc]
    · obtain ⟨i, k, m, rfl⟩ := Outcome.eq_completed_of_callbacks hc
      simp [Outcome.ledger]
  · intro m hm
    rw [ho.ledger] at hm ⊢
    obtain ⟨i, k, m', rfl⟩ := Outcome.eq_completed_of_callbacks (List.ne_nil_of_mem hm)
    simp only [Outcome.ledger, List.mem_singleton] at hm
    subst hm
    exact ⟨List.cons_ne_nil _ _, i, rfl⟩
  · intro i hi
    rw [ho.ledger] at hi ⊢
    by_contra hc
    obtain ⟨j, k, m, rfl⟩ := Outcome.eq_completed_of_callbacks hc
    simp [Outcome.ledger] at hi
  · intro i m k ret hw hk hq
    have hs : o.Settled := by
      have := ho.known k
      rw [hk] at this
      exact this rfl
    rw [ho.ledger] at hw ⊢
    obtain ⟨k', rfl⟩ := ho.completed_of_quiet hw hs hq
    rfl
  · intro p l s' hp ht hs
    obtain ⟨o', hm, ho'⟩ := ho.next hs
    rw [ho.word, Outcome.phase_word, Option.some_inj] at hp
    subst hp
    rcases hm with rfl | hm
    · rw [ho'.word, Outcome.phase_word]
    · rw [ho'.word, hm.terminal ht, Outcome.phase_word]

/-- A registration, a park and a trigger by three calls, one after the other. -/
def parkedRun : List (Label (Fin 3)) :=
  [.invoke 0 .regist :: List.replicate 6 (.advance 0 {}),
    .invoke 1 .commitPark :: List.replicate 2 (.advance 1 {}),
    .invoke 2 (.trigger pollEventCustom) :: List.replicate 5 (.advance 2 {})].flatten

/-- The run `parkedRun` completes the event, which is one-shot. -/
theorem oneShot_parkedRun :
    ∃ s : State (Fin 3), s.shared.ledger.callbacks = [pollEventCustom] ∧ OneShot s := by
  have h : (system (Fin 3)).endsIn init parkedRun
      (fun s => s.shared.ledger.callbacks = [pollEventCustom]) = true := by decide
  obtain ⟨s, hs, hc⟩ := System.exists_of_endsIn rfl h
  exact ⟨s, hc, oneShot_of_reachable hs⟩

end BbtCoroutine.CoPollEvent
