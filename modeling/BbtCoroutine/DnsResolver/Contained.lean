import BbtCoroutine.DnsResolver.Model

/-!
# The jobs of the `DnsResolver` and the calls they were made for

The work of a job writes into the frame of the call of `Await` that made it.  The call waits
for the notification that follows the work, but it is woken by a cancellation as well, and then
it returns while its job is still queued or running.  As long as no cancellation comes between
a call and its job, every job that is queued or running has its call parked behind it.
-/

namespace BbtCoroutine.DnsResolver

open Transition

variable {Co : Type*}

/-! ## The calls behind the jobs -/

/-- The call still waits for the job of its wait `n`. -/
structure Frame.Waiting (f : Frame) (n : ℕ) : Prop where
  current : n = f.wait.n
  parked : f.pc = .commit ∨ f.pc = .parked
  undecided : f.wait.round.undecided = true

/-- The job of the wait `n` has been made: the current wait is a later one, or it is past its
callback. -/
structure Frame.Made (f : Frame) (n : ℕ) : Prop where
  le : n ≤ f.wait.n
  past : n = f.wait.n → f.pc.early = false

/-- What holds of the jobs while no cancellation comes between a call and its job. -/
structure Inv (s : State Co) : Prop where
  unstarted : s.pool.thread = .none → s.pool.queue = []
  nodup : s.pool.jobs.Nodup
  made : ∀ job ∈ s.pool.jobs, (s.frame job.co).Made job.n
  waiting : ∀ job ∈ s.pool.pending, (s.frame job.co).Waiting job.n

/-- A job is pending if it is queued or running. -/
lemma Pool.mem_pending {p : Pool Co} {job : Job Co} :
    job ∈ p.pending ↔ job ∈ p.queue ∨ p.thread = .running job := by
  unfold Pool.pending
  cases p.thread <;> simp [eq_comm]

/-- The call of a job that is queued or running has not returned. -/
lemma Inv.contained {s : State Co} (h : Inv s) : s.Contained := by
  intro job hr
  have hp : job ∉ s.pool.pending := by
    intro hm
    have hw := h.waiting job hm
    rcases hr with hr | ⟨-, hr⟩
    · exact absurd hw.current hr.ne
    · rcases hw.parked with hp | hp <;> rw [hp] at hr <;> cases hr
  rw [Pool.mem_pending, not_or] at hp
  exact hp

namespace Inv

variable {s : State Co}

/-- A step of the worker thread that adds no job. -/
lemma setPool (h : Inv s) {p : Pool Co} (hu : p.thread = .none → p.queue = [])
    (hn : p.jobs.Nodup) (hj : ∀ job ∈ p.jobs, job ∈ s.pool.jobs)
    (hp : ∀ job ∈ p.pending, job ∈ s.pool.pending) : Inv { s with pool := p } where
  unstarted := hu
  nodup := hn
  made job h' := h.made job (hj job h')
  waiting job h' := h.waiting job (hp job h')

/-- The job of a call at its callback has not been made. -/
lemma job_not_mem (h : Inv s) {c : Co} (hc : (s.frame c).pc = .callback) :
    s.job c ∉ s.pool.jobs := by
  intro hj
  have := (h.made _ hj).past rfl
  rw [State.job, hc] at this
  cases this

/-- The worker thread takes a job. -/
lemma pop (h : Inv s) {job : Job Co} {queue : List (Job Co)} (ht : s.pool.thread = .waiting)
    (hq : s.pool.queue = job :: queue) :
    Inv { s with pool := { queue, thread := .running job } } := by
  have hjobs : (⟨queue, .running job⟩ : Pool Co).jobs.Perm s.pool.jobs := by
    unfold Pool.jobs
    rw [ht, hq]
    simp [Worker.job]
  refine h.setPool (by nofun) (hjobs.nodup_iff.mpr h.nodup) (fun j hj => hjobs.mem_iff.mp hj) ?_
  intro j hj
  rw [Pool.mem_pending] at hj ⊢
  rw [hq]
  rcases hj with hj | hj
  · exact .inl (List.mem_cons_of_mem _ hj)
  · obtain rfl := Worker.running.inj hj
    exact .inl List.mem_cons_self

end Inv

/-! ## The steps of a call -/

namespace Frame

variable {f f' : Frame} {n : ℕ}

/-- The call of a job that was made. -/
lemma Made.call (h : f.Made n) : f.call.Made n :=
  ⟨h.le, fun _ => rfl⟩

/-- A wait record of the same wait changes nothing. -/
lemma Made.setWait (h : f.Made n) {w : Wait} (hw : w.n = f.wait.n) :
    Frame.Made { f with wait := w } n :=
  ⟨hw ▸ h.le, fun hn => h.past (hn.trans hw)⟩

/-- A frame goes on waiting while its wait is undecided. -/
lemma Waiting.setWait (h : f.Waiting n) {w : Wait} (hw : w.n = f.wait.n)
    (hu : w.round.undecided = true) : Frame.Waiting { f with wait := w } n :=
  ⟨h.current.trans hw.symm, h.parked, hu⟩

/-- A call that is not parked does not wait for its job. -/
lemma not_waiting (h₁ : f.pc ≠ .commit) (h₂ : f.pc ≠ .parked) : ¬ f.Waiting n := by
  intro hw
  rcases hw.parked with hp | hp
  · exact h₁ hp
  · exact h₂ hp

/-- A step of a call begins a wait or leaves the wait it is in, and then it is not early unless
it was before. -/
lemma step_cases {a : Answer} (h : f.step a = some f') :
    f'.wait.n = f.wait.n + 1 ∨
      f'.wait.n = f.wait.n ∧ (f.pc.early = false → f'.pc.early = false) := by
  unfold step at h
  cases hp : f.pc <;> simp only [hp] at h
  case idle | callback | returned => cases h
  case await =>
    obtain rfl := Option.some.inj h
    split_ifs
    · exact .inr ⟨rfl, fun _ => rfl⟩
    · exact .inl rfl
  case parked =>
    split at h
    · obtain rfl := Option.some.inj h
      exact .inr ⟨rfl, fun _ => rfl⟩
    · cases h
  case notify =>
    obtain rfl := Option.some.inj h
    exact .inr ⟨Wait.notify_n _ _, fun _ => rfl⟩
  all_goals
    obtain rfl := Option.some.inj h
    exact .inr ⟨rfl, by simp [Pc.early]⟩

/-- A step of the resolver keeps the job that was made. -/
lemma Made.step {a : Answer} (hm : f.Made n) (h : f.step a = some f') : f'.Made n := by
  have hle := hm.le
  rcases step_cases h with hn | ⟨hn, he⟩
  · exact ⟨by omega, by omega⟩
  · exact ⟨by omega, fun heq => he (hm.past (heq.trans hn))⟩

/-- A call that waits for its job goes on waiting. -/
lemma Waiting.step {a : Answer} (hw : f.Waiting n) (h : f.step a = some f') : f'.Waiting n := by
  unfold Frame.step at h
  rcases hw.parked with hp | hp <;> simp only [hp] at h
  · obtain rfl := Option.some.inj h
    exact ⟨hw.current, .inr rfl, by simpa using hw.undecided⟩
  · split at h
    · rename_i m hr
      have hu := hw.undecided
      rw [hr] at hu
      cases hu
    · cases h

end Frame

/-! ## Enqueueing -/

/-- The thread after a job was accepted. -/
def Worker.started : Worker Co → Worker Co
  | none => waiting
  | w => w

@[simp] lemma Worker.job_started (w : Worker Co) : w.started.job = w.job := by
  cases w <;> rfl

/-- A worker that has been started is there. -/
lemma Worker.started_ne_none (w : Worker Co) : w.started ≠ none := by
  cases w <;> nofun

@[simp] lemma Worker.started_eq_running {w : Worker Co} {job : Job Co} :
    w.started = running job ↔ w = running job := by
  cases w <;> simp [started]

namespace Pool

variable {p : Pool Co} {job : Job Co}

/-- A job is appended to the queue, or the resolver is left as it is. -/
lemma enqueue_cases (h : p.thread = .none → p.queue = []) (job : Job Co) (fails : Bool) :
    p.enqueue job fails = (⟨p.queue ++ [job], p.thread.started⟩, true) ∨
      p.enqueue job fails = (p, false) := by
  obtain ⟨queue, thread⟩ := p
  unfold enqueue
  split
  · exact .inr rfl
  · cases thread
    case none =>
      obtain rfl := h rfl
      cases fails
      · exact .inl rfl
      · exact .inr rfl
    all_goals exact .inl rfl

/-- The jobs of a pool after a job has been submitted. -/
lemma jobs_append : (⟨p.queue ++ [job], p.thread.started⟩ : Pool Co).jobs.Perm (job :: p.jobs) := by
  unfold jobs
  rw [Worker.job_started, List.append_assoc]
  exact List.perm_middle

/-- The pending jobs of a pool after a job has been submitted. -/
lemma mem_pending_append {j : Job Co} :
    j ∈ (⟨p.queue ++ [job], p.thread.started⟩ : Pool Co).pending ↔ j = job ∨ j ∈ p.pending := by
  simp only [mem_pending, List.mem_append, List.mem_singleton, Worker.started_eq_running]
  tauto

end Pool

/-! ## The invariant -/

variable [DecidableEq Co]

/-- The step does not let a cancellation come between a call and its job: no job is accepted
whose wait is already decided, and no cancellation decides the wait of a job that is queued or
running. -/
def Kept (s : State Co) : Label Co → Prop
  | .step c a =>
    (s.frame c).pc = .callback → (s.pool.enqueue (s.job c) a.threadFails).2 = true →
      (s.frame c).wait.round.undecided = true
  | .cancelTrigger c =>
    (s.frame c).wait.round.undecided = true → s.job c ∉ s.pool.pending
  | _ => True

/-- Whether a step is kept can be computed. -/
instance (s : State Co) (l : Label Co) : Decidable (Kept s l) := by
  unfold Kept
  cases l <;> infer_instance

namespace Inv

variable {s : State Co}

/-- A step that changes one frame only. -/
lemma setFrame (h : Inv s) {c : Co} {f : Frame} (hm : ∀ n, (s.frame c).Made n → f.Made n)
    (hw : ∀ n, ⟨c, n⟩ ∈ s.pool.pending → (s.frame c).Waiting n → f.Waiting n) :
    Inv (s.setFrame c f) where
  unstarted := h.unstarted
  nodup := h.nodup
  made job hj := by
    obtain ⟨co, n⟩ := job
    by_cases hc : co = c
    · subst hc
      simpa [State.setFrame] using hm n (h.made _ hj)
    · simpa [State.setFrame, hc] using h.made _ hj
  waiting job hj := by
    obtain ⟨co, n⟩ := job
    by_cases hc : co = c
    · subst hc
      simpa [State.setFrame] using hw n hj (h.waiting _ hj)
    · simpa [State.setFrame, hc] using h.waiting _ hj

/-- The callback of the yield, with a job that is accepted. -/
lemma accept (h : Inv s) {c : Co} (hc : (s.frame c).pc = .callback)
    (hu : (s.frame c).wait.round.undecided = true) :
    Inv ({ s with pool := ⟨s.pool.queue ++ [s.job c], s.pool.thread.started⟩ }.setFrame c
      { s.frame c with enqueued := true, pc := .commit }) where
  unstarted hn := absurd hn (Worker.started_ne_none _)
  nodup := Pool.jobs_append.nodup_iff.mpr (List.nodup_cons.mpr ⟨h.job_not_mem hc, h.nodup⟩)
  made job hj := by
    obtain ⟨co, n⟩ := job
    have hj := Pool.jobs_append.mem_iff.mp hj
    by_cases hco : co = c
    · subst hco
      have hle : n ≤ (s.frame co).wait.n := by
        rcases List.mem_cons.mp hj with he | hj
        · exact (congrArg Job.n he).le
        · exact (h.made _ hj).le
      simpa [State.setFrame] using (⟨hle, fun _ => rfl⟩ :
        Frame.Made { s.frame co with enqueued := true, pc := .commit } n)
    · rcases List.mem_cons.mp hj with he | hj
      · exact absurd (congrArg Job.co he) hco
      · simpa [State.setFrame, hco] using h.made _ hj
  waiting job hj := by
    obtain ⟨co, n⟩ := job
    by_cases hco : co = c
    · subst hco
      rcases Pool.mem_pending_append.mp hj with he | hj
      · simpa [State.setFrame] using (⟨congrArg Job.n he, .inl rfl, hu⟩ :
          Frame.Waiting { s.frame co with enqueued := true, pc := .commit } n)
      · exact absurd (h.waiting _ hj) (Frame.not_waiting (by simp [hc]) (by simp [hc]))
    · rcases Pool.mem_pending_append.mp hj with he | hj
      · exact absurd (congrArg Job.co he) hco
      · simpa [State.setFrame, hco] using h.waiting _ hj

/-- The callback of a wait keeps the invariant. -/
lemma callback (h : Inv s) {c : Co} {a : Answer} (hc : (s.frame c).pc = .callback)
    (hk : Kept s (.step c a)) : Inv (s.callback c a) := by
  have hk := hk hc
  unfold State.callback
  rcases Pool.enqueue_cases h.unstarted (s.job c) a.threadFails with he | he
  · rw [he] at hk ⊢
    exact h.accept hc (hk rfl)
  · rw [he]
    exact h.setFrame (fun n hm => ⟨hm.le, fun _ => rfl⟩)
      fun n _ hw => absurd hw (Frame.not_waiting (by simp [hc]) (by simp [hc]))

/-- The frame that a work writes into waits as before. -/
lemma work (h : Inv s) {job : Job Co} (ht : s.pool.thread = .running job) (ret : ℤ) :
    Inv (s.work job ret) := by
  have hjobs : (⟨s.pool.queue, .notifying job⟩ : Pool Co).jobs = s.pool.jobs := by
    unfold Pool.jobs
    rw [ht]
    rfl
  have hs : Inv { s with pool := { s.pool with thread := .notifying job } } := by
    refine h.setPool (by nofun) (hjobs ▸ h.nodup) (fun j hj => hjobs ▸ hj) ?_
    intro j hj
    rw [Pool.mem_pending] at hj ⊢
    exact .inl (hj.resolve_right (by nofun))
  refine hs.setFrame (fun n hm => ?_) fun n _ hw => ?_
  · split_ifs
    · exact ⟨hm.le, hm.past⟩
    · exact hm
  · split_ifs
    · exact ⟨hw.current, hw.parked, hw.undecided⟩
    · exact hw

/-- A notification wakes no call but the one whose work has ended. -/
lemma notify (h : Inv s) {job : Job Co} (ht : s.pool.thread = .notifying job) :
    Inv (s.notify job) := by
  have hjobs : s.pool.jobs = s.pool.queue ++ [job] := by
    unfold Pool.jobs
    rw [ht]
    rfl
  have hn := h.nodup
  rw [hjobs, List.nodup_append] at hn
  have hs : Inv { s with pool := { s.pool with thread := .waiting } } := by
    refine h.setPool (by nofun) ?_ ?_ ?_
    · simpa [Pool.jobs, Worker.job] using hn.1
    · intro j hj
      rw [hjobs]
      exact List.mem_append_left _ (by simpa [Pool.jobs, Worker.job] using hj)
    · intro j hj
      rw [Pool.mem_pending] at hj ⊢
      exact .inl (hj.resolve_right (by nofun))
  refine hs.setFrame (fun n hm => hm.setWait (Wait.notify_n _ _)) fun n hp hw => ?_
  have hne : (s.frame job.co).wait.n ≠ job.n := by
    intro he
    have hq : (⟨job.co, n⟩ : Job Co) ∈ s.pool.queue :=
      (Pool.mem_pending.mp hp).resolve_right (by nofun)
    exact hn.2.2 _ hq job (List.mem_singleton_self job)
      (by rw [hw.current.trans he])
  exact hw.setWait (Wait.notify_n _ _) (by rw [Wait.notify_of_ne hne]; exact hw.undecided)

/-- A cancellation of a kept step keeps the invariant. -/
lemma cancelTrigger (h : Inv s) {c : Co} (hk : Kept s (.cancelTrigger c)) :
    Inv (s.setFrame c { s.frame c with wait := (s.frame c).wait.cancelTrigger }) := by
  refine h.setFrame (fun n hm => hm.setWait rfl) fun n hp hw => ?_
  have hj : s.job c = ⟨c, n⟩ := by rw [State.job, hw.current]
  exact absurd hp (hj ▸ hk hw.undecided)

/-- The step lemma of the resolver. -/
lemma next {s' : State Co} {l : Label Co} (h : Inv s) (hk : Kept s l)
    (hs : next s l = some s') : Inv s' := by
  cases l with
  | call c =>
    simp only [DnsResolver.next] at hs
    split_ifs at hs with ho
    obtain rfl := Option.some.inj hs
    refine h.setFrame (fun n hm => hm.call) fun n _ hw => absurd hw (Frame.not_waiting ?_ ?_) <;>
      intro hp <;> rw [hp] at ho <;> cases ho
  | step c a =>
    simp only [DnsResolver.next] at hs
    split_ifs at hs with hc
    · obtain rfl := Option.some.inj hs
      exact h.callback hc hk
    · obtain ⟨f, hf, rfl⟩ := Option.map_eq_some_iff.mp hs
      exact h.setFrame (fun n hm => hm.step hf) fun n _ hw => hw.step hf
  | requestCancel c =>
    obtain rfl := Option.some.inj hs
    exact h.setFrame (fun n hm => hm.setWait rfl) fun n _ hw => hw.setWait rfl hw.undecided
  | cancelTrigger c =>
    simp only [DnsResolver.next] at hs
    split_ifs at hs
    obtain rfl := Option.some.inj hs
    exact h.cancelTrigger hk
  | pop =>
    simp only [DnsResolver.next] at hs
    split at hs
    · rename_i ht hq
      obtain rfl := Option.some.inj hs
      exact h.pop ht hq
    · cases hs
  | work ret =>
    simp only [DnsResolver.next] at hs
    split at hs
    · rename_i ht
      obtain rfl := Option.some.inj hs
      exact h.work ht ret
    · cases hs
  | notify =>
    simp only [DnsResolver.next] at hs
    split at hs
    · rename_i ht
      obtain rfl := Option.some.inj hs
      exact h.notify ht
    · cases hs

end Inv

/-- The invariant holds in every state of a run in which no cancellation comes between a call
and its job. -/
theorem inv_of_kept {s : State Co} (h : (system Co).ReachableWhen Kept s) : Inv s := by
  refine h.induct ?_ fun s l s' hI hk hs => hI.next hk hs
  rintro s rfl
  exact ⟨fun _ => rfl, List.nodup_nil, by nofun, by nofun⟩

/-- A job never outlives its call in a run in which no cancellation comes between them. -/
theorem contained_of_kept {s : State Co} (h : (system Co).ReachableWhen Kept s) : s.Contained :=
  (inv_of_kept h).contained

/-- The steps of a call whose job is accepted, up to its park. -/
def park (c : Co) : List (Label Co) :=
  [.call c, .step c {}, .step c {}, .step c {}, .step c {}, .step c {}]

/-- A call is woken by the notification that follows its work, and returns. -/
theorem contained_of_kept_notified : ∃ s : State Unit, (system Unit).ReachableWhen Kept s ∧
    (s.frame ()).pc = .returned (some 0) ∧ s.Contained := by
  have hrun : (system Unit).endsInWhen Kept {}
      (park () ++ [.pop, .work 0, .notify, .step () {}, .step () {}])
      (fun s => (s.frame ()).pc = .returned (some 0)) = true := by decide +kernel
  obtain ⟨s, hs, hp⟩ := System.exists_of_endsInWhen rfl hrun
  exact ⟨s, hs, hp, contained_of_kept hs⟩

/-- A cancellation wakes a call while its work runs: the call returns before its job. -/
theorem not_contained_cancelled :
    ∃ s : State Unit, (system Unit).Reachable s ∧ ¬ s.Contained := by
  have hrun : (system Unit).endsIn {}
      (park () ++ [.pop, .requestCancel (), .cancelTrigger (), .step () {}, .step () {}])
      (fun s => (s.frame ()).pc = .returned (some 0) ∧ (s.frame ()).wait.n = 1 ∧
        s.pool.thread = .running ⟨(), 1⟩) = true := by decide +kernel
  obtain ⟨s, hs, hp, hn, ht⟩ := System.exists_of_endsIn rfl hrun
  exact ⟨s, hs, fun hc => (hc ⟨(), 1⟩ (.inr ⟨hn.symm, by rw [hp]; rfl⟩)).2 ht⟩

end BbtCoroutine.DnsResolver
