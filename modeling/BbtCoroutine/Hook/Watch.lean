import BbtCoroutine.Hook.Poll

/-!
# What the emulation of `poll` watches

The wait of `PollCore` is on an epoll set, which has one mask for each descriptor; `poll`
reports of each entry.  `watches_iff` states for which arrays the two agree.
-/

namespace BbtCoroutine.Hook

/-! ## Changes of readiness -/

/-- The descriptors denote the same files in `k` and in `k'`; those that can be polled may
have other conditions. -/
structure SameFiles (k k' : Files) : Prop where
  pollable : ∀ fd, (k' fd).map File.pollable = (k fd).map File.pollable
  fixed : ∀ fd f, k fd = some f → f.pollable = false → k' fd = some f

namespace SameFiles

variable {k k' : Files}

/-- A closed descriptor is closed in both. -/
lemma closed (h : SameFiles k k') {fd : ℤ} (hk : k fd = none) : k' fd = none := by
  have hmap := h.pollable fd
  rw [hk] at hmap
  exact Option.map_eq_none_iff.mp hmap

/-- A descriptor denotes a file of the same kind in both. -/
lemma opened (h : SameFiles k k') {fd : ℤ} {f : File} (hk : k fd = some f) :
    ∃ f', k' fd = some f' ∧ f'.pollable = f.pollable := by
  have hmap := h.pollable fd
  rw [hk] at hmap
  exact Option.map_eq_some_iff.mp hmap

end SameFiles

/-- The files of `k`, with the conditions `m` at the descriptor `fd` and none at the others
that can be polled. -/
def only (k : Files) (fd : ℤ) (m : EventMask) : Files := fun fd' =>
  (k fd').map fun f =>
    if f.pollable = true then { f with ready := if fd' = fd then m else 0 } else f

/-- Letting one descriptor be ready leaves the files as they are. -/
lemma sameFiles_only (k : Files) (fd : ℤ) (m : EventMask) : SameFiles k (only k fd m) where
  pollable fd' := by
    unfold only
    rw [Option.map_map]
    congr 1
    funext f
    dsimp only [Function.comp_apply]
    split_ifs <;> rfl
  fixed fd' f hf hpoll := by
    unfold only
    rw [hf, Option.map_some, if_neg (by rw [hpoll]; decide)]

/-- A file that can be polled is ready on the chosen descriptor only. -/
lemma only_of_pollable {k : Files} {fd fd' : ℤ} {m : EventMask} {f : File}
    (hf : k fd' = some f) (hpoll : f.pollable = true) :
    only k fd m fd' = some { f with ready := if fd' = fd then m else 0 } := by
  unfold only
  rw [hf, Option.map_some, if_pos hpoll]

/-- A file that cannot be polled stays as it is. -/
lemma only_of_not_pollable {k : Files} {fd fd' : ℤ} {m : EventMask} {f : File}
    (hf : k fd' = some f) (hpoll : f.pollable = false) : only k fd m fd' = some f :=
  (sameFiles_only k fd m).fixed fd' f hf hpoll

/-! ## The entries that are watched -/

/-- The entry is watched: whatever `poll` can report of it, the epoll set of the array reports
of its descriptor. -/
def Watched (k : Files) (refuses : ℤ → Bool) (fds : List PollFd) (p : PollFd) : Prop :=
  match k p.fd with
  | none => False
  | some f =>
    if f.pollable = true then
      refuses p.fd = false ∧ ∃ q, firstInterested fds p.fd = some q ∧
        p.events &&& ~~~(interest q.events ||| pollErr ||| pollHup) = 0
    else nativeRevents k p = 0

variable {k k' : Files} {refuses : ℤ → Bool} {fds : List PollFd} {p : PollFd}

/-- A closed descriptor is not watched. -/
lemma watched_of_closed (hk : k p.fd = none) : ¬ Watched k refuses fds p := by
  unfold Watched
  rw [hk]
  exact id

/-- When a descriptor that can be polled is not watched for all it asks. -/
lemma watched_of_pollable {f : File} (hk : k p.fd = some f) (hpoll : f.pollable = true) :
    Watched k refuses fds p ↔ refuses p.fd = false ∧ ∃ q, firstInterested fds p.fd = some q ∧
      p.events &&& ~~~(interest q.events ||| pollErr ||| pollHup) = 0 := by
  unfold Watched
  rw [hk]
  dsimp only
  rw [if_pos hpoll]

/-- When a descriptor that cannot be polled counts as watched. -/
lemma watched_of_not_pollable {f : File} (hk : k p.fd = some f) (hpoll : f.pollable = false) :
    Watched k refuses fds p ↔ nativeRevents k p = 0 := by
  unfold Watched
  rw [hk]
  dsimp only
  rw [if_neg (by rw [hpoll]; decide)]

/-- When the hook accepts a descriptor. -/
lemma accepts_eq_true {fd : ℤ} : accepts k refuses fd = true ↔
    0 ≤ fd ∧ refuses fd = false ∧ ∃ f, k fd = some f ∧ f.pollable = true :=
  decide_eq_true_iff

/-- The answer of the kernel for an open descriptor. -/
lemma nativeRevents_of_open {f : File} (hfd : 0 ≤ p.fd) (hk : k p.fd = some f) :
    nativeRevents k p = f.ready &&& (p.events ||| pollErr ||| pollHup) := by
  unfold nativeRevents
  rw [if_neg (by omega), hk]

/-- The answer of the kernel for a closed descriptor. -/
lemma nativeRevents_of_closed (hfd : 0 ≤ p.fd) (hk : k p.fd = none) :
    nativeRevents k p = pollNval := by
  unfold nativeRevents
  rw [if_neg (by omega), hk]

/-- The answer of the kernel for a negative descriptor. -/
lemma nativeRevents_of_neg (hfd : p.fd < 0) : nativeRevents k p = 0 := by
  unfold nativeRevents
  rw [if_pos hfd]

/-- What `poll` comes to report of a watched entry, epoll reports as well. -/
lemma epollReady_of_watched (hsame : SameFiles k k') (hwatched : 0 ≤ p.fd → Watched k refuses fds p)
    (hready : nativeRevents k' p ≠ 0) : epollReady k' (epollSet k refuses fds) := by
  have hfd : 0 ≤ p.fd := by
    by_contra hneg
    exact hready (nativeRevents_of_neg (by omega))
  replace hwatched := hwatched hfd
  cases hk : k p.fd with
  | none => exact absurd hwatched (watched_of_closed hk)
  | some f =>
    obtain ⟨f', hk', hpoll'⟩ := hsame.opened hk
    cases hpoll : f.pollable with
    | false =>
      have heq := hsame.fixed p.fd f hk hpoll
      rw [watched_of_not_pollable hk hpoll, nativeRevents_of_open hfd hk] at hwatched
      rw [nativeRevents_of_open hfd heq] at hready
      exact absurd hwatched hready
    | true =>
      obtain ⟨href, q, hq, hcov⟩ := (watched_of_pollable hk hpoll).mp hwatched
      rw [nativeRevents_of_open hfd hk'] at hready
      have hacc : accepts k refuses p.fd = true :=
        accepts_eq_true.mpr ⟨hfd, href, f, hk, hpoll⟩
      exact ⟨p.fd, interest q.events, f', mem_epollSet.mpr ⟨hacc, q, hq, rfl⟩, hk',
        and_ne_zero_of_covered hready (or_covered hcov)⟩

/-- When only one descriptor has conditions, epoll reports nothing unless the set has that
descriptor with a mask that meets them. -/
lemma epollReady_only {fd : ℤ} {m : EventMask}
    (h : epollReady (only k fd m) (epollSet k refuses fds)) :
    refuses fd = false ∧ ∃ q, firstInterested fds fd = some q ∧
      m &&& (interest q.events ||| pollErr ||| pollHup) ≠ 0 := by
  obtain ⟨fd', c, f', hmem, hk', hready⟩ := h
  obtain ⟨hacc, q, hq, rfl⟩ := mem_epollSet.mp hmem
  obtain ⟨-, href, f, hk, hpoll⟩ := accepts_eq_true.mp hacc
  rw [only_of_pollable hk hpoll, Option.some.injEq] at hk'
  subst hk'
  by_cases heq : fd' = fd
  · subst heq
    rw [if_pos rfl] at hready
    exact ⟨href, q, hq, hready⟩
  · rw [if_neg heq] at hready
    exact absurd BitVec.zero_and hready

/-- Of an entry that is not watched, there are conditions that `poll` reports and epoll does
not. -/
lemma exists_unseen (hfd : 0 ≤ p.fd) (hnot : ¬ Watched k refuses fds p) :
    ∃ k', SameFiles k k' ∧ nativeRevents k' p ≠ 0 ∧
      ¬ epollReady k' (epollSet k refuses fds) := by
  -- nothing at all is ready
  have hquiet : ¬ epollReady (only k p.fd 0) (epollSet k refuses fds) := by
    intro hready
    obtain ⟨-, q, -, hm⟩ := epollReady_only hready
    exact hm BitVec.zero_and
  cases hk : k p.fd with
  | none =>
    have hsame := sameFiles_only k p.fd 0
    refine ⟨_, hsame, ?_, hquiet⟩
    rw [nativeRevents_of_closed hfd (hsame.closed hk)]
    decide
  | some f =>
    cases hpoll : f.pollable with
    | false =>
      refine ⟨_, sameFiles_only k p.fd 0, ?_, hquiet⟩
      rw [watched_of_not_pollable hk hpoll, nativeRevents_of_open hfd hk] at hnot
      rw [nativeRevents_of_open hfd (only_of_not_pollable hk hpoll)]
      exact hnot
    | true =>
      rw [watched_of_pollable hk hpoll] at hnot
      by_cases hset : refuses p.fd = false ∧ ∃ q, firstInterested fds p.fd = some q
      · -- the conditions that the mask in the set does not cover
        obtain ⟨href, q, hq⟩ := hset
        set c := interest q.events ||| pollErr ||| pollHup with hc
        have hmiss : p.events &&& ~~~c ≠ 0 := fun hzero => hnot ⟨href, q, hq, hzero⟩
        refine ⟨_, sameFiles_only k p.fd (p.events &&& ~~~c), ?_, ?_⟩
        · rw [nativeRevents_of_open hfd (only_of_pollable hk hpoll), if_pos rfl]
          obtain ⟨i, hi⟩ := exists_bit_of_ne_zero hmiss
          have hev : p.events.getLsbD i = true := by
            rw [BitVec.getLsbD_and, Bool.and_eq_true] at hi
            exact hi.1
          refine ne_zero_of_bit (i := i) ?_
          rw [BitVec.getLsbD_and, BitVec.getLsbD_or, BitVec.getLsbD_or, hi, hev]
          rfl
        · intro hready
          obtain ⟨-, q', hq', hm⟩ := epollReady_only hready
          obtain rfl := Option.some.inj (hq.symm.trans hq')
          rw [← hc] at hm
          refine hm (BitVec.eq_of_getLsbD_eq fun i _ => ?_)
          simp only [BitVec.getLsbD_and, BitVec.getLsbD_not]
          cases c.getLsbD i <;> simp
      · -- the descriptor is not in the set, which misses its errors
        refine ⟨_, sameFiles_only k p.fd pollErr, ?_, ?_⟩
        · rw [nativeRevents_of_open hfd (only_of_pollable hk hpoll), if_pos rfl]
          refine ne_zero_of_bit (i := 3) ?_
          rw [BitVec.getLsbD_and, BitVec.getLsbD_or, BitVec.getLsbD_or]
          simp [pollErr]
        · intro hready
          obtain ⟨href, q, hq, -⟩ := epollReady_only hready
          exact hset ⟨href, q, hq⟩

/-- **What the emulation watches.**  A call of `PollCore` that waits is woken by whatever
condition of its files `poll` would report, if and only if each of its entries is watched: its
file is open, and either epoll takes it with a mask, that of the first entry of its
descriptor, which covers what the entry asks for, or it cannot be polled and has nothing to
report.  Entries with a negative descriptor ask for nothing. -/
theorem watches_iff (fds : List PollFd) (timeoutMs : ℤ) (σ : Schedule) :
    (∀ k', SameFiles σ.adding k' → parks fds timeoutMs σ →
        0 < readyCount (nativePoll k' fds) →
          epollReady k' (epollSet σ.adding σ.refuses fds)) ↔
      ¬ parks fds timeoutMs σ ∨
        ∀ p ∈ fds, 0 ≤ p.fd → Watched σ.adding σ.refuses fds p := by
  constructor
  · intro h
    by_cases hparks : parks fds timeoutMs σ
    · right
      intro p hp hfd
      by_contra hnot
      obtain ⟨k', hsame, hready, hunseen⟩ := exists_unseen hfd hnot
      exact hunseen (h k' hsame hparks (readyCount_pos.mpr ⟨p, hp, hready⟩))
    · exact .inl hparks
  · rintro (hnot | hall) k' hsame hparks hready
    · exact absurd hparks hnot
    · obtain ⟨p, hp, hrev⟩ := readyCount_pos.mp hready
      exact epollReady_of_watched hsame (hall p hp) hrev

/-- Descriptors that are open, can be polled, and have no conditions. -/
def idle (fds : List ℤ) : Files := fun fd => if fd ∈ fds then some { ready := 0 } else none

/-- A call that waits on two entries of one descriptor. -/
def readThenWrite : List PollFd :=
  [{ fd := 3, events := pollIn }, { fd := 3, events := pollOut }]

/-- A set that is read and then written parks. -/
lemma readThenWrite_parks : parks readThenWrite (-1)
    { first := some (idle [3]), adding := idle [3], last := none, elapsed := 0 } :=
  ⟨idle [3], rfl, by decide +kernel, by decide, by decide, rfl, by decide +kernel⟩

/-- Of two entries of one descriptor the second is not watched: the descriptor becomes
writable, `poll` would report it, and the wait goes on. -/
theorem watches_not_second_entry : ¬ ∀ k', SameFiles (idle [3]) k' →
    parks readThenWrite (-1)
      { first := some (idle [3]), adding := idle [3], last := none, elapsed := 0 } →
    0 < readyCount (nativePoll k' readThenWrite) →
      epollReady k' (epollSet (idle [3]) (fun _ => false) readThenWrite) := by
  intro h
  have hready := h (only (idle [3]) 3 pollOut) (sameFiles_only _ _ _) readThenWrite_parks
    (by decide +kernel)
  obtain ⟨-, q, hq, hm⟩ := epollReady_only hready
  have hfirst : firstInterested readThenWrite 3 = some { fd := 3, events := pollIn } := rfl
  obtain rfl := Option.some.inj (hfirst.symm.trans hq)
  exact hm (by decide)

end BbtCoroutine.Hook
