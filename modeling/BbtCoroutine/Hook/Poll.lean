import BbtCoroutine.CoPollEvent.Status
import Mathlib.Data.List.Basic
import Mathlib.Tactic.SplitIfs

/-!
# A model of the emulation of `poll`

`PollCore` takes a snapshot with the native `poll`, waits on an epoll set of the entries it
is interested in, and takes a second snapshot.  What the kernel answers is the argument of the
model: the files behind the descriptors at each of the three moments, the descriptors that
epoll has no room for, how the wait ends and how long the call takes.

The native calls follow their documentation: `poll` reports of an open file the requested
conditions, errors and hang-ups, and of a closed descriptor that it is invalid; `epoll_ctl`
adds a descriptor once, and only if its file can be polled at all.
-/

namespace BbtCoroutine.Hook

/-! ## Masks -/

/-- `POLLIN`, which is `EPOLLIN`. -/
def pollIn : EventMask := 0x001

/-- `POLLPRI`, which is `EPOLLPRI`. -/
def pollPri : EventMask := 0x002

/-- `POLLOUT`, which is `EPOLLOUT`. -/
def pollOut : EventMask := 0x004

/-- `POLLERR`, which is `EPOLLERR`. -/
def pollErr : EventMask := 0x008

/-- `POLLHUP`, which is `EPOLLHUP`. -/
def pollHup : EventMask := 0x010

/-- `POLLNVAL`. -/
def pollNval : EventMask := 0x020

/-- A mask that is not empty has a bit. -/
lemma exists_bit_of_ne_zero {m : EventMask} (h : m ≠ 0) : ∃ i, m.getLsbD i = true := by
  by_contra hnone
  refine h (BitVec.eq_of_getLsbD_eq fun i hi => ?_)
  rw [Bool.eq_false_iff.mpr fun hbit => hnone ⟨i, hbit⟩]
  simp

/-- A mask with a bit is not empty. -/
lemma ne_zero_of_bit {m : EventMask} {i : ℕ} (h : m.getLsbD i = true) : m ≠ 0 := by
  rintro rfl
  simp at h

/-- What meets a mask meets every mask that covers it. -/
lemma and_ne_zero_of_covered {a b c : EventMask} (h : a &&& b ≠ 0) (hc : b &&& ~~~c = 0) :
    a &&& c ≠ 0 := by
  obtain ⟨i, hi⟩ := exists_bit_of_ne_zero h
  rw [BitVec.getLsbD_and, Bool.and_eq_true] at hi
  have hbit := congrArg (·.getLsbD i) hc
  simp only [BitVec.getLsbD_and, BitVec.getLsbD_not, hi.2, Bool.true_and] at hbit
  have hlt : i < 16 := BitVec.lt_of_getLsbD hi.1
  have hci : c.getLsbD i = true := by simpa [hlt] using hbit
  exact ne_zero_of_bit (i := i) (by rw [BitVec.getLsbD_and, hi.1, hci]; rfl)

/-- A union with two more masks is covered as soon as its first part is. -/
lemma or_covered {a b c d : EventMask} (h : a &&& ~~~(b ||| c ||| d) = 0) :
    (a ||| c ||| d) &&& ~~~(b ||| c ||| d) = 0 := by
  refine BitVec.eq_of_getLsbD_eq fun i hi => ?_
  have hbit := congrArg (·.getLsbD i) h
  simp only [BitVec.getLsbD_and, BitVec.getLsbD_or, BitVec.getLsbD_not, hi] at hbit ⊢
  revert hbit
  cases a.getLsbD i <;> cases b.getLsbD i <;> cases c.getLsbD i <;> cases d.getLsbD i <;> simp

/-! ## The kernel -/

/-- An open file: the conditions that hold of it, and whether it can be polled; one that cannot
has the same conditions at all times. -/
structure File where
  ready : EventMask
  pollable : Bool := true
  deriving DecidableEq

/-- The files behind the descriptors. -/
abbrev Files := ℤ → Option File

/-- `pollfd`. -/
structure PollFd where
  fd : ℤ
  events : EventMask
  revents : EventMask := 0
  deriving DecidableEq

/-- The `revents` that the native `poll` writes into an entry. -/
def nativeRevents (k : Files) (p : PollFd) : EventMask :=
  if p.fd < 0 then 0
  else
    match k p.fd with
    | none => pollNval
    | some f => f.ready &&& (p.events ||| pollErr ||| pollHup)

/-- The native `poll` with a timeout of `0`, when it succeeds. -/
def nativePoll (k : Files) (fds : List PollFd) : List PollFd :=
  fds.map fun p => { p with revents := nativeRevents k p }

/-- The number of entries that something is reported of. -/
def readyCount (fds : List PollFd) : ℕ :=
  fds.countP fun p => p.revents ≠ 0

/-- An epoll set: its descriptors, each with the events it was added with. -/
abbrev EpollSet := List (ℤ × EventMask)

/-- `epoll_ctl` accepts the descriptor, if it is not in the set yet. -/
def accepts (k : Files) (refuses : ℤ → Bool) (fd : ℤ) : Bool :=
  0 ≤ fd ∧ refuses fd = false ∧ ∃ f, k fd = some f ∧ f.pollable = true

/-- `epoll_wait` would report a descriptor of the set. -/
def epollReady (k : Files) (set : EpollSet) : Prop :=
  ∃ fd m f, (fd, m) ∈ set ∧ k fd = some f ∧ f.ready &&& (m ||| pollErr ||| pollHup) ≠ 0

/-! ## `PollCore` -/

/-- `Interest`. -/
def interest (events : EventMask) : EventMask :=
  events &&& (pollIn ||| pollOut ||| pollPri)

/-- One round of the loop that fills the epoll set. -/
def addInterest (k : Files) (refuses : ℤ → Bool) (set : EpollSet) (p : PollFd) : EpollSet :=
  if interest p.events = 0 then set
  else if accepts k refuses p.fd ∧ p.fd ∉ set.map Prod.fst then
    set ++ [(p.fd, interest p.events)]
  else set

/-- The epoll set of an array. -/
def epollSet (k : Files) (refuses : ℤ → Bool) (fds : List PollFd) : EpollSet :=
  fds.foldl (addInterest k refuses) []

/-- What a call of `PollCore` meets. -/
structure Schedule where
  /-- The files at the first snapshot, unless the native `poll` fails. -/
  first : Option Files
  /-- `epoll_create1` succeeds. -/
  creates : Bool := true
  /-- The files when the epoll set is filled. -/
  adding : Files
  /-- The descriptors that epoll has no room for. -/
  refuses : ℤ → Bool := fun _ => false
  /-- What the coroutine's wait returns. -/
  yieldRet : ℤ := 0
  /-- The files at the last snapshot, unless the native `poll` fails. -/
  last : Option Files
  /-- The nanoseconds from the call to its return. -/
  elapsed : ℕ

/-- `PollCore`: its result, and the array as it leaves it. -/
def pollCore (fds : List PollFd) (timeoutMs : ℤ) (σ : Schedule) : ℤ × List PollFd :=
  match σ.first with
  | none => (-1, fds)
  | some k =>
    let fds₁ := nativePoll k fds
    if 0 < readyCount fds₁ ∨ timeoutMs = 0 then (readyCount fds₁, fds₁)
    else if fds = [] then (if 0 < timeoutMs ∧ σ.yieldRet ≠ 0 then -1 else 0, fds₁)
    else if σ.creates = false then (-1, fds₁)
    else if epollSet σ.adding σ.refuses fds₁ ≠ [] ∧ σ.yieldRet ≠ 0 then (-1, fds₁)
    else
      match σ.last with
      | none => (-1, fds₁)
      | some k' => (readyCount (nativePoll k' fds₁), nativePoll k' fds₁)

/-- `PollCore` waits on its epoll set. -/
def parks (fds : List PollFd) (timeoutMs : ℤ) (σ : Schedule) : Prop :=
  ∃ k, σ.first = some k ∧ readyCount (nativePoll k fds) = 0 ∧ timeoutMs ≠ 0 ∧ fds ≠ [] ∧
    σ.creates = true ∧ epollSet σ.adding σ.refuses fds ≠ []

/-! ## The snapshots -/

/-- A snapshot replaces the results of the one before. -/
@[simp] lemma nativePoll_nativePoll (k k' : Files) (fds : List PollFd) :
    nativePoll k' (nativePoll k fds) = nativePoll k' fds := by
  simp only [nativePoll, List.map_map]
  rfl

/-- Something is reported of the array if and only if it is of an entry. -/
lemma readyCount_pos {k : Files} {fds : List PollFd} :
    0 < readyCount (nativePoll k fds) ↔ ∃ p ∈ fds, nativeRevents k p ≠ 0 := by
  unfold readyCount
  rw [List.countP_pos_iff]
  constructor
  · rintro ⟨q, hq, hready⟩
    obtain ⟨p, hp, rfl⟩ := List.mem_map.mp hq
    exact ⟨p, hp, of_decide_eq_true hready⟩
  · rintro ⟨p, hp, hready⟩
    exact ⟨_, List.mem_map_of_mem hp, decide_eq_true hready⟩

/-! ## The epoll set -/

/-- The epoll set does not depend on what a snapshot has written. -/
@[simp] lemma epollSet_nativePoll (k k' : Files) (refuses : ℤ → Bool) (fds : List PollFd) :
    epollSet k refuses (nativePoll k' fds) = epollSet k refuses fds := by
  unfold epollSet nativePoll
  rw [List.foldl_map]
  rfl

/-- The first entry of the array with the descriptor `fd` and an interest. -/
def firstInterested (fds : List PollFd) (fd : ℤ) : Option PollFd :=
  fds.find? fun p => p.fd = fd ∧ interest p.events ≠ 0

/-- The loop adds to a set the descriptors that it does not have yet, each with the interest of
its first entry. -/
lemma mem_foldl_addInterest {k : Files} {refuses : ℤ → Bool} {fds : List PollFd}
    {set : EpollSet} {fd : ℤ} {m : EventMask} :
    (fd, m) ∈ fds.foldl (addInterest k refuses) set ↔ (fd, m) ∈ set ∨
      (fd ∉ set.map Prod.fst ∧ accepts k refuses fd = true ∧
        ∃ q, firstInterested fds fd = some q ∧ m = interest q.events) := by
  induction fds generalizing set with
  | nil => simp [firstInterested]
  | cons p fds ih =>
    rw [List.foldl_cons, ih]
    by_cases hp : p.fd = fd ∧ interest p.events ≠ 0
    · -- the entry is the first one of its descriptor
      obtain ⟨rfl, hint⟩ := hp
      have hfirst : firstInterested (p :: fds) p.fd = some p := by
        unfold firstInterested
        exact List.find?_cons_of_pos (by simpa using hint)
      rw [hfirst]
      unfold addInterest
      rw [if_neg hint]
      by_cases hadd : accepts k refuses p.fd = true ∧ p.fd ∉ set.map Prod.fst
      · rw [if_pos hadd]
        have hin : p.fd ∈ (set ++ [(p.fd, interest p.events)]).map Prod.fst := by simp
        constructor
        · rintro (hmem | ⟨hnot, -⟩)
          · rcases List.mem_append.mp hmem with hmem | hmem
            · exact .inl hmem
            · right
              rw [List.mem_singleton, Prod.mk.injEq] at hmem
              exact ⟨hadd.2, hadd.1, p, rfl, hmem.2⟩
          · exact absurd hin hnot
        · rintro (hmem | ⟨-, -, q, hq, rfl⟩)
          · exact .inl (List.mem_append_left _ hmem)
          · obtain rfl := Option.some.inj hq
            exact .inl (List.mem_append_right _ (List.mem_singleton_self _))
      · rw [if_neg hadd]
        refine or_congr_right ⟨?_, ?_⟩
        · rintro ⟨hnot, hacc, -⟩
          exact absurd ⟨hacc, hnot⟩ hadd
        · rintro ⟨hnot, hacc, -⟩
          exact absurd ⟨hacc, hnot⟩ hadd
    · -- the entry does not touch the descriptor
      have hfirst : firstInterested (p :: fds) fd = firstInterested fds fd := by
        unfold firstInterested
        rw [List.find?_cons_of_neg (by simpa using hp)]
      rw [hfirst]
      have hset : ((fd, m) ∈ addInterest k refuses set p ↔ (fd, m) ∈ set) ∧
          (fd ∈ (addInterest k refuses set p).map Prod.fst ↔ fd ∈ set.map Prod.fst) := by
        unfold addInterest
        split_ifs with hint hadd
        · exact ⟨Iff.rfl, Iff.rfl⟩
        · have hne : fd ≠ p.fd := fun heq => hp ⟨heq.symm, hint⟩
          exact ⟨by simp [hne], by simp [hne]⟩
        · exact ⟨Iff.rfl, Iff.rfl⟩
      rw [hset.1, hset.2]

/-- What the epoll set of an array consists of. -/
lemma mem_epollSet {k : Files} {refuses : ℤ → Bool} {fds : List PollFd} {fd : ℤ}
    {m : EventMask} :
    (fd, m) ∈ epollSet k refuses fds ↔ accepts k refuses fd = true ∧
      ∃ q, firstInterested fds fd = some q ∧ m = interest q.events := by
  unfold epollSet
  rw [mem_foldl_addInterest]
  simp

end BbtCoroutine.Hook
