import Avserver.Library.Run

/-!
# The number of sessions that are online

`p2p_start` creates a thread for each session that `IOTC_Listen` returns, and then counts it in
`gOnlineNum`; a thread that ends takes itself off the number.  The two updates are made by
different threads and without a lock, so that each is modelled as a read of the number and a
write, with steps of the other threads in between.

The loop takes the result of `pthread_create` for a failure only if it is negative, while
`pthread_create` returns a positive error number when it fails.  A session without a thread is
then counted, and nobody takes it off the number again.  As long as no two updates overlap,
`gOnlineNum` is the number of threads whenever no thread is being created or ending, exactly if
no call of `pthread_create` has failed so (`gOnlineNum_eq_iff`).

The IOTC library is not part of the repository: what its calls return is an input of a step, and
the value of `AV_ER_TIMEOUT` is a parameter.
-/

namespace P2p.Online

open Library

/-- The place in the loop of `p2p_start`, with what it has been returned so far. -/
inductive Accept where
  /-- at the test of `m_Quit`, or in `IOTC_Listen` -/
  | listen
  /-- in `pthread_create`, for the session that `IOTC_Listen` returned -/
  | create (SID : Int)
  /-- at `gOnlineNum++` -/
  | count
  /-- `gOnlineNum++` has read the number -/
  | counting (num : Int)
  /-- behind the loop -/
  | quit
deriving DecidableEq

/-- The place in `thread_ForAVServerStart`, the thread of a session, with what it has been returned
so far. -/
inductive Thread where
  /-- in `avServStart3`, or before it -/
  | servStart (SID : Int)
  /-- in the loop that calls `avRecvIOCtrl` -/
  | recvIOCtrl (SID avIndex : Int)
  /-- at `gOnlineNum--` -/
  | leave
  /-- `gOnlineNum--` has read the number -/
  | leaving (num : Int)
deriving DecidableEq

/-- The number `gOnlineNum`, the place in the loop of `p2p_start`, and the threads that have not
ended. -/
structure State where
  gOnlineNum : Int
  accept : Accept
  threads : List Thread
deriving DecidableEq

/-- The state in which `p2p_start` gets to its loop: no session is online, and there is no
thread. -/
def State.start : State := ⟨0, .listen, []⟩

/-- A step of `p2p_start`, or of the thread with the number `t`, with what the call in it
returns. -/
inductive Input where
  /-- `m_Quit` is found set -/
  | quit
  /-- `IOTC_Listen` returns -/
  | listen (SID : Int)
  /-- `pthread_create` returns -/
  | create (ret : Int)
  /-- `gOnlineNum++` reads and writes -/
  | readCount
  | writeCount
  /-- `avServStart3` returns -/
  | servStart (t : Nat) (avIndex : Int)
  /-- `avRecvIOCtrl` returns -/
  | recvIOCtrl (t : Nat) (ret : Int)
  /-- `gOnlineNum--` reads and writes, and the thread ends -/
  | readLeave (t : Nat)
  | writeLeave (t : Nat)
deriving DecidableEq

/-- A step of the state `s` with an input, if it is possible.  The number of a thread is its place
among those that have not ended. -/
def step (avErTimeout : Int) (s : State) : Input → Option State
  | .quit =>
      match s.accept with
      | .listen => some { s with accept := .quit }
      | _ => none
  | .listen SID =>
      match s.accept with
      | .listen => some (if SID > -1 then { s with accept := .create SID } else s)
      | _ => none
  | .create ret =>
      match s.accept with
      | .create SID =>
          -- there is a thread only if `pthread_create` returns 0
          let threads := if ret = 0 then s.threads ++ [.servStart SID] else s.threads
          let accept := if ret < 0 then .listen else .count
          some { s with accept, threads }
      | _ => none
  | .readCount =>
      match s.accept with
      | .count => some { s with accept := .counting s.gOnlineNum }
      | _ => none
  | .writeCount =>
      match s.accept with
      | .counting num => some { s with gOnlineNum := num + 1, accept := .listen }
      | _ => none
  | .servStart t avIndex =>
      match s.threads[t]? with
      | some (.servStart SID) =>
          let thread := if avIndex < 0 then .leave else .recvIOCtrl SID avIndex
          some { s with threads := s.threads.set t thread }
      | _ => none
  | .recvIOCtrl t ret =>
      match s.threads[t]? with
      | some (.recvIOCtrl _ _) =>
          if ret ≥ 0 then some s
          else if ret ≠ avErTimeout then some { s with threads := s.threads.set t .leave }
          else some s
      | _ => none
  | .readLeave t =>
      match s.threads[t]? with
      | some .leave => some { s with threads := s.threads.set t (.leaving s.gOnlineNum) }
      | _ => none
  | .writeLeave t =>
      match s.threads[t]? with
      | some (.leaving num) =>
          some { s with gOnlineNum := num - 1, threads := s.threads.eraseIdx t }
      | _ => none

/-- The thread is not ending: it serves its session, and will still decrease `gOnlineNum`. -/
def Thread.Running : Thread → Prop
  | .servStart _ | .recvIOCtrl _ _ => True
  | .leave | .leaving _ => False

/-- No thread is being created in `s`, and none is ending, so that no update of `gOnlineNum` is
pending. -/
structure State.Settled (s : State) : Prop where
  accept : s.accept = .listen ∨ s.accept = .quit
  threads : ∀ thread ∈ s.threads, thread.Running

/-! ### Updates under way -/

/-- The number that `gOnlineNum++` in the loop has read and not yet written back, if it is under
way. -/
def Accept.read : Accept → List Int
  | .counting num => [num]
  | _ => []

/-- The number that `gOnlineNum--` in the thread has read and not yet written back, if it is under
way. -/
def Thread.read : Thread → List Int
  | .leaving num => [num]
  | _ => []

/-- The numbers that were read for updates of `gOnlineNum` that are under way in `s`. -/
def State.read (s : State) : List Int := s.accept.read ++ s.threads.flatMap Thread.read

/-- The input begins an update of `gOnlineNum` only when no other one is under way in `s`. -/
def Apart (s : State) : Input → Prop
  | .readCount | .readLeave _ => s.read = []
  | _ => True

instance (s : State) : (i : Input) → Decidable (Apart s i)
  | .readCount | .readLeave _ => inferInstanceAs (Decidable (s.read = []))
  | .quit | .listen _ | .create _ | .writeCount | .servStart _ _ | .recvIOCtrl _ _
  | .writeLeave _ => inferInstanceAs (Decidable True)

/-- The thread at the place `t`, with the threads before and behind it, so that setting and erasing
it can be read off. -/
theorem exists_around
    {threads : List Thread} {t : Nat} {thread : Thread} (h : threads[t]? = some thread) :
  ∃ before after, threads = before ++ thread :: after
    ∧ (∀ thread', threads.set t thread' = before ++ thread' :: after)
    ∧ threads.eraseIdx t = before ++ after
  := by
  obtain ⟨hlt, rfl⟩ := List.getElem?_eq_some_iff.mp h
  use threads.take t, threads.drop (t + 1)
  constructor
  · rw [List.getElem_cons_drop, List.take_append_drop]
  · constructor
    · intro thread'
      apply List.set_eq_take_append_cons_drop.trans
      apply if_pos hlt
    · apply List.eraseIdx_eq_take_drop_succ

/-! ### The invariant -/

/-- How much `gOnlineNum++` in the loop has still to add: 1 from the creation of a thread on. -/
def Accept.pending : Accept → Int
  | .count | .counting _ => 1
  | .listen | .create _ | .quit => 0

/-- The input is a failure of `pthread_create`, which returns a positive number and is not seen to
fail. -/
def Input.fails : Input → Bool
  | .create ret => 0 < ret
  | _ => false

/-- The number, with the increment that is pending, is the number of the threads, and of the
failures of `pthread_create` among the inputs taken, `total` less those that are left.  At most
one update is under way, and what it has read is the number as it is. -/
structure Counted (total : Nat) (s : State) (left : List Input) : Prop where
  count : s.gOnlineNum + s.accept.pending + left.countP Input.fails = s.threads.length + total
  read : s.read = [] ∨ s.read = [s.gOnlineNum]

variable {avErTimeout : Int} {total : Nat} {s s' : State} {left : List Input} {t : Nat}
  {thread thread' : Thread}

/-- The count is kept by a thread that goes on to `thread'`, when it neither reads nor writes the
number. -/
theorem Counted.set
    (h : Counted total s left) (hthread : s.threads[t]? = some thread)
    (hread : thread.read = []) (hread' : thread'.read = []) :
  Counted total { s with threads := s.threads.set t thread' } left
  := by
  obtain ⟨before, after, hthreads, hset, -⟩ := exists_around hthread
  constructor
  · rw [List.length_set]
    apply h.count
  · have hsame : (s.threads.set t thread').flatMap Thread.read = s.threads.flatMap Thread.read
      := by
      rw [hset, hthreads]
      simp only [List.flatMap_append, List.flatMap_cons, hread, hread']
    simp only [State.read, hsame]
    apply h.read

/-- The count is kept by the end of `gOnlineNum++`, which writes the number `num` back,
increased. -/
theorem Counted.writeCount
    {num : Int} (h : Counted total s left) (haccept : s.accept = .counting num) :
  Counted total { s with gOnlineNum := num + 1, accept := .listen } left
  := by
  have hread : s.read = num :: s.threads.flatMap Thread.read
    := by rw [State.read, haccept, Accept.read, List.singleton_append]
  have hcount := h.count
  rw [haccept] at hcount
  obtain hnil | hone := h.read
  · rw [hread] at hnil
    contradiction
  · rw [hread] at hone
    obtain ⟨rfl, hthreads⟩ := List.cons.inj hone
    constructor
    · simp only [Accept.pending] at hcount ⊢
      omega
    · left
      simp only [State.read, Accept.read, hthreads, List.append_nil]

/-- The count is kept by the end of `gOnlineNum--`, which writes the number `num` back, decreased,
and with which the thread ends. -/
theorem Counted.writeLeave
    {num : Int} (h : Counted total s left) (hthread : s.threads[t]? = some (.leaving num)) :
  Counted total { s with gOnlineNum := num - 1, threads := s.threads.eraseIdx t } left
  := by
  obtain ⟨before, after, hthreads, -, herase⟩ := exists_around hthread
  have hread : s.read = s.accept.read ++ (before.flatMap Thread.read
      ++ num :: after.flatMap Thread.read)
    := by simp [State.read, hthreads, Thread.read]
  have hcount := h.count
  rw [hthreads] at hcount
  obtain hnil | hone := h.read
  · simp [hread] at hnil
  · have hparts : s.accept.read = [] ∧ before.flatMap Thread.read = []
        ∧ num = s.gOnlineNum ∧ after.flatMap Thread.read = []
      := by
      rw [hread, ← List.append_assoc, List.append_eq_singleton_iff] at hone
      obtain ⟨hfront, hback⟩ | ⟨-, hback⟩ := hone
      · obtain ⟨haccept, hbefore⟩ := List.append_eq_nil_iff.mp hfront
        obtain ⟨hnum, hafter⟩ := List.cons.inj hback
        use haccept, hbefore, hnum, hafter
      · contradiction
    obtain ⟨haccept, hbefore, rfl, hafter⟩ := hparts
    constructor
    · rw [herase]
      simp only [List.length_append, List.length_cons] at hcount ⊢
      omega
    · left
      simp only [State.read, haccept, herase, List.flatMap_append, hbefore, hafter,
        List.append_nil]

/-- The count is kept by the read of `gOnlineNum--` in a thread, when no other update is under
way. -/
theorem Counted.readLeave
    (h : Counted total s left) (hthread : s.threads[t]? = some .leave) (hread : s.read = []) :
  Counted total { s with threads := s.threads.set t (.leaving s.gOnlineNum) } left
  := by
  obtain ⟨before, after, hthreads, hset, -⟩ := exists_around hthread
  constructor
  · rw [List.length_set]
    apply h.count
  · right
    have hparts : s.accept.read = [] ∧ before.flatMap Thread.read = []
        ∧ after.flatMap Thread.read = []
      := by simpa [State.read, hthreads, Thread.read] using hread
    obtain ⟨haccept, hbefore, hafter⟩ := hparts
    simp only [State.read, hset, haccept, hbefore, hafter, List.flatMap_append,
      List.flatMap_cons, Thread.read, List.nil_append, List.append_nil]

/-- The count is kept by the return of `pthread_create` with `ret`: a failure that is not seen takes
one from those that are left. -/
theorem Counted.create
    {ret SID : Int} (h : Counted total s (.create ret :: left)) (haccept : s.accept = .create SID) :
  Counted total
    { s with
      accept := if ret < 0 then .listen else .count
      threads := if ret = 0 then s.threads ++ [.servStart SID] else s.threads } left
  := by
  have hcount := h.count
  have hread := h.read
  rw [haccept, List.countP_cons] at hcount
  simp only [State.read, haccept, Accept.read, List.nil_append] at hread
  obtain hneg | rfl | hpos : ret < 0 ∨ ret = 0 ∨ 0 < ret := by omega
  · rw [if_pos hneg, if_neg (by omega)]
    rw [Input.fails, decide_eq_false (by omega)] at hcount
    constructor
    · apply hcount
    · apply hread
  · rw [if_neg (by omega), if_pos rfl]
    rw [Input.fails, decide_eq_false (by omega)] at hcount
    constructor
    · simp only [Accept.pending, List.length_append, List.length_singleton] at hcount ⊢
      simp only [Bool.false_eq_true, if_false] at hcount
      omega
    · simp only [State.read, Accept.read, List.flatMap_append, List.flatMap_singleton,
        Thread.read, List.append_nil, List.nil_append]
      apply hread
  · rw [if_neg (by omega), if_neg (by omega)]
    rw [Input.fails, decide_eq_true hpos] at hcount
    constructor
    · simp only [Accept.pending, if_true] at hcount ⊢
      omega
    · apply hread

/-- An input `i` that is not a failure of `pthread_create` is not counted among those that are
left. -/
theorem Counted.skip
    {i : Input} (h : Counted total s (i :: left)) (hi : i.fails = false) :
  Counted total s left
  := by
  constructor
  · have hcount := h.count
    rwa [List.countP_cons_of_neg (by simp [hi])] at hcount
  · apply h.read

/-- A step that begins no update while another one is under way keeps the count. -/
theorem Counted.step
    {i : Input} (h : Counted total s (i :: left)) (hapart : Apart s i)
    (hstep : step avErTimeout s i = some s') :
  Counted total s' left
  := by
  cases i with
  | quit =>
      simp only [Online.step] at hstep
      split at hstep
      · next haccept =>
          obtain rfl := Option.some.inj hstep
          obtain ⟨hcount, hread⟩ := h.skip rfl
          rw [haccept] at hcount
          rw [State.read, haccept] at hread
          use hcount, hread
      · contradiction
  | listen SID =>
      simp only [Online.step] at hstep
      split at hstep
      · next haccept =>
          obtain rfl := Option.some.inj hstep
          obtain ⟨hcount, hread⟩ := h.skip rfl
          split
          · rw [haccept] at hcount
            rw [State.read, haccept] at hread
            use hcount, hread
          · use hcount, hread
      · contradiction
  | create ret =>
      simp only [Online.step] at hstep
      split at hstep
      · next haccept =>
          obtain rfl := Option.some.inj hstep
          apply h.create haccept
      · contradiction
  | readCount =>
      simp only [Online.step] at hstep
      split at hstep
      · next haccept =>
          obtain rfl := Option.some.inj hstep
          have hcount := (h.skip rfl).count
          rw [haccept] at hcount
          obtain ⟨-, hthreads⟩ := List.append_eq_nil_iff.mp hapart
          constructor
          · apply hcount
          · right
            simp only [State.read, Accept.read, hthreads, List.append_nil]
      · contradiction
  | writeCount =>
      simp only [Online.step] at hstep
      split at hstep
      · next haccept =>
          obtain rfl := Option.some.inj hstep
          apply (h.skip rfl).writeCount haccept
      · contradiction
  | servStart t avIndex =>
      simp only [Online.step] at hstep
      split at hstep
      · next hthread =>
          obtain rfl := Option.some.inj hstep
          apply (h.skip rfl).set hthread rfl
          split <;> rfl
      · contradiction
  | recvIOCtrl t ret =>
      simp only [Online.step] at hstep
      split at hstep
      · next hthread =>
          split at hstep
          · obtain rfl := Option.some.inj hstep
            apply h.skip rfl
          · split at hstep
            · obtain rfl := Option.some.inj hstep
              apply (h.skip rfl).set hthread rfl rfl
            · obtain rfl := Option.some.inj hstep
              apply h.skip rfl
      · contradiction
  | readLeave t =>
      simp only [Online.step] at hstep
      split at hstep
      · next hthread =>
          obtain rfl := Option.some.inj hstep
          apply (h.skip rfl).readLeave hthread hapart
      · contradiction
  | writeLeave t =>
      simp only [Online.step] at hstep
      split at hstep
      · next hthread =>
          obtain rfl := Option.some.inj hstep
          apply (h.skip rfl).writeLeave hthread
      · contradiction

/-! ### Runs -/

/-- A run from the start in which the updates are `Apart` is counted: what `gOnlineNum` has too much
are the failures of `pthread_create` in it. -/
theorem Counted.run
    {is : List Input} (hrun : Run (Online.step avErTimeout) Apart .start is s) :
  Counted (is.countP Input.fails) s []
  := by
  apply hrun.invariant_left (fun _ _ _ _ => Counted.step)
  constructor
  · simp [State.start, Accept.pending]
  · left
    rfl

/-- For every sequence of results of `IOTC_Listen`, `pthread_create`, `avServStart3` and
`avRecvIOCtrl`, and every order of the steps in which no two updates overlap: when no thread is
being created or ending, `gOnlineNum` is the number of running threads, and so 0 when all have
ended, exactly if `pthread_create` has never returned a positive error number. -/
theorem gOnlineNum_eq_iff
    {is : List Input} (hrun : Run (Online.step avErTimeout) Apart .start is s)
    (hs : s.Settled) :
  s.gOnlineNum = s.threads.length ↔ ∀ ret, .create ret ∈ is → ret ≤ 0
  := by
  have hcount := (Counted.run hrun).count
  have hpending : s.accept.pending = 0
    := by obtain haccept | haccept := hs.accept <;> rw [haccept] <;> rfl
  have hfails : is.countP Input.fails = 0 ↔ ∀ ret, .create ret ∈ is → ret ≤ 0
    := by
    rw [List.countP_eq_zero]
    constructor
    · intro h ret hret
      have hfails := h _ hret
      simp only [Input.fails, decide_eq_true_eq] at hfails
      omega
    · intro h i hi
      cases i with
      | create ret =>
          simp only [Input.fails, decide_eq_true_eq]
          have hle := h ret hi
          omega
      | _ => simp [Input.fails]
  rw [← hfails]
  rw [hpending, List.countP_nil] at hcount
  omega

/-- A run with a session whose `avServStart3` fails and one that is served, in which `gOnlineNum` is
the number of threads in the end. -/
theorem gOnlineNum_served :
  ∃ s, Run (Online.step (-20011)) Apart .start
      [.listen 0, .create 0, .readCount, .servStart 0 (-1), .writeCount, .readLeave 0,
        .writeLeave 0, .listen 3, .create 0, .servStart 0 3, .readCount, .writeCount,
        .recvIOCtrl 0 4, .recvIOCtrl 0 (-20011)] s
    ∧ s.gOnlineNum = s.threads.length
  := by
  have hrun : Run (Online.step (-20011)) Apart .start
      [.listen 0, .create 0, .readCount, .servStart 0 (-1), .writeCount, .readLeave 0,
        .writeLeave 0, .listen 3, .create 0, .servStart 0 3, .readCount, .writeCount,
        .recvIOCtrl 0 4, .recvIOCtrl 0 (-20011)] ⟨1, .listen, [.recvIOCtrl 3 3]⟩
    := by
    apply Run.of_exec
    decide
  use ⟨1, .listen, [.recvIOCtrl 3 3]⟩, hrun
  apply (gOnlineNum_eq_iff hrun _).mpr
  · intro ret hret
    simp at hret
    omega
  · constructor
    · left
      rfl
    · intro thread hthread
      obtain rfl := List.mem_singleton.mp hthread
      trivial

/-- `pthread_create` returns `EAGAIN`: a session without a thread stays counted.  And when a
thread ends while another one is being counted, an update is lost. -/
theorem gOnlineNum_wrong :
  (∃ s, Run (Online.step (-20011)) Apart .start
      [.listen 0, .create 11, .readCount, .writeCount] s
    ∧ s.Settled ∧ s.threads = [] ∧ s.gOnlineNum = 1)
  ∧ ∃ s, Run (Online.step (-20011)) (fun _ _ => True) .start
      [.listen 0, .create 0, .readCount, .servStart 0 (-1), .readLeave 0, .writeCount,
        .writeLeave 0] s
    ∧ s.Settled ∧ s.threads = [] ∧ s.gOnlineNum = -1
  := by
  constructor
  · use ⟨1, .listen, []⟩
    constructor
    · apply Run.of_exec
      decide
    · exact ⟨⟨.inl rfl, by simp⟩, rfl, rfl⟩
  · use ⟨-1, .listen, []⟩
    constructor
    · apply Run.of_exec
      decide
    · exact ⟨⟨.inl rfl, by simp⟩, rfl, rfl⟩

end P2p.Online
