import Mathlib.Algebra.Group.Int.Defs
import Mathlib.Algebra.Group.Nat.Defs
import Avserver.AviSave.Recorder

/-!
# The control of the recorder threads

`processMsg_avi` writes the flags that the recorder reads, and it creates the recorder: when
recording is enabled while `g_rec_status` is zero, a thread is started that runs `Avi_save`.
The thread itself raises `g_rec_status`, after its check of the card, and clears it when it
leaves.  Nothing else keeps a second thread from being created, or sees to it that there is one.

Any number of threads run here, each a `Recorder` of its own; what they share, and the handler
writes, is loaded before a step of a thread and stored after it.  A thread that has left its
loop still has to clear the flag: this is a step of its own, and the thread ends with it.
-/

namespace AviSave.Control

open Library

/-- The static variables of `avi_save.c`, with `AVI_stream_status`, which all the threads share. -/
structure Shared where
  gRecEnable : Int
  gRecSchdule : Nat
  gRecStatus : Int
  gRecTimeL : Int
  mQuit : Int
  streamFlag : Int
  serialBook : Int
  serialLock : Int
  check : Int

/-- The recorder `r` of a thread, with the static variables as they are in `g`. -/
def Shared.load (g : Shared) (r : Recorder) : Recorder :=
  { r with
    gRecEnable := g.gRecEnable
    gRecSchdule := g.gRecSchdule
    gRecStatus := g.gRecStatus
    gRecTimeL := g.gRecTimeL
    mQuit := g.mQuit
    streamFlag := g.streamFlag
    serialBook := g.serialBook
    serialLock := g.serialLock
    check := g.check }

/-- The static variables as the recorder `r` of a thread leaves them. -/
def Shared.store (r : Recorder) : Shared where
  gRecEnable := r.gRecEnable
  gRecSchdule := r.gRecSchdule
  gRecStatus := r.gRecStatus
  gRecTimeL := r.gRecTimeL
  mQuit := r.mQuit
  streamFlag := r.streamFlag
  serialBook := r.serialBook
  serialLock := r.serialLock
  check := r.check

/-- A thread that runs `Avi_save`.  At `Pc.done` it has left its loop, or failed, and is about to
clear `g_rec_status` and to return. -/
structure SaveThread where
  recorder : Recorder
  /-- it has set `g_rec_status` to 1 -/
  raised : Bool

/-- A thread as `pthread_create` starts it, which has not raised `g_rec_status` yet. -/
def newThread : SaveThread where
  recorder := newRecorder
  raised := false

/-- `e_avi_enable`, the first key of the protocol; `e_avi_TimeL` and `e_avi_schd`; and
`e_avi_END`, the last key that is let through. -/
def eAviEnable : Int := 1024
@[inherit_doc eAviEnable] def eAviTimeL : Int := 1025
@[inherit_doc eAviEnable] def eAviSchd : Int := 1026
@[inherit_doc eAviEnable] def eAviEnd : Int := 1027

/-- Where `processMsg_avi` is, with the pairs of the message that are still to be handled:
before the next pair, or idle; behind the store of `g_rec_enable`; before `pthread_create`. -/
inductive Handler where
  | pairs (rest : List (Int × Int))
  | test (rest : List (Int × Int))
  | create (rest : List (Int × Int))
deriving DecidableEq

/-- The recorder threads, the handler of `Avi_Ctrl`, and the static variables that they share. -/
structure State where
  shared : Shared
  threads : List SaveThread
  handler : Handler

/-- The static variables of `avi_save.c` as they are initialised. -/
def initShared : Shared where
  gRecEnable := 0
  gRecSchdule := 0
  gRecStatus := 0
  gRecTimeL := 5 * 60
  mQuit := 0
  streamFlag := 0
  serialBook := 0
  serialLock := 0
  check := 0

/-- The state in which `Avi_Ctrl` has been started: no message has come, and there is no thread. -/
def initState : State where
  shared := initShared
  threads := []
  handler := .pairs []

/-- A step of the handler of `Avi_Ctrl`, or of the recorder thread with a number. -/
inductive Event where
  /-- a message has been read; its keys and values, as `ParseVars` and `atoi` yield them -/
  | message (pairs : List (Int × Int))
  /-- the next pair of it -/
  | pair
  /-- the test of `g_rec_enable` and `g_rec_status` -/
  | enableTest
  /-- `pthread_create`, and whether it succeeds -/
  | create (ok : Bool)
  /-- a step of the `i`-th thread -/
  | thread (i : Nat) (mv : Move)
  /-- the `i`-th thread clears `g_rec_status` and returns -/
  | leave (i : Nat)
  /-- `Avi_stop` sets `m_Quit` -/
  | aviStop
deriving DecidableEq

/-- The moves that a recorder makes itself, as opposed to those that other threads make on its
variables. -/
def ofThread : Move → Bool
  | .aviStop | .aviEnable _ | .aviTimeL _ | .aviSchd _ => false
  | _ => true

/-- A step of one thread `t` with the static variables `g`: both as they are behind it, if the step
is possible. -/
def threadStep (g : Shared) (t : SaveThread) (mv : Move) : Option (Shared × SaveThread) :=
  if ofThread mv then
    match AviSave.step (g.load t.recorder) mv with
    | some r =>
        -- the flag is not cleared yet
        if r.pc = .done then some (g, { t with recorder := r })
        else
          some (Shared.store r, { recorder := r, raised := t.raised || t.recorder.pc = .start })
    | none => none
  else none

/-- One pair of a message, with the key `iKey` and the value `iValue`, and the `rest` of the pairs
behind it. -/
def processPair (iKey iValue : Int) (rest : List (Int × Int)) (n : State) : State :=
  if iKey < eAviEnable ∨ iKey > eAviEnd then { n with handler := .pairs rest }
  else if iKey = eAviEnable then
    { n with shared := { n.shared with gRecEnable := iValue }, handler := .test rest }
  else if iKey = eAviTimeL then
    { n with shared := { n.shared with gRecTimeL := recTimeL iValue }, handler := .pairs rest }
  else if iKey = eAviSchd then
    { n with
      shared := { n.shared with gRecSchdule := (iValue % 2 ^ 32).toNat }
      handler := .pairs rest }
  else { n with handler := .pairs rest }

/-- A step of the state `n` with an event; `none` when the handler or the thread is somewhere
else. -/
def step (n : State) : Event → Option State
  | .message pairs =>
      match n.handler with
      | .pairs [] => some { n with handler := .pairs pairs }
      | _ => none
  | .pair =>
      match n.handler with
      | .pairs ((iKey, iValue) :: rest) => some (processPair iKey iValue rest n)
      | _ => none
  | .enableTest =>
      match n.handler with
      | .test rest =>
          if n.shared.gRecEnable ≠ 0 ∧ n.shared.gRecStatus = 0 then
            some { n with handler := .create rest }
          else some { n with handler := .pairs rest }
      | _ => none
  | .create ok =>
      match n.handler with
      | .create rest =>
          some { n with
            threads := if ok then n.threads ++ [newThread] else n.threads
            handler := .pairs rest }
      | _ => none
  | .thread i mv =>
      match n.threads[i]? with
      | some t =>
          match threadStep n.shared t mv with
          | some (g, t') => some { n with shared := g, threads := n.threads.set i t' }
          | none => none
      | none => none
  | .leave i =>
      match n.threads[i]? with
      | some t =>
          if t.recorder.pc = .done then
            some { n with
              shared := { n.shared with gRecStatus := 0 }
              threads := n.threads.eraseIdx i }
          else none
      | none => none
  | .aviStop => some { n with shared := { n.shared with mQuit := 1 } }

/-! ### What a step can do -/

/-- What a step does: a message is handed over, or one of its pairs is handled; `g_rec_status` is
tested for an enable, which leads to `pthread_create` or is passed over; a thread is created, steps
or ends; or `Avi_stop` is called. -/
inductive Stepped (n : State) : Event → State → Prop where
  | message {pairs : List (Int × Int)} (hhandler : n.handler = .pairs []) :
      Stepped n (.message pairs) { n with handler := .pairs pairs }
  | pair {iKey iValue : Int} {rest : List (Int × Int)}
      (hhandler : n.handler = .pairs ((iKey, iValue) :: rest)) :
      Stepped n .pair (processPair iKey iValue rest n)
  | toCreate {rest : List (Int × Int)} (hhandler : n.handler = .test rest)
      (henable : n.shared.gRecEnable ≠ 0) (hstatus : n.shared.gRecStatus = 0) :
      Stepped n .enableTest { n with handler := .create rest }
  | passOver {rest : List (Int × Int)} (hhandler : n.handler = .test rest)
      (hstatus : n.shared.gRecEnable ≠ 0 → n.shared.gRecStatus ≠ 0) :
      Stepped n .enableTest { n with handler := .pairs rest }
  | create {ok : Bool} {rest : List (Int × Int)} (hhandler : n.handler = .create rest) :
      Stepped n (.create ok) { n with
        threads := if ok then n.threads ++ [newThread] else n.threads
        handler := .pairs rest }
  | thread {i : Nat} {mv : Move} {t t' : SaveThread} {g : Shared} (hi : n.threads[i]? = some t)
      (hthread : threadStep n.shared t mv = some (g, t')) :
      Stepped n (.thread i mv) { n with shared := g, threads := n.threads.set i t' }
  | leave {i : Nat} {t : SaveThread} (hi : n.threads[i]? = some t) (hpc : t.recorder.pc = .done) :
      Stepped n (.leave i) { n with
        shared := { n.shared with gRecStatus := 0 }
        threads := n.threads.eraseIdx i }
  | aviStop : Stepped n .aviStop { n with shared := { n.shared with mQuit := 1 } }

/-- Every step is one of those of `Stepped`, according to the place of the handler or of the
thread. -/
theorem stepped_of_step {n n' : State} {ev : Event} (hstep : step n ev = some n') :
  Stepped n ev n'
  := by
  cases ev with
  | message pairs =>
      simp only [step] at hstep
      split at hstep
      · next hhandler =>
          obtain rfl := Option.some.inj hstep
          apply Stepped.message hhandler
      · contradiction
  | pair =>
      simp only [step] at hstep
      split at hstep
      · next hhandler =>
          obtain rfl := Option.some.inj hstep
          apply Stepped.pair hhandler
      · contradiction
  | enableTest =>
      simp only [step] at hstep
      split at hstep
      · next hhandler =>
          split at hstep
          · next htest =>
              obtain rfl := Option.some.inj hstep
              apply Stepped.toCreate hhandler htest.1 htest.2
          · next htest =>
              obtain rfl := Option.some.inj hstep
              apply Stepped.passOver hhandler
              intro henable hstatus
              exact htest ⟨henable, hstatus⟩
      · contradiction
  | create ok =>
      simp only [step] at hstep
      split at hstep
      · next hhandler =>
          obtain rfl := Option.some.inj hstep
          apply Stepped.create hhandler
      · contradiction
  | thread i mv =>
      simp only [step] at hstep
      split at hstep
      · next hi =>
          split at hstep
          · next hthread =>
              obtain rfl := Option.some.inj hstep
              apply Stepped.thread hi hthread
          · contradiction
      · contradiction
  | leave i =>
      simp only [step] at hstep
      split at hstep
      · next hi =>
          obtain ⟨hpc, hstep⟩ := Option.ite_none_right_eq_some.mp hstep
          obtain rfl := Option.some.inj hstep
          apply Stepped.leave hi hpc
      · contradiction
  | aviStop =>
      obtain rfl := Option.some.inj hstep
      apply Stepped.aviStop

/-! ### A step of a thread -/

section

variable {r r' : Recorder} {mv : Move}

/-- The variables `g_rec_status`, `g_rec_enable`, `g_rec_TimeL` and `g_rec_schdule`, as the recorder
`r` sees them. -/
def globals (r : Recorder) : Int × Int × Int × Nat :=
  (r.gRecStatus, r.gRecEnable, r.gRecTimeL, r.gRecSchdule)

theorem lockFrame_globals (ret : Bool) (data : AvData) (r : Recorder) :
  globals (lockFrame ret data r).1 = globals r
  := by
  simp only [lockFrame]
  split
  · rfl
  · split
    · rfl
    · rfl

theorem checkLag_globals (ret : Bool) (now unlock : AvData) (r : Recorder) :
  globals (checkLag ret now unlock r).1 = globals r
  := by
  simp only [checkLag]
  split
  · split
    · split
      · rfl
      · rfl
    · rfl
  · rfl

theorem storeFrame_globals (ret : Bool) (unlock : AvData) (r : Recorder) :
  globals (storeFrame ret unlock r) = globals r
  := by
  simp only [storeFrame]
  split
  · split
    · rfl
    · rfl
  · rfl

theorem finishFile_globals (r : Recorder) :
  (finishFile r).pc ≠ .done ∧ globals (finishFile r) = globals r
  := by
  simp only [finishFile]
  split
  · simp [globals]
  · simp [globals]

/-- The body of the loop of the recorder neither ends the thread nor touches the `globals`. -/
theorem loopBody_globals (ret : Bool) (data now unlock : AvData) (r : Recorder) :
  (loopBody ret data now unlock r).pc ≠ .done
    ∧ globals (loopBody ret data now unlock r) = globals r
  := by
  have hlock := lockFrame_globals ret data r
  have hcheck := (checkLag_globals ret now unlock (lockFrame ret data r).1).trans hlock
  simp only [loopBody]
  split
  · split
    · obtain ⟨hpc, hglobals⟩ := finishFile_globals
        (storeFrame ret unlock (checkLag ret now unlock (lockFrame ret data r).1).1)
      use hpc
      rw [hglobals, storeFrame_globals, hcheck]
    · exact ⟨by simp, hcheck⟩
  · exact ⟨by simp, hlock⟩

/-- What a step of a recorder does to `g_rec_status`: the first one raises it, and those in the
middle leave it alone.  The last one is taken because a call has failed, or because recording is
disabled. -/
inductive FlagStepped (r : Recorder) (mv : Move) (r' : Recorder) : Prop where
  | raise (hpc : r.pc = .start) (hpc' : r'.pc ≠ .done) (hstatus : r'.gRecStatus = 1)
  | keep (hpc : r.pc ≠ .start) (hpc' : r'.pc ≠ .done) (hstatus : r'.gRecStatus = r.gRecStatus)
  | leave (hpc' : r'.pc = .done) (hcause : Succeeds mv → r.gRecEnable = 0)

/-- Every step of a recorder that the thread makes itself treats `g_rec_status` in one of the ways
of `FlagStepped`. -/
theorem flagStepped_of_step
    (h : AviSave.step r mv = some r') (hmv : ofThread mv = true) :
  FlagStepped r mv r'
  := by
  cases AviSave.stepped_of_step h with
  | exit hpc hafter hcause => apply FlagStepped.leave rfl hcause
  | walk pc gRecStatus hwalks hstatus =>
      obtain ⟨-, -, -, -, -, hdone⟩ := Pc.walks_outside hwalks
      by_cases hpc : r.pc = .start
      · rw [if_pos hpc] at hstatus
        apply FlagStepped.raise hpc hdone hstatus
      · rw [if_neg hpc] at hstatus
        apply FlagStepped.keep hpc hdone hstatus
  | headerError hpc hfail => apply FlagStepped.leave rfl fun hsucc => absurd hsucc hfail
  | body hpc =>
      obtain ⟨hpc', hglobals⟩ := loopBody_globals _ _ _ _ r
      have hstatus := congrArg Prod.fst hglobals
      apply FlagStepped.keep (by simp [hpc]) hpc' hstatus
  | scheduled hpc | info hpc | delete hpc | opened hpc | headers hpc | goOn hpc | quit hpc
  | close hpc | closed hpc =>
      exact FlagStepped.keep (by simp [hpc]) (by simp [getVideoInfo, gmaviOpen]) rfl
  | aviStop | aviEnable | aviTimeL | aviSchd => contradiction

/-- A step of the thread `t` leaves its loop and the static variables alone, or it goes on: then it
raises `g_rec_status` if it is its first step, and otherwise leaves it as it is. -/
theorem threadStep_cases
    {g g' : Shared} {t t' : SaveThread} (h : threadStep g t mv = some (g', t')) :
  (t'.recorder.pc = .done ∧ g' = g ∧ t'.raised = t.raised ∧ (Succeeds mv → g.gRecEnable = 0))
    ∨ (t'.recorder.pc ≠ .done ∧ (t.recorder.pc = .start → g'.gRecStatus = 1)
      ∧ (t.recorder.pc ≠ .start → g'.gRecStatus = g.gRecStatus ∧ t'.raised = t.raised))
  := by
  simp only [threadStep] at h
  split at h
  · next hmv =>
      split at h
      · next r hstep =>
          have hflag := flagStepped_of_step hstep hmv
          split at h
          · next hpc =>
              obtain ⟨rfl, rfl⟩ := Prod.mk.inj (Option.some.inj h)
              left
              use hpc, rfl, rfl
              cases hflag with
              | raise _ hpc' => contradiction
              | keep _ hpc' => contradiction
              | leave _ hcause => apply hcause
          · next hpc =>
              obtain ⟨rfl, rfl⟩ := Prod.mk.inj (Option.some.inj h)
              right
              use hpc
              cases hflag with
              | raise hstart _ hstatus => exact ⟨fun _ => hstatus, fun hne => absurd hstart hne⟩
              | keep hstart _ hstatus =>
                  have hstart' : t.recorder.pc ≠ .start := hstart
                  exact ⟨fun heq => absurd heq hstart', fun _ => ⟨hstatus, by simp [hstart']⟩⟩
              | leave hpc' => contradiction
      · contradiction
  · contradiction

end

/-! ### At most one thread -/

/-- Whenever recording is enabled while `g_rec_status` is not set, every thread has set it: none is
still before the end of its check of the card. -/
def AllRaised (n : State) : Event → Prop
  | .enableTest => n.shared.gRecEnable ≠ 0 → n.shared.gRecStatus = 0 →
      ∀ t ∈ n.threads, t.raised = true
  | _ => True

instance (n : State) (ev : Event) : Decidable (AllRaised n ev) := by
  unfold AllRaised
  split
  all_goals infer_instance

/-- There is one thread at most; `g_rec_status` is set once that thread has set it; and there is
none when another one is about to be created. -/
structure OneThread (n : State) : Prop where
  length : n.threads.length ≤ 1
  status : ∀ t ∈ n.threads, t.raised = true → n.shared.gRecStatus ≠ 0
  create : ∀ rest, n.handler = .create rest → n.threads = []

section

variable {n n' : State} {ev : Event}

/-- One pair of a message changes neither the threads nor `g_rec_status`, and leads the handler to
no `pthread_create`. -/
theorem processPair_frame (iKey iValue : Int) (rest : List (Int × Int)) (n : State) :
  (processPair iKey iValue rest n).threads = n.threads
    ∧ (processPair iKey iValue rest n).shared.gRecStatus = n.shared.gRecStatus
    ∧ ∀ rest', (processPair iKey iValue rest n).handler ≠ .create rest'
  := by
  unfold processPair
  split_ifs
  all_goals simp

/-- If there is one thread at most, then the thread `t` that steps is the only one, and its number
is 0. -/
theorem OneThread.threads_eq (h : OneThread n) {i : Nat} {t : SaveThread}
    (hi : n.threads[i]? = some t) :
  i = 0 ∧ n.threads = [t]
  := by
  have hlength := h.length
  match hthreads : n.threads with
  | [] => simp [hthreads] at hi
  | [u] =>
      rw [hthreads, List.getElem?_singleton] at hi
      split at hi
      · next h0 =>
          obtain rfl := Option.some.inj hi
          use h0
      · contradiction
  | u :: v :: l => simp [hthreads] at hlength

/-- The test of the flag for an enable leads to `pthread_create` with no thread there exactly if
every thread has set the flag, which is not set. -/
theorem OneThread.toCreate_iff
    (h : OneThread n) {rest : List (Int × Int)} (henable : n.shared.gRecEnable ≠ 0)
    (hstatus : n.shared.gRecStatus = 0) :
  OneThread { n with handler := .create rest } ↔ AllRaised n .enableTest
  := by
  constructor
  · intro h' _ _ t ht
    have hnil : n.threads = [] := h'.create rest rfl
    rw [hnil] at ht
    contradiction
  · intro hraised
    refine ⟨h.length, h.status, fun rest' _ => ?_⟩
    apply List.eq_nil_iff_forall_not_mem.mpr
    intro t ht
    apply h.status t ht (hraised henable hstatus t ht) hstatus

/-- From a state without a second thread, `pthread_create` adds the only one, or none if it is not
`ok`. -/
theorem OneThread.create_step
    (h : OneThread n) {ok : Bool} {rest : List (Int × Int)} (hhandler : n.handler = .create rest) :
  OneThread { n with
    threads := if ok then n.threads ++ [newThread] else n.threads
    handler := .pairs rest }
  := by
  have hnil : n.threads = [] := h.create rest hhandler
  cases ok with
  | true =>
      constructor
      · simp [hnil]
      · simp [hnil, newThread]
      · nofun
  | false => exact ⟨h.length, h.status, nofun⟩

/-- A step of the only thread keeps `OneThread`: it sets `g_rec_status` when the thread begins, and
clears it only when that thread has set it. -/
theorem OneThread.thread_step
    (h : OneThread n) {i : Nat} {mv : Move} {t t' : SaveThread} {g : Shared}
    (hi : n.threads[i]? = some t) (hthread : threadStep n.shared t mv = some (g, t')) :
  OneThread { n with shared := g, threads := n.threads.set i t' }
  := by
  obtain ⟨rfl, hthreads⟩ := h.threads_eq hi
  have hold := h.status t (by simp [hthreads])
  constructor
  · simp [hthreads]
  · simp only [hthreads, List.set_cons_zero, List.mem_singleton, forall_eq]
    obtain ⟨_, rfl, hraised, _⟩ | ⟨_, hstart, hother⟩ := threadStep_cases hthread
    · rw [hraised]
      apply hold
    · intro hraised
      by_cases hpc : t.recorder.pc = .start
      · simp [hstart hpc]
      · obtain ⟨hstatus, hsame⟩ := hother hpc
        rw [hstatus]
        apply hold
        rw [← hsame, hraised]
  · intro rest hrest
    have hnil := h.create rest hrest
    rw [hnil] at hthreads
    contradiction

/-- When the only thread ends and clears `g_rec_status`, there is no thread, so `OneThread` is
kept. -/
theorem OneThread.leave_step
    (h : OneThread n) {i : Nat} {t : SaveThread} (hi : n.threads[i]? = some t) :
  OneThread { n with
    shared := { n.shared with gRecStatus := 0 }
    threads := n.threads.eraseIdx i }
  := by
  obtain ⟨rfl, hthreads⟩ := h.threads_eq hi
  have hnil : n.threads.eraseIdx 0 = [] := by rw [hthreads, List.eraseIdx_cons_zero]
  constructor
  · simp [hnil]
  · simp [hnil]
  · intro _ _
    apply hnil

/-- A step from a state with one thread at most leads to one exactly when it is `AllRaised`. -/
theorem OneThread.step_iff (h : OneThread n) (hstep : step n ev = some n') :
  OneThread n' ↔ AllRaised n ev
  := by
  cases stepped_of_step hstep with
  | message hhandler =>
      apply iff_of_true _ trivial
      exact ⟨h.length, h.status, nofun⟩
  | @pair iKey iValue rest hhandler =>
      apply iff_of_true _ trivial
      obtain ⟨hthreads, hstatus, hcreate⟩ := processPair_frame iKey iValue rest n
      constructor
      · rw [hthreads]
        apply h.length
      · rw [hthreads, hstatus]
        apply h.status
      · intro rest' hrest'
        exact absurd hrest' (hcreate rest')
  | toCreate hhandler henable hstatus => apply h.toCreate_iff henable hstatus
  | passOver hhandler hstatus =>
      apply iff_of_true
      · exact ⟨h.length, h.status, nofun⟩
      · intro henable hstatus'
        exact absurd hstatus' (hstatus henable)
  | create hhandler =>
      apply iff_of_true _ trivial
      apply h.create_step hhandler
  | thread hi hthread =>
      apply iff_of_true _ trivial
      apply h.thread_step hi hthread
  | leave hi hpc =>
      apply iff_of_true _ trivial
      apply h.leave_step hi
  | aviStop =>
      apply iff_of_true _ trivial
      exact ⟨h.length, h.status, h.create⟩

theorem initState_oneThread : OneThread initState := by
  constructor
  · simp [initState]
  · simp [initState]
  · intro _ _
    rfl

/-- In every run in which recording is never enabled while a thread has yet to set `g_rec_status`,
as `AllRaised` says, there is at most one recorder thread. -/
theorem at_most_one_recorder
    {evs : List Event} (h : Run step AllRaised initState evs n) :
  n.threads.length ≤ 1
  := by
  have hone : OneThread n := by
    apply h.invariant (I := OneThread) _ initState_oneThread
    intro n ev n' hn hraised hstep
    apply (hn.step_iff hstep).mpr hraised
  apply hone.length

/-- The run in which recording is enabled, and the thread gets to the test of its loop before
recording is enabled again. -/
def enabledTwice : List Event :=
  [.message [(1024, 1)], .pair, .enableTest, .create true, .thread 0 (.start 1 0),
    .message [(1024, 1)], .pair, .enableTest]

/-- Behind the run `enabledTwice` there is one thread, and the handler creates no second one. -/
theorem at_most_one_recorder_enabledTwice :
  ∃ n, Run step AllRaised initState enabledTwice n ∧ n.threads.length ≤ 1
    ∧ n.threads.length = 1 ∧ n.handler = .pairs []
  := by
  obtain ⟨n, hrun, hn⟩ := Run.exists_of_exec step AllRaised initState
    (fun n => n.threads.length == 1 && n.handler == .pairs []) enabledTwice (by decide +kernel)
  rw [Bool.and_eq_true, beq_iff_eq, beq_iff_eq] at hn
  use n, hrun, at_most_one_recorder hrun, hn.1, hn.2

/-- The run in which recording is enabled twice by one message, before the thread of the first pair
has begun. -/
def enabledAtOnce : List Event :=
  [.message [(1024, 1), (1024, 1)], .pair, .enableTest, .create true, .pair, .enableTest,
    .create true]

/-- Behind the run `enabledAtOnce` there are two threads, and both of them come to the test of their
loop and record. -/
theorem two_recorders :
  ∃ n, Run step (fun _ _ => True) initState
      (enabledAtOnce ++ [.thread 0 (.start 1 0), .thread 1 (.start 1 0)]) n
    ∧ n.threads.length = 2 ∧ ∀ t ∈ n.threads, t.recorder.pc = .test
  := by
  obtain ⟨n, hrun, hn⟩ := Run.exists_of_exec step (fun _ _ => True) initState
    (fun n => n.threads.length == 2 && n.threads.all fun t => t.recorder.pc == .test)
    (enabledAtOnce ++ [.thread 0 (.start 1 0), .thread 1 (.start 1 0)]) (by decide +kernel)
  simp only [Bool.and_eq_true, beq_iff_eq, List.all_eq_true] at hn
  use n, hrun, hn.1, hn.2

/-! ### No enable is lost -/

/-- The thread `t` records: it has not left its loop. -/
def SaveThread.records (t : SaveThread) : Prop := t.recorder.pc ≠ .done

instance (t : SaveThread) : Decidable t.records := inferInstanceAs (Decidable (_ ≠ _))

/-- The calls of the threads succeed; `pthread_create` does, or another thread records; and
whenever recording is enabled while the flag is set, some thread has not left its loop. -/
def NotLeaving (n : State) : Event → Prop
  | .enableTest => n.shared.gRecEnable ≠ 0 → n.shared.gRecStatus ≠ 0 → ∃ t ∈ n.threads, t.records
  | .create ok => ok = true ∨ ∃ t ∈ n.threads, t.records
  | .thread _ mv => Succeeds mv
  | _ => True

instance (n : State) (ev : Event) : Decidable (NotLeaving n ev) := by
  unfold NotLeaving
  split
  all_goals infer_instance

/-- If the handler is between two pairs of a message, and recording is enabled, then some thread
records. -/
def Recording (n : State) : Prop :=
  ∀ rest, n.handler = .pairs rest → n.shared.gRecEnable ≠ 0 → ∃ t ∈ n.threads, t.records

/-- One pair of a message leaves the handler before the test of the flag, or it leaves
`g_rec_enable` alone. -/
theorem processPair_enable (iKey iValue : Int) (rest : List (Int × Int)) (n : State) :
  (processPair iKey iValue rest n).handler = .test rest
    ∨ (processPair iKey iValue rest n).shared.gRecEnable = n.shared.gRecEnable
  := by
  unfold processPair
  split_ifs
  all_goals simp

/-- Behind a step of the thread `t` that does not fail, `Recording` holds: the thread goes on, or
recording is disabled. -/
theorem recording_thread
    {i : Nat} {t t' : SaveThread} {g : Shared} {mv : Move} (hi : n.threads[i]? = some t)
    (hthread : threadStep n.shared t mv = some (g, t')) (hmv : Succeeds mv) :
  Recording { n with shared := g, threads := n.threads.set i t' }
  := by
  intro rest _ henable
  obtain ⟨_, rfl, _, hcause⟩ | ⟨hpc, _⟩ := threadStep_cases hthread
  · exact absurd (hcause hmv) henable
  · obtain ⟨hlt, _⟩ := List.getElem?_eq_some_iff.mp hi
    use t', List.mem_set hlt t', hpc

/-- The end of a thread `t` that has left its loop before keeps `Recording`, as it is another one
that records. -/
theorem Recording.leave
    (h : Recording n) {i : Nat} {t : SaveThread} (hi : n.threads[i]? = some t)
    (hpc : t.recorder.pc = .done) :
  Recording { n with
    shared := { n.shared with gRecStatus := 0 }
    threads := n.threads.eraseIdx i }
  := by
  intro rest hrest henable
  obtain ⟨u, hu, hrecords⟩ := h rest hrest henable
  refine ⟨u, ?_, hrecords⟩
  apply List.mem_eraseIdx_iff_getElem?.mpr
  obtain ⟨j, hj⟩ := List.mem_iff_getElem?.mp hu
  refine ⟨j, ?_, hj⟩
  rintro rfl
  rw [hi] at hj
  obtain rfl := Option.some.inj hj
  contradiction

/-- Behind `pthread_create`, if it succeeds or another thread records, `Recording` holds. -/
theorem recording_create
    {ok : Bool} {rest : List (Int × Int)} (hC : NotLeaving n (.create ok)) :
  Recording { n with
    threads := if ok then n.threads ++ [newThread] else n.threads
    handler := .pairs rest }
  := by
  intro rest' _ _
  obtain rfl | ⟨t, ht, hrecords⟩ := hC
  · use newThread
    constructor
    · simp
    · simp [SaveThread.records, newThread, newRecorder]
  · refine ⟨t, ?_, hrecords⟩
    cases ok with
    | true => simp [ht]
    | false => simp [ht]

/-- Every step that is `NotLeaving` keeps `Recording`: some thread records while recording is
enabled. -/
theorem Recording.step (h : Recording n) (hC : NotLeaving n ev) (hstep : step n ev = some n') :
  Recording n'
  := by
  cases stepped_of_step hstep with
  | message hhandler =>
      intro rest _ henable
      apply h [] hhandler henable
  | @pair iKey iValue rest hhandler =>
      intro rest' hrest' henable
      rw [(processPair_frame iKey iValue rest n).1]
      obtain htest | hsame := processPair_enable iKey iValue rest n
      · rw [htest] at hrest'
        contradiction
      · rw [hsame] at henable
        apply h _ hhandler henable
  | toCreate hhandler henable hstatus =>
      intro rest hrest
      contradiction
  | passOver hhandler hstatus =>
      intro rest _ henable
      apply hC henable (hstatus henable)
  | create hhandler => apply recording_create hC
  | thread hi hthread => apply recording_thread hi hthread hC
  | leave hi hpc => apply h.leave hi hpc
  | aviStop => apply h

/-- The test of an enable leads to a state in which a thread records, if recording is enabled,
exactly when it is `NotLeaving`: it does not find the flag set while every thread has left its
loop. -/
theorem recording_enableTest_iff (hstep : step n .enableTest = some n') :
  Recording n' ↔ NotLeaving n .enableTest
  := by
  cases stepped_of_step hstep with
  | toCreate _ _ hstatus =>
      apply iff_of_true
      · intro rest hrest
        contradiction
      · intro _ hset
        exact absurd hstatus hset
  | passOver _ hstatus =>
      constructor
      · intro h henable _
        apply h _ rfl henable
      · intro hC rest _ henable
        apply hC henable (hstatus henable)

theorem initState_recording : Recording initState := by
  intro _ _ henable
  exact absurd rfl henable

/-- In every run in which the calls of the threads succeed, and no enable finds `g_rec_status` set
by a thread that has already left its loop, a thread records whenever no message is being handled
and recording is enabled. -/
theorem enabled_recorder_runs
    {evs : List Event} (h : Run step NotLeaving initState evs n)
    (hhandler : n.handler = .pairs []) (henable : n.shared.gRecEnable ≠ 0) :
  ∃ t ∈ n.threads, t.records
  := by
  have hrecording : Recording n := by
    apply h.invariant (I := Recording) _ initState_recording
    intro n ev n' hn hC hstep
    apply hn.step hC hstep
  apply hrecording [] hhandler henable

/-- The run in which recording is enabled, disabled before the thread has come to its test, and
enabled again when it has not yet tested the flag. -/
def enabledInTime : List Event :=
  [.message [(1024, 1)], .pair, .enableTest, .create true, .thread 0 (.start 1 0),
    .message [(1024, 0)], .pair, .enableTest, .message [(1024, 1)], .pair, .enableTest,
    .thread 0 .test]

/-- Behind the run `enabledInTime` the thread has passed its test, and records. -/
theorem enabled_recorder_runs_enabledInTime :
  ∃ n, Run step NotLeaving initState enabledInTime n ∧ ∃ t ∈ n.threads, t.records
  := by
  obtain ⟨n, hrun, hn⟩ := Run.exists_of_exec step NotLeaving initState
    (fun n => n.handler == .pairs [] && n.shared.gRecEnable != 0) enabledInTime
    (by decide +kernel)
  rw [Bool.and_eq_true, beq_iff_eq, bne_iff_ne] at hn
  exact ⟨n, hrun, enabled_recorder_runs hrun hn.1 hn.2⟩

/-- The calls that the threads make in the event succeed, and so does `pthread_create`. -/
def CallsSucceed (_ : State) : Event → Prop
  | .create ok => ok = true
  | .thread _ mv => Succeeds mv
  | _ => True

instance (n : State) (ev : Event) : Decidable (CallsSucceed n ev) := by
  unfold CallsSucceed
  split
  all_goals infer_instance

/-- The run in which recording is disabled, and enabled again while the thread is leaving its
loop. -/
def enabledTooSoon : List Event :=
  [.message [(1024, 1)], .pair, .enableTest, .create true, .thread 0 (.start 1 0),
    .message [(1024, 0)], .pair, .enableTest, .thread 0 .test, .message [(1024, 1)], .pair,
    .enableTest, .leave 0]

/-- Behind the run `enabledTooSoon`, in which all calls succeed, recording is enabled and there is
no thread that records. -/
theorem enable_lost :
  ∃ n, Run step CallsSucceed initState enabledTooSoon n
    ∧ n.handler = .pairs [] ∧ n.shared.gRecEnable = 1 ∧ n.threads = []
  := by
  obtain ⟨n, hrun, hn⟩ := Run.exists_of_exec step CallsSucceed initState
    (fun n => n.handler == .pairs [] && n.shared.gRecEnable == 1 && n.threads.isEmpty)
    enabledTooSoon (by decide +kernel)
  simp only [Bool.and_eq_true, beq_iff_eq, List.isEmpty_iff] at hn
  use n, hrun, hn.1.1, hn.1.2, hn.2

end

end AviSave.Control
