import Avserver.Library.Run
import Avserver.P2p.Sessions

/-!
# The reuse of a session

`send_frame_p2p` sends under the read lock of a session, but it unregisters the session after a
send error without it.  In between the thread of the session may end, the IOTC library may give
the same number to a new session, and the new one may start its video on another `avIndex`:
then it is the video of the new session that is stopped.  It is the only way in which the
sender stops a video on which it has seen no error.
-/

namespace P2p.Reuse

open Library

/-- The thread of a session: there is none, it serves the session with its `avIndex`, or it has
unregistered its client and not closed the session yet. -/
inductive Thread where
  | none
  | running (avIndex : Int)
  | ended
deriving DecidableEq

/-- Where `send_frame_p2p` is, with the sessions that its loop has still to visit: before the
read lock of the next one, or not called; under the read lock of a session that wants video;
behind it, with an error on the `avIndex` that the session had. -/
inductive Sender where
  | visit (sending : List SID)
  | locked (SID : SID) (sending : List P2p.SID)
  | failed (SID : SID) (avIndex : Int) (sending : List P2p.SID)

/-- The `avIndex` on which the sender has seen an error, for a session that it is about to
unregister. -/
def Sender.observed : Sender → SID → Option Int
  | .failed SID avIndex _, i => if i = SID then some avIndex else .none
  | _, _ => .none

/-- The sender holds the read lock of the session with the number `i`, which it takes for one
session at a time. -/
def Sender.holds : Sender → SID → Bool
  | .locked SID _, i => i = SID
  | _, _ => false

/-- The threads of the sessions and the sender, and the `server` that they share. -/
structure Threads where
  server : Server
  thread : SID → Thread
  sender : Sender

/-- The state in which no session has been accepted, and the sender is idle. -/
def noThreads : Threads where
  server := initAVInfo
  thread := fun _ => .none
  sender := .visit []

/-- The commands that `Handle_IOCTRL_Cmd` handles under the write lock of the session. -/
def takesWriteLock : IoType → Bool
  | .listEventReq | .recordPlayControl ⟨.other _, _⟩ | .ptzCommand _ | .other _ => false
  | _ => true

/-- A step of the thread of a session, or of the sender, with what the calls in it return. -/
inductive Event where
  /-- `IOTC_Listen` yields a session that is free, and `avServStart3` the `avIndex` -/
  | connect (SID : SID) (avIndex : Int)
  /-- a session receives a command and handles it -/
  | command (SID : SID) (type : IoType) (answer : Answer)
  /-- `avRecvIOCtrl` fails, and the thread of the session unregisters its client, without the
  lock -/
  | terminate (SID : SID)
  /-- `avServStop` and `IOTC_Session_Close`, after which the session is free -/
  | close (SID : SID)
  /-- `send_frame_p2p` is called -/
  | sendFrame
  /-- it takes the read lock of the next session, and gives it back at once unless video is
  wanted -/
  | lock
  /-- it sends the frame and gives the lock back -/
  | send (ret : SendResult)
  /-- it unregisters the session -/
  | unregister
deriving DecidableEq

/-- One step; `none` when the thread is somewhere else or waits for a lock, and when the
command is fatal. -/
def step (n : Threads) : Event → Option Threads
  | .connect SID avIndex =>
      if n.thread SID = .none then
        if avIndex < 0 then some n
        else some { n with thread := Function.update n.thread SID (.running avIndex) }
      else none
  | .command SID type answer =>
      match n.thread SID with
      | .running avIndex =>
          if takesWriteLock type ∧ n.sender.holds SID then none
          else
            match handleIOCTRLCmd SID avIndex type answer n.server with
            | .ok server => some { n with server := server }
            | .error _ => none
      | _ => none
  | .terminate SID =>
      match n.thread SID with
      | .running _ =>
          some { n with
            server := unregeditClientFromVideo SID n.server
            thread := Function.update n.thread SID .ended }
      | _ => none
  | .close SID =>
      if n.thread SID = .ended then
        some { n with thread := Function.update n.thread SID .none }
      else none
  | .sendFrame =>
      match n.sender with
      | .visit [] =>
          if returnsEarly n.server then some n
          else some { n with sender := .visit (List.finRange maxClientNumber) }
      | _ => none
  | .lock =>
      match n.sender with
      | .visit (SID :: sending) =>
          if (n.server.gClientInfo SID).wantsVideo then
            some { n with sender := .locked SID sending }
          else some { n with sender := .visit sending }
      | _ => none
  | .send ret =>
      match n.sender with
      | .locked SID sending =>
          let server := avSendFrameData SID n.server
          if ret.unregisters then
            some { n with
              server := server
              sender := .failed SID (n.server.gClientInfo SID).avIndex sending }
          else some { n with server := server, sender := .visit sending }
      | _ => none
  | .unregister =>
      match n.sender with
      | .failed SID _ sending =>
          some { n with
            server := unregeditClientFromVideo SID n.server
            sender := .visit sending }
      | _ => none

/-- No session starts its video while the sender is about to unregister it for an error on
another `avIndex`. -/
def NotReused (n : Threads) : Event → Prop
  | .command SID .ipcamStart _ => ∀ a ∈ n.sender.observed SID, n.thread SID = .running a
  | _ => True

instance (n : Threads) (ev : Event) : Decidable (NotReused n ev) := by
  unfold NotReused
  split
  all_goals infer_instance

/-- The session that the sender is about to unregister is still registered with the `avIndex` on
which the sender has seen the error. -/
def Current (n : Threads) : Prop :=
  ∀ SID, ∀ a ∈ n.sender.observed SID, (n.server.gClientInfo SID).avIndex = a

/-! ### One step -/

theorem unregedit_avIndex (SID i : P2p.SID) (s : Server) :
  ((unregeditClientFromVideo SID s).gClientInfo i).avIndex = (s.gClientInfo i).avIndex
  := by
  by_cases h : i = SID
  · simp [h, unregeditClientFromVideo]
  · simp [unregeditClientFromVideo, modifyClient_of_ne s h]

theorem regedit_avIndex (SID i : P2p.SID) (avIndex : Int) (s : Server) :
  ((regeditClientToVideo SID avIndex s).gClientInfo i).avIndex
    = if i = SID then avIndex else (s.gClientInfo i).avIndex
  := by
  split
  · next h => simp [h, regeditClientToVideo]
  · next h => simp [regeditClientToVideo, modifyClient_of_ne s h]

variable {n n' : Threads} {ev : Event}

/-- A step that leaves the sender where it is and changes no `avIndex` keeps `Current`: nobody is
registered anew. -/
theorem Current.of_avIndex
    (h : Current n) (hsender : n'.sender = n.sender)
    (hindex : ∀ i, (n'.server.gClientInfo i).avIndex = (n.server.gClientInfo i).avIndex) :
  Current n'
  := by
  intro SID a ha
  rw [hindex]
  rw [hsender] at ha
  apply h SID a ha

/-- When the session `SID` starts its video, `Current` is kept exactly if the sender has not seen an
error in its slot, on another `avIndex`. -/
theorem Current.start_iff
    (h : Current n) {SID : P2p.SID} {avIndex : Int} (hthread : n.thread SID = .running avIndex)
    (answer : Answer) :
  Current { n with server := regeditClientToVideo SID avIndex n.server }
    ↔ NotReused n (.command SID .ipcamStart answer)
  := by
  constructor
  · intro hcurrent a ha
    have hindex := hcurrent SID a ha
    rw [regedit_avIndex, if_pos rfl] at hindex
    rw [hthread, hindex]
  · intro hreused i a ha
    rw [regedit_avIndex]
    split
    · next hi =>
        obtain rfl := hi
        apply Thread.running.inj
        rw [← hthread, hreused a ha]
    · apply h i a ha

/-- If the sender has seen no error in any slot, `Current` holds. -/
theorem Current.of_unobserved (h : ∀ SID, n.sender.observed SID = .none) :
  Current n
  := by
  intro SID a ha
  rw [h SID] at ha
  contradiction

/-- When the sender sees an error on the `avIndex` that it has just sent to, `Current` holds. -/
theorem current_failed (SID : P2p.SID) (server : Server) (thread : P2p.SID → Thread)
    (sending : List P2p.SID) :
  Current ⟨avSendFrameData SID server, thread,
    .failed SID (server.gClientInfo SID).avIndex sending⟩
  := by
  intro i a ha
  simp only [Sender.observed] at ha
  split at ha
  · next hi =>
      obtain rfl := Option.some.inj ha
      rw [hi]
      rfl
  · contradiction

/-- A step from a state in which the sender's error is about the session in the slot leads to one
exactly when no other session starts its video in the slot: `NotReused`. -/
theorem Current.step_iff (h : Current n) (hstep : step n ev = some n') :
  Current n' ↔ NotReused n ev
  := by
  cases ev with
  | connect SID avIndex =>
      apply iff_of_true _ trivial
      simp only [step] at hstep
      split at hstep
      · split at hstep
        · obtain rfl := Option.some.inj hstep
          apply h
        · obtain rfl := Option.some.inj hstep
          apply h
      · contradiction
  | command SID type answer =>
      simp only [step] at hstep
      split at hstep
      · next avIndex hthread =>
          split at hstep
          · contradiction
          · split at hstep
            · next server hok =>
                obtain rfl := Option.some.inj hstep
                obtain ⟨rfl, rfl⟩ | ⟨rfl, rfl⟩ | ⟨hstart, hstop, hsame⟩ :=
                  handleIOCTRLCmd_cases hok
                · apply h.start_iff hthread
                · apply iff_of_true _ trivial
                  exact h.of_avIndex rfl fun i => unregedit_avIndex SID i n.server
                · apply iff_of_true
                  · exact h.of_avIndex rfl hsame.avIndex
                  · simp [NotReused, hstart]
            · contradiction
      · contradiction
  | terminate SID =>
      apply iff_of_true _ trivial
      simp only [step] at hstep
      split at hstep
      · obtain rfl := Option.some.inj hstep
        exact h.of_avIndex rfl fun i => unregedit_avIndex SID i n.server
      · contradiction
  | close SID =>
      apply iff_of_true _ trivial
      simp only [step] at hstep
      split at hstep
      · obtain rfl := Option.some.inj hstep
        apply h
      · contradiction
  | sendFrame =>
      apply iff_of_true _ trivial
      simp only [step] at hstep
      split at hstep
      · split at hstep
        · obtain rfl := Option.some.inj hstep
          apply h
        · obtain rfl := Option.some.inj hstep
          exact Current.of_unobserved fun _ => rfl
      · contradiction
  | lock =>
      apply iff_of_true _ trivial
      simp only [step] at hstep
      split at hstep
      · split at hstep
        · obtain rfl := Option.some.inj hstep
          exact Current.of_unobserved fun _ => rfl
        · obtain rfl := Option.some.inj hstep
          exact Current.of_unobserved fun _ => rfl
      · contradiction
  | send ret =>
      apply iff_of_true _ trivial
      simp only [step] at hstep
      split at hstep
      · split at hstep
        · obtain rfl := Option.some.inj hstep
          apply current_failed
        · obtain rfl := Option.some.inj hstep
          exact Current.of_unobserved fun _ => rfl
      · contradiction
  | unregister =>
      apply iff_of_true _ trivial
      simp only [step] at hstep
      split at hstep
      · obtain rfl := Option.some.inj hstep
        exact Current.of_unobserved fun _ => rfl
      · contradiction

/-! ### Runs -/

theorem noThreads_current : Current noThreads := Current.of_unobserved fun _ => rfl

/-- In every run in which no other session starts its video in a slot that the sender is about
to unregister, a video that the sender stops is registered with the `avIndex` on which the
sender has seen the error. -/
theorem send_error_stops_own_video
    {evs : List Event} (h : Run step NotReused noThreads evs n)
    (hstep : step n .unregister = some n') (SID : P2p.SID)
    (hon : (n.server.gClientInfo SID).bEnableVideo = true)
    (hoff : (n'.server.gClientInfo SID).bEnableVideo = false) :
  n.sender.observed SID = some (n.server.gClientInfo SID).avIndex
  := by
  have hcurrent : Current n := by
    apply h.invariant (I := Current) _ noThreads_current
    intro n ev n' hn hreused hstep
    apply (hn.step_iff hstep).mpr hreused
  simp only [step] at hstep
  split at hstep
  · next i avIndex sending hsender =>
      obtain rfl := Option.some.inj hstep
      have hi : SID = i := by
        by_contra hne
        simp [unregeditClientFromVideo, modifyClient_of_ne _ hne, hon] at hoff
      have hobserved : n.sender.observed SID = some avIndex := by
        rw [hsender, Sender.observed, if_pos hi]
      rw [hobserved, hcurrent SID avIndex hobserved]
  · contradiction

/-- The run in which a session that has started its video ends while a frame is sent to it. -/
def sessionEnds : List Event :=
  [.connect 0 0, .command 0 .ipcamStart ⟨true, 0, 0⟩, .sendFrame, .lock,
    .send .sessionCloseByRemote]

/-- In the run `sessionEnds` the sender unregisters the session on whose `avIndex` it has seen the
error. -/
theorem send_error_stops_own_video_sessionEnds :
  ∃ n n', Run step NotReused noThreads sessionEnds n ∧ step n .unregister = some n'
    ∧ (n.server.gClientInfo 0).bEnableVideo = true
    ∧ (n'.server.gClientInfo 0).bEnableVideo = false
    ∧ n.sender.observed 0 = some (n.server.gClientInfo 0).avIndex
  := by
  obtain ⟨n, hrun, hn⟩ := Run.exists_of_exec step NotReused noThreads
    (fun n => (n.server.gClientInfo 0).bEnableVideo
      && (step n .unregister).any fun n' => !(n'.server.gClientInfo 0).bEnableVideo)
    sessionEnds (by decide +kernel)
  rw [Bool.and_eq_true, Option.any_eq_true] at hn
  obtain ⟨hon, n', hstep, hoff⟩ := hn
  rw [Bool.not_eq_true'] at hoff
  use n, n', hrun, hstep, hon, hoff, send_error_stops_own_video hrun hstep 0 hon hoff

/-- The session ends for good before the sender unregisters it, and a new session starts its
video in its place, on another `avIndex`. -/
def sessionReplaced : List Event :=
  sessionEnds ++ [.terminate 0, .close 0, .connect 0 1, .command 0 .ipcamStart ⟨true, 0, 0⟩]

/-- In the run `sessionReplaced` the sender stops the video of the new session, for an error that it
has seen on the `avIndex` of the old one. -/
theorem send_error_stops_other_video :
  ∃ n n', Run step (fun _ _ => True) noThreads sessionReplaced n
    ∧ step n .unregister = some n'
    ∧ (n.server.gClientInfo 0).bEnableVideo = true
    ∧ (n'.server.gClientInfo 0).bEnableVideo = false
    ∧ n.sender.observed 0 = some 0 ∧ (n.server.gClientInfo 0).avIndex = 1
  := by
  obtain ⟨n, hrun, hn⟩ := Run.exists_of_exec step (fun _ _ => True) noThreads
    (fun n => (n.server.gClientInfo 0).bEnableVideo
      && (step n .unregister).any (fun n' => !(n'.server.gClientInfo 0).bEnableVideo)
      && n.sender.observed 0 == some 0 && (n.server.gClientInfo 0).avIndex == 1)
    sessionReplaced (by decide +kernel)
  simp only [Bool.and_eq_true, Option.any_eq_true, Bool.not_eq_true', beq_iff_eq] at hn
  obtain ⟨⟨⟨hon, n', hstep, hoff⟩, hobserved⟩, havIndex⟩ := hn
  use n, n'

end P2p.Reuse
