import Avserver.Library.Run
import Avserver.P2p.Sessions

/-!
# The number of sessions that want video

`p2p_send_status` is meant to be the number of sessions whose `bEnableVideo` is 1:
`send_frame_p2p` returns at once when it is zero.  But it is changed by every `IPCAM_START`,
every `IPCAM_STOP` and every end of a session, whether the flag of the session changes or not.
It keeps to the number as long as videos are started that are off and stopped that are on.
-/

namespace P2p

open Library

/-- The set of the sessions of `s` whose flag `bEnableVideo` is 1. -/
def enabled (s : Server) : Finset SID :=
  Finset.univ.filter fun SID => (s.gClientInfo SID).bEnableVideo = true

/-- The counter `p2pSendStatus` is the number of sessions whose video is on. -/
def Accounted (s : Server) : Prop := s.p2pSendStatus = (enabled s).card

instance (s : Server) : Decidable (Accounted s) := inferInstanceAs (Decidable (_ = _))

/-! ### The counter and the flags -/

section

variable {s s' : Server} {SID : SID}

theorem mem_enabled {i : P2p.SID} : i ∈ enabled s ↔ (s.gClientInfo i).bEnableVideo = true := by
  simp [enabled]

theorem enabled_congr
    (h : ∀ i, (s'.gClientInfo i).bEnableVideo = (s.gClientInfo i).bEnableVideo) :
  enabled s' = enabled s
  := by
  ext i
  rw [mem_enabled, mem_enabled, h]

theorem enabled_regedit (SID : P2p.SID) (avIndex : Int) (s : Server) :
  enabled (regeditClientToVideo SID avIndex s) = insert SID (enabled s)
  := by
  ext i
  rw [Finset.mem_insert, mem_enabled, mem_enabled]
  by_cases h : i = SID
  · simp [h, regeditClientToVideo]
  · simp [h, regeditClientToVideo, modifyClient_of_ne s h]

theorem enabled_unregedit (SID : P2p.SID) (s : Server) :
  enabled (unregeditClientFromVideo SID s) = (enabled s).erase SID
  := by
  ext i
  rw [Finset.mem_erase, mem_enabled, mem_enabled]
  by_cases h : i = SID
  · simp [h, unregeditClientFromVideo]
  · simp [h, unregeditClientFromVideo, modifyClient_of_ne s h]

/-- From a state that is accounted for, the start of a video leads to one exactly when the video of
the session `SID` is off before. -/
theorem Accounted.regedit_iff (h : Accounted s) (avIndex : Int) :
  Accounted (regeditClientToVideo SID avIndex s)
    ↔ (s.gClientInfo SID).bEnableVideo = false
  := by
  have hstatus : (regeditClientToVideo SID avIndex s).p2pSendStatus = s.p2pSendStatus + 1 := rfl
  rw [Accounted, enabled_regedit, hstatus, h]
  cases hvideo : (s.gClientInfo SID).bEnableVideo with
  | true =>
      rw [Finset.insert_eq_of_mem (mem_enabled.mpr hvideo)]
      simp only [Bool.true_eq_false, iff_false]
      omega
  | false =>
      have hmem : SID ∉ enabled s := by simp [mem_enabled, hvideo]
      rw [Finset.card_insert_of_notMem hmem]
      simp

/-- From a state that is accounted for, the stop of a video leads to one exactly when the video of
the session `SID` is on before, or the counter is zero. -/
theorem Accounted.unregedit_iff (h : Accounted s) :
  Accounted (unregeditClientFromVideo SID s)
    ↔ (s.gClientInfo SID).bEnableVideo = true ∨ s.p2pSendStatus = 0
  := by
  have hstatus : (unregeditClientFromVideo SID s).p2pSendStatus
      = if s.p2pSendStatus > 0 then s.p2pSendStatus - 1 else s.p2pSendStatus := rfl
  rw [Accounted, enabled_unregedit, hstatus]
  rw [Accounted] at h
  cases hvideo : (s.gClientInfo SID).bEnableVideo with
  | true =>
      have hmem : SID ∈ enabled s := mem_enabled.mpr hvideo
      have hcard := Finset.card_erase_add_one hmem
      simp only [true_or, iff_true]
      split
      · omega
      · omega
  | false =>
      have hmem : SID ∉ enabled s := by simp [mem_enabled, hvideo]
      rw [Finset.erase_eq_of_notMem hmem]
      simp only [Bool.false_eq_true, false_or]
      split
      · omega
      · omega

/-- If a client `p` passes the test of the sender, its video is on. -/
theorem AVClient.bEnableVideo_of_wantsVideo {p : AVClient} (h : p.wantsVideo = true) :
  p.bEnableVideo = true
  := by
  simp only [AVClient.wantsVideo, Bool.not_eq_true', Bool.or_eq_false_iff] at h
  simpa using h.2

theorem SameVideo.accounted_iff (h : SameVideo s s') :
  Accounted s' ↔ Accounted s
  := by
  rw [Accounted, Accounted, h.status, enabled_congr h.bEnableVideo]

/-- The pass of the sender for the session `SID` keeps the account, also behind a send error: what
it stops then is a video that is on. -/
theorem Accounted.sendSlot (h : Accounted s) (SID : P2p.SID) (ret : SendResult) :
  Accounted (sendSlot SID ret s)
  := by
  have hsend : Accounted (avSendFrameData SID s) := h
  rw [P2p.sendSlot]
  split
  · next hwants =>
      split
      · apply hsend.unregedit_iff.mpr
        left
        apply AVClient.bEnableVideo_of_wantsVideo hwants
      · apply hsend
  · apply h

end

/-! ### The sessions and the sender -/

/-- The threads of the sessions and the sender, and the `server` that they share. -/
structure Sessions where
  server : Server
  /-- the `avIndex` of the thread that serves a session -/
  session : SID → Option Int
  /-- the sessions that the loop of `send_frame_p2p` has still to visit -/
  sending : List SID

/-- The state in which no session has been accepted, and the sender is idle. -/
def noSessions : Sessions where
  server := initAVInfo
  session := fun _ => none
  sending := []

/-- What happens to the sessions, a step at a time: a step of a session, or of the loop of
`send_frame_p2p`. -/
inductive Event where
  /-- `IOTC_Listen` yields a session that is free, and `avServStart3` the `avIndex` -/
  | connect (SID : SID) (avIndex : Int)
  /-- a session receives a command and handles it -/
  | command (SID : SID) (type : IoType) (answer : Answer)
  /-- `avRecvIOCtrl` fails, and the thread of the session ends -/
  | terminate (SID : SID)
  /-- `send_frame_p2p` is called -/
  | sendFrame
  /-- the next pass of its loop, with the result of `avSendFrameData` -/
  | sendSlot (ret : SendResult)
deriving DecidableEq

/-- One step; `none` when there is no such session or no such pass, and when the command is
fatal. -/
def step (n : Sessions) : Event → Option Sessions
  | .connect SID avIndex =>
      match n.session SID with
      | none =>
          if avIndex < 0 then some n
          else some { n with session := Function.update n.session SID (some avIndex) }
      | some _ => none
  | .command SID type answer =>
      match n.session SID with
      | none => none
      | some avIndex =>
          match handleIOCTRLCmd SID avIndex type answer n.server with
          | .ok server => some { n with server := server }
          | .error _ => none
  | .terminate SID =>
      match n.session SID with
      | none => none
      | some _ =>
          some { n with
            server := unregeditClientFromVideo SID n.server
            session := Function.update n.session SID none }
  | .sendFrame =>
      if n.sending = [] then
        if returnsEarly n.server then some n
        else some { n with sending := List.finRange maxClientNumber }
      else none
  | .sendSlot ret =>
      match n.sending with
      | [] => none
      | SID :: sending =>
          some { n with server := sendSlot SID ret n.server, sending := sending }

/-- The passes of the loop over the sessions `n.sending`, when nothing happens between them, are a
fold of `sendSlot`. -/
theorem run_sendSlots (ret : SID → SendResult) (n : Sessions) :
  Run step (fun _ _ => True) n (n.sending.map fun SID => .sendSlot (ret SID))
    { n with
      server := n.sending.foldl (fun s SID => sendSlot SID (ret SID) s) n.server
      sending := [] }
  := by
  obtain ⟨server, session, sending⟩ := n
  induction sending generalizing server with
  | nil => apply Run.nil
  | cons SID sending ih =>
      apply Run.cons trivial rfl
      apply ih (sendSlot SID (ret SID) server)

/-- A call of `send_frame_p2p` during which nothing else happens is a run: the test at its
beginning, and the pass for every session. -/
theorem run_sendFrame
    (ret : SID → SendResult) {n : Sessions} (hidle : n.sending = [])
    (hsend : ¬ returnsEarly n.server) :
  Run step (fun _ _ => True) n
    (.sendFrame :: (List.finRange maxClientNumber).map fun SID => .sendSlot (ret SID))
    { n with server := sendFrameP2p ret n.server }
  := by
  have hcall : step n .sendFrame = some { n with sending := List.finRange maxClientNumber } := by
    simp only [step, hidle, hsend, if_true, if_false]
  have hrun := run_sendSlots ret { n with sending := List.finRange maxClientNumber }
  rw [sendFrameP2p, if_neg hsend]
  rw [← hidle] at hrun
  apply Run.cons trivial hcall hrun

/-- The event starts a video only if it is off, and stops one only if it is on, or while the counter
is zero. -/
def Counted (n : Sessions) : Event → Prop
  | .command SID .ipcamStart _ => (n.server.gClientInfo SID).bEnableVideo = false
  | .command SID .ipcamStop _ | .terminate SID =>
      (n.server.gClientInfo SID).bEnableVideo = true ∨ n.server.p2pSendStatus = 0
  | _ => True

instance (n : Sessions) (ev : Event) : Decidable (Counted n ev) := by
  unfold Counted
  split
  all_goals infer_instance

/-- A step from a state in which the counter is right leads to one exactly when it is
`Counted`. -/
theorem Accounted.step_iff
    {n n' : Sessions} {ev : Event} (h : Accounted n.server) (hstep : step n ev = some n') :
  Accounted n'.server ↔ Counted n ev
  := by
  cases ev with
  | connect SID avIndex =>
      apply iff_of_true _ trivial
      simp only [step] at hstep
      split at hstep
      · split at hstep
        · obtain rfl := Option.some.inj hstep
          apply h
        · obtain rfl := Option.some.inj hstep
          apply h
      · contradiction
  | command SID type answer =>
      simp only [step] at hstep
      split at hstep
      · contradiction
      · split at hstep
        · next server hok =>
            obtain rfl := Option.some.inj hstep
            obtain ⟨rfl, rfl⟩ | ⟨rfl, rfl⟩ | ⟨hstart, hstop, hsame⟩ := handleIOCTRLCmd_cases hok
            · apply h.regedit_iff
            · apply h.unregedit_iff
            · apply iff_of_true (hsame.accounted_iff.mpr h)
              simp [Counted, hstart, hstop]
        · contradiction
  | terminate SID =>
      simp only [step] at hstep
      split at hstep
      · contradiction
      · obtain rfl := Option.some.inj hstep
        apply h.unregedit_iff
  | sendFrame =>
      apply iff_of_true _ trivial
      simp only [step] at hstep
      split at hstep
      · split at hstep
        · obtain rfl := Option.some.inj hstep
          apply h
        · obtain rfl := Option.some.inj hstep
          apply h
      · contradiction
  | sendSlot ret =>
      apply iff_of_true _ trivial
      simp only [step] at hstep
      split at hstep
      · contradiction
      · obtain rfl := Option.some.inj hstep
        apply h.sendSlot

theorem noSessions_accounted : Accounted noSessions.server := by
  simp [Accounted, enabled, noSessions, initAVInfo, initAVClient]

/-- If the counter is the number of videos that are on, and that of `SID` is, then `send_frame_p2p`
does not return early. -/
theorem Accounted.not_returnsEarly
    {s : Server} {SID : SID} (h : Accounted s) (hvideo : (s.gClientInfo SID).bEnableVideo = true) :
  ¬ returnsEarly s
  := by
  have hpos : 0 < (enabled s).card := Finset.card_pos.mpr ⟨SID, mem_enabled.mpr hvideo⟩
  rw [Accounted] at h
  rw [returnsEarly]
  omega

/-- In every run of `Counted` events, which start only videos that are off and stop only videos that
are on (or any while none is), the counter is the number of sessions whose video is on, and
`send_frame_p2p` keeps no frame from them. -/
theorem p2p_send_status_accounted
    {n : Sessions} {evs : List Event} (h : Run step Counted noSessions evs n) :
  n.server.p2pSendStatus = (enabled n.server).card
    ∧ ∀ SID, (n.server.gClientInfo SID).bEnableVideo = true → ¬ returnsEarly n.server
  := by
  have hacc : Accounted n.server := by
    apply h.invariant (I := fun n => Accounted n.server) _ noSessions_accounted
    intro n ev n' hn hcounted hstep
    apply (hn.step_iff hstep).mpr hcounted
  use hacc
  intro SID hvideo
  apply hacc.not_returnsEarly hvideo

/-- The run in which one viewer starts its video and stops it again, and then another one, without
video, leaves. -/
def viewerStops : List Event :=
  [.connect 0 0, .connect 1 1, .command 0 .ipcamStart ⟨true, 0, 0⟩, .sendFrame,
    .sendSlot (.other 0), .command 0 .ipcamStop ⟨true, 0, 0⟩, .terminate 1]

/-- Behind the run `viewerStops` the counter is zero, as is the number of videos that are on. -/
theorem p2p_send_status_viewerStops :
  ∃ n, Run step Counted noSessions viewerStops n
    ∧ n.server.p2pSendStatus = (enabled n.server).card ∧ n.server.p2pSendStatus = 0
  := by
  obtain ⟨n, hrun, hn⟩ := Run.exists_of_exec step Counted noSessions
    (fun n => n.server.p2pSendStatus = 0) viewerStops (by decide +kernel)
  use n, hrun, (p2p_send_status_accounted hrun).1
  simpa using hn

/-- The run in which a viewer starts its video, and another one connects and leaves without having
asked for video. -/
def viewerLeaves : List Event :=
  [.connect 0 0, .command 0 .ipcamStart ⟨true, 0, 0⟩, .connect 1 1, .terminate 1]

/-- Behind the run `viewerLeaves` the counter is zero, and the first viewer, whose video is on, gets
no frame any more. -/
theorem video_dropped_viewerLeaves :
  ∃ n, Run step (fun _ _ => True) noSessions viewerLeaves n
    ∧ n.server.p2pSendStatus ≠ (enabled n.server).card
    ∧ (n.server.gClientInfo 0).bEnableVideo = true ∧ returnsEarly n.server
  := by
  obtain ⟨n, hrun, hn⟩ := Run.exists_of_exec step (fun _ _ => True) noSessions
    (fun n => !decide (Accounted n.server) && (n.server.gClientInfo 0).bEnableVideo
      && decide (returnsEarly n.server)) viewerLeaves (by decide +kernel)
  simp only [Bool.and_eq_true, Bool.not_eq_true', decide_eq_false_iff_not, decide_eq_true_eq] at hn
  use n, hrun, hn.1.1, hn.1.2, hn.2

end P2p
