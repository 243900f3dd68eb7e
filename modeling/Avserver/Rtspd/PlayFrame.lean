import Avserver.Rtspd.AudioBlock
import Avserver.Rtspd.PlayRuns

/-!
# Frames and blocks of audio in the server

`write_rtp_frame` is modelled twice.  `Rtspd.writeRtpFrame` is about one live stream, with the
frames that the driver and the streaming library hold; `Play.writeRtpFrame` is about the server with
all of its streams, and notes what passes.  A stream at the place of one of the server's, with the
same members, slots and switches, goes on to be like it (`writeRtpFrame_mirrors`): both ask the
driver for an intra frame in the same cases, hand the same frames to the network recorder, and use
the same slots.

So is `do_audio_proc`: `Audio.doAudioProc` is about the bytes of a block, and `Play.doAudioProc` about
the queues that it is put on.  A block that is there goes to the same of the recorder and the
channels in both (`doAudioProc_mirrors`).
-/

namespace Rtspd.Play

/-! ### What is asked for -/

/-- What `write_rtp_frame` asks of others while it deals with a frame: an intra frame of the driver,
or that the network recorder takes `size` bytes. -/
inductive Asked where
  | intraFrame
  | recorder (size : Int)

/-- What an event of the stream in its `log` says to have been asked for, of the driver or by the
recorder. -/
def askedByEvent : Rtspd.Event → Option Asked
  | .resetIntra => some .intraFrame
  | .read _ (.sendVideoFrame _ _ size _ _ _ _) => some (.recorder size)
  | _ => none

/-- What a message says to have been asked for the stream `p` by `write_rtp_frame`; `set_I_frame` asks
the driver on behalf of `processMsg`. -/
def askedByMessage (p : ChNum × SubNum) : Message → Option Asked
  | .setBsIntraFrame p' cause =>
      if p' = p ∧ cause ≠ .setIFrame then some .intraFrame else none
  | .sendVideoFrame p' size => if p' = p then some (.recorder size) else none
  | _ => none

/-- What has been asked for the frames of a stream, by its log `s.log`, the first request first. -/
def streamAsked (s : Stream) : List Asked := (s.log.filterMap askedByEvent).reverse

/-- What has been asked for the frames of the stream `p` of the server, by the messages that have
passed. -/
def serverAsked (p : ChNum × SubNum) (q : State) : List Asked :=
  q.messages.filterMap (askedByMessage p)

/-- The live stream `p` in the state `s` is the one at the place `(c, i)` of the server in the state
`q`: the members that `write_rtp_frame` reads and writes are the same, and so are the slots of the
queue and what has been asked for. -/
structure Mirrors (p : Live) (c : ChNum) (i : SubNum) (s : Stream) (q : State) : Prop where
  chNum : p.chNum = c.val
  subNum : p.subNum = i.val
  qno : p.qno = (q.server.bs c i).qno
  event : s.control.event = noneBsEvent ↔ (q.server.bs c i).event = .none
  play : s.control.play = 0 ↔ (q.priv (c, i)).play = false
  timed : s.control.timed = 0 ↔ (q.priv (c, i)).timed = false
  resetIntraFrame : s.control.resetIntraFrame = 1 ↔ (q.priv (c, i)).resetIntraFrame = true
  nvrSendStatus : s.control.nvrSendStatus = q.nvrSendStatus (nvrPlace (c, i))
  frames : s.frames = q.server.frameInfo p.qno
  asked : streamAsked s = serverAsked (c, i) q

variable {p : Live} {c : ChNum} {i : SubNum} {s s' : Stream} {q : State} {frame : Frame}

/-- A message `e` adds what it asks for to what the server has asked for the stream `p`. -/
theorem serverAsked_send (e : Message) (p : ChNum × SubNum) :
  serverAsked p (q.send e) = serverAsked p q ++ (askedByMessage p e).toList
  := by
  rw [serverAsked, State.messages_send, List.filterMap_append]
  cases h : askedByMessage p e with
  | none => rw [List.filterMap_cons_none h, List.filterMap_nil, Option.toList_none, serverAsked]
  | some x => rw [List.filterMap_cons_some h, List.filterMap_nil, Option.toList_some, serverAsked]

/-- An event `e` adds what it asks for to what the stream has asked for. -/
theorem streamAsked_cons {e : Rtspd.Event} (hlog : s'.log = e :: s.log) :
  streamAsked s' = streamAsked s ++ (askedByEvent e).toList
  := by
  rw [streamAsked, hlog]
  cases h : askedByEvent e with
  | none => rw [List.filterMap_cons_none h, Option.toList_none, List.append_nil, streamAsked]
  | some x => rw [List.filterMap_cons_some h, List.reverse_cons, Option.toList_some, streamAsked]

/-! ### The parts of `write_rtp_frame` -/

/-- What happens to the stream without touching what is mirrored keeps `q` a mirror of it. -/
theorem Mirrors.stream
    (h : Mirrors p c i s q) (hcontrol : s'.control = s.control) (hframes : s'.frames = s.frames)
    (hasked : streamAsked s' = streamAsked s) :
  Mirrors p c i s' q
  where
  chNum := h.chNum
  subNum := h.subNum
  qno := h.qno
  event := by rw [hcontrol, h.event]
  play := by rw [hcontrol, h.play]
  timed := by rw [hcontrol, h.timed]
  resetIntraFrame := by rw [hcontrol, h.resetIntraFrame]
  nvrSendStatus := by rw [hcontrol, h.nvrSendStatus]
  frames := by rw [hframes, h.frames]
  asked := by rw [hasked, h.asked]

/-- What happens to the stream while a message `e` passes that asks for the same keeps `q` a mirror
of it. -/
theorem Mirrors.send
    (h : Mirrors p c i s q) {e : Message} (hcontrol : s'.control = s.control)
    (hframes : s'.frames = s.frames)
    (hasked : streamAsked s' = streamAsked s ++ (askedByMessage (c, i) e).toList) :
  Mirrors p c i s' (q.send e)
  where
  chNum := h.chNum
  subNum := h.subNum
  qno := h.qno
  event := by rw [hcontrol, State.server_send, h.event]
  play := by rw [hcontrol, State.priv_send, h.play]
  timed := by rw [hcontrol, State.priv_send, h.timed]
  resetIntraFrame := by rw [hcontrol, State.priv_send, h.resetIntraFrame]
  nvrSendStatus := by
    rw [hcontrol, h.nvrSendStatus]
    rfl
  frames := by rw [hframes, State.server_send, h.frames]
  asked := by rw [hasked, serverAsked_send, h.asked]

/-- `free_bs_data` changes what the driver holds, and leaves the stream `s` with what is
mirrored. -/
theorem freeBsData_frame (put : Int) (queue : QueueGet) (s : Stream) :
  (freeBsData p p.chNum p.subNum put queue s).2.control = s.control
    ∧ (freeBsData p p.chNum p.subNum put queue s).2.frames = s.frames
    ∧ streamAsked (freeBsData p p.chNum p.subNum put queue s).2 = streamAsked s
  := by
  unfold freeBsData
  split
  · exact ⟨rfl, rfl, rfl⟩
  · split
    · exact ⟨rfl, rfl, rfl⟩
    · unfold queuePut
      split
      · exact ⟨rfl, rfl, rfl⟩
      · exact ⟨rfl, rfl, rfl⟩

/-- The frame at hand is given back by `free_bs_data` in both, and `q` stays a mirror. -/
theorem Mirrors.freeBsData (h : Mirrors p c i s q) (put : Int) (queue : QueueGet) :
  Mirrors p c i (Rtspd.freeBsData p p.chNum p.subNum put queue s).2 (q.send (.freeBsData (c, i)))
  := by
  obtain ⟨hcontrol, hframes, hasked⟩ := freeBsData_frame (p := p) put queue s
  apply h.send hcontrol hframes
  rw [hasked]
  exact (List.append_nil _).symm

/-- The first `frame` marks the stream as timed, and nothing else that is mirrored changes. -/
theorem startClock_frame (frame : Frame) (s : Stream) :
  (startClock frame s).2.control =
      { s.control with timed := if s.control.timed = 0 then 1 else s.control.timed }
    ∧ (startClock frame s).2.frames = s.frames ∧ (startClock frame s).2.log = s.log
  := by
  unfold startClock
  dsimp only
  by_cases htimed : s.control.timed = 0
  · rw [if_pos (by exact htimed), if_pos htimed]
    exact ⟨rfl, rfl, rfl⟩
  · rw [if_neg (by exact htimed), if_neg htimed]
    exact ⟨rfl, rfl, rfl⟩

/-- The intra frame that the server asks the driver for in `serveIntra`, if one is wished for. -/
theorem serverAsked_serveIntra (q : State) :
  serverAsked (c, i) (Play.serveIntra (c, i) q) = serverAsked (c, i) q ++
    if (q.priv (c, i)).resetIntraFrame = true then [.intraFrame] else []
  := by
  unfold Play.serveIntra
  dsimp only
  split
  · rw [serverAsked_send]
    simp [askedByMessage, serverAsked, State.messages, State.setPriv, Dealings.setPriv]
  · rw [List.append_nil]
    rfl

/-- Serving a wish by `serveIntra` leaves the switches of the network recorder alone. -/
theorem serveIntra_nvrSendStatus (q : State) :
  (Play.serveIntra (c, i) q).nvrSendStatus = q.nvrSendStatus
  := by
  unfold Play.serveIntra
  dsimp only
  split
  · rfl
  · rfl

/-- The stream `i` of `c` is marked as timed behind `serveIntra`, in the first frame or before. -/
theorem serveIntra_timed (q : State) : ((Play.serveIntra (c, i) q).priv (c, i)).timed = true := by
  unfold Play.serveIntra
  dsimp only
  split
  · rw [State.priv_send, State.priv_setPriv]
  · rw [State.priv_setPriv]

/-- What `serveIntra` leaves of a wish for an intra frame in the stream `s`: the driver is asked
once. -/
theorem serveIntra_frame (s : Stream) :
  (Rtspd.serveIntra s).control =
      { s.control with
        resetIntraFrame :=
          if s.control.resetIntraFrame = 1 then 0 else s.control.resetIntraFrame }
    ∧ (Rtspd.serveIntra s).frames = s.frames
    ∧ streamAsked (Rtspd.serveIntra s) = streamAsked s ++
      if s.control.resetIntraFrame = 1 then [.intraFrame] else []
  := by
  unfold Rtspd.serveIntra
  by_cases hwish : s.control.resetIntraFrame = 1
  · rw [if_pos hwish, if_pos hwish, if_pos hwish]
    refine ⟨rfl, rfl, ?_⟩
    rw [streamAsked_cons rfl]
    rfl
  · rw [if_neg hwish, if_neg hwish, if_neg hwish, List.append_nil]
    exact ⟨rfl, rfl, rfl⟩

/-- The wish for an intra frame is served in both, when the clock of the stream has been started by
`startClock`. -/
theorem Mirrors.serveIntra (h : Mirrors p c i s q) :
  Mirrors p c i (Rtspd.serveIntra (startClock frame s).2) (Play.serveIntra (c, i) q)
  := by
  obtain ⟨hcontrol, hframes, hlog⟩ := startClock_frame frame s
  obtain ⟨hcontrol', hframes', hasked⟩ := serveIntra_frame (startClock frame s).2
  rw [hcontrol] at hcontrol' hasked
  have hserver := serveIntra_server (q := q) (p := (c, i))
  constructor
  · apply h.chNum
  · apply h.subNum
  · rw [hserver, h.qno]
  · rw [hserver, ← h.event, hcontrol']
  · rw [serveIntra_play, ← h.play, hcontrol']
  · rw [serveIntra_timed, hcontrol']
    apply iff_of_false _ nofun
    dsimp only
    split
    · decide
    · assumption
  · rw [serveIntra_resetIntraFrame, hcontrol']
    apply iff_of_false _ nofun
    dsimp only
    split
    · decide
    · assumption
  · rw [serveIntra_nvrSendStatus, ← h.nvrSendStatus, hcontrol']
  · rw [hserver, ← h.frames, ← hframes, hframes']
  · rw [hasked, serverAsked_serveIntra, ← h.asked, streamAsked, hlog, streamAsked]
    congr 1
    simp only [h.resetIntraFrame]

/-- In both, the network recorder gets the `frame`, or the driver is asked for an intra frame in its
place, or neither. -/
theorem Mirrors.sendToNvr (h : Mirrors p c i s q) (frameType : Nat) :
  Mirrors p c i (Rtspd.sendToNvr p frame frameType s)
    (serveNvr (c, i) frame.queue.length s.control.rateCtlType q)
  := by
  unfold Rtspd.sendToNvr serveNvr
  rw [h.nvrSendStatus]
  split
  · by_cases hsize : Oversized frame.queue.length s.control.rateCtlType
    · rw [if_pos hsize, if_pos (by exact hsize)]
      apply h.send (by rfl) (by rfl)
      rw [streamAsked_cons rfl]
      simp [askedByEvent, askedByMessage]
    · rw [if_neg hsize, if_neg (by exact hsize)]
      apply h.send (by rfl) (by rfl)
      rw [readPayload, streamAsked_cons rfl]
      simp [askedByEvent, askedByMessage]
  · apply h

/-- In both, a slot of the queue's pool is filled, or put back, and the pool is `fi` then. -/
theorem Mirrors.mediaEnqueue (h : Mirrors p c i s q) (ret : Int) (fi : FrameInfo) :
  Mirrors p c i { s with frames := fi } (Play.mediaEnqueue (c, i) p.qno ret fi q)
  where
  chNum := h.chNum
  subNum := h.subNum
  qno := h.qno
  event := h.event
  play := h.play
  timed := h.timed
  resetIntraFrame := h.resetIntraFrame
  nvrSendStatus := h.nvrSendStatus
  frames := by simp [Play.mediaEnqueue]
  asked := by
    have hsend : serverAsked (c, i) (Play.mediaEnqueue (c, i) p.qno ret fi q)
        = serverAsked (c, i) (q.send (.video (c, i) p.qno ret)) := rfl
    rw [hsend, serverAsked_send]
    exact h.asked.trans (List.append_nil _).symm

/-- The key of a slot and the rest of its contents, which `fillKey` and `fillQueue` write, are the
contents that the slot gets at once. -/
theorem fillQueue_fillKey (h : Mirrors p c i s q) (fs : SlotId) (s₁ : Stream) :
  (fillQueue p frame fs (fillKey p frame fs s₁)).frames =
    { s₁.frames with
      vf := Function.update s₁.frames.vf fs
        ⟨c.val, i.val, frame.queue, dataOf p frame⟩ }
  := by
  simp [fillQueue, fillKey, setVf, h.chNum, h.subNum]

/-! ### `write_rtp_frame` -/

/-- The stream is as the server up to the test of `play`: the wish has been served, the type of the
frame read, and the network recorder has had the frame. -/
theorem Mirrors.served (h : Mirrors p c i s q) (frame : Frame) :
  Mirrors p c i
    (Rtspd.sendToNvr p frame (h264GetNALType frame.payload frame.queue.length)
      (readPayload frame .h264GetNALType (Rtspd.serveIntra (startClock frame s).2)))
    (serveNvr (c, i) frame.queue.length s.control.rateCtlType (Play.serveIntra (c, i) q))
  := by
  have hread : Mirrors p c i
      (readPayload frame .h264GetNALType (Rtspd.serveIntra (startClock frame s).2))
      (Play.serveIntra (c, i) q) := by
    apply h.serveIntra.stream (by rfl) (by rfl)
    apply (streamAsked_cons rfl).trans
    apply List.append_nil
  have hrate : (readPayload frame .h264GetNALType
      (Rtspd.serveIntra (startClock frame s).2)).control.rateCtlType = s.control.rateCtlType := by
    rw [readPayload, (serveIntra_frame _).1, (startClock_frame frame s).1]
  rw [← hrate]
  apply hread.sendToNvr

/-- In both, a slot `fs` that has been taken for the frame is filled; and the queue accepts the
frame, or the slot and the frame are given back. -/
theorem Mirrors.enqueue
    (h : Mirrors p c i s q) (fs : SlotId) (fi : FrameInfo) (ret put : Int) (tick : UInt32)
    (frameType : Nat) :
  let filled := fillQueue p frame fs (fillKey p frame fs { s with frames := fi })
  let fi' := { fi with
    vf := Function.update fi.vf fs ⟨c.val, i.val, frame.queue, dataOf p frame⟩ }
  Mirrors p c i
      (Rtspd.freeBsData p p.chNum p.subNum put frame.queue (putSlot p fs (refuse ret filled))).2
      ((Play.mediaEnqueue (c, i) p.qno ret (putVideoFrame p.qno fs fi') q).send
        (.freeBsData (c, i)))
    ∧ Mirrors p c i
      (writeMt p frame tick frameType (accept (entityOf p frame tick fs) filled))
      (Play.mediaEnqueue (c, i) p.qno ret fi' q)
  := by
  intro filled fi'
  have hfilled : filled.frames = fi' := fillQueue_fillKey h fs { s with frames := fi }
  constructor
  · apply Mirrors.freeBsData
    have hrefuse : (refuse ret filled).control = s.control
        ∧ (refuse ret filled).frames = filled.frames
        ∧ streamAsked (refuse ret filled) = streamAsked s := by
      unfold refuse
      split
      · exact ⟨rfl, rfl, rfl⟩
      · exact ⟨rfl, rfl, rfl⟩
    obtain ⟨hcontrol, hframes, hasked⟩ := hrefuse
    refine (h.mediaEnqueue ret (putVideoFrame p.qno fs fi')).stream hcontrol ?_ hasked
    rw [putSlot, hframes, hfilled]
  · refine (h.mediaEnqueue ret fi').stream rfl hfilled ?_
    apply (streamAsked_cons rfl).trans
    apply List.append_nil

/-- What `write_rtp_frame` does with a `frame` to the stream, it does to the server: from states that
mirror each other, both come to states that do, or both dereference a null pointer. -/
theorem writeRtpFrame_mirrors (h : Mirrors p c i s q) (enqueue put : Int) :
  Option.Rel (fun done q' => Mirrors p c i done.2 q') (Rtspd.writeRtpFrame p enqueue put frame s)
    (writeRtpFrame c i frame.queue (dataOf p frame) s.control.rateCtlType enqueue q)
  := by
  unfold Rtspd.writeRtpFrame writeRtpFrame
  dsimp only
  by_cases hevent : s.control.event = noneBsEvent
  · rw [if_neg (not_not.mpr hevent), if_neg (not_not.mpr (h.event.mp hevent))]
    have hserved := h.served frame
    have hplay := hserved.play
    rw [serveNvr_priv, serveIntra_play] at hplay
    by_cases hplayed : (q.priv (c, i)).play = false
    · rw [if_pos hplayed, if_pos (hplay.mpr hplayed)]
      apply Option.Rel.some
      apply hserved.freeBsData
    · rw [if_neg hplayed, if_neg fun hzero => hplayed (hplay.mp hzero), hserved.frames,
        serveNvr_server, serveIntra_server, ← h.qno]
      cases htaken : takeVideoFrame p.qno (q.server.frameInfo p.qno) with
      | none => apply Option.Rel.none
      | some taken =>
          obtain ⟨fs | fs, fi⟩ := taken
          · apply Option.Rel.none
          · obtain ⟨hrefused, haccepted⟩ := hserved.enqueue fs fi enqueue put
              (startClock frame s).1 (h264GetNALType frame.payload frame.queue.length)
            dsimp only
            split
            · exact Option.Rel.some hrefused
            · exact Option.Rel.some haccepted
  · rw [if_pos hevent, if_pos fun hnone => hevent (h.event.mpr hnone)]
    apply Option.Rel.some
    apply h.freeBsData

/-! ### `do_audio_proc` -/

/-- The channel that a block of audio is put on by a message; `none`, if it goes to the network
recorder. -/
def audioChannel : Message → Option Nat
  | .audio p _ => some p.1
  | _ => none

/-- The members of the main streams of `q` that `do_audio_proc` looks at are those of the `listeners`,
one for each channel; `g711` says which of them have audio of type `GM_SS_TYPE_G711`. -/
def Listening (listeners : ChNum → Audio.Listener) (g711 : ChNum → Bool) (q : State) : Prop :=
  ∀ c, (listeners c).Hears ↔ (q.priv (c, mainBsNum)).play = true
    ∧ (q.server.bs c mainBsNum).event = .none ∧ g711 c = true

/-- The queues that a block is put on by the server are those of the channels that hear it among the
`listeners`. -/
theorem audioStreams_mirrors
    {listeners : ChNum → Audio.Listener} {g711 : ChNum → Bool}
    (h : Listening listeners g711 q) :
  ∃ sent, (audioStreams g711 q).messages = q.messages ++ sent
    ∧ sent.map audioChannel
      = (Audio.hearing 0 ((List.finRange 2).map listeners)).map some
  := by
  refine ⟨_, audioStreams_messages g711 q, ?_⟩
  simp only [← h _, List.finRange_succ, List.finRange_zero, List.map_nil, List.map_cons,
    List.flatMap_cons, List.flatMap_nil, Audio.hearing_cons, Audio.hearing_nil]
  by_cases h₀ : (listeners 0).Hears
  · by_cases h₁ : (listeners 1).Hears
    · simp [h₀, h₁, audioChannel]
    · simp [h₀, h₁, audioChannel]
  · by_cases h₁ : (listeners 1).Hears
    · simp [h₀, h₁, audioChannel]
    · simp [h₀, h₁]

/-- A block of `L` bytes that is there goes to the network recorder and to the channels that hear it,
in the same order in both. -/
theorem doAudioProc_mirrors
    {listeners : ChNum → Audio.Listener} {g711 : ChNum → Bool}
    (h : Listening listeners g711 q) {b : Audio.Buffers} {L : Nat} (hL : 0 < L)
    (hdata : b.audioData.length = L) (hsaudio : b.saudio.length = L)
    (hg711 : L / 4 ≤ b.g711Data.length) {poll revents : Int} (hpoll : 0 < poll)
    (hrevents : revents ≠ 0) :
  ∃ blocks sent, Audio.doAudioProc poll revents L (q.nvrSendStatus (2, 0)) b
      ((List.finRange 2).map listeners) = some blocks
    ∧ (doAudioProc g711 q).messages = q.messages ++ sent
    ∧ sent.map audioChannel = blocks.map Audio.Sent.channel
  := by
  obtain ⟨blocks, hblocks, hchannels, -⟩ := Audio.doAudioProc_ready hL hdata hsaudio hg711 hpoll
    hrevents (q.nvrSendStatus (2, 0)) ((List.finRange 2).map listeners)
  refine ⟨blocks, ?_⟩
  unfold doAudioProc
  split
  · next hnvr =>
      have hsend : Listening listeners g711 (q.send .sendAudio) := h
      obtain ⟨sent, hsent, hmirrors⟩ := audioStreams_mirrors hsend
      refine ⟨.sendAudio :: sent, hblocks, ?_, ?_⟩
      · rw [hsent, State.messages_send, List.append_assoc, List.singleton_append]
      · rw [hchannels, if_pos hnvr, List.map_cons, hmirrors]
        rfl
  · next hnvr =>
      obtain ⟨sent, hsent, hmirrors⟩ := audioStreams_mirrors h
      refine ⟨sent, hblocks, hsent, ?_⟩
      rw [hchannels, if_neg hnvr, hmirrors, List.nil_append]

end Rtspd.Play
