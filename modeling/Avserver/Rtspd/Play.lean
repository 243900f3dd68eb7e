import Avserver.Library.Monitor
import Avserver.Rtspd.Connected
import Avserver.Rtspd.Extended

/-!
# Playing a stream

A client of the streaming library plays a stream that is registered, and the library tells the
server so by `cmd_cb`, with the name and the number of the registration.  The server looks for the
stream that has both, and marks it; from then on the frames that the encoder thread fetches for it
are put on its video queue, and the blocks of audio on its audio queue.  What the streams are
registered with changes whenever one is updated or stopped, while the mark stays.

A frame also goes to the network recorder, if `set_nvr_send_status` has switched that on for its
stream, whether the stream is played or not.  It is too long for the recorder beyond 500 KiB, and is
then replaced by a request for an intra frame.

This module has the server with what it deals in: the members of its streams that the commands are
about, the switches of the recorder, and everything that has passed between the server and those
around it (`State`, a server with its `Dealings` as the ledger).
-/

namespace Rtspd.Play

/-! ### Messages -/

/-- `GM_STREAM_CMD_OPEN`, `GM_STREAM_CMD_PLAY`, `GM_STREAM_CMD_PAUSE`, `GM_STREAM_CMD_TEARDOWN`, and
what else the library might say as a `cmd`. -/
inductive StreamCmd where
  | openSr | play | pause | teardown
  | other (cmd : Int)
deriving DecidableEq

/-- What a stream is registered with: the `name` of the registration, and its queues for `video` and
for `audio`. -/
structure Registration where
  stream : ChNum × SubNum
  name : List Char
  video : Int
  audio : Int
deriving DecidableEq

/-- Why the driver is asked for an intra frame by `set_bs_intra_frame`: `reset_intra_frame` is set
(`wish`), a frame is too long for the network recorder (`oversized`), or `processMsg` has called
`set_I_frame`. -/
inductive Cause where
  | wish | oversized | setIFrame
deriving DecidableEq

/-- The places of `NVR_send_status`: the streams of the two channels, and a third row, of which the
first place is for audio. -/
abbrev NvrPlace := Fin 3 × SubNum

/-- `NVR_send_status` has a row for a channel, and so 0 is the number of one. -/
instance nvrPlace_neZero : NeZero 3 := ⟨by decide⟩

/-- What passes between the server and those that it deals with: the library, the driver and the
network recorder. -/
inductive Message where
  /-- the library registers a stream under a number -/
  | reg (r : Registration) (sr : Int)
  /-- the library cancels a number -/
  | dereg (sr : Int)
  /-- the library gives a command, which is answered by `ret` -/
  | command (name : List Char) (sno : Int) (cmd : StreamCmd) (ret : Int)
  /-- `processMsg` calls `set_IDR_BR` -/
  | setIdrBr (p : ChNum × SubNum)
  /-- `processMsg` calls `set_nvr_send_status` -/
  | setNvrSendStatus (p : NvrPlace) (opt : Int)
  /-- the driver hands out a frame of `length` bytes, while the stream has that `rate_ctl_type` -/
  | getBsData (p : ChNum × SubNum) (length rateCtlType : Int)
  /-- `free_bs_data` gives back the frame that was handed out last -/
  | freeBsData (p : ChNum × SubNum)
  /-- the driver is asked for an intra frame -/
  | setBsIntraFrame (p : ChNum × SubNum) (cause : Cause)
  /-- `send_video_frame` hands `size` bytes to the network recorder -/
  | sendVideoFrame (p : ChNum × SubNum) (size : Int)
  /-- `send_video_frame` hands a block of audio to the network recorder -/
  | sendAudio
  /-- a frame is put on a queue, which answers `ret` -/
  | video (p : ChNum × SubNum) (qno ret : Int)
  /-- a block of audio is put on a queue -/
  | audio (p : ChNum × SubNum) (qno : Int)
deriving DecidableEq

/-! ### The state -/

/-- The members of `priv_avbs_t` that the commands and the frames are about. -/
structure Priv where
  name : List Char
  play : Bool
  resetIntraFrame : Bool
  /-- `video.timed` -/
  timed : Bool
deriving DecidableEq

/-- Those members of the streams, the table `NVR_send_status`, and the `messages` that have passed,
the first one first. -/
structure Dealings where
  priv : ChNum × SubNum → Priv
  nvrSendStatus : NvrPlace → Int
  messages : List Message

/-- The server with its dealings: what it knows of its streams beside `Server`, and what has
passed. -/
abbrev State := Extended Dealings

namespace State

/-- A server that has registered nothing yet, and for which the network recorder is switched off, as
in `NVR_send_status`. -/
def start (s : Server) : State := ⟨s, fun _ => ⟨[], false, false, false⟩, fun _ => 0, []⟩

/-- The stream `p` as the server has it, by its channel and its number. -/
def bs (q : State) (p : ChNum × SubNum) : Bs := q.server.bs p.1 p.2

/-- The members of the stream `p` that the commands are about. -/
def priv (q : State) (p : ChNum × SubNum) : Priv := q.ledger.priv p

/-- The value of `NVR_send_status` at the place `p`, which says whether the recorder wants the
stream. -/
def nvrSendStatus (q : State) (p : NvrPlace) : Int := q.ledger.nvrSendStatus p

/-- What has passed between the server and the others in `q`, the first message first. -/
def messages (q : State) : List Message := q.ledger.messages

end State

namespace Dealings

/-- The members of the stream `p` that the commands are about are assigned to by `f`. -/
def setPriv (d : Dealings) (p : ChNum × SubNum) (f : Priv → Priv) : Dealings :=
  { d with priv := Function.update d.priv p (f (d.priv p)) }

/-- The message `e` passes, and comes behind the earlier ones. -/
def send (d : Dealings) (e : Message) : Dealings := { d with messages := d.messages ++ [e] }

end Dealings

namespace State

@[inherit_doc Dealings.setPriv]
def setPriv (q : State) (p : ChNum × SubNum) (f : Priv → Priv) : State :=
  { q with ledger := q.ledger.setPriv p f }

@[inherit_doc Dealings.send]
def send (q : State) (e : Message) : State := { q with ledger := q.ledger.send e }

/-- The place `p` of `NVR_send_status` is set to `opt`, which switches the recorder on or off. -/
def setNvr (q : State) (p : NvrPlace) (opt : Int) : State :=
  { q with
    ledger := { q.ledger with nvrSendStatus := Function.update q.ledger.nvrSendStatus p opt } }

end State

/-! ### Registrations -/

/-- The name under which all streams of the channel `c` are registered: `0` for the first channel,
and `4` for the other. -/
def livename (c : ChNum) : List Char := if c = 0 then ['0'] else ['4']

/-- `open_live_streaming` asks the library to register the stream with the queues that it was
allocated; the name is kept in `pb->name` if `stream_reg` succeeds. -/
def openLiveStreaming (o : Calls) (c : ChNum) (i : SubNum) (d : Dealings) : Dealings :=
  let d := d.send (.reg ⟨(c, i), livename c, o.videoQueue, o.audioQueue⟩ o.streamReg)
  if o.streamReg < 0 then d else d.setPriv (c, i) fun pb => { pb with name := livename c }

/-- `close_live_streaming` of the stream `i` of `c` asks the library to cancel `pb->sr`, if that is
a number. -/
def closeLiveStreaming (c : ChNum) (i : SubNum) (s : Server) (d : Dealings) : Dealings :=
  if (s.bs c i).sr ≥ 0 then d.send (.dereg (s.bs c i).sr) else d

instance : Ledger Dealings where
  opened o c i _ := openLiveStreaming o c i
  closed _ := closeLiveStreaming

/-! ### Commands -/

/-- `find_file_sr` of a name and a number `srno`, which marks the stream that it finds for an intra
frame. -/
def findFileSr (name : List Char) (srno : Int) (q : State) : Option (ChNum × SubNum) × State :=
  match streams.find? fun p => (q.bs p).sr = srno ∧ (q.priv p).name = name with
  | none => (none, q)
  | some p => (some p, q.setPriv p fun pb => { pb with resetIntraFrame := true })

/-- `cmd_cb` -/
def cmdCb (name : List Char) (sno : Int) (cmd : StreamCmd) (q : State) : Int × State :=
  match cmd with
  | .openSr => (-10, q)
  | .play =>
      match findFileSr name sno q with
      | (none, q) => (-1, q)
      | (some p, q) =>
          (0, if (q.bs p).qno ≥ 0 then q.setPriv p fun pb => { pb with play := true } else q)
  | .pause => (0, q)
  | .teardown =>
      match findFileSr name sno q with
      | (none, q) => (-1, q)
      | (some p, q) => (0, q.setPriv p fun pb => { pb with play := false, timed := false })
  | .other _ => (-1, q)

/-- `set_IDR_BR` -/
def setIdrBr (p : ChNum × SubNum) (q : State) : State :=
  (q.setPriv p fun pb => { pb with resetIntraFrame := true }).send (.setIdrBr p)

/-- `set_nvr_send_status`, for a place that the table has: a stream is also marked for an intra
frame, by `set_IDR_BR`. -/
def setNvrSendStatus (ch : Fin 3) (i : SubNum) (opt : Int) (q : State) : State :=
  let q := (q.setNvr (ch, i) opt).send (.setNvrSendStatus (ch, i) opt)
  if h : ch.val ≠ 2 then setIdrBr (⟨ch.val, by omega⟩, i) q else q

/-- `set_I_frame`, for a channel `c` that there is: an intra frame is asked for at once. -/
def setIFrame (c : ChNum) (q : State) : State := q.send (.setBsIntraFrame (c, mainBsNum) .setIFrame)

/-! ### Frames and audio -/

/-- The place of `NVR_send_status` for the stream `p`, by its channel and its number. -/
def nvrPlace (p : ChNum × SubNum) : NvrPlace := (p.1.castSucc, p.2)

/-- The test of `write_rtp_frame` for a frame that is too long for the network recorder, by its
`length` and the kind of rate control. -/
def Oversized (length rateCtlType : Int) : Prop :=
  length > 500 * 1024 ∧ (rateCtlType = 0 ∨ rateCtlType = 2)

instance : DecidableRel Oversized := fun _ _ => inferInstanceAs (Decidable (_ ∧ _))

/-- The part of `write_rtp_frame` that marks the stream as timed, and asks the driver for an intra
frame if one is wanted. -/
def serveIntra (p : ChNum × SubNum) (q : State) : State :=
  let served := q.setPriv p fun pb => { pb with timed := true, resetIntraFrame := false }
  if (q.priv p).resetIntraFrame then served.send (.setBsIntraFrame p .wish) else served

/-- The part of `write_rtp_frame` that deals with the network recorder, for a frame of the stream
`p`. -/
def serveNvr (p : ChNum × SubNum) (length rateCtlType : Int) (q : State) : State :=
  if q.nvrSendStatus (nvrPlace p) ≠ 0 then
    if Oversized length rateCtlType then q.send (.setBsIntraFrame p .oversized)
    else q.send (.sendVideoFrame p length)
  else q

/-- A frame has been put on the queue `qno`, which answers `ret`; the slots of the queue's pool are
then those of `fi`. -/
def mediaEnqueue (p : ChNum × SubNum) (qno ret : Int) (fi : FrameInfo) (q : State) : State where
  server := { q.server with frameInfo := Function.update q.server.frameInfo qno fi }
  ledger := q.ledger.send (.video p qno ret)

/-- `write_rtp_frame`: the driver has handed out the frame `data`, which lies at the address `key`;
`rateCtlType` is the type of the stream's rate control, and `enqueue` what `stream_media_enqueue`
returns.  A frame that is not played, or that the queue refuses, is given back. -/
def writeRtpFrame (c : ChNum) (i : SubNum) (data : QueueGet) (key rateCtlType enqueue : Int)
    (q : State) : Option State :=
  if (q.server.bs c i).event ≠ .none then some (q.send (.freeBsData (c, i)))
  else
    let served := serveNvr (c, i) data.length rateCtlType (serveIntra (c, i) q)
    if (q.priv (c, i)).play = false then some (served.send (.freeBsData (c, i)))
    else
      let qno := (q.server.bs c i).qno
      match takeVideoFrame qno (q.server.frameInfo qno) with
      | some (some fs, fi) =>
          let fi := { fi with vf := Function.update fi.vf fs ⟨c.val, i.val, data, key⟩ }
          if enqueue < 0 then
            some (State.send (mediaEnqueue (c, i) qno enqueue (putVideoFrame qno fs fi) served)
              (.freeBsData (c, i)))
          else some (mediaEnqueue (c, i) qno enqueue fi served)
      | _ => none

/-- The loop of `do_audio_proc` over the main streams of the channels, those of them that have audio
of type `GM_SS_TYPE_G711`. -/
def audioStreams (g711 : ChNum → Bool) (q : State) : State :=
  (List.finRange 2).foldl (fun q c =>
    let b := q.server.bs c mainBsNum
    if (q.priv (c, mainBsNum)).play = true ∧ b.event = .none ∧ g711 c = true then
      q.send (.audio (c, mainBsNum) b.audioQno)
    else q) q

/-- `do_audio_proc`, for a block that has been read: the network recorder gets it if
`NVR_send_status[2][0]` says so, and then the streams do. -/
def doAudioProc (g711 : ChNum → Bool) (q : State) : State :=
  audioStreams g711 (if q.nvrSendStatus (2, 0) ≠ 0 then q.send .sendAudio else q)

/-! ### Steps -/

/-- What happens: a step of the server, a command of the library, a call of `set_IDR_BR`, of
`set_nvr_send_status` or of `set_I_frame`, a frame that is fetched and that the handler of its stream
writes, and a block of audio.  The frames are written here, and not by a step of the server. -/
inductive Input where
  | server (input : ServerInput)
  | command (name : List Char) (sno : Int) (cmd : StreamCmd)
  | setIdrBr (c : ChNum) (i : SubNum)
  | setNvrSendStatus (ch : Fin 3) (i : SubNum) (opt : Int)
  | setIFrame (c : ChNum)
  | frame (c : ChNum) (i : SubNum) (data : QueueGet) (key rateCtlType enqueue : Int)
  | audio (g711 : ChNum → Bool)

/-- A step of the server and of those that it deals with, by an `Input`; frames are written by
`write_rtp_frame` alone. -/
def step (q : State) : Input → Option State
  | .server (.takeFrame ..) => none
  | .server input => q.step input
  | .command name sno cmd =>
      let answered := cmdCb name sno cmd q
      some (answered.2.send (.command name sno cmd answered.1))
  | .setIdrBr c i => some (setIdrBr (c, i) q)
  | .setNvrSendStatus ch i opt => some (setNvrSendStatus ch i opt q)
  | .setIFrame c => some (setIFrame c q)
  | .frame c i data key rateCtlType enqueue =>
      if (q.server.bs c i).writeFn then
        writeRtpFrame c i data key rateCtlType enqueue
          (q.send (.getBsData (c, i) data.length rateCtlType))
      else none
  | .audio g711 => some (doAudioProc g711 q)

/-! ### The server and its dealings -/

variable {c : ChNum} {i : SubNum} {q q' : State} {e : Message} {p p' : ChNum × SubNum}
  {f g : Priv → Priv}

namespace State

@[simp]
theorem server_send : (q.send e).server = q.server := rfl

@[simp]
theorem bs_send : (q.send e).bs p = q.bs p := rfl

@[simp]
theorem priv_send : (q.send e).priv p = q.priv p := rfl

@[simp]
theorem messages_send : (q.send e).messages = q.messages ++ [e] := rfl

@[simp]
theorem server_setPriv : (q.setPriv p f).server = q.server := rfl

@[simp]
theorem bs_setPriv : (q.setPriv p f).bs p' = q.bs p' := rfl

@[simp]
theorem priv_setPriv : (q.setPriv p f).priv p = f (q.priv p) := Function.update_self ..

theorem priv_setPriv_of_ne (h : p' ≠ p) (f : Priv → Priv) : (q.setPriv p f).priv p' = q.priv p' :=
  Function.update_of_ne h ..

theorem setPriv_setPriv : (q.setPriv p f).setPriv p g = q.setPriv p fun pb => g (f pb) := by
  unfold setPriv Dealings.setPriv
  dsimp only
  rw [Function.update_self, Function.update_idem]

/-- A member `g` of `Priv` that the assignment `f` leaves alone is the same in every stream. -/
theorem setPriv_same {α : Type} {g : Priv → α} (h : ∀ pb, g (f pb) = g pb)
    (p p' : ChNum × SubNum) :
  g ((q.setPriv p f).priv p') = g (q.priv p')
  := by
  by_cases hp : p' = p
  · subst hp
    rw [priv_setPriv, h]
  · rw [priv_setPriv_of_ne hp]

/-- A table of the member `g` of the streams stays right when the stream and its entry are assigned
to. -/
theorem update_priv
    {α : Type} (g : Priv → α) {v : ChNum × SubNum → α} (h : ∀ p, v p = g (q.priv p))
    (p p' : ChNum × SubNum) :
  Function.update v p (g (f (q.priv p))) p' = g ((q.setPriv p f).priv p')
  := by
  by_cases hp : p' = p
  · subst hp
    rw [priv_setPriv, Function.update_self]
  · rw [priv_setPriv_of_ne hp, Function.update_of_ne hp, h]

end State

@[simp]
theorem serveIntra_server : (serveIntra p q).server = q.server := by
  unfold serveIntra
  dsimp only
  split
  · rfl
  · rfl

@[simp]
theorem serveNvr_server {length rateCtlType : Int} :
  (serveNvr p length rateCtlType q).server = q.server
  := by
  unfold serveNvr
  split
  · split
    · rfl
    · rfl
  · rfl

/-- The mark of a stream `p` that it is played stays when an intra frame is asked for. -/
theorem serveIntra_play : ((serveIntra p q).priv p).play = (q.priv p).play := by
  unfold serveIntra
  dsimp only
  split
  · rw [State.priv_send, State.priv_setPriv]
  · rw [State.priv_setPriv]

/-- No intra frame is wished for the stream `p` any more behind `serveIntra`. -/
theorem serveIntra_resetIntraFrame : ((serveIntra p q).priv p).resetIntraFrame = false := by
  unfold serveIntra
  dsimp only
  split
  · rw [State.priv_send, State.priv_setPriv]
  · rw [State.priv_setPriv]

@[simp]
theorem serveNvr_priv {length rateCtlType : Int} :
  (serveNvr p length rateCtlType q).priv p' = q.priv p'
  := by
  unfold serveNvr
  split
  · split
    · rfl
    · rfl
  · rfl

/-- `write_rtp_frame` gives the frame back, with or without a look at what is wanted of the stream,
or puts it on the queue of its stream; and a frame that the queue refuses is given back too. -/
theorem writeRtpFrame_cases
    {data : QueueGet} {key rateCtlType enqueue : Int}
    (h : writeRtpFrame c i data key rateCtlType enqueue q = some q') :
  (q.server.bs c i).event ≠ .none ∧ q' = q.send (.freeBsData (c, i))
  ∨ (q.server.bs c i).event = .none
    ∧ (q' = (serveNvr (c, i) data.length rateCtlType (serveIntra (c, i) q)).send
          (.freeBsData (c, i))
      ∨ (q.priv (c, i)).play = true ∧ ∃ fi,
        let put := mediaEnqueue (c, i) (q.server.bs c i).qno enqueue fi
          (serveNvr (c, i) data.length rateCtlType (serveIntra (c, i) q))
        q' = if enqueue < 0 then put.send (.freeBsData (c, i)) else put)
  := by
  unfold writeRtpFrame at h
  dsimp only at h
  split at h
  · next hevent => exact Or.inl ⟨hevent, (Option.some.inj h).symm⟩
  · next hevent =>
      refine Or.inr ⟨not_not.mp hevent, ?_⟩
      split at h
      · apply Or.inl (Option.some.inj h).symm
      · next hplay =>
          have hplay : (q.priv (c, i)).play = true := by simpa using hplay
          refine Or.inr ⟨hplay, ?_⟩
          split at h
          · split at h
            · next henqueue =>
                obtain rfl := Option.some.inj h
                exact ⟨_, (if_pos henqueue).symm⟩
            · next henqueue =>
                obtain rfl := Option.some.inj h
                exact ⟨_, (if_neg henqueue).symm⟩
          · contradiction

/-- The steps of the server, apart from the frames that are taken, are those of the `Extended`
server. -/
theorem step_server
    {input : ServerInput} (h : ∀ c i vf, input ≠ .takeFrame c i vf) :
  step q (.server input) = q.step input
  := by
  cases input with
  | takeFrame c i vf => exact absurd rfl (h c i vf)
  | _ => rfl

end Rtspd.Play
