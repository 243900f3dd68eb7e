import Avserver.Rtspd.FrameList

/-!
# The way of a video frame

The state of one live stream and the functions of `rtspd.c` that a video frame passes
through: `getBsData` fetches it from the encoder driver, `writeRtpFrame` hands it to the
streaming library, to the network recorder and to the file recorder, `freeBsData` gives it
back to the driver, and `frmCb` is the call by which the streaming library returns it.

The driver and the streaming library are seen through what they hold: `out` are the frames
that the driver has handed out and not received back, `lib` the entities that the library
has accepted and not yet called back.  A frame carries the number under which it was
handed out, and an entity its frame and the slot it was filed under; these, and the `log`
of what has happened, serve the statements only, and no function of the program reads them.
-/

namespace Rtspd

/-! ### Constants -/

/-- `CHANNEL_NUM` -/
def channelNum : Int := 2

/-- `DVR_ENC_REPD_BT_NUM`: the number of streams of a channel, the main stream among them. -/
def dvrEncRepdBtNum : Int := 9

/-- `NONE_BS_EVENT` -/
def noneBsEvent : Int := 0

/-- `RTP_HZ` -/
def rtpHz : Int := 90000

/-- `TIME_INTERVAL` -/
def timeInterval : Int := 4 * rtpHz

/-- `ERR_FULL` -/
def errFull : Int := -10

/-- The types of the NAL units that `rtspd.c` distinguishes, `H264NT_NAL`,
`H264NT_SLICE_IDR`, `H264NT_SPS` and `H264NT_PPS`. -/
def h264ntNal : Nat := 0
@[inherit_doc h264ntNal] def h264ntSliceIdr : Nat := 5
@[inherit_doc h264ntNal] def h264ntSps : Nat := 7
@[inherit_doc h264ntNal] def h264ntPps : Nat := 8

/-- `GM_SS_VIDEO_MIN` and `GM_SS_VIDEO_MAX`: the range of the video types of the
streaming library. -/
def gmSsVideoMin : Int := 1
@[inherit_doc gmSsVideoMin] def gmSsVideoMax : Int := 3

/-- `convert_gmss_media_type`: the library's name for `ENC_TYPE_H264`, `ENC_TYPE_MPEG` and
`ENC_TYPE_MJPEG`, and -1 for others. -/
def convertGmssMediaType (type : Int) : Int :=
  if type = 0 then 1 else if type = 1 then 2 else if type = 2 then 3 else -1

/-- The test of `CHECK_CHANNUM_AND_SUBNUM`, which holds if the numbers are not those of a stream. -/
def channelError (chNum subNum : Int) : Bool :=
  (chNum ≥ channelNum || chNum < 0) || (subNum ≥ dvrEncRepdBtNum || subNum < 0)

/-! ### Data -/

/-- A frame of the driver: what the driver reports about it, and its payload in the mapped
buffer.  The `serial` is the number of frames that were handed out before it. -/
structure Frame where
  serial : Nat
  queue : QueueGet
  payload : List UInt8
deriving DecidableEq

/-- `gm_ss_entity`, with the type under which it is enqueued.  The `frame` and the `slot`
record what `writeRtpFrame` had in hand when it built the entity. -/
structure Entity where
  type : Int
  data : Int
  size : Int
  timestamp : UInt32
  frame : Frame
  slot : SlotId
deriving DecidableEq

/-- The readers of a payload in this program, with the other arguments of the call:
`h264_get_NALType`, `send_video_frame` and `mt_write`. -/
inductive Reader where
  | h264GetNALType
  | sendVideoFrame (sub iFrame : Bool) (size height width tvSec tvUsec : Int)
  | mtWrite (size : Int) (frameType streamType : Nat) (timestamp : UInt32)
      (height width : Int)
deriving DecidableEq

/-- What happens to frames, payloads and slots, as it is noted in the `log` of a stream. -/
inductive Event where
  /-- `DVR_ENC_QUEUE_GET` has handed out a frame -/
  | get (serial : Nat)
  /-- `DVR_ENC_QUEUE_PUT` has given a frame back -/
  | put (serial : Nat)
  /-- the payload of a frame is read -/
  | read (serial : Nat) (reader : Reader)
  /-- `DVR_ENC_RESET_INTRA` -/
  | resetIntra
  /-- a callback for an entity has found a slot -/
  | select (e : Entity) (fs : SlotId)
  /-- a callback for an entity has given the driver a frame back -/
  | release (e : Entity) (taken : Option Frame)
  /-- a callback for an entity has put its slot back -/
  | giveBack (e : Entity) (fs : SlotId)
deriving DecidableEq

/-- The fields of a stream that other threads of the server write too, and of which
`write_rtp_frame` reads what is there. -/
structure Control where
  /-- `bs.event` -/
  event : Int
  /-- `bs.video.rate_ctl_type` -/
  rateCtlType : Int
  /-- `bs.video.height` -/
  height : Int
  /-- `bs.video.width` -/
  width : Int
  /-- `priv_bs.play` -/
  play : Int
  /-- `priv_bs.reset_intra_frame` -/
  resetIntraFrame : Int
  /-- `priv_bs.video.timed` -/
  timed : Int
  /-- `NVR_send_status` -/
  nvrSendStatus : Int
deriving DecidableEq

/-- A live stream: its channel, its number in the channel, its registered queue, the address `base`
of its part of the mapped buffer and its encoder type. -/
structure Live where
  chNum : Int
  subNum : Int
  qno : Int
  base : Int
  encType : Int
  inRange : channelError chNum subNum = false
  qnoInRange : 0 ≤ qno ∧ qno < vqMax
  encTypeValid : encType = 0 ∨ encType = 1 ∨ encType = 2

/-- The state of a live stream, of the driver and the library as far as they hold frames
of the stream, and of the file-level variables its functions use. -/
structure Stream where
  control : Control
  congest : Int
  tick : UInt32
  itvlFps : Int
  avgFps : Int
  itvlBps : Int
  avgBps : Int
  timeval : UInt32
  /-- `priv_bs.video.buf_usage` of every stream of every channel -/
  bufUsage : Int → Int → Int
  sysTick : UInt32
  sysSec : Int
  frames : FrameInfo
  /-- the number of frames the driver has handed out -/
  got : Nat
  /-- the frames handed out and not received back, the last one first -/
  out : List Frame
  /-- the entities accepted and not yet called back, the last one first -/
  lib : List Entity
  /-- what has happened, the last event first -/
  log : List Event

/-! ### Clock -/

/-- `get_tick`: the 90 kHz time of a time stamp, which moves `sys_sec` and `sys_tick` along. -/
def getTick (tvSec tvUsec : Int) (s : Stream) : UInt32 × Stream :=
  let sysTick := s.sysTick + UInt32.ofInt ((tvSec - s.sysSec) * rtpHz)
  let tick := UInt32.ofInt ((tvUsec * (rtpHz.tdiv 1000)).tdiv 1000) + sysTick
  (tick, { s with sysTick := sysTick, sysSec := tvSec })

/-- `timediff` -/
def timediff (ptime ctime : UInt32) : UInt32 :=
  if ctime ≥ ptime then ctime - ptime else (0xffffffff - ptime) + ctime

/-- The value of an `int` to which the `unsigned int` `n` has been assigned. -/
def toInt (n : UInt32) : Int := n.toBitVec.toInt

/-- The `PRINT_ENC_AVERAGE` block of `get_bs_data` for a frame of `length` bytes, at the time
`tvSec`, `tvUsec`. -/
def encAverage (tvSec tvUsec : Int) (length : Int) (s : Stream) : Stream :=
  let s := { s with itvlFps := s.itvlFps + 1, itvlBps := s.itvlBps + length }
  let timeC := (getTick tvSec tvUsec s).1
  let s := (getTick tvSec tvUsec s).2
  if s.timeval = 0 then { s with timeval := timeC }
  else
    let diffTv := toInt (timediff s.timeval timeC)
    if diffTv ≥ timeInterval then
      { s with
        avgFps := (s.itvlFps * 9000000).tdiv diffTv
        avgBps := (s.itvlBps * 80).tdiv (diffTv.tdiv 9000)
        itvlFps := 0
        itvlBps := 0
        timeval := timeC }
    else s

/-! ### The driver -/

/-- The number `n` is added to `buf_usage` of the stream with the given numbers. -/
def addUsage (chNum subNum n : Int) (s : Stream) : Stream :=
  { s with
    bufUsage := fun c b =>
      if c = chNum ∧ b = subNum then s.bufUsage c b + n else s.bufUsage c b }

/-- A successful `DVR_ENC_QUEUE_GET`: the driver hands out a frame with what it reports in
`queue`. -/
def queueGet (queue : QueueGet) (payload : List UInt8) (s : Stream) : Frame × Stream :=
  let q : Frame := ⟨s.got, queue, payload⟩
  (q, { s with got := s.got + 1, out := q :: s.out, log := .get s.got :: s.log })

/-- The frame that the driver takes back on `DVR_ENC_QUEUE_PUT` on a channel: the one that
it has handed out at the offset. -/
def takenBack (p : Live) (chNum : Int) (queue : QueueGet) (s : Stream) : Option Frame :=
  if chNum = p.chNum then s.out.find? (fun q => q.queue.offset = queue.offset) else none

/-- A successful `DVR_ENC_QUEUE_PUT` on a channel: the driver takes the frame that `queue` is about
back. -/
def queuePut (p : Live) (chNum : Int) (queue : QueueGet) (s : Stream) : Stream :=
  match takenBack p chNum queue s with
  | some q => { s with out := s.out.erase q, log := .put q.serial :: s.log }
  | none => s

/-- `get_bs_data`, where the driver's call returns `ret` and reports `queue`, and the time is
`tvSec`, `tvUsec`; with the result, the frame, if there is one, and the stream behind it. -/
def getBsData (chNum subNum : Int) (ret : Int) (queue : QueueGet) (payload : List UInt8)
    (tvSec tvUsec : Int) (s : Stream) : Int × Option Frame × Stream :=
  if channelError chNum subNum then (-1, none, s)
  else if ret ≥ 0 then
    let (q, s) := queueGet queue payload s
    let s := addUsage chNum subNum 1 s
    let s := encAverage tvSec tvUsec queue.length s
    (ret, some q, s)
  else (ret, none, s)

/-- `free_bs_data` of the frame that `queue` is about, where the driver's call returns `ret`. -/
def freeBsData (p : Live) (chNum subNum : Int) (ret : Int) (queue : QueueGet) (s : Stream) :
    Int × Stream :=
  if channelError chNum subNum then (-1, s)
  else if ret < 0 then (ret, s)
  else (ret, addUsage chNum subNum (-1) (queuePut p chNum queue s))

/-! ### Payloads -/

/-- The loop of `H264GetNALType` from the `i`-th byte on, with `n` rounds to go: at a start
code, the type is taken from the fifth byte of the buffer. -/
def nalLoop (pBS : List UInt8) : (n i : Nat) → Nat
  | 0, _ => 0
  | n + 1, i =>
      if pBS.getD i 0 = 0 ∧ pBS.getD (i + 1) 0 = 0 ∧ pBS.getD (i + 2) 0 = 0
          ∧ pBS.getD (i + 3) 0 = 1 then
        let nType := (pBS.getD 4 0).toNat % 32
        if nType ≤ h264ntPps then nType else nalLoop pBS n (i + 1)
      else nalLoop pBS n (i + 1)

/-- `H264GetNALType` -/
def h264GetNALType (pBS : List UInt8) (nBSLen : Int) : Nat :=
  if nBSLen < 5 then h264ntNal else nalLoop pBS (nBSLen - 4).toNat 0

/-- A read of the payload of the frame `q` by the given reader, as it is noted in the log. -/
def readPayload (q : Frame) (reader : Reader) (s : Stream) : Stream :=
  { s with log := .read q.serial reader :: s.log }

/-- Whether a frame of the type `frameType` begins a group of pictures. -/
def isIFrame (frameType : Nat) : Bool :=
  frameType == h264ntSps || frameType == h264ntSliceIdr

/-! ### The parts of `write_rtp_frame` -/

/-- The time stamp of the frame `q`, and the first frame's effect on the stream. -/
def startClock (q : Frame) (s : Stream) : UInt32 × Stream :=
  let tick := (getTick q.queue.tvSec q.queue.tvUsec s).1
  let s := (getTick q.queue.tvSec q.queue.tvUsec s).2
  if s.control.timed = 0 then
    (tick, { s with congest := 0, tick := tick, control := { s.control with timed := 1 } })
  else (tick, s)

/-- An intra frame that is requested by `reset_intra_frame` is asked for, and the request is
cleared. -/
def serveIntra (s : Stream) : Stream :=
  if s.control.resetIntraFrame = 1 then
    { s with
      log := .resetIntra :: s.log
      control := { s.control with resetIntraFrame := 0 } }
  else s

/-- The frame `q` goes to the network recorder if that is switched on; an oversized frame at a
constant bit rate is replaced by the request for an intra frame. -/
def sendToNvr (p : Live) (q : Frame) (frameType : Nat) (s : Stream) : Stream :=
  if s.control.nvrSendStatus ≠ 0 then
    if q.queue.length > 500 * 1024
        ∧ (s.control.rateCtlType = 0 ∨ s.control.rateCtlType = 2) then
      { s with log := .resetIntra :: s.log }
    else
      readPayload q (.sendVideoFrame (p.chNum != 0) (isIFrame frameType) q.queue.length
        s.control.height s.control.width q.queue.tvSec q.queue.tvUsec) s
  else s

/-- A write `f` to the contents of the slot `fs`, which is what `frame_info[]` points to. -/
def setVf (fs : SlotId) (f : VideoFrame → VideoFrame) (s : Stream) : Stream :=
  { s with frames := { s.frames with vf := Function.update s.frames.vf fs (f (s.frames.vf fs)) } }

/-- The address of the payload of the frame `q`, `entity.data`, which serves as search key. -/
def dataOf (p : Live) (q : Frame) : Int := p.base + q.queue.offset

/-- The slot `fs` gets the search key of the frame `q`, before the rest of its contents. -/
def fillKey (p : Live) (q : Frame) (fs : SlotId) (s : Stream) : Stream :=
  setVf fs (fun vf => { vf with searchKey := dataOf p q }) s

/-- The slot `fs` gets the rest of its contents: the numbers of the stream, and what the driver
reported of the frame `q`. -/
def fillQueue (p : Live) (q : Frame) (fs : SlotId) (s : Stream) : Stream :=
  setVf fs (fun vf => { vf with chNum := p.chNum, subNum := p.subNum, queue := q.queue }) s

/-- The entity of the frame `q` that `stream_media_enqueue` gets, with its `tick` and its slot. -/
def entityOf (p : Live) (q : Frame) (tick : UInt32) (fs : SlotId) : Entity where
  type := convertGmssMediaType p.encType
  data := dataOf p q
  size := q.queue.length
  timestamp := tick
  frame := q
  slot := fs

/-- The streaming library accepts the entity `e`, and holds it from now on. -/
def accept (e : Entity) (s : Stream) : Stream := { s with lib := e :: s.lib }

/-- The streaming library refuses an entity with the value `ret`: that its queue is full is noted in
`congest`. -/
def refuse (ret : Int) (s : Stream) : Stream :=
  if ret = errFull then { s with congest := 1 } else s

/-- The frame `q` goes to the file recorder by `mt_write`, with its type, its `tick` and its
size. -/
def writeMt (p : Live) (q : Frame) (tick : UInt32) (frameType : Nat) (s : Stream) : Stream :=
  readPayload q (.mtWrite q.queue.length (if isIFrame frameType then 1 else 2)
    (if p.chNum = 0 then 0 else 1) tick s.control.height s.control.width) s

/-- `put_video_frame` of the slot `fs`, on the queue of the stream `p`. -/
def putSlot (p : Live) (fs : SlotId) (s : Stream) : Stream :=
  { s with frames := putVideoFrame p.qno fs s.frames }

/-! ### The functions as single steps -/

/-- `write_rtp_frame`, where `stream_media_enqueue` returns `enqueue` and the driver's call
to give the frame back returns `put`; `none` for a null dereference. -/
def writeRtpFrame (p : Live) (enqueue put : Int) (q : Frame) (s : Stream) :
    Option (Int × Stream) :=
  let exitFreeBuf (ret : Int) (s : Stream) : Int × Stream :=
    (ret, (freeBsData p p.chNum p.subNum put q.queue s).2)
  if s.control.event ≠ noneBsEvent then some (exitFreeBuf 1 s)
  else
    let (tick, s) := startClock q s
    let s := serveIntra s
    let frameType := h264GetNALType q.payload q.queue.length
    let s := readPayload q .h264GetNALType s
    let s := sendToNvr p q frameType s
    if s.control.play = 0 then some (exitFreeBuf 1 s)
    else
      match takeVideoFrame p.qno s.frames with
      | some (some fs, frames) =>
          let s := { s with frames := frames }
          let s := fillKey p q fs s
          let s := fillQueue p q fs s
          if enqueue < 0 then
            let s := refuse enqueue s
            let s := putSlot p fs s
            some (exitFreeBuf enqueue s)
          else
            let s := accept (entityOf p q tick fs) s
            let s := writeMt p q tick frameType s
            some (0, s)
      | _ => none

/-- `frm_cb`, where the driver's call to take the frame back returns `put`; `none` for a
null dereference or a walk without end. -/
def frmCb (p : Live) (put : Int) (e : Entity) (s : Stream) : Option (Int × Stream) :=
  if gmSsVideoMin ≤ e.type ∧ e.type ≤ gmSsVideoMax then
    match searchVideoFrame e.data s.frames with
    | some (some fs) =>
        let vf := s.frames.vf fs
        if channelError vf.chNum vf.subNum then some (-1, s)
        else
          let s := (freeBsData p vf.chNum vf.subNum put vf.queue s).2
          let s := putSlot p fs s
          some (0, s)
    | _ => none
  else some (0, s)

end Rtspd
