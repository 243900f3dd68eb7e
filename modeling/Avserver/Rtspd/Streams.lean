import Mathlib.Algebra.GroupWithZero.Nat
import Avserver.Rtspd.Frame

/-!
# The streams of the encoder

The channels and streams of the server, and the functions that start a stream with the encoder
driver, register it with the streaming library, and take it down again.  The driver, the C
library and the streaming library are seen through what their calls yield (`Calls`).

The descriptors that are open are kept in `files`, and which frame pools have been built and
not been freed in `built`; these and the lists of what has been done to the pools and applied
to the channels serve the statements only, and no function of the program reads them.
-/

namespace Rtspd

/-! ### Data -/

/-- The number of a channel, which is below `CHANNEL_NUM` as the program checks it. -/
abbrev ChNum := Fin 2

/-- The number of a stream of a channel, which is below `DVR_ENC_REPD_BT_NUM` as the program checks
it. -/
abbrev SubNum := Fin 9

/-- There is a channel, and so 0 is a `ChNum`; a channel has a stream. -/
instance chNum_neZero : NeZero 2 := ⟨by decide⟩

@[inherit_doc chNum_neZero]
instance subNum_neZero : NeZero 9 := ⟨by decide⟩

/-- `MAIN_BS_NUM` -/
def mainBsNum : SubNum := 0

/-- The events of a stream: `NONE_BS_EVENT`, `START_BS_EVENT`, `UPDATE_BS_EVENT` and
`STOP_BS_EVENT`. -/
inductive BsEvent where
  | none | start | update | stop
deriving DecidableEq

/-- `OPT_NONE`, `RTSP_LIVE_STREAMING` and `OPT_END` -/
def optNone : Int := 0
@[inherit_doc optNone] def rtspLiveStreaming : Int := 1
@[inherit_doc optNone] def optEnd : Int := 5

/-- `ENC_TYPE_H264` and `ENC_TYPE_MJPEG` -/
def encTypeH264 : Int := 0
@[inherit_doc encTypeH264] def encTypeMjpeg : Int := 2

/-- `PAL` -/
def pal : Int := 1

/-- `avbs_t` and `priv_avbs_t`: a stream.  Its handlers are those of live streaming, or null, and so
are flags. -/
structure Bs where
  event : BsEvent
  enabled : Bool
  optType : Int
  /-- `video.enabled` -/
  videoEnabled : Bool
  /-- `video.enc_type` -/
  encType : Int
  /-- `video.fps` -/
  fps : Int
  /-- `video.bps` -/
  bps : Int
  /-- the handle of the registration -/
  sr : Int
  /-- `video.qno` -/
  qno : Int
  /-- `audio.qno` -/
  audioQno : Int
  openFn : Bool
  closeFn : Bool
  readFn : Bool
  writeFn : Bool
  freeFn : Bool
deriving DecidableEq

/-- `av_t`: a channel, with its streams and the descriptor `enc_fd` of the driver for it. -/
structure Av where
  bs : SubNum → Bs
  inputSystem : Int
  enabled : Bool
  encFd : Int

/-- What a descriptor is open for: `/dev/dvr_enc`, `/dev/dvr_common` or something else. -/
inductive Dev where
  | dvrEnc | dvrCommon | other
deriving DecidableEq

/-- What is done to the pools of frames: the number of the queue, whether its pool was `built`, the
lengths of its lists, and the value returned. -/
inductive PoolAct where
  | init (qno : Int)
  | count (qno : Int) (built : Bool)
  | free (qno : Int) (built : Bool) (avail used : Option Nat) (ret : Int)
deriving DecidableEq

/-- A `DVR_COMMON_APPLY`: its channel, whether the channel was enabled, and whether the
descriptor was one of the device. -/
structure Applied where
  chNum : ChNum
  enabled : Bool
  opened : Bool
deriving DecidableEq

/-- The state of the server, with what has been done to the pools in `acts` and the changes that
have been applied in `applies`. -/
structure Server where
  enc : ChNum → Av
  /-- the static variable of `bs_new_event` -/
  bsEvent : BsEvent
  rtspdSetEvent : Bool
  rtspdDvrFd : Int
  frameInfo : Int → FrameInfo
  files : Int → Option Dev
  built : Int → Bool
  acts : List PoolAct
  applies : List Applied

/-- What the calls for a stream to the driver, to the streaming library and of `malloc` yield in a
turn. -/
structure Calls where
  /-- `open` of `/dev/dvr_enc` -/
  openEnc : Int
  /-- `DVR_ENC_SET_CHANNEL_PARAM` -/
  setChannelParam : Int
  /-- `DVR_ENC_QUERY_OUTPUT_BUFFER_SIZE` -/
  outputBufferSize : Int
  /-- the queries of `dvr_enc_queue_offset_def_table` -/
  queueOffset : SubNum → Int
  /-- whether `mmap` succeeds -/
  mmap : Bool
  /-- `DVR_ENC_SET_SUB_BS_PARAM` -/
  setSubBsParam : Int
  /-- `DVR_ENC_CONTROL` -/
  encControl : Int
  /-- `DVR_COMMON_APPLY` -/
  commonApply : Int
  /-- what `stream_queue_alloc` yields for the video when it does not yield `ERR_MUTEX` -/
  videoQueue : Int
  /-- the same for the audio -/
  audioQueue : Int
  streamReg : Int
  streamDereg : Int
  /-- whether `pthread_mutex_init` succeeds -/
  mutexInit : Bool
  malloc : Nat → Option SlotId × Bool

namespace Server

/-- The stream `i` of the channel `c`, as it is in `enc[]`. -/
def bs (s : Server) (c : ChNum) (i : SubNum) : Bs := (s.enc c).bs i

/-- The channel `c` of the server is assigned to by `f`. -/
def setAv (s : Server) (c : ChNum) (f : Av → Av) : Server :=
  { s with enc := Function.update s.enc c (f (s.enc c)) }

/-- The stream `i` of the channel `c` is assigned to by `f`. -/
def setBs (s : Server) (c : ChNum) (i : SubNum) (f : Bs → Bs) : Server :=
  s.setAv c fun e => { e with bs := Function.update e.bs i (f (e.bs i)) }

/-- `DVR_COMMON_APPLY` for the channel `c`: whether it is open, and the common device, is noted in
`applies`. -/
def apply (s : Server) (c : ChNum) : Server :=
  { s with
    applies := s.applies ++
      [⟨c, (s.enc c).enabled, s.files s.rtspdDvrFd = some .dvrCommon⟩] }

end Server

variable {s : Server} {c : ChNum} {i : SubNum}

namespace Server

@[simp]
theorem enc_setAv (f : Av → Av) : (s.setAv c f).enc c = f (s.enc c) := Function.update_self _ _ _

theorem enc_setAv_of_ne {d : ChNum} (h : d ≠ c) (f : Av → Av) : (s.setAv c f).enc d = s.enc d :=
  Function.update_of_ne h _ _

@[simp]
theorem bs_setAv (f : Av → Av) : (s.setAv c f).bs c i = (f (s.enc c)).bs i := by
  rw [bs, enc_setAv]

@[simp]
theorem bs_setBs (f : Bs → Bs) : (s.setBs c i f).bs c i = f (s.bs c i) := by
  rw [setBs, bs_setAv]
  apply Function.update_self

theorem bs_setBs_of_ne {j : SubNum} (h : j ≠ i) (f : Bs → Bs) :
  (s.setBs c i f).bs c j = s.bs c j
  := by
  rw [setBs, bs_setAv]
  apply Function.update_of_ne h

/-- Of two assignments to one stream, `f` is made to what `g` leaves, and the two are one. -/
theorem setBs_setBs (f g : Bs → Bs) : (s.setBs c i g).setBs c i f = s.setBs c i fun b => f (g b) := by
  unfold setBs setAv
  simp only [Function.update_self, Function.update_idem]

@[simp]
theorem enabled_setBs (d : ChNum) (f : Bs → Bs) :
  ((s.setBs c i f).enc d).enabled = (s.enc d).enabled
  := by
  by_cases h : d = c
  · subst h
    rw [setBs, enc_setAv]
  · rw [setBs, enc_setAv_of_ne h]

@[simp]
theorem encFd_setBs (d : ChNum) (f : Bs → Bs) :
  ((s.setBs c i f).enc d).encFd = (s.enc d).encFd
  := by
  by_cases h : d = c
  · subst h
    rw [setBs, enc_setAv]
  · rw [setBs, enc_setAv_of_ne h]

end Server

/-! ### Channels -/

/-- `open_channel` -/
def openChannel (o : Calls) (c : ChNum) (s : Server) : Int × Server :=
  if (s.enc c).enabled then (-1, s)
  else if o.openEnc < 0 then (-1, s)
  else
    let s := { s with files := Function.update s.files o.openEnc (some .dvrEnc) }
    (o.openEnc, s.setAv c fun e => { e with enabled := true })

/-- `close_channel` -/
def closeChannel (c : ChNum) (s : Server) : Server :=
  let s := { s with files := Function.update s.files (s.enc c).encFd none }
  let s := s.setAv c fun e => { e with encFd := -1, enabled := false }
  if (List.finRange 2).any fun i => (s.enc i).enabled then s
  else { s with files := Function.update s.files s.rtspdDvrFd none, rtspdDvrFd := 0 }

/-! ### Starting a stream with the driver -/

/-- `check_bs_param` -/
def checkBsParam (c : ChNum) (i : SubNum) (s : Server) : Int :=
  let b := s.bs c i
  if b.optType < rtspLiveStreaming ∨ b.optType ≥ optEnd then -1
  else if b.encType < encTypeH264 ∨ b.encType > encTypeMjpeg then -1
  else if b.fps > 30 ∨ b.fps ≤ 0 then -1
  else if b.bps < 0 then -1
  else 0

/-- `set_bs_buf` -/
def setBsBuf (o : Calls) : Int :=
  if o.outputBufferSize < 0 then -1
  else if (List.finRange 9).any fun i => i ≠ mainBsNum ∧ o.queueOffset i < 0 then -1
  else if o.mmap = false then -1
  else 0

/-- `set_main_bs` -/
def setMainBs (o : Calls) (c : ChNum) (s : Server) : Int × Server :=
  if checkBsParam c mainBsNum s < 0 then (-1, s)
  else if (s.bs c mainBsNum).enabled then (-1, s)
  else if (s.enc c).encFd > 0 then (-1, s)
  else
    let (fd, s) := openChannel o c s
    let s := s.setAv c fun e => { e with encFd := fd }
    if fd < 0 then (-1, s)
    else
      let s := s.setBs c mainBsNum fun b =>
        { b with
          fps := if (s.enc c).inputSystem = pal ∧ b.fps > 25 then 25 else b.fps
          enabled := true
          videoEnabled := true }
      if o.setChannelParam < 0 then (-1, s)
      else if setBsBuf o < 0 then (-1, s)
      else (0, s)

/-- `set_sub_bs` -/
def setSubBs (o : Calls) (c : ChNum) (i : SubNum) (s : Server) : Int × Server :=
  if checkBsParam c i s < 0 then (-1, s)
  else if (s.bs c i).videoEnabled then (0, s)
  else if o.setSubBsParam < 0 then (-1, s)
  else (0, s.setBs c i fun b => { b with enabled := true, videoEnabled := true })

/-- `apply_bs` -/
def applyBs (o : Calls) (c : ChNum) (s : Server) : Int × Server :=
  if o.encControl < 0 then (-1, s)
  else (if o.commonApply < 0 then -1 else 0, s.apply c)

/-- The parameters of the stream `i` of `c` are set with the driver, by `set_main_bs` or
`set_sub_bs`. -/
def configureBs (o : Calls) (c : ChNum) (i : SubNum) (s : Server) : Int × Server :=
  if i = mainBsNum then setMainBs o c s else setSubBs o c i s

/-- `open_bs` -/
def openBs (o : Calls) (c : ChNum) (i : SubNum) (s : Server) : Int × Server :=
  let (ret, s) := configureBs o c i s
  if ret < 0 then (ret, s)
  else
    let (ret, s) := applyBs o c s
    if ret < 0 then (ret, s)
    else if (s.bs c i).optType = rtspLiveStreaming then
      (ret, s.setBs c i fun b =>
        { b with openFn := true, closeFn := true, readFn := true, freeFn := false, writeFn := true })
    else (ret, s)

/-- `close_bs` -/
def closeBs (o : Calls) (c : ChNum) (i : SubNum) (s : Server) : Int × Server :=
  let disable (b : Bs) : Bs := { b with videoEnabled := false, enabled := false }
  if (s.bs c i).videoEnabled then
    let (ret, s) := applyBs o c s
    if ret < 0 then (ret, s)
    else
      let s := s.setBs c i disable
      if (List.finRange 9).any fun j => (s.bs c j).videoEnabled then (ret, s)
      else (ret, closeChannel c s)
  else (0, s.setBs c i disable)

/-- `is_bs_all_disable` -/
def isBsAllDisable (s : Server) : Bool :=
  (List.finRange 2).all fun c => (List.finRange 9).all fun i => !(s.bs c i).enabled

/-! ### The pools of frames -/

/-- `init_video_frame` -/
def initPool (o : Calls) (qno : Int) (s : Server) : Int × Server :=
  if qno ≥ vqMax ∨ qno < 0 then (-1, s)
  else
    let (ret, fi) := initVideoFrame qno o.mutexInit o.malloc (s.frameInfo qno)
    (ret, { s with
      frameInfo := Function.update s.frameInfo qno fi
      built := Function.update s.built qno (ret = 0)
      acts := s.acts ++ [.init qno] })

/-- `get_num_of_used_video_frame` -/
def getNumOfUsedVideoFrame (qno : Int) (s : Server) : Option Nat × Server :=
  let fi := s.frameInfo qno
  (getNumOfList fi.slots walkBound fi.used,
    { s with acts := s.acts ++ [.count qno (s.built qno)] })

/-- `free_video_frame` of the queue `qno`; the walk over the free slots is given up at one slot more
than there are. -/
def freeVideoFrame (qno : Int) (s : Server) : Int × Server :=
  let fi := s.frameInfo qno
  let avail := getNumOfList fi.slots walkBound fi.avail
  let used := getNumOfList fi.slots walkBound fi.used
  let ret := if avail = some videoFrameNumber then 0 else -1
  let fi := if avail = none then fi else { fi with avail := none, used := none }
  (ret, { s with
    frameInfo := Function.update s.frameInfo qno fi
    built := Function.update s.built qno false
    acts := s.acts ++ [.free qno (s.built qno) avail used ret] })

/-! ### Live streaming -/

/-- `open_live_streaming` -/
def openLiveStreaming (o : Calls) (c : ChNum) (i : SubNum) (s : Server) : Int × Server :=
  let s := s.setBs c i fun b =>
    { b with qno := o.videoQueue, audioQno := o.audioQueue, sr := o.streamReg }
  if o.streamReg < 0 then (-1, s) else (0, (initPool o o.videoQueue s).2)

/-- `close_live_streaming` -/
def closeLiveStreaming (o : Calls) (c : ChNum) (i : SubNum) (s : Server) : Int × Server :=
  let (_, s) := freeVideoFrame (s.bs c i).qno s
  if (s.bs c i).sr ≥ 0 then
    if o.streamDereg < 0 then (o.streamDereg, s)
    else (o.streamDereg, s.setBs c i fun b => { b with sr := -1, qno := -1 })
  else (0, s)

end Rtspd
