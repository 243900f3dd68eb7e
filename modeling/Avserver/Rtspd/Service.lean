import Avserver.Library.Run
import Avserver.Rtspd.Frame

/-!
# Serving a stream, one call at a time

The encoder loop on a live stream with each service of the stream by `do_poll_event`, and
each call of `frm_cb`, taken as one step.  A frame that `getBsData` has fetched leaves the
program on one of four ways, three in `writeRtpFrame` and one in the callback of its
entity.  `Balanced hand s` is the account that is kept on the way: the frames that are out
of the driver are those in the `hand` of the encoder thread and those of the entities that
the library holds, each of the latter is filed in a used slot, `buf_usage` counts them, and
all the others have been put back once.
-/

namespace Rtspd

open Library

/-! ### The encoder loop -/

/-- What can happen to a live stream between two steps of the encoder loop, in `do_poll_event`, in
`frm_cb` or in another thread. -/
inductive Input where
  /-- `do_poll_event` serves the stream: the results of the driver's and the library's
  calls, and the time -/
  | service (get enqueue : Int) (queue : QueueGet) (payload : List UInt8) (tvSec tvUsec : Int)
  /-- the library calls `frm_cb` for an entity -/
  | frmCb (e : Entity)
  /-- another thread writes the fields it shares with the stream -/
  | control (c : Control)
deriving DecidableEq

/-- One step of the encoder loop, with calls to the driver that succeed; `none` for a null
dereference. -/
def serviceStep (p : Live) (s : Stream) : Input → Option Stream
  | .service get enqueue queue payload tvSec tvUsec =>
      let (ret, q, s) := getBsData p.chNum p.subNum get queue payload tvSec tvUsec s
      if ret < 0 then some s
      else
        match q with
        | some q => (writeRtpFrame p enqueue 0 q s).map Prod.snd
        | none => some s
  | .frmCb e => (frmCb p 0 e { s with lib := s.lib.erase e }).map Prod.snd
  | .control c => some { s with control := c }

/-- What the driver and the library promise: an offset is not handed out again before its
frame is put back, and `frm_cb` is called for entities that were accepted, once for each. -/
def Assumed (s : Stream) : Input → Prop
  | .service get _ queue _ _ _ => 0 ≤ get → ∀ q ∈ s.out, q.queue.offset ≠ queue.offset
  | .frmCb e => e ∈ s.lib
  | .control _ => True

instance (s : Stream) : (i : Input) → Decidable (Assumed s i)
  | .service get _ queue _ _ _ =>
      inferInstanceAs (Decidable (0 ≤ get → ∀ q ∈ s.out, q.queue.offset ≠ queue.offset))
  | .frmCb e => inferInstanceAs (Decidable (e ∈ s.lib))
  | .control _ => inferInstanceAs (Decidable True)

/-- The state of a stream that has just been opened: its queue is built, no frame is
outstanding, and `open_bs` has reset its counter. -/
structure Opened (p : Live) (s : Stream) : Prop where
  built : Built s.frames
  usage : s.bufUsage p.chNum p.subNum = 0
  got : s.got = 0
  out : s.out = []
  lib : s.lib = []
  log : s.log = []

/-! ### Steps that move no frame -/

/-- `Quiet n s s'`: from `s` to `s'` no frame, slot or entity moves; the payload of frame
`n` may be read and intra frames asked for. -/
structure Quiet (n : Nat) (s s' : Stream) : Prop where
  frames : s'.frames = s.frames
  usage : s'.bufUsage = s.bufUsage
  got : s'.got = s.got
  out : s'.out = s.out
  lib : s'.lib = s.lib
  log : ∃ l, s'.log = l ++ s.log ∧ ∀ ev ∈ l, ev = .resetIntra ∨ ∃ r, ev = .read n r

namespace Quiet

variable {n : Nat} {s s' s'' : Stream}

/-- A step from `s` to `s'` that changes none of the fields concerned is quiet. -/
theorem of_eq
    (frames : s'.frames = s.frames) (usage : s'.bufUsage = s.bufUsage) (got : s'.got = s.got)
    (out : s'.out = s.out) (lib : s'.lib = s.lib) (log : s'.log = s.log) :
  Quiet n s s'
  := ⟨frames, usage, got, out, lib, [], by simp [log]⟩

theorem trans (h : Quiet n s s') (h' : Quiet n s' s'') :
  Quiet n s s''
  := by
  obtain ⟨l, hl, hmem⟩ := h.log
  obtain ⟨l', hl', hmem'⟩ := h'.log
  constructor
  · rw [h'.frames, h.frames]
  · rw [h'.usage, h.usage]
  · rw [h'.got, h.got]
  · rw [h'.out, h.out]
  · rw [h'.lib, h.lib]
  · use l' ++ l
    constructor
    · rw [hl', hl, List.append_assoc]
    · intro ev hev
      rcases List.mem_append.mp hev with hev | hev
      · apply hmem' ev hev
      · apply hmem ev hev

/-- A quiet step puts no frame back, so that the log counts as many puts of the frame `k` as
before. -/
theorem count_put (h : Quiet n s s') (k : Nat) :
  s'.log.count (.put k) = s.log.count (.put k)
  := by
  obtain ⟨l, hl, hmem⟩ := h.log
  rw [hl, List.count_append, List.count_eq_zero_of_not_mem, Nat.zero_add]
  intro hput
  rcases hmem _ hput with heq | ⟨r, heq⟩
  · contradiction
  · contradiction

theorem getTick (tvSec tvUsec : Int) (s : Stream) :
  Quiet n s (getTick tvSec tvUsec s).2
  := of_eq rfl rfl rfl rfl rfl rfl

theorem startClock (q : Frame) (s : Stream) :
  Quiet n s (startClock q s).2
  := by
  apply (getTick q.queue.tvSec q.queue.tvUsec s).trans
  unfold Rtspd.startClock
  dsimp only
  split
  · exact of_eq rfl rfl rfl rfl rfl rfl
  · exact of_eq rfl rfl rfl rfl rfl rfl

theorem serveIntra (s : Stream) :
  Quiet n s (serveIntra s)
  := by
  unfold Rtspd.serveIntra
  split
  · refine ⟨rfl, rfl, rfl, rfl, rfl, [.resetIntra], rfl, ?_⟩
    simp
  · exact of_eq rfl rfl rfl rfl rfl rfl

theorem readPayload (q : Frame) (r : Reader) (s : Stream) :
  Quiet q.serial s (readPayload q r s)
  := by
  refine ⟨rfl, rfl, rfl, rfl, rfl, [.read q.serial r], rfl, ?_⟩
  simp

theorem sendToNvr (p : Live) (q : Frame) (frameType : Nat) (s : Stream) :
  Quiet q.serial s (sendToNvr p q frameType s)
  := by
  unfold Rtspd.sendToNvr
  split
  · split
    · refine ⟨rfl, rfl, rfl, rfl, rfl, [.resetIntra], rfl, ?_⟩
      simp
    · apply readPayload
  · exact of_eq rfl rfl rfl rfl rfl rfl

theorem refuse (ret : Int) (s : Stream) :
  Quiet n s (refuse ret s)
  := by
  unfold Rtspd.refuse
  split
  · exact of_eq rfl rfl rfl rfl rfl rfl
  · exact of_eq rfl rfl rfl rfl rfl rfl

theorem encAverage (tvSec tvUsec length : Int) (s : Stream) :
  Quiet n s (encAverage tvSec tvUsec length s)
  := by
  unfold Rtspd.encAverage
  dsimp only
  split
  · exact of_eq rfl rfl rfl rfl rfl rfl
  · split
    · exact of_eq rfl rfl rfl rfl rfl rfl
    · exact of_eq rfl rfl rfl rfl rfl rfl

end Quiet

/-- What `get_bs_data` does on a live stream `p`: it hands out a frame if the driver's call
succeeds. -/
theorem getBsData_eq
    (p : Live) (ret : Int) (queue : QueueGet) (payload : List UInt8) (tvSec tvUsec : Int)
    (s : Stream) :
  getBsData p.chNum p.subNum ret queue payload tvSec tvUsec s
    = if 0 ≤ ret then
        (ret, some ⟨s.got, queue, payload⟩, encAverage tvSec tvUsec queue.length
          (addUsage p.chNum p.subNum 1 (queueGet queue payload s).2))
      else (ret, none, s)
  := by
  simp [getBsData, p.inRange, queueGet]

/-! ### The account of a stream -/

/-- What `write_rtp_frame` stores in the slot of the frame `q`. -/
def contents (p : Live) (q : Frame) : VideoFrame where
  chNum := p.chNum
  subNum := p.subNum
  queue := q.queue
  searchKey := dataOf p q

/-- The entity `e` is as `write_rtp_frame` built it, and its frame is filed in its slot. -/
structure Filed (p : Live) (vf : SlotId → VideoFrame) (e : Entity) : Prop where
  type : e.type = convertGmssMediaType p.encType
  data : e.data = dataOf p e.frame
  slot : vf e.slot = contents p e.frame

/-- `Balanced p hand s`: the frames out of the driver are those in the `hand` of the
encoder thread and those of the entities in the library, which are filed in the used
slots; `buf_usage` is their number, and every other frame was put back once. -/
structure Balanced (p : Live) (hand : List Frame) (s : Stream) : Prop where
  pool : ∃ A, Pool s.frames A (s.lib.map Entity.slot)
  filed : ∀ e ∈ s.lib, Filed p s.frames.vf e
  out : s.out = hand ++ s.lib.map Entity.frame
  offsets : (s.out.map (fun q => q.queue.offset)).Nodup
  serials : (s.out.map Frame.serial).Nodup
  fresh : ∀ q ∈ s.out, q.serial < s.got
  usage : s.bufUsage p.chNum p.subNum = s.out.length
  puts : ∀ n, s.log.count (.put n)
    = if n < s.got ∧ n ∉ s.out.map Frame.serial then 1 else 0

/-- A live stream `p` is of a type that the library plays as video. -/
theorem Live.video (p : Live) :
  gmSsVideoMin ≤ convertGmssMediaType p.encType
    ∧ convertGmssMediaType p.encType ≤ gmSsVideoMax
  := by
  rcases p.encTypeValid with h | h | h
  all_goals
    rw [h]
    decide

/-- Two addresses of payloads of `p` are different exactly if their offsets are. -/
theorem dataOf_inj {p : Live} {q q' : Frame} :
  dataOf p q = dataOf p q' ↔ q.queue.offset = q'.queue.offset
  := by
  unfold dataOf
  omega

/-- Erasing the element `a` commutes with a map `f` that separates the elements of `l`. -/
theorem map_erase_of_nodup
    {α β : Type*} [DecidableEq α] [DecidableEq β] {f : α → β} {l : List α} {a : α}
    (hnd : (l.map f).Nodup) (ha : a ∈ l) :
  (l.erase a).map f = (l.map f).erase (f a)
  := by
  obtain ⟨l₁, l₂, ha₁, rfl, herase⟩ := List.exists_erase_eq ha
  have hfa : f a ∉ l₁.map f := by
    rw [List.map_append, List.map_cons] at hnd
    intro hmem
    apply List.disjoint_of_nodup_append hnd hmem List.mem_cons_self
  rw [herase, List.map_append, List.map_append, List.map_cons,
    List.erase_append_right _ hfa, List.erase_cons_head]

/-- The driver takes back the frame `q` that it finds at the offset, if no other one has it. -/
theorem find_offset
    {out : List Frame} {q : Frame} (hnd : (out.map (fun q => q.queue.offset)).Nodup)
    (hq : q ∈ out) :
  out.find? (fun f => f.queue.offset = q.queue.offset) = some q
  := by
  induction out with
  | nil => contradiction
  | cons f out ih =>
      rw [List.map_cons, List.nodup_cons] at hnd
      rcases List.mem_cons.mp hq with rfl | hq
      · simp
      · have hne : f.queue.offset ≠ q.queue.offset := by
          intro heq
          apply hnd.1
          rw [heq]
          apply List.mem_map_of_mem hq
        rw [List.find?_cons_of_neg (by simpa using hne)]
        apply ih hnd.2 hq

/-- Every frame `q` out of the driver is taken back when it is put by `DVR_ENC_QUEUE_PUT`. -/
theorem takenBack_eq
    {p : Live} {s : Stream} {q : Frame}
    (hnd : (s.out.map (fun q => q.queue.offset)).Nodup) (hq : q ∈ s.out) :
  takenBack p p.chNum q.queue s = some q
  := by
  rw [takenBack, if_pos rfl]
  apply find_offset hnd hq

/-- What `free_bs_data` does with a frame `q` that is out of the driver, if its call succeeds. -/
theorem freeBsData_eq
    {p : Live} {s : Stream} {q : Frame} {put : Int} (hput : 0 ≤ put)
    (hnd : (s.out.map (fun q => q.queue.offset)).Nodup) (hq : q ∈ s.out) :
  freeBsData p p.chNum p.subNum put q.queue s
    = (put, addUsage p.chNum p.subNum (-1)
        { s with out := s.out.erase q, log := .put q.serial :: s.log })
  := by
  simp [freeBsData, p.inRange, Int.not_lt.mpr hput, queuePut, takenBack_eq hnd hq]

namespace Balanced

variable {p : Live} {hand : List Frame} {s s' : Stream} {q : Frame}

/-- A quiet step from `s` to `s'` keeps the stream `Balanced`. -/
theorem quiet {n : Nat} (h : Balanced p hand s) (hq : Quiet n s s') :
  Balanced p hand s'
  := by
  constructor
  · rw [hq.frames, hq.lib]
    apply h.pool
  · rw [hq.frames, hq.lib]
    apply h.filed
  · rw [hq.out, hq.lib]
    apply h.out
  · rw [hq.out]
    apply h.offsets
  · rw [hq.out]
    apply h.serials
  · rw [hq.out, hq.got]
    apply h.fresh
  · rw [hq.out, hq.usage]
    apply h.usage
  · intro n
    rw [hq.count_put, hq.out, hq.got]
    apply h.puts n

/-- A stream `s` that has just been opened is `Balanced`, with no frame in hand. -/
theorem of_opened (h : Opened p s) :
  Balanced p [] s
  := by
  obtain ⟨A, hpool⟩ := h.built.pool
  constructor
  · use A
    rw [h.lib]
    apply hpool
  · simp [h.lib]
  · simp [h.lib, h.out]
  · simp [h.out]
  · simp [h.out]
  · simp [h.out]
  · simp [h.out, h.usage]
  · simp [h.log, h.got]

/-- A frame that the driver hands out, at an offset that is not in use, is in the hand of the
encoder thread. -/
theorem get
    {ret : Int} {queue : QueueGet} (payload : List UInt8) (tvSec tvUsec : Int)
    (h : Balanced p [] s) (hret : 0 ≤ ret)
    (hoffset : ∀ f ∈ s.out, f.queue.offset ≠ queue.offset) :
  ∃ q s', getBsData p.chNum p.subNum ret queue payload tvSec tvUsec s = (ret, some q, s')
    ∧ Balanced p [q] s'
  := by
  have hout : s.out = s.lib.map Entity.frame := h.out
  have hserial : ∀ f ∈ s.out, f.serial ≠ s.got := fun f hf => Nat.ne_of_lt (h.fresh f hf)
  rw [getBsData_eq, if_pos hret]
  refine ⟨_, _, rfl, ?_⟩
  apply quiet _ (Quiet.encAverage (n := 0) tvSec tvUsec queue.length _)
  constructor
  · apply h.pool
  · apply h.filed
  · simp [addUsage, queueGet, hout]
  · simpa [addUsage, queueGet, h.offsets] using fun f hf heq => hoffset f hf heq
  · simpa [addUsage, queueGet, h.serials] using fun f hf heq => hserial f hf heq
  · intro f hf
    rcases List.mem_cons.mp hf with rfl | hf
    · apply Nat.lt_succ_self
    · apply Nat.lt_succ_of_lt (h.fresh f hf)
  · simp [addUsage, queueGet, h.usage]
  · intro n
    have hputs := h.puts n
    have hnew : s.got ∉ s.out.map Frame.serial := by
      intro hmem
      obtain ⟨f, hf, heq⟩ := List.mem_map.mp hmem
      apply hserial f hf heq
    simp only [addUsage, queueGet, List.map_cons, List.mem_cons, not_or,
      List.count_cons_of_ne (show Event.get s.got ≠ .put n by simp)]
    rw [hputs]
    by_cases hn : n = s.got
    · subst hn
      simp
    · have hlt : n < s.got + 1 ↔ n < s.got := by omega
      simp [hn, hlt]

/-- The driver takes back a frame `q` that is out; the caller tells which frames stay in hand and in
the library. -/
theorem putBack
    {put : Int} (hand' : List Frame) (lib' : List Entity) (frames' : FrameInfo)
    (h : Balanced p hand s) (hput : 0 ≤ put) (hq : q ∈ s.out)
    (hpool : ∃ A, Pool frames' A (lib'.map Entity.slot))
    (hfiled : ∀ e ∈ lib', Filed p frames'.vf e)
    (hrest : s.out.erase q = hand' ++ lib'.map Entity.frame) :
  Balanced p hand' { (freeBsData p p.chNum p.subNum put q.queue s).2 with
    lib := lib', frames := frames' }
  := by
  have hsub := List.erase_sublist (a := q) (l := s.out)
  have hpos := List.length_pos_of_mem hq
  rw [freeBsData_eq hput h.offsets hq]
  constructor
  · apply hpool
  · apply hfiled
  · apply hrest
  · apply h.offsets.sublist (hsub.map _)
  · apply h.serials.sublist (hsub.map _)
  · intro f hf
    apply h.fresh f (hsub.subset hf)
  · simp only [addUsage, and_self, if_true, h.usage, List.length_erase_of_mem hq]
    omega
  · intro n
    have hputs := h.puts n
    have hn : n ∈ (s.out.map Frame.serial).erase q.serial
        ↔ n ≠ q.serial ∧ n ∈ s.out.map Frame.serial := h.serials.mem_erase_iff
    have hqs : q.serial ∈ s.out.map Frame.serial := List.mem_map_of_mem hq
    simp only [addUsage, map_erase_of_nodup h.serials hq, hn]
    by_cases heq : n = q.serial
    · subst heq
      simp [hputs, hqs, h.fresh q hq]
    · have hne : Event.put q.serial ≠ .put n := by
        simpa using fun hcon => heq hcon.symm
      rw [List.count_cons_of_ne hne, hputs]
      simp [heq]

/-- The exits of `write_rtp_frame` that give the frame `q` in hand back leave nothing in hand. -/
theorem free {put : Int} (h : Balanced p [q] s) (hput : 0 ≤ put) :
  Balanced p [] (freeBsData p p.chNum p.subNum put q.queue s).2
  := by
  have hq : q ∈ s.out := by simp [h.out]
  have hrest : s.out.erase q = [] ++ s.lib.map Entity.frame := by simp [h.out]
  have hback := putBack _ _ _ h hput hq h.pool h.filed hrest
  rw [freeBsData_eq hput h.offsets hq] at hback ⊢
  apply hback

/-- A write to the slot `fs` does not affect the contents of the slot of another entity `e`. -/
theorem filed_setVf
    {fs : SlotId} {f : VideoFrame → VideoFrame} {e : Entity}
    (h : Filed p s.frames.vf e) (hne : e.slot ≠ fs) :
  Filed p (setVf fs f s).frames.vf e
  := by
  refine ⟨h.type, h.data, ?_⟩
  rw [← h.slot]
  apply Function.update_of_ne hne

/-- After the two writes of `write_rtp_frame`, the slot `fs` holds the frame `q`. -/
theorem fill_contents (fs : SlotId) (s : Stream) :
  (fillQueue p q fs (fillKey p q fs s)).frames.vf fs = contents p q
  := by
  simp [fillQueue, fillKey, setVf, contents]

/-- After the two writes to the slot `fs`, the slots of the entities in the library are as
before. -/
theorem fill_filed
    {fs : SlotId} {e : Entity} (h : Filed p s.frames.vf e) (hne : e.slot ≠ fs) :
  Filed p (fillQueue p q fs (fillKey p q fs s)).frames.vf e
  := filed_setVf (filed_setVf h hne) hne

section Taken

variable {fs : SlotId} {frames : FrameInfo}

/-- What `take_video_frame` and the two writes to the slot leave: the slot is used, holds
the frame, and is none of those of the entities in the library. -/
theorem take (h : Balanced p hand s)
    (htake : takeVideoFrame p.qno s.frames = some (some fs, frames)) :
  let s' := fillQueue p q fs (fillKey p q fs { s with frames := frames })
  (∃ A, Pool s'.frames A (fs :: s.lib.map Entity.slot)) ∧ s'.frames.vf fs = contents p q
    ∧ ∀ e ∈ s.lib, Filed p s'.frames.vf e ∧ e.slot ≠ fs
  := by
  obtain ⟨A, hpool⟩ := h.pool
  obtain ⟨A', -, hpool', hvf⟩ := hpool.takeVideoFrame_inv p.qnoInRange htake
  have hne : ∀ e ∈ s.lib, e.slot ≠ fs := by
    rintro e he rfl
    apply (List.nodup_cons.mp hpool'.nodup_used).1
    apply List.mem_map_of_mem he
  constructor
  · use A'
    apply hpool'.vf
  · constructor
    · apply fill_contents
    · intro e he
      constructor
      · apply fill_filed _ (hne e he)
        have hfiled := h.filed e he
        use hfiled.type, hfiled.data
        rw [← hfiled.slot]
        apply congrFun hvf
      · apply hne e he

/-- The library accepts the entity of the frame `q` in hand, which is then in the library and no
more in hand. -/
theorem accept (h : Balanced p [q] s)
    (htake : takeVideoFrame p.qno s.frames = some (some fs, frames)) (tick : UInt32) :
  Balanced p []
    (Rtspd.accept (entityOf p q tick fs)
      (fillQueue p q fs (fillKey p q fs { s with frames := frames })))
  := by
  obtain ⟨hpool, hslot, hfiled⟩ := h.take htake
  constructor
  · apply hpool
  · intro e he
    rcases List.mem_cons.mp he with rfl | he
    · use rfl, rfl, hslot
    · apply (hfiled e he).1
  · apply h.out
  · apply h.offsets
  · apply h.serials
  · apply h.fresh
  · apply h.usage
  · apply h.puts

/-- The library refuses the entity of the frame `q`, and the slot is put back; the frame stays in
hand. -/
theorem putSlot (h : Balanced p [q] s)
    (htake : takeVideoFrame p.qno s.frames = some (some fs, frames)) :
  Balanced p [q]
    (Rtspd.putSlot p fs (fillQueue p q fs (fillKey p q fs { s with frames := frames })))
  := by
  obtain ⟨⟨A, hpool⟩, -, hfiled⟩ := h.take (q := q) htake
  have hput := hpool.putVideoFrame_mem p.qnoInRange List.mem_cons_self
  rw [List.erase_cons_head] at hput
  constructor
  · use fs :: A
    apply hput
  · intro e he
    have hold := (hfiled e he).1
    use hold.type, hold.data
    rw [Rtspd.putSlot, Pool.putVideoFrame_vf]
    apply hold.slot
  · apply h.out
  · apply h.offsets
  · apply h.serials
  · apply h.fresh
  · apply h.usage
  · apply h.puts

end Taken

/-- Noting a full queue in `congest` and putting the slot `fs` back commute. -/
theorem putSlot_refuse (fs : SlotId) (ret : Int) (s : Stream) :
  Rtspd.putSlot p fs (refuse ret s) = refuse ret (Rtspd.putSlot p fs s)
  := by
  unfold refuse
  split
  · rfl
  · rfl

/-! ### The two functions keep the account -/

/-- `write_rtp_frame` disposes of the frame `q` in hand, by giving it back or to the library. -/
theorem writeRtpFrame
    {enqueue put ret : Int} (h : Balanced p [q] s) (hput : 0 ≤ put)
    (hwrite : writeRtpFrame p enqueue put q s = some (ret, s')) :
  Balanced p [] s'
  := by
  unfold Rtspd.writeRtpFrame at hwrite
  dsimp only at hwrite
  split at hwrite
  · -- an event is pending
    obtain ⟨-, rfl⟩ := Prod.mk.inj (Option.some.inj hwrite)
    apply h.free hput
  · have hnvr := (((h.quiet (Quiet.startClock (n := q.serial) q s)).quiet
      (Quiet.serveIntra (n := q.serial) _)).quiet (Quiet.readPayload q .h264GetNALType _)).quiet
      (Quiet.sendToNvr p q (h264GetNALType q.payload q.queue.length) _)
    split at hwrite
    · -- nobody is watching
      obtain ⟨-, rfl⟩ := Prod.mk.inj (Option.some.inj hwrite)
      apply hnvr.free hput
    · split at hwrite
      · next fs frames htake =>
          split at hwrite
          · obtain ⟨-, rfl⟩ := Prod.mk.inj (Option.some.inj hwrite)
            apply free _ hput
            rw [putSlot_refuse]
            apply (hnvr.putSlot htake).quiet (Quiet.refuse (n := q.serial) enqueue _)
          · obtain ⟨-, rfl⟩ := Prod.mk.inj (Option.some.inj hwrite)
            apply quiet _ (Quiet.readPayload q _ _)
            apply hnvr.accept htake
      · contradiction

/-- `write_rtp_frame` comes to an end if there is a free slot `fs`. -/
theorem writeRtpFrame_isSome
    {A : List SlotId} {fs : SlotId} (hpool : Pool s.frames (fs :: A) (s.lib.map Entity.slot))
    (enqueue put : Int) :
  (Rtspd.writeRtpFrame p enqueue put q s).isSome
  := by
  unfold Rtspd.writeRtpFrame
  dsimp only
  split
  · rfl
  · have hquiet := (((Quiet.startClock (n := q.serial) q s).trans
      (Quiet.serveIntra (n := q.serial) _)).trans (Quiet.readPayload q .h264GetNALType _)).trans
      (Quiet.sendToNvr p q (h264GetNALType q.payload q.queue.length) _)
    obtain ⟨frames, htake, -⟩ := hpool.takeVideoFrame_cons p.qnoInRange
    split
    · rfl
    · rw [hquiet.frames, htake]
      dsimp only
      split
      · rfl
      · rfl

/-- `search_video_frame` for the address of an entity `e` in the library finds the slot of the
entity. -/
theorem search {e : Entity} (h : Balanced p hand s) (he : e ∈ s.lib) :
  searchVideoFrame e.data s.frames = some (some e.slot)
  := by
  obtain ⟨A, hpool⟩ := h.pool
  rw [hpool.searchVideoFrame_eq, List.find?_map]
  -- two entities in the library with the same address have the same frame
  have hunique : ∀ e' ∈ s.lib, (s.frames.vf e'.slot).searchKey = e.data → e'.slot = e.slot := by
    intro e' he' hkey
    rw [(h.filed e' he').slot, (h.filed e he).data] at hkey
    have hframes : (s.lib.map Entity.frame).Sublist s.out := by
      rw [h.out]
      apply List.sublist_append_right
    have hinj := List.inj_on_of_nodup_map
      (f := fun e : Entity => e.frame.queue.offset) (l := s.lib) (by
        have hnd := h.offsets.sublist (hframes.map (fun q => q.queue.offset))
        simpa [List.map_map, Function.comp_def] using hnd)
    rw [hinj he' he (dataOf_inj.mp hkey)]
  cases hfind : s.lib.find? ((fun x => (s.frames.vf x).searchKey = e.data) ∘ Entity.slot) with
  | none =>
      have hnone := List.find?_eq_none.mp hfind e he
      apply absurd _ hnone
      simp [(h.filed e he).slot, (h.filed e he).data, contents]
  | some e' =>
      have hkey := List.find?_some hfind
      rw [Option.map_some, hunique e' (List.mem_of_find?_eq_some hfind) (by simpa using hkey)]

/-- `frm_cb` for an entity `e` that the library held gives its frame and its slot back. -/
theorem frmCb {put : Int} {e : Entity} (h : Balanced p [] s) (hput : 0 ≤ put) (he : e ∈ s.lib) :
  ∃ s', frmCb p put e { s with lib := s.lib.erase e } = some (0, s') ∧ Balanced p [] s'
  := by
  have hfiled := h.filed e he
  obtain ⟨A, hpool⟩ := h.pool
  have hslot : e.slot ∈ s.lib.map Entity.slot := List.mem_map_of_mem he
  have hframe : e.frame ∈ s.out := by
    rw [h.out, List.nil_append]
    apply List.mem_map_of_mem he
  have hnd : (s.lib.map Entity.frame).Nodup := by
    have hout : s.out = s.lib.map Entity.frame := h.out
    rw [← hout]
    apply List.Nodup.of_map _ h.serials
  have hsearch : searchVideoFrame e.data s.frames = some (some e.slot) := h.search he
  have hvideo : gmSsVideoMin ≤ e.type ∧ e.type ≤ gmSsVideoMax := by
    rw [hfiled.type]
    apply p.video
  unfold Rtspd.frmCb
  rw [if_pos hvideo]
  simp only [hsearch, hfiled.slot, contents, p.inRange, Bool.false_eq_true, if_false]
  refine ⟨_, rfl, ?_⟩
  have hback := putBack [] (s.lib.erase e) (putVideoFrame p.qno e.slot s.frames) h hput hframe
    (by
      use e.slot :: A
      rw [map_erase_of_nodup hpool.nodup_used he]
      apply hpool.putVideoFrame_mem p.qnoInRange hslot)
    (by
      intro e' he'
      have hold := h.filed e' (List.mem_of_mem_erase he')
      use hold.type, hold.data
      rw [Pool.putVideoFrame_vf]
      apply hold.slot)
    (by
      rw [List.nil_append, map_erase_of_nodup hnd he, h.out, List.nil_append])
  rw [freeBsData_eq hput h.offsets hframe] at hback
  have heq := freeBsData_eq (p := p) (s := { s with lib := s.lib.erase e }) hput h.offsets hframe
  rw [heq]
  apply hback

/-- A step of the encoder loop for which the driver and the library are as assumed keeps the stream
`Balanced`. -/
theorem step
    {i : Input} (h : Balanced p [] s) (hi : Assumed s i) (hstep : serviceStep p s i = some s') :
  Balanced p [] s'
  := by
  cases i with
  | service ret enqueue queue payload tvSec tvUsec =>
      by_cases hret : 0 ≤ ret
      · obtain ⟨q, s₁, hget, hq⟩ := get payload tvSec tvUsec h hret (hi hret)
        simp only [serviceStep, hget, Int.not_lt.mpr hret, if_false] at hstep
        obtain ⟨⟨r, s₂⟩, hwrite, rfl⟩ := Option.map_eq_some_iff.mp hstep
        apply hq.writeRtpFrame (Int.le_refl 0) hwrite
      · simp only [serviceStep, getBsData_eq, hret, if_false, Int.not_le.mp hret,
          if_true] at hstep
        obtain rfl := Option.some.inj hstep
        apply h
  | frmCb e =>
      obtain ⟨s₁, hcb, hs₁⟩ := h.frmCb (Int.le_refl 0) hi
      rw [serviceStep, hcb] at hstep
      obtain rfl := Option.some.inj hstep
      apply hs₁
  | control c =>
      obtain rfl := Option.some.inj hstep
      apply h.quiet (n := 0)
      exact Quiet.of_eq rfl rfl rfl rfl rfl rfl

end Balanced

/-! ### Every frame is given back once -/

/-- The frames of `s` that were got and are not yet put back, as the log tells it. -/
def pending (s : Stream) : List Nat :=
  (List.range s.got).filter (fun n => .put n ∉ s.log)

/-- The frames that the log shows as `pending` are as many as the frames out of the driver. -/
theorem Balanced.length_pending {p : Live} {hand : List Frame} {s : Stream}
    (h : Balanced p hand s) :
  (pending s).length = s.out.length
  := by
  have hperm : (pending s).Perm (s.out.map Frame.serial) := by
    unfold pending
    rw [List.perm_ext_iff_of_nodup (List.Nodup.filter _ List.nodup_range) h.serials]
    intro n
    have hput : .put n ∉ s.log ↔ ¬ (n < s.got ∧ n ∉ s.out.map Frame.serial) := by
      rw [← List.count_eq_zero, h.puts n]
      split
      · simp_all
      · simp_all
    have hlt : n ∈ s.out.map Frame.serial → n < s.got := by
      intro hmem
      obtain ⟨q, hq, rfl⟩ := List.mem_map.mp hmem
      apply h.fresh q hq
    simp only [List.mem_filter, List.mem_range, decide_eq_true_eq, hput]
    tauto
  rw [hperm.length_eq, List.length_map]

/-- In every run of the encoder loop on a live stream, a frame that was got is put back
once, unless its entity is still with the library, in which case it was not put back; and
`buf_usage` is the number of frames pending and the length of the used list. -/
theorem frames_given_back_once
    {p : Live} {s t : Stream} {is : List Input} (hopen : Opened p s)
    (hrun : Run (serviceStep p) Assumed s is t) :
  (∀ n < t.got, t.log.count (.put n) = if n ∈ t.lib.map (fun e => e.frame.serial) then 0 else 1)
    ∧ t.bufUsage p.chNum p.subNum = (pending t).length
    ∧ getNumOfList t.frames.slots walkBound t.frames.used = some (pending t).length
  := by
  have h : Balanced p [] t :=
    hrun.invariant (fun _ _ _ hs hi hstep => hs.step hi hstep) (Balanced.of_opened hopen)
  have hout : t.out = t.lib.map Entity.frame := h.out
  obtain ⟨A, hpool⟩ := h.pool
  refine ⟨?_, ?_, ?_⟩
  · intro n hn
    rw [h.puts n, hout, List.map_map]
    simp only [hn, true_and, Function.comp_def]
    split
    · simp_all
    · simp_all
  · rw [h.length_pending]
    apply h.usage
  · rw [h.length_pending, hout, List.length_map, ← List.length_map (f := Entity.slot)]
    apply getNumOfList_eq hpool.used
    have hnum := hpool.number
    unfold walkBound
    omega

/-! ### A stream to try things on -/

/-- The main stream of channel 0, on queue 0, with the type `ENC_TYPE_H264`. -/
def mainStream : Live where
  chNum := 0
  subNum := 0
  qno := 0
  base := 4096
  encType := 0
  inRange := by decide
  qnoInRange := by decide
  encTypeValid := by decide

/-- Allocations of `init_video_frame` that yield the slots 0, 1, 2 and so on, and do not fail. -/
def mallocInOrder (i : Nat) : Option SlotId × Bool := (some i, true)

theorem mallocInOrder_fresh : Fresh mallocInOrder := by
  intro i j fs hi hj
  exact (Option.some.inj hi).trans (Option.some.inj hj).symm

/-- A queue as `init_video_frame` builds it in cleared memory, with the slots of `mallocInOrder`. -/
def newQueue : FrameInfo :=
  (initVideoFrame 0 true mallocInOrder
    { avail := none
      used := none
      slots := fun _ => ⟨none, none⟩
      vf := fun _ => ⟨0, 0, ⟨0, 0, 0, 0⟩, 0⟩ }).2

/-- A stream that has just been opened and that somebody is watching: `play` is set. -/
def newStream : Stream where
  control := ⟨0, 0, 0, 0, 1, 0, 0, 0⟩
  congest := 0
  tick := 0
  itvlFps := 0
  avgFps := 0
  itvlBps := 0
  avgBps := 0
  timeval := 0
  bufUsage := fun _ _ => 0
  sysTick := 0
  sysSec := 0
  frames := newQueue
  got := 0
  out := []
  lib := []
  log := []

/-- What the driver reports about a small frame at an `offset`; its length and its time are 0. -/
def smallFrame (offset : Int) : QueueGet := ⟨offset, 0, 0, 0⟩

theorem newStream_opened : Opened mainStream newStream where
  built := by
    use 0, true, mallocInOrder
    exact ⟨_, mallocInOrder_fresh, rfl⟩
  usage := rfl
  got := rfl
  out := rfl
  lib := rfl
  log := rfl

/-- The general `frames_given_back_once` at two frames: the library accepts the first and returns
it, and refuses the second.  Both are put back once. -/
theorem frames_given_back_once_newStream :
  ∃ t, Run (serviceStep mainStream) Assumed newStream
      [.service 0 0 (smallFrame 0) [] 0 0, .service 0 errFull (smallFrame 64) [] 0 0,
        .frmCb (entityOf mainStream ⟨0, smallFrame 0, []⟩ 0 5)] t
    ∧ (∀ n < t.got,
        t.log.count (.put n) = if n ∈ t.lib.map (fun e => e.frame.serial) then 0 else 1)
    ∧ t.bufUsage 0 0 = (pending t).length
    ∧ getNumOfList t.frames.slots walkBound t.frames.used = some (pending t).length
    ∧ t.got = 2
  := by
  obtain ⟨t, hrun, ht⟩ := Run.exists_of_exec (serviceStep mainStream) Assumed
    newStream (fun t => t.got == 2)
    [.service 0 0 (smallFrame 0) [] 0 0, .service 0 errFull (smallFrame 64) [] 0 0,
        .frmCb (entityOf mainStream ⟨0, smallFrame 0, []⟩ 0 5)] (by decide +kernel)
  obtain ⟨hput, husage, hused⟩ := frames_given_back_once newStream_opened hrun
  use t, hrun, hput, husage, hused
  simpa using ht

end Rtspd
