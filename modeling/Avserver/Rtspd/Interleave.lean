import Avserver.Rtspd.Service

/-!
# Two threads on a queue

The encoder thread and the callbacks of the streaming library run interleaved.
`Machine` is a live stream together with the place the encoder thread has reached in
`write_rtp_frame` and the callbacks that are in progress; `machineStep` lets one of them
make its next step.  The steps are those of `writeRtpFrame` and `frmCb`, cut at every
access to what they share: the critical sections under the mutex of the queue, the writes
to a slot outside of it, the calls of the driver and the library, the reads of payloads.
A null dereference and a walk without end leave the machine in a `fault`.

The last section settles when the payload of a frame is read after the frame was put back:
only if a callback puts back the frame that `write_rtp_frame` is still working on.
-/

namespace Rtspd

open Library

/-- The places in `write_rtp_frame` between which another thread can act: before the test of
the pending event, `H264GetNALType`, the network recorder, the test of `play`,
`take_video_frame`, the write of the search key, the writes of the rest of the slot,
`stream_media_enqueue`, `mt_write`, `put_video_frame` and `free_bs_data`. -/
inductive Point where
  | event | nal | nvr | play | take | key | fill | enqueue | mtWrite | putSlot | free
deriving DecidableEq

/-- The local variables of `write_rtp_frame`: the frame, its `tick` and its type, and the slot that
it is given. -/
structure Local where
  q : Frame
  tick : UInt32
  frameType : Nat
  fs : SlotId
deriving DecidableEq

/-- The places in `frm_cb`: before the search, before `free_bs_data`, and before
`put_video_frame`, the last two with the slot found. -/
inductive CbPoint where
  | search
  | free (fs : SlotId)
  | put (fs : SlotId)
deriving DecidableEq

/-- A call of `frm_cb` in progress for the entity `e`, at one of its places. -/
structure Callback where
  e : Entity
  pt : CbPoint
deriving DecidableEq

/-- A live stream and the threads that work on it: the encoder thread, and those of the library
that call `frm_cb`. -/
structure Machine where
  stream : Stream
  /-- where `write_rtp_frame` is; `none` while the encoder thread polls the driver -/
  enc : Option (Point × Local)
  cbs : List Callback
  fault : Bool

/-- Which thread moves, and what the driver, the library and the other threads of the server
contribute to its step. -/
inductive Move where
  /-- `get_bs_data`, with the result of the driver's call and the time -/
  | get (ret : Int) (queue : QueueGet) (payload : List UInt8) (tvSec tvUsec : Int)
  /-- the next step of `write_rtp_frame`, with the result of `stream_media_enqueue` -/
  | enc (enqueue : Int)
  /-- the library calls `frm_cb` for an entity -/
  | call (e : Entity)
  /-- the next step of the `i`-th callback in progress -/
  | cb (i : Nat)
  /-- another thread writes the fields it shares with the stream -/
  | control (c : Control)
deriving DecidableEq

/-- The machine `m` with its stream changed and the encoder thread moved on to the place `pt`. -/
def Machine.goto (m : Machine) (pt : Point) (l : Local) (s : Stream) : Machine :=
  { m with stream := s, enc := some (pt, l) }

/-- The machine `m` with its stream changed and `write_rtp_frame` left, so that the encoder thread
polls again. -/
def Machine.return (m : Machine) (s : Stream) : Machine :=
  { m with stream := s, enc := none }

/-- A step of `write_rtp_frame` from the place `pt` with the local variables `l`, and with the
result that `stream_media_enqueue` has there. -/
def encStep (p : Live) (m : Machine) (pt : Point) (l : Local) (enqueue : Int) : Machine :=
  let s := m.stream
  match pt with
  | .event =>
      if s.control.event ≠ noneBsEvent then m.goto .free l s
      else m.goto .nal { l with tick := (startClock l.q s).1 } (serveIntra (startClock l.q s).2)
  | .nal =>
      m.goto .nvr { l with frameType := h264GetNALType l.q.payload l.q.queue.length }
        (readPayload l.q .h264GetNALType s)
  | .nvr => m.goto .play l (sendToNvr p l.q l.frameType s)
  | .play => if s.control.play = 0 then m.goto .free l s else m.goto .take l s
  | .take =>
      match takeVideoFrame p.qno s.frames with
      | some (some fs, frames) => m.goto .key { l with fs := fs } { s with frames := frames }
      | _ => { m with fault := true }
  | .key => m.goto .fill l (fillKey p l.q l.fs s)
  | .fill => m.goto .enqueue l (fillQueue p l.q l.fs s)
  | .enqueue =>
      if enqueue < 0 then m.goto .putSlot l (refuse enqueue s)
      else m.goto .mtWrite l (accept (entityOf p l.q l.tick l.fs) s)
  | .mtWrite => m.return (writeMt p l.q l.tick l.frameType s)
  | .putSlot => m.goto .free l (putSlot p l.fs s)
  | .free => m.return (freeBsData p p.chNum p.subNum 0 l.q.queue s).2

/-- The event `ev` is noted in the log of the stream, in front of the earlier ones. -/
def note (ev : Event) (s : Stream) : Stream := { s with log := ev :: s.log }

/-- A step of the callback `c`, the `i`-th of those in progress: a search, a put or the end of
it. -/
def cbStep (p : Live) (m : Machine) (i : Nat) (c : Callback) : Machine :=
  let s := m.stream
  match c.pt with
  | .search =>
      if gmSsVideoMin ≤ c.e.type ∧ c.e.type ≤ gmSsVideoMax then
        match searchVideoFrame c.e.data s.frames with
        | some (some fs) =>
            { m with stream := note (.select c.e fs) s, cbs := m.cbs.set i ⟨c.e, .free fs⟩ }
        | _ => { m with fault := true }
      else { m with cbs := m.cbs.eraseIdx i }
  | .free fs =>
      let vf := s.frames.vf fs
      if channelError vf.chNum vf.subNum then { m with cbs := m.cbs.eraseIdx i }
      else
        { m with
          stream := note (.release c.e (takenBack p vf.chNum vf.queue s))
            (freeBsData p vf.chNum vf.subNum 0 vf.queue s).2
          cbs := m.cbs.set i ⟨c.e, .put fs⟩ }
  | .put fs =>
      { m with
        stream := note (.giveBack c.e fs) (putSlot p fs s)
        cbs := m.cbs.eraseIdx i }

/-- One step of the machine `m` by the move `mv`, with calls to the driver that succeed; `none`, if
the move cannot be made. -/
def machineStep (p : Live) (m : Machine) (mv : Move) : Option Machine :=
  if m.fault then none
  else
    match mv with
    | .get ret queue payload tvSec tvUsec =>
        match m.enc with
        | some _ => none
        | none =>
            match getBsData p.chNum p.subNum ret queue payload tvSec tvUsec m.stream with
            | (_, some q, s) => some (m.goto .event ⟨q, 0, 0, 0⟩ s)
            | (_, none, s) => some (m.return s)
    | .enc enqueue => m.enc.map (fun (pt, l) => encStep p m pt l enqueue)
    | .call e =>
        if e ∈ m.stream.lib then
          some { m with
            stream := { m.stream with lib := m.stream.lib.erase e }
            cbs := m.cbs ++ [⟨e, .search⟩] }
        else none
    | .cb i => m.cbs[i]?.map (cbStep p m i)
    | .control c => some { m with stream := { m.stream with control := c } }

/-- What the driver promises: an offset that is handed out is not that of a frame in `out`, which
has not been put back. -/
def Driver (m : Machine) : Move → Prop
  | .get ret queue _ _ _ => 0 ≤ ret → ∀ q ∈ m.stream.out, q.queue.offset ≠ queue.offset
  | _ => True

instance (m : Machine) : (mv : Move) → Decidable (Driver m mv)
  | .get ret queue _ _ _ =>
      inferInstanceAs
        (Decidable (0 ≤ ret → ∀ q ∈ m.stream.out, q.queue.offset ≠ queue.offset))
  | .enc _ => inferInstanceAs (Decidable True)
  | .call _ => inferInstanceAs (Decidable True)
  | .cb _ => inferInstanceAs (Decidable True)
  | .control _ => inferInstanceAs (Decidable True)

/-- A machine `m` whose stream `p` has just been opened: no thread is at work on it, and there is no
fault. -/
structure Started (p : Live) (m : Machine) : Prop where
  opened : Opened p m.stream
  enc : m.enc = none
  cbs : m.cbs = []
  fault : m.fault = false

/-! ### Reads of payloads -/

/-- No payload is read after its frame was put back: among the events in `log` before a read, none
puts the frame back. -/
def ReadsBeforePut (log : List Event) : Prop :=
  ∀ l₁ l₂ n r, log = l₁ ++ .read n r :: l₂ → .put n ∉ l₂

/-- The places from which `write_rtp_frame` has still to read the payload of its frame, or
may have to. -/
def Point.reads : Point → Bool
  | .putSlot | .free => false
  | _ => true

/-- The move is not the step of a callback that gives back the frame which
`write_rtp_frame` is working on and may still have to pass to `mt_write`. -/
def NoEarlyPut (p : Live) (m : Machine) : Move → Prop
  | .cb i =>
      match m.cbs[i]?, m.enc with
      | some ⟨_, .free fs⟩, some (pt, l) =>
          pt.reads →
            takenBack p (m.stream.frames.vf fs).chNum (m.stream.frames.vf fs).queue m.stream
              ≠ some l.q
      | _, _ => True
  | _ => True

instance (p : Live) (m : Machine) : DecidablePred (NoEarlyPut p m)
  | .cb i => by
      obtain ⟨stream, enc, cbs, fault⟩ := m
      dsimp only [NoEarlyPut]
      split
      · infer_instance
      · infer_instance
  | .get .. | .enc _ | .call _ | .control _ => instDecidableTrue

theorem ReadsBeforePut.nil : ReadsBeforePut [] := by
  intro l₁ l₂ n r h
  simp at h

/-- An event `ev` that is not a read keeps the reads of the `log` before the puts. -/
theorem ReadsBeforePut.cons
    {log : List Event} {ev : Event} (h : ReadsBeforePut log)
    (hev : ∀ n r, ev = .read n r → .put n ∉ log) :
  ReadsBeforePut (ev :: log)
  := by
  intro l₁ l₂ n r heq
  cases l₁ with
  | nil =>
      obtain ⟨rfl, rfl⟩ := List.cons.inj heq
      apply hev n r rfl
  | cons ev' l₁ => apply h l₁ l₂ n r (List.cons.inj heq).2

/-- Events `evs` that are not puts, and read only frames not put back, keep the reads before the
puts. -/
theorem ReadsBeforePut.append
    {log evs : List Event} (h : ReadsBeforePut log)
    (hevs : ∀ ev ∈ evs, (∀ n, ev ≠ .put n) ∧ ∀ n r, ev = .read n r → .put n ∉ log) :
  ReadsBeforePut (evs ++ log)
  := by
  induction evs with
  | nil => apply h
  | cons ev evs ih =>
      have hevs' := fun ev' hev' => hevs ev' (List.mem_cons_of_mem ev hev')
      apply ReadsBeforePut.cons (ih hevs')
      intro n r heq hput
      rcases List.mem_append.mp hput with hput | hput
      · apply (hevs' _ hput).1 n rfl
      · apply (hevs ev List.mem_cons_self).2 n r heq hput

/-- `Still n s s'`: from `s` to `s'` the driver hands out no frame and takes none back; the
payload of frame `n` may be read and intra frames asked for. -/
structure Still (n : Nat) (s s' : Stream) : Prop where
  got : s'.got = s.got
  out : s'.out = s.out
  log : ∃ l, s'.log = l ++ s.log ∧ ∀ ev ∈ l, ev = .resetIntra ∨ ∃ r, ev = .read n r

theorem Quiet.still {n : Nat} {s s' : Stream} (h : Quiet n s s') : Still n s s' :=
  ⟨h.got, h.out, h.log⟩

/-- A step from `s` to `s'` that changes none of the driver's fields is still for the frame `n`. -/
theorem Still.of_eq
    {n : Nat} {s s' : Stream} (got : s'.got = s.got) (out : s'.out = s.out)
    (log : s'.log = s.log) :
  Still n s s'
  := ⟨got, out, [], by simp [log]⟩

/-- Up to `free_bs_data`, the steps of `write_rtp_frame` leave the driver alone, and read the
payload of its own frame only. -/
theorem encStep_still
    {p : Live} {pt : Point} (m : Machine) (l : Local) (enqueue : Int) (hpt : pt ≠ .free) :
  Still l.q.serial m.stream (encStep p m pt l enqueue).stream
  := by
  cases pt with
  | event =>
      simp only [encStep]
      split
      · exact Still.of_eq rfl rfl rfl
      · exact ((Quiet.startClock l.q m.stream).trans (Quiet.serveIntra _)).still
  | nal => exact (Quiet.readPayload l.q _ m.stream).still
  | nvr => exact (Quiet.sendToNvr p l.q l.frameType m.stream).still
  | play =>
      simp only [encStep]
      split
      · exact Still.of_eq rfl rfl rfl
      · exact Still.of_eq rfl rfl rfl
  | take =>
      simp only [encStep]
      split
      · exact Still.of_eq rfl rfl rfl
      · exact Still.of_eq rfl rfl rfl
  | key => exact Still.of_eq rfl rfl rfl
  | fill => exact Still.of_eq rfl rfl rfl
  | enqueue =>
      simp only [encStep]
      split
      · exact (Quiet.refuse enqueue m.stream).still
      · exact Still.of_eq rfl rfl rfl
  | mtWrite => exact (Quiet.readPayload l.q _ m.stream).still
  | putSlot => exact Still.of_eq rfl rfl rfl
  | free => contradiction

/-- `write_rtp_frame` works on one frame, and does not come back to a place from which the
payload is read. -/
theorem encStep_enc
    {p : Live} {m : Machine} {pt pt' : Point} {l l' : Local} {enqueue : Int}
    (hm : m.enc = some (pt, l)) (h : (encStep p m pt l enqueue).enc = some (pt', l')) :
  l'.q = l.q ∧ (pt'.reads → pt.reads)
  := by
  cases pt with
  | free => cases h
  | mtWrite => cases h
  | event | play | take | enqueue =>
      simp only [encStep] at h
      split at h
      · simp only [Machine.goto, Option.some.injEq, Prod.mk.injEq] at h
        obtain ⟨rfl, rfl⟩ := h
        simp [Point.reads]
      · simp only [Machine.goto, hm, Option.some.injEq, Prod.mk.injEq] at h
        obtain ⟨rfl, rfl⟩ := h
        simp [Point.reads]
  | nal | nvr | key | fill | putSlot =>
      simp only [encStep, Machine.goto, Option.some.injEq, Prod.mk.injEq] at h
      obtain ⟨rfl, rfl⟩ := h
      simp [Point.reads]

@[simp]
theorem queuePut_got (p : Live) (chNum : Int) (queue : QueueGet) (s : Stream) :
  (queuePut p chNum queue s).got = s.got
  := by
  unfold queuePut
  split
  · rfl
  · rfl

/-- The frames that the driver has handed out have not been put back, and the frame of
`write_rtp_frame` is one of them as long as its payload may be read. -/
structure Readable (m : Machine) : Prop where
  fresh : ∀ q ∈ m.stream.out, q.serial < m.stream.got
  serials : (m.stream.out.map Frame.serial).Nodup
  puts : ∀ n, .put n ∈ m.stream.log → n < m.stream.got ∧ n ∉ m.stream.out.map Frame.serial
  reads : ReadsBeforePut m.stream.log
  hand : ∀ pt l, m.enc = some (pt, l) → pt.reads → l.q ∈ m.stream.out

namespace Readable

variable {p : Live} {m m' : Machine} {s : Stream}

theorem of_started (h : Started p m) :
  Readable m
  := by
  have hopen := h.opened
  constructor
  · simp [hopen.out]
  · simp [hopen.out]
  · simp [hopen.log]
  · rw [hopen.log]
    apply ReadsBeforePut.nil
  · simp [h.enc]

/-- Steps that leave the driver alone, and read at most the payload of a frame that is out of it,
keep the machine `Readable`. -/
theorem still {n : Nat} (h : Readable m) (hstill : Still n m.stream m'.stream)
    (hread : n ∈ m.stream.out.map Frame.serial ∨ m'.stream.log = m.stream.log)
    (hhand : ∀ pt l, m'.enc = some (pt, l) → pt.reads → l.q ∈ m.stream.out) :
  Readable m'
  := by
  obtain ⟨hgot, hout, evs, hlog, hevs⟩ := hstill
  constructor
  · rw [hout, hgot]
    apply h.fresh
  · rw [hout]
    apply h.serials
  · intro k hk
    rw [hlog] at hk
    rw [hout, hgot]
    rcases List.mem_append.mp hk with hk | hk
    · rcases hevs _ hk with heq | ⟨r, heq⟩
      · contradiction
      · contradiction
    · apply h.puts k hk
  · rcases hread with hn | hsame
    · rw [hlog]
      apply h.reads.append
      intro ev hev
      rcases hevs ev hev with rfl | ⟨r, rfl⟩
      · simp
      · constructor
        · simp
        · rintro k r' heq hput
          obtain ⟨rfl, -⟩ := Event.read.inj heq
          apply (h.puts _ hput).2 hn
    · rw [hsame]
      apply h.reads
  · rw [hout]
    apply hhand

/-- Steps that change nothing of what the reads depend on keep the machine `Readable`. -/
theorem same
    (h : Readable m) (got : m'.stream.got = m.stream.got) (out : m'.stream.out = m.stream.out)
    (log : m'.stream.log = m.stream.log)
    (hand : ∀ pt l, m'.enc = some (pt, l) → pt.reads → l.q ∈ m.stream.out) :
  Readable m'
  := h.still (n := 0) (Still.of_eq got out log) (.inr log) hand

/-- The driver is given a frame back, and it is not the one that `write_rtp_frame` may still
read. -/
theorem queuePut
    (h : Readable m) (chNum : Int) (queue : QueueGet)
    (hgot : m'.stream.got = m.stream.got)
    (hout : m'.stream.out = (queuePut p chNum queue m.stream).out)
    (hlog : m'.stream.log = (queuePut p chNum queue m.stream).log)
    (hhand : ∀ pt l, m'.enc = some (pt, l) → pt.reads → m.enc = some (pt, l)
      ∧ takenBack p chNum queue m.stream ≠ some l.q) :
  Readable m'
  := by
  cases htaken : takenBack p chNum queue m.stream with
  | none =>
      simp only [Rtspd.queuePut, htaken] at hout hlog
      apply h.still (n := 0) (Still.of_eq hgot hout hlog) (.inr hlog)
      intro pt l henc hreads
      apply h.hand pt l (hhand pt l henc hreads).1 hreads
  | some q =>
      simp only [Rtspd.queuePut, htaken] at hout hlog
      have hq : q ∈ m.stream.out := by
        rw [takenBack] at htaken
        split at htaken
        · apply List.mem_of_find?_eq_some htaken
        · contradiction
      have hsub := List.erase_sublist (a := q) (l := m.stream.out)
      constructor
      · rw [hgot, hout]
        intro f hf
        apply h.fresh f (hsub.subset hf)
      · rw [hout]
        apply h.serials.sublist (hsub.map _)
      · intro n hn
        rw [hgot, hout, map_erase_of_nodup h.serials hq]
        rw [hlog] at hn
        rcases List.mem_cons.mp hn with heq | hn
        · obtain rfl := Event.put.inj heq
          use h.fresh q hq
          rw [h.serials.mem_erase_iff]
          simp
        · obtain ⟨hlt, hmem⟩ := h.puts n hn
          use hlt
          intro hcon
          apply hmem (List.mem_of_mem_erase hcon)
      · rw [hlog]
        apply h.reads.cons
        rintro n r heq
        contradiction
      · intro pt l henc hreads
        obtain ⟨hm, hne⟩ := hhand pt l henc hreads
        rw [hout]
        apply (List.mem_erase_of_ne _).mpr (h.hand pt l hm hreads)
        rintro heq
        apply hne
        rw [htaken, heq]

/-- If something is noted that is neither a read nor a put, then the machine stays `Readable`. -/
theorem note
    {ev : Event} (h : Readable m) (hstream : m'.stream = note ev m.stream)
    (henc : m'.enc = m.enc) (hput : ∀ n, ev ≠ .put n) (hread : ∀ n r, ev ≠ .read n r) :
  Readable m'
  := by
  constructor
  · rw [hstream]
    apply h.fresh
  · rw [hstream]
    apply h.serials
  · rw [hstream]
    intro n hn
    rcases List.mem_cons.mp hn with heq | hn
    · apply absurd heq.symm (hput n)
    · apply h.puts n hn
  · rw [hstream]
    apply ReadsBeforePut.cons h.reads
    intro n r heq
    apply absurd heq (hread n r)
  · rw [hstream, henc]
    apply h.hand

/-- A frame `q` that the driver hands out has not been put back, and so may be read. -/
theorem get
    {ret : Int} {queue : QueueGet} {payload : List UInt8} {tvSec tvUsec r : Int} {q : Frame}
    (h : Readable m)
    (hget : getBsData p.chNum p.subNum ret queue payload tvSec tvUsec m.stream
      = (r, some q, s)) :
  Readable (m.goto .event ⟨q, 0, 0, 0⟩ s)
  := by
  rw [getBsData_eq] at hget
  split at hget
  · obtain ⟨-, rfl, rfl⟩ : _ ∧ _ ∧ _ := by simpa using hget
    have hnew : m.stream.got ∉ m.stream.out.map Frame.serial := by
      intro hmem
      obtain ⟨f, hf, heq⟩ := List.mem_map.mp hmem
      apply Nat.ne_of_lt (h.fresh f hf) heq
    have hout : Readable (m.goto .event ⟨⟨m.stream.got, queue, payload⟩, 0, 0, 0⟩
        (addUsage p.chNum p.subNum 1 (queueGet queue payload m.stream).2)) := by
      constructor
      · intro f hf
        rcases List.mem_cons.mp hf with rfl | hf
        · apply Nat.lt_succ_self
        · apply Nat.lt_succ_of_lt (h.fresh f hf)
      · simp only [Machine.goto, addUsage, queueGet, List.map_cons, List.nodup_cons]
        use hnew, h.serials
      · intro n hn
        rcases List.mem_cons.mp hn with heq | hn
        · contradiction
        · obtain ⟨hlt, hmem⟩ := h.puts n hn
          use Nat.lt_succ_of_lt hlt
          simp only [Machine.goto, addUsage, queueGet, List.map_cons, List.mem_cons, not_or]
          use Nat.ne_of_lt hlt, hmem
      · apply ReadsBeforePut.cons h.reads
        intro n r heq
        contradiction
      · intro pt' l' henc _
        obtain ⟨-, rfl⟩ := Prod.mk.inj (Option.some.inj henc)
        apply List.mem_cons_self
    apply hout.still (Quiet.encAverage tvSec tvUsec queue.length _).still
    · apply Or.inl List.mem_cons_self
    · apply hout.hand
  · simp at hget

/-- A step of the callback `c` that does not put back the frame at hand keeps the machine
`Readable`. -/
theorem callback
    {i : Nat} {c : Callback} (h : Readable m) (hc : m.cbs[i]? = some c)
    (hcb : NoEarlyPut p m (.cb i)) :
  Readable (cbStep p m i c)
  := by
  obtain ⟨e, pt⟩ := c
  cases pt with
  | search =>
      simp only [cbStep]
      split
      · split
        · exact h.note rfl rfl (by simp) (by simp)
        · exact h.same rfl rfl rfl h.hand
      · exact h.same rfl rfl rfl h.hand
  | free fs =>
      simp only [NoEarlyPut, hc] at hcb
      simp only [cbStep]
      split
      · exact h.same rfl rfl rfl h.hand
      · next hrange =>
          let vf := m.stream.frames.vf fs
          have hput : Readable
              { m with stream := (freeBsData p vf.chNum vf.subNum 0 vf.queue m.stream).2 } := by
            apply h.queuePut (p := p) vf.chNum vf.queue
            · simp [freeBsData, hrange, vf, addUsage]
            · simp [freeBsData, hrange, vf, addUsage]
            · simp [freeBsData, hrange, vf, addUsage]
            · intro pt l henc hreads
              use henc
              rw [henc] at hcb
              exact hcb hreads
          exact hput.note rfl rfl (by simp) (by simp)
  | put fs =>
      have hput : Readable { m with stream := putSlot p fs m.stream } :=
        h.same rfl rfl rfl h.hand
      exact hput.note rfl rfl (by simp) (by simp)

/-- A move `mv` that satisfies `NoEarlyPut` keeps the frame at hand readable. -/
theorem step
    {mv : Move} (h : Readable m) (hmv : NoEarlyPut p m mv)
    (hstep : machineStep p m mv = some m') :
  Readable m'
  := by
  unfold machineStep at hstep
  split at hstep
  · contradiction
  · cases mv with
    | get ret queue payload tvSec tvUsec =>
        dsimp only at hstep
        split at hstep
        · contradiction
        · split at hstep
          · next hget =>
              obtain rfl := Option.some.inj hstep
              apply h.get hget
          · next henc s hget =>
              obtain rfl := Option.some.inj hstep
              rw [getBsData_eq] at hget
              split at hget
              · simp at hget
              · obtain ⟨-, rfl⟩ : _ ∧ _ := by simpa using hget
                exact h.same rfl rfl rfl (by simp [Machine.return])
    | enc enqueue =>
        obtain ⟨⟨pt, l⟩, henc, rfl⟩ := Option.map_eq_some_iff.mp hstep
        by_cases hfree : pt = .free
        · subst hfree
          apply h.queuePut (p := p) p.chNum l.q.queue
          · simp [encStep, Machine.return, freeBsData, p.inRange, addUsage]
          · simp [encStep, Machine.return, freeBsData, p.inRange, addUsage]
          · simp [encStep, Machine.return, freeBsData, p.inRange, addUsage]
          · simp [encStep, Machine.return]
        · apply h.still (encStep_still m l enqueue hfree)
          · by_cases hreads : pt.reads
            · apply Or.inl
              apply List.mem_map_of_mem (h.hand pt l henc hreads)
            · obtain rfl : pt = .putSlot := by
                cases pt <;> simp_all [Point.reads]
              apply Or.inr rfl
          · intro pt' l' henc' hreads
            obtain ⟨hq, hpt⟩ := encStep_enc henc henc'
            rw [hq]
            apply h.hand pt l henc (hpt hreads)
    | call e =>
        dsimp only at hstep
        split at hstep
        · obtain rfl := Option.some.inj hstep
          exact h.same rfl rfl rfl h.hand
        · contradiction
    | cb i =>
        obtain ⟨c, hc, rfl⟩ := Option.map_eq_some_iff.mp hstep
        apply h.callback hc hmv
    | control c =>
        obtain rfl := Option.some.inj hstep
        exact h.same rfl rfl rfl h.hand

end Readable

/-- In every run of the machine in which no callback gives back the frame that
`write_rtp_frame` may still have to pass to `mt_write`, no payload is read after its frame
was put back. -/
theorem payload_read_before_put
    {p : Live} {m t : Machine} {mvs : List Move} (hstart : Started p m)
    (hrun : Run (machineStep p) (NoEarlyPut p) m mvs t) :
  ReadsBeforePut t.stream.log
  := by
  have h : Readable t :=
    hrun.invariant (fun _ _ _ hm hmv hstep => hm.step hmv hstep) (Readable.of_started hstart)
  apply h.reads

/-! ### Runs of the new stream -/

/-- The machine of the stream `newStream`, with no thread at work on it and no fault. -/
def newMachine : Machine := ⟨newStream, none, [], false⟩

theorem newMachine_started : Started mainStream newMachine :=
  ⟨newStream_opened, rfl, rfl, rfl⟩

/-- The encoder thread gets a small frame at an offset and makes `n` steps with it, in
`write_rtp_frame`. -/
def serve (offset : Int) (n : Nat) (enqueue : Int) : List Move :=
  .get 0 (smallFrame offset) [] 0 0 :: List.replicate n (.enc enqueue)

/-- The entity of the small frame at an `offset`, by its number and its slot. -/
def smallEntity (serial : Nat) (offset : Int) (fs : SlotId) : Entity :=
  entityOf mainStream ⟨serial, smallFrame offset, []⟩ 0 fs

/-- The general `payload_read_before_put` at a frame that is passed to `mt_write` before its
callback puts it back. -/
theorem payload_read_before_put_newMachine :
  ∃ t, Run (machineStep mainStream) (NoEarlyPut mainStream) newMachine
      (serve 0 9 0 ++ [.call (smallEntity 0 0 5), .cb 0, .cb 0, .cb 0]) t
    ∧ ReadsBeforePut t.stream.log ∧ .put 0 ∈ t.stream.log
  := by
  obtain ⟨t, hrun, ht⟩ := Run.exists_of_exec (machineStep mainStream)
    (NoEarlyPut mainStream) newMachine (fun t => t.stream.log.contains (.put 0))
    (serve 0 9 0 ++ [.call (smallEntity 0 0 5), .cb 0, .cb 0, .cb 0]) (by decide +kernel)
  use t, hrun, payload_read_before_put newMachine_started hrun
  simpa using ht

/-- The last event of the log is that a frame is read which has been put back by `DVR_ENC_QUEUE_PUT`
before. -/
def readsPut : List Event → Bool
  | .read n _ :: log => log.contains (.put n)
  | _ => false

/-- The library calls back for an entity before `write_rtp_frame` has returned, and the
frame is put back before it is passed to `mt_write`. -/
theorem payload_read_after_put :
  ∃ t, Run (machineStep mainStream) Driver newMachine
      (serve 0 8 0 ++ [.call (smallEntity 0 0 5), .cb 0, .cb 0, .enc 0]) t
    ∧ ¬ ReadsBeforePut t.stream.log
  := by
  obtain ⟨t, hrun, ht⟩ := Run.exists_of_exec (machineStep mainStream)
    Driver newMachine (fun t => readsPut t.stream.log)
    (serve 0 8 0 ++ [.call (smallEntity 0 0 5), .cb 0, .cb 0, .enc 0])
    (by decide +kernel)
  use t, hrun
  intro hreads
  unfold readsPut at ht
  split at ht
  · next n r log hlog =>
      apply hreads [] log n r hlog
      simpa using ht
  · contradiction

end Rtspd
