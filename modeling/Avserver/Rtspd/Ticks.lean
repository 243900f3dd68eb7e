import Avserver.Library.Counter
import Avserver.Rtspd.Service

/-!
# The clock of the video streams

`get_tick` of `rtspd.c` converts a time to ticks of 90 kHz.  It does so by two variables that all
streams share: a count of ticks, moved on by each call from the second of the call before to its
own.  The amounts telescope, so that the tick of a time does not depend on the calls made before
(`ticks_eq`), and the entities of a stream carry the ticks of the time stamps of their frames
(`timestamps_eq`).  The difference that `timediff` takes of two ticks is that of their times as
long as the count does not go around between them (`timediff_exact_iff`); if it does, the
difference is one tick short.
-/

namespace Rtspd

open Library

/-- A `struct timeval` that is normalised: its microseconds are fewer than those of a second. -/
structure TimeVal where
  sec : Int
  usec : Int
  normal : 0 ≤ usec ∧ usec < 1000000

/-- The time `tv` in microseconds, which orders the times. -/
def TimeVal.micros (tv : TimeVal) : Int := tv.sec * 1000000 + tv.usec

/-- `sys_tick` and `sys_sec` -/
structure Clock where
  sysTick : UInt32
  sysSec : Int

/-- The clock that `init_resources` sets up at the time of day `now`. -/
def initResources (now : TimeVal) : Clock := ⟨0, now.sec⟩

/-- A call of `get_tick`: by one of the streams, with a time stamp or without one, and the time of
day of the call. -/
structure TickCall where
  chNum : Int
  subNum : Int
  tv : Option TimeVal
  now : TimeVal

/-- The time that the call `c` converts: the one it is given, or the time of day. -/
def TickCall.tval (c : TickCall) : TimeVal := c.tv.getD c.now

/-- `get_tick` -/
def Clock.getTick (c : TickCall) (clock : Clock) : UInt32 × Clock :=
  let tvSec := c.tval.sec - clock.sysSec
  let sysTick := clock.sysTick + UInt32.ofInt (tvSec * rtpHz)
  let tick := UInt32.ofInt ((c.tval.usec * rtpHz.tdiv 1000).tdiv 1000)
  (tick + sysTick, ⟨sysTick, c.tval.sec⟩)

/-- The results of a sequence of calls of `get_tick`, one behind the other. -/
def ticks (clock : Clock) : List TickCall → List UInt32
  | [] => []
  | c :: cs => (clock.getTick c).1 :: ticks (clock.getTick c).2 cs

/-- The number of ticks of 90 kHz from the start of the second `s₀` to the time `tv`. -/
def tickCount (s₀ : Int) (tv : TimeVal) : Int := (tv.sec - s₀) * 90000 + tv.usec * 90 / 1000

/-- The count of ticks in `clock` is that of the seconds since `s₀`, when the clock was set up. -/
def Clock.Kept (s₀ : Int) (clock : Clock) : Prop :=
  clock.sysTick = UInt32.ofInt ((clock.sysSec - s₀) * rtpHz)

variable {s₀ : Int}

section Calls

variable {clock : Clock}

theorem initResources_kept (now : TimeVal) : (initResources now).Kept now.sec := by
  rw [Clock.Kept, initResources, Int.sub_self, Int.zero_mul]
  rfl

/-- The part of the tick of `tv` within its second, as `get_tick` computes it. -/
theorem tick_usec (tv : TimeVal) :
  (tv.usec * rtpHz.tdiv 1000).tdiv 1000 = tv.usec * 90 / 1000
  := Int.tdiv_eq_ediv_of_nonneg (Int.mul_nonneg tv.normal.1 (by decide))

/-- A call of `get_tick` returns the tick of its time, and moves the count of ticks to its
second. -/
theorem Clock.Kept.getTick (h : clock.Kept s₀) (c : TickCall) :
  (clock.getTick c).1 = UInt32.ofInt (tickCount s₀ c.tval) ∧ (clock.getTick c).2.Kept s₀
  := by
  have hnext : clock.sysTick + UInt32.ofInt ((c.tval.sec - clock.sysSec) * rtpHz)
      = UInt32.ofInt ((c.tval.sec - s₀) * rtpHz) := by
    rw [h, ← UInt32.ofInt_add, ← Int.add_mul]
    congr 2
    omega
  constructor
  · rw [tickCount, Int.add_comm, UInt32.ofInt_add, ← tick_usec]
    exact congrArg (_ + ·) hnext
  · exact hnext

theorem Clock.Kept.ticks (h : clock.Kept s₀) (calls : List TickCall) :
  Rtspd.ticks clock calls = calls.map fun c => UInt32.ofInt (tickCount s₀ c.tval)
  := by
  induction calls generalizing clock with
  | nil => rfl
  | cons c calls ih => rw [Rtspd.ticks, List.map_cons, (h.getTick c).1, ih (h.getTick c).2]

/-- In every sequence of calls, by any streams and with any times, each returns the ticks from the
second of the start to its time, up to multiples of `2 ^ 32`. -/
theorem ticks_eq (now : TimeVal) (calls : List TickCall) :
  (ticks (initResources now) calls).map (fun t => (t.toNat : Int))
    = calls.map fun c =>
        ((c.tval.sec - now.sec) * 90000 + c.tval.usec * 90 / 1000) % 2 ^ 32
  := by
  rw [(initResources_kept now).ticks calls, List.map_map]
  apply List.map_congr_left
  intro c _
  apply toNat_ofInt

end Calls

/-! ### Differences of ticks -/

section Differences

/-- The `timediff` of two ticks `p` and `c`, with one tick missing if the count goes around. -/
theorem timediff_toNat (p c : UInt32) :
  (timediff p c).toNat
    = if p.toNat ≤ c.toNat then c.toNat - p.toNat else 2 ^ 32 - 1 - p.toNat + c.toNat
  := by
  unfold timediff
  split
  · next h =>
      rw [if_pos (UInt32.le_iff_toNat_le.mp h), UInt32.toNat_sub_of_le _ _ h]
  · next h =>
      have hlt : ¬ p.toNat ≤ c.toNat := fun hcon => h (UInt32.le_iff_toNat_le.mpr hcon)
      have hp := p.toNat_lt
      have hle : p ≤ 0xffffffff := UInt32.le_iff_toNat_le.mpr (by
        show p.toNat ≤ 2 ^ 32 - 1
        omega)
      rw [if_neg hlt, UInt32.toNat_add, UInt32.toNat_sub_of_le _ _ hle]
      show (2 ^ 32 - 1 - p.toNat + c.toNat) % 2 ^ 32 = _
      omega

/-- The exact count of ticks at the time `tv`, from any state of the clock. -/
def Clock.countAt (clock : Clock) (tv : TimeVal) : Int :=
  clock.sysTick.toNat + tickCount clock.sysSec tv

/-- The clock behind the sequence `calls` of calls of `get_tick`. -/
def Clock.after (clock : Clock) (calls : List TickCall) : Clock :=
  calls.foldl (fun clock c => (clock.getTick c).2) clock

variable {clock : Clock}

theorem ofInt_toNat (n : UInt32) : UInt32.ofInt n.toNat = n := by
  apply UInt32.toNat_inj.mp
  have h := toNat_ofInt n.toNat
  have hlt := n.toNat_lt
  omega

/-- A call `c` of `get_tick` returns the count of ticks at its time, as a number of 32 bits. -/
theorem Clock.getTick_fst (clock : Clock) (c : TickCall) :
  (clock.getTick c).1 = UInt32.ofInt (clock.countAt c.tval)
  := by
  rw [Clock.countAt, UInt32.ofInt_add, ofInt_toNat, tickCount, UInt32.ofInt_add, ← UInt32.add_assoc,
    UInt32.add_comm, ← tick_usec]
  rfl

/-- The counts of ticks that a call `c` leaves are those from before, as numbers of 32 bits. -/
theorem Clock.countAt_getTick (clock : Clock) (c : TickCall) (tv : TimeVal) :
  (clock.getTick c).2.countAt tv % 2 ^ 32 = clock.countAt tv % 2 ^ 32
  := by
  have hnext : (clock.getTick c).2.sysTick
      = clock.sysTick + UInt32.ofInt ((c.tval.sec - clock.sysSec) * rtpHz) := rfl
  have hsec : (clock.getTick c).2.sysSec = c.tval.sec := rfl
  have hsum := UInt32.toNat_add clock.sysTick (UInt32.ofInt ((c.tval.sec - clock.sysSec) * rtpHz))
  have hmove : ((UInt32.ofInt ((c.tval.sec - clock.sysSec) * rtpHz)).toNat : Int)
      = (c.tval.sec - clock.sysSec) * 90000 % 2 ^ 32 := toNat_ofInt _
  rw [Clock.countAt, Clock.countAt, hnext, hsec, tickCount, tickCount]
  omega

theorem Clock.countAt_after (clock : Clock) (calls : List TickCall) (tv : TimeVal) :
  (clock.after calls).countAt tv % 2 ^ 32 = clock.countAt tv % 2 ^ 32
  := by
  induction calls generalizing clock with
  | nil => rfl
  | cons c calls ih => exact (ih (clock.getTick c).2).trans (clock.countAt_getTick c tv)

/-- The `timediff` of the ticks of two times, with one tick missing if the count has gone around
between them. -/
theorem timediff_ofInt {a b : Int} (hab : a ≤ b) (hlt : b - a < 2 ^ 32) :
  ((timediff (UInt32.ofInt a) (UInt32.ofInt b)).toNat : Int)
    = if a % 2 ^ 32 + (b - a) < 2 ^ 32 then b - a else b - a - 1
  := by
  have ha := toNat_ofInt a
  have hb := toNat_ofInt b
  have hdiff := timediff_toNat (UInt32.ofInt a) (UInt32.ofInt b)
  split
  · next hstays =>
      rw [if_pos (by omega)] at hdiff
      omega
  · next hwraps =>
      rw [if_neg (by omega)] at hdiff
      omega

theorem tickCount_mono {s : Int} {t u : TimeVal} (h : t.micros ≤ u.micros) :
  tickCount s t ≤ tickCount s u
  := by
  have ht := t.normal
  have hu := u.normal
  unfold TimeVal.micros at h
  unfold tickCount
  omega

/-- From every state of the clock, with any calls between: `timediff` of the ticks of two times,
in order, is the distance of the times in ticks exactly if the count does not go around between
the times. -/
theorem timediff_exact_iff
    (clock : Clock) (c₁ c₂ : TickCall) (between : List TickCall) (s₀ : Int)
    (h : c₁.tval.micros ≤ c₂.tval.micros)
    (hlt : tickCount s₀ c₂.tval - tickCount s₀ c₁.tval < 2 ^ 32) :
  ((timediff (clock.getTick c₁).1 (((clock.getTick c₁).2.after between).getTick c₂).1).toNat : Int)
      = tickCount s₀ c₂.tval - tickCount s₀ c₁.tval
    ↔ clock.countAt c₁.tval % 2 ^ 32 + (tickCount s₀ c₂.tval - tickCount s₀ c₁.tval) < 2 ^ 32
  := by
  have hcount : (((clock.getTick c₁).2.after between).countAt c₂.tval) % 2 ^ 32
      = clock.countAt c₂.tval % 2 ^ 32 :=
    (Clock.countAt_after _ _ _).trans (Clock.countAt_getTick _ _ _)
  have hdist : clock.countAt c₂.tval - clock.countAt c₁.tval
      = tickCount s₀ c₂.tval - tickCount s₀ c₁.tval := by
    unfold Clock.countAt tickCount
    omega
  have hle := tickCount_mono (s := s₀) h
  rw [Clock.getTick_fst, Clock.getTick_fst, ofInt_eq_iff.mpr hcount,
    timediff_ofInt (by omega) (by omega), hdist]
  split
  · next hstays => exact iff_of_true rfl hstays
  · next hwraps => exact iff_of_false (by omega) hwraps

/-- The general `timediff_exact_iff` at two times that are two ticks apart. -/
theorem timediff_exact_twoTicks :
  ((timediff ((initResources ⟨0, 0, by decide⟩).getTick ⟨0, 0, none, ⟨0, 10, by decide⟩⟩).1
      ((((initResources ⟨0, 0, by decide⟩).getTick ⟨0, 0, none, ⟨0, 10, by decide⟩⟩).2.after
        []).getTick ⟨0, 0, none, ⟨0, 30, by decide⟩⟩).1).toNat : Int) = 2
  := by
  apply (timediff_exact_iff (initResources ⟨0, 0, by decide⟩) ⟨0, 0, none, ⟨0, 10, by decide⟩⟩
    ⟨0, 0, none, ⟨0, 30, by decide⟩⟩ [] 0 (by decide) (by decide)).mpr
  decide

/-- About thirteen hours behind its start the count of ticks goes around: by `timediff`, a time that
is one tick later than another seems to be as late as that. -/
theorem timediff_not_exact :
  ¬ ∀ (clock : Clock) (c₁ c₂ : TickCall) (s₀ : Int), c₁.tval.micros ≤ c₂.tval.micros →
      tickCount s₀ c₂.tval - tickCount s₀ c₁.tval < 2 ^ 32 →
      ((timediff (clock.getTick c₁).1 ((clock.getTick c₁).2.getTick c₂).1).toNat : Int)
        = tickCount s₀ c₂.tval - tickCount s₀ c₁.tval
  := by
  intro h
  have hwrong := h (initResources ⟨0, 0, by decide⟩)
    ⟨0, 0, none, ⟨47721, 858834, by decide⟩⟩ ⟨0, 0, none, ⟨47721, 858845, by decide⟩⟩ 0
    (by decide) (by decide)
  revert hwrong
  decide

end Differences

/-! ### The clock of a stream -/

/-- The variables `sys_tick` and `sys_sec` of the clock, as they are seen by the stream `s`. -/
def Stream.clock (s : Stream) : Clock := ⟨s.sysTick, s.sysSec⟩

variable {p : Live} {s s' : Stream} {q : Frame}

/-- `get_tick` as it is called for the stream `s` is that of its clock. -/
theorem getTick_clock (c : TickCall) (s : Stream) :
  (getTick c.tval.sec c.tval.usec s).1 = (s.clock.getTick c).1
    ∧ (getTick c.tval.sec c.tval.usec s).2.clock = (s.clock.getTick c).2
  := ⟨rfl, rfl⟩

/-- The tick of a time, in the terms of `get_tick`, for a clock that was set up at `s₀`. -/
def tickOf (s₀ tvSec tvUsec : Int) : UInt32 :=
  UInt32.ofInt ((tvUsec * rtpHz.tdiv 1000).tdiv 1000) + UInt32.ofInt ((tvSec - s₀) * rtpHz)

theorem tickOf_eq (s₀ : Int) (tv : TimeVal) :
  tickOf s₀ tv.sec tv.usec = UInt32.ofInt (tickCount s₀ tv)
  := by
  rw [tickOf, tick_usec, tickCount, Int.add_comm ((tv.sec - s₀) * 90000), UInt32.ofInt_add]
  rfl

/-- A call of `get_tick` for a stream with a clock that is kept returns the tick of its time. -/
theorem getTick_kept (h : s.clock.Kept s₀) (tvSec tvUsec : Int) :
  (getTick tvSec tvUsec s).1 = tickOf s₀ tvSec tvUsec
    ∧ (getTick tvSec tvUsec s).2.clock.Kept s₀
  := by
  have hnext : s.sysTick + UInt32.ofInt ((tvSec - s.sysSec) * rtpHz)
      = UInt32.ofInt ((tvSec - s₀) * rtpHz) := by
    rw [show s.sysTick = _ from h, ← UInt32.ofInt_add, ← Int.add_mul]
    congr 2
    simp only [Stream.clock]
    omega
  exact ⟨congrArg (_ + ·) hnext, hnext⟩

/-- A step from `s` to `s'` that leaves the clock alone and moves no entity. -/
structure Timeless (s s' : Stream) : Prop where
  clock : s'.clock = s.clock
  lib : s'.lib = s.lib

namespace Timeless

theorem trans {s'' : Stream} (h : Timeless s s') (h' : Timeless s' s'') :
  Timeless s s''
  := ⟨h'.clock.trans h.clock, h'.lib.trans h.lib⟩

theorem freeBsData (chNum subNum ret : Int) (queue : QueueGet) (s : Stream) :
  Timeless s (freeBsData p chNum subNum ret queue s).2
  := by
  unfold Rtspd.freeBsData
  split
  · exact ⟨rfl, rfl⟩
  · split
    · exact ⟨rfl, rfl⟩
    · unfold queuePut
      split
      · exact ⟨rfl, rfl⟩
      · exact ⟨rfl, rfl⟩

theorem readPayload (q : Frame) (reader : Reader) (s : Stream) :
  Timeless s (readPayload q reader s)
  := ⟨rfl, rfl⟩

theorem putSlot (fs : SlotId) (s : Stream) : Timeless s (putSlot p fs s) := ⟨rfl, rfl⟩

/-- Taking a slot and filling it for the frame `q` leaves the clock alone and moves no entity. -/
theorem fill (q : Frame) (fs : SlotId) (frames : FrameInfo) (s : Stream) :
  Timeless s (fillQueue p q fs (fillKey p q fs { s with frames := frames }))
  := ⟨rfl, rfl⟩

theorem get (queue : QueueGet) (payload : List UInt8) (s : Stream) :
  Timeless s (addUsage p.chNum p.subNum 1 (queueGet queue payload s).2)
  := ⟨rfl, rfl⟩

theorem serveIntra (s : Stream) : Timeless s (serveIntra s) := by
  unfold Rtspd.serveIntra
  split
  · exact ⟨rfl, rfl⟩
  · exact ⟨rfl, rfl⟩

theorem sendToNvr (q : Frame) (frameType : Nat) (s : Stream) :
  Timeless s (sendToNvr p q frameType s)
  := by
  unfold Rtspd.sendToNvr
  split
  · split
    · exact ⟨rfl, rfl⟩
    · exact ⟨rfl, rfl⟩
  · exact ⟨rfl, rfl⟩

theorem refuse (ret : Int) (s : Stream) : Timeless s (refuse ret s) := by
  unfold Rtspd.refuse
  split
  · exact ⟨rfl, rfl⟩
  · exact ⟨rfl, rfl⟩

end Timeless

/-- The clock of `s` is kept, and every entity that the library holds carries the tick of the time
stamp of its frame. -/
structure Stamped (s₀ : Int) (s : Stream) : Prop where
  clock : s.clock.Kept s₀
  timestamp : ∀ e ∈ s.lib,
    e.timestamp = tickOf s₀ e.frame.queue.tvSec e.frame.queue.tvUsec

namespace Stamped

theorem timeless (h : Stamped s₀ s) (hs : Timeless s s') : Stamped s₀ s' := by
  constructor
  · rw [hs.clock]
    apply h.clock
  · rw [hs.lib]
    apply h.timestamp

/-- The start of the frame `q` in `write_rtp_frame` gives the tick of its time stamp, and keeps the
clock. -/
theorem startClock (h : Stamped s₀ s) (q : Frame) :
  (startClock q s).1 = tickOf s₀ q.queue.tvSec q.queue.tvUsec
    ∧ Stamped s₀ (startClock q s).2
  := by
  have htick := getTick_kept h.clock q.queue.tvSec q.queue.tvUsec
  unfold Rtspd.startClock
  dsimp only
  split
  · exact ⟨htick.1, htick.2, h.timestamp⟩
  · exact ⟨htick.1, htick.2, h.timestamp⟩

theorem encAverage (h : Stamped s₀ s) (tvSec tvUsec length : Int) :
  Stamped s₀ (encAverage tvSec tvUsec length s)
  := by
  have htick := (getTick_kept h.clock tvSec tvUsec).2
  unfold Rtspd.encAverage
  dsimp only
  split
  · exact ⟨htick, h.timestamp⟩
  · split
    · exact ⟨htick, h.timestamp⟩
    · exact ⟨htick, h.timestamp⟩

/-- The library accepts an entity with the `tick` of its frame `q`, and all of its entities have
theirs. -/
theorem accept
    {tick : UInt32} (h : Stamped s₀ s) (htick : tick = tickOf s₀ q.queue.tvSec q.queue.tvUsec)
    {fs : SlotId} :
  Stamped s₀ (accept (entityOf p q tick fs) s)
  := by
  constructor
  · apply h.clock
  · intro e he
    rcases List.mem_cons.mp he with rfl | he
    · apply htick
    · apply h.timestamp e he

/-- `write_rtp_frame` gives the entity of the frame `q` the tick of the time stamp of its frame. -/
theorem writeRtpFrame
    {enqueue put ret : Int} (h : Stamped s₀ s)
    (hwrite : writeRtpFrame p enqueue put q s = some (ret, s')) :
  Stamped s₀ s'
  := by
  obtain ⟨htick, hstart⟩ := h.startClock q
  have hnvr : Stamped s₀ (sendToNvr p q (h264GetNALType q.payload q.queue.length)
      (readPayload q .h264GetNALType (serveIntra (Rtspd.startClock q s).2))) := by
    apply timeless _ (Timeless.sendToNvr q _ _)
    apply timeless _ (Timeless.readPayload q _ _)
    apply hstart.timeless (Timeless.serveIntra _)
  unfold Rtspd.writeRtpFrame at hwrite
  dsimp only at hwrite
  split at hwrite
  · -- an event is pending
    obtain ⟨-, rfl⟩ := Prod.mk.inj (Option.some.inj hwrite)
    apply h.timeless (Timeless.freeBsData _ _ _ _ _)
  · split at hwrite
    · -- nobody is watching
      obtain ⟨-, rfl⟩ := Prod.mk.inj (Option.some.inj hwrite)
      apply hnvr.timeless (Timeless.freeBsData _ _ _ _ _)
    · split at hwrite
      · next fs frames htake =>
          split at hwrite
          · obtain ⟨-, rfl⟩ := Prod.mk.inj (Option.some.inj hwrite)
            apply timeless _ (Timeless.freeBsData _ _ _ _ _)
            apply timeless _ (Timeless.putSlot fs _)
            apply timeless _ (Timeless.refuse _ _)
            apply hnvr.timeless (Timeless.fill q fs frames _)
          · obtain ⟨-, rfl⟩ := Prod.mk.inj (Option.some.inj hwrite)
            apply timeless _ (Timeless.readPayload q _ _)
            apply accept _ htick
            apply hnvr.timeless (Timeless.fill q fs frames _)
      · contradiction

/-- `frm_cb` of the entity `e` leaves the clock alone and adds no entity. -/
theorem frmCb {put ret : Int} {e : Entity} (h : Stamped s₀ s)
    (hcb : frmCb p put e { s with lib := s.lib.erase e } = some (ret, s')) :
  Stamped s₀ s'
  := by
  have herase : Stamped s₀ { s with lib := s.lib.erase e } :=
    ⟨h.clock, fun e' he' => h.timestamp e' (List.mem_of_mem_erase he')⟩
  unfold Rtspd.frmCb at hcb
  split at hcb
  · split at hcb
    · dsimp only at hcb
      split at hcb
      · obtain ⟨-, rfl⟩ := Prod.mk.inj (Option.some.inj hcb)
        apply herase
      · obtain ⟨-, rfl⟩ := Prod.mk.inj (Option.some.inj hcb)
        apply timeless _ (Timeless.putSlot _ _)
        apply herase.timeless (Timeless.freeBsData _ _ _ _ _)
    · contradiction
  · obtain ⟨-, rfl⟩ := Prod.mk.inj (Option.some.inj hcb)
    apply herase

theorem step {i : Input} (h : Stamped s₀ s) (hstep : serviceStep p s i = some s') :
  Stamped s₀ s'
  := by
  cases i with
  | service ret enqueue queue payload tvSec tvUsec =>
      simp only [serviceStep, getBsData_eq] at hstep
      by_cases hret : 0 ≤ ret
      · rw [if_pos hret] at hstep
        simp only [Int.not_lt.mpr hret, if_false] at hstep
        obtain ⟨⟨r, s₂⟩, hwrite, rfl⟩ := Option.map_eq_some_iff.mp hstep
        apply writeRtpFrame _ hwrite
        apply encAverage
        apply h.timeless (Timeless.get queue payload s)
      · rw [if_neg hret] at hstep
        simp only [Int.not_le.mp hret, if_true] at hstep
        obtain rfl := Option.some.inj hstep
        apply h
  | frmCb e =>
      obtain ⟨⟨r, s₂⟩, hcb, rfl⟩ := Option.map_eq_some_iff.mp hstep
      apply h.frmCb hcb
  | control c =>
      obtain rfl := Option.some.inj hstep
      exact ⟨h.clock, h.timestamp⟩

end Stamped

/-- In every run of the encoder loop on the stream `p`, from a clock that is kept on, the entities
in the library carry the ticks of the time stamps of their frames. -/
theorem timestamps_eq
    {C : Stream → Input → Prop} {is : List Input} (hclock : s.clock.Kept s₀) (hlib : s.lib = [])
    (hrun : Run (serviceStep p) C s is s') :
  ∀ e ∈ s'.lib, e.timestamp = tickOf s₀ e.frame.queue.tvSec e.frame.queue.tvUsec
  := by
  have hstart : Stamped s₀ s := by
    use hclock
    rw [hlib]
    intro e he
    contradiction
  have hstamped : Stamped s₀ s' := hrun.invariant (fun _ _ _ h _ hstep => h.step hstep) hstart
  apply hstamped.timestamp

end Rtspd
