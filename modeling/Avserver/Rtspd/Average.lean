import Avserver.Library.Rate
import Avserver.Msg.Branch
import Avserver.Rtspd.Ticks

/-!
# The average frame rate

`get_bs_data` counts the frames of a stream and their bytes, and every four seconds it computes the
frame rate and the bit rate from the counts and from the ticks that have passed.  What it measures
is a window: it is opened by a frame and closed by the first frame that comes four seconds later,
which opens the next one.

In ticks of 32 bits and counts in `int`s, the code follows the windows as long as the tick does not
wrap around in a window, and no window is opened at the tick 0, by which the code knows that it has
opened none.  Then its products are in range in exactly those runs in which no window is closed
with more than 238 frames (`averages_iff`).  At 59 frames a second that is so, but up to 150 may be
configured.
-/

namespace Rtspd

open Library

/-! ### Calls and windows -/

/-- A call of `get_bs_data` for a stream, where the driver's call returns `ret` and reports a frame,
and the time of day; or a call of `get_tick` for something else. -/
inductive MeterCall where
  | getBsData (ret : Int) (queue : QueueGet) (payload : List UInt8) (now : TimeVal)
  | getTick (tval : TimeVal)

/-- The stream `s` behind a call, of `get_bs_data` at a time or of `get_tick` elsewhere. -/
def MeterCall.run (p : Live) (s : Stream) : MeterCall → Stream
  | .getBsData ret queue payload now =>
      (Rtspd.getBsData p.chNum p.subNum ret queue payload now.sec now.usec s).2.2
  | .getTick tval => (Rtspd.getTick tval.sec tval.usec s).2

/-- A frame that is delivered by `get_bs_data`, with its `length` and the `time` in microseconds at
which it is counted. -/
structure Delivery where
  time : Int
  length : Int
deriving DecidableEq

/-- The frame that a call delivers: that of a `get_bs_data` whose driver call gives no negative
number. -/
def MeterCall.delivery : MeterCall → Option Delivery
  | .getBsData ret queue _ now => if 0 ≤ ret then some ⟨now.micros, queue.length⟩ else none
  | .getTick _ => none

/-- The ticks of 90 kHz from the start of the second `s₀` to a `time` in microseconds. -/
def ticksAt (s₀ time : Int) : Int := (time - s₀ * 1000000) * 90 / 1000

/-- A window of the averages: the time of the frame that has `opened` it, if there is one, and the
frames that have been counted. -/
structure Window where
  opened : Option Int
  frames : List Delivery
deriving DecidableEq

/-- The ticks for which the window `w` has been open, if a frame at that time closes it. -/
def Window.closing (s₀ time : Int) (w : Window) : Option Int :=
  match w.opened with
  | none => none
  | some o =>
      if timeInterval ≤ ticksAt s₀ time - ticksAt s₀ o then some (ticksAt s₀ time - ticksAt s₀ o)
      else none

/-- The window `w` behind a frame `d`, which opens the first one, closes one that has been open for
`timeInterval`, or is counted. -/
def Window.deliver (s₀ : Int) (d : Delivery) (w : Window) : Window :=
  match w.opened with
  | none => ⟨some d.time, w.frames ++ [d]⟩
  | some o => if (w.closing s₀ d.time).isSome then ⟨some d.time, []⟩ else ⟨some o, w.frames ++ [d]⟩

/-- A stream beside its `window`, which is what its variables of the averages are to be about. -/
structure Meter where
  stream : Stream
  window : Window

/-- A call on the stream `p`, with the effect of the frame that it delivers on the window. -/
def meterStep (p : Live) (s₀ : Int) (m : Meter) (c : MeterCall) : Option Meter :=
  some ⟨c.run p m.stream, c.delivery.elim m.window (m.window.deliver s₀ ·)⟩

/-- A stream before its first frame: its variables of the averages are zero, and its clock has
counted from the second `s₀`. -/
structure Unmetered (s₀ : Int) (s : Stream) : Prop where
  clock : s.clock.Kept s₀
  timeval : s.timeval = 0
  itvlFps : s.itvlFps = 0
  itvlBps : s.itvlBps = 0

/-! ### What is claimed of a call -/

/-- The number `n` is one that an `int` of 32 bits can have as its value. -/
def FitsInt (n : Int) : Prop := -2 ^ 31 ≤ n ∧ n < 2 ^ 31

/-- `diff_tv`, the ticks since the window of `s` has been opened, where `get_tick` is called at the
time `now`. -/
def diffTv (now : TimeVal) (s : Stream) : Int :=
  toInt (timediff s.timeval (getTick now.sec now.usec s).1)

/-- The averages of `s` are computed at the time `now`: a window is open, and has been for
`timeInterval`. -/
def computes (now : TimeVal) (s : Stream) : Prop :=
  s.timeval ≠ 0 ∧ timeInterval ≤ diffTv now s

/-- The products of a computation are in range, it divides by no zero, and when a window is closed,
`avg_fps` is 100 times its frame rate, rounded down. -/
structure Averaged (p : Live) (s₀ : Int) (m : Meter) (c : MeterCall) (now : TimeVal)
    (length : Int) : Prop where
  products : computes now m.stream →
    FitsInt ((m.stream.itvlFps + 1) * 9000000) ∧ FitsInt ((m.stream.itvlBps + length) * 80)
  divisors : computes now m.stream →
    diffTv now m.stream ≠ 0 ∧ (diffTv now m.stream).tdiv 9000 ≠ 0
  avgFps : ∀ t ∈ m.window.closing s₀ now.micros,
    (c.run p m.stream).avgFps = 100 * ((m.window.frames.length + 1) * rtpHz) / t

/-- If a call of `get_bs_data` delivers a frame, then it is `Averaged`; of other calls nothing is
said. -/
def Averages (p : Live) (s₀ : Int) (m : Meter) (c : MeterCall) : Prop :=
  match c with
  | .getBsData ret queue _ now => 0 ≤ ret → Averaged p s₀ m c now queue.length
  | .getTick _ => True

/-- A frame that closes a window comes before the tick has wrapped around and within `2 ^ 31` ticks,
and a frame that opens one does not come at the tick 0. -/
def Unwrapped (s₀ : Int) (m : Meter) (c : MeterCall) : Prop :=
  ∀ d ∈ c.delivery,
    (∀ o ∈ m.window.opened, timeInterval ≤ ticksAt s₀ d.time - ticksAt s₀ o →
      ticksAt s₀ d.time - ticksAt s₀ o < 2 ^ 31
        ∧ ticksAt s₀ d.time / 2 ^ 32 = ticksAt s₀ o / 2 ^ 32)
    ∧ (m.window.opened = none ∨ (m.window.closing s₀ d.time).isSome →
      ticksAt s₀ d.time % 2 ^ 32 ≠ 0)

/-- If the call `c` delivers a frame that closes a window, this is at most the 238th of it. -/
def FewFrames (s₀ : Int) (m : Meter) (c : MeterCall) : Prop :=
  ∀ d ∈ c.delivery, ∀ _t ∈ m.window.closing s₀ d.time, m.window.frames.length + 1 ≤ 238

/-- What is known of the frames that are delivered: the clock does not go back, and in any one
second there are at most `f` frames, and at most 5000 kbit. -/
structure Delivered (f : Int) (ds : List Delivery) : Prop where
  sorted : ds.Pairwise fun d d' => d.time ≤ d'.time
  frames : Limited Delivery.time (fun _ => 1) 1000000 f ds
  bits : Limited Delivery.time (fun d => 8 * d.length) 1000000 (5000 * 1024) ds
  length : ∀ d ∈ ds, 0 ≤ d.length

/-! ### Ticks of 32 bits -/

section Ticks

variable {s₀ a b : Int}

theorem tickCount_eq (s₀ : Int) (tv : TimeVal) : tickCount s₀ tv = ticksAt s₀ tv.micros := by
  simp only [tickCount, ticksAt, TimeVal.micros]
  omega

theorem ticksAt_mono {t u : Int} (h : t ≤ u) : ticksAt s₀ t ≤ ticksAt s₀ u := by
  simp only [ticksAt]
  omega

/-- A time `u` that is less than four seconds of ticks behind `t` is less than four seconds behind
it. -/
theorem micros_of_ticksAt {t u : Int} (h : ticksAt s₀ u - ticksAt s₀ t < timeInterval) :
  u < t + 4 * 1000000
  := by
  simp only [ticksAt, timeInterval, rtpHz] at h
  omega

theorem toInt_eq {n : UInt32} (h : n.toNat < 2 ^ 31) : toInt n = n.toNat := by
  rw [toInt, BitVec.toInt_eq_toNat_cond, UInt32.toNat_toBitVec, if_pos (by omega)]

/-- `timediff` of two ticks within one round of the 32-bit counter is their difference. -/
theorem timediff_round (hab : a ≤ b) (hlt : b - a < 2 ^ 31) (hround : b / 2 ^ 32 = a / 2 ^ 32) :
  toInt (timediff (UInt32.ofInt a) (UInt32.ofInt b)) = b - a
  := by
  have ha := toNat_ofInt a
  have hb := toNat_ofInt b
  have hle : (UInt32.ofInt a).toNat ≤ (UInt32.ofInt b).toNat := by omega
  have hdiff := timediff_toNat (UInt32.ofInt a) (UInt32.ofInt b)
  rw [if_pos hle] at hdiff
  rw [toInt_eq (by omega), hdiff]
  omega

/-- The `timediff` of two ticks that are less than `timeInterval` apart is less than that, around
the end of the counter too. -/
theorem timediff_short (hab : a ≤ b) (hlt : b - a < timeInterval) :
  toInt (timediff (UInt32.ofInt a) (UInt32.ofInt b)) < timeInterval
  := by
  have ha := toNat_ofInt a
  have hb := toNat_ofInt b
  have hdiff := timediff_toNat (UInt32.ofInt a) (UInt32.ofInt b)
  have hinterval : timeInterval = 360000 := rfl
  split at hdiff
  · rw [toInt_eq (by omega), hdiff]
    omega
  · rw [toInt_eq (by omega), hdiff]
    omega

end Ticks

/-! ### The block for the averages -/

section Block

variable {s : Stream} {now : TimeVal} {length : Int}

/-- While `timeval` is 0, no window has been opened: the counts go on, and the tick of the frame is
noted as `timeval`. -/
theorem encAverage_opens (h : s.timeval = 0) :
  encAverage now.sec now.usec length s
    = { (getTick now.sec now.usec s).2 with
        itvlFps := s.itvlFps + 1
        itvlBps := s.itvlBps + length
        timeval := (getTick now.sec now.usec s).1 }
  := by
  rw [encAverage]
  apply if_pos h

/-- A frame at which the window has not been open for `timeInterval` does not close it: the counts
go on. -/
theorem encAverage_counts (h : s.timeval ≠ 0) (hdiff : ¬ timeInterval ≤ diffTv now s) :
  encAverage now.sec now.usec length s
    = { (getTick now.sec now.usec s).2 with
        itvlFps := s.itvlFps + 1
        itvlBps := s.itvlBps + length }
  := by
  rw [encAverage]
  apply (if_neg h).trans
  apply if_neg hdiff

/-- A frame that closes the window: the averages of `s` are computed from its counts, and these
start anew. -/
theorem encAverage_closes (h : computes now s) :
  encAverage now.sec now.usec length s
    = { (getTick now.sec now.usec s).2 with
        avgFps := ((s.itvlFps + 1) * 9000000).tdiv (diffTv now s)
        avgBps := ((s.itvlBps + length) * 80).tdiv ((diffTv now s).tdiv 9000)
        itvlFps := 0
        itvlBps := 0
        timeval := (getTick now.sec now.usec s).1 }
  := by
  rw [encAverage]
  apply (if_neg h.1).trans
  apply if_pos h.2

end Block

/-! ### The code and the windows -/

/-- The variables of the stream are about its window: its two counts, and the tick at which it was
opened. -/
structure Metered (s₀ : Int) (m : Meter) : Prop where
  clock : m.stream.clock.Kept s₀
  fps : m.stream.itvlFps = m.window.frames.length
  bps : m.stream.itvlBps = total Delivery.length m.window.frames
  unopened : m.window.opened = none → m.stream.timeval = 0 ∧ m.window.frames = []
  opened : ∀ o ∈ m.window.opened,
    m.stream.timeval = UInt32.ofInt (ticksAt s₀ o) ∧ ticksAt s₀ o % 2 ^ 32 ≠ 0
      ∧ ∀ d ∈ m.window.frames, o ≤ d.time ∧ ticksAt s₀ d.time - ticksAt s₀ o < timeInterval

section Step

variable {s₀ : Int} {p : Live} {m : Meter} {ret : Int} {queue : QueueGet} {payload : List UInt8}
  {now : TimeVal}

/-- `get_tick` at the time `now`, at which a frame is counted, gives the tick of that time and keeps
the clock. -/
theorem Metered.tick (h : Metered s₀ m) (now : TimeVal) :
  (getTick now.sec now.usec m.stream).1 = UInt32.ofInt (ticksAt s₀ now.micros)
    ∧ (getTick now.sec now.usec m.stream).2.clock.Kept s₀
  := by
  obtain ⟨htick, hkept⟩ := getTick_kept h.clock now.sec now.usec
  rw [htick, tickOf_eq, tickCount_eq]
  exact ⟨rfl, hkept⟩

/-- The stream behind the driver's call of `get_bs_data`, whose averages are those of the stream `s`
before. -/
def fetched (p : Live) (queue : QueueGet) (payload : List UInt8) (s : Stream) : Stream :=
  addUsage p.chNum p.subNum 1 (queueGet queue payload s).2

/-- A call of `get_bs_data` that delivers a frame fetches it and then computes the averages by
`enc_average`. -/
theorem run_getBsData (hret : 0 ≤ ret) (s : Stream) :
  (MeterCall.getBsData ret queue payload now).run p s
    = encAverage now.sec now.usec queue.length (fetched p queue payload s)
  := by
  rw [MeterCall.run, getBsData_eq, if_pos hret]
  rfl

theorem total_snoc (ds : List Delivery) (d : Delivery) :
  total Delivery.length (ds ++ [d]) = total Delivery.length ds + d.length
  := by
  rw [total_append, total_cons, total_nil, Int.add_zero]

/-- The variables of `s'` are about the window with one more frame `d`, if its counts are by so much
more and `timeval` is the same. -/
theorem Metered.counted
    {o : Int} {d : Delivery} {s' : Stream} (h : Metered s₀ m) (hclock : s'.clock.Kept s₀)
    (hfps : s'.itvlFps = m.stream.itvlFps + 1) (hbps : s'.itvlBps = m.stream.itvlBps + d.length)
    (htimeval : s'.timeval = UInt32.ofInt (ticksAt s₀ o)) (hzero : ticksAt s₀ o % 2 ^ 32 ≠ 0)
    (hin : ∀ d' ∈ m.window.frames ++ [d],
      o ≤ d'.time ∧ ticksAt s₀ d'.time - ticksAt s₀ o < timeInterval) :
  Metered s₀ ⟨s', ⟨some o, m.window.frames ++ [d]⟩⟩
  := by
  constructor
  · apply hclock
  · rw [hfps, h.fps, List.length_append]
    rfl
  · rw [hbps, h.bps, total_snoc]
  · intro hnone
    contradiction
  · intro o' ho
    obtain rfl := Option.some.inj ho
    exact ⟨htimeval, hzero, hin⟩

/-- The first frame opens a window, and no averages are computed; the tick of its time must not be
0. -/
theorem Metered.opens
    (h : Metered s₀ m) (hret : 0 ≤ ret) (hopened : m.window.opened = none)
    (hzero : ticksAt s₀ now.micros % 2 ^ 32 ≠ 0) :
  Metered s₀ ⟨(MeterCall.getBsData ret queue payload now).run p m.stream,
      m.window.deliver s₀ ⟨now.micros, queue.length⟩⟩
    ∧ ¬ computes now m.stream
  := by
  obtain ⟨htimeval, hframes⟩ := h.unopened hopened
  obtain ⟨htick, hkept⟩ := h.tick now
  have hdeliver : m.window.deliver s₀ ⟨now.micros, queue.length⟩
      = ⟨some now.micros, m.window.frames ++ [⟨now.micros, queue.length⟩]⟩ := by
    rw [Window.deliver, hopened]
  rw [run_getBsData hret, encAverage_opens (s := fetched p queue payload m.stream) htimeval,
    hdeliver]
  constructor
  · refine h.counted ?_ rfl rfl ?_ hzero ?_
    · apply hkept
    · apply htick
    · rw [hframes]
      intro d hd
      obtain rfl := List.mem_singleton.mp hd
      use Int.le_refl _
      rw [Int.sub_self]
      decide
  · intro hcomputes
    apply hcomputes.1 htimeval

/-- A number `n` that is no multiple of `2 ^ 32` is not 0 as a number of 32 bits. -/
theorem ofInt_ne_zero {n : Int} (h : n % 2 ^ 32 ≠ 0) : UInt32.ofInt n ≠ 0 := by
  intro hzero
  apply h
  rw [← toNat_ofInt, hzero]
  rfl

/-- A frame that comes less than four seconds behind the one at `o`, which has opened the window, is
counted, and no averages are computed. -/
theorem Metered.counts
    (h : Metered s₀ m) (hret : 0 ≤ ret) {o : Int} (hopened : m.window.opened = some o)
    (hlater : o ≤ now.micros)
    (hshort : ticksAt s₀ now.micros - ticksAt s₀ o < timeInterval) :
  Metered s₀ ⟨(MeterCall.getBsData ret queue payload now).run p m.stream,
      m.window.deliver s₀ ⟨now.micros, queue.length⟩⟩
    ∧ ¬ computes now m.stream
  := by
  obtain ⟨htimeval, hzero, hframes⟩ := h.opened o hopened
  obtain ⟨htick, hkept⟩ := h.tick now
  have hdiff : ¬ timeInterval ≤ diffTv now m.stream := by
    rw [diffTv, htick, htimeval]
    apply Int.not_le.mpr (timediff_short (ticksAt_mono hlater) hshort)
  have hne : m.stream.timeval ≠ 0 := by
    rw [htimeval]
    apply ofInt_ne_zero hzero
  have hdeliver : m.window.deliver s₀ ⟨now.micros, queue.length⟩
      = ⟨some o, m.window.frames ++ [⟨now.micros, queue.length⟩]⟩ := by
    simp only [Window.deliver, Window.closing, hopened, if_neg (Int.not_le.mpr hshort),
      Option.isSome_none, Bool.false_eq_true, if_false]
  rw [run_getBsData hret, hdeliver,
    encAverage_counts (s := fetched p queue payload m.stream) hne hdiff]
  constructor
  · refine h.counted ?_ rfl rfl htimeval hzero ?_
    · apply hkept
    · intro d hd
      cases List.mem_append.mp hd with
      | inl hd => apply hframes d hd
      | inr hd =>
          obtain rfl := List.mem_singleton.mp hd
          exact ⟨hlater, hshort⟩
  · intro hcomputes
    apply hdiff hcomputes.2

/-- A frame that comes four seconds or more behind the one at `o` closes the window, and the next
one is opened. -/
theorem Metered.closes
    (h : Metered s₀ m) (hret : 0 ≤ ret) {o : Int} (hopened : m.window.opened = some o)
    (hlater : o ≤ now.micros)
    (hlong : timeInterval ≤ ticksAt s₀ now.micros - ticksAt s₀ o)
    (hlt : ticksAt s₀ now.micros - ticksAt s₀ o < 2 ^ 31)
    (hround : ticksAt s₀ now.micros / 2 ^ 32 = ticksAt s₀ o / 2 ^ 32)
    (hnow : ticksAt s₀ now.micros % 2 ^ 32 ≠ 0) :
  Metered s₀ ⟨(MeterCall.getBsData ret queue payload now).run p m.stream,
      m.window.deliver s₀ ⟨now.micros, queue.length⟩⟩
    ∧ computes now m.stream
    ∧ diffTv now m.stream = ticksAt s₀ now.micros - ticksAt s₀ o
    ∧ ((MeterCall.getBsData ret queue payload now).run p m.stream).avgFps
      = ((m.stream.itvlFps + 1) * 9000000).tdiv (diffTv now m.stream)
  := by
  obtain ⟨htimeval, hzero, -⟩ := h.opened o hopened
  obtain ⟨htick, hkept⟩ := h.tick now
  have hdiff : diffTv now m.stream = ticksAt s₀ now.micros - ticksAt s₀ o := by
    rw [diffTv, htick, htimeval]
    apply timediff_round (ticksAt_mono hlater) hlt hround
  have hcomputes : computes now m.stream := by
    constructor
    · rw [htimeval]
      apply ofInt_ne_zero hzero
    · rw [hdiff]
      apply hlong
  have hdeliver : m.window.deliver s₀ ⟨now.micros, queue.length⟩ = ⟨some now.micros, []⟩ := by
    simp only [Window.deliver, Window.closing, hopened, if_pos hlong, Option.isSome_some, if_true]
  rw [run_getBsData hret, hdeliver,
    encAverage_closes (s := fetched p queue payload m.stream) hcomputes]
  refine ⟨?_, hcomputes, hdiff, rfl⟩
  constructor
  · exact hkept
  · rfl
  · rfl
  · intro hnone
    contradiction
  · intro o' ho
    obtain rfl := Option.some.inj ho
    refine ⟨htick, hnow, ?_⟩
    intro d hd
    contradiction

end Step

/-! ### The frames that are still to come -/

/-- The frames that are delivered by the calls `cs`, in the order of the calls. -/
def deliveries (cs : List MeterCall) : List Delivery := cs.filterMap MeterCall.delivery

/-- What is known of the frames that are in the window and of those to come with `cs`: their rate,
and that time does not go back. -/
structure Pending (f : Int) (m : Meter) (cs : List MeterCall) : Prop where
  delivered : Delivered f (m.window.frames ++ deliveries cs)
  later : ∀ o ∈ m.window.opened, ∀ d ∈ deliveries cs, o ≤ d.time

section Pending

variable {f s₀ : Int} {p : Live} {m m' : Meter} {c : MeterCall} {cs : List MeterCall}
  {ds ds' : List Delivery} {d : Delivery}

theorem Delivered.sublist (h : Delivered f ds) (hsub : ds'.Sublist ds) :
  Delivered f ds'
  := by
  constructor
  · apply h.sorted.sublist hsub
  · apply h.frames.sublist _ hsub
    intro d _
    decide
  · apply h.bits.sublist _ hsub
    intro d hd
    apply Int.mul_nonneg (by decide) (h.length d hd)
  · intro d hd
    apply h.length d (hsub.subset hd)

theorem deliveries_none (hc : c.delivery = none) : deliveries (c :: cs) = deliveries cs
  := List.filterMap_cons_none hc

theorem deliveries_some (hc : c.delivery = some d) : deliveries (c :: cs) = d :: deliveries cs
  := List.filterMap_cons_some hc

/-- The call `c` takes its frame to the window, and what is known of all of the frames stays. -/
theorem Pending.step (h : Pending f m (c :: cs)) (hstep : meterStep p s₀ m c = some m') :
  Pending f m' cs
  := by
  obtain rfl := Option.some.inj hstep
  cases hc : c.delivery with
  | none =>
      obtain ⟨hdelivered, hlater⟩ := h
      rw [deliveries_none hc] at hdelivered hlater
      exact ⟨hdelivered, hlater⟩
  | some d =>
      obtain ⟨hdelivered, hlater⟩ := h
      rw [deliveries_some hc] at hdelivered hlater
      have hsorted := (List.pairwise_append.mp hdelivered.sorted).2.1
      have hcounted (o : Int) (ho : ∀ d ∈ deliveries cs, o ≤ d.time) (s : Stream) :
          Pending f ⟨s, ⟨some o, m.window.frames ++ [d]⟩⟩ cs := by
        constructor
        · rw [List.append_assoc]
          apply hdelivered
        · rintro o' ho'
          obtain rfl := Option.some.inj ho'
          apply ho
      rw [Option.elim_some, Window.deliver]
      split
      · apply hcounted d.time (List.pairwise_cons.mp hsorted).1
      · next o ho =>
          split
          · constructor
            · apply hdelivered.sublist
              apply (List.sublist_cons_self _ _).trans (List.sublist_append_right _ _)
            · rintro o' ho'
              obtain rfl := Option.some.inj ho'
              apply (List.pairwise_cons.mp hsorted).1
          · apply hcounted o
            intro d' hd'
            apply hlater o ho d' (List.mem_cons_of_mem _ hd')

/-- The number of bits in the frames `ds` is eight times that of their bytes. -/
theorem total_bits (ds : List Delivery) :
  total (fun d => 8 * d.length) ds = 8 * total Delivery.length ds
  := by
  induction ds with
  | nil => rfl
  | cons d ds ih =>
      rw [total_cons, total_cons, ih, Int.mul_add]

/-- What a window may contain before it is closed: the frames and the bits of four seconds at the
rate `f`. -/
theorem Pending.bounds
    (h : Pending f m cs) (hm : Metered s₀ m) {o : Int} (ho : m.window.opened = some o) :
  (m.window.frames.length : Int) ≤ 4 * f ∧ 0 ≤ total Delivery.length m.window.frames
    ∧ 8 * total Delivery.length m.window.frames ≤ 4 * (5000 * 1024)
  := by
  have hdelivered := h.delivered.sublist (List.sublist_append_left _ _)
  have hwithin : ∀ d ∈ m.window.frames, o ≤ d.time ∧ d.time < o + (4 : Nat) * 1000000 := by
    intro d hd
    obtain ⟨hle, hlt⟩ := (hm.opened o ho).2.2 d hd
    exact ⟨hle, micros_of_ticksAt hlt⟩
  refine ⟨?_, total_nonneg hdelivered.length, ?_⟩
  · rw [← total_one]
    apply hdelivered.frames.total_le _ 4 hwithin
    intro d _
    decide
  · rw [← total_bits]
    apply hdelivered.bits.total_le _ 4 hwithin
    intro d hd
    apply Int.mul_nonneg (by decide) (hdelivered.length d hd)

/-- A frame `d` has no more bits than may be delivered within a second, and no negative number of
bytes. -/
theorem Delivered.bits_le (h : Delivered f ds) (hd : d ∈ ds) :
  0 ≤ d.length ∧ 8 * d.length ≤ 5000 * 1024
  := by
  use h.length d hd
  have hone := h.sublist (List.singleton_sublist.mpr hd)
  have hle : total (fun d => 8 * d.length) [d] ≤ (1 : Nat) * (5000 * 1024) := by
    apply hone.bits.total_le (t := d.time) _ 1
    · intro d' hd'
      obtain rfl := List.mem_singleton.mp hd'
      use Int.le_refl _
      omega
    · intro d' hd'
      apply Int.mul_nonneg (by decide) (hone.length d' hd')
  rw [total_cons, total_nil] at hle
  omega

end Pending

/-! ### Where the averages are right -/

section Averages

variable {f s₀ : Int} {p : Live} {m m' : Meter} {c : MeterCall} {cs : List MeterCall}

/-- A window `w` that is closed at a time has been opened `timeInterval` or more before it. -/
theorem closing_some {w : Window} {t time : Int} (h : w.closing s₀ time = some t) :
  ∃ o, w.opened = some o ∧ timeInterval ≤ ticksAt s₀ time - ticksAt s₀ o
    ∧ t = ticksAt s₀ time - ticksAt s₀ o
  := by
  unfold Window.closing at h
  split at h
  · contradiction
  · next o ho =>
      split at h
      · next hlong => exact ⟨o, ho, hlong, (Option.some.inj h).symm⟩
      · contradiction

/-- For a call of `get_bs_data` that delivers a frame, `Averages` says that the frame is
`Averaged`. -/
theorem averages_iff_averaged
    {ret : Int} (queue : QueueGet) (payload : List UInt8) (now : TimeVal) (hret : 0 ≤ ret) :
  Averages p s₀ m (.getBsData ret queue payload now)
    ↔ Averaged p s₀ m (.getBsData ret queue payload now) now queue.length
  := by
  constructor
  · intro haverages
    apply haverages hret
  · intro haveraged _
    apply haveraged

theorem fewFrames_iff
    {ret : Int} (queue : QueueGet) (payload : List UInt8) (now : TimeVal) (hret : 0 ≤ ret) :
  FewFrames s₀ m (.getBsData ret queue payload now)
    ↔ ∀ _t ∈ m.window.closing s₀ now.micros, m.window.frames.length + 1 ≤ 238
  := by
  have hdelivery : (MeterCall.getBsData ret queue payload now).delivery
      = some ⟨now.micros, queue.length⟩ := if_pos hret
  constructor
  · intro hfew
    apply hfew _ hdelivery
  · intro hfew d hd
    obtain rfl := Option.some.inj (hdelivery.symm.trans hd)
    apply hfew

/-- A call that closes no window and computes no averages is `Averaged`, as the bound on the frames
is void for it. -/
theorem averaged_open_iff {now : TimeVal} {length : Int}
    (hcomputes : ¬ computes now m.stream) (hclosing : m.window.closing s₀ now.micros = none) :
  Averaged p s₀ m c now length
    ↔ ∀ _t ∈ m.window.closing s₀ now.micros, m.window.frames.length + 1 ≤ 238
  := by
  rw [hclosing]
  constructor
  · intro _ t ht
    contradiction
  · intro _
    constructor
    · intro h
      contradiction
    · intro h
      contradiction
    · rw [hclosing]
      intro t ht
      contradiction

/-- A call that closes a window computes its averages, and they are right exactly if there are at
most 238 frames. -/
theorem averaged_closing_iff {now : TimeVal} {length t : Int}
    (hcomputes : computes now m.stream) (hclosing : m.window.closing s₀ now.micros = some t)
    (hdiff : diffTv now m.stream = t) (hlong : timeInterval ≤ t)
    (hfps : m.stream.itvlFps = m.window.frames.length)
    (hbits : 0 ≤ m.stream.itvlBps + length ∧ 8 * (m.stream.itvlBps + length) ≤ 5 * (5000 * 1024))
    (havg : (c.run p m.stream).avgFps = ((m.stream.itvlFps + 1) * 9000000).tdiv t) :
  Averaged p s₀ m c now length
    ↔ ∀ _t ∈ m.window.closing s₀ now.micros, m.window.frames.length + 1 ≤ 238
  := by
  have hinterval : timeInterval = 360000 := rfl
  constructor
  · intro h t' _
    have hfits := (h.products hcomputes).1.2
    rw [hfps] at hfits
    omega
  · intro hfew
    have hcount := hfew t hclosing
    constructor
    · intro _
      rw [hfps, FitsInt, FitsInt]
      omega
    · intro _
      rw [hdiff, Int.tdiv_eq_ediv_of_nonneg (by omega)]
      omega
    · intro t' ht
      obtain rfl := Option.some.inj (hclosing.symm.trans ht)
      have hmean : ((m.window.frames.length : Int) + 1) * 9000000
          = 100 * ((m.window.frames.length + 1) * rtpHz) := by
        rw [rtpHz]
        omega
      rw [havg, hfps, Int.tdiv_eq_ediv_of_nonneg (by omega), hmean]

/-- A call of `get_tick` at `tval` counts no frame, and the variables of the stream stay about its
window. -/
theorem Metered.getTick (h : Metered s₀ m) (tval : TimeVal) :
  Metered s₀ ⟨(Rtspd.getTick tval.sec tval.usec m.stream).2, m.window⟩
  := ⟨(h.tick tval).2, h.fps, h.bps, h.unopened, h.opened⟩

/-- A frame is counted: the averages are right exactly if it closes no window with too many frames,
and the variables of the stream stay about its window. -/
theorem Metered.frame
    {ret : Int} {queue : QueueGet} {payload : List UInt8} {now : TimeVal}
    (h : Metered s₀ m) (hpending : Pending f m (.getBsData ret queue payload now :: cs))
    (hC : Unwrapped s₀ m (.getBsData ret queue payload now)) (hret : 0 ≤ ret) :
  (Averaged p s₀ m (.getBsData ret queue payload now) now queue.length
      ↔ ∀ _t ∈ m.window.closing s₀ now.micros, m.window.frames.length + 1 ≤ 238)
    ∧ Metered s₀ ⟨(MeterCall.getBsData ret queue payload now).run p m.stream,
      m.window.deliver s₀ ⟨now.micros, queue.length⟩⟩
  := by
  have hdelivery : (MeterCall.getBsData ret queue payload now).delivery
      = some ⟨now.micros, queue.length⟩ := if_pos hret
  have hmem : ⟨now.micros, queue.length⟩
      ∈ deliveries (MeterCall.getBsData ret queue payload now :: cs) := by
    rw [deliveries_some hdelivery]
    apply List.mem_cons_self
  obtain ⟨hround, hzero⟩ := hC _ hdelivery
  cases hopened : m.window.opened with
  | none =>
      have hclosing : m.window.closing s₀ now.micros = none := by
        rw [Window.closing, hopened]
      obtain ⟨hmetered, hcomputes⟩ := @Metered.opens s₀ p m ret queue payload now h hret hopened
        (hzero (Or.inl hopened))
      exact ⟨averaged_open_iff hcomputes hclosing, hmetered⟩
  | some o =>
      have hlater : o ≤ now.micros := hpending.later o hopened _ hmem
      by_cases hlong : timeInterval ≤ ticksAt s₀ now.micros - ticksAt s₀ o
      · have hclosing : m.window.closing s₀ now.micros
            = some (ticksAt s₀ now.micros - ticksAt s₀ o) := by
          simp only [Window.closing, hopened, if_pos hlong]
        have hnow : ticksAt s₀ now.micros % 2 ^ 32 ≠ 0 := by
          apply hzero
          right
          rw [hclosing]
          rfl
        obtain ⟨hlt, hsame⟩ := hround o hopened hlong
        obtain ⟨hmetered, hcomputes, hdiff, havg⟩ := @Metered.closes s₀ p m ret queue payload now h
          hret o hopened hlater hlong hlt hsame hnow
        obtain ⟨-, hnonneg, hbits⟩ := hpending.bounds h hopened
        obtain ⟨hlength, hframe⟩ : 0 ≤ queue.length ∧ 8 * queue.length ≤ 5000 * 1024 :=
          hpending.delivered.bits_le (List.mem_append_right _ hmem)
        rw [hdiff] at havg
        rw [← h.bps] at hnonneg hbits
        use averaged_closing_iff hcomputes hclosing hdiff hlong h.fps (by omega) havg
      · have hclosing : m.window.closing s₀ now.micros = none := by
          simp only [Window.closing, hopened, if_neg hlong]
        obtain ⟨hmetered, hcomputes⟩ := @Metered.counts s₀ p m ret queue payload now h hret o
          hopened hlater (Int.not_le.mp hlong)
        exact ⟨averaged_open_iff hcomputes hclosing, hmetered⟩

/-- A call computes right averages exactly if it closes no window with too many frames, and the
stream stays `Metered`. -/
theorem Metered.step
    (h : Metered s₀ m) (hpending : Pending f m (c :: cs)) (hC : Unwrapped s₀ m c)
    (hstep : meterStep p s₀ m c = some m') :
  (Averages p s₀ m c ↔ FewFrames s₀ m c) ∧ Metered s₀ m'
  := by
  obtain rfl := Option.some.inj hstep
  have haside (haverages : Averages p s₀ m c) (hdelivery : c.delivery = none) :
      Averages p s₀ m c ↔ FewFrames s₀ m c := by
    constructor
    · intro _ d hd
      rw [hdelivery] at hd
      contradiction
    · intro _
      apply haverages
  cases c with
  | getTick tval => exact ⟨haside trivial rfl, h.getTick tval⟩
  | getBsData ret queue payload now =>
      by_cases hret : 0 ≤ ret
      · rw [averages_iff_averaged queue payload now hret, fewFrames_iff queue payload now hret,
          show (MeterCall.getBsData ret queue payload now).delivery = _ from if_pos hret]
        apply h.frame hpending hC hret
      · have hdelivery : (MeterCall.getBsData ret queue payload now).delivery = none :=
          if_neg hret
        have hrun : (MeterCall.getBsData ret queue payload now).run p m.stream = m.stream := by
          rw [MeterCall.run, getBsData_eq, if_neg hret]
        rw [hdelivery, hrun]
        exact ⟨haside (fun hcon => absurd hcon hret) hdelivery, h⟩

/-- Before the first frame of a stream, its variables are about a window that has not been
opened. -/
theorem Unmetered.metered {s : Stream} (h : Unmetered s₀ s) : Metered s₀ ⟨s, ⟨none, []⟩⟩ := by
  constructor
  · apply h.clock
  · apply h.itvlFps
  · apply h.itvlBps
  · intro _
    exact ⟨h.timeval, rfl⟩
  · intro o ho
    contradiction

theorem Delivered.pending {s : Stream} (h : Delivered f (deliveries cs)) :
  Pending f ⟨s, ⟨none, []⟩⟩ cs
  := by
  use h
  intro o ho
  contradiction

/-- At a rate `f` of at most 59 frames a second, no window is closed with more than 238 of them. -/
theorem Metered.fewFrames
    (h : Metered s₀ m) (hpending : Pending f m (c :: cs)) (hf : f ≤ 59) :
  FewFrames s₀ m c
  := by
  intro d _ t ht
  obtain ⟨o, ho, -⟩ := closing_some ht
  obtain ⟨hframes, -⟩ := hpending.bounds h ho
  omega

/-- For every run on a stream in which the clock does not go back, there are at most `f` frames and
5000 kbit in any second, and the tick does not wrap around in a window: the products are in range,
nothing is divided by zero and the average is right in every call, exactly if every call that closes
a window delivers at most its 238th frame; and that is so if there are at most 59 frames a
second. -/
theorem averages_iff
    {s : Stream} (hnew : Unmetered s₀ s) (hdelivered : Delivered f (deliveries cs))
    (hrun : Run (meterStep p s₀) (Unwrapped s₀) ⟨s, ⟨none, []⟩⟩ cs m') :
  (Run (meterStep p s₀) (Averages p s₀) ⟨s, ⟨none, []⟩⟩ cs m'
      ↔ Run (meterStep p s₀) (FewFrames s₀) ⟨s, ⟨none, []⟩⟩ cs m')
    ∧ (f ≤ 59 → Run (meterStep p s₀) (Averages p s₀) ⟨s, ⟨none, []⟩⟩ cs m')
  := by
  have hstart : Metered s₀ ⟨s, ⟨none, []⟩⟩ ∧ Pending f ⟨s, ⟨none, []⟩⟩ cs :=
    ⟨hnew.metered, hdelivered.pending⟩
  have hiff := Run.congr (I := fun m cs => Metered s₀ m ∧ Pending f m cs)
    (P := Averages p s₀) (Q := FewFrames s₀) (by
      rintro m c cs m' ⟨hm, hpending⟩ hC hstep
      obtain ⟨hcall, hm'⟩ := hm.step hpending hC hstep
      exact ⟨hcall, hm', hpending.step hstep⟩) hrun hstart
  use hiff
  intro hf
  have hfew := Run.congr (I := fun m cs => Metered s₀ m ∧ Pending f m cs)
    (P := FewFrames s₀) (Q := fun _ _ => True) (by
      rintro m c cs m' ⟨hm, hpending⟩ hC hstep
      obtain ⟨-, hm'⟩ := hm.step hpending hC hstep
      refine ⟨?_, hm', hpending.step hstep⟩
      constructor
      · intro _
        trivial
      · intro _
        apply hm.fewFrames hpending hf) hrun hstart
  apply hiff.mpr
  apply hfew.mpr
  apply hrun.mono fun _ _ _ => trivial

/-- Three calls of `get_bs_data` at 10, 12.5 and 14.1 seconds, whose frames make one window. -/
def threeFrames : List MeterCall :=
  [.getBsData 0 ⟨0, 1000, 0, 0⟩ [] ⟨10, 0, by decide⟩,
    .getBsData 0 ⟨0, 1000, 0, 0⟩ [] ⟨12, 500000, by decide⟩,
    .getBsData 0 ⟨0, 1000, 0, 0⟩ [] ⟨14, 100000, by decide⟩]

theorem newStream_unmetered : Unmetered 0 newStream := ⟨rfl, rfl, rfl, rfl⟩

instance (s₀ : Int) (m : Meter) (c : MeterCall) : Decidable (Unwrapped s₀ m c) := by
  unfold Unwrapped
  infer_instance

/-- In the 4.1 seconds of `threeFrames`, three frames are 73 hundredths of a frame a second. -/
theorem averages_threeFrames :
  ∃ m, Run (meterStep mainStream 0) (Averages mainStream 0) ⟨newStream, ⟨none, []⟩⟩ threeFrames m
    ∧ decide (m.stream.avgFps = 73) = true
  := by
  obtain ⟨m, hrun, hm⟩ := Run.exists_of_exec (meterStep mainStream 0) (Unwrapped 0)
    ⟨newStream, ⟨none, []⟩⟩ (fun m => decide (m.stream.avgFps = 73)) threeFrames
    (by decide +kernel)
  have hdelivered : Delivered 3 (deliveries threeFrames) := by
    constructor
    · decide
    · apply limited_of_total_le
      · intro d _
        decide
      · decide
    · apply limited_of_total_le
      · decide
      · decide
    · decide
  use m, (averages_iff newStream_unmetered hdelivered hrun).2 (by decide), hm

/-! ### A hundred frames a second -/

/-- The call `k` of those of `get_bs_data` that deliver a hundred frames a second. -/
def pacedFrame (k : Nat) : MeterCall :=
  .getBsData 0 ⟨0, 1000, 0, 0⟩ [] ⟨10 + k / 100, k % 100 * 10000, by omega⟩

/-- The frame that is delivered by the call `pacedFrame k`, 10 ms behind the one before it. -/
def pacedDelivery (k : Nat) : Delivery := ⟨10000000 + 10000 * k, 1000⟩

theorem pacedFrame_delivery (k : Nat) : (pacedFrame k).delivery = some (pacedDelivery k) := by
  simp only [pacedFrame, MeterCall.delivery, Int.le_refl, if_true, TimeVal.micros, pacedDelivery]
  congr 2
  omega

theorem deliveries_paced (ks : List Nat) :
  deliveries (ks.map pacedFrame) = ks.map pacedDelivery
  := by
  induction ks with
  | nil => rfl
  | cons k ks ih =>
      rw [List.map_cons, deliveries_some (pacedFrame_delivery k), ih, List.map_cons]

/-- Among the first `n` frames that are delivered at a hundred a second, there are at most a hundred
within a second. -/
theorem paced_during (t : Int) (n : Nat) :
  (during Delivery.time t 1000000 ((List.range n).map pacedDelivery)).length ≤ 100
  := by
  -- the number of the first frame from `t` on
  have hcount := length_filter_range_le (((t - 10000000 + 9999) / 10000).toNat) 100 n
  rw [during, List.filter_map, List.length_map]
  apply Nat.le_trans _ (Nat.le_trans hcount (Nat.min_le_right _ _))
  rw [← List.countP_eq_length_filter, ← List.countP_eq_length_filter]
  apply List.countP_mono_left
  intro k _ hk
  obtain ⟨hle, hlt⟩ := of_decide_eq_true hk
  simp only [pacedDelivery] at hle hlt
  apply decide_eq_true
  omega

theorem paced_delivered (n : Nat) : Delivered 100 ((List.range n).map pacedDelivery) := by
  have hlength : ∀ d ∈ (List.range n).map pacedDelivery, d.length = 1000 := by
    intro d hd
    obtain ⟨k, _, rfl⟩ := List.mem_map.mp hd
    rfl
  constructor
  · rw [List.pairwise_map]
    apply List.pairwise_lt_range.imp
    intro i k hik
    simp only [pacedDelivery]
    omega
  · intro t
    have hcount := paced_during t n
    rw [total_one]
    omega
  · intro t
    have hcount := paced_during t n
    rw [total_const (c := 8000)]
    · omega
    · intro d hd
      rw [hlength d (List.mem_filter.mp hd).1]
      rfl
  · intro d hd
    rw [hlength d hd]
    decide

/-- Frames that come within four seconds behind the one at `o`, which has opened the window, are
taken into it. -/
theorem run_inside
    {o : Int} (ho : m.window.opened = some o) (cs : List MeterCall)
    (hcs : ∀ d ∈ deliveries cs, ticksAt s₀ d.time - ticksAt s₀ o < timeInterval) :
  ∃ m', Run (meterStep p s₀) (Unwrapped s₀) m cs m'
    ∧ m'.window = ⟨some o, m.window.frames ++ deliveries cs⟩
  := by
  induction cs generalizing m with
  | nil =>
      use m, Run.nil m
      rw [deliveries, List.filterMap_nil, List.append_nil, ← ho]
  | cons c cs ih =>
      cases hc : c.delivery with
      | none =>
          rw [deliveries_none hc] at hcs ⊢
          obtain ⟨m', hrun, hm'⟩ := @ih ⟨c.run p m.stream, m.window⟩ ho hcs
          refine ⟨m', Run.cons ?_ ?_ hrun, hm'⟩
          · intro d hd
            rw [hc] at hd
            contradiction
          · rw [meterStep, hc]
            rfl
      | some d =>
          rw [deliveries_some hc] at hcs ⊢
          obtain ⟨hshort, hcs⟩ := List.forall_mem_cons.mp hcs
          have hclosing : m.window.closing s₀ d.time = none := by
            simp only [Window.closing, ho, if_neg (Int.not_le.mpr hshort)]
          have hdeliver : m.window.deliver s₀ d = ⟨some o, m.window.frames ++ [d]⟩ := by
            simp only [Window.deliver, ho, hclosing, Option.isSome_none, Bool.false_eq_true,
              if_false]
          obtain ⟨m', hrun, hm'⟩ := @ih ⟨c.run p m.stream, ⟨some o, m.window.frames ++ [d]⟩⟩ rfl hcs
          refine ⟨m', Run.cons ?_ ?_ hrun, by rw [hm', List.append_assoc]; rfl⟩
          · intro d' hd'
            obtain rfl := Option.some.inj (hc.symm.trans hd')
            constructor
            · intro o' ho' hlong
              obtain rfl := Option.some.inj (ho.symm.trans ho')
              omega
            · rintro (hnone | hsome)
              · rw [ho] at hnone
                contradiction
              · rw [hclosing] at hsome
                contradiction
          · rw [meterStep, hc, Option.elim_some, hdeliver]

/-- At a hundred frames a second, which may be configured, the frame four seconds behind the first
one is the 401st: the product for the frame rate is out of range of an `int`. -/
theorem averages_overflow :
  Msg.frameRateValue "100".toList = 100
    ∧ Delivered 100 (deliveries ((List.range 401).map pacedFrame))
    ∧ ∃ m, Run (meterStep mainStream 0) (Unwrapped 0) ⟨newStream, ⟨none, []⟩⟩
        ((List.range 400).map pacedFrame) m
      ∧ Unwrapped 0 m (pacedFrame 400)
      ∧ m.stream.itvlFps = 400
      ∧ ¬ Averages mainStream 0 m (pacedFrame 400)
  := by
  have hdelivered : Delivered 100 (deliveries ((List.range 401).map pacedFrame)) := by
    rw [deliveries_paced]
    apply paced_delivered
  -- all but the last frame are in the window of the first
  have hinside : ∀ d ∈ deliveries ((List.range' 1 399).map pacedFrame),
      ticksAt 0 d.time - ticksAt 0 10000000 < timeInterval := by
    rw [deliveries_paced]
    intro d hd
    obtain ⟨k, hk, rfl⟩ := List.mem_map.mp hd
    have hk := (List.mem_range'_1.mp hk).2
    simp only [pacedDelivery, ticksAt, timeInterval, rtpHz]
    omega
  obtain ⟨m, hrun, hwindow⟩ := @run_inside 0 mainStream
    ⟨(pacedFrame 0).run mainStream newStream, ⟨some 10000000, [pacedDelivery 0]⟩⟩ 10000000 rfl _
    hinside
  have hcalls : (List.range 400).map pacedFrame
      = pacedFrame 0 :: (List.range' 1 399).map pacedFrame := by
    rw [List.range_eq_range', List.range'_succ, List.map_cons]
  have hall : Run (meterStep mainStream 0) (Unwrapped 0) ⟨newStream, ⟨none, []⟩⟩
      ((List.range 400).map pacedFrame) m := by
    rw [hcalls]
    apply Run.cons _ rfl hrun
    decide
  have hframes : m.window.frames.length = 400 := by
    rw [hwindow, deliveries_paced, List.length_append, List.length_map, List.length_range']
    rfl
  have hopened : m.window.opened = some 10000000 := by
    rw [hwindow]
  obtain ⟨hmetered, hpending⟩ := hall.invariant_left
    (I := fun m cs => Metered 0 m ∧ Pending 100 m (cs ++ [pacedFrame 400])) (by
      rintro m c cs m' ⟨hm, hpending⟩ hC hstep
      obtain ⟨-, hm'⟩ := hm.step hpending hC hstep
      exact ⟨hm', hpending.step hstep⟩) (by
      use newStream_unmetered.metered
      apply Delivered.pending
      rw [List.range_succ, List.map_append] at hdelivered
      apply hdelivered)
  have hclosing : m.window.closing 0 (pacedDelivery 400).time = some 360000 := by
    rw [Window.closing, hopened]
    rfl
  have hunwrapped : Unwrapped 0 m (pacedFrame 400) := by
    intro d hd
    obtain rfl := Option.some.inj ((pacedFrame_delivery 400).symm.trans hd)
    constructor
    · intro o ho _
      obtain rfl := Option.some.inj (hopened.symm.trans ho)
      decide
    · intro _
      decide
  refine ⟨by decide, hdelivered, m, hall, hunwrapped, ?_, ?_⟩
  · rw [hmetered.fps, hframes]
    rfl
  · intro haverages
    obtain ⟨hiff, -⟩ := hmetered.step hpending hunwrapped (p := mainStream) rfl
    have hfew := hiff.mp haverages _ (pacedFrame_delivery 400) _ hclosing
    rw [hframes] at hfew
    omega

end Averages

end Rtspd
