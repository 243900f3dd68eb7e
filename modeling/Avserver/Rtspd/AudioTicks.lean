import Avserver.Rtspd.Ticks

/-!
# The clock of the audio stream

`audio_get_tick` of `rtspd.c` adds to a count of ticks of 8 kHz what has passed since the call
before.  Each amount is rounded down by itself, and of a step over several seconds only one is
counted.  What is lost adds up over the calls, so the count keeps up with the time exactly as long
as that makes no more than a tick (`keeps_time_iff`).
-/

namespace Rtspd.Audio

open Library

/-- `Audio_RTP_HZ` -/
def audioRtpHz : Int := 8000

/-- `audio_sys_tick` and `audio_sys_sec_a` -/
structure AudioClock where
  sysTick : UInt32
  sec : Int
  usec : Int

/-- The clock as it is initialised and as `audio_stop` sets it: no ticks, and no last time, for
which `sec` is -1. -/
def AudioClock.reset : AudioClock := ⟨0, -1, -1⟩

/-- `audio_get_tick` at the time `tv`; the count `sysTick` of the clock behind it is the result. -/
def audioGetTick (tv : TimeVal) (c : AudioClock) : AudioClock :=
  let sec := if c.sec = -1 then tv.sec else c.sec
  let usec := if c.sec = -1 then tv.usec else c.usec
  let tvSec := tv.sec - sec
  let amount :=
    if tvSec > 0 then ((tv.usec + (1000000 - usec)) * audioRtpHz.tdiv 1000).tdiv 1000
    else ((tv.usec - usec) * audioRtpHz.tdiv 1000).tdiv 1000
  ⟨c.sysTick + UInt32.ofInt amount, tv.sec, tv.usec⟩

/-- The result of `audio_get_tick` for the last of the times `t₀` and `ts`, called for each of them
after a reset. -/
def lastTick (t₀ : TimeVal) (ts : List TimeVal) : UInt32 :=
  ((t₀ :: ts).foldl (fun c tv => audioGetTick tv c) AudioClock.reset).sysTick

/-! ### What is counted and what is lost -/

/-- The time in microseconds that `audio_get_tick` counts from a call at the time `t` to the next
one at `u`. -/
def counted (t u : TimeVal) : Int :=
  if t.sec = -1 then 0
  else if u.sec - t.sec > 0 then u.usec + (1000000 - t.usec)
  else u.usec - t.usec

/-- The ticks of 8 kHz that are counted from a call at the time `t` to the next one at `u`, rounded
to zero. -/
def gain (t u : TimeVal) : Int := (counted t u * 8).tdiv 1000

/-- What is lost from a call at `t` to the next one at `u`, in thousandths of a tick: the rest of
the division, and the seconds beyond the first one.  At the second -1, the clock is taken to be
reset. -/
def dropped (t u : TimeVal) : Int :=
  if t.sec = -1 then 8 * (u.micros - t.micros)
  else 8000000 * max 0 (u.sec - t.sec - 1) + 8 * (u.micros - t.micros) % 1000

/-- The ticks that are lost over a sequence of calls, at `t₀` and the times of `ts`. -/
def lost (t₀ : TimeVal) (ts : List TimeVal) : Int := pathSum dropped t₀ ts / 1000

/-- The clock behind a call at the time `t`, with `n` ticks counted so far. -/
def AudioClock.at (n : Int) (t : TimeVal) : AudioClock := ⟨UInt32.ofInt n, t.sec, t.usec⟩

theorem audioGetTick_reset (t : TimeVal) :
  audioGetTick t AudioClock.reset = AudioClock.at 0 t
  := by
  simp only [audioGetTick, AudioClock.reset, AudioClock.at, if_true, Int.sub_self]
  rfl

theorem audioGetTick_at (n : Int) (t u : TimeVal) :
  audioGetTick u (AudioClock.at n t) = AudioClock.at (n + gain t u) u
  := by
  have hrate : audioRtpHz.tdiv 1000 = 8 := rfl
  by_cases hreset : t.sec = -1
  · simp [audioGetTick, AudioClock.at, gain, counted, hreset]
    rfl
  · simp only [audioGetTick, AudioClock.at, gain, counted, hreset, hrate, if_false,
      UInt32.ofInt_add]
    split
    · rfl
    · rfl

/-- The count behind a sequence of calls is the sum of what each step gains, as a number of 32
bits. -/
theorem lastTick_eq (t₀ : TimeVal) (ts : List TimeVal) :
  lastTick t₀ ts = UInt32.ofInt (pathSum gain t₀ ts)
  := by
  have hfold : ∀ (ts : List TimeVal) (n : Int) (t : TimeVal),
      (ts.foldl (fun c tv => audioGetTick tv c) (AudioClock.at n t)).sysTick
        = UInt32.ofInt (n + pathSum gain t ts) := by
    intro ts
    induction ts with
    | nil =>
        intro n t
        rw [pathSum, Int.add_zero]
        rfl
    | cons u us ih =>
        intro n t
        rw [List.foldl_cons, audioGetTick_at, ih, pathSum, Int.add_assoc]
  rw [lastTick, List.foldl_cons, audioGetTick_reset, hfold, Int.zero_add]

/-- Over a step from `t` to `u` that does not go back, the time is what is counted and what is
dropped. -/
theorem gain_add_dropped (t u : TimeVal) (h : t.micros ≤ u.micros) :
  1000 * gain t u + dropped t u = 8 * u.micros - 8 * t.micros
  := by
  have ht := t.normal
  have hu := u.normal
  unfold gain counted dropped
  unfold TimeVal.micros at *
  split
  · simp only [Int.zero_mul, Int.zero_tdiv]
    omega
  · split
    · rw [Int.tdiv_eq_ediv_of_nonneg (by omega)]
      omega
    · rw [Int.tdiv_eq_ediv_of_nonneg (by omega)]
      omega

/-- Over a sequence of calls whose times do not go back, the ticks that are counted and those that
are `lost` make up the time. -/
theorem gain_add_lost {t₀ : TimeVal} {ts : List TimeVal}
    (h : (t₀ :: ts).Pairwise fun t u => t.micros ≤ u.micros) :
  pathSum gain t₀ ts + lost t₀ ts = 8 * ((pathEnd t₀ ts).micros - t₀.micros) / 1000
  := by
  have hsum : pathSum (fun t u => 1000 * gain t u + dropped t u) t₀ ts
      = 8 * (pathEnd t₀ ts).micros - 8 * t₀.micros := by
    rw [pathSum_congr gain_add_dropped h]
    apply pathSum_sub fun t : TimeVal => 8 * t.micros
  rw [pathSum_add (fun t u => 1000 * gain t u), pathSum_mul] at hsum
  rw [lost]
  omega

/-! ### When the clock keeps the time -/

/-- A count that differs from a number by at most 1, up to multiples of `2 ^ 32`. -/
def Near (tick : UInt32) (n : Int) : Prop := ∃ e, -1 ≤ e ∧ e ≤ 1 ∧ tick = UInt32.ofInt (n + e)

/-- The number `n` of ticks lost is at most 1 in size, up to multiples of `2 ^ 32`. -/
def LosesLittle (n : Int) : Prop := n % 2 ^ 32 ≤ 1 ∨ n % 2 ^ 32 = 2 ^ 32 - 1

/-- For every sequence of times that does not go back, the result for the last one is that of a
clock of 8 kHz, with a difference of at most 1, exactly if no more than a tick has been `lost`, to
rounding and to whole seconds that were skipped. -/
theorem keeps_time_iff {t₀ : TimeVal} {ts : List TimeVal}
    (h : (t₀ :: ts).Pairwise fun t u => t.micros ≤ u.micros) :
  Near (lastTick t₀ ts) (8 * ((pathEnd t₀ ts).micros - t₀.micros) / 1000)
    ↔ LosesLittle (lost t₀ ts)
  := by
  rw [← gain_add_lost h, lastTick_eq, Near, LosesLittle]
  simp only [ofInt_eq_iff]
  constructor
  · rintro ⟨e, hlo, hhi, heq⟩
    omega
  · intro hlost
    rcases hlost with hle | heq
    · refine ⟨-(lost t₀ ts % 2 ^ 32), by omega, by omega, ?_⟩
      omega
    · refine ⟨1, by omega, by omega, ?_⟩
      omega

/-- The time of day of `usec` microseconds, fewer than a million, into the second `sec`. -/
def time (sec : Int) (usec : Fin 1000000) : TimeVal where
  sec := sec
  usec := usec.val
  normal := ⟨Int.natCast_nonneg _, Int.ofNat_lt.mpr usec.isLt⟩

/-- The general `keeps_time_iff` at packets that are 40 ms apart, over the end of a second. -/
theorem keeps_time_iff_packets :
  Near (lastTick (time 10 960000) [time 11 0, time 11 40000])
      (8 * ((pathEnd (time 10 960000) [time 11 0, time 11 40000]).micros
        - (time 10 960000).micros) / 1000)
    ↔ LosesLittle (lost (time 10 960000) [time 11 0, time 11 40000])
  := keeps_time_iff (by decide)

/-- Two calls that are two seconds apart: `audio_get_tick` counts only 8000 ticks, the ones of a
single second. -/
theorem loses_second :
  lastTick (time 10 0) [time 12 0] = 8000
    ∧ 8 * ((pathEnd (time 10 0) [time 12 0]).micros - (time 10 0).micros) / 1000 = 16000
    ∧ ¬ Near (lastTick (time 10 0) [time 12 0])
      (8 * ((pathEnd (time 10 0) [time 12 0]).micros - (time 10 0).micros) / 1000)
  := by
  have htick : lastTick (time 10 0) [time 12 0] = UInt32.ofInt 8000 := by decide
  have hmicros : 8 * ((pathEnd (time 10 0) [time 12 0]).micros - (time 10 0).micros) / 1000
      = 16000 := by decide
  refine ⟨by decide, hmicros, ?_⟩
  rw [htick, hmicros]
  rintro ⟨e, hlo, hhi, heq⟩
  rw [ofInt_eq_iff] at heq
  omega

/-- Five calls that are 0.1 ms apart: each step is rounded down to nothing. -/
example : lastTick (time 10 0) [time 10 100, time 10 200, time 10 300, time 10 400, time 10 500] = 0
    ∧ 8 * ((time 10 500).micros - (time 10 0).micros) / 1000 = 4 := by
  decide

end Rtspd.Audio
