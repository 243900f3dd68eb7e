import Avserver.Library.Arm
import Avserver.Library.Quantizer
import Avserver.Rtspd.AudioBlock

/-!
# The routines of `g711s.s`

`g711_encode_frame` calls `G711_linear2ulaw`, a routine of ARM instructions, for every sample that
it sends.  The routine adds an offset to the magnitude of the sample, finds the segment by four
comparisons, and puts the segment and the four bits behind the leading one into a byte, whose bits
are inverted.  `G711_ulaw2linear` is the way back.

The routine is what `Audio.g711Linear2ulaw` says (`call_linear2ulaw`), and the byte stands for the
middle of a cell of the quantizer with four bits behind the leading one
(`two_mul_ulawLinear`).  Therefore what is decoded is within a part in 32 of the sample with its
offset (`linear2ulaw_ulaw2linear`), it has the order of the samples
(`linear2ulaw_ulaw2linear_mono`), and every byte but one is the code of what it stands for
(`ulaw2linear_linear2ulaw`).  Of a block that `do_audio_proc` reads, a viewer hears the left
channel with this precision (`block_heard`), and a viewer whose stream plays does hear it
(`listener_hears`).
-/

namespace Rtspd.G711

open Library Library.Arm

/-- The label in `G711_linear2ulaw`, to which the routine branches where no segment has to be
found. -/
inductive Bench where
  | bench1
deriving DecidableEq

/-- `G711_linear2ulaw` -/
def linear2ulaw : List (Line Bench) :=
  [.instr (.cmp .r0 (.imm 0)),
   .instr (.op .rsb false .lt .r0 .r0 (.imm 0x84)),
   .instr (.mov false .lt .r1 (.imm 0x7f)),
   .instr (.op .add false .ge .r0 .r0 (.imm 0x84)),
   .instr (.mov false .ge .r1 (.imm 0xff)),
   .instr (.mov false .al .r2 (.imm 0)),
   .instr (.mov true .al .r3 (.shifted .r0 .lsr (.imm 3))),
   .branch .le .bench1,
   .instr (.cmp .r0 (.imm 0x1000)),
   .instr (.mov false .ge .r0 (.shifted .r0 .lsr (.imm 4))),
   .instr (.op .add false .ge .r2 .r2 (.imm 4)),
   .instr (.cmp .r0 (.imm 0x400)),
   .instr (.mov false .ge .r0 (.shifted .r0 .lsr (.imm 2))),
   .instr (.op .add false .ge .r2 .r2 (.imm 2)),
   .instr (.cmp .r0 (.imm 0x100)),
   .instr (.mov false .ge .r0 (.shifted .r0 .lsr (.imm 1))),
   .instr (.op .add false .ge .r2 .r2 (.imm 1)),
   .instr (.cmp .r0 (.imm 0x100)),
   .instr (.op .add false .ge .r2 .r2 (.imm 1)),
   .label .bench1,
   .instr (.cmp .r2 (.imm 8)),
   .instr (.mov false .ge .r0 (.imm 0x7f)),
   .instr (.mov false .lt .r0 (.shifted .r3 .asr (.reg .r2))),
   .instr (.op .and false .lt .r0 .r0 (.imm 0xf)),
   .instr (.op .orr false .lt .r0 .r0 (.shifted .r2 .lsl (.imm 4))),
   .instr (.op .eor false .al .r0 .r0 (.reg .r1)),
   .ret]

/-- `G711_ulaw2linear` -/
def ulaw2linear : List (Line Bench) :=
  [.instr (.mvn true .al .r1 (.shifted .r0 .lsl (.imm 25))),
   .instr (.mov false .al .r1 (.shifted .r1 .lsr (.imm 29))),
   .instr (.mvn false .al .r0 (.shifted .r0 .lsl (.imm 3))),
   .instr (.op .and false .al .r0 .r0 (.imm 0x78)),
   .instr (.op .add false .al .r0 .r0 (.imm 0x84)),
   .instr (.mov false .al .r0 (.shifted .r0 .lsl (.reg .r1))),
   .instr (.op .sub false .cs .r0 .r0 (.imm 0x84)),
   .instr (.op .rsb false .cc .r0 .r0 (.imm 0x84)),
   .ret]

/-! ### The segment -/

/-- The lines of `G711_linear2ulaw` that find the segment in `r2`, by three shifts of `r0` and a
comparison. -/
def segment : List Instr :=
  halve .r0 .r2 0x1000 4 4 ++ halve .r0 .r2 0x400 2 2 ++ halve .r0 .r2 0x100 1 1
    ++ [.cmp .r0 (.imm 0x100), .op .add false .ge .r2 .r2 (.imm 1)]

variable {m : Machine} {a k : Nat}

/-- What the lines for the segment are about: three times, the number `a` is moved to the right and
the segment is counted up, and the segment is counted up once more. -/
theorem ulawSegment_eq (a : Nat) :
  let a₁ := if 0x1000 ≤ a then a >>> 4 else a
  let n₁ := if 0x1000 ≤ a then 0 + 4 else 0
  let a₂ := if 0x400 ≤ a₁ then a₁ >>> 2 else a₁
  let n₂ := if 0x400 ≤ a₁ then n₁ + 2 else n₁
  let a₃ := if 0x100 ≤ a₂ then a₂ >>> 1 else a₂
  let n₃ := if 0x100 ≤ a₂ then n₂ + 1 else n₂
  Audio.ulawSegment a = if 0x100 ≤ a₃ then n₃ + 1 else n₃
  := by
  rw [Audio.ulawSegment]
  grind

/-- The segment of a number `a` is one of the eight, or 8 for what is beyond them. -/
theorem ulawSegment_le (a : Nat) :
  Audio.ulawSegment a ≤ 8
  := by
  rw [ulawSegment_eq]
  grind

/-- The lines for the segment find what is modelled by `Audio.ulawSegment`, and change no other
register. -/
theorem exec_segment
    (ha : a < 2 ^ 31) (h0 : m.reg .r0 = .ofNat 32 a) (h2 : m.reg .r2 = 0) :
  (exec segment m).reg .r2 = .ofNat 32 (Audio.ulawSegment a)
    ∧ ∀ r, r ≠ .r0 → r ≠ .r2 → (exec segment m).reg r = m.reg r
  := by
  rw [segment, exec_append, exec_append, exec_append, ulawSegment_eq]
  have hinit : Scaled m m .r0 .r2 a 0 := ⟨ha, h0, h2, fun _ _ _ => rfl⟩
  have h₁ := hinit.halve 0x1000 4 4 (by decide) (by decide)
  have h₂ := h₁.halve 0x400 2 2 (by decide) (by decide)
  have h₃ := h₂.halve 0x100 1 1 (by decide) (by decide)
  have h₄ := h₃.bump 0x100 1 (by decide) (by decide)
  exact ⟨h₄.count, h₄.frame⟩

/-! ### `G711_linear2ulaw` -/

/-- The first lines of `G711_linear2ulaw`: the magnitude with its offset, the mask of the sign, and
the magnitude without its lowest bits. -/
def ulawMagnitude : List Instr :=
  [.cmp .r0 (.imm 0),
   .op .rsb false .lt .r0 .r0 (.imm 0x84),
   .mov false .lt .r1 (.imm 0x7f),
   .op .add false .ge .r0 .r0 (.imm 0x84),
   .mov false .ge .r1 (.imm 0xff),
   .mov false .al .r2 (.imm 0),
   .mov true .al .r3 (.shifted .r0 .lsr (.imm 3))]

/-- The last lines of `G711_linear2ulaw`, which put the code together from the segment and four
bits. -/
def ulawCode : List Instr :=
  [.cmp .r2 (.imm 8),
   .mov false .ge .r0 (.imm 0x7f),
   .mov false .lt .r0 (.shifted .r3 .asr (.reg .r2)),
   .op .and false .lt .r0 .r0 (.imm 0xf),
   .op .orr false .lt .r0 .r0 (.shifted .r2 .lsl (.imm 4)),
   .op .eor false .al .r0 .r0 (.reg .r1)]

theorem linear2ulaw_eq :
  linear2ulaw = block ulawMagnitude
    ++ .branch .le .bench1 :: (block segment ++ .label .bench1 :: (block ulawCode ++ [.ret]))
  := by
  rfl

theorem exec_ulawMagnitude {x : Int} (hx : -32768 ≤ x ∧ x < 32768) (h0 : m.reg .r0 = .ofInt 32 x) :
  let m' := exec ulawMagnitude m
  m'.reg .r0 = .ofNat 32 (0x84 + x.natAbs)
    ∧ m'.reg .r1 = (if x < 0 then 0x7f else 0xff)
    ∧ m'.reg .r2 = 0
    ∧ m'.reg .r3 = .ofNat 32 ((0x84 + x.natAbs) >>> 3)
    ∧ Cond.le.holds m'.flags = false
  := by
  have hlt : (BitVec.ofInt 32 x).slt 0#32 = decide (x < 0) := by
    rw [BitVec.slt_eq_decide, BitVec.toInt_ofInt_eq_self (by decide) (by omega) (by omega)]
    rfl
  have hshift : BitVec.ofNat 32 (132 + x.natAbs) >>> 3 = .ofNat 32 ((132 + x.natAbs) >>> 3) :=
    ushiftRight_ofNat (by omega) 3
  have hle (c : Bool) : Cond.le.holds
      ((Flags.sub (BitVec.ofInt 32 x) 0#32).logical (.ofNat 32 ((132 + x.natAbs) >>> 3)) c)
        = false := by
    rw [Cond.holds_le_logical (Flags.sub_zero_v _), decide_eq_false_iff_not,
      Nat.shiftRight_eq_div_pow]
    · omega
    · rw [Nat.shiftRight_eq_div_pow]
      omega
  by_cases h : x < 0
  · have hsum : 132#32 - .ofInt 32 x = .ofNat 32 (132 + x.natAbs) := by
      rw [BitVec.ofNat_add, BitVec.sub_eq_add_neg, neg_ofInt h.le]
    simp [ulawMagnitude, Instr.exec, h0, hlt, h, hsum, hshift, hle]
  · have hsum : .ofInt 32 x + 132#32 = BitVec.ofNat 32 (132 + x.natAbs) := by
      rw [BitVec.ofNat_add, BitVec.add_comm, ofInt_of_nonneg (Int.not_lt.mp h)]
    simp [ulawMagnitude, Instr.exec, h0, hlt, h, hsum, hshift, hle]

theorem exec_ulawCode
    (ha : a < 2 ^ 31) (hk : k ≤ 8) (h2 : m.reg .r2 = .ofNat 32 k) (h3 : m.reg .r3 = .ofNat 32 a) :
  (exec ulawCode m).reg .r0
    = .ofNat 32 (if 8 ≤ k then 0x7f else (a >>> k &&& 0xf) ||| k <<< 4) ^^^ m.reg .r1
  := by
  have hlt : (BitVec.ofNat 32 k).slt 8#32 = decide (k < 8) := slt_ofNat (by omega) (by decide)
  by_cases h : k < 8
  · have hmod : k % 256 = k := Nat.mod_eq_of_lt (by omega)
    simp [ulawCode, Instr.exec, h2, h3, hlt, h, hmod, sshiftRight_ofNat ha, shiftLeft_ofNat,
      Nat.not_le.mpr h]
  · simp [ulawCode, Instr.exec, h2, hlt, h, Nat.not_lt.mp h]

/-- The seven bits of the segment and behind the leading bit, from a magnitude `a` with its
offset. -/
def ulawBits (a : Nat) : Nat :=
  if 8 ≤ Audio.ulawSegment a then 0x7f
  else (a >>> 3 >>> Audio.ulawSegment a &&& 0xf) ||| Audio.ulawSegment a <<< 4

/-- The bits of a code without its sign are seven, for every magnitude `a`. -/
theorem ulawBits_lt (a : Nat) :
  ulawBits a < 128
  := by
  rw [ulawBits]
  split
  · decide
  · apply Nat.or_lt_two_pow (n := 7)
    · apply Nat.lt_of_le_of_lt Nat.and_le_right (by decide)
    · rw [Nat.shiftLeft_eq]
      omega

/-- The code of a sample `x`, by its bits and the mask of its sign. -/
theorem linear2ulaw_toNat {x : Int} (hx : -32768 ≤ x ∧ x < 32768) :
  (Audio.g711Linear2ulaw x).toNat
    = ulawBits (0x84 + x.natAbs) ^^^ (if x < 0 then 0x7f else 0xff)
  := by
  have hne : (0x84 + x.natAbs) >>> 3 ≠ 0 := by
    rw [Nat.shiftRight_eq_div_pow]
    omega
  rw [Audio.g711Linear2ulaw, ulawBits]
  simp only [if_neg hne, UInt8.toNat_ofNat']
  rw [Nat.mod_eq_of_lt]
  apply Nat.xor_lt_two_pow
  · apply Nat.lt_trans (ulawBits_lt _) (by decide)
  · split <;> decide

/-- The routine `G711_linear2ulaw` gives, for every sample `x`, the code that is modelled by
`Audio.g711Linear2ulaw`. -/
theorem call_linear2ulaw (m : Machine) {x : Int} (hx : -32768 ≤ x ∧ x < 32768) :
  call linear2ulaw m (.ofInt 32 x) = some (.ofNat 32 (Audio.g711Linear2ulaw x).toNat)
  := by
  obtain ⟨h0, h1, h2, h3, hle⟩ := exec_ulawMagnitude hx (m.arg_reg (.ofInt 32 x))
  obtain ⟨hseg, hframe⟩ := exec_segment (by omega) h0 h2
  rw [call, linear2ulaw_eq, run_block, run_branch_not _ hle, run_block, run, run_block, run,
    Option.map_some]
  rw [exec_ulawCode (by rw [Nat.shiftRight_eq_div_pow]; omega) (ulawSegment_le _) hseg
    ((hframe .r3 (by decide) (by decide)).trans h3), hframe .r1 (by decide) (by decide), h1]
  have hmask : (if x < 0 then 0x7f else 0xff : BitVec 32)
      = .ofNat 32 (if x < 0 then 0x7f else 0xff) := by
    split <;> rfl
  rw [hmask, ← BitVec.ofNat_xor, linear2ulaw_toNat hx, ulawBits]

/-! ### `G711_ulaw2linear` -/

/-- The magnitude with its offset that the code `c` stands for, whose bits are stored inverted. -/
def ulawLevel (c : Nat) : Nat :=
  (8 * (15 - c % 16) + 0x84) * 2 ^ (7 - c / 16 % 8)

/-- The number that the code `c` stands for, by its highest bit a positive or a negative one. -/
def ulawLinear (c : Nat) : Int :=
  if 128 ≤ c then ulawLevel c - 0x84 else 0x84 - ulawLevel c

/-- The result of the routine `G711_ulaw2linear` on a word `w`, as a term of the operations on
words. -/
def ulawWord (w : BitVec 32) : BitVec 32 :=
  let r := ((~~~(w <<< 3) &&& 0x78) + 0x84) <<< ((~~~(w <<< 25) >>> 29).toNat % 256)
  if w[7] then r - 0x84 else 0x84 - r

theorem call_ulaw2linear_word (m : Machine) (w : BitVec 32) :
  call ulaw2linear m w = some (ulawWord w)
  := by
  have h : call ulaw2linear m w = some ((exec
    [.mvn true .al .r1 (.shifted .r0 .lsl (.imm 25)),
     .mov false .al .r1 (.shifted .r1 .lsr (.imm 29)),
     .mvn false .al .r0 (.shifted .r0 .lsl (.imm 3)),
     .op .and false .al .r0 .r0 (.imm 0x78),
     .op .add false .al .r0 .r0 (.imm 0x84),
     .mov false .al .r0 (.shifted .r0 .lsl (.reg .r1)),
     .op .sub false .cs .r0 .r0 (.imm 0x84),
     .op .rsb false .cc .r0 .r0 (.imm 0x84)] (m.arg w)).reg .r0) := rfl
  rw [h, ulawWord]
  cases hw : w[7]
  · simp [Instr.exec, Operand.carry, Shift.carry, hw, Flags.logical, Cond.holds]
  · simp [Instr.exec, Operand.carry, Shift.carry, hw, Flags.logical, Cond.holds]

theorem ulawWord_ofNat :
  ∀ c : Fin 256, ulawWord (.ofNat 32 c) = .ofInt 32 (ulawLinear c)
  := by
  decide +kernel

/-! ### What is heard of a sample -/

/-- A segment begins at a power of two: the logarithm of the magnitude `a` is its segment and 7. -/
theorem log_eq (ha : 128 ≤ a) (ha' : a < 2 ^ 16) :
  Nat.log 2 a = Audio.ulawSegment a + 7
  := by
  have h : 2 ^ (Audio.ulawSegment a + 7) ≤ a ∧ a < 2 ^ (Audio.ulawSegment a + 7 + 1) := by
    simp only [ulawSegment_eq, Nat.shiftRight_eq_div_pow]
    split_ifs <;> omega
  apply Nat.log_eq_of_pow_le_of_lt_pow h.1 h.2

/-- Twice the level of a code that is put together from the segment `k` and four bits of `a`. -/
theorem level_code (hlog : Nat.log 2 a = k + 7) (hk : k < 8) :
  let code := (a >>> 3 >>> k &&& 0xf) ||| k <<< 4
  2 * ((8 * (code % 16) + 0x84) * 2 ^ (code / 16)) = Quantizer.level 4 3 a
  := by
  intro code
  have hne : a ≠ 0 := by
    rintro rfl
    rw [Nat.log_zero_right] at hlog
    omega
  have hlow : 2 ^ (k + 7) ≤ a := by
    rw [← hlog]
    apply Nat.pow_log_le_self 2 hne
  have hhigh : a < 2 ^ (k + 8) := by
    apply Nat.lt_pow_of_log_lt (by decide)
    omega
  have hcode : code = 16 * k + a / 2 ^ (k + 3) % 16 := by
    have hand : a >>> 3 >>> k &&& 0xf = a / 2 ^ (k + 3) % 16 := by
      rw [← Nat.shiftRight_add, Nat.shiftRight_eq_div_pow, Nat.add_comm,
        Nat.and_two_pow_sub_one_eq_mod _ 4]
    have hadd := Nat.shiftLeft_add_eq_or_of_lt (show a / 2 ^ (k + 3) % 16 < 2 ^ 4 by omega) k
    rw [Nat.shiftLeft_eq] at hadd
    show _ ||| _ = _
    rw [hand, Nat.or_comm, Nat.shiftLeft_eq]
    omega
  have hq : 16 ≤ a / 2 ^ (k + 3) ∧ a / 2 ^ (k + 3) < 32 := by
    rw [Nat.le_div_iff_mul_le (Nat.two_pow_pos _), Nat.div_lt_iff_lt_mul (Nat.two_pow_pos _)]
    rw [Nat.pow_add] at hlow hhigh ⊢
    omega
  have hstep : Quantizer.step 4 3 a = k + 3 := by
    rw [Quantizer.step]
    omega
  rw [Quantizer.level, hstep, Quantizer.middle, hcode]
  have hmod : (16 * k + a / 2 ^ (k + 3) % 16) % 16 = a / 2 ^ (k + 3) - 16 := by omega
  have hdiv : (16 * k + a / 2 ^ (k + 3) % 16) / 16 = k := by omega
  rw [hmod, hdiv]
  generalize a / 2 ^ (k + 3) = q at hq ⊢
  obtain ⟨q, rfl⟩ := Nat.exists_eq_add_of_le hq.1
  rw [Nat.add_sub_cancel_left]
  ring

/-- Behind the mask of the sign, the bits of a `code` are inverted, and so they are decoded. -/
theorem ulawLinear_xor :
  ∀ code : Fin 128,
    ulawLinear (code ^^^ 0xff) = ((8 * (code % 16) + 0x84) * 2 ^ (code / 16 : Nat) : Nat) - 0x84
      ∧ ulawLinear (code ^^^ 0x7f) = 0x84 - ((8 * (code % 16) + 0x84) * 2 ^ (code / 16 : Nat) : Nat)
  := by
  decide +kernel

/-- The level of the bits of the magnitude `a` is that of a quantizer, cut off at `2 ^ 15`. -/
theorem two_mul_level (ha : 128 ≤ a) (ha' : a < 2 ^ 16) :
  2 * ((8 * (ulawBits a % 16) + 0x84) * 2 ^ (ulawBits a / 16))
    = Quantizer.level 4 3 (min a 32767)
  := by
  have hlog := log_eq ha ha'
  have hseg := ulawSegment_le a
  rcases Nat.lt_or_ge (Audio.ulawSegment a) 8 with hlt | hge
  · have hmin : a < 2 ^ 15 := by
      apply Nat.lt_pow_of_log_lt (by decide)
      omega
    rw [Nat.min_eq_left (by omega), ulawBits, if_neg (Nat.not_le.mpr hlt)]
    apply level_code hlog hlt
  · have hmin : 2 ^ 15 ≤ a := by
      apply Nat.pow_le_of_le_log (by omega)
      omega
    rw [Nat.min_eq_right (by omega), ulawBits, if_pos hge]
    decide +kernel

/-- What is decoded from the code of a sample `x` is the level of its magnitude with the offset,
under its sign. -/
theorem two_mul_ulawLinear {x : Int} (hx : -32768 ≤ x ∧ x < 32768) :
  2 * ulawLinear (Audio.g711Linear2ulaw x).toNat
    = if x < 0 then 2 * 0x84 - (Quantizer.level 4 3 (min (0x84 + x.natAbs) 32767) : Int)
      else Quantizer.level 4 3 (min (0x84 + x.natAbs) 32767) - 2 * 0x84
  := by
  have hbits := ulawLinear_xor ⟨_, ulawBits_lt (0x84 + x.natAbs)⟩
  have hlevel := two_mul_level (a := 0x84 + x.natAbs) (by omega) (by omega)
  rw [linear2ulaw_toNat hx, ← hlevel]
  split
  · rw [hbits.2]
    push_cast
    ring
  · rw [hbits.1]
    push_cast
    ring

/-- The number `y` that is decoded is near the sample `x`, by a 32nd of its magnitude with the
offset, and has its sign. -/
structure Near (x y : Int) : Prop where
  error : 32 * (y - x).natAbs ≤ x.natAbs + 0x84
  nonneg : 0 ≤ x → 0 ≤ y
  nonpos : x < 0 → y ≤ 0

/-- The level of the magnitude `a` with the offset, which may be cut off, is near it. -/
theorem level_near (ha : 0x84 ≤ a) (ha' : a ≤ 0x84 + 32768) :
  32 * a ≤ 16 * Quantizer.level 4 3 (min a 32767) + a
    ∧ 16 * Quantizer.level 4 3 (min a 32767) ≤ 32 * a + a
    ∧ 2 * 0x84 ≤ Quantizer.level 4 3 (min a 32767)
  := by
  rcases Nat.le_total a 32767 with hle | hge
  · rw [Nat.min_eq_left hle]
    have hlow : Quantizer.level 4 3 0x84 ≤ Quantizer.level 4 3 a := Quantizer.level_mono ha
    have hlowest : Quantizer.level 4 3 0x84 = 2 * 0x84 := by decide +kernel
    have herror := Quantizer.level_error 4 3 a
    have hstep := @Quantizer.two_pow_step_le 4 3 a (by omega)
    omega
  · have hhighest : Quantizer.level 4 3 32767 = 64512 := by decide +kernel
    rw [Nat.min_eq_right hge, hhighest]
    omega

/-- The code of every sample `x` is decoded to a number `Near` the sample. -/
theorem near_ulawLinear {x : Int} (hx : -32768 ≤ x ∧ x < 32768) :
  Near x (ulawLinear (Audio.g711Linear2ulaw x).toNat)
  := by
  have hlinear := two_mul_ulawLinear hx
  have hnear := level_near (a := 0x84 + x.natAbs) (by omega) (by omega)
  split at hlinear
  · constructor <;> omega
  · constructor <;> omega

/-- The numbers that are decoded from the codes of two samples have the order of `x` and `x'`. -/
theorem ulawLinear_mono {x x' : Int}
    (hx : -32768 ≤ x) (hle : x ≤ x') (hx' : x' < 32768) :
  ulawLinear (Audio.g711Linear2ulaw x).toNat ≤ ulawLinear (Audio.g711Linear2ulaw x').toNat
  := by
  have hlinear := @two_mul_ulawLinear x (by omega)
  have hlinear' := @two_mul_ulawLinear x' (by omega)
  have hnear := level_near (a := 0x84 + x.natAbs) (by omega) (by omega)
  have hnear' := level_near (a := 0x84 + x'.natAbs) (by omega) (by omega)
  have hmono (h : 0x84 + x.natAbs ≤ 0x84 + x'.natAbs) :=
    @Quantizer.level_mono 4 3 _ _ (min_le_min_right 32767 h)
  have hmono' (h : 0x84 + x'.natAbs ≤ 0x84 + x.natAbs) :=
    @Quantizer.level_mono 4 3 _ _ (min_le_min_right 32767 h)
  split at hlinear
  · split at hlinear'
    · have := hmono' (by omega)
      omega
    · omega
  · split at hlinear'
    · omega
    · have := hmono (by omega)
      omega

/-- The routine `G711_ulaw2linear` gives, for every byte `c`, the number that the code stands
for. -/
theorem call_ulaw2linear (m : Machine) (c : UInt8) :
  call ulaw2linear m (.ofNat 32 c.toNat) = some (.ofInt 32 (ulawLinear c.toNat))
  := by
  rw [call_ulaw2linear_word, ulawWord_ofNat ⟨c.toNat, c.toNat_lt⟩]

/-- For every sample `x`, the two routines run to their ends: the encoder gives a byte, and the
decoder gives a number near the sample. -/
theorem linear2ulaw_ulaw2linear (m m' : Machine) {x : Int} (hx : -32768 ≤ x ∧ x < 32768) :
  ∃ (c : UInt8) (y : Int), call linear2ulaw m (.ofInt 32 x) = some (.ofNat 32 c.toNat)
    ∧ call ulaw2linear m' (.ofNat 32 c.toNat) = some (.ofInt 32 y)
    ∧ Near x y
  := by
  use Audio.g711Linear2ulaw x, ulawLinear (Audio.g711Linear2ulaw x).toNat
  use call_linear2ulaw m hx, call_ulaw2linear m' _
  apply near_ulawLinear hx

theorem linear2ulaw_ulaw2linear_clipped :
  ∃ (c : UInt8) (y : Int),
    call linear2ulaw ⟨fun _ => 0, ⟨false, false, false, false⟩⟩ (.ofInt 32 (-32768))
        = some (.ofNat 32 c.toNat)
      ∧ call ulaw2linear ⟨fun _ => 0, ⟨false, false, false, false⟩⟩ (.ofNat 32 c.toNat)
        = some (.ofInt 32 y)
      ∧ Near (-32768) y
  := linear2ulaw_ulaw2linear ⟨fun _ => 0, ⟨false, false, false, false⟩⟩
      ⟨fun _ => 0, ⟨false, false, false, false⟩⟩ (by decide)

/-- The numbers that the 256 codes stand for have 16 bits, like the samples. -/
theorem ulawLinear_bounds :
  ∀ c : Fin 256, -32768 ≤ ulawLinear c ∧ ulawLinear c < 32768
  := by
  decide +kernel

/-- The number that is decoded from `c` is the one that its register is read as. -/
theorem toInt_ulawLinear (c : UInt8) :
  (BitVec.ofInt 32 (ulawLinear c.toNat)).toInt = ulawLinear c.toNat
  := by
  obtain ⟨hle, hlt⟩ := ulawLinear_bounds ⟨c.toNat, c.toNat_lt⟩
  exact BitVec.toInt_ofInt_eq_self (by decide) (Int.le_trans (by decide) hle)
    (Int.lt_trans hlt (by decide))

/-- The order of two samples `x` and `x'` is the order of what the two routines make of them. -/
theorem linear2ulaw_ulaw2linear_mono (m m' : Machine) {x x' : Int}
    (hx : -32768 ≤ x) (hle : x ≤ x') (hx' : x' < 32768) :
  ∃ c c' y y' : BitVec 32, call linear2ulaw m (.ofInt 32 x) = some c
    ∧ call linear2ulaw m (.ofInt 32 x') = some c'
    ∧ call ulaw2linear m' c = some y
    ∧ call ulaw2linear m' c' = some y'
    ∧ y.toInt ≤ y'.toInt
  := by
  refine ⟨_, _, _, _, call_linear2ulaw m ⟨hx, by omega⟩, call_linear2ulaw m ⟨by omega, hx'⟩,
    call_ulaw2linear m' _, call_ulaw2linear m' _, ?_⟩
  rw [toInt_ulawLinear, toInt_ulawLinear]
  apply ulawLinear_mono hx hle hx'

theorem linear2ulaw_ulaw2linear_mono_negative :
  ∃ c c' y y' : BitVec 32,
    call linear2ulaw ⟨fun _ => 0, ⟨false, false, false, false⟩⟩ (.ofInt 32 (-5)) = some c
      ∧ call linear2ulaw ⟨fun _ => 0, ⟨false, false, false, false⟩⟩ (.ofInt 32 (-4)) = some c'
      ∧ call ulaw2linear ⟨fun _ => 0, ⟨false, false, false, false⟩⟩ c = some y
      ∧ call ulaw2linear ⟨fun _ => 0, ⟨false, false, false, false⟩⟩ c' = some y'
      ∧ y.toInt ≤ y'.toInt
  := linear2ulaw_ulaw2linear_mono ⟨fun _ => 0, ⟨false, false, false, false⟩⟩
      ⟨fun _ => 0, ⟨false, false, false, false⟩⟩ (by decide) (by decide) (by decide)

/-- The code of the number that a code `c` stands for is `c` again, but for that of a negative
zero. -/
theorem linear2ulaw_ulawLinear :
  ∀ c : Fin 256,
    (Audio.g711Linear2ulaw (ulawLinear c)).toNat = if c.val = 0x7f then 0xff else c.val
  := by
  decide +kernel

/-- Every byte `c` is the code of what is decoded from it, but for the code of a negative zero,
whose number has the code of zero. -/
theorem ulaw2linear_linear2ulaw (m m' : Machine) (c : UInt8) :
  ∃ y, call ulaw2linear m (.ofNat 32 c.toNat) = some y
    ∧ call linear2ulaw m' y = some (.ofNat 32 (if c = 0x7f then 0xff else c.toNat))
  := by
  refine ⟨_, call_ulaw2linear m c, ?_⟩
  rw [call_linear2ulaw m' (ulawLinear_bounds ⟨c.toNat, c.toNat_lt⟩),
    linear2ulaw_ulawLinear ⟨c.toNat, c.toNat_lt⟩]
  simp only [← UInt8.toNat_inj, UInt8.reduceToNat]

/-! ### What is heard of a block -/

/-- The sample with the bytes `lo` and `hi` has 16 bits, which is what the routines are for. -/
theorem sample_bounds (lo hi : UInt8) :
  -32768 ≤ Audio.sample lo hi ∧ Audio.sample lo hi < 32768
  := by
  have hlo := lo.toNat_lt
  have hhi := hi.toNat_lt
  rw [Audio.sample]
  split <;> omega

/-- Every sample `s` that is in the buffer `buf` has 16 bits, which is what the routines are for. -/
theorem sampleAt_bounds {buf : List UInt8} {i : Nat} {s : Int} (h : Audio.sampleAt buf i = some s) :
  -32768 ≤ s ∧ s < 32768
  := by
  obtain ⟨lo, -, h⟩ := Option.bind_eq_some_iff.mp h
  obtain ⟨hi, -, h⟩ := Option.bind_eq_some_iff.mp h
  obtain rfl := Option.some.inj h
  apply sample_bounds

/-- The frame `data` of a listener stands for the left channel of `audioData`: every byte of it is
what `G711_linear2ulaw` gives for its sample, and is decoded to a number near the sample. -/
theorem heard_of_left
    {audioData data : List UInt8} {chNum len : Nat}
    (hleft : (Audio.Sent.rtp chNum data len).Left audioData) (m : Machine) {j : Nat}
    (hj : j < audioData.length / 4) :
  ∃ s c y, Audio.sampleAt audioData (4 * j) = some s
    ∧ data[j]? = some c
    ∧ call linear2ulaw m (.ofInt 32 s) = some (.ofNat 32 c.toNat)
    ∧ call ulaw2linear m (.ofNat 32 c.toNat) = some (.ofInt 32 y)
    ∧ Near s y
  := by
  obtain ⟨-, -, hbyte⟩ := hleft
  obtain ⟨s, hs⟩ := @Audio.sampleAt_isSome audioData (4 * j) (by omega)
  have hbounds := sampleAt_bounds hs
  refine ⟨s, Audio.g711Linear2ulaw s, _, hs, ?_, call_linear2ulaw m hbounds,
    call_ulaw2linear m _, ?_⟩
  · rw [hbyte j hj, hs]
    rfl
  · apply near_ulawLinear hbounds

/-- A viewer hears the block: if the stream of the channel `c` plays, nothing is posted for it and
its audio is configured as `G711`, then a frame is enqueued on it whose bytes are decoded to numbers
near the samples of the left channel. -/
theorem listener_hears
    {b : Audio.Buffers} {ablkSize L : Nat} (hL : 0 < L) (hablk : L ≤ ablkSize)
    (hdata : b.audioData.length = L) (hsaudio : b.saudio.length = L)
    (hg711 : b.g711Data.length = ablkSize / 4) {poll revents : Int} (hpoll : 0 < poll)
    (hrevents : revents ≠ 0) (nvrSendStatus : Int) {listeners : List Audio.Listener} {c : Nat}
    {l : Audio.Listener} (hl : listeners[c]? = some l) (hears : l.Hears) (m : Machine) :
  ∃ sent data, Audio.doAudioProc poll revents L nvrSendStatus b listeners = some sent
    ∧ .rtp c data (L / 4) ∈ sent
    ∧ ∀ j < L / 4, ∃ s y code, Audio.sampleAt b.audioData (4 * j) = some s
      ∧ data[j]? = some code
      ∧ call ulaw2linear m (.ofNat 32 code.toNat) = some (.ofInt 32 y)
      ∧ Near s y
  := by
  have hsize : L / 4 ≤ b.g711Data.length := by
    rw [hg711]
    apply Nat.div_le_div_right hablk
  obtain ⟨sent, data, hsent, hmem, hleft⟩ := Audio.listener_gets_frame hL hdata hsaudio hsize hpoll
    hrevents nvrSendStatus hl hears
  refine ⟨sent, data, hsent, hmem, ?_⟩
  intro j hj
  obtain ⟨s, code, y, hs, hcode, -, hy, hnear⟩ := heard_of_left hleft m (hdata ▸ hj)
  exact ⟨s, y, code, hs, hcode, hy, hnear⟩

/-- Whatever is sent of a block, by `sendAudio` to the recorder or to a channel, its bytes are
decoded to numbers near the samples of the left channel. -/
theorem block_heard
    {b : Audio.Buffers} {ablkSize L : Nat} (hL : 0 < L) (hablk : L ≤ ablkSize)
    (hdata : b.audioData.length = L) (hsaudio : b.saudio.length = L)
    (hg711 : b.g711Data.length = ablkSize / 4) {poll revents : Int} (hpoll : 0 < poll)
    (hrevents : revents ≠ 0) (nvrSendStatus : Int) (listeners : List Audio.Listener) (m : Machine) :
  ∃ sent, Audio.doAudioProc poll revents L nvrSendStatus b listeners = some sent
    ∧ ∀ chNum data len, .rtp chNum data len ∈ sent → len = L / 4
      ∧ ∀ j < L / 4, ∃ s c y, Audio.sampleAt b.audioData (4 * j) = some s
        ∧ data[j]? = some c
        ∧ call linear2ulaw m (.ofInt 32 s) = some (.ofNat 32 c.toNat)
        ∧ call ulaw2linear m (.ofNat 32 c.toNat) = some (.ofInt 32 y)
        ∧ Near s y
  := by
  subst hdata
  have hsize : b.audioData.length / 4 ≤ b.g711Data.length := by
    rw [hg711]
    apply Nat.div_le_div_right hablk
  obtain ⟨sent, hsent, -, hleft⟩ :=
    Audio.doAudioProc_ready hL rfl hsaudio hsize hpoll hrevents nvrSendStatus listeners
  use sent, hsent
  intro chNum data len hmem
  use (hleft _ hmem).1
  intro j hj
  apply heard_of_left (hleft _ hmem) m hj

theorem block_heard_tenBytes :
  ∃ sent, Audio.doAudioProc 1 1 (10 : Nat) 1 Audio.tenBytes [⟨1, 0, 0⟩] = some sent
    ∧ ∀ chNum data len, .rtp chNum data len ∈ sent → len = 10 / 4
      ∧ ∀ j < 10 / 4, ∃ s c y, Audio.sampleAt Audio.tenBytes.audioData (4 * j) = some s
        ∧ data[j]? = some c
        ∧ call linear2ulaw ⟨fun _ => 0, ⟨false, false, false, false⟩⟩ (.ofInt 32 s)
          = some (.ofNat 32 c.toNat)
        ∧ call ulaw2linear ⟨fun _ => 0, ⟨false, false, false, false⟩⟩ (.ofNat 32 c.toNat)
          = some (.ofInt 32 y)
        ∧ Near s y
  := @block_heard Audio.tenBytes 16 10 (by decide) (by decide) rfl rfl rfl 1 1 (by decide)
      (by decide) 1 [⟨1, 0, 0⟩] ⟨fun _ => 0, ⟨false, false, false, false⟩⟩

end Rtspd.G711
