import Mathlib.Data.BitVec
import Mathlib.Logic.Function.Basic
import Mathlib.Tactic.Common

/-!
# Routines of ARM instructions

A `Machine` is the registers and the four flags.  The data-processing instructions are modelled
as the architecture has them: every instruction has a condition, the second operand may be
shifted on its way, and an instruction with the suffix `s` sets the flags, where the carry of a
logical instruction is the bit that the shift moves out.  A routine is a list of lines whose
branches go forwards (`run`), and ends with `mov pc, r14`.

A block of instructions is run as one (`run_block`).  The results below are what a proof about a
routine needs: what the conditions say behind a comparison (`Cond.holds_ge_sub` and the others),
and the operations on registers that hold small natural numbers.
-/

namespace Library.Arm

/-- The four condition flags of the processor: `n` (negative), `z` (zero), `c` (carry) and `v`
(overflow). -/
structure Flags where
  n : Bool
  z : Bool
  c : Bool
  v : Bool
deriving DecidableEq

/-- The general registers `r0` to `r14`.  The program counter is left out: control flow is in the
lines of a routine. -/
inductive Reg where
  | r0 | r1 | r2 | r3 | r4 | r5 | r6 | r7 | r8 | r9 | r10 | r11 | r12 | r13 | r14
deriving DecidableEq

/-- The state of a machine: the word in every register, `reg`, and the condition flags, `flags`. -/
structure Machine where
  reg : Reg → BitVec 32
  flags : Flags

/-- The condition under which an instruction is carried out; `al` stands for no condition. -/
inductive Cond where
  | al
  | cs
  | cc
  | ge
  | lt
  | le
deriving DecidableEq

/-- The condition `Cond` is met by the flags `f`, as the suffix of the instruction is defined. -/
def Cond.holds (f : Flags) : Cond → Bool
  | .al => true
  | .cs => f.c
  | .cc => !f.c
  | .ge => f.n == f.v
  | .lt => f.n != f.v
  | .le => f.z || f.n != f.v

/-- The three shifts of an operand: `lsl` to the left, `lsr` and `asr` to the right, the last one
with the sign. -/
inductive Shift where
  | lsl
  | lsr
  | asr

/-- The word `x` after it has been shifted by `n` bits. -/
@[simp] def Shift.value (x : BitVec 32) (n : Nat) : Shift → BitVec 32
  | .lsl => x <<< n
  | .lsr => x >>> n
  | .asr => x.sshiftRight n

/-- The bit of `x` that is moved out last when `x` is shifted by `n` bits, and the carry `c` from
before if `n` is zero. -/
def Shift.carry (x : BitVec 32) (n : Nat) (c : Bool) : Shift → Bool
  | .lsl => if n = 0 then c else if n ≤ 32 then x.getLsbD (32 - n) else false
  | .lsr => if n = 0 then c else x.getLsbD (n - 1)
  | .asr => if n = 0 then c else if n ≤ 32 then x.getLsbD (n - 1) else x.msb

/-- How far a word is shifted: by the number `n` in the instruction, or by the lowest byte of the
register `r`. -/
inductive Amount where
  | imm (n : Nat)
  | reg (r : Reg)

/-- The number of bits by which the amount shifts on the machine `m`. -/
@[simp] def Amount.value (m : Machine) : Amount → Nat
  | .imm n => n
  | .reg r => (m.reg r).toNat % 256

/-- The second operand of an instruction: the number `n`, the register `r`, or the register `r`
shifted by `s`. -/
inductive Operand where
  | imm (n : Nat)
  | reg (r : Reg)
  | shifted (r : Reg) (s : Shift) (n : Amount)

/-- The word that the operand stands for on the machine `m`. -/
@[simp] def Operand.value (m : Machine) : Operand → BitVec 32
  | .imm n => .ofNat 32 n
  | .reg r => m.reg r
  | .shifted r s n => s.value (m.reg r) (n.value m)

/-- The carry that the operand leaves on the machine `m`.  A number `n` above a byte is encoded as a
byte that is rotated, and its carry is its highest bit. -/
def Operand.carry (m : Machine) : Operand → Bool
  | .imm n => if n < 256 then m.flags.c else (BitVec.ofNat 32 n).msb
  | .reg _ => m.flags.c
  | .shifted r s n => s.carry (m.reg r) (n.value m) m.flags.c

/-- The operations of an instruction `op` on two operands; `rsb` is `sub` with the operands
exchanged. -/
inductive Op where
  | and
  | eor
  | orr
  | add
  | sub
  | rsb

/-- The result of the operation on the first operand `x` and the second operand `y`. -/
@[simp] def Op.value (x y : BitVec 32) : Op → BitVec 32
  | .and => x &&& y
  | .eor => x ^^^ y
  | .orr => x ||| y
  | .add => x + y
  | .sub => x - y
  | .rsb => y - x

/-- The flags behind a logical operation with the result `r` and the carry `c` of its operand;
overflow stays as in `f`. -/
def Flags.logical (f : Flags) (r : BitVec 32) (c : Bool) : Flags :=
  { n := r.msb, z := r == 0, c := c, v := f.v }

/-- The flags of the difference `x - y`, whose carry `c` says that nothing is borrowed. -/
def Flags.sub (x y : BitVec 32) : Flags :=
  { n := (x - y).msb, z := x - y == 0, c := !x.ult y, v := x.ssubOverflow y }

/-- The flags of the sum `x + y`, whose carry and overflow are those of unsigned and signed
addition. -/
def Flags.add (x y : BitVec 32) : Flags :=
  { n := (x + y).msb, z := x + y == 0, c := x.uaddOverflow y, v := x.saddOverflow y }

/-- The flags behind the operation on `x` and `y`, from the flags `f` before it and the carry `c` of
its operand. -/
def Op.flags (f : Flags) (x y : BitVec 32) (c : Bool) : Op → Flags
  | .and => f.logical (x &&& y) c
  | .eor => f.logical (x ^^^ y) c
  | .orr => f.logical (x ||| y) c
  | .add => Flags.add x y
  | .sub => Flags.sub x y
  | .rsb => Flags.sub y x

/-- An instruction, with the condition `c` under which it is carried out, its target `rd` and its
operands. -/
inductive Instr where
  /-- an operation, which sets the flags if it has the suffix `s` -/
  | op (o : Op) (s : Bool) (c : Cond) (rd rn : Reg) (x : Operand)
  /-- `mov` -/
  | mov (s : Bool) (c : Cond) (rd : Reg) (x : Operand)
  /-- `mvn` -/
  | mvn (s : Bool) (c : Cond) (rd : Reg) (x : Operand)
  /-- `cmp` -/
  | cmp (rn : Reg) (x : Operand)

/-- The register `rd` is set to `r`, and the flags to `f` if the instruction has the suffix `s`. -/
@[simp] def Machine.set (m : Machine) (rd : Reg) (r : BitVec 32) (s : Bool) (f : Flags) :
    Machine :=
  { reg := Function.update m.reg rd r, flags := if s then f else m.flags }

/-- The machine after one instruction on `m`.  An instruction whose condition does not hold leaves
`m` as it is. -/
def Instr.exec (m : Machine) : Instr → Machine
  | .op o s c rd rn x =>
      if c.holds m.flags then
        m.set rd (o.value (m.reg rn) (x.value m)) s
          (o.flags m.flags (m.reg rn) (x.value m) (x.carry m))
      else m
  | .mov s c rd x =>
      if c.holds m.flags then
        m.set rd (x.value m) s (m.flags.logical (x.value m) (x.carry m))
      else m
  | .mvn s c rd x =>
      if c.holds m.flags then
        m.set rd (~~~x.value m) s (m.flags.logical (~~~x.value m) (x.carry m))
      else m
  | .cmp rn x => { m with flags := Flags.sub (m.reg rn) (x.value m) }

/-- A line of a routine, with labels from `Label`: an instruction, a label, a branch, or the return
`mov pc, r14`. -/
inductive Line (Label : Type) where
  | instr (i : Instr)
  | label (l : Label)
  | branch (c : Cond) (l : Label)
  /-- `mov pc, r14` -/
  | ret

section Routine

variable {Label : Type} [DecidableEq Label]

/-- A routine is run up to its return.  With `some l` the lines in front of the label `l` are left
out, which is how a branch forward to `l` goes on. -/
def run : Option Label → List (Line Label) → Machine → Option Machine
  | _, [], _ => none
  | some l, .label l' :: rest, m => if l = l' then run none rest m else run (some l) rest m
  | some l, _ :: rest, m => run (some l) rest m
  | none, .instr i :: rest, m => run none rest (i.exec m)
  | none, .label _ :: rest, m => run none rest m
  | none, .branch c l :: rest, m =>
      if c.holds m.flags then run (some l) rest m else run none rest m
  | none, .ret :: _, m => some m

/-- The machine `m` with `x` in the register `r0`, where a routine finds its argument. -/
def Machine.arg (m : Machine) (x : BitVec 32) : Machine :=
  { m with reg := Function.update m.reg .r0 x }

/-- A `routine` is called with the argument `x` on the machine `m`.  The result is in the register
`r0` as well. -/
def call (routine : List (Line Label)) (m : Machine) (x : BitVec 32) : Option (BitVec 32) :=
  (run none routine (m.arg x)).map fun m => m.reg .r0

/-- The register `r0` of `m.arg x` holds the argument `x`. -/
@[simp] theorem Machine.arg_reg (m : Machine) (x : BitVec 32) :
  (m.arg x).reg .r0 = x
  := by
  exact Function.update_self Reg.r0 x m.reg

/-- The instructions `is` as lines of a routine, without labels or branches. -/
def block (is : List Instr) : List (Line Label) :=
  is.map .instr

/-- The machine after the instructions `is`, one after the other, on `m`. -/
@[simp] def exec (is : List Instr) (m : Machine) : Machine :=
  is.foldl Instr.exec m

/-- A routine that starts with a block runs it as one: what follows, `rest`, goes on from
`exec is m`. -/
theorem run_block (is : List Instr) (rest : List (Line Label)) (m : Machine) :
  run none (block is ++ rest) m = run none rest (exec is m)
  := by
  induction is generalizing m with
  | nil => rfl
  | cons i is ih => apply ih

/-- A branch to `l` whose condition `c` does not hold on `m` is passed, and `rest` goes on. -/
theorem run_branch_not {c : Cond} {l : Label} {m : Machine} (rest : List (Line Label))
    (h : c.holds m.flags = false) :
  run none (.branch c l :: rest) m = run none rest m
  := by
  rw [run, h]
  rfl

end Routine

/-! ### The conditions behind a comparison -/

/-- An instruction with the condition `al` is carried out under all flags `f`. -/
@[simp] theorem Cond.holds_al (f : Flags) :
  Cond.al.holds f = true
  := by
  rfl

/-- The sign of the difference `x - y` says whether `x` is less than `y` as a signed number, unless
the difference overflows. -/
theorem msb_sub (x y : BitVec 32) :
  ((x - y).msb != x.ssubOverflow y) = x.slt y
  := by
  have hx := x.isLt
  have hy := y.isLt
  rw [BitVec.ssubOverflow_eq]
  simp only [BitVec.msb_eq_decide, BitVec.slt_eq_decide, BitVec.toInt_eq_toNat_cond,
    BitVec.toNat_sub]
  grind

/-- Behind the comparison of `x` with `y`, the condition `lt` is the order of the two as signed
numbers. -/
@[simp] theorem Cond.holds_lt_sub (x y : BitVec 32) :
  Cond.lt.holds (.sub x y) = x.slt y
  := by
  apply msb_sub

/-- Behind the comparison of `x` with `y`, the condition `ge` is the opposite of `lt`. -/
@[simp] theorem Cond.holds_ge_sub (x y : BitVec 32) :
  Cond.ge.holds (.sub x y) = !x.slt y
  := by
  rw [← msb_sub, bne, Bool.not_not]
  rfl

/-- In a comparison of `x` with zero nothing overflows: the flag `v` is down. -/
theorem Flags.sub_zero_v (x : BitVec 32) :
  (Flags.sub x 0#32).v = false
  := by
  rw [Flags.sub, BitVec.ssubOverflow_eq, BitVec.sub_zero]
  cases x.msb <;> rfl

/-! ### Registers that hold small numbers -/

/-- A number `a` below `2 ^ 31` is itself when its word is read with a sign. -/
theorem toInt_ofNat {a : Nat} (ha : a < 2 ^ 31) :
  (BitVec.ofNat 32 a).toInt = a
  := by
  rw [BitVec.toInt_eq_toNat_of_lt]
  · rw [BitVec.toNat_ofNat, Nat.mod_eq_of_lt (by omega)]
  · rw [BitVec.toNat_ofNat, Nat.mod_eq_of_lt (by omega)]
    omega

/-- The word of an integer `x` that is not negative is the word of its magnitude, `x.natAbs`. -/
theorem ofInt_of_nonneg {x : Int} (h : 0 ≤ x) :
  BitVec.ofInt 32 x = .ofNat 32 x.natAbs
  := by
  rw [← BitVec.ofInt_natCast]
  congr 1
  omega

/-- The word of an integer `x` that is not positive, negated, is the word of its magnitude,
`x.natAbs`. -/
theorem neg_ofInt {x : Int} (h : x ≤ 0) :
  -BitVec.ofInt 32 x = .ofNat 32 x.natAbs
  := by
  rw [← BitVec.ofInt_neg, ← BitVec.ofInt_natCast]
  congr 1
  omega

/-- The word of a number `a` below `2 ^ 31` has its sign bit down. -/
theorem msb_ofNat {a : Nat} (ha : a < 2 ^ 31) :
  (BitVec.ofNat 32 a).msb = false
  := by
  rw [BitVec.msb_eq_toInt, toInt_ofNat ha]
  simp

/-- The signed order of the words of `a` and `b`, both below `2 ^ 31`, is the order of the
numbers. -/
theorem slt_ofNat {a b : Nat} (ha : a < 2 ^ 31) (hb : b < 2 ^ 31) :
  (BitVec.ofNat 32 a).slt (BitVec.ofNat 32 b) = decide (a < b)
  := by
  rw [BitVec.slt_eq_decide, toInt_ofNat ha, toInt_ofNat hb]
  simp only [Int.ofNat_lt]

/-- Behind a move of a number below `2 ^ 31`, `le` says that the number is zero, unless there was an
overflow before. -/
theorem Cond.holds_le_logical
    {f : Flags} {a : Nat} (hv : f.v = false) (ha : a < 2 ^ 31) (c : Bool) :
  Cond.le.holds (f.logical (.ofNat 32 a) c) = decide (a = 0)
  := by
  have hzero : (BitVec.ofNat 32 a == 0) = decide (a = 0) := by
    rw [Bool.beq_eq_decide_eq, decide_eq_decide, ← BitVec.toNat_inj, BitVec.toNat_ofNat,
      Nat.mod_eq_of_lt (by omega)]
    rfl
  rw [Cond.holds, Flags.logical, msb_ofNat ha, hzero, hv]
  simp

/-- The word of `a`, below `2 ^ 32`, shifted to the right by `n` is the word of `a >>> n`. -/
theorem ushiftRight_ofNat {a : Nat} (ha : a < 2 ^ 32) (n : Nat) :
  BitVec.ofNat 32 a >>> n = BitVec.ofNat 32 (a >>> n)
  := by
  apply BitVec.eq_of_toNat_eq
  rw [BitVec.toNat_ushiftRight, BitVec.toNat_ofNat, BitVec.toNat_ofNat, Nat.mod_eq_of_lt ha,
    Nat.mod_eq_of_lt]
  apply lt_of_le_of_lt (Nat.shiftRight_le a n) ha

/-- The word of `a` shifted to the left by `n` is the word of `a <<< n`, whatever is moved out. -/
theorem shiftLeft_ofNat (a n : Nat) :
  BitVec.ofNat 32 a <<< n = BitVec.ofNat 32 (a <<< n)
  := by
  apply BitVec.eq_of_toNat_eq
  rw [BitVec.toNat_shiftLeft, BitVec.toNat_ofNat, BitVec.toNat_ofNat, Nat.shiftLeft_eq,
    Nat.shiftLeft_eq, Nat.mod_mul_mod]

/-- For a number `a` below `2 ^ 31`, the arithmetic shift to the right by `n` is the logical one. -/
theorem sshiftRight_ofNat {a : Nat} (ha : a < 2 ^ 31) (n : Nat) :
  (BitVec.ofNat 32 a).sshiftRight n = BitVec.ofNat 32 (a >>> n)
  := by
  rw [BitVec.sshiftRight_eq_of_msb_false (msb_ofNat ha), ushiftRight_ofNat (by omega)]

/-- A comparison and the instructions that depend on it: from a bound on, the number in `rd` is
moved to the right, and the count in `seg` goes up. -/
def halve (rd seg : Reg) (t k i : Nat) : List Instr :=
  [.cmp rd (.imm t),
   .mov false .ge rd (.shifted rd .lsr (.imm k)),
   .op .add false .ge seg seg (.imm i)]

/-- The registers `rd` and `seg` of `m` hold the number `a`, below `2 ^ 31`, and the count `n`;
every other register is as in `m₀`. -/
structure Scaled (m₀ m : Machine) (rd seg : Reg) (a n : Nat) : Prop where
  lt : a < 2 ^ 31
  number : m.reg rd = .ofNat 32 a
  count : m.reg seg = .ofNat 32 n
  frame : ∀ r, r ≠ rd → r ≠ seg → m.reg r = m₀.reg r

variable {m₀ m : Machine} {rd seg : Reg} {a n : Nat}

/-- After `halve rd seg t k i`, a number `a` from `t` on is shifted by `k` and the count `n` goes up
by `i`; a smaller number and its count are as before. -/
theorem Scaled.halve (t k i : Nat)
    (h : Scaled m₀ m rd seg a n) (ht : t < 2 ^ 31) (hne : seg ≠ rd) :
  Scaled m₀ (exec (halve rd seg t k i) m) rd seg
    (if t ≤ a then a >>> k else a) (if t ≤ a then n + i else n)
  := by
  have hlt : (BitVec.ofNat 32 a).slt (.ofNat 32 t) = decide (a < t) := slt_ofNat h.lt ht
  by_cases hle : t ≤ a
  · have hreg : (exec (Arm.halve rd seg t k i) m).reg = Function.update
        (Function.update m.reg rd (.ofNat 32 (a >>> k))) seg (.ofNat 32 (n + i)) := by
      simp [Arm.halve, Instr.exec, h.number, h.count, hlt, hle, hne, BitVec.ofNat_add,
        ← ushiftRight_ofNat (Nat.lt_trans h.lt (by decide))]
    rw [if_pos hle, if_pos hle]
    constructor
    · apply Nat.lt_of_le_of_lt (Nat.shiftRight_le a k) h.lt
    · rw [hreg, Function.update_of_ne hne.symm, Function.update_self]
    · rw [hreg, Function.update_self]
    · intro r hrd hseg
      rw [hreg, Function.update_of_ne hseg, Function.update_of_ne hrd]
      apply h.frame r hrd hseg
  · have hreg : (exec (Arm.halve rd seg t k i) m).reg = m.reg := by
      simp [Arm.halve, Instr.exec, h.number, hlt, hle]
    rw [if_neg hle, if_neg hle]
    constructor
    · apply h.lt
    · rw [hreg, h.number]
    · rw [hreg, h.count]
    · rw [hreg]
      apply h.frame

/-- After the comparison of `rd` with `t` and the conditional addition, the count `n` goes up by `i`
for a number `a` from `t` on; the number stays. -/
theorem Scaled.bump (t i : Nat)
    (h : Scaled m₀ m rd seg a n) (ht : t < 2 ^ 31) (hne : seg ≠ rd) :
  Scaled m₀ (exec [.cmp rd (.imm t), .op .add false .ge seg seg (.imm i)] m)
    rd seg a (if t ≤ a then n + i else n)
  := by
  have hlt : (BitVec.ofNat 32 a).slt (.ofNat 32 t) = decide (a < t) := slt_ofNat h.lt ht
  by_cases hle : t ≤ a
  · have hreg : (exec [.cmp rd (.imm t),
        .op .add false .ge seg seg (.imm i)] m).reg
          = Function.update m.reg seg (.ofNat 32 (n + i)) := by
      simp [Instr.exec, h.number, h.count, hlt, hle, BitVec.ofNat_add]
    rw [if_pos hle]
    constructor
    · apply h.lt
    · rw [hreg, Function.update_of_ne hne.symm, h.number]
    · rw [hreg, Function.update_self]
    · intro r hrd hseg
      rw [hreg, Function.update_of_ne hseg]
      apply h.frame r hrd hseg
  · have hreg : (exec [.cmp rd (.imm t),
        .op .add false .ge seg seg (.imm i)] m).reg = m.reg := by
      simp [Instr.exec, h.number, hlt, hle]
    rw [if_neg hle]
    constructor
    · apply h.lt
    · rw [hreg, h.number]
    · rw [hreg, h.count]
    · rw [hreg]
      apply h.frame

/-- Two blocks `is` and `is'` one behind the other do what `is` does, and then what `is'` does. -/
theorem exec_append (is is' : List Instr) (m : Machine) :
  exec (is ++ is') m = exec is' (exec is m)
  := by
  apply List.foldl_append

end Library.Arm
