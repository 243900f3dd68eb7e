import Mathlib.Data.Nat.Log
import Mathlib.Tactic.Linarith
import Mathlib.Tactic.Ring

/-!
# Quantizers whose steps grow with the number

A number is stored by its leading bits: its binary exponent, and `p` bits behind the leading one.
The cells then have `2 ^ (Nat.log 2 a - p)` numbers, and below a bound they have all the same size
`2 ^ s₀`.  What is read back is the middle of the cell, which `level` gives twice, as the middle
of an interval of an odd length is no whole number.

The distance of a number from its level is half of a step (`level_error`), which is a fixed part
of the number except for small ones (`two_pow_step_le`), and the levels have the order of the
numbers (`level_mono`).
-/

namespace Library.Quantizer

variable {p s₀ a b s : Nat}

/-- The exponent of the size of the cell in which `a` lies: the cells grow with the leading bit of
`a`, `p` bits behind it, and have at least `2 ^ s₀` numbers. -/
def step (p s₀ a : Nat) : Nat :=
  max s₀ (Nat.log 2 a - p)

/-- Twice the middle of the cell in which `a` lies, where every cell has `2 ^ s` numbers. -/
def middle (s a : Nat) : Nat :=
  (2 * (a / 2 ^ s) + 1) * 2 ^ s

/-- Twice the level of `a`: the `middle` of its cell, whose size is that of `step p s₀ a`. -/
def level (p s₀ a : Nat) : Nat :=
  middle (step p s₀ a) a

/-- The middle of the cell in which `a` lies is at most half of the size of the cell away from
`a`. -/
theorem middle_error (s a : Nat) :
  2 * a ≤ middle s a + 2 ^ s ∧ middle s a ≤ 2 * a + 2 ^ s
  := by
  have hdiv := Nat.div_add_mod a (2 ^ s)
  have hmod := Nat.mod_lt a (Nat.two_pow_pos s)
  have heq : middle s a = 2 * (2 ^ s * (a / 2 ^ s)) + 2 ^ s := by
    rw [middle]
    ring
  omega

/-- The level of `a` is at most half of the step `2 ^ step p s₀ a` away from `a`. -/
theorem level_error (p s₀ a : Nat) :
  2 * a ≤ level p s₀ a + 2 ^ step p s₀ a ∧ level p s₀ a ≤ 2 * a + 2 ^ step p s₀ a
  := by
  apply middle_error

/-- The step of `a` is at most the fixed part `2⁻ᵖ` of `a`, or it is the smallest one, `2 ^ s₀`. -/
theorem two_pow_step_le (ha : a ≠ 0) :
  2 ^ p * 2 ^ step p s₀ a ≤ max (2 ^ (p + s₀)) a
  := by
  rw [step, ← Nat.pow_add]
  rcases Nat.le_total (Nat.log 2 a - p) s₀ with h | h
  · rw [Nat.max_eq_left h]
    apply Nat.le_max_left
  · rw [Nat.max_eq_right h]
    rcases Nat.le_total (Nat.log 2 a) p with hp | hp
    · apply Nat.le_trans _ (Nat.le_max_left ..)
      apply Nat.pow_le_pow_right (by decide)
      omega
    · rw [Nat.add_sub_cancel' hp]
      apply Nat.le_trans _ (Nat.le_max_right ..)
      apply Nat.pow_log_le_self 2 ha

/-- The steps have the order of the numbers: if `a` is at most `b`, so is its step. -/
theorem step_mono (h : a ≤ b) :
  step p s₀ a ≤ step p s₀ b
  := by
  apply max_le_max_left
  apply Nat.sub_le_sub_right
  apply Nat.log_mono_right h

/-- Among cells of the one size `2 ^ s`, the middles have the order of the numbers `a` and `b`. -/
theorem middle_mono (h : a ≤ b) :
  middle s a ≤ middle s b
  := by
  apply Nat.mul_le_mul_right
  have hdiv : a / 2 ^ s ≤ b / 2 ^ s := Nat.div_le_div_right h
  omega

/-- If `a` is below `2 ^ k`, and the cells have at most `2 ^ k` numbers, the middle of the cell of
`a` is below `2 ^ k` as well. -/
theorem middle_lt {k : Nat} (hs : s ≤ k) (ha : a < 2 ^ k) :
  middle s a < 2 * 2 ^ k
  := by
  have hpow : 2 ^ k = 2 ^ (k - s) * 2 ^ s := (Nat.pow_sub_mul_pow 2 hs).symm
  have hdiv : a / 2 ^ s < 2 ^ (k - s) := by
    rw [Nat.div_lt_iff_lt_mul (Nat.two_pow_pos s), ← hpow]
    apply ha
  rw [middle, hpow, ← Nat.mul_assoc]
  apply Nat.mul_lt_mul_of_pos_right _ (Nat.two_pow_pos s)
  omega

/-- If `b` is at least `2 ^ k`, and the cells have at most `2 ^ k` numbers, the middle of the cell
of `b` is at least `2 ^ k`. -/
theorem le_middle {k : Nat} (hs : s ≤ k) (hb : 2 ^ k ≤ b) :
  2 * 2 ^ k ≤ middle s b
  := by
  have hpow : 2 ^ k = 2 ^ (k - s) * 2 ^ s := (Nat.pow_sub_mul_pow 2 hs).symm
  have hdiv : 2 ^ (k - s) ≤ b / 2 ^ s := by
    rw [Nat.le_div_iff_mul_le (Nat.two_pow_pos s), ← hpow]
    apply hb
  rw [middle, hpow, ← Nat.mul_assoc]
  apply Nat.mul_le_mul_right
  omega

/-- If the step of `a` is smaller than that of `b`, then `a` is below the leading bit of `b`, which
is no smaller than the step of `b`. -/
theorem lt_of_step_lt (h : step p s₀ a < step p s₀ b) :
  a < 2 ^ Nat.log 2 b ∧ step p s₀ b ≤ Nat.log 2 b
  := by
  have hlog : Nat.log 2 a < Nat.log 2 b ∧ step p s₀ b ≤ Nat.log 2 b := by
    rw [step, step] at h
    rw [step]
    omega
  constructor
  · apply Nat.lt_pow_of_log_lt (by decide) hlog.1
  · apply hlog.2

/-- The levels have the order of the numbers: if `a` is at most `b`, so is its level, also across
different steps. -/
theorem level_mono (h : a ≤ b) :
  level p s₀ a ≤ level p s₀ b
  := by
  rw [level, level]
  rcases Nat.lt_or_ge (step p s₀ a) (step p s₀ b) with hlt | hge
  · -- The leading bit of `b` lies between the two cells.
    obtain ⟨ha, hstep⟩ := lt_of_step_lt hlt
    have hb : b ≠ 0 := by
      rintro rfl
      rw [Nat.le_zero.mp h] at hlt
      apply absurd hlt (Nat.lt_irrefl _)
    apply Nat.le_trans (Nat.le_of_lt (middle_lt (Nat.le_trans (Nat.le_of_lt hlt) hstep) ha))
    apply le_middle hstep (Nat.pow_log_le_self 2 hb)
  · rw [Nat.le_antisymm (step_mono h) hge]
    apply middle_mono h

end Library.Quantizer
