import Mathlib.Algebra.Group.Basic
import Mathlib.Algebra.Group.Nat.Defs
import Mathlib.Algebra.Ring.Int.Defs

/-!
# Counters

A counter is moved on by an amount for each step along a path, and it may wrap around: then it is
a number of 32 bits.  What the amounts of a path add up to is `pathSum`; if each is the difference
of a potential between the two ends of its step, the sum is that between the ends of the path
(`pathSum_sub`), whatever lies between them.
-/

namespace Library

/-! ### Numbers of 32 bits -/

/-- The number of 32 bits for an integer is the integer up to multiples of `2 ^ 32`. -/
theorem toNat_ofInt (n : ℤ) :
  ((UInt32.ofInt n).toNat : ℤ) = n % 2 ^ 32
  := by
  have hnonneg := Int.emod_nonneg n (show (2 ^ 32 : ℤ) ≠ 0 by decide)
  have hlt := Int.emod_lt_of_pos n (show (0 : ℤ) < 2 ^ 32 by decide)
  rw [UInt32.ofInt, UInt32.toNat_ofNat']
  omega

theorem ofInt_eq_iff {m n : ℤ} :
  UInt32.ofInt m = UInt32.ofInt n ↔ m % 2 ^ 32 = n % 2 ^ 32
  := by
  rw [← toNat_ofInt, ← toNat_ofInt, Int.ofNat_inj, UInt32.toNat_inj]

/-! ### Sums along a path -/

variable {τ G : Type*} {t : τ} {ts : List τ}

/-- The sum of the amounts `f t u` over the steps from `t` to `u` of a path. -/
def pathSum [Zero G] [Add G] (f : τ → τ → G) : τ → List τ → G
  | _, [] => 0
  | t, u :: us => f t u + pathSum f u us

/-- The point at which a path from `t` along `ts` ends; the empty path ends at `t`. -/
def pathEnd (t : τ) (ts : List τ) : τ := ts.getLastD t

theorem pathEnd_cons (t u : τ) (us : List τ) :
  pathEnd t (u :: us) = pathEnd u us
  := by
  cases us with
  | nil => rfl
  | cons v vs => rfl

/-- Along a path, the differences of a potential `g` add up to the difference between its values at
the two ends. -/
theorem pathSum_sub [AddCommGroup G] (g : τ → G) (t : τ) (ts : List τ) :
  pathSum (fun t u => g u - g t) t ts = g (pathEnd t ts) - g t
  := by
  induction ts generalizing t with
  | nil => exact (sub_self (g t)).symm
  | cons u us ih => rw [pathSum, ih, pathEnd_cons, add_comm, sub_add_sub_cancel]

theorem pathSum_add [AddCommMonoid G] (f g : τ → τ → G) (t : τ) (ts : List τ) :
  pathSum (fun t u => f t u + g t u) t ts = pathSum f t ts + pathSum g t ts
  := by
  induction ts generalizing t with
  | nil => exact (add_zero (0 : G)).symm
  | cons u us ih => rw [pathSum, pathSum, pathSum, ih, add_add_add_comm]

/-- If `f` and `g` agree on every step that is related by `R`, and a path goes along such steps
only, then the two have the same sum along it. -/
theorem pathSum_congr [Zero G] [Add G]
    {f g : τ → τ → G} {R : τ → τ → Prop} (h : ∀ t u, R t u → f t u = g t u)
    (hpath : (t :: ts).Pairwise R) :
  pathSum f t ts = pathSum g t ts
  := by
  induction ts generalizing t with
  | nil => rfl
  | cons u us ih =>
      obtain ⟨hhead, htail⟩ := List.pairwise_cons.mp hpath
      rw [pathSum, pathSum, h t u (hhead u List.mem_cons_self), ih htail]

/-- The sum of the multiples `c * f t u` along a path is `c` times the sum of `f` along it. -/
theorem pathSum_mul (c : ℤ) (f : τ → τ → ℤ) (t : τ) (ts : List τ) :
  pathSum (fun t u => c * f t u) t ts = c * pathSum f t ts
  := by
  induction ts generalizing t with
  | nil => exact (Int.mul_zero c).symm
  | cons u us ih => rw [pathSum, pathSum, ih, Int.mul_add]

end Library
