import Mathlib.Algebra.Ring.Int.Defs
import Mathlib.Tactic.Common

/-!
# Rates

A log of events, each at a time and of some amount, and the limit that no more than `b` is logged in
any interval of the length `P`.  In an interval of `n` times that length there is no more than `n`
times as much (`Limited.total_le`).
-/

namespace Library

variable {α : Type*} {time amount : α → Int} {P b t : Int} {l l' : List α}

/-- The sum of the `amount` of all the events in the log `l`. -/
def total (amount : α → Int) (l : List α) : Int := (l.map amount).sum

/-- The events of `l` whose `time` is from `t` on and before `t + P`. -/
def during (time : α → Int) (t P : Int) (l : List α) : List α :=
  l.filter fun a => decide (t ≤ time a ∧ time a < t + P)

/-- In `l` the events of any interval of the length `P` amount to no more than `b`. -/
def Limited (time amount : α → Int) (P b : Int) (l : List α) : Prop :=
  ∀ t, total amount (during time t P l) ≤ b

theorem total_nil : total amount [] = 0 := rfl

theorem total_cons (a : α) (l : List α) : total amount (a :: l) = amount a + total amount l := by
  rw [total, List.map_cons, List.sum_cons, total]

theorem total_append (l l' : List α) :
  total amount (l ++ l') = total amount l + total amount l'
  := by
  rw [total, List.map_append, List.sum_append, total, total]

/-- If every event of `l` has the amount 1, the total is the number of events. -/
theorem total_one (l : List α) : total (fun _ => 1) l = l.length := by
  induction l with
  | nil => rfl
  | cons a l ih =>
      rw [total_cons, ih, List.length_cons]
      omega

theorem total_nonneg (hamount : ∀ a ∈ l, 0 ≤ amount a) : 0 ≤ total amount l := by
  induction l with
  | nil => apply Int.le_refl
  | cons a l ih =>
      have hhead := hamount a List.mem_cons_self
      have htail := ih fun a ha => hamount a (List.mem_cons_of_mem _ ha)
      rw [total_cons]
      omega

/-- If no amount in `l` is negative, the events of a sublist `l'` amount to no more than those of
`l`. -/
theorem total_sublist (hamount : ∀ a ∈ l, 0 ≤ amount a) (h : l'.Sublist l) :
  total amount l' ≤ total amount l
  := by
  induction h with
  | slnil => apply Int.le_refl
  | cons a _ ih =>
      have hhead := hamount a List.mem_cons_self
      have htail := ih fun a ha => hamount a (List.mem_cons_of_mem _ ha)
      rw [total_cons]
      omega
  | cons_cons a _ ih =>
      have htail := ih fun a ha => hamount a (List.mem_cons_of_mem _ ha)
      rw [total_cons, total_cons]
      omega

/-- The total of `l` is that of the events with the property `p`, and that of the others. -/
theorem total_filter (p : α → Bool) (l : List α) :
  total amount l = total amount (l.filter p) + total amount (l.filter fun a => !p a)
  := by
  induction l with
  | nil => rfl
  | cons a l ih =>
      cases hp : p a with
      | true =>
          rw [List.filter_cons_of_pos hp, List.filter_cons_of_neg (by simp [hp]), total_cons,
            total_cons, ih]
          omega
      | false =>
          rw [List.filter_cons_of_neg (by simp [hp]), List.filter_cons_of_pos (by simp [hp]),
            total_cons, total_cons, ih]
          omega

theorem Limited.sublist
    (h : Limited time amount P b l) (hamount : ∀ a ∈ l, 0 ≤ amount a) (hsub : l'.Sublist l) :
  Limited time amount P b l'
  := by
  intro t
  apply Int.le_trans (total_sublist _ (hsub.filter _)) (h t)
  intro a ha
  apply hamount a (List.mem_filter.mp ha).1

/-- If `l` is limited to `b` in any interval of the length `P`, and its events all lie in `n` such
intervals one after the other, they amount to no more than `n * b`. -/
theorem Limited.total_le
    (h : Limited time amount P b l) (hamount : ∀ a ∈ l, 0 ≤ amount a) (n : Nat)
    (hl : ∀ a ∈ l, t ≤ time a ∧ time a < t + n * P) :
  total amount l ≤ n * b
  := by
  induction n generalizing t l with
  | zero =>
      have hnil : l = [] := by
        apply List.eq_nil_iff_forall_not_mem.mpr
        intro a ha
        have ht := hl a ha
        omega
      rw [hnil, Int.ofNat_zero, Int.zero_mul]
      apply Int.le_refl
  | succ n ih =>
      have hrest : ∀ a ∈ l.filter (fun a => !decide (t ≤ time a ∧ time a < t + P)),
          t + P ≤ time a ∧ time a < t + P + n * P := by
        intro a ha
        obtain ⟨hmem, hout⟩ := List.mem_filter.mp ha
        have ht := hl a hmem
        rw [Int.natCast_succ, Int.add_mul, Int.one_mul] at ht
        simp only [Bool.not_eq_true', decide_eq_false_iff_not] at hout
        omega
      have hsub : (l.filter fun a => !decide (t ≤ time a ∧ time a < t + P)).Sublist l :=
        List.filter_sublist
      have hle := ih (h.sublist hamount hsub)
        (fun a ha => hamount a (hsub.subset ha)) hrest
      have hfirst := h t
      rw [total_filter fun a => decide (t ≤ time a ∧ time a < t + P), Int.natCast_succ, Int.add_mul,
        Int.one_mul]
      rw [during] at hfirst
      omega

/-- If every event of `l` has the amount `c`, the total is `c` times the number of events. -/
theorem total_const {c : Int} (h : ∀ a ∈ l, amount a = c) : total amount l = c * l.length := by
  induction l with
  | nil => exact (Int.mul_zero c).symm
  | cons a l ih =>
      rw [total_cons, h a List.mem_cons_self, ih fun a ha => h a (List.mem_cons_of_mem _ ha),
        List.length_cons, Int.natCast_succ, Int.mul_add, Int.mul_one, Int.add_comm]

/-- If the events of `l` amount to no more than `b` in all, and no amount is negative, then `l` is
limited to `b` for every length `P`. -/
theorem limited_of_total_le (hamount : ∀ a ∈ l, 0 ≤ amount a) (h : total amount l ≤ b) :
  Limited time amount P b l
  := by
  intro t
  apply Int.le_trans (total_sublist hamount List.filter_sublist) h

/-- Of the numbers below `n`, no more than `b` lie in the interval from `k` of the length `b`, and
no more than `n - k`. -/
theorem length_filter_range_le (k b n : Nat) :
  ((List.range n).filter fun i => decide (k ≤ i ∧ i < k + b)).length ≤ min (n - k) b
  := by
  induction n with
  | zero => apply Nat.zero_le
  | succ n ih =>
      rw [List.range_succ, List.filter_append, List.length_append]
      by_cases hn : k ≤ n ∧ n < k + b
      · rw [List.filter_cons_of_pos (by simpa using hn)]
        simp only [List.filter_nil, List.length_cons, List.length_nil]
        omega
      · rw [List.filter_cons_of_neg (by simpa using hn)]
        simp only [List.filter_nil, List.length_nil]
        omega

end Library
