import Avserver.Library.Buffer
import Mathlib.Data.List.Induction

/-!
# Scans of a buffer

A scan moves an index along a buffer while the entry that it stands at passes a test.  Forward it
goes on for as long as the test is passed; backward it looks at an index first, and ends before
the first entry of the buffer.  An access outside of the buffer, on either side, has no result.
The body of a backward scan may write to the buffer.
-/

namespace Library.Scan

variable {α : Type*} {test : α → Bool} {f : List α → Int → Option (List α)} {g : α → α}
  {p d q : List α} {a b : α}

/-- The entry of `buf` at an index `i` that may be negative, as in an access of C; outside the
buffer there is none. -/
def fetch (buf : List α) (i : Int) : Option α := if 0 ≤ i then Buffer.load buf i.toNat else none

/-- The buffer `buf` after a write of `a` at an index `i` that may be negative; outside the buffer
there is none. -/
def put (buf : List α) (i : Int) (a : α) : Option (List α) :=
  if 0 ≤ i then Buffer.store buf i.toNat a else none

/-- `while (test(buf[i])) i++;` -/
def forward (test : α → Bool) (buf : List α) (i : ℕ) : Option ℕ :=
  if h : i < buf.length then
    if test buf[i] then forward test buf (i + 1) else some i
  else none
termination_by buf.length - i

/-- `while ((i >= 0) && test(buf[i])) { body; i--; }` -/
def backward (test : α → Bool) (body : List α → Int → Option (List α)) (buf : List α) (i : Int) :
    Option (List α × Int) :=
  if h : 0 ≤ i then do
    let a ← fetch buf i
    if test a then do
      let buf ← body buf i
      backward test body buf (i - 1)
    else some (buf, i)
  else some (buf, i)
termination_by (i + 1).toNat

/-! ### The accesses -/

theorem fetch_append : fetch (p ++ a :: q) p.length = some a := by
  rw [fetch, if_pos (Int.natCast_nonneg _), Int.toNat_natCast, Buffer.load,
    List.getElem?_append_right (Nat.le_refl _), Nat.sub_self, List.getElem?_cons_zero]

theorem put_append : put (p ++ a :: q) p.length b = some (p ++ b :: q) := by
  have hlt : p.length < (p ++ a :: q).length := by simp
  rw [put, if_pos (Int.natCast_nonneg _), Int.toNat_natCast, Buffer.store_eq hlt,
    List.set_append_right _ _ (Nat.le_refl _), Nat.sub_self, List.set_cons_zero]

/-! ### Where the scans stop -/

/-- A forward scan from the end of `p` passes the entries `d`, which pass the `test`, and stops at
the entry `b` behind them, which does not. -/
theorem forward_eq (hd : ∀ a ∈ d, test a = true) (hb : test b = false) :
  forward test (p ++ d ++ b :: q) p.length = some (p.length + d.length)
  := by
  induction d generalizing p with
  | nil =>
      rw [forward, dif_pos (by simp)]
      simp [hb]
  | cons a d ih =>
      rw [forward, dif_pos (by simp)]
      have hstep : forward test (p ++ [a] ++ d ++ b :: q) (p ++ [a]).length
          = some ((p ++ [a]).length + d.length) :=
        ih fun a' ha' => hd a' (.tail _ ha')
      simp only [List.append_assoc, List.cons_append, List.nil_append, List.length_append,
        List.length_cons, List.length_nil] at hstep ⊢
      rw [List.getElem_append_right (Nat.le_refl _)]
      simp only [Nat.sub_self, List.getElem_cons_zero, hd a (.head _), if_true]
      rw [hstep]
      congr 1
      omega

/-- A forward scan of a buffer `d` whose entries all pass the `test` leaves the buffer, and has no
result. -/
theorem forward_none (hd : ∀ a ∈ d, test a = true) (i : ℕ) : forward test d i = none := by
  fun_induction forward test d i with
  | case1 i hlt _ ih => exact ih
  | case2 i hlt hfail => exact absurd (hd d[i] (List.getElem_mem hlt)) hfail
  | case3 => rfl

/-- A backward scan over `p` stops at once, with the buffer as it is, if `p` is empty or its last
entry does not pass the `test`. -/
theorem backward_stop (hp : ∀ a ∈ p.getLast?, test a = false) :
  backward test f (p ++ q) (p.length - 1) = some (p ++ q, (p.length : Int) - 1)
  := by
  rw [backward]
  induction p using List.reverseRecOn with
  | nil => simp
  | append_singleton p' a _ =>
      have hlen : (((p' ++ [a]).length : ℕ) : Int) - 1 = p'.length := by simp
      have htest : test a = false := hp a (by simp)
      rw [hlen, dif_pos (Int.natCast_nonneg _), List.append_assoc, List.singleton_append,
        fetch_append]
      simp [htest]

/-- A backward scan that starts at the end of `d`, whose entries pass the `test`, replaces each of
them by its image under `g`, and stops at the end of `p`. -/
theorem backward_eq
    (hf : ∀ p a q, f (p ++ a :: q) p.length = some (p ++ g a :: q))
    (hd : ∀ a ∈ d, test a = true) (hp : ∀ a ∈ p.getLast?, test a = false) :
  backward test f (p ++ d ++ q) (p.length + d.length - 1)
    = some (p ++ d.map g ++ q, (p.length : Int) - 1)
  := by
  induction d using List.reverseRecOn generalizing q with
  | nil =>
      simp only [List.append_nil, List.length_nil, List.map_nil]
      simpa using @backward_stop _ test f p q hp
  | append_singleton d a ih =>
      have hi : ((p.length : Int) + (d ++ [a]).length - 1) = ((p ++ d).length : ℕ) := by
        simp
        omega
      have hbuf : p ++ (d ++ [a]) ++ q = (p ++ d) ++ a :: q := by simp
      rw [hi, hbuf, backward, dif_pos (Int.natCast_nonneg _), fetch_append]
      have htest : test a = true := hd a (by simp)
      have hrest := ih (q := g a :: q) fun a' ha' => hd a' (List.mem_append_left _ ha')
      have hi' : ((p ++ d).length : Int) - 1 = (p.length : Int) + d.length - 1 := by simp
      simp only [Option.bind_eq_bind, Option.bind_some, htest, if_true, hf, hi']
      rw [hrest]
      simp

end Library.Scan
