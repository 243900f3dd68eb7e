import Mathlib.Data.List.DropRight
import Mathlib.Data.List.Rotate

/-!
# Ring buffers

A ring buffer is a list that is written and read from any position on, around its end.  A block
that does not fit before the end is copied in two parts.  The bytes from a position on are those
of the list rotated to the position, so a block that is written behind a stretch of the ring
extends the stretch (`read_write`), and a stretch falls into the parts in which it is read
(`read_add`).
-/

namespace Library.Ring

variable {α : Type*} {buf xs : List α} {p q n m k : ℕ}

/-! ### Copies -/

/-- The list `buf` after the block `xs` has been copied over it from the position `p` on. -/
def splice (buf : List α) (p : ℕ) (xs : List α) : List α :=
  buf.take p ++ xs ++ buf.drop (p + xs.length)

/-- The ring `buf` after the block `xs` has been copied into it from the position `p` on, around the
end if the block reaches beyond it. -/
def write (buf : List α) (p : ℕ) (xs : List α) : List α :=
  if p + xs.length > buf.length then
    splice (splice buf p (xs.take (buf.length - p))) 0 (xs.drop (buf.length - p))
  else splice buf p xs

/-- The `n` entries of the ring `buf` from the position `p` on, around the end. -/
def read (buf : List α) (p n : ℕ) : List α := (buf.rotate p).take n

@[simp] theorem length_splice (h : p + xs.length ≤ buf.length) :
  (splice buf p xs).length = buf.length
  := by
  simp only [splice, List.length_append, List.length_take, List.length_drop]
  omega

/-- If the blocks `as` and `bs` are copied over `buf` one behind the other, both are there. -/
theorem take_splice_splice (buf as bs : List α) :
  (splice (splice buf 0 as) as.length bs).take (as.length + bs.length) = as ++ bs
  := by
  have has : (splice buf 0 as).take as.length = as := by
    simp [splice]
  rw [splice, has, ← List.length_append, List.take_left]

theorem take_splice (buf xs : List α) :
  (splice buf 0 xs).take xs.length = xs
  := by
  simp [splice]

/-! ### Reading -/

theorem length_read (h : n ≤ buf.length) : (read buf p n).length = n := by
  rw [read, List.length_take, List.length_rotate]
  omega

/-- If the `n` entries from `p` on do not reach beyond the end of `buf`, the ring is read as the
list is. -/
theorem read_of_le (h : p + n ≤ buf.length) :
  read buf p n = (buf.drop p).take n
  := by
  rw [read, List.rotate_eq_drop_append_take (by omega), List.take_append_of_le_length]
  rw [List.length_drop]
  omega

/-- If the `n` entries from `p` on reach around the end of `buf`, they are its end and then its
front. -/
theorem read_of_gt (hp : p ≤ buf.length) (hn : n ≤ buf.length) (h : buf.length ≤ p + n) :
  read buf p n = buf.drop p ++ buf.take (p + n - buf.length)
  := by
  rw [read, List.rotate_eq_drop_append_take hp, List.take_append, List.take_take,
    List.take_of_length_le, List.length_drop]
  · congr 2
    omega
  · rw [List.length_drop]
    omega

/-- The position `p` from which the ring is read counts up to multiples of its length only. -/
theorem read_mod (buf : List α) (p n : ℕ) :
  read buf (p % buf.length) n = read buf p n
  := by
  rw [read, List.rotate_mod, read]

/-- A stretch of `k + n` entries of the ring is the stretch of the first `k`, and then that of the
`n` behind them. -/
theorem read_add (h : k + n ≤ buf.length) :
  read buf p (k + n) = read buf p k ++ read buf (p + k) n
  := by
  have hrotate : buf.rotate (p + k) = (buf.rotate p).drop k ++ (buf.rotate p).take k := by
    rw [← List.rotate_rotate, List.rotate_eq_drop_append_take]
    rw [List.length_rotate]
    omega
  rw [read, read, read, List.take_add, hrotate, List.take_append_of_le_length]
  rw [List.length_drop, List.length_rotate]
  omega

/-! ### Writing -/

/-- The list `as ++ bs`, rotated by the length of its front `as`, is `bs ++ as`. -/
theorem rotate_front {as bs : List α} (h : as.length = p) :
  (as ++ bs).rotate p = bs ++ as
  := by
  rw [← h, List.rotate_append_length_eq]

/-- From the position `p` on at which the block `xs` has been written, the ring is `xs` and what
there was behind it. -/
theorem rotate_write (hp : p < buf.length) (hxs : xs.length ≤ buf.length) :
  (write buf p xs).rotate p = xs ++ (buf.rotate p).drop xs.length
  := by
  have htake : (buf.take p).length = p := by
    rw [List.length_take]
    omega
  rw [List.rotate_eq_drop_append_take (Nat.le_of_lt hp), write]
  split
  · next hend =>
      -- the first part reaches to the end of the list, the second one starts at its beginning
      have hfront : (xs.take (buf.length - p)).length = buf.length - p := by
        rw [List.length_take]
        omega
      have hlist : splice (splice buf p (xs.take (buf.length - p))) 0 (xs.drop (buf.length - p))
          = (xs.drop (buf.length - p) ++ (buf.take p).drop (xs.length - (buf.length - p)))
            ++ xs.take (buf.length - p) := by
        rw [splice, splice, hfront, List.length_drop, List.take_zero, List.nil_append, Nat.zero_add,
          @List.drop_eq_nil_of_le α buf _ (by omega), List.append_nil,
          List.drop_append_of_le_length (by omega), List.append_assoc]
      rw [hlist, rotate_front, ← List.append_assoc, List.take_append_drop, List.drop_append,
        @List.drop_eq_nil_of_le α (buf.drop p), List.length_drop, List.nil_append]
      · rw [List.length_drop]
        omega
      · rw [List.length_append, List.length_drop, List.length_drop]
        omega
  · next hend =>
      rw [splice, List.append_assoc, rotate_front htake, List.append_assoc,
        List.drop_append_of_le_length, List.drop_drop]
      rw [List.length_drop]
      omega

theorem length_write (hp : p < buf.length) (hxs : xs.length ≤ buf.length) :
  (write buf p xs).length = buf.length
  := by
  have h := congrArg List.length (rotate_write hp hxs)
  rw [List.length_rotate, List.length_append, List.length_drop, List.length_rotate] at h
  omega

/-- If `n` entries from `p` on are in use, and there is room for the block `xs` behind them, then
after it has been written the entries from `p` on are the old ones and `xs`. -/
theorem read_write (hp : p < buf.length) (h : n + xs.length ≤ buf.length) :
  read (write buf ((p + n) % buf.length) xs) p (n + xs.length) = read buf p n ++ xs
  := by
  have hend : (p + n) % buf.length < buf.length := Nat.mod_lt _ (by omega)
  have hlength : (write buf ((p + n) % buf.length) xs).length = buf.length :=
    length_write hend (by omega)
  -- the stretch is the end of the ring as it is seen from behind the stretch
  have hback : (buf.rotate ((p + n) % buf.length))
      = (buf.rotate p).drop n ++ (buf.rotate p).take n := by
    rw [List.rotate_mod, ← List.rotate_rotate, List.rotate_eq_drop_append_take]
    rw [List.length_rotate]
    omega
  have hround : (write buf ((p + n) % buf.length) xs).rotate p
      = ((write buf ((p + n) % buf.length) xs).rotate ((p + n) % buf.length)).rotate
        (buf.length - n) := by
    rw [List.rotate_rotate, ← List.rotate_mod, hlength]
    conv_rhs => rw [← List.rotate_mod, hlength]
    congr 1
    rw [Nat.mod_add_mod, show p + n + (buf.length - n) = p + buf.length by omega,
      Nat.add_mod_right]
  have hstretch : ((buf.rotate p).take n).length = n := by
    apply length_read
    omega
  have hrest : ((buf.rotate p).drop n).length = buf.length - n := by
    rw [List.length_drop, List.length_rotate]
  rw [read, read, hround, rotate_write hend (by omega), hback,
    List.drop_append_of_le_length (by omega), ← List.append_assoc, rotate_front,
    ← List.append_assoc, List.take_left']
  · rw [List.length_append, hstretch]
  · rw [List.length_append, List.length_drop, hrest]
    omega

/-- If there is no room for the block `xs` behind the `n` entries from `p` on, the write takes the
room of the oldest ones: the ring holds as many of the latest entries as it has room for. -/
theorem read_overwrite
    (hp : p < buf.length) (hn : n ≤ buf.length) (hxs : xs.length ≤ buf.length)
    (h : buf.length ≤ n + xs.length) :
  read (write buf ((p + n) % buf.length) xs) ((p + n + xs.length) % buf.length) buf.length
    = (read buf p n ++ xs).rtake buf.length
  := by
  -- the oldest `k` entries are lost, the other `r` are kept
  obtain ⟨k, r, rfl, hr⟩ : ∃ k r, n = k + r ∧ r + xs.length = buf.length :=
    ⟨n + xs.length - buf.length, buf.length - xs.length, by omega, by omega⟩
  have hplace : (p + (k + r) + xs.length) % buf.length = (p + k) % buf.length := by
    rw [show p + (k + r) + xs.length = p + k + buf.length by omega, Nat.add_mod_right]
  have hend : (p + (k + r)) % buf.length = ((p + k) % buf.length + r) % buf.length := by
    rw [Nat.mod_add_mod, Nat.add_assoc]
  have hwrite : read (write buf (((p + k) % buf.length + r) % buf.length) xs)
      ((p + k) % buf.length) (r + xs.length) = read buf ((p + k) % buf.length) r ++ xs :=
    read_write (Nat.mod_lt _ (by omega)) (by omega)
  rw [← hend, hr, read_mod buf] at hwrite
  rw [hplace, hwrite, read_add hn, List.rtake, List.append_assoc, List.drop_left']
  rw [List.length_append, List.length_append, length_read (by omega), length_read (by omega)]
  omega

end Library.Ring
