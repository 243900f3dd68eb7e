import Mathlib.Data.List.Basic

/-!
# Buffers with checked bounds

A buffer is a list that is read and written by index, and an access outside of it has no result.
A loop that only makes accesses inside its buffers has one: `loop` is the rule for it, with an
invariant that says what the buffer holds behind the first `k` rounds.  One that leaves a buffer
in its last round has none (`loop_last`).
-/

namespace Library.Buffer

variable {α σ : Type*} {buf buf' : List α} {i j : ℕ} {a : α}

/-- The entry of `buf` at the index `i`, or `none` if `i` is outside the buffer. -/
def load (buf : List α) (i : ℕ) : Option α := buf[i]?

/-- The buffer `buf` after the write of `a` at the index `i`, or `none` if `i` is outside the
buffer. -/
def store (buf : List α) (i : ℕ) (a : α) : Option (List α) :=
  if i < buf.length then some (buf.set i a) else none

/-- An access to `buf` at an index `i` inside it has a result, the entry that is there. -/
theorem load_eq (h : i < buf.length) : load buf i = some buf[i] := List.getElem?_eq_getElem h

theorem store_eq (h : i < buf.length) (a : α) : store buf i a = some (buf.set i a) := if_pos h

/-- After `a` has been written at the index `i` of `buf`, it is what is read at `i`, and the entries
at all other indices `j` are as before. -/
theorem getElem?_set_eq (h : i < buf.length) :
  (buf.set i a)[j]? = if j = i then some a else buf[j]?
  := by
  by_cases hj : j = i
  · subst hj
    rw [if_pos rfl, List.getElem?_set_self h]
  · rw [if_neg hj, List.getElem?_set_ne (Ne.symm hj)]

/-- A loop of `n` rounds of `f` has a result if the invariant `P` holds at the start, and every
round under `P k` has a result under which `P (k + 1)` holds.  At the end `P n` holds. -/
theorem loop
    {f : σ → ℕ → Option σ} {P : ℕ → σ → Prop} {s : σ} {n : ℕ} (hs : P 0 s)
    (hround : ∀ k s, k < n → P k s → ∃ s', f s k = some s' ∧ P (k + 1) s') :
  ∃ s', (List.range n).foldlM f s = some s' ∧ P n s'
  := by
  induction n with
  | zero => exact ⟨s, rfl, hs⟩
  | succ n ih =>
      obtain ⟨s₁, hfirst, h₁⟩ := ih fun k s hk => hround k s (Nat.lt_succ_of_lt hk)
      obtain ⟨s₂, hlast, h₂⟩ := hround n s₁ (Nat.lt_succ_self n) h₁
      use s₂
      rw [List.range_succ, List.foldlM_append, hfirst]
      simp only [Option.bind_eq_bind, Option.bind_some, List.foldlM_cons, List.foldlM_nil, hlast]
      exact ⟨rfl, h₂⟩

/-- A loop of `n + 1` rounds of `f` with a result `s'` has had its last round, with the index
`n`. -/
theorem loop_last
    {f : σ → ℕ → Option σ} {s s' : σ} {n : ℕ} (h : (List.range (n + 1)).foldlM f s = some s') :
  ∃ s₁, f s₁ n = some s'
  := by
  rw [List.range_succ, List.foldlM_append] at h
  obtain ⟨s₁, -, hlast⟩ := Option.bind_eq_some_iff.mp h
  use s₁
  simpa using hlast

/-- If `load buf i` has a result, the index `i` is inside the buffer. -/
theorem lt_of_load (h : load buf i = some a) : i < buf.length := (List.getElem?_eq_some_iff.mp h).1

end Library.Buffer
