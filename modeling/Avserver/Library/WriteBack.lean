import Mathlib.Logic.Function.Basic
import Mathlib.Tactic.Common

/-!
# Write-back

The cells of a memory are kept in lines of a backing store; a cell may also have no line.
A line is dirty while its cells have been changed and not written back.  The memory is
`Clean` on a set of cells when those of its cells whose line is not dirty are as they are in
the backing store; a change of a cell keeps the memory clean when it makes the line of the
cell dirty, and after all dirty lines have been flushed the memory and the backing store
agree.
-/

namespace Library

variable {κ ℓ : Type*} {ν : κ → Type*}

/-- The cells of `S` that have a line hold in `mem` what the backing store `back` holds. -/
def Agree (line : κ → Option ℓ) (S : κ → Prop) (mem back : ∀ k, ν k) : Prop :=
  ∀ k, S k → line k ≠ none → mem k = back k

/-- The cells of `S` whose line is not marked in `dirty` hold in `mem` what the backing store `back`
holds. -/
def Clean (line : κ → Option ℓ) (S : κ → Prop) (dirty : ℓ → Bool) (mem back : ∀ k, ν k) :
    Prop :=
  ∀ k, S k → ∀ l, line k = some l → dirty l = false → mem k = back k

/-- The backing store after the lines marked in `dirty` have been written back from `mem`. -/
def flush (line : κ → Option ℓ) (dirty : ℓ → Bool) (mem back : ∀ k, ν k) : ∀ k, ν k :=
  fun k => if (line k).any dirty then mem k else back k

variable {line : κ → Option ℓ} {S T : κ → Prop} {dirty dirty' : ℓ → Bool} {mem mem' back : ∀ k, ν k}

/-- A cell `k` whose line is dirty holds behind `flush` what it holds in `mem`. -/
theorem flush_dirty {k : κ} {l : ℓ} (hline : line k = some l) (hl : dirty l = true) :
  flush line dirty mem back k = mem k
  := by simp [flush, hline, hl]

/-- A cell `k` whose line is not dirty holds behind `flush` what it held in `back`. -/
theorem flush_not_dirty {k : κ} {l : ℓ} (hline : line k = some l) (hl : dirty l = false) :
  flush line dirty mem back k = back k
  := by simp [flush, hline, hl]

/-- If no line is dirty, `flush` writes nothing back: the store is `back` as before. -/
theorem flush_clean (line : κ → Option ℓ) (mem back : ∀ k, ν k) :
  flush line (fun _ => false) mem back = back
  := by
  funext k
  cases hk : line k with
  | none => simp [flush, hk]
  | some l => apply flush_not_dirty hk rfl

/-- Lines may be written back one after the other: to flush those of `dirty'` and then those of
`dirty` is to flush both at once. -/
theorem flush_flush :
  flush line dirty mem (flush line dirty' mem back)
    = flush line (fun l => dirty' l || dirty l) mem back
  := by
  funext k
  cases hk : line k with
  | none => simp [flush, hk]
  | some l =>
      cases hl : dirty l with
      | true => rw [flush_dirty hk hl, flush_dirty hk (by simp [hl])]
      | false =>
          rw [flush_not_dirty hk hl]
          simp [flush, hk, hl]

namespace Clean

/-- If memory and backing store agree on `S`, the memory is clean, whatever lines are `dirty`. -/
theorem of_agree (h : Agree line S mem back) : Clean line S dirty mem back := by
  intro k hk l hl _
  apply h k hk
  simp [hl]

/-- If the memory is clean, then after all the `dirty` lines have been written back memory and
backing store agree. -/
theorem agree_flush (h : Clean line S dirty mem back) :
  Agree line S mem (flush line dirty mem back)
  := by
  intro k hk hline
  obtain ⟨l, hl⟩ := Option.ne_none_iff_exists'.mp hline
  cases hdirty : dirty l with
  | true => rw [flush_dirty hl hdirty]
  | false => rw [flush_not_dirty hl hdirty, h k hk l hl hdirty]

/-- If the memory is clean, it stays so under a change of `mem` to `mem'` that marks lines but
unmarks none, and spares the cells of `S` on lines that are not marked in `dirty'`. -/
theorem change (h : Clean line S dirty mem back)
    (hdirty : ∀ l, dirty l = true → dirty' l = true)
    (hmem : ∀ k, S k → ∀ l, line k = some l → dirty' l = false → mem' k = mem k) :
  Clean line S dirty' mem' back
  := by
  intro k hk l hl hclean
  rw [hmem k hk l hl hclean]
  apply h k hk l hl
  cases hd : dirty l with
  | true =>
      rw [hdirty l hd] at hclean
      contradiction
  | false => rfl

end Clean

end Library
