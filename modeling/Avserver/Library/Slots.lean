import Mathlib.Data.List.Count
import Mathlib.Logic.Function.Basic

/-!
# Tables with a bounded number of slots

A table is a list of slots, each of them free or occupied by an item.  An item is placed in the
first free slot, and a slot is freed by its number; the length of the table never changes.
Items can be counted by kind: placing an item adds one to the count of its kinds, and an item
finds a slot unless all of them are occupied.

A table with a fixed number of slots may also be a function; then what its slots hold can be
counted with `tally`.
-/

namespace Library.Slots

variable {α : Type*} {a : α} {l l' : List (Option α)} {p : α → Bool}

/-- The slots after the item `a` has been placed in the first free one, or `none` if no slot is
free. -/
def place (a : α) : List (Option α) → Option (List (Option α))
  | [] => none
  | none :: l => some (some a :: l)
  | some b :: l => (place a l).map (some b :: ·)

/-- The number of slots of `l` that are occupied by an item with the property `p`. -/
def occupied (p : α → Bool) (l : List (Option α)) : Nat := l.countP fun o => o.any p

/-- A relation `motive` between the slots before and after an item `a` is placed holds if it does
when the first slot is free, and is kept by an occupied slot in front. -/
theorem place_cases
    {motive : List (Option α) → List (Option α) → Prop}
    (hfree : ∀ l, motive (none :: l) (some a :: l))
    (hskip : ∀ b l l', motive l l' → motive (some b :: l) (some b :: l'))
    (h : place a l = some l') :
  motive l l'
  := by
  induction l generalizing l' with
  | nil => contradiction
  | cons o l ih =>
      cases o with
      | none =>
          obtain rfl := Option.some.inj h
          apply hfree
      | some b =>
          obtain ⟨l₁, hplace, rfl⟩ := Option.map_eq_some_iff.mp h
          apply hskip b l l₁ (ih hplace)

theorem length_place (h : place a l = some l') : l'.length = l.length := by
  apply place_cases (motive := fun l l' => l'.length = l.length) _ _ h
  · simp
  · simp

theorem mem_place (h : place a l = some l') : some a ∈ l' := by
  apply place_cases (motive := fun _ l' => some a ∈ l') _ _ h
  · simp
  · intro b l l' ih
    apply List.mem_cons_of_mem _ ih

/-- Placing an item `a` adds one to the number of items with `p` if `a` has it, and otherwise
nothing. -/
theorem occupied_place (h : place a l = some l') :
  occupied p l' = occupied p l + if p a then 1 else 0
  := by
  apply place_cases (motive := fun l l' => occupied p l' = occupied p l + if p a then 1 else 0) _ _ h
  · simp [occupied, List.countP_cons]
  · intro b l l' ih
    simp only [occupied, List.countP_cons] at ih ⊢
    omega

/-- Freeing the slot `i` of `l` does not add to the number of items with `p`. -/
theorem occupied_set_none_le (i : Nat) (l : List (Option α)) :
  occupied p (l.set i none) ≤ occupied p l
  := by
  induction l generalizing i with
  | nil => simp
  | cons o l ih =>
      cases i with
      | zero => simp [occupied, List.countP_cons]
      | succ i =>
          have hle := ih i
          simp only [occupied, List.set_cons_succ, List.countP_cons] at hle ⊢
          omega

/-- An item `a` finds no slot only when every slot of `l` is occupied, by an item with `p` or by one
without it. -/
theorem occupied_of_place_eq_none (p : α → Bool) (h : place a l = none) :
  occupied p l + occupied (fun b => !p b) l = l.length
  := by
  induction l with
  | nil => rfl
  | cons o l ih =>
      cases o with
      | none => contradiction
      | some b =>
          have hl := ih (Option.map_eq_none_iff.mp h)
          simp only [occupied, List.countP_cons, Option.any_some, List.length_cons] at hl ⊢
          by_cases hb : p b = true
          · simp only [hb, if_true, Bool.not_true, Bool.false_eq_true, if_false]
            omega
          · simp only [Bool.not_eq_true] at hb
            simp only [hb, Bool.not_false, if_true, Bool.false_eq_true, if_false]
            omega

/-! ### Tables that are functions -/

variable {β : Type*} {f : Nat → β} {q : β → Bool} {k n : Nat} {b : β}

/-- How many of the first `n` slots, as `f` gives their contents, hold something with the property
`q`. -/
def tally (q : β → Bool) (n : Nat) (f : Nat → β) : Nat := (List.range n).countP fun i => q (f i)

theorem tally_succ : tally q (n + 1) f = tally q n f + if q (f n) then 1 else 0 := by
  simp [tally, List.range_succ, List.countP_append, List.countP_cons]

theorem tally_update_of_le (h : n ≤ k) : tally q n (Function.update f k b) = tally q n f := by
  induction n with
  | zero => rfl
  | succ n ih => rw [tally_succ, tally_succ, ih (by omega), Function.update_of_ne (by omega)]

/-- If the slot `k` gets the content `b`, the number of slots with `q` loses what the old content
counted for and gains what `b` counts for. -/
theorem tally_update (h : k < n) :
  tally q n (Function.update f k b) + (if q (f k) then 1 else 0)
    = tally q n f + if q b then 1 else 0
  := by
  induction n with
  | zero => omega
  | succ n ih =>
      rw [tally_succ, tally_succ]
      obtain rfl | hlt : k = n ∨ k < n := by omega
      · rw [tally_update_of_le (Nat.le_refl k), Function.update_self]
        omega
      · rw [Function.update_of_ne (by omega)]
        have hslots := ih hlt
        omega

/-- At most one of the first `n` slots counts exactly when no two of them hold something with the
property `q`. -/
theorem tally_le_one_iff :
  tally q n f ≤ 1 ↔ ∀ i < n, ∀ j < n, q (f i) = true → q (f j) = true → i = j
  := by
  induction n with
  | zero => simp [tally]
  | succ n ih =>
      rw [tally_succ]
      cases hq : q (f n) with
      | false =>
          have hbelow {i : Nat} (hi : i < n + 1) (hqi : q (f i) = true) : i < n := by
            obtain rfl | hlt : i = n ∨ i < n := by omega
            · rw [hq] at hqi
              contradiction
            · apply hlt
          simp only [Bool.false_eq_true, if_false, Nat.add_zero, ih]
          constructor
          · intro h i hi j hj hqi hqj
            apply h i (hbelow hi hqi) j (hbelow hj hqj) hqi hqj
          · intro h i hi j hj
            apply h i (by omega) j (by omega)
      | true =>
          have hnone : tally q n f + 1 ≤ 1 ↔ ∀ i < n, ¬ q (f i) = true := by
            simp [tally, List.countP_eq_zero]
          rw [if_pos rfl, hnone]
          constructor
          · intro h i hi j hj hqi hqj
            have hlast {k : Nat} (hk : k < n + 1) (hqk : q (f k) = true) : k = n := by
              by_contra hne
              apply h k (by omega) hqk
            rw [hlast hi hqi, hlast hj hqj]
          · intro h i hi hqi
            have heq := h i (by omega) n (by omega) hqi hq
            omega

end Library.Slots
