import Mathlib.Data.List.Nodup
import Mathlib.Tactic.Common

/-!
# Doubly linked lists in a heap

A heap assigns to each cell its two pointers `next` and `prev`.  `Seg h p a xs` says that
the pointer `a` leads along `next` through the cells `xs` to the null pointer, that the
`prev` pointers lead back along the same cells, and that the `prev` pointer of the first
cell is `p`; a list with head pointer `a` is `Seg h none a xs`.  The rules below say what
the pointer writes of the usual operations do to a segment: a cell pushed in front
(`Seg.push`), the first cell dropped (`Seg.pop`), a cell spliced out (`Seg.unlink_head`,
`Seg.unlink_inner`).  Cells outside a segment do not matter to it (`Seg.congr`).
-/

namespace Library.DList

variable {α : Type*}

/-- The two pointers of a cell of a doubly linked list: `next` and `prev`, each of them null or to a
cell of `α`. -/
structure Links (α : Type*) where
  /-- the following cell -/
  next : Option α
  /-- the preceding cell -/
  prev : Option α
deriving DecidableEq

/-- The memory: each cell of `α` with the two pointers that it holds. -/
abbrev Heap (α : Type*) := α → Links α

section Writes

variable [DecidableEq α]

/-- The write `x->next = v` to the heap `h`, which leaves every other pointer alone. -/
def setNext (h : Heap α) (x : α) (v : Option α) : Heap α :=
  Function.update h x { h x with next := v }

/-- The write `x->prev = v` to the heap `h`, which leaves every other pointer alone. -/
def setPrev (h : Heap α) (x : α) (v : Option α) : Heap α :=
  Function.update h x { h x with prev := v }

/-- The guarded write `if (a) a->prev = v` to the heap `h`, which does nothing if `a` is null. -/
def setPrevOf (h : Heap α) (a v : Option α) : Heap α :=
  match a with
  | some x => setPrev h x v
  | none => h

@[simp]
theorem setNext_self (h : Heap α) (x : α) (v : Option α) :
  setNext h x v x = { h x with next := v }
  := by simp [setNext]

@[simp]
theorem setPrev_self (h : Heap α) (x : α) (v : Option α) :
  setPrev h x v x = { h x with prev := v }
  := by simp [setPrev]

theorem setNext_of_ne {h : Heap α} {x y : α} (v : Option α) (hne : y ≠ x) :
  setNext h x v y = h y
  := Function.update_of_ne hne _ _

theorem setPrev_of_ne {h : Heap α} {x y : α} (v : Option α) (hne : y ≠ x) :
  setPrev h x v y = h y
  := Function.update_of_ne hne _ _

theorem setPrevOf_of_ne {h : Heap α} {a : Option α} {y : α} (v : Option α)
    (hne : a ≠ some y) :
  setPrevOf h a v y = h y
  := by
  cases a with
  | none => rfl
  | some x =>
      apply setPrev_of_ne
      rintro rfl
      apply hne rfl

/-- A guarded write `setPrevOf h a v` to `prev` leaves the `next` pointer of every cell `y`
alone. -/
@[simp]
theorem setPrevOf_next (h : Heap α) (a v : Option α) (y : α) :
  (setPrevOf h a v y).next = (h y).next
  := by
  cases a with
  | none => rfl
  | some x =>
      by_cases hxy : y = x
      · subst hxy
        simp [setPrevOf]
      · rw [setPrevOf, setPrev_of_ne v hxy]

end Writes

/-- `Seg h p a xs`: along `next`, the pointer `a` leads through the cells `xs` to the null
pointer, each `prev` leads to the cell before, and the first one to `p`. -/
def Seg (h : Heap α) (p a : Option α) : List α → Prop
  | [] => a = none
  | x :: xs => a = some x ∧ (h x).prev = p ∧ Seg h (some x) (h x).next xs

namespace Seg

variable {h h' : Heap α} {p q a : Option α} {x w : α} {xs ys l₁ l₂ : List α}

theorem nil : Seg h p none [] := rfl

theorem nil_inv (hs : Seg h p none xs) :
  xs = []
  := by
  cases xs with
  | nil => rfl
  | cons y ys => cases hs.1

theorem head_eq (hs : Seg h p a xs) :
  a = xs.head?
  := by
  cases xs with
  | nil => apply hs
  | cons y ys => apply hs.1

/-- If a pointer to the cell `x` leads to the segment `xs`, then `xs` starts with `x` and goes on
from where `x` points to. -/
theorem cons_of_some (hs : Seg h p (some x) xs) :
  ∃ ys, xs = x :: ys ∧ Seg h (some x) (h x).next ys
  := by
  cases xs with
  | nil => cases hs
  | cons y ys =>
      obtain ⟨heq, -, hs⟩ := hs
      obtain rfl := Option.some.inj heq
      use ys, rfl, hs

/-- A segment `xs` depends only on its own cells: if `h'` agrees with `h` on them, it is a segment
of `h'` as well. -/
theorem congr (hs : Seg h p a xs) (heq : ∀ y ∈ xs, h' y = h y) :
  Seg h' p a xs
  := by
  induction xs generalizing p a with
  | nil => apply hs
  | cons y ys ih =>
      obtain ⟨ha, hp, hs⟩ := hs
      have hy : h' y = h y := heq y List.mem_cons_self
      use ha
      rw [hy]
      use hp
      apply ih hs
      intro z hz
      apply heq z (List.mem_cons_of_mem y hz)

/-- In a segment in which `w` and `x` follow one another, the `prev` pointer of `x` leads to `w`. -/
theorem prev_of_append (hs : Seg h p a (l₁ ++ w :: x :: l₂)) :
  (h x).prev = some w
  := by
  induction l₁ generalizing p a with
  | nil =>
      obtain ⟨-, -, -, hx, -⟩ := hs
      apply hx
  | cons y ys ih => apply ih hs.2.2

/-- From any of its cells `x` on, a segment is a segment again, whose `prev` is `x`. -/
theorem tail_of_append (hs : Seg h p a (l₁ ++ x :: l₂)) :
  Seg h (some x) (h x).next l₂
  := by
  induction l₁ generalizing p a with
  | nil => apply hs.2.2
  | cons y ys ih => apply ih hs.2.2

section Operations

variable [DecidableEq α]

/-- After `setPrevOf h a q`, where `a` leads to the segment `xs` without repetition, the segment is
still there and points back to `q`. -/
theorem setPrevOf (hs : Seg h p a xs) (hnd : xs.Nodup) (q : Option α) :
  Seg (setPrevOf h a q) q a xs
  := by
  cases xs with
  | nil =>
      obtain rfl : a = none := hs
      apply nil
  | cons y ys =>
      obtain ⟨rfl, -, hs⟩ := hs
      have hy : y ∉ ys := List.Nodup.notMem hnd
      use rfl
      simp only [DList.setPrevOf, setPrev_self, true_and]
      apply congr hs
      intro z hz
      apply setPrev_of_ne
      rintro rfl
      apply hy hz

/-- A fresh cell `x` is pushed in front of the list `xs`: its pointers are set, the old first cell
points back to it, and it leads to the list `x :: xs`. -/
theorem push (hs : Seg h none a xs) (hnd : xs.Nodup) (hx : x ∉ xs) :
  Seg (DList.setPrevOf (setNext (setPrev h x none) x a) a (some x)) none (some x)
    (x :: xs)
  := by
  have hax : a ≠ some x := by
    rintro rfl
    obtain ⟨ys, rfl, -⟩ := cons_of_some hs
    apply hx List.mem_cons_self
  have hold : Seg (setNext (setPrev h x none) x a) none a xs := by
    apply congr hs
    intro y hy
    have hyx : y ≠ x := by
      rintro rfl
      apply hx hy
    rw [setNext_of_ne a hyx, setPrev_of_ne none hyx]
  use rfl
  rw [setPrevOf_of_ne _ hax]
  simp only [setNext_self, setPrev_self, true_and]
  apply setPrevOf hold hnd

/-- The first cell `x` of a list is dropped: what it points to leads to `xs`, whose first cell
points back to `q`. -/
theorem pop (hs : Seg h p a (x :: xs)) (hnd : (x :: xs).Nodup) (q : Option α) :
  Seg (DList.setPrevOf h (h x).next q) q (h x).next xs
  := setPrevOf hs.2.2 (List.Nodup.of_cons hnd) q

/-- The first cell `x` of a whole list is spliced out: its `prev` is null, so the list begins with
its successor, which points back to null. -/
theorem unlink_head (hs : Seg h none a (x :: xs)) (hnd : (x :: xs).Nodup) :
  (h x).prev = none ∧ Seg (DList.setPrevOf h (h x).next (h x).prev) none (h x).next xs
  := by
  have hprev : (h x).prev = none := hs.2.1
  use hprev
  rw [hprev]
  apply pop hs hnd

/-- Splicing out a cell that another one `w` precedes: the successor points back to `w`
and `w` points on to the successor. -/
theorem unlink_inner (hs : Seg h p a (l₁ ++ w :: x :: l₂))
    (hnd : (l₁ ++ w :: x :: l₂).Nodup) :
  Seg (setNext (DList.setPrevOf h (h x).next (some w)) w (h x).next) p a (l₁ ++ w :: l₂)
  := by
  have htail : Seg h (some x) (h x).next l₂ := by
    have hs' : Seg h p a ((l₁ ++ [w]) ++ x :: l₂) := by
      rw [List.append_assoc]
      apply hs
    apply tail_of_append hs'
  have hhead : (h x).next = l₂.head? := htail.head_eq
  induction l₁ generalizing p a with
  | nil =>
      obtain ⟨ha, hp, -⟩ := hs
      have hw : w ∉ x :: l₂ := List.Nodup.notMem hnd
      have hnext : (h x).next ≠ some w := by
        rw [hhead]
        intro hcon
        apply hw (List.mem_cons_of_mem x (List.mem_of_head? hcon))
      use ha
      simp only [setNext_self, setPrevOf_of_ne _ hnext]
      use hp
      apply congr (setPrevOf htail (List.Nodup.of_cons (List.Nodup.of_cons hnd)) (some w))
      intro y hy
      apply setNext_of_ne
      rintro rfl
      apply hw (List.mem_cons_of_mem x hy)
  | cons y ys ih =>
      obtain ⟨ha, hp, hs⟩ := hs
      have hy : y ∉ ys ++ w :: x :: l₂ := List.Nodup.notMem hnd
      have hnext : (h x).next ≠ some y := by
        rw [hhead]
        intro hcon
        apply hy
        simp [List.mem_of_head? hcon]
      have hyw : y ≠ w := by
        rintro rfl
        apply hy
        simp
      use ha
      rw [setNext_of_ne _ hyw, setPrevOf_of_ne _ hnext]
      use hp, ih hs (List.Nodup.of_cons hnd)

end Operations

end Seg

end Library.DList
