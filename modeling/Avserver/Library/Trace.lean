import Mathlib.Tactic.Common

/-!
# Traces

A loop over a list that carries a state and, with each element, puts something out: what it puts
out is a trace.  An element of the trace is put out at one of the elements of the list, in the
state that the elements before it lead to (`mem_trace`).
-/

namespace Library

variable {σ α β : Type*} {g : σ → α → σ} {o : σ → α → List β}

/-- What is put out along a list, from the state `s` on: `g` says how the state goes on with an
element, and `o` what is put out at it. -/
def trace (g : σ → α → σ) (o : σ → α → List β) : σ → List α → List β
  | _, [] => []
  | s, x :: xs => o s x ++ trace g o (g s x) xs

/-- A loop over `xs` that collects what is put out, behind `bs`, ends with the `trace` behind
`bs`. -/
theorem foldl_trace (s : σ) (xs : List α) (bs : List β) :
  xs.foldl (fun u x => (g u.1 x, u.2 ++ o u.1 x)) (s, bs)
    = (xs.foldl g s, bs ++ trace g o s xs)
  := by
  induction xs generalizing s bs with
  | nil => simp [trace]
  | cons x xs ih => simp only [List.foldl_cons, ih, trace, List.append_assoc]

/-- A loop over `xs` that collects the elements behind `ys` ends with `ys ++ xs`. -/
theorem foldl_concat (xs ys : List α) : xs.foldl (fun u x => u ++ [x]) ys = ys ++ xs := by
  induction xs generalizing ys with
  | nil => simp
  | cons x xs ih => simp [ih]

/-- A trace mapped by `f` is the trace in which what is put out at each element is mapped by `f`. -/
theorem map_trace {γ : Type*} (f : β → γ) (s : σ) (xs : List α) :
  (trace g o s xs).map f = trace g (fun s x => (o s x).map f) s xs
  := by
  induction xs generalizing s with
  | nil => rfl
  | cons x xs ih => simp only [trace, List.map_append, ih]

/-- An entry `b` is in the trace of `xs` exactly when it has been put out at an element `x`, in the
state behind the elements before it. -/
theorem mem_trace {s : σ} {xs : List α} {b : β} :
  b ∈ trace g o s xs ↔ ∃ pre x post, xs = pre ++ x :: post ∧ b ∈ o (pre.foldl g s) x
  := by
  induction xs generalizing s with
  | nil => simp [trace]
  | cons x xs ih =>
      rw [trace, List.mem_append, ih]
      constructor
      · rintro (hb | ⟨pre, y, post, rfl, hb⟩)
        · exact ⟨[], x, xs, rfl, hb⟩
        · exact ⟨x :: pre, y, post, rfl, hb⟩
      · rintro ⟨pre, y, post, heq, hb⟩
        cases pre with
        | nil =>
            obtain ⟨rfl, rfl⟩ := List.cons.inj heq
            apply Or.inl hb
        | cons z pre =>
            obtain ⟨rfl, rfl⟩ := List.cons.inj heq
            apply Or.inr ⟨pre, y, post, rfl, hb⟩

/-- A property `P` holds of the whole trace of `xs` exactly when it holds, at each element `x`, of
what is put out there. -/
theorem forall_mem_trace {s : σ} {xs : List α} {P : β → Prop} :
  (∀ b ∈ trace g o s xs, P b) ↔
    ∀ pre x post, xs = pre ++ x :: post → ∀ b ∈ o (pre.foldl g s) x, P b
  := by
  constructor
  · intro h pre x post heq b hb
    apply h b
    apply mem_trace.mpr ⟨pre, x, post, heq, hb⟩
  · intro h b hb
    obtain ⟨pre, x, post, heq, hb⟩ := mem_trace.mp hb
    apply h pre x post heq b hb

end Library
