import Mathlib.Tactic.Common

/-!
# Computations that may fail

A computation that may fail is an `Except ε α`.  A success of a sequence of computations is a
success of each (`bind_ok`), and a property of the state that each step of a loop preserves is
preserved by the loop (`foldlM_invariant`).  What a computation `Yields` is read off its parts in
the same way.  When a computation is to end in certain errors
exactly where a condition fails, it `Checks` the condition; a sequence of computations checks
what its parts check.
-/

namespace Library

universe u

variable {ε α : Type*} {σ : Type u}

/-- The sequence `x >>= f` succeeds with `b` exactly when `x` succeeds with some `a` and `f a`
succeeds with `b`. -/
theorem bind_ok {β γ : Type u} {x : Except ε β} {f : β → Except ε γ} {b : γ} :
  (x >>= f) = .ok b ↔ ∃ a, x = .ok a ∧ f a = .ok b
  := by
  cases x with
  | error e => simp [bind, Except.bind]
  | ok a => simp [bind, Except.bind]

/-- The mapped computation `x.map f` succeeds with `b` exactly when `x` succeeds with some `a` for
which `f a` is `b`. -/
theorem map_ok {β γ : Type u} {x : Except ε β} {f : β → γ} {b : γ} :
  x.map f = .ok b ↔ ∃ a, x = .ok a ∧ f a = b
  := by
  cases x with
  | error e => simp [Except.map]
  | ok a => simp [Except.map]

/-- A computation `x.mapError f`, which fails in another way, has the same successes as `x`. -/
theorem mapError_ok {ε' : Type*} {x : Except ε α} {f : ε → ε'} {a : α} :
  x.mapError f = .ok a ↔ x = .ok a
  := by
  cases x with
  | error e => simp [Except.mapError]
  | ok b => simp [Except.mapError]

/-- A loop over `x :: xs` succeeds exactly when its first step, on `x`, and the rest of the loop,
over `xs`, do. -/
theorem foldlM_cons_ok {f : σ → α → Except ε σ} {s t : σ} {x : α} {xs : List α} :
  List.foldlM f s (x :: xs) = .ok t ↔ ∃ s', f s x = .ok s' ∧ List.foldlM f s' xs = .ok t
  := by
  rw [List.foldlM_cons]
  apply bind_ok

theorem foldlM_nil_ok {f : σ → α → Except ε σ} {s t : σ} :
  List.foldlM f s [] = .ok t ↔ s = t
  := by simp [pure, Except.pure]

/-- A loop over `xs` that looks for an element with the property `P` says in the end whether there
is one, or whether `u` was true from the start. -/
theorem foldl_or {P : α → Prop} {u : Prop} {xs : List α} :
  (xs.foldl (fun u x => u ∨ P x) u) ↔ u ∨ ∃ x ∈ xs, P x
  := by
  induction xs generalizing u with
  | nil => simp
  | cons x xs ih => simp only [List.foldl_cons, ih, List.mem_cons, exists_eq_or_imp, or_assoc]

/-- What every step `f` of a loop over `xs` preserves, the loop preserves if it succeeds. -/
theorem foldlM_invariant
    {f : σ → α → Except ε σ} {I : σ → Prop} {xs : List α}
    (h : ∀ s x s', x ∈ xs → I s → f s x = .ok s' → I s') {s t : σ}
    (hf : List.foldlM f s xs = .ok t) (hs : I s) :
  I t
  := by
  induction xs generalizing s with
  | nil =>
      obtain rfl := foldlM_nil_ok.mp hf
      apply hs
  | cons x xs ih =>
      obtain ⟨s', hx, hxs⟩ := foldlM_cons_ok.mp hf
      apply ih _ hxs
      · apply h s x s' (.head _) hs hx
      · intro s x s' hmem
        apply h s x s' (.tail _ hmem)

/-! ### What a computation yields -/

/-- If the computation `x` succeeds, then what it yields has the property `Q`. -/
def Yields {α : Type u} (Q : α → Prop) (x : Except ε α) : Prop := ∀ a, x = .ok a → Q a

namespace Yields

variable {β γ : Type u} {P Q : β → Prop} {R : γ → Prop} {x y : Except ε β}

theorem of_ok {a : β} (h : Q a) : Yields Q (.ok a : Except ε β) := by
  intro b hb
  obtain rfl := Except.ok.inj hb
  apply h

theorem of_error {e : ε} : Yields Q (.error e : Except ε β) := fun _ h => by cases h

theorem mono (h : Yields P x) (hPQ : ∀ a, P a → Q a) : Yields Q x := fun a ha => hPQ a (h a ha)

theorem bind {f : β → Except ε γ} (h : Yields P x) (h' : ∀ a, P a → Yields R (f a)) :
  Yields R (x >>= f)
  := by
  intro b hb
  obtain ⟨a, ha, hb⟩ := bind_ok.mp hb
  apply h' a (h a ha) b hb

/-- The sequence `x >>= f` yields what has `R` if every `f a` does, whatever `x` yields. -/
theorem of_bind {f : β → Except ε γ} (h : ∀ a, Yields R (f a)) : Yields R (x >>= f) :=
  bind (P := fun _ => True) (fun _ _ => trivial) fun a _ => h a

theorem ite {c : Prop} [Decidable c] (hx : c → Yields Q x) (hy : ¬ c → Yields Q y) :
  Yields Q (if c then x else y)
  := by
  split
  · next hc => apply hx hc
  · next hc => apply hy hc

/-- A loop over `xs` that starts with `I` yields what has `I` if every step `f` preserves it. -/
theorem foldlM
    {f : σ → α → Except ε σ} {I : σ → Prop} {xs : List α} {s : σ}
    (h : ∀ s, ∀ x ∈ xs, I s → Yields I (f s x)) (hs : I s) :
  Yields I (List.foldlM f s xs)
  := fun _ ht => foldlM_invariant (fun s x s' hx hs hs' => h s x hx hs s' hs') ht hs

end Yields

/-! ### Errors that are looked for -/

/-- The computation ends in an error of `F` only when `P` fails, and succeeds only when `P`
holds. -/
structure Checks {α : Type u} (F : ε → Prop) (P : Prop) (x : Except ε α) : Prop where
  error : ∀ e, x = .error e → F e → ¬ P
  ok : ∀ a, x = .ok a → P

namespace Checks

variable {β γ : Type u} {F : ε → Prop} {P Q : Prop} {x : Except ε β}

theorem of_ok {a : β} (h : P) : Checks F P (.ok a : Except ε β) where
  error := fun _ heq => by cases heq
  ok := fun _ _ => h

theorem of_error {e : ε} (h : F e → ¬ P) : Checks F P (.error e : Except ε β) where
  error := fun e' heq => by
    obtain rfl := Except.error.inj heq
    apply h
  ok := fun _ heq => by cases heq

theorem iff (h : Checks F P x) (hPQ : P ↔ Q) : Checks F Q x := by
  obtain rfl := propext hPQ
  apply h

/-- If `x` checks `P`, and `f` checks `Q` behind each success of `x`, then the sequence `x >>= f`
checks both. -/
theorem bind
    {f : β → Except ε γ} (h : Checks F P x) (h' : ∀ a, x = .ok a → Checks F Q (f a)) :
  Checks F (P ∧ Q) (x >>= f)
  := by
  cases x with
  | error e => apply of_error fun he hPQ => h.error e rfl he hPQ.1
  | ok a =>
      apply (h' a rfl).iff
      exact (and_iff_right (h.ok a rfl)).symm

/-- If `x` checks `P` and what follows it, `f`, checks nothing, then `x >>= f` checks `P`. -/
theorem bind_free
    {f : β → Except ε γ} (h : Checks F P x) (h' : ∀ a, Checks F True (f a)) :
  Checks F P (x >>= f)
  := (h.bind fun a _ => h' a).iff (and_iff_left trivial)

/-- If `x` checks nothing and `f` checks `P` behind each success of `x`, then `x >>= f` checks
`P`. -/
theorem free_bind
    {f : β → Except ε γ} (h : Checks F True x) (h' : ∀ a, x = .ok a → Checks F P (f a)) :
  Checks F P (x >>= f)
  := (h.bind h').iff (and_iff_right trivial)

theorem map {f : β → γ} (h : Checks F P x) : Checks F P (x.map f) := by
  cases x with
  | error e => apply of_error (h.error e rfl)
  | ok a => apply of_ok (h.ok a rfl)

/-- A loop over `xs` whose steps `f` check nothing checks nothing. -/
theorem foldlM_free
    {f : σ → α → Except ε σ} {xs : List α} (h : ∀ s, ∀ x ∈ xs, Checks F True (f s x)) (s : σ) :
  Checks F True (List.foldlM f s xs)
  := by
  induction xs generalizing s with
  | nil => apply of_ok trivial
  | cons x xs ih =>
      rw [List.foldlM_cons]
      apply (h s x (.head _)).bind_free
      apply ih
      intro s x hmem
      apply h s x (.tail _ hmem)

end Checks

end Library
