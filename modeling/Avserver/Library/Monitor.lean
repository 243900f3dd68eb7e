import Mathlib.Tactic.Common

/-!
# Monitors

What passes between the parties of a protocol is a list of messages.  A monitor keeps account of
those that have passed, and says in each state of the account which message may be the next one;
the list is accepted if every message of it was allowed behind those before it.
-/

namespace Library

variable {σ α : Type*}

/-- An account over messages: `next` says how the account goes on with a message, and `allows` which
messages are allowed behind it. -/
structure Monitor (σ α : Type*) where
  next : σ → α → σ
  allows : σ → α → Prop

namespace Monitor

variable (m : Monitor σ α)

/-- The account behind the messages `es`, where it is `s` in front of them. -/
def after (s : σ) (es : List α) : σ := es.foldl m.next s

/-- The monitor accepts the messages: from the account `s` on, each one is allowed behind those
before it. -/
def Accepts : σ → List α → Prop
  | _, [] => True
  | s, e :: es => m.allows s e ∧ Accepts (m.next s e) es

variable {m} {s : σ} {e : α} {es es' : List α}

theorem after_append : m.after s (es ++ es') = m.after (m.after s es) es' := List.foldl_append

theorem after_concat : m.after s (es ++ [e]) = m.next (m.after s es) e := after_append

theorem accepts_append : m.Accepts s (es ++ es') ↔ m.Accepts s es ∧ m.Accepts (m.after s es) es' := by
  induction es generalizing s with
  | nil => simp [Accepts, after]
  | cons e es ih =>
      rw [List.cons_append, Accepts, Accepts, ih, and_assoc]
      rfl

theorem Accepts.concat (h : m.Accepts s es) (he : m.allows (m.after s es) e) :
  m.Accepts s (es ++ [e])
  :=
  accepts_append.mpr ⟨h, he, trivial⟩

end Monitor

end Library
