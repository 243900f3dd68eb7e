import Mathlib.Tactic.Common

/-!
# Runs of a partial step function

A system is a partial function `step : σ → ι → Option σ` from a state and an input to
the next state; an input that is not enabled yields `none`.  `Run step C s is t` says
that the inputs `is` lead from `s` to `t`, each of them enabled and each of them
satisfying the condition `C` in the state in which it is taken.  An invariant is
established for runs by `Run.invariant`, from the one-step preservation; concrete runs
are obtained by evaluation, with `exec` and `Run.of_exec`.
-/

namespace Library

variable {σ ι : Type*} {step : σ → ι → Option σ} {C C' : σ → ι → Prop}

/-- `Run step C s is t`: the inputs `is` lead from `s` to `t`, every one of them is
enabled and satisfies `C` in the state where it is taken. -/
inductive Run (step : σ → ι → Option σ) (C : σ → ι → Prop) : σ → List ι → σ → Prop where
  | nil (s : σ) : Run step C s [] s
  | cons {s s' t : σ} {i : ι} {is : List ι} (hC : C s i) (hstep : step s i = some s')
      (hrun : Run step C s' is t) : Run step C s (i :: is) t

namespace Run

/-- If a property `I` is preserved by the steps that satisfy `C`, then a run `Run step C s is t`
carries it from `s` to `t`. -/
theorem invariant
    {I : σ → Prop} (h : ∀ s i s', I s → C s i → step s i = some s' → I s')
    {s t : σ} {is : List ι} (hrun : Run step C s is t) (hs : I s) :
  I t
  := by
  induction hrun with
  | nil => apply hs
  | cons hC hstep _ ih => apply ih (h _ _ _ hs hC hstep)

/-- If a property `I`, which may be about the inputs that are left, is preserved by the steps that
satisfy `C`, then it holds at the end of a run that starts with it. -/
theorem invariant_left
    {I : σ → List ι → Prop} (h : ∀ s i is s', I s (i :: is) → C s i → step s i = some s' → I s' is)
    {s t : σ} {is : List ι} (hrun : Run step C s is t) (hs : I s is) :
  I t []
  := by
  induction hrun with
  | nil => apply hs
  | cons hC hstep _ ih => apply ih (h _ _ _ _ hs hC hstep)

/-- If `C'` follows from `C`, a run whose steps satisfy `C` is a run whose steps satisfy `C'`. -/
theorem mono
    {s t : σ} {is : List ι} (h : Run step C s is t) (hCC' : ∀ s i, C s i → C' s i) :
  Run step C' s is t
  := by
  induction h with
  | nil s => apply nil
  | cons hC hstep _ ih => apply cons (hCC' _ _ hC) hstep ih

/-- If every step under `C` preserves `I` exactly when it satisfies `C'`, then `I` holds in every
state of a run exactly when every step of the run satisfies `C'`. -/
theorem forall_prefix_iff
    {I : σ → Prop} (h : ∀ s i s', I s → C s i → step s i = some s' → (I s' ↔ C' s i))
    {s t : σ} {is : List ι} (hrun : Run step C s is t) (hs : I s) :
  (∀ pre post u, is = pre ++ post → Run step C s pre u → I u) ↔ Run step C' s is t
  := by
  induction hrun with
  | nil s =>
      constructor
      · intro _
        apply nil
      · rintro _ pre post u heq hpre
        obtain rfl := (List.append_eq_nil_iff.mp heq.symm).1
        cases hpre
        apply hs
  | @cons s s' t i is hC hstep _ ih =>
      have hiff := h s i s' hs hC hstep
      constructor
      · intro hall
        have hs' : I s' := hall [i] is s' rfl (cons hC hstep (nil s'))
        apply cons (hiff.mp hs') hstep
        apply (ih hs').mp
        rintro pre post u rfl hpre
        apply hall (i :: pre) post u rfl (cons hC hstep hpre)
      · rintro (_ | ⟨hC', hstep', hrest⟩) pre post u heq hpre
        obtain rfl := Option.some.inj (hstep.symm.trans hstep')
        have hs' := hiff.mpr hC'
        cases hpre with
        | nil => apply hs
        | @cons _ s'' _ j js _ hstep'' hpre =>
            obtain ⟨rfl, htail⟩ := List.cons.inj heq
            obtain rfl := Option.some.inj (hstep.symm.trans hstep'')
            apply (ih hs').mpr hrest js post u htail hpre

/-- If the conditions `P` and `Q` are equivalent under an invariant `I`, which may be about the
inputs that are left, then a run satisfies the one exactly when it satisfies the other. -/
theorem congr
    {P Q : σ → ι → Prop} {I : σ → List ι → Prop}
    (h : ∀ s i is s', I s (i :: is) → C s i → step s i = some s' → (P s i ↔ Q s i) ∧ I s' is)
    {s t : σ} {is : List ι} (hrun : Run step C s is t) (hs : I s is) :
  Run step P s is t ↔ Run step Q s is t
  := by
  induction hrun with
  | nil s =>
      constructor
      · intro _
        apply nil
      · intro _
        apply nil
  | cons hC hstep _ ih =>
      obtain ⟨hiff, hs'⟩ := h _ _ _ _ hs hC hstep
      constructor
      · rintro (_ | ⟨hP, hstep', hrest⟩)
        obtain rfl := Option.some.inj (hstep.symm.trans hstep')
        apply cons (hiff.mp hP) hstep ((ih hs').mp hrest)
      · rintro (_ | ⟨hQ, hstep', hrest⟩)
        obtain rfl := Option.some.inj (hstep.symm.trans hstep')
        apply cons (hiff.mpr hQ) hstep ((ih hs').mpr hrest)

/-- The run of the inputs that `keep` holds of is related by `R` to the run of all of them: the
others preserve `R` on the side of the whole run, and the kept ones preserve it on both sides. -/
theorem filter
    {R : σ → σ → Prop} {keep : ι → Bool}
    (hdrop : ∀ s u i s', R s u → C s i → keep i = false → step s i = some s' → R s' u)
    (hkeep : ∀ s u i s' u', R s u → C s i → keep i = true → step s i = some s' →
      step u i = some u' → R s' u')
    {s t u v : σ} {is : List ι} (h : Run step C s is t) (h' : Run step C' u (is.filter keep) v)
    (hR : R s u) :
  R t v
  := by
  induction h generalizing u with
  | nil =>
      cases h'
      apply hR
  | @cons s s' t i is hC hstep _ ih =>
      cases hi : keep i with
      | false =>
          rw [List.filter_cons_of_neg (by simp [hi])] at h'
          apply ih h' (hdrop _ _ _ _ hR hC hi hstep)
      | true =>
          rw [List.filter_cons_of_pos hi] at h'
          cases h' with
          | cons hC' hstep' hrun' => apply ih hrun' (hkeep _ _ _ _ _ hR hC hi hstep hstep')

/-- A run under the inputs `is` from `s` to `t`, and one under `js` from `t` to `u`, make one under
`is ++ js`. -/
theorem append
    {s t u : σ} {is js : List ι} (h₁ : Run step C s is t) (h₂ : Run step C t js u) :
  Run step C s (is ++ js) u
  := by
  induction h₁ with
  | nil => apply h₂
  | cons hC hstep _ ih => apply cons hC hstep (ih h₂)

/-- If no input adds to the `rank` and every input with `p` takes from it, then in a run there are
at most as many inputs with `p` as the rank allows. -/
theorem countP_le
    {I : σ → Prop} {rank : σ → Nat} {p : ι → Bool}
    (h : ∀ s i s', I s → C s i → step s i = some s' →
      I s' ∧ rank s' + (if p i then 1 else 0) ≤ rank s)
    {s t : σ} {is : List ι} (hrun : Run step C s is t) (hs : I s) :
  I t ∧ is.countP p + rank t ≤ rank s
  := by
  induction hrun with
  | nil =>
      use hs
      simp
  | @cons s s' t i is hC hstep _ ih =>
      obtain ⟨hs', hrank⟩ := h s i s' hs hC hstep
      obtain ⟨ht, hrest⟩ := ih hs'
      use ht
      rw [List.countP_cons]
      omega

end Run

/-- The state reached from `s` under the inputs, or `none` if one of them is not enabled or does not
satisfy `C`. -/
def exec (step : σ → ι → Option σ) (C : σ → ι → Prop) [∀ s i, Decidable (C s i)] :
    σ → List ι → Option σ
  | s, [] => some s
  | s, i :: is => if C s i then (step s i).bind (exec step C · is) else none

/-- If `exec` computes the state `t` from `s` and `is`, there is a run from `s` to `t` under
`is`. -/
theorem Run.of_exec
    [∀ s i, Decidable (C s i)] {s t : σ} {is : List ι} (h : exec step C s is = some t) :
  Run step C s is t
  := by
  induction is generalizing s with
  | nil =>
      obtain rfl := Option.some.inj h
      apply Run.nil
  | cons i is ih =>
      rw [exec] at h
      split at h
      · next hC =>
          obtain ⟨s', hstep, h⟩ := Option.bind_eq_some_iff.mp h
          apply Run.cons hC hstep (ih h)
      · contradiction

/-- If `exec` computes a state with the decidable property `p`, then there is a run under `is` to
such a state.  It lets a run be found by evaluation. -/
theorem Run.exists_of_exec
    (step : σ → ι → Option σ) (C : σ → ι → Prop) [∀ s i, Decidable (C s i)] (s : σ)
    (p : σ → Bool) (is : List ι) (h : (exec step C s is).any p = true) :
  ∃ t, Run step C s is t ∧ p t = true
  := by
  cases hexec : exec step C s is with
  | none =>
      rw [hexec] at h
      contradiction
  | some t =>
      rw [hexec] at h
      use t, Run.of_exec hexec, h

end Library
