import Mathlib.Tactic.Common

/-!
# Acquiring and releasing, as a history tells it

A history is a list of events, the last one first.  Each event may acquire a resource,
release one, or require that none is held; `held act log` are the resources acquired and not
released.  `Bracketed act bound log` is the discipline: a resource is acquired only while
fewer than `bound` are held, only what is held is released, and nothing is held where
nothing may be.  In a disciplined history every resource has been released as often as it
was acquired, but for those that are held (`Bracketed.count`).
-/

namespace Library

/-- What an event does to the resources named by `κ`: it acquires one, releases one, demands that
none is held, or does nothing to them. -/
inductive Action (κ : Type*) where
  | acquire (k : κ)
  | release (k : κ)
  /-- no resource may be held -/
  | clear
  /-- the event does not concern the resources -/
  | other
deriving DecidableEq

variable {ε κ : Type*} [DecidableEq κ]

/-- The resources that are held after the events of the log, latest first, where `act` says what
each event does. -/
def held (act : ε → Action κ) : List ε → List κ
  | [] => []
  | ev :: log =>
      match act ev with
      | .acquire k => k :: held act log
      | .release k => (held act log).erase k
      | .clear | .other => held act log

/-- What the discipline demands of the event `ev` behind the events of `log`: at most `bound`
resources are held, only a held one is released, and none is held at a `clear`. -/
def Allowed (act : ε → Action κ) (bound : Nat) (log : List ε) (ev : ε) : Prop :=
  match act ev with
  | .acquire _ => (held act log).length < bound
  | .release k => k ∈ held act log
  | .clear => held act log = []
  | .other => True

/-- The events of a log follow the discipline: each one is `Allowed` behind those before it. -/
def Bracketed (act : ε → Action κ) (bound : Nat) : List ε → Prop
  | [] => True
  | ev :: log => Allowed act bound log ev ∧ Bracketed act bound log

instance (act : ε → Action κ) (bound : Nat) (log : List ε) (ev : ε) :
    Decidable (Allowed act bound log ev) := by
  unfold Allowed
  split
  all_goals infer_instance

instance (act : ε → Action κ) (bound : Nat) : DecidablePred (Bracketed act bound)
  | [] => inferInstanceAs (Decidable True)
  | ev :: log =>
      have : Decidable (Bracketed act bound log) :=
        instDecidablePredListBracketed act bound log
      inferInstanceAs (Decidable (Allowed act bound log ev ∧ Bracketed act bound log))

variable {act : ε → Action κ} {bound : Nat} {log : List ε} {ev : ε}

@[simp]
theorem held_nil : held act [] = [] := rfl

theorem held_acquire {k : κ} (h : act ev = .acquire k) :
  held act (ev :: log) = k :: held act log
  := by simp [held, h]

theorem held_release {k : κ} (h : act ev = .release k) :
  held act (ev :: log) = (held act log).erase k
  := by simp [held, h]

theorem held_clear (h : act ev = .clear) :
  held act (ev :: log) = held act log
  := by simp [held, h]

theorem held_other (h : act ev = .other) :
  held act (ev :: log) = held act log
  := by simp [held, h]

/-- If nothing is held after the events of `early`, then after `late` as well what is held has been
acquired in `late`. -/
theorem held_append {early late : List ε} (hnil : held act early = []) :
  held act (late ++ early) = held act late
  := by
  induction late with
  | nil => apply hnil
  | cons ev late ih => simp only [List.cons_append, held, ih]

namespace Bracketed

theorem nil : Bracketed act bound [] := trivial

theorem acquire {k : κ} (h : Bracketed act bound log) (hev : act ev = .acquire k)
    (hlen : (held act log).length < bound) :
  Bracketed act bound (ev :: log)
  := by
  refine ⟨?_, h⟩
  rw [Allowed, hev]
  apply hlen

theorem release {k : κ} (h : Bracketed act bound log) (hev : act ev = .release k)
    (hk : k ∈ held act log) :
  Bracketed act bound (ev :: log)
  := by
  refine ⟨?_, h⟩
  rw [Allowed, hev]
  apply hk

theorem clear (h : Bracketed act bound log) (hev : act ev = .clear)
    (hnil : held act log = []) :
  Bracketed act bound (ev :: log)
  := by
  refine ⟨?_, h⟩
  rw [Allowed, hev]
  apply hnil

theorem other (h : Bracketed act bound log) (hev : act ev = .other) :
  Bracketed act bound (ev :: log)
  := by
  refine ⟨?_, h⟩
  rw [Allowed, hev]
  trivial

/-- If a history `evs ++ log` is disciplined, so is its earlier part `log`. -/
theorem of_append {evs : List ε} (h : Bracketed act bound (evs ++ log)) :
  Bracketed act bound log
  := by
  induction evs with
  | nil => apply h
  | cons ev evs ih => apply ih h.2

/-- If `early` is disciplined and leaves nothing held, then `late ++ early` is disciplined exactly
when `late` is, taken alone. -/
theorem append_iff
    {early late : List ε} (h : Bracketed act bound early) (hnil : held act early = []) :
  Bracketed act bound (late ++ early) ↔ Bracketed act bound late
  := by
  induction late with
  | nil => apply iff_of_true h nil
  | cons ev late ih =>
      have hallowed : Allowed act bound (late ++ early) ev ↔ Allowed act bound late ev := by
        unfold Allowed
        rw [held_append hnil]
      apply and_congr hallowed ih

/-- In a disciplined `log`, the resource `k` is acquired as often as it is released, and once more
for each time that it is held. -/
theorem count (h : Bracketed act bound log) (k : κ) :
  log.countP (fun ev => act ev = .acquire k)
    = log.countP (fun ev => act ev = .release k) + (held act log).count k
  := by
  induction log with
  | nil => simp
  | cons ev log ih =>
      obtain ⟨hev, h⟩ := h
      have hcount := ih h
      unfold Allowed at hev
      simp only [List.countP_cons]
      cases hact : act ev with
      | acquire k' =>
          rw [held_acquire hact, List.count_cons]
          simp only [Action.acquire.injEq, decide_eq_true_eq, reduceCtorEq, if_false,
            beq_iff_eq]
          omega
      | release k' =>
          rw [held_release hact]
          simp only [hact] at hev
          simp only [Action.release.injEq, decide_eq_true_eq, reduceCtorEq, if_false]
          by_cases hk : k' = k
          · subst hk
            have hpos := List.count_pos_iff.mpr hev
            rw [List.count_erase_self]
            simp only [if_true]
            omega
          · rw [List.count_erase_of_ne (by simpa using fun heq => hk heq.symm)]
            simp only [hk, if_false]
            omega
      | clear =>
          rw [held_clear hact]
          simpa using hcount
      | other =>
          rw [held_other hact]
          simpa using hcount

/-- In a disciplined `log` after which nothing is held, each resource `k` has been released as often
as it was acquired. -/
theorem count_of_held_nil (h : Bracketed act bound log) (hnil : held act log = []) (k : κ) :
  log.countP (fun ev => act ev = .acquire k) = log.countP (fun ev => act ev = .release k)
  := by
  rw [h.count k, hnil]
  simp

/-- In a disciplined history, nothing is held behind the events `early` that precede a `clear`. -/
theorem held_of_clear {early late : List ε} (h : Bracketed act bound (late ++ ev :: early))
    (hev : act ev = .clear) :
  held act early = []
  := by
  have hallowed := h.of_append.1
  rw [Allowed, hev] at hallowed
  apply hallowed

/-- In a disciplined history with the bound one, nothing is held behind the events `early` that
precede the acquisition of a resource `k`. -/
theorem held_of_acquire {early late : List ε} {k : κ}
    (h : Bracketed act 1 (late ++ ev :: early)) (hev : act ev = .acquire k) :
  held act early = []
  := by
  have hallowed := h.of_append.1
  rw [Allowed, hev] at hallowed
  apply List.length_eq_zero_iff.mp
  omega

end Bracketed

end Library
