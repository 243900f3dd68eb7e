import Mathlib.Data.List.Basic
import Mathlib.Tactic.Common

/-!
# Stores behind a comparison

A place is compared with the value that is wanted there, and something is stored in it if it
differs.  The store is normal if the place has the wanted value behind it.  Behind a list of such stores all
places have the values that were wanted, so that the list would store nothing if it came again,
exactly when the stores are `Settled`: those at the same place want the same, and each is normal or
finds what it wants from the beginning.

One place may be special: what is stored there spills onto another place, which it sets to a fixed
value.  Then a store at the other place must come behind the first of those that spill, unless
it wants that value itself.
-/

namespace Library

variable {ι V : Type*}

/-- A store behind a comparison: `wanted` is stored at `place` if something else is there, and the
store is `normal` if the place then holds what is wanted. -/
structure Guarded (ι V : Type*) where
  place : ι
  wanted : V
  normal : Prop

namespace Guarded

/-- A place `source` that spills: a normal store there leaves `value` at the other place `target` as
well. -/
structure Spill (ι V : Type*) where
  source : ι
  target : ι
  value : V
  ne : source ≠ target

/-- The store `x` is carried out on `m` and leads to `m'`: the place gets what is wanted if the
store is normal, the target of the spill `k` may be hit, and every other place is left alone. -/
structure Fires (k : Spill ι V) (x : Guarded ι V) (m m' : ι → V) : Prop where
  ne : m x.place ≠ x.wanted
  self : m' x.place = x.wanted ↔ x.normal
  spill : x.place = k.source → x.normal → m' k.target = k.value
  frame : ∀ r, r ≠ x.place → (x.place = k.source → r ≠ k.target) → m' r = m r

/-- The place of `x` is compared with what is wanted there.  If it is the same nothing is done, and
otherwise the store is carried out. -/
def Step (k : Spill ι V) (x : Guarded ι V) (m m' : ι → V) : Prop :=
  (m x.place = x.wanted ∧ m' = m) ∨ Fires k x m m'

/-- The stores of a list, compared and carried out one after the other, lead from `m` to `m'`. -/
inductive Steps (k : Spill ι V) : List (Guarded ι V) → (ι → V) → (ι → V) → Prop where
  | nil (m : ι → V) : Steps k [] m m
  | cons {x : Guarded ι V} {xs : List (Guarded ι V)} {m m₁ m' : ι → V} (hstep : Step k x m m₁)
      (hsteps : Steps k xs m₁ m') : Steps k (x :: xs) m m'

/-- In `m` every place of a store in `xs` holds the value that is wanted there. -/
def Hold (xs : List (Guarded ι V)) (m : ι → V) : Prop := ∀ x ∈ xs, m x.place = x.wanted

/-- The stores `xs` settle on `m`: those at one place want one value, those that are carried out are
normal, and what the spill `k` leaves behind is what is wanted or is stored over. -/
structure Settled (k : Spill ι V) (xs : List (Guarded ι V)) (m : ι → V) : Prop where
  agree : ∀ x ∈ xs, ∀ y ∈ xs, x.place = y.place → x.wanted = y.wanted
  normal : ∀ x ∈ xs, x.normal ∨ m x.place = x.wanted
  spill : ∀ pre y post, xs = pre ++ y :: post → y.place = k.source →
    (∀ x ∈ pre, x.place ≠ k.source) → m k.source ≠ y.wanted →
    ∀ x ∈ pre, x.place = k.target → x.wanted ≠ k.value → ∃ x' ∈ post, x'.place = k.target

/-- The stores of `xs` are regular: those at one place that want the same are alike, and at the
target of the spill `k` they are normal if they want what is there already or what is spilled. -/
structure Regular (k : Spill ι V) (xs : List (Guarded ι V)) (m : ι → V) : Prop where
  alike : ∀ x ∈ xs, ∀ y ∈ xs, x.place = y.place → x.wanted = y.wanted → (x.normal ↔ y.normal)
  found : ∀ x ∈ xs, x.place = k.target → m k.target = x.wanted → x.normal
  spilled : ∀ x ∈ xs, x.place = k.target → x.wanted = k.value → x.normal

variable {k : Spill ι V} {x y : Guarded ι V} {xs ys : List (Guarded ι V)} {m m₁ m' : ι → V} {r : ι}
  {w : V}

theorem Steps.append_inv (h : Steps k (xs ++ ys) m m') :
  ∃ m₁, Steps k xs m m₁ ∧ Steps k ys m₁ m'
  := by
  induction xs generalizing m with
  | nil => exact ⟨m, Steps.nil m, h⟩
  | cons x xs ih =>
      cases h with
      | cons hstep h =>
          obtain ⟨m₁, hxs, hys⟩ := ih h
          exact ⟨m₁, Steps.cons hstep hxs, hys⟩

theorem Steps.append (h : Steps k xs m m₁) (h' : Steps k ys m₁ m') : Steps k (xs ++ ys) m m' := by
  induction h with
  | nil => apply h'
  | cons hstep _ ih => apply Steps.cons hstep (ih h')

theorem Step.steps (h : Step k x m m') : Steps k [x] m m' := Steps.cons h (Steps.nil m')

/-- If in `m` every place of `xs` holds what is wanted there, the stores of `xs` may leave `m` as it
is. -/
theorem Hold.steps (h : Hold xs m) : Steps k xs m m := by
  induction xs with
  | nil => apply Steps.nil
  | cons x xs ih =>
      apply Steps.cons (Or.inl ⟨h x List.mem_cons_self, rfl⟩)
      apply ih fun y hy => h y (List.mem_cons_of_mem x hy)

/-! ### One place -/

/-- Nothing spills onto the place `r` during the stores `xs`: it is not the target of `k`, or every
store at the source finds there what it wants. -/
def Quiet (k : Spill ι V) (xs : List (Guarded ι V)) (m : ι → V) (r : ι) : Prop :=
  r = k.target → ∀ x ∈ xs, x.place = k.source → m k.source = x.wanted

theorem Quiet.of_ne (h : r ≠ k.target) : Quiet k xs m r := fun heq => absurd heq h

/-- The store `x` at another place leaves a place `r` alone onto which nothing spills. -/
theorem Step.frame (h : Step k x m m') (hquiet : Quiet k (x :: xs) m r) (hr : x.place ≠ r) :
  m' r = m r
  := by
  rcases h with ⟨-, rfl⟩ | hfires
  · rfl
  · apply hfires.frame r hr.symm
    rintro hsource rfl
    apply hfires.ne
    rw [hsource]
    apply hquiet rfl x List.mem_cons_self hsource

/-- If nothing spills onto `r` during the stores `x :: xs`, nothing spills onto it during `xs`,
behind the store `x`. -/
theorem Step.quiet (h : Step k x m m') (hquiet : Quiet k (x :: xs) m r) : Quiet k xs m' r := by
  rintro rfl y hy hsource
  have hy' := hquiet rfl y (List.mem_cons_of_mem x hy) hsource
  by_cases hx : x.place = k.source
  · rcases h with ⟨-, rfl⟩ | hfires
    · apply hy'
    · apply absurd _ hfires.ne
      rw [hx]
      apply hquiet rfl x List.mem_cons_self hx
  · rw [Step.frame h (Quiet.of_ne k.ne : Quiet k (x :: xs) m k.source) hx]
    apply hy'

/-- A place `r` that holds `w` keeps it if every store of `xs` at `r` wants `w` and nothing spills
onto `r`. -/
theorem Steps.keep
    (h : Steps k xs m m') (hquiet : Quiet k xs m r) (hw : ∀ x ∈ xs, x.place = r → x.wanted = w)
    (hm : m r = w) :
  m' r = w
  := by
  induction h with
  | nil => apply hm
  | @cons x xs m m₁ m' hstep _ ih =>
      apply ih (hstep.quiet hquiet) fun y hy => hw y (List.mem_cons_of_mem x hy)
      by_cases hx : x.place = r
      · rcases hstep with ⟨-, rfl⟩ | hfires
        · apply hm
        · apply absurd _ hfires.ne
          rw [hx, hm, hw x List.mem_cons_self hx]
      · rw [hstep.frame hquiet hx, hm]

/-- A place `r` at which no store of `xs` stands, and onto which nothing spills, is left alone. -/
theorem Steps.frame
    (h : Steps k xs m m') (hquiet : Quiet k xs m r) (hr : ∀ x ∈ xs, x.place ≠ r) :
  m' r = m r
  := h.keep hquiet (fun x hx heq => absurd heq (hr x hx)) rfl

/-- A place `r` at which a store of `xs` stands gets the value `w` if all the stores at `r` are
normal and want `w`, and nothing spills onto `r`. -/
theorem Steps.reach
    (h : Steps k xs m m') (hquiet : Quiet k xs m r) (hw : ∀ x ∈ xs, x.place = r → x.wanted = w)
    (hnormal : ∀ x ∈ xs, x.place = r → x.normal) (hx : ∃ x ∈ xs, x.place = r) :
  m' r = w
  := by
  induction h with
  | nil =>
      obtain ⟨x, hx, -⟩ := hx
      contradiction
  | @cons x xs m m₁ m' hstep hsteps ih =>
      have hw' : ∀ y ∈ xs, y.place = r → y.wanted = w :=
        fun y hy => hw y (List.mem_cons_of_mem x hy)
      by_cases hplace : x.place = r
      · apply hsteps.keep (hstep.quiet hquiet) hw'
        have hwanted := hw x List.mem_cons_self hplace
        rcases hstep with ⟨hm, rfl⟩ | hfires
        · rw [← hplace, hm, hwanted]
        · rw [← hplace, ← hwanted]
          apply hfires.self.mpr (hnormal x List.mem_cons_self hplace)
      · apply ih (hstep.quiet hquiet) hw' fun y hy => hnormal y (List.mem_cons_of_mem x hy)
        obtain ⟨y, hy, heq⟩ := hx
        rcases List.mem_cons.mp hy with rfl | hy
        · contradiction
        · exact ⟨y, hy, heq⟩

/-- A place `r`, other than the target of the spill `k`, does not get the value `w` if it did not
hold it and no store at `r` is normal. -/
theorem Steps.miss
    (h : Steps k xs m m') (hr : r ≠ k.target) (hw : ∀ x ∈ xs, x.place = r → x.wanted = w)
    (hnormal : ∀ x ∈ xs, x.place = r → ¬ x.normal) (hm : m r ≠ w) :
  m' r ≠ w
  := by
  induction h with
  | nil => apply hm
  | @cons x xs m m₁ m' hstep _ ih =>
      apply ih (fun y hy => hw y (List.mem_cons_of_mem x hy))
        (fun y hy => hnormal y (List.mem_cons_of_mem x hy))
      by_cases hx : x.place = r
      · rcases hstep with ⟨-, rfl⟩ | hfires
        · apply hm
        · rw [← hx, ← hw x List.mem_cons_self hx]
          intro heq
          apply hnormal x List.mem_cons_self hx (hfires.self.mp heq)
      · rw [hstep.frame (Quiet.of_ne hr : Quiet k (x :: xs) m r) hx]
        apply hm

/-! ### The place that is spilled onto -/

/-- The target of the spill `k` does not get the value `w` either if no store at it is normal, and
what is spilled is something else. -/
theorem Steps.miss_target
    (h : Steps k xs m m') (hw : ∀ x ∈ xs, x.place = k.target → x.wanted = w)
    (hnormal : ∀ x ∈ xs, x.place = k.target → ¬ x.normal)
    (hagree : ∀ x ∈ xs, ∀ y ∈ xs, x.place = k.source → y.place = k.source → x.wanted = y.wanted)
    (hsource : ∀ x ∈ xs, x.place = k.source → x.normal ∨ m k.source = x.wanted)
    (hvalue : w ≠ k.value) (hm : m k.target ≠ w) :
  m' k.target ≠ w
  := by
  induction h with
  | nil => apply hm
  | @cons x xs m m₁ m' hstep _ ih =>
      have hnext : m₁ k.target ≠ w ∧
          ∀ y ∈ xs, y.place = k.source → y.normal ∨ m₁ k.source = y.wanted := by
        rcases hstep with ⟨-, rfl⟩ | hfires
        · exact ⟨hm, fun y hy => hsource y (List.mem_cons_of_mem x hy)⟩
        · by_cases hx : x.place = k.source
          · have hxn : x.normal := by
              apply (hsource x List.mem_cons_self hx).resolve_right
              rw [← hx]
              apply hfires.ne
            rw [hfires.spill hx hxn]
            refine ⟨hvalue.symm, fun y hy hyk => Or.inr ?_⟩
            rw [← hx, hfires.self.mpr hxn]
            apply hagree x List.mem_cons_self y (List.mem_cons_of_mem x hy) hx hyk
          · constructor
            · by_cases hxt : x.place = k.target
              · rw [← hxt, ← hw x List.mem_cons_self hxt]
                intro heq
                apply hnormal x List.mem_cons_self hxt (hfires.self.mp heq)
              · rw [hfires.frame k.target (fun heq => hxt heq.symm) fun heq => absurd heq hx]
                apply hm
            · rw [hfires.frame k.source (fun heq => hx heq.symm) fun heq => absurd heq hx]
              intro y hy
              apply hsource y (List.mem_cons_of_mem x hy)
      apply ih (fun y hy => hw y (List.mem_cons_of_mem x hy))
        (fun y hy => hnormal y (List.mem_cons_of_mem x hy)) _ hnext.2 hnext.1
      intro y hy z hz
      apply hagree y (List.mem_cons_of_mem x hy) z (List.mem_cons_of_mem x hz)

/-- If `y` is the first store of `xs ++ y :: ys` at the source, and it is carried out and normal,
then behind it the target holds what is spilled, and nothing spills onto it any more. -/
theorem Steps.spill
    (h : Steps k (xs ++ y :: ys) m m') (hy : y.place = k.source)
    (hfirst : ∀ x ∈ xs, x.place ≠ k.source) (hm : m k.source ≠ y.wanted) (hnormal : y.normal)
    (hagree : ∀ x ∈ ys, x.place = k.source → x.wanted = y.wanted) :
  ∃ m₁, m₁ k.target = k.value ∧ Quiet k ys m₁ k.target ∧ Steps k ys m₁ m'
  := by
  obtain ⟨m₁, hxs, h⟩ := h.append_inv
  cases h with
  | @cons _ _ _ m₂ _ hstep hys =>
      have hsource : m₁ k.source = m k.source := hxs.frame (Quiet.of_ne k.ne) hfirst
      have hfires : Fires k y m₁ m₂ := by
        apply hstep.resolve_left
        rintro ⟨heq, -⟩
        apply hm
        rw [← hsource, ← hy, heq]
      refine ⟨m₂, hfires.spill hy hnormal, ?_, hys⟩
      intro _ x hx hplace
      rw [hagree x hx hplace, ← hy]
      apply hfires.self.mpr hnormal

/-- If a store of `xs` stands at the place `r`, there is a first one: the stores before it, `pre`,
stand elsewhere. -/
theorem exists_first (h : ∃ x ∈ xs, x.place = r) :
  ∃ pre y post, xs = pre ++ y :: post ∧ y.place = r ∧ ∀ x ∈ pre, x.place ≠ r
  := by
  induction xs with
  | nil =>
      obtain ⟨x, hx, -⟩ := h
      contradiction
  | cons x xs ih =>
      by_cases hx : x.place = r
      · exact ⟨[], x, xs, rfl, hx, by simp⟩
      · obtain ⟨y, hy, hplace⟩ := h
        have htail : ∃ y ∈ xs, y.place = r := by
          rcases List.mem_cons.mp hy with rfl | hy
          · contradiction
          · exact ⟨y, hy, hplace⟩
        obtain ⟨pre, z, post, rfl, hz, hpre⟩ := ih htail
        refine ⟨x :: pre, z, post, rfl, hz, ?_⟩
        intro u hu
        rcases List.mem_cons.mp hu with rfl | hu
        · apply hx
        · apply hpre u hu

/-! ### The list -/

/-- If behind regular stores `xs` every place holds what is wanted there, then the stores settle. -/
theorem settled_of_hold (h : Steps k xs m m') (hregular : Regular k xs m) (hhold : Hold xs m') :
  Settled k xs m
  := by
  have hagree : ∀ x ∈ xs, ∀ y ∈ xs, x.place = y.place → x.wanted = y.wanted := by
    intro x hx y hy heq
    rw [← hhold x hx, ← hhold y hy, heq]
  have halike {x y : Guarded ι V} (hx : x ∈ xs) (hy : y ∈ xs) (heq : y.place = x.place)
      (hnot : ¬ x.normal) : ¬ y.normal :=
    fun hyn => hnot ((hregular.alike x hx y hy heq.symm (hagree x hx y hy heq.symm)).mpr hyn)
  have hother : ∀ x ∈ xs, x.place ≠ k.target → x.normal ∨ m x.place = x.wanted := by
    intro x hx hplace
    by_contra hnot
    obtain ⟨hnormal, hm⟩ := not_or.mp hnot
    apply h.miss hplace (fun y hy heq => hagree y hy x hx heq)
      (fun y hy heq => halike hx hy heq hnormal) hm (hhold x hx)
  have hsource : ∀ x ∈ xs, x.place = k.source → x.normal ∨ m k.source = x.wanted := by
    intro x hx hplace
    rw [← hplace]
    apply hother x hx
    rw [hplace]
    apply k.ne
  constructor
  · apply hagree
  · intro x hx
    by_cases hplace : x.place = k.target
    · left
      by_cases hvalue : x.wanted = k.value
      · apply hregular.spilled x hx hplace hvalue
      · by_contra hnormal
        apply h.miss_target (w := x.wanted) _ _ _ hsource hvalue _ _
        · intro y hy heq
          apply hagree y hy x hx (heq.trans hplace.symm)
        · intro y hy heq
          apply halike hx hy (heq.trans hplace.symm) hnormal
        · intro y hy z hz hyk hzk
          apply hagree y hy z hz (hyk.trans hzk.symm)
        · intro hm
          apply hnormal (hregular.found x hx hplace hm)
        · rw [← hplace]
          apply hhold x hx
    · apply hother x hx hplace
  · rintro pre y post rfl hy hfirst hm x hx hplace hne
    by_contra hnone
    have hymem : y ∈ pre ++ y :: post := by simp
    have hnormal := (hsource y hymem hy).resolve_right hm
    obtain ⟨m₁, hvalue, hquiet, hpost⟩ := h.spill hy hfirst hm hnormal (by
      intro z hz hzk
      apply hagree z (by simp [hz]) y hymem (hzk.trans hy.symm))
    have htarget : m' k.target = m₁ k.target :=
      hpost.frame hquiet fun z hz heq => hnone ⟨z, hz, heq⟩
    apply hne
    rw [← hhold x (by simp [hx]), hplace, htarget, hvalue]

/-- Behind regular stores `xs` that settle, every place holds what is wanted there. -/
theorem Settled.hold (hs : Settled k xs m) (h : Steps k xs m m') (hregular : Regular k xs m) :
  Hold xs m'
  := by
  intro x hx
  have hwanted (y : Guarded ι V) (hy : y ∈ xs) (heq : y.place = x.place) : y.wanted = x.wanted :=
    hs.agree y hy x hx heq
  have halike (hxn : x.normal) (y : Guarded ι V) (hy : y ∈ xs) (heq : y.place = x.place) :
      y.normal :=
    (hregular.alike x hx y hy heq.symm (hwanted y hy heq).symm).mp hxn
  have hquiet (hq : Quiet k xs m x.place) : m' x.place = x.wanted := by
    rcases hs.normal x hx with hxn | hm
    · apply h.reach hq hwanted (halike hxn) ⟨x, hx, rfl⟩
    · apply h.keep hq hwanted hm
  by_cases hplace : x.place = k.target
  · by_cases hnone : ∀ y ∈ xs, y.place = k.source → m k.source = y.wanted
    · apply hquiet fun _ => hnone
    · -- something spills: what is wanted is stored behind that, or is what is spilled
      obtain ⟨y, hy⟩ := not_forall.mp hnone
      obtain ⟨hymem, hy⟩ := Classical.not_imp.mp hy
      obtain ⟨hyplace, hm⟩ := Classical.not_imp.mp hy
      obtain ⟨pre, z, post, rfl, hz, hfirst⟩ := exists_first ⟨y, hymem, hyplace⟩
      have hzmem : z ∈ pre ++ z :: post := by simp
      rw [hs.agree y hymem z hzmem (hyplace.trans hz.symm)] at hm
      have hzn : z.normal := (hs.normal z hzmem).resolve_right (by rw [hz]; exact hm)
      have hxn : x.normal := by
        rcases hs.normal x hx with hxn | hfound
        · apply hxn
        · apply hregular.found x hx hplace
          rw [← hplace, hfound]
      obtain ⟨m₁, hvalue, hq, hpost⟩ := h.spill hz hfirst hm hzn (by
        intro u hu huk
        apply hs.agree u (by simp [hu]) z hzmem (huk.trans hz.symm))
      have hpostmem {u : Guarded ι V} (hu : u ∈ post) : u ∈ pre ++ z :: post := by simp [hu]
      rw [hplace] at hwanted halike ⊢
      by_cases hlast : ∃ x' ∈ post, x'.place = k.target
      · apply hpost.reach hq (fun u hu => hwanted u (hpostmem hu))
          (fun u hu => halike hxn u (hpostmem hu)) hlast
      · have hnotin (u : Guarded ι V) (hu : u ∈ post) : u.place ≠ k.target :=
          fun heq => hlast ⟨u, hu, heq⟩
        rw [hpost.frame hq hnotin, hvalue]
        by_contra hne
        have hxpre : x ∈ pre := by
          rcases List.mem_append.mp hx with hx | hx
          · apply hx
          · rcases List.mem_cons.mp hx with rfl | hx
            · apply absurd (hz.symm.trans hplace) k.ne
            · apply absurd hplace (hnotin x hx)
        apply hlast
        apply hs.spill pre z post rfl hz hfirst hm x hxpre hplace fun heq => hne heq.symm
  · apply hquiet (Quiet.of_ne hplace)

/-- Behind the stores of a regular list `xs`, every place holds what is wanted there exactly when
`xs` settles on the `m` before. -/
theorem hold_iff_settled (h : Steps k xs m m') (hregular : Regular k xs m) :
  Hold xs m' ↔ Settled k xs m
  := ⟨settled_of_hold h hregular, fun hs => hs.hold h hregular⟩

/-- A single store `x` settles on `m` if it does not stand at the source of `k`, and is normal or
finds there what it wants. -/
theorem settled_singleton (hx : x.normal ∨ m x.place = x.wanted) (hsource : x.place ≠ k.source) :
  Settled k [x] m
  := by
  constructor
  · intro y hy z hz _
    rw [List.mem_singleton.mp hy, List.mem_singleton.mp hz]
  · intro y hy
    rw [List.mem_singleton.mp hy]
    apply hx
  · rintro pre y post heq hy
    have hmem : y ∈ [x] := by
      rw [heq]
      simp
    rw [List.mem_singleton.mp hmem] at hy
    contradiction

end Guarded

end Library
