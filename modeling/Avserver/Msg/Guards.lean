import Avserver.Library.Guarded
import Avserver.Msg.MacAddr

/-!
# Comparing before storing

Most keys compare the value that they are given with the one that is stored, and store it only if
the two differ.  A `Guard` is such a comparison with its store: of a number, a string, or the
hardware address.  On what is seen of the configuration, the guards are stores behind a comparison
as the library has them, and the hardware address spills onto `nettype` (`Guard.step`).  A value is
found again behind its store if it is `InForm`: a number that its member can hold, 0 or 1 where
every other number becomes 1, and an address as it is printed.
-/

namespace Msg

open Library

/-! ### What is seen of the configuration -/

/-- A place of the configuration that is compared: a number, a string, or the hardware address as it
is printed. -/
inductive Place where
  | int (f : IntField)
  | str (f : StrField)
  | mac
deriving DecidableEq

/-- What is seen in a place: a number or a text.  The bytes of the hardware address are hidden, as
they are seen together. -/
inductive Seen where
  | num (v : Int)
  | text (t : Option (List Char))
  | hidden
deriving DecidableEq

/-- The number is a byte of the hardware address, which is compared as a whole. -/
def IntField.OfMac : IntField → Bool
  | .macaddr _ => true
  | _ => false

/-- What is seen of the contents `m` in a place. -/
def Contents.see (m : Contents) : Place → Seen
  | .int f => if f.OfMac then .hidden else .num (m.int f)
  | .str f => .text (text (m.str f)).toOption
  | .mac => .text (some (macText m))

/-! ### Guards -/

/-- A comparison with the configuration, and what is stored behind it if it fails. -/
inductive Guard where
  | int (f : IntField) (wanted stored : Int)
  | str (f : StrField) (value : List Char)
  | mac (value : List Char)
deriving DecidableEq

/-- The value that the guard compares with is there in `m`, so that nothing is stored. -/
def Guard.Holds (m : Contents) : Guard → Prop
  | .int f wanted _ => m.int f = wanted
  | .str f value => strcmpEq (m.str f) value = .ok true
  | .mac value => macText m = value

/-- The contents `m'` are `m` with what the guard stores. -/
def Guard.Stores (m m' : Contents) : Guard → Prop
  | .int f _ stored => m' = m.setInt f stored
  | .str f value => ∃ buf, strcpy (m.str f) value = .ok buf ∧ m' = m.setStr f buf
  | .mac value => m' = storeMac m 0 (scanHexes macLen value)

/-- The value `v` is stored in the member `f` as it is. -/
def IntField.InForm (f : IntField) (v : Int) : Prop :=
  if f = .recCfg .enable then v = 0 ∨ v = 1 else f.cast v = v

instance (f : IntField) (v : Int) : Decidable (f.InForm v) :=
  inferInstanceAs (Decidable (if f = .recCfg .enable then v = 0 ∨ v = 1 else f.cast v = v))

/-- The guard is one that the branches have: what is stored is what was wanted if that is in form,
and a string ends nowhere before its end. -/
def Guard.Sound : Guard → Prop
  | .int f wanted stored => f.OfMac = false ∧ (f.cast stored = wanted ↔ f.InForm wanted)
  | .str _ value => nul ∉ value
  | .mac _ => True

/-- The guard as a store behind a comparison, in the sense of the library `Guarded`. -/
def Guard.guarded : Guard → Guarded Place Seen
  | .int f wanted _ => ⟨.int f, .num wanted, f.InForm wanted⟩
  | .str f value => ⟨.str f, .text (some value), True⟩
  | .mac value => ⟨.mac, .text (some value), PrintedMac value⟩

/-- A hardware address is stored beyond its end: it spills onto the member `nettype`, where it
leaves 0. -/
def netSpill : Guarded.Spill Place Seen where
  source := .mac
  target := .int (.net .nettype)
  value := .num 0
  ne := by simp

variable {g : Guard} {m m' : Contents}

/-- The numbers in `m` are values of the types of their members. -/
def Contents.Typed (m : Contents) : Prop := ∀ f : IntField, f.cast (m.int f) = m.int f

theorem Guard.holds_iff (hg : g.Sound) :
  g.Holds m ↔ m.see g.guarded.place = g.guarded.wanted
  := by
  cases g with
  | int f wanted stored =>
      simp only [Guard.Holds, Guard.guarded, Contents.see, hg.1, Bool.false_eq_true, if_false,
        Seen.num.injEq]
  | str f value =>
      simp only [Guard.Holds, Guard.guarded, Contents.see, Seen.text.injEq]
      constructor
      · intro h
        rw [text_of_strcmpEq h]
        rfl
      · intro h
        have htext : text (m.str f) = .ok value := by
          cases hm : text (m.str f) with
          | error e =>
              rw [hm] at h
              contradiction
          | ok t =>
              rw [hm] at h
              rw [Option.some.inj h]
        rw [strcmpEq_of_mem hg (mem_of_text htext), htext]
        simp
  | mac value => simp only [Guard.Holds, Guard.guarded, Contents.see, Seen.text.injEq,
      Option.some.injEq]

/-- What a member `f` holds, assigned to it again, is held as it is. -/
theorem IntField.cast_cast (f : IntField) (v : Int) : f.cast (f.cast v) = f.cast v := by
  have hshort : toShort (toShort v) = toShort v := by
    unfold toShort
    omega
  have hchar : toChar (toChar v) = toChar v := Int.emod_emod_of_dvd v (Int.dvd_refl 256)
  cases f
  case net g | time g | sys g =>
    cases g
    all_goals first | rfl | exact hshort | exact hchar
  all_goals first | rfl | exact hshort | exact hchar

theorem Contents.Typed.setInt (hm : m.Typed) (f : IntField) (v : Int) : (m.setInt f v).Typed := by
  intro g
  rw [Contents.int_setInt]
  split
  · next heq =>
      rw [heq]
      apply f.cast_cast
  · apply hm

theorem Contents.Typed.setStr (hm : m.Typed) (f : StrField) (buf : List Char) :
  (m.setStr f buf).Typed
  := by
  intro g
  have hkept : (m.setStr f buf).int g = m.int g := Contents.setStr_of_ne (by simp)
  rw [hkept]
  apply hm

theorem Contents.Typed.storeMac (hm : m.Typed) (i : Nat) (vs : List Nat) :
  (storeMac m i vs).Typed
  := by
  have hbyte {c : Contents} (hc : c.Typed) (i b : Nat) : (storeNetByte c i b).Typed := by
    unfold storeNetByte
    split
    · apply hc.setInt
    · split
      · apply hc.setInt
      · split
        · apply hc.setInt
        · apply hc
  induction vs generalizing m i with
  | nil => apply hm
  | cons v vs ih =>
      rw [Msg.storeMac]
      apply ih
      apply List.foldlRecOn (motive := Contents.Typed)
      · apply hm
      · intro c hc k _
        apply hbyte hc

/-- What a guard stores keeps the numbers within their types. -/
theorem Guard.Stores.typed (h : g.Stores m m') (hm : m.Typed) : m'.Typed := by
  cases g with
  | int f wanted stored =>
      obtain rfl := h
      apply hm.setInt
  | str f value =>
      obtain ⟨buf, -, rfl⟩ := h
      apply hm.setStr
  | mac value =>
      obtain rfl := h
      apply hm.storeMac

/-! ### What a store does to what is seen -/

theorem Contents.see_int {f : IntField} (hf : f.OfMac = false) :
  m.see (.int f) = .num (m.int f)
  := by rw [Contents.see, hf, if_neg Bool.false_ne_true]

/-- If the bytes of the hardware address are the same in `m` and `m'`, it is printed the same. -/
theorem macText_congr (h : ∀ i, m'.int (.macaddr i) = m.int (.macaddr i)) :
  macText m' = macText m
  := by simp only [macText, h]

/-- A place `r` is seen in `m'` as in `m` if its number, its string or the hardware address is the
same. -/
theorem Contents.see_congr
    {r : Place} (hint : ∀ f, r = .int f → f.OfMac = false → m'.int f = m.int f)
    (hstr : ∀ f, r = .str f → m'.str f = m.str f)
    (hmac : r = .mac → ∀ i, m'.int (.macaddr i) = m.int (.macaddr i)) :
  m'.see r = m.see r
  := by
  cases r with
  | int f =>
      simp only [Contents.see]
      cases hf : f.OfMac with
      | true => rfl
      | false => rw [hint f rfl hf]
  | str f => simp only [Contents.see, hstr f rfl]
  | mac => simp only [Contents.see, macText_congr (hmac rfl)]

/-- A number `f` that is set makes no difference to what is seen in another place `r`. -/
theorem Contents.see_setInt_of_ne
    {f : IntField} {v : Int} {r : Place} (hf : f.OfMac = false) (hr : r ≠ .int f) :
  (m.setInt f v).see r = m.see r
  := by
  apply Contents.see_congr
  · rintro g rfl -
    rw [Contents.int_setInt, if_neg]
    rintro rfl
    apply hr rfl
  · rintro g rfl
    apply Contents.setInt_of_ne (by simp)
  · rintro - i
    rw [Contents.int_setInt, if_neg]
    rintro rfl
    contradiction

/-- A sound guard that does not hold, and what it stores, is a store of the library that fires. -/
theorem Guard.Stores.fires (hg : g.Sound) (hm : m.Typed) (hnot : ¬ g.Holds m) (h : g.Stores m m') :
  Guarded.Fires netSpill g.guarded m.see m'.see
  := by
  have hne : m.see g.guarded.place ≠ g.guarded.wanted := fun heq => hnot ((g.holds_iff hg).mpr heq)
  cases g with
  | int f wanted stored =>
      obtain rfl := h
      refine ⟨hne, ?_, nofun, ?_⟩
      · simp only [Guard.guarded, Contents.see_int hg.1, Contents.int_setInt, if_true,
          Seen.num.injEq, hg.2]
      · intro r hr _
        apply Contents.see_setInt_of_ne hg.1 hr
  | str f value =>
      obtain ⟨buf, hbuf, rfl⟩ := h
      refine ⟨hne, ?_, nofun, ?_⟩
      · simp only [Guard.guarded, Contents.see, Contents.str_setStr, text_strcpy hg hbuf,
          iff_true]
        rfl
      · intro r hr _
        apply Contents.see_congr
        · rintro g rfl -
          apply Contents.setStr_of_ne (by simp)
        · rintro g rfl
          apply Contents.setStr_of_ne
          rintro heq
          apply hr
          rw [Field.str.inj heq]
          rfl
        · rintro - i
          apply Contents.setStr_of_ne (by simp)
  | mac value =>
      obtain rfl := h
      have htyped := hm.storeMac 0 (scanHexes macLen value)
      refine ⟨hne, ?_, ?_, ?_⟩
      · simp only [Guard.guarded, Contents.see, Seen.text.injEq, Option.some.injEq]
        constructor
        · intro heq
          rw [← heq]
          apply printedMac_macText fun i => htyped (.macaddr i)
        · intro hprinted
          apply (macText_storeMac hprinted).1
      · intro _ hprinted
        rw [netSpill, Contents.see_int (by rfl), (macText_storeMac hprinted).2]
      · intro r hr hnet
        apply Contents.see_congr
        · rintro g rfl hg
          apply storeMac_other
          · rintro j heq
            rw [Field.int.inj heq] at hg
            contradiction
          · rintro heq
            apply hnet rfl
            rw [Field.int.inj heq]
            rfl
        · rintro g rfl
          apply storeMac_other (by simp) (by simp)
        · rintro rfl
          contradiction

/-- A sound guard that holds and does nothing, or does not hold and stores, is a step of the
library. -/
theorem Guard.step
    (hg : g.Sound) (hm : m.Typed) (h : g.Holds m ∧ m' = m ∨ ¬ g.Holds m ∧ g.Stores m m') :
  Guarded.Step netSpill g.guarded m.see m'.see
  := by
  rcases h with ⟨hholds, rfl⟩ | ⟨hnot, hstores⟩
  · exact Or.inl ⟨(g.holds_iff hg).mp hholds, rfl⟩
  · exact Or.inr (hstores.fires hg hm hnot)

/-- Guards are regular as stores behind a comparison, on contents whose numbers are `Typed`. -/
theorem regular_guarded {gs : List Guard} (hm : m.Typed) :
  Guarded.Regular netSpill (gs.map Guard.guarded) m.see
  := by
  constructor
  · intro x hx y hy hplace hwanted
    obtain ⟨g, -, rfl⟩ := List.mem_map.mp hx
    obtain ⟨g', -, rfl⟩ := List.mem_map.mp hy
    cases g
    all_goals cases g'
    all_goals simp_all [Guard.guarded]
  · intro x hx hplace hfound
    obtain ⟨g, -, rfl⟩ := List.mem_map.mp hx
    cases g with
    | int f wanted stored =>
        obtain rfl : f = .net .nettype := Place.int.inj hplace
        have hwanted : m.int (.net .nettype) = wanted := by
          rw [netSpill, Contents.see_int (by rfl)] at hfound
          exact Seen.num.inj hfound
        change IntField.InForm (.net .nettype) wanted
        rw [IntField.InForm, if_neg (by simp), ← hwanted]
        apply hm
    | str f value => contradiction
    | mac value => contradiction
  · intro x hx hplace hzero
    obtain ⟨g, -, rfl⟩ := List.mem_map.mp hx
    cases g with
    | int f wanted stored =>
        obtain rfl : f = .net .nettype := Place.int.inj hplace
        obtain rfl : wanted = 0 := Seen.num.inj hzero
        change IntField.InForm (.net .nettype) 0
        rw [IntField.InForm, if_neg (by simp)]
        rfl
    | str f value => contradiction
    | mac value => contradiction

end Msg
