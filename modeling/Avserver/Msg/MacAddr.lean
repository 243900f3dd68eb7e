import Avserver.Msg.BranchTouches

/-!
# The hardware address

The hardware address is compared as it is printed, and stored as `sscanf` reads it.  A text is
`PrintedMac` when it is an address as it is printed; such a text is read as the bytes that it was
printed from, and stored it is printed again as it was (`macText_storeMac`).  Each byte is read as
an `unsigned int`, though, and what does not fit the address is stored behind it: `nettype` is
0 then (`nettype_storeMac`).
-/

namespace Msg

/-- The hardware address with the bytes `bs`, as it is printed: two digits for each, with `-`
between them. -/
def printMac (bs : List Nat) : List Char := ['-'].intercalate (bs.map fun b : Nat => hex2 b)

/-- The text `t` is a hardware address as it is printed, with all its bytes. -/
def PrintedMac (t : List Char) : Prop :=
  ∃ bs : List Nat, bs.length = macLen ∧ (∀ b ∈ bs, b < 256) ∧ printMac bs = t

/-! ### What is read -/

/-- A hexadecimal digit, as it is printed for `n`, has the value `n`, and is neither white space nor
a sign or an `x`. -/
theorem hexValue_digitChar {n : Nat} (hn : n < 16) :
  hexValue (Nat.digitChar n) = some n ∧ isSpace (Nat.digitChar n) = false
    ∧ Nat.digitChar n ∉ ['+', '-', 'x', 'X']
  := by
  revert n
  decide

/-- A byte `b` is read as it is printed, whatever text `t` follows it. -/
theorem scanHex_hex2 {b : Nat} (hb : b < 256) (t : List Char) :
  scanHex (hex2 b ++ t) = some (b, t)
  := by
  obtain ⟨hhigh, hspace, hsign⟩ := hexValue_digitChar (by omega : b / 16 < 16)
  obtain ⟨hlow, -, hx⟩ := hexValue_digitChar (by omega : b % 16 < 16)
  simp only [List.mem_cons, List.not_mem_nil, or_false, not_or] at hsign hx
  have hvalue : 16 * (b / 16) + b % 16 = b := Nat.div_add_mod b 16
  simp only [scanHex, hex2, hexDigit, Int.toNat_natCast, List.cons_append, List.nil_append,
    List.dropWhile_cons_of_neg (Bool.not_eq_true _ ▸ hspace), hsign, hx, hhigh, hlow, if_false,
    or_self, and_false, Option.map_some, hvalue]

/-- The bytes `bs` of an address are read off it as it is printed. -/
theorem scanHexes_printMac {bs : List Nat} (hbs : ∀ b ∈ bs, b < 256) (hne : bs ≠ []) :
  scanHexes bs.length (printMac bs) = bs
  := by
  induction bs with
  | nil => contradiction
  | cons b bs ih =>
      have hb := scanHex_hex2 (hbs b List.mem_cons_self)
      cases bs with
      | nil =>
          have hprint : printMac [b] = hex2 b ++ [] := by simp [printMac, List.intercalate]
          rw [List.length_singleton, hprint, scanHexes, hb]
      | cons b' bs =>
          have hprint : printMac (b :: b' :: bs) = hex2 b ++ '-' :: printMac (b' :: bs) := by
            simp [printMac, List.intercalate]
          have htail := ih (fun c hc => hbs c (List.mem_cons_of_mem b hc)) (List.cons_ne_nil b' bs)
          rw [List.length_cons, hprint, scanHexes, hb]
          simp only [htail]

/-! ### What is stored -/

variable {c : Contents} {i j b v : Nat} {vs : List Nat}

/-- The byte `b` is stored at the index `i` of the hardware address if it is within it; the others
are left alone. -/
theorem storeNetByte_macaddr (hj : j < macLen) :
  (storeNetByte c i b).int (.macaddr j) = if j = i then toChar b else c.int (.macaddr j)
  := by
  unfold storeNetByte
  split
  · rw [Contents.int_setInt]
    simp only [IntField.macaddr.injEq]
    rfl
  · rw [if_neg (by omega : ¬ j = i)]
    split
    · rw [Contents.int_setInt, if_neg (by simp)]
    · split
      · rw [Contents.int_setInt, if_neg (by simp)]
      · rfl

/-- The bytes in front of the index `i` at which a value is stored are left alone. -/
theorem storeMac_macaddr_of_lt (hj : j < macLen) (hi : j < i) :
  (storeMac c i vs).int (.macaddr j) = c.int (.macaddr j)
  := by
  induction vs generalizing c i with
  | nil => rfl
  | cons v vs ih =>
      rw [storeMac, ih (by omega)]
      simp only [List.range_succ, List.range_zero, List.nil_append, List.foldl_append,
        List.foldl_cons, List.foldl_nil]
      iterate 4 rw [storeNetByte_macaddr hj, if_neg (by omega)]

/-- Every value stores its own byte, its lowest one, at its index. -/
theorem storeMac_macaddr (hi : i + j < macLen) (hj : j < vs.length) :
  (storeMac c i vs).int (.macaddr (i + j)) = toChar (vs[j] % 256 : Nat)
  := by
  induction vs generalizing c i j with
  | nil => contradiction
  | cons v vs ih =>
      rw [storeMac]
      cases j with
      | zero =>
          rw [storeMac_macaddr_of_lt hi (by omega)]
          simp only [List.range_succ, List.range_zero, List.nil_append, List.foldl_append,
            List.foldl_cons, List.foldl_nil]
          iterate 3 rw [storeNetByte_macaddr hi, if_neg (by omega)]
          rw [storeNetByte_macaddr hi, if_pos (by omega)]
          simp
      | succ j =>
          have hplace : i + (j + 1) = i + 1 + j := by omega
          rw [List.getElem_cons_succ, hplace]
          apply ih (by omega)

/-- What the byte `b` makes of `nettype`, whose two bytes lie right behind the hardware address. -/
theorem storeNetByte_nettype :
  (storeNetByte c i b).int (.net .nettype)
    = if i = macLen then toShort (c.int (.net .nettype) - c.int (.net .nettype) % 256 + b)
      else if i = macLen + 1 then toShort (c.int (.net .nettype) % 256 + 256 * b)
      else c.int (.net .nettype)
  := by
  unfold storeNetByte
  split
  · rw [Contents.int_setInt, if_neg (by simp), if_neg (by omega), if_neg (by omega)]
  · split
    · rw [Contents.int_setInt, if_pos rfl]
      rfl
    · split
      · rw [Contents.int_setInt, if_pos rfl]
        rfl
      · rfl

/-- If the values `vs` end with the last byte of the address, the last one leaves 0 in `nettype`. -/
theorem nettype_storeMac (hlen : i + vs.length = macLen) (hvs : ∀ v ∈ vs, v < 256) (hne : vs ≠ []) :
  (storeMac c i vs).int (.net .nettype) = 0
  := by
  induction vs generalizing c i with
  | nil => contradiction
  | cons v vs ih =>
      rw [storeMac]
      cases vs with
      | nil =>
          have hv := hvs v List.mem_cons_self
          obtain rfl : i = 5 := by
            rw [List.length_singleton, macLen] at hlen
            omega
          simp only [storeMac, List.range_succ, List.range_zero, List.nil_append,
            List.foldl_append, List.foldl_cons, List.foldl_nil]
          have hhigh : v / 256 ^ 1 % 256 = 0 := by omega
          have hhigher : v / 256 ^ 2 % 256 = 0 := by omega
          rw [storeNetByte_nettype, if_neg (by decide), if_neg (by decide), storeNetByte_nettype,
            if_neg (by decide), if_pos (by decide), storeNetByte_nettype, if_pos (by decide), hhigh,
            hhigher]
          unfold toShort
          omega
      | cons w vs =>
          apply ih
          · rw [← hlen, List.length_cons, List.length_cons, List.length_cons]
            omega
          · intro u hu
            apply hvs u (List.mem_cons_of_mem v hu)
          · apply List.cons_ne_nil

/-- `storeMac` changes no field `f` but the bytes of the hardware address and `nettype`. -/
theorem storeMac_other
    {f : Field} (hmac : ∀ j, f ≠ .int (.macaddr j)) (hnet : f ≠ .int (.net .nettype)) :
  storeMac c i vs f = c f
  := by
  have hbyte (c : Contents) (i b : Nat) : storeNetByte c i b f = c f := by
    unfold storeNetByte
    split
    · apply Contents.setInt_of_ne (hmac i)
    · split
      · apply Contents.setInt_of_ne hnet
      · split
        · apply Contents.setInt_of_ne hnet
        · rfl
  induction vs generalizing c i with
  | nil => rfl
  | cons v vs ih =>
      rw [storeMac, ih]
      apply List.foldlRecOn (motive := fun c' : Contents => c' f = c f)
      · rfl
      · intro c' hc' k _
        rw [hbyte, hc']

/-! ### What is printed -/

/-- The bytes of the hardware address in `c` are bytes. -/
def Contents.MacTyped (c : Contents) : Prop :=
  ∀ i, toChar (c.int (.macaddr i)) = c.int (.macaddr i)

theorem macText_eq (c : Contents) :
  macText c = printMac ((List.range macLen).map fun i => (c.int (.macaddr i)).toNat)
  := by
  rw [macText, printMac, List.map_map]
  rfl

/-- What is printed of contents whose address has bytes is an address, `PrintedMac`. -/
theorem printedMac_macText (hc : c.MacTyped) : PrintedMac (macText c) := by
  refine ⟨_, ?_, ?_, (macText_eq c).symm⟩
  · rw [List.length_map, List.length_range]
  · intro b hb
    obtain ⟨i, -, rfl⟩ := List.mem_map.mp hb
    have htyped := hc i
    unfold toChar at htyped
    omega

/-- An address `t` that is stored as it is printed is printed again, and leaves 0 in `nettype`. -/
theorem macText_storeMac {t : List Char} (ht : PrintedMac t) :
  macText (storeMac c 0 (scanHexes macLen t)) = t
    ∧ (storeMac c 0 (scanHexes macLen t)).int (.net .nettype) = 0
  := by
  obtain ⟨bs, hlen, hbs, rfl⟩ := ht
  have hne : bs ≠ [] := by
    rintro rfl
    contradiction
  have hscan : scanHexes macLen (printMac bs) = bs := by
    rw [← hlen]
    apply scanHexes_printMac hbs hne
  rw [hscan]
  constructor
  · rw [macText, printMac]
    congr 1
    apply List.ext_getElem
    · simp [hlen]
    · intro i hi hi'
      rw [List.length_map] at hi'
      have hstored := @storeMac_macaddr c 0 i bs (by omega) hi'
      have hbyte := hbs bs[i] (List.getElem_mem hi')
      rw [Nat.zero_add] at hstored
      simp only [List.getElem_map, List.getElem_range, hstored, toChar]
      congr 1
      omega
  · apply nettype_storeMac (by omega) hbs hne

end Msg
