import Avserver.Library.Pairs
import Avserver.Msg.Process
import Mathlib.Data.List.TakeWhile

/-!
# Numbers in messages

The messages between the processes of the camera carry numbers, which are printed with `%d` and
read with `atoi`.  The numbers of an `int` come back as they were (`atoi_decimal`), are texts
without separators (`decimal_plain`) and have at most eleven characters (`length_decimal_le`).

A response of `processMsg` that begins with the type is the message of its answers
(`response_eq_render`).
-/

namespace Msg

open Library.Pairs

/-- The number `v` is one that an `int` of 32 bits can hold. -/
def IsInt (v : Int) : Prop := -2147483648 ≤ v ∧ v ≤ 2147483647

instance (v : Int) : Decidable (IsInt v) :=
  inferInstanceAs (Decidable (-2147483648 ≤ v ∧ v ≤ 2147483647))

/-! ### Digits -/

theorem digitsValue_toDigits (n : Nat) :
  digitsValue (Nat.toDigits 10 n) = n
  := Nat.ofDigitChars_ten_toDigits

theorem isDigit_of_mem_toDigits {n : Nat} {c : Char} (hc : c ∈ Nat.toDigits 10 n) :
  c.isDigit = true
  := Nat.isDigit_of_mem_toDigits (by decide) (by decide) hc

theorem takeWhile_toDigits (n : Nat) :
  (Nat.toDigits 10 n).takeWhile Char.isDigit = Nat.toDigits 10 n
  := List.takeWhile_eq_self_iff.mpr fun _ hc => isDigit_of_mem_toDigits hc

/-- A number `v` is printed as its digits, behind a sign if it is negative. -/
theorem decimal_eq (v : Int) :
  decimal v = if 0 ≤ v then Nat.toDigits 10 v.toNat else '-' :: Nat.toDigits 10 (-v).toNat
  := by
  rw [decimal, Int.toString_eq_repr, Int.repr_eq_if]
  split
  · apply Nat.toList_repr
  · rw [String.toList_append, Nat.toList_repr]
    rfl

/-- A digit `c` is neither white space nor a sign, nor a separator of a message. -/
theorem isDigit_ne {c : Char} (hc : c.isDigit = true) :
  isSpace c = false ∧ c ≠ '-' ∧ c ≠ '+' ∧ c ∉ separators
  := by
  have hrange : 48 ≤ c.val.toNat ∧ c.val.toNat ≤ 57 := by
    simpa [Char.isDigit, UInt32.le_iff_toNat_le] using hc
  have hne (d : Char) (hd : ¬ (48 ≤ d.val.toNat ∧ d.val.toNat ≤ 57)) : c ≠ d := by
    rintro rfl
    apply hd hrange
  refine ⟨?_, hne '-' (by decide), hne '+' (by decide), ?_⟩
  · simp [isSpace, Char.isWhitespace, hne ' ' (by decide), hne '\t' (by decide),
      hne '\r' (by decide), hne '\n' (by decide), hne '\x0b' (by decide), hne '\x0c' (by decide)]
  · simp [separators, hne '$' (by decide), hne '=' (by decide), hne '&' (by decide),
      hne '#' (by decide), hne '\x00' (by decide)]

/-- `atoi` of the digits `d` is the value of the digits, up to the largest `int`. -/
theorem atoi_digits {d : List Char} (hd : ∀ c ∈ d, c.isDigit = true) :
  atoi d = min 2147483647 (digitsValue d : Int)
  := by
  have htake : d.takeWhile Char.isDigit = d := List.takeWhile_eq_self_iff.mpr hd
  cases d with
  | nil => rfl
  | cons c d =>
      obtain ⟨hspace, hminus, hplus, -⟩ := isDigit_ne (hd c List.mem_cons_self)
      simp only [atoi, List.dropWhile_cons_of_neg (Bool.not_eq_true _ ▸ hspace)]
      split
      · next heq => apply absurd (List.cons.inj heq).1 hminus
      · next heq => apply absurd (List.cons.inj heq).1 hplus
      · rw [htake]

/-- `atoi` of the decimal digits of `n` is `n`, up to the largest `int`. -/
theorem atoi_toDigits (n : Nat) :
  atoi (Nat.toDigits 10 n) = min 2147483647 (n : Int)
  := by rw [atoi_digits fun _ hc => isDigit_of_mem_toDigits hc, digitsValue_toDigits]

/-- `atoi` inverts `%d`: it reads the number `v` of an `int` back from its digits. -/
theorem atoi_decimal {v : Int} (hv : IsInt v) :
  atoi (decimal v) = v
  := by
  unfold IsInt at hv
  rw [decimal_eq]
  split
  · rw [atoi_toDigits]
    omega
  · have hspace : isSpace '-' = false := rfl
    simp only [atoi, List.dropWhile_cons_of_neg (Bool.not_eq_true _ ▸ hspace), takeWhile_toDigits,
      digitsValue_toDigits]
    omega

/-- What `atoi` reads from a text `t` is a number of an `int`. -/
theorem isInt_atoi (t : List Char) : IsInt (atoi t) := by
  simp only [IsInt, atoi]
  split
  · omega
  · omega
  · omega

/-- A number `v`, as it is printed, contains no separators of a message. -/
theorem decimal_plain (v : Int) : Plain (decimal v) := by
  have hdigits (n : Nat) : Plain (Nat.toDigits 10 n) :=
    fun c hc => (isDigit_ne (isDigit_of_mem_toDigits hc)).2.2.2
  rw [decimal_eq]
  split
  · apply hdigits
  · intro c hc
    rcases List.mem_cons.mp hc with rfl | hc
    · decide
    · apply hdigits _ c hc

/-- A number `v` of an `int`, as it is printed, has ten digits and a sign at most. -/
theorem length_decimal_le {v : Int} (hv : IsInt v) :
  (decimal v).length ≤ 11
  := by
  unfold IsInt at hv
  have hdigits {n : Nat} (hn : n < 10 ^ 10) : (Nat.toDigits 10 n).length ≤ 10 :=
    (Nat.length_toDigits_le_iff (by decide) (by decide)).mpr hn
  rw [decimal_eq]
  split
  · have hlen := hdigits (n := v.toNat) (by omega)
    omega
  · have hlen := hdigits (n := (-v).toNat) (by omega)
    rw [List.length_cons]
    omega

/-! ### Keys -/

theorem Key.ofCode_code (key : Key) : Key.ofCode key.code = some key := by
  have hle : key.ctorIdx ≤ 218 := by
    cases key
    all_goals decide
  rw [Key.ofCode, Key.code, if_pos (by omega), Int.toNat_natCast, Key.ofNat_ctorIdx]

theorem Key.isInt_code (key : Key) : IsInt key.code := by
  have hle : key.ctorIdx ≤ 218 := by
    cases key
    all_goals decide
  unfold IsInt Key.code
  omega

/-- A pair whose key is printed as the code of `key` is handled by the branch of the key. -/
theorem processPair_decimal (env : Env) (key : Key) (value : List Char) (s : Session) :
  processPair env s (decimal key.code, value) = key.branch.run env key value s
  := by
  simp only [processPair, atoi_decimal key.isInt_code, key.ofCode_code]

/-! ### Responses -/

/-- A number `v` of an `int` fits the buffer that an answer is printed to. -/
theorem answer_decimal (s : Session) (key : Key) {v : Int} (hv : IsInt v) :
  s.answer key (decimal v) = .ok { s with pRet := s.pRet ++ [⟨key, decimal v⟩] }
  := by
  have hkey := length_decimal_le key.isInt_code
  have hvalue := length_decimal_le hv
  apply if_pos
  simp only [Answer.render, List.cons_append, List.length_cons, List.length_append, cmdTmpSize]
  omega

/-- An answer `a`, as the pair that it is in the response: the code of its key, and its text. -/
def Answer.pair (a : Answer) : Pair := (decimal a.key.code, a.text)

theorem Answer.render_eq (a : Answer) :
  a.render = '&' :: piece a.pair
  := rfl

/-- A response that begins with the type, and has no other answer of it, is the message of its
answers. -/
theorem response_eq_render {t : List Char} {as : List Answer} (has : ∀ a ∈ as, a.key ≠ .type) :
  response (⟨.type, t⟩ :: as) = render ((⟨.type, t⟩ :: as : List Answer).map Answer.pair)
  := by
  have hrest : as.flatMap (fun a => if a.key = .type then '$' :: a.render.tail else a.render)
      = (as.map Answer.pair).flatMap fun p => '&' :: piece p := by
    rw [List.flatMap_map]
    apply List.flatMap_congr
    intro a ha
    rw [if_neg (has a ha), a.render_eq]
  rw [response, List.flatMap_cons, hrest]
  rfl

end Msg
