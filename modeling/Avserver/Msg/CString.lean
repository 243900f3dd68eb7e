import Mathlib.Algebra.Ring.Int.Defs
import Mathlib.Algebra.Group.Nat.Defs
import Avserver.Library.Outcome

/-!
# Strings in buffers

The strings of the configuration are kept in character arrays.  An array is the list of its
characters, whose length is the size of the array; the string in it ends before the first
`'\0'`.  The functions of the C library that the requests are handled with are given here for
such arrays, with the ways in which they leave the array as faults.
-/

namespace Msg

/-- The arrays whose elements a request selects, by an index that it gives. -/
inductive Table where
  | ubs | areaParam | aera | searchParam | arrstOsd | nvrSendStatus | enc | privBs | users | presets
deriving DecidableEq

/-- What a request may run into instead of being handled: behaviour that C leaves undefined, or an
endless loop. -/
inductive Fault where
  /-- an array is accessed outside its bounds -/
  | index (table : Table)
  /-- more is written to a buffer than it holds -/
  | overflow
  /-- a string is read past the end of its buffer -/
  | unterminated
  /-- the request is never answered -/
  | hang
deriving DecidableEq

/-- The character `'\0'` that ends a string. -/
def nul : Char := '\x00'

/-- The string in the buffer `buf`, as `%s` prints it; without an end there is none. -/
def text (buf : List Char) : Except Fault (List Char) :=
  if nul ∈ buf then .ok (buf.takeWhile (· ≠ nul)) else .error .unterminated

/-- `strcpy` -/
def strcpy (buf s : List Char) : Except Fault (List Char) :=
  if s.length < buf.length then .ok (s ++ nul :: buf.drop (s.length + 1)) else .error .overflow

/-- `strcat` -/
def strcat (buf s : List Char) : Except Fault (List Char) := do
  let t ← text buf
  strcpy buf (t ++ s)

/-- `strncpy` of the string `s`, with the size of the buffer `buf`: what is left of the buffer is
filled with `'\0'`. -/
def strncpy (buf s : List Char) : List Char :=
  s.take buf.length ++ List.replicate (buf.length - s.length) nul

/-- Whether `strcmp(buf, s) == 0`; no more of the buffer is read than up to the first difference. -/
def strcmpEq : List Char → List Char → Except Fault Bool
  | [], _ => .error .unterminated
  | c :: _, [] => .ok (c = nul)
  | c :: buf, d :: s => if c = d ∧ c ≠ nul then strcmpEq buf s else .ok false

/-- `buf[0] = '\0'` -/
def clear (buf : List Char) : List Char := buf.set 0 nul

/-- The number that the decimal digits `s` stand for. -/
def digitsValue (s : List Char) : Nat :=
  s.foldl (fun n c => 10 * n + (c.toNat - '0'.toNat)) 0

/-- `isspace`: the characters that `Char.isWhitespace` has, the vertical tabulator and the form
feed. -/
def isSpace (c : Char) : Bool := c.isWhitespace || c = '\x0b' || c = '\x0c'

/-- `atoi` of the string `s`, behind white space and a sign; a value that is no `int` is taken to
the nearest one. -/
def atoi (s : List Char) : Int :=
  let value (s : List Char) : Int := digitsValue (s.takeWhile Char.isDigit)
  match s.dropWhile isSpace with
  | '-' :: s => max (-2147483648) (-value s)
  | '+' :: s => min 2147483647 (value s)
  | s => min 2147483647 (value s)

/-- `%d` -/
def decimal (v : Int) : List Char := (toString v).toList

/-- The hexadecimal digit of a number `n` below 16. -/
def hexDigit (n : Nat) : Char := Nat.digitChar n

/-- `%02x` of a byte `v`: two hexadecimal digits. -/
def hex2 (v : Int) : List Char := [hexDigit (v.toNat / 16), hexDigit (v.toNat % 16)]

/-- The value of the character `c` as a hexadecimal digit, of either case, if it is one. -/
def hexValue (c : Char) : Option Nat :=
  if c.isDigit then some (c.toNat - '0'.toNat)
  else if 'a' ≤ c ∧ c ≤ 'f' then some (c.toNat - 'a'.toNat + 10)
  else if 'A' ≤ c ∧ c ≤ 'F' then some (c.toNat - 'A'.toNat + 10)
  else none

/-- One `%02x` of `sscanf`: white space, and two characters of a hexadecimal number, the first
of which may be a sign. -/
def scanHex (s : List Char) : Option (Nat × List Char) :=
  match s.dropWhile isSpace with
  | [] => none
  | [c] => (hexValue c).map (·, [])
  | c :: d :: s =>
      if c = '+' then (hexValue d).map (·, s)
      else if c = '-' then (hexValue d).map fun n => ((2 ^ 32 - n) % 2 ^ 32, s)
      else if c = '0' ∧ (d = 'x' ∨ d = 'X') then some (0, s)
      else (hexValue c).map fun m =>
        match hexValue d with
        | some n => (16 * m + n, s)
        | none => (m, d :: s)

/-- The values that `sscanf` reads with `n` times `%02x`, with `-` between them, up to the first
that does not match. -/
def scanHexes : Nat → List Char → List Nat
  | 0, _ => []
  | n + 1, s =>
      match scanHex s with
      | none => []
      | some (v, '-' :: s) => v :: scanHexes n s
      | some (v, _) => [v]

/-! ### Strings that are copied and compared -/

variable {value : List Char}

/-- The characters of a string `value` are not its end. -/
theorem ne_nul (hvalue : nul ∉ value) : ∀ c ∈ value, decide (c ≠ nul) = true := by
  intro c hc
  apply decide_eq_true
  rintro rfl
  exact hvalue hc

/-- The string `value` in front of its end is what is read from the buffer. -/
theorem text_append {rest : List Char} (hvalue : nul ∉ value) :
  text (value ++ nul :: rest) = .ok value
  := by
  rw [text, if_pos (by simp), List.takeWhile_append_of_pos (ne_nul hvalue), List.takeWhile_cons,
    if_neg (by simp), List.append_nil]

/-- A string `value` that has been copied by `strcpy` is read back from the buffer. -/
theorem text_strcpy {buf buf' : List Char} (hvalue : nul ∉ value) (h : strcpy buf value = .ok buf') :
  text buf' = .ok value
  := by
  unfold strcpy at h
  split at h
  · obtain rfl := Except.ok.inj h
    apply text_append hvalue
  · contradiction

theorem length_strncpy (buf : List Char) : (strncpy buf value).length = buf.length := by
  simp [strncpy]
  omega

/-- A string `value` that is shorter than the buffer is copied by `strncpy` with its end, and read
back. -/
theorem text_strncpy {buf : List Char} (hvalue : nul ∉ value) (h : value.length < buf.length) :
  text (strncpy buf value) = .ok value
  := by
  obtain ⟨n, hn⟩ : ∃ n, buf.length - value.length = n + 1 :=
    Nat.exists_eq_add_one_of_ne_zero (by omega)
  rw [strncpy, List.take_of_length_le (Nat.le_of_lt h), hn, List.replicate_succ]
  apply text_append hvalue

/-- A buffer that a string `t` is read from contains the end of it. -/
theorem mem_of_text {buf t : List Char} (h : text buf = .ok t) : nul ∈ buf := by
  unfold text at h
  split at h
  · assumption
  · contradiction

/-- A buffer from which `value` is read holds the string, its end, and whatever follows. -/
theorem exists_of_text (h : text buf = .ok value) :
  nul ∉ value ∧ ∃ rest, buf = value ++ nul :: rest
  := by
  have hmem := mem_of_text h
  rw [text, if_pos hmem] at h
  obtain rfl := Except.ok.inj h
  clear h
  induction buf with
  | nil => cases hmem
  | cons c buf ih =>
      by_cases hc : c = nul
      · subst hc
        simp
      · obtain ⟨hnot, rest, hrest⟩ := ih ((List.mem_cons.mp hmem).resolve_left (Ne.symm hc))
        rw [List.takeWhile_cons, if_pos (decide_eq_true hc)]
        constructor
        · intro hin
          exact hnot ((List.mem_cons.mp hin).resolve_left (Ne.symm hc))
        · use rest
          rw [List.cons_append, ← hrest]

/-- A buffer that `strcmp` finds equal to a string holds that string. -/
theorem text_of_strcmpEq {buf : List Char} (h : strcmpEq buf value = .ok true) :
  text buf = .ok value
  := by
  induction buf generalizing value with
  | nil => contradiction
  | cons c buf ih =>
      cases value with
      | nil =>
          have hc : c = nul := of_decide_eq_true (Except.ok.inj h)
          rw [hc, text, if_pos (.head _), List.takeWhile_cons, if_neg (by simp)]
      | cons d value =>
          rw [strcmpEq] at h
          split at h
          · next heq =>
              obtain ⟨rfl, hc⟩ := heq
              have htext := ih h
              unfold text at htext ⊢
              split at htext
              · next hmem =>
                  rw [if_pos (.tail _ hmem), List.takeWhile_cons, if_pos (decide_eq_true hc),
                    Except.ok.inj htext]
              · contradiction
          · contradiction

/-- A string that ends in its buffer is compared without a fault: it is found equal exactly if it is
`value`. -/
theorem strcmpEq_of_mem {buf : List Char} (hvalue : nul ∉ value) (hbuf : nul ∈ buf) :
  strcmpEq buf value = .ok (decide (text buf = .ok value))
  := by
  have htext : text buf = .ok (buf.takeWhile (· ≠ nul)) := if_pos hbuf
  rw [htext]
  simp only [Except.ok.injEq]
  clear htext
  induction buf generalizing value with
  | nil => contradiction
  | cons c buf ih =>
      by_cases hc : c = nul
      · subst hc
        cases value with
        | nil => simp [strcmpEq]
        | cons d value => simp [strcmpEq]
      · have hmem : nul ∈ buf := (List.mem_cons.mp hbuf).resolve_left (Ne.symm hc)
        cases value with
        | nil => simp [strcmpEq, hc]
        | cons d value =>
            by_cases hd : c = d
            · subst hd
              rw [strcmpEq, if_pos ⟨rfl, hc⟩, ih (fun h => hvalue (.tail _ h)) hmem]
              simp [hc]
            · simp [strcmpEq, hd, hc]

end Msg
