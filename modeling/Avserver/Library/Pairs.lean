import Mathlib.Data.List.Basic
import Mathlib.Tactic.Common

/-!
# Messages of keys and values

A message is the text of a list of pairs: each one a key and a value with `=` between them, the
first one behind a `$` and every other one behind an `&`, and a `#` at the end.  Keys and values are
`Plain` when they contain none of these characters, nor the one that ends a string; then the pairs
can be read off their message (`parse_render`).

A parser of messages `Reads` them if it yields the pairs of every message of plain keys and values.
-/

namespace Library.Pairs

/-- A pair of a message: its key, `p.1`, and its value, `p.2`. -/
abbrev Pair := List Char × List Char

/-- The characters that stand between keys and values, `=` and `&`, or begin and end the message,
`$` and `#`, or end the string. -/
def separators : List Char := ['$', '=', '&', '#', '\x00']

/-- The text `t` has none of the `separators` in it, so it may stand in a message as a key or as a
value. -/
def Plain (t : List Char) : Prop := ∀ c ∈ t, c ∉ separators

instance (t : List Char) : Decidable (Plain t) := inferInstanceAs (Decidable (∀ c ∈ t, c ∉ separators))

/-- The key and the value of the pair `p` are both `Plain`. -/
def PlainPair (p : Pair) : Prop := Plain p.1 ∧ Plain p.2

/-- The pair `p` as it stands in a message: the key, `=` and the value. -/
def piece (p : Pair) : List Char := p.1 ++ '=' :: p.2

/-- The message of a list of pairs: `$`, the pieces with `&` between them, and `#`.  The message of
no pairs is `#` alone. -/
def render : List Pair → List Char
  | [] => ['#']
  | p :: ps => '$' :: piece p ++ ps.flatMap (fun p => '&' :: piece p) ++ ['#']

/-- The parser `parseVars` yields the pairs of every message of plain pairs: it is a left inverse of
`render` on them. -/
def Reads (parseVars : List Char → List Pair) : Prop :=
  ∀ ps, (∀ p ∈ ps, PlainPair p) → parseVars (render ps) = ps

/-! ### A parser -/

/-- The piece `t` is cut at its first `=` into a key and a value. -/
def cut (t : List Char) : Pair := (t.takeWhile (· ≠ '='), (t.dropWhile (· ≠ '=')).tail)

/-- The pieces of what stands in `t` between `$` and `#`, each of them `cut` into a pair. -/
def parse (t : List Char) : List Pair :=
  match t.takeWhile (· ≠ '#') with
  | '$' :: body => (body.splitOn '&').map cut
  | _ => []

theorem Plain.ne {t : List Char} {c d : Char} (h : Plain t) (hc : c ∈ t) (hd : d ∈ separators) :
  c ≠ d
  := by
  rintro rfl
  apply h c hc hd

/-- A plain pair `p` is read off its piece by `cut`. -/
theorem cut_piece {p : Pair} (h : PlainPair p) :
  cut (piece p) = p
  := by
  have hkey : ∀ c ∈ p.1, (c ≠ '=' : Bool) := by
    intro c hc
    simpa using h.1.ne hc (by decide : '=' ∈ separators)
  simp only [cut, piece]
  rw [List.takeWhile_append_of_pos hkey, List.dropWhile_append_of_pos hkey]
  simp

/-- A character that a plain pair does not contain is not in its piece, unless it is `=`. -/
theorem notMem_piece {p : Pair} {c : Char} (h : PlainPair p) (hc : c ∈ separators) (hne : c ≠ '=') :
  c ∉ piece p
  := by
  intro hmem
  rcases List.mem_append.mp hmem with hmem | hmem
  · apply h.1 c hmem hc
  · rcases List.mem_cons.mp hmem with heq | hmem
    · apply hne heq
    · apply h.2 c hmem hc

/-- What stands between `$` and `#` in the message of `p :: ps` are the pieces of its pairs, with
`&` between them. -/
theorem render_cons (p : Pair) (ps : List Pair) :
  render (p :: ps) = '$' :: ['&'].intercalate ((p :: ps).map piece) ++ ['#']
  := by
  have hpieces (p : Pair) : piece p ++ ps.flatMap (fun p => '&' :: piece p)
      = ['&'].intercalate ((p :: ps).map piece) := by
    induction ps generalizing p with
    | nil => simp [List.intercalate]
    | cons p' ps ih =>
        rw [List.flatMap_cons, List.cons_append, ih p']
        simp [List.intercalate]
  rw [render, ← hpieces p, List.cons_append]

/-- Nothing ends the message of plain pairs `ps` before its end: there is no `#` in the pieces. -/
theorem notMem_intercalate {ps : List Pair} (h : ∀ p ∈ ps, PlainPair p) :
  '#' ∉ ['&'].intercalate (ps.map piece)
  := by
  induction ps with
  | nil => simp [List.intercalate]
  | cons p ps ih =>
      have hp := notMem_piece (h p List.mem_cons_self) (by decide : '#' ∈ separators) (by decide)
      have hps := ih (fun p' hp' => h p' (List.mem_cons_of_mem p hp'))
      cases ps with
      | nil => simpa [List.intercalate] using hp
      | cons p' ps =>
          simp only [List.intercalate, List.map_cons, List.intersperse] at hps ⊢
          simp only [List.flatten_cons, List.mem_append, List.mem_singleton] at hps ⊢
          simp_all

/-- The parser `parse` reads every list of plain pairs off its message, as `Reads` asks. -/
theorem parse_render : Reads parse := by
  intro ps h
  cases ps with
  | nil => rfl
  | cons p ps =>
      have hend : ∀ c ∈ '$' :: ['&'].intercalate ((p :: ps).map piece), (c ≠ '#' : Bool) := by
        intro c hc
        have hne : c ≠ '#' := by
          rintro rfl
          rcases List.mem_cons.mp hc with hc | hc
          · contradiction
          · apply notMem_intercalate h hc
        simpa using hne
      have htake : (render (p :: ps)).takeWhile (· ≠ '#')
          = '$' :: ['&'].intercalate ((p :: ps).map piece) := by
        rw [render_cons, List.takeWhile_append_of_pos hend]
        simp
      have hpieces : ∀ t ∈ (p :: ps).map piece, '&' ∉ t := by
        intro t ht
        obtain ⟨p', hp', rfl⟩ := List.mem_map.mp ht
        apply notMem_piece (h p' hp') (by decide) (by decide)
      unfold parse
      rw [htake]
      calc ((['&'].intercalate ((p :: ps).map piece)).splitOn '&').map cut
          _ = ((p :: ps).map piece).map cut := by
              rw [List.splitOn_intercalate '&' hpieces (by simp)]
          _ = (p :: ps).map id := by
              rw [List.map_map]
              apply List.map_congr_left
              intro p' hp'
              apply cut_piece (h p' hp')
          _ = p :: ps := List.map_id _

end Library.Pairs
