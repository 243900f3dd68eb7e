import Avserver.Library.Scan
import Avserver.Msg.Decimal
import Avserver.Msg.Process

/-!
# The names of presets

The name of a preset may end in a number.  `get_presetIndex` reads the number and
`get_prenamestring` cuts it off: both run forward to the end of the name, and from there backward
over the digits.  Here they are the loops that they are, on the buffer of the name, with every
access checked.  They agree on where the digits begin, which may be at the first character or
behind the last; so they compute what `deal_ptz_preset` is described with (`Msg.getPresetIndex`,
`Msg.getPrenamestring`).
-/

namespace Msg.PresetName

open Library Scan

variable {buf name p d : List Char}

/-- The index of the end of the `name`: `while(name[i]!='\0') i++;` -/
def toEnd (name : List Char) : Option Nat := forward (· ≠ nul) name 0

/-- `get_presetIndex`, on the buffer of the `name`: what it leaves there, and the number that it
reads. -/
def getPresetIndex (name : List Char) : Option (List Char × Int) := do
  let i ← toEnd name
  let (name, i) ← backward Char.isDigit (fun name _ => some name) name (i - 1)
  let number ← (text (name.drop (i + 1).toNat)).toOption
  some (name, atoi number)

/-- `get_prenamestring` -/
def getPrenamestring (name : List Char) : Option (List Char) := do
  let i ← toEnd name
  let (name, _) ← backward Char.isDigit (fun name i => put name i nul) name (i - 1)
  some name

/-! ### Names and their numbers -/

/-- The `name` is in two pieces: the digits `d` at its end, and what stands before them, `p`, which
does not end with a digit. -/
structure Split (name p d : List Char) : Prop where
  name_eq : name = p ++ d
  digits : ∀ c ∈ d, c.isDigit = true
  last : ∀ c ∈ p.getLast?, c.isDigit = false

theorem toEnd_eq {rest : List Char} (h : nul ∉ name) :
  toEnd (name ++ nul :: rest) = some name.length
  := by
  have hscan := forward_eq (p := []) (q := rest) (ne_nul h) (by simp : decide (nul ≠ nul) = false)
  simpa [toEnd] using hscan

/-- A split of the `name` whose conditions are computed to hold. -/
theorem Split.of_decide
    (h : name = p ++ d ∧ d.all Char.isDigit = true ∧ p.getLast?.all (! Char.isDigit ·) = true) :
  Split name p d
  := by
  refine ⟨h.1, List.all_eq_true.mp h.2.1, ?_⟩
  intro c hc
  have hlast := h.2.2
  rw [hc] at hlast
  simpa using hlast

/-- On a buffer with a name that is split, `get_presetIndex` reads the number and leaves the name
alone. -/
theorem getPresetIndex_eq (h : text buf = .ok name) (hs : Split name p d) :
  getPresetIndex buf = some (buf, atoi d)
  := by
  obtain ⟨hnot, rest, rfl⟩ := exists_of_text h
  obtain ⟨rfl, hd, hp⟩ := hs
  have hscan := backward_eq (f := fun name _ => some name) (g := id) (q := nul :: rest)
    (fun _ _ _ => rfl) hd hp
  have hdrop : (p ++ d ++ nul :: rest).drop ((p.length : Int) - 1 + 1).toNat
      = d ++ nul :: rest := by simp
  have hnumber : nul ∉ d := fun hmem => hnot (List.mem_append_right _ hmem)
  rw [getPresetIndex, toEnd_eq hnot]
  simp only [Option.bind_eq_bind, Option.bind_some, List.length_append, Int.natCast_add,
    List.map_id] at hscan ⊢
  rw [hscan]
  simp only [Option.bind_some, hdrop, text_append hnumber, Except.toOption]

/-- On a buffer with a name that is split, `get_prenamestring` overwrites the digits with `'\0'`. -/
theorem getPrenamestring_eq {rest : List Char} (hnot : nul ∉ name) (hs : Split name p d) :
  getPrenamestring (name ++ nul :: rest)
    = some (p ++ nul :: (List.replicate d.length nul ++ rest))
  := by
  obtain ⟨rfl, hd, hp⟩ := hs
  have hscan := backward_eq (f := fun name i => put name i nul) (g := fun _ => nul)
    (q := nul :: rest) (fun _ _ _ => put_append) hd hp
  rw [getPrenamestring, toEnd_eq hnot]
  simp only [Option.bind_eq_bind, Option.bind_some, List.length_append, Int.natCast_add,
    List.map_const'] at hscan ⊢
  rw [hscan]
  have hshift : List.replicate d.length nul ++ nul :: rest
      = nul :: (List.replicate d.length nul ++ rest) := by
    rw [← List.singleton_append, ← List.append_assoc, ← List.replicate_succ',
      List.replicate_succ, List.cons_append]
  rw [Option.bind_some, List.append_assoc, hshift]

/-- For every name in a buffer: `get_presetIndex` returns the value of its digits, if that is an
`int`, and leaves the name as it is.  `get_prenamestring` leaves what stands before the digits,
does so without an access outside of the buffer, and changes nothing when it is called again. -/
theorem number_read_and_cut (h : text buf = .ok name) (hs : Split name p d) :
  ((digitsValue d : Int) < 2 ^ 31 → getPresetIndex buf = some (buf, (digitsValue d : Int)))
    ∧ ∃ buf', getPrenamestring buf = some buf' ∧ buf'.length = buf.length
        ∧ text buf' = .ok p ∧ getPrenamestring buf' = some buf'
  := by
  constructor
  · intro hvalue
    rw [getPresetIndex_eq h hs, atoi_digits hs.digits, Int.min_eq_right (by omega)]
  · obtain ⟨hnot, rest, rfl⟩ := exists_of_text h
    have hp : nul ∉ p := fun hmem => hnot (hs.name_eq ▸ List.mem_append_left _ hmem)
    have hagain : Split p p [] := ⟨(List.append_nil p).symm, by simp, hs.last⟩
    refine ⟨_, getPrenamestring_eq hnot hs, ?_, text_append hp, getPrenamestring_eq hp hagain⟩
    rw [hs.name_eq]
    simp
    omega

/-- The number 12 is read off the name `cam12`, and an empty name is cut to itself. -/
theorem number_read_and_cut_cam12 :
  getPresetIndex "cam12\x00".toList = some ("cam12\x00".toList, 12)
    ∧ ∃ buf', getPrenamestring "\x00\x00".toList = some buf' ∧ text buf' = .ok []
  := by
  constructor
  · have htext : text "cam12\x00".toList = .ok "cam12".toList := by decide
    have hs : Split "cam12".toList "cam".toList "12".toList := Split.of_decide (by decide)
    apply (number_read_and_cut htext hs).1
    decide
  · have htext : text "\x00\x00".toList = .ok [] := by decide
    have hs : Split [] [] [] := ⟨rfl, by simp, by simp⟩
    obtain ⟨buf', hcut, -, hrest, -⟩ := (number_read_and_cut htext hs).2
    exact ⟨buf', hcut, hrest⟩

/-! ### The functions on names -/

/-- Every `name` is split by the functions that `deal_ptz_preset` is described with. -/
theorem split_name (name : List Char) :
  Split name (Msg.getPrenamestring name) (digitSuffix name)
  := by
  constructor
  · rw [Msg.getPrenamestring, digitSuffix, ← List.reverse_append, List.takeWhile_append_dropWhile,
      List.reverse_reverse]
  · intro c hc
    exact List.mem_takeWhile_imp (List.mem_reverse.mp hc)
  · intro c hc
    rw [Msg.getPrenamestring, List.getLast?_reverse] at hc
    have hhead := List.head?_dropWhile_not Char.isDigit name.reverse
    rw [hc] at hhead
    simpa using hhead

/-- There is one way to split a `name`: the pieces are those that the functions on names yield. -/
theorem Split.eq (hs : Split name p d) :
  Msg.getPrenamestring name = p ∧ digitSuffix name = d
  := by
  obtain ⟨rfl, hd, hp⟩ := hs
  have hd' : ∀ c ∈ d.reverse, c.isDigit = true := fun c hc => hd c (List.mem_reverse.mp hc)
  have hstop : p.reverse.takeWhile Char.isDigit = [] ∧ p.reverse.dropWhile Char.isDigit = p.reverse
      := by
    cases hrev : p.reverse with
    | nil => simp
    | cons c t =>
        have hc : c.isDigit = false := hp c (by
          rw [← List.head?_reverse, hrev]
          simp)
        simp [hc]
  constructor
  · rw [Msg.getPrenamestring, List.reverse_append, List.dropWhile_append_of_pos hd', hstop.2,
      List.reverse_reverse]
  · rw [digitSuffix, List.reverse_append, List.takeWhile_append_of_pos hd', hstop.1,
      List.append_nil, List.reverse_reverse]

/-- The loop of `get_presetIndex` computes on the buffer what the function on names does. -/
theorem getPresetIndex_refines (h : text buf = .ok name) :
  getPresetIndex buf = some (buf, Msg.getPresetIndex name)
  := getPresetIndex_eq h (split_name name)

/-- The loop of `get_prenamestring` leaves in the buffer what the function on names yields. -/
theorem getPrenamestring_refines (h : text buf = .ok name) :
  ∃ buf', getPrenamestring buf = some buf' ∧ text buf' = .ok (Msg.getPrenamestring name)
  := by
  obtain ⟨hnot, rest, rfl⟩ := exists_of_text h
  have hs := split_name name
  refine ⟨_, getPrenamestring_eq hnot hs, text_append fun hmem => hnot ?_⟩
  rw [hs.name_eq]
  exact List.mem_append_left _ hmem

end Msg.PresetName
