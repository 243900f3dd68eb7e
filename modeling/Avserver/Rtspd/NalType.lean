import Avserver.Library.Buffer
import Avserver.Rtspd.Frame

/-!
# The type of a frame

`H264GetNALType` of `rtspd.c` scans a frame for a start code and takes the type of the unit behind
it, to tell key frames from others.  The index of the scan is used where the start code is
matched, but not where the type is extracted: that is always taken from the fifth byte of the
frame.  So the scan stays inside the frame, but the type is that of the first unit only where the
fifth byte says the same (`recognised_iff`), as it does where the first unit begins the frame.
-/

namespace Rtspd

open Library

/-! ### The intended rule -/

/-- There is a start code at the offset `i` of `pBS`: three bytes that are 0, and a 1. -/
def StartCode (pBS : List UInt8) (i : Nat) : Prop :=
  pBS.getD i 0 = 0 ∧ pBS.getD (i + 1) 0 = 0 ∧ pBS.getD (i + 2) 0 = 0 ∧ pBS.getD (i + 3) 0 = 1

instance (pBS : List UInt8) (i : Nat) : Decidable (StartCode pBS i) :=
  inferInstanceAs (Decidable (pBS.getD i 0 = 0 ∧ pBS.getD (i + 1) 0 = 0 ∧ pBS.getD (i + 2) 0 = 0
    ∧ pBS.getD (i + 3) 0 = 1))

/-- The type of the unit whose start code is at the offset `i`: the low five bits of the byte behind
it. -/
def unitType (pBS : List UInt8) (i : Nat) : Nat := (pBS.getD (i + 4) 0).toNat % 32

/-- The unit at the offset `i` of a frame is the first one whose type is at most `H264NT_PPS`. -/
structure FirstUnit (pBS : List UInt8) (nBSLen : Int) (i : Nat) : Prop where
  start : StartCode pBS i
  inRange : i ≤ nBSLen - 5
  type : unitType pBS i ≤ h264ntPps
  first : ∀ j < i, StartCode pBS j → h264ntPps < unitType pBS j

/-! ### Reads -/

/-- The test for a start code at `i`, which reads on as long as the bytes match; `none`, if it reads
outside of `pBS`. -/
def loadStartCode (pBS : List UInt8) (i : Nat) : Option Bool := do
  if (← Buffer.load pBS i) ≠ 0 then pure false
  else if (← Buffer.load pBS (i + 1)) ≠ 0 then pure false
  else if (← Buffer.load pBS (i + 2)) ≠ 0 then pure false
  else pure ((← Buffer.load pBS (i + 3)) = 1)

/-- The loop of `H264GetNALType` with its reads of `pBS`; `none`, if one of them is outside of the
buffer. -/
def loadLoop (pBS : List UInt8) : (n i : Nat) → Option Nat
  | 0, _ => some 0
  | n + 1, i => do
      if ← loadStartCode pBS i then
        let nType := (← Buffer.load pBS 4).toNat % 32
        if nType ≤ h264ntPps then pure nType else loadLoop pBS n (i + 1)
      else loadLoop pBS n (i + 1)

/-- `H264GetNALType` of the first `nBSLen` bytes with its reads; `none`, if one of them is outside
of `pBS`. -/
def loadNALType (pBS : List UInt8) (nBSLen : Int) : Option Nat :=
  if nBSLen < 5 then some h264ntNal else loadLoop pBS (nBSLen - 4).toNat 0

variable {pBS : List UInt8} {nBSLen : Int} {i j m n : Nat}

/-- A read of the byte `i` inside the first `m` bytes of `pBS` finds what is there. -/
theorem load_take (hm : m ≤ pBS.length) (h : i < m) :
  Buffer.load (pBS.take m) i = some (pBS.getD i 0)
  := by
  rw [Buffer.load, List.getElem?_take_of_lt h, List.getD_eq_getElem?_getD,
    List.getElem?_eq_getElem (by omega), Option.getD_some]

/-- The test for a start code at `i` reads four bytes at most, which are inside the first `m`
bytes. -/
theorem loadStartCode_take (hm : m ≤ pBS.length) (h : i + 3 < m) :
  loadStartCode (pBS.take m) i = some (decide (StartCode pBS i))
  := by
  rw [loadStartCode, load_take hm (by omega), load_take hm (by omega), load_take hm (by omega),
    load_take hm h]
  simp only [Option.bind_eq_bind, Option.bind_some, StartCode]
  split
  · next h₀ => exact congrArg some (decide_eq_false fun hcode => h₀ hcode.1).symm
  · next h₀ =>
      split
      · next h₁ => exact congrArg some (decide_eq_false fun hcode => h₁ hcode.2.1).symm
      · next h₁ =>
          split
          · next h₂ => exact congrArg some (decide_eq_false fun hcode => h₂ hcode.2.2.1).symm
          · next h₂ =>
              apply congrArg some
              apply decide_eq_decide.mpr
              constructor
              · intro h₃
                exact ⟨not_not.mp h₀, not_not.mp h₁, not_not.mp h₂, h₃⟩
              · intro hcode
                apply hcode.2.2.2

/-- A round of the loop at the offset `i`: the type is taken from the front of the frame, wherever
the start code is. -/
theorem nalLoop_succ (pBS : List UInt8) (n i : Nat) :
  nalLoop pBS (n + 1) i
    = if StartCode pBS i then
        if unitType pBS 0 ≤ h264ntPps then unitType pBS 0 else nalLoop pBS n (i + 1)
      else nalLoop pBS n (i + 1)
  := rfl

/-- The loop of `H264GetNALType` over `n` offsets from `i` on reads inside the first `m` bytes. -/
theorem loadLoop_take (hm : m ≤ pBS.length) (h : i + n + 4 ≤ m) (h4 : 4 < m) :
  loadLoop (pBS.take m) n i = some (nalLoop pBS n i)
  := by
  induction n generalizing i with
  | zero => rfl
  | succ n ih =>
      rw [loadLoop, loadStartCode_take hm (by omega), load_take hm h4, nalLoop_succ]
      simp only [Option.bind_eq_bind, Option.bind_some, decide_eq_true_eq]
      by_cases hcode : StartCode pBS i
      · rw [if_pos hcode, if_pos hcode, unitType, Nat.zero_add]
        split
        · rfl
        · apply ih (by omega)
      · rw [if_neg hcode, if_neg hcode]
        apply ih (by omega)

/-- Of a frame, `H264GetNALType` reads only the `nBSLen` bytes that it is told to. -/
theorem loadNALType_take (hlen : nBSLen ≤ pBS.length) :
  loadNALType (pBS.take nBSLen.toNat) nBSLen = some (h264GetNALType pBS nBSLen)
  := by
  rw [loadNALType, h264GetNALType]
  split
  · rfl
  · apply loadLoop_take
    · omega
    · omega
    · omega

/-! ### What is returned -/

/-- The type that the fifth byte of the frame `pBS` says, or 0 if it is above `H264NT_PPS`. -/
def fifthByteType (pBS : List UInt8) : Nat :=
  if unitType pBS 0 ≤ h264ntPps then unitType pBS 0 else 0

/-- There is a start code at the offset `i`, where the scan of `H264GetNALType` looks for one. -/
def CodeScanned (pBS : List UInt8) (nBSLen : Int) (i : Nat) : Prop :=
  StartCode pBS i ∧ i ≤ nBSLen - 5

/-- The loop over `n` offsets from `i` on returns what the fifth byte says if there is a start code,
and 0 if there is none. -/
theorem nalLoop_cases (pBS : List UInt8) (n i : Nat) :
  (∃ j, i ≤ j ∧ j < i + n ∧ StartCode pBS j) ∧ nalLoop pBS n i = fifthByteType pBS
    ∨ (∀ j, i ≤ j → j < i + n → ¬ StartCode pBS j) ∧ nalLoop pBS n i = 0
  := by
  induction n generalizing i with
  | zero =>
      right
      constructor
      · intro j hle hlt
        omega
      · rfl
  | succ n ih =>
      rw [nalLoop_succ]
      by_cases hi : StartCode pBS i
      · left
        use ⟨i, Nat.le_refl i, by omega, hi⟩
        rw [if_pos hi, fifthByteType]
        split
        · rfl
        · next habove =>
            rcases ih (i + 1) with ⟨-, heq⟩ | ⟨-, heq⟩
            · rw [heq, fifthByteType, if_neg habove]
            · apply heq
      · rw [if_neg hi]
        rcases ih (i + 1) with ⟨⟨j, hle, hlt, hj⟩, heq⟩ | ⟨hnone, heq⟩
        · left
          exact ⟨⟨j, by omega, by omega, hj⟩, heq⟩
        · right
          refine ⟨?_, heq⟩
          intro j hle hlt
          rcases Nat.eq_or_lt_of_le hle with rfl | hlt'
          · apply hi
          · apply hnone j hlt' (by omega)

theorem h264GetNALType_cases (h5 : 5 ≤ nBSLen) :
  (∃ i, CodeScanned pBS nBSLen i) ∧ h264GetNALType pBS nBSLen = fifthByteType pBS
    ∨ (¬ ∃ i, CodeScanned pBS nBSLen i) ∧ h264GetNALType pBS nBSLen = 0
  := by
  rw [h264GetNALType, if_neg (by omega)]
  rcases nalLoop_cases pBS (nBSLen - 4).toNat 0 with ⟨⟨j, -, hlt, hj⟩, heq⟩ | ⟨hnone, heq⟩
  · left
    exact ⟨⟨j, hj, by omega⟩, heq⟩
  · right
    refine ⟨?_, heq⟩
    rintro ⟨j, hj, hle⟩
    apply hnone j (Nat.zero_le j) (by omega) hj

/-! ### When the type is the intended one -/

/-- `H264GetNALType` reads only the bytes that it is told to, returns the type of the first unit,
or 0 if there is none, and a first unit that begins a group of pictures makes a key frame. -/
structure Recognised (pBS : List UInt8) (nBSLen : Int) : Prop where
  inside : loadNALType (pBS.take nBSLen.toNat) nBSLen = some (h264GetNALType pBS nBSLen)
  first : ∀ i, FirstUnit pBS nBSLen i → h264GetNALType pBS nBSLen = unitType pBS i
  none : (∀ i, ¬ FirstUnit pBS nBSLen i) → h264GetNALType pBS nBSLen = 0
  key : ∀ i, FirstUnit pBS nBSLen i → isIFrame (unitType pBS i) = true →
    isIFrame (h264GetNALType pBS nBSLen) = true

/-- If there is a start code, then the fifth byte says the type of the first unit of `pBS`, or 0 if
there is none. -/
def FifthByteFits (pBS : List UInt8) (nBSLen : Int) : Prop :=
  (∃ i, CodeScanned pBS nBSLen i) →
    (∀ i, FirstUnit pBS nBSLen i → unitType pBS i = fifthByteType pBS)
      ∧ ((∀ i, ¬ FirstUnit pBS nBSLen i) → fifthByteType pBS = 0)

theorem FifthByteFits.recognised
    (h : FifthByteFits pBS nBSLen) (h5 : 5 ≤ nBSLen) (hlen : nBSLen ≤ pBS.length) :
  Recognised pBS nBSLen
  := by
  have hfirst : ∀ i, FirstUnit pBS nBSLen i → h264GetNALType pBS nBSLen = unitType pBS i := by
    intro i hi
    rcases h264GetNALType_cases h5 with ⟨hscanned, heq⟩ | ⟨hnone, -⟩
    · rw [heq, (h hscanned).1 i hi]
    · apply absurd ⟨i, hi.start, hi.inRange⟩ hnone
  constructor
  · apply loadNALType_take hlen
  · apply hfirst
  · intro hnone
    rcases h264GetNALType_cases h5 with ⟨hscanned, heq⟩ | ⟨-, heq⟩
    · rw [heq, (h hscanned).2 hnone]
    · apply heq
  · intro i hi hkey
    rw [hfirst i hi]
    apply hkey

/-- A frame `pBS` that begins with the first unit of a type up to `H264NT_PPS` is recognised. -/
theorem FirstUnit.recognised
    (h : FirstUnit pBS nBSLen 0) (h5 : 5 ≤ nBSLen) (hlen : nBSLen ≤ pBS.length) :
  Recognised pBS nBSLen
  := by
  apply FifthByteFits.recognised _ h5 hlen
  intro _
  have htype : fifthByteType pBS = unitType pBS 0 := if_pos h.type
  constructor
  · intro i hi
    rcases Nat.eq_zero_or_pos i with rfl | hpos
    · rw [htype]
    · apply absurd h.type (Nat.not_le.mpr (hi.first 0 hpos h.start))
  · intro hnone
    apply absurd h (hnone 0)

/-- For every frame, `H264GetNALType` reads inside the frame and returns the type of the first
unit, wherever it is, exactly if the frame has no start code, or its fifth byte says the type of
that unit. -/
theorem recognised_iff (h5 : 5 ≤ nBSLen) (hlen : nBSLen ≤ pBS.length) :
  Recognised pBS nBSLen ↔ FifthByteFits pBS nBSLen
  := by
  constructor
  · intro h hscanned
    have heq : h264GetNALType pBS nBSLen = fifthByteType pBS := by
      rcases h264GetNALType_cases h5 with ⟨-, heq⟩ | ⟨hnone, -⟩
      · apply heq
      · apply absurd hscanned hnone
    constructor
    · intro i hi
      rw [← heq, h.first i hi]
    · intro hnone
      rw [← heq, h.none hnone]
  · intro h
    apply h.recognised h5 hlen

/-- A frame that begins with a sequence parameter set, whose type is `H264NT_SPS`. -/
def spsFrame : List UInt8 := [0, 0, 0, 1, 0x67, 0x42]

theorem recognised_iff_spsFrame : Recognised spsFrame 6 ↔ FifthByteFits spsFrame 6 :=
  recognised_iff (by decide) (by decide)

/-- A frame that begins with an access unit delimiter, of the type 9, before the sequence parameter
set. -/
def delimitedFrame : List UInt8 := [0, 0, 0, 1, 0x09, 0xf0, 0, 0, 0, 1, 0x67, 0x42]

/-- A `delimitedFrame` is not recognised as a key frame: the type of the delimiter is looked at once
more. -/
theorem delimitedFrame_not_recognised :
  FirstUnit delimitedFrame 12 6 ∧ unitType delimitedFrame 6 = h264ntSps
    ∧ h264GetNALType delimitedFrame 12 = 0 ∧ ¬ Recognised delimitedFrame 12
  := by
  have hfirst : FirstUnit delimitedFrame 12 6 := ⟨by decide, by decide, by decide, by decide⟩
  refine ⟨hfirst, by decide, by decide, ?_⟩
  intro h
  have hkey := h.key 6 hfirst (by decide)
  contradiction

end Rtspd
