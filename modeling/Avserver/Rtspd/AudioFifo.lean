import Mathlib.Tactic.Linarith
import Avserver.Library.Ring
import Avserver.Library.Run

/-!
# The queue of audio data

`adata_fifo_in` and `adata_fifo_out` of `rtspd.c` keep encoded audio in a ring of bytes with a
position to write to and one to read from.  Where the two are the same, a flag says whether the
ring is empty or full.  A block that has no room moves the position to read from along, so that
the oldest bytes are lost.

All copies stay inside the ring and the buffer of the caller (`fifo_in_bounds`).  The ring is a
queue with a bounded length as long as no block is put into it while it is full: then the room is
computed to be the whole ring, and all that it holds is lost (`fifo_refines_iff`).
-/

namespace Rtspd.Audio

open Library

/-- `AUDIO_SILC_SIZE` -/
def audioSilcSize : Int := 20 * 8

/-- `ADATA_BUF_LENGTH` -/
def adataBufLength : Int := 4096

/-- The values of `stat`, of a queue that has some bytes, none or as many as fit: `NORMAL`, `EMTYE`
and `FULL`. -/
inductive Stat where
  | normal | emtye | full
deriving DecidableEq

/-- `struct Audio_data` -/
structure AudioData where
  pIn : Int
  pOut : Int
  stat : Stat
  buf : List UInt8
deriving DecidableEq

/-- A `memcpy` between the ring and the buffer of the caller: the places in the two, and the
number of bytes. -/
structure Copy where
  ring : Int
  caller : Int
  len : Int
deriving DecidableEq

/-- What is in the `ring` behind the copy `c` of bytes from the buffer `buf` of the caller. -/
def Copy.toRing (buf ring : List UInt8) (c : Copy) : List UInt8 :=
  Ring.splice ring c.ring.toNat ((buf.drop c.caller.toNat).take c.len.toNat)

/-- What is in the buffer `buf` of the caller behind the copy `c` of bytes from the `ring`. -/
def Copy.toCaller (ring buf : List UInt8) (c : Copy) : List UInt8 :=
  Ring.splice buf c.caller.toNat ((ring.drop c.ring.toNat).take c.len.toNat)

/-- `audio_init`, as far as the queue is concerned: both positions are set to 0, and `stat` says
that there is nothing to read. -/
def audioInit (padata : AudioData) : AudioData :=
  { padata with pIn := 0, pOut := 0, stat := .emtye }

/-- The room that `adata_fifo_in` computes for a block, from `pOut` and `pIn` alone. -/
def room (padata : AudioData) : Int :=
  if padata.pOut > padata.pIn then padata.pOut - padata.pIn
  else padata.pOut + adataBufLength - padata.pIn

/-- `adata_fifo_in` of the first `len` bytes of `buf`: the queue behind it, and the copies that it
makes. -/
def adataFifoIn (padata : AudioData) (buf : List UInt8) (len : Int) : AudioData × List Copy :=
  let bLen := room padata
  let stat := if bLen > len then Stat.normal else Stat.full
  let copies : List Copy :=
    if padata.pIn + len > adataBufLength then
      [⟨padata.pIn, 0, adataBufLength - padata.pIn⟩,
        ⟨0, adataBufLength - padata.pIn, padata.pIn + len - adataBufLength⟩]
    else [⟨padata.pIn, 0, len⟩]
  let pIn :=
    if padata.pIn + len > adataBufLength then
      (padata.pIn + len - adataBufLength).tmod adataBufLength
    else padata.pIn + len
  let pIn := pIn.tmod adataBufLength
  let pOut := if stat = .full then pIn else padata.pOut
  (⟨pIn, pOut, stat, copies.foldl (Copy.toRing buf) padata.buf⟩, copies)

/-- The number of bytes that are taken out where there are `bLen`, in whole slices and not beyond
`maxLen`. -/
def sliceLen (bLen maxLen : Int) : Int :=
  (if bLen > maxLen then maxLen else bLen).tdiv audioSilcSize * audioSilcSize

/-- What `adata_fifo_out` leaves: the queue, the buffer of the caller, the length, which is also
stored in `*plen`, and the copies. -/
structure Taken where
  padata : AudioData
  buf : List UInt8
  len : Int
  copies : List Copy

/-- The length, the copies and the new `pOut` of `adata_fifo_out`, where there is something in the
queue. -/
def takeOut (padata : AudioData) (maxLen : Int) : Int × List Copy × Int :=
  if padata.pIn > padata.pOut then
    let len := sliceLen (padata.pIn - padata.pOut) maxLen
    (len, [⟨padata.pOut, 0, len⟩], padata.pOut + len)
  else
    let len := sliceLen (adataBufLength - padata.pOut + padata.pIn) maxLen
    if padata.pOut + len > adataBufLength then
      (len, [⟨padata.pOut, 0, adataBufLength - padata.pOut⟩,
          ⟨0, adataBufLength - padata.pOut, padata.pOut + len - adataBufLength⟩],
        ((padata.pOut + len).tmod adataBufLength).tmod adataBufLength)
    else (len, [⟨padata.pOut, 0, len⟩], (padata.pOut + len).tmod adataBufLength)

/-- `adata_fifo_out` -/
def adataFifoOut (padata : AudioData) (buf : List UInt8) (maxLen : Int) : Taken :=
  if padata.stat = .emtye then ⟨padata, buf, 0, []⟩
  else
    let (len, copies, pOut) := takeOut padata maxLen
    let stat := if padata.pIn = pOut then Stat.emtye else padata.stat
    ⟨{ padata with pOut := pOut, stat := stat }, copies.foldl (Copy.toCaller padata.buf) buf, len,
      copies⟩

/-! ### The positions -/

/-- The positions `pIn` and `pOut` are in the ring, and its buffer has `adataBufLength` bytes. -/
structure Within (padata : AudioData) : Prop where
  pIn : 0 ≤ padata.pIn ∧ padata.pIn < adataBufLength
  pOut : 0 ≤ padata.pOut ∧ padata.pOut < adataBufLength
  size : padata.buf.length = adataBufLength

/-- The number of bytes from `pOut`, where is read next, to `pIn`, where is written next; all of the
ring if the two are the same. -/
def between (padata : AudioData) : Int :=
  if padata.pIn > padata.pOut then padata.pIn - padata.pOut
  else adataBufLength - padata.pOut + padata.pIn

/-- The number of bytes in the queue: none if `stat` says so, and otherwise those between the
positions. -/
def count (padata : AudioData) : Int := if padata.stat = .emtye then 0 else between padata

variable {padata : AudioData} {buf : List UInt8} {len maxLen : Int}

theorem Within.between_bounds (h : Within padata) :
  0 < between padata ∧ between padata ≤ adataBufLength
  := by
  have hIn := h.pIn
  have hOut := h.pOut
  unfold between
  split
  · omega
  · omega

theorem Within.count_bounds (h : Within padata) :
  0 ≤ count padata ∧ count padata ≤ adataBufLength
  := by
  have hbetween := h.between_bounds
  unfold count
  split
  · exact ⟨Int.le_refl 0, by decide⟩
  · exact ⟨Int.le_of_lt hbetween.1, hbetween.2⟩

/-- `sliceLen` is a whole number of slices, up to the `bLen` bytes that there are and the `maxLen`
bytes that are wanted. -/
theorem sliceLen_bounds {bLen : Int} (hb : 0 ≤ bLen) (hmax : 0 ≤ maxLen) :
  0 ≤ sliceLen bLen maxLen ∧ sliceLen bLen maxLen ≤ bLen ∧ sliceLen bLen maxLen ≤ maxLen
    ∧ audioSilcSize ∣ sliceLen bLen maxLen
  := by
  have hmin : 0 ≤ if bLen > maxLen then maxLen else bLen := by
    split
    · apply hmax
    · apply hb
  have heq : sliceLen bLen maxLen
      = (if bLen > maxLen then maxLen else bLen) / audioSilcSize * audioSilcSize := by
    rw [sliceLen, Int.tdiv_eq_ediv_of_nonneg hmin]
  have hpos := Int.ediv_nonneg hmin (show 0 ≤ audioSilcSize by decide)
  have hle := Int.ediv_mul_le (if bLen > maxLen then maxLen else bLen)
    (show audioSilcSize ≠ 0 by decide)
  rw [heq]
  refine ⟨Int.mul_nonneg hpos (by decide), ?_, ?_, Int.dvd_mul_left _ _⟩
  · split at *
    · omega
    · omega
  · split at *
    · omega
    · omega

/-- Behind a block of `len` bytes, `pIn` is so much farther along the ring, and around its end. -/
theorem adataFifoIn_pIn (h : Within padata) (hlen : 0 ≤ len) :
  (adataFifoIn padata buf len).1.pIn = (padata.pIn + len) % adataBufLength
  := by
  obtain ⟨hpos, -⟩ := h.pIn
  simp only [adataFifoIn]
  split
  · next hend =>
      have hback : 0 ≤ padata.pIn + len - adataBufLength := by omega
      rw [Int.tmod_eq_emod_of_nonneg (Int.tmod_nonneg _ hback), Int.tmod_eq_emod_of_nonneg hback,
        Int.emod_emod_of_dvd _ (Int.dvd_refl _), Int.sub_emod_right]
  · rw [Int.tmod_eq_emod_of_nonneg (by omega)]

/-- The two ways in which a block is put in: with room for it, or with the oldest bytes lost, where
`pOut` is set to `pIn`. -/
theorem adataFifoIn_cases (padata : AudioData) (buf : List UInt8) (len : Int) :
  let padata' := (adataFifoIn padata buf len).1
  (len < room padata ∧ padata'.stat = .normal ∧ padata'.pOut = padata.pOut)
    ∨ (room padata ≤ len ∧ padata'.stat = .full ∧ padata'.pOut = padata'.pIn)
  := by
  rcases Int.lt_or_le len (room padata) with hroom | hroom
  · left
    simp [adataFifoIn, hroom]
  · right
    simp [adataFifoIn, Int.not_lt.mpr hroom, hroom]

/-- The copies of `adata_fifo_in` write the first `len` bytes of `buf` to the ring, from `pIn` on
and around its end. -/
theorem adataFifoIn_buf (h : Within padata) (hlen : 0 ≤ len) (hbuf : len ≤ buf.length) :
  (adataFifoIn padata buf len).1.buf
    = Ring.write padata.buf padata.pIn.toNat (buf.take len.toNat)
  := by
  have hsize := h.size
  have hpos := h.pIn
  have hblock : (buf.take len.toNat).length = len.toNat := by
    rw [List.length_take]
    omega
  simp only [adataFifoIn, Ring.write, hblock]
  split
  · next hend =>
      have hend' : padata.pIn.toNat + len.toNat > padata.buf.length := by omega
      have hfront : (adataBufLength - padata.pIn).toNat
          = min (padata.buf.length - padata.pIn.toNat) len.toNat := by omega
      have hback : (padata.pIn + len - adataBufLength).toNat
          = len.toNat - (padata.buf.length - padata.pIn.toNat) := by omega
      have hrest : (adataBufLength - padata.pIn).toNat
          = padata.buf.length - padata.pIn.toNat := by omega
      rw [if_pos hend', List.take_take, List.drop_take, ← hfront, ← hback, ← hrest]
      rfl
  · next hend =>
      have hend' : ¬ padata.pIn.toNat + len.toNat > padata.buf.length := by omega
      rw [if_neg hend']
      rfl

/-- `adata_fifo_in` of a block that is no longer than the ring leaves the positions in the ring. -/
theorem Within.fifoIn
    (h : Within padata) (hlen : 0 ≤ len) (hmax : len ≤ adataBufLength) (hbuf : len ≤ buf.length) :
  Within (adataFifoIn padata buf len).1
  := by
  have hIn : 0 ≤ (adataFifoIn padata buf len).1.pIn
      ∧ (adataFifoIn padata buf len).1.pIn < adataBufLength := by
    rw [adataFifoIn_pIn h hlen]
    exact ⟨Int.emod_nonneg _ (by decide), Int.emod_lt_of_pos _ (by decide)⟩
  constructor
  · apply hIn
  · rcases adataFifoIn_cases padata buf len with ⟨-, -, hOut⟩ | ⟨-, -, hOut⟩
    · rw [hOut]
      apply h.pOut
    · rw [hOut]
      apply hIn
  · have hsize := h.size
    have hpos := h.pIn
    rw [adataFifoIn_buf h hlen hbuf, Ring.length_write (by omega), hsize]
    rw [List.length_take]
    omega

/-- What is taken out of a queue that is not empty, in one copy or, around the end of the ring, in
two. -/
theorem takeOut_cases (h : Within padata) (hmax : 0 ≤ maxLen) :
  let len := sliceLen (between padata) maxLen
  let pOut := (padata.pOut + len) % adataBufLength
  (padata.pOut + len ≤ adataBufLength
      ∧ takeOut padata maxLen = (len, [⟨padata.pOut, 0, len⟩], pOut))
    ∨ (adataBufLength < padata.pOut + len
      ∧ takeOut padata maxLen = (len, [⟨padata.pOut, 0, adataBufLength - padata.pOut⟩,
          ⟨0, adataBufLength - padata.pOut, padata.pOut + len - adataBufLength⟩], pOut))
  := by
  have hIn := h.pIn
  have hOut := h.pOut
  have hbounds := sliceLen_bounds (Int.le_of_lt h.between_bounds.1) hmax
  by_cases hgt : padata.pIn > padata.pOut
  · have hbetween : between padata = padata.pIn - padata.pOut := if_pos hgt
    rw [hbetween] at hbounds ⊢
    left
    rw [takeOut, if_pos hgt, Int.emod_eq_of_lt (by omega) (by omega)]
    use by omega
  · have hbetween : between padata = adataBufLength - padata.pOut + padata.pIn := if_neg hgt
    rw [hbetween] at hbounds ⊢
    have hnonneg : 0 ≤ padata.pOut + sliceLen (adataBufLength - padata.pOut + padata.pIn) maxLen := by
      omega
    rw [takeOut, if_neg hgt]
    intro len pOut
    by_cases hend : padata.pOut + len > adataBufLength
    · right
      use hend
      rw [if_pos hend, Int.tmod_eq_emod_of_nonneg (Int.tmod_nonneg _ hnonneg),
        Int.tmod_eq_emod_of_nonneg hnonneg, Int.emod_emod_of_dvd _ (Int.dvd_refl _)]
    · left
      use Int.not_lt.mp hend
      rw [if_neg hend, Int.tmod_eq_emod_of_nonneg hnonneg]

/-- The length that `adata_fifo_out` takes out, whole slices of what is in the queue, and where
`pOut` is behind it. -/
theorem adataFifoOut_spec (h : Within padata) (hmax : 0 ≤ maxLen) :
  (adataFifoOut padata buf maxLen).len = sliceLen (count padata) maxLen
    ∧ (adataFifoOut padata buf maxLen).padata.pOut
      = (padata.pOut + sliceLen (count padata) maxLen) % adataBufLength
  := by
  unfold adataFifoOut count
  split
  · next hempty =>
      have hzero : sliceLen 0 maxLen = 0 := by
        rw [sliceLen, if_neg (by omega)]
        rfl
      rw [hzero, Int.add_zero, Int.emod_eq_of_lt h.pOut.1 h.pOut.2]
      exact ⟨rfl, rfl⟩
  · rcases takeOut_cases h hmax with ⟨-, heq⟩ | ⟨-, heq⟩
    · rw [heq]
      exact ⟨rfl, rfl⟩
    · rw [heq]
      exact ⟨rfl, rfl⟩

theorem Within.fifoOut (h : Within padata) (hmax : 0 ≤ maxLen) :
  Within (adataFifoOut padata buf maxLen).padata
  := by
  have hkeeps : (adataFifoOut padata buf maxLen).padata.pIn = padata.pIn
      ∧ (adataFifoOut padata buf maxLen).padata.buf = padata.buf := by
    unfold adataFifoOut
    split
    · exact ⟨rfl, rfl⟩
    · exact ⟨rfl, rfl⟩
  constructor
  · rw [hkeeps.1]
    apply h.pIn
  · rw [(adataFifoOut_spec h hmax).2]
    exact ⟨Int.emod_nonneg _ (by decide), Int.emod_lt_of_pos _ (by decide)⟩
  · rw [hkeeps.2]
    apply h.size

/-! ### The copies -/

/-- A copy of a number of bytes, which may be zero, that stays inside the ring and inside the
first `callerSize` bytes of the buffer of the caller. -/
structure Copy.Inside (callerSize : Int) (c : Copy) : Prop where
  len : 0 ≤ c.len
  ring : 0 ≤ c.ring ∧ c.ring + c.len ≤ adataBufLength
  caller : 0 ≤ c.caller ∧ c.caller + c.len ≤ callerSize

/-- The copies of `adata_fifo_in`, one or two, stay inside the ring and inside the `len` bytes of
the caller. -/
theorem adataFifoIn_inside
    (h : Within padata) (hlen : 0 ≤ len) (hmax : len ≤ adataBufLength) :
  ∀ c ∈ (adataFifoIn padata buf len).2, c.Inside len
  := by
  have hIn := h.pIn
  intro c hc
  simp only [adataFifoIn] at hc
  split at hc
  · rcases List.mem_pair.mp hc with rfl | rfl
    · constructor
      all_goals
        dsimp only
        omega
    · constructor
      all_goals
        dsimp only
        omega
  · obtain rfl := List.mem_singleton.mp hc
    constructor
    all_goals
      dsimp only
      omega

/-- The copies of `adata_fifo_out`, one or two, stay inside the ring and inside the `maxLen` bytes
of the caller. -/
theorem adataFifoOut_inside (h : Within padata) (hmax : 0 ≤ maxLen) :
  ∀ c ∈ (adataFifoOut padata buf maxLen).copies, c.Inside maxLen
  := by
  have hIn := h.pIn
  have hOut := h.pOut
  have hbetween := h.between_bounds
  have hbounds := sliceLen_bounds (Int.le_of_lt hbetween.1) hmax
  unfold adataFifoOut
  split
  · intro c hc
    contradiction
  · intro c hc
    rcases takeOut_cases h hmax with ⟨hend, heq⟩ | ⟨hend, heq⟩
    · rw [heq] at hc
      obtain rfl := List.mem_singleton.mp hc
      constructor
      all_goals
        dsimp only
        omega
    · rw [heq] at hc
      rcases List.mem_pair.mp hc with rfl | rfl
      · constructor
        all_goals
          dsimp only
          omega
      · constructor
        all_goals
          dsimp only
          omega

/-! ### Calls -/

/-- A call of `adata_fifo_in` with a block, or of `adata_fifo_out` with a buffer and the number of
bytes that are wanted. -/
inductive Call where
  | fifoIn (buf : List UInt8) (len : Int)
  | fifoOut (buf : List UInt8) (maxLen : Int)

/-- The number of bytes of its buffer that the caller allows to be used: `len` or `maxLen`. -/
def Call.callerSize : Call → Int
  | .fifoIn _ len => len
  | .fifoOut _ maxLen => maxLen

/-- The queue `padata` behind a call, be it one that puts a block in or one that takes slices
out. -/
def Call.next (padata : AudioData) : Call → AudioData
  | .fifoIn buf len => (adataFifoIn padata buf len).1
  | .fifoOut buf maxLen => (adataFifoOut padata buf maxLen).padata

/-- The copies that are made by a call on the queue `padata`, between the ring and the buffer of the
caller. -/
def Call.copies (padata : AudioData) : Call → List Copy
  | .fifoIn buf len => (adataFifoIn padata buf len).2
  | .fifoOut buf maxLen => (adataFifoOut padata buf maxLen).copies

/-- The number of bytes that a call on the queue `padata` delivers; none, if it puts a block in. -/
def Call.delivers (padata : AudioData) : Call → Int
  | .fifoIn _ _ => 0
  | .fifoOut buf maxLen => (adataFifoOut padata buf maxLen).len

/-- The lengths of a call are not negative, a block is at most as long as the ring, and `buf` has
the bytes that are allowed to be used. -/
def Call.Allowed : Call → Prop
  | .fifoIn buf len => 0 ≤ len ∧ len ≤ adataBufLength ∧ len ≤ buf.length
  | .fifoOut buf maxLen => 0 ≤ maxLen ∧ maxLen ≤ buf.length

theorem Within.next (h : Within padata) {c : Call} (hc : c.Allowed) :
  Within (c.next padata)
  := by
  cases c with
  | fifoIn buf len => apply h.fifoIn hc.1 hc.2.1 hc.2.2
  | fifoOut buf maxLen => apply h.fifoOut hc.1

/-- `audio_init` puts the positions into the ring, whatever was in `padata` before, if its buffer
has the size of the ring. -/
theorem Within.init (hsize : padata.buf.length = adataBufLength) :
  Within (audioInit padata)
  := ⟨⟨Int.le_refl 0, show (0 : Int) < adataBufLength by decide⟩,
    ⟨Int.le_refl 0, show (0 : Int) < adataBufLength by decide⟩, hsize⟩

/-- In every sequence of `calls`, with lengths that may be zero, the positions stay in the ring, all
copies stay inside the ring and the buffer of the caller, and a whole number of slices is delivered,
of at most the bytes that are wanted. -/
theorem fifo_in_bounds
    (hsize : padata.buf.length = adataBufLength) {calls : List Call}
    (hcalls : ∀ c ∈ calls, c.Allowed) {c : Call} (hc : c.Allowed) :
  let now := calls.foldl Call.next (audioInit padata)
  (0 ≤ now.pIn ∧ now.pIn < adataBufLength) ∧ (0 ≤ now.pOut ∧ now.pOut < adataBufLength)
    ∧ (∀ copy ∈ c.copies now, copy.Inside c.callerSize)
    ∧ 0 ≤ c.delivers now ∧ c.delivers now ≤ c.callerSize ∧ audioSilcSize ∣ c.delivers now
  := by
  have hnow : Within (calls.foldl Call.next (audioInit padata)) := by
    apply List.foldlRecOn
    · apply Within.init hsize
    · intro padata' h c hmem
      apply h.next (hcalls c hmem)
  refine ⟨hnow.pIn, hnow.pOut, ?_, ?_⟩
  · cases c with
    | fifoIn buf len => apply adataFifoIn_inside hnow hc.1 hc.2.1
    | fifoOut buf maxLen => apply adataFifoOut_inside hnow hc.1
  · cases c with
    | fifoIn buf len => exact ⟨Int.le_refl 0, hc.1, Int.dvd_zero _⟩
    | fifoOut buf maxLen =>
        have hbounds := sliceLen_bounds hnow.count_bounds.1 hc.1
        rw [← (@adataFifoOut_spec _ buf _ hnow hc.1).1] at hbounds
        exact ⟨hbounds.1, hbounds.2.2.1, hbounds.2.2.2⟩

/-- A queue as it is in cleared memory, before `audio_init`, with all of the ring's 4096 bytes
zero. -/
def newAudioData : AudioData := ⟨0, 0, .normal, List.replicate 4096 0⟩

theorem newAudioData_size : newAudioData.buf.length = adataBufLength := by
  rw [newAudioData, List.length_replicate]
  rfl

/-- A call that puts a block of `n` bytes into the queue, all of which are `0xff`. -/
def block (n : Nat) : Call := .fifoIn (List.replicate n 0xff) n

/-- A call that takes a slice of 160 bytes out of the queue, into a buffer of that length. -/
def slice : Call := .fifoOut (List.replicate 160 0) 160

theorem block_allowed {n : Nat} (h : n ≤ 4096) : (block n).Allowed := by
  refine ⟨Int.natCast_nonneg n, Int.ofNat_le.mpr h, ?_⟩
  rw [List.length_replicate]

theorem slice_allowed : slice.Allowed := by
  use by decide
  rw [List.length_replicate]
  decide

/-- The general `fifo_in_bounds` at a block of 200 bytes that reaches around the end of the ring and
is copied in two parts. -/
theorem fifo_in_bounds_around :
  (∀ copy ∈ (block 200).copies ([block 4000, slice].foldl Call.next (audioInit newAudioData)),
      copy.Inside 200)
    ∧ ((block 200).copies ([block 4000, slice].foldl Call.next (audioInit newAudioData))).length = 2
  := by
  have hcalls : ∀ c ∈ [block 4000, slice], c.Allowed := by
    intro c hc
    rcases List.mem_pair.mp hc with rfl | rfl
    · apply block_allowed (by decide)
    · apply slice_allowed
  constructor
  · apply (fifo_in_bounds newAudioData_size hcalls (block_allowed (n := 200) (by decide))).2.2.1
  · decide +kernel

/-! ### The queue of bytes -/

/-- The bytes in the queue, the oldest one first: `count` of them from `pOut` on, around the end of
the ring. -/
def contents (padata : AudioData) : List UInt8 :=
  Ring.read padata.buf padata.pOut.toNat (count padata).toNat

/-- The ring is full of bytes that are to be read: `stat` says so, and the positions are the
same. -/
def Filled (padata : AudioData) : Prop := padata.stat = .full ∧ padata.pIn = padata.pOut

/-- The flag `stat` agrees with the positions: they are the same in an empty queue, and differ in
one that is neither empty nor full. -/
structure Sound (padata : AudioData) : Prop extends Within padata where
  emtye : padata.stat = .emtye → padata.pIn = padata.pOut
  normal : padata.stat = .normal → padata.pIn ≠ padata.pOut

/-- In a queue whose flag agrees with the positions, `pIn` is `count` bytes ahead of `pOut`. -/
theorem Sound.pIn_eq (h : Sound padata) :
  padata.pIn = (padata.pOut + count padata) % adataBufLength
  := by
  have hIn := h.pIn
  have hOut := h.pOut
  unfold count between
  unfold adataBufLength at *
  split
  · next hempty =>
      have heq := h.emtye hempty
      omega
  · split
    · omega
    · omega

/-- Where the positions `pIn` and `pOut` are the same, the room is computed to be the whole ring,
and so is what is between them. -/
theorem room_of_eq (h : padata.pIn = padata.pOut) :
  room padata = adataBufLength ∧ between padata = adataBufLength
  := by
  rw [room, between, h, if_neg (Int.lt_irrefl _), if_neg (Int.lt_irrefl _)]
  omega

theorem Within.room_of_ne (h : Within padata) (hne : padata.pIn ≠ padata.pOut) :
  room padata = adataBufLength - between padata ∧ between padata < adataBufLength
  := by
  have hIn := h.pIn
  have hOut := h.pOut
  unfold room between
  split
  · rw [if_neg (by omega)]
    omega
  · rw [if_pos (by omega)]
    omega

/-- The room for a block is what the `count` bytes in the queue leave of the ring; but for a full
ring, where it is computed to be all of it. -/
theorem Sound.room_eq (h : Sound padata) :
  (Filled padata → room padata = adataBufLength ∧ count padata = adataBufLength)
    ∧ (¬ Filled padata → room padata = adataBufLength - count padata ∧ count padata < adataBufLength)
  := by
  constructor
  · rintro ⟨hstat, heq⟩
    rw [count, hstat, if_neg (by decide)]
    apply room_of_eq heq
  · intro hfilled
    cases hstat : padata.stat with
    | emtye =>
        rw [count, if_pos hstat, (room_of_eq (h.emtye hstat)).1]
        exact ⟨rfl, by decide⟩
    | normal =>
        rw [count, hstat, if_neg (by decide)]
        apply h.room_of_ne (h.normal hstat)
    | full =>
        rw [count, hstat, if_neg (by decide)]
        apply h.room_of_ne
        intro heq
        apply hfilled ⟨hstat, heq⟩

theorem Sound.contents_length (h : Sound padata) :
  (contents padata).length = (count padata).toNat
  := by
  have hcount := h.count_bounds
  have hsize := h.size
  apply Ring.length_read
  omega

/-- If `pIn` is `n` bytes ahead of `pOut`, from one byte up to the whole ring, then `between` is
that number. -/
theorem between_ahead
    {n : Int} (hOut : 0 ≤ padata.pOut ∧ padata.pOut < adataBufLength)
    (hIn : padata.pIn = (padata.pOut + n) % adataBufLength) (hpos : 0 < n)
    (hle : n ≤ adataBufLength) :
  between padata = n
  := by
  unfold between
  unfold adataBufLength at *
  split
  · omega
  · omega

/-! ### A block -/

/-- A block keeps the flag in agreement with the positions, and there are as many bytes as before
and those of the block, up to the size of the ring; but a ring that is `Filled` is taken to be
empty. -/
theorem Sound.fifoIn
    (h : Sound padata) (hlen : 0 < len) (hmax : len ≤ adataBufLength) (hbuf : len ≤ buf.length) :
  Sound (adataFifoIn padata buf len).1 ∧
    (¬ Filled padata ∧ count padata + len < adataBufLength
        ∧ count (adataFifoIn padata buf len).1 = count padata + len
        ∧ (adataFifoIn padata buf len).1.pOut = padata.pOut
      ∨ Filled padata ∧ len < adataBufLength ∧ count (adataFifoIn padata buf len).1 = len
      ∨ (Filled padata → len = adataBufLength) ∧ adataBufLength ≤ count padata + len
        ∧ count (adataFifoIn padata buf len).1 = adataBufLength
        ∧ (adataFifoIn padata buf len).1.pOut = (adataFifoIn padata buf len).1.pIn)
  := by
  have hwithin := h.toWithin.fifoIn (Int.le_of_lt hlen) hmax hbuf
  have hcount := h.count_bounds
  have hIn : (adataFifoIn padata buf len).1.pIn
      = (padata.pOut + (count padata + len)) % adataBufLength := by
    rw [adataFifoIn_pIn h.toWithin (Int.le_of_lt hlen)]
    conv_lhs => rw [h.pIn_eq]
    rw [Int.emod_add_emod, Int.add_assoc]
  rcases adataFifoIn_cases padata buf len with ⟨hroom, hstat, hOut⟩ | ⟨hroom, hstat, hOut⟩
  · rw [← hOut] at hIn
    have hbetween (n : Int) (hpos : 0 < n) (hlt : n < adataBufLength)
        (hn : (adataFifoIn padata buf len).1.pIn
          = ((adataFifoIn padata buf len).1.pOut + n) % adataBufLength) :
        Sound (adataFifoIn padata buf len).1 ∧ count (adataFifoIn padata buf len).1 = n := by
      have heq := between_ahead hwithin.pOut hn hpos (Int.le_of_lt hlt)
      refine ⟨⟨hwithin, ?_, ?_⟩, ?_⟩
      · rw [hstat]
        intro hempty
        contradiction
      · intro _ hsame
        have hall := (room_of_eq hsame).2
        omega
      · rw [count, hstat, if_neg (by decide), heq]
    by_cases hfilled : Filled padata
    · obtain ⟨hroom', hall⟩ := h.room_eq.1 hfilled
      rw [hroom'] at hroom
      rw [hall, Int.add_comm adataBufLength, ← Int.add_assoc, Int.add_emod_right] at hIn
      obtain ⟨hsound, hcount'⟩ := hbetween len hlen hroom hIn
      exact ⟨hsound, Or.inr (Or.inl ⟨hfilled, hroom, hcount'⟩)⟩
    · obtain ⟨hroom', hlt⟩ := h.room_eq.2 hfilled
      obtain ⟨hsound, hcount'⟩ := hbetween (count padata + len) (by omega) (by omega) hIn
      exact ⟨hsound, Or.inl ⟨hfilled, by omega, hcount', hOut⟩⟩
  · have hall := room_of_eq hOut.symm
    refine ⟨⟨hwithin, ?_, ?_⟩, Or.inr (Or.inr ⟨?_, ?_, ?_, hOut⟩)⟩
    · intro _
      apply hOut.symm
    · rw [hstat]
      intro hnormal
      contradiction
    · intro hfilled
      have hroom' := h.room_eq.1 hfilled
      omega
    · by_cases hfilled : Filled padata
      · have hroom' := h.room_eq.1 hfilled
        omega
      · have hroom' := h.room_eq.2 hfilled
        omega
    · rw [count, hstat, if_neg (by decide), hall.2]

/-- The place in the ring that is `n` bytes behind the place `p`, computed with natural numbers. -/
theorem toNat_place {p n : Int} (hp : 0 ≤ p) (hn : 0 ≤ n) :
  ((p + n) % adataBufLength).toNat = (p.toNat + n.toNat) % 4096
  := by
  unfold adataBufLength
  omega

/-- A block is appended to the bytes in the queue, and the oldest ones are lost where they are too
many; but for a ring that is `Filled`, unless the block is as long as the ring. -/
theorem Sound.contents_fifoIn
    (h : Sound padata) (hlen : 0 < len) (hmax : len ≤ adataBufLength) (hbuf : len ≤ buf.length)
    (hfits : Filled padata → len = adataBufLength) :
  contents (adataFifoIn padata buf len).1
    = (contents padata ++ buf.take len.toNat).rtake adataBufLength.toNat
  := by
  have hcount := h.count_bounds
  have hOut := h.pOut
  have hN : adataBufLength = 4096 := rfl
  have hsize : padata.buf.length = 4096 := Int.ofNat.inj h.size
  have hblock : (buf.take len.toNat).length = len.toNat := by
    rw [List.length_take]
    omega
  have hIn : padata.pIn.toNat
      = (padata.pOut.toNat + (count padata).toNat) % padata.buf.length := by
    rw [hsize, ← toNat_place hOut.1 hcount.1, ← h.pIn_eq]
  have hring : (adataFifoIn padata buf len).1.buf = Ring.write padata.buf
      ((padata.pOut.toNat + (count padata).toNat) % padata.buf.length) (buf.take len.toNat) := by
    rw [← hIn, adataFifoIn_buf h.toWithin (Int.le_of_lt hlen) hbuf]
  obtain ⟨-, ⟨-, hlt, hcount', hOut'⟩ | ⟨hfilled, hlt, -⟩ | ⟨-, hle, hcount', hOut'⟩⟩ :=
    h.fifoIn hlen hmax hbuf
  · -- there is room for the block
    have hsum : (count padata + len).toNat
        = (count padata).toNat + (buf.take len.toNat).length := by omega
    have hall : (contents padata ++ buf.take len.toNat).length ≤ adataBufLength.toNat := by
      rw [List.length_append, h.contents_length]
      omega
    rw [contents, hring, hOut', hcount', hsum, Ring.read_write (by omega) (by omega), List.rtake,
      Nat.sub_eq_zero_of_le hall, List.drop_zero]
    rfl
  · -- a full ring that takes a whole block
    have heq := hfits hfilled
    omega
  · -- the oldest bytes are lost
    have hIn' : (adataFifoIn padata buf len).1.pIn.toNat
        = (padata.pOut.toNat + (count padata).toNat + (buf.take len.toNat).length)
          % padata.buf.length := by
      rw [adataFifoIn_pIn h.toWithin (Int.le_of_lt hlen),
        toNat_place h.pIn.1 (Int.le_of_lt hlen), hIn, hblock, hsize, Nat.mod_add_mod]
    rw [contents, hring, hOut', hIn', hcount', show adataBufLength.toNat = padata.buf.length by omega,
      Ring.read_overwrite (by omega) (by omega) (by omega) (by omega)]
    rfl

/-- A ring that is `Filled` and takes a block shorter than itself loses more of its `contents` than
it has to. -/
theorem Sound.contents_filled
    (h : Sound padata) (hlen : 0 < len) (hbuf : len ≤ buf.length) (hfilled : Filled padata)
    (hlt : len < adataBufLength) :
  contents (adataFifoIn padata buf len).1
    ≠ (contents padata ++ buf.take len.toNat).rtake adataBufLength.toNat
  := by
  obtain ⟨hsound, hcases⟩ := h.fifoIn hlen (Int.le_of_lt hlt) hbuf
  have hall := (h.room_eq.1 hfilled).2
  intro heq
  have hlength := congrArg List.length heq
  rw [hsound.contents_length, List.rtake, List.length_drop, List.length_append, h.contents_length,
    hall, List.length_take] at hlength
  rcases hcases with ⟨hnot, -⟩ | ⟨-, -, hcount'⟩ | ⟨hfits, -⟩
  · apply hnot hfilled
  · omega
  · have heq := hfits hfilled
    omega

/-! ### Slices -/

/-- What the caller of `adata_fifo_out` finds in its buffer are the bytes of the ring from `pOut`
on. -/
theorem Within.delivered (h : Within padata) (hmax : 0 ≤ maxLen) :
  (adataFifoOut padata buf maxLen).buf.take (adataFifoOut padata buf maxLen).len.toNat
    = Ring.read padata.buf padata.pOut.toNat (adataFifoOut padata buf maxLen).len.toNat
  := by
  have hN : adataBufLength = 4096 := rfl
  have hsize := h.size
  have hOut := h.pOut
  have hbounds := sliceLen_bounds (Int.le_of_lt h.between_bounds.1) hmax
  have hbetween := h.between_bounds
  unfold adataFifoOut
  split
  · rfl
  · rcases takeOut_cases h hmax with ⟨hend, heq⟩ | ⟨hend, heq⟩
    · rw [heq]
      have hlength : ((padata.buf.drop padata.pOut.toNat).take
          (sliceLen (between padata) maxLen).toNat).length
          = (sliceLen (between padata) maxLen).toNat := by
        rw [List.length_take, List.length_drop]
        omega
      have htake := Ring.take_splice buf ((padata.buf.drop padata.pOut.toNat).take
        (sliceLen (between padata) maxLen).toNat)
      rw [hlength] at htake
      rw [Ring.read_of_le (by dsimp only; omega)]
      apply htake
    · rw [heq]
      have hfront : ((padata.buf.drop padata.pOut.toNat).take
          (adataBufLength - padata.pOut).toNat) = padata.buf.drop padata.pOut.toNat := by
        apply List.take_of_length_le
        rw [List.length_drop]
        omega
      have hlength : (padata.buf.drop padata.pOut.toNat).length
          = (adataBufLength - padata.pOut).toNat := by
        rw [List.length_drop]
        omega
      have hback : (padata.buf.take
          (padata.pOut + sliceLen (between padata) maxLen - adataBufLength).toNat).length
          = (padata.pOut + sliceLen (between padata) maxLen - adataBufLength).toNat := by
        rw [List.length_take]
        omega
      have htake := Ring.take_splice_splice buf (padata.buf.drop padata.pOut.toNat)
        (padata.buf.take (padata.pOut + sliceLen (between padata) maxLen - adataBufLength).toNat)
      have hsum : (sliceLen (between padata) maxLen).toNat
          = (adataBufLength - padata.pOut).toNat
            + (padata.pOut + sliceLen (between padata) maxLen - adataBufLength).toNat := by omega
      rw [hlength, hback, ← hsum] at htake
      have hplace : padata.pOut.toNat + (sliceLen (between padata) maxLen).toNat
          - padata.buf.length
          = (padata.pOut + sliceLen (between padata) maxLen - adataBufLength).toNat := by omega
      rw [Ring.read_of_gt (by omega) (by dsimp only; omega) (by dsimp only; omega)]
      simp only [List.foldl_cons, List.foldl_nil, Copy.toCaller, hfront, hplace]
      apply htake

/-- Taking out at least one slice leaves the flag in agreement with the positions, and takes as many
bytes away as `sliceLen` says. -/
theorem Sound.fifoOut (h : Sound padata) (hmax : audioSilcSize ≤ maxLen) :
  Sound (adataFifoOut padata buf maxLen).padata
    ∧ count (adataFifoOut padata buf maxLen).padata
      = count padata - sliceLen (count padata) maxLen
  := by
  have hN : adataBufLength = 4096 := rfl
  have hS : audioSilcSize = 160 := rfl
  have hmax' : 0 ≤ maxLen := by omega
  have hwithin : Within (adataFifoOut padata buf maxLen).padata := h.toWithin.fifoOut hmax'
  obtain ⟨-, hpOut⟩ := @adataFifoOut_spec _ buf _ h.toWithin hmax'
  have hbounds := sliceLen_bounds h.count_bounds.1 hmax'
  have hcount := h.count_bounds
  by_cases hempty : padata.stat = .emtye
  · have hsame : (adataFifoOut padata buf maxLen).padata = padata := by
      rw [adataFifoOut, if_pos hempty]
    have hzero : count padata = 0 := if_pos hempty
    rw [hsame]
    use h
    omega
  · have hIn : (adataFifoOut padata buf maxLen).padata.pIn = padata.pIn := by
      rw [adataFifoOut, if_neg hempty]
    have hstat : (adataFifoOut padata buf maxLen).padata.stat
        = if padata.pIn = (adataFifoOut padata buf maxLen).padata.pOut then .emtye
          else padata.stat := by
      rw [adataFifoOut, if_neg hempty]
    have hahead : padata.pIn = ((adataFifoOut padata buf maxLen).padata.pOut
        + (count padata - sliceLen (count padata) maxLen)) % adataBufLength := by
      rw [hpOut, Int.emod_add_emod, h.pIn_eq]
      congr 1
      omega
    by_cases hrest : count padata = sliceLen (count padata) maxLen
    · -- everything is taken out
      have hsame : padata.pIn = (adataFifoOut padata buf maxLen).padata.pOut := by
        rw [hahead, ← hrest, Int.sub_self, Int.add_zero,
          Int.emod_eq_of_lt hwithin.pOut.1 hwithin.pOut.2]
      rw [if_pos hsame] at hstat
      refine ⟨⟨hwithin, ?_, ?_⟩, ?_⟩
      · intro _
        rw [hIn, hsame]
      · rw [hstat]
        intro hnormal
        contradiction
      · rw [count, if_pos hstat, ← hrest, Int.sub_self]
    · -- a full ring has at least one slice
      have hslice : count padata = adataBufLength → 0 < sliceLen (count padata) maxLen := by
        intro hall
        rw [hall, sliceLen]
        split
        · rw [Int.tdiv_eq_ediv_of_nonneg hmax', hS]
          omega
        · decide
      have hbetween := @between_ahead (adataFifoOut padata buf maxLen).padata _
        hwithin.pOut (hIn.trans hahead) (by omega) (by omega)
      have hne : padata.pIn ≠ (adataFifoOut padata buf maxLen).padata.pOut := by
        intro hsame
        have hall := (room_of_eq (hIn.trans hsame)).2
        omega
      rw [if_neg hne] at hstat
      refine ⟨⟨hwithin, ?_, ?_⟩, ?_⟩
      · rw [hstat]
        intro hempty'
        contradiction
      · rw [hIn]
        intro _
        apply hne
      · rw [count, hstat, if_neg hempty, hbetween]

/-- What `adata_fifo_out` delivers are the oldest bytes in the queue, and the others stay there in
their order. -/
theorem Sound.contents_fifoOut (h : Sound padata) (hmax : audioSilcSize ≤ maxLen) :
  let n := (sliceLen (count padata) maxLen).toNat
  (adataFifoOut padata buf maxLen).buf.take (adataFifoOut padata buf maxLen).len.toNat
      = (contents padata).take n
    ∧ contents (adataFifoOut padata buf maxLen).padata = (contents padata).drop n
  := by
  intro n
  have hN : adataBufLength = 4096 := rfl
  have hS : audioSilcSize = 160 := rfl
  have hmax' : 0 ≤ maxLen := by omega
  have hsize := h.size
  have hcount := h.count_bounds
  have hbounds := sliceLen_bounds h.count_bounds.1 hmax'
  obtain ⟨hlen, hpOut⟩ := @adataFifoOut_spec _ buf _ h.toWithin hmax'
  have hring : (adataFifoOut padata buf maxLen).padata.buf = padata.buf := by
    unfold adataFifoOut
    split
    · rfl
    · rfl
  have hsplit : contents padata = Ring.read padata.buf padata.pOut.toNat n
      ++ Ring.read padata.buf (padata.pOut.toNat + n) ((count padata).toNat - n) := by
    rw [← Ring.read_add (by omega), contents]
    congr 1
    omega
  have hfront : (Ring.read padata.buf padata.pOut.toNat n).length = n := by
    apply Ring.length_read
    omega
  constructor
  · rw [h.toWithin.delivered hmax', hlen, hsplit, List.take_left' hfront]
  · have hplace : (adataFifoOut padata buf maxLen).padata.pOut.toNat
        = (padata.pOut.toNat + n) % padata.buf.length := by
      have hOut := h.pOut
      have hsize' : padata.buf.length = 4096 := Int.ofNat.inj hsize
      rw [hpOut, hsize', hN]
      omega
    have hrest : (count padata - sliceLen (count padata) maxLen).toNat
        = (count padata).toNat - n := by omega
    rw [hsplit, List.drop_left' hfront, contents, hring, (h.fifoOut hmax).2, hplace, hrest,
      Ring.read_mod]

/-! ### Refinement -/

/-- The queue of `rtspd.c` in `padata`, beside the `queue` that it is to be, and what the two have
delivered so far. -/
structure Paired where
  padata : AudioData
  queue : List UInt8
  delivered : List (List UInt8 × List UInt8)

/-- The number of bytes that are to be delivered: the largest multiple of `AUDIO_SILC_SIZE` that is
neither above the number of bytes wanted nor above that of the bytes in the queue. -/
def wholeSlices (maxLen available : Nat) : Nat :=
  min maxLen available / audioSilcSize.toNat * audioSilcSize.toNat

/-- A call on both queues.  A block is appended to the bounded one, which loses its oldest bytes
where it exceeds `ADATA_BUF_LENGTH`. -/
def pairedStep (w : Paired) : Call → Option Paired
  | .fifoIn buf len => some { w with
      padata := (adataFifoIn w.padata buf len).1
      queue := (w.queue ++ buf.take len.toNat).rtake adataBufLength.toNat }
  | .fifoOut buf maxLen =>
      let taken := adataFifoOut w.padata buf maxLen
      let n := wholeSlices maxLen.toNat w.queue.length
      some {
        padata := taken.padata
        queue := w.queue.drop n
        delivered := (taken.buf.take taken.len.toNat, w.queue.take n) :: w.delivered }

/-- The calls that are made by `rtspd.c`: blocks are not empty and not longer than the ring, and at
least one slice is wanted. -/
def Call.Usual : Call → Prop
  | .fifoIn buf len => 0 < len ∧ len ≤ adataBufLength ∧ len ≤ buf.length
  | .fifoOut buf maxLen => audioSilcSize ≤ maxLen ∧ maxLen ≤ buf.length

instance : DecidablePred Call.Usual
  | .fifoIn buf len =>
      inferInstanceAs (Decidable (0 < len ∧ len ≤ adataBufLength ∧ len ≤ buf.length))
  | .fifoOut buf maxLen => inferInstanceAs (Decidable (audioSilcSize ≤ maxLen ∧ maxLen ≤ buf.length))

/-- The two queues of `w` hold the same bytes in the same order, and all that they have delivered is
the same. -/
structure Agrees (w : Paired) : Prop where
  queue : contents w.padata = w.queue
  delivered : ∀ d ∈ w.delivered, d.1 = d.2

/-- The call puts no block that is shorter than the ring into the ring of `padata` while this is
full. -/
def Call.Fits (padata : AudioData) : Call → Prop
  | .fifoIn _ len => Filled padata → len = adataBufLength
  | .fifoOut _ _ => True

theorem wholeSlices_eq (hlen : 0 ≤ len) (hmax : 0 ≤ maxLen) :
  wholeSlices maxLen.toNat len.toNat = (sliceLen len maxLen).toNat
  := by
  have hS : audioSilcSize = 160 := rfl
  have hS' : audioSilcSize.toNat = 160 := rfl
  rw [wholeSlices, sliceLen, hS', hS]
  split
  · rw [Int.tdiv_eq_ediv_of_nonneg hmax]
    omega
  · rw [Int.tdiv_eq_ediv_of_nonneg hlen]
    omega

variable {w w' : Paired} {c : Call}

/-- A call that `rtspd.c` makes keeps the flag of its queue in agreement with the positions. -/
theorem Sound.step (h : Sound w.padata) (hc : c.Usual) (hstep : pairedStep w c = some w') :
  Sound w'.padata
  := by
  cases c with
  | fifoIn buf len =>
      obtain rfl := Option.some.inj hstep
      apply (h.fifoIn hc.1 hc.2.1 hc.2.2).1
  | fifoOut buf maxLen =>
      obtain rfl := Option.some.inj hstep
      apply (h.fifoOut hc.1).1

/-- If the two queues agree, then they do so behind the call `c` exactly if it puts no block that is
shorter than the ring into a full ring. -/
theorem Agrees.step_iff
    (h : Agrees w) (hsound : Sound w.padata) (hc : c.Usual) (hstep : pairedStep w c = some w') :
  Agrees w' ↔ c.Fits w.padata
  := by
  cases c with
  | fifoIn buf len =>
      obtain rfl := Option.some.inj hstep
      constructor
      · intro hagrees hfilled
        by_contra hne
        apply hsound.contents_filled hc.1 hc.2.2 hfilled (Int.lt_iff_le_and_ne.mpr ⟨hc.2.1, hne⟩)
        rw [hagrees.queue, h.queue]
      · intro hfits
        constructor
        · rw [hsound.contents_fifoIn hc.1 hc.2.1 hc.2.2 hfits, h.queue]
        · apply h.delivered
  | fifoOut buf maxLen =>
      obtain rfl := Option.some.inj hstep
      have hmax : 0 ≤ maxLen := Int.le_trans (by decide) hc.1
      obtain ⟨htaken, hrest⟩ := @Sound.contents_fifoOut _ buf _ hsound hc.1
      have hn : wholeSlices maxLen.toNat w.queue.length
          = (sliceLen (count w.padata) maxLen).toNat := by
        rw [← h.queue, hsound.contents_length, wholeSlices_eq hsound.count_bounds.1 hmax]
      apply iff_of_true _ trivial
      constructor
      · rw [hrest, hn, h.queue]
      · intro d hd
        rcases List.mem_cons.mp hd with rfl | hd
        · rw [htaken, hn, h.queue]
        · apply h.delivered d hd

/-- In every sequence of calls, from the state set by `audio_init` on, the queue holds and delivers
what the bounded queue does, in every state reached, exactly if no block that is shorter than the
ring is put into the ring while it is full. -/
theorem fifo_refines_iff
    (hsize : padata.buf.length = adataBufLength) {calls : List Call}
    (hrun : Run pairedStep (fun _ c => c.Usual) ⟨audioInit padata, [], []⟩ calls w) :
  (∀ pre post u, calls = pre ++ post →
      Run pairedStep (fun _ c => c.Usual) ⟨audioInit padata, [], []⟩ pre u → Agrees u)
    ↔ Run pairedStep (fun u c => c.Fits u.padata) ⟨audioInit padata, [], []⟩ calls w
  := by
  have hinit : Sound (audioInit padata) := by
    refine ⟨Within.init hsize, fun _ => rfl, ?_⟩
    intro hnormal
    contradiction
  have hsound {pre : List Call} {u : Paired}
      (hpre : Run pairedStep (fun _ c => c.Usual) ⟨audioInit padata, [], []⟩ pre u) :
      Sound u.padata :=
    hpre.invariant (I := fun u => Sound u.padata) (fun _ _ _ h hc hstep => h.step hc hstep) hinit
  rw [← Run.forall_prefix_iff (I := fun u => Sound u.padata ∧ Agrees u) _ hrun]
  · constructor
    · intro h pre post u heq hpre
      exact ⟨hsound hpre, h pre post u heq hpre⟩
    · intro h pre post u heq hpre
      apply (h pre post u heq hpre).2
  · refine ⟨hinit, rfl, ?_⟩
    intro d hd
    contradiction
  · rintro u c u' ⟨hu, hagrees⟩ hc hstep
    rw [← hagrees.step_iff hu hc hstep]
    apply and_iff_right (hu.step hc hstep)

/-- The general `fifo_refines_iff` at a sequence of blocks and slices that reaches around the end of
the ring. -/
theorem fifo_refines_iff_around :
  ∃ w, w.delivered.length = 3 ∧
    ((∀ pre post u, [block 4000, slice, block 200, slice, slice] = pre ++ post →
        Run pairedStep (fun _ c => c.Usual) ⟨audioInit newAudioData, [], []⟩ pre u → Agrees u)
      ↔ Run pairedStep (fun u c => c.Fits u.padata) ⟨audioInit newAudioData, [], []⟩
          [block 4000, slice, block 200, slice, slice] w)
  := by
  obtain ⟨w, hrun, hw⟩ := Run.exists_of_exec pairedStep (fun _ c => c.Usual)
    ⟨audioInit newAudioData, [], []⟩ (fun w => w.delivered.length == 3)
    [block 4000, slice, block 200, slice, slice] (by decide +kernel)
  use w
  constructor
  · simpa using hw
  · apply fifo_refines_iff newAudioData_size hrun

/-- A single byte that is put into a full ring is all that is left of it: the slice that is wanted
next is not delivered, where a `queue` delivers 160 bytes. -/
theorem fifo_not_refines :
  ∃ w, Run pairedStep (fun _ c => c.Usual) ⟨audioInit newAudioData, [], []⟩
      [block 4096, block 1, slice] w
    ∧ w.delivered = [([], List.replicate 160 0xff)]
  := by
  obtain ⟨w, hrun, hw⟩ := Run.exists_of_exec pairedStep (fun _ c => c.Usual)
    ⟨audioInit newAudioData, [], []⟩ (fun w => w.delivered == [([], List.replicate 160 0xff)])
    [block 4096, block 1, slice] (by decide +kernel)
  exact ⟨w, hrun, beq_iff_eq.mp hw⟩

end Rtspd.Audio
