import Avserver.Rtspd.AudioBlock

/-!
# A block of audio that is played

`put_audio_data` gets a block of samples of 16 bits of one channel, and writes it to the sound
device as frames of two channels, with the samples on the right and silence on the left.  The loop
that puts the frames together counts to the number of bytes of the block, but a round of it is for
a sample of two bytes.  So it reads twice as many bytes as the block has, whatever the block
(`put_audio_data_iff`).  With as many bytes to read, and a buffer of four times the size, the
frames that are written are the right ones (`put_audio_data_plays`).
-/

namespace Rtspd.Audio

open Library

/-! ### The sound device -/

/-- The variables of the sound device, as `audio_out_init` and `put_audio_data` use them. -/
structure SoundOut where
  audioFd : Int
  ablkSize : Nat
  paudioFd : Int
  paudioInit : Int
  /-- `play_data`, if it is not `NULL` -/
  playData : Option (List UInt8)

/-- What the calls of `audio_out_init` yield, and its `return` without a value. -/
structure SoundCalls where
  /-- the result of `open` -/
  opened : Int
  /-- what `malloc` yields, if it does not fail -/
  malloc : Option (List UInt8)
  /-- what is returned by a `return` without a value -/
  unspecified : Int

/-- `audio_out_init` -/
def audioOutInit (c : SoundCalls) (s : SoundOut) : Int × SoundOut :=
  if s.audioFd < 0 ∨ s.ablkSize = 0 then (c.unspecified, s)
  else if s.paudioFd = -1 then
    if c.opened < 0 then (0, { s with paudioFd := c.opened })
    else
      match c.malloc with
      | some buf => (0, { s with paudioFd := c.opened, playData := some buf })
      | none => (-1, { s with paudioFd := -1, playData := none })
  else (0, s)

/-- The start of `put_audio_data`, which sets up the device if that has not been done; `none`, if
that fails. -/
def startPlay (c : SoundCalls) (s : SoundOut) : Option SoundOut :=
  if s.paudioInit ≠ 1 then
    if (audioOutInit c s).1 = 0 then some { (audioOutInit c s).2 with paudioInit := 1 } else none
  else some s

/-! ### The block -/

/-- A round of the loop in `put_audio_data`: `pDst` has gone over the sample on the left when it
is written to. -/
def playRound (pbuf playData : List UInt8) (idx : Nat) : Option (List UInt8) := do
  let lo ← Buffer.load pbuf (2 * idx)
  let hi ← Buffer.load pbuf (2 * idx + 1)
  let playData ← Buffer.store playData (4 * idx + 2) lo
  Buffer.store playData (4 * idx + 3) hi

/-- `memset(play_data, 0, ablk_size)` -/
def silence (playData : List UInt8) (ablkSize : Nat) : Option (List UInt8) :=
  if ablkSize ≤ playData.length then
    some (List.replicate ablkSize 0 ++ playData.drop ablkSize)
  else none

/-- The loop of `put_audio_data` over the block `pbuf`, whose bound is the number of bytes of the
block. -/
def playLoop (pbuf playData : List UInt8) (dataLen : Nat) : Option (List UInt8) :=
  (List.range dataLen).foldlM (playRound pbuf) playData

/-- The bytes that are written to the device for the block in `pbuf`; `none`, if a buffer is
left. -/
def playBlock (pbuf : List UInt8) (dataLen : Nat) (s : SoundOut) : Option (List UInt8) := do
  let playData ← s.playData
  let playData ← silence playData s.ablkSize
  let playData ← playLoop pbuf playData dataLen
  if dataLen <<< 1 ≤ playData.length then some (playData.take (dataLen <<< 1)) else none

/-- `put_audio_data` of the `dataLen` bytes in `pbuf`: what is written to the device, if anything
is; none, if a buffer is left. -/
def putAudioData (c : SoundCalls) (pbuf : List UInt8) (dataLen : Nat) (s : SoundOut) :
    Option (Option (List UInt8)) :=
  match startPlay c s with
  | some s => (playBlock pbuf dataLen s).map some
  | none => some none

variable {pbuf playData playData' : List UInt8} {k n size : Nat} {c : SoundCalls}
  {s s₁ : SoundOut}

/-- Behind `k` rounds, the first `k` frames have the samples on the right; there is silence on the
left of all. -/
structure Framed (pbuf : List UInt8) (size k : Nat) (playData : List UInt8) : Prop where
  length : playData.length = size
  lo : ∀ j < k, playData[4 * j + 2]? = pbuf[2 * j]?
  hi : ∀ j < k, playData[4 * j + 3]? = pbuf[2 * j + 1]?
  left : ∀ j, 4 * j + 1 < size → playData[4 * j]? = some 0 ∧ playData[4 * j + 1]? = some 0

/-- A buffer of `n` bytes that has been silenced is one before the first round. -/
theorem Framed.silent (pbuf : List UInt8) (n : Nat) : Framed pbuf n 0 (List.replicate n 0) := by
  constructor
  · apply List.length_replicate
  · intro j hj
    omega
  · intro j hj
    omega
  · intro j hj
    rw [List.getElem?_replicate_of_lt (by omega), List.getElem?_replicate_of_lt hj]
    exact ⟨rfl, rfl⟩

/-- A round `k` that stays inside `pbuf` and `playData` puts the next frame together. -/
theorem Framed.round
    (h : Framed pbuf size k playData) (hread : 2 * k + 1 < pbuf.length) (hwrite : 4 * k + 3 < size) :
  ∃ playData', playRound pbuf playData k = some playData' ∧ Framed pbuf size (k + 1) playData'
  := by
  have hsize := h.length
  have hlo : 4 * k + 2 < playData.length := by omega
  have hhi : 4 * k + 3 < (playData.set (4 * k + 2) pbuf[2 * k]).length := by
    rw [List.length_set]
    omega
  refine ⟨(playData.set (4 * k + 2) pbuf[2 * k]).set (4 * k + 3) pbuf[2 * k + 1],
    ?_, ?_, ?_, ?_, ?_⟩
  · rw [playRound, Buffer.load_eq (by omega), Buffer.load_eq hread]
    simp only [Option.bind_eq_bind, Option.bind_some, Buffer.store_eq hlo, Buffer.store_eq hhi]
  · rw [List.length_set, List.length_set, hsize]
  · intro j hj
    rw [Buffer.getElem?_set_eq hhi, Buffer.getElem?_set_eq hlo, if_neg (by omega)]
    split
    · next heq =>
        obtain rfl : j = k := by omega
        rw [List.getElem?_eq_getElem]
    · next hne => apply h.lo j (by omega)
  · intro j hj
    rw [Buffer.getElem?_set_eq hhi, Buffer.getElem?_set_eq hlo]
    split
    · next heq =>
        obtain rfl : j = k := by omega
        rw [List.getElem?_eq_getElem hread]
    · next hne =>
        rw [if_neg (by omega)]
        apply h.hi j (by omega)
  · intro j hj
    rw [Buffer.getElem?_set_eq hhi, Buffer.getElem?_set_eq hlo, if_neg (by omega),
      if_neg (by omega), Buffer.getElem?_set_eq hhi, Buffer.getElem?_set_eq hlo,
      if_neg (by omega), if_neg (by omega)]
    apply h.left j hj

/-- If there are enough bytes to read and to write for its `n` rounds, the loop puts the frames
together. -/
theorem playLoop_framed
    (h : Framed pbuf size 0 playData) (hread : 2 * n ≤ pbuf.length) (hwrite : 4 * n ≤ size) :
  ∃ playData', playLoop pbuf playData n = some playData' ∧ Framed pbuf size n playData'
  := by
  apply Buffer.loop (P := fun k => Framed pbuf size k) h
  intro k playData hk h
  apply h.round
  · omega
  · omega

/-- A loop of `n` rounds that stays inside of the block `pbuf` has twice as many bytes to read. -/
theorem read_of_playLoop (h : playLoop pbuf playData n = some playData') :
  2 * n ≤ pbuf.length
  := by
  cases n with
  | zero => exact Nat.zero_le _
  | succ n =>
      obtain ⟨playData₁, hlast⟩ := Buffer.loop_last h
      obtain ⟨lo, -, hlast⟩ := Option.bind_eq_some_iff.mp hlast
      obtain ⟨hi, hload, -⟩ := Option.bind_eq_some_iff.mp hlast
      have hlt := Buffer.lt_of_load hload
      omega

/-! ### Any block -/

/-- The device has been set up, with as many bytes in `play_data` as `ablk_size` says that a block
has. -/
def SoundOut.Ready (s : SoundOut) : Prop :=
  ∃ playData, s.playData = some playData ∧ playData.length = s.ablkSize

/-- `audio_out_init` opens the device and allocates `play_data`, if recording has been set up and
its calls succeed. -/
theorem startPlay_ready
    {buf : List UInt8} (hfd : 0 ≤ s.audioFd) (hsize : s.ablkSize ≠ 0) (hclosed : s.paudioFd = -1)
    (hinit : s.paudioInit ≠ 1) (hopened : 0 ≤ c.opened) (hmalloc : c.malloc = some buf)
    (hbuf : buf.length = s.ablkSize) :
  ∃ s₁, startPlay c s = some s₁ ∧ s₁.Ready ∧ s₁.ablkSize = s.ablkSize
  := by
  have hout : audioOutInit c s = (0, { s with paudioFd := c.opened, playData := some buf }) := by
    rw [audioOutInit, if_neg (by omega), if_pos hclosed, if_neg (by omega), hmalloc]
  have hstart : startPlay c s
      = some { s with paudioFd := c.opened, playData := some buf, paudioInit := 1 } := by
    rw [startPlay, if_pos hinit, hout]
    rfl
  exact ⟨_, hstart, ⟨buf, rfl, hbuf⟩, rfl⟩

/-- On a device that has been set up, the block in `pbuf` is put into silence. -/
theorem SoundOut.Ready.playBlock_eq (h : s.Ready) (pbuf : List UInt8) (dataLen : Nat) :
  playBlock pbuf dataLen s
    = (playLoop pbuf (List.replicate s.ablkSize 0) dataLen).bind fun playData =>
        if dataLen <<< 1 ≤ playData.length then some (playData.take (dataLen <<< 1)) else none
  := by
  obtain ⟨playData, hplay, hsize⟩ := h
  have hsilence : silence playData s.ablkSize = some (List.replicate s.ablkSize 0) := by
    rw [silence, if_pos (Nat.le_of_eq hsize.symm), ← hsize, List.drop_length, List.append_nil]
  rw [playBlock, hplay]
  simp [hsilence]

/-- What is played in `out` are frames with silence on the left, and the samples of the block on the
right. -/
structure Plays (pbuf : List UInt8) (dataLen : Nat) (out : List UInt8) : Prop where
  length : out.length = 2 * dataLen
  left : ∀ j < dataLen / 2, sampleAt out (4 * j) = some 0
  right : ∀ j < dataLen / 2, sampleAt out (4 * j + 2) = sampleAt pbuf (2 * j)

theorem Framed.plays
    {dataLen : Nat} (h : Framed pbuf size dataLen playData) (hwrite : 4 * dataLen ≤ size) :
  Plays pbuf dataLen (playData.take (2 * dataLen))
  := by
  have hsize := h.length
  constructor
  · rw [List.length_take]
    omega
  · intro j hj
    obtain ⟨hlo, hhi⟩ := h.left j (by omega)
    rw [sampleAt, Buffer.load, Buffer.load, List.getElem?_take_of_lt (by omega),
      List.getElem?_take_of_lt (by omega), hlo, hhi]
    rfl
  · intro j hj
    apply sampleAt_congr
    · rw [List.getElem?_take_of_lt (by omega), h.lo j (by omega)]
    · rw [List.getElem?_take_of_lt (by omega), h.hi j (by omega)]

/-- A block of `dataLen` bytes at the front of a buffer with twice as many is played, if there is
room for four times as many. -/
theorem put_audio_data_plays
    {dataLen : Nat} (hstart : startPlay c s = some s₁) (hready : s₁.Ready)
    (hread : 2 * dataLen ≤ pbuf.length) (hwrite : 4 * dataLen ≤ s₁.ablkSize) :
  ∃ out, putAudioData c pbuf dataLen s = some (some out) ∧ Plays pbuf dataLen out
  := by
  obtain ⟨playData, hloop, hframed⟩ := playLoop_framed (Framed.silent pbuf s₁.ablkSize) hread hwrite
  have hsize := hframed.length
  refine ⟨playData.take (2 * dataLen), ?_, hframed.plays hwrite⟩
  have hshift : dataLen <<< 1 = 2 * dataLen := by
    rw [Nat.shiftLeft_eq]
    omega
  rw [putAudioData, hstart]
  dsimp only
  rw [hready.playBlock_eq, hloop, Option.bind_some, hshift, if_pos (by omega)]
  rfl

/-- For every block, on a device that has been set up: `put_audio_data` stays inside the block and
inside `play_data`, and plays the block, exactly if the block is empty. -/
theorem put_audio_data_iff
    {dataLen : Nat} (hstart : startPlay c s = some s₁) (hready : s₁.Ready)
    (hlen : pbuf.length = dataLen) :
  (∃ out, putAudioData c pbuf dataLen s = some (some out) ∧ Plays pbuf dataLen out)
    ↔ dataLen = 0
  := by
  rw [putAudioData, hstart]
  constructor
  · rintro ⟨out, hout, -⟩
    obtain ⟨out', hblock, -⟩ := Option.map_eq_some_iff.mp hout
    rw [hready.playBlock_eq] at hblock
    obtain ⟨_, hloop, -⟩ := Option.bind_eq_some_iff.mp hblock
    have hread := read_of_playLoop hloop
    omega
  · rintro rfl
    refine ⟨[], ?_, rfl, ?_, ?_⟩
    · dsimp only
      rw [hready.playBlock_eq]
      simp [playLoop]
    · intro j hj
      omega
    · intro j hj
      omega

/-- A device that has been opened for recording and not for playing, with blocks of eight bytes in
`ablk_size`. -/
def recordingOnly : SoundOut := ⟨3, 8, -1, 0, none⟩

/-- Calls of `audio_out_init` by which the device can be opened for playing, too, with eight bytes
from `malloc`. -/
def soundCalls : SoundCalls := ⟨4, some [9, 9, 9, 9, 9, 9, 9, 9], 0⟩

/-- The general `put_audio_data_iff` at an empty block, for which the device is set up and nothing
is played. -/
theorem put_audio_data_empty :
  ∃ out, putAudioData soundCalls [] 0 recordingOnly = some (some out) ∧ Plays [] 0 out
  := by
  obtain ⟨s₁, hstart, hready, -⟩ := @startPlay_ready soundCalls recordingOnly
    [9, 9, 9, 9, 9, 9, 9, 9] (by decide) (by decide) rfl (by decide) (by decide) rfl rfl
  apply (put_audio_data_iff hstart hready rfl).mpr rfl

/-- A block of two samples of which `put_audio_data` reads samples behind its end. -/
theorem put_audio_data_leaves_block :
  ¬ ∀ (c : SoundCalls) (pbuf : List UInt8) (dataLen : Nat) (s s₁ : SoundOut),
      startPlay c s = some s₁ → s₁.Ready → pbuf.length = dataLen → 2 * dataLen ≤ s₁.ablkSize →
      ∃ out, putAudioData c pbuf dataLen s = some (some out) ∧ Plays pbuf dataLen out
  := by
  intro h
  obtain ⟨s₁, hstart, hready, hsize⟩ := @startPlay_ready soundCalls recordingOnly
    [9, 9, 9, 9, 9, 9, 9, 9] (by decide) (by decide) rfl (by decide) (by decide) rfl rfl
  obtain ⟨out, hout, -⟩ := h soundCalls [1, 2, 3, 4] 4 recordingOnly s₁ hstart hready rfl
    (by rw [hsize]; decide)
  have hleft : putAudioData soundCalls [1, 2, 3, 4] 4 recordingOnly = none := by decide
  rw [hleft] at hout
  contradiction

end Rtspd.Audio
