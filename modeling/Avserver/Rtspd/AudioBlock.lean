import Mathlib.Algebra.Group.Nat.Defs
import Avserver.Library.Buffer
import Avserver.Rtspd.Frame

/-!
# A block of audio

`do_audio_proc` of `rtspd.c` reads a block of interleaved stereo samples of 16 bits and gives its
left channel to two consumers: to the network recorder, for which a loop over bytes picks two out
of four, and to the viewers, for whom `g711_encode_frame` steps over the samples two by two and
encodes them.  Both loops stay inside their buffers for a block of any length, and both pick the
same samples (`same_signal`).  Of a block that is there, the recorder gets a frame if it is switched
on, and so does every listener whose stream plays, each exactly once (`doAudioProc_ready`).

The encoder is `G711_linear2ulaw` of `g711s.s`.
-/

namespace Rtspd.Audio

open Library

/-! ### Samples -/

/-- A sample of 16 bits, with sign, by its two bytes: `lo` is the lower one and comes first in a
buffer. -/
def sample (lo hi : UInt8) : Int :=
  let n := lo.toNat + 256 * hi.toNat
  if n < 32768 then n else n - 65536

/-- The sample that begins at the byte `i` of `buf`; `none` if one of its two bytes is outside of
the buffer. -/
def sampleAt (buf : List UInt8) (i : Nat) : Option Int := do
  let lo ← Buffer.load buf i
  let hi ← Buffer.load buf (i + 1)
  pure (sample lo hi)

/-- The segment that `G711_linear2ulaw` finds for a magnitude: from a comparison on, the magnitude
is shifted to the right, and the count goes up. -/
def ulawSegment (r₀ : Nat) : Nat :=
  let (r₀, r₂) := if r₀ ≥ 0x1000 then (r₀ >>> 4, 4) else (r₀, 0)
  let (r₀, r₂) := if r₀ ≥ 0x400 then (r₀ >>> 2, r₂ + 2) else (r₀, r₂)
  let (r₀, r₂) := if r₀ ≥ 0x100 then (r₀ >>> 1, r₂ + 1) else (r₀, r₂)
  if r₀ ≥ 0x100 then r₂ + 1 else r₂

/-- `G711_linear2ulaw` of the sample `pcmSample`, where only the lowest byte of the result in `r₀`
is used. -/
def g711Linear2ulaw (pcmSample : Int) : UInt8 :=
  let r₀ := (0x84 + pcmSample.natAbs : Nat)
  let r₁ := if pcmSample < 0 then 0x7f else 0xff
  let r₃ := r₀ >>> 3
  let r₂ := if r₃ = 0 then 0 else ulawSegment r₀
  let r₀ := if r₂ ≥ 8 then 0x7f else (r₃ >>> r₂ &&& 0xf) ||| r₂ <<< 4
  UInt8.ofNat (r₀ ^^^ r₁)

/-! ### The two loops -/

/-- A round `i` of the loop for the network recorder, which copies a sample from `audioData` to
`saudio`, byte by byte. -/
def saudioRound (audioData saudio : List UInt8) (i : Nat) : Option (List UInt8) := do
  let lo ← Buffer.load audioData (i * 2)
  let saudio ← Buffer.store saudio i lo
  let hi ← Buffer.load audioData (i * 2 + 1)
  Buffer.store saudio (i + 1) hi

/-- The loop for the network recorder, whose index is even and below half of `audioLen`, over all of
its rounds. -/
def saudioLoop (audioData saudio : List UInt8) (audioLen : Nat) : Option (List UInt8) :=
  (List.range ((audioLen / 2 + 1) / 2)).foldlM (fun saudio k => saudioRound audioData saudio (2 * k))
    saudio

/-- A round `i` of `g711_encode_frame`: the samples in `data` are `channel` apart, and a byte of
`frame` is written for each. -/
def g711Round (data : List UInt8) (channel : Nat) (frame : List UInt8) (i : Nat) :
    Option (List UInt8) := do
  let s ← sampleAt data (2 * (i * channel))
  Buffer.store frame i (g711Linear2ulaw s)

/-- `g711_encode_frame`: what is in `frame` afterwards, and the number of bytes that are written to
it. -/
def g711EncodeFrame (frame data : List UInt8) (byteLength channel : Nat) :
    Option (List UInt8 × Nat) := do
  let n := byteLength / 2 ^ channel
  let frame ← (List.range n).foldlM (g711Round data channel) frame
  pure (frame, n)

/-! ### `do_audio_proc` -/

/-- `convert_gmss_audio_type` -/
def convertGmssAudioType (type : Int) : Int :=
  if type = 0 then 13 else if type = 1 then 14 else if type = 2 then 15 else -1

/-- `GM_SS_TYPE_G711` -/
def gmSsTypeG711 : Int := 13

/-- What is looked at of the first stream of a channel before a block is sent to it: `play`, `event`
and `audio.enc_type`. -/
structure Listener where
  play : Int
  event : Int
  encType : Int

/-- What is done with a block: it goes to the network recorder, or to a channel that plays. -/
inductive Sent where
  /-- `send_video_frame` of the number of bytes, as an audio frame -/
  | video (saudio : List UInt8) (length : Nat)
  /-- `write_rtp_audio` of the number of bytes, on a channel -/
  | rtp (chNum : Nat) (g711Data : List UInt8) (g711Len : Nat)
deriving DecidableEq

/-- The buffers of `do_audio_proc`: what `read` has put into `audio_data`, and what `saudio`, which
has as many bytes, and `g711_data` hold before. -/
structure Buffers where
  audioData : List UInt8
  saudio : List UInt8
  g711Data : List UInt8

/-- The loop over the channels, from `chNum` on: every listener among them gets the block, encoded
once more into `g711Data`. -/
def sendChannels (audioData : List UInt8) (audioLen : Nat) :
    (chNum : Nat) → (g711Data : List UInt8) → List Listener → Option (List Sent)
  | _, _, [] => some []
  | chNum, g711Data, l :: ls =>
      if l.play = 0 ∨ l.event ≠ noneBsEvent then
        sendChannels audioData audioLen (chNum + 1) g711Data ls
      else if convertGmssAudioType l.encType = gmSsTypeG711 then do
        let (g711Data, g711Len) ← g711EncodeFrame g711Data audioData audioLen 2
        let sent ← sendChannels audioData audioLen (chNum + 1) g711Data ls
        pure (.rtp chNum g711Data g711Len :: sent)
      else sendChannels audioData audioLen (chNum + 1) g711Data ls

/-- What goes to the network recorder: the left channel of the block, if `NVR_send_status[2][0]` is
set. -/
def sendRecorder (audioData saudio : List UInt8) (audioLen : Nat) (nvrSendStatus : Int) :
    Option (List Sent) :=
  if nvrSendStatus ≠ 0 then do
    let saudio ← saudioLoop audioData saudio audioLen
    pure [.video saudio (audioLen / 2)]
  else some []

/-- `do_audio_proc`, with the results of `poll` and `read`, and the events that `poll` reports;
none, if a buffer is left. -/
def doAudioProc (poll revents audioLen nvrSendStatus : Int) (b : Buffers)
    (listeners : List Listener) : Option (List Sent) :=
  if poll ≤ 0 then some []
  else if revents = 0 then some []
  else if audioLen ≤ 0 then some []
  else do
    let recorded ← sendRecorder b.audioData b.saudio audioLen.toNat nvrSendStatus
    let sent ← sendChannels b.audioData audioLen.toNat 0 b.g711Data listeners
    pure (recorded ++ sent)

/-! ### The samples that are sent -/

variable {audioData saudio frame : List UInt8} {i j k n L : Nat}

/-- There is a sample at `i` of `audioData` if both of its bytes are in the buffer. -/
theorem sampleAt_isSome (h : i + 1 < audioData.length) :
  ∃ s, sampleAt audioData i = some s
  := by
  use sample audioData[i] audioData[i + 1]
  rw [sampleAt, Buffer.load_eq (by omega), Buffer.load_eq h]
  rfl

/-- The samples at `i` of `saudio` and at `j` of `audioData` are the same if their two bytes are. -/
theorem sampleAt_congr
    (hlo : saudio[i]? = audioData[j]?) (hhi : saudio[i + 1]? = audioData[j + 1]?) :
  sampleAt saudio i = sampleAt audioData j
  := by
  rw [sampleAt, sampleAt, Buffer.load, Buffer.load, Buffer.load, Buffer.load, hlo, hhi]

/-- Behind `k` rounds, the first `k` samples of `saudio` are those of the left channel in
`audioData`. -/
structure Picked (audioData : List UInt8) (size k : Nat) (saudio : List UInt8) : Prop where
  size : saudio.length = size
  lo : ∀ j < k, saudio[2 * j]? = audioData[4 * j]?
  hi : ∀ j < k, saudio[2 * j + 1]? = audioData[4 * j + 1]?

/-- A round `k` of the loop for the recorder stays inside both buffers, and picks the next sample of
the left channel. -/
theorem Picked.round
    (h : Picked audioData audioData.length k saudio) (hk : 4 * k + 1 < audioData.length) :
  ∃ saudio', saudioRound audioData saudio (2 * k) = some saudio'
    ∧ Picked audioData audioData.length (k + 1) saudio'
  := by
  have hsize := h.size
  have hlo : 2 * k < saudio.length := by omega
  have hhi : 2 * k + 1 < (saudio.set (2 * k) audioData[2 * k * 2]).length := by
    rw [List.length_set]
    omega
  refine ⟨(saudio.set (2 * k) audioData[2 * k * 2]).set (2 * k + 1) audioData[2 * k * 2 + 1],
    ?_, ?_, ?_, ?_⟩
  · rw [saudioRound, Buffer.load_eq (by omega), Buffer.load_eq (by omega)]
    simp only [Option.bind_eq_bind, Option.bind_some, Buffer.store_eq hlo, Buffer.store_eq hhi]
  · rw [List.length_set, List.length_set, hsize]
  · intro j hj
    rw [Buffer.getElem?_set_eq hhi, Buffer.getElem?_set_eq hlo, if_neg (by omega)]
    split
    · next heq =>
        rw [show 4 * j = 2 * k * 2 by omega, List.getElem?_eq_getElem]
    · next hne => apply h.lo j (by omega)
  · intro j hj
    rw [Buffer.getElem?_set_eq hhi, Buffer.getElem?_set_eq hlo]
    split
    · next heq =>
        rw [show 4 * j + 1 = 2 * k * 2 + 1 by omega, List.getElem?_eq_getElem]
    · next hne =>
        rw [if_neg (by omega)]
        apply h.hi j (by omega)

/-- The loop for the network recorder stays inside `audioData` and `saudio`, and picks the left
channel. -/
theorem saudioLoop_picked (hsize : saudio.length = audioData.length) :
  ∃ saudio', saudioLoop audioData saudio audioData.length = some saudio'
    ∧ Picked audioData audioData.length ((audioData.length / 2 + 1) / 2) saudio'
  := by
  apply Buffer.loop (P := fun k => Picked audioData audioData.length k)
  · use hsize
    · intro j hj
      omega
    · intro j hj
      omega
  · intro k saudio hk h
    apply h.round
    omega

/-- The samples among the bytes that are sent to the recorder are those of the left channel in
`audioData`. -/
theorem Picked.sampleAt
    (h : Picked audioData L ((L / 2 + 1) / 2) saudio) (hj : j < L / 4) :
  sampleAt (saudio.take (L / 2)) (2 * j) = Audio.sampleAt audioData (4 * j)
  := by
  apply sampleAt_congr
  · rw [List.getElem?_take_of_lt (by omega), h.lo j (by omega)]
  · rw [List.getElem?_take_of_lt (by omega), h.hi j (by omega)]

/-- Behind `k` rounds, the first `k` bytes of `frame` are the samples of the left channel in
`audioData`, encoded. -/
structure Encoded (audioData : List UInt8) (size k : Nat) (frame : List UInt8) : Prop where
  size : frame.length = size
  byte : ∀ j < k, frame[j]? = (sampleAt audioData (4 * j)).map g711Linear2ulaw

/-- A round `k` of `g711_encode_frame` stays inside its buffers, and encodes the next sample of the
left channel. -/
theorem Encoded.round
    (h : Encoded audioData n k frame) (hk : 4 * k + 1 < audioData.length) (hn : k < n) :
  ∃ frame', g711Round audioData 2 frame k = some frame' ∧ Encoded audioData n (k + 1) frame'
  := by
  have hlt : k < frame.length := by
    rw [h.size]
    apply hn
  obtain ⟨s, hs⟩ := sampleAt_isSome (i := 4 * k) hk
  refine ⟨frame.set k (g711Linear2ulaw s), ?_, ?_, ?_⟩
  · rw [g711Round, show 2 * (k * 2) = 4 * k by omega, hs]
    apply Buffer.store_eq hlt
  · rw [List.length_set, h.size]
  · intro j hj
    rw [Buffer.getElem?_set_eq hlt]
    split
    · next heq =>
        rw [heq, hs]
        rfl
    · next hne => apply h.byte j (by omega)

/-- `g711_encode_frame` for two channels stays inside `audioData` and `frame`, and encodes the left
channel. -/
theorem g711EncodeFrame_encoded (hsize : audioData.length / 4 ≤ frame.length) :
  ∃ frame', g711EncodeFrame frame audioData audioData.length 2
      = some (frame', audioData.length / 4)
    ∧ Encoded audioData frame.length (audioData.length / 4) frame'
  := by
  have hinit : Encoded audioData frame.length 0 frame := by
    use rfl
    intro j hj
    omega
  obtain ⟨frame', hloop, hencoded⟩ := Buffer.loop (f := g711Round audioData 2)
    (P := fun k => Encoded audioData frame.length k) (n := audioData.length / 4) hinit
    fun k frame hk h => h.round (by omega) (by omega)
  use frame'
  rw [g711EncodeFrame, show audioData.length / 2 ^ 2 = audioData.length / 4 from rfl, hloop]
  exact ⟨rfl, hencoded⟩

/-- What is sent has the samples of the left channel of `audioData`, and the number of bytes for
them. -/
def Sent.Left (audioData : List UInt8) : Sent → Prop
  | .video saudio length =>
      length = audioData.length / 2 ∧ length ≤ saudio.length ∧ ∀ j < audioData.length / 4,
        sampleAt (saudio.take length) (2 * j) = sampleAt audioData (4 * j)
  | .rtp _ g711Data g711Len =>
      g711Len = audioData.length / 4 ∧ g711Len ≤ g711Data.length ∧ ∀ j < audioData.length / 4,
        g711Data[j]? = (sampleAt audioData (4 * j)).map g711Linear2ulaw

/-! ### Who gets a block -/

/-- The channel that a frame of a block is enqueued on; `none`, if the block goes to the network
recorder. -/
def Sent.channel : Sent → Option Nat
  | .video _ _ => none
  | .rtp chNum _ _ => some chNum

/-- A listener hears a block if its stream plays, no event is posted for it, and its audio is
configured as `G711`. -/
def Listener.Hears (l : Listener) : Prop :=
  l.play ≠ 0 ∧ l.event = noneBsEvent ∧ convertGmssAudioType l.encType = gmSsTypeG711

instance (l : Listener) : Decidable l.Hears := inferInstanceAs (Decidable (_ ∧ _ ∧ _))

/-- The channels of the listeners that hear a block, in their order, where the first listener has
the channel `chNum`. -/
def hearing (chNum : Nat) (ls : List Listener) : List Nat :=
  ((ls.zipIdx chNum).filter fun l => l.1.Hears).map Prod.snd

@[simp] theorem hearing_nil (chNum : Nat) : hearing chNum [] = [] := rfl

/-- The first of the listeners `l :: ls` has the channel `chNum`, and those behind it the channels
from `chNum + 1` on. -/
theorem hearing_cons (chNum : Nat) (l : Listener) (ls : List Listener) :
  hearing chNum (l :: ls)
    = if l.Hears then chNum :: hearing (chNum + 1) ls else hearing (chNum + 1) ls
  := by
  rw [hearing, List.zipIdx_cons]
  split
  · next h =>
      rw [List.filter_cons_of_pos (by simpa using h)]
      rfl
  · next h =>
      rw [List.filter_cons_of_neg (by simpa using h)]
      rfl

/-- A channel `c` is among those that hear a block exactly if there is a listener at that place of
`ls`, and it hears the block. -/
theorem mem_hearing {c : Nat} {ls : List Listener} :
  c ∈ hearing 0 ls ↔ ∃ l, ls[c]? = some l ∧ l.Hears
  := by
  simp only [hearing, List.mem_map, List.mem_filter, decide_eq_true_eq]
  constructor
  · rintro ⟨⟨l, c⟩, ⟨hmem, hears⟩, rfl⟩
    exact ⟨l, List.mk_mem_zipIdx_iff_getElem?.mp hmem, hears⟩
  · rintro ⟨l, hl, hears⟩
    exact ⟨(l, c), ⟨List.mk_mem_zipIdx_iff_getElem?.mpr hl, hears⟩, rfl⟩

/-- The loop over the channels enqueues one frame for every listener that hears the block, in the
order of the channels, and each frame has the left channel of `audioData`. -/
theorem sendChannels_hearing
    (ls : List Listener) (chNum : Nat) (hsize : audioData.length / 4 ≤ frame.length) :
  ∃ sent, sendChannels audioData audioData.length chNum frame ls = some sent
    ∧ sent.map Sent.channel = (hearing chNum ls).map some ∧ ∀ e ∈ sent, e.Left audioData
  := by
  induction ls generalizing chNum frame with
  | nil =>
      use [], rfl, rfl
      intro e he
      contradiction
  | cons l ls ih =>
      rw [sendChannels, hearing_cons]
      split
      · next hgate =>
          rw [if_neg fun hears => hgate.elim hears.1 fun hevent => hevent hears.2.1]
          apply ih (chNum + 1) hsize
      · next hgate =>
          obtain ⟨hplay, hevent⟩ := not_or.mp hgate
          split
          · next htype =>
              rw [if_pos ⟨hplay, not_not.mp hevent, htype⟩]
              obtain ⟨frame', hframe, hencoded⟩ := g711EncodeFrame_encoded hsize
              have hsize' : audioData.length / 4 ≤ frame'.length := by
                rw [hencoded.size]
                apply hsize
              obtain ⟨sent, hsent, hchannels, hleft⟩ := ih (chNum + 1) hsize'
              use .rtp chNum frame' (audioData.length / 4) :: sent
              rw [hframe]
              simp only [Option.bind_eq_bind, Option.bind_some, hsent]
              use rfl
              constructor
              · rw [List.map_cons, List.map_cons, hchannels]
                rfl
              · intro e he
                rcases List.mem_cons.mp he with rfl | he
                · exact ⟨rfl, hsize', hencoded.byte⟩
                · apply hleft e he
          · next htype =>
              rw [if_neg fun h => htype h.2.2]
              apply ih (chNum + 1) hsize

/-- The network recorder gets the left channel of the block once if `nvrSendStatus` is set, and
nothing otherwise. -/
theorem sendRecorder_channel
    (hsaudio : saudio.length = audioData.length) (nvrSendStatus : Int) :
  ∃ sent, sendRecorder audioData saudio audioData.length nvrSendStatus = some sent
    ∧ sent.map Sent.channel = (if nvrSendStatus ≠ 0 then [none] else [])
    ∧ ∀ e ∈ sent, e.Left audioData
  := by
  obtain ⟨saudio', hloop, hpicked⟩ := saudioLoop_picked hsaudio
  rw [sendRecorder]
  split
  · rw [hloop]
    refine ⟨_, rfl, rfl, ?_⟩
    intro e he
    obtain rfl := List.mem_singleton.mp he
    refine ⟨rfl, ?_, fun j hj => hpicked.sampleAt hj⟩
    rw [hpicked.size]
    omega
  · use [], rfl, rfl
    intro e he
    contradiction

/-- What `do_audio_proc` does with a block that is there: whenever `poll` reports one and `read`
yields `L` bytes, the network recorder gets it if it is switched on, then every listener that hears
it, each of them exactly once. -/
theorem doAudioProc_ready
    {b : Buffers} (hL : 0 < L) (hdata : b.audioData.length = L) (hsaudio : b.saudio.length = L)
    (hg711 : L / 4 ≤ b.g711Data.length) {poll revents : Int} (hpoll : 0 < poll)
    (hrevents : revents ≠ 0) (nvrSendStatus : Int) (listeners : List Listener) :
  ∃ sent, doAudioProc poll revents L nvrSendStatus b listeners = some sent
    ∧ sent.map Sent.channel
      = (if nvrSendStatus ≠ 0 then [none] else []) ++ (hearing 0 listeners).map some
    ∧ ∀ e ∈ sent, e.Left b.audioData
  := by
  subst hdata
  obtain ⟨recorded, hrecorded, hrecorder, hleft⟩ := sendRecorder_channel hsaudio nvrSendStatus
  obtain ⟨sent, hsent, hchannels, hleft'⟩ := sendChannels_hearing listeners 0 hg711
  use recorded ++ sent
  rw [doAudioProc, if_neg (by omega), if_neg hrevents, if_neg (by omega), Int.toNat_natCast,
    hrecorded, hsent]
  use rfl
  constructor
  · rw [List.map_append, hrecorder, hchannels]
  · intro e he
    rcases List.mem_append.mp he with he | he
    · apply hleft e he
    · apply hleft' e he

/-- An enabled recorder gets its frame: what is enqueued for it of a block of `L` bytes are the
`L / 2` bytes of the left channel. -/
theorem recorder_gets_frame
    {b : Buffers} (hL : 0 < L) (hdata : b.audioData.length = L) (hsaudio : b.saudio.length = L)
    (hg711 : L / 4 ≤ b.g711Data.length) {poll revents nvrSendStatus : Int} (hpoll : 0 < poll)
    (hrevents : revents ≠ 0) (hnvr : nvrSendStatus ≠ 0) (listeners : List Listener) :
  ∃ sent saudio, doAudioProc poll revents L nvrSendStatus b listeners = some sent
    ∧ .video saudio (L / 2) ∈ sent ∧ (Sent.video saudio (L / 2)).Left b.audioData
  := by
  obtain ⟨sent, hsent, hchannels, hleft⟩ :=
    doAudioProc_ready hL hdata hsaudio hg711 hpoll hrevents nvrSendStatus listeners
  have hnone : none ∈ sent.map Sent.channel := by
    rw [hchannels, if_pos hnvr]
    apply List.mem_cons_self
  obtain ⟨e, he, hchannel⟩ := List.mem_map.mp hnone
  cases e with
  | video saudio length =>
      obtain rfl : length = _ := (hleft _ he).1
      rw [hdata] at he
      exact ⟨sent, saudio, hsent, he, hleft _ he⟩
  | rtp chNum g711Data g711Len => contradiction

/-- A listener gets its frame: if the stream of the channel `c` plays, nothing is posted for it and
its audio is configured as `G711`, then the `L / 4` encoded bytes of a block of `L` bytes are
enqueued on it. -/
theorem listener_gets_frame
    {b : Buffers} (hL : 0 < L) (hdata : b.audioData.length = L) (hsaudio : b.saudio.length = L)
    (hg711 : L / 4 ≤ b.g711Data.length) {poll revents : Int} (hpoll : 0 < poll)
    (hrevents : revents ≠ 0) (nvrSendStatus : Int) {listeners : List Listener} {c : Nat}
    {l : Listener} (hl : listeners[c]? = some l) (hears : l.Hears) :
  ∃ sent g711Data, doAudioProc poll revents L nvrSendStatus b listeners = some sent
    ∧ .rtp c g711Data (L / 4) ∈ sent ∧ (Sent.rtp c g711Data (L / 4)).Left b.audioData
  := by
  obtain ⟨sent, hsent, hchannels, hleft⟩ :=
    doAudioProc_ready hL hdata hsaudio hg711 hpoll hrevents nvrSendStatus listeners
  have hsome : some c ∈ sent.map Sent.channel := by
    rw [hchannels, List.mem_append]
    right
    apply List.mem_map_of_mem
    exact mem_hearing.mpr ⟨l, hl, hears⟩
  obtain ⟨e, he, hchannel⟩ := List.mem_map.mp hsome
  cases e with
  | video saudio length => contradiction
  | rtp chNum g711Data g711Len =>
      obtain rfl := Option.some.inj hchannel
      obtain rfl : g711Len = _ := (hleft _ he).1
      rw [hdata] at he
      exact ⟨sent, g711Data, hsent, he, hleft _ he⟩

/-- For every block of `L` bytes, both loops stay inside the bytes of the block and inside their
buffers, and give the same samples of the left channel; and so does whatever is sent. -/
theorem same_signal
    {b : Buffers} {ablkSize : Nat} (hL : 0 < L) (hablk : L ≤ ablkSize)
    (hdata : b.audioData.length = L) (hsaudio : b.saudio.length = L)
    (hg711 : b.g711Data.length = ablkSize / 4) (poll revents nvrSendStatus : Int)
    (listeners : List Listener) :
  (∃ saudio g711Data, saudioLoop b.audioData b.saudio L = some saudio
      ∧ g711EncodeFrame b.g711Data b.audioData L 2 = some (g711Data, L / 4)
      ∧ ∀ j < L / 4, ∃ s, sampleAt b.audioData (4 * j) = some s
          ∧ sampleAt (saudio.take (L / 2)) (2 * j) = some s
          ∧ g711Data[j]? = some (g711Linear2ulaw s))
    ∧ ∃ sent, doAudioProc poll revents L nvrSendStatus b listeners = some sent
      ∧ ∀ e ∈ sent, e.Left b.audioData
  := by
  subst hdata
  obtain ⟨saudio, hloop, hpicked⟩ := saudioLoop_picked hsaudio
  have hsize : b.audioData.length / 4 ≤ b.g711Data.length := by
    rw [hg711]
    apply Nat.div_le_div_right hablk
  constructor
  · obtain ⟨g711Data, hframe, hencoded⟩ := g711EncodeFrame_encoded hsize
    refine ⟨saudio, g711Data, hloop, hframe, ?_⟩
    intro j hj
    obtain ⟨s, hs⟩ := @sampleAt_isSome b.audioData (4 * j) (by omega)
    refine ⟨s, hs, ?_, ?_⟩
    · rw [hpicked.sampleAt hj, hs]
    · rw [hencoded.byte j hj, hs]
      rfl
  · have hnothing : ∃ sent, some ([] : List Sent) = some sent ∧ ∀ e ∈ sent, e.Left b.audioData := by
      use [], rfl
      intro e he
      contradiction
    -- without a block, nothing is sent; with one, what is sent is known
    by_cases hpoll : 0 < poll
    · by_cases hrevents : revents = 0
      · rw [doAudioProc, if_neg (by omega), if_pos hrevents]
        apply hnothing
      · obtain ⟨sent, hsent, -, hleft⟩ :=
          doAudioProc_ready hL rfl hsaudio hsize hpoll hrevents nvrSendStatus listeners
        exact ⟨sent, hsent, hleft⟩
    · rw [doAudioProc, if_pos (by omega)]
      apply hnothing

/-- Buffers with a block of ten bytes in `audioData`, which is not a whole number of pairs of
samples. -/
def tenBytes : Buffers where
  audioData := [1, 2, 3, 4, 5, 6, 7, 8, 9, 10]
  saudio := List.replicate 10 0
  g711Data := List.replicate 4 0

theorem same_signal_tenBytes :
  ∃ sent, doAudioProc 1 1 (10 : Nat) 1 tenBytes [⟨1, 0, 0⟩, ⟨0, 0, 0⟩] = some sent
    ∧ ∀ e ∈ sent, e.Left tenBytes.audioData
  := (@same_signal 10 tenBytes 16 (by decide) (by decide) rfl rfl rfl 1 1 1
      [⟨1, 0, 0⟩, ⟨0, 0, 0⟩]).2

example : doAudioProc 1 1 10 1 tenBytes [⟨1, 0, 0⟩]
    = some [.video [1, 2, 5, 6, 9, 10, 0, 0, 0, 0] 5, .rtp 0 [0xdb, 0xc5, 0, 0] 2] := by
  decide +kernel

end Rtspd.Audio
