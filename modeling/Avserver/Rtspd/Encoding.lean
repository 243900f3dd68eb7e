import Avserver.Rtspd.Startable

/-!
# The parameters of the encoder

`set_main_bs` and `set_sub_bs` each copy a template, `main_ch_setting` and `sub_ch_setting`, set
the copy from the parameters of the stream, and hand it to the driver.  The settings are written
twice, with the same switches; but `set_main_bs` sets the bit rate before the switch over the
rate control, and `set_sub_bs` has that line commented out.  The case of `RATE_CTL_VBR` does not
set the bit rate, so that there the one of `sub_ch_setting` stays.  The two agree in all other
cases, and in this one only if the bit rate happens to be that of the template (`alike_iff`); the
streams of an encoder file never have that rate control (`alike_loadVideo`).

The header of the driver is not part of the repository: its flags are parameters, and the members
of a template are told by their places and by what the two functions assign.
-/

namespace Rtspd.Encoding

open Boot (Video ntsc loadVideo rateCtlEcbr)
open Msg (UbsField)

/-! ### Data -/

/-- What `dvr_enc` defines: the flags `DVR_ENC_MJPEG_FUNCTION` and
`DVR_ENC_ENHANCE_H264_RATECONTROL`, and the size that an `EncParam_Ext3` is handed over with. -/
structure Driver where
  mjpegFunction : BitVec 32
  enhanceH264Ratecontrol : BitVec 32
  extSize : Int

/-- `ENC_INPUT_H2642D` and `ENC_INPUT_1D422` -/
inductive InputType where
  | encInputH2642d | encInput1d422
deriving DecidableEq

/-- A window of a picture, by its corner at `x` and `y` and by its size. -/
structure Window where
  x : Int
  y : Int
  width : Int
  height : Int
deriving DecidableEq

/-- `EncParam` -/
structure EncParam where
  inputType : InputType
  frameRate : Int
  bitRate : Int
  ipInterval : Int
  initQuant : Int
  maxQuant : Int
  minQuant : Int
  isUseROI : Bool
  roiWin : Window
  extSize : Int
deriving DecidableEq

/-- `EncParam_Ext3` -/
structure EncParamExt where
  featureEnable : BitVec 32
  mjQuality : Int
  targetRateMax : Int
  reactionDelayMax : Int
deriving DecidableEq

/-- `ReproduceBitStream`, of the main stream or of another one, with what `pext_data` points to as
`ext`. -/
structure BitStream where
  enabled : Bool
  outBs : Int
  encType : Int
  isBlocked : Bool
  enSnapshot : Bool
  width : Int
  height : Int
  enc : EncParam
  ext : EncParamExt
deriving DecidableEq

/-- An `EncParam_Ext3` that is set to zero, before the parameters are put into it. -/
def zeroExt : EncParamExt := ⟨0, 0, 0, 0⟩

/-- The member `main_bs` of `main_ch_setting`, which `set_main_bs` starts from, with its initial
values. -/
def mainChSetting : BitStream where
  enabled := true
  outBs := 0
  encType := encTypeH264
  isBlocked := false
  enSnapshot := true
  width := 1280
  height := 720
  enc := ⟨.encInputH2642d, 30, 1048576, 30, 25, 51, 1, false, ⟨0, 0, 320, 240⟩, 0⟩
  ext := zeroExt

/-- `ENC_TYPE_MPEG` -/
def encTypeMpeg : Int := 1

/-- `sub_ch_setting` -/
def subChSetting : BitStream where
  enabled := false
  outBs := 1
  encType := encTypeMpeg
  isBlocked := false
  enSnapshot := false
  width := 1280
  height := 720
  enc := ⟨.encInput1d422, 5, 262144, 15, 25, 51, 1, false, ⟨0, 0, 320, 240⟩, 0⟩
  ext := zeroExt

/-! ### The settings -/

/-- `RATE_CTL_VBR` and `RATE_CTL_EVBR` -/
def rateCtlVbr : Int := 1
@[inherit_doc rateCtlVbr] def rateCtlEvbr : Int := 3

/-- `MACRO_BLOCK_SIZE` -/
def macroBlockSize : Int := 100

/-- `get_bitrate` -/
def getBitrate (width height fps : Int) : Int :=
  Boot.toInt (Boot.toInt ((Boot.toInt (width * height)).tdiv 256 * macroBlockSize) * fps)

/-- The bit rate of a stream in `bps`, or the default for its size and rate if it has none. -/
def bitRate (v : Video) : Int :=
  if v.bps ≤ 0 then getBitrate v.width v.height v.fps else v.bps

/-- The window of `v` that is encoded with more detail is put into the parameters, if it is
enabled. -/
def setRoi (v : Video) (enc : EncParam) : EncParam :=
  if v.enabledRoi = 1 then
    { enc with isUseROI := true, roiWin := ⟨v.roiX, v.roiY, v.roiW, v.roiH⟩ }
  else { enc with isUseROI := false }

variable (k : Driver)

/-- The switch over `enc_type`, with the flags of the features that the driver has for each. -/
def setCodec (v : Video) (bs : BitStream) : BitStream :=
  if bs.encType = encTypeMjpeg then
    { bs with
      ext := { bs.ext with
        featureEnable := bs.ext.featureEnable ||| k.mjpegFunction
        mjQuality := v.mjpegQuality } }
  else if bs.encType = encTypeH264 ∨ bs.encType = encTypeMpeg then
    { bs with
      ext := { bs.ext with featureEnable := bs.ext.featureEnable &&& ~~~k.mjpegFunction } }
  else { bs with encType := encTypeH264 }

/-- The switch over `rate_ctl_type`: the bit rate and the quantisers of `v` for the kinds of rate
control. -/
def setRateCtl (v : Video) (bs : BitStream) : BitStream :=
  if v.rateCtlType = rateCtlEcbr then
    { bs with
      enc := { bs.enc with
        bitRate := bitRate v
        maxQuant := v.maxQuant
        minQuant := v.minQuant
        initQuant := v.initQuant }
      ext := { bs.ext with
        featureEnable := bs.ext.featureEnable ||| k.enhanceH264Ratecontrol
        targetRateMax := v.targetRateMax
        reactionDelayMax := v.reactionDelayMax } }
  else if v.rateCtlType = rateCtlEvbr then
    { bs with
      enc := { bs.enc with
        bitRate := 0
        maxQuant := v.maxQuant
        minQuant := v.minQuant
        initQuant := v.initQuant }
      ext := { bs.ext with
        featureEnable := bs.ext.featureEnable ||| k.enhanceH264Ratecontrol
        targetRateMax := v.targetRateMax
        reactionDelayMax := 0 } }
  else if v.rateCtlType = rateCtlVbr then
    -- the bit rate is not set
    { bs with
      enc := { bs.enc with
        maxQuant := v.initQuant
        minQuant := v.initQuant
        initQuant := v.initQuant } }
  else
    { bs with
      enc := { bs.enc with
        bitRate := bitRate v
        maxQuant := v.maxQuant
        minQuant := v.minQuant
        initQuant := v.initQuant } }

/-- What `set_main_bs` hands to `DVR_ENC_SET_CHANNEL_PARAM` for the main stream, with the parameters
`v`. -/
def setMainBs (inputSystem : Int) (v : Video) : BitStream :=
  let mcpVideo := if inputSystem = pal then pal else ntsc
  let v := { v with fps := if mcpVideo = pal ∧ v.fps > 25 then 25 else v.fps }
  let enc := { mainChSetting.enc with
    frameRate := v.fps
    ipInterval := v.ipInterval
    bitRate := bitRate v }
  let enc := { setRoi v enc with extSize := k.extSize }
  let bs := { mainChSetting with
    width := v.width
    height := v.height
    encType := v.encType
    enc
    ext := { zeroExt with featureEnable := 0 } }
  setRateCtl k v (setCodec k v bs)

/-- What `set_sub_bs` hands to `DVR_ENC_SET_SUB_BS_PARAM` for the stream `i`, with the parameters
`v`. -/
def setSubBs (i : SubNum) (v : Video) : BitStream :=
  let enc := { subChSetting.enc with
    frameRate := v.fps
    ipInterval := v.ipInterval }
  let enc := { setRoi v enc with extSize := k.extSize }
  let bs := { subChSetting with
    outBs := i.val
    enabled := true
    width := v.width
    height := v.height
    encType := v.encType
    enc
    ext := { zeroExt with featureEnable := 0 } }
  setRateCtl k v (setCodec k v bs)

/-! ### What the two hand over -/

/-- The size of the pictures, and their rate, are the same in `bs` and `bs'`. -/
structure SameSize (bs bs' : BitStream) : Prop where
  width : bs'.width = bs.width
  height : bs'.height = bs.height
  frameRate : bs'.enc.frameRate = bs.enc.frameRate

/-- The switch over `enc_type` is not about the size and the rate of the pictures in `bs`. -/
theorem setCodec_sameSize (k : Driver) (v : Video) (bs : BitStream) :
  SameSize bs (setCodec k v bs)
  := by
  unfold setCodec
  split
  · constructor <;> rfl
  · split
    · constructor <;> rfl
    · constructor <;> rfl

/-- The switch over `rate_ctl_type` is not about the size and the rate of the pictures in `bs`. -/
theorem setRateCtl_sameSize (k : Driver) (v : Video) (bs : BitStream) :
  SameSize bs (setRateCtl k v bs)
  := by
  unfold setRateCtl
  split
  · constructor <;> rfl
  · split
    · constructor <;> rfl
    · split
      · constructor <;> rfl
      · constructor <;> rfl

theorem setRoi_frameRate (v : Video) (enc : EncParam) : (setRoi v enc).frameRate = enc.frameRate := by
  unfold setRoi
  split
  · rfl
  · rfl

/-- `set_main_bs` hands over the size of the stream, and its rate unless that is too high for
`PAL`. -/
theorem setMainBs_size (k : Driver) (inputSystem : Int) (v : Video) :
  (setMainBs k inputSystem v).width = v.width ∧ (setMainBs k inputSystem v).height = v.height
    ∧ (v.fps ≤ 25 → (setMainBs k inputSystem v).enc.frameRate = v.fps)
  := by
  unfold setMainBs
  dsimp only
  obtain ⟨hwidth, hheight, hrate⟩ := setRateCtl_sameSize k _ (setCodec k _ _)
  obtain ⟨hwidth', hheight', hrate'⟩ := setCodec_sameSize k _ _
  refine ⟨hwidth.trans hwidth', hheight.trans hheight', ?_⟩
  intro hfps
  apply (hrate.trans hrate').trans
  apply (setRoi_frameRate _ _).trans
  apply if_neg
  rintro ⟨-, hover⟩
  apply Int.not_lt.mpr hfps hover

/-- `set_sub_bs` hands over the size of the stream `i`, and its rate, as they are in `v`. -/
theorem setSubBs_size (k : Driver) (i : SubNum) (v : Video) :
  (setSubBs k i v).width = v.width ∧ (setSubBs k i v).height = v.height
    ∧ (setSubBs k i v).enc.frameRate = v.fps
  := by
  unfold setSubBs
  dsimp only
  obtain ⟨hwidth, hheight, hrate⟩ := setRateCtl_sameSize k v (setCodec k v _)
  obtain ⟨hwidth', hheight', hrate'⟩ := setCodec_sameSize k v _
  refine ⟨hwidth.trans hwidth', hheight.trans hheight', (hrate.trans hrate').trans ?_⟩
  apply setRoi_frameRate

/-- The encoder is configured alike for a main stream `main` and another stream `sub`, but for the
bit rate. -/
structure AlikeBut (main sub : BitStream) : Prop where
  frameRate : main.enc.frameRate = sub.enc.frameRate
  ipInterval : main.enc.ipInterval = sub.enc.ipInterval
  initQuant : main.enc.initQuant = sub.enc.initQuant
  maxQuant : main.enc.maxQuant = sub.enc.maxQuant
  minQuant : main.enc.minQuant = sub.enc.minQuant
  isUseROI : main.enc.isUseROI = sub.enc.isUseROI
  roiWin : main.enc.roiWin = sub.enc.roiWin
  extSize : main.enc.extSize = sub.enc.extSize
  ext : main.ext = sub.ext

/-- The encoder is configured alike for a main stream `main` and another stream `sub`, and the bit
rate is the same. -/
structure Alike (main sub : BitStream) : Prop extends AlikeBut main sub where
  bitRate : main.enc.bitRate = sub.enc.bitRate

variable {k : Driver} {inputSystem : Int} {v : Video} {i : SubNum} {bs bs' : BitStream}

/-- The switch over `enc_type` leaves the encoder parameters in `enc` as they are; it is about
`ext`. -/
theorem setCodec_enc (k : Driver) (v : Video) (bs : BitStream) :
  (setCodec k v bs).enc = bs.enc
  := by
  rw [setCodec]
  split
  · rfl
  · split <;> rfl

theorem AlikeBut.setCodec (h : AlikeBut bs bs') (henc : bs.encType = bs'.encType) :
  AlikeBut (setCodec k v bs) (setCodec k v bs')
  := by
  have hext : (Encoding.setCodec k v bs).ext = (Encoding.setCodec k v bs').ext
    := by
    simp only [Encoding.setCodec, henc, h.ext]
    split
    · rfl
    · split <;> rfl
  constructor
  case ext => apply hext
  all_goals rw [setCodec_enc, setCodec_enc]
  · apply h.frameRate
  · apply h.ipInterval
  · apply h.initQuant
  · apply h.maxQuant
  · apply h.minQuant
  · apply h.isUseROI
  · apply h.roiWin
  · apply h.extSize

/-- The switch over `rate_ctl_type` does not read the bit rate, and so keeps two streams alike but
for it. -/
theorem AlikeBut.setRateCtl (h : AlikeBut bs bs') :
  AlikeBut (setRateCtl k v bs) (setRateCtl k v bs')
  := by
  rw [Encoding.setRateCtl, Encoding.setRateCtl, h.ext]
  split
  · exact { h with initQuant := rfl, maxQuant := rfl, minQuant := rfl, ext := rfl }
  · split
    · exact { h with initQuant := rfl, maxQuant := rfl, minQuant := rfl, ext := rfl }
    · split
      · exact { h with initQuant := rfl, maxQuant := rfl, minQuant := rfl, ext := rfl }
      · exact { h with initQuant := rfl, maxQuant := rfl, minQuant := rfl, ext := rfl }

/-- With `RATE_CTL_VBR`, the switch over `rate_ctl_type` leaves the bit rate as it is. -/
theorem setRateCtl_bitRate_vbr (h : v.rateCtlType = rateCtlVbr) :
  (setRateCtl k v bs).enc.bitRate = bs.enc.bitRate
  := by
  have hecbr : ¬ rateCtlVbr = rateCtlEcbr := by decide
  have hevbr : ¬ rateCtlVbr = rateCtlEvbr := by decide
  rw [setRateCtl, h, if_neg hecbr, if_neg hevbr, if_pos rfl]

/-- With another kind than `RATE_CTL_VBR`, the switch over `rate_ctl_type` sets the bit rate. -/
theorem setRateCtl_bitRate (h : v.rateCtlType ≠ rateCtlVbr) :
  (setRateCtl k v bs).enc.bitRate = if v.rateCtlType = rateCtlEvbr then 0 else bitRate v
  := by
  obtain hecbr | hecbr := eq_or_ne v.rateCtlType rateCtlEcbr
  · have hevbr : ¬ rateCtlEcbr = rateCtlEvbr := by decide
    rw [setRateCtl, if_pos hecbr, hecbr, if_neg hevbr]
  · obtain hevbr | hevbr := eq_or_ne v.rateCtlType rateCtlEvbr
    · rw [setRateCtl, if_neg hecbr, if_pos hevbr, if_pos hevbr]
    · rw [setRateCtl, if_neg hecbr, if_neg hevbr, if_neg h, if_neg hevbr]

/-- The region of interest in `v` leaves the bit rate in `enc` as it is. -/
theorem setRoi_bitRate (v : Video) (enc : EncParam) :
  (setRoi v enc).bitRate = enc.bitRate
  := by
  rw [setRoi]
  split <;> rfl

/-- For a system that is not PAL, `set_main_bs` does not limit the frame rate of `v`. -/
theorem setMainBs_eq (h : inputSystem ≠ pal) :
  setMainBs k inputSystem v
    = setRateCtl k v (setCodec k v
        { mainChSetting with
          width := v.width
          height := v.height
          encType := v.encType
          enc := { setRoi v { mainChSetting.enc with
            frameRate := v.fps, ipInterval := v.ipInterval, bitRate := bitRate v } with
              extSize := k.extSize }
          ext := { zeroExt with featureEnable := 0 } })
  := by
  have hntsc : ¬ (ntsc = pal ∧ v.fps > 25)
    := by
    rintro ⟨heq, -⟩
    contradiction
  simp only [setMainBs, if_neg h, if_neg hntsc]

/-- The bit rate that `set_main_bs` hands over with `RATE_CTL_VBR` is the one that is configured in
`v`, or its default. -/
theorem setMainBs_vbr (h : inputSystem ≠ pal) (hvbr : v.rateCtlType = rateCtlVbr) :
  (setMainBs k inputSystem v).enc.bitRate = bitRate v
  := by rw [setMainBs_eq h, setRateCtl_bitRate_vbr hvbr, setCodec_enc, setRoi_bitRate]

/-- The bit rate that `set_sub_bs` hands over with `RATE_CTL_VBR` is that of `sub_ch_setting`,
whatever is configured in `v`. -/
theorem setSubBs_vbr (hvbr : v.rateCtlType = rateCtlVbr) :
  (setSubBs k i v).enc.bitRate = 262144
  := by
  rw [setSubBs, setRateCtl_bitRate_vbr hvbr, setCodec_enc, setRoi_bitRate]
  rfl

/-- For a system that is not PAL, `set_main_bs` and `set_sub_bs` always agree but for the bit
rate. -/
theorem alikeBut (h : inputSystem ≠ pal) :
  AlikeBut (setMainBs k inputSystem v) (setSubBs k i v)
  := by
  rw [setMainBs_eq h, setSubBs]
  apply AlikeBut.setRateCtl
  apply AlikeBut.setCodec
  · rw [setRoi, setRoi]
    split
    · constructor <;> rfl
    · constructor <;> rfl
  · rfl

/-- With another rate control than `RATE_CTL_VBR`, `set_main_bs` and `set_sub_bs` agree about the
bit rate too. -/
theorem alike_of_ne_vbr (h : inputSystem ≠ pal) (hvbr : v.rateCtlType ≠ rateCtlVbr) :
  Alike (setMainBs k inputSystem v) (setSubBs k i v)
  := by
  constructor
  · apply alikeBut h
  · rw [setMainBs_eq h, setSubBs, setRateCtl_bitRate hvbr, setRateCtl_bitRate hvbr]

/-- For every stream, as main stream of a system that is not PAL and as sub stream: the bit rate,
the frame rate, the interval of the I frames, the quantisers, the region of interest and the
extended parameters that the driver gets are the same exactly if the rate control is not
`RATE_CTL_VBR`, or the bit rate is the one of `sub_ch_setting`. -/
theorem alike_iff (k : Driver) (h : inputSystem ≠ pal) (v : Video) (i : SubNum) :
  Alike (setMainBs k inputSystem v) (setSubBs k i v)
    ↔ v.rateCtlType ≠ rateCtlVbr ∨ bitRate v = 262144
  := by
  constructor
  · intro halike
    obtain hvbr | hvbr := eq_or_ne v.rateCtlType rateCtlVbr
    · right
      rw [← setMainBs_vbr h hvbr, halike.bitRate, setSubBs_vbr hvbr]
    · left
      apply hvbr
  · intro hcond
    obtain hvbr | hvbr := eq_or_ne v.rateCtlType rateCtlVbr
    · obtain hne | hbit := hcond
      · contradiction
      · apply Alike.mk (alikeBut h)
        rw [setMainBs_vbr h hvbr, setSubBs_vbr hvbr, hbit]
    · apply alike_of_ne_vbr h hvbr

/-- The general `alike_iff` at a stream of 2 Mbit/s with `RATE_CTL_EVBR`, for a CMOS sensor. -/
theorem alike_evbr :
  Alike (setMainBs ⟨1, 2, 0⟩ Boot.cmos { Boot.mainStream.video with rateCtlType := rateCtlEvbr })
    (setSubBs ⟨1, 2, 0⟩ 1 { Boot.mainStream.video with rateCtlType := rateCtlEvbr })
  := by
  apply (alike_iff _ _ _ _).mpr
  · left
    decide
  · decide

/-- With `RATE_CTL_VBR` the same stream gets 2 Mbit/s as main stream, and the 256 kbit/s of the
template as sub stream. -/
theorem not_alike_vbr :
  ({ Boot.mainStream with
      video := { Boot.mainStream.video with rateCtlType := rateCtlVbr } } : Boot.Stream).Accepted
  ∧ ¬ Alike
    (setMainBs ⟨1, 2, 0⟩ Boot.cmos { Boot.mainStream.video with rateCtlType := rateCtlVbr })
    (setSubBs ⟨1, 2, 0⟩ 1 { Boot.mainStream.video with rateCtlType := rateCtlVbr })
  := by
  constructor
  · constructor <;> decide
  · intro halike
    have hbit := halike.bitRate
    contradiction

/-- The streams that are loaded from an encoder file with the numbers `u` are configured alike. -/
theorem alike_loadVideo (k : Driver) (h : inputSystem ≠ pal) (u : UbsField → Int) (i : SubNum) :
  Alike (setMainBs k inputSystem (loadVideo u)) (setSubBs k i (loadVideo u))
  := by
  apply alike_of_ne_vbr h
  rw [loadVideo]
  dsimp only
  split
  · decide
  · decide

end Rtspd.Encoding
