import Avserver.Rtspd.Streams
import Avserver.Msg.Branch

/-!
# The parameters of the streams at the boot

`env_cfg_init` takes the parameters of all streams from `ipc.cfg`.  Those of the first two
streams of a channel are then replaced by those in the encoder file of the channel, if there is
one; else they are written to that file.  What is in the file, or has been written to it, is
also what `processMsg` reports and changes: it is copied to `g_stAv_0_file` and `g_stAv_1_file`.

On its way from the file to `enc[]` a parameter may be limited or recoded: the frame rate, the
interval of the I frames, the type of the stream and of its encoder, and the rate control.
Nothing of the kind is done when the file is written, or when it is copied to the globals.
-/

namespace Rtspd.Boot

open Msg (AvField UbsField)

/-! ### Data -/

/-- The sections of `ipc.cfg` that are read: `enc_c` of a channel, and `enc_c_i` of one of its
streams. -/
inductive Section where
  | enc (c : ChNum)
  | bs (c : ChNum) (i : SubNum)

/-- The keys in the sections of `ipc.cfg`, of a channel the first three, and of a stream the
others. -/
inductive CfgKey where
  | temporalDenoise | deInterlace | inputSystem
  | optType | encType | audioEncType | fps | width | height | mjpegQuality | rateCtlType
  | maxQuant | minQuant | initQuant | kbps | targetRateMax | reactionDelayMax
  | enabledRoi | roiX | roiY | roiW | roiH
deriving DecidableEq

/-- The numbers of a section of `ipc.cfg`, for the keys that it has; `none` for the others. -/
abbrev Keys := CfgKey → Option Int

/-- The contents of `ipc.cfg`, which may lack any section: `none` for those that it does not
have. -/
abbrev IpcCfg := Section → Option Keys

/-- The members of `video` of a stream, under their names in the source, but for `enabled`. -/
@[ext]
structure Video where
  encType : Int
  fps : Int
  ipInterval : Int
  width : Int
  height : Int
  mjpegQuality : Int
  rateCtlType : Int
  maxQuant : Int
  minQuant : Int
  initQuant : Int
  bps : Int
  targetRateMax : Int
  reactionDelayMax : Int
  enabledRoi : Int
  roiX : Int
  roiY : Int
  roiW : Int
  roiH : Int
deriving DecidableEq

/-- A stream, with those of its members that `env_cfg_init` reads or sets for it. -/
structure Stream where
  optType : Int
  enabled : Bool
  videoEnabled : Bool
  audioEnabled : Bool
  audioBps : Int
  audioEncType : Int
  video : Video
deriving DecidableEq

/-- A channel, with those of its members that `env_cfg_init` reads or sets, and its streams. -/
structure Channel where
  denoise : Int
  deInterlace : Int
  inputSystem : Int
  bs : SubNum → Stream

/-- The number of a stream that an encoder file has parameters of, which are those below
`MAX_UPDATE_SUB_CHN`. -/
abbrev UbsNum := Fin Msg.maxUpdateSubChn

/-- `Av_cfg_t`, the contents of an encoder file: the channel, its parameters, and those of its
streams in `ubs`. -/
structure AvCfg where
  chn : Int
  av : AvField → Int
  ubs : UbsNum → UbsField → Int

/-- The parameters of a stream before start-up, when they are all zero, like the `Stream`s, the
`Channel`s and the files. -/
def zeroVideo : Video := ⟨0, 0, 0, 0, 0, 0, 0, 0, 0, 0, 0, 0, 0, 0, 0, 0, 0, 0⟩
@[inherit_doc zeroVideo] def zeroChannel : Channel :=
  ⟨0, 0, 0, fun _ => ⟨0, false, false, false, 0, 0, zeroVideo⟩⟩
@[inherit_doc zeroVideo] def zeroFile : AvCfg := ⟨0, fun _ => 0, fun _ _ => 0⟩

/-- The globals that are initialised, the encoder files of the channels, and the local variable
`stAv_file`, which is never cleared. -/
structure State where
  enc : ChNum → Channel
  nvrSendStatus : ChNum → SubNum → Int
  encFile : ChNum → Option AvCfg
  gStAv : ChNum → AvCfg
  stAvFile : AvCfg

/-- What `env_cfg_init` finds: `ipc.cfg`, whether `fopen` of an encoder file succeeds, and the value
`GMVAL_DO_NOT_CARE`. -/
structure Env where
  cfg : IpcCfg
  fopen : ChNum → Bool
  doNotCare : Int

/-- What ends `env_cfg_init` before it returns: the program ends by `exit`, or it accesses `enc[]`
outside of its bounds. -/
inductive Stop where
  | exit | index
deriving DecidableEq

/-! ### Reading `ipc.cfg` -/

/-- The value of the `int` that an operation on `int`s with the exact result `v` has given, around
the ends of 32 bits. -/
def toInt (v : Int) : Int := Int.bmod v (2 ^ 32)

/-- The parameters of a stream as they are in its section `sec`; `none`, if one of the keys is
missing. -/
def Keys.video (doNotCare : Int) (sec : Keys) : Option Video := do
  let encType ← sec .encType
  let fps ← sec .fps
  let width ← sec .width
  let height ← sec .height
  let mjpegQuality ← sec .mjpegQuality
  let rateCtlType ← sec .rateCtlType
  let maxQuant ← sec .maxQuant
  let minQuant ← sec .minQuant
  let initQuant ← sec .initQuant
  let kbps ← sec .kbps
  let targetRateMax ← sec .targetRateMax
  let reactionDelayMax ← sec .reactionDelayMax
  some {
    encType := encType
    fps := fps
    ipInterval := fps * 1
    width := width
    height := height
    mjpegQuality := mjpegQuality
    rateCtlType := rateCtlType
    maxQuant := maxQuant
    minQuant := minQuant
    initQuant := initQuant
    bps := toInt (kbps * 1000)
    targetRateMax := toInt (targetRateMax * 1000)
    reactionDelayMax := toInt (reactionDelayMax * 1000)
    enabledRoi := (sec .enabledRoi).getD doNotCare
    roiX := (sec .roiX).getD doNotCare
    roiY := (sec .roiY).getD doNotCare
    roiW := (sec .roiW).getD doNotCare
    roiH := (sec .roiH).getD doNotCare }

/-- The stream `i` of the channel `c` is initialised from `ipc.cfg`, or marked as not there if it
has no section. -/
def readStream (env : Env) (c : ChNum) (i : SubNum) (b : Stream) : Option Stream :=
  match env.cfg (.bs c i) with
  | none =>
      some { b with optType := 0, enabled := false, videoEnabled := false, audioEnabled := false }
  | some sec => do
      let optType ← sec .optType
      let audioEncType ← sec .audioEncType
      let video ← sec.video env.doNotCare
      some { b with
        optType := optType, audioBps := 8000 * 8, audioEncType := audioEncType, video := video }

/-- All of the streams of a channel, if there is none among them of which a key is missing. -/
def allStreams (bs : SubNum → Option Stream) : Option (SubNum → Stream) :=
  if h : ∀ i, (bs i).isSome then some fun i => (bs i).get (h i) else none

/-- The channel `c` is initialised from its section `sec` and those of its streams; `none`, if a key
is missing. -/
def readChannel (env : Env) (c : ChNum) (sec : Keys) (e : Channel) : Option Channel := do
  let denoise ← sec .temporalDenoise
  let deInterlace ← sec .deInterlace
  let inputSystem ← sec .inputSystem
  let bs ← allStreams fun i => readStream env c i (e.bs i)
  some { denoise := denoise, deInterlace := deInterlace, inputSystem := inputSystem, bs := bs }

/-! ### Encoder files -/

/-- The number among the streams of a channel of the stream `i` that an encoder file has parameters
of. -/
def UbsNum.subNum (i : UbsNum) : SubNum := i.castLE (by decide)

/-- The parameters of a stream as they are loaded from an encoder file, with the numbers `u` that
are stored for the stream. -/
def loadVideo (u : UbsField → Int) : Video :=
  let fps := if u .frameRate > 25 then 25 else u .frameRate
  { encType := 0
    fps := fps
    bps := u .bitRate
    ipInterval := if u .ipInterval > toInt (2 * fps) then toInt (2 * fps) else u .ipInterval
    width := u .width
    height := u .height
    rateCtlType := if u .rateCtlType = 0 then 0 else 3
    targetRateMax := u .targetRateMax
    reactionDelayMax := u .reactionDelayMax
    initQuant := u .initQuant
    maxQuant := u .maxQuant
    minQuant := u .minQuant
    mjpegQuality := u .mjpegQuality
    enabledRoi := u .enabledRoi
    roiX := u .roiX
    roiY := u .roiY
    roiW := u .roiW
    roiH := u .roiH }

/-- The stream `b` is loaded from an encoder file: enabled with the parameters that `u` has, or
disabled. -/
def loadStream (u : UbsField → Int) (b : Stream) : Stream :=
  if u .streamEnable ≠ 0 then
    { b with optType := 1, audioBps := 8000 * 8, audioEncType := 0, video := loadVideo u }
  else { b with optType := 0, videoEnabled := false, enabled := false }

/-- `NTSC` and `CMOS` -/
def ntsc : Int := 0
@[inherit_doc ntsc] def cmos : Int := 2

/-- The channel `e` is loaded from the encoder file `f`, and so are those of its streams that the
file has parameters of. -/
def loadChannel (f : AvCfg) (e : Channel) : Channel where
  denoise := f.av .denoise
  deInterlace := f.av .deInterlace
  inputSystem :=
    if f.av .inputSystem > cmos ∨ f.av .inputSystem < ntsc then cmos else f.av .inputSystem
  bs := fun i =>
    if h : i.val < Msg.maxUpdateSubChn then loadStream (f.ubs ⟨i.val, h⟩) (e.bs i) else e.bs i

/-- The parameters `v` of an enabled stream as they are stored in an encoder file. -/
def saveVideo (v : Video) : UbsField → Int
  | .streamEnable => 1
  | .encType => v.encType
  | .frameRate => v.fps
  | .bitRate => v.bps
  | .ipInterval => v.ipInterval
  | .width => v.width
  | .height => v.height
  | .rateCtlType => v.rateCtlType
  | .targetRateMax => v.targetRateMax
  | .reactionDelayMax => v.reactionDelayMax
  | .initQuant => v.initQuant
  | .maxQuant => v.maxQuant
  | .minQuant => v.minQuant
  | .mjpegQuality => v.mjpegQuality
  | .enabledRoi => v.enabledRoi
  | .roiX => v.roiX
  | .roiY => v.roiY
  | .roiW => v.roiW
  | .roiH => v.roiH

/-- A stream is stored; the parameters of a stream that is not enabled stay what they are in
`stAv_file`. -/
def saveStream (b : Stream) (u : UbsField → Int) : UbsField → Int :=
  if b.optType ≠ 0 then saveVideo b.video else Function.update u .streamEnable 0

/-- What the encoder file of the channel `c` contains when the parameters in `e` are stored in
it. -/
def saveChannel (c : ChNum) (e : Channel) (f : AvCfg) : AvCfg where
  chn := c.val
  av
    | .denoise => e.denoise
    | .deInterlace => e.deInterlace
    | .inputSystem => e.inputSystem
  ubs := fun i => saveStream (e.bs i.subNum) (f.ubs i)

/-! ### The boot -/

/-- The channel that the encoder file `f` is for; `none`, if the number in it is not one of a
channel. -/
def AvCfg.channel (f : AvCfg) : Option ChNum :=
  if h : 0 ≤ f.chn ∧ f.chn < 2 then some ⟨f.chn.toNat, by omega⟩ else none

/-- An encoder file that has the number of the channel `c` in `chn` is for that channel. -/
theorem AvCfg.channel_of_chn {f : AvCfg} {c : ChNum} (h : f.chn = c.val) : f.channel = some c := by
  have hbounds : 0 ≤ f.chn ∧ f.chn < 2 := by omega
  rw [AvCfg.channel, dif_pos hbounds]
  simp [h]

/-- The encoder file `f` is loaded to the channel whose number is in it, whichever channel is being
read. -/
def loadFile (f : AvCfg) (s : State) : Except Stop State :=
  match f.channel with
  | some d =>
      .ok { s with stAvFile := f, enc := Function.update s.enc d (loadChannel f (s.enc d)) }
  | none => .error .index

/-- The encoder file of the channel `c` is written, with the parameters that the channel has in
`enc[]`. -/
def writeFile (c : ChNum) (s : State) : State :=
  let f := saveChannel c (s.enc c) s.stAvFile
  { s with stAvFile := f, encFile := Function.update s.encFile c (some f) }

/-- The loop body of `env_cfg_init` for the channel `c`, with whether the loop goes on behind it. -/
def initChannel (env : Env) (c : ChNum) (s : State) : Except Stop (State × Bool) :=
  match env.cfg (.enc c) with
  | none => .ok (s, true)
  | some sec =>
      match readChannel env c sec (s.enc c) with
      | none => .error .exit
      | some e => do
          let s := { s with
            enc := Function.update s.enc c e
            nvrSendStatus := Function.update s.nvrSendStatus c fun _ => 0 }
          if env.fopen c then
            let s ←
              match s.encFile c with
              | some f => loadFile f s
              | none => .ok (writeFile c s)
            .ok ({ s with gStAv := Function.update s.gStAv c s.stAvFile }, true)
          else .ok (s, false)

/-- `env_cfg_init` -/
def envCfgInit (env : Env) (s : State) : Except Stop State := do
  let (s, go) ← initChannel env 0 s
  if go then
    let (s, _) ← initChannel env 1 s
    .ok s
  else .ok s

/-! ### One iteration -/

variable {env : Env} {c : ChNum} {s s' : State} {go : Bool}

/-- The iteration for a channel `c` that has no section in `ipc.cfg` changes nothing. -/
theorem initChannel_skip (hsec : env.cfg (.enc c) = none) :
  initChannel env c s = .ok (s, true)
  := by simp only [initChannel, hsec]

/-- The iteration for a channel `c` without an encoder file reads the channel from `ipc.cfg` and
writes the file. -/
theorem initChannel_new
    {sec : Keys} {e : Channel} (hsec : env.cfg (.enc c) = some sec)
    (hread : readChannel env c sec (s.enc c) = some e) (hopen : env.fopen c = true)
    (hfile : s.encFile c = none) :
  ∃ s', initChannel env c s = .ok (s', true) ∧ s'.enc = Function.update s.enc c e
    ∧ s'.encFile = Function.update s.encFile c (some (saveChannel c e s.stAvFile))
    ∧ s'.gStAv = Function.update s.gStAv c (saveChannel c e s.stAvFile)
  := by
  simp only [initChannel, hsec, hread, hopen, if_true, hfile]
  refine ⟨_, rfl, rfl, ?_, ?_⟩
  · simp only [writeFile, Function.update_self]
  · simp only [writeFile, Function.update_self]

/-- The iteration for a channel `c` whose encoder file is not opened reads the channel, and ends the
loop. -/
theorem initChannel_closed
    {sec : Keys} {e : Channel} (hsec : env.cfg (.enc c) = some sec)
    (hread : readChannel env c sec (s.enc c) = some e) (hopen : env.fopen c = false) :
  ∃ s', initChannel env c s = .ok (s', false) ∧ s'.enc = Function.update s.enc c e
    ∧ s'.encFile = s.encFile ∧ s'.gStAv = s.gStAv
  := by
  simp only [initChannel, hsec, hread, hopen]
  exact ⟨_, rfl, rfl, rfl, rfl⟩

/-- The iteration for a channel `c` with an encoder file `f` that is for the channel `d` loads the
latter from it. -/
theorem initChannel_load
    {sec : Keys} {e : Channel} {f : AvCfg} {d : ChNum} (hsec : env.cfg (.enc c) = some sec)
    (hread : readChannel env c sec (s.enc c) = some e) (hopen : env.fopen c = true)
    (hfile : s.encFile c = some f) (hd : f.channel = some d) :
  ∃ s', initChannel env c s = .ok (s', true)
    ∧ s'.enc = Function.update (Function.update s.enc c e) d
        (loadChannel f (Function.update s.enc c e d))
    ∧ s'.encFile = s.encFile ∧ s'.gStAv = Function.update s.gStAv c f
  := by
  simp only [initChannel, hsec, hread, hopen, if_true, hfile, loadFile, hd]
  exact ⟨_, rfl, rfl, rfl, rfl⟩

/-- The iteration for a channel with an encoder file `f` for no channel accesses `enc[]` outside of
its bounds. -/
theorem initChannel_index
    {sec : Keys} {e : Channel} {f : AvCfg} (hsec : env.cfg (.enc c) = some sec)
    (hread : readChannel env c sec (s.enc c) = some e) (hopen : env.fopen c = true)
    (hfile : s.encFile c = some f) (hd : f.channel = none) :
  initChannel env c s = .error .index
  := by
  simp only [initChannel, hsec, hread, hopen, if_true, hfile, loadFile, hd]
  rfl

/-! ### Encoder files that are for their own channels -/

/-- What a boot makes of the channel `e` with an encoder `file` of its own, or none; `none`, if a
key is missing. -/
def bootChannel (env : Env) (c : ChNum) (file : Option AvCfg) (e : Channel) : Option Channel :=
  match env.cfg (.enc c) with
  | none => some e
  | some sec => (readChannel env c sec e).map fun e =>
      match file with
      | some f => loadChannel f e
      | none => e

/-- The encoder file of the channel `c`, if there is one in `s`, is for that channel. -/
def OwnFile (c : ChNum) (s : State) : Prop := ∀ f, s.encFile c = some f → f.channel = some c

/-- What the iteration for the channel `c` does to that channel from `s` to `s'`, and that it leaves
the others alone. -/
structure Booted (env : Env) (c : ChNum) (s s' : State) : Prop where
  enc : bootChannel env c (s.encFile c) (s.enc c) = some (s'.enc c)
  enc_of_ne : ∀ d, d ≠ c → s'.enc d = s.enc d
  encFile_of_ne : ∀ d, d ≠ c → s'.encFile d = s.encFile d
  skipped : env.cfg (.enc c) = none → s'.encFile c = s.encFile c
  saved : ∀ sec, env.cfg (.enc c) = some sec → s.encFile c = none →
    ∃ u, s'.encFile c = some (saveChannel c (s'.enc c) u)

/-- The iteration for a channel `c` that is not read, or whose file is its own, is `Booted` if its
keys are there. -/
theorem initChannel_own
    (hopen : env.fopen c = true) (hown : OwnFile c s) {e : Channel}
    (he : bootChannel env c (s.encFile c) (s.enc c) = some e) :
  ∃ s', initChannel env c s = .ok (s', true) ∧ Booted env c s s'
  := by
  cases hsec : env.cfg (.enc c) with
  | none =>
      use s, initChannel_skip hsec
      have henc : bootChannel env c (s.encFile c) (s.enc c) = some (s.enc c) := by
        simp only [bootChannel, hsec]
      exact ⟨henc, fun _ _ => rfl, fun _ _ => rfl, fun _ => rfl, fun sec hsec' => by
        rw [hsec] at hsec'; contradiction⟩
  | some sec =>
      have hboot := he
      simp only [bootChannel, hsec] at hboot
      obtain ⟨e₀, hread, he₀⟩ := Option.map_eq_some_iff.mp hboot
      cases hfile : s.encFile c with
      | none =>
          obtain ⟨s', hok, henc, hencFile, _⟩ := initChannel_new hsec hread hopen hfile
          rw [hfile] at he₀ he
          refine ⟨s', hok, ?_, ?_, ?_, ?_, ?_⟩
          · rw [hfile, henc, Function.update_self, he]
            exact congrArg some he₀.symm
          · intro d hd
            rw [henc, Function.update_of_ne hd]
          · intro d hd
            rw [hencFile, Function.update_of_ne hd]
          · intro hnone
            rw [hsec] at hnone
            contradiction
          · intro _ _ _
            use s.stAvFile
            rw [hencFile, henc, Function.update_self, Function.update_self]
      | some f =>
          obtain ⟨s', hok, henc, hencFile, _⟩ :=
            initChannel_load hsec hread hopen hfile (hown f hfile)
          rw [hfile] at he₀ he
          refine ⟨s', hok, ?_, ?_, ?_, ?_, ?_⟩
          · rw [hfile, henc, Function.update_self, Function.update_self, he]
            exact congrArg some he₀.symm
          · intro d hd
            rw [henc, Function.update_of_ne hd, Function.update_of_ne hd]
          · intro d hd
            rw [hencFile]
          · intro hnone
            rw [hsec] at hnone
            contradiction
          · intro _ _ hnone
            rw [hfile] at hnone
            contradiction

/-- The iteration for a channel `c` of which a key is missing in `ipc.cfg` ends the program. -/
theorem initChannel_exit
    (he : bootChannel env c (s.encFile c) (s.enc c) = none) :
  initChannel env c s = .error .exit
  := by
  simp only [bootChannel] at he
  split at he
  · contradiction
  · next sec hsec =>
      have hread := Option.map_eq_none_iff.mp he
      simp only [initChannel, hsec, hread]

/-- What a boot from `s` to `s'` does to every channel when the encoder files are for their own
channels. -/
structure BootedAll (env : Env) (s s' : State) : Prop where
  enc : ∀ c, bootChannel env c (s.encFile c) (s.enc c) = some (s'.enc c)
  skipped : ∀ c, env.cfg (.enc c) = none → s'.encFile c = s.encFile c
  saved : ∀ c sec, env.cfg (.enc c) = some sec → s.encFile c = none →
    ∃ u, s'.encFile c = some (saveChannel c (s'.enc c) u)

/-- The iterations for the channels 0 and 1, one after the other, make up a boot of both. -/
theorem Booted.all {s₁ : State} (h₀ : Booted env 0 s s₁) (h₁ : Booted env 1 s₁ s') :
  BootedAll env s s'
  := by
  constructor
  · intro c
    match c with
    | 0 =>
        rw [h₀.enc, h₁.enc_of_ne 0 (by decide)]
    | 1 =>
        rw [← h₁.enc, h₀.enc_of_ne 1 (by decide), h₀.encFile_of_ne 1 (by decide)]
  · intro c hsec
    match c with
    | 0 => rw [h₁.encFile_of_ne 0 (by decide), h₀.skipped hsec]
    | 1 => rw [h₁.skipped hsec, h₀.encFile_of_ne 1 (by decide)]
  · intro c sec hsec hnone
    match c with
    | 0 =>
        obtain ⟨u, hu⟩ := h₀.saved sec hsec hnone
        use u
        rw [h₁.encFile_of_ne 0 (by decide), hu, h₁.enc_of_ne 0 (by decide)]
    | 1 =>
        apply h₁.saved sec hsec
        rw [h₀.encFile_of_ne 1 (by decide), hnone]

/-- A boot with encoder files of their own channels is completed and `BootedAll`, if all keys are
there. -/
theorem envCfgInit_own
    (hopen : ∀ c, env.fopen c = true) (hown : ∀ c, OwnFile c s)
    (hboot : ∀ c, ∃ e, bootChannel env c (s.encFile c) (s.enc c) = some e) :
  ∃ s', envCfgInit env s = .ok s' ∧ BootedAll env s s'
  := by
  obtain ⟨e₀, he₀⟩ := hboot 0
  obtain ⟨s₁, hok₁, hbooted₁⟩ := initChannel_own (hopen 0) (hown 0) he₀
  obtain ⟨e₁, he₁⟩ := hboot 1
  have hfile : s₁.encFile 1 = s.encFile 1 := hbooted₁.encFile_of_ne 1 (by decide)
  have hown₁ : OwnFile 1 s₁ := by
    intro f hf
    apply hown 1 f
    rw [← hfile, hf]
  rw [← hfile, ← hbooted₁.enc_of_ne 1 (by decide)] at he₁
  obtain ⟨s', hok', hbooted'⟩ := initChannel_own (hopen 1) hown₁ he₁
  use s'
  constructor
  · simp only [envCfgInit, hok₁, bind, Except.bind, if_true, hok']
  · apply hbooted₁.all hbooted'

/-- If a boot with encoder files of their own channels is completed, then it is `BootedAll`. -/
theorem BootedAll.of_envCfgInit
    (hopen : ∀ c, env.fopen c = true) (hown : ∀ c, OwnFile c s) (h : envCfgInit env s = .ok s') :
  BootedAll env s s'
  := by
  have hboot : ∀ c, ∃ e, bootChannel env c (s.encFile c) (s.enc c) = some e := by
    intro c
    apply Option.ne_none_iff_exists'.mp
    intro hnone
    match c with
    | 0 =>
        rw [envCfgInit, initChannel_exit hnone] at h
        contradiction
    | 1 =>
        cases hboot₀ : bootChannel env 0 (s.encFile 0) (s.enc 0) with
        | none =>
            rw [envCfgInit, initChannel_exit hboot₀] at h
            contradiction
        | some e =>
            obtain ⟨s₁, hok, hbooted⟩ := initChannel_own (hopen 0) (hown 0) hboot₀
            rw [← hbooted.encFile_of_ne 1 (by decide), ← hbooted.enc_of_ne 1 (by decide)] at hnone
            simp only [envCfgInit, hok, bind, Except.bind, if_true, initChannel_exit hnone] at h
            contradiction
  obtain ⟨s₁, hok, hbooted⟩ := envCfgInit_own hopen hown hboot
  rw [hok] at h
  obtain rfl := Except.ok.inj h
  apply hbooted

end Rtspd.Boot
