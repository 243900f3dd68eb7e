import Avserver.Msg.Enable
import Avserver.Rtspd.Reboot

/-!
# The streams that can be started after a boot

`check_bs_param` has to accept the parameters of a stream before the stream is started.  A stream
that is loaded from an encoder file is accepted exactly when the frame rate in the file is at
least 1 and the bit rate is not negative.  So a camera keeps its streams over requests and boots
as long as no request enables a stream without such rates.
-/

namespace Rtspd.Boot

open Msg (UbsField Contents)

/-! ### The start of the program -/

/-- `RATE_CTL_ECBR` -/
def rateCtlEcbr : Int := 2

/-- The stream that `env_enc_init` enables, with the parameters that it sets for it. -/
def mainStream : Stream where
  optType := rtspLiveStreaming
  enabled := false
  videoEnabled := false
  audioEnabled := false
  audioBps := 0
  audioEncType := 0
  video := { zeroVideo with
    encType := encTypeH264, bps := 2000000, width := 1280, height := 720, fps := 30
    ipInterval := 30 * 1, rateCtlType := rateCtlEcbr, targetRateMax := 4 * 1024 * 1024
    reactionDelayMax := 10000, maxQuant := 51, minQuant := 1, initQuant := 30 }

/-- `env_enc_init` -/
def envEncInit (c : ChNum) : Channel :=
  { zeroChannel with bs := fun i =>
      if c = 0 ∧ i = mainBsNum then mainStream else zeroChannel.bs i }

/-- The encoder file of the channel `c`, among the files of `processMsg`. -/
def avFile (c : ChNum) : Msg.AvFile := if c = 0 then .av0 else .av1

/-- The encoder file of a channel, as `processMsg` writes it; the number of the channel stays what
it is in the file. -/
def fileOf (chn : ChNum → Int) (m : Contents) (c : ChNum) : AvCfg where
  chn := chn c
  av := fun f => m.int (.av (avFile c) f)
  ubs := fun i f => m.int (.ubs (avFile c) i.val f)

/-- The start of the program with the `files` that `processMsg` has written. -/
def State.start (s : State) (chn : ChNum → Int) (files : Contents) : State :=
  { s with enc := envEncInit, encFile := fun c => some (fileOf chn files c) }

/-- The server `sv` with the parameters of the streams that the boot has left in `s`. -/
def State.server (s : State) (sv : Server) : Server :=
  { sv with enc := fun c =>
      { sv.enc c with bs := fun i =>
          { (sv.enc c).bs i with
            optType := ((s.enc c).bs i).optType
            encType := ((s.enc c).bs i).video.encType
            fps := ((s.enc c).bs i).video.fps
            bps := ((s.enc c).bs i).video.bps } } }

/-! ### The streams that are accepted -/

/-- The parameters of the stream `b` are ones that `check_bs_param` accepts. -/
structure Stream.Accepted (b : Stream) : Prop where
  optType : rtspLiveStreaming ≤ b.optType ∧ b.optType < optEnd
  encType : encTypeH264 ≤ b.video.encType ∧ b.video.encType ≤ encTypeMjpeg
  fps : 0 < b.video.fps ∧ b.video.fps ≤ 30
  bps : 0 ≤ b.video.bps

theorem checkBsParam_iff {c : ChNum} {i : SubNum} {sv : Server} :
  checkBsParam c i sv = 0
    ↔ (rtspLiveStreaming ≤ (sv.bs c i).optType ∧ (sv.bs c i).optType < optEnd)
      ∧ (encTypeH264 ≤ (sv.bs c i).encType ∧ (sv.bs c i).encType ≤ encTypeMjpeg)
      ∧ (0 < (sv.bs c i).fps ∧ (sv.bs c i).fps ≤ 30) ∧ 0 ≤ (sv.bs c i).bps
  := by
  simp only [checkBsParam]
  constructor
  · intro h
    split at h
    · contradiction
    · split at h
      · contradiction
      · split at h
        · contradiction
        · split at h
          · contradiction
          · omega
  · intro h
    rw [if_neg (by omega), if_neg (by omega), if_neg (by omega), if_neg (by omega)]

/-- `check_bs_param` accepts exactly those streams of `s` whose parameters are `Accepted`. -/
theorem checkBsParam_server (s : State) (sv : Server) (c : ChNum) (i : SubNum) :
  checkBsParam c i (s.server sv) = 0 ↔ ((s.enc c).bs i).Accepted
  := by
  rw [checkBsParam_iff]
  constructor
  · rintro ⟨hopt, henc, hfps, hbps⟩
    exact ⟨hopt, henc, hfps, hbps⟩
  · rintro ⟨hopt, henc, hfps, hbps⟩
    exact ⟨hopt, henc, hfps, hbps⟩

/-- A stream that is enabled in `u` and loaded is accepted exactly when it can run with its
rates. -/
theorem loadStream_accepted_iff
    {u : UbsField → Int} (h : u .streamEnable ≠ 0) (b : Stream) :
  (loadStream u b).Accepted ↔ 1 ≤ u .frameRate ∧ 0 ≤ u .bitRate
  := by
  have hfps : (loadVideo u).fps = if u .frameRate > 25 then 25 else u .frameRate := rfl
  rw [loadStream, if_pos h]
  constructor
  · rintro ⟨-, -, hrate, hbps⟩
    simp only [hfps] at hrate
    constructor
    · omega
    · apply hbps
  · rintro ⟨hrate, hbit⟩
    have hopt : rtspLiveStreaming ≤ 1 ∧ 1 < optEnd := by decide
    have henc : encTypeH264 ≤ 0 ∧ 0 ≤ encTypeMjpeg := by decide
    constructor
    · apply hopt
    · apply henc
    · simp only [hfps]
      omega
    · apply hbit

/-- The streams that only `ipc.cfg` has parameters of are accepted by `check_bs_param`, if they are
enabled. -/
def OthersAccepted (env : Env) : Prop :=
  ∀ c i b, (env.cfg (.enc c)).isSome = true → ¬ Filed i →
    readStream env c i ((envEncInit c).bs i) = some b → b.optType ≠ optNone → b.Accepted

/-- The enabled streams in the encoder file `f` can run with their rates: at least one frame a
second, and no negative bit rate. -/
def AvCfg.Runs (f : AvCfg) : Prop :=
  ∀ i, f.ubs i .streamEnable ≠ 0 → 1 ≤ f.ubs i .frameRate ∧ 0 ≤ f.ubs i .bitRate

/-! ### The boot -/

variable {env : Env} {s s' : State} {c : ChNum}

theorem mainStream_accepted : mainStream.Accepted := by
  constructor
  · decide
  · decide
  · decide
  · decide

/-- `env_enc_init` enables one stream of the channel `c`, which is accepted. -/
theorem envEncInit_accepted
    {i : SubNum} (h : ((envEncInit c).bs i).optType ≠ optNone) :
  ((envEncInit c).bs i).Accepted
  := by
  simp only [envEncInit] at h ⊢
  split at h
  · next hmain =>
      rw [if_pos hmain]
      apply mainStream_accepted
  · contradiction

/-- The streams of a channel with a section that is started with its own encoder file are accepted
exactly when those of the file can run with their rates, and those that only `ipc.cfg` has
parameters of are accepted. -/
theorem bootChannel_accepted_iff
    {sec : Keys} {f : AvCfg} {e : Channel} (hsec : env.cfg (.enc c) = some sec)
    (h : bootChannel env c (some f) (envEncInit c) = some e) :
  (∀ i, (e.bs i).optType ≠ optNone → (e.bs i).Accepted)
    ↔ f.Runs ∧ ∀ i b, ¬ Filed i → readStream env c i ((envEncInit c).bs i) = some b →
      b.optType ≠ optNone → b.Accepted
  := by
  simp only [bootChannel, hsec] at h
  obtain ⟨e', hread, rfl⟩ := Option.map_eq_some_iff.mp h
  constructor
  · intro haccepted
    constructor
    · intro i henabled
      have hfiled : Filed i.subNum := i.isLt
      have hload := haccepted i.subNum
      rw [loadChannel_bs_filed f e' hfiled] at hload
      apply (loadStream_accepted_iff henabled (e'.bs i.subNum)).mp
      apply hload
      have hopt : (loadStream (f.ubs i) (e'.bs i.subNum)).optType = 1 := by
        rw [loadStream, if_pos henabled]
      rw [UbsNum.subNum] at hopt
      simp only [Fin.val_castLE, UbsNum.subNum, hopt]
      decide
    · intro i b hfiled hb hopt
      obtain rfl := Option.some.inj (hb.symm.trans (readChannel_bs hread i))
      have haccepted := haccepted i
      rw [loadChannel_bs_of_not_filed f e' hfiled] at haccepted
      apply haccepted hopt
  · rintro ⟨hruns, hothers⟩ i hopt
    by_cases hfiled : Filed i
    · rw [loadChannel_bs_filed f e' hfiled] at hopt ⊢
      have henabled : f.ubs ⟨i.val, hfiled⟩ .streamEnable ≠ 0 := by
        intro hdisabled
        apply hopt
        simp only [loadStream, hdisabled, ne_eq, not_true_eq_false, if_false, optNone]
      apply (loadStream_accepted_iff henabled _).mpr (hruns _ henabled)
    · rw [loadChannel_bs_of_not_filed f e' hfiled] at hopt ⊢
      apply hothers i _ hfiled (readChannel_bs hread i) hopt

/-- All streams that a boot leaves enabled are accepted exactly when those in the encoder files of
the channels with a section can run with their rates, and those that only `ipc.cfg` has
parameters of are accepted. -/
theorem boot_accepted_iff
    {chn : ChNum → Int} {files : Contents} (hchn : ∀ c : ChNum, chn c = c.val)
    (hopen : ∀ c, env.fopen c = true) (h : envCfgInit env (s.start chn files) = .ok s') :
  (∀ c i, ((s'.enc c).bs i).optType ≠ optNone → ((s'.enc c).bs i).Accepted)
    ↔ (∀ c, (env.cfg (.enc c)).isSome = true → (fileOf chn files c).Runs) ∧ OthersAccepted env
  := by
  have hown : ∀ c, OwnFile c (s.start chn files) := by
    intro c f hf
    obtain rfl := Option.some.inj hf
    apply AvCfg.channel_of_chn (hchn c)
  have hboot := (BootedAll.of_envCfgInit hopen hown h).enc
  have heach : ∀ c, (∀ i, ((s'.enc c).bs i).optType ≠ optNone → ((s'.enc c).bs i).Accepted)
      ↔ ((env.cfg (.enc c)).isSome = true → (fileOf chn files c).Runs)
        ∧ ∀ i b, (env.cfg (.enc c)).isSome = true → ¬ Filed i →
          readStream env c i ((envEncInit c).bs i) = some b → b.optType ≠ optNone →
          b.Accepted := by
    intro c
    cases hsec : env.cfg (.enc c) with
    | none =>
        have henc := hboot c
        simp only [bootChannel, hsec] at henc
        apply iff_of_true
        · rw [← Option.some.inj henc]
          apply envEncInit_accepted
        · simp
    | some sec =>
        simp only [Option.isSome_some, forall_const]
        apply bootChannel_accepted_iff hsec (hboot c)
  constructor
  · intro haccepted
    exact ⟨fun c => ((heach c).mp (haccepted c)).1, fun c => ((heach c).mp (haccepted c)).2⟩
  · rintro ⟨hruns, hothers⟩ c
    apply (heach c).mpr ⟨hruns c, hothers c⟩

/-- The encoder files in `files` can run when the numbers that they have are `Msg.Runnable`. -/
theorem fileOf_runs
    {files : Contents} (chn : ChNum → Int) (h : Msg.Runnable files.int) (c : ChNum) :
  (fileOf chn files c).Runs
  := fun i => h (avFile c) i.val i.isLt

/-- Over every run of requests that enable only streams that can run with their rates, the
streams that the next boot leaves enabled pass the check, if those do that only `ipc.cfg` has
parameters of.  The files have the numbers of their channels, as `env_cfg_init` has written
them. -/
theorem configured_streams_pass
    {d d' : Msg.Device} {rs : List (Msg.Request × Msg.Env)} (hd : d.Runs)
    (h : Library.Run Msg.handle Msg.Careful d rs d') (hopen : ∀ c, env.fopen c = true)
    (hothers : OthersAccepted env) {chn : ChNum → Int} (hchn : ∀ c : ChNum, chn c = c.val)
    (hboot : envCfgInit env (s.start chn d'.flash) = .ok s') (sv : Server) (c : ChNum)
    (i : SubNum) (hopt : ((s'.enc c).bs i).optType ≠ optNone) :
  checkBsParam c i (s'.server sv) = 0
  := by
  apply (checkBsParam_server s' sv c i).mpr
  apply (boot_accepted_iff hchn hopen hboot).mpr _ c i hopt
  constructor
  · intro c _
    apply fileOf_runs chn (hd.run h).flash
  · apply hothers

/-! ### Enabling the second stream -/

/-- A device on which the first stream runs with 25 frames a second; the second one is disabled, and
has never had a frame rate. -/
def oneRunning : Msg.Device :=
  let files := (Contents.setInt .blank (.ubs .av0 0 .streamEnable) 1).setInt
    (.ubs .av0 0 .frameRate) 25
  ⟨files, files⟩

theorem oneRunning_runs : oneRunning.Runs := by
  constructor
  · decide
  · decide

/-- A request by which the second stream is enabled, with `rates` or without. -/
def enableRequest (rates : Msg.Request) : Msg.Request × Msg.Env :=
  ([("0".toList, "1".toList), ("1".toList, "0".toList), ("2".toList, "1".toList)] ++ rates
    ++ [("12".toList, "1".toList)], .idle)

/-- The number of each channel `c`, as it is in `chn` of its own file. -/
def ownNumbers (c : ChNum) : Int := c.val

/-- The second stream behind a boot with `oneStream` is loaded from its place in the `files`. -/
theorem oneStream_second (files : Contents) :
  ∃ s', envCfgInit (oneStream 25) (fresh.start ownNumbers files) = .ok s'
    ∧ (s'.enc 0).bs 1 = loadStream (fun f => files.int (.ubs .av0 1 f)) (zeroChannel.bs 1)
  := by
  refine ⟨_, rfl, ?_⟩
  rfl

/-- A frame rate of 15 and a bit rate of 600, under the keys 14 and 17 of a request. -/
def rates : Msg.Request := [("14".toList, "15".toList), ("17".toList, "600".toList)]

theorem enableRequest_careful : Msg.Careful oneRunning (enableRequest rates) := by
  constructor
  · intro _
    decide
  · decide +kernel

/-- With `rates` in the request, the second stream passes the check behind the next boot. -/
theorem configured_streams_pass_rates :
  ∃ d' s', Library.Run Msg.handle Msg.Careful oneRunning [enableRequest rates] d'
    ∧ envCfgInit (oneStream 25) (fresh.start ownNumbers d'.flash) = .ok s'
    ∧ ((s'.enc 0).bs 1).optType ≠ optNone
    ∧ ∀ sv, checkBsParam 0 1 (s'.server sv) = 0
  := by
  have hhandled : (Msg.handle oneRunning (enableRequest rates)).any
      (fun d => d.flash.int (.ubs .av0 1 .streamEnable) = 1) = true := by decide +kernel
  obtain ⟨d', hstep, henabled⟩ := Option.any_eq_true _ _ |>.mp hhandled
  have henabled : d'.flash.int (.ubs .av0 1 .streamEnable) = 1 := by simpa using henabled
  obtain ⟨s', hboot, hsecond⟩ := oneStream_second d'.flash
  have hopen : ∀ c, (oneStream 25).fopen c = true := fun _ => rfl
  have hothers : OthersAccepted (oneStream 25) := by
    intro c i b _ hfiled hb hopt
    have hnone : (oneStream 25).cfg (.bs c i) = none := by
      apply if_neg
      rintro ⟨_, rfl⟩
      apply hfiled (by decide)
    exact absurd (readStream_none hnone hb) hopt
  have hopt : ((s'.enc 0).bs 1).optType ≠ optNone := by
    rw [hsecond, loadStream, if_pos (by rw [henabled]; decide)]
    exact Int.one_ne_zero
  have hrun := Library.Run.cons enableRequest_careful hstep (Library.Run.nil d')
  use d', s', hrun, hboot, hopt
  intro sv
  apply configured_streams_pass oneRunning_runs hrun hopen hothers (fun _ => rfl) hboot sv 0 1 hopt

/-- Without rates in the request, `check_bs_param` refuses the second stream behind the next
boot. -/
theorem enabled_stream_refused :
  ∃ d' s', oneRunning.Runs
    ∧ Library.Run Msg.handle (fun _ _ => True) oneRunning [enableRequest []] d'
    ∧ envCfgInit (oneStream 25) (fresh.start ownNumbers d'.flash) = .ok s'
    ∧ ((s'.enc 0).bs 1).optType ≠ optNone
    ∧ ∀ sv, checkBsParam 0 1 (s'.server sv) ≠ 0
  := by
  obtain ⟨d', hrun, hd'⟩ := Library.Run.exists_of_exec Msg.handle (fun _ _ => True) oneRunning
    (fun d => d.flash.int (.ubs .av0 1 .streamEnable) = 1
      && d.flash.int (.ubs .av0 1 .frameRate) = 0)
    [enableRequest []] (by decide +kernel)
  rw [Bool.and_eq_true, decide_eq_true_eq, decide_eq_true_eq] at hd'
  obtain ⟨s', hboot, hsecond⟩ := oneStream_second d'.flash
  have henabled : d'.flash.int (.ubs .av0 1 .streamEnable) ≠ 0 := by
    rw [hd'.1]
    decide
  refine ⟨d', s', oneRunning_runs, hrun, hboot, ?_, ?_⟩
  · rw [hsecond, loadStream, if_pos henabled]
    exact Int.one_ne_zero
  · intro sv hpass
    have haccepted := (checkBsParam_server s' sv 0 1).mp hpass
    rw [hsecond, loadStream_accepted_iff henabled, hd'.2] at haccepted
    exact absurd haccepted.1 (by decide)

end Rtspd.Boot
