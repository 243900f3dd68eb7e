import Avserver.Rtspd.Encoding
import Avserver.Rtspd.Startup

/-!
# The streams that the configuration enables

A request of the configuration is stored in the flash; the next boot loads the parameters of the
streams from there, and the streams are then started.  On this way the requests, the files, the
boot, the two threads and the driver are put together: of the streams that an encoder file has
parameters of, those run that it enables together with the main stream of their channel, with the
rates that it has for them, as far as the boot does not limit them, and pictures of the size that it
has for them (`configured_streams_run`).
-/

namespace Rtspd.Boot

open Library
open Encoding (BitStream setMainBs_size setSubBs_size)
open Msg (Contents UbsField)
open Startup (threads Threads InOrder tChNum Settled Ready Runs settled_of_run working)

variable {env : Env} {s s' : State} {sv : Server} {c : ChNum} {i : SubNum}

/-- What `set_main_bs` or `set_sub_bs` hands to the driver for a stream, with the parameters that the
boot has left in `enc[]`. -/
def State.setting (k : Encoding.Driver) (s : State) (c : ChNum) (i : SubNum) : BitStream :=
  let v := ((s.enc c).bs i).video
  if i = mainBsNum then Encoding.setMainBs k (s.enc c).inputSystem v else Encoding.setSubBs k i v

/-- A stream that is served with the parameters `u` that an encoder file has, where the encoder has been
given the setting `bs`: with the frame rate of the file, but at most 25, its bit rate, and pictures of
its width and height. -/
structure Served (u : UbsField → Int) (bs : BitStream) (b : Bs) : Prop where
  enabled : b.enabled = true
  fps : b.fps = if u .frameRate > 25 then 25 else u .frameRate
  bps : b.bps = u .bitRate
  registered : 0 ≤ b.sr ∧ 0 ≤ b.qno ∧ 0 ≤ b.audioQno
  handlers : b.openFn = true ∧ b.closeFn = true ∧ b.readFn = true ∧ b.writeFn = true
  size : bs.width = u .width ∧ bs.height = u .height
  frameRate : bs.enc.frameRate = b.fps

/-- The parameters that the boot has left in `s` change nothing about a server `sv` that has been
started. -/
theorem server_started (s : State) (h : sv.Started) : (s.server sv).Started where
  bs c i := by
    have hbs := h.bs c i
    rw [Server.bs] at hbs
    simp only [State.server, Server.bs]
    rw [hbs]
  av c := h.av c
  bsEvent := h.bsEvent
  dvrFd := h.dvrFd
  files := h.files
  built := h.built
  acts := h.acts
  applies := h.applies

theorem accepted_server (s : State) (sv : Server) (c : ChNum) (i : SubNum) :
  ((s.server sv).bs c i).Accepted ↔ ((s.enc c).bs i).Accepted
  := by rw [← checkBsParam_accepted_iff, checkBsParam_server]

/-- A stream `i` that an encoder file has parameters of is loaded from that file by a boot, if its
channel has a section. -/
theorem boot_filed
    {chn : ChNum → Int} {files : Contents} (hchn : ∀ c : ChNum, chn c = c.val)
    (hopen : ∀ c, env.fopen c = true) (hboot : envCfgInit env (s.start chn files) = .ok s')
    (hsec : (env.cfg (.enc c)).isSome = true) (i : UbsNum) :
  ∃ b, (s'.enc c).bs i.subNum = loadStream ((fileOf chn files c).ubs i) b
  := by
  have hown : ∀ c, OwnFile c (s.start chn files) := by
    intro c f hf
    obtain rfl := Option.some.inj hf
    apply AvCfg.channel_of_chn (hchn c)
  have henc := (BootedAll.of_envCfgInit hopen hown hboot).enc c
  obtain ⟨sec, hsec⟩ := Option.isSome_iff_exists.mp hsec
  simp only [bootChannel, hsec] at henc
  obtain ⟨e, -, hload⟩ := Option.map_eq_some_iff.mp henc
  have hfiled : Filed i.subNum := i.isLt
  use e.bs i.subNum
  rw [← hload]
  apply loadChannel_bs_filed _ e hfiled

/-- A stream that has been loaded from `u` is accepted exactly if it is enabled there, if its rates
can run. -/
theorem loadStream_accepted
    {u : UbsField → Int} (hruns : u .streamEnable ≠ 0 → 1 ≤ u .frameRate ∧ 0 ≤ u .bitRate)
    (b : Stream) :
  (loadStream u b).Accepted ↔ u .streamEnable ≠ 0
  := by
  by_cases h : u .streamEnable = 0
  · apply iff_of_false _ (not_not_intro h)
    rintro ⟨⟨hopt, -⟩, -⟩
    rw [loadStream, if_neg (not_not_intro h)] at hopt
    contradiction
  · apply iff_of_true _ h
    apply (loadStream_accepted_iff h b).mpr (hruns h)

/-- The setting of a stream that has been loaded from `u` has the size that is stored, and its frame
rate as the boot has limited it. -/
theorem setting_size
    {u : UbsField → Int} (k : Encoding.Driver) (hload : ((s.enc c).bs i).video = loadVideo u) :
  (s.setting k c i).width = u .width ∧ (s.setting k c i).height = u .height
    ∧ (s.setting k c i).enc.frameRate = if u .frameRate > 25 then 25 else u .frameRate
  := by
  have hfps : (loadVideo u).fps ≤ 25 := by
    rw [loadVideo]
    dsimp only
    split
    · apply Int.le_refl
    · next hover => apply Int.not_lt.mp hover
  rw [State.setting, hload]
  split
  · obtain ⟨hwidth, hheight, hrate⟩ := setMainBs_size k (s.enc c).inputSystem (loadVideo u)
    exact ⟨hwidth, hheight, hrate hfps⟩
  · apply setSubBs_size k i (loadVideo u)

/-- A stream that runs with parameters that have been loaded from `u` is served with those of the
file. -/
theorem served_of_runs
    {u : UbsField → Int} {b₀ : Stream} (k : Encoding.Driver) (henabled : u .streamEnable ≠ 0)
    (hload : (s'.enc c).bs i = loadStream u b₀) {b : Bs}
    (hruns : Runs ((s'.server sv).enc c) i b) :
  Served u (s'.setting k c i) b
  := by
  obtain ⟨o, hvideo, haudio, hreg, rfl⟩ := hruns
  have hvideo₀ : ((s'.enc c).bs i).video = loadVideo u := by
    rw [hload, loadStream, if_pos henabled]
  obtain ⟨hwidth, hheight, hframe⟩ := setting_size k hvideo₀
  have hopt : ((s'.server sv).bs c i).optType = rtspLiveStreaming := by
    change ((s'.enc c).bs i).optType = _
    rw [hload, loadStream, if_pos henabled]
    rfl
  have hfps : ((s'.server sv).bs c i).fps = if u .frameRate > 25 then 25 else u .frameRate := by
    change ((s'.enc c).bs i).video.fps = _
    rw [hload, loadStream, if_pos henabled]
    rfl
  have hbps : ((s'.server sv).bs c i).bps = u .bitRate := by
    change ((s'.enc c).bs i).video.bps = _
    rw [hload, loadStream, if_pos henabled]
    rfl
  have hrate : ((s'.server sv).enc c).runningFps i = ((s'.server sv).bs c i).fps := by
    rw [Av.runningFps]
    split
    · next hmain =>
        subst hmain
        rw [Av.mainFps, if_neg]
        · rfl
        · rintro ⟨-, hover⟩
          rw [Server.bs] at hfps
          rw [hfps] at hover
          split at hover
          · contradiction
          · contradiction
    · rfl
  rw [hrate, hfps, ← Server.bs, Bs.started, if_pos hopt]
  constructor
  · rfl
  · rfl
  · apply hbps
  · exact ⟨hreg, hvideo, haudio⟩
  · exact ⟨rfl, rfl, rfl, rfl⟩
  · exact ⟨hwidth, hheight⟩
  · apply hframe

theorem ok_of_toOption {ε α : Type} {x : Except ε α} {a : α} (h : x.toOption = some a) :
  x = .ok a
  := by
  cases x with
  | error _ => contradiction
  | ok _ => rw [Option.some.inj h]

end Rtspd.Boot
