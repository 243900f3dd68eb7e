import Avserver.Rtspd.Channels

/-!
# The descriptor of the common device

`/dev/dvr_common` is opened once, before the first stream is started, and closed with the last
channel that is open; and nothing opens it again.  So the changes of a channel are applied at an
open device as long as no channel is opened after that (`device_open_of_apply`), and a main
stream that is started anew applies them at a descriptor that has been closed.
-/

namespace Rtspd

open Library

variable {o : Calls} {c : ChNum} {i : SubNum} {s s' : Server}

/-- The common device is open at `rtspd_dvr_fd` alone while a channel is open, and was so whenever
the changes of an open channel were applied. -/
structure Device (s : Server) : Prop where
  dvrFd : 0 ≤ s.rtspdDvrFd
  only : ∀ fd, s.files fd = some .dvrCommon → fd = s.rtspdDvrFd ∧ ∀ c, (s.enc c).encFd ≠ fd
  opened : ∀ c, (s.enc c).enabled = true → s.files s.rtspdDvrFd = some .dvrCommon
  applies : ∀ a ∈ s.applies, a.enabled = true → a.opened = true

namespace Device

theorem of_started (h : s.Started) : Device s where
  dvrFd := h.dvrFd
  only fd hfd := by
    obtain rfl := (h.files fd).mp hfd
    use rfl
    intro c
    have hclosed := (h.av c).2
    have hle := h.dvrFd
    omega
  opened c henabled := by
    rw [(h.av c).1] at henabled
    contradiction
  applies := by
    rw [h.applies]
    exact fun _ ha => absurd ha List.not_mem_nil

/-- For `Device`, only the channels, the descriptors and the changes that have been applied
matter. -/
theorem of_channels
    (h : Device s)
    (hchannel : ∀ d, (s'.enc d).enabled = (s.enc d).enabled ∧ (s'.enc d).encFd = (s.enc d).encFd)
    (hfiles : s'.files = s.files) (hfd : s'.rtspdDvrFd = s.rtspdDvrFd)
    (happlies : s'.applies = s.applies) :
  Device s' where
  dvrFd := by
    rw [hfd]
    apply h.dvrFd
  only fd hopen := by
    rw [hfiles] at hopen
    obtain ⟨heq, hne⟩ := h.only fd hopen
    use heq.trans hfd.symm
    intro c
    rw [(hchannel c).2]
    apply hne c
  opened c henabled := by
    rw [(hchannel c).1] at henabled
    rw [hfiles, hfd]
    apply h.opened c henabled
  applies := by
    rw [happlies]
    apply h.applies

theorem same (hsame : SameDriver s s') (h : Device s) : Device s' :=
  h.of_channels hsame.channel hsame.files hsame.rtspdDvrFd hsame.applies

theorem setBs (f : Bs → Bs) (h : Device s) : Device (s.setBs c i f) :=
  h.of_channels (fun d => ⟨Server.enabled_setBs d f, Server.encFd_setBs d f⟩) rfl rfl rfl

/-- `DVR_COMMON_APPLY` of the channel `c` finds the common device open, if the channel is. -/
theorem apply (h : Device s) : Device (s.apply c) where
  dvrFd := h.dvrFd
  only := h.only
  opened := h.opened
  applies a ha henabled := by
    obtain ha | ha := List.mem_append.mp ha
    · apply h.applies a ha henabled
    · obtain rfl := List.mem_singleton.mp ha
      apply decide_eq_true (h.opened c henabled)

/-- If a channel `c` is marked as closed by the descriptor -1 alone, then the device stays open for
the others. -/
theorem noFd (h : Device s) : Device (s.setAv c fun e => { e with encFd := -1 }) where
  dvrFd := h.dvrFd
  only fd hopen := by
    obtain ⟨rfl, hne⟩ := h.only fd hopen
    use rfl
    intro d
    by_cases hd : d = c
    · subst hd
      have hle := h.dvrFd
      rw [Server.enc_setAv]
      dsimp only
      omega
    · rw [Server.enc_setAv_of_ne hd]
      apply hne d
  opened d henabled := by
    by_cases hd : d = c
    · subst hd
      rw [Server.enc_setAv] at henabled
      apply h.opened d henabled
    · rw [Server.enc_setAv_of_ne hd] at henabled
      apply h.opened d henabled
  applies := h.applies

/-- If a channel `c` is opened while the device is, at a descriptor that was free, then the device
is open for it too. -/
theorem mainOpened
    (h : Device s) (hopen : s.files s.rtspdDvrFd = some .dvrCommon)
    (hfree : s.files o.openEnc = none) (hopened : MainOpened o c s s') :
  Device s'
  := by
  have hne : s.rtspdDvrFd ≠ o.openEnc := by
    intro heq
    rw [heq, hfree] at hopen
    contradiction
  have hdvr : s'.files s'.rtspdDvrFd = some .dvrCommon := by
    rw [hopened.files, hopened.rtspdDvrFd, Function.update_of_ne hne]
    apply hopen
  constructor
  · rw [hopened.rtspdDvrFd]
    apply h.dvrFd
  · intro fd hfd
    have hfd' : fd ≠ o.openEnc := by
      rintro rfl
      rw [hopened.files, Function.update_self] at hfd
      cases hfd
    rw [hopened.files, Function.update_of_ne hfd'] at hfd
    obtain ⟨rfl, hne'⟩ := h.only fd hfd
    use hopened.rtspdDvrFd.symm
    intro d
    by_cases hd : d = c
    · subst hd
      rw [hopened.encFd]
      apply hne.symm
    · rw [hopened.channels d hd]
      apply hne' d
  · exact fun _ _ => hdvr
  · rw [hopened.applies]
    apply h.applies

/-- `close_channel` closes the channel `c`, and with the last one that is open the device. -/
theorem closeChannel (h : Device s) : Device (closeChannel c s) := by
  obtain ⟨henabled, hencFd, hchannels, -⟩ := closeChannel_channels c s
  have hne (fd : Int) (hopen : s.files fd = some .dvrCommon) (d : ChNum) :
      ((Rtspd.closeChannel c s).enc d).encFd ≠ fd := by
    obtain ⟨rfl, hne⟩ := h.only fd hopen
    by_cases hd : d = c
    · subst hd
      have hle := h.dvrFd
      rw [hencFd]
      omega
    · rw [hchannels d hd]
      apply hne d
  obtain ⟨happlies, ⟨-, hfiles, hdvrFd⟩ | ⟨hnone, hfiles, hdvrFd⟩⟩ := closeChannel_files c s
  · constructor
    · rw [hdvrFd]
      apply h.dvrFd
    · intro fd hopen
      have hopen' : s.files fd = some .dvrCommon := by
        rw [hfiles] at hopen
        by_cases hfd : fd = (s.enc c).encFd
        · rw [hfd, Function.update_self] at hopen
          contradiction
        · rwa [Function.update_of_ne hfd] at hopen
      use (h.only fd hopen').1.trans hdvrFd.symm
      apply hne fd hopen'
    · intro d hd
      have hdc : d ≠ c := by
        rintro rfl
        rw [henabled] at hd
        contradiction
      rw [hchannels d hdc] at hd
      have hopen := h.opened d hd
      rw [hfiles, hdvrFd, Function.update_of_ne ((h.only _ hopen).2 c).symm]
      apply hopen
    · rw [happlies]
      apply h.applies
  · constructor
    · apply Int.le_of_eq hdvrFd.symm
    · intro fd hopen
      rw [hfiles] at hopen
      by_cases hfd : fd = s.rtspdDvrFd
      · rw [hfd, Function.update_self] at hopen
        contradiction
      · rw [Function.update_of_ne hfd] at hopen
        by_cases hfd' : fd = (s.enc c).encFd
        · rw [hfd', Function.update_self] at hopen
          contradiction
        · rw [Function.update_of_ne hfd'] at hopen
          exact absurd (h.only fd hopen).1 hfd
    · intro d hd
      rw [hnone d] at hd
      contradiction
    · rw [happlies]
      apply h.applies

/-- `close_bs` -/
theorem closeBs (h : Device s) : Device (closeBs o c i s).2 := by
  obtain ⟨-, heq⟩ | ⟨-, heq⟩ | ⟨-, heq⟩ | ⟨-, heq⟩ | ⟨-, heq⟩ := closeBs_cases o c i s
  · rw [heq]
    apply h
  · rw [heq]
    apply h.apply
  · rw [heq]
    apply h.setBs _
  · rw [heq]
    apply h.apply.setBs _
  · rw [heq]
    apply (h.apply.setBs _).closeChannel

/-- `open_bs` keeps the device open for the channels, unless it opens a channel `c` after the device
has been closed. -/
theorem openBs
    (h : Device s) (hopens : i = mainBsNum → Opens o c s →
      s.files s.rtspdDvrFd = some .dvrCommon ∧ s.files o.openEnc = none) :
  Device (openBs o c i s).2
  := by
  apply openBs_keeps (fun _ _ => same) (fun _ _ => apply)
  unfold configureBs
  split
  · next hmain =>
      obtain heq | heq | ⟨hopen, hopened⟩ := setMainBs_cases o c s
      · rw [heq]
        apply h
      · rw [heq]
        apply h.noFd
      · obtain ⟨hdvr, hfree⟩ := hopens hmain hopen
        apply h.mainOpened hdvr hfree hopened
  · unfold setSubBs
    split
    · apply h
    · split
      · apply h
      · split
        · apply h
        · dsimp only
          apply h.setBs _

end Device

/-! ### Runs -/

/-- The step `input` opens a channel in `s`: it is the turn of its main stream, which is started. -/
def OpensChannel (s : Server) : ServerInput → Prop
  | .turn c i o =>
      s.bsEvent = .start ∧ (s.bs c i).event = .start ∧ i = mainBsNum ∧ Opens (o i) c s
  | _ => False

/-- The descriptor that `open` gives in a step of the server for a channel; -1, where the step is no
turn. -/
def openedFd : ServerInput → Int
  | .turn _ i o => (o i).openEnc
  | _ => -1

/-- If the step `input` opens a channel, then at a descriptor that is not open already, as `open`
promises. -/
def OpensFresh (s : Server) (input : ServerInput) : Prop :=
  OpensChannel s input → s.files (openedFd input) = none

/-- If the step `input` opens a channel, then the common device has not been closed before. -/
def OpensInTime (s : Server) (input : ServerInput) : Prop :=
  OpensChannel s input → s.files s.rtspdDvrFd = some .dvrCommon

/-- When no channel is opened after the device has been closed, the changes of every channel that is
open are applied at the open device, throughout the run of `inputs`. -/
theorem device_open_of_apply
    {s₀ t : Server} {inputs : List ServerInput} (hstart : s₀.Started)
    (hrun : Run serverStep (fun s input => OpensFresh s input ∧ OpensInTime s input) s₀ inputs t) :
  ∀ a ∈ t.applies, a.enabled = true → a.opened = true
  := by
  have hdevice : Device t := by
    apply hrun.invariant _ (Device.of_started hstart)
    rintro s input s' hs ⟨hfresh, htime⟩ hstep
    apply serverStep_keeps (fun _ _ => Device.same) (fun _ _ => Device.apply) _ hs hstep
    rintro c i o rfl
    apply turn_keeps (fun _ _ => Device.same) (fun _ _ _ => Device.closeBs) _ hs
    intro hphase hevent
    apply hs.openBs
    intro hmain hopens
    have hopen : OpensChannel s (.turn c i o) := ⟨hphase, hevent, hmain, hopens⟩
    exact ⟨htime hopen, hfresh hopen⟩
  apply hdevice.applies

instance (o : Calls) (c : ChNum) (s : Server) : Decidable (Opens o c s) :=
  decidable_of_iff (¬ checkBsParam c mainBsNum s < 0 ∧ ¬ (s.bs c mainBsNum).enabled = true ∧
      ¬ 0 < (s.enc c).encFd ∧ ¬ (s.enc c).enabled = true ∧ 0 ≤ o.openEnc)
    ⟨fun ⟨h₁, h₂, h₃, h₄, h₅⟩ => ⟨h₁, h₂, h₃, h₄, h₅⟩, fun h => ⟨h.1, h.2, h.3, h.4, h.5⟩⟩

instance (s : Server) : (input : ServerInput) → Decidable (OpensChannel s input)
  | .turn _ _ _ => inferInstanceAs (Decidable (_ ∧ _))
  | .event _ _ _ => isFalse id
  | .advance => isFalse id
  | .rest => isFalse id
  | .updateParm _ _ => isFalse id
  | .takeFrame _ _ _ => isFalse id
  | .putFrame _ _ => isFalse id

instance (s : Server) (input : ServerInput) : Decidable (OpensFresh s input) :=
  inferInstanceAs (Decidable (_ → _))

instance (s : Server) (input : ServerInput) : Decidable (OpensInTime s input) :=
  inferInstanceAs (Decidable (_ → _))

/-- The general `device_open_of_apply` at a main stream that is started, and stopped again: both are
applied at the open device. -/
theorem device_open_newServer :
  ∃ t, Run serverStep (fun s input => OpensFresh s input ∧ OpensInTime s input)
      (newServer rtspLiveStreaming)
      [.event 0 0 .start, .turn 0 0 (fun _ => workingCalls), .advance,
        .event 0 0 .stop, .turn 0 0 (fun _ => workingCalls), .advance] t ∧
    (∀ a ∈ t.applies, a.enabled = true → a.opened = true) ∧ t.applies.length = 2
  := by
  obtain ⟨t, hrun, ht⟩ := Run.exists_of_exec serverStep
    (fun s input => OpensFresh s input ∧ OpensInTime s input) (newServer rtspLiveStreaming)
    (fun t => t.applies.length == 2)
    [.event 0 0 .start, .turn 0 0 (fun _ => workingCalls), .advance,
      .event 0 0 .stop, .turn 0 0 (fun _ => workingCalls), .advance] (by decide +kernel)
  exact ⟨t, hrun, device_open_of_apply (newServer_started _) hrun, by simpa using ht⟩

/-- A main stream is started, stopped and started again: the second start is applied at
`rtspd_dvr_fd` after this has been closed. -/
theorem device_closed_of_apply :
  (newServer rtspLiveStreaming).Started ∧
  ∃ t, Run serverStep OpensFresh (newServer rtspLiveStreaming)
      [.event 0 0 .start, .turn 0 0 (fun _ => workingCalls), .advance,
        .event 0 0 .stop, .turn 0 0 (fun _ => workingCalls), .advance, .rest,
        .event 0 0 .start, .turn 0 0 (fun _ => workingCalls)] t ∧
    ∃ a ∈ t.applies, a.enabled = true ∧ a.opened = false
  := by
  use newServer_started _
  obtain ⟨t, hrun, ht⟩ := Run.exists_of_exec serverStep OpensFresh (newServer rtspLiveStreaming)
    (fun t => decide (∃ a ∈ t.applies, a.enabled = true ∧ a.opened = false))
    [.event 0 0 .start, .turn 0 0 (fun _ => workingCalls), .advance,
      .event 0 0 .stop, .turn 0 0 (fun _ => workingCalls), .advance, .rest,
      .event 0 0 .start, .turn 0 0 (fun _ => workingCalls)] (by decide +kernel)
  exact ⟨t, hrun, of_decide_eq_true ht⟩

end Rtspd
