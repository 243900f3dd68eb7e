import Avserver.Rtspd.Effects
import Avserver.Rtspd.Events

/-!
# Starting a stream that fails

`open_bs` goes through several calls of the driver.  When one of them fails it returns without
taking back what has been done before; so the flags of the stream and of its channel are as
they were only if the call that failed is among the first ones (`open_bs_atomic_iff`).
-/

namespace Rtspd

variable {o : Calls} {c : ChNum} {i : SubNum} {s s' : Server}

/-! ### The failures that leave nothing behind -/

/-- All the calls in `o` that `open_bs` makes for a main stream succeed. -/
structure Calls.MainOpens (o : Calls) : Prop where
  openEnc : 0 ≤ o.openEnc
  setChannelParam : 0 ≤ o.setChannelParam
  outputBufferSize : 0 ≤ o.outputBufferSize
  queueOffset : ∀ j, j ≠ mainBsNum → 0 ≤ o.queueOffset j
  mmap : o.mmap = true
  encControl : 0 ≤ o.encControl
  commonApply : 0 ≤ o.commonApply

/-- The channel `c` and the flags of its stream `i` are the same in `s'` as in `s`. -/
structure Kept (c : ChNum) (i : SubNum) (s s' : Server) : Prop where
  enabled : (s'.enc c).enabled = (s.enc c).enabled
  encFd : (s'.enc c).encFd = (s.enc c).encFd
  bsEnabled : (s'.bs c i).enabled = (s.bs c i).enabled
  videoEnabled : (s'.bs c i).videoEnabled = (s.bs c i).videoEnabled

/-- Nothing fails, or what fails first in `open_bs` is the test of the parameters, the test whether
the stream runs already, or the first call: for a main stream the opening of a channel that is
marked as closed, for another the call that sets its parameters. -/
def FailsFirst (o : Calls) (c : ChNum) (i : SubNum) (s : Server) : Prop :=
  checkBsParam c i s < 0 ∨
  if i = mainBsNum then
    (s.bs c i).enabled = true ∨ 0 < (s.enc c).encFd ∨
    ((s.enc c).enabled = true ∨ o.openEnc < 0) ∧ (s.enc c).encFd = -1 ∨
    (s.enc c).enabled = false ∧ o.MainOpens
  else
    (s.bs c i).videoEnabled = true ∨ o.setSubBsParam < 0 ∨ 0 ≤ o.encControl ∧ 0 ≤ o.commonApply

/-- `set_bs_buf` succeeds exactly when all the calls in `o` that it makes do. -/
theorem setBsBuf_nonneg_iff :
  ¬ setBsBuf o < 0 ↔
    0 ≤ o.outputBufferSize ∧ (∀ j, j ≠ mainBsNum → 0 ≤ o.queueOffset j) ∧ o.mmap = true
  := by
  unfold setBsBuf
  by_cases hsize : o.outputBufferSize < 0
  · simp only [if_pos hsize, Int.reduceNeg, Int.reduceLT, not_true_eq_false, false_iff]
    rintro ⟨hle, -⟩
    omega
  · by_cases hoffset : ∀ j, j ≠ mainBsNum → 0 ≤ o.queueOffset j
    · have hany : ((List.finRange 9).any fun j => j ≠ mainBsNum ∧ o.queueOffset j < 0) = false := by
        rw [List.any_eq_false]
        intro j _
        simp only [decide_eq_true_eq, not_and, Int.not_lt]
        apply hoffset j
      rw [if_neg hsize, if_neg (by rw [hany]; simp)]
      cases o.mmap
      · simp
      · simpa [Int.not_lt.mp hsize] using hoffset
    · have hany : ((List.finRange 9).any fun j => j ≠ mainBsNum ∧ o.queueOffset j < 0) = true := by
        rw [List.any_eq_true]
        obtain ⟨j, hj⟩ := Classical.not_forall.mp hoffset
        obtain ⟨hmain, hlt⟩ := Classical.not_imp.mp hj
        exact ⟨j, List.mem_finRange j, decide_eq_true ⟨hmain, Int.not_le.mp hlt⟩⟩
      rw [if_neg hsize, if_pos hany]
      simp [hoffset]

/-! ### The two halves of `open_bs` -/

theorem Kept.refl (c : ChNum) (i : SubNum) (s : Server) : Kept c i s s := ⟨rfl, rfl, rfl, rfl⟩

/-- An assignment `f` to the stream, and not to its flags, keeps the stream and the channel as they
were. -/
theorem Kept.setBs
    {f : Bs → Bs} (henabled : (f (s.bs c i)).enabled = (s.bs c i).enabled)
    (hvideo : (f (s.bs c i)).videoEnabled = (s.bs c i).videoEnabled) :
  Kept c i s (s.setBs c i f)
  := by
  constructor
  · apply Server.enabled_setBs
  · apply Server.encFd_setBs
  · rw [Server.bs_setBs, henabled]
  · rw [Server.bs_setBs, hvideo]

/-- When the parameters of the stream `i` cannot be set, that is all that `open_bs` does. -/
theorem openBs_of_fail {r : Int} (h : configureBs o c i s = (r, s')) (hr : r < 0) :
  openBs o c i s = (r, s')
  := by
  rw [openBs, h]
  simp only [if_pos hr]

/-- When the parameters have been set, the flags stay as they are, and the calls of `open_bs` that
are left decide whether it fails. -/
theorem openBs_of_configured {r : Int} (h : configureBs o c i s = (r, s')) (hr : ¬ r < 0) :
  ((openBs o c i s).1 < 0 ↔ ¬ (0 ≤ o.encControl ∧ 0 ≤ o.commonApply)) ∧
  Kept c i s' (openBs o c i s).2
  := by
  rw [openBs, h]
  simp only [if_neg hr, applyBs]
  by_cases hcontrol : o.encControl < 0
  · simp only [if_pos hcontrol, Int.reduceNeg, Int.reduceLT, if_true, true_iff]
    refine ⟨?_, Kept.refl c i s'⟩
    rintro ⟨hle, -⟩
    omega
  · by_cases happly : o.commonApply < 0
    · simp only [if_neg hcontrol, if_pos happly, Int.reduceNeg, Int.reduceLT, if_true, true_iff]
      refine ⟨?_, rfl, rfl, rfl, rfl⟩
      rintro ⟨-, hle⟩
      omega
    · simp only [if_neg hcontrol, if_neg happly, Int.reduceLT, if_false]
      have hcalls : 0 ≤ o.encControl ∧ 0 ≤ o.commonApply :=
        ⟨Int.not_lt.mp hcontrol, Int.not_lt.mp happly⟩
      split
      · have hkept : Kept c i (s'.apply c) ((s'.apply c).setBs c i fun b =>
            { b with
              openFn := true, closeFn := true, readFn := true, freeFn := false, writeFn := true }) :=
          Kept.setBs rfl rfl
        exact ⟨by simp [hcalls], hkept.enabled, hkept.encFd, hkept.bsEnabled, hkept.videoEnabled⟩
      · exact ⟨by simp [hcalls], rfl, rfl, rfl, rfl⟩

/-- A main stream of `c` whose parameters are refused or that runs already is left alone by
`set_main_bs`. -/
theorem setMainBs_refused
    (h : checkBsParam c mainBsNum s < 0 ∨ (s.bs c mainBsNum).enabled = true ∨
      0 < (s.enc c).encFd) :
  setMainBs o c s = (-1, s)
  := by
  by_cases hcheck : checkBsParam c mainBsNum s < 0
  · rw [setMainBs, if_pos hcheck]
  · by_cases hbs : (s.bs c mainBsNum).enabled = true
    · rw [setMainBs, if_neg hcheck, if_pos hbs]
    · have hfd := (h.resolve_left hcheck).resolve_left hbs
      rw [setMainBs, if_neg hcheck, if_neg hbs, if_pos hfd]

/-- A channel `c` that cannot be opened is marked as closed by the descriptor -1. -/
theorem setMainBs_closed
    (hcheck : ¬ checkBsParam c mainBsNum s < 0) (hbs : ¬ (s.bs c mainBsNum).enabled = true)
    (hfd : ¬ 0 < (s.enc c).encFd) (hfails : (s.enc c).enabled = true ∨ o.openEnc < 0) :
  setMainBs o c s = (-1, s.setAv c fun e => { e with encFd := -1 })
  := by
  have hopen : openChannel o c s = (-1, s) := by
    unfold openChannel
    by_cases hchannel : (s.enc c).enabled = true
    · rw [if_pos hchannel]
    · rw [if_neg hchannel, if_pos (hfails.resolve_left hchannel)]
  rw [setMainBs, if_neg hcheck, if_neg hbs, if_neg hfd, hopen]
  rfl

/-- A channel `c` that is opened is enabled, whatever fails behind the call of `open`. -/
theorem setMainBs_opened
    (hcheck : ¬ checkBsParam c mainBsNum s < 0) (hbs : ¬ (s.bs c mainBsNum).enabled = true)
    (hfd : ¬ 0 < (s.enc c).encFd) (hchannel : ¬ (s.enc c).enabled = true)
    (hopen : ¬ o.openEnc < 0) :
  ((setMainBs o c s).1 < 0 ↔ ¬ (¬ o.setChannelParam < 0 ∧ ¬ setBsBuf o < 0)) ∧
  ((setMainBs o c s).2.enc c).enabled = true
  := by
  rw [setMainBs, if_neg hcheck, if_neg hbs, if_neg hfd, openChannel, if_neg hchannel, if_neg hopen]
  simp only [if_neg hopen]
  by_cases hparam : o.setChannelParam < 0
  · simp [hparam]
  · by_cases hbuf : setBsBuf o < 0
    · simp [hparam, hbuf]
    · simp [hparam, hbuf]

/-! ### Which failures leave the flags alone -/

/-- `open_bs` of a main stream that is not refused leaves the flags alone when it fails, exactly
under these conditions. -/
theorem open_main_atomic_iff
    (hcheck : ¬ checkBsParam c mainBsNum s < 0) (hbs : ¬ (s.bs c mainBsNum).enabled = true)
    (hfd : ¬ 0 < (s.enc c).encFd) :
  ((openBs o c mainBsNum s).1 < 0 → Kept c mainBsNum s (openBs o c mainBsNum s).2) ↔
    ((s.enc c).enabled = true ∨ o.openEnc < 0) ∧ (s.enc c).encFd = -1 ∨
    (s.enc c).enabled = false ∧ o.MainOpens
  := by
  have hconfigure : configureBs o c mainBsNum s = setMainBs o c s := if_pos rfl
  by_cases hfails : (s.enc c).enabled = true ∨ o.openEnc < 0
  · have hnot : ¬ ((s.enc c).enabled = false ∧ o.MainOpens) := by
      rintro ⟨hchannel, hopens⟩
      have hle := hopens.openEnc
      obtain henabled | hlt := hfails
      · rw [hchannel] at henabled
        contradiction
      · omega
    rw [openBs_of_fail (hconfigure.trans (setMainBs_closed hcheck hbs hfd hfails)) (by decide)]
    simp only [hfails, hnot, true_and, or_false]
    constructor
    · intro hkept
      have hsame := (hkept (by decide)).encFd
      rw [Server.enc_setAv] at hsame
      apply hsame.symm
    · intro hclosed _
      constructor
      · rw [Server.enc_setAv]
      · rw [Server.enc_setAv, hclosed]
      · rw [Server.bs_setAv]
        rfl
      · rw [Server.bs_setAv]
        rfl
  · obtain ⟨hchannel, hopen⟩ := not_or.mp hfails
    obtain ⟨hret, henabled⟩ := setMainBs_opened hcheck hbs hfd hchannel hopen
    have hopens : o.MainOpens ↔ (¬ o.setChannelParam < 0 ∧ ¬ setBsBuf o < 0) ∧
        0 ≤ o.encControl ∧ 0 ≤ o.commonApply := by
      rw [setBsBuf_nonneg_iff]
      constructor
      · rintro ⟨-, h₁, h₂, h₃, h₄, h₅, h₆⟩
        exact ⟨⟨Int.not_lt.mpr h₁, h₂, h₃, h₄⟩, h₅, h₆⟩
      · rintro ⟨⟨h₁, h₂, h₃, h₄⟩, h₅, h₆⟩
        exact ⟨Int.not_lt.mp hopen, Int.not_lt.mp h₁, h₂, h₃, h₄, h₅, h₆⟩
    have hkey : ((openBs o c mainBsNum s).1 < 0 ↔ ¬ o.MainOpens) ∧
        ((openBs o c mainBsNum s).2.enc c).enabled = true := by
      by_cases hr : (setMainBs o c s).1 < 0
      · rw [openBs_of_fail (hconfigure.trans rfl) hr]
        refine ⟨iff_of_true hr ?_, henabled⟩
        rw [hopens]
        exact fun h => hret.mp hr h.1
      · obtain ⟨hret', hkept⟩ := openBs_of_configured (hconfigure.trans rfl) hr
        have hset : ¬ o.setChannelParam < 0 ∧ ¬ setBsBuf o < 0 := by
          by_contra h
          apply hr (hret.mpr h)
        refine ⟨?_, hkept.enabled.trans henabled⟩
        rw [hret', hopens]
        simp only [hset, not_false_eq_true, true_and]
    have hchannel' : (s.enc c).enabled = false := by simpa using hchannel
    rw [hkey.1, or_iff_right (fun h => hfails h.1), and_iff_right hchannel']
    constructor
    · intro hkept
      by_contra hnot
      have hsame := (hkept hnot).enabled
      rw [hkey.2, hchannel'] at hsame
      contradiction
    · intro hopens hnot
      exact absurd hopens hnot

/-- `open_bs` of a stream `i` other than the main stream, whose parameters are not refused, leaves
the flags alone when it fails, exactly under these conditions. -/
theorem open_sub_atomic_iff (hmain : i ≠ mainBsNum) (hcheck : ¬ checkBsParam c i s < 0) :
  ((openBs o c i s).1 < 0 → Kept c i s (openBs o c i s).2) ↔
    (s.bs c i).videoEnabled = true ∨ o.setSubBsParam < 0 ∨ 0 ≤ o.encControl ∧ 0 ≤ o.commonApply
  := by
  have hconfigure : configureBs o c i s = setSubBs o c i s := if_neg hmain
  rw [setSubBs, if_neg hcheck] at hconfigure
  by_cases hvideo : (s.bs c i).videoEnabled = true
  · rw [if_pos hvideo] at hconfigure
    have hkept := (openBs_of_configured hconfigure (by decide)).2
    simp only [hvideo, true_or, iff_true]
    exact fun _ => hkept
  · rw [if_neg hvideo] at hconfigure
    rw [or_iff_right hvideo]
    by_cases hparam : o.setSubBsParam < 0
    · rw [if_pos hparam] at hconfigure
      rw [openBs_of_fail hconfigure (by decide)]
      simp only [hparam, true_or, iff_true]
      exact fun _ => Kept.refl c i s
    · rw [if_neg hparam] at hconfigure
      obtain ⟨hret, hkept⟩ := openBs_of_configured hconfigure (by decide)
      rw [or_iff_right hparam, hret]
      constructor
      · intro h
        by_contra hnot
        have hsame := (h hnot).videoEnabled
        rw [hkept.videoEnabled, Server.bs_setBs] at hsame
        apply hvideo hsame.symm
      · intro hcalls hnot
        exact absurd hcalls hnot

/-- `open_bs` leaves the flags of `s` alone when it fails, exactly when it `FailsFirst`. -/
theorem open_flags_iff (o : Calls) (c : ChNum) (i : SubNum) (s : Server) :
  ((openBs o c i s).1 < 0 → Kept c i s (openBs o c i s).2) ↔ FailsFirst o c i s
  := by
  unfold FailsFirst
  by_cases hcheck : checkBsParam c i s < 0
  · have hconfigure : configureBs o c i s = (-1, s) := by
      unfold configureBs
      split
      · next hmain =>
          subst hmain
          apply setMainBs_refused (Or.inl hcheck)
      · apply if_pos hcheck
    rw [openBs_of_fail hconfigure (by decide)]
    simp only [hcheck, true_or, iff_true]
    exact fun _ => Kept.refl c i s
  · simp only [hcheck, false_or]
    by_cases hmain : i = mainBsNum
    · subst hmain
      rw [if_pos rfl]
      by_cases hrefused : (s.bs c mainBsNum).enabled = true ∨ 0 < (s.enc c).encFd
      · have hconfigure : configureBs o c mainBsNum s = (-1, s) :=
          (if_pos rfl).trans (setMainBs_refused (Or.inr hrefused))
        rw [openBs_of_fail hconfigure (by decide), ← or_assoc]
        simp only [hrefused, true_or, iff_true]
        exact fun _ => Kept.refl c mainBsNum s
      · obtain ⟨hbs, hfd⟩ := not_or.mp hrefused
        rw [open_main_atomic_iff hcheck hbs hfd, or_iff_right hbs, or_iff_right hfd]
    · rw [if_neg hmain]
      apply open_sub_atomic_iff hmain hcheck

/-- If the flags and the kind of service of the stream are `Kept`, then its start is refused as
before, or is not. -/
theorem Kept.refusal (h : Kept c i s s') (hopt : (s'.bs c i).optType = (s.bs c i).optType) :
  refusal c i .start s' = refusal c i .start s
  := by
  simp only [Rtspd.refusal, h.bsEnabled, hopt]

/-- `open_bs` leaves the flags alone when it fails, and the stream may be started again if it might
before, exactly when it fails first. -/
theorem open_bs_atomic_iff (o : Calls) (c : ChNum) (i : SubNum) (s : Server) :
  ((openBs o c i s).1 < 0 →
    Kept c i s (openBs o c i s).2 ∧
    refusal c i .start (openBs o c i s).2 = refusal c i .start s) ↔
    FailsFirst o c i s
  := by
  rw [← open_flags_iff]
  constructor
  · exact fun h hfails => (h hfails).1
  · intro h hfails
    have hkept := h hfails
    exact ⟨hkept, hkept.refusal ByDriver.openBs.optType⟩

/-- `DVR_ENC_SET_CHANNEL_PARAM` refuses the parameters of a channel that has been opened: the main
stream stays marked as running, and is not started again. -/
theorem open_bs_not_atomic :
  let s := newServer rtspLiveStreaming
  let o := { workingCalls with setChannelParam := -1 }
  (openBs o 0 mainBsNum s).1 < 0 ∧
  ¬ Kept 0 mainBsNum s (openBs o 0 mainBsNum s).2 ∧
  refusal 0 mainBsNum .start s = none ∧
  (envSetBsNewEvent 0 0 .start (openBs o 0 mainBsNum s).2).1 = -1
  := by
  intro s o
  constructor
  · decide
  · constructor
    · intro hkept
      have henabled : ((openBs o 0 mainBsNum s).2.bs 0 mainBsNum).enabled = true := by decide
      rw [hkept.bsEnabled] at henabled
      contradiction
    · constructor
      · decide
      · decide

end Rtspd
