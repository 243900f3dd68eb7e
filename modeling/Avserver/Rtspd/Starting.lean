import Avserver.Rtspd.Handlers
import Avserver.Rtspd.OpenBs
import Avserver.Rtspd.Rounds
import Avserver.Rtspd.Startable

/-!
# Starting a stream

A stream is ready if its parameters and those of the main stream of its channel are accepted.  As
long as the calls of the driver and of the streaming library succeed, the start of a ready stream
makes it run, and the start of another one leaves it as it was (`Way.startTurn`), if the main
stream of the channel has its turn first.  So each stream is always at one of four stages of its
way (`Stage`).
-/

namespace Rtspd

open Library

variable {o : Calls} {c d : ChNum} {i j : SubNum} {s s' : Server}

/-! ### Starting a stream -/

/-- The parameters of the stream `b` are ones that `check_bs_param` accepts. -/
def Bs.Accepted (b : Bs) : Prop :=
  (rtspLiveStreaming ≤ b.optType ∧ b.optType < optEnd)
    ∧ (encTypeH264 ≤ b.encType ∧ b.encType ≤ encTypeMjpeg)
    ∧ (0 < b.fps ∧ b.fps ≤ 30) ∧ 0 ≤ b.bps

instance (b : Bs) : Decidable b.Accepted :=
  inferInstanceAs (Decidable ((_ ∧ _) ∧ (_ ∧ _) ∧ (_ ∧ _) ∧ _))

/-- The frame rate with which the main stream of the channel `e` runs, limited to 25 for PAL. -/
def Av.mainFps (e : Av) : Int :=
  if e.inputSystem = pal ∧ (e.bs mainBsNum).fps > 25 then 25 else (e.bs mainBsNum).fps

/-- The frame rate with which the stream `i` of the channel `e` runs. -/
def Av.runningFps (e : Av) (i : SubNum) : Int := if i = mainBsNum then e.mainFps else (e.bs i).fps

/-- The stream `b` when it has been started with the calls `o`: it is served if it is one for live
streaming. -/
def Bs.started (o : Calls) (fps : Int) (b : Bs) : Bs :=
  if b.optType = rtspLiveStreaming then
    { b with
      event := .none, fps, enabled := true, videoEnabled := true
      openFn := true, closeFn := true, readFn := true, freeFn := false, writeFn := true
      qno := o.videoQueue, audioQno := o.audioQueue, sr := o.streamReg }
  else { b with event := .none, fps, enabled := true, videoEnabled := true }

/-- The calls `o` that start the stream `i` of `c` succeed; the driver refuses the parameters of one
other than the main stream if the channel is not open. -/
structure Calls.Work (o : Calls) (c : ChNum) (i : SubNum) (s : Server) : Prop where
  openEnc : 0 < o.openEnc
  main : o.MainOpens
  setSubBsParam : i ≠ mainBsNum → (0 ≤ o.setSubBsParam ↔ 0 < (s.enc c).encFd)
  queues : 0 ≤ o.videoQueue ∧ 0 ≤ o.audioQueue
  streamReg : 0 ≤ o.streamReg

theorem Calls.mainOpens_iff {o : Calls} :
  o.MainOpens ↔ (0 ≤ o.openEnc ∧ 0 ≤ o.setChannelParam ∧ 0 ≤ o.outputBufferSize)
    ∧ (∀ j : SubNum, j ≠ mainBsNum → 0 ≤ o.queueOffset j) ∧ o.mmap = true
    ∧ 0 ≤ o.encControl ∧ 0 ≤ o.commonApply
  :=
  ⟨fun h => ⟨⟨h.openEnc, h.setChannelParam, h.outputBufferSize⟩, h.queueOffset, h.mmap,
      h.encControl, h.commonApply⟩,
    fun ⟨⟨h₁, h₂, h₃⟩, h₄, h₅, h₆, h₇⟩ => ⟨h₁, h₂, h₃, h₄, h₅, h₆, h₇⟩⟩

theorem Calls.work_iff :
  o.Work c i s ↔ 0 < o.openEnc ∧ o.MainOpens
    ∧ (i ≠ mainBsNum → (0 ≤ o.setSubBsParam ↔ 0 < (s.enc c).encFd))
    ∧ (0 ≤ o.videoQueue ∧ 0 ≤ o.audioQueue) ∧ 0 ≤ o.streamReg
  :=
  ⟨fun h => ⟨h.openEnc, h.main, h.setSubBsParam, h.queues, h.streamReg⟩,
    fun ⟨h₁, h₂, h₃, h₄, h₅⟩ => ⟨h₁, h₂, h₃, h₄, h₅⟩⟩

instance decidableMainOpens (o : Calls) : Decidable o.MainOpens :=
  decidable_of_iff _ Calls.mainOpens_iff.symm

instance decidableWork (o : Calls) (c : ChNum) (i : SubNum) (s : Server) :
    Decidable (o.Work c i s) :=
  decidable_of_iff _ Calls.work_iff.symm

theorem checkBsParam_accepted_iff : checkBsParam c i s = 0 ↔ (s.bs c i).Accepted :=
  Boot.checkBsParam_iff

theorem checkBsParam_neg_iff : checkBsParam c i s < 0 ↔ ¬ (s.bs c i).Accepted := by
  rw [← checkBsParam_accepted_iff]
  unfold checkBsParam
  dsimp only
  repeat' split
  all_goals decide

/-- What an assignment `f` to the stream `i` of `c` does to the channels of `s`. -/
theorem Server.enc_setBs (f : Bs → Bs) :
  (s.setBs c i f).enc = Function.update s.enc c
    { s.enc c with bs := Function.update (s.enc c).bs i (f (s.bs c i)) }
  := rfl

theorem enc_initPool (o : Calls) (qno : Int) (s : Server) : (initPool o qno s).2.enc = s.enc := by
  unfold initPool
  split <;> rfl

/-- What `open_live_streaming` of the stream `i` of `c` does to the channels, if `stream_reg`
succeeds. -/
theorem enc_openLiveStreaming (hreg : 0 ≤ o.streamReg) :
  (openLiveStreaming o c i s).2.enc =
    (s.setBs c i fun b =>
      { b with qno := o.videoQueue, audioQno := o.audioQueue, sr := o.streamReg }).enc
  := by
  unfold openLiveStreaming
  dsimp only
  rw [if_neg (Int.not_lt.mpr hreg)]
  apply enc_initPool

/-- The start of a stream `i` of `c` whose parameters have been set with the driver: it is
`Bs.started` if it is one for live streaming. -/
theorem enc_startTurn
    (hconfigured : configureBs o c i s = (0, s')) (hmain : o.MainOpens) (hreg : 0 ≤ o.streamReg)
    (hopen : (s'.bs c i).openFn = false) :
  (startTurn o c i s).enc = Function.update s'.enc c
    { s'.enc c with
      bs := Function.update (s'.enc c).bs i
        (if (s'.bs c i).optType = rtspLiveStreaming then
          { s'.bs c i with
            event := .none
            openFn := true, closeFn := true, readFn := true, freeFn := false, writeFn := true
            qno := o.videoQueue, audioQno := o.audioQueue, sr := o.streamReg }
        else { s'.bs c i with event := .none }) }
  := by
  have happlied : applyBs o c s' = (0, s'.apply c) := by
    rw [applyBs, if_neg (Int.not_lt.mpr hmain.encControl),
      if_neg (Int.not_lt.mpr hmain.commonApply)]
  have hsame : (s'.apply c).bs c i = s'.bs c i := rfl
  unfold startTurn openBs
  simp only [hconfigured, happlied, Int.lt_irrefl, if_false, hsame]
  split
  · have hhandler (f : Bs → Bs) (hf : (f (s'.bs c i)).openFn = true) :
        reopen o c i ((s'.apply c).setBs c i f)
          = (openLiveStreaming o c i ((s'.apply c).setBs c i f)).2 := by
      rw [reopen, Server.bs_setBs, hsame, if_pos hf]
    rw [hhandler _ rfl, settle, Server.enc_setBs, bs_openLiveStreaming, enc_openLiveStreaming hreg]
    simp [Server.enc_setBs, Server.bs, Server.apply]
  · have hclosed : reopen o c i (s'.apply c) = s'.apply c := by
      rw [reopen, hsame, hopen, if_neg Bool.false_ne_true]
    rw [hclosed]
    rfl

/-- The start of the main stream of a channel `c` that is closed opens the channel, and starts the
stream. -/
theorem enc_startTurn_main
    (hwork : o.Work c mainBsNum s) (haccepted : (s.bs c mainBsNum).Accepted)
    (hbs : (s.bs c mainBsNum).enabled = false) (hopen : (s.bs c mainBsNum).openFn = false)
    (hfd : (s.enc c).encFd = -1) (hchannel : (s.enc c).enabled = false) :
  (startTurn o c mainBsNum s).enc = Function.update s.enc c
    { s.enc c with
      enabled := true, encFd := o.openEnc
      bs := Function.update (s.enc c).bs mainBsNum
        ((s.bs c mainBsNum).started o (s.enc c).mainFps) }
  := by
  have hcheck : ¬ checkBsParam c mainBsNum s < 0 := by
    rw [checkBsParam_neg_iff]
    apply not_not_intro haccepted
  have hbuf : ¬ setBsBuf o < 0 := by
    apply setBsBuf_nonneg_iff.mpr
    exact ⟨hwork.main.outputBufferSize, hwork.main.queueOffset, hwork.main.mmap⟩
  have hparam : ¬ o.setChannelParam < 0 := Int.not_lt.mpr hwork.main.setChannelParam
  have hnonneg : ¬ o.openEnc < 0 := Int.not_lt.mpr hwork.main.openEnc
  have hnotopen : ¬ (s.enc c).encFd > 0 := by
    rw [hfd]
    decide
  have hset : ∃ s', setMainBs o c s = (0, s') ∧ s'.enc = Function.update s.enc c
      { s.enc c with
        enabled := true, encFd := o.openEnc
        bs := Function.update (s.enc c).bs mainBsNum
          { s.bs c mainBsNum with
            fps := (s.enc c).mainFps, enabled := true, videoEnabled := true } } := by
    rw [setMainBs, if_neg hcheck, if_neg (by simp [hbs]), if_neg hnotopen, openChannel,
      if_neg (by simp [hchannel]), if_neg hnonneg]
    simp only [if_neg hnonneg, if_neg hparam, if_neg hbuf]
    refine ⟨_, rfl, ?_⟩
    simp [Server.enc_setBs, Server.setAv, Server.bs, Av.mainFps]
  obtain ⟨s', hset, henc⟩ := hset
  have hstream : s'.bs c mainBsNum = { s.bs c mainBsNum with
      fps := (s.enc c).mainFps, enabled := true, videoEnabled := true } := by
    rw [Server.bs, henc]
    simp
  have hconfigured : configureBs o c mainBsNum s = (0, s') := by rw [configureBs, if_pos rfl, hset]
  rw [enc_startTurn hconfigured hwork.main hwork.streamReg (by rw [hstream, hopen]), hstream, henc,
    Bs.started]
  by_cases hopt : (s.bs c mainBsNum).optType = rtspLiveStreaming
  · simp [hopt]
  · simp [hopt]

/-- The start of another stream `i` of a channel `c` that is open starts this stream. -/
theorem enc_startTurn_sub
    (hmain : i ≠ mainBsNum) (hwork : o.Work c i s) (haccepted : (s.bs c i).Accepted)
    (hbs : (s.bs c i).videoEnabled = false) (hopen : (s.bs c i).openFn = false)
    (hfd : 0 < (s.enc c).encFd) :
  (startTurn o c i s).enc = Function.update s.enc c
    { s.enc c with
      bs := Function.update (s.enc c).bs i ((s.bs c i).started o (s.bs c i).fps) }
  := by
  have hcheck : ¬ checkBsParam c i s < 0 := by
    rw [checkBsParam_neg_iff]
    apply not_not_intro haccepted
  have hparam : ¬ o.setSubBsParam < 0 := Int.not_lt.mpr ((hwork.setSubBsParam hmain).mpr hfd)
  have hconfigured : configureBs o c i s =
      (0, s.setBs c i fun b => { b with enabled := true, videoEnabled := true }) := by
    rw [configureBs, if_neg hmain, setSubBs, if_neg hcheck, if_neg (by simp [hbs]), if_neg hparam]
  rw [enc_startTurn hconfigured hwork.main hwork.streamReg (by rw [Server.bs_setBs, hopen]),
    Server.bs_setBs, Server.enc_setBs, Bs.started]
  by_cases hopt : (s.bs c i).optType = rtspLiveStreaming
  · simp [hopt]
  · simp [hopt]

/-- A start that the driver refuses at once leaves the stream `i` of `c` as it is, without the
event. -/
theorem startTurn_refused
    (hrefused : ¬ (s.bs c i).Accepted ∨ i ≠ mainBsNum ∧ (s.bs c i).videoEnabled = false
      ∧ o.setSubBsParam < 0)
    (hopen : (s.bs c i).openFn = false) :
  startTurn o c i s = settle c i s
  := by
  have hconfigured : configureBs o c i s = (-1, s) := by
    by_cases hcheck : checkBsParam c i s < 0
    · rw [configureBs]
      split
      · next hmain =>
          subst hmain
          rw [setMainBs, if_pos hcheck]
      · rw [setSubBs, if_pos hcheck]
    · rw [checkBsParam_neg_iff] at hcheck
      obtain ⟨hmain, hbs, hparam⟩ := hrefused.resolve_left hcheck
      rw [← checkBsParam_neg_iff] at hcheck
      rw [configureBs, if_neg hmain, setSubBs, if_neg hcheck, if_neg (by simp [hbs]),
        if_pos hparam]
  have hopenBs : openBs o c i s = (-1, s) := by
    apply openBs_of_fail hconfigured
    decide
  rw [startTurn, hopenBs, reopen, hopen, if_neg Bool.false_ne_true]

namespace Startup

/-! ### How far the streams are -/

/-- The parameters of the stream `i` and those of the main stream of its channel `e` are
accepted. -/
def Ready (e : Av) (i : SubNum) : Prop := (e.bs i).Accepted ∧ (e.bs mainBsNum).Accepted

/-- The stream `b` is the stream `i` of `e`, started with calls that succeed. -/
def Runs (e : Av) (i : SubNum) (b : Bs) : Prop :=
  ∃ o : Calls, 0 ≤ o.videoQueue ∧ 0 ≤ o.audioQueue ∧ 0 ≤ o.streamReg
    ∧ b = (e.bs i).started o (e.runningFps i)

/-- How far a stream `b` of a channel is on its way from what it was in `e₀`: its start is yet to be
asked for or stands, or has been handled. -/
inductive Stage (e₀ : Av) (i : SubNum) (asked : Prop) (b : Bs) : Prop where
  | waiting (hnot : ¬ asked) (h : b = e₀.bs i)
  | pending (hasked : asked) (h : b = { e₀.bs i with event := .start })
  | runs (hasked : asked) (hready : Ready e₀ i) (h : Runs e₀ i b)
  | refused (hasked : asked) (hready : ¬ Ready e₀ i) (h : b = e₀.bs i)

/-- How far the channel `e` is on its way from `e₀`: its streams are on theirs, and it is open if
its main stream runs. -/
structure Way (e₀ : Av) (asked : Prop) (e : Av) : Prop where
  stage : ∀ i, Stage e₀ i asked (e.bs i)
  inputSystem : e.inputSystem = e₀.inputSystem
  closed : (e.bs mainBsNum).enabled = false → e.encFd = -1 ∧ e.enabled = false
  opened : (e.bs mainBsNum).enabled = true → 0 < e.encFd

/-- None of the streams of the channel `e` has been started, and the channel is closed. -/
structure Untouched (e : Av) : Prop where
  event : ∀ i, (e.bs i).event = .none
  flags : ∀ i, (e.bs i).enabled = false ∧ (e.bs i).videoEnabled = false
  openFn : ∀ i, (e.bs i).openFn = false
  channel : e.encFd = -1 ∧ e.enabled = false

theorem Untouched.of_started (h : s.Started) (c : ChNum) : Untouched (s.enc c) where
  event i := by
    have hbs := h.bs c i
    rw [Server.bs] at hbs
    rw [hbs]
  flags i := by
    have hbs := h.bs c i
    rw [Server.bs] at hbs
    rw [hbs]
    exact ⟨rfl, rfl⟩
  openFn i := by
    have hbs := h.bs c i
    rw [Server.bs] at hbs
    rw [hbs]
  channel := ⟨(h.av c).2, (h.av c).1⟩

variable {e e₀ : Av} {asked : Prop} {b : Bs}

theorem event_started (o : Calls) (fps : Int) (b : Bs) : (b.started o fps).event = .none := by
  rw [Bs.started]
  split <;> rfl

theorem enabled_started (o : Calls) (fps : Int) (b : Bs) : (b.started o fps).enabled = true := by
  rw [Bs.started]
  split <;> rfl

theorem Runs.event (h : Runs e i b) : b.event = .none := by
  obtain ⟨o, -, -, -, rfl⟩ := h
  apply event_started

theorem Runs.enabled (h : Runs e i b) : b.enabled = true := by
  obtain ⟨o, -, -, -, rfl⟩ := h
  apply enabled_started

/-- If the event of a stream `b` on its way is a start, then the start has been asked for and
nothing else has changed. -/
theorem Stage.of_start (h₀ : Untouched e₀) (h : Stage e₀ i asked b) (hevent : b.event = .start) :
  asked ∧ b = { e₀.bs i with event := .start }
  := by
  cases h with
  | waiting _ h =>
      rw [h, h₀.event] at hevent
      contradiction
  | pending hasked h => exact ⟨hasked, h⟩
  | runs _ _ h =>
      rw [h.event] at hevent
      contradiction
  | refused _ _ h =>
      rw [h, h₀.event] at hevent
      contradiction

/-- If the stream `i` of a channel moves on to `b`, and the channel stays as it is, then the channel
is on its way. -/
theorem Way.assign
    (h : Way e₀ asked e) (hstage : Stage e₀ i asked b)
    (hsame : i = mainBsNum → b.enabled = (e.bs i).enabled) :
  Way e₀ asked { e with bs := Function.update e.bs i b }
  := by
  have hmain : (Function.update e.bs i b mainBsNum).enabled = (e.bs mainBsNum).enabled := by
    by_cases hi : i = mainBsNum
    · subst hi
      rw [Function.update_self, hsame rfl]
    · rw [Function.update_of_ne (Ne.symm hi)]
  constructor
  · intro j
    by_cases hj : j = i
    · subst hj
      simpa using hstage
    · simpa [Function.update_of_ne hj] using h.stage j
  · apply h.inputSystem
  · rw [hmain]
    apply h.closed
  · rw [hmain]
    apply h.opened

/-- If the start of a stream `i` that is not `Ready` is over, then the channel is on its way. -/
theorem Way.settle
    (h₀ : Untouched e₀) (h : Way e₀ asked (s.enc c)) (hevent : (s.bs c i).event = .start)
    (hready : ¬ Ready e₀ i) :
  ∃ e, Way e₀ asked e ∧ (settle c i s).enc = Function.update s.enc c e
  := by
  obtain ⟨hasked, hb⟩ := (h.stage i).of_start h₀ hevent
  have hsettled : { s.bs c i with event := .none } = e₀.bs i := by
    rw [Server.bs, hb, ← h₀.event i]
  rw [Rtspd.settle, Server.enc_setBs, hsettled]
  refine ⟨_, ?_, rfl⟩
  apply h.assign (Stage.refused hasked hready rfl)
  intro _
  rw [hb]

/-- If the start of the stream `i` of `c` is handled by calls that succeed, behind that of the main
stream, then the channel is on its way. -/
theorem Way.startTurn
    (h₀ : Untouched e₀) (h : Way e₀ asked (s.enc c)) (hwork : o.Work c i s)
    (hevent : (s.bs c i).event = .start)
    (horder : i = mainBsNum ∨ (s.bs c mainBsNum).event ≠ .start) :
  ∃ e, Way e₀ asked e ∧ (startTurn o c i s).enc = Function.update s.enc c e
  := by
  obtain ⟨hasked, hb⟩ := (h.stage i).of_start h₀ hevent
  have hb' : s.bs c i = { e₀.bs i with event := .start } := hb
  have haccepted : (s.bs c i).Accepted ↔ (e₀.bs i).Accepted := by
    rw [hb']
    rfl
  have hopen : (s.bs c i).openFn = false := by
    rw [hb']
    apply h₀.openFn
  have hflags : (s.bs c i).enabled = false ∧ (s.bs c i).videoEnabled = false := by
    rw [hb']
    apply h₀.flags
  have hstarted (o : Calls) (fps : Int) : (s.bs c i).started o fps = (e₀.bs i).started o fps := by
    rw [hb']
    rfl
  by_cases hi : (e₀.bs i).Accepted
  · by_cases hmain : i = mainBsNum
    · subst hmain
      obtain ⟨hfd, hchannel⟩ := h.closed hflags.1
      rw [enc_startTurn_main hwork (haccepted.mpr hi) hflags.1 hopen hfd hchannel]
      refine ⟨_, ?_, rfl⟩
      have hruns : Runs e₀ mainBsNum ((s.bs c mainBsNum).started o (s.enc c).mainFps) := by
        use o, hwork.queues.1, hwork.queues.2, hwork.streamReg
        rw [hstarted, Av.runningFps, if_pos rfl, Av.mainFps, Av.mainFps, h.inputSystem, hb]
      have hmainBs : Function.update (s.enc c).bs mainBsNum
          ((s.bs c mainBsNum).started o (s.enc c).mainFps) mainBsNum
            = (s.bs c mainBsNum).started o (s.enc c).mainFps := Function.update_self ..
      constructor
      · intro j
        by_cases hj : j = mainBsNum
        · subst hj
          dsimp only
          rw [hmainBs]
          apply Stage.runs hasked ⟨hi, hi⟩ hruns
        · dsimp only
          rw [Function.update_of_ne hj]
          apply h.stage j
      · apply h.inputSystem
      · intro hdisabled
        dsimp only at hdisabled
        rw [hmainBs, hruns.enabled] at hdisabled
        contradiction
      · intro _
        apply hwork.openEnc
    · -- the start of the main stream has been handled before
      have hmainStage := h.stage mainBsNum
      cases hmainStage with
      | waiting hnot _ => contradiction
      | pending _ hpending =>
          apply absurd _ (horder.resolve_left hmain)
          rw [Server.bs, hpending]
      | runs _ hready hruns =>
          have hfd := h.opened hruns.enabled
          rw [enc_startTurn_sub hmain hwork (haccepted.mpr hi) hflags.2 hopen hfd]
          refine ⟨_, ?_, rfl⟩
          apply h.assign
          · apply Stage.runs hasked ⟨hi, hready.2⟩
            use o, hwork.queues.1, hwork.queues.2, hwork.streamReg
            rw [hstarted, Av.runningFps, if_neg hmain, hb']
          · intro heq
            contradiction
      | refused _ hnot hclosed =>
          have hdisabled : ((s.enc c).bs mainBsNum).enabled = false := by
            rw [hclosed]
            apply (h₀.flags mainBsNum).1
          have hparam : o.setSubBsParam < 0 := by
            apply Int.not_le.mp
            rw [hwork.setSubBsParam hmain, (h.closed hdisabled).1]
            decide
          rw [startTurn_refused (Or.inr ⟨hmain, hflags.2, hparam⟩) hopen]
          apply h.settle h₀ hevent
          exact fun hready => hnot ⟨hready.2, hready.2⟩
  · rw [startTurn_refused (Or.inl (mt haccepted.mp hi)) hopen]
    apply h.settle h₀ hevent
    exact fun hready => hi hready.1

end Startup

end Rtspd
