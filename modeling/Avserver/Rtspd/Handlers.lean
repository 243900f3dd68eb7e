import Avserver.Rtspd.Stopping

/-!
# The handlers of the streams

A stream has a handler that opens it only while it runs, and a stream that is registered with the
streaming library runs and has a handler that closes it; a start is pending only for a stream
that does not run (`Coherent`).  So a stream is not registered when it is started, and it is closed
before it is opened anew, as long as `stream_dereg` succeeds.
-/

namespace Rtspd

open Library

variable {o : Calls} {c d : ChNum} {i j : SubNum} {s s' : Server} {b : Bs}

/-- The handlers, the registration and the event of a stream `b` go together: what is opened or
registered runs and can be closed. -/
structure Bs.Coherent (b : Bs) : Prop where
  opened : b.openFn = true → b.enabled = true ∧ b.closeFn = true
  registered : 0 ≤ b.sr → b.enabled = true ∧ b.closeFn = true
  pending : b.event = .start → b.enabled = false

/-- Every stream `i` of every channel `c` of the server is `Coherent`. -/
def Coherent (s : Server) : Prop := ∀ c i, (s.bs c i).Coherent

/-- If the step is a turn, then `stream_dereg` releases the registration of every stream in it. -/
def Releases : ServerInput → Prop
  | .turn _ _ o => ∀ i, 0 ≤ (o i).streamDereg
  | _ => True

/-! ### The driver -/

/-- What setting the parameters of a stream `b` does to it: the handler that opens it stays, and the
stream is marked as running if that succeeds. -/
structure Configured (b b' : Bs) (ret : Int) : Prop where
  openFn : b'.openFn = b.openFn
  enabled : ¬ ret < 0 → b'.enabled = true

theorem setMainBs_configured :
  Configured (s.bs c mainBsNum) ((setMainBs o c s).2.bs c mainBsNum) (setMainBs o c s).1
  := by
  have hopen : (openChannel o c s).2.bs c mainBsNum = s.bs c mainBsNum
    := by
    unfold openChannel
    split
    · rfl
    · split
      · rfl
      · dsimp only
        rw [Server.bs_setAv]
        rfl
  have hfail : Configured (s.bs c mainBsNum) (s.bs c mainBsNum) (-1)
    := ⟨rfl, fun h => absurd (by decide) h⟩
  have hfd : (((openChannel o c s).2.setAv c fun e =>
      { e with encFd := (openChannel o c s).1 }).bs c mainBsNum) = s.bs c mainBsNum
    := by
    rw [Server.bs_setAv]
    apply hopen
  unfold setMainBs
  split
  · apply hfail
  · split
    · apply hfail
    · split
      · apply hfail
      · dsimp only
        split
        · rw [hfd]
          apply hfail
        · split
          · dsimp only
            rw [Server.bs_setBs, hfd]
            exact ⟨rfl, fun _ => rfl⟩
          · split
            · dsimp only
              rw [Server.bs_setBs, hfd]
              exact ⟨rfl, fun _ => rfl⟩
            · dsimp only
              rw [Server.bs_setBs, hfd]
              exact ⟨rfl, fun _ => rfl⟩

theorem setSubBs_configured (hflags : (s.bs c i).enabled = (s.bs c i).videoEnabled) :
  Configured (s.bs c i) ((setSubBs o c i s).2.bs c i) (setSubBs o c i s).1
  := by
  have hfail : Configured (s.bs c i) (s.bs c i) (-1)
    := ⟨rfl, fun h => absurd (by decide) h⟩
  unfold setSubBs
  split
  · apply hfail
  · split
    · next hvideo => exact ⟨rfl, fun _ => hflags.trans hvideo⟩
    · split
      · apply hfail
      · dsimp only
        rw [Server.bs_setBs]
        exact ⟨rfl, fun _ => rfl⟩

theorem configureBs_configured (hflags : (s.bs c i).enabled = (s.bs c i).videoEnabled) :
  Configured (s.bs c i) ((configureBs o c i s).2.bs c i) (configureBs o c i s).1
  := by
  unfold configureBs
  split
  · next hmain =>
      subst hmain
      apply setMainBs_configured
  · apply setSubBs_configured hflags

/-- A stream without a handler that opens it has one after `open_bs` only if it runs, and then it
has one that closes it. -/
theorem openBs_openFn
    (hflags : (s.bs c i).enabled = (s.bs c i).videoEnabled) (hnone : (s.bs c i).openFn = false)
    (hopen : ((openBs o c i s).2.bs c i).openFn = true) :
  ((openBs o c i s).2.bs c i).enabled = true ∧ ((openBs o c i s).2.bs c i).closeFn = true
  := by
  have hconfigured := configureBs_configured (o := o) hflags
  have happly (s : Server) : (applyBs o c s).2.bs c i = s.bs c i
    := by
    unfold applyBs
    split <;> rfl
  have hstill : ((configureBs o c i s).2.bs c i).openFn = false := hconfigured.openFn.trans hnone
  unfold openBs at hopen ⊢
  dsimp only at hopen ⊢
  split at hopen
  · rw [hstill] at hopen
    contradiction
  · next hret =>
      rw [if_neg hret]
      split at hopen
      · rw [happly, hstill] at hopen
        contradiction
      · next hret' =>
          rw [if_neg hret']
          split at hopen
          · next hlive =>
              rw [if_pos hlive]
              dsimp only
              rw [Server.bs_setBs, happly]
              exact ⟨hconfigured.enabled hret, rfl⟩
          · rw [happly, hstill] at hopen
            contradiction

/-! ### Opening and closing with the library -/

/-- `open_live_streaming` stores the numbers that the library has given in the stream `i` of `c`. -/
theorem bs_openLiveStreaming (o : Calls) (c : ChNum) (i : SubNum) (s : Server) :
  (openLiveStreaming o c i s).2.bs c i =
    { s.bs c i with qno := o.videoQueue, audioQno := o.audioQueue, sr := o.streamReg }
  := by
  have hpool (s : Server) (qno : Int) : (initPool o qno s).2.bs c i = s.bs c i
    := by
    unfold initPool
    split <;> rfl
  unfold openLiveStreaming
  dsimp only
  split
  · dsimp only
    rw [Server.bs_setBs]
  · dsimp only
    rw [hpool, Server.bs_setBs]

/-- `close_live_streaming` takes the numbers of the stream `i` of `c` away, if it is registered and
`stream_dereg` succeeds. -/
theorem bs_closeLiveStreaming (hdereg : 0 ≤ o.streamDereg) (c : ChNum) (i : SubNum) (s : Server) :
  (closeLiveStreaming o c i s).2.bs c i =
    if 0 ≤ (s.bs c i).sr then { s.bs c i with sr := -1, qno := -1 } else s.bs c i
  := by
  have hfree : (freeVideoFrame (s.bs c i).qno s).2.bs c i = s.bs c i := rfl
  unfold closeLiveStreaming
  dsimp only
  rw [hfree]
  split
  · rw [if_neg (Int.not_lt.mpr hdereg)]
    dsimp only
    rw [Server.bs_setBs, hfree]
  · apply hfree

/-! ### The streams -/

namespace Bs.Coherent

/-- A coherent stream `b` that has a handler which opens it stays coherent, whatever numbers it
gets. -/
theorem opens (h : b.Coherent) (hopen : b.openFn = true) (qno audioQno sr : Int) :
  Coherent { b with qno, audioQno, sr }
  where
  opened := h.opened
  registered _ := h.opened hopen
  pending := h.pending

/-- A coherent stream `b` stays coherent when it loses its registration, whatever its queue is. -/
theorem unregister (h : b.Coherent) (qno : Int) : Coherent { b with sr := -1, qno } where
  opened := h.opened
  registered := nofun
  pending := h.pending

/-- A coherent stream `b` stays coherent when its event has been handled. -/
theorem settle (h : b.Coherent) : Coherent { b with event := .none } where
  opened := h.opened
  registered := h.registered
  pending := nofun

/-- A coherent stream `b` stays coherent when the handlers with which it is served are taken
away. -/
theorem unhandle (h : b.Coherent) :
  Coherent { b with openFn := false, readFn := false, freeFn := false, writeFn := false }
  where
  opened := nofun
  registered := h.registered
  pending := h.pending

/-- A stream `b` that is neither opened nor registered, and has no event, is coherent. -/
theorem of_none (hopen : b.openFn = false) (hsr : b.sr < 0) (hevent : b.event = .none) :
  b.Coherent
  where
  opened htrue := by
    rw [hopen] at htrue
    contradiction
  registered hle := absurd hsr (Int.not_lt.mpr hle)
  pending hstart := by
    rw [hevent] at hstart
    contradiction

end Bs.Coherent

namespace Coherent

theorem of_started (h : s.Started) : Coherent s := by
  intro c i
  rw [h.bs c i]
  apply Bs.Coherent.of_none rfl _ rfl
  change (-1 : Int) < 0
  decide

/-- If only the stream `i` of `c` is changed from `s` to `s'`, and this one is coherent, then all
streams stay so. -/
theorem of_only (h : Coherent s) (honly : Only c i s s') (hown : (s'.bs c i).Coherent) :
  Coherent s'
  := by
  intro d j
  by_cases hp : (d, j) = (c, i)
  · obtain ⟨rfl, rfl⟩ := Prod.mk.inj hp
    apply hown
  · rw [honly.others d j hp]
    apply h d j

/-- An assignment `f` to the stream `i` of `c` keeps the streams coherent, if it keeps this one. -/
theorem setBs {f : Bs → Bs} (h : Coherent s) (hf : (f (s.bs c i)).Coherent) :
  Coherent (s.setBs c i f)
  := by
  apply h.of_only (Only.setBs f)
  rw [Server.bs_setBs]
  apply hf

theorem settle (h : Coherent s) : Coherent (settle c i s) := h.setBs (h c i).settle

theorem unhandle (h : Coherent s) : Coherent (unhandle c i s) := h.setBs (h c i).unhandle

theorem reopen (h : Coherent s) : Coherent (reopen o c i s) := by
  unfold Rtspd.reopen
  split
  · next hopen =>
      apply h.of_only ByLibrary.openLiveStreaming.toOnly
      rw [bs_openLiveStreaming]
      apply (h c i).opens hopen
  · apply h

theorem shut (h : Coherent s) (hdereg : 0 ≤ o.streamDereg) : Coherent (shut o c i s) := by
  unfold Rtspd.shut
  split
  · apply h.of_only ByLibrary.closeLiveStreaming.toOnly
    rw [bs_closeLiveStreaming hdereg]
    split
    · apply (h c i).unregister
    · apply h c i
  · apply h

/-- A coherent stream `i` of `c` is not registered when it has been closed, if `stream_dereg`
succeeds. -/
theorem sr_shut (h : Coherent s) (hdereg : 0 ≤ o.streamDereg) :
  ((Rtspd.shut o c i s).bs c i).sr < 0
  := by
  unfold Rtspd.shut
  split
  · rw [bs_closeLiveStreaming hdereg]
    split
    · apply Int.negSucc_lt_zero
    · next hsr => apply Int.not_le.mp hsr
  · next hclose =>
      apply Int.not_le.mp
      intro hsr
      apply hclose ((h c i).registered hsr).2

/-- The turn of `START_BS_EVENT`, for a stream `i` of `c` whose start is pending, keeps the streams
coherent. -/
theorem startTurn
    (h : Coherent s) (hagrees : Agrees s) (hevent : (s.bs c i).event = .start) :
  Coherent (startTurn o c i s)
  := by
  have hstopped := (h c i).pending hevent
  have hdriver : ByDriver c i s (openBs o c i s).2 := ByDriver.openBs
  have hnone : (s.bs c i).openFn = false
    := by
    apply Bool.eq_false_iff.mpr
    intro hopen
    rw [((h c i).opened hopen).1] at hstopped
    contradiction
  have hsr : ((openBs o c i s).2.bs c i).sr < 0
    := by
    rw [hdriver.sr]
    apply Int.not_le.mp
    intro hle
    rw [((h c i).registered hle).1] at hstopped
    contradiction
  have honly : Only c i s (Rtspd.startTurn o c i s) := Alone.startTurn.toOnly
  apply h.of_only honly
  rw [Rtspd.startTurn, Rtspd.settle, Server.bs_setBs, Rtspd.reopen]
  split
  · next hopen =>
      have hboth := openBs_openFn (hagrees.flags c i) hnone hopen
      rw [bs_openLiveStreaming]
      exact ⟨fun _ => hboth, fun _ => hboth, by simp⟩
  · next hopen =>
      exact ⟨fun htrue => absurd htrue hopen, fun hle => absurd hsr (Int.not_lt.mpr hle), by simp⟩

/-- `UPDATE_BS_EVENT` -/
theorem updateTurn (h : Coherent s) (hdereg : 0 ≤ o.streamDereg) :
  Coherent (updateTurn o c i s)
  := by
  have hcounted : Coherent (getNumOfUsedVideoFrame (s.bs c i).qno s).2 := h
  unfold Rtspd.updateTurn
  dsimp only
  split
  · split
    · apply ((hcounted.shut hdereg).reopen).settle
    · apply hcounted
  · apply h

/-- The end of a stop of the stream `i` of `c`, which has no handler that opens it, keeps the
streams coherent. -/
theorem finishStop
    (h : Coherent s) (hdereg : 0 ≤ o.streamDereg) (hopen : (s.bs c i).openFn = false) :
  Coherent (finishStop o c i s)
  := by
  have hshut := h.sr_shut (c := c) (i := i) hdereg
  have honly : Only c i s (Rtspd.finishStop o c i s) := Alone.finishStop.toOnly
  apply h.of_only honly
  have hdriver := ByDriver.closeBs (o := o) (c := c) (i := i)
    (s := (Rtspd.shut o c i s).setBs c i fun b => { b with closeFn := false })
  rw [Rtspd.finishStop, Rtspd.settle, Server.bs_setBs]
  apply Bs.Coherent.of_none
  · dsimp only
    rw [closeBs_ties.openFn, Server.bs_setBs]
    apply shut_handlers.1.trans hopen
  · dsimp only
    rw [hdriver.sr, Server.bs_setBs]
    apply hshut
  · rfl

/-- A stream `i` of those that a turn stops is closed, and the streams stay coherent, if
`stream_dereg` succeeds. -/
theorem stopStream (h : Coherent s) (hdereg : 0 ≤ o.streamDereg) :
  Coherent (stopStream o c i s).2
  := by
  have hunhandled : Coherent (Rtspd.unhandle c i s) := h.unhandle
  have hnone : ((Rtspd.unhandle c i s).bs c i).openFn = false := by rw [bs_unhandle]
  have hcounted : Coherent
      (getNumOfUsedVideoFrame ((Rtspd.unhandle c i s).bs c i).qno (Rtspd.unhandle c i s)).2
    := hunhandled
  unfold Rtspd.stopStream
  dsimp only
  split
  · split
    · apply hcounted.finishStop hdereg hnone
    · apply hcounted
  · split
    · apply hunhandled.finishStop hdereg hnone
    · apply hunhandled.settle

/-- `STOP_BS_EVENT` -/
theorem stopStreams
    {o : SubNum → Calls} (is : List SubNum) (h : Coherent s) (hdereg : ∀ i, 0 ≤ (o i).streamDereg) :
  Coherent (stopStreams o c is s)
  := by
  induction is generalizing s with
  | nil => apply h
  | cons i is ih =>
      rw [Rtspd.stopStreams]
      dsimp only
      split
      · apply ih (h.stopStream (hdereg i))
      · apply h.stopStream (hdereg i)

/-- The turn of the stream `i` of `c` keeps the streams coherent, if `stream_dereg` succeeds in
it. -/
theorem turn
    {o : SubNum → Calls} (h : Coherent s) (hagrees : Agrees s)
    (hdereg : ∀ i, 0 ≤ (o i).streamDereg) :
  Coherent (turn o c i s)
  := by
  unfold Rtspd.turn
  split
  · apply h
  · next hevent =>
      have hphase : (s.bs c i).event = s.bsEvent := not_not.mp hevent
      split
      · apply h
      · next hstart => apply h.startTurn hagrees (hphase.trans hstart)
      · apply h.updateTurn (hdereg i)
      · apply h.stopStreams _ hdereg

/-- An event `e` that is not refused keeps the streams coherent: a start is stored only for a stream
that does not run. -/
theorem post {e : BsEvent} (h : Coherent s) (hnone : refusal c i e s = none) :
  Coherent (post c i e s)
  := by
  apply Coherent.setBs (f := fun b => { b with event := e }) h
  constructor
  · apply (h c i).opened
  · apply (h c i).registered
  · intro hstart
    obtain rfl : e = .start := hstart
    rw [refusal] at hnone
    split at hnone
    · contradiction
    · split at hnone
      · contradiction
      · next hstopped => apply Bool.eq_false_iff.mpr hstopped

/-- A step of the server keeps the streams coherent, if `stream_dereg` succeeds in it. -/
theorem step
    {input : ServerInput} (h : Coherent s) (hagrees : Agrees s) (hreleases : Releases input)
    (hstep : serverStep s input = some s') :
  Coherent s'
  := by
  obtain rfl | ⟨c, i, e, hnone, rfl⟩ | ⟨c, i, o, rfl, rfl⟩ | ⟨e, b, -, rfl⟩ | ⟨c, rfl⟩ |
    ⟨c, i, vf, htake⟩ | ⟨qno, key, hput⟩ := serverStep_cases hstep
  · apply h
  · apply h.post hnone
  · apply h.turn hagrees hreleases
  · apply h
  · apply h
  · obtain ⟨qno, fi, rfl⟩ := takeFrame_frameInfo htake
    apply h
  · obtain ⟨qno, fi, rfl⟩ := putFrame_frameInfo hput
    apply h

end Coherent

end Rtspd
