import Avserver.Rtspd.Streams

/-!
# What the calls for a stream leave alone

Starting and stopping a stream with the driver changes its flags and handlers and its channel
(`ByDriver`); registering it with the streaming library changes its numbers and the pools of
frames (`ByLibrary`).  Neither changes another stream (`Only`).
-/

namespace Rtspd

variable {o : Calls} {c d : ChNum} {i j : SubNum} {s s' s'' : Server}

namespace Server

/-- An assignment `f` to the channel `c`, and not to its streams, leaves all streams alone. -/
theorem bs_setAv_of_bs {f : Av → Av} (hf : (f (s.enc c)).bs = (s.enc c).bs) (d : ChNum) (j : SubNum) :
  (s.setAv c f).bs d j = s.bs d j
  := by
  by_cases h : d = c
  · subst h
    rw [bs_setAv, hf]
    rfl
  · rw [bs, enc_setAv_of_ne h]
    rfl

/-- An assignment `f` to the stream `i` of `c` leaves the other streams alone. -/
theorem bs_setBs_other (h : (d, j) ≠ (c, i)) (f : Bs → Bs) : (s.setBs c i f).bs d j = s.bs d j := by
  by_cases hd : d = c
  · subst hd
    have hj : j ≠ i := by
      rintro rfl
      apply h rfl
    apply bs_setBs_of_ne hj f
  · rw [bs, setBs, enc_setAv_of_ne hd]
    rfl

end Server

/-! ### One stream -/

/-- From `s` to `s'`, at most the stream `i` of `c` is changed, and neither the phase of the rounds
nor the flag for them. -/
structure Only (c : ChNum) (i : SubNum) (s s' : Server) : Prop where
  bsEvent : s'.bsEvent = s.bsEvent
  rtspdSetEvent : s'.rtspdSetEvent = s.rtspdSetEvent
  others : ∀ d j, (d, j) ≠ (c, i) → s'.bs d j = s.bs d j

namespace Only

theorem refl (c : ChNum) (i : SubNum) (s : Server) : Only c i s s := ⟨rfl, rfl, fun _ _ _ => rfl⟩

theorem trans (h : Only c i s s') (h' : Only c i s' s'') : Only c i s s'' where
  bsEvent := h'.bsEvent.trans h.bsEvent
  rtspdSetEvent := h'.rtspdSetEvent.trans h.rtspdSetEvent
  others d j hne := (h'.others d j hne).trans (h.others d j hne)

theorem setBs (f : Bs → Bs) : Only c i s (s.setBs c i f) where
  bsEvent := rfl
  rtspdSetEvent := rfl
  others _ _ hne := Server.bs_setBs_other hne f

end Only

/-! ### The driver -/

/-- What is left alone from `s` to `s'` when the stream `i` of `c` is started or stopped with the
driver. -/
structure ByDriver (c : ChNum) (i : SubNum) (s s' : Server) : Prop extends Only c i s s' where
  frameInfo : s'.frameInfo = s.frameInfo
  built : s'.built = s.built
  acts : s'.acts = s.acts
  event : (s'.bs c i).event = (s.bs c i).event
  optType : (s'.bs c i).optType = (s.bs c i).optType
  sr : (s'.bs c i).sr = (s.bs c i).sr
  qno : (s'.bs c i).qno = (s.bs c i).qno

namespace ByDriver

theorem refl (c : ChNum) (i : SubNum) (s : Server) : ByDriver c i s s :=
  ⟨Only.refl c i s, rfl, rfl, rfl, rfl, rfl, rfl, rfl⟩

theorem trans (h : ByDriver c i s s') (h' : ByDriver c i s' s'') : ByDriver c i s s'' where
  toOnly := h.toOnly.trans h'.toOnly
  frameInfo := h'.frameInfo.trans h.frameInfo
  built := h'.built.trans h.built
  acts := h'.acts.trans h.acts
  event := h'.event.trans h.event
  optType := h'.optType.trans h.optType
  sr := h'.sr.trans h.sr
  qno := h'.qno.trans h.qno

/-- An assignment `f` to a channel, and not to its streams, is one that the driver's part may
make. -/
theorem setAv {f : Av → Av} (hf : (f (s.enc c)).bs = (s.enc c).bs) : ByDriver c i s (s.setAv c f) where
  bsEvent := rfl
  rtspdSetEvent := rfl
  others d j _ := Server.bs_setAv_of_bs hf d j
  frameInfo := rfl
  built := rfl
  acts := rfl
  event := by rw [Server.bs_setAv_of_bs hf]
  optType := by rw [Server.bs_setAv_of_bs hf]
  sr := by rw [Server.bs_setAv_of_bs hf]
  qno := by rw [Server.bs_setAv_of_bs hf]

/-- An assignment `f` to the flags, the rate and the handlers of a stream is one that the driver's
part may make. -/
theorem setBs
    {f : Bs → Bs} (hf : ∀ b, (f b).event = b.event ∧ (f b).optType = b.optType ∧
      (f b).sr = b.sr ∧ (f b).qno = b.qno) :
  ByDriver c i s (s.setBs c i f) where
  toOnly := Only.setBs f
  frameInfo := rfl
  built := rfl
  acts := rfl
  event := by rw [Server.bs_setBs, (hf _).1]
  optType := by rw [Server.bs_setBs, (hf _).2.1]
  sr := by rw [Server.bs_setBs, (hf _).2.2.1]
  qno := by rw [Server.bs_setBs, (hf _).2.2.2]

theorem openChannel : ByDriver c i s (openChannel o c s).2 := by
  unfold Rtspd.openChannel
  split
  · apply refl
  · split
    · apply refl
    · have hfiles : ByDriver c i s
          { s with files := Function.update s.files o.openEnc (some .dvrEnc) } :=
        ⟨⟨rfl, rfl, fun _ _ _ => rfl⟩, rfl, rfl, rfl, rfl, rfl, rfl, rfl⟩
      dsimp only
      apply hfiles.trans (setAv rfl)

theorem closeChannel : ByDriver c i s (closeChannel c s) := by
  have hfiles : ByDriver c i s
      { s with files := Function.update s.files (s.enc c).encFd none } :=
    ⟨⟨rfl, rfl, fun _ _ _ => rfl⟩, rfl, rfl, rfl, rfl, rfl, rfl, rfl⟩
  have hclosed := hfiles.trans
    (setAv (f := fun e => { e with encFd := -1, enabled := false }) rfl)
  unfold Rtspd.closeChannel
  dsimp only
  split
  · apply hclosed
  · exact hclosed.trans ⟨⟨rfl, rfl, fun _ _ _ => rfl⟩, rfl, rfl, rfl, rfl, rfl, rfl, rfl⟩

theorem setMainBs : ByDriver c mainBsNum s (setMainBs o c s).2 := by
  have hopen : ByDriver c mainBsNum s (Rtspd.openChannel o c s).2 := openChannel
  unfold Rtspd.setMainBs
  dsimp only
  split
  · apply refl
  · split
    · apply refl
    · split
      · apply refl
      · have hfd := hopen.trans
          (setAv (f := fun e => { e with encFd := (Rtspd.openChannel o c s).1 }) rfl)
        split
        · apply hfd
        · split
          · dsimp only
            apply hfd.trans
            apply setBs
            exact fun _ => ⟨rfl, rfl, rfl, rfl⟩
          · split
            · dsimp only
              apply hfd.trans
              apply setBs
              exact fun _ => ⟨rfl, rfl, rfl, rfl⟩
            · dsimp only
              apply hfd.trans
              apply setBs
              exact fun _ => ⟨rfl, rfl, rfl, rfl⟩

theorem setSubBs : ByDriver c i s (setSubBs o c i s).2 := by
  unfold Rtspd.setSubBs
  split
  · apply refl
  · split
    · apply refl
    · split
      · apply refl
      · dsimp only
        apply setBs
        exact fun _ => ⟨rfl, rfl, rfl, rfl⟩

theorem applyBs : ByDriver c i s (applyBs o c s).2 := by
  unfold Rtspd.applyBs
  split
  · apply refl
  · exact ⟨⟨rfl, rfl, fun _ _ _ => rfl⟩, rfl, rfl, rfl, rfl, rfl, rfl, rfl⟩

theorem configureBs : ByDriver c i s (configureBs o c i s).2 := by
  unfold Rtspd.configureBs
  split
  · next hmain =>
      subst hmain
      apply setMainBs
  · apply setSubBs

/-- `open_bs` -/
theorem openBs : ByDriver c i s (openBs o c i s).2 := by
  have hconfigure : ByDriver c i s (Rtspd.configureBs o c i s).2 := configureBs
  have happly := hconfigure.trans (applyBs (o := o))
  unfold Rtspd.openBs
  dsimp only
  split
  · apply hconfigure
  · split
    · apply happly
    · split
      · dsimp only
        apply happly.trans
        apply setBs
        exact fun _ => ⟨rfl, rfl, rfl, rfl⟩
      · apply happly

/-- `close_bs` -/
theorem closeBs : ByDriver c i s (closeBs o c i s).2 := by
  have hdisable (s : Server) : ByDriver c i s
      (s.setBs c i fun b => { b with videoEnabled := false, enabled := false }) :=
    setBs fun _ => ⟨rfl, rfl, rfl, rfl⟩
  have happly : ByDriver c i s (Rtspd.applyBs o c s).2 := applyBs
  unfold Rtspd.closeBs
  dsimp only
  split
  · split
    · apply happly
    · split
      · apply happly.trans (hdisable _)
      · apply (happly.trans (hdisable _)).trans closeChannel
  · apply hdisable s

end ByDriver

/-! ### Handlers and numbers -/

section Ties

variable {b b' b'' : Bs}

/-- What a stream is tied to is the same in `b` and `b'`: its numbers with the streaming library, and
the handlers that open it, close it and write its frames. -/
structure Bs.Ties (b b' : Bs) : Prop where
  sr : b'.sr = b.sr
  qno : b'.qno = b.qno
  audioQno : b'.audioQno = b.audioQno
  openFn : b'.openFn = b.openFn
  closeFn : b'.closeFn = b.closeFn
  writeFn : b'.writeFn = b.writeFn

namespace Bs.Ties

theorem refl (b : Bs) : b.Ties b := ⟨rfl, rfl, rfl, rfl, rfl, rfl⟩

theorem trans (h : b.Ties b') (h' : b'.Ties b'') : b.Ties b'' where
  sr := h'.sr.trans h.sr
  qno := h'.qno.trans h.qno
  audioQno := h'.audioQno.trans h.audioQno
  openFn := h'.openFn.trans h.openFn
  closeFn := h'.closeFn.trans h.closeFn
  writeFn := h'.writeFn.trans h.writeFn

end Bs.Ties

theorem openChannel_bs (j : SubNum) : (openChannel o c s).2.bs c j = s.bs c j := by
  unfold openChannel
  split
  · rfl
  · split
    · rfl
    · dsimp only
      rw [Server.bs_setAv]
      rfl

theorem setMainBs_ties : (s.bs c mainBsNum).Ties ((setMainBs o c s).2.bs c mainBsNum) := by
  have hfd : (((openChannel o c s).2.setAv c fun e =>
      { e with encFd := (openChannel o c s).1 }).bs c mainBsNum) = s.bs c mainBsNum := by
    rw [Server.bs_setAv]
    apply openChannel_bs
  have henabled : (s.bs c mainBsNum).Ties
      ((((openChannel o c s).2.setAv c fun e => { e with encFd := (openChannel o c s).1 }).setBs c
        mainBsNum fun b =>
        { b with
          fps := if (((openChannel o c s).2.setAv c fun e =>
              { e with encFd := (openChannel o c s).1 }).enc c).inputSystem = pal ∧ b.fps > 25
            then 25 else b.fps
          enabled := true
          videoEnabled := true }).bs c mainBsNum) := by
    rw [Server.bs_setBs, hfd]
    exact ⟨rfl, rfl, rfl, rfl, rfl, rfl⟩
  unfold setMainBs
  split
  · apply Bs.Ties.refl
  · split
    · apply Bs.Ties.refl
    · split
      · apply Bs.Ties.refl
      · dsimp only
        split
        · rw [hfd]
          apply Bs.Ties.refl
        · split
          · apply henabled
          · split
            · apply henabled
            · apply henabled

theorem setSubBs_ties : (s.bs c i).Ties ((setSubBs o c i s).2.bs c i) := by
  unfold setSubBs
  split
  · apply Bs.Ties.refl
  · split
    · apply Bs.Ties.refl
    · split
      · apply Bs.Ties.refl
      · dsimp only
        rw [Server.bs_setBs]
        exact ⟨rfl, rfl, rfl, rfl, rfl, rfl⟩

/-- `open_bs` leaves the numbers of the stream alone; it either leaves its handlers alone too, or sets
`openFn`, `closeFn` and `writeFn` together. -/
theorem openBs_ties :
  (s.bs c i).Ties ((openBs o c i s).2.bs c i)
    ∨ Bs.Ties { s.bs c i with openFn := true, closeFn := true, writeFn := true } ((openBs o c i s).2.bs c i)
  := by
  have hconfigure : (s.bs c i).Ties ((configureBs o c i s).2.bs c i) := by
    unfold configureBs
    split
    · next hmain =>
        subst hmain
        apply setMainBs_ties
    · apply setSubBs_ties
  have happly (s : Server) : (applyBs o c s).2.bs c i = s.bs c i := by
    unfold applyBs
    split <;> rfl
  unfold openBs
  dsimp only
  split
  · apply Or.inl hconfigure
  · split
    · rw [happly]
      apply Or.inl hconfigure
    · split
      · right
        dsimp only
        rw [Server.bs_setBs, happly]
        exact ⟨hconfigure.sr, hconfigure.qno, hconfigure.audioQno, rfl, rfl, rfl⟩
      · rw [happly]
        apply Or.inl hconfigure

end Ties

/-! ### The streaming library -/

/-- What is left alone from `s` to `s'` when a stream is registered with the streaming library or
taken down. -/
structure ByLibrary (c : ChNum) (i : SubNum) (s s' : Server) : Prop extends Only c i s s' where
  files : s'.files = s.files
  rtspdDvrFd : s'.rtspdDvrFd = s.rtspdDvrFd
  applies : s'.applies = s.applies
  channel : ∀ d, (s'.enc d).enabled = (s.enc d).enabled ∧ (s'.enc d).encFd = (s.enc d).encFd
  own : s'.bs c i =
    { s.bs c i with
      sr := (s'.bs c i).sr, qno := (s'.bs c i).qno, audioQno := (s'.bs c i).audioQno }

namespace ByLibrary

theorem refl (c : ChNum) (i : SubNum) (s : Server) : ByLibrary c i s s :=
  ⟨Only.refl c i s, rfl, rfl, rfl, fun _ => ⟨rfl, rfl⟩, rfl⟩

theorem trans (h : ByLibrary c i s s') (h' : ByLibrary c i s' s'') : ByLibrary c i s s'' where
  toOnly := h.toOnly.trans h'.toOnly
  files := h'.files.trans h.files
  rtspdDvrFd := h'.rtspdDvrFd.trans h.rtspdDvrFd
  applies := h'.applies.trans h.applies
  channel d := ⟨(h'.channel d).1.trans (h.channel d).1, (h'.channel d).2.trans (h.channel d).2⟩
  own := by
    rw [h'.own, h.own]

/-- An assignment `f` to the numbers of a stream is one that the library's part may make. -/
theorem setBs
    {f : Bs → Bs} (hf : ∀ b, f b =
      { b with sr := (f b).sr, qno := (f b).qno, audioQno := (f b).audioQno }) :
  ByLibrary c i s (s.setBs c i f) where
  toOnly := Only.setBs f
  files := rfl
  rtspdDvrFd := rfl
  applies := rfl
  channel d := ⟨Server.enabled_setBs d f, Server.encFd_setBs d f⟩
  own := by
    rw [Server.bs_setBs]
    apply hf _

/-- `init_video_frame` -/
theorem initPool (qno : Int) : ByLibrary c i s (initPool o qno s).2 := by
  unfold Rtspd.initPool
  split
  · apply refl
  · exact ⟨⟨rfl, rfl, fun _ _ _ => rfl⟩, rfl, rfl, rfl, fun _ => ⟨rfl, rfl⟩, rfl⟩

/-- `get_num_of_used_video_frame` -/
theorem getNumOfUsedVideoFrame (qno : Int) :
  ByLibrary c i s (getNumOfUsedVideoFrame qno s).2
  :=
  ⟨⟨rfl, rfl, fun _ _ _ => rfl⟩, rfl, rfl, rfl, fun _ => ⟨rfl, rfl⟩, rfl⟩

/-- `free_video_frame` -/
theorem freeVideoFrame (qno : Int) : ByLibrary c i s (freeVideoFrame qno s).2 :=
  ⟨⟨rfl, rfl, fun _ _ _ => rfl⟩, rfl, rfl, rfl, fun _ => ⟨rfl, rfl⟩, rfl⟩

/-- `open_live_streaming` -/
theorem openLiveStreaming : ByLibrary c i s (openLiveStreaming o c i s).2 := by
  have hset : ByLibrary c i s (s.setBs c i fun b =>
      { b with qno := o.videoQueue, audioQno := o.audioQueue, sr := o.streamReg }) :=
    setBs fun _ => rfl
  unfold Rtspd.openLiveStreaming
  dsimp only
  split
  · apply hset
  · apply hset.trans (initPool _)

/-- `close_live_streaming` -/
theorem closeLiveStreaming : ByLibrary c i s (closeLiveStreaming o c i s).2 := by
  have hfree : ByLibrary c i s (Rtspd.freeVideoFrame (s.bs c i).qno s).2 := freeVideoFrame _
  unfold Rtspd.closeLiveStreaming
  dsimp only
  split
  · split
    · apply hfree
    · dsimp only
      apply hfree.trans
      apply setBs
      exact fun _ => rfl
  · apply hfree

end ByLibrary

end Rtspd
