import Avserver.Rtspd.Effects
import Avserver.Rtspd.Events
import Avserver.Rtspd.OpenBs

/-!
# The channels over a run

What `open_bs` and `close_bs` can do to the channels and the flags of the streams, and the rule
for what they keep: everything else that happens to the server leaves the channels, the flags
and the descriptors alone (`SameDriver`), so that a property of these which the two functions keep
is kept by every step (`serverStep_keeps`).
-/

namespace Rtspd

variable {o : Calls} {c d : ChNum} {i j : SubNum} {s s' s'' : Server}

/-! ### What the driver sees -/

/-- From `s` to `s'`, the channels, the flags of the streams and the descriptors stay the same. -/
structure SameDriver (s s' : Server) : Prop where
  channel : ∀ d, (s'.enc d).enabled = (s.enc d).enabled ∧ (s'.enc d).encFd = (s.enc d).encFd
  flags : ∀ d j, (s'.bs d j).enabled = (s.bs d j).enabled ∧
    (s'.bs d j).videoEnabled = (s.bs d j).videoEnabled
  files : s'.files = s.files
  rtspdDvrFd : s'.rtspdDvrFd = s.rtspdDvrFd
  applies : s'.applies = s.applies

namespace SameDriver

theorem of_enc
    (henc : s'.enc = s.enc) (hfiles : s'.files = s.files) (hfd : s'.rtspdDvrFd = s.rtspdDvrFd)
    (happlies : s'.applies = s.applies) :
  SameDriver s s' where
  channel d := by
    rw [henc]
    exact ⟨rfl, rfl⟩
  flags d j := by
    rw [Server.bs, henc]
    exact ⟨rfl, rfl⟩
  files := hfiles
  rtspdDvrFd := hfd
  applies := happlies

theorem refl (s : Server) : SameDriver s s := of_enc rfl rfl rfl rfl

theorem trans (h : SameDriver s s') (h' : SameDriver s' s'') : SameDriver s s'' where
  channel d := ⟨(h'.channel d).1.trans (h.channel d).1, (h'.channel d).2.trans (h.channel d).2⟩
  flags d j := ⟨(h'.flags d j).1.trans (h.flags d j).1, (h'.flags d j).2.trans (h.flags d j).2⟩
  files := h'.files.trans h.files
  rtspdDvrFd := h'.rtspdDvrFd.trans h.rtspdDvrFd
  applies := h'.applies.trans h.applies

/-- An assignment `f` to a stream that leaves its flags alone does not concern the driver. -/
theorem setBs
    {f : Bs → Bs} (hf : ∀ b, (f b).enabled = b.enabled ∧ (f b).videoEnabled = b.videoEnabled) :
  SameDriver s (s.setBs c i f) where
  channel d := ⟨Server.enabled_setBs d f, Server.encFd_setBs d f⟩
  flags d j := by
    by_cases hp : (d, j) = (c, i)
    · obtain ⟨rfl, rfl⟩ := Prod.mk.inj hp
      rw [Server.bs_setBs]
      apply hf _
    · rw [Server.bs_setBs_other hp]
      exact ⟨rfl, rfl⟩
  files := rfl
  rtspdDvrFd := rfl
  applies := rfl

theorem of_library (h : ByLibrary c i s s') : SameDriver s s' where
  channel := h.channel
  flags d j := by
    by_cases hp : (d, j) = (c, i)
    · obtain ⟨rfl, rfl⟩ := Prod.mk.inj hp
      rw [h.own]
      exact ⟨rfl, rfl⟩
    · rw [h.others d j hp]
      exact ⟨rfl, rfl⟩
  files := h.files
  rtspdDvrFd := h.rtspdDvrFd
  applies := h.applies

theorem settle : SameDriver s (settle c i s) := setBs fun _ => ⟨rfl, rfl⟩

theorem reopen : SameDriver s (reopen o c i s) := by
  unfold Rtspd.reopen
  split
  · apply of_library ByLibrary.openLiveStreaming
  · apply refl

theorem shut : SameDriver s (shut o c i s) := by
  unfold Rtspd.shut
  split
  · apply of_library ByLibrary.closeLiveStreaming
  · apply refl

theorem unhandle : SameDriver s (unhandle c i s) := setBs fun _ => ⟨rfl, rfl⟩

theorem getNumOfUsedVideoFrame (qno : Int) : SameDriver s (getNumOfUsedVideoFrame qno s).2 :=
  of_enc rfl rfl rfl rfl

theorem updateTurn : SameDriver s (updateTurn o c i s) := by
  unfold Rtspd.updateTurn
  split
  · dsimp only
    split
    · apply (((getNumOfUsedVideoFrame _).trans (shut (o := o))).trans (reopen (o := o))).trans settle
    · apply getNumOfUsedVideoFrame
  · apply refl

end SameDriver

/-! ### What a step keeps -/

section Keeps

variable {I : Server → Prop}

/-- A property `I` of the channels and descriptors that `close_bs` keeps is kept by a stop of the
streams in `is`. -/
theorem stopStreams_keeps
    (hsame : ∀ s s', SameDriver s s' → I s → I s') (hclose : ∀ o i s, I s → I (closeBs o c i s).2)
    (o : SubNum → Calls) (is : List SubNum) (hs : I s) :
  I (stopStreams o c is s)
  := by
  induction is generalizing s with
  | nil => apply hs
  | cons i is ih =>
      have hfinish (s : Server) (hs : I s) : I (finishStop (o i) c i s) := by
        have hshut := (SameDriver.shut (o := o i) (c := c) (i := i) (s := s)).trans
          (SameDriver.setBs (c := c) (i := i) (f := fun b => { b with closeFn := false })
            fun _ => ⟨rfl, rfl⟩)
        apply hsame _ _ SameDriver.settle (hclose (o i) i _ (hsame _ _ hshut hs))
      have hunhandle := hsame _ _ (SameDriver.unhandle (c := c) (i := i)) hs
      have hcount (qno : Int) := hsame _ _ (SameDriver.getNumOfUsedVideoFrame qno) hunhandle
      have hstop : I (stopStream (o i) c i s).2 := by
        unfold stopStream
        dsimp only
        split
        · split
          · apply hfinish _ (hcount _)
          · apply hcount _
        · split
          · apply hfinish _ hunhandle
          · apply hsame _ _ SameDriver.settle hunhandle
      rw [stopStreams]
      dsimp only
      split
      · apply ih hstop
      · apply hstop

/-- What is kept by `close_bs`, and by `open_bs` where a start is pending, is kept by a turn. -/
theorem turn_keeps
    (hsame : ∀ s s', SameDriver s s' → I s → I s') (hclose : ∀ o i s, I s → I (closeBs o c i s).2)
    {o : SubNum → Calls}
    (hopen : s.bsEvent = .start → (s.bs c i).event = .start → I (openBs (o i) c i s).2) (hs : I s) :
  I (turn o c i s)
  := by
  unfold turn
  split
  · apply hs
  · next hevent =>
      have hphase : (s.bs c i).event = s.bsEvent := not_not.mp hevent
      split
      · apply hs
      · next hstart =>
          have hopened := hopen hstart (hphase.trans hstart)
          apply hsame _ _ (SameDriver.reopen.trans SameDriver.settle) hopened
      · apply hsame _ _ SameDriver.updateTurn hs
      · apply stopStreams_keeps hsame hclose o _ hs

/-- A property `I` of the channels and descriptors that is kept by a turn and by `DVR_COMMON_APPLY`
is kept by every step. -/
theorem serverStep_keeps
    (hsame : ∀ s s', SameDriver s s' → I s → I s') (happly : ∀ c s, I s → I (s.apply c))
    {input : ServerInput} (hturn : ∀ c i o, input = .turn c i o → I (turn o c i s)) (hs : I s)
    (h : serverStep s input = some s') :
  I s'
  := by
  have hframes {qno : Int} {fi : FrameInfo} :
      I { s with frameInfo := Function.update s.frameInfo qno fi } :=
    hsame s _ (SameDriver.of_enc rfl rfl rfl rfl) hs
  obtain rfl | ⟨c, i, e, -, rfl⟩ | ⟨c, i, o, hinput, rfl⟩ | ⟨e, b, -, rfl⟩ | ⟨c, rfl⟩ |
    ⟨c, i, vf, htake⟩ | ⟨qno, key, hput⟩ := serverStep_cases h
  · apply hs
  · have hevent : SameDriver s (s.setBs c i fun b => { b with event := e }) :=
      SameDriver.setBs fun _ => ⟨rfl, rfl⟩
    exact hsame _ _ (hevent.trans (SameDriver.of_enc rfl rfl rfl rfl)) hs
  · apply hturn c i o hinput
  · exact hsame s _ (SameDriver.of_enc rfl rfl rfl rfl) hs
  · apply happly _ _ hs
  · obtain ⟨qno, fi, rfl⟩ := takeFrame_frameInfo htake
    apply hframes
  · obtain ⟨qno, fi, rfl⟩ := putFrame_frameInfo hput
    apply hframes

end Keeps

/-! ### What the two functions do -/

/-- Nothing keeps `set_main_bs` from opening the channel `c`, which is closed, for its main
stream. -/
structure Opens (o : Calls) (c : ChNum) (s : Server) : Prop where
  check : ¬ checkBsParam c mainBsNum s < 0
  stopped : ¬ (s.bs c mainBsNum).enabled = true
  encFd : ¬ 0 < (s.enc c).encFd
  closed : ¬ (s.enc c).enabled = true
  openEnc : 0 ≤ o.openEnc

/-- A main stream has been opened from `s` to `s'`: its channel `c` is open at the descriptor that
`open` has given. -/
structure MainOpened (o : Calls) (c : ChNum) (s s' : Server) : Prop where
  enabled : (s'.enc c).enabled = true
  encFd : (s'.enc c).encFd = o.openEnc
  flags : (s'.bs c mainBsNum).enabled = true ∧ (s'.bs c mainBsNum).videoEnabled = true
  others : ∀ d j, (d, j) ≠ (c, mainBsNum) → s'.bs d j = s.bs d j
  channels : ∀ d, d ≠ c → s'.enc d = s.enc d
  files : s'.files = Function.update s.files o.openEnc (some .dvrEnc)
  rtspdDvrFd : s'.rtspdDvrFd = s.rtspdDvrFd
  applies : s'.applies = s.applies

/-- `set_main_bs` leaves the server `s` alone, marks the channel `c` as closed after a failed
`open`, or opens it. -/
theorem setMainBs_cases (o : Calls) (c : ChNum) (s : Server) :
  (setMainBs o c s).2 = s ∨
  (setMainBs o c s).2 = s.setAv c (fun e => { e with encFd := -1 }) ∨
  Opens o c s ∧ MainOpened o c s (setMainBs o c s).2
  := by
  by_cases hrefused : checkBsParam c mainBsNum s < 0 ∨ (s.bs c mainBsNum).enabled = true ∨
      0 < (s.enc c).encFd
  · left
    rw [setMainBs_refused hrefused]
  · obtain ⟨hcheck, hrefused⟩ := not_or.mp hrefused
    obtain ⟨hbs, hfd⟩ := not_or.mp hrefused
    by_cases hfails : (s.enc c).enabled = true ∨ o.openEnc < 0
    · right
      left
      rw [setMainBs_closed hcheck hbs hfd hfails]
    · right
      right
      obtain ⟨hchannel, hopen⟩ := not_or.mp hfails
      have hopenChannel : openChannel o c s = (o.openEnc,
          { s with files := Function.update s.files o.openEnc (some .dvrEnc) }.setAv c
            fun e => { e with enabled := true }) := by
        rw [openChannel, if_neg hchannel, if_neg hopen]
      use ⟨hcheck, hbs, hfd, hchannel, Int.not_lt.mp hopen⟩
      rw [setMainBs, if_neg hcheck, if_neg hbs, if_neg hfd, hopenChannel]
      dsimp only
      rw [if_neg hopen]
      have hopened (f : Bs → Bs) (hf : ∀ b, (f b).enabled = true ∧ (f b).videoEnabled = true) :
          MainOpened o c s
            ((({ s with files := Function.update s.files o.openEnc (some .dvrEnc) }.setAv c
              fun e => { e with enabled := true }).setAv c
                fun e => { e with encFd := o.openEnc }).setBs c mainBsNum f) := by
        constructor
        · rw [Server.enabled_setBs, Server.enc_setAv, Server.enc_setAv]
        · rw [Server.encFd_setBs, Server.enc_setAv]
        · rw [Server.bs_setBs]
          apply hf _
        · intro d j hne
          rw [Server.bs_setBs_other hne, Server.bs_setAv_of_bs rfl, Server.bs_setAv_of_bs rfl]
          rfl
        · intro d hne
          rw [Server.setBs, Server.enc_setAv_of_ne hne, Server.enc_setAv_of_ne hne,
            Server.enc_setAv_of_ne hne]
        · rfl
        · rfl
        · rfl
      split
      · dsimp only
        apply hopened
        exact fun _ => ⟨rfl, rfl⟩
      · split
        · dsimp only
          apply hopened
          exact fun _ => ⟨rfl, rfl⟩
        · dsimp only
          apply hopened
          exact fun _ => ⟨rfl, rfl⟩

/-- What is kept by `set_main_bs` and `set_sub_bs`, by `DVR_COMMON_APPLY` and by the assignment of the
handlers is kept by `open_bs`. -/
theorem openBs_keeps
    {I : Server → Prop} (hsame : ∀ s s', SameDriver s s' → I s → I s')
    (happly : ∀ c s, I s → I (s.apply c)) (hconfigure : I (configureBs o c i s).2) :
  I (openBs o c i s).2
  := by
  have happlied : I (applyBs o c (configureBs o c i s).2).2 := by
    unfold applyBs
    split
    · apply hconfigure
    · apply happly _ _ hconfigure
  unfold openBs
  dsimp only
  split
  · apply hconfigure
  · split
    · apply happlied
    · split
      · dsimp only
        apply hsame _ _ _ happlied
        apply SameDriver.setBs
        exact fun _ => ⟨rfl, rfl⟩
      · apply happlied

/-- The two flags of the stream `i` of the channel `c` are cleared, which marks the stream as
stopped. -/
def disable (c : ChNum) (i : SubNum) (s : Server) : Server :=
  s.setBs c i fun b => { b with videoEnabled := false, enabled := false }

/-- `close_bs` marks a stream as stopped, and closes the channel if it was its last; unless the
driver fails. -/
theorem closeBs_cases (o : Calls) (c : ChNum) (i : SubNum) (s : Server) :
  (o.encControl < 0 ∧ (closeBs o c i s).2 = s) ∨
  (o.commonApply < 0 ∧ (closeBs o c i s).2 = s.apply c) ∨
  (s.bs c i).videoEnabled = false ∧ (closeBs o c i s).2 = disable c i s ∨
  (∃ j, ((disable c i (s.apply c)).bs c j).videoEnabled = true) ∧
    (closeBs o c i s).2 = disable c i (s.apply c) ∨
  (∀ j, ((disable c i (s.apply c)).bs c j).videoEnabled = false) ∧
    (closeBs o c i s).2 = closeChannel c (disable c i (s.apply c))
  := by
  unfold closeBs applyBs
  by_cases hvideo : (s.bs c i).videoEnabled = true
  · rw [if_pos hvideo]
    by_cases hcontrol : o.encControl < 0
    · left
      rw [if_pos hcontrol]
      exact ⟨hcontrol, rfl⟩
    · right
      rw [if_neg hcontrol]
      by_cases hcommon : o.commonApply < 0
      · left
        rw [if_pos hcommon]
        exact ⟨hcommon, rfl⟩
      · right
        right
        rw [if_neg hcommon]
        dsimp only
        rw [if_neg (by decide)]
        split
        · next hany =>
            left
            obtain ⟨j, -, hj⟩ := List.any_eq_true.mp hany
            exact ⟨⟨j, hj⟩, rfl⟩
        · next hany =>
            right
            have hall := List.any_eq_false.mp (Bool.eq_false_iff.mpr hany)
            exact ⟨fun j => Bool.eq_false_iff.mpr (hall j (List.mem_finRange j)), rfl⟩
  · right
    right
    left
    rw [if_neg hvideo]
    exact ⟨by simpa using hvideo, rfl⟩

/-- `close_channel` marks the channel `c` as closed, and leaves the other channels and the streams
alone. -/
theorem closeChannel_channels (c : ChNum) (s : Server) :
  ((closeChannel c s).enc c).enabled = false ∧ ((closeChannel c s).enc c).encFd = -1 ∧
  (∀ d, d ≠ c → (closeChannel c s).enc d = s.enc d) ∧
  ∀ d j, (closeChannel c s).bs d j = s.bs d j
  := by
  have hclosed : ∀ t : Server,
      t.enc = (s.setAv c fun e => { e with encFd := -1, enabled := false }).enc →
      (t.enc c).enabled = false ∧ (t.enc c).encFd = -1 ∧ (∀ d, d ≠ c → t.enc d = s.enc d) ∧
      ∀ d j, t.bs d j = s.bs d j := by
    intro t ht
    constructor
    · rw [ht, Server.enc_setAv]
    · constructor
      · rw [ht, Server.enc_setAv]
      · constructor
        · intro d hne
          rw [ht, Server.enc_setAv_of_ne hne]
        · intro d j
          rw [Server.bs, ht]
          apply Server.bs_setAv_of_bs rfl d j
  apply hclosed
  unfold closeChannel
  dsimp only
  split
  · rfl
  · rfl

/-- `close_channel` closes the descriptor of the channel, and when no channel is left that of the
common device. -/
theorem closeChannel_files (c : ChNum) (s : Server) :
  (closeChannel c s).applies = s.applies ∧
  ((∃ d, ((closeChannel c s).enc d).enabled = true) ∧
      (closeChannel c s).files = Function.update s.files (s.enc c).encFd none ∧
      (closeChannel c s).rtspdDvrFd = s.rtspdDvrFd ∨
    (∀ d, ((closeChannel c s).enc d).enabled = false) ∧
      (closeChannel c s).files =
        Function.update (Function.update s.files (s.enc c).encFd none) s.rtspdDvrFd none ∧
      (closeChannel c s).rtspdDvrFd = 0)
  := by
  unfold closeChannel
  dsimp only
  split
  · next hany =>
      use rfl
      left
      obtain ⟨d, -, hd⟩ := List.any_eq_true.mp hany
      exact ⟨⟨d, hd⟩, rfl, rfl⟩
  · next hany =>
      use rfl
      right
      have hall := List.any_eq_false.mp (Bool.eq_false_iff.mpr hany)
      exact ⟨fun d => Bool.eq_false_iff.mpr (hall d (List.mem_finRange d)), rfl, rfl⟩

/-- `close_bs` leaves the numbers of the stream `i` of `c`, under which it is registered, and its
handlers alone. -/
theorem closeBs_ties : (s.bs c i).Ties ((closeBs o c i s).2.bs c i) := by
  have hdisable (s : Server) : (s.bs c i).Ties ((disable c i s).bs c i) := by
    rw [disable, Server.bs_setBs]
    exact ⟨rfl, rfl, rfl, rfl, rfl, rfl⟩
  obtain ⟨-, heq⟩ | ⟨-, heq⟩ | ⟨-, heq⟩ | ⟨-, heq⟩ | ⟨-, heq⟩ := closeBs_cases o c i s
  · rw [heq]
    apply Bs.Ties.refl
  · rw [heq]
    apply Bs.Ties.refl
  · rw [heq]
    apply hdisable
  · rw [heq]
    apply hdisable (s.apply c)
  · rw [heq, (closeChannel_channels c _).2.2.2]
    apply hdisable (s.apply c)

end Rtspd
