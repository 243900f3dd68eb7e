import Avserver.Rtspd.Channels
import Avserver.Rtspd.Rounds

/-!
# Stopping a channel

A stop of the main stream walks through all streams of the channel.  A stream with a queue or with
a close handler is closed; but of a stream with neither only the event is cleared.  So
the channel is closed unless a stream runs that was started with neither
(`stop_closes_channel_iff`).
-/

namespace Rtspd

open Library

variable {o : Calls} {c d : ChNum} {i j : SubNum} {s s' : Server}

/-! ### The flags of the streams and of their channel -/

/-- The two flags of every stream of `s` agree, and a channel none of whose streams runs is
closed. -/
structure Agrees (s : Server) : Prop where
  flags : ∀ c i, (s.bs c i).enabled = (s.bs c i).videoEnabled
  closed : ∀ c, (∀ i, (s.bs c i).videoEnabled = false) →
    (s.enc c).enabled = false ∧ (s.enc c).encFd = -1

namespace Agrees

theorem of_started (h : s.Started) : Agrees s where
  flags c i := by
    rw [h.bs c i]
  closed c _ := h.av c

theorem same (hsame : SameDriver s s') (h : Agrees s) : Agrees s' where
  flags c i := by
    rw [(hsame.flags c i).1, (hsame.flags c i).2]
    apply h.flags c i
  closed c hstopped := by
    rw [(hsame.channel c).1, (hsame.channel c).2]
    apply h.closed
    intro i
    rw [← (hsame.flags c i).2]
    apply hstopped i

theorem apply (h : Agrees s) : Agrees (s.apply c) := ⟨h.flags, h.closed⟩

/-- An assignment `f` that marks the stream `i` of `c` as running keeps the flags and the channels
in agreement. -/
theorem enable
    {f : Bs → Bs} (hf : ∀ b, (f b).enabled = true ∧ (f b).videoEnabled = true) (h : Agrees s) :
  Agrees (s.setBs c i f)
  := by
  constructor
  · intro d j
    by_cases hp : (d, j) = (c, i)
    · obtain ⟨rfl, rfl⟩ := Prod.mk.inj hp
      rw [Server.bs_setBs, (hf _).1, (hf _).2]
    · rw [Server.bs_setBs_other hp]
      apply h.flags d j
  · intro d hstopped
    rw [Server.enabled_setBs, Server.encFd_setBs]
    apply h.closed
    intro j
    by_cases hp : (d, j) = (c, i)
    · obtain ⟨rfl, rfl⟩ := Prod.mk.inj hp
      have hcon := hstopped j
      rw [Server.bs_setBs, (hf _).2] at hcon
      contradiction
    · rw [← Server.bs_setBs_other hp f]
      apply hstopped j

/-- If a channel `c` is marked as closed by the descriptor -1, then the flags and the channels stay
in agreement. -/
theorem noFd (h : Agrees s) : Agrees (s.setAv c fun e => { e with encFd := -1 }) where
  flags d j := by
    rw [Server.bs_setAv_of_bs rfl]
    apply h.flags d j
  closed d hstopped := by
    have hclosed := h.closed d fun j => by
      have hj := hstopped j
      rw [Server.bs_setAv_of_bs rfl] at hj
      apply hj
    by_cases hd : d = c
    · subst hd
      rw [Server.enc_setAv]
      exact ⟨hclosed.1, rfl⟩
    · rw [Server.enc_setAv_of_ne hd]
      apply hclosed

/-- If the channel `c` is opened with its main stream, then the flags and the channels stay in
agreement. -/
theorem mainOpened (h : Agrees s) (hopened : MainOpened o c s s') : Agrees s' where
  flags d j := by
    by_cases hp : (d, j) = (c, mainBsNum)
    · obtain ⟨rfl, rfl⟩ := Prod.mk.inj hp
      rw [hopened.flags.1, hopened.flags.2]
    · rw [hopened.others d j hp]
      apply h.flags d j
  closed d hstopped := by
    by_cases hd : d = c
    · subst hd
      have hcon := hstopped mainBsNum
      rw [hopened.flags.2] at hcon
      contradiction
    · rw [hopened.channels d hd]
      apply h.closed
      intro j
      rw [← hopened.others d j fun hp => hd (congrArg Prod.fst hp)]
      apply hstopped j

/-- `open_bs` -/
theorem openBs (h : Agrees s) : Agrees (openBs o c i s).2 := by
  apply openBs_keeps (fun _ _ => same) (fun _ _ => apply)
  unfold configureBs
  split
  · obtain heq | heq | ⟨-, hopened⟩ := setMainBs_cases o c s
    · rw [heq]
      apply h
    · rw [heq]
      apply h.noFd
    · apply h.mainOpened hopened
  · unfold setSubBs
    split
    · apply h
    · split
      · apply h
      · split
        · apply h
        · dsimp only
          apply enable _ h
          exact fun _ => ⟨rfl, rfl⟩

/-- When the stream `i` of `c` is marked as stopped, the two flags of every stream agree as
before. -/
theorem flags_disable
    (h : Agrees s) (d : ChNum) (j : SubNum) :
  ((disable c i s).bs d j).enabled = ((disable c i s).bs d j).videoEnabled
  := by
  by_cases hp : (d, j) = (c, i)
  · obtain ⟨rfl, rfl⟩ := Prod.mk.inj hp
    rw [disable, Server.bs_setBs]
  · rw [disable, Server.bs_setBs_other hp]
    apply h.flags d j

/-- `close_bs` -/
theorem closeBs (h : Agrees s) : Agrees (closeBs o c i s).2 := by
  obtain ⟨-, heq⟩ | ⟨-, heq⟩ | ⟨hstopped, heq⟩ | ⟨⟨j, hj⟩, heq⟩ | ⟨hnone, heq⟩ :=
    closeBs_cases o c i s
  · rw [heq]
    apply h
  · rw [heq]
    apply h.apply
  · rw [heq]
    use h.flags_disable
    intro d hd
    rw [disable, Server.enabled_setBs, Server.encFd_setBs]
    apply h.closed
    intro j
    by_cases hp : (d, j) = (c, i)
    · obtain ⟨rfl, rfl⟩ := Prod.mk.inj hp
      apply hstopped
    · have hj := hd j
      rw [disable, Server.bs_setBs_other hp] at hj
      apply hj
  · rw [heq]
    use h.apply.flags_disable
    intro d hd
    by_cases hdc : d = c
    · subst hdc
      rw [hd j] at hj
      contradiction
    · rw [disable, Server.enabled_setBs, Server.encFd_setBs]
      apply h.apply.closed
      intro k
      have hk := hd k
      rw [disable, Server.bs_setBs_other fun hp => hdc (congrArg Prod.fst hp)] at hk
      apply hk
  · rw [heq]
    obtain ⟨henabled, hencFd, hchannels, hbs⟩ := closeChannel_channels c (disable c i (s.apply c))
    constructor
    · intro d j
      rw [hbs]
      apply h.apply.flags_disable d j
    · intro d hd
      by_cases hdc : d = c
      · subst hdc
        exact ⟨henabled, hencFd⟩
      · rw [hchannels d hdc, disable, Server.enabled_setBs, Server.encFd_setBs]
        apply h.apply.closed
        intro k
        have hk := hd k
        rw [hbs, disable, Server.bs_setBs_other fun hp => hdc (congrArg Prod.fst hp)] at hk
        apply hk

theorem turn (o : SubNum → Calls) (h : Agrees s) : Agrees (turn o c i s) :=
  turn_keeps (fun _ _ => same) (fun _ _ _ => closeBs) (fun _ _ => h.openBs) h

theorem step {input : ServerInput} (h : Agrees s) (hstep : serverStep s input = some s') : Agrees s' := by
  apply serverStep_keeps (fun _ _ => same) (fun _ _ => apply) _ h hstep
  rintro c i o rfl
  apply h.turn o

end Agrees

/-! ### A stop -/

/-- The stream `b` has been stopped and is `b'` now: it has no handlers, and it has been closed if
it had a queue or a close handler. -/
structure Stopped (b b' : Bs) : Prop where
  handlers : b'.openFn = false ∧ b'.closeFn = false ∧ b'.readFn = false ∧ b'.writeFn = false ∧
    b'.freeFn = false
  video : b'.videoEnabled = true ↔ b.videoEnabled = true ∧ ¬ (0 ≤ b.qno ∨ b.closeFn = true)

/-- `close_bs` leaves the handlers of the stream `i` of `c` alone, and stops it, if the driver does
not fail. -/
theorem closeBs_own (hcontrol : 0 ≤ o.encControl) (hcommon : 0 ≤ o.commonApply) :
  ((closeBs o c i s).2.bs c i) = { s.bs c i with videoEnabled := false, enabled := false }
  := by
  have hdisable (s : Server) :
      (disable c i s).bs c i = { s.bs c i with videoEnabled := false, enabled := false } := by
    rw [disable, Server.bs_setBs]
  obtain ⟨hlt, -⟩ | ⟨hlt, -⟩ | ⟨-, heq⟩ | ⟨-, heq⟩ | ⟨-, heq⟩ := closeBs_cases o c i s
  · omega
  · omega
  · rw [heq, hdisable]
  · rw [heq, hdisable]
    rfl
  · rw [heq, (closeChannel_channels c _).2.2.2, hdisable]
    rfl

/-- The stream `i` of `c` has been `Stopped` when it has been closed with the library and stopped
with the driver. -/
theorem finishStop_stopped
    {b : Bs} (hcontrol : 0 ≤ o.encControl) (hcommon : 0 ≤ o.commonApply)
    (hqno : 0 ≤ b.qno ∨ b.closeFn = true) (hopen : (s.bs c i).openFn = false)
    (hread : (s.bs c i).readFn = false) (hwrite : (s.bs c i).writeFn = false)
    (hfree : (s.bs c i).freeFn = false) :
  Stopped b ((finishStop o c i s).bs c i)
  := by
  have hshut : (shut o c i s).bs c i = { s.bs c i with
      sr := ((shut o c i s).bs c i).sr
      qno := ((shut o c i s).bs c i).qno
      audioQno := ((shut o c i s).bs c i).audioQno } := by
    unfold shut
    split
    · apply (ByLibrary.closeLiveStreaming (o := o)).own
    · rfl
  rw [finishStop, settle, Server.bs_setBs, closeBs_own hcontrol hcommon, Server.bs_setBs, hshut]
  constructor
  · exact ⟨hopen, rfl, hread, hwrite, hfree⟩
  · simp [hqno]

/-- The stream `i` of `c` has been `Stopped` when the next one is to be, and its event stands
otherwise. -/
theorem stopStream_stopped (hcontrol : 0 ≤ o.encControl) (hcommon : 0 ≤ o.commonApply) :
  ((stopStream o c i s).1 = true ∧ Stopped (s.bs c i) ((stopStream o c i s).2.bs c i)) ∨
  ((stopStream o c i s).1 = false ∧
    ((stopStream o c i s).2.bs c i).event = (s.bs c i).event)
  := by
  have hqno : ((unhandle c i s).bs c i).qno = (s.bs c i).qno := by rw [bs_unhandle]
  have hclose : ((unhandle c i s).bs c i).closeFn = (s.bs c i).closeFn := by rw [bs_unhandle]
  have hfinish (t : Server) (ht : t.bs c i = (unhandle c i s).bs c i)
      (hqno : 0 ≤ (s.bs c i).qno ∨ (s.bs c i).closeFn = true) :
      Stopped (s.bs c i) ((finishStop o c i t).bs c i) := by
    apply finishStop_stopped hcontrol hcommon hqno
    · rw [ht, bs_unhandle]
    · rw [ht, bs_unhandle]
    · rw [ht, bs_unhandle]
    · rw [ht, bs_unhandle]
  unfold stopStream
  dsimp only
  split
  · next hq =>
      rw [hqno] at hq
      split
      · left
        use rfl
        exact hfinish _ rfl (Or.inl hq)
      · right
        use rfl
        change ((unhandle c i s).bs c i).event = (s.bs c i).event
        rw [bs_unhandle]
  · next hq =>
      left
      rw [hqno] at hq
      split
      · next hc =>
          use rfl
          rw [hclose] at hc
          apply hfinish _ rfl (Or.inr hc)
      · next hc =>
          use rfl
          rw [hclose] at hc
          rw [settle, Server.bs_setBs, bs_unhandle]
          constructor
          · exact ⟨rfl, by simpa using hc, rfl, rfl, rfl⟩
          · simp [hq, hc]

/-- When the event of the last stream `m` of those that are stopped has been cleared, all of them
have been `Stopped`. -/
theorem stopStreams_stopped
    {o : SubNum → Calls} {is : List SubNum} {m : SubNum}
    (hcalls : ∀ i, 0 ≤ (o i).encControl ∧ 0 ≤ (o i).commonApply)
    (hnd : (is ++ [m]).Nodup) (hevent : (s.bs c m).event ≠ .none)
    (hdone : ((stopStreams o c (is ++ [m]) s).bs c m).event = .none) :
  ∀ j ∈ is ++ [m], Stopped (s.bs c j) ((stopStreams o c (is ++ [m]) s).bs c j)
  := by
  induction is generalizing s with
  | nil =>
      obtain ⟨hnext, hstopped⟩ | ⟨hnext, hkept⟩ :=
        stopStream_stopped (c := c) (i := m) (s := s) (hcalls m).1 (hcalls m).2
      · intro j hj
        obtain rfl := List.mem_singleton.mp hj
        have hrun : stopStreams o c [j] s = (stopStream (o j) c j s).2 := by
          rw [stopStreams]
          dsimp only
          rw [if_pos hnext]
          rfl
        rw [List.nil_append, hrun]
        apply hstopped
      · have hrun : stopStreams o c [m] s = (stopStream (o m) c m s).2 := by
          rw [stopStreams]
          dsimp only
          rw [if_neg (by simp [hnext])]
        rw [List.nil_append, hrun, hkept] at hdone
        exact absurd hdone hevent
  | cons i is ih =>
      obtain ⟨hmem, hnd⟩ := List.nodup_cons.mp hnd
      have halone : Alone c i s (stopStream (o i) c i s).2 := Alone.stopStream
      have hsame (j : SubNum) (hj : j ∈ is ++ [m]) :
          (stopStream (o i) c i s).2.bs c j = s.bs c j := by
        apply halone.others
        rintro ⟨⟩
        apply hmem hj
      have hm : m ∈ is ++ [m] := List.mem_append_right is List.mem_cons_self
      rw [List.cons_append, stopStreams] at hdone ⊢
      dsimp only at hdone ⊢
      obtain ⟨hnext, hstopped⟩ | ⟨hnext, -⟩ :=
        stopStream_stopped (c := c) (i := i) (s := s) (hcalls i).1 (hcalls i).2
      · rw [if_pos hnext] at hdone ⊢
        have hrest := ih hnd (by rw [hsame m hm]; apply hevent) hdone
        intro j hj
        obtain rfl | hj := List.mem_cons.mp hj
        · rw [stopStreams_others o (is ++ [m]) _ (Or.inr hmem)]
          apply hstopped
        · rw [← hsame j hj]
          apply hrest j hj
      · rw [if_neg (by simp [hnext]), hsame m hm] at hdone
        exact absurd hdone hevent

/-- All streams of the channel `c` have been stopped, and the channel has been closed. -/
structure ChannelDown (c : ChNum) (s : Server) : Prop where
  flags : ∀ i, (s.bs c i).enabled = false ∧ (s.bs c i).videoEnabled = false
  handlers : ∀ i, (s.bs c i).openFn = false ∧ (s.bs c i).closeFn = false ∧
    (s.bs c i).readFn = false ∧ (s.bs c i).writeFn = false ∧ (s.bs c i).freeFn = false
  channel : (s.enc c).encFd = -1 ∧ (s.enc c).enabled = false

/-- In every run, when the driver does not fail and a turn ends the stop of a main stream, the
channel `c` is down exactly when every stream of it that ran had a queue or a close handler. -/
theorem stop_closes_channel_iff
    {C : Server → ServerInput → Prop} {s₀ : Server} {inputs : List ServerInput}
    {o : SubNum → Calls} (hstart : s₀.Started) (hrun : Run serverStep C s₀ inputs s)
    (hphase : s.bsEvent = .stop) (hevent : (s.bs c mainBsNum).event = .stop)
    (hcalls : ∀ i, 0 ≤ (o i).encControl ∧ 0 ≤ (o i).commonApply)
    (hdone : ((turn o c mainBsNum s).bs c mainBsNum).event = .none) :
  ChannelDown c (turn o c mainBsNum s) ↔
    ∀ i, (s.bs c i).videoEnabled = true → 0 ≤ (s.bs c i).qno ∨ (s.bs c i).closeFn = true
  := by
  have hagrees : Agrees s :=
    hrun.invariant (fun _ _ _ hs _ hstep => hs.step hstep) (Agrees.of_started hstart)
  have hagrees' : Agrees (turn o c mainBsNum s) := hagrees.turn o
  have hturn : turn o c mainBsNum s =
      stopStreams o c ([8, 7, 6, 5, 4, 3, 2, 1] ++ [mainBsNum]) s := by
    rw [turn, if_neg (not_not_intro (hevent.trans hphase.symm)), hphase]
    rfl
  have hstopped (i : SubNum) : Stopped (s.bs c i) ((turn o c mainBsNum s).bs c i) := by
    rw [hturn] at hdone ⊢
    apply stopStreams_stopped hcalls (by decide) (by simp [hevent]) hdone
    revert i
    decide
  constructor
  · intro hdown i hvideo
    by_contra hnone
    have hrunning := (hstopped i).video.mpr ⟨hvideo, hnone⟩
    rw [(hdown.flags i).2] at hrunning
    contradiction
  · intro hclosed
    have hvideo (i : SubNum) : ((turn o c mainBsNum s).bs c i).videoEnabled = false := by
      rw [Bool.eq_false_iff]
      intro hrunning
      obtain ⟨hvideo, hnone⟩ := (hstopped i).video.mp hrunning
      apply hnone (hclosed i hvideo)
    obtain ⟨henabled, hencFd⟩ := hagrees'.closed c hvideo
    constructor
    · intro i
      rw [hagrees'.flags c i]
      exact ⟨hvideo i, hvideo i⟩
    · exact fun i => (hstopped i).handlers
    · exact ⟨hencFd, henabled⟩

/-- The general `stop_closes_channel_iff` at the main stream and another, which are started and
stopped: the channel is down. -/
theorem stop_closes_newServer :
  ∃ s, Run serverStep (fun _ _ => True) (newServer rtspLiveStreaming)
      [.event 0 0 .start, .event 0 1 .start, .turn 0 0 (fun _ => workingCalls),
        .turn 0 1 (fun _ => { workingCalls with videoQueue := 2, streamReg := 1 }), .advance,
        .event 0 0 .stop] s ∧
    ChannelDown 0 (turn (fun _ => workingCalls) 0 mainBsNum s)
  := by
  obtain ⟨s, hrun, hs⟩ := Run.exists_of_exec serverStep (fun _ _ => True)
    (newServer rtspLiveStreaming)
    (fun s => decide ((s.bsEvent = .stop ∧ (s.bs 0 mainBsNum).event = .stop) ∧
      ((turn (fun _ => workingCalls) 0 mainBsNum s).bs 0 mainBsNum).event = .none ∧
      ∀ i, (s.bs 0 i).videoEnabled = true → 0 ≤ (s.bs 0 i).qno ∨ (s.bs 0 i).closeFn = true))
    [.event 0 0 .start, .event 0 1 .start, .turn 0 0 (fun _ => workingCalls),
      .turn 0 1 (fun _ => { workingCalls with videoQueue := 2, streamReg := 1 }), .advance,
      .event 0 0 .stop] (by decide +kernel)
  obtain ⟨⟨hphase, hevent⟩, hdone, hclosed⟩ := of_decide_eq_true hs
  have hcalls : ∀ _ : SubNum, 0 ≤ workingCalls.encControl ∧ 0 ≤ workingCalls.commonApply := by
    decide
  exact ⟨s, hrun, (stop_closes_channel_iff (newServer_started _) hrun hphase hevent hcalls
    hdone).mpr hclosed⟩

/-- A main stream that is recorded, with `opt_type` 2, is started and stopped: its event is
cleared, and the stream goes on. -/
theorem stop_leaves_channel_open :
  (newServer 2).Started ∧
  ∃ s, Run serverStep (fun _ _ => True) (newServer 2)
      [.event 0 0 .start, .turn 0 0 (fun _ => workingCalls), .advance, .event 0 0 .stop] s ∧
    (s.bsEvent = .stop ∧ (s.bs 0 mainBsNum).event = .stop) ∧
    ((turn (fun _ => workingCalls) 0 mainBsNum s).bs 0 mainBsNum).event = .none ∧
    ¬ ChannelDown 0 (turn (fun _ => workingCalls) 0 mainBsNum s)
  := by
  use newServer_started _
  obtain ⟨s, hrun, hs⟩ := Run.exists_of_exec serverStep (fun _ _ => True) (newServer 2)
    (fun s => decide ((s.bsEvent = .stop ∧ (s.bs 0 mainBsNum).event = .stop) ∧
      ((turn (fun _ => workingCalls) 0 mainBsNum s).bs 0 mainBsNum).event = .none ∧
      ((turn (fun _ => workingCalls) 0 mainBsNum s).bs 0 mainBsNum).enabled = true))
    [.event 0 0 .start, .turn 0 0 (fun _ => workingCalls), .advance, .event 0 0 .stop]
    (by decide +kernel)
  obtain ⟨hstop, hdone, henabled⟩ := of_decide_eq_true hs
  use s, hrun, hstop, hdone
  intro hdown
  rw [(hdown.flags mainBsNum).1] at henabled
  contradiction

end Rtspd
