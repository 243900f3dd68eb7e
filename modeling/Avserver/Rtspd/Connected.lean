import Avserver.Rtspd.Handlers
import Avserver.Rtspd.Queues

/-!
# What the streams are connected with

A stream that is started is given its handlers by `open_bs` and its numbers by
`open_live_streaming`; one that is stopped loses the handlers first and the numbers once no frame of
it is outstanding.  So as long as every stream that is opened is registered, a stream that has a
handler that writes its frames is registered (`Connected`).
-/

namespace Rtspd

open Library

variable {o : Calls} {c d : ChNum} {i j : SubNum} {s s' : Server} {b b' b'' : Bs}

/-! ### The streams -/

/-- A stream `b` has the handler that opens it and the one that writes its frames, or neither of
them; and it is registered, or has no numbers and none of the two. -/
structure Bs.Connected (b : Bs) : Prop where
  handlers : b.writeFn = b.openFn
  numbers : b.Registered ∨ b.openFn = false ∧ b.qno < 0 ∧ b.sr < 0

/-- Every stream `i` of every channel `c` of the server is `Connected`. -/
def Connected (s : Server) : Prop := ∀ c i, (s.bs c i).Connected

/-- The queue of the stream is allocated and the stream is registered by the calls `o`, under a
number that no other stream of `s` has. -/
structure Calls.Registers (o : Calls) (c : ChNum) (i : SubNum) (s : Server) : Prop where
  videoQueue : 0 ≤ o.videoQueue
  streamReg : 0 ≤ o.streamReg
  fresh : ∀ d j, (d, j) ≠ (c, i) → (s.bs d j).sr ≠ o.streamReg

/-- If only the stream `i` of `c` is changed from `s` to `s'`, then the calls register it in `s'` as
they do in `s`. -/
theorem Calls.Registers.only (ho : o.Registers c i s) (honly : Only c i s s') :
  o.Registers c i s'
  := by
  use ho.videoQueue, ho.streamReg
  intro d j hne
  rw [honly.others d j hne]
  apply ho.fresh d j hne

instance decidableRegisters (o : Calls) (c : ChNum) (i : SubNum) (s : Server) :
    Decidable (o.Registers c i s) :=
  decidable_of_iff
    (0 ≤ o.videoQueue ∧ 0 ≤ o.streamReg ∧ ∀ d j, (d, j) ≠ (c, i) → (s.bs d j).sr ≠ o.streamReg)
    ⟨fun h => ⟨h.1, h.2.1, h.2.2⟩, fun h => ⟨h.1, h.2, h.3⟩⟩

namespace Bs.Connected

theorem of_ties (h : b.Connected) (hties : b.Ties b') : b'.Connected where
  handlers := by
    rw [hties.writeFn, hties.openFn]
    apply h.handlers
  numbers := by
    rw [Registered, hties.openFn, hties.qno, hties.sr]
    apply h.numbers

theorem settle (h : b.Connected) : Connected { b with event := .none } :=
  ⟨h.handlers, h.numbers⟩

/-- A connected stream `b` that has the number of a queue is registered. -/
theorem registered (h : b.Connected) (hqno : 0 ≤ b.qno) : b.Registered := by
  apply h.numbers.resolve_right
  rintro ⟨-, hneg, -⟩
  apply Int.not_lt.mpr hqno hneg

/-- A connected stream `b` that has the handler which writes its frames is registered. -/
theorem registered_of_write (h : b.Connected) (hwrite : b.writeFn = true) : b.Registered := by
  apply h.numbers.resolve_right
  rintro ⟨hopen, -⟩
  rw [← h.handlers, hwrite] at hopen
  contradiction

end Bs.Connected

/-- A stream that is opened again is connected, if its handlers agree and the calls `o` register it
where it has one. -/
theorem reopen_connected
    (hregisters : (s.bs c i).openFn = true → o.Registers c i s)
    (hhandlers : (s.bs c i).writeFn = (s.bs c i).openFn)
    (hclosed : (s.bs c i).qno < 0 ∧ (s.bs c i).sr < 0) :
  ((reopen o c i s).bs c i).Connected
  := by
  unfold reopen
  split
  · next hopen =>
      rw [bs_openLiveStreaming]
      exact ⟨hhandlers, Or.inl ⟨(hregisters hopen).videoQueue, (hregisters hopen).streamReg⟩⟩
  · next hopen => exact ⟨hhandlers, Or.inr ⟨Bool.eq_false_iff.mpr hopen, hclosed⟩⟩

/-- A connected stream that is closed has no numbers afterwards, and its handlers are those from
before, if `stream_dereg` succeeds. -/
theorem shut_closed
    (h : (s.bs c i).Connected) (hcoherent : (s.bs c i).Coherent) (hdereg : 0 ≤ o.streamDereg) :
  ((shut o c i s).bs c i).qno < 0 ∧ ((shut o c i s).bs c i).sr < 0
    ∧ ((shut o c i s).bs c i).openFn = (s.bs c i).openFn
    ∧ ((shut o c i s).bs c i).writeFn = (s.bs c i).writeFn
  := by
  unfold shut
  obtain hreg | ⟨hopen, hqno, hsr⟩ := h.numbers
  · rw [if_pos (hcoherent.registered hreg.2).2, bs_closeLiveStreaming hdereg, if_pos hreg.2]
    exact ⟨Int.negSucc_lt_zero 0, Int.negSucc_lt_zero 0, rfl, rfl⟩
  · split
    · rw [bs_closeLiveStreaming hdereg, if_neg (Int.not_le.mpr hsr)]
      exact ⟨hqno, hsr, rfl, rfl⟩
    · exact ⟨hqno, hsr, rfl, rfl⟩

namespace Connected

theorem of_started (h : s.Started) : Connected s := by
  intro c i
  rw [h.bs c i]
  exact ⟨rfl, Or.inr ⟨rfl, Int.negSucc_lt_zero 0, Int.negSucc_lt_zero 0⟩⟩

/-- If only the stream `i` of `c` is changed from `s` to `s'`, and this one is connected, then all
streams stay connected. -/
theorem of_only (h : Connected s) (honly : Only c i s s') (hown : (s'.bs c i).Connected) :
  Connected s'
  := by
  intro d j
  by_cases hp : (d, j) = (c, i)
  · obtain ⟨rfl, rfl⟩ := Prod.mk.inj hp
    apply hown
  · rw [honly.others d j hp]
    apply h d j

/-- The turn of `START_BS_EVENT`, for a stream `i` of `c` whose start is pending, keeps the streams
connected. -/
theorem startTurn
    (h : Connected s) (hcoherent : Coherent s) (hevent : (s.bs c i).event = .start)
    (hregisters : ((openBs o c i s).2.bs c i).openFn = true → o.Registers c i s) :
  Connected (startTurn o c i s)
  := by
  have honly : Only c i s (Rtspd.startTurn o c i s) := Alone.startTurn.toOnly
  have hdriver : Only c i s (openBs o c i s).2 := ByDriver.openBs.toOnly
  have hsr : (s.bs c i).sr < 0 := by
    apply Int.not_le.mp
    intro hle
    have henabled := ((hcoherent c i).registered hle).1
    rw [(hcoherent c i).pending hevent] at henabled
    contradiction
  have hqno : (s.bs c i).qno < 0 := by
    apply Int.not_le.mp
    intro hle
    apply Int.not_lt.mpr ((h c i).registered hle).2 hsr
  apply h.of_only honly
  rw [Rtspd.startTurn, Rtspd.settle, Server.bs_setBs]
  apply Bs.Connected.settle
  apply reopen_connected
  · intro hopen
    apply (hregisters hopen).only hdriver
  · obtain hties | hties := openBs_ties (o := o) (c := c) (i := i) (s := s)
    · rw [hties.writeFn, hties.openFn]
      apply (h c i).handlers
    · rw [hties.writeFn, hties.openFn]
  · obtain hties | hties := openBs_ties (o := o) (c := c) (i := i) (s := s)
    · rw [hties.qno, hties.sr]
      exact ⟨hqno, hsr⟩
    · rw [hties.qno, hties.sr]
      exact ⟨hqno, hsr⟩

/-- `UPDATE_BS_EVENT` -/
theorem updateTurn
    (h : Connected s) (hcoherent : Coherent s) (hdereg : 0 ≤ o.streamDereg)
    (hregisters : 0 ≤ (s.bs c i).qno → (getNumOfUsedVideoFrame (s.bs c i).qno s).1 = some 0 →
      (s.bs c i).openFn = true → o.Registers c i s) :
  Connected (updateTurn o c i s)
  := by
  have honly : Only c i s (Rtspd.updateTurn o c i s) := Alone.updateTurn.toOnly
  unfold Rtspd.updateTurn at honly ⊢
  dsimp only at honly ⊢
  split
  · next hqno =>
      split
      · next hcount =>
          rw [if_pos hqno, if_pos hcount] at honly
          apply h.of_only honly
          have hcounted : Only c i s (getNumOfUsedVideoFrame (s.bs c i).qno s).2 :=
            (Alone.getNumOfUsedVideoFrame _).toOnly
          generalize hs' : (getNumOfUsedVideoFrame (s.bs c i).qno s).2 = s' at hcounted
          have hbs (d : ChNum) (j : SubNum) : s'.bs d j = s.bs d j := by
            rw [← hs']
            rfl
          have hown : (s'.bs c i).Connected := by
            rw [hbs]
            apply h c i
          have hown' : (s'.bs c i).Coherent := by
            rw [hbs]
            apply hcoherent c i
          obtain ⟨hneg, hneg', hopen, hwrite⟩ := shut_closed (o := o) hown hown' hdereg
          have hshut : Only c i s' (Rtspd.shut o c i s') := Alone.shut.toOnly
          rw [Rtspd.settle, Server.bs_setBs]
          apply Bs.Connected.settle
          apply reopen_connected _ _ ⟨hneg, hneg'⟩
          · rw [hopen, hbs]
            intro hopen
            apply (hregisters hqno hcount hopen).only (hcounted.trans hshut)
          · rw [hopen, hwrite]
            apply hown.handlers
      · apply h
  · apply h

/-- The turn of `STOP_BS_EVENT` keeps the streams connected, for one that has no handler which opens
it. -/
theorem finishStop
    (h : Connected s) (hcoherent : Coherent s) (hdereg : 0 ≤ o.streamDereg)
    (hopen : (s.bs c i).openFn = false) :
  Connected (finishStop o c i s)
  := by
  have honly : Only c i s (Rtspd.finishStop o c i s) := Alone.finishStop.toOnly
  obtain ⟨hqno, hsr, hopen', hwrite⟩ := shut_closed (o := o) (h c i) (hcoherent c i) hdereg
  apply h.of_only honly
  rw [Rtspd.finishStop, Rtspd.settle, Server.bs_setBs]
  apply Bs.Connected.settle
  apply Bs.Connected.of_ties _ closeBs_ties
  rw [Server.bs_setBs]
  exact ⟨hwrite.trans ((h c i).handlers.trans hopen'.symm), Or.inr ⟨hopen'.trans hopen, hqno, hsr⟩⟩

/-- A stream `i` of those that a turn stops is closed, and the streams stay connected, if
`stream_dereg` succeeds. -/
theorem stopStream (h : Connected s) (hcoherent : Coherent s) (hdereg : 0 ≤ o.streamDereg) :
  Connected (stopStream o c i s).2
  := by
  have hnone : ((Rtspd.unhandle c i s).bs c i).openFn = false := by rw [bs_unhandle]
  have hunhandled : Connected (Rtspd.unhandle c i s) := by
    have honly : Only c i s (Rtspd.unhandle c i s) := Only.setBs _
    apply h.of_only honly
    rw [bs_unhandle]
    exact ⟨rfl, (h c i).numbers.imp_right fun hnone => ⟨rfl, hnone.2⟩⟩
  generalize hs' : (getNumOfUsedVideoFrame ((Rtspd.unhandle c i s).bs c i).qno
    (Rtspd.unhandle c i s)).2 = s'
  have hcounted : Connected s' ∧ Coherent s' ∧ (s'.bs c i).openFn = false := by
    rw [← hs']
    exact ⟨hunhandled, hcoherent.unhandle, hnone⟩
  unfold Rtspd.stopStream
  dsimp only
  rw [hs']
  split
  · split
    · apply hcounted.1.finishStop hcounted.2.1 hdereg hcounted.2.2
    · apply hcounted.1
  · split
    · apply hunhandled.finishStop hcoherent.unhandle hdereg hnone
    · have honly : Only c i (Rtspd.unhandle c i s) (settle c i (Rtspd.unhandle c i s)) :=
        Only.setBs _
      apply hunhandled.of_only honly
      rw [settle, Server.bs_setBs]
      apply (hunhandled c i).settle

/-- `STOP_BS_EVENT` -/
theorem stopStreams
    {o : SubNum → Calls} (is : List SubNum) (h : Connected s) (hcoherent : Coherent s)
    (hdereg : ∀ i, 0 ≤ (o i).streamDereg) :
  Connected (stopStreams o c is s)
  := by
  induction is generalizing s with
  | nil => apply h
  | cons i is ih =>
      rw [Rtspd.stopStreams]
      dsimp only
      split
      · apply ih (h.stopStream hcoherent (hdereg i)) (hcoherent.stopStream (hdereg i))
      · apply h.stopStream hcoherent (hdereg i)

/-- The turn of the stream `i` of `c` keeps the streams connected, if its calls register and release
as they should. -/
theorem turn
    {o : SubNum → Calls} (h : Connected s) (hcoherent : Coherent s)
    (hdereg : ∀ i, 0 ≤ (o i).streamDereg)
    (hregisters : OpensLive (o i) c i s → (o i).Registers c i s) :
  Connected (turn o c i s)
  := by
  unfold Rtspd.turn
  split
  · apply h
  · next hevent =>
      have hphase : (s.bs c i).event = s.bsEvent := not_not.mp hevent
      split
      · apply h
      · next hstart =>
          apply h.startTurn hcoherent (hphase.trans hstart)
          intro hopen
          apply hregisters ⟨hphase, Or.inl ⟨hstart, hopen⟩⟩
      · next hupdate =>
          apply h.updateTurn hcoherent (hdereg i)
          intro hqno hcount hopen
          apply hregisters ⟨hphase, Or.inr ⟨hupdate, hqno, hcount, hopen⟩⟩
      · apply h.stopStreams _ hcoherent hdereg

/-- A stored event `e` concerns no handler and no number, and the streams stay connected. -/
theorem post (h : Connected s) (e : BsEvent) : Connected (post c i e s) := by
  have hset : Connected (s.setBs c i fun b => { b with event := e }) := by
    apply h.of_only (Only.setBs _)
    rw [Server.bs_setBs]
    exact ⟨(h c i).handlers, (h c i).numbers⟩
  apply hset

end Connected

end Rtspd
