import Avserver.Rtspd.Effects
import Avserver.Rtspd.Events

/-!
# Rounds that handle the events

When no frame is outstanding, a round handles all events of its phase, and three rounds handle
the events of all kinds.  An exception is the update of a stream that has no queue: it is never
cleared, and when the rounds come to its phase they stay there.  So the events are handled unless
such an update is pending that no stop of its main stream clears before (`events_handled_iff`).
-/

namespace Rtspd

open Library

variable {o : Calls} {c d : ChNum} {i j : SubNum} {s s' s'' : Server}

/-- No frame is outstanding in any queue of `s`, so that every stream may be stopped. -/
def UsedEmpty (s : Server) : Prop := ∀ qno, (s.frameInfo qno).used = none

/-- Every event has been handled, and none stands for any stream of `s`. -/
def Server.Idle (s : Server) : Prop := ∀ c i, (s.bs c i).event = .none

/-- An update is pending for a stream without a queue, and the rounds have come to the updates or no
stop of the whole channel is pending: nothing will clear it. -/
def Server.Stuck (s : Server) : Prop :=
  ∃ c i, (s.bs c i).event = .update ∧ (s.bs c i).qno < 0 ∧
    (s.bsEvent = .update ∨ (s.bs c mainBsNum).event ≠ .stop)

instance (s : Server) : Decidable s.Idle := inferInstanceAs (Decidable (∀ _ _, _))

instance (s : Server) : Decidable s.Stuck := inferInstanceAs (Decidable (∃ _ _, _))

/-- The server behind `n` rounds of `bs_new_event`, one behind the other, each with its own
calls. -/
def rounds (o : Nat → ChNum → SubNum → SubNum → Calls) : Nat → Server → Server
  | 0, s => s
  | n + 1, s => bsNewEvent (o n) (rounds o n s)

/-- The `events` are set by `env_set_bs_new_event`, one behind the other, or refused. -/
def posted (events : List (Int × Int × BsEvent)) (s : Server) : Server :=
  events.foldl (fun s e => (envSetBsNewEvent e.1 e.2.1 e.2.2 s).2) s

/-! ### The frames that are outstanding -/

/-- The loop of `init_video_frame` leaves the used slots of `fi` alone. -/
theorem initLoop_used (malloc : Nat → Option SlotId × Bool) (n k : Nat) (fi : FrameInfo) :
  (initLoop malloc n k fi).2.used = fi.used
  := by
  induction n generalizing k fi with
  | zero => rfl
  | succ n ih =>
      rw [initLoop]
      split
      · apply ih
      · rfl

/-- From `s` to `s'`, at most the stream `i` of `c` is changed, and no frame is taken. -/
structure Alone (c : ChNum) (i : SubNum) (s s' : Server) : Prop extends Only c i s s' where
  used : UsedEmpty s → UsedEmpty s'

namespace Alone

theorem refl (c : ChNum) (i : SubNum) (s : Server) : Alone c i s s := ⟨Only.refl c i s, id⟩

theorem trans (h : Alone c i s s') (h' : Alone c i s' s'') : Alone c i s s'' :=
  ⟨h.toOnly.trans h'.toOnly, fun hused => h'.used (h.used hused)⟩

theorem setBs (f : Bs → Bs) : Alone c i s (s.setBs c i f) := ⟨Only.setBs f, id⟩

theorem of_driver (h : ByDriver c i s s') : Alone c i s s' where
  toOnly := h.toOnly
  used hused qno := by
    rw [h.frameInfo]
    apply hused

/-- A change of one queue `qno` in `frame_info[]` by which no slot comes into use leaves the others
alone. -/
theorem of_update
    {qno : Int} {fi : FrameInfo} (h : Only c i s s')
    (hfi : s'.frameInfo = Function.update s.frameInfo qno fi)
    (hused : (s.frameInfo qno).used = none → fi.used = none) :
  Alone c i s s' where
  toOnly := h
  used hempty q := by
    rw [hfi]
    by_cases hq : q = qno
    · subst hq
      rw [Function.update_self]
      apply hused (hempty q)
    · rw [Function.update_of_ne hq]
      apply hempty

theorem initPool (qno : Int) : Alone c i s (initPool o qno s).2 := by
  have honly : Only c i s (Rtspd.initPool o qno s).2 := (ByLibrary.initPool qno).toOnly
  by_cases hrange : qno ≥ vqMax ∨ qno < 0
  · rw [Rtspd.initPool, if_pos hrange]
    apply refl
  · apply of_update honly
    · rw [Rtspd.initPool, if_neg hrange]
    · intro hused
      rw [initVideoFrame, if_neg hrange]
      split
      · apply hused
      · apply initLoop_used

theorem freeVideoFrame (qno : Int) : Alone c i s (freeVideoFrame qno s).2 := by
  apply of_update (ByLibrary.freeVideoFrame qno).toOnly
  · rfl
  · intro hused
    split
    · apply hused
    · rfl

theorem getNumOfUsedVideoFrame (qno : Int) : Alone c i s (getNumOfUsedVideoFrame qno s).2 :=
  ⟨(ByLibrary.getNumOfUsedVideoFrame qno).toOnly, id⟩

theorem reopen : Alone c i s (reopen o c i s) := by
  unfold Rtspd.reopen Rtspd.openLiveStreaming
  split
  · dsimp only
    split
    · dsimp only
      apply setBs
    · dsimp only
      apply (setBs _).trans (initPool _)
  · apply refl

theorem shut : Alone c i s (shut o c i s) := by
  unfold Rtspd.shut Rtspd.closeLiveStreaming
  split
  · dsimp only
    split
    · split
      · apply freeVideoFrame
      · dsimp only
        apply (freeVideoFrame _).trans (setBs _)
    · apply freeVideoFrame
  · apply refl

theorem settle : Alone c i s (settle c i s) := setBs _

theorem startTurn : Alone c i s (startTurn o c i s) := by
  have hopen : Alone c i s (Rtspd.openBs o c i s).2 := of_driver ByDriver.openBs
  apply (hopen.trans (reopen (o := o))).trans settle

theorem updateTurn : Alone c i s (updateTurn o c i s) := by
  have hcount := getNumOfUsedVideoFrame (c := c) (i := i) (s := s) (s.bs c i).qno
  unfold Rtspd.updateTurn
  split
  · dsimp only
    split
    · apply ((hcount.trans (shut (o := o))).trans (reopen (o := o))).trans settle
    · apply hcount
  · apply refl

theorem finishStop : Alone c i s (finishStop o c i s) := by
  have hshut := (shut (o := o) (c := c) (i := i) (s := s)).trans
    (setBs fun b => { b with closeFn := false })
  apply (hshut.trans (of_driver (ByDriver.closeBs (o := o)))).trans settle

theorem stopStream : Alone c i s (stopStream o c i s).2 := by
  have hunhandle : Alone c i s (unhandle c i s) := setBs _
  have hcount := hunhandle.trans
    (getNumOfUsedVideoFrame (c := c) (i := i) ((unhandle c i s).bs c i).qno)
  unfold Rtspd.stopStream
  dsimp only
  split
  · split
    · apply hcount.trans finishStop
    · apply hcount
  · split
    · apply hunhandle.trans finishStop
    · apply hunhandle.trans settle

end Alone

/-- Closing the stream `i` of `c` leaves its handlers alone, whether or not its registration is
cancelled. -/
theorem shut_handlers :
  ((shut o c i s).bs c i).openFn = (s.bs c i).openFn
    ∧ ((shut o c i s).bs c i).closeFn = (s.bs c i).closeFn
  := by
  unfold shut
  split
  · rw [ByLibrary.closeLiveStreaming.own]
    exact ⟨rfl, rfl⟩
  · exact ⟨rfl, rfl⟩

/-! ### Turns -/

/-- Without outstanding frames, the event of the stream `i` of `c` that is stopped is cleared, and
the next stream is stopped. -/
theorem stopStream_event (hused : UsedEmpty s) :
  (stopStream o c i s).1 = true ∧ ((stopStream o c i s).2.bs c i).event = .none
  := by
  have hcount (qno : Int) : (getNumOfUsedVideoFrame qno (unhandle c i s)).1 = some 0 := by
    have hnone : ((unhandle c i s).frameInfo qno).used = none := hused qno
    rw [getNumOfUsedVideoFrame, hnone]
    rfl
  unfold stopStream
  dsimp only
  split
  · rw [if_pos (hcount _)]
    exact ⟨rfl, event_settle ..⟩
  · split
    · exact ⟨rfl, event_settle ..⟩
    · exact ⟨rfl, event_settle ..⟩

/-- Stopping the streams `is` of `c` leaves the others alone. -/
theorem stopStreams_others (o : SubNum → Calls) (is : List SubNum) (s : Server) (h : d ≠ c ∨ j ∉ is) :
  (stopStreams o c is s).bs d j = s.bs d j
  := by
  induction is generalizing s with
  | nil => rfl
  | cons i is ih =>
      have hone : (stopStream (o i) c i s).2.bs d j = s.bs d j := by
        apply Alone.stopStream.others
        rintro ⟨⟩
        apply h.elim (fun h => h rfl) (fun h => h List.mem_cons_self)
      rw [stopStreams]
      dsimp only
      split
      · rw [ih _ (h.imp_right (mt (List.mem_cons_of_mem i)))]
        apply hone
      · apply hone

/-- Without outstanding frames, the events of all the streams `is` of `c` that are stopped are
cleared. -/
theorem stopStreams_event (o : SubNum → Calls) (is : List SubNum) (hused : UsedEmpty s) :
  UsedEmpty (stopStreams o c is s) ∧ ∀ j ∈ is, ((stopStreams o c is s).bs c j).event = .none
  := by
  induction is generalizing s with
  | nil => exact ⟨hused, fun _ hj => absurd hj List.not_mem_nil⟩
  | cons i is ih =>
      obtain ⟨hnext, hevent⟩ := stopStream_event (o := o i) (c := c) (i := i) hused
      have halone : Alone c i s (stopStream (o i) c i s).2 := Alone.stopStream
      obtain ⟨hused', hcleared⟩ := ih (halone.used hused)
      rw [stopStreams]
      dsimp only
      rw [if_pos hnext]
      use hused'
      intro j hj
      by_cases hmem : j ∈ is
      · apply hcleared j hmem
      · obtain rfl : j = i := (List.mem_cons.mp hj).resolve_right hmem
        rw [stopStreams_others o is _ (Or.inr hmem)]
        apply hevent

/-- Stopping the stream `i` alone is `stopStream`, whatever this says about the next one. -/
theorem stopStreams_single (o : SubNum → Calls) (c : ChNum) (i : SubNum) (s : Server) :
  stopStreams o c [i] s = (stopStream (o i) c i s).2
  := by
  rw [stopStreams]
  dsimp only
  split
  · rfl
  · rfl

/-- Stopping the streams `is` leaves the phase of the rounds and the flag alone. -/
theorem stopStreams_phase (o : SubNum → Calls) (is : List SubNum) (s : Server) :
  (stopStreams o c is s).bsEvent = s.bsEvent ∧
  (stopStreams o c is s).rtspdSetEvent = s.rtspdSetEvent
  := by
  induction is generalizing s with
  | nil => exact ⟨rfl, rfl⟩
  | cons i is ih =>
      have halone : Alone c i s (stopStream (o i) c i s).2 := Alone.stopStream
      rw [stopStreams]
      dsimp only
      split
      · exact ⟨(ih _).1.trans halone.bsEvent, (ih _).2.trans halone.rtspdSetEvent⟩
      · exact ⟨halone.bsEvent, halone.rtspdSetEvent⟩

/-- The turn of the stream `i` of `c` leaves the phase of the rounds and the flag alone. -/
theorem turn_phase (o : SubNum → Calls) (c : ChNum) (i : SubNum) (s : Server) :
  (turn o c i s).bsEvent = s.bsEvent ∧ (turn o c i s).rtspdSetEvent = s.rtspdSetEvent
  := by
  unfold turn
  split
  · exact ⟨rfl, rfl⟩
  · split
    · exact ⟨rfl, rfl⟩
    · exact ⟨Alone.startTurn.bsEvent, Alone.startTurn.rtspdSetEvent⟩
    · exact ⟨Alone.updateTurn.bsEvent, Alone.updateTurn.rtspdSetEvent⟩
    · apply stopStreams_phase

/-- What the turns of the streams in `ps` do from `s` to `s'` when no frame is outstanding. -/
structure Passed (ps : List (ChNum × SubNum)) (s s' : Server) : Prop where
  used : UsedEmpty s'
  bsEvent : s'.bsEvent = s.bsEvent
  /-- an event is cleared, or its stream is left alone -/
  cleared : ∀ d j, (s'.bs d j).event = .none ∨ s'.bs d j = s.bs d j
  others : ∀ d j, (d, j) ∉ ps → (d, mainBsNum) ∉ ps → s'.bs d j = s.bs d j
  /-- an event of another phase, or of an update without a queue, is cleared by a stop only -/
  kept : ∀ d j, (s.bs d j).event ≠ s.bsEvent ∨ s.bsEvent = .update ∧ (s.bs d j).qno < 0 →
    s.bsEvent ≠ .stop ∨ (s.bs d mainBsNum).event ≠ .stop → s'.bs d j = s.bs d j
  handled : ∀ p ∈ ps, (s'.bs p.1 p.2).event = s.bsEvent →
    s.bsEvent = .none ∨ s.bsEvent = .update ∧ (s.bs p.1 p.2).qno < 0
  stopped : s.bsEvent = .stop → ∀ d, (d, mainBsNum) ∈ ps → (s.bs d mainBsNum).event = .stop →
    ∀ j, (s'.bs d j).event = .none

namespace Passed

theorem nil (hused : UsedEmpty s) : Passed [] s s where
  used := hused
  bsEvent := rfl
  cleared _ _ := Or.inr rfl
  others _ _ _ _ := rfl
  kept _ _ _ _ := rfl
  handled _ hp := absurd hp List.not_mem_nil
  stopped _ _ hp := absurd hp List.not_mem_nil

/-- A turn of the stream `i` of `c` that does nothing has `Passed` it. -/
theorem same
    (hused : UsedEmpty s) (h : (s.bs c i).event = s.bsEvent → s.bsEvent = .none ∨
      s.bsEvent = .update ∧ (s.bs c i).qno < 0) :
  Passed [(c, i)] s s where
  used := hused
  bsEvent := rfl
  cleared _ _ := Or.inr rfl
  others _ _ _ _ := rfl
  kept _ _ _ _ := rfl
  handled p hp := by
    obtain rfl := List.mem_singleton.mp hp
    apply h
  stopped hstop d hp hevent := by
    obtain ⟨rfl, rfl⟩ := Prod.mk.inj (List.mem_singleton.mp hp)
    have hcon := h (hevent.trans hstop.symm)
    rw [hstop] at hcon
    simp at hcon

/-- A turn that clears the event of the stream `i` of `c` and changes no other stream has `Passed`
it. -/
theorem alone
    (hused : UsedEmpty s) (h : Alone c i s s') (hevent : (s'.bs c i).event = .none)
    (hphase : (s.bs c i).event = s.bsEvent) (hnone : s.bsEvent ≠ .none)
    (hqno : ¬ (s.bsEvent = .update ∧ (s.bs c i).qno < 0))
    (hmain : ¬ (s.bsEvent = .stop ∧ i = mainBsNum)) :
  Passed [(c, i)] s s' where
  used := h.used hused
  bsEvent := h.bsEvent
  cleared d j := by
    by_cases hp : (d, j) = (c, i)
    · obtain ⟨rfl, rfl⟩ := Prod.mk.inj hp
      apply Or.inl hevent
    · apply Or.inr (h.others d j hp)
  others d j hp _ := h.others d j (mt List.mem_singleton.mpr hp)
  kept d j hne _ := by
    apply h.others
    rintro ⟨⟩
    apply hne.elim (fun hne => hne hphase) hqno
  handled p hp hcon := by
    obtain rfl := List.mem_singleton.mp hp
    rw [hevent] at hcon
    exact absurd hcon.symm hnone
  stopped hstop d hp _ := by
    obtain ⟨rfl, rfl⟩ := Prod.mk.inj (List.mem_singleton.mp hp)
    exact absurd ⟨hstop, rfl⟩ hmain

/-- A turn of the main stream of `c` that stops all streams of the channel has `Passed` it. -/
theorem channel
    (hused : UsedEmpty s') (hbsEvent : s'.bsEvent = s.bsEvent)
    (hothers : ∀ d j, d ≠ c → s'.bs d j = s.bs d j)
    (hevent : ∀ j, (s'.bs c j).event = .none) (hstop : s.bsEvent = .stop)
    (hmain : (s.bs c mainBsNum).event = .stop) :
  Passed [(c, mainBsNum)] s s' where
  used := hused
  bsEvent := hbsEvent
  cleared d j := by
    by_cases hd : d = c
    · subst hd
      apply Or.inl (hevent j)
    · apply Or.inr (hothers d j hd)
  others d j _ hp := by
    apply hothers
    rintro rfl
    apply hp (List.mem_singleton.mpr rfl)
  kept d j _ hne := by
    apply hothers
    rintro rfl
    apply hne.elim (fun hne => hne hstop) (fun hne => hne hmain)
  handled p hp hcon := by
    obtain rfl := List.mem_singleton.mp hp
    rw [hevent, hstop] at hcon
    contradiction
  stopped _ d hp _ j := by
    obtain ⟨rfl, -⟩ := Prod.mk.inj (List.mem_singleton.mp hp)
    apply hevent j

/-- Without outstanding frames, the turn of the stream `i` of `c` has `Passed` it. -/
theorem turn (o : SubNum → Calls) (c : ChNum) (i : SubNum) (hused : UsedEmpty s) :
  Passed [(c, i)] s (turn o c i s)
  := by
  by_cases hphase : (s.bs c i).event = s.bsEvent
  · rw [Rtspd.turn, if_neg (not_not_intro hphase)]
    cases hbsEvent : s.bsEvent with
    | none => apply same hused fun _ => Or.inl hbsEvent
    | start =>
        apply alone hused Alone.startTurn (event_settle ..) hphase
        · simp [hbsEvent]
        · simp [hbsEvent]
        · simp [hbsEvent]
    | update =>
        by_cases hqno : (s.bs c i).qno < 0
        · rw [updateTurn, if_neg (Int.not_le.mpr hqno)]
          apply same hused fun _ => Or.inr ⟨hbsEvent, hqno⟩
        · have hcount : (getNumOfUsedVideoFrame (s.bs c i).qno s).1 = some 0 := by
            rw [getNumOfUsedVideoFrame, hused]
            rfl
          apply alone hused Alone.updateTurn _ hphase
          · simp [hbsEvent]
          · simp [hbsEvent, hqno]
          · simp [hbsEvent]
          · rw [updateTurn, if_pos (Int.not_lt.mp hqno)]
            dsimp only
            rw [if_pos hcount]
            apply event_settle
    | stop =>
        obtain ⟨hused', hcleared⟩ := stopStreams_event (c := c) o (Rtspd.stopped i) hused
        by_cases hmain : i = mainBsNum
        · subst hmain
          apply channel hused' (stopStreams_phase _ _ _).1
            (fun d j hd => stopStreams_others o _ s (Or.inl hd))
          · intro j
            apply hcleared
            rw [Rtspd.stopped, if_pos rfl]
            simp
          · apply hbsEvent
          · apply hphase.trans hbsEvent
        · have hstopped : Rtspd.stopped i = [i] := if_neg hmain
          rw [hstopped] at hcleared ⊢
          have halone : Alone c i s (stopStreams o c [i] s) := by
            rw [stopStreams_single]
            apply Alone.stopStream
          apply alone hused halone (hcleared i List.mem_cons_self) hphase
          · simp [hbsEvent]
          · simp [hbsEvent]
          · simp [hmain]
  · rw [Rtspd.turn, if_pos hphase]
    apply same hused fun h => absurd h hphase

/-- A turn that has `Passed` the stream `p` and those that have passed `ps` behind it pass them
all. -/
theorem cons
    {p : ChNum × SubNum} {ps : List (ChNum × SubNum)} (h : Passed [p] s s')
    (h' : Passed ps s' s'') :
  Passed (p :: ps) s s'' where
  used := h'.used
  bsEvent := h'.bsEvent.trans h.bsEvent
  cleared d j := by
    obtain hnone | hsame := h'.cleared d j
    · apply Or.inl hnone
    · rw [hsame]
      apply h.cleared
  others d j hp hmain := by
    rw [List.mem_cons, not_or] at hp hmain
    rw [h'.others d j hp.2 hmain.2]
    apply h.others d j
    · rw [List.mem_singleton]
      apply hp.1
    · rw [List.mem_singleton]
      apply hmain.1
  kept d j hne hmain := by
    have hsame := h.kept d j hne hmain
    rw [h'.kept d j, hsame]
    · rw [hsame, h.bsEvent]
      apply hne
    · rw [h.bsEvent]
      apply hmain.imp_right
      intro hmain
      obtain hnone | hsame := h.cleared d mainBsNum
      · rw [hnone]
        simp
      · rw [hsame]
        apply hmain
  handled q hq hphase := by
    obtain hnone | hsame := h'.cleared q.1 q.2
    · rw [hnone] at hphase
      apply Or.inl hphase.symm
    · rw [hsame] at hphase
      obtain hnone | hsame' := h.cleared q.1 q.2
      · rw [hnone] at hphase
        apply Or.inl hphase.symm
      · obtain rfl | hq := List.mem_cons.mp hq
        · apply h.handled q List.mem_cons_self hphase
        · have hhandled := h'.handled q hq (by rw [hsame, hphase, h.bsEvent])
          rw [h.bsEvent, hsame'] at hhandled
          apply hhandled
  stopped hstop d hp hevent j := by
    by_cases hmain : (d, mainBsNum) = p
    · have hnone := h.stopped hstop d (by rw [hmain]; apply List.mem_cons_self) hevent j
      obtain hnone' | hsame := h'.cleared d j
      · apply hnone'
      · rw [hsame]
        apply hnone
    · have hsame : s'.bs d mainBsNum = s.bs d mainBsNum := by
        apply h.others
        · rw [List.mem_singleton]
          apply hmain
        · rw [List.mem_singleton]
          apply hmain
      apply h'.stopped (h.bsEvent.trans hstop) d ((List.mem_cons.mp hp).resolve_left hmain)
      rw [hsame]
      apply hevent

/-- Without outstanding frames, the turns of the streams in `ps` one behind the other have `Passed`
them. -/
theorem turns
    (o : ChNum → SubNum → SubNum → Calls) (ps : List (ChNum × SubNum)) (hused : UsedEmpty s) :
  Passed ps s (ps.foldl (fun s p => Rtspd.turn (o p.1 p.2) p.1 p.2 s) s)
  := by
  induction ps generalizing s with
  | nil => apply nil hused
  | cons p ps ih =>
      have hturn := turn (o p.1 p.2) p.1 p.2 hused
      apply hturn.cons (ih hturn.used)

end Passed

/-! ### Rounds -/

/-- A round is for every stream: each `p` is one of `streams`. -/
theorem mem_streams (p : ChNum × SubNum) : p ∈ streams := by
  rw [streams, List.mem_flatMap]
  use p.1, List.mem_finRange p.1
  rw [List.mem_map]
  use p.2, List.mem_finRange p.2

/-- `bs_check_event` finds an event when there is one, which is when `s` is not idle. -/
theorem bsCheckEvent_iff : bsCheckEvent s = true ↔ ¬ s.Idle := by
  simp [bsCheckEvent, Server.Idle, -Fin.exists_fin_two, -Fin.forall_fin_two]

/-- `bs_check_event_type` finds an event of the kind `e` exactly when there is one. -/
theorem bsCheckEventType_iff (e : BsEvent) :
  bsCheckEventType e s = true ↔ ∃ c i, (s.bs c i).event = e
  := by
  simp [bsCheckEventType]

/-- `advance`, the end of a round, leaves the streams alone. -/
theorem bs_advance (s : Server) : (advance s).bs = s.bs := by
  unfold advance
  split
  · rfl
  · rfl

variable {r : ChNum → SubNum → SubNum → Calls}

/-- A round of `bs_new_event` that finds no event rests, and leaves the streams alone. -/
theorem bsNewEvent_of_idle (h : s.Idle) : bsNewEvent r s = rest s := by
  rw [bsNewEvent, if_neg]
  rw [bsCheckEvent_iff]
  apply not_not_intro h

/-- A round that finds an event, without outstanding frames, is the turns of all `streams`, and the
end of the round. -/
theorem bsNewEvent_passed (hused : UsedEmpty s) (h : ¬ s.Idle) :
  ∃ t, Passed streams s t ∧ bsNewEvent r s = advance t
  := by
  use streams.foldl (fun s p => turn (r p.1 p.2) p.1 p.2 s) s
  constructor
  · apply Passed.turns r streams hused
  · rw [bsNewEvent, if_pos (bsCheckEvent_iff.mpr h)]

/-- After a round of `bs_new_event` the event of each stream is cleared, or the stream has been left
alone. -/
theorem bsNewEvent_cleared (hused : UsedEmpty s) (d : ChNum) (j : SubNum) :
  ((bsNewEvent r s).bs d j).event = .none ∨ (bsNewEvent r s).bs d j = s.bs d j
  := by
  by_cases hidle : s.Idle
  · rw [bsNewEvent_of_idle hidle]
    apply Or.inr rfl
  · obtain ⟨t, hpassed, hround⟩ := bsNewEvent_passed (r := r) hused hidle
    rw [hround, bs_advance]
    apply hpassed.cleared d j

/-- A round of `bs_new_event` takes no frame, if none was outstanding. -/
theorem bsNewEvent_used (hused : UsedEmpty s) : UsedEmpty (bsNewEvent r s) := by
  by_cases hidle : s.Idle
  · rw [bsNewEvent_of_idle hidle]
    apply hused
  · obtain ⟨t, hpassed, hround⟩ := bsNewEvent_passed (r := r) hused hidle
    rw [hround]
    unfold advance
    split
    · apply hpassed.used
    · apply hpassed.used

/-- A server `s` without events stays so in a round of `bs_new_event`. -/
theorem bsNewEvent_idle (h : s.Idle) : (bsNewEvent r s).Idle := by
  rw [bsNewEvent_of_idle h]
  apply h

/-- A server that is `Stuck` with an update stays so in a round. -/
theorem Server.Stuck.round (hused : UsedEmpty s) (h : s.Stuck) : (bsNewEvent r s).Stuck := by
  obtain ⟨c, i, hupdate, hqno, hphase⟩ := h
  have hidle : ¬ s.Idle := by
    intro hidle
    rw [hidle c i] at hupdate
    contradiction
  obtain ⟨t, hpassed, hround⟩ := bsNewEvent_passed (r := r) hused hidle
  have hsame : t.bs c i = s.bs c i := by
    apply hpassed.kept c i
    · by_cases hbsEvent : s.bsEvent = .update
      · apply Or.inr ⟨hbsEvent, hqno⟩
      · left
        rw [hupdate]
        apply Ne.symm hbsEvent
    · apply hphase.imp_left
      intro hbsEvent
      simp [hbsEvent]
  use c, i
  rw [hround, bs_advance, hsame]
  use hupdate, hqno
  by_cases hbsEvent : s.bsEvent = .update
  · left
    have hphase' : t.bsEvent = .update := hpassed.bsEvent.trans hbsEvent
    rw [advance, if_pos]
    · apply hphase'
    · rw [hphase', bsCheckEventType_iff]
      use c, i
      rw [hsame, hupdate]
  · right
    have hmain := hphase.resolve_left hbsEvent
    obtain hnone | hsame' := hpassed.cleared c mainBsNum
    · rw [hnone]
      simp
    · rw [hsame']
      apply hmain

/-- When no update is stuck, a round of `bs_new_event` clears the events of its phase, and comes to
the next. -/
theorem round_of_not_stuck
    (hused : UsedEmpty s) (hbsEvent : s.bsEvent ≠ .none) (hidle : ¬ s.Idle) (h : ¬ s.Stuck) :
  (bsNewEvent r s).bsEvent = s.bsEvent.next ∧
  (∀ d j, ((bsNewEvent r s).bs d j).event ≠ s.bsEvent) ∧
  ¬ (bsNewEvent r s).Stuck
  := by
  obtain ⟨t, hpassed, hround⟩ := bsNewEvent_passed (r := r) hused hidle
  have hcleared (d : ChNum) (j : SubNum) : (t.bs d j).event ≠ s.bsEvent := by
    intro hphase
    obtain hnone | ⟨hupdate, hqno⟩ := hpassed.handled (d, j) (mem_streams _) hphase
    · apply hbsEvent hnone
    · obtain hnone | hsame := hpassed.cleared d j
      · rw [hnone] at hphase
        apply hbsEvent hphase.symm
      · rw [hsame, hupdate] at hphase
        apply h ⟨d, j, hphase, hqno, Or.inl hupdate⟩
  have hnext : (bsNewEvent r s).bsEvent = s.bsEvent.next := by
    rw [hround, advance, if_neg, hpassed.bsEvent]
    rw [bsCheckEventType_iff, hpassed.bsEvent]
    rintro ⟨d, j, hphase⟩
    apply hcleared d j hphase
  constructor
  · apply hnext
  · rw [hround, bs_advance]
    constructor
    · apply hcleared
    · rintro ⟨c, i, hupdate, hqno, hphase⟩
      rw [bs_advance] at hupdate hqno hphase
      rw [← hround, hnext] at hphase
      have hsame : t.bs c i = s.bs c i := by
        obtain hnone | hsame := hpassed.cleared c i
        · rw [hnone] at hupdate
          contradiction
        · apply hsame
      have hmain : s.bsEvent = .stop → (s.bs c mainBsNum).event ≠ .stop := by
        intro hstop hmain
        rw [hpassed.stopped hstop c (mem_streams _) hmain i] at hupdate
        contradiction
      rw [hsame] at hupdate hqno
      apply h
      use c, i, hupdate, hqno
      right
      by_cases hstop : s.bsEvent = .stop
      · apply hmain hstop
      · obtain hnext | hmain' := hphase
        · cases hbsEvent : s.bsEvent with
          | none => simp [hbsEvent, BsEvent.next] at hnext
          | start => simp [hbsEvent, BsEvent.next] at hnext
          | update => simp [hbsEvent, BsEvent.next] at hnext
          | stop => exact absurd hbsEvent hstop
        · intro hmain
          apply hmain'
          rw [hpassed.kept c mainBsNum, hmain]
          · left
            rw [hmain]
            apply Ne.symm hstop
          · apply Or.inl hstop

/-- The phases follow each other in a ring of three: `v` is `e` or one of the two behind it. -/
theorem BsEvent.phases {e v : BsEvent} (he : e ≠ .none) (hv : v ≠ .none) :
  v = e ∨ v = e.next ∨ v = e.next.next
  := by
  cases e
  · contradiction
  all_goals
    cases v
    · contradiction
    all_goals simp [next]

/-- The phase behind a phase `e` is one, and not `NONE_BS_EVENT`. -/
theorem BsEvent.next_ne {e : BsEvent} (he : e ≠ .none) : e.next ≠ .none := by
  cases e
  · contradiction
  all_goals simp [next]

/-- When no update is stuck and no frame is outstanding, three `rounds` clear all events. -/
theorem idle_of_three_rounds
    (o : Nat → ChNum → SubNum → SubNum → Calls) (hused : UsedEmpty s) (hbsEvent : s.bsEvent ≠ .none)
    (hstuck : ¬ s.Stuck) :
  (rounds o 3 s).Idle
  := by
  by_cases hidle : s.Idle
  · apply bsNewEvent_idle (bsNewEvent_idle (bsNewEvent_idle hidle))
  · obtain ⟨hnext, hfirst, hstuck₁⟩ := round_of_not_stuck (r := o 0) hused hbsEvent hidle hstuck
    have hused₁ := bsNewEvent_used (r := o 0) hused
    have hcleared₁ := bsNewEvent_cleared (r := o 0) hused
    change (bsNewEvent (o 2) (bsNewEvent (o 1) (bsNewEvent (o 0) s))).Idle
    generalize bsNewEvent (o 0) s = s₁ at *
    by_cases hidle₁ : s₁.Idle
    · apply bsNewEvent_idle (bsNewEvent_idle hidle₁)
    · have hbsEvent₁ : s₁.bsEvent ≠ .none := by
        rw [hnext]
        apply BsEvent.next_ne hbsEvent
      obtain ⟨hnext₁, hsecond, hstuck₂⟩ :=
        round_of_not_stuck (r := o 1) hused₁ hbsEvent₁ hidle₁ hstuck₁
      have hused₂ := bsNewEvent_used (r := o 1) hused₁
      have hcleared₂ := bsNewEvent_cleared (r := o 1) hused₁
      generalize bsNewEvent (o 1) s₁ = s₂ at *
      by_cases hidle₂ : s₂.Idle
      · apply bsNewEvent_idle hidle₂
      · have hbsEvent₂ : s₂.bsEvent ≠ .none := by
          rw [hnext₁]
          apply BsEvent.next_ne hbsEvent₁
        obtain ⟨-, hthird, -⟩ := round_of_not_stuck (r := o 2) hused₂ hbsEvent₂ hidle₂ hstuck₂
        intro c i
        by_contra hevent
        -- an event that is left is as it was from the beginning, and of none of the three phases
        have hsame₂ := (bsNewEvent_cleared (r := o 2) hused₂ c i).resolve_left hevent
        have hphase₃ := hthird c i
        rw [hsame₂] at hevent hphase₃
        have hsame₁ := (hcleared₂ c i).resolve_left hevent
        have hphase₂ := hsecond c i
        rw [hsame₁] at hevent hphase₂ hphase₃
        have hphase₁ := hfirst c i
        obtain h | h | h := BsEvent.phases hbsEvent hevent
        · apply hphase₁ h
        · apply hphase₂ (h.trans hnext.symm)
        · rw [hnext₁, hnext] at hphase₃
          apply hphase₃ h

/-- When an update is stuck and no frame is outstanding, no number `n` of rounds clears all
events. -/
theorem not_idle_of_stuck
    (o : Nat → ChNum → SubNum → SubNum → Calls) (hused : UsedEmpty s) (hstuck : s.Stuck) (n : Nat) :
  ¬ (rounds o n s).Idle
  := by
  have hrounds : UsedEmpty (rounds o n s) ∧ (rounds o n s).Stuck := by
    induction n with
    | zero => exact ⟨hused, hstuck⟩
    | succ n ih => exact ⟨bsNewEvent_used ih.1, ih.2.round ih.1⟩
  obtain ⟨c, i, hupdate, -⟩ := hrounds.2
  intro hidle
  rw [hidle c i] at hupdate
  contradiction

/-! ### Runs -/

/-- Every step of the server leaves the rounds in one of the three phases. -/
theorem serverStep_bsEvent
    {input : ServerInput} (hbsEvent : s.bsEvent ≠ .none) (h : serverStep s input = some s') :
  s'.bsEvent ≠ .none
  := by
  obtain rfl | ⟨c, i, e, -, rfl⟩ | ⟨c, i, o, -, rfl⟩ | ⟨e, b, hphase, rfl⟩ | ⟨c, rfl⟩ |
    ⟨c, i, vf, htake⟩ | ⟨qno, key, hput⟩ := serverStep_cases h
  · apply hbsEvent
  · apply hbsEvent
  · rw [(turn_phase o c i s).1]
    apply hbsEvent
  · obtain rfl | rfl := hphase
    · apply BsEvent.next_ne hbsEvent
    · exact nofun
  · apply hbsEvent
  · obtain ⟨qno, fi, rfl⟩ := takeFrame_frameInfo htake
    apply hbsEvent
  · obtain ⟨qno, fi, rfl⟩ := putFrame_frameInfo hput
    apply hbsEvent

/-- Setting the `events` leaves the phase of the rounds and the frames alone. -/
theorem posted_keeps (events : List (Int × Int × BsEvent)) (s : Server) :
  (posted events s).bsEvent = s.bsEvent ∧ (posted events s).frameInfo = s.frameInfo
  := by
  induction events generalizing s with
  | nil => exact ⟨rfl, rfl⟩
  | cons e events ih =>
      have hone : (envSetBsNewEvent e.1 e.2.1 e.2.2 s).2.bsEvent = s.bsEvent ∧
          (envSetBsNewEvent e.1 e.2.1 e.2.2 s).2.frameInfo = s.frameInfo := by
        obtain hsame | ⟨c, i, -, hpost⟩ := envSetBsNewEvent_cases e.1 e.2.1 e.2.2 s
        · rw [hsame]
          exact ⟨rfl, rfl⟩
        · rw [hpost]
          exact ⟨rfl, rfl⟩
      obtain ⟨hbsEvent, hframeInfo⟩ := ih (envSetBsNewEvent e.1 e.2.1 e.2.2 s).2
      exact ⟨hbsEvent.trans hone.1, hframeInfo.trans hone.2⟩

/-- In every state that a server reaches with no frame outstanding, whatever `events` are set then,
at most four rounds clear them all, exactly when no update is stuck. -/
theorem events_handled_iff
    {s₀ : Server} {inputs : List ServerInput} (hstart : s₀.Started)
    (hrun : Run serverStep (fun _ _ => True) s₀ inputs s) (hused : UsedEmpty s)
    (events : List (Int × Int × BsEvent)) (o : Nat → ChNum → SubNum → SubNum → Calls) :
  (∃ n ≤ 4, (rounds o n (posted events s)).Idle) ↔ ¬ (posted events s).Stuck
  := by
  have hbsEvent : s.bsEvent ≠ .none := by
    apply hrun.invariant (I := fun s => s.bsEvent ≠ .none)
    · exact fun _ _ _ hbsEvent _ hstep => serverStep_bsEvent hbsEvent hstep
    · simp [hstart.bsEvent]
  obtain ⟨hphase, hframeInfo⟩ := posted_keeps events s
  have hused' : UsedEmpty (posted events s) := by
    intro qno
    rw [hframeInfo]
    apply hused
  rw [← hphase] at hbsEvent
  constructor
  · rintro ⟨n, -, hidle⟩ hstuck
    apply not_idle_of_stuck o hused' hstuck n hidle
  · intro hstuck
    use 3
    exact ⟨by decide, idle_of_three_rounds o hused' hbsEvent hstuck⟩

/-- The general `events_handled_iff` at the first server: a main stream is started, and another
stream is updated and then started instead. -/
theorem events_handled_newServer :
  ∃ n ≤ 4, (rounds (fun _ _ _ _ => workingCalls) n
    (posted [(0, 0, .start), (1, 3, .update), (1, 3, .start)] (newServer rtspLiveStreaming))).Idle
  :=
  (events_handled_iff (newServer_started _) (Run.nil _) (fun _ => rfl) _ _).mpr (by decide)

/-- An update is accepted by `env_set_bs_new_event` for a stream that has never been started: no
round clears it. -/
theorem events_not_handled :
  let s := newServer rtspLiveStreaming
  (newServer rtspLiveStreaming).Started ∧ UsedEmpty s ∧
  (envSetBsNewEvent 0 0 .update s).1 = 0 ∧
  ¬ ∃ n ≤ 4, (rounds (fun _ _ _ _ => workingCalls) n (posted [(0, 0, .update)] s)).Idle
  := by
  intro s
  have hstuck : (posted [(0, 0, .update)] s).Stuck := by decide
  use newServer_started _, fun _ => rfl, by decide
  rintro ⟨n, -, hidle⟩
  apply not_idle_of_stuck _ (fun _ => rfl) hstuck n hidle

end Rtspd
