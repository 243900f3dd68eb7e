import Avserver.Rtspd.PlayAccount

/-!
# Runs with streams that are played

In every run in which the calls of the library keep what it promises (`Promised`), the monitor accepts
all messages, and a stream is marked exactly if it is played (`messages_accepted`).  A main stream that
is stopped while it is played stays marked: no command reaches it, and audio is put on its queue
although that has been released (`audio_of_stopped`).
-/

namespace Rtspd.Play

open Library

variable {c : ChNum} {i : SubNum} {q q' : State} {s : Server}

/-! ### Runs -/

variable {input : Input} {inputs : List Input} {t : State}

/-- What is promised for a step: a stream that is opened is registered with a queue, under a number
that is not in use, `stream_dereg` succeeds, and the commands are for numbers `sno` that a
registration can have. -/
def Promised (q : State) : Input → Prop
  | .server (.turn c i o) =>
      (∀ j, 0 ≤ (o j).streamDereg) ∧
        (OpensLive (o i) c i q.server → (o i).Registers c i q.server)
  | .command _ sno _ => 0 ≤ sno
  | _ => True

/-- What holds in every state `q` of a run: the streams agree with their handlers and numbers, and
the account with the messages. -/
structure Good (q : State) : Prop where
  agrees : Agrees q.server
  coherent : Coherent q.server
  connected : Connected q.server
  accounted : Accounted none q

/-- A step of the server that is not a turn leaves the streams alone, but for their events, and so
the state stays `Good`. -/
theorem Good.server
    {input : ServerInput} (h : Good q) (hturn : ∀ c i o, input ≠ .turn c i o)
    (hstep : serverStep q.server input = some s) :
  Good { q with server := s }
  := by
  have hreleases : Releases input := by
    cases input with
    | turn c i o => exact absurd rfl (hturn c i o)
    | _ => trivial
  refine ⟨h.agrees.step hstep, h.coherent.step h.agrees hreleases hstep, ?_, ?_⟩
  all_goals
    obtain rfl | ⟨c, i, e, -, rfl⟩ | ⟨c, i, o, heq, -⟩ | ⟨e, b, -, rfl⟩ | ⟨c, rfl⟩ |
      ⟨c, i, vf, htake⟩ | ⟨qno, key, hput⟩ := serverStep_cases hstep
  · apply h.connected
  · apply h.connected.post
  · exact absurd heq (hturn c i o)
  · apply h.connected
  · apply h.connected
  · obtain ⟨qno, fi, rfl⟩ := takeFrame_frameInfo htake
    apply h.connected
  · obtain ⟨qno, fi, rfl⟩ := putFrame_frameInfo hput
    apply h.connected
  · apply h.accounted
  · have hset := h.accounted.setBs (c := c) (i := i) (f := fun b => { b with event := e })
      fun _ => ⟨rfl, rfl, rfl⟩
    apply hset.of_numbers
    apply SameNumbers.of_bs
    exact fun _ _ => rfl
  · exact absurd heq (hturn c i o)
  · apply h.accounted.of_numbers
    apply SameNumbers.of_bs
    exact fun _ _ => rfl
  · apply h.accounted.of_numbers
    apply SameNumbers.of_bs
    exact fun _ _ => rfl
  · obtain ⟨qno, fi, rfl⟩ := takeFrame_frameInfo htake
    apply h.accounted.of_numbers
    apply SameNumbers.of_bs
    exact fun _ _ => rfl
  · obtain ⟨qno, fi, rfl⟩ := putFrame_frameInfo hput
    apply h.accounted.of_numbers
    apply SameNumbers.of_bs
    exact fun _ _ => rfl

/-- A step that changes nothing of the server but the lists `fi` of the pools keeps the state
`Good`. -/
theorem Good.of_frames
    (h : Good q) (fi : Int → FrameInfo) (hserver : q'.server = { q.server with frameInfo := fi })
    (haccounted : Accounted none q') :
  Good q'
  := by
  refine ⟨?_, ?_, ?_, haccounted⟩
  · rw [hserver]
    exact ⟨h.agrees.flags, h.agrees.closed⟩
  · rw [hserver]
    apply h.coherent
  · rw [hserver]
    apply h.connected

theorem writeRtpFrame_server
    {data : QueueGet} {key rateCtlType enqueue : Int}
    (h : writeRtpFrame c i data key rateCtlType enqueue q = some q') :
  ∃ fi, q'.server = { q.server with frameInfo := fi }
  := by
  obtain ⟨-, rfl⟩ | ⟨-, rfl | ⟨-, fi, hput⟩⟩ := writeRtpFrame_cases h
  · use q.server.frameInfo
    rfl
  · use q.server.frameInfo
    rw [State.server_send, serveNvr_server, serveIntra_server]
  · use Function.update q.server.frameInfo (q.server.bs c i).qno fi
    have hserver : (mediaEnqueue (c, i) (q.server.bs c i).qno enqueue fi
        (serveNvr (c, i) data.length rateCtlType (serveIntra (c, i) q))).server =
        { q.server with
          frameInfo := Function.update q.server.frameInfo (q.server.bs c i).qno fi } := by
      rw [mediaEnqueue, serveNvr_server, serveIntra_server]
    rw [hput]
    split
    · apply hserver
    · apply hserver

theorem cmdCb_server (name : List Char) (sno : Int) (cmd : StreamCmd) (q : State) :
  (cmdCb name sno cmd q).2.server = q.server
  := by
  unfold cmdCb findFileSr
  cases cmd with
  | openSr | pause | other => rfl
  | play | teardown =>
      dsimp only
      cases streams.find? fun p => (q.bs p).sr = sno ∧ (q.priv p).name = name with
      | none => rfl
      | some p =>
          dsimp only
          try split
          all_goals rfl

theorem setNvrSendStatus_server (ch : Fin 3) (i : SubNum) (opt : Int) (q : State) :
  (setNvrSendStatus ch i opt q).server = q.server
  := by
  unfold setNvrSendStatus
  dsimp only
  split
  · rfl
  · rfl

theorem doAudioProc_server (g711 : ChNum → Bool) (q : State) :
  (doAudioProc g711 q).server = q.server
  := by
  have haudio (q : State) : (audioStreams g711 q).server = q.server := by
    unfold audioStreams
    generalize List.finRange 2 = cs
    induction cs generalizing q with
    | nil => rfl
    | cons c cs ih =>
        rw [List.foldl_cons, ih]
        dsimp only
        split
        · rfl
        · rfl
  rw [doAudioProc, haudio]
  split
  · rfl
  · rfl

/-- A step for which the library keeps its promises keeps the state `Good`. -/
theorem Good.step (h : Good q) (hpromised : Promised q input) (hstep : step q input = some q') :
  Good q'
  := by
  cases input with
  | server input =>
      cases input with
      | turn c i o =>
          obtain rfl := Option.some.inj hstep
          obtain ⟨hdereg, hregisters⟩ := hpromised
          refine ⟨?_, ?_, ?_, h.accounted.turn h.coherent hdereg hregisters⟩
          · rw [Extended.turn_server]
            apply h.agrees.turn
          · rw [Extended.turn_server]
            apply h.coherent.turn h.agrees hdereg
          · rw [Extended.turn_server]
            apply h.connected.turn h.coherent hdereg hregisters
      | takeFrame => contradiction
      | event | advance | rest | updateParm | putFrame =>
          rw [step_server (by simp), Extended.step_of_not_turn (by simp)] at hstep
          obtain ⟨s, hs, rfl⟩ := Option.map_eq_some_iff.mp hstep
          apply h.server (by simp) hs
  | command name sno cmd =>
      obtain rfl := Option.some.inj hstep
      apply h.of_frames
      · apply cmdCb_server name sno cmd q
      · apply h.accounted.command h.connected hpromised
  | setIdrBr c i =>
      obtain rfl := Option.some.inj hstep
      apply h.of_frames q.server.frameInfo
      · rfl
      · apply h.accounted.setIdrBr
  | setNvrSendStatus ch i opt =>
      obtain rfl := Option.some.inj hstep
      apply h.of_frames q.server.frameInfo
      · apply setNvrSendStatus_server
      · apply h.accounted.setNvrSendStatus
  | setIFrame c =>
      obtain rfl := Option.some.inj hstep
      apply h.of_frames q.server.frameInfo
      · rfl
      · apply h.accounted.send_same
        · rfl
        · rfl
  | frame c i data key rateCtlType enqueue =>
      rw [Play.step] at hstep
      split at hstep
      · next hwrite =>
          obtain ⟨fi, hserver⟩ := writeRtpFrame_server hstep
          apply h.of_frames fi hserver
          apply (h.accounted.getBsData _ _ _).writeRtpFrame h.connected hwrite hstep
      · contradiction
  | audio g711 =>
      obtain rfl := Option.some.inj hstep
      apply h.of_frames q.server.frameInfo
      · apply doAudioProc_server
      · apply h.accounted.doAudioProc

theorem Good.start (h : s.Started) : Good (.start s) where
  agrees := .of_started h
  coherent := .of_started h
  connected := .of_started h
  accounted := .start h

theorem Good.run (h : Good q) (hrun : Run Play.step Promised q inputs t) : Good t := by
  apply hrun.invariant (I := Good) _ h
  intro q input q' hq hpromised hstep
  apply hq.step hpromised hstep

/-- Behind a frame that is written while no event is pending for the stream `i` of `c`, no intra
frame is wished for it. -/
theorem writeRtpFrame_resetIntraFrame
    {data : QueueGet} {key rateCtlType enqueue : Int}
    (h : writeRtpFrame c i data key rateCtlType enqueue q = some q')
    (hevent : (q.server.bs c i).event = .none) :
  (q'.priv (c, i)).resetIntraFrame = false
  := by
  have hserved : ((serveNvr (c, i) data.length rateCtlType (serveIntra (c, i) q)).priv
      (c, i)).resetIntraFrame = false := by
    rw [serveNvr_priv, serveIntra_resetIntraFrame]
  obtain ⟨hpending, -⟩ | ⟨-, rfl | ⟨-, fi, hput⟩⟩ := writeRtpFrame_cases h
  · exact absurd hevent hpending
  · apply hserved
  · rw [hput]
    split
    · apply hserved
    · apply hserved

instance decidableOpensLive (o : Calls) (c : ChNum) (i : SubNum) (s : Server) :
    Decidable (OpensLive o c i s) :=
  inferInstanceAs (Decidable (_ ∧ _))

instance decidablePromised (q : State) : (input : Input) → Decidable (Promised q input)
  | .server (.turn _ _ _) => inferInstanceAs (Decidable (_ ∧ _))
  | .server (.event _ _ _) | .server .advance | .server .rest | .server (.updateParm _ _)
  | .server (.takeFrame _ _ _) | .server (.putFrame _ _) => inferInstanceAs (Decidable True)
  | .command _ sno _ => inferInstanceAs (Decidable (0 ≤ sno))
  | .setIdrBr _ _ | .setNvrSendStatus _ _ _ | .setIFrame _ | .frame _ _ _ _ _ _ | .audio _ =>
      inferInstanceAs (Decidable True)

/-- The main stream of the first channel is started and played, and the network recorder wants it; a
frame that is too long for the recorder is refused by the queue of the stream, and it is stopped by
`STOP_BS_EVENT`.  A client ends the session, and a block of audio comes. -/
def stoppedInputs : List Input :=
  [.server (.event 0 0 .start), .server (.turn 0 0 fun _ => openingCalls 3 7), .server .advance,
    .command ['0'] 7 .play, .setNvrSendStatus 0 0 1, .frame 0 0 ⟨0, 600 * 1024, 0, 0⟩ 0 0 (-10),
    .server (.event 0 0 .stop), .server (.turn 0 0 fun _ => openingCalls 3 7),
    .command ['0'] 7 .teardown, .audio fun _ => true]

/-- What passes in the steps `stoppedInputs`, with an intra frame asked for by a wish and one in
place of the frame. -/
def stoppedMessages : List Message :=
  [.reg ⟨(0, 0), ['0'], 3, 1⟩ 7, .command ['0'] 7 .play 0, .setNvrSendStatus (0, 0) 1,
    .setIdrBr (0, 0), .getBsData (0, 0) (600 * 1024) 0, .setBsIntraFrame (0, 0) .wish,
    .setBsIntraFrame (0, 0) .oversized, .video (0, 0) 3 (-10), .freeBsData (0, 0), .dereg 7,
    .command ['0'] 7 .teardown (-1), .audio (0, 0) 1]

/-- The stream `p` is not registered under any number, as far as the account says. -/
def Account.Free (v : Account) (p : ChNum × SubNum) : Prop :=
  ∀ sr r, v.registrations sr = some r → r.stream ≠ p

/-- A message `e` that does not register the stream `p` leaves its marks alone when it is not
registered. -/
theorem Account.Free.next
    {v : Account} {p : ChNum × SubNum} {e : Message} (h : v.Free p)
    (hnot : ∀ r sr, e = .reg r sr → r.stream ≠ p) :
  (v.next e).Free p ∧ (v.next e).played p = v.played p ∧ (v.next e).audio p = v.audio p
  := by
  have hlookup {name : List Char} {sno : Int} {p' : ChNum × SubNum}
      (hsome : v.lookup name sno = some p') : p ≠ p' := by
    obtain ⟨r, hr, hsome⟩ := Option.bind_eq_some_iff.mp hsome
    split at hsome
    · obtain rfl := Option.some.inj hsome
      apply (h _ _ hr).symm
    · contradiction
  cases e with
  | reg r sr =>
      have hne := hnot r sr rfl
      refine ⟨?_, rfl, Function.update_of_ne hne.symm _ _⟩
      intro sr' r' hr'
      by_cases hsr : sr' = sr
      · subst hsr
        change Function.update v.registrations sr' (some r) sr' = some r' at hr'
        rw [Function.update_self] at hr'
        obtain rfl := Option.some.inj hr'
        apply hne
      · change Function.update v.registrations sr (some r) sr' = some r' at hr'
        rw [Function.update_of_ne hsr] at hr'
        apply h _ _ hr'
  | dereg sr =>
      refine ⟨?_, rfl, rfl⟩
      intro sr' r' hr'
      by_cases hsr : sr' = sr
      · subst hsr
        change Function.update v.registrations sr' none sr' = some r' at hr'
        rw [Function.update_self] at hr'
        contradiction
      · change Function.update v.registrations sr none sr' = some r' at hr'
        rw [Function.update_of_ne hsr] at hr'
        apply h _ _ hr'
  | command name sno cmd ret =>
      change (v.command name sno cmd).Free p ∧ (v.command name sno cmd).played p = _
        ∧ (v.command name sno cmd).audio p = _
      unfold Account.command
      split
      · next hsome => exact ⟨h, Function.update_of_ne (hlookup hsome) _ _, rfl⟩
      · next hsome => exact ⟨h, Function.update_of_ne (hlookup hsome) _ _, rfl⟩
      · exact ⟨h, rfl, rfl⟩
  | setBsIntraFrame p' cause =>
      cases cause with
      | wish | oversized | setIFrame => exact ⟨h, rfl, rfl⟩
  | video p' qno ret =>
      rw [Account.next]
      split
      · exact ⟨h, rfl, rfl⟩
      · exact ⟨h, rfl, rfl⟩
  | setIdrBr | setNvrSendStatus | getBsData | freeBsData | sendVideoFrame | sendAudio | audio =>
      exact ⟨h, rfl, rfl⟩

/-- Messages `es` that do not register the stream `p` leave its marks alone when it is not
registered. -/
theorem Account.Free.after
    {v : Account} {p : ChNum × SubNum} {es : List Message} (h : v.Free p)
    (hnot : ∀ r sr, .reg r sr ∈ es → r.stream ≠ p) :
  (monitor.after v es).Free p ∧ (monitor.after v es).played p = v.played p
    ∧ (monitor.after v es).audio p = v.audio p
  := by
  induction es generalizing v with
  | nil => exact ⟨h, rfl, rfl⟩
  | cons e es ih =>
      obtain ⟨hfree, hplayed, haudio⟩ := h.next (e := e) fun r sr heq =>
        hnot r sr (heq ▸ List.mem_cons_self)
      obtain ⟨hfree', hplayed', haudio'⟩ := ih hfree fun r sr hmem =>
        hnot r sr (List.mem_cons_of_mem _ hmem)
      exact ⟨hfree', hplayed'.trans hplayed, haudio'.trans haudio⟩

/-- A block of audio is put on the queues of the main streams in `q` that are marked, and for which
no event is pending. -/
theorem audioStreams_messages (g711 : ChNum → Bool) (q : State) :
  (audioStreams g711 q).messages = q.messages ++ (List.finRange 2).flatMap fun c =>
    if (q.priv (c, mainBsNum)).play = true ∧ (q.server.bs c mainBsNum).event = .none
        ∧ g711 c = true then
      [.audio (c, mainBsNum) (q.server.bs c mainBsNum).audioQno]
    else []
  := by
  unfold audioStreams
  generalize List.finRange 2 = cs
  induction cs generalizing q with
  | nil => rw [List.foldl_nil, List.flatMap_nil, List.append_nil]
  | cons c cs ih =>
      rw [List.foldl_cons, ih, List.flatMap_cons]
      dsimp only
      by_cases hplay : (q.priv (c, mainBsNum)).play = true
          ∧ (q.server.bs c mainBsNum).event = .none ∧ g711 c = true
      · simp only [if_pos hplay]
        apply List.append_assoc
      · simp only [if_neg hplay]
        rfl

/-- The main stream `c` gets a block of audio if it is marked, whether the network recorder gets it or
not. -/
theorem doAudioProc_messages
    {g711 : ChNum → Bool} (hplay : (q.priv (c, mainBsNum)).play = true)
    (hevent : (q.bs (c, mainBsNum)).event = .none) (hg711 : g711 c = true) :
  ∃ sent, (doAudioProc g711 q).messages = q.messages ++ sent
    ∧ .audio (c, mainBsNum) (q.bs (c, mainBsNum)).audioQno ∈ sent
  := by
  have hmem (q' : State) (hpriv : q'.priv = q.priv) (hserver : q'.server = q.server) :
      .audio (c, mainBsNum) (q.bs (c, mainBsNum)).audioQno ∈ (List.finRange 2).flatMap fun c =>
        if (q'.priv (c, mainBsNum)).play = true ∧ (q'.server.bs c mainBsNum).event = .none
            ∧ g711 c = true then
          [Message.audio (c, mainBsNum) (q'.server.bs c mainBsNum).audioQno]
        else [] := by
    apply List.mem_flatMap.mpr
    use c, List.mem_finRange c
    rw [hpriv, hserver, if_pos ⟨hplay, hevent, hg711⟩, List.mem_singleton]
    rfl
  unfold doAudioProc
  split
  · refine ⟨_, (audioStreams_messages g711 _).trans (List.append_assoc ..), ?_⟩
    apply List.mem_append_right
    apply hmem _ rfl rfl
  · exact ⟨_, audioStreams_messages g711 q, hmem q rfl rfl⟩

/-- A main stream that is stopped while it is played stays marked until it is registered again,
whatever the commands are; and every block of audio that it could be given in the meantime is put on
the audio queue that was released with its registration. -/
theorem audio_of_stopped
    (hstart : s.Started) (hrun : Run step Promised (.start s) inputs t)
    {inputs' : List Input} {t' : State} (hrun' : Run step Promised t inputs' t')
    (hstopped : (t.bs (c, mainBsNum)).sr < 0) (hplay : (t.priv (c, mainBsNum)).play = true)
    {es : List Message} (hes : t'.messages = t.messages ++ es)
    (hnot : ∀ r sr, .reg r sr ∈ es → r.stream ≠ (c, mainBsNum)) :
  (t'.bs (c, mainBsNum)).sr < 0
  ∧ (t'.priv (c, mainBsNum)).play = true
  ∧ ∀ g711 : ChNum → Bool, g711 c = true → (t'.bs (c, mainBsNum)).event = .none →
      ∃ sent, (doAudioProc g711 t').messages = t'.messages ++ sent
        ∧ .audio (c, mainBsNum) (t.bs (c, mainBsNum)).audioQno ∈ sent
  := by
  have hgood := (Good.start hstart).run hrun
  have hgood' := hgood.run hrun'
  have hfree : t.account.Free (c, mainBsNum) := by
    intro sr r hr hp
    obtain ⟨hle, hsr, -⟩ := (hgood.accounted.registrations sr r).mp hr
    rw [hp] at hsr
    omega
  obtain ⟨hfree', hplayed, haudio⟩ := hfree.after hnot
  have haccount : monitor.after t.account es = t'.account := by
    rw [State.account, State.account, hes, Monitor.after_append]
  rw [haccount] at hfree' hplayed haudio
  have hplay' : (t'.priv (c, mainBsNum)).play = true := by
    rw [← hgood'.accounted.played, hplayed, hgood.accounted.played, hplay]
  refine ⟨?_, hplay', ?_⟩
  · apply Int.not_le.mp
    intro hle
    have hregistered := (hgood'.accounted.registrations _ (t'.registration (c, mainBsNum))).mpr
      ⟨hle, rfl, rfl⟩
    apply hfree' _ _ hregistered
    rfl
  · intro g711 hg711 hevent
    rw [← hgood.accounted.audio, ← haudio, hgood'.accounted.audio]
    apply doAudioProc_messages hplay' hevent hg711

/-- The general `audio_of_stopped` at a stream that is played and stopped, and keeps its audio when
a client ends the session by `GM_STREAM_CMD_TEARDOWN`. -/
theorem audio_of_stopped_teardown :
  ∃ t t' : State, Run step Promised (.start (newServer rtspLiveStreaming)) (stoppedInputs.take 8) t
    ∧ Run step Promised t [.command ['0'] 7 .teardown] t'
    ∧ ∃ sent, (doAudioProc (fun _ => true) t').messages = t'.messages ++ sent
      ∧ .audio (0, mainBsNum) 1 ∈ sent
  := by
  have hrun : ((exec step Promised (.start (newServer rtspLiveStreaming))
      (stoppedInputs.take 8)).bind fun t =>
      (exec step Promised t [.command ['0'] 7 .teardown]).map fun t' => (t, t')).any
      (fun p => (p.1.bs (0, mainBsNum)).sr < 0 ∧ (p.1.priv (0, mainBsNum)).play = true
        ∧ (p.1.bs (0, mainBsNum)).audioQno = 1 ∧ (p.2.bs (0, mainBsNum)).event = .none
        ∧ p.2.messages = p.1.messages ++ [.command ['0'] 7 .teardown (-1)]) = true := by
    decide +kernel
  obtain ⟨p, hboth, hp⟩ := (Option.any_eq_true _ _).mp hrun
  obtain ⟨t₁, hfirst, hmap⟩ := Option.bind_eq_some_iff.mp hboth
  obtain ⟨t₂, hsecond, rfl⟩ := Option.map_eq_some_iff.mp hmap
  obtain ⟨hsr, hplay, haudio, hevent, hmessages⟩ := of_decide_eq_true hp
  have hrun := Run.of_exec hfirst
  have hrun' := Run.of_exec hsecond
  obtain ⟨-, -, hsent⟩ := audio_of_stopped (newServer_started _) hrun hrun' hsr hplay hmessages
    (by simp)
  have hlast := hsent (fun _ => true) rfl hevent
  rw [haudio] at hlast
  exact ⟨t₁, t₂, hrun, hrun', hlast⟩

end Rtspd.Play
