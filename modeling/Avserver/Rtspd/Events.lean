import Avserver.Rtspd.Streams
import Avserver.Library.Run

/-!
# The events of the streams

A stream is started, updated and stopped by an event that is stored with it
(`envSetBsNewEvent`) and that the encoder thread finds on its next round (`bsNewEvent`).  A
round handles the events of one kind, those of the phase that it is in, stream by stream
(`turn`), and moves on to the next phase when none of that kind is left.

The events, the turns of a round and the ends of rounds are the steps of the server
(`serverStep`), together with the parameters that are changed on the run and the frames that
are served; a round is a run of these steps (`Run.round`).
-/

namespace Rtspd

open Library

/-! ### A turn of a round -/

/-- The handler of a stream `i` of `c` that is started or updated opens it with the streaming
library, if it has one. -/
def reopen (o : Calls) (c : ChNum) (i : SubNum) (s : Server) : Server :=
  if (s.bs c i).openFn then (openLiveStreaming o c i s).2 else s

/-- The handler of the stream `i` of `c` closes it with the streaming library, if it has one. -/
def shut (o : Calls) (c : ChNum) (i : SubNum) (s : Server) : Server :=
  if (s.bs c i).closeFn then (closeLiveStreaming o c i s).2 else s

/-- The event of the stream `i` of `c` has been handled, and is cleared. -/
def settle (c : ChNum) (i : SubNum) (s : Server) : Server :=
  s.setBs c i fun b => { b with event := .none }

/-- `START_BS_EVENT` -/
def startTurn (o : Calls) (c : ChNum) (i : SubNum) (s : Server) : Server :=
  settle c i (reopen o c i (openBs o c i s).2)

/-- `UPDATE_BS_EVENT` -/
def updateTurn (o : Calls) (c : ChNum) (i : SubNum) (s : Server) : Server :=
  if (s.bs c i).qno ≥ 0 then
    let (n, s) := getNumOfUsedVideoFrame (s.bs c i).qno s
    if n = some 0 then settle c i (reopen o c i (shut o c i s)) else s
  else s

/-- The handlers with which the stream `i` of `c` is served are taken away, all but the one that
closes it. -/
def unhandle (c : ChNum) (i : SubNum) (s : Server) : Server :=
  s.setBs c i fun b => { b with openFn := false, readFn := false, freeFn := false, writeFn := false }

/-- The stream `i` of `c` is closed with the streaming library, and stopped with the driver by
`close_bs`. -/
def finishStop (o : Calls) (c : ChNum) (i : SubNum) (s : Server) : Server :=
  let s := (shut o c i s).setBs c i fun b => { b with closeFn := false }
  settle c i (closeBs o c i s).2

/-- The stream `i` of those of `c` that `STOP_BS_EVENT` stops, with whether the next one is to be
stopped. -/
def stopStream (o : Calls) (c : ChNum) (i : SubNum) (s : Server) : Bool × Server :=
  let s := unhandle c i s
  if (s.bs c i).qno ≥ 0 then
    let (n, s) := getNumOfUsedVideoFrame (s.bs c i).qno s
    if n = some 0 then (true, finishStop o c i s) else (false, s)
  else if (s.bs c i).closeFn then (true, finishStop o c i s)
  else (true, settle c i s)

/-- The loop over the streams of `c` that are stopped, up to the first one with frames in use. -/
def stopStreams (o : SubNum → Calls) (c : ChNum) : List SubNum → Server → Server
  | [], s => s
  | i :: is, s =>
      let (next, s) := stopStream (o i) c i s
      if next then stopStreams o c is s else s

/-- The streams that are stopped with the stream `i`: with the main stream all, the last one
first. -/
def stopped (i : SubNum) : List SubNum := if i = mainBsNum then (List.finRange 9).reverse else [i]

/-- Behind the handling of the event of the stream `i` of `c`, no event stands for it. -/
theorem event_settle (c : ChNum) (i : SubNum) (s : Server) :
  ((settle c i s).bs c i).event = .none
  := by rw [settle, Server.bs_setBs]

/-- What `unhandle` leaves of the stream `i` of `c`: all but the handlers with which it is
served. -/
theorem bs_unhandle (c : ChNum) (i : SubNum) (s : Server) :
  (unhandle c i s).bs c i =
    { s.bs c i with openFn := false, readFn := false, freeFn := false, writeFn := false }
  := by rw [unhandle, Server.bs_setBs]

/-- A turn of the loop of `bs_new_event`, for the stream `i` of `c`, if its event is that of the
phase. -/
def turn (o : SubNum → Calls) (c : ChNum) (i : SubNum) (s : Server) : Server :=
  if (s.bs c i).event ≠ s.bsEvent then s
  else
    match s.bsEvent with
    | .none => s
    | .start => startTurn (o i) c i s
    | .update => updateTurn (o i) c i s
    | .stop => stopStreams o c (stopped i) s

/-! ### A round -/

/-- `bs_check_event` -/
def bsCheckEvent (s : Server) : Bool :=
  (List.finRange 2).any fun c => (List.finRange 9).any fun i => (s.bs c i).event ≠ .none

/-- `bs_check_event_type` -/
def bsCheckEventType (e : BsEvent) (s : Server) : Bool :=
  (List.finRange 2).any fun c => (List.finRange 9).any fun i => (s.bs c i).event = e

/-- The phase of the rounds behind a phase: starts, stops, updates, and starts again. -/
def BsEvent.next : BsEvent → BsEvent
  | .start => .stop
  | .stop => .update
  | .update => .start
  | .none => .none

/-- The end of a round of `bs_new_event`: the next phase is taken if no event of this one is
left. -/
def advance (s : Server) : Server :=
  if bsCheckEventType s.bsEvent s then s else { s with bsEvent := s.bsEvent.next }

/-- A round of `bs_new_event` that finds no event at all goes back to the starts and clears the
flag. -/
def rest (s : Server) : Server := { s with bsEvent := .start, rtspdSetEvent := false }

/-- The streams of all channels, in the order in which a round of `bs_new_event` goes over them. -/
def streams : List (ChNum × SubNum) :=
  (List.finRange 2).flatMap fun c => (List.finRange 9).map fun i => (c, i)

/-- `bs_new_event` -/
def bsNewEvent (o : ChNum → SubNum → SubNum → Calls) (s : Server) : Server :=
  if bsCheckEvent s then advance (streams.foldl (fun s p => turn (o p.1 p.2) p.1 p.2 s) s)
  else rest s

/-! ### Setting an event -/

/-- The stream with the given numbers, if `CHECK_CHANNUM_AND_SUBNUM` admits them; `none`, if it does
not. -/
def streamOf (chNum subNum : Int) : Option (ChNum × SubNum) :=
  if h : (0 ≤ chNum ∧ chNum < 2) ∧ 0 ≤ subNum ∧ subNum < 9 then
    some (⟨chNum.toNat, by omega⟩, ⟨subNum.toNat, by omega⟩)
  else none

/-- The value with which `env_set_bs_new_event` refuses the event `e` for the stream `i` of `c`, if
it does. -/
def refusal (c : ChNum) (i : SubNum) (e : BsEvent) (s : Server) : Option Int :=
  match e with
  | .start =>
      if (s.bs c i).optType = optNone then some 0
      else if (s.bs c i).enabled then some (-1)
      else none
  | .update => none
  | .stop =>
      if i = mainBsNum then if isBsAllDisable s then some 0 else none
      else if (s.bs c i).enabled then none
      else some (-1)
  | .none => some (-1)

/-- The event `e` is stored for the stream `i` of `c`, and the flag for the rounds is set. -/
def post (c : ChNum) (i : SubNum) (e : BsEvent) (s : Server) : Server :=
  { s.setBs c i (fun b => { b with event := e }) with rtspdSetEvent := true }

/-- `env_set_bs_new_event` -/
def envSetBsNewEvent (chNum subNum : Int) (e : BsEvent) (s : Server) : Int × Server :=
  match streamOf chNum subNum with
  | none => (-1, s)
  | some (c, i) =>
      match refusal c i e s with
      | some ret => (ret, s)
      | none => (0, post c i e s)

/-- `env_set_bs_new_event` refuses the event `e` and leaves the server alone, or stores it for a
stream. -/
theorem envSetBsNewEvent_cases (chNum subNum : Int) (e : BsEvent) (s : Server) :
  (envSetBsNewEvent chNum subNum e s).2 = s ∨
  ∃ c i, refusal c i e s = none ∧ (envSetBsNewEvent chNum subNum e s).2 = post c i e s
  := by
  unfold envSetBsNewEvent
  split
  · apply Or.inl rfl
  · next c i _ =>
      split
      · apply Or.inl rfl
      · next hnone => apply Or.inr ⟨c, i, hnone, rfl⟩

/-! ### The steps of the server -/

/-- `set_fps`, `set_ip_int` and `set_bps`: the parameters are applied for the channel.  The tests of
the values that they make never hold. -/
def updateParm (chNum subNum : Int) (s : Server) : Int × Server :=
  match streamOf chNum subNum with
  | none => (-1, s)
  | some (c, _) => (0, s.apply c)

/-- A frame of the stream `i` of `c` is written by `write_rtp_frame`: it is given a slot of the
pool, which `vf` is put into. -/
def takeFrame (c : ChNum) (i : SubNum) (vf : VideoFrame) (s : Server) : Option Server :=
  let qno := (s.bs c i).qno
  if (s.bs c i).writeFn then
    match takeVideoFrame qno (s.frameInfo qno) with
    | some (some fs, fi) =>
        some { s with
          frameInfo :=
            Function.update s.frameInfo qno { fi with vf := Function.update fi.vf fs vf } }
    | _ => none
  else none

/-- The streaming library is done with a frame, or refuses it: the slot that is found for its `key`
is put back. -/
def putFrame (qno key : Int) (s : Server) : Option Server :=
  match searchVideoFrame key (s.frameInfo qno) with
  | some (some fs) =>
      some { s with
        frameInfo := Function.update s.frameInfo qno (putVideoFrame qno fs (s.frameInfo qno)) }
  | _ => none

/-- What happens to the server: an event is sent, a stream has its turn, a round ends, parameters
are applied, or a frame comes and goes. -/
inductive ServerInput where
  | event (chNum subNum : Int) (e : BsEvent)
  | turn (c : ChNum) (i : SubNum) (o : SubNum → Calls)
  | advance
  | rest
  | updateParm (chNum subNum : Int)
  | takeFrame (c : ChNum) (i : SubNum) (vf : VideoFrame)
  | putFrame (qno key : Int)

/-- A step of the server from `s`, if it can be taken there: a round rests only if there is no
event. -/
def serverStep (s : Server) : ServerInput → Option Server
  | .event chNum subNum e => some (envSetBsNewEvent chNum subNum e s).2
  | .turn c i o => some (turn o c i s)
  | .advance => some (advance s)
  | .rest => if bsCheckEvent s then none else some (rest s)
  | .updateParm chNum subNum => some (updateParm chNum subNum s).2
  | .takeFrame c i vf => takeFrame c i vf s
  | .putFrame qno key => putFrame qno key s

/-- The inputs of a round that finds an event: the turns of all `streams`, with their calls, and the
end of the round. -/
def roundInputs (o : ChNum → SubNum → SubNum → Calls) : List ServerInput :=
  streams.map (fun p => .turn p.1 p.2 (o p.1 p.2)) ++ [.advance]

variable {c : ChNum} {i : SubNum} {s s' : Server}

/-- A frame that is taken changes the queue of its stream in `frame_info[]` alone. -/
theorem takeFrame_frameInfo {vf : VideoFrame} (h : takeFrame c i vf s = some s') :
  ∃ qno fi, s' = { s with frameInfo := Function.update s.frameInfo qno fi }
  := by
  rw [takeFrame] at h
  split at h
  · split at h
    · exact ⟨_, _, (Option.some.inj h).symm⟩
    · contradiction
  · contradiction

/-- A frame that is put back changes the queue `qno` in `frame_info[]` alone. -/
theorem putFrame_frameInfo {qno key : Int} (h : putFrame qno key s = some s') :
  ∃ qno fi, s' = { s with frameInfo := Function.update s.frameInfo qno fi }
  := by
  rw [putFrame] at h
  split at h
  · exact ⟨_, _, (Option.some.inj h).symm⟩
  · contradiction

/-- What a step from `s` to `s'` may do: leave the server alone, store an event that is not refused,
take a turn, come to another phase, apply parameters, take a frame or put one back. -/
theorem serverStep_cases {input : ServerInput} (h : serverStep s input = some s') :
  s' = s ∨
  (∃ c i e, refusal c i e s = none ∧ s' = post c i e s) ∨
  (∃ c i o, input = .turn c i o ∧ s' = turn o c i s) ∨
  (∃ e b, (e = s.bsEvent.next ∨ e = .start) ∧ s' = { s with bsEvent := e, rtspdSetEvent := b }) ∨
  (∃ c, s' = s.apply c) ∨
  (∃ c i vf, takeFrame c i vf s = some s') ∨
  (∃ qno key, putFrame qno key s = some s')
  := by
  cases input with
  | event chNum subNum e =>
      obtain rfl := Option.some.inj h
      obtain hrefused | ⟨c, i, hnone, hpost⟩ := envSetBsNewEvent_cases chNum subNum e s
      · apply Or.inl hrefused
      · apply Or.inr (Or.inl ⟨c, i, e, hnone, hpost⟩)
  | turn c i o => apply Or.inr (Or.inr (Or.inl ⟨c, i, o, rfl, (Option.some.inj h).symm⟩))
  | advance =>
      obtain rfl := Option.some.inj h
      rw [advance]
      split
      · apply Or.inl rfl
      · apply Or.inr (Or.inr (Or.inr (Or.inl ⟨_, _, Or.inl rfl, rfl⟩)))
  | rest =>
      rw [serverStep] at h
      split at h
      · contradiction
      · obtain rfl := Option.some.inj h
        apply Or.inr (Or.inr (Or.inr (Or.inl ⟨_, _, Or.inr rfl, rfl⟩)))
  | updateParm chNum subNum =>
      obtain rfl := Option.some.inj h
      unfold updateParm
      split
      · apply Or.inl rfl
      · next c _ _ => apply Or.inr (Or.inr (Or.inr (Or.inr (Or.inl ⟨c, rfl⟩))))
  | takeFrame c i vf =>
      apply Or.inr (Or.inr (Or.inr (Or.inr (Or.inr (Or.inl ⟨c, i, vf, h⟩)))))
  | putFrame qno key =>
      apply Or.inr (Or.inr (Or.inr (Or.inr (Or.inr (Or.inr ⟨qno, key, h⟩)))))

/-- The turns of the streams in `ps`, one behind the other, and the end of the round are a run of
the server. -/
theorem Run.turns
    (o : ChNum → SubNum → SubNum → Calls) (ps : List (ChNum × SubNum)) (s : Server) :
  Run serverStep (fun _ _ => True) s
    (ps.map (fun p => .turn p.1 p.2 (o p.1 p.2)) ++ [.advance])
    (Rtspd.advance (ps.foldl (fun s p => Rtspd.turn (o p.1 p.2) p.1 p.2 s) s))
  := by
  induction ps generalizing s with
  | nil => apply Run.cons trivial rfl (Run.nil _)
  | cons p ps ih => apply Run.cons trivial rfl (ih _)

/-- A round of `bs_new_event` that finds an event is a run of steps of the server. -/
theorem Run.round (o : ChNum → SubNum → SubNum → Calls) (s : Server) :
  ∃ is, Run serverStep (fun _ _ => True) s is (bsNewEvent o s)
  := by
  unfold bsNewEvent
  split
  · use roundInputs o
    apply Run.turns
  · next hnone =>
      use [.rest]
      apply Run.cons trivial _ (Run.nil _)
      rw [serverStep, if_neg hnone]

/-- The server as it is started: no stream runs or is registered, no channel is open, and the common
device is. -/
structure Server.Started (s : Server) : Prop where
  bs : ∀ c i, s.bs c i = { s.bs c i with
    event := .none, enabled := false, videoEnabled := false, sr := -1, qno := -1, audioQno := -1,
    openFn := false, closeFn := false, readFn := false, writeFn := false, freeFn := false }
  av : ∀ c, (s.enc c).enabled = false ∧ (s.enc c).encFd = -1
  bsEvent : s.bsEvent = .start
  dvrFd : 0 ≤ s.rtspdDvrFd
  files : ∀ fd, s.files fd = some .dvrCommon ↔ fd = s.rtspdDvrFd
  built : ∀ qno, s.built qno = false
  acts : s.acts = []
  applies : s.applies = []

/-! ### A server to try things on -/

/-- A stream that does not run, has no number and no handler, with its kind of service in
`opt_type`. -/
def newBs (optType : Int) : Bs where
  event := .none
  enabled := false
  optType := optType
  videoEnabled := false
  encType := encTypeH264
  fps := 25
  bps := 0
  sr := -1
  qno := -1
  audioQno := -1
  openFn := false
  closeFn := false
  readFn := false
  writeFn := false
  freeFn := false

/-- A server that has just been started, all of whose streams have the kind `optType`. -/
def newServer (optType : Int) : Server where
  enc _ := ⟨fun _ => newBs optType, 0, false, -1⟩
  bsEvent := .start
  rtspdSetEvent := false
  rtspdDvrFd := 3
  frameInfo _ := ⟨none, none, fun _ => ⟨none, none⟩, fun _ => ⟨0, 0, ⟨0, 0, 0, 0⟩, 0⟩⟩
  files fd := if fd = 3 then some .dvrCommon else none
  built _ := false
  acts := []
  applies := []

/-- Calls to the driver, to the streaming library and of `malloc` that all succeed. -/
def workingCalls : Calls where
  openEnc := 4
  setChannelParam := 0
  outputBufferSize := 0
  queueOffset _ := 0
  mmap := true
  setSubBsParam := 0
  encControl := 0
  commonApply := 0
  videoQueue := 0
  audioQueue := 1
  streamReg := 0
  streamDereg := 0
  mutexInit := true
  malloc n := (some n, true)

theorem newServer_started (optType : Int) : (newServer optType).Started where
  bs _ _ := rfl
  av _ := ⟨rfl, rfl⟩
  bsEvent := rfl
  dvrFd := by
    change (0 : Int) ≤ 3
    decide
  files fd := by
    rw [newServer]
    by_cases h : fd = 3
    · simp [h]
    · simp [h]
  built _ := rfl
  acts := rfl
  applies := rfl

end Rtspd
