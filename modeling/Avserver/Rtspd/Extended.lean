import Avserver.Rtspd.Events

/-!
# The turns of an extended server

What the streaming library holds for the streams, and what passes between it and the server, is no
part of the server's own state.  It is kept in a ledger beside the server (`Extended`), in which an
entry is made whenever a stream is opened or closed with the library (`Ledger`); the turns of
`bs_new_event` are taken in the extended state as they are taken by the server.  No function of the
server reads the ledger: `turn_server` and `step_server` say that the server in an extended state does
what it does on its own.
-/

namespace Rtspd

/-- A ledger `ε`: what becomes of it when `open_live_streaming` and `close_live_streaming` are called
for stream `i` of channel `c`, with the server as it is before the call. -/
class Ledger (ε : Type) where
  opened : Calls → ChNum → SubNum → Server → ε → ε
  closed : Calls → ChNum → SubNum → Server → ε → ε

/-- The server, and beside it a `ledger` in which is noted what happens at the calls to the
streaming library. -/
structure Extended (ε : Type) where
  server : Server
  ledger : ε

namespace Extended

variable {ε : Type}

/-- What the server does by `f` without the streaming library, which leaves the ledger alone. -/
def on (q : Extended ε) (f : Server → Server) : Extended ε := { q with server := f q.server }

variable [Ledger ε]

/-- `open_live_streaming` -/
def openLiveStreaming (o : Calls) (c : ChNum) (i : SubNum) (q : Extended ε) : Extended ε where
  server := (Rtspd.openLiveStreaming o c i q.server).2
  ledger := Ledger.opened o c i q.server q.ledger

/-- `close_live_streaming` -/
def closeLiveStreaming (o : Calls) (c : ChNum) (i : SubNum) (q : Extended ε) : Extended ε where
  server := (Rtspd.closeLiveStreaming o c i q.server).2
  ledger := Ledger.closed o c i q.server q.ledger

/-! ### The turns -/

/-- The handler of a stream `i` of `c` that is started or updated opens it with the library, if it
has one. -/
def reopen (o : Calls) (c : ChNum) (i : SubNum) (q : Extended ε) : Extended ε :=
  if (q.server.bs c i).openFn then openLiveStreaming o c i q else q

/-- The handler of the stream `i` of `c` closes it with the library, if it has one. -/
def shut (o : Calls) (c : ChNum) (i : SubNum) (q : Extended ε) : Extended ε :=
  if (q.server.bs c i).closeFn then closeLiveStreaming o c i q else q

/-- `START_BS_EVENT` -/
def startTurn (o : Calls) (c : ChNum) (i : SubNum) (q : Extended ε) : Extended ε :=
  (reopen o c i (q.on fun s => (openBs o c i s).2)).on (settle c i)

/-- `UPDATE_BS_EVENT` -/
def updateTurn (o : Calls) (c : ChNum) (i : SubNum) (q : Extended ε) : Extended ε :=
  let qno := (q.server.bs c i).qno
  if qno ≥ 0 then
    let counted := q.on fun s => (getNumOfUsedVideoFrame qno s).2
    if (getNumOfUsedVideoFrame qno q.server).1 = some 0 then
      (reopen o c i (shut o c i counted)).on (settle c i)
    else counted
  else q

/-- The stream `i` of `c` is closed with the streaming library, and stopped with the driver by
`close_bs`. -/
def finishStop (o : Calls) (c : ChNum) (i : SubNum) (q : Extended ε) : Extended ε :=
  (shut o c i q).on fun s =>
    settle c i (closeBs o c i (s.setBs c i fun b => { b with closeFn := false })).2

/-- The stream `i` of those of `c` that `STOP_BS_EVENT` stops, with whether the next one is to be
stopped. -/
def stopStream (o : Calls) (c : ChNum) (i : SubNum) (q : Extended ε) : Bool × Extended ε :=
  let q := q.on (unhandle c i)
  let qno := (q.server.bs c i).qno
  if qno ≥ 0 then
    let counted := q.on fun s => (getNumOfUsedVideoFrame qno s).2
    if (getNumOfUsedVideoFrame qno q.server).1 = some 0 then (true, finishStop o c i counted)
    else (false, counted)
  else if (q.server.bs c i).closeFn then (true, finishStop o c i q)
  else (true, q.on (settle c i))

/-- The loop over the streams of `c` that are stopped, up to the first one with frames in use. -/
def stopStreams (o : SubNum → Calls) (c : ChNum) : List SubNum → Extended ε → Extended ε
  | [], q => q
  | i :: is, q =>
      let (next, q) := stopStream (o i) c i q
      if next then stopStreams o c is q else q

/-- A turn of the loop of `bs_new_event`, for the stream `i` of `c`, if its event is that of the
phase. -/
def turn (o : SubNum → Calls) (c : ChNum) (i : SubNum) (q : Extended ε) : Extended ε :=
  if (q.server.bs c i).event ≠ q.server.bsEvent then q
  else
    match q.server.bsEvent with
    | .none => q
    | .start => startTurn (o i) c i q
    | .update => updateTurn (o i) c i q
    | .stop => stopStreams o c (stopped i) q

/-- A step of the server in an extended state; only the turns are about the ledger. -/
def step (q : Extended ε) : ServerInput → Option (Extended ε)
  | .turn c i o => some (turn o c i q)
  | input => (serverStep q.server input).map fun s => { q with server := s }

/-! ### The server does what it did -/

variable {o : Calls} {c : ChNum} {i : SubNum} {q q' : Extended ε} {input : ServerInput}

theorem shut_server : (shut o c i q).server = Rtspd.shut o c i q.server := by
  unfold shut Rtspd.shut
  split
  · rfl
  · rfl

theorem reopen_server : (reopen o c i q).server = Rtspd.reopen o c i q.server := by
  unfold reopen Rtspd.reopen
  split
  · rfl
  · rfl

theorem startTurn_server : (startTurn o c i q).server = Rtspd.startTurn o c i q.server := by
  rw [startTurn, on, reopen_server]
  rfl

theorem updateTurn_server : (updateTurn o c i q).server = Rtspd.updateTurn o c i q.server := by
  unfold updateTurn Rtspd.updateTurn
  dsimp only
  split
  · split
    · rw [on, reopen_server, shut_server]
      rfl
    · rfl
  · rfl

theorem finishStop_server : (finishStop o c i q).server = Rtspd.finishStop o c i q.server := by
  rw [finishStop, on, shut_server]
  rfl

theorem stopStream_server :
  (stopStream o c i q).1 = (Rtspd.stopStream o c i q.server).1
    ∧ (stopStream o c i q).2.server = (Rtspd.stopStream o c i q.server).2
  := by
  unfold stopStream Rtspd.stopStream
  dsimp only [on]
  split
  · split
    · exact ⟨rfl, finishStop_server⟩
    · exact ⟨rfl, rfl⟩
  · split
    · exact ⟨rfl, finishStop_server⟩
    · exact ⟨rfl, rfl⟩

theorem stopStreams_server (o : SubNum → Calls) (is : List SubNum) (q : Extended ε) :
  (stopStreams o c is q).server = Rtspd.stopStreams o c is q.server
  := by
  induction is generalizing q with
  | nil => rfl
  | cons i is ih =>
      obtain ⟨hnext, hserver⟩ := stopStream_server (o := o i) (c := c) (i := i) (q := q)
      rw [stopStreams, Rtspd.stopStreams]
      dsimp only
      rw [hnext]
      split
      · rw [ih, hserver]
      · apply hserver

/-- A turn in the extended state `q` is the server's turn, whatever the ledger says. -/
theorem turn_server (o : SubNum → Calls) (c : ChNum) (i : SubNum) (q : Extended ε) :
  (turn o c i q).server = Rtspd.turn o c i q.server
  := by
  unfold turn Rtspd.turn
  split
  · rfl
  · cases q.server.bsEvent with
    | none => rfl
    | start => apply startTurn_server
    | update => apply updateTurn_server
    | stop => apply stopStreams_server

/-- A step `input` that is no turn is the server's, and the ledger says afterwards what it said
before. -/
theorem step_of_not_turn (h : ∀ c i o, input ≠ .turn c i o) :
  step q input = (serverStep q.server input).map fun s => { q with server := s }
  := by
  cases input with
  | turn c i o => exact absurd rfl (h c i o)
  | _ => rfl

/-- A step in an extended state is possible exactly if it is for the server, and does to the server
what `serverStep` does. -/
theorem step_server (q : Extended ε) (input : ServerInput) :
  (step q input).map Extended.server = serverStep q.server input
  := by
  by_cases hturn : ∃ c i o, input = .turn c i o
  · obtain ⟨c, i, o, rfl⟩ := hturn
    rw [step, Option.map_some, turn_server]
    rfl
  · rw [step_of_not_turn (by simpa using hturn), Option.map_map]
    apply Option.map_id'

theorem serverStep_of_step (hstep : step q input = some q') :
  serverStep q.server input = some q'.server
  := by rw [← step_server, hstep, Option.map_some]

end Extended

end Rtspd
