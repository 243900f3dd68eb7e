import Mathlib.Algebra.GroupWithZero.Nat
import Mathlib.Logic.Function.Basic
import Mathlib.Data.Finset.Card
import Mathlib.Data.Fintype.Basic

/-!
# The sessions of the P2P server

`p2p.c` keeps one record for each of the `MAX_CLIENT_NUMBER` sessions that the IOTC library can
hold, the number `p2p_send_status` of sessions that want video, and one list of events that is
built when some session asks for it first.  A session is served by a thread of its own, which
hands every command that it receives to `Handle_IOCTRL_Cmd`; the frames of the encoder are sent
to all sessions by `send_frame_p2p`.

The IOTC library is not part of the repository.  What its calls yield is a parameter of a step:
whether `malloc` succeeds, the number of a free channel, and the results of `avSendIOCtrl` and
`avSendFrameData`.
-/

namespace P2p

/-- `MAX_CLIENT_NUMBER`, the number of records, which is also what `IOTC_Set_Max_Session_Number` is
given. -/
abbrev maxClientNumber : Nat := 128

/-- The number of a session, which is also the number of its record in `gClientInfo`. -/
abbrev SID := Fin maxClientNumber

/-- There is a session. -/
instance maxClientNumber_neZero : NeZero maxClientNumber := ⟨by decide⟩

/-- The commands of a playback: `AVIOCTRL_RECORD_PLAY_START`, `_PAUSE` and `_STOP`, and those that
are ignored. -/
inductive PlayCommand where
  | start | pause | stop
  | other (command : Int)
deriving DecidableEq

/-- `SMsgAVIoctrlPlayRecord`: the command of a playback, and the minute of its `stTimeDay`, which is
all that is read of the time. -/
structure PlayRecord where
  command : PlayCommand
  minute : Int
deriving DecidableEq

/-- `AV_Client`, the record of a session.  Its bytes that are used as flags hold 0 or 1 throughout,
so they are of `Bool`. -/
structure AVClient where
  avIndex : Int
  bEnableVideo : Bool
  bEnableSpeaker : Bool
  bStopPlayBack : Bool
  bPausePlayBack : Bool
  speakerCh : Int
  playBackCh : Int
  /-- the last record whose playback was started -/
  playRecord : Option PlayRecord

/-- `STimeDay` -/
structure TimeDay where
  year : Int
  month : Int
  day : Int
  wday : Int
  hour : Int
  minute : Int
  second : Int
deriving DecidableEq

/-- `SAvEvent`, an event of the list; its kind is left out, as the only one is
`AVIOCTRL_EVENT_MOTIONDECT`. -/
structure AvEvent where
  stTime : TimeDay
  status : Int
deriving DecidableEq

/-- `SMsgAVIoctrlListEventResp` -/
structure ListEventResp where
  total : Int
  index : Int
  endflag : Int
  stEvent : List AvEvent
deriving DecidableEq

/-- The member `count` of the list `l`, the number of events behind the header. -/
def ListEventResp.count (l : ListEventResp) : Nat := l.stEvent.length

/-- What the server hands to the IOTC library, or to the PTZ driver, with the `avIndex` it is
for. -/
inductive Output where
  /-- `avSendIOCtrl` with `IOTYPE_USER_IPCAM_LISTEVENT_RESP` -/
  | listEventResp (avIndex : Int) (resp : ListEventResp)
  /-- `avSendIOCtrl` with `IOTYPE_USER_IPCAM_RECORD_PLAYCONTROL_RESP` -/
  | playControlResp (avIndex : Int) (command : PlayCommand) (result : Int)
  /-- `mctp_cmd_cb(PTZ, ptzcmd)` -/
  | ptz (ptzcmd : String)
  /-- `avSendFrameData` -/
  | frame (SID : SID) (avIndex : Int)
deriving DecidableEq

/-- The globals of `p2p.c` that the commands and the sender use, and all that has been put out in
`out`, newest first. -/
structure Server where
  gClientInfo : SID → AVClient
  gbSearchEvent : Bool
  gEventList : Option ListEventResp
  p2pSendStatus : Int
  out : List Output

/-- What `InitAVInfo` makes of the record of one session: no `avIndex`, and everything off. -/
def initAVClient : AVClient where
  avIndex := -1
  bEnableVideo := false
  bEnableSpeaker := false
  bStopPlayBack := false
  bPausePlayBack := false
  speakerCh := 0
  playBackCh := 0
  playRecord := none

/-- The globals of `p2p.c` when `p2p_start` has called `InitAVInfo`, and nothing has been put out
yet. -/
def initAVInfo : Server where
  gClientInfo := fun _ => initAVClient
  gbSearchEvent := false
  gEventList := none
  p2pSendStatus := 0
  out := []

/-! ### The records of the sessions -/

/-- The record of the session `SID` is changed by `f`, and all the others are as before. -/
def Server.modifyClient (s : Server) (SID : SID) (f : AVClient → AVClient) : Server :=
  { s with gClientInfo := Function.update s.gClientInfo SID (f (s.gClientInfo SID)) }

/-- `regedit_client_to_video` -/
def regeditClientToVideo (SID : SID) (avIndex : Int) (s : Server) : Server :=
  { s.modifyClient SID fun p => { p with avIndex := avIndex, bEnableVideo := true } with
    p2pSendStatus := s.p2pSendStatus + 1 }

/-- `unregedit_client_from_video` -/
def unregeditClientFromVideo (SID : SID) (s : Server) : Server :=
  { s.modifyClient SID fun p => { p with bEnableVideo := false } with
    p2pSendStatus := if s.p2pSendStatus > 0 then s.p2pSendStatus - 1 else s.p2pSendStatus }

@[simp]
theorem modifyClient_self (s : Server) (SID : SID) (f : AVClient → AVClient) :
  (s.modifyClient SID f).gClientInfo SID = f (s.gClientInfo SID)
  := Function.update_self ..

theorem modifyClient_of_ne
    (s : Server) {i SID : SID} (h : i ≠ SID) (f : AVClient → AVClient) :
  (s.modifyClient SID f).gClientInfo i = s.gClientInfo i
  := Function.update_of_ne h ..

/-! ### The commands -/

/-- The code that the PTZ driver has for a control, and whether the speed follows it; controls
without a code are ignored. -/
def ptzCode : Nat → Option (Nat × Bool)
  | 0 => some (0, false)
  | 1 => some (1, true)
  | 2 => some (2, true)
  | 3 => some (3, true)
  | 4 => some (5, true)
  | 5 => some (6, true)
  | 6 => some (4, true)
  | 7 => some (7, true)
  | 8 => some (8, true)
  | 23 => some (9, true)
  | 24 => some (10, true)
  | 25 => some (11, true)
  | 26 => some (12, true)
  | _ => none

/-- `P2P_do_ptz`, which passes the text of a `control` to the driver, and moves at speed 16 whatever
speed is asked for. -/
def p2pDoPtz (control : Nat) (s : Server) : Server :=
  match ptzCode control with
  | some (code, moving) =>
      let speed := if moving then 16 else 0
      { s with out := .ptz ("@0@" ++ toString code ++ "@" ++ toString speed ++ "\n") :: s.out }
  | none => s

/-- A command, with the part of its buffer that `Handle_IOCTRL_Cmd` reads. -/
inductive IoType where
  | ipcamStart | ipcamStop | audioStart | audioStop
  | speakerStart (channel : Int)
  | speakerStop
  | listEventReq
  | recordPlayControl (p : PlayRecord)
  | ptzCommand (control : Nat)
  | other (type : Int)
deriving DecidableEq

/-- What the calls made for a command yield: whether `malloc` yields a block, and the results
of `IOTC_Session_Get_Free_Channel` and of `avSendIOCtrl`. -/
structure Answer where
  malloc : Bool
  freeChannel : Int
  sendIOCtrl : Int
deriving DecidableEq

/-- The server accesses the list of events through `gEventList` while there is none. -/
inductive Fault where
  | nullEventList
deriving DecidableEq

/-- The list that the first `LISTEVENT_REQ` fills: three events, a minute apart, none of them
played. -/
def newEventList : ListEventResp where
  total := 1
  index := 0
  endflag := 1
  stEvent := (List.range 3).map fun i => { stTime := ⟨2012, 6, 20, 5, 11, i, 0⟩, status := 0 }

/-- The list `l` after the events of the given `minute` have been marked as played. -/
def ListEventResp.play (minute : Int) (l : ListEventResp) : ListEventResp :=
  { l with
    stEvent := l.stEvent.map fun ev =>
      if minute = ev.stTime.minute then { ev with status := 1 } else ev }

/-- The case `IOTYPE_USER_IPCAM_LISTEVENT_REQ` of `Handle_IOCTRL_Cmd`: the first one creates the
list, and every one sends it. -/
def listEventReq (avIndex : Int) (a : Answer) (s : Server) : Except Fault Server := do
  let s ←
    if s.gbSearchEvent then pure s
    else if a.malloc then
      pure { s with gEventList := some newEventList, gbSearchEvent := true }
    -- `memset` writes through the pointer at once
    else throw .nullEventList
  match s.gEventList with
  | some l => pure { s with out := .listEventResp avIndex l :: s.out }
  | none => throw .nullEventList

/-- The case `IOTYPE_USER_IPCAM_RECORD_PLAYCONTROL` of `Handle_IOCTRL_Cmd`; a start marks the events
of its minute through the pointer to the list. -/
def recordPlayControl (SID : SID) (avIndex : Int) (p : PlayRecord) (a : Answer) (s : Server) :
    Except Fault Server :=
  match p.command with
  | .start =>
      let s := s.modifyClient SID fun c =>
        { c with
          playRecord := some p, bPausePlayBack := false, bStopPlayBack := false,
          playBackCh := a.freeChannel }
      -- the loop over the events reads their number first
      match s.gEventList with
      | some l => pure { s with gEventList := some (l.play p.minute) }
      | none => throw .nullEventList
  | .pause =>
      let s := { s with out := .playControlResp avIndex .pause 0 :: s.out }
      if a.sendIOCtrl < 0 then pure s
      else pure (s.modifyClient SID fun c => { c with bPausePlayBack := !c.bPausePlayBack })
  | .stop => pure (s.modifyClient SID fun c => { c with bStopPlayBack := true })
  | .other _ => pure s

/-- `Handle_IOCTRL_Cmd` -/
def handleIOCTRLCmd (SID : SID) (avIndex : Int) (type : IoType) (a : Answer) (s : Server) :
    Except Fault Server :=
  match type with
  | .ipcamStart => pure (regeditClientToVideo SID avIndex s)
  | .ipcamStop => pure (unregeditClientFromVideo SID s)
  | .audioStart | .audioStop => pure s
  | .speakerStart channel =>
      pure (s.modifyClient SID fun c => { c with speakerCh := channel, bEnableSpeaker := true })
  | .speakerStop => pure (s.modifyClient SID fun c => { c with bEnableSpeaker := false })
  | .listEventReq => listEventReq avIndex a s
  | .recordPlayControl p => recordPlayControl SID avIndex p a s
  | .ptzCommand control => pure (p2pDoPtz control s)
  | .other _ => pure s

/-! ### What a command does to the video of the sessions -/

/-- In `s` and `s'` the same sessions want video, on the same `avIndex`es, and the counter is the
same. -/
structure SameVideo (s s' : Server) : Prop where
  status : s'.p2pSendStatus = s.p2pSendStatus
  avIndex : ∀ i, (s'.gClientInfo i).avIndex = (s.gClientInfo i).avIndex
  bEnableVideo : ∀ i, (s'.gClientInfo i).bEnableVideo = (s.gClientInfo i).bEnableVideo

theorem SameVideo.of_clients
    {s s' : Server} (hstatus : s'.p2pSendStatus = s.p2pSendStatus)
    (hclients : s'.gClientInfo = s.gClientInfo) :
  SameVideo s s'
  := ⟨hstatus, fun i => by rw [hclients], fun i => by rw [hclients]⟩

/-- If `s'` differs from `s` in the record `c` of one session, and `c` has the `avIndex` and the
`bEnableVideo` of before, then the two have the same video. -/
theorem SameVideo.of_client
    {s s' : Server} {SID : SID} {c : AVClient} (hstatus : s'.p2pSendStatus = s.p2pSendStatus)
    (hclients : s'.gClientInfo = Function.update s.gClientInfo SID c)
    (havIndex : c.avIndex = (s.gClientInfo SID).avIndex)
    (hvideo : c.bEnableVideo = (s.gClientInfo SID).bEnableVideo) :
  SameVideo s s'
  := by
  constructor
  · apply hstatus
  · intro i
    rw [hclients]
    by_cases h : i = SID
    · rw [h, Function.update_self, havIndex]
    · rw [Function.update_of_ne h]
  · intro i
    rw [hclients]
    by_cases h : i = SID
    · rw [h, Function.update_self, hvideo]
    · rw [Function.update_of_ne h]

section

variable {SID : SID} {avIndex : Int} {a : Answer} {s s' : Server}

theorem p2pDoPtz_sameVideo (control : Nat) (s : Server) : SameVideo s (p2pDoPtz control s) := by
  unfold p2pDoPtz
  split
  · exact SameVideo.of_clients rfl rfl
  · exact SameVideo.of_clients rfl rfl

theorem listEventReq_sameVideo (h : listEventReq avIndex a s = .ok s') : SameVideo s s' := by
  simp only [listEventReq] at h
  split at h
  · simp only [pure_bind] at h
    split at h
    · obtain rfl := Except.ok.inj h
      exact SameVideo.of_clients rfl rfl
    · contradiction
  · split at h
    · obtain rfl := Except.ok.inj h
      exact SameVideo.of_clients rfl rfl
    · contradiction

theorem recordPlayControl_sameVideo
    {p : PlayRecord} (h : recordPlayControl SID avIndex p a s = .ok s') :
  SameVideo s s'
  := by
  simp only [recordPlayControl] at h
  split at h
  · split at h
    · obtain rfl := Except.ok.inj h
      exact SameVideo.of_client rfl rfl rfl rfl
    · contradiction
  · split at h
    · obtain rfl := Except.ok.inj h
      exact SameVideo.of_clients rfl rfl
    · obtain rfl := Except.ok.inj h
      exact SameVideo.of_client rfl rfl rfl rfl
  · obtain rfl := Except.ok.inj h
    exact SameVideo.of_client rfl rfl rfl rfl
  · obtain rfl := Except.ok.inj h
    exact SameVideo.of_clients rfl rfl

/-- A command that is handled starts the video of its session, stops it, or leaves the video of all
sessions as it is, in the sense of `SameVideo`. -/
theorem handleIOCTRLCmd_cases
    {type : IoType} (h : handleIOCTRLCmd SID avIndex type a s = .ok s') :
  (type = .ipcamStart ∧ s' = regeditClientToVideo SID avIndex s)
    ∨ (type = .ipcamStop ∧ s' = unregeditClientFromVideo SID s)
    ∨ (type ≠ .ipcamStart ∧ type ≠ .ipcamStop ∧ SameVideo s s')
  := by
  cases type with
  | ipcamStart =>
      left
      use rfl, (Except.ok.inj h).symm
  | ipcamStop =>
      right; left
      use rfl, (Except.ok.inj h).symm
  | audioStart =>
      obtain rfl := Except.ok.inj h
      simp [SameVideo.of_clients]
  | audioStop =>
      obtain rfl := Except.ok.inj h
      simp [SameVideo.of_clients]
  | speakerStart channel =>
      obtain rfl := Except.ok.inj h
      right; right
      exact ⟨nofun, nofun, SameVideo.of_client rfl rfl rfl rfl⟩
  | speakerStop =>
      obtain rfl := Except.ok.inj h
      right; right
      exact ⟨nofun, nofun, SameVideo.of_client rfl rfl rfl rfl⟩
  | listEventReq => simp [listEventReq_sameVideo h]
  | recordPlayControl p => simp [recordPlayControl_sameVideo h]
  | ptzCommand control =>
      obtain rfl := Except.ok.inj h
      simp [p2pDoPtz_sameVideo]
  | other type =>
      obtain rfl := Except.ok.inj h
      simp [SameVideo.of_clients]

end

/-! ### The frames -/

/-- The result of `avSendFrameData`: `AV_ER_EXCEED_MAX_SIZE`, `AV_ER_SESSION_CLOSE_BY_REMOTE`,
`AV_ER_REMOTE_TIMEOUT_DISCONNECT`, `IOTC_ER_INVALID_SID`, or another value. -/
inductive SendResult where
  | exceedMaxSize | sessionCloseByRemote | remoteTimeoutDisconnect | invalidSID
  | other (ret : Int)
deriving DecidableEq

/-- The results of `avSendFrameData` on which `send_frame_p2p` unregisters the session. -/
def SendResult.unregisters : SendResult → Bool
  | .sessionCloseByRemote | .remoteTimeoutDisconnect | .invalidSID => true
  | .exceedMaxSize | .other _ => false

/-- The client `p` wants video, by the test that `send_frame_p2p` makes under the read lock of its
session. -/
def AVClient.wantsVideo (p : AVClient) : Bool := !(p.avIndex < 0 || p.bEnableVideo == false)

/-- The call of `avSendFrameData` for the session `SID`, which puts out a frame on its `avIndex`. -/
def avSendFrameData (SID : SID) (s : Server) : Server :=
  { s with out := .frame SID (s.gClientInfo SID).avIndex :: s.out }

/-- The pass of the loop of `send_frame_p2p` for the session `SID`, where `avSendFrameData` has the
result `ret`. -/
def sendSlot (SID : SID) (ret : SendResult) (s : Server) : Server :=
  if (s.gClientInfo SID).wantsVideo then
    if ret.unregisters then unregeditClientFromVideo SID (avSendFrameData SID s)
    else avSendFrameData SID s
  else s

/-- The test with which `send_frame_p2p` begins: it does nothing while the counter is 0. -/
def returnsEarly (s : Server) : Prop := s.p2pSendStatus = 0

instance (s : Server) : Decidable (returnsEarly s) := inferInstanceAs (Decidable (_ = _))

/-- `send_frame_p2p`, where `ret` is the result of `avSendFrameData` for each of the sessions. -/
def sendFrameP2p (ret : SID → SendResult) (s : Server) : Server :=
  if returnsEarly s then s
  else (List.finRange maxClientNumber).foldl (fun s SID => sendSlot SID (ret SID) s) s

end P2p
