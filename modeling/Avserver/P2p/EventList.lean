import Avserver.P2p.Sessions

/-!
# The event list of the P2P server

`gEventList` is created by the first `LISTEVENT_REQ` of any session, and it is used by the
`RECORD_PLAYCONTROL` command that starts a playback, of any session too.  A sequence of commands
therefore runs to its end exactly when the first of its commands that uses the list is one that
creates it.
-/

namespace P2p

/-- A command as the thread of the session `SID` receives it, and the `answer` of the calls that are
made for it. -/
structure Request where
  SID : SID
  avIndex : Int
  type : IoType
  answer : Answer

/-- `Handle_IOCTRL_Cmd`, for one request `r` on the server `s`. -/
def Request.handle (r : Request) (s : Server) : Except Fault Server :=
  handleIOCTRLCmd r.SID r.avIndex r.type r.answer s

/-- The server after the requests `rs`, handled one after another, or the fault that one of them
ends in. -/
def handleAll (s : Server) (rs : List Request) : Except Fault Server :=
  rs.foldlM (fun s r => r.handle s) s

/-- The command reads or writes through the pointer `gEventList`: it is a `LISTEVENT_REQ` or the
start of a playback. -/
def IoType.usesEventList : IoType → Bool
  | .listEventReq => true
  | .recordPlayControl p => p.command = .start
  | _ => false

/-- The request `r` is a `LISTEVENT_REQ` for which `malloc` has memory. -/
def Request.createsEventList (r : Request) : Bool :=
  r.type = .listEventReq ∧ r.answer.malloc

/-- There is no list, and the flag `gbSearchEvent` of the server says so. -/
structure NoList (s : Server) : Prop where
  search : s.gbSearchEvent = false
  list : s.gEventList = none

/-- There is a list at `gEventList`, and the flag `gbSearchEvent` of the server says so. -/
structure HasList (s : Server) : Prop where
  search : s.gbSearchEvent = true
  list : s.gEventList.isSome = true

theorem initAVInfo_noList : NoList initAVInfo := ⟨rfl, rfl⟩

/-! ### One command -/

variable {s : Server} {r : Request}

/-- A request `r` that does not use the list is handled, and leaves the flag and the list alone. -/
theorem handle_unused (h : r.type.usesEventList = false) :
  ∃ s', r.handle s = .ok s' ∧ s'.gbSearchEvent = s.gbSearchEvent
    ∧ s'.gEventList = s.gEventList
  := by
  obtain ⟨SID, avIndex, type, a⟩ := r
  cases type with
  | listEventReq => contradiction
  | recordPlayControl p =>
      obtain ⟨command, minute⟩ := p
      cases command with
      | start => contradiction
      | pause =>
          simp only [Request.handle, handleIOCTRLCmd, recordPlayControl]
          split
          · exact ⟨_, rfl, rfl, rfl⟩
          · exact ⟨_, rfl, rfl, rfl⟩
      | stop => exact ⟨_, rfl, rfl, rfl⟩
      | other command => exact ⟨_, rfl, rfl, rfl⟩
  | ptzCommand control =>
      simp only [Request.handle, handleIOCTRLCmd, p2pDoPtz]
      split
      · exact ⟨_, rfl, rfl, rfl⟩
      · exact ⟨_, rfl, rfl, rfl⟩
  | ipcamStart => exact ⟨_, rfl, rfl, rfl⟩
  | ipcamStop => exact ⟨_, rfl, rfl, rfl⟩
  | audioStart => exact ⟨_, rfl, rfl, rfl⟩
  | audioStop => exact ⟨_, rfl, rfl, rfl⟩
  | speakerStart channel => exact ⟨_, rfl, rfl, rfl⟩
  | speakerStop => exact ⟨_, rfl, rfl, rfl⟩
  | other type => exact ⟨_, rfl, rfl, rfl⟩

/-- A request `r` that uses the list is a `LISTEVENT_REQ` or the start of a playback. -/
theorem usesEventList_cases (h : r.type.usesEventList = true) :
  r.type = .listEventReq ∨ ∃ minute, r.type = .recordPlayControl ⟨.start, minute⟩
  := by
  obtain ⟨SID, avIndex, type, a⟩ := r
  cases type with
  | listEventReq =>
      left
      rfl
  | recordPlayControl p =>
      right
      use p.minute
      obtain ⟨command, minute⟩ := p
      obtain rfl : command = .start := by simpa [IoType.usesEventList] using h
      rfl
  | _ => contradiction

/-- Once there is a list, every request `r` is handled, and the list stays. -/
theorem HasList.handle (h : HasList s) (r : Request) :
  ∃ s', r.handle s = .ok s' ∧ HasList s'
  := by
  cases huse : r.type.usesEventList with
  | false =>
      obtain ⟨s', hok, hsearch, hlist⟩ := handle_unused huse
      use s', hok, hsearch.trans h.search
      rw [hlist, h.list]
  | true =>
      obtain ⟨l, hl⟩ := Option.isSome_iff_exists.mp h.list
      obtain htype | ⟨minute, htype⟩ := usesEventList_cases huse
      · simp only [Request.handle, htype, handleIOCTRLCmd, listEventReq, h.search, if_true,
          pure_bind, hl]
        exact ⟨_, rfl, rfl, rfl⟩
      · simp only [Request.handle, htype, handleIOCTRLCmd, recordPlayControl, Server.modifyClient,
          hl]
        exact ⟨_, rfl, h.search, rfl⟩

/-- Without a list, a request `r` that uses it without creating it is a fault: the server accesses a
null pointer. -/
theorem NoList.fault
    (h : NoList s) (huse : r.type.usesEventList = true) (hcreate : r.createsEventList = false) :
  r.handle s = .error .nullEventList
  := by
  obtain htype | ⟨minute, htype⟩ := usesEventList_cases huse
  · have hmalloc : r.answer.malloc = false := by
      simpa [Request.createsEventList, htype] using hcreate
    simp only [Request.handle, htype, handleIOCTRLCmd, listEventReq, h.search, hmalloc]
    rfl
  · simp only [Request.handle, htype, handleIOCTRLCmd, recordPlayControl, Server.modifyClient,
      h.list]
    rfl

/-- Without a list, a request `r` that creates it is handled, and then there is one. -/
theorem NoList.create (h : NoList s) (hcreate : r.createsEventList = true) :
  ∃ s', r.handle s = .ok s' ∧ HasList s'
  := by
  obtain ⟨htype, hmalloc⟩ : r.type = .listEventReq ∧ r.answer.malloc = true := by
    simpa [Request.createsEventList] using hcreate
  simp only [Request.handle, htype, handleIOCTRLCmd, listEventReq, h.search, hmalloc]
  exact ⟨_, rfl, rfl, rfl⟩

/-! ### Sequences of commands -/

/-- Once there is a list, any sequence `rs` of requests is handled without a fault. -/
theorem HasList.handleAll (h : HasList s) (rs : List Request) :
  ∃ s', handleAll s rs = .ok s'
  := by
  induction rs generalizing s with
  | nil => exact ⟨s, rfl⟩
  | cons r rs ih =>
      obtain ⟨s', hok, hs'⟩ := h.handle r
      obtain ⟨t, ht⟩ := ih hs'
      use t
      rw [← ht, P2p.handleAll, List.foldlM_cons, hok]
      rfl

/-- Without a list, the requests `rs` are handled exactly when the first one among them that uses
the list creates it. -/
theorem NoList.handleAll_iff (h : NoList s) (rs : List Request) :
  (∃ s', handleAll s rs = .ok s')
    ↔ ∀ r, rs.find? (fun r => r.type.usesEventList) = some r → r.createsEventList = true
  := by
  induction rs generalizing s with
  | nil => simp [handleAll, pure, Except.pure]
  | cons r rs ih =>
      rw [P2p.handleAll, List.foldlM_cons, List.find?_cons]
      cases huse : r.type.usesEventList with
      | false =>
          obtain ⟨s', hok, hsearch, hlist⟩ := handle_unused (s := s) huse
          have hs' : NoList s' := ⟨hsearch.trans h.search, hlist.trans h.list⟩
          rw [hok]
          apply ih hs'
      | true =>
          cases hcreate : r.createsEventList with
          | false =>
              rw [h.fault huse hcreate]
              simp [hcreate, bind, Except.bind]
          | true =>
              obtain ⟨s', hok, hs'⟩ := h.create hcreate
              rw [hok]
              apply iff_of_true (hs'.handleAll rs)
              simp [hcreate]

/-- From the initial state on, the server accesses no event list that does not exist exactly
when the first of its commands that uses the list, if there is one, is a `LISTEVENT_REQ` for
which there is memory. -/
theorem event_list_exists_iff (rs : List Request) :
  (∃ s, handleAll initAVInfo rs = .ok s)
    ↔ ∀ r, rs.find? (fun r => r.type.usesEventList) = some r → r.createsEventList = true
  := initAVInfo_noList.handleAll_iff rs

/-- The run in which a viewer starts a playback before anyone has asked for the list of events. -/
def playbackFirst : List Request :=
  [⟨0, 0, .recordPlayControl ⟨.start, 0⟩, ⟨true, 1, 0⟩⟩]

/-- In the run `playbackFirst` the server reads the list through a null pointer. -/
theorem playbackFirst_fault : handleAll initAVInfo playbackFirst = .error .nullEventList := rfl

end P2p
