import Avserver.Library.Run
import Avserver.Library.Bracket

/-!
# The recorder thread

`Avi_save` of `avi_save.c` as a machine.  The thread opens one AVI file after another,
as long as recording is enabled and the hour is on the schedule, makes room for each on the
card first, and fills it with frames that it locks in the shared stream memory and unlocks
one frame late.  The flags by which it is controlled are written by other threads at any
moment; between two reads of a flag, or of the free space, the thread makes one step.

What the calls of the libraries yield is part of a step: the answers of `av_server`, the
free space on the card, the outcome of the calls on the AVI file, and for `mt_get` whether
it succeeded and everything it has written to the `AV_DATA` that it was given.  The `log`
records what the thread does to frames, files and directories.
-/

namespace AviSave

open Library

/-- `AV_DATA`, a frame as the buffer hands it out, with the flags reduced to whether they are
`AV_FLAGS_MP4_I_FRAME`. -/
structure AvData where
  ptr : Int
  size : Int
  iFrame : Bool
  serial : Int
deriving DecidableEq

/-- What the recorder does, and the call of `Avi_stop`.  Files are numbered in the order in
which they are opened. -/
inductive Event where
  /-- a request to lock a frame has succeeded -/
  | lock (serial : Int)
  /-- a request to unlock a frame -/
  | unlock (serial : Int)
  /-- `GMAVISetStreamDataAndIndex`, while `SerialBook` is the given one -/
  | store (file : Nat) (serialBook : Int) (data : AvData)
  /-- `GMAVIOpen` has succeeded; `totelFrames` is computed for the file -/
  | open (file : Nat) (totelFrames : Int)
  /-- `GMAVIClose` or `fclose`; whether in the branch for a complete file -/
  | close (file : Nat) (complete : Bool)
  /-- `del_dir` in `prepare_free_space` -/
  | delete
  /-- `Avi_stop` sets `m_Quit` -/
  | stop
  /-- the thread returns -/
  | return
deriving DecidableEq

/-- Where the recorder is: before the check of the card; before the test of the outer loop;
before the test of the schedule; before `GetVideoInfo`; in `prepare_free_space` before a
reading of the free space, and before the search for the oldest directory; before
`GMAVIOpen`; before the headers; before the test of the inner loop; before its body; behind
it; at the end. -/
inductive Pc where
  | start | test | schedule | info | freeSpace | oldest | open | header | quitTest | body
  | after | done
deriving DecidableEq

/-- The recorder: its place `pc` in the thread, the flags it shares with other threads, its own
variables, and the `log` of what it has done. -/
structure Recorder where
  pc : Pc
  gRecEnable : Int
  gRecSchdule : Nat
  gRecStatus : Int
  gRecTimeL : Int
  mQuit : Int
  width : Int
  height : Int
  framerate : Int
  bitsrate : Int
  needFree : Int
  totelFrames : Int
  recFrames : Int
  /-- the file that `avi_file` is a handle of -/
  aviFile : Nat
  aviFinish : Int
  avData : AvData
  streamFlag : Int
  serialBook : Int
  serialLock : Int
  check : Int
  log : List Event

/-- `AVI_TO_CHECK` -/
def aviToCheck : Int := 3

/-- `MIN_REC_TIME_LEN` and `MAX_REC_TIME_LEN` -/
def minRecTimeLen : Int := 1
@[inherit_doc minRecTimeLen] def maxRecTimeLen : Int := 5

/-- The case `e_avi_TimeL` of `processMsg_avi`: the record time, in seconds, for a request of
`iValue` minutes. -/
def recTimeL (iValue : Int) : Int :=
  (if iValue > maxRecTimeLen then maxRecTimeLen
    else if iValue < minRecTimeLen then minRecTimeLen
    else iValue) * 60

/-- `save_schedule`, at the given `hour`: the bit of the hour in the schedule `schd`. -/
def saveSchedule (schd hour : Nat) : Bool := schd.testBit hour

/-- A step of the recorder, with the results of its calls, or of another thread on what it shares
with the recorder. -/
inductive Move where
  /-- the results of `GetSdStatus` and `CheckSDCard` -/
  | start (getSdStatus checkSDCard : Int)
  | test
  /-- the hour of the day -/
  | schedule (hour : Nat)
  /-- the values that `GetVideoInfo` yields, where it yields them -/
  | info (width height fps bps : Option Int)
  /-- the result of `GetCardfreeSpace` -/
  | freeSpace (free : Int)
  /-- the result of `find_oldest_dir_from_sdroot` -/
  | oldest (ret : Int)
  /-- whether `GMAVIOpen` yields a handle -/
  | open (handle : Bool)
  /-- the results of the four calls for the headers -/
  | header (ret₁ ret₂ ret₃ ret₄ : Int)
  | quitTest
  /-- the result and the data of the request to lock a frame, the data of the request for the
  newest serial, and the data of the requests to unlock a frame -/
  | body (ret : Bool) (data now unlock : AvData)
  | after
  /-- `Avi_stop` is called -/
  | aviStop
  /-- `processMsg_avi` handles `e_avi_enable`, `e_avi_TimeL` or `e_avi_schd` -/
  | aviEnable (iValue : Int)
  | aviTimeL (iValue : Int)
  | aviSchd (iValue : Nat)
deriving DecidableEq

/-! ### The parts of a step -/

/-- The exit `avi_save_exit_2` of the thread, which clears `g_rec_status`. -/
def aviSaveExit2 (r : Recorder) : Recorder :=
  { r with pc := .done, gRecStatus := 0, log := .return :: r.log }

/-- The exit `avi_save_exit_1` of the thread, which closes the file first. -/
def aviSaveExit1 (r : Recorder) : Recorder :=
  aviSaveExit2 { r with log := .close r.aviFile false :: r.log }

/-- `GetVideoInfo` has yielded the values, where it has; they are limited, and the space `needFree`
is computed from them. -/
def getVideoInfo (width height fps bps : Option Int) (r : Recorder) : Recorder :=
  let framerate := fps.getD r.framerate
  let framerate := if framerate < 8 then 9 else if framerate > 30 then 25 else framerate
  let bitsrate := bps.getD r.bitsrate
  let bitsrate := if bitsrate < 512 then 512 else if bitsrate > 4000 then 4000 else bitsrate
  { r with
    pc := .freeSpace
    width := width.getD r.width
    height := height.getD r.height
    framerate := framerate
    bitsrate := bitsrate
    needFree := (r.gRecTimeL * bitsrate * 2).tdiv 8 }

/-- `GMAVIOpen` has yielded a handle, for the next file: the number of its frames is computed, and
it is logged. -/
def gmaviOpen (r : Recorder) : Recorder :=
  let totelFrames := r.gRecTimeL * r.framerate
  { r with
    pc := .header
    aviFile := r.aviFile + 1
    totelFrames := totelFrames
    log := .open (r.aviFile + 1) totelFrames :: r.log }

/-- The request of the loop body for a frame; `false` where the body is left by one of the
two `continue`s behind it. -/
def lockFrame (ret : Bool) (data : AvData) (r : Recorder) : Recorder × Bool :=
  let r := { r with
    avData := data
    log := if ret then .lock data.serial :: r.log else r.log }
  if r.streamFlag ≠ 0 then ({ r with serialBook := data.serial, streamFlag := 0 }, true)
  else if r.serialBook > data.serial then (r, false)
  else ({ r with serialBook := data.serial }, decide (data.ptr ≠ 0))

/-- The test for lag, behind the request for a frame; `false` where the frame is dropped and the
body is left by `continue`. -/
def checkLag (ret : Bool) (now unlock : AvData) (r : Recorder) : Recorder × Bool :=
  if ret = true ∧ r.check ≥ 0 then
    if r.avData.iFrame = true ∧ r.check = 0 then
      let r := { r with avData := now, check := aviToCheck }
      if now.serial - r.serialBook > 25 then
        ({ r with avData := unlock, streamFlag := 1, log := .unlock r.serialBook :: r.log }, false)
      else (r, true)
    else ({ r with check := r.check - 1 }, true)
  else (r, true)

/-- If the request has succeeded, the frame is stored, and the one before it unlocked; otherwise a
new start is prepared. -/
def storeFrame (ret : Bool) (unlock : AvData) (r : Recorder) : Recorder :=
  if ret = true then
    let r := { r with
      recFrames := r.recFrames + 1
      log := .store r.aviFile r.serialBook r.avData :: r.log }
    let r :=
      if r.serialLock > 0 then { r with avData := unlock, log := .unlock r.serialLock :: r.log }
      else r
    { r with serialLock := r.serialBook, serialBook := r.serialBook + 1 }
  else { r with streamFlag := 1, serialBook := -1, check := aviToCheck }

/-- The test at the end of the loop body, whether the file is complete: then it is closed. -/
def finishFile (r : Recorder) : Recorder :=
  if r.recFrames ≥ r.totelFrames then
    { r with pc := .after, aviFinish := 1, log := .close r.aviFile true :: r.log }
  else { r with pc := .quitTest }

/-- The body of the inner loop: the request for a frame with the result `ret`, the test for lag, the
storing of the frame, and the test of the file. -/
def loopBody (ret : Bool) (data now unlock : AvData) (r : Recorder) : Recorder :=
  let (r, locked) := lockFrame ret data r
  if locked then
    let (r, timely) := checkLag ret now unlock r
    if timely then finishFile (storeFrame ret unlock r)
    else { r with pc := .quitTest }
  else { r with pc := .quitTest }

/-! ### The machine -/

/-- A step of the recorder `r` with a move; `none` when the recorder is somewhere else. -/
def step (r : Recorder) : Move → Option Recorder
  | .start getSdStatus checkSDCard =>
      if r.pc = .start then
        if getSdStatus = 0 ∧ checkSDCard < 0 then some (aviSaveExit2 r)
        else some { r with pc := .test, gRecStatus := 1 }
      else none
  | .test =>
      if r.pc = .test then
        if r.gRecEnable ≠ 0 then some { r with pc := .schedule }
        else some { r with pc := .done, gRecStatus := 0, log := .return :: r.log }
      else none
  | .schedule hour =>
      if r.pc = .schedule then
        if saveSchedule r.gRecSchdule hour then some { r with pc := .info }
        else some { r with pc := .test }
      else none
  | .info width height fps bps =>
      if r.pc = .info then some (getVideoInfo width height fps bps r) else none
  | .freeSpace free =>
      if r.pc = .freeSpace then
        if free < r.needFree then some { r with pc := .oldest }
        else some { r with pc := .open }
      else none
  | .oldest ret =>
      if r.pc = .oldest then
        -- without a directory the loop ends with too little space, and the thread exits
        if ret ≠ 0 then some { r with pc := .freeSpace, log := .delete :: r.log }
        else some (aviSaveExit2 r)
      else none
  | .open handle =>
      if r.pc = .open then
        if handle then some (gmaviOpen r) else some (aviSaveExit2 r)
      else none
  | .header ret₁ ret₂ ret₃ ret₄ =>
      if r.pc = .header then
        if ret₁ < 0 ∨ ret₂ < 0 ∨ ret₃ < 0 ∨ ret₄ < 0 then some (aviSaveExit1 r)
        else some { r with
          pc := .quitTest, streamFlag := 1, serialBook := -1, serialLock := 0,
          check := aviToCheck }
      else none
  | .quitTest =>
      if r.pc = .quitTest then
        if r.mQuit = 0 then some { r with pc := .body } else some { r with pc := .after }
      else none
  | .body ret data now unlock =>
      if r.pc = .body then some (loopBody ret data now unlock r) else none
  | .after =>
      if r.pc = .after then
        if r.aviFinish ≠ 1 then
          some { r with pc := .test, log := .close r.aviFile false :: r.log }
        else some { r with pc := .test }
      else none
  | .aviStop => some { r with mQuit := 1, log := .stop :: r.log }
  | .aviEnable iValue => some { r with gRecEnable := iValue }
  | .aviTimeL iValue => some { r with gRecTimeL := recTimeL iValue }
  | .aviSchd iValue => some { r with gRecSchdule := iValue }

/-- A thread that has just been created, with its variables as they are initialised; the flags are
whatever the other threads have made of them. -/
structure Started (r : Recorder) : Prop where
  pc : r.pc = .start
  framerate : r.framerate = 30
  recFrames : r.recFrames = 0
  aviFinish : r.aviFinish = 0
  aviFile : r.aviFile = 0
  timeL : ∃ iValue, r.gRecTimeL = recTimeL iValue
  quit : (r.mQuit = 0 ∧ r.log = []) ∨ (r.mQuit = 1 ∧ r.log = [.stop])

/-- A thread as it is created while recording is enabled at every hour, with files of one minute. -/
def newRecorder : Recorder where
  pc := .start
  gRecEnable := 1
  gRecSchdule := 0xffffff
  gRecStatus := 0
  gRecTimeL := recTimeL 1
  mQuit := 0
  width := 1280
  height := 720
  framerate := 30
  bitsrate := 3 * 1024 * 1024
  needFree := 0
  totelFrames := 0
  recFrames := 0
  aviFile := 0
  aviFinish := 0
  avData := ⟨0, 0, false, 0⟩
  streamFlag := 0
  serialBook := 0
  serialLock := 0
  check := 0
  log := []

theorem newRecorder_started : Started newRecorder :=
  ⟨rfl, rfl, rfl, rfl, rfl, ⟨1, rfl⟩, Or.inl ⟨rfl, rfl⟩⟩

/-- The moves from the test of the outer loop to the loop of the next file, with 8 frames a second
and room on the card. -/
def nextFile : List Move :=
  [.test, .schedule 12, .info none none (some 8) none, .freeSpace 100000, .open true,
    .header 0 0 0 0]

/-- The moves from the creation of the thread to the loop of the first file: the check of the card,
and then `nextFile`. -/
def openFile : List Move := .start 1 0 :: nextFile

/-- A pass of the loop body that locks the frame with the given `serial`, which is no intra
frame. -/
def recordFrame (serial : Int) : Move :=
  .body true ⟨1, 1, false, serial⟩ ⟨0, 0, false, 0⟩ ⟨0, 0, false, 0⟩

/-- The moves of `n` passes of the loop, each of which stores a frame. -/
def recordFrames (n : Nat) : List Move :=
  (List.range n).flatMap fun i : Nat => [.quitTest, recordFrame (i + 1)]

/-! ### What a step can do -/

/-- The calls of the move succeed: the check of the card, the search for a directory to delete, the
opening of the file and the headers. -/
def Succeeds : Move → Prop
  | .start getSdStatus checkSDCard => getSdStatus = 0 → 0 ≤ checkSDCard
  | .oldest ret => ret ≠ 0
  | .open handle => handle = true
  | .header ret₁ ret₂ ret₃ ret₄ => 0 ≤ ret₁ ∧ 0 ≤ ret₂ ∧ 0 ≤ ret₃ ∧ 0 ≤ ret₄
  | _ => True

instance (mv : Move) : Decidable (Succeeds mv) := by
  unfold Succeeds
  split
  all_goals infer_instance

/-- The places at which the next file is prepared, between a passed test of the schedule and
`GMAVIOpen`. -/
def Pc.preparing : Pc → Bool
  | .info | .freeSpace | .oldest | .open => true
  | _ => false

/-- The places at which a file is open and being recorded. -/
def Pc.recording : Pc → Bool
  | .header | .quitTest | .body => true
  | _ => false

/-- The recorder may walk from the one place to the other without anything that concerns a file:
from the check of the card to the tests of the outer loop, from one of these to the other, and from
the test of the space to what comes behind it. -/
def Pc.walks : Pc → Pc → Bool
  | .start, .test | .test, .schedule | .schedule, .test => true
  | .freeSpace, .oldest | .freeSpace, .open => true
  | _, _ => false

/-- Walking from `pc` to `pc'` neither begins nor ends at a place where a file is open, it does not
pass the test of the schedule, and it does not end the thread. -/
theorem Pc.walks_outside :
  ∀ {pc pc' : Pc}, pc.walks pc' → pc.recording = false ∧ pc ≠ .after ∧ pc'.recording = false
    ∧ pc' ≠ .after ∧ (pc'.preparing → pc.preparing) ∧ pc' ≠ .done
  := by
  intro pc pc'
  cases pc
  all_goals
    cases pc'
    all_goals decide

/-- What a step does: the recorder returns, walks on towards the next file, prepares it, opens
it, writes its headers, records, and closes it; or another thread writes a flag.  The recorder
returns only where a call has failed or recording is disabled, and it raises `g_rec_status` with its
first step. -/
inductive Stepped (r : Recorder) : Move → Recorder → Prop where
  | exit {mv : Move} (hpc : r.pc.recording = false) (hafter : r.pc ≠ .after)
      (hcause : Succeeds mv → r.gRecEnable = 0) :
      Stepped r mv (aviSaveExit2 r)
  | walk {mv : Move} (pc : Pc) (gRecStatus : Int) (hwalks : r.pc.walks pc)
      (hstatus : gRecStatus = if r.pc = .start then 1 else r.gRecStatus) :
      Stepped r mv { r with pc := pc, gRecStatus := gRecStatus }
  | scheduled {hour : Nat} (hpc : r.pc = .schedule) (hsch : saveSchedule r.gRecSchdule hour) :
      Stepped r (.schedule hour) { r with pc := .info }
  | info {width height fps bps : Option Int} (hpc : r.pc = .info) :
      Stepped r (.info width height fps bps) (getVideoInfo width height fps bps r)
  | delete {ret : Int} (hpc : r.pc = .oldest) :
      Stepped r (.oldest ret) { r with pc := .freeSpace, log := .delete :: r.log }
  | opened (hpc : r.pc = .open) : Stepped r (.open true) (gmaviOpen r)
  | headerError {ret₁ ret₂ ret₃ ret₄ : Int} (hpc : r.pc = .header)
      (hfail : ¬ Succeeds (.header ret₁ ret₂ ret₃ ret₄)) :
      Stepped r (.header ret₁ ret₂ ret₃ ret₄) (aviSaveExit1 r)
  | headers {ret₁ ret₂ ret₃ ret₄ : Int} (hpc : r.pc = .header) :
      Stepped r (.header ret₁ ret₂ ret₃ ret₄) { r with
        pc := .quitTest, streamFlag := 1, serialBook := -1, serialLock := 0,
        check := aviToCheck }
  | goOn (hpc : r.pc = .quitTest) (hquit : r.mQuit = 0) : Stepped r .quitTest { r with pc := .body }
  | quit (hpc : r.pc = .quitTest) (hquit : r.mQuit ≠ 0) :
      Stepped r .quitTest { r with pc := .after }
  | body {ret : Bool} {data now unlock : AvData} (hpc : r.pc = .body) :
      Stepped r (.body ret data now unlock) (loopBody ret data now unlock r)
  | close (hpc : r.pc = .after) (hfinish : r.aviFinish ≠ 1) :
      Stepped r .after { r with pc := .test, log := .close r.aviFile false :: r.log }
  | closed (hpc : r.pc = .after) (hfinish : r.aviFinish = 1) :
      Stepped r .after { r with pc := .test }
  | aviStop : Stepped r .aviStop { r with mQuit := 1, log := .stop :: r.log }
  | aviEnable {iValue : Int} : Stepped r (.aviEnable iValue) { r with gRecEnable := iValue }
  | aviTimeL {iValue : Int} : Stepped r (.aviTimeL iValue) { r with gRecTimeL := recTimeL iValue }
  | aviSchd {iValue : Nat} : Stepped r (.aviSchd iValue) { r with gRecSchdule := iValue }

section

variable {r r' : Recorder} {mv : Move} {pc pc' : Pc}

/-- A recorder that returns from a place `pc` where no file is open has `Stepped`; if its calls
succeed, recording is disabled. -/
theorem Stepped.exit_at
    (hpc : r.pc = pc) (hrecording : pc.recording = false) (hafter : pc ≠ .after)
    (hcause : Succeeds mv → r.gRecEnable = 0) :
  Stepped r mv (aviSaveExit2 r)
  := by
  subst hpc
  apply Stepped.exit hrecording hafter hcause

/-- A recorder that walks on from a place `pc` behind its first, and leaves `g_rec_status` alone,
has `Stepped`. -/
theorem Stepped.walk_at (hpc : r.pc = pc) (hwalks : pc.walks pc') (hstart : pc ≠ .start) :
  Stepped r mv { r with pc := pc' }
  := by
  subst hpc
  apply Stepped.walk pc' r.gRecStatus hwalks
  rw [if_neg hstart]

/-- Every step is one of those of `Stepped`: the guard of a move says where the recorder is, and the
rest of the step is one of the cases for this place. -/
theorem stepped_of_step (h : step r mv = some r') : Stepped r mv r' := by
  cases mv with
  | start getSdStatus checkSDCard =>
      obtain ⟨hpc, h⟩ := Option.ite_none_right_eq_some.mp h
      split at h
      · next hfail =>
          obtain rfl := Option.some.inj h
          apply Stepped.exit_at hpc rfl nofun
          intro hsucc
          have hcheck := hsucc hfail.1
          omega
      · obtain rfl := Option.some.inj h
        apply Stepped.walk .test 1
        · rw [hpc]
          rfl
        · rw [if_pos hpc]
  | test =>
      obtain ⟨hpc, h⟩ := Option.ite_none_right_eq_some.mp h
      split at h
      · obtain rfl := Option.some.inj h
        apply Stepped.walk_at hpc rfl nofun
      · next henable =>
          obtain rfl := Option.some.inj h
          apply Stepped.exit_at hpc rfl nofun fun _ => not_not.mp henable
  | schedule hour =>
      obtain ⟨hpc, h⟩ := Option.ite_none_right_eq_some.mp h
      split at h
      · next hsch =>
          obtain rfl := Option.some.inj h
          apply Stepped.scheduled hpc hsch
      · obtain rfl := Option.some.inj h
        apply Stepped.walk_at hpc rfl nofun
  | info width height fps bps =>
      obtain ⟨hpc, h⟩ := Option.ite_none_right_eq_some.mp h
      obtain rfl := Option.some.inj h
      apply Stepped.info hpc
  | freeSpace free =>
      obtain ⟨hpc, h⟩ := Option.ite_none_right_eq_some.mp h
      split at h
      all_goals
        obtain rfl := Option.some.inj h
        apply Stepped.walk_at hpc rfl nofun
  | oldest ret =>
      obtain ⟨hpc, h⟩ := Option.ite_none_right_eq_some.mp h
      split at h
      · obtain rfl := Option.some.inj h
        apply Stepped.delete hpc
      · next hret =>
          obtain rfl := Option.some.inj h
          apply Stepped.exit_at hpc rfl nofun
          intro hsucc
          exact absurd hsucc hret
  | «open» handle =>
      obtain ⟨hpc, h⟩ := Option.ite_none_right_eq_some.mp h
      split at h
      · next hhandle =>
          obtain rfl := Option.some.inj h
          rw [hhandle]
          apply Stepped.opened hpc
      · next hhandle =>
          obtain rfl := Option.some.inj h
          apply Stepped.exit_at hpc rfl nofun
          intro hsucc
          exact absurd hsucc hhandle
  | header ret₁ ret₂ ret₃ ret₄ =>
      obtain ⟨hpc, h⟩ := Option.ite_none_right_eq_some.mp h
      split at h
      · next hfail =>
          obtain rfl := Option.some.inj h
          apply Stepped.headerError hpc
          intro hsucc
          simp only [Succeeds] at hsucc
          omega
      · obtain rfl := Option.some.inj h
        apply Stepped.headers hpc
  | quitTest =>
      obtain ⟨hpc, h⟩ := Option.ite_none_right_eq_some.mp h
      split at h
      · next hquit =>
          obtain rfl := Option.some.inj h
          apply Stepped.goOn hpc hquit
      · next hquit =>
          obtain rfl := Option.some.inj h
          apply Stepped.quit hpc hquit
  | body ret data now unlock =>
      obtain ⟨hpc, h⟩ := Option.ite_none_right_eq_some.mp h
      obtain rfl := Option.some.inj h
      apply Stepped.body hpc
  | after =>
      obtain ⟨hpc, h⟩ := Option.ite_none_right_eq_some.mp h
      split at h
      · next hfinish =>
          obtain rfl := Option.some.inj h
          apply Stepped.close hpc hfinish
      · next hfinish =>
          obtain rfl := Option.some.inj h
          apply Stepped.closed hpc (not_not.mp hfinish)
  | aviStop =>
      obtain rfl := Option.some.inj h
      apply Stepped.aviStop
  | aviEnable iValue =>
      obtain rfl := Option.some.inj h
      apply Stepped.aviEnable
  | aviTimeL iValue =>
      obtain rfl := Option.some.inj h
      apply Stepped.aviTimeL
  | aviSchd iValue =>
      obtain rfl := Option.some.inj h
      apply Stepped.aviSchd

end

/-! ### What the loop body can do -/

/-- The loop body is left right after its request: the stream has no frame as new as the one asked
for, or no `data`. -/
def overtaken (data : AvData) (r : Recorder) : Prop :=
  r.streamFlag = 0 ∧ (r.serialBook > data.serial ∨ data.ptr = 0)

/-- The loop body drops the intra frame `data` that it has locked, because the newest one, `now`, is
more than 25 ahead of it. -/
def lagging (ret : Bool) (data now : AvData) (r : Recorder) : Prop :=
  ret = true ∧ data.iFrame = true ∧ r.check = 0 ∧ now.serial - data.serial > 25

instance (data : AvData) (r : Recorder) : Decidable (overtaken data r) := by
  unfold overtaken
  infer_instance

instance (ret : Bool) (data now : AvData) (r : Recorder) :
    Decidable (lagging ret data now r) := by
  unfold lagging
  infer_instance

/-- The fields that the loop body leaves alone until the file is complete are the same in `r` and
`r'`. -/
structure SameFile (r r' : Recorder) : Prop where
  pc : r'.pc = r.pc
  gRecTimeL : r'.gRecTimeL = r.gRecTimeL
  mQuit : r'.mQuit = r.mQuit
  framerate : r'.framerate = r.framerate
  totelFrames : r'.totelFrames = r.totelFrames
  aviFile : r'.aviFile = r.aviFile
  aviFinish : r'.aviFinish = r.aviFinish

theorem SameFile.trans
    {r r' r'' : Recorder} (h : SameFile r r') (h' : SameFile r' r'') :
  SameFile r r''
  := ⟨h'.pc.trans h.pc, h'.gRecTimeL.trans h.gRecTimeL, h'.mQuit.trans h.mQuit,
    h'.framerate.trans h.framerate, h'.totelFrames.trans h.totelFrames,
    h'.aviFile.trans h.aviFile, h'.aviFinish.trans h.aviFinish⟩

variable {r : Recorder} {ret : Bool} {data now unlock : AvData}

/-- The `log` after the request of the loop body, which locks a frame if its result is `ret`. -/
def lockLog (ret : Bool) (data : AvData) (log : List Event) : List Event :=
  if ret then .lock data.serial :: log else log

/-- A request that is `overtaken` ends the pass; it leaves the file, the counter and the lock alone,
and its log is `lockLog`. -/
theorem lockFrame_overtaken (ret : Bool) (h : overtaken data r) :
  ∃ r₁, lockFrame ret data r = (r₁, false) ∧ SameFile r r₁ ∧ r₁.recFrames = r.recFrames
    ∧ r₁.serialLock = r.serialLock ∧ r₁.log = lockLog ret data r.log
  := by
  obtain ⟨hflag, hover⟩ := h
  unfold lockFrame
  simp only [hflag, ne_eq, not_true, if_false]
  split
  · exact ⟨_, rfl, ⟨rfl, rfl, rfl, rfl, rfl, rfl, rfl⟩, rfl, rfl, rfl⟩
  · next hserial =>
      have hptr : data.ptr = 0 := hover.resolve_left hserial
      simp only [hptr, not_true, decide_false]
      exact ⟨_, rfl, ⟨rfl, rfl, rfl, rfl, rfl, rfl, rfl⟩, rfl, rfl, rfl⟩

/-- A request that is not overtaken takes note of the serial of the frame in `serialBook`, and of
its data. -/
theorem lockFrame_passed (ret : Bool) (h : ¬ overtaken data r) :
  ∃ r₁, lockFrame ret data r = (r₁, true) ∧ SameFile r r₁ ∧ r₁.recFrames = r.recFrames
    ∧ r₁.serialLock = r.serialLock ∧ r₁.log = lockLog ret data r.log
    ∧ r₁.avData = data ∧ r₁.serialBook = data.serial ∧ r₁.check = r.check
  := by
  unfold lockFrame
  simp only [ne_eq]
  split
  · exact ⟨_, rfl, ⟨rfl, rfl, rfl, rfl, rfl, rfl, rfl⟩, rfl, rfl, rfl, rfl, rfl, rfl⟩
  · next hflag =>
      obtain ⟨hserial, hptr⟩ := not_or.mp (fun hcon => h ⟨not_not.mp hflag, hcon⟩)
      simp only [hserial, if_false, hptr, not_false_eq_true, decide_true]
      exact ⟨_, rfl, ⟨rfl, rfl, rfl, rfl, rfl, rfl, rfl⟩, rfl, rfl, rfl, rfl, rfl, rfl⟩

/-- The body left by one of the first two `continue`s, where the request is `overtaken`: a frame
that was locked stays so. -/
theorem loopBody_overtaken (ret : Bool) (now unlock : AvData) (h : overtaken data r) :
  ∃ r₁, loopBody ret data now unlock r = { r₁ with pc := .quitTest } ∧ SameFile r r₁
    ∧ r₁.recFrames = r.recFrames ∧ r₁.serialLock = r.serialLock
    ∧ r₁.log = lockLog ret data r.log
  := by
  obtain ⟨r₁, hlock, hfields⟩ := lockFrame_overtaken ret h
  refine ⟨r₁, ?_, hfields⟩
  simp only [loopBody, hlock, Bool.false_eq_true, if_false]

/-- A frame that is `lagging` is unlocked and dropped by `checkLag`. -/
theorem checkLag_lagging (unlock : AvData) (hlag : lagging ret data now r) {r₁ : Recorder}
    (hdata : r₁.avData = data) (hbook : r₁.serialBook = data.serial) (hcheck : r₁.check = r.check) :
  ∃ r₂, checkLag ret now unlock r₁ = (r₂, false) ∧ SameFile r₁ r₂ ∧ r₂.recFrames = r₁.recFrames
    ∧ r₂.serialLock = r₁.serialLock ∧ r₂.log = .unlock data.serial :: r₁.log
  := by
  obtain ⟨rfl, hI, hzero, hserial⟩ := hlag
  simp only [checkLag, hdata, hI, hcheck, hzero, hbook, hserial, if_true, and_self, ge_iff_le,
    Int.le_refl]
  exact ⟨_, rfl, ⟨rfl, rfl, rfl, rfl, rfl, rfl, rfl⟩, rfl, rfl, rfl⟩

/-- The body left by the last `continue`, where the frame is `lagging`: the frame that was locked is
unlocked. -/
theorem loopBody_lagging (unlock : AvData) (h : ¬ overtaken data r) (hlag : lagging ret data now r) :
  ∃ r₁, loopBody ret data now unlock r = { r₁ with pc := .quitTest } ∧ SameFile r r₁
    ∧ r₁.recFrames = r.recFrames ∧ r₁.serialLock = r.serialLock
    ∧ r₁.log = .unlock data.serial :: .lock data.serial :: r.log
  := by
  obtain ⟨r₁, hlock, hsame, hrec, hsl, hlog, hdata, hbook, hcheck⟩ :=
    lockFrame_passed ret h
  obtain ⟨r₂, hlagging, hsame', hrec', hsl', hlog'⟩ :=
    checkLag_lagging unlock hlag hdata hbook hcheck
  refine ⟨r₂, ?_, hsame.trans hsame', hrec'.trans hrec, hsl'.trans hsl, ?_⟩
  · simp only [loopBody, hlock, hlagging, if_true, Bool.false_eq_true, if_false]
  · rw [hlog', hlog, lockLog, if_pos hlag.1]

/-- A frame that is not `lagging` passes `checkLag`, which changes neither the file nor the log, and
goes on to be stored. -/
theorem checkLag_timely (unlock : AvData) (hlag : ¬ lagging ret data now r) {r₁ : Recorder}
    (hdata : r₁.avData = data) (hbook : r₁.serialBook = data.serial) (hcheck : r₁.check = r.check) :
  ∃ r₂, checkLag ret now unlock r₁ = (r₂, true) ∧ SameFile r₁ r₂ ∧ r₂.recFrames = r₁.recFrames
    ∧ r₂.serialLock = r₁.serialLock ∧ r₂.serialBook = r₁.serialBook ∧ r₂.log = r₁.log
  := by
  unfold checkLag
  split
  · next hret =>
      split
      · next hI =>
          have hserial : ¬ now.serial - r₁.serialBook > 25 := by
            rw [hbook]
            intro hcon
            apply hlag
            rw [hdata, hcheck] at hI
            use hret.1, hI.1, hI.2, hcon
          simp only [hserial, if_false]
          exact ⟨_, rfl, ⟨rfl, rfl, rfl, rfl, rfl, rfl, rfl⟩, rfl, rfl, rfl, rfl⟩
      · exact ⟨_, rfl, ⟨rfl, rfl, rfl, rfl, rfl, rfl, rfl⟩, rfl, rfl, rfl, rfl⟩
  · exact ⟨_, rfl, ⟨rfl, rfl, rfl, rfl, rfl, rfl, rfl⟩, rfl, rfl, rfl, rfl⟩

/-- What is logged when the frame before the one stored is unlocked, by its serial in `serialLock`,
if there is one. -/
def unlockPrevious (serialLock : Int) : List Event :=
  if serialLock > 0 then [.unlock serialLock] else []

/-- A frame is stored by `storeFrame`: it stays locked, and the one before it, if there is one, is
unlocked. -/
theorem storeFrame_stored (unlock : AvData) (r : Recorder) :
  ∃ r₁, storeFrame true unlock r = r₁ ∧ SameFile r r₁ ∧ r₁.recFrames = r.recFrames + 1
    ∧ r₁.serialLock = r.serialBook
    ∧ r₁.log = unlockPrevious r.serialLock
      ++ .store r.aviFile r.serialBook r.avData :: r.log
  := by
  simp only [storeFrame, if_true, unlockPrevious]
  split
  · exact ⟨_, rfl, ⟨rfl, rfl, rfl, rfl, rfl, rfl, rfl⟩, rfl, rfl, rfl⟩
  · exact ⟨_, rfl, ⟨rfl, rfl, rfl, rfl, rfl, rfl, rfl⟩, rfl, rfl, rfl⟩

/-- The body with a frame that is stored, where the request is neither `overtaken` nor `lagging`, up
to the test of the file. -/
theorem loopBody_stored (unlock : AvData) (h : ¬ overtaken data r) (hlag : ¬ lagging true data now r) :
  ∃ r₁ d, loopBody true data now unlock r = finishFile r₁ ∧ SameFile r r₁
    ∧ r₁.recFrames = r.recFrames + 1 ∧ r₁.serialLock = data.serial
    ∧ r₁.log = unlockPrevious r.serialLock
      ++ .store r.aviFile data.serial d :: .lock data.serial :: r.log
  := by
  obtain ⟨r₁, hlock, hsame, hrec, hsl, hlog, hdata, hbook, hcheck⟩ :=
    lockFrame_passed true h
  obtain ⟨r₂, htimely, hsame', hrec', hsl', hbook', hlog'⟩ :=
    checkLag_timely unlock hlag hdata hbook hcheck
  obtain ⟨r₃, hstore, hsame'', hrec'', hsl'', hlog''⟩ := storeFrame_stored unlock r₂
  simp only [loopBody, hlock, htimely, if_true, hstore]
  refine ⟨r₃, r₂.avData, rfl, ?_, ?_, ?_, ?_⟩
  · apply (hsame.trans hsame').trans hsame''
  · rw [hrec'', hrec', hrec]
  · rw [hsl'', hbook', hbook]
  · rw [hlog'', hsl', hsl, hsame'.aviFile, hsame.aviFile, hbook', hbook, hlog', hlog]
    rfl

/-- The body with a request that fails: nothing is locked or stored, and the test of the file
follows. -/
theorem loopBody_failed (now unlock : AvData) (h : ¬ overtaken data r) :
  ∃ r₁, loopBody false data now unlock r = finishFile r₁ ∧ SameFile r r₁
    ∧ r₁.recFrames = r.recFrames ∧ r₁.serialLock = r.serialLock ∧ r₁.log = r.log
  := by
  obtain ⟨r₁, hlock, hsame, hrec, hsl, hlog, -⟩ := lockFrame_passed false h
  simp only [loopBody, hlock, checkLag, Bool.false_eq_true, false_and, if_false, if_true,
    storeFrame]
  refine ⟨_, rfl, ?_, hrec, hsl, hlog⟩
  exact ⟨hsame.pc, hsame.gRecTimeL, hsame.mQuit, hsame.framerate, hsame.totelFrames,
    hsame.aviFile, hsame.aviFinish⟩

/-- The event is a request to lock or to unlock a frame. -/
def Event.locking : Event → Bool
  | .lock _ | .unlock _ => true
  | _ => false

theorem locking_lockLog {ev : Event} (hev : ev ∈ lockLog ret data []) : ev.locking := by
  cases ret with
  | false => contradiction
  | true =>
      obtain rfl := List.mem_singleton.mp hev
      rfl

theorem locking_unlockPrevious
    {serialLock : Int} {ev : Event} (hev : ev ∈ unlockPrevious serialLock) :
  ev.locking
  := by
  unfold unlockPrevious at hev
  split at hev
  · obtain rfl := List.mem_singleton.mp hev
    rfl
  · contradiction

/-- What the loop body does to the file: it goes round without a frame, fails to get one, or stores
one. -/
inductive BodyStepped (r : Recorder) : Recorder → Prop where
  | again {r₁ : Recorder} {evs : List Event} (hsame : SameFile r r₁)
      (hrec : r₁.recFrames = r.recFrames) (hlog : r₁.log = evs ++ r.log)
      (hevs : ∀ ev ∈ evs, ev.locking) : BodyStepped r { r₁ with pc := .quitTest }
  | failed {r₁ : Recorder} (hsame : SameFile r r₁) (hrec : r₁.recFrames = r.recFrames)
      (hlog : r₁.log = r.log) : BodyStepped r (finishFile r₁)
  | stored {r₁ : Recorder} {evs evs' : List Event} {serialBook : Int} {d : AvData}
      (hsame : SameFile r r₁) (hrec : r₁.recFrames = r.recFrames + 1)
      (hlog : r₁.log = evs' ++ .store r.aviFile serialBook d :: (evs ++ r.log))
      (hevs : ∀ ev ∈ evs, ev.locking) (hevs' : ∀ ev ∈ evs', ev.locking) :
      BodyStepped r (finishFile r₁)

/-- Every pass of the loop body is one of those of `BodyStepped`, whatever the results of its
calls. -/
theorem bodyStepped_loopBody (ret : Bool) (data now unlock : AvData) (r : Recorder) :
  BodyStepped r (loopBody ret data now unlock r)
  := by
  by_cases hover : overtaken data r
  · obtain ⟨r₁, hbody, hsame, hrec, -, hlog⟩ :=
      loopBody_overtaken ret now unlock hover
    rw [hbody]
    refine @BodyStepped.again r r₁ (lockLog ret data []) hsame hrec ?_ ?_
    · rw [hlog]
      cases ret
      all_goals rfl
    · apply locking_lockLog
  · cases ret with
    | false =>
        obtain ⟨r₁, hbody, hsame, hrec, -, hlog⟩ :=
          loopBody_failed now unlock hover
        rw [hbody]
        apply BodyStepped.failed hsame hrec hlog
    | true =>
        by_cases hlag : lagging true data now r
        · obtain ⟨r₁, hbody, hsame, hrec, -, hlog⟩ :=
            loopBody_lagging unlock hover hlag
          rw [hbody]
          refine @BodyStepped.again r r₁ [.unlock data.serial, .lock data.serial] hsame hrec hlog ?_
          simp [Event.locking]
        · obtain ⟨r₁, d, hbody, hsame, hrec, -, hlog⟩ :=
            loopBody_stored unlock hover hlag
          rw [hbody]
          refine @BodyStepped.stored r r₁ [.lock data.serial] _ _ _ hsame hrec hlog ?_ ?_
          · simp [Event.locking]
          · apply locking_unlockPrevious

end AviSave
