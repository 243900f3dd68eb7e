import Avserver.AviSave.Recorder

/-!
# The files that the recorder opens and closes

The recorder has three places at which it closes a file: where the file is complete, behind the
loop unless `avi_finish` says that this has been done, and at the exit for an error in the
headers.  The flag `avi_finish` is never taken back, so that the second place is right only for
as long as no file has been completed; this is the condition `Closing`.

The second half is about `m_Quit`, which only the inner loop tests: after `Avi_stop` the
recorder comes round to the outer loop, and what keeps it from the next file there is the
schedule alone, which is the condition `OffSchedule`.
-/

namespace AviSave

open Library

/-- What an event does to the handles of the recorder: it opens one, closes one, or none may be open
when the thread returns. -/
def fileAction : Event → Action Nat
  | .open file _ => .acquire file
  | .close file _ => .release file
  | .return => .clear
  | _ => .other

/-- At most one handle is open at a time, only what is open is closed, nothing is open when the
thread returns; and whenever a file is opened or the thread returns, every handle that was opened
before has been closed exactly once. -/
def FilesClosed (log : List Event) : Prop :=
  Bracketed fileAction 1 log ∧
    ∀ late ev early, log = late ++ ev :: early →
      (fileAction ev = .clear ∨ ∃ file, fileAction ev = .acquire file) →
      ∀ file totelFrames, .open file totelFrames ∈ early →
        early.countP (fun ev => fileAction ev = .release file) = 1

/-- The loop of the recorder is quit by the move only while no file has been completed: `avi_finish`
is not 1. -/
def Closing (r : Recorder) : Move → Prop
  | .quitTest => r.mQuit ≠ 0 → r.aviFinish ≠ 1
  | _ => True

instance (r : Recorder) (mv : Move) : Decidable (Closing r mv) := by
  unfold Closing
  split
  all_goals infer_instance

/-- The handles that are open between two steps: the one of `avi_file`, while it is recorded
and, if it has not been completed, behind the loop. -/
def openFiles (r : Recorder) : List Nat :=
  if r.pc.recording ∨ (r.pc = .after ∧ r.aviFinish ≠ 1) then [r.aviFile] else []

/-- The handles that are open after the log of `r` are the ones that the recorder knows of, and they
are numbered in their order. -/
structure FileInvariant (r : Recorder) : Prop where
  bracketed : Bracketed fileAction 1 r.log
  held : held fileAction r.log = openFiles r
  numbered : ∀ file totelFrames, .open file totelFrames ∈ r.log → file ≤ r.aviFile
  once : ∀ file, r.log.countP (fun ev => fileAction ev = .acquire file) ≤ 1

theorem openFiles_recording {r : Recorder} (h : r.pc.recording) :
  openFiles r = [r.aviFile]
  := if_pos (Or.inl h)

theorem openFiles_outside
    {r : Recorder} (h : r.pc.recording = false) (h' : r.pc ≠ .after) :
  openFiles r = []
  := if_neg (by simp [h, h'])

/-- Of a recorder with the `FileInvariant`, the log shows every file closed: each one that was opened
is closed before another is opened, and before the thread returns. -/
theorem FileInvariant.filesClosed
    {r : Recorder} (h : FileInvariant r) :
  FilesClosed r.log
  := by
  use h.bracketed
  rintro late ev early heq hev file totelFrames hopen
  have hbr := h.bracketed
  rw [heq] at hbr
  have hnil : Library.held fileAction early = [] := by
    obtain hclear | ⟨_, hacquire⟩ := hev
    · apply hbr.held_of_clear hclear
    · apply hbr.held_of_acquire hacquire
  rw [← hbr.of_append.2.count_of_held_nil hnil]
  apply Nat.le_antisymm
  · apply Nat.le_trans _ (h.once file)
    rw [heq]
    apply List.Sublist.countP_le
    apply (List.sublist_cons_self ev early).trans
    apply List.sublist_append_right
  · apply List.countP_pos_iff.mpr
    use .open file totelFrames, hopen
    simp [fileAction]

/-! ### One step -/

variable {r r' : Recorder} {mv : Move}

/-- A step whose events `evs` leave the handles alone keeps the invariant on them. -/
theorem FileInvariant.quiet
    (h : FileInvariant r) (evs : List Event) (hlog : r'.log = evs ++ r.log)
    (hevs : ∀ ev ∈ evs, fileAction ev = .other) (hfile : r'.aviFile = r.aviFile)
    (hfiles : openFiles r' = openFiles r) :
  FileInvariant r'
  := by
  have hlogs : Bracketed fileAction 1 (evs ++ r.log)
      ∧ Library.held fileAction (evs ++ r.log) = Library.held fileAction r.log
      ∧ (∀ file totelFrames, .open file totelFrames ∈ evs ++ r.log →
        .open file totelFrames ∈ r.log)
      ∧ ∀ file, (evs ++ r.log).countP (fun ev => fileAction ev = .acquire file)
        = r.log.countP (fun ev => fileAction ev = .acquire file) := by
    clear hlog
    induction evs with
    | nil => use h.bracketed, rfl, fun _ _ hmem => hmem, fun _ => rfl
    | cons ev evs ih =>
        obtain ⟨hbr, hheld, hmem, hcount⟩ := ih (fun ev' hev' => hevs ev' (.tail _ hev'))
        have hev : fileAction ev = .other := hevs ev (.head _)
        refine ⟨hbr.other hev, ?_, ?_, ?_⟩
        · rw [List.cons_append, held_other hev, hheld]
        · intro file totelFrames hopen
          obtain heq | hopen := List.mem_cons.mp hopen
          · rw [← heq] at hev
            contradiction
          · apply hmem file totelFrames hopen
        · intro file
          rw [List.cons_append, List.countP_cons, hev, hcount]
          simp
  obtain ⟨hbr, hheld, hmem, hcount⟩ := hlogs
  constructor
  · rw [hlog]
    apply hbr
  · rw [hlog, hheld, h.held, hfiles]
  · intro file totelFrames hopen
    rw [hlog] at hopen
    rw [hfile]
    apply h.numbered file totelFrames (hmem file totelFrames hopen)
  · intro file
    rw [hlog, hcount]
    apply h.once

/-- A step without an event keeps the invariant on the handles. -/
theorem FileInvariant.silent
    (h : FileInvariant r) (hlog : r'.log = r.log) (hfile : r'.aviFile = r.aviFile)
    (hfiles : openFiles r' = openFiles r) :
  FileInvariant r'
  := h.quiet [] hlog (by simp) hfile hfiles

/-- A step in which the recorder closes its file keeps the invariant on the handles. -/
theorem FileInvariant.closing
    (h : FileInvariant r) {complete : Bool} (hlog : r'.log = .close r.aviFile complete :: r.log)
    (hfile : r'.aviFile = r.aviFile) (hfiles : openFiles r = [r.aviFile])
    (hfiles' : openFiles r' = []) :
  FileInvariant r'
  := by
  have hclose : fileAction (.close r.aviFile complete) = .release r.aviFile := rfl
  have hheld := h.held.trans hfiles
  constructor
  · rw [hlog]
    apply h.bracketed.release hclose
    simp [hheld]
  · rw [hlog, held_release hclose, hheld, hfiles', List.erase_cons_head]
  · intro file totelFrames hopen
    rw [hlog] at hopen
    rw [hfile]
    apply h.numbered file totelFrames (by simpa using hopen)
  · intro file
    rw [hlog, List.countP_cons, hclose]
    simpa using h.once file

/-- A step in which the thread returns, while no file is open, keeps the invariant on the
handles. -/
theorem FileInvariant.returning
    (h : FileInvariant r) (hlog : r'.log = .return :: r.log) (hfile : r'.aviFile = r.aviFile)
    (hfiles : openFiles r = []) (hfiles' : openFiles r' = []) :
  FileInvariant r'
  := by
  have hnil := h.held.trans hfiles
  constructor
  · rw [hlog]
    apply h.bracketed.clear rfl hnil
  · rw [hlog, held_clear rfl, hnil, hfiles']
  · intro file totelFrames hopen
    rw [hlog] at hopen
    rw [hfile]
    apply h.numbered file totelFrames (by simpa using hopen)
  · intro file
    rw [hlog, List.countP_cons]
    simpa [fileAction] using h.once file

/-- If no file is open, the next one may be opened by `gmaviOpen`: the invariant on the handles is
kept. -/
theorem FileInvariant.opened
    (h : FileInvariant r) (hfiles : openFiles r = []) :
  FileInvariant (gmaviOpen r)
  := by
  have hnil := h.held.trans hfiles
  have hopen : fileAction (.open (r.aviFile + 1) (r.gRecTimeL * r.framerate))
      = .acquire (r.aviFile + 1) := rfl
  constructor
  · apply h.bracketed.acquire hopen
    simp [hnil]
  · simp only [gmaviOpen]
    rw [held_acquire hopen, hnil]
    rfl
  · intro file totelFrames hmem
    obtain heq | hmem := List.mem_cons.mp hmem
    · cases heq
      apply Nat.le_refl
    · apply Nat.le_succ_of_le (h.numbered file totelFrames hmem)
  · intro file
    simp only [gmaviOpen, List.countP_cons, hopen]
    by_cases heq : r.aviFile + 1 = file
    · -- no file has had this number before
      have hzero : r.log.countP (fun ev => fileAction ev = .acquire file) = 0 := by
        rw [List.countP_eq_zero]
        intro ev hmem hev
        cases ev with
        | «open» file' totelFrames =>
            obtain rfl := Action.acquire.inj (of_decide_eq_true hev)
            have hle := h.numbered _ _ hmem
            omega
        | _ => simp [fileAction] at hev
      simp [hzero, heq]
    · simpa [heq] using h.once file

/-- The end of the loop body, `finishFile`, keeps the invariant on the handles. -/
theorem finishFile_files
    (h : FileInvariant r) (hpc : r.pc = .body) :
  FileInvariant (finishFile r)
  := by
  have hfiles : openFiles r = [r.aviFile] := openFiles_recording (by rw [hpc]; rfl)
  unfold finishFile
  split
  · refine h.closing rfl rfl hfiles ?_
    simp [openFiles, Pc.recording]
  · refine h.silent rfl rfl ?_
    rw [hfiles]
    rfl

/-- The requests `ev` to lock and unlock frames leave the handles alone. -/
theorem fileAction_locking {ev : Event} (h : ev.locking) : fileAction ev = .other := by
  cases ev with
  | lock | unlock => rfl
  | _ => contradiction

/-- The loop body keeps the invariant on the handles: it closes a file or leaves the handles
alone. -/
theorem BodyStepped.files
    (hbody : BodyStepped r r') (h : FileInvariant r) (hpc : r.pc = .body) :
  FileInvariant r'
  := by
  have hfiles : openFiles r = [r.aviFile] := openFiles_recording (by rw [hpc]; rfl)
  cases hbody with
  | again hsame hrec hlog hevs =>
      refine h.quiet _ hlog (fun ev hev => fileAction_locking (hevs ev hev)) hsame.aviFile ?_
      rw [hfiles, openFiles_recording rfl, hsame.aviFile]
  | failed hsame hrec hlog =>
      apply finishFile_files _ (hsame.pc.trans hpc)
      apply h.silent hlog hsame.aviFile
      rw [hfiles, openFiles_recording (by rw [hsame.pc, hpc]; rfl), hsame.aviFile]
  | @stored r₁ evs evs' serialBook d hsame hrec hlog hevs hevs' =>
      apply finishFile_files _ (hsame.pc.trans hpc)
      apply h.quiet (evs' ++ .store r.aviFile serialBook d :: evs) _ _ hsame.aviFile
      · rw [hfiles, openFiles_recording (by rw [hsame.pc, hpc]; rfl), hsame.aviFile]
      · rw [hlog, List.append_assoc]
        rfl
      · intro ev hev
        obtain hev | hev := List.mem_append.mp hev
        · apply fileAction_locking (hevs' ev hev)
        · obtain rfl | hev := List.mem_cons.mp hev
          · rfl
          · apply fileAction_locking (hevs ev hev)

/-- A step that is `Closing` keeps the invariant on the handles. -/
theorem FileInvariant.step
    (h : FileInvariant r) (hC : Closing r mv) (hstep : step r mv = some r') :
  FileInvariant r'
  := by
  cases stepped_of_step hstep with
  | exit hpc hafter _ =>
      refine h.returning rfl rfl (openFiles_outside hpc hafter) ?_
      simp [openFiles, aviSaveExit2, Pc.recording]
  | walk pc gRecStatus hwalks _ =>
      obtain ⟨hpc, hafter, hpc', hafter', -⟩ := Pc.walks_outside hwalks
      refine h.silent rfl rfl ?_
      rw [openFiles_outside hpc hafter, openFiles_outside hpc' hafter']
  | scheduled hpc hsch =>
      refine h.silent rfl rfl ?_
      simp [openFiles, hpc, Pc.recording]
  | info hpc =>
      refine h.silent rfl rfl ?_
      simp [openFiles, getVideoInfo, hpc, Pc.recording]
  | delete hpc =>
      refine h.quiet [.delete] rfl (by simp [fileAction]) rfl ?_
      simp [openFiles, hpc, Pc.recording]
  | opened hpc =>
      apply h.opened
      simp [openFiles, hpc, Pc.recording]
  | headerError hpc _ =>
      have hclose :
          FileInvariant { r with pc := .start, log := .close r.aviFile false :: r.log } := by
        refine h.closing rfl rfl ?_ ?_
        all_goals simp [openFiles, hpc, Pc.recording]
      refine hclose.returning rfl rfl ?_ ?_
      all_goals simp [openFiles, aviSaveExit1, aviSaveExit2, Pc.recording]
  | headers hpc =>
      refine h.silent rfl rfl ?_
      simp [openFiles, hpc, Pc.recording]
  | goOn hpc hquit =>
      refine h.silent rfl rfl ?_
      simp [openFiles, hpc, Pc.recording]
  | quit hpc hquit =>
      refine h.silent rfl rfl ?_
      simp [openFiles, hpc, Pc.recording, hC hquit]
  | body hpc => apply (bodyStepped_loopBody _ _ _ _ r).files h hpc
  | close hpc hfinish =>
      refine h.closing rfl rfl ?_ ?_
      all_goals simp [openFiles, hpc, hfinish, Pc.recording]
  | closed hpc hfinish =>
      refine h.silent rfl rfl ?_
      simp [openFiles, hpc, hfinish, Pc.recording]
  | aviStop => exact h.quiet [.stop] rfl (by simp [fileAction]) rfl rfl
  | aviEnable => exact h.silent rfl rfl rfl
  | aviTimeL => exact h.silent rfl rfl rfl
  | aviSchd => exact h.silent rfl rfl rfl

/-! ### Whole runs -/

/-- When the thread of `r` is created no file is open, so the invariant on the handles holds. -/
theorem FileInvariant.started (h : Started r) : FileInvariant r := by
  have hfiles : openFiles r = [] :=
    openFiles_outside (by rw [h.pc]; rfl) (by simp [h.pc])
  obtain ⟨-, hlog⟩ | ⟨-, hlog⟩ := h.quit
  · constructor
    · rw [hlog]
      apply Bracketed.nil
    · rw [hlog, hfiles]
      rfl
    · simp [hlog]
    · simp [hlog]
  · constructor
    · rw [hlog]
      apply Bracketed.nil.other rfl
    · rw [hlog, hfiles]
      rfl
    · simp [hlog]
    · simp [hlog, fileAction]

/-- In a run whose steps are all `Closing`, every handle is closed once, before the next one is
opened and before the thread returns. -/
theorem files_closed
    {mvs : List Move} (hr : Started r) (hrun : Run step Closing r mvs r') :
  FilesClosed r'.log
  := by
  have hinv : FileInvariant r' := by
    apply hrun.invariant (fun _ _ _ h hC hstep => h.step hC hstep)
    apply FileInvariant.started hr
  apply hinv.filesClosed

/-- A run in which one file is completed and closed, recording is disabled, and the thread returns
with no file open. -/
theorem files_closed_newRecorder :
  ∃ r, Run step Closing newRecorder (openFile ++ recordFrames 480 ++ [.after, .aviEnable 0, .test]) r
    ∧ FilesClosed r.log ∧ r.pc = .done ∧ .close 1 true ∈ r.log
  := by
  obtain ⟨r, hrun, hr⟩ := Run.exists_of_exec step Closing newRecorder
    (fun r => r.pc == .done && r.log.contains (.close 1 true))
    (openFile ++ recordFrames 480 ++ [.after, .aviEnable 0, .test]) (by decide +kernel)
  use r, hrun, files_closed newRecorder_started hrun
  simpa using hr

/-- The first file is completed.  `Avi_stop` is called while the second one is recorded: the
thread returns, and the second file is not closed. -/
theorem file_left_open :
  ∃ r, Run step (fun _ _ => True) newRecorder (openFile ++ recordFrames 480 ++ [.after] ++ nextFile
      ++ [.aviStop, .quitTest, .after, .aviEnable 0, .test]) r
    ∧ r.pc = .done ∧ held fileAction r.log = [2] ∧ ¬ FilesClosed r.log
  := by
  obtain ⟨r, hrun, hr⟩ := Run.exists_of_exec step (fun _ _ => True)
    newRecorder
    (fun r => r.pc == .done && held fileAction r.log == [2]
      && !decide (Bracketed fileAction 1 r.log))
    (openFile ++ recordFrames 480 ++ [.after] ++ nextFile
      ++ [.aviStop, .quitTest, .after, .aviEnable 0, .test]) (by decide +kernel)
  simp only [Bool.and_eq_true, beq_iff_eq, Bool.not_eq_true', decide_eq_false_iff_not] at hr
  obtain ⟨⟨hpc, hheld⟩, hlog⟩ := hr
  use r, hrun, hpc, hheld
  intro h
  apply hlog h.1

/-! ### After `Avi_stop` -/

/-- What the recorder is not to do any more once it has been stopped: to open a file, or to delete a
directory. -/
def Event.startsAnew : Event → Bool
  | .open _ _ | .delete => true
  | _ => false

/-- In the `log`, latest event first, no file is opened and no directory deleted after
`Avi_stop`. -/
def Stops (log : List Event) : Prop :=
  ∀ late early, log = late ++ .stop :: early → ∀ ev ∈ late, ev.startsAnew = false

/-- When it has been stopped the recorder finds that the hour is not on the schedule; and it is not
stopped between the test of the schedule and the opening of the file. -/
def OffSchedule (r : Recorder) : Move → Prop
  | .schedule hour => r.mQuit ≠ 0 → saveSchedule r.gRecSchdule hour = false
  | .aviStop => r.pc.preparing = false
  | _ => True

instance (r : Recorder) (mv : Move) : Decidable (OffSchedule r mv) := by
  unfold OffSchedule
  split
  all_goals infer_instance

/-- In the log of `r` nothing is begun anew after a stop; a stop has set `mQuit`; and while a file
is prepared it is not set. -/
structure StopInvariant (r : Recorder) : Prop where
  stops : Stops r.log
  stopped : .stop ∈ r.log → r.mQuit ≠ 0
  preparing : r.pc.preparing → r.mQuit = 0

theorem Stops.nil : Stops [] := by
  intro late early heq
  simp at heq

/-- An event `ev` may be added to the `log` if it begins nothing anew, or there has been no
`Avi_stop`. -/
theorem Stops.cons
    {log : List Event} {ev : Event} (h : Stops log) (hev : ev.startsAnew → .stop ∉ log) :
  Stops (ev :: log)
  := by
  intro late early heq ev' hev'
  cases late with
  | nil => contradiction
  | cons ev₁ late =>
      obtain ⟨rfl, hlog⟩ := List.cons.inj heq
      obtain rfl | hev' := List.mem_cons.mp hev'
      · rw [← Bool.not_eq_true]
        intro hstarts
        apply hev hstarts
        simp [hlog]
      · apply h late early hlog ev' hev'

/-- A step with one event `ev`, which is not `Avi_stop` and begins nothing anew once `mQuit` is set,
keeps the invariant on stops. -/
theorem StopInvariant.step_one
    (h : StopInvariant r) (ev : Event) (hlog : r'.log = ev :: r.log) (hev : ev ≠ .stop)
    (hstarts : ev.startsAnew → r.mQuit = 0) (hquit : r'.mQuit = r.mQuit)
    (hpreparing : r'.pc.preparing → r.mQuit = 0) :
  StopInvariant r'
  := by
  constructor
  · rw [hlog]
    apply h.stops.cons
    intro hev hstop
    apply h.stopped hstop (hstarts hev)
  · intro hstop
    rw [hquit]
    rw [hlog] at hstop
    apply h.stopped
    simpa [hev.symm] using hstop
  · intro hpc
    rw [hquit]
    apply hpreparing hpc

/-- A step without an event, which prepares a file only while `mQuit` is not set, keeps the
invariant on stops. -/
theorem StopInvariant.silent
    (h : StopInvariant r) (hlog : r'.log = r.log) (hquit : r'.mQuit = r.mQuit)
    (hpreparing : r'.pc.preparing → r.mQuit = 0) :
  StopInvariant r'
  := by
  constructor
  · rw [hlog]
    apply h.stops
  · rw [hlog, hquit]
    apply h.stopped
  · intro hpc
    rw [hquit]
    apply hpreparing hpc

/-- The events `evs` of the loop body, which lock and unlock frames, keep the invariant on stops. -/
theorem StopInvariant.locking
    (h : StopInvariant r) (hpc : r.pc.preparing = false) {evs : List Event}
    (hevs : ∀ ev ∈ evs, ev.locking) :
  StopInvariant { r with log := evs ++ r.log }
  := by
  induction evs with
  | nil => apply h
  | cons ev evs ih =>
      have hev : ev.locking := hevs ev (.head _)
      refine (ih fun ev' hev' => hevs ev' (.tail _ hev')).step_one ev rfl ?_ ?_ rfl ?_
      · rintro rfl
        contradiction
      · intro hstarts
        cases ev with
        | lock | unlock => contradiction
        | _ => contradiction
      · simp [hpc]

/-- The end of the loop body, `finishFile`, keeps the invariant on stops. -/
theorem finishFile_stops
    (h : StopInvariant r) :
  StopInvariant (finishFile r)
  := by
  unfold finishFile
  split
  · refine h.step_one _ rfl (by simp) (by simp [Event.startsAnew]) rfl ?_
    simp [Pc.preparing]
  · refine h.silent rfl rfl ?_
    simp [Pc.preparing]

/-- The loop body keeps the invariant on stops: it begins nothing anew. -/
theorem BodyStepped.stops
    (hbody : BodyStepped r r') (h : StopInvariant r) (hpc : r.pc = .body) :
  StopInvariant r'
  := by
  have hprep : r.pc.preparing = false := by
    rw [hpc]
    rfl
  cases hbody with
  | again hsame hrec hlog hevs =>
      refine (h.locking hprep hevs).silent hlog hsame.mQuit ?_
      simp [Pc.preparing]
  | failed hsame hrec hlog =>
      apply finishFile_stops
      apply h.silent hlog hsame.mQuit
      simp [hsame.pc, hprep]
  | @stored r₁ evs evs' serialBook d hsame hrec hlog hevs hevs' =>
      have hstore : StopInvariant { r with
          log := .store r.aviFile serialBook d :: (evs ++ r.log) } := by
        refine (h.locking hprep hevs).step_one _ rfl (by simp) (by simp [Event.startsAnew]) rfl ?_
        simp [hprep]
      apply finishFile_stops
      apply (hstore.locking hprep hevs').silent hlog hsame.mQuit
      simp [hsame.pc, hprep]

/-- A step that is `OffSchedule` keeps the invariant on stops. -/
theorem StopInvariant.step
    (h : StopInvariant r) (hC : OffSchedule r mv) (hstep : step r mv = some r') :
  StopInvariant r'
  := by
  cases stepped_of_step hstep with
  | exit hpc hafter _ =>
      refine h.step_one _ rfl (by simp) (by simp [Event.startsAnew]) rfl ?_
      simp [aviSaveExit2, Pc.preparing]
  | walk pc gRecStatus hwalks _ =>
      obtain ⟨-, -, -, -, hprep, -⟩ := Pc.walks_outside hwalks
      exact h.silent rfl rfl fun hpc => h.preparing (hprep hpc)
  | scheduled hpc hsch =>
      refine h.silent rfl rfl fun _ => ?_
      by_contra hquit
      have hoff := hC hquit
      rw [hsch] at hoff
      contradiction
  | info hpc =>
      refine h.silent rfl rfl fun _ => h.preparing ?_
      rw [hpc]
      rfl
  | delete hpc =>
      have hquit : r.mQuit = 0 := h.preparing (by rw [hpc]; rfl)
      exact h.step_one _ rfl (by simp) (fun _ => hquit) rfl (fun _ => hquit)
  | opened hpc =>
      have hquit : r.mQuit = 0 := h.preparing (by rw [hpc]; rfl)
      exact h.step_one _ rfl (by simp) (fun _ => hquit) rfl (fun _ => hquit)
  | headerError hpc _ =>
      have hclose : StopInvariant { r with log := .close r.aviFile false :: r.log } := by
        refine h.step_one _ rfl (by simp) (by simp [Event.startsAnew]) rfl ?_
        simp [hpc, Pc.preparing]
      refine hclose.step_one _ rfl (by simp) (by simp [Event.startsAnew]) rfl ?_
      simp [aviSaveExit1, aviSaveExit2, Pc.preparing]
  | headers hpc =>
      refine h.silent rfl rfl ?_
      simp [Pc.preparing]
  | goOn hpc hquit =>
      refine h.silent rfl rfl ?_
      simp [Pc.preparing]
  | quit hpc hquit =>
      refine h.silent rfl rfl ?_
      simp [Pc.preparing]
  | body hpc => apply (bodyStepped_loopBody _ _ _ _ r).stops h hpc
  | close hpc hfinish =>
      refine h.step_one _ rfl (by simp) (by simp [Event.startsAnew]) rfl ?_
      simp [Pc.preparing]
  | closed hpc hfinish =>
      refine h.silent rfl rfl ?_
      simp [Pc.preparing]
  | aviStop =>
      have hpc : r.pc.preparing = false := hC
      constructor
      · apply h.stops.cons
        simp [Event.startsAnew]
      · simp
      · simp [hpc]
  | aviEnable => exact h.silent rfl rfl h.preparing
  | aviTimeL => exact h.silent rfl rfl h.preparing
  | aviSchd => exact h.silent rfl rfl h.preparing

/-- When the thread of `r` is created nothing is being prepared, so the invariant on stops holds. -/
theorem StopInvariant.started (h : Started r) : StopInvariant r := by
  have hpc : r.pc.preparing = false := by
    rw [h.pc]
    rfl
  obtain ⟨hquit, hlog⟩ | ⟨hquit, hlog⟩ := h.quit
  · constructor
    · rw [hlog]
      apply Stops.nil
    · simp [hlog]
    · simp [hpc]
  · constructor
    · rw [hlog]
      apply Stops.nil.cons
      simp
    · simp [hquit]
    · simp [hpc]

/-- In a run whose steps are all `OffSchedule`, no file is opened and no directory deleted after
`Avi_stop`. -/
theorem avi_stop_stops
    {mvs : List Move} (hr : Started r) (hrun : Run step OffSchedule r mvs r') :
  Stops r'.log
  := by
  have hinv : StopInvariant r' := by
    apply hrun.invariant (fun _ _ _ h hC hstep => h.step hC hstep)
    apply StopInvariant.started hr
  apply hinv.stops

/-- A run in which the recorder is stopped, closes its file, and waits off schedule until recording
is disabled. -/
theorem avi_stop_stops_newRecorder :
  ∃ r, Run step OffSchedule newRecorder (openFile ++ [.aviStop, .quitTest, .after, .aviSchd 0,
      .test, .schedule 12, .aviEnable 0, .test]) r
    ∧ Stops r.log ∧ .stop ∈ r.log ∧ r.pc = .done
  := by
  obtain ⟨r, hrun, hr⟩ := Run.exists_of_exec step OffSchedule
    newRecorder (fun r => r.log.contains .stop && r.pc == .done)
    (openFile ++ [.aviStop, .quitTest, .after, .aviSchd 0,
      .test, .schedule 12, .aviEnable 0, .test]) (by decide +kernel)
  use r, hrun, avi_stop_stops newRecorder_started hrun
  simpa using hr

/-- A run in which the recorder is stopped, closes its file, and opens the next one, after deleting
a directory. -/
theorem avi_stop_reopens :
  ∃ r, Run step (fun _ _ => True) newRecorder (openFile ++ [.aviStop, .quitTest, .after,
      .test, .schedule 12, .info none none (some 8) none, .freeSpace 0, .oldest 1,
      .freeSpace 100000, .open true]) r
    ∧ r.log = [.open 2 480, .delete, .close 1 false, .stop, .open 1 480] ∧ ¬ Stops r.log
  := by
  obtain ⟨r, hrun, hr⟩ := Run.exists_of_exec step (fun _ _ => True)
    newRecorder
    (fun r => r.log == [.open 2 480, .delete, .close 1 false, .stop, .open 1 480])
    (openFile ++ [.aviStop, .quitTest, .after,
      .test, .schedule 12, .info none none (some 8) none, .freeSpace 0, .oldest 1,
      .freeSpace 100000, .open true]) (by decide +kernel)
  have hlog := eq_of_beq hr
  use r, hrun, hlog
  intro h
  have hopen := h [.open 2 480, .delete, .close 1 false] [.open 1 480] hlog (.open 2 480) (.head _)
  contradiction

end AviSave
