import Avserver.AviSave.Recorder

/-!
# The frames that the recorder locks

A frame is locked when the recorder fetches it, and unlocked when the next one has been
stored.  Between two passes of the loop the recorder therefore holds the frame whose serial
`SerialLock` is, and no other; this is the invariant `LockInvariant`, and it rests on the steps
being `Releasing`: the loop is not left while a frame is held, and no frame is locked that
`SerialLock` will not remember.
-/

namespace AviSave

open Library

/-- What an event does to the frames of the stream: it locks one, unlocks one, or none may be locked
when a file is closed or the thread returns. -/
def frameAction : Event → Action Int
  | .lock serial => .acquire serial
  | .unlock serial => .release serial
  | .close _ _ | .return => .clear
  | _ => .other

/-- Every frame that is unlocked was locked, at most two are locked at a time, and whenever a file
is closed or the thread returns, every frame has been unlocked as often as it was locked. -/
def LocksBalanced (log : List Event) : Prop :=
  Bracketed frameAction 2 log ∧
    ∀ late ev early, log = late ++ ev :: early → frameAction ev = .clear →
      ∀ serial, early.countP (fun ev => frameAction ev = .acquire serial)
        = early.countP (fun ev => frameAction ev = .release serial)

theorem LocksBalanced.of_bracketed
    {log : List Event} (h : Bracketed frameAction 2 log) :
  LocksBalanced log
  := by
  use h
  rintro late ev early rfl hev serial
  apply h.of_append.2.count_of_held_nil (h.held_of_clear hev)

/-- The steps after which no frame is left behind.  The loop is quit only while no frame is
locked.  A frame that is locked is not an old one; it is dropped for lag, or it has a serial
that `SerialLock > 0` recognises and does not complete the file.  And the file does not turn
out to be complete on a failed request while a frame is locked. -/
def Releasing (r : Recorder) : Move → Prop
  | .quitTest => r.mQuit ≠ 0 → r.serialLock ≤ 0
  | .body ret data now _ =>
      (ret = true → ¬ overtaken data r ∧
        (lagging ret data now r ∨ (0 < data.serial ∧ r.recFrames + 1 < r.totelFrames))) ∧
      (ret = false → ¬ overtaken data r → r.totelFrames ≤ r.recFrames → r.serialLock ≤ 0)
  | _ => True

instance (r : Recorder) (mv : Move) : Decidable (Releasing r mv) := by
  unfold Releasing
  split
  all_goals infer_instance

/-- The frame that waits to be unlocked, by its serial in `serialLock`, if there is one. -/
def waiting (serialLock : Int) : List Int := if serialLock > 0 then [serialLock] else []

/-- The frames that are locked between two steps of `r`: the one of `SerialLock` in the loop of a
file, and none elsewhere. -/
def lockedFrames (r : Recorder) : List Int :=
  if r.pc = .quitTest ∨ r.pc = .body then waiting r.serialLock else []

/-- The frames that are locked by the log of `r` are the ones that the recorder knows of, and its
log is disciplined. -/
structure LockInvariant (r : Recorder) : Prop where
  bracketed : Bracketed frameAction 2 r.log
  held : held frameAction r.log = lockedFrames r

theorem waiting_length (serialLock : Int) : (waiting serialLock).length ≤ 1 := by
  unfold waiting
  split
  · apply Nat.le_refl
  · apply Nat.zero_le

theorem waiting_pos {serialLock : Int} (h : 0 < serialLock) :
  waiting serialLock = [serialLock]
  := if_pos h

theorem waiting_nonpos {serialLock : Int} (h : serialLock ≤ 0) :
  waiting serialLock = []
  := if_neg (by omega)

theorem lockedFrames_loop {r : Recorder} (h : r.pc = .quitTest ∨ r.pc = .body) :
  lockedFrames r = waiting r.serialLock
  := if_pos h

theorem lockedFrames_outside {r : Recorder} (h : r.pc ≠ .quitTest) (h' : r.pc ≠ .body) :
  lockedFrames r = []
  := if_neg (by simp [h, h'])

/-! ### One step -/

variable {r r' : Recorder} {mv : Move}

/-- A step with one event `ev` that leaves the frames alone keeps the invariant on locks. -/
theorem LockInvariant.quiet
    (h : LockInvariant r) {ev : Event} (hlog : r'.log = ev :: r.log)
    (hev : frameAction ev = .other) (hframes : lockedFrames r' = lockedFrames r) :
  LockInvariant r'
  := by
  constructor
  · rw [hlog]
    apply h.bracketed.other hev
  · rw [hlog, held_other hev, h.held, hframes]

/-- A step without an event keeps the invariant on locks. -/
theorem LockInvariant.silent
    (h : LockInvariant r) (hlog : r'.log = r.log) (hframes : lockedFrames r' = lockedFrames r) :
  LockInvariant r'
  := by
  constructor
  · rw [hlog]
    apply h.bracketed
  · rw [hlog, h.held, hframes]

/-- A step that closes a file or returns, while no frame is locked, keeps the invariant on locks. -/
theorem LockInvariant.closing
    (h : LockInvariant r) {ev : Event} (hlog : r'.log = ev :: r.log)
    (hev : frameAction ev = .clear) (hframes : lockedFrames r = [])
    (hframes' : lockedFrames r' = []) :
  LockInvariant r'
  := by
  have hnil : Library.held frameAction r.log = [] := h.held.trans hframes
  constructor
  · rw [hlog]
    apply h.bracketed.clear hev hnil
  · rw [hlog, held_clear hev, hnil, hframes']

/-- The frame that waits in `serialLock` is unlocked when the next one, `serial`, is stored, and
then only that one is locked. -/
theorem bracketed_unlockPrevious
    {log : List Event} {serialLock serial : Int} (hlog : Bracketed frameAction 2 log)
    (hheld : held frameAction log = serial :: waiting serialLock) :
  Bracketed frameAction 2 (unlockPrevious serialLock ++ log)
    ∧ held frameAction (unlockPrevious serialLock ++ log) = [serial]
  := by
  unfold unlockPrevious
  unfold waiting at hheld
  split
  · next hpos =>
      rw [if_pos hpos] at hheld
      have hunlock : frameAction (.unlock serialLock) = .release serialLock := rfl
      constructor
      · apply hlog.release hunlock
        simp [hheld]
      · rw [List.singleton_append, held_release hunlock, hheld]
        by_cases heq : serial = serialLock
        · simp [heq]
        · simp [heq]
  · next hpos =>
      rw [if_neg hpos] at hheld
      use hlog, hheld

/-- The end of the loop body, `finishFile`, leads to the invariant on locks, if no frame is locked
when the file is complete. -/
theorem finishFile_locks
    (hlog : Bracketed frameAction 2 r.log)
    (hheld : held frameAction r.log = waiting r.serialLock)
    (hfinish : r.totelFrames ≤ r.recFrames → r.serialLock ≤ 0) :
  LockInvariant (finishFile r)
  := by
  unfold finishFile
  split
  · next hfull =>
      have hnil : held frameAction r.log = [] := by
        rw [hheld, waiting_nonpos (hfinish hfull)]
      constructor
      · apply hlog.clear rfl hnil
      · rw [held_clear rfl, hnil, lockedFrames_outside (by simp) (by simp)]
  · constructor
    · apply hlog
    · rw [lockedFrames_loop (Or.inl rfl)]
      apply hheld

/-- A pass of the loop body that is `Releasing` keeps the invariant on locks. -/
theorem loopBody_locks
    {ret : Bool} {data now unlock : AvData} (h : LockInvariant r) (hpc : r.pc = .body)
    (hC : Releasing r (.body ret data now unlock)) :
  LockInvariant (loopBody ret data now unlock r)
  := by
  obtain ⟨hstored, hfailed⟩ := hC
  have hheld : held frameAction r.log = waiting r.serialLock :=
    h.held.trans (lockedFrames_loop (Or.inr hpc))
  have hlock : frameAction (.lock data.serial) = .acquire data.serial := rfl
  have hlocked : Bracketed frameAction 2 (.lock data.serial :: r.log) := by
    apply h.bracketed.acquire hlock
    rw [hheld]
    apply Nat.lt_succ_of_le (waiting_length _)
  have hheld' : held frameAction (.lock data.serial :: r.log)
      = data.serial :: waiting r.serialLock := by
    rw [held_acquire hlock, hheld]
  by_cases hover : overtaken data r
  · -- nothing has been locked, or the step would not be releasing
    have hret : ret = false := by
      rw [← Bool.not_eq_true]
      intro hret
      exact (hstored hret).1 hover
    subst hret
    obtain ⟨r₁, hbody, -, -, hsl, hlog⟩ :=
      loopBody_overtaken false now unlock hover
    rw [hbody]
    constructor
    · simp only [hlog, lockLog]
      apply h.bracketed
    · rw [lockedFrames_loop (Or.inl rfl)]
      simp only [hlog, hsl, lockLog]
      apply hheld
  · cases ret with
    | false =>
        obtain ⟨r₁, hbody, hsame, hrec, hsl, hlog⟩ :=
          loopBody_failed now unlock hover
        rw [hbody]
        apply finishFile_locks
        · rw [hlog]
          apply h.bracketed
        · rw [hlog, hsl, hheld]
        · rw [hrec, hsl, hsame.totelFrames]
          apply hfailed rfl hover
    | true =>
        by_cases hlag : lagging true data now r
        · obtain ⟨r₁, hbody, -, -, hsl, hlog⟩ := loopBody_lagging unlock hover hlag
          have hunlock : frameAction (.unlock data.serial) = .release data.serial := rfl
          rw [hbody]
          constructor
          · simp only [hlog]
            apply hlocked.release hunlock
            simp [hheld']
          · rw [lockedFrames_loop (Or.inl rfl)]
            simp only [hlog, hsl]
            rw [held_release hunlock, hheld', List.erase_cons_head]
        · obtain ⟨r₁, d, hbody, hsame, hrec, hsl, hlog⟩ :=
            loopBody_stored unlock hover hlag
          obtain ⟨hserial, htotel⟩ := (hstored rfl).2.resolve_left hlag
          have hstore : frameAction (.store r.aviFile data.serial d) = .other := rfl
          obtain ⟨hbr, hone⟩ := bracketed_unlockPrevious (hlocked.other hstore)
            ((held_other hstore).trans hheld')
          rw [hbody]
          apply finishFile_locks
          · rw [hlog]
            apply hbr
          · rw [hlog, hsl, waiting_pos hserial]
            apply hone
          · rw [hrec, hsame.totelFrames]
            omega

/-- A step that is `Releasing` keeps the invariant on locks. -/
theorem LockInvariant.step
    (h : LockInvariant r) (hC : Releasing r mv) (hstep : step r mv = some r') :
  LockInvariant r'
  := by
  cases stepped_of_step hstep with
  | exit hpc hafter _ =>
      refine h.closing rfl rfl ?_ ?_
      · apply lockedFrames_outside
        · rintro heq
          simp [heq, Pc.recording] at hpc
        · rintro heq
          simp [heq, Pc.recording] at hpc
      · apply lockedFrames_outside (by simp [aviSaveExit2]) (by simp [aviSaveExit2])
  | walk pc gRecStatus hwalks _ =>
      obtain ⟨hpc, -, hpc', -⟩ := Pc.walks_outside hwalks
      refine h.silent rfl ?_
      rw [lockedFrames_outside, lockedFrames_outside]
      all_goals
        rintro heq
        simp_all [Pc.recording]
  | scheduled hpc hsch =>
      refine h.silent rfl ?_
      simp [lockedFrames, hpc]
  | info hpc =>
      refine h.silent rfl ?_
      simp [lockedFrames, getVideoInfo, hpc]
  | delete hpc =>
      refine h.quiet rfl rfl ?_
      simp [lockedFrames, hpc]
  | opened hpc =>
      refine h.quiet rfl rfl ?_
      simp [lockedFrames, gmaviOpen, hpc]
  | headerError hpc _ =>
      have hclose : LockInvariant { r with log := .close r.aviFile false :: r.log } := by
        refine h.closing rfl rfl ?_ ?_
        all_goals simp [lockedFrames, hpc]
      refine hclose.closing rfl rfl ?_ ?_
      · simp [lockedFrames, hpc]
      · simp [lockedFrames, aviSaveExit1, aviSaveExit2]
  | headers hpc =>
      refine h.silent rfl ?_
      simp [lockedFrames, waiting, hpc]
  | goOn hpc hquit =>
      refine h.silent rfl ?_
      simp [lockedFrames, hpc]
  | quit hpc hquit =>
      refine h.silent rfl ?_
      rw [lockedFrames_loop (Or.inl hpc), waiting_nonpos (hC hquit)]
      simp [lockedFrames]
  | body hpc => apply loopBody_locks h hpc hC
  | close hpc hfinish =>
      refine h.closing rfl rfl ?_ ?_
      all_goals simp [lockedFrames, hpc]
  | closed hpc hfinish =>
      refine h.silent rfl ?_
      simp [lockedFrames, hpc]
  | aviStop => exact h.quiet rfl rfl rfl
  | aviEnable => exact h.silent rfl rfl
  | aviTimeL => exact h.silent rfl rfl
  | aviSchd => exact h.silent rfl rfl

/-! ### Whole runs -/

/-- When the thread of `r` is created no frame is locked, so the invariant on locks holds. -/
theorem LockInvariant.started (h : Started r) : LockInvariant r := by
  have hframes : lockedFrames r = [] :=
    lockedFrames_outside (by simp [h.pc]) (by simp [h.pc])
  obtain ⟨-, hlog⟩ | ⟨-, hlog⟩ := h.quit
  · constructor
    · rw [hlog]
      apply Bracketed.nil
    · rw [hlog, hframes]
      rfl
  · constructor
    · rw [hlog]
      apply Bracketed.nil.other rfl
    · rw [hlog, hframes]
      rfl

/-- In a run whose steps are all `Releasing`, the frames that are locked are unlocked, as
`LocksBalanced` says. -/
theorem locks_balanced
    {mvs : List Move} (hr : Started r) (hrun : Run step Releasing r mvs r') :
  LocksBalanced r'.log
  := by
  apply LocksBalanced.of_bracketed
  have hinv : LockInvariant r' := by
    apply hrun.invariant (fun _ _ _ h hC hstep => h.step hC hstep)
    apply LockInvariant.started hr
  apply hinv.bracketed

/-- A run in which three frames are recorded, and the first two of them are unlocked. -/
theorem locks_balanced_newRecorder :
  ∃ r, Run step Releasing newRecorder (openFile ++ [.quitTest, recordFrame 7]
      ++ [.quitTest, recordFrame 8] ++ [.quitTest, recordFrame 9]) r
    ∧ LocksBalanced r.log ∧ .unlock 7 ∈ r.log ∧ .unlock 8 ∈ r.log
  := by
  obtain ⟨r, hrun, hr⟩ := Run.exists_of_exec step Releasing
    newRecorder (fun r => r.log.contains (.unlock 7) && r.log.contains (.unlock 8))
    (openFile ++ [.quitTest, recordFrame 7]
      ++ [.quitTest, recordFrame 8] ++ [.quitTest, recordFrame 9]) (by decide +kernel)
  use r, hrun, locks_balanced newRecorder_started hrun
  simpa using hr

/-- `Avi_stop` is called while the frame that was stored last waits to be unlocked: the file is
closed, the thread returns, and the frame stays locked. -/
theorem frame_left_locked :
  ∃ r, Run step (fun _ _ => True) newRecorder (openFile ++ [.quitTest, recordFrame 7]
      ++ [.aviStop, .quitTest, .after, .aviEnable 0, .test]) r
    ∧ r.pc = .done ∧ held frameAction r.log = [7] ∧ ¬ LocksBalanced r.log
  := by
  obtain ⟨r, hrun, hr⟩ := Run.exists_of_exec step (fun _ _ => True)
    newRecorder
    (fun r => r.pc == .done && held frameAction r.log == [7]
      && !decide (Bracketed frameAction 2 r.log))
    (openFile ++ [.quitTest, recordFrame 7]
      ++ [.aviStop, .quitTest, .after, .aviEnable 0, .test]) (by decide +kernel)
  simp only [Bool.and_eq_true, beq_iff_eq, Bool.not_eq_true', decide_eq_false_iff_not] at hr
  obtain ⟨⟨hpc, hheld⟩, hlog⟩ := hr
  use r, hrun, hpc, hheld
  intro h
  apply hlog h.1

end AviSave
