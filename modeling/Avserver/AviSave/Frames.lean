import Avserver.AviSave.Recorder

/-!
# How many frames a complete file holds

The recorder takes a file to be complete when `rec_frames` reaches the number of frames
computed for it.  The counter is not set back for the next file, so that it is the number of
frames stored into all files so far (`Counted.recFrames`).  A file that is closed as complete
therefore holds the frames computed for it exactly if none had been stored into an earlier file;
any later file is closed as soon as the loop body reaches its end, with one frame or with none,
or holds fewer frames by those of the earlier files.
-/

namespace AviSave

open Library

/-- The number of frames stored into the `file`, by the `log`. -/
def stores (file : Nat) (log : List Event) : Nat :=
  log.countP fun
    | .store file' _ _ => file' = file
    | _ => false

/-- The number of frames stored into the files with a smaller number than `file`, by the `log`. -/
def storesBefore (file : Nat) (log : List Event) : Nat :=
  log.countP fun
    | .store file' _ _ => file' < file
    | _ => false

/-- The events by which frames are counted: the opening of a file, the storing of a frame, and the
closing of a complete file. -/
def Event.counts : Event → Bool
  | .open _ _ | .store _ _ _ | .close _ true => true
  | _ => false

/-- The number of the file that the event is about, if it is one by which frames are counted. -/
def Event.file : Event → Nat
  | .open file _ | .store file _ _ | .close file _ => file
  | _ => 0

/-- The part of the `log` by which frames are counted, with the events of `Event.counts` only. -/
def counted (log : List Event) : List Event := log.filter Event.counts

/-- A file that was closed as complete holds the `totelFrames` computed for it exactly if no frame
had been stored into the files before it. -/
def CompleteFiles (log : List Event) : Prop :=
  ∀ (file : Nat) (totelFrames : Int), .open file totelFrames ∈ log → .close file true ∈ log →
    (stores file log = totelFrames ↔ storesBefore file log = 0)

/-! ### Counting in the log -/

variable {log : List Event}

@[simp]
theorem stores_store (file file' : Nat) (serialBook : Int) (data : AvData) (log : List Event) :
  stores file (.store file' serialBook data :: log)
    = stores file log + if file' = file then 1 else 0
  := by simp [stores, List.countP_cons]

@[simp]
theorem stores_open (file file' : Nat) (totelFrames : Int) (log : List Event) :
  stores file (.open file' totelFrames :: log) = stores file log
  := by simp [stores]

@[simp]
theorem stores_close (file file' : Nat) (complete : Bool) (log : List Event) :
  stores file (.close file' complete :: log) = stores file log
  := by simp [stores]

@[simp]
theorem storesBefore_store (file file' : Nat) (serialBook : Int) (data : AvData)
    (log : List Event) :
  storesBefore file (.store file' serialBook data :: log)
    = storesBefore file log + if file' < file then 1 else 0
  := by simp [storesBefore, List.countP_cons]

@[simp]
theorem storesBefore_open (file file' : Nat) (totelFrames : Int) (log : List Event) :
  storesBefore file (.open file' totelFrames :: log) = storesBefore file log
  := by simp [storesBefore]

@[simp]
theorem storesBefore_close (file file' : Nat) (complete : Bool) (log : List Event) :
  storesBefore file (.close file' complete :: log) = storesBefore file log
  := by simp [storesBefore]

theorem mem_counted {ev : Event} (h : ev.counts) : ev ∈ counted log ↔ ev ∈ log := by
  simp [counted, h]

theorem stores_counted (file : Nat) (log : List Event) :
  stores file (counted log) = stores file log
  := by
  unfold stores counted
  rw [List.countP_filter]
  apply List.countP_congr
  intro ev hev
  cases ev with
  | store => simp [Event.counts]
  | _ => simp

theorem storesBefore_counted (file : Nat) (log : List Event) :
  storesBefore file (counted log) = storesBefore file log
  := by
  unfold storesBefore counted
  rw [List.countP_filter]
  apply List.countP_congr
  intro ev hev
  cases ev with
  | store => simp [Event.counts]
  | _ => simp

theorem CompleteFiles.of_counted (h : CompleteFiles (counted log)) : CompleteFiles log := by
  intro file totelFrames hopen hclose
  have hfile := h file totelFrames ((mem_counted rfl).mpr hopen) ((mem_counted rfl).mpr hclose)
  rw [stores_counted, storesBefore_counted] at hfile
  apply hfile

theorem counted_locking {evs : List Event} (h : ∀ ev ∈ evs, ev.locking) :
  counted evs = []
  := by
  apply List.filter_eq_nil_iff.mpr
  intro ev hev hcounts
  have hlocking := h ev hev
  cases ev with
  | lock | unlock => contradiction
  | _ => contradiction

theorem counted_append (evs log : List Event) :
  counted (evs ++ log) = counted evs ++ counted log
  := List.filter_append evs log

/-- The frames stored before the file `file + 1` are those stored into `file` and those stored
before it. -/
theorem storesBefore_succ (file : Nat) (log : List Event) :
  storesBefore (file + 1) log = stores file log + storesBefore file log
  := by
  induction log with
  | nil => rfl
  | cons ev log ih =>
      cases ev with
      | store file' serialBook data =>
          simp only [storesBefore_store, stores_store, ih]
          obtain hlt | rfl | hgt := Nat.lt_trichotomy file' file
          · simp only [hlt, Nat.lt_succ_of_lt hlt, Nat.ne_of_lt hlt, if_true, if_false]
            omega
          · simp only [Nat.lt_succ_self, Nat.lt_irrefl, if_true, if_false]
            omega
          · simp only [Nat.not_lt.mpr hgt, Nat.not_lt_of_gt hgt, Nat.ne_of_gt hgt, if_false]
            omega
      | _ => simpa [storesBefore, stores, List.countP_cons] using ih

/-- If all events of the `log` are about smaller numbers than `file`, then nothing has been stored
into that file. -/
theorem stores_of_lt
    {file : Nat} (h : ∀ ev ∈ log, ev.file < file) :
  stores file log = 0
  := by
  apply List.countP_eq_zero.mpr
  intro ev hev hstored
  cases ev with
  | store file' _ _ =>
      have hlt : file' < file := h _ hev
      have heq := of_decide_eq_true hstored
      omega
  | _ => contradiction

/-! ### The invariant -/

/-- The counter `recFrames` of the recorder counts the frames of all files; the files are numbered
in their order, and the complete ones among them are as `CompleteFiles` says. -/
structure Counted (r : Recorder) : Prop where
  timeL : 60 ≤ r.gRecTimeL
  framerate : 8 ≤ r.framerate
  recFrames : r.recFrames
    = stores r.aviFile (counted r.log) + storesBefore r.aviFile (counted r.log)
  numbered : ∀ ev ∈ counted r.log, ev.file ≤ r.aviFile
  opened : ∀ file totelFrames totelFrames', .open file totelFrames ∈ counted r.log →
    .open file totelFrames' ∈ counted r.log → totelFrames = totelFrames'
  complete : CompleteFiles (counted r.log)

/-- The file that the recorder `r` records is open, is not complete, and is to have 480 frames at
least. -/
structure Recording (r : Recorder) : Prop where
  opened : .open r.aviFile r.totelFrames ∈ counted r.log
  incomplete : .close r.aviFile true ∉ counted r.log
  totelFrames : 480 ≤ r.totelFrames

/-- No frame has been stored into the file that is recorded, or there are frames missing in the
count of `r`. -/
def Unfinished (r : Recorder) : Prop :=
  stores r.aviFile (counted r.log) = 0 ∨ r.recFrames < r.totelFrames

/-- What is left of `Unfinished` when one more frame has been stored into the file. -/
def JustStored (r : Recorder) : Prop :=
  stores r.aviFile (counted r.log) ≤ 1 ∨ r.recFrames ≤ r.totelFrames

/-- What holds between two steps: the frames are `Counted`, and while a file is recorded it is
`Recording` and `Unfinished`. -/
structure CountInvariant (r : Recorder) : Prop where
  counting : Counted r
  recording : r.pc.recording → Recording r ∧ Unfinished r

theorem recTimeL_ge (iValue : Int) : 60 ≤ recTimeL iValue := by
  unfold recTimeL maxRecTimeLen minRecTimeLen
  split
  · decide
  · split
    · decide
    · omega

theorem getVideoInfo_framerate (width height fps bps : Option Int) (r : Recorder) :
  8 ≤ (getVideoInfo width height fps bps r).framerate
  := by
  simp only [getVideoInfo]
  split
  · decide
  · split
    · decide
    · omega

variable {r r' : Recorder} {mv : Move}

theorem Unfinished.justStored (h : Unfinished r) : JustStored r := by
  obtain hzero | hlt := h
  · apply Or.inl
    omega
  · apply Or.inr
    omega

/-! ### One step -/

/-- A step that adds no event by which frames are counted, and leaves the number of the file and the
counter alone, keeps `Counted`. -/
theorem Counted.idle
    (h : Counted r) (hlog : counted r'.log = counted r.log) (hfile : r'.aviFile = r.aviFile)
    (hrec : r'.recFrames = r.recFrames) (htimeL : 60 ≤ r'.gRecTimeL)
    (hframerate : 8 ≤ r'.framerate) :
  Counted r'
  := by
  constructor
  · apply htimeL
  · apply hframerate
  · rw [hlog, hfile, hrec]
    apply h.recFrames
  · rw [hlog, hfile]
    apply h.numbered
  · rw [hlog]
    apply h.opened
  · rw [hlog]
    apply h.complete

/-- A step that adds no event by which frames are counted leaves the file that is recorded open and
not complete. -/
theorem Recording.idle
    (h : Recording r) (hlog : counted r'.log = counted r.log) (hfile : r'.aviFile = r.aviFile)
    (htotel : r'.totelFrames = r.totelFrames) :
  Recording r'
  := by
  constructor
  · rw [hlog, hfile, htotel]
    apply h.opened
  · rw [hlog, hfile]
    apply h.incomplete
  · rw [htotel]
    apply h.totelFrames

theorem Unfinished.idle
    (h : Unfinished r) (hlog : counted r'.log = counted r.log) (hfile : r'.aviFile = r.aviFile)
    (hrec : r'.recFrames = r.recFrames) (htotel : r'.totelFrames = r.totelFrames) :
  Unfinished r'
  := by
  unfold Unfinished
  rw [hlog, hfile, hrec, htotel]
  apply h

theorem CountInvariant.idle
    (h : CountInvariant r) (hlog : counted r'.log = counted r.log)
    (hfile : r'.aviFile = r.aviFile) (hrec : r'.recFrames = r.recFrames)
    (htotel : r'.totelFrames = r.totelFrames) (htimeL : 60 ≤ r'.gRecTimeL)
    (hframerate : 8 ≤ r'.framerate) (hpc : r'.pc.recording → r.pc.recording) :
  CountInvariant r'
  := by
  constructor
  · apply h.counting.idle hlog hfile hrec htimeL hframerate
  · intro hrecording
    obtain ⟨hopen, hunfinished⟩ := h.recording (hpc hrecording)
    constructor
    · apply hopen.idle hlog hfile htotel
    · apply hunfinished.idle hlog hfile hrec htotel

/-- If the frames are `Counted`, then behind the opening of the next file by `gmaviOpen` the
invariant holds. -/
theorem Counted.opening
    (h : Counted r) :
  CountInvariant (gmaviOpen r)
  := by
  have hlog : counted (gmaviOpen r).log
      = .open (r.aviFile + 1) (r.gRecTimeL * r.framerate) :: counted r.log := rfl
  have hfresh : ∀ ev ∈ counted r.log, ev.file < r.aviFile + 1 :=
    fun ev hev => Nat.lt_succ_of_le (h.numbered ev hev)
  have hzero : stores (r.aviFile + 1) (counted r.log) = 0 := stores_of_lt hfresh
  have htotel : 480 ≤ r.gRecTimeL * r.framerate :=
    calc (480 : Int) = 60 * 8 := rfl
      _ ≤ r.gRecTimeL * r.framerate :=
          Int.mul_le_mul h.timeL h.framerate (by decide) (by have := h.timeL; omega)
  constructor
  · constructor
    · apply h.timeL
    · apply h.framerate
    · have hrec := h.recFrames
      rw [hlog]
      simp only [gmaviOpen, stores_open, storesBefore_open, storesBefore_succ, hzero]
      omega
    · intro ev hev
      rw [hlog] at hev
      obtain rfl | hev := List.mem_cons.mp hev
      · apply Nat.le_refl
      · apply Nat.le_of_lt (hfresh ev hev)
    · intro file totelFrames totelFrames' hopen hopen'
      rw [hlog] at hopen hopen'
      obtain heq | hopen := List.mem_cons.mp hopen
      · obtain heq' | hopen' := List.mem_cons.mp hopen'
        · cases heq
          cases heq'
          rfl
        · cases heq
          have hlt := hfresh _ hopen'
          simp [Event.file] at hlt
      · obtain heq' | hopen' := List.mem_cons.mp hopen'
        · cases heq'
          have hlt := hfresh _ hopen
          simp [Event.file] at hlt
        · apply h.opened file totelFrames totelFrames' hopen hopen'
    · intro file totelFrames hopen hclose
      rw [hlog] at hopen hclose ⊢
      have hclose : .close file true ∈ counted r.log := by simpa using hclose
      obtain heq | hopen := List.mem_cons.mp hopen
      · obtain ⟨rfl, -⟩ := Event.open.inj heq
        have hlt := hfresh _ hclose
        simp [Event.file] at hlt
      · have hfile := h.complete file totelFrames hopen hclose
        simpa using hfile
  · intro _
    constructor
    · constructor
      · rw [hlog]
        apply List.mem_cons_self
      · rw [hlog]
        intro hclose
        have hlt := hfresh (.close (r.aviFile + 1) true) (by simpa [gmaviOpen] using hclose)
        simp [Event.file] at hlt
      · apply htotel
    · apply Or.inl
      rw [hlog]
      simpa [gmaviOpen] using hzero

/-- A step that stores one frame into the file that is recorded and adds one to the counter keeps
`Counted`. -/
theorem Counted.storing
    (h : Counted r) (hopen : Recording r) {serialBook : Int} {d : AvData}
    (hlog : counted r'.log = .store r.aviFile serialBook d :: counted r.log)
    (hrec : r'.recFrames = r.recFrames + 1) (hsame : SameFile r r') :
  Counted r'
  := by
  have hcount := h.recFrames
  constructor
  · rw [hsame.gRecTimeL]
    apply h.timeL
  · rw [hsame.framerate]
    apply h.framerate
  · rw [hrec, hlog, hsame.aviFile]
    simp only [stores_store, storesBefore_store, if_true, Nat.lt_irrefl, if_false]
    omega
  · intro ev hev
    rw [hlog] at hev
    rw [hsame.aviFile]
    obtain rfl | hev := List.mem_cons.mp hev
    · apply Nat.le_refl
    · apply h.numbered ev hev
  · intro file totelFrames totelFrames' hopen hopen'
    rw [hlog] at hopen hopen'
    apply h.opened file totelFrames totelFrames' (by simpa using hopen) (by simpa using hopen')
  · intro file totelFrames hopened hclose
    rw [hlog] at hopened hclose ⊢
    have hclose : .close file true ∈ counted r.log := by simpa using hclose
    have hfile := h.complete file totelFrames (by simpa using hopened) hclose
    -- the complete files are earlier ones
    have hne : r.aviFile ≠ file := by
      rintro rfl
      apply hopen.incomplete hclose
    have hle : file ≤ r.aviFile := h.numbered _ hclose
    simpa [hne, Nat.not_lt.mpr hle] using hfile

/-- A step that stores a frame into the file that is recorded leaves it open and not complete. -/
theorem Recording.storing
    (h : Recording r) {serialBook : Int} {d : AvData}
    (hlog : counted r'.log = .store r.aviFile serialBook d :: counted r.log)
    (hsame : SameFile r r') :
  Recording r'
  := by
  constructor
  · rw [hlog, hsame.aviFile, hsame.totelFrames]
    apply List.mem_cons_of_mem _ h.opened
  · rw [hlog, hsame.aviFile]
    simpa using h.incomplete
  · rw [hsame.totelFrames]
    apply h.totelFrames

theorem Unfinished.storing
    (h : Unfinished r) {serialBook : Int} {d : AvData}
    (hlog : counted r'.log = .store r.aviFile serialBook d :: counted r.log)
    (hrec : r'.recFrames = r.recFrames + 1) (hsame : SameFile r r') :
  JustStored r'
  := by
  unfold JustStored
  rw [hlog, hrec, hsame.aviFile, hsame.totelFrames]
  obtain hzero | hlt := h
  · apply Or.inl
    simp only [stores_store, if_true, hzero]
    omega
  · apply Or.inr
    omega

/-- A file is found to be complete exactly with the `totelFrames` computed for it, if and only if no
frame was stored before it. -/
theorem Counted.completing
    (h : Counted r) (hopen : Recording r) (hstored : JustStored r)
    (hfull : r.totelFrames ≤ r.recFrames) :
  stores r.aviFile (counted r.log) = r.totelFrames
    ↔ storesBefore r.aviFile (counted r.log) = 0
  := by
  have hrec := h.recFrames
  have htotel := hopen.totelFrames
  obtain hone | hle := hstored
  · constructor
    · intro heq
      omega
    · intro hzero
      omega
  · omega

/-- The end of the loop body, `finishFile`, leads to the invariant from a file that is recorded and
of which a frame has just been stored. -/
theorem finishFile_counts
    (h : Counted r) (hopen : Recording r) (hstored : JustStored r) :
  CountInvariant (finishFile r)
  := by
  unfold finishFile
  split
  · next hfull =>
      constructor
      · constructor
        · apply h.timeL
        · apply h.framerate
        · apply h.recFrames
        · intro ev hev
          obtain rfl | hev := List.mem_cons.mp hev
          · apply Nat.le_refl
          · apply h.numbered ev hev
        · intro file totelFrames totelFrames' hopen hopen'
          apply h.opened file totelFrames totelFrames'
          · simpa [counted, Event.counts] using hopen
          · simpa [counted, Event.counts] using hopen'
        · change CompleteFiles (.close r.aviFile true :: counted r.log)
          intro file totelFrames hopened hclose
          have hopened : .open file totelFrames ∈ counted r.log := by simpa using hopened
          obtain heq | hclose := List.mem_cons.mp hclose
          · cases heq
            obtain rfl := h.opened _ _ _ hopened hopen.opened
            have hcomplete := h.completing hopen hstored hfull
            simpa using hcomplete
          · have hcomplete := h.complete file totelFrames hopened hclose
            simpa using hcomplete
      · intro hpc
        contradiction
  · next hfull =>
      constructor
      · exact h.idle rfl rfl rfl h.timeL h.framerate
      · intro _
        constructor
        · exact hopen.idle rfl rfl rfl
        · apply Or.inr
          apply Int.not_le.mp hfull

/-- The loop body keeps the invariant `CountInvariant`: it stores no frame, or one. -/
theorem BodyStepped.counts
    (hbody : BodyStepped r r') (h : CountInvariant r) (hpc : r.pc = .body) :
  CountInvariant r'
  := by
  have hrecording : r.pc.recording := by
    rw [hpc]
    rfl
  obtain ⟨hopen, hunfinished⟩ := h.recording hrecording
  have hlocking : ∀ {evs log : List Event}, (∀ ev ∈ evs, ev.locking) →
      counted (evs ++ log) = counted log := by
    intro evs log hevs
    rw [counted_append, counted_locking hevs, List.nil_append]
  cases hbody with
  | again hsame hrec hlog hevs =>
      refine h.idle ?_ hsame.aviFile hrec hsame.totelFrames ?_ ?_ (fun _ => hrecording)
      · simp only [hlog]
        apply hlocking hevs
      · simp only [hsame.gRecTimeL]
        apply h.counting.timeL
      · simp only [hsame.framerate]
        apply h.counting.framerate
  | failed hsame hrec hlog =>
      have hcounted := congrArg counted hlog
      apply finishFile_counts
      · apply h.counting.idle hcounted hsame.aviFile hrec
        · rw [hsame.gRecTimeL]
          apply h.counting.timeL
        · rw [hsame.framerate]
          apply h.counting.framerate
      · apply hopen.idle hcounted hsame.aviFile hsame.totelFrames
      · apply (hunfinished.idle hcounted hsame.aviFile hrec hsame.totelFrames).justStored
  | @stored r₁ evs evs' serialBook d hsame hrec hlog hevs hevs' =>
      have hcounted : counted r₁.log = .store r.aviFile serialBook d :: counted r.log := by
        rw [hlog, hlocking hevs']
        apply congrArg (List.cons _) (hlocking hevs)
      apply finishFile_counts
      · apply h.counting.storing hopen hcounted hrec hsame
      · apply hopen.storing hcounted hsame
      · apply hunfinished.storing hcounted hrec hsame

/-- Every step of the recorder keeps the invariant `CountInvariant`. -/
theorem CountInvariant.step
    (h : CountInvariant r) (hstep : step r mv = some r') :
  CountInvariant r'
  := by
  have htimeL := h.counting.timeL
  have hframerate := h.counting.framerate
  cases stepped_of_step hstep with
  | exit hpc hafter _ =>
      refine h.idle rfl rfl rfl rfl htimeL hframerate ?_
      simp [aviSaveExit2, Pc.recording]
  | walk pc gRecStatus hwalks _ =>
      obtain ⟨-, -, hpc', -⟩ := Pc.walks_outside hwalks
      refine h.idle rfl rfl rfl rfl htimeL hframerate ?_
      simp [hpc']
  | scheduled hpc hsch =>
      refine h.idle rfl rfl rfl rfl htimeL hframerate ?_
      simp [Pc.recording]
  | info hpc =>
      refine h.idle rfl rfl rfl rfl htimeL (getVideoInfo_framerate _ _ _ _ r) ?_
      simp [getVideoInfo, Pc.recording]
  | delete hpc =>
      refine h.idle rfl rfl rfl rfl htimeL hframerate ?_
      simp [Pc.recording]
  | opened hpc => apply h.counting.opening
  | headerError hpc _ =>
      refine h.idle rfl rfl rfl rfl htimeL hframerate ?_
      simp [aviSaveExit1, aviSaveExit2, Pc.recording]
  | headers hpc =>
      refine h.idle rfl rfl rfl rfl htimeL hframerate ?_
      simp [hpc, Pc.recording]
  | goOn hpc hquit =>
      refine h.idle rfl rfl rfl rfl htimeL hframerate ?_
      simp [hpc, Pc.recording]
  | quit hpc hquit =>
      refine h.idle rfl rfl rfl rfl htimeL hframerate ?_
      simp [Pc.recording]
  | body hpc => apply (bodyStepped_loopBody _ _ _ _ r).counts h hpc
  | close hpc hfinish =>
      refine h.idle rfl rfl rfl rfl htimeL hframerate ?_
      simp [Pc.recording]
  | closed hpc hfinish =>
      refine h.idle rfl rfl rfl rfl htimeL hframerate ?_
      simp [Pc.recording]
  | aviStop => exact h.idle rfl rfl rfl rfl htimeL hframerate (fun hpc => hpc)
  | aviEnable => exact h.idle rfl rfl rfl rfl htimeL hframerate (fun hpc => hpc)
  | aviTimeL => exact h.idle rfl rfl rfl rfl (recTimeL_ge _) hframerate (fun hpc => hpc)
  | aviSchd => exact h.idle rfl rfl rfl rfl htimeL hframerate (fun hpc => hpc)

/-! ### Whole runs -/

/-- When the thread of `r` is created nothing has been recorded, so the invariant `CountInvariant`
holds. -/
theorem CountInvariant.started (h : Started r) : CountInvariant r := by
  have hlog : counted r.log = [] := by
    obtain ⟨-, hlog⟩ | ⟨-, hlog⟩ := h.quit
    all_goals
      rw [hlog]
      rfl
  constructor
  · constructor
    · obtain ⟨iValue, hvalue⟩ := h.timeL
      rw [hvalue]
      apply recTimeL_ge
    · rw [h.framerate]
      decide
    · rw [h.recFrames, hlog]
      rfl
    · simp [hlog]
    · simp [hlog]
    · intro file totelFrames hopen
      simp [hlog] at hopen
  · intro hpc
    rw [h.pc] at hpc
    contradiction

/-- In every run, a file that is closed as complete has had the `totelFrames` computed for it stored
into it, exactly if no frame was stored into an earlier file. -/
theorem complete_file_frames
    {mvs : List Move} (hr : Started r) (hrun : Run step (fun _ _ => True) r mvs r') {file : Nat}
    {totelFrames : Int} (hopen : .open file totelFrames ∈ r'.log)
    (hclose : .close file true ∈ r'.log) :
  stores file r'.log = totelFrames ↔ storesBefore file r'.log = 0
  := by
  have hinv : CountInvariant r' := by
    apply hrun.invariant (fun _ _ _ h _ hstep => h.step hstep)
    apply CountInvariant.started hr
  apply hinv.counting.complete.of_counted file totelFrames hopen hclose

/-- A run in which the first file is closed as complete, and holds the 480 frames that were computed
for it. -/
theorem complete_file_frames_newRecorder :
  ∃ r, Run step (fun _ _ => True) newRecorder (openFile ++ recordFrames 480) r
    ∧ .open 1 480 ∈ r.log ∧ .close 1 true ∈ r.log ∧ storesBefore 1 r.log = 0
    ∧ (stores 1 r.log = (480 : Int) ↔ storesBefore 1 r.log = 0)
  := by
  obtain ⟨r, hrun, hr⟩ := Run.exists_of_exec step (fun _ _ => True)
    newRecorder (fun r => r.log.contains (.open 1 480)
      && r.log.contains (.close 1 true) && storesBefore 1 r.log == 0)
    (openFile ++ recordFrames 480) (by decide +kernel)
  simp only [Bool.and_eq_true, List.contains_iff_mem, beq_iff_eq] at hr
  obtain ⟨⟨hopen, hclose⟩, hbefore⟩ := hr
  use r, hrun, hopen, hclose, hbefore
  apply complete_file_frames newRecorder_started hrun hopen hclose

/-- A run in which the second file is closed as complete with a single frame, though 480 were
computed for it. -/
theorem complete_file_one_frame :
  ∃ r, Run step (fun _ _ => True) newRecorder
      (openFile ++ recordFrames 480 ++ [.after] ++ nextFile ++ recordFrames 1) r
    ∧ .open 2 480 ∈ r.log ∧ .close 2 true ∈ r.log ∧ stores 2 r.log = 1
  := by
  obtain ⟨r, hrun, hr⟩ := Run.exists_of_exec step (fun _ _ => True)
    newRecorder (fun r => r.log.contains (.open 2 480)
      && r.log.contains (.close 2 true) && stores 2 r.log == 1)
    (openFile ++ recordFrames 480 ++ [.after] ++ nextFile ++ recordFrames 1)
    (by decide +kernel)
  simp only [Bool.and_eq_true, List.contains_iff_mem, beq_iff_eq] at hr
  obtain ⟨⟨hopen, hclose⟩, hstores⟩ := hr
  use r, hrun, hopen, hclose, hstores

end AviSave
