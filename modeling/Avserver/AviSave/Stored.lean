import Avserver.AviSave.Recorder

/-!
# The frames that are stored

What a pass of the recorder's loop hands to `GMAVISetStreamDataAndIndex`, and how it was got: the
recorder is watched, and a mark is made when a file is begun, when the stream is taken up anew and
when a frame is stored.

Between two of the former the serials of the frames increase, and the first of them comes from a
request for an intra frame (`stored_in_order`).  What is stored is not always what the request has
yielded: the loop has one `AV_DATA` for all its calls of `mt_get`, and the query for the newest
serial overwrites the frame that is about to be stored (`stored_as_locked_iff`).

Serials are integers here; the code has `int`s, whose overflow is undefined.
-/

namespace AviSave

open Library

/-- A frame that is stored: `SerialBook` and the data that `GMAVISetStreamDataAndIndex` is given;
and the request of the same pass, whether it is `AV_LOCK_MP4_IFRAME`, whether it has succeeded, and
what it has yielded. -/
structure Stored where
  serialBook : Int
  avData : AvData
  iFrameRequest : Bool
  ret : Bool
  answer : AvData
deriving DecidableEq

/-- What is noted about the recorder, in the order in which it happens: a new file, a new start of
the stream, or a frame that is stored. -/
inductive Mark where
  /-- the headers of a file are written, and its loop begins -/
  | file
  /-- `streamFlag` is set in the loop, so that the stream is taken up anew -/
  | resync
  /-- a frame is stored -/
  | frame (f : Stored)
deriving DecidableEq

/-- What a step from `r` to `r'` has added to the log. -/
def newEvents (r r' : Recorder) : List Event := r'.log.take (r'.log.length - r.log.length)

/-- The mark for an event of a pass whose request had the result `ret` and yielded `data`, if it
stores a frame. -/
def Event.mark (ret : Bool) (data : AvData) (r : Recorder) : Event → Option Mark
  | .store _ serialBook avData =>
      some (.frame ⟨serialBook, avData, decide (r.streamFlag ≠ 0), ret, data⟩)
  | _ => none

/-- The marks of the frames that a pass of the loop body from `r` to `r'` has stored. -/
def storedFrames (ret : Bool) (data : AvData) (r r' : Recorder) : List Mark :=
  (newEvents r r').filterMap (Event.mark ret data r)

/-- What is noted about a step `mv` from `r` to `r'`, the last mark first. -/
def marks (r : Recorder) (mv : Move) (r' : Recorder) : List Mark :=
  match mv with
  | .header _ _ _ _ => if r'.pc = .quitTest then [.file] else []
  | .body ret data _ _ =>
      (if r'.streamFlag ≠ 0 then [.resync] else []) ++ storedFrames ret data r r'
  | _ => []

/-- The recorder with the `marks` made so far, the last one first. -/
structure Watched where
  recorder : Recorder
  marks : List Mark

/-- A step of the recorder in `w`, with the marks that it makes. -/
def watchedStep (w : Watched) (mv : Move) : Option Watched :=
  (step w.recorder mv).map fun r' => ⟨r', marks w.recorder mv r' ++ w.marks⟩

/-! ### What a pass stores -/

section Pass

variable {r r' : Recorder} {ret : Bool} {data now unlock : AvData}

theorem storedFrames_eq {evs : List Event} (h : r'.log = evs ++ r.log) :
  storedFrames ret data r r' = evs.filterMap (Event.mark ret data r)
  := by
  have hnew : newEvents r r' = evs := by
    rw [newEvents, h, List.length_append, Nat.add_sub_cancel, List.take_left]
  rw [storedFrames, hnew]

/-- The events `evs`, which lock and unlock frames, make no mark of a stored frame. -/
theorem mark_locking {evs : List Event} (hevs : ∀ ev ∈ evs, ev.locking) :
  evs.filterMap (Event.mark ret data r) = []
  := by
  rw [List.filterMap_eq_nil_iff]
  intro ev hev
  have hlocking := hevs ev hev
  cases ev with
  | store file serialBook avData => contradiction
  | _ => rfl

/-- The recorder behind a request that is not overtaken: the stream is no longer to be taken up, and
the frame is noted. -/
def locked (ret : Bool) (data : AvData) (r : Recorder) : Recorder :=
  { r with
    avData := data, serialBook := data.serial, streamFlag := 0, log := lockLog ret data r.log }

theorem lockFrame_eq (ret : Bool) (h : ¬ overtaken data r) :
  lockFrame ret data r = (locked ret data r, true)
  := by
  unfold lockFrame
  dsimp only
  split
  · rfl
  · next hflag =>
      have hflag : r.streamFlag = 0 := not_not.mp hflag
      obtain ⟨hserial, hptr⟩ := not_or.mp (fun hcon => h ⟨hflag, hcon⟩)
      simp only [hserial, if_false, hptr, ne_eq, not_false_eq_true, decide_true, locked, hflag,
        lockLog]

/-- The data that is stored: that of the query for the newest serial, `now`, if the frame is an
intra frame and the countdown has ended, and otherwise `data`. -/
def storedData (data now : AvData) (r : Recorder) : AvData :=
  if data.iFrame = true ∧ r.check = 0 then now else data

/-- The end of the loop body, `finishFile`, stores nothing, and leaves `streamFlag` and `serialBook`
alone. -/
theorem finishFile_eq (r₁ : Recorder) :
  (∃ evs, (finishFile r₁).log = evs ++ r₁.log ∧ evs.filterMap (Event.mark ret data r) = [])
    ∧ (finishFile r₁).streamFlag = r₁.streamFlag ∧ (finishFile r₁).serialBook = r₁.serialBook
  := by
  unfold finishFile
  split
  · exact ⟨⟨[.close r₁.aviFile true], rfl, rfl⟩, rfl, rfl⟩
  · exact ⟨⟨[], rfl, rfl⟩, rfl, rfl⟩

/-- A pass that is `overtaken` stores nothing, and leaves the cursor `serialBook` where it is, or
moves it on. -/
theorem loopBody_again (h : overtaken data r) :
  let r' := loopBody ret data now unlock r
  storedFrames ret data r r' = [] ∧ r'.streamFlag = 0 ∧ r.serialBook ≤ r'.serialBook
  := by
  obtain ⟨r₁, hbody, -, -, -, hlog⟩ := loopBody_overtaken ret now unlock h
  constructor
  · have hlog' : (loopBody ret data now unlock r).log = lockLog ret data [] ++ r.log := by
      rw [hbody]
      show r₁.log = _
      rw [hlog]
      cases ret with
      | false => rfl
      | true => rfl
    rw [storedFrames_eq hlog']
    apply mark_locking
    apply locking_lockLog
  · obtain ⟨hflag, hover⟩ := h
    simp only [loopBody, lockFrame, hflag, ne_eq, not_true, if_false]
    split
    · simp only [Bool.false_eq_true, if_false, true_and]
      apply Int.le_refl
    · next hserial =>
        have hptr : data.ptr = 0 := hover.resolve_left hserial
        simp only [hptr, not_true, decide_false, Bool.false_eq_true, if_false, true_and]
        apply Int.not_lt.mp hserial

/-- A pass whose request fails stores nothing, and takes the stream up anew: `streamFlag` is set. -/
theorem loopBody_failing (h : ¬ overtaken data r) :
  let r' := loopBody false data now unlock r
  storedFrames false data r r' = [] ∧ r'.streamFlag ≠ 0
  := by
  obtain ⟨r₁, hbody, hflag, hlog⟩ : ∃ r₁, loopBody false data now unlock r = finishFile r₁
      ∧ r₁.streamFlag = 1 ∧ r₁.log = r.log := by
    simp only [loopBody, lockFrame_eq false h, checkLag, storeFrame, Bool.false_eq_true,
      false_and, if_false, if_true]
    exact ⟨_, rfl, rfl, rfl⟩
  obtain ⟨⟨evs, hlog', hevs⟩, hflag', -⟩ := @finishFile_eq r false data r₁
  rw [hlog] at hlog'
  dsimp only
  rw [hbody, storedFrames_eq hlog', hflag', hflag]
  use hevs
  decide

/-- A pass whose frame is `lagging` stores nothing, and takes the stream up anew: `streamFlag` is
set. -/
theorem loopBody_late (h : ¬ overtaken data r) (hlag : lagging ret data now r) :
  let r' := loopBody ret data now unlock r
  storedFrames ret data r r' = [] ∧ r'.streamFlag ≠ 0
  := by
  obtain ⟨r₁, hbody, -, -, -, hlog⟩ := loopBody_lagging unlock h hlag
  have hlog' : (loopBody ret data now unlock r).log
      = [.unlock data.serial, .lock data.serial] ++ r.log := by
    rw [hbody]
    apply hlog
  use storedFrames_eq hlog'
  obtain ⟨rfl, hI, hzero, hserial⟩ := hlag
  simp [loopBody, lockFrame_eq true h, checkLag, locked, hI, hzero, hserial]

/-- The test for lag, `checkLag`, on a frame that is not `lagging` leaves the recorder with the data
that is going to be stored. -/
theorem checkLag_locked (hlag : ¬ lagging true data now r) :
  ∃ c, checkLag true now unlock (locked true data r)
    = ({ locked true data r with avData := storedData data now r, check := c }, true)
  := by
  unfold checkLag storedData
  simp only [locked, true_and]
  by_cases hI : data.iFrame = true ∧ r.check = 0
  · have hserial : ¬ now.serial - data.serial > 25 := fun hcon => hlag ⟨rfl, hI.1, hI.2, hcon⟩
    simp only [hI, ge_iff_le, Int.le_refl, and_self, if_true, hserial, if_false]
    use aviToCheck
  · simp only [hI, if_false]
    split
    · use r.check - 1
    · use r.check

/-- A pass that stores a frame makes one mark, with the serial of the frame, and puts the cursor
`serialBook` behind it. -/
theorem loopBody_frame (h : ¬ overtaken data r) (hlag : ¬ lagging true data now r) :
  let r' := loopBody true data now unlock r
  storedFrames true data r r' = [.frame ⟨data.serial, storedData data now r,
      decide (r.streamFlag ≠ 0), true, data⟩]
    ∧ r'.streamFlag = 0 ∧ r'.serialBook = data.serial + 1
  := by
  obtain ⟨c, hcheck⟩ := @checkLag_locked r data now unlock hlag
  obtain ⟨r₁, hstore, hflag, hbook, hlog⟩ : ∃ r₁, storeFrame true unlock { locked true data r with
        avData := storedData data now r, check := c } = r₁
      ∧ r₁.streamFlag = 0 ∧ r₁.serialBook = data.serial + 1
      ∧ r₁.log = unlockPrevious r.serialLock
        ++ .store r.aviFile data.serial (storedData data now r) :: .lock data.serial :: r.log := by
    refine ⟨_, rfl, ?_⟩
    simp only [storeFrame, locked, lockLog, if_true, unlockPrevious]
    split
    · exact ⟨rfl, rfl, rfl⟩
    · exact ⟨rfl, rfl, rfl⟩
  obtain ⟨⟨evs, hlog', hevs⟩, hflag', hbook'⟩ := @finishFile_eq r true data r₁
  have hbody : loopBody true data now unlock r = finishFile r₁ := by
    simp only [loopBody, lockFrame_eq true h, hcheck, hstore, if_true]
  have hall : (finishFile r₁).log = (evs ++ unlockPrevious r.serialLock
      ++ [.store r.aviFile data.serial (storedData data now r), .lock data.serial]) ++ r.log := by
    rw [hlog', hlog]
    simp
  dsimp only
  rw [hbody, storedFrames_eq hall, hflag', hflag, hbook', hbook, List.filterMap_append,
    List.filterMap_append, hevs, mark_locking (fun ev hev => locking_unlockPrevious hev)]
  exact ⟨rfl, rfl, rfl⟩

end Pass

/-! ### The order of the frames -/

/-- The frames stored since the last mark that is not of a frame, the last one first; `none` if
there is no such mark, before the first file. -/
def current : List Mark → Option (List Stored)
  | [] => none
  | .file :: _ => some []
  | .resync :: _ => some []
  | .frame f :: ms => (current ms).map (f :: ·)

/-- The frame `f` follows those stored before it: the first one comes from a request for an intra
frame that has succeeded, and every other one has a serial beyond that of the frame before. -/
def Follows (f : Stored) : List Stored → Prop
  | [] => f.iFrameRequest = true ∧ f.ret = true
  | g :: _ => g.serialBook < f.serialBook

/-- Every frame among the marks follows those that were stored since the stream was last taken up,
in the sense of `Follows`. -/
def InOrder : List Mark → Prop
  | [] => True
  | .file :: ms => InOrder ms
  | .resync :: ms => InOrder ms
  | .frame f :: ms => InOrder ms ∧ ∃ seg, current ms = some seg ∧ Follows f seg

/-- The frames of `seg`, the last one first, begin with an intra frame that was asked for, and their
serials increase. -/
def Stretch (seg : List Stored) : Prop :=
  seg.Pairwise (fun f g => g.serialBook < f.serialBook)
    ∧ ∀ f ∈ seg.getLast?, f.iFrameRequest = true ∧ f.ret = true

theorem inOrder_of_append {late ms : List Mark} (h : InOrder (late ++ ms)) :
  InOrder ms
  := by
  induction late with
  | nil => apply h
  | cons m late ih =>
      cases m with
      | file => apply ih h
      | resync => apply ih h
      | frame f => apply ih h.1

theorem current_append
    {m : Mark} (hm : m = .file ∨ m = .resync) (seg : List Stored) (early : List Mark) :
  current (seg.map .frame ++ m :: early) = some seg
  := by
  induction seg with
  | nil =>
      rcases hm with rfl | rfl
      · rfl
      · rfl
  | cons f seg ih =>
      simp only [List.map_cons, List.cons_append, current, ih, Option.map_some]

/-- If the marks are in order, then the frames behind a mark `m` that is not of a frame are a
`Stretch`. -/
theorem InOrder.stretch
    {m : Mark} (hm : m = .file ∨ m = .resync) {seg : List Stored} {early : List Mark}
    (h : InOrder (seg.map .frame ++ m :: early)) :
  Stretch seg
  := by
  induction seg with
  | nil => exact ⟨List.Pairwise.nil, fun f hf => by contradiction⟩
  | cons f seg ih =>
      obtain ⟨hrest, seg', hcurrent, hfollows⟩ := h
      obtain rfl := Option.some.inj ((current_append hm seg early).symm.trans hcurrent)
      obtain ⟨hpairs, hfirst⟩ := ih hrest
      cases seg with
      | nil =>
          constructor
          · apply List.pairwise_singleton
          · intro g hg
            obtain rfl := Option.some.inj hg
            apply hfollows
      | cons g seg =>
          constructor
          · rw [List.pairwise_cons]
            use ?_, hpairs
            intro k hk
            rcases List.mem_cons.mp hk with rfl | hk
            · apply hfollows
            · apply Int.lt_trans ((List.pairwise_cons.mp hpairs).1 k hk) hfollows
          · intro k hk
            apply hfirst k
            rw [List.getLast?_cons_cons] at hk
            apply hk

/-- If the marks are in order, no frame is stored before the first mark of a file. -/
theorem InOrder.begun {seg : List Stored} (h : InOrder (seg.map .frame)) :
  seg = []
  := by
  have hnone (seg : List Stored) : current (seg.map .frame) = none := by
    induction seg with
    | nil => rfl
    | cons f seg ih => simp only [List.map_cons, current, ih, Option.map_none]
  cases seg with
  | nil => rfl
  | cons f seg =>
      obtain ⟨-, seg', hcurrent, -⟩ := h
      rw [hnone] at hcurrent
      contradiction

/-- The places in the loop of a file, its test and its body. -/
def Pc.looping (pc : Pc) : Prop := pc = .quitTest ∨ pc = .body

/-- Where the cursor of `r` is in the loop: no frame of `seg` has been stored since the stream is to
be taken up, or it is beyond the last one. -/
def Cursor (r : Recorder) (seg : List Stored) : Prop :=
  (r.streamFlag ≠ 0 → seg = []) ∧
  (r.streamFlag = 0 → ∃ f rest, seg = f :: rest ∧ f.serialBook < r.serialBook)

/-- The frames of `w` are `InOrder`, and in the loop of a file the `Cursor` is beyond them. -/
structure Ordered (w : Watched) : Prop where
  inOrder : InOrder w.marks
  cursor : w.recorder.pc.looping → ∃ seg, current w.marks = some seg ∧ Cursor w.recorder seg

section Step

variable {w w' : Watched} {mv : Move} {r r' : Recorder}

/-- A step that writes no headers and is no pass of the loop body leaves the cursor alone, and does
not get into the loop. -/
theorem step_aside
    (h : step r mv = some r') (hheader : ∀ a b c d, mv ≠ .header a b c d)
    (hbody : ∀ ret data now unlock, mv ≠ .body ret data now unlock) :
  r'.pc.looping →
    r.pc.looping ∧ r'.streamFlag = r.streamFlag ∧ r'.serialBook = r.serialBook ∧ r'.check = r.check
  := by
  intro hloop
  cases stepped_of_step h with
  | exit | scheduled | info | delete | opened | quit | close | closed =>
      rcases hloop with hpc | hpc
      · cases hpc
      · cases hpc
  | walk pc gRecStatus hwalks =>
      obtain ⟨-, -, hpc', -⟩ := Pc.walks_outside hwalks
      rcases hloop with rfl | rfl
      · contradiction
      · contradiction
  | headerError => apply absurd rfl (hheader _ _ _ _)
  | headers => apply absurd rfl (hheader _ _ _ _)
  | goOn hpc => exact ⟨Or.inl hpc, rfl, rfl, rfl⟩
  | body => apply absurd rfl (hbody _ _ _ _)
  | aviStop => exact ⟨hloop, rfl, rfl, rfl⟩
  | aviEnable => exact ⟨hloop, rfl, rfl, rfl⟩
  | aviTimeL => exact ⟨hloop, rfl, rfl, rfl⟩
  | aviSchd => exact ⟨hloop, rfl, rfl, rfl⟩

/-- A pass of the loop body keeps the frames `Ordered`: the one that it stores, if any, follows
those before. -/
theorem Ordered.loopBody
    {ret : Bool} {data now unlock : AvData} {ms : List Mark} (h : Ordered ⟨r, ms⟩)
    (hpc : r.pc = .body) :
  Ordered ⟨loopBody ret data now unlock r,
    marks r (.body ret data now unlock) (loopBody ret data now unlock r) ++ ms⟩
  := by
  obtain ⟨seg, hcurrent, hflagged, hgoing⟩ := h.cursor (Or.inr hpc)
  simp only [marks]
  by_cases hover : overtaken data r
  · obtain ⟨hstored, hflag, hbook⟩ := @loopBody_again r ret data now unlock hover
    rw [hstored, hflag]
    use h.inOrder
    intro _
    obtain ⟨f, rest, hseg, hlt⟩ := hgoing hover.1
    use seg, hcurrent
    constructor
    · intro hne
      apply absurd hflag hne
    · intro _
      exact ⟨f, rest, hseg, Int.lt_of_lt_of_le hlt hbook⟩
  · have hresync (hnew : storedFrames ret data r (AviSave.loopBody ret data now unlock r) = []
        ∧ (AviSave.loopBody ret data now unlock r).streamFlag ≠ 0) :
        Ordered ⟨AviSave.loopBody ret data now unlock r,
          ((if (AviSave.loopBody ret data now unlock r).streamFlag ≠ 0 then [.resync] else [])
            ++ storedFrames ret data r (AviSave.loopBody ret data now unlock r)) ++ ms⟩ := by
      obtain ⟨hstored, hflag⟩ := hnew
      rw [hstored, if_pos hflag]
      use h.inOrder
      intro _
      use [], rfl
      exact ⟨fun _ => rfl, fun hzero => absurd hzero hflag⟩
    cases ret with
    | false => apply hresync (loopBody_failing hover)
    | true =>
        by_cases hlag : lagging true data now r
        · apply hresync (loopBody_late hover hlag)
        · obtain ⟨hstored, hflag, hbook⟩ := @loopBody_frame r data now unlock hover hlag
          rw [hstored, hflag]
          constructor
          · use h.inOrder, seg, hcurrent
            by_cases hzero : r.streamFlag = 0
            · -- the frame is at the cursor or beyond it
              obtain ⟨f, rest, rfl, hlt⟩ := hgoing hzero
              have hle : r.serialBook ≤ data.serial :=
                Int.not_lt.mp fun hgt => hover ⟨hzero, Or.inl hgt⟩
              apply Int.lt_of_lt_of_le hlt hle
            · obtain rfl := hflagged hzero
              exact ⟨decide_eq_true hzero, rfl⟩
          · intro _
            use ⟨data.serial, storedData data now r, decide (r.streamFlag ≠ 0), true, data⟩ :: seg
            constructor
            · simp only [ne_eq, not_true, if_false, List.nil_append, List.singleton_append,
                current, hcurrent, Option.map_some]
            · constructor
              · intro hne
                apply absurd hflag hne
              · intro _
                refine ⟨_, _, rfl, ?_⟩
                rw [hbook]
                apply Int.lt_succ

/-- A step of the recorder keeps the frames `Ordered`. -/
theorem Ordered.step (h : Ordered w) (hstep : watchedStep w mv = some w') :
  Ordered w'
  := by
  obtain ⟨r', hr, rfl⟩ := Option.map_eq_some_iff.mp hstep
  have haside (hheader : ∀ a b c d, mv ≠ .header a b c d)
      (hbody : ∀ ret data now unlock, mv ≠ .body ret data now unlock)
      (hmarks : marks w.recorder mv r' = []) :
      Ordered ⟨r', marks w.recorder mv r' ++ w.marks⟩ := by
    rw [hmarks]
    use h.inOrder
    intro hloop
    obtain ⟨hloop', hflag, hbook, -⟩ := step_aside hr hheader hbody hloop
    obtain ⟨seg, hcurrent, hcursor⟩ := h.cursor hloop'
    use seg, hcurrent
    rw [Cursor, hflag, hbook]
    apply hcursor
  cases mv with
  | header ret₁ ret₂ ret₃ ret₄ =>
      simp only [AviSave.step] at hr
      split at hr
      · split at hr
        · obtain rfl := Option.some.inj hr
          use h.inOrder
          rintro (hpc | hpc)
          · cases hpc
          · cases hpc
        · obtain rfl := Option.some.inj hr
          use h.inOrder
          intro _
          use [], rfl
          exact ⟨fun _ => rfl, fun hzero => absurd (show (1 : Int) = 0 from hzero) (by decide)⟩
      · contradiction
  | body ret data now unlock =>
      simp only [AviSave.step] at hr
      split at hr
      · next hpc =>
          obtain rfl := Option.some.inj hr
          apply h.loopBody hpc
      · contradiction
  | _ => apply haside (by simp) (by simp) rfl

end Step

/-- In every run of the recorder, from its start on, the frames stored between two resyncs have
increasing serials, and the first one behind a resync, or behind the headers of a file, comes from a
request for an intra frame that has succeeded: they are a `Stretch`. -/
theorem stored_in_order
    {r : Recorder} {mvs : List Move} {w : Watched} (hpc : r.pc = .start)
    (hrun : Run watchedStep (fun _ _ => True) ⟨r, []⟩ mvs w) :
  (∀ m, (m = .file ∨ m = .resync) → ∀ late seg early,
      w.marks = late ++ (seg.map .frame ++ m :: early) → Stretch seg)
    ∧ ∀ late seg, w.marks = late ++ seg.map .frame → seg = []
  := by
  have hstart : Ordered ⟨r, []⟩ := by
    constructor
    · trivial
    · rintro (hloop | hloop)
      · cases hpc.symm.trans hloop
      · cases hpc.symm.trans hloop
  have hordered : Ordered w :=
    hrun.invariant (fun _ _ _ hs _ hstep => hs.step hstep) hstart
  have horder := hordered.inOrder
  constructor
  · intro m hm late seg early heq
    rw [heq] at horder
    apply (inOrder_of_append horder).stretch hm
  · intro late seg heq
    rw [heq] at horder
    apply (inOrder_of_append horder).begun

/-- A run with a frame of each kind, a request that fails, and a new start of the stream. -/
theorem stored_in_order_newRecorder :
  ∃ w : Watched, w.marks.length = 5 ∧
    ∀ m, (m = .file ∨ m = .resync) → ∀ late seg early,
      w.marks = late ++ (seg.map .frame ++ m :: early) → Stretch seg
  := by
  obtain ⟨w, hrun, hw⟩ := Run.exists_of_exec watchedStep (fun _ _ => True) ⟨newRecorder, []⟩
    (fun w => w.marks.length == 5)
    (openFile ++ recordFrames 2
      ++ [.quitTest, .body false ⟨1, 0, false, 3⟩ ⟨0, 0, false, 0⟩ ⟨0, 0, false, 0⟩]
      ++ recordFrames 1)
    (by decide +kernel)
  use w
  constructor
  · simpa using hw
  · apply (stored_in_order rfl hrun).1

/-! ### The data of the frames -/

/-- The values `d` and `d'` of an `AV_DATA` describe the same frame to `GMAVISetStreamDataAndIndex`,
which does not read the serial. -/
def SameFrame (d d' : AvData) : Prop := d.ptr = d'.ptr ∧ d.size = d'.size ∧ d.iFrame = d'.iFrame

/-- Every frame among the marks has been stored with what its own request has yielded. -/
def AsLocked (ms : List Mark) : Prop :=
  ∀ f, .frame f ∈ ms →
    f.ret = true ∧ f.answer.serial = f.serialBook ∧ SameFrame f.avData f.answer

/-- The query for the newest serial leaves the data of the frame alone, wherever the move makes it
for a frame that is then stored. -/
def QueryKeeps (r : Recorder) : Move → Prop
  | .body ret data now _ =>
      ret = true → ¬ overtaken data r → data.iFrame = true → r.check = 0 →
        ¬ now.serial - data.serial > 25 → SameFrame now data
  | _ => True

/-- A pass of the loop body stores what its request has yielded exactly if it is one of
`QueryKeeps`. -/
theorem loopBody_asLocked (r : Recorder) (ret : Bool) (data now unlock : AvData) :
  AsLocked (marks r (.body ret data now unlock) (loopBody ret data now unlock r))
    ↔ QueryKeeps r (.body ret data now unlock)
  := by
  have hnone (hnew : storedFrames ret data r (loopBody ret data now unlock r) = []) :
      AsLocked (marks r (.body ret data now unlock) (loopBody ret data now unlock r)) := by
    intro f hf
    simp only [marks, hnew, List.append_nil] at hf
    split at hf
    · cases List.mem_singleton.mp hf
    · contradiction
  by_cases hover : overtaken data r
  · constructor
    · intro _ _ hnot
      apply absurd hover hnot
    · intro _
      apply hnone (loopBody_again hover).1
  · cases ret with
    | false =>
        constructor
        · intro _ hret
          contradiction
        · intro _
          apply hnone (loopBody_failing hover).1
    | true =>
        by_cases hlag : lagging true data now r
        · constructor
          · intro _ _ _ _ _ hserial
            apply absurd hlag.2.2.2 hserial
          · intro _
            apply hnone (loopBody_late hover hlag).1
        · obtain ⟨hstored, hflag, -⟩ := @loopBody_frame r data now unlock hover hlag
          have hmarks : marks r (.body true data now unlock) (loopBody true data now unlock r)
              = [.frame ⟨data.serial, storedData data now r, decide (r.streamFlag ≠ 0), true,
                  data⟩] := by
            rw [marks, hstored, if_neg (not_not.mpr hflag)]
            rfl
          rw [hmarks]
          constructor
          · intro h _ _ hI hzero _
            have hsame := (h _ List.mem_cons_self).2.2
            rwa [storedData, if_pos ⟨hI, hzero⟩] at hsame
          · intro hkeeps f hf
            obtain rfl := Mark.frame.inj (List.mem_singleton.mp hf)
            refine ⟨rfl, rfl, ?_⟩
            unfold storedData
            split
            · next hI =>
                apply hkeeps rfl hover hI.1 hI.2
                intro hserial
                apply hlag ⟨rfl, hI.1, hI.2, hserial⟩
            · exact ⟨rfl, rfl, rfl⟩

/-- A step from a state whose frames are stored as they were locked leads to one exactly if the
query keeps them, `QueryKeeps`. -/
theorem watchedStep_asLocked
    {w w' : Watched} {mv : Move} (h : AsLocked w.marks) (hstep : watchedStep w mv = some w') :
  AsLocked w'.marks ↔ QueryKeeps w.recorder mv
  := by
  obtain ⟨r', hr, rfl⟩ := Option.map_eq_some_iff.mp hstep
  have hnew : AsLocked (marks w.recorder mv r' ++ w.marks) ↔ AsLocked (marks w.recorder mv r') := by
    constructor
    · intro hall f hf
      apply hall f (List.mem_append_left _ hf)
    · intro hms f hf
      rcases List.mem_append.mp hf with hf | hf
      · apply hms f hf
      · apply h f hf
  apply hnew.trans
  have hempty : AsLocked [] := fun f hf => absurd hf List.not_mem_nil
  cases mv with
  | header ret₁ ret₂ ret₃ ret₄ =>
      apply iff_of_true _ trivial
      intro f hf
      simp only [marks] at hf
      split at hf
      · cases List.mem_singleton.mp hf
      · contradiction
  | body ret data now unlock =>
      simp only [step] at hr
      split at hr
      · obtain rfl := Option.some.inj hr
        apply loopBody_asLocked
      · contradiction
  | _ => apply iff_of_true hempty trivial

/-- In every run, all frames that are stored are stored with what their own requests have yielded,
in every state reached, exactly if the query for the newest serial leaves the data alone in every
step: `QueryKeeps`. -/
theorem stored_as_locked_iff
    {r : Recorder} {mvs : List Move} {w : Watched}
    (hrun : Run watchedStep (fun _ _ => True) ⟨r, []⟩ mvs w) :
  (∀ pre post u, mvs = pre ++ post → Run watchedStep (fun _ _ => True) ⟨r, []⟩ pre u →
      AsLocked u.marks)
    ↔ Run watchedStep (fun w mv => QueryKeeps w.recorder mv) ⟨r, []⟩ mvs w
  := by
  apply Run.forall_prefix_iff (I := fun w => AsLocked w.marks) _ hrun
  · intro f hf
    contradiction
  · intro s mv s' hs _ hstep
    apply watchedStep_asLocked hs hstep

/-- Three frames, and an intra frame when the countdown has ended; the query for the newest serial
yields `now`. -/
def queried (now : AvData) : List Move :=
  openFile ++ recordFrames 3
    ++ [.quitTest, .body true ⟨4096, 100, true, 4⟩ now ⟨0, 0, false, 0⟩]

/-- A run in which the query yields the newest serial and leaves the rest of the data alone. -/
theorem stored_as_locked_iff_kept :
  ∃ w : Watched, w.marks.length = 5 ∧
    ((∀ pre post u, queried ⟨4096, 100, true, 5⟩ = pre ++ post →
        Run watchedStep (fun _ _ => True) ⟨newRecorder, []⟩ pre u → AsLocked u.marks)
      ↔ Run watchedStep (fun w mv => QueryKeeps w.recorder mv) ⟨newRecorder, []⟩
          (queried ⟨4096, 100, true, 5⟩) w)
  := by
  obtain ⟨w, hrun, hw⟩ := Run.exists_of_exec watchedStep (fun _ _ => True) ⟨newRecorder, []⟩
    (fun w => w.marks.length == 5) (queried ⟨4096, 100, true, 5⟩) (by decide +kernel)
  use w
  constructor
  · simpa using hw
  · apply stored_as_locked_iff hrun

/-- A run in which the query yields the newest serial and clears the rest of the data: a null
pointer is stored for the frame. -/
theorem stored_not_as_locked :
  ∃ w : Watched, Run watchedStep (fun _ _ => True) ⟨newRecorder, []⟩ (queried ⟨0, 0, false, 5⟩) w
    ∧ ¬ AsLocked w.marks
  := by
  obtain ⟨w, hrun, hw⟩ := Run.exists_of_exec watchedStep (fun _ _ => True) ⟨newRecorder, []⟩
    (fun w => w.marks.head? == some (.frame ⟨4, ⟨0, 0, false, 5⟩, false, true, ⟨4096, 100, true, 4⟩⟩))
    (queried ⟨0, 0, false, 5⟩) (by decide +kernel)
  use w, hrun
  intro h
  have hmem := List.mem_of_head? (beq_iff_eq.mp hw)
  have hptr := (h _ hmem).2.2.1
  contradiction

end AviSave
