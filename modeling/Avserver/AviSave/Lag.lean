import Avserver.AviSave.Stored

/-!
# Lag

When the recorder has stored `AVI_TO_CHECK` frames since it has taken up the stream, or since it has
last looked how far the stream is ahead, it is to look again at the next key frame.  The countdown
for this is decremented by the frames that are no key frames, and it does not stop at zero: a frame
that comes before the next key frame makes it negative, and from then on the recorder does not look
any more.

The frames are counted beside the recorder.  The recorder looks whenever it is to, in exactly
those runs in which each such key frame comes right behind the last frame of the countdown
(`lag_detected_iff`).
-/

namespace AviSave

open Library

/-! ### The frames since the last check -/

/-- A pass of the loop body compares the newest serial of the stream with `SerialBook`: its frame is
an intra frame and the countdown is at 0. -/
def compares (ret : Bool) (data : AvData) (r : Recorder) : Prop :=
  ret = true ∧ ¬ overtaken data r ∧ data.iFrame = true ∧ r.check = 0

instance (ret : Bool) (data : AvData) (r : Recorder) : Decidable (compares ret data r) := by
  unfold compares
  infer_instance

/-- The recorder with the number of frames that it has stored since the pass of the last resync or
comparison; and whether that pass was a comparison, so that it has stored its own frame. -/
structure Tally where
  recorder : Recorder
  stored : Nat
  compared : Bool

/-- The tally `c` behind a pass of the loop body that leads to the recorder `r'`. -/
def Tally.pass (c : Tally) (ret : Bool) (data : AvData) (r' : Recorder) : Tally :=
  if r'.streamFlag ≠ 0 then ⟨r', 0, false⟩
  else if compares ret data c.recorder then ⟨r', 0, true⟩
  else ⟨r', c.stored + (storedFrames ret data c.recorder r').length, c.compared⟩

/-- A step of the recorder in the tally `c`, with the count of the frames that it has stored. -/
def tallyStep (c : Tally) (mv : Move) : Option Tally :=
  (step c.recorder mv).map fun r' =>
    match mv with
    | .header _ _ _ _ =>
        if r'.pc = .quitTest then ⟨r', 0, false⟩ else { c with recorder := r' }
    | .body ret data _ _ => c.pass ret data r'
    | _ => { c with recorder := r' }

/-- The number of frames stored since the last resync or comparison; `counts` says whether the
frame that is stored right behind a comparison is counted. -/
def Tally.since (counts : Bool) (c : Tally) : Nat :=
  if counts = true ∧ c.compared = true then c.stored + 1 else c.stored

/-- The key frame that the move has locked, if it is a pass of the loop body that locks one. -/
def keyFrame (r : Recorder) : Move → Option AvData
  | .body ret data _ _ =>
      if ret = true ∧ ¬ overtaken data r ∧ data.iFrame = true then some data else none
  | _ => none

/-- Whatever the newest serial is, a frame `data` that is more than 25 behind is unlocked and not
stored, and the stream is taken up anew. -/
def DropsLag (data : AvData) (r : Recorder) : Prop :=
  ∀ now unlock, now.serial - data.serial > 25 →
    let r' := loopBody true data now unlock r
    r'.log = .unlock data.serial :: .lock data.serial :: r.log ∧ r'.streamFlag ≠ 0

/-- Lag is detected by the move if it locks a key frame after at least `AVI_TO_CHECK` frames;
`counts` says whether the frame behind a comparison counts. -/
def Detects (counts : Bool) (c : Tally) (mv : Move) : Prop :=
  ∀ data ∈ keyFrame c.recorder mv, aviToCheck ≤ c.since counts → DropsLag data c.recorder

/-- If the move locks a key frame after at least `AVI_TO_CHECK` frames, this comes right behind the
last frame of the countdown. -/
def OnTime (counts : Bool) (c : Tally) (mv : Move) : Prop :=
  ∀ _data ∈ keyFrame c.recorder mv, aviToCheck ≤ c.since counts → c.stored = aviToCheck

instance (counts : Bool) (c : Tally) (mv : Move) : Decidable (OnTime counts c mv) := by
  unfold OnTime
  infer_instance

/-! ### The countdown -/

/-- The value of `check` in a recorder that has stored the number `stored` of frames since it was
set. -/
def countdown (stored : Nat) : Int := max (-1) (aviToCheck - stored)

/-- In the loop of a file, the value of `check` is the countdown for the frames that the tally `c`
has counted. -/
def Armed (c : Tally) : Prop :=
  c.recorder.pc.looping → c.recorder.check = countdown c.stored

section Pass

variable {r r' : Recorder} {ret : Bool} {data now unlock : AvData}

theorem finishFile_check (r : Recorder) : (finishFile r).check = r.check := by
  unfold finishFile
  split
  · rfl
  · rfl

theorem storeFrame_check (r : Recorder) : (storeFrame true unlock r).check = r.check := by
  simp only [storeFrame, if_true]
  split
  · rfl
  · rfl

/-- A pass that is overtaken, and goes round, leaves the countdown `check` where it is. -/
theorem loopBody_again_check (h : overtaken data r) :
  (loopBody ret data now unlock r).check = r.check
  := by
  obtain ⟨hflag, hover⟩ := h
  simp only [loopBody, lockFrame, hflag, ne_eq, not_true, if_false]
  split
  · rfl
  · next hserial =>
      have hptr : data.ptr = 0 := hover.resolve_left hserial
      simp only [hptr, not_true, decide_false, Bool.false_eq_true, if_false]

/-- A pass whose request fails sets the countdown to `AVI_TO_CHECK`. -/
theorem loopBody_failing_check (h : ¬ overtaken data r) :
  (loopBody false data now unlock r).check = aviToCheck
  := by
  simp only [loopBody, lockFrame_eq false h, checkLag, storeFrame, Bool.false_eq_true, false_and,
    if_false, if_true, finishFile_check]

/-- A pass that compares sets the countdown to `AVI_TO_CHECK`. -/
theorem loopBody_compares_check (h : compares true data r) :
  (loopBody true data now unlock r).check = aviToCheck
  := by
  obtain ⟨-, hover, hI, hzero⟩ := h
  simp only [loopBody, lockFrame_eq true hover, checkLag, locked, hI, hzero, ge_iff_le,
    Int.le_refl, and_self, if_true]
  split
  · rfl
  · simp only [if_true, finishFile_check, storeFrame_check]

/-- Any other pass that locks a frame counts `check` down, to -1 and no further. -/
theorem loopBody_frame_check (h : ¬ overtaken data r) (hcompares : ¬ compares true data r) :
  (loopBody true data now unlock r).check = if r.check ≥ 0 then r.check - 1 else r.check
  := by
  have hno : ¬ (data.iFrame = true ∧ r.check = 0) := fun hcon => hcompares ⟨rfl, h, hcon⟩
  simp only [loopBody, lockFrame_eq true h, checkLag, locked, true_and, hno, if_false]
  by_cases hge : r.check ≥ 0
  · simp only [hge, if_true, finishFile_check, storeFrame_check]
  · simp only [hge, if_true, if_false, finishFile_check, storeFrame_check]

/-- With every frame that is stored the countdown goes down by one, from 0 to -1, where it stays. -/
theorem countdown_succ (n : Nat) :
  countdown (n + 1) = if countdown n ≥ 0 then countdown n - 1 else countdown n
  := by
  simp only [countdown, aviToCheck]
  omega

/-- A pass of the loop body keeps the tally `Armed`. -/
theorem Armed.pass {c : Tally} (h : Armed c) (hpc : c.recorder.pc = .body) :
  Armed (c.pass ret data (loopBody ret data now unlock c.recorder))
  := by
  have hcheck := h (Or.inr hpc)
  have hreset (hflag : (loopBody ret data now unlock c.recorder).streamFlag ≠ 0)
      (hthree : (loopBody ret data now unlock c.recorder).check = aviToCheck) :
      Armed (c.pass ret data (loopBody ret data now unlock c.recorder)) := by
    rw [Tally.pass, if_pos hflag]
    intro _
    rw [hthree]
    rfl
  by_cases hover : overtaken data c.recorder
  · obtain ⟨hstored, hflag, -⟩ := @loopBody_again c.recorder ret data now unlock hover
    rw [Tally.pass, if_neg (not_not.mpr hflag), if_neg fun hcon => hcon.2.1 hover, hstored]
    intro _
    rw [loopBody_again_check hover]
    apply hcheck
  · cases ret with
    | false => apply hreset (loopBody_failing hover).2 (loopBody_failing_check hover)
    | true =>
        by_cases hcompares : compares true data c.recorder
        · by_cases hlag : lagging true data now c.recorder
          · apply hreset (loopBody_late hover hlag).2 (loopBody_compares_check hcompares)
          · obtain ⟨-, hflag, -⟩ := @loopBody_frame c.recorder data now unlock hover hlag
            rw [Tally.pass, if_neg (not_not.mpr hflag), if_pos hcompares]
            intro _
            rw [loopBody_compares_check hcompares]
            rfl
        · have hlag : ¬ lagging true data now c.recorder := by
            rintro ⟨_, hI, hzero, _⟩
            apply hcompares ⟨rfl, hover, hI, hzero⟩
          obtain ⟨hstored, hflag, -⟩ := @loopBody_frame c.recorder data now unlock hover hlag
          rw [Tally.pass, if_neg (not_not.mpr hflag), if_neg hcompares, hstored]
          intro _
          rw [loopBody_frame_check hover hcompares, hcheck]
          apply (countdown_succ c.stored).symm

end Pass

/-- A step of the recorder keeps the tally `Armed`. -/
theorem Armed.step {c c' : Tally} {mv : Move} (h : Armed c) (hstep : tallyStep c mv = some c') :
  Armed c'
  := by
  obtain ⟨r', hr, rfl⟩ := Option.map_eq_some_iff.mp hstep
  have haside (hheader : ∀ a b c d, mv ≠ .header a b c d)
      (hbody : ∀ ret data now unlock, mv ≠ .body ret data now unlock) :
      Armed { c with recorder := r' } := by
    intro hloop
    obtain ⟨hloop', -, -, hcheck⟩ := step_aside hr hheader hbody hloop
    rw [hcheck, h hloop']
  cases mv with
  | header ret₁ ret₂ ret₃ ret₄ =>
      simp only [AviSave.step] at hr
      split at hr
      · split at hr
        · obtain rfl := Option.some.inj hr
          rintro (hpc | hpc)
          · cases hpc
          · cases hpc
        · obtain rfl := Option.some.inj hr
          intro _
          rfl
      · contradiction
  | body ret data now unlock =>
      simp only [AviSave.step] at hr
      split at hr
      · next hpc =>
          obtain rfl := Option.some.inj hr
          apply h.pass hpc
      · contradiction
  | start | test | schedule | info | freeSpace | oldest | «open» | quitTest | after | aviStop
    | aviEnable | aviTimeL | aviSchd =>
      apply haside
      · intros
        intro hcon
        cases hcon
      · intros
        intro hcon
        cases hcon

/-! ### Where lag is detected -/

section Detected

variable {r : Recorder} {data : AvData}

/-- A pass that has locked the key frame `data` drops it for lag exactly if the countdown has come
to 0. -/
theorem dropsLag_iff (h : ¬ overtaken data r) (hI : data.iFrame = true) :
  DropsLag data r ↔ r.check = 0
  := by
  constructor
  · intro hdrops
    by_contra hcheck
    have hahead : data.serial + 26 - data.serial > 25 := by omega
    obtain ⟨-, hflag⟩ := hdrops ⟨0, 0, false, data.serial + 26⟩ data hahead
    obtain ⟨-, hflag', -⟩ := @loopBody_frame r data ⟨0, 0, false, data.serial + 26⟩ data h
      (fun hlag => hcheck hlag.2.2.1)
    apply hflag hflag'
  · intro hcheck now unlock hahead
    have hlag : lagging true data now r := ⟨rfl, hI, hcheck, hahead⟩
    obtain ⟨r₁, hbody, -, -, -, hlog⟩ := loopBody_lagging unlock h hlag
    constructor
    · rw [hbody]
      apply hlog
    · apply (loopBody_late h hlag).2

end Detected

/-- In a tally that is `Armed`, a step detects lag where it is to exactly if it is `OnTime`. -/
theorem Armed.detects_iff
    {c c' : Tally} {mv : Move} (counts : Bool) (h : Armed c) (hstep : tallyStep c mv = some c') :
  Detects counts c mv ↔ OnTime counts c mv
  := by
  obtain ⟨r', hr, -⟩ := Option.map_eq_some_iff.mp hstep
  have hdata : ∀ data ∈ keyFrame c.recorder mv,
      DropsLag data c.recorder ↔ countdown c.stored = 0 := by
    intro data hkey
    cases mv with
    | body ret data' now unlock =>
        simp only [keyFrame] at hkey
        split at hkey
        · next hlocked =>
            obtain rfl := Option.some.inj hkey
            simp only [AviSave.step] at hr
            split at hr
            · next hpc =>
                rw [dropsLag_iff hlocked.2.1 hlocked.2.2, h (Or.inr hpc)]
            · contradiction
        · contradiction
    | _ => contradiction
  have hsince : aviToCheck ≤ c.since counts → (countdown c.stored = 0 ↔ c.stored = aviToCheck) := by
    intro _
    simp only [countdown, aviToCheck]
    omega
  constructor
  · intro hdetects data hkey hcount
    apply (hsince hcount).mp
    apply (hdata data hkey).mp (hdetects data hkey hcount)
  · intro htime data hkey hcount
    apply (hdata data hkey).mpr
    apply (hsince hcount).mpr (htime data hkey hcount)

/-- Whether the frame behind a comparison is counted or not: in a run of the recorder, every step
that is to detect lag does, exactly if every step is `OnTime`. -/
theorem lag_detected_iff
    (counts : Bool) {r : Recorder} (hstart : Started r) (is : List Move) (c : Tally) :
  Run tallyStep (Detects counts) ⟨r, 0, false⟩ is c
    ↔ Run tallyStep (OnTime counts) ⟨r, 0, false⟩ is c
  := by
  have harmed : Armed ⟨r, 0, false⟩ := by
    rintro (hpc | hpc)
    · rw [hstart.pc] at hpc
      contradiction
    · rw [hstart.pc] at hpc
      contradiction
  have hcongr (hrun : Run tallyStep (fun _ _ => True) ⟨r, 0, false⟩ is c) :
      Run tallyStep (Detects counts) ⟨r, 0, false⟩ is c
        ↔ Run tallyStep (OnTime counts) ⟨r, 0, false⟩ is c := by
    apply Run.congr (I := fun c _ => Armed c) _ hrun harmed
    intro c mv _ c' h _ hstep
    exact ⟨h.detects_iff counts hstep, h.step hstep⟩
  constructor
  · intro hrun
    apply (hcongr (hrun.mono fun _ _ _ => trivial)).mp hrun
  · intro hrun
    apply (hcongr (hrun.mono fun _ _ _ => trivial)).mpr hrun

/-- A pass of the loop that obtains a frame with the given `serial`, while the newest one has the
serial `now`. -/
def obtainFrame (iFrame : Bool) (serial now : Int) : Move :=
  .body true ⟨1, 1, iFrame, serial⟩ ⟨1, 1, true, now⟩ ⟨0, 0, false, 0⟩

/-- A run with a key frame, two other frames, and the next key frame: with that the recorder looks
for lag, and takes the stream up anew. -/
theorem lag_detected_fourFrames :
  ∃ c, Run tallyStep (Detects true) ⟨newRecorder, 0, false⟩ (openFile ++
      [.quitTest, obtainFrame true 1 1, .quitTest, obtainFrame false 2 2,
        .quitTest, obtainFrame false 3 3, .quitTest, obtainFrame true 4 30]) c
    ∧ decide (c.recorder.streamFlag = 1 ∧ c.recorder.recFrames = 3) = true
  := by
  obtain ⟨c, hrun, hc⟩ := Run.exists_of_exec tallyStep (OnTime true) ⟨newRecorder, 0, false⟩
    (fun c => decide (c.recorder.streamFlag = 1 ∧ c.recorder.recFrames = 3)) (openFile ++
      [.quitTest, obtainFrame true 1 1, .quitTest, obtainFrame false 2 2,
        .quitTest, obtainFrame false 3 3, .quitTest, obtainFrame true 4 30]) (by decide +kernel)
  use c, (lag_detected_iff true newRecorder_started _ c).mpr hrun, hc

/-- A run with three other frames between the key frames: the second key frame is stored, however
far the stream is ahead. -/
theorem lag_not_detected :
  ∃ c, Run tallyStep (fun _ _ => True) ⟨newRecorder, 0, false⟩ (openFile ++
      [.quitTest, obtainFrame true 1 1, .quitTest, obtainFrame false 2 2,
        .quitTest, obtainFrame false 3 3, .quitTest, obtainFrame false 4 4, .quitTest]) c
    ∧ (∀ counts, aviToCheck ≤ c.since counts ∧ ¬ Detects counts c (obtainFrame true 5 1000))
    ∧ c.recorder.pc = .body
    ∧ (loopBody true ⟨1, 1, true, 5⟩ ⟨1, 1, true, 1000⟩ ⟨0, 0, false, 0⟩ c.recorder).streamFlag = 0
    ∧ (loopBody true ⟨1, 1, true, 5⟩ ⟨1, 1, true, 1000⟩ ⟨0, 0, false, 0⟩ c.recorder).recFrames = 5
  := by
  obtain ⟨c, hrun, hc⟩ := Run.exists_of_exec tallyStep (fun _ _ => True) ⟨newRecorder, 0, false⟩
    (fun c => decide (c.recorder.pc = .body ∧ c.stored = 4 ∧ c.compared = false
      ∧ keyFrame c.recorder (obtainFrame true 5 1000) = some ⟨1, 1, true, 5⟩
      ∧ (loopBody true ⟨1, 1, true, 5⟩ ⟨1, 1, true, 1000⟩ ⟨0, 0, false, 0⟩ c.recorder).streamFlag
        = 0
      ∧ (loopBody true ⟨1, 1, true, 5⟩ ⟨1, 1, true, 1000⟩ ⟨0, 0, false, 0⟩ c.recorder).recFrames
        = 5)) (openFile ++
      [.quitTest, obtainFrame true 1 1, .quitTest, obtainFrame false 2 2,
        .quitTest, obtainFrame false 3 3, .quitTest, obtainFrame false 4 4, .quitTest])
    (by decide +kernel)
  obtain ⟨hpc, hstored, hcompared, hkey, hflag, hframes⟩ := of_decide_eq_true hc
  refine ⟨c, hrun, ?_, hpc, hflag, hframes⟩
  intro counts
  have hsince : aviToCheck ≤ c.since counts := by
    simp [Tally.since, hcompared, hstored, aviToCheck]
  use hsince
  intro hdetects
  obtain ⟨-, hdropped⟩ := hdetects _ hkey hsince ⟨1, 1, true, 1000⟩ ⟨0, 0, false, 0⟩ (by decide)
  apply hdropped hflag

end AviSave
