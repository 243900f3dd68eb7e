import Avserver.Rtspd.Reboot

/-!
# The parameters that are reported and those that run

`env_cfg_init` loads the encoder file of a channel twice: to `enc[]`, with the limits and the
recoding, and to `g_stAv_0_file` or `g_stAv_1_file`, as it is.  The streams run with the former,
and `processMsg` reports the latter.  The file is loaded to the channel whose number is in it,
while the copy is that of the channel the file is of.

For the enabled streams the two are the same, whatever is in `ipc.cfg`, exactly when the number
in the file is right, the frame rate and the interval of the I frames are within the limits, and
the rate control is one of those recoded to.
-/

namespace Rtspd.Boot

open Msg (UbsField)

/-! ### What is reported, and what runs -/

/-- The parameters `u` of a stream that are reported are those of `v`, which the stream runs
with. -/
structure SameParams (u : UbsField → Int) (v : Video) : Prop where
  frameRate : v.fps = u .frameRate
  bitRate : v.bps = u .bitRate
  ipInterval : v.ipInterval = u .ipInterval
  width : v.width = u .width
  height : v.height = u .height
  rateCtlType : v.rateCtlType = u .rateCtlType

/-- For every enabled stream of the channel `c`, the parameters that are reported are those that it
runs with. -/
def Reports (c : ChNum) (s : State) : Prop :=
  ∀ i, (s.gStAv c).ubs i .streamEnable ≠ 0 →
    SameParams ((s.gStAv c).ubs i) ((s.enc c).bs i.subNum).video

/-- The boot comes to the encoder file of the channel `c`: no `fopen` for a channel up to it
fails. -/
structure Reached (env : Env) (c : ChNum) : Prop where
  sect : (env.cfg (.enc c)).isSome = true
  fopen : ∀ d ≤ c, (env.cfg (.enc d)).isSome = true → env.fopen d = true

/-- Whatever is in `ipc.cfg`, the boot keeps to the bounds of `enc[]`, and reports of each encoder
file that it has loaded what runs. -/
def ReportsRun (s : State) : Prop :=
  ∀ env, envCfgInit env s ≠ .error .index ∧
    ∀ s', envCfgInit env s = .ok s' →
      ∀ c, Reached env c → (s.encFile c).isSome = true → Reports c s'

/-- An encoder file `f` of the channel `c`, which has the number of a channel, and that of its own
if it enables a stream; the enabled streams can be loaded as they are. -/
structure Faithful (c : ChNum) (f : AvCfg) : Prop where
  channel : f.channel.isSome = true
  own : ∀ i, f.ubs i .streamEnable ≠ 0 → f.channel = some c
  loadable : ∀ i, f.ubs i .streamEnable ≠ 0 → Loadable (f.ubs i)

/-- The six parameters of `u` are the same after they have been loaded exactly when none of the
three is changed that may be. -/
theorem sameParams_loadVideo_iff (u : UbsField → Int) :
  SameParams u (loadVideo u) ↔ Loadable u
  := by
  rw [← loadable_iff]
  constructor
  · intro h
    exact ⟨h.frameRate, h.ipInterval, h.rateCtlType⟩
  · rintro ⟨hfps, hip, hrate⟩
    exact ⟨hfps, rfl, hip, rfl, rfl, hrate⟩

/-- The parameters of an enabled stream `i` of a channel that has been loaded are those of its place
in the file `f`. -/
theorem video_loadChannel
    (f : AvCfg) (e : Channel) {i : UbsNum} (h : f.ubs i .streamEnable ≠ 0) :
  ((loadChannel f e).bs i.subNum).video = loadVideo (f.ubs i)
  := by
  have hfiled : Filed i.subNum := i.isLt
  rw [loadChannel_bs_filed f e hfiled]
  simp only [UbsNum.subNum, Fin.val_castLE, loadStream, ne_eq, h, not_false_eq_true, if_true]

/-- The parameters of the streams of `e` stay as they were when a file `f` is loaded that enables
none. -/
theorem video_loadChannel_disabled
    {f : AvCfg} (hf : ∀ i, f.ubs i .streamEnable = 0) (e : Channel) (i : SubNum) :
  ((loadChannel f e).bs i).video = (e.bs i).video
  := by
  by_cases hfiled : Filed i
  · rw [loadChannel_bs_filed f e hfiled]
    simp only [loadStream, ne_eq, hf, not_true_eq_false, if_false]
  · rw [loadChannel_bs_of_not_filed f e hfiled]

/-! ### One iteration -/

variable {env : Env} {c : ChNum} {s s' : State} {go : Bool}

/-- What the channel `d` reports depends on its streams and on its copy of the file only. -/
theorem Reports.of_eq
    {d : ChNum} (h : Reports d s) (hfile : s'.gStAv d = s.gStAv d)
    (hvideo : ∀ i, ((s'.enc d).bs i).video = ((s.enc d).bs i).video) :
  Reports d s'
  := by
  intro i henabled
  rw [hfile] at henabled
  rw [hfile, hvideo]
  apply h i henabled

/-- What the iteration for the channel `c` does to what is reported, of this channel and of the
others. -/
structure Reporting (env : Env) (c : ChNum) (s s' : State) (go : Bool) : Prop where
  reports : (env.cfg (.enc c)).isSome = true → env.fopen c = true →
    (s.encFile c).isSome = true → Reports c s'
  keeps : ∀ d, d ≠ c → Reports d s → Reports d s'
  encFile_of_ne : ∀ d, d ≠ c → s'.encFile d = s.encFile d
  stops : go = false → (env.cfg (.enc c)).isSome = true ∧ env.fopen c = false

/-- The iteration for the channel `c` that loads an encoder file `f` which is `Faithful` lets the
channel report what it runs with. -/
theorem initChannel_load_reporting
    {sec : Keys} {e : Channel} {f : AvCfg} (hsec : env.cfg (.enc c) = some sec)
    (hread : readChannel env c sec (s.enc c) = some e) (hopen : env.fopen c = true)
    (hfile : s.encFile c = some f) (hf : Faithful c f) :
  ∃ s', initChannel env c s = .ok (s', true) ∧ Reporting env c s s' true
  := by
  obtain ⟨d₀, hd₀⟩ := Option.isSome_iff_exists.mp hf.channel
  obtain ⟨s', hok, henc, hencFile, hgStAv⟩ := initChannel_load hsec hread hopen hfile hd₀
  refine ⟨s', hok, ?_, ?_, ?_, nofun⟩
  · intro _ _ _ i henabled
    rw [hgStAv, Function.update_self] at henabled ⊢
    obtain rfl : d₀ = c := Option.some.inj (hd₀.symm.trans (hf.own i henabled))
    rw [henc, Function.update_self, video_loadChannel f _ henabled]
    apply (sameParams_loadVideo_iff _).mpr (hf.loadable i henabled)
  · intro d hd h
    apply h.of_eq
    · rw [hgStAv, Function.update_of_ne hd]
    · intro i
      rw [henc]
      by_cases heq : d = d₀
      · -- a file for another channel enables no stream
        have hdisabled : ∀ i, f.ubs i .streamEnable = 0 := by
          intro i
          by_contra henabled
          rw [hf.own i henabled] at hd₀
          exact hd (heq.trans (Option.some.inj hd₀).symm)
        subst heq
        rw [Function.update_self, video_loadChannel_disabled hdisabled, Function.update_of_ne hd]
      · rw [Function.update_of_ne heq, Function.update_of_ne hd]
  · intro d _
    rw [hencFile]

/-- An iteration for the channel `c` that loads no file leaves what the other channels report
alone. -/
theorem Reporting.of_others
    (hload : (env.cfg (.enc c)).isSome = true → env.fopen c = true →
      (s.encFile c).isSome = true → False)
    (henc : ∀ d, d ≠ c → s'.enc d = s.enc d) (hencFile : ∀ d, d ≠ c → s'.encFile d = s.encFile d)
    (hgStAv : ∀ d, d ≠ c → s'.gStAv d = s.gStAv d)
    (hstops : go = false → (env.cfg (.enc c)).isSome = true ∧ env.fopen c = false) :
  Reporting env c s s' go
  := by
  refine ⟨fun hsec hopen hfile => (hload hsec hopen hfile).elim, ?_, hencFile, hstops⟩
  intro d hd h
  apply h.of_eq
  · apply hgStAv d hd
  · intro i
    rw [henc d hd]

/-- The iteration for a channel `c` whose file is `Faithful`, if it has one, ends the program or is
`Reporting`. -/
theorem initChannel_reporting
    (env : Env) (hf : ∀ f, s.encFile c = some f → Faithful c f) :
  initChannel env c s = .error .exit
    ∨ ∃ s' go, initChannel env c s = .ok (s', go) ∧ Reporting env c s s' go
  := by
  cases hsec : env.cfg (.enc c) with
  | none =>
      right
      refine ⟨s, true, initChannel_skip hsec, ?_⟩
      apply Reporting.of_others
      · simp [hsec]
      · exact fun _ _ => rfl
      · exact fun _ _ => rfl
      · exact fun _ _ => rfl
      · nofun
  | some sec =>
      cases hread : readChannel env c sec (s.enc c) with
      | none =>
          left
          simp only [initChannel, hsec, hread]
      | some e =>
          right
          cases hopen : env.fopen c with
          | false =>
              obtain ⟨s', hok, henc, hencFile, hgStAv⟩ := initChannel_closed hsec hread hopen
              refine ⟨s', false, hok, ?_⟩
              apply Reporting.of_others
              · simp [hopen]
              · intro d hd
                rw [henc, Function.update_of_ne hd]
              · simp [hencFile]
              · simp [hgStAv]
              · simp [hsec, hopen]
          | true =>
              cases hfile : s.encFile c with
              | none =>
                  obtain ⟨s', hok, henc, hencFile, hgStAv⟩ := initChannel_new hsec hread hopen hfile
                  refine ⟨s', true, hok, ?_⟩
                  apply Reporting.of_others
                  · simp [hfile]
                  · intro d hd
                    rw [henc, Function.update_of_ne hd]
                  · intro d hd
                    rw [hencFile, Function.update_of_ne hd]
                  · intro d hd
                    rw [hgStAv, Function.update_of_ne hd]
                  · nofun
              | some f =>
                  obtain ⟨s', hok, hreporting⟩ :=
                    initChannel_load_reporting hsec hread hopen hfile (hf f hfile)
                  use s', true

/-! ### The boot -/

/-- If the encoder files of all channels are `Faithful`, then what is reported is what runs. -/
theorem reportsRun_of_faithful (hf : ∀ c f, s.encFile c = some f → Faithful c f) :
  ReportsRun s
  := by
  intro env
  obtain hexit | ⟨s₁, go, hok₁, h₁⟩ := initChannel_reporting env (hf 0)
  · simp [envCfgInit, hexit, bind, Except.bind]
  cases go with
  | false =>
      obtain ⟨hsome, hclosed⟩ := h₁.stops rfl
      simp only [envCfgInit, hok₁, bind, Except.bind]
      constructor
      · simp
      intro s' hs' c hreached _
      have hopen := hreached.fopen 0 (Fin.zero_le c) hsome
      rw [hclosed] at hopen
      contradiction
  | true =>
      have hfile : s₁.encFile 1 = s.encFile 1 := h₁.encFile_of_ne 1 (by decide)
      have hf₁ : ∀ f, s₁.encFile 1 = some f → Faithful 1 f := by
        rw [hfile]
        apply hf 1
      obtain hexit | ⟨s₂, go, hok₂, h₂⟩ := initChannel_reporting env hf₁
      · simp [envCfgInit, hok₁, hexit, bind, Except.bind]
      simp only [envCfgInit, hok₁, hok₂, bind, Except.bind, if_true]
      constructor
      · simp
      intro s' hs'
      obtain rfl := Except.ok.inj hs'
      refine Fin.forall_fin_two.mpr ?_
      constructor
      · intro hreached hsome
        apply h₂.keeps 0 (by decide)
        apply h₁.reports hreached.sect (hreached.fopen 0 (Fin.le_refl 0) hreached.sect) hsome
      · intro hreached hsome
        rw [← hfile] at hsome
        apply h₂.reports hreached.sect (hreached.fopen 1 (Fin.le_refl 1) hreached.sect) hsome

/-! ### A boot for one channel -/

/-- An `ipc.cfg` with the section of one channel and the sections of all of its streams, which
have the same number for every key. -/
def everyKey (c : ChNum) (v : Int) : Env where
  cfg
    | .enc d => if d = c then some fun _ => some v else none
    | .bs _ _ => some fun _ => some v
  fopen := fun _ => true
  doNotCare := -1

/-- A boot for which `ipc.cfg` has only the channel `c` is the iteration for that channel. -/
theorem envCfgInit_everyKey {v : Int} (hok : initChannel (everyKey c v) c s = .ok (s', true)) :
  envCfgInit (everyKey c v) s = .ok s'
  := by
  have hskip : ∀ d, d ≠ c → ∀ s, initChannel (everyKey c v) d s = .ok (s, true) :=
    fun d hd s => initChannel_skip (if_neg hd)
  match c with
  | 0 => simp only [envCfgInit, hok, hskip 1 (by decide), bind, Except.bind, if_true]
  | 1 => simp only [envCfgInit, hskip 0 (by decide), hok, bind, Except.bind, if_true]

theorem envCfgInit_everyKey_error
    {v : Int} {stop : Stop} (herr : initChannel (everyKey c v) c s = .error stop) :
  envCfgInit (everyKey c v) s = .error stop
  := by
  match c with
  | 0 => simp only [envCfgInit, herr, bind, Except.bind]
  | 1 =>
      have hskip : initChannel (everyKey 1 v) 0 s = .ok (s, true) := initChannel_skip rfl
      simp only [envCfgInit, hskip, herr, bind, Except.bind, if_true]

/-- With `everyKey`, the channel `c` is read, and its streams have the frame rate `v`. -/
theorem readChannel_everyKey (c : ChNum) (v : Int) (e : Channel) :
  ∃ e', readChannel (everyKey c v) c (fun _ => some v) e = some e'
    ∧ ∀ i, (e'.bs i).video.fps = v
  := by
  have hstream : ∀ i, ∃ b, readStream (everyKey c v) c i (e.bs i) = some b ∧ b.video.fps = v :=
    fun i => ⟨_, rfl, rfl⟩
  have hsome : ∀ i, (readStream (everyKey c v) c i (e.bs i)).isSome = true := by
    intro i
    obtain ⟨b, hb, _⟩ := hstream i
    rw [hb]
    rfl
  have hread : ∃ e', readChannel (everyKey c v) c (fun _ => some v) e = some e' := by
    simp only [readChannel, Option.bind_eq_bind, Option.bind_some, allStreams, dif_pos hsome]
    exact ⟨_, rfl⟩
  obtain ⟨e', he'⟩ := hread
  use e', he'
  intro i
  obtain ⟨b, hb, hfps⟩ := hstream i
  obtain rfl := Option.some.inj (hb.symm.trans (readChannel_bs he' i))
  apply hfps

/-- The file `f` of the channel `c` is `Faithful` if what is reported is what runs: else a boot for
the one channel shows the difference. -/
theorem faithful_of_reportsRun
    (h : ReportsRun s) {f : AvCfg} (hfile : s.encFile c = some f) :
  Faithful c f
  := by
  have hsec : ∀ v, (everyKey c v).cfg (.enc c) = some fun _ => some v := fun v => if_pos rfl
  have hchannel : f.channel ≠ none := by
    intro hnone
    obtain ⟨e, hread, _⟩ := readChannel_everyKey c 0 (s.enc c)
    apply (h (everyKey c 0)).1
    apply envCfgInit_everyKey_error
    apply initChannel_index (hsec 0) hread rfl hfile hnone
  obtain ⟨d, hd⟩ := Option.ne_none_iff_exists'.mp hchannel
  -- what such a boot reports of an enabled stream
  have hreports : ∀ v i, f.ubs i .streamEnable ≠ 0 → ∃ e e' : Channel, (∀ i, (e.bs i).video.fps = v)
      ∧ (d ≠ c → e' = e) ∧ (d = c → e' = loadChannel f e)
      ∧ SameParams (f.ubs i) (e'.bs i.subNum).video := by
    intro v i henabled
    obtain ⟨e, hread, hfps⟩ := readChannel_everyKey c v (s.enc c)
    obtain ⟨s', hok, henc, _, hgStAv⟩ := initChannel_load (hsec v) hread rfl hfile hd
    have hreached : Reached (everyKey c v) c := ⟨by rw [hsec v]; rfl, fun _ _ _ => rfl⟩
    have hsame := (h (everyKey c v)).2 s' (envCfgInit_everyKey hok) c hreached
      (by rw [hfile]; rfl) i
    rw [hgStAv, Function.update_self] at hsame
    refine ⟨e, s'.enc c, hfps, ?_, ?_, hsame henabled⟩
    · intro hne
      rw [henc, Function.update_of_ne hne.symm, Function.update_self]
    · rintro rfl
      rw [henc, Function.update_self, Function.update_self]
  have hown : ∀ i, f.ubs i .streamEnable ≠ 0 → d = c := by
    intro i henabled
    by_contra hne
    obtain ⟨e, e', hfps, heq, _, hsame⟩ := hreports (f.ubs i .frameRate + 1) i henabled
    have hrate := hsame.frameRate
    rw [heq hne, hfps] at hrate
    omega
  constructor
  · rw [hd]
    rfl
  · intro i henabled
    rw [hd, hown i henabled]
  · intro i henabled
    obtain ⟨e, e', _, _, heq, hsame⟩ := hreports 0 i henabled
    rw [heq (hown i henabled), video_loadChannel f e henabled] at hsame
    apply (sameParams_loadVideo_iff _).mp hsame

/-- Of the encoder files the boot reports what runs, whatever is in `ipc.cfg`, exactly when each
has the number of a channel, that of its own channel if it enables a stream, and enables only
streams that can be loaded as they are. -/
theorem reported_runs_iff (s : State) :
  ReportsRun s ↔ ∀ c f, s.encFile c = some f → Faithful c f
  := by
  constructor
  · intro h c f hfile
    apply faithful_of_reportsRun h hfile
  · apply reportsRun_of_faithful

/-- The first of the streams that an encoder file has parameters of, which is the main stream. -/
def mainUbs : UbsNum := ⟨0, by decide⟩

/-- An encoder file of the first channel with the first stream enabled, of the frame rate `fps`. -/
def oneStreamFile (fps : Int) : AvCfg where
  chn := 0
  av := fun _ => 0
  ubs := fun i k =>
    if i = mainUbs ∧ k = .streamEnable then 1
    else if i = mainUbs ∧ k = .frameRate then fps else 0

/-- The start for which the first channel has the encoder file `oneStreamFile fps`, and the other
one none. -/
def withFile (fps : Int) : State :=
  { fresh with encFile := fun c => if c = 0 then some (oneStreamFile fps) else none }

/-- A stream that is stored with 30 frames a second runs with 25, and is reported by `g_stAv` with
30. -/
theorem reported_30_runs_25 :
  (∃ s', envCfgInit (oneStream 25) (withFile 30) = .ok s'
      ∧ (s'.gStAv 0).ubs mainUbs .streamEnable = 1
      ∧ (s'.gStAv 0).ubs mainUbs .frameRate = 30 ∧ ((s'.enc 0).bs mainBsNum).video.fps = 25)
    ∧ ¬ ReportsRun (withFile 30)
  := by
  have hrun : ∃ s', envCfgInit (oneStream 25) (withFile 30) = .ok s'
      ∧ (s'.gStAv 0).ubs mainUbs .streamEnable = 1
      ∧ (s'.gStAv 0).ubs mainUbs .frameRate = 30
      ∧ ((s'.enc 0).bs mainBsNum).video.fps = 25 :=
    ⟨_, rfl, rfl, rfl, rfl⟩
  use hrun
  intro h
  obtain ⟨s', hok, henable, hreported, hfps⟩ := hrun
  have hreached : Reached (oneStream 25) 0 := ⟨rfl, fun _ _ _ => rfl⟩
  have hsame := (h (oneStream 25)).2 s' hok 0 hreached rfl mainUbs (by rw [henable]; decide)
  have hrate := hsame.frameRate
  rw [hreported] at hrate
  exact absurd (hfps.symm.trans hrate) (by decide)

end Rtspd.Boot
