import Avserver.Rtspd.Boot

/-!
# The first boot and the second

The first boot takes the parameters of the streams from `ipc.cfg` and writes them to the encoder
files; the second one loads them from there.  The two agree when what is limited or recoded on
the way back needs no change: a stream of type 1, encoded as H264, with at most 25 frames a
second, and with one of the two kinds of rate control that a file can stand for.
-/

namespace Rtspd.Boot

open Msg (AvField UbsField)

/-- The streams `b` and `b'` have the same type of service and the same parameters. -/
structure SameStream (b b' : Stream) : Prop where
  optType : b'.optType = b.optType
  video : b'.video = b.video

/-- Parameters `v` of a stream that the way to an encoder file and back does not change. -/
structure Plain (optType : Int) (v : Video) : Prop where
  optType : optType = 1
  encType : v.encType = 0
  fps : v.fps ≤ 25
  ipInterval : v.ipInterval ≤ toInt (2 * v.fps)
  rateCtlType : v.rateCtlType = 0 ∨ v.rateCtlType = 3

/-- The section of a stream in `ipc.cfg` is of one that the way to an encoder file and back does
not change. -/
def Keys.Plain (sec : Keys) : Prop :=
  sec .optType = some 1 ∧ sec .encType = some 0
    ∧ (∃ fps, sec .fps = some fps ∧ fps ≤ 25 ∧ fps ≤ toInt (2 * fps))
    ∧ (sec .rateCtlType = some 0 ∨ sec .rateCtlType = some 3)

/-! ### One stream -/

/-- A limit `b` from above changes nothing about `a` exactly when it is kept to. -/
theorem min_eq_iff (a b : Int) : (if a > b then b else a) = a ↔ a ≤ b := by
  split
  · omega
  · omega

/-- The recoding of the rate control `a` changes nothing exactly for constant bit rate and for the
one it recodes to. -/
theorem rateCtl_eq_iff (a : Int) : (if a = 0 then 0 else 3) = a ↔ a = 0 ∨ a = 3 := by
  split
  · omega
  · omega

/-- Parameters `u` of a stream in an encoder file that are neither limited nor recoded when they are
loaded. -/
structure Loadable (u : UbsField → Int) : Prop where
  frameRate : u .frameRate ≤ 25
  ipInterval : u .ipInterval ≤ toInt (2 * u .frameRate)
  rateCtlType : u .rateCtlType = 0 ∨ u .rateCtlType = 3

/-- The three parameters of `u` that may be changed are not changed by loading exactly when they are
within the limits, and the rate control is one of those recoded to. -/
theorem loadable_iff (u : UbsField → Int) :
  (loadVideo u).fps = u .frameRate ∧ (loadVideo u).ipInterval = u .ipInterval
      ∧ (loadVideo u).rateCtlType = u .rateCtlType
    ↔ Loadable u
  := by
  have hip : (loadVideo u).ipInterval
      = if u .ipInterval > toInt (2 * (loadVideo u).fps) then toInt (2 * (loadVideo u).fps)
        else u .ipInterval := rfl
  constructor
  · rintro ⟨hfps, hipEq, hrate⟩
    rw [hfps, hipEq] at hip
    exact ⟨(min_eq_iff _ _).mp hfps, (min_eq_iff _ _).mp hip.symm, (rateCtl_eq_iff _).mp hrate⟩
  · rintro ⟨hle, hipLe, hrate⟩
    have hfps : (loadVideo u).fps = u .frameRate := (min_eq_iff _ _).mpr hle
    rw [hfps, (min_eq_iff _ _).mpr hipLe] at hip
    exact ⟨hfps, hip, (rateCtl_eq_iff _).mpr hrate⟩

/-- The parameters `v` are the same after they have been stored and loaded exactly when they are
those of H264 and can be loaded. -/
theorem loadVideo_saveVideo_iff (v : Video) :
  loadVideo (saveVideo v) = v ↔ v.encType = 0 ∧ Loadable (saveVideo v)
  := by
  rw [← loadable_iff]
  constructor
  · intro h
    have henc : (loadVideo (saveVideo v)).encType = 0 := rfl
    rw [h] at henc ⊢
    exact ⟨henc, rfl, rfl, rfl⟩
  · rintro ⟨henc, hfps, hip, hrate⟩
    apply Video.ext
    all_goals try rfl
    · apply henc.symm
    · apply hfps
    · apply hip
    · apply hrate

/-- An enabled stream `b` is the same after it has been stored and loaded exactly when it is
`Plain`. -/
theorem sameStream_loadStream_iff
    {b : Stream} (h : b.optType ≠ 0) (u : UbsField → Int) (b' : Stream) :
  SameStream b (loadStream (saveStream b u) b') ↔ Plain b.optType b.video
  := by
  have hload : loadStream (saveStream b u) b' = { b' with
      optType := 1, audioBps := 8000 * 8, audioEncType := 0,
      video := loadVideo (saveVideo b.video) } := by
    have henable : saveVideo b.video .streamEnable ≠ 0 := Int.one_ne_zero
    rw [saveStream, if_pos h, loadStream, if_pos henable]
  rw [hload]
  constructor
  · rintro ⟨htype, hvideo⟩
    obtain ⟨henc, hload⟩ := (loadVideo_saveVideo_iff _).mp hvideo
    exact ⟨htype.symm, henc, hload.frameRate, hload.ipInterval, hload.rateCtlType⟩
  · rintro ⟨htype, henc, hfps, hip, hrate⟩
    have hload : Loadable (saveVideo b.video) := ⟨hfps, hip, hrate⟩
    exact ⟨htype.symm, (loadVideo_saveVideo_iff _).mpr ⟨henc, hload⟩⟩

/-- Those of the parameters `v` of a section that the way to an encoder file may change are the
numbers of its keys. -/
theorem Keys.video_some
    {doNotCare : Int} {sec : Keys} {v : Video} (h : sec.video doNotCare = some v) :
  sec .encType = some v.encType ∧ sec .fps = some v.fps ∧ v.ipInterval = v.fps
    ∧ sec .rateCtlType = some v.rateCtlType
  := by
  obtain ⟨encType, henc, h⟩ := Option.bind_eq_some_iff.mp h
  obtain ⟨fps, hfps, h⟩ := Option.bind_eq_some_iff.mp h
  obtain ⟨width, -, h⟩ := Option.bind_eq_some_iff.mp h
  obtain ⟨height, -, h⟩ := Option.bind_eq_some_iff.mp h
  obtain ⟨mjpegQuality, -, h⟩ := Option.bind_eq_some_iff.mp h
  obtain ⟨rateCtlType, hrate, h⟩ := Option.bind_eq_some_iff.mp h
  obtain ⟨maxQuant, -, h⟩ := Option.bind_eq_some_iff.mp h
  obtain ⟨minQuant, -, h⟩ := Option.bind_eq_some_iff.mp h
  obtain ⟨initQuant, -, h⟩ := Option.bind_eq_some_iff.mp h
  obtain ⟨kbps, -, h⟩ := Option.bind_eq_some_iff.mp h
  obtain ⟨targetRateMax, -, h⟩ := Option.bind_eq_some_iff.mp h
  obtain ⟨reactionDelayMax, -, h⟩ := Option.bind_eq_some_iff.mp h
  obtain rfl := Option.some.inj h
  exact ⟨henc, hfps, Int.mul_one fps, hrate⟩

/-- The type and the parameters of a stream `b'` that has been read are those of its section in
`ipc.cfg`. -/
theorem readStream_some
    {env : Env} {c : ChNum} {i : SubNum} {b b' : Stream} {sec : Keys}
    (hsec : env.cfg (.bs c i) = some sec) (h : readStream env c i b = some b') :
  sec .optType = some b'.optType ∧ sec.video env.doNotCare = some b'.video
  := by
  rw [readStream, hsec] at h
  obtain ⟨optType, hopt, h⟩ := Option.bind_eq_some_iff.mp h
  obtain ⟨audioEncType, -, h⟩ := Option.bind_eq_some_iff.mp h
  obtain ⟨video, hvideo, h⟩ := Option.bind_eq_some_iff.mp h
  obtain rfl := Option.some.inj h
  exact ⟨hopt, hvideo⟩

/-- What is read from the section of a stream is `Plain` exactly when the section is. -/
theorem plain_readStream_iff
    {env : Env} {c : ChNum} {i : SubNum} {b b' : Stream} {sec : Keys}
    (hsec : env.cfg (.bs c i) = some sec) (h : readStream env c i b = some b') :
  sec .optType = some b'.optType ∧ (Plain b'.optType b'.video ↔ sec.Plain)
  := by
  obtain ⟨hopt, hvideo⟩ := readStream_some hsec h
  obtain ⟨henc, hfps, hip, hrate⟩ := Keys.video_some hvideo
  use hopt
  constructor
  · rintro ⟨htype, hencType, hle, hipLe, hrateType⟩
    rw [hip] at hipLe
    refine ⟨by rw [hopt, htype], by rw [henc, hencType], ⟨_, hfps, hle, hipLe⟩, ?_⟩
    rw [hrate]
    simpa using hrateType
  · rintro ⟨htype, hencType, ⟨fps, hfps', hle, hipLe⟩, hrateType⟩
    rw [hopt] at htype
    rw [henc] at hencType
    rw [hrate] at hrateType
    obtain rfl := Option.some.inj (hfps.symm.trans hfps')
    constructor
    · apply Option.some.inj htype
    · apply Option.some.inj hencType
    · apply hle
    · rw [hip]
      apply hipLe
    · simpa using hrateType

/-! ### The two boots -/

/-- The stream `i` is one of those that an encoder file has a place for. -/
def Filed (i : SubNum) : Prop := i.val < Msg.maxUpdateSubChn

instance (i : SubNum) : Decidable (Filed i) := inferInstanceAs (Decidable (_ < _))

/-- Every stream that is enabled in `ipc.cfg` and has a place in an encoder file is `Plain`. -/
def IpcCfg.Plain (cfg : IpcCfg) : Prop :=
  ∀ c i sec, (cfg (.enc c)).isSome = true → Filed i → cfg (.bs c i) = some sec →
    sec .optType ≠ some 0 → sec.Plain

/-- What the first boot has left in `s₁` is what the second one leaves in `s₂`, for the streams that
the first one has enabled. -/
def Agree (s₁ s₂ : State) : Prop :=
  ∀ c i, ((s₁.enc c).bs i).optType ≠ 0 → SameStream ((s₁.enc c).bs i) ((s₂.enc c).bs i)

/-- Each stream of a channel `e'` that has been read from `ipc.cfg` has been read from its own
section. -/
theorem readChannel_bs
    {env : Env} {c : ChNum} {sec : Keys} {e e' : Channel} (h : readChannel env c sec e = some e')
    (i : SubNum) :
  readStream env c i (e.bs i) = some (e'.bs i)
  := by
  obtain ⟨denoise, -, h⟩ := Option.bind_eq_some_iff.mp h
  obtain ⟨deInterlace, -, h⟩ := Option.bind_eq_some_iff.mp h
  obtain ⟨inputSystem, -, h⟩ := Option.bind_eq_some_iff.mp h
  obtain ⟨bs, hbs, h⟩ := Option.bind_eq_some_iff.mp h
  obtain rfl := Option.some.inj h
  rw [allStreams] at hbs
  split at hbs
  · obtain rfl := Option.some.inj hbs
    simp
  · contradiction

/-- The stream `i` of a channel that has been loaded from the file `f` has been loaded from its
place there. -/
theorem loadChannel_bs_filed (f : AvCfg) (e : Channel) {i : SubNum} (h : Filed i) :
  (loadChannel f e).bs i = loadStream (f.ubs ⟨i.val, h⟩) (e.bs i)
  := dif_pos h

theorem loadChannel_bs_of_not_filed (f : AvCfg) (e : Channel) {i : SubNum} (h : ¬ Filed i) :
  (loadChannel f e).bs i = e.bs i
  := dif_neg h

/-- The boot after one for which there was no encoder file: what was read as `e₁` is stored and
loaded. -/
theorem boot_twice
    {env : Env} {c : ChNum} {sec : Keys} {e e₁ : Channel} {u : AvCfg}
    (hsec : env.cfg (.enc c) = some sec) (h : bootChannel env c none e = some e₁) :
  bootChannel env c (some (saveChannel c e₁ u)) e = some (loadChannel (saveChannel c e₁ u) e₁)
  := by
  simp only [bootChannel, hsec] at h ⊢
  obtain ⟨e', hread, he'⟩ := Option.map_eq_some_iff.mp h
  obtain rfl : e' = e₁ := he'
  rw [hread, Option.map_some]

/-- A stream `i` that has been read from `ipc.cfg` without a section for it is not enabled. -/
theorem readStream_none
    {env : Env} {c : ChNum} {i : SubNum} {b b' : Stream} (hsec : env.cfg (.bs c i) = none)
    (h : readStream env c i b = some b') :
  b'.optType = 0
  := by
  simp only [readStream, hsec] at h
  obtain rfl := Option.some.inj h
  rfl

/-- The two boots agree on the channel `c` exactly when those of its streams are `Plain` that are
enabled and have a place in the encoder file. -/
theorem agree_channel_iff
    {env : Env} {c : ChNum} {sec : Keys} {e e₁ : Channel} (hsec : env.cfg (.enc c) = some sec)
    (h : bootChannel env c none e = some e₁) (u : AvCfg) :
  (∀ i, (e₁.bs i).optType ≠ 0 →
      SameStream (e₁.bs i) ((loadChannel (saveChannel c e₁ u) e₁).bs i))
    ↔ ∀ i sec, Filed i → env.cfg (.bs c i) = some sec → sec .optType ≠ some 0 → sec.Plain
  := by
  simp only [bootChannel, hsec] at h
  obtain ⟨e', hread, he'⟩ := Option.map_eq_some_iff.mp h
  obtain rfl : e' = e₁ := he'
  have hsame : ∀ i (hi : Filed i), (e'.bs i).optType ≠ 0 →
      (SameStream (e'.bs i) ((loadChannel (saveChannel c e' u) e').bs i)
        ↔ Plain (e'.bs i).optType (e'.bs i).video) := by
    intro i hi hopt
    rw [loadChannel_bs_filed _ _ hi]
    apply sameStream_loadStream_iff hopt
  constructor
  · intro hagree i sec hi hbs hopt
    obtain ⟨hoptType, hplain⟩ := plain_readStream_iff hbs (readChannel_bs hread i)
    have henabled : (e'.bs i).optType ≠ 0 := by
      intro hzero
      rw [hoptType, hzero] at hopt
      contradiction
    apply hplain.mp
    apply (hsame i hi henabled).mp (hagree i henabled)
  · intro hplain i henabled
    by_cases hi : Filed i
    · apply (hsame i hi henabled).mpr
      cases hbs : env.cfg (.bs c i) with
      | none => exact absurd (readStream_none hbs (readChannel_bs hread i)) henabled
      | some sec =>
          obtain ⟨hoptType, hiff⟩ := plain_readStream_iff hbs (readChannel_bs hread i)
          apply hiff.mpr
          apply hplain i sec hi hbs
          rw [hoptType]
          intro hzero
          exact henabled (Option.some.inj hzero)
    · rw [loadChannel_bs_of_not_filed _ _ hi]
      exact ⟨rfl, rfl⟩

/-- The start after a boot that has left `s₁`: the globals are initialised anew, and the encoder
files are there. -/
def restart (s s₁ : State) (stAvFile : AvCfg) : State :=
  { s with encFile := s₁.encFile, stAvFile := stAvFile }

/-- What a boot without encoder files leaves of the channel `c`: it is as before if there is no
section for it; else its parameters are in its file. -/
theorem BootedAll.new
    {env : Env} {s s₁ : State} (h : BootedAll env s s₁) (hnew : ∀ c, s.encFile c = none)
    (c : ChNum) :
  (env.cfg (.enc c) = none ∧ s₁.encFile c = none ∧ s₁.enc c = s.enc c)
    ∨ ∃ sec u, env.cfg (.enc c) = some sec ∧ s₁.encFile c = some (saveChannel c (s₁.enc c) u)
      ∧ bootChannel env c none (s.enc c) = some (s₁.enc c)
  := by
  have henc := h.enc c
  rw [hnew] at henc
  cases hsec : env.cfg (.enc c) with
  | none =>
      left
      refine ⟨rfl, (h.skipped c hsec).trans (hnew c), ?_⟩
      simp only [bootChannel, hsec] at henc
      apply (Option.some.inj henc).symm
  | some sec =>
      right
      obtain ⟨u, hu⟩ := h.saved c sec hsec (hnew c)
      exact ⟨sec, u, rfl, hu, henc⟩

/-- After a boot that found no encoder files, another one with the same `ipc.cfg` is completed. -/
theorem BootedAll.second
    {env : Env} {s s₁ : State} (h : BootedAll env s s₁) (hopen : ∀ c, env.fopen c = true)
    (hnew : ∀ c, s.encFile c = none) (stAvFile : AvCfg) :
  ∃ s₂, envCfgInit env (restart s s₁ stAvFile) = .ok s₂
    ∧ BootedAll env (restart s s₁ stAvFile) s₂
  := by
  apply envCfgInit_own hopen
  · intro c f hf
    obtain ⟨_, hnone, _⟩ | ⟨sec, u, _, hfile, _⟩ := h.new hnew c
    · exact absurd (hnone.symm.trans hf) (by simp)
    · obtain rfl := Option.some.inj (hfile.symm.trans hf)
      apply AvCfg.channel_of_chn rfl
  · intro c
    obtain ⟨hsec, _, _⟩ | ⟨sec, u, hsec, hfile, henc⟩ := h.new hnew c
    · simp only [bootChannel, hsec]
      exact ⟨_, rfl⟩
    · simp only [restart, hfile]
      exact ⟨_, boot_twice hsec henc⟩

/-- The boot without encoder files and the one after it agree exactly when `ipc.cfg` is plain. -/
theorem BootedAll.agree_iff
    {env : Env} {s s₁ s₂ : State} {stAvFile : AvCfg} (h : BootedAll env s s₁)
    (hnew : ∀ c, s.encFile c = none) (h' : BootedAll env (restart s s₁ stAvFile) s₂) :
  Agree s₁ s₂ ↔ env.cfg.Plain
  := by
  have heach : ∀ c, (∀ i, ((s₁.enc c).bs i).optType ≠ 0 →
        SameStream ((s₁.enc c).bs i) ((s₂.enc c).bs i))
      ↔ ∀ i sec, (env.cfg (.enc c)).isSome = true → Filed i → env.cfg (.bs c i) = some sec →
        sec .optType ≠ some 0 → sec.Plain := by
    intro c
    have henc₂ := h'.enc c
    obtain ⟨hsec, hnone, henc⟩ | ⟨sec, u, hsec, hfile, henc⟩ := h.new hnew c
    · simp only [bootChannel, hsec] at henc₂
      have hsame : s₂.enc c = s₁.enc c := (Option.some.inj henc₂).symm.trans henc.symm
      rw [hsame, hsec]
      apply iff_of_true
      · exact fun i _ => ⟨rfl, rfl⟩
      · intro _ _ hnone
        contradiction
    · simp only [restart, hfile] at henc₂
      rw [boot_twice hsec henc] at henc₂
      rw [← Option.some.inj henc₂, hsec]
      simp only [Option.isSome_some, forall_const]
      apply agree_channel_iff hsec henc
  exact forall_congr' heach

/-- The first boot with an accepted `ipc.cfg`, which writes the encoder files, is followed by one
that leaves the enabled streams with the same types and parameters exactly when the streams
that are enabled in `ipc.cfg` and have a place in the files are plain. -/
theorem boots_agree_iff
    {env : Env} {s s₁ : State} (hopen : ∀ c, env.fopen c = true)
    (hnew : ∀ c, s.encFile c = none) (h : envCfgInit env s = .ok s₁) (stAvFile : AvCfg) :
  (∃ s₂, envCfgInit env (restart s s₁ stAvFile) = .ok s₂ ∧ Agree s₁ s₂) ↔ env.cfg.Plain
  := by
  have hown : ∀ c, OwnFile c s := by
    intro c f hf
    rw [hnew] at hf
    contradiction
  have hfirst := BootedAll.of_envCfgInit hopen hown h
  obtain ⟨s₂, hok₂, hsecond⟩ := hfirst.second hopen hnew stAvFile
  rw [← hfirst.agree_iff hnew hsecond]
  constructor
  · rintro ⟨s₂', hok', hagree'⟩
    rw [hok₂] at hok'
    obtain rfl := Except.ok.inj hok'
    apply hagree'
  · intro hagree'
    use s₂

/-! ### Two streams -/

/-- An `ipc.cfg` with one channel and one stream in it, of the frame rate `fps`. -/
def oneStream (fps : Int) : Env where
  cfg
    | .enc c => if c = 0 then some fun _ => some 0 else none
    | .bs c i =>
        if c = 0 ∧ i = 0 then
          some fun k => some (if k = .optType then 1 else if k = .fps then fps else 0)
        else none
  fopen := fun _ => true
  doNotCare := -1

/-- The state of the program at a start for which there are no encoder files; all else is zero. -/
def fresh : State :=
  ⟨fun _ => zeroChannel, fun _ _ => 0, fun _ => none, fun _ => zeroFile, zeroFile⟩

/-- The general `boots_agree_iff` at 25 frames a second, which are the same at the second boot. -/
theorem boots_agree_of_25 :
  ∃ s₁, envCfgInit (oneStream 25) fresh = .ok s₁
    ∧ ∃ s₂, envCfgInit (oneStream 25) (restart fresh s₁ zeroFile) = .ok s₂ ∧ Agree s₁ s₂
  := by
  have hopen : ∀ c, (oneStream 25).fopen c = true := fun _ => rfl
  have hnew : ∀ c, fresh.encFile c = none := fun _ => rfl
  refine ⟨_, rfl, (boots_agree_iff hopen hnew rfl zeroFile).mpr ?_⟩
  intro c i sec _ _ hsec _
  obtain ⟨_, hsec⟩ := Option.ite_none_right_eq_some.mp hsec
  obtain rfl := Option.some.inj hsec
  exact ⟨rfl, rfl, ⟨25, rfl, by decide, by decide⟩, .inl rfl⟩

/-- Of 30 frames a second, which the first boot takes from `ipc.cfg`, the second one leaves 25. -/
theorem boots_disagree_of_30 :
  ∃ s₁ s₂, envCfgInit (oneStream 30) fresh = .ok s₁
    ∧ envCfgInit (oneStream 30) (restart fresh s₁ zeroFile) = .ok s₂
    ∧ ((s₁.enc 0).bs 0).optType = 1
    ∧ ((s₁.enc 0).bs 0).video.fps = 30 ∧ ((s₂.enc 0).bs 0).video.fps = 25
    ∧ ¬ Agree s₁ s₂
  := by
  refine ⟨_, _, rfl, rfl, rfl, rfl, rfl, ?_⟩
  intro hagree
  have hfps := congrArg Video.fps (hagree 0 0 (by decide)).video
  revert hfps
  decide

end Rtspd.Boot
