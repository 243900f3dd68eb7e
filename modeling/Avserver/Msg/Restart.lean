import Avserver.Library.Run
import Avserver.Msg.Boot
import Avserver.Msg.Effects
import Avserver.Msg.Flash

/-!
# Settings behind a restart

What the files hold is what has been stored in them, by `write_cfg_file` with what is in memory
and by `default_setting` (`Run.written`).  A restart reads the files, but it also sets the record
configuration and the first presets, whatever the files say.  So these settings survive a restart
exactly when they are those that start-up sets (`settings_survive_iff`).
-/

namespace Msg

open Library

variable {env : Env} {req : Request} {d d' : Device} {s s' t : Session} {reply : Reply}
  {mem files : Contents}

/-! ### What is written to the files -/

/-- What the `files` hold behind an effect, given what is in memory behind the request. -/
def Effect.store (env : Env) (mem files : Contents) : Effect → Contents
  | .writeCfgFile file => files.load mem file
  | .defaultSetting file => files.load env.defaults file
  | _ => files

/-- What the `files` hold behind requests, computed from what the effects of their replies have
stored in them. -/
def written (files : Contents) : Device → List (Request × Env) → Contents
  | _, [] => files
  | d, r :: rs =>
      match processMsg r.2 r.1 d with
      | .ok reply =>
          written (reply.effects.foldl (Effect.store r.2 reply.device.mem) files) reply.device rs
      | .error _ => files

/-- The files of the session `s` hold what its effects have stored in `files`. -/
def Session.Stored (env : Env) (mem files : Contents) (s : Session) : Prop :=
  s.flash = s.effects.foldl (Effect.store env mem) files

/-- The effect `e` neither writes a file nor sets one to its defaults. -/
def Effect.StoresNothing (e : Effect) : Prop :=
  (∀ file, e ≠ .writeCfgFile file) ∧ ∀ file, e ≠ .defaultSetting file

theorem Effect.StoresNothing.store {e : Effect} (h : e.StoresNothing) :
  e.store env mem files = files
  := by
  cases e
  case writeCfgFile file => exact absurd rfl (h.1 file)
  case defaultSetting file => exact absurd rfl (h.2 file)
  all_goals rfl

/-- If effects are added that store nothing, and the files stay, then they hold what has been stored
in them. -/
theorem Session.Stored.adds
    (hs : s.Stored env mem files) (h : Adds Effect.StoresNothing s s')
    (hflash : s'.flash = s.flash) :
  s'.Stored env mem files
  := by
  obtain ⟨es, hes, hnothing⟩ := h
  have hstore : ∀ files : Contents, es.foldl (Effect.store env mem) files = files := by
    clear hes
    induction es with
    | nil => intro files; rfl
    | cons e es ih =>
        intro files
        rw [List.foldl_cons, (hnothing e (.head _)).store]
        apply ih fun e he => hnothing e (.tail _ he)
  rw [Session.Stored, hflash, hes, List.foldl_append, hstore]
  apply hs

/-- If the effect `e` is added, and stores in the files what it says, then they hold what has been
stored in them. -/
theorem Session.Stored.effect
    {e : Effect} (hs : s.Stored env mem files) (heffects : s'.effects = s.effects ++ [e])
    (hflash : s'.flash = e.store env mem s.flash) :
  s'.Stored env mem files
  := by
  rw [Session.Stored, heffects, List.foldl_append, ← hs, hflash]
  rfl

/-- No branch `b` but that of `e_reset` stores anything in the files. -/
theorem Branch.Emits.storesNothing
    {b : Branch} (hb : b ≠ .reset) {value : List Char} {c : Cursor} {e : Effect}
    (h : b.Emits value c e) :
  e.StoresNothing
  := by
  constructor
  · rintro file rfl
    cases b
    all_goals simp [Branch.Emits] at h
  · rintro file rfl
    cases b
    all_goals simp_all [Branch.Emits]

theorem resetFile_stored
    {file : CfgFile} (h : resetFile env s file = .ok s') (hs : s.Stored env mem files) :
  s'.Stored env mem files
  := by
  unfold resetFile at h
  simp only at h
  split at h
  · obtain rfl := Except.ok.inj h
    apply hs.effect (e := .defaultSetting file) rfl rfl
  · contradiction

theorem resetBranch_stored (h : resetBranch env s = .ok s') (hs : s.Stored env mem files) :
  s'.Stored env mem files
  := by
  unfold resetBranch at h
  split at h
  · obtain ⟨s₁, hs₁, h⟩ := bind_ok.mp h
    obtain rfl := Except.ok.inj h
    have hreset : s₁.Stored env mem files := by
      apply foldlM_invariant _ hs₁
      · exact hs.effect (e := .mctpCmd (ptzcmd gotoPreset 95)) rfl rfl
      · intro s file s' _ hs hfile
        apply resetFile_stored hfile hs
    apply hreset
  · obtain rfl := Except.ok.inj h
    apply hs

theorem Item.run_stored
    {x : Item} (hc : s.cursor = x.cursor) (h : x.run env s = .ok s')
    (hs : s.Stored env mem files) :
  s'.Stored env mem files
  := by
  by_cases hreset : x.key.branch = .reset
  · rw [Item.run, hreset] at h
    apply resetBranch_stored h hs
  · apply hs.adds
    · apply (Item.run_adds hc h).mono
      intro e he
      apply Branch.Emits.storesNothing hreset he
    · apply (Branch.touches x.key.marksItsFile hreset h).flash

theorem Notifies.storesNothing {e : Effect} (h : Notifies e) : e.StoresNothing := by
  constructor
  · rintro file rfl
    cases h
  · rintro file rfl
    cases h

theorem writeFile_stored {file : CfgFile} (hs : s.Stored env s.mem files) :
  (writeFile s file).Stored env (writeFile s file).mem files
  := by
  unfold writeFile
  split
  · apply hs.effect (e := .writeCfgFile file) rfl rfl
  · apply hs

theorem writeFiles_stored (cfgs : List CfgFile) (hs : s.Stored env s.mem files) :
  (cfgs.foldl writeFile s).Stored env (cfgs.foldl writeFile s).mem files
  := by
  induction cfgs generalizing s with
  | nil => apply hs
  | cons file cfgs ih =>
      rw [List.foldl_cons]
      apply ih (writeFile_stored hs)

/-- What `finish` stores in the files is what is in memory behind it. -/
theorem finish_stored
    (h : finish env s = .ok s') (hs : ∀ mem, s.Stored env mem files) :
  s'.Stored env s'.mem files
  := by
  obtain ⟨s₁, hs₁, h⟩ := bind_ok.mp h
  obtain ⟨s₂, hs₂, h⟩ := bind_ok.mp h
  obtain rfl := Except.ok.inj h
  have hpreset (mem : Contents) : s₁.Stored env mem files := by
    have htouches : Touches (some .ptzPreset) (fun _ => False) s s₁ := finishPreset_touches hs₁
    apply (hs mem).adds
      (finishPreset_adds (fun command arg => Notifies.storesNothing ⟨command, arg, rfl⟩) hs₁)
    apply htouches.flash
  have hnotify (mem : Contents) : (notify env s₁).Stored env mem files := by
    apply (hpreset mem).adds ((notify_adds env s₁).mono fun _ => Notifies.storesNothing)
    apply (notify_stores env (P := fun _ => False) s₁).flash
  have hsend : s₂.Stored env s₂.mem files := by
    apply (hnotify s₂.mem).adds (sendOsd_adds (fun _ => Notifies.storesNothing trivial) hs₂)
    apply (sendOsd_stores hs₂).flash
  have hwrite := writeFiles_stored fileArray hsend
  unfold finishReboot
  split
  · exact hwrite.effect (e := .system "/sbin/reboot".toList) rfl rfl
  · apply hwrite

/-- Behind a request the files hold what its effects have stored in them. -/
theorem processMsg_stored (h : processMsg env req d = .ok reply) :
  reply.device.flash = reply.effects.foldl (Effect.store env reply.device.mem) d.flash
  := by
  obtain ⟨t, ht, h⟩ := bind_ok.mp h
  obtain ⟨s, hs, h⟩ := bind_ok.mp h
  obtain rfl := Except.ok.inj h
  apply finish_stored hs
  intro mem
  apply processPairs_invariant _ ht (start_at env d)
  · rfl
  · intro s x s' _ hc hs hx
    apply Item.run_stored hc hx hs

/-- Behind a run of requests the files hold what `written` computes from their effects. -/
theorem run_written
    {C : Device → Request × Env → Prop} {rs : List (Request × Env)}
    (h : Run handle C d rs d') :
  written d.flash d rs = d'.flash
  := by
  induction h with
  | nil => rfl
  | @cons d d₁ d' r rs _ hstep _ ih =>
      obtain ⟨reply, hreply, rfl⟩ := handle_some hstep
      rw [written, hreply]
      simp only
      rw [← processMsg_stored hreply]
      apply ih

/-! ### The settings behind a restart -/

/-- The record configurations of `c` and `c'` are the same, and so are the presets that are set. -/
structure SameSettings (c c' : Contents) : Prop where
  recCfg : ∀ f, c.int (.recCfg f) = c'.int (.recCfg f)
  isSet : ∀ i < ptzPresetAllnum, c.int (.presetIsSet i) = c'.int (.presetIsSet i)

/-- The record configuration of `c` is the one that start-up sets, and the presets are set that
start-up sets. -/
def AsBooted (c : Contents) : Prop :=
  (∀ f, c.int (.recCfg f) = bootRecCfg f) ∧ ∀ i < bootPresets, c.int (.presetIsSet i) = 1

/-- The settings that permanent requests have stored survive a restart exactly when they are those
that start-up sets, `AsBooted`. -/
theorem settings_survive_iff
    {rs : List (Request × Env)} {boot : BootEnv} {b : Boot}
    (hrun : Run handle (fun _ r => PermanentSet r.1) d rs d')
    (hboot : restart boot d'.flash = .ok b) :
  SameSettings b.mem (written d.flash d rs) ↔ AsBooted d'.flash
  := by
  obtain ⟨hpresets, hrec⟩ := restart_sets hboot
  rw [run_written hrun]
  constructor
  · intro hsame
    constructor
    · intro f
      rw [← hsame.recCfg f]
      apply hrec
    · intro i hi
      rw [← hsame.isSet i (hi.trans (by decide))]
      apply hpresets i hi
  · rintro ⟨hrec', hpresets'⟩
    constructor
    · intro f
      rw [hrec', hrec]
    · intro i _
      by_cases hi : i < bootPresets
      · rw [hpresets i hi, hpresets' i hi]
      · apply restart_restores hboot (f := .int (.presetIsSet i)) rfl (by decide) hi

instance (req : Request) : Decidable (PermanentSet req) :=
  inferInstanceAs
    (Decidable (∀ pair ∈ req, Key.ofCode (atoi pair.1) = some .type → atoi pair.2 = 1))

/-- What the calls at start-up yield when nothing has been configured, and the network is there. -/
def BootEnv.idle : BootEnv where
  globals := .blank
  readCfgFile := fun _ => true
  version := none
  ifaddr := fun _ => "192.168.1.105".toList
  ipOk := fun _ => true
  hwaddr := fun _ => 0
  connectLocal := false
  encoders := .blank

/-- A permanent request for the three numbers of the record configuration. -/
def recCfgRequest (enable timeLen sch : String) : Request :=
  [("0".toList, "1".toList), ("216".toList, enable.toList), ("217".toList, timeLen.toList),
    ("218".toList, sch.toList)]

/-- If the first presets are set, the record configuration survives a restart that start-up sets
itself. -/
theorem settings_survive_iff_booted :
  ∃ d' b,
    Run handle (fun _ r => PermanentSet r.1) ⟨.blank, setBootPresets .blank⟩
      [(recCfgRequest "1" "5" "16777215", .idle)] d' ∧
    restart .idle d'.flash = .ok b ∧
    SameSettings b.mem
      (written (setBootPresets .blank) ⟨.blank, setBootPresets .blank⟩
        [(recCfgRequest "1" "5" "16777215", .idle)])
  := by
  obtain ⟨d', hrun, hd'⟩ := Run.exists_of_exec handle (fun _ r => PermanentSet r.1)
    ⟨.blank, setBootPresets .blank⟩
    (fun d' => (restart .idle d'.flash).toOption.isSome ∧
      (d'.flash.int (.recCfg .enable) = 1 ∧ d'.flash.int (.recCfg .timeLen) = 5 ∧
        d'.flash.int (.recCfg .sch) = 16777215) ∧
      ∀ i < bootPresets, d'.flash.int (.presetIsSet i) = 1)
    [(recCfgRequest "1" "5" "16777215", .idle)] (by decide +kernel)
  obtain ⟨hboot, ⟨henable, htimeLen, hsch⟩, hpresets⟩ := of_decide_eq_true hd'
  cases hb : restart .idle d'.flash with
  | error stop =>
      rw [hb] at hboot
      cases hboot
  | ok b =>
      refine ⟨d', b, hrun, hb, ?_⟩
      apply (settings_survive_iff hrun hb).mpr
      refine ⟨?_, hpresets⟩
      intro f
      cases f
      · apply henable
      · apply htimeLen
      · apply hsch

/-- A record length of 10 that has been set permanently is lost at a restart, which sets 5. -/
theorem recLen_lost :
  ∃ d' b,
    Run handle (fun _ r => PermanentSet r.1) .blank [(recCfgRequest "1" "10" "0", .idle)] d' ∧
    restart .idle d'.flash = .ok b ∧
    (written Device.blank.flash .blank [(recCfgRequest "1" "10" "0", .idle)]).int
      (.recCfg .timeLen) = 10 ∧
    b.mem.int (.recCfg .timeLen) = 5
  := by
  obtain ⟨d', hrun, hd'⟩ := Run.exists_of_exec handle (fun _ r => PermanentSet r.1) .blank
    (fun d' => (restart .idle d'.flash).toOption.isSome ∧ d'.flash.int (.recCfg .timeLen) = 10)
    [(recCfgRequest "1" "10" "0", .idle)] (by decide +kernel)
  obtain ⟨hboot, htimeLen⟩ := of_decide_eq_true hd'
  cases hb : restart .idle d'.flash with
  | error stop =>
      rw [hb] at hboot
      cases hboot
  | ok b =>
      refine ⟨d', b, hrun, hb, ?_, ?_⟩
      · rw [run_written hrun]
        apply htimeLen
      · apply (restart_sets hb).2

end Msg
