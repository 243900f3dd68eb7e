import Avserver.Msg.Selectors

/-!
# Pairs that do not set

What a pair does that is handled under another type than `T_Set`: it answers at most once, with
the label of its branch (`Branch.run_answers`), and for most branches that is all it does
(`Branch.run_quiet`).  The others are those of the type and of the presets, which set variables,
the refresh of the hardware address and of the device type, the snapshot, and the switch of the
resolution, which looks at the type only to tell `T_Get` from all others.
-/

namespace Msg

open Library

variable {env : Env} {s s₁ s' : Session} {key l : Key} {value : List Char}

/-! ### The label of a branch -/

/-- The key with which the branch for a `key` answers, which is not always its own. -/
def Branch.label (key : Key) : Branch → Key
  | .int _ _ _ _ label _ | .recCfg _ label | .shownText _ label => label
  | .type => .type
  | .chn => .chn
  | .subChn => .subChn
  | .osdRegion => .osdRegion
  | .wfsearchAccesspoints => .wfsearchAccesspoints
  | .mdArea => .mdArea
  | .frameRate => .frameRate
  | .bitRate => .bitRate
  | .ipInterval => .ipInterval
  | .width => .width
  | .height => .height
  | .videoAddr => .videoAddr
  | .fw => .fw
  | .videoResolutions => .videoResolutions
  | .encResolution => .encResolution
  | .nvrClientID => .nvrClientID
  | .osdName => .osdRegionName
  | .netmask => .netNetmask
  | .macaddr => .netMacaddr
  | .serialNumber => .sysSerialNumber
  | .wfsearchEssid => .wfsearchEssid
  | .dstmode => .timeDstmode
  | .ntpenable => .timeNtpenable
  | .systime => .timeSystime
  | .devtype => .sysDevtype
  | .userName => .userName
  | .allpresets => .ptzAllpresets
  | .defaultTimeout => .ptzContinueMoveDefaultTimeout
  | .protocol => .sysProtocol
  | .cldEnable => .cldEnable
  | .recEnable => .recEnable
  | _ => key

/-! ### Steps that answer and do nothing else -/

/-- What is noted in the session `s` for what follows the loop. -/
def Session.notes (s : Session) :
    Nat × Bool × Bool × Nat × Nat × Option (List Char) × Option (List Char) :=
  (s.fileChangedFlag, s.osdCfg, s.ifCfg, s.ntpserverCfg, s.reboot, s.vx, s.vy)

/-- The variables of the session `s` but for the answers, and for those by which pairs are
understood. -/
def Session.body (s : Session) :
    Contents × Contents × List Effect × Nat ×
      (Nat × Bool × Bool × Nat × Nat × Option (List Char) × Option (List Char)) :=
  (s.mem, s.flash, s.effects, s.ptzPresetIn, s.notes)

/-- From `s` to `s'` at most one answer is given, with the `label`. -/
def Answers (label : Key) (s s' : Session) : Prop :=
  s'.pRet = s.pRet ∨ ∃ t, s'.pRet = s.pRet ++ [⟨label, t⟩]

/-- From `s` to `s'` at most one answer is given, with the `label`, and nothing else is done. -/
structure Quiet (label : Key) (s s' : Session) : Prop where
  body : s'.body = s.body
  answers : Answers label s s'

theorem Quiet.refl (s : Session) : Quiet l s s := ⟨rfl, Or.inl rfl⟩

/-- A step that is `Quiet` is so behind one that does nothing and does not answer. -/
theorem Quiet.follow (h : Quiet l s₁ s') (hbody : s₁.body = s.body) (hret : s₁.pRet = s.pRet) :
  Quiet l s s'
  := by
  constructor
  · apply h.body.trans hbody
  · rw [Answers, ← hret]
    apply h.answers

theorem answer_quiet {t : List Char} : Yields (Quiet key s) (s.answer key t) :=
  Yields.ite (fun _ => Yields.of_ok ⟨rfl, Or.inr ⟨t, rfl⟩⟩) fun _ => Yields.of_error

theorem reply_quiet {t : List Char} : Yields (Quiet key s) (s.reply key t) :=
  answer_quiet.mono fun _ h => h.follow rfl rfl

theorem ok_quiet : Yields (ε := Fault) (Quiet l s) (.ok s) := Yields.of_ok (Quiet.refl s)

theorem after_quiet {α : Type} {x : Except Fault α} {f : α → Except Fault Session}
    (hf : ∀ a, Yields (Quiet l s) (f a)) :
  Yields (Quiet l s) (x >>= f)
  := Yields.of_bind hf

theorem ite_quiet {c : Prop} [Decidable c] {x y : Except Fault Session}
    (hx : Yields (Quiet l s) x) (hy : Yields (Quiet l s) y) :
  Yields (Quiet l s) (if c then x else y)
  := Yields.ite (fun _ => hx) fun _ => hy

/-- What is done for `T_Set` only is not done for another type, so it is `Quiet`. -/
theorem set_quiet {x : Except Fault Session} (hcmd : s.cmdType ≠ tSet) :
  Yields (Quiet l s) (if s.cmdType = tSet then x else .ok s)
  := Yields.ite (fun h => absurd h hcmd) fun _ => ok_quiet

/-- A branch of the form `onCmd` is `Quiet` for a type other than `T_Set`, if its answer to `T_Get`
is. -/
theorem onCmd_quiet
    {set get : Except Fault Session} (hcmd : s.cmdType ≠ tSet)
    (hget : Yields (Quiet l s) get) :
  Yields (Quiet l s) (s.onCmd set get)
  := Yields.ite (fun h => absurd h hcmd) fun _ => ite_quiet hget ok_quiet

theorem getBranch_quiet {t : Except Fault (List Char)} :
  Yields (Quiet key s) (getBranch key t s)
  := ite_quiet (after_quiet fun _ => reply_quiet) ok_quiet

theorem osdBranch_quiet {f : OsdField} (hcmd : s.cmdType ≠ tSet) :
  Yields (Quiet key s) (osdBranch f key value s)
  := ite_quiet ok_quiet (onCmd_quiet hcmd reply_quiet)

theorem osdNameBranch_quiet (hcmd : s.cmdType ≠ tSet) :
  Yields (Quiet .osdRegionName s) (osdNameBranch value s)
  := ite_quiet ok_quiet (onCmd_quiet hcmd (after_quiet fun _ => reply_quiet))

theorem wfsearchAccesspointsBranch_quiet :
  Yields (Quiet .wfsearchAccesspoints s) (wfsearchAccesspointsBranch value s)
  := by
  unfold wfsearchAccesspointsBranch
  apply ite_quiet _ ok_quiet
  apply ite_quiet ok_quiet
  exact reply_quiet.mono fun _ h => h.follow rfl rfl

theorem mdAreaBranch_quiet : Yields (Quiet .mdArea s) (mdAreaBranch value s) := by
  unfold mdAreaBranch
  apply ite_quiet
  · exact Yields.of_ok ⟨rfl, Or.inl rfl⟩
  · exact reply_quiet.mono fun _ h => h.follow rfl rfl

/-- For a type other than `T_Set`, a user is looked up by name, which does nothing and does not
answer. -/
theorem findName_quiet (hcmd : s.cmdType ≠ tSet) :
  Yields (fun s₁ => s₁.body = s.body ∧ s₁.pRet = s.pRet)
    (s.onCmd (userNameSet value s)
      (do
        let i ← findName s.mem value
        .ok { s with i := i }))
  := by
  apply Yields.ite
  · intro h
    exact absurd h hcmd
  · intro _
    apply Yields.ite
    · intro _
      exact Yields.of_bind fun _ => Yields.of_ok ⟨rfl, rfl⟩
    · intro _
      exact Yields.of_ok ⟨rfl, rfl⟩

theorem userNameBranch_quiet (hcmd : s.cmdType ≠ tSet) :
  Yields (Quiet .userName s) (userNameBranch value s)
  := by
  refine Yields.bind (findName_quiet hcmd) ?_
  rintro s₁ ⟨hbody, hret⟩
  apply after_quiet
  intro i
  apply after_quiet
  intro t
  exact reply_quiet.mono fun _ h => h.follow hbody hret

/-- The branches that do more than answer, also for a type other than `T_Set`. -/
def Branch.Acts : Branch → Prop
  | .type | .preset | .presetname | .encResolution | .macaddr | .devtype | .snapshotStart => True
  | _ => False

/-- A branch `b` that does not act is `Quiet` for a type other than `T_Set`: it answers and does
nothing else. -/
theorem Branch.run_quiet {b : Branch} (hcmd : s.cmdType ≠ tSet) (hb : ¬ b.Acts) :
  Yields (Quiet (b.label key) s) (b.run env key value s)
  := by
  cases b with
  | type | preset | presetname | encResolution | macaddr | devtype | snapshotStart =>
      exact absurd trivial hb
  | int => apply onCmd_quiet hcmd (after_quiet fun _ => reply_quiet)
  | text => apply onCmd_quiet hcmd (after_quiet fun _ => reply_quiet)
  | chan => apply onCmd_quiet hcmd (after_quiet fun _ => reply_quiet)
  | osd => apply osdBranch_quiet hcmd
  | recCfg =>
      apply Yields.ite
      · intro h
        exact absurd h hcmd
      · intro _
        apply reply_quiet
  | constant | constantText | shown | shownText | nvrClientID | serialNumber | wfsearchEssid =>
      apply getBranch_quiet
  | width => apply getBranch_quiet
  | height => apply getBranch_quiet
  | videoAddr => apply getBranch_quiet
  | videoResolutions => apply getBranch_quiet
  | chn | subChn | osdRegion => exact answer_quiet.mono fun _ h => h.follow rfl rfl
  | wfsearchAccesspoints => apply wfsearchAccesspointsBranch_quiet
  | mdArea => apply mdAreaBranch_quiet
  | userOptType | nvrOpt | nvrForIDR | userPassword | userGroup | ptzstring | vzoom | stop
  | gotoPreset | deletepreset | reset | reboot =>
      apply set_quiet hcmd
  | vdmaskNO => exact Yields.of_ok ⟨rfl, Or.inl rfl⟩
  | ignored => apply ok_quiet
  | frameRate => apply onCmd_quiet hcmd (after_quiet fun _ => reply_quiet)
  | bitRate => apply onCmd_quiet hcmd (after_quiet fun _ => reply_quiet)
  | ipInterval => apply onCmd_quiet hcmd (after_quiet fun _ => reply_quiet)
  | synchronizationPoint =>
      apply Yields.ite
      · rintro ⟨h, -⟩
        exact absurd h hcmd
      · intro _
        apply ok_quiet
  | fw => apply onCmd_quiet hcmd reply_quiet
  | osdName => apply osdNameBranch_quiet hcmd
  | netmask => apply onCmd_quiet hcmd (after_quiet fun _ => reply_quiet)
  | dstmode => apply onCmd_quiet hcmd reply_quiet
  | ntpenable => apply onCmd_quiet hcmd reply_quiet
  | systime => apply onCmd_quiet hcmd reply_quiet
  | userName => apply userNameBranch_quiet hcmd
  | vx | vy =>
      apply Yields.of_ok
      rw [if_neg hcmd]
      apply Quiet.refl
  | allpresets =>
      apply ite_quiet _ ok_quiet
      exact Yields.of_ok ⟨rfl, Or.inr ⟨_, rfl⟩⟩
  | defaultTimeout => apply ite_quiet answer_quiet ok_quiet
  | protocol => apply onCmd_quiet hcmd reply_quiet
  | cldEnable => apply onCmd_quiet hcmd reply_quiet
  | recEnable =>
      apply Yields.ite
      · intro h
        exact absurd h hcmd
      · intro _
        apply reply_quiet

/-! ### The branches that act -/

/-- The argument with which `switch.sh` is run for the resolution `value`, if it is, given the
widths in `m`. -/
def switchArg (m : Contents) (value : List Char) : Option String :=
  let width0 := m.int (.ubs .av0 0 .width)
  let width1 := m.int (.ubs .av1 0 .width)
  if atoi value = 1 then
    if width0 ≠ 1920 then some (if width1 = 352 then "1 0" else "1 2") else none
  else if atoi value = 2 then
    if width1 ≠ 640 then some (if width0 = 1280 then "2 0" else "2 1") else none
  else if width0 ≠ 1280 then some "0 1"
  else if width1 = 640 then some "0 2"
  else none

/-- The commands that are run for the resolution `value`: one, or none. -/
def switchEffects (m : Contents) (value : List Char) : List Effect :=
  ((switchArg m value).map fun arg =>
    Effect.system ("/bin/sh /mnt/mtd/switch.sh ".toList ++ arg.toList)).toList

/-- For any type but `T_Get`, `encResolutionBranch` runs the commands of `switchEffects`, and does
nothing else. -/
theorem encResolutionBranch_switches (hcmd : s.cmdType ≠ tGet) :
  encResolutionBranch value s = .ok { s with effects := s.effects ++ switchEffects s.mem value }
  := by
  simp only [encResolutionBranch, if_neg hcmd, switchEffects, switchArg, Session.effect]
  split_ifs
  all_goals simp

theorem encResolutionBranch_quiet (hcmd : s.cmdType = tGet) :
  Yields (Quiet .encResolution s) (encResolutionBranch value s)
  := by
  unfold encResolutionBranch
  simp only [if_pos hcmd]
  apply reply_quiet

/-- What the pair of a branch makes of the memory `m`, under the type `cmdType`, which does not
set. -/
def Branch.readMem (env : Env) (value : List Char) (cmdType : Int) (m : Contents) :
    Branch → Contents
  | .macaddr => if cmdType = tGet then storeHwaddr m env.hwaddr else m
  | .devtype =>
      if cmdType = tGet then
        m.setInt (.sys .devtype) (if m.int (.ubs .av0 0 .width) = 1920 then 1 else 0)
      else m
  | .snapshotStart => m.setInt .snapStart (atoi value)
  | _ => m

/-- What the pair of a branch does to the rest of the system, under the type `cmdType`, which does
not set. -/
def Branch.readEffects (value : List Char) (cmdType : Int) (m : Contents) : Branch → List Effect
  | .encResolution => if cmdType = tGet then [] else switchEffects m value
  | _ => []

/-- What the branch `b` for a key does under a type that does not set: `readMem`, `readEffects`, and
an answer. -/
structure Branch.Reads (env : Env) (key : Key) (b : Branch) (value : List Char)
    (s s' : Session) : Prop where
  mem : s'.mem = b.readMem env value s.cmdType s.mem
  flash : s'.flash = s.flash
  effects : s'.effects = s.effects ++ b.readEffects value s.cmdType s.mem
  notes : s'.notes = s.notes
  /-- it answers at most once, with its label -/
  answers : b ≠ .type → Answers (b.label key) s s'
  /-- only the pairs for presets have a preset dealt with behind the loop -/
  ptzPresetIn : b ≠ .preset ∧ b ≠ .presetname → s'.ptzPresetIn = s.ptzPresetIn

theorem Branch.Reads.of_quiet
    {b : Branch} (hmem : b.readMem env value s.cmdType s.mem = s.mem)
    (heffects : b.readEffects value s.cmdType s.mem = []) (h : Quiet (b.label key) s s') :
  b.Reads env key value s s'
  := by
  have hbody := h.body
  simp only [Session.body, Prod.mk.injEq] at hbody
  obtain ⟨h₁, h₂, h₃, h₄, h₅⟩ := hbody
  constructor
  · rw [h₁, hmem]
  · apply h₂
  · rw [h₃, heffects, List.append_nil]
  · apply h₅
  · exact fun _ => h.answers
  · exact fun _ => h₄

/-- A branch that refreshes the memory, as `readMem` says, and then replies, has `Reads`. -/
theorem Branch.Reads.of_refresh
    {b : Branch} {m : Contents} {t : List Char}
    (hmem : b.readMem env value s.cmdType s.mem = m)
    (heffects : b.readEffects value s.cmdType s.mem = [])
    (h : ({ s with mem := m }).reply (b.label key) t = .ok s') :
  b.Reads env key value s s'
  := by
  have hquiet := reply_quiet s' h
  have hbody := hquiet.body
  simp only [Session.body, Prod.mk.injEq] at hbody
  obtain ⟨h₁, h₂, h₃, h₄, h₅⟩ := hbody
  constructor
  · rw [h₁, hmem]
  · apply h₂
  · rw [h₃, heffects, List.append_nil]
  · apply h₅
  · exact fun _ => hquiet.answers
  · exact fun _ => h₄

theorem typeBranch_reads (h : typeBranch value s = .ok s') :
  Branch.type.Reads env key value s s'
  := by
  obtain rfl := Except.ok.inj h
  constructor
  · simp only [Branch.readMem]
    split
    · rfl
    · rfl
  · simp only
    split
    · rfl
    · rfl
  · simp only [Branch.readEffects, List.append_nil]
    split
    · rfl
    · rfl
  · simp only [Session.notes]
    split
    · rfl
    · rfl
  · intro htype
    contradiction
  · intro _
    simp only
    split
    · rfl
    · rfl

theorem encResolutionBranch_reads (h : encResolutionBranch value s = .ok s') :
  Branch.encResolution.Reads env key value s s'
  := by
  by_cases hget : s.cmdType = tGet
  · apply Branch.Reads.of_quiet rfl
    · rw [Branch.readEffects, if_pos hget]
    · apply encResolutionBranch_quiet hget _ h
  · rw [encResolutionBranch_switches hget] at h
    obtain rfl := Except.ok.inj h
    refine ⟨rfl, rfl, ?_, rfl, fun _ => Or.inl rfl, fun _ => rfl⟩
    rw [Branch.readEffects, if_neg hget]

theorem macaddrBranch_reads (hcmd : s.cmdType ≠ tSet) (h : macaddrBranch env value s = .ok s') :
  Branch.macaddr.Reads env key value s s'
  := by
  unfold macaddrBranch Session.onCmd at h
  rw [if_neg hcmd] at h
  split at h
  · next hget =>
      refine Branch.Reads.of_refresh (m := storeHwaddr s.mem env.hwaddr) ?_ rfl h
      rw [Branch.readMem, if_pos hget]
  · next hget =>
      obtain rfl := Except.ok.inj h
      apply Branch.Reads.of_quiet _ rfl (Quiet.refl s)
      rw [Branch.readMem, if_neg hget]

theorem devtypeBranch_reads (h : devtypeBranch s = .ok s') :
  Branch.devtype.Reads env key value s s'
  := by
  unfold devtypeBranch at h
  split at h
  · next hget =>
      refine Branch.Reads.of_refresh (m := s.mem.setInt (.sys .devtype)
        (if s.mem.int (.ubs .av0 0 .width) = 1920 then 1 else 0)) ?_ rfl h
      rw [Branch.readMem, if_pos hget]
  · next hget =>
      obtain rfl := Except.ok.inj h
      apply Branch.Reads.of_quiet _ rfl (Quiet.refl s)
      rw [Branch.readMem, if_neg hget]

/-- A branch `b` that is handled under another type than `T_Set` does what `Reads` says. -/
theorem Branch.run_reads
    {b : Branch} (hcmd : s.cmdType ≠ tSet) (h : b.run env key value s = .ok s') :
  b.Reads env key value s s'
  := by
  by_cases hb : b.Acts
  · cases b
    case type => apply typeBranch_reads h
    case preset | presetname =>
      obtain rfl := Except.ok.inj h
      exact ⟨rfl, rfl, (List.append_nil _).symm, rfl, fun _ => Or.inl rfl, by simp⟩
    case snapshotStart =>
      obtain rfl := Except.ok.inj h
      exact ⟨rfl, rfl, (List.append_nil _).symm, rfl, fun _ => Or.inl rfl, fun _ => rfl⟩
    case encResolution => apply encResolutionBranch_reads h
    case macaddr => apply macaddrBranch_reads hcmd h
    case devtype => apply devtypeBranch_reads h
    all_goals exact absurd hb (fun hfalse => hfalse)
  · apply Branch.Reads.of_quiet _ _ (Branch.run_quiet hcmd hb _ h)
    · cases b
      case macaddr | devtype | snapshotStart => exact absurd trivial hb
      all_goals rfl
    · cases b
      case encResolution => exact absurd trivial hb
      all_goals rfl

end Msg
