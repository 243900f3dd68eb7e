import Avserver.Msg.Touches

/-!
# What a branch may change

A branch of the `switch` changes fields of one file and marks the file, or it changes nothing
that has to be marked (`Branch.touches`).  Exempt from this is the reset, which changes memory
and files alike (`Resets`).  The cursor behind a branch depends on the cursor before it, the
value and the number of networks found.
-/

namespace Msg

open Library

variable {s s' s₁ : Session} {P : Field → Prop}

/-- The cursor behind a branch with the `value`, where `accessPoints` is the number of networks
found. -/
def Branch.select (accessPoints : Int) (value : List Char) (c : Cursor) : Branch → Cursor
  | .type =>
      if atoi value > 1 then { c with cmdType := tSet, ylSet := true }
      else { c with cmdType := atoi value, ylSet := false }
  | .chn => { c with channel := atoi value }
  | .subChn => { c with subChannel := atoi value }
  | .wfsearchAccesspoints =>
      if c.cmdType = tGet ∧ atoi value < accessPoints then { c with index := atoi value } else c
  | .mdArea | .vdmaskNO => { c with index := atoi value }
  | .userOptType =>
      if c.cmdType = tSet ∧ 0 ≤ atoi value ∧ atoi value ≤ modifyUser then
        { c with index := atoi value }
      else c
  | _ => c

/-! ### The file and the loose fields of a branch -/

/-- The file of the number that is referred to, if it is in one. -/
def IntRef.file : IntRef → Option CfgFile
  | .field f => f.file
  | .mdArea _ => some .mdCfg
  | .vidMask _ => some .vidmaskCfg
  | .wfSearch _ => none

/-- Which number `ref` refers to depends on the `index` of the session only. -/
theorem IntRef.resolve_congr {s s₂ : Session} (ref : IntRef) (h : s₂.index = s.index) :
  ref.resolve s₂ = ref.resolve s
  := by
  cases ref
  all_goals simp only [IntRef.resolve, h]

/-- Which number of an encoder configuration `ref` refers to depends on the channels of the session
only. -/
theorem ChanRef.resolve_congr
    {s s₂ : Session} (ref : ChanRef) (h : s₂.avFile = s.avFile)
    (hsub : s₂.subChannel = s.subChannel) :
  ref.resolve s₂ = ref.resolve s
  := by
  cases ref
  all_goals simp only [ChanRef.resolve, h, hsub]

theorem IntRef.file_resolve
    {ref : IntRef} {f : IntField} (h : ref.resolve s = .ok f) :
  (Field.int f).file = ref.file
  := by
  cases ref with
  | field f =>
      obtain rfl := Except.ok.inj h
      rfl
  | mdArea | vidMask | wfSearch =>
      obtain ⟨i, -, rfl⟩ := map_ok.mp h
      rfl

/-- The number `f` of an encoder configuration that `ref` refers to is in the file of the
channel. -/
theorem ChanRef.file_resolve
    {ref : ChanRef} {f : IntField} (h : ref.resolve s = .ok f) :
  f.file = some s.avFile.cfgFile
  := by
  cases ref with
  | av f =>
      obtain rfl := Except.ok.inj h
      rfl
  | ubs f =>
      obtain ⟨i, -, rfl⟩ := map_ok.mp h
      rfl

/-- The file that a branch marks when it stores, at the cursor `c`. -/
def Branch.file (c : Cursor) : Branch → Option CfgFile
  | .int _ flag _ _ _ _ | .text _ flag _ => some flag
  | .chan _ => if c.cmdType = tSet then some c.avFile.cfgFile else none
  | .frameRate | .bitRate | .ipInterval =>
      if c.cmdType = tSet ∧ c.ylSet = false then some c.avFile.cfgFile else none
  | .osd _ | .osdName => some .overlayCfg
  | .recCfg _ _ | .recEnable => some .recCfg
  | .fw => some .encFw
  | .netmask | .macaddr => some .netCfg
  | .dstmode | .ntpenable => some .sysTimer
  | .userPassword | .userGroup => some .user
  | .gotoPreset | .deletepreset => some .ptzPreset
  | .cldEnable => some .cloudCfg
  | _ => none

/-- The fields that a branch changes without marking their file, at the cursor `c`. -/
def Branch.loose (c : Cursor) : Branch → Field → Prop
  | .frameRate, f | .bitRate, f | .ipInterval, f =>
      c.cmdType = tSet ∧ c.ylSet = true ∧ f.file = some c.avFile.cfgFile
  | .macaddr, f => c.cmdType = tGet ∧ f.file = some .netCfg
  | .devtype, f => c.cmdType = tGet ∧ f.file = some .sysCfg
  | .systime, f => f = .str .sysTime
  | .userName, f => c.cmdType = tSet ∧ ∃ i, f = .str (.username i)
  | .snapshotStart, f => f = .int .snapStart
  | _, _ => False

/-- The file that the branch marks is that of the field that it stores. -/
def Branch.MarksItsFile : Branch → Prop
  | .int ref flag _ _ _ _ => ref.file = some flag
  | .text f flag _ => f.file = some flag
  | _ => True

/-- The branch of every `key` marks the file of the field that it stores. -/
theorem Key.marksItsFile (key : Key) : key.branch.MarksItsFile := by
  cases key
  all_goals first | rfl | trivial

/-! ### The branches of families -/

/-- A branch of the form `onCmd` does the one thing for `T_Set`, the other for `T_Get`, and
otherwise nothing. -/
theorem onCmd_cases
    {set get : Except Fault Session} {C : Prop} (h : s.onCmd set get = .ok s')
    (hset : s.cmdType = tSet → set = .ok s' → C) (hget : s.cmdType = tGet → get = .ok s' → C)
    (hother : s = s' → C) :
  C
  := by
  unfold Session.onCmd at h
  split at h
  · next hcmd => apply hset hcmd h
  · split at h
    · next hcmd => apply hget hcmd h
    · apply hother (Except.ok.inj h)

variable {env : Env} {key label : Key} {value : List Char} {file : Option CfgFile}
  {loose : Field → Prop}

theorem Touches.of_eq (h : s = s') : Touches file loose s s' := by
  obtain rfl := h
  apply Touches.refl

theorem intBranch_touches
    {ref shown : IntRef} {flag : CfgFile} {callees : List Callee} {hook : Hook}
    (hflag : ref.file = some flag)
    (h : intBranch ref flag callees hook label shown value s = .ok s') :
  Touches (some flag) loose s s'
  := by
  apply onCmd_cases h
  · intro _ h
    obtain ⟨f, hf, h⟩ := bind_ok.mp h
    split at h
    · obtain rfl := Except.ok.inj h
      apply Touches.marks
      apply ((s.setInt_stores f _).quiet (Session.calls_stores _ _ _)).marks
      · rintro _ rfl
        rw [IntRef.file_resolve hf, hflag]
      · apply Hook.run_stores
    · apply Touches.of_eq (Except.ok.inj h)
  · intro _ h
    obtain ⟨f, -, h⟩ := bind_ok.mp h
    apply Touches.stores (Session.reply_stores h)
  · apply Touches.of_eq

theorem textBranch_touches
    {f : StrField} {flag : CfgFile} {hook : Hook} (hflag : f.file = some flag)
    (h : textBranch f flag hook key value s = .ok s') :
  Touches (some flag) loose s s'
  := by
  apply onCmd_cases h
  · intro _ h
    obtain ⟨b, -, h⟩ := bind_ok.mp h
    split at h
    · apply Touches.of_eq (Except.ok.inj h)
    · obtain ⟨s₁, hs₁, h⟩ := bind_ok.mp h
      obtain rfl := Except.ok.inj h
      apply Touches.marks
      apply (Session.setText_stores hs₁).marks
      · rintro _ rfl
        apply hflag
      · apply Hook.run_stores
  · intro _ h
    obtain ⟨t, -, h⟩ := bind_ok.mp h
    apply Touches.stores (Session.reply_stores h)
  · apply Touches.of_eq

/-- In the session `s` a number `f` is stored and its file marked, which is what `Marks` asks
for. -/
theorem Session.setInt_marks
    (s : Session) {f : IntField} {flag : CfgFile} (hf : f.file = some flag) (v : Int) :
  Marks flag s ((s.setInt f v).setFileChanged flag)
  := by
  apply (s.setInt_stores f v).marks
  · rintro _ rfl
    apply hf
  · apply Stores.refl

theorem osdBranch_touches {f : OsdField} (h : osdBranch f key value s = .ok s') :
  Touches (some .overlayCfg) loose s s'
  := by
  unfold osdBranch at h
  split at h
  · apply Touches.of_eq (Except.ok.inj h)
  · apply onCmd_cases h
    · intro _ h
      split at h
      · obtain rfl := Except.ok.inj h
        apply Touches.marks (s.setInt_marks rfl _).osd
      · apply Touches.of_eq (Except.ok.inj h)
    · intro _ h
      apply Touches.stores (Session.reply_stores h)
    · apply Touches.of_eq

theorem recBranch_touches {f : RecField} (h : recBranch f label value s = .ok s') :
  Touches (some .recCfg) loose s s'
  := by
  unfold recBranch at h
  split at h
  · split at h
    · obtain rfl := Except.ok.inj h
      apply Touches.marks (s.setInt_marks rfl _)
    · apply Touches.of_eq (Except.ok.inj h)
  · apply Touches.stores (Session.reply_stores h)

theorem getBranch_touches
    {t : Except Fault (List Char)} (h : getBranch key t s = .ok s') :
  Touches file loose s s'
  := by
  unfold getBranch at h
  split at h
  · obtain ⟨t, -, h⟩ := bind_ok.mp h
    apply Touches.stores (Session.reply_stores h)
  · apply Touches.of_eq (Except.ok.inj h)

theorem chanBranch_touches {ref : ChanRef} (h : chanBranch ref key value s = .ok s') :
  Touches (if s.cmdType = tSet then some s.avFile.cfgFile else none) loose s s'
  := by
  apply onCmd_cases h
  · intro hcmd h
    rw [if_pos hcmd]
    obtain ⟨f, hf, h⟩ := bind_ok.mp h
    split at h
    · obtain rfl := Except.ok.inj h
      apply Touches.marks (s.setInt_marks (ChanRef.file_resolve hf) _)
    · apply Touches.of_eq (Except.ok.inj h)
  · intro _ h
    obtain ⟨f, -, h⟩ := bind_ok.mp h
    apply Touches.stores (Session.reply_stores h)
  · apply Touches.of_eq

/-- A branch that stores a number of a stream marks its file unless the request is temporary. -/
theorem streamCmd_touches
    {f : UbsField} {callee : Callee} {v : Int} {t : Int → Int}
    (h : s.onCmd (streamBranch f callee v s)
      (do
        let f ← (ChanRef.ubs f).resolve s
        s.reply key (decimal (t (s.mem.int f)))) = .ok s') :
  Touches (if s.cmdType = tSet ∧ s.ylSet = false then some s.avFile.cfgFile else none)
    (fun f => s.cmdType = tSet ∧ s.ylSet = true ∧ f.file = some s.avFile.cfgFile) s s'
  := by
  apply onCmd_cases h
  · intro hcmd h
    obtain ⟨f, hf, h⟩ := bind_ok.mp h
    have hfile : f.file = some s.avFile.cfgFile := ChanRef.file_resolve hf
    have hstores := (s.setInt_stores f v).quiet
      (Session.effect_stores _ (.call callee [s.channel, s.subChannel, v]))
    split at h
    · obtain rfl := Except.ok.inj h
      by_cases hyl : s.ylSet = true
      · rw [if_pos hyl]
        apply Touches.stores
        apply hstores.mono
        rintro _ rfl
        exact ⟨hcmd, hyl, hfile⟩
      · rw [if_neg hyl, if_pos ⟨hcmd, by simpa using hyl⟩]
        apply Touches.marks
        apply hstores.marks
        · rintro _ rfl
          apply hfile
        · apply Stores.refl
    · apply Touches.of_eq (Except.ok.inj h)
  · intro _ h
    obtain ⟨f, -, h⟩ := bind_ok.mp h
    apply Touches.stores (Session.reply_stores h)
  · apply Touches.of_eq

/-! ### The other branches -/

theorem fwBranch_touches (h : fwBranch value s = .ok s') : Touches (some .encFw) loose s s' := by
  apply onCmd_cases h
  · intro _ h
    split at h
    · apply Touches.of_eq (Except.ok.inj h)
    · split at h
      · obtain rfl := Except.ok.inj h
        apply Touches.marks
        apply ((s.setInt_stores .iFw (atoi value)).quiet (Session.effect_stores _ _)).marks
        · rintro _ rfl
          rfl
        · apply Stores.refl
      · apply Touches.of_eq (Except.ok.inj h)
  · intro _ h
    apply Touches.stores (Session.reply_stores h)
  · apply Touches.of_eq

/-- `encResolutionBranch` runs a script or does nothing, and stores nothing in either case. -/
theorem encResolutionBranch_stores (h : encResolutionBranch value s = .ok s') :
  Stores P s s'
  := by
  unfold encResolutionBranch at h
  simp only at h
  split at h
  · apply Session.reply_stores h
  · split_ifs at h
    all_goals
      obtain rfl := Except.ok.inj h
      first | apply Session.effect_stores | apply Stores.refl

theorem osdNameBranch_touches (h : osdNameBranch value s = .ok s') :
  Touches (some .overlayCfg) loose s s'
  := by
  unfold osdNameBranch at h
  split at h
  · apply Touches.of_eq (Except.ok.inj h)
  · apply onCmd_cases h
    · intro _ h
      obtain ⟨b, -, h⟩ := bind_ok.mp h
      split at h
      · apply Touches.of_eq (Except.ok.inj h)
      · obtain ⟨s₁, hs₁, h⟩ := bind_ok.mp h
        obtain rfl := Except.ok.inj h
        apply Touches.marks (Marks.osd _)
        apply (Session.setText_stores hs₁).marks
        · rintro _ rfl
          rfl
        · apply Stores.refl
    · intro _ h
      obtain ⟨t, -, h⟩ := bind_ok.mp h
      apply Touches.stores (Session.reply_stores h)
    · apply Touches.of_eq

theorem netmaskBranch_touches (h : netmaskBranch value s = .ok s') :
  Touches (some .netCfg) loose s s'
  := by
  apply onCmd_cases h
  · intro _ h
    obtain ⟨b, -, h⟩ := bind_ok.mp h
    split at h
    · apply Touches.of_eq (Except.ok.inj h)
    · obtain ⟨s₁, hs₁, h⟩ := bind_ok.mp h
      obtain rfl := Except.ok.inj h
      apply Touches.marks
      apply ((Session.setText_stores hs₁).quiet (Session.effect_stores _ _)).marks
      · rintro _ rfl
        rfl
      · apply Stores.refl
  · intro _ h
    obtain ⟨t, -, h⟩ := bind_ok.mp h
    apply Touches.stores (Session.reply_stores h)
  · apply Touches.of_eq

theorem dstmodeBranch_touches (h : dstmodeBranch value s = .ok s') :
  Touches (some .sysTimer) loose s s'
  := by
  apply onCmd_cases h
  · intro _ h
    split at h
    · obtain rfl := Except.ok.inj h
      apply Touches.marks (s.setInt_marks rfl _)
    · apply Touches.of_eq (Except.ok.inj h)
  · intro _ h
    apply Touches.stores (Session.reply_stores h)
  · apply Touches.of_eq

theorem ntpenableBranch_touches (h : ntpenableBranch value s = .ok s') :
  Touches (some .sysTimer) loose s s'
  := by
  apply onCmd_cases h
  · intro _ h
    split at h
    · obtain rfl := Except.ok.inj h
      apply Touches.marks ((s.setInt_marks rfl _).quiet (Hook.run_stores _ _))
    · apply Touches.of_eq (Except.ok.inj h)
  · intro _ h
    apply Touches.stores (Session.reply_stores h)
  · apply Touches.of_eq

theorem cldEnableBranch_touches (h : cldEnableBranch value s = .ok s') :
  Touches (some .cloudCfg) loose s s'
  := by
  unfold cldEnableBranch at h
  generalize (if atoi value > 0 then 1 else 0 : Int) = enable at h
  apply onCmd_cases h
  · intro _ h
    split at h
    · obtain rfl := Except.ok.inj h
      apply Touches.marks ((s.setInt_marks rfl _).quiet (Hook.run_stores _ _))
    · apply Touches.of_eq (Except.ok.inj h)
  · intro _ h
    apply Touches.stores (Session.reply_stores h)
  · apply Touches.of_eq

theorem recEnableBranch_touches (h : recEnableBranch value s = .ok s') :
  Touches (some .recCfg) loose s s'
  := by
  unfold recEnableBranch at h
  split at h
  · split at h
    · obtain rfl := Except.ok.inj h
      apply Touches.marks (s.setInt_marks rfl _)
    · apply Touches.of_eq (Except.ok.inj h)
  · apply Touches.stores (Session.reply_stores h)

/-- `systimeBranch` stores the time, and does not mark its file. -/
theorem systimeBranch_stores (h : systimeBranch env value s = .ok s') :
  Stores (· = .str .sysTime) s s'
  := by
  apply onCmd_cases h
  · intro _ h
    obtain ⟨b, -, h⟩ := bind_ok.mp h
    split at h
    · obtain rfl := Except.ok.inj h
      apply Stores.refl
    · simp only at h
      split at h
      · apply Stores.trans _ (Session.setText_stores h)
        apply (s.effect_stores _).trans (Session.effect_stores _ _)
      · contradiction
  · intro _ h
    apply Session.reply_stores h
  · rintro rfl
    apply Stores.refl

/-- `devtypeBranch` stores the type of the device when it is asked for, and does not mark its
file. -/
theorem devtypeBranch_stores (h : devtypeBranch s = .ok s') :
  Stores (fun f => s.cmdType = tGet ∧ f.file = some .sysCfg) s s'
  := by
  unfold devtypeBranch at h
  split at h
  · next hcmd =>
      apply Stores.trans _ (Session.reply_stores h)
      apply (s.setInt_stores _ _).mono
      rintro _ rfl
      exact ⟨hcmd, rfl⟩
  · obtain rfl := Except.ok.inj h
    apply Stores.refl

/-! ### The hardware address -/

/-- The hardware address is of the network file: `storeHwaddr` leaves every field `f` of another
file alone. -/
theorem storeHwaddr_of_ne
    (c : Contents) (hwaddr : Nat → Int) {f : Field} (hf : f.file ≠ some .netCfg) :
  storeHwaddr c hwaddr f = c f
  := by
  apply List.foldlRecOn (motive := fun c' : Contents => c' f = c f)
  · rfl
  · intro c' hc' i _
    rw [← hc']
    apply Contents.setInt_of_ne
    rintro rfl
    apply hf rfl

/-- A byte that is stored at its place or behind it leaves every field `f` alone that is not of the
network file. -/
theorem storeNetByte_of_ne
    (c : Contents) (i b : Nat) {f : Field} (hf : f.file ≠ some .netCfg) :
  storeNetByte c i b f = c f
  := by
  have hset {g : IntField} (v : Int) (hg : g.file = some .netCfg) : c.setInt g v f = c f := by
    apply Contents.setInt_of_ne
    rintro rfl
    apply hf hg
  unfold storeNetByte
  split_ifs
  · apply hset _ rfl
  · apply hset _ rfl
  · apply hset _ rfl
  · rfl

theorem storeMac_of_ne
    (c : Contents) (i : Nat) (vs : List Nat) {f : Field} (hf : f.file ≠ some .netCfg) :
  storeMac c i vs f = c f
  := by
  induction vs generalizing c i with
  | nil => rfl
  | cons v vs ih =>
      rw [storeMac, ih]
      apply List.foldlRecOn (motive := fun c' : Contents => c' f = c f)
      · rfl
      · intro c' hc' k _
        rw [← hc']
        apply storeNetByte_of_ne _ _ _ hf

/-- The branch of the hardware address stores it and marks the network file, or reads it from the
device without marking. -/
theorem macaddrBranch_touches (h : macaddrBranch env value s = .ok s') :
  Touches (some .netCfg) (fun f => s.cmdType = tGet ∧ f.file = some .netCfg) s s'
  := by
  apply onCmd_cases h
  · intro _ h
    split at h
    · obtain rfl := Except.ok.inj h
      apply Touches.marks
      apply Session.mem_marks (fun f hf => storeMac_of_ne _ _ _ hf)
      exact Session.other_stores _ ..
    · apply Touches.of_eq (Except.ok.inj h)
  · intro hcmd h
    apply Touches.stores
    apply Stores.trans _ (Session.reply_stores h)
    apply Session.mem_stores
    intro f hf
    apply storeHwaddr_of_ne
    intro hfile
    apply hf ⟨hcmd, hfile⟩
  · apply Touches.of_eq

/-! ### The users -/

/-- `userNameSet` stores the name of a user, and does not mark its file. -/
theorem userNameSet_stores (h : userNameSet value s = .ok s') :
  Stores (fun f => ∃ i, f = .str (.username i)) s s'
  := by
  have hat (i : Nat) {P : Field → Prop} : Stores P s { s with i } := s.other_stores ..
  unfold userNameSet at h
  split at h
  · obtain ⟨i, -, h⟩ := bind_ok.mp h
    simp only at h
    split at h
    · obtain rfl := Except.ok.inj h
      apply hat
    · apply (hat i).trans
      apply (Session.setText_stores h).mono
      rintro _ rfl
      use i
  · split at h
    · obtain ⟨i, -, h⟩ := bind_ok.mp h
      simp only at h
      split at h
      · obtain rfl := Except.ok.inj h
        apply hat
      · obtain rfl := Except.ok.inj h
        apply (hat i).trans
        apply Session.mem_stores
        intro f hf
        apply Contents.setStr_of_ne
        rintro rfl
        apply hf
        use i
    · split at h
      · obtain ⟨i, -, h⟩ := bind_ok.mp h
        obtain rfl := Except.ok.inj h
        apply hat
      · obtain rfl := Except.ok.inj h
        apply Stores.refl

theorem userNameBranch_stores (h : userNameBranch value s = .ok s') :
  Stores (fun f => s.cmdType = tSet ∧ ∃ i, f = .str (.username i)) s s'
  := by
  obtain ⟨s₁, hs₁, h⟩ := bind_ok.mp h
  obtain ⟨i, -, h⟩ := bind_ok.mp h
  obtain ⟨t, -, h⟩ := bind_ok.mp h
  have hreply : Stores (fun _ => False) s₁ s' := by
    apply Stores.trans _ (Session.reply_stores h)
    exact s₁.other_stores ..
  refine Stores.quiet ?_ hreply
  apply onCmd_cases hs₁
  · intro hcmd hs₁
    apply (userNameSet_stores hs₁).mono
    intro f hf
    exact ⟨hcmd, hf⟩
  · intro _ hs₁
    obtain ⟨i, -, hs₁⟩ := bind_ok.mp hs₁
    obtain rfl := Except.ok.inj hs₁
    exact s.other_stores ..
  · rintro rfl
    apply Stores.refl

theorem userPasswordBranch_touches (h : userPasswordBranch value s = .ok s') :
  Touches (some .user) loose s s'
  := by
  unfold userPasswordBranch at h
  split at h
  · obtain ⟨i, -, h⟩ := bind_ok.mp h
    obtain ⟨s₁, hs₁, h⟩ := bind_ok.mp h
    obtain rfl := Except.ok.inj h
    apply Touches.marks
    apply (Session.setText_stores hs₁).marks
    · rintro _ rfl
      rfl
    · apply Stores.refl
  · apply Touches.of_eq (Except.ok.inj h)

theorem userGroupBranch_touches (h : userGroupBranch value s = .ok s') :
  Touches (some .user) loose s s'
  := by
  unfold userGroupBranch at h
  split at h
  · obtain ⟨i, -, h⟩ := bind_ok.mp h
    obtain rfl := Except.ok.inj h
    apply Touches.marks (s.setInt_marks rfl _)
  · apply Touches.of_eq (Except.ok.inj h)

/-! ### PTZ -/

/-- The presets are of the preset file: `clearPreset` leaves every field `f` of another file
alone. -/
theorem clearPreset_of_ne
    (c : Contents) (i : Nat) {f : Field} (hf : f.file ≠ some .ptzPreset) :
  clearPreset c i f = c f
  := by
  have hname : f ≠ .str (.presetName i) := by
    rintro rfl
    apply hf rfl
  have hset : f ≠ .int (.presetIsSet i) := by
    rintro rfl
    apply hf rfl
  rw [clearPreset, Contents.setStr_of_ne hname, Contents.setInt_of_ne hset]

theorem clearPresets_of_ne
    (c : Contents) {f : Field} (hf : f.file ≠ some .ptzPreset) :
  clearPresets c f = c f
  := by
  apply List.foldlRecOn (motive := fun c' : Contents => c' f = c f)
  · rfl
  · intro c' hc' i _
    rw [← hc']
    apply clearPreset_of_ne _ _ hf

theorem gotoReply_stores {cValue error : Int} (h : gotoReply cValue error s = .ok s') :
  Stores P s s'
  := by
  have hret : Stores P s { s with ret := s.ret + 1 } := s.other_stores ..
  apply hret.trans (Session.answers_stores h)

theorem gotoPresetBranch_touches (h : gotoPresetBranch value s = .ok s') :
  Touches (some .ptzPreset) loose s s'
  := by
  unfold gotoPresetBranch at h
  simp only at h
  split at h
  · split at h
    · split at h
      · split at h
        · have hquiet {s₁ : Session} {e : Effect} {v w : Int}
              (h : gotoReply v w (s₁.effect e) = .ok s') : Stores (fun _ => False) s₁ s' :=
            (s₁.effect_stores e).trans (gotoReply_stores h)
          apply Touches.marks
          refine Marks.quiet ?_ (hquiet h)
          apply Session.mem_marks (fun f hf => clearPresets_of_ne _ hf)
          exact Session.other_stores _ ..
        · apply Touches.stores
          apply (Session.effect_stores _ _).trans (gotoReply_stores h)
      · apply Touches.stores (gotoReply_stores h)
    · apply Touches.stores (gotoReply_stores h)
  · apply Touches.of_eq (Except.ok.inj h)

theorem deletepresetBranch_touches (h : deletepresetBranch value s = .ok s') :
  Touches (some .ptzPreset) loose s s'
  := by
  unfold deletepresetBranch at h
  simp only at h
  split at h
  · split_ifs at h
    · apply Touches.of_eq (Except.ok.inj h)
    · apply Touches.of_eq (Except.ok.inj h)
    · apply Touches.of_eq (Except.ok.inj h)
    · obtain rfl := Except.ok.inj h
      apply Touches.marks
      apply Session.mem_marks (fun f hf => clearPreset_of_ne _ _ hf)
      apply Session.effect_stores
  · apply Touches.of_eq (Except.ok.inj h)

/-- A branch that sends a command to the PTZ unit, or does nothing, stores nothing. -/
theorem ptz_stores
    {c : Prop} [Decidable c] {e : Effect}
    (h : (if c then .ok (s.effect e) else .ok s) = Except.ok (ε := Fault) s') :
  Stores P s s'
  := by
  split at h
  · obtain rfl := Except.ok.inj h
    apply Session.effect_stores
  · obtain rfl := Except.ok.inj h
    apply Stores.refl

theorem setIdrBr_stores (h : setIdrBr s = .ok s') : Stores P s s' := by
  obtain ⟨_, -, h⟩ := bind_ok.mp h
  obtain ⟨_, -, h⟩ := bind_ok.mp h
  obtain rfl := Except.ok.inj h
  apply Session.effect_stores

theorem setNvrSendStatus_stores {opt : Int} (h : setNvrSendStatus opt s = .ok s') :
  Stores P s s'
  := by
  unfold setNvrSendStatus at h
  split at h
  · obtain rfl := Except.ok.inj h
    apply Stores.refl
  · obtain ⟨_, -, h⟩ := bind_ok.mp h
    obtain ⟨_, -, h⟩ := bind_ok.mp h
    simp only at h
    split at h
    · apply (s.effect_stores _).trans (setIdrBr_stores h)
    · obtain rfl := Except.ok.inj h
      apply Session.effect_stores

theorem nvrOptBranch_stores (h : nvrOptBranch value s = .ok s') : Stores P s s' := by
  unfold nvrOptBranch at h
  split at h
  · apply setNvrSendStatus_stores h
  · obtain rfl := Except.ok.inj h
    apply Stores.refl

theorem nvrForIDRBranch_stores (h : nvrForIDRBranch s = .ok s') : Stores P s s' := by
  unfold nvrForIDRBranch at h
  split at h
  · apply setIdrBr_stores h
  · obtain rfl := Except.ok.inj h
    apply Stores.refl

theorem vzoomBranch_stores (h : vzoomBranch env value s = .ok s') : Stores P s s' := by
  unfold vzoomBranch at h
  split at h
  · simp only at h
    split at h
    · obtain rfl := Except.ok.inj h
      apply Session.effect_stores
    · obtain rfl := Except.ok.inj h
      apply Session.effect_stores
  · obtain rfl := Except.ok.inj h
    apply Stores.refl

/-! ### The system -/

theorem protocolBranch_stores (h : protocolBranch env value s = .ok s') : Stores P s s' := by
  apply onCmd_cases h
  · intro _ h
    split at h
    · obtain rfl := Except.ok.inj h
      exact s.other_stores ..
    · obtain rfl := Except.ok.inj h
      apply Stores.refl
  · intro _ h
    apply Session.reply_stores h
  · rintro rfl
    apply Stores.refl

theorem rebootBranch_stores (h : rebootBranch s = .ok s') : Stores P s s' := by
  unfold rebootBranch at h
  split at h
  · obtain rfl := Except.ok.inj h
    exact s.other_stores ..
  · obtain rfl := Except.ok.inj h
    apply Stores.refl

theorem allpresetsBranch_stores (h : allpresetsBranch s = .ok s') : Stores P s s' := by
  unfold allpresetsBranch at h
  split at h
  · obtain rfl := Except.ok.inj h
    exact s.other_stores ..
  · obtain rfl := Except.ok.inj h
    apply Stores.refl

theorem defaultTimeoutBranch_stores (h : defaultTimeoutBranch s = .ok s') : Stores P s s' := by
  unfold defaultTimeoutBranch at h
  split at h
  · apply Session.answer_stores h
  · obtain rfl := Except.ok.inj h
    apply Stores.refl

/-! ### The selectors -/

theorem typeBranch_stores (accessPoints : Int) (h : typeBranch value s = .ok s') :
  Stores P (s.point (Branch.select accessPoints value s.cursor .type)) s'
  := by
  obtain rfl := Except.ok.inj h
  simp only [Branch.select]
  split
  · exact Session.other_stores _ ..
  · exact Session.other_stores _ ..

theorem wfsearchAccesspointsBranch_stores (h : wfsearchAccesspointsBranch value s = .ok s') :
  Stores P (s.point
    (Branch.select (s.mem.int .waccessPoints) value s.cursor .wfsearchAccesspoints)) s'
  := by
  unfold wfsearchAccesspointsBranch at h
  split at h
  · next hcmd =>
      split at h
      · next hle =>
          obtain rfl := Except.ok.inj h
          rw [Branch.select, if_neg (fun hand => Int.not_lt.mpr hle hand.2)]
          apply Stores.refl
      · next hlt =>
          rw [Branch.select, if_pos ⟨hcmd, Int.not_le.mp hlt⟩]
          apply Session.reply_stores h
  · next hcmd =>
      obtain rfl := Except.ok.inj h
      rw [Branch.select, if_neg (fun hand => hcmd hand.1)]
      apply Stores.refl

theorem mdAreaBranch_stores (accessPoints : Int) (h : mdAreaBranch value s = .ok s') :
  Stores P (s.point (Branch.select accessPoints value s.cursor .mdArea)) s'
  := by
  unfold mdAreaBranch at h
  simp only at h
  split at h
  · obtain rfl := Except.ok.inj h
    apply Stores.refl
  · apply Session.reply_stores h

theorem userOptTypeBranch_stores (accessPoints : Int) (h : userOptTypeBranch value s = .ok s') :
  Stores P (s.point (Branch.select accessPoints value s.cursor .userOptType)) s'
  := by
  unfold userOptTypeBranch at h
  split at h
  · next hcmd =>
      split at h
      · next hout =>
          have hnot : ¬ (0 ≤ atoi value ∧ atoi value ≤ modifyUser) := by omega
          obtain rfl := Except.ok.inj h
          rw [Branch.select, if_neg (fun hand => hnot hand.2)]
          apply Stores.refl
      · next hin =>
          have hyes : 0 ≤ atoi value ∧ atoi value ≤ modifyUser := by omega
          obtain rfl := Except.ok.inj h
          rw [Branch.select, if_pos ⟨hcmd, hyes⟩]
          apply Stores.refl
  · next hcmd =>
      obtain rfl := Except.ok.inj h
      rw [Branch.select, if_neg (fun hand => hcmd hand.1)]
      apply Stores.refl

/-! ### The branches -/

/-- What a branch may change: it sets the cursor as `select` says, and changes its `loose` fields or
fields of its `file`, which is then marked. -/
theorem Branch.touches
    {b : Branch} (hmarks : b.MarksItsFile) (hreset : b ≠ .reset)
    (h : b.run env key value s = .ok s') :
  Touches (b.file s.cursor) (b.loose s.cursor)
    (s.point (b.select (s.mem.int .waccessPoints) value s.cursor)) s'
  := by
  cases b with
  | int => apply intBranch_touches hmarks h
  | text => apply textBranch_touches hmarks h
  | chan => apply chanBranch_touches h
  | osd => apply osdBranch_touches h
  | recCfg => apply recBranch_touches h
  | constant | constantText | shown | shownText | nvrClientID | serialNumber | wfsearchEssid =>
      apply getBranch_touches h
  | width => apply getBranch_touches h
  | height => apply getBranch_touches h
  | videoAddr => apply getBranch_touches h
  | videoResolutions => apply getBranch_touches h
  | type => apply Touches.stores (typeBranch_stores _ h)
  | chn | subChn => apply Touches.stores (Session.answer_stores h)
  | osdRegion =>
      apply Touches.stores
      apply Stores.trans _ (Session.answer_stores h)
      exact s.other_stores ..
  | wfsearchAccesspoints => apply Touches.stores (wfsearchAccesspointsBranch_stores h)
  | mdArea => apply Touches.stores (mdAreaBranch_stores _ h)
  | userOptType => apply Touches.stores (userOptTypeBranch_stores _ h)
  | vdmaskNO => apply Touches.of_eq (Except.ok.inj h)
  | frameRate => apply streamCmd_touches (t := fun v => v) h
  | bitRate => apply streamCmd_touches (t := fun v => v.tdiv 1000) h
  | ipInterval => apply streamCmd_touches (t := fun v => v) h
  | synchronizationPoint => apply Touches.stores (ptz_stores h)
  | fw => apply fwBranch_touches h
  | encResolution => apply Touches.stores (encResolutionBranch_stores h)
  | nvrOpt => apply Touches.stores (nvrOptBranch_stores h)
  | nvrForIDR => apply Touches.stores (nvrForIDRBranch_stores h)
  | ptzstring | stop => apply Touches.stores (ptz_stores h)
  | osdName => apply osdNameBranch_touches h
  | netmask => apply netmaskBranch_touches h
  | macaddr => apply macaddrBranch_touches h
  | dstmode => apply dstmodeBranch_touches h
  | ntpenable => apply ntpenableBranch_touches h
  | systime => apply Touches.stores (systimeBranch_stores h)
  | devtype => apply Touches.stores (devtypeBranch_stores h)
  | userName => apply Touches.stores (userNameBranch_stores h)
  | userPassword => apply userPasswordBranch_touches h
  | userGroup => apply userGroupBranch_touches h
  | vx | vy =>
      obtain rfl := Except.ok.inj h
      apply Touches.stores
      split
      · exact s.other_stores ..
      · apply Stores.refl
  | vzoom => apply Touches.stores (vzoomBranch_stores h)
  | gotoPreset => apply gotoPresetBranch_touches h
  | preset | presetname =>
      obtain rfl := Except.ok.inj h
      apply Touches.stores
      exact s.other_stores ..
  | deletepreset => apply deletepresetBranch_touches h
  | allpresets => apply Touches.stores (allpresetsBranch_stores h)
  | defaultTimeout => apply Touches.stores (defaultTimeoutBranch_stores h)
  | reset => contradiction
  | reboot => apply Touches.stores (rebootBranch_stores h)
  | protocol => apply Touches.stores (protocolBranch_stores h)
  | snapshotStart =>
      obtain rfl := Except.ok.inj h
      apply Touches.stores (s.setInt_stores .snapStart (atoi value))
  | cldEnable => apply cldEnableBranch_touches h
  | recEnable => apply recEnableBranch_touches h
  | ignored => apply Touches.of_eq (Except.ok.inj h)

end Msg
