import Avserver.Msg.Branch
import Mathlib.Data.List.Induction

/-!
# Start-up

When the camera is started, `init_system` reads the globals of `Init_table` from their files and
sets up the network, the time and the overlay.  `rtspd_start` stores the encoder configurations,
and `av_server` sets the record configuration before it enters its loop.  A restart ends where a
file of the table cannot be read.

So behind a restart a global of the table is as it is in its file, but for what start-up sets
itself (`restart_restores`).
-/

namespace Msg

open Library

/-! ### What start-up yields and does -/

/-- `Init_table` -/
def initTable : List CfgFile :=
  [.encFw, .imageAttr, .overlayCfg, .infraredCfg, .netCfg, .portCfg, .upnpCfg, .wfCfg, .ddnsCfg,
    .ptzcomCfg, .mdCfg, .user, .snaptimerCfg, .ftpCfg, .smtpCfg, .vidmaskCfg, .sysCfg, .ptzPreset,
    .sysTimer, .cloudCfg, .recCfg]

/-- What the calls at start-up yield, and what `read_cfg_file` and the version file hold. -/
structure BootEnv where
  /-- the globals as the program is loaded -/
  globals : Contents
  /-- whether `read_cfg_file` succeeds -/
  readCfgFile : CfgFile → Bool
  /-- what is read from `VERSION_FILE`, if it can be opened -/
  version : Option (List Char)
  /-- the address of `eth0`, when it can still be asked for so many times -/
  ifaddr : Nat → List Char
  ipOk : List Char → Bool
  /-- the address that `net_get_hwaddr` stores -/
  hwaddr : Nat → Int
  /-- whether `connect_local(UN_CAPOSD_DOMAIN)` yields a socket -/
  connectLocal : Bool
  /-- the encoder configurations that `rtspd_start` stores -/
  encoders : Contents

/-- What start-up does to the rest of the system, besides the globals that it sets. -/
inductive BootEffect where
  | netEnableDhcpcd
  | netDisableDhcpcd
  | netSetNetmask (addr : List Char)
  | netSetGateway (addr : List Char)
  | netSetDns (addr : List Char)
  | system (command : List Char)
  /-- the region is sent to the overlay process -/
  | sendOsd (region : Nat)
  | recCfgSet
  | ylStart
deriving DecidableEq

/-- Start-up ends before the loop of `av_server` is entered: it gives up by `exit`, or runs into a
fault. -/
inductive Stop where
  | exit
  | fault (f : Fault)
deriving DecidableEq

/-- The state of start-up: the globals in `mem`, and the `effects` so far. -/
structure Boot where
  mem : Contents
  effects : List BootEffect

/-- The state `b` after something, `e`, has been done to the rest of the system. -/
def Boot.effect (b : Boot) (e : BootEffect) : Boot := { b with effects := b.effects ++ [e] }

/-! ### `init_system` -/

/-- The global of the `file` is read from the flash into `mem`, or start-up ends if `read_cfg_file`
fails. -/
def readGlobal (boot : BootEnv) (flash mem : Contents) (file : CfgFile) : Except Stop Contents :=
  if boot.readCfgFile file then .ok (mem.load flash file) else .error .exit

/-- The globals of `Init_table` are read from their files, one after the other. -/
def readTable (boot : BootEnv) (flash : Contents) : Except Stop Contents :=
  initTable.foldlM (readGlobal boot flash) boot.globals

/-- The number of presets that are marked as set at start-up. -/
def bootPresets : Nat := 55

/-- The contents `c` after the first presets, `bootPresets` many, have been marked as set. -/
def setBootPresets (c : Contents) : Contents :=
  (List.range bootPresets).foldl (fun c i => c.setInt (.presetIsSet i) 1) c

/-- The number of characters of `version`, which are all copied. -/
def versionLen : Nat := 16

/-- The version is copied to `softVersion`, with what follows it in `version`, if the file could be
opened. -/
def storeVersion (boot : BootEnv) (c : Contents) : Except Fault Contents :=
  match boot.version with
  | some v =>
      let buf := c.str .softVersion
      if versionLen ≤ buf.length then
        .ok (c.setStr .softVersion
          (strncpy (List.replicate versionLen nul) v ++ buf.drop versionLen))
      else .error .overflow
  | none => .ok c

/-- The address `addr` of the device is copied to `ip`, which is cleared before. -/
def storeIp (addr : List Char) (c : Contents) : Except Fault Contents :=
  let buf := c.str .ip
  if addr.length ≤ buf.length then .ok (c.setStr .ip (strncpy buf addr)) else .error .overflow

/-- The address is asked for until it is good, but `n` times at most; then the device is
rebooted. -/
def readIp (boot : BootEnv) : Nat → Boot → Except Fault Boot
  | 0, b =>
      .ok ((b.effect (.system "echo \"IP read error.\" >> /mnt/nfs/system.log".toList)).effect
        (.system "/sbin/reboot".toList))
  | n + 1, b => do
      let mem ← storeIp (boot.ifaddr n) b.mem
      let ip ← text (mem.str .ip)
      if boot.ipOk ip then .ok { b with mem := mem } else readIp boot n { b with mem := mem }

/-- The network is set up: by DHCP, or with the addresses of the configuration. -/
def initNet (boot : BootEnv) (b : Boot) : Except Fault Boot :=
  if b.mem.int (.net .dhcpflag) ≠ 0 then .ok (b.effect .netEnableDhcpcd)
  else do
    let b ← readIp boot 3 (b.effect .netDisableDhcpcd)
    let netmask ← text (b.mem.str .netmask)
    let gateway ← text (b.mem.str .gateway)
    let fdnsip ← text (b.mem.str .fdnsip)
    let b := ((b.effect (.netSetNetmask netmask)).effect (.netSetGateway gateway)).effect
      (.netSetDns fdnsip)
    .ok { b with mem := storeHwaddr b.mem boot.hwaddr }

/-- The command that asks a `server` for the time, with its `options`. -/
def ntpclient (server options : List Char) : List Char :=
  "/mnt/mtd/ntpclient -h ".toList ++ server ++ " -s ".toList ++ options ++ " &".toList

/-- The options of `ntpclient` with which the time is asked for once. -/
def onceOptions : List Char := "-c 1".toList

/-- The options of `ntpclient` with which the time is asked for again and again, every `ntpinterval`
minutes. -/
def intervalOptions (ntpinterval : Int) : List Char :=
  "-i ".toList ++ decimal (ntpinterval * 60) ++ " -c 0".toList

/-- The command for the time, with the `options`, is printed to `cmd_tmp` and run. -/
def runNtpclient (options : List Char) (b : Boot) : Except Fault Boot := do
  let server ← text (b.mem.str .ntpserver)
  if (ntpclient server options).length < cmdTmpSize then
    .ok (b.effect (.system (ntpclient server options)))
  else .error .overflow

/-- If `ntpenable` is set, the time is asked for, twice and then at intervals. -/
def initNtp (b : Boot) : Except Fault Boot :=
  if b.mem.int (.time .ntpenable) ≠ 0 then do
    let b ← runNtpclient onceOptions b
    let b ← runNtpclient onceOptions b
    runNtpclient (intervalOptions (b.mem.int (.time .ntpinterval))) b
  else .ok b

/-- The first region is sent to the overlay process, if it can be connected to, and the clock is
set. -/
def initOsd (boot : BootEnv) (b : Boot) : Boot :=
  let b := if boot.connectLocal then b.effect (.sendOsd 0) else b
  b.effect (.system "date -s \"2015-04-30 12:00:00\"".toList)

/-- What `init_system` does with the globals in `mem` that have been read. -/
def setUp (boot : BootEnv) (mem : Contents) : Except Fault Boot := do
  let mem ← storeVersion boot (setBootPresets mem)
  let b ← initNet boot ⟨mem, []⟩
  let b ← initNtp b
  .ok (initOsd boot b)

/-- `init_system` -/
def initSystem (boot : BootEnv) (flash : Contents) : Except Stop Boot := do
  let mem ← readTable boot flash
  (setUp boot mem).mapError .fault

/-! ### `av_server` -/

/-- `rtspd_start` stores the encoder configurations that it has read in the globals. -/
def rtspdStart (boot : BootEnv) (b : Boot) : Boot :=
  { b with mem := (b.mem.load boot.encoders .enc0).load boot.encoders .enc1 }

/-- The record configuration that `av_server` sets: recording at every hour, in files of five
minutes. -/
def bootRecCfg : RecField → Int
  | .enable => 1
  | .timeLen => 5
  | .sch => 0xffffff

/-- `av_server`, up to its loop: it sets the record configuration and calls `rec_cfg_set`. -/
def avServer (b : Boot) : Boot :=
  let mem := [RecField.enable, .timeLen, .sch].foldl
    (fun c f => c.setInt (.recCfg f) (bootRecCfg f)) b.mem
  let b := { b with mem := mem }.effect .recCfgSet
  if b.mem.int .cloudEnable ≠ 0 then b.effect .ylStart else b

/-- The restart of the camera with the files in `flash`: `init_system`, `rtspd_start` and
`av_server`. -/
def restart (boot : BootEnv) (flash : Contents) : Except Stop Boot := do
  let b ← initSystem boot flash
  .ok (avServer (rtspdStart boot b))

/-! ### What a restart leaves -/

variable {boot : BootEnv} {flash c c' : Contents} {b b' : Boot} {f : Field}

/-- The fields that `init_system` sets behind the presets: the version, and the addresses of the
device. -/
def SetUpSets : Field → Prop
  | .int (.macaddr _) | .str .softVersion | .str .ip => True
  | _ => False

/-- The fields that start-up sets itself: those of `SetUpSets`, the presets and the record
configuration. -/
def BootSets : Field → Prop
  | .int (.presetIsSet i) => i < bootPresets
  | .int (.recCfg _) => True
  | f => SetUpSets f

/-- The contents `c` and `c'` differ on fields with `P` only. -/
def DifferOn (P : Field → Prop) (c c' : Contents) : Prop := ∀ f, ¬ P f → c' f = c f

namespace DifferOn

variable {P Q : Field → Prop}

theorem refl (c : Contents) : DifferOn P c c := fun _ _ => rfl

theorem trans {c'' : Contents} (h : DifferOn P c c') (h' : DifferOn P c' c'') :
  DifferOn P c c''
  := by
  intro f hf
  rw [h' f hf, h f hf]

theorem mono (h : DifferOn P c c') (hPQ : ∀ f, P f → Q f) : DifferOn Q c c' :=
  fun f hf => h f fun hP => hf (hPQ f hP)

theorem setInt {g : IntField} {v : Int} (hg : P (.int g)) : DifferOn P c (c.setInt g v) := by
  intro f hf
  apply Contents.setInt_of_ne
  rintro rfl
  apply hf hg

theorem setStr {g : StrField} {buf : List Char} (hg : P (.str g)) :
  DifferOn P c (c.setStr g buf)
  := by
  intro f hf
  apply Contents.setStr_of_ne
  rintro rfl
  apply hf hg

/-- Numbers `g x` with `P` that are set one after the other leave contents that differ on fields
with `P` only. -/
theorem foldl {α : Type} {g : α → IntField} {v : α → Int} {xs : List α}
    (hg : ∀ x ∈ xs, P (.int (g x))) :
  DifferOn P c (xs.foldl (fun c x => c.setInt (g x) (v x)) c)
  := by
  induction xs generalizing c with
  | nil => apply refl
  | cons x xs ih =>
      rw [List.foldl_cons]
      apply (setInt (hg x (.head _))).trans
      apply ih
      intro y hy
      apply hg y (.tail _ hy)

end DifferOn

/-- If different `x` stand for different numbers `g x`, then after all of them have been set each
one holds the value `v x`. -/
theorem foldl_setInt_self {α : Type} {g : α → IntField} {v : α → Int} {xs : List α}
    (hg : ∀ x y, g x = g y → x = y) {x : α} (hx : x ∈ xs) :
  (xs.foldl (fun c x => c.setInt (g x) (v x)) c).int (g x) = (g x).cast (v x)
  := by
  induction xs using List.reverseRecOn with
  | nil => cases hx
  | append_singleton xs y ih =>
      rw [List.foldl_append, List.foldl_cons, List.foldl_nil]
      by_cases hxy : g x = g y
      · obtain rfl := hg x y hxy
        apply Function.update_self
      · apply Eq.trans (Contents.setInt_of_ne _) (ih _)
        · intro heq
          apply hxy (Field.int.inj heq)
        · apply (List.mem_append.mp hx).resolve_right
          intro hy
          apply hxy (congrArg g (List.mem_singleton.mp hy))

/-- If the globals of the `files` are read, one after the other, then each of their fields holds
what is in the flash. -/
theorem readGlobals_ok
    {files : List CfgFile} (h : files.foldlM (readGlobal boot flash) c = .ok c') :
  ∀ f, ((∃ file ∈ files, f.file = some file) ∨ c f = flash f) → c' f = flash f
  := by
  induction files generalizing c with
  | nil =>
      obtain rfl := foldlM_nil_ok.mp h
      rintro f (⟨file, hfile, -⟩ | hf)
      · cases hfile
      · apply hf
  | cons file files ih =>
      obtain ⟨c₁, hc₁, h⟩ := foldlM_cons_ok.mp h
      unfold readGlobal at hc₁
      split at hc₁
      · obtain rfl := Except.ok.inj hc₁
        intro f hf
        apply ih h
        obtain ⟨file', hfile', hf⟩ | hf := hf
        · obtain rfl | hfile' := List.mem_cons.mp hfile'
          · apply Or.inr
            simp [Contents.load, hf]
          · apply Or.inl ⟨file', hfile', hf⟩
        · apply Or.inr
          simp only [Contents.load, hf, ite_self]
      · contradiction

/-- The globals of the table hold, when they have been read, what is in their files. -/
theorem readTable_ok
    (h : readTable boot flash = .ok c) {file : CfgFile} (hf : f.file = some file)
    (hfile : file ∈ initTable) :
  c f = flash f
  := readGlobals_ok h f (Or.inl ⟨file, hfile, hf⟩)

theorem storeVersion_ok (h : storeVersion boot c = .ok c') : DifferOn SetUpSets c c' := by
  unfold storeVersion at h
  split at h
  · simp only at h
    split at h
    · obtain rfl := Except.ok.inj h
      apply DifferOn.setStr (by exact trivial)
    · contradiction
  · obtain rfl := Except.ok.inj h
    apply DifferOn.refl

theorem readIp_ok {n : Nat} (h : readIp boot n b = .ok b') : DifferOn SetUpSets b.mem b'.mem := by
  induction n generalizing b with
  | zero =>
      obtain rfl := Except.ok.inj h
      apply DifferOn.refl
  | succ n ih =>
      obtain ⟨c, hc, h⟩ := bind_ok.mp h
      obtain ⟨ip, -, h⟩ := bind_ok.mp h
      have hstore : DifferOn SetUpSets b.mem c := by
        unfold storeIp at hc
        simp only at hc
        split at hc
        · obtain rfl := Except.ok.inj hc
          apply DifferOn.setStr (by exact trivial)
        · contradiction
      split at h
      · obtain rfl := Except.ok.inj h
        apply hstore
      · apply hstore.trans (ih h)

theorem initNet_ok (h : initNet boot b = .ok b') : DifferOn SetUpSets b.mem b'.mem := by
  unfold initNet at h
  split at h
  · obtain rfl := Except.ok.inj h
    apply DifferOn.refl
  · obtain ⟨b₁, hb₁, h⟩ := bind_ok.mp h
    obtain ⟨netmask, -, h⟩ := bind_ok.mp h
    obtain ⟨gateway, -, h⟩ := bind_ok.mp h
    obtain ⟨fdnsip, -, h⟩ := bind_ok.mp h
    obtain rfl := Except.ok.inj h
    apply (readIp_ok hb₁).trans
    exact DifferOn.foldl fun _ _ => trivial

theorem runNtpclient_mem {options : List Char} (h : runNtpclient options b = .ok b') :
  b'.mem = b.mem
  := by
  obtain ⟨server, -, h⟩ := bind_ok.mp h
  split at h
  · obtain rfl := Except.ok.inj h
    rfl
  · contradiction

theorem initNtp_mem (h : initNtp b = .ok b') : b'.mem = b.mem := by
  unfold initNtp at h
  split at h
  · obtain ⟨b₁, hb₁, h⟩ := bind_ok.mp h
    obtain ⟨b₂, hb₂, h⟩ := bind_ok.mp h
    rw [runNtpclient_mem h, runNtpclient_mem hb₂, runNtpclient_mem hb₁]
  · obtain rfl := Except.ok.inj h
    rfl

theorem initOsd_mem : (initOsd boot b).mem = b.mem := by
  unfold initOsd
  split
  · rfl
  · rfl

/-- Behind the presets `setUp` sets only what `SetUpSets` says, the version and the addresses. -/
theorem setUp_ok (h : setUp boot c = .ok b) : DifferOn SetUpSets (setBootPresets c) b.mem := by
  obtain ⟨c₁, hc₁, h⟩ := bind_ok.mp h
  obtain ⟨b₁, hb₁, h⟩ := bind_ok.mp h
  obtain ⟨b₂, hb₂, h⟩ := bind_ok.mp h
  obtain rfl := Except.ok.inj h
  rw [initOsd_mem, initNtp_mem hb₂]
  exact (storeVersion_ok hc₁).trans (initNet_ok hb₁)

/-- What `avServer` leaves in memory: the record configuration is set, one member after the
other. -/
theorem avServer_mem (b : Boot) :
  (avServer b).mem = [RecField.enable, .timeLen, .sch].foldl
    (fun c f => c.setInt (.recCfg f) (bootRecCfg f)) b.mem
  := by
  unfold avServer
  simp only
  split
  · rfl
  · rfl

/-- `avServer` sets the record configuration, and leaves all other fields alone. -/
theorem avServer_differ (b : Boot) :
  DifferOn (fun f => ∃ g, f = .int (.recCfg g)) b.mem (avServer b).mem
  := by
  rw [avServer_mem]
  exact DifferOn.foldl fun g _ => ⟨g, rfl⟩

/-- A restart that comes to an end has read the table, set the presets and what `SetUpSets` says,
and gone through `rtspdStart` and `avServer`. -/
theorem restart_ok (h : restart boot flash = .ok b) :
  ∃ c b₁, readTable boot flash = .ok c ∧ DifferOn SetUpSets (setBootPresets c) b₁.mem ∧
    b = avServer (rtspdStart boot b₁)
  := by
  obtain ⟨b₁, hb₁, h⟩ := bind_ok.mp h
  obtain ⟨c, hc, hb₁⟩ := bind_ok.mp hb₁
  use c, b₁, hc, setUp_ok (mapError_ok.mp hb₁), (Except.ok.inj h).symm

/-- A field `f` of a file of the table is none of the encoder configurations, so `rtspdStart` leaves
it alone. -/
theorem rtspdStart_mem {file : CfgFile} (hf : f.file = some file) (hfile : file ∈ initTable) :
  (rtspdStart boot b).mem f = b.mem f
  := by
  have hne (av : CfgFile) (hav : av ∉ initTable) : f.file ≠ some av := by
    rw [hf]
    rintro heq
    obtain rfl := Option.some.inj heq
    apply hav hfile
  simp only [rtspdStart, Contents.load, if_neg (hne .enc0 (by decide)),
    if_neg (hne .enc1 (by decide))]

/-- Behind a restart a field `f` of the table is as in its file, but for what `BootSets` says. -/
theorem restart_restores
    (h : restart boot flash = .ok b) {file : CfgFile} (hf : f.file = some file)
    (hfile : file ∈ initTable) (hboot : ¬ BootSets f) :
  b.mem f = flash f
  := by
  obtain ⟨c, b₁, hc, hset, rfl⟩ := restart_ok h
  have hserver : DifferOn BootSets (rtspdStart boot b₁).mem (avServer (rtspdStart boot b₁)).mem := by
    apply (avServer_differ _).mono
    rintro _ ⟨g, rfl⟩
    exact trivial
  have hpresets : DifferOn BootSets c (setBootPresets c) :=
    DifferOn.foldl fun i hi => List.mem_range.mp hi
  have hsetUp : DifferOn BootSets (setBootPresets c) b₁.mem := by
    apply hset.mono
    intro f hf
    cases f with
    | int f => cases f with
      | macaddr => exact hf
      | _ => cases hf
    | str f => exact hf
  rw [hserver f hboot, rtspdStart_mem hf hfile, hsetUp f hboot, hpresets f hboot]
  apply readTable_ok hc hf hfile

/-- Behind a restart the first presets are marked as set, and the record configuration is
`bootRecCfg`. -/
theorem restart_sets (h : restart boot flash = .ok b) :
  (∀ i < bootPresets, b.mem.int (.presetIsSet i) = 1) ∧
  ∀ f, b.mem.int (.recCfg f) = bootRecCfg f
  := by
  obtain ⟨c, b₁, hc, hset, rfl⟩ := restart_ok h
  constructor
  · intro i hi
    apply Eq.trans (avServer_differ _ (.int (.presetIsSet i)) (by simp))
    apply Eq.trans (rtspdStart_mem rfl (by decide))
    apply Eq.trans (hset _ (by exact fun hfalse => hfalse))
    apply foldl_setInt_self (g := IntField.presetIsSet) (v := fun _ => 1)
    · intro i j hij
      apply IntField.presetIsSet.inj hij
    · apply List.mem_range.mpr hi
  · intro f
    rw [avServer_mem]
    apply foldl_setInt_self (g := IntField.recCfg)
    · intro f g hfg
      apply IntField.recCfg.inj hfg
    · cases f
      all_goals decide

end Msg
