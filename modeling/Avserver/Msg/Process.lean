import Avserver.Msg.Branch

/-!
# `processMsg`

The loop over the pairs of a request, what is done behind it, and the reply.  Behind the loop
a preset is dealt with if there was one among the pairs, other threads are told of what has
changed, and the globals whose bits are set in `file_changed_flag` are written to their files.
`handle` is a request as a step of the device.
-/

namespace Msg

/-- A request, as the pairs of keys and values that `ParseVars` yields of it. -/
abbrev Request : Type := List (List Char × List Char)

/-! ### Presets -/

/-- The digits at the end of the `name`, as many as there are. -/
def digitSuffix (name : List Char) : List Char := (name.reverse.takeWhile Char.isDigit).reverse

/-- `get_presetIndex` -/
def getPresetIndex (name : List Char) : Int := atoi (digitSuffix name)

/-- `get_prenamestring` -/
def getPrenamestring (name : List Char) : List Char :=
  (name.reverse.dropWhile Char.isDigit).reverse

/-- `spe_preset_index` -/
def spePresetIndex : List Nat := [95, 101, 102, 103, 125, 126, 127, 128]

/-- The preset `i` is marked as set in the memory of `s`, and the `name` is copied to its buffer. -/
def storePreset (i : Nat) (name : List Char) (s : Session) : Session :=
  let mem := s.mem.setInt (.presetIsSet i) 1
  { s with mem := mem.setStr (.presetName i) (strncpy (mem.str (.presetName i)) name) }

/-- The special preset `n` is set, with a name that begins with `p`, unless it is set already. -/
def setSpePreset (p : List Char) (s : Session) (n : Nat) : Except Fault Session :=
  if s.mem.int (.presetIsSet (n - 1)) ≠ 0 then .ok s
  else (s.setInt (.presetIsSet (n - 1)) 1).setText (.presetName (n - 1)) (p ++ decimal n)

/-- The preset `i` is set with its `name`, and with it the special ones; the file of the presets is
marked. -/
def setPresets (i : Nat) (name : List Char) (s : Session) : Except Fault Session := do
  let s ← spePresetIndex.foldlM (setSpePreset (getPrenamestring name)) (storePreset i name s)
  .ok (s.setFileChanged .ptzPreset)

/-- The answer about the preset `index`, which is printed in one piece with the answers `rest`. -/
def presetReply (index : Int) (rest : List Answer) (s : Session) : Except Fault Session :=
  s.answers (⟨.ptzPreset, decimal index⟩ :: rest)

/-- `deal_ptz_preset` -/
def dealPtzPreset (s : Session) : Except Fault Session :=
  let index := s.ptzpresetIndex
  if index < 0 ∨ index > ptzPresetAllnum then
    presetReply index [⟨.error, decimal errorPtzIndexOutRange⟩] s
  else if s.cmdType = tSet then
    if s.ptzPresetName.head? = some nul then
      presetReply index [⟨.ptzPresetname, []⟩, ⟨.error, decimal errorPtzPresetnameEmpty⟩] s
    else do
      let name ← text s.ptzPresetName
      let tmpIndex := getPresetIndex name - 1
      if index = 0 then
        if tmpIndex = ptzPresetAllnum then s.answer .error (decimal errorPtzIndexOver)
        else do
          let s ← presetReply (tmpIndex + 1)
            [⟨.ptzPresetname, name⟩, ⟨.error, decimal resultOk⟩] s
          let i ← bounded .presets tmpIndex ptzPresetAllnum
          setPresets i name (s.effect (.mctpCmd (ptzcmd setPreset (tmpIndex + 1))))
      else do
        let s ← presetReply index [⟨.ptzPresetname, name⟩, ⟨.error, decimal resultOk⟩] s
        let s ← setPresets (index - 1).toNat name s
        .ok (s.effect (.mctpCmd (ptzcmd setPreset index)))
  else if index = 0 then presetReply index [⟨.error, decimal errorPtzIndexOutRange⟩] s
  else if s.mem.int (.presetIsSet (index - 1).toNat) ≠ 0 then do
    let name ← text (s.mem.str (.presetName (index - 1).toNat))
    presetReply index [⟨.ptzPresetname, name⟩] s
  else presetReply index [⟨.error, decimal errorPtzIndexNotExist⟩] s

/-! ### The loop -/

/-- A pair of the request is handled by the branch for its key; a key that is not known is passed
over. -/
def processPair (env : Env) (s : Session) (pair : List Char × List Char) :
    Except Fault Session :=
  match Key.ofCode (atoi pair.1) with
  | some key => key.branch.run env key pair.2 s
  | none => .ok s

/-- The loop of `processMsg` over the pairs of the request. -/
def processPairs (env : Env) (req : Request) (s : Session) : Except Fault Session :=
  req.foldlM (processPair env) s

/-! ### Behind the loop -/

/-- If there has been a pair for a preset, it is dealt with behind the loop, and its answer
counted. -/
def finishPreset (s : Session) : Except Fault Session :=
  if s.ptzPresetIn ≠ 0 then (dealPtzPreset s).map fun s => { s with ret := s.ret + 1 } else .ok s

/-- Other parts of the system are told of what has changed, as it has been noted in the session
`s`. -/
def notify (env : Env) (s : Session) : Session :=
  let s :=
    if s.vx.any env.exceedsDelt ∨ s.vy.any env.exceedsDelt then s.effect (.setPtz s.vx s.vy)
    else s
  let s := if s.ifCfg then s.effect .genIfCfg else s
  let s := if s.ntpserverCfg ≠ 0 then s.effect .startNtp else s
  if isSetFileChanged s.fileChangedFlag .recCfg then s.effect .recCfgSet else s

/-- If a region has been changed, the one that was selected last is sent to the overlay process,
with its number. -/
def sendOsd (env : Env) (s : Session) : Except Fault Session :=
  if s.osdCfg ∧ env.connectLocal then do
    let r ← bounded .arrstOsd s.osdRegion regionNum
    .ok ((s.setInt (.osd r .region) s.osdRegion).effect (.sendOsd r))
  else .ok s

/-- The global of the `file` is written to it, if it is marked. -/
def writeFile (s : Session) (file : CfgFile) : Session :=
  if isSetFileChanged s.fileChangedFlag file then
    { s with flash := s.flash.load s.mem file }.effect (.writeCfgFile file)
  else s

/-- The globals that are marked in `s` are written to their files, in the order of `File_array`. -/
def writeFiles (s : Session) : Session := fileArray.foldl writeFile s

/-- The device is rebooted, if this has been asked for in the session `s`. -/
def finishReboot (s : Session) : Session :=
  if s.reboot ≠ 0 then s.effect (.system "/sbin/reboot".toList) else s

/-- What follows the loop of `processMsg`: the preset, the notes, the region, the files, and the
reboot. -/
def finish (env : Env) (s : Session) : Except Fault Session := do
  let s ← finishPreset s
  let s ← sendOsd env (notify env s)
  .ok (finishReboot (writeFiles s))

/-! ### The request -/

/-- What a request leaves: the device, its return value, the buffer of the response, and its
effects. -/
structure Reply where
  device : Device
  ret : Nat
  rbuf : List Char
  effects : List Effect

/-- The answers as they are written to the buffer: the type comes first and is set off with a
`$`. -/
def response (pRet : List Answer) : List Char :=
  (pRet.flatMap fun a => if a.key = .type then '$' :: a.render.tail else a.render) ++ ['#']

/-- `processMsg` -/
def processMsg (env : Env) (req : Request) (d : Device) : Except Fault Reply := do
  let s ← processPairs env req (.start env d)
  let s ← finish env s
  .ok ⟨s.device, s.ret, response s.pRet, s.effects⟩

/-- A request `r` as a step of the device `d`, which has no result if it is not answered. -/
def handle (d : Device) (r : Request × Env) : Option Device :=
  match processMsg r.2 r.1 d with
  | .ok reply => some reply.device
  | .error _ => none

/-! ### A device to start from -/

/-- Contents in which nothing is configured: numbers are 0, and strings empty. -/
def Contents.blank : Contents
  | .int _ => (0 : Int)
  | .str _ => List.replicate 64 nul

/-- A device with nothing configured, in memory or in the files. -/
def Device.blank : Device := ⟨.blank, .blank⟩

/-- Calls of a device to which nothing is attached, and whose `default_setting` stores what is there
already. -/
def Env.idle : Env where
  hwaddr := fun _ => 0
  curProtocol := 0
  ctime := []
  exceedsDelt := fun _ => false
  zoom := fun _ => 0
  defaults := .blank
  readCfgFile := fun _ => true
  connectLocal := false
  ptzPresetName := List.replicate 64 nul

end Msg
