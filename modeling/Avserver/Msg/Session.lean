import Avserver.Msg.Config

/-!
# A request in progress

`processMsg` handles a request pair by pair.  The variables that it keeps while it does so, the
configuration in memory and in the files, the answers given so far and what has been done to
the rest of the system form a `Session`.  The functions of this module are what the branches
for the single keys are composed of.
-/

namespace Msg

/-! ### Keys, answers and effects -/

/-- The keys of a request, in the order of their codes in the source. -/
inductive Key where
  | type | chn | subChn | videoChnNum | videoAddr | encodeProfile | profileLevels
  | videoSynchronizationPoint | fw | denoise | inputSystem | deInterlace | streamEnable
  | encType | frameRate | minFrameRate | maxFrameRate | bitRate | ipInterval | minIpInterval
  | maxIpInterval | width | height | videoResolutions | minVideoEncodingInterval
  | maxVideoEncodingInterval | rateCtlType | targetRateMax | reactionDelayMax | initQuant
  | maxQuant | minQuant | mjpegQuality | enableRoi | roiX | roiY | roiW | roiH | brightness
  | saturation | contrast | sharpness | hue | scene | flip | mirror | imgctow | imgwtoc | wbR
  | wbG | wbB | wbMode | wbCrgain | wbCbgain | backlightcompMode | backlightcompLevel
  | wdrangeMode | wdrangeLevel | osdRegion | osdEnable | osdX | osdY | osdW | osdH
  | osdRegionName | infradStat | netDhcpflag | netIp | netNetmask | netGateway | netDnsstat
  | netFdnsip | netSdnsip | netMacaddr | netNettype | netCardname | netProtocols | portHttpport
  | portRtspport | upnpUpmenable | ddnsD3thenable | ddnsD3thservice | ddnsD3thuname
  | ddnsD3thpasswd | ddnsDomain | wfEnable | wfSsid | wfAuth | wfKey | wfEnc | wfMode
  | wfsearchAccesspoints | wfsearchChannel | wfsearchRssi | wfsearchEssid | wfsearchEnc
  | wfsearchAuth | wfsearchNet | ptzProtocal | ptzAddress | ptzBaud | ptzDatabit | ptzStopbit
  | ptzCheck | mdIoAlarmEnable | mdIoAlarmFlag | mdEmailSwitch | mdSnapSwitch | mdRecordSwitch
  | mdFtpSwitch | mdRelaySwitch | mdRelayTime | mdScheduleType | mdScheduleEname
  | mdScheduleEtm | mdScheduleWorkdayTstart | mdScheduleWorkdayTend | mdScheduleWorkendTstart
  | mdScheduleWorkendTend | mdScheduleWeekTstart | mdScheduleWeekTend | mdArea | mdAreaEable
  | mdAreaS | mdAreaMethod | mdAreaX | mdAreaY | mdAreaW | mdAreaH | snapTEnable
  | snapTInterval | snapTType | userNumber | userOptType | userName | userPassword | userGroup
  | ftServerip | ftPort | ftUsername | ftPassword | ftMode | ftDirname | smtpServerip
  | smtpPort | smtpSslflag | smtpLogintype | smtpUsername | smtpPassword | smtpFrom | smtpTo
  | smtpSubject | smtpText | vdmaskNumber | vdmaskNO | vdmaskEnable | vdmaskX | vdmaskY
  | vdmaskW | vdmaskH | vdmaskColor | timeZone | timeDstmode | timeNtpenable | timeNtpserver
  | timeNtpinterval | timeSystime | sysDevtype | sysModel | sysHdversion | sysSwversion
  | sysDevname | sysStartdate | sysRuntimes | sysSdstatus | sysSdfreespace | sysSdtotalspace
  | sysHardwareId | sysManufacturer | sys_Model | sysSerialNumber | nvrOpt | nvrForIDR
  | nvrClientID | encResolution | reset | reboot | mctpPtzstring
  | ptzContinueMoveDefaultTimeout | ptzContinueMoveVx | ptzContinueMoveVy
  | ptzContinueMoveVzoom | ptzContinueMoveTimeout | ptzStopPt | ptzStopZoom | ptzGotoPreset
  | ptzPreset | ptzPresetname | ptzDeletepreset | ptzAllpresets | ptzPresetsCapacity
  | audioEnable | audioEncType | audioBitrate | audioRtspport | audioSamplesize
  | audioSamplerate | sysProtocol | error | snapshotStart | cldEnable | cldId | cldPw
  | cldSrvPrt | cldSrvAddr | cldDevName | recEnable | recLen | recTime
deriving DecidableEq

/-- The number by which a `key` is written in a request and in an answer. -/
def Key.code (key : Key) : Int := key.ctorIdx

/-- The key whose number is `code`, if there is one. -/
def Key.ofCode (code : Int) : Option Key :=
  if 0 ≤ code ∧ code ≤ 218 then some (Key.ofNat code.toNat) else none

/-- A key, with the text that is answered for it. -/
structure Answer where
  key : Key
  text : List Char
deriving DecidableEq

/-- The answer `a` as it is written to the response: `&`, the number of the key, `=` and the
text. -/
def Answer.render (a : Answer) : List Char := '&' :: decimal a.key.code ++ '=' :: a.text

/-- The functions of the encoder, the image processor and other devices that `processMsg` calls with
numbers. -/
inductive Callee where
  | setIFrame | initIspPwFrequency | setFps | setBps | setIpInt | adjustBrightness
  | adjustSaturation | setImgSaturation | adjustContrast | adjustHue | adjustAwbSceneMode
  | adjustShapness | setMirror | setImgCtoW | setImgWtoC | setInfradstatus | setHttpport
  | setNvrSendStatus | setIdrBr | setProtocol
deriving DecidableEq

/-- What a request does to the rest of the system, besides the configuration that it changes. -/
inductive Effect where
  | call (callee : Callee) (args : List Int)
  | netSetNetmask (addr : List Char)
  | system (command : List Char)
  | killThttpd
  | mctpCmd (command : List Char)
  /-- `set_ptz` and the command that it makes, for the given speeds -/
  | setPtz (vx vy : Option (List Char))
  | genIfCfg
  | startNtp
  | recCfgSet
  /-- the region is sent to the overlay process -/
  | sendOsd (region : Nat)
  | defaultSetting (file : CfgFile)
  | writeCfgFile (file : CfgFile)
deriving DecidableEq

/-- What the calls that are made during a request yield. -/
structure Env where
  /-- the address that `net_get_hwaddr` stores -/
  hwaddr : Nat → Int
  /-- the result of `get_curProtocol` before the request -/
  curProtocol : Int
  /-- the result of `ctime` -/
  ctime : List Char
  /-- whether `fabs(atof(..))` is greater than `DELT` -/
  exceedsDelt : List Char → Bool
  /-- `(int)(64*atof(..))` -/
  zoom : List Char → Int
  /-- what `default_setting` stores in the files -/
  defaults : Contents
  /-- whether `read_cfg_file` succeeds -/
  readCfgFile : CfgFile → Bool
  /-- whether `connect_local(UN_CAPOSD_DOMAIN)` yields a socket -/
  connectLocal : Bool
  /-- what `ptz_preset_name` holds before it is assigned -/
  ptzPresetName : List Char

/-! ### The session -/

/-- The configuration of the camera, in memory and in the files. -/
structure Device where
  mem : Contents
  flash : Contents

/-- The state of `processMsg`: the configuration, its local variables, the answers, and the effects
so far. -/
structure Session where
  mem : Contents
  flash : Contents
  cmdType : Int
  ylSet : Bool
  channel : Int
  subChannel : Int
  osdRegion : Int
  index : Int
  index1 : Int
  i : Nat
  fileChangedFlag : Nat
  ifCfg : Bool
  osdCfg : Bool
  ntpserverCfg : Nat
  reboot : Nat
  /-- the values that `fValue_vx` and `fValue_vy` have been read from -/
  vx : Option (List Char)
  vy : Option (List Char)
  ptzpresetIndex : Int
  ptzPresetIn : Nat
  ptzPresetName : List Char
  ret : Nat
  pRet : List Answer
  effects : List Effect

/-- `T_Get` and `T_Set` -/
def tGet : Int := 0
@[inherit_doc tGet] def tSet : Int := 1

/-- The variables of a request to the device `d`, as `processMsg` initialises them. -/
def Session.start (env : Env) (d : Device) : Session where
  mem := d.mem
  flash := d.flash
  cmdType := -1
  ylSet := false
  channel := -1
  subChannel := 0
  osdRegion := -1
  index := -1
  index1 := -1
  i := 0
  fileChangedFlag := 0
  ifCfg := false
  osdCfg := false
  ntpserverCfg := 0
  reboot := 0
  vx := none
  vy := none
  ptzpresetIndex := 0
  ptzPresetIn := 0
  ptzPresetName := env.ptzPresetName
  ret := 0
  pRet := []
  effects := []

/-- The configuration that the session `s` leaves. -/
def Session.device (s : Session) : Device := ⟨s.mem, s.flash⟩

/-! ### What the branches are composed of -/

/-- The index `i` in an array of `n` elements, or a fault of the `table` if it is out of bounds. -/
def bounded (table : Table) (i : Int) (n : Nat) : Except Fault Nat :=
  if 0 ≤ i ∧ i < n then .ok i.toNat else .error (.index table)

/-- The number of characters of the buffer `cmd_tmp`. -/
def cmdTmpSize : Nat := 128

namespace Session

/-- An answer with the text `t` is printed to `cmd_tmp` and appended to the response. -/
def answer (s : Session) (key : Key) (t : List Char) : Except Fault Session :=
  if (Answer.mk key t).render.length < cmdTmpSize then
    .ok { s with pRet := s.pRet ++ [⟨key, t⟩] }
  else .error .overflow

/-- The answers `as` are printed to `cmd_tmp` in one piece and appended to the response. -/
def answers (s : Session) (as : List Answer) : Except Fault Session :=
  if (as.flatMap Answer.render).length < cmdTmpSize then .ok { s with pRet := s.pRet ++ as }
  else .error .overflow

/-- An answer with the text `t` is given, and counted in `ret`. -/
def reply (s : Session) (key : Key) (t : List Char) : Except Fault Session :=
  ({ s with ret := s.ret + 1 }).answer key t

/-- The value `v` is assigned to the number `f` in memory. -/
def setInt (s : Session) (f : IntField) (v : Int) : Session :=
  { s with mem := s.mem.setInt f v }

/-- The string `v` is copied to the buffer of `f` in memory, if it fits. -/
def setText (s : Session) (f : StrField) (v : List Char) : Except Fault Session := do
  let buf ← strcpy (s.mem.str f) v
  .ok { s with mem := s.mem.setStr f buf }

/-- `SET_FILE_CHANGED` -/
def setFileChanged (s : Session) (file : CfgFile) : Session :=
  { s with fileChangedFlag := Msg.setFileChanged s.fileChangedFlag file }

/-- The session `s` after something, `e`, has been done to the rest of the system. -/
def effect (s : Session) (e : Effect) : Session := { s with effects := s.effects ++ [e] }

/-- The functions `callees` are called, one after the other, with the value that the number `f`
has. -/
def calls (s : Session) (callees : List Callee) (f : IntField) : Session :=
  callees.foldl (fun s callee => s.effect (.call callee [s.mem.int f])) s

/-- The calls of `callees` with the value of the number `f` are noted behind the effects that are
there, and nothing else of the session changes. -/
theorem calls_eq (s : Session) (callees : List Callee) (f : IntField) :
  s.calls callees f
    = { s with effects := s.effects ++ callees.map fun callee => .call callee [s.mem.int f] }
  := by
  induction callees generalizing s with
  | nil => rw [List.map_nil, List.append_nil, calls, List.foldl_nil]
  | cons callee callees ih =>
      rw [calls, List.foldl_cons, ← calls, ih, effect]
      simp only [List.map_cons, List.append_assoc, List.singleton_append]

/-- A branch that does one thing for `T_Set`, another for `T_Get`, and nothing for any other
command. -/
def onCmd (s : Session) (set get : Except Fault Session) : Except Fault Session :=
  if s.cmdType = tSet then set else if s.cmdType = tGet then get else .ok s

/-- The encoder configuration of the channel that is selected in the session `s`. -/
def avFile (s : Session) : AvFile := if s.channel = 0 then .av0 else .av1

end Session

end Msg
