import Avserver.Msg.Session

/-!
# The branches of `processMsg`

`processMsg` is a loop over the pairs of a request around a `switch` over the keys.  Most of the
branches of the `switch` belong to one of a few families, the members of which differ in the
field they store, the file they mark as changed, the functions they call and the answer they
give; a `Branch` is such a family with the values of a member, or one of the branches that are
of no family.  `Key.branch` is the `switch`, and `Branch.run` what the branches do.
-/

namespace Msg

/-! ### References to fields -/

/-- A number that a branch refers to: a field, or one of the areas or networks that the variable
`index` selects. -/
inductive IntRef where
  | field (f : IntField)
  | mdArea (f : MdAreaField)
  | vidMask (f : VidMaskField)
  | wfSearch (f : WfSearchField)
deriving DecidableEq

/-- The number of areas of `Mdcfg_t`, which the variable `index` is to stay below. -/
def mdAreaNum : Nat := 4

/-- The number of areas of `VidMaskcfg_t`, which the variable `index` is to stay below. -/
def vidMaskNum : Nat := 3

/-- The number of networks in `g_stWf_search_file`, which the variable `index` is to stay below. -/
def wfSearchNum : Nat := 10

/-- `REGION_NUM` -/
def regionNum : Nat := 3

/-- `USER_MAX` -/
def userMax : Nat := 10

/-- `MAX_UPDATE_SUB_CHN` -/
def maxUpdateSubChn : Nat := 2

/-- `CHANNEL_NUM` -/
def channelNum : Nat := 2

/-- `DVR_ENC_REPD_BT_NUM` -/
def dvrEncRepdBtNum : Nat := 9

/-- `PTZ_PRESET_ALLNUM` -/
def ptzPresetAllnum : Nat := 128

/-- The field that `ref` refers to in the session `s`, or a fault if `index` is out of bounds. -/
def IntRef.resolve (ref : IntRef) (s : Session) : Except Fault IntField :=
  match ref with
  | .field f => .ok f
  | .mdArea f => (bounded .areaParam s.index mdAreaNum).map (.mdArea · f)
  | .vidMask f => (bounded .aera s.index vidMaskNum).map (.vidMask · f)
  | .wfSearch f => (bounded .searchParam s.index wfSearchNum).map (.wfSearch · f)

/-- A number of the encoder configuration of the channel: a member of the channel, or of the stream
that is selected. -/
inductive ChanRef where
  | av (f : AvField)
  | ubs (f : UbsField)
deriving DecidableEq

/-- The field that `ref` refers to in the session `s`, or a fault if there is no such stream. -/
def ChanRef.resolve (ref : ChanRef) (s : Session) : Except Fault IntField :=
  match ref with
  | .av f => .ok (.av s.avFile f)
  | .ubs f => (bounded .ubs s.subChannel maxUpdateSubChn).map (.ubs s.avFile · f)

/-- What is noted, besides the file, when a value has changed, to be acted upon when the pairs have
been handled. -/
inductive Hook where
  | nothing | ifCfg | ntpserverCfg | reboot
deriving DecidableEq

/-- The variable of the note `hook` is set in the session `s`. -/
def Hook.run (hook : Hook) (s : Session) : Session :=
  match hook with
  | .nothing => s
  | .ifCfg => { s with ifCfg := true }
  | .ntpserverCfg => { s with ntpserverCfg := s.ntpserverCfg + 1 }
  | .reboot => { s with reboot := s.reboot + 1 }

/-! ### The branches of families -/

/-- A number is compared with the value given, stored, and its file marked; or `shown` is
answered, under `label`. -/
def intBranch (ref : IntRef) (flag : CfgFile) (callees : List Callee) (hook : Hook) (label : Key)
    (shown : IntRef) (value : List Char) (s : Session) : Except Fault Session :=
  s.onCmd
    (do
      let f ← ref.resolve s
      if s.mem.int f ≠ atoi value then
        .ok (hook.run (((s.setInt f (atoi value)).calls callees f).setFileChanged flag))
      else .ok s)
    (do
      let f ← shown.resolve s
      s.reply label (decimal (s.mem.int f)))

/-- As `intBranch`, for a string `f`: it is compared with the value and stored, or answered. -/
def textBranch (f : StrField) (flag : CfgFile) (hook : Hook) (key : Key) (value : List Char)
    (s : Session) : Except Fault Session :=
  s.onCmd
    (do
      if ← strcmpEq (s.mem.str f) value then .ok s
      else do
        let s ← s.setText f value
        .ok (hook.run (s.setFileChanged flag)))
    (do
      let t ← text (s.mem.str f)
      s.reply key t)

/-- As `intBranch`, for a number `ref` of the encoder configuration, whose file is `witch_file`. -/
def chanBranch (ref : ChanRef) (key : Key) (value : List Char) (s : Session) :
    Except Fault Session :=
  s.onCmd
    (do
      let f ← ref.resolve s
      if s.mem.int f ≠ atoi value then
        .ok ((s.setInt f (atoi value)).setFileChanged s.avFile.cfgFile)
      else .ok s)
    (do
      let f ← ref.resolve s
      s.reply key (decimal (s.mem.int f)))

/-- As `intBranch`, for a number `f` of an OSD region, which is to be within the table. -/
def osdBranch (f : OsdField) (key : Key) (value : List Char) (s : Session) :
    Except Fault Session :=
  if s.osdRegion < 0 ∨ s.osdRegion ≥ regionNum then .ok s
  else
    let f : IntField := .osd s.osdRegion.toNat f
    s.onCmd
      (if s.mem.int f ≠ atoi value then
        .ok { (s.setInt f (atoi value)).setFileChanged .overlayCfg with osdCfg := true }
      else .ok s)
      (s.reply key (decimal (s.mem.int f)))

/-- A number `f` of the record configuration; any command but `T_Set` is answered. -/
def recBranch (f : RecField) (label : Key) (value : List Char) (s : Session) :
    Except Fault Session :=
  if s.cmdType = tSet then
    if s.mem.int (.recCfg f) ≠ atoi value then
      .ok ((s.setInt (.recCfg f) (atoi value)).setFileChanged .recCfg)
    else .ok s
  else s.reply label (decimal (s.mem.int (.recCfg f)))

/-- A text `t` is answered to the command `T_Get`, and nothing is done for any other one. -/
def getBranch (key : Key) (t : Except Fault (List Char)) (s : Session) : Except Fault Session :=
  if s.cmdType = tGet then do
    let t ← t
    s.reply key t
  else .ok s

/-! ### Selectors -/

/-- `e_TYPE` -/
def typeBranch (value : List Char) (s : Session) : Except Fault Session :=
  let cmdType := atoi value
  let s := if cmdType > 1 then { s with cmdType := tSet, ylSet := true }
    else { s with cmdType := cmdType, ylSet := false }
  -- the answer is copied to the response, not appended
  .ok { s with pRet := [⟨.type, decimal s.cmdType⟩] }

/-- `e_Chn` -/
def chnBranch (value : List Char) (s : Session) : Except Fault Session :=
  ({ s with channel := atoi value }).answer .chn (decimal (atoi value))

/-- `e_Sub_Chn` -/
def subChnBranch (value : List Char) (s : Session) : Except Fault Session :=
  ({ s with subChannel := atoi value }).answer .subChn (decimal (atoi value))

/-- `e_osd_region` -/
def osdRegionBranch (value : List Char) (s : Session) : Except Fault Session :=
  ({ s with osdRegion := atoi value }).answer .osdRegion (decimal (atoi value))

/-- `e_wfsearch_accesspoints` -/
def wfsearchAccesspointsBranch (value : List Char) (s : Session) : Except Fault Session :=
  if s.cmdType = tGet then
    if atoi value ≥ s.mem.int .waccessPoints then .ok s
    else ({ s with index := atoi value }).reply .wfsearchAccesspoints (decimal (atoi value))
  else .ok s

/-- `e_md_area` -/
def mdAreaBranch (value : List Char) (s : Session) : Except Fault Session :=
  let s := { s with index := atoi value }
  if s.index ≥ (mdAreaNum : Int) then .ok s else s.reply .mdArea (decimal s.index)

/-- `ADD_USER`; the commands `DEL_USER` and `MODIFY_USER` follow it. -/
def addUser : Int := 0
@[inherit_doc addUser] def delUser : Int := 1
@[inherit_doc addUser] def modifyUser : Int := 2

/-- `e_user_opt_type` -/
def userOptTypeBranch (value : List Char) (s : Session) : Except Fault Session :=
  if s.cmdType = tSet then
    if atoi value < 0 ∨ atoi value > modifyUser then .ok s
    else .ok { s with index := atoi value }
  else .ok s

/-- `e_vdmask_NO` -/
def vdmaskNOBranch (value : List Char) (s : Session) : Except Fault Session :=
  .ok { s with index := atoi value }

/-! ### The encoder -/

/-- A number `f` of a stream is compared with the value given and stored, the encoder is updated,
and the file is marked unless the request is temporary. -/
def streamBranch (f : UbsField) (callee : Callee) (iValue : Int) (s : Session) :
    Except Fault Session := do
  let f ← (ChanRef.ubs f).resolve s
  if s.mem.int f ≠ iValue then
    let s' := (s.setInt f iValue).effect (.call callee [s.channel, s.subChannel, iValue])
    .ok (if s.ylSet then s' else s'.setFileChanged s.avFile.cfgFile)
  else .ok s

/-- `MIN_SET_FPS` and `MAX_SET_BPS` -/
def minSetFps : Int := 4
@[inherit_doc minSetFps] def maxSetBps : Int := 5000

/-- The frame rate that is set for a `value`, within its bounds. -/
def frameRateValue (value : List Char) : Int :=
  let iValue := if atoi value < minSetFps then minSetFps else atoi value
  if iValue > 150 then 150 else iValue

/-- `e_frame_rate` -/
def frameRateBranch (value : List Char) (s : Session) : Except Fault Session :=
  s.onCmd (streamBranch .frameRate .setFps (frameRateValue value) s)
    (do
      let f ← (ChanRef.ubs .frameRate).resolve s
      s.reply .frameRate (decimal (s.mem.int f)))

/-- The bit rate that is set for a `value`, which is in thousands; the bounds depend on the
`channel`. -/
def bitRateValue (channel : Int) (value : List Char) : Int :=
  let iValue := if atoi value > maxSetBps then maxSetBps else atoi value
  let iValue :=
    if channel = 0 then if iValue < 512 then 512 else iValue
    else if iValue < 100 then 100 else iValue
  iValue * 1000

/-- `e_bit_rate` -/
def bitRateBranch (value : List Char) (s : Session) : Except Fault Session :=
  s.onCmd (streamBranch .bitRate .setBps (bitRateValue s.channel value) s)
    (do
      let f ← (ChanRef.ubs .bitRate).resolve s
      s.reply .bitRate (decimal ((s.mem.int f).tdiv 1000)))

/-- `e_ip_interval` -/
def ipIntervalBranch (value : List Char) (s : Session) : Except Fault Session :=
  s.onCmd (streamBranch .ipInterval .setIpInt (atoi value) s)
    (do
      let f ← (ChanRef.ubs .ipInterval).resolve s
      s.reply .ipInterval (decimal (s.mem.int f)))

/-- `e_width` -/
def widthBranch (s : Session) : Except Fault Session :=
  getBranch .width
    (do
      let f ← (ChanRef.ubs .width).resolve s
      .ok (decimal (s.mem.int f))) s

/-- `e_height` -/
def heightBranch (s : Session) : Except Fault Session :=
  getBranch .height
    (do
      let f ← (ChanRef.ubs .height).resolve s
      .ok (decimal (if s.mem.int f = 1072 then 1080 else s.mem.int f))) s

/-- `e_video_addr` -/
def videoAddrBranch (s : Session) : Except Fault Session :=
  getBranch .videoAddr
    (do
      let ip ← text (s.mem.str .ip)
      .ok ("rtsp://".toList ++ ip ++ if s.channel = 0 then "/0".toList else "/4".toList)) s

/-- `e_video_SynchronizationPoint` -/
def synchronizationPointBranch (value : List Char) (s : Session) : Except Fault Session :=
  if s.cmdType = tSet ∧ atoi value ≥ 0 ∧ atoi value ≤ 1 then
    .ok (s.effect (.call .setIFrame [atoi value]))
  else .ok s

/-- `e_FW` -/
def fwBranch (value : List Char) (s : Session) : Except Fault Session :=
  s.onCmd
    (if atoi value ≠ 50 ∧ atoi value ≠ 60 then .ok s
    else if s.mem.int .iFw ≠ atoi value then
      .ok (((s.setInt .iFw (atoi value)).effect (.call .initIspPwFrequency [atoi value]))
        |>.setFileChanged .encFw)
    else .ok s)
    (s.reply .fw (decimal (s.mem.int .iFw)))

/-- `e_videoResolutions` -/
def videoResolutionsBranch (s : Session) : Except Fault Session :=
  getBranch .videoResolutions
    (.ok (if s.channel = 0 then "1920,1080/1280,720".toList else "352,288".toList)) s

/-- `e_enc_resolution`, which runs a script that switches between resolutions; any command but
`T_Get` is carried out. -/
def encResolutionBranch (value : List Char) (s : Session) : Except Fault Session :=
  let width0 := s.mem.int (.ubs .av0 0 .width)
  let width1 := s.mem.int (.ubs .av1 0 .width)
  let switch (arg : String) : Except Fault Session :=
    .ok (s.effect (.system ("/bin/sh /mnt/mtd/switch.sh ".toList ++ arg.toList)))
  if s.cmdType = tGet then
    s.reply .encResolution
      (decimal (if width0 = 1920 then 1 else if width1 = 352 then 0 else 2))
  else if atoi value = 1 then
    if width0 ≠ 1920 then if width1 = 352 then switch "1 0" else switch "1 2"
    else .ok s
  else if atoi value = 2 then
    if width1 ≠ 640 then if width0 = 1280 then switch "2 0" else switch "2 1"
    else .ok s
  else if width0 ≠ 1280 then switch "0 1"
  else if width1 = 640 then switch "0 2"
  else .ok s

/-- `set_IDR_BR`, for the stream that is selected by `channel` and `subChannel`. -/
def setIdrBr (s : Session) : Except Fault Session := do
  let _ ← bounded .enc s.channel channelNum
  let _ ← bounded .privBs s.subChannel dvrEncRepdBtNum
  .ok (s.effect (.call .setIdrBr [s.channel, s.subChannel]))

/-- `set_nvr_send_status`, for the stream that is selected; the status behind those of the channels
is that of the audio. -/
def setNvrSendStatus (opt : Int) (s : Session) : Except Fault Session :=
  if s.channel > channelNum then .ok s
  else do
    let _ ← bounded .nvrSendStatus s.channel (channelNum + 1)
    let _ ← bounded .nvrSendStatus s.subChannel dvrEncRepdBtNum
    let s := s.effect (.call .setNvrSendStatus [s.channel, s.subChannel, opt])
    if s.channel ≠ channelNum then setIdrBr s else .ok s

/-- `e_nvr_opt` -/
def nvrOptBranch (value : List Char) (s : Session) : Except Fault Session :=
  if s.cmdType = tSet then setNvrSendStatus (atoi value) s else .ok s

/-- `e_nvr_forIDR` -/
def nvrForIDRBranch (s : Session) : Except Fault Session :=
  if s.cmdType = tSet then setIdrBr s else .ok s

/-! ### The OSD, the network and the time -/

/-- `e_osd_region_name` -/
def osdNameBranch (value : List Char) (s : Session) : Except Fault Session :=
  if s.osdRegion < 0 ∨ s.osdRegion ≥ regionNum then .ok s
  else
    let f : StrField := .osdName s.osdRegion.toNat
    s.onCmd
      (do
        if ← strcmpEq (s.mem.str f) value then .ok s
        else do
          let s ← s.setText f value
          .ok { s.setFileChanged .overlayCfg with osdCfg := true })
      (do
        let t ← text (s.mem.str f)
        s.reply .osdRegionName t)

/-- `e_net_netmask` -/
def netmaskBranch (value : List Char) (s : Session) : Except Fault Session :=
  s.onCmd
    (do
      if ← strcmpEq (s.mem.str .netmask) value then .ok s
      else do
        let s ← s.setText .netmask value
        .ok ((s.effect (.netSetNetmask value)).setFileChanged .netCfg))
    (do
      let t ← text (s.mem.str .netmask)
      s.reply .netNetmask t)

/-- The number of bytes of a hardware address, which are printed and read one by one. -/
def macLen : Nat := 6

/-- The hardware address in `c`, as it is printed: its bytes in two digits, with `-` between
them. -/
def macText (c : Contents) : List Char :=
  ['-'].intercalate ((List.range macLen).map fun i => hex2 (c.int (.macaddr i)))

/-- A byte is stored behind the start of `macaddr`.  The two bytes behind the address are those
of `nettype`; the byte behind these is outside `Net_cfg_t`, in no object that is kept here, and it is
dropped. -/
def storeNetByte (c : Contents) (i b : Nat) : Contents :=
  let nettype := c.int (.net .nettype)
  if i < macLen then c.setInt (.macaddr i) b
  else if i = macLen then c.setInt (.net .nettype) (nettype - nettype % 256 + b)
  else if i = macLen + 1 then c.setInt (.net .nettype) (nettype % 256 + 256 * b)
  else c

/-- `sscanf` stores each value that it reads as an `unsigned int`, which has four bytes, from the
byte `i` on. -/
def storeMac (c : Contents) (i : Nat) : List Nat → Contents
  | [] => c
  | v :: vs =>
      let c := (List.range 4).foldl (fun c k => storeNetByte c (i + k) (v / 256 ^ k % 256)) c
      storeMac c (i + 1) vs

/-- `net_get_hwaddr` stores the address of the device, `hwaddr`, byte by byte. -/
def storeHwaddr (c : Contents) (hwaddr : Nat → Int) : Contents :=
  (List.range macLen).foldl (fun c i => c.setInt (.macaddr i) (hwaddr i)) c

/-- `e_net_macaddr` -/
def macaddrBranch (env : Env) (value : List Char) (s : Session) : Except Fault Session :=
  s.onCmd
    (if macText s.mem ≠ value then
      .ok { ({ s with mem := storeMac s.mem 0 (scanHexes macLen value) }).setFileChanged .netCfg with
        ifCfg := true }
    else .ok s)
    (let s := { s with mem := storeHwaddr s.mem env.hwaddr }
    s.reply .netMacaddr (macText s.mem))

/-- `e_time_dstmode` -/
def dstmodeBranch (value : List Char) (s : Session) : Except Fault Session :=
  s.onCmd
    (if s.mem.int (.time .dstmode) ≠ toChar (atoi value) then
      .ok ((s.setInt (.time .dstmode) (atoi value)).setFileChanged .sysTimer)
    else .ok s)
    (s.reply .timeDstmode (decimal (s.mem.int (.time .dstmode))))

/-- `e_time_ntpenable`, which is answered with 0, whatever is stored. -/
def ntpenableBranch (value : List Char) (s : Session) : Except Fault Session :=
  s.onCmd
    (if s.mem.int (.time .ntpenable) ≠ atoi value then
      .ok (Hook.ntpserverCfg.run
        ((s.setInt (.time .ntpenable) (atoi value)).setFileChanged .sysTimer))
    else .ok s)
    (s.reply .timeNtpenable (decimal 0))

/-- `e_time_systime`, which runs the command that sets the clock; the file is not marked. -/
def systimeBranch (env : Env) (value : List Char) (s : Session) : Except Fault Session :=
  s.onCmd
    (do
      if ← strcmpEq (s.mem.str .sysTime) value then .ok s
      else
        let command := "date -s \"".toList ++ value ++ "\" -u".toList
        if command.length < cmdTmpSize then
          ((s.effect (.system command)).effect .killThttpd).setText .sysTime value
        else .error .overflow)
    (s.reply .timeSystime env.ctime)

/-- `e_sys_devtype`, which is only answered; the type is computed anew for the answer. -/
def devtypeBranch (s : Session) : Except Fault Session :=
  if s.cmdType = tGet then
    let s := s.setInt (.sys .devtype) (if s.mem.int (.ubs .av0 0 .width) = 1920 then 1 else 0)
    s.reply .sysDevtype (decimal (s.mem.int (.sys .devtype)))
  else .ok s

/-! ### The users -/

/-- The loops over the users: the first number from `i` on with the property, among the next
`n`, or the number behind these. -/
def findUser (p : Nat → Except Fault Bool) : Nat → Nat → Except Fault Nat
  | 0, i => .ok i
  | n + 1, i => do if ← p i then .ok i else findUser p n (i + 1)

/-- The number of the first user in `c` whose name is `value`, or the number of users if there is
none. -/
def findName (c : Contents) (value : List Char) : Except Fault Nat :=
  findUser (fun i => strcmpEq (c.str (.username i)) value) userMax 0

/-- The number of the first free entry for a user in `c`, or the number of users if there is
none. -/
def findFree (c : Contents) : Except Fault Nat :=
  findUser (fun i => .ok ((c.str (.username i)).head? = some nul)) userMax 0

/-- `e_user_name`, for `T_Set`: by `index`, a user is added, deleted, or looked up to be
modified. -/
def userNameSet (value : List Char) (s : Session) : Except Fault Session :=
  if s.index = addUser then do
    let i ← findFree s.mem
    let s := { s with i := i }
    if i = userMax then .ok s else s.setText (.username i) value
  else if s.index = delUser then do
    let i ← findName s.mem value
    let s := { s with i := i }
    if i = userMax then .ok s
    else .ok { s with mem := s.mem.setStr (.username i) (clear (s.mem.str (.username i))) }
  else if s.index = modifyUser then do
    let i ← findName s.mem value
    .ok { s with i := i }
  else .ok s

/-- `e_user_name` -/
def userNameBranch (value : List Char) (s : Session) : Except Fault Session := do
  let s ← s.onCmd (userNameSet value s)
    (do
      let i ← findName s.mem value
      .ok { s with i := i })
  let i ← bounded .users s.i userMax
  let t ← text (s.mem.str (.username i))
  ({ s with index1 := s.i }).reply .userName t

/-- `e_user_password` -/
def userPasswordBranch (value : List Char) (s : Session) : Except Fault Session :=
  if s.cmdType = tSet then do
    let i ← bounded .users s.index1 userMax
    let s ← s.setText (.password i) value
    .ok (s.setFileChanged .user)
  else .ok s

/-- `e_user_group` -/
def userGroupBranch (value : List Char) (s : Session) : Except Fault Session :=
  if s.cmdType = tSet then do
    let i ← bounded .users s.index1 userMax
    .ok ((s.setInt (.group i) (atoi value)).setFileChanged .user)
  else .ok s

/-! ### PTZ -/

/-- The command of the PTZ unit that stops it; the others follow it. -/
def ptzStop : Int := 0
@[inherit_doc ptzStop] def zZoomIn : Int := 9
@[inherit_doc ptzStop] def zZoomOut : Int := 10
@[inherit_doc ptzStop] def gotoPreset : Int := 15
@[inherit_doc ptzStop] def clePreset : Int := 16
@[inherit_doc ptzStop] def setPreset : Int := 17

/-- The text of a `command` with its `arg`, as it is printed to the buffer `ptzcmd`. -/
def ptzcmd (command arg : Int) : List Char :=
  "@0@".toList ++ decimal command ++ '@' :: decimal arg ++ ['\n']

/-- The error that is answered when there is none; the others follow it. -/
def resultOk : Int := 0
@[inherit_doc resultOk] def errorPtzIndexNotExist : Int := 40
@[inherit_doc resultOk] def errorPtzIndexOutRange : Int := 41
@[inherit_doc resultOk] def errorPtzIndexOver : Int := 43
@[inherit_doc resultOk] def errorPtzPresetnameEmpty : Int := 44

/-- `e_mctp_ptzstring` -/
def ptzstringBranch (value : List Char) (s : Session) : Except Fault Session :=
  if s.cmdType = tSet then .ok (s.effect (.mctpCmd value)) else .ok s

/-- `e_ptz_continue_move_vzoom` -/
def vzoomBranch (env : Env) (value : List Char) (s : Session) : Except Fault Session :=
  if s.cmdType = tSet then
    let iValue := env.zoom value
    if iValue < 0 ∨ value.head? = some '-' then
      .ok (s.effect (.mctpCmd (ptzcmd zZoomOut iValue.natAbs)))
    else .ok (s.effect (.mctpCmd (ptzcmd zZoomIn iValue)))
  else .ok s

/-- `e_ptz_stop_pt` and `e_ptz_stop_zoom` -/
def stopBranch (s : Session) : Except Fault Session :=
  if s.cmdType = tSet then .ok (s.effect (.mctpCmd (ptzcmd ptzStop 0))) else .ok s

/-- The contents `c` after the preset `i` has been forgotten, its mark and its name. -/
def clearPreset (c : Contents) (i : Nat) : Contents :=
  let c := c.setInt (.presetIsSet i) 0
  c.setStr (.presetName i) (clear (c.str (.presetName i)))

/-- The contents `c` after all presets have been forgotten. -/
def clearPresets (c : Contents) : Contents := (List.range ptzPresetAllnum).foldl clearPreset c

/-- The answer to `e_ptz_goto_preset`, which is printed in one piece, with its error. -/
def gotoReply (cValue error : Int) (s : Session) : Except Fault Session :=
  ({ s with ret := s.ret + 1 }).answers
    [⟨.ptzGotoPreset, decimal cValue⟩, ⟨.error, decimal error⟩]

/-- `e_ptz_goto_preset`; the preset 95 restores the PTZ unit, which forgets all presets. -/
def gotoPresetBranch (value : List Char) (s : Session) : Except Fault Session :=
  if s.cmdType = tSet then
    let cValue := toChar (atoi value)
    if cValue > 0 ∧ cValue < ptzPresetAllnum + 1 then
      if s.mem.int (.presetIsSet (cValue - 1).toNat) ≠ 0 then
        let s := if cValue = 95 then
            ({ s with mem := clearPresets s.mem, i := ptzPresetAllnum }).setFileChanged .ptzPreset
          else s
        gotoReply cValue resultOk (s.effect (.mctpCmd (ptzcmd gotoPreset cValue)))
      else gotoReply cValue errorPtzIndexNotExist s
    else gotoReply cValue errorPtzIndexOutRange s
  else .ok s

/-- `e_ptz_preset` -/
def presetBranch (value : List Char) (s : Session) : Except Fault Session :=
  .ok { s with ptzpresetIndex := atoi value, ptzPresetIn := s.ptzPresetIn + 1 }

/-- `e_ptz_presetname` -/
def presetnameBranch (value : List Char) (s : Session) : Except Fault Session :=
  .ok { s with
    ptzPresetName := strncpy s.ptzPresetName value, ptzPresetIn := s.ptzPresetIn + 1 }

/-- `e_ptz_deletepreset` -/
def deletepresetBranch (value : List Char) (s : Session) : Except Fault Session :=
  if s.cmdType = tSet then
    let cValue := toChar (atoi value)
    if cValue ≤ 0 then .ok s
    else if cValue > ptzPresetAllnum then .ok s
    else if s.mem.int (.presetIsSet (cValue - 1).toNat) = 0 then .ok s
    else
      .ok ((({ s with mem := clearPreset s.mem (cValue - 1).toNat }).setFileChanged .ptzPreset)
        |>.effect (.mctpCmd (ptzcmd clePreset cValue)))
  else .ok s

/-- `e_ptz_allpresets` -/
def allpresetsBranch (s : Session) : Except Fault Session :=
  if s.cmdType = tGet then
    let set := (List.range ptzPresetAllnum).filter fun i => s.mem.int (.presetIsSet i) ≠ 0
    -- the pieces are appended to the response one by one, not through an answer of their own
    .ok { s with
      ret := s.ret + 1
      i := ptzPresetAllnum
      pRet := s.pRet ++ [⟨.ptzAllpresets, set.flatMap fun i => Nat.toDigits 16 (i + 1) ++ ['/']⟩] }
  else .ok s

/-! ### The system -/

/-- The files of `reset_table`, which a reset removes. -/
def resetTable : List CfgFile := [.enc0, .enc1, .overlayCfg, .ptzPreset, .cloudCfg]

/-- An entry of `reset_table`: the file is set back, and read.  If it cannot be read the same
entry is tried again. -/
def resetFile (env : Env) (s : Session) (file : CfgFile) : Except Fault Session :=
  let s := { s with flash := s.flash.load env.defaults file }.effect (.defaultSetting file)
  if env.readCfgFile file then .ok { s with mem := s.mem.load s.flash file } else .error .hang

/-- `do_reset` -/
def doReset (env : Env) (s : Session) : Except Fault Session :=
  resetTable.foldlM (resetFile env) s

/-- `e_reset` -/
def resetBranch (env : Env) (s : Session) : Except Fault Session :=
  if s.cmdType = tSet then do
    let s ← doReset env (s.effect (.mctpCmd (ptzcmd gotoPreset 95)))
    .ok { s with reboot := s.reboot + 1 }
  else .ok s

/-- `e_reboot` -/
def rebootBranch (s : Session) : Except Fault Session :=
  if s.cmdType = tSet then .ok { s with reboot := s.reboot + 1 } else .ok s

/-- What an effect stores in the file of the protocol, if it is a call of `set_Protocol`. -/
def Effect.protocol : Effect → Option Int
  | .call .setProtocol [p] => some (if p = 0 then 0 else 1)
  | _ => none

/-- What `get_curProtocol` finds behind the effects `es`, when it has found `p` before them. -/
def protocolBehind (p : Int) (es : List Effect) : Int :=
  es.foldl (fun p e => e.protocol.getD p) p

/-- `get_curProtocol` reads the file that `set_Protocol` replaces: it finds what the request has
stored there, and at first what `env` says. -/
def Session.protocol (env : Env) (s : Session) : Int := protocolBehind env.curProtocol s.effects

/-- `e_sys_protocol` -/
def protocolBranch (env : Env) (value : List Char) (s : Session) : Except Fault Session :=
  s.onCmd
    (if atoi value ≠ s.protocol env then
      .ok { s.effect (.call .setProtocol [atoi value]) with reboot := s.reboot + 1 }
    else .ok s)
    (s.reply .sysProtocol (decimal (s.protocol env)))

/-- `e_snapshot_start` -/
def snapshotStartBranch (value : List Char) (s : Session) : Except Fault Session :=
  .ok (s.setInt .snapStart (atoi value))

/-- `e_cld_enable` -/
def cldEnableBranch (value : List Char) (s : Session) : Except Fault Session :=
  let enable : Int := if atoi value > 0 then 1 else 0
  s.onCmd
    (if s.mem.int .cloudEnable ≠ enable then
      .ok (Hook.reboot.run ((s.setInt .cloudEnable enable).setFileChanged .cloudCfg))
    else .ok s)
    (s.reply .cldEnable (decimal (s.mem.int .cloudEnable)))

/-- `e_rec_enable` -/
def recEnableBranch (value : List Char) (s : Session) : Except Fault Session :=
  if s.cmdType = tSet then
    if s.mem.int (.recCfg .enable) ≠ atoi value then
      .ok ((s.setInt (.recCfg .enable) (if atoi value = 0 then 0 else 1)).setFileChanged .recCfg)
    else .ok s
  else s.reply .recEnable (decimal (s.mem.int (.recCfg .enable)))

/-- `e_ptz_continue_move_default_timeout`, which is answered to `T_Get`, and not counted. -/
def defaultTimeoutBranch (s : Session) : Except Fault Session :=
  if s.cmdType = tGet then s.answer .ptzContinueMoveDefaultTimeout (decimal 10000) else .ok s

/-! ### The switch -/

/-- The branches of the `switch` over the keys, those of one kind with what they differ in. -/
inductive Branch where
  /-- a number, its file, what is called and noted, and the label and the number answered -/
  | int (ref : IntRef) (flag : CfgFile) (callees : List Callee) (hook : Hook) (label : Key)
      (shown : IntRef)
  | text (f : StrField) (flag : CfgFile) (hook : Hook)
  | chan (ref : ChanRef)
  | osd (f : OsdField)
  | recCfg (f : RecField) (label : Key)
  | constant (v : Nat)
  | constantText (t : String)
  | shown (ref : IntRef)
  | shownText (f : StrField) (label : Key)
  | type | chn | subChn | osdRegion | wfsearchAccesspoints | mdArea | userOptType | vdmaskNO
  | frameRate | bitRate | ipInterval | width | height | videoAddr | synchronizationPoint | fw
  | videoResolutions | encResolution | nvrOpt | nvrForIDR | nvrClientID | osdName | netmask
  | macaddr | serialNumber | wfsearchEssid | dstmode | ntpenable | systime | devtype | userName
  | userPassword | userGroup | ptzstring | vx | vy | vzoom | stop | gotoPreset | preset
  | presetname | deletepreset | allpresets | defaultTimeout | reset | reboot | protocol
  | snapshotStart | cldEnable | recEnable
  | ignored
deriving DecidableEq

namespace Branch

/-- The branch for a number `ref` that is stored and marks the file `flag`, and is answered under
its own key. -/
def indexed (key : Key) (ref : IntRef) (flag : CfgFile) : Branch := .int ref flag [] .nothing key ref

/-- The branch for a field `f` that is stored and marks the file `flag`, and is answered under its
own key. -/
def plain (key : Key) (f : IntField) (flag : CfgFile) : Branch := indexed key (.field f) flag

/-- The branch for a field `f` with the functions `callees` that are called when it changes. -/
def calling (key : Key) (f : IntField) (flag : CfgFile) (callees : List Callee) : Branch :=
  .int (.field f) flag callees .nothing key (.field f)

/-- The branch for a field `f` with the note `hook` that is made when it changes. -/
def hooked (key : Key) (f : IntField) (flag : CfgFile) (hook : Hook) : Branch :=
  .int (.field f) flag [] hook key (.field f)

end Branch

/-- The `switch` of `processMsg` over the keys: the branch of each one. -/
def Key.branch : Key → Branch
  | .type => .type
  | .chn => .chn
  | .subChn => .subChn
  | .videoChnNum => .constant 2
  | .videoAddr => .videoAddr
  | .encodeProfile => .constant 0
  | .profileLevels => .constant 1
  | .videoSynchronizationPoint => .synchronizationPoint
  | .fw => .fw
  | .denoise => .chan (.av .denoise)
  | .inputSystem => .chan (.av .inputSystem)
  | .deInterlace => .chan (.av .deInterlace)
  | .streamEnable => .chan (.ubs .streamEnable)
  | .encType => .chan (.ubs .encType)
  | .frameRate => .frameRate
  | .minFrameRate => .constant 10
  | .maxFrameRate => .constant 30
  | .bitRate => .bitRate
  | .ipInterval => .ipInterval
  | .minIpInterval => .constant 25
  | .maxIpInterval => .constant 100
  | .width => .width
  | .height => .height
  | .videoResolutions => .videoResolutions
  | .minVideoEncodingInterval => .constant 1
  | .maxVideoEncodingInterval => .constant 1
  | .rateCtlType => .chan (.ubs .rateCtlType)
  | .targetRateMax => .chan (.ubs .targetRateMax)
  | .reactionDelayMax => .chan (.ubs .reactionDelayMax)
  | .initQuant => .chan (.ubs .initQuant)
  | .maxQuant => .chan (.ubs .maxQuant)
  | .minQuant => .chan (.ubs .minQuant)
  | .mjpegQuality => .chan (.ubs .mjpegQuality)
  | .enableRoi => .chan (.ubs .enabledRoi)
  | .roiX => .chan (.ubs .roiX)
  | .roiY => .chan (.ubs .roiY)
  | .roiW => .chan (.ubs .roiW)
  | .roiH => .chan (.ubs .roiH)
  | .brightness => .calling .brightness (.img .brightness) .imageAttr [.adjustBrightness]
  | .saturation =>
      .calling .saturation (.img .saturation) .imageAttr [.adjustSaturation, .setImgSaturation]
  | .contrast => .calling .contrast (.img .contrast) .imageAttr [.adjustContrast]
  | .sharpness => .constant 50
  | .hue => .calling .hue (.img .hue) .imageAttr [.adjustHue]
  | .scene => .calling .scene (.img .scene) .imageAttr [.adjustAwbSceneMode]
  | .flip => .calling .flip (.img .flip) .imageAttr [.adjustShapness]
  | .mirror => .calling .mirror (.img .mirror) .imageAttr [.setMirror]
  | .imgctow => .calling .imgctow (.img .imgctow0) .imageAttr [.setImgCtoW]
  | .imgwtoc => .calling .imgwtoc (.img .imgctow1) .imageAttr [.setImgWtoC]
  | .wbR => .plain .wbR (.img .wb0) .imageAttr
  | .wbG => .plain .wbG (.img .wb1) .imageAttr
  | .wbB => .plain .wbB (.img .wb2) .imageAttr
  | .wbMode => .constant 0
  | .wbCrgain => .constant 0
  | .wbCbgain => .constant 0
  | .backlightcompMode => .constant 0
  | .backlightcompLevel => .constant 0
  | .wdrangeMode => .constant 0
  | .wdrangeLevel => .constant 0
  | .osdRegion => .osdRegion
  | .osdEnable => .osd .enable
  | .osdX => .osd .x
  | .osdY => .osd .y
  | .osdW => .osd .w
  | .osdH => .osd .h
  | .osdRegionName => .osdName
  | .infradStat => .calling .infradStat .infradStat .infraredCfg [.setInfradstatus]
  | .netDhcpflag =>
      .int (.field (.net .dhcpflag)) .netCfg [] .nothing .netDhcpflag (.field .infradStat)
  | .netIp => .text .ip .netCfg .ifCfg
  | .netNetmask => .netmask
  | .netGateway => .text .gateway .netCfg .nothing
  | .netDnsstat => .plain .netDnsstat (.net .dnsstat) .netCfg
  | .netFdnsip => .text .fdnsip .netCfg .nothing
  | .netSdnsip => .text .sdnsip .netCfg .nothing
  | .netMacaddr => .macaddr
  | .netNettype =>
      .int (.field (.net .nettype)) .netCfg [] .nothing .netNettype (.field (.net .dnsstat))
  | .netCardname => .constantText "eth0"
  | .netProtocols => .constant 0
  | .portHttpport => .calling .portHttpport .httpport .portCfg [.setHttpport]
  | .portRtspport => .plain .portRtspport .rtspport .portCfg
  | .upnpUpmenable => .plain .upnpUpmenable .upmEnable .upnpCfg
  | .ddnsD3thenable => .plain .ddnsD3thenable .d3thEnable .ddnsCfg
  | .ddnsD3thservice => .plain .ddnsD3thservice .d3thService .ddnsCfg
  | .ddnsD3thuname => .text .d3thUname .ddnsCfg .nothing
  | .ddnsD3thpasswd => .text .d3thPasswd .ddnsCfg .nothing
  | .ddnsDomain => .text .d3thDomain .ddnsCfg .nothing
  | .wfEnable => .plain .wfEnable (.wf .enable) .wfCfg
  | .wfSsid => .text .wfSsid .wfCfg .nothing
  | .wfAuth => .plain .wfAuth (.wf .auth) .wfCfg
  | .wfKey => .text .wfKey .wfCfg .nothing
  | .wfEnc => .plain .wfEnc (.wf .enc) .wfCfg
  | .wfMode => .plain .wfMode (.wf .mode) .wfCfg
  | .wfsearchAccesspoints => .wfsearchAccesspoints
  | .wfsearchChannel => .shown (.wfSearch .wchannel)
  | .wfsearchRssi => .shown (.wfSearch .wrssi)
  | .wfsearchEssid => .wfsearchEssid
  | .wfsearchEnc => .shown (.wfSearch .wenc)
  | .wfsearchAuth => .shown (.wfSearch .wauth)
  | .wfsearchNet => .shown (.wfSearch .wnet)
  | .ptzProtocal => .plain .ptzProtocal (.ptz .protocal) .ptzcomCfg
  | .ptzAddress => .plain .ptzAddress (.ptz .address) .ptzcomCfg
  | .ptzBaud => .plain .ptzBaud (.ptz .baud) .ptzcomCfg
  | .ptzDatabit => .plain .ptzDatabit (.ptz .databit) .ptzcomCfg
  | .ptzStopbit => .plain .ptzStopbit (.ptz .stopbit) .ptzcomCfg
  | .ptzCheck => .plain .ptzCheck (.ptz .check) .ptzcomCfg
  | .mdIoAlarmEnable => .plain .mdIoAlarmEnable (.md .ioAlarmEnable) .mdCfg
  | .mdIoAlarmFlag => .plain .mdIoAlarmFlag (.md .ioAlarmFlag) .mdCfg
  | .mdEmailSwitch => .plain .mdEmailSwitch (.md .emailSwitch) .mdCfg
  | .mdSnapSwitch => .plain .mdSnapSwitch (.md .snapSwitch) .mdCfg
  | .mdRecordSwitch => .plain .mdRecordSwitch (.md .recordSwitch) .mdCfg
  | .mdFtpSwitch => .plain .mdFtpSwitch (.md .ftpSwitch) .mdCfg
  | .mdRelaySwitch => .plain .mdRelaySwitch (.md .relaySwitch) .mdCfg
  | .mdRelayTime => .plain .mdRelayTime (.md .relayTime) .mdCfg
  | .mdScheduleType => .plain .mdScheduleType (.md .scheduleType) .mdCfg
  | .mdScheduleEname => .plain .mdScheduleEname (.md .scheduleEname) .mdCfg
  | .mdScheduleEtm => .plain .mdScheduleEtm (.md .scheduleEtm) .mdCfg
  | .mdScheduleWorkdayTstart => .plain .mdScheduleWorkdayTstart (.md .workdayTStart) .mdCfg
  | .mdScheduleWorkdayTend => .plain .mdScheduleWorkdayTend (.md .workdayTEnd) .mdCfg
  | .mdScheduleWorkendTstart => .plain .mdScheduleWorkendTstart (.md .weekendTStart) .mdCfg
  | .mdScheduleWorkendTend => .plain .mdScheduleWorkendTend (.md .weekendTEnd) .mdCfg
  | .mdScheduleWeekTstart => .plain .mdScheduleWeekTstart (.md .weekTStart) .mdCfg
  | .mdScheduleWeekTend => .plain .mdScheduleWeekTend (.md .weekTEnd) .mdCfg
  | .mdArea => .mdArea
  | .mdAreaEable => .indexed .mdAreaEable (.mdArea .enable) .mdCfg
  | .mdAreaS => .int (.mdArea .s) .mdCfg [] .nothing .mdAreaEable (.mdArea .s)
  | .mdAreaMethod => .indexed .mdAreaMethod (.mdArea .method) .mdCfg
  | .mdAreaX => .indexed .mdAreaX (.mdArea .x) .mdCfg
  | .mdAreaY => .indexed .mdAreaY (.mdArea .y) .mdCfg
  | .mdAreaW => .int (.mdArea .w) .mdCfg [] .nothing .mdAreaY (.mdArea .w)
  | .mdAreaH => .int (.mdArea .h) .mdCfg [] .nothing .mdAreaY (.mdArea .h)
  | .snapTEnable => .plain .snapTEnable (.snap .asEnable) .snaptimerCfg
  | .snapTInterval => .plain .snapTInterval (.snap .asInterval) .snaptimerCfg
  | .snapTType => .plain .snapTType (.snap .asType) .snaptimerCfg
  | .userNumber => .shown (.field .userNum)
  | .userOptType => .userOptType
  | .userName => .userName
  | .userPassword => .userPassword
  | .userGroup => .userGroup
  | .ftServerip => .text .ftServerip .ftpCfg .nothing
  | .ftPort => .plain .ftPort .ftPort .ftpCfg
  | .ftUsername => .text .ftUsername .ftpCfg .nothing
  | .ftPassword => .text .ftPassword .ftpCfg .nothing
  | .ftMode => .plain .ftMode .ftMode .ftpCfg
  | .ftDirname => .text .ftDirname .ftpCfg .nothing
  | .smtpServerip => .text .smtpServerip .smtpCfg .nothing
  | .smtpPort => .plain .smtpPort (.smtp .port) .smtpCfg
  | .smtpSslflag => .plain .smtpSslflag (.smtp .sslFlag) .smtpCfg
  | .smtpLogintype => .plain .smtpLogintype (.smtp .logintype) .smtpCfg
  | .smtpUsername => .text .smtpUsername .smtpCfg .nothing
  | .smtpPassword => .text .smtpPassword .smtpCfg .nothing
  | .smtpFrom => .text .smtpFrom .smtpCfg .nothing
  | .smtpTo => .text .smtpTo .smtpCfg .nothing
  | .smtpSubject => .text .smtpSubject .smtpCfg .nothing
  | .smtpText => .text .smtpText .smtpCfg .nothing
  | .vdmaskNumber => .shown (.field .aeraNum)
  | .vdmaskNO => .vdmaskNO
  | .vdmaskEnable => .indexed .vdmaskEnable (.vidMask .enable) .vidmaskCfg
  | .vdmaskX => .indexed .vdmaskX (.vidMask .x) .vidmaskCfg
  | .vdmaskY => .indexed .vdmaskY (.vidMask .y) .vidmaskCfg
  | .vdmaskW => .indexed .vdmaskW (.vidMask .w) .vidmaskCfg
  | .vdmaskH => .indexed .vdmaskH (.vidMask .h) .vidmaskCfg
  | .vdmaskColor => .indexed .vdmaskColor (.vidMask .color) .vidmaskCfg
  | .timeZone => .plain .timeZone (.time .timeZone) .sysTimer
  | .timeDstmode => .dstmode
  | .timeNtpenable => .ntpenable
  | .timeNtpserver => .text .ntpserver .sysTimer .ntpserverCfg
  | .timeNtpinterval => .hooked .timeNtpinterval (.time .ntpinterval) .sysTimer .ntpserverCfg
  | .timeSystime => .systime
  | .sysDevtype => .devtype
  | .sysModel => .shownText .model .sysModel
  | .sysHdversion => .shownText .hardVersion .sysHdversion
  | .sysSwversion => .shownText .softVersion .sysSwversion
  | .sysDevname => .shownText .name .sysDevname
  | .sysStartdate => .shownText .startdate .sysStartdate
  | .sysRuntimes => .shownText .runtimes .sysRuntimes
  | .sysSdstatus => .shown (.field (.sys .sdstatus))
  | .sysSdfreespace => .shown (.field (.sys .sdfreespace))
  | .sysSdtotalspace => .shown (.field (.sys .sdtotalspace))
  | .sysHardwareId => .constantText "2012-04-25"
  | .sysManufacturer => .constantText "BRVision"
  | .sys_Model => .shownText .model .sysModel
  | .sysSerialNumber => .serialNumber
  | .nvrOpt => .nvrOpt
  | .nvrForIDR => .nvrForIDR
  | .nvrClientID => .nvrClientID
  | .encResolution => .encResolution
  | .reset => .reset
  | .reboot => .reboot
  | .mctpPtzstring => .ptzstring
  | .ptzContinueMoveDefaultTimeout => .defaultTimeout
  | .ptzContinueMoveVx => .vx
  | .ptzContinueMoveVy => .vy
  | .ptzContinueMoveVzoom => .vzoom
  | .ptzContinueMoveTimeout => .ignored
  | .ptzStopPt => .stop
  | .ptzStopZoom => .stop
  | .ptzGotoPreset => .gotoPreset
  | .ptzPreset => .preset
  | .ptzPresetname => .presetname
  | .ptzDeletepreset => .deletepreset
  | .ptzAllpresets => .allpresets
  | .ptzPresetsCapacity => .constant ptzPresetAllnum
  | .audioEnable => .constant 1
  | .audioEncType => .constant 0
  | .audioBitrate => .constant 128000
  | .audioRtspport => .constant 554
  | .audioSamplesize => .constant 16
  | .audioSamplerate => .constant 8000
  | .sysProtocol => .protocol
  | .error => .ignored
  | .snapshotStart => .snapshotStart
  | .cldEnable => .cldEnable
  | .cldId => .text .cloudId .cloudCfg .reboot
  | .cldPw => .text .cloudPw .cloudCfg .reboot
  | .cldSrvPrt => .hooked .cldSrvPrt .cloudPort .cloudCfg .reboot
  | .cldSrvAddr => .text .cloudAddr .cloudCfg .reboot
  | .cldDevName => .text .cloudName .cloudCfg .reboot
  | .recEnable => .recEnable
  | .recLen => .recCfg .timeLen .recLen
  | .recTime => .recCfg .sch .recLen

/-- What the branch for a `key` does with a `value` in the session `s`. -/
def Branch.run (env : Env) (key : Key) (value : List Char) (s : Session) :
    Branch → Except Fault Session
  | .int ref flag callees hook label answered =>
      intBranch ref flag callees hook label answered value s
  | .text f flag hook => textBranch f flag hook key value s
  | .chan ref => chanBranch ref key value s
  | .osd f => osdBranch f key value s
  | .recCfg f label => recBranch f label value s
  | .constant v => getBranch key (.ok (decimal v)) s
  | .constantText t => getBranch key (.ok t.toList) s
  | .shown ref => getBranch key ((ref.resolve s).map fun f => decimal (s.mem.int f)) s
  | .shownText f label => getBranch label (Msg.text (s.mem.str f)) s
  | .type => typeBranch value s
  | .chn => chnBranch value s
  | .subChn => subChnBranch value s
  | .osdRegion => osdRegionBranch value s
  | .wfsearchAccesspoints => wfsearchAccesspointsBranch value s
  | .mdArea => mdAreaBranch value s
  | .userOptType => userOptTypeBranch value s
  | .vdmaskNO => vdmaskNOBranch value s
  | .frameRate => frameRateBranch value s
  | .bitRate => bitRateBranch value s
  | .ipInterval => ipIntervalBranch value s
  | .width => widthBranch s
  | .height => heightBranch s
  | .videoAddr => videoAddrBranch s
  | .synchronizationPoint => synchronizationPointBranch value s
  | .fw => fwBranch value s
  | .videoResolutions => videoResolutionsBranch s
  | .encResolution => encResolutionBranch value s
  | .nvrOpt => nvrOptBranch value s
  | .nvrForIDR => nvrForIDRBranch s
  | .nvrClientID => getBranch .nvrClientID (.ok (decimal (atoi value))) s
  | .osdName => osdNameBranch value s
  | .netmask => netmaskBranch value s
  | .macaddr => macaddrBranch env value s
  | .serialNumber => getBranch .sysSerialNumber (.ok (macText s.mem)) s
  | .wfsearchEssid =>
      getBranch .wfsearchEssid
        (do
          let i ← bounded .searchParam s.index wfSearchNum
          Msg.text (s.mem.str (.wessid i))) s
  | .dstmode => dstmodeBranch value s
  | .ntpenable => ntpenableBranch value s
  | .systime => systimeBranch env value s
  | .devtype => devtypeBranch s
  | .userName => userNameBranch value s
  | .userPassword => userPasswordBranch value s
  | .userGroup => userGroupBranch value s
  | .ptzstring => ptzstringBranch value s
  | .vx => .ok (if s.cmdType = tSet then { s with vx := some value } else s)
  | .vy => .ok (if s.cmdType = tSet then { s with vy := some value } else s)
  | .vzoom => vzoomBranch env value s
  | .stop => stopBranch s
  | .gotoPreset => gotoPresetBranch value s
  | .preset => presetBranch value s
  | .presetname => presetnameBranch value s
  | .deletepreset => deletepresetBranch value s
  | .allpresets => allpresetsBranch s
  | .defaultTimeout => defaultTimeoutBranch s
  | .reset => resetBranch env s
  | .reboot => rebootBranch s
  | .protocol => protocolBranch env value s
  | .snapshotStart => snapshotStartBranch value s
  | .cldEnable => cldEnableBranch value s
  | .recEnable => recEnableBranch value s
  | .ignored => .ok s

end Msg
