import Avserver.Msg.CString
import Avserver.Library.WriteBack

/-!
# The configuration

The configuration of the camera is kept in a set of globals, one for each file of `File_array`.
A `Field` is one member of these globals; the members that are strings are buffers, all others
are numbers.  `Contents` are the values of all fields, whether in memory or in the files, and
`Field.file` tells the file that a field is stored in.  Which of the globals have to be written
to their files is noted in the bits of `file_changed_flag`.

The values that a member can hold are those of its C type (`IntField.cast`): the members are
`int`s but for some `short`s and `char`s.
-/

namespace Msg

/-! ### The files -/

/-- The files of `File_array`, in its order, each of which holds one of the globals. -/
inductive CfgFile where
  | enc0 | enc1 | encFw | imageAttr | overlayCfg | infraredCfg | netCfg | portCfg | upnpCfg
  | wfCfg | ddnsCfg | ptzcomCfg | mdCfg | user | snaptimerCfg | ftpCfg | smtpCfg | vidmaskCfg
  | sysCfg | sysTimer | ptzPreset | cloudCfg | recCfg
deriving DecidableEq

/-- `File_array` -/
def fileArray : List CfgFile :=
  [.enc0, .enc1, .encFw, .imageAttr, .overlayCfg, .infraredCfg, .netCfg, .portCfg, .upnpCfg,
    .wfCfg, .ddnsCfg, .ptzcomCfg, .mdCfg, .user, .snaptimerCfg, .ftpCfg, .smtpCfg, .vidmaskCfg,
    .sysCfg, .sysTimer, .ptzPreset, .cloudCfg, .recCfg]

/-- The number of the `file` in `File_array`, which is also that of its bit. -/
def CfgFile.index (file : CfgFile) : Nat := file.ctorIdx

/-- `SET_FILE_CHANGED` -/
def setFileChanged (flag : Nat) (file : CfgFile) : Nat := flag ||| 1 <<< file.index

/-- `IS_SET_FILE_CHANGED` -/
def isSetFileChanged (flag : Nat) (file : CfgFile) : Bool := flag.testBit file.index

/-- `File_array` holds each `file` at its number. -/
theorem fileArray_index (file : CfgFile) : fileArray[file.index]? = some file := by
  cases file
  all_goals rfl

theorem mem_fileArray (file : CfgFile) : file ∈ fileArray :=
  List.mem_of_getElem? (fileArray_index file)

theorem CfgFile.index_inj {file file' : CfgFile} : file.index = file'.index ↔ file = file' := by
  constructor
  · intro h
    apply Option.some.inj
    rw [← fileArray_index file, h, fileArray_index]
  · apply congrArg

@[simp]
theorem isSetFileChanged_zero (file : CfgFile) : isSetFileChanged 0 file = false :=
  Nat.zero_testBit _

/-- Of `file'` the bit is set after `setFileChanged` for `file` when it was set before or the two
are the same. -/
@[simp]
theorem isSetFileChanged_setFileChanged (flag : Nat) (file file' : CfgFile) :
  isSetFileChanged (setFileChanged flag file) file'
    = (isSetFileChanged flag file' || decide (file = file'))
  := by
  simp only [isSetFileChanged, setFileChanged, Nat.testBit_or, Nat.one_shiftLeft,
    Nat.testBit_two_pow, CfgFile.index_inj]

/-! ### The fields -/

/-- The two encoder configurations, `g_stAv_0_file` and `g_stAv_1_file`, one for each channel. -/
inductive AvFile where
  | av0 | av1
deriving DecidableEq

/-- The file of an encoder configuration among those of `File_array`. -/
def AvFile.cfgFile : AvFile → CfgFile
  | .av0 => .enc0
  | .av1 => .enc1

/-- The members of `Av_cfg_t` that belong to a channel, and not to one of its streams. -/
inductive AvField where
  | denoise | inputSystem | deInterlace
deriving DecidableEq

/-- The members of `Av_cfg_t` that belong to a stream, those of `ubs[]`. -/
inductive UbsField where
  | streamEnable | encType | frameRate | bitRate | ipInterval | width | height | rateCtlType
  | targetRateMax | reactionDelayMax | initQuant | maxQuant | minQuant | mjpegQuality
  | enabledRoi | roiX | roiY | roiW | roiH
deriving DecidableEq

/-- `Img_cfg_t` -/
inductive ImgField where
  | brightness | contrast | hue | saturation | scene | flip | mirror | imgctow0 | imgctow1
  | wb0 | wb1 | wb2
deriving DecidableEq

/-- `Osd_cfg_t` -/
inductive OsdField where
  | region | enable | x | y | w | h
deriving DecidableEq

/-- `Net_cfg_t` -/
inductive NetField where
  | dhcpflag | dnsstat | nettype
deriving DecidableEq

/-- `wfcfg_t` -/
inductive WfField where
  | enable | auth | enc | mode
deriving DecidableEq

/-- `Ptzcfg_t` -/
inductive PtzField where
  | protocal | address | baud | databit | stopbit | check
deriving DecidableEq

/-- The members of `Mdcfg_t`, the motion detection, without those of the areas. -/
inductive MdField where
  | ioAlarmEnable | ioAlarmFlag | emailSwitch | snapSwitch | recordSwitch | ftpSwitch
  | relaySwitch | relayTime | scheduleType | scheduleEname | scheduleEtm | workdayTStart
  | workdayTEnd | weekendTStart | weekendTEnd | weekTStart | weekTEnd
deriving DecidableEq

/-- The members of an area of `Mdcfg_t`, the motion detection. -/
inductive MdAreaField where
  | enable | s | method | x | y | w | h
deriving DecidableEq

/-- The members of an area of `VidMaskcfg_t`, the masks over the picture. -/
inductive VidMaskField where
  | enable | x | y | w | h | color
deriving DecidableEq

/-- `Snaptimercfg_t` -/
inductive SnapField where
  | asEnable | asInterval | asType
deriving DecidableEq

/-- `Smtpcfg_t` -/
inductive SmtpField where
  | port | sslFlag | logintype
deriving DecidableEq

/-- `Syscfg_t` -/
inductive SysField where
  | devtype | sdstatus | sdfreespace | sdtotalspace
deriving DecidableEq

/-- `Timecfg_t` -/
inductive TimeField where
  | timeZone | dstmode | ntpenable | ntpinterval
deriving DecidableEq

/-- `Rec_cfg_t` -/
inductive RecField where
  | enable | timeLen | sch
deriving DecidableEq

/-- The members of a network found by the search, of `g_stWf_search_file`. -/
inductive WfSearchField where
  | wchannel | wrssi | wenc | wauth | wnet
deriving DecidableEq

/-- The members that are numbers.  `wfSearch`, `waccessPoints` and `snapStart` are globals that are
not of `File_array`. -/
inductive IntField where
  | av (file : AvFile) (f : AvField)
  | ubs (file : AvFile) (sub : Nat) (f : UbsField)
  | iFw
  | img (f : ImgField)
  | osd (region : Nat) (f : OsdField)
  | infradStat
  | net (f : NetField)
  | macaddr (i : Nat)
  | httpport
  | rtspport
  | upmEnable
  | d3thEnable
  | d3thService
  | wf (f : WfField)
  | ptz (f : PtzField)
  | md (f : MdField)
  | mdArea (i : Nat) (f : MdAreaField)
  | userNum
  | group (i : Nat)
  | snap (f : SnapField)
  | ftPort
  | ftMode
  | smtp (f : SmtpField)
  | aeraNum
  | vidMask (i : Nat) (f : VidMaskField)
  | sys (f : SysField)
  | time (f : TimeField)
  | presetIsSet (i : Nat)
  | cloudEnable
  | cloudPort
  | recCfg (f : RecField)
  | waccessPoints
  | wfSearch (i : Nat) (f : WfSearchField)
  | snapStart
deriving DecidableEq

/-- The members that are strings.  `wessid` is of a global that is not of `File_array`. -/
inductive StrField where
  | osdName (region : Nat)
  | ip | netmask | gateway | fdnsip | sdnsip
  | d3thUname | d3thPasswd | d3thDomain
  | wfSsid | wfKey
  | username (i : Nat)
  | password (i : Nat)
  | ftServerip | ftUsername | ftPassword | ftDirname
  | smtpServerip | smtpUsername | smtpPassword | smtpFrom | smtpTo | smtpSubject | smtpText
  | model | hardVersion | softVersion | name | startdate | runtimes
  | ntpserver | sysTime
  | presetName (i : Nat)
  | cloudId | cloudPw | cloudAddr | cloudName
  | wessid (i : Nat)
deriving DecidableEq

/-- A member of a global, which holds a number or a string. -/
inductive Field where
  | int (f : IntField)
  | str (f : StrField)
deriving DecidableEq

/-- The file that a number is stored in, if its global is of `File_array`. -/
def IntField.file : IntField → Option CfgFile
  | .av file _ | .ubs file _ _ => some file.cfgFile
  | .iFw => some .encFw
  | .img _ => some .imageAttr
  | .osd _ _ => some .overlayCfg
  | .infradStat => some .infraredCfg
  | .net _ | .macaddr _ => some .netCfg
  | .httpport | .rtspport => some .portCfg
  | .upmEnable => some .upnpCfg
  | .d3thEnable | .d3thService => some .ddnsCfg
  | .wf _ => some .wfCfg
  | .ptz _ => some .ptzcomCfg
  | .md _ | .mdArea _ _ => some .mdCfg
  | .userNum | .group _ => some .user
  | .snap _ => some .snaptimerCfg
  | .ftPort | .ftMode => some .ftpCfg
  | .smtp _ => some .smtpCfg
  | .aeraNum | .vidMask _ _ => some .vidmaskCfg
  | .sys _ => some .sysCfg
  | .time _ => some .sysTimer
  | .presetIsSet _ => some .ptzPreset
  | .cloudEnable | .cloudPort => some .cloudCfg
  | .recCfg _ => some .recCfg
  | .waccessPoints | .wfSearch _ _ | .snapStart => none

/-- The file that a string is stored in, if its global is of `File_array`. -/
def StrField.file : StrField → Option CfgFile
  | .osdName _ => some .overlayCfg
  | .ip | .netmask | .gateway | .fdnsip | .sdnsip => some .netCfg
  | .d3thUname | .d3thPasswd | .d3thDomain => some .ddnsCfg
  | .wfSsid | .wfKey => some .wfCfg
  | .username _ | .password _ => some .user
  | .ftServerip | .ftUsername | .ftPassword | .ftDirname => some .ftpCfg
  | .smtpServerip | .smtpUsername | .smtpPassword | .smtpFrom | .smtpTo | .smtpSubject
  | .smtpText => some .smtpCfg
  | .model | .hardVersion | .softVersion | .name | .startdate | .runtimes => some .sysCfg
  | .ntpserver | .sysTime => some .sysTimer
  | .presetName _ => some .ptzPreset
  | .cloudId | .cloudPw | .cloudAddr | .cloudName => some .cloudCfg
  | .wessid _ => none

/-- The file that a field is stored in, if its global is of `File_array`. -/
def Field.file : Field → Option CfgFile
  | .int f => f.file
  | .str f => f.file

/-- The value that a `short` holds when `v` is assigned to it. -/
def toShort (v : Int) : Int := (v + 32768) % 65536 - 32768

/-- The value that a `char`, which has no sign here, holds when `v` is assigned to it. -/
def toChar (v : Int) : Int := v % 256

/-- The value that a member holds when a value is assigned to it, by the width of its type. -/
def IntField.cast : IntField → Int → Int
  | .osd _ _ | .net .nettype | .d3thEnable | .d3thService => toShort
  | .time .dstmode | .sys .devtype | .macaddr _ | .presetIsSet _ => toChar
  | _ => id

/-! ### The contents -/

/-- What a field holds: a number, or the buffer of a string. -/
@[reducible]
def Field.Value : Field → Type
  | .int _ => Int
  | .str _ => List Char

/-- The values of all fields, as they are in memory or in the flash. -/
abbrev Contents : Type := (f : Field) → f.Value

/-- The value of the number `f` in the contents `c`. -/
def Contents.int (c : Contents) (f : IntField) : Int := c (.int f)

/-- The buffer of the string `f` in the contents `c`. -/
def Contents.str (c : Contents) (f : StrField) : List Char := c (.str f)

/-- The contents `c` after the value `v` has been assigned to the number `f`. -/
def Contents.setInt (c : Contents) (f : IntField) (v : Int) : Contents :=
  Function.update c (.int f) (f.cast v)

/-- The contents `c` after the buffer of the string `f` has been replaced by `buf`. -/
def Contents.setStr (c : Contents) (f : StrField) (buf : List Char) : Contents :=
  Function.update c (.str f) buf

/-- The contents `c` with the fields of the `file` taken over from `c'`. -/
def Contents.load (c c' : Contents) (file : CfgFile) : Contents :=
  fun f => if f.file = some file then c' f else c f

/-- An assignment to the number `f` leaves every other field `g` alone. -/
theorem Contents.setInt_of_ne {c : Contents} {f : IntField} {v : Int} {g : Field}
    (h : g ≠ .int f) :
  c.setInt f v g = c g
  := Function.update_of_ne h _ _

theorem Contents.setStr_of_ne {c : Contents} {f : StrField} {buf : List Char} {g : Field}
    (h : g ≠ .str f) :
  c.setStr f buf g = c g
  := Function.update_of_ne h _ _

/-- Behind an assignment to the number `f` it holds `f.cast v`, and any other number `g` what it
held. -/
theorem Contents.int_setInt (c : Contents) (f g : IntField) (v : Int) :
  (c.setInt f v).int g = if g = f then f.cast v else c.int g
  := by
  split
  · next heq =>
      obtain rfl := heq
      apply Function.update_self
  · next hne => apply Contents.setInt_of_ne fun heq => hne (Field.int.inj heq)

/-- Behind the replacement of the buffer of the string `f` it holds `buf`. -/
theorem Contents.str_setStr (c : Contents) (f : StrField) (buf : List Char) :
  (c.setStr f buf).str f = buf
  := Function.update_self _ _ _

end Msg
