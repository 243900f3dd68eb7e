import Mathlib
import Avserver.Msg.InRange
import Avserver.Msg.Reads
import Avserver.Msg.Users

/-!
# A value that is set is reported

The two halves of the round trip meet at the `Target` of a branch: the field that it stores for
`T_Set`, and the value that the field then holds.  The branch for a key leaves the value in the
field (`Branch.run_holds`), and asked with `T_Get` and the same selectors it reports what the
field holds (`Key.run_asked`).  Two keys report another field than they store, the flag for DHCP
and the type of the network; these report the value that was set only when the other field
happens to hold it as well (`set_then_get_iff`).
-/

namespace Msg

open Library

variable {env : Env} {s s' s₁ s₂ : Session} {key l : Key} {value value' : List Char}

/-! ### Contents as the types of the members allow -/

/-- The numbers of `c` are values of the types of their members, and the strings end in their
buffers. -/
structure Contents.WellFormed (c : Contents) : Prop where
  int : ∀ f : IntField, f.cast (c.int f) = c.int f
  str : ∀ f : StrField, nul ∈ c.str f

/-! ### What a branch stores -/

/-- A field of the configuration, with a value for it: a number, or the text of a string. -/
inductive Target where
  | int (f : IntField) (v : Int)
  | str (f : StrField) (t : List Char)
deriving DecidableEq

/-- In `c` the field of the target holds its value. -/
def Target.HeldBy (c : Contents) : Target → Prop
  | .int f v => c.int f = v
  | .str f t => text (c.str f) = .ok t

/-- The number `f` with the value that it holds when `v` is assigned to it. -/
def IntField.target (f : IntField) (v : Int) : Target := .int f (f.cast v)

/-- The field that a branch stores for `T_Set` in the session `s`, with what it holds then of the
`value`. -/
def Branch.target (value : List Char) (s : Session) : Branch → Option Target
  | .int ref _ _ _ _ _ => (ref.resolve s).toOption.map (·.target (atoi value))
  | .text f _ _ => some (.str f value)
  | .chan ref => (ref.resolve s).toOption.map (·.target (atoi value))
  | .osd f =>
      if Within s.osdRegion regionNum then
        some ((IntField.osd s.osdRegion.toNat f).target (atoi value))
      else none
  | .recCfg f _ => some ((IntField.recCfg f).target (atoi value))
  | .frameRate => ((ChanRef.ubs .frameRate).resolve s).toOption.map (·.target (frameRateValue value))
  | .bitRate =>
      ((ChanRef.ubs .bitRate).resolve s).toOption.map (·.target (bitRateValue s.channel value))
  | .ipInterval => ((ChanRef.ubs .ipInterval).resolve s).toOption.map (·.target (atoi value))
  | .fw =>
      if atoi value = 50 ∨ atoi value = 60 then some (IntField.iFw.target (atoi value)) else none
  | .osdName =>
      if Within s.osdRegion regionNum then some (.str (.osdName s.osdRegion.toNat) value) else none
  | .netmask => some (.str .netmask value)
  | .dstmode => some ((IntField.time .dstmode).target (atoi value))
  -- a user is stored when one is added and there is room
  | .userName =>
      if s.index = addUser then
        (findFree s.mem).toOption.bind fun i =>
          if i = userMax then none else some (.str (.username i) value)
      else none
  | .cldEnable => some (IntField.cloudEnable.target (if atoi value > 0 then 1 else 0))
  -- what is there already is not made 0 or 1
  | .recEnable =>
      some ((IntField.recCfg .enable).target
        (if s.mem.int (.recCfg .enable) = atoi value then atoi value
        else if atoi value = 0 then 0 else 1))
  | _ => none

/-- How a branch reports the value of a target: the bit rate in thousands, and any other one as it
is. -/
def Branch.shows : Branch → Target → List Char
  | .bitRate, .int _ v => decimal (v.tdiv 1000)
  | _, .int _ v => decimal v
  | _, .str _ t => t

/-! ### Setting -/

/-- The number `f` holds the value of its target when `v` has been assigned to it. -/
theorem holds_setInt (c : Contents) (f : IntField) (v : Int) :
  (f.target v).HeldBy (c.setInt f v)
  := Function.update_self _ _ _

/-- If a number `f` is compared with `v`, and assigned if it differs, then it holds the value of its
target. -/
theorem holds_int
    {t : Session} {f : IntField} {v : Int} (hs : s.mem.WellFormed)
    (ht : t.mem = s.mem.setInt f v)
    (h : (if s.mem.int f ≠ v then .ok t else .ok s : Except Fault Session) = .ok s₁) :
  (f.target v).HeldBy s₁.mem
  := by
  split at h
  · obtain rfl := Except.ok.inj h
    rw [ht]
    apply holds_setInt
  · next heq =>
      obtain rfl := Except.ok.inj h
      have hv : s.mem.int f = v := not_not.mp heq
      change s.mem.int f = f.cast v
      rw [← hv, hs.int]

/-- If a string `f` is compared with the value, and copied if it differs, then it holds the
value. -/
theorem holds_str
    {g : Session → Session} {f : StrField} (hvalue : nul ∉ value) (hg : ∀ t, (g t).mem = t.mem)
    (h : (do
      if ← strcmpEq (s.mem.str f) value then .ok s
      else do
        let s ← s.setText f value
        .ok (g s) : Except Fault Session) = .ok s₁) :
  (Target.str f value).HeldBy s₁.mem
  := by
  obtain ⟨b, hb, h⟩ := bind_ok.mp h
  split at h
  · next htrue =>
      obtain rfl := Except.ok.inj h
      rw [htrue] at hb
      apply text_of_strcmpEq hb
  · obtain ⟨t, ht, h⟩ := bind_ok.mp h
    obtain rfl := Except.ok.inj h
    obtain ⟨buf, hbuf, ht⟩ := bind_ok.mp ht
    obtain rfl := Except.ok.inj ht
    rw [Target.HeldBy, hg, Contents.str_setStr]
    apply text_strcpy hvalue hbuf

/-- For `T_Set` a branch of the form `onCmd` is its first part. -/
theorem onCmd_of_set {set get : Except Fault Session} (hset : s.cmdType = tSet) :
  s.onCmd set get = set
  := if_pos hset

/-- If the target is of the field that `x` resolves to, then `x` has resolved to a field `f`, and
the target is that of `f`. -/
theorem target_of_resolve
    {x : Except Fault IntField} {v : Int} {tg : Target}
    (h : x.toOption.map (·.target v) = some tg) :
  ∃ f, x = .ok f ∧ tg = f.target v
  := by
  cases x with
  | error fault => contradiction
  | ok f => exact ⟨f, rfl, (Option.some.inj h).symm⟩

theorem streamBranch_holds
    {f : UbsField} {callee : Callee} {v : Int} {tg : Target} (hs : s.mem.WellFormed)
    (htarget : ((ChanRef.ubs f).resolve s).toOption.map (·.target v) = some tg)
    (h : streamBranch f callee v s = .ok s₁) :
  tg.HeldBy s₁.mem
  := by
  obtain ⟨f', hf, rfl⟩ := target_of_resolve htarget
  rw [streamBranch, hf] at h
  refine holds_int hs ?_ h
  split
  · rfl
  · rfl

theorem userNameSet_holds
    {tg : Target} (hvalue : nul ∉ value)
    (htarget : Branch.userName.target value s = some tg)
    (h : userNameSet value s = .ok s₁) :
  tg.HeldBy s₁.mem
  := by
  simp only [Branch.target] at htarget
  split at htarget
  · next hadd =>
      cases hfree : findFree s.mem with
      | error fault =>
          rw [hfree] at htarget
          contradiction
      | ok i =>
          rw [hfree] at htarget
          simp only [Except.toOption, Option.bind_some] at htarget
          split at htarget
          · contradiction
          · next hroom =>
              obtain rfl := Option.some.inj htarget
              rw [userNameSet, if_pos hadd, hfree] at h
              simp only [bind, Except.bind, if_neg hroom] at h
              obtain ⟨buf, hbuf, h⟩ := bind_ok.mp h
              obtain rfl := Except.ok.inj h
              rw [Target.HeldBy, Contents.str_setStr]
              apply text_strcpy hvalue hbuf
  · contradiction

/-- For `T_Set` the branch of the names stores the `value` as the name of the user that is its
target. -/
theorem userNameBranch_holds
    {tg : Target} (hvalue : nul ∉ value) (hset : s.cmdType = tSet)
    (htarget : Branch.userName.target value s = some tg)
    (h : userNameBranch value s = .ok s₁) :
  tg.HeldBy s₁.mem
  := by
  obtain ⟨t, ht, h⟩ := bind_ok.mp h
  obtain ⟨i, -, h⟩ := bind_ok.mp h
  obtain ⟨name, -, h⟩ := bind_ok.mp h
  rw [onCmd_of_set hset] at ht
  have hmem : s₁.mem = t.mem := (reply_same h).2
  rw [hmem]
  apply userNameSet_holds hvalue htarget ht

/-- The branch `b` for a key, for `T_Set`, leaves the value of its target in the field. -/
theorem Branch.run_holds
    {b : Branch} {tg : Target} (hvalue : nul ∉ value) (hs : s.mem.WellFormed)
    (hset : s.cmdType = tSet) (htarget : b.target value s = some tg)
    (h : b.run env key value s = .ok s₁) :
  tg.HeldBy s₁.mem
  := by
  cases b
  case int ref flag callees hook label answered =>
    obtain ⟨f, hf, rfl⟩ := target_of_resolve htarget
    rw [Branch.run, intBranch, onCmd_of_set hset, hf] at h
    refine holds_int hs ?_ h
    rw [Hook.run_mem]
    apply calls_mem
  case text f flag hook =>
    obtain rfl := Option.some.inj htarget
    rw [Branch.run, textBranch, onCmd_of_set hset] at h
    refine holds_str (g := fun t => hook.run (t.setFileChanged flag)) hvalue ?_ h
    intro t
    apply Hook.run_mem
  case chan ref =>
    obtain ⟨f, hf, rfl⟩ := target_of_resolve htarget
    rw [Branch.run, chanBranch, onCmd_of_set hset, hf] at h
    exact holds_int hs rfl h
  case osd f =>
    simp only [Branch.target] at htarget
    split at htarget
    · next hin =>
        obtain rfl := Option.some.inj htarget
        rw [Branch.run, osdBranch, if_neg hin.not_out] at h
        simp only [onCmd_of_set hset] at h
        exact holds_int hs rfl h
    · contradiction
  case recCfg f label =>
    obtain rfl := Option.some.inj htarget
    rw [Branch.run, recBranch, if_pos hset] at h
    exact holds_int hs rfl h
  case frameRate =>
    rw [Branch.run, frameRateBranch, onCmd_of_set hset] at h
    apply streamBranch_holds hs htarget h
  case bitRate =>
    rw [Branch.run, bitRateBranch, onCmd_of_set hset] at h
    apply streamBranch_holds hs htarget h
  case ipInterval =>
    rw [Branch.run, ipIntervalBranch, onCmd_of_set hset] at h
    apply streamBranch_holds hs htarget h
  case fw =>
    simp only [Branch.target] at htarget
    split at htarget
    · next hvalid =>
        obtain rfl := Option.some.inj htarget
        have hvalid' : ¬ (atoi value ≠ 50 ∧ atoi value ≠ 60) := by omega
        rw [Branch.run, fwBranch, onCmd_of_set hset, if_neg hvalid'] at h
        exact holds_int hs rfl h
    · contradiction
  case osdName =>
    simp only [Branch.target] at htarget
    split at htarget
    · next hin =>
        obtain rfl := Option.some.inj htarget
        rw [Branch.run, osdNameBranch, if_neg hin.not_out] at h
        simp only [onCmd_of_set hset] at h
        exact holds_str (g := fun t => { t.setFileChanged .overlayCfg with osdCfg := true })
          hvalue (fun _ => rfl) h
    · contradiction
  case netmask =>
    obtain rfl := Option.some.inj htarget
    rw [Branch.run, netmaskBranch, onCmd_of_set hset] at h
    exact holds_str (g := fun t => (t.effect (.netSetNetmask value)).setFileChanged .netCfg)
      hvalue (fun _ => rfl) h
  case dstmode =>
    obtain rfl := Option.some.inj htarget
    rw [Branch.run, dstmodeBranch, onCmd_of_set hset] at h
    split at h
    · obtain rfl := Except.ok.inj h
      apply holds_setInt
    · next heq =>
        obtain rfl := Except.ok.inj h
        exact not_not.mp heq
  case userName => apply userNameBranch_holds hvalue hset htarget h
  case cldEnable =>
    obtain rfl := Option.some.inj htarget
    rw [Branch.run, cldEnableBranch, onCmd_of_set hset] at h
    exact holds_int hs rfl h
  case recEnable =>
    obtain rfl := Option.some.inj htarget
    rw [Branch.run, recEnableBranch, if_pos hset] at h
    by_cases heq : s.mem.int (.recCfg .enable) = atoi value
    · rw [if_neg (not_not.mpr heq)] at h
      obtain rfl := Except.ok.inj h
      rw [if_pos heq]
      exact heq
    · rw [if_pos heq] at h
      obtain rfl := Except.ok.inj h
      rw [if_neg heq]
      apply holds_setInt
  all_goals exact nomatch htarget

/-- The selectors of the session are left alone by a branch `b` that has a target, and so stores. -/
theorem Branch.run_selection
    {b : Branch} {tg : Target} (hmarks : b.MarksItsFile) (htarget : b.target value s = some tg)
    (h : b.run env key value s = .ok s₁) :
  s₁.cursor = s.cursor ∧ s₁.osdRegion = s.osdRegion
  := by
  constructor
  · rw [Branch.run_cursor hmarks h]
    cases b
    case type | chn | subChn | wfsearchAccesspoints | mdArea | vdmaskNO | userOptType =>
      contradiction
    all_goals rfl
  · by_cases hosd : b.OfOsd
    · cases b
      case osd =>
        obtain ⟨-, hregion⟩ | ⟨-, hregion, -⟩ := osdBranch_region h
        · exact (Prod.mk.inj hregion).1
        · exact (Prod.mk.inj hregion).1
      case osdName =>
        obtain ⟨-, hregion⟩ | ⟨-, hregion, -⟩ := osdNameBranch_region h
        · exact (Prod.mk.inj hregion).1
        · exact (Prod.mk.inj hregion).1
      case osdRegion => contradiction
      all_goals exact absurd hosd (fun hfalse => hfalse)
    · have hkept := Branch.run_osd hosd _ h
      exact (Prod.mk.inj hkept).1

/-! ### Asking -/

/-- The session `s'` asks, by `T_Get`, with the configuration and the selectors that `s` has
left. -/
structure Asks (s s' : Session) : Prop where
  cmdType : s'.cmdType = tGet
  mem : s'.mem = s.mem
  channel : s'.channel = s.channel
  subChannel : s'.subChannel = s.subChannel
  index : s'.index = s.index
  osdRegion : s'.osdRegion = s.osdRegion

/-- If `s₁` has the selectors of `s`, with which a value was set, then `s₂` asks with them. -/
theorem Asks.of_selection
    (hcursor : s₁.cursor = s.cursor) (hregion : s₁.osdRegion = s.osdRegion) (h : Asks s₁ s₂) :
  s₂.avFile = s.avFile ∧ s₂.subChannel = s.subChannel ∧ s₂.index = s.index ∧
    s₂.osdRegion = s.osdRegion
  := by
  simp only [Session.cursor, Cursor.mk.injEq] at hcursor
  obtain ⟨-, -, hchannel, hsub, hindex⟩ := hcursor
  refine ⟨?_, h.subChannel.trans hsub, h.index.trans hindex, h.osdRegion.trans hregion⟩
  rw [Session.avFile, Session.avFile, h.channel, hchannel]

theorem onCmd_of_get {set get : Except Fault Session} (hget : s.cmdType = tGet) :
  s.onCmd set get = get
  := by
  have hset : s.cmdType ≠ tSet := by
    rw [hget]
    decide
  rw [Session.onCmd, if_neg hset, if_pos hget]

/-- If one of the users has the name `value`, then `findName` finds a user with it. -/
theorem findName_of_mem
    {c : Contents} {i : Nat} (hvalue : nul ∉ value) (hc : ∀ j, nul ∈ c.str (.username j))
    (hi : i < userMax) (hname : text (c.str (.username i)) = .ok value) :
  ∃ j, findName c value = .ok j ∧ j < userMax ∧ text (c.str (.username j)) = .ok value
  := by
  have hcmp (j : Nat) : strcmpEq (c.str (.username j)) value =
      .ok (decide (text (c.str (.username j)) = .ok value)) := strcmpEq_of_mem hvalue (hc j)
  have htotal : ∀ n k, ∃ j,
      findUser (fun i => strcmpEq (c.str (.username i)) value) n k = .ok j := by
    intro n
    induction n with
    | zero => exact fun k => ⟨k, rfl⟩
    | succ n ih =>
        intro k
        rw [findUser, hcmp]
        simp only [bind, Except.bind]
        split
        · exact ⟨k, rfl⟩
        · apply ih
  obtain ⟨j, hj⟩ := htotal userMax 0
  obtain ⟨-, hle, hbefore, hat⟩ := findUser_ok hj
  have hlt : j < userMax := by
    by_contra hge
    have hfalse := hbefore i (Nat.zero_le i) (by omega)
    rw [hcmp, hname] at hfalse
    simp at hfalse
  have htrue := hat (by omega)
  rw [hcmp] at htrue
  exact ⟨j, hj, hlt, of_decide_eq_true (Except.ok.inj htrue)⟩

/-- If a user is added by its branch, the names of all users are still terminated in their
buffers. -/
theorem userName_terminated
    {tg : Target} (hvalue : nul ∉ value) (hs : s.mem.WellFormed) (hset : s.cmdType = tSet)
    (htarget : Branch.userName.target value s = some tg)
    (h : userNameBranch value s = .ok s₁) :
  ∃ i, i < userMax ∧ tg = .str (.username i) value ∧ ∀ j, nul ∈ s₁.mem.str (.username j)
  := by
  have hheld := userNameBranch_holds hvalue hset htarget h
  have hnames := userNameBranch_names h
  rw [if_pos hset] at hnames
  simp only [Branch.target] at htarget
  split at htarget
  · next hadd =>
      rw [if_pos hadd] at hnames
      cases hfree : findFree s.mem with
      | error fault =>
          rw [hfree] at htarget
          contradiction
      | ok i =>
          rw [add_of_findFree hfree] at hnames
          rw [hfree] at htarget
          simp only [Except.toOption, Option.bind_some] at htarget
          split at htarget
          · contradiction
          · next hroom =>
              obtain rfl := Option.some.inj htarget
              rw [if_neg hroom] at hnames
              have hle := (findUser_ok hfree).2.1
              refine ⟨i, by omega, rfl, ?_⟩
              intro j
              by_cases hj : j = i
              · subst hj
                apply mem_of_text hheld
              · have hkept : s₁.mem.names j = s.mem.names j := by
                  rw [hnames, Function.update_of_ne hj]
                change nul ∈ s₁.mem.names j
                rw [hkept]
                apply hs.str
  · contradiction

/-- A session that asks for a user whose name is the `value` is answered with the name. -/
theorem userNameBranch_asked
    {i : Nat} (hvalue : nul ∉ value) (hget : s.cmdType = tGet)
    (hs : ∀ j, nul ∈ s.mem.str (.username j)) (hi : i < userMax)
    (hname : text (s.mem.str (.username i)) = .ok value) :
  ∃ s' : Session, s'.pRet = s.pRet ∧ userNameBranch value s = s'.reply .userName value
  := by
  obtain ⟨j, hj, hlt, htext⟩ := findName_of_mem hvalue hs hi hname
  have hbounded : bounded .users j userMax = .ok j := by
    rw [bounded, if_pos (by omega), Int.toNat_natCast]
  rw [userNameBranch, onCmd_of_get hget, hj]
  simp only [bind, Except.bind, hbounded, htext]
  exact ⟨{ s with i := j, index1 := j }, rfl, rfl⟩

/-- A branch that stores a number answers with the same number, and not with another one. -/
def Branch.AnswersStored : Branch → Prop
  | .int ref _ _ _ _ answered => answered = ref
  | _ => True

instance : DecidablePred Branch.AnswersStored
  | .int ref _ _ _ _ answered => decEq answered ref
  | .text .. | .chan _ | .osd _ | .recCfg .. | .constant _ | .constantText _ | .shown _
  | .shownText .. | .type | .chn | .subChn | .osdRegion | .wfsearchAccesspoints | .mdArea
  | .userOptType | .vdmaskNO | .frameRate | .bitRate | .ipInterval | .width | .height
  | .videoAddr | .synchronizationPoint | .fw | .videoResolutions | .encResolution | .nvrOpt
  | .nvrForIDR | .nvrClientID | .osdName | .netmask | .macaddr | .serialNumber
  | .wfsearchEssid | .dstmode | .ntpenable | .systime | .devtype | .userName | .userPassword
  | .userGroup | .ptzstring | .vx | .vy | .vzoom | .stop | .gotoPreset | .preset | .presetname
  | .deletepreset | .allpresets | .defaultTimeout | .reset | .reboot | .protocol
  | .snapshotStart | .cldEnable | .recEnable | .ignored => instDecidableTrue

/-- Every `key` answers with the number that it stores, but for `netDhcpflag` and `netNettype`. -/
theorem Key.answersStored_iff (key : Key) :
  key.branch.AnswersStored ↔ key ≠ .netDhcpflag ∧ key ≠ .netNettype
  := by
  cases key
  all_goals decide

/-- The branch for the names of the users is that of one `key` only. -/
theorem Key.eq_userName (h : key.branch = .userName) : key = .userName := by
  cases key
  case userName => rfl
  all_goals contradiction

/-! ### What the branches answer -/

section

variable {f : IntField} {g : StrField} {v : Int} {t : List Char} {tg : Target}

/-- A session that asks, by `T_Get`, does not set. -/
theorem not_set_of_get (hget : s.cmdType = tGet) : s.cmdType ≠ tSet := by
  rw [hget]
  decide

/-- Asked for the number `shown`, the branch answers with the value `v` that it has. -/
theorem intBranch_get
    {ref shown : IntRef} {flag : CfgFile} {callees : List Callee} {hook : Hook} {label : Key}
    (hget : s.cmdType = tGet) (hf : shown.resolve s = .ok f) (hv : s.mem.int f = v) :
  intBranch ref flag callees hook label shown value s = s.reply label (decimal v)
  := by
  rw [intBranch, onCmd_of_get hget, hf]
  simp only [bind, Except.bind, hv]

/-- Asked for the string `g`, the branch answers with the text `t` in its buffer. -/
theorem textBranch_get
    {flag : CfgFile} {hook : Hook} (hget : s.cmdType = tGet) (ht : text (s.mem.str g) = .ok t) :
  textBranch g flag hook key value s = s.reply key t
  := by
  rw [textBranch, onCmd_of_get hget]
  simp only [bind, Except.bind, ht]

/-- Asked for a number of the encoder configuration, the branch answers with the value `v` that the
field of the selected channel has. -/
theorem chanBranch_get
    {ref : ChanRef} (hget : s.cmdType = tGet) (hf : ref.resolve s = .ok f)
    (hv : s.mem.int f = v) :
  chanBranch ref key value s = s.reply key (decimal v)
  := by
  rw [chanBranch, onCmd_of_get hget, hf]
  simp only [bind, Except.bind, hv]

/-- Asked for the frame rate, the branch answers with the value `v` of the selected stream. -/
theorem frameRateBranch_get
    (hget : s.cmdType = tGet) (hf : (ChanRef.ubs .frameRate).resolve s = .ok f)
    (hv : s.mem.int f = v) :
  frameRateBranch value s = s.reply .frameRate (decimal v)
  := by
  rw [frameRateBranch, onCmd_of_get hget, hf]
  simp only [bind, Except.bind, hv]

/-- Asked for the bit rate, the branch answers with the thousands of the value `v` of the selected
stream. -/
theorem bitRateBranch_get
    (hget : s.cmdType = tGet) (hf : (ChanRef.ubs .bitRate).resolve s = .ok f)
    (hv : s.mem.int f = v) :
  bitRateBranch value s = s.reply .bitRate (decimal (v.tdiv 1000))
  := by
  rw [bitRateBranch, onCmd_of_get hget, hf]
  simp only [bind, Except.bind, hv]

/-- Asked for the interval of intra frames, the branch answers with the value `v` of the selected
stream. -/
theorem ipIntervalBranch_get
    (hget : s.cmdType = tGet) (hf : (ChanRef.ubs .ipInterval).resolve s = .ok f)
    (hv : s.mem.int f = v) :
  ipIntervalBranch value s = s.reply .ipInterval (decimal v)
  := by
  rw [ipIntervalBranch, onCmd_of_get hget, hf]
  simp only [bind, Except.bind, hv]

/-- Asked for a number of an OSD region of the table, the branch answers with its value `v`. -/
theorem osdBranch_get
    {field : OsdField} (hget : s.cmdType = tGet) (hin : Within s.osdRegion regionNum)
    (hv : s.mem.int (.osd s.osdRegion.toNat field) = v) :
  osdBranch field key value s = s.reply key (decimal v)
  := by
  rw [osdBranch, if_neg hin.not_out]
  simp only [onCmd_of_get hget, hv]

/-- Asked for the name of an OSD region of the table, the branch answers with the text `t` in its
buffer. -/
theorem osdNameBranch_get
    (hget : s.cmdType = tGet) (hin : Within s.osdRegion regionNum)
    (ht : text (s.mem.str (.osdName s.osdRegion.toNat)) = .ok t) :
  osdNameBranch value s = s.reply .osdRegionName t
  := by
  rw [osdNameBranch, if_neg hin.not_out]
  simp only [onCmd_of_get hget, bind, Except.bind, ht]

/-- Asked for a number of the record configuration, the branch answers with its value `v`. -/
theorem recBranch_get
    {field : RecField} {label : Key} (hget : s.cmdType = tGet)
    (hv : s.mem.int (.recCfg field) = v) :
  recBranch field label value s = s.reply label (decimal v)
  := by
  rw [recBranch, if_neg (not_set_of_get hget), hv]

/-- Asked whether recording is enabled, the branch answers with the number `v` that is stored. -/
theorem recEnableBranch_get
    (hget : s.cmdType = tGet) (hv : s.mem.int (.recCfg .enable) = v) :
  recEnableBranch value s = s.reply .recEnable (decimal v)
  := by
  rw [recEnableBranch, if_neg (not_set_of_get hget), hv]

/-- Asked for the frequency of the mains, the branch answers with its value `v`. -/
theorem fwBranch_get (hget : s.cmdType = tGet) (hv : s.mem.int .iFw = v) :
  fwBranch value s = s.reply .fw (decimal v)
  := by
  rw [fwBranch, onCmd_of_get hget, hv]

/-- Asked for the mask of the network, the branch answers with the text `t` in its buffer. -/
theorem netmaskBranch_get (hget : s.cmdType = tGet) (ht : text (s.mem.str .netmask) = .ok t) :
  netmaskBranch value s = s.reply .netNetmask t
  := by
  rw [netmaskBranch, onCmd_of_get hget]
  simp only [bind, Except.bind, ht]

/-- Asked for the mode of the daylight saving time, the branch answers with its value `v`. -/
theorem dstmodeBranch_get (hget : s.cmdType = tGet) (hv : s.mem.int (.time .dstmode) = v) :
  dstmodeBranch value s = s.reply .timeDstmode (decimal v)
  := by
  rw [dstmodeBranch, onCmd_of_get hget, hv]

/-- Asked whether the cloud is enabled, the branch answers with the number `v` that is stored. -/
theorem cldEnableBranch_get (hget : s.cmdType = tGet) (hv : s.mem.int .cloudEnable = v) :
  cldEnableBranch value s = s.reply .cldEnable (decimal v)
  := by
  rw [cldEnableBranch]
  simp only [onCmd_of_get hget, hv]

/-- A number of the encoder configuration that was set to `v` is found again by a session that has
the channel and the stream selected, and it has the value. -/
theorem ChanRef.resolve_asked
    {ref : ChanRef} (htarget : (ref.resolve s).toOption.map (·.target v) = some tg)
    (hav : s₂.avFile = s.avFile) (hsub : s₂.subChannel = s.subChannel)
    (hheld : tg.HeldBy s₂.mem) :
  ∃ f, tg = f.target v ∧ ref.resolve s₂ = .ok f ∧ s₂.mem.int f = f.cast v
  := by
  obtain ⟨f, hf, rfl⟩ := target_of_resolve htarget
  exact ⟨f, rfl, (ChanRef.resolve_congr _ hav hsub).trans hf, hheld⟩

/-- If a branch for an OSD region has a target, then the `region` is within the table. -/
theorem within_of_target
    {region : Int} {x : Target} (htarget : (if Within region regionNum then some x else none)
      = some tg) :
  Within region regionNum ∧ tg = x
  := by
  split at htarget
  · next hin => exact ⟨hin, (Option.some.inj htarget).symm⟩
  · contradiction

end

/-- A branch `b` that answers with the field that it stores, asked with the selectors with which a
value was set, gives an answer that shows the value. -/
theorem Branch.run_asked
    {b : Branch} {tg : Target} (env' : Env) (hvalue : nul ∉ value) (hs : s.mem.WellFormed)
    (hset : s.cmdType = tSet) (htarget : b.target value s = some tg)
    (h : b.run env key value s = .ok s₁) (hmarks : b.MarksItsFile) (hasks : Asks s₁ s₂)
    (hname : b = .userName → value' = value)
    (hsame : b.AnswersStored) :
  ∃ s' : Session, s'.pRet = s₂.pRet ∧
    b.run env' key value' s₂ = s'.reply (b.label key) (b.shows tg)
  := by
  have hheld := Branch.run_holds hvalue hs hset htarget h
  obtain ⟨hcursor, hregion⟩ := Branch.run_selection hmarks htarget h
  obtain ⟨hav, hsub, hindex, hregion⟩ := Asks.of_selection hcursor hregion hasks
  have hget := hasks.cmdType
  rw [← hasks.mem] at hheld
  cases b
  -- numbers that are found by the selectors
  case int ref flag callees hook label answered =>
    obtain rfl : answered = ref := hsame
    obtain ⟨f, hf, rfl⟩ := target_of_resolve htarget
    exact ⟨s₂, rfl, intBranch_get hget ((IntRef.resolve_congr _ hindex).trans hf) hheld⟩
  case chan ref =>
    obtain ⟨f, rfl, hf, hv⟩ := ChanRef.resolve_asked htarget hav hsub hheld
    exact ⟨s₂, rfl, chanBranch_get hget hf hv⟩
  case frameRate =>
    obtain ⟨f, rfl, hf, hv⟩ := ChanRef.resolve_asked htarget hav hsub hheld
    exact ⟨s₂, rfl, frameRateBranch_get hget hf hv⟩
  case bitRate =>
    obtain ⟨f, rfl, hf, hv⟩ := ChanRef.resolve_asked htarget hav hsub hheld
    exact ⟨s₂, rfl, bitRateBranch_get hget hf hv⟩
  case ipInterval =>
    obtain ⟨f, rfl, hf, hv⟩ := ChanRef.resolve_asked htarget hav hsub hheld
    exact ⟨s₂, rfl, ipIntervalBranch_get hget hf hv⟩
  case osd f =>
    obtain ⟨hin, rfl⟩ := within_of_target htarget
    rw [← hregion] at hin hheld
    exact ⟨s₂, rfl, osdBranch_get hget hin hheld⟩
  case osdName =>
    obtain ⟨hin, rfl⟩ := within_of_target htarget
    rw [← hregion] at hin hheld
    exact ⟨s₂, rfl, osdNameBranch_get hget hin hheld⟩
  -- members that are there once
  case text f flag hook =>
    obtain rfl := Option.some.inj htarget
    exact ⟨s₂, rfl, textBranch_get hget hheld⟩
  case netmask =>
    obtain rfl := Option.some.inj htarget
    exact ⟨s₂, rfl, netmaskBranch_get hget hheld⟩
  case recCfg f label =>
    obtain rfl := Option.some.inj htarget
    exact ⟨s₂, rfl, recBranch_get hget hheld⟩
  case recEnable =>
    obtain rfl := Option.some.inj htarget
    exact ⟨s₂, rfl, recEnableBranch_get hget hheld⟩
  case dstmode =>
    obtain rfl := Option.some.inj htarget
    exact ⟨s₂, rfl, dstmodeBranch_get hget hheld⟩
  case cldEnable =>
    obtain rfl := Option.some.inj htarget
    exact ⟨s₂, rfl, cldEnableBranch_get hget hheld⟩
  case fw =>
    simp only [Branch.target] at htarget
    split at htarget
    · obtain rfl := Option.some.inj htarget
      exact ⟨s₂, rfl, fwBranch_get hget hheld⟩
    · contradiction
  -- the users, who are looked up by their names
  case userName =>
    obtain rfl := hname rfl
    obtain ⟨i, hi, rfl, hterminated⟩ := userName_terminated hvalue hs hset htarget h
    rw [← hasks.mem] at hterminated
    apply userNameBranch_asked hvalue hget hterminated hi hheld
  all_goals exact nomatch htarget

/-- A branch that stores the field `f` of the network and answers with another one, `g`, does not
answer with what it has stored. -/
theorem intBranch_asked
    {f g : IntField} {flag : CfgFile} {tg : Target} (value' : List Char)
    (hfg : Field.int g ≠ .int f) (hset : s.cmdType = tSet)
    (htarget : Branch.target value s (.int (.field f) flag [] .nothing l (.field g)) = some tg)
    (h : intBranch (.field f) flag [] .nothing l (.field g) value s = .ok s₁)
    (hasks : Asks s₁ s₂) :
  tg = f.target (atoi value) ∧
  intBranch (.field f) flag [] .nothing l (.field g) value' s₂ =
    s₂.reply l (decimal (s.mem.int g))
  := by
  have hkept : s₁.mem.int g = s.mem.int g := by
    rw [intBranch, onCmd_of_set hset] at h
    obtain ⟨f', hf, h⟩ := bind_ok.mp h
    obtain rfl := Except.ok.inj hf
    split at h
    · obtain rfl := Except.ok.inj h
      apply Contents.setInt_of_ne hfg
    · obtain rfl := Except.ok.inj h
      rfl
  constructor
  · exact (Option.some.inj htarget).symm
  · rw [intBranch, onCmd_of_get hasks.cmdType, ← hkept, ← hasks.mem]
    rfl

/-! ### The round trip -/

/-- The computation `x` in the session `s` succeeds, and gives the answer `a`. -/
def Reports (a : Answer) (s : Session) (x : Except Fault Session) : Prop :=
  ∃ s' : Session, x = .ok s' ∧ s'.pRet = s.pRet ++ [a]

theorem reply_reports {t t' : List Char} (hs : s'.pRet = s.pRet) :
  Reports ⟨l, t⟩ s (s'.reply l t') ↔ t' = t ∧ (Answer.mk l t).render.length < cmdTmpSize
  := by
  unfold Session.reply Session.answer
  constructor
  · rintro ⟨s'', h, hret⟩
    split at h
    · next hlt =>
        obtain rfl := Except.ok.inj h
        simp only [hs, List.append_cancel_left_eq, List.cons.injEq, Answer.mk.injEq, true_and,
          and_true] at hret
        subst hret
        exact ⟨rfl, hlt⟩
    · contradiction
  · rintro ⟨rfl, hlt⟩
    rw [if_pos hlt]
    exact ⟨_, rfl, by simp only [hs]⟩

theorem decimal_inj {v w : Int} : decimal v = decimal w ↔ v = w := by
  unfold decimal
  rw [String.toList_inj]
  apply Int.repr_inj

/-- Asked right after a value has been set, and with the same selectors, a `key` reports the value
that was stored, unless it is one of the two that answer with another member, which does not hold
the value, or the answer is too long to be printed. -/
theorem Key.get_after_set
    {tg : Target} (env' : Env) (hvalue : nul ∉ value) (hs : s.mem.WellFormed) (hset : s.cmdType = tSet)
    (htarget : key.branch.target value s = some tg)
    (h : key.branch.run env key value s = .ok s₁) (hasks : Asks s₁ s₂)
    (hname : key = .userName → value' = value) :
  tg.HeldBy s₁.mem ∧
  (Reports ⟨key.branch.label key, key.branch.shows tg⟩ s₂ (key.branch.run env' key value' s₂) ↔
    (key = .netDhcpflag → s.mem.int .infradStat = atoi value) ∧
    (key = .netNettype → s.mem.int (.net .dnsstat) = toShort (atoi value)) ∧
    (Answer.mk (key.branch.label key) (key.branch.shows tg)).render.length < cmdTmpSize)
  := by
  refine ⟨Branch.run_holds hvalue hs hset htarget h, ?_⟩
  by_cases hdhcp : key = .netDhcpflag
  · subst hdhcp
    obtain ⟨rfl, hrun⟩ := intBranch_asked (g := .infradStat) value' (by simp) hset
      htarget h hasks
    change Reports ⟨.netDhcpflag, decimal (atoi value)⟩ s₂ (intBranch _ _ _ _ _ _ value' s₂) ↔ _
    rw [hrun, reply_reports rfl, decimal_inj]
    simp only [forall_const, reduceCtorEq, false_implies, true_and]
    rfl
  · by_cases hnet : key = .netNettype
    · subst hnet
      obtain ⟨rfl, hrun⟩ := intBranch_asked (g := .net .dnsstat) value' (by simp) hset
        htarget h hasks
      change Reports ⟨.netNettype, decimal (toShort (atoi value))⟩ s₂
        (intBranch _ _ _ _ _ _ value' s₂) ↔ _
      rw [hrun, reply_reports rfl, decimal_inj]
      simp only [forall_const, reduceCtorEq, false_implies, true_and]
      rfl
    · obtain ⟨s', hret, hrun⟩ := Branch.run_asked env' hvalue hs hset htarget h
        key.marksItsFile hasks (fun hb => hname (Key.eq_userName hb))
        (key.answersStored_iff.mpr ⟨hdhcp, hnet⟩)
      rw [hrun, reply_reports hret]
      simp only [hdhcp, hnet, false_implies, true_and]

/-- The pairs of a key that is set, of the type `T_Get`, and of the key again, one behind the
other: the field of the key holds the value that was stored, and the value is what is reported,
unless the key is one of the two that answer with another member, which does not hold the value,
or the answer is too long to be printed. -/
theorem set_then_get_iff
    {tg : Target} {k kType vGet : List Char} (env' : Env) (hvalue : nul ∉ value) (hs : s.mem.WellFormed)
    (hset : s.cmdType = tSet) (hkey : Key.ofCode (atoi k) = some key)
    (htype : Key.ofCode (atoi kType) = some .type) (hget : atoi vGet = tGet)
    (hname : key = .userName → value' = value) (htarget : key.branch.target value s = some tg)
    (h : processPairs env [(k, value)] s = .ok s₁) :
  tg.HeldBy s₁.mem ∧
  ((∃ t, processPairs env' [(kType, vGet), (k, value')] s₁ = .ok t ∧
      t.pRet = [⟨.type, decimal tGet⟩, ⟨key.branch.label key, key.branch.shows tg⟩]) ↔
    (key = .netDhcpflag → s.mem.int .infradStat = atoi value) ∧
    (key = .netNettype → s.mem.int (.net .dnsstat) = toShort (atoi value)) ∧
    (Answer.mk (key.branch.label key) (key.branch.shows tg)).render.length < cmdTmpSize)
  := by
  have hrun : key.branch.run env key value s = .ok s₁ := by
    obtain ⟨s', hs', h⟩ := processPairs_cons_some (c := s.cursor) hkey h
    obtain rfl := foldlM_nil_ok.mp h
    apply hs'
  let s₂ : Session :=
    { s₁ with cmdType := tGet, ylSet := false, pRet := [⟨.type, decimal tGet⟩] }
  have hle : ¬ tGet > 1 := by decide
  have htypeRun : typeBranch vGet s₁ = .ok s₂ := by
    simp only [typeBranch, hget, if_neg hle]
    rfl
  have hpairs : processPairs env' [(kType, vGet), (k, value')] s₁ =
      key.branch.run env' key value' s₂ := by
    simp only [processPairs, List.foldlM_cons, List.foldlM_nil, processPair, htype, hkey, bind_pure]
    change (typeBranch vGet s₁ >>= fun s => key.branch.run env' key value' s) = _
    rw [htypeRun]
    rfl
  have hasks : Asks s₁ s₂ := ⟨rfl, rfl, rfl, rfl, rfl, rfl⟩
  obtain ⟨hheld, hiff⟩ := Key.get_after_set env' hvalue hs hset htarget hrun hasks hname
  refine ⟨hheld, ?_⟩
  rw [← hiff, hpairs]
  rfl

/-- A session with the type `T_Set`, on a device with nothing configured. -/
def Session.setting : Session := { Session.start .idle .blank with cmdType := tSet }

/-- In `Contents.blank` all numbers are 0 and all strings empty, as the types of the members
allow. -/
theorem Contents.blank_wellFormed : Contents.blank.WellFormed where
  int := by
    intro f
    cases f
    case net f =>
      cases f
      all_goals rfl
    case time f =>
      cases f
      all_goals rfl
    case sys f =>
      cases f
      all_goals rfl
    all_goals rfl
  str := by
    intro f
    exact List.mem_replicate.mpr ⟨by decide, rfl⟩

/-- In one session the brightness is set to 7, and then reported as 7. -/
theorem set_then_get_brightness :
  ∃ s₁, processPairs .idle [("38".toList, "7".toList)] .setting = .ok s₁ ∧
    (Target.int (.img .brightness) 7).HeldBy s₁.mem ∧
    ∃ t, processPairs .idle [("0".toList, "0".toList), ("38".toList, [])] s₁ = .ok t ∧
      t.pRet = [⟨.type, decimal tGet⟩, ⟨.brightness, decimal 7⟩]
  := by
  have hok : (processPairs .idle [("38".toList, "7".toList)] .setting).toOption.isSome = true := by
    decide
  cases h : processPairs .idle [("38".toList, "7".toList)] .setting with
  | error fault =>
      rw [h] at hok
      contradiction
  | ok s₁ =>
      have htarget : (Key.branch .brightness).target "7".toList .setting =
          some (.int (.img .brightness) 7) := by decide
      have hget : atoi "0".toList = tGet := by decide
      have htype : Key.ofCode (atoi "0".toList) = some .type := by decide
      have hname : Key.brightness = .userName → [] = "7".toList := nofun
      obtain ⟨hheld, hiff⟩ := set_then_get_iff .idle (by decide) Contents.blank_wellFormed rfl
        (by decide) htype hget hname htarget h
      exact ⟨s₁, rfl, hheld, hiff.mpr ⟨nofun, nofun, by decide⟩⟩

/-- A request that sets the flag for DHCP to 1, and then asks for it. -/
def dhcpflagRequest : Request :=
  [("0".toList, "1".toList), ("66".toList, "1".toList), ("0".toList, "0".toList),
    ("66".toList, [])]

/-- By `dhcpflagRequest` the flag for DHCP is stored as 1, and reported as 0. -/
theorem set_then_get_dhcpflag :
  ∃ reply, processMsg .idle dhcpflagRequest .blank = .ok reply ∧
    reply.device.mem.int (.net .dhcpflag) = 1 ∧
    reply.rbuf = response [⟨.type, decimal 0⟩, ⟨.netDhcpflag, decimal 0⟩]
  := by
  have hok : (processMsg .idle dhcpflagRequest .blank).map
      (fun reply => (reply.device.mem.int (.net .dhcpflag), reply.rbuf)) =
      .ok (1, response [⟨.type, decimal 0⟩, ⟨.netDhcpflag, decimal 0⟩]) := by decide +kernel
  obtain ⟨reply, hreply, heq⟩ := map_ok.mp hok
  obtain ⟨hmem, hrbuf⟩ := Prod.mk.inj heq
  exact ⟨reply, hreply, hmem, hrbuf⟩

end Msg
