import Avserver.Msg.Effects
import Avserver.Rtspd.Frame

/-!
# The updates of the encoder

The frame rate, the bit rate and the IP interval of a stream are handed to the encoder by
`set_fps`, `set_bps` and `set_ip_int`.  These refuse a channel or a stream that does not exist;
the tests that they make of the value never fail, since no value is at once above and below the
range.

The dispatcher stores the value before it calls them and does not look at the result, so what
the encoder has refused is stored all the same (`Branch.refused_iff`).  The updates that the
pairs of a request make are computed from the pairs (`processPairs_updates`), and so are those
whose value is out of range (`processPairs_updates_inRange_iff`).
-/

namespace Msg

open Library
open Rtspd (channelError)

variable {env : Env} {s s' t : Session} {key : Key} {value : List Char} {doNotCare : Int}

/-! ### The setters -/

/-- What `ENC_UPDATE` is called with, for a channel and one of its streams: a value for each member,
which may stand for no change. -/
structure EncUpdate where
  channel : Int
  stream : Int
  streamEnable : Int
  frameRate : Int
  bitRate : Int
  ipInterval : Int
  /-- the value of all the other members -/
  others : Int
deriving DecidableEq

/-- The update that leaves everything as it is, where `GMVAL_DO_NOT_CARE` is the value of a
member that is not to be changed. -/
def EncUpdate.keep (doNotCare channel stream : Int) : EncUpdate :=
  ⟨channel, stream, 1, doNotCare, doNotCare, doNotCare, doNotCare⟩

/-- The result of a setter, and the update that it makes; the result of `ioctl` is not looked
at. -/
def encUpdate (channel subChannel : Int) (invalid : Bool) (u : EncUpdate) :
    Int × Option EncUpdate :=
  if channelError channel subChannel then (-1, none)
  else if invalid then (-1, none)
  else (0, some u)

/-- `set_fps` -/
def setFps (doNotCare channel subChannel val : Int) : Int × Option EncUpdate :=
  encUpdate channel subChannel (val > 30 && val < 4)
    { EncUpdate.keep doNotCare channel subChannel with frameRate := val }

/-- `set_ip_int` -/
def setIpInt (doNotCare channel subChannel val : Int) : Int × Option EncUpdate :=
  encUpdate channel subChannel (val > 150 && val < 25)
    { EncUpdate.keep doNotCare channel subChannel with ipInterval := val }

/-- `set_bps` -/
def setBps (doNotCare channel subChannel val : Int) : Int × Option EncUpdate :=
  encUpdate channel subChannel false
    { EncUpdate.keep doNotCare channel subChannel with bitRate := val }

/-- If the value is not `invalid`, then only the test of the channel and the stream is left of
`encUpdate`. -/
theorem encUpdate_eq {channel subChannel : Int} {invalid : Bool} {u : EncUpdate}
    (h : invalid = false) :
  encUpdate channel subChannel invalid u
    = if channelError channel subChannel then (-1, none) else (0, some u)
  := by
  subst h
  rfl

theorem setFps_eq (doNotCare channel subChannel val : Int) :
  setFps doNotCare channel subChannel val
    = if channelError channel subChannel then (-1, none)
      else (0, some { EncUpdate.keep doNotCare channel subChannel with frameRate := val })
  := by
  apply encUpdate_eq
  simp only [Bool.and_eq_false_imp, decide_eq_true_eq, decide_eq_false_iff_not]
  omega

theorem setIpInt_eq (doNotCare channel subChannel val : Int) :
  setIpInt doNotCare channel subChannel val
    = if channelError channel subChannel then (-1, none)
      else (0, some { EncUpdate.keep doNotCare channel subChannel with ipInterval := val })
  := by
  apply encUpdate_eq
  simp only [Bool.and_eq_false_imp, decide_eq_true_eq, decide_eq_false_iff_not]
  omega

theorem setBps_eq (doNotCare channel subChannel val : Int) :
  setBps doNotCare channel subChannel val
    = if channelError channel subChannel then (-1, none)
      else (0, some { EncUpdate.keep doNotCare channel subChannel with bitRate := val })
  := encUpdate_eq rfl

/-! ### The branches that update the encoder -/

/-- The update that the encoder gets by an effect, if it is a call of a setter that lets its value
through. -/
def Effect.update (doNotCare : Int) : Effect → Option EncUpdate
  | .call .setFps [c, sub, v] => (setFps doNotCare c sub v).2
  | .call .setBps [c, sub, v] => (setBps doNotCare c sub v).2
  | .call .setIpInt [c, sub, v] => (setIpInt doNotCare c sub v).2
  | _ => none

/-- The keys whose values are handed to the encoder by a setter: the frame rate, the bit rate and
the interval of intra frames. -/
def encoderKeys : List Key := [.frameRate, .bitRate, .ipInterval]

/-- The call of a setter by a branch, for `T_Set`: its result and the update that it makes. -/
def Branch.update (doNotCare : Int) (c : Cursor) (value : List Char) :
    Branch → Option (Int × Option EncUpdate)
  | .frameRate => some (setFps doNotCare c.channel c.subChannel (frameRateValue value))
  | .bitRate => some (setBps doNotCare c.channel c.subChannel (bitRateValue c.channel value))
  | .ipInterval => some (setIpInt doNotCare c.channel c.subChannel (atoi value))
  | _ => none

/-- The setter of a branch fails, with the result `r`, exactly when the channel or the stream does
not exist. -/
theorem Branch.update_error
    {b : Branch} {c : Cursor} {r : Int} {u : Option EncUpdate}
    (h : b.update doNotCare c value = some (r, u)) :
  r ≠ 0 ↔ channelError c.channel c.subChannel = true
  := by
  have hresult {v : EncUpdate}
      (h : (if channelError c.channel c.subChannel then ((-1 : Int), none) else (0, some v))
        = (r, u)) : r ≠ 0 ↔ channelError c.channel c.subChannel = true := by
    split at h
    · next herror =>
        obtain ⟨rfl, -⟩ := Prod.mk.inj h
        simp [herror]
    · next herror =>
        obtain ⟨rfl, -⟩ := Prod.mk.inj h
        simp [herror]
  cases b
  case frameRate =>
    apply hresult
    rw [← setFps_eq]
    apply Option.some.inj h
  case bitRate =>
    apply hresult
    rw [← setBps_eq]
    apply Option.some.inj h
  case ipInterval =>
    apply hresult
    rw [← setIpInt_eq]
    apply Option.some.inj h
  all_goals cases h

/-- If the stream selected is one that an encoder configuration has a place for, a member `f` of it
is resolved to its field. -/
theorem ChanRef.resolve_ubs {f : UbsField} (h : Within s.subChannel maxUpdateSubChn) :
  (ChanRef.ubs f).resolve s = .ok ((ChanRef.ubs f).field s.cursor)
  := by
  simp only [ChanRef.resolve, h.bounded, Except.map]
  rfl

/-- If the stream has the value `v` already, `streamBranch` does nothing. -/
theorem streamBranch_stored
    {f : UbsField} {callee : Callee} {v : Int} (hsub : Within s.subChannel maxUpdateSubChn)
    (h : s.mem.int ((ChanRef.ubs f).field s.cursor) = v) :
  streamBranch f callee v s = .ok s
  := bind_ok.mpr ⟨_, ChanRef.resolve_ubs hsub, if_neg (not_not.mpr h)⟩

/-- `streamBranch` succeeds without a change of the encoder configurations exactly when the stream
has a place in one and holds the value `v` already. -/
theorem streamBranch_same_iff {f : UbsField} {callee : Callee} {v : Int} :
  (∃ s', streamBranch f callee v s = .ok s' ∧ ∀ a, SameOn a s s') ↔
    Within s.subChannel maxUpdateSubChn ∧ s.mem.int ((ChanRef.ubs f).field s.cursor) = v
  := by
  constructor
  · rintro ⟨s', hs', hsame⟩
    constructor
    · apply streamBranch_selects.ok s' hs'
    · have hsets := streamBranch_sets hs'
      rw [← hsets.mem_self]
      apply ((hsame s.avFile).mem (.int ((ChanRef.ubs f).field s.cursor)) hsets.file).symm
  · rintro ⟨hsub, hv⟩
    use s, streamBranch_stored hsub hv
    intro a
    apply SameOn.refl

/-- A branch of `encoderKeys`, for `T_Set`, is `streamBranch` with the member, the setter and the
number that it hands to the encoder. -/
theorem Branch.encoder_run
    (env : Env) (doNotCare : Int) (value : List Char) (hkey : key ∈ encoderKeys)
    (hset : s.cmdType = tSet) :
  ∃ f callee v u, key.branch.update doNotCare s.cursor value = some u ∧
    (Effect.call callee [s.channel, s.subChannel, v]).update doNotCare = u.2 ∧
    key.branch.write s.cursor value = some ((ChanRef.ubs f).field s.cursor, v) ∧
    key.branch.run env key value s = streamBranch f callee v s
  := by
  have hcmd {set get : Except Fault Session} : s.onCmd set get = set := if_pos hset
  simp only [encoderKeys, List.mem_cons, List.not_mem_nil, or_false] at hkey
  obtain rfl | rfl | rfl := hkey
  · exact ⟨.frameRate, .setFps, _, _, rfl, rfl, rfl, hcmd⟩
  · exact ⟨.bitRate, .setBps, _, _, rfl, rfl, rfl, hcmd⟩
  · exact ⟨.ipInterval, .setIpInt, _, _, rfl, rfl, rfl, hcmd⟩

/-- A value that the encoder refuses is kept out of the configurations exactly when it is there
already, in the stream selected: it is stored before the encoder is called. -/
theorem Branch.refused_iff (hkey : key ∈ encoderKeys) (hset : s.cmdType = tSet) :
  (∀ r u, key.branch.update doNotCare s.cursor value = some (r, u) → r ≠ 0 →
    ∃ s', key.branch.run env key value s = .ok s' ∧ ∀ a, SameOn a s s') ↔
  (channelError s.channel s.subChannel = true →
    Within s.subChannel maxUpdateSubChn ∧
      ∀ f v, key.branch.write s.cursor value = some (f, v) → s.mem.int f = v)
  := by
  obtain ⟨f, callee, v, ⟨r, u⟩, hupdate, -, hwrite, hrun⟩ :=
    Branch.encoder_run env doNotCare value hkey hset
  have herror := Branch.update_error hupdate
  constructor
  · intro h hchannel
    obtain ⟨s', hs', hsame⟩ := h r u hupdate (herror.mpr hchannel)
    rw [hrun] at hs'
    obtain ⟨hsub, hv⟩ := streamBranch_same_iff.mp ⟨s', hs', hsame⟩
    use hsub
    intro f' v' hwrite'
    obtain ⟨rfl, rfl⟩ := Prod.mk.inj (Option.some.inj (hwrite.symm.trans hwrite'))
    apply hv
  · intro h r' u' hupdate' hr
    obtain ⟨rfl, rfl⟩ := Prod.mk.inj (Option.some.inj (hupdate.symm.trans hupdate'))
    obtain ⟨hsub, hv⟩ := h (herror.mp hr)
    rw [hrun]
    apply streamBranch_same_iff.mpr ⟨hsub, hv _ _ hwrite⟩

/-- A session with the type `T_Set` that sets values of the main stream of channel 1. -/
def Session.onChannel1 : Session :=
  { Session.start .idle .blank with cmdType := tSet, channel := 1 }

/-- In the session `onChannel1` the encoder does not refuse a frame rate of 10. -/
theorem Branch.refused_iff_channel1 :
  channelError Session.onChannel1.channel Session.onChannel1.subChannel = false ∧
  ∀ r u, Key.frameRate.branch.update 0 Session.onChannel1.cursor "10".toList = some (r, u) →
    r ≠ 0 → ∃ s', Key.frameRate.branch.run .idle .frameRate "10".toList Session.onChannel1 = .ok s' ∧
      ∀ a, SameOn a Session.onChannel1 s'
  := ⟨by decide, (Branch.refused_iff (by decide) rfl).mpr fun h => absurd h (by decide)⟩

/-- A frame rate for the channel -1 is refused by the encoder, and is stored for channel 1. -/
theorem refused_frameRate_stored :
  ∃ reply, processMsg .idle [("0".toList, "1".toList), ("14".toList, "10".toList)] .blank
      = .ok reply ∧
    Effect.call .setFps [-1, 0, 10] ∈ reply.effects ∧
    (∀ doNotCare, (setFps doNotCare (-1) 0 10).1 = -1) ∧
    Device.blank.mem.int (.ubs .av1 0 .frameRate) = 0 ∧
    reply.device.mem.int (.ubs .av1 0 .frameRate) = 10 ∧
    Effect.writeCfgFile .enc1 ∈ reply.effects
  := by
  have hok : (processMsg .idle [("0".toList, "1".toList), ("14".toList, "10".toList)] .blank).map
      (fun reply => (reply.effects, reply.device.mem.int (.ubs .av1 0 .frameRate)))
      = .ok ([.call .setFps [-1, 0, 10], .writeCfgFile .enc1], 10) := by decide +kernel
  obtain ⟨reply, hreply, heq⟩ := map_ok.mp hok
  obtain ⟨heffects, hrate⟩ := Prod.mk.inj heq
  refine ⟨reply, hreply, ?_, fun _ => rfl, rfl, hrate, ?_⟩
  · simp [heffects]
  · simp [heffects]

/-! ### The updates of a request -/

/-- The updates that the encoder has got so far, by the effects of the session `s`. -/
def Session.updates (doNotCare : Int) (s : Session) : List EncUpdate :=
  s.effects.filterMap (Effect.update doNotCare)

/-- If the effects that are added are no updates, the `updates` are those from before. -/
theorem Adds.updates
    {P : Effect → Prop} (h : Adds P s s') (hP : ∀ e, P e → e.update doNotCare = none) :
  s'.updates doNotCare = s.updates doNotCare
  := by
  obtain ⟨es, hes, hPes⟩ := h
  have hnone : es.filterMap (Effect.update doNotCare) = [] := by
    apply List.filterMap_eq_nil_iff.mpr
    intro e he
    apply hP e (hPes e he)
  simp only [Session.updates, hes, List.filterMap_append, hnone, List.append_nil]

/-- The update that an item makes, if it changes the number that it sets, where the numbers are
`m`. -/
def Item.updates (doNotCare : Int) (m : IntField → Int) (x : Item) : List EncUpdate :=
  match x.key.branch.update doNotCare x.cursor x.value with
  | some (_, u) =>
      match x.write with
      | some (f, v) => if m f ≠ v then u.toList else []
      | none => []
  | none => []

/-- A branch `b` that calls no setter emits no update. -/
theorem Branch.emits_update
    {b : Branch} {c : Cursor} {e : Effect} (hb : b.update doNotCare c value = none)
    (h : b.Emits value c e) :
  e.update doNotCare = none
  := by
  cases b
  case frameRate | bitRate | ipInterval => cases hb
  case int =>
    obtain ⟨callee, -, v, rfl⟩ := h
    cases callee
    all_goals rfl
  case nvrOpt =>
    obtain ⟨callee, hcallee, args, rfl⟩ := h
    simp only [List.mem_cons, List.not_mem_nil, or_false] at hcallee
    obtain rfl | rfl := hcallee
    · rfl
    · rfl
  case encResolution =>
    obtain ⟨arg, -, rfl⟩ := h
    rfl
  case vzoom | stop | gotoPreset | deletepreset =>
    obtain ⟨command, arg, rfl⟩ := h
    rfl
  case systime =>
    obtain rfl | rfl := h
    · rfl
    · rfl
  case reset =>
    obtain rfl | ⟨file, -, rfl⟩ := h
    · rfl
    · rfl
  all_goals first
    | (obtain rfl := h; rfl)
    | cases h

/-- `streamBranch` adds the update of its setter, if the number `v` is not the one that the stream
has already. -/
theorem streamBranch_updates
    {f : UbsField} {callee : Callee} {v : Int} (h : streamBranch f callee v s = .ok s') :
  s'.updates doNotCare = s.updates doNotCare ++
    if s.mem.int ((ChanRef.ubs f).field s.cursor) ≠ v then
      ((Effect.call callee [s.channel, s.subChannel, v]).update doNotCare).toList
    else []
  := by
  obtain ⟨g, hg, h⟩ := bind_ok.mp h
  obtain rfl := ChanRef.resolve_ok hg
  split at h
  · next hne =>
      have heffects : s'.effects = s.effects ++ [.call callee [s.channel, s.subChannel, v]] := by
        obtain rfl := Except.ok.inj h
        split
        · rfl
        · rfl
      rw [if_pos hne, Session.updates, heffects, List.filterMap_append]
      simp only [Session.updates, List.filterMap_cons, List.filterMap_nil]
      cases (Effect.call callee [s.channel, s.subChannel, v]).update doNotCare
      · rfl
      · rfl
  · next heq =>
      obtain rfl := Except.ok.inj h
      rw [if_neg heq, List.append_nil]

/-- The branches of `encoderKeys` add no effect for commands other than `T_Set`. -/
theorem Branch.encoder_quiet
    {P : Effect → Prop} (hkey : key ∈ encoderKeys) (hset : s.cmdType ≠ tSet) :
  AddsOnly P s (key.branch.run env key value s)
  := by
  have hcmd {set get : Except Fault Session} (hget : AddsOnly P s get) :
      AddsOnly P s (s.onCmd set get) := by
    rw [Session.onCmd, if_neg hset]
    apply ite_adds hget (ok_adds rfl)
  simp only [encoderKeys, List.mem_cons, List.not_mem_nil, or_false] at hkey
  obtain rfl | rfl | rfl := hkey
  · apply hcmd (after_adds fun _ => reply_adds)
  · apply hcmd (after_adds fun _ => reply_adds)
  · apply hcmd (after_adds fun _ => reply_adds)

variable {x : Item} {m : IntField → Int}

theorem Branch.update_eq_none {key : Key} {c : Cursor} (hkey : key ∉ encoderKeys) :
  key.branch.update doNotCare c value = none
  := by
  cases key
  case frameRate | bitRate | ipInterval => simp [encoderKeys] at hkey
  all_goals rfl

/-- The updates that an item `x` makes are those that `Item.updates` computes from the numbers `m`
before it. -/
theorem Item.run_updates
    (hm : ∀ a : AvFile, ∀ f, f.file = some a.cfgFile → s.mem.int f = m f)
    (hc : s.cursor = x.cursor) (h : x.run env s = .ok s') :
  s'.updates doNotCare = s.updates doNotCare ++ x.updates doNotCare m
  := by
  by_cases hkey : x.key ∈ encoderKeys
  · by_cases hset : s.cmdType = tSet
    · obtain ⟨f, callee, v, ⟨r, u⟩, hupdate, hcall, hwrite, hrun⟩ :=
        Branch.encoder_run env doNotCare x.value hkey hset
      rw [Item.run, hrun] at h
      have hset' : x.cursor.cmdType = tSet := by
        rw [← hc]
        apply hset
      rw [hc] at hupdate hwrite
      have hitem : x.write = some ((ChanRef.ubs f).field x.cursor, v) := by
        rw [Item.write, if_pos hset', hwrite]
      rw [streamBranch_updates h, hcall, hm s.avFile _ ((ChanRef.ubs f).file_field s), hc]
      simp only [Item.updates, hitem, hupdate]
    · have hset' : x.cursor.cmdType ≠ tSet := by
        rw [← hc]
        apply hset
      rw [(Branch.encoder_quiet (P := fun _ => False) hkey hset s' h).updates fun _ => False.elim]
      have hitem : x.write = none := if_neg hset'
      simp only [Item.updates, hitem]
      split
      · rw [List.append_nil]
      · rw [List.append_nil]
  · have hnone := @Branch.update_eq_none x.value doNotCare x.key x.cursor hkey
    rw [(Item.run_adds hc h).updates fun e => Branch.emits_update hnone]
    simp only [Item.updates, hnone, List.append_nil]

variable {req : Request} {d : Device}

/-- The updates that the loop makes are those of the items, each with the numbers that the items
before it have left. -/
theorem processPairs_updates (h : processPairs env req (.start env d) = .ok t) :
  t.updates doNotCare
    = trace (fun m x => x.entry.apply env.defaults.int m) (Item.updates doNotCare)
        d.mem.int (d.items req)
  := by
  have htrace := processPairs_trace (o := Item.updates doNotCare)
    (g := fun m x => x.entry.apply env.defaults.int m)
    (R := fun t m => ∀ a : AvFile, ∀ f, f.file = some a.cfgFile → t.mem.int f = m f)
    (fun s m x s' _ hc hm hrun => ⟨Item.run_entry hm hc hrun, Item.run_updates hm hc hrun⟩)
    h (start_at env d) (fun _ _ _ => rfl)
  apply htrace.2

/-- What follows the loop, `finish`, makes no update. -/
theorem finish_updates (h : finish env s = .ok s') : s'.updates doNotCare = s.updates doNotCare := by
  apply (finish_adds h).updates
  intro e he
  cases e
  case call => cases he
  all_goals rfl

/-! ### The range of the updates -/

/-- The members of the update `u` that are to be changed are in range: a frame rate from 4 to 30,
and an interval from 25 to 150. -/
def EncUpdate.InRange (doNotCare : Int) (u : EncUpdate) : Prop :=
  (u.frameRate = doNotCare ∨ 4 ≤ u.frameRate ∧ u.frameRate ≤ 30) ∧
    (u.ipInterval = doNotCare ∨ 25 ≤ u.ipInterval ∧ u.ipInterval ≤ 150)

/-- The item reaches the encoder with its value, where the numbers are `m`: its channel and its
stream are there, and the value is not the one that the stream has already. -/
def Item.Reaches (m : IntField → Int) (x : Item) : Prop :=
  channelError x.cursor.channel x.cursor.subChannel = false ∧
    ∃ f v, x.write = some (f, v) ∧ m f ≠ v

/-- The value of the item `x` is one that the setter is to let through, for the frame rate and the
interval of intra frames. -/
def Item.Allowed (doNotCare : Int) (x : Item) : Prop :=
  (x.key = .frameRate → frameRateValue x.value = doNotCare ∨ atoi x.value ≤ 30) ∧
    (x.key = .ipInterval → atoi x.value = doNotCare ∨ 25 ≤ atoi x.value ∧ atoi x.value ≤ 150)

theorem frameRateValue_inRange :
  4 ≤ frameRateValue value ∧ frameRateValue value ≤ 30 ↔ atoi value ≤ 30
  := by
  unfold frameRateValue minSetFps
  grind

/-- A property `P` holds of the updates of an item exactly if it holds of the one with its value, or
this does not reach the encoder. -/
theorem Item.forall_updates
    {P : EncUpdate → Prop} {u : EncUpdate}
    (hupdate : x.key.branch.update doNotCare x.cursor x.value
      = some (if channelError x.cursor.channel x.cursor.subChannel then (-1, none)
        else (0, some u))) :
  (∀ u' ∈ x.updates doNotCare m, P u') ↔ (x.Reaches m → P u)
  := by
  simp only [Item.updates, hupdate, Item.Reaches]
  cases hwrite : x.write with
  | none => simp
  | some fv =>
      obtain ⟨f, v⟩ := fv
      by_cases hne : m f ≠ v
      · cases channelError x.cursor.channel x.cursor.subChannel
        · simp [hne]
        · simp [hne]
      · simp [not_not.mp hne]

/-- The updates of an item are in range exactly when its value is `Allowed`, or does not reach the
encoder. -/
theorem Item.updates_inRange :
  (∀ u ∈ x.updates doNotCare m, u.InRange doNotCare) ↔ (x.Reaches m → x.Allowed doNotCare)
  := by
  obtain ⟨c, key, value⟩ := x
  by_cases hkey : key ∈ encoderKeys
  · simp only [encoderKeys, List.mem_cons, List.not_mem_nil, or_false] at hkey
    obtain rfl | rfl | rfl := hkey
    · apply (Item.forall_updates (by exact congrArg some (setFps_eq ..))).trans
      apply imp_congr_right
      intro _
      simp [EncUpdate.InRange, EncUpdate.keep, Item.Allowed, frameRateValue_inRange]
    · apply (Item.forall_updates (by exact congrArg some (setBps_eq ..))).trans
      apply imp_congr_right
      intro _
      simp [EncUpdate.InRange, EncUpdate.keep, Item.Allowed]
    · apply (Item.forall_updates (by exact congrArg some (setIpInt_eq ..))).trans
      apply imp_congr_right
      intro _
      simp [EncUpdate.InRange, EncUpdate.keep, Item.Allowed]
  · have hnone := @Branch.update_eq_none value doNotCare key c hkey
    constructor
    · rintro - -
      constructor
      · rintro rfl
        exact absurd (by decide) hkey
      · rintro rfl
        exact absurd (by decide) hkey
    · intro _ u hu
      simp only [Item.updates, hnone] at hu
      cases hu

/-- Every update that the loop makes is in range exactly when every item whose value `Reaches` the
encoder has one that is `Allowed`. -/
theorem processPairs_updates_inRange_iff (h : processPairs env req (.start env d) = .ok t) :
  ((∀ u ∈ t.updates doNotCare, u.InRange doNotCare) ↔
    ∀ pre x post, d.items req = pre ++ x :: post →
      x.Reaches (replay env.defaults.int d.mem.int (pre.map Item.entry)) →
      x.Allowed doNotCare) ∧
  ∀ s', finish env t = .ok s' → s'.updates doNotCare = t.updates doNotCare
  := by
  refine ⟨?_, fun s' => finish_updates⟩
  rw [processPairs_updates h, forall_mem_trace]
  apply forall_congr'
  intro pre
  apply forall_congr'
  intro x
  apply forall_congr'
  intro post
  apply imp_congr_right
  intro _
  rw [Item.updates_inRange, replay, List.foldl_map]

/-- A request that sets the frame rate of the main stream of the first channel to `fps`. -/
def fpsRequest (fps : String) : Request :=
  [("0".toList, "1".toList), ("1".toList, "0".toList), ("14".toList, fps.toList)]

theorem processPairs_updates_inRange_iff_fps20 :
  ∃ t, processPairs .idle (fpsRequest "20") (.start .idle .blank) = .ok t ∧
    (∀ u ∈ t.updates (-1), u.InRange (-1)) ∧
    ∀ pre x post, Device.blank.items (fpsRequest "20") = pre ++ x :: post →
      x.Reaches (replay Env.idle.defaults.int Device.blank.mem.int (pre.map Item.entry)) →
      x.Allowed (-1)
  := by
  have hok : (processPairs .idle (fpsRequest "20") (.start .idle .blank)).map
      (Session.updates (-1)) = .ok [{ EncUpdate.keep (-1) 0 0 with frameRate := 20 }] := by
    decide +kernel
  obtain ⟨t, ht, hupdates⟩ := map_ok.mp hok
  have hin : ∀ u ∈ t.updates (-1), u.InRange (-1) := by
    rw [hupdates]
    simp [EncUpdate.InRange, EncUpdate.keep]
  exact ⟨t, ht, hin, (processPairs_updates_inRange_iff ht).1.mp hin⟩

/-- A frame rate of 50, above the range, reaches the encoder by `fpsRequest`. -/
theorem frameRate_update_out_of_range :
  ∃ t, processPairs .idle (fpsRequest "50") (.start .idle .blank) = .ok t ∧
    t.updates (-1) = [{ EncUpdate.keep (-1) 0 0 with frameRate := 50 }] ∧
    ¬ ∀ u ∈ t.updates (-1), u.InRange (-1)
  := by
  have hok : (processPairs .idle (fpsRequest "50") (.start .idle .blank)).map
      (Session.updates (-1)) = .ok [{ EncUpdate.keep (-1) 0 0 with frameRate := 50 }] := by
    decide +kernel
  obtain ⟨t, ht, hupdates⟩ := map_ok.mp hok
  refine ⟨t, ht, hupdates, ?_⟩
  rw [hupdates]
  simp [EncUpdate.InRange, EncUpdate.keep]

end Msg
