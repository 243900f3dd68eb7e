import Avserver.Msg.Effects
import Avserver.Msg.UserNames

/-!
# The settings of the time

A request may set the clock, by a command that contains the value, and may change the settings
for the server of the time, which is asked anew behind the loop then.  Both depend on what has
been set before: a value that is stored already is passed over.  So the commands for the clock are
those that the items of the request put out, along the settings as they are before each item
(`Device.times`), and the settings behind the request are computed from the items in the same way
(`Device.clock`).
-/

namespace Msg

open Library

variable {env : Env} {s s₁ s' t : Session} {x : Item} {req : Request} {d : Device}
  {value : List Char} {reply : Reply}

/-! ### The settings along the items -/

/-- The settings of the time, and whether those for the server have been `changed` in the
request. -/
structure Clock where
  sysTime : Except Fault (List Char)
  ntpserver : Except Fault (List Char)
  number : TimeField → Int
  changed : Bool

/-- The settings of the time that are stored in `c`, without a change so far. -/
def Contents.clock (c : Contents) : Clock where
  sysTime := text (c.str .sysTime)
  ntpserver := text (c.str .ntpserver)
  number := fun f => c.int (.time f)
  changed := false

namespace Clock

/-- A number `f` is set to `v` in the settings `u`; `counts` says whether this is a change for the
server. -/
def setNumber (u : Clock) (f : TimeField) (v : Int) (counts : Bool) : Clock :=
  { u with
    number := Function.update u.number f ((IntField.time f).cast v)
    changed := u.changed || (counts && decide (u.number f ≠ (IntField.time f).cast v)) }

/-- What a key makes of the settings `u` with the `value`, for `T_Set`. -/
def set (u : Clock) (value : List Char) : Key → Clock
  | .timeSystime => { u with sysTime := .ok value }
  | .timeNtpserver =>
      { u with
        ntpserver := .ok value
        changed := u.changed || decide (u.ntpserver ≠ .ok value) }
  | .timeZone => u.setNumber .timeZone (atoi value) false
  | .timeDstmode => u.setNumber .dstmode (atoi value) false
  | .timeNtpenable => u.setNumber .ntpenable (atoi value) true
  | .timeNtpinterval => u.setNumber .ntpinterval (atoi value) true
  | _ => u

/-- What an item `x` of a request makes of the settings `u`. -/
def step (u : Clock) (x : Item) : Clock :=
  if x.cursor.cmdType = tSet then u.set x.value x.key else u

/-- The time to which an item `x` sets the clock, if it does, from the settings `u`. -/
def sets (u : Clock) (x : Item) : List (List Char) :=
  if x.key = .timeSystime ∧ x.cursor.cmdType = tSet ∧ u.sysTime ≠ .ok x.value then [x.value]
  else []

end Clock

/-- The settings of the time behind all items of the request `req`, computed from the configuration
before it. -/
def Device.clock (d : Device) (req : Request) : Clock :=
  (d.items req).foldl Clock.step d.mem.clock

/-- The times to which the request `req` sets the clock, one after the other. -/
def Device.times (d : Device) (req : Request) : List (List Char) :=
  trace Clock.step Clock.sets d.mem.clock (d.items req)

/-! ### The session -/

/-- The session `s` has the settings `u` in its memory and in its count of changes. -/
structure Session.Clocked (s : Session) (u : Clock) : Prop where
  sysTime : text (s.mem.str .sysTime) = u.sysTime
  ntpserver : text (s.mem.str .ntpserver) = u.ntpserver
  number : ∀ f, s.mem.int (.time f) = u.number f
  changed : s.ntpserverCfg ≠ 0 ↔ u.changed = true

variable {u : Clock}

/-- If the fields of the time and the count of changes are left alone, the settings are those from
before. -/
theorem Session.Clocked.congr
    (hu : s.Clocked u) (hmem : ∀ f, f.file = some .sysTimer → s'.mem f = s.mem f)
    (hntp : s'.ntpserverCfg = s.ntpserverCfg) :
  s'.Clocked u
  := by
  constructor
  · exact (congrArg text (hmem (.str .sysTime) rfl)).trans hu.sysTime
  · exact (congrArg text (hmem (.str .ntpserver) rfl)).trans hu.ntpserver
  · intro f
    exact (hmem (.int (.time f)) rfl).trans (hu.number f)
  · rw [hntp, hu.changed]

/-- A string in `buf` is found equal to a `value` exactly when it is that value. -/
theorem strcmpEq_iff {buf : List Char} {b : Bool} (hvalue : nul ∉ value)
    (h : strcmpEq buf value = .ok b) :
  b = true ↔ text buf = .ok value
  := by
  constructor
  · rintro rfl
    apply text_of_strcmpEq h
  · intro htext
    rw [strcmpEq_of_mem hvalue (mem_of_text htext), htext] at h
    simpa using (Except.ok.inj h).symm

/-! ### The branches that store settings -/

/-- For `T_Set` the number `f` is set to the value, if that is another one, and `counts` says
whether this is counted; otherwise nothing is set. -/
def SetsNumber (f : IntField) (counts : Bool) (value : List Char) (s s' : Session) : Prop :=
  (s.cmdType = tSet ∧ s.mem.int f ≠ f.cast (atoi value)
    ∧ s'.mem = s.mem.setInt f (atoi value)
    ∧ s'.ntpserverCfg = s.ntpserverCfg + counts.toNat) ∨
  ((s.cmdType = tSet → s.mem.int f = f.cast (atoi value))
    ∧ s'.mem = s.mem ∧ s'.ntpserverCfg = s.ntpserverCfg)

/-- For `T_Set` the string `f` is set to the `value`, if that is another one, and this is counted;
otherwise nothing is set. -/
def SetsText (f : StrField) (value : List Char) (s s' : Session) : Prop :=
  (s.cmdType = tSet ∧ text (s.mem.str f) ≠ .ok value ∧ text (s'.mem.str f) = .ok value
    ∧ (∀ g, g ≠ .str f → s'.mem g = s.mem g) ∧ s'.ntpserverCfg = s.ntpserverCfg + 1) ∨
  ((s.cmdType = tSet → text (s.mem.str f) = .ok value)
    ∧ s'.mem = s.mem ∧ s'.ntpserverCfg = s.ntpserverCfg)

/-- An answer changes neither the memory nor the count of changes. -/
theorem reply_settings {key : Key} {t : List Char} (h : s.reply key t = .ok s') :
  s'.mem = s.mem ∧ s'.ntpserverCfg = s.ntpserverCfg
  := ⟨(reply_same h).2, reply_still.ntp _ h⟩

theorem setText_ntp {f : StrField} (h : s.setText f value = .ok s') :
  s'.ntpserverCfg = s.ntpserverCfg
  := setText_still.ntp _ h

theorem setText_text {f : StrField} (hvalue : nul ∉ value) (h : s.setText f value = .ok s') :
  text (s'.mem.str f) = .ok value
  := by
  obtain ⟨buf, hbuf, h⟩ := bind_ok.mp h
  obtain rfl := Except.ok.inj h
  have hself : (s.mem.setStr f buf).str f = buf := s.mem.str_setStr f buf
  rw [hself]
  apply text_strcpy hvalue hbuf

/-- A branch that compares the number `f`, sets it to another value for `T_Set` and answers for
`T_Get` has `SetsNumber`. -/
theorem setsNumber_of_onCmd
    {f : IntField} {counts : Bool} {v : Int} {key : Key} {t : List Char} (s₁ : Session)
    (hv : v = f.cast (atoi value)) (hmem : s₁.mem = s.mem.setInt f (atoi value))
    (hntp : s₁.ntpserverCfg = s.ntpserverCfg + counts.toNat)
    (h : s.onCmd (if s.mem.int f ≠ v then .ok s₁ else .ok s) (s.reply key t) = .ok s') :
  SetsNumber f counts value s s'
  := by
  subst hv
  obtain ⟨hcmd, h⟩ | ⟨hcmd, h | rfl⟩ := onCmd_set_or h
  · split at h
    · next hne =>
        obtain rfl := Except.ok.inj h
        exact Or.inl ⟨hcmd, hne, hmem, hntp⟩
    · next heq =>
        obtain rfl := Except.ok.inj h
        exact Or.inr ⟨fun _ => not_not.mp heq, rfl, rfl⟩
  · exact Or.inr ⟨fun hset => absurd hset hcmd, reply_settings h⟩
  · exact Or.inr ⟨fun hset => absurd hset hcmd, rfl, rfl⟩

theorem intBranch_setsNumber
    {f : IntField} {flag : CfgFile} {hook : Hook} {label : Key} (hf : f.cast = id)
    (h : intBranch (.field f) flag [] hook label (.field f) value s = .ok s') :
  SetsNumber f (decide (hook = .ntpserverCfg)) value s s'
  := by
  simp only [intBranch, IntRef.resolve, bind, Except.bind] at h
  apply setsNumber_of_onCmd _ _ _ _ h
  · rw [hf]
    rfl
  · apply Hook.run_mem
  · cases hook
    all_goals rfl

theorem ntpenableBranch_setsNumber (h : ntpenableBranch value s = .ok s') :
  SetsNumber (.time .ntpenable) true value s s'
  := setsNumber_of_onCmd _ (by rfl) (by rfl) (by rfl) h

theorem dstmodeBranch_setsNumber (h : dstmodeBranch value s = .ok s') :
  SetsNumber (.time .dstmode) false value s s'
  := setsNumber_of_onCmd _ (by rfl) (by rfl) (by rfl) h

theorem textBranch_setsText
    {f : StrField} {flag : CfgFile} {key : Key} (hvalue : nul ∉ value)
    (h : textBranch f flag .ntpserverCfg key value s = .ok s') :
  SetsText f value s s'
  := by
  obtain ⟨hcmd, h⟩ | ⟨hcmd, h | rfl⟩ := onCmd_set_or h
  · obtain ⟨b, hb, h⟩ := bind_ok.mp h
    have hiff := strcmpEq_iff hvalue hb
    split at h
    · next htrue =>
        obtain rfl := Except.ok.inj h
        exact Or.inr ⟨fun _ => hiff.mp htrue, rfl, rfl⟩
    · next hfalse =>
        obtain ⟨s₁, hs₁, h⟩ := bind_ok.mp h
        obtain rfl := Except.ok.inj h
        refine Or.inl ⟨hcmd, fun heq => hfalse (hiff.mpr heq), ?_, ?_, ?_⟩
        · apply setText_text hvalue hs₁
        · intro g hg
          apply (Session.setText_stores hs₁).mem g hg
        · have hntp : s₁.ntpserverCfg = s.ntpserverCfg := setText_ntp hs₁
          exact congrArg (· + 1) hntp
  · obtain ⟨t, -, h⟩ := bind_ok.mp h
    exact Or.inr ⟨fun hset => absurd hset hcmd, reply_settings h⟩
  · exact Or.inr ⟨fun hset => absurd hset hcmd, rfl, rfl⟩

/-- `e_time_systime` runs its command when it stores the `value`, and does nothing if that is what
is stored already. -/
theorem systimeBranch_sets
    (hvalue : nul ∉ value) (h : systimeBranch env value s = .ok s') :
  (s.cmdType = tSet ∧ text (s.mem.str .sysTime) ≠ .ok value
    ∧ text (s'.mem.str .sysTime) = .ok value ∧ (∀ g, g ≠ .str .sysTime → s'.mem g = s.mem g)
    ∧ s'.effects = s.effects ++ [.system (dateCommand value), .killThttpd]) ∨
  ((s.cmdType = tSet → text (s.mem.str .sysTime) = .ok value)
    ∧ s'.mem = s.mem ∧ s'.effects = s.effects)
  := by
  obtain ⟨hcmd, h⟩ | ⟨hcmd, h | rfl⟩ := onCmd_set_or h
  · obtain ⟨b, hb, h⟩ := bind_ok.mp h
    have hiff := strcmpEq_iff hvalue hb
    split at h
    · next htrue =>
        obtain rfl := Except.ok.inj h
        exact Or.inr ⟨fun _ => hiff.mp htrue, rfl, rfl⟩
    · next hfalse =>
        have hdate : "date -s \"".toList ++ value ++ "\" -u".toList = dateCommand value := rfl
        rw [hdate] at h
        generalize dateCommand value = command at h ⊢
        simp only at h
        split at h
        · refine Or.inl ⟨hcmd, fun heq => hfalse (hiff.mpr heq), setText_text hvalue h, ?_, ?_⟩
          · intro g hg
            rw [(Session.setText_stores h).mem g hg]
            rfl
          · rw [(setText_adds _ h).effects_eq]
            simp [Session.effect]
        · contradiction
  · refine Or.inr ⟨fun hset => absurd hset hcmd, (reply_settings h).1, ?_⟩
    apply (reply_adds _ h).effects_eq
  · exact Or.inr ⟨fun hset => absurd hset hcmd, rfl, rfl⟩

/-! ### The items -/

/-- The number of changes of the settings for the server is counted by their three keys only. -/
theorem Key.eq_of_notesNtp {key : Key} (h : key.branch.NotesNtp) :
  key = .timeNtpenable ∨ key = .timeNtpserver ∨ key = .timeNtpinterval
  := by
  cases key
  all_goals first
    | exact .inl rfl
    | exact .inr (.inl rfl)
    | exact .inr (.inr rfl)
    | cases h

/-- The keys that store settings of the time, all of them fields of one file. -/
def timeKeys : List Key :=
  [.timeZone, .timeDstmode, .timeNtpenable, .timeNtpserver, .timeNtpinterval, .timeSystime]

theorem Key.file_sysTimer {key : Key} {c : Cursor} (h : key.branch.file c = some .sysTimer) :
  key ∈ timeKeys
  := by
  have havfile {p : Prop} [Decidable p] :
      (if p then some c.avFile.cfgFile else none) ≠ some .sysTimer := by
    cases c.avFile
    all_goals simp [AvFile.cfgFile]
  cases key
  all_goals first
    | decide
    | exact absurd h havfile
    | cases h

theorem Key.loose_clock
    {key : Key} {c : Cursor} {f : Field} (hf : f.file = some .sysTimer)
    (h : key.branch.loose c f) :
  key ∈ timeKeys
  := by
  have havfile : some .sysTimer ≠ some c.avFile.cfgFile := by
    cases c.avFile
    all_goals simp [AvFile.cfgFile]
  cases key
  case timeSystime => decide
  case frameRate | bitRate | ipInterval => exact absurd (hf.symm.trans h.2.2) havfile
  case netMacaddr => exact absurd (hf.symm.trans h.2) (by decide)
  case sysDevtype => exact absurd (hf.symm.trans h.2) (by decide)
  case userName =>
    obtain ⟨-, i, rfl⟩ := h
    cases hf
  case snapshotStart =>
    obtain rfl := h
    cases hf
  all_goals cases h

/-- An item `x` whose key is none of `timeKeys` leaves the settings of the time alone. -/
theorem Item.run_untimed
    (hkey : x.key ∉ timeKeys) (h : x.run env s = .ok s') :
  (∀ f, f.file = some .sysTimer → s'.mem f = s.mem f) ∧ s'.ntpserverCfg = s.ntpserverCfg
  := by
  constructor
  · intro f hfile
    apply Branch.run_untouched x.key.marksItsFile _ _ _ h
    · rw [hfile]
      decide
    · intro hloose
      apply hkey (Key.loose_clock hfile hloose)
    · intro file hmarked heq
      obtain rfl := Option.some.inj (hfile.symm.trans heq)
      apply hkey (Key.file_sysTimer hmarked)
  · apply Branch.run_ntp _ _ h
    intro hnotes
    apply hkey
    obtain heq | heq | heq := Key.eq_of_notesNtp hnotes
    all_goals
      rw [heq]
      decide

/-- If a number of the settings is set, the session has the settings that `setNumber` computes. -/
theorem SetsNumber.clocked
    {f : TimeField} {counts : Bool} (h : SetsNumber (.time f) counts value s s')
    (hu : s.Clocked u) :
  s'.Clocked (if s.cmdType = tSet then u.setNumber f (atoi value) counts else u)
  := by
  obtain ⟨hset, hne, hmem, hntp⟩ | ⟨heq, hmem, hntp⟩ := h
  · have hother (g : Field) (hg : g ≠ .int (.time f)) : s'.mem g = s.mem g := by
      rw [hmem]
      apply Contents.setInt_of_ne hg
    rw [if_pos hset]
    rw [hu.number] at hne
    constructor
    · exact (congrArg text (hother (.str .sysTime) (by simp))).trans hu.sysTime
    · exact (congrArg text (hother (.str .ntpserver) (by simp))).trans hu.ntpserver
    · intro g
      by_cases hg : g = f
      · subst hg
        rw [hmem]
        apply Eq.trans (Function.update_self ..)
        simp [Clock.setNumber]
      · apply (hother (.int (.time g)) (by simp [hg])).trans
        apply (hu.number g).trans
        simp [Clock.setNumber, hg]
    · cases counts
      · simp [hntp, Clock.setNumber, hu.changed]
      · simp [hntp, Clock.setNumber, hne]
  · have hkept : s'.Clocked u := hu.congr (fun g _ => by rw [hmem]) hntp
    split
    · next hset =>
        have hsame : u.number f = (IntField.time f).cast (atoi value) :=
          (hu.number f).symm.trans (heq hset)
        simpa [Clock.setNumber, ← hsame] using hkept
    · apply hkept

/-- If the server for the time is set, the session has the settings that `set` computes. -/
theorem SetsText.clocked (h : SetsText .ntpserver value s s') (hu : s.Clocked u) :
  s'.Clocked (if s.cmdType = tSet then u.set value .timeNtpserver else u)
  := by
  obtain ⟨hset, hne, hself, hother, hntp⟩ | ⟨heq, hmem, hntp⟩ := h
  · rw [if_pos hset]
    rw [hu.ntpserver] at hne
    constructor
    · exact (congrArg text (hother (.str .sysTime) (by simp))).trans hu.sysTime
    · apply hself
    · intro f
      exact (hother (.int (.time f)) (by simp)).trans (hu.number f)
    · simp [hntp, Clock.set, hne]
  · have hkept : s'.Clocked u := hu.congr (fun g _ => by rw [hmem]) hntp
    split
    · next hset =>
        have hsame : u.ntpserver = .ok value := hu.ntpserver.symm.trans (heq hset)
        simpa [Clock.set, ← hsame] using hkept
    · apply hkept

theorem Clock.set_of_notMem {key : Key} (h : key ∉ timeKeys) : u.set value key = u := by
  cases key
  case timeZone | timeDstmode | timeNtpenable | timeNtpserver | timeNtpinterval | timeSystime =>
    exact absurd (by decide) h
  all_goals rfl

/-- An item `x` makes of the settings of the session what `step` computes from it. -/
theorem Item.run_clocked
    (hvalue : nul ∉ x.value) (hc : s.cursor = x.cursor) (hu : s.Clocked u)
    (h : x.run env s = .ok s') :
  s'.Clocked (u.step x)
  := by
  have hcmd : s.cmdType = x.cursor.cmdType := congrArg Cursor.cmdType hc
  rw [Clock.step, ← hcmd]
  by_cases hkey : x.key ∈ timeKeys
  · have hkeys : x.key = .timeZone ∨ x.key = .timeDstmode ∨ x.key = .timeNtpenable ∨
        x.key = .timeNtpserver ∨ x.key = .timeNtpinterval ∨ x.key = .timeSystime := by
      simpa [timeKeys] using hkey
    obtain heq | heq | heq | heq | heq | heq := hkeys
    all_goals
      rw [Item.run, heq] at h
      rw [heq]
    · apply (intBranch_setsNumber rfl h).clocked hu
    · apply (dstmodeBranch_setsNumber h).clocked hu
    · apply (ntpenableBranch_setsNumber h).clocked hu
    · apply (textBranch_setsText hvalue h).clocked hu
    · apply (intBranch_setsNumber rfl h).clocked hu
    · have hntp : s'.ntpserverCfg = s.ntpserverCfg := systimeBranch_still.ntp _ h
      obtain ⟨hset, -, hself, hother, -⟩ | ⟨htime, hmem, -⟩ := systimeBranch_sets hvalue h
      · rw [if_pos hset]
        constructor
        · apply hself
        · exact (congrArg text (hother (.str .ntpserver) (by simp))).trans hu.ntpserver
        · intro f
          exact (hother (.int (.time f)) (by simp)).trans (hu.number f)
        · exact hntp ▸ hu.changed
      · have hkept : s'.Clocked u := hu.congr (fun g _ => by rw [hmem]) hntp
        split
        · next hset =>
            have hsame : u.sysTime = .ok x.value := hu.sysTime.symm.trans (htime hset)
            simpa [Clock.set, ← hsame] using hkept
        · apply hkept
  · obtain ⟨hmem, hntp⟩ := Item.run_untimed hkey h
    rw [Clock.set_of_notMem hkey, ite_self]
    apply hu.congr hmem hntp

/-! ### The commands for the clock -/

/-- The command that the effect runs, if it is one that sets the clock, by `date`. -/
def Effect.dateText : Effect → Option (List Char)
  | .system command => if "date".toList.isPrefixOf command then some command else none
  | _ => none

/-- The commands that set the clock, among the effects of the session so far. -/
def Session.dates (s : Session) : List (List Char) := s.effects.filterMap Effect.dateText

theorem dateText_dateCommand (value : List Char) :
  Effect.dateText (.system (dateCommand value)) = some (dateCommand value)
  := rfl

/-- If the effects that are added are no commands for the clock, the `dates` are those from
before. -/
theorem Adds.dates (h : Adds (fun e => e.dateText = none) s s') : s'.dates = s.dates := by
  obtain ⟨es, hes, hnone⟩ := h
  rw [Session.dates, hes, List.filterMap_append, List.filterMap_eq_nil_iff.mpr hnone,
    List.append_nil]
  rfl

theorem Key.eq_systime {key : Key} (h : key.branch = .systime) : key = .timeSystime := by
  cases key
  case timeSystime => rfl
  all_goals cases h

/-- No branch `b` but that of `e_time_systime` runs a command for the clock. -/
theorem Branch.Emits.dateText
    {b : Branch} {c : Cursor} {e : Effect} (hb : b ≠ .systime) (h : b.Emits value c e) :
  e.dateText = none
  := by
  cases b
  case systime => contradiction
  case encResolution =>
    obtain ⟨arg, -, rfl⟩ := h
    rfl
  case int =>
    obtain ⟨callee, -, v, rfl⟩ := h
    rfl
  case nvrOpt =>
    obtain ⟨callee, -, args, rfl⟩ := h
    rfl
  case vzoom | stop | gotoPreset | deletepreset =>
    obtain ⟨command, arg, rfl⟩ := h
    rfl
  case reset =>
    obtain rfl | ⟨file, -, rfl⟩ := h
    · rfl
    · rfl
  case frameRate | bitRate | ipInterval | synchronizationPoint | fw | nvrForIDR | netmask
      | ptzstring | protocol =>
    obtain rfl := h
    rfl
  all_goals cases h

/-- An item `x` runs the commands for the clock that `sets` computes from it. -/
theorem Item.run_dates
    (hvalue : nul ∉ x.value) (hc : s.cursor = x.cursor) (hu : s.Clocked u)
    (h : x.run env s = .ok s') :
  s'.dates = s.dates ++ (u.sets x).map dateCommand
  := by
  have hcmd : s.cmdType = x.cursor.cmdType := congrArg Cursor.cmdType hc
  by_cases hkey : x.key = .timeSystime
  · rw [Item.run, hkey] at h
    rw [Clock.sets, ← hcmd, ← hu.sysTime]
    obtain ⟨hset, hne, -, -, heffects⟩ | ⟨htime, -, heffects⟩ := systimeBranch_sets hvalue h
    · rw [if_pos ⟨hkey, hset, hne⟩, Session.dates, heffects, List.filterMap_append]
      rfl
    · have hnot : ¬ (x.key = .timeSystime ∧ s.cmdType = tSet
          ∧ text (s.mem.str .sysTime) ≠ .ok x.value) :=
        fun hand => hand.2.2 (htime hand.2.1)
      rw [if_neg hnot, Session.dates, heffects, List.map_nil, List.append_nil]
      rfl
  · have hnot : ¬ (x.key = .timeSystime ∧ x.cursor.cmdType = tSet ∧ u.sysTime ≠ .ok x.value) :=
      fun hand => hkey hand.1
    rw [Clock.sets, if_neg hnot, List.map_nil, List.append_nil]
    apply ((Item.run_adds hc h).mono _).dates
    intro e he
    apply Branch.Emits.dateText _ he
    intro hb
    apply hkey (Key.eq_systime hb)

/-- The values of the items of a request of strings are strings, without an end in them. -/
theorem items_strings {n : Int} {c : Cursor} (hreq : Strings req) (hx : x ∈ items n c req) :
  nul ∉ x.value
  := by
  obtain ⟨pair, hmem, -, hvalue⟩ := exists_mem_of_mem_items hx
  rw [← hvalue]
  apply hreq pair hmem

theorem start_clocked (env : Env) (d : Device) : (Session.start env d).Clocked d.mem.clock where
  sysTime := rfl
  ntpserver := rfl
  number := fun _ => rfl
  changed := by simp [Session.start, Contents.clock]

/-- Behind the loop over the pairs the settings are those that `Device.clock` computes, and the
commands for the clock those of `Device.times`. -/
theorem processPairs_clock (hreq : Strings req) (h : processPairs env req (.start env d) = .ok t) :
  t.Clocked (d.clock req) ∧ t.dates = (d.times req).map dateCommand
  := by
  have htrace := processPairs_trace (g := Clock.step) (R := Session.Clocked)
    (o := fun u x => (u.sets x).map dateCommand)
    (fun s u x s' hx hc hu hrun =>
      have hvalue := items_strings hreq hx
      ⟨Item.run_clocked hvalue hc hu hrun, Item.run_dates hvalue hc hu hrun⟩)
    h (start_at env d) (start_clocked env d)
  rw [Device.times, map_trace]
  exact htrace

end Msg
