import Avserver.Library.Run
import Avserver.Library.Shell
import Avserver.Msg.Clock
import Avserver.Msg.Restart

/-!
# Text of clients in the commands of the shell

Two kinds of commands contain text of a client.  The time that a client sets stands between double
quotes in the command that sets the clock.  The server for the time stands, without quotes, in the
commands that ask it: behind the request that changes the settings for it, and behind every
restart, if the client for the time is enabled.  No value is checked before it is stored or run.

So text of clients stays data in the commands of a run exactly when each time that is set is data
between double quotes, and the server is data without quotes where it is asked
(`text_stays_data_iff`).
-/

namespace Msg

open Library

variable {env : Env} {s s' t : Session} {e : Effect} {req : Request} {d d' : Device}
  {value server options : List Char} {reply : Reply}

/-! ### The commands -/

/-- A command that is passed to `system`: one with nothing of a client in it, the one that sets the
clock, or one that asks a server for the time. -/
inductive Command where
  | own (t : List Char)
  | date (value : List Char)
  | ntpclient (server options : List Char)
deriving DecidableEq

/-- The parts of a command: the program's own text, and what clients have given. -/
def Command.parts : Command → List CommandPart
  | .own t => [.own t]
  | .date value => [.own "date -s \"".toList, .given value, .own "\" -u".toList]
  | .ntpclient server options =>
      [.own "/mnt/mtd/ntpclient -h ".toList, .given server,
        .own (" -s ".toList ++ options ++ " &".toList)]

/-- The text of the command `c` as it is passed to the shell. -/
def Command.text (c : Command) : List Char := commandText c.parts

/-- In the command `c` text of a client is data, from the quoting at its beginning on. -/
def Command.KeepsData (c : Command) : Prop := Quoting.bare.KeepsData c.parts

instance (c : Command) : Decidable c.KeepsData :=
  inferInstanceAs (Decidable (Quoting.bare.KeepsData c.parts))

theorem Command.text_own (t : List Char) : (Command.own t).text = t := commandText_own

theorem Command.text_date (value : List Char) : (Command.date value).text = dateCommand value :=
  commandText_given

theorem Command.text_ntpclient (server options : List Char) :
  (Command.ntpclient server options).text = Msg.ntpclient server options
  := by
  have hassoc (s t u v w : List Char) : s ++ t ++ (u ++ v ++ w) = s ++ t ++ u ++ v ++ w := by simp
  apply commandText_given.trans
  apply hassoc

theorem Command.own_keepsData (t : List Char) : (Command.own t).KeepsData := Quoting.keepsData_own

/-- In the command that sets the clock the time stands between double quotes, so it is data exactly
if it is data there. -/
theorem Command.date_keepsData : (Command.date value).KeepsData ↔ Quoting.double.Data value :=
  Quoting.keepsData_given

/-- In the command that asks for the time the server stands without quotes, so it is data exactly if
it is data there. -/
theorem Command.ntpclient_keepsData :
  (Command.ntpclient server options).KeepsData ↔ Quoting.bare.Data server
  := Quoting.keepsData_given

/-- The command with the text `t`: one of the `known` ones, in which text of clients is, or an own
one. -/
def Command.ofText (known : List Command) (t : List Char) : Command :=
  (known.find? (·.text = t)).getD (.own t)

theorem Command.text_ofText (known : List Command) (t : List Char) :
  (Command.ofText known t).text = t
  := by
  unfold Command.ofText
  cases hfind : known.find? (·.text = t) with
  | none => apply Command.text_own
  | some c =>
      have hc := List.find?_some hfind
      apply of_decide_eq_true hc

/-! ### The commands of a request -/

/-- What the calls yield in the functions that make up commands: processes, and files. -/
structure Processes where
  /-- the number of the process that `process_ID` finds for the web server -/
  thttpd : Int
  /-- the number of the process that `process_ID` finds for the client for the time -/
  ntpclient : Int
  /-- whether `fopen` opens a file for writing -/
  fopen : String → Bool
  /-- `FILE_ROOT` -/
  fileRoot : String

/-- A command with the text `t`, and nothing of a client in it. -/
def Command.ofString (t : String) : Command := .own t.toList

/-- The command of `process_ID` for the program `p`. -/
def processId (p : String) : Command :=
  .ofString ("ps | grep \"" ++ p ++ "\" > /tmp/process_ID.tmp")

def kill (pid : Int) : Command := .own ("kill -9 ".toList ++ decimal pid)

/-- `kill_thttpd` -/
def killThttpd (p : Processes) : List Command :=
  processId "/usr/sbin/thttpd -D -C /web/html/thttpd.conf" ::
    if p.thttpd < 0 then [] else [kill p.thttpd]

/-- `start_ntp`, with the commands that it passes; its buffer for the command has 256 characters. -/
def startNtp (p : Processes) (c : Contents) : Except Fault (List Command) :=
  if p.ntpclient < 0 then .ok [processId "/mnt/mtd/ntpclient"]
  else
    let killed := [processId "/mnt/mtd/ntpclient", kill p.ntpclient]
    if c.int (.time .ntpenable) ≠ 0 then do
      let server ← text (c.str .ntpserver)
      let command := Command.ntpclient server (intervalOptions (c.int (.time .ntpinterval)))
      if command.text.length < 256 then .ok (killed ++ [command]) else .error .overflow
    else .ok killed

/-- `gen_if_cfg` -/
def genIfCfg (p : Processes) : List Command :=
  if p.fopen "if.tmp" then
    [.ofString ("mv if.tmp " ++ p.fileRoot ++ "if.cfg > /dev/null"),
      .ofString ("cp " ++ p.fileRoot ++ "if.cfg " ++ p.fileRoot ++ "if_bck.cfg > /dev/null")]
  else []

/-- `set_httpport` -/
def setHttpport (port : Int) : List Command :=
  [.ofString "killall /usr/bin/thttpd",
    .own ("/bin/sh /usr/bin/thttpd -C /web/html/thttpd.conf -p ".toList ++ decimal port)]

/-- `init_isp_pw_frequency` -/
def initIspPwFrequency (fw : Int) : List Command :=
  if fw ≠ 50 ∧ fw ≠ 60 then []
  else [.own ("echo ".toList ++ decimal (if fw = 50 then 1 else 0)
    ++ " > /proc/isp0/ae/pwr_freq".toList)]

/-- `set_Protocol` -/
def setProtocol (p : Processes) : List Command :=
  if p.fopen "/tmp/pro.tmp" then [.ofString "mv /tmp/pro.tmp /mnt/nfs/curprotocol.cfg"] else []

/-- The commands of an effect, for the `values` of the request and what is in memory behind it. -/
def Effect.commands (p : Processes) (values : List (List Char)) (c : Contents) :
    Effect → Except Fault (List Command)
  | .system command => .ok [.ofText (values.map .date) command]
  | .killThttpd => .ok (Msg.killThttpd p)
  | .startNtp => Msg.startNtp p c
  | .genIfCfg => .ok (Msg.genIfCfg p)
  | .call .setHttpport [port] => .ok (setHttpport port)
  | .call .initIspPwFrequency [fw] => .ok (initIspPwFrequency fw)
  | .call .setProtocol _ => .ok (setProtocol p)
  | _ => .ok []

/-- The commands of effects, one after the other, for the `values` of the request. -/
def commands (p : Processes) (values : List (List Char)) (c : Contents) :
    List Effect → Except Fault (List Command)
  | [] => .ok []
  | e :: es => do
      let first ← e.commands p values c
      let rest ← commands p values c es
      .ok (first ++ rest)

/-! ### The commands of a restart -/

/-- The commands that ask the server in `c` for the time, once and at intervals. -/
def timeCommands (c : Contents) : List Command :=
  match text (c.str .ntpserver) with
  | .ok server =>
      [.ntpclient server onceOptions,
        .ntpclient server (intervalOptions (c.int (.time .ntpinterval)))]
  | .error _ => []

/-- The command of an effect of start-up, if it is one, where the server for the time is that of
`c`. -/
def BootEffect.commands (c : Contents) : BootEffect → List Command
  | .system command => [.ofText (timeCommands c) command]
  | _ => []

/-! ### The camera -/

/-- The device, and the commands that have been `passed` to `system` so far. -/
structure Camera where
  device : Device
  passed : List Command

/-- What the camera does: it handles a request, or it is restarted. -/
inductive Action where
  | request (req : Request) (env : Env) (p : Processes)
  | restart (boot : BootEnv)

/-- The device `d` behind an action, and the commands that the action passes. -/
def Action.run (d : Device) : Action → Option (Device × List Command)
  | .request req env p =>
      match processMsg env req d with
      | .ok reply =>
          match commands p (req.map Prod.snd) reply.device.mem reply.effects with
          | .ok cs => some (reply.device, cs)
          | .error _ => none
      | .error _ => none
  | .restart boot =>
      match Msg.restart boot d.flash with
      | .ok b => some (⟨b.mem, d.flash⟩, b.effects.flatMap (BootEffect.commands b.mem))
      | .error _ => none

/-- An action `a` as a step of the camera, whose commands are added to those that have been
passed. -/
def Camera.step (m : Camera) (a : Action) : Option Camera :=
  (a.run m.device).map fun r => ⟨r.1, m.passed ++ r.2⟩

/-- The camera with the device `d` before the first action. -/
def Camera.start (d : Device) : Camera := ⟨d, []⟩

/-- In all commands that have been passed text of clients is data. -/
def Camera.KeepsData (m : Camera) : Prop := ∀ c ∈ m.passed, c.KeepsData

instance (m : Camera) : Decidable m.KeepsData :=
  inferInstanceAs (Decidable (∀ c ∈ m.passed, c.KeepsData))

/-- The values of a request are strings, without an end in them; a restart has none. -/
def Action.Strings : Action → Prop
  | .request req _ _ => Msg.Strings req
  | .restart _ => True

instance (a : Action) : Decidable a.Strings := by
  cases a
  all_goals
    unfold Action.Strings
    infer_instance

/-- The text of a buffer, if it ends there, is data without quotes. -/
def ServerIsData : Except Fault (List Char) → Prop
  | .ok server => Quoting.bare.Data server
  | .error _ => True

instance (x : Except Fault (List Char)) : Decidable (ServerIsData x) := by
  cases x
  all_goals
    unfold ServerIsData
    infer_instance

/-- The times that a request sets are data between double quotes, and the server is data without
quotes if it is asked: behind a request that changes the settings for it while the client for the
time is running, or behind a restart, in both cases if it is enabled. -/
def Action.GivesData (d : Device) : Action → Prop
  | .request req _ p =>
      (∀ value ∈ d.times req, Quoting.double.Data value) ∧
      ((d.clock req).changed = true → 0 ≤ p.ntpclient →
        (d.clock req).number .ntpenable ≠ 0 → ServerIsData (d.clock req).ntpserver)
  | .restart _ =>
      d.flash.int (.time .ntpenable) ≠ 0 → ServerIsData (text (d.flash.str .ntpserver))

instance (d : Device) (a : Action) : Decidable (a.GivesData d) := by
  cases a
  all_goals
    unfold Action.GivesData
    infer_instance

/-! ### Effects and their commands -/

variable {p : Processes} {values : List (List Char)} {c : Contents} {cs : List Command}

/-- In all commands of the effect `e`, if they can be made up, text of clients is data. -/
def Effect.KeepsData (p : Processes) (values : List (List Char)) (c : Contents) (e : Effect) :
    Prop :=
  ∀ cs, e.commands p values c = .ok cs → ∀ x ∈ cs, x.KeepsData

/-- In the commands of the effects `es` text of clients is data exactly if it is in those of each of
them. -/
theorem commands_keepData {es : List Effect} (h : commands p values c es = .ok cs) :
  (∀ x ∈ cs, x.KeepsData) ↔ ∀ e ∈ es, e.KeepsData p values c
  := by
  induction es generalizing cs with
  | nil =>
      obtain rfl := Except.ok.inj h
      simp
  | cons e es ih =>
      obtain ⟨first, hfirst, h⟩ := bind_ok.mp h
      obtain ⟨rest, hrest, h⟩ := bind_ok.mp h
      obtain rfl := Except.ok.inj h
      have he : e.KeepsData p values c ↔ ∀ x ∈ first, x.KeepsData := by
        constructor
        · intro hkeeps
          apply hkeeps first hfirst
        · intro hkeeps cs hcs
          obtain rfl := Except.ok.inj (hfirst.symm.trans hcs)
          apply hkeeps
      rw [List.forall_mem_append, List.forall_mem_cons, ih hrest, he]

/-- If the commands of the effects `es` have been made up, then so have those of each of them. -/
theorem commands_of_mem {es : List Effect} (h : commands p values c es = .ok cs) (he : e ∈ es) :
  ∃ cs', e.commands p values c = .ok cs'
  := by
  induction es generalizing cs with
  | nil => cases he
  | cons e' es ih =>
      obtain ⟨first, hfirst, h⟩ := bind_ok.mp h
      obtain ⟨rest, hrest, h⟩ := bind_ok.mp h
      obtain rfl | he := List.mem_cons.mp he
      · use first, hfirst
      · apply ih hrest he

/-- The effect `e` neither sets the clock nor asks for the time. -/
structure Effect.Quiet (e : Effect) : Prop where
  date : e.dateText = none
  ntp : e ≠ .startNtp

theorem dateCommand_inj {value' : List Char} (h : dateCommand value = dateCommand value') :
  value = value'
  := by
  apply List.append_cancel_left
  apply List.append_cancel_right h

/-- The text of the command that sets the clock to a `value` of the request is recognised as that
command. -/
theorem ofText_dateCommand (hmem : value ∈ values) :
  Command.ofText (values.map .date) (dateCommand value) = .date value
  := by
  unfold Command.ofText
  cases hfind : (values.map Command.date).find? (·.text = dateCommand value) with
  | none =>
      have hnot := List.find?_eq_none.mp hfind (.date value) (List.mem_map_of_mem hmem)
      apply absurd _ hnot
      apply decide_eq_true (Command.text_date value)
  | some x =>
      obtain ⟨value', -, rfl⟩ := List.mem_map.mp (List.mem_of_find?_eq_some hfind)
      have htext := List.find?_some hfind
      rw [decide_eq_true_iff, Command.text_date] at htext
      obtain rfl := dateCommand_inj htext
      rfl

/-- A text that is no command for the clock is recognised as an own command. -/
theorem ofText_of_dateText {command : List Char} (h : (Effect.system command).dateText = none) :
  Command.ofText (values.map .date) command = .own command
  := by
  unfold Command.ofText
  cases hfind : (values.map Command.date).find? (·.text = command) with
  | none => rfl
  | some x =>
      obtain ⟨value', -, rfl⟩ := List.mem_map.mp (List.mem_of_find?_eq_some hfind)
      have htext := List.find?_some hfind
      rw [decide_eq_true_iff] at htext
      rw [← htext, Command.text_date, dateText_dateCommand] at h
      contradiction

/-- An own command in front of commands in which text of clients is data makes no difference. -/
theorem keepsData_cons {t : List Char} (h : ∀ x ∈ cs, x.KeepsData) :
  ∀ x ∈ .own t :: cs, x.KeepsData
  := List.forall_mem_cons.mpr ⟨Command.own_keepsData t, h⟩

theorem keepsData_nil : ∀ x ∈ ([] : List Command), x.KeepsData := fun _ hx => by cases hx

theorem killThttpd_keepsData : ∀ x ∈ killThttpd p, x.KeepsData := by
  apply keepsData_cons
  split
  · apply keepsData_nil
  · apply keepsData_cons keepsData_nil

theorem genIfCfg_keepsData : ∀ x ∈ genIfCfg p, x.KeepsData := by
  unfold genIfCfg
  split
  · apply keepsData_cons (keepsData_cons keepsData_nil)
  · apply keepsData_nil

theorem initIspPwFrequency_keepsData {fw : Int} : ∀ x ∈ initIspPwFrequency fw, x.KeepsData := by
  unfold initIspPwFrequency
  split
  · apply keepsData_nil
  · apply keepsData_cons keepsData_nil

theorem setProtocol_keepsData : ∀ x ∈ setProtocol p, x.KeepsData := by
  unfold setProtocol
  split
  · apply keepsData_cons keepsData_nil
  · apply keepsData_nil

/-- The commands of an effect that is `Quiet` have nothing of a client in them. -/
theorem Effect.Quiet.keepsData (h : e.Quiet) : e.KeepsData p values c := by
  intro cs hcs
  unfold Effect.commands at hcs
  split at hcs
  case h_3 => exact absurd rfl h.ntp
  all_goals obtain rfl := Except.ok.inj hcs
  · rw [ofText_of_dateText h.date]
    apply keepsData_cons keepsData_nil
  · apply killThttpd_keepsData
  · apply genIfCfg_keepsData
  · apply keepsData_cons (keepsData_cons keepsData_nil)
  · apply initIspPwFrequency_keepsData
  · apply setProtocol_keepsData
  · apply keepsData_nil

/-- In the command that sets the clock to a `value` of the request, it is data exactly if it is data
between double quotes. -/
theorem dateCommand_keepsData (hmem : value ∈ values) :
  (Effect.system (dateCommand value)).KeepsData p values c ↔ Quoting.double.Data value
  := by
  have hcommands : (Effect.system (dateCommand value)).commands p values c
      = .ok [.date value] := by rw [Effect.commands, ofText_dateCommand hmem]
  rw [← Command.date_keepsData]
  constructor
  · intro h
    apply h _ hcommands _ (.head _)
  · intro h cs hcs
    obtain rfl := Except.ok.inj (hcommands.symm.trans hcs)
    exact List.forall_mem_singleton.mpr h

/-- In the commands of `start_ntp` text of clients is data exactly if the server is, or is not
asked. -/
theorem startNtp_keepsData (h : startNtp p c = .ok cs) :
  (∀ x ∈ cs, x.KeepsData) ↔
    (0 ≤ p.ntpclient → c.int (.time .ntpenable) ≠ 0 → ServerIsData (text (c.str .ntpserver)))
  := by
  unfold startNtp at h
  split at h
  · next hneg =>
      obtain rfl := Except.ok.inj h
      apply iff_of_true (keepsData_cons keepsData_nil)
      intro hpos
      omega
  · next hpos =>
      simp only at h
      split at h
      · next henable =>
          obtain ⟨server, hserver, h⟩ := bind_ok.mp h
          split at h
          · obtain rfl := Except.ok.inj h
            rw [List.forall_mem_append, List.forall_mem_singleton, Command.ntpclient_keepsData,
              hserver]
            constructor
            · rintro ⟨-, hdata⟩ - -
              apply hdata
            · intro hdata
              exact ⟨keepsData_cons (keepsData_cons keepsData_nil), hdata (by omega) henable⟩
          · contradiction
      · next hdisable =>
          obtain rfl := Except.ok.inj h
          apply iff_of_true (keepsData_cons (keepsData_cons keepsData_nil))
          exact fun _ henable => absurd henable hdisable

/-! ### Requests -/

theorem Branch.Emits.ne_startNtp {b : Branch} {cursor : Cursor} (h : b.Emits value cursor e) :
  e ≠ .startNtp
  := by
  rintro rfl
  cases b
  all_goals simp [Branch.Emits] at h

theorem dateText_eq {command : List Char} (h : e.dateText = some command) : e = .system command := by
  cases e
  case system =>
    unfold Effect.dateText at h
    simp only at h
    split at h
    · rw [Option.some.inj h]
    · contradiction
  all_goals cases h

/-- The times to which a request sets the clock are among its values. -/
theorem times_subset (h : value ∈ d.times req) : value ∈ req.map Prod.snd := by
  obtain ⟨pre, x, post, heq, hmem⟩ := mem_trace.mp h
  have hx : x ∈ d.items req := by simp [heq]
  obtain ⟨pair, hpair, -, hvalue⟩ := exists_mem_of_mem_items hx
  unfold Clock.sets at hmem
  split at hmem
  · rw [List.mem_singleton.mp hmem, ← hvalue]
    apply List.mem_map_of_mem hpair
  · cases hmem

/-- Behind the loop the server for the time is asked exactly when the settings for it have been
changed, and the clock is not set. -/
theorem finish_ntp (h : finish env t = .ok s') :
  Adds (fun e => e.Quiet ∨ (e = .startNtp ∧ t.ntpserverCfg ≠ 0)) t s' ∧
  (t.ntpserverCfg ≠ 0 → .startNtp ∈ s'.effects)
  := by
  obtain ⟨s₁, hs₁, h⟩ := bind_ok.mp h
  obtain ⟨s₂, hs₂, h⟩ := bind_ok.mp h
  obtain rfl := Except.ok.inj h
  have hntp : s₁.ntpserverCfg = t.ntpserverCfg := finishPreset_still.ntp _ hs₁
  have hquiet {e : Effect} (hdate : e.dateText = none) (hne : e ≠ .startNtp) :
      e.Quiet ∨ (e = .startNtp ∧ t.ntpserverCfg ≠ 0) := Or.inl ⟨hdate, hne⟩
  have hpreset : Adds (fun e => e.Quiet ∨ (e = .startNtp ∧ t.ntpserverCfg ≠ 0)) t s₁ :=
    finishPreset_adds (fun _ _ => hquiet rfl (by simp)) hs₁
  have hnotify : Adds (fun e => e.Quiet ∨ (e = .startNtp ∧ t.ntpserverCfg ≠ 0)) s₁
      (notify env s₁) := by
    apply notify_adds_of
    · exact fun _ _ => hquiet rfl (by simp)
    · exact hquiet rfl (by simp)
    · intro hchanged
      exact Or.inr ⟨rfl, hntp ▸ hchanged⟩
    · exact hquiet rfl (by simp)
  have hbehind : Adds (fun e => e.Quiet ∨ (e = .startNtp ∧ t.ntpserverCfg ≠ 0)) (notify env s₁)
      (finishReboot (writeFiles s₂)) := by
    apply (sendOsd_adds (fun _ => hquiet rfl (by simp)) hs₂).trans
    apply (writeFiles_adds (fun _ => hquiet rfl (by simp)) s₂).trans
    exact Adds.ite_effect fun _ => hquiet rfl (by simp)
  refine ⟨(hpreset.trans hnotify).trans hbehind, ?_⟩
  intro hchanged
  apply hbehind.mem_left
  apply notify_startNtp
  rw [hntp]
  apply hchanged

/-- What follows the loop leaves a field `f` of the settings of the time alone. -/
theorem finish_time (h : finish env t = .ok s') {f : Field} (hf : f.file = some .sysTimer) :
  s'.mem f = t.mem f
  := by
  obtain ⟨s₁, s₂, htouches, hstores, hmem, -⟩ := finish_ok h
  rw [hmem, hstores.mem f (by simp [hf])]
  apply htouches.mem (fun hfalse => hfalse)
  intro file hfile heq
  obtain rfl := Option.some.inj hfile
  rw [hf] at heq
  cases heq

/-- Text of clients stays data in the commands of a request exactly when the request `GivesData`. -/
theorem request_keepsData_iff
    (hreq : Strings req) (h : processMsg env req d = .ok reply)
    (hcs : commands p (req.map Prod.snd) reply.device.mem reply.effects = .ok cs) :
  (∀ x ∈ cs, x.KeepsData) ↔ (Action.request req env p).GivesData d
  := by
  obtain ⟨t, ht, h⟩ := bind_ok.mp h
  obtain ⟨s, hs, h⟩ := bind_ok.mp h
  obtain rfl := Except.ok.inj h
  obtain ⟨hclock, hdates⟩ := processPairs_clock hreq ht
  obtain ⟨hadds, hstarts⟩ := finish_ntp hs
  have henable : s.mem.int (.time .ntpenable) = (d.clock req).number .ntpenable :=
    (finish_time hs (f := .int (.time .ntpenable)) rfl).trans (hclock.number .ntpenable)
  have hserver : text (s.mem.str .ntpserver) = (d.clock req).ntpserver :=
    (congrArg text (finish_time hs (f := .str .ntpserver) rfl)).trans hclock.ntpserver
  rw [commands_keepData hcs]
  have hntp {cs' : List Command} (hcs' : startNtp p s.mem = .ok cs') :
      (∀ x ∈ cs', x.KeepsData) ↔ (0 ≤ p.ntpclient → (d.clock req).number .ntpenable ≠ 0 →
        ServerIsData (d.clock req).ntpserver) := by
    rw [startNtp_keepsData hcs', henable, hserver]
  constructor
  · intro hall
    constructor
    · intro value hvalue
      have hmem : dateCommand value ∈ t.dates := by
        rw [hdates]
        apply List.mem_map_of_mem hvalue
      obtain ⟨e, he, hdate⟩ := List.mem_filterMap.mp hmem
      obtain rfl := dateText_eq hdate
      apply (dateCommand_keepsData (times_subset hvalue)).mp
      apply hall _ (hadds.mem_left he)
    · intro hchanged
      have hmem := hstarts (hclock.changed.mpr hchanged)
      obtain ⟨cs', hcs'⟩ := commands_of_mem hcs hmem
      apply (hntp hcs').mp
      apply hall _ hmem _ hcs'
  · rintro ⟨htimes, hasks⟩ e he
    obtain he | hquiet | ⟨rfl, hchanged⟩ := hadds.mem he
    · cases hdate : e.dateText with
      | none =>
          have hquiet : e.Quiet := by
            obtain ⟨x, -, hemits⟩ := processPairs_effects ht he
            exact ⟨hdate, Branch.Emits.ne_startNtp hemits⟩
          apply hquiet.keepsData
      | some command =>
          obtain rfl := dateText_eq hdate
          have hmem : command ∈ t.dates := List.mem_filterMap.mpr ⟨_, he, hdate⟩
          rw [hdates] at hmem
          obtain ⟨value, hvalue, rfl⟩ := List.mem_map.mp hmem
          apply (dateCommand_keepsData (times_subset hvalue)).mpr
          apply htimes value hvalue
    · apply hquiet.keepsData
    · intro cs' hcs'
      apply (hntp hcs').mpr
      apply hasks (hclock.changed.mp hchanged)

/-! ### Restarts -/

variable {boot : BootEnv} {b b' : Boot} {e' : BootEffect}

/-- The two texts of options with which the server is asked. -/
def timeOptions (c : Contents) : List (List Char) :=
  [onceOptions, intervalOptions (c.int (.time .ntpinterval))]

/-- The effect of start-up is no command that asks a server. -/
def BootEffect.Silent : BootEffect → Prop
  | .system command => "/mnt".toList.isPrefixOf command = false
  | _ => True

/-- The effect `e` of start-up asks the server that is stored in `c`, which is enabled. -/
def BootEffect.AsksStored (c : Contents) (e : BootEffect) : Prop :=
  c.int (.time .ntpenable) ≠ 0 ∧ ∃ server options, text (c.str .ntpserver) = .ok server ∧
    options ∈ timeOptions c ∧ e = .system (Msg.ntpclient server options)

/-- If all effects of start-up have `P`, and one more is added that has `P`, then all of them do. -/
theorem forall_mem_effect {P : BootEffect → Prop} (hb : ∀ e ∈ b.effects, P e) (he : P e') :
  ∀ e ∈ (b.effect e').effects, P e
  := List.forall_mem_append.mpr ⟨hb, List.forall_mem_singleton.mpr he⟩

theorem readIp_silent {n : Nat} (h : readIp boot n b = .ok b') (hb : ∀ e ∈ b.effects, e.Silent) :
  ∀ e ∈ b'.effects, e.Silent
  := by
  induction n generalizing b with
  | zero =>
      obtain rfl := Except.ok.inj h
      exact forall_mem_effect (forall_mem_effect hb rfl) rfl
  | succ n ih =>
      obtain ⟨c, -, h⟩ := bind_ok.mp h
      obtain ⟨ip, -, h⟩ := bind_ok.mp h
      split at h
      · obtain rfl := Except.ok.inj h
        apply hb
      · apply ih h hb

theorem initNet_silent (h : initNet boot b = .ok b') (hb : ∀ e ∈ b.effects, e.Silent) :
  ∀ e ∈ b'.effects, e.Silent
  := by
  unfold initNet at h
  split at h
  · obtain rfl := Except.ok.inj h
    exact forall_mem_effect hb trivial
  · obtain ⟨b₁, hb₁, h⟩ := bind_ok.mp h
    obtain ⟨netmask, -, h⟩ := bind_ok.mp h
    obtain ⟨gateway, -, h⟩ := bind_ok.mp h
    obtain ⟨fdnsip, -, h⟩ := bind_ok.mp h
    obtain rfl := Except.ok.inj h
    have hread := readIp_silent hb₁ (forall_mem_effect hb trivial)
    exact forall_mem_effect (forall_mem_effect (forall_mem_effect hread trivial) trivial) trivial

theorem runNtpclient_ok (h : runNtpclient options b = .ok b') :
  ∃ server, text (b.mem.str .ntpserver) = .ok server ∧
    b' = b.effect (.system (Msg.ntpclient server options))
  := by
  obtain ⟨server, hserver, h⟩ := bind_ok.mp h
  split at h
  · use server, hserver, (Except.ok.inj h).symm
  · contradiction

/-- Every effect of start-up so far is `Silent`, or asks the server that is stored in `c`. -/
def Boot.Asks (c : Contents) (b : Boot) : Prop :=
  ∀ e ∈ b.effects, e.Silent ∨ e.AsksStored c

theorem Boot.Asks.effect (hb : b.Asks c) (he : e'.Silent ∨ e'.AsksStored c) :
  (b.effect e').Asks c
  := forall_mem_effect hb he

/-- Which server is asked depends on the settings of the time only: it may be read from `c'` as
well. -/
theorem BootEffect.AsksStored.congr
    {c' : Contents} {e : BootEffect} (h : e.AsksStored c)
    (hc : ∀ f, f.file = some .sysTimer → c' f = c f) :
  e.AsksStored c'
  := by
  obtain ⟨henable, server, options, hserver, hoptions, rfl⟩ := h
  have hnumber (f : TimeField) : c'.int (.time f) = c.int (.time f) := hc (.int (.time f)) rfl
  have hstr : c'.str .ntpserver = c.str .ntpserver := hc (.str .ntpserver) rfl
  refine ⟨by rwa [hnumber], server, options, by rwa [hstr], ?_, rfl⟩
  rwa [timeOptions, hnumber]

/-- `initNtp` asks the server that is stored if the client for the time is enabled, and otherwise no
one. -/
theorem initNtp_asks (h : initNtp b = .ok b') (hb : ∀ e ∈ b.effects, e.Silent) :
  b'.Asks b.mem ∧ (b.mem.int (.time .ntpenable) ≠ 0 →
    ∃ e ∈ b'.effects, e.AsksStored b.mem)
  := by
  have hsilent : b.Asks b.mem := fun e he => Or.inl (hb e he)
  unfold initNtp at h
  split at h
  · next henable =>
      obtain ⟨b₁, hb₁, h⟩ := bind_ok.mp h
      obtain ⟨b₂, hb₂, h⟩ := bind_ok.mp h
      obtain ⟨server, hserver, rfl⟩ := runNtpclient_ok hb₁
      obtain ⟨server₂, hserver₂, rfl⟩ := runNtpclient_ok hb₂
      obtain ⟨server₃, hserver₃, rfl⟩ := runNtpclient_ok h
      have hasks {server options : List Char} (hserver : text (b.mem.str .ntpserver) = .ok server)
          (hoptions : options ∈ timeOptions b.mem) :
          (BootEffect.system (Msg.ntpclient server options)).AsksStored b.mem :=
        ⟨henable, server, options, hserver, hoptions, rfl⟩
      have hlast := hasks hserver₃ (.tail _ (.head _))
      constructor
      · apply Boot.Asks.effect _ (Or.inr hlast)
        apply Boot.Asks.effect _ (Or.inr (hasks hserver₂ (.head _)))
        apply hsilent.effect (Or.inr (hasks hserver (.head _)))
      · intro _
        exact ⟨_, List.mem_append_right _ (.head _), hlast⟩
  · next hdisable =>
      obtain rfl := Except.ok.inj h
      exact ⟨hsilent, fun henable => absurd henable hdisable⟩

/-- A field `f` of the time is not among those that `init_system` sets behind the presets. -/
theorem not_setUpSets {f : Field} (hf : f.file = some .sysTimer) : ¬ SetUpSets f := by
  cases f with
  | int f =>
      cases f
      case macaddr => cases hf
      all_goals exact fun h => h
  | str f =>
      cases f
      case softVersion | ip => cases hf
      all_goals exact fun h => h

theorem restart_time
    (h : restart boot d.flash = .ok b) {f : Field} (hf : f.file = some .sysTimer) :
  b.mem f = d.flash f
  := by
  apply restart_restores h hf (by decide)
  cases f with
  | int f =>
      cases f
      case presetIsSet | recCfg => cases hf
      all_goals exact not_setUpSets hf
  | str f => exact not_setUpSets hf

/-- What `setUp` does, before `rtspd_start`, asks the server that is stored if that is enabled, and
no other. -/
theorem setUp_asks (h : setUp boot c = .ok b) :
  b.Asks b.mem ∧ (b.mem.int (.time .ntpenable) ≠ 0 → ∃ e ∈ b.effects, e.AsksStored b.mem)
  := by
  obtain ⟨c₁, -, h⟩ := bind_ok.mp h
  obtain ⟨b₁, hb₁, h⟩ := bind_ok.mp h
  obtain ⟨b₂, hb₂, h⟩ := bind_ok.mp h
  obtain rfl := Except.ok.inj h
  obtain ⟨hasks, hsome⟩ := initNtp_asks hb₂ (initNet_silent hb₁ fun e he => by cases he)
  rw [initOsd_mem, initNtp_mem hb₂]
  unfold initOsd
  split
  · have hsend : (b₂.effect (.sendOsd 0)).Asks b₁.mem := hasks.effect (Or.inl (by exact trivial))
    refine ⟨hsend.effect (Or.inl rfl), fun henable => ?_⟩
    obtain ⟨e, he, hstored⟩ := hsome henable
    exact ⟨e, List.mem_append_left _ (List.mem_append_left _ he), hstored⟩
  · refine ⟨hasks.effect (Or.inl rfl), fun henable => ?_⟩
    obtain ⟨e, he, hstored⟩ := hsome henable
    exact ⟨e, List.mem_append_left _ he, hstored⟩

/-- `avServer` asks no server, and keeps the effects from before. -/
theorem avServer_asks (hb : b.Asks c) :
  (avServer b).Asks c ∧ ∀ e ∈ b.effects, e ∈ (avServer b).effects
  := by
  unfold avServer
  simp only
  have hset (mem : Contents) : ({ b with mem := mem }.effect .recCfgSet).Asks c :=
    hb.effect (b := { b with mem := mem }) (Or.inl (by exact trivial))
  split
  · refine ⟨(hset _).effect (Or.inl (by exact trivial)), fun e he => ?_⟩
    apply List.mem_append_left _ (List.mem_append_left _ he)
  · refine ⟨hset _, fun e he => ?_⟩
    apply List.mem_append_left _ he

/-- A restart asks the server that is stored, if the client for the time is enabled, and is silent
otherwise. -/
theorem restart_asks (h : restart boot d.flash = .ok b) :
  b.Asks d.flash ∧ (d.flash.int (.time .ntpenable) ≠ 0 → ∃ e ∈ b.effects, e.AsksStored d.flash)
  := by
  have hflash := fun f hf => (restart_time h (f := f) hf).symm
  obtain ⟨b₁, hb₁, h⟩ := bind_ok.mp h
  obtain ⟨c, hc, hb₁⟩ := bind_ok.mp hb₁
  obtain rfl := Except.ok.inj h
  obtain ⟨hasks, hsome⟩ := setUp_asks (mapError_ok.mp hb₁)
  have hmem : ∀ f, f.file = some .sysTimer → d.flash f = b₁.mem f := by
    intro f hf
    have hrec : ¬ ∃ g, f = .int (.recCfg g) := by
      rintro ⟨g, rfl⟩
      cases hf
    rw [hflash f hf, avServer_differ _ f hrec]
    apply rtspdStart_mem hf (by decide)
  obtain ⟨hserver, hkept⟩ := avServer_asks (b := rtspdStart boot b₁) hasks
  constructor
  · intro e he
    apply (hserver e he).imp_right
    intro hstored
    apply hstored.congr hmem
  · intro henable
    have hnumber : d.flash.int (.time .ntpenable) = b₁.mem.int (.time .ntpenable) :=
      hmem (.int (.time .ntpenable)) rfl
    rw [hnumber] at henable
    obtain ⟨e, he, hstored⟩ := hsome henable
    exact ⟨e, hkept e he, hstored.congr hmem⟩

/-- A command of start-up that is `Silent` is recognised as an own command. -/
theorem ofText_of_silent {command : List Char} (h : (BootEffect.system command).Silent) :
  Command.ofText (timeCommands c) command = .own command
  := by
  unfold Command.ofText
  cases hfind : (timeCommands c).find? (·.text = command) with
  | none => rfl
  | some x =>
      have hmem := List.mem_of_find?_eq_some hfind
      have htext := List.find?_some hfind
      rw [decide_eq_true_iff] at htext
      have hprefix : "/mnt".toList.isPrefixOf command = true := by
        unfold timeCommands at hmem
        split at hmem
        · obtain rfl | hmem := List.mem_cons.mp hmem
          · rw [← htext, Command.text_ntpclient]
            rfl
          · obtain rfl := List.mem_singleton.mp hmem
            rw [← htext, Command.text_ntpclient]
            rfl
        · cases hmem
      rw [BootEffect.Silent, hprefix] at h
      contradiction

/-- A command that asks the server that is stored is recognised as one that contains it. -/
theorem ofText_ntpclient
    (hserver : text (c.str .ntpserver) = .ok server) (hoptions : options ∈ timeOptions c) :
  ∃ options', Command.ofText (timeCommands c) (Msg.ntpclient server options)
    = .ntpclient server options'
  := by
  have hcommands : timeCommands c = (timeOptions c).map (.ntpclient server) := by
    rw [timeCommands, hserver]
    rfl
  unfold Command.ofText
  rw [hcommands]
  cases hfind : ((timeOptions c).map (Command.ntpclient server)).find?
      (·.text = Msg.ntpclient server options) with
  | none =>
      have hnot := List.find?_eq_none.mp hfind (.ntpclient server options)
        (List.mem_map_of_mem hoptions)
      apply absurd _ hnot
      apply decide_eq_true (Command.text_ntpclient server options)
  | some x =>
      obtain ⟨options', -, rfl⟩ := List.mem_map.mp (List.mem_of_find?_eq_some hfind)
      use options'
      rfl

/-- Text of clients stays data in the commands of a restart exactly when the restart `GivesData`:
the server that is asked is data. -/
theorem restart_keepsData_iff (h : restart boot d.flash = .ok b) :
  (∀ x ∈ b.effects.flatMap (BootEffect.commands b.mem), x.KeepsData) ↔
    (Action.restart boot).GivesData d
  := by
  obtain ⟨hasks, hsome⟩ := restart_asks h
  have hmem : ∀ f, f.file = some .sysTimer → b.mem f = d.flash f := fun f hf => restart_time h hf
  have hstored {e : BootEffect} (he : e.AsksStored d.flash) :
      (∀ x ∈ e.commands b.mem, x.KeepsData) ↔ ServerIsData (text (d.flash.str .ntpserver)) := by
    obtain ⟨-, server, options, hserver, hoptions, rfl⟩ := he.congr hmem
    have hflash : text (d.flash.str .ntpserver) = .ok server := by
      rw [← hserver]
      exact congrArg text (hmem (.str .ntpserver) rfl).symm
    obtain ⟨options', hcommand⟩ := ofText_ntpclient hserver hoptions
    rw [BootEffect.commands, hcommand, List.forall_mem_singleton, Command.ntpclient_keepsData,
      hflash]
    rfl
  constructor
  · intro hall henable
    obtain ⟨e, he, hasked⟩ := hsome henable
    apply (hstored hasked).mp
    intro x hx
    apply hall x (List.mem_flatMap.mpr ⟨e, he, hx⟩)
  · intro hdata x hx
    obtain ⟨e, he, hx⟩ := List.mem_flatMap.mp hx
    obtain hsilent | hasked := hasks e he
    · cases e
      case system command =>
        rw [BootEffect.commands, ofText_of_silent hsilent, List.mem_singleton] at hx
        rw [hx]
        apply Command.own_keepsData
      all_goals cases hx
    · apply (hstored hasked).mpr (hdata hasked.1) x hx

/-! ### Runs -/

variable {m m' : Camera}

/-- Text of clients stays data in the commands of an action `a` exactly when the action
`GivesData`. -/
theorem Action.run_keepsData_iff {a : Action} (ha : a.Strings) (h : a.run d = some (d', cs)) :
  (∀ x ∈ cs, x.KeepsData) ↔ a.GivesData d
  := by
  cases a with
  | request req env p =>
      simp only [Action.run] at h
      split at h
      · next reply hreply =>
          split at h
          · next cs' hcs =>
              obtain ⟨-, rfl⟩ := Prod.mk.inj (Option.some.inj h)
              apply request_keepsData_iff ha hreply hcs
          · contradiction
      · contradiction
  | restart boot =>
      simp only [Action.run] at h
      split at h
      · next b hb =>
          obtain ⟨-, rfl⟩ := Prod.mk.inj (Option.some.inj h)
          apply restart_keepsData_iff hb
      · contradiction

/-- In a run text of clients is data in all commands that have been passed, at every point, exactly
when each request and each restart `GivesData`. -/
theorem text_stays_data_iff
    {as : List Action} (hrun : Run Camera.step (fun _ a => a.Strings) (.start d) as m') :
  (∀ pre post m, as = pre ++ post →
      Run Camera.step (fun _ a => a.Strings) (.start d) pre m → m.KeepsData) ↔
    Run Camera.step (fun m a => a.GivesData m.device) (.start d) as m'
  := by
  apply Run.forall_prefix_iff _ hrun
  · intro x hx
    cases hx
  · intro m a m' hm ha hstep
    obtain ⟨⟨d', cs⟩, hcs, rfl⟩ := Option.map_eq_some_iff.mp hstep
    rw [← Action.run_keepsData_iff ha hcs]
    constructor
    · intro hall x hx
      apply hall x (List.mem_append_right _ hx)
    · intro hall x hx
      obtain hx | hx := List.mem_append.mp hx
      · apply hm x hx
      · apply hall x hx

/-- Calls by which the processes are found to run, and no file can be opened. -/
def Processes.running : Processes := ⟨200, 100, fun _ => false, "/mnt/nfs/"⟩

/-- A permanent request that sets the clock to `systime`, and the `server` for the time. -/
def timeRequest (systime server : String) : Action :=
  .request [("0".toList, "1".toList), ("166".toList, systime.toList), ("164".toList, server.toList),
    ("163".toList, "1".toList)] .idle .running

/-- A run with a time and a server that are data, also in the commands of a restart behind it. -/
theorem text_stays_data_iff_plain :
  ∃ m', Run Camera.step (fun _ a => a.Strings) (.start .blank)
      [timeRequest "2016-01-01 00:00:00" "time.nist.gov", .restart .idle] m' ∧
    m'.KeepsData ∧ Command.date "2016-01-01 00:00:00".toList ∈ m'.passed ∧
    Command.ntpclient "time.nist.gov".toList onceOptions ∈ m'.passed
  := by
  obtain ⟨m', hrun, hm'⟩ := Run.exists_of_exec Camera.step
    (fun m a => a.Strings ∧ a.GivesData m.device) (.start .blank)
    (fun m' => decide (Command.date "2016-01-01 00:00:00".toList ∈ m'.passed ∧
      Command.ntpclient "time.nist.gov".toList onceOptions ∈ m'.passed))
    [timeRequest "2016-01-01 00:00:00" "time.nist.gov", .restart .idle] (by decide +kernel)
  have hstrings := hrun.mono fun _ _ h => h.1
  refine ⟨m', hstrings, ?_, of_decide_eq_true hm'⟩
  apply (text_stays_data_iff hstrings).mpr (hrun.mono fun _ _ h => h.2) _ [] m' rfl hstrings

/-- A run in which text of clients leaves its quotes in the command that sets the clock, and ends
the command that asks a server behind a later restart. -/
theorem text_is_run :
  ∃ m', Run Camera.step (fun _ a => a.Strings) (.start .blank)
      [timeRequest "\";reboot;\"" "time.nist.gov;reboot", .restart .idle] m' ∧
    (∃ c ∈ m'.passed, c.text = "date -s \"\";reboot;\"\" -u".toList ∧ ¬ c.KeepsData) ∧
    ∃ c ∈ m'.passed, c.text = "/mnt/mtd/ntpclient -h time.nist.gov;reboot -s -c 1 &".toList ∧
      ¬ c.KeepsData
  := by
  obtain ⟨m', hrun, hm'⟩ := Run.exists_of_exec Camera.step (fun _ a => a.Strings) (.start .blank)
    (fun m' => decide (
      (∃ c ∈ m'.passed, c.text = "date -s \"\";reboot;\"\" -u".toList ∧ ¬ c.KeepsData) ∧
      ∃ c ∈ m'.passed, c.text = "/mnt/mtd/ntpclient -h time.nist.gov;reboot -s -c 1 &".toList ∧
        ¬ c.KeepsData))
    [timeRequest "\";reboot;\"" "time.nist.gov;reboot", .restart .idle] (by decide +kernel)
  exact ⟨m', hrun, of_decide_eq_true hm'⟩

end Msg
