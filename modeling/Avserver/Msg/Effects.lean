import Avserver.Msg.Enable
import Avserver.Msg.InRange

/-!
# What a request does to the rest of the system

What a branch does to the rest of the system is appended to what has been done so far, and it is
among what the branch `Emits`: calls with the values given, commands, and the reset of files.
What follows the loop adds the effects that it `Finishes` with.  So every effect of a request is
one that an item of the request emits or one that it finishes with (`processMsg_effects`).
-/

namespace Msg

open Library

variable {env : Env} {s s₁ s' t : Session} {P Q : Effect → Prop} {key label : Key}
  {value : List Char}

/-! ### Effects that are added -/

/-- From `s` to `s'` effects are added, and all of them have `P`. -/
def Adds (P : Effect → Prop) (s s' : Session) : Prop :=
  ∃ es, s'.effects = s.effects ++ es ∧ ∀ e ∈ es, P e

theorem Adds.of_eq (h : s'.effects = s.effects) : Adds P s s' :=
  ⟨[], by rw [h, List.append_nil], fun _ he => absurd he List.not_mem_nil⟩

theorem Adds.one {e : Effect} (h : s'.effects = s.effects ++ [e]) (he : P e) : Adds P s s' := by
  refine ⟨[e], h, ?_⟩
  rintro _ hmem
  obtain rfl := List.mem_singleton.mp hmem
  apply he

theorem Adds.trans (h : Adds P s s₁) (h' : Adds P s₁ s') : Adds P s s' := by
  obtain ⟨es, hes, hP⟩ := h
  obtain ⟨es', hes', hP'⟩ := h'
  refine ⟨es ++ es', by rw [hes', hes, List.append_assoc], ?_⟩
  intro e he
  obtain he | he := List.mem_append.mp he
  · apply hP e he
  · apply hP' e he

/-- If effects are added, an effect `e` that is there is kept. -/
theorem Adds.mem_left (h : Adds P s s') {e : Effect} (he : e ∈ s.effects) : e ∈ s'.effects := by
  obtain ⟨es, hes, -⟩ := h
  rw [hes]
  apply List.mem_append_left _ he

theorem Adds.mono (h : Adds P s s') (hPQ : ∀ e, P e → Q e) : Adds Q s s' := by
  obtain ⟨es, hes, hP⟩ := h
  exact ⟨es, hes, fun e he => hPQ e (hP e he)⟩

/-- If the effects that are added have a property that none has, nothing is added. -/
theorem Adds.effects_eq (h : Adds (fun _ => False) s s') : s'.effects = s.effects := by
  obtain ⟨es, hes, hnone⟩ := h
  obtain rfl := List.eq_nil_iff_forall_not_mem.mpr hnone
  rw [hes, List.append_nil]

/-- An effect `e` that is there after effects with `P` have been added was there before, or has
`P`. -/
theorem Adds.mem (h : Adds P s s') {e : Effect} (he : e ∈ s'.effects) : e ∈ s.effects ∨ P e := by
  obtain ⟨es, hes, hP⟩ := h
  rw [hes] at he
  apply (List.mem_append.mp he).imp_right (hP e)

/-- If the computation `x` in the session `s` succeeds, it adds effects with `P` only. -/
abbrev AddsOnly (P : Effect → Prop) (s : Session) (x : Except Fault Session) : Prop :=
  Yields (Adds P s) x

theorem ok_adds (h : s'.effects = s.effects) : AddsOnly P s (.ok s') := Yields.of_ok (Adds.of_eq h)

theorem ok_adds_one {e : Effect} (h : s'.effects = s.effects ++ [e]) (he : P e) :
  AddsOnly P s (.ok s')
  := Yields.of_ok (Adds.one h he)

theorem ite_adds {c : Prop} [Decidable c] {x y : Except Fault Session} (hx : AddsOnly P s x)
    (hy : AddsOnly P s y) :
  AddsOnly P s (if c then x else y)
  := Yields.ite (fun _ => hx) fun _ => hy

theorem after_adds {α : Type} {x : Except Fault α} {f : α → Except Fault Session}
    (hf : ∀ a, AddsOnly P s (f a)) :
  AddsOnly P s (x >>= f)
  := Yields.of_bind hf

theorem follow_adds {x : Except Fault Session} (hx : AddsOnly P s₁ x) (hs : Adds P s s₁) :
  AddsOnly P s x
  := fun s' hs' => hs.trans (hx s' hs')

theorem bind_adds {x : Except Fault Session} {f : Session → Except Fault Session}
    (hx : AddsOnly P s x) (hf : ∀ s₁, AddsOnly P s₁ (f s₁)) :
  AddsOnly P s (x >>= f)
  := Yields.bind hx fun s₁ hs₁ => follow_adds (hf s₁) hs₁

theorem onCmd_adds {set get : Except Fault Session} (hset : AddsOnly P s set)
    (hget : AddsOnly P s get) :
  AddsOnly P s (s.onCmd set get)
  := ite_adds hset (ite_adds hget (ok_adds (by rfl)))

theorem answer_adds {t : List Char} : AddsOnly P s (s.answer key t) :=
  Yields.ite (fun _ => Yields.of_ok (Adds.of_eq rfl)) fun _ => Yields.of_error

theorem answers_adds {as : List Answer} : AddsOnly P s (s.answers as) :=
  Yields.ite (fun _ => Yields.of_ok (Adds.of_eq rfl)) fun _ => Yields.of_error

theorem reply_adds {t : List Char} : AddsOnly P s (s.reply key t) := by
  apply follow_adds answer_adds
  exact Adds.of_eq rfl

theorem setText_adds {f : StrField} : AddsOnly P s (s.setText f value) :=
  Yields.of_bind fun _ => Yields.of_ok (Adds.of_eq rfl)

theorem calls_adds {callees : List Callee} {f : IntField}
    (h : ∀ callee ∈ callees, ∀ v, P (.call callee [v])) :
  Adds P s (s.calls callees f)
  := by
  rw [Session.calls_eq]
  refine ⟨_, rfl, ?_⟩
  intro e he
  obtain ⟨callee, hcallee, rfl⟩ := List.mem_map.mp he
  apply h callee hcallee

theorem Hook.run_effects (hook : Hook) : (hook.run s).effects = s.effects := by
  cases hook
  all_goals rfl

/-! ### What the branches emit -/

/-- The command that sets the clock to the time `value`. -/
def dateCommand (value : List Char) : List Char := "date -s \"".toList ++ value ++ "\" -u".toList

/-- The arguments with which `switch.sh` is run by `e_enc_resolution`. -/
def switchArgs : List String := ["1 0", "1 2", "2 0", "2 1", "0 1", "0 2"]

/-- What a branch with the `value` may do to the rest of the system, at the cursor `c`. -/
def Branch.Emits (value : List Char) (c : Cursor) : Branch → Effect → Prop
  | .int _ _ callees _ _ _, e => ∃ callee ∈ callees, ∃ v, e = .call callee [v]
  | .frameRate, e => e = .call .setFps [c.channel, c.subChannel, frameRateValue value]
  | .bitRate, e => e = .call .setBps [c.channel, c.subChannel, bitRateValue c.channel value]
  | .ipInterval, e => e = .call .setIpInt [c.channel, c.subChannel, atoi value]
  | .synchronizationPoint, e => e = .call .setIFrame [atoi value]
  | .fw, e => e = .call .initIspPwFrequency [atoi value]
  | .encResolution, e =>
      ∃ arg ∈ switchArgs, e = .system ("/bin/sh /mnt/mtd/switch.sh ".toList ++ arg.toList)
  | .nvrOpt, e => ∃ callee ∈ [Callee.setNvrSendStatus, .setIdrBr], ∃ args, e = .call callee args
  | .nvrForIDR, e => e = .call .setIdrBr [c.channel, c.subChannel]
  | .netmask, e => e = .netSetNetmask value
  | .systime, e => e = .system (dateCommand value) ∨ e = .killThttpd
  | .ptzstring, e => e = .mctpCmd value
  | .vzoom, e | .stop, e | .gotoPreset, e | .deletepreset, e =>
      ∃ command arg, e = .mctpCmd (ptzcmd command arg)
  | .reset, e =>
      e = .mctpCmd (ptzcmd Msg.gotoPreset 95) ∨ ∃ file ∈ resetTable, e = .defaultSetting file
  | .protocol, e => e = .call .setProtocol [atoi value]
  | _, _ => False

theorem intBranch_adds
    {ref shown : IntRef} {flag : CfgFile} {callees : List Callee} {hook : Hook}
    (h : ∀ callee ∈ callees, ∀ v, P (.call callee [v])) :
  AddsOnly P s (intBranch ref flag callees hook label shown value s)
  := by
  apply onCmd_adds
  · apply after_adds
    intro f
    apply ite_adds _ (ok_adds (by rfl))
    apply Yields.of_ok
    have hset : Adds P s (s.setInt f (atoi value)) := Adds.of_eq rfl
    apply (hset.trans (calls_adds h)).trans
    apply Adds.of_eq
    apply hook.run_effects.trans
    rfl
  · apply after_adds fun _ => reply_adds

theorem textBranch_adds {f : StrField} {flag : CfgFile} {hook : Hook} :
  AddsOnly P s (textBranch f flag hook key value s)
  := by
  apply onCmd_adds
  · apply after_adds
    intro b
    apply ite_adds (ok_adds (by rfl))
    apply bind_adds setText_adds
    intro s₁
    apply ok_adds
    apply hook.run_effects.trans
    rfl
  · apply after_adds fun _ => reply_adds

theorem chanBranch_adds {ref : ChanRef} : AddsOnly P s (chanBranch ref key value s) := by
  apply onCmd_adds
  · apply after_adds fun _ => ite_adds (ok_adds (by rfl)) (ok_adds (by rfl))
  · apply after_adds fun _ => reply_adds

theorem getBranch_adds {t : Except Fault (List Char)} : AddsOnly P s (getBranch key t s) :=
  ite_adds (after_adds fun _ => reply_adds) (ok_adds (by rfl))

theorem osdBranch_adds {f : OsdField} : AddsOnly P s (osdBranch f key value s) := by
  apply ite_adds (ok_adds (by rfl))
  apply onCmd_adds (ite_adds (ok_adds (by rfl)) (ok_adds (by rfl))) reply_adds

theorem osdNameBranch_adds : AddsOnly P s (osdNameBranch value s) := by
  apply ite_adds (ok_adds (by rfl))
  apply onCmd_adds
  · apply after_adds
    intro b
    apply ite_adds (ok_adds (by rfl))
    apply bind_adds setText_adds
    intro s₁
    exact ok_adds (by rfl)
  · apply after_adds fun _ => reply_adds

theorem streamBranch_adds {f : UbsField} {callee : Callee} {v : Int}
    (h : P (.call callee [s.channel, s.subChannel, v])) :
  AddsOnly P s (streamBranch f callee v s)
  := by
  apply after_adds
  intro g
  apply ite_adds _ (ok_adds (by rfl))
  apply ok_adds_one _ h
  split
  · rfl
  · rfl

theorem setIdrBr_adds (h : P (.call .setIdrBr [s.channel, s.subChannel])) :
  AddsOnly P s (setIdrBr s)
  := after_adds fun _ => after_adds fun _ => ok_adds_one (by rfl) h

theorem setNvrSendStatus_adds {opt : Int}
    (h : ∀ callee ∈ [Callee.setNvrSendStatus, .setIdrBr], ∀ args, P (.call callee args)) :
  AddsOnly P s (setNvrSendStatus opt s)
  := by
  apply ite_adds (ok_adds (by rfl))
  apply after_adds
  intro _
  apply after_adds
  intro _
  have hstatus : Adds P s
      (s.effect (.call .setNvrSendStatus [s.channel, s.subChannel, opt])) :=
    Adds.one rfl (h _ (.head _) _)
  apply ite_adds
  · apply follow_adds _ hstatus
    apply setIdrBr_adds (h _ (.tail _ (.head _)) _)
  · apply Yields.of_ok hstatus

theorem encResolutionBranch_adds
    (h : ∀ arg ∈ switchArgs,
      P (.system ("/bin/sh /mnt/mtd/switch.sh ".toList ++ arg.toList))) :
  AddsOnly P s (encResolutionBranch value s)
  := by
  have hswitch (arg : String) (harg : arg ∈ switchArgs) : AddsOnly P s
      (.ok (s.effect (.system ("/bin/sh /mnt/mtd/switch.sh ".toList ++ arg.toList)))) :=
    ok_adds_one (by rfl) (h arg harg)
  have h₁₀ := hswitch "1 0" (by decide)
  have h₁₂ := hswitch "1 2" (by decide)
  have h₂₀ := hswitch "2 0" (by decide)
  have h₂₁ := hswitch "2 1" (by decide)
  have h₀₁ := hswitch "0 1" (by decide)
  have h₀₂ := hswitch "0 2" (by decide)
  have hnone : AddsOnly P s (.ok s) := ok_adds (by rfl)
  apply ite_adds reply_adds
  apply ite_adds
  · apply ite_adds (ite_adds h₁₀ h₁₂) hnone
  · apply ite_adds
    · apply ite_adds (ite_adds h₂₀ h₂₁) hnone
    · apply ite_adds h₀₁ (ite_adds h₀₂ hnone)

theorem netmaskBranch_adds (h : P (.netSetNetmask value)) :
  AddsOnly P s (netmaskBranch value s)
  := by
  apply onCmd_adds
  · apply after_adds
    intro b
    apply ite_adds (ok_adds (by rfl))
    apply bind_adds setText_adds
    intro s₁
    exact ok_adds_one (by rfl) h
  · apply after_adds fun _ => reply_adds

theorem systimeBranch_adds (h : P (.system (dateCommand value))) (h' : P .killThttpd) :
  AddsOnly P s (systimeBranch env value s)
  := by
  apply onCmd_adds
  · apply after_adds
    intro b
    apply ite_adds (ok_adds (by rfl))
    apply ite_adds
    · have hdate : Adds P s (s.effect (.system (dateCommand value))) := Adds.one rfl h
      have hkill : Adds P (s.effect (.system (dateCommand value)))
          ((s.effect (.system (dateCommand value))).effect .killThttpd) := Adds.one rfl h'
      exact follow_adds setText_adds (hdate.trans hkill)
    · apply Yields.of_error
  · apply reply_adds

theorem userNameBranch_adds : AddsOnly P s (userNameBranch value s) := by
  apply bind_adds
  · apply onCmd_adds
    · apply ite_adds
      · apply after_adds
        intro i
        apply ite_adds (ok_adds (by rfl))
        exact follow_adds setText_adds (Adds.of_eq rfl)
      · apply ite_adds
        · apply after_adds fun _ => ite_adds (ok_adds (by rfl)) (ok_adds (by rfl))
        · apply ite_adds (after_adds fun _ => ok_adds (by rfl)) (ok_adds (by rfl))
    · apply after_adds fun _ => ok_adds (by rfl)
  · intro s₁
    apply after_adds
    intro i
    apply after_adds
    intro t
    exact follow_adds reply_adds (Adds.of_eq rfl)

theorem userPasswordBranch_adds : AddsOnly P s (userPasswordBranch value s) := by
  apply ite_adds _ (ok_adds (by rfl))
  apply after_adds
  intro i
  apply bind_adds setText_adds
  intro s₁
  exact ok_adds (by rfl)

theorem gotoReply_adds {cValue error : Int} : AddsOnly P s (gotoReply cValue error s) := by
  apply follow_adds answers_adds
  exact Adds.of_eq rfl

theorem gotoPresetBranch_adds (h : ∀ command arg, P (.mctpCmd (ptzcmd command arg))) :
  AddsOnly P s (gotoPresetBranch value s)
  := by
  have hrestored (c : Prop) [Decidable c] (mem : Contents) (cmd arg : Int) :
      Adds P s ((if c then ({ s with mem := mem, i := ptzPresetAllnum }).setFileChanged .ptzPreset
        else s).effect (.mctpCmd (ptzcmd cmd arg))) := by
    split
    · exact Adds.one rfl (h _ _)
    · exact Adds.one rfl (h _ _)
  apply ite_adds _ (ok_adds (by rfl))
  apply ite_adds _ gotoReply_adds
  apply ite_adds _ gotoReply_adds
  apply follow_adds gotoReply_adds (hrestored _ _ _ _)

theorem deletepresetBranch_adds (h : ∀ command arg, P (.mctpCmd (ptzcmd command arg))) :
  AddsOnly P s (deletepresetBranch value s)
  := by
  apply ite_adds _ (ok_adds (by rfl))
  apply ite_adds (ok_adds (by rfl))
  apply ite_adds (ok_adds (by rfl))
  apply ite_adds (ok_adds (by rfl))
  exact ok_adds_one (by rfl) (h _ _)

theorem resetBranch_adds
    (h : P (.mctpCmd (ptzcmd Msg.gotoPreset 95))) (h' : ∀ file ∈ resetTable, P (.defaultSetting file)) :
  AddsOnly P s (resetBranch env s)
  := by
  apply ite_adds _ (ok_adds (by rfl))
  apply bind_adds
  · unfold doReset
    apply Yields.foldlM
    · intro s₁ file hfile hs₁
      apply Yields.ite
      · intro _
        have hreset : Adds P s₁
            { ({ s₁ with flash := s₁.flash.load env.defaults file }.effect (.defaultSetting file)) with
              mem := s₁.mem.load (s₁.flash.load env.defaults file) file } :=
          Adds.one rfl (h' file hfile)
        exact Yields.of_ok (hs₁.trans hreset)
      · intro _
        apply Yields.of_error
    · exact Adds.one rfl h
  · intro s₁
    exact ok_adds (by rfl)

/-- A branch `b` adds no effect but those that it emits, `Branch.Emits`. -/
theorem Branch.run_adds {b : Branch} :
  AddsOnly (b.Emits value s.cursor) s (b.run env key value s)
  := by
  cases b with
  | int => apply intBranch_adds fun callee hmem v => ⟨callee, hmem, v, rfl⟩
  | text => apply textBranch_adds
  | chan => apply chanBranch_adds
  | osd => apply osdBranch_adds
  | osdName => apply osdNameBranch_adds
  | recCfg => apply ite_adds (ite_adds (ok_adds (by rfl)) (ok_adds (by rfl))) reply_adds
  | constant | constantText | nvrClientID | serialNumber | shown | shownText | wfsearchEssid =>
      apply getBranch_adds
  | width => apply getBranch_adds
  | height => apply getBranch_adds
  | videoAddr => apply getBranch_adds
  | videoResolutions => apply getBranch_adds
  | frameRate => apply onCmd_adds (streamBranch_adds (by rfl)) (after_adds fun _ => reply_adds)
  | bitRate => apply onCmd_adds (streamBranch_adds (by rfl)) (after_adds fun _ => reply_adds)
  | ipInterval => apply onCmd_adds (streamBranch_adds (by rfl)) (after_adds fun _ => reply_adds)
  | nvrOpt =>
      apply ite_adds _ (ok_adds (by rfl))
      apply setNvrSendStatus_adds fun callee hmem args => ⟨callee, hmem, args, rfl⟩
  | nvrForIDR => apply ite_adds (setIdrBr_adds (by rfl)) (ok_adds (by rfl))
  | type =>
      apply ok_adds
      simp only
      split
      · rfl
      · rfl
  | vdmaskNO | preset | presetname | snapshotStart | ignored => exact ok_adds (by rfl)
  | vx | vy =>
      apply ok_adds
      split
      · rfl
      · rfl
  | chn | subChn | osdRegion => exact follow_adds answer_adds (Adds.of_eq rfl)
  | wfsearchAccesspoints =>
      apply ite_adds _ (ok_adds (by rfl))
      apply ite_adds (ok_adds (by rfl))
      exact follow_adds reply_adds (Adds.of_eq rfl)
  | mdArea => exact ite_adds (ok_adds (by rfl)) (follow_adds reply_adds (Adds.of_eq rfl))
  | userOptType => exact ite_adds (ite_adds (ok_adds (by rfl)) (ok_adds (by rfl))) (ok_adds (by rfl))
  | synchronizationPoint | ptzstring => exact ite_adds (ok_adds_one (by rfl) rfl) (ok_adds (by rfl))
  | stop => exact ite_adds (ok_adds_one (by rfl) ⟨_, _, rfl⟩) (ok_adds (by rfl))
  | reboot => exact ite_adds (ok_adds (by rfl)) (ok_adds (by rfl))
  | fw =>
      apply onCmd_adds _ reply_adds
      apply ite_adds (ok_adds (by rfl))
      exact ite_adds (ok_adds_one (by rfl) rfl) (ok_adds (by rfl))
  | encResolution => apply encResolutionBranch_adds fun arg hmem => ⟨arg, hmem, rfl⟩
  | netmask => apply netmaskBranch_adds (by rfl)
  | macaddr =>
      apply onCmd_adds (ite_adds (ok_adds (by rfl)) (ok_adds (by rfl)))
      exact follow_adds reply_adds (Adds.of_eq rfl)
  | dstmode => exact onCmd_adds (ite_adds (ok_adds (by rfl)) (ok_adds (by rfl))) reply_adds
  | ntpenable => exact onCmd_adds (ite_adds (ok_adds (by rfl)) (ok_adds (by rfl))) reply_adds
  | cldEnable => exact onCmd_adds (ite_adds (ok_adds (by rfl)) (ok_adds (by rfl))) reply_adds
  | protocol => exact onCmd_adds (ite_adds (ok_adds_one (by rfl) rfl) (ok_adds (by rfl))) reply_adds
  | systime => apply systimeBranch_adds (Or.inl rfl) (Or.inr rfl)
  | devtype => exact ite_adds (follow_adds reply_adds (Adds.of_eq rfl)) (ok_adds (by rfl))
  | userName => apply userNameBranch_adds
  | userPassword => apply userPasswordBranch_adds
  | userGroup => exact ite_adds (after_adds fun _ => ok_adds (by rfl)) (ok_adds (by rfl))
  | vzoom =>
      apply ite_adds _ (ok_adds (by rfl))
      exact ite_adds (ok_adds_one (by rfl) ⟨_, _, rfl⟩) (ok_adds_one (by rfl) ⟨_, _, rfl⟩)
  | gotoPreset => apply gotoPresetBranch_adds fun command arg => ⟨command, arg, rfl⟩
  | deletepreset => apply deletepresetBranch_adds fun command arg => ⟨command, arg, rfl⟩
  | allpresets => exact ite_adds (ok_adds (by rfl)) (ok_adds (by rfl))
  | defaultTimeout => exact ite_adds answer_adds (ok_adds (by rfl))
  | reset => apply resetBranch_adds (Or.inl rfl) fun file hfile => Or.inr ⟨file, hfile, rfl⟩
  | recEnable => exact ite_adds (ite_adds (ok_adds (by rfl)) (ok_adds (by rfl))) reply_adds

variable {req : Request} {d : Device} {reply : Reply}

/-- The item `x` may have the effect `e`: its branch emits it, with its value and at its cursor. -/
def Item.Emits (x : Item) (e : Effect) : Prop := x.key.branch.Emits x.value x.cursor e

theorem Item.run_adds {x : Item} (hc : s.cursor = x.cursor) (h : x.run env s = .ok s') :
  Adds x.Emits s s'
  := by
  unfold Item.Emits
  rw [← hc]
  apply Branch.run_adds _ h

/-- Every effect `e` of the loop over the pairs is one that an item of the request emits. -/
theorem processPairs_effects (h : processPairs env req (.start env d) = .ok t) {e : Effect}
    (he : e ∈ t.effects) :
  ∃ x ∈ d.items req, x.Emits e
  := by
  revert e
  apply processPairs_invariant (I := fun t => ∀ e ∈ t.effects, ∃ x ∈ d.items req, x.Emits e) _ h
    (start_at env d)
  · intro e he
    cases he
  · intro s x s' hx hc hs hrun e he
    obtain he | hemits := (Item.run_adds hc hrun).mem he
    · apply hs e he
    · use x, hx, hemits

/-! ### Behind the loop -/

/-- What other parts of the system are told behind the loop over the pairs. -/
def Notifies : Effect → Prop
  | .mctpCmd command => ∃ cmd arg, command = ptzcmd cmd arg
  | .setPtz _ _ | .genIfCfg | .startNtp | .recCfgSet | .sendOsd _ => True
  | _ => False

/-- What is done behind the loop over the pairs: other parts are told, files are written, and the
device is rebooted. -/
def Finishes : Effect → Prop
  | .mctpCmd command => ∃ cmd arg, command = ptzcmd cmd arg
  | .setPtz _ _ | .genIfCfg | .startNtp | .recCfgSet | .sendOsd _ | .writeCfgFile _ => True
  | .system command => command = "/sbin/reboot".toList
  | _ => False

theorem Notifies.finishes {e : Effect} (h : Notifies e) : Finishes e := by
  cases e
  case mctpCmd => exact h
  case setPtz | genIfCfg | startNtp | recCfgSet | sendOsd => exact trivial
  all_goals cases h

theorem setPresets_adds {i : Nat} {name : List Char} : AddsOnly P s (setPresets i name s) := by
  apply bind_adds
  · apply Yields.foldlM
    · intro s₁ n _ hs₁
      apply Yields.mono _ fun _ h => hs₁.trans h
      apply ite_adds (ok_adds (by rfl))
      exact follow_adds setText_adds (Adds.of_eq rfl)
    · exact Adds.of_eq rfl
  · intro s₁
    exact ok_adds rfl

theorem dealPtzPreset_adds (h : ∀ command arg, P (.mctpCmd (ptzcmd command arg))) :
  AddsOnly P s (dealPtzPreset s)
  := by
  apply ite_adds answers_adds
  apply ite_adds
  · apply ite_adds answers_adds
    apply after_adds
    intro name
    apply ite_adds
    · apply ite_adds answer_adds
      apply bind_adds answers_adds
      intro s₁
      apply after_adds
      intro i
      exact follow_adds setPresets_adds (Adds.one rfl (h _ _))
    · apply bind_adds answers_adds
      intro s₁
      apply bind_adds setPresets_adds
      intro s₂
      exact ok_adds_one rfl (h _ _)
  · apply ite_adds answers_adds
    apply ite_adds _ answers_adds
    apply after_adds fun _ => answers_adds

theorem finishPreset_adds
    (hP : ∀ command arg, P (.mctpCmd (ptzcmd command arg))) (h : finishPreset s = .ok s') :
  Adds P s s'
  := by
  unfold finishPreset at h
  split at h
  · obtain ⟨s₁, hs₁, rfl⟩ := map_ok.mp h
    exact (dealPtzPreset_adds hP _ hs₁).trans (Adds.of_eq rfl)
  · obtain rfl := Except.ok.inj h
    exact Adds.of_eq rfl

/-- An effect `e` with `P` that is added under a condition is among effects that `Adds` allows. -/
theorem Adds.ite_effect {c : Prop} [Decidable c] {e : Effect} (he : c → P e) :
  Adds P s (if c then s.effect e else s)
  := by
  split
  · next hc => exact Adds.one rfl (he hc)
  · exact Adds.of_eq rfl

theorem ite_effect_ntp {c : Prop} [Decidable c] {e : Effect} :
  (if c then s.effect e else s).ntpserverCfg = s.ntpserverCfg
  := by
  split
  · rfl
  · rfl

/-- What `notify` adds has `P` if its notes have: the server for the time is asked only when the
settings for it have been changed. -/
theorem notify_adds_of
    (hptz : ∀ vx vy, P (.setPtz vx vy)) (hif : P .genIfCfg)
    (hntp : s.ntpserverCfg ≠ 0 → P .startNtp) (hrec : P .recCfgSet) :
  Adds P s (notify env s)
  := by
  unfold notify
  apply Adds.trans _ (Adds.ite_effect fun _ => hrec)
  apply Adds.trans _ (Adds.ite_effect _)
  · apply Adds.trans (Adds.ite_effect fun _ => hptz _ _) (Adds.ite_effect fun _ => hif)
  · rw [ite_effect_ntp, ite_effect_ntp]
    apply hntp

theorem notify_startNtp (h : s.ntpserverCfg ≠ 0) : .startNtp ∈ (notify env s).effects := by
  have hrec {c : Prop} [Decidable c] (s : Session) :
      Adds (fun _ => True) s (if c then s.effect .recCfgSet else s) :=
    Adds.ite_effect fun _ => trivial
  unfold notify
  apply (hrec _).mem_left
  rw [if_pos (by rwa [ite_effect_ntp, ite_effect_ntp])]
  apply List.mem_append_right _ (.head _)

theorem notify_adds (env : Env) (s : Session) : Adds Notifies s (notify env s) :=
  notify_adds_of (fun _ _ => trivial) trivial (fun _ => trivial) trivial

theorem sendOsd_adds (hP : ∀ r, P (.sendOsd r)) (h : sendOsd env s = .ok s') : Adds P s s' := by
  unfold sendOsd at h
  split at h
  · obtain ⟨r, -, h⟩ := bind_ok.mp h
    obtain rfl := Except.ok.inj h
    exact Adds.one rfl (hP r)
  · obtain rfl := Except.ok.inj h
    exact Adds.of_eq rfl

/-- The `files` of a list are written where they are marked, and nothing else is done. -/
theorem foldl_writeFile_adds (hP : ∀ file, P (.writeCfgFile file)) (files : List CfgFile)
    (s : Session) :
  Adds P s (files.foldl writeFile s)
  := by
  induction files generalizing s with
  | nil => exact Adds.of_eq rfl
  | cons file files ih =>
      have hfile : Adds P s (writeFile s file) := by
        unfold writeFile
        split
        · exact Adds.one rfl (hP file)
        · exact Adds.of_eq rfl
      rw [List.foldl_cons]
      apply hfile.trans (ih _)

theorem writeFiles_adds (hP : ∀ file, P (.writeCfgFile file)) (s : Session) :
  Adds P s (writeFiles s)
  := foldl_writeFile_adds hP fileArray s

theorem finish_adds (h : finish env s = .ok s') : Adds Finishes s s' := by
  obtain ⟨s₁, hs₁, h⟩ := bind_ok.mp h
  obtain ⟨s₂, hs₂, h⟩ := bind_ok.mp h
  obtain rfl := Except.ok.inj h
  apply (finishPreset_adds (fun command arg => ⟨command, arg, rfl⟩) hs₁).trans
  apply ((notify_adds env s₁).mono fun _ => Notifies.finishes).trans
  apply (sendOsd_adds (by exact fun _ => trivial) hs₂).trans
  apply (writeFiles_adds (by exact fun _ => trivial) s₂).trans
  exact Adds.ite_effect fun _ => rfl

/-- Every effect `e` of a request that is answered is emitted by an item of it, or is one that the
request `Finishes` with. -/
theorem processMsg_effects (h : processMsg env req d = .ok reply) {e : Effect}
    (he : e ∈ reply.effects) :
  (∃ x ∈ d.items req, x.Emits e) ∨ Finishes e
  := by
  obtain ⟨t, ht, h⟩ := bind_ok.mp h
  obtain ⟨s, hs, h⟩ := bind_ok.mp h
  obtain rfl := Except.ok.inj h
  apply ((finish_adds hs).mem he).imp_left
  apply processPairs_effects ht

end Msg
