import Avserver.Msg.Selectors

/-!
# The variables that the pairs share

Besides the cursor, three variables are set by pairs and used by others or behind the loop: the
OSD region selected, with the note that a region has been changed, the entry of the users found
last, in `i` and `index1`, and the number of changes of the settings for the server of the time.
A branch leaves the first alone if it is not for an OSD region (`Branch.run_osd`), the second if it
searches no table (`Branch.run_user`), and the third if it notes no such change (`Branch.run_ntp`).
What is asked for about a preset, which is dealt with behind the loop too, is left alone by all
branches but the two for it (`Branch.run_unasked`).

A change of an OSD region is sent to the overlay process behind the loop, with the data of the
region that is selected then.  That region need not be the one that has changed, nor be in the
table at all.
-/

namespace Msg

open Library

variable {env : Env} {s s' t : Session} {key label : Key} {value : List Char}

/-! ### What is kept -/

/-- The region that is selected in the session `s`, and whether a region has been changed. -/
def Session.osd (s : Session) : Int × Bool := (s.osdRegion, s.osdCfg)

/-- The number that the loops over tables end with, and the entry of the users that is used. -/
def Session.user (s : Session) : Nat × Int := (s.i, s.index1)

/-- The variables `osd` and `user` of the session `s`. -/
def Session.vars (s : Session) : (Int × Bool) × (Nat × Int) := (s.osd, s.user)

/-- The variables `osd` and `user` of the session `s`, and how often the settings for the server of
the time have been changed. -/
def Session.core (s : Session) : (Int × Bool) × (Nat × Int) × Nat :=
  (s.osd, s.user, s.ntpserverCfg)

/-- What the request has asked for about a preset: its number, how often, and the buffer of the
name. -/
def Session.asked (s : Session) : Int × Nat × List Char :=
  (s.ptzpresetIndex, s.ptzPresetIn, s.ptzPresetName)

/-- What a search in a table leaves alone: the region, and the count of changes for the server of
the time. -/
def Session.noted (s : Session) : (Int × Bool) × Nat := (s.osd, s.ntpserverCfg)

/-- What a change of a region leaves alone: what a search has found, and the count of changes for
the server of the time. -/
def Session.found (s : Session) : (Nat × Int) × Nat := (s.user, s.ntpserverCfg)

/-- If the computation `x` succeeds, the variables `π` of the session stay as they are. -/
abbrev Keeps {α : Type} (π : Session → α) (s : Session) (x : Except Fault Session) : Prop :=
  Yields (fun s' => π s' = π s) x

@[inherit_doc Keeps] abbrev KeepsOsd (s : Session) : Except Fault Session → Prop :=
  Keeps Session.osd s
@[inherit_doc Keeps] abbrev KeepsUser (s : Session) : Except Fault Session → Prop :=
  Keeps Session.user s
@[inherit_doc Keeps] abbrev KeepsVars (s : Session) : Except Fault Session → Prop :=
  Keeps Session.vars s
@[inherit_doc Keeps] abbrev KeepsNtp (s : Session) : Except Fault Session → Prop :=
  Keeps Session.ntpserverCfg s
@[inherit_doc Keeps] abbrev KeepsCore (s : Session) : Except Fault Session → Prop :=
  Keeps Session.core s
@[inherit_doc Keeps] abbrev KeepsAsked (s : Session) : Except Fault Session → Prop :=
  Keeps Session.asked s

/-- If the computation `x` succeeds, the variables `π` of the session stay as they are, and with
them what is asked for about a preset. -/
abbrev KeepsToo {α : Type} (π : Session → α) (s : Session) (x : Except Fault Session) : Prop :=
  Keeps (fun s => (π s, s.asked)) s x

@[inherit_doc KeepsToo] abbrev KeepsStill (s : Session) : Except Fault Session → Prop :=
  KeepsToo Session.core s

section

variable {α β : Type} {π : Session → α} {x : Except Fault Session}

theorem core_vars (h : s'.core = s.core) : s'.vars = s.vars :=
  congrArg (fun c => (c.1, c.2.1)) h

theorem KeepsVars.osd (h : KeepsVars s x) : KeepsOsd s x := h.mono fun _ => congrArg Prod.fst

theorem KeepsVars.user (h : KeepsVars s x) : KeepsUser s x := h.mono fun _ => congrArg Prod.snd

theorem KeepsCore.vars (h : KeepsCore s x) : KeepsVars s x := h.mono fun _ => core_vars

theorem KeepsCore.ntp (h : KeepsCore s x) : KeepsNtp s x :=
  h.mono fun _ => congrArg fun c : (Int × Bool) × (Nat × Int) × Nat => c.2.2

theorem KeepsToo.fst (h : KeepsToo π s x) : Keeps π s x := h.mono fun _ => congrArg Prod.fst

theorem KeepsToo.asked (h : KeepsToo π s x) : KeepsAsked s x := h.mono fun _ => congrArg Prod.snd

/-- If the variables `π` stay as they are, so do those, `ρ`, that are computed from them by `f`. -/
theorem KeepsToo.map {ρ : Session → β} (f : α → β) (h : KeepsToo π s x) (hρ : ρ = f ∘ π) :
  KeepsToo ρ s x
  := by
  subst hρ
  apply h.mono fun _ => congrArg fun c : α × (Int × Nat × List Char) => (f c.1, c.2)

theorem KeepsStill.vars (h : KeepsStill s x) : KeepsToo Session.vars s x :=
  h.map (fun c => (c.1, c.2.1)) rfl

theorem KeepsStill.noted (h : KeepsStill s x) : KeepsToo Session.noted s x :=
  h.map (fun c => (c.1, c.2.2)) rfl

theorem KeepsStill.found (h : KeepsStill s x) : KeepsToo Session.found s x :=
  h.map Prod.snd rfl

theorem KeepsStill.osd (h : KeepsStill s x) : KeepsOsd s x :=
  KeepsVars.osd h.vars.fst

theorem KeepsStill.user (h : KeepsStill s x) : KeepsUser s x :=
  KeepsVars.user h.vars.fst

theorem KeepsStill.ntp (h : KeepsStill s x) : KeepsNtp s x :=
  h.noted.fst.mono fun _ => congrArg Prod.snd

theorem ok_keeps (h : π s' = π s) : Keeps π s (.ok s') := Yields.of_ok h

theorem ite_keeps {c : Prop} [Decidable c] {x y : Except Fault Session} (hx : Keeps π s x)
    (hy : Keeps π s y) :
  Keeps π s (if c then x else y)
  := Yields.ite (fun _ => hx) fun _ => hy

theorem bind_keeps {x : Except Fault Session} {f : Session → Except Fault Session}
    (hx : Keeps π s x) (hf : ∀ s₁, π s₁ = π s → Keeps π s (f s₁)) :
  Keeps π s (x >>= f)
  := Yields.bind hx hf

theorem after_keeps {x : Except Fault β} {f : β → Except Fault Session}
    (hf : ∀ a, Keeps π s (f a)) :
  Keeps π s (x >>= f)
  := Yields.of_bind hf

theorem follow_keeps {s₁ : Session} {x : Except Fault Session} (hx : Keeps π s₁ x)
    (hs : π s₁ = π s) :
  Keeps π s x
  := fun s' hs' => (hx s' hs').trans hs

theorem onCmd_keeps {set get : Except Fault Session} (hset : Keeps π s set)
    (hget : Keeps π s get) :
  Keeps π s (s.onCmd set get)
  := ite_keeps hset (ite_keeps hget (ok_keeps rfl))

end

/-! ### Branches that leave the variables alone -/

theorem calls_still (callees : List Callee) (f : IntField) :
  ((s.calls callees f).core, (s.calls callees f).asked) = (s.core, s.asked)
  := by
  rw [Session.calls_eq]
  rfl

theorem Hook.run_vars (hook : Hook) : (hook.run s).vars = s.vars := by
  cases hook
  all_goals rfl

theorem Hook.run_asked (hook : Hook) : (hook.run s).asked = s.asked := by
  cases hook
  all_goals rfl

theorem Hook.run_still {hook : Hook} (h : hook ≠ .ntpserverCfg) : ((hook.run s).core, (hook.run s).asked) = (s.core, s.asked) := by
  cases hook
  case ntpserverCfg => contradiction
  all_goals rfl

theorem answers_still {as : List Answer} : KeepsStill s (s.answers as) :=
  Yields.ite (fun _ => Yields.of_ok rfl) fun _ => Yields.of_error

theorem answer_still {t : List Char} : KeepsStill s (s.answer key t) :=
  Yields.ite (fun _ => Yields.of_ok rfl) fun _ => Yields.of_error

theorem setText_still {f : StrField} : KeepsStill s (s.setText f value) :=
  Yields.of_bind fun _ => Yields.of_ok rfl

theorem reply_still {t : List Char} : KeepsStill s (s.reply key t) := by
  apply follow_keeps answer_still
  rfl

section

variable {α : Type} {π : Session → α} {hook : Hook}

/-- If `π` depends on what stays still, and on nothing that the `hook` changes, then `intBranch`
keeps it. -/
theorem intBranch_keeps
    {ref shown : IntRef} {flag : CfgFile} {callees : List Callee}
    (hπ : ∀ s s', (s'.core, s'.asked) = (s.core, s.asked) → π s' = π s) (hhook : ∀ s, π (hook.run s) = π s) :
  Keeps π s (intBranch ref flag callees hook label shown value s)
  := by
  apply onCmd_keeps
  · apply after_keeps
    intro f
    apply ite_keeps _ (ok_keeps (by rfl))
    apply ok_keeps
    rw [hhook]
    apply hπ
    apply (calls_still ..).trans rfl
  · apply after_keeps
    intro _
    apply reply_still.mono fun _ => hπ s _

@[inherit_doc intBranch_keeps]
theorem textBranch_keeps
    {f : StrField} {flag : CfgFile} (hπ : ∀ s s', (s'.core, s'.asked) = (s.core, s.asked) → π s' = π s)
    (hhook : ∀ s, π (hook.run s) = π s) :
  Keeps π s (textBranch f flag hook key value s)
  := by
  apply onCmd_keeps
  · apply after_keeps
    intro b
    apply ite_keeps (ok_keeps (by rfl))
    apply bind_keeps (setText_still.mono fun _ => hπ s _)
    intro s₁ hs₁
    apply ok_keeps
    rw [hhook, ← hs₁]
    apply hπ
    rfl
  · apply after_keeps
    intro _
    apply reply_still.mono fun _ => hπ s _

end

theorem chanBranch_still {ref : ChanRef} : KeepsStill s (chanBranch ref key value s) := by
  apply onCmd_keeps
  · apply after_keeps fun _ => ite_keeps (ok_keeps (by rfl)) (ok_keeps (by rfl))
  · apply after_keeps fun _ => reply_still

theorem getBranch_still {t : Except Fault (List Char)} : KeepsStill s (getBranch key t s) :=
  ite_keeps (after_keeps fun _ => reply_still) (ok_keeps (by rfl))

theorem streamBranch_still {f : UbsField} {callee : Callee} {v : Int} :
  KeepsStill s (streamBranch f callee v s)
  := by
  apply after_keeps
  intro g
  apply ite_keeps _ (ok_keeps (by rfl))
  apply ok_keeps
  split
  · rfl
  · rfl

theorem setIdrBr_still : KeepsStill s (setIdrBr s) :=
  after_keeps fun _ => after_keeps fun _ => ok_keeps (by rfl)

theorem setNvrSendStatus_still {opt : Int} : KeepsStill s (setNvrSendStatus opt s) := by
  apply ite_keeps (ok_keeps (by rfl))
  apply after_keeps
  intro _
  apply after_keeps
  intro _
  apply ite_keeps _ (ok_keeps (by rfl))
  apply setIdrBr_still

theorem netmaskBranch_still : KeepsStill s (netmaskBranch value s) := by
  apply onCmd_keeps
  · apply after_keeps
    intro b
    apply ite_keeps (ok_keeps (by rfl))
    apply bind_keeps setText_still
    intro s₁ hs₁
    exact ok_keeps hs₁
  · apply after_keeps fun _ => reply_still

theorem systimeBranch_still : KeepsStill s (systimeBranch env value s) := by
  apply onCmd_keeps
  · apply after_keeps
    intro b
    apply ite_keeps (ok_keeps (by rfl))
    apply ite_keeps
    · apply setText_still
    · apply Yields.of_error
  · apply reply_still

theorem encResolutionBranch_still : KeepsStill s (encResolutionBranch value s) := by
  apply ite_keeps reply_still
  apply ite_keeps
  · apply ite_keeps (ite_keeps (ok_keeps (by rfl)) (ok_keeps (by rfl))) (ok_keeps (by rfl))
  · apply ite_keeps
    · apply ite_keeps (ite_keeps (ok_keeps (by rfl)) (ok_keeps (by rfl))) (ok_keeps (by rfl))
    · apply ite_keeps (ok_keeps (by rfl)) (ite_keeps (ok_keeps (by rfl)) (ok_keeps (by rfl)))

theorem userPasswordBranch_still : KeepsStill s (userPasswordBranch value s) := by
  apply ite_keeps _ (ok_keeps (by rfl))
  apply after_keeps
  intro i
  apply bind_keeps setText_still
  intro s₁ hs₁
  exact ok_keeps hs₁

theorem gotoReply_still {cValue error : Int} : KeepsStill s (gotoReply cValue error s) := by
  apply follow_keeps answers_still
  rfl

theorem deletepresetBranch_still : KeepsStill s (deletepresetBranch value s) := by
  apply ite_keeps _ (ok_keeps (by rfl))
  apply ite_keeps (ok_keeps (by rfl))
  apply ite_keeps (ok_keeps (by rfl))
  apply ite_keeps (ok_keeps (by rfl)) (ok_keeps (by rfl))

theorem resetBranch_still : KeepsStill s (resetBranch env s) := by
  apply ite_keeps _ (ok_keeps (by rfl))
  apply bind_keeps
  · unfold doReset
    apply Yields.foldlM (I := fun s₁ : Session => (s₁.core, s₁.asked) = (s.core, s.asked))
    · intro s₁ file _ hs₁
      apply Yields.ite
      · intro _
        exact Yields.of_ok hs₁
      · intro _
        apply Yields.of_error
    · rfl
  · intro s₁ hs₁
    exact ok_keeps hs₁

theorem wfsearchAccesspointsBranch_still : KeepsStill s (wfsearchAccesspointsBranch value s) := by
  unfold wfsearchAccesspointsBranch
  apply ite_keeps _ (ok_keeps rfl)
  apply ite_keeps (ok_keeps rfl)
  exact follow_keeps reply_still rfl

theorem mdAreaBranch_still : KeepsStill s (mdAreaBranch value s) := by
  unfold mdAreaBranch
  apply ite_keeps
  · exact ok_keeps rfl
  · exact follow_keeps reply_still rfl

theorem userOptTypeBranch_still : KeepsStill s (userOptTypeBranch value s) := by
  unfold userOptTypeBranch
  apply ite_keeps _ (ok_keeps rfl)
  apply ite_keeps (ok_keeps rfl)
  exact ok_keeps rfl

theorem devtypeBranch_still : KeepsStill s (devtypeBranch s) := by
  unfold devtypeBranch
  apply ite_keeps _ (ok_keeps rfl)
  exact follow_keeps reply_still rfl

theorem macaddrBranch_still : KeepsStill s (macaddrBranch env value s) := by
  unfold macaddrBranch
  apply onCmd_keeps
  · apply ite_keeps _ (ok_keeps rfl)
    exact ok_keeps rfl
  · exact follow_keeps reply_still rfl

theorem dstmodeBranch_still : KeepsStill s (dstmodeBranch value s) := by
  unfold dstmodeBranch
  apply onCmd_keeps
  · apply ite_keeps _ (ok_keeps rfl)
    exact ok_keeps rfl
  · apply reply_still

theorem ntpenableBranch_vars : KeepsToo Session.vars s (ntpenableBranch value s) := by
  unfold ntpenableBranch
  apply onCmd_keeps
  · apply ite_keeps _ (ok_keeps rfl)
    exact ok_keeps rfl
  · apply reply_still.vars

theorem protocolBranch_still : KeepsStill s (protocolBranch env value s) := by
  unfold protocolBranch
  apply onCmd_keeps
  · apply ite_keeps _ (ok_keeps rfl)
    exact ok_keeps rfl
  · apply reply_still

theorem cldEnableBranch_still : KeepsStill s (cldEnableBranch value s) := by
  unfold cldEnableBranch
  apply onCmd_keeps
  · apply ite_keeps _ (ok_keeps rfl)
    exact ok_keeps rfl
  · apply reply_still

theorem userNameSet_noted : KeepsToo Session.noted s (userNameSet value s) := by
  apply ite_keeps
  · apply after_keeps
    intro i
    apply ite_keeps (ok_keeps (by rfl))
    exact follow_keeps setText_still.noted rfl
  · apply ite_keeps
    · apply after_keeps fun _ => ite_keeps (ok_keeps (by rfl)) (ok_keeps (by rfl))
    · apply ite_keeps (after_keeps fun _ => ok_keeps (by rfl)) (ok_keeps (by rfl))

theorem userNameBranch_noted : KeepsToo Session.noted s (userNameBranch value s) := by
  apply bind_keeps (onCmd_keeps userNameSet_noted (after_keeps fun _ => ok_keeps (by rfl)))
  intro s₁ hs₁
  apply after_keeps
  intro i
  apply after_keeps
  intro t
  apply follow_keeps reply_still.noted
  exact hs₁

theorem gotoPresetBranch_noted : KeepsToo Session.noted s (gotoPresetBranch value s) := by
  have hrestored (c : Prop) [Decidable c] (mem : Contents) (e : Effect) (s₁ : Session)
      (hs₁ : s₁ = (if c then ({ s with mem := mem, i := ptzPresetAllnum }).setFileChanged .ptzPreset
        else s).effect e) :
      (s₁.noted, s₁.asked) = (s.noted, s.asked) := by
    subst hs₁
    split
    · rfl
    · rfl
  apply ite_keeps _ (ok_keeps (by rfl))
  apply ite_keeps _ gotoReply_still.noted
  apply ite_keeps _ gotoReply_still.noted
  apply follow_keeps gotoReply_still.noted (hrestored _ _ _ _ rfl)

theorem allpresetsBranch_noted : KeepsToo Session.noted s (allpresetsBranch s) :=
  ite_keeps (ok_keeps (by rfl)) (ok_keeps (by rfl))

theorem osdBranch_found {f : OsdField} : KeepsToo Session.found s (osdBranch f key value s) := by
  apply ite_keeps (ok_keeps (by rfl))
  apply onCmd_keeps _ reply_still.found
  apply ite_keeps (ok_keeps (by rfl)) (ok_keeps (by rfl))

theorem osdNameBranch_found : KeepsToo Session.found s (osdNameBranch value s) := by
  apply ite_keeps (ok_keeps (by rfl))
  apply onCmd_keeps _ (after_keeps fun _ => reply_still.found)
  apply after_keeps
  intro b
  apply ite_keeps (ok_keeps (by rfl))
  apply bind_keeps setText_still.found
  intro s₁ hs₁
  exact ok_keeps hs₁

/-- The branches by which the region that is selected, and the note that one has been changed, are
set. -/
def Branch.OfOsd : Branch → Prop
  | .osd _ | .osdName | .osdRegion => True
  | _ => False

instance (b : Branch) : Decidable b.OfOsd := by
  cases b
  all_goals
    unfold Branch.OfOsd
    infer_instance

/-- The branches that search a table, by which the entry of the users is set. -/
def Branch.Searches : Branch → Prop
  | .userName | .gotoPreset | .allpresets => True
  | _ => False

instance (b : Branch) : Decidable b.Searches := by
  cases b
  all_goals
    unfold Branch.Searches
    infer_instance

/-- The branches that note a change of the settings for the server of the time. -/
def Branch.NotesNtp : Branch → Prop
  | .int _ _ _ hook _ _ | .text _ _ hook => hook = .ntpserverCfg
  | .ntpenable => True
  | _ => False

instance (b : Branch) : Decidable b.NotesNtp := by
  cases b
  all_goals
    unfold Branch.NotesNtp
    infer_instance

/-- The branches that ask for something about a preset, its number or its name. -/
def Branch.AsksPreset : Branch → Prop
  | .preset | .presetname => True
  | _ => False

instance (b : Branch) : Decidable b.AsksPreset := by
  cases b
  all_goals
    unfold Branch.AsksPreset
    infer_instance

/-- A branch `b` of none of these four kinds leaves all of their variables alone. -/
theorem Branch.run_still
    {b : Branch} (hosd : ¬ b.OfOsd) (hsearch : ¬ b.Searches) (hntp : ¬ b.NotesNtp)
    (hasks : ¬ b.AsksPreset) :
  KeepsStill s (b.run env key value s)
  := by
  cases b with
  | osd | osdName | osdRegion => exact absurd trivial hosd
  | userName | gotoPreset | allpresets => exact absurd trivial hsearch
  | ntpenable => exact absurd trivial hntp
  | preset | presetname => exact absurd trivial hasks
  | int => apply intBranch_keeps (fun _ _ h => h) fun _ => Hook.run_still hntp
  | text => apply textBranch_keeps (fun _ _ h => h) fun _ => Hook.run_still hntp
  | chan => apply chanBranch_still
  | recCfg => apply ite_keeps (ite_keeps (ok_keeps (by rfl)) (ok_keeps (by rfl))) reply_still
  | constant | constantText | nvrClientID | serialNumber | shown | shownText | wfsearchEssid =>
      apply getBranch_still
  | width => apply getBranch_still
  | height => apply getBranch_still
  | videoAddr => apply getBranch_still
  | videoResolutions => apply getBranch_still
  | frameRate => apply onCmd_keeps streamBranch_still (after_keeps fun _ => reply_still)
  | bitRate => apply onCmd_keeps streamBranch_still (after_keeps fun _ => reply_still)
  | ipInterval => apply onCmd_keeps streamBranch_still (after_keeps fun _ => reply_still)
  | nvrOpt => apply ite_keeps setNvrSendStatus_still (ok_keeps (by rfl))
  | nvrForIDR => apply ite_keeps setIdrBr_still (ok_keeps (by rfl))
  | type =>
      apply ok_keeps
      split
      · rfl
      · rfl
  | vdmaskNO | snapshotStart | ignored => apply ok_keeps (by rfl)
  | vx | vy =>
      apply ok_keeps
      split
      · rfl
      · rfl
  | chn | subChn => exact follow_keeps answer_still rfl
  | wfsearchAccesspoints => apply wfsearchAccesspointsBranch_still
  | mdArea => apply mdAreaBranch_still
  | userOptType => apply userOptTypeBranch_still
  | synchronizationPoint | ptzstring | stop | reboot => apply ite_keeps (ok_keeps (by rfl)) (ok_keeps (by rfl))
  | fw =>
      apply onCmd_keeps _ reply_still
      apply ite_keeps (ok_keeps (by rfl))
      apply ite_keeps (ok_keeps (by rfl)) (ok_keeps (by rfl))
  | encResolution => apply encResolutionBranch_still
  | netmask => apply netmaskBranch_still
  | macaddr => apply macaddrBranch_still
  | dstmode => apply dstmodeBranch_still
  | protocol => apply protocolBranch_still
  | cldEnable => apply cldEnableBranch_still
  | systime => apply systimeBranch_still
  | devtype => apply devtypeBranch_still
  | userPassword => apply userPasswordBranch_still
  | userGroup => apply ite_keeps (after_keeps fun _ => ok_keeps (by rfl)) (ok_keeps (by rfl))
  | vzoom => apply ite_keeps (ite_keeps (ok_keeps (by rfl)) (ok_keeps (by rfl))) (ok_keeps (by rfl))
  | deletepreset => apply deletepresetBranch_still
  | defaultTimeout => apply ite_keeps answer_still (ok_keeps (by rfl))
  | reset => apply resetBranch_still
  | recEnable => apply ite_keeps (ite_keeps (ok_keeps (by rfl)) (ok_keeps (by rfl))) reply_still

/-- A branch `b` for no region, that searches no table and notes no change for the server, leaves
the `core` alone, whatever it asks about a preset. -/
theorem Branch.run_core
    {b : Branch} (hosd : ¬ b.OfOsd) (hsearch : ¬ b.Searches) (hntp : ¬ b.NotesNtp) :
  KeepsCore s (b.run env key value s)
  := by
  by_cases hasks : b.AsksPreset
  · cases b with
    | preset | presetname => apply ok_keeps (by rfl)
    | _ => cases hasks
  · apply (Branch.run_still hosd hsearch hntp hasks).fst

/-- A branch `b` for no region, that searches no table, leaves `vars` alone, whether it notes a
change for the server or not. -/
theorem Branch.run_vars {b : Branch} (hosd : ¬ b.OfOsd) (hsearch : ¬ b.Searches) :
  KeepsVars s (b.run env key value s)
  := by
  by_cases hntp : b.NotesNtp
  · cases b with
    | int =>
        apply intBranch_keeps (fun _ _ h => core_vars (congrArg Prod.fst h)) fun _ => Hook.run_vars _
    | text =>
        apply textBranch_keeps (fun _ _ h => core_vars (congrArg Prod.fst h)) fun _ => Hook.run_vars _
    | ntpenable => apply ntpenableBranch_vars.fst
    | _ => cases hntp
  · apply (Branch.run_core hosd hsearch hntp).vars

/-- A branch `b` that searches a table leaves `noted` alone, and what is asked for about a
preset. -/
theorem Branch.run_noted {b : Branch} (hb : b.Searches) :
  KeepsToo Session.noted s (b.run env key value s)
  := by
  cases b with
  | userName => apply userNameBranch_noted
  | gotoPreset => apply gotoPresetBranch_noted
  | allpresets => apply allpresetsBranch_noted
  | _ => cases hb

/-- A branch `b` that is for a region leaves `found` alone, and what is asked for about a preset. -/
theorem Branch.run_found {b : Branch} (hb : b.OfOsd) :
  KeepsToo Session.found s (b.run env key value s)
  := by
  cases b with
  | osd f => apply osdBranch_found
  | osdName => apply osdNameBranch_found
  | osdRegion => exact follow_keeps answer_still.found rfl
  | _ => cases hb

/-- A branch `b` that is not for a region leaves the variables `osd` alone. -/
theorem Branch.run_osd {b : Branch} (hb : ¬ b.OfOsd) : KeepsOsd s (b.run env key value s) := by
  by_cases hsearch : b.Searches
  · apply (Branch.run_noted hsearch).fst.mono fun _ => congrArg Prod.fst
  · apply (Branch.run_vars hb hsearch).osd

/-- A branch `b` that searches no table leaves the variables `user` alone. -/
theorem Branch.run_user {b : Branch} (hb : ¬ b.Searches) :
  KeepsUser s (b.run env key value s)
  := by
  by_cases hosd : b.OfOsd
  · apply (Branch.run_found hosd).fst.mono fun _ => congrArg Prod.fst
  · apply (Branch.run_vars hosd hb).user

/-- A branch `b` that notes no change of the settings for the server of the time leaves the count of
these changes alone. -/
theorem Branch.run_ntp {b : Branch} (hb : ¬ b.NotesNtp) : KeepsNtp s (b.run env key value s) := by
  by_cases hsearch : b.Searches
  · apply (Branch.run_noted hsearch).fst.mono fun _ => congrArg Prod.snd
  · by_cases hosd : b.OfOsd
    · apply (Branch.run_found hosd).fst.mono fun _ => congrArg Prod.snd
    · apply (Branch.run_core hosd hsearch hb).ntp

/-- A branch `b` that asks for nothing about a preset leaves alone what is asked for, `asked`. -/
theorem Branch.run_unasked {b : Branch} (hb : ¬ b.AsksPreset) : KeepsAsked s (b.run env key value s) := by
  by_cases hsearch : b.Searches
  · apply (Branch.run_noted hsearch).asked
  · by_cases hosd : b.OfOsd
    · apply (Branch.run_found hosd).asked
    · by_cases hntp : b.NotesNtp
      · cases b with
        | int => apply intBranch_keeps (fun _ _ => congrArg Prod.snd) fun _ => Hook.run_asked _
        | text => apply textBranch_keeps (fun _ _ => congrArg Prod.snd) fun _ => Hook.run_asked _
        | ntpenable => apply ntpenableBranch_vars.asked
        | _ => cases hntp
      · apply (Branch.run_still hosd hsearch hntp hb).asked

end Msg
