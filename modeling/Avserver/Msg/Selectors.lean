import Avserver.Msg.Encoder

/-!
# The selected elements

A request selects elements of the tables of the configuration, and streams of the encoder, by
the cursors that its pairs set: the stream of a channel, an area, a mask or a network, and an
OSD region.  The branches access the selected elements mostly without looking at the cursors.
A branch stays within the tables exactly when its item is `InRange`, and so does what follows
the loop when the region selected last is in its table or no region has been changed; the
request stays within the tables when all of this holds, and it is not handled to its end
otherwise (`selectors_in_range`).
-/

namespace Msg

open Library

variable {env : Env} {s s' t : Session} {P : Prop} {key label : Key} {value : List Char}

/-! ### The tables that are selected from -/

/-- The tables whose elements are selected by the variables of the cursor, or by the region. -/
def selectors : List Table :=
  [.ubs, .areaParam, .aera, .searchParam, .arrstOsd, .nvrSendStatus, .enc, .privBs]

/-- The fault is an access to an element that is selected and not in its table. -/
def Fault.Selected : Fault → Prop
  | .index table => table ∈ selectors
  | _ => False

/-- The index `i` is within a table of `n` elements. -/
def Within (i : Int) (n : Nat) : Prop := 0 ≤ i ∧ i < n

instance (i : Int) (n : Nat) : Decidable (Within i n) := instDecidableAnd

/-- An index `i` within a table passes the check of its bounds. -/
theorem Within.not_out {i : Int} {n : Nat} (h : Within i n) : ¬ (i < 0 ∨ i ≥ n) := by
  unfold Within at h
  omega

theorem Within.bounded {i : Int} {n : Nat} (h : Within i n) (table : Table) :
  bounded table i n = .ok i.toNat
  := if_pos h

theorem bounded_of_not_within {i : Int} {n : Nat} (h : ¬ Within i n) (table : Table) :
  bounded table i n = .error (.index table)
  := if_neg h

/-- The computation `x` accesses the tables within their bounds exactly when `P` holds. -/
abbrev Selects {α : Type} (P : Prop) (x : Except Fault α) : Prop := Checks Fault.Selected P x

/-- The computation `x` accesses no table outside its bounds by what is selected. -/
abbrev Free {α : Type} (x : Except Fault α) : Prop := Selects True x

/-- All faults of the kind `F` are accesses outside the bounds of tables. -/
class Indexing (F : Fault → Prop) : Prop where
  overflow : ¬ F .overflow
  unterminated : ¬ F .unterminated
  hang : ¬ F .hang

instance : Indexing Fault.Selected where
  overflow := fun hfalse => hfalse
  unterminated := fun hfalse => hfalse
  hang := fun hfalse => hfalse

/-- The computation `x` does not end in one of the faults of the kind `F`. -/
abbrev Spares {α : Type} (F : Fault → Prop) (x : Except Fault α) : Prop := Checks F True x

/-! ### What the branches are composed of -/

variable {α β : Type} {F : Fault → Prop}

theorem bounded_selects {table : Table} {i : Int} {n : Nat} :
  Checks F (Within i n) (bounded table i n)
  := by
  unfold bounded
  split
  · next hin => apply Checks.of_ok hin
  · next hout => apply Checks.of_error fun _ => hout

theorem bounded_spares {table : Table} (htable : ¬ F (.index table)) {i : Int} {n : Nat} :
  Spares F (bounded table i n)
  := by
  unfold bounded
  split
  · apply Checks.of_ok trivial
  · apply Checks.of_error fun hF => absurd hF htable

theorem bounded_free {table : Table} (htable : table ∉ selectors) {i : Int} {n : Nat} :
  Free (bounded table i n)
  := bounded_spares htable

theorem ok_free {a : α} : Spares F (.ok a) := Checks.of_ok trivial

theorem ite_free {c : Prop} [Decidable c] {x y : Except Fault α} (hx : Spares F x)
    (hy : Spares F y) :
  Spares F (if c then x else y)
  := by
  split
  · apply hx
  · apply hy

theorem bind_free {x : Except Fault α} {f : α → Except Fault β} (hx : Spares F x)
    (hf : ∀ a, Spares F (f a)) :
  Spares F (x >>= f)
  := hx.bind_free hf

/-- A branch of the form `onCmd` stays within the tables when the part does that is carried out for
the command. -/
theorem onCmd_selects
    {P Q : Prop} {set get : Except Fault Session} (hset : Checks F P set) (hget : Checks F Q get) :
  Checks F ((s.cmdType = tSet → P) ∧ (s.cmdType = tGet → Q)) (s.onCmd set get)
  := by
  unfold Session.onCmd
  split
  · next hcmd =>
      apply hset.iff
      rw [hcmd]
      simp [tSet, tGet]
  · next hset' =>
      split
      · next hcmd =>
          apply hget.iff
          rw [hcmd]
          simp [tSet, tGet]
      · next hget' => apply Checks.of_ok ⟨fun h => absurd h hset', fun h => absurd h hget'⟩

theorem onCmd_free {set get : Except Fault Session} (hset : Spares F set) (hget : Spares F get) :
  Spares F (s.onCmd set get)
  := (onCmd_selects hset hget).iff (by simp)

/-- What is done under a condition `c` only stays within the tables when, under `c`, it does. -/
theorem only_if_selects {c : Prop} [Decidable c] {x : Except Fault α} {a : α} (hx : Checks F P x) :
  Checks F (c → P) (if c then x else .ok a)
  := by
  split
  · next hc =>
      apply hx.iff
      exact ⟨fun h _ => h, fun h => h hc⟩
  · next hc => apply Checks.of_ok fun h => absurd h hc

section

variable [Indexing F]

theorem overflow_free : Spares F (.error .overflow : Except Fault α) :=
  Checks.of_error fun hF => absurd hF Indexing.overflow

theorem unterminated_free : Spares F (.error .unterminated : Except Fault α) :=
  Checks.of_error fun hF => absurd hF Indexing.unterminated

theorem hang_free : Spares F (.error .hang : Except Fault α) :=
  Checks.of_error fun hF => absurd hF Indexing.hang

theorem text_free {buf : List Char} : Spares F (text buf) := by
  unfold text
  split
  · apply ok_free
  · apply unterminated_free

theorem strcpy_free {buf str : List Char} : Spares F (strcpy buf str) := by
  unfold strcpy
  split
  · apply ok_free
  · apply overflow_free

theorem strcmpEq_free {buf str : List Char} : Spares F (strcmpEq buf str) := by
  induction buf generalizing str with
  | nil => apply unterminated_free
  | cons c buf ih =>
      cases str with
      | nil => apply ok_free
      | cons d str => apply ite_free ih ok_free

theorem answer_free {t : List Char} : Spares F (s.answer key t) := by
  unfold Session.answer
  split
  · apply ok_free
  · apply overflow_free

theorem answers_free {as : List Answer} : Spares F (s.answers as) := by
  unfold Session.answers
  split
  · apply ok_free
  · apply overflow_free

theorem reply_free {t : List Char} : Spares F (s.reply key t) := answer_free

theorem setText_free {f : StrField} : Spares F (s.setText f value) :=
  bind_free strcpy_free fun _ => ok_free

theorem getBranch_selects {t : Except Fault (List Char)} (ht : Checks F P t) :
  Checks F (s.cmdType = tGet → P) (getBranch key t s)
  := only_if_selects (ht.bind_free fun _ => reply_free)

theorem getBranch_free {t : Except Fault (List Char)} (ht : Spares F t) : Spares F (getBranch key t s) :=
  (getBranch_selects ht).iff (by simp)

end

/-! ### The elements that the branches access -/

/-- The number that a reference is to is in its table, at the cursor `c`. -/
def IntRef.InRange (c : Cursor) : IntRef → Prop
  | .field _ => True
  | .mdArea _ => Within c.index mdAreaNum
  | .vidMask _ => Within c.index vidMaskNum
  | .wfSearch _ => Within c.index wfSearchNum

@[inherit_doc IntRef.InRange]
def ChanRef.InRange (c : Cursor) : ChanRef → Prop
  | .av _ => True
  | .ubs _ => Within c.subChannel maxUpdateSubChn

/-- The stream that is asked for an I-frame at the cursor `c` is in the tables of the encoder. -/
def Cursor.IdrInRange (c : Cursor) : Prop :=
  Within c.channel channelNum ∧ Within c.subChannel dvrEncRepdBtNum

/-- The status that is set at the cursor `c` is in its table, or is not set. -/
def Cursor.NvrInRange (c : Cursor) : Prop :=
  c.channel ≤ channelNum → 0 ≤ c.channel ∧ Within c.subChannel dvrEncRepdBtNum

/-- The elements that the branch accesses at the cursor `c` are in their tables. -/
def Branch.InRange (c : Cursor) : Branch → Prop
  | .int ref _ _ _ _ answered =>
      (c.cmdType = tSet → ref.InRange c) ∧ (c.cmdType = tGet → answered.InRange c)
  | .chan ref => (c.cmdType = tSet → ref.InRange c) ∧ (c.cmdType = tGet → ref.InRange c)
  | .frameRate | .bitRate | .ipInterval =>
      (c.cmdType = tSet → Within c.subChannel maxUpdateSubChn) ∧
      (c.cmdType = tGet → Within c.subChannel maxUpdateSubChn)
  | .width | .height => c.cmdType = tGet → Within c.subChannel maxUpdateSubChn
  | .shown ref => c.cmdType = tGet → ref.InRange c
  | .wfsearchEssid => c.cmdType = tGet → Within c.index wfSearchNum
  | .nvrOpt => c.cmdType = tSet → c.NvrInRange
  | .nvrForIDR => c.cmdType = tSet → c.IdrInRange
  | _ => True

instance (c : Cursor) (ref : IntRef) : Decidable (ref.InRange c) := by
  cases ref
  all_goals
    unfold IntRef.InRange
    infer_instance

instance (c : Cursor) (ref : ChanRef) : Decidable (ref.InRange c) := by
  cases ref
  all_goals
    unfold ChanRef.InRange
    infer_instance

theorem IntRef.resolve_selects {ref : IntRef} : Selects (ref.InRange s.cursor) (ref.resolve s) := by
  cases ref with
  | field f => apply ok_free
  | mdArea | vidMask | wfSearch => apply bounded_selects.map

theorem ChanRef.resolve_selects {ref : ChanRef} :
  Selects (ref.InRange s.cursor) (ref.resolve s)
  := by
  cases ref with
  | av f => apply ok_free
  | ubs f => apply bounded_selects.map

theorem intBranch_selects
    {ref shown : IntRef} {flag : CfgFile} {callees : List Callee} {hook : Hook} :
  Selects
    ((s.cmdType = tSet → ref.InRange s.cursor) ∧ (s.cmdType = tGet → shown.InRange s.cursor))
    (intBranch ref flag callees hook label shown value s)
  := by
  apply onCmd_selects
  · apply IntRef.resolve_selects.bind_free
    intro f
    apply ite_free ok_free ok_free
  · apply IntRef.resolve_selects.bind_free
    intro f
    apply reply_free

theorem chanBranch_selects {ref : ChanRef} :
  Selects ((s.cmdType = tSet → ref.InRange s.cursor) ∧ (s.cmdType = tGet → ref.InRange s.cursor))
    (chanBranch ref key value s)
  := by
  apply onCmd_selects
  · apply ChanRef.resolve_selects.bind_free
    intro f
    apply ite_free ok_free ok_free
  · apply ChanRef.resolve_selects.bind_free
    intro f
    apply reply_free

theorem streamBranch_selects {f : UbsField} {callee : Callee} {v : Int} :
  Selects (Within s.subChannel maxUpdateSubChn) (streamBranch f callee v s)
  := by
  apply (@ChanRef.resolve_selects s (.ubs f)).bind_free
  intro g
  apply ite_free ok_free ok_free

theorem streamCmd_selects {f : UbsField} {callee : Callee} {v : Int} {t : Int → Int} :
  Selects
    ((s.cmdType = tSet → Within s.subChannel maxUpdateSubChn) ∧
      (s.cmdType = tGet → Within s.subChannel maxUpdateSubChn))
    (s.onCmd (streamBranch f callee v s)
      (do
        let f ← (ChanRef.ubs f).resolve s
        s.reply key (decimal (t (s.mem.int f)))))
  := by
  apply onCmd_selects streamBranch_selects
  apply (@ChanRef.resolve_selects s (.ubs f)).bind_free
  intro g
  apply reply_free

theorem ubsText_selects {f : UbsField} {t : Int → List Char} :
  Selects (Within s.subChannel maxUpdateSubChn)
    (do
      let f ← (ChanRef.ubs f).resolve s
      .ok (t (s.mem.int f)) : Except Fault (List Char))
  := (@ChanRef.resolve_selects s (.ubs f)).bind_free fun _ => ok_free

theorem setIdrBr_selects : Selects s.cursor.IdrInRange (setIdrBr s) :=
  bounded_selects.bind fun _ _ => bounded_selects.bind_free fun _ => ok_free

theorem setNvrSendStatus_selects {opt : Int} :
  Selects s.cursor.NvrInRange (setNvrSendStatus opt s)
  := by
  unfold setNvrSendStatus
  split
  · next hgt => apply Checks.of_ok fun hle => absurd hle (Int.not_le.mpr hgt)
  · next hle =>
      apply (bounded_selects.bind (Q := Within s.subChannel dvrEncRepdBtNum) _).iff
      · simp only [Cursor.NvrInRange, Within, Session.cursor]
        omega
      · rintro _ hok
        have hchannel := (bounded_selects (F := Fault.Selected)).ok _ hok
        apply (bounded_selects.bind (Q := Within s.subChannel dvrEncRepdBtNum) _).iff
          (and_self_iff)
        rintro _ hok'
        have hsub := (bounded_selects (F := Fault.Selected)).ok _ hok'
        simp only
        split
        · next hne =>
            apply (setIdrBr_selects (s := s.effect _)).iff
            simp only [Cursor.IdrInRange, Within, Session.cursor, Session.effect] at *
            omega
        · apply Checks.of_ok hsub

/-! ### The branches that access nothing -/

theorem findUser_free {p : Nat → Except Fault Bool} (hp : ∀ i, Spares F (p i)) (n i : Nat) :
  Spares F (findUser p n i)
  := by
  induction n generalizing i with
  | zero => apply ok_free
  | succ n ih => apply bind_free (hp i) fun _ => ite_free ok_free (ih _)

theorem findFree_free {c : Contents} : Spares F (findFree c) :=
  findUser_free (fun _ => ok_free) userMax 0

theorem userOptTypeBranch_free : Spares F (userOptTypeBranch value s) :=
  ite_free (ite_free ok_free ok_free) ok_free

theorem deletepresetBranch_free : Spares F (deletepresetBranch value s) := by
  apply ite_free _ ok_free
  apply ite_free ok_free
  apply ite_free ok_free
  apply ite_free ok_free ok_free

section

variable [Indexing F]

theorem textBranch_free {f : StrField} {flag : CfgFile} {hook : Hook} :
  Spares F (textBranch f flag hook key value s)
  := by
  apply onCmd_free
  · apply bind_free strcmpEq_free
    intro b
    apply ite_free ok_free
    apply bind_free setText_free fun _ => ok_free
  · apply bind_free text_free fun _ => reply_free

/-- `osdBranch` looks whether the region is in the table before it is used. -/
theorem osdBranch_free {f : OsdField} : Spares F (osdBranch f key value s) := by
  apply ite_free ok_free
  apply onCmd_free (ite_free ok_free ok_free) reply_free

theorem osdNameBranch_free : Spares F (osdNameBranch value s) := by
  apply ite_free ok_free
  apply onCmd_free
  · apply bind_free strcmpEq_free
    intro b
    apply ite_free ok_free
    apply bind_free setText_free fun _ => ok_free
  · apply bind_free text_free fun _ => reply_free

theorem netmaskBranch_free : Spares F (netmaskBranch value s) := by
  apply onCmd_free
  · apply bind_free strcmpEq_free
    intro b
    apply ite_free ok_free
    apply bind_free setText_free fun _ => ok_free
  · apply bind_free text_free fun _ => reply_free

theorem systimeBranch_free : Spares F (systimeBranch env value s) := by
  apply onCmd_free
  · apply bind_free strcmpEq_free
    intro b
    apply ite_free ok_free
    apply ite_free setText_free
    apply overflow_free
  · apply reply_free

theorem wfsearchAccesspointsBranch_free : Spares F (wfsearchAccesspointsBranch value s) :=
  ite_free (ite_free ok_free reply_free) ok_free

theorem mdAreaBranch_free : Spares F (mdAreaBranch value s) := ite_free ok_free reply_free

theorem encResolutionBranch_free : Spares F (encResolutionBranch value s) := by
  apply ite_free reply_free
  apply ite_free
  · apply ite_free (ite_free ok_free ok_free) ok_free
  · apply ite_free
    · apply ite_free (ite_free ok_free ok_free) ok_free
    · apply ite_free ok_free (ite_free ok_free ok_free)

theorem findName_free {c : Contents} : Spares F (findName c value) :=
  findUser_free (fun _ => strcmpEq_free) userMax 0

theorem gotoReply_free {cValue error : Int} : Spares F (gotoReply cValue error s) := answers_free

theorem gotoPresetBranch_free : Spares F (gotoPresetBranch value s) := by
  apply ite_free _ ok_free
  apply ite_free
  · apply ite_free gotoReply_free gotoReply_free
  · apply gotoReply_free

theorem resetBranch_free : Spares F (resetBranch env s) := by
  apply ite_free _ ok_free
  apply bind_free _ fun _ => ok_free
  apply Checks.foldlM_free
  intro s file _
  apply ite_free ok_free
  apply hang_free

/-- The search for a user stays within the table of the users. -/
theorem userNameSearch_free :
  Spares F (s.onCmd (userNameSet value s)
    (do
      let i ← findName s.mem value
      .ok { s with i := i }))
  := by
  apply onCmd_free
  · apply ite_free
    · apply bind_free findFree_free fun _ => ite_free ok_free setText_free
    · apply ite_free
      · apply bind_free findName_free fun _ => ite_free ok_free ok_free
      · apply ite_free (bind_free findName_free fun _ => ok_free) ok_free
  · apply bind_free findName_free fun _ => ok_free

end

/-! ### The branches -/

/-- The branches that access an element of a table without looking whether it is there. -/
def Branch.Indexes : Branch → Prop
  | .int _ _ _ _ _ _ | .chan _ | .shown _ | .width | .height | .wfsearchEssid | .frameRate
  | .bitRate | .ipInterval | .nvrOpt | .nvrForIDR | .userName | .userPassword | .userGroup => True
  | _ => False

/-- A branch `b` that does not index accesses no table outside its bounds. -/
theorem Branch.run_free [Indexing F] {b : Branch} (hb : ¬ b.Indexes) :
  Spares F (b.run env key value s)
  := by
  cases b with
  | int | chan | shown | width | height | wfsearchEssid | frameRate | bitRate | ipInterval | nvrOpt
  | nvrForIDR | userName | userPassword | userGroup => exact absurd trivial hb
  | text => apply textBranch_free
  | osd => apply osdBranch_free
  | recCfg => apply ite_free (ite_free ok_free ok_free) reply_free
  | constant | constantText | nvrClientID | serialNumber | videoResolutions =>
      apply getBranch_free ok_free
  | shownText => apply getBranch_free text_free
  | videoAddr => apply getBranch_free (bind_free text_free fun _ => ok_free)
  | type | vdmaskNO | vx | vy | preset | presetname | snapshotStart | ignored => apply ok_free
  | chn | subChn | osdRegion => apply answer_free
  | wfsearchAccesspoints => apply wfsearchAccesspointsBranch_free
  | mdArea => apply mdAreaBranch_free
  | userOptType => apply userOptTypeBranch_free
  | synchronizationPoint | ptzstring | stop | reboot => apply ite_free ok_free ok_free
  | fw => apply onCmd_free (ite_free ok_free (ite_free ok_free ok_free)) reply_free
  | encResolution => apply encResolutionBranch_free
  | osdName => apply osdNameBranch_free
  | netmask => apply netmaskBranch_free
  | macaddr | dstmode | ntpenable | protocol | cldEnable =>
      apply onCmd_free (ite_free ok_free ok_free) reply_free
  | systime => apply systimeBranch_free
  | devtype => apply ite_free reply_free ok_free
  | vzoom => apply ite_free (ite_free ok_free ok_free) ok_free
  | gotoPreset => apply gotoPresetBranch_free
  | deletepreset => apply deletepresetBranch_free
  | allpresets => apply ite_free ok_free ok_free
  | defaultTimeout => apply ite_free answer_free ok_free
  | reset => apply resetBranch_free
  | recEnable => apply ite_free (ite_free ok_free ok_free) reply_free

theorem userNameBranch_free : Free (userNameBranch value s) := by
  apply bind_free userNameSearch_free
  · intro s
    apply bind_free (bounded_free (by decide))
    intro i
    apply bind_free text_free fun _ => reply_free

theorem userPasswordBranch_free : Free (userPasswordBranch value s) := by
  apply ite_free _ ok_free
  apply bind_free (bounded_free (by decide))
  intro i
  apply bind_free setText_free fun _ => ok_free

theorem userGroupBranch_free : Free (userGroupBranch value s) :=
  ite_free (bind_free (bounded_free (by decide)) fun _ => ok_free) ok_free

/-- A branch `b` stays within the tables exactly when the elements that it accesses are in them,
`InRange`. -/
theorem Branch.run_selects {b : Branch} :
  Selects (b.InRange s.cursor) (b.run env key value s)
  := by
  cases b with
  | int => apply intBranch_selects
  | chan => apply chanBranch_selects
  | shown => apply getBranch_selects IntRef.resolve_selects.map
  | width => apply getBranch_selects (ubsText_selects (t := decimal))
  | height =>
      apply getBranch_selects
      apply ubsText_selects (t := fun v => decimal (if v = 1072 then 1080 else v))
  | wfsearchEssid => apply getBranch_selects (bounded_selects.bind_free fun _ => text_free)
  | frameRate => apply streamCmd_selects (t := fun v => v)
  | bitRate => apply streamCmd_selects (t := fun v => v.tdiv 1000)
  | ipInterval => apply streamCmd_selects (t := fun v => v)
  | nvrOpt => apply only_if_selects setNvrSendStatus_selects
  | nvrForIDR => apply only_if_selects setIdrBr_selects
  | userName => apply userNameBranch_free
  | userPassword => apply userPasswordBranch_free
  | userGroup => apply userGroupBranch_free
  | _ =>
      apply Branch.run_free
      exact fun hfalse => hfalse

end Msg
