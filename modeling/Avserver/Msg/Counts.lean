import Avserver.Msg.InRange
import Avserver.Msg.ReadOnly

/-!
# The count of a reply

`av_server` sends the response of a request only if `processMsg` returns a count that is not
zero.  The branches count their answers one by one; the echo of a selector is an answer that is
not counted, and so is, by an omission, the default timeout of the PTZ unit.  The type overwrites
the answers given so far, but not their count.

For a request that does not set, what is counted and what is answered besides the selectors is
computed from its items (`Tally`, `processPairs_tally`), and the two agree exactly when they do
so behind the last pair, or a preset is dealt with (`counted_iff_answered_iff`).
-/

namespace Msg

open Library

variable {env : Env} {s s₁ s' t : Session} {key l : Key} {value : List Char} {P : Prop} {x : Item}
  {req : Request} {d : Device}

/-! ### Answers that are counted -/

/-- If `P` holds, an answer with the label `l` is given and counted; otherwise there is none. -/
def Tallies (P : Prop) (l : Key) (s s' : Session) : Prop :=
  (P ∧ s'.ret = s.ret + 1 ∧ ∃ t, s'.pRet = s.pRet ++ [⟨l, t⟩]) ∨
    (¬ P ∧ s'.ret = s.ret ∧ s'.pRet = s.pRet)

/-- What `Tallies` from the session `s₁` does so from `s` if the two have the same answers and the
same count. -/
theorem follow_tallies
    {y : Except Fault Session} (hy : Yields (Tallies P l s₁) y) (hret : s₁.ret = s.ret)
    (hpRet : s₁.pRet = s.pRet) :
  Yields (Tallies P l s) y
  := by
  intro s' hs'
  rw [Tallies, ← hret, ← hpRet]
  apply hy s' hs'

theorem reply_tallies {t : List Char} (h : P) : Yields (Tallies P l s) (s.reply l t) :=
  Yields.ite (fun _ => Yields.of_ok (Or.inl ⟨h, rfl, t, rfl⟩)) fun _ => Yields.of_error

theorem ok_tallies (h : ¬ P) (hret : s'.ret = s.ret) (hpRet : s'.pRet = s.pRet) :
  Yields (ε := Fault) (Tallies P l s) (.ok s')
  := Yields.of_ok (Or.inr ⟨h, hret, hpRet⟩)

/-- What is done for `T_Set` only is not done in another session, and gives no answer. -/
theorem set_tallies {y : Except Fault Session} (hcmd : s.cmdType ≠ tSet) :
  Yields (Tallies False l s) (if s.cmdType = tSet then y else .ok s)
  := Yields.ite (fun h => absurd h hcmd) fun _ => ok_tallies (fun h => h) rfl rfl

/-- What is done for `T_Get` only has `Tallies` if it has in such a session, and `P` holds in no
other one. -/
theorem get_tallies
    {y : Except Fault Session} (hy : s.cmdType = tGet → Yields (Tallies P l s) y)
    (hP : s.cmdType ≠ tGet → ¬ P) :
  Yields (Tallies P l s) (if s.cmdType = tGet then y else .ok s)
  := Yields.ite hy fun hget => ok_tallies (hP hget) rfl rfl

theorem onCmd_tallies
    {set get : Except Fault Session} (hcmd : s.cmdType ≠ tSet)
    (hget : s.cmdType = tGet → Yields (Tallies P l s) get) (hP : s.cmdType ≠ tGet → ¬ P) :
  Yields (Tallies P l s) (s.onCmd set get)
  := Yields.ite (fun h => absurd h hcmd) fun _ => get_tallies hget hP

/-- A branch of the form `onCmd` that replies to `T_Get` gives one answer and counts it, exactly for
`T_Get`. -/
theorem onCmd_tallies_get
    {α : Type} {y : Except Fault α} {g : α → List Char} {set : Except Fault Session}
    (hcmd : s.cmdType ≠ tSet) :
  Yields (Tallies (s.cmdType = tGet) l s) (s.onCmd set (do
    let a ← y
    s.reply l (g a)))
  := onCmd_tallies hcmd (fun h => Yields.of_bind fun _ => reply_tallies h) fun h => h

theorem onCmd_tallies_reply
    {t : List Char} {set : Except Fault Session} (hcmd : s.cmdType ≠ tSet) :
  Yields (Tallies (s.cmdType = tGet) l s) (s.onCmd set (s.reply l t))
  := onCmd_tallies hcmd (fun h => reply_tallies h) fun h => h

theorem getBranch_tallies {t : Except Fault (List Char)} :
  Yields (Tallies (s.cmdType = tGet) key s) (getBranch key t s)
  := get_tallies (fun h => Yields.of_bind fun _ => reply_tallies h) fun h => h

/-! ### The branches that count -/

/-- The branch answers, and counts it, given the region selected and the number of networks
found, if the type is not `T_Set`. -/
def Branch.Counts (c : Cursor) (region accessPoints : Int) (value : List Char) : Branch → Prop
  | .recCfg _ _ | .recEnable | .userName => True
  | .mdArea => atoi value < mdAreaNum
  | .osd _ | .osdName => c.cmdType = tGet ∧ Within region regionNum
  | .wfsearchAccesspoints => c.cmdType = tGet ∧ atoi value < accessPoints
  | .type | .chn | .subChn | .osdRegion | .userOptType | .vdmaskNO | .synchronizationPoint
  | .nvrOpt | .nvrForIDR | .userPassword | .userGroup | .ptzstring | .vx | .vy | .vzoom | .stop
  | .gotoPreset | .preset | .presetname | .deletepreset | .defaultTimeout | .reset | .reboot
  | .snapshotStart | .ignored => False
  | _ => c.cmdType = tGet

/-- The branches whose answers are not counted: those of the selectors, and of the default
timeout. -/
def Branch.Echoes (b : Branch) : Prop := b ∈ [.type, .chn, .subChn, .osdRegion, .defaultTimeout]

instance (b : Branch) : Decidable b.Echoes := List.instDecidableMemOfLawfulBEq _ _

theorem osdBranch_tallies {f : OsdField} (hcmd : s.cmdType ≠ tSet) :
  Yields (Tallies (s.cmdType = tGet ∧ Within s.osdRegion regionNum) key s)
    (osdBranch f key value s)
  := by
  apply Yields.ite
  · intro hout
    apply ok_tallies _ rfl rfl
    exact fun hand => hand.2.not_out hout
  · intro hin
    have hwithin : Within s.osdRegion regionNum := by
      simp only [Within]
      omega
    apply onCmd_tallies hcmd
    · intro hget
      apply reply_tallies ⟨hget, hwithin⟩
    · exact fun hget hand => hget hand.1

theorem osdNameBranch_tallies (hcmd : s.cmdType ≠ tSet) :
  Yields (Tallies (s.cmdType = tGet ∧ Within s.osdRegion regionNum) .osdRegionName s)
    (osdNameBranch value s)
  := by
  apply Yields.ite
  · intro hout
    apply ok_tallies _ rfl rfl
    exact fun hand => hand.2.not_out hout
  · intro hin
    have hwithin : Within s.osdRegion regionNum := by
      simp only [Within]
      omega
    apply onCmd_tallies hcmd
    · intro hget
      apply Yields.of_bind fun _ => reply_tallies ⟨hget, hwithin⟩
    · exact fun hget hand => hget hand.1

theorem wfsearchAccesspointsBranch_tallies :
  Yields (Tallies (s.cmdType = tGet ∧ atoi value < s.mem.int .waccessPoints)
    .wfsearchAccesspoints s) (wfsearchAccesspointsBranch value s)
  := by
  apply get_tallies
  · intro hget
    apply Yields.ite
    · intro hout
      apply ok_tallies _ rfl rfl
      omega
    · intro hin
      exact follow_tallies (reply_tallies ⟨hget, by omega⟩) rfl rfl
  · exact fun hget hand => hget hand.1

theorem mdAreaBranch_tallies :
  Yields (Tallies (atoi value < mdAreaNum) .mdArea s) (mdAreaBranch value s)
  := by
  apply Yields.ite
  · intro hout
    apply ok_tallies _ rfl rfl
    exact Int.not_lt.mpr hout
  · intro hin
    exact follow_tallies (reply_tallies (Int.not_le.mp hin)) rfl rfl

theorem userNameBranch_tallies (hcmd : s.cmdType ≠ tSet) :
  Yields (Tallies True .userName s) (userNameBranch value s)
  := by
  have hfound : Yields (fun s₁ => s₁.ret = s.ret ∧ s₁.pRet = s.pRet)
      (s.onCmd (userNameSet value s) (do
        let i ← findName s.mem value
        .ok { s with i := i })) := by
    apply Yields.ite
    · intro h
      exact absurd h hcmd
    · intro _
      apply Yields.ite
      · intro _
        exact Yields.of_bind fun _ => Yields.of_ok ⟨rfl, rfl⟩
      · intro _
        exact Yields.of_ok ⟨rfl, rfl⟩
  refine Yields.bind hfound ?_
  rintro s₁ ⟨hret, hpRet⟩
  apply Yields.of_bind
  intro i
  apply Yields.of_bind
  intro t
  exact follow_tallies (reply_tallies trivial) hret hpRet

theorem encResolutionBranch_tallies :
  Yields (Tallies (s.cmdType = tGet) .encResolution s) (encResolutionBranch value s)
  := by
  by_cases hget : s.cmdType = tGet
  · unfold encResolutionBranch
    simp only [if_pos hget]
    apply reply_tallies hget
  · rw [encResolutionBranch_switches hget]
    exact ok_tallies hget rfl rfl

/-- A branch `b` whose answers are counted has `Tallies`, under the condition of `Branch.Counts`,
for a command other than `T_Set`. -/
theorem Branch.run_tallies {b : Branch} (hcmd : s.cmdType ≠ tSet) (hb : ¬ b.Echoes) :
  Yields
    (Tallies (b.Counts s.cursor s.osdRegion (s.mem.int .waccessPoints) value) (b.label key) s)
    (b.run env key value s)
  := by
  have hset {y : Except Fault Session} :
      Yields (Tallies False key s) (if s.cmdType = tSet then y else .ok s) := set_tallies hcmd
  cases b with
  | type | chn | subChn | osdRegion | defaultTimeout => exact absurd (by decide) hb
  | int => apply onCmd_tallies_get hcmd
  | text => apply onCmd_tallies hcmd (fun h => Yields.of_bind fun _ => reply_tallies h) fun h => h
  | chan => apply onCmd_tallies_get hcmd
  | osd => apply osdBranch_tallies hcmd
  | osdName => apply osdNameBranch_tallies hcmd
  | recCfg | recEnable =>
      apply Yields.ite
      · intro h
        exact absurd h hcmd
      · intro _
        apply reply_tallies trivial
  | constant | constantText | shown | shownText | nvrClientID | serialNumber | wfsearchEssid =>
      apply getBranch_tallies
  | width => apply getBranch_tallies
  | height => apply getBranch_tallies
  | videoAddr => apply getBranch_tallies
  | videoResolutions => apply getBranch_tallies
  | wfsearchAccesspoints => apply wfsearchAccesspointsBranch_tallies
  | mdArea => apply mdAreaBranch_tallies
  | frameRate => apply onCmd_tallies_get hcmd
  | bitRate => apply onCmd_tallies_get hcmd
  | ipInterval => apply onCmd_tallies_get hcmd
  | fw => apply onCmd_tallies_reply hcmd
  | netmask =>
      apply onCmd_tallies hcmd (fun h => Yields.of_bind fun _ => reply_tallies h) fun h => h
  | dstmode => apply onCmd_tallies_reply hcmd
  | ntpenable => apply onCmd_tallies_reply hcmd
  | systime => apply onCmd_tallies_reply hcmd
  | protocol => apply onCmd_tallies_reply hcmd
  | cldEnable => apply onCmd_tallies_reply hcmd
  | encResolution => apply encResolutionBranch_tallies
  | userName => apply userNameBranch_tallies hcmd
  | macaddr =>
      apply onCmd_tallies hcmd _ fun h => h
      intro hget
      exact follow_tallies (reply_tallies hget) rfl rfl
  | devtype =>
      apply get_tallies _ fun h => h
      intro hget
      exact follow_tallies (reply_tallies hget) rfl rfl
  | allpresets =>
      apply get_tallies _ fun h => h
      intro hget
      exact Yields.of_ok (Or.inl ⟨hget, rfl, _, rfl⟩)
  | userOptType | nvrOpt | nvrForIDR | userPassword | userGroup | ptzstring | vzoom | stop
  | gotoPreset | deletepreset | reset | reboot => apply hset
  | synchronizationPoint =>
      apply Yields.ite
      · intro h
        exact absurd h.1 hcmd
      · intro _
        exact ok_tallies (fun h => h) rfl rfl
  | vx | vy =>
      apply Yields.of_ok
      rw [if_neg hcmd]
      exact Or.inr ⟨fun h => h, rfl, rfl⟩
  | vdmaskNO | preset | presetname | snapshotStart | ignored =>
      exact ok_tallies (fun h => h) rfl rfl

/-! ### The tally of a request -/

/-- The keys whose values are echoed: `e_TYPE`, `e_Chn`, `e_Sub_Chn` and `e_osd_region`. -/
def selectorKeys : List Key := [.type, .chn, .subChn, .osdRegion]

/-- Among the answers `pRet` there is one besides those of the selectors. -/
def Answered (pRet : List Answer) : Prop := ∃ a ∈ pRet, a.key ∉ selectorKeys

/-- What is computed from the pairs of a request: the region selected, whether an answer has been
counted, whether there is one besides the selectors, and whether there has been a pair for a
preset. -/
structure Tally where
  region : Int
  counted : Prop
  answered : Prop
  preset : Prop

/-- The item `x` gives an answer, and counts it, with the `region` that is selected. -/
def Item.Counts (x : Item) (region accessPoints : Int) : Prop :=
  x.key.branch.Counts x.cursor region accessPoints x.value

/-- What an item makes of the tally `u`: it may count an answer, the default timeout is answered and
not counted, and the type overwrites the answers. -/
def Tally.step (accessPoints : Int) (u : Tally) (x : Item) : Tally where
  region := if x.key.branch = .osdRegion then atoi x.value else u.region
  counted := u.counted ∨ x.Counts u.region accessPoints
  answered := x.key.branch ≠ .type ∧
    (u.answered ∨ x.Counts u.region accessPoints ∨
      x.key.branch = .defaultTimeout ∧ x.cursor.cmdType = tGet)
  preset := u.preset ∨ x.key.branch = .preset ∨ x.key.branch = .presetname

/-- The tally `u` is that of the session `s`, read off its answers and its variables. -/
structure Session.Tallied (s : Session) (u : Tally) : Prop where
  region : s.osdRegion = u.region
  counted : s.ret ≠ 0 ↔ u.counted
  answered : Answered s.pRet ↔ u.answered
  preset : s.ptzPresetIn ≠ 0 ↔ u.preset

theorem answered_append {as bs : List Answer} :
  Answered (as ++ bs) ↔ Answered as ∨ Answered bs
  := by simp only [Answered, List.mem_append, or_and_right, exists_or]

theorem answered_singleton {t : List Char} : Answered [⟨l, t⟩] ↔ l ∉ selectorKeys := by
  simp [Answered]

/-- What is counted under a `key` has a label that is none of the selectors. -/
theorem Key.label_not_selector {key : Key} (hkey : ¬ key.branch.Echoes) :
  key.branch.label key ∉ selectorKeys
  := by
  revert hkey
  cases key
  all_goals decide

/-- Behind an item `x` the region that is selected is the value of `e_osd_region`, or the one from
before. -/
theorem Item.run_region (h : x.run env s = .ok s') :
  s'.osdRegion = if x.key.branch = .osdRegion then atoi x.value else s.osdRegion
  := by
  have hviews : s.Views ⟨s.osdRegion, s.mem, s.osdCfg = true⟩ :=
    ⟨rfl, Iff.rfl, fun _ _ _ => rfl⟩
  have hstep := (Item.run_views (x := ⟨s.cursor, x.key, x.value⟩) rfl hviews h).region
  apply hstep

/-- Behind an item `x`, for a command other than `T_Set`, a preset is dealt with if there has been a
pair for one. -/
theorem Item.run_preset (hcmd : s.cmdType ≠ tSet) (h : x.run env s = .ok s') :
  s'.ptzPresetIn ≠ 0 ↔
    s.ptzPresetIn ≠ 0 ∨ x.key.branch = .preset ∨ x.key.branch = .presetname
  := by
  have hkept := (Branch.run_reads hcmd h).ptzPresetIn
  by_cases hpreset : x.key.branch = .preset ∨ x.key.branch = .presetname
  · have hin : s'.ptzPresetIn = s.ptzPresetIn + 1 := by
      rw [Item.run] at h
      obtain hb | hb := hpreset
      · rw [hb] at h
        obtain rfl := Except.ok.inj h
        rfl
      · rw [hb] at h
        obtain rfl := Except.ok.inj h
        rfl
    apply iff_of_true _ (Or.inr hpreset)
    omega
  · rw [hkept (not_or.mp hpreset), or_iff_left hpreset]

theorem answer_ok {t : List Char} (h : s.answer l t = .ok s') :
  s'.ret = s.ret ∧ s'.pRet = s.pRet ++ [⟨l, t⟩]
  := by
  unfold Session.answer at h
  split at h
  · obtain rfl := Except.ok.inj h
    exact ⟨rfl, rfl⟩
  · contradiction

variable {u : Tally} {n : Int}

/-- A branch `b` of `Branch.Echoes` does not count its answer; there is one besides the selectors if
there was one before, or `b` answers the default timeout. -/
theorem Branch.run_echoes
    {b : Branch} (hb : b.Echoes) (h : b.run env key value s = .ok s') :
  s'.ret = s.ret ∧
    (Answered s'.pRet ↔
      b ≠ .type ∧ (Answered s.pRet ∨ b = .defaultTimeout ∧ s.cmdType = tGet))
  := by
  have hecho {s₁ : Session} {l : Key} {t : List Char} (h : s₁.answer l t = .ok s')
      (hl : l ∈ selectorKeys) (hret : s₁.ret = s.ret) (hpRet : s₁.pRet = s.pRet) :
      s'.ret = s.ret ∧ (Answered s'.pRet ↔ Answered s.pRet) := by
    obtain ⟨hret', hpRet'⟩ := answer_ok h
    use hret'.trans hret
    rw [hpRet', hpRet, answered_append, answered_singleton]
    exact or_iff_left (not_not.mpr hl)
  cases b with
  | type =>
      obtain rfl := Except.ok.inj h
      constructor
      · simp only
        split
        · rfl
        · rfl
      · simp [Answered, selectorKeys]
  | chn =>
      change ({ s with channel := atoi value }).answer .chn (decimal (atoi value)) = .ok s' at h
      obtain ⟨hret, hanswered⟩ := hecho h (by decide) rfl rfl
      exact ⟨hret, by simp [hanswered]⟩
  | subChn =>
      change ({ s with subChannel := atoi value }).answer .subChn (decimal (atoi value)) = .ok s' at h
      obtain ⟨hret, hanswered⟩ := hecho h (by decide) rfl rfl
      exact ⟨hret, by simp [hanswered]⟩
  | osdRegion =>
      change ({ s with osdRegion := atoi value }).answer .osdRegion (decimal (atoi value)) = .ok s' at h
      obtain ⟨hret, hanswered⟩ := hecho h (by decide) rfl rfl
      exact ⟨hret, by simp [hanswered]⟩
  | defaultTimeout =>
      change defaultTimeoutBranch s = .ok s' at h
      unfold defaultTimeoutBranch at h
      split at h
      · next hget =>
          obtain ⟨hret, hpRet⟩ := answer_ok h
          use hret
          rw [hpRet, answered_append, answered_singleton]
          apply iff_of_true (Or.inr (by decide))
          exact ⟨by simp, Or.inr ⟨rfl, hget⟩⟩
      · next hget =>
          obtain rfl := Except.ok.inj h
          use rfl
          simp [hget]
  | _ => exact absurd hb (by simp [Branch.Echoes])

/-- An item `x` makes of the tally of a session what `Tally.step` computes from it. -/
theorem Item.run_tally
    (hcmd : s.cmdType ≠ tSet) (hn : s.mem.int .waccessPoints = n) (hc : s.cursor = x.cursor)
    (hu : s.Tallied u) (h : x.run env s = .ok s') :
  s'.Tallied (u.step n x)
  := by
  have hregion : s'.osdRegion = (u.step n x).region := by
    rw [Item.run_region h, hu.region]
    rfl
  have hpreset : s'.ptzPresetIn ≠ 0 ↔ (u.step n x).preset := by
    rw [Item.run_preset hcmd h, hu.preset]
    rfl
  have hget : s.cmdType = x.cursor.cmdType := congrArg Cursor.cmdType hc
  by_cases hb : x.key.branch.Echoes
  · obtain ⟨hret, hanswered⟩ := Branch.run_echoes hb h
    have hcounts : ¬ x.Counts u.region n := by
      unfold Item.Counts
      simp only [Branch.Echoes, List.mem_cons, List.not_mem_nil, or_false] at hb
      obtain hb | hb | hb | hb | hb := hb
      all_goals
        rw [hb]
        exact fun hfalse => hfalse
    refine ⟨hregion, ?_, ?_, hpreset⟩
    · rw [hret, hu.counted]
      exact (or_iff_left hcounts).symm
    · rw [hanswered, hu.answered, hget]
      simp only [Tally.step, hcounts, false_or]
  · have hother : x.key.branch ≠ .type ∧ x.key.branch ≠ .defaultTimeout := by
      constructor
      · intro heq
        apply hb
        simp [Branch.Echoes, heq]
      · intro heq
        apply hb
        simp [Branch.Echoes, heq]
    have htallies := Branch.run_tallies hcmd hb s' h
    rw [hc, hn, hu.region] at htallies
    obtain ⟨hcounts, hret, t, hpRet⟩ | ⟨hcounts, hret, hpRet⟩ := htallies
    · refine ⟨hregion, ?_, ?_, hpreset⟩
      · rw [hret]
        exact iff_of_true (Nat.succ_ne_zero _) (Or.inr hcounts)
      · rw [hpRet, answered_append, answered_singleton]
        exact iff_of_true (Or.inr (Key.label_not_selector hb))
          ⟨hother.1, Or.inr (Or.inl hcounts)⟩
    · refine ⟨hregion, ?_, ?_, hpreset⟩
      · rw [hret, hu.counted]
        exact (or_iff_left hcounts).symm
      · rw [hpRet, hu.answered]
        have hcounts' : ¬ x.Counts u.region n := hcounts
        simp only [Tally.step, hcounts', hother, ne_eq, not_false_eq_true, true_and, false_and,
          or_false]

/-- What a request makes of the tally, computed from its pairs. -/
def Device.tally (d : Device) (req : Request) : Tally :=
  (d.items req).foldl (Tally.step (d.mem.int .waccessPoints)) ⟨-1, False, False, False⟩

/-- The tally of the session behind the loop over the pairs is the one that `Device.tally`
computes. -/
theorem processPairs_tally
    (hreq : Query req) (h : processPairs env req (.start env d) = .ok t) :
  t.Tallied (d.tally req)
  := by
  have hfollows : t.mem.int .waccessPoints = d.mem.int .waccessPoints ∧
      t.Tallied (d.tally req) := by
    apply processPairs_follows (g := Tally.step (d.mem.int .waccessPoints))
      (R := fun t u => t.mem.int .waccessPoints = d.mem.int .waccessPoints ∧ t.Tallied u) _ h
      (start_at env d)
    · refine ⟨rfl, rfl, ?_, ?_, ?_⟩
      all_goals simp [Session.start, Answered]
    · rintro s u x s' hx hc ⟨hn, hu⟩ hrun
      have hcmd : s.cmdType ≠ tSet := by
        rw [show s.cmdType = x.cursor.cmdType from congrArg Cursor.cmdType hc]
        apply ne_tSet (hreq.cursor hx)
      use (Branch.run_accessPoints x.key.marksItsFile hrun).trans hn
      apply Item.run_tally hcmd hn hc hu hrun
  apply hfollows.2

/-! ### The reply -/

/-- The count of the answers of the session `s`, and the answers. -/
def Session.told (s : Session) : Nat × List Answer := (s.ret, s.pRet)

theorem presetReply_answered {index : Int} {rest : List Answer} :
  Yields (fun s' : Session => Answered s'.pRet) (presetReply index rest s)
  := by
  apply Yields.ite
  · intro _
    apply Yields.of_ok
    apply answered_append.mpr (Or.inr ?_)
    exact ⟨⟨.ptzPreset, decimal index⟩, .head _, by simp [selectorKeys]⟩
  · exact fun _ => Yields.of_error

/-- If a preset is looked up, for a command other than `T_Set`, then there is an answer besides the
selectors. -/
theorem dealPtzPreset_answered (hcmd : s.cmdType ≠ tSet) :
  Yields (fun s' : Session => Answered s'.pRet) (dealPtzPreset s)
  := by
  apply Yields.ite
  · exact fun _ => presetReply_answered
  · intro _
    apply Yields.ite
    · intro hset
      exact absurd hset hcmd
    · intro _
      apply Yields.ite
      · exact fun _ => presetReply_answered
      · intro _
        apply Yields.ite
        · exact fun _ => Yields.of_bind fun _ => presetReply_answered
        · exact fun _ => presetReply_answered

/-- What `finish` does behind the preset gives no answer. -/
theorem finish_told (h : finish env s = .ok s') :
  ∃ s₁, finishPreset s = .ok s₁ ∧ s'.told = s₁.told
  := by
  obtain ⟨s₁, hs₁, h⟩ := bind_ok.mp h
  obtain ⟨s₂, hs₂, h⟩ := bind_ok.mp h
  obtain rfl := Except.ok.inj h
  have hif (c : Prop) [Decidable c] (s : Session) (e : Effect) :
      (if c then s.effect e else s).told = s.told := by
    split
    · rfl
    · rfl
  have hnotify : (notify env s₁).told = s₁.told := by
    unfold notify
    simp only
    rw [hif, hif, hif, hif]
  have hsend : Keeps Session.told (notify env s₁) (sendOsd env (notify env s₁)) :=
    ite_keeps (after_keeps fun _ => ok_keeps (by rfl)) (ok_keeps (by rfl))
  have hfiles (files : List CfgFile) (s : Session) : (files.foldl writeFile s).told = s.told := by
    induction files generalizing s with
    | nil => rfl
    | cons file files ih =>
        rw [List.foldl_cons, ih, writeFile]
        split
        · rfl
        · rfl
  have hreboot : (finishReboot (writeFiles s₂)).told = (writeFiles s₂).told := hif _ _ _
  use s₁, hs₁
  rw [hreboot, writeFiles, hfiles, hsend s₂ hs₂, hnotify]

/-- What follows the loop answers, and counts it, exactly when a preset is dealt with. -/
theorem finish_tally (hcmd : s.cmdType ≠ tSet) (h : finish env s = .ok s') :
  (s.ptzPresetIn = 0 → s'.told = s.told) ∧
  (s.ptzPresetIn ≠ 0 → s'.ret ≠ 0 ∧ Answered s'.pRet)
  := by
  obtain ⟨s₁, hs₁, htold⟩ := finish_told h
  obtain ⟨hret, hpRet⟩ := Prod.mk.inj htold
  unfold finishPreset at hs₁
  constructor
  · intro hzero
    rw [if_neg (not_not.mpr hzero)] at hs₁
    obtain rfl := Except.ok.inj hs₁
    apply htold
  · intro hin
    rw [if_pos hin] at hs₁
    obtain ⟨s₂, hs₂, rfl⟩ := map_ok.mp hs₁
    constructor
    · rw [hret]
      apply Nat.succ_ne_zero
    · rw [hpRet]
      apply dealPtzPreset_answered hcmd s₂ hs₂

/-- The reply to a request that does not set is counted exactly when there is an answer besides the
selectors, if and only if a preset is dealt with or the `Device.tally` of its pairs has the one
exactly when it has the other. -/
theorem counted_iff_answered_iff
    {reply : Reply} (hreq : Query req) (h : processMsg env req d = .ok reply) :
  ∃ t s, processPairs env req (.start env d) = .ok t ∧ finish env t = .ok s ∧
    reply.ret = s.ret ∧ reply.rbuf = response s.pRet ∧
    ((s.ret ≠ 0 ↔ Answered s.pRet) ↔
      (d.tally req).preset ∨ ((d.tally req).counted ↔ (d.tally req).answered))
  := by
  obtain ⟨t, ht, h⟩ := bind_ok.mp h
  obtain ⟨s, hs, h⟩ := bind_ok.mp h
  obtain rfl := Except.ok.inj h
  refine ⟨t, s, ht, hs, rfl, rfl, ?_⟩
  obtain ⟨-, hcounted, hanswered, hpreset⟩ := processPairs_tally hreq ht
  obtain ⟨hzero, hin⟩ := finish_tally (ne_tSet (hreq.cmdType ht)) hs
  rw [← hpreset, ← hcounted, ← hanswered]
  by_cases hdealt : t.ptzPresetIn = 0
  · obtain ⟨hret, hpRet⟩ := Prod.mk.inj (hzero hdealt)
    rw [hret, hpRet, hdealt]
    simp
  · obtain ⟨hret, hpRet⟩ := hin hdealt
    exact iff_of_true (iff_of_true hret hpRet) (Or.inl hdealt)

theorem counted_iff_answered_iff_brightness :
  ∃ reply t s, processMsg .idle brightnessQuery .blank = .ok reply ∧
    processPairs .idle brightnessQuery (.start .idle .blank) = .ok t ∧ finish .idle t = .ok s ∧
    reply.rbuf = response s.pRet ∧ (s.ret ≠ 0 ↔ Answered s.pRet)
  := by
  have hok : (processMsg .idle brightnessQuery .blank).map Reply.ret = .ok 1 := by decide +kernel
  obtain ⟨reply, hreply, -⟩ := map_ok.mp hok
  obtain ⟨t, s, ht, hs, -, hrbuf, hiff⟩ := counted_iff_answered_iff (by decide) hreply
  refine ⟨reply, t, s, hreply, ht, hs, hrbuf, hiff.mpr (Or.inr ?_)⟩
  -- the brightness is counted, behind the type
  exact iff_of_true (Or.inr rfl) ⟨by decide, Or.inr (Or.inl rfl)⟩

/-- A query for the default timeout of the PTZ unit, `e_ptz_continue_move_default_timeout`. -/
def timeoutQuery : Request := [("0".toList, "0".toList), ("188".toList, [])]

/-- The reply to `timeoutQuery` has the default timeout as an answer, and a count of 0. -/
theorem timeout_not_counted :
  ∃ reply, processMsg .idle timeoutQuery .blank = .ok reply ∧ reply.ret = 0 ∧
    reply.rbuf = response [⟨.type, decimal 0⟩, ⟨.ptzContinueMoveDefaultTimeout, decimal 10000⟩] ∧
    Answered [⟨.type, decimal 0⟩, ⟨.ptzContinueMoveDefaultTimeout, decimal 10000⟩]
  := by
  have hok : (processMsg .idle timeoutQuery .blank).map (fun reply => (reply.ret, reply.rbuf)) =
      .ok (0, response
        [⟨.type, decimal 0⟩, ⟨.ptzContinueMoveDefaultTimeout, decimal 10000⟩]) := by
    decide +kernel
  obtain ⟨reply, hreply, heq⟩ := map_ok.mp hok
  obtain ⟨hret, hrbuf⟩ := Prod.mk.inj heq
  refine ⟨reply, hreply, hret, hrbuf, ⟨.ptzContinueMoveDefaultTimeout, decimal 10000⟩, ?_, ?_⟩
  · exact .tail _ (.head _)
  · decide

end Msg
