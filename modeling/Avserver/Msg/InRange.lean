import Avserver.Msg.Regions

/-!
# Requests that stay within the tables

Which region is selected behind the loop, and whether a region has been changed, follows from
the items and from what the overlay configuration was before them (`OsdView`).  With this a
request stays within all tables that it selects from when its items are in range and the region
selected last is, or no region has been changed; otherwise it leaves a table, unless it has run
into something else before (`selectors_in_range`).
-/

namespace Msg

open Library

variable {env : Env} {s s' t : Session} {x : Item} {req : Request} {d : Device}

/-! ### What the items make of the regions -/

/-- The branch with the `value` changes the `region` that is selected, given the overlay
configuration in `m`. -/
def Branch.ChangesRegion (region : Int) (m : Contents) (value : List Char) : Branch → Prop
  | .osd f => Within region regionNum ∧ m.int (.osd region.toNat f) ≠ atoi value
  | .osdName =>
      Within region regionNum ∧ strcmpEq (m.str (.osdName region.toNat)) value ≠ .ok true
  | _ => False

/-- The region selected, the overlay configuration before the first change of a region, and whether
there has been one. -/
structure OsdView where
  region : Int
  stored : Contents
  changed : Prop

/-- What an item `x` makes of the view `u` of the regions. -/
def OsdView.step (env : Env) (u : OsdView) (x : Item) : OsdView where
  region := if x.key.branch = .osdRegion then atoi x.value else u.region
  stored := if x.Restores then env.defaults else u.stored
  changed := u.changed ∨
    x.cursor.cmdType = tSet ∧ x.key.branch.ChangesRegion u.region u.stored x.value

/-- The session `s` has the region of the view `u`, notes a change exactly if `u` has one, and
before it has the overlay configuration of `u`. -/
structure Session.Views (s : Session) (u : OsdView) : Prop where
  region : s.osdRegion = u.region
  osdCfg : s.osdCfg = true ↔ u.changed
  stored : ¬ u.changed → ∀ f, f.file = some .overlayCfg → s.mem f = u.stored f

/-- A `key` whose branch is for no region marks another file than the overlay configuration. -/
theorem Key.file_ne_overlay {key : Key} (hkey : ¬ key.branch.OfOsd) (c : Cursor) :
  key.branch.file c ≠ some .overlayCfg
  := by
  have hav (a : AvFile) : a.cfgFile ≠ .overlayCfg := by
    cases a
    all_goals decide
  cases key
  case osdEnable | osdX | osdY | osdW | osdH | osdRegionName => exact absurd trivial hkey
  all_goals
    simp only [Key.branch, Branch.file, Branch.plain, Branch.calling, Branch.indexed,
      Branch.hooked]
    try split
  all_goals simp [hav]

/-- The files of the fields that branches change loosely, without marking them. -/
def looseFiles : List (Option CfgFile) :=
  [some .enc0, some .enc1, some .netCfg, some .sysCfg, some .sysTimer, some .user, none]

theorem Branch.file_of_loose {b : Branch} {c : Cursor} {f : Field} (h : b.loose c f) :
  f.file ∈ looseFiles
  := by
  cases b
  case frameRate | bitRate | ipInterval =>
    rw [h.2.2]
    cases c.avFile
    all_goals decide
  case macaddr | devtype =>
    rw [h.2]
    decide
  case systime =>
    obtain rfl := h
    decide
  case userName =>
    obtain ⟨-, i, rfl⟩ := h
    exact (List.mem_of_getElem? (i := 5) rfl)
  case snapshotStart =>
    obtain rfl := h
    decide
  all_goals cases h

/-- A field `f` of a file that is not among `looseFiles` is changed loosely by no branch `b`. -/
theorem Branch.not_loose
    {b : Branch} {c : Cursor} {f : Field} {file : CfgFile} (hfile : some file ∉ looseFiles)
    (hf : f.file = some file) :
  ¬ b.loose c f
  := by
  intro h
  apply hfile
  rw [← hf]
  apply Branch.file_of_loose h

/-- Whether a branch `b` changes a region depends, of the contents, on the overlay configuration
only. -/
theorem Branch.changesRegion_congr
    {b : Branch} {region : Int} {value : List Char} {m m' : Contents}
    (hm : ∀ f, f.file = some .overlayCfg → m f = m' f) :
  b.ChangesRegion region m value ↔ b.ChangesRegion region m' value
  := by
  cases b
  case osd f =>
    have hint : m.int (.osd region.toNat f) = m'.int (.osd region.toNat f) := hm _ rfl
    simp only [Branch.ChangesRegion, hint]
  case osdName =>
    have hstr : m.str (.osdName region.toNat) = m'.str (.osdName region.toNat) := hm _ rfl
    simp only [Branch.ChangesRegion, hstr]
  all_goals rfl

/-- A branch of the form `onCmd` does its first part for `T_Set`, and otherwise its second part or
nothing. -/
theorem onCmd_set_or
    {set get : Except Fault Session} (h : s.onCmd set get = .ok s') :
  (s.cmdType = tSet ∧ set = .ok s') ∨ (s.cmdType ≠ tSet ∧ (get = .ok s' ∨ s = s'))
  := by
  unfold Session.onCmd at h
  split at h
  · next hcmd => apply Or.inl ⟨hcmd, h⟩
  · next hcmd =>
      refine Or.inr ⟨hcmd, ?_⟩
      split at h
      · apply Or.inl h
      · apply Or.inr (Except.ok.inj h)

theorem reply_same {key : Key} {t : List Char} (h : s.reply key t = .ok s') :
  s'.osd = s.osd ∧ s'.mem = s.mem
  := by
  constructor
  · apply reply_still.osd _ h
  · funext f
    apply (Session.reply_stores (P := fun _ => False) h).mem f (fun hfalse => hfalse)

/-- What a branch `b` for a region does with a `value`: it changes the region, for `T_Set`, or
nothing. -/
def RegionStep (b : Branch) (value : List Char) (s s' : Session) : Prop :=
  ((s.cmdType = tSet ∧ b.ChangesRegion s.osdRegion s.mem value) ∧
    s'.osd = (s.osdRegion, true)) ∨
  (¬ (s.cmdType = tSet ∧ b.ChangesRegion s.osdRegion s.mem value) ∧
    s'.osd = s.osd ∧ s'.mem = s.mem)

theorem osdBranch_region
    {f : OsdField} {key : Key} {value : List Char} (h : osdBranch f key value s = .ok s') :
  RegionStep (.osd f) value s s'
  := by
  unfold osdBranch at h
  split at h
  · next hout =>
      obtain rfl := Except.ok.inj h
      refine Or.inr ⟨?_, rfl, rfl⟩
      simp only [Branch.ChangesRegion, Within]
      omega
  · next hin =>
      have hwithin : Within s.osdRegion regionNum := by
        simp only [Within]
        omega
      obtain ⟨hcmd, h⟩ | ⟨hcmd, hget⟩ := onCmd_set_or h
      · split at h
        · next hne =>
            obtain rfl := Except.ok.inj h
            apply Or.inl ⟨⟨hcmd, hwithin, hne⟩, rfl⟩
        · next heq =>
            obtain rfl := Except.ok.inj h
            exact Or.inr ⟨fun hand => heq hand.2.2, rfl, rfl⟩
      · refine Or.inr ⟨fun hand => hcmd hand.1, ?_⟩
        obtain h | rfl := hget
        · apply reply_same h
        · exact ⟨rfl, rfl⟩

theorem osdNameBranch_region {value : List Char} (h : osdNameBranch value s = .ok s') :
  RegionStep .osdName value s s'
  := by
  unfold osdNameBranch at h
  split at h
  · next hout =>
      obtain rfl := Except.ok.inj h
      refine Or.inr ⟨?_, rfl, rfl⟩
      simp only [Branch.ChangesRegion, Within]
      omega
  · next hin =>
      have hwithin : Within s.osdRegion regionNum := by
        simp only [Within]
        omega
      obtain ⟨hcmd, h⟩ | ⟨hcmd, hget⟩ := onCmd_set_or h
      · obtain ⟨b, hb, h⟩ := bind_ok.mp h
        split at h
        · next htrue =>
            obtain rfl := Except.ok.inj h
            refine Or.inr ⟨?_, rfl, rfl⟩
            rintro ⟨-, -, hne⟩
            apply hne
            rw [hb, htrue]
        · next hfalse =>
            obtain ⟨s₁, hs₁, h⟩ := bind_ok.mp h
            obtain rfl := Except.ok.inj h
            refine Or.inl ⟨⟨hcmd, hwithin, ?_⟩, ?_⟩
            · rw [hb]
              intro heq
              exact hfalse (Except.ok.inj heq)
            · have hosd := setText_still.osd _ hs₁
              simp only [Session.osd, Session.setFileChanged, Prod.mk.injEq] at hosd ⊢
              exact ⟨hosd.1, trivial⟩
      · refine Or.inr ⟨fun hand => hcmd hand.1, ?_⟩
        obtain h | rfl := hget
        · obtain ⟨t, -, h⟩ := bind_ok.mp h
          apply reply_same h
        · exact ⟨rfl, rfl⟩

variable {u : OsdView}

/-- An item for a region that does a `RegionStep` makes of the view what `OsdView.step` computes. -/
theorem RegionStep.views
    (hregion : x.key.branch ≠ .osdRegion) (hreset : ¬ x.Restores) (hc : s.cursor = x.cursor)
    (hu : s.Views u) (h : RegionStep x.key.branch x.value s s') :
  s'.Views (u.step env x)
  := by
  have hcmd : s.cmdType = x.cursor.cmdType := congrArg Cursor.cmdType hc
  have hstep : (s.cmdType = tSet ∧ x.key.branch.ChangesRegion s.osdRegion s.mem x.value) →
      (u.step env x).changed := by
    rintro ⟨hset, hchanges⟩
    by_cases hchanged : u.changed
    · apply Or.inl hchanged
    · refine Or.inr ⟨hcmd ▸ hset, ?_⟩
      rw [← hu.region]
      apply (Branch.changesRegion_congr (hu.stored hchanged)).mp hchanges
  obtain ⟨hchanges, hosd⟩ | ⟨hchanges, hosd, hmem⟩ := h
  · obtain ⟨hr, ho⟩ := Prod.mk.inj hosd
    constructor
    · simp only [OsdView.step, if_neg hregion]
      rw [← hu.region]
      apply hr
    · exact iff_of_true ho (hstep hchanges)
    · intro hnot
      exact absurd (hstep hchanges) hnot
  · have hchanged : (u.step env x).changed → u.changed := by
      rintro (hchanged | ⟨hset, hx⟩)
      · apply hchanged
      · by_contra hnot
        apply hchanges
        refine ⟨hcmd ▸ hset, ?_⟩
        rw [hu.region]
        apply (Branch.changesRegion_congr (hu.stored hnot)).mpr hx
    obtain ⟨hr, ho⟩ := Prod.mk.inj hosd
    constructor
    · simp only [OsdView.step, if_neg hregion]
      rw [← hu.region]
      apply hr
    · rw [ho, hu.osdCfg]
      exact ⟨Or.inl, hchanged⟩
    · intro hnot f hf
      simp only [OsdView.step, if_neg hreset]
      rw [hmem]
      apply hu.stored (fun h => hnot (Or.inl h)) f hf

/-- An item that is for no region, and no reset, leaves the view of the regions as it is. -/
theorem views_of_quiet
    (hb : ¬ x.key.branch.OfOsd) (hreset : ¬ x.Restores) (hosd : s'.osd = s.osd)
    (hmem : ∀ f, f.file = some .overlayCfg → s'.mem f = s.mem f) (hu : s.Views u) :
  s'.Views (u.step env x)
  := by
  have hregion : x.key.branch ≠ .osdRegion := fun heq => hb (heq ▸ trivial)
  have hchanges : ¬ x.key.branch.ChangesRegion u.region u.stored x.value := by
    intro hx
    apply hb
    revert hx
    cases x.key.branch
    case osd | osdName => exact fun _ => trivial
    all_goals exact fun hx => hx.elim
  obtain ⟨hr, ho⟩ := Prod.mk.inj hosd
  constructor
  · simp only [OsdView.step, if_neg hregion]
    rw [← hu.region]
    apply hr
  · rw [ho, hu.osdCfg]
    simp only [OsdView.step, hchanges, and_false, or_false]
  · intro hnot f hf
    simp only [OsdView.step, if_neg hreset]
    rw [hmem f hf]
    apply hu.stored (fun h => hnot (Or.inl h)) f hf

/-- An item `x` makes of the view of a session what `OsdView.step` computes from it. -/
theorem Item.run_views (hc : s.cursor = x.cursor) (hu : s.Views u) (h : x.run env s = .ok s') :
  s'.Views (u.step env x)
  := by
  by_cases hreset : x.key.branch = .reset
  · have hb : ¬ x.key.branch.OfOsd := by
      rw [hreset]
      exact fun h => h
    have hosd : s'.osd = s.osd := Branch.run_osd hb _ h
    rw [Item.run, hreset] at h
    obtain ⟨hcmd, rfl⟩ | ⟨hcmd, hresets⟩ := resetBranch_resets h
    · apply views_of_quiet hb _ hosd (fun _ _ => rfl) hu
      rintro ⟨-, hset⟩
      apply hcmd
      rw [← hset]
      exact congrArg Cursor.cmdType hc
    · have hrestores : x.Restores := ⟨hreset, by rw [← hcmd, ← hc]; rfl⟩
      obtain ⟨hr, ho⟩ := Prod.mk.inj hosd
      have hregion : x.key.branch ≠ .osdRegion := by simp [hreset]
      constructor
      · simp only [OsdView.step, if_neg hregion]
        rw [← hu.region]
        apply hr
      · rw [ho, hu.osdCfg]
        simp only [OsdView.step, hreset, Branch.ChangesRegion, and_false, or_false]
      · intro _ f hf
        simp only [OsdView.step, if_pos hrestores]
        apply (hresets.reset f ⟨.overlayCfg, by decide, hf⟩).1
  · have hrestores : ¬ x.Restores := fun hand => hreset hand.1
    by_cases hb : x.key.branch.OfOsd
    · cases hbranch : x.key.branch
      case osdRegion =>
        rw [Item.run, hbranch] at h
        change ({ s with osdRegion := atoi x.value }).answer .osdRegion _ = .ok s' at h
        obtain ⟨hr, ho⟩ := Prod.mk.inj (answer_still.osd _ h)
        constructor
        · simp only [OsdView.step, hbranch, if_true]
          apply hr
        · rw [ho, hu.osdCfg]
          simp only [OsdView.step, hbranch, Branch.ChangesRegion, and_false, or_false]
        · intro hnot f hf
          simp only [OsdView.step, if_neg hrestores]
          rw [(Session.answer_stores (P := fun _ => False) h).mem f (fun hfalse => hfalse)]
          apply hu.stored (fun h => hnot (Or.inl h)) f hf
      case osd f =>
        apply RegionStep.views (by simp [hbranch]) hrestores hc hu
        rw [Item.run, hbranch] at h
        rw [hbranch]
        apply osdBranch_region h
      case osdName =>
        apply RegionStep.views (by simp [hbranch]) hrestores hc hu
        rw [Item.run, hbranch] at h
        rw [hbranch]
        apply osdNameBranch_region h
      all_goals
        rw [hbranch] at hb
        cases hb
    · apply views_of_quiet hb hrestores (Branch.run_osd hb _ h) _ hu
      intro f hf
      apply (Branch.touches x.key.marksItsFile hreset h).mem
      · apply Branch.not_loose (by decide) hf
      · intro c hc hfile
        obtain rfl := Option.some.inj (hf.symm.trans hfile)
        apply Key.file_ne_overlay hb _ hc

/-! ### Requests -/

/-- What a request makes of the view of the regions, computed from its items. -/
def Device.osdView (env : Env) (d : Device) (req : Request) : OsdView :=
  (d.items req).foldl (OsdView.step env) ⟨-1, d.mem, False⟩

/-- The elements that the request selects are in their tables: those of the items, and the region
that is sent to the overlay process. -/
structure Device.InRange (env : Env) (d : Device) (req : Request) : Prop where
  items : ∀ x ∈ d.items req, x.key.branch.InRange x.cursor
  region : (d.osdView env req).changed → env.connectLocal = true →
    Within (d.osdView env req).region regionNum

theorem processPairs_views (h : processPairs env req (.start env d) = .ok t) :
  t.Views (d.osdView env req)
  := by
  apply processPairs_follows (R := Session.Views) _ h (start_at env d)
  · constructor
    · rfl
    · exact iff_of_false Bool.false_ne_true (fun hfalse => hfalse)
    · exact fun _ _ _ => rfl
  · intro s u x s' _ hc hu hx
    apply Item.run_views hc hu hx

/-- The loop over the pairs stays within the tables exactly when what its items select is in
range. -/
theorem processPairs_selects {n : Int} {c : Cursor} (hs : s.At n c) :
  Selects (∀ x ∈ Msg.items n c req, x.key.branch.InRange x.cursor) (processPairs env req s)
  := by
  induction req generalizing s c with
  | nil => apply Checks.of_ok fun x hx => by cases hx
  | cons pair req ih =>
      rw [processPairs, List.foldlM_cons]
      cases hkey : Key.ofCode (atoi pair.1) with
      | none =>
          rw [items_cons_none hkey]
          have hpair : processPair env s pair = .ok s := by simp [processPair, hkey]
          rw [hpair]
          apply ih hs
      | some key =>
          rw [items_cons_some hkey, List.forall_mem_cons]
          have hpair : processPair env s pair = (Item.mk c key pair.2).run env s := by
            simp [processPair, hkey, Item.run]
          rw [hpair]
          apply Checks.bind
          · apply Branch.run_selects.iff
            rw [hs.2]
          · intro s' hs'
            apply ih (Item.run_at (x := ⟨c, key, pair.2⟩) hs hs')

/-! ### Behind the loop -/

section

variable {F : Fault → Prop} [Indexing F]

theorem presetReply_free {index : Int} {rest : List Answer} :
  Spares F (presetReply index rest s)
  := answers_free

theorem setPresets_free {i : Nat} {name : List Char} : Spares F (setPresets i name s) := by
  apply bind_free _ fun _ => ok_free
  apply Checks.foldlM_free
  intro s n _
  apply ite_free ok_free setText_free

/-- The preset whose number ends its name is looked up in the table of the presets, and in no other
one. -/
theorem dealPtzPreset_free (hpresets : ¬ F (.index .presets)) : Spares F (dealPtzPreset s) := by
  apply ite_free presetReply_free
  apply ite_free
  · apply ite_free presetReply_free
    apply bind_free text_free
    intro name
    apply ite_free
    · apply ite_free answer_free
      apply bind_free presetReply_free
      intro s₁
      apply bind_free (bounded_spares hpresets)
      intro i
      apply setPresets_free
    · apply bind_free presetReply_free
      intro s₁
      apply bind_free setPresets_free fun _ => ok_free
  · apply ite_free presetReply_free
    apply ite_free _ presetReply_free
    apply bind_free text_free fun _ => presetReply_free

theorem finishPreset_free (hpresets : ¬ F (.index .presets)) : Spares F (finishPreset s) :=
  ite_free (dealPtzPreset_free hpresets).map ok_free

end

theorem presetReply_still {index : Int} {rest : List Answer} :
  KeepsStill s (presetReply index rest s)
  := answers_still

theorem setSpePreset_still {p : List Char} {n : Nat} : KeepsStill s (setSpePreset p s n) := by
  apply ite_keeps (ok_keeps rfl)
  exact follow_keeps setText_still rfl

theorem setPresets_still {i : Nat} {name : List Char} : KeepsStill s (setPresets i name s) := by
  apply bind_keeps
  · apply Yields.foldlM (I := fun s' : Session => (s'.core, s'.asked) = (s.core, s.asked))
    · intro s' n _ hs'
      apply follow_keeps setSpePreset_still hs'
    · rfl
  · intro s₁ hs₁
    exact ok_keeps hs₁

theorem dealPtzPreset_still : KeepsStill s (dealPtzPreset s) := by
  apply ite_keeps presetReply_still
  apply ite_keeps
  · apply ite_keeps presetReply_still
    apply after_keeps
    intro name
    apply ite_keeps
    · apply ite_keeps answer_still
      apply bind_keeps presetReply_still
      intro s₁ hs₁
      apply after_keeps
      intro i
      apply follow_keeps setPresets_still
      exact hs₁
    · apply bind_keeps presetReply_still
      intro s₁ hs₁
      apply bind_keeps (follow_keeps setPresets_still hs₁)
      intro s₂ hs₂
      exact ok_keeps hs₂
  · apply ite_keeps presetReply_still
    apply ite_keeps _ presetReply_still
    apply after_keeps fun _ => presetReply_still

theorem finishPreset_still : KeepsStill s (finishPreset s) := by
  apply ite_keeps _ (ok_keeps rfl)
  intro s' hs'
  obtain ⟨s₁, hs₁, rfl⟩ := map_ok.mp hs'
  apply dealPtzPreset_still _ hs₁

theorem notify_osd (env : Env) (s : Session) : (notify env s).osd = s.osd := by
  have hif (c : Prop) [Decidable c] (s : Session) (e : Effect) :
      (if c then s.effect e else s).osd = s.osd := by
    split
    · rfl
    · rfl
  unfold notify
  simp only
  rw [hif, hif, hif, hif]

theorem sendOsd_selects :
  Selects (s.osdCfg = true ∧ env.connectLocal = true → Within s.osdRegion regionNum)
    (sendOsd env s)
  := only_if_selects (bounded_selects.bind_free fun _ => ok_free)

/-- What follows the loop stays within the tables exactly when the region that is sent, if one is,
is in range. -/
theorem finish_selects :
  Selects (s.osdCfg = true ∧ env.connectLocal = true → Within s.osdRegion regionNum)
    (finish env s)
  := by
  apply Checks.free_bind (finishPreset_free (by simp [Fault.Selected, selectors]))
  intro s₁ hs₁
  obtain ⟨hr, ho⟩ := Prod.mk.inj ((notify_osd env s₁).trans (finishPreset_still.osd _ hs₁))
  rw [← hr, ← ho]
  apply sendOsd_selects.bind_free fun _ => ok_free

/-- A request stays within the tables exactly when what it selects is in them, `InRange`. -/
theorem processMsg_selects : Selects (d.InRange env req) (processMsg env req d) := by
  apply ((processPairs_selects (start_at env d)).bind _).iff
  · constructor
    · rintro ⟨hitems, hregion⟩
      exact ⟨hitems, hregion⟩
    · rintro ⟨hitems, hregion⟩
      exact ⟨hitems, hregion⟩
  · intro t ht
    obtain ⟨hregion, hosd, -⟩ := processPairs_views ht
    apply (finish_selects.bind_free fun _ => ok_free).iff
    rw [hregion, hosd, and_imp]

/-- A request that is `InRange` accesses no table outside its bounds by what it selects; any other
request is not handled to its end. -/
theorem selectors_in_range (env : Env) (req : Request) (d : Device) :
  (d.InRange env req → ∀ table ∈ selectors, processMsg env req d ≠ .error (.index table)) ∧
  (¬ d.InRange env req → ∀ reply, processMsg env req d ≠ .ok reply)
  := by
  obtain ⟨herror, hok⟩ := @processMsg_selects env req d
  constructor
  · intro hin table htable h
    apply herror _ h htable hin
  · intro hout reply h
    apply hout (hok reply h)

/-- Requests that access streams, areas, masks and channels that are not there. -/
theorem selectors_out_of_range :
  processMsg .idle [("0".toList, "0".toList), ("2".toList, "5".toList), ("14".toList, [])]
    .blank = .error (.index .ubs) ∧
  processMsg .idle [("0".toList, "0".toList), ("125".toList, [])] .blank
    = .error (.index .areaParam) ∧
  processMsg .idle [("0".toList, "0".toList), ("154".toList, "3".toList), ("156".toList, [])]
    .blank = .error (.index .aera) ∧
  processMsg .idle [("0".toList, "1".toList), ("181".toList, "1".toList)] .blank
    = .error (.index .nvrSendStatus)
  := by
  refine ⟨?_, ?_, ?_, ?_⟩
  all_goals rfl

end Msg
