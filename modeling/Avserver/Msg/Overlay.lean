import Avserver.Msg.Sockets

/-!
# What the overlay process is told

The pairs of a request change the entries of OSD regions, each that of the region selected by
then, and a reset sets all entries back; what they make of the entries is computed from the
items (`Overlay.step`, `processPairs_overlay`).  Behind the loop the entry of one region is sent
to the overlay process: that of the region selected last, and only if a pair has changed a
region.  So the process is told of all that has changed exactly when no other entry has
(`overlay_told_iff`).
-/

namespace Msg

open Library

variable {env : Env} {s s' t : Session} {x : Item} {req : Request} {d : Device} {k : Sockets}

/-! ### The entries of the regions -/

/-- The region that is selected, and the contents, of which the overlay configuration is looked
at. -/
structure Overlay where
  region : Int
  contents : Contents

/-- What a branch with the `value` stores in the entry of the `region`, for `T_Set`. -/
def Branch.storeRegion (region : Int) (value : List Char) (m : Contents) : Branch → Contents
  | .osd f =>
      if Within region regionNum ∧ m.int (.osd region.toNat f) ≠ atoi value then
        m.setInt (.osd region.toNat f) (atoi value)
      else m
  | .osdName =>
      if Within region regionNum ∧ strcmpEq (m.str (.osdName region.toNat)) value ≠ .ok true then
        match strcpy (m.str (.osdName region.toNat)) value with
        | .ok buf => m.setStr (.osdName region.toNat) buf
        | .error _ => m
      else m
  | _ => m

/-- What an item `x` makes of the region and the overlay configuration in `u`. -/
def Overlay.step (env : Env) (u : Overlay) (x : Item) : Overlay where
  region := if x.key.branch = .osdRegion then atoi x.value else u.region
  contents :=
    if x.Restores then env.defaults
    else if x.cursor.cmdType = tSet then x.key.branch.storeRegion u.region x.value u.contents
    else u.contents

/-- The contents `m` and `m'` are the same on the overlay configuration. -/
def SameOverlay (m m' : Contents) : Prop := ∀ f, f.file = some .overlayCfg → m f = m' f

/-- The session `s` has the region and the overlay configuration of `u`. -/
structure Session.Overlays (s : Session) (u : Overlay) : Prop where
  region : s.osdRegion = u.region
  contents : SameOverlay s.mem u.contents

theorem SameOverlay.refl (m : Contents) : SameOverlay m m := fun _ _ => rfl

theorem SameOverlay.trans {m m₁ m' : Contents} (h : SameOverlay m m₁) (h' : SameOverlay m₁ m') :
  SameOverlay m m'
  := fun f hf => (h f hf).trans (h' f hf)

theorem SameOverlay.int {m m' : Contents} (h : SameOverlay m m') (r : Nat) (f : OsdField) :
  m.int (.osd r f) = m'.int (.osd r f)
  := h (.int (.osd r f)) rfl

theorem SameOverlay.str {m m' : Contents} (h : SameOverlay m m') (r : Nat) :
  m.str (.osdName r) = m'.str (.osdName r)
  := h (.str (.osdName r)) rfl

/-- The entry of the region `r` is of the overlay configuration, so it is the same in `m` and
`m'`. -/
theorem SameOverlay.entry {m m' : Contents} (h : SameOverlay m m') (r : Nat) :
  m.osdEntry r = m'.osdEntry r
  := by simp only [Contents.osdEntry, h.int, h.str]

theorem SameOverlay.setInt {m m' : Contents} (h : SameOverlay m m') (f : IntField) (v : Int) :
  SameOverlay (m.setInt f v) (m'.setInt f v)
  := by
  intro g hg
  by_cases hgf : g = .int f
  · subst hgf
    simp only [Contents.setInt, Function.update_self]
  · rw [Contents.setInt_of_ne hgf, Contents.setInt_of_ne hgf]
    apply h g hg

theorem SameOverlay.setStr {m m' : Contents} (h : SameOverlay m m') (f : StrField)
    (buf : List Char) :
  SameOverlay (m.setStr f buf) (m'.setStr f buf)
  := by
  intro g hg
  by_cases hgf : g = .str f
  · subst hgf
    simp only [Contents.setStr, Function.update_self]
  · rw [Contents.setStr_of_ne hgf, Contents.setStr_of_ne hgf]
    apply h g hg

/-- A number that is set in the entry of the region `r'` leaves the entry of another region `r`
alone. -/
theorem osdEntry_setInt_of_ne {m : Contents} {r r' : Nat} {f : OsdField} {v : Int} (h : r ≠ r') :
  (m.setInt (.osd r' f) v).osdEntry r = m.osdEntry r
  := by
  have hint (g : OsdField) : (m.setInt (.osd r' f) v).int (.osd r g) = m.int (.osd r g) := by
    apply Contents.setInt_of_ne
    intro heq
    cases heq
    exact h rfl
  simp only [Contents.osdEntry, hint]
  rfl

/-- What a branch `b` stores in the entry of a region depends on the overlay configuration only. -/
theorem SameOverlay.storeRegion {m m' : Contents} (h : SameOverlay m m') (b : Branch)
    (region : Int) (value : List Char) :
  SameOverlay (b.storeRegion region value m) (b.storeRegion region value m')
  := by
  cases b
  case osd f =>
    simp only [Branch.storeRegion, h.int]
    split
    · apply h.setInt
    · apply h
  case osdName =>
    simp only [Branch.storeRegion, h.str]
    split
    · split
      · apply h.setStr
      · apply h
    · apply h
  all_goals apply h

/-! ### What the items make of the entries -/

/-- A branch `b` for a region stores what `storeRegion` says, for `T_Set`, and selects no other
region. -/
def StoresRegion (b : Branch) (value : List Char) (s s' : Session) : Prop :=
  s'.osdRegion = s.osdRegion ∧
    s'.mem = if s.cmdType = tSet then b.storeRegion s.osdRegion value s.mem else s.mem

theorem osdBranch_stores_region
    {f : OsdField} {key : Key} {value : List Char} (h : osdBranch f key value s = .ok s') :
  StoresRegion (.osd f) value s s'
  := by
  unfold osdBranch at h
  split at h
  · next hout =>
      obtain rfl := Except.ok.inj h
      have hnot : ¬ Within s.osdRegion regionNum := fun hin => hin.not_out hout
      simp [StoresRegion, Branch.storeRegion, hnot]
  · next hin =>
      have hwithin : Within s.osdRegion regionNum := by
        simp only [Within]
        omega
      obtain ⟨hcmd, h⟩ | ⟨hcmd, hget⟩ := onCmd_set_or h
      · split at h
        · next hne =>
            obtain rfl := Except.ok.inj h
            use rfl
            simp only [Branch.storeRegion, hcmd, if_true, if_pos (And.intro hwithin hne)]
            rfl
        · next heq =>
            obtain rfl := Except.ok.inj h
            use rfl
            have hnot : ¬ (Within s.osdRegion regionNum ∧
                s.mem.int (.osd s.osdRegion.toNat f) ≠ atoi value) := fun hand => heq hand.2
            simp only [Branch.storeRegion, if_neg hnot, ite_self]
      · obtain h | rfl := hget
        · obtain ⟨hosd, hmem⟩ := reply_same h
          use (Prod.mk.inj hosd).1
          rw [if_neg hcmd, hmem]
        · use rfl
          rw [if_neg hcmd]

theorem osdNameBranch_stores_region
    {value : List Char} (h : osdNameBranch value s = .ok s') :
  StoresRegion .osdName value s s'
  := by
  unfold osdNameBranch at h
  split at h
  · next hout =>
      obtain rfl := Except.ok.inj h
      have hnot : ¬ Within s.osdRegion regionNum := fun hin => hin.not_out hout
      simp [StoresRegion, Branch.storeRegion, hnot]
  · next hin =>
      have hwithin : Within s.osdRegion regionNum := by
        simp only [Within]
        omega
      obtain ⟨hcmd, h⟩ | ⟨hcmd, hget⟩ := onCmd_set_or h
      · obtain ⟨b, hb, h⟩ := bind_ok.mp h
        split at h
        · next htrue =>
            obtain rfl := Except.ok.inj h
            use rfl
            simp only [Branch.storeRegion, hb, htrue, ne_eq, not_true, and_false, if_false, ite_self]
        · next hfalse =>
            obtain ⟨s₁, hs₁, h⟩ := bind_ok.mp h
            obtain ⟨buf, hbuf, hs₁⟩ := bind_ok.mp hs₁
            obtain rfl := Except.ok.inj hs₁
            obtain rfl := Except.ok.inj h
            use rfl
            have hne : strcmpEq (s.mem.str (.osdName s.osdRegion.toNat)) value ≠ .ok true := by
              rw [hb]
              exact fun heq => hfalse (Except.ok.inj heq)
            simp only [Branch.storeRegion, hcmd, if_true, if_pos (And.intro hwithin hne), hbuf]
            rfl
      · obtain h | rfl := hget
        · obtain ⟨t, -, h⟩ := bind_ok.mp h
          obtain ⟨hosd, hmem⟩ := reply_same h
          use (Prod.mk.inj hosd).1
          rw [if_neg hcmd, hmem]
        · use rfl
          rw [if_neg hcmd]

variable {u : Overlay}

/-- An item for a region that `StoresRegion` makes of the overlay what `Overlay.step` computes. -/
theorem StoresRegion.overlays
    (hregion : x.key.branch ≠ .osdRegion) (hreset : ¬ x.Restores) (hc : s.cursor = x.cursor)
    (hu : s.Overlays u) (h : StoresRegion x.key.branch x.value s s') :
  s'.Overlays (u.step env x)
  := by
  have hcmd : s.cmdType = x.cursor.cmdType := congrArg Cursor.cmdType hc
  constructor
  · simp only [Overlay.step, if_neg hregion]
    rw [h.1, hu.region]
  · simp only [Overlay.step, if_neg hreset]
    rw [h.2, hcmd, hu.region]
    split
    · apply hu.contents.storeRegion
    · apply hu.contents

/-- An item that is for no region, and no reset, leaves the overlay as it is. -/
theorem overlays_of_quiet
    (hb : ¬ x.key.branch.OfOsd) (hreset : ¬ x.Restores) (hosd : s'.osd = s.osd)
    (hmem : SameOverlay s'.mem s.mem) (hu : s.Overlays u) :
  s'.Overlays (u.step env x)
  := by
  have hregion : x.key.branch ≠ .osdRegion := fun heq => hb (heq ▸ trivial)
  have hstore : x.key.branch.storeRegion u.region x.value u.contents = u.contents := by
    revert hb
    cases x.key.branch
    case osd | osdName => exact fun hb => absurd trivial hb
    all_goals exact fun _ => rfl
  constructor
  · simp only [Overlay.step, if_neg hregion]
    rw [← hu.region]
    apply (Prod.mk.inj hosd).1
  · simp only [Overlay.step, if_neg hreset, hstore, ite_self]
    apply hmem.trans hu.contents

/-- An item `x` makes of the overlay of a session what `Overlay.step` computes from it. -/
theorem Item.run_overlays
    (hc : s.cursor = x.cursor) (hu : s.Overlays u) (h : x.run env s = .ok s') :
  s'.Overlays (u.step env x)
  := by
  by_cases hreset : x.key.branch = .reset
  · have hb : ¬ x.key.branch.OfOsd := by
      rw [hreset]
      exact fun h => h
    have hosd : s'.osd = s.osd := Branch.run_osd hb _ h
    rw [Item.run, hreset] at h
    obtain ⟨hcmd, rfl⟩ | ⟨hcmd, hresets⟩ := resetBranch_resets h
    · apply overlays_of_quiet hb _ hosd (SameOverlay.refl _) hu
      rintro ⟨-, hset⟩
      apply hcmd
      rw [← hset]
      exact congrArg Cursor.cmdType hc
    · have hrestores : x.Restores := ⟨hreset, by rw [← hcmd, ← hc]; rfl⟩
      constructor
      · simp only [Overlay.step, hreset, reduceCtorEq, if_false]
        rw [← hu.region]
        apply (Prod.mk.inj hosd).1
      · intro f hf
        simp only [Overlay.step, if_pos hrestores]
        apply (hresets.reset f ⟨.overlayCfg, by decide, hf⟩).1
  · have hrestores : ¬ x.Restores := fun hand => hreset hand.1
    by_cases hb : x.key.branch.OfOsd
    · cases hbranch : x.key.branch
      case osdRegion =>
        rw [Item.run, hbranch] at h
        change ({ s with osdRegion := atoi x.value }).answer .osdRegion _ = .ok s' at h
        constructor
        · simp only [Overlay.step, hbranch, if_true]
          apply (Prod.mk.inj (answer_still.osd _ h)).1
        · intro f hf
          simp only [Overlay.step, if_neg hrestores, hbranch, Branch.storeRegion, ite_self]
          rw [(Session.answer_stores (P := fun _ => False) h).mem f (fun hfalse => hfalse)]
          apply hu.contents f hf
      case osd f =>
        apply StoresRegion.overlays (by simp [hbranch]) hrestores hc hu
        rw [Item.run, hbranch] at h
        rw [hbranch]
        apply osdBranch_stores_region h
      case osdName =>
        apply StoresRegion.overlays (by simp [hbranch]) hrestores hc hu
        rw [Item.run, hbranch] at h
        rw [hbranch]
        apply osdNameBranch_stores_region h
      all_goals
        rw [hbranch] at hb
        cases hb
    · apply overlays_of_quiet hb hrestores (Branch.run_osd hb _ h) _ hu
      intro f hf
      apply (Branch.touches x.key.marksItsFile hreset h).mem
      · apply Branch.not_loose (by decide) hf
      · intro c hc hfile
        obtain rfl := Option.some.inj (hf.symm.trans hfile)
        apply Key.file_ne_overlay hb _ hc

/-- What a request makes of the overlay configuration, computed from its items. -/
def Device.overlay (env : Env) (d : Device) (req : Request) : Contents :=
  ((d.items req).foldl (Overlay.step env) ⟨-1, d.mem⟩).contents

theorem processPairs_overlay (h : processPairs env req (.start env d) = .ok t) :
  SameOverlay t.mem (d.overlay env req)
  := by
  have hoverlays : t.Overlays ((d.items req).foldl (Overlay.step env) ⟨-1, d.mem⟩) := by
    apply processPairs_follows (R := Session.Overlays) _ h (start_at env d)
    · exact ⟨rfl, SameOverlay.refl _⟩
    · intro s u x s' _ hc hu hx
      apply Item.run_overlays hc hu hx
  apply hoverlays.contents

/-! ### What is sent -/

variable {s₁ : Session}

/-- `finishPreset`, which comes before the region is sent, leaves the overlay configuration and the
region alone. -/
theorem finishPreset_overlay (h : finishPreset s = .ok s') :
  SameOverlay s'.mem s.mem ∧ s'.osd = s.osd
  := by
  constructor
  · intro f hf
    have htouches : Touches (some .ptzPreset) (fun _ => False) s s' := finishPreset_touches h
    apply htouches.mem (fun hfalse => hfalse)
    rintro c hc hfile
    obtain rfl := Option.some.inj hc
    cases hf.symm.trans hfile
  · apply finishPreset_still.osd _ h

/-- What is written to the files, and the reboot, leave the memory of the session `s` alone. -/
theorem finishReboot_writeFiles_mem (s : Session) : (finishReboot (writeFiles s)).mem = s.mem := by
  have hreboot (s : Session) : (finishReboot s).mem = s.mem := by
    unfold finishReboot
    split
    · rfl
    · rfl
  rw [hreboot]
  apply (writeFiles_flash fileArray s).1

theorem notify_mem (env : Env) (s : Session) : (notify env s).mem = s.mem := by
  funext f
  apply (notify_stores env (P := fun _ => False) s).mem f (fun hfalse => hfalse)

theorem sendLocal_osd_not_mem_recCfgSetCalls {c : Contents} {fd len : Int} {r : Nat} {e : OsdEntry} :
  SocketCall.sendLocal fd (.osd r e) len ∉ recCfgSetCalls k c
  := by
  simp only [recCfgSetCalls]
  split
  · simp
  · simp

/-- What follows the loop sends the same regions as the step at which they are sent, `sendOsd`. -/
theorem finishCalls_of_sendOsd
    {s₂ : Session} (h : finishPreset s = .ok s₁)
    (h' : sendOsd (env.attach k) (notify (env.attach k) s₁) = .ok s₂) :
  ∃ calls, finishCalls env k s = .ok (finishReboot (writeFiles s₂), calls) ∧
    ∀ fd r e len, SocketCall.sendLocal fd (.osd r e) len ∈ calls ↔
      SocketCall.sendLocal fd (.osd r e) len ∈ (sendOsdCalls k s₂).1
  := by
  refine ⟨_, bind_ok.mpr ⟨s₁, h, bind_ok.mpr ⟨s₂, h', rfl⟩⟩, ?_⟩
  intro fd r e len
  have hrec : SocketCall.sendLocal fd (.osd r e) len ∉
      if isSetFileChanged s₁.fileChangedFlag .recCfg then recCfgSetCalls k s₁.mem else [] := by
    split
    · apply sendLocal_osd_not_mem_recCfgSetCalls
    · apply List.not_mem_nil
  have hclosing : SocketCall.sendLocal fd (.osd r e) len ∉
      if (sendOsdCalls k s₂).2 ≥ 0 then [.closeLocal (sendOsdCalls k s₂).2] else [] := by
    split
    · simp
    · apply List.not_mem_nil
  simp only [List.mem_append, hrec, hclosing, false_or, or_false]

/-- Where the region is sent, the region and the note of a change are those from behind the loop. -/
theorem notify_finishPreset_osd (env : Env) (h : finishPreset s = .ok s₁) :
  (notify env s₁).osdRegion = s.osdRegion ∧ (notify env s₁).osdCfg = s.osdCfg
  := Prod.mk.inj ((notify_osd env s₁).trans (finishPreset_overlay h).2)

/-- If no region has been changed, what follows the loop sends none, and leaves the overlay
configuration alone. -/
theorem finishCalls_unchanged
    (env : Env) (k : Sockets) (h : finishPreset s = .ok s₁) (hosd : ¬ s.osdCfg = true) :
  ∃ s' calls, finishCalls env k s = .ok (s', calls) ∧ SameOverlay s'.mem s.mem ∧
    ∀ fd r e len, SocketCall.sendLocal fd (.osd r e) len ∉ calls
  := by
  have hosd' : ¬ (notify (env.attach k) s₁).osdCfg = true := by
    rw [(notify_finishPreset_osd _ h).2]
    apply hosd
  obtain ⟨calls, hcalls, hsent⟩ := finishCalls_of_sendOsd (k := k) h (if_neg fun hand => hosd' hand.1)
  refine ⟨_, calls, hcalls, ?_, ?_⟩
  · rw [finishReboot_writeFiles_mem, notify_mem]
    apply (finishPreset_overlay h).1
  · intro fd r e len hmem
    have hsend := (hsent fd r e len).mp hmem
    simp only [sendOsdCalls, if_neg hosd'] at hsend
    cases hsend

/-- If a region has been changed and the one selected is in the table, it is sent, with its number
in its entry; the other entries are left alone. -/
theorem finishCalls_changed
    (h : finishPreset s = .ok s₁) (hfd : k.caposd ≥ 0) (hosd : s.osdCfg = true)
    (hregion : Within s.osdRegion regionNum) :
  ∃ s' calls, finishCalls env k s = .ok (s', calls) ∧
    (∀ r, r ≠ s.osdRegion.toNat → s'.mem.osdEntry r = s.mem.osdEntry r) ∧
    ∀ fd r e len, SocketCall.sendLocal fd (.osd r e) len ∈ calls ↔
      fd = k.caposd ∧ r = s.osdRegion.toNat ∧ e = s'.mem.osdEntry r ∧ len = k.caposdSent
  := by
  obtain ⟨hr, ho⟩ := notify_finishPreset_osd (env.attach k) h
  have hsend : sendOsd (env.attach k) (notify (env.attach k) s₁) = .ok
      (((notify (env.attach k) s₁).setInt (.osd s.osdRegion.toNat .region) s.osdRegion).effect
        (.sendOsd s.osdRegion.toNat)) := by
    unfold sendOsd
    rw [ho, hr, if_pos ⟨hosd, decide_eq_true hfd⟩]
    rw [hregion.bounded]
    rfl
  obtain ⟨calls, hcalls, hsent⟩ := finishCalls_of_sendOsd h hsend
  refine ⟨_, calls, hcalls, ?_, ?_⟩
  · intro r hr'
    rw [finishReboot_writeFiles_mem]
    apply (osdEntry_setInt_of_ne hr').trans
    rw [notify_mem]
    apply (finishPreset_overlay h).1.entry
  · intro fd r e len
    rw [hsent, finishReboot_writeFiles_mem]
    have hregion' : (((notify (env.attach k) s₁).setInt (.osd s.osdRegion.toNat .region)
        s.osdRegion).effect (.sendOsd s.osdRegion.toNat)).osdRegion = s.osdRegion := hr
    have hosd' : (((notify (env.attach k) s₁).setInt (.osd s.osdRegion.toNat .region)
        s.osdRegion).effect (.sendOsd s.osdRegion.toNat)).osdCfg = true := ho.trans hosd
    simp only [sendOsdCalls, hregion', if_pos hosd', if_pos hfd, List.mem_cons, List.not_mem_nil,
      or_false, reduceCtorEq, false_or, SocketCall.sendLocal.injEq, Message.osd.injEq]
    constructor
    · rintro ⟨rfl, ⟨rfl, rfl⟩, rfl⟩
      exact ⟨rfl, rfl, rfl, rfl⟩
    · rintro ⟨rfl, rfl, rfl, rfl⟩
      exact ⟨rfl, ⟨rfl, rfl⟩, rfl⟩

/-- If a region has been changed and the one selected is outside the table, its entry is accessed
there, which is a fault. -/
theorem finishCalls_outside
    (h : finishPreset s = .ok s₁) (hfd : k.caposd ≥ 0) (hosd : s.osdCfg = true)
    (hregion : ¬ Within s.osdRegion regionNum) :
  finishCalls env k s = .error (.index .arrstOsd)
  := by
  obtain ⟨hr, ho⟩ := notify_finishPreset_osd (env.attach k) h
  have hsend : sendOsd (env.attach k) (notify (env.attach k) s₁) = .error (.index .arrstOsd) := by
    unfold sendOsd
    rw [ho, hr, if_pos ⟨hosd, decide_eq_true hfd⟩, bounded_of_not_within hregion]
    rfl
  unfold finishCalls
  rw [h]
  change (sendOsd (env.attach k) (notify (env.attach k) s₁) >>= _) = _
  rw [hsend]
  rfl

/-! ### The request -/

/-- Every region whose entry is another than before in `d` has been sent with its new entry, and no
region outside the table has been. -/
def Told (d : Device) (reply : Reply) (calls : List SocketCall) : Prop :=
  (∀ r < regionNum, reply.device.mem.osdEntry r ≠ d.mem.osdEntry r →
    ∃ fd len, SocketCall.sendLocal fd (.osd r (reply.device.mem.osdEntry r)) len ∈ calls) ∧
  ∀ fd r e len, SocketCall.sendLocal fd (.osd r e) len ∈ calls → r < regionNum

variable {reply : Reply} {calls : List SocketCall}

/-- If one region `r₀` has been sent, then the overlay process is `Told` of all exactly if no other
entry has changed. -/
theorem told_iff_of_sent
    {r₀ : Nat} (hr₀ : r₀ < regionNum)
    (hsent : ∀ fd r e len, SocketCall.sendLocal fd (.osd r e) len ∈ calls ↔
      fd = k.caposd ∧ r = r₀ ∧ e = reply.device.mem.osdEntry r ∧ len = k.caposdSent) :
  Told d reply calls ↔
    ∀ r < regionNum, reply.device.mem.osdEntry r ≠ d.mem.osdEntry r → r₀ = r
  := by
  constructor
  · intro htold r hr hne
    obtain ⟨fd, len, hmem⟩ := htold.1 r hr hne
    apply ((hsent ..).mp hmem).2.1.symm
  · intro h
    constructor
    · intro r hr hne
      use k.caposd, k.caposdSent
      apply (hsent ..).mpr ⟨rfl, (h r hr hne).symm, rfl, rfl⟩
    · intro fd r e len hmem
      obtain ⟨-, rfl, -⟩ := (hsent ..).mp hmem
      apply hr₀

/-- If no region has been sent, then the overlay process is `Told` of all exactly if no entry has
changed. -/
theorem told_iff_of_none
    (hnone : ∀ fd r e len, SocketCall.sendLocal fd (.osd r e) len ∉ calls) :
  Told d reply calls ↔ ∀ r < regionNum, reply.device.mem.osdEntry r = d.mem.osdEntry r
  := by
  constructor
  · intro htold r hr
    by_contra hne
    obtain ⟨fd, len, hmem⟩ := htold.1 r hr hne
    exact hnone fd r _ len hmem
  · intro h
    constructor
    · intro r hr hne
      exact absurd (h r hr) hne
    · intro fd r e len hmem
      exact (hnone fd r e len hmem).elim

/-- If a pair changes a region, the region selected last is in the table, and the pairs leave all
other entries as they were; if none does, they leave all entries as they were. -/
structure Device.ChangesLast (env : Env) (d : Device) (req : Request) : Prop where
  region : (d.osdView env req).changed → Within (d.osdView env req).region regionNum
  others : ∀ r < regionNum, (d.overlay env req).osdEntry r ≠ d.mem.osdEntry r →
    (d.osdView env req).changed ∧ (d.osdView env req).region.toNat = r

/-- If the loop and what follows it succeed, then a property `P` holds of the reply and the calls
exactly if it holds of what they leave. -/
theorem processMsgCalls_iff_of_finish
    (ht : processPairs (env.attach k) req (.start (env.attach k) d) = .ok t)
    (h : finishCalls env k t = .ok (s', calls)) {P : Reply → List SocketCall → Prop} :
  (∃ reply calls, processMsgCalls env k req d = .ok (reply, calls) ∧ P reply calls) ↔
    P ⟨s'.device, s'.ret, response s'.pRet, s'.effects⟩ calls
  := by
  have hreply : processMsgCalls env k req d
      = .ok (⟨s'.device, s'.ret, response s'.pRet, s'.effects⟩, calls) :=
    bind_ok.mpr ⟨t, ht, bind_ok.mpr ⟨_, h, rfl⟩⟩
  constructor
  · rintro ⟨reply, calls', hreply', hP⟩
    obtain ⟨rfl, rfl⟩ := Prod.mk.inj (Except.ok.inj (hreply.symm.trans hreply'))
    apply hP
  · intro hP
    exact ⟨_, calls, hreply, hP⟩

/-- A request whose pairs and whose preset are handled, to a device whose overlay process accepts
connections, stays within the table and tells the overlay process of all regions that have changed
exactly when it changes none but the region selected last: `ChangesLast`. -/
theorem overlay_told_iff
    (hfd : k.caposd ≥ 0)
    (ht : processPairs (env.attach k) req (.start (env.attach k) d) = .ok t)
    (hs₁ : finishPreset t = .ok s₁) :
  (∃ reply calls, processMsgCalls env k req d = .ok (reply, calls) ∧ Told d reply calls) ↔
    d.ChangesLast (env.attach k) req
  := by
  obtain ⟨hlast, hchanged, -⟩ := processPairs_views ht
  have hentry := (processPairs_overlay ht).entry
  by_cases hosd : t.osdCfg = true
  · by_cases hregion : Within t.osdRegion regionNum
    · obtain ⟨s', calls, hfinish, hothers, hsent⟩ := finishCalls_changed hs₁ hfd hosd hregion
      have hr₀ : t.osdRegion.toNat < regionNum := by
        unfold Within at hregion
        omega
      rw [processMsgCalls_iff_of_finish ht hfinish, told_iff_of_sent hr₀ hsent, hlast]
      constructor
      · intro h
        constructor
        · intro _
          rw [← hlast]
          apply hregion
        · intro r hr hne
          use hchanged.mp hosd
          by_contra hother
          apply hother (h r hr _)
          rw [Session.device, hothers r (by rw [hlast]; exact Ne.symm hother), hentry]
          apply hne
      · intro hchanges r hr hne
        by_contra hother
        rw [Session.device, hothers r (by rw [hlast]; exact Ne.symm hother), hentry] at hne
        apply hother (hchanges.others r hr hne).2
    · have herror : processMsgCalls env k req d = .error (.index .arrstOsd) := by
        unfold processMsgCalls
        rw [ht]
        change (finishCalls env k t >>= _) = _
        rw [finishCalls_outside hs₁ hfd hosd hregion]
        rfl
      constructor
      · rintro ⟨reply, calls, hreply, -⟩
        cases herror.symm.trans hreply
      · intro hchanges
        rw [hlast] at hregion
        exact absurd (hchanges.region (hchanged.mp hosd)) hregion
  · obtain ⟨s', calls, hfinish, hsame, hnone⟩ := finishCalls_unchanged env k hs₁ hosd
    rw [processMsgCalls_iff_of_finish ht hfinish, told_iff_of_none hnone]
    constructor
    · intro h
      constructor
      · intro hview
        exact absurd (hchanged.mpr hview) hosd
      · intro r hr hne
        rw [← hentry, ← hsame.entry] at hne
        exact absurd (h r hr) hne
    · intro hchanges r hr
      rw [Session.device, hsame.entry, hentry]
      by_contra hne
      exact hosd (hchanged.mpr (hchanges.others r hr hne).1)

/-- The sockets of a device whose overlay process accepts connections. -/
def overlayRuns : Sockets := ⟨-1, 0, 7, 0⟩

theorem overlay_told_iff_moved :
  ∃ t s₁, processPairs (Env.idle.attach overlayRuns) osdRequest
      (.start (Env.idle.attach overlayRuns) .blank) = .ok t ∧ finishPreset t = .ok s₁ ∧
    Device.blank.ChangesLast (Env.idle.attach overlayRuns) osdRequest
  := by
  have hpairs : (processPairs (Env.idle.attach overlayRuns) osdRequest
      (.start (Env.idle.attach overlayRuns) .blank)).map Session.ptzPresetIn = .ok 0 := by
    decide +kernel
  obtain ⟨t, ht, hpreset⟩ := map_ok.mp hpairs
  have hs₁ : finishPreset t = .ok t := if_neg (not_not.mpr hpreset)
  refine ⟨t, t, ht, hs₁, (overlay_told_iff (by decide) ht hs₁).mp ?_⟩
  have hok : (processMsgCalls .idle overlayRuns osdRequest .blank).map
      (fun p => (p.2, (List.range regionNum).map p.1.device.mem.osdEntry)) = .ok
        ([.connectLocal 7, .sendLocal 7 (.osd 0 movedEntry) 0, .closeLocal 7, .closeLocal 7],
          [movedEntry, Device.blank.mem.osdEntry 1, Device.blank.mem.osdEntry 2]) := by
    decide +kernel
  obtain ⟨⟨reply, calls⟩, hreply, heq⟩ := map_ok.mp hok
  obtain ⟨rfl, hentries⟩ := Prod.mk.inj heq
  simp only [regionNum, List.range_succ, List.range_zero, List.nil_append, List.cons_append,
    List.map_cons, List.map_nil, List.cons.injEq, and_true] at hentries
  obtain ⟨h₀, h₁, h₂⟩ := hentries
  refine ⟨reply, _, hreply, ?_, ?_⟩
  · intro r hr hne
    obtain rfl | rfl | rfl : r = 0 ∨ r = 1 ∨ r = 2 := by
      unfold regionNum at hr
      omega
    · use 7, 0
      simp [h₀]
    · exact absurd h₁ hne
    · exact absurd h₂ hne
  · intro fd r e len hmem
    simp only [List.mem_cons, reduceCtorEq, SocketCall.sendLocal.injEq, Message.osd.injEq,
      List.not_mem_nil, false_or, or_false] at hmem
    obtain ⟨-, ⟨rfl, -⟩, -⟩ := hmem
    decide

/-- A request that moves two regions, one after the other. -/
def twoRegionsRequest : Request :=
  [("0".toList, "1".toList), ("58".toList, "0".toList), ("60".toList, "5".toList),
    ("58".toList, "1".toList), ("60".toList, "5".toList)]

/-- The overlay process is not told of the first region of `twoRegionsRequest`; and a region outside
the table is accessed where it is selected last. -/
theorem overlay_not_told :
  (∃ reply calls, processMsgCalls .idle overlayRuns twoRegionsRequest .blank = .ok (reply, calls) ∧
    reply.device.mem.osdEntry 0 ≠ Device.blank.mem.osdEntry 0 ∧ ¬ Told .blank reply calls) ∧
  processMsgCalls .idle overlayRuns (osdRequest ++ [("58".toList, "7".toList)]) .blank
    = .error (.index .arrstOsd)
  := by
  constructor
  · have hok : (processMsgCalls .idle overlayRuns twoRegionsRequest .blank).map
        (fun p => (p.2, p.1.device.mem.osdEntry 0)) = .ok
          ([.connectLocal 7, .sendLocal 7 (.osd 1 { movedEntry with region := 1 }) 0,
            .closeLocal 7, .closeLocal 7], movedEntry) := by decide +kernel
    obtain ⟨⟨reply, calls⟩, hreply, heq⟩ := map_ok.mp hok
    obtain ⟨rfl, hentry⟩ := Prod.mk.inj heq
    have hne : reply.device.mem.osdEntry 0 ≠ Device.blank.mem.osdEntry 0 := by
      rw [hentry]
      decide
    refine ⟨reply, _, hreply, hne, ?_⟩
    rintro ⟨htold, -⟩
    obtain ⟨fd, len, hmem⟩ := htold 0 (by decide) hne
    simp at hmem
  · rfl

end Msg
