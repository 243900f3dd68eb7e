import Avserver.Msg.Decimal
import Avserver.Msg.Encoder
import Avserver.Msg.Guards
import Avserver.Msg.Reads

/-!
# The keys that compare

The branches of most keys compare before they store: what they compare, given the cursor and the
region selected, are their guards (`Branch.guards`).  For `T_Set` such a branch does nothing if its
guard holds; otherwise it stores, and leaves something behind that shows, an effect or a mark
(`Branch.run_compares`).  A branch that went through once does nothing when its guards hold,
whatever the configuration is otherwise (`Branch.run_again`).
-/

namespace Msg

open Library

/-! ### The guards of a branch -/

/-- The number that a reference is to, at the cursor `c`. -/
def IntRef.member (c : Cursor) : IntRef → IntField
  | .field f => f
  | .mdArea f => .mdArea c.index.toNat f
  | .vidMask f => .vidMask c.index.toNat f
  | .wfSearch f => .wfSearch c.index.toNat f

/-- The guard of a number `f` that is compared with `v` and stored as it is given. -/
def Guard.plain (f : IntField) (v : Int) : Guard := .int f v v

/-- What a branch with the `value` compares before it stores, at the cursor `c` and with the region
`r`. -/
def Branch.guards (c : Cursor) (r : Int) (value : List Char) : Branch → List Guard
  | .int ref _ _ _ _ _ => [.plain (ref.member c) (atoi value)]
  | .text f _ _ => [.str f value]
  | .chan ref => [.plain (ref.field c) (atoi value)]
  | .osd f => if r < 0 ∨ r ≥ regionNum then [] else [.plain (.osd r.toNat f) (atoi value)]
  | .recCfg f _ => [.plain (.recCfg f) (atoi value)]
  | .frameRate => [.plain ((ChanRef.ubs .frameRate).field c) (frameRateValue value)]
  | .bitRate => [.plain ((ChanRef.ubs .bitRate).field c) (bitRateValue c.channel value)]
  | .ipInterval => [.plain ((ChanRef.ubs .ipInterval).field c) (atoi value)]
  | .fw => if atoi value ≠ 50 ∧ atoi value ≠ 60 then [] else [.plain .iFw (atoi value)]
  | .osdName => if r < 0 ∨ r ≥ regionNum then [] else [.str (.osdName r.toNat) value]
  | .netmask => [.str .netmask value]
  | .macaddr => [.mac value]
  | .dstmode => [.int (.time .dstmode) (toChar (atoi value)) (atoi value)]
  | .ntpenable => [.plain (.time .ntpenable) (atoi value)]
  | .systime => [.str .sysTime value]
  | .cldEnable => [.plain .cloudEnable (if atoi value > 0 then 1 else 0)]
  | .recEnable => [.int (.recCfg .enable) (atoi value) (if atoi value = 0 then 0 else 1)]
  | _ => []

/-- The branch compares with the configuration before it stores there, so that storing again does
nothing. -/
def Branch.Compares : Branch → Bool
  | .int .. | .text .. | .chan _ | .osd _ | .recCfg .. | .frameRate | .bitRate | .ipInterval
  | .fw | .osdName | .netmask | .macaddr | .dstmode | .ntpenable | .systime | .cldEnable
  | .recEnable => true
  | _ => false

/-- The branch selects what later pairs are about, and stores nothing in the configuration. -/
def Branch.Selector : Branch → Bool
  | .type | .chn | .subChn | .osdRegion | .mdArea | .vdmaskNO => true
  | _ => false

/-! ### Guards of the keys -/

/-- A number that is compared by itself and stored as it is given. -/
def IntField.Plain : IntField → Bool
  | .macaddr _ | .osd _ .region | .recCfg .enable => false
  | _ => true

/-- The reference is to a number that is compared by itself and stored as it is given. -/
def IntRef.Plain : IntRef → Bool
  | .field f => f.Plain
  | _ => true

/-- The branch compares numbers of this kind only, and it does not set the protocol, as
`e_sys_protocol` alone does. -/
def Branch.Plain : Branch → Bool
  | .int ref _ callees _ _ _ => ref.Plain && .setProtocol ∉ callees
  | .osd f => f ≠ .region
  | .recCfg f _ => f ≠ .enable
  | _ => true

theorem Key.plain (key : Key) : key.branch.Plain = true := by
  cases key
  all_goals rfl

/-- The guard `g` is sound, and it is not of the number of a region. -/
def Guard.Proper (g : Guard) : Prop := g.Sound ∧ ∀ i, g.guarded.place ≠ .int (.osd i .region)

variable {c : Cursor} {r : Int} {value : List Char} {f : IntField} {v wanted stored : Int}
  {g : Guard} {gs : List Guard}

theorem Guard.plain_proper (hf : f.Plain = true) : (Guard.plain f v).Proper := by
  refine ⟨⟨?_, ?_⟩, ?_⟩
  · cases f
    case macaddr i => contradiction
    all_goals rfl
  · have hne : f ≠ .recCfg .enable := by
      rintro rfl
      contradiction
    rw [IntField.InForm, if_neg hne]
  · rintro i heq
    obtain rfl := Place.int.inj heq
    contradiction

theorem IntRef.plain_member {ref : IntRef} (h : ref.Plain = true) :
  (ref.member c).Plain = true
  := by
  cases ref with
  | field f => apply h
  | mdArea | vidMask | wfSearch => rfl

theorem ChanRef.plain_field (ref : ChanRef) : (ref.field c).Plain = true := by
  cases ref
  all_goals rfl

/-- A guard `g` in a list that is empty or holds `g'` is `g'`. -/
theorem mem_ite_guard {p : Prop} [Decidable p] {g' : Guard} (hg : g ∈ if p then [] else [g']) :
  g = g'
  := by
  split at hg
  · contradiction
  · apply List.mem_singleton.mp hg

/-- The guards of a plain branch `b`, with a string as the value, are all proper. -/
theorem Branch.guards_proper {b : Branch} (hb : b.Plain = true) (hvalue : nul ∉ value)
    (hg : g ∈ b.guards c r value) :
  g.Proper
  := by
  have hstr {f : StrField} : (Guard.str f value).Proper :=
    ⟨hvalue, fun i => by simp [Guard.guarded]⟩
  cases b
  case int ref flag callees hook label shown =>
    obtain rfl := List.mem_singleton.mp hg
    apply Guard.plain_proper (IntRef.plain_member (Bool.and_eq_true_iff.mp hb).1)
  case text | netmask | systime =>
    obtain rfl := List.mem_singleton.mp hg
    apply hstr
  case chan ref =>
    obtain rfl := List.mem_singleton.mp hg
    apply Guard.plain_proper ref.plain_field
  case osd f =>
    obtain rfl := mem_ite_guard hg
    apply Guard.plain_proper
    cases f
    case region => contradiction
    all_goals rfl
  case recCfg f label =>
    obtain rfl := List.mem_singleton.mp hg
    apply Guard.plain_proper
    cases f
    case enable => contradiction
    all_goals rfl
  case frameRate | bitRate | ipInterval | ntpenable | cldEnable =>
    obtain rfl := List.mem_singleton.mp hg
    apply Guard.plain_proper (by rfl)
  case fw =>
    obtain rfl := mem_ite_guard hg
    apply Guard.plain_proper (by rfl)
  case osdName =>
    obtain rfl := mem_ite_guard hg
    apply hstr
  case macaddr =>
    obtain rfl := List.mem_singleton.mp hg
    exact ⟨trivial, fun i => by simp [Guard.guarded]⟩
  case dstmode =>
    obtain rfl := List.mem_singleton.mp hg
    refine ⟨⟨rfl, ?_⟩, fun i => by simp [Guard.guarded]⟩
    rw [IntField.InForm, if_neg (by simp)]
    exact ⟨fun _ => (IntField.time .dstmode).cast_cast _, fun _ => rfl⟩
  case recEnable =>
    obtain rfl := List.mem_singleton.mp hg
    refine ⟨⟨rfl, ?_⟩, fun i => by simp [Guard.guarded]⟩
    rw [IntField.InForm, if_pos rfl]
    change (if atoi value = 0 then (0 : Int) else 1) = atoi value ↔ _
    split
    · omega
    · omega
  all_goals contradiction

/-! ### What a branch does -/

/-- In the session `s` something has been done or noted that will show: an effect, or a file that is
marked. -/
def Session.Dirty (s : Session) : Prop :=
  s.effects ≠ [] ∨ ∃ file, isSetFileChanged s.fileChangedFlag file = true

/-- The variables beside the configuration by which a request is understood: the region and the
preset. -/
def Session.aside (s : Session) : Int × Nat := (s.osdRegion, s.ptzPresetIn)

/-- Either all the guards `gs` hold in `s` and nothing is done, or there is one that does not hold,
and it stores. -/
def Does (gs : List Guard) (s s' : Session) : Prop :=
  (∀ g ∈ gs, g.Holds s.mem) ∧ s' = s ∨
  ∃ g, gs = [g] ∧ ¬ g.Holds s.mem ∧ g.Stores s.mem s'.mem ∧ s'.aside = s.aside ∧ s'.Dirty

variable {env env' : Env} {s s' s₂ t : Session} {key label : Key}

theorem Session.dirty_of_marked
    {flag : Nat} {file : CfgFile} (h : s.fileChangedFlag = Msg.setFileChanged flag file) :
  s.Dirty
  := by
  refine Or.inr ⟨file, ?_⟩
  rw [h]
  simp

theorem Session.dirty_of_effect {es : List Effect} {e : Effect} (h : s.effects = es ++ [e]) :
  s.Dirty
  := by
  left
  rw [h]
  simp

theorem calls_aside (callees : List Callee) (f : IntField) :
  (s.calls callees f).aside = s.aside
  := by
  rw [Session.calls_eq]
  rfl

theorem Hook.run_aside (hook : Hook) : (hook.run s).aside = s.aside := by
  cases hook
  all_goals rfl

theorem Hook.run_flag (hook : Hook) : (hook.run s).fileChangedFlag = s.fileChangedFlag := by
  cases hook
  all_goals rfl

/-- If there is no guard and nothing is done, `Does` holds. -/
theorem does_nil (h : s = s') : Does [] s s' :=
  Or.inl ⟨fun _ hg => absurd hg List.not_mem_nil, h.symm⟩

/-- A number `f` that is compared with `wanted`, and stored if it differs, is one guard in the sense
of `Does`. -/
theorem does_int
    (h : (if s.mem.int f ≠ wanted then .ok t else .ok s : Except Fault Session) = .ok s')
    (hmem : t.mem = s.mem.setInt f stored) (haside : t.aside = s.aside) (hdirty : t.Dirty) :
  Does [.int f wanted stored] s s'
  := by
  split at h
  · next hne =>
      obtain rfl := Except.ok.inj h
      exact Or.inr ⟨_, rfl, hne, hmem, haside, hdirty⟩
  · next heq =>
      obtain rfl := Except.ok.inj h
      refine Or.inl ⟨?_, rfl⟩
      intro g hg
      obtain rfl := List.mem_singleton.mp hg
      apply not_not.mp heq

/-- A string `f` that is compared with the value, and stored if it differs, is one guard in the
sense of `Does`. -/
theorem does_str
    {f : StrField} {x : Except Fault Session}
    (hx : x = .ok s' → (∃ buf, strcpy (s.mem.str f) value = .ok buf ∧ s'.mem = s.mem.setStr f buf) ∧
      s'.aside = s.aside ∧ s'.Dirty)
    (h : (do if ← strcmpEq (s.mem.str f) value then .ok s else x) = .ok s') :
  Does [.str f value] s s'
  := by
  obtain ⟨eq, heq, h⟩ := bind_ok.mp h
  cases eq with
  | true =>
      obtain rfl := Except.ok.inj h
      refine Or.inl ⟨?_, rfl⟩
      intro g hg
      obtain rfl := List.mem_singleton.mp hg
      apply heq
  | false =>
      obtain ⟨hstores, haside, hdirty⟩ := hx h
      refine Or.inr ⟨_, rfl, ?_, hstores, haside, hdirty⟩
      intro hholds
      have htrue : Except.ok true = Except.ok false := hholds.symm.trans heq
      cases htrue

/-- A string `f` that is stored, whatever is noted behind it, leaves the other variables alone and
the session dirty. -/
theorem setText_does
    {f : StrField} {k : Session → Session} (hmem : ∀ t, (k t).mem = t.mem)
    (haside : ∀ t, (k t).aside = t.aside) (hdirty : ∀ t, (k t).Dirty)
    (h : (do
      let t ← s.setText f value
      .ok (k t)) = .ok s') :
  (∃ buf, strcpy (s.mem.str f) value = .ok buf ∧ s'.mem = s.mem.setStr f buf) ∧
    s'.aside = s.aside ∧ s'.Dirty
  := by
  obtain ⟨t, ht, h⟩ := bind_ok.mp h
  obtain rfl := Except.ok.inj h
  obtain ⟨buf, hbuf, ht⟩ := bind_ok.mp ht
  obtain rfl := Except.ok.inj ht
  exact ⟨⟨buf, hbuf, hmem _⟩, haside _, hdirty _⟩

/-! ### The branches -/

theorem IntRef.resolve_ok {ref : IntRef} (h : ref.resolve s = .ok f) : f = ref.member s.cursor := by
  cases ref with
  | field g => apply (Except.ok.inj h).symm
  | mdArea g | vidMask g | wfSearch g =>
      obtain ⟨i, hi, rfl⟩ := map_ok.mp h
      unfold bounded at hi
      split at hi
      · obtain rfl := Except.ok.inj hi
        rfl
      · contradiction

theorem intBranch_does
    {ref shown : IntRef} {flag : CfgFile} {callees : List Callee} {hook : Hook}
    (hcmd : s.cmdType = tSet) (h : intBranch ref flag callees hook label shown value s = .ok s') :
  Does [.plain (ref.member s.cursor) (atoi value)] s s'
  := by
  obtain ⟨f, hf, h⟩ := bind_ok.mp (onCmd_set hcmd h)
  obtain rfl := IntRef.resolve_ok hf
  apply does_int h
  · rw [Hook.run_mem]
    apply calls_mem
  · rw [Hook.run_aside]
    apply calls_aside
  · apply Session.dirty_of_marked
    apply Hook.run_flag

theorem textBranch_does
    {f : StrField} {flag : CfgFile} {hook : Hook} (hcmd : s.cmdType = tSet)
    (h : textBranch f flag hook key value s = .ok s') :
  Does [.str f value] s s'
  := by
  apply does_str _ (onCmd_set hcmd h)
  apply setText_does (k := fun t => hook.run (t.setFileChanged flag))
  · intro t
    apply Hook.run_mem
  · intro t
    apply Hook.run_aside
  · intro t
    apply Session.dirty_of_marked
    apply Hook.run_flag

theorem chanBranch_does
    {ref : ChanRef} (hcmd : s.cmdType = tSet) (h : chanBranch ref key value s = .ok s') :
  Does [.plain (ref.field s.cursor) (atoi value)] s s'
  := by
  obtain ⟨f, hf, h⟩ := bind_ok.mp (onCmd_set hcmd h)
  obtain rfl := ChanRef.resolve_ok hf
  exact does_int h rfl rfl (Session.dirty_of_marked rfl)

theorem streamBranch_does
    {f : UbsField} {callee : Callee} (h : streamBranch f callee v s = .ok s') :
  Does [.plain ((ChanRef.ubs f).field s.cursor) v] s s'
  := by
  obtain ⟨f', hf, h⟩ := bind_ok.mp h
  obtain rfl := ChanRef.resolve_ok hf
  apply does_int h
  · split
    · rfl
    · rfl
  · split
    · rfl
    · rfl
  · -- the encoder is updated also when the file is not marked
    split
    · exact Session.dirty_of_effect rfl
    · exact Session.dirty_of_effect rfl

theorem osdBranch_does
    {f : OsdField} (hcmd : s.cmdType = tSet) (h : osdBranch f key value s = .ok s') :
  Does ((Branch.osd f).guards s.cursor s.osdRegion value) s s'
  := by
  unfold osdBranch at h
  simp only [Branch.guards]
  split at h
  · next hout =>
      rw [if_pos hout]
      apply does_nil (Except.ok.inj h)
  · next hin =>
      rw [if_neg hin]
      exact does_int (onCmd_set hcmd h) rfl rfl (Session.dirty_of_marked rfl)

theorem osdNameBranch_does (hcmd : s.cmdType = tSet) (h : osdNameBranch value s = .ok s') :
  Does (Branch.osdName.guards s.cursor s.osdRegion value) s s'
  := by
  unfold osdNameBranch at h
  simp only [Branch.guards]
  split at h
  · next hout =>
      rw [if_pos hout]
      apply does_nil (Except.ok.inj h)
  · next hin =>
      rw [if_neg hin]
      apply does_str _ (onCmd_set hcmd h)
      apply setText_does (k := fun t => { t.setFileChanged .overlayCfg with osdCfg := true })
      · intro t
        rfl
      · intro t
        rfl
      · intro t
        exact Session.dirty_of_marked rfl

theorem fwBranch_does (hcmd : s.cmdType = tSet) (h : fwBranch value s = .ok s') :
  Does (Branch.fw.guards s.cursor s.osdRegion value) s s'
  := by
  have h := onCmd_set hcmd h
  simp only [Branch.guards]
  split at h
  · next hout =>
      rw [if_pos hout]
      apply does_nil (Except.ok.inj h)
  · next hin =>
      rw [if_neg hin]
      exact does_int h rfl rfl (Session.dirty_of_marked rfl)

theorem netmaskBranch_does (hcmd : s.cmdType = tSet) (h : netmaskBranch value s = .ok s') :
  Does [.str .netmask value] s s'
  := by
  apply does_str _ (onCmd_set hcmd h)
  apply setText_does (k := fun t => (t.effect (.netSetNetmask value)).setFileChanged .netCfg)
  · intro t
    rfl
  · intro t
    rfl
  · intro t
    exact Session.dirty_of_marked rfl

theorem macaddrBranch_does (hcmd : s.cmdType = tSet) (h : macaddrBranch env value s = .ok s') :
  Does [.mac value] s s'
  := by
  have h := onCmd_set hcmd h
  split at h
  · next hne =>
      obtain rfl := Except.ok.inj h
      exact Or.inr ⟨_, rfl, hne, rfl, rfl, Session.dirty_of_marked rfl⟩
  · next heq =>
      obtain rfl := Except.ok.inj h
      refine Or.inl ⟨?_, rfl⟩
      intro g hg
      obtain rfl := List.mem_singleton.mp hg
      apply not_not.mp heq

theorem systimeBranch_does (hcmd : s.cmdType = tSet) (h : systimeBranch env value s = .ok s') :
  Does [.str .sysTime value] s s'
  := by
  apply does_str _ (onCmd_set hcmd h)
  intro h
  simp only at h
  split at h
  · obtain ⟨buf, hbuf, h⟩ := bind_ok.mp h
    obtain rfl := Except.ok.inj h
    exact ⟨⟨buf, hbuf, rfl⟩, rfl, Session.dirty_of_effect rfl⟩
  · contradiction

/-- For `T_Set`, a branch that compares does nothing or stores, in the sense of `Does` with its
`guards`. -/
theorem Branch.run_compares
    {b : Branch} (hb : b.Compares = true) (hcmd : s.cmdType = tSet)
    (h : b.run env key value s = .ok s') :
  Does (b.guards s.cursor s.osdRegion value) s s'
  := by
  cases b
  case int => apply intBranch_does hcmd h
  case text => apply textBranch_does hcmd h
  case chan => apply chanBranch_does hcmd h
  case osd => apply osdBranch_does hcmd h
  case frameRate | bitRate | ipInterval => apply streamBranch_does (onCmd_set hcmd h)
  case fw => apply fwBranch_does hcmd h
  case osdName => apply osdNameBranch_does hcmd h
  case netmask => apply netmaskBranch_does hcmd h
  case macaddr => apply macaddrBranch_does hcmd h
  case systime => apply systimeBranch_does hcmd h
  case dstmode | ntpenable | cldEnable =>
    exact does_int (onCmd_set hcmd h) rfl rfl (Session.dirty_of_marked rfl)
  case recCfg =>
    rw [Branch.run, recBranch, if_pos hcmd] at h
    exact does_int h rfl rfl (Session.dirty_of_marked rfl)
  case recEnable =>
    rw [Branch.run, recEnableBranch, if_pos hcmd] at h
    exact does_int h rfl rfl (Session.dirty_of_marked rfl)
  all_goals contradiction

/-! ### The branches, once more -/

/-- If the number `f` has the value that is `wanted`, comparing it does nothing. -/
theorem again_int {x : Except Fault Session} (h : (Guard.int f wanted stored).Holds s.mem) :
  (if s.mem.int f ≠ wanted then x else .ok s) = .ok s
  := if_neg (not_not_intro h)

/-- If the string `f` has the value that is wanted, comparing it does nothing. -/
theorem again_str
    {f : StrField} {x : Except Fault Session} (h : (Guard.str f value).Holds s.mem) :
  (do if ← strcmpEq (s.mem.str f) value then .ok s else x) = .ok s
  := by
  apply bind_ok.mpr ⟨true, h, _⟩
  rfl

theorem again_set {set get : Except Fault Session} (hcmd : s.cmdType = tSet) (h : set = .ok s) :
  s.onCmd set get = .ok s
  := (if_pos hcmd).trans h

/-- A reference that is resolved to `f`, followed by something that does nothing for `f`, does
nothing. -/
theorem again_ref
    {x : Except Fault IntField} {k : IntField → Except Fault Session} (hx : x = .ok f)
    (h : k f = .ok s) :
  x >>= k = .ok s
  := bind_ok.mpr ⟨f, hx, h⟩

theorem streamBranch_again
    {f : UbsField} {callee : Callee} (h : streamBranch f callee v s = .ok s')
    (hresolve : (ChanRef.ubs f).resolve s₂ = (ChanRef.ubs f).resolve s)
    (hholds : (Guard.plain ((ChanRef.ubs f).field s.cursor) v).Holds s₂.mem) :
  streamBranch f callee v s₂ = .ok s₂
  := by
  obtain ⟨f', hf, -⟩ := bind_ok.mp h
  apply again_ref (hresolve.trans hf)
  rw [ChanRef.resolve_ok hf]
  apply again_int hholds

/-- A branch that compares and went through once does nothing in a session `s₂` in which its guards
hold. -/
theorem Branch.run_again
    {b : Branch} (hb : b.Compares = true) (hcmd : s.cmdType = tSet)
    (h : b.run env key value s = .ok s') (hc : s₂.cursor = s.cursor) (hr : s₂.osdRegion = s.osdRegion)
    (hholds : ∀ g ∈ b.guards s.cursor s.osdRegion value, g.Holds s₂.mem) :
  b.run env' key value s₂ = .ok s₂
  := by
  have hcmd₂ : s₂.cmdType = tSet := (congrArg Cursor.cmdType hc).trans hcmd
  have hav : s₂.avFile = s.avFile := congrArg Cursor.avFile hc
  have hsub : s₂.subChannel = s.subChannel := congrArg Cursor.subChannel hc
  have hchan (ref : ChanRef) : ref.resolve s₂ = ref.resolve s := ref.resolve_congr hav hsub
  cases b
  case int ref flag callees hook label shown =>
    obtain ⟨f, hf, -⟩ := bind_ok.mp (onCmd_set hcmd h)
    apply again_set hcmd₂
    apply again_ref ((ref.resolve_congr (congrArg Cursor.index hc)).trans hf)
    rw [IntRef.resolve_ok hf]
    apply again_int (hholds _ (.head _))
  case text => apply again_set hcmd₂ (again_str (hholds _ (.head _)))
  case chan ref =>
    obtain ⟨f, hf, -⟩ := bind_ok.mp (onCmd_set hcmd h)
    apply again_set hcmd₂
    apply again_ref ((hchan ref).trans hf)
    rw [ChanRef.resolve_ok hf]
    apply again_int (hholds _ (.head _))
  case osd f =>
    simp only [Branch.guards, ← hr] at hholds
    rw [Branch.run, osdBranch]
    split at hholds
    · next hout => rw [if_pos hout]
    · next hin =>
        rw [if_neg hin]
        apply again_set hcmd₂ (again_int (hholds _ (.head _)))
  case osdName =>
    simp only [Branch.guards, ← hr] at hholds
    rw [Branch.run, osdNameBranch]
    split at hholds
    · next hout => rw [if_pos hout]
    · next hin =>
        rw [if_neg hin]
        apply again_set hcmd₂ (again_str (hholds _ (.head _)))
  case recCfg =>
    rw [Branch.run, recBranch, if_pos hcmd₂]
    apply again_int (hholds _ (.head _))
  case recEnable =>
    rw [Branch.run, recEnableBranch, if_pos hcmd₂]
    apply again_int (hholds _ (.head _))
  case frameRate | ipInterval =>
    apply again_set hcmd₂
    apply streamBranch_again (onCmd_set hcmd h) (hchan _) (hholds _ (.head _))
  case bitRate =>
    have hchannel : s₂.channel = s.channel := congrArg Cursor.channel hc
    apply again_set hcmd₂
    rw [hchannel]
    apply streamBranch_again (onCmd_set hcmd h) (hchan _) (hholds _ (.head _))
  case fw =>
    simp only [Branch.guards] at hholds
    apply again_set hcmd₂
    split at hholds
    · next hout => rw [if_pos hout]
    · next hin =>
        rw [if_neg hin]
        apply again_int (hholds _ (.head _))
  case netmask | systime => apply again_set hcmd₂ (again_str (hholds _ (.head _)))
  case macaddr =>
    apply again_set hcmd₂
    apply if_neg (not_not_intro (hholds _ (.head _)))
  case dstmode | ntpenable | cldEnable =>
    apply again_set hcmd₂ (again_int (hholds _ (.head _)))
  all_goals contradiction

end Msg
