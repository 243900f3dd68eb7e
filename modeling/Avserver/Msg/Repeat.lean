import Avserver.Msg.Compares
import Avserver.Msg.Effects
import Avserver.Msg.ReadOnly
import Avserver.Msg.Regions

/-!
# Repeating a request

A request that only compares and stores may come again, right after it has been answered.  Nothing
is done then exactly when the stores of the request settle (`repeat_idle_iff`): its guards are
stores behind a comparison as the library has them, and what it stores is found again if it is in
form, if pairs for the same member agree, and if no hardware address is stored over `nettype`.  The
protocol is kept in a file of its own, which holds 0 or 1.
-/

namespace Msg

open Library

/-! ### The items -/

/-- The region that is selected behind a branch with the `value`, where it was `r` before. -/
def Branch.region (r : Int) (value : List Char) : Branch → Int
  | .osdRegion => atoi value
  | _ => r

/-- The region that is selected behind the item `x`, where it was `r` before. -/
def Item.region (r : Int) (x : Item) : Int := x.key.branch.region r x.value

/-- What the item `x` compares before it stores, with the region `r`. -/
def Item.guards (r : Int) (x : Item) : List Guard := x.key.branch.guards x.cursor r x.value

/-- If the item `x` is about the protocol, it names `p`. -/
def Item.NamesProtocol (p : Int) (x : Item) : Prop := x.key.branch = .protocol → atoi x.value = p

/-- The item `x` finds all that it asks for in `m`, with the region `r`, and the protocol `p` is the
one that it names. -/
def Item.Finds (p : Int) (m : Contents) (r : Int) (x : Item) : Prop :=
  (∀ g ∈ x.guards r, g.Holds m) ∧ x.NamesProtocol p

/-- The item `x` selects, or it compares before it stores, for `T_Set`. -/
def Item.Repeatable (x : Item) : Prop :=
  x.key.branch.Selector = true ∨
    (x.key.branch.Compares = true ∨ x.key.branch = .protocol) ∧ x.cursor.cmdType = tSet

instance (x : Item) : Decidable x.Repeatable :=
  inferInstanceAs (Decidable (x.key.branch.Selector = true ∨
    (x.key.branch.Compares = true ∨ x.key.branch = .protocol) ∧ x.cursor.cmdType = tSet))

variable {env env' : Env} {s s' s₂ t : Session} {key : Key} {value : List Char} {x : Item}
  {b : Branch} {c : Cursor} {r n : Int} {req : Request} {d : Device} {reply : Reply}

/-- If the body of a session stays as it is, then so do its memory, its effects, its marks, and the
pairs for a preset. -/
theorem body_ext (hbody : s'.body = s.body) :
  s'.mem = s.mem ∧ s'.effects = s.effects ∧ s'.fileChangedFlag = s.fileChangedFlag ∧
    s'.ptzPresetIn = s.ptzPresetIn
  := by
  simp only [Session.body, Session.notes, Prod.mk.injEq] at hbody
  exact ⟨hbody.1, hbody.2.2.1, hbody.2.2.2.2.1, hbody.2.2.2.1⟩

/-- A branch `b` that is a selector always goes through, leaves the body alone, and selects. -/
theorem Branch.run_selector (hb : b.Selector = true) :
  ∃ s', b.run env key value s = .ok s' ∧ s'.body = s.body ∧
    s'.osdRegion = b.region s.osdRegion value
  := by
  cases b
  case type =>
    refine ⟨_, rfl, ?_, ?_⟩
    · split
      · rfl
      · rfl
    · simp only
      split
      · rfl
      · rfl
  case chn => exact ⟨_, answer_decimal _ _ (isInt_atoi value), rfl, rfl⟩
  case subChn => exact ⟨_, answer_decimal _ _ (isInt_atoi value), rfl, rfl⟩
  case osdRegion => exact ⟨_, answer_decimal _ _ (isInt_atoi value), rfl, rfl⟩
  case vdmaskNO => exact ⟨_, rfl, rfl, rfl⟩
  case mdArea =>
    rw [Branch.run, mdAreaBranch]
    simp only
    split
    · exact ⟨_, rfl, rfl, rfl⟩
    · exact ⟨_, answer_decimal _ _ (isInt_atoi value), rfl, rfl⟩
  all_goals contradiction

/-- For `T_Set` the protocol is compared with the current one, and set if it differs, which asks for
a reboot. -/
theorem protocolBranch_does (hcmd : s.cmdType = tSet) (h : protocolBranch env value s = .ok s') :
  atoi value = s.protocol env ∧ s' = s ∨
  atoi value ≠ s.protocol env ∧
    s' = { s.effect (.call .setProtocol [atoi value]) with reboot := s.reboot + 1 }
  := by
  have h := onCmd_set hcmd h
  split at h
  · next hne => exact Or.inr ⟨hne, (Except.ok.inj h).symm⟩
  · next heq => exact Or.inl ⟨not_not.mp heq, (Except.ok.inj h).symm⟩

theorem Branch.guards_of_selector (hb : b.Selector = true) : b.guards c r value = [] := by
  cases b
  case type | chn | subChn | osdRegion | mdArea | vdmaskNO => rfl
  all_goals contradiction

theorem Branch.ne_protocol_of_selector (hb : b.Selector = true) : b ≠ .protocol := by
  rintro rfl
  contradiction

theorem Branch.ne_protocol_of_compares (hb : b.Compares = true) : b ≠ .protocol := by
  rintro rfl
  contradiction

theorem Branch.region_of_compares (hb : b.Compares = true) : b.region r value = r := by
  cases b
  case osdRegion => contradiction
  all_goals rfl

/-- What an item does: it finds everything and does nothing, or it leaves the session dirty, with at
most one store. -/
structure Item.Does (env : Env) (x : Item) (s s' : Session) : Prop where
  region : s'.osdRegion = x.region s.osdRegion
  preset : s'.ptzPresetIn = s.ptzPresetIn
  does : x.Finds (s.protocol env) s.mem s.osdRegion ∧ s'.body = s.body ∨ s'.Dirty ∧
    (x.guards s.osdRegion = [] ∧ s'.mem = s.mem ∨
      ∃ g, x.guards s.osdRegion = [g] ∧ ¬ g.Holds s.mem ∧ g.Stores s.mem s'.mem)

theorem Item.run_does (hx : x.Repeatable) (hc : s.cursor = x.cursor) (h : x.run env s = .ok s') :
  x.Does env s s'
  := by
  rcases hx with hb | ⟨hb | hb, hcmd⟩
  · obtain ⟨t, ht, hbody, hregion⟩ :=
      @Branch.run_selector env s x.key x.value _ hb
    obtain rfl := Except.ok.inj (h.symm.trans ht)
    refine ⟨hregion, (body_ext hbody).2.2.2, Or.inl ⟨⟨?_, ?_⟩, hbody⟩⟩
    · intro g hg
      rw [Item.guards, Branch.guards_of_selector hb] at hg
      contradiction
    · intro hprotocol
      exact absurd hprotocol (Branch.ne_protocol_of_selector hb)
  · rw [← hc] at hcmd
    have hdoes := Branch.run_compares hb hcmd h
    rw [hc] at hdoes
    have hnames : x.NamesProtocol (s.protocol env) :=
      fun hprotocol => absurd hprotocol (Branch.ne_protocol_of_compares hb)
    rcases hdoes with ⟨hholds, rfl⟩ | ⟨g, hg, hnot, hstores, haside, hdirty⟩
    · exact ⟨(Branch.region_of_compares hb).symm, rfl, Or.inl ⟨⟨hholds, hnames⟩, rfl⟩⟩
    · have hregion : s'.osdRegion = s.osdRegion := congrArg Prod.fst haside
      exact ⟨hregion.trans (Branch.region_of_compares hb).symm, congrArg Prod.snd haside,
        Or.inr ⟨hdirty, Or.inr ⟨g, hg, hnot, hstores⟩⟩⟩
  · have hguards : x.guards s.osdRegion = [] := by
      rw [Item.guards, hb]
      rfl
    have hregion : x.region s.osdRegion = s.osdRegion := by
      rw [Item.region, hb]
      rfl
    rw [Item.run, hb] at h
    rcases protocolBranch_does ((congrArg Cursor.cmdType hc).trans hcmd) h with
      ⟨hname, rfl⟩ | ⟨-, rfl⟩
    · refine ⟨hregion.symm, rfl, Or.inl ⟨⟨?_, fun _ => hname⟩, rfl⟩⟩
      intro g hg
      rw [hguards] at hg
      contradiction
    · exact ⟨hregion.symm, rfl, Or.inr ⟨Session.dirty_of_effect rfl, Or.inl ⟨hguards, rfl⟩⟩⟩

/-- An item `x` that went through once goes through again in the session `s₂`, and does nothing if
it finds everything there. -/
theorem Item.run_again
    (hx : x.Repeatable) (hc : s.cursor = x.cursor) (h : x.run env s = .ok s')
    (hc₂ : s₂.cursor = x.cursor) (hr : s₂.osdRegion = s.osdRegion)
    (hfinds : x.Finds (s₂.protocol env') s₂.mem s₂.osdRegion) :
  ∃ t, x.run env' s₂ = .ok t ∧ t.body = s₂.body ∧ t.osdRegion = x.region s₂.osdRegion
  := by
  rcases hx with hb | ⟨hb | hb, hcmd⟩
  · apply Branch.run_selector hb
  · have hholds := hfinds.1
    rw [Item.guards, hr, ← hc] at hholds
    have hrun : x.run env' s₂ = .ok s₂ :=
      Branch.run_again hb ((congrArg Cursor.cmdType hc).trans hcmd) h (hc₂.trans hc.symm) hr hholds
    exact ⟨s₂, hrun, rfl, (Branch.region_of_compares hb).symm⟩
  · refine ⟨s₂, ?_, rfl, ?_⟩
    · rw [Item.run, hb]
      apply again_set ((congrArg Cursor.cmdType hc₂).trans hcmd)
      apply if_neg (not_not_intro (hfinds.2 hb))
    · rw [Item.region, hb]
      rfl

/-! ### The loop -/

/-- What the items `xs` compare, one after the other, from the region `r` on. -/
def guardsFrom (r : Int) (xs : List Item) : List Guard := trace Item.region Item.guards r xs

theorem guardsFrom_cons (xs : List Item) :
  guardsFrom r (x :: xs) = x.guards r ++ guardsFrom (x.region r) xs
  := rfl

/-- The items `xs` find all that they ask for in `m`, from the region `r` on, and name no protocol
but `p`. -/
def Find (p : Int) (m : Contents) (r : Int) (xs : List Item) : Prop :=
  (∀ g ∈ guardsFrom r xs, g.Holds m) ∧ ∀ x ∈ xs, x.NamesProtocol p

theorem find_cons {p : Int} {m : Contents} {xs : List Item} :
  Find p m r (x :: xs) ↔ x.Finds p m r ∧ Find p m (x.region r) xs
  := by
  simp only [Find, guardsFrom_cons, List.mem_append, or_imp, forall_and, List.mem_cons,
    forall_eq, Item.Finds]
  tauto

/-- If the session is dirty before an item, it is so behind it. -/
theorem Item.Does.dirty (h : x.Does env s s') (hs : s.Dirty) : s'.Dirty := by
  rcases h.does with ⟨-, hbody⟩ | ⟨hdirty, -⟩
  · obtain ⟨-, heffects, hflag, -⟩ := body_ext hbody
    rw [Session.Dirty, heffects, hflag]
    apply hs
  · apply hdirty

/-- What an item with sound guards does is a list of steps of the library `Guarded` on what is seen
of the memory. -/
theorem Item.Does.steps (h : x.Does env s s') (hsound : ∀ g ∈ x.guards s.osdRegion, g.Sound)
    (hs : s.mem.Typed) :
  Guarded.Steps netSpill ((x.guards s.osdRegion).map Guard.guarded) s.mem.see s'.mem.see ∧
    s'.mem.Typed
  := by
  rcases h.does with ⟨hfinds, hbody⟩ | ⟨-, ⟨hnil, hmem⟩ | ⟨g, hg, hnot, hstores⟩⟩
  · rw [(body_ext hbody).1]
    refine ⟨Guarded.Hold.steps ?_, hs⟩
    intro y hy
    obtain ⟨g, hg, rfl⟩ := List.mem_map.mp hy
    apply (g.holds_iff (hsound g hg)).mp (hfinds.1 g hg)
  · rw [hnil, hmem]
    exact ⟨Guarded.Steps.nil _, hs⟩
  · rw [hg] at hsound ⊢
    refine ⟨Guarded.Step.steps ?_, hstores.typed hs⟩
    apply Guard.step (hsound g (.head _)) hs (Or.inr ⟨hnot, hstores⟩)

/-- What the loop over repeatable items with sound guards does is a list of steps of the library
`Guarded`. -/
theorem processPairs_steps
    (h : processPairs env req s = .ok t) (hat : s.At n c)
    (hreq : ∀ x ∈ items n c req, x.Repeatable)
    (hsound : ∀ x ∈ items n c req, ∀ r, ∀ g ∈ x.guards r, g.Sound) (hs : s.mem.Typed) :
  Guarded.Steps netSpill ((guardsFrom s.osdRegion (items n c req)).map Guard.guarded) s.mem.see
    t.mem.see
  := by
  induction req generalizing s c with
  | nil =>
      obtain rfl := foldlM_nil_ok.mp h
      apply Guarded.Steps.nil
  | cons pair req ih =>
      cases hkey : Key.ofCode (atoi pair.1) with
      | none =>
          rw [items_cons_none hkey] at hreq hsound ⊢
          apply ih (processPairs_cons_none hkey h) hat hreq hsound hs
      | some key =>
          rw [items_cons_some hkey] at hreq hsound ⊢
          obtain ⟨s₁, hs₁, h⟩ := processPairs_cons_some (c := c) hkey h
          have hdoes := Item.run_does (hreq _ (.head _)) hat.2 hs₁
          obtain ⟨hsteps, htyped⟩ := hdoes.steps (hsound _ (.head _) _) hs
          rw [guardsFrom_cons, List.map_append, ← hdoes.region]
          apply hsteps.append
          apply ih h (Item.run_at hat hs₁) (fun x hx => hreq x (.tail _ hx))
            (fun x hx => hsound x (.tail _ hx)) htyped

/-- No pair of a loop over repeatable items asks for a preset. -/
theorem processPairs_preset
    (h : processPairs env req s = .ok t) (hat : s.At n c)
    (hreq : ∀ x ∈ items n c req, x.Repeatable) :
  t.ptzPresetIn = s.ptzPresetIn
  := by
  apply processPairs_invariant (I := fun t => t.ptzPresetIn = s.ptzPresetIn) _ h hat rfl
  intro s₁ x s₂ hx hc hs hrun
  apply (Item.run_does (hreq x hx) hc hrun).preset.trans hs

/-- If the session is dirty before a loop over repeatable items, it is so behind it. -/
theorem processPairs_dirty
    (h : processPairs env req s = .ok t) (hat : s.At n c)
    (hreq : ∀ x ∈ items n c req, x.Repeatable) (hs : s.Dirty) :
  t.Dirty
  := by
  apply processPairs_invariant _ h hat hs
  intro s x s' hx hc hs hrun
  apply (Item.run_does (hreq x hx) hc hrun).dirty hs

/-- If the session is not dirty behind a loop over repeatable items, the items have found
everything: `Find`. -/
theorem processPairs_clean
    (h : processPairs env req s = .ok t) (hat : s.At n c)
    (hreq : ∀ x ∈ items n c req, x.Repeatable) (ht : ¬ t.Dirty) :
  Find (s.protocol env) s.mem s.osdRegion (items n c req)
  := by
  induction req generalizing s c with
  | nil => exact ⟨fun g hg => absurd hg List.not_mem_nil, fun x hx => absurd hx List.not_mem_nil⟩
  | cons pair req ih =>
      cases hkey : Key.ofCode (atoi pair.1) with
      | none =>
          rw [items_cons_none hkey] at hreq ⊢
          apply ih (processPairs_cons_none hkey h) hat hreq
      | some key =>
          rw [items_cons_some hkey] at hreq ⊢
          obtain ⟨s₁, hs₁, h⟩ := processPairs_cons_some (c := c) hkey h
          have hdoes := Item.run_does (hreq _ (.head _)) hat.2 hs₁
          have hrest : ∀ x ∈ items n (key.branch.select n pair.2 c) req, x.Repeatable :=
            fun x hx => hreq x (.tail _ hx)
          rcases hdoes.does with ⟨hfinds, hbody⟩ | ⟨hdirty, -⟩
          · have htail := ih h (Item.run_at hat hs₁) hrest
            rw [Session.protocol, (body_ext hbody).1, (body_ext hbody).2.1, hdoes.region] at htail
            exact find_cons.mpr ⟨hfinds, htail⟩
          · apply absurd (processPairs_dirty h (Item.run_at hat hs₁) hrest hdirty) ht

/-- A loop over repeatable items that went through once goes through again, and does nothing if the
items find everything. -/
theorem processPairs_again
    (h : processPairs env req s = .ok t) (hat : s.At n c) (hat₂ : s₂.At n c)
    (hr : s₂.osdRegion = s.osdRegion) (hreq : ∀ x ∈ items n c req, x.Repeatable)
    (hfind : Find (s₂.protocol env') s₂.mem s₂.osdRegion (items n c req)) :
  ∃ t₂, processPairs env' req s₂ = .ok t₂ ∧ t₂.body = s₂.body
  := by
  induction req generalizing s s₂ c with
  | nil => exact ⟨s₂, rfl, rfl⟩
  | cons pair req ih =>
      cases hkey : Key.ofCode (atoi pair.1) with
      | none =>
          rw [items_cons_none hkey] at hreq hfind
          obtain ⟨t₂, ht₂, hbody⟩ :=
            ih (processPairs_cons_none hkey h) hat hat₂ hr hreq hfind
          refine ⟨t₂, foldlM_cons_ok.mpr ⟨s₂, ?_, ht₂⟩, hbody⟩
          rw [processPair, hkey]
      | some key =>
          rw [items_cons_some hkey] at hreq hfind
          obtain ⟨s₁, hs₁, h⟩ := processPairs_cons_some (c := c) hkey h
          obtain ⟨hfinds, hfind⟩ := find_cons.mp hfind
          obtain ⟨u, hu, hbody, hregion⟩ :=
            Item.run_again (hreq _ (.head _)) hat.2 hs₁ hat₂.2 hr hfinds
          have hdoes := Item.run_does (hreq _ (.head _)) hat.2 hs₁
          rw [Session.protocol, ← (body_ext hbody).1, ← (body_ext hbody).2.1, ← hregion] at hfind
          obtain ⟨t₂, ht₂, hbody₂⟩ := ih h (Item.run_at hat hs₁) (Item.run_at hat₂ hu)
            (by rw [hregion, hdoes.region, hr]) (fun x hx => hreq x (.tail _ hx)) hfind
          refine ⟨t₂, foldlM_cons_ok.mpr ⟨u, ?_, ht₂⟩, hbody₂.trans hbody⟩
          rw [processPair, hkey]
          apply hu

/-! ### Behind the loop -/

/-- A `file` of the list that is marked is written by the loop over the files. -/
theorem foldl_writeFile_writes
    {files : List CfgFile} {file : CfgFile} (hfile : file ∈ files)
    (hmarked : isSetFileChanged s.fileChangedFlag file = true) :
  .writeCfgFile file ∈ (files.foldl writeFile s).effects
  := by
  induction files generalizing s with
  | nil => contradiction
  | cons file' files ih =>
      rw [List.foldl_cons]
      rcases List.mem_cons.mp hfile with rfl | hfile
      · apply (foldl_writeFile_adds (P := fun _ => True) (fun _ => trivial) files _).mem_left
        rw [writeFile, if_pos hmarked]
        apply List.mem_append_right _ (.head _)
      · apply ih hfile
        rw [(writeFile_flash s file').2.1]
        apply hmarked

/-- Without a preset, what follows the loop may store the number of a region, and if the session was
dirty there are effects. -/
theorem finish_shows (hpreset : t.ptzPresetIn = 0) (h : finish env t = .ok s') :
  (s'.mem = t.mem ∨ ∃ i v, s'.mem = t.mem.setInt (.osd i .region) v) ∧
    (t.Dirty → s'.effects ≠ [])
  := by
  have hadds := finish_adds h
  obtain ⟨s₁, hs₁, h⟩ := bind_ok.mp h
  obtain ⟨s₂, hs₂, h⟩ := bind_ok.mp h
  obtain rfl := Except.ok.inj h
  rw [finishPreset, if_neg (not_not_intro hpreset)] at hs₁
  obtain rfl := Except.ok.inj hs₁
  have hnotify := notify_stores env (P := fun _ => False) t
  have hmem : (notify env t).mem = t.mem := funext fun f => hnotify.mem f not_false
  have hreboot : Adds Finishes (writeFiles s₂) (finishReboot (writeFiles s₂)) :=
    Adds.ite_effect fun _ => rfl
  constructor
  · have hlast : (finishReboot (writeFiles s₂)).mem = s₂.mem := by
      rw [← (writeFiles_flash fileArray s₂).1]
      unfold finishReboot
      split
      · rfl
      · rfl
    rw [hlast]
    unfold sendOsd at hs₂
    split at hs₂
    · obtain ⟨i, -, hs₂⟩ := bind_ok.mp hs₂
      obtain rfl := Except.ok.inj hs₂
      refine Or.inr ⟨i, (notify env t).osdRegion, ?_⟩
      rw [← hmem]
      rfl
    · obtain rfl := Except.ok.inj hs₂
      apply Or.inl hmem
  · rintro (heffects | ⟨file, hmarked⟩)
    · obtain ⟨e, he⟩ := List.exists_mem_of_ne_nil _ heffects
      apply List.ne_nil_of_mem (hadds.mem_left he)
    · apply List.ne_nil_of_mem (a := .writeCfgFile file)
      apply hreboot.mem_left
      apply foldl_writeFile_writes (mem_fileArray file)
      rw [(sendOsd_stores hs₂).flag, hnotify.flag]
      apply hmarked

/-! ### The protocol -/

theorem protocolBehind_range {p : Int} {es : List Effect} (hp : p = 0 ∨ p = 1) :
  protocolBehind p es = 0 ∨ protocolBehind p es = 1
  := by
  apply List.foldlRecOn (motive := fun p : Int => p = 0 ∨ p = 1)
  · apply hp
  · intro p hp e _
    cases he : e.protocol with
    | none => apply hp
    | some q =>
        unfold Effect.protocol at he
        split at he
        · obtain rfl := Option.some.inj he
          change (if _ then (0 : Int) else 1) = 0 ∨ (if _ then (0 : Int) else 1) = 1
          split
          · left
            rfl
          · right
            rfl
        · contradiction

/-- Effects `es'` that store no protocol leave the one that is found behind `es`. -/
theorem protocolBehind_append
    {p : Int} {es es' : List Effect} (h : ∀ e ∈ es', e.protocol = none) :
  protocolBehind p (es ++ es') = protocolBehind p es
  := by
  rw [protocolBehind, protocolBehind, List.foldl_append]
  generalize es.foldl (fun p e => e.protocol.getD p) p = q
  induction es' with
  | nil => rfl
  | cons e es' ih =>
      rw [List.foldl_cons, h e (.head _)]
      apply ih fun e' he' => h e' (.tail _ he')

/-- Of the plain branches only the one for the protocol emits an effect `e` that stores in its
file. -/
theorem Branch.emits_protocol (hb : b.Plain = true) {e : Effect} (he : b.Emits value c e) :
  e.protocol = none ∨ b = .protocol ∧ e = .call .setProtocol [atoi value]
  := by
  cases b
  case int ref flag callees hook label shown =>
    obtain ⟨callee, hcallee, v, rfl⟩ := he
    have hnone : Callee.setProtocol ∉ callees := of_decide_eq_true (Bool.and_eq_true_iff.mp hb).2
    left
    cases callee
    case setProtocol => contradiction
    all_goals rfl
  case protocol => exact Or.inr ⟨rfl, he⟩
  case systime =>
    left
    rcases he with rfl | rfl
    · rfl
    · rfl
  case encResolution =>
    obtain ⟨arg, -, rfl⟩ := he
    exact Or.inl rfl
  case nvrOpt =>
    obtain ⟨callee, hcallee, args, rfl⟩ := he
    left
    rcases List.mem_cons.mp hcallee with rfl | hcallee
    · rfl
    · obtain rfl := List.mem_singleton.mp hcallee
      rfl
  case vzoom | stop | gotoPreset | deletepreset =>
    obtain ⟨command, arg, rfl⟩ := he
    exact Or.inl rfl
  case reset =>
    rcases he with rfl | ⟨file, -, rfl⟩
    · exact Or.inl rfl
    · exact Or.inl rfl
  all_goals first | contradiction | (obtain rfl := he; exact Or.inl rfl)

/-! ### The request -/

/-- What a request to the device `d` compares before it stores, in the order of its items. -/
def Device.guards (d : Device) (req : Request) : List Guard := guardsFrom (-1) (d.items req)

/-- The request consists of `T_Set` pairs that compare before they store, and of selectors. -/
def Device.Repeatable (d : Device) (req : Request) : Prop := ∀ x ∈ d.items req, x.Repeatable

instance (d : Device) (req : Request) : Decidable (d.Repeatable req) :=
  inferInstanceAs (Decidable (∀ x ∈ d.items req, x.Repeatable))

/-- The request `req` is answered, leaves the device `d` as it is, and has no effects. -/
def Idle (env : Env) (req : Request) (d : Device) : Prop :=
  ∃ reply, processMsg env req d = .ok reply ∧ reply.device = d ∧ reply.effects = []

/-- The guards of the items of a request whose values are strings are proper. -/
theorem Item.guards_proper (hvalues : ∀ pair ∈ req, nul ∉ pair.2) (hx : x ∈ d.items req)
    {g : Guard} (hg : g ∈ x.guards r) :
  g.Proper
  := by
  obtain ⟨pair, hpair, -, hvalue⟩ := exists_mem_of_mem_items hx
  apply Branch.guards_proper x.key.plain _ hg
  rw [← hvalue]
  apply hvalues pair hpair

theorem Device.guards_proper (hvalues : ∀ pair ∈ req, nul ∉ pair.2) {g : Guard}
    (hg : g ∈ d.guards req) :
  g.Proper
  := by
  obtain ⟨pre, x, post, hsplit, hg⟩ := mem_trace.mp hg
  have hx : x ∈ d.items req := by
    rw [hsplit]
    simp
  apply Item.guards_proper hvalues hx hg

/-- Whether a proper guard holds does not depend on the number of a region. -/
theorem Guard.Proper.holds_region {g : Guard} {m : Contents} {i : Nat} {v : Int} (hg : g.Proper) :
  g.Holds (m.setInt (.osd i .region) v) ↔ g.Holds m
  := by
  rw [g.holds_iff hg.1, g.holds_iff hg.1, Contents.see_setInt_of_ne (by rfl) (hg.2 i)]

/-- Behind a request that is repeatable the guards of its items hold exactly when its stores settle,
and the number of networks found is the same. -/
theorem request_leaves
    (hd : d.mem.Typed) (hvalues : ∀ pair ∈ req, nul ∉ pair.2) (hreq : d.Repeatable req)
    (h : processMsg env req d = .ok reply) :
  ((∀ g ∈ d.guards req, g.Holds reply.device.mem) ↔
    Guarded.Settled netSpill ((d.guards req).map Guard.guarded) d.mem.see) ∧
  reply.device.mem.int .waccessPoints = d.mem.int .waccessPoints
  := by
  obtain ⟨t, s', ht, hs', hreply⟩ := processMsg_ok h
  have hat := (items_append [] ht (start_at env d)).2
  have hsteps := processPairs_steps ht (start_at env d) hreq
    (fun x hx r g hg => (Item.guards_proper hvalues hx hg).1) hd
  obtain ⟨hmem, -⟩ := finish_shows (processPairs_preset ht (start_at env d) hreq) hs'
  have hholds : ∀ g ∈ d.guards req, g.Holds reply.device.mem ↔ g.Holds t.mem := by
    intro g hg
    rw [hreply]
    rcases hmem with hmem | ⟨i, v, hmem⟩
    · change g.Holds s'.mem ↔ _
      rw [hmem]
    · change g.Holds s'.mem ↔ _
      rw [hmem]
      apply (Device.guards_proper hvalues hg).holds_region
  constructor
  · apply Iff.trans _ (Guarded.hold_iff_settled hsteps (regular_guarded hd))
    rw [Guarded.Hold, List.forall_mem_map]
    apply forall₂_congr
    intro g hg
    rw [hholds g hg]
    apply g.holds_iff (Device.guards_proper hvalues hg).1
  · rw [hreply]
    change s'.mem.int .waccessPoints = _
    rw [← hat.1]
    rcases hmem with hmem | ⟨i, v, hmem⟩
    · rw [hmem]
    · rw [hmem]
      apply Contents.setInt_of_ne (by simp)

/-- A request that is repeatable comes again, to a device `d'`, and does nothing, exactly when its
items find everything there. -/
theorem idle_iff_find
    (hreq : d.Repeatable req) {d' : Device}
    (haccess : d'.mem.int .waccessPoints = d.mem.int .waccessPoints)
    (h : processMsg env req d = .ok reply) :
  Idle env' req d' ↔ Find env'.curProtocol d'.mem (-1) (d.items req)
  := by
  obtain ⟨t, ht, -⟩ := bind_ok.mp h
  have hat : (Session.start env d).At (d'.mem.int .waccessPoints) Cursor.start :=
    ⟨haccess.symm, rfl⟩
  unfold Device.Repeatable Device.items at hreq
  rw [Device.items, ← haccess]
  rw [← haccess] at hreq
  constructor
  · rintro ⟨reply', h', -, heffects⟩
    obtain ⟨t₂, ht₂, h'⟩ := bind_ok.mp h'
    obtain ⟨s', hs', h'⟩ := bind_ok.mp h'
    obtain rfl := Except.ok.inj h'
    have hpreset := processPairs_preset ht₂ (start_at env' d') hreq
    apply processPairs_clean ht₂ (start_at env' d') hreq
    intro hdirty
    apply (finish_shows hpreset hs').2 hdirty heffects
  · intro hfind
    obtain ⟨t₂, ht₂, hbody⟩ := processPairs_again ht hat (start_at env' d') rfl hreq hfind
    simp only [Session.body, Session.notes, Session.start, Prod.mk.injEq] at hbody
    obtain ⟨hmem, hflash, heffects, hpreset, hflag, hosd, hif, hntp, hreboot, hvx, hvy⟩ := hbody
    have hcalm : t₂.Calm := by
      refine ⟨hpreset, hvx, hvy, hif, hntp, ?_, hosd, hreboot⟩
      rw [hflag]
      apply isSetFileChanged_zero
    refine ⟨_, hcalm.processMsg_eq ht₂, ?_, ?_⟩
    · rw [writeFiles_of_unmarked hflag, Session.device, hmem, hflash]
    · rw [writeFiles_of_unmarked hflag, heffects]

/-- Behind an item that names the protocol `p` this is the current one, and behind another item the
current one is what it was. -/
theorem Item.run_protocol
    (hx : x.Repeatable) {p : Int} (hp : p = 0 ∨ p = 1) (hname : x.NamesProtocol p)
    (hc : s.cursor = x.cursor) (hrun : x.run env s = .ok s') :
  s'.protocol env = if x.key.branch = .protocol then p else s.protocol env
  := by
  split
  · next hb =>
      have hname : atoi x.value = p := hname hb
      rcases hx with hselector | ⟨-, hcmd⟩
      · apply absurd hb (Branch.ne_protocol_of_selector hselector)
      · rw [Item.run, hb] at hrun
        rcases protocolBranch_does ((congrArg Cursor.cmdType hc).trans hcmd) hrun with
          ⟨heq, rfl⟩ | ⟨-, rfl⟩
        · rw [← heq, hname]
        · have hstored : protocolBehind env.curProtocol
              (s.effects ++ [.call .setProtocol [atoi x.value]]) = if p = 0 then 0 else 1 := by
            rw [protocolBehind, List.foldl_append, hname]
            rfl
          apply hstored.trans
          rcases hp with rfl | rfl
          · rfl
          · rfl
  · next hb =>
      obtain ⟨es, hes, hemits⟩ := Item.run_adds hc hrun
      rw [Session.protocol, hes]
      apply protocolBehind_append
      intro e he
      apply (Branch.emits_protocol x.key.plain (hemits e he)).resolve_right
      rintro ⟨hprotocol, -⟩
      apply hb hprotocol

/-- Behind a request whose items name one protocol `p`, this is the current one. -/
theorem protocol_behind
    (hreq : d.Repeatable req) (h : processMsg env req d = .ok reply) {p : Int} (hp : p = 0 ∨ p = 1)
    (hnames : ∀ x ∈ d.items req, x.NamesProtocol p) {x : Item} (hx : x ∈ d.items req)
    (hprotocol : x.key.branch = .protocol) :
  protocolBehind env.curProtocol reply.effects = p
  := by
  obtain ⟨t, ht, h⟩ := bind_ok.mp h
  obtain ⟨s', hs', h⟩ := bind_ok.mp h
  obtain rfl := Except.ok.inj h
  have hloop : t.protocol env = p := by
    have hfollows := processPairs_follows (R := fun s u => u → s.protocol env = p)
      (g := fun u y => u ∨ y.key.branch = .protocol) (u := False)
      (fun s u y s' hy hc hs hrun => ?_) ht (start_at env d) False.elim
    · apply hfollows
      apply foldl_or.mpr
      exact Or.inr ⟨x, hx, hprotocol⟩
    · have hbehind := Item.run_protocol (hreq y hy) hp (hnames y hy) hc hrun
      rintro (hu | hb)
      · rw [hbehind, hs hu, ite_self]
      · rw [hbehind, if_pos hb]
  obtain ⟨es, hes, hfinishes⟩ := finish_adds hs'
  change protocolBehind env.curProtocol s'.effects = p
  rw [hes, protocolBehind_append]
  · apply hloop
  · intro e he
    have hfinish := hfinishes e he
    cases e
    case call => contradiction
    all_goals rfl

/-- A request that compares before it stores does nothing when it comes again, right after it has
been answered, exactly when its stores settle, in the sense of `Guarded.Settled`, and it names no
protocol but one. -/
theorem repeat_idle_iff
    (hd : d.mem.Typed) (hvalues : ∀ pair ∈ req, nul ∉ pair.2) (hreq : d.Repeatable req)
    (hp : env.curProtocol = 0 ∨ env.curProtocol = 1) (h : processMsg env req d = .ok reply)
    (hp' : env'.curProtocol = protocolBehind env.curProtocol reply.effects) :
  Idle env' req reply.device ↔
    Guarded.Settled netSpill ((d.guards req).map Guard.guarded) d.mem.see ∧
      ∃ p, (p = 0 ∨ p = 1) ∧ ∀ x ∈ d.items req, x.NamesProtocol p
  := by
  obtain ⟨hholds, haccess⟩ := request_leaves hd hvalues hreq h
  rw [idle_iff_find hreq haccess h, Find, ← hholds, hp']
  apply and_congr_right
  intro _
  constructor
  · intro hnames
    exact ⟨_, protocolBehind_range hp, hnames⟩
  · rintro ⟨p, hp, hnames⟩ x hx hprotocol
    rw [protocol_behind hreq h hp hnames hx hprotocol]
    apply hnames x hx hprotocol

/-- In `Contents.blank` nothing has been configured, and so all numbers are of the types of their
members. -/
theorem Contents.blank_typed : Contents.blank.Typed := by
  intro f
  change f.cast 0 = 0
  cases f
  case net g | time g | sys g =>
    cases g
    all_goals rfl
  all_goals rfl

/-- A request that sets the brightness, by `T_Set`. -/
def brightnessRequest : Request := [("0".toList, "1".toList), ("38".toList, "10".toList)]

/-- The request `brightnessRequest` does nothing when it comes again. -/
theorem repeat_idle_brightness :
  ∃ reply, processMsg .idle brightnessRequest .blank = .ok reply ∧
    Idle .idle brightnessRequest reply.device
  := by
  have hok : ((processMsg .idle brightnessRequest .blank).map (·.effects)).toOption
      = some [.call .adjustBrightness [10], .writeCfgFile .imageAttr] := by decide +kernel
  have hguards : Device.blank.guards brightnessRequest = [.plain (.img .brightness) 10] := by
    decide +kernel
  have hnames : ∀ x ∈ Device.blank.items brightnessRequest, x.key.branch ≠ .protocol := by decide
  cases h : processMsg .idle brightnessRequest .blank with
  | error fault =>
      rw [h] at hok
      contradiction
  | ok reply =>
      rw [h] at hok
      have heffects : reply.effects = _ := Option.some.inj hok
      refine ⟨reply, rfl, ?_⟩
      apply (repeat_idle_iff Contents.blank_typed (by decide) (by decide) (Or.inl rfl) h _).mpr
      · constructor
        · rw [hguards]
          have hform : (IntField.img .brightness).InForm 10 := by decide
          apply Guarded.settled_singleton (Or.inl hform)
          simp [Guard.plain, Guard.guarded, netSpill]
        · exact ⟨0, Or.inl rfl, fun x hx hprotocol => absurd hprotocol (hnames x hx)⟩
      · rw [heffects]
        rfl

/-- A request to record, by a number that is neither 0 nor 1. -/
def recordRequest : Request := [("0".toList, "1".toList), ("216".toList, "2".toList)]

/-- The number of `recordRequest` is stored as 1, and found different when the request comes again:
the file is written once more. -/
theorem repeat_not_idle :
  Device.blank.Repeatable recordRequest ∧
  ∃ reply reply', processMsg .idle recordRequest .blank = .ok reply ∧
    processMsg .idle recordRequest reply.device = .ok reply' ∧
    .writeCfgFile .recCfg ∈ reply'.effects ∧ ¬ Idle .idle recordRequest reply.device
  := by
  have hok : ((processMsg .idle recordRequest .blank).bind fun reply =>
      (processMsg .idle recordRequest reply.device).map (·.effects)).toOption
      = some [.recCfgSet, .writeCfgFile .recCfg] := by decide +kernel
  refine ⟨by decide, ?_⟩
  cases h : processMsg .idle recordRequest .blank with
  | error fault =>
      rw [h] at hok
      contradiction
  | ok reply =>
      rw [h] at hok
      cases h' : processMsg .idle recordRequest reply.device with
      | error fault =>
          rw [Except.bind, h'] at hok
          contradiction
      | ok reply' =>
          rw [Except.bind, h'] at hok
          have heffects : reply'.effects = [.recCfgSet, .writeCfgFile .recCfg] :=
            Option.some.inj hok
          refine ⟨reply, reply', rfl, h', ?_, ?_⟩
          · rw [heffects]
            simp
          · rintro ⟨reply'', h'', -, hidle⟩
            obtain rfl := Except.ok.inj (h'.symm.trans h'')
            rw [heffects] at hidle
            contradiction

end Msg
