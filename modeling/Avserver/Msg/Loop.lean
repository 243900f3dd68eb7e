import Avserver.Library.Trace
import Avserver.Msg.BranchTouches
import Avserver.Msg.Process

/-!
# The loop over the pairs, and what follows it

Which pairs of a request are handled with which cursor is known before the request is: the
`items` of a request are its pairs with a known key, each with the cursor that it meets.  What
every item preserves is preserved by the loop (`processPairs_invariant`); so is the agreement
with a value that is computed from the items alone (`processPairs_follows`) and a relation
between two sessions that handle the same request (`processPairs_relation`).

What follows the loop may touch the presets and, if an OSD region has changed, the overlay
configuration; then the files that are marked are written (`finish_ok`).
-/

namespace Msg

open Library

variable {env : Env} {s s' t : Session}

/-! ### The reset -/

/-- The fields of the files are set back to what `default_setting` stores, in memory and in the
files, and nothing else is changed. -/
structure Resets (env : Env) (files : List CfgFile) (s s' : Session) : Prop where
  cursor : s'.cursor = s.cursor
  flag : s'.fileChangedFlag = s.fileChangedFlag
  osdCfg : s'.osdCfg = s.osdCfg
  reset : ∀ f, (∃ c ∈ files, f.file = some c) →
    s'.mem f = env.defaults f ∧ s'.flash f = env.defaults f
  kept : ∀ f, ¬ (∃ c ∈ files, f.file = some c) → s'.mem f = s.mem f ∧ s'.flash f = s.flash f

theorem Resets.nil (s : Session) : Resets env [] s s where
  cursor := rfl
  flag := rfl
  osdCfg := rfl
  reset := fun _ ⟨_, hmem, _⟩ => absurd hmem List.not_mem_nil
  kept := fun _ _ => ⟨rfl, rfl⟩

theorem Resets.append
    {s₁ : Session} {files files' : List CfgFile} (h : Resets env files s s₁)
    (h' : Resets env files' s₁ s') :
  Resets env (files ++ files') s s'
  := by
  constructor
  · apply h'.cursor.trans h.cursor
  · apply h'.flag.trans h.flag
  · apply h'.osdCfg.trans h.osdCfg
  · rintro f ⟨c, hc, hf⟩
    by_cases hlater : ∃ c ∈ files', f.file = some c
    · apply h'.reset f hlater
    · have hc : c ∈ files := by
        apply (List.mem_append.mp hc).resolve_right
        intro hc'
        apply hlater ⟨c, hc', hf⟩
      rw [(h'.kept f hlater).1, (h'.kept f hlater).2]
      apply h.reset f ⟨c, hc, hf⟩
  · intro f hf
    have hlater : ¬ ∃ c ∈ files', f.file = some c := by
      rintro ⟨c, hc, hfile⟩
      apply hf ⟨c, List.mem_append_right _ hc, hfile⟩
    have hearlier : ¬ ∃ c ∈ files, f.file = some c := by
      rintro ⟨c, hc, hfile⟩
      apply hf ⟨c, List.mem_append_left _ hc, hfile⟩
    rw [(h'.kept f hlater).1, (h'.kept f hlater).2]
    apply h.kept f hearlier

/-- The reset of one `file` of `reset_table` sets it back, in the sense of `Resets`. -/
theorem resetFile_resets {file : CfgFile} (h : resetFile env s file = .ok s') :
  Resets env [file] s s'
  := by
  unfold resetFile at h
  simp only at h
  split at h
  · obtain rfl := Except.ok.inj h
    constructor
    · rfl
    · rfl
    · rfl
    · rintro f ⟨c, hc, hf⟩
      obtain rfl := List.mem_singleton.mp hc
      simp [Session.effect, Contents.load, hf]
    · intro f hf
      have hne : f.file ≠ some file := fun heq => hf ⟨file, List.mem_singleton_self _, heq⟩
      simp [Session.effect, Contents.load, hne]
  · contradiction

/-- `do_reset` -/
theorem resetFiles_resets {files : List CfgFile} (h : files.foldlM (resetFile env) s = .ok s') :
  Resets env files s s'
  := by
  induction files generalizing s with
  | nil =>
      obtain rfl := foldlM_nil_ok.mp h
      apply Resets.nil
  | cons file files ih =>
      obtain ⟨s₁, hs₁, h⟩ := foldlM_cons_ok.mp h
      apply (resetFile_resets hs₁).append (ih h)

/-- `e_reset` sets the files of `resetTable` back for `T_Set`, and does nothing for any other
command. -/
theorem resetBranch_resets (h : resetBranch env s = .ok s') :
  (s.cmdType ≠ tSet ∧ s' = s) ∨ (s.cmdType = tSet ∧ Resets env resetTable s s')
  := by
  unfold resetBranch at h
  split at h
  · next hcmd =>
      obtain ⟨s₁, hs₁, h⟩ := bind_ok.mp h
      obtain rfl := Except.ok.inj h
      have hresets := resetFiles_resets hs₁
      refine Or.inr ⟨hcmd, ?_⟩
      exact ⟨hresets.cursor, hresets.flag, hresets.osdCfg, hresets.reset, hresets.kept⟩
  · next hcmd => apply Or.inl ⟨hcmd, (Except.ok.inj h).symm⟩

/-- Behind a branch `b` that is carried out the cursor is the one that `select` computes. -/
theorem Branch.run_cursor
    {b : Branch} {key : Key} {value : List Char} (hmarks : b.MarksItsFile)
    (h : b.run env key value s = .ok s') :
  s'.cursor = b.select (s.mem.int .waccessPoints) value s.cursor
  := by
  by_cases hreset : b = .reset
  · subst hreset
    obtain ⟨-, rfl⟩ | ⟨-, hresets⟩ := resetBranch_resets h
    · rfl
    · apply hresets.cursor
  · apply (Branch.touches hmarks hreset h).cursor

/-- A field `f` of a file that neither the branch nor the reset stores in, and that is not changed
loosely, is left alone. -/
theorem Branch.run_untouched
    {b : Branch} {key : Key} {value : List Char} {f : Field} (hmarks : b.MarksItsFile)
    (hreset : ∀ c ∈ resetTable, f.file ≠ some c) (hloose : ¬ b.loose s.cursor f)
    (hfile : ∀ c, b.file s.cursor = some c → f.file ≠ some c)
    (h : b.run env key value s = .ok s') :
  s'.mem f = s.mem f
  := by
  by_cases hb : b = .reset
  · subst hb
    obtain ⟨-, rfl⟩ | ⟨-, hresets⟩ := resetBranch_resets h
    · rfl
    · apply (hresets.kept f _).1
      rintro ⟨c, hc, hf⟩
      apply hreset c hc hf
  · apply (Branch.touches hmarks hb h).mem hloose hfile

/-- No branch `b` changes the number of networks found, `waccessPoints`. -/
theorem Branch.run_accessPoints
    {b : Branch} {key : Key} {value : List Char} (hmarks : b.MarksItsFile)
    (h : b.run env key value s = .ok s') :
  s'.mem.int .waccessPoints = s.mem.int .waccessPoints
  := by
  apply Branch.run_untouched hmarks _ _ _ h
  · exact fun c _ hc => nomatch hc
  · cases b
    all_goals simp [Branch.loose, Field.file, IntField.file]
  · exact fun c _ hc => nomatch hc

/-! ### The items of a request -/

/-- A pair of a request with a known key, and the cursor with which it is handled. -/
structure Item where
  cursor : Cursor
  key : Key
  value : List Char

/-- The item `x` is handled in the session `s`: the branch of its key is carried out. -/
def Item.run (env : Env) (x : Item) (s : Session) : Except Fault Session :=
  x.key.branch.run env x.key x.value s

/-- The items of a request from a cursor on, given the number of networks found. -/
def items (accessPoints : Int) : Cursor → Request → List Item
  | _, [] => []
  | c, pair :: req =>
      match Key.ofCode (atoi pair.1) with
      | some key =>
          ⟨c, key, pair.2⟩ :: items accessPoints (key.branch.select accessPoints pair.2 c) req
      | none => items accessPoints c req

/-- The items of a request to the device `d`, from the cursor at which every request starts. -/
def Device.items (d : Device) (req : Request) : List Item :=
  Msg.items (d.mem.int .waccessPoints) Cursor.start req

variable {n : Int} {c : Cursor} {req : Request}

/-- The session `s` is at the cursor `c`, and has the number `n` of networks found. -/
def Session.At (s : Session) (n : Int) (c : Cursor) : Prop :=
  s.mem.int .waccessPoints = n ∧ s.cursor = c

/-- By handling an item `x` the session moves on from its cursor to the next one. -/
theorem Item.run_at {x : Item} (hs : s.At n x.cursor) (h : x.run env s = .ok s') :
  s'.At n (x.key.branch.select n x.value x.cursor)
  := by
  obtain ⟨rfl, hc⟩ := hs
  constructor
  · apply Branch.run_accessPoints x.key.marksItsFile h
  · rw [← hc]
    apply Branch.run_cursor x.key.marksItsFile h

theorem items_cons_some
    {pair : List Char × List Char} {key : Key} (hkey : Key.ofCode (atoi pair.1) = some key) :
  items n c (pair :: req) = ⟨c, key, pair.2⟩ :: items n (key.branch.select n pair.2 c) req
  := by simp [items, hkey]

theorem items_cons_none
    {pair : List Char × List Char} (hkey : Key.ofCode (atoi pair.1) = none) :
  items n c (pair :: req) = items n c req
  := by simp [items, hkey]

/-- Every item `x` of a request is one of its pairs, with its key and its value. -/
theorem exists_mem_of_mem_items {x : Item} (hx : x ∈ items n c req) :
  ∃ pair ∈ req, Key.ofCode (atoi pair.1) = some x.key ∧ pair.2 = x.value
  := by
  induction req generalizing c with
  | nil => cases hx
  | cons pair req ih =>
      cases hkey : Key.ofCode (atoi pair.1) with
      | none =>
          rw [items_cons_none hkey] at hx
          obtain ⟨pair', hmem, h⟩ := ih hx
          use pair', .tail _ hmem
      | some key =>
          rw [items_cons_some hkey] at hx
          obtain rfl | hx := List.mem_cons.mp hx
          · exact ⟨pair, .head _, hkey, rfl⟩
          · obtain ⟨pair', hmem, h⟩ := ih hx
            use pair', .tail _ hmem

/-- What every pair preserves of the cursor, holds of the cursor of every item `x`. -/
theorem items_cursor
    {I : Cursor → Prop}
    (h : ∀ pair ∈ req, ∀ key, Key.ofCode (atoi pair.1) = some key →
      ∀ c, I c → I (key.branch.select n pair.2 c))
    (hc : I c) {x : Item} (hx : x ∈ items n c req) :
  I x.cursor
  := by
  induction req generalizing c with
  | nil => cases hx
  | cons pair req ih =>
      have htail : ∀ pair' ∈ req, ∀ key, Key.ofCode (atoi pair'.1) = some key →
          ∀ c, I c → I (key.branch.select n pair'.2 c) :=
        fun pair' hmem => h pair' (.tail _ hmem)
      cases hkey : Key.ofCode (atoi pair.1) with
      | none =>
          rw [items_cons_none hkey] at hx
          apply ih htail hc hx
      | some key =>
          rw [items_cons_some hkey] at hx
          obtain rfl | hx := List.mem_cons.mp hx
          · apply hc
          · apply ih htail (h pair (.head _) key hkey c hc) hx

/-- The command, and whether it is temporary, are set by the pair for the type only. -/
theorem Key.select_cmd {key : Key} (hkey : key ≠ .type) (value : List Char) :
  (key.branch.select n value c).cmdType = c.cmdType ∧
  (key.branch.select n value c).ylSet = c.ylSet
  := by
  cases key
  case type => contradiction
  case wfsearchAccesspoints | userOptType =>
    simp only [Key.branch, Branch.select]
    split
    · exact ⟨rfl, rfl⟩
    · exact ⟨rfl, rfl⟩
  all_goals exact ⟨rfl, rfl⟩

/-- A pair with a known `key` is handled by the branch for the key, and then the loop goes on. -/
theorem processPairs_cons_some
    {pair : List Char × List Char} {key : Key} (hkey : Key.ofCode (atoi pair.1) = some key)
    (h : processPairs env (pair :: req) s = .ok t) :
  ∃ s₁, (Item.mk c key pair.2).run env s = .ok s₁ ∧ processPairs env req s₁ = .ok t
  := by
  obtain ⟨s₁, hs₁, h⟩ := foldlM_cons_ok.mp h
  rw [processPair, hkey] at hs₁
  use s₁, hs₁, h

/-- A pair whose key is not known is passed over by the loop. -/
theorem processPairs_cons_none
    {pair : List Char × List Char} (hkey : Key.ofCode (atoi pair.1) = none)
    (h : processPairs env (pair :: req) s = .ok t) :
  processPairs env req s = .ok t
  := by
  obtain ⟨s₁, hs₁, h⟩ := foldlM_cons_ok.mp h
  rw [processPair, hkey] at hs₁
  obtain rfl := Except.ok.inj hs₁
  apply h

/-- The loop over the pairs of `pre` and then of `req` succeeds exactly if the two loops do, one
behind the other. -/
theorem processPairs_append_ok {pre : Request} :
  processPairs env (pre ++ req) s = .ok t ↔
    ∃ s₁, processPairs env pre s = .ok s₁ ∧ processPairs env req s₁ = .ok t
  := by
  rw [processPairs, List.foldlM_append]
  apply bind_ok

/-- The items of `pre ++ req` are those of `pre`, and then those of `req` from the cursor on to
which `pre` has led. -/
theorem items_append
    (req : Request) {pre : Request} (h : processPairs env pre s = .ok t) (hs : s.At n c) :
  items n c (pre ++ req) = items n c pre ++ items n t.cursor req ∧ t.At n t.cursor
  := by
  induction pre generalizing s c with
  | nil =>
      obtain rfl := foldlM_nil_ok.mp h
      rw [hs.2]
      exact ⟨rfl, hs⟩
  | cons pair pre ih =>
      rw [List.cons_append]
      cases hkey : Key.ofCode (atoi pair.1) with
      | none =>
          rw [items_cons_none hkey, items_cons_none hkey]
          apply ih (processPairs_cons_none hkey h) hs
      | some key =>
          obtain ⟨s₁, hs₁, h⟩ := processPairs_cons_some (c := c) hkey h
          obtain ⟨hitems, hat⟩ := ih h (Item.run_at hs hs₁)
          rw [items_cons_some hkey, items_cons_some hkey, hitems]
          exact ⟨rfl, hat⟩

/-- If `x` is an item of a request, there is a pair that it comes from, and the items before it are
those of the pairs before. -/
theorem items_split
    {xs ys : List Item} {x : Item} (h : items n c req = xs ++ x :: ys) :
  ∃ pre pair post, req = pre ++ pair :: post ∧ items n c pre = xs ∧
    Key.ofCode (atoi pair.1) = some x.key ∧ pair.2 = x.value
  := by
  induction req generalizing c xs with
  | nil =>
      have hlength := congrArg List.length h
      simp [items] at hlength
  | cons pair req ih =>
      cases hkey : Key.ofCode (atoi pair.1) with
      | none =>
          rw [items_cons_none hkey] at h
          obtain ⟨pre, pair', post, rfl, hpre, hx⟩ := ih h
          refine ⟨pair :: pre, pair', post, rfl, ?_, hx⟩
          rw [items_cons_none hkey, hpre]
      | some key =>
          rw [items_cons_some hkey] at h
          cases xs with
          | nil =>
              obtain ⟨rfl, -⟩ := List.cons.inj h
              exact ⟨[], pair, req, rfl, rfl, hkey, rfl⟩
          | cons y xs =>
              obtain ⟨rfl, htail⟩ := List.cons.inj h
              obtain ⟨pre, pair', post, rfl, hpre, hx⟩ := ih htail
              refine ⟨pair :: pre, pair', post, rfl, ?_, hx⟩
              rw [items_cons_some hkey, hpre]

/-- If every item keeps a session related to what `g` computes, then so does the loop, with the fold
of `g` over the items. -/
theorem processPairs_follows
    {γ : Type*} {g : γ → Item → γ} {R : Session → γ → Prop} {u : γ}
    (h : ∀ s u x s', x ∈ items n c req → s.cursor = x.cursor → R s u → x.run env s = .ok s' →
      R s' (g u x))
    (hrun : processPairs env req s = .ok t) (hs : s.At n c) (hR : R s u) :
  R t ((items n c req).foldl g u)
  := by
  induction req generalizing s c u with
  | nil =>
      obtain rfl := foldlM_nil_ok.mp hrun
      apply hR
  | cons pair req ih =>
      cases hkey : Key.ofCode (atoi pair.1) with
      | none =>
          rw [items_cons_none hkey] at h ⊢
          apply ih h (processPairs_cons_none hkey hrun) hs hR
      | some key =>
          rw [items_cons_some hkey] at h ⊢
          obtain ⟨s₁, hs₁, hrun⟩ := processPairs_cons_some (c := c) hkey hrun
          rw [List.foldl_cons]
          apply ih _ hrun (Item.run_at hs hs₁)
          · apply h s u _ s₁ (.head _) hs.2 hR hs₁
          · intro s u x s' hmem
            apply h s u x s' (.tail _ hmem)

/-- If every item preserves a property `I` of the session, then the loop preserves it. -/
theorem processPairs_invariant
    {I : Session → Prop}
    (h : ∀ s x s', x ∈ items n c req → s.cursor = x.cursor → I s → x.run env s = .ok s' → I s')
    (hrun : processPairs env req s = .ok t) (hs : s.At n c) (hI : I s) :
  I t
  := processPairs_follows (g := fun (u : Unit) _ => u) (R := fun s _ => I s)
      (fun s _ x s' => h s x s') (u := ()) hrun hs hI

/-- If every item puts out, on the session, what `o` computes in the state before it, then the loop
puts out the trace over the items. -/
theorem processPairs_trace
    {γ β : Type*} {g : γ → Item → γ} {o : γ → Item → List β} {R : Session → γ → Prop}
    {out : Session → List β} {u : γ}
    (h : ∀ s u x s', x ∈ items n c req → s.cursor = x.cursor → R s u → x.run env s = .ok s' →
      R s' (g u x) ∧ out s' = out s ++ o u x)
    (hrun : processPairs env req s = .ok t) (hs : s.At n c) (hR : R s u) :
  R t ((items n c req).foldl g u) ∧ out t = out s ++ trace g o u (items n c req)
  := by
  have hstep : ∀ s (u : γ × List β) x s', x ∈ items n c req → s.cursor = x.cursor →
      R s u.1 ∧ out s = u.2 → x.run env s = .ok s' →
      R s' (g u.1 x) ∧ out s' = u.2 ++ o u.1 x := by
    rintro s ⟨u, bs⟩ x s' hx hc ⟨hu, hout⟩ hrun
    obtain ⟨hR, hout'⟩ := h s u x s' hx hc hu hrun
    exact ⟨hR, by rw [hout', hout]⟩
  have hfollows := processPairs_follows (g := fun (u : γ × List β) x => (g u.1 x, u.2 ++ o u.1 x))
    (R := fun s u => R s u.1 ∧ out s = u.2) hstep hrun hs (u := (u, out s)) ⟨hR, rfl⟩
  rw [foldl_trace] at hfollows
  apply hfollows

/-- If every item preserves a relation between two sessions and what `g` computes, then so do the
two loops over the same request. -/
theorem processPairs_relation
    {γ : Type*} {g : γ → Item → γ} {R : Session → Session → γ → Prop} {u : γ} {r r' : Session}
    (h : ∀ s r u x s' r', x ∈ items n c req → s.cursor = x.cursor → r.cursor = x.cursor →
      R s r u → x.run env s = .ok s' → x.run env r = .ok r' → R s' r' (g u x))
    (hrun : processPairs env req s = .ok t) (hrun' : processPairs env req r = .ok r')
    (hs : s.At n c) (hr : r.At n c) (hR : R s r u) :
  R t r' ((items n c req).foldl g u)
  := by
  induction req generalizing s r c u with
  | nil =>
      obtain rfl := foldlM_nil_ok.mp hrun
      obtain rfl := foldlM_nil_ok.mp hrun'
      apply hR
  | cons pair req ih =>
      cases hkey : Key.ofCode (atoi pair.1) with
      | none =>
          rw [items_cons_none hkey] at h ⊢
          apply ih h (processPairs_cons_none hkey hrun) (processPairs_cons_none hkey hrun') hs hr hR
      | some key =>
          rw [items_cons_some hkey] at h ⊢
          obtain ⟨s₁, hs₁, hrun⟩ := processPairs_cons_some (c := c) hkey hrun
          obtain ⟨r₁, hr₁, hrun'⟩ := processPairs_cons_some (c := c) hkey hrun'
          rw [List.foldl_cons]
          apply ih _ hrun hrun' (Item.run_at hs hs₁) (Item.run_at hr hr₁)
          · apply h s r u _ s₁ r₁ (.head _) hs.2 hr.2 hR hs₁ hr₁
          · intro s r u x s' r' hmem
            apply h s r u x s' r' (.tail _ hmem)

/-! ### Behind the loop -/

/-- What `setSpePreset` stores, a preset, is of the preset file. -/
theorem setSpePreset_stores {p : List Char} {n : Nat} (h : setSpePreset p s n = .ok s') :
  Stores (fun f => f.file = some .ptzPreset) s s'
  := by
  unfold setSpePreset at h
  split at h
  · obtain rfl := Except.ok.inj h
    apply Stores.refl
  · apply ((s.setInt_stores _ _).mono _).trans ((Session.setText_stores h).mono _)
    · rintro _ rfl
      rfl
    · rintro _ rfl
      rfl

theorem setPresets_marks {i : Nat} {name : List Char} (h : setPresets i name s = .ok s') :
  Marks .ptzPreset s s'
  := by
  obtain ⟨s₁, hs₁, h⟩ := bind_ok.mp h
  obtain rfl := Except.ok.inj h
  have hstore : Stores (fun f => f.file = some .ptzPreset) s (storePreset i name s) := by
    apply Session.mem_stores
    intro f hf
    rw [Contents.setStr_of_ne, Contents.setInt_of_ne]
    · rintro rfl
      apply hf rfl
    · rintro rfl
      apply hf rfl
  have hspecial : Stores (fun f => f.file = some .ptzPreset) s s₁ := by
    apply foldlM_invariant _ hs₁ hstore
    intro s₁ n s₂ _ hs hs₂
    apply hs.trans (setSpePreset_stores hs₂)
  apply hspecial.marks
  · intro f hf
    apply hf
  · apply Stores.refl

theorem presetReply_stores
    {P : Field → Prop} {index : Int} {rest : List Answer}
    (h : presetReply index rest s = .ok s') :
  Stores P s s'
  := Session.answers_stores h

/-- A step that stores nothing, in front of one that `Marks` the file, is one with it that marks the
file. -/
theorem Stores.before_marks
    {file : CfgFile} {s₁ : Session} (h : Stores (fun _ => False) s s₁) (h' : Marks file s₁ s') :
  Marks file s s'
  := by
  constructor
  · apply h'.cursor.trans h.cursor
  · apply h'.flash.trans h.flash
  · rw [h'.flag, h.flag]
  · intro hosd
    rw [← h.osdCfg]
    apply h'.osdCfg hosd
  · intro f hf
    apply (h'.mem f hf).trans (h.mem f (fun hfalse => hfalse))

/-- `deal_ptz_preset` changes at most the presets, and then marks their file. -/
theorem dealPtzPreset_touches
    (loose : Field → Prop) (h : dealPtzPreset s = .ok s') :
  Touches (some .ptzPreset) loose s s'
  := by
  unfold dealPtzPreset at h
  simp only at h
  split at h
  · apply Touches.stores (presetReply_stores h)
  · split at h
    · split at h
      · apply Touches.stores (presetReply_stores h)
      · obtain ⟨name, -, h⟩ := bind_ok.mp h
        split at h
        · split at h
          · apply Touches.stores (Session.answer_stores h)
          · obtain ⟨s₁, hs₁, h⟩ := bind_ok.mp h
            obtain ⟨i, -, h⟩ := bind_ok.mp h
            apply Touches.marks
            apply (presetReply_stores hs₁).before_marks
            apply (s₁.effect_stores _).before_marks (setPresets_marks h)
        · obtain ⟨s₁, hs₁, h⟩ := bind_ok.mp h
          obtain ⟨s₂, hs₂, h⟩ := bind_ok.mp h
          obtain rfl := Except.ok.inj h
          apply Touches.marks
          apply (presetReply_stores hs₁).before_marks
          apply (setPresets_marks hs₂).quiet (Session.effect_stores _ _)
    · split at h
      · apply Touches.stores (presetReply_stores h)
      · split at h
        · obtain ⟨name, -, h⟩ := bind_ok.mp h
          apply Touches.stores (presetReply_stores h)
        · apply Touches.stores (presetReply_stores h)

theorem finishPreset_touches
    {loose : Field → Prop} (h : finishPreset s = .ok s') :
  Touches (some .ptzPreset) loose s s'
  := by
  unfold finishPreset at h
  split at h
  · obtain ⟨s₁, hs₁, rfl⟩ := map_ok.mp h
    have hret : Stores (fun _ => False) s₁ { s₁ with ret := s₁.ret + 1 } := s₁.other_stores ..
    obtain hstores | ⟨c, hc, hmarks⟩ := dealPtzPreset_touches loose hs₁
    · apply Touches.stores (hstores.quiet hret)
    · obtain rfl := Option.some.inj hc
      apply Touches.marks (hmarks.quiet hret)
  · apply Touches.of_eq (Except.ok.inj h)

theorem notify_stores (env : Env) {P : Field → Prop} (s : Session) : Stores P s (notify env s) := by
  have hif (c : Prop) [Decidable c] (s : Session) (e : Effect) :
      Stores P s (if c then s.effect e else s) := by
    split
    · apply Session.effect_stores
    · apply Stores.refl
  unfold notify
  apply Stores.trans _ (hif _ _ _)
  apply Stores.trans _ (hif _ _ _)
  apply Stores.trans (hif _ _ _) (hif _ _ _)

/-- `sendOsd` stores the number of an OSD region when a region has changed, and nothing
otherwise. -/
theorem sendOsd_stores (h : sendOsd env s = .ok s') :
  Stores (fun f => s.osdCfg = true ∧ f.file = some .overlayCfg) s s'
  := by
  unfold sendOsd at h
  split at h
  · next hosd =>
      obtain ⟨r, -, h⟩ := bind_ok.mp h
      obtain rfl := Except.ok.inj h
      apply Stores.trans _ (Session.effect_stores _ _)
      apply (s.setInt_stores _ _).mono
      rintro _ rfl
      exact ⟨hosd.1, rfl⟩
  · obtain rfl := Except.ok.inj h
    apply Stores.refl

/-- `writeFile` writes the `file` from memory if it is marked, and leaves the memory and the marks
alone. -/
theorem writeFile_flash (s : Session) (file : CfgFile) :
  (writeFile s file).mem = s.mem ∧
  (writeFile s file).fileChangedFlag = s.fileChangedFlag ∧
  (writeFile s file).flash =
    flush Field.file (fun c => isSetFileChanged s.fileChangedFlag c && decide (c = file))
      s.mem s.flash
  := by
  unfold writeFile
  split
  · next hset =>
      refine ⟨rfl, rfl, ?_⟩
      funext f
      cases hf : f.file with
      | none => simp [Session.effect, Contents.load, flush, hf]
      | some c =>
          by_cases hc : c = file
          · rw [flush_dirty hf (by simp [hset, hc])]
            simp [Session.effect, Contents.load, hf, hc]
          · rw [flush_not_dirty hf (by simp [hc])]
            simp [Session.effect, Contents.load, hf, hc]
  · next hset =>
      refine ⟨rfl, rfl, ?_⟩
      rw [← flush_clean Field.file s.mem s.flash, flush_flush]
      congr 1
      funext c
      by_cases hc : c = file
      · simp [hc, hset]
      · simp [hc]

/-- The `files` of a list are written from memory where they are marked, one after the other. -/
theorem writeFiles_flash (files : List CfgFile) (s : Session) :
  (files.foldl writeFile s).mem = s.mem ∧
  (files.foldl writeFile s).flash =
    flush Field.file (fun c => isSetFileChanged s.fileChangedFlag c && decide (c ∈ files))
      s.mem s.flash
  := by
  induction files generalizing s with
  | nil =>
      refine ⟨rfl, ?_⟩
      simp only [List.foldl_nil, List.not_mem_nil, decide_false, Bool.and_false, flush_clean]
  | cons file files ih =>
      obtain ⟨hmem, hflag, hflash⟩ := writeFile_flash s file
      obtain ⟨hmem', hflash'⟩ := ih (writeFile s file)
      rw [List.foldl_cons]
      refine ⟨hmem'.trans hmem, ?_⟩
      rw [hflash', hmem, hflag, hflash, flush_flush]
      congr 1
      funext c
      simp only [List.mem_cons, Bool.decide_or, Bool.and_or_distrib_left]

/-- What follows the loop: the presets may be touched, then the overlay configuration if a region
has changed, and then the marked files are written. -/
theorem finish_ok (h : finish env s = .ok s') :
  ∃ s₁ s₂, Touches (some .ptzPreset) (fun _ => False) s s₁ ∧
    Stores (fun f => s₁.osdCfg = true ∧ f.file = some .overlayCfg) s₁ s₂ ∧
    s'.mem = s₂.mem ∧
    s'.flash = flush Field.file (isSetFileChanged s₂.fileChangedFlag) s₂.mem s₂.flash
  := by
  obtain ⟨s₁, hs₁, h⟩ := bind_ok.mp h
  obtain ⟨s₂, hs₂, h⟩ := bind_ok.mp h
  obtain rfl := Except.ok.inj h
  have hnotify := notify_stores env (P := fun _ => False) s₁
  obtain ⟨hmem, hflash⟩ := writeFiles_flash fileArray s₂
  have hreboot (s : Session) : (finishReboot s).mem = s.mem ∧ (finishReboot s).flash = s.flash := by
    unfold finishReboot
    split
    · exact ⟨rfl, rfl⟩
    · exact ⟨rfl, rfl⟩
  refine ⟨s₁, s₂, finishPreset_touches hs₁, ?_, ?_, ?_⟩
  · have hsend := sendOsd_stores hs₂
    rw [hnotify.osdCfg] at hsend
    apply hnotify.after_quiet hsend
  · rw [(hreboot _).1]
    apply hmem
  · rw [(hreboot _).2, writeFiles, hflash]
    simp only [mem_fileArray, decide_true, Bool.and_true]

/-- In the session `s` nothing has been noted that is done behind the loop, but that files are
written. -/
structure Session.Calm (s : Session) : Prop where
  preset : s.ptzPresetIn = 0
  vx : s.vx = none
  vy : s.vy = none
  ifCfg : s.ifCfg = false
  ntpserverCfg : s.ntpserverCfg = 0
  recCfg : isSetFileChanged s.fileChangedFlag .recCfg = false
  osdCfg : s.osdCfg = false
  reboot : s.reboot = 0

/-- To write the `files` asks for no reboot. -/
theorem foldl_writeFile_reboot (files : List CfgFile) (s : Session) :
  (files.foldl writeFile s).reboot = s.reboot
  := by
  induction files generalizing s with
  | nil => rfl
  | cons file files ih =>
      rw [List.foldl_cons, ih]
      unfold writeFile
      split
      · rfl
      · rfl

/-- If the session is `Calm`, then what follows the loop is that the marked files are written. -/
theorem Session.Calm.finish_eq (h : s.Calm) : finish env s = .ok (writeFiles s) := by
  have hpreset : finishPreset s = .ok s := if_neg (not_not_intro h.preset)
  have hnotify : notify env s = s := by
    simp [notify, h.vx, h.vy, h.ifCfg, h.ntpserverCfg, h.recCfg]
  have hsend : sendOsd env s = .ok s := by
    rw [sendOsd, h.osdCfg, if_neg (fun hand => Bool.false_ne_true hand.1)]
  have hreboot : (writeFiles s).reboot = 0 := (foldl_writeFile_reboot fileArray s).trans h.reboot
  apply bind_ok.mpr ⟨s, hpreset, _⟩
  rw [hnotify]
  apply bind_ok.mpr ⟨s, hsend, _⟩
  rw [finishReboot, if_neg (not_not_intro hreboot)]

/-- A request starts at the beginning of its items, with the cursor `Cursor.start`. -/
theorem start_at (env : Env) (d : Device) :
  (Session.start env d).At (d.mem.int .waccessPoints) Cursor.start
  := ⟨rfl, rfl⟩

/-- A request that is answered has gone through the loop, to a session `t`, and then through
`finish`. -/
theorem processMsg_ok
    {d : Device} {req : Request} {reply : Reply} (h : processMsg env req d = .ok reply) :
  ∃ t s', processPairs env req (.start env d) = .ok t ∧ finish env t = .ok s' ∧
    reply.device = s'.device
  := by
  obtain ⟨t, ht, h⟩ := bind_ok.mp h
  obtain ⟨s', hs', h⟩ := bind_ok.mp h
  obtain rfl := Except.ok.inj h
  use t, s', ht, hs'

/-- A request whose loop ends in a `Calm` session is answered, with the marked files written. -/
theorem Session.Calm.processMsg_eq
    {d : Device} {req : Request} (h : t.Calm) (ht : processPairs env req (.start env d) = .ok t) :
  processMsg env req d = .ok ⟨(writeFiles t).device, (writeFiles t).ret,
    response (writeFiles t).pRet, (writeFiles t).effects⟩
  := by
  rw [processMsg, ht]
  change (do let s ← finish env t; Except.ok _) = _
  rw [h.finish_eq]
  rfl

/-- A request `r` as a step of the device yields the one that its reply leaves. -/
theorem handle_some {d d' : Device} {r : Request × Env} (h : handle d r = some d') :
  ∃ reply, processMsg r.2 r.1 d = .ok reply ∧ reply.device = d'
  := by
  unfold handle at h
  split at h
  · next reply hreply => use reply, hreply, Option.some.inj h
  · contradiction

end Msg
