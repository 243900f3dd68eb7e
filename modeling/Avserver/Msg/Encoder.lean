import Avserver.Msg.Flash

/-!
# The encoder configurations

The numbers of an encoder configuration are set by their own keys, with the values that the
items carry (`Item.write`), and by the reset; an item that does neither leaves the encoder
configurations and their files alone.  `Item.run_enc` says which of the three an item does.
From it follows what a request does to the configuration of a channel: which of its numbers
are those of the request (`processMsg_enc_agree`), which are kept (`processMsg_enc_kept`), and
whether the file is written (`processMsg_enc_stored`, `processMsg_enc_same`).
-/

namespace Msg

open Library

variable {env : Env} {s s' : Session} {a : AvFile}

/-! ### The numbers that are set -/

/-- The number of an encoder configuration that a reference is to, at the cursor `c`. -/
def ChanRef.field (c : Cursor) : ChanRef → IntField
  | .av f => .av c.avFile f
  | .ubs f => .ubs c.avFile c.subChannel.toNat f

/-- The number of an encoder configuration that a branch sets at the cursor `c`, and the value that
it gets. -/
def Branch.write (c : Cursor) (value : List Char) : Branch → Option (IntField × Int)
  | .chan ref => some (ref.field c, atoi value)
  | .frameRate => some ((ChanRef.ubs .frameRate).field c, frameRateValue value)
  | .bitRate => some ((ChanRef.ubs .bitRate).field c, bitRateValue c.channel value)
  | .ipInterval => some ((ChanRef.ubs .ipInterval).field c, atoi value)
  | _ => none

/-- The number of an encoder configuration that the item `x` sets, with its value, if its command is
`T_Set`. -/
def Item.write (x : Item) : Option (IntField × Int) :=
  if x.cursor.cmdType = tSet then x.key.branch.write x.cursor x.value else none

/-- The item `x` sets the encoder configurations back to the defaults: it is a reset, for
`T_Set`. -/
def Item.Restores (x : Item) : Prop := x.key.branch = .reset ∧ x.cursor.cmdType = tSet

instance (x : Item) : Decidable x.Restores := instDecidableAnd

/-- The item `x` sets the field `f` of an encoder configuration, or sets all of them back. -/
def Item.Writes (x : Item) (f : Field) : Prop :=
  x.Restores ∨ ∃ g v, x.write = some (g, v) ∧ f = .int g

/-- The item sets a number of the configuration to something that it is not in `m`, or sets the
configuration back. -/
def Item.Changes (x : Item) (m : Contents) (a : AvFile) : Prop :=
  x.Restores ∨ ∃ f v, x.write = some (f, v) ∧ f.file = some a.cfgFile ∧ m.int f ≠ v

/-! ### What an item does to an encoder configuration -/

/-- From `s` to `s'` the fields of the encoder configuration `a`, its file and its mark are left
alone. -/
structure SameOn (a : AvFile) (s s' : Session) : Prop where
  mem : ∀ f, f.file = some a.cfgFile → s'.mem f = s.mem f
  flash : ∀ f, f.file = some a.cfgFile → s'.flash f = s.flash f
  flag : isSetFileChanged s'.fileChangedFlag a.cfgFile = isSetFileChanged s.fileChangedFlag a.cfgFile

/-- The number `f` of an encoder configuration is set to `v`, and if this changes it the file is
marked, unless the request is temporary. -/
structure Sets (f : IntField) (v : Int) (s s' : Session) : Prop where
  file : f.file = some s.avFile.cfgFile
  flash : s'.flash = s.flash
  mem_self : s'.mem.int f = v
  mem_of_ne : ∀ g, g ≠ .int f → s'.mem g = s.mem g
  flag_same : s.mem.int f = v → s'.fileChangedFlag = s.fileChangedFlag
  flag_set : s.mem.int f ≠ v → s.ylSet = false →
    isSetFileChanged s'.fileChangedFlag s.avFile.cfgFile = true
  flag_of_ne : ∀ c, c ≠ s.avFile.cfgFile →
    isSetFileChanged s'.fileChangedFlag c = isSetFileChanged s.fileChangedFlag c

theorem SameOn.refl (s : Session) : SameOn a s s :=
  ⟨fun _ _ => rfl, fun _ _ => rfl, rfl⟩

theorem SameOn.trans {s₁ : Session} (h : SameOn a s s₁) (h' : SameOn a s₁ s') :
  SameOn a s s'
  where
  mem := fun f hf => (h'.mem f hf).trans (h.mem f hf)
  flash := fun f hf => (h'.flash f hf).trans (h.flash f hf)
  flag := h'.flag.trans h.flag

theorem AvFile.cfgFile_inj {a b : AvFile} : a.cfgFile = b.cfgFile ↔ a = b := by
  cases a
  all_goals cases b
  all_goals simp [AvFile.cfgFile]

/-- The number `f` that a reference is resolved to is the one of the configuration of the channel,
`ref.field`. -/
theorem ChanRef.resolve_ok {ref : ChanRef} {f : IntField} (h : ref.resolve s = .ok f) :
  f = ref.field s.cursor
  := by
  cases ref with
  | av f => apply (Except.ok.inj h).symm
  | ubs g =>
      obtain ⟨i, hi, rfl⟩ := map_ok.mp h
      unfold bounded at hi
      split at hi
      · obtain rfl := Except.ok.inj hi
        rfl
      · contradiction

/-- The members of the encoder configurations are `int`s: the value `v` is stored in them as it
is. -/
theorem ChanRef.cast_field (ref : ChanRef) (c : Cursor) (v : Int) : (ref.field c).cast v = v := by
  cases ref
  all_goals rfl

theorem ChanRef.file_field (ref : ChanRef) (s : Session) :
  (ref.field s.cursor).file = some s.avFile.cfgFile
  := by
  cases ref
  all_goals rfl

/-- If the number has the value `v` already, a session that does nothing has set it. -/
theorem Sets.of_eq {ref : ChanRef} {v : Int} (h : s.mem.int (ref.field s.cursor) = v) :
  Sets (ref.field s.cursor) v s s
  where
  file := ref.file_field s
  flash := rfl
  mem_self := h
  mem_of_ne := fun _ _ => rfl
  flag_same := fun _ => rfl
  flag_set := fun hne => absurd h hne
  flag_of_ne := fun _ _ => rfl

/-- A session that assigns `v` to the number, and marks the file unless the request is temporary,
has set it. -/
theorem Sets.of_ne
    {ref : ChanRef} {v : Int} (h : s.mem.int (ref.field s.cursor) ≠ v)
    (hmem : s'.mem = s.mem.setInt (ref.field s.cursor) v) (hflash : s'.flash = s.flash)
    (hflag : s'.fileChangedFlag = setFileChanged s.fileChangedFlag s.avFile.cfgFile ∨
      s.ylSet = true ∧ s'.fileChangedFlag = s.fileChangedFlag) :
  Sets (ref.field s.cursor) v s s'
  := by
  constructor
  · apply ref.file_field s
  · apply hflash
  · rw [hmem, Contents.int_setInt, if_pos rfl, ref.cast_field]
  · intro g hg
    rw [hmem]
    apply Contents.setInt_of_ne hg
  · intro heq
    contradiction
  · intro _ hyl
    obtain hflag | ⟨hyl', -⟩ := hflag
    · simp [hflag]
    · rw [hyl] at hyl'
      contradiction
  · intro c hc
    obtain hflag | ⟨-, hflag⟩ := hflag
    · simp [hflag, hc.symm]
    · rw [hflag]

/-- For `T_Set` a branch of the form `onCmd` does its first part. -/
theorem onCmd_set
    {set get : Except Fault Session} (hcmd : s.cmdType = tSet) (h : s.onCmd set get = .ok s') :
  set = .ok s'
  := by
  rw [Session.onCmd, if_pos hcmd] at h
  apply h

theorem chanBranch_sets
    {ref : ChanRef} {key : Key} {value : List Char} (hcmd : s.cmdType = tSet)
    (h : chanBranch ref key value s = .ok s') :
  Sets (ref.field s.cursor) (atoi value) s s'
  := by
  obtain ⟨f, hf, h⟩ := bind_ok.mp (onCmd_set hcmd h)
  obtain rfl := ChanRef.resolve_ok hf
  split at h
  · next hne =>
      obtain rfl := Except.ok.inj h
      exact Sets.of_ne hne rfl rfl (Or.inl rfl)
  · next heq =>
      obtain rfl := Except.ok.inj h
      apply Sets.of_eq (not_not.mp heq)

theorem streamBranch_sets
    {f : UbsField} {callee : Callee} {v : Int} (h : streamBranch f callee v s = .ok s') :
  Sets ((ChanRef.ubs f).field s.cursor) v s s'
  := by
  obtain ⟨f, hf, h⟩ := bind_ok.mp h
  obtain rfl := ChanRef.resolve_ok hf
  split at h
  · next hne =>
      obtain rfl := Except.ok.inj h
      split
      · next hyl => exact Sets.of_ne hne rfl rfl (Or.inr ⟨hyl, rfl⟩)
      · exact Sets.of_ne hne rfl rfl (Or.inl rfl)
  · next heq =>
      obtain rfl := Except.ok.inj h
      apply Sets.of_eq (not_not.mp heq)

/-- A branch `b` that writes the number `f`, for `T_Set`, sets it to its value in the sense of
`Sets`. -/
theorem Branch.run_sets
    {b : Branch} {key : Key} {value : List Char} {f : IntField} {v : Int}
    (hcmd : s.cmdType = tSet) (hwrite : b.write s.cursor value = some (f, v))
    (h : b.run env key value s = .ok s') :
  Sets f v s s'
  := by
  cases b
  case chan ref =>
    cases hwrite
    apply chanBranch_sets hcmd h
  case frameRate | bitRate | ipInterval =>
    cases hwrite
    apply streamBranch_sets (onCmd_set hcmd h)
  all_goals cases hwrite

/-- The file of an encoder configuration `a` is marked only where a number of it is set, for
`T_Set`. -/
theorem Key.file_enc
    {key : Key} {c : Cursor} {value : List Char} (h : key.branch.file c = some a.cfgFile) :
  c.cmdType = tSet ∧ key.branch.write c value ≠ none
  := by
  have hcmd {p : Prop} [Decidable p]
      (h : (if p then some c.avFile.cfgFile else none) = some a.cfgFile) : p := by
    split at h
    · assumption
    · contradiction
  cases key
  all_goals first
    | exact ⟨hcmd h, by simp [Key.branch, Branch.write]⟩
    | exact ⟨(hcmd h).1, by simp [Key.branch, Branch.write]⟩
    | cases a <;> cases h

/-- Fields of an encoder configuration `a` are changed without marking the file only where a number
of it is set, for a temporary request. -/
theorem Branch.loose_enc
    {b : Branch} {c : Cursor} (value : List Char) {f : Field} (hf : f.file = some a.cfgFile)
    (h : b.loose c f) :
  c.cmdType = tSet ∧ b.write c value ≠ none ∧ c.ylSet = true
  := by
  have hother {file : CfgFile} (hfile : f.file = some file) : a.cfgFile = file :=
    Option.some.inj (hf.symm.trans hfile)
  cases b
  case frameRate | bitRate | ipInterval => exact ⟨h.1, by simp [Branch.write], h.2.1⟩
  case macaddr | devtype =>
    have hfile := hother h.2
    cases a
    all_goals cases hfile
  case systime =>
    obtain rfl := h
    have hfile := hother rfl
    cases a
    all_goals cases hfile
  case userName =>
    obtain ⟨-, i, rfl⟩ := h
    have hfile := hother rfl
    cases a
    all_goals cases hfile
  case snapshotStart =>
    obtain rfl := h
    cases hf
  all_goals cases h

/-- The reset sets a field `f` of an encoder configuration back to its default, in memory and in the
file. -/
theorem Resets.enc {f : Field} (h : Resets env resetTable s s') (hf : f.file = some a.cfgFile) :
  s'.mem f = env.defaults f ∧ s'.flash f = env.defaults f
  := by
  apply h.reset f
  refine ⟨a.cfgFile, ?_, hf⟩
  cases a
  · decide
  · decide

variable {x : Item}

/-- What an item `x` does to the encoder configurations: nothing, or it `Sets` a number, or it
`Resets` them. -/
theorem Item.run_enc (hc : s.cursor = x.cursor) (h : x.run env s = .ok s') :
  (x.write = none ∧ ¬ x.Restores ∧ ∀ a, SameOn a s s') ∨
  (∃ f v, x.write = some (f, v) ∧ ¬ x.Restores ∧ Sets f v s s') ∨
  (x.write = none ∧ x.Restores ∧ Resets env resetTable s s')
  := by
  obtain ⟨c, key, value⟩ := x
  obtain rfl : s.cursor = c := hc
  unfold Item.run at h
  by_cases hreset : key.branch = .reset
  · have hwrite : Item.write ⟨s.cursor, key, value⟩ = none := by
      simp [Item.write, hreset, Branch.write]
    simp only [hreset] at h
    obtain ⟨hcmd, rfl⟩ | ⟨hcmd, hresets⟩ := resetBranch_resets h
    · apply Or.inl
      exact ⟨hwrite, fun hand => hcmd hand.2, fun a => SameOn.refl _⟩
    · apply Or.inr (Or.inr ⟨hwrite, ⟨hreset, hcmd⟩, hresets⟩)
  · have hnot : ¬ Item.Restores ⟨s.cursor, key, value⟩ := fun hand => hreset hand.1
    cases hwrite : Item.write ⟨s.cursor, key, value⟩ with
    | some fv =>
        obtain ⟨f, v⟩ := fv
        refine Or.inr (Or.inl ⟨f, v, rfl, hnot, ?_⟩)
        simp only [Item.write] at hwrite
        split at hwrite
        · next hcmd => apply Branch.run_sets hcmd hwrite h
        · contradiction
    | none =>
        refine Or.inl ⟨rfl, hnot, ?_⟩
        have hnone : ¬ (s.cursor.cmdType = tSet ∧ key.branch.write s.cursor value ≠ none) := by
          rintro ⟨hcmd, hne⟩
          rw [Item.write, if_pos hcmd] at hwrite
          contradiction
        have htouches := Branch.touches key.marksItsFile hreset h
        intro a
        constructor
        · intro f hf
          apply htouches.mem
          · intro hloose
            obtain ⟨hcmd, hne, -⟩ := Branch.loose_enc value hf hloose
            apply hnone ⟨hcmd, hne⟩
          · intro c hfile hc
            rw [hc] at hf
            rw [hf] at hfile
            apply hnone (Key.file_enc hfile)
        · intro f _
          rw [htouches.flash]
          rfl
        · apply htouches.flag_of_ne
          intro hfile
          apply hnone (Key.file_enc hfile)

/-- A number that is set in another configuration than `a`, or to the value that it has already,
leaves `a` alone. -/
theorem Sets.same_on
    {f : IntField} {v : Int} (h : Sets f v s s')
    (hsame : f.file = some a.cfgFile → s.mem.int f = v) :
  SameOn a s s'
  := by
  constructor
  · intro g hg
    by_cases hfg : g = .int f
    · subst hfg
      exact h.mem_self.trans (hsame hg).symm
    · apply h.mem_of_ne g hfg
  · intro g _
    rw [h.flash]
  · by_cases hav : s.avFile = a
    · subst hav
      rw [h.flag_same (hsame h.file)]
    · apply h.flag_of_ne
      intro heq
      apply hav (AvFile.cfgFile_inj.mp heq).symm

/-- An item `x` that does not change the configuration `a` leaves it, its file and its mark
alone. -/
theorem Item.run_same
    (hchanges : ¬ x.Changes s.mem a) (hc : s.cursor = x.cursor) (h : x.run env s = .ok s') :
  SameOn a s s'
  := by
  obtain ⟨-, -, hsame⟩ | ⟨f, v, hwrite, -, hsets⟩ | ⟨-, hreset, -⟩ := Item.run_enc hc h
  · apply hsame a
  · apply hsets.same_on
    intro hf
    by_contra hne
    apply hchanges (Or.inr ⟨f, v, hwrite, hf, hne⟩)
  · exact absurd (Or.inl hreset) hchanges

/-- Whether an item changes the configuration `a` depends on the numbers of that configuration
only. -/
theorem Item.changes_congr
    {m m' : Contents} (hm : ∀ f, f.file = some a.cfgFile → m f = m' f) :
  x.Changes m a ↔ x.Changes m' a
  := by
  have himp {m m' : Contents} (hm : ∀ f, f.file = some a.cfgFile → m f = m' f)
      (h : x.Changes m a) : x.Changes m' a := by
    obtain hreset | ⟨f, v, hwrite, hf, hne⟩ := h
    · apply Or.inl hreset
    · refine Or.inr ⟨f, v, hwrite, hf, ?_⟩
      intro heq
      apply hne
      rw [← heq]
      apply hm (.int f) hf
  constructor
  · apply himp hm
  · apply himp fun f hf => (hm f hf).symm

/-- An item that changes the configuration `a` and is not temporary marks it, unless it sets it
back; then its file has what memory has. -/
theorem Item.run_changes
    (hchanges : x.Changes s.mem a) (hyl : x.cursor.ylSet = false) (hc : s.cursor = x.cursor)
    (h : x.run env s = .ok s') :
  Clean Field.file (fun f => f.file = some a.cfgFile) (isSetFileChanged s'.fileChangedFlag)
    s'.mem s'.flash
  := by
  intro f hf c hfile hclean
  obtain rfl := Option.some.inj (hf.symm.trans hfile)
  obtain ⟨hwrite, hreset, -⟩ | ⟨g, v, hwrite, hreset, hsets⟩ | ⟨hwrite, -, hresets⟩ :=
    Item.run_enc hc h
  · obtain hreset' | ⟨g, v, hwrite', -⟩ := hchanges
    · contradiction
    · rw [hwrite] at hwrite'
      contradiction
  · obtain hreset' | ⟨g', v', hwrite', hg, hne⟩ := hchanges
    · contradiction
    · obtain ⟨rfl, rfl⟩ := Prod.mk.inj (Option.some.inj (hwrite.symm.trans hwrite'))
      have hav := Option.some.inj (hsets.file.symm.trans hg)
      have hyl' : s.ylSet = false := (congrArg Cursor.ylSet hc).trans hyl
      rw [← hav, hsets.flag_set hne hyl'] at hclean
      contradiction
  · rw [(hresets.enc hf).1, (hresets.enc hf).2]

/-! ### The loop -/

variable {req : Request} {d d' : Device} {t t' : Session} {reply reply' : Reply}

/-- If no item of the request changes the configuration `a`, it stays as it is, with its file and
its mark. -/
theorem processPairs_same
    (hchanges : ∀ x ∈ d.items req, ¬ x.Changes d.mem a)
    (h : processPairs env req (.start env d) = .ok t) :
  SameOn a (.start env d) t
  := by
  apply processPairs_invariant _ h (start_at env d) (SameOn.refl _)
  intro s x s' hx hc hs hrun
  apply hs.trans
  apply Item.run_same _ hc hrun
  rw [Item.changes_congr hs.mem]
  apply hchanges x hx

theorem Tidy.mono {S S' : Field → Prop} (h : Tidy S s) (hS : ∀ f, S' f → S f) : Tidy S' s :=
  ⟨fun f hf => h.clean f (hS f hf), h.osd⟩

/-- If an item changes the configuration `a` and none is temporary, its file is marked behind the
loop or has what memory has. -/
theorem processPairs_changes
    (hyl : ∀ x ∈ d.items req, x.cursor.ylSet = false)
    (hchanges : ∃ x ∈ d.items req, x.Changes d.mem a)
    (h : processPairs env req (.start env d) = .ok t) :
  Tidy (fun f => f.file = some a.cfgFile) t
  := by
  have hfollows : ∀ u : Prop, u = (d.items req).foldl (fun u x => u ∨ x.Changes d.mem a) False →
      Tidy (fun f => u ∧ f.file = some a.cfgFile) t ∧ (¬ u → SameOn a (.start env d) t) := by
    rintro u rfl
    apply processPairs_follows (g := fun u x => u ∨ x.Changes d.mem a)
      (R := fun t u => Tidy (fun f => u ∧ f.file = some a.cfgFile) t ∧
        (¬ u → SameOn a (.start env d) t)) _ h (start_at env d)
    · constructor
      · exact ⟨fun _ hf => hf.1.elim, fun hosd => by cases hosd⟩
      · intro _
        apply SameOn.refl
    · rintro s u x s' hx hc ⟨htidy, hsame⟩ hrun
      have hloose (S : Field → Prop) (hS : ∀ f, S f → f.file = some a.cfgFile) :
          ∀ f, S f → ¬ x.key.branch.loose x.cursor f := by
        intro f hf hloose
        obtain ⟨-, -, hyl'⟩ := Branch.loose_enc x.value (hS f hf) hloose
        rw [hyl x hx] at hyl'
        contradiction
      have htidy' := Item.run_tidy (hloose _ fun f hf => hf.2) hc hrun htidy
      by_cases hu : u
      · constructor
        · apply htidy'.mono
          intro f hf
          exact ⟨hu, hf.2⟩
        · intro hnot
          exact absurd (Or.inl hu) hnot
      · by_cases hx' : x.Changes d.mem a
        · constructor
          · refine ⟨?_, htidy'.osd⟩
            have hchanges' : x.Changes s.mem a := (Item.changes_congr (hsame hu).mem).mpr hx'
            have hclean := Item.run_changes hchanges' (hyl x hx) hc hrun
            intro f hf
            apply hclean f hf.2
          · intro hnot
            exact absurd (Or.inr hx') hnot
        · constructor
          · apply htidy'.mono
            intro f hf
            exact ⟨hf.1.resolve_right hx', hf.2⟩
          · intro _
            apply (hsame hu).trans
            apply Item.run_same _ hc hrun
            rw [Item.changes_congr (hsame hu).mem]
            apply hx'
  apply (hfollows _ rfl).1.mono
  intro f hf
  exact ⟨foldl_or.mpr (Or.inr hchanges), hf⟩

/-- An item gives a field `f` that it sets a value that does not depend on the session. -/
theorem Item.run_writes
    {r r' : Session} {f : Field} (hf : f.file = some a.cfgFile) (hwrites : x.Writes f)
    (hc : s.cursor = x.cursor) (hc' : r.cursor = x.cursor) (h : x.run env s = .ok s')
    (h' : x.run env r = .ok r') :
  s'.mem f = r'.mem f
  := by
  obtain ⟨hnone, hnot, -⟩ | ⟨g, v, hwrite, hnot, hsets⟩ | ⟨-, hrestores, hresets⟩ := Item.run_enc hc h
  · obtain hrestores | ⟨g, v, hwrite, -⟩ := hwrites
    · contradiction
    · rw [hnone] at hwrite
      contradiction
  · obtain hrestores | ⟨g', v', hwrite', rfl⟩ := hwrites
    · contradiction
    · obtain ⟨rfl, rfl⟩ := Prod.mk.inj (Option.some.inj (hwrite.symm.trans hwrite'))
      obtain ⟨hnone, -, -⟩ | ⟨g', v', hwrite', -, hsets'⟩ | ⟨-, hrestores, -⟩ :=
        Item.run_enc hc' h'
      · rw [hwrite] at hnone
        contradiction
      · obtain ⟨rfl, rfl⟩ := Prod.mk.inj (Option.some.inj (hwrite.symm.trans hwrite'))
        apply hsets.mem_self.trans hsets'.mem_self.symm
      · contradiction
  · obtain ⟨-, hnot, -⟩ | ⟨-, -, -, hnot, -⟩ | ⟨-, -, hresets'⟩ := Item.run_enc hc' h'
    · contradiction
    · contradiction
    · rw [(hresets.enc hf).1, (hresets'.enc hf).1]

/-- An item leaves a field `f` of an encoder configuration alone that it does not set. -/
theorem Item.run_kept
    {f : Field} (hf : f.file = some a.cfgFile) (hwrites : ¬ x.Writes f)
    (hc : s.cursor = x.cursor) (h : x.run env s = .ok s') :
  s'.mem f = s.mem f
  := by
  obtain ⟨-, -, hsame⟩ | ⟨g, v, hwrite, -, hsets⟩ | ⟨-, hrestores, -⟩ := Item.run_enc hc h
  · apply (hsame a).mem f hf
  · apply hsets.mem_of_ne
    rintro rfl
    apply hwrites (Or.inr ⟨g, v, hwrite, rfl⟩)
  · exact absurd (Or.inl hrestores) hwrites

/-- A field `f` of an encoder configuration is the same behind two loops over the same request when
it was so before, or the request sets it. -/
theorem processPairs_agree
    {f : Field} (hf : f.file = some a.cfgFile)
    (hpoints : d'.mem.int .waccessPoints = d.mem.int .waccessPoints)
    (hagree : d.mem f = d'.mem f ∨ ∃ x ∈ d.items req, x.Writes f)
    (h : processPairs env req (.start env d) = .ok t)
    (h' : processPairs env req (.start env d') = .ok t') :
  t.mem f = t'.mem f
  := by
  have hat : (Session.start env d').At (d.mem.int .waccessPoints) Cursor.start := by
    rw [← hpoints]
    apply start_at
  have hrelation : (d.items req).foldl (fun u x => u ∨ x.Writes f) (d.mem f = d'.mem f) →
      t.mem f = t'.mem f := by
    apply processPairs_relation (g := fun u x => u ∨ x.Writes f)
      (R := fun t t' u => u → t.mem f = t'.mem f) _ h h' (start_at env d) hat
    · intro hu
      apply hu
    · intro s r u x s' r' _ hc hc' hu hs hr hu'
      by_cases hwrites : x.Writes f
      · apply Item.run_writes hf hwrites hc hc' hs hr
      · rw [Item.run_kept hf hwrites hc hs, Item.run_kept hf hwrites hc' hr]
        apply hu (hu'.resolve_right hwrites)
  apply hrelation
  apply foldl_or.mpr hagree

/-- A field `f` of an encoder configuration that no item of the request sets is left alone by the
loop. -/
theorem processPairs_kept
    {f : Field} (hf : f.file = some a.cfgFile) (hwrites : ∀ x ∈ d.items req, ¬ x.Writes f)
    (h : processPairs env req (.start env d) = .ok t) :
  t.mem f = d.mem f
  := by
  apply processPairs_invariant (I := fun t => t.mem f = d.mem f) _ h (start_at env d) rfl
  intro s x s' hx hc hs hrun
  rw [Item.run_kept hf (hwrites x hx) hc hrun, hs]

/-! ### The request -/

/-- What follows the loop leaves a field `f` of an encoder configuration alone, and writes its file
if it is marked. -/
theorem finish_enc {f : Field} (hf : f.file = some a.cfgFile) (h : finish env s = .ok s') :
  s'.mem f = s.mem f ∧
  s'.flash f = if isSetFileChanged s.fileChangedFlag a.cfgFile then s.mem f else s.flash f
  := by
  obtain ⟨s₁, s₂, hs₁, hs₂, hmem, hflash⟩ := finish_ok h
  have hne {file : CfgFile} (hfile : f.file = some file) : a.cfgFile = file :=
    Option.some.inj (hf.symm.trans hfile)
  have hkept : s₂.mem f = s.mem f := by
    rw [hs₂.mem f, hs₁.mem (fun hfalse => hfalse)]
    · rintro c hc hfile
      obtain rfl := Option.some.inj hc
      have heq := hne hfile
      cases a
      all_goals cases heq
    · rintro ⟨-, hfile⟩
      have heq := hne hfile
      cases a
      all_goals cases heq
  have hflag : isSetFileChanged s₂.fileChangedFlag a.cfgFile
      = isSetFileChanged s.fileChangedFlag a.cfgFile := by
    rw [hs₂.flag, hs₁.flag_of_ne]
    intro heq
    cases a
    all_goals cases heq
  constructor
  · rw [hmem, hkept]
  · rw [hflash, ← hflag, ← hkept, ← hs₁.flash, ← hs₂.flash]
    split
    · next hset => apply flush_dirty hf hset
    · next hset => apply flush_not_dirty hf (by simpa using hset)

end Msg
