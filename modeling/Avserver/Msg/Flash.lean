import Avserver.Msg.Users

/-!
# Memory and flash

A request changes the configuration in memory and writes the files that it has marked, and so
memory and files agree behind it on every set of fields that no item of the request changes
loosely, provided that they agreed before (`processMsg_agrees`).  For a request that sets, and
does so permanently, the loose fields are the time, which is not to be stored, and the names of
the users, whose file is marked by passwords and groups only.  So memory and files agree behind
such a request exactly when it saves the users or leaves their names as they are
(`stored_iff_users_saved`).
-/

namespace Msg

open Library

variable {env : Env} {s s' : Session} {S : Field → Prop}

/-! ### Agreement up to the marked files -/

/-- On the fields of `S` memory and files agree but for the files that are marked, and the
overlay configuration is marked when a region has changed. -/
structure Tidy (S : Field → Prop) (s : Session) : Prop where
  clean : Clean Field.file S (isSetFileChanged s.fileChangedFlag) s.mem s.flash
  osd : s.osdCfg = true → isSetFileChanged s.fileChangedFlag .overlayCfg = true

theorem Stores.tidy
    {P : Field → Prop} (h : Stores P s s') (hP : ∀ f, S f → ¬ P f) (hs : Tidy S s) :
  Tidy S s'
  := by
  constructor
  · rw [h.flag, h.flash]
    apply hs.clean.change (fun _ hdirty => hdirty)
    intro f hf _ _ _
    apply h.mem f (hP f hf)
  · rw [h.flag, h.osdCfg]
    apply hs.osd

theorem Marks.tidy {file : CfgFile} (h : Marks file s s') (hs : Tidy S s) : Tidy S s' := by
  constructor
  · rw [h.flag, h.flash]
    apply hs.clean.change
    · intro c hc
      simp [hc]
    · intro f _ c hfile hc
      apply h.mem
      rintro hfile'
      obtain rfl := Option.some.inj (hfile.symm.trans hfile')
      simp at hc
  · intro hosd
    rw [h.flag, isSetFileChanged_setFileChanged, Bool.or_eq_true, decide_eq_true_iff]
    apply (h.osdCfg hosd).imp_left hs.osd

theorem Touches.tidy
    {file : Option CfgFile} {loose : Field → Prop} (h : Touches file loose s s')
    (hloose : ∀ f, S f → ¬ loose f) (hs : Tidy S s) :
  Tidy S s'
  := by
  obtain h | ⟨c, -, h⟩ := h
  · apply h.tidy hloose hs
  · apply h.tidy hs

theorem Resets.tidy {files : List CfgFile} (h : Resets env files s s') (hs : Tidy S s) :
  Tidy S s'
  := by
  constructor
  · intro f hf c hfile hc
    rw [h.flag] at hc
    by_cases hreset : ∃ c ∈ files, f.file = some c
    · rw [(h.reset f hreset).1, (h.reset f hreset).2]
    · rw [(h.kept f hreset).1, (h.kept f hreset).2]
      apply hs.clean f hf c hfile hc
  · rw [h.flag, h.osdCfg]
    apply hs.osd

/-- An item that changes no field of `S` loosely keeps the session `Tidy` on `S`. -/
theorem Item.run_tidy
    {x : Item} (hloose : ∀ f, S f → ¬ x.key.branch.loose x.cursor f) (hc : s.cursor = x.cursor)
    (h : x.run env s = .ok s') (hs : Tidy S s) :
  Tidy S s'
  := by
  by_cases hreset : x.key.branch = .reset
  · rw [Item.run, hreset] at h
    obtain ⟨-, rfl⟩ | ⟨-, hresets⟩ := resetBranch_resets h
    · apply hs
    · apply hresets.tidy hs
  · apply (Branch.touches x.key.marksItsFile hreset h).tidy
    · rw [hc]
      apply hloose
    · exact ⟨hs.clean, hs.osd⟩

/-- If the session is `Tidy` on `S`, then after `finish` has written the marked files memory and
files agree on `S`. -/
theorem finish_agrees (h : finish env s = .ok s') (hs : Tidy S s) :
  Agree Field.file S s'.mem s'.flash
  := by
  obtain ⟨s₁, s₂, hs₁, hs₂, hmem, hflash⟩ := finish_ok h
  have htidy := hs₁.tidy (fun _ _ hfalse => hfalse) hs
  rw [hmem, hflash]
  apply Clean.agree_flush
  rw [hs₂.flag, hs₂.flash]
  apply htidy.clean.change (fun _ hdirty => hdirty)
  intro f _ c hfile hc
  apply hs₂.mem
  -- the overlay configuration is written when the number of a region has been stored
  rintro ⟨hosd, hoverlay⟩
  obtain rfl := Option.some.inj (hfile.symm.trans hoverlay)
  rw [htidy.osd hosd] at hc
  contradiction

/-- A request keeps memory and files in agreement on the fields of `S`, if none of its items changes
one of them loosely. -/
theorem processMsg_agrees
    {req : Request} {d : Device} {reply : Reply}
    (hloose : ∀ x ∈ d.items req, ∀ f, S f → ¬ x.key.branch.loose x.cursor f)
    (h : processMsg env req d = .ok reply) (hd : Agree Field.file S d.mem d.flash) :
  Agree Field.file S reply.device.mem reply.device.flash
  := by
  obtain ⟨t, s', ht, hs', hdevice⟩ := processMsg_ok h
  rw [hdevice]
  apply finish_agrees hs'
  apply processPairs_invariant _ ht (start_at env d)
  · exact ⟨Clean.of_agree hd, fun hosd => by cases hosd⟩
  · intro s x s' hx hc hs hrun
    apply Item.run_tidy (hloose x hx) hc hrun hs

/-! ### Permanent settings -/

/-- The request `req` sets, permanently: wherever it gives its type, the type is 1. -/
def PermanentSet (req : Request) : Prop :=
  ∀ pair ∈ req, Key.ofCode (atoi pair.1) = some .type → atoi pair.2 = 1

/-- The memory and the files of the device `d` agree on all that is in a file, but for the time. -/
def Device.Stored (d : Device) : Prop := Agree Field.file (· ≠ .str .sysTime) d.mem d.flash

variable {req : Request} {d : Device} {reply : Reply}

/-- In a request that sets permanently every item `x` is no query, and not temporary. -/
theorem PermanentSet.cursor (hreq : PermanentSet req) {x : Item} (hx : x ∈ d.items req) :
  x.cursor.cmdType ≠ tGet ∧ x.cursor.ylSet = false
  := by
  apply items_cursor (I := fun c => c.cmdType ≠ tGet ∧ c.ylSet = false) _ _ hx
  · intro pair hmem key hkey c hc
    by_cases htype : key = .type
    · subst htype
      have hone := hreq pair hmem hkey
      simp [Key.branch, Branch.select, hone, tGet]
    · obtain ⟨hcmd, hyl⟩ := key.select_cmd (n := d.mem.int .waccessPoints) (c := c) htype pair.2
      rw [hcmd, hyl]
      apply hc
  · exact ⟨by decide, rfl⟩

/-- A field `f` that a branch changes loosely in a permanent setting is the time, the start of a
snapshot, or the name of a user. -/
theorem Branch.loose_of_set
    {b : Branch} {c : Cursor} (hcmd : c.cmdType ≠ tGet) (hyl : c.ylSet = false) {f : Field}
    (h : b.loose c f) :
  f = .str .sysTime ∨ f = .int .snapStart ∨ ∃ i, f = .str (.username i)
  := by
  cases b
  case systime => apply Or.inl h
  case snapshotStart => apply Or.inr (Or.inl h)
  case userName => apply Or.inr (Or.inr h.2)
  case macaddr | devtype => exact absurd h.1 hcmd
  case frameRate | bitRate | ipInterval =>
    rw [h.2.1] at hyl
    contradiction
  all_goals cases h

/-- What follows the loop leaves the names of the users in memory, and writes them to the file if it
is marked. -/
theorem finish_names (h : finish env s = .ok s') :
  s'.mem.names = s.mem.names ∧
  s'.flash.names =
    if isSetFileChanged s.fileChangedFlag .user then s.mem.names else s.flash.names
  := by
  obtain ⟨s₁, s₂, hs₁, hs₂, hmem, hflash⟩ := finish_ok h
  have hnames : s₂.mem.names = s.mem.names := by
    rw [hs₂.names fun i hand => by cases hand.2]
    funext i
    apply hs₁.mem (fun hfalse => hfalse)
    intro c hc hfile
    cases hc
    cases hfile
  have hflag : isSetFileChanged s₂.fileChangedFlag .user
      = isSetFileChanged s.fileChangedFlag .user := by
    rw [hs₂.flag, hs₁.flag_of_ne (by simp)]
  constructor
  · rw [hmem, hnames]
  · rw [hflash, hs₂.flash, hs₁.flash, ← hflag, ← hnames]
    funext i
    have hfile : (Field.str (.username i)).file = some .user := rfl
    split
    · next hset => apply flush_dirty hfile hset
    · next hset => apply flush_not_dirty hfile (by simpa using hset)

/-- No item of a request writes the names of the users to their file. -/
theorem processPairs_flash_names
    {t : Session} {n : Int} {c : Cursor} (h : processPairs env req s = .ok t) (hs : s.At n c) :
  t.flash.names = s.flash.names
  := by
  apply processPairs_invariant (I := fun t => t.flash.names = s.flash.names) _ h hs rfl
  intro s₁ x s₂ _ _ hs₁ hx
  rw [← hs₁]
  by_cases hreset : x.key.branch = .reset
  · rw [Item.run, hreset] at hx
    obtain ⟨-, rfl⟩ | ⟨-, hresets⟩ := resetBranch_resets hx
    · rfl
    · funext i
      refine (hresets.kept (.str (.username i)) ?_).2
      rintro ⟨c, hc, hfile⟩
      obtain rfl := Option.some.inj hfile
      revert hc
      decide
  · rw [(Branch.touches x.key.marksItsFile hreset hx).flash]
    rfl

/-- Behind a request the names in memory are those that the items make of them, and the file has
them when an item has saved the users, and is as before otherwise. -/
theorem processMsg_names (h : processMsg env req d = .ok reply) :
  reply.device.mem.names = (d.items req).foldl Item.names d.mem.names ∧
  ((∃ x ∈ d.items req, x.Saves) → reply.device.flash.names = reply.device.mem.names) ∧
  ((¬ ∃ x ∈ d.items req, x.Saves) → reply.device.flash.names = d.flash.names)
  := by
  obtain ⟨t, s', ht, hs', hdevice⟩ := processMsg_ok h
  obtain ⟨hmem, hflash⟩ := finish_names hs'
  have hnames := processPairs_names ht (start_at env d)
  have hsaves := processPairs_saves ht (start_at env d)
  have hfile := processPairs_flash_names ht (start_at env d)
  rw [hdevice]
  refine ⟨?_, ?_, ?_⟩
  · apply hmem.trans hnames
  · intro hsave
    rw [Session.device, hmem, hflash, if_pos (hsaves.mpr (Or.inr hsave))]
  · intro hsave
    have hclean : ¬ isSetFileChanged t.fileChangedFlag .user = true := by
      rw [hsaves]
      rintro (hstart | hsave')
      · simp [Session.start] at hstart
      · apply hsave hsave'
    rw [Session.device, hflash, if_neg hclean, hfile]
    rfl

/-- If memory and files agree before a permanent setting, they do behind it exactly when it saves
the users or leaves their names as they were. -/
theorem stored_iff_users_saved
    (hreq : PermanentSet req) (h : processMsg env req d = .ok reply) (hd : d.Stored) :
  reply.device.Stored ↔
    (∃ x ∈ d.items req, x.Saves) ∨ (d.items req).foldl Item.names d.mem.names = d.mem.names
  := by
  obtain ⟨hmem, hsaved, hunsaved⟩ := processMsg_names h
  have hnames_stored {d : Device} (hd : d.Stored) : d.mem.names = d.flash.names := by
    funext i
    apply hd
    · simp
    · simp [Field.file, StrField.file]
  constructor
  · intro hstored
    by_cases hsave : ∃ x ∈ d.items req, x.Saves
    · apply Or.inl hsave
    · apply Or.inr
      rw [← hmem, hnames_stored hstored, hunsaved hsave, hnames_stored hd]
  · intro hcase
    have hagree : reply.device.mem.names = reply.device.flash.names := by
      by_cases hsave : ∃ x ∈ d.items req, x.Saves
      · rw [hsaved hsave]
      · rw [hunsaved hsave, hmem, hcase.resolve_left hsave, hnames_stored hd]
    have hothers : Agree Field.file
        (fun f => f.file ≠ none ∧ f ≠ .str .sysTime ∧ ¬ ∃ i, f = .str (.username i))
        reply.device.mem reply.device.flash := by
      apply processMsg_agrees _ h
      · intro f hf
        apply hd f hf.2.1
      · rintro x hx f ⟨hfile, htime, hname⟩ hloose
        obtain ⟨hcmd, hyl⟩ := hreq.cursor hx
        obtain rfl | rfl | hname' := Branch.loose_of_set hcmd hyl hloose
        · contradiction
        · apply hfile rfl
        · apply hname hname'
    intro f htime hfile
    by_cases hname : ∃ i, f = .str (.username i)
    · obtain ⟨i, rfl⟩ := hname
      apply congrFun hagree i
    · apply hothers f ⟨hfile, htime, hname⟩ hfile

/-- A request that adds a user by name, with the pairs `rest` behind the name. -/
def addRequest (rest : Request) : Request :=
  [("0".toList, "1".toList), ("133".toList, "0".toList), ("134".toList, "bob".toList)] ++ rest

/-- Behind a request that adds a user with a password, memory and files agree. -/
theorem stored_iff_users_saved_password :
  ∃ reply, processMsg .idle (addRequest [("135".toList, "secret".toList)]) .blank = .ok reply ∧
    reply.device.Stored
  := by
  have hset : PermanentSet (addRequest [("135".toList, "secret".toList)]) := by
    unfold PermanentSet
    decide
  have hok : (processMsg .idle (addRequest [("135".toList, "secret".toList)])
      .blank).toOption.isSome = true := by decide
  cases h : processMsg .idle (addRequest [("135".toList, "secret".toList)]) .blank with
  | error fault =>
      rw [h] at hok
      contradiction
  | ok reply =>
      use reply, rfl
      apply (stored_iff_users_saved hset h (fun _ _ _ => rfl)).mpr
      apply Or.inl
      decide

/-- A request that adds a user by name and says no more leaves the name out of the file. -/
theorem user_name_not_stored :
  ∃ reply, (∃ pair ∈ addRequest [], Key.ofCode (atoi pair.1) = some .type) ∧
    PermanentSet (addRequest []) ∧ Device.blank.Stored ∧
    processMsg .idle (addRequest []) .blank = .ok reply ∧ ¬ reply.device.Stored
  := by
  have hset : PermanentSet (addRequest []) := by
    unfold PermanentSet
    decide
  have hok : (processMsg .idle (addRequest []) .blank).toOption.isSome = true := by decide
  have hsave : ¬ ∃ x ∈ Device.blank.items (addRequest []), x.Saves := by decide
  have hadded : (Device.blank.items (addRequest [])).foldl Item.names Contents.blank.names 0
      ≠ Contents.blank.names 0 := by decide
  cases h : processMsg .idle (addRequest []) .blank with
  | error fault =>
      rw [h] at hok
      contradiction
  | ok reply =>
      refine ⟨reply, by decide, hset, fun _ _ _ => rfl, rfl, ?_⟩
      intro hstored
      obtain ⟨hmem, -, hunsaved⟩ := processMsg_names h
      apply hadded
      have hagree : reply.device.mem.names 0 = reply.device.flash.names 0 := by
        apply hstored
        · simp
        · simp [Field.file, StrField.file]
      rw [hmem, hunsaved hsave] at hagree
      apply hagree

end Msg
