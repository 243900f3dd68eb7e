import Avserver.Msg.Process

/-!
# What a step of a session may change

The steps of which the branches are composed change fields in memory (`Stores`), or change
fields of one file and mark the file (`Marks`).  A step that does the one or the other
`Touches` the file; the fields that it changes without marking their file are its `loose`
fields.  Besides, a step may set the variables by which later pairs are understood, the
`Cursor`.
-/

namespace Msg

open Library

/-! ### The cursor -/

/-- The variables of `processMsg` by which the pairs of a request are understood. -/
structure Cursor where
  cmdType : Int
  ylSet : Bool
  channel : Int
  subChannel : Int
  index : Int
deriving DecidableEq

/-- The cursor with which every request starts, as the variables are initialised. -/
def Cursor.start : Cursor := ⟨-1, false, -1, 0, -1⟩

/-- The encoder configuration of the channel that is selected at the cursor `c`. -/
def Cursor.avFile (c : Cursor) : AvFile := if c.channel = 0 then .av0 else .av1

/-- The cursor of the session `s`, made up of its variables. -/
def Session.cursor (s : Session) : Cursor :=
  ⟨s.cmdType, s.ylSet, s.channel, s.subChannel, s.index⟩

/-- The session `s` with the variables of the cursor `c`. -/
def Session.point (s : Session) (c : Cursor) : Session where
  __ := s
  cmdType := c.cmdType
  ylSet := c.ylSet
  channel := c.channel
  subChannel := c.subChannel
  index := c.index

/-! ### Steps that change fields and nothing else -/

/-- From `s` to `s'` at most fields with `P` are changed, in memory; no file is marked. -/
structure Stores (P : Field → Prop) (s s' : Session) : Prop where
  cursor : s'.cursor = s.cursor
  flash : s'.flash = s.flash
  flag : s'.fileChangedFlag = s.fileChangedFlag
  osdCfg : s'.osdCfg = s.osdCfg
  mem : ∀ f, ¬ P f → s'.mem f = s.mem f

variable {s s' s₁ : Session} {P Q : Field → Prop}

namespace Stores

theorem refl (s : Session) : Stores P s s := ⟨rfl, rfl, rfl, rfl, fun _ _ => rfl⟩

theorem trans (h : Stores P s s₁) (h' : Stores P s₁ s') : Stores P s s' where
  cursor := h'.cursor.trans h.cursor
  flash := h'.flash.trans h.flash
  flag := h'.flag.trans h.flag
  osdCfg := h'.osdCfg.trans h.osdCfg
  mem := fun f hf => (h'.mem f hf).trans (h.mem f hf)

theorem mono (h : Stores P s s') (hPQ : ∀ f, P f → Q f) : Stores Q s s' :=
  ⟨h.cursor, h.flash, h.flag, h.osdCfg, fun f hf => h.mem f fun hP => hf (hPQ f hP)⟩

/-- A step that `Stores` fields with `P` does so with a step behind it that changes no field. -/
theorem quiet (h : Stores P s s₁) (h' : Stores (fun _ => False) s₁ s') : Stores P s s' :=
  h.trans (h'.mono fun _ => False.elim)

theorem after_quiet (h : Stores (fun _ => False) s s₁) (h' : Stores P s₁ s') : Stores P s s' :=
  (h.mono fun _ => False.elim).trans h'

end Stores

/-- The variables that are of no account for `Stores` may change. -/
theorem Session.other_stores
    (s : Session) (osdRegion index1 : Int) (i : Nat) (ifCfg : Bool) (ntpserverCfg reboot : Nat)
    (vx vy : Option (List Char)) (ptzpresetIndex : Int) (ptzPresetIn : Nat)
    (ptzPresetName : List Char) (ret : Nat) (pRet : List Answer) (effects : List Effect) :
  Stores P s { s with
    osdRegion, index1, i, ifCfg, ntpserverCfg, reboot, vx, vy, ptzpresetIndex, ptzPresetIn,
    ptzPresetName, ret, pRet, effects }
  := ⟨rfl, rfl, rfl, rfl, fun _ _ => rfl⟩

/-- The memory may change in fields with `P`: this is what `Stores` allows. -/
theorem Session.mem_stores {mem : Contents} (h : ∀ f, ¬ P f → mem f = s.mem f) :
  Stores P s { s with mem }
  := ⟨rfl, rfl, rfl, rfl, h⟩

theorem Session.setInt_stores (s : Session) (f : IntField) (v : Int) :
  Stores (· = .int f) s (s.setInt f v)
  := Session.mem_stores fun _ hg => Contents.setInt_of_ne hg

theorem Session.setText_stores {f : StrField} {v : List Char} (h : s.setText f v = .ok s') :
  Stores (· = .str f) s s'
  := by
  obtain ⟨buf, -, h⟩ := bind_ok.mp h
  obtain rfl := Except.ok.inj h
  apply Session.mem_stores
  intro g hg
  apply Contents.setStr_of_ne hg

theorem Session.effect_stores (s : Session) (e : Effect) : Stores P s (s.effect e) :=
  s.other_stores ..

theorem Session.calls_stores (s : Session) (callees : List Callee) (f : IntField) :
  Stores P s (s.calls callees f)
  := by
  rw [Session.calls_eq]
  exact s.other_stores ..

theorem Session.answer_stores {key : Key} {t : List Char} (h : s.answer key t = .ok s') :
  Stores P s s'
  := by
  unfold Session.answer at h
  split at h
  · obtain rfl := Except.ok.inj h
    exact s.other_stores ..
  · contradiction

theorem Session.answers_stores {as : List Answer} (h : s.answers as = .ok s') : Stores P s s' := by
  unfold Session.answers at h
  split at h
  · obtain rfl := Except.ok.inj h
    exact s.other_stores ..
  · contradiction

theorem Session.reply_stores {key : Key} {t : List Char} (h : s.reply key t = .ok s') :
  Stores P s s'
  := by
  have hret : Stores P s { s with ret := s.ret + 1 } := s.other_stores ..
  apply hret.trans (Session.answer_stores h)

theorem Hook.run_stores (hook : Hook) (s : Session) : Stores P s (hook.run s) := by
  cases hook
  all_goals exact s.other_stores ..

theorem calls_mem (callees : List Callee) (f : IntField) : (s.calls callees f).mem = s.mem := by
  rw [Session.calls_eq]

theorem Hook.run_mem (hook : Hook) : (hook.run s).mem = s.mem := by
  cases hook
  all_goals rfl

/-! ### Steps that mark a file -/

/-- From `s` to `s'` the fields of one `file` may be changed, and the file is marked. -/
structure Marks (file : CfgFile) (s s' : Session) : Prop where
  cursor : s'.cursor = s.cursor
  flash : s'.flash = s.flash
  flag : s'.fileChangedFlag = setFileChanged s.fileChangedFlag file
  osdCfg : s'.osdCfg = true → s.osdCfg = true ∨ file = .overlayCfg
  mem : ∀ f, f.file ≠ some file → s'.mem f = s.mem f

/-- A step that stores fields of the `file`, and then marks it, has `Marks`. -/
theorem Stores.marks
    {file : CfgFile} (h : Stores P s s₁) (hP : ∀ f, P f → f.file = some file)
    (h' : Stores (fun _ => False) (s₁.setFileChanged file) s') :
  Marks file s s'
  := by
  constructor
  · apply h'.cursor.trans h.cursor
  · apply h'.flash.trans h.flash
  · rw [h'.flag, ← h.flag]
    rfl
  · intro hosd
    rw [h'.osdCfg] at hosd
    apply Or.inl
    rw [← h.osdCfg]
    apply hosd
  · intro f hf
    rw [h'.mem f (fun hfalse => hfalse)]
    apply h.mem
    intro hPf
    apply hf (hP f hPf)

/-- A step that replaces the memory by one that differs in fields of the `file`, and then marks it,
has `Marks`. -/
theorem Session.mem_marks
    {file : CfgFile} {mem : Contents} (h : ∀ f, f.file ≠ some file → mem f = s.mem f)
    (h' : Stores (fun _ => False) ({ s with mem }.setFileChanged file) s') :
  Marks file s s'
  := by
  have hstores : Stores (fun f => f.file = some file) s { s with mem } := Session.mem_stores h
  apply hstores.marks _ h'
  intro f hf
  apply hf

/-- A step that `Marks` the file does so with a step behind it that changes no field. -/
theorem Marks.quiet
    {file : CfgFile} (h : Marks file s s₁) (h' : Stores (fun _ => False) s₁ s') :
  Marks file s s'
  := by
  constructor
  · apply h'.cursor.trans h.cursor
  · apply h'.flash.trans h.flash
  · apply h'.flag.trans h.flag
  · intro hosd
    apply h.osdCfg
    rw [← h'.osdCfg]
    apply hosd
  · intro f hf
    apply (h'.mem f (fun hfalse => hfalse)).trans (h.mem f hf)

/-- A step that `Marks` the overlay file may note that a region has been changed. -/
theorem Marks.osd (h : Marks .overlayCfg s s₁) : Marks .overlayCfg s { s₁ with osdCfg := true } :=
  ⟨h.cursor, h.flash, h.flag, fun _ => Or.inr rfl, h.mem⟩

/-- From `s` to `s'` the fields with `loose` may be changed, or the fields of the `file`, which is
then marked. -/
def Touches (file : Option CfgFile) (loose : Field → Prop) (s s' : Session) : Prop :=
  Stores loose s s' ∨ ∃ c, file = some c ∧ Marks c s s'

theorem Touches.stores
    {file : Option CfgFile} {loose : Field → Prop} (h : Stores loose s s') :
  Touches file loose s s'
  := Or.inl h

theorem Touches.marks
    {file : CfgFile} {loose : Field → Prop} (h : Marks file s s') :
  Touches (some file) loose s s'
  := Or.inr ⟨file, rfl, h⟩

theorem Touches.refl {file : Option CfgFile} {loose : Field → Prop} (s : Session) :
  Touches file loose s s
  := Touches.stores (Stores.refl s)

theorem Touches.cursor
    {file : Option CfgFile} {loose : Field → Prop} (h : Touches file loose s s') :
  s'.cursor = s.cursor
  := by
  obtain h | ⟨c, -, h⟩ := h
  · apply h.cursor
  · apply h.cursor

theorem Touches.flash
    {file : Option CfgFile} {loose : Field → Prop} (h : Touches file loose s s') :
  s'.flash = s.flash
  := by
  obtain h | ⟨c, -, h⟩ := h
  · apply h.flash
  · apply h.flash

/-- A field `f` that is neither loose nor of the file is left alone by a step that `Touches`. -/
theorem Touches.mem
    {file : Option CfgFile} {loose : Field → Prop} (h : Touches file loose s s') {f : Field}
    (hloose : ¬ loose f) (hfile : ∀ c, file = some c → f.file ≠ some c) :
  s'.mem f = s.mem f
  := by
  obtain h | ⟨c, hc, h⟩ := h
  · apply h.mem f hloose
  · apply h.mem f (hfile c hc)

/-- A step that `Touches` changes no mark but that of the file. -/
theorem Touches.flag_of_ne
    {file : Option CfgFile} {loose : Field → Prop} (h : Touches file loose s s') {c : CfgFile}
    (hc : file ≠ some c) :
  isSetFileChanged s'.fileChangedFlag c = isSetFileChanged s.fileChangedFlag c
  := by
  obtain h | ⟨c', rfl, h⟩ := h
  · rw [h.flag]
  · have hne : c' ≠ c := fun heq => hc (congrArg some heq)
    simp [h.flag, hne]

/-- A file `c` that is marked stays marked in a step that `Touches`. -/
theorem Touches.marked
    {file : Option CfgFile} {loose : Field → Prop} (h : Touches file loose s s') {c : CfgFile}
    (hc : isSetFileChanged s.fileChangedFlag c = true) :
  isSetFileChanged s'.fileChangedFlag c = true
  := by
  obtain h | ⟨c', rfl, h⟩ := h
  · rw [h.flag, hc]
  · simp [h.flag, hc]

end Msg
