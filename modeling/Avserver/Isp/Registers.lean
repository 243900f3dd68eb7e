import Avserver.Library.Run
import Avserver.Msg.Boot
import Avserver.Msg.Effects
import Avserver.Msg.InRange
import Avserver.Msg.Loop
import Avserver.Msg.Restart

/-!
# The registers of the image processor

The brightness, the contrast and the like are kept in the configuration and in registers of the
image processor.  A request that changes one of them in the configuration writes it to its register,
unless the function that does so refuses the value; `init_isp` writes five of them when the camera
is started, and `infrad_ctrl` writes the saturation whenever it likes.  Nobody else does.

So in every state behind a start of the camera, a register has the last value that was not refused
among the one that `init_isp` has written and those that requests have stored since, of which the last
one is the value that is configured (`registers_agree`).  `init_isp` does not write the registers of
the scene and the mirror: they are as when the power was turned on until a request changes them.  The
register of the saturation is left out, as it has what `infrad_ctrl` has written last.
-/

namespace Isp

open Library
open Msg (BootEnv Branch Callee Contents Device Effect Env ImgField IntField Key Request atoi)

/-! ### The device -/

/-- The registers of the image processor that the configuration has values for, among those that the
requests write. -/
inductive Reg where
  | brightness | contrast | hue | saturation | sharpness | scene | mirror
deriving DecidableEq

/-- The values of the registers of the image processor, one for each `Reg`. -/
abbrev Regs := Reg → Int

/-- What the two calls of `ioctl` in a function yield: `get` of the one that reads a register, and
`set` of the one that writes to it. -/
structure Ioctl where
  get : Int
  set : Int

/-- The register `r` is read, to print its value, and then the value `val` is written to it, unless
one of the calls fails or the value is `refused`. -/
def adjust (r : Reg) (refused : Int → Bool) (io : Ioctl) (val : Int) (regs : Regs) : Int × Regs :=
  if io.get < 0 then (io.get, regs)
  else if refused val then (-1, regs)
  else (io.set, if io.set < 0 then regs else Function.update regs r val)

/-- The values `val` that do not fit into eight bits, which most of the functions refuse. -/
def outOfRange (val : Int) : Bool := val < 0 || val > 255

/-- `adjust_brightness` -/
def adjustBrightness : Ioctl → Int → Regs → Int × Regs := adjust .brightness outOfRange

/-- `adjust_contrast` -/
def adjustContrast : Ioctl → Int → Regs → Int × Regs := adjust .contrast outOfRange

/-- `adjust_hue` -/
def adjustHue : Ioctl → Int → Regs → Int × Regs := adjust .hue outOfRange

/-- `adjust_saturation` -/
def adjustSaturation : Ioctl → Int → Regs → Int × Regs := adjust .saturation outOfRange

/-- `adjust_shapness` -/
def adjustShapness : Ioctl → Int → Regs → Int × Regs := adjust .sharpness outOfRange

/-- `adjust_awb_scene_mode` -/
def adjustAwbSceneMode : Ioctl → Int → Regs → Int × Regs :=
  adjust .scene fun val => val < 0 || val ≥ 6

/-- `set_mirror`, which prints that a value other than 0 and 1 is invalid, and writes it all the
same. -/
def setMirror : Ioctl → Int → Regs → Int × Regs := adjust .mirror fun _ => false

/-- What opening and starting the device yields in `init_isp`, and the calls for each of the
registers. -/
structure InitIo where
  /-- whether the device file is there -/
  access : Bool
  openIsp : Int
  startIsp : Int
  ioctl : Reg → Ioctl

/-- `init_isp`, which writes the configured values of `m` to the registers; the power frequency,
which it also sets, is kept in no register of `Reg`. -/
def initIsp (io : InitIo) (m : Contents) (regs : Regs) : Int × Regs :=
  if io.access ∧ io.openIsp < 0 then (-1, regs)
  else if io.startIsp < 0 then (-1, regs)
  else
    let regs := (adjustBrightness (io.ioctl .brightness) (m.int (.img .brightness)) regs).2
    let regs := (adjustSaturation (io.ioctl .saturation) (m.int (.img .saturation)) regs).2
    let regs := (adjustHue (io.ioctl .hue) (m.int (.img .hue)) regs).2
    let regs := (adjustContrast (io.ioctl .contrast) (m.int (.img .contrast)) regs).2
    let regs := (adjustShapness (io.ioctl .sharpness) (m.int (.img .flip)) regs).2
    (0, regs)

/-- What a request does to the registers by one of its effects: each function that writes a register
writes its argument. -/
def call (io : Ioctl) : Effect → Regs → Regs
  | .call .adjustBrightness [val], regs => (adjustBrightness io val regs).2
  | .call .adjustContrast [val], regs => (adjustContrast io val regs).2
  | .call .adjustHue [val], regs => (adjustHue io val regs).2
  | .call .adjustSaturation [val], regs => (adjustSaturation io val regs).2
  | .call .adjustShapness [val], regs => (adjustShapness io val regs).2
  | .call .adjustAwbSceneMode [val], regs => (adjustAwbSceneMode io val regs).2
  | .call .setMirror [val], regs => (setMirror io val regs).2
  | _, regs => regs

/-- What a request does to the registers by all its effects, one after the other, where `io n` is
what the calls for the effect `n` yield. -/
def calls : (Nat → Ioctl) → List Effect → Regs → Regs
  | _, [], regs => regs
  | io, e :: es, regs => calls (fun n => io (n + 1)) es (call (io 0) e regs)

/-! ### The camera -/

/-- The configuration in `device`, the registers, and the `effects` of the requests since the camera
was started. -/
structure Camera where
  device : Device
  regs : Regs
  effects : List Effect

/-- A request is handled; `infrad_ctrl` writes the saturation; or the camera is started, with what
the registers have when the power is turned on. -/
inductive Input where
  | request (req : Request) (env : Env) (io : Nat → Ioctl)
  | saturation (val : Int) (io : Ioctl)
  | start (boot : BootEnv) (io : InitIo) (power : Regs)

/-- A step of the camera `c` with an input.  It has no result when a request or the start does not
come to an end. -/
def step (c : Camera) : Input → Option Camera
  | .request req env io =>
      match Msg.processMsg env req c.device with
      | .ok reply =>
          some ⟨reply.device, calls io reply.effects c.regs, c.effects ++ reply.effects⟩
      | .error _ => none
  | .saturation val io => some { c with regs := (adjustSaturation io val c.regs).2 }
  | .start boot io power =>
      match Msg.initSystem boot c.device.flash with
      | .ok b =>
          some ⟨⟨(Msg.avServer (Msg.rtspdStart boot b)).mem, c.device.flash⟩,
            (initIsp io b.mem power).2, []⟩
      | .error _ => none

/-- Both calls of `ioctl` succeed, the one that reads and the one that writes. -/
def Ioctl.Succeeds (io : Ioctl) : Prop := 0 ≤ io.get ∧ 0 ≤ io.set

/-- The calls that are made in the step succeed; in the call of `infrad_ctrl` nothing is asked of
them. -/
def Input.Succeeds : Input → Prop
  | .request _ _ io => ∀ n, (io n).Succeeds
  | .saturation _ _ => True
  | .start _ io _ =>
      (io.access = true → 0 ≤ io.openIsp) ∧ 0 ≤ io.startIsp ∧ ∀ r, (io.ioctl r).Succeeds

/-! ### The registers and their values -/

namespace Reg

/-- The member of the configuration in which the value of the register is stored. -/
def img : Reg → ImgField
  | .brightness => .brightness
  | .contrast => .contrast
  | .hue => .hue
  | .saturation => .saturation
  | .sharpness => .flip
  | .scene => .scene
  | .mirror => .mirror

/-- The key under which a request sets the value of the register. -/
def key : Reg → Key
  | .brightness => .brightness
  | .contrast => .contrast
  | .hue => .hue
  | .saturation => .saturation
  | .sharpness => .flip
  | .scene => .scene
  | .mirror => .mirror

/-- The function that writes the register when a request sets its value. -/
def callee : Reg → Callee
  | .brightness => .adjustBrightness
  | .contrast => .adjustContrast
  | .hue => .adjustHue
  | .saturation => .adjustSaturation
  | .sharpness => .adjustShapness
  | .scene => .adjustAwbSceneMode
  | .mirror => .setMirror

/-- The values that the function of the register refuses: those of the scene from 6 on, none for the
mirror, and otherwise those that are `outOfRange`. -/
def refused : Reg → Int → Bool
  | .scene => fun val => val < 0 || val ≥ 6
  | .mirror => fun _ => false
  | _ => outOfRange

/-- The functions that a request calls when it changes the value of the register `r`: its own, and
for the saturation the one that `infrad_ctrl` looks at. -/
def callees (r : Reg) : List Callee :=
  if r = .saturation then [.adjustSaturation, .setImgSaturation] else [r.callee]

/-- The branch of the key of the register `r` changes its value, marks the file of the image and
calls the `callees` of `r`. -/
theorem branch_key (r : Reg) :
  r.key.branch = .int (.field (.img r.img)) .imageAttr r.callees .nothing r.key
    (.field (.img r.img))
  := by
  cases r
  all_goals rfl

theorem call_callee (r : Reg) (io : Ioctl) (val : Int) (regs : Regs) :
  call io (.call r.callee [val]) regs = (adjust r r.refused io val regs).2
  := by
  cases r
  all_goals rfl

/-- An effect `e` that is no call of the function of the register `r` leaves `r` alone. -/
theorem call_other (r : Reg) (io : Ioctl) {e : Effect} (h : ∀ val, e ≠ .call r.callee [val])
    (regs : Regs) :
  call io e regs r = regs r
  := by
  have hother {q : Reg} {refused : Int → Bool} {val : Int} (hne : r ≠ q) :
      (adjust q refused io val regs).2 r = regs r := by
    unfold adjust
    split
    · rfl
    · split
      · rfl
      · dsimp only
        split
        · rfl
        · rw [Function.update_of_ne hne]
  have hne {q : Reg} {val : Int} (heq : e = .call q.callee [val]) : r ≠ q := by
    rintro rfl
    apply h _ heq
  unfold call
  split
  · apply hother (hne (q := .brightness) rfl)
  · apply hother (hne (q := .contrast) rfl)
  · apply hother (hne (q := .hue) rfl)
  · apply hother (hne (q := .saturation) rfl)
  · apply hother (hne (q := .sharpness) rfl)
  · apply hother (hne (q := .scene) rfl)
  · apply hother (hne (q := .mirror) rfl)
  · rfl

end Reg

/-! ### The functions that a branch calls -/

/-- The functions that a branch of `processMsg` may call, whatever the request. -/
def calleesOf : Branch → List Callee
  | .int _ _ callees _ _ _ => callees
  | .frameRate => [.setFps]
  | .bitRate => [.setBps]
  | .ipInterval => [.setIpInt]
  | .synchronizationPoint => [.setIFrame]
  | .fw => [.initIspPwFrequency]
  | .nvrOpt => [.setNvrSendStatus, .setIdrBr]
  | .nvrForIDR => [.setIdrBr]
  | .protocol => [.setProtocol]
  | _ => []

theorem mem_calleesOf
    {b : Branch} {value : List Char} {cursor : Msg.Cursor} {callee : Callee} {args : List Int}
    (h : b.Emits value cursor (.call callee args)) :
  callee ∈ calleesOf b
  := by
  cases b
  all_goals simp_all [Branch.Emits, calleesOf]

/-- The function that writes the register `r` is called by the branch of one key only, its own. -/
theorem eq_key_of_callee {r : Reg} {key : Key} (h : r.callee ∈ calleesOf key.branch) :
  key = r.key
  := by
  cases key
  all_goals
    first
    | exact absurd h List.not_mem_nil
    | (revert h
       cases r
       all_goals decide)

/-- The member of the image in which a branch stores its value, if it is one that does. -/
def imgOf : Branch → Option ImgField
  | .int (.field (.img g)) _ _ _ _ _ => some g
  | _ => none

/-- The value of the register `r` is stored by the branch of one key only, its own. -/
theorem eq_key_of_img {r : Reg} {key : Key} (h : imgOf key.branch = some r.img) : key = r.key := by
  cases key
  all_goals
    first
    | exact absurd (h.symm.trans (rfl : _ = none)) (Option.some_ne_none _)
    | (revert h
       cases r
       all_goals decide)

/-- A branch `b` that marks the file of the image, and no more than its own file, stores a number in
a member `g` of the image. -/
theorem branch_of_file
    {b : Branch} {cursor : Msg.Cursor} (hmarks : b.MarksItsFile)
    (h : b.file cursor = some .imageAttr) :
  ∃ g callees hook label shown, b = .int (.field (.img g)) .imageAttr callees hook label shown
  := by
  have henc (a : Msg.AvFile) : a.cfgFile ≠ .imageAttr := by
    cases a
    all_goals decide
  have hav (p : Prop) [Decidable p] :
      ¬ (if p then some cursor.avFile.cfgFile else none) = some Msg.CfgFile.imageAttr := by
    split
    · rw [Option.some_inj]
      apply henc
    · simp
  cases b with
  | int ref flag callees hook label shown =>
      obtain rfl := Option.some.inj h
      cases ref with
      | field f =>
          cases f with
          | img g => exact ⟨g, callees, hook, label, shown, rfl⟩
          | av a | ubs a => exact absurd (Option.some.inj hmarks) (henc a)
          | _ => simp [Branch.MarksItsFile, Msg.IntRef.file, IntField.file] at hmarks
      | _ => simp [Branch.MarksItsFile, Msg.IntRef.file] at hmarks
  | text f flag hook =>
      obtain rfl := Option.some.inj h
      cases f
      all_goals simp [Branch.MarksItsFile, Msg.StrField.file] at hmarks
  | chan | frameRate | bitRate | ipInterval => exact absurd h (hav _)
  | _ => simp [Branch.file] at h

/-- No branch `b` changes a number of the image, at the member `g`, without marking the file of the
image. -/
theorem not_loose (b : Branch) (cursor : Msg.Cursor) {g : ImgField} :
  ¬ b.loose cursor (.int (.img g))
  := by
  have henc (a : Msg.AvFile) : (Msg.Field.int (.img g)).file ≠ some a.cfgFile := by
    cases a
    all_goals simp [Msg.Field.file, IntField.file, Msg.AvFile.cfgFile]
  intro h
  cases b
  case frameRate | bitRate | ipInterval => exact henc _ h.2.2
  case macaddr | devtype => cases h.2
  case userName =>
    obtain ⟨-, i, hi⟩ := h
    cases hi
  all_goals cases h

/-! ### What a request does to a register -/

variable {r : Reg} {regs : Regs} {io : Ioctl} {s s' t : Msg.Session} {x : Msg.Item} {env : Env}

/-- What calls yield that succeed, the one that reads and the one that writes. -/
def success : Ioctl := ⟨0, 0⟩

/-- If the calls succeed, `adjust` writes the value `val` to the register `r`, unless it is
`refused`. -/
theorem adjust_succeeds (h : io.Succeeds) (refused : Int → Bool) (val : Int) :
  (adjust r refused io val regs).2 =
    if refused val then regs else Function.update regs r val
  := by
  unfold adjust
  rw [if_neg (Int.not_lt.mpr h.1), if_neg (Int.not_lt.mpr h.2)]
  split
  · rfl
  · rfl

/-- If the calls succeed, `adjust` for the register `r` changes only `r`, and another register `r'`
is as before. -/
theorem adjust_apply (h : io.Succeeds) (r' : Reg) (refused : Int → Bool) (val : Int) :
  (adjust r refused io val regs).2 r' =
    if r' = r then if refused val then regs r' else val else regs r'
  := by
  rw [adjust_succeeds h]
  split
  · rw [ite_self]
  · apply Function.update_apply

theorem success_succeeds : success.Succeeds := ⟨Int.le_refl 0, Int.le_refl 0⟩

theorem call_succeeds (h : io.Succeeds) (e : Effect) : call io e regs = call success e regs := by
  have hsame (r : Reg) (refused : Int → Bool) (val : Int) :
      (adjust r refused io val regs).2 = (adjust r refused success val regs).2 := by
    rw [adjust_succeeds h, adjust_succeeds success_succeeds]
  unfold call
  split
  case h_8 => rfl
  all_goals apply hsame

/-- The registers behind the effects `es`, when all the calls succeed. -/
def written (es : List Effect) (regs : Regs) : Regs :=
  es.foldl (fun regs e => call success e regs) regs

theorem calls_succeed {io : Nat → Ioctl} (h : ∀ n, (io n).Succeeds) (es : List Effect) :
  calls io es regs = written es regs
  := by
  induction es generalizing io regs with
  | nil => rfl
  | cons e es ih => rw [calls, call_succeeds (h 0), ih fun n => h (n + 1), written, written,
      List.foldl_cons]

/-! ### The values that a register is given -/

namespace Reg

/-- What the register `r` holds behind a call of its function for the value `val`, when it has held
`old`: a value that is refused leaves it. -/
def accept (r : Reg) (old val : Int) : Int := if r.refused val then old else val

/-- The value for which an effect calls the function that writes the register `r`, if it is such a
call. -/
def argument (r : Reg) : Effect → Option Int
  | .call callee [val] => if callee = r.callee then some val else none
  | _ => none

/-- The values for which the effects `es` call the function that writes the register `r`, in their
order. -/
def arguments (r : Reg) (es : List Effect) : List Int := es.filterMap r.argument

/-- The value that is configured in `m` for the register `r`. -/
def value (r : Reg) (m : Contents) : Int := m.int (.img r.img)

theorem arguments_append (es es' : List Effect) :
  r.arguments (es ++ es') = r.arguments es ++ r.arguments es'
  := List.filterMap_append

/-- Effects `es` among which there is no call of the function of the register `r` have no
`arguments` for it. -/
theorem arguments_eq_nil {es : List Effect} (h : ∀ e ∈ es, ∀ args, e ≠ .call r.callee args) :
  r.arguments es = []
  := by
  apply List.filterMap_eq_nil_iff.mpr
  intro e he
  unfold argument
  split
  · apply if_neg
    rintro rfl
    apply h _ he _ rfl
  · rfl

/-- The functions that a request calls when it changes the value of `r` to `val` write `val` to the
register once. -/
theorem arguments_callees (val : Int) :
  r.arguments (r.callees.map fun callee => .call callee [val]) = [val]
  := by
  cases r
  all_goals rfl

/-- An effect `e` whose calls succeed gives the register `r` its argument, accepted or refused, and
leaves it alone if it has none for it. -/
theorem call_apply (e : Effect) :
  call success e regs r = (r.argument e).toList.foldl r.accept (regs r)
  := by
  by_cases h : ∃ val, e = .call r.callee [val]
  · obtain ⟨val, rfl⟩ := h
    rw [r.call_callee, adjust_succeeds success_succeeds, argument, if_pos rfl]
    change _ = r.accept (regs r) val
    unfold accept
    split
    · rfl
    · rw [Function.update_self]
  · have hnone : r.argument e = none := by
      unfold argument
      split
      · next callee val =>
          apply if_neg
          rintro rfl
          apply h ⟨val, rfl⟩
      · rfl
    rw [hnone, r.call_other success fun val heq => h ⟨val, heq⟩]
    rfl

/-- Behind the effects `es`, whose calls succeed, the register `r` has accepted or refused each of
their `arguments`, in order. -/
theorem written_apply (es : List Effect) :
  written es regs r = (r.arguments es).foldl r.accept (regs r)
  := by
  induction es generalizing regs with
  | nil => rfl
  | cons e es ih =>
      rw [written, List.foldl_cons]
      apply ih.trans
      rw [call_apply, ← List.foldl_append, arguments, arguments, List.filterMap_cons]
      cases r.argument e with
      | none => rfl
      | some val => rfl

end Reg

/-- The register `r` holds the value that is configured for it in `m`, if that is one that its
function does not refuse. -/
def Agrees (r : Reg) (m : Contents) (regs : Regs) : Prop :=
  r.refused (r.value m) = false → regs r = r.value m

/-- The contents have gone from `m` to `m'`, and the value of a register along with the values that the
effects `es` have given it. -/
def Follows (r : Reg) (m m' : Contents) (es : List Effect) : Prop :=
  r.value m' = (r.arguments es).getLastD (r.value m)

theorem Follows.nil (r : Reg) (m : Contents) : Follows r m m [] := rfl

theorem Follows.append {m m' m'' : Contents} {es es' : List Effect} (h : Follows r m m' es)
    (h' : Follows r m' m'' es') :
  Follows r m m'' (es ++ es')
  := by
  unfold Follows at h h' ⊢
  rw [h', h, Reg.arguments_append]
  simp [Option.getD_or]

/-- If the value of the register `r` is the same in `m` and `m'`, and none of the effects `es` gives
it a value, then its value `Follows`. -/
theorem Follows.of_eq {m m' : Contents} {es : List Effect} (h : r.value m' = r.value m)
    (hes : ∀ e ∈ es, ∀ args, e ≠ .call r.callee args) :
  Follows r m m' es
  := by
  unfold Follows
  rw [Reg.arguments_eq_nil hes]
  apply h

/-- A branch that stores a number at the member `g` of the image sets it and calls its `callees`
with it, or does nothing to the memory and has no effects. -/
theorem intBranch_does
    {g : ImgField} {flag : Msg.CfgFile} {callees : List Callee} {hook : Msg.Hook} {label : Key}
    {shown : Msg.IntRef} {value : List Char}
    (h : Msg.intBranch (.field (.img g)) flag callees hook label shown value s = .ok s') :
  (s'.mem = s.mem.setInt (.img g) (atoi value)
    ∧ s'.effects = s.effects ++ callees.map fun callee => .call callee [atoi value])
  ∨ (s'.mem = s.mem ∧ s'.effects = s.effects)
  := by
  obtain ⟨-, h⟩ | ⟨-, h | rfl⟩ := Msg.onCmd_set_or h
  · obtain ⟨f, hf, h⟩ := bind_ok.mp h
    obtain rfl := Except.ok.inj hf
    split at h
    · obtain rfl := Except.ok.inj h
      left
      rw [Msg.Hook.run_effects]
      constructor
      · apply (Msg.Hook.run_mem hook).trans
        apply Msg.calls_mem
      · rw [Msg.Session.setFileChanged, Msg.Session.calls_eq]
        simp [Msg.Session.setInt, Contents.int_setInt, IntField.cast]
    · obtain rfl := Except.ok.inj h
      exact Or.inr ⟨rfl, rfl⟩
  · right
    obtain ⟨f, -, h⟩ := bind_ok.mp h
    have hstores : Msg.Stores (fun _ => False) s s' := Msg.Session.reply_stores h
    constructor
    · funext f
      apply hstores.mem f id
    · apply Msg.Adds.effects_eq (Msg.reply_adds s' h)
  · exact Or.inr ⟨rfl, rfl⟩

/-- An item `x` of a request changes the configured value of a register `r` together with the
register: its effects follow the change. -/
theorem item_follows (hc : s.cursor = x.cursor) (h : x.run env s = .ok s') (r : Reg) :
  ∃ es, s'.effects = s.effects ++ es ∧ Follows r s.mem s'.mem es
  := by
  by_cases hkey : x.key = r.key
  · rw [Msg.Item.run, hkey, r.branch_key] at h
    obtain ⟨hmem, heffects⟩ | ⟨hmem, heffects⟩ := intBranch_does h
    · refine ⟨_, heffects, ?_⟩
      rw [Follows, r.arguments_callees, Reg.value, hmem, Contents.int_setInt, if_pos rfl]
      rfl
    · refine ⟨[], heffects.trans (List.append_nil _).symm, ?_⟩
      rw [hmem]
      apply Follows.nil
  · obtain ⟨es, hes, hemits⟩ := Msg.Item.run_adds hc h
    refine ⟨es, hes, ?_⟩
    apply Follows.of_eq
    · have hmem : s'.mem (.int (.img r.img)) = s.mem (.int (.img r.img)) := by
        by_cases hfile : x.key.branch.file s.cursor = some .imageAttr
        · obtain ⟨g, callees, hook, label, shown, hbranch⟩ :=
            branch_of_file x.key.marksItsFile hfile
          have hne : r.img ≠ g := by
            rintro rfl
            apply hkey
            apply eq_key_of_img
            rw [hbranch]
            rfl
          rw [Msg.Item.run, hbranch] at h
          obtain ⟨hmem, -⟩ | ⟨hmem, -⟩ := intBranch_does h
          · rw [hmem]
            apply Contents.setInt_of_ne
            intro heq
            apply hne
            injection heq with heq
            injection heq
          · rw [hmem]
        · apply Branch.run_untouched x.key.marksItsFile _ (not_loose _ _) _ h
          · rintro file hfile' heq
            obtain rfl := Option.some.inj heq
            revert hfile'
            decide
          · rintro file hfile' heq
            apply hfile
            rw [hfile', ← heq]
            rfl
      apply hmem
    · rintro e he args rfl
      apply hkey
      apply eq_key_of_callee
      apply mem_calleesOf (hemits _ he)

/-! ### Requests -/

/-- What follows the loop of `processMsg`, `finish`, leaves the value of the register `r` alone, and
has no effect on the register. -/
theorem finish_follows (h : Msg.finish env t = .ok s) (r : Reg) :
  ∃ es, s.effects = t.effects ++ es ∧ Follows r t.mem s.mem es
  := by
  obtain ⟨s₁, s₂, htouches, hstores, hmem, -⟩ := Msg.finish_ok h
  obtain ⟨es, hes, hfinishes⟩ := Msg.finish_adds h
  refine ⟨es, hes, ?_⟩
  apply Follows.of_eq
  · have hpreset : s₁.mem (.int (.img r.img)) = t.mem (.int (.img r.img)) := by
      apply htouches.mem id
      rintro c hc heq
      obtain rfl := Option.some.inj hc
      cases heq
    have hosd : s₂.mem (.int (.img r.img)) = s₁.mem (.int (.img r.img)) := by
      apply hstores.mem
      rintro ⟨-, heq⟩
      cases heq
    rw [Reg.value, hmem]
    apply hosd.trans hpreset
  · rintro e he args rfl
    apply hfinishes _ he

/-- A request that is answered changes the configured value of a register `r` together with the
register: its effects follow the change. -/
theorem request_follows
    {req : Request} {d : Device} {reply : Msg.Reply} (h : Msg.processMsg env req d = .ok reply)
    (r : Reg) :
  Follows r d.mem reply.device.mem reply.effects
  := by
  obtain ⟨t, ht, h⟩ := bind_ok.mp h
  obtain ⟨s, hs, h⟩ := bind_ok.mp h
  obtain rfl := Except.ok.inj h
  have hloop : Follows r d.mem t.mem t.effects := by
    apply Msg.processPairs_invariant (I := fun s => Follows r d.mem s.mem s.effects) _ ht
      (Msg.start_at env d) (Follows.nil r d.mem)
    intro s x s' _ hc hs hx
    obtain ⟨es, hes, hitem⟩ := item_follows hc hx r
    rw [hes]
    apply hs.append hitem
  obtain ⟨es, hes, hfinish⟩ := finish_follows hs r
  change Follows r d.mem s.mem s.effects
  rw [hes]
  apply hloop.append hfinish

/-! ### The start -/

/-- The registers that `init_isp` writes: all but those of the scene and the mirror. -/
def Reg.Written (r : Reg) : Prop := r ≠ .scene ∧ r ≠ .mirror

instance (r : Reg) : Decidable r.Written := inferInstanceAs (Decidable (_ ∧ _))

/-- What a register has behind the start: the value that is configured, if `init_isp` writes it and
does not refuse that, and else what it had when the power was turned on. -/
def Reg.started (r : Reg) (m : Contents) (power : Regs) : Int :=
  if r.Written then r.accept (power r) (r.value m) else power r

/-- If its calls succeed, `initIsp` leaves in the register `r` what `Reg.started` says: the
configured value, or what was there, for the scene, the mirror and a value that is refused. -/
theorem initIsp_apply
    {io : InitIo} (hopen : io.access = true → 0 ≤ io.openIsp) (hstart : 0 ≤ io.startIsp)
    (hio : ∀ r, (io.ioctl r).Succeeds) (m : Contents) (r : Reg) :
  (initIsp io m regs).2 r = r.started m regs
  := by
  have hnotopen : ¬ (io.access ∧ io.openIsp < 0) := by
    rintro ⟨haccess, hneg⟩
    apply Int.not_lt.mpr (hopen haccess) hneg
  unfold initIsp
  rw [if_neg hnotopen, if_neg (Int.not_lt.mpr hstart)]
  simp only [adjustBrightness, adjustSaturation, adjustHue, adjustContrast, adjustShapness,
    adjust_apply (hio _)]
  cases r
  all_goals rfl

/-! ### Runs -/

variable {c c₀ c₁ c' : Camera} {input : Input} {inputs : List Input} {boot : BootEnv} {init : InitIo}
  {power : Regs}

/-- The input is not a start of the camera, so the camera goes on. -/
def Input.GoesOn : Input → Prop
  | .start _ _ _ => False
  | _ => True

/-- Behind a start of the camera whose calls succeed, the register `r` holds what `Reg.started`
says, and no request has had an effect yet. -/
theorem start_regs (h : step c₀ (.start boot init power) = some c₁)
    (hio : (Input.start boot init power).Succeeds) (r : Reg) :
  c₁.regs r = r.started c₁.device.mem power ∧ c₁.effects = []
  := by
  rw [step] at h
  split at h
  · next b _ =>
      obtain rfl := Option.some.inj h
      have hvalue : r.value (Msg.avServer (Msg.rtspdStart boot b)).mem = r.value b.mem := by
        have hserver : (Msg.avServer (Msg.rtspdStart boot b)).mem (.int (.img r.img))
            = (Msg.rtspdStart boot b).mem (.int (.img r.img)) := by
          apply Msg.avServer_differ
          rintro ⟨g, hg⟩
          injection hg with hg
          cases hg
        apply hserver.trans
        have hfile : (Msg.Field.int (.img r.img)).file = some .imageAttr := rfl
        apply Msg.rtspdStart_mem hfile
        decide
      refine ⟨?_, rfl⟩
      rw [Reg.started, hvalue]
      apply initIsp_apply hio.1 hio.2.1 hio.2.2
  · contradiction

/-- What is kept from the start `c₁` of the camera to `c`: the register `r` has been given the
values that the requests have stored since, and its configured value is the last of them. -/
structure Kept (r : Reg) (c₁ c : Camera) : Prop where
  regs : c.regs r = (r.arguments c.effects).foldl r.accept (c₁.regs r)
  value : Follows r c₁.device.mem c.device.mem c.effects

/-- A step that goes on from `c`, and whose calls succeed, keeps `Kept` for every register `r` but
that of the saturation, which `infrad_ctrl` writes as well. -/
theorem Kept.step
    (hr : r ≠ .saturation) (h : Kept r c₁ c) (hio : input.Succeeds) (hgoes : input.GoesOn)
    (hstep : step c input = some c') :
  Kept r c₁ c'
  := by
  cases input with
  | request req env io =>
      rw [Isp.step] at hstep
      split at hstep
      · next reply hreply =>
          obtain rfl := Option.some.inj hstep
          constructor
          · dsimp only
            rw [calls_succeed hio, Reg.written_apply, h.regs, Reg.arguments_append,
              List.foldl_append]
          · apply h.value.append (request_follows hreply r)
      · contradiction
  | saturation val io =>
      obtain rfl := Option.some.inj hstep
      refine ⟨?_, h.value⟩
      apply Eq.trans _ h.regs
      apply r.call_other io (e := .call .adjustSaturation [val])
      rintro args heq
      apply hr
      cases r
      all_goals
        first
        | rfl
        | cases heq
  | start boot io power => exact hgoes.elim

/-- Once some request has given the register `r` a value, it `Agrees` with the configuration. -/
theorem Kept.agrees (h : Kept r c₁ c) (hne : r.arguments c.effects ≠ []) :
  Agrees r c.device.mem c.regs
  := by
  obtain ⟨vals, val, hvals⟩ := (List.eq_nil_or_concat' _).resolve_left hne
  have hvalue := h.value
  have hregs := h.regs
  rw [Follows, hvals, List.getLastD_concat] at hvalue
  rw [hvals, List.foldl_append] at hregs
  intro hallowed
  rw [hregs]
  rw [hvalue] at hallowed ⊢
  apply if_neg
  rw [hallowed]
  simp

/-- In every state behind a start of the camera, whatever requests have been handled and whenever
`infrad_ctrl` has written the saturation, a register other than that of the saturation has the last
value that was not refused: of those that the requests have stored since the start, and else of
`init_isp`, and else what it had when the power was turned on.  The value that is configured is the
last one stored.  So the registers of the brightness, the contrast, the hue and the sharpness have the
configured values, where those are not refused; and so have those of the scene and the mirror, once
they have been changed. -/
theorem registers_agree
    (hstart : step c₀ (.start boot init power) = some c₁)
    (hio : (Input.start boot init power).Succeeds)
    (hrun : Run step (fun _ input => input.Succeeds ∧ input.GoesOn) c₁ inputs c)
    (hr : r ≠ .saturation) :
  c.regs r = (r.arguments c.effects).foldl r.accept (r.started c₁.device.mem power)
  ∧ r.value c.device.mem = (r.arguments c.effects).getLastD (r.value c₁.device.mem)
  ∧ (r.Written ∨ r.arguments c.effects ≠ [] → Agrees r c.device.mem c.regs)
  := by
  obtain ⟨hregs, heffects⟩ := start_regs hstart hio r
  have hkept : Kept r c₁ c := by
    apply hrun.invariant (I := Kept r c₁)
    · rintro c input c' hkept ⟨hio, hgoes⟩ hstep
      apply hkept.step hr hio hgoes hstep
    · constructor
      · rw [heffects]
        rfl
      · rw [heffects]
        apply Follows.nil
  refine ⟨hregs ▸ hkept.regs, hkept.value, ?_⟩
  intro hwritten
  by_cases hnil : r.arguments c.effects = []
  · have hwritten := hwritten.resolve_right (not_not.mpr hnil)
    have hvalue := hkept.value
    have hsame := hkept.regs
    rw [Follows, hnil] at hvalue
    rw [hnil, hregs, Reg.started, if_pos hwritten] at hsame
    intro hallowed
    rw [hsame]
    rw [hvalue] at hallowed ⊢
    apply if_neg
    rw [show r.refused (r.value c₁.device.mem) = false from hallowed]
    simp
  · apply hkept.agrees hnil

/-- A request with the type `T_Set` that sets the brightness to `value`. -/
def brightnessRequest (value : String) : Request :=
  [(Msg.decimal Key.type.code, "1".toList), (Msg.decimal Key.brightness.code, value.toList)]

theorem brightness_goes (value : String) :
  let input := Input.request (brightnessRequest value) .idle fun _ => success
  input.Succeeds ∧ input.GoesOn
  :=
  ⟨fun _ => success_succeeds, trivial⟩

/-- The camera is started; one request sets the brightness 80, and another one 300, which is stored
but refused by the register, so it holds 80 still. -/
theorem registers_agree_brightness :
  ∃ c : Camera, c.device.mem.int (.img .brightness) = 300 ∧ c.regs .brightness = 80
  := by
  have hrun : ((step ⟨.blank, fun _ => 0, []⟩
      (.start .idle ⟨true, 3, 0, fun _ => success⟩ fun _ => 7)).bind fun c₁ =>
      (step c₁ (.request (brightnessRequest "80") .idle fun _ => success)).bind fun c₂ =>
      step c₂ (.request (brightnessRequest "300") .idle fun _ => success)).any
      (fun c => Reg.brightness.arguments c.effects = [80, 300]) = true := by decide +kernel
  obtain ⟨c, hrun, hc⟩ := (Option.any_eq_true _ _).mp hrun
  obtain ⟨c₁, hstart, hrun⟩ := Option.bind_eq_some_iff.mp hrun
  obtain ⟨c₂, hset, hrefused⟩ := Option.bind_eq_some_iff.mp hrun
  obtain ⟨hregs, hvalue, -⟩ := registers_agree (r := .brightness) hstart
    ⟨fun _ => by decide, by decide, fun _ => success_succeeds⟩
    (Run.cons (brightness_goes "80") hset (Run.cons (brightness_goes "300") hrefused (Run.nil c)))
    (by decide)
  rw [of_decide_eq_true hc] at hregs hvalue
  exact ⟨c, hvalue, hregs⟩

end Isp
