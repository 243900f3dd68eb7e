import Avserver.Library.Run
import Avserver.Library.WriteLog
import Avserver.Msg.Encoder

/-!
# The streams that are enabled

A stream can run with a frame rate that is at least 1 and a bit rate that is not negative.  The
keys for the two store no others.  The key that enables a stream does not look at them, though,
and a stream that has been disabled so far may have any.

A request is a log of writes to the numbers of the encoder configurations (`Device.log`), and
what they are behind it is what the log says (`processPairs_number`).  So the enabled streams can
run behind a request if they could before it, and if it enables a stream only with rates that it
sets too, or that the stream can run with (`processMsg_runs_iff`).
-/

namespace Msg

open Library

variable {env : Env} {req : Request} {d : Device} {s s' t : Session} {a : AvFile} {x : Item}

/-! ### A request as a log -/

/-- What an item `x` does to the numbers of the encoder configurations, as an entry of a log: it
sets one, or sets them all back. -/
def Item.entry (x : Item) : LogEntry IntField Int :=
  if x.Restores then .reset
  else match x.write with
    | some (f, v) => .set f v
    | none => .other

/-- What the items of a request do to the numbers of the encoder configurations, one entry for each
of them. -/
def Device.log (d : Device) (req : Request) : List (LogEntry IntField Int) :=
  (d.items req).map Item.entry

/-- An item `x` has the effect of its entry on the numbers of the encoder configurations. -/
theorem Item.run_entry
    {m : IntField → Int} (hm : ∀ a : AvFile, ∀ f, f.file = some a.cfgFile → s.mem.int f = m f)
    (hc : s.cursor = x.cursor) (h : x.run env s = .ok s') :
  ∀ a : AvFile, ∀ f, f.file = some a.cfgFile →
    s'.mem.int f = x.entry.apply env.defaults.int m f
  := by
  intro a f hf
  obtain ⟨hnone, hnot, hsame⟩ | ⟨g, v, hwrite, hnot, hsets⟩ | ⟨-, hrestores, hresets⟩ :=
    Item.run_enc hc h
  · rw [Item.entry, if_neg hnot, hnone]
    exact ((hsame a).mem (.int f) hf).trans (hm a f hf)
  · rw [Item.entry, if_neg hnot, hwrite]
    by_cases hfg : f = g
    · subst hfg
      simp [LogEntry.apply, hsets.mem_self]
    · simp only [LogEntry.apply, Function.update_of_ne hfg]
      rw [← hm a f hf]
      apply hsets.mem_of_ne (.int f)
      intro heq
      apply hfg (Field.int.inj heq)
  · rw [Item.entry, if_pos hrestores]
    apply (hresets.enc (f := .int f) hf).1

/-- Behind the loop over the pairs, a number `f` of an encoder configuration is what the log of the
request leaves of it. -/
theorem processPairs_number (h : processPairs env req (.start env d) = .ok t) :
  ∀ a : AvFile, ∀ f, f.file = some a.cfgFile →
    t.mem.int f = replay env.defaults.int d.mem.int (d.log req) f
  := by
  rw [replay, Device.log, List.foldl_map]
  apply processPairs_follows (g := fun m x => x.entry.apply env.defaults.int m)
    (R := fun t m => ∀ a : AvFile, ∀ f, f.file = some a.cfgFile → t.mem.int f = m f)
    _ h (start_at env d)
  · intro a f _
    rfl
  · intro s m x s' _ hc hm hrun
    apply Item.run_entry hm hc hrun

/-! ### The rates that are set -/

/-- No `key` but their own ones sets the frame rate or the bit rate of a stream. -/
theorem Key.branch_ne_rate
    (key : Key) {f : UbsField} (hf : f = .frameRate ∨ f = .bitRate) :
  key.branch ≠ .chan (.ubs f)
  := by
  intro h
  obtain rfl | rfl := hf
  · cases key
    all_goals cases h
  · cases key
    all_goals cases h

/-- If the entry of an item gives the number `f` the value `v`, then the branch of the item writes
it. -/
theorem Item.write_of_value
    {f : IntField} {v : Int} (h : x.entry.value f = some v) :
  x.key.branch.write x.cursor x.value = some (f, v)
  := by
  rw [Item.entry] at h
  split at h
  · cases h
  · split at h
    · next g w hwrite =>
        simp only [LogEntry.value] at h
        split at h
        · next hgf =>
            obtain rfl := Option.some.inj h
            subst hgf
            rw [Item.write] at hwrite
            split at hwrite
            · apply hwrite
            · cases hwrite
        · cases h
    · cases h

theorem frameRateValue_pos (value : List Char) : 1 ≤ frameRateValue value := by
  have hmin : 4 ≤ if atoi value < 4 then 4 else atoi value := by
    split
    · omega
    · omega
  simp only [frameRateValue, minSetFps]
  omega

theorem bitRateValue_nonneg (channel : Int) (value : List Char) :
  0 ≤ bitRateValue channel value
  := by
  have hpos : ∀ i : Int, 0 ≤ (if channel = 0 then if i < 512 then 512 else i
      else if i < 100 then 100 else i) := by
    intro i
    split
    · split
      · omega
      · omega
    · split
      · omega
      · omega
  have hvalue := hpos (if atoi value > maxSetBps then maxSetBps else atoi value)
  simp only [bitRateValue]
  omega

/-- What an item gives the frame rate or the bit rate of a stream is `frameRateValue` or
`bitRateValue` of its value. -/
theorem Item.rate_of_value
    {sub : Nat} {f : UbsField} {v : Int} (hf : f = .frameRate ∨ f = .bitRate)
    (h : x.entry.value (.ubs a sub f) = some v) :
  (f = .frameRate ∧ v = frameRateValue x.value)
    ∨ (f = .bitRate ∧ v = bitRateValue x.cursor.channel x.value)
  := by
  have hwrite := Item.write_of_value h
  cases hb : x.key.branch
  all_goals rw [hb] at hwrite
  case chan ref =>
    obtain ⟨hfield, -⟩ := Prod.mk.inj (Option.some.inj hwrite)
    cases ref with
    | av g => cases hfield
    | ubs g =>
        cases hfield
        exact absurd hb (x.key.branch_ne_rate hf)
  case frameRate =>
    obtain ⟨hfield, hv⟩ := Prod.mk.inj (Option.some.inj hwrite)
    cases hfield
    exact Or.inl ⟨rfl, hv.symm⟩
  case bitRate =>
    obtain ⟨hfield, hv⟩ := Prod.mk.inj (Option.some.inj hwrite)
    cases hfield
    exact Or.inr ⟨rfl, hv.symm⟩
  case ipInterval =>
    obtain ⟨hfield, -⟩ := Prod.mk.inj (Option.some.inj hwrite)
    cases hfield
    simp at hf
  all_goals cases hwrite

/-- A frame rate `v` that a request sets last for a stream is at least 1. -/
theorem frameRate_of_lastSet
    {sub : Nat} {v : Int} (h : lastSet (.ubs a sub .frameRate) (d.log req) = some v) :
  1 ≤ v
  := by
  obtain ⟨e, hmem, hvalue⟩ := exists_of_lastSet h
  obtain ⟨x, -, rfl⟩ := List.mem_map.mp hmem
  obtain ⟨-, rfl⟩ | ⟨hne, -⟩ := Item.rate_of_value (Or.inl rfl) hvalue
  · apply frameRateValue_pos
  · cases hne

/-- A bit rate `v` that a request sets last for a stream is not negative. -/
theorem bitRate_of_lastSet
    {sub : Nat} {v : Int} (h : lastSet (.ubs a sub .bitRate) (d.log req) = some v) :
  0 ≤ v
  := by
  obtain ⟨e, hmem, hvalue⟩ := exists_of_lastSet h
  obtain ⟨x, -, rfl⟩ := List.mem_map.mp hmem
  obtain ⟨hne, -⟩ | ⟨-, rfl⟩ := Item.rate_of_value (Or.inr rfl) hvalue
  · cases hne
  · apply bitRateValue_nonneg

/-! ### The streams that can run -/

instance decidableForallAvFile {p : AvFile → Prop} [∀ a, Decidable (p a)] :
    Decidable (∀ a, p a) :=
  decidable_of_iff (p .av0 ∧ p .av1)
    ⟨fun h a => by cases a; exacts [h.1, h.2], fun h => ⟨h .av0, h .av1⟩⟩

/-- The stream `sub` of the configuration `a` has a frame rate and a bit rate that it can run with,
if it is enabled in `m`. -/
def RunsAt (m : IntField → Int) (a : AvFile) (sub : Nat) : Prop :=
  m (.ubs a sub .streamEnable) ≠ 0 →
    1 ≤ m (.ubs a sub .frameRate) ∧ 0 ≤ m (.ubs a sub .bitRate)

instance (m : IntField → Int) (a : AvFile) (sub : Nat) : Decidable (RunsAt m a sub) :=
  inferInstanceAs (Decidable (_ → _))

/-- Every stream that an encoder configuration has a place for `RunsAt` the numbers `m`. -/
def Runnable (m : IntField → Int) : Prop := ∀ a, ∀ sub < maxUpdateSubChn, RunsAt m a sub

instance (m : IntField → Int) : Decidable (Runnable m) :=
  inferInstanceAs (Decidable (∀ a, ∀ sub < maxUpdateSubChn, RunsAt m a sub))

/-- The numbers of the encoder configurations that a request starts from: those in memory, or,
behind a reset, the defaults. -/
def Device.base (env : Env) (d : Device) (req : Request) : IntField → Int :=
  logBase env.defaults.int d.mem.int (d.log req)

/-- If the last item that enables or disables the stream `sub` enables it, the request sets the
frame rate and the bit rate too, or starts from ones that the stream can run with; items before a
reset do not count. -/
def EnablesAt (env : Env) (d : Device) (req : Request) (a : AvFile) (sub : Nat) : Prop :=
  (lastSet (.ubs a sub .streamEnable) (d.log req)).getD 0 ≠ 0 →
    ((lastSet (.ubs a sub .frameRate) (d.log req)).isSome = true
        ∨ 1 ≤ d.base env req (.ubs a sub .frameRate))
      ∧ ((lastSet (.ubs a sub .bitRate) (d.log req)).isSome = true
        ∨ 0 ≤ d.base env req (.ubs a sub .bitRate))

instance (env : Env) (d : Device) (req : Request) (a : AvFile) (sub : Nat) :
    Decidable (EnablesAt env d req a sub) :=
  inferInstanceAs (Decidable (_ → _))

/-- Every stream that an encoder configuration has a place for is enabled only as `EnablesAt`
says. -/
def EnablesRunnable (env : Env) (d : Device) (req : Request) : Prop :=
  ∀ a, ∀ sub < maxUpdateSubChn, EnablesAt env d req a sub

instance (env : Env) (d : Device) (req : Request) : Decidable (EnablesRunnable env d req) :=
  inferInstanceAs (Decidable (∀ a, ∀ sub < maxUpdateSubChn, EnablesAt env d req a sub))

/-- Behind the loop the rate `f` of a stream has at least the value `bound` exactly if it has been
set, or was so where the request has started from. -/
theorem rate_iff
    {bound : Int} {f : UbsField} {sub : Nat}
    (hset : ∀ v, lastSet (.ubs a sub f) (d.log req) = some v → bound ≤ v)
    (h : processPairs env req (.start env d) = .ok t) :
  bound ≤ t.mem.int (.ubs a sub f)
    ↔ (lastSet (.ubs a sub f) (d.log req)).isSome = true ∨ bound ≤ d.base env req (.ubs a sub f)
  := by
  rw [processPairs_number h a _ rfl, replay_eq, ← Device.base]
  cases hlast : lastSet (.ubs a sub f) (d.log req) with
  | none => simp
  | some v => simpa using hset v hlast

/-- If the enabled streams could run where the request starts from, then they can behind the loop
exactly when the request enables only such as can, `EnablesRunnable`. -/
theorem runnable_iff
    (hbase : Runnable (d.base env req)) (h : processPairs env req (.start env d) = .ok t) :
  Runnable t.mem.int ↔ EnablesRunnable env d req
  := by
  have hframe (a : AvFile) (sub : Nat) :
      1 ≤ t.mem.int (.ubs a sub .frameRate)
        ↔ (lastSet (.ubs a sub .frameRate) (d.log req)).isSome = true
          ∨ 1 ≤ d.base env req (.ubs a sub .frameRate) :=
    rate_iff (fun v hv => frameRate_of_lastSet hv) h
  have hbit (a : AvFile) (sub : Nat) :
      0 ≤ t.mem.int (.ubs a sub .bitRate)
        ↔ (lastSet (.ubs a sub .bitRate) (d.log req)).isSome = true
          ∨ 0 ≤ d.base env req (.ubs a sub .bitRate) :=
    rate_iff (fun v hv => bitRate_of_lastSet hv) h
  have henable (a : AvFile) (sub : Nat) :
      t.mem.int (.ubs a sub .streamEnable)
        = (lastSet (.ubs a sub .streamEnable) (d.log req)).getD
          (d.base env req (.ubs a sub .streamEnable)) := by
    rw [processPairs_number h a _ rfl, replay_eq, ← Device.base]
  constructor
  · intro hruns a sub hsub hlast
    have henabled : t.mem.int (.ubs a sub .streamEnable) ≠ 0 := by
      rw [henable]
      cases hv : lastSet (.ubs a sub .streamEnable) (d.log req) with
      | none =>
          rw [hv] at hlast
          contradiction
      | some v =>
          rw [hv] at hlast
          apply hlast
    obtain ⟨hrate, hbitRate⟩ := hruns a sub hsub henabled
    exact ⟨(hframe a sub).mp hrate, (hbit a sub).mp hbitRate⟩
  · intro henables a sub hsub henabled
    rw [hframe, hbit]
    cases hlast : lastSet (.ubs a sub .streamEnable) (d.log req) with
    | none =>
        -- the stream is enabled where the request starts from
        rw [henable, hlast, Option.getD_none] at henabled
        obtain ⟨hrate, hbitRate⟩ := hbase a sub hsub henabled
        exact ⟨Or.inr hrate, Or.inr hbitRate⟩
    | some v =>
        apply henables a sub hsub
        rw [henable, hlast, Option.getD_some] at henabled
        rw [hlast]
        apply henabled

/-! ### Requests to a device -/

/-- The enabled streams can run, with the numbers in memory and with those in the files, to which a
boot returns. -/
structure Device.Runs (d : Device) : Prop where
  mem : Runnable d.mem.int
  flash : Runnable d.flash.int

/-- Whether the stream `sub` can run depends on its own numbers: if they are the same in `m'`, it
can run there. -/
theorem RunsAt.congr
    {m m' : IntField → Int} {sub : Nat} (h : RunsAt m a sub)
    (heq : ∀ f, m' (.ubs a sub f) = m (.ubs a sub f)) :
  RunsAt m' a sub
  := by
  rw [RunsAt, heq, heq, heq]
  apply h

/-- The encoder files in the loop are those of the device or the defaults, so if both can run, the
streams in the files can. -/
theorem processPairs_flash
    (hdefaults : (∃ x ∈ d.items req, x.Restores) → Runnable env.defaults.int)
    (hd : Runnable d.flash.int) (h : processPairs env req (.start env d) = .ok t) :
  Runnable t.flash.int
  := by
  apply processPairs_invariant (I := fun t => Runnable t.flash.int) _ h (start_at env d) hd
  intro s x s' hx hc hs hrun a sub hsub
  obtain ⟨-, -, hsame⟩ | ⟨g, v, -, -, hsets⟩ | ⟨-, hrestores, hresets⟩ := Item.run_enc hc hrun
  · apply (hs a sub hsub).congr
    intro f
    apply (hsame a).flash (.int (.ubs a sub f)) rfl
  · rw [hsets.flash]
    apply hs a sub hsub
  · apply (hdefaults ⟨x, hx, hrestores⟩ a sub hsub).congr
    intro f
    apply (hresets.enc (f := .int (.ubs a sub f)) rfl).2

/-- An item leaves a `file` marked that was marked before it. -/
theorem Item.run_marked
    {file : CfgFile} (h : x.run env s = .ok s')
    (hmarked : isSetFileChanged s.fileChangedFlag file = true) :
  isSetFileChanged s'.fileChangedFlag file = true
  := by
  by_cases hreset : x.key.branch = .reset
  · rw [Item.run, hreset] at h
    obtain ⟨-, rfl⟩ | ⟨-, hresets⟩ := resetBranch_resets h
    · apply hmarked
    · rw [hresets.flag, hmarked]
  · apply (Branch.touches x.key.marksItsFile hreset h).marked hmarked

/-- An item that enables or disables a stream, and changes its number by that, marks the file. -/
theorem Item.run_enables
    {sub : Nat} {v : Int} (hwrite : x.write = some (.ubs a sub .streamEnable, v))
    (hc : s.cursor = x.cursor) (h : x.run env s = .ok s')
    (hne : s.mem.int (.ubs a sub .streamEnable) ≠ v) :
  isSetFileChanged s'.fileChangedFlag a.cfgFile = true
  := by
  rw [Item.write] at hwrite
  split at hwrite
  · next hcmd =>
      rw [← hc] at hcmd hwrite
      cases hb : x.key.branch
      all_goals rw [hb] at hwrite
      case chan ref =>
        obtain ⟨hfield, rfl⟩ := Prod.mk.inj (Option.some.inj hwrite)
        have hfile : some s.avFile.cfgFile = some a.cfgFile := by
          rw [← ref.file_field s, hfield]
          rfl
        rw [Item.run, hb] at h
        obtain ⟨f, hf, h⟩ := bind_ok.mp (onCmd_set hcmd h)
        rw [ChanRef.resolve_ok hf, hfield, if_pos hne] at h
        obtain rfl := Except.ok.inj h
        rw [← Option.some.inj hfile]
        simp [Session.setFileChanged]
      case frameRate | bitRate | ipInterval =>
        obtain ⟨hfield, -⟩ := Prod.mk.inj (Option.some.inj hwrite)
        cases hfield
      all_goals cases hwrite
  · cases hwrite

/-- If behind an item the stream `sub` cannot run, then it could not before, or its file is
marked. -/
theorem Item.run_marks
    {sub : Nat} (hsub : sub < maxUpdateSubChn)
    (hdefaults : x.Restores → Runnable env.defaults.int)
    (hs : isSetFileChanged s.fileChangedFlag a.cfgFile = true ∨ RunsAt s.mem.int a sub)
    (hc : s.cursor = x.cursor) (h : x.run env s = .ok s') :
  isSetFileChanged s'.fileChangedFlag a.cfgFile = true ∨ RunsAt s'.mem.int a sub
  := by
  obtain hmarked | hruns := hs
  · apply Or.inl (Item.run_marked h hmarked)
  obtain ⟨-, -, hsame⟩ | ⟨g, v, hwrite, hnot, hsets⟩ | ⟨-, hrestores, hresets⟩ := Item.run_enc hc h
  · right
    apply hruns.congr
    intro f
    apply (hsame a).mem (.int (.ubs a sub f)) rfl
  · have hvalue : x.entry.value g = some v := by
      simp [Item.entry, hnot, hwrite, LogEntry.value]
    have hkept (f : UbsField) (hne : g ≠ .ubs a sub f) :
        s'.mem.int (.ubs a sub f) = s.mem.int (.ubs a sub f) := by
      apply hsets.mem_of_ne (.int (.ubs a sub f))
      intro heq
      apply hne (Field.int.inj heq).symm
    by_cases henable : g = .ubs a sub .streamEnable
    · subst henable
      by_cases heq : s.mem.int (.ubs a sub .streamEnable) = v
      · right
        apply hruns.congr
        intro f
        apply (hsets.same_on fun _ => heq).mem (.int (.ubs a sub f)) rfl
      · left
        apply Item.run_enables hwrite hc h heq
    · right
      intro henabled
      rw [hkept _ henable] at henabled
      obtain ⟨hframe, hbit⟩ := hruns henabled
      constructor
      · by_cases hg : g = .ubs a sub .frameRate
        · subst hg
          obtain ⟨-, rfl⟩ | ⟨hne, -⟩ := Item.rate_of_value (Or.inl rfl) hvalue
          · rw [hsets.mem_self]
            apply frameRateValue_pos
          · cases hne
        · rw [hkept _ hg]
          apply hframe
      · by_cases hg : g = .ubs a sub .bitRate
        · subst hg
          obtain ⟨hne, -⟩ | ⟨-, rfl⟩ := Item.rate_of_value (Or.inr rfl) hvalue
          · cases hne
          · rw [hsets.mem_self]
            apply bitRateValue_nonneg
        · rw [hkept _ hg]
          apply hbit
  · right
    apply (hdefaults hrestores a sub hsub).congr
    intro f
    apply (hresets.enc (f := .int (.ubs a sub f)) rfl).1

/-- If the stream `sub` cannot run behind the loop, its file is marked, provided that all could run
before. -/
theorem processPairs_marks
    {sub : Nat} (hsub : sub < maxUpdateSubChn)
    (hdefaults : (∃ x ∈ d.items req, x.Restores) → Runnable env.defaults.int)
    (hd : Runnable d.mem.int) (h : processPairs env req (.start env d) = .ok t) :
  isSetFileChanged t.fileChangedFlag a.cfgFile = true ∨ RunsAt t.mem.int a sub
  := by
  apply processPairs_invariant
    (I := fun t => isSetFileChanged t.fileChangedFlag a.cfgFile = true ∨ RunsAt t.mem.int a sub)
    _ h (start_at env d)
  · right
    apply hd a sub hsub
  · intro s x s' hx hc hs hrun
    apply Item.run_marks hsub _ hs hc hrun
    intro hrestores
    apply hdefaults ⟨x, hx, hrestores⟩

/-- A request `r` that sets the configuration back does so to defaults that can run, and it enables
only streams that can run. -/
structure Careful (d : Device) (r : Request × Env) : Prop where
  defaults : (∃ x ∈ d.items r.1, x.Restores) → Runnable r.2.defaults.int
  enables : EnablesRunnable r.2 d r.1

/-- If the memory can run, and the defaults can if the request has a reset, then so can the numbers
that the request starts from. -/
theorem base_runnable
    (hdefaults : (∃ x ∈ d.items req, x.Restores) → Runnable env.defaults.int)
    (hd : Runnable d.mem.int) :
  Runnable (d.base env req)
  := by
  rw [Device.base, logBase]
  split
  · next hreset =>
      apply hdefaults
      obtain ⟨e, hmem, he⟩ := List.any_eq_true.mp hreset
      obtain ⟨x, hx, rfl⟩ := List.mem_map.mp hmem
      use x, hx
      by_contra hnot
      rw [Item.entry, if_neg hnot] at he
      split at he
      · cases he
      · cases he
  · apply hd

/-- If all enabled streams could run before a request, those in the files can behind it exactly when
it enables only such as can; then those in memory can as well. -/
theorem processMsg_runs_iff
    {reply : Reply} (hd : d.Runs)
    (hdefaults : (∃ x ∈ d.items req, x.Restores) → Runnable env.defaults.int)
    (h : processMsg env req d = .ok reply) :
  (Runnable reply.device.flash.int ↔ EnablesRunnable env d req)
    ∧ (EnablesRunnable env d req → reply.device.Runs)
  := by
  obtain ⟨t, s', ht, hs', hdevice⟩ := processMsg_ok h
  have hmem := runnable_iff (base_runnable hdefaults hd.mem) ht
  have hflash : Runnable t.flash.int := processPairs_flash hdefaults hd.flash ht
  have hwritten (a : AvFile) (sub : Nat) (f : UbsField) :=
    (finish_enc (f := .int (.ubs a sub f)) rfl hs').2
  have hruns : Runnable t.mem.int → Runnable s'.flash.int := by
    intro hruns a sub hsub
    cases hflag : isSetFileChanged t.fileChangedFlag a.cfgFile with
    | true =>
        apply (hruns a sub hsub).congr
        intro f
        rw [Contents.int, hwritten a sub f, hflag]
        rfl
    | false =>
        apply (hflash a sub hsub).congr
        intro f
        rw [Contents.int, hwritten a sub f, hflag]
        rfl
  rw [hdevice]
  refine ⟨⟨?_, ?_⟩, ?_⟩
  · intro hruns'
    apply hmem.mp
    intro a sub hsub
    obtain hmarked | hruns := processPairs_marks (a := a) hsub hdefaults hd.mem ht
    · -- what cannot run has been written
      apply (hruns' a sub hsub).congr
      intro f
      have heq := hwritten a sub f
      rw [hmarked, if_pos rfl] at heq
      apply heq.symm
    · apply hruns
  · intro henables
    apply hruns (hmem.mpr henables)
  · intro henables
    constructor
    · intro a sub hsub
      apply (hmem.mpr henables a sub hsub).congr
      intro f
      apply (finish_enc (f := .int (.ubs a sub f)) rfl hs').1
    · apply hruns (hmem.mpr henables)

/-- Over a run of requests that are all `Careful` the enabled streams of the device can run. -/
theorem Device.Runs.run
    {d' : Device} {rs : List (Request × Env)} (hd : d.Runs) (h : Run handle Careful d rs d') :
  d'.Runs
  := by
  apply h.invariant _ hd
  intro d r d' hd hr hstep
  obtain ⟨reply, hreply, rfl⟩ := handle_some hstep
  apply (processMsg_runs_iff hd hr.defaults hreply).2 hr.enables

end Msg
