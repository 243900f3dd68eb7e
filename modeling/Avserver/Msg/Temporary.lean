import Avserver.Msg.Encoder
import Avserver.Library.Run

/-!
# Temporary requests

A request whose type is greater than 1 sets the encoder for the time being: its frame rates,
bit rates and I-frame intervals are stored in memory and no file is marked.  They are stored
in the same globals, however, that a later permanent request writes to the files as a whole,
and with which it compares its values.  So what a permanent request leaves in the file of an
encoder configuration is what it would have left without the temporary requests before it
exactly when it is `Settled` (`flash_agree_iff`), and temporary requests do not reach the files
in a run in which all permanent requests are (`temporary_not_stored`).
-/

namespace Msg

open Library

variable {env : Env} {a : AvFile} {req : Request} {d d' : Device} {reply reply' : Reply}

/-! ### What a request does to an encoder configuration -/

/-- The memory and the file of the device `d` agree on the encoder configuration `a`. -/
def EncStored (d : Device) (a : AvFile) : Prop :=
  ∀ f, f.file = some a.cfgFile → d.mem f = d.flash f

/-- If an item of a permanent request changes the configuration `a`, its file has behind the request
what memory has. -/
theorem processMsg_changes
    (hyl : ∀ x ∈ d.items req, x.cursor.ylSet = false)
    (hchanges : ∃ x ∈ d.items req, x.Changes d.mem a) (h : processMsg env req d = .ok reply) :
  EncStored reply.device a
  := by
  obtain ⟨t, s', ht, hs', hdevice⟩ := processMsg_ok h
  intro f hf
  rw [hdevice]
  apply finish_agrees hs' (processPairs_changes hyl hchanges ht) f hf
  simp [hf]

/-- If no item of a request changes the configuration `a`, memory and file are behind it as
before. -/
theorem processMsg_same
    (hchanges : ∀ x ∈ d.items req, ¬ x.Changes d.mem a) (h : processMsg env req d = .ok reply)
    {f : Field} (hf : f.file = some a.cfgFile) :
  reply.device.mem f = d.mem f ∧ reply.device.flash f = d.flash f
  := by
  obtain ⟨t, s', ht, hs', hdevice⟩ := processMsg_ok h
  have hsame := processPairs_same hchanges ht
  obtain ⟨hmem, hflash⟩ := finish_enc hf hs'
  have hclean : isSetFileChanged (Session.start env d).fileChangedFlag a.cfgFile = false :=
    isSetFileChanged_zero _
  rw [hsame.flag, hclean, if_neg Bool.false_ne_true] at hflash
  rw [hdevice]
  constructor
  · apply hmem.trans (hsame.mem f hf)
  · apply hflash.trans (hsame.flash f hf)

/-- A request that is not temporary keeps memory and file in agreement on the configuration `a`. -/
theorem processMsg_enc_stored
    (hyl : ∀ x ∈ d.items req, x.cursor.ylSet = false) (hd : EncStored d a)
    (h : processMsg env req d = .ok reply) :
  EncStored reply.device a
  := by
  intro f hf
  apply processMsg_agrees (S := fun f => f.file = some a.cfgFile) _ h (fun f hf _ => hd f hf) f hf
  · simp [hf]
  · intro x hx f hf hloose
    obtain ⟨-, -, hyl'⟩ := Branch.loose_enc x.value hf hloose
    rw [hyl x hx] at hyl'
    contradiction

/-- A field `f` is in memory behind a request to two devices the same, if it was so before, or the
request sets it. -/
theorem processMsg_agree
    {f : Field} (hf : f.file = some a.cfgFile)
    (hpoints : d'.mem.int .waccessPoints = d.mem.int .waccessPoints)
    (hagree : d.mem f = d'.mem f ∨ ∃ x ∈ d.items req, x.Writes f)
    (h : processMsg env req d = .ok reply) (h' : processMsg env req d' = .ok reply') :
  reply.device.mem f = reply'.device.mem f
  := by
  obtain ⟨t, s, ht, hs, hdevice⟩ := processMsg_ok h
  obtain ⟨t', s', ht', hs', hdevice'⟩ := processMsg_ok h'
  rw [hdevice, hdevice']
  calc s.mem f
      = t.mem f := (finish_enc hf hs).1
    _ = t'.mem f := processPairs_agree hf hpoints hagree ht ht'
    _ = s'.mem f := (finish_enc hf hs').1.symm

/-- A field `f` of an encoder configuration that the request does not set is in memory as it was. -/
theorem processMsg_kept
    {f : Field} (hf : f.file = some a.cfgFile) (hwrites : ∀ x ∈ d.items req, ¬ x.Writes f)
    (h : processMsg env req d = .ok reply) :
  reply.device.mem f = d.mem f
  := by
  obtain ⟨t, s, ht, hs, hdevice⟩ := processMsg_ok h
  rw [hdevice]
  apply (finish_enc hf hs).1.trans (processPairs_kept hf hwrites ht)

/-- No request changes the number of networks found, `waccessPoints`. -/
theorem processMsg_accessPoints (h : processMsg env req d = .ok reply) :
  reply.device.mem.int .waccessPoints = d.mem.int .waccessPoints
  := by
  obtain ⟨t, s, ht, hs, hdevice⟩ := processMsg_ok h
  obtain ⟨s₁, s₂, hs₁, hs₂, hmem, -⟩ := finish_ok hs
  have hloop : t.mem.int .waccessPoints = d.mem.int .waccessPoints := by
    apply processPairs_invariant
      (I := fun t => t.mem.int .waccessPoints = d.mem.int .waccessPoints) _ ht (start_at env d) rfl
    intro s x s' _ _ hs hx
    rw [Branch.run_accessPoints x.key.marksItsFile hx, hs]
  rw [hdevice, ← hloop]
  show s.mem (.int .waccessPoints) = t.mem (.int .waccessPoints)
  rw [hmem, hs₂.mem _ (by simp [Field.file, IntField.file]), hs₁.mem (fun hfalse => hfalse)]
  simp [Field.file, IntField.file]

/-! ### One permanent request -/

/-- A permanent request that changes the configuration `a` in memory sets every field that memory
and file differ in, and one that does not sets only fields that they agree in. -/
def Settled (d : Device) (req : Request) (a : AvFile) : Prop :=
  ((∃ x ∈ d.items req, x.Changes d.mem a) →
    ∀ f, f.file = some a.cfgFile → d.mem f ≠ d.flash f → ∃ x ∈ d.items req, x.Writes f) ∧
  ((¬ ∃ x ∈ d.items req, x.Changes d.mem a) →
    ∀ x ∈ d.items req, ∀ f v, x.write = some (f, v) → f.file = some a.cfgFile →
      d.mem.int f = d.flash.int f)

theorem items_eq (hpoints : d'.mem.int .waccessPoints = d.mem.int .waccessPoints) :
  d'.items req = d.items req
  := by rw [Device.items, Device.items, hpoints]

/-- A permanent request leaves the same in the file of the configuration `a`, whether memory agrees
with the file before it or not, exactly when it is `Settled`. -/
theorem flash_agree_iff
    (hyl : ∀ x ∈ d.items req, x.cursor.ylSet = false)
    (hpoints : d'.mem.int .waccessPoints = d.mem.int .waccessPoints)
    (hflash : ∀ f, f.file = some a.cfgFile → d.flash f = d'.flash f) (hstored : EncStored d' a)
    (h : processMsg env req d = .ok reply) (h' : processMsg env req d' = .ok reply') :
  (∀ f, f.file = some a.cfgFile → reply.device.flash f = reply'.device.flash f) ↔
    Settled d req a
  := by
  have hyl' : ∀ x ∈ d'.items req, x.cursor.ylSet = false := by
    rw [items_eq hpoints]
    apply hyl
  have hmem' : ∀ f, f.file = some a.cfgFile → d'.mem f = d.flash f :=
    fun f hf => (hstored f hf).trans (hflash f hf).symm
  have hstored' := processMsg_enc_stored hyl' hstored h'
  by_cases hchanges : ∃ x ∈ d.items req, x.Changes d.mem a
  · have hfile := processMsg_changes hyl hchanges h
    constructor
    · intro hagree
      refine ⟨fun _ => ?_, fun hnot => absurd hchanges hnot⟩
      intro f hf hne
      by_contra hwrites
      apply hne
      have hnone : ∀ x ∈ d.items req, ¬ x.Writes f := fun x hx hw => hwrites ⟨x, hx, hw⟩
      have hnone' : ∀ x ∈ d'.items req, ¬ x.Writes f := by
        rw [items_eq hpoints]
        apply hnone
      calc d.mem f
          = reply.device.mem f := (processMsg_kept hf hnone h).symm
        _ = reply.device.flash f := hfile f hf
        _ = reply'.device.flash f := hagree f hf
        _ = reply'.device.mem f := (hstored' f hf).symm
        _ = d'.mem f := processMsg_kept hf hnone' h'
        _ = d.flash f := hmem' f hf
    · rintro ⟨hset, -⟩ f hf
      have hagree : d.mem f = d'.mem f ∨ ∃ x ∈ d.items req, x.Writes f := by
        by_cases heq : d.mem f = d.flash f
        · apply Or.inl (heq.trans (hmem' f hf).symm)
        · apply Or.inr (hset hchanges f hf heq)
      calc reply.device.flash f
          = reply.device.mem f := (hfile f hf).symm
        _ = reply'.device.mem f := processMsg_agree hf hpoints hagree h h'
        _ = reply'.device.flash f := hstored' f hf
  · have hsame : ∀ x ∈ d.items req, ¬ x.Changes d.mem a := fun x hx hch => hchanges ⟨x, hx, hch⟩
    constructor
    · intro hagree
      refine ⟨fun hnot => absurd hnot hchanges, fun _ => ?_⟩
      intro x hx f v hwrite hf
      obtain ⟨hmem, hkept⟩ := processMsg_same hsame h (f := .int f) hf
      have hwrites : ∃ x ∈ d.items req, x.Writes (.int f) := ⟨x, hx, Or.inr ⟨f, v, hwrite, rfl⟩⟩
      calc d.mem (.int f)
          = reply.device.mem (.int f) := hmem.symm
        _ = reply'.device.mem (.int f) := processMsg_agree hf hpoints (Or.inr hwrites) h h'
        _ = reply'.device.flash (.int f) := hstored' (.int f) hf
        _ = reply.device.flash (.int f) := (hagree (.int f) hf).symm
        _ = d.flash (.int f) := hkept
    · rintro ⟨-, hset⟩ f hf
      have hsame' : ∀ x ∈ d'.items req, ¬ x.Changes d'.mem a := by
        rw [items_eq hpoints]
        rintro x hx (hrestores | ⟨g, v, hwrite, hg, hne⟩)
        · apply hsame x hx (Or.inl hrestores)
        · apply hsame x hx (Or.inr ⟨g, v, hwrite, hg, _⟩)
          rw [hset hchanges x hx g v hwrite hg]
          intro heq
          apply hne
          rw [← heq]
          apply hmem' (.int g) hg
      rw [(processMsg_same hsame h hf).2, (processMsg_same hsame' h' hf).2, hflash f hf]

/-! ### Temporary requests -/

/-- The request `req` is temporary: it gives a type that is greater than 1. -/
def Temporary (req : Request) : Prop :=
  ∃ pair ∈ req, Key.ofCode (atoi pair.1) = some .type ∧ atoi pair.2 > 1

instance (req : Request) : Decidable (Temporary req) := List.decidableBEx _ _

/-- The keys that a temporary request is for, besides the type. -/
def streamKeys : List Key := [.chn, .subChn, .frameRate, .bitRate, .ipInterval]

/-- The request carries frame rates, bit rates and I-frame intervals only, for channels and streams,
under types that are greater than 1. -/
def StreamSettings (req : Request) : Prop :=
  ∀ pair ∈ req, ∀ key ∈ Key.ofCode (atoi pair.1),
    key ∈ streamKeys ∨ key = .type ∧ atoi pair.2 > 1

instance (req : Request) : Decidable (StreamSettings req) := List.decidableBAll _ _

/-- In a request that is not temporary no item `x` sets for the time being only. -/
theorem not_temporary_cursor
    (hreq : ¬ Temporary req) {x : Item} (hx : x ∈ d.items req) :
  x.cursor.ylSet = false
  := by
  apply items_cursor (I := fun c => c.ylSet = false) _ rfl hx
  intro pair hmem key hkey c hc
  by_cases htype : key = .type
  · subst htype
    have hle : ¬ atoi pair.2 > 1 := fun hgt => hreq ⟨pair, hmem, hkey, hgt⟩
    simp only [Key.branch, Branch.select, if_neg hle]
  · rw [(key.select_cmd (n := d.mem.int .waccessPoints) (c := c) htype pair.2).2]
    apply hc

/-- In a request of `StreamSettings` every item `x` that sets does so for the time being only. -/
theorem StreamSettings.cursor
    (hreq : StreamSettings req) {x : Item} (hx : x ∈ d.items req) :
  x.cursor.cmdType = tSet → x.cursor.ylSet = true
  := by
  apply items_cursor (I := fun c => c.cmdType = tSet → c.ylSet = true) _ _ hx
  · intro pair hmem key hkey c hc
    obtain hstream | ⟨rfl, hgt⟩ := hreq pair hmem key hkey
    · have htype : key ≠ .type := by
        rintro rfl
        revert hstream
        decide
      obtain ⟨hcmd, hyl⟩ := key.select_cmd (n := d.mem.int .waccessPoints) (c := c) htype pair.2
      rw [hcmd, hyl]
      apply hc
    · simp only [Key.branch, Branch.select, if_pos hgt, implies_true]
  · intro hcmd
    revert hcmd
    decide

/-- In a request of `StreamSettings` no item `x` marks a file, and none is a reset. -/
theorem StreamSettings.file
    (hreq : StreamSettings req) {x : Item} (hx : x ∈ d.items req) :
  x.key.branch.file x.cursor = none ∧ x.key.branch ≠ .reset
  := by
  have hcursor := hreq.cursor hx
  have hnot : ¬ (x.cursor.cmdType = tSet ∧ x.cursor.ylSet = false) := by
    rintro ⟨hcmd, hyl⟩
    rw [hcursor hcmd] at hyl
    contradiction
  obtain ⟨pair, hmem, hkey, -⟩ := exists_mem_of_mem_items hx
  obtain hstream | ⟨htype, -⟩ := hreq pair hmem x.key hkey
  · simp only [streamKeys, List.mem_cons, List.not_mem_nil, or_false] at hstream
    obtain h | h | h | h | h := hstream
    all_goals simp [h, Key.branch, Branch.file, hnot]
  · simp [htype, Key.branch, Branch.file]

/-- A request of `StreamSettings` leaves the files of the encoder configurations alone. -/
theorem StreamSettings.flash
    (hreq : StreamSettings req) (h : processMsg env req d = .ok reply) {f : Field}
    (hf : f.file = some a.cfgFile) :
  reply.device.flash f = d.flash f
  := by
  obtain ⟨t, s, ht, hs, hdevice⟩ := processMsg_ok h
  have hloop : t.fileChangedFlag = 0 ∧ t.flash = d.flash := by
    apply processPairs_invariant (I := fun t => t.fileChangedFlag = 0 ∧ t.flash = d.flash) _ ht
      (start_at env d) ⟨rfl, rfl⟩
    rintro s x s' hx hc ⟨hflag, hflash⟩ hrun
    obtain ⟨hfile, hreset⟩ := hreq.file hx
    obtain hstores | ⟨c, hc', -⟩ := Branch.touches x.key.marksItsFile hreset hrun
    · constructor
      · apply hstores.flag.trans hflag
      · apply hstores.flash.trans hflash
    · rw [hc, hfile] at hc'
      contradiction
  obtain ⟨-, hflash⟩ := finish_enc hf hs
  rw [hloop.1, isSetFileChanged_zero, if_neg Bool.false_ne_true, hloop.2] at hflash
  rw [hdevice]
  apply hflash

/-! ### Runs -/

/-- If the request is temporary it carries what such requests are for, `StreamSettings`, and
otherwise it is `Settled`. -/
def Separate (d : Device) (r : Request × Env) : Prop :=
  if Temporary r.1 then StreamSettings r.1 else ∀ a, Settled d r.1 a

/-- What the device `d'` of a run without the temporary requests has in common with `d`: the files,
with which its memory agrees. -/
structure Alike (d d' : Device) : Prop where
  points : d'.mem.int .waccessPoints = d.mem.int .waccessPoints
  flash : ∀ a : AvFile, ∀ f, f.file = some a.cfgFile → d.flash f = d'.flash f
  stored : ∀ a, EncStored d' a

/-- The files of the encoder configurations behind a run of `Separate` requests are those behind the
run without the temporary ones.  A run starts with what has been read from the files. -/
theorem temporary_not_stored
    {d d₁ d₂ : Device} (rs : List (Request × Env)) (hd : ∀ a, EncStored d a)
    (h : Run handle Separate d rs d₁)
    (h' : Run handle (fun _ _ => True) d (rs.filter fun r => ¬ Temporary r.1) d₂) :
  ∀ a : AvFile, ∀ f, f.file = some a.cfgFile → d₁.flash f = d₂.flash f
  := by
  have halike : Alike d₁ d₂ := by
    apply Run.filter _ _ h h' ⟨rfl, fun _ _ _ => rfl, hd⟩
    · rintro s u r s' hsu hsep hdrop hr
      obtain ⟨reply, hreply, rfl⟩ := handle_some hr
      have htemp : Temporary r.1 := by simpa using hdrop
      rw [Separate, if_pos htemp] at hsep
      constructor
      · rw [hsu.points, processMsg_accessPoints hreply]
      · intro a f hf
        rw [hsep.flash hreply hf, hsu.flash a f hf]
      · apply hsu.stored
    · rintro s u r s' u' hsu hsep hkeep hr hr'
      obtain ⟨reply, hreply, rfl⟩ := handle_some hr
      obtain ⟨reply', hreply', rfl⟩ := handle_some hr'
      have htemp : ¬ Temporary r.1 := by simpa using hkeep
      rw [Separate, if_neg htemp] at hsep
      constructor
      · rw [processMsg_accessPoints hreply, processMsg_accessPoints hreply', hsu.points]
      · intro a
        apply (flash_agree_iff (fun x hx => not_temporary_cursor htemp hx) hsu.points (hsu.flash a)
          (hsu.stored a) hreply hreply').mpr (hsep a)
      · intro a
        apply processMsg_enc_stored (fun x hx => not_temporary_cursor htemp hx) (hsu.stored a)
          hreply'
  apply halike.flash

/-- If memory and file agree on the configuration `a`, then every request to the device is
`Settled`. -/
theorem EncStored.settled (hd : EncStored d a) : Settled d req a := by
  constructor
  · intro _ f hf hne
    exact absurd (hd f hf) hne
  · intro _ x _ f _ _ hf
    apply hd (.int f) hf

/-- A request with the `type` that sets a number of the main stream. -/
def streamRequest (type key value : String) : Request × Env :=
  ([("0".toList, type.toList), ("1".toList, "0".toList), (key.toList, value.toList)], .idle)

/-- A permanent request for the bit rate; the request `frameRateRequest` for a frame rate is
temporary. -/
def bitRateRequest : Request × Env := streamRequest "1" "17" "600"
@[inherit_doc bitRateRequest]
def frameRateRequest : Request × Env := streamRequest "2" "14" "10"

theorem bitRateRequest_permanent : ¬ Temporary bitRateRequest.1 := by decide

theorem frameRateRequest_temporary : Temporary frameRateRequest.1 := by decide

/-- Behind a permanent bit rate and then a temporary frame rate, the file is as it was behind the
bit rate. -/
theorem temporary_not_stored_frameRate :
  ∃ d₁ d₂, handle .blank bitRateRequest = some d₁ ∧ handle d₁ frameRateRequest = some d₂ ∧
    ∀ a : AvFile, ∀ f, f.file = some a.cfgFile → d₂.flash f = d₁.flash f
  := by
  have hok : ((handle .blank bitRateRequest).bind (handle · frameRateRequest)).isSome = true := by
    decide +kernel
  obtain ⟨d₂, h⟩ := Option.isSome_iff_exists.mp hok
  obtain ⟨d₁, hd₁, hd₂⟩ := Option.bind_eq_some_iff.mp h
  have hstored : ∀ a, EncStored .blank a := fun _ _ _ => rfl
  refine ⟨d₁, d₂, hd₁, hd₂, ?_⟩
  apply temporary_not_stored [bitRateRequest, frameRateRequest] hstored
  · apply Run.cons _ hd₁ (Run.cons _ hd₂ (Run.nil d₂))
    · rw [Separate, if_neg bitRateRequest_permanent]
      intro a
      apply (hstored a).settled
    · rw [Separate, if_pos frameRateRequest_temporary]
      decide
  · simp only [List.filter, bitRateRequest_permanent, frameRateRequest_temporary, not_true,
      not_false_eq_true, decide_true, decide_false]
    apply Run.cons trivial hd₁ (Run.nil d₁)

/-- A temporary frame rate is written to the file with a permanent bit rate that comes behind it. -/
theorem temporary_frameRate_stored :
  ∃ rs d₁ d₂, (∀ a, EncStored .blank a) ∧
    (∀ r ∈ rs, Temporary r.1 → StreamSettings r.1) ∧
    Run handle (fun _ _ => True) .blank rs d₁ ∧
    Run handle (fun _ _ => True) .blank (rs.filter fun r => ¬ Temporary r.1) d₂ ∧
    ∃ f, f.file = some AvFile.av0.cfgFile ∧ d₁.flash f ≠ d₂.flash f
  := by
  obtain ⟨d₁, hrun₁, hd₁⟩ := Run.exists_of_exec handle (fun _ _ => True)
    .blank (fun d => d.flash.int (.ubs .av0 0 .frameRate) = 10)
    [frameRateRequest, bitRateRequest] (by decide +kernel)
  obtain ⟨d₂, hrun₂, hd₂⟩ := Run.exists_of_exec handle (fun _ _ => True)
    .blank (fun d => d.flash.int (.ubs .av0 0 .frameRate) = 0)
    [bitRateRequest] (by decide +kernel)
  refine ⟨[frameRateRequest, bitRateRequest], d₁, d₂, fun _ _ _ => rfl, ?_, hrun₁, ?_,
    .int (.ubs .av0 0 .frameRate), rfl, ?_⟩
  · rintro r hr htemp
    obtain rfl | hr := List.mem_cons.mp hr
    · decide
    · obtain rfl := List.mem_singleton.mp hr
      exact absurd htemp bitRateRequest_permanent
  · simp only [List.filter, bitRateRequest_permanent, frameRateRequest_temporary, not_true,
      not_false_eq_true, decide_true, decide_false]
    apply hrun₂
  · intro heq
    have hint : d₁.flash.int (.ubs .av0 0 .frameRate) = d₂.flash.int (.ubs .av0 0 .frameRate) := heq
    rw [of_decide_eq_true hd₁, of_decide_eq_true hd₂] at hint
    exact absurd hint (by decide)

end Msg
