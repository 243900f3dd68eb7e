import Avserver.Msg.InRange
import Avserver.Msg.PresetCommands
import Avserver.Msg.PresetName

/-!
# Setting a preset

`deal_ptz_preset` is called behind the pairs of a request, with the number of a preset and the
buffer of a name.  Here it is with all of its accesses: the table of the presets has
`PTZ_PRESET_ALLNUM` entries, the name is in a buffer that the scans may leave, and its number is
cut off in place before the special presets get what remains of it, each with a number of its own.
For a request that is handled this is what `Msg.dealPtzPreset` says (`dealPtzPreset_refines`).

A preset with a number of its own is set by the request together with the special presets that
are not set yet, and no other is touched (`set_preset_spec`).  When the number is 0 it is taken
from the end of the name, and nothing but one value that is too large is refused.
-/

namespace Msg.Presets

open Library

variable {allnum : Nat} {env : Env} {d : Device} {s s' : Session} {name p : List Char}

/-! ### The function -/

/-- An access to the buffer of the name, which is a fault if it has no result. -/
def inName {α : Type} (x : Option α) : Except Fault α := x.elim (.error .unterminated) .ok

/-- The special preset `n` is set in a table of `allnum`, unless it is set already. -/
def setSpePreset (allnum : Nat) (s : Session) (n : Nat) : Except Fault Session := do
  let i ← bounded .presets ((n : Int) - 1) allnum
  if s.mem.int (.presetIsSet i) ≠ 0 then .ok s
  else do
    let p ← text s.ptzPresetName
    (s.setInt (.presetIsSet i) 1).setText (.presetName i) (p ++ decimal n)

/-- The preset at `tmpIndex` is set, and with it the special ones; the number at the end of the name
is cut off. -/
def setPresets (allnum : Nat) (tmpIndex : Int) (s : Session) : Except Fault Session := do
  let i ← bounded .presets tmpIndex allnum
  let name ← text s.ptzPresetName
  let s := storePreset i name s
  let buf ← inName (PresetName.getPrenamestring s.ptzPresetName)
  let s ← spePresetIndex.foldlM (setSpePreset allnum) { s with ptzPresetName := buf }
  .ok (s.setFileChanged .ptzPreset)

/-- `deal_ptz_preset` -/
def dealPtzPreset (allnum : Nat) (s : Session) : Except Fault Session :=
  let index := s.ptzpresetIndex
  if index < 0 ∨ index > allnum then
    presetReply index [⟨.error, decimal errorPtzIndexOutRange⟩] s
  else if s.cmdType = tSet then
    if s.ptzPresetName.head? = some nul then
      presetReply index [⟨.ptzPresetname, []⟩, ⟨.error, decimal errorPtzPresetnameEmpty⟩] s
    else do
      let (_, number) ← inName (PresetName.getPresetIndex s.ptzPresetName)
      let tmpIndex := number - 1
      if index = 0 then
        if tmpIndex = allnum then s.answer .error (decimal errorPtzIndexOver)
        else do
          let name ← text s.ptzPresetName
          let s ← presetReply (tmpIndex + 1)
            [⟨.ptzPresetname, name⟩, ⟨.error, decimal resultOk⟩] s
          setPresets allnum tmpIndex (s.effect (.mctpCmd (ptzcmd setPreset (tmpIndex + 1))))
      else do
        let name ← text s.ptzPresetName
        let s ← presetReply index [⟨.ptzPresetname, name⟩, ⟨.error, decimal resultOk⟩] s
        let s ← setPresets allnum (index - 1) s
        .ok (s.effect (.mctpCmd (ptzcmd setPreset index)))
  else if index = 0 then presetReply index [⟨.error, decimal errorPtzIndexOutRange⟩] s
  else do
    let i ← bounded .presets (index - 1) allnum
    if s.mem.int (.presetIsSet i) ≠ 0 then do
      let name ← text (s.mem.str (.presetName i))
      presetReply index [⟨.ptzPresetname, name⟩] s
    else presetReply index [⟨.error, decimal errorPtzIndexNotExist⟩] s

/-- What follows the pairs of a request, if there has been one for a preset: it is dealt with, and
the answer counted. -/
def finishPreset (allnum : Nat) (s : Session) : Except Fault Session :=
  if s.ptzPresetIn ≠ 0 then (dealPtzPreset allnum s).map fun s => { s with ret := s.ret + 1 }
  else .ok s

/-! ### The special presets -/

/-- The field `f` is a member of the entry of the preset `i`. -/
def OfPreset (i : Nat) (f : Field) : Prop := f = .int (.presetIsSet i) ∨ f = .str (.presetName i)

/-- The presets `ns` are set in `c'` if they were not in `c`, with names that begin with `p`; all
else is as before. -/
structure Filled (ns : List Nat) (p : List Char) (c c' : Contents) : Prop where
  special : ∀ n ∈ ns, c.int (.presetIsSet (n - 1)) = 0 →
    c'.int (.presetIsSet (n - 1)) = 1 ∧ text (c'.str (.presetName (n - 1))) = .ok (p ++ decimal n)
  other : ∀ f : Field, (∀ n ∈ ns, c.int (.presetIsSet (n - 1)) = 0 → ¬ OfPreset (n - 1) f) →
    c' f = c f

/-- The names of the special presets `ns`, which begin with `p`, fit their buffers. -/
def Fits (ns : List Nat) (p : List Char) (c : Contents) : Prop :=
  ∀ n ∈ ns, (p ++ decimal n).length < (c.str (.presetName (n - 1))).length

theorem bounded_eq {i : Int} (h : 0 ≤ i ∧ i < allnum) : bounded .presets i allnum = .ok i.toNat :=
  if_pos h

theorem bounded_error {i : Int} (h : ¬ (0 ≤ i ∧ i < allnum)) :
  bounded .presets i allnum = .error (.index .presets)
  := if_neg h

/-- The names that are generated for the special presets are strings, without an end in them. -/
theorem nul_notMem_generated (hp : nul ∉ p) (n : Nat) : nul ∉ p ++ decimal n := by
  intro hmem
  rcases List.mem_append.mp hmem with hmem | hmem
  · exact hp hmem
  · exact decimal_plain n nul hmem (by decide)

/-- An entry `i` whose mark is set and whose name is stored has its mark set. -/
theorem int_set (c : Contents) (i : Nat) (buf : List Char) :
  ((c.setInt (.presetIsSet i) 1).setStr (.presetName i) buf).int (.presetIsSet i) = 1
  := by
  apply (Contents.setStr_of_ne (by simp)).trans
  apply Function.update_self

/-- A special preset `n` that is set already is left alone by `setSpePreset`. -/
theorem setSpePreset_set
    {n : Nat} (hn : 1 ≤ n ∧ n ≤ allnum) (hset : s.mem.int (.presetIsSet (n - 1)) ≠ 0) :
  setSpePreset allnum s n = .ok s
  := by
  have hi : ((n : Int) - 1).toNat = n - 1 := by omega
  rw [setSpePreset, bounded_eq (by omega), hi]
  exact if_pos hset

/-- A special preset `n` that is not set gets its name by `setSpePreset`, if that fits. -/
theorem setSpePreset_unset
    {n : Nat} (hn : 1 ≤ n ∧ n ≤ allnum) (hset : s.mem.int (.presetIsSet (n - 1)) = 0)
    (hp : text s.ptzPresetName = .ok p) :
  setSpePreset allnum s n
    = (s.setInt (.presetIsSet (n - 1)) 1).setText (.presetName (n - 1)) (p ++ decimal n)
  := by
  have hi : ((n : Int) - 1).toNat = n - 1 := by omega
  rw [setSpePreset, bounded_eq (by omega), hi]
  apply (if_neg (not_not_intro hset)).trans
  rw [hp]
  rfl

theorem setSpePreset_fits
    {n : Nat} (hn : 1 ≤ n ∧ n ≤ allnum) (hset : s.mem.int (.presetIsSet (n - 1)) = 0)
    (hp : text s.ptzPresetName = .ok p)
    (hfits : (p ++ decimal n).length < (s.mem.str (.presetName (n - 1))).length) :
  ∃ c, setSpePreset allnum s n = .ok { s with mem := c } ∧ Filled [n] p s.mem c
  := by
  have hcopy : strcpy ((s.mem.setInt (.presetIsSet (n - 1)) 1).str (.presetName (n - 1)))
      (p ++ decimal n) = .ok _ := if_pos hfits
  rw [setSpePreset_unset hn hset hp, Session.setText]
  refine ⟨_, bind_ok.mpr ⟨_, hcopy, rfl⟩, ?_, ?_⟩
  · rintro m hm -
    obtain rfl := List.mem_singleton.mp hm
    constructor
    · apply int_set
    · rw [Contents.str_setStr]
      apply text_strcpy (nul_notMem_generated (exists_of_text hp).1 m) hcopy
  · intro f hf
    have hne := hf n (.head _) hset
    rw [OfPreset, not_or] at hne
    apply (Contents.setStr_of_ne hne.2).trans (Contents.setInt_of_ne hne.1)

/-- The entries of the two presets `m` and `n` have no member `f` in common. -/
theorem OfPreset.disjoint
    {m n : Nat} {f : Field} (hm : 1 ≤ m) (hn : 1 ≤ n) (hne : m ≠ n) (hf : OfPreset (m - 1) f) :
  ¬ OfPreset (n - 1) f
  := by
  rcases hf with rfl | rfl
  · simp [OfPreset]
    omega
  · simp [OfPreset]
    omega

namespace Filled

variable {n : Nat} {ns : List Nat} {c c₁ c₂ : Contents}

/-- When the presets `ns` are filled, the entry of any other preset `m` stays as it is. -/
theorem apart
    (h : Filled ns p c c₁) {m : Nat} (hm : 1 ≤ m) (hns : ∀ n ∈ ns, 1 ≤ n) (hnot : m ∉ ns)
    {f : Field} (hf : OfPreset (m - 1) f) :
  c₁ f = c f
  := by
  apply h.other
  intro n hn _
  have hne : m ≠ n := by
    rintro rfl
    exact hnot hn
  apply hf.disjoint hm (hns n hn) hne

/-- If the preset `n` is filled, and then the presets `ns`, then all of them are. -/
theorem cons
    (h₁ : Filled [n] p c c₁) (h : Filled ns p c₁ c₂) (hns : ∀ m ∈ n :: ns, 1 ≤ m)
    (hnot : n ∉ ns) :
  Filled (n :: ns) p c c₂
  := by
  have hn := hns n (.head _)
  have hrest : ∀ m ∈ ns, 1 ≤ m := fun m hm => hns m (.tail _ hm)
  have hfirst {m : Nat} (hm : m ∈ ns) {f : Field} (hf : OfPreset (m - 1) f) : c₁ f = c f := by
    apply h₁.apart (hrest m hm) (fun _ hn' => List.mem_singleton.mp hn' ▸ hn) _ hf
    intro hmem
    obtain rfl := List.mem_singleton.mp hmem
    exact hnot hm
  constructor
  · intro m hm hset
    rcases List.mem_cons.mp hm with rfl | hm
    · have hint : c₂.int (.presetIsSet (m - 1)) = c₁.int (.presetIsSet (m - 1)) :=
        h.apart hn hrest hnot (.inl rfl)
      have hstr : c₂.str (.presetName (m - 1)) = c₁.str (.presetName (m - 1)) :=
        h.apart hn hrest hnot (.inr rfl)
      rw [hint, hstr]
      apply h₁.special m (.head _) hset
    · apply h.special m hm
      exact Eq.trans (hfirst hm (.inl rfl)) hset
  · intro f hf
    have hlast : c₂ f = c₁ f := by
      apply h.other
      intro m hm hset
      apply hf m (.tail _ hm)
      exact Eq.trans (hfirst hm (.inl rfl)).symm hset
    rw [hlast]
    apply h₁.other
    rintro m hm hset
    obtain rfl := List.mem_singleton.mp hm
    apply hf m (.head _) hset

end Filled

/-- `setSpePreset` on the special preset `n`, set or not, fills it if its name fits. -/
theorem setSpePreset_ok
    {n : Nat} (hn : 1 ≤ n ∧ n ≤ allnum) (hp : text s.ptzPresetName = .ok p)
    (hfits : (p ++ decimal n).length < (s.mem.str (.presetName (n - 1))).length) :
  ∃ c, setSpePreset allnum s n = .ok { s with mem := c } ∧ Filled [n] p s.mem c
  := by
  by_cases hset : s.mem.int (.presetIsSet (n - 1)) = 0
  · apply setSpePreset_fits hn hset hp hfits
  · refine ⟨s.mem, setSpePreset_set hn hset, ?_, fun _ _ => rfl⟩
    rintro m hm hset'
    obtain rfl := List.mem_singleton.mp hm
    exact absurd hset' hset

/-- The loop over the special presets `ns` fills them if their names fit. -/
theorem setSpePresets_ok
    {ns : List Nat} (hns : ∀ n ∈ ns, 1 ≤ n ∧ n ≤ allnum) (hnodup : ns.Nodup)
    (hp : text s.ptzPresetName = .ok p) (hfits : Fits ns p s.mem) :
  ∃ c, ns.foldlM (setSpePreset allnum) s = .ok { s with mem := c } ∧ Filled ns p s.mem c
  := by
  induction ns generalizing s with
  | nil => exact ⟨s.mem, rfl, by simp, fun _ _ => rfl⟩
  | cons n ns ih =>
      obtain ⟨hnot, hnodup⟩ := List.nodup_cons.mp hnodup
      have hn := hns n (.head _)
      have hrest : ∀ m ∈ ns, 1 ≤ m ∧ m ≤ allnum := fun m hm => hns m (.tail _ hm)
      obtain ⟨c₁, hstep, hfirst⟩ := setSpePreset_ok hn hp (hfits n (.head _))
      have hfits₁ : Fits ns p c₁ := by
        intro m hm
        have hstr : c₁.str (.presetName (m - 1)) = s.mem.str (.presetName (m - 1)) := by
          apply hfirst.apart (hrest m hm).1 (fun _ hn' => List.mem_singleton.mp hn' ▸ hn.1) _
            (.inr rfl)
          intro hmem
          obtain rfl := List.mem_singleton.mp hmem
          exact hnot hm
        rw [hstr]
        apply hfits m (.tail _ hm)
      obtain ⟨c, hloop, hfilled⟩ := @ih { s with mem := c₁ } hrest hnodup hp hfits₁
      exact ⟨c, foldlM_cons_ok.mpr ⟨_, hstep, hloop⟩,
        hfirst.cons hfilled (fun m hm => (hns m hm).1) hnot⟩

/-! ### Names that need not fit -/

theorem setSpePreset_cases
    {n : Nat} (hn : 1 ≤ n ∧ n ≤ allnum) (hp : text s.ptzPresetName = .ok p) :
  (∃ c, setSpePreset allnum s n = .ok { s with mem := c })
    ∨ setSpePreset allnum s n = .error .overflow
  := by
  by_cases hset : s.mem.int (.presetIsSet (n - 1)) = 0
  · rw [setSpePreset_unset hn hset hp, Session.setText, strcpy]
    split
    · exact .inl ⟨_, rfl⟩
    · exact .inr rfl
  · exact .inl ⟨s.mem, setSpePreset_set hn hset⟩

theorem setSpePresets_cases
    {ns : List Nat} (hns : ∀ n ∈ ns, 1 ≤ n ∧ n ≤ allnum) (hp : text s.ptzPresetName = .ok p) :
  (∃ c, ns.foldlM (setSpePreset allnum) s = .ok { s with mem := c })
    ∨ ns.foldlM (setSpePreset allnum) s = .error .overflow
  := by
  induction ns generalizing s with
  | nil => exact .inl ⟨s.mem, rfl⟩
  | cons n ns ih =>
      rw [List.foldlM_cons]
      rcases setSpePreset_cases (hns n (.head _)) hp with ⟨c, hc⟩ | herror
      · rw [hc]
        apply @ih { s with mem := c } (fun m hm => hns m (.tail _ hm)) hp
      · rw [herror]
        exact .inr rfl

/-! ### A preset with a number of its own -/

theorem answers_eq {as : List Answer} (h : (as.flatMap Answer.render).length < cmdTmpSize) :
  s.answers as = .ok { s with pRet := s.pRet ++ as }
  := if_pos h

/-- The answer about a preset, with a name from its buffer, fits `cmd_tmp`. -/
theorem presetReply_eq
    {index code : Int} (hindex : IsInt index) (hcode : IsInt code) (hname : name.length < 32) :
  presetReply index [⟨.ptzPresetname, name⟩, ⟨.error, decimal code⟩] s
    = .ok { s with
        pRet := s.pRet ++
          [⟨.ptzPreset, decimal index⟩, ⟨.ptzPresetname, name⟩, ⟨.error, decimal code⟩] }
  := by
  have hkey₁ := length_decimal_le (Key.isInt_code .ptzPreset)
  have hkey₂ := length_decimal_le (Key.isInt_code .ptzPresetname)
  have hkey₃ := length_decimal_le (Key.isInt_code .error)
  have hvalue := length_decimal_le hindex
  have herror := length_decimal_le hcode
  apply answers_eq
  simp only [Answer.render, List.flatMap_cons, List.flatMap_nil, List.cons_append,
    List.length_cons, List.length_append, List.length_nil, cmdTmpSize]
  omega

/-- Behind `storePreset` the preset `i` is set and has its name, and all other fields are as
before. -/
theorem storePreset_mem
    (i : Nat) (hname : nul ∉ name) (hfit : name.length < (s.mem.str (.presetName i)).length) :
  (storePreset i name s).mem.int (.presetIsSet i) = 1
    ∧ text ((storePreset i name s).mem.str (.presetName i)) = .ok name
    ∧ ∀ f, ¬ OfPreset i f → (storePreset i name s).mem f = s.mem f
  := by
  refine ⟨?_, ?_, ?_⟩
  · apply int_set
  · rw [storePreset, Contents.str_setStr]
    apply text_strncpy hname hfit
  · intro f hf
    rw [OfPreset, not_or] at hf
    apply (Contents.setStr_of_ne hf.2).trans (Contents.setInt_of_ne hf.1)

/-- When a preset is stored the buffers for the names keep their sizes, so the names of the special
presets fit still. -/
theorem Fits.store {ns : List Nat} (h : Fits ns p s.mem) (i : Nat) (name : List Char) :
  Fits ns p (storePreset i name s).mem
  := by
  intro n hn
  apply (h n hn).trans_eq
  by_cases hi : n - 1 = i
  · rw [hi, storePreset, Contents.str_setStr, length_strncpy]
    rfl
  · have hkept : (storePreset i name s).mem.str (.presetName (n - 1))
        = s.mem.str (.presetName (n - 1)) := by
      apply (Contents.setStr_of_ne (by simp [hi])).trans
      apply Contents.setInt_of_ne (by simp)
    rw [hkept]

/-- The numbers of the special presets are those of presets, if the table has 128 at least. -/
theorem spePresetIndex_le (h : 128 ≤ allnum) : ∀ n ∈ spePresetIndex, 1 ≤ n ∧ n ≤ allnum := by
  have hle : ∀ n ∈ spePresetIndex, 1 ≤ n ∧ n ≤ 128 := by decide
  intro n hn
  have hn' := hle n hn
  omega

/-- If all names fit, `setPresets` stores the preset at `i`, fills the special ones, and marks the
file. -/
theorem setPresets_ok
    (h128 : 128 ≤ allnum) {i : Nat} (hi : i < allnum) (hname : text s.ptzPresetName = .ok name)
    (hfits : Fits spePresetIndex (getPrenamestring name) (storePreset i name s).mem) :
  ∃ c buf, setPresets allnum i s
      = .ok (({ s with mem := c, ptzPresetName := buf } : Session).setFileChanged .ptzPreset)
    ∧ Filled spePresetIndex (getPrenamestring name) (storePreset i name s).mem c
  := by
  obtain ⟨buf, hcut, hp⟩ := PresetName.getPrenamestring_refines hname
  obtain ⟨c, hloop, hfilled⟩ := @setSpePresets_ok allnum
    { storePreset i name s with ptzPresetName := buf } _ _ (spePresetIndex_le h128) (by decide) hp
    hfits
  refine ⟨c, buf, ?_, hfilled⟩
  rw [setPresets, bounded_eq (by omega), Int.toNat_natCast]
  apply bind_ok.mpr ⟨name, hname, _⟩
  apply bind_ok.mpr ⟨buf, _, _⟩
  · show inName (PresetName.getPrenamestring s.ptzPresetName) = _
    rw [hcut]
    rfl
  · exact bind_ok.mpr ⟨_, hloop, rfl⟩

/-- What a request to set the preset `k` does to the table: it is set and named, the special ones
are filled, and all else is as before. -/
structure PresetSet (k : Nat) (name p : List Char) (c c' : Contents) : Prop where
  isSet : c'.int (.presetIsSet (k - 1)) = 1
  named : text (c'.str (.presetName (k - 1))) = .ok name
  special : ∀ n ∈ spePresetIndex, n ≠ k → c.int (.presetIsSet (n - 1)) = 0 →
    c'.int (.presetIsSet (n - 1)) = 1 ∧ text (c'.str (.presetName (n - 1))) = .ok (p ++ decimal n)
  other : ∀ f : Field, ¬ OfPreset (k - 1) f →
    (∀ n ∈ spePresetIndex, c.int (.presetIsSet (n - 1)) = 0 → ¬ OfPreset (n - 1) f) → c' f = c f

/-- If the preset `k` is stored, and then the special ones are filled, then it has been set in the
sense of `PresetSet`. -/
theorem PresetSet.of_filled
    {k : Nat} (hk : 1 ≤ k) (hname : nul ∉ name)
    (hfit : name.length < (s.mem.str (.presetName (k - 1))).length) {c : Contents}
    (h : Filled spePresetIndex p (storePreset (k - 1) name s).mem c) :
  PresetSet k name p s.mem c
  := by
  obtain ⟨hisSet, hnamed, hother⟩ := storePreset_mem (k - 1) hname hfit
  have hpos : ∀ n ∈ spePresetIndex, 1 ≤ n := by decide
  -- the preset `k` is not filled, as it is set
  have hkept {f : Field} (hf : OfPreset (k - 1) f) :
      c f = (storePreset (k - 1) name s).mem f := by
    apply h.other
    intro n hn hunset
    have hne : k ≠ n := by
      rintro rfl
      rw [hisSet] at hunset
      contradiction
    apply hf.disjoint hk (hpos n hn) hne
  have hbefore {n : Nat} (hn : n ∈ spePresetIndex) (hne : n ≠ k) :
      (storePreset (k - 1) name s).mem.int (.presetIsSet (n - 1))
        = s.mem.int (.presetIsSet (n - 1)) :=
    hother _ (OfPreset.disjoint (hpos n hn) hk hne (.inl rfl))
  constructor
  · exact (hkept (.inl rfl)).trans hisSet
  · have hstr : c.str (.presetName (k - 1))
        = (storePreset (k - 1) name s).mem.str (.presetName (k - 1)) := hkept (.inr rfl)
    rw [hstr, hnamed]
  · intro n hn hne hset
    apply h.special n hn
    rw [hbefore hn hne, hset]
  · intro f hf hspecial
    rw [h.other f _, hother f hf]
    intro n hn hunset
    by_cases hne : n = k
    · subst hne
      rw [hisSet] at hunset
      contradiction
    · apply hspecial n hn
      rw [← hbefore hn hne, hunset]

/-- A buffer with a name that is not empty does not begin with the end of a string. -/
theorem head_ne_nul {buf : List Char} (h : text buf = .ok name) (hne : name ≠ []) :
  buf.head? ≠ some nul
  := by
  obtain ⟨hnot, rest, rfl⟩ := exists_of_text h
  cases name with
  | nil => contradiction
  | cons c name =>
      intro hhead
      obtain rfl := Option.some.inj hhead
      exact hnot (.head _)

/-- A name whose end is in its buffer is shorter than the buffer. -/
theorem length_lt_of_text {buf : List Char} (h : text buf = .ok name) :
  name.length < buf.length
  := by
  obtain ⟨-, rest, rfl⟩ := exists_of_text h
  simp

/-- The part of `deal_ptz_preset` that is left, for `T_Set`, when the number is in the table and the
name ends in its buffer and is not empty. -/
theorem deal_named
    (hin : ¬ (s.ptzpresetIndex < 0 ∨ s.ptzpresetIndex > allnum)) (hset : s.cmdType = tSet)
    (hname : text s.ptzPresetName = .ok name) (hne : name ≠ []) :
  dealPtzPreset allnum s
    = if s.ptzpresetIndex = 0 then
        if getPresetIndex name - 1 = allnum then s.answer .error (decimal errorPtzIndexOver)
        else (do
          let s ← presetReply (getPresetIndex name - 1 + 1)
            [⟨.ptzPresetname, name⟩, ⟨.error, decimal resultOk⟩] s
          setPresets allnum (getPresetIndex name - 1)
            (s.effect (.mctpCmd (ptzcmd setPreset (getPresetIndex name - 1 + 1)))))
      else (do
        let s' ← presetReply s.ptzpresetIndex
          [⟨.ptzPresetname, name⟩, ⟨.error, decimal resultOk⟩] s
        let s' ← setPresets allnum (s.ptzpresetIndex - 1) s'
        .ok (s'.effect (.mctpCmd (ptzcmd setPreset s.ptzpresetIndex))))
  := by
  unfold dealPtzPreset
  dsimp only
  rw [if_neg hin, if_pos hset, if_neg (head_ne_nul hname hne),
    PresetName.getPresetIndex_refines hname, hname]
  simp only [inName, Option.elim_some, bind, Except.bind]

/-- A `T_Set` request for a preset with a number of its own, from 1 to `PTZ_PRESET_ALLNUM`, and a
name that fits, with what is generated from it: the preset is set with the name; each special
preset that was not set, and is not this one, is set with the name up to its digits, and its own
number; nothing else in the table changes, and the file of the presets is marked. -/
theorem set_preset_spec
    {k : Nat} {digits : List Char} (h128 : 128 ≤ allnum) (h255 : allnum ≤ 255)
    (hk : 1 ≤ k ∧ k ≤ allnum) (hindex : s.ptzpresetIndex = k) (hset : s.cmdType = tSet)
    (hsize : s.ptzPresetName.length = 32) (hname : text s.ptzPresetName = .ok name)
    (hne : name ≠ []) (hsplit : PresetName.Split name p digits)
    (hfit : name.length < (s.mem.str (.presetName (k - 1))).length)
    (hfits : Fits spePresetIndex p s.mem) :
  ∃ s', dealPtzPreset allnum s = .ok s' ∧ PresetSet k name p s.mem s'.mem
    ∧ isSetFileChanged s'.fileChangedFlag .ptzPreset = true
  := by
  obtain ⟨rfl, -⟩ := hsplit.eq
  have hint : IsInt k := ⟨by omega, by omega⟩
  have hlen := length_lt_of_text hname
  have hnot := (exists_of_text hname).1
  have hi : (k : Int) - 1 = (k - 1 : Nat) := by omega
  rw [deal_named (by omega) hset hname hne, hindex, if_neg (by omega),
    presetReply_eq hint (by decide) (by omega)]
  obtain ⟨c, buf, hrun, hfilled⟩ := @setPresets_ok allnum
    { s with
      pRet := s.pRet ++
        [⟨.ptzPreset, decimal k⟩, ⟨.ptzPresetname, name⟩, ⟨.error, decimal resultOk⟩] }
    name h128 (k - 1) (by omega) hname (hfits.store (k - 1) name)
  refine ⟨_, bind_ok.mpr ⟨_, rfl, bind_ok.mpr ⟨_, hi ▸ hrun, rfl⟩⟩, ?_, ?_⟩
  · apply PresetSet.of_filled hk.1 hnot hfit hfilled
  · show isSetFileChanged (setFileChanged s.fileChangedFlag .ptzPreset) .ptzPreset = true
    simp

/-- A session for `T_Set` in which the preset 2 is to be set, with the name `cam7`. -/
def namedCam7 : Session :=
  { Session.start .idle .blank with
    cmdType := tSet
    ptzpresetIndex := 2
    ptzPresetIn := 2
    ptzPresetName := "cam7".toList ++ List.replicate 28 nul }

/-- In the session `namedCam7` the preset 2 is set as `cam7`, and with it `cam95`, `cam101` and so
on. -/
theorem set_preset_spec_cam7 :
  ∃ s', dealPtzPreset 128 namedCam7 = .ok s'
    ∧ PresetSet 2 "cam7".toList "cam".toList namedCam7.mem s'.mem
    ∧ isSetFileChanged s'.fileChangedFlag .ptzPreset = true
  := by
  have hname : text namedCam7.ptzPresetName = .ok "cam7".toList := by decide
  have hsplit : PresetName.Split "cam7".toList "cam".toList "7".toList := .of_decide (by decide)
  apply set_preset_spec (by decide) (by decide) (by decide) rfl rfl (by decide) hname (by decide)
    hsplit
  · decide
  · unfold Fits
    decide

/-! ### What a request asks for -/

/-- What a pair of a request asks for about a preset: its number, how often there was such a pair,
and the buffer of the name. -/
def askPair (asked : Int × Nat × List Char) (pair : List Char × List Char) :
    Int × Nat × List Char :=
  match Key.ofCode (atoi pair.1) with
  | some .ptzPreset => (atoi pair.2, asked.2.1 + 1, asked.2.2)
  | some .ptzPresetname => (asked.1, asked.2.1 + 1, strncpy asked.2.2 pair.2)
  | _ => asked

/-- What a request asks for about a preset, with the name as `ptz_preset_name` comes uninitialised
if there is none. -/
def askedBy (env : Env) (req : Request) : Int × Nat × List Char :=
  req.foldl askPair (0, 0, env.ptzPresetName)

/-- The request `req` has a pair for the `key`. -/
def Has (req : Request) (key : Key) : Prop := ∃ pair ∈ req, Key.ofCode (atoi pair.1) = some key

theorem asksPreset_iff (key : Key) :
  key.branch.AsksPreset ↔ key = .ptzPreset ∨ key = .ptzPresetname
  := by
  cases key
  all_goals decide

/-- A pair that is handled makes of what is asked about a preset what `askPair` computes. -/
theorem processPair_asked {pair : List Char × List Char} (h : processPair env s pair = .ok s') :
  s'.asked = askPair s.asked pair
  := by
  unfold processPair at h
  unfold askPair
  split at h
  · next key hkey =>
      rw [hkey]
      by_cases hasks : key.branch.AsksPreset
      · rcases (asksPreset_iff key).mp hasks with rfl | rfl
        · obtain rfl := Except.ok.inj h
          rfl
        · obtain rfl := Except.ok.inj h
          rfl
      · have hkept := Branch.run_unasked hasks _ h
        have hne := mt (asksPreset_iff key).mpr hasks
        split
        · next heq => exact absurd (.inl (Option.some.inj heq)) hne
        · next heq => exact absurd (.inr (Option.some.inj heq)) hne
        · exact hkept
  · next hnone =>
      obtain rfl := Except.ok.inj h
      rw [hnone]

theorem processPairs_asked {req : Request} (h : processPairs env req s = .ok s') :
  s'.asked = req.foldl askPair s.asked
  := by
  induction req generalizing s with
  | nil =>
      obtain rfl := foldlM_nil_ok.mp h
      rfl
  | cons pair req ih =>
      obtain ⟨s₁, hpair, hreq⟩ := foldlM_cons_ok.mp h
      rw [ih hreq, processPair_asked hpair, List.foldl_cons]

/-! ### What becomes of a name -/

/-- The number at the end of the name in the buffer `buf`. -/
def nameNumber (buf : List Char) : Nat := digitsValue (digitSuffix (buf.takeWhile (· ≠ nul)))

theorem getPresetIndex_nameNumber {buf : List Char} (h : text buf = .ok name) :
  getPresetIndex name = min 2147483647 (nameNumber buf : Int)
  := by
  rw [text, if_pos (mem_of_text h)] at h
  obtain rfl := Except.ok.inj h
  apply atoi_digits (PresetName.split_name _).digits

/-- The request is answered with an error, and changes nothing in the configuration. -/
def Refused (allnum : Nat) (s : Session) : Prop :=
  ∃ s' as t, finishPreset allnum s = .ok s' ∧ s'.pRet = s.pRet ++ as ∧ ⟨.error, t⟩ ∈ as
    ∧ t ≠ decimal resultOk ∧ s'.mem = s.mem

/-- A preset is set, and this is answered without an error; or a name overflows the buffer for
it. -/
def Sets (allnum : Nat) (s : Session) : Prop :=
  (∃ s' index name, dealPtzPreset allnum s = .ok s' ∧ s'.pRet = s.pRet ++
      [⟨.ptzPreset, index⟩, ⟨.ptzPresetname, name⟩, ⟨.error, decimal resultOk⟩])
    ∨ dealPtzPreset allnum s = .error .overflow

/-- For a preset `i` in the table `setPresets` succeeds, or a name overflows its buffer. -/
theorem setPresets_cases
    (h128 : 128 ≤ allnum) {i : Int} (hi : 0 ≤ i ∧ i < allnum)
    (hname : text s.ptzPresetName = .ok name) :
  (∃ s', setPresets allnum i s = .ok s' ∧ s'.pRet = s.pRet)
    ∨ setPresets allnum i s = .error .overflow
  := by
  obtain ⟨buf, hcut, hp⟩ := PresetName.getPrenamestring_refines hname
  have hbuf : inName (PresetName.getPrenamestring (storePreset i.toNat name s).ptzPresetName)
      = .ok buf := by
    show inName (PresetName.getPrenamestring s.ptzPresetName) = _
    rw [hcut]
    rfl
  have hloop := @setSpePresets_cases allnum
    { storePreset i.toNat name s with ptzPresetName := buf } _ _ (spePresetIndex_le h128) hp
  rw [setPresets, bounded_eq hi]
  simp only [bind, Except.bind, hname, hbuf] at hloop ⊢
  rcases hloop with ⟨c, hc⟩ | herror
  · rw [hc]
    exact .inl ⟨_, rfl, rfl⟩
  · rw [herror]
    exact .inr rfl

/-- For a preset `i` outside of the table `setPresets` accesses an entry that is not there. -/
theorem setPresets_outside {i : Int} (hi : ¬ (0 ≤ i ∧ i < allnum)) :
  setPresets allnum i s = .error (.index .presets)
  := by
  rw [setPresets, bounded_error hi]
  rfl

section Deal

variable (hsize : s.ptzPresetName.length = 32) (hset : s.cmdType = tSet)

include hset

/-- A name whose end is not in the buffer is read past it, if its number is in the table. -/
theorem deal_unterminated
    (hin : ¬ (s.ptzpresetIndex < 0 ∨ s.ptzpresetIndex > allnum)) (hnot : nul ∉ s.ptzPresetName)
    (hhead : s.ptzPresetName.head? ≠ some nul) :
  dealPtzPreset allnum s = .error .unterminated
  := by
  have hscan : PresetName.getPresetIndex s.ptzPresetName = none := by
    rw [PresetName.getPresetIndex, PresetName.toEnd, Scan.forward_none (ne_nul hnot)]
    rfl
  unfold dealPtzPreset
  dsimp only
  rw [if_neg hin, if_pos hset, if_neg hhead, hscan]
  rfl

include hsize

/-- A preset with a number of its own, from 1 to `allnum`, is set. -/
theorem deal_index
    (h128 : 128 ≤ allnum) (h255 : allnum ≤ 255) (hname : text s.ptzPresetName = .ok name)
    (hne : name ≠ []) (hin : 1 ≤ s.ptzpresetIndex ∧ s.ptzpresetIndex ≤ allnum) :
  Sets allnum s
  := by
  have hlen := length_lt_of_text hname
  have hint : IsInt s.ptzpresetIndex := ⟨by omega, by omega⟩
  rw [Sets, deal_named (by omega) hset hname hne, if_neg (by omega),
    presetReply_eq hint (by decide) (by omega)]
  simp only [bind, Except.bind]
  rcases @setPresets_cases allnum
    { s with
      pRet := s.pRet ++ [⟨.ptzPreset, decimal s.ptzpresetIndex⟩, ⟨.ptzPresetname, name⟩,
        ⟨.error, decimal resultOk⟩] } name h128 (s.ptzpresetIndex - 1) (by omega) hname with
    ⟨s', hs', hpRet⟩ | herror
  · rw [hs']
    exact .inl ⟨_, _, _, rfl, hpRet⟩
  · rw [herror]
    exact .inr rfl

/-- A preset with the number 0 is set under the number of its name, if that is from 1 to
`allnum`. -/
theorem deal_number
    (h128 : 128 ≤ allnum) (h255 : allnum ≤ 255) (hname : text s.ptzPresetName = .ok name)
    (hne : name ≠ []) (hzero : s.ptzpresetIndex = 0)
    (hin : 1 ≤ nameNumber s.ptzPresetName ∧ nameNumber s.ptzPresetName ≤ allnum) :
  Sets allnum s
  := by
  have hlen := length_lt_of_text hname
  have hnumber := getPresetIndex_nameNumber hname
  have hint : IsInt (getPresetIndex name - 1 + 1) := ⟨by omega, by omega⟩
  rw [Sets, deal_named (by omega) hset hname hne, if_pos hzero, if_neg (by omega),
    presetReply_eq hint (by decide) (by omega)]
  simp only [bind, Except.bind]
  rcases @setPresets_cases allnum
    (({ s with
      pRet := s.pRet ++ [⟨.ptzPreset, decimal (getPresetIndex name - 1 + 1)⟩,
        ⟨.ptzPresetname, name⟩, ⟨.error, decimal resultOk⟩] } : Session).effect
      (.mctpCmd (ptzcmd setPreset (getPresetIndex name - 1 + 1)))) name h128
    (getPresetIndex name - 1) (by omega) hname with
    ⟨s', hs', hpRet⟩ | herror
  · rw [hs']
    exact .inl ⟨_, _, _, rfl, hpRet⟩
  · rw [herror]
    exact .inr rfl

/-- With the number 0, a number of the name that is outside of the table, and not the one behind it,
is used all the same. -/
theorem deal_outside
    (h255 : allnum ≤ 255) (hname : text s.ptzPresetName = .ok name)
    (hne : name ≠ []) (hzero : s.ptzpresetIndex = 0)
    (hout : ¬ (1 ≤ nameNumber s.ptzPresetName ∧ nameNumber s.ptzPresetName ≤ allnum))
    (hover : nameNumber s.ptzPresetName ≠ allnum + 1) :
  dealPtzPreset allnum s = .error (.index .presets)
  := by
  have hlen := length_lt_of_text hname
  have hnumber := getPresetIndex_nameNumber hname
  have hint : IsInt (getPresetIndex name - 1 + 1) := ⟨by omega, by omega⟩
  rw [deal_named (by omega) hset hname hne, if_pos hzero, if_neg (by omega),
    presetReply_eq hint (by decide) (by omega)]
  simp only [bind, Except.bind]
  apply setPresets_outside
  omega

end Deal

/-- A buffer that does not begin with the end of a string holds a name that is not empty. -/
theorem takeWhile_ne_nil {buf : List Char} (hnul : nul ∈ buf) (hhead : buf.head? ≠ some nul) :
  buf.takeWhile (· ≠ nul) ≠ []
  := by
  cases buf with
  | nil => contradiction
  | cons c buf =>
      have hc : c ≠ nul := fun heq => hhead (heq ▸ rfl)
      simp [hc]

/-! ### The function on names -/

/-- The session `s` without the buffer of the name, which the functions on names do not have. -/
def forget (s : Session) : Session := { s with ptzPresetName := [] }

theorem setText_forget (s : Session) (f : StrField) (v : List Char) :
  (s.setText f v).map forget = (forget s).setText f v
  := by
  have hsame : (forget s).mem = s.mem := rfl
  rw [Session.setText, Session.setText, hsame]
  cases strcpy (s.mem.str f) v with
  | error e => rfl
  | ok buf => rfl

/-- The function `Msg.setSpePreset` on names has no use for the buffer of the name. -/
theorem Msg_setSpePreset_forget (n : Nat) :
  (Msg.setSpePreset p s n).map forget = Msg.setSpePreset p (forget s) n
  := by
  have hsame : (forget s).mem = s.mem := rfl
  rw [Msg.setSpePreset, Msg.setSpePreset, hsame]
  split
  · rfl
  · apply setText_forget

theorem Msg_setPresets_forget (i : Nat) (name : List Char) :
  (Msg.setPresets i name s).map forget = Msg.setPresets i name (forget s)
  := by
  have hstore : forget (storePreset i name s) = storePreset i name (forget s) := rfl
  have hloop (ns : List Nat) (s : Session) :
      (ns.foldlM (Msg.setSpePreset (getPrenamestring name)) s).map forget
        = ns.foldlM (Msg.setSpePreset (getPrenamestring name)) (forget s) := by
    induction ns generalizing s with
    | nil => rfl
    | cons n ns ih =>
        rw [List.foldlM_cons, List.foldlM_cons, ← Msg_setSpePreset_forget]
        cases Msg.setSpePreset (getPrenamestring name) s n with
        | error e => rfl
        | ok s' => apply ih
  rw [Msg.setPresets, Msg.setPresets, ← hstore, ← hloop]
  cases spePresetIndex.foldlM (Msg.setSpePreset (getPrenamestring name))
    (storePreset i name s) with
  | error e => rfl
  | ok s' => rfl

/-- The special preset `n` is set with the buffer as it is with the name, but for the buffer
itself. -/
theorem setSpePreset_forget
    {n : Nat} (hn : 1 ≤ n ∧ n ≤ allnum) (hp : text s.ptzPresetName = .ok p) :
  (setSpePreset allnum s n).map forget = Msg.setSpePreset p (forget s) n
  := by
  rw [← Msg_setSpePreset_forget, Msg.setSpePreset]
  split
  · next hset => rw [setSpePreset_set hn hset]
  · next hset => rw [setSpePreset_unset hn (not_not.mp hset) hp]

theorem setSpePresets_forget
    {ns : List Nat} (hns : ∀ n ∈ ns, 1 ≤ n ∧ n ≤ allnum) (hp : text s.ptzPresetName = .ok p) :
  (ns.foldlM (setSpePreset allnum) s).map forget = ns.foldlM (Msg.setSpePreset p) (forget s)
  := by
  induction ns generalizing s with
  | nil => rfl
  | cons n ns ih =>
      rw [List.foldlM_cons, List.foldlM_cons, ← setSpePreset_forget (hns n (.head _)) hp]
      rcases setSpePreset_cases (hns n (.head _)) hp with ⟨c, hc⟩ | herror
      · rw [hc]
        apply @ih { s with mem := c } (fun m hm => hns m (.tail _ hm)) hp
      · rw [herror]
        rfl

theorem setPresets_forget
    (h128 : 128 ≤ allnum) {i : Int} (hi : 0 ≤ i ∧ i < allnum)
    (hname : text s.ptzPresetName = .ok name) :
  (setPresets allnum i s).map forget = (Msg.setPresets i.toNat name s).map forget
  := by
  obtain ⟨buf, hcut, hp⟩ := PresetName.getPrenamestring_refines hname
  have hbuf : inName (PresetName.getPrenamestring (storePreset i.toNat name s).ptzPresetName)
      = .ok buf := by
    show inName (PresetName.getPrenamestring s.ptzPresetName) = _
    rw [hcut]
    rfl
  have hloop := @setSpePresets_forget allnum
    { storePreset i.toNat name s with ptzPresetName := buf } _ _ (spePresetIndex_le h128) hp
  have hstore : forget { storePreset i.toNat name s with ptzPresetName := buf }
      = storePreset i.toNat name (forget s) := rfl
  rw [Msg_setPresets_forget, setPresets, bounded_eq hi, Msg.setPresets, ← hstore, ← hloop]
  simp only [bind, Except.bind, hname, hbuf]
  cases spePresetIndex.foldlM (setSpePreset allnum)
    { storePreset i.toNat name s with ptzPresetName := buf } with
  | error e => rfl
  | ok s' => rfl

/-- If two continuations agree but for the buffer, they do so behind the answer about a preset. -/
theorem presetReply_bind
    {index : Int} {rest : List Answer} {f g : Session → Except Fault Session}
    (h : ∀ pRet, (f { s with pRet := pRet }).map forget = (g { s with pRet := pRet }).map forget) :
  (presetReply index rest s >>= f).map forget = (presetReply index rest s >>= g).map forget
  := by
  unfold presetReply Session.answers
  split
  · apply h
  · rfl

/-- If two computations agree but for the buffer, and what follows them depends on all else only,
then the two sequences agree but for it. -/
theorem bind_forget
    {x y : Except Fault Session} {f g : Session → Except Fault Session}
    (h : x.map forget = y.map forget)
    (hf : ∀ s' s'', forget s' = forget s'' → (f s').map forget = (g s'').map forget) :
  (x >>= f).map forget = (y >>= g).map forget
  := by
  cases x with
  | error e =>
      cases y with
      | error e' =>
          obtain rfl := Except.error.inj h
          rfl
      | ok s'' => contradiction
  | ok s' =>
      cases y with
      | error e' => contradiction
      | ok s'' => apply hf s' s'' (Except.ok.inj h)

/-- For a name that ends in its buffer, `dealPtzPreset` does what `Msg.dealPtzPreset` does on names,
but for the buffer. -/
theorem deal_named_refines
    (hin : ¬ (s.ptzpresetIndex < 0 ∨ s.ptzpresetIndex > ptzPresetAllnum))
    (hset : s.cmdType = tSet) (hname : text s.ptzPresetName = .ok name) (hne : name ≠ []) :
  (dealPtzPreset ptzPresetAllnum s).map forget = (Msg.dealPtzPreset s).map forget
  := by
  have h128 : 128 ≤ ptzPresetAllnum := Nat.le_refl _
  rw [deal_named hin hset hname hne]
  unfold Msg.dealPtzPreset
  dsimp only
  rw [if_neg hin, if_pos hset, if_neg (head_ne_nul hname hne), hname]
  show _ = (if _ then _ else _ : Except Fault Session).map forget
  split
  · split
    · rfl
    · apply presetReply_bind
      intro pRet
      by_cases hi : 0 ≤ getPresetIndex name - 1 ∧ getPresetIndex name - 1 < ptzPresetAllnum
      · have hloop := @setPresets_forget ptzPresetAllnum
          (({ s with pRet := pRet } : Session).effect
            (.mctpCmd (ptzcmd setPreset (getPresetIndex name - 1 + 1)))) name h128 _ hi hname
        rw [bounded_eq hi]
        dsimp only [bind, Except.bind]
        exact hloop
      · rw [bounded_error hi, setPresets_outside hi]
        rfl
  · apply presetReply_bind
    intro pRet
    have hloop := @setPresets_forget ptzPresetAllnum { s with pRet := pRet } name h128
      (s.ptzpresetIndex - 1) (by omega) hname
    apply bind_forget hloop
    intro s' s'' hsame
    show Except.ok _ = Except.ok _
    apply congrArg Except.ok
    apply congrArg (fun t : Session => t.effect (.mctpCmd (ptzcmd setPreset s.ptzpresetIndex))) hsame

/-- The buffers are a matter of `deal_ptz_preset` alone: but for what becomes of the name, it is
the function that is used for a request. -/
theorem dealPtzPreset_refines (s : Session) :
  (dealPtzPreset ptzPresetAllnum s).map forget = (Msg.dealPtzPreset s).map forget
  := by
  by_cases hin : s.ptzpresetIndex < 0 ∨ s.ptzpresetIndex > ptzPresetAllnum
  · unfold dealPtzPreset Msg.dealPtzPreset
    dsimp only
    rw [if_pos hin, if_pos hin]
  · by_cases hset : s.cmdType = tSet
    · by_cases hhead : s.ptzPresetName.head? = some nul
      · unfold dealPtzPreset Msg.dealPtzPreset
        dsimp only
        rw [if_neg hin, if_neg hin, if_pos hset, if_pos hset, if_pos hhead, if_pos hhead]
      · by_cases hnul : nul ∈ s.ptzPresetName
        · apply deal_named_refines hin hset (if_pos hnul) (takeWhile_ne_nil hnul hhead)
        · rw [deal_unterminated hset hin hnul hhead]
          unfold Msg.dealPtzPreset
          dsimp only
          rw [if_neg hin, if_pos hset, if_neg hhead, text, if_neg hnul]
          rfl
    · unfold dealPtzPreset Msg.dealPtzPreset
      dsimp only
      rw [if_neg hin, if_neg hin, if_neg hset, if_neg hset]
      split
      · rfl
      · rw [bounded_eq (by omega)]
        rfl

/-! ### Safety -/

/-- What a request to set a preset may do: it stays inside the table and inside the buffer of the
name, and it is refused when its number is 0 and the name has none of a preset, and when it comes
without a name. -/
structure PresetSafe (allnum : Nat) (named : Prop) (s : Session) : Prop where
  inTable : finishPreset allnum s ≠ .error (.index .presets)
  inName : finishPreset allnum s ≠ .error .unterminated
  noNumber : s.ptzpresetIndex = 0 →
    ¬ (1 ≤ nameNumber s.ptzPresetName ∧ nameNumber s.ptzPresetName ≤ allnum) → Refused allnum s
  noName : ¬ named → Refused allnum s

/-- The number that is asked for is not one of a preset, or the name is empty; or the name ends in
its buffer and has been given, and if its number is used that is one of a preset.  The number behind
the last preset is refused. -/
def Careful (allnum : Nat) (named : Prop) (index : Int) (buf : List Char) : Prop :=
  (index < 0 ∨ index > allnum) ∨ buf.head? = some nul ∨ nul ∈ buf
    ∧ ((index = 0 ∧ nameNumber buf = allnum + 1) ∨ named
      ∧ (index = 0 → 1 ≤ nameNumber buf ∧ nameNumber buf ≤ allnum))

theorem finishPreset_ok (hin : s.ptzPresetIn ≠ 0) (h : dealPtzPreset allnum s = .ok s') :
  finishPreset allnum s = .ok { s' with ret := s'.ret + 1 }
  := by
  rw [finishPreset, if_pos hin, h]
  rfl

theorem finishPreset_error {e : Fault} (hin : s.ptzPresetIn ≠ 0) :
  finishPreset allnum s = .error e ↔ dealPtzPreset allnum s = .error e
  := by
  rw [finishPreset, if_pos hin]
  cases dealPtzPreset allnum s with
  | error e' => simp [Except.map]
  | ok s' => simp [Except.map]

/-- If `dealPtzPreset` answers an error and does nothing else, the request is `Refused`. -/
theorem Refused.of_deal
    {as : List Answer} {t : List Char} (hin : s.ptzPresetIn ≠ 0)
    (h : dealPtzPreset allnum s = .ok { s with pRet := s.pRet ++ as })
    (hmem : (⟨.error, t⟩ : Answer) ∈ as) (ht : t ≠ decimal resultOk) :
  Refused allnum s
  := ⟨_, as, t, finishPreset_ok hin h, rfl, hmem, ht, rfl⟩

theorem PresetSafe.of_refused {named : Prop} (h : Refused allnum s) : PresetSafe allnum named s := by
  obtain ⟨s', as, t, hrun, hrest⟩ := h
  refine ⟨?_, ?_, fun _ _ => ⟨s', as, t, hrun, hrest⟩, fun _ => ⟨s', as, t, hrun, hrest⟩⟩
  · rw [hrun]
    simp
  · rw [hrun]
    simp

/-- A request that `Sets` a preset is not `Refused`. -/
theorem Sets.not_refused (hin : s.ptzPresetIn ≠ 0) (h : Sets allnum s) : ¬ Refused allnum s := by
  rintro ⟨s', as, t, hrun, hpRet, hmem, ht, -⟩
  rcases h with ⟨s₁, index, name, hdeal, hpRet₁⟩ | herror
  · rw [finishPreset_ok hin hdeal] at hrun
    obtain rfl := Except.ok.inj hrun
    have hsame : s₁.pRet = s.pRet ++ as := hpRet
    rw [hpRet₁] at hsame
    obtain rfl := List.append_cancel_left hsame
    simp at hmem
    exact ht hmem
  · rw [(finishPreset_error hin).mpr herror] at hrun
    contradiction

/-- A request that `Sets` a preset is `PresetSafe` exactly if a name has been given, if its number
is not used or is one of a preset. -/
theorem Sets.safe_iff
    {named : Prop} (hin : s.ptzPresetIn ≠ 0) (h : Sets allnum s)
    (hnumber : s.ptzpresetIndex = 0 →
      1 ≤ nameNumber s.ptzPresetName ∧ nameNumber s.ptzPresetName ≤ allnum) :
  PresetSafe allnum named s ↔ named
  := by
  constructor
  · intro hsafe
    by_contra hnot
    exact h.not_refused hin (hsafe.noName hnot)
  · intro hnamed
    have hfault {e : Fault} (he : e ≠ .overflow) : finishPreset allnum s ≠ .error e := by
      intro hrun
      rw [finishPreset_error hin] at hrun
      rcases h with ⟨s₁, _, _, hdeal, _⟩ | herror
      · rw [hdeal] at hrun
        contradiction
      · rw [herror] at hrun
        exact he (Except.error.inj hrun).symm
    exact ⟨hfault (by simp), hfault (by simp), fun hzero hnot => absurd (hnumber hzero) hnot,
      fun hnot => absurd hnamed hnot⟩

/-- A request whose number is not one of a preset is `Refused`. -/
theorem refused_index
    (hin : s.ptzPresetIn ≠ 0) (hint : IsInt s.ptzpresetIndex)
    (hout : s.ptzpresetIndex < 0 ∨ s.ptzpresetIndex > allnum) :
  Refused allnum s
  := by
  have hkey := length_decimal_le (Key.isInt_code .ptzPreset)
  have hkey' := length_decimal_le (Key.isInt_code .error)
  have hvalue := length_decimal_le hint
  have herror := length_decimal_le (v := errorPtzIndexOutRange) (by decide)
  have hdeal : dealPtzPreset allnum s = .ok { s with
      pRet := s.pRet ++
        [⟨.ptzPreset, decimal s.ptzpresetIndex⟩, ⟨.error, decimal errorPtzIndexOutRange⟩] } := by
    unfold dealPtzPreset
    dsimp only
    rw [if_pos hout, presetReply]
    apply answers_eq
    simp only [Answer.render, List.flatMap_cons, List.flatMap_nil, List.cons_append,
      List.length_cons, List.length_append, List.length_nil, cmdTmpSize]
    omega
  apply Refused.of_deal hin hdeal (.tail _ (.head _)) (by decide)

/-- A request with an empty name is `Refused`. -/
theorem refused_empty
    (hin : s.ptzPresetIn ≠ 0) (hint : IsInt s.ptzpresetIndex) (hset : s.cmdType = tSet)
    (hidx : ¬ (s.ptzpresetIndex < 0 ∨ s.ptzpresetIndex > allnum))
    (hhead : s.ptzPresetName.head? = some nul) :
  Refused allnum s
  := by
  have hdeal : dealPtzPreset allnum s = .ok { s with
      pRet := s.pRet ++ [⟨.ptzPreset, decimal s.ptzpresetIndex⟩, ⟨.ptzPresetname, []⟩,
        ⟨.error, decimal errorPtzPresetnameEmpty⟩] } := by
    unfold dealPtzPreset
    dsimp only
    rw [if_neg hidx, if_pos hset, if_pos hhead]
    apply presetReply_eq hint (by decide) (by decide)
  apply Refused.of_deal hin hdeal (.tail _ (.tail _ (.head _))) (by decide)

/-- A request with the number 0 and the number behind the last preset in its name is `Refused`. -/
theorem refused_over
    (h255 : allnum ≤ 255) (hin : s.ptzPresetIn ≠ 0) (hset : s.cmdType = tSet)
    (hname : text s.ptzPresetName = .ok name) (hne : name ≠ []) (hzero : s.ptzpresetIndex = 0)
    (hover : nameNumber s.ptzPresetName = allnum + 1) :
  Refused allnum s
  := by
  have hnumber := getPresetIndex_nameNumber hname
  have hdeal : dealPtzPreset allnum s = .ok { s with
      pRet := s.pRet ++ [⟨.error, decimal errorPtzIndexOver⟩] } := by
    rw [deal_named (by omega) hset hname hne, if_pos hzero, if_pos (by omega)]
    apply answer_decimal _ _ (by decide)
  apply Refused.of_deal hin hdeal (.head _) (by decide)

/-- The session behind the pairs of a request is `PresetSafe` exactly if it is `Careful`. -/
theorem presetSafe_iff
    {named : Prop} (h128 : 128 ≤ allnum) (h255 : allnum ≤ 255) (hin : s.ptzPresetIn ≠ 0)
    (hint : IsInt s.ptzpresetIndex) (hset : s.cmdType = tSet)
    (hsize : s.ptzPresetName.length = 32) :
  PresetSafe allnum named s ↔ Careful allnum named s.ptzpresetIndex s.ptzPresetName
  := by
  by_cases hidx : s.ptzpresetIndex < 0 ∨ s.ptzpresetIndex > allnum
  · exact iff_of_true (.of_refused (refused_index hin hint hidx)) (.inl hidx)
  · by_cases hhead : s.ptzPresetName.head? = some nul
    · exact iff_of_true (.of_refused (refused_empty hin hint hset hidx hhead)) (.inr (.inl hhead))
    · rw [Careful, or_iff_right hidx, or_iff_right hhead]
      by_cases hnul : nul ∈ s.ptzPresetName
      · rw [and_iff_right hnul]
        have hname : text s.ptzPresetName = .ok _ := if_pos hnul
        have hne : s.ptzPresetName.takeWhile (· ≠ nul) ≠ [] := takeWhile_ne_nil hnul hhead
        by_cases hzero : s.ptzpresetIndex = 0
        · rw [and_iff_right hzero]
          by_cases hover : nameNumber s.ptzPresetName = allnum + 1
          · have hrefused := refused_over h255 hin hset hname hne hzero hover
            exact iff_of_true (.of_refused hrefused) (.inl hover)
          · rw [or_iff_right hover, imp_iff_right hzero]
            by_cases hrange : 1 ≤ nameNumber s.ptzPresetName
                ∧ nameNumber s.ptzPresetName ≤ allnum
            · have hsets := deal_number hsize hset h128 h255 hname hne hzero hrange
              rw [and_iff_left hrange, hsets.safe_iff hin fun _ => hrange]
            · apply iff_of_false _ fun hcareful => hrange hcareful.2
              intro hsafe
              apply hsafe.inTable
              rw [finishPreset_error hin]
              apply deal_outside hsize hset h255 hname hne hzero hrange hover
        · have hsets := deal_index hsize hset h128 h255 hname hne (by omega)
          rw [or_iff_right fun hand => hzero hand.1, and_iff_left fun heq => absurd heq hzero,
            hsets.safe_iff hin fun heq => absurd heq hzero]
      · apply iff_of_false
        · intro hsafe
          apply hsafe.inName
          rw [finishPreset_error hin]
          apply deal_unterminated hset hidx hnul hhead
        · exact fun hcareful => hnul hcareful.1

/-! ### Requests -/

/-- What is asked for is an `int`, in the buffer that it came with; and each pair is counted. -/
theorem foldl_askPair
    {req : Request} {asked : Int × Nat × List Char} (hint : IsInt asked.1) :
  IsInt (req.foldl askPair asked).1 ∧ asked.2.1 ≤ (req.foldl askPair asked).2.1
    ∧ (req.foldl askPair asked).2.2.length = asked.2.2.length
  := by
  induction req generalizing asked with
  | nil => exact ⟨hint, Nat.le_refl _, rfl⟩
  | cons pair req ih =>
      obtain ⟨hint', hle, hlen⟩ : IsInt (askPair asked pair).1
          ∧ asked.2.1 ≤ (askPair asked pair).2.1
          ∧ (askPair asked pair).2.2.length = asked.2.2.length := by
        unfold askPair
        split
        · exact ⟨isInt_atoi _, Nat.le_succ _, rfl⟩
        · exact ⟨hint, Nat.le_succ _, length_strncpy _⟩
        · exact ⟨hint, Nat.le_refl _, rfl⟩
      obtain ⟨hint'', hle', hlen'⟩ := ih hint'
      exact ⟨hint'', hle.trans hle', hlen'.trans hlen⟩

/-- If the request has a pair for a preset, this is counted. -/
theorem askedBy_ne_zero {req : Request} (h : Has req .ptzPreset) : (askedBy env req).2.1 ≠ 0 := by
  obtain ⟨pair, hmem, hkey⟩ := h
  obtain ⟨before, after, rfl⟩ := List.append_of_mem hmem
  rw [askedBy, List.foldl_append, List.foldl_cons]
  generalize before.foldl askPair (0, 0, env.ptzPresetName) = asked
  have hpair : askPair asked pair = (atoi pair.2, asked.2.1 + 1, asked.2.2) := by
    rw [askPair, hkey]
  have hint : IsInt (askPair asked pair).1 := hpair ▸ isInt_atoi pair.2
  have hafter := (@foldl_askPair after _ hint).2.1
  have hpos : 0 < (askPair asked pair).2.1 := hpair ▸ Nat.succ_pos _
  exact Nat.ne_of_gt (Nat.lt_of_lt_of_le hpos hafter)

/-- Every `T_Set` request with a pair `e_ptz_preset`, with or without a name, and whatever the
32 bytes of `ptz_preset_name` hold before: it is safe exactly if it is careful. -/
theorem preset_request_safe_iff
    {req : Request} (h128 : 128 ≤ allnum) (h255 : allnum ≤ 255)
    (hbuf : env.ptzPresetName.length = 32) (hloop : processPairs env req (.start env d) = .ok s)
    (hset : s.cmdType = tSet) (hpreset : Has req .ptzPreset) :
  PresetSafe allnum (Has req .ptzPresetname) s
    ↔ Careful allnum (Has req .ptzPresetname) (askedBy env req).1 (askedBy env req).2.2
  := by
  have hasked : s.asked = askedBy env req := processPairs_asked hloop
  obtain ⟨hindex, hcount⟩ := Prod.mk.inj hasked
  obtain ⟨hcount, hname⟩ := Prod.mk.inj hcount
  obtain ⟨hint, -, hlen⟩ :=
    @foldl_askPair req (0, 0, env.ptzPresetName) (show IsInt 0 by decide)
  rw [presetSafe_iff h128 h255 (hcount ▸ askedBy_ne_zero hpreset) (hindex ▸ hint) hset
    (hname ▸ hlen.trans hbuf), hindex, hname]
  rfl

/-- Calls for which the buffer of the name is empty before it is assigned. -/
def zeroed : Env := { Env.idle with ptzPresetName := List.replicate 32 nul }

/-- A request with `T_Set`, the preset 2, and the name `cam7` for it. -/
def setCam7 : Request :=
  [(decimal (Key.code .type), "1".toList), (decimal (Key.code .ptzPreset), "2".toList),
    (decimal (Key.code .ptzPresetname), "cam7".toList)]

/-- A request with `T_Set`, the preset 0, and a name without a number for it. -/
def setCam : Request :=
  [(decimal (Key.code .type), "1".toList), (decimal (Key.code .ptzPreset), "0".toList),
    (decimal (Key.code .ptzPresetname), "cam".toList)]

/-- By the request `setCam7` the preset 2 is set inside of the table. -/
theorem preset_request_safe_cam7 :
  ∃ s, processPairs zeroed setCam7 (.start zeroed .blank) = .ok s
    ∧ PresetSafe 128 (Has setCam7 .ptzPresetname) s
  := by
  obtain ⟨s, hs, hset⟩ : ∃ s, processPairs zeroed setCam7 (.start zeroed .blank) = .ok s
      ∧ s.cmdType = tSet := ⟨_, rfl, rfl⟩
  have hnamed : Has setCam7 .ptzPresetname := ⟨_, .tail _ (.tail _ (.head _)), by decide⟩
  refine ⟨s, hs, (preset_request_safe_iff (by decide) (by decide) rfl hs hset
    ⟨_, .tail _ (.head _), by decide⟩).mpr ?_⟩
  right
  right
  refine ⟨by decide, .inr ⟨hnamed, ?_⟩⟩
  intro hzero
  revert hzero
  decide

/-- By the request `setCam` the entry in front of the table is set. -/
theorem preset_request_not_safe :
  ¬ ∀ (env : Env) (req : Request) (d : Device) (s : Session), env.ptzPresetName.length = 32 →
      processPairs env req (.start env d) = .ok s → s.cmdType = tSet → Has req .ptzPreset →
      PresetSafe 128 (Has req .ptzPresetname) s
  := by
  intro h
  obtain ⟨s, hs, hset, hbuf, hindex, hin⟩ : ∃ s,
      processPairs zeroed setCam (.start zeroed .blank) = .ok s ∧ s.cmdType = tSet
        ∧ s.ptzPresetName = "cam".toList ++ List.replicate 29 nul ∧ s.ptzpresetIndex = 0
        ∧ s.ptzPresetIn = 2 := ⟨_, rfl, rfl, rfl, rfl, rfl⟩
  have hsafe := h zeroed setCam .blank s rfl hs hset ⟨_, .tail _ (.head _), by decide⟩
  apply hsafe.inTable
  rw [finishPreset_error (by omega)]
  have hname : text s.ptzPresetName = .ok "cam".toList := by
    rw [hbuf]
    decide
  apply deal_outside (by rw [hbuf]; decide) hset (by decide) hname (by decide) hindex
  · rw [hbuf]
    decide
  · rw [hbuf]
    decide

end Msg.Presets
