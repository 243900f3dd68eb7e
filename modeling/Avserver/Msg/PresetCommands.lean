import Avserver.Msg.Decimal

/-!
# Commands about presets

The requests to delete a preset and to go to one carry the number of the preset as a text.  The
number is kept in an `unsigned char` before it is compared with the bounds of the table, so that
a number below 0 or above 255 is taken for the one that it leaves in a byte.  The commands do
what they say for the number that is asked for exactly if it is one of a byte, or if there is no
preset with the number that it is taken for (`preset_commands_iff`).

The number of presets, `PTZ_PRESET_ALLNUM`, is defined in a header that is not part of the
repository.  It is a parameter here, of at most 255; the branches of a request are the instances
for the number that is used elsewhere.
-/

namespace Msg.Presets

open Library

variable {allnum : Nat} {value : List Char} {s s' : Session} {c : Contents}

/-! ### The branches -/

/-- The contents `c` after all the presets of a table of `allnum` have been forgotten. -/
def clearPresets (allnum : Nat) (c : Contents) : Contents := (List.range allnum).foldl clearPreset c

/-- `e_ptz_goto_preset` -/
def gotoPresetBranch (allnum : Nat) (value : List Char) (s : Session) : Except Fault Session :=
  if s.cmdType = tSet then
    let cValue := toChar (atoi value)
    if cValue > 0 ∧ cValue < allnum + 1 then
      if s.mem.int (.presetIsSet (cValue - 1).toNat) ≠ 0 then
        let s := if cValue = 95 then
            ({ s with mem := clearPresets allnum s.mem, i := allnum }).setFileChanged .ptzPreset
          else s
        gotoReply cValue resultOk (s.effect (.mctpCmd (ptzcmd gotoPreset cValue)))
      else gotoReply cValue errorPtzIndexNotExist s
    else gotoReply cValue errorPtzIndexOutRange s
  else .ok s

/-- `e_ptz_deletepreset` -/
def deletepresetBranch (allnum : Nat) (value : List Char) (s : Session) : Except Fault Session :=
  if s.cmdType = tSet then
    let cValue := toChar (atoi value)
    if cValue ≤ 0 then .ok s
    else if cValue > allnum then .ok s
    else if s.mem.int (.presetIsSet (cValue - 1).toNat) = 0 then .ok s
    else
      .ok ((({ s with mem := clearPreset s.mem (cValue - 1).toNat }).setFileChanged .ptzPreset)
        |>.effect (.mctpCmd (ptzcmd clePreset cValue)))
  else .ok s

/-- The branches of `processMsg` for the two commands are those of this model, for a table of
`ptzPresetAllnum`. -/
theorem branches_eq (value : List Char) (s : Session) :
  Msg.gotoPresetBranch value s = gotoPresetBranch ptzPresetAllnum value s
    ∧ Msg.deletepresetBranch value s = deletepresetBranch ptzPresetAllnum value s
  := ⟨rfl, rfl⟩

/-! ### What the commands are to do -/

/-- The integer at the beginning of the text `value`: behind white space there may be a sign, and
then there are digits. -/
def integerValue (value : List Char) : Int :=
  let digits (t : List Char) : Int := digitsValue (t.takeWhile Char.isDigit)
  let t := value.dropWhile isSpace
  if t.head? = some '-' then -digits t.tail
  else if t.head? = some '+' then digits t.tail
  else digits t

/-- The number `v` is that of a preset in a table of `allnum`, and this preset is set. -/
def Known (allnum : Nat) (s : Session) (v : Int) : Prop :=
  1 ≤ v ∧ v ≤ allnum ∧ s.mem.int (.presetIsSet (v - 1).toNat) ≠ 0

instance (allnum : Nat) (s : Session) (v : Int) : Decidable (Known allnum s v) := by
  unfold Known
  infer_instance

/-- The presets with `P` are cleared in `c'`, with their marks and names, and all else is as in
`c`. -/
structure Cleared (P : Nat → Prop) (c c' : Contents) : Prop where
  isSet : ∀ i, P i → c'.int (.presetIsSet i) = 0
  name : ∀ i, P i → c'.str (.presetName i) = clear (c.str (.presetName i))
  other : ∀ f : Field, (∀ i, P i → f ≠ .int (.presetIsSet i) ∧ f ≠ .str (.presetName i)) →
    c' f = c f

/-- What deleting the preset `v` changes: it is cleared. -/
def deleteChange (v : Int) (c c' : Contents) : Prop := Cleared (· = (v - 1).toNat) c c'

/-- What going to the preset `v` changes: the preset 95 clears all, and any other one nothing. -/
def gotoChange (allnum : Nat) (v : Int) (c c' : Contents) : Prop :=
  if v = 95 then Cleared (· < allnum) c c' else c' = c

/-- A command about the preset `v` does nothing unless the preset is `Known`; for one that is, it
makes the `change`, and the command that is sent carries the number. -/
structure Obeys (allnum : Nat) (change : Int → Contents → Contents → Prop) (command v : Int)
    (s s' : Session) : Prop where
  only : s'.mem ≠ s.mem ∨ s'.effects ≠ s.effects → Known allnum s v
  change : Known allnum s v → change v s.mem s'.mem
  sent : Known allnum s v → s'.effects = s.effects ++ [.mctpCmd (ptzcmd command v)]

/-- The text is taken for the number that it stands for, which a byte can hold, or for one that is
not `Known`. -/
def TakenRight (allnum : Nat) (value : List Char) (s : Session) : Prop :=
  (0 ≤ integerValue value ∧ integerValue value ≤ 255) ∨ ¬ Known allnum s (toChar (atoi value))

/-! ### The number as a byte -/

theorem atoi_eq (value : List Char) :
  atoi value = max (-2147483648) (min 2147483647 (integerValue value))
  := by
  have hhead {t : List Char} {c : Char} (h : ∀ t', t = c :: t' → False) :
      ¬ t.head? = some c := by
    intro heq
    obtain ⟨t', ht'⟩ := List.head?_eq_some_iff.mp heq
    exact h t' ht'
  unfold atoi integerValue
  dsimp only
  generalize value.dropWhile isSpace = t
  split
  · rw [List.head?_cons, if_pos rfl, List.tail_cons]
    omega
  · rw [List.head?_cons, if_neg (by decide), if_pos rfl, List.tail_cons]
    omega
  · next hminus hplus =>
      rw [if_neg (hhead hminus), if_neg (hhead hplus)]
      omega

theorem toChar_atoi (h : 0 ≤ integerValue value ∧ integerValue value ≤ 255) :
  toChar (atoi value) = integerValue value
  := by
  rw [atoi_eq, toChar]
  omega

/-- A number `v` that a byte cannot hold is not that of a preset. -/
theorem not_known
    (hall : allnum ≤ 255) {v : Int} (h : ¬ (0 ≤ v ∧ v ≤ 255)) :
  ¬ Known allnum s v
  := by
  rintro ⟨hlow, hhigh, -⟩
  omega

/-- A branch that `Obeys` for the number that it takes the text for does so for the one that the
text stands for exactly if it is `TakenRight`. -/
theorem Obeys.iff_takenRight
    {change : Int → Contents → Contents → Prop} {command : Int} (hall : allnum ≤ 255)
    (h : Obeys allnum change command (toChar (atoi value)) s s') :
  Obeys allnum change command (integerValue value) s s' ↔ TakenRight allnum value s
  := by
  by_cases hbyte : 0 ≤ integerValue value ∧ integerValue value ≤ 255
  · rw [toChar_atoi hbyte] at h
    exact iff_of_true h (.inl hbyte)
  · have hnot : ¬ Known allnum s (integerValue value) := not_known hall hbyte
    constructor
    · intro hobeys
      right
      intro hknown
      apply hnot
      apply hobeys.only
      right
      rw [h.sent hknown]
      simp
    · rintro (hin | hunknown)
      · exact absurd hin hbyte
      · constructor
        · exact fun hacts => absurd (h.only hacts) hunknown
        · exact fun hknown => absurd hknown hnot
        · exact fun hknown => absurd hknown hnot

/-! ### What the branches do -/

theorem clearPreset_isSet (c : Contents) (i j : Nat) :
  (clearPreset c i).int (.presetIsSet j) = if j = i then 0 else c.int (.presetIsSet j)
  := by
  unfold clearPreset
  apply Eq.trans (Contents.setStr_of_ne (by simp))
  split
  · next hij =>
      subst hij
      apply Function.update_self
  · next hij => apply Contents.setInt_of_ne (by simp [hij])

/-- `clearPreset` clears the preset `i`, and leaves all else alone. -/
theorem clearPreset_cleared (c : Contents) (i : Nat) : Cleared (· = i) c (clearPreset c i) := by
  constructor
  · rintro j rfl
    rw [clearPreset_isSet, if_pos rfl]
  · rintro j rfl
    apply Contents.str_setStr
  · intro f hf
    obtain ⟨hset, hname⟩ := hf i rfl
    rw [clearPreset, Contents.setStr_of_ne hname, Contents.setInt_of_ne hset]

theorem Cleared.none (c : Contents) : Cleared (fun _ => False) c c :=
  ⟨fun _ => False.elim, fun _ => False.elim, fun _ _ => rfl⟩

/-- If the presets with `P` are cleared, and then the preset `n`, then both are. -/
theorem Cleared.cons {P : Nat → Prop} {c' : Contents} (h : Cleared P c c') {n : Nat} (hn : ¬ P n) :
  Cleared (fun i => P i ∨ i = n) c (clearPreset c' n)
  := by
  have hlast := clearPreset_cleared c' n
  constructor
  · rintro i (hi | rfl)
    · rw [clearPreset_isSet]
      split
      · rfl
      · apply h.isSet i hi
    · apply hlast.isSet i rfl
  · rintro i (hi | rfl)
    · have hne : i ≠ n := by
        rintro rfl
        exact hn hi
      apply (hlast.other (.str (.presetName i)) _).trans (h.name i hi)
      rintro j rfl
      simp [hne]
    · apply (hlast.name i rfl).trans
      apply congrArg clear (h.other (.str (.presetName i)) _)
      intro j hj
      have hne : i ≠ j := by
        rintro rfl
        exact hn hj
      simp [hne]
  · intro f hf
    rw [hlast.other f fun i hi => hf i (.inr hi), h.other f fun i hi => hf i (.inl hi)]

/-- The loop of `clearPresets` clears the first `n` presets, and leaves all else alone. -/
theorem clearPresets_cleared (c : Contents) (n : Nat) : Cleared (· < n) c (clearPresets n c) := by
  induction n with
  | zero => simpa [clearPresets] using Cleared.none c
  | succ n ih =>
      have hstep : clearPresets (n + 1) c = clearPreset (clearPresets n c) n := by
        rw [clearPresets, List.range_succ, List.foldl_append]
        rfl
      rw [hstep]
      simpa only [Nat.lt_succ_iff_lt_or_eq] using ih.cons (Nat.lt_irrefl n)

/-- The answer to `e_ptz_goto_preset`, with two numbers of an `int`, fits `cmd_tmp` and is
counted. -/
theorem gotoReply_eq {v error : Int} (hv : IsInt v) (herror : IsInt error) :
  gotoReply v error s = .ok { s with
    ret := s.ret + 1
    pRet := s.pRet ++ [⟨.ptzGotoPreset, decimal v⟩, ⟨.error, decimal error⟩] }
  := by
  have hkey := length_decimal_le (Key.isInt_code .ptzGotoPreset)
  have hkey' := length_decimal_le (Key.isInt_code .error)
  have hvalue := length_decimal_le hv
  have hcode := length_decimal_le herror
  apply if_pos
  simp only [Answer.render, List.flatMap_cons, List.flatMap_nil, List.cons_append,
    List.length_cons, List.length_append, List.length_nil, cmdTmpSize]
  omega

/-- A number that has been taken as a byte is a number of an `int`. -/
theorem isInt_toChar (v : Int) : IsInt (toChar v) := by
  unfold IsInt toChar
  omega

/-- `e_ptz_deletepreset`, for `T_Set`, `Obeys` for the number that its text is taken for. -/
theorem deletepresetBranch_obeys (hset : s.cmdType = tSet) :
  ∃ s', deletepresetBranch allnum value s = .ok s'
    ∧ Obeys allnum deleteChange clePreset (toChar (atoi value)) s s'
  := by
  unfold deletepresetBranch
  rw [if_pos hset]
  dsimp only
  generalize toChar (atoi value) = v
  by_cases hknown : Known allnum s v
  · obtain ⟨hlow, hhigh, hisSet⟩ := hknown
    rw [if_neg (by omega), if_neg (by omega), if_neg hisSet]
    refine ⟨_, rfl, fun _ => ⟨hlow, hhigh, hisSet⟩, fun _ => ?_, fun _ => rfl⟩
    apply clearPreset_cleared
  · have hidle : Obeys allnum deleteChange clePreset v s s :=
      ⟨fun hacts => by simp at hacts, fun h => absurd h hknown, fun h => absurd h hknown⟩
    use s
    refine ⟨?_, hidle⟩
    split
    · rfl
    · next hpos =>
        split
        · rfl
        · next hle =>
            rw [if_pos]
            by_contra hisSet
            exact hknown ⟨by omega, by omega, hisSet⟩

/-- `e_ptz_goto_preset`, for `T_Set`, `Obeys` for the number that its text is taken for. -/
theorem gotoPresetBranch_obeys (hset : s.cmdType = tSet) :
  ∃ s', gotoPresetBranch allnum value s = .ok s'
    ∧ Obeys allnum (gotoChange allnum) gotoPreset (toChar (atoi value)) s s'
  := by
  have hint := isInt_toChar (atoi value)
  unfold gotoPresetBranch
  rw [if_pos hset]
  dsimp only
  generalize toChar (atoi value) = v at hint
  by_cases hknown : Known allnum s v
  · obtain ⟨hlow, hhigh, hisSet⟩ := hknown
    rw [if_pos (by omega), if_pos hisSet, gotoReply_eq hint (by decide)]
    refine ⟨_, rfl, fun _ => ⟨hlow, hhigh, hisSet⟩, fun _ => ?_, fun _ => ?_⟩
    · unfold gotoChange
      split
      · apply clearPresets_cleared
      · rfl
    · split
      · rfl
      · rfl
  · have hidle {pRet : List Answer} {ret : Nat} :
        Obeys allnum (gotoChange allnum) gotoPreset v s { s with pRet := pRet, ret := ret } :=
      ⟨fun hacts => by simp at hacts, fun h => absurd h hknown, fun h => absurd h hknown⟩
    split
    · next hin =>
        rw [if_neg (fun hisSet => hknown ⟨by omega, by omega, hisSet⟩),
          gotoReply_eq hint (by decide)]
        exact ⟨_, rfl, hidle⟩
    · rw [gotoReply_eq hint (by decide)]
      exact ⟨_, rfl, hidle⟩

/-! ### The commands -/

/-- A branch that `Obeys` for the number that it takes the text for succeeds and does so for the one
that it stands for exactly if it is `TakenRight`. -/
theorem exists_obeys_iff
    {run : Except Fault Session} {change : Int → Contents → Contents → Prop} {command : Int}
    (hall : allnum ≤ 255)
    (h : ∃ s', run = .ok s' ∧ Obeys allnum change command (toChar (atoi value)) s s') :
  (∃ s', run = .ok s' ∧ Obeys allnum change command (integerValue value) s s')
    ↔ TakenRight allnum value s
  := by
  obtain ⟨s', hrun, hobeys⟩ := h
  rw [← hobeys.iff_takenRight hall]
  constructor
  · rintro ⟨s'', hrun', hobeys'⟩
    obtain rfl := Except.ok.inj (hrun.symm.trans hrun')
    exact hobeys'
  · exact fun h => ⟨s', hrun, h⟩

/-- For every text, every table and every number of presets up to 255: a `T_Set` request to
delete a preset, and one to go to a preset, do what they are to do for the number in the text
exactly if the number is one of a byte or is taken for one that is not known. -/
theorem preset_commands_iff (hall : allnum ≤ 255) (hset : s.cmdType = tSet) :
  ((∃ s', deletepresetBranch allnum value s = .ok s'
        ∧ Obeys allnum deleteChange clePreset (integerValue value) s s')
      ↔ TakenRight allnum value s)
    ∧ ((∃ s', gotoPresetBranch allnum value s = .ok s'
        ∧ Obeys allnum (gotoChange allnum) gotoPreset (integerValue value) s s')
      ↔ TakenRight allnum value s)
  := by
  constructor
  · apply exists_obeys_iff hall (deletepresetBranch_obeys hset)
  · apply exists_obeys_iff hall (gotoPresetBranch_obeys hset)

/-- A session of a request with the type `T_Set`, in which the preset 1 is set. -/
def onePreset : Session :=
  { Session.start .idle .blank with
    cmdType := tSet
    mem := Contents.blank.setInt (.presetIsSet 0) 1 }

/-- In the session `onePreset` the preset 1 is deleted and gone to as the commands ask for. -/
theorem preset_commands_one :
  (∃ s', deletepresetBranch 128 "1".toList onePreset = .ok s'
      ∧ Obeys 128 deleteChange clePreset 1 onePreset s')
    ∧ ∃ s', gotoPresetBranch 128 "1".toList onePreset = .ok s'
        ∧ Obeys 128 (gotoChange 128) gotoPreset 1 onePreset s'
  := by
  have htaken : TakenRight 128 "1".toList onePreset := .inl (by decide)
  have hiff := @preset_commands_iff 128 "1".toList onePreset (by decide) rfl
  exact ⟨hiff.1.mpr htaken, hiff.2.mpr htaken⟩

/-- A request to delete the preset 257 deletes the preset 1, and the command that is sent says
so. -/
theorem preset_commands_257 :
  ¬ ∀ (value : List Char) (s : Session), s.cmdType = tSet →
      ∃ s', deletepresetBranch 128 value s = .ok s'
        ∧ Obeys 128 deleteChange clePreset (integerValue value) s s'
  := by
  intro h
  obtain ⟨s', hrun, hobeys⟩ := h "257".toList onePreset rfl
  have hknown := hobeys.only (.inr (by
    obtain rfl := Except.ok.inj hrun
    decide))
  revert hknown
  decide

end Msg.Presets
