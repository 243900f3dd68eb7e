import Avserver.Msg.Loop

/-!
# The names of the users

The users are kept in a table of names: a user is added at the first free entry, and an entry
is freed by ending its name where it starts (`Names.add`, `Names.delete`).  Which users a
request adds and deletes can be read off its items, and the table of the configuration follows
them (`processPairs_names`).  The passwords and groups are kept besides; the items that set
them are those that `Saves` the users, for they mark the file.
-/

namespace Msg

open Library

/-! ### The table -/

/-- The buffers for the names of the users, by the number of the entry. -/
abbrev Names : Type := Nat → List Char

namespace Names

/-- The number of the first entry that is free, if there is one in the table. -/
def free (names : Names) : Option Nat :=
  (List.range userMax).find? fun i => (names i).head? = some nul

/-- The number of the first entry with the `name`, if there is one in the table. -/
def find (names : Names) (name : List Char) : Option Nat :=
  (List.range userMax).find? fun i => (strcmpEq (names i) name).toOption = some true

/-- The names after a user with the `name` has been added, to the first free entry. -/
def add (names : Names) (name : List Char) : Names :=
  match names.free with
  | some i => Function.update names i ((strcpy (names i) name).toOption.getD (names i))
  | none => names

/-- The names after a user with the `name` has been deleted, the first one that has it. -/
def delete (names : Names) (name : List Char) : Names :=
  match names.find name with
  | some i => Function.update names i (clear (names i))
  | none => names

end Names

/-- The buffers for the names of the users in the configuration `c`. -/
def Contents.names (c : Contents) : Names := fun i => c.str (.username i)

/-- What an item `x` does to the names of the users: it adds one or deletes one. -/
def Item.names (names : Names) (x : Item) : Names :=
  if x.key = .userName ∧ x.cursor.cmdType = tSet then
    if x.cursor.index = addUser then names.add x.value
    else if x.cursor.index = delUser then names.delete x.value
    else names
  else names

/-- The item `x` sets a password or a group, with which the users are saved. -/
def Item.Saves (x : Item) : Prop :=
  (x.key = .userPassword ∨ x.key = .userGroup) ∧ x.cursor.cmdType = tSet

instance (x : Item) : Decidable x.Saves := inferInstanceAs (Decidable (_ ∧ _))

variable {env : Env} {s s' t : Session} {value : List Char}

/-! ### The searches -/

/-- A search that succeeds yields the first number with the property `p`, or the number behind those
searched. -/
theorem findUser_ok
    {p : Nat → Except Fault Bool} {n i k : Nat} (h : findUser p n i = .ok k) :
  i ≤ k ∧ k ≤ i + n ∧ (∀ j, i ≤ j → j < k → p j = .ok false) ∧ (k < i + n → p k = .ok true)
  := by
  induction n generalizing i with
  | zero =>
      obtain rfl := Except.ok.inj h
      refine ⟨Nat.le_refl _, Nat.le_refl _, ?_, ?_⟩
      · omega
      · omega
  | succ n ih =>
      obtain ⟨b, hb, h⟩ := bind_ok.mp h
      cases b with
      | true =>
          obtain rfl := Except.ok.inj h
          refine ⟨Nat.le_refl _, by omega, ?_, fun _ => hb⟩
          omega
      | false =>
          obtain ⟨hle, hle', hbefore, hat⟩ := ih h
          refine ⟨by omega, by omega, ?_, ?_⟩
          · intro j hij hjk
            obtain rfl | hlt := Nat.eq_or_lt_of_le hij
            · apply hb
            · apply hbefore j hlt hjk
          · intro hk
            apply hat
            omega

/-- The search of the code finds what `List.find?` does, for a test `q` that agrees with `p`. -/
theorem find_of_findUser
    {p : Nat → Except Fault Bool} {q : Nat → Bool} {k : Nat}
    (hq : ∀ i b, p i = .ok b → q i = b) (h : findUser p userMax 0 = .ok k) :
  (List.range userMax).find? q = if k = userMax then none else some k
  := by
  obtain ⟨-, hle, hbefore, hat⟩ := findUser_ok h
  split
  · next hk =>
      subst hk
      rw [List.find?_range_eq_none]
      intro i hi
      rw [hq i _ (hbefore i (Nat.zero_le i) hi)]
      rfl
  · next hk =>
      have hlt : k < userMax := by omega
      rw [List.find?_range_eq_some]
      refine ⟨hq k _ (hat (by omega)), List.mem_range.mpr hlt, ?_⟩
      intro j hj
      rw [hq j _ (hbefore j (Nat.zero_le j) hj)]
      rfl

theorem delete_of_findName {c : Contents} {k : Nat} (h : findName c value = .ok k) :
  c.names.delete value =
    if k = userMax then c.names else Function.update c.names k (clear (c.names k))
  := by
  have hfind : c.names.find value = if k = userMax then none else some k := by
    apply find_of_findUser _ h
    intro i b hb
    simp only [Contents.names, hb, Except.toOption]
    cases b
    · rfl
    · rfl
  rw [Names.delete, hfind]
  by_cases hk : k = userMax
  · simp only [if_pos hk]
  · simp only [if_neg hk]

theorem add_of_findFree {c : Contents} {k : Nat} (h : findFree c = .ok k) :
  c.names.add value =
    if k = userMax then c.names
    else Function.update c.names k ((strcpy (c.names k) value).toOption.getD (c.names k))
  := by
  have hfree : c.names.free = if k = userMax then none else some k := by
    apply find_of_findUser _ h
    intro i b hb
    apply Except.ok.inj hb
  rw [Names.add, hfree]
  by_cases hk : k = userMax
  · simp only [if_pos hk]
  · simp only [if_neg hk]

/-! ### The branches for the users -/

/-- If the buffer of the name `i` is replaced, the names are those from before but for this one. -/
theorem Contents.names_setStr (c : Contents) (i : Nat) (buf : List Char) :
  (c.setStr (.username i) buf).names = Function.update c.names i buf
  := by
  funext j
  by_cases hij : j = i
  · subst hij
    rw [Function.update_self]
    exact Function.update_self _ _ _
  · rw [Function.update_of_ne hij]
    apply Contents.setStr_of_ne
    intro heq
    apply hij
    injection heq with heq
    injection heq

/-- A step that stores no name leaves the names as they are. -/
theorem Stores.names
    {P : Field → Prop} (h : Stores P s s') (hP : ∀ i, ¬ P (.str (.username i))) :
  s'.mem.names = s.mem.names
  := by
  funext i
  apply h.mem _ (hP i)

theorem userNameSet_names (h : userNameSet value s = .ok s') :
  s'.mem.names =
    if s.index = addUser then s.mem.names.add value
    else if s.index = delUser then s.mem.names.delete value
    else s.mem.names
  := by
  unfold userNameSet at h
  split at h
  · next hadd =>
      obtain ⟨k, hk, h⟩ := bind_ok.mp h
      rw [if_pos hadd, add_of_findFree hk]
      simp only at h
      split at h
      · next hmax =>
          obtain rfl := Except.ok.inj h
          rw [if_pos hmax]
      · next hmax =>
          obtain ⟨buf, hbuf, h⟩ := bind_ok.mp h
          obtain rfl := Except.ok.inj h
          have hcopy : strcpy (s.mem.names k) value = .ok buf := hbuf
          rw [if_neg hmax, hcopy]
          apply Contents.names_setStr
  · next hadd =>
      rw [if_neg hadd]
      split at h
      · next hdel =>
          obtain ⟨k, hk, h⟩ := bind_ok.mp h
          rw [if_pos hdel, delete_of_findName hk]
          simp only at h
          split at h
          · next hmax =>
              obtain rfl := Except.ok.inj h
              rw [if_pos hmax]
          · next hmax =>
              obtain rfl := Except.ok.inj h
              rw [if_neg hmax]
              apply Contents.names_setStr
      · next hdel =>
          rw [if_neg hdel]
          split at h
          · obtain ⟨k, -, h⟩ := bind_ok.mp h
            obtain rfl := Except.ok.inj h
            rfl
          · obtain rfl := Except.ok.inj h
            rfl

/-- `e_user_name` adds or deletes a name for `T_Set`, by `index`, and otherwise leaves the names
alone. -/
theorem userNameBranch_names (h : userNameBranch value s = .ok s') :
  s'.mem.names =
    if s.cmdType = tSet then
      if s.index = addUser then s.mem.names.add value
      else if s.index = delUser then s.mem.names.delete value
      else s.mem.names
    else s.mem.names
  := by
  obtain ⟨s₁, hs₁, h⟩ := bind_ok.mp h
  obtain ⟨i, -, h⟩ := bind_ok.mp h
  obtain ⟨t, -, h⟩ := bind_ok.mp h
  have hreply := Session.reply_stores (P := fun _ => False) h
  rw [hreply.names fun _ hfalse => hfalse]
  unfold Session.onCmd at hs₁
  split at hs₁
  · next hcmd =>
      rw [if_pos hcmd]
      apply userNameSet_names hs₁
  · next hcmd =>
      rw [if_neg hcmd]
      split at hs₁
      · obtain ⟨k, -, hs₁⟩ := bind_ok.mp hs₁
        obtain rfl := Except.ok.inj hs₁
        rfl
      · obtain rfl := Except.ok.inj hs₁
        rfl

/-- `e_user_password` leaves the names alone, and marks the file of the users for `T_Set`. -/
theorem userPasswordBranch_saves (h : userPasswordBranch value s = .ok s') :
  s'.mem.names = s.mem.names ∧
  s'.fileChangedFlag =
    if s.cmdType = tSet then setFileChanged s.fileChangedFlag .user else s.fileChangedFlag
  := by
  unfold userPasswordBranch at h
  split at h
  · next hcmd =>
      obtain ⟨i, -, h⟩ := bind_ok.mp h
      obtain ⟨s₁, hs₁, h⟩ := bind_ok.mp h
      obtain rfl := Except.ok.inj h
      have hstores := Session.setText_stores hs₁
      rw [if_pos hcmd, ← hstores.flag]
      exact ⟨hstores.names (by simp), rfl⟩
  · next hcmd =>
      obtain rfl := Except.ok.inj h
      rw [if_neg hcmd]
      exact ⟨rfl, rfl⟩

theorem userGroupBranch_saves (h : userGroupBranch value s = .ok s') :
  s'.mem.names = s.mem.names ∧
  s'.fileChangedFlag =
    if s.cmdType = tSet then setFileChanged s.fileChangedFlag .user else s.fileChangedFlag
  := by
  unfold userGroupBranch at h
  split at h
  · next hcmd =>
      obtain ⟨i, -, h⟩ := bind_ok.mp h
      obtain rfl := Except.ok.inj h
      have hstores := s.setInt_stores (.group i) (atoi value)
      rw [if_pos hcmd]
      exact ⟨hstores.names (by simp), rfl⟩
  · next hcmd =>
      obtain rfl := Except.ok.inj h
      rw [if_neg hcmd]
      exact ⟨rfl, rfl⟩

/-! ### The items -/

/-- The file of the users is marked by the keys for a password and a group only. -/
theorem Key.file_user {key : Key} {c : Cursor} (h : key.branch.file c = some .user) :
  key = .userPassword ∨ key = .userGroup
  := by
  have havfile {p : Prop} [Decidable p] : (if p then some c.avFile.cfgFile else none) ≠ some .user := by
    cases c.avFile
    all_goals simp [AvFile.cfgFile]
  cases key
  all_goals first
    | exact .inl rfl
    | exact .inr rfl
    | exact absurd h havfile
    | cases h

/-- A name is stored without marking the file by its own `key` only. -/
theorem Key.loose_username
    {key : Key} {c : Cursor} {i : Nat} (h : key.branch.loose c (.str (.username i))) :
  key = .userName
  := by
  have havfile : some .user ≠ some c.avFile.cfgFile := by
    cases c.avFile
    all_goals simp [AvFile.cfgFile]
  cases key
  all_goals first
    | rfl
    | exact absurd h.2.2 havfile
    | cases h.2
    | cases h

variable {x : Item}

/-- An item `x` makes of the names of a session what `Item.names` computes. -/
theorem Item.run_names (hc : s.cursor = x.cursor) (h : x.run env s = .ok s') :
  s'.mem.names = x.names s.mem.names
  := by
  obtain ⟨c, key, value⟩ := x
  obtain rfl : s.cursor = c := hc
  unfold Item.run at h
  unfold Item.names
  by_cases hname : key = .userName
  · subst hname
    rw [userNameBranch_names h]
    simp only [true_and]
    rfl
  · rw [if_neg (fun hand => hname hand.1)]
    by_cases hpassword : key = .userPassword
    · subst hpassword
      apply (userPasswordBranch_saves h).1
    · by_cases hgroup : key = .userGroup
      · subst hgroup
        apply (userGroupBranch_saves h).1
      · funext i
        apply Branch.run_untouched key.marksItsFile _ _ _ h
        · exact fun c hc hfile => absurd (Option.some.inj hfile ▸ hc) (by decide)
        · intro hloose
          apply hname (Key.loose_username hloose)
        · rintro c hfile hc
          obtain rfl := Option.some.inj hc
          obtain hkey | hkey := Key.file_user hfile
          · apply hpassword hkey
          · apply hgroup hkey

/-- Behind an item `x` the file of the users is marked if it was before, or the item saves the
users. -/
theorem Item.run_saves (hc : s.cursor = x.cursor) (h : x.run env s = .ok s') :
  isSetFileChanged s'.fileChangedFlag .user = true
    ↔ isSetFileChanged s.fileChangedFlag .user = true ∨ x.Saves
  := by
  obtain ⟨c, key, value⟩ := x
  obtain rfl : s.cursor = c := hc
  unfold Item.run at h
  have hsets (hflag : s'.fileChangedFlag =
      if s.cmdType = tSet then setFileChanged s.fileChangedFlag .user else s.fileChangedFlag) :
      isSetFileChanged s'.fileChangedFlag .user = true
        ↔ isSetFileChanged s.fileChangedFlag .user = true ∨ s.cmdType = tSet := by
    rw [hflag]
    split
    · next hcmd => simp [hcmd]
    · next hcmd => simp [hcmd]
  by_cases hsaves : key = .userPassword ∨ key = .userGroup
  · have hsaves_iff : Item.Saves ⟨s.cursor, key, value⟩ ↔ s.cmdType = tSet :=
      ⟨fun hand => hand.2, fun hcmd => ⟨hsaves, hcmd⟩⟩
    rw [hsaves_iff]
    obtain rfl | rfl := hsaves
    · apply hsets (userPasswordBranch_saves h).2
    · apply hsets (userGroupBranch_saves h).2
  · have hnot : ¬ Item.Saves ⟨s.cursor, key, value⟩ := fun hand => hsaves hand.1
    simp only [hnot, or_false]
    by_cases hreset : key.branch = .reset
    · simp only [hreset] at h
      obtain ⟨-, rfl⟩ | ⟨-, hresets⟩ := resetBranch_resets h
      · rfl
      · rw [hresets.flag]
    · rw [(Branch.touches key.marksItsFile hreset h).flag_of_ne]
      · rfl
      · intro hfile
        apply hsaves (Key.file_user hfile)

/-! ### The loop -/

variable {n : Int} {c : Cursor} {req : Request}

/-- Behind the loop the names are those that the items make of the names before it. -/
theorem processPairs_names (h : processPairs env req s = .ok t) (hs : s.At n c) :
  t.mem.names = (items n c req).foldl Item.names s.mem.names
  := by
  apply processPairs_follows (R := fun s names => s.mem.names = names) _ h hs rfl
  rintro s _ x s' _ hc rfl hx
  apply Item.run_names hc hx

/-- Behind the loop the file of the users is marked if it was before, or an item saves the users. -/
theorem processPairs_saves (h : processPairs env req s = .ok t) (hs : s.At n c) :
  isSetFileChanged t.fileChangedFlag .user = true
    ↔ isSetFileChanged s.fileChangedFlag .user = true ∨ ∃ x ∈ items n c req, x.Saves
  := by
  rw [← foldl_or]
  apply processPairs_follows (g := fun saved x => saved ∨ x.Saves)
    (R := fun s saved => isSetFileChanged s.fileChangedFlag .user = true ↔ saved) _ h hs Iff.rfl
  intro s saved x s' _ hc hsaved hx
  rw [Item.run_saves hc hx, hsaved]

end Msg
