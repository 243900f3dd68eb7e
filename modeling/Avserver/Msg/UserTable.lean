import Avserver.Msg.UserView

/-!
# Requests that stay within the table of the users

A request that is handled stays within the table of the users, and sets no password or group of
another user, exactly when every pair for a name finds an entry and every password and group
follows the name of its user (`users_in_table`).  What is found is not looked at before it is used,
so a user that is not there, or that there is no room for, takes the request out of the table.
-/

namespace Msg

open Library

variable {env : Env} {s s' : Session} {x : Item} {req : Request} {d : Device} {u : UserView}

/-! ### Accesses to the table -/

/-- The fault `f` is an access to the table of the users outside its bounds. -/
def Fault.OfUsers (f : Fault) : Prop := f = .index .users

instance : DecidablePred Fault.OfUsers := fun f => inferInstanceAs (Decidable (f = .index .users))

instance : Indexing Fault.OfUsers where
  overflow := by decide
  unterminated := by decide
  hang := by decide

theorem IntRef.resolve_spares {ref : IntRef} : Spares Fault.OfUsers (ref.resolve s) := by
  cases ref with
  | field f => apply ok_free
  | mdArea | vidMask | wfSearch => apply (bounded_spares (by decide)).map

theorem ChanRef.resolve_spares {ref : ChanRef} : Spares Fault.OfUsers (ref.resolve s) := by
  cases ref with
  | av f => apply ok_free
  | ubs f => apply (bounded_spares (by decide)).map

theorem streamCmd_spares {key : Key} {f : UbsField} {callee : Callee} {v : Int} {t : Int → Int} :
  Spares Fault.OfUsers
    (s.onCmd (streamBranch f callee v s)
      (do
        let f ← (ChanRef.ubs f).resolve s
        s.reply key (decimal (t (s.mem.int f)))))
  := by
  apply onCmd_free
  · apply bind_free ChanRef.resolve_spares fun _ => ite_free ok_free ok_free
  · apply bind_free ChanRef.resolve_spares fun _ => reply_free

theorem ubsText_spares {f : UbsField} {t : Int → List Char} :
  Spares Fault.OfUsers
    (do
      let f ← (ChanRef.ubs f).resolve s
      .ok (t (s.mem.int f)) : Except Fault (List Char))
  := bind_free ChanRef.resolve_spares fun _ => ok_free

theorem setIdrBr_spares : Spares Fault.OfUsers (setIdrBr s) :=
  bind_free (bounded_spares (by decide)) fun _ =>
    bind_free (bounded_spares (by decide)) fun _ => ok_free

theorem setNvrSendStatus_spares {opt : Int} : Spares Fault.OfUsers (setNvrSendStatus opt s) := by
  apply ite_free ok_free
  apply bind_free (bounded_spares (by decide))
  intro _
  apply bind_free (bounded_spares (by decide))
  intro _
  apply ite_free setIdrBr_spares ok_free

/-- The branches that access the table of the users, by the entry that is used. -/
def Branch.OfUsers : Branch → Prop
  | .userName | .userPassword | .userGroup => True
  | _ => False

/-- A branch `b` that is not `OfUsers` does not access the table of the users. -/
theorem Branch.run_spares {b : Branch} (hb : ¬ b.OfUsers) {key : Key} :
  Spares Fault.OfUsers (b.run env key value s)
  := by
  cases b with
  | userName | userPassword | userGroup => exact absurd trivial hb
  | int | chan =>
      apply onCmd_free
      · apply bind_free _ fun _ => ite_free ok_free ok_free
        first | apply IntRef.resolve_spares | apply ChanRef.resolve_spares
      · apply bind_free _ fun _ => reply_free
        first | apply IntRef.resolve_spares | apply ChanRef.resolve_spares
  | shown => apply getBranch_free IntRef.resolve_spares.map
  | width => apply getBranch_free (ubsText_spares (t := decimal))
  | height =>
      apply getBranch_free
      apply ubsText_spares (t := fun v => decimal (if v = 1072 then 1080 else v))
  | wfsearchEssid => apply getBranch_free (bind_free (bounded_spares (by decide)) fun _ => text_free)
  | frameRate => apply streamCmd_spares (t := fun v => v)
  | bitRate => apply streamCmd_spares (t := fun v => v.tdiv 1000)
  | ipInterval => apply streamCmd_spares (t := fun v => v)
  | nvrOpt => apply ite_free setNvrSendStatus_spares ok_free
  | nvrForIDR => apply ite_free setIdrBr_spares ok_free
  | _ =>
      apply Branch.run_free
      exact fun hfalse => hfalse

/-- The item `x` finds an entry, if it is for a name, and the one that it uses is in the table, if
it sets a password or a group. -/
def Item.Bounded (u : UserView) (x : Item) : Prop :=
  (x.key = .userName → u.found x < userMax) ∧ (x.Saves → Within u.index1 userMax)

/-- A pair for a name stays within the table exactly when it finds an entry. -/
theorem userNameBranch_bounded (hc : s.cursor = x.cursor) (hu : s.ViewsUsers u) :
  Checks Fault.OfUsers (u.found x < userMax) (userNameBranch x.value s)
  := by
  apply Checks.free_bind userNameSearch_free
  intro s₁ hs₁
  apply Checks.bind_free _ fun i => bind_free text_free fun _ => reply_free
  apply bounded_selects.iff
  rw [userNameSearch_i hc hu hs₁]
  simp only [Within]
  omega

theorem userSaves_bounded {α : Type} {y : α} {f : Nat → Except Fault α} (hu : s.ViewsUsers u)
    (hf : ∀ i, Spares Fault.OfUsers (f i)) :
  Checks Fault.OfUsers (s.cmdType = tSet → Within u.index1 userMax)
    (if s.cmdType = tSet then bounded .users s.index1 userMax >>= f else .ok y)
  := by
  apply only_if_selects
  rw [← hu.index1]
  apply bounded_selects.bind_free hf

theorem Item.run_bounded (hc : s.cursor = x.cursor) (hu : s.ViewsUsers u) :
  Checks Fault.OfUsers (x.Bounded u) (x.run env s)
  := by
  obtain ⟨c, key, value⟩ := x
  obtain rfl : s.cursor = c := hc
  by_cases hname : key = .userName
  · subst hname
    apply (userNameBranch_bounded rfl hu).iff
    simp [Item.Bounded, Item.Saves]
  · by_cases hpassword : key = .userPassword
    · subst hpassword
      apply (userSaves_bounded hu fun i => bind_free setText_free fun _ => ok_free).iff
      simp [Item.Bounded, Item.Saves, Session.cursor]
    · by_cases hgroup : key = .userGroup
      · subst hgroup
        apply (userSaves_bounded hu fun i => ok_free).iff
        simp [Item.Bounded, Item.Saves, Session.cursor]
      · apply (Branch.run_spares _).iff
        · simp [Item.Bounded, Item.Saves, hname, hpassword, hgroup]
        · intro hb
          cases key
          case userName | userPassword | userGroup => contradiction
          all_goals exact hb

/-- The loop stays within the table of the users exactly when its items are `Bounded`, each with the
view that it meets. -/
theorem processPairs_bounded {n : Int} {c : Cursor} (hs : s.At n c) (hu : s.ViewsUsers u) :
  Checks Fault.OfUsers (∀ p ∈ visits env u (items n c req), p.2.Bounded p.1)
    (processPairs env req s)
  := by
  induction req generalizing s c u with
  | nil => apply Checks.of_ok fun p hp => by cases hp
  | cons pair req ih =>
      rw [processPairs, List.foldlM_cons]
      cases hkey : Key.ofCode (atoi pair.1) with
      | none =>
          rw [items_cons_none hkey]
          have hpair : processPair env s pair = .ok s := by simp [processPair, hkey]
          rw [hpair]
          apply ih hs hu
      | some key =>
          rw [items_cons_some hkey, visits_cons, List.forall_mem_cons]
          have hpair : processPair env s pair = (Item.mk c key pair.2).run env s := by
            simp [processPair, hkey, Item.run]
          rw [hpair]
          apply Checks.bind (Item.run_bounded hs.2 hu)
          intro s' hs'
          apply ih (Item.run_at (x := ⟨c, key, pair.2⟩) hs hs')
          apply Item.run_viewsUsers hs.2 hu hs'

theorem finish_spares : Spares Fault.OfUsers (finish env s) := by
  apply bind_free (finishPreset_free (by decide))
  intro s₁
  apply bind_free _ fun _ => ok_free
  apply ite_free _ ok_free
  apply bind_free (bounded_spares (by decide)) fun _ => ok_free

/-- A request stays within the table of the users exactly when its items are `Bounded`, each with
the view that it meets. -/
theorem processMsg_bounded :
  Checks Fault.OfUsers (∀ p ∈ visits env d.userStart (d.items req), p.2.Bounded p.1)
    (processMsg env req d)
  := by
  apply (processPairs_bounded (start_at env d) (d.userStart_views env)).bind_free
  intro t
  apply bind_free finish_spares fun _ => ok_free

/-! ### The users that are named -/

/-- The entry `j` is one of the user that the latest pair for a name names: it has the name before
or behind the pair. -/
def UserView.Named (u : UserView) (j : Nat) : Prop :=
  j < userMax ∧ ∃ naming, u.naming = some naming ∧
    ((strcmpEq (naming.before j) naming.name).toOption = some true ∨
      (strcmpEq (naming.behind j) naming.name).toOption = some true)

/-- From `s` to `s'` nothing is changed but the password and the group of the entry `j`. -/
def SetsEntry (j : Nat) (s s' : Session) : Prop :=
  s.index1 = j ∧ ∀ f, f ≠ .str (.password j) → f ≠ .int (.group j) → s'.mem f = s.mem f

/-- Every pair for a password or a group that sets one sets it in an entry of the user that the pair
for a name before it names. -/
def Device.SetsNamed (env : Env) (d : Device) (req : Request) : Prop :=
  ∀ pre pair post s s', req = pre ++ pair :: post →
    processPairs env pre (.start env d) = .ok s → processPair env s pair = .ok s' →
    (Key.ofCode (atoi pair.1) = some .userPassword ∨ Key.ofCode (atoi pair.1) = some .userGroup) →
    s.cmdType = tSet →
    ∃ j, (d.userView env pre).Named j ∧ SetsEntry j s s'

/-- The item `x` finds an entry, if it is for a name, and sets the password or the group of an entry
of the user that is named. -/
def Item.InTable (u : UserView) (x : Item) : Prop :=
  (x.key = .userName → u.found x < userMax) ∧
  (x.Saves → ∃ j : Nat, u.index1 = j ∧ u.Named j)

/-- The items of the request are within the table of the users, each with the view that it meets. -/
def Device.UsersInTable (env : Env) (d : Device) (req : Request) : Prop :=
  ∀ p ∈ visits env d.userStart (d.items req), p.2.InTable p.1

theorem Item.InTable.bounded (h : x.InTable u) : x.Bounded u := by
  refine ⟨h.1, fun hsaves => ?_⟩
  obtain ⟨j, hj, hlt, -⟩ := h.2 hsaves
  simp only [Within]
  omega

/-- An item that sets a password or a group sets it in the entry `j` that is used. -/
theorem Item.run_setsEntry
    {j : Nat} (hsaves : x.Saves) (hc : s.cursor = x.cursor) (hj : s.index1 = j)
    (h : x.run env s = .ok s') :
  SetsEntry j s s'
  := by
  obtain ⟨c, key, value⟩ := x
  obtain rfl : s.cursor = c := hc
  obtain ⟨hkey, hset⟩ := hsaves
  replace hset : s.cmdType = tSet := hset
  have hbounded {i : Nat} (hi : bounded .users s.index1 userMax = .ok i) : i = j := by
    unfold bounded at hi
    split at hi
    · obtain rfl := Except.ok.inj hi
      rw [hj, Int.toNat_natCast]
    · contradiction
  refine ⟨hj, ?_⟩
  intro f hpassword hgroup
  obtain rfl | rfl := hkey
  · change userPasswordBranch value s = .ok s' at h
    rw [userPasswordBranch, if_pos hset] at h
    obtain ⟨i, hi, h⟩ := bind_ok.mp h
    obtain ⟨s₁, hs₁, h⟩ := bind_ok.mp h
    obtain rfl := Except.ok.inj h
    obtain rfl := hbounded hi
    apply (Session.setText_stores hs₁).mem f hpassword
  · change userGroupBranch value s = .ok s' at h
    rw [userGroupBranch, if_pos hset] at h
    obtain ⟨i, hi, h⟩ := bind_ok.mp h
    obtain rfl := Except.ok.inj h
    obtain rfl := hbounded hi
    apply (s.setInt_stores _ _).mem f hgroup

/-- A request of `UsersInTable` accesses the table within its bounds, and sets the passwords and
groups of the users that are named; any other request accesses the table outside its bounds, sets a
password or a group of another entry, or is not handled to its end. -/
theorem users_in_table (env : Env) (req : Request) (d : Device) :
  (d.UsersInTable env req →
    processMsg env req d ≠ .error (.index .users) ∧ d.SetsNamed env req) ∧
  (¬ d.UsersInTable env req →
    ∀ reply, processMsg env req d = .ok reply → ¬ d.SetsNamed env req)
  := by
  obtain ⟨herror, hok⟩ := @processMsg_bounded env req d
  constructor
  · intro hin
    constructor
    · intro h
      apply herror _ h rfl
      intro p hp
      apply (hin p hp).bounded
    · rintro pre pair post s s' rfl hs hs' hkey hset
      have hsets (key : Key) (hkey' : Key.ofCode (atoi pair.1) = some key)
          (hsaves : Item.Saves ⟨s.cursor, key, pair.2⟩) :
          ∃ j, (d.userView env pre).Named j ∧ SetsEntry j s s' := by
        obtain ⟨j, hj, hnamed⟩ := (hin _ (mem_visits_of_run hs hkey')).2 hsaves
        use j, hnamed
        apply Item.run_setsEntry hsaves rfl
        · rw [(processPairs_viewsUsers hs).index1, hj]
        · rw [processPair, hkey'] at hs'
          apply hs'
      obtain hkey | hkey := hkey
      · apply hsets _ hkey ⟨Or.inl rfl, hset⟩
      · apply hsets _ hkey ⟨Or.inr rfl, hset⟩
  · intro hout reply hreply hnamed
    apply hout
    intro p hp
    obtain ⟨xs, x, ys, hitems, rfl⟩ := mem_visits.mp hp
    refine ⟨(hok reply hreply _ hp).1, ?_⟩
    intro hsaves
    obtain ⟨pre, pair, post, rfl, rfl, hkey, hvalue⟩ := items_split hitems
    obtain ⟨t, -, ht, -⟩ := processMsg_ok hreply
    obtain ⟨s, hs, hrest⟩ := processPairs_append_ok.mp ht
    obtain ⟨s', hs', -⟩ := foldlM_cons_ok.mp hrest
    have hcursor : s.cursor = x.cursor := by
      have hrun := (items_append (pair :: post) hs (start_at env d)).1
      rw [items_cons_some hkey] at hrun
      have hx := (List.cons.inj (List.append_cancel_left (hitems.symm.trans hrun))).1
      apply (congrArg Item.cursor hx).symm
    have hsome {key : Key} (h : x.key = key) : Key.ofCode (atoi pair.1) = some key :=
      hkey.trans (congrArg some h)
    obtain ⟨j, hj, hentry⟩ := hnamed pre pair post s s' rfl hs hs' (hsaves.1.imp hsome hsome)
      ((congrArg Cursor.cmdType hcursor).trans hsaves.2)
    use j
    exact ⟨(processPairs_viewsUsers hs).index1.symm.trans hentry.1, hj⟩

/-- A user that is not there is modified, and a password is set before any name: both access the
table outside its bounds. -/
theorem users_out_of_table :
  processMsg .idle
    [("0".toList, "1".toList), ("133".toList, "2".toList), ("134".toList, "bob".toList)] .blank
    = .error (.index .users) ∧
  processMsg .idle [("0".toList, "1".toList), ("135".toList, "secret".toList)] .blank
    = .error (.index .users)
  := by
  constructor
  all_goals rfl

end Msg
