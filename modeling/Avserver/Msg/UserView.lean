import Avserver.Library.Trace
import Avserver.Msg.InRange
import Avserver.Msg.Users
import Avserver.Msg.PresetCommands

/-!
# The entry of the users that is used

A pair for a name looks for an entry of the table of users, and the pairs for passwords and groups
that follow it use the entry that has been found.  The number of the entry is in a variable that
other branches use too, and it is the number behind the table when nothing has been found.  What
it is follows from the items and the names before them (`Item.run_viewsUsers`).
-/

namespace Msg

open Library

variable {env : Env} {s s' t : Session} {x : Item} {req : Request} {d : Device}
  {value : List Char}

/-! ### What the items make of the entry found -/

/-- A pair for a name in a request, with the names before and behind it. -/
structure Naming where
  name : List Char
  before : Names
  behind : Names

/-- The preset that restores the PTZ unit, by `e_ptz_goto_preset`. -/
def homePreset : Int := 95

/-- The entry of the preset `homePreset` in the table. -/
def homeIndex : Nat := 94

/-- What is computed for the table of the users: the names, the number that the loops over tables
have ended with, the entry that passwords and groups are for, the latest pair for a name, and
whether the preset is set that restores the PTZ unit, with a loop over the presets. -/
structure UserView where
  names : Names
  i : Nat
  index1 : Int
  naming : Option Naming
  homeSet : Bool

/-- The number that a pair for a name leaves in `i`, from the view `u` on. -/
def UserView.found (u : UserView) (x : Item) : Nat :=
  if x.cursor.cmdType = tSet then
    if x.cursor.index = addUser then u.names.free.getD userMax
    else if x.cursor.index = delUser ∨ x.cursor.index = modifyUser then
      (u.names.find x.value).getD userMax
    else u.i
  else if x.cursor.cmdType = tGet then (u.names.find x.value).getD userMax
  else u.i

/-- The item `x` sets, and its number is that of the preset that restores the PTZ unit. -/
def Item.ForHome (x : Item) : Prop :=
  x.cursor.cmdType = tSet ∧ toChar (atoi x.value) = homePreset

instance (x : Item) : Decidable x.ForHome := inferInstanceAs (Decidable (_ ∧ _))

/-- What an item `x` makes of the view `u` of the users. -/
def UserView.step (env : Env) (u : UserView) (x : Item) : UserView :=
  match x.key.branch with
  | .userName =>
      { u with
        names := x.names u.names
        i := u.found x
        index1 := u.found x
        naming := some ⟨x.value, u.names, x.names u.names⟩ }
  | .gotoPreset =>
      if x.ForHome ∧ u.homeSet = true then { u with i := ptzPresetAllnum, homeSet := false } else u
  | .deletepreset => if x.ForHome then { u with homeSet := false } else u
  | .allpresets => if x.cursor.cmdType = tGet then { u with i := ptzPresetAllnum } else u
  | .reset =>
      if x.cursor.cmdType = tSet then
        { u with homeSet := env.defaults.int (.presetIsSet homeIndex) != 0 }
      else u
  | _ => u

/-- The view `u` is that of the session `s`, read off its memory and its variables. -/
structure Session.ViewsUsers (s : Session) (u : UserView) : Prop where
  names : s.mem.names = u.names
  i : s.i = u.i
  index1 : s.index1 = u.index1
  home : (s.mem.int (.presetIsSet homeIndex) != 0) = u.homeSet

/-! ### The searches -/

theorem findName_eq {c : Contents} {k : Nat} (h : findName c value = .ok k) :
  k = (c.names.find value).getD userMax
  := by
  have hfind : c.names.find value = if k = userMax then none else some k := by
    apply find_of_findUser _ h
    intro i b hb
    simp only [Contents.names, hb, Except.toOption]
    cases b
    · rfl
    · rfl
  rw [hfind]
  split
  · next hk => apply hk
  · rfl

theorem findFree_eq {c : Contents} {k : Nat} (h : findFree c = .ok k) :
  k = c.names.free.getD userMax
  := by
  have hfree : c.names.free = if k = userMax then none else some k := by
    apply find_of_findUser _ h
    intro i b hb
    apply Except.ok.inj hb
  rw [hfree]
  split
  · next hk => apply hk
  · rfl

/-- The search of `e_user_name` leaves in `i` what `UserView.found` computes. -/
theorem userNameSearch_i
    {u : UserView} (hc : s.cursor = x.cursor) (hu : s.ViewsUsers u)
    (h : s.onCmd (userNameSet x.value s)
      (do
        let i ← findName s.mem x.value
        .ok { s with i := i }) = .ok s') :
  s'.i = u.found x
  := by
  have hcmd : s.cmdType = x.cursor.cmdType := congrArg Cursor.cmdType hc
  have hindex : s.index = x.cursor.index := congrArg Cursor.index hc
  unfold Session.onCmd at h
  unfold UserView.found
  rw [← hcmd, ← hindex, ← hu.names, ← hu.i]
  split at h
  · next hset =>
      rw [if_pos hset]
      unfold userNameSet at h
      split at h
      · next hadd =>
          obtain ⟨k, hk, h⟩ := bind_ok.mp h
          rw [if_pos hadd, ← findFree_eq hk]
          simp only at h
          split at h
          · obtain rfl := Except.ok.inj h
            rfl
          · exact (Prod.mk.inj (setText_still.user _ h)).1
      · next hadd =>
          rw [if_neg hadd]
          split at h
          · next hdel =>
              obtain ⟨k, hk, h⟩ := bind_ok.mp h
              rw [if_pos (Or.inl hdel), ← findName_eq hk]
              simp only at h
              split at h
              · obtain rfl := Except.ok.inj h
                rfl
              · obtain rfl := Except.ok.inj h
                rfl
          · next hdel =>
              split at h
              · next hmodify =>
                  obtain ⟨k, hk, h⟩ := bind_ok.mp h
                  obtain rfl := Except.ok.inj h
                  rw [if_pos (Or.inr hmodify), ← findName_eq hk]
              · next hmodify =>
                  obtain rfl := Except.ok.inj h
                  rw [if_neg (not_or.mpr ⟨hdel, hmodify⟩)]
  · next hset =>
      rw [if_neg hset]
      split at h
      · next hget =>
          obtain ⟨k, hk, h⟩ := bind_ok.mp h
          obtain rfl := Except.ok.inj h
          rw [if_pos hget, ← findName_eq hk]
      · next hget =>
          obtain rfl := Except.ok.inj h
          rw [if_neg hget]

/-- The entry that `e_user_name` has found is the one that is used from then on. -/
theorem userNameBranch_user
    {u : UserView} (hc : s.cursor = x.cursor) (hu : s.ViewsUsers u)
    (h : userNameBranch x.value s = .ok s') :
  s'.user = (u.found x, (u.found x : Int))
  := by
  obtain ⟨s₁, hs₁, h⟩ := bind_ok.mp h
  obtain ⟨i, -, h⟩ := bind_ok.mp h
  obtain ⟨t, -, h⟩ := bind_ok.mp h
  apply (reply_still.user _ h).trans
  simp only [Session.user, userNameSearch_i hc hu hs₁]

/-! ### The preset that restores the PTZ unit -/

theorem clearPresets_isSet (c : Contents) {j : Nat} (hj : j < ptzPresetAllnum) :
  (clearPresets c).int (.presetIsSet j) = 0
  := (Presets.clearPresets_cleared c ptzPresetAllnum).isSet j hj

theorem gotoReply_user {cValue error : Int} (h : gotoReply cValue error s = .ok s') :
  s'.user = s.user ∧ s'.mem = s.mem
  := by
  constructor
  · apply gotoReply_still.user _ h
  · funext f
    apply (gotoReply_stores (P := fun _ => False) h).mem f (fun hfalse => hfalse)

theorem Item.forHome_iff (x : Item) (hc : s.cursor = x.cursor) :
  x.ForHome ↔ s.cmdType = tSet ∧ toChar (atoi x.value) = homePreset
  := by
  rw [Item.ForHome, ← hc]
  rfl

/-- If the item is `ForHome` and the preset is set, the PTZ unit is restored and the loop over the
presets ends in `i`; otherwise nothing is changed. -/
theorem gotoPresetBranch_user
    (hc : s.cursor = x.cursor) (h : gotoPresetBranch x.value s = .ok s') :
  if x.ForHome ∧ (s.mem.int (.presetIsSet homeIndex) != 0) = true then
    s'.user = (ptzPresetAllnum, s.index1) ∧ s'.mem.int (.presetIsSet homeIndex) = 0
  else s'.user = s.user ∧ s'.mem = s.mem
  := by
  have hhome := x.forHome_iff hc
  unfold gotoPresetBranch at h
  split at h
  · next hset =>
      simp only at h
      generalize toChar (atoi x.value) = v at h hhome
      split at h
      · next hin =>
          split at h
          · next hisSet =>
              split at h
              · next h95 =>
                  subst h95
                  rw [if_pos ⟨hhome.mpr ⟨hset, rfl⟩, bne_iff_ne.mpr hisSet⟩]
                  obtain ⟨huser, hmem⟩ := gotoReply_user h
                  rw [huser, hmem]
                  exact ⟨rfl, clearPresets_isSet _ (by decide)⟩
              · next h95 =>
                  rw [if_neg (fun hand => h95 (hhome.mp hand.1).2)]
                  apply gotoReply_user h
          · next hisSet =>
              rw [if_neg]
              · apply gotoReply_user h
              · rintro ⟨hx, hne⟩
                obtain ⟨-, rfl⟩ := hhome.mp hx
                exact hisSet (bne_iff_ne.mp hne)
      · next hout =>
          rw [if_neg]
          · apply gotoReply_user h
          · rintro ⟨hx, -⟩
            obtain ⟨-, rfl⟩ := hhome.mp hx
            apply hout
            decide
  · next hset =>
      obtain rfl := Except.ok.inj h
      rw [if_neg (fun hand => hset (hhome.mp hand.1).1)]
      exact ⟨rfl, rfl⟩

/-- By `e_ptz_deletepreset` the preset that restores the PTZ unit is forgotten if the item is
`ForHome`. -/
theorem deletepresetBranch_home
    (hc : s.cursor = x.cursor) (h : deletepresetBranch x.value s = .ok s') :
  s'.mem.int (.presetIsSet homeIndex) =
    if x.ForHome then 0 else s.mem.int (.presetIsSet homeIndex)
  := by
  have hhome := x.forHome_iff hc
  unfold deletepresetBranch at h
  split at h
  · next hset =>
      simp only at h
      generalize toChar (atoi x.value) = v at h hhome
      split at h
      · next hle =>
          obtain rfl := Except.ok.inj h
          rw [if_neg]
          intro hx
          obtain ⟨-, rfl⟩ := hhome.mp hx
          revert hle
          decide
      · next hpos =>
          split at h
          · next hgt =>
              obtain rfl := Except.ok.inj h
              rw [if_neg]
              intro hx
              obtain ⟨-, rfl⟩ := hhome.mp hx
              revert hgt
              decide
          · split at h
            · next hunset =>
                obtain rfl := Except.ok.inj h
                split
                · next hx =>
                    obtain ⟨-, rfl⟩ := hhome.mp hx
                    apply hunset
                · rfl
            · obtain rfl := Except.ok.inj h
              apply (Presets.clearPreset_isSet _ _ _).trans
              by_cases hv : v = homePreset
              · subst hv
                rw [if_pos (by rfl), if_pos (hhome.mpr ⟨hset, rfl⟩)]
              · rw [if_neg, if_neg (fun hx => hv (hhome.mp hx).2)]
                intro heq
                apply hv
                simp only [homeIndex, homePreset] at *
                omega
  · next hset =>
      obtain rfl := Except.ok.inj h
      rw [if_neg (fun hx => hset (hhome.mp hx).1)]

/-- The branches of all keys but the two for going to and deleting a preset mark other files than
that of the presets. -/
theorem Key.file_ne_preset
    {key : Key} (hgoto : key.branch ≠ .gotoPreset) (hdelete : key.branch ≠ .deletepreset)
    (c : Cursor) :
  key.branch.file c ≠ some .ptzPreset
  := by
  have hav (a : AvFile) : a.cfgFile ≠ .ptzPreset := by
    cases a
    all_goals decide
  cases key
  case ptzGotoPreset => exact absurd rfl hgoto
  case ptzDeletepreset => exact absurd rfl hdelete
  all_goals
    simp only [Key.branch, Branch.file, Branch.plain, Branch.calling, Branch.indexed,
      Branch.hooked]
    try split
  all_goals simp [hav]

theorem Item.run_home
    (hgoto : x.key.branch ≠ .gotoPreset) (hdelete : x.key.branch ≠ .deletepreset)
    (hreset : x.key.branch ≠ .reset) (h : x.run env s = .ok s') (i : Nat) :
  s'.mem.int (.presetIsSet i) = s.mem.int (.presetIsSet i)
  := by
  apply (Branch.touches x.key.marksItsFile hreset h).mem
  · apply Branch.not_loose (by decide : some CfgFile.ptzPreset ∉ looseFiles) rfl
  · intro c hc hfile
    obtain rfl := Option.some.inj hfile
    apply Key.file_ne_preset hgoto hdelete _ hc

/-! ### The items -/

variable {u : UserView}

/-- An item that is not for a name leaves the `names` alone. -/
theorem Item.names_of_ne (hname : x.key.branch ≠ .userName) (names : Names) :
  x.names names = names
  := by
  rw [Item.names, if_neg]
  rintro ⟨hkey, -⟩
  apply hname
  rw [hkey]
  rfl

/-- An item `x` makes of the view of a session what `UserView.step` computes from it. -/
theorem Item.run_viewsUsers
    (hc : s.cursor = x.cursor) (hu : s.ViewsUsers u) (h : x.run env s = .ok s') :
  s'.ViewsUsers (u.step env x)
  := by
  have hnames : s'.mem.names = x.names u.names := by
    rw [← hu.names]
    apply Item.run_names hc h
  have hcmd : s.cmdType = x.cursor.cmdType := congrArg Cursor.cmdType hc
  have hquiet (hname : x.key.branch ≠ .userName) : s'.mem.names = u.names := by
    rw [hnames, Item.names_of_ne hname]
  cases hb : x.key.branch
  case userName =>
    have hhome := Item.run_home (by simp [hb]) (by simp [hb]) (by simp [hb]) h homeIndex
    rw [Item.run, hb] at h
    obtain ⟨hi, hindex1⟩ := Prod.mk.inj (userNameBranch_user hc hu h)
    rw [UserView.step, hb]
    exact ⟨hnames, hi, hindex1, by rw [hhome, hu.home]⟩
  case gotoPreset =>
    have hnames := hquiet (by simp [hb])
    rw [Item.run, hb] at h
    have hgoto := gotoPresetBranch_user hc h
    rw [hu.home] at hgoto
    simp only [UserView.step, hb]
    split at hgoto
    · next hforget =>
        obtain ⟨huser, hisSet⟩ := hgoto
        obtain ⟨hi, hindex1⟩ := Prod.mk.inj huser
        rw [if_pos hforget]
        exact ⟨hnames, hi, hindex1.trans hu.index1, by simp [hisSet]⟩
    · next hforget =>
        obtain ⟨huser, hmem⟩ := hgoto
        obtain ⟨hi, hindex1⟩ := Prod.mk.inj huser
        rw [if_neg hforget]
        exact ⟨hnames, hi.trans hu.i, hindex1.trans hu.index1, by rw [hmem, hu.home]⟩
  case deletepreset =>
    have hnames := hquiet (by simp [hb])
    obtain ⟨hi, hindex1⟩ := Prod.mk.inj (Branch.run_user (by simp [hb, Branch.Searches]) _ h)
    rw [Item.run, hb] at h
    have hisSet := deletepresetBranch_home hc h
    simp only [UserView.step, hb]
    split at hisSet
    · next hhome =>
        rw [if_pos hhome]
        exact ⟨hnames, hi.trans hu.i, hindex1.trans hu.index1, by simp [hisSet]⟩
    · next hhome =>
        rw [if_neg hhome]
        exact ⟨hnames, hi.trans hu.i, hindex1.trans hu.index1, by rw [hisSet, hu.home]⟩
  case allpresets =>
    have hnames := hquiet (by simp [hb])
    rw [Item.run, hb] at h
    simp only [UserView.step, hb]
    change (if s.cmdType = tGet then _ else _) = _ at h
    split at h
    · next hget =>
        obtain rfl := Except.ok.inj h
        rw [if_pos (hcmd.symm.trans hget)]
        exact ⟨hnames, rfl, hu.index1, hu.home⟩
    · next hget =>
        obtain rfl := Except.ok.inj h
        rw [if_neg (fun heq => hget (hcmd.trans heq))]
        exact hu
  case reset =>
    have hnames := hquiet (by simp [hb])
    obtain ⟨hi, hindex1⟩ := Prod.mk.inj (Branch.run_user (by simp [hb, Branch.Searches]) _ h)
    rw [Item.run, hb] at h
    simp only [UserView.step, hb]
    obtain ⟨hne, rfl⟩ | ⟨hset, hresets⟩ := resetBranch_resets h
    · rw [if_neg (fun heq => hne (hcmd.trans heq))]
      exact hu
    · rw [if_pos (hcmd.symm.trans hset)]
      refine ⟨hnames, hi.trans hu.i, hindex1.trans hu.index1, ?_⟩
      have hisSet := (hresets.reset (.int (.presetIsSet homeIndex)) ⟨.ptzPreset, by decide, rfl⟩).1
      exact congrArg (· != 0) hisSet
  all_goals
    have hnames := hquiet (by simp [hb])
    have hisSet := Item.run_home (by simp [hb]) (by simp [hb]) (by simp [hb]) h homeIndex
    obtain ⟨hi, hindex1⟩ := Prod.mk.inj (Branch.run_user (by simp [hb, Branch.Searches]) _ h)
    simp only [UserView.step, hb]
    exact ⟨hnames, hi.trans hu.i, hindex1.trans hu.index1, by rw [hisSet, hu.home]⟩

/-! ### Requests -/

/-- The items `xs` of a request, each with the view of the users that it meets. -/
def visits (env : Env) (u : UserView) (xs : List Item) : List (UserView × Item) :=
  trace (UserView.step env) (fun u x => [(u, x)]) u xs

theorem visits_cons {xs : List Item} :
  visits env u (x :: xs) = (u, x) :: visits env (u.step env x) xs
  := rfl

theorem mem_visits {xs : List Item} {p : UserView × Item} :
  p ∈ visits env u xs ↔
    ∃ pre x post, xs = pre ++ x :: post ∧ p = (pre.foldl (UserView.step env) u, x)
  := by simp only [visits, mem_trace, List.mem_singleton]

/-- The view of the users at the start of a request to the device `d`. -/
def Device.userStart (d : Device) : UserView where
  names := d.mem.names
  i := 0
  index1 := -1
  naming := none
  homeSet := d.mem.int (.presetIsSet homeIndex) != 0

/-- The view of the users behind the pairs of the request `req`. -/
def Device.userView (env : Env) (d : Device) (req : Request) : UserView :=
  (d.items req).foldl (UserView.step env) d.userStart

theorem Device.userStart_views (env : Env) (d : Device) :
  (Session.start env d).ViewsUsers d.userStart
  := ⟨rfl, rfl, rfl, rfl⟩

theorem processPairs_viewsUsers (h : processPairs env req (.start env d) = .ok t) :
  t.ViewsUsers (d.userView env req)
  := by
  apply processPairs_follows (R := Session.ViewsUsers) _ h (start_at env d) (d.userStart_views env)
  intro s u x s' _ hc hu hx
  apply Item.run_viewsUsers hc hu hx

/-- If the loop gets through the pairs `pre`, then the item of the pair behind them is among the
`visits`, with the view that it meets. -/
theorem mem_visits_of_run
    {pre post : Request} {pair : List Char × List Char} {key : Key}
    (h : processPairs env pre (.start env d) = .ok s)
    (hkey : Key.ofCode (atoi pair.1) = some key) :
  (d.userView env pre, Item.mk s.cursor key pair.2)
    ∈ visits env d.userStart (d.items (pre ++ pair :: post))
  := by
  have hitems := (items_append (pair :: post) h (start_at env d)).1
  rw [items_cons_some hkey] at hitems
  apply mem_visits.mpr ⟨_, _, _, hitems, rfl⟩

end Msg
