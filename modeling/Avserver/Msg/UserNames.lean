import Avserver.Library.Run
import Avserver.Library.Slots
import Avserver.Msg.InRange
import Avserver.Msg.Users

/-!
# The number of the users, and their names

The table of the users is in order when no two users have the same name and `user_num` is the
number of the users.  A request adds and deletes users, but it neither looks whether a name is
there already nor changes `user_num`.  So the table is in order behind a request exactly when the
request deletes as many users as it adds, and as many of each name as leave one at most; and it
stays in order in a run exactly when every request is such (`users_in_order_iff`).
-/

namespace Msg

open Library Library.Slots

variable {env : Env} {s s' t : Session} {x : Item} {req : Request} {d d' : Device}
  {value : List Char} {reply : Reply}

/-! ### The table in order -/

/-- The name in the buffer `buf`, up to its end. -/
def nameOf (buf : List Char) : List Char := buf.takeWhile (· ≠ nul)

/-- The number of users whose names have the property `p`. -/
def Names.number (p : List Char → Bool) (names : Names) : Nat :=
  tally (fun buf => p (nameOf buf)) userMax names

/-- In `c` no two users have the same name, and `user_num` is the number of the users. -/
structure Contents.UsersInOrder (c : Contents) : Prop where
  distinct : ∀ i < userMax, ∀ j < userMax, nameOf (c.names i) ≠ [] →
    nameOf (c.names i) = nameOf (c.names j) → i = j
  number : c.int .userNum = c.names.number (· ≠ [])

/-- The name of the user that the item `x` adds, if it adds one. -/
def Item.added (x : Item) : Option (List Char) :=
  if x.key = .userName ∧ x.cursor.cmdType = tSet ∧ x.cursor.index = addUser ∧ x.value ≠ [] then
    some x.value
  else none

/-- The name of the user that the item `x` deletes, if it deletes one. -/
def Item.deleted (x : Item) : Option (List Char) :=
  if x.key = .userName ∧ x.cursor.cmdType = tSet ∧ x.cursor.index = delUser ∧ x.value ≠ [] then
    some x.value
  else none

/-- The names of the users that the request `req` adds, in order. -/
def Device.added (d : Device) (req : Request) : List (List Char) :=
  (d.items req).filterMap Item.added

/-- The names of the users that the request `req` deletes, in order. -/
def Device.deleted (d : Device) (req : Request) : List (List Char) :=
  (d.items req).filterMap Item.deleted

/-- The request deletes as many users as it adds, and of each name that it adds it leaves one user
at most. -/
def Device.Balanced (d : Device) (req : Request) : Prop :=
  (d.added req).length = (d.deleted req).length ∧
  ∀ name ∈ d.added req,
    d.mem.names.number (· = name) + (d.added req).count name
      ≤ (d.deleted req).count name + 1

instance (d : Device) (req : Request) : Decidable (d.Balanced req) :=
  inferInstanceAs (Decidable (_ ∧ _))

/-- The values of the pairs of `req` are strings, without an end in them. -/
def Strings (req : Request) : Prop := ∀ pair ∈ req, nul ∉ pair.2

instance (req : Request) : Decidable (Strings req) :=
  inferInstanceAs (Decidable (∀ pair ∈ req, nul ∉ pair.2))

/-! ### Adding and deleting -/

theorem nameOf_of_text {buf : List Char} (h : text buf = .ok value) : nameOf buf = value := by
  unfold text at h
  split at h
  · apply Except.ok.inj h
  · contradiction

theorem nameOf_of_head {buf : List Char} (h : buf.head? = some nul) : nameOf buf = [] := by
  cases buf with
  | nil => rfl
  | cons c buf =>
      obtain rfl := Option.some.inj h
      simp [nameOf]

theorem nameOf_clear (buf : List Char) : nameOf (clear buf) = [] := by
  cases buf with
  | nil => rfl
  | cons c buf => simp [nameOf, clear]

/-- The branch `e_user_name` adds one to the number of the users with `p` if it adds such a user,
and takes one if it deletes one. -/
theorem userNameBranch_number
    {p : List Char → Bool} (hp : p [] = false) (hvalue : nul ∉ value)
    (h : userNameBranch value s = .ok s') :
  s'.mem.names.number p
      + (if s.cmdType = tSet ∧ s.index = delUser ∧ p value = true then 1 else 0)
    = s.mem.names.number p
      + if s.cmdType = tSet ∧ s.index = addUser ∧ p value = true then 1 else 0
  := by
  have hdisjoint : ¬ (addUser = delUser) := by decide
  obtain ⟨s₁, hs₁, h⟩ := bind_ok.mp h
  obtain ⟨i, hi, h⟩ := bind_ok.mp h
  obtain ⟨t, -, h⟩ := bind_ok.mp h
  have hreply := Session.reply_stores (P := fun _ => False) h
  rw [hreply.names fun _ hfalse => hfalse]
  have hfound : s₁.i < userMax := by
    unfold bounded at hi
    split at hi
    · omega
    · contradiction
  clear h hi hreply
  unfold Session.onCmd at hs₁
  split at hs₁
  · next hset =>
      simp only [hset, true_and]
      unfold userNameSet at hs₁
      split at hs₁
      · next hadd =>
          obtain ⟨k, hk, hs₁⟩ := bind_ok.mp hs₁
          simp only at hs₁
          split at hs₁
          · next hmax =>
              obtain rfl := Except.ok.inj hs₁
              exact absurd hmax (Nat.ne_of_lt hfound)
          · next hmax =>
              obtain ⟨-, hle, -, hat⟩ := findUser_ok hk
              have hlt : k < userMax := by omega
              have hfree : nameOf (s.mem.names k) = [] :=
                nameOf_of_head (of_decide_eq_true (Except.ok.inj (hat (by omega))))
              obtain ⟨buf, hbuf, hs₁⟩ := bind_ok.mp hs₁
              obtain rfl := Except.ok.inj hs₁
              have hname : nameOf buf = value := nameOf_of_text (text_strcpy hvalue hbuf)
              have htally := tally_update (f := s.mem.names) (q := fun buf => p (nameOf buf))
                (b := buf) hlt
              simp only [hfree, hp, hname] at htally
              rw [Contents.names_setStr]
              simpa [Names.number, hadd, hdisjoint] using htally
      · next hadd =>
          split at hs₁
          · next hdel =>
              obtain ⟨k, hk, hs₁⟩ := bind_ok.mp hs₁
              simp only at hs₁
              split at hs₁
              · next hmax =>
                  obtain rfl := Except.ok.inj hs₁
                  exact absurd hmax (Nat.ne_of_lt hfound)
              · next hmax =>
                  obtain ⟨-, hle, -, hat⟩ := findUser_ok hk
                  have hlt : k < userMax := by omega
                  have hname : nameOf (s.mem.names k) = value :=
                    nameOf_of_text (text_of_strcmpEq (hat (by omega)))
                  obtain rfl := Except.ok.inj hs₁
                  have htally := tally_update (f := s.mem.names) (q := fun buf => p (nameOf buf))
                    (b := clear (s.mem.names k)) hlt
                  simp only [nameOf_clear, hp, hname] at htally
                  have hbuf : s.mem.str (.username k) = s.mem.names k := rfl
                  rw [Contents.names_setStr, hbuf]
                  simpa [Names.number, hdel, Ne.symm hdisjoint] using htally
          · next hdel =>
              have hsame : s₁.mem.names = s.mem.names := by
                split at hs₁
                · obtain ⟨k, -, hs₁⟩ := bind_ok.mp hs₁
                  obtain rfl := Except.ok.inj hs₁
                  rfl
                · obtain rfl := Except.ok.inj hs₁
                  rfl
              simp [hsame, hadd, hdel]
  · next hset =>
      have hsame : s₁.mem.names = s.mem.names := by
        split at hs₁
        · obtain ⟨k, -, hs₁⟩ := bind_ok.mp hs₁
          obtain rfl := Except.ok.inj hs₁
          rfl
        · obtain rfl := Except.ok.inj hs₁
          rfl
      simp [hsame, hset]

/-! ### The items -/

/-- An item `x` changes the number of the users with `p` by the user that it adds or deletes. -/
theorem Item.run_number
    {p : List Char → Bool} (hp : p [] = false) (hvalue : nul ∉ x.value) (hc : s.cursor = x.cursor)
    (h : x.run env s = .ok s') :
  s'.mem.names.number p + x.deleted.toList.countP p
    = s.mem.names.number p + x.added.toList.countP p
  := by
  by_cases hname : x.key = .userName
  · obtain ⟨c, key, value⟩ := x
    obtain rfl : s.cursor = c := hc
    obtain rfl : key = .userName := hname
    have hnumber := userNameBranch_number hp hvalue h
    have hne (hvalue : p value = true) : value ≠ [] := by
      rintro rfl
      rw [hp] at hvalue
      contradiction
    have hcount (index : Int) :
        (if (s.cmdType = tSet ∧ s.index = index ∧ value ≠ []) then some value
          else none : Option (List Char)).toList.countP p
          = if s.cmdType = tSet ∧ s.index = index ∧ p value = true then 1 else 0 := by
      by_cases hvalue : p value = true
      · by_cases hcmd : s.cmdType = tSet ∧ s.index = index
        · rw [if_pos ⟨hcmd.1, hcmd.2, hne hvalue⟩, if_pos ⟨hcmd.1, hcmd.2, hvalue⟩]
          simp [hvalue]
        · rw [if_neg (fun h => hcmd ⟨h.1, h.2.1⟩), if_neg (fun h => hcmd ⟨h.1, h.2.1⟩)]
          rfl
      · have hnot : ¬ (s.cmdType = tSet ∧ s.index = index ∧ p value = true) :=
          fun h => hvalue h.2.2
        rw [if_neg hnot]
        split
        · simp [hvalue]
        · rfl
    simp only [Item.deleted, Item.added, true_and]
    rw [← hcount, ← hcount] at hnumber
    apply hnumber
  · have hnames := Item.run_names hc h
    rw [Item.names, if_neg (fun h => hname h.1)] at hnames
    rw [hnames, Item.deleted, if_neg (fun h => hname h.1), Item.added, if_neg (fun h => hname h.1)]

theorem Branch.loose_userNum {b : Branch} {c : Cursor} : ¬ b.loose c (.int .userNum) := by
  intro h
  cases b
  case frameRate | bitRate | ipInterval =>
    have hfile := h.2.2
    revert hfile
    cases c.avFile
    all_goals decide
  case macaddr | devtype => cases h.2
  case userName =>
    obtain ⟨-, i, hname⟩ := h
    cases hname
  all_goals cases h

/-- No item `x` changes `user_num`. -/
theorem Item.run_userNum (h : x.run env s = .ok s') : s'.mem.int .userNum = s.mem.int .userNum := by
  by_cases hpassword : x.key = .userPassword
  · rw [Item.run, hpassword] at h
    change (if s.cmdType = tSet then _ else _) = _ at h
    split at h
    · obtain ⟨i, -, h⟩ := bind_ok.mp h
      obtain ⟨s₁, hs₁, h⟩ := bind_ok.mp h
      obtain rfl := Except.ok.inj h
      exact (Session.setText_stores hs₁).mem (.int .userNum) (by simp)
    · obtain rfl := Except.ok.inj h
      rfl
  · by_cases hgroup : x.key = .userGroup
    · rw [Item.run, hgroup] at h
      change (if s.cmdType = tSet then _ else _) = _ at h
      split at h
      · obtain ⟨i, -, h⟩ := bind_ok.mp h
        obtain rfl := Except.ok.inj h
        exact (s.setInt_stores (.group i) (atoi x.value)).mem (.int .userNum) (by simp)
      · obtain rfl := Except.ok.inj h
        rfl
    · apply Branch.run_untouched x.key.marksItsFile _ Branch.loose_userNum _ h
      · exact fun c hc hfile => absurd (Option.some.inj hfile ▸ hc) (by decide)
      · rintro c hfile hc
        obtain rfl := Option.some.inj hc
        obtain hkey | hkey := Key.file_user hfile
        · apply hpassword hkey
        · apply hgroup hkey

/-! ### Requests -/

variable {p : List Char → Bool}

/-- Behind a request the number of the users with `p` has changed by those that it adds and
deletes. -/
theorem processMsg_number
    (hp : p [] = false) (hreq : Strings req) (h : processMsg env req d = .ok reply) :
  reply.device.mem.names.number p + (d.deleted req).countP p
    = d.mem.names.number p + (d.added req).countP p
  := by
  obtain ⟨t, s, ht, hs, hdevice⟩ := processMsg_ok h
  have hnames : reply.device.mem.names = t.mem.names := by
    rw [hdevice]
    apply (finish_names hs).1
  have hloop := processPairs_follows (g := fun xs x => xs ++ [x])
    (R := fun s xs => s.mem.names.number p + (xs.filterMap Item.deleted).countP p
      = d.mem.names.number p + (xs.filterMap Item.added).countP p) (u := [])
    ?_ ht (start_at env d) (by rfl)
  · rw [foldl_concat] at hloop
    rw [hnames]
    apply hloop
  · intro s xs x s' hx hc hxs hrun
    obtain ⟨pair, hpair, -, hvalue⟩ := exists_mem_of_mem_items hx
    have hitem := Item.run_number hp (hvalue ▸ hreq pair hpair) hc hrun
    have hone (f : Item → Option (List Char)) :
        ((xs ++ [x]).filterMap f).countP p = (xs.filterMap f).countP p + (f x).toList.countP p := by
      rw [List.filterMap_append, List.countP_append]
      cases hx : f x with
      | none => simp [hx]
      | some v => simp [hx]
    rw [hone, hone]
    omega

/-- A request that is answered leaves `user_num` as it is. -/
theorem processMsg_userNum (h : processMsg env req d = .ok reply) :
  reply.device.mem.int .userNum = d.mem.int .userNum
  := by
  obtain ⟨t, s, ht, hs, hdevice⟩ := processMsg_ok h
  have hloop : t.mem.int .userNum = d.mem.int .userNum := by
    apply processPairs_invariant (I := fun t => t.mem.int .userNum = d.mem.int .userNum) _ ht
      (start_at env d) rfl
    intro s x s' _ _ hs hx
    rw [← hs]
    apply Item.run_userNum hx
  obtain ⟨s₁, s₂, hs₁, hs₂, hmem, -⟩ := finish_ok hs
  rw [hdevice, ← hloop]
  apply Eq.trans (congrArg (Contents.int · .userNum) hmem)
  apply Eq.trans (hs₂.mem (.int .userNum) (by simp [Field.file, IntField.file]))
  apply hs₁.mem (fun hfalse => hfalse)
  rintro c hc hfile
  obtain rfl := Option.some.inj hc
  cases hfile

/-- The names of the users are distinct exactly when each name that is not empty is that of one user
at most. -/
theorem distinct_iff {names : Names} :
  (∀ i < userMax, ∀ j < userMax, nameOf (names i) ≠ [] → nameOf (names i) = nameOf (names j) →
    i = j) ↔ ∀ name ≠ [], names.number (· = name) ≤ 1
  := by
  simp only [Names.number, tally_le_one_iff, decide_eq_true_eq]
  constructor
  · intro h name hname i hi j hj hni hnj
    apply h i hi j hj
    · rw [hni]
      apply hname
    · rw [hni, hnj]
  · intro h i hi j hj hne heq
    apply h _ hne i hi j hj rfl heq.symm

/-- If the table is in order before a request, it is behind it exactly when the request is
`Balanced`. -/
theorem processMsg_inOrder_iff
    (hreq : Strings req) (h : processMsg env req d = .ok reply) (hd : d.mem.UsersInOrder) :
  reply.device.mem.UsersInOrder ↔ d.Balanced req
  := by
  have hne {f : Item → Option (List Char)}
      (hf : ∀ x name, f x = some name → name ≠ []) {name : List Char}
      (hname : name ∈ (d.items req).filterMap f) : name ≠ [] := by
    obtain ⟨x, -, hx⟩ := List.mem_filterMap.mp hname
    apply hf x name hx
  have hadded {name : List Char} (hname : name ∈ d.added req) : name ≠ [] := by
    apply hne _ hname
    intro x name hx
    unfold Item.added at hx
    split at hx
    · next hadd =>
        obtain rfl := Option.some.inj hx
        apply hadd.2.2.2
    · contradiction
  have hdeleted {name : List Char} (hname : name ∈ d.deleted req) : name ≠ [] := by
    apply hne _ hname
    intro x name hx
    unfold Item.deleted at hx
    split at hx
    · next hdel =>
        obtain rfl := Option.some.inj hx
        apply hdel.2.2.2
    · contradiction
  have hlength {names : List (List Char)} (h : ∀ name ∈ names, name ≠ []) :
      names.countP (fun name => decide (name ≠ [])) = names.length :=
    List.countP_eq_length.mpr fun name hname => decide_eq_true (h name hname)
  have hcount (name : List Char) (names : List (List Char)) :
      names.countP (fun name' => decide (name' = name)) = names.count name := by
    rw [List.count_eq_countP]
    apply List.countP_congr
    simp
  have htotal := processMsg_number (p := fun name => decide (name ≠ [])) rfl hreq h
  rw [hlength fun _ => hdeleted, hlength fun _ => hadded] at htotal
  have hone {name : List Char} (hname : name ≠ []) :
      reply.device.mem.names.number (· = name) + (d.deleted req).count name
        = d.mem.names.number (· = name) + (d.added req).count name := by
    have hnumber := processMsg_number (p := fun name' => decide (name' = name))
      (decide_eq_false (Ne.symm hname)) hreq h
    rw [hcount, hcount] at hnumber
    apply hnumber
  constructor
  · rintro ⟨hdistinct, hnumber⟩
    rw [processMsg_userNum h, hd.number] at hnumber
    constructor
    · omega
    · intro name hname
      have hle := distinct_iff.mp hdistinct name (hadded hname)
      have heq := hone (hadded hname)
      omega
  · rintro ⟨hsame, hbalanced⟩
    constructor
    · apply distinct_iff.mpr
      intro name hname
      have heq := hone hname
      by_cases hmem : name ∈ d.added req
      · have hle := hbalanced name hmem
        omega
      · have hle := distinct_iff.mp hd.distinct name hname
        rw [List.count_eq_zero.mpr hmem] at heq
        omega
    · rw [processMsg_userNum h, hd.number]
      omega

/-! ### Runs -/

/-- The table is in order behind every request of a run exactly when every request is `Balanced`: it
deletes as many users as it adds, and leaves at most one user of each name. -/
theorem users_in_order_iff
    {rs : List (Request × Env)} (hrun : Run handle (fun _ r => Strings r.1) d rs d')
    (hd : d.mem.UsersInOrder) :
  (∀ pre post d₁, rs = pre ++ post → Run handle (fun _ r => Strings r.1) d pre d₁ →
    d₁.mem.UsersInOrder) ↔
  Run handle (fun d r => d.Balanced r.1) d rs d'
  := by
  apply Run.forall_prefix_iff (I := fun d => d.mem.UsersInOrder) _ hrun hd
  intro d r d' hd hr hstep
  obtain ⟨reply, hreply, rfl⟩ := handle_some hstep
  apply processMsg_inOrder_iff hr hreply hd

/-- In `Contents.blank` there is no user, so the table is in order. -/
theorem Contents.blank_usersInOrder : Contents.blank.UsersInOrder where
  distinct := fun i _ j _ hne => absurd (show nameOf (List.replicate 64 nul) = [] by decide) hne
  number := by decide

/-- A user who is added and deleted by one request leaves the table in order. -/
theorem users_in_order_iff_deleted :
  ∃ d',
    Run handle (fun _ r => Strings r.1) .blank
      [(addRequest [("133".toList, "1".toList), ("134".toList, "bob".toList)], .idle)] d' ∧
    d'.mem.UsersInOrder
  := by
  obtain ⟨d', hrun, hbalanced⟩ := Run.exists_of_exec handle (fun _ r => Strings r.1) .blank
    (fun _ => decide (Device.Balanced .blank
      (addRequest [("133".toList, "1".toList), ("134".toList, "bob".toList)])))
    [(addRequest [("133".toList, "1".toList), ("134".toList, "bob".toList)], .idle)]
    (by decide +kernel)
  refine ⟨d', hrun, ?_⟩
  apply (users_in_order_iff hrun Contents.blank_usersInOrder).mpr _ _ [] d' rfl hrun
  cases hrun with
  | cons _ hstep hrest =>
      cases hrest
      exact Run.cons (of_decide_eq_true hbalanced) hstep (Run.nil d')

/-- Two users of the same name are added by requests, and `user_num` stays as it is. -/
theorem users_not_in_order :
  ∃ reply, processMsg .idle (addRequest [("134".toList, "bob".toList)]) .blank = .ok reply ∧
    Strings (addRequest [("134".toList, "bob".toList)]) ∧ Device.blank.mem.UsersInOrder ∧
    nameOf (reply.device.mem.names 0) = "bob".toList ∧
    nameOf (reply.device.mem.names 1) = "bob".toList ∧
    reply.device.mem.names.number (· ≠ []) = 2 ∧ reply.device.mem.int .userNum = 0
  := by
  have hok : (processMsg .idle (addRequest [("134".toList, "bob".toList)]) .blank).map
      (fun reply => (nameOf (reply.device.mem.names 0), nameOf (reply.device.mem.names 1),
        reply.device.mem.names.number (· ≠ []), reply.device.mem.int .userNum))
      = .ok ("bob".toList, "bob".toList, 2, 0) := by decide +kernel
  obtain ⟨reply, hreply, heq⟩ := map_ok.mp hok
  obtain ⟨hfirst, heq⟩ := Prod.mk.inj heq
  obtain ⟨hsecond, heq⟩ := Prod.mk.inj heq
  obtain ⟨hnumber, huserNum⟩ := Prod.mk.inj heq
  exact ⟨reply, hreply, by decide, Contents.blank_usersInOrder, hfirst, hsecond, hnumber, huserNum⟩

end Msg
