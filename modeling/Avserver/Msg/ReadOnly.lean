import Avserver.Msg.Reads

/-!
# Requests that do not set

A request that gives no type of 1 or more is a query, or it has no type at all.  What it does
follows from its items: the only commands that it runs are those of the switch of the
resolution, which is left out for `T_Get` only, and the only members of `File_array` that it
changes are the hardware address and the device type, which are refreshed before they are
answered (`processPairs_reads`, `finish_reads`).  So a query leaves the configuration and the
system alone exactly when it asks for no resolution that is not set, outside `T_Get`, and not
for a device type that is not up to date (`query_untouched_iff`).
-/

namespace Msg

open Library

variable {env : Env} {s s' t : Session} {x : Item} {req : Request} {d : Device} {reply : Reply}

/-! ### The items of a query -/

/-- The request gives no type of 1 or more, so it is not understood as one that sets. -/
def Query (req : Request) : Prop :=
  ∀ pair ∈ req, Key.ofCode (atoi pair.1) = some .type → atoi pair.2 < 1

instance (req : Request) : Decidable (Query req) := List.decidableBAll _ _

/-- In a query every pair leaves the type of the cursor below 1. -/
theorem Query.select
    (hreq : Query req) {pair : List Char × List Char} (hmem : pair ∈ req) {key : Key}
    (hkey : Key.ofCode (atoi pair.1) = some key) {n : Int} {c : Cursor} (hc : c.cmdType < 1) :
  (key.branch.select n pair.2 c).cmdType < 1
  := by
  by_cases htype : key = .type
  · subst htype
    have hlt := hreq pair hmem hkey
    simp only [Key.branch, Branch.select]
    split
    · omega
    · apply hlt
  · rw [(key.select_cmd htype pair.2).1]
    apply hc

theorem Query.cursor (hreq : Query req) (hx : x ∈ d.items req) : x.cursor.cmdType < 1 := by
  apply items_cursor (I := fun c => c.cmdType < 1) _ (by decide) hx
  intro pair hmem key hkey c hc
  apply hreq.select hmem hkey hc

/-- Behind the loop over a query the type is below 1. -/
theorem Query.cmdType (hreq : Query req) (h : processPairs env req (.start env d) = .ok t) :
  t.cmdType < 1
  := by
  have hstart : (-1 : Int) < 1 := by decide
  apply processPairs_invariant (I := fun t => t.cmdType < 1) _ h (start_at env d) hstart
  intro s x s' hx hc hs hrun
  obtain ⟨pair, hmem, hkey, hvalue⟩ := exists_mem_of_mem_items hx
  have hcursor : s'.cursor.cmdType < 1 := by
    rw [Branch.run_cursor x.key.marksItsFile hrun, ← hvalue]
    apply hreq.select hmem hkey hs
  apply hcursor

theorem ne_tSet {v : Int} (h : v < 1) : v ≠ tSet := by
  rintro rfl
  revert h
  decide

/-! ### What the loop does -/

/-- The commands that the item `x` runs to switch the resolution, given the widths that are
configured in `m`. -/
def Item.switches (m : Contents) (x : Item) : List Effect :=
  x.key.branch.readEffects x.value x.cursor.cmdType m

/-- The item refreshes the type of the device: it asks for it, by `T_Get`. -/
def Item.RefreshesDevtype (x : Item) : Prop :=
  x.key.branch = .devtype ∧ x.cursor.cmdType = tGet

/-- The type of the device, as it is computed from the width of the main stream in `m`. -/
def devtypeOf (m : Contents) : Int := if m.int (.ubs .av0 0 .width) = 1920 then 1 else 0

/-- The field `f` is one that a query may change: a byte of the hardware address, the type of the
device, or the start of a snapshot. -/
def Refreshed (f : Field) : Prop :=
  (∃ i, f = .int (.macaddr i)) ∨ f = .int (.sys .devtype) ∨ f = .int .snapStart

/-- What the items of a query have done, given the commands that were run and whether the type of
the device was refreshed. -/
structure Queried (d : Device) (env : Env) (s : Session) (u : List Effect × Prop) : Prop where
  mem : ∀ f, ¬ Refreshed f → s.mem f = d.mem f
  devtype : u.2 → s.mem.int (.sys .devtype) = devtypeOf d.mem
  kept : ¬ u.2 → s.mem.int (.sys .devtype) = d.mem.int (.sys .devtype)
  effects : s.effects = u.1
  notes : s.notes = (Session.start env d).notes

/-- The hardware address is stored in its own members: `storeHwaddr` leaves any other field `f`
alone. -/
theorem storeHwaddr_eq
    {m : Contents} {hwaddr : Nat → Int} {f : Field} (hf : ∀ i, f ≠ .int (.macaddr i)) :
  storeHwaddr m hwaddr f = m f
  := by
  unfold storeHwaddr
  induction List.range macLen generalizing m with
  | nil => rfl
  | cons i is ih =>
      rw [List.foldl_cons, ih]
      apply Contents.setInt_of_ne (hf i)

/-- A pair of a query leaves a field `f` alone that is not `Refreshed`. -/
theorem readMem_of_not_refreshed
    {b : Branch} {value : List Char} {cmdType : Int} {m : Contents} {f : Field}
    (hf : ¬ Refreshed f) :
  b.readMem env value cmdType m f = m f
  := by
  cases b
  case macaddr =>
    simp only [Branch.readMem]
    split
    · apply storeHwaddr_eq
      rintro i rfl
      apply hf (Or.inl ⟨i, rfl⟩)
    · rfl
  case devtype =>
    simp only [Branch.readMem]
    split
    · apply Contents.setInt_of_ne
      rintro rfl
      apply hf (Or.inr (Or.inl rfl))
    · rfl
  case snapshotStart =>
    apply Contents.setInt_of_ne
    rintro rfl
    apply hf (Or.inr (Or.inr rfl))
  all_goals rfl

theorem readMem_devtype {value : List Char} {m : Contents} :
  (x.key.branch.readMem env value x.cursor.cmdType m).int (.sys .devtype) =
    if x.key.branch = .devtype ∧ x.cursor.cmdType = tGet then devtypeOf m
    else m.int (.sys .devtype)
  := by
  cases x.key.branch
  case devtype =>
    by_cases hget : x.cursor.cmdType = tGet
    · simp only [Branch.readMem, hget, if_true, true_and, Contents.int, Contents.setInt,
        Function.update_self, devtypeOf]
      by_cases hwidth : m (.int (.ubs .av0 0 .width)) = 1920
      · simp only [hwidth, if_true]
        rfl
      · simp only [hwidth, if_false]
        rfl
    · simp only [Branch.readMem, hget, if_false, and_false]
  case macaddr =>
    simp only [Branch.readMem, reduceCtorEq, false_and, if_false]
    split
    · apply storeHwaddr_eq
      intro i
      simp
    · rfl
  case snapshotStart =>
    simp only [Branch.readMem, reduceCtorEq, false_and, if_false]
    apply Contents.setInt_of_ne
    simp
  all_goals simp only [Branch.readMem, reduceCtorEq, false_and, if_false]

theorem Refreshed.ubs {f : UbsField} {a : AvFile} {sub : Nat} :
  ¬ Refreshed (.int (.ubs a sub f))
  := by simp [Refreshed]

/-- Which commands an item runs depends on the fields only that are not `Refreshed`. -/
theorem Item.switches_congr {m m' : Contents} (h : ∀ f, ¬ Refreshed f → m f = m' f) :
  x.switches m = x.switches m'
  := by
  have hwidth (a : AvFile) : m.int (.ubs a 0 .width) = m'.int (.ubs a 0 .width) :=
    h _ Refreshed.ubs
  unfold Item.switches
  cases x.key.branch
  case encResolution => simp only [Branch.readEffects, switchEffects, switchArg, hwidth]
  all_goals rfl

/-- An item of a query adds its commands to those run, and refreshes the type of the device if it
asks for it. -/
theorem Item.run_queried
    {u : List Effect × Prop} (hcmd : x.cursor.cmdType < 1) (hc : s.cursor = x.cursor)
    (hu : Queried d env s u) (h : x.run env s = .ok s') :
  Queried d env s' (u.1 ++ x.switches d.mem, u.2 ∨ x.RefreshesDevtype)
  := by
  have hcmdType : s.cmdType = x.cursor.cmdType := congrArg Cursor.cmdType hc
  have hreads := Branch.run_reads (ne_tSet (hcmdType ▸ hcmd)) h
  have hdevtype := @readMem_devtype env x x.value s.mem
  have hof : devtypeOf s.mem = devtypeOf d.mem := by
    have hwidth : s.mem.int (.ubs .av0 0 .width) = d.mem.int (.ubs .av0 0 .width) :=
      hu.mem _ Refreshed.ubs
    rw [devtypeOf, devtypeOf, hwidth]
  rw [← hcmdType, ← hreads.mem, hof] at hdevtype
  constructor
  · intro f hf
    rw [hreads.mem, readMem_of_not_refreshed hf]
    apply hu.mem f hf
  · intro hor
    rw [hdevtype]
    split
    · rfl
    · next hnot =>
        apply hu.devtype
        apply hor.resolve_right
        rintro ⟨hb, hget⟩
        apply hnot ⟨hb, hcmdType.trans hget⟩
  · intro hnot
    rw [hdevtype, if_neg]
    · apply hu.kept (fun h => hnot (Or.inl h))
    · rintro ⟨hb, hget⟩
      apply hnot (Or.inr ⟨hb, hcmdType.symm.trans hget⟩)
  · rw [hreads.effects, hu.effects, hcmdType]
    congr 1
    apply Item.switches_congr hu.mem
  · apply hreads.notes.trans hu.notes

/-- What the items of a request do as a query, one behind the other: the commands run, and whether
the type was refreshed. -/
def Device.queries (d : Device) (req : Request) : List Effect × Prop :=
  (d.items req).foldl (fun u x => (u.1 ++ x.switches d.mem, u.2 ∨ x.RefreshesDevtype)) ([], False)

theorem processPairs_queried
    (hreq : Query req) (h : processPairs env req (.start env d) = .ok t) :
  Queried d env t (d.queries req)
  := by
  apply processPairs_follows (R := Queried d env) _ h (start_at env d)
  · exact ⟨fun _ _ => rfl, False.elim, fun _ => rfl, rfl, rfl⟩
  · intro s u x s' hx hc hu hrun
    apply Item.run_queried (hreq.cursor hx) hc hu hrun

theorem queries_effects (req : Request) (d : Device) (e : Effect) :
  e ∈ (d.queries req).1 ↔ ∃ x ∈ d.items req, e ∈ x.switches d.mem
  := by
  have hfold (xs : List Item) (u : List Effect × Prop) :
      (xs.foldl (fun u x => (u.1 ++ x.switches d.mem, u.2 ∨ x.RefreshesDevtype)) u).1
        = u.1 ++ xs.flatMap (Item.switches d.mem) := by
    induction xs generalizing u with
    | nil => simp
    | cons x xs ih => rw [List.foldl_cons, ih, List.flatMap_cons, List.append_assoc]
  rw [Device.queries, hfold, List.nil_append, List.mem_flatMap]

theorem queries_refresh (req : Request) (d : Device) :
  (d.queries req).2 ↔ ∃ x ∈ d.items req, x.RefreshesDevtype
  := by
  have hfold (xs : List Item) (u : List Effect × Prop) :
      (xs.foldl (fun u x => (u.1 ++ x.switches d.mem, u.2 ∨ x.RefreshesDevtype)) u).2
        ↔ u.2 ∨ ∃ x ∈ xs, x.RefreshesDevtype := by
    induction xs generalizing u with
    | nil => simp
    | cons x xs ih => simp only [List.foldl_cons, ih, List.mem_cons, exists_eq_or_imp, or_assoc]
  rw [Device.queries, hfold, false_or]

/-! ### What follows the loop -/

/-- From `s` to `s'` answers are appended, and nothing else is done. -/
def Appends (s s' : Session) : Prop := s'.body = s.body ∧ ∃ rest, s'.pRet = s.pRet ++ rest

theorem presetReply_appends {index : Int} {rest : List Answer} :
  Yields (Appends s) (presetReply index rest s)
  := Yields.ite (fun _ => Yields.of_ok ⟨rfl, _, rfl⟩) fun _ => Yields.of_error

/-- Unless the type is `T_Set`, `dealPtzPreset` looks a preset up, and only appends answers. -/
theorem dealPtzPreset_appends (hcmd : s.cmdType ≠ tSet) : Yields (Appends s) (dealPtzPreset s) := by
  apply Yields.ite
  · intro _
    apply presetReply_appends
  · intro _
    apply Yields.ite
    · intro hset
      exact absurd hset hcmd
    · intro _
      apply Yields.ite
      · intro _
        apply presetReply_appends
      · intro _
        apply Yields.ite
        · intro _
          exact Yields.of_bind fun _ => presetReply_appends
        · intro _
          apply presetReply_appends

theorem finishPreset_appends (hcmd : s.cmdType ≠ tSet) (h : finishPreset s = .ok s') :
  s'.body = s.body ∧ ∃ rest, s'.pRet = s.pRet ++ rest ∧ (s.ptzPresetIn = 0 → rest = [])
  := by
  unfold finishPreset at h
  split at h
  · next hin =>
      obtain ⟨s₁, hs₁, rfl⟩ := map_ok.mp h
      obtain ⟨hbody, rest, hrest⟩ := dealPtzPreset_appends hcmd s₁ hs₁
      exact ⟨hbody, rest, hrest, fun hzero => absurd hzero hin⟩
  · obtain rfl := Except.ok.inj h
    exact ⟨rfl, [], (List.append_nil _).symm, fun _ => rfl⟩

/-- If no file is marked, `writeFiles` does nothing. -/
theorem writeFiles_of_unmarked (h : s.fileChangedFlag = 0) : writeFiles s = s := by
  unfold writeFiles
  induction fileArray with
  | nil => rfl
  | cons file files ih =>
      have hfile : writeFile s file = s := by
        rw [writeFile, h, isSetFileChanged_zero, if_neg Bool.false_ne_true]
      rw [List.foldl_cons, hfile, ih]

/-- If nothing has been noted, what follows the loop only appends answers, and none unless there was
a pair for a preset. -/
theorem finish_reads
    (hnotes : s.notes = (Session.start env d).notes) (hcmd : s.cmdType ≠ tSet)
    (h : finish env s = .ok s') :
  s'.mem = s.mem ∧ s'.effects = s.effects ∧
  ∃ rest, s'.pRet = s.pRet ++ rest ∧ (s.ptzPresetIn = 0 → rest = [])
  := by
  obtain ⟨s₁, hs₁, h⟩ := bind_ok.mp h
  obtain ⟨s₂, hs₂, h⟩ := bind_ok.mp h
  obtain rfl := Except.ok.inj h
  obtain ⟨hbody, hrest⟩ := finishPreset_appends hcmd hs₁
  simp only [Session.body, Prod.mk.injEq] at hbody
  obtain ⟨hmem, -, heffects, -, hnotes'⟩ := hbody
  have hnoted := hnotes'.trans hnotes
  simp only [Session.notes, Session.start, Prod.mk.injEq] at hnoted
  obtain ⟨hflag, hosd, hif, hntp, hreboot, hvx, hvy⟩ := hnoted
  have hnotify : notify env s₁ = s₁ := by
    simp [notify, hvx, hvy, hif, hntp, hflag]
  rw [hnotify, sendOsd, hosd, if_neg (fun hand => Bool.false_ne_true hand.1)] at hs₂
  obtain rfl := Except.ok.inj hs₂
  rw [writeFiles_of_unmarked hflag, finishReboot, if_neg (fun hne => hne hreboot)]
  exact ⟨hmem, heffects, hrest⟩

/-! ### Queries -/

/-- The effects that run a command with `system`, directly or in a function that is called. -/
def Effect.RunsShell : Effect → Prop
  | .system _ | .killThttpd | .genIfCfg | .startNtp => True
  | .call callee _ => callee = .setHttpport ∨ callee = .setProtocol
  | _ => False

/-- The effects that are updates of the encoder: calls of the setters of a stream. -/
def Effect.UpdatesEncoder : Effect → Prop
  | .call callee _ => callee ∈ [Callee.setFps, .setBps, .setIpInt]
  | _ => False

/-- A request leaves the configuration of `d`, but for the hardware address, and the rest of the
system alone. -/
structure Untouched (d : Device) (reply : Reply) : Prop where
  mem : ∀ f, f.file ≠ none → (∀ i, f ≠ .int (.macaddr i)) → reply.device.mem f = d.mem f
  write : ∀ file, .writeCfgFile file ∉ reply.effects
  shell : ∀ e ∈ reply.effects, ¬ e.RunsShell
  encoder : ∀ e ∈ reply.effects, ¬ e.UpdatesEncoder

/-- Behind a query the members are as before, but for those that are `Refreshed`, and the commands
run are those of its items. -/
theorem query_reply (hreq : Query req) (h : processMsg env req d = .ok reply) :
  (∀ f, ¬ Refreshed f → reply.device.mem f = d.mem f) ∧
  ((∃ x ∈ d.items req, x.RefreshesDevtype) →
    reply.device.mem.int (.sys .devtype) = devtypeOf d.mem) ∧
  ((¬ ∃ x ∈ d.items req, x.RefreshesDevtype) →
    reply.device.mem.int (.sys .devtype) = d.mem.int (.sys .devtype)) ∧
  (∀ e, e ∈ reply.effects ↔ ∃ x ∈ d.items req, e ∈ x.switches d.mem)
  := by
  obtain ⟨t, ht, h⟩ := bind_ok.mp h
  obtain ⟨s, hs, h⟩ := bind_ok.mp h
  obtain rfl := Except.ok.inj h
  have hqueried := processPairs_queried hreq ht
  obtain ⟨hmem, heffects, -⟩ := finish_reads hqueried.notes (ne_tSet (hreq.cmdType ht)) hs
  rw [← queries_refresh]
  simp only [Session.device, hmem, heffects, hqueried.effects, queries_effects, implies_true,
    and_true]
  exact ⟨hqueried.mem, hqueried.devtype, hqueried.kept⟩

/-- A query leaves the configuration and the system alone exactly when no resolution that is not
set is asked for, outside `T_Get`, and the device type that is asked for is up to date. -/
theorem query_untouched_iff (hreq : Query req) (h : processMsg env req d = .ok reply) :
  Untouched d reply ↔
    (∀ x ∈ d.items req, x.key.branch = .encResolution → x.cursor.cmdType ≠ tGet →
      switchArg d.mem x.value = none) ∧
    (∀ x ∈ d.items req, x.key.branch = .devtype → x.cursor.cmdType = tGet →
      d.mem.int (.sys .devtype) = devtypeOf d.mem)
  := by
  obtain ⟨hmem, hdevtype, hkept, heffects⟩ := query_reply hreq h
  constructor
  · intro huntouched
    constructor
    · intro x hx hb hget
      cases harg : switchArg d.mem x.value with
      | none => rfl
      | some arg =>
          exfalso
          have hswitch : .system ("/bin/sh /mnt/mtd/switch.sh ".toList ++ arg.toList)
              ∈ x.switches d.mem := by
            simp only [Item.switches, hb, Branch.readEffects, if_neg hget, switchEffects, harg,
              Option.map_some, Option.toList_some, List.mem_singleton]
          apply huntouched.shell _ ((heffects _).mpr ⟨x, hx, hswitch⟩) trivial
    · intro x hx hb hget
      rw [← hdevtype ⟨x, hx, hb, hget⟩]
      apply (huntouched.mem (.int (.sys .devtype)) _ _).symm
      · simp [Field.file, IntField.file]
      · simp
  · rintro ⟨hswitch, hrefresh⟩
    have hnone : ∀ e, e ∉ reply.effects := by
      intro e he
      obtain ⟨x, hx, hmem'⟩ := (heffects e).mp he
      revert hmem'
      unfold Item.switches
      have hx' := hswitch x hx
      cases hb : x.key.branch
      case encResolution =>
        simp only [Branch.readEffects]
        split
        · simp
        · next hget => simp [switchEffects, hx' hb hget]
      all_goals simp [Branch.readEffects]
    constructor
    · intro f hfile haddr
      by_cases hf : f = .int (.sys .devtype)
      · subst hf
        by_cases hex : ∃ x ∈ d.items req, x.RefreshesDevtype
        · obtain ⟨x, hx, hb, hget⟩ := hex
          apply (hdevtype ⟨x, hx, hb, hget⟩).trans (hrefresh x hx hb hget).symm
        · apply hkept hex
      · apply hmem
        rintro (⟨i, hi⟩ | hf' | hf')
        · apply haddr i hi
        · apply hf hf'
        · apply hfile
          rw [hf']
          rfl
    · exact fun file => hnone _
    · exact fun e he => absurd he (hnone e)
    · exact fun e he => absurd he (hnone e)

/-- A query for the brightness, by `T_Get`. -/
def brightnessQuery : Request := [("0".toList, "0".toList), ("38".toList, [])]

/-- The query `brightnessQuery` leaves everything alone: `Untouched`. -/
theorem query_untouched_brightness :
  ∃ reply, processMsg .idle brightnessQuery .blank = .ok reply ∧ Untouched .blank reply
  := by
  have hok : (processMsg .idle brightnessQuery .blank).toOption.isSome = true := by decide
  cases h : processMsg .idle brightnessQuery .blank with
  | error fault =>
      rw [h] at hok
      contradiction
  | ok reply =>
      use reply, rfl
      apply (query_untouched_iff (by decide) h).mpr
      decide

/-- A device whose main stream is 1920 pixels wide, in memory and in the file. -/
def Device.wide : Device :=
  ⟨Contents.blank.setInt (.ubs .av0 0 .width) 1920, Contents.blank.setInt (.ubs .av0 0 .width) 1920⟩

/-- A request with a resolution and without a type, which counts as a query. -/
def resolutionRequest : Request := [("184".toList, "1".toList)]
@[inherit_doc resolutionRequest]
def devtypeQuery : Request := [("0".toList, "0".toList), ("167".toList, [])]

/-- The request `resolutionRequest` switches the resolution, and a query for the type of the device
stores it. -/
theorem query_not_untouched :
  (∃ reply, Query resolutionRequest ∧ processMsg .idle resolutionRequest .blank = .ok reply ∧
    ¬ Untouched .blank reply) ∧
  (∃ reply, Query devtypeQuery ∧ processMsg .idle devtypeQuery .wide = .ok reply ∧
    ¬ Untouched .wide reply)
  := by
  have hquery : Query resolutionRequest := by decide
  have hquery' : Query devtypeQuery := by decide
  have hok : (processMsg .idle resolutionRequest .blank).toOption.isSome = true := by decide
  have hok' : (processMsg .idle devtypeQuery .wide).toOption.isSome = true := by decide
  have hswitch : ∃ x ∈ Device.blank.items resolutionRequest, Effect.system
      "/bin/sh /mnt/mtd/switch.sh 1 2".toList ∈ x.switches Device.blank.mem := by decide
  have hrefresh : ∃ x ∈ Device.wide.items devtypeQuery,
      x.key.branch = .devtype ∧ x.cursor.cmdType = tGet := by decide
  constructor
  · cases h : processMsg .idle resolutionRequest .blank with
    | error fault =>
        rw [h] at hok
        contradiction
    | ok reply =>
        refine ⟨reply, hquery, rfl, ?_⟩
        intro huntouched
        obtain ⟨-, -, -, heffects⟩ := query_reply hquery h
        apply huntouched.shell _ ((heffects _).mpr hswitch) trivial
  · cases h : processMsg .idle devtypeQuery .wide with
    | error fault =>
        rw [h] at hok'
        contradiction
    | ok reply =>
        refine ⟨reply, hquery', rfl, ?_⟩
        intro huntouched
        obtain ⟨-, hdevtype, -⟩ := query_reply hquery' h
        have hsame := huntouched.mem (.int (.sys .devtype)) (by simp [Field.file, IntField.file])
          (by simp)
        have hstored : Device.wide.mem.int (.sys .devtype) = devtypeOf Device.wide.mem :=
          hsame.symm.trans (hdevtype hrefresh)
        revert hstored
        decide

end Msg
