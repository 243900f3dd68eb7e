import Avserver.Msg.ReadOnly

/-!
# The labels of the answers

A request that is a query from its first pair on is answered key by key: each pair adds at most
one answer, and the keys of the answers are those of the pairs answered, in order, exactly when
none of the keys is asked for whose branch answers under the key of another (`mislabelled`).
What is answered about a preset comes behind these answers.
-/

namespace Msg

open Library

variable {env : Env} {s s' t : Session} {key : Key} {value : List Char} {req : Request}

/-! ### The keys that are answered -/

/-- The keys of the pairs that are answered, when the pairs of a request are handled in a
session. -/
def answeredKeys (env : Env) : Request → Session → List Key
  | [], _ => []
  | pair :: req, s =>
      match Key.ofCode (atoi pair.1) with
      | none => answeredKeys env req s
      | some key =>
          match key.branch.run env key pair.2 s with
          | .ok s' =>
              (if s'.pRet.length = s.pRet.length then [] else [key]) ++ answeredKeys env req s'
          | .error _ => []

/-- The keys that are answered under the key of another one. -/
def mislabelled : List Key := [.mdAreaS, .mdAreaW, .mdAreaH, .recTime, .sys_Model]

/-- A `key` is answered under itself exactly if it is not among the `mislabelled` ones. -/
theorem Key.label_eq_iff (key : Key) : key.branch.label key = key ↔ key ∉ mislabelled := by
  cases key
  all_goals decide

/-- A `key` that is answered under another one is always answered, for `T_Get`. -/
theorem mislabelled_answered
    (hkey : key ∈ mislabelled) (hget : s.cmdType = tGet)
    (h : key.branch.run env key value s = .ok s') :
  s'.pRet.length ≠ s.pRet.length
  := by
  have hcmd : s.cmdType ≠ tSet := by
    rw [hget]
    decide
  have hreply {l : Key} {t : List Char} (h : s.reply l t = .ok s') :
      s'.pRet.length ≠ s.pRet.length := by
    unfold Session.reply Session.answer at h
    split at h
    · obtain rfl := Except.ok.inj h
      simp
    · contradiction
  have hint {ref shown : IntRef} {flag : CfgFile} {callees : List Callee} {hook : Hook} {l : Key}
      (h : intBranch ref flag callees hook l shown value s = .ok s') :
      s'.pRet.length ≠ s.pRet.length := by
    unfold intBranch Session.onCmd at h
    rw [if_neg hcmd, if_pos hget] at h
    obtain ⟨f, -, h⟩ := bind_ok.mp h
    apply hreply h
  simp only [mislabelled, List.mem_cons, List.not_mem_nil, or_false] at hkey
  obtain rfl | rfl | rfl | rfl | rfl := hkey
  · apply hint h
  · apply hint h
  · apply hint h
  · change recBranch .sch .recLen value s = .ok s' at h
    rw [recBranch, if_neg hcmd] at h
    apply hreply h
  · change getBranch .sysModel (text (s.mem.str .model)) s = .ok s' at h
    rw [getBranch, if_pos hget] at h
    obtain ⟨t, -, h⟩ := bind_ok.mp h
    apply hreply h

/-! ### The loop -/

/-- The request `req` has no pair for the type, which would overwrite the answers before it. -/
def Untyped (req : Request) : Prop := ∀ pair ∈ req, Key.ofCode (atoi pair.1) ≠ some .type

/-- No pair of the request `req` is for a key that is answered under another one. -/
def Labelled (req : Request) : Prop :=
  ∀ pair ∈ req, ∀ key ∈ mislabelled, Key.ofCode (atoi pair.1) ≠ some key

/-- The answers to the pairs carry the keys that are answered exactly when the request is
`Labelled`. -/
theorem processPairs_labels
    (hreq : Untyped req) (hget : s.cmdType = tGet) (h : processPairs env req s = .ok t) :
  ∃ as, t.pRet = s.pRet ++ as ∧ (as.map Answer.key = answeredKeys env req s ↔ Labelled req)
  := by
  induction req generalizing s with
  | nil =>
      obtain rfl := foldlM_nil_ok.mp h
      refine ⟨[], (List.append_nil _).symm, iff_of_true rfl ?_⟩
      intro pair hpair
      cases hpair
  | cons pair req ih =>
      have hrest : Untyped req := fun pair' hmem => hreq pair' (.tail _ hmem)
      cases hkey : Key.ofCode (atoi pair.1) with
      | none =>
          obtain ⟨as, has, hiff⟩ := ih hrest hget (processPairs_cons_none hkey h)
          refine ⟨as, has, ?_⟩
          simp only [answeredKeys, hkey, hiff, Labelled, List.forall_mem_cons, reduceCtorEq, ne_eq,
            not_false_eq_true, implies_true, true_and]
      | some key =>
          obtain ⟨s₁, hrun, h⟩ := processPairs_cons_some (c := s.cursor) hkey h
          change key.branch.run env key pair.2 s = .ok s₁ at hrun
          have htype : key ≠ .type := by
            rintro rfl
            apply hreq pair (.head _) hkey
          have hcursor := Branch.run_cursor key.marksItsFile hrun
          have hget' : s₁.cmdType = tGet := by
            rw [← hget]
            apply (congrArg Cursor.cmdType hcursor).trans (key.select_cmd htype pair.2).1
          obtain ⟨as, has, hiff⟩ := ih hrest hget' h
          have hcmd : s.cmdType ≠ tSet := by
            rw [hget]
            decide
          have hb : key.branch ≠ .type := by
            intro hb
            apply htype
            revert hb
            cases key
            all_goals decide
          have hlabelled : Labelled (pair :: req) ↔ key ∉ mislabelled ∧ Labelled req := by
            simp only [Labelled, List.forall_mem_cons, hkey, ne_eq, Option.some.injEq]
            apply and_congr_left'
            exact ⟨fun h hmem => h key hmem rfl, fun h key' hmem heq => h (heq ▸ hmem)⟩
          obtain hret | ⟨text, hret⟩ := (Branch.run_reads hcmd hrun).answers hb
          · refine ⟨as, by rw [has, hret], ?_⟩
            have hkey' : key ∉ mislabelled := by
              intro hmem
              apply mislabelled_answered hmem hget hrun
              rw [hret]
            simp only [answeredKeys, hkey, hrun, hret, if_true, List.nil_append, hiff, hlabelled,
              hkey', not_false_eq_true, true_and]
          · refine ⟨⟨key.branch.label key, text⟩ :: as, ?_, ?_⟩
            · rw [has, hret, List.append_assoc]
              rfl
            · have hlength : (s.pRet ++ [Answer.mk (key.branch.label key) text]).length
                  ≠ s.pRet.length := by simp
              simp only [answeredKeys, hkey, hrun, hret, if_neg hlength, List.map_cons,
                List.singleton_append, List.cons.injEq, hiff, hlabelled, Key.label_eq_iff]

/-! ### The request -/

/-- No pair of the request `req` is for a preset, by its number or by its name. -/
def Unpreset (req : Request) : Prop :=
  ∀ pair ∈ req, Key.ofCode (atoi pair.1) ≠ some .ptzPreset ∧
    Key.ofCode (atoi pair.1) ≠ some .ptzPresetname

/-- A `key` whose pairs have a preset dealt with is one of the two for presets. -/
theorem Key.branch_preset (key : Key) :
  (key.branch = .preset → key = .ptzPreset) ∧ (key.branch = .presetname → key = .ptzPresetname)
  := by
  cases key
  case ptzPreset => exact ⟨fun _ => rfl, nofun⟩
  case ptzPresetname => exact ⟨nofun, fun _ => rfl⟩
  all_goals exact ⟨nofun, nofun⟩

/-- If no pair of a query is for a preset, none is dealt with behind the loop. -/
theorem processPairs_unpreset
    {d : Device} (hquery : Query req) (hreq : Unpreset req)
    (h : processPairs env req (.start env d) = .ok t) :
  t.ptzPresetIn = 0
  := by
  apply processPairs_invariant (I := fun t => t.ptzPresetIn = 0) _ h (start_at env d) rfl
  intro s x s' hx hc hs hrun
  obtain ⟨pair, hmem, hkey, -⟩ := exists_mem_of_mem_items hx
  have hcmd : s.cmdType ≠ tSet := by
    rw [show s.cmdType = x.cursor.cmdType from congrArg Cursor.cmdType hc]
    apply ne_tSet (hquery.cursor hx)
  rw [(Branch.run_reads hcmd hrun).ptzPresetIn, hs]
  constructor
  · intro hb
    apply (hreq pair hmem).1
    rw [hkey, x.key.branch_preset.1 hb]
  · intro hb
    apply (hreq pair hmem).2
    rw [hkey, x.key.branch_preset.2 hb]

/-- The answers to the pairs of a request that is of type `T_Get` from its first pair on carry
the keys that are answered, in order, exactly when none is asked for that is answered under
another.  Only what is answered about a preset comes behind them. -/
theorem processMsg_labels_iff
    {d : Device} {reply : Reply} {k v : List Char} (hkey : Key.ofCode (atoi k) = some .type)
    (hget : atoi v = tGet) (hreq : Untyped req)
    (h : processMsg env ((k, v) :: req) d = .ok reply) :
  ∃ t after, processPairs env ((k, v) :: req) (.start env d) = .ok t ∧
    reply.rbuf = response (t.pRet ++ after) ∧
    (Unpreset req → after = []) ∧
    (t.pRet.map Answer.key = answeredKeys env ((k, v) :: req) (.start env d) ↔ Labelled req)
  := by
  obtain ⟨t, ht, h⟩ := bind_ok.mp h
  obtain ⟨s, hs, h⟩ := bind_ok.mp h
  obtain rfl := Except.ok.inj h
  have hquery : Query ((k, v) :: req) := by
    rintro pair (_ | ⟨_, hmem⟩) htype
    · rw [hget]
      decide
    · exact absurd htype (hreq pair hmem)
  have hqueried := processPairs_queried hquery ht
  obtain ⟨-, -, after, hafter, hzero⟩ := finish_reads hqueried.notes
    (ne_tSet (hquery.cmdType ht)) hs
  refine ⟨t, after, ht, by rw [hafter], ?_, ?_⟩
  · intro hunpreset
    apply hzero
    apply processPairs_unpreset hquery _ ht
    rintro pair (_ | ⟨_, hmem⟩)
    · rw [hkey]
      decide
    · apply hunpreset pair hmem
  · let s₁ : Session :=
      { Session.start env d with cmdType := tGet, pRet := [⟨.type, decimal tGet⟩] }
    have htype : Key.branch .type = .type := rfl
    have hrun : Branch.type.run env .type v (.start env d) = .ok s₁ := by
      simp only [Branch.run, typeBranch, hget]
      rfl
    obtain ⟨s₂, hrun', ht'⟩ := processPairs_cons_some (c := (Session.start env d).cursor) hkey ht
    change Branch.type.run env .type v (.start env d) = .ok s₂ at hrun'
    obtain rfl := Except.ok.inj (hrun.symm.trans hrun')
    obtain ⟨as, has, hiff⟩ := processPairs_labels hreq rfl ht'
    rw [has, ← hiff]
    simp only [answeredKeys, hkey, htype, hrun]
    simp [s₁, Session.start]

/-- A query for the brightness is answered under its own key. -/
theorem processMsg_labels_brightness :
  ∃ reply t, processMsg .idle brightnessQuery .blank = .ok reply ∧
    processPairs .idle brightnessQuery (.start .idle .blank) = .ok t ∧
    reply.rbuf = response t.pRet ∧
    t.pRet.map Answer.key = answeredKeys .idle brightnessQuery (.start .idle .blank)
  := by
  have hok : (processMsg .idle brightnessQuery .blank).toOption.isSome = true := by decide
  cases h : processMsg .idle brightnessQuery .blank with
  | error fault =>
      rw [h] at hok
      contradiction
  | ok reply =>
      obtain ⟨t, after, ht, hrbuf, hafter, hiff⟩ :=
        processMsg_labels_iff (by decide) (by decide) (by unfold Untyped; decide) h
      refine ⟨reply, t, rfl, ht, ?_, hiff.mpr (by unfold Labelled; decide)⟩
      rw [hrbuf, hafter (by unfold Unpreset; decide), List.append_nil]

/-- A query for the length of the recordings, by the key `e_rec_time`, which is mislabelled. -/
def recTimeQuery : Request := [("0".toList, "0".toList), ("218".toList, [])]

/-- In the reply to `recTimeQuery`, the length that is asked for by one key is answered under
another. -/
theorem processMsg_mislabels :
  ∃ reply, processMsg .idle recTimeQuery .blank = .ok reply ∧
    reply.rbuf = response [⟨.type, decimal 0⟩, ⟨.recLen, decimal 0⟩] ∧
    answeredKeys .idle recTimeQuery (.start .idle .blank) = [.type, .recTime]
  := by
  have hkeys : answeredKeys .idle recTimeQuery (.start .idle .blank) = [.type, .recTime] := by
    decide +kernel
  have hok : (processMsg .idle recTimeQuery .blank).map Reply.rbuf =
      .ok (response [⟨.type, decimal 0⟩, ⟨.recLen, decimal 0⟩]) := by decide +kernel
  obtain ⟨reply, hreply, hrbuf⟩ := map_ok.mp hok
  exact ⟨reply, hreply, hrbuf, hkeys⟩

end Msg
