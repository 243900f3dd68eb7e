import Avserver.Library.Retry
import Avserver.Msg.Branch

/-!
# The loop of `do_reset`

`do_reset` goes through `reset_table`: it sets a file back and reads it.  If the file cannot be
read the loop goes on with `continue`, which leaves the index as it is, so that the same file is
set back and read again, for as long as reading fails.  The loop ends with each file set back
once exactly if no read fails (`reset_once_iff`).  When reading depends on the file alone, a
failure is a loop that never ends, and that is what `doReset` says of it (`doReset_ends_iff`).
-/

namespace Msg

open Library

/-- The calls that `do_reset` makes for a file: its defaults are set, and it is read back. -/
inductive ResetCall where
  | defaultSetting (file : CfgFile)
  | readCfgFile (file : CfgFile)
deriving DecidableEq

/-- The index `i` of `do_reset` in its table, and the calls made so far. -/
structure ResetState where
  i : Nat
  calls : List ResetCall

/-- A round of the loop in `do_reset`; `readOk` is whether `read_cfg_file` returns
`READ_CFG_FILE_OK`.  At the end of `reset_table` there are no more rounds. -/
def resetRound (readOk : Bool) (s : ResetState) : ResetState :=
  match resetTable[s.i]? with
  | none => s
  | some file =>
      let calls := s.calls ++ [.defaultSetting file, .readCfgFile file]
      -- `continue` goes past `i++`
      if readOk then ⟨s.i + 1, calls⟩ else ⟨s.i, calls⟩

/-- The state after the first rounds of `do_reset`, for the outcomes of `read_cfg_file` in the order
of its calls. -/
def resetRounds (outcome : Nat → Bool) : Nat → ResetState
  | 0 => ⟨0, []⟩
  | n + 1 => resetRound (outcome n) (resetRounds outcome n)

/-- `do_reset` has returned: its index is behind the end of the table. -/
def ResetState.Returned (s : ResetState) : Prop := resetTable[s.i]? = none

/-- The two calls for the entry `file` of `reset_table`: its defaults are set, and it is read
back. -/
def resetCalls (file : CfgFile) : List ResetCall := [.defaultSetting file, .readCfgFile file]

/-- The file that a call sets back to its defaults, if it does. -/
def ResetCall.setBack : ResetCall → Option CfgFile
  | .defaultSetting file => some file
  | .readCfgFile _ => none

variable {outcome : Nat → Bool} {env : Env} {s : Session} {n : Nat}

/-- Of the calls for all `files`, those that set back tell the files, in order. -/
theorem setBack_resetCalls (files : List CfgFile) :
  (files.flatMap resetCalls).filterMap ResetCall.setBack = files
  := by
  induction files with
  | nil => rfl
  | cons file files ih =>
      rw [List.flatMap_cons, List.filterMap_append, ih]
      rfl

/-- The loop of `do_reset` is one that retries: its rounds are those of the library, each with the
two calls. -/
theorem resetRounds_eq (outcome : Nat → Bool) (n : Nat) :
  resetRounds outcome n
    = ⟨(Retry.rounds resetTable outcome n).i,
        (Retry.rounds resetTable outcome n).visited.flatMap resetCalls⟩
  := by
  induction n with
  | zero => rfl
  | succ n ih =>
      rw [resetRounds, ih, Retry.rounds, resetRound, Retry.round]
      dsimp only
      cases hentry : resetTable[(Retry.rounds resetTable outcome n).i]? with
      | none => rfl
      | some file =>
          dsimp only
          rw [List.flatMap_append, List.flatMap_singleton]
          split
          · rfl
          · rfl

theorem returned_iff :
  (resetRounds outcome n).Returned ↔ Retry.Ended resetTable (Retry.rounds resetTable outcome n)
  := by rw [ResetState.Returned, Retry.Ended, resetRounds_eq]

/-- For every sequence of outcomes of `read_cfg_file`: `do_reset` returns, having made the calls
for each entry of `reset_table` once and in order, exactly if it reads every file at the first
attempt. -/
theorem reset_once_iff (outcome : Nat → Bool) :
  (∃ n, (resetRounds outcome n).Returned
      ∧ (resetRounds outcome n).calls = resetTable.flatMap resetCalls)
    ↔ ∀ k < resetTable.length, outcome k = true
  := by
  rw [← Retry.ends_once_iff]
  apply exists_congr
  intro n
  rw [returned_iff]
  apply and_congr_right
  intro _
  rw [resetRounds_eq]
  constructor
  · intro hcalls
    have hfiles := congrArg (List.filterMap ResetCall.setBack) hcalls
    rwa [setBack_resetCalls, setBack_resetCalls] at hfiles
  · intro hvisited
    rw [hvisited]

/-- `do_reset` returns exactly if among some first outcomes `read_cfg_file` succeeds as often as
there are entries. -/
theorem reset_returns_iff (outcome : Nat → Bool) :
  (∃ n, (resetRounds outcome n).Returned) ↔ ∃ n, Retry.successes outcome n = resetTable.length
  := by
  rw [← Retry.ends_iff]
  exact exists_congr fun _ => returned_iff

/-- If a file can never be read, `do_reset` does not return with each entry dealt with once. -/
theorem reset_not_once :
  ¬ ∀ outcome : Nat → Bool, ∃ n, (resetRounds outcome n).Returned
      ∧ (resetRounds outcome n).calls = resetTable.flatMap resetCalls
  := by
  intro h
  obtain ⟨n, hreturned, -⟩ := h fun _ => false
  obtain ⟨m, hm⟩ := (reset_returns_iff _).mp ⟨n, hreturned⟩
  rw [Retry.successes, List.countP_false] at hm
  contradiction

/-! ### Files that can be read, and files that cannot -/

/-- The outcomes are those of the calls of `env`, for the files as the loop gets to them. -/
def OutcomesOf (env : Env) (outcome : Nat → Bool) : Prop :=
  ∀ n file, resetTable[(resetRounds outcome n).i]? = some file →
    outcome n = env.readCfgFile file

/-- The resets of the `files` succeed, one after the other, exactly when all of them can be read. -/
theorem resetFiles_ok_iff {files : List CfgFile} (s : Session) :
  (∃ s', files.foldlM (resetFile env) s = .ok s') ↔ ∀ file ∈ files, env.readCfgFile file = true
  := by
  induction files generalizing s with
  | nil => exact iff_of_true ⟨s, rfl⟩ (by simp)
  | cons file files ih =>
      rw [List.forall_mem_cons, List.foldlM_cons, resetFile]
      cases hread : env.readCfgFile file with
      | false => simp [bind, Except.bind]
      | true =>
          simp only [if_true, true_and]
          apply ih

/-- While the file at the place `m`, which cannot be read, is ahead, the loop does not get past
it. -/
theorem index_le_of_unreadable
    (h : OutcomesOf env outcome) {m : Nat} {file : CfgFile} (hm : resetTable[m]? = some file)
    (hread : env.readCfgFile file = false) (n : Nat) :
  (resetRounds outcome n).i ≤ m
  := by
  induction n with
  | zero => exact Nat.zero_le m
  | succ n ih =>
      rw [resetRounds, resetRound]
      split
      · exact ih
      · next file' hfile' =>
          dsimp only
          split
          · next hok =>
              have hne : (resetRounds outcome n).i ≠ m := by
                intro heq
                rw [heq, hm] at hfile'
                obtain rfl := Option.some.inj hfile'
                have hout := h n file (heq ▸ hm)
                rw [hok, hread] at hout
                contradiction
              dsimp only
              omega
          · exact ih

/-- When the outcomes are those of the environment, `do_reset` returns exactly if `doReset` has a
result; in the other case the request is never answered. -/
theorem doReset_ends_iff (h : OutcomesOf env outcome) (s : Session) :
  (∃ s', doReset env s = .ok s') ↔ ∃ n, (resetRounds outcome n).Returned
  := by
  rw [doReset, resetFiles_ok_iff]
  constructor
  · intro hread
    have houtcome (k : Nat) (hk : k < resetTable.length) : outcome k = true := by
      induction k using Nat.strongRecOn with
      | _ k ih =>
          have hrounds := Retry.rounds_of_successes (Nat.le_of_lt hk)
            fun j hj => ih j hj (Nat.lt_trans hj hk)
          have hentry : resetTable[k]? = some resetTable[k] := List.getElem?_eq_getElem hk
          rw [h k resetTable[k] (by rw [resetRounds_eq, hrounds]; exact hentry)]
          apply hread _ (List.getElem_mem hk)
    obtain ⟨n, hreturned, -⟩ := Retry.ends_once_iff.mpr houtcome
    exact ⟨n, returned_iff.mpr hreturned⟩
  · rintro ⟨n, hreturned⟩ file hmem
    obtain ⟨m, hm⟩ := List.mem_iff_getElem?.mp hmem
    apply Bool.of_not_eq_false
    intro hread
    have hle := index_le_of_unreadable h hm hread n
    have hlt := (List.getElem?_eq_some_iff.mp hm).1
    have hend := List.getElem?_eq_none_iff.mp hreturned
    omega

end Msg
