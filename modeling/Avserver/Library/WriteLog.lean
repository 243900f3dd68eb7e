import Mathlib.Data.List.DropRight
import Mathlib.Logic.Function.Basic

/-!
# Logs of writes

A log is a list of entries, each of which writes a value to a location, or sets all locations
back, or does neither.  What a location holds behind a log is the value that was written to it
last, if one was behind the last reset; else it is what the locations were set back to, or what
the location has held from the start (`replay_eq`).
-/

namespace Library

variable {φ α : Type*}

/-- An entry of a log: the location `f` is set to `v`, all locations are set back, or something else
is done. -/
inductive LogEntry (φ α : Type*) where
  | set (f : φ) (v : α)
  | reset
  | other

/-- The entry sets all locations back to what they held at first, as `reset` does. -/
def LogEntry.isReset : LogEntry φ α → Bool
  | .reset => true
  | _ => false

variable {m₀ m : φ → α} {f : φ} {log : List (LogEntry φ α)} {e : LogEntry φ α}

/-- What the locations hold behind the last reset of the `log`: `m₀` if there was one, and otherwise
what they held at the start, `m`. -/
def logBase (m₀ m : φ → α) (log : List (LogEntry φ α)) : φ → α :=
  if log.any LogEntry.isReset then m₀ else m

theorem logBase_concat :
  logBase m₀ m (log ++ [e]) = if e.isReset then m₀ else logBase m₀ m log
  := by
  simp only [logBase, List.any_append, List.any_cons, List.any_nil, Bool.or_false, Bool.or_eq_true]
  cases e.isReset
  · simp
  · simp

variable [DecidableEq φ]

/-- The value that the entry writes to the location `f`, if it writes to it. -/
def LogEntry.value (f : φ) : LogEntry φ α → Option α
  | .set g v => if g = f then some v else none
  | _ => none

/-- The locations `m` after an entry, which may set them all back to `m₀`. -/
def LogEntry.apply (m₀ m : φ → α) : LogEntry φ α → φ → α
  | .set f v => Function.update m f v
  | .reset => m₀
  | .other => m

/-- The locations after the entries of the `log`, where they are `m` before it and a reset sets them
back to `m₀`. -/
def replay (m₀ m : φ → α) (log : List (LogEntry φ α)) : φ → α := log.foldl (LogEntry.apply m₀) m

/-- The value that was written last to the location `f` behind the last reset of the `log`, if one
was. -/
def lastSet (f : φ) (log : List (LogEntry φ α)) : Option α :=
  ((log.rtakeWhile fun e => !e.isReset).filterMap (LogEntry.value f)).getLast?

/-- Behind an entry `e` that resets, nothing has been written to the location `f` yet. -/
theorem lastSet_reset (h : e.isReset = true) : lastSet f (log ++ [e]) = none := by
  simp [lastSet, h]

/-- Behind an entry `e` that does not reset, the last value of `f` is the one that `e` writes, or
else the one before. -/
theorem lastSet_concat (h : e.isReset = false) :
  lastSet f (log ++ [e]) = (e.value f).or (lastSet f log)
  := by
  simp only [lastSet, List.rtakeWhile_concat, h, Bool.not_false, if_true, List.filterMap_append,
    List.getLast?_append]
  cases hvalue : e.value f with
  | none => simp [hvalue]
  | some v => simp [hvalue]

/-- Behind a `log` the location `f` holds what was written to it last, or else what `logBase` says
it has held from the last reset on. -/
theorem replay_eq (m₀ m : φ → α) (log : List (LogEntry φ α)) (f : φ) :
  replay m₀ m log f = (lastSet f log).getD (logBase m₀ m log f)
  := by
  induction log using List.reverseRecOn with
  | nil => rfl
  | append_singleton log e ih =>
      rw [replay, List.foldl_append, List.foldl_cons, List.foldl_nil, ← replay, logBase_concat]
      cases e with
      | reset =>
          rw [lastSet_reset rfl]
          rfl
      | other =>
          rw [lastSet_concat rfl]
          apply ih
      | set g v =>
          rw [lastSet_concat rfl]
          by_cases hg : g = f
          · subst hg
            simp [LogEntry.apply, LogEntry.value]
          · simp only [LogEntry.apply, LogEntry.value, if_neg hg, Option.none_or,
              Function.update_of_ne (Ne.symm hg)]
            apply ih

/-- If `v` was written last to the location `f`, then some entry of the `log` writes it there. -/
theorem exists_of_lastSet {v : α} (h : lastSet f log = some v) : ∃ e ∈ log, e.value f = some v := by
  obtain ⟨e, hmem, hvalue⟩ := List.mem_filterMap.mp (List.mem_of_getLast? h)
  use e, (List.rtakeWhile_suffix _ log).subset hmem

end Library
