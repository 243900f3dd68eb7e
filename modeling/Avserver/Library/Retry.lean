import Mathlib.Data.List.Basic

/-!
# Loops that retry

A loop works through a table entry by entry.  Each round deals with the entry that it stands at
and asks the environment for an outcome; it moves on only if the outcome is a success, and deals
with the same entry again otherwise.  The loop ends if there are enough successes among the
outcomes, whatever their order (`ends_iff`), and it deals with each entry once only if there is no
failure before that (`ends_once_iff`).
-/

namespace Library.Retry

variable {β : Type*} {table : List β} {outcome : ℕ → Bool} {n : ℕ}

/-- The state of the loop: the index `i` at which it stands, and the entries `visited` that it has
dealt with, in order. -/
structure State (β : Type*) where
  i : ℕ
  visited : List β

/-- A round of the loop deals with the entry of `table` at the index and goes on if it is `ok`.  At
the end of the table it does nothing any more. -/
def round (table : List β) (ok : Bool) (s : State β) : State β :=
  match table[s.i]? with
  | some b => ⟨if ok then s.i + 1 else s.i, s.visited ++ [b]⟩
  | none => s

/-- The state after the first rounds, where `outcome k` says whether round `k` succeeds. -/
def rounds (table : List β) (outcome : ℕ → Bool) : ℕ → State β
  | 0 => ⟨0, []⟩
  | n + 1 => round table (outcome n) (rounds table outcome n)

/-- The index of `s` is behind the last entry of `table`. -/
def Ended (table : List β) (s : State β) : Prop := table[s.i]? = none

/-- The number of successes among the first `n` values of `outcome`. -/
def successes (outcome : ℕ → Bool) (n : ℕ) : ℕ := (List.range n).countP outcome

theorem successes_succ (outcome : ℕ → Bool) (n : ℕ) :
  successes outcome (n + 1) = successes outcome n + if outcome n then 1 else 0
  := by simp [successes, List.range_succ]

/-- There are `n` successes among the first `n` outcomes exactly when all of them are successes. -/
theorem successes_eq_iff : successes outcome n = n ↔ ∀ k < n, outcome k = true := by
  have h := List.countP_eq_length (p := outcome) (l := List.range n)
  rw [List.length_range] at h
  simpa [successes] using h

/-- What the first `n` rounds have done: the index of `s` counts the successes, and until the end of
`table` each round has dealt with an entry. -/
structure Counted (table : List β) (outcome : ℕ → Bool) (n : ℕ) (s : State β) : Prop where
  index : s.i = successes outcome s.visited.length
  le : s.i ≤ table.length
  rounds : s.i < table.length → s.visited.length = n

theorem rounds_counted (table : List β) (outcome : ℕ → Bool) (n : ℕ) :
  Counted table outcome n (rounds table outcome n)
  := by
  induction n with
  | zero => exact ⟨rfl, Nat.zero_le _, fun _ => rfl⟩
  | succ n ih =>
      rw [rounds, round]
      cases hentry : table[(rounds table outcome n).i]? with
      | none =>
          have hend := List.getElem?_eq_none_iff.mp hentry
          exact ⟨ih.index, ih.le, fun hlt => absurd hlt (Nat.not_lt.mpr hend)⟩
      | some b =>
          have hlt := (List.getElem?_eq_some_iff.mp hentry).1
          have hlen := ih.rounds hlt
          have hsucc := successes_succ outcome n
          have hindex := ih.index
          rw [hlen] at hindex
          have hlen' : ((rounds table outcome n).visited ++ [b]).length = n + 1 := by simp [hlen]
          constructor
          · dsimp only
            rw [hlen']
            split at hsucc
            · next hok =>
                rw [if_pos hok]
                omega
            · next hfail =>
                rw [if_neg hfail]
                omega
          · dsimp only
            split
            · omega
            · omega
          · exact fun _ => hlen'

theorem ended_iff : Ended table (rounds table outcome n) ↔
    (rounds table outcome n).i = table.length := by
  have hle := (rounds_counted table outcome n).le
  rw [Ended, List.getElem?_eq_none_iff]
  omega

/-- The loop comes to the end of `table` exactly if among some first outcomes there are as many
successes as entries. -/
theorem ends_iff :
  (∃ n, Ended table (rounds table outcome n)) ↔ ∃ n, successes outcome n = table.length
  := by
  constructor
  · rintro ⟨n, hend⟩
    have hindex := (rounds_counted table outcome n).index
    rw [ended_iff.mp hend] at hindex
    exact ⟨_, hindex.symm⟩
  · rintro ⟨n, hn⟩
    use n
    rw [ended_iff]
    have hcounted := rounds_counted table outcome n
    rcases Nat.lt_or_ge (rounds table outcome n).i table.length with hlt | hge
    · rw [hcounted.index, hcounted.rounds hlt, hn]
    · exact Nat.le_antisymm hcounted.le hge

/-- As long as every `outcome` is a success, the first `n` rounds deal with the first `n` entries of
`table`, one by one. -/
theorem rounds_of_successes (hn : n ≤ table.length) (h : ∀ k < n, outcome k = true) :
  rounds table outcome n = ⟨n, table.take n⟩
  := by
  induction n with
  | zero => rfl
  | succ n ih =>
      have hentry : table[n]? = some table[n] := List.getElem?_eq_getElem hn
      rw [rounds, ih (Nat.le_of_lt hn) fun k hk => h k (Nat.lt_succ_of_lt hk), round]
      dsimp only
      rw [hentry]
      simp only [h n (Nat.lt_succ_self n), if_true, List.take_append_getElem]

/-- The loop ends with each entry of `table` dealt with once, in order, exactly if the first
outcomes, one for each entry, are successes. -/
theorem ends_once_iff :
  (∃ n, Ended table (rounds table outcome n) ∧ (rounds table outcome n).visited = table)
    ↔ ∀ k < table.length, outcome k = true
  := by
  constructor
  · rintro ⟨n, hend, hvisited⟩
    have hindex := (rounds_counted table outcome n).index
    rw [ended_iff.mp hend, hvisited] at hindex
    exact successes_eq_iff.mp hindex.symm
  · intro h
    have hrounds := rounds_of_successes (Nat.le_refl table.length) h
    use table.length
    rw [ended_iff, hrounds]
    exact ⟨rfl, List.take_length⟩

end Library.Retry
