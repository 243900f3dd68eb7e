import Avserver.Infrad.Control
import Avserver.Library.Pairs
import Avserver.Msg.Encoder
import Mathlib.Data.List.Induction

/-!
# The reset button

A reset is due whenever the button has been found pressed three times in a row, the readings of a
request that has been sent not counted again.  The counter of `infrad_ctrl` follows the readings
(`run_resetStat`), and a message is sent when a reset is due (`round_sends_iff`).  But the message is
empty, since its last piece is printed over the others (`text_of_resetMsg`): `processMsg` finds no
pair in it, and no reset is requested, however long the button is pressed.
-/

namespace Infrad

open Library Library.Pairs
open Msg (Device Item text nul)

/-! ### Readings -/

/-- The number of readings of 0 at the end of the readings `rs`, up to the last one that is not
0. -/
def zeros (rs : List Int) : Nat := (rs.reverse.takeWhile (· = 0)).length

/-- A reset is due behind the readings `rs`: those of 0 at their end are three, or a multiple of
three. -/
def Due (rs : List Int) : Prop := 0 < zeros rs ∧ 3 ∣ zeros rs

instance (rs : List Int) : Decidable (Due rs) := inferInstanceAs (Decidable (_ ∧ _))

variable {rs : List Int}

theorem zeros_append (rs : List Int) (v : Int) :
  zeros (rs ++ [v]) = if v = 0 then zeros rs + 1 else 0
  := by
  rw [zeros, List.reverse_append, List.reverse_singleton, List.singleton_append,
    List.takeWhile_cons]
  split
  · next hv => rw [if_pos (of_decide_eq_true hv), List.length_cons, zeros]
  · next hv => rw [if_neg (by simpa using hv), List.length_nil]

/-- The readings `rs` end with as many zeros as `zeros rs` counts. -/
theorem exists_eq_append_zeros (rs : List Int) : ∃ pre, rs = pre ++ List.replicate (zeros rs) 0 := by
  induction rs using List.reverseRecOn with
  | nil => exact ⟨[], rfl⟩
  | append_singleton rs v ih =>
      obtain ⟨pre, hpre⟩ := ih
      rw [zeros_append]
      split
      · next hv =>
          use pre
          rw [List.replicate_succ', ← List.append_assoc, ← hpre, hv]
      · exact ⟨rs ++ [v], (List.append_nil _).symm⟩

/-- A reset is due somewhere among the readings `rs` exactly if three of them in a row are 0. -/
theorem exists_due_iff :
  (∃ pre v post, rs = pre ++ v :: post ∧ Due (pre ++ [v])) ↔ [0, 0, 0] <:+: rs
  := by
  constructor
  · rintro ⟨pre, v, post, rfl, hpos, k, hk⟩
    obtain ⟨front, hfront⟩ := exists_eq_append_zeros (pre ++ [v])
    obtain ⟨m, hm⟩ : ∃ m, zeros (pre ++ [v]) = m + 3 := ⟨3 * k - 3, by omega⟩
    rw [hm, List.replicate_add, ← List.append_assoc] at hfront
    use front ++ List.replicate m 0, post
    calc front ++ List.replicate m 0 ++ [0, 0, 0] ++ post
        _ = pre ++ [v] ++ post := by rw [hfront]; rfl
        _ = pre ++ v :: post := (List.append_cons pre v post).symm
  · rintro ⟨front, back, rfl⟩
    have h₁ : zeros (front ++ [0]) = zeros front + 1 := zeros_append front 0
    have h₂ : zeros (front ++ [0] ++ [0]) = zeros front + 1 + 1 := by rw [zeros_append, h₁]; rfl
    have h₃ : zeros (front ++ [0] ++ [0] ++ [0]) = zeros front + 1 + 1 + 1 := by
      rw [zeros_append, h₂]
      rfl
    obtain hzero | hone | htwo : zeros front % 3 = 0 ∨ zeros front % 3 = 1 ∨ zeros front % 3 = 2 := by
      omega
    · refine ⟨front ++ [0] ++ [0], 0, back, by simp, ?_⟩
      unfold Due
      omega
    · refine ⟨front ++ [0], 0, 0 :: back, by simp, ?_⟩
      unfold Due
      omega
    · refine ⟨front, 0, 0 :: 0 :: back, by simp, ?_⟩
      unfold Due
      omega

/-! ### The counter -/

variable {n n' t : System} {r : Reading} {evs : List Reading}

/-- The part of a round that deals with the lamp, `light`, sends nothing and leaves the counter
`resetStat` as it is. -/
theorem light_kept (r : Reading) (n : System) :
  (light r n).sent = n.sent ∧ (light r n).resetStat = n.resetStat
  := by
  rcases light_eq r n with heq | heq | heq
  all_goals
    rw [heq]
    exact ⟨rfl, rfl⟩

/-- The message that `resetMsg` makes is empty: its text is `#`, whatever was in the buffer
`cmd`. -/
theorem text_of_resetMsg {cmd msg : List Char} (h : resetMsg cmd = .ok msg) :
  text msg = .ok ['#']
  := by
  obtain ⟨cmd₁, -, h⟩ := bind_ok.mp h
  obtain ⟨cmd₂, -, h⟩ := bind_ok.mp h
  apply Msg.text_strcpy (by decide) h

/-- If `resetSys` comes to an end, it has sent one empty message if there was memory for one, and
none otherwise; nothing else changes. -/
theorem resetSys_ok {cmd : Option (List Char)} (h : resetSys cmd n = .ok n') :
  ∃ msgs, n' = { n with sent := n.sent ++ msgs } ∧ (∀ msg ∈ msgs, text msg = .ok ['#'])
    ∧ msgs.length = if cmd.isSome then 1 else 0
  := by
  cases cmd with
  | none =>
      obtain rfl := Except.ok.inj h
      exact ⟨[], by rw [List.append_nil], by simp, rfl⟩
  | some cmd =>
      obtain ⟨msg, hmsg, h⟩ := bind_ok.mp h
      obtain rfl := Except.ok.inj h
      refine ⟨[msg], rfl, ?_, rfl⟩
      rintro _ hmem
      obtain rfl := List.mem_singleton.mp hmem
      apply text_of_resetMsg hmsg

/-- The part of a round that deals with the button: a reading of 0 behind two others makes a
message, with which `resetStat` starts again at 0. -/
theorem button_ok (h : button r n = .ok n') :
  ∃ msgs, n'.sent = n.sent ++ msgs ∧ (∀ msg ∈ msgs, text msg = .ok ['#'])
    ∧ msgs.length = (if r.reset = 0 ∧ n.resetStat > 1 ∧ r.cmd.isSome then 1 else 0)
    ∧ n'.resetStat = if r.reset = 0 ∧ ¬ n.resetStat > 1 then n.resetStat + 1 else 0
  := by
  simp only [button] at h
  split at h
  · next hthird =>
      obtain ⟨n₁, hn₁, h⟩ := bind_ok.mp h
      obtain rfl := Except.ok.inj h
      obtain ⟨msgs, rfl, hmsgs, hlength⟩ := resetSys_ok hn₁
      obtain ⟨hzero, hlast⟩ : r.reset = 0 ∧ n.resetStat > 1 := by
        unfold counted at hthird
        split at hthird
        · exact ⟨by assumption, by omega⟩
        · omega
      refine ⟨msgs, rfl, hmsgs, ?_, ?_⟩
      · simp only [hlength, hzero, hlast, true_and]
      · rw [if_neg (fun hand => hand.2 hlast)]
  · next hthird =>
      obtain rfl := Except.ok.inj h
      have hnot (hzero : r.reset = 0) : ¬ n.resetStat > 1 := by
        rw [counted, if_pos hzero] at hthird
        omega
      refine ⟨[], (List.append_nil _).symm, by simp, ?_, ?_⟩
      · rw [if_neg (fun hand => hnot hand.1 hand.2.1), List.length_nil]
      · simp only [and_iff_left_of_imp hnot, counted]

/-- Along a run the counter `resetStat` follows the readings: it is the number of zeros at their
end, up to multiples of 3. -/
theorem run_resetStat
    (hn : n.resetStat = (zeros rs % 3 : Nat)) (hrun : Run round (fun _ _ => True) n evs t) :
  t.resetStat = (zeros (rs ++ evs.map Reading.reset) % 3 : Nat)
  := by
  induction hrun generalizing rs with
  | nil n => simpa using hn
  | @cons n n' t r evs _ hstep _ ih =>
      obtain ⟨-, -, -, -, hstat⟩ := button_ok (round_some hstep)
      rw [List.map_cons, List.append_cons]
      apply ih
      rw [hstat, (light_kept r n).2, hn, zeros_append]
      split
      · next hand =>
          rw [if_pos hand.1]
          omega
      · next hnot =>
          split
          · omega
          · rfl

/-- A round behind the start sends a message exactly if a reset is due behind its reading, provided
that there is memory for the message. -/
theorem round_sends_iff
    {d : Device} {lamp : Lamp} {isp : Int}
    (hrun : Run round (fun _ _ => True) (start d lamp isp) evs n)
    (hround : round n r = some n') (hcmd : r.cmd.isSome) :
  (∃ msg, n'.sent = n.sent ++ [msg]) ↔ Due (evs.map Reading.reset ++ [r.reset])
  := by
  have hstat : n.resetStat = (zeros (evs.map Reading.reset) % 3 : Nat) := by
    apply @run_resetStat [] _ _ _ rfl hrun
  obtain ⟨msgs, hsent, -, hlength, -⟩ := button_ok (round_some hround)
  obtain ⟨hkept, hlight⟩ := light_kept r n
  have hdue : Due (evs.map Reading.reset ++ [r.reset]) ↔ r.reset = 0 ∧ n.resetStat > 1 := by
    rw [Due, zeros_append, hstat]
    split
    · next hzero => simp only [hzero, true_and]; omega
    · next hne => simp [hne]
  have hone : (∃ msg, n'.sent = n.sent ++ [msg]) ↔ msgs.length = 1 := by
    rw [hsent, hkept, List.length_eq_one_iff]
    simp only [List.append_cancel_left_eq]
  rw [hone, hdue, hlength, hlight]
  simp [hcmd]

/-! ### Requests -/

/-- The round from `n` to `n'` sends a message in which `processMsg` finds the type `T_Set` and then
an item that restores the defaults. -/
def RequestsReset (parseVars : List Char → List Pair) (n n' : System) : Prop :=
  ∃ msg t, n'.sent = n.sent ++ [msg] ∧ text msg = .ok t
    ∧ ∃ d : Device, ∃ x ∈ d.items (parseVars t), x.Restores

/-- In the rounds with the readings `evs` from `n` on, a round requests a reset exactly when one is
due behind its reading. -/
def RequestsDue (parseVars : List Char → List Pair) (n : System) (evs : List Reading) : Prop :=
  ∀ pre r post u u', evs = pre ++ r :: post → Run round (fun _ _ => True) n pre u →
    round u r = some u' →
    (RequestsReset parseVars u u' ↔ Due (pre.map Reading.reset ++ [r.reset]))

/-- No round requests a reset: a message that is sent is empty, and `parseVars` finds no item in
it. -/
theorem not_requestsReset
    {parseVars : List Char → List Pair} (hparse : Reads parseVars) (h : round n r = some n') :
  ¬ RequestsReset parseVars n n'
  := by
  rintro ⟨msg, t, hsent, ht, d, x, hx, -⟩
  obtain ⟨msgs, hsent', hmsgs, -⟩ := button_ok (round_some h)
  have heq : [msg] = msgs := by
    apply List.append_cancel_left
    rw [← hsent, hsent', (light_kept r n).1]
  have htext := hmsgs msg (heq ▸ List.mem_singleton_self msg)
  obtain rfl := Except.ok.inj (ht.symm.trans htext)
  have hnil : parseVars ['#'] = [] := hparse [] (by simp)
  rw [hnil] at hx
  contradiction

/-- In a run with the reading `r` in the middle, there are the states `u` before its round and `u'`
behind it. -/
theorem exists_round
    {pre post : List Reading} (h : Run round (fun _ _ => True) n (pre ++ r :: post) t) :
  ∃ u u', Run round (fun _ _ => True) n pre u ∧ round u r = some u'
  := by
  induction pre generalizing n with
  | nil =>
      cases h with
      | cons _ hstep _ => exact ⟨_, _, Run.nil _, hstep⟩
  | cons r' pre ih =>
      cases h with
      | cons hC hstep h =>
          obtain ⟨u, u', hpre, hround⟩ := ih h
          exact ⟨u, u', Run.cons hC hstep hpre, hround⟩

/-- In a run of the rounds `evs` from the start, a reset is requested exactly when it is due if and
only if it never is due: no three readings in a row are 0. -/
theorem reset_requested_iff
    {parseVars : List Char → List Pair} (hparse : Reads parseVars) {d : Device} {lamp : Lamp}
    {isp : Int} (hrun : Run round (fun _ _ => True) (start d lamp isp) evs t) :
  RequestsDue parseVars (start d lamp isp) evs ↔ ¬ [0, 0, 0] <:+: evs.map Reading.reset
  := by
  rw [← exists_due_iff]
  constructor
  · rintro h ⟨pre, v, post, heq, hdue⟩
    obtain ⟨front, back, rfl, rfl, hback⟩ := List.map_eq_append_iff.mp heq
    obtain ⟨r, back, rfl, rfl, -⟩ := List.map_eq_cons_iff.mp hback
    obtain ⟨u, u', hfront, hround⟩ := exists_round hrun
    apply not_requestsReset hparse hround
    apply (h front r back u u' rfl hfront hround).mpr hdue
  · rintro h pre r post u u' rfl _ hround
    constructor
    · intro hreset
      apply absurd hreset (not_requestsReset hparse hround)
    · intro hdue
      apply absurd _ h
      refine ⟨pre.map Reading.reset, r.reset, post.map Reading.reset, ?_, hdue⟩
      rw [List.map_append, List.map_cons]

/-- A round in which the button is read as `reset`, there is memory for a message, and the status 1
decides about the lamp. -/
def reading (reset : Int) : Reading where
  status := 1
  adcValue := 0
  imgWtoC := 0
  imgCtoW := 0
  reset := reset
  cmd := some (List.replicate 64 nul)

/-- The button is pressed for two readings and then released: no reset is due, and none is
requested. -/
theorem reset_requested_iff_twice :
  RequestsDue parse (start .blank .off 0) [reading 0, reading 0, reading (-1)]
  := by
  obtain ⟨t, hrun, -⟩ := Run.exists_of_exec round (fun _ _ => True) (start .blank .off 0)
    (fun _ => true) [reading 0, reading 0, reading (-1)] (by decide +kernel)
  apply (reset_requested_iff parse_render hrun).mpr (by decide)

/-- The button is pressed for three readings: a reset is due, but the message that is sent requests
nothing. -/
theorem reset_not_requested :
  ¬ RequestsDue parse (start .blank .off 0) [reading 0, reading 0, reading 0]
  := by
  intro h
  obtain ⟨t, hrun, -⟩ := Run.exists_of_exec round (fun _ _ => True) (start .blank .off 0)
    (fun _ => true) [reading 0, reading 0, reading 0] (by decide +kernel)
  obtain ⟨u, u', hpre, hround⟩ := @exists_round _ _ _ [reading 0, reading 0] [] hrun
  apply not_requestsReset parse_render hround
  apply (h [reading 0, reading 0] (reading 0) [] u u' rfl hpre hround).mpr
  decide

end Infrad
