import Avserver.AviSave.Control
import Avserver.Msg.Decimal

/-!
# The record configuration on its way to the recorder

When the record configuration has changed, `rec_cfg_set` prints its three numbers into a message
and sends it to `Avi_Ctrl`, where `processMsg_avi` reads them.  The two share the numbers of the
keys and the form of the message.

The message fits its buffer, and behind it the flags of the recorder are the numbers that were
sent, the time of recording in seconds and within its limits, whatever the recorder threads do in
the meantime (`rec_protocol_round_trip`).
-/

namespace AviSave.Control

open Library Library.Pairs
open Msg (decimal atoi strcpy text Fault nul IsInt)

/-! ### The message -/

/-- The text that `rec_cfg_set` prints: the three numbers of the record configuration under their
keys. -/
def recCfgText (enable timeLen sch : Int) : List Char :=
  '$' :: decimal eAviEnable ++ '=' :: decimal enable
    ++ '&' :: decimal eAviTimeL ++ '=' :: decimal timeLen
    ++ '&' :: decimal eAviSchd ++ '=' :: decimal sch ++ ['#']

/-- The size of the buffer `cmd` of `rec_cfg_set`, which is sent as a whole. -/
def cmdSize : Nat := 128

/-- `rec_cfg_set`: what it sends is its whole buffer, which held `cmd` before the text was printed
into it. -/
def recCfgSet (cmd : List Char) (enable timeLen sch : Int) : Except Fault (List Char) :=
  strcpy cmd (recCfgText enable timeLen sch)

/-- The pairs of the message of `rec_cfg_set`, the keys with the numbers `enable`, `timeLen` and
`sch`. -/
def recCfgPairs (enable timeLen sch : Int) : List Pair :=
  [(decimal eAviEnable, decimal enable), (decimal eAviTimeL, decimal timeLen),
    (decimal eAviSchd, decimal sch)]

/-- The keys and values that `processMsg_avi` makes of the text `t` of a message, where `parseVars`
parses it. -/
def keysAndValues (parseVars : List Char → List Pair) (t : List Char) : List (Int × Int) :=
  (parseVars t).map fun p => (atoi p.1, atoi p.2)

variable {enable timeLen sch : Int}

theorem recCfgText_eq : recCfgText enable timeLen sch = render (recCfgPairs enable timeLen sch) := by
  simp [recCfgText, recCfgPairs, render, piece]

theorem plainPair_decimal (v w : Int) : PlainPair (decimal v, decimal w) :=
  ⟨Msg.decimal_plain v, Msg.decimal_plain w⟩

/-- The message with numbers that an `int` can hold fits the buffer `cmd`, with the `'\0'` at its
end. -/
theorem length_recCfgText_lt (he : IsInt enable) (ht : IsInt timeLen) (hs : IsInt sch) :
  (recCfgText enable timeLen sch).length < cmdSize
  := by
  have henable := Msg.length_decimal_le he
  have htime := Msg.length_decimal_le ht
  have hsch := Msg.length_decimal_le hs
  have hkey₁ := Msg.length_decimal_le (v := eAviEnable) (by decide)
  have hkey₂ := Msg.length_decimal_le (v := eAviTimeL) (by decide)
  have hkey₃ := Msg.length_decimal_le (v := eAviSchd) (by decide)
  simp only [recCfgText, List.cons_append, List.length_cons, List.length_append, List.length_nil,
    cmdSize]
  omega

/-- There is no `'\0'` in the message, so the string ends behind it. -/
theorem nul_notMem_recCfgText : nul ∉ recCfgText enable timeLen sch := by
  have hnul : nul ∈ separators := by decide
  have hdecimal (v : Int) : nul ∉ decimal v := fun hmem => Msg.decimal_plain v nul hmem hnul
  have hne (c : Char) (hc : c ∈ ['$', '=', '&', '#']) : nul ≠ c := by
    rintro rfl
    apply absurd hc (by decide)
  simp only [recCfgText, List.mem_append, List.mem_cons, List.cons_append, hdecimal, not_or,
    hne '$' (by decide), hne '=' (by decide), hne '&' (by decide), hne '#' (by decide),
    List.not_mem_nil, not_false_eq_true, and_self]

/-- A parser that reads plain messages, `Reads`, finds the three numbers in the message, under their
keys. -/
theorem keysAndValues_recCfgText
    {parseVars : List Char → List Pair} (hparse : Reads parseVars)
    (he : IsInt enable) (ht : IsInt timeLen) (hs : IsInt sch) :
  keysAndValues parseVars (recCfgText enable timeLen sch)
    = [(eAviEnable, enable), (eAviTimeL, timeLen), (eAviSchd, sch)]
  := by
  have hpairs : parseVars (recCfgText enable timeLen sch) = recCfgPairs enable timeLen sch := by
    rw [recCfgText_eq]
    apply hparse
    intro p hp
    simp only [recCfgPairs, List.mem_cons, List.not_mem_nil, or_false] at hp
    rcases hp with rfl | rfl | rfl
    all_goals apply plainPair_decimal
  have hkey (v : Int) (hv : IsInt v) := Msg.atoi_decimal hv
  simp [keysAndValues, hpairs, recCfgPairs, Msg.atoi_decimal he, Msg.atoi_decimal ht,
    Msg.atoi_decimal hs, hkey eAviEnable (by decide), hkey eAviTimeL (by decide),
    hkey eAviSchd (by decide)]

/-! ### The flags -/

/-- The flags that the handler writes and the recorder only reads: `g_rec_enable`, `g_rec_TimeL` and
`g_rec_schdule`. -/
structure Flags where
  enable : Int
  timeL : Int
  schdule : Nat
deriving DecidableEq

/-- The flags as they are among the static variables `g`. -/
def flags (g : Shared) : Flags := ⟨g.gRecEnable, g.gRecTimeL, g.gRecSchdule⟩

/-- The flags `fl` after a pair `p` of a message, its key and its value. -/
def storePair (fl : Flags) (p : Int × Int) : Flags :=
  if p.1 = eAviEnable then { fl with enable := p.2 }
  else if p.1 = eAviTimeL then { fl with timeL := recTimeL p.2 }
  else if p.1 = eAviSchd then { fl with schdule := (p.2 % 2 ^ 32).toNat }
  else fl

/-- The pairs of the message that the handler has not handled yet, wherever it is. -/
def rest : Handler → List (Int × Int)
  | .pairs ps => ps
  | .test ps => ps
  | .create ps => ps

/-- The flags as they will be in `n` when the rest of the message has been handled. -/
def settled (n : State) : Flags := (rest n.handler).foldl storePair (flags n.shared)

/-- The bits of `g_rec_schdule` as an `int`, which is how the configuration has them. -/
def asInt (n : Nat) : Int := (BitVec.ofNat 32 n).toInt

theorem asInt_bits {v : Int} (hv : IsInt v) :
  asInt (v % 2 ^ 32).toNat = v
  := by
  unfold IsInt at hv
  rw [asInt, BitVec.toInt_eq_toNat_bmod, BitVec.toNat_ofNat, Int.bmod_def]
  omega

/-- After `processPair` has handled one pair, the flags will be as if it were stored first, and then
the pairs `ps`. -/
theorem processPair_settled (iKey iValue : Int) (ps : List (Int × Int)) (n : State) :
  settled (processPair iKey iValue ps n) = ps.foldl storePair (storePair (flags n.shared) (iKey, iValue))
  := by
  have hkeys : eAviEnable = 1024 ∧ eAviTimeL = 1025 ∧ eAviSchd = 1026 ∧ eAviEnd = 1027 :=
    ⟨rfl, rfl, rfl, rfl⟩
  unfold processPair storePair
  split
  · rw [if_neg (by omega), if_neg (by omega), if_neg (by omega)]
    rfl
  · split
    · rfl
    · split
      · rfl
      · split
        · rfl
        · rfl

section

variable {r r' : Recorder} {mv : Move}

/-- A step that a recorder thread makes itself leaves the three flags alone. -/
theorem step_schedule (h : AviSave.step r mv = some r') (hmv : ofThread mv = true) :
  r'.gRecEnable = r.gRecEnable ∧ r'.gRecTimeL = r.gRecTimeL ∧ r'.gRecSchdule = r.gRecSchdule
  := by
  cases AviSave.stepped_of_step h with
  | @body ret data now unlock hpc =>
      have hglobals := (loopBody_globals ret data now unlock r).2
      simp only [globals, Prod.mk.injEq] at hglobals
      apply hglobals.2
  | aviStop | aviEnable | aviTimeL | aviSchd => contradiction
  | _ => exact ⟨rfl, rfl, rfl⟩

/-- A step of a recorder thread leaves the three flags among the shared variables `g` alone. -/
theorem threadStep_flags
    {g g' : Shared} {t t' : SaveThread} (h : threadStep g t mv = some (g', t')) :
  flags g' = flags g
  := by
  unfold threadStep at h
  split at h
  · next hmv =>
      split at h
      · next r hstep =>
          split at h
          · obtain ⟨rfl, -⟩ := Prod.mk.inj (Option.some.inj h)
            rfl
          · obtain ⟨rfl, -⟩ := Prod.mk.inj (Option.some.inj h)
            obtain ⟨henable, htime, hschd⟩ := step_schedule hstep hmv
            simp only [flags, Shared.store, henable, htime, hschd, Shared.load]
      · contradiction
  · contradiction

end

section

variable {n n' : State} {ev : Event}

/-- A step other than the arrival of a message leaves the `settled` flags as they are. -/
theorem step_settled (hmessage : ∀ pairs, ev ≠ .message pairs) (hstep : step n ev = some n') :
  settled n' = settled n
  := by
  cases stepped_of_step hstep with
  | message => apply absurd rfl (hmessage _)
  | pair hhandler =>
      rw [processPair_settled, settled, hhandler]
      rfl
  | toCreate hhandler | passOver hhandler | create hhandler =>
      simp only [settled, hhandler, rest]
  | thread hi hthread => simp only [settled, threadStep_flags hthread]
  | leave | aviStop => rfl

/-- A run without the arrival of a message leaves the `settled` flags as they are. -/
theorem run_settled
    {evs : List Event} (hmessage : ∀ ev ∈ evs, ∀ pairs, ev ≠ .message pairs)
    (hrun : Run step (fun _ _ => True) n evs n') :
  settled n' = settled n
  := by
  induction hrun with
  | nil => rfl
  | @cons s s' t i is _ hstep _ ih =>
      rw [ih (fun ev hev => hmessage ev (List.mem_cons_of_mem i hev))]
      apply step_settled (hmessage i List.mem_cons_self) hstep

/-- After `processPair` the handler goes on with the pairs `ps`, or first tests what it has
enabled. -/
theorem processPair_handler (iKey iValue : Int) (ps : List (Int × Int)) (n : State) :
  (processPair iKey iValue ps n).handler = .pairs ps
    ∨ (processPair iKey iValue ps n).handler = .test ps
  := by
  unfold processPair
  split
  · exact Or.inl rfl
  · split
    · exact Or.inr rfl
    · split
      · exact Or.inl rfl
      · split
        · exact Or.inl rfl
        · exact Or.inl rfl

/-- The event is a step of the handler on the message that it has, and not of a thread. -/
def ofHandler : Event → Prop
  | .pair | .enableTest | .create _ => True
  | _ => False

/-- From the test of what it has enabled the handler gets, by its own steps, to the next pair. -/
theorem exists_run_test {ps : List (Int × Int)} (h : n.handler = .test ps) :
  ∃ evs n', (∀ ev ∈ evs, ofHandler ev) ∧ Run step (fun _ _ => True) n evs n'
    ∧ n'.handler = .pairs ps
  := by
  by_cases hcreate : n.shared.gRecEnable ≠ 0 ∧ n.shared.gRecStatus = 0
  · have htest : step n .enableTest = some { n with handler := .create ps } := by
      simp only [step, h, if_pos hcreate]
    refine ⟨[.enableTest, .create true], _, ?_, Run.cons trivial htest
      (Run.cons trivial rfl (Run.nil _)), rfl⟩
    simp [ofHandler]
  · have htest : step n .enableTest = some { n with handler := .pairs ps } := by
      simp only [step, h, if_neg hcreate]
    refine ⟨[.enableTest], _, ?_, Run.cons trivial htest (Run.nil _), rfl⟩
    simp [ofHandler]

/-- By its own steps the handler comes to the end of the message, whatever pairs `ps` are left of
it. -/
theorem exists_run_pairs {ps : List (Int × Int)} (h : n.handler = .pairs ps) :
  ∃ evs n', (∀ ev ∈ evs, ofHandler ev) ∧ Run step (fun _ _ => True) n evs n'
    ∧ n'.handler = .pairs []
  := by
  induction ps generalizing n with
  | nil => exact ⟨[], n, by simp, Run.nil n, h⟩
  | cons p ps ih =>
      have hpair : step n .pair = some (processPair p.1 p.2 ps n) := by
        simp only [step, h]
      obtain ⟨evs, n₁, hevs, hrun, hn₁⟩ : ∃ evs n₁, (∀ ev ∈ evs, ofHandler ev)
          ∧ Run step (fun _ _ => True) (processPair p.1 p.2 ps n) evs n₁
          ∧ n₁.handler = .pairs ps := by
        rcases processPair_handler p.1 p.2 ps n with hgoOn | htest
        · exact ⟨[], _, by simp, Run.nil _, hgoOn⟩
        · apply exists_run_test htest
      obtain ⟨evs', n₂, hevs', hrun', hn₂⟩ := ih hn₁
      refine ⟨.pair :: (evs ++ evs'), n₂, ?_, Run.cons trivial hpair (hrun.append hrun'), hn₂⟩
      intro ev hev
      rcases List.mem_cons.mp hev with rfl | hev
      · trivial
      · rcases List.mem_append.mp hev with hev | hev
        · apply hevs ev hev
        · apply hevs' ev hev

end

/-! ### The round trip -/

/-- The time of recording is `iValue` minutes, within the limits `minRecTimeLen` and
`maxRecTimeLen`, in seconds. -/
theorem recTimeL_eq (iValue : Int) :
  recTimeL iValue = 60 * max minRecTimeLen (min iValue maxRecTimeLen)
  := by
  unfold recTimeL minRecTimeLen maxRecTimeLen
  split
  · omega
  · split
    · omega
    · omega

/-- What `rec_cfg_set` sends fits its buffer.  Once `processMsg_avi` has handled it, in any run with
the recorder threads, the flags are the numbers that were sent, the time of recording in seconds and
within its limits; and the handler does come to an end. -/
theorem rec_protocol_round_trip
    {parseVars : List Char → List Pair} (hparse : Reads parseVars) {cmd : List Char}
    (hcmd : cmd.length = cmdSize) {enable timeLen sch : Int}
    (he : IsInt enable) (ht : IsInt timeLen) (hs : IsInt sch) :
  ∃ sent t, recCfgSet cmd enable timeLen sch = .ok sent ∧ text sent = .ok t ∧
    ∀ n : State, n.handler = .pairs [] →
      (∀ evs n', (∀ ev ∈ evs, ∀ pairs, ev ≠ .message pairs) →
        Run step (fun _ _ => True) n (.message (keysAndValues parseVars t) :: evs) n' →
        n'.handler = .pairs [] →
          n'.shared.gRecEnable = enable ∧ asInt n'.shared.gRecSchdule = sch
            ∧ n'.shared.gRecTimeL = 60 * max minRecTimeLen (min timeLen maxRecTimeLen))
      ∧ ∃ evs n', (∀ ev ∈ evs, ofHandler ev)
          ∧ Run step (fun _ _ => True) n (.message (keysAndValues parseVars t) :: evs) n'
          ∧ n'.handler = .pairs []
  := by
  have hfits : (recCfgText enable timeLen sch).length < cmd.length :=
    hcmd ▸ length_recCfgText_lt he ht hs
  have hsent : recCfgSet cmd enable timeLen sch = .ok (recCfgText enable timeLen sch
      ++ nul :: cmd.drop ((recCfgText enable timeLen sch).length + 1)) := if_pos hfits
  refine ⟨_, _, hsent, Msg.text_strcpy nul_notMem_recCfgText hsent, ?_⟩
  intro n hidle
  have harrive : step n (.message (keysAndValues parseVars (recCfgText enable timeLen sch)))
      = some { n with
          handler := .pairs [(eAviEnable, enable), (eAviTimeL, timeLen), (eAviSchd, sch)] } := by
    simp only [step, hidle, keysAndValues_recCfgText hparse he ht hs]
  constructor
  · intro evs n' hmessage hrun hdone
    cases hrun with
    | cons _ hstep hrun =>
        obtain rfl := Option.some.inj (hstep.symm.trans harrive)
        have hsettled := run_settled hmessage hrun
        rw [settled, hdone] at hsettled
        have hflags : flags n'.shared = ⟨enable, recTimeL timeLen, (sch % 2 ^ 32).toNat⟩ := hsettled
        obtain ⟨henable, htime, hschd⟩ := Flags.mk.inj hflags
        rw [henable, hschd, htime, asInt_bits hs, recTimeL_eq]
        exact ⟨rfl, rfl, rfl⟩
  · obtain ⟨evs, n', hevs, hrun, hdone⟩ := exists_run_pairs
      (n := { n with
        handler := .pairs [(eAviEnable, enable), (eAviTimeL, timeLen), (eAviSchd, sch)] }) rfl
    exact ⟨evs, n', hevs, Run.cons trivial harrive hrun, hdone⟩

/-- The round trip of a negative number in the schedule and of a time beyond its limit, with the
parser `parse`. -/
theorem rec_protocol_round_trip_parse :
  ∃ sent t, recCfgSet (List.replicate 128 'x') 1 7 (-1) = .ok sent ∧ text sent = .ok t ∧
    ∃ evs n', Run step (fun _ _ => True) initState (.message (keysAndValues parse t) :: evs) n'
      ∧ n'.shared.gRecEnable = 1 ∧ asInt n'.shared.gRecSchdule = -1 ∧ n'.shared.gRecTimeL = 300
  := by
  obtain ⟨sent, t, hsent, ht, hhandled⟩ :=
    @rec_protocol_round_trip parse parse_render (List.replicate 128 'x') List.length_replicate
      1 7 (-1) (by decide) (by decide) (by decide)
  obtain ⟨hflags, evs, n', hevs, hrun, hdone⟩ := hhandled initState rfl
  use sent, t, hsent, ht, evs, n', hrun
  apply hflags evs n' _ hrun hdone
  rintro ev hev pairs rfl
  apply hevs _ hev

end AviSave.Control
