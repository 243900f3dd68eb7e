import Avserver.Rtspd.Rounds

/-!
# The flag for the events

An event is handed to the encoder thread in two stores, the event of the stream and the flag
`rtspd_set_event`; the encoder thread tests the flag, looks at the events of the streams one by one,
and clears the flag when it finds none.  `Mailbox` is the events and the flag with the places that
the two threads have reached, and `mailboxStep` lets one of them make its next access.

An event stored for a stream that the encoder thread has looked at already is lost when its flag is
stored before the flag is cleared; and only then (`no_event_lost`, `clear_loses_iff`).
-/

namespace Rtspd

open Library

/-! ### The two threads -/

/-- The places of the encoder thread: before the test of the flag, in `bs_check_event` with what it
has found and the streams that it has still to look at, and in the rest of `bs_new_event`, which
handles the events. -/
inductive EncPoint where
  | idle
  | scan (ret : Bool) (rest : List (ChNum × SubNum))
  | handle
deriving DecidableEq

/-- The places of the other thread: outside of `env_set_bs_new_event`, and between its stores of the
event and of the flag. -/
inductive EnvPoint where
  | idle | flag
deriving DecidableEq

/-- The events, the flag and the two threads.  Whether an event has been stored `late`, behind the
stream that the scan in progress has come to, serves the statements only. -/
structure Mailbox where
  event : ChNum → SubNum → BsEvent
  rtspdSetEvent : Bool
  enc : EncPoint
  env : EnvPoint
  late : Bool

namespace Mailbox

/-- The encoder thread has looked at the stream `p` in its scan, or passed over it. -/
def passed (m : Mailbox) (p : ChNum × SubNum) : Bool :=
  match m.enc with
  | .scan _ rest => p ∉ rest
  | _ => false

/-- The events and `rtspd_set_event` before the first access: none, and the flag is clear. -/
def new : Mailbox where
  event _ _ := .none
  rtspdSetEvent := false
  enc := .idle
  env := .idle
  late := false

end Mailbox

/-- Which access is made by one of the threads, to an event or to `rtspd_set_event`. -/
inductive MailboxInput where
  /-- `b->event = event` of an event that is accepted -/
  | store (c : ChNum) (i : SubNum) (e : BsEvent)
  /-- `rtspd_set_event = 1` -/
  | setFlag
  /-- the test of `rtspd_set_event` -/
  | test
  /-- the next stream of `bs_check_event` -/
  | read
  /-- `rtspd_set_event = 0` -/
  | clear
  /-- the events that have been found are handled from here on -/
  | enter
  /-- some events are cleared -/
  | handle (f : ChNum → SubNum → Bool)
  /-- `bs_new_event` returns -/
  | leave

/-- An access of a thread, if it is at the place for it; `none`, if it is not. -/
def mailboxStep (m : Mailbox) : MailboxInput → Option Mailbox
  | .store c i e =>
      if m.env = .idle ∧ e ≠ .none then
        some { m with
          event := Function.update m.event c (Function.update (m.event c) i e)
          env := .flag
          late := m.late || m.passed (c, i) }
      else none
  | .setFlag => if m.env = .flag then some { m with rtspdSetEvent := true, env := .idle } else none
  | .test =>
      if m.enc = .idle then
        some { m with
          enc := if m.rtspdSetEvent then .scan false streams else .idle
          late := false }
      else none
  | .read =>
      match m.enc with
      | .scan ret ((c, i) :: rest) =>
          -- an event ends the loop over the streams of the channel only
          if m.event c i ≠ .none then
            some { m with enc := .scan true (rest.dropWhile fun p => p.1 = c) }
          else some { m with enc := .scan ret rest }
      | _ => none
  | .clear =>
      if m.enc = .scan false [] then some { m with rtspdSetEvent := false, enc := .idle } else none
  | .enter => if m.enc = .scan true [] then some { m with enc := .handle } else none
  | .handle f =>
      if m.enc = .handle then
        some { m with event := fun c i => if f c i then .none else m.event c i }
      else none
  | .leave => if m.enc = .handle then some { m with enc := .idle } else none

/-! ### No event is lost -/

variable {m m' : Mailbox} {input : MailboxInput}

/-- An event that a scan has passed without finding one was stored late, and what has been stored
late is still there while the scan of `m` goes on. -/
structure Scanned (m : Mailbox) : Prop where
  found : ∀ rest, m.enc = .scan false rest → ∀ c i, (c, i) ∉ rest → m.event c i ≠ .none →
    m.late = true
  stored : ∀ ret rest, m.enc = .scan ret rest → m.late = true → ∃ c i, m.event c i ≠ .none

/-- An event that has been handed over by a call that is completed is flagged by
`rtspd_set_event`. -/
def Flagged (m : Mailbox) : Prop :=
  m.env = .idle → ∀ c i, m.event c i ≠ .none → m.rtspdSetEvent = true

/-- The access does not clear the flag when an event has been stored `late` and no call is in
progress. -/
def ClearsInTime (m : Mailbox) (input : MailboxInput) : Prop :=
  input = .clear → m.late = false ∨ m.env = .flag

/-- What the events are after the event `e` of the stream `i` of `c` has been stored. -/
theorem event_store (m : Mailbox) (c d : ChNum) (i j : SubNum) (e : BsEvent) :
  Function.update m.event c (Function.update (m.event c) i e) d j =
    if (d, j) = (c, i) then e else m.event d j
  := by
  by_cases hd : d = c
  · subst hd
    rw [Function.update_self]
    by_cases hj : j = i
    · subst hj
      rw [Function.update_self, if_pos rfl]
    · rw [Function.update_of_ne hj, if_neg]
      rintro ⟨⟩
      apply hj rfl
  · rw [Function.update_of_ne hd, if_neg]
    rintro ⟨⟩
    apply hd rfl

/-- An access that leads to `m'` is made only where its guard `p` holds. -/
theorem of_guard
    {p : Prop} [Decidable p] {x : Mailbox} (h : (if p then some x else none) = some m') :
  p ∧ x = m'
  := by
  split at h
  · next hp => exact ⟨hp, Option.some.inj h⟩
  · contradiction

/-- Outside of a scan, what is known about a scan holds of `m` for want of one. -/
theorem Scanned.of_not_scan (h : ∀ ret rest, m.enc ≠ .scan ret rest) : Scanned m where
  found _ hscan := absurd hscan (h _ _)
  stored _ _ hscan := absurd hscan (h _ _)

/-- Every access keeps what is known about the scan of `m`, in time or not. -/
theorem Scanned.step (h : Scanned m) (hstep : mailboxStep m input = some m') : Scanned m' := by
  cases input with
  | store c i e =>
      obtain ⟨hstore, rfl⟩ := of_guard hstep
      constructor
      · intro rest hscan d j hmem hevent
        have henc : m.enc = .scan false rest := hscan
        dsimp only at hevent ⊢
        rw [event_store] at hevent
        rw [Bool.or_eq_true]
        split at hevent
        · next hp =>
            right
            rw [Mailbox.passed, henc, ← hp]
            apply decide_eq_true hmem
        · left
          apply h.found rest henc d j hmem hevent
      · intro ret rest _ _
        use c, i
        dsimp only
        rw [event_store, if_pos rfl]
        apply hstore.2
  | setFlag =>
      obtain ⟨-, rfl⟩ := of_guard hstep
      exact ⟨h.found, h.stored⟩
  | test =>
      obtain ⟨-, rfl⟩ := of_guard hstep
      constructor
      · intro rest hscan c i hmem
        dsimp only at hscan
        split at hscan
        · cases hscan
          exact absurd (mem_streams (c, i)) hmem
        · contradiction
      · intro ret rest _ hlate
        contradiction
  | read =>
      rw [mailboxStep] at hstep
      split at hstep
      · next ret c i rest henc =>
          split at hstep
          · next hevent =>
              obtain rfl := Option.some.inj hstep
              constructor
              · intro rest' hscan
                cases hscan
              · exact fun _ _ _ _ => ⟨c, i, hevent⟩
          · next hnone =>
              obtain rfl := Option.some.inj hstep
              constructor
              · intro rest' hscan d j hmem hevent
                cases hscan
                apply h.found _ henc d j _ hevent
                rw [List.mem_cons, not_or]
                refine ⟨?_, hmem⟩
                rintro ⟨⟩
                apply hnone hevent
              · exact fun _ _ _ hlate => h.stored _ _ henc hlate
      · contradiction
  | clear =>
      obtain ⟨-, rfl⟩ := of_guard hstep
      exact of_not_scan nofun
  | enter =>
      obtain ⟨-, rfl⟩ := of_guard hstep
      exact of_not_scan nofun
  | handle f =>
      obtain ⟨henc, rfl⟩ := of_guard hstep
      apply of_not_scan
      simp [henc]
  | leave =>
      obtain ⟨-, rfl⟩ := of_guard hstep
      exact of_not_scan nofun

/-- Every access that clears no flag too late keeps the events of `m` flagged. -/
theorem Flagged.step
    (h : Flagged m) (hscanned : Scanned m) (htime : ClearsInTime m input)
    (hstep : mailboxStep m input = some m') :
  Flagged m'
  := by
  cases input with
  | store c i e =>
      obtain ⟨-, rfl⟩ := of_guard hstep
      intro hidle
      contradiction
  | setFlag =>
      obtain ⟨-, rfl⟩ := of_guard hstep
      exact fun _ _ _ _ => rfl
  | test =>
      obtain ⟨-, rfl⟩ := of_guard hstep
      apply h
  | read =>
      rw [mailboxStep] at hstep
      split at hstep
      · split at hstep
        · obtain rfl := Option.some.inj hstep
          apply h
        · obtain rfl := Option.some.inj hstep
          apply h
      · contradiction
  | clear =>
      obtain ⟨henc, rfl⟩ := of_guard hstep
      intro hidle c i hevent
      -- the scan has found nothing, so what is there was stored late
      have hlate := hscanned.found [] henc c i List.not_mem_nil hevent
      obtain hnot | hflag := htime rfl
      · rw [hlate] at hnot
        contradiction
      · have henv : m.env = .idle := hidle
        rw [henv] at hflag
        contradiction
  | enter =>
      obtain ⟨-, rfl⟩ := of_guard hstep
      apply h
  | handle f =>
      obtain ⟨-, rfl⟩ := of_guard hstep
      intro hidle c i hevent
      apply h hidle c i
      dsimp only at hevent
      split at hevent
      · exact absurd rfl hevent
      · apply hevent
  | leave =>
      obtain ⟨-, rfl⟩ := of_guard hstep
      apply h

theorem Scanned.new : Scanned Mailbox.new := of_not_scan nofun

/-- When the flag is never cleared behind an event that has been stored late and handed over, every
event that is pending while no call of `env_set_bs_new_event` is in progress is flagged. -/
theorem no_event_lost
    {inputs : List MailboxInput} {c : ChNum} {i : SubNum}
    (hrun : Run mailboxStep ClearsInTime Mailbox.new inputs m)
    (henv : m.env = .idle) (hevent : m.event c i ≠ .none) :
  m.rtspdSetEvent = true
  := by
  have hkept : Scanned m ∧ Flagged m := by
    apply hrun.invariant (I := fun m => Scanned m ∧ Flagged m)
    · exact fun _ _ _ hm htime hstep => ⟨hm.1.step hstep, hm.2.step hm.1 htime hstep⟩
    · exact ⟨Scanned.new, fun _ _ _ hnone => absurd rfl hnone⟩
  apply hkept.2 henv c i hevent

/-- In every run from `Mailbox.new`, clearing the flag loses an event exactly when one has been
stored `late` and no call is in progress. -/
theorem clear_loses_iff
    {C : Mailbox → MailboxInput → Prop} {inputs : List MailboxInput}
    (hrun : Run mailboxStep C Mailbox.new inputs m) (hclear : mailboxStep m .clear = some m') :
  ((m'.enc = .idle ∧ m'.env = .idle) ∧ m'.rtspdSetEvent = false ∧ ∃ c i, m'.event c i ≠ .none) ↔
    m.late = true ∧ m.env = .idle
  := by
  have hscanned : Scanned m :=
    hrun.invariant (fun _ _ _ hm _ hstep => hm.step hstep) Scanned.new
  obtain ⟨henc, rfl⟩ := of_guard hclear
  constructor
  · rintro ⟨⟨-, henv⟩, -, c, i, hevent⟩
    exact ⟨hscanned.found [] henc c i List.not_mem_nil hevent, henv⟩
  · rintro ⟨hlate, henv⟩
    exact ⟨⟨rfl, henv⟩, rfl, hscanned.stored _ _ henc hlate⟩

instance (m : Mailbox) : (input : MailboxInput) → Decidable (ClearsInTime m input)
  | .clear =>
      decidable_of_iff (m.late = false ∨ m.env = .flag) ⟨fun h _ => h, fun h => h rfl⟩
  | .store _ _ _ => isTrue nofun
  | .setFlag => isTrue nofun
  | .test => isTrue nofun
  | .read => isTrue nofun
  | .enter => isTrue nofun
  | .handle _ => isTrue nofun
  | .leave => isTrue nofun

/-- Accesses by which an event of the first stream is set and handled, and the flag is tested again,
so that a scan begins. -/
def firstEvent : List MailboxInput :=
  [.store 0 0 .start, .setFlag, .test] ++ List.replicate 10 .read ++
    [.enter, .handle fun _ _ => true, .leave, .test]

/-- Accesses behind `firstEvent` by which the scan is completed and the flag is cleared, and then
another event is set. -/
def laterEvent : List MailboxInput :=
  List.replicate 18 .read ++ [.clear, .store 1 2 .start, .setFlag]

/-- Accesses behind `firstEvent` by which the event of the first stream is set again when the scan
has looked at it, and the flag is cleared. -/
def lateEvent : List MailboxInput :=
  [.read, .store 0 0 .stop, .setFlag] ++ List.replicate 17 .read ++ [.clear]

/-- The general `no_event_lost` at an event that is set after the flag has been cleared, and is
flagged. -/
theorem no_event_lost_new :
  ∃ m, Run mailboxStep ClearsInTime Mailbox.new (firstEvent ++ laterEvent) m ∧
    m.event 1 2 ≠ .none ∧ m.rtspdSetEvent = true
  := by
  obtain ⟨m, hrun, hm⟩ := Run.exists_of_exec mailboxStep ClearsInTime Mailbox.new
    (fun m => decide (m.env = .idle ∧ m.event 1 2 ≠ .none)) (firstEvent ++ laterEvent)
    (by decide +kernel)
  obtain ⟨henv, hevent⟩ := of_decide_eq_true hm
  exact ⟨m, hrun, hevent, no_event_lost hrun henv hevent⟩

/-- An event is set for a stream that the scan has passed: `rtspd_set_event` is cleared behind it,
and nobody looks for the event. -/
theorem event_lost :
  ∃ m, Run mailboxStep (fun _ _ => True) Mailbox.new (firstEvent ++ lateEvent) m ∧
    (m.enc = .idle ∧ m.env = .idle) ∧ m.event 0 0 ≠ .none ∧ m.rtspdSetEvent = false
  := by
  obtain ⟨m, hrun, hm⟩ := Run.exists_of_exec mailboxStep (fun _ _ => True) Mailbox.new
    (fun m => decide ((m.enc = .idle ∧ m.env = .idle) ∧ m.event 0 0 ≠ .none ∧
      m.rtspdSetEvent = false)) (firstEvent ++ lateEvent) (by decide +kernel)
  exact ⟨m, hrun, of_decide_eq_true hm⟩

/-! ### The rounds of the server -/

/-- The events and the flag of the server `s` between the calls, when no thread is at work on
them. -/
def Server.mailbox (s : Server) : Mailbox where
  event c i := (s.bs c i).event
  rtspdSetEvent := s.rtspdSetEvent
  enc := .idle
  env := .idle
  late := false

/-- `post`, which sets an event `e` that is accepted, is its two stores, one behind the other. -/
theorem Run.post {e : BsEvent} (he : e ≠ .none) (c : ChNum) (i : SubNum) (s : Server) :
  Run mailboxStep (fun _ _ => True) s.mailbox [.store c i e, .setFlag] (post c i e s).mailbox
  := by
  have hevent : (fun d j => Function.update s.mailbox.event c
      (Function.update (s.mailbox.event c) i e) d j) = (Rtspd.post c i e s).mailbox.event := by
    funext d j
    rw [event_store]
    split
    · next hp =>
        obtain ⟨rfl, rfl⟩ := Prod.mk.inj hp
        change e = ((s.setBs d j fun b => { b with event := e }).bs d j).event
        rw [Server.bs_setBs]
    · next hp =>
        change (s.bs d j).event = ((s.setBs c i fun b => { b with event := e }).bs d j).event
        rw [Server.bs_setBs_other hp]
  apply Run.cons trivial
  · rw [mailboxStep, if_pos ⟨rfl, he⟩]
  · apply Run.cons trivial _ (Run.nil _)
    rw [mailboxStep, if_pos rfl]
    apply congrArg some
    exact congrArg (fun event => { (Rtspd.post c i e s).mailbox with event := event }) hevent

/-- A scan of the streams in `rest` that is not interrupted finds an event when there is one. -/
theorem Run.scan (m : Mailbox) (n : Nat) (ret : Bool) (rest : List (ChNum × SubNum)) (hn : rest.length ≤ n) :
  ∃ inputs, Run mailboxStep (fun _ _ => True) { m with enc := .scan ret rest } inputs
    { m with enc := .scan (ret || rest.any fun p => m.event p.1 p.2 ≠ .none) [] }
  := by
  induction n generalizing ret rest with
  | zero =>
      obtain rfl := List.length_eq_zero_iff.mp (Nat.le_zero.mp hn)
      use []
      rw [List.any_nil, Bool.or_false]
      apply Run.nil
  | succ n ih =>
      cases rest with
      | nil =>
          use []
          rw [List.any_nil, Bool.or_false]
          apply Run.nil
      | cons p rest =>
          have hrest : rest.length ≤ n := Nat.le_of_succ_le_succ hn
          by_cases hevent : m.event p.1 p.2 ≠ .none
          · obtain ⟨inputs, hrun⟩ := ih true (rest.dropWhile fun q => q.1 = p.1)
              (Nat.le_trans (List.dropWhile_sublist _).length_le hrest)
            use .read :: inputs
            rw [List.any_cons, decide_eq_true hevent, Bool.true_or, Bool.or_true]
            apply Run.cons trivial _ hrun
            rw [mailboxStep]
            apply if_pos hevent
          · obtain ⟨inputs, hrun⟩ := ih ret rest hrest
            use .read :: inputs
            rw [List.any_cons, decide_eq_false hevent, Bool.false_or]
            apply Run.cons trivial _ hrun
            rw [mailboxStep]
            apply if_neg hevent

/-- `bs_check_event` looks at the streams in their order, and says whether one has an event. -/
theorem bsCheckEvent_eq (s : Server) :
  bsCheckEvent s = streams.any fun p => (s.bs p.1 p.2).event ≠ .none
  := by
  rw [bsCheckEvent, streams, List.any_flatMap]
  simp only [List.any_map]
  rfl

/-- From `s` to `s'`, every event is cleared, or is as it was; none is set. -/
def Cleared (s s' : Server) : Prop :=
  ∀ d j, (s'.bs d j).event = .none ∨ (s'.bs d j).event = (s.bs d j).event

theorem Cleared.trans {s s' s'' : Server} (h : Cleared s s') (h' : Cleared s' s'') : Cleared s s'' := by
  intro d j
  obtain hnone | hsame := h' d j
  · apply Or.inl hnone
  · rw [hsame]
    apply h d j

/-- If only the stream `i` of `c` is changed, and its event is cleared or as it was, then no event
is set. -/
theorem Cleared.of_only
    {s s' : Server} {c : ChNum} {i : SubNum} (h : Only c i s s')
    (hown : (s'.bs c i).event = .none ∨ (s'.bs c i).event = (s.bs c i).event) :
  Cleared s s'
  := by
  intro d j
  by_cases hp : (d, j) = (c, i)
  · obtain ⟨rfl, rfl⟩ := Prod.mk.inj hp
    apply hown
  · rw [h.others d j hp]
    apply Or.inr rfl

/-- The stop of the streams `is` of `c` clears events, and sets none. -/
theorem stopStreams_cleared (o : SubNum → Calls) (c : ChNum) (is : List SubNum) (s : Server) :
  Cleared s (stopStreams o c is s)
  := by
  induction is generalizing s with
  | nil => exact fun _ _ => Or.inr rfl
  | cons i is ih =>
      have hstop : Cleared s (stopStream (o i) c i s).2 := by
        apply Cleared.of_only Alone.stopStream.toOnly
        have hkept : ((unhandle c i s).bs c i).event = (s.bs c i).event := by
          rw [bs_unhandle]
        unfold stopStream
        dsimp only
        split
        · split
          · apply Or.inl (event_settle ..)
          · apply Or.inr hkept
        · split
          · apply Or.inl (event_settle ..)
          · apply Or.inl (event_settle ..)
      rw [stopStreams]
      dsimp only
      split
      · apply hstop.trans (ih _)
      · apply hstop

/-- The turn of the stream `i` of `c` clears events, and sets none. -/
theorem turn_cleared (o : SubNum → Calls) (c : ChNum) (i : SubNum) (s : Server) :
  Cleared s (turn o c i s)
  := by
  unfold turn
  split
  · exact fun _ _ => Or.inr rfl
  · split
    · exact fun _ _ => Or.inr rfl
    · apply Cleared.of_only Alone.startTurn.toOnly (Or.inl (event_settle ..))
    · apply Cleared.of_only Alone.updateTurn.toOnly
      unfold updateTurn
      dsimp only
      split
      · split
        · apply Or.inl (event_settle ..)
        · apply Or.inr rfl
      · apply Or.inr rfl
    · apply stopStreams_cleared

/-- The turns of the streams `ps` in a round clear events, which are stores of the encoder
thread. -/
theorem Run.handle
    (o : ChNum → SubNum → SubNum → Calls) (ps : List (ChNum × SubNum)) (s : Server) :
  ∃ inputs, Run mailboxStep (fun _ _ => True) { s.mailbox with enc := .handle } inputs
    { (ps.foldl (fun s p => turn (o p.1 p.2) p.1 p.2 s) s).mailbox with enc := .handle }
  := by
  induction ps generalizing s with
  | nil =>
      use []
      apply Run.nil
  | cons p ps ih =>
      obtain ⟨inputs, hrun⟩ := ih (turn (o p.1 p.2) p.1 p.2 s)
      have hcleared := turn_cleared (o p.1 p.2) p.1 p.2 s
      have hflag := (turn_phase (o p.1 p.2) p.1 p.2 s).2
      rw [List.foldl_cons]
      generalize turn (o p.1 p.2) p.1 p.2 s = s' at *
      use .handle (fun d j => (s'.bs d j).event = .none) :: inputs
      apply Run.cons trivial _ hrun
      rw [mailboxStep, if_pos rfl]
      have hevent : (fun d j => if decide ((s'.bs d j).event = .none) = true then .none
          else s.mailbox.event d j) = s'.mailbox.event := by
        funext d j
        split
        · next hnone => apply (of_decide_eq_true hnone).symm
        · next hkept =>
            obtain hnone | hsame := hcleared d j
            · exact absurd (decide_eq_true hnone) hkept
            · apply hsame.symm
      dsimp only
      rw [hevent]
      simp only [Server.mailbox, hflag]

/-- `advance`, the end of a round, leaves the events and the flag alone. -/
theorem mailbox_advance (s : Server) : (advance s).mailbox = s.mailbox := by
  unfold advance
  split
  · rfl
  · rfl

/-- A round of `bs_new_event` that is not interrupted is a run of the encoder thread. -/
theorem Run.bsNewEvent (o : ChNum → SubNum → SubNum → Calls) (s : Server) (h : s.rtspdSetEvent = true) :
  ∃ inputs, Run mailboxStep (fun _ _ => True) s.mailbox inputs (bsNewEvent o s).mailbox
  := by
  obtain ⟨reads, hscan⟩ := Run.scan s.mailbox streams.length false streams (Nat.le_refl _)
  have hfound : (streams.any fun p => s.mailbox.event p.1 p.2 ≠ .none) = bsCheckEvent s :=
    (bsCheckEvent_eq s).symm
  rw [Bool.false_or, hfound] at hscan
  have htest : mailboxStep s.mailbox .test = some { s.mailbox with enc := .scan false streams } := by
    simp only [mailboxStep, Server.mailbox, h, if_true]
  cases hcheck : bsCheckEvent s with
  | false =>
      rw [hcheck] at hscan
      use (.test :: reads) ++ [.clear]
      apply (Library.Run.cons trivial htest hscan).append
      apply Run.cons trivial _ (Run.nil _)
      rw [mailboxStep, if_pos rfl, Rtspd.bsNewEvent, if_neg (by simp [hcheck])]
      rfl
  | true =>
      rw [hcheck] at hscan
      obtain ⟨turns, hturns⟩ := Run.handle o streams s
      have hround : Rtspd.bsNewEvent o s =
          advance (streams.foldl (fun s p => turn (o p.1 p.2) p.1 p.2 s) s) := if_pos hcheck
      rw [hround, mailbox_advance]
      generalize streams.foldl (fun s p => turn (o p.1 p.2) p.1 p.2 s) s = t at hturns ⊢
      use (.test :: reads) ++ (.enter :: turns) ++ [.leave]
      have henter : mailboxStep { s.mailbox with enc := .scan true [] } .enter =
          some { s.mailbox with enc := .handle } := by
        rw [mailboxStep, if_pos rfl]
      apply Library.Run.append
      · apply (Library.Run.cons trivial htest hscan).append
          (Library.Run.cons trivial henter hturns)
      · apply Run.cons trivial _ (Run.nil _)
        rw [mailboxStep, if_pos rfl]
        rfl

end Rtspd
