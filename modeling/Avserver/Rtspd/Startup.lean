import Avserver.Rtspd.Rounds
import Avserver.Rtspd.Starting

/-!
# The start of the streams

`rtspd_start` creates the encoder thread and then asks for a start of every stream
(`env_bs_start`), one channel behind the other, while the encoder thread makes its rounds already.
Both hold the mutex of a channel while they deal with its streams; so the starts of a channel are
stored in one step, and a round passes over a channel in one step, and between such steps the two
threads come in any order.  So do the frames that are written between the rounds and those that
the streaming library gives back.

As long as the calls of the driver and of the streaming library succeed, a stream whose start has
been handled runs exactly if it is ready (`started_iff_ready`).  When the encoder thread finds
nothing more to do, every start has been handled (`all_started`), unless the starts of a channel
were stored between its last look for events and the clearing of the flag; and behind the last
start it looks at most four times more (`looks_le_four`).
-/

namespace Rtspd.Startup

open Library

variable {o : SubNum → SubNum → Calls} {c d : ChNum} {i j : SubNum} {s s' : Server}

/-! ### The two threads -/

/-- `t_ch_num` -/
def tChNum : Nat := 2

/-- The body of the loop of `env_bs_start` for the channel `c`: the starts of all its streams are
set. -/
def envBsStart (c : ChNum) (s : Server) : Server :=
  (List.finRange 9).foldl (fun s i => (envSetBsNewEvent c.val i.val .start s).2) s

/-- The turns of the streams `is` of the channel `c`, one behind the other. -/
def turns (o : SubNum → SubNum → Calls) (c : ChNum) (is : List SubNum) (s : Server) : Server :=
  is.foldl (fun s i => turn (o i) c i s) s

/-- Where the encoder thread is: at the test of `rtspd_set_event`, at its look for events, at a
channel, at the end of a round, or at the clearing of the flag. -/
inductive Place where
  | test | check | pass (c : ChNum) | phase | clear
deriving DecidableEq

/-- The server, the number of channels whose starts have been stored, and the `place` of the encoder
thread. -/
structure Threads where
  server : Server
  chNum : Nat
  place : Place

/-- The steps of the thread that stores the starts, of the encoder thread, and of the streaming
library and the driver with frames. -/
inductive Input where
  | start
  | test
  | check
  | pass (o : SubNum → SubNum → Calls)
  | phase
  | clear
  | takeFrame (c : ChNum) (i : SubNum) (vf : VideoFrame)
  | putFrame (qno key : Int)

/-- The place of the encoder thread behind the channel `c`: the next channel, or the end of the
round. -/
def behind (c : ChNum) : Place := if c = 0 then .pass 1 else .phase

/-- A step of one of the threads, if the thread is at the place for it; `none`, if it is not. -/
def step (t : Threads) : Input → Option Threads
  | .start =>
      if h : t.chNum < tChNum then
        some { t with server := envBsStart ⟨t.chNum, h⟩ t.server, chNum := t.chNum + 1 }
      else none
  | .test =>
      if t.place = .test then
        some { t with place := if t.server.rtspdSetEvent then .check else .test }
      else none
  | .check =>
      if t.place = .check then
        some { t with place := if bsCheckEvent t.server then .pass 0 else .clear }
      else none
  | .pass o =>
      match t.place with
      | .pass c =>
          some { t with server := turns o c (List.finRange 9) t.server, place := behind c }
      | _ => none
  | .phase =>
      if t.place = .phase then some { t with server := advance t.server, place := .test } else none
  | .clear =>
      if t.place = .clear then some { t with server := rest t.server, place := .test } else none
  | .takeFrame c i vf =>
      if t.place = .test then
        (takeFrame c i vf t.server).map fun s => { t with server := s }
      else none
  | .putFrame qno key => (putFrame qno key t.server).map fun s => { t with server := s }

/-- The threads when the encoder thread is created, with the server `s` and no start stored. -/
def threads (s : Server) : Threads := ⟨s, 0, .test⟩

/-- The calls in `o` for the streams of `c` that are started one behind the other succeed. -/
def TurnsWork (o : SubNum → SubNum → Calls) (c : ChNum) : List SubNum → Server → Prop
  | [], _ => True
  | i :: is, s =>
      ((s.bs c i).event = .start → s.bsEvent = .start → (o i i).Work c i s)
        ∧ TurnsWork o c is (turn (o i) c i s)

/-- Whether the calls in `o` for the streams succeed can be decided, along the turns. -/
def decidableTurnsWork (o : SubNum → SubNum → Calls) (c : ChNum) :
    ∀ (is : List SubNum) (s : Server), Decidable (TurnsWork o c is s)
  | [], _ => isTrue trivial
  | i :: is, s =>
      have := decidableTurnsWork o c is (turn (o i) c i s)
      inferInstanceAs (Decidable ((_ → _ → _) ∧ _))

/-- The calls of a step succeed, if it is the round of the encoder thread over a channel. -/
def Works (t : Threads) : Input → Prop
  | .pass o => ∀ c, t.place = .pass c → TurnsWork o c (List.finRange 9) t.server
  | _ => True

/-- No starts are stored between a look for events that finds none and the clearing of
`rtspd_set_event`. -/
def InTime (t : Threads) : Input → Prop
  | .start => t.place ≠ .clear
  | _ => True

/-- The calls of the step `input` succeed, and it is in time: `Works` and `InTime`. -/
def InOrder (t : Threads) (input : Input) : Prop := Works t input ∧ InTime t input

instance decidableWorks (t : Threads) : ∀ input, Decidable (Works t input)
  | .pass o =>
      have := decidableTurnsWork o
      inferInstanceAs (Decidable (∀ c, t.place = .pass c → _))
  | .start | .test | .check | .phase | .clear | .takeFrame .. | .putFrame .. => isTrue trivial

instance decidableInTime (t : Threads) : ∀ input, Decidable (InTime t input)
  | .start => inferInstanceAs (Decidable (_ ≠ _))
  | .pass _ | .test | .check | .phase | .clear | .takeFrame .. | .putFrame .. => isTrue trivial

instance decidableInOrder (t : Threads) (input : Input) : Decidable (InOrder t input) :=
  inferInstanceAs (Decidable (_ ∧ _))

/-! ### Storing the starts of a channel -/

/-- The stream `b` when its start has been asked for, which is refused for one that runs or has no
service. -/
def Bs.asked (b : Bs) : Bs :=
  if b.optType = optNone ∨ b.enabled = true then b else { b with event := .start }

theorem Bs.asked_idem (b : Bs) : Bs.asked (Bs.asked b) = Bs.asked b := by
  by_cases h : b.optType = optNone ∨ b.enabled = true
  · have hasked : Bs.asked b = b := if_pos h
    rw [hasked, hasked]
  · simp [Bs.asked, h]

/-- The flag `rtspd_set_event` is up, or no event stands. -/
def Noted (s : Server) : Prop := s.rtspdSetEvent = true ∨ s.Idle

theorem streamOf_val (c : ChNum) (i : SubNum) : streamOf c.val i.val = some (c, i) := by
  rw [streamOf, dif_pos]
  · rfl
  · omega

/-- What asking for the start of the stream `i` of `c` does to the channels, to the phase and to the
flag. -/
theorem envSetBsNewEvent_start (c : ChNum) (i : SubNum) (s : Server) :
  let s' := (envSetBsNewEvent c.val i.val .start s).2
  s'.enc = (s.setBs c i Bs.asked).enc ∧ s'.bsEvent = s.bsEvent ∧ (Noted s → Noted s')
  := by
  rw [envSetBsNewEvent, streamOf_val]
  by_cases hnone : (s.bs c i).optType = optNone ∨ (s.bs c i).enabled = true
  · have hasked : Bs.asked (s.bs c i) = s.bs c i := if_pos hnone
    have hrefused : ∃ ret, refusal c i .start s = some ret := by
      obtain hnone | henabled := hnone
      · use 0
        rw [refusal, if_pos hnone]
      · unfold refusal
        dsimp only
        rw [if_pos henabled]
        split
        · exact ⟨_, rfl⟩
        · exact ⟨_, rfl⟩
    obtain ⟨ret, hret⟩ := hrefused
    simp only [hret]
    rw [Server.enc_setBs, hasked, Server.bs, Function.update_eq_self, Function.update_eq_self]
    simp
  · have hasked : Bs.asked (s.bs c i) = { s.bs c i with event := .start } := if_neg hnone
    obtain ⟨hopt, henabled⟩ := not_or.mp hnone
    have hallowed : refusal c i .start s = none := by
      rw [refusal, if_neg hopt, if_neg henabled]
    simp only [hallowed]
    rw [Server.enc_setBs, hasked]
    exact ⟨rfl, rfl, fun _ => Or.inl rfl⟩

/-- What asking for the starts of the streams `is` of `c` does to the channels, to the phase and to
the flag. -/
theorem envSetBsNewEvent_starts (c : ChNum) (is : List SubNum) (s : Server) :
  let s' := is.foldl (fun s i => (envSetBsNewEvent c.val i.val .start s).2) s
  s'.enc = Function.update s.enc c
    { s.enc c with bs := fun i =>
        if (is.any fun j => i = j) then Bs.asked ((s.enc c).bs i) else (s.enc c).bs i }
  ∧ s'.bsEvent = s.bsEvent ∧ (Noted s → Noted s')
  := by
  induction is generalizing s with
  | nil =>
      simp only [List.any_nil, Bool.false_eq_true, if_false, List.foldl_nil]
      rw [Function.update_eq_self]
      simp
  | cons i is ih =>
      obtain ⟨henc, hphase, hnoted⟩ := envSetBsNewEvent_start c i s
      obtain ⟨ihenc, ihphase, ihnoted⟩ := ih (envSetBsNewEvent c.val i.val .start s).2
      rw [List.foldl_cons]
      use ?_, ihphase.trans hphase, fun h => ihnoted (hnoted h)
      rw [ihenc, henc, Server.enc_setBs, Function.update_idem, Function.update_self]
      congr 2
      dsimp only
      congr 1
      funext j
      by_cases hj : j = i
      · subst hj
        simp [Server.bs, Bs.asked_idem]
      · simp [hj]

/-- What `env_bs_start` does for the channel `c`: the starts of all its streams are asked for. -/
theorem envBsStart_spec (c : ChNum) (s : Server) :
  (envBsStart c s).enc = Function.update s.enc c
    { s.enc c with bs := fun i => Bs.asked ((s.enc c).bs i) }
  ∧ (envBsStart c s).bsEvent = s.bsEvent ∧ (Noted s → Noted (envBsStart c s))
  := by
  have h := envSetBsNewEvent_starts c (List.finRange 9) s
  have hall (i : SubNum) : ((List.finRange 9).any fun j => i = j) = true := by
    simp
  simp only [hall, if_true] at h
  apply h

variable {e e₀ : Av} {asked asked' : Prop}

theorem Way.congr (h : Way e₀ asked e) (hiff : asked ↔ asked') : Way e₀ asked' e := by
  rw [← propext hiff]
  apply h

/-- If the starts of the streams of a channel are stored, which is still as in `e₀`, then they have
been asked for. -/
theorem Way.ask (h₀ : Untouched e₀) (h : Way e₀ False e) :
  Way e₀ True { e with bs := fun i => Bs.asked (e.bs i) } where
  stage i := by
    have hwaiting : e.bs i = e₀.bs i := by
      cases h.stage i with
      | waiting _ h => apply h
      | pending hasked _ => contradiction
      | runs hasked _ _ => contradiction
      | refused hasked _ _ => contradiction
    dsimp only
    rw [hwaiting]
    by_cases hnone : (e₀.bs i).optType = optNone
    · rw [Bs.asked, if_pos (Or.inl hnone)]
      apply Stage.refused trivial _ rfl
      rintro ⟨⟨⟨hopt, -⟩, -⟩, -⟩
      rw [hnone] at hopt
      apply absurd hopt
      decide
    · have hdisabled : ¬ (e₀.bs i).enabled = true := by
        rw [(h₀.flags i).1]
        decide
      rw [Bs.asked, if_neg (not_or.mpr ⟨hnone, hdisabled⟩)]
      apply Stage.pending trivial rfl
  inputSystem := h.inputSystem
  closed hdisabled := by
    apply h.closed
    dsimp only at hdisabled
    unfold Bs.asked at hdisabled
    split at hdisabled
    · apply hdisabled
    · apply hdisabled
  opened henabled := by
    apply h.opened
    dsimp only at henabled
    unfold Bs.asked at henabled
    split at henabled
    · apply henabled
    · apply henabled

/-! ### A round over a channel -/

/-- Every channel of the server `s` is on its way from `s₀`, and those below `chNum` have been asked
for. -/
def OnTheWay (s₀ : Server) (chNum : Nat) (s : Server) : Prop :=
  ∀ c, Way (s₀.enc c) (c.val < chNum) (s.enc c)

variable {s₀ : Server} {chNum : Nat}

/-- If only the channel `c` is changed, and is on its way as `e`, then the server is on its way. -/
theorem OnTheWay.update
    (h : OnTheWay s₀ chNum s) (hway : Way (s₀.enc c) (c.val < chNum) e)
    (henc : s'.enc = Function.update s.enc c e) :
  OnTheWay s₀ chNum s'
  := by
  intro d
  rw [henc]
  by_cases hd : d = c
  · subst hd
    rw [Function.update_self]
    apply hway
  · rw [Function.update_of_ne hd]
    apply h d

/-- Of the events, only starts stand for the streams of a server on its way. -/
theorem OnTheWay.event (h₀ : s₀.Started) (h : OnTheWay s₀ chNum s) (c : ChNum) (i : SubNum) :
  (s.bs c i).event = .none ∨ (s.bs c i).event = .start
  := by
  have hnone := (Untouched.of_started h₀ c).event i
  rw [Server.bs]
  cases (h c).stage i with
  | waiting _ h =>
      left
      rw [h, hnone]
  | pending _ h =>
      right
      rw [h]
  | runs _ _ h => apply Or.inl h.event
  | refused _ _ h =>
      left
      rw [h, hnone]

/-- The turn of the stream `i` of `c` handles a start, in the phase of the starts, or does
nothing. -/
theorem turn_cases
    (h₀ : s₀.Started) (h : OnTheWay s₀ chNum s) (o : SubNum → Calls) (c : ChNum) (i : SubNum) :
  ((s.bs c i).event = .start ∧ s.bsEvent = .start ∧ turn o c i s = startTurn (o i) c i s)
  ∨ (¬ ((s.bs c i).event = .start ∧ s.bsEvent = .start) ∧ turn o c i s = s)
  := by
  by_cases hphase : (s.bs c i).event = s.bsEvent
  · have hevent := h.event h₀ c i
    rw [hphase] at hevent
    obtain hnone | hstart := hevent
    · right
      rw [turn, if_neg (not_not_intro hphase), hphase, hnone]
      simp
    · left
      rw [turn, if_neg (not_not_intro hphase), hphase, hstart]
      simp
  · right
    rw [turn, if_pos hphase]
    refine ⟨?_, rfl⟩
    rintro ⟨hevent, hstart⟩
    apply hphase (hevent.trans hstart.symm)

/-- If starts are handled in this phase, then that of the main stream of `c` has been. -/
def MainDone (c : ChNum) (s : Server) : Prop :=
  s.bsEvent = .start → (s.bs c mainBsNum).event ≠ .start

/-- What the turns of the streams `is` of the channel `c` do to a server on its way. -/
structure Turned (s₀ : Server) (chNum : Nat) (c : ChNum) (is : List SubNum) (s s' : Server) :
    Prop where
  onTheWay : OnTheWay s₀ chNum s'
  bsEvent : s'.bsEvent = s.bsEvent
  rtspdSetEvent : s'.rtspdSetEvent = s.rtspdSetEvent
  handled : s.bsEvent = .start → ∀ i ∈ is, (s'.bs c i).event ≠ .start
  others : ∀ d j, s'.bs d j = s.bs d j ∨ (s'.bs d j).event = .none

/-- The turn of a stream `i` of `c` whose calls succeed, behind that of the main stream, has
`Turned` the server. -/
theorem OnTheWay.turn
    (h₀ : s₀.Started) (h : OnTheWay s₀ chNum s) {o : SubNum → Calls}
    (hwork : (s.bs c i).event = .start → s.bsEvent = .start → (o i).Work c i s)
    (horder : i = mainBsNum ∨ MainDone c s) :
  Turned s₀ chNum c [i] s (turn o c i s)
  := by
  obtain ⟨hevent, hphase, hturn⟩ | ⟨hnot, hturn⟩ := turn_cases h₀ h o c i
  · have halone : Alone c i s (Rtspd.startTurn (o i) c i s) := Alone.startTurn
    have hnone : ((Rtspd.startTurn (o i) c i s).bs c i).event = .none := event_settle ..
    obtain ⟨e, hway, henc⟩ := (h c).startTurn (Untouched.of_started h₀ c) (hwork hevent hphase)
      hevent (horder.imp_right fun hdone => hdone hphase)
    rw [hturn]
    refine ⟨h.update hway henc, halone.bsEvent, halone.rtspdSetEvent, ?_, ?_⟩
    · intro _ j hj
      obtain rfl := List.mem_singleton.mp hj
      rw [hnone]
      decide
    · intro d j
      by_cases hp : (d, j) = (c, i)
      · obtain ⟨rfl, rfl⟩ := Prod.mk.inj hp
        apply Or.inr hnone
      · apply Or.inl (halone.others d j hp)
  · rw [hturn]
    refine ⟨h, rfl, rfl, ?_, fun _ _ => Or.inl rfl⟩
    intro hphase j hj hevent
    obtain rfl := List.mem_singleton.mp hj
    apply hnot ⟨hevent, hphase⟩

theorem Turned.cons {is : List SubNum}
    (h : Turned s₀ chNum c [i] s s') {s'' : Server} (h' : Turned s₀ chNum c is s' s'') :
  Turned s₀ chNum c (i :: is) s s'' where
  onTheWay := h'.onTheWay
  bsEvent := h'.bsEvent.trans h.bsEvent
  rtspdSetEvent := h'.rtspdSetEvent.trans h.rtspdSetEvent
  handled hphase j hj := by
    obtain rfl | hj := List.mem_cons.mp hj
    · obtain hsame | hnone := h'.others c j
      · rw [hsame]
        apply h.handled hphase j List.mem_cons_self
      · rw [hnone]
        decide
    · apply h'.handled (h.bsEvent.trans hphase) j hj
  others d j := by
    obtain hsame | hnone := h'.others d j
    · rw [hsame]
      apply h.others d j
    · apply Or.inr hnone

/-- If the start of the main stream of `c` has been handled, then it stays so in other turns. -/
theorem MainDone.turned {is : List SubNum} (hdone : MainDone c s)
    (h : Turned s₀ chNum d is s s') :
  MainDone c s'
  := by
  intro hphase
  rw [h.bsEvent] at hphase
  obtain hsame | hnone := h.others c mainBsNum
  · rw [hsame]
    apply hdone hphase
  · rw [hnone]
    decide

theorem turns_cons (o : SubNum → SubNum → Calls) (c : ChNum) (i : SubNum) (is : List SubNum)
    (s : Server) :
  turns o c (i :: is) s = turns o c is (turn (o i) c i s)
  := rfl

/-- The streams of a channel in the order of their turns: the main one first. -/
theorem streams_of_channel :
  (List.finRange 9 : List SubNum) = mainBsNum :: (List.finRange 8).map Fin.succ
  := List.finRange_succ

theorem Turned.phase {is : List SubNum} (h : Turned s₀ chNum c is s s')
    (hphase : s.bsEvent ≠ .none) :
  s'.bsEvent ≠ .none
  := by
  rw [h.bsEvent]
  apply hphase

theorem Turned.idle {is : List SubNum} (h : Turned s₀ chNum c is s s') (hidle : s.Idle) :
  s'.Idle
  := by
  intro d j
  obtain hsame | hnone := h.others d j
  · rw [hsame]
    apply hidle d j
  · apply hnone

theorem Turned.noted {is : List SubNum} (h : Turned s₀ chNum c is s s') (hnoted : Noted s) :
  Noted s'
  := by
  apply hnoted.imp _ h.idle
  intro hflag
  rw [h.rtspdSetEvent, hflag]

/-- The turns of the streams `is` behind the main one, whose calls succeed, have `Turned` the
server. -/
theorem OnTheWay.turnsBehind
    (h₀ : s₀.Started) (h : OnTheWay s₀ chNum s) (is : List SubNum) (hdone : MainDone c s)
    (hwork : TurnsWork o c is s) :
  Turned s₀ chNum c is s (turns o c is s)
  := by
  induction is generalizing s with
  | nil => exact ⟨h, rfl, rfl, fun _ _ hi => absurd hi List.not_mem_nil, fun _ _ => Or.inl rfl⟩
  | cons i is ih =>
      have hturn := h.turn h₀ hwork.1 (Or.inr hdone)
      apply hturn.cons (ih hturn.onTheWay (hdone.turned hturn) hwork.2)

/-- A round that passes over the channel `c` with calls that succeed has `Turned` the server. -/
theorem OnTheWay.pass
    (h₀ : s₀.Started) (h : OnTheWay s₀ chNum s) (hwork : TurnsWork o c (List.finRange 9) s) :
  Turned s₀ chNum c (List.finRange 9) s (turns o c (List.finRange 9) s)
  := by
  rw [streams_of_channel] at hwork ⊢
  rw [turns_cons]
  have hmain := h.turn h₀ hwork.1 (Or.inl rfl)
  apply hmain.cons
  apply hmain.onTheWay.turnsBehind h₀ _ _ hwork.2
  intro hphase
  apply hmain.handled (hmain.bsEvent ▸ hphase) _ List.mem_cons_self

/-! ### What holds at any time -/

variable {t t' : Threads} {input : Input}

/-- What a step of the threads from `t` does, one case for each `Input`. -/
inductive Stepped (t : Threads) : Input → Threads → Prop where
  | start (hlt : t.chNum < tChNum) :
      Stepped t .start
        { t with server := envBsStart ⟨t.chNum, hlt⟩ t.server, chNum := t.chNum + 1 }
  | test (hplace : t.place = .test) :
      Stepped t .test { t with place := if t.server.rtspdSetEvent then .check else .test }
  | check (hplace : t.place = .check) :
      Stepped t .check { t with place := if bsCheckEvent t.server then .pass 0 else .clear }
  | pass {o : SubNum → SubNum → Calls} {c : ChNum} (hplace : t.place = .pass c) :
      Stepped t (.pass o)
        { t with server := turns o c (List.finRange 9) t.server, place := behind c }
  | phase (hplace : t.place = .phase) :
      Stepped t .phase { t with server := advance t.server, place := .test }
  | clear (hplace : t.place = .clear) :
      Stepped t .clear { t with server := rest t.server, place := .test }
  | takeFrame {c : ChNum} {i : SubNum} {vf : VideoFrame} {qno : Int} {fi : FrameInfo} :
      Stepped t (.takeFrame c i vf)
        { t with
          server.frameInfo := Function.update t.server.frameInfo qno fi }
  | putFrame {qno key : Int} {qno' : Int} {fi : FrameInfo} :
      Stepped t (.putFrame qno key)
        { t with
          server.frameInfo := Function.update t.server.frameInfo qno' fi }

theorem Stepped.of_step (h : step t input = some t') : Stepped t input t' := by
  cases input with
  | putFrame qno key =>
      obtain ⟨s, hput, rfl⟩ := Option.map_eq_some_iff.mp h
      obtain ⟨qno', fi, rfl⟩ := putFrame_frameInfo hput
      apply Stepped.putFrame
  | takeFrame c i vf =>
      rw [step] at h
      split at h
      · obtain ⟨s, htake, rfl⟩ := Option.map_eq_some_iff.mp h
        obtain ⟨qno, fi, rfl⟩ := takeFrame_frameInfo htake
        apply Stepped.takeFrame
      · contradiction
  | start =>
      rw [step] at h
      split at h
      · next hlt =>
          obtain rfl := Option.some.inj h
          apply Stepped.start hlt
      · contradiction
  | pass o =>
      rw [step] at h
      split at h
      · next c hplace =>
          obtain rfl := Option.some.inj h
          apply Stepped.pass hplace
      · contradiction
  | test =>
      rw [step] at h
      split at h
      · next hplace =>
          obtain rfl := Option.some.inj h
          apply Stepped.test hplace
      · contradiction
  | check =>
      rw [step] at h
      split at h
      · next hplace =>
          obtain rfl := Option.some.inj h
          apply Stepped.check hplace
      · contradiction
  | phase =>
      rw [step] at h
      split at h
      · next hplace =>
          obtain rfl := Option.some.inj h
          apply Stepped.phase hplace
      · contradiction
  | clear =>
      rw [step] at h
      split at h
      · next hplace =>
          obtain rfl := Option.some.inj h
          apply Stepped.clear hplace
      · contradiction

/-- Every stream is on its way from `s₀`, and that of the channels whose starts have been stored has
been asked for. -/
structure Reached (s₀ : Server) (t : Threads) : Prop where
  onTheWay : OnTheWay s₀ t.chNum t.server
  phase : t.server.bsEvent ≠ .none

/-- No event is forgotten: the flag is up for it, and is not about to be cleared. -/
structure Attentive (t : Threads) : Prop where
  noted : Noted t.server
  clear : t.place = .clear → t.server.Idle

/-- A server `s'` that has the same channels as `s` is as far on its way. -/
theorem OnTheWay.of_enc (h : OnTheWay s₀ chNum s) (henc : s'.enc = s.enc) :
  OnTheWay s₀ chNum s'
  := by
  intro c
  rw [henc]
  apply h c

theorem enc_advance (s : Server) : (advance s).enc = s.enc := by
  unfold advance
  split
  · rfl
  · rfl

/-- If the starts of the next channel are stored, then the server is on its way with one channel
more. -/
theorem Reached.start (h₀ : s₀.Started) (h : Reached s₀ t) (hlt : t.chNum < tChNum) :
  OnTheWay s₀ (t.chNum + 1) (envBsStart ⟨t.chNum, hlt⟩ t.server)
  := by
  intro d
  have hway := h.onTheWay d
  rw [(envBsStart_spec _ _).1]
  by_cases hd : d = ⟨t.chNum, hlt⟩
  · rw [hd, Function.update_self]
    rw [hd] at hway
    apply Way.congr
    · apply Way.ask (Untouched.of_started h₀ _)
      apply hway.congr
      simp
    · simp
  · rw [Function.update_of_ne hd]
    apply hway.congr
    have hne : d.val ≠ t.chNum := fun heq => hd (Fin.ext heq)
    omega

theorem phase_advance (h : s.bsEvent ≠ .none) : (advance s).bsEvent ≠ .none := by
  unfold advance
  split
  · apply h
  · apply BsEvent.next_ne h

/-- A step of the threads whose calls succeed keeps every stream on its way from `s₀`. -/
theorem Reached.step
    (h₀ : s₀.Started) (h : Reached s₀ t) (hworks : Works t input) (hstep : Stepped t input t') :
  Reached s₀ t'
  := by
  cases hstep with
  | start hlt =>
      refine ⟨h.start h₀ hlt, ?_⟩
      rw [(envBsStart_spec _ _).2.1]
      apply h.phase
  | test _ => exact ⟨h.onTheWay, h.phase⟩
  | check _ => exact ⟨h.onTheWay, h.phase⟩
  | @pass o c hplace =>
      have hwork : TurnsWork o c (List.finRange 9) t.server := hworks c hplace
      have hpass := h.onTheWay.pass h₀ hwork
      constructor
      · dsimp only
        apply hpass.onTheWay
      · apply hpass.phase h.phase
  | phase _ => exact ⟨h.onTheWay.of_enc (enc_advance _), phase_advance h.phase⟩
  | clear _ => exact ⟨h.onTheWay.of_enc rfl, by simp [rest]⟩
  | takeFrame => exact ⟨h.onTheWay, h.phase⟩
  | putFrame => exact ⟨h.onTheWay, h.phase⟩

theorem behind_ne_clear (c : ChNum) : behind c ≠ .clear := by
  unfold behind
  split
  · simp
  · simp

theorem Server.Idle.advance (h : s.Idle) : (advance s).Idle := by
  intro c i
  rw [bs_advance]
  apply h c i

/-- A step of the threads that is in time and whose calls succeed forgets no event. -/
theorem Attentive.step
    (h₀ : s₀.Started) (hreached : Reached s₀ t) (h : Attentive t) (hworks : Works t input)
    (htime : InTime t input) (hstep : Stepped t input t') :
  Attentive t'
  := by
  cases hstep with
  | start hlt => exact ⟨(envBsStart_spec _ _).2.2 h.noted, fun hclear => absurd hclear htime⟩
  | test hplace =>
      refine ⟨h.noted, ?_⟩
      dsimp only
      split
      · simp
      · simp
  | check hplace =>
      refine ⟨h.noted, ?_⟩
      dsimp only
      split
      · simp
      · next hnone =>
          intro _
          rw [bsCheckEvent_iff] at hnone
          apply not_not.mp hnone
  | @pass o c hplace =>
      have hwork : TurnsWork o c (List.finRange 9) t.server := hworks c hplace
      have hpass := hreached.onTheWay.pass h₀ hwork
      constructor
      · dsimp only
        apply hpass.noted h.noted
      · intro hclear
        apply absurd hclear (behind_ne_clear c)
  | phase hplace =>
      refine ⟨h.noted.imp ?_ Server.Idle.advance, by simp⟩
      intro hflag
      unfold advance
      split
      · apply hflag
      · apply hflag
  | clear hplace => exact ⟨Or.inr (h.clear hplace), by simp⟩
  | takeFrame => exact ⟨h.noted, h.clear⟩
  | putFrame => exact ⟨h.noted, h.clear⟩

/-! ### How often the encoder thread looks for events -/

/-- The number of times that the encoder thread looks for events yet, if it does so next and finds
one in the given phase of the rounds. -/
def looksAt : BsEvent → Nat
  | .start => 2
  | .update => 3
  | .stop => 4
  | .none => 0

/-- The number of times that the encoder thread looks for events yet, if it does so next, with or
without an event in `s`. -/
def looks (s : Server) : Nat := if s.Idle then 1 else looksAt s.bsEvent

/-- The number of times that the encoder thread looks for events yet within a round of the given
`phase`, which leaves no start if `handled` holds. -/
def looksBehind (phase : BsEvent) (handled : Prop) [Decidable handled] : Nat :=
  match phase with
  | .start => if handled then 1 else 2
  | .update => 2
  | .stop => 3
  | .none => 0

/-- Only streams of the channel `c` and of those behind it have an event in `s`. -/
def Behind (c : ChNum) (s : Server) : Prop := ∀ d j, (s.bs d j).event ≠ .none → c ≤ d

instance (c : ChNum) (s : Server) : Decidable (Behind c s) :=
  inferInstanceAs (Decidable (∀ _ _, _))

/-- The number of times that the encoder thread looks for events yet from its place in `t`, when no
more starts are stored. -/
def rank (t : Threads) : Nat :=
  match t.place with
  | .test => if t.server.rtspdSetEvent then looks t.server else 0
  | .check => looks t.server
  | .pass c => looksBehind t.server.bsEvent (Behind c t.server)
  | .phase => looksBehind t.server.bsEvent t.server.Idle
  | .clear => 0

/-- Whether the encoder thread looks for events in a step, by `bs_check_event`. -/
def Input.looks : Input → Bool
  | .check => true
  | _ => false

theorem looks_le (s : Server) : looks s ≤ 4 := by
  unfold looks looksAt
  split
  · decide
  · split
    all_goals decide

theorem looksBehind_le (phase : BsEvent) (handled : Prop) [Decidable handled] :
  looksBehind phase handled ≤ 4
  := by
  unfold looksBehind
  split
  · split
    · decide
    · decide
  all_goals decide

theorem rank_le (t : Threads) : rank t ≤ 4 := by
  unfold rank
  split
  · split
    · apply looks_le
    · decide
  · apply looks_le
  · apply looksBehind_le
  · apply looksBehind_le
  · decide

theorem looksBehind_mono
    {phase : BsEvent} {p q : Prop} [Decidable p] [Decidable q] (h : phase = .start → p → q) :
  looksBehind phase q ≤ looksBehind phase p
  := by
  cases phase with
  | start =>
      rw [looksBehind, looksBehind]
      by_cases hp : p
      · rw [if_pos hp, if_pos (h rfl hp)]
      · rw [if_neg hp]
        split
        · decide
        · decide
  | none => apply Nat.le_refl
  | update => apply Nat.le_refl
  | stop => apply Nat.le_refl

/-- A look for events takes one from the `rank`: it begins a round, or is the last one. -/
theorem rank_check (h : s.bsEvent ≠ .none) (n : Nat) :
  rank ⟨s, n, if bsCheckEvent s then .pass 0 else .clear⟩ + 1 ≤ rank ⟨s, n, .check⟩
  := by
  by_cases hidle : s.Idle
  · rw [if_neg (mt bsCheckEvent_iff.mp (not_not_intro hidle))]
    simp [rank, looks, hidle]
  · have hbehind : Behind 0 s := fun d _ _ => Fin.zero_le d
    rw [if_pos (bsCheckEvent_iff.mpr hidle)]
    simp only [rank, looks, if_neg hidle]
    cases hphase : s.bsEvent with
    | none => contradiction
    | start => simp [looksBehind, looksAt, hbehind]
    | update => simp [looksBehind, looksAt]
    | stop => simp [looksBehind, looksAt]

/-- A round that passes over the channel `c` does not add to the `rank`. -/
theorem rank_pass
    (h₀ : s₀.Started) (hturned : Turned s₀ chNum c (List.finRange 9) s s') (n : Nat) :
  rank ⟨s', n, behind c⟩ ≤ rank ⟨s, n, .pass c⟩
  := by
  have hlater (hphase : s.bsEvent = .start) (h : Behind c s) (d : ChNum) (j : SubNum)
      (hevent : (s'.bs d j).event ≠ .none) : c < d := by
    apply Nat.lt_of_le_of_ne
    · apply h d j
      rw [← (hturned.others d j).resolve_right hevent]
      apply hevent
    · intro heq
      obtain rfl : c = d := Fin.ext heq
      apply hevent
      apply (hturned.onTheWay.event h₀ c j).resolve_right
      apply hturned.handled hphase j (List.mem_finRange j)
  by_cases hc : c = 0
  · subst hc
    change looksBehind s'.bsEvent (Behind 1 s') ≤ looksBehind s.bsEvent (Behind 0 s)
    rw [hturned.bsEvent]
    apply looksBehind_mono
    intro hphase h d j hevent
    apply Fin.mk_le_of_le_val
    apply Nat.succ_le_of_lt
    apply hlater hphase h d j hevent
  · have hplace : behind c = .phase := if_neg hc
    rw [hplace]
    change looksBehind s'.bsEvent s'.Idle ≤ looksBehind s.bsEvent (Behind c s)
    rw [hturned.bsEvent]
    apply looksBehind_mono
    intro hphase h d j
    by_contra hevent
    have hlt := hlater hphase h d j hevent
    have hne : c.val ≠ 0 := fun heq => hc (Fin.ext heq)
    have hval : c.val < d.val := hlt
    omega

/-- The end of a round, by `advance`, does not add to the `rank`. -/
theorem rank_phase
    (h₀ : s₀.Started) (h : OnTheWay s₀ chNum s) (hphase : s.bsEvent ≠ .none) (n : Nat) :
  rank ⟨advance s, n, .test⟩ ≤ rank ⟨s, n, .phase⟩
  := by
  have htest : rank ⟨advance s, n, .test⟩ ≤ looks (advance s) := by
    simp only [rank]
    split
    · apply Nat.le_refl
    · apply Nat.zero_le
  apply htest.trans
  change looks (advance s) ≤ looksBehind s.bsEvent s.Idle
  by_cases hidle : s.Idle
  · rw [looks, if_pos (Server.Idle.advance hidle)]
    cases hevent : s.bsEvent with
    | none => contradiction
    | start => simp [looksBehind, hidle]
    | update => simp [looksBehind]
    | stop => simp [looksBehind]
  · have hnot : ¬ (advance s).Idle := by
      intro h
      apply hidle
      intro c i
      rw [← bs_advance]
      apply h c i
    have hstands (e : BsEvent) (hstart : e ≠ .start) (hnone : e ≠ .none) :
        ¬ bsCheckEventType e s = true := by
      rw [bsCheckEventType_iff]
      rintro ⟨c, i, rfl⟩
      apply (h.event h₀ c i).elim hnone hstart
    rw [looks, if_neg hnot, advance]
    cases hevent : s.bsEvent with
    | none => contradiction
    | start =>
        have hstart : bsCheckEventType .start s = true := by
          rw [bsCheckEventType_iff]
          by_contra hno
          apply hidle
          intro c i
          apply (h.event h₀ c i).resolve_right
          exact fun hevent => hno ⟨c, i, hevent⟩
        rw [if_pos hstart, hevent]
        simp [looksBehind, looksAt, hidle]
    | update =>
        rw [if_neg (hstands _ (by decide) (by decide))]
        simp [looksBehind, looksAt, BsEvent.next]
    | stop =>
        rw [if_neg (hstands _ (by decide) (by decide))]
        simp [looksBehind, looksAt, BsEvent.next]

/-- When all starts have been stored, a look for events takes from the `rank`, and nothing adds to
it. -/
theorem rank_step
    (h₀ : s₀.Started) (h : Reached s₀ t) (hall : t.chNum = tChNum) (hworks : Works t input)
    (hstep : Stepped t input t') :
  t'.chNum = tChNum ∧ rank t' + (if input.looks then 1 else 0) ≤ rank t
  := by
  obtain ⟨s, n, place⟩ := t
  cases hstep with
  | start hlt =>
      rw [hall] at hlt
      apply absurd hlt (Nat.lt_irrefl _)
  | test hplace =>
      obtain rfl : place = .test := hplace
      refine ⟨hall, ?_⟩
      by_cases hflag : s.rtspdSetEvent = true
      · simp [rank, hflag, Input.looks]
      · simp [rank, hflag, Input.looks]
  | check hplace =>
      obtain rfl : place = .check := hplace
      refine ⟨hall, ?_⟩
      apply rank_check h.phase
  | @pass o c hplace =>
      obtain rfl : place = .pass c := hplace
      refine ⟨hall, ?_⟩
      have hwork : TurnsWork o c (List.finRange 9) s := hworks c rfl
      apply rank_pass h₀ (h.onTheWay.pass h₀ hwork)
  | phase hplace =>
      obtain rfl : place = .phase := hplace
      refine ⟨hall, ?_⟩
      apply rank_phase h₀ h.onTheWay h.phase
  | clear hplace =>
      obtain rfl : place = .clear := hplace
      refine ⟨hall, ?_⟩
      simp [rank, rest, Input.looks]
  | takeFrame => exact ⟨hall, Nat.le_refl _⟩
  | putFrame => exact ⟨hall, Nat.le_refl _⟩

/-- When the encoder thread is to look for events no more, `rtspd_set_event` is down. -/
theorem flag_of_rank
    (hphase : t.server.bsEvent ≠ .none) (hplace : t.place = .test) (hrank : rank t = 0) :
  t.server.rtspdSetEvent = false
  := by
  by_contra hflag
  rw [Bool.not_eq_false] at hflag
  simp only [rank, hplace, hflag, if_true, looks] at hrank
  split at hrank
  · contradiction
  · cases hevent : t.server.bsEvent with
    | none => contradiction
    | start =>
        rw [hevent] at hrank
        contradiction
    | update =>
        rw [hevent] at hrank
        contradiction
    | stop =>
        rw [hevent] at hrank
        contradiction

/-! ### The streams that run -/

/-- The start of the stream `i` of `c` has been handled: it runs if it is `Ready`, and else it is as
it was in `s₀`. -/
def Settled (s₀ : Server) (c : ChNum) (i : SubNum) (s : Server) : Prop :=
  (Ready (s₀.enc c) i → Runs (s₀.enc c) i (s.bs c i))
    ∧ (¬ Ready (s₀.enc c) i → s.bs c i = s₀.bs c i)

variable {inputs inputs' : List Input}

theorem Reached.threads (h₀ : s₀.Started) : Reached s₀ (threads s₀) where
  onTheWay c := by
    have huntouched := Untouched.of_started h₀ c
    constructor
    · intro i
      apply Stage.waiting (Nat.not_lt_zero _) rfl
    · rfl
    · intro _
      apply huntouched.channel
    · intro henabled
      have hdisabled := (huntouched.flags mainBsNum).1
      rw [Startup.threads, hdisabled] at henabled
      contradiction
  phase := by
    change s₀.bsEvent ≠ .none
    simp [h₀.bsEvent]

theorem Attentive.threads (h₀ : s₀.Started) : Attentive (threads s₀) where
  noted := Or.inr fun c i => (Untouched.of_started h₀ c).event i
  clear hplace := by
    rw [Startup.threads] at hplace
    contradiction

/-- Along a run whose calls succeed, every stream stays on its way from `s₀`. -/
theorem Reached.run (h₀ : s₀.Started) (h : Reached s₀ t) (hrun : Run Startup.step Works t inputs t') :
  Reached s₀ t'
  := by
  apply hrun.invariant _ h
  intro t input t' h hworks hstep
  apply h.step h₀ hworks (Stepped.of_step hstep)

/-- Along a run whose calls succeed and in which the starts are stored in time, no event is
forgotten. -/
theorem Attentive.run
    (h₀ : s₀.Started) (hreached : Reached s₀ t) (h : Attentive t)
    (hrun : Run Startup.step InOrder t inputs t') :
  Reached s₀ t' ∧ Attentive t'
  := by
  apply hrun.invariant (I := fun t => Reached s₀ t ∧ Attentive t) _ ⟨hreached, h⟩
  rintro t input t' ⟨hreached, h⟩ ⟨hworks, htime⟩ hstep
  have hstepped := Stepped.of_step hstep
  exact ⟨hreached.step h₀ hworks hstepped, h.step h₀ hreached hworks htime hstepped⟩

/-- A stream `i` of `c` whose start has been stored and does not stand has been started or
refused. -/
theorem Reached.settled
    (h : Reached s₀ t) (hasked : c.val < t.chNum)
    (hevent : (t.server.bs c i).event = .none) :
  Settled s₀ c i t.server
  := by
  rw [Server.bs] at hevent
  rw [Settled]
  cases (h.onTheWay c).stage i with
  | waiting hnot _ => contradiction
  | pending _ hstart =>
      rw [hstart] at hevent
      contradiction
  | runs _ hready hruns => exact ⟨fun _ => hruns, fun hnot => absurd hready hnot⟩
  | refused _ hready hsame => exact ⟨fun h => absurd h hready, fun _ => hsame⟩

/-- In every state `t` that the two threads reach with calls that succeed: before the starts of its
channel are stored a stream is as it was; an event that stands is its start, and nothing else about
it has changed; once its start has been handled it runs if it is `Ready`, and else is as it was.  A
channel is open exactly if its main stream runs. -/
theorem started_iff_ready
    (h₀ : s₀.Started) (hrun : Run step Works (threads s₀) inputs t) (c : ChNum) (i : SubNum) :
  (t.chNum ≤ c.val → t.server.bs c i = s₀.bs c i)
  ∧ ((t.server.bs c i).event ≠ .none →
      c.val < t.chNum ∧ t.server.bs c i = { s₀.bs c i with event := .start })
  ∧ (c.val < t.chNum → (t.server.bs c i).event = .none → Settled s₀ c i t.server)
  ∧ (0 < (t.server.enc c).encFd ↔ (t.server.bs c mainBsNum).enabled = true)
  := by
  have h := (Reached.threads h₀).run h₀ hrun
  have huntouched := Untouched.of_started h₀ c
  have hway := h.onTheWay c
  refine ⟨?_, ?_, h.settled, ?_⟩
  · intro hle
    cases hway.stage i with
    | waiting _ hsame => apply hsame
    | pending hasked _ => apply absurd hasked (Nat.not_lt.mpr hle)
    | runs hasked _ _ => apply absurd hasked (Nat.not_lt.mpr hle)
    | refused hasked _ _ => apply absurd hasked (Nat.not_lt.mpr hle)
  · intro hevent
    have hstart := (h.onTheWay.event h₀ c i).resolve_left hevent
    apply (hway.stage i).of_start huntouched hstart
  · constructor
    · intro hfd
      by_contra hdisabled
      rw [(hway.closed (Bool.eq_false_iff.mpr hdisabled)).1] at hfd
      contradiction
    · apply hway.opened

/-- A round of the encoder thread over a channel, all of whose calls succeed: `workingCalls`. -/
def working : Input := .pass fun _ _ => workingCalls

/-- The general `started_iff_ready` at streams that are all for live streaming: the encoder thread
passes over the first channel when its starts have been stored, and the third stream is started. -/
theorem started_newServer :
  ∃ t : Threads, (t.server.bs 0 2).event = .none ∧
    Settled (newServer rtspLiveStreaming) 0 2 t.server
  := by
  obtain ⟨t, hrun, ht⟩ := Run.exists_of_exec step Works (threads (newServer rtspLiveStreaming))
    (fun t => (t.server.bs 0 2).event = .none ∧ 0 < t.chNum) [.start, .test, .check, working]
    (by decide +kernel)
  obtain ⟨hevent, hasked⟩ := of_decide_eq_true ht
  exact ⟨t, hevent, (started_iff_ready (newServer_started _) hrun 0 2).2.2.1 hasked hevent⟩

/-- Once the starts of both channels have been stored, every look for events brings the encoder
thread nearer to the end, by its `rank`. -/
theorem Reached.countP_le
    (h₀ : s₀.Started) (h : Reached s₀ t) (hall : t.chNum = tChNum)
    (hrun : Run Startup.step InOrder t inputs t') :
  t'.chNum = tChNum ∧ inputs.countP Input.looks + rank t' ≤ rank t
  := by
  obtain ⟨⟨-, hall'⟩, hcount⟩ : (Reached s₀ t' ∧ t'.chNum = tChNum) ∧
      inputs.countP Input.looks + rank t' ≤ rank t := by
    apply hrun.countP_le (I := fun t => Reached s₀ t ∧ t.chNum = tChNum) _ ⟨h, hall⟩
    rintro t input t' ⟨hreached, hall⟩ ⟨hworks, -⟩ hstep
    have hstepped := Stepped.of_step hstep
    obtain ⟨hall', hrank⟩ := rank_step h₀ hreached hall hworks hstepped
    exact ⟨⟨hreached.step h₀ hworks hstepped, hall'⟩, hrank⟩
  exact ⟨hall', hcount⟩

/-- When `rtspd_set_event` is down and the starts of both channels have been stored in time, every
stream has been started or refused. -/
theorem Reached.settled_of_flag
    (h : Reached s₀ t) (hattentive : Attentive t) (hall : t.chNum = tChNum)
    (hflag : t.server.rtspdSetEvent = false) (c : ChNum) (i : SubNum) :
  Settled s₀ c i t.server
  := by
  have hidle : t.server.Idle := by
    apply hattentive.noted.resolve_left
    simp [hflag]
  apply h.settled
  · rw [hall]
    apply c.isLt
  · apply hidle c i

/-- Along a run whose calls succeed and in which the starts of both channels are stored in time,
every stream has been started or refused in a state with `rtspd_set_event` down. -/
theorem settled_of_run
    (h₀ : s₀.Started) (hrun : Run step InOrder (threads s₀) inputs t) (hall : t.chNum = tChNum)
    (hrun' : Run step InOrder t inputs' t') (hflag : t'.server.rtspdSetEvent = false)
    (c : ChNum) (i : SubNum) :
  Settled s₀ c i t'.server
  := by
  obtain ⟨hreached, hattentive⟩ := (Attentive.threads h₀).run h₀ (Reached.threads h₀) hrun
  obtain ⟨hreached', hattentive'⟩ := hattentive.run h₀ hreached hrun'
  apply hreached'.settled_of_flag hattentive' (hreached.countP_le h₀ hall hrun').1 hflag

/-- When the starts of both channels have been stored, all of them in time and with calls that
succeed (`InOrder`), the encoder thread looks for events at most four times more, and once it has,
or finds the flag down before, every stream has been started or refused. -/
theorem all_started
    (h₀ : s₀.Started) (hrun : Run step InOrder (threads s₀) inputs t) (hall : t.chNum = tChNum)
    (hrun' : Run step InOrder t inputs' t') :
  inputs'.countP Input.looks ≤ 4
  ∧ (t'.place = .test →
      t'.server.rtspdSetEvent = false ∨ inputs'.countP Input.looks = 4 →
      ∀ c i, Settled s₀ c i t'.server)
  := by
  obtain ⟨hreached, hattentive⟩ := (Attentive.threads h₀).run h₀ (Reached.threads h₀) hrun
  obtain ⟨hreached', -⟩ := hattentive.run h₀ hreached hrun'
  obtain ⟨hall', hcount⟩ := hreached.countP_le h₀ hall hrun'
  have hfour := rank_le t
  refine ⟨by omega, ?_⟩
  intro hplace hdone c i
  have hflag : t'.server.rtspdSetEvent = false := by
    obtain hflag | hlooks := hdone
    · apply hflag
    · have hzero : rank t' = 0 := by omega
      apply flag_of_rank hreached'.phase hplace hzero
  apply settled_of_run h₀ hrun hall hrun' hflag

/-- The general `all_started` at streams that are all for live streaming, where two looks for events
are enough to start them. -/
theorem all_started_newServer :
  ∃ t : Threads, t.place = .test ∧ t.server.rtspdSetEvent = false ∧
    ∀ c i, Settled (newServer rtspLiveStreaming) c i t.server
  := by
  have hasked : Run step InOrder (threads (newServer rtspLiveStreaming)) [.start, .start]
      ⟨envBsStart 1 (envBsStart 0 (newServer rtspLiveStreaming)), 2, .test⟩ := Run.of_exec rfl
  obtain ⟨t, hrun, ht⟩ := Run.exists_of_exec step InOrder
    ⟨envBsStart 1 (envBsStart 0 (newServer rtspLiveStreaming)), 2, .test⟩
    (fun t => t.place = .test ∧ t.server.rtspdSetEvent = false)
    [.test, .check, working, working, .phase, .test, .check, .clear]
    (by decide +kernel)
  obtain ⟨hplace, hflag⟩ := of_decide_eq_true ht
  exact ⟨t, hplace, hflag,
    (all_started (newServer_started _) hasked rfl hrun).2 hplace (Or.inl hflag)⟩

end Rtspd.Startup
