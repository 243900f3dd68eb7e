import Avserver.Rtspd.Play

/-!
# The account of what is played

A monitor that knows nothing of the server follows what passes between the server and those around
it: it keeps account of the registrations by their numbers, of the streams that are played, of the
intra frames that are wanted, of the switches of the network recorder, and of the frame that the
driver has handed out.  The members of the server's streams are what this account says (`Accounted`).
A turn of the server keeps to that if the calls of the library succeed, and so does everything else
that happens.
-/

namespace Rtspd.Play

open Library

/-! ### The monitor -/

/-- A frame that the driver has handed out and not received back, and that has not been put on a
queue: its stream, its `length` and the `rateCtlType` of the stream; it is `recorded` when the network
recorder has been given it, or the intra frame that replaces it has been asked for. -/
structure Hand where
  stream : ChNum × SubNum
  length : Int
  rateCtlType : Int
  recorded : Bool
deriving DecidableEq

/-- The `registrations` by their numbers, the streams that are `played`, those for which an intra
frame has been `asked` for, the `audio` queue that each of them was last registered with, the switches
of the network recorder, and the frame in `hand`. -/
structure Account where
  registrations : Int → Option Registration
  played : ChNum × SubNum → Bool
  asked : ChNum × SubNum → Bool
  audio : ChNum × SubNum → Int
  nvrSendStatus : NvrPlace → Int
  hand : Option Hand

namespace Account

/-- The account before the first message: nothing has been registered or played, and no frame has
been handed out. -/
def start : Account := ⟨fun _ => none, fun _ => false, fun _ => false, fun _ => -1, fun _ => 0, none⟩

/-- The stream that is registered under the name `name` and the number `sno`, if there is one. -/
def lookup (v : Account) (name : List Char) (sno : Int) : Option (ChNum × SubNum) :=
  (v.registrations sno).bind fun r => if r.name = name then some r.stream else none

/-- The account with a command: `PLAY` and `TEARDOWN` for a stream that is registered also want an
intra frame of it. -/
def command (v : Account) (name : List Char) (sno : Int) (cmd : StreamCmd) : Account :=
  match cmd, v.lookup name sno with
  | .play, some p =>
      { v with played := Function.update v.played p true, asked := Function.update v.asked p true }
  | .teardown, some p =>
      { v with played := Function.update v.played p false, asked := Function.update v.asked p true }
  | _, _ => v

/-- How a command for the stream of the name `name` and the number `sno` is answered. -/
def answer (v : Account) (name : List Char) (sno : Int) : StreamCmd → Int
  | .openSr => -10
  | .play | .teardown => if (v.lookup name sno).isSome then 0 else -1
  | .pause => 0
  | .other _ => -1

/-- The network recorder has had its turn with the frame in hand, be it that it got it or not. -/
def record (v : Account) : Account :=
  { v with hand := v.hand.map fun f => { f with recorded := true } }

/-- The account `v` when a message has passed: what is registered, marked and wanted, and the frame
in hand. -/
def next (v : Account) : Message → Account
  | .reg r sr =>
      { v with
        registrations := Function.update v.registrations sr (some r)
        audio := Function.update v.audio r.stream r.audio }
  | .dereg sr => { v with registrations := Function.update v.registrations sr none }
  | .command name sno cmd _ => v.command name sno cmd
  | .setIdrBr p => { v with asked := Function.update v.asked p true }
  | .setNvrSendStatus p opt => { v with nvrSendStatus := Function.update v.nvrSendStatus p opt }
  | .getBsData p length rateCtlType => { v with hand := some ⟨p, length, rateCtlType, false⟩ }
  | .freeBsData _ => { v with hand := none }
  | .setBsIntraFrame p .wish => { v with asked := Function.update v.asked p false }
  | .setBsIntraFrame _ .oversized => v.record
  | .setBsIntraFrame _ .setIFrame => v
  | .sendVideoFrame _ _ => v.record
  | .video _ _ ret => if ret < 0 then v else { v with hand := none }
  | .sendAudio | .audio _ _ => v

/-- The frame `f` is in hand, and the network recorder wants it and has not had it, by
`NVR_send_status`. -/
def Wanted (v : Account) (f : Hand) : Prop :=
  v.hand = some f ∧ f.recorded = false ∧ v.nvrSendStatus (nvrPlace f.stream) ≠ 0

/-- Which messages may be next.  A stream is registered that is not registered, under the name of its
channel and a number that is not in use; a number is cancelled that is; a command is answered as the
registrations say.  The driver hands out a frame when none is in hand, and gets it back from the stream
that has it.  An intra frame is asked for once after it has been wanted, or in the place of a frame that
is too long for the network recorder, or of a main stream by `set_I_frame`; the recorder is given the
other frames that it wants.  A frame is put on the queue that its stream is registered with, while the
stream is played, and after the recorder has had its turn; and audio on the queue that its stream was
last registered with. -/
def Allows (v : Account) : Message → Prop
  | .reg r sr =>
      0 ≤ sr ∧ v.registrations sr = none ∧ r.name = livename r.stream.1 ∧
        ∀ sr' r', v.registrations sr' = some r' → r'.stream ≠ r.stream
  | .dereg sr => (v.registrations sr).isSome
  | .command name sno cmd ret => ret = v.answer name sno cmd
  | .setIdrBr _ | .setNvrSendStatus _ _ => True
  | .getBsData _ _ _ => v.hand = none
  | .freeBsData p => ∃ f, v.hand = some f ∧ f.stream = p
  | .setBsIntraFrame p .wish => v.asked p = true ∧ ∃ f, v.hand = some f ∧ f.stream = p
  | .setBsIntraFrame p .oversized =>
      ∃ f, v.Wanted f ∧ f.stream = p ∧ Oversized f.length f.rateCtlType
  | .setBsIntraFrame p .setIFrame => p.2 = mainBsNum
  | .sendVideoFrame p size =>
      ∃ f, v.Wanted f ∧ f.stream = p ∧ f.length = size ∧ ¬Oversized f.length f.rateCtlType
  | .sendAudio => v.nvrSendStatus (2, 0) ≠ 0
  | .video p qno _ =>
      v.played p = true ∧ (∃ f, v.hand = some f ∧ f.stream = p ∧ ¬v.Wanted f)
        ∧ ∃ sr r, v.registrations sr = some r ∧ r.stream = p ∧ r.video = qno
  | .audio p qno => v.played p = true ∧ v.audio p = qno

end Account

/-- The monitor of the messages, which keeps the `Account` and allows what is right by it. -/
def monitor : Monitor Account Message := ⟨Account.next, Account.Allows⟩

/-- A command for a name and a number `sno` that nothing is registered under changes nothing in the
account. -/
theorem Account.command_none
    {v : Account} {name : List Char} {sno : Int} {cmd : StreamCmd} (h : v.lookup name sno = none) :
  v.command name sno cmd = v
  := by
  unfold command
  rw [h]
  cases cmd
  all_goals rfl

/-! ### The server and the account -/

variable {o : Calls} {c d : ChNum} {i j : SubNum} {q q' : State} {s s' : Server} {e : Message}
  {p p' : ChNum × SubNum} {f : Priv → Priv}

namespace State

/-- The account of all that has passed in `q`, from the first message on. -/
def account (q : State) : Account := monitor.after .start q.messages

/-- What the stream `p` would be registered with, if it were registered in `q`. -/
def registration (q : State) (p : ChNum × SubNum) : Registration :=
  ⟨p, (q.priv p).name, (q.bs p).qno, (q.bs p).audioQno⟩

@[simp]
theorem account_send : (q.send e).account = q.account.next e := Monitor.after_concat

@[simp]
theorem account_setPriv : (q.setPriv p f).account = q.account := rfl

end State

/-- Behind a number of the map `v` is the registration of the stream that has the number as its
`sr`. -/
def Leads (v : Int → Option Registration) (q : State) : Prop :=
  ∀ sr r, v sr = some r ↔ 0 ≤ sr ∧ (q.bs r.stream).sr = sr ∧ r = q.registration r.stream

/-- The registration of the stream `p`, and its number, are the same in `q` and `q'`. -/
def SameRegistration (p : ChNum × SubNum) (q q' : State) : Prop :=
  (q'.bs p).sr = (q.bs p).sr ∧ q'.registration p = q.registration p

namespace Leads

variable {v : Int → Option Registration} {sr : Int}

theorem congr (h : Leads v q) (hsame : ∀ p, SameRegistration p q q') : Leads v q' := by
  intro sr r
  rw [h sr r, (hsame r.stream).1, (hsame r.stream).2]

/-- The number of a stream `p` that has one leads to what it is registered with. -/
theorem some_of_le (h : Leads v q) (hle : 0 ≤ (q.bs p).sr) :
  v (q.bs p).sr = some (q.registration p)
  := (h _ (q.registration p)).mpr ⟨hle, rfl, rfl⟩

/-- Two streams `p` and `p'` that are registered do not have the same number. -/
theorem eq_of_sr (h : Leads v q) (hle : 0 ≤ (q.bs p).sr) (heq : (q.bs p').sr = (q.bs p).sr) :
  p' = p
  := by
  have hp := h.some_of_le hle
  have hp' := h.some_of_le (p := p') (heq ▸ hle)
  rw [heq, hp] at hp'
  apply (congrArg Registration.stream (Option.some.inj hp')).symm

/-- A number `sr` that no stream has leads to nothing. -/
theorem none_of_fresh (h : Leads v q) (hfresh : ∀ p, (q.bs p).sr ≠ sr) : v sr = none := by
  apply Option.eq_none_iff_forall_ne_some.mpr
  intro r hsome
  apply hfresh r.stream
  apply ((h sr r).mp hsome).2.1

/-- If the stream `p`, which has no number, is given one that no other stream has, then the numbers
still lead to the streams. -/
theorem reg
    (h : Leads v q) (hneg : (q.bs p).sr < 0) (hfresh : ∀ p', p' ≠ p → (q.bs p').sr ≠ (q'.bs p).sr)
    (hle : 0 ≤ (q'.bs p).sr) (hothers : ∀ p', p' ≠ p → SameRegistration p' q q') :
  Leads (Function.update v (q'.bs p).sr (some (q'.registration p))) q'
  := by
  intro sr r
  by_cases hp : r.stream = p
  · by_cases hsr : sr = (q'.bs p).sr
    · rw [hsr, Function.update_self, Option.some_inj, hp]
      constructor
      · rintro rfl
        exact ⟨hle, rfl, rfl⟩
      · rintro ⟨-, -, hr⟩
        apply hr.symm
    · rw [Function.update_of_ne hsr, h sr r, hp]
      apply iff_of_false
      · rintro ⟨hsr', heq, -⟩
        omega
      · rintro ⟨-, heq, -⟩
        apply hsr heq.symm
  · by_cases hsr : sr = (q'.bs p).sr
    · rw [hsr, Function.update_self, Option.some_inj]
      apply iff_of_false
      · intro hr
        apply hp
        rw [← hr]
        rfl
      · rintro ⟨-, heq, -⟩
        rw [(hothers _ hp).1] at heq
        apply hfresh _ hp heq
    · rw [Function.update_of_ne hsr, h sr r, (hothers _ hp).1, (hothers _ hp).2]

/-- If its number is taken from the stream `p`, then the others still lead to their streams. -/
theorem dereg
    (h : Leads v q) (hle : 0 ≤ (q.bs p).sr) (hneg : (q'.bs p).sr < 0)
    (hothers : ∀ p', p' ≠ p → SameRegistration p' q q') :
  Leads (Function.update v (q.bs p).sr none) q'
  := by
  intro sr r
  by_cases hp : r.stream = p
  · have hno : ¬(0 ≤ sr ∧ (q'.bs r.stream).sr = sr ∧ r = q'.registration r.stream) := by
      rw [hp]
      omega
    apply iff_of_false _ hno
    by_cases hsr : sr = (q.bs p).sr
    · rw [hsr, Function.update_self]
      apply (Option.some_ne_none r).symm
    · rw [Function.update_of_ne hsr, h sr r, hp]
      rintro ⟨-, heq, -⟩
      apply hsr heq.symm
  · rw [(hothers _ hp).1, (hothers _ hp).2]
    by_cases hsr : sr = (q.bs p).sr
    · rw [hsr, Function.update_self]
      apply iff_of_false (Option.some_ne_none r).symm
      rintro ⟨-, heq, -⟩
      apply hp
      apply h.eq_of_sr hle heq
    · rw [Function.update_of_ne hsr, h sr r]

end Leads

/-- The stream of `r` has been registered with it under the number `sr` on the way from `q` to `q'`:
the message has passed, the stream has its number, its name and its queues, and nothing else that the
account is about has changed. -/
structure Enrolled (r : Registration) (sr : Int) (q q' : State) : Prop where
  messages : q'.messages = q.messages ++ [.reg r sr]
  number : (q'.bs r.stream).sr = sr
  registration : q'.registration r.stream = r
  others : ∀ p, p ≠ r.stream → q'.bs p = q.bs p ∧ q'.priv p = q.priv p
  marks : ∀ p, (q'.priv p).play = (q.priv p).play
    ∧ (q'.priv p).resetIntraFrame = (q.priv p).resetIntraFrame
  nvrSendStatus : q'.nvrSendStatus = q.nvrSendStatus

/-- `open_live_streaming` of the stream `i` of `c` registers it, if `stream_reg` succeeds. -/
theorem enrolled_openLiveStreaming (hreg : 0 ≤ o.streamReg) :
  Enrolled ⟨(c, i), livename c, o.videoQueue, o.audioQueue⟩ o.streamReg q (q.openLiveStreaming o c i)
  := by
  have hbs : State.bs (q.openLiveStreaming o c i) (c, i) =
      { q.bs (c, i) with qno := o.videoQueue, audioQno := o.audioQueue, sr := o.streamReg } :=
    bs_openLiveStreaming o c i q.server
  have hledger : (q.openLiveStreaming o c i).ledger =
      (q.ledger.send (.reg ⟨(c, i), livename c, o.videoQueue, o.audioQueue⟩ o.streamReg)).setPriv
        (c, i) fun pb => { pb with name := livename c } := by
    change Play.openLiveStreaming o c i q.ledger = _
    rw [Play.openLiveStreaming, if_neg (Int.not_lt.mpr hreg)]
  have hpriv : State.priv (q.openLiveStreaming o c i) =
      (q.setPriv (c, i) fun pb => { pb with name := livename c }).priv := by
    funext p
    rw [State.priv, hledger]
    rfl
  constructor
  · rw [State.messages, hledger]
    rfl
  · rw [hbs]
  · rw [State.registration, hbs, hpriv, State.priv_setPriv]
  · intro p hp
    use (ByLibrary.openLiveStreaming (o := o)).others p.1 p.2 hp
    rw [hpriv, State.priv_setPriv_of_ne hp]
  · intro p
    rw [hpriv]
    constructor
    · apply State.setPriv_same (g := Priv.play)
      exact fun _ => rfl
    · apply State.setPriv_same (g := Priv.resetIntraFrame)
      exact fun _ => rfl
  · funext place
    rw [State.nvrSendStatus, hledger]
    rfl

/-- The number of the stream `p` has been cancelled on the way from `q` to `q'`: the message has
passed, the stream has no number any more, and nothing else that the account is about has changed. -/
structure Cancelled (p : ChNum × SubNum) (q q' : State) : Prop where
  messages : q'.messages = q.messages ++ [.dereg (q.bs p).sr]
  number : (q'.bs p).sr < 0
  audio : (q'.bs p).audioQno = (q.bs p).audioQno
  others : ∀ p', p' ≠ p → q'.bs p' = q.bs p'
  priv : q'.priv = q.priv
  nvrSendStatus : q'.nvrSendStatus = q.nvrSendStatus

/-- `close_live_streaming` of the stream `i` of `c`, which has a number, cancels this if
`stream_dereg` succeeds. -/
theorem cancelled_closeLiveStreaming
    (hdereg : 0 ≤ o.streamDereg) (hle : 0 ≤ (q.server.bs c i).sr) :
  Cancelled (c, i) q (q.closeLiveStreaming o c i)
  := by
  have hbs : State.bs (q.closeLiveStreaming o c i) (c, i) =
      { q.bs (c, i) with sr := -1, qno := -1 } :=
    (bs_closeLiveStreaming hdereg c i q.server).trans (if_pos hle)
  have hledger : (q.closeLiveStreaming o c i).ledger = q.ledger.send (.dereg (q.bs (c, i)).sr) := by
    change Play.closeLiveStreaming c i q.server q.ledger = _
    rw [Play.closeLiveStreaming, if_pos hle]
    rfl
  constructor
  · rw [State.messages, hledger]
    rfl
  · rw [hbs]
    apply Int.negSucc_lt_zero
  · rw [hbs]
  · intro p hp
    apply (ByLibrary.closeLiveStreaming (o := o)).others p.1 p.2 hp
  · funext p
    rw [State.priv, hledger]
    rfl
  · funext place
    rw [State.nvrSendStatus, hledger]
    rfl

theorem Enrolled.account {r : Registration} {sr : Int} (h : Enrolled r sr q q') :
  q'.account = q.account.next (.reg r sr)
  := by
  rw [State.account, h.messages]
  apply Monitor.after_concat

theorem Cancelled.account (h : Cancelled p q q') :
  q'.account = q.account.next (.dereg (q.bs p).sr)
  := by
  rw [State.account, h.messages]
  apply Monitor.after_concat

/-- The monitor has accepted what has passed, the members of the streams are as its account says, and
`hand` is the frame that is in hand. -/
structure Accounted (hand : Option Hand) (q : State) : Prop where
  accepted : monitor.Accepts .start q.messages
  registrations : Leads q.account.registrations q
  name : ∀ p, 0 ≤ (q.bs p).sr → (q.priv p).name = livename p.1
  played : ∀ p, q.account.played p = (q.priv p).play
  asked : ∀ p, q.account.asked p = (q.priv p).resetIntraFrame
  audio : ∀ p, q.account.audio p = (q.bs p).audioQno
  nvrSendStatus : ∀ p, q.account.nvrSendStatus p = q.nvrSendStatus p
  hand : q.account.hand = hand

/-- The numbers `sr`, `qno` and `audioQno` of all streams are the same in `s` and `s'`. -/
def SameNumbers (s s' : Server) : Prop :=
  ∀ c i, (s'.bs c i).sr = (s.bs c i).sr ∧ (s'.bs c i).qno = (s.bs c i).qno
    ∧ (s'.bs c i).audioQno = (s.bs c i).audioQno

/-- If nothing but the stream `i` of channel `c` is changed, and not its numbers, then all numbers are
the same. -/
theorem SameNumbers.of_only
    (honly : Only c i s s') (hsr : (s'.bs c i).sr = (s.bs c i).sr)
    (hqno : (s'.bs c i).qno = (s.bs c i).qno)
    (haudio : (s'.bs c i).audioQno = (s.bs c i).audioQno) :
  SameNumbers s s'
  := by
  intro d j
  by_cases hp : (d, j) = (c, i)
  · obtain ⟨rfl, rfl⟩ := Prod.mk.inj hp
    exact ⟨hsr, hqno, haudio⟩
  · rw [honly.others d j hp]
    exact ⟨rfl, rfl, rfl⟩

theorem SameNumbers.of_bs (h : ∀ c i, s'.bs c i = s.bs c i) : SameNumbers s s' := by
  intro c i
  rw [h c i]
  exact ⟨rfl, rfl, rfl⟩

namespace Accounted

variable {hand hand' : Option Hand}

theorem start (h : s.Started) : Accounted none (.start s) where
  accepted := trivial
  registrations sr r := by
    apply iff_of_false (Option.some_ne_none r).symm
    rintro ⟨hle, hsr, -⟩
    change (s.bs r.stream.1 r.stream.2).sr = sr at hsr
    rw [h.bs] at hsr
    subst hsr
    contradiction
  name p hle := by
    change 0 ≤ (s.bs p.1 p.2).sr at hle
    rw [h.bs] at hle
    contradiction
  played _ := rfl
  asked _ := rfl
  audio p := by
    change -1 = (s.bs p.1 p.2).audioQno
    rw [h.bs]
  nvrSendStatus _ := rfl
  hand := rfl

/-- Of the server only the numbers of the streams, which are the same in `s`, matter to the
account. -/
theorem of_numbers (h : Accounted hand q) (hsame : SameNumbers q.server s) :
  Accounted hand { q with server := s }
  where
  accepted := h.accepted
  registrations := by
    apply h.registrations.congr
    intro p
    obtain ⟨hsr, hqno, haudio⟩ := hsame p.1 p.2
    use hsr
    simp only [State.registration, State.bs, State.priv, hqno, haudio]
  name p hle := by
    apply h.name p
    change 0 ≤ (s.bs p.1 p.2).sr at hle
    rwa [(hsame p.1 p.2).1] at hle
  played := h.played
  asked := h.asked
  audio p := by
    apply (h.audio p).trans
    apply (hsame p.1 p.2).2.2.symm
  nvrSendStatus := h.nvrSendStatus
  hand := h.hand

theorem on {f : Server → Server} (h : Accounted hand q) (hsame : SameNumbers q.server (f q.server)) :
  Accounted hand (q.on f)
  := h.of_numbers hsame

/-! ### Messages -/

/-- The members of a stream are assigned to by `f`, but for those that the account is about. -/
theorem setPriv
    (h : Accounted hand q) (hname : (f (q.priv p)).name = (q.priv p).name)
    (hplay : (f (q.priv p)).play = (q.priv p).play)
    (hasked : (f (q.priv p)).resetIntraFrame = (q.priv p).resetIntraFrame) :
  Accounted hand (q.setPriv p f)
  := by
  have hsame (p' : ChNum × SubNum) :
      ((q.setPriv p f).priv p').name = (q.priv p').name
        ∧ ((q.setPriv p f).priv p').play = (q.priv p').play
        ∧ ((q.setPriv p f).priv p').resetIntraFrame = (q.priv p').resetIntraFrame := by
    by_cases hp : p' = p
    · subst hp
      rw [State.priv_setPriv]
      exact ⟨hname, hplay, hasked⟩
    · rw [State.priv_setPriv_of_ne hp]
      exact ⟨rfl, rfl, rfl⟩
  constructor
  · apply h.accepted
  · apply h.registrations.congr
    intro p'
    use rfl
    rw [State.registration, State.registration, (hsame p').1]
    rfl
  · intro p' hle
    apply (hsame p').1.trans (h.name p' hle)
  · intro p'
    apply (h.played p').trans (hsame p').2.1.symm
  · intro p'
    apply (h.asked p').trans (hsame p').2.2.symm
  · apply h.audio
  · apply h.nvrSendStatus
  · apply h.hand

/-- A message `e` passes that is allowed, and the members of a stream are assigned to as the account
goes on with `e`; the frame in hand may be another one. -/
theorem send
    (h : Accounted hand q) (hallows : q.account.Allows e)
    (hname : (f (q.priv p)).name = (q.priv p).name)
    (hnext : q.account.next e =
      { q.account with
        played := Function.update q.account.played p (f (q.priv p)).play
        asked := Function.update q.account.asked p (f (q.priv p)).resetIntraFrame
        hand := hand' }) :
  Accounted hand' ((q.setPriv p f).send e)
  := by
  have haccount : ((q.setPriv p f).send e).account = q.account.next e := State.account_send
  have hnames (p' : ChNum × SubNum) : ((q.setPriv p f).priv p').name = (q.priv p').name := by
    by_cases hp : p' = p
    · subst hp
      rw [State.priv_setPriv, hname]
    · rw [State.priv_setPriv_of_ne hp]
  constructor
  · apply h.accepted.concat hallows
  · rw [haccount, hnext]
    apply h.registrations.congr
    intro p'
    use rfl
    change Registration.mk p' ((q.setPriv p f).priv p').name _ _ = _
    rw [hnames]
    rfl
  · intro p' hle
    apply (hnames p').trans (h.name p' hle)
  · intro p'
    rw [haccount, hnext]
    apply State.update_priv Priv.play h.played
  · intro p'
    rw [haccount, hnext]
    apply State.update_priv Priv.resetIntraFrame h.asked
  · intro p'
    rw [haccount, hnext]
    apply h.audio p'
  · intro p'
    rw [haccount, hnext]
    apply h.nvrSendStatus p'
  · rw [haccount, hnext]

/-- A message `e` passes that is allowed and changes nothing but the frame in hand. -/
theorem send_hand
    (h : Accounted hand q) (hallows : q.account.Allows e)
    (hnext : q.account.next e = { q.account with hand := hand' }) :
  Accounted hand' (q.send e)
  := by
  have hpriv : q.setPriv (0, 0) id = q := by
    unfold State.setPriv Dealings.setPriv
    rw [id, Function.update_eq_self]
  rw [← hpriv]
  apply h.send (p := (0, 0)) (f := id) hallows rfl
  rw [hnext, id, ← h.played, ← h.asked, Function.update_eq_self, Function.update_eq_self]

/-- A message `e` passes that is allowed and changes nothing in the account. -/
theorem send_same (h : Accounted hand q) (hallows : q.account.Allows e)
    (hnext : q.account.next e = q.account) :
  Accounted hand (q.send e)
  := by
  apply h.send_hand hallows
  rw [hnext, ← h.hand]

/-! ### Opening and closing -/

/-- If a stream is `Enrolled` with `r` under the number `sr`, then the numbers lead to the streams as
the account says. -/
theorem enrolled_leads
    {r : Registration} {sr : Int} (h : Accounted hand q) (hstep : Enrolled r sr q q')
    (hneg : (q.bs r.stream).sr < 0) (hle : 0 ≤ sr) (hfresh : ∀ p, p ≠ r.stream → (q.bs p).sr ≠ sr) :
  Leads (Function.update q.account.registrations sr (some r)) q'
  := by
  have hothers : ∀ p, p ≠ r.stream → SameRegistration p q q' := by
    intro p hp
    obtain ⟨hbs, hpriv⟩ := hstep.others p hp
    use congrArg Bs.sr hbs
    rw [State.registration, State.registration, hbs, hpriv]
  rw [← hstep.number] at hfresh hle
  have hleads := h.registrations.reg hneg hfresh hle hothers
  rwa [hstep.number, hstep.registration] at hleads

/-- The registration of a stream that has no number, under its channel's name and a number `sr` that no
other stream has, keeps the account. -/
theorem enrolled
    {r : Registration} {sr : Int} (h : Accounted hand q) (hstep : Enrolled r sr q q')
    (hname : r.name = livename r.stream.1) (hneg : (q.bs r.stream).sr < 0) (hle : 0 ≤ sr)
    (hfresh : ∀ p, p ≠ r.stream → (q.bs p).sr ≠ sr) :
  Accounted hand q'
  := by
  have haccount : q'.account = q.account.next (.reg r sr) := hstep.account
  have hallows : q.account.Allows (.reg r sr) := by
    refine ⟨hle, ?_, hname, ?_⟩
    · apply h.registrations.none_of_fresh
      intro p
      by_cases hp : p = r.stream
      · subst hp
        omega
      · apply hfresh p hp
    · rintro sr' r' hsome hp
      obtain ⟨hle', hsr', -⟩ := (h.registrations _ _).mp hsome
      rw [hp] at hsr'
      omega
  constructor
  · rw [hstep.messages]
    apply h.accepted.concat
    apply hallows
  · rw [haccount]
    apply h.enrolled_leads hstep hneg hle hfresh
  · intro p hnumber
    by_cases hp : p = r.stream
    · subst hp
      apply (congrArg Registration.name hstep.registration).trans hname
    · obtain ⟨hbs, hpriv⟩ := hstep.others p hp
      rw [hbs] at hnumber
      rw [hpriv]
      apply h.name p hnumber
  · intro p
    rw [haccount]
    apply (h.played p).trans (hstep.marks p).1.symm
  · intro p
    rw [haccount]
    apply (h.asked p).trans (hstep.marks p).2.symm
  · intro p
    rw [haccount]
    change Function.update q.account.audio r.stream r.audio p = (q'.bs p).audioQno
    by_cases hp : p = r.stream
    · subst hp
      rw [Function.update_self]
      apply (congrArg Registration.audio hstep.registration).symm
    · rw [Function.update_of_ne hp, (hstep.others p hp).1]
      apply h.audio p
  · intro p
    rw [haccount, hstep.nvrSendStatus]
    apply h.nvrSendStatus p
  · rw [haccount]
    apply h.hand

/-- The stream `i` of `c`, which has no number, is registered under one that no other stream has. -/
theorem openLiveStreaming
    (h : Accounted hand q) (hneg : (q.server.bs c i).sr < 0) (ho : o.Registers c i q.server) :
  Accounted hand (q.openLiveStreaming o c i)
  := by
  apply h.enrolled (enrolled_openLiveStreaming ho.streamReg) rfl hneg ho.streamReg
  intro p hp
  apply ho.fresh p.1 p.2 hp

/-- The cancellation of the number of the stream `p`, which has one, keeps the account. -/
theorem cancelled
    (h : Accounted hand q) (hstep : Cancelled p q q') (hle : 0 ≤ (q.bs p).sr) :
  Accounted hand q'
  := by
  have haccount : q'.account = q.account.next (.dereg (q.bs p).sr) := hstep.account
  constructor
  · rw [hstep.messages]
    apply h.accepted.concat
    change (q.account.registrations (q.bs p).sr).isSome
    rw [h.registrations.some_of_le hle]
    rfl
  · rw [haccount]
    apply h.registrations.dereg hle hstep.number
    intro p' hp
    use congrArg Bs.sr (hstep.others p' hp)
    rw [State.registration, State.registration, hstep.others p' hp, hstep.priv]
  · intro p' hnumber
    by_cases hp : p' = p
    · subst hp
      exact absurd hnumber (Int.not_le.mpr hstep.number)
    · rw [hstep.others p' hp] at hnumber
      rw [hstep.priv]
      apply h.name p' hnumber
  · intro p'
    rw [haccount, hstep.priv]
    apply h.played p'
  · intro p'
    rw [haccount, hstep.priv]
    apply h.asked p'
  · intro p'
    rw [haccount]
    apply (h.audio p').trans
    by_cases hp : p' = p
    · subst hp
      apply hstep.audio.symm
    · rw [hstep.others p' hp]
  · intro p'
    rw [haccount, hstep.nvrSendStatus]
    apply h.nvrSendStatus p'
  · rw [haccount]
    apply h.hand

/-- The number of the stream `i` of `c` is cancelled, if it has one and `stream_dereg` succeeds. -/
theorem closeLiveStreaming (h : Accounted hand q) (hdereg : 0 ≤ o.streamDereg) :
  Accounted hand (q.closeLiveStreaming o c i)
  := by
  by_cases hle : 0 ≤ (q.server.bs c i).sr
  · apply h.cancelled (cancelled_closeLiveStreaming hdereg hle) hle
  · have hbs := bs_closeLiveStreaming hdereg c i q.server
    rw [if_neg hle] at hbs
    have hledger : q.closeLiveStreaming o c i =
        { q with server := (Rtspd.closeLiveStreaming o c i q.server).2 } := by
      change Extended.mk _ (Play.closeLiveStreaming c i q.server q.ledger) = _
      rw [Play.closeLiveStreaming, if_neg hle]
    rw [hledger]
    apply h.of_numbers
    apply SameNumbers.of_bs
    intro d j
    by_cases hp : (d, j) = (c, i)
    · obtain ⟨rfl, rfl⟩ := Prod.mk.inj hp
      apply hbs
    · apply (ByLibrary.closeLiveStreaming (o := o)).others d j hp

/-! ### Turns -/

theorem reopen
    (h : Accounted hand q) (hneg : (q.server.bs c i).sr < 0)
    (ho : (q.server.bs c i).openFn = true → o.Registers c i q.server) :
  Accounted hand (q.reopen o c i)
  := by
  unfold Extended.reopen
  split
  · next hopen => apply h.openLiveStreaming hneg (ho hopen)
  · apply h

theorem shut (h : Accounted hand q) (hdereg : 0 ≤ o.streamDereg) : Accounted hand (q.shut o c i) := by
  unfold Extended.shut
  split
  · apply h.closeLiveStreaming hdereg
  · apply h

/-- An assignment `f` to the stream `i` of `c`, and not to its numbers, keeps the account. -/
theorem setBs
    {f : Bs → Bs} (h : Accounted hand q)
    (hf : ∀ b, (f b).sr = b.sr ∧ (f b).qno = b.qno ∧ (f b).audioQno = b.audioQno) :
  Accounted hand (q.on fun s => s.setBs c i f)
  := by
  apply h.on
  apply SameNumbers.of_only (Only.setBs f)
  · rw [Server.bs_setBs, (hf _).1]
  · rw [Server.bs_setBs, (hf _).2.1]
  · rw [Server.bs_setBs, (hf _).2.2]

theorem settle (h : Accounted hand q) : Accounted hand (q.on (settle c i)) :=
  h.setBs fun _ => ⟨rfl, rfl, rfl⟩

theorem unhandle (h : Accounted hand q) : Accounted hand (q.on (unhandle c i)) :=
  h.setBs fun _ => ⟨rfl, rfl, rfl⟩

/-- The turn of `START_BS_EVENT`, for a stream `i` of `c` whose start is pending, keeps the
account. -/
theorem startTurn
    (h : Accounted hand q) (hcoherent : Coherent q.server)
    (hevent : (q.server.bs c i).event = .start)
    (ho : ((openBs o c i q.server).2.bs c i).openFn = true → o.Registers c i q.server) :
  Accounted hand (q.startTurn o c i)
  := by
  have hdriver : ByDriver c i q.server (openBs o c i q.server).2 := ByDriver.openBs
  have hdriven : Accounted hand (q.on fun s => (openBs o c i s).2) := by
    apply h.on
    apply SameNumbers.of_only hdriver.toOnly hdriver.sr hdriver.qno
    obtain hties | hties := openBs_ties (o := o) (c := c) (i := i) (s := q.server)
    · apply hties.audioQno
    · apply hties.audioQno
  apply (hdriven.reopen (c := c) (i := i) _ fun hopen => (ho hopen).only hdriver.toOnly).settle
  change ((openBs o c i q.server).2.bs c i).sr < 0
  rw [hdriver.sr]
  apply Int.not_le.mp
  intro hle
  have henabled := ((hcoherent c i).registered hle).1
  rw [(hcoherent c i).pending hevent] at henabled
  contradiction

/-- `UPDATE_BS_EVENT` -/
theorem updateTurn
    (h : Accounted hand q) (hcoherent : Coherent q.server) (hdereg : 0 ≤ o.streamDereg)
    (ho : 0 ≤ (q.server.bs c i).qno →
      (getNumOfUsedVideoFrame (q.server.bs c i).qno q.server).1 = some 0 →
        (q.server.bs c i).openFn = true → o.Registers c i q.server) :
  Accounted hand (q.updateTurn o c i)
  := by
  unfold Extended.updateTurn
  dsimp only
  split
  · next hqno =>
      generalize hcounted :
        (q.on fun s => (getNumOfUsedVideoFrame (q.server.bs c i).qno s).2) = q'
      have hserver : q'.server = (getNumOfUsedVideoFrame (q.server.bs c i).qno q.server).2 := by
        rw [← hcounted]
        rfl
      have hq' : Accounted hand q' := by
        rw [← hcounted]
        apply h.on (SameNumbers.of_bs fun _ _ => rfl)
      split
      · next hcount =>
          apply (reopen (hq'.shut hdereg) _ _).settle
          · rw [Extended.shut_server, hserver]
            apply Coherent.sr_shut (s := (getNumOfUsedVideoFrame _ _).2) hcoherent hdereg
          · rw [Extended.shut_server, hserver, shut_handlers.1]
            intro hopen
            apply (ho hqno hcount hopen).only
            apply ((Alone.getNumOfUsedVideoFrame _).trans Alone.shut).toOnly
      · apply hq'
  · apply h

/-- The end of a stop of the stream `i` of `c` keeps the account, if `stream_dereg` succeeds. -/
theorem finishStop (h : Accounted hand q) (hdereg : 0 ≤ o.streamDereg) :
  Accounted hand (q.finishStop o c i)
  := by
  have hclosed := ((h.shut (c := c) (i := i) hdereg).setBs (c := c) (i := i)
    (f := fun b => { b with closeFn := false }) fun _ => ⟨rfl, rfl, rfl⟩)
  have hstopped := hclosed.on (f := fun s => (closeBs o c i s).2) (by
    apply SameNumbers.of_only (ByDriver.closeBs (o := o)).toOnly closeBs_ties.sr closeBs_ties.qno
      closeBs_ties.audioQno)
  apply hstopped.settle (c := c) (i := i)

/-- A stream `i` of those that a turn stops keeps the account, if `stream_dereg` succeeds. -/
theorem stopStream (h : Accounted hand q) (hdereg : 0 ≤ o.streamDereg) :
  Accounted hand (q.stopStream o c i).2
  := by
  have hunhandled := h.unhandle (c := c) (i := i)
  have hcounted : Accounted hand ((q.on (Rtspd.unhandle c i)).on fun s =>
      (getNumOfUsedVideoFrame (((q.on (Rtspd.unhandle c i)).server.bs c i).qno) s).2) :=
    hunhandled.on (SameNumbers.of_bs fun _ _ => rfl)
  unfold Extended.stopStream
  dsimp only
  split
  · split
    · apply hcounted.finishStop hdereg
    · apply hcounted
  · split
    · apply hunhandled.finishStop hdereg
    · apply hunhandled.settle

/-- `STOP_BS_EVENT` -/
theorem stopStreams
    {o : SubNum → Calls} (is : List SubNum) (h : Accounted hand q)
    (hdereg : ∀ i, 0 ≤ (o i).streamDereg) :
  Accounted hand (q.stopStreams o c is)
  := by
  induction is generalizing q with
  | nil => apply h
  | cons i is ih =>
      rw [Extended.stopStreams]
      dsimp only
      split
      · apply ih (h.stopStream (hdereg i))
      · apply h.stopStream (hdereg i)

/-- The turn of the stream `i` of `c` keeps the account, if what it opens is registered under a
number that no other stream has. -/
theorem turn
    {o : SubNum → Calls} (h : Accounted hand q) (hcoherent : Coherent q.server)
    (hdereg : ∀ i, 0 ≤ (o i).streamDereg)
    (ho : OpensLive (o i) c i q.server → (o i).Registers c i q.server) :
  Accounted hand (q.turn o c i)
  := by
  unfold Extended.turn
  split
  · apply h
  · next hevent =>
      have hphase : (q.server.bs c i).event = q.server.bsEvent := not_not.mp hevent
      split
      · apply h
      · next hstart =>
          apply h.startTurn hcoherent (hphase.trans hstart)
          intro hopen
          apply ho ⟨hphase, Or.inl ⟨hstart, hopen⟩⟩
      · next hupdate =>
          apply h.updateTurn hcoherent (hdereg i)
          intro hqno hcount hopen
          apply ho ⟨hphase, Or.inr ⟨hupdate, hqno, hcount, hopen⟩⟩
      · apply h.stopStreams _ hdereg

/-! ### Commands, frames and audio -/

variable {name : List Char} {sno : Int} {cmd : StreamCmd}

/-- The stream that `find_file_sr` finds is the one that is registered under the name and the
number. -/
theorem find_eq_lookup (h : Accounted hand q) (hle : 0 ≤ sno) (name : List Char) :
  (streams.find? fun p => (q.bs p).sr = sno ∧ (q.priv p).name = name) = q.account.lookup name sno
  := by
  have hfound (p : ChNum × SubNum) (hsr : (q.bs p).sr = sno) (hname : (q.priv p).name = name) :
      q.account.lookup name sno = some p := by
    have hp := (h.registrations sno (q.registration p)).mpr ⟨hle, hsr, rfl⟩
    rw [Account.lookup, hp, Option.bind_some]
    apply if_pos hname
  cases hfind : streams.find? fun p => (q.bs p).sr = sno ∧ (q.priv p).name = name with
  | some p =>
      have hown := List.find?_some hfind
      obtain ⟨hsr, hname⟩ := of_decide_eq_true hown
      apply (hfound p hsr hname).symm
  | none =>
      symm
      apply Option.eq_none_iff_forall_ne_some.mpr
      intro p hsome
      obtain ⟨r, hr, hsome⟩ := Option.bind_eq_some_iff.mp hsome
      split at hsome
      · next hname =>
          obtain rfl := Option.some.inj hsome
          obtain ⟨-, hsr, hreg⟩ := (h.registrations sno r).mp hr
          have hnot := List.find?_eq_none.mp hfind r.stream (mem_streams r.stream)
          apply hnot
          apply decide_eq_true
          use hsr
          rw [hreg] at hname
          apply hname
      · contradiction

/-- A command for a name and a number, as `cmd_cb` answers it, keeps the account. -/
theorem command (h : Accounted hand q) (hconnected : Connected q.server) (hle : 0 ≤ sno) :
  Accounted hand ((cmdCb name sno cmd q).2.send (.command name sno cmd (cmdCb name sno cmd q).1))
  := by
  have hfind := h.find_eq_lookup hle name
  cases hlookup : q.account.lookup name sno with
  | none =>
      rw [hlookup] at hfind
      have hsame : q.account.command name sno cmd = q.account := Account.command_none hlookup
      have hstate : (cmdCb name sno cmd q).2 = q
          ∧ (cmdCb name sno cmd q).1 = q.account.answer name sno cmd := by
        unfold cmdCb findFileSr
        rw [hfind]
        cases cmd
        all_goals simp [Account.answer, hlookup]
      rw [hstate.1]
      apply h.send_same (e := .command name sno cmd _) hstate.2 hsame
  | some p =>
      rw [hlookup] at hfind
      have hqno : (q.bs p).qno ≥ 0 := by
        obtain ⟨r, hr, hsome⟩ := Option.bind_eq_some_iff.mp hlookup
        split at hsome
        · obtain rfl := Option.some.inj hsome
          obtain ⟨hsr, hown, -⟩ := (h.registrations sno r).mp hr
          rw [← hown] at hsr
          obtain hreg | ⟨-, -, hno⟩ := (hconnected r.stream.1 r.stream.2).numbers
          · apply hreg.1
          · exact absurd hno (Int.not_lt.mpr hsr)
        · contradiction
      cases cmd with
      | openSr | pause | other => apply h.send_same (e := .command name sno _ _) rfl rfl
      | play =>
          have hcmd : cmdCb name sno .play q = (0, q.setPriv p fun pb =>
              { pb with resetIntraFrame := true, play := true }) := by
            unfold cmdCb findFileSr
            rw [hfind]
            apply congrArg (Prod.mk 0)
            apply (if_pos hqno).trans
            apply State.setPriv_setPriv
          rw [hcmd]
          apply h.send
          · change (0 : Int) = if (q.account.lookup name sno).isSome then 0 else -1
            rw [hlookup]
            rfl
          · rfl
          · simp only [Account.next, Account.command, hlookup]
            rw [h.hand]
      | teardown =>
          have hcmd : cmdCb name sno .teardown q = (0, q.setPriv p fun pb =>
              { pb with resetIntraFrame := true, play := false, timed := false }) := by
            unfold cmdCb findFileSr
            rw [hfind]
            dsimp only
            rw [State.setPriv_setPriv]
          rw [hcmd]
          apply h.send
          · change (0 : Int) = if (q.account.lookup name sno).isSome then 0 else -1
            rw [hlookup]
            rfl
          · rfl
          · simp only [Account.next, Account.command, hlookup]
            rw [h.hand]

/-- `set_IDR_BR` -/
theorem setIdrBr (h : Accounted hand q) (p : ChNum × SubNum) : Accounted hand (setIdrBr p q) := by
  apply h.send
  · trivial
  · rfl
  · change _ = { q.account with
      played := Function.update q.account.played p (q.priv p).play
      asked := Function.update q.account.asked p true
      hand := hand }
    rw [← h.played, Function.update_eq_self, ← h.hand]
    rfl

/-- `set_nvr_send_status` -/
theorem setNvrSendStatus (h : Accounted hand q) (ch : Fin 3) (i : SubNum) (opt : Int) :
  Accounted hand (setNvrSendStatus ch i opt q)
  := by
  have hset : Accounted hand ((q.setNvr (ch, i) opt).send (.setNvrSendStatus (ch, i) opt)) := by
    have haccount : ((q.setNvr (ch, i) opt).send (.setNvrSendStatus (ch, i) opt)).account =
        q.account.next (.setNvrSendStatus (ch, i) opt) := State.account_send
    constructor
    · apply h.accepted.concat (e := .setNvrSendStatus (ch, i) opt)
      trivial
    · rw [haccount]
      apply h.registrations
    · apply h.name
    · rw [haccount]
      apply h.played
    · rw [haccount]
      apply h.asked
    · rw [haccount]
      apply h.audio
    · intro p
      rw [haccount]
      have hsame : q.account.nvrSendStatus = q.ledger.nvrSendStatus := funext h.nvrSendStatus
      change Function.update q.account.nvrSendStatus (ch, i) opt p = _
      rw [hsame]
      rfl
    · rw [haccount]
      apply h.hand
  unfold Play.setNvrSendStatus
  dsimp only
  split
  · apply hset.setIdrBr
  · apply hset

/-- The driver hands out a frame of the stream `p`, which is in hand from then on. -/
theorem getBsData (h : Accounted none q) (p : ChNum × SubNum) (length rateCtlType : Int) :
  Accounted (some ⟨p, length, rateCtlType, false⟩) (q.send (.getBsData p length rateCtlType))
  := h.send_hand h.hand rfl

/-- The driver gets the frame in hand, of the stream `p`, back. -/
theorem freeBsData {f : Hand} (h : Accounted (some f) q) (hstream : f.stream = p) :
  Accounted none (q.send (.freeBsData p))
  := h.send_hand ⟨f, h.hand, hstream⟩ rfl

/-- The driver is asked for an intra frame if one is wished for the stream `p` of the frame in
hand. -/
theorem serveIntra {f : Hand} (h : Accounted (some f) q) (hstream : f.stream = p) :
  Accounted (some f) (serveIntra p q)
  := by
  unfold Play.serveIntra
  dsimp only
  split
  · next hasked =>
      apply h.send
      · exact ⟨(h.asked p).trans hasked, f, h.hand, hstream⟩
      · rfl
      · change _ = { q.account with
          played := Function.update q.account.played p (q.priv p).play
          asked := Function.update q.account.asked p false
          hand := some f }
        rw [← h.played, Function.update_eq_self, ← h.hand]
        rfl
  · next hasked =>
      apply h.setPriv
      · rfl
      · rfl
      · apply (Bool.eq_false_iff.mpr hasked).symm

/-- The network recorder has its turn with the frame in hand, of the stream `p`, and does not want
it any more. -/
theorem serveNvr {length rateCtlType : Int}
    (h : Accounted (some ⟨p, length, rateCtlType, false⟩) q) :
  ∃ f : Hand, f.stream = p ∧ Accounted (some f) (serveNvr p length rateCtlType q)
    ∧ ¬(serveNvr p length rateCtlType q).account.Wanted f
  := by
  unfold Play.serveNvr
  split
  · next hon =>
      rw [← h.nvrSendStatus] at hon
      use ⟨p, length, rateCtlType, true⟩, rfl
      have hrecord : q.account.record =
          { q.account with hand := some ⟨p, length, rateCtlType, true⟩ } := by
        rw [Account.record, h.hand]
        rfl
      split
      · next hoversized =>
          use h.send_hand ⟨_, ⟨h.hand, rfl, hon⟩, rfl, hoversized⟩ hrecord
          rintro ⟨-, hrecorded, -⟩
          contradiction
      · next hoversized =>
          use h.send_hand ⟨_, ⟨h.hand, rfl, hon⟩, rfl, rfl, hoversized⟩ hrecord
          rintro ⟨-, hrecorded, -⟩
          contradiction
  · next hoff =>
      rw [← h.nvrSendStatus] at hoff
      use ⟨p, length, rateCtlType, false⟩, rfl, h
      rintro ⟨-, -, hon⟩
      apply hoff hon

/-- A frame in hand of the stream `p` that the network recorder does not want is put on the queue of
its stream. -/
theorem mediaEnqueue {f : Hand} (fi : FrameInfo) (ret : Int)
    (h : Accounted (some f) q) (hstream : f.stream = p) (hwanted : ¬q.account.Wanted f)
    (hplay : (q.priv p).play = true) (hle : 0 ≤ (q.bs p).sr) :
  Accounted (if ret < 0 then some f else none) (mediaEnqueue p (q.bs p).qno ret fi q)
  := by
  have hput := h.on (f := fun s => { s with
    frameInfo := Function.update s.frameInfo (q.bs p).qno fi }) (SameNumbers.of_bs fun _ _ => rfl)
  apply hput.send_hand (e := .video p (q.bs p).qno ret)
  · refine ⟨(h.played p).trans hplay, ⟨f, h.hand, hstream, hwanted⟩, ?_⟩
    exact ⟨_, _, h.registrations.some_of_le hle, rfl, rfl⟩
  · change (if ret < 0 then q.account else { q.account with hand := none }) = _
    split
    · rw [← h.hand]
      rfl
    · rfl

/-- `write_rtp_frame`, for the frame in hand of a stream `i` of `c` with a handler that writes its
frames, gives the frame back or puts it on the queue. -/
theorem writeRtpFrame
    {data : QueueGet} {key rateCtlType enqueue : Int}
    (h : Accounted (some ⟨(c, i), data.length, rateCtlType, false⟩) q)
    (hconnected : Connected q.server) (hwrite : (q.server.bs c i).writeFn = true)
    (hframe : writeRtpFrame c i data key rateCtlType enqueue q = some q') :
  Accounted none q'
  := by
  have hreg := (hconnected c i).registered_of_write hwrite
  obtain ⟨f, hstream, hserved, hwanted⟩ := (h.serveIntra rfl).serveNvr
  obtain ⟨-, rfl⟩ | ⟨-, rfl | ⟨hplay, fi, hput⟩⟩ := writeRtpFrame_cases hframe
  · apply h.freeBsData rfl
  · apply hserved.freeBsData hstream
  · dsimp only at hput
    generalize hu : Play.serveNvr (c, i) data.length rateCtlType (Play.serveIntra (c, i) q) = u
      at hserved hwanted hput
    have hserver : u.server = q.server := by
      rw [← hu, serveNvr_server, serveIntra_server]
    have hmarked : (u.priv (c, i)).play = true := by
      rw [← hu, serveNvr_priv, serveIntra_play, hplay]
    have hqno : (u.bs (c, i)).qno = (q.server.bs c i).qno := by
      rw [State.bs, hserver]
    have hle : 0 ≤ (u.bs (c, i)).sr := by
      rw [State.bs, hserver]
      apply hreg.2
    have hqueued := hserved.mediaEnqueue fi enqueue hstream hwanted hmarked hle
    rw [hqno] at hqueued
    rw [hput]
    split
    · next hrefused =>
        rw [if_pos hrefused] at hqueued
        apply hqueued.freeBsData hstream
    · next haccepted =>
        rw [if_neg haccepted] at hqueued
        apply hqueued

/-- The loop of `do_audio_proc` over the streams keeps the account, whatever they make of the
block. -/
theorem audioStreams (h : Accounted hand q) (g711 : ChNum → Bool) :
  Accounted hand (audioStreams g711 q)
  := by
  unfold Play.audioStreams
  generalize List.finRange 2 = cs
  induction cs generalizing q with
  | nil => apply h
  | cons c cs ih =>
      rw [List.foldl_cons]
      apply ih
      dsimp only
      split
      · next hplay =>
          apply h.send_same _ rfl
          exact ⟨(h.played _).trans hplay.1, h.audio _⟩
      · apply h

/-- `do_audio_proc` -/
theorem doAudioProc (h : Accounted hand q) (g711 : ChNum → Bool) :
  Accounted hand (doAudioProc g711 q)
  := by
  unfold Play.doAudioProc
  split
  · next hon =>
      apply (h.send_same _ rfl).audioStreams
      apply ((h.nvrSendStatus _).symm ▸ hon :)
  · apply h.audioStreams

end Accounted

end Rtspd.Play
