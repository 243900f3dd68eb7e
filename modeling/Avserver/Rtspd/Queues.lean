import Avserver.Rtspd.Extended
import Avserver.Rtspd.Handlers
import Avserver.Rtspd.Pools

/-!
# The queues of the streaming library

`open_live_streaming` allocates a queue for the video and one for the audio of a stream, and
registers the stream with both.  The queues are released by `stream_dereg`, and by nothing else:
when the registration fails they stay allocated, without anything that refers to them, and when
the stream is opened anew two more are allocated.

The state of the server is extended by what the library holds for each stream; what the server
does is as before (`step_server`).  In a run in which registrations are released when they are
asked to be, each queue that is held is one of a registered stream, and released before another is
allocated for the same stream, exactly if `stream_reg` succeeds whenever a queue has been allocated
(`queues_released_iff`).
-/

namespace Rtspd.Queues

open Library

/-! ### The library -/

/-- The queues that are allocated for a stream and not released, those among them that are
registered under its `sr`, and whether a queue has been allocated while another was held. -/
structure Held where
  queues : List Int
  registered : List Int
  twice : Bool
deriving DecidableEq

/-- The queues that the calls `o` allocate when a stream is opened, those of them that are
numbers. -/
def allocated (o : Calls) : List Int := [o.videoQueue, o.audioQueue].filter fun qno => 0 ≤ qno

/-- The queues of `o` are allocated, and registered if `stream_reg` succeeds; whether some were held
already is noted in `twice`. -/
def Held.register (o : Calls) (h : Held) : Held where
  queues := h.queues ++ allocated o
  registered := if o.streamReg < 0 then [] else allocated o
  twice := h.twice || (!h.queues.isEmpty && !(allocated o).isEmpty)

/-- `stream_dereg` releases the queues that are registered in `h`, and leaves the others
allocated. -/
def Held.dereg (h : Held) : Held :=
  { h with queues := h.queues.filter fun qno => qno ∉ h.registered, registered := [] }

/-- What the streaming library holds for each stream, by its channel and its number; this is a
ledger beside the `Server`. -/
abbrev Holdings : Type := ChNum × SubNum → Held

/-- `open_live_streaming` of the stream `i` of `c`: two queues are allocated, and registered if
`stream_reg` succeeds. -/
def openLiveStreaming (o : Calls) (c : ChNum) (i : SubNum) (held : Holdings) : Holdings :=
  Function.update held (c, i) ((held (c, i)).register o)

/-- `close_live_streaming` of the stream `i` of `c`: `stream_dereg` is called if the stream has a
registration. -/
def closeLiveStreaming (o : Calls) (c : ChNum) (i : SubNum) (s : Server) (held : Holdings) :
    Holdings :=
  if (s.bs c i).sr ≥ 0 ∧ o.streamDereg ≥ 0 then Function.update held (c, i) (held (c, i)).dereg
  else held

instance : Ledger Holdings where
  opened o c i _ := openLiveStreaming o c i
  closed := closeLiveStreaming

/-- The server, and in its `ledger` what the library holds for each stream. -/
abbrev State : Type := Extended Holdings

/-- The server `s` before its first step, when the library holds nothing for any stream. -/
def State.start (s : Server) : State := ⟨s, fun _ => ⟨[], [], false⟩⟩

/-- A step of the server, with what its calls of the library change about the queues. -/
def step (q : State) (input : ServerInput) : Option State := Extended.step q input

variable {o : Calls} {c d : ChNum} {i j : SubNum} {q q' : State}

/-! ### What is held -/

/-- Every queue that is held for a stream is registered under its `sr`, and none has been allocated
while another was held. -/
structure Held.Kept (h : Held) (sr : Int) : Prop where
  registered : ∀ qno ∈ h.queues, 0 ≤ sr ∧ qno ∈ h.registered
  once : h.twice = false

/-- For every stream `i` of every channel `c`, the library holds no queue but those of its
registration: `Held.Kept`. -/
def Released (q : State) : Prop := ∀ c i, (q.ledger (c, i)).Kept (q.server.bs c i).sr

/-- `stream_reg` succeeds, or there is no queue among those of `o` to be registered. -/
def Registers (o : Calls) : Prop := o.streamReg < 0 → o.videoQueue < 0 ∧ o.audioQueue < 0

/-- If the step opens a stream, then `stream_reg` registers its queues: `Registers`. -/
def RegistersOpened (q : State) : ServerInput → Prop
  | .turn c i o => OpensLive (o i) c i q.server → Registers (o i)
  | _ => True

variable {h : Held} {sr : Int}

theorem allocated_eq_nil_iff : allocated o = [] ↔ o.videoQueue < 0 ∧ o.audioQueue < 0 := by
  rw [allocated, List.filter_eq_nil_iff]
  simp

/-- When nothing is held, `Held.Kept` is satisfied by every registration `sr`. -/
theorem Held.Kept.of_nil (hnil : h.queues = []) (honce : h.twice = false) : h.Kept sr := by
  constructor
  · rw [hnil]
    nofun
  · apply honce

/-- If the library holds only what is registered, then it holds nothing for a stream whose `sr` is
negative. -/
theorem Held.Kept.queues_eq_nil (hkept : h.Kept sr) (hsr : sr < 0) : h.queues = [] := by
  apply List.eq_nil_iff_forall_not_mem.mpr
  intro qno hmem
  apply Int.not_le.mpr hsr (hkept.registered qno hmem).1

/-- If the library holds only what is registered, then it holds nothing after the registration has
been released. -/
theorem Held.Kept.dereg_queues (hkept : h.Kept sr) : h.dereg.queues = [] := by
  rw [dereg, List.filter_eq_nil_iff]
  intro qno hmem
  simp [(hkept.registered qno hmem).2]

/-- When nothing was held in `h`, what is allocated is registered exactly if `stream_reg` succeeds
when it has to. -/
theorem Held.register_kept_iff (hnil : h.queues = []) (honce : h.twice = false) :
  (h.register o).Kept o.streamReg ↔ Registers o
  := by
  constructor
  · intro hkept hfail
    apply allocated_eq_nil_iff.mp
    have hqueues := hkept.queues_eq_nil hfail
    rwa [register, hnil] at hqueues
  · intro hreg
    constructor
    · intro qno hmem
      rw [register, hnil, List.nil_append] at hmem
      by_cases hfail : o.streamReg < 0
      · rw [allocated_eq_nil_iff.mpr (hreg hfail)] at hmem
        contradiction
      · rw [register, if_neg hfail]
        use Int.not_lt.mp hfail
    · simp [register, hnil, honce]

/-- From `q` to `q'`, the stream `i` of `c` and what is held for it are all that is changed. -/
structure Touches (c : ChNum) (i : SubNum) (q q' : State) : Prop where
  server : Only c i q.server q'.server
  held : ∀ p, p ≠ (c, i) → q'.ledger p = q.ledger p

theorem Touches.on {f : Server → Server} (h : Only c i q.server (f q.server)) :
  Touches c i q (q.on f)
  := ⟨h, fun _ _ => rfl⟩

/-- When only the stream `i` of `c` is changed from `q` to `q'`, that one decides whether what is
held stays released. -/
theorem Touches.released_iff (h : Touches c i q q') (hq : Released q) :
  Released q' ↔ (q'.ledger (c, i)).Kept (q'.server.bs c i).sr
  := by
  constructor
  · intro hq'
    apply hq' c i
  · intro hown d j
    by_cases hp : (d, j) = (c, i)
    · obtain ⟨rfl, rfl⟩ := Prod.mk.inj hp
      apply hown
    · rw [h.server.others d j hp, h.held _ hp]
      apply hq d j

/-! ### Opening and closing -/

theorem reopen_held_of_ne {p : ChNum × SubNum} (hp : p ≠ (c, i)) :
  (Extended.reopen o c i q).ledger p = q.ledger p
  := by
  unfold Extended.reopen
  split
  · apply Function.update_of_ne hp
  · rfl

theorem shut_held_of_ne {p : ChNum × SubNum} (hp : p ≠ (c, i)) :
  (Extended.shut o c i q).ledger p = q.ledger p
  := by
  unfold Extended.shut
  split
  · change closeLiveStreaming o c i q.server q.ledger p = q.ledger p
    unfold closeLiveStreaming
    split
    · apply Function.update_of_ne hp
    · rfl
  · rfl

/-- Nothing is held for the stream `i` of `c` when it has been closed, if `stream_dereg`
succeeds. -/
theorem shut_held
    (hdereg : 0 ≤ o.streamDereg) (hkept : (q.ledger (c, i)).Kept (q.server.bs c i).sr)
    (hclose : 0 ≤ (q.server.bs c i).sr → (q.server.bs c i).closeFn = true) :
  ((Extended.shut o c i q).ledger (c, i)).queues = []
    ∧ ((Extended.shut o c i q).ledger (c, i)).twice = false
  := by
  unfold Extended.shut
  split
  · change (closeLiveStreaming o c i q.server q.ledger (c, i)).queues = []
      ∧ (closeLiveStreaming o c i q.server q.ledger (c, i)).twice = false
    unfold closeLiveStreaming
    split
    · rw [Function.update_self]
      exact ⟨hkept.dereg_queues, hkept.once⟩
    · next hsr =>
        have hneg : (q.server.bs c i).sr < 0 := by omega
        exact ⟨hkept.queues_eq_nil hneg, hkept.once⟩
  · next hnone =>
      have hneg : (q.server.bs c i).sr < 0 := Int.not_le.mp fun hle => hnone (hclose hle)
      exact ⟨hkept.queues_eq_nil hneg, hkept.once⟩

/-- A stream `i` of `c` for which nothing is held may be opened exactly if it is registered then, or
has no handler that opens it. -/
theorem reopen_kept_iff
    (hnil : (q.ledger (c, i)).queues = []) (honce : (q.ledger (c, i)).twice = false) :
  ((Extended.reopen o c i q).ledger (c, i)).Kept ((Extended.reopen o c i q).server.bs c i).sr
    ↔ ((q.server.bs c i).openFn = true → Registers o)
  := by
  unfold Extended.reopen
  split
  · next hopen =>
      have hheld : (Extended.openLiveStreaming o c i q).ledger (c, i) =
          (q.ledger (c, i)).register o
        := Function.update_self _ _ _
      have hsr : ((Extended.openLiveStreaming o c i q).server.bs c i).sr = o.streamReg
        := by
        change ((Rtspd.openLiveStreaming o c i q.server).2.bs c i).sr = o.streamReg
        rw [bs_openLiveStreaming]
      rw [hheld, hsr, Held.register_kept_iff hnil honce]
      simp [hopen]
  · next hopen =>
      apply iff_of_true (.of_nil hnil honce)
      intro htrue
      contradiction

/-! ### Turns -/

theorem sr_settle (c : ChNum) (i : SubNum) (s : Server) :
  ((settle c i s).bs c i).sr = (s.bs c i).sr
  := by rw [settle, Server.bs_setBs]

/-- The turn of `START_BS_EVENT`, for a stream whose start is pending and for which nothing is held,
keeps `Released` exactly if the stream is registered or not opened. -/
theorem startTurn_released_iff
    (hq : Released q) (hcoherent : Coherent q.server)
    (hevent : (q.server.bs c i).event = .start) :
  Released (Extended.startTurn o c i q)
    ↔ (((openBs o c i q.server).2.bs c i).openFn = true → Registers o)
  := by
  have hneg : (q.server.bs c i).sr < 0
    := by
    apply Int.not_le.mp
    intro hle
    have henabled := ((hcoherent c i).registered hle).1
    rw [(hcoherent c i).pending hevent] at henabled
    contradiction
  have htouches : Touches c i q (Extended.startTurn o c i q)
    := by
    constructor
    · rw [Extended.startTurn_server]
      apply Alone.startTurn.toOnly
    · intro p hp
      apply reopen_held_of_ne hp
  rw [htouches.released_iff hq, Extended.startTurn, Extended.on, sr_settle]
  apply reopen_kept_iff
  · apply (hq c i).queues_eq_nil hneg
  · apply (hq c i).once

/-- The turn of `UPDATE_BS_EVENT` releases what is held before the stream is opened anew, and keeps
`Released` exactly if this registers it. -/
theorem updateTurn_released_iff
    (hq : Released q) (hcoherent : Coherent q.server) (hdereg : 0 ≤ o.streamDereg) :
  Released (Extended.updateTurn o c i q)
    ↔ (0 ≤ (q.server.bs c i).qno →
        (getNumOfUsedVideoFrame (q.server.bs c i).qno q.server).1 = some 0 →
          (q.server.bs c i).openFn = true → Registers o)
  := by
  have honly : Only c i q.server (Extended.updateTurn o c i q).server
    := by
    rw [Extended.updateTurn_server]
    apply Alone.updateTurn.toOnly
  have hcounted : Released (q.on fun s => (getNumOfUsedVideoFrame (q.server.bs c i).qno s).2) := hq
  unfold Extended.updateTurn at honly ⊢
  dsimp only at honly ⊢
  split
  · next hqno =>
      split
      · next hcount =>
          rw [if_pos hqno, if_pos hcount] at honly
          obtain ⟨hnil, honce⟩ := shut_held hdereg (hcounted c i) fun hle =>
            ((hcoherent c i).registered hle).2
          have hopen := (shut_handlers (o := o) (c := c) (i := i)
            (s := (getNumOfUsedVideoFrame (q.server.bs c i).qno q.server).2)).1
          have htouches := Touches.mk honly fun p hp =>
            (reopen_held_of_ne hp).trans (shut_held_of_ne hp)
          rw [htouches.released_iff hq, Extended.on, sr_settle]
          apply (reopen_kept_iff hnil honce).trans
          rw [Extended.shut_server]
          simp only [Extended.on, hopen]
          exact ⟨fun hreg _ _ => hreg, fun hreg => hreg hqno hcount⟩
      · next hcount => exact iff_of_true hcounted fun _ hzero => absurd hzero hcount
  · next hqno => exact iff_of_true hq fun hle => absurd hle hqno

/-- A stream `i` of `c` that is closed and stopped keeps `Released`, if `stream_dereg` succeeds. -/
theorem finishStop_released
    (hq : Released q) (hdereg : 0 ≤ o.streamDereg)
    (hclose : 0 ≤ (q.server.bs c i).sr → (q.server.bs c i).closeFn = true) :
  Released (Extended.finishStop o c i q)
  := by
  have htouches : Touches c i q (Extended.finishStop o c i q)
    := by
    constructor
    · rw [Extended.finishStop_server]
      apply Alone.finishStop.toOnly
    · intro p hp
      apply shut_held_of_ne hp
  apply (htouches.released_iff hq).mpr
  obtain ⟨hnil, honce⟩ := shut_held hdereg (hq c i) hclose
  apply Held.Kept.of_nil hnil honce

/-- A stream `i` of those that a turn stops keeps `Released`, if `stream_dereg` succeeds. -/
theorem stopStream_released
    (hq : Released q) (hcoherent : Coherent q.server) (hdereg : 0 ≤ o.streamDereg) :
  Released (Extended.stopStream o c i q).2
  := by
  have hunhandled : Released (q.on (unhandle c i))
    := by
    have honly : Only c i q.server (unhandle c i q.server) := Only.setBs _
    apply (Touches.on honly).released_iff hq |>.mpr
    rw [Extended.on, bs_unhandle]
    apply hq c i
  have hclose (hle : 0 ≤ ((unhandle c i q.server).bs c i).sr) :
      ((unhandle c i q.server).bs c i).closeFn = true
    := (hcoherent.unhandle c i).registered hle |>.2
  unfold Extended.stopStream
  dsimp only
  split
  · split
    · apply finishStop_released _ hdereg hclose
      apply hunhandled
    · apply hunhandled
  · split
    · apply finishStop_released hunhandled hdereg hclose
    · have honly : Only c i (unhandle c i q.server) (settle c i (unhandle c i q.server))
        := Only.setBs _
      apply (Touches.on (q := q.on (unhandle c i)) honly).released_iff hunhandled |>.mpr
      rw [Extended.on, sr_settle]
      apply hunhandled c i

/-- `STOP_BS_EVENT` -/
theorem stopStreams_released
    {o : SubNum → Calls} (is : List SubNum) (hq : Released q) (hcoherent : Coherent q.server)
    (hdereg : ∀ i, 0 ≤ (o i).streamDereg) :
  Released (Extended.stopStreams o c is q)
  := by
  induction is generalizing q with
  | nil => apply hq
  | cons i is ih =>
      have hstop := stopStream_released (c := c) (i := i) hq hcoherent (hdereg i)
      have hnext : Coherent (Extended.stopStream (o i) c i q).2.server
        := by
        rw [Extended.stopStream_server.2]
        apply hcoherent.stopStream (hdereg i)
      rw [Extended.stopStreams]
      dsimp only
      split
      · apply ih hstop hnext
      · apply hstop

/-- The turn of the stream `i` of `c` keeps `Released` exactly if the stream that it opens is
registered. -/
theorem turn_released_iff
    {o : SubNum → Calls} (hq : Released q) (hcoherent : Coherent q.server)
    (hdereg : ∀ i, 0 ≤ (o i).streamDereg) :
  Released (Extended.turn o c i q) ↔ (OpensLive (o i) c i q.server → Registers (o i))
  := by
  unfold Extended.turn
  split
  · next hevent => exact iff_of_true hq fun hopens => absurd hopens.1 hevent
  · next hevent =>
      have hphase : (q.server.bs c i).event = q.server.bsEvent := not_not.mp hevent
      cases hkind : q.server.bsEvent with
      | none =>
          apply iff_of_true hq
          rintro ⟨-, ⟨hstart, -⟩ | ⟨hupdate, -⟩⟩
          · rw [hkind] at hstart
            contradiction
          · rw [hkind] at hupdate
            contradiction
      | start =>
          rw [startTurn_released_iff hq hcoherent (hphase.trans hkind)]
          simp [OpensLive, hphase, hkind]
      | update =>
          rw [updateTurn_released_iff hq hcoherent (hdereg i)]
          simp [OpensLive, hphase, hkind]
      | stop =>
          apply iff_of_true (stopStreams_released _ hq hcoherent hdereg)
          rintro ⟨-, ⟨hstart, -⟩ | ⟨hupdate, -⟩⟩
          · rw [hkind] at hstart
            contradiction
          · rw [hkind] at hupdate
            contradiction

/-! ### Runs -/

variable {input : ServerInput} {inputs : List ServerInput} {s s' : Server}

/-- A step that is not a turn leaves the registration `sr` of every stream as it is. -/
theorem serverStep_sr
    (hstep : serverStep s input = some s') (hturn : ∀ c i o, input ≠ .turn c i o) (c : ChNum)
    (i : SubNum) :
  (s'.bs c i).sr = (s.bs c i).sr
  := by
  obtain rfl | ⟨d, j, e, -, rfl⟩ | ⟨d, j, o, rfl, -⟩ | ⟨e, b, -, rfl⟩ | ⟨d, rfl⟩ |
    ⟨d, j, vf, htake⟩ | ⟨qno, key, hput⟩ := serverStep_cases hstep
  · rfl
  · change ((s.setBs d j fun b => { b with event := e }).bs c i).sr = (s.bs c i).sr
    by_cases hp : (c, i) = (d, j)
    · obtain ⟨rfl, rfl⟩ := Prod.mk.inj hp
      rw [Server.bs_setBs]
    · rw [Server.bs_setBs_other hp]
  · exact absurd rfl (hturn d j o)
  · rfl
  · rfl
  · obtain ⟨qno, fi, rfl⟩ := takeFrame_frameInfo htake
    rfl
  · obtain ⟨qno, fi, rfl⟩ := putFrame_frameInfo hput
    rfl

/-- A step from `q` to `q'` keeps `Released` exactly if the stream that it opens is registered. -/
theorem step_released_iff
    (hq : Released q) (hcoherent : Coherent q.server) (hreleases : Releases input)
    (hstep : step q input = some q') :
  Released q' ↔ RegistersOpened q input
  := by
  by_cases hturn : ∃ c i o, input = .turn c i o
  · obtain ⟨c, i, o, rfl⟩ := hturn
    obtain rfl := Option.some.inj hstep
    apply turn_released_iff hq hcoherent hreleases
  · have hnot : ∀ c i o, input ≠ .turn c i o := by simpa using hturn
    have hserver := Extended.serverStep_of_step hstep
    have hheld : q'.ledger = q.ledger
      := by
      rw [step, Extended.step_of_not_turn hnot, hserver] at hstep
      rw [← Option.some.inj hstep]
    apply iff_of_true
    · intro c i
      rw [hheld, serverStep_sr hserver hnot]
      apply hq c i
    · cases input with
      | turn c i o => exact absurd rfl (hnot c i o)
      | _ => trivial

/-- In every state of a run, the flags of the streams and their handlers go together, if
`stream_dereg` succeeds. -/
theorem coherent_of_run
    (hstart : s.Started) (hrun : Run step (fun _ input => Releases input) (.start s) inputs q) :
  Agrees q.server ∧ Coherent q.server
  := by
  apply hrun.invariant (I := fun q => Agrees q.server ∧ Coherent q.server)
  · rintro q input q' ⟨hagrees, hcoherent⟩ hreleases hstep
    have hserver := Extended.serverStep_of_step hstep
    exact ⟨hagrees.step hserver, hcoherent.step hagrees hreleases hserver⟩
  · exact ⟨.of_started hstart, .of_started hstart⟩

/-- For every sequence of events, turns and outcomes of the calls in which `stream_dereg` releases
what is registered: at every time each queue that is held for a stream is registered under the
`sr` of the stream, and none has been allocated for it while another was held, exactly if
`stream_reg` succeeds in every call of `open_live_streaming` that has allocated a queue. -/
theorem queues_released_iff
    (hstart : s.Started) (hrun : Run step (fun _ input => Releases input) (.start s) inputs q) :
  (∀ taken left u, inputs = taken ++ left →
      Run step (fun _ input => Releases input) (.start s) taken u → Released u)
    ↔ Run step RegistersOpened (.start s) inputs q
  := by
  rw [← Run.forall_prefix_iff (I := fun q => (Agrees q.server ∧ Coherent q.server) ∧ Released q) _
    hrun]
  · constructor
    · intro hall taken left u heq htaken
      exact ⟨coherent_of_run hstart htaken, hall taken left u heq htaken⟩
    · intro hall taken left u heq htaken
      apply (hall taken left u heq htaken).2
  · use coherent_of_run hstart (Run.nil _)
    intro c i
    apply Held.Kept.of_nil rfl rfl
  · rintro q input q' ⟨⟨hagrees, hcoherent⟩, hq⟩ hreleases hstep
    have hserver := Extended.serverStep_of_step hstep
    rw [step_released_iff hq hcoherent hreleases hstep]
    apply and_iff_right
    exact ⟨hagrees.step hserver, hcoherent.step hagrees hreleases hserver⟩

/-- The general `queues_released_iff` at a stream that is started, with the queues 0 and 1, and
stopped. -/
theorem queues_released_stopped :
  ∃ q, Run step (fun _ input => Releases input) (.start (newServer rtspLiveStreaming))
      [.event 0 1 .start, .turn 0 1 (fun _ => openingCalls 0 0), .advance, .event 0 1 .stop,
        .turn 0 1 (fun _ => openingCalls 0 0)] q
    ∧ ∀ taken left u,
        [.event 0 1 .start, .turn 0 1 (fun _ => openingCalls 0 0), .advance, .event 0 1 .stop,
          .turn 0 1 (fun _ => openingCalls 0 0)] = taken ++ left →
        Run step (fun _ input => Releases input) (.start (newServer rtspLiveStreaming)) taken u →
          Released u
  := by
  have hdereg : ∀ _ : SubNum, 0 ≤ (openingCalls 0 0).streamDereg := fun _ => Int.le_refl 0
  have hreg (p : Prop) : p → Registers (openingCalls 0 0) := fun _ => nofun
  have hrun : ∃ q, Run step (fun q input => Releases input ∧ RegistersOpened q input)
      (.start (newServer rtspLiveStreaming))
      [.event 0 1 .start, .turn 0 1 (fun _ => openingCalls 0 0), .advance, .event 0 1 .stop,
        .turn 0 1 (fun _ => openingCalls 0 0)] q
    := ⟨_, Run.cons ⟨trivial, trivial⟩ rfl <| Run.cons ⟨hdereg, hreg _⟩ rfl <|
      Run.cons ⟨trivial, trivial⟩ rfl <| Run.cons ⟨trivial, trivial⟩ rfl <|
      Run.cons ⟨hdereg, hreg _⟩ rfl <| Run.nil _⟩
  obtain ⟨q, hrun⟩ := hrun
  have hreleases := hrun.mono fun _ _ h => h.1
  use q, hreleases
  apply (queues_released_iff (newServer_started _) hreleases).mpr
  apply hrun.mono fun _ _ h => h.2

/-- The registration of a stream by `stream_reg` fails when it is started and when it is updated:
four queues stay allocated. -/
theorem queues_not_released :
  (newServer rtspLiveStreaming).Started ∧
  ∃ q, Run step (fun _ input => Releases input) (.start (newServer rtspLiveStreaming))
      [.event 0 1 .start, .turn 0 1 (fun _ => openingCalls 0 (-1)), .advance, .event 0 1 .update,
        .advance, .turn 0 1 (fun _ => { openingCalls 2 (-1) with audioQueue := 3 })] q
    ∧ ¬ Released q ∧ q.ledger (0, 1) = ⟨[0, 1, 2, 3], [], true⟩
  := by
  have hdereg : ∀ _ : SubNum, 0 ≤ (openingCalls 0 (-1)).streamDereg := fun _ => Int.le_refl 0
  use newServer_started _
  have hrun : ∃ q, Run step (fun _ input => Releases input) (.start (newServer rtspLiveStreaming))
      [.event 0 1 .start, .turn 0 1 (fun _ => openingCalls 0 (-1)), .advance, .event 0 1 .update,
        .advance, .turn 0 1 (fun _ => { openingCalls 2 (-1) with audioQueue := 3 })] q
      ∧ q.ledger (0, 1) = ⟨[0, 1, 2, 3], [], true⟩
    := ⟨_, Run.cons trivial rfl <| Run.cons hdereg rfl <| Run.cons trivial rfl <|
      Run.cons trivial rfl <| Run.cons trivial rfl <| Run.cons hdereg rfl <| Run.nil _, rfl⟩
  obtain ⟨q, hrun, hheld⟩ := hrun
  use q, hrun
  constructor
  · intro hq
    have honce := (hq 0 1).once
    rw [hheld] at honce
    contradiction
  · apply hheld

end Rtspd.Queues
