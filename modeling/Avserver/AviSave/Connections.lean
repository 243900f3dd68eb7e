import Avserver.Library.Slots
import Avserver.AviSave.Recorder

/-!
# The connections of the recorder to av_server

Before each file the recorder asks `av_server` for the parameters of the stream:
`GetVideoInfo` connects to the server, sends a request and receives the answer.  It returns
without closing the connection, be the answer good or not; the server sees no end of the
connection, and the slot that it has given to it in `arrClient_fd` stays occupied.

The recorder is the machine of `Recorder`, with its call of `GetVideoInfo` in four steps; the
server takes the connections that wait for it one by one, and gives a slot to each, or closes
it; the other clients come and go.
-/

namespace AviSave.Connections

open Library Library.Slots

/-- `MAX_LIST_FD`, the length of `arrClient_fd`, whose first entry is the socket that the server
listens on. -/
def maxListFd : Nat := 10

/-- A connection to the server, the number `k` of those that the recorder or the other clients have
made. -/
inductive Conn where
  | recorder (k : Nat)
  | other (k : Nat)
deriving DecidableEq

/-- The connection has been made by the recorder, in `GetVideoInfo`. -/
def Conn.ofRecorder : Conn → Bool
  | .recorder _ => true
  | .other _ => false

/-- Where `GetVideoInfo` is: not called, or about to connect; before `send_local`; before the
first and the second `recv_local`. -/
inductive Call where
  | idle
  | send (c : Conn)
  | recv (c : Conn)
  | recvAgain (c : Conn)
deriving DecidableEq

/-- The recorder with the ends of connections that it has open, and the server with the
connections that it has not accepted yet and those in `arrClient_fd`. -/
structure State where
  recorder : Recorder
  call : Call
  ends : List Conn
  made : Nat
  pending : List Conn
  arrClientFd : List (Option Conn)

/-- The values in an answer of the server, where it has them: those of `e_width`, `e_height`,
`e_frame_rate` and `e_bit_rate`. -/
structure VideoInfo where
  width : Option Int
  height : Option Int
  fps : Option Int
  bps : Option Int
deriving DecidableEq

/-- A step of the recorder, of the server, or of another client, with what the call in it yields. -/
inductive Event where
  /-- a step of the recorder outside of `GetVideoInfo` -/
  | recorder (mv : Move)
  /-- `connect_local` in `GetVideoInfo`, and whether it succeeds -/
  | connect (ok : Bool)
  | send
  /-- the first `recv_local`, its result, and the values in what it has received -/
  | recv (ret : Int) (info : VideoInfo)
  /-- the second one -/
  | recvAgain (ret : Int) (info : VideoInfo)
  /-- another client connects to the server -/
  | connectOther
  /-- the server calls `accept`, and whether it succeeds -/
  | accept (ok : Bool)
  /-- the server reads from the connection in a slot: the length read, the result of
  `processMsg`, and whether `write` fails with `EBADF` -/
  | read (i : Nat) (readlen len : Int) (ebadf : Bool)
deriving DecidableEq

/-- An answer without values, which is also what `GetVideoInfo` leaves to the recorder when it
fails. -/
def noInfo : VideoInfo := ⟨none, none, none, none⟩

/-- `GetVideoInfo` returns to the recorder with the values `info`.  It does not close the
connection. -/
def returnInfo (info : VideoInfo) (n : State) : Option State :=
  (AviSave.step n.recorder (.info info.width info.height info.fps info.bps)).map fun r =>
    { n with recorder := r, call := .idle }

/-- The moves of the recorder that are not the call of `GetVideoInfo`, which is made in steps of its
own. -/
def outsideCall : Move → Bool
  | .info _ _ _ _ => false
  | _ => true

/-- A step of the state `n` with an event; `none` when the recorder, or the slot, is not there for
it. -/
def step (n : State) : Event → Option State
  | .recorder mv =>
      if outsideCall mv then
        (AviSave.step n.recorder mv).map fun r => { n with recorder := r }
      else none
  | .connect ok =>
      if n.recorder.pc = .info ∧ n.call = .idle then
        if ok then
          let c := Conn.recorder n.made
          some { n with
            call := .send c, ends := c :: n.ends, made := n.made + 1, pending := n.pending ++ [c] }
        else returnInfo noInfo n
      else none
  | .send =>
      match n.call with
      | .send c => some { n with call := .recv c }
      | _ => none
  | .recv ret info =>
      match n.call with
      | .recv c => if ret ≤ 0 then some { n with call := .recvAgain c } else returnInfo info n
      | _ => none
  | .recvAgain ret info =>
      match n.call with
      | .recvAgain _ => returnInfo (if ret ≤ 0 then noInfo else info) n
      | _ => none
  | .connectOther =>
      some { n with made := n.made + 1, pending := n.pending ++ [.other n.made] }
  | .accept ok =>
      match n.pending with
      | [] => none
      | c :: pending =>
          if ok then
            match place c n.arrClientFd with
            | some arrClientFd => some { n with pending := pending, arrClientFd := arrClientFd }
            -- all slots are occupied, and the connection is closed
            | none => some { n with pending := pending }
          else some n
  | .read i readlen len ebadf =>
      match n.arrClientFd[i]? with
      | some (some _) =>
          if readlen ≤ 3 ∨ (len ≠ 0 ∧ ebadf) then
            some { n with arrClientFd := n.arrClientFd.set i none }
          else some n
      | _ => none

/-- The state in which the recorder `r` has not come to its first file, and there is no client. -/
def initState (r : Recorder) : State where
  recorder := r
  call := .idle
  ends := []
  made := 0
  pending := []
  arrClientFd := List.replicate (maxListFd - 1) none

/-- The number of slots of the server that are occupied by connections of the recorder. -/
def recorderSlots (n : State) : Nat := occupied Conn.ofRecorder n.arrClientFd

/-- The number of slots of the server that are occupied by other clients. -/
def otherSlots (n : State) : Nat := occupied (fun c => !c.ofRecorder) n.arrClientFd

/-- The event is not one with which `GetVideoInfo` returns from a call that has connected: to the
first `recv_local` nothing comes, and the second one does not end. -/
def NeverReturns (_ : State) : Event → Prop
  | .recv ret _ => ret ≤ 0
  | .recvAgain _ _ => False
  | _ => True

instance (n : State) (ev : Event) : Decidable (NeverReturns n ev) := by
  unfold NeverReturns
  split
  all_goals infer_instance

/-! ### What a step can do -/

/-- What a step does: the recorder steps outside of `GetVideoInfo`, or goes on in a call of it; and
the server accepts a connection, closes it because its slots are occupied, fails to accept, or reads
from a slot, which it frees or not. -/
inductive Stepped (n : State) : Event → State → Prop where
  | recorder {mv : Move} {r : Recorder} (hr : AviSave.step n.recorder mv = some r) :
      Stepped n (.recorder mv) { n with recorder := r }
  | connected (hcall : n.call = .idle) :
      Stepped n (.connect true) { n with
        call := .send (.recorder n.made)
        ends := .recorder n.made :: n.ends
        made := n.made + 1
        pending := n.pending ++ [.recorder n.made] }
  | refused {n' : State} (hcall : n.call = .idle) (hreturn : returnInfo noInfo n = some n') :
      Stepped n (.connect false) n'
  | send {c : Conn} (hcall : n.call = .send c) : Stepped n .send { n with call := .recv c }
  | recvFails {c : Conn} {ret : Int} {info : VideoInfo} (hcall : n.call = .recv c)
      (hret : ret ≤ 0) :
      Stepped n (.recv ret info) { n with call := .recvAgain c }
  | received {c : Conn} {ret : Int} {info : VideoInfo} {n' : State} (hcall : n.call = .recv c)
      (hret : ¬ ret ≤ 0) (hreturn : returnInfo info n = some n') :
      Stepped n (.recv ret info) n'
  | recvAgain {c : Conn} {ret : Int} {info info' : VideoInfo} {n' : State}
      (hcall : n.call = .recvAgain c) (hreturn : returnInfo info' n = some n') :
      Stepped n (.recvAgain ret info) n'
  | connectOther :
      Stepped n .connectOther { n with made := n.made + 1, pending := n.pending ++ [.other n.made] }
  | accepted {c : Conn} {pending : List Conn} {arrClientFd : List (Option Conn)}
      (hpending : n.pending = c :: pending) (hplace : place c n.arrClientFd = some arrClientFd) :
      Stepped n (.accept true) { n with pending := pending, arrClientFd := arrClientFd }
  | full {c : Conn} {pending : List Conn} (hpending : n.pending = c :: pending) :
      Stepped n (.accept true) { n with pending := pending }
  | acceptFails : Stepped n (.accept false) n
  | freed {i : Nat} {readlen len : Int} {ebadf : Bool} :
      Stepped n (.read i readlen len ebadf) { n with arrClientFd := n.arrClientFd.set i none }
  | kept {i : Nat} {readlen len : Int} {ebadf : Bool} : Stepped n (.read i readlen len ebadf) n

/-- Every step is one of those of `Stepped`, according to where the recorder is in its call and to
what waits for the server. -/
theorem stepped_of_step {n n' : State} {ev : Event} (hstep : step n ev = some n') :
  Stepped n ev n'
  := by
  cases ev with
  | recorder mv =>
      obtain ⟨-, hstep⟩ := Option.ite_none_right_eq_some.mp hstep
      obtain ⟨r, hr, rfl⟩ := Option.map_eq_some_iff.mp hstep
      apply Stepped.recorder hr
  | connect ok =>
      obtain ⟨hidle, hstep⟩ := Option.ite_none_right_eq_some.mp hstep
      cases ok with
      | true =>
          obtain rfl := Option.some.inj hstep
          apply Stepped.connected hidle.2
      | false => apply Stepped.refused hidle.2 hstep
  | send =>
      simp only [step] at hstep
      split at hstep
      · next hcall =>
          obtain rfl := Option.some.inj hstep
          apply Stepped.send hcall
      · contradiction
  | recv ret info =>
      simp only [step] at hstep
      split at hstep
      · next hcall =>
          split at hstep
          · next hret =>
              obtain rfl := Option.some.inj hstep
              apply Stepped.recvFails hcall hret
          · next hret => apply Stepped.received hcall hret hstep
      · contradiction
  | recvAgain ret info =>
      simp only [step] at hstep
      split at hstep
      · next hcall => apply Stepped.recvAgain hcall hstep
      · contradiction
  | connectOther =>
      obtain rfl := Option.some.inj hstep
      apply Stepped.connectOther
  | accept ok =>
      simp only [step] at hstep
      split at hstep
      · contradiction
      · next hpending =>
          cases ok with
          | true =>
              rw [if_pos rfl] at hstep
              split at hstep
              · next hplace =>
                  obtain rfl := Option.some.inj hstep
                  apply Stepped.accepted hpending hplace
              · obtain rfl := Option.some.inj hstep
                apply Stepped.full hpending
          | false =>
              obtain rfl := Option.some.inj hstep
              apply Stepped.acceptFails
  | read i readlen len ebadf =>
      simp only [step] at hstep
      split at hstep
      · split at hstep
        · obtain rfl := Option.some.inj hstep
          apply Stepped.freed
        · obtain rfl := Option.some.inj hstep
          apply Stepped.kept
      · contradiction

/-! ### What is counted -/

/-- The number of connections, 0 or 1, of the call of `GetVideoInfo` that the recorder is in. -/
def connected : Call → Nat
  | .idle => 0
  | .send _ | .recv _ | .recvAgain _ => 1

/-- The recorder knows of every connection that it has in the server: those that wait or have a slot
are at most its `ends`.  The server has kept all of its slots. -/
structure Counted (n : State) : Prop where
  slots : n.arrClientFd.length = maxListFd - 1
  ends : n.pending.countP Conn.ofRecorder + recorderSlots n ≤ n.ends.length
  call : connected n.call ≤ n.ends.length

/-- The recorder has no connection open but the one of the call of `GetVideoInfo` that it is in. -/
def NoneLeft (n : State) : Prop := n.ends.length ≤ connected n.call

section

variable {n n' : State} {ev : Event}

theorem returnInfo_eq {info : VideoInfo} (h : returnInfo info n = some n') :
  ∃ r, n' = { n with recorder := r, call := .idle }
  := by
  obtain ⟨r, _, rfl⟩ := Option.map_eq_some_iff.mp h
  use r

theorem Counted.init (r : Recorder) : Counted (initState r) := by
  constructor
  · simp [initState]
  · simp [initState, recorderSlots, occupied]
  · simp [initState, connected]

/-- The return from a call of `GetVideoInfo` keeps the count, as the connections of the recorder
stay. -/
theorem Counted.returnInfo (h : Counted n) {info : VideoInfo} (hret : returnInfo info n = some n') :
  Counted n'
  := by
  obtain ⟨r, rfl⟩ := returnInfo_eq hret
  exact ⟨h.slots, h.ends, Nat.zero_le _⟩

/-- A call of `GetVideoInfo` that goes on, with the same number of connections, keeps the count. -/
theorem Counted.goOn (h : Counted n) {call : Call} (hcall : connected call = connected n.call) :
  Counted { n with call := call }
  := ⟨h.slots, h.ends, hcall ▸ h.call⟩

/-- Every step keeps the count of the connections of the recorder, `Counted`. -/
theorem Counted.step (h : Counted n) (hstep : step n ev = some n') :
  Counted n'
  := by
  have hends := h.ends
  cases stepped_of_step hstep with
  | recorder => exact ⟨h.slots, h.ends, h.call⟩
  | connected =>
      refine ⟨h.slots, ?_, ?_⟩
      · simp only [recorderSlots, List.countP_append, List.countP_singleton, Conn.ofRecorder,
          if_true, List.length_cons] at hends ⊢
        omega
      · simp [connected]
  | send hcall | recvFails hcall =>
      apply h.goOn
      rw [hcall]
      rfl
  | refused _ hreturn | received _ _ hreturn | recvAgain _ hreturn => apply h.returnInfo hreturn
  | connectOther =>
      refine ⟨h.slots, ?_, h.call⟩
      rw [List.countP_append]
      apply h.ends
  | accepted hpending hplace =>
      -- the connection that has waited longest moves from those that wait to a slot
      rw [hpending, List.countP_cons] at hends
      refine ⟨(length_place hplace).trans h.slots, ?_, h.call⟩
      simp only [recorderSlots, occupied_place hplace] at hends ⊢
      omega
  | full hpending =>
      rw [hpending, List.countP_cons] at hends
      refine ⟨h.slots, ?_, h.call⟩
      simp only [recorderSlots] at hends ⊢
      omega
  | @freed i =>
      refine ⟨by rw [List.length_set, h.slots], ?_, h.call⟩
      have hle := occupied_set_none_le (p := Conn.ofRecorder) i n.arrClientFd
      simp only [recorderSlots] at hends ⊢
      omega
  | acceptFails | kept => apply h

/-! ### What is left open -/

/-- A call of `GetVideoInfo` that has connected leaves its connection open when it returns, so that
`NoneLeft` fails. -/
theorem NoneLeft.not_returnInfo
    (hcounted : Counted n) {info : VideoInfo} (hcall : connected n.call = 1)
    (hret : returnInfo info n = some n') :
  ¬ NoneLeft n'
  := by
  obtain ⟨r, rfl⟩ := returnInfo_eq hret
  intro hleft
  have hends : n.ends.length ≤ 0 := hleft
  have hcall' := hcounted.call
  omega

/-- A call of `GetVideoInfo` that goes on, with the same number of connections, keeps `NoneLeft`. -/
theorem NoneLeft.goOn (h : NoneLeft n) {call : Call} (hcall : connected call = connected n.call) :
  NoneLeft { n with call := call }
  := by
  rw [NoneLeft, hcall]
  apply h

/-- From a state without a connection left, a step leads to one exactly when it is not the return
from a call that has connected: `NeverReturns`. -/
theorem NoneLeft.step_iff
    (h : NoneLeft n) (hcounted : Counted n) (hstep : step n ev = some n') :
  NoneLeft n' ↔ NeverReturns n ev
  := by
  cases stepped_of_step hstep with
  | connected hcall =>
      apply iff_of_true _ trivial
      rw [NoneLeft, hcall] at h
      apply Nat.succ_le_succ h
  | refused hcall hreturn =>
      apply iff_of_true _ trivial
      rw [NoneLeft, hcall] at h
      obtain ⟨r, rfl⟩ := returnInfo_eq hreturn
      apply h
  | send hcall =>
      apply iff_of_true _ trivial
      apply h.goOn
      rw [hcall]
      rfl
  | recvFails hcall hret =>
      apply iff_of_true _ hret
      apply h.goOn
      rw [hcall]
      rfl
  | received hcall hret hreturn =>
      apply iff_of_false _ hret
      apply NoneLeft.not_returnInfo hcounted _ hreturn
      rw [hcall, connected]
  | recvAgain hcall hreturn =>
      apply iff_of_false _ id
      apply NoneLeft.not_returnInfo hcounted _ hreturn
      rw [hcall, connected]
  -- neither the ends of the recorder nor its call are touched
  | recorder | connectOther | accepted | full | acceptFails | freed | kept =>
      apply iff_of_true h trivial

/-- If the recorder and the others leave a slot free, then the connection that has waited longest
gets one when it is accepted. -/
theorem Counted.exists_accept
    (h : Counted n) {c : Conn} {pending : List Conn} (hpending : n.pending = c :: pending)
    (hfree : recorderSlots n + otherSlots n < maxListFd - 1) :
  ∃ n', Connections.step n (.accept true) = some n' ∧ some c ∈ n'.arrClientFd
  := by
  cases hplace : place c n.arrClientFd with
  | none =>
      have hall := occupied_of_place_eq_none Conn.ofRecorder hplace
      rw [h.slots] at hall
      simp only [recorderSlots, otherSlots] at hfree
      omega
  | some arrClientFd =>
      refine ⟨{ n with pending := pending, arrClientFd := arrClientFd }, ?_, mem_place hplace⟩
      simp only [Connections.step, hpending, hplace, if_true]

/-- In every run in which `GetVideoInfo` never returns once it has connected, the recorder has no
connection open outside of it, at most one slot of the server is occupied by the recorder, and
the next client is accepted if the others leave a slot free. -/
theorem recorder_leaves_slots
    {r : Recorder} {evs : List Event} (h : Run step NeverReturns (initState r) evs n) :
  (n.call = .idle → n.ends = []) ∧ recorderSlots n ≤ 1
    ∧ ∀ c pending, n.pending = c :: pending →
        otherSlots n + 1 < maxListFd - 1 ∨ (n.call = .idle ∧ otherSlots n < maxListFd - 1) →
        ∃ n', step n (.accept true) = some n' ∧ some c ∈ n'.arrClientFd
  := by
  obtain ⟨hcounted, hleft⟩ : Counted n ∧ NoneLeft n := by
    apply h.invariant (I := fun n => Counted n ∧ NoneLeft n) _ ⟨Counted.init r, Nat.zero_le _⟩
    rintro n ev n' ⟨hcounted, hleft⟩ hreturns hstep
    use hcounted.step hstep, (hleft.step_iff hcounted hstep).mpr hreturns
  have hends := hcounted.ends
  have hone : connected n.call ≤ 1 := by
    cases n.call with
    | idle => apply Nat.zero_le
    | _ => apply Nat.le_refl
  rw [NoneLeft] at hleft
  refine ⟨fun hidle => ?_, by omega, fun c pending hpending hothers => ?_⟩
  · rw [hidle, connected] at hleft
    apply List.eq_nil_of_length_eq_zero
    omega
  · apply hcounted.exists_accept hpending
    obtain hothers | ⟨hidle, hothers⟩ := hothers
    · omega
    · rw [hidle, connected] at hleft
      omega

/-- The run in which the server cannot be reached, so that the recorder uses its defaults, and
another client connects. -/
def serverDown : List Event :=
  [.recorder (.start 1 0), .recorder .test, .recorder (.schedule 12), .connect false,
    .connectOther]

/-- Behind the run `serverDown` the recorder has no connection, and the other client is accepted. -/
theorem recorder_leaves_slots_serverDown :
  ∃ n, Run step NeverReturns (initState newRecorder) serverDown n ∧ n.ends = []
    ∧ ∃ n', step n (.accept true) = some n' ∧ some (.other 0) ∈ n'.arrClientFd
  := by
  obtain ⟨n, hrun, hn⟩ := Run.exists_of_exec step NeverReturns (initState newRecorder)
    (fun n => n.call == .idle && n.pending == [.other 0] && decide (otherSlots n < maxListFd - 1))
    serverDown (by decide +kernel)
  simp only [Bool.and_eq_true, beq_iff_eq, decide_eq_true_eq] at hn
  obtain ⟨⟨hidle, hpending⟩, hothers⟩ := hn
  obtain ⟨hends, _, haccept⟩ := recorder_leaves_slots hrun
  use n, hrun, hends hidle
  apply haccept (.other 0) [] hpending
  right
  use hidle

/-- The steps of a call of `GetVideoInfo` with an answer, during which the server accepts its
connection. -/
def getVideoInfoOnce : List Event :=
  [.connect true, .accept true, .send, .recv 1 ⟨none, none, some 8, none⟩]

/-- The steps in which the recorder records a file to its end, with the given number of `frames`. -/
def fileRecorded (frames : Nat) : List Event :=
  ([.test, .schedule 12] : List Move).map .recorder ++ getVideoInfoOnce
    ++ (([.freeSpace 100000, .open true, .header 0 0 0 0] ++ recordFrames frames ++ [.after] :
      List Move).map .recorder)

/-- Nine files are recorded, and another client connects.  `rec_frames` is not reset after the
first file, and each of the others is complete with one frame. -/
def nineFiles : List Event :=
  .recorder (.start 1 0) :: fileRecorded 480 ++ (List.replicate 8 (fileRecorded 1)).flatten
    ++ [.connectOther]

/-- Behind nine files, between two calls, the recorder has nine connections open, which occupy all
the slots, and the next client gets none. -/
theorem slots_exhausted :
  ∃ n n', Run step (fun _ _ => True) (initState newRecorder) nineFiles n
    ∧ n.recorder.pc = .test ∧ n.ends.length = 9 ∧ recorderSlots n = 9 ∧ otherSlots n = 0
    ∧ step n (.accept true) = some n' ∧ some (.other 9) ∉ n'.arrClientFd ∧ n'.pending = []
  := by
  obtain ⟨n, hrun, hn⟩ := Run.exists_of_exec step (fun _ _ => True) (initState newRecorder)
    (fun n => n.recorder.pc == .test && n.ends.length == 9 && recorderSlots n == 9
      && otherSlots n == 0
      && (step n (.accept true)).any fun n' =>
        !n'.arrClientFd.contains (some (.other 9)) && n'.pending.isEmpty)
    nineFiles (by decide +kernel)
  simp only [Bool.and_eq_true, beq_iff_eq, Option.any_eq_true, Bool.not_eq_true',
    List.contains_eq_mem, decide_eq_false_iff_not, List.isEmpty_iff] at hn
  obtain ⟨⟨⟨⟨hpc, hends⟩, hslots⟩, hothers⟩, n', hstep, hrefused, hpending⟩ := hn
  use n, n', hrun, hpc, hends, hslots, hothers, hstep, hrefused, hpending

end

end AviSave.Connections
