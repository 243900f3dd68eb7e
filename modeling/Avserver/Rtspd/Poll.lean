import Avserver.Library.Monitor
import Avserver.Rtspd.Events

/-!
# Snapshots and the polling of the devices

The encoder thread goes round: it sets up what is waited for at the devices of the channels, polls
them, and serves one channel behind the other.  On the way it takes a snapshot when a request has
stored a number in `snap_start`: the encoder of a channel is asked for one before the devices are
polled; once it is there the number is read again, the snapshot is written under it, and the number is
cleared.  When polling fails, more than three thousand times in a row, the camera is rebooted.

The requests come from another thread.  So a step of the encoder thread has at most one access to
`snap_start`, and a request may store its number between any two of them.  A monitor follows the
requests and what the thread does, and accepts every run.  A number that is stored stays until a
snapshot has been written under it or the next request stores another one, if no request comes between
the second reading of the number and its clearing (`snapshots_accepted`); one that does is lost.
-/

namespace Rtspd.Poll

open Library

/-! ### The encoder thread -/

/-- `events` of a device: whether a snapshot is waited for (`POLLIN_SNAP_BS`), and the streams whose
frames are waited for. -/
structure Events where
  snapBs : Bool
  bs : SubNum → Bool

/-- A member of `poll_fds`: the device and what is waited for there, without what has happened at
it. -/
structure PollFd where
  fd : Int
  events : Events

/-- `revents` of a device: whether anything has happened, and whether a frame of its main stream is
there. -/
structure Revents where
  any : Bool
  mainBs : Bool

/-- What the requests and the thread do, in the order in which they do it. -/
inductive Message where
  /-- a request for a snapshot stores its number -/
  | snapshotStart (id : UInt32)
  /-- a round begins -/
  | setPollEvent
  /-- the encoder of a channel is asked for a snapshot, by `apply_bs_ensnap` -/
  | enSnap (c : ChNum)
  /-- the devices have been polled -/
  | poll (ret : Int)
  | restart
  /-- a number has been found in `snap_start`, at the turn of a channel -/
  | test (c : ChNum)
  /-- `snap_start` is read as the argument of `write_jpg` -/
  | load (c : ChNum) (id : UInt32)
  /-- `DVR_ENC_QUEUE_GET_SNAP` -/
  | getSnap (c : ChNum) (ret : Int)
  /-- a snapshot of a channel is written under a number -/
  | writeJpg (c : ChNum) (id : UInt32)
deriving DecidableEq

/-- Where the thread is: at the begin of a round; at a channel in `set_poll_event`, with the value of
`ret`; before the devices are polled; at a channel in `do_poll_event`, with the value of `ret`; or
there behind the test of `snap_start`, in `write_jpg` with the number `id` before and behind
`DVR_ENC_QUEUE_GET_SNAP`, and behind `write_jpg`. -/
inductive Place where
  | set
  | look (c : ChNum) (ret : Int)
  | poll
  | serve (c : ChNum) (ret : Int)
  | tested (c : ChNum)
  | loaded (c : ChNum) (id : UInt32)
  | got (c : ChNum) (id : UInt32)
  | written (c : ChNum)
deriving DecidableEq

/-- The state of the thread with its `place`, and the `messages` that have passed, the first one
first. -/
structure State where
  snapInitOk : Bool
  snapStart : UInt32
  numTime : Nat
  pollFds : ChNum → PollFd
  place : Place
  messages : List Message

namespace State

/-- The state before the first round of the thread, with all that is in memory zero. -/
def start : State where
  snapInitOk := false
  snapStart := 0
  numTime := 0
  pollFds _ := ⟨0, ⟨false, fun _ => false⟩⟩
  place := .set
  messages := []

/-- The message `e` passes, and the thread goes on to `place`. -/
def send (t : State) (e : Message) (place : Place) : State :=
  { t with place := place, messages := t.messages ++ [e] }

end State

/-- The device of the channel `c` is to be asked for a snapshot; which stream says so goes by the
number of the channel. -/
def wantsSnap (enabledSnapshot : ChNum → SubNum → Bool) (s : Server) (c : ChNum) (t : State) : Bool :=
  (s.enc c).enabled && enabledSnapshot c (Fin.castLE (by decide) c) && t.snapInitOk
    && t.snapStart != 0

/-- What is waited for at the device of the channel `c`, as `set_poll_event` fills in `poll_fds`. -/
def pollFd (enabledSnapshot : ChNum → SubNum → Bool) (s : Server) (t : State) (c : ChNum) : PollFd :=
  if (s.enc c).enabled then
    ⟨(s.enc c).encFd, ⟨wantsSnap enabledSnapshot s c t, fun i => (s.bs c i).videoEnabled⟩⟩
  else ⟨-1, ⟨false, fun _ => false⟩⟩

/-- The place behind the turn of the channel `c` in `set_poll_event`: the next channel, or what
`ret` says. -/
def lookedPlace (c : ChNum) (ret : Int) : Place :=
  if c = 0 then .look 1 ret else if ret < 0 then .set else .poll

/-- The turn of a channel in the loop of `set_poll_event`, which returns `ret`: 0 if there is a frame
to wait for, and else -1, with which the next round begins. -/
def look (enabledSnapshot : ChNum → SubNum → Bool) (s : Server) (c : ChNum) (ret : Int) (t : State) :
    State :=
  let ret := if (s.enc c).enabled ∧ (List.finRange 9).any fun i => (s.bs c i).videoEnabled then 0
    else ret
  let looked := { t with
    pollFds := Function.update t.pollFds c (pollFd enabledSnapshot s t c)
    place := lookedPlace c ret }
  if wantsSnap enabledSnapshot s c t then looked.send (.enSnap c) (lookedPlace c ret) else looked

/-- The first part of `do_poll_event`: the devices are polled with the result `ret`, and the
failures in a row are counted. -/
def pollDevices (ret : Int) (t : State) : State :=
  if ret < 0 then
    { t with
      numTime := t.numTime + 1
      place := .set
      messages := t.messages ++ .poll ret :: if t.numTime + 1 > 3000 then [.restart] else [] }
  else { t with numTime := 0, place := .serve 0 ret, messages := t.messages ++ [.poll ret] }

/-- The place behind the turn of the channel `c` in `do_poll_event`: the next channel, or a new
round. -/
def behind (c : ChNum) (ret : Int) : Place := if c = 0 then .serve 1 ret else .set

/-- The turn of a channel in the loop of `do_poll_event`, up to the test of `snap_start`: what has
happened at its device, and what its handler `read` returns, if it has one. -/
def serve (c : ChNum) (ret : Int) (revents : Revents) (read : Option Int) (t : State) : State :=
  if revents.any = false then { t with place := behind c ret }
  else if revents.mainBs ∧ read.getD ret < 0 then { t with place := behind c (read.getD ret) }
  else if t.snapInitOk ∧ t.snapStart ≠ 0 ∧ (t.pollFds c).events.snapBs then
    t.send (.test c) (.tested c)
  else { t with place := behind c (if revents.mainBs then read.getD ret else ret) }

/-- A request stores its number `id` in `snap_start`, wherever the thread is. -/
def snapshotStart (id : UInt32) (t : State) : State :=
  { t.send (.snapshotStart id) t.place with snapStart := id }

/-- A request stores a number, `set_bs_buf` finds out whether there is a buffer for snapshots, or
the thread goes on: the last four are the rest of a channel's turn in `do_poll_event`. -/
inductive Input where
  | snapshotStart (id : UInt32)
  | setBsBuf (ok : Bool)
  | setPollEvent
  | look (enabledSnapshot : ChNum → SubNum → Bool) (s : Server)
  | poll (ret : Int)
  | serve (revents : Revents) (read : Option Int)
  | load
  | getSnap (ret : Int)
  | writeJpg
  | clear

/-- A step of the thread, if it is at the place for it, or of a request. -/
def step (t : State) : Input → Option State
  | .snapshotStart id => some (snapshotStart id t)
  | .setBsBuf ok => if t.place = .set then some { t with snapInitOk := ok } else none
  | .setPollEvent => if t.place = .set then some (t.send .setPollEvent (.look 0 (-1))) else none
  | .look enabledSnapshot s =>
      match t.place with
      | .look c ret => some (look enabledSnapshot s c ret t)
      | _ => none
  | .poll ret => if t.place = .poll then some (pollDevices ret t) else none
  | .serve revents read =>
      match t.place with
      | .serve c ret => some (serve c ret revents read t)
      | _ => none
  | .load =>
      match t.place with
      | .tested c => some (t.send (.load c t.snapStart) (.loaded c t.snapStart))
      | _ => none
  | .getSnap ret =>
      match t.place with
      | .loaded c id =>
          some (t.send (.getSnap c ret) (if ret ≥ 0 then .got c id else behind c (-1)))
      | _ => none
  | .writeJpg =>
      match t.place with
      | .got c id => some (t.send (.writeJpg c id) (.written c))
      | _ => none
  | .clear =>
      match t.place with
      | .written c => some { t with snapStart := 0, place := behind c 0 }
      | _ => none

section

variable {t t' : State} {input : Input}

/-- What a step of the thread or of a request does from `t`: the thread is at the place for it, and
behind `DVR_ENC_QUEUE_GET_SNAP` it goes on to the writing or to the next channel. -/
inductive Stepped (t : State) : Input → State → Prop where
  | snapshotStart (id : UInt32) : Stepped t (.snapshotStart id) (snapshotStart id t)
  | setBsBuf (hplace : t.place = .set) (ok : Bool) :
      Stepped t (.setBsBuf ok) { t with snapInitOk := ok }
  | setPollEvent (hplace : t.place = .set) :
      Stepped t .setPollEvent (t.send .setPollEvent (.look 0 (-1)))
  | look {c : ChNum} {ret : Int} (hplace : t.place = .look c ret)
      (enabledSnapshot : ChNum → SubNum → Bool) (s : Server) :
      Stepped t (.look enabledSnapshot s) (look enabledSnapshot s c ret t)
  | poll (hplace : t.place = .poll) (ret : Int) : Stepped t (.poll ret) (pollDevices ret t)
  | serve {c : ChNum} {ret : Int} (hplace : t.place = .serve c ret) (revents : Revents)
      (read : Option Int) :
      Stepped t (.serve revents read) (serve c ret revents read t)
  | load {c : ChNum} (hplace : t.place = .tested c) :
      Stepped t .load (t.send (.load c t.snapStart) (.loaded c t.snapStart))
  | got {c : ChNum} {id : UInt32} {ret : Int} (hplace : t.place = .loaded c id) (hret : 0 ≤ ret) :
      Stepped t (.getSnap ret) (t.send (.getSnap c ret) (.got c id))
  | failed {c : ChNum} {id : UInt32} {ret : Int} (hplace : t.place = .loaded c id) (hret : ret < 0) :
      Stepped t (.getSnap ret) (t.send (.getSnap c ret) (behind c (-1)))
  | writeJpg {c : ChNum} {id : UInt32} (hplace : t.place = .got c id) :
      Stepped t .writeJpg (t.send (.writeJpg c id) (.written c))
  | clear {c : ChNum} (hplace : t.place = .written c) :
      Stepped t .clear { t with snapStart := 0, place := behind c 0 }

/-- Every step of `step` is one of those of `Stepped`. -/
theorem Stepped.of_step (h : step t input = some t') : Stepped t input t' := by
  cases input with
  | snapshotStart id =>
      obtain rfl := Option.some.inj h
      apply Stepped.snapshotStart
  | setBsBuf ok =>
      obtain ⟨hplace, h⟩ := Option.ite_none_right_eq_some.mp h
      obtain rfl := Option.some.inj h
      apply Stepped.setBsBuf hplace
  | setPollEvent =>
      obtain ⟨hplace, h⟩ := Option.ite_none_right_eq_some.mp h
      obtain rfl := Option.some.inj h
      apply Stepped.setPollEvent hplace
  | poll ret =>
      obtain ⟨hplace, h⟩ := Option.ite_none_right_eq_some.mp h
      obtain rfl := Option.some.inj h
      apply Stepped.poll hplace
  | look enabledSnapshot s =>
      rw [step] at h
      split at h
      · next hplace =>
          obtain rfl := Option.some.inj h
          apply Stepped.look hplace
      · contradiction
  | serve revents read =>
      rw [step] at h
      split at h
      · next hplace =>
          obtain rfl := Option.some.inj h
          apply Stepped.serve hplace
      · contradiction
  | load =>
      rw [step] at h
      split at h
      · next hplace =>
          obtain rfl := Option.some.inj h
          apply Stepped.load hplace
      · contradiction
  | getSnap ret =>
      rw [step] at h
      split at h
      · next hplace =>
          obtain rfl := Option.some.inj h
          split
          · next hret => apply Stepped.got hplace hret
          · next hret => apply Stepped.failed hplace (Int.not_le.mp hret)
      · contradiction
  | writeJpg =>
      rw [step] at h
      split at h
      · next hplace =>
          obtain rfl := Option.some.inj h
          apply Stepped.writeJpg hplace
      · contradiction
  | clear =>
      rw [step] at h
      split at h
      · next hplace =>
          obtain rfl := Option.some.inj h
          apply Stepped.clear hplace
      · contradiction

end

/-! ### The monitor -/

/-- What the monitor keeps account of: the request that is pending, and how far the thread is with
it. -/
structure Account where
  /-- the number of the last request, or 0 if a snapshot has been written under it -/
  pending : UInt32
  /-- the encoders that have been asked for a snapshot in this round -/
  asked : ChNum → Bool
  /-- the channel at which a number has been found, and is to be read -/
  tested : Option ChNum
  /-- the channel of which a snapshot is to be written, and its number -/
  loaded : Option (ChNum × UInt32)
  /-- no request has come since that number was read -/
  current : Bool
  /-- how often polling has failed in a row -/
  failed : Nat
  /-- the camera is to be rebooted now -/
  due : Bool

namespace Account

/-- The account before the first message: nothing has been requested or asked for. -/
def start : Account := ⟨0, fun _ => false, none, none, false, 0, false⟩

/-- The account `v` when a message has passed, whether it was allowed or not. -/
def next (v : Account) : Message → Account
  | .snapshotStart id => { v with pending := id, current := false }
  | .setPollEvent => { v with asked := fun _ => false }
  | .enSnap c => { v with asked := Function.update v.asked c true }
  | .poll ret =>
      if ret < 0 then { v with failed := v.failed + 1, due := v.failed + 1 > 3000 }
      else { v with failed := 0 }
  | .restart => { v with due := false }
  | .test c => { v with tested := some c }
  | .load c id => { v with tested := none, loaded := some (c, id), current := true }
  | .getSnap _ ret => if ret < 0 then { v with loaded := none } else v
  | .writeJpg _ _ =>
      { v with loaded := none, pending := if v.current then 0 else v.pending }

/-- Which messages may be next by the account `v`.  Where the camera is to be rebooted that is next,
and it is nowhere else.  An encoder is asked for a snapshot, and its turn comes to take one, while a
request is pending, and the latter only if it has been asked in this round; then the number is read,
and is the one that is pending; and then there is one snapshot, under the number that was read. -/
def Allows (v : Account) : Message → Prop
  | .restart => v.due = true
  | .enSnap _ => v.due = false ∧ v.pending ≠ 0
  | .test c => v.due = false ∧ v.pending ≠ 0 ∧ v.asked c = true
  | .load c id => v.due = false ∧ v.tested = some c ∧ id = v.pending
  | .getSnap c _ => v.due = false ∧ ∃ id, v.loaded = some (c, id)
  | .writeJpg c id => v.due = false ∧ v.loaded = some (c, id)
  | .snapshotStart _ | .setPollEvent | .poll _ => v.due = false

/-- A snapshot that is there, by `ret` of `DVR_ENC_QUEUE_GET_SNAP`, changes nothing in the account. -/
theorem next_got {v : Account} {c : ChNum} {ret : Int} (hret : 0 ≤ ret) : v.next (.getSnap c ret) = v :=
  if_neg (Int.not_lt.mpr hret)

/-- A snapshot that is not there, by `ret` of `DVR_ENC_QUEUE_GET_SNAP`, is not to be written any
more. -/
theorem next_failed {v : Account} {c : ChNum} {ret : Int} (hret : ret < 0) :
  v.next (.getSnap c ret) = { v with loaded := none }
  := if_pos hret

end Account

/-- The monitor of the snapshots, which keeps the `Account` and allows what is right by it. -/
def monitor : Monitor Account Message := ⟨Account.next, Account.Allows⟩

variable {t t' : State} {c : ChNum} {e : Message} {place : Place} {input : Input}
  {inputs inputs' : List Input}

namespace State

/-- The account of what has been done in `t`, from the first message on. -/
def account (t : State) : Account := monitor.after .start t.messages

@[simp]
theorem account_send : (t.send e place).account = t.account.next e := Monitor.after_concat

end State

/-- The account behind polling the devices with the result `ret`: the failures in a row are those
that the thread counts. -/
theorem pollDevices_account (hdue : t.account.due = false) (hfailed : t.account.failed = t.numTime)
    (ret : Int) :
  (pollDevices ret t).account = { t.account with failed := (pollDevices ret t).numTime }
  := by
  unfold pollDevices
  split
  · next hret =>
      have hpolled : t.account.next (.poll ret) = { t.account with
          failed := t.account.failed + 1, due := t.account.failed + 1 > 3000 } := if_pos hret
      apply Monitor.after_append.trans
      change monitor.after (t.account.next (.poll ret)) _ = _
      rw [hpolled, ← hfailed]
      split
      · simp [Monitor.after, monitor, Account.next, hdue]
      · next hfew => simp [Monitor.after, hfew, hdue]
  · next hret => exact Monitor.after_concat.trans (if_neg hret)

/-- The channel has had its turn in `set_poll_event` in this round, by the place of the thread. -/
def Place.Looked : Place → ChNum → Prop
  | .set, _ => False
  | .look d _, c => c < d
  | _, _ => True

/-- What `snap_start` has to do with the last request, by the place of the thread.  It is cleared at
the latest behind a snapshot, and is the number of that request as long as the thread deals with it. -/
def Stored (t : State) (v : Account) : Place → Prop
  | .tested c => v.tested = some c ∧ t.snapStart = v.pending
  | .loaded c id | .got c id => v.loaded = some (c, id) ∧ t.snapStart = v.pending
  | .written _ => True
  | _ => t.snapStart = 0 ∨ t.snapStart = v.pending

theorem looked_of_lookedPlace {d : ChNum} {ret : Int} (h : (lookedPlace c ret).Looked d) :
  d = c ∨ d < c
  := by
  have hchannels : ∀ c d : Fin 2, (c = 0 → d < 1) → d = c ∨ d < c := by decide
  apply hchannels c d
  intro hc
  rw [lookedPlace, if_pos hc] at h
  apply h

theorem stored_lookedPlace
    {v : Account} (h : t.snapStart = 0 ∨ t.snapStart = v.pending) (c : ChNum) (ret : Int) :
  Stored t v (lookedPlace c ret)
  := by
  unfold lookedPlace
  split
  · apply h
  · split
    · apply h
    · apply h

theorem stored_behind
    {v : Account} {ret : Int} (h : t.snapStart = 0 ∨ t.snapStart = v.pending) :
  Stored t v (behind c ret)
  := by
  unfold behind
  split
  · apply h
  · apply h

/-- What holds in every state `t`: the monitor has accepted what has been done; the number that is
stored is that of the last request, unless it has been used up or is about to be cleared; and a
snapshot is waited for at encoders only that have been asked for one. -/
structure Good (t : State) : Prop where
  accepted : monitor.Accepts .start t.messages
  due : t.account.due = false
  failed : t.account.failed = t.numTime
  stored : Stored t t.account t.place
  asked : ∀ c, t.place.Looked c → (t.pollFds c).events.snapBs = true → t.account.asked c = true

namespace Good

theorem start : Good .start where
  accepted := trivial
  due := rfl
  failed := rfl
  stored := Or.inl rfl
  asked _ h := h.elim

/-- A message `e` passes that is allowed and neither about polling nor about an encoder, and the
state stays `Good`. -/
theorem send
    (h : Good t) (hallows : t.account.Allows e) (hdue : (t.account.next e).due = t.account.due)
    (hfailed : (t.account.next e).failed = t.account.failed)
    (hasked : ∀ c, place.Looked c → (t.pollFds c).events.snapBs = true →
      (t.account.next e).asked c = true)
    (hstored : Stored t (t.account.next e) place) :
  Good (t.send e place)
  where
  accepted := h.accepted.concat hallows
  due := by rw [State.account_send, hdue, h.due]
  failed := by
    rw [State.account_send, hfailed]
    apply h.failed
  stored := by
    rw [State.account_send]
    apply hstored
  asked := by
    rw [State.account_send]
    apply hasked

/-- A request with the number `id` keeps the state `Good`, wherever it comes. -/
theorem snapshotStart (h : Good t) (id : UInt32) : Good (snapshotStart id t) := by
  have haccount : (Poll.snapshotStart id t).account = t.account.next (.snapshotStart id) :=
    Monitor.after_concat
  constructor
  · apply h.accepted.concat (e := .snapshotStart id)
    apply h.due
  · rw [haccount]
    apply h.due
  · rw [haccount]
    apply h.failed
  · rw [haccount]
    have hstored := h.stored
    change Stored _ _ t.place
    cases hplace : t.place with
    | tested c | loaded c id | got c id =>
        rw [hplace] at hstored
        exact ⟨hstored.1, rfl⟩
    | written c => trivial
    | set | poll | look | serve => exact Or.inr rfl
  · rw [haccount]
    apply h.asked

/-- The turn of the channel `c` in `set_poll_event` keeps the state `Good`. -/
theorem look
    (h : Good t) {ret : Int} (hplace : t.place = .look c ret)
    (enabledSnapshot : ChNum → SubNum → Bool) (s : Server) :
  Good (look enabledSnapshot s c ret t)
  := by
  have hstored := h.stored
  have hasked := h.asked
  rw [hplace] at hstored hasked
  unfold Poll.look
  dsimp only
  generalize (if (s.enc c).enabled = true ∧ ((List.finRange 9).any fun i => (s.bs c i).videoEnabled) =
    true then (0 : Int) else ret) = ret'
  split
  · next hwants =>
      have hpending : t.account.pending ≠ 0 := by
        rw [wantsSnap, Bool.and_eq_true, bne_iff_ne] at hwants
        rw [← hstored.resolve_left hwants.2]
        apply hwants.2
      have haccount : State.account (State.send { t with
          pollFds := Function.update t.pollFds c (pollFd enabledSnapshot s t c)
          place := lookedPlace c ret' } (.enSnap c) (lookedPlace c ret')) =
          t.account.next (.enSnap c) := Monitor.after_concat
      constructor
      · apply h.accepted.concat (e := .enSnap c)
        exact ⟨h.due, hpending⟩
      · rw [haccount]
        apply h.due
      · rw [haccount]
        apply h.failed
      · rw [haccount]
        apply stored_lookedPlace hstored
      · rw [haccount]
        intro d hlooked hsnap
        change Function.update t.account.asked c true d = true
        by_cases hd : d = c
        · rw [hd, Function.update_self]
        · rw [Function.update_of_ne hd]
          apply hasked d ((looked_of_lookedPlace hlooked).resolve_left hd)
          change (Function.update t.pollFds c _ d).events.snapBs = true at hsnap
          rwa [Function.update_of_ne hd] at hsnap
  · next hwants =>
      constructor
      · apply h.accepted
      · apply h.due
      · apply h.failed
      · apply stored_lookedPlace hstored
      · intro d hlooked hsnap
        change (Function.update t.pollFds c _ d).events.snapBs = true at hsnap
        by_cases hd : d = c
        · rw [hd, Function.update_self] at hsnap
          unfold pollFd at hsnap
          split at hsnap
          · exact absurd hsnap hwants
          · contradiction
        · rw [Function.update_of_ne hd] at hsnap
          apply hasked d ((looked_of_lookedPlace hlooked).resolve_left hd) hsnap

/-- Polling the devices keeps the state `Good`, also where the camera is rebooted. -/
theorem pollDevices (h : Good t) (hplace : t.place = .poll) (ret : Int) :
  Good (pollDevices ret t)
  := by
  have hstored := h.stored
  have hasked := h.asked
  rw [hplace] at hstored hasked
  have haccount := pollDevices_account h.due h.failed ret
  constructor
  · unfold Poll.pollDevices
    split
    · next hret =>
        apply Monitor.accepts_append.mpr
        refine ⟨h.accepted, h.due, ?_⟩
        split
        · next hmany =>
            refine ⟨?_, trivial⟩
            change (t.account.next (.poll ret)).due = true
            rw [Account.next, if_pos hret, h.failed]
            apply decide_eq_true hmany
        · trivial
    · apply h.accepted.concat
      exact h.due
  · rw [haccount]
    apply h.due
  · rw [haccount]
  · rw [haccount]
    unfold Poll.pollDevices
    split
    · apply hstored
    · apply hstored
  · rw [haccount]
    unfold Poll.pollDevices
    split
    · exact fun c hlooked => hlooked.elim
    · apply hasked

/-- If the thread goes on to `place` and does nothing, then the state stays `Good`. -/
theorem goes
    (h : Good t) (hlooked : ∀ c, place.Looked c → t.place.Looked c)
    (hstored : Stored t t.account place) :
  Good { t with place := place }
  :=
  ⟨h.accepted, h.due, h.failed, hstored, fun c hc => h.asked c (hlooked c hc)⟩

/-- The turn of the channel `c` in `do_poll_event` keeps the state `Good`. -/
theorem serve
    (h : Good t) {ret : Int} (hplace : t.place = .serve c ret) (revents : Revents)
    (read : Option Int) :
  Good (serve c ret revents read t)
  := by
  have hstored := h.stored
  have hasked := h.asked
  rw [hplace] at hstored hasked
  have hgoes (ret : Int) : Good { t with place := behind c ret } := by
    apply h.goes
    · intro d _
      rw [hplace]
      trivial
    · apply stored_behind hstored
  unfold Poll.serve
  split
  · apply hgoes
  · split
    · apply hgoes
    · split
      · next hsnap =>
          obtain ⟨-, hne, hsnap⟩ := hsnap
          have hpending := hstored.resolve_left hne
          apply h.send
          · refine ⟨h.due, ?_, hasked c trivial hsnap⟩
            rw [← hpending]
            apply hne
          · rfl
          · rfl
          · apply hasked
          · exact ⟨rfl, hpending⟩
      · apply hgoes

/-- A step keeps the state `Good`, whatever its `input` is. -/
theorem step (h : Good t) (hstep : Stepped t input t') : Good t' := by
  have hstored := h.stored
  have hasked := h.asked
  cases hstep with
  | snapshotStart id => apply h.snapshotStart
  | setBsBuf hplace ok => exact ⟨h.accepted, h.due, h.failed, h.stored, h.asked⟩
  | setPollEvent hplace =>
      rw [hplace] at hstored
      apply h.send (e := .setPollEvent) h.due rfl rfl
      · exact fun c hlooked => absurd hlooked (Fin.not_lt_zero c)
      · apply hstored
  | look hplace enabledSnapshot s => apply h.look hplace
  | poll hplace ret => apply h.pollDevices hplace
  | serve hplace revents read => apply h.serve hplace
  | load hplace =>
      rw [hplace] at hstored hasked
      apply h.send (e := .load _ t.snapStart) ⟨h.due, hstored⟩
      · rfl
      · rfl
      · apply hasked
      · exact ⟨rfl, hstored.2⟩
  | @got c id ret hplace hret =>
      rw [hplace] at hstored hasked
      apply h.send (e := .getSnap c ret) ⟨h.due, id, hstored.1⟩
      all_goals rw [Account.next_got hret]
      · apply hasked
      · apply hstored
  | @failed c id ret hplace hret =>
      rw [hplace] at hstored hasked
      apply h.send (e := .getSnap c ret) ⟨h.due, id, hstored.1⟩
      all_goals rw [Account.next_failed hret]
      · exact fun d _ => hasked d trivial
      · apply stored_behind
        apply Or.inr hstored.2
  | @writeJpg c id hplace =>
      rw [hplace] at hstored hasked
      apply h.send (e := .writeJpg c id) ⟨h.due, hstored.1⟩
      · rfl
      · rfl
      · apply hasked
      · trivial
  | clear hplace =>
      rw [hplace] at hasked
      refine ⟨h.accepted, h.due, h.failed, stored_behind (Or.inl rfl), ?_⟩
      exact fun d _ => hasked d trivial

theorem run
    {P : State → Input → Prop} (h : Good t) (hrun : Run Poll.step P t inputs t') :
  Good t'
  := by
  apply hrun.invariant (I := Good) _ h
  intro t input t' h _ hstep
  apply h.step (Stepped.of_step hstep)

end Good

/-! ### Requests that are kept -/

/-- The number in `snap_start` has been read for `write_jpg`, and has not been cleared since. -/
def Place.Claimed : Place → Prop
  | .loaded _ _ | .got _ _ | .written _ => True
  | _ => False

/-- A request does not come between the second reading of `snap_start` and its clearing. -/
def InTime (t : State) : Input → Prop
  | .snapshotStart _ => ¬t.place.Claimed
  | _ => True

/-- The number that is stored is that of the request that is pending; it is still the one that was read
for `write_jpg`, and when a snapshot has just been written no request is pending. -/
def Kept (t : State) (v : Account) : Place → Prop
  | .loaded _ _ | .got _ _ => v.current = true ∧ t.snapStart = v.pending
  | .written _ => v.pending = 0
  | _ => t.snapStart = v.pending

/-- At a `place` where the number has not been read, or has been cleared, it is kept if it is the
one that is pending. -/
theorem kept_of_not_claimed
    {v : Account} (hplace : ¬place.Claimed) : Kept t v place ↔ t.snapStart = v.pending
  := by
  cases place with
  | loaded | got | written => exact absurd trivial hplace
  | set | look | poll | serve | tested => rfl

theorem not_claimed_lookedPlace {ret : Int} : ¬(lookedPlace c ret).Claimed := by
  unfold lookedPlace
  split
  · exact id
  · split
    · exact id
    · exact id

theorem not_claimed_behind {ret : Int} : ¬(behind c ret).Claimed := by
  unfold behind
  split
  · exact id
  · exact id

/-- A step keeps the request that is pending, if those that come by `input` are in time. -/
theorem Kept.step
    (h : Kept t t.account t.place) (hgood : Good t) (hin : InTime t input)
    (hstep : Stepped t input t') :
  Kept t' t'.account t'.place
  := by
  cases hstep with
  | snapshotStart id =>
      apply (kept_of_not_claimed hin).mpr
      have haccount : (snapshotStart id t).account = t.account.next (.snapshotStart id) :=
        Monitor.after_concat
      rw [haccount]
      rfl
  | setBsBuf hplace ok => apply h
  | setPollEvent hplace =>
      rw [hplace] at h
      rw [State.account_send]
      apply h
  | look hplace enabledSnapshot s =>
      rw [hplace] at h
      unfold look
      dsimp only
      split
      · rw [State.account_send]
        apply (kept_of_not_claimed not_claimed_lookedPlace).mpr h
      · apply (kept_of_not_claimed not_claimed_lookedPlace).mpr h
  | poll hplace ret =>
      rw [hplace] at h
      rw [pollDevices_account hgood.due hgood.failed ret]
      unfold pollDevices
      split
      · apply h
      · apply h
  | @serve c _ hplace revents read =>
      rw [hplace] at h
      have hgoes (ret : Int) : Kept t t.account (behind c ret) :=
        (kept_of_not_claimed not_claimed_behind).mpr h
      unfold serve
      split
      · apply hgoes
      · split
        · apply hgoes
        · split
          · rw [State.account_send]
            apply h
          · apply hgoes
  | load hplace =>
      rw [hplace] at h
      rw [State.account_send]
      exact ⟨rfl, h⟩
  | got hplace hret =>
      rw [hplace] at h
      rw [State.account_send, Account.next_got hret]
      apply h
  | failed hplace hret =>
      rw [hplace] at h
      rw [State.account_send, Account.next_failed hret]
      apply (kept_of_not_claimed not_claimed_behind).mpr h.2
  | writeJpg hplace =>
      rw [hplace] at h
      rw [State.account_send]
      apply if_pos h.1
  | clear hplace =>
      rw [hplace] at h
      apply (kept_of_not_claimed not_claimed_behind).mpr
      apply Eq.symm h

/-- In every run the monitor accepts what is done: a snapshot is taken from an encoder that has been
asked for it in the same round, while a request is pending, and is written under the number that the
last request had stored when the thread read it; and the camera is rebooted whenever polling has failed
more than 3000 times in a row.  When a request stores its number at a place that is not between the
second reading and the clearing, and those behind it do so too, then the number of the last one of them
is kept until a snapshot has been written under it. -/
theorem snapshots_accepted (hrun : Run step (fun _ _ => True) .start inputs t) :
  monitor.Accepts .start t.messages
  ∧ t.account.due = false
  ∧ t.account.failed = t.numTime
  ∧ ∀ id inputs' t', ¬t.place.Claimed → Run step InTime (snapshotStart id t) inputs' t' →
      ¬t'.place.Claimed → t'.snapStart = t'.account.pending
  := by
  have hgood : Good t := Good.start.run hrun
  refine ⟨hgood.accepted, hgood.due, hgood.failed, ?_⟩
  intro id inputs' t' hplace hrun' hplace'
  have hkept : Good t' ∧ Kept t' t'.account t'.place := by
    apply hrun'.invariant (I := fun t => Good t ∧ Kept t t.account t.place)
    · rintro t input t' ⟨hgood, h⟩ hin hstep
      have hstepped := Stepped.of_step hstep
      exact ⟨hgood.step hstepped, h.step hgood hin hstepped⟩
    · use hgood.snapshotStart id
      apply (kept_of_not_claimed hplace).mpr
      have haccount : (snapshotStart id t).account = t.account.next (.snapshotStart id) :=
        Monitor.after_concat
      rw [haccount]
      rfl
  apply (kept_of_not_claimed hplace').mp hkept.2

/-- A server whose first channel is enabled at the descriptor 4, and runs with its main stream. -/
def running : Server :=
  (newServer rtspLiveStreaming).setAv 0 fun e =>
    { e with enabled := true, encFd := 4, bs := fun i => { e.bs i with videoEnabled := i = 0 } }

/-- Two requests are stored; a snapshot is written under the number of the second one, and a third
one comes before `snap_start` has been cleared. -/
def lostInputs : List Input :=
  [.setBsBuf true, .snapshotStart 5, .setPollEvent, .look (fun _ i => i = 0) running,
    .look (fun _ i => i = 0) running, .snapshotStart 6, .poll 1, .serve ⟨true, true⟩ (some 0), .load,
    .snapshotStart 7, .getSnap 0, .writeJpg, .clear]

/-- What passes in the steps `lostInputs`, with a single snapshot for the three requests. -/
def lostMessages : List Message :=
  [.snapshotStart 5, .setPollEvent, .enSnap 0, .snapshotStart 6, .poll 1, .test 0, .load 0 6,
    .snapshotStart 7, .getSnap 0 0, .writeJpg 0 6]

/-- The general `snapshots_accepted` at `lostInputs`: there is no snapshot for the first and the
third request, and no number is left. -/
theorem snapshots_accepted_lost :
  ∃ t, Run step (fun _ _ => True) .start lostInputs t
    ∧ monitor.Accepts .start t.messages
    ∧ t.messages = lostMessages ∧ t.snapStart = 0 ∧ t.account.pending = 7
  := by
  have hrun : (exec step (fun _ _ => True) .start lostInputs).any (fun t =>
      t.messages = lostMessages ∧ t.snapStart = 0 ∧ t.account.pending = 7) = true := by
    decide +kernel
  obtain ⟨t, hexec, ht⟩ := (Option.any_eq_true _ _).mp hrun
  have hrun := Run.of_exec hexec
  exact ⟨t, hrun, (snapshots_accepted hrun).1, of_decide_eq_true ht⟩

end Rtspd.Poll
