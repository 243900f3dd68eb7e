import Avserver.Library.Bracket
import Avserver.Msg.InRange

/-!
# The sockets of a request

Behind the loop `processMsg` connects to other processes: to the recorder, if the record
configuration is marked, and to the overlay process, if an OSD region has changed.  The first
socket is a variable of `rec_cfg_set`; the second is the variable `fd_socket` of `processMsg`,
which is closed where the region has been sent, and closed again at the end, since it is not set
back.  So each socket is closed once exactly when none to the overlay process has been obtained
(`sockets_closed_once_iff`).
-/

namespace Msg

open Library

variable {env : Env} {req : Request} {d : Device} {s t : Session}

/-! ### Sockets -/

/-- What `connect_local` and `send_local` yield behind the loop, for `UN_AVI_DOMAIN` and for
`UN_CAPOSD_DOMAIN`. -/
structure Sockets where
  avi : Int
  aviSent : Int
  caposd : Int
  caposdSent : Int

/-- `Osd_cfg_t` -/
structure OsdEntry where
  region : Int
  enable : Int
  x : Int
  y : Int
  w : Int
  h : Int
  name : List Char
deriving DecidableEq

/-- The entry of the region `r` in the overlay configuration of `c`. -/
def Contents.osdEntry (c : Contents) (r : Nat) : OsdEntry where
  region := c.int (.osd r .region)
  enable := c.int (.osd r .enable)
  x := c.int (.osd r .x)
  y := c.int (.osd r .y)
  w := c.int (.osd r .w)
  h := c.int (.osd r .h)
  name := c.str (.osdName r)

/-- What is sent: the record configuration, or the entry of the region `r`. -/
inductive Message where
  | recCfg (enable timeLen sch : Int)
  | osd (r : Nat) (entry : OsdEntry)
deriving DecidableEq

/-- The calls for sockets that are made behind the loop, with their results. -/
inductive SocketCall where
  | connectLocal (fd : Int)
  | sendLocal (fd : Int) (message : Message) (len : Int)
  | closeLocal (fd : Int)
deriving DecidableEq

/-- A socket is obtained when `connect_local` yields a descriptor, and is given back by
`close_local`. -/
def SocketCall.action : SocketCall → Action Int
  | .connectLocal fd => if 0 ≤ fd then .acquire fd else .other
  | .sendLocal _ _ _ => .other
  | .closeLocal fd => .release fd

/-- The calls of `rec_cfg_set`, which only reports what `send_local` yields. -/
def recCfgSetCalls (k : Sockets) (c : Contents) : List SocketCall :=
  let message : Message :=
    .recCfg (c.int (.recCfg .enable)) (c.int (.recCfg .timeLen)) (c.int (.recCfg .sch))
  if k.avi < 0 then [.connectLocal k.avi]
  else [.connectLocal k.avi, .sendLocal k.avi message k.aviSent, .closeLocal k.avi]

/-- The calls where a region is sent to the overlay process, and `fd_socket` behind them; the
number of the region is in its entry already. -/
def sendOsdCalls (k : Sockets) (s : Session) : List SocketCall × Int :=
  let r := s.osdRegion.toNat
  if s.osdCfg then
    if k.caposd ≥ 0 then
      ([.connectLocal k.caposd, .sendLocal k.caposd (.osd r (s.mem.osdEntry r)) k.caposdSent,
        .closeLocal k.caposd], k.caposd)
    else ([.connectLocal k.caposd], k.caposd)
  else ([], -1)

/-- The calls of `env`, with the result of `connect_local` for the overlay process as in `k`. -/
def Env.attach (env : Env) (k : Sockets) : Env :=
  { env with connectLocal := decide (k.caposd ≥ 0) }

/-- What follows the loop, `finish`, together with the calls for sockets that it makes. -/
def finishCalls (env : Env) (k : Sockets) (s : Session) :
    Except Fault (Session × List SocketCall) := do
  let s ← finishPreset s
  let recCalls :=
    if isSetFileChanged s.fileChangedFlag .recCfg then recCfgSetCalls k s.mem else []
  let s ← sendOsd (env.attach k) (notify (env.attach k) s)
  let osdCalls := (sendOsdCalls k s).1
  let fdSocket := (sendOsdCalls k s).2
  let s := writeFiles s
  let closing := if fdSocket ≥ 0 then [.closeLocal fdSocket] else []
  .ok (finishReboot s, recCalls ++ osdCalls ++ closing)

/-- `processMsg`, together with the calls for sockets that it makes. -/
def processMsgCalls (env : Env) (k : Sockets) (req : Request) (d : Device) :
    Except Fault (Reply × List SocketCall) := do
  let s ← processPairs (env.attach k) req (.start (env.attach k) d)
  let (s, calls) ← finishCalls env k s
  .ok (⟨s.device, s.ret, response s.pRet, s.effects⟩, calls)

/-- Without the calls for sockets, `processMsgCalls` is `processMsg`. -/
theorem processMsgCalls_fst (env : Env) (k : Sockets) (req : Request) (d : Device) :
  (processMsgCalls env k req d).map Prod.fst = processMsg (env.attach k) req d
  := by
  unfold processMsgCalls processMsg finishCalls finish
  cases processPairs (env.attach k) req (.start (env.attach k) d) with
  | error e => rfl
  | ok s =>
      cases hpreset : finishPreset s with
      | error e => simp [bind, Except.bind, Except.map, hpreset]
      | ok s₁ =>
          cases hsend : sendOsd (env.attach k) (notify (env.attach k) s₁) with
          | error e => simp [bind, Except.bind, Except.map, hpreset, hsend]
          | ok s₂ => simp [bind, Except.bind, Except.map, hpreset, hsend]

/-! ### What is closed -/

/-- Each socket that is obtained by the `calls` is closed, once, and nothing else is closed. -/
def ClosedOnce (calls : List SocketCall) : Prop :=
  Bracketed SocketCall.action 1 calls.reverse ∧ held SocketCall.action calls.reverse = []

instance (calls : List SocketCall) : Decidable (ClosedOnce calls) := instDecidableAnd

variable {k : Sockets} {calls calls' : List SocketCall}

/-- Behind calls that close each socket once, `calls'` keep to that exactly if they do so alone. -/
theorem ClosedOnce.append_iff (h : ClosedOnce calls) :
  ClosedOnce (calls ++ calls') ↔ ClosedOnce calls'
  := by
  unfold ClosedOnce
  rw [List.reverse_append, Bracketed.append_iff h.1 h.2, held_append h.2]

/-- The calls by which a socket `fd` is obtained, used and closed close each socket once. -/
theorem closedOnce_connected {fd len : Int} {message : Message} (h : 0 ≤ fd) :
  ClosedOnce [.connectLocal fd, .sendLocal fd message len, .closeLocal fd]
  := by
  have hconnect : SocketCall.action (.connectLocal fd) = .acquire fd := if_pos h
  have hheld : held SocketCall.action [.sendLocal fd message len, .connectLocal fd] = [fd] := by
    rw [held_other rfl, held_acquire hconnect]
    rfl
  constructor
  · have hobtained : Bracketed SocketCall.action 1 [.connectLocal fd] :=
      Bracketed.nil.acquire hconnect Nat.zero_lt_one
    have hsent : Bracketed SocketCall.action 1 [.sendLocal fd message len, .connectLocal fd] :=
      hobtained.other rfl
    apply hsent.release (k := fd) rfl
    rw [hheld]
    apply List.mem_singleton_self
  · change held SocketCall.action [.closeLocal fd, .sendLocal fd message len, .connectLocal fd] = []
    have hclose : SocketCall.action (.closeLocal fd) = .release fd := rfl
    rw [held_release hclose, hheld, List.erase_cons_head]

/-- A call of `connect_local` that obtains no socket leaves none to close. -/
theorem closedOnce_refused {fd : Int} (h : ¬ 0 ≤ fd) : ClosedOnce [.connectLocal fd] := by
  have hconnect : SocketCall.action (.connectLocal fd) = .other := if_neg h
  constructor
  · apply Bracketed.nil.other hconnect
  · apply held_other hconnect

/-- A call of `close_local` on a socket that is not held closes one too often. -/
theorem not_closedOnce_close {fd : Int} : ¬ ClosedOnce [.closeLocal fd] := by
  rintro ⟨⟨hmem, -⟩, -⟩
  cases hmem

theorem recCfgSetCalls_closedOnce (k : Sockets) (c : Contents) :
  ClosedOnce (recCfgSetCalls k c)
  := by
  unfold recCfgSetCalls
  split
  · next hneg => apply closedOnce_refused (by omega)
  · next hpos => apply closedOnce_connected (by omega)

/-- The calls for the overlay process, with the one at the end that closes its socket again, close
each socket once exactly when none has been obtained. -/
theorem sendOsdCalls_closedOnce (k : Sockets) (s : Session) :
  ClosedOnce ((sendOsdCalls k s).1 ++
      if (sendOsdCalls k s).2 ≥ 0 then [.closeLocal (sendOsdCalls k s).2] else [])
    ↔ ¬ (s.osdCfg = true ∧ 0 ≤ k.caposd)
  := by
  have hnone : ClosedOnce [] := ⟨Bracketed.nil, rfl⟩
  unfold sendOsdCalls
  by_cases hosd : s.osdCfg
  · by_cases hfd : k.caposd ≥ 0
    · simp only [if_pos hosd, if_pos hfd]
      rw [(closedOnce_connected hfd).append_iff]
      apply iff_of_false not_closedOnce_close
      exact fun hnot => hnot ⟨hosd, hfd⟩
    · simp only [if_pos hosd, if_neg hfd]
      rw [(closedOnce_refused hfd).append_iff]
      apply iff_of_true hnone
      exact fun hand => hfd hand.2
  · simp only [if_neg hosd]
    apply iff_of_true hnone
    exact fun hand => hosd hand.1

theorem sendOsd_osd : KeepsOsd s (sendOsd env s) :=
  ite_keeps (after_keeps fun _ => ok_keeps rfl) (ok_keeps rfl)

/-- The calls behind the loop close each socket once exactly when no socket to the overlay process
has been obtained. -/
theorem finishCalls_closedOnce {s' : Session} (h : finishCalls env k s = .ok (s', calls)) :
  ClosedOnce calls ↔ ¬ (s.osdCfg = true ∧ 0 ≤ k.caposd)
  := by
  obtain ⟨s₁, hs₁, h⟩ := bind_ok.mp h
  obtain ⟨s₂, hs₂, h⟩ := bind_ok.mp h
  obtain ⟨-, rfl⟩ := Prod.mk.inj (Except.ok.inj h)
  have hosd : s₂.osdCfg = s.osdCfg := by
    have hkept := ((sendOsd_osd _ hs₂).trans (notify_osd _ s₁)).trans (finishPreset_still.osd _ hs₁)
    apply (Prod.mk.inj hkept).2
  have hrec : ClosedOnce
      (if isSetFileChanged s₁.fileChangedFlag .recCfg then recCfgSetCalls k s₁.mem else []) := by
    split
    · apply recCfgSetCalls_closedOnce
    · exact ⟨Bracketed.nil, rfl⟩
  rw [List.append_assoc, hrec.append_iff, sendOsdCalls_closedOnce, hosd]

/-! ### The request -/

/-- A request closes each socket that it obtains once exactly when it obtains none to the overlay
process: no region has been changed by its items, or `connect_local` fails. -/
theorem sockets_closed_once_iff
    {reply : Reply} (h : processMsgCalls env k req d = .ok (reply, calls)) :
  ClosedOnce calls ↔ ¬ ((d.osdView (env.attach k) req).changed ∧ 0 ≤ k.caposd)
  := by
  obtain ⟨t, ht, h⟩ := bind_ok.mp h
  obtain ⟨⟨s, calls'⟩, hs, h⟩ := bind_ok.mp h
  obtain ⟨-, rfl⟩ := Prod.mk.inj (Except.ok.inj h)
  rw [finishCalls_closedOnce hs, (processPairs_views ht).osdCfg]

/-- A request that moves a region, so that the overlay process is to be told. -/
def osdRequest : Request :=
  [("0".toList, "1".toList), ("58".toList, "0".toList), ("60".toList, "5".toList)]

/-- If the overlay process does not run, the calls of `osdRequest` close each socket once. -/
theorem sockets_closed_once_iff_refused :
  ∃ reply calls, processMsgCalls .idle ⟨5, 0, -1, 0⟩ osdRequest .blank = .ok (reply, calls) ∧
    ClosedOnce calls
  := by
  have hok : (processMsgCalls .idle ⟨5, 0, -1, 0⟩ osdRequest .blank).map Prod.snd
      = .ok [.connectLocal (-1)] := by decide +kernel
  obtain ⟨⟨reply, calls⟩, h, -⟩ := map_ok.mp hok
  refine ⟨reply, calls, h, (sockets_closed_once_iff h).mpr ?_⟩
  exact fun hand => absurd hand.2 (by decide)

/-- The entry of the region that is sent for `osdRequest`. -/
def movedEntry : OsdEntry := { Contents.blank.osdEntry 0 with x := 5 }

/-- If the overlay process runs, the calls of `osdRequest` close the socket to it twice. -/
theorem osd_socket_closed_twice :
  ∃ reply, processMsgCalls .idle ⟨5, 0, 7, 0⟩ osdRequest .blank
      = .ok (reply,
        [.connectLocal 7, .sendLocal 7 (.osd 0 movedEntry) 0, .closeLocal 7, .closeLocal 7]) ∧
    ¬ ClosedOnce
      [.connectLocal 7, .sendLocal 7 (.osd 0 movedEntry) 0, .closeLocal 7, .closeLocal 7]
  := by
  have hok : (processMsgCalls .idle ⟨5, 0, 7, 0⟩ osdRequest .blank).map Prod.snd = .ok
      [.connectLocal 7, .sendLocal 7 (.osd 0 movedEntry) 0, .closeLocal 7, .closeLocal 7] := by
    decide +kernel
  obtain ⟨⟨reply, calls⟩, h, rfl⟩ := map_ok.mp hok
  exact ⟨reply, h, by decide⟩

end Msg
