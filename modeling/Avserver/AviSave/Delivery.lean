import Avserver.Library.Run
import Mathlib.Data.List.ReduceOption
import Mathlib.Tactic.Common

/-!
# Messages on their way to the recorder

For every message `rec_cfg_set` makes a connection to `Avi_Ctrl`: it connects, sends and closes,
and only then returns.  `Avi_Ctrl` waits in `select`, accepts at most one connection in a round,
puts it into the first free slot of its table, and then goes through the slots that `select` has
found ready, in the order of the slots: it reads a message and handles it, or finds that the
connection has ended and frees the slot.  The two run in any order with each other, and a
connection that finds no free slot is closed unread.

The slots are not served in the order of the connections.  But a connection is only made when the
one before it is closed, so in a round that accepts a connection all others are ready; at most one
connection that is accepted is unread, and at most one has been read and is not freed.  So the
messages are handled in the order in which they are sent, each once, and no connection is closed
unread.  When `select` finds nothing and no message is being sent, all have been handled, and it
finds something only so often (`messages_delivered`).
-/

namespace AviSave.Delivery

open Library

variable {μ : Type}

/-! ### The connections -/

/-- A connection: whether `send_local` has been called for it, what has been sent and not been
read, and whether the sender has closed it. -/
structure Conn (μ : Type) where
  wrote : Bool
  unread : Option μ
  closed : Bool
deriving DecidableEq

/-- A connection that has just been made: nothing has been written on it, and it is open. -/
def Conn.new : Conn μ := ⟨false, none, false⟩

/-- There is something to read on the connection `c`: a message, or its end. -/
def Conn.readable (c : Conn μ) : Bool := c.unread.isSome || c.closed

/-- Where `rec_cfg_set` is, with the message that it has printed: before `connect_local`, before
`send_local`, before `close_local`; or it has not been called. -/
inductive Sender (μ : Type) where
  | idle
  | connect (cmd : μ)
  | send (cmd : μ)
  | close
deriving DecidableEq

/-- Where `Avi_Ctrl` is: before `select`; before `accept`; or before the slot `i`.  The descriptors
that `select` has found ready are those of the connections with the given numbers. -/
inductive Place where
  | select
  | accept (readfset : List Nat)
  | serve (i : Nat) (readfset : List Nat)
deriving DecidableEq

/-- The sender, the connections in the order in which they have been made, how many of them have
been accepted, and `Avi_Ctrl` with the slots of its table: a connection goes by its number.  The
messages that have been sent, and those that have been handled, are kept on the side. -/
structure State (μ : Type) where
  sender : Sender μ
  conns : List (Conn μ)
  accepted : Nat
  arrClientFd : List (Option Nat)
  place : Place
  sent : List μ
  handled : List μ
deriving DecidableEq

/-- `AVI_LISTEN` -/
def aviListen : Nat := 5

/-- The state in which `Avi_Ctrl` listens, and no message has been sent. -/
def State.init : State μ where
  sender := .idle
  conns := []
  accepted := 0
  arrClientFd := List.replicate (aviListen - 1) none
  place := .select
  sent := []
  handled := []

/-- A step of the sender, `rec_cfg_set`, or of `Avi_Ctrl`, with what the call in it yields. -/
inductive Event (μ : Type) where
  /-- `rec_cfg_set` is called, and has printed its message -/
  | recCfgSet (cmd : μ)
  | connectLocal (ok : Bool)
  | sendLocal (ok : Bool)
  | closeLocal
  | select
  | accept (ok : Bool)
  /-- the slot that `Avi_Ctrl` has come to -/
  | serve
deriving DecidableEq

/-- There is something to read on the connection with the number `k`. -/
def State.readable (s : State μ) (k : Nat) : Bool := s.conns[k]?.any Conn.readable

/-- The clients in the slots of `s` that `select` finds ready, by the numbers of their
connections. -/
def State.readfset (s : State μ) : List Nat := s.arrClientFd.reduceOption.filter s.readable

/-- The connection that the sender is using, the last one, is changed by `f`. -/
def State.current (s : State μ) (f : Conn μ → Conn μ) : State μ :=
  match s.conns.getLast? with
  | some c => { s with conns := s.conns.dropLast ++ [f c] }
  | none => s

/-- `read`, for the connection `k` in the slot `i`: a message is handled, and at the end of the
connection the slot is freed.  Where there is nothing to read, `read` does not return. -/
def State.read (s : State μ) (i k : Nat) : Option (State μ) :=
  match s.conns[k]? with
  | some ⟨wrote, some m, closed⟩ =>
      some { s with conns := s.conns.set k ⟨wrote, none, closed⟩, handled := s.handled ++ [m] }
  | some ⟨_, none, true⟩ => some { s with arrClientFd := s.arrClientFd.set i none }
  | _ => none

/-- A step of the state `s` with an event; `none` when the sender or `Avi_Ctrl` is somewhere else,
or waits. -/
def step (s : State μ) : Event μ → Option (State μ)
  | .recCfgSet cmd =>
      match s.sender with
      | .idle => some { s with sender := .connect cmd }
      | _ => none
  | .connectLocal ok =>
      match s.sender with
      | .connect cmd =>
          if ok then some { s with sender := .send cmd, conns := s.conns ++ [Conn.new] }
          else some { s with sender := .idle }
      | _ => none
  | .sendLocal ok =>
      match s.sender with
      | .send cmd =>
          let s := { s with sender := .close }
          if ok then
            some { s.current ({ · with wrote := true, unread := some cmd }) with
              sent := s.sent ++ [cmd] }
          else some (s.current ({ · with wrote := true }))
      | _ => none
  | .closeLocal =>
      match s.sender with
      | .close => some ({ s with sender := .idle }.current ({ · with closed := true }))
      | _ => none
  | .select =>
      match s.place with
      | .select =>
          if s.accepted < s.conns.length then some { s with place := .accept s.readfset }
          else if s.readfset = [] then none
          else some { s with place := .serve 0 s.readfset }
      | _ => none
  | .accept ok =>
      match s.place with
      | .accept readfset =>
          if ok then
            match s.arrClientFd.findIdx? Option.isNone with
            | some i =>
                some { s with
                  accepted := s.accepted + 1
                  arrClientFd := s.arrClientFd.set i (some s.accepted)
                  place := if readfset = [] then .select else .serve 0 readfset }
            -- the client is closed
            | none => some { s with accepted := s.accepted + 1, place := .select }
          else some { s with place := .select }
      | _ => none
  | .serve =>
      match s.place with
      | .serve i readfset =>
          match s.arrClientFd[i]? with
          | some (some k) =>
              if k ∈ readfset then
                (s.read i k).map fun s => { s with place := .serve (i + 1) readfset }
              else some { s with place := .serve (i + 1) readfset }
          | some none => some { s with place := .serve (i + 1) readfset }
          | none => some { s with place := .select }
      | _ => none

/-- The event is a step of `Avi_Ctrl`, and not of the sender. -/
def Event.ofServer : Event μ → Bool
  | .select | .accept _ | .serve => true
  | .recCfgSet _ | .connectLocal _ | .sendLocal _ | .closeLocal => false

/-! ### The steps of the sender -/

/-- What a step of the sender does: `rec_cfg_set` is called; it connects, or gives up; it sends its
message, or fails to; and it closes the connection. -/
inductive SenderStepped (s : State μ) : Event μ → State μ → Prop where
  | recCfgSet {cmd : μ} (hsender : s.sender = .idle) :
      SenderStepped s (.recCfgSet cmd) { s with sender := .connect cmd }
  | connected {cmd : μ} (hsender : s.sender = .connect cmd) :
      SenderStepped s (.connectLocal true) { s with
        sender := .send cmd, conns := s.conns ++ [Conn.new] }
  | refused {cmd : μ} (hsender : s.sender = .connect cmd) :
      SenderStepped s (.connectLocal false) { s with sender := .idle }
  | sent {cmd : μ} (hsender : s.sender = .send cmd) :
      SenderStepped s (.sendLocal true)
        { State.current { s with sender := .close } ({ · with wrote := true, unread := some cmd })
          with sent := s.sent ++ [cmd] }
  | unsent {cmd : μ} (hsender : s.sender = .send cmd) :
      SenderStepped s (.sendLocal false)
        (State.current { s with sender := .close } ({ · with wrote := true }))
  | closed (hsender : s.sender = .close) :
      SenderStepped s .closeLocal
        (State.current { s with sender := .idle } ({ · with closed := true }))

/-- Every step of the sender is one of those of `SenderStepped`, according to where it is. -/
theorem senderStepped_of_step
    {s s' : State μ} {ev : Event μ} (hev : ev.ofServer = false) (hstep : step s ev = some s') :
  SenderStepped s ev s'
  := by
  cases ev with
  | recCfgSet cmd =>
      simp only [step] at hstep
      split at hstep
      · next hsender =>
          obtain rfl := Option.some.inj hstep
          apply SenderStepped.recCfgSet hsender
      · contradiction
  | connectLocal ok =>
      simp only [step] at hstep
      split at hstep
      · next hsender =>
          cases ok with
          | true =>
              obtain rfl := Option.some.inj hstep
              apply SenderStepped.connected hsender
          | false =>
              obtain rfl := Option.some.inj hstep
              apply SenderStepped.refused hsender
      · contradiction
  | sendLocal ok =>
      simp only [step] at hstep
      split at hstep
      · next hsender =>
          cases ok with
          | true =>
              obtain rfl := Option.some.inj hstep
              apply SenderStepped.sent hsender
          | false =>
              obtain rfl := Option.some.inj hstep
              apply SenderStepped.unsent hsender
      · contradiction
  | closeLocal =>
      simp only [step] at hstep
      split at hstep
      · next hsender =>
          obtain rfl := Option.some.inj hstep
          apply SenderStepped.closed hsender
      · contradiction
  | select | accept ok | serve => contradiction

/-! ### The steps of `Avi_Ctrl` -/

/-- What a step of `Avi_Ctrl` with an event does to the state `s`, one case for each branch of its
loop. -/
inductive Stepped (s : State μ) : Event μ → State μ → Prop where
  | selectServer (hplace : s.place = .select) (hlt : s.accepted < s.conns.length) :
      Stepped s .select { s with place := .accept s.readfset }
  | selectClients (hplace : s.place = .select) (hsome : s.readfset ≠ []) :
      Stepped s .select { s with place := .serve 0 s.readfset }
  | client {readfset : List Nat} {i : Nat} (hplace : s.place = .accept readfset)
      (hslot : s.arrClientFd[i]? = some none) :
      Stepped s (.accept true) { s with
        accepted := s.accepted + 1
        arrClientFd := s.arrClientFd.set i (some s.accepted)
        place := if readfset = [] then .select else .serve 0 readfset }
  | full {readfset : List Nat} (hplace : s.place = .accept readfset)
      (hfull : none ∉ s.arrClientFd) :
      Stepped s (.accept true) { s with accepted := s.accepted + 1, place := .select }
  | fails {readfset : List Nat} (hplace : s.place = .accept readfset) :
      Stepped s (.accept false) { s with place := .select }
  | message {i k : Nat} {readfset : List Nat} {wrote closed : Bool} {m : μ}
      (hplace : s.place = .serve i readfset) (hslot : s.arrClientFd[i]? = some (some k))
      (hready : k ∈ readfset) (hconn : s.conns[k]? = some ⟨wrote, some m, closed⟩) :
      Stepped s .serve { s with
        conns := s.conns.set k ⟨wrote, none, closed⟩
        handled := s.handled ++ [m]
        place := .serve (i + 1) readfset }
  | ended {i k : Nat} {readfset : List Nat} {wrote : Bool} (hplace : s.place = .serve i readfset)
      (hslot : s.arrClientFd[i]? = some (some k)) (hready : k ∈ readfset)
      (hconn : s.conns[k]? = some ⟨wrote, none, true⟩) :
      Stepped s .serve { s with
        arrClientFd := s.arrClientFd.set i none
        place := .serve (i + 1) readfset }
  | pass {i : Nat} {readfset : List Nat} {slot : Option Nat} (hplace : s.place = .serve i readfset)
      (hslot : s.arrClientFd[i]? = some slot) (hnot : ∀ k, slot = some k → k ∉ readfset) :
      Stepped s .serve { s with place := .serve (i + 1) readfset }
  | roundEnd {i : Nat} {readfset : List Nat} (hplace : s.place = .serve i readfset)
      (hend : s.arrClientFd[i]? = none) :
      Stepped s .serve { s with place := .select }

variable {s s' : State μ} {i j k : Nat} {c : Conn μ} {readfset : List Nat}

theorem stepped_of_step {ev : Event μ} (hev : ev.ofServer = true) (hstep : step s ev = some s') :
  Stepped s ev s'
  := by
  cases ev with
  | recCfgSet cmd | connectLocal ok | sendLocal ok | closeLocal => contradiction
  | select =>
      simp only [step] at hstep
      split at hstep
      · next hplace =>
          split at hstep
          · next hlt =>
              obtain rfl := Option.some.inj hstep
              apply Stepped.selectServer hplace hlt
          · split at hstep
            · contradiction
            · next hsome =>
                obtain rfl := Option.some.inj hstep
                apply Stepped.selectClients hplace hsome
      · contradiction
  | accept ok =>
      simp only [step] at hstep
      split at hstep
      · next readfset hplace =>
          cases ok with
          | true =>
              rw [if_pos rfl] at hstep
              split at hstep
              · next i hfree =>
                  obtain rfl := Option.some.inj hstep
                  obtain ⟨hi, hnone, -⟩ := List.findIdx?_eq_some_iff_getElem.mp hfree
                  apply Stepped.client hplace
                  rw [List.getElem?_eq_getElem hi, Option.isNone_iff_eq_none.mp hnone]
              · next hfull =>
                  obtain rfl := Option.some.inj hstep
                  apply Stepped.full hplace
                  intro hnone
                  apply absurd (List.findIdx?_eq_none_iff.mp hfull none hnone)
                  simp
          | false =>
              rw [if_neg Bool.false_ne_true] at hstep
              obtain rfl := Option.some.inj hstep
              apply Stepped.fails hplace
      · contradiction
  | serve =>
      simp only [step] at hstep
      split at hstep
      · next i readfset hplace =>
          split at hstep
          · next k hk =>
              split at hstep
              · next hready =>
                  obtain ⟨s₁, hread, rfl⟩ := Option.map_eq_some_iff.mp hstep
                  unfold State.read at hread
                  split at hread
                  · next hconn =>
                      obtain rfl := Option.some.inj hread
                      apply Stepped.message hplace hk hready hconn
                  · next hconn =>
                      obtain rfl := Option.some.inj hread
                      apply Stepped.ended hplace hk hready hconn
                  · contradiction
              · next hnot =>
                  obtain rfl := Option.some.inj hstep
                  apply Stepped.pass hplace hk
                  rintro k' hk'
                  obtain rfl := Option.some.inj hk'
                  apply hnot
          · next hk =>
              obtain rfl := Option.some.inj hstep
              apply Stepped.pass hplace hk
              rintro k' hk'
              cases hk'
          · next hk =>
              obtain rfl := Option.some.inj hstep
              apply Stepped.roundEnd hplace hk
      · contradiction

/-! ### Connections that are spent -/

/-- What has been sent on the connection `k`, if anything, has been read, and nothing more will
be sent. -/
def State.Spent (s : State μ) (k : Nat) : Prop :=
  ∃ c, s.conns[k]? = some c ∧ c.wrote = true ∧ c.unread = none

/-- The sender is done with the connection `k`: it has written on it and closed it. -/
def State.Ended (s : State μ) (k : Nat) : Prop :=
  ∃ c, s.conns[k]? = some c ∧ c.wrote = true ∧ c.closed = true

theorem State.Ended.readable (h : s.Ended k) : s.readable k = true := by
  obtain ⟨c, hc, -, hclosed⟩ := h
  simp [State.readable, hc, Conn.readable, hclosed]

/-- What the sender does: there are more connections; on those that there were, nothing has been
sent that was spent, and what could be read still can; and `Avi_Ctrl` is as it was. -/
structure Grows (s s' : State μ) : Prop where
  length : s.conns.length ≤ s'.conns.length
  spent : ∀ k, s.Spent k → s'.Spent k
  readable : ∀ k, s.readable k = true → s'.readable k = true
  accepted : s'.accepted = s.accepted
  arrClientFd : s'.arrClientFd = s.arrClientFd
  place : s'.place = s.place

/-- If `c` is the last connection of `s`, then the change of the current connection by `f` replaces
it by `f c`. -/
theorem State.current_eq {f : Conn μ → Conn μ} {init : List (Conn μ)} (h : s.conns = init ++ [c]) :
  s.current f = { s with conns := init ++ [f c] }
  := by simp [State.current, h]

/-- In the list of the connections `init` and then `c`, one is among the first ones or it is `c`. -/
theorem getElem?_concat_cases {init : List (Conn μ)} {c' : Conn μ}
    (h : (init ++ [c])[k]? = some c') :
  (k < init.length ∧ init[k]? = some c') ∨ (k = init.length ∧ c' = c)
  := by
  rcases Nat.lt_trichotomy k init.length with hlt | rfl | hgt
  · left
    rw [List.getElem?_append_left hlt] at h
    use hlt, h
  · right
    rw [List.getElem?_concat_length] at h
    use rfl
    apply (Option.some.inj h).symm
  · rw [List.getElem?_eq_none (by simp; omega)] at h
    contradiction

/-- A change of the last connection `c` to `c'` is one of those of `Grows` if a connection that was
spent or readable before is so behind it. -/
theorem Grows.concat {init : List (Conn μ)} {c' : Conn μ} {sender : Sender μ} {sent : List μ}
    (h : s.conns = init ++ [c])
    (hspent : c.wrote = true → c.unread = none → c'.wrote = true ∧ c'.unread = none)
    (hreadable : c.readable = true → c'.readable = true)
    (h' : s' = { s with sender := sender, conns := init ++ [c'], sent := sent }) :
  Grows s s'
  := by
  subst h'
  constructor
  · simp [h]
  · rintro k ⟨d, hd, hwrote, hunread⟩
    rw [h] at hd
    obtain ⟨hlt, hd⟩ | ⟨rfl, rfl⟩ := getElem?_concat_cases hd
    · use d
      rw [List.getElem?_append_left hlt]
      use hd, hwrote
    · use c'
      rw [List.getElem?_concat_length]
      use rfl
      apply hspent hwrote hunread
  · intro k hk
    unfold State.readable at hk ⊢
    obtain ⟨d, hd, hread⟩ := (Option.any_eq_true _ _).mp hk
    rw [h] at hd
    apply (Option.any_eq_true _ _).mpr
    obtain ⟨hlt, hd⟩ | ⟨rfl, rfl⟩ := getElem?_concat_cases hd
    · use d
      rw [List.getElem?_append_left hlt]
      use hd, hread
    · use c'
      rw [List.getElem?_concat_length]
      use rfl
      apply hreadable hread
  · rfl
  · rfl
  · rfl

/-! ### The order of the messages -/

/-- The messages that have been sent and not been read, in the order of the connections. -/
def State.unread (s : State μ) : List μ := s.conns.filterMap Conn.unread

/-- If the connection `k` is the first one on which something is unread, then reading it takes the
first message from those that are unread. -/
theorem filterMap_unread_set {conns : List (Conn μ)} {m : μ} {wrote closed : Bool}
    (hk : conns[k]? = some ⟨wrote, some m, closed⟩)
    (hbefore : ∀ j < k, ∀ c, conns[j]? = some c → c.unread = none) :
  conns.filterMap Conn.unread
    = m :: (conns.set k ⟨wrote, none, closed⟩).filterMap Conn.unread
  := by
  induction conns generalizing k with
  | nil => cases hk
  | cons c conns ih =>
      cases k with
      | zero =>
          obtain rfl := Option.some.inj hk
          simp
      | succ k =>
          have hc : c.unread = none := hbefore 0 (Nat.succ_pos k) c rfl
          have hconns : conns.filterMap Conn.unread
              = m :: (conns.set k ⟨wrote, none, closed⟩).filterMap Conn.unread := by
            apply ih hk
            intro j hj d hd
            apply hbefore (j + 1) (Nat.succ_lt_succ hj) d hd
          simp only [List.set_cons_succ, List.filterMap_cons, hc, hconns]

/-! ### What is kept -/

/-- The connection `k` is the last one that has been accepted, or the one before it, and spent. -/
def State.Recent (s : State μ) (k : Nat) : Prop :=
  k + 1 = s.accepted ∨ (k + 2 = s.accepted ∧ s.Spent k)

/-- The connection `k` is going to be read in this round: there is something to read on it, and all
that came before it are spent.  It is one of the last three that have been accepted, and the first
of these is spent. -/
def State.Due (s : State μ) (k : Nat) : Prop :=
  s.readable k = true ∧ (∀ j < k, s.Spent j)
    ∧ (k + 1 = s.accepted ∨ k + 2 = s.accepted ∨ (k + 3 = s.accepted ∧ s.Spent k))

/-- What is known of the connections in the slots at each place of the loop of `Avi_Ctrl`: they are
`Recent`, or `Due` in this round. -/
def State.Served (s : State μ) : Prop :=
  match s.place with
  | .select => ∀ k, some k ∈ s.arrClientFd → s.Recent k
  | .accept readfset =>
      s.accepted < s.conns.length
        ∧ ∀ k, (some k ∈ s.arrClientFd → s.Recent k) ∧ (k ∈ readfset ↔ some k ∈ s.arrClientFd)
  | .serve i readfset =>
      ∀ j k, s.arrClientFd[j]? = some (some k) →
        if i ≤ j ∧ k ∈ readfset then s.Due k else s.Recent k

/-- The connection that was made last is as the sender has left it, at the place where the sender
is. -/
def Sender.Leaves : Sender μ → Option (Conn μ) → Prop
  | .idle, last | .connect _, last => ∀ c ∈ last, c.wrote = true ∧ c.closed = true
  | .send _, last => last = some Conn.new
  | .close, last => ∃ c, last = some c ∧ c.wrote = true

/-- What every step keeps: a connection that has been accepted is in one slot or spent, all but the
last one have ended, and what has been sent has been handled, in this order, or is unread. -/
structure Kept (s : State μ) : Prop where
  slots : s.arrClientFd.length = aviListen - 1
  distinct : ∀ i j k : Nat,
    s.arrClientFd[i]? = some (some k) → s.arrClientFd[j]? = some (some k) → i = j
  accepted : s.accepted ≤ s.conns.length
  waiting : ∀ k, some k ∈ s.arrClientFd → k < s.accepted
  gone : ∀ k < s.accepted, some k ∉ s.arrClientFd → s.Spent k
  ended : ∀ k, k + 1 < s.conns.length → s.Ended k
  last : s.sender.Leaves s.conns.getLast?
  served : s.Served
  order : s.handled ++ s.unread = s.sent

theorem kept_init : Kept (State.init : State μ) where
  slots := List.length_replicate
  distinct := by
    intro i j k hi
    have hmem := List.mem_of_getElem? hi
    simp [State.init] at hmem
  accepted := Nat.le_refl 0
  waiting := by simp [State.init]
  gone := by simp [State.init]
  ended := by simp [State.init]
  last := by simp [State.init, Sender.Leaves]
  served := by simp [State.init, State.Served]
  order := rfl

theorem State.Recent.grows (h : s.Recent k) (hgrows : Grows s s') :
  s'.Recent k
  := by
  rw [State.Recent, hgrows.accepted]
  apply h.imp_right
  exact fun h => ⟨h.1, hgrows.spent k h.2⟩

theorem State.Due.grows (h : s.Due k) (hgrows : Grows s s') :
  s'.Due k
  := by
  obtain ⟨hreadable, hbefore, hrecent⟩ := h
  use hgrows.readable k hreadable, fun j hj => hgrows.spent j (hbefore j hj)
  rw [hgrows.accepted]
  apply hrecent.imp_right
  apply Or.imp_right
  exact fun h => ⟨h.1, hgrows.spent k h.2⟩

theorem State.Served.grows (h : s.Served) (hgrows : Grows s s') : s'.Served := by
  unfold State.Served at h ⊢
  rw [hgrows.place, hgrows.arrClientFd, hgrows.accepted]
  cases hs : s.place with
  | select =>
      rw [hs] at h
      intro k hk
      apply (h k hk).grows hgrows
  | accept readfset =>
      rw [hs] at h
      use Nat.lt_of_lt_of_le h.1 hgrows.length
      intro k
      constructor
      · intro hk
        apply ((h.2 k).1 hk).grows hgrows
      · apply (h.2 k).2
  | serve i readfset =>
      rw [hs] at h
      intro j k hk
      have hjk := h j k hk
      by_cases hdue : i ≤ j ∧ k ∈ readfset
      · rw [if_pos hdue] at hjk ⊢
        apply hjk.grows hgrows
      · rw [if_neg hdue] at hjk ⊢
        apply hjk.grows hgrows

/-- A step of the sender that changes the connections as `Grows` says, and what has been sent, keeps
the invariant `Kept`. -/
theorem Kept.grows (h : Kept s) (hgrows : Grows s s')
    (hended : ∀ k, k + 1 < s'.conns.length → s'.Ended k)
    (hlast : s'.sender.Leaves s'.conns.getLast?) (horder : s'.handled ++ s'.unread = s'.sent) :
  Kept s'
  where
  slots := hgrows.arrClientFd ▸ h.slots
  distinct := hgrows.arrClientFd ▸ h.distinct
  accepted := hgrows.accepted ▸ Nat.le_trans h.accepted hgrows.length
  waiting := by
    rw [hgrows.arrClientFd, hgrows.accepted]
    apply h.waiting
  gone := by
    rw [hgrows.arrClientFd, hgrows.accepted]
    intro k hk hnot
    apply hgrows.spent k (h.gone k hk hnot)
  ended := hended
  last := hlast
  served := h.served.grows hgrows
  order := horder

/-- If only the last connection is changed, those before it have ended as before. -/
theorem ended_concat {init : List (Conn μ)} {c' : Conn μ} (h : s.conns = init ++ [c])
    (h' : s'.conns = init ++ [c']) (hended : ∀ k, k + 1 < s.conns.length → s.Ended k) :
  ∀ k, k + 1 < s'.conns.length → s'.Ended k
  := by
  intro k hk
  have hlt : k < init.length := by
    rw [h', List.length_append, List.length_singleton] at hk
    omega
  obtain ⟨d, hd, hwrote, hclosed⟩ := hended k (by simp [h, hlt])
  use d
  rw [h, List.getElem?_append_left hlt] at hd
  rw [h', List.getElem?_append_left hlt]
  use hd, hwrote

/-! ### The sender -/

/-- The sender goes on, and does nothing with the connections: the invariant `Kept` holds as
before. -/
theorem Kept.sender (h : Kept s) {sender : Sender μ} (hlast : sender.Leaves s.conns.getLast?) :
  Kept { s with sender := sender }
  := by
  apply h.grows
  · exact ⟨Nat.le_refl _, fun _ hk => hk, fun _ hk => hk, rfl, rfl, rfl⟩
  · apply h.ended
  · apply hlast
  · apply h.order

/-- A connection is made, when the one before it has ended: the invariant `Kept` holds with the new
one. -/
theorem Kept.connected (h : Kept s) {cmd : μ} (hsender : s.sender = .connect cmd) :
  Kept { s with sender := .send cmd, conns := s.conns ++ [Conn.new] }
  := by
  have hlast := h.last
  rw [hsender] at hlast
  have hold {k : Nat} {d : Conn μ} (hd : s.conns[k]? = some d) :
      (s.conns ++ [Conn.new])[k]? = some d := by
    rw [List.getElem?_append_left (List.getElem?_eq_some_iff.mp hd).1, hd]
  apply h.grows
  · constructor
    · simp
    · rintro k ⟨d, hd, hd'⟩
      exact ⟨d, hold hd, hd'⟩
    · intro k hk
      obtain ⟨d, hd, hd'⟩ := (Option.any_eq_true _ _).mp hk
      apply (Option.any_eq_true _ _).mpr ⟨d, hold hd, hd'⟩
    · rfl
    · rfl
    · rfl
  · intro k hk
    rw [List.length_append, List.length_singleton, Nat.add_lt_add_iff_right] at hk
    have hend : s.Ended k := by
      obtain hlt | hge := Nat.lt_or_ge (k + 1) s.conns.length
      · apply h.ended k hlt
      · use s.conns[k], List.getElem?_eq_getElem hk
        apply hlast
        rw [List.getLast?_eq_getElem?, show s.conns.length - 1 = k by omega]
        apply List.getElem?_eq_getElem hk
    obtain ⟨d, hd, hd'⟩ := hend
    exact ⟨d, hold hd, hd'⟩
  · simp [Sender.Leaves]
  · have hnew : (s.conns ++ [Conn.new]).filterMap Conn.unread = s.unread := by
      simp [Conn.new, State.unread]
    rw [State.unread, hnew]
    apply h.order

/-- The message `cmd` is sent on the connection that has just been made, and is the last one that is
unread: `Kept` holds. -/
theorem Kept.sent (h : Kept s) {cmd : μ} (hsender : s.sender = .send cmd) :
  Kept { State.current { s with sender := .close }
      ({ · with wrote := true, unread := some cmd }) with sent := s.sent ++ [cmd] }
  := by
  have hlast := h.last
  rw [hsender] at hlast
  obtain ⟨init, hconns⟩ := List.getLast?_eq_some_iff.mp hlast
  have horder : s.handled ++ init.filterMap Conn.unread = s.sent := by
    simpa [State.unread, hconns, Conn.new] using h.order
  rw [State.current_eq (by exact hconns)]
  apply h.grows
  · apply Grows.concat hconns _ _ rfl
    · simp [Conn.new]
    · simp [Conn.new, Conn.readable]
  · apply ended_concat hconns rfl h.ended
  · simp [Sender.Leaves]
  · simp [State.unread, ← horder]

/-- Nothing is sent on the connection that has just been made, where `send_local` fails: `Kept`
holds. -/
theorem Kept.unsent (h : Kept s) {cmd : μ} (hsender : s.sender = .send cmd) :
  Kept (State.current { s with sender := .close } ({ · with wrote := true }))
  := by
  have hlast := h.last
  rw [hsender] at hlast
  obtain ⟨init, hconns⟩ := List.getLast?_eq_some_iff.mp hlast
  have horder : s.handled ++ init.filterMap Conn.unread = s.sent := by
    simpa [State.unread, hconns, Conn.new] using h.order
  rw [State.current_eq (by exact hconns)]
  apply h.grows
  · apply Grows.concat hconns _ _ rfl
    · simp [Conn.new]
    · simp [Conn.new, Conn.readable]
  · apply ended_concat hconns rfl h.ended
  · simp [Sender.Leaves]
  · simp [State.unread, Conn.new, ← horder]

/-- The sender closes its connection, and what has been sent on it stays to be read: `Kept`
holds. -/
theorem Kept.closed (h : Kept s) (hsender : s.sender = .close) :
  Kept (State.current { s with sender := .idle } ({ · with closed := true }))
  := by
  have hlast := h.last
  rw [hsender] at hlast
  obtain ⟨c, hc, hwrote⟩ := hlast
  obtain ⟨init, hconns⟩ := List.getLast?_eq_some_iff.mp hc
  rw [State.current_eq (by exact hconns)]
  apply h.grows
  · apply Grows.concat hconns _ _ rfl
    · simp +contextual
    · simp [Conn.readable]
  · apply ended_concat hconns rfl h.ended
  · simp [Sender.Leaves, hwrote]
  · rw [← h.order, State.unread, State.unread, hconns, List.filterMap_append,
      List.filterMap_append]
    rfl

/-- Every step of the sender, as `SenderStepped` lists them, keeps the invariant `Kept`. -/
theorem Kept.senderStep (h : Kept s) {ev : Event μ} (hstep : SenderStepped s ev s') : Kept s' := by
  have hlast := h.last
  cases hstep with
  | recCfgSet hsender =>
      rw [hsender] at hlast
      apply h.sender
      apply hlast
  | connected hsender => apply h.connected hsender
  | refused hsender =>
      rw [hsender] at hlast
      apply h.sender
      apply hlast
  | sent hsender => apply h.sent hsender
  | unsent hsender => apply h.unsent hsender
  | closed hsender => apply h.closed hsender

/-! ### The rounds of `Avi_Ctrl` -/

/-- Every connection `k` but the last one has ended, so it can be read. -/
theorem Kept.readable (h : Kept s) (hk : k + 1 < s.conns.length) : s.readable k = true :=
  (h.ended k hk).readable

theorem mem_readfset : k ∈ s.readfset ↔ some k ∈ s.arrClientFd ∧ s.readable k = true := by
  rw [State.readfset, List.mem_filter, List.reduceOption_mem_iff]

/-- If the connections in the slots are `Recent`, then every connection `k` that has been accepted,
but the last one, is spent. -/
theorem Kept.before (h : Kept s) (hrecent : ∀ k, some k ∈ s.arrClientFd → s.Recent k)
    (hk : k + 1 < s.accepted) :
  s.Spent k
  := by
  by_cases hmem : some k ∈ s.arrClientFd
  · obtain hlast | ⟨-, hspent⟩ := hrecent k hmem
    · omega
    · apply hspent
  · apply h.gone k (by omega) hmem

/-- `Avi_Ctrl` goes on to another `place`, at which what `Served` says of the slots holds: `Kept`
holds there. -/
theorem Kept.goOn (h : Kept s) {place : Place} (hserved : State.Served { s with place := place }) :
  Kept { s with place := place }
  where
  slots := h.slots
  distinct := h.distinct
  accepted := h.accepted
  waiting := h.waiting
  gone := h.gone
  ended := h.ended
  last := h.last
  served := hserved
  order := h.order

/-- A round begins in which a connection is going to be accepted: all that are in the slots are
ready, and `Kept` holds. -/
theorem Kept.selectServer (h : Kept s) (hplace : s.place = .select)
    (hlt : s.accepted < s.conns.length) :
  Kept { s with place := .accept s.readfset }
  := by
  have hrecent := h.served
  rw [State.Served, hplace] at hrecent
  apply h.goOn
  use hlt
  intro k
  use hrecent k
  rw [mem_readfset]
  apply and_iff_left_of_imp
  intro hk
  have hwaiting := h.waiting k hk
  apply h.readable
  omega

/-- A round begins in which only the slots are read: `Kept` holds. -/
theorem Kept.selectClients (h : Kept s) (hplace : s.place = .select) :
  Kept { s with place := .serve 0 s.readfset }
  := by
  have hrecent := h.served
  rw [State.Served, hplace] at hrecent
  apply h.goOn
  intro j k hk
  have hmem := List.mem_of_getElem? hk
  split
  · next hready =>
      use (mem_readfset.mp hready.2).2
      constructor
      · intro j hj
        have hwaiting := h.waiting k hmem
        apply h.before hrecent
        omega
      · apply (hrecent k hmem).imp_right
        exact fun h => Or.inl h.1
  · apply hrecent k hmem

/-- If the connections in the slots are `Recent`, there are at most two of them, so one slot is
free. -/
theorem Kept.exists_free (h : Kept s) (hrecent : ∀ k, some k ∈ s.arrClientFd → s.Recent k) :
  none ∈ s.arrClientFd
  := by
  by_contra hfull
  have hslot (i : Nat) (hi : i < aviListen - 1) :
      ∃ k, s.arrClientFd[i]? = some (some k) ∧ (k + 1 = s.accepted ∨ k + 2 = s.accepted) := by
    have hlt : i < s.arrClientFd.length := h.slots ▸ hi
    obtain ⟨slot, hslot⟩ : ∃ slot, s.arrClientFd[i]? = some slot :=
      ⟨_, List.getElem?_eq_getElem hlt⟩
    have hmem := List.mem_of_getElem? hslot
    cases slot with
    | none => contradiction
    | some k =>
        use k, hslot
        apply (hrecent k hmem).imp_right
        exact And.left
  obtain ⟨k₀, hk₀, hrecent₀⟩ := hslot 0 (by decide)
  obtain ⟨k₁, hk₁, hrecent₁⟩ := hslot 1 (by decide)
  obtain ⟨k₂, hk₂, hrecent₂⟩ := hslot 2 (by decide)
  have hne₀₁ : k₀ ≠ k₁ := by
    rintro rfl
    have := h.distinct _ _ _ hk₀ hk₁
    contradiction
  have hne₀₂ : k₀ ≠ k₂ := by
    rintro rfl
    have := h.distinct _ _ _ hk₀ hk₂
    contradiction
  have hne₁₂ : k₁ ≠ k₂ := by
    rintro rfl
    have := h.distinct _ _ _ hk₁ hk₂
    contradiction
  omega

/-- If the connection `fd` gets the free slot `i`, the slots hold it there and elsewhere what they
held. -/
theorem getElem?_set_client {l : List (Option Nat)} {fd : Nat} (hi : l[i]? = some none) :
  (l.set i (some fd))[j]? = some (some k) ↔ (j = i ∧ k = fd) ∨ l[j]? = some (some k)
  := by
  have hlt : i < l.length := (List.getElem?_eq_some_iff.mp hi).1
  by_cases hj : j = i
  · subst hj
    rw [List.getElem?_set_self hlt, hi]
    simp [eq_comm]
  · rw [List.getElem?_set_ne (Ne.symm hj)]
    simp [hj]

theorem mem_set_client {l : List (Option Nat)} {fd : Nat} (hi : l[i]? = some none) :
  some k ∈ l.set i (some fd) ↔ k = fd ∨ some k ∈ l
  := by
  simp only [List.mem_iff_getElem?, getElem?_set_client hi]
  constructor
  · rintro ⟨j, ⟨-, rfl⟩ | hj⟩
    · apply Or.inl rfl
    · apply Or.inr ⟨j, hj⟩
  · rintro (rfl | ⟨j, hj⟩)
    · exact ⟨i, Or.inl ⟨rfl, rfl⟩⟩
    · exact ⟨j, Or.inr hj⟩

/-- The connection that is accepted gets the free slot `i`: the invariant `Kept` holds at a `place`
at which `Served` does. -/
theorem Kept.client (h : Kept s) (hlt : s.accepted < s.conns.length)
    (hi : s.arrClientFd[i]? = some none) {place : Place}
    (hserved : State.Served { s with
      accepted := s.accepted + 1
      arrClientFd := s.arrClientFd.set i (some s.accepted)
      place := place }) :
  Kept { s with
    accepted := s.accepted + 1
    arrClientFd := s.arrClientFd.set i (some s.accepted)
    place := place }
  where
  slots := by rw [List.length_set, h.slots]
  distinct := by
    have hnew {j : Nat} : s.arrClientFd[j]? ≠ some (some s.accepted) := fun hj =>
      Nat.lt_irrefl _ (h.waiting _ (List.mem_of_getElem? hj))
    intro j j' k hj hj'
    obtain ⟨rfl, rfl⟩ | hj := (getElem?_set_client hi).mp hj
    · obtain ⟨rfl, -⟩ | hj' := (getElem?_set_client hi).mp hj'
      · rfl
      · apply absurd hj' hnew
    · obtain ⟨-, rfl⟩ | hj' := (getElem?_set_client hi).mp hj'
      · apply absurd hj hnew
      · apply h.distinct j j' k hj hj'
  accepted := hlt
  waiting := by
    intro k hk
    obtain rfl | hk := (mem_set_client hi).mp hk
    · exact Nat.lt_succ_self _
    · exact Nat.lt_succ_of_lt (h.waiting k hk)
  gone := by
    intro k hk hnot
    rw [mem_set_client hi, not_or] at hnot
    apply h.gone k (Nat.lt_of_le_of_ne (Nat.le_of_lt_succ hk) hnot.1) hnot.2
  ended := h.ended
  last := h.last
  served := hserved
  order := h.order

/-- Behind `accept` the connections in the other slots are going to be read, those of `readfset`:
`Kept` holds. -/
theorem Kept.accept (h : Kept s) (hplace : s.place = .accept readfset)
    (hslot : s.arrClientFd[i]? = some none) :
  Kept { s with
    accepted := s.accepted + 1
    arrClientFd := s.arrClientFd.set i (some s.accepted)
    place := if readfset = [] then .select else .serve 0 readfset }
  := by
  have hserved := h.served
  rw [State.Served, hplace] at hserved
  obtain ⟨hlt, hserved⟩ := hserved
  have hrecent : ∀ k, some k ∈ s.arrClientFd → s.Recent k := fun k => (hserved k).1
  apply h.client hlt hslot
  split
  · next hempty =>
      intro k hk
      obtain rfl | hk := (mem_set_client hslot).mp hk
      · apply Or.inl rfl
      · rw [← (hserved k).2, hempty] at hk
        cases hk
  · intro j k hk
    rw [getElem?_set_client hslot] at hk
    obtain ⟨rfl, rfl⟩ | hk := hk
    · split
      · next hready =>
          have hmem := (hserved _).2.mp hready.2
          apply absurd (h.waiting _ hmem) (Nat.lt_irrefl _)
      · apply Or.inl rfl
    · have hmem := List.mem_of_getElem? hk
      have hwaiting := h.waiting k hmem
      rw [if_pos ⟨Nat.zero_le j, (hserved k).2.mpr hmem⟩]
      have hreadable : s.readable k = true := by
        apply h.readable
        omega
      use hreadable
      constructor
      · intro j hj
        apply h.before hrecent
        omega
      · obtain hlast | ⟨hlast, hspent⟩ := hrecent k hmem
        · right
          left
          exact congrArg (· + 1) hlast
        · right
          right
          exact ⟨congrArg (· + 1) hlast, hspent⟩

/-- When `Avi_Ctrl` accepts a connection, there is a free slot for it. -/
theorem Kept.none_mem (h : Kept s) (hplace : s.place = .accept readfset) :
  none ∈ s.arrClientFd
  := by
  have hserved := h.served
  rw [State.Served, hplace] at hserved
  apply h.exists_free
  exact fun k => (hserved.2 k).1

/-! ### The slots in turn -/

/-- If the slot `i` is freed, the other slots hold what they held. -/
theorem getElem?_set_free {l : List (Option Nat)} :
  (l.set i none)[j]? = some (some k) ↔ j ≠ i ∧ l[j]? = some (some k)
  := by
  by_cases hj : j = i
  · subst hj
    simp [List.getElem?_set]
  · rw [List.getElem?_set_ne (Ne.symm hj)]
    simp [hj]

/-- A connection `c` is one on which the sender has written, or it has just been made. -/
theorem Kept.wrote (h : Kept s) (hk : s.conns[k]? = some c) : c.wrote = true ∨ c = Conn.new := by
  obtain hlt | hge := Nat.lt_or_ge (k + 1) s.conns.length
  · obtain ⟨d, hd, hwrote, -⟩ := h.ended k hlt
    obtain rfl := Option.some.inj (hk.symm.trans hd)
    apply Or.inl hwrote
  · have hlt : k < s.conns.length := (List.getElem?_eq_some_iff.mp hk).1
    have hlast : s.conns.getLast? = some c := by
      rw [List.getLast?_eq_getElem?, show s.conns.length - 1 = k by omega, hk]
    have hleaves := h.last
    rw [hlast] at hleaves
    cases hsender : s.sender with
    | idle =>
        rw [hsender] at hleaves
        apply Or.inl (hleaves c rfl).1
    | connect cmd =>
        rw [hsender] at hleaves
        apply Or.inl (hleaves c rfl).1
    | send cmd =>
        rw [hsender] at hleaves
        apply Or.inr (Option.some.inj hleaves)
    | close =>
        rw [hsender] at hleaves
        obtain ⟨d, hd, hwrote⟩ := hleaves
        obtain rfl := Option.some.inj hd
        apply Or.inl hwrote

/-- The state in which the message `m` of the connection `k` has been read and handled. -/
def State.handle (s : State μ) (k : Nat) (m : μ) (closed : Bool) : State μ :=
  { s with conns := s.conns.set k ⟨true, none, closed⟩, handled := s.handled ++ [m] }

theorem handle_conns_self {m : μ} {closed : Bool} (hk : s.conns[k]? = some c) :
  (s.handle k m closed).conns[k]? = some ⟨true, none, closed⟩
  := List.getElem?_set_self (List.getElem?_eq_some_iff.mp hk).1

theorem handle_conns_of_ne {m : μ} {closed : Bool} (hj : j ≠ k) :
  (s.handle k m closed).conns[j]? = s.conns[j]?
  := List.getElem?_set_ne (Ne.symm hj)

/-- Behind the reading of the connection `k`, it is spent, and so is every other one that was. -/
theorem State.Spent.handle {m : μ} {closed : Bool} (hk : s.conns[k]? = some c)
    (h : j = k ∨ s.Spent j) :
  (s.handle k m closed).Spent j
  := by
  by_cases hj : j = k
  · subst hj
    exact ⟨_, handle_conns_self hk, rfl, rfl⟩
  · obtain ⟨d, hd, hd'⟩ := h.resolve_left hj
    use d
    rw [handle_conns_of_ne hj]
    exact ⟨hd, hd'⟩

/-- Behind the reading of the connection `k`, it is `Recent` if it was one of the last two, and so
is every other one that was. -/
theorem State.Recent.handle {m : μ} {closed : Bool} (hk : s.conns[k]? = some c)
    (h : s.Recent j ∨ (j = k ∧ (j + 1 = s.accepted ∨ j + 2 = s.accepted))) :
  (s.handle k m closed).Recent j
  := by
  obtain (hlast | ⟨hlast, hspent⟩) | ⟨rfl, hlast | hlast⟩ := h
  · apply Or.inl hlast
  · apply Or.inr ⟨hlast, State.Spent.handle hk (Or.inr hspent)⟩
  · apply Or.inl hlast
  · apply Or.inr ⟨hlast, State.Spent.handle hk (Or.inl rfl)⟩

/-- Behind the reading of the connection `k`, any other one `j` is going to be read in this round if
it was before. -/
theorem State.Due.handle {m : μ} {closed : Bool} (hk : s.conns[k]? = some c) (hj : j ≠ k)
    (h : s.Due j) :
  (s.handle k m closed).Due j
  := by
  obtain ⟨hreadable, hbefore, hrecent⟩ := h
  use by rwa [State.readable, handle_conns_of_ne hj],
    fun i hi => State.Spent.handle hk (Or.inr (hbefore i hi))
  apply hrecent.imp_right
  apply Or.imp_right
  exact fun h => ⟨h.1, State.Spent.handle hk (Or.inr h.2)⟩

/-- The message `m` of the connection `k` is read, and all before it have been: the invariant `Kept`
holds, with `m` handled. -/
theorem Kept.handle (h : Kept s) {m : μ} {closed : Bool} {place : Place}
    (hk : s.conns[k]? = some ⟨true, some m, closed⟩) (hbefore : ∀ j < k, s.Spent j)
    (hserved : State.Served { s.handle k m closed with place := place }) :
  Kept { s.handle k m closed with place := place }
  where
  slots := h.slots
  distinct := h.distinct
  accepted := by
    change s.accepted ≤ (s.conns.set k ⟨true, none, closed⟩).length
    rw [List.length_set]
    apply h.accepted
  waiting := h.waiting
  gone := by
    intro j hj hnot
    have hspent : (s.handle k m closed).Spent j :=
      State.Spent.handle hk (Or.inr (h.gone j hj hnot))
    apply hspent
  ended := by
    intro j hj
    change j + 1 < (s.conns.set k ⟨true, none, closed⟩).length at hj
    rw [List.length_set] at hj
    obtain ⟨d, hd, hwrote, hclosed⟩ := h.ended j hj
    by_cases hjk : j = k
    · subst hjk
      obtain rfl := Option.some.inj (hk.symm.trans hd)
      have hself : (s.handle j m closed).conns[j]? = some ⟨true, none, closed⟩ :=
        handle_conns_self hk
      exact ⟨_, hself, rfl, hclosed⟩
    · use d
      have hother : (s.handle k m closed).conns[j]? = s.conns[j]? := handle_conns_of_ne hjk
      exact ⟨hother.trans hd, hwrote, hclosed⟩
  last := by
    have hlast := h.last
    change s.sender.Leaves (s.conns.set k ⟨true, none, closed⟩).getLast?
    rw [List.getLast?_eq_getElem?] at hlast ⊢
    rw [List.length_set]
    by_cases hkl : k = s.conns.length - 1
    · subst hkl
      rw [List.getElem?_set_self (List.getElem?_eq_some_iff.mp hk).1]
      rw [hk] at hlast
      cases hsender : s.sender with
      | idle | connect cmd =>
          rw [hsender] at hlast
          rintro d hd
          obtain rfl := Option.some.inj hd
          exact ⟨rfl, (hlast _ rfl).2⟩
      | send cmd =>
          rw [hsender] at hlast
          cases Option.some.inj hlast
      | close => exact ⟨_, rfl, rfl⟩
    · rw [List.getElem?_set_ne hkl]
      apply hlast
  served := hserved
  order := by
    have hunread : s.unread = m :: (s.handle k m closed).unread := by
      apply filterMap_unread_set hk
      intro j hj d hd
      obtain ⟨d', hd', -, hnone⟩ := hbefore j hj
      obtain rfl := Option.some.inj (hd.symm.trans hd')
      apply hnone
    have horder := h.order
    rw [hunread] at horder
    change (s.handled ++ [m]) ++ (s.handle k m closed).unread = s.sent
    rw [← horder, List.append_assoc]
    rfl

/-- A connection `k` that is spent gives up its slot `i`: the invariant `Kept` holds. -/
theorem Kept.free (h : Kept s) {place : Place} (hi : s.arrClientFd[i]? = some (some k))
    (hspent : s.Spent k)
    (hserved : State.Served { s with arrClientFd := s.arrClientFd.set i none, place := place }) :
  Kept { s with arrClientFd := s.arrClientFd.set i none, place := place }
  where
  slots := by rw [List.length_set, h.slots]
  distinct := by
    intro j j' k hj hj'
    apply h.distinct j j' k (getElem?_set_free.mp hj).2 (getElem?_set_free.mp hj').2
  accepted := h.accepted
  waiting := by
    intro k hk
    obtain ⟨j, hj⟩ := List.mem_iff_getElem?.mp hk
    apply h.waiting k (List.mem_of_getElem? (getElem?_set_free.mp hj).2)
  gone := by
    intro k' hk' hnot
    by_cases hmem : some k' ∈ s.arrClientFd
    · obtain ⟨j, hj⟩ := List.mem_iff_getElem?.mp hmem
      have hji : j = i := by
        by_contra hne
        apply hnot (List.mem_of_getElem? (getElem?_set_free.mpr ⟨hne, hj⟩))
      subst hji
      obtain rfl := Option.some.inj (Option.some.inj (hi.symm.trans hj))
      apply hspent
    · apply h.gone k' hk' hmem
  ended := h.ended
  last := h.last
  served := hserved
  order := h.order

/-- The connections in the slots `j` behind the one that is served, `i`, are going to be read if
they are ready, and otherwise `Recent`. -/
theorem Kept.later (h : Kept s) (hplace : s.place = .serve i readfset) (hj : j ≠ i)
    (hk : s.arrClientFd[j]? = some (some k)) :
  if i + 1 ≤ j ∧ k ∈ readfset then s.Due k else s.Recent k
  := by
  have hserved := h.served
  rw [State.Served, hplace] at hserved
  have hjk := hserved j k hk
  have hiff : i + 1 ≤ j ↔ i ≤ j := by omega
  simpa only [hiff] using hjk

/-- The connection `k` in the slot `i` that is served is going to be read if it is ready, and
otherwise it is `Recent`. -/
theorem Kept.now (h : Kept s) (hplace : s.place = .serve i readfset)
    (hk : s.arrClientFd[i]? = some (some k)) :
  if k ∈ readfset then s.Due k else s.Recent k
  := by
  have hserved := h.served
  rw [State.Served, hplace] at hserved
  simpa using hserved i k hk

/-- The message `m` of the connection in the slot `i` that is served is read: `Kept` holds at the
next slot. -/
theorem Kept.message (h : Kept s) (hplace : s.place = .serve i readfset)
    (hk : s.arrClientFd[i]? = some (some k)) (hdue : s.Due k) {m : μ} {closed : Bool}
    (hconn : s.conns[k]? = some ⟨true, some m, closed⟩) :
  Kept { s.handle k m closed with place := .serve (i + 1) readfset }
  := by
  obtain ⟨-, hbefore, hrecent⟩ := hdue
  apply h.handle hconn hbefore
  intro j k' hk'
  by_cases hj : j = i
  · subst hj
    obtain rfl := Option.some.inj (Option.some.inj (hk.symm.trans hk'))
    rw [if_neg (by omega)]
    have hnow : (s.handle k m closed).Recent k := by
      apply State.Recent.handle hconn
      obtain hlast | hlast | ⟨-, d, hd, -, hnone⟩ := hrecent
      · apply Or.inr ⟨rfl, Or.inl hlast⟩
      · apply Or.inr ⟨rfl, Or.inr hlast⟩
      · obtain rfl := Option.some.inj (hconn.symm.trans hd)
        cases hnone
    apply hnow
  · have hne : k' ≠ k := by
      rintro rfl
      apply hj (h.distinct j i k' hk' hk)
    have hlater := h.later hplace hj hk'
    by_cases hready : i + 1 ≤ j ∧ k' ∈ readfset
    · rw [if_pos hready] at hlater ⊢
      have hdue : (s.handle k m closed).Due k' := hlater.handle hconn hne
      apply hdue
    · rw [if_neg hready] at hlater ⊢
      have hother : (s.handle k m closed).Recent k' :=
        State.Recent.handle hconn (Or.inl hlater)
      apply hother

/-- The slot `i` is passed over, where its connection is not ready: `Kept` holds at the next
slot. -/
theorem Kept.pass (h : Kept s) (hplace : s.place = .serve i readfset)
    (hslot : ∀ k, s.arrClientFd[i]? = some (some k) → k ∉ readfset) :
  Kept { s with place := .serve (i + 1) readfset }
  := by
  apply h.goOn
  intro j k hk
  by_cases hj : j = i
  · subst hj
    have hnow := h.now hplace hk
    rw [if_neg (hslot k hk)] at hnow
    rw [if_neg (by omega)]
    apply hnow
  · apply h.later hplace hj hk

/-- `Avi_Ctrl` has gone through the slots, and comes back to `select`: `Kept` holds there. -/
theorem Kept.roundEnd (h : Kept s) (hplace : s.place = .serve i readfset)
    (hend : s.arrClientFd[i]? = none) :
  Kept { s with place := .select }
  := by
  apply h.goOn
  intro k hmem
  obtain ⟨j, hj⟩ := List.mem_iff_getElem?.mp hmem
  have hlt : j < s.arrClientFd.length := (List.getElem?_eq_some_iff.mp hj).1
  have hle := List.getElem?_eq_none_iff.mp hend
  have hrecent := h.later hplace (by omega) hj
  rwa [if_neg (by omega)] at hrecent

/-- Every step of `Avi_Ctrl`, as `Stepped` lists them, keeps the invariant `Kept`. -/
theorem Kept.server (h : Kept s) {ev : Event μ} (hstepped : Stepped s ev s') : Kept s' := by
  cases hstepped with
  | selectServer hplace hlt => apply h.selectServer hplace hlt
  | selectClients hplace _ => apply h.selectClients hplace
  | client hplace hslot => apply h.accept hplace hslot
  | full hplace hfull => apply absurd (h.none_mem hplace) hfull
  | fails hplace =>
      have hserved := h.served
      rw [State.Served, hplace] at hserved
      apply h.goOn
      exact fun k => (hserved.2 k).1
  | @message i readfset k wrote closed m hplace hslot hready hconn =>
      obtain rfl : wrote = true := by
        obtain hwrote | hnew := h.wrote hconn
        · apply hwrote
        · cases hnew
      have hdue := h.now hplace hslot
      rw [if_pos hready] at hdue
      apply h.message hplace hslot hdue hconn
  | @ended i readfset k wrote hplace hslot hready hconn =>
      apply h.free hslot
      · obtain hwrote | hnew := h.wrote hconn
        · exact ⟨_, hconn, hwrote, rfl⟩
        · cases hnew
      · intro j k' hk'
        obtain ⟨hj, hk'⟩ := getElem?_set_free.mp hk'
        apply h.later hplace hj hk'
  | pass hplace hslot hnot =>
      apply h.pass hplace
      intro k hk
      apply hnot k
      apply Option.some.inj (hslot.symm.trans hk)
  | roundEnd hplace hend => apply h.roundEnd hplace hend

theorem Kept.step (h : Kept s) {ev : Event μ} (hstep : step s ev = some s') : Kept s' := by
  cases hev : ev.ofServer with
  | false => apply h.senderStep (senderStepped_of_step hev hstep)
  | true => apply h.server (stepped_of_step hev hstep)

theorem Kept.run {C : State μ → Event μ → Prop} {evs : List (Event μ)}
    (hrun : Run Delivery.step C s evs s') (h : Kept s) :
  Kept s'
  := hrun.invariant (fun _ _ _ hs _ hstep => hs.step hstep) h

/-! ### What is delivered -/

/-- When `Avi_Ctrl` accepts a connection, it finds a slot `i` for it, so that none is closed
unread. -/
theorem Kept.exists_slot (h : Kept s) (hplace : s.place = .accept readfset) :
  ∃ i, s.arrClientFd.findIdx? Option.isNone = some i
  := by
  apply Option.isSome_iff_exists.mp
  rw [List.findIdx?_isSome, List.any_eq_true]
  exact ⟨none, h.none_mem hplace, rfl⟩

/-- When `select` waits and the sender is idle, all messages that have been sent have been
handled. -/
theorem Kept.handled_eq (h : Kept s) (hsender : s.sender = .idle) (hplace : s.place = .select)
    (hwaits : Delivery.step s .select = none) :
  s.handled = s.sent
  := by
  have hspent (k : Nat) (hk : k < s.conns.length) : s.Spent k := by
    simp only [Delivery.step, hplace] at hwaits
    split at hwaits
    · contradiction
    · next hall =>
        split at hwaits
        · next hnone =>
            by_cases hmem : some k ∈ s.arrClientFd
            · have hnot : s.readable k ≠ true := by
                intro hreadable
                have hready : k ∈ s.readfset := mem_readfset.mpr ⟨hmem, hreadable⟩
                rw [hnone] at hready
                cases hready
              have hclosed : s.readable k = true := by
                obtain hlt | hge := Nat.lt_or_ge (k + 1) s.conns.length
                · apply h.readable hlt
                · have hlast := h.last
                  rw [hsender, List.getLast?_eq_getElem?, show s.conns.length - 1 = k by omega,
                    List.getElem?_eq_getElem hk] at hlast
                  have hend := (hlast _ rfl).2
                  simp [State.readable, List.getElem?_eq_getElem hk, Conn.readable, hend]
              contradiction
            · apply h.gone k (by omega) hmem
        · contradiction
  have hnothing : s.unread = [] := by
    apply List.filterMap_eq_nil_iff.mpr
    intro c hc
    obtain ⟨k, hk⟩ := List.mem_iff_getElem?.mp hc
    obtain ⟨d, hd, -, hnone⟩ := hspent k (List.getElem?_eq_some_iff.mp hk).1
    obtain rfl := Option.some.inj (hk.symm.trans hd)
    apply hnone
  rw [← h.order, hnothing, List.append_nil]

/-! ### The number of rounds -/

/-- The number of slots of `s` that hold a connection. -/
def State.used (s : State μ) : Nat := s.arrClientFd.countP Option.isSome

/-- In this round a connection is still going to be accepted, or read in a slot that is ready. -/
def State.pending (s : State μ) : Bool :=
  match s.place with
  | .select => false
  | .accept _ => true
  | .serve i readfset => (s.arrClientFd.drop i).any fun slot => slot.any (· ∈ readfset)

/-- The progress of `Avi_Ctrl`: each connection counts when it is accepted, read and closed, and
what is still going to be done in this round counts as one. -/
def State.progress (s : State μ) : Int :=
  2 * s.accepted + s.handled.length - s.used + if s.pending then 1 else 0

/-- The event is a return of `select`, with which a round begins. -/
def Event.isSelect : Event μ → Bool
  | .select => true
  | _ => false

/-- The event is no failure of `accept`. -/
def Event.Accepts : Event μ → Prop
  | .accept ok => ok = true
  | _ => True

theorem countP_set_some {l : List (Option Nat)} {fd : Nat} (hi : l[i]? = some none) :
  (l.set i (some fd)).countP Option.isSome = l.countP Option.isSome + 1
  := by
  obtain ⟨hlt, hnone⟩ := List.getElem?_eq_some_iff.mp hi
  rw [List.countP_set hlt, hnone]
  rfl

theorem countP_set_none {l : List (Option Nat)} (hi : l[i]? = some (some k)) :
  (l.set i none).countP Option.isSome + 1 = l.countP Option.isSome
  := by
  obtain ⟨hlt, hsome⟩ := List.getElem?_eq_some_iff.mp hi
  have hpos : 0 < l.countP Option.isSome :=
    List.countP_pos_iff.mpr ⟨some k, List.mem_of_getElem? hi, rfl⟩
  rw [List.countP_set hlt, hsome]
  simp
  omega

/-- The part of the state that belongs to `Avi_Ctrl` is the same in `s` and `s'`. -/
def SameServer (s s' : State μ) : Prop :=
  s'.accepted = s.accepted ∧ s'.handled = s.handled ∧ s'.arrClientFd = s.arrClientFd
    ∧ s'.place = s.place

theorem current_sameServer (s : State μ) (f : Conn μ → Conn μ) : SameServer s (s.current f) := by
  unfold State.current
  split
  · exact ⟨rfl, rfl, rfl, rfl⟩
  · exact ⟨rfl, rfl, rfl, rfl⟩

/-- A step of the sender leaves the part of the state that belongs to `Avi_Ctrl` alone. -/
theorem step_sameServer {ev : Event μ} (hev : ev.ofServer = false) (hstep : step s ev = some s') :
  SameServer s s'
  := by
  cases senderStepped_of_step hev hstep with
  | recCfgSet | connected | refused => exact ⟨rfl, rfl, rfl, rfl⟩
  | sent | unsent | closed => apply current_sameServer

/-- States that agree on what belongs to `Avi_Ctrl` have the same progress. -/
theorem SameServer.progress (h : SameServer s s') : s'.progress = s.progress := by
  obtain ⟨haccepted, hhandled, harr, hplace⟩ := h
  have hpending : s'.pending = s.pending := by rw [State.pending, State.pending, hplace, harr]
  rw [State.progress, State.progress, State.used, State.used, hpending, haccepted, hhandled, harr]

/-- The slots that are left from the index `i` on are the one at `i` and those from `i + 1` on. -/
theorem drop_slot {l : List (Option Nat)} {slot : Option Nat} (hi : l[i]? = some slot) :
  l.drop i = slot :: l.drop (i + 1)
  := by
  obtain ⟨hlt, rfl⟩ := List.getElem?_eq_some_iff.mp hi
  apply List.drop_eq_getElem_cons hlt

/-- A round makes progress, and no other step of `Avi_Ctrl` takes it back: what is read in a slot, or
freed, was counted before. -/
theorem Stepped.progress {ev : Event μ} (hstepped : Stepped s ev s') (haccepts : ev.Accepts) :
  s.progress + (if ev.isSelect then 1 else 0) ≤ s'.progress
  := by
  cases hstepped with
  | selectServer hplace _ =>
      simp [State.progress, State.used, State.pending, hplace, Event.isSelect]
  | selectClients hplace hsome =>
      obtain ⟨k, hk⟩ := List.exists_mem_of_ne_nil _ hsome
      have hpending : (s.arrClientFd.any fun slot => slot.any (· ∈ s.readfset)) = true :=
        List.any_eq_true.mpr ⟨some k, (mem_readfset.mp hk).1, by simpa using hk⟩
      simp [State.progress, State.used, State.pending, hplace, Event.isSelect, hpending]
  | @client readfset i hplace hslot =>
      have hused : (s.arrClientFd.set i (some s.accepted)).countP Option.isSome
          = s.arrClientFd.countP Option.isSome + 1 := countP_set_some hslot
      have hnow : s.pending = true := by rw [State.pending, hplace]
      simp only [State.progress, State.used, hused, Event.isSelect, hnow, if_true,
        Bool.false_eq_true, if_false]
      split
      · omega
      · omega
  | full hplace _ =>
      have hnow : s.pending = true := by rw [State.pending, hplace]
      simp only [State.progress, State.used, Event.isSelect, hnow, if_true, Bool.false_eq_true,
        if_false]
      split
      · omega
      · omega
  | fails => cases haccepts
  | message hplace hslot hready _ =>
      have hnow : s.pending = true := by simp [State.pending, hplace, drop_slot hslot, hready]
      simp only [State.progress, State.used, hnow, if_true, List.length_append,
        List.length_singleton, Event.isSelect, Bool.false_eq_true, if_false]
      split
      · omega
      · omega
  | ended hplace hslot hready _ =>
      have hnow : s.pending = true := by simp [State.pending, hplace, drop_slot hslot, hready]
      have hused := countP_set_none hslot
      simp only [State.progress, State.used, hnow, if_true, Event.isSelect, Bool.false_eq_true,
        if_false]
      split
      · omega
      · omega
  | @pass i readfset slot hplace hslot hnot =>
      have hnothing : slot.any (· ∈ readfset) = false := by
        cases slot with
        | none => rfl
        | some k => simpa using hnot k rfl
      simp [State.progress, State.used, State.pending, hplace, drop_slot hslot, hnothing,
        Event.isSelect]
  | roundEnd hplace hend =>
      have hnothing := List.drop_eq_nil_of_le (List.getElem?_eq_none_iff.mp hend)
      simp [State.progress, State.used, State.pending, hplace, hnothing, Event.isSelect]

theorem progress_step {ev : Event μ} (haccepts : ev.Accepts) (hstep : step s ev = some s') :
  s.progress + (if ev.isSelect then 1 else 0) ≤ s'.progress
  := by
  cases ev with
  | recCfgSet cmd | connectLocal ok | sendLocal ok | closeLocal =>
      rw [(step_sameServer rfl hstep).progress]
      simp [Event.isSelect]
  | select | accept ok | serve => apply (stepped_of_step rfl hstep).progress haccepts

/-- Over a run in which `accept` succeeds, each round adds one to the progress at least. -/
theorem progress_run {C : State μ → Event μ → Prop} {evs : List (Event μ)}
    (hrun : Run step C s evs s') (haccepts : ∀ ev ∈ evs, ev.Accepts) :
  s.progress + evs.countP Event.isSelect ≤ s'.progress
  := by
  induction hrun with
  | nil => simp
  | @cons s s₁ s' ev evs _ hstep _ ih =>
      have hone := progress_step (haccepts ev (.head _)) hstep
      have hrest := ih fun ev' hmem => haccepts ev' (.tail _ hmem)
      rw [List.countP_cons]
      cases hev : ev.isSelect with
      | true =>
          simp only [hev, if_true] at hone ⊢
          omega
      | false =>
          simp only [hev, Bool.false_eq_true, if_false] at hone ⊢
          omega

/-- `Avi_Ctrl` makes at most two rounds for a connection and one for a message: where `accept`
succeeds, it comes to wait. -/
theorem countP_select_le {C : State μ → Event μ → Prop} {evs : List (Event μ)}
    (hrun : Run step C State.init evs s) (haccepts : ∀ ev ∈ evs, ev.Accepts) :
  evs.countP Event.isSelect ≤ 2 * s.conns.length + s.sent.length
  := by
  have hkept : Kept s := Kept.run hrun kept_init
  have hprogress := progress_run hrun haccepts
  have hstart : (State.init : State μ).progress = 0 := rfl
  have hsent : s.handled.length ≤ s.sent.length := by
    rw [← hkept.order, List.length_append]
    omega
  have haccepted := hkept.accepted
  have hend : s.progress ≤ 2 * s.conns.length + s.handled.length := by
    unfold State.progress
    cases hpending : s.pending with
    | false =>
        simp
        omega
    | true =>
        cases hplace : s.place with
        | select => simp [State.pending, hplace] at hpending
        | accept readfset =>
            have hserved := hkept.served
            rw [State.Served, hplace] at hserved
            simp
            omega
        | serve i readfset =>
            rw [State.pending, hplace] at hpending
            obtain ⟨slot, hslot, hclient⟩ := List.any_eq_true.mp hpending
            obtain ⟨k, rfl, -⟩ := (Option.any_eq_true _ _).mp hclient
            have hused : 0 < s.used :=
              List.countP_pos_iff.mpr ⟨some k, List.mem_of_mem_drop hslot, rfl⟩
            simp
            omega
  omega

/-- In every run of the two, whatever the calls yield, the messages that have been handled are the
first ones that were sent, in this order; there is a slot for every connection that is accepted;
when `select` waits and nothing is being sent, all messages have been handled; and where `accept`
succeeds, at most two rounds are made for a connection and one for a message. -/
theorem messages_delivered {evs : List (Event μ)}
    (hrun : Run step (fun _ _ => True) State.init evs s) :
  s.handled <+: s.sent
    ∧ (∀ readfset, s.place = .accept readfset →
        ∃ i, s.arrClientFd.findIdx? Option.isNone = some i)
    ∧ (s.sender = .idle → s.place = .select → step s .select = none → s.handled = s.sent)
    ∧ ((∀ ev ∈ evs, ev.Accepts) →
        evs.countP Event.isSelect ≤ 2 * s.conns.length + s.sent.length)
  := by
  have hkept : Kept s := Kept.run hrun kept_init
  refine ⟨?_, ?_, ?_, ?_⟩
  · exact ⟨s.unread, hkept.order⟩
  · intro readfset hplace
    apply hkept.exists_slot hplace
  · intro hsender hplace hwaits
    apply hkept.handled_eq hsender hplace hwaits
  · intro haccepts
    apply countP_select_le hrun haccepts

/-- The run in which two messages are sent: the second connection is made while the first message is
read, and gets another slot. -/
def twoMessages : List (Event Nat) :=
  [.recCfgSet 7, .connectLocal true, .select, .accept true, .sendLocal true, .closeLocal, .select,
    .recCfgSet 8, .connectLocal true, .serve, .sendLocal true, .serve, .serve, .serve, .serve,
    .closeLocal, .select, .accept true, .serve, .serve, .serve, .serve, .serve, .select, .serve,
    .serve, .serve, .serve, .serve, .select, .serve, .serve, .serve, .serve, .serve]

theorem messages_delivered_twoMessages :
  ∃ s, Run step (fun _ _ => True) State.init twoMessages s ∧ s.handled = [7, 8]
    ∧ twoMessages.countP Event.isSelect ≤ 2 * s.conns.length + s.sent.length
  := by
  obtain ⟨s, hrun, hend⟩ := Run.exists_of_exec step (fun _ _ => True) State.init
    (fun s => s.sender = .idle && s.place = .select && (step s .select).isNone && s.sent = [7, 8])
    twoMessages (by decide +kernel)
  simp only [Bool.and_eq_true, decide_eq_true_eq, Option.isNone_iff_eq_none] at hend
  obtain ⟨⟨⟨hsender, hplace⟩, hwaits⟩, hsent⟩ := hend
  obtain ⟨-, -, hrest, hrounds⟩ := messages_delivered hrun
  use s, hrun, (hrest hsender hplace hwaits).trans hsent
  apply hrounds
  simp [twoMessages, Event.Accepts]

/-! ### What is read -/

/-- A step of `Avi_Ctrl` leaves the sender and what has been sent alone. -/
theorem step_sameSender {ev : Event μ} (hev : ev.ofServer = true) (hstep : step s ev = some s') :
  s'.sender = s.sender ∧ s'.sent = s.sent
  := by
  cases stepped_of_step hev hstep with
  | _ => exact ⟨rfl, rfl⟩

/-- The message that is read in the slot that `Avi_Ctrl` has come to, if its connection is ready. -/
def State.reads (s : State μ) : Option μ :=
  match s.place with
  | .serve i readfset =>
      match s.arrClientFd[i]? with
      | some (some k) => if k ∈ readfset then s.conns[k]?.bind Conn.unread else none
      | _ => none
  | _ => none

/-- The message that the event adds to those that have been handled, if it is a read. -/
def State.adds (s : State μ) : Event μ → Option μ
  | .serve => s.reads
  | _ => none

theorem step_handled {ev : Event μ} (hstep : step s ev = some s') :
  s'.handled = s.handled ++ (s.adds ev).toList
  := by
  cases hev : ev.ofServer with
  | false =>
      rw [(step_sameServer hev hstep).2.1]
      cases ev with
      | recCfgSet cmd | connectLocal ok | sendLocal ok | closeLocal => simp [State.adds]
      | select | accept ok | serve => contradiction
  | true =>
      cases stepped_of_step hev hstep with
      | selectServer | selectClients | client | full | fails => simp [State.adds]
      | message hplace hslot hready hconn =>
          simp [State.adds, State.reads, hplace, hslot, hready, hconn]
      | ended hplace hslot hready hconn =>
          simp [State.adds, State.reads, hplace, hslot, hready, hconn]
      | @pass i readfset slot hplace hslot hnot =>
          cases slot with
          | none => simp [State.adds, State.reads, hplace, hslot]
          | some k => simp [State.adds, State.reads, hplace, hslot, hnot k rfl]
      | roundEnd hplace hend => simp [State.adds, State.reads, hplace, hend]

end AviSave.Delivery
