import Avserver.Library.Bracket
import Avserver.Library.Run
import Mathlib.Data.List.Nodup
import Mathlib.Data.List.Perm.Basic

/-!
# The descriptors of the two servers

`av_server` and `Avi_Ctrl` serve their clients by the same loop over `select`: a table
`arrClient_fd` holds the socket that the server listens on and the descriptors of its clients, and
a slot of the table is free when there is no positive descriptor in it.  A client gets the first
free slot, or is closed, and its slot is freed when nothing is read from it any more, or when
writing to it fails with `EBADF`.

The table holds the descriptors that are open, each once, as long as the server does not listen on
descriptor 0 (`table_kept`).  A free slot holds 0, and the slots are served without a look at
whether they are free; so a server that listens on 0 reads from its own socket, and closes it.
-/

namespace Msg.SelectLoop

open Library

/-! ### The loop -/

/-- The two servers that have such a loop: `av_server` and `Avi_Ctrl`. -/
inductive Thread where
  | avServer
  | aviCtrl
deriving DecidableEq

/-- The number of entries of `arrClient_fd` in a server: `MAX_LIST_FD` or `AVI_LISTEN`. -/
def Thread.entries : Thread → Nat
  | .avServer => 10
  | .aviCtrl => 5

/-- What happens to descriptors: one is opened by `listen` or `accept`, or closed. -/
inductive FdEvent where
  /-- the socket that the server listens on -/
  | listen (fd : Int)
  /-- `accept` has yielded a descriptor -/
  | accept (fd : Int)
  | close (fd : Int)
deriving DecidableEq

/-- What an event does to the descriptors that are open, as resources that are held. -/
def fdAction : FdEvent → Action Int
  | .listen fd => .acquire fd
  | .accept fd => .acquire fd
  | .close fd => .release fd

/-- The descriptors that are open after the events of the `log`. -/
def openFds (log : List FdEvent) : List Int := held fdAction log

@[simp]
theorem openFds_accept (fd : Int) (log : List FdEvent) :
  openFds (.accept fd :: log) = fd :: openFds log
  := rfl

@[simp]
theorem openFds_close (fd : Int) (log : List FdEvent) :
  openFds (.close fd :: log) = (openFds log).erase fd
  := rfl

/-- A server between two rounds: its table of clients, and what has happened to descriptors, the
last event first. -/
structure Server where
  arrClientFd : List Int
  log : List FdEvent
deriving DecidableEq

/-- What the calls of one round yield: `m_Quit`, which `Avi_Ctrl` looks at; the result of `select`
and the descriptors that it finds ready; the result of `accept`; and for every slot the length
read, the result of the message handler, the result of `write`, and whether it fails with
`EBADF`. -/
structure Round where
  mQuit : Int
  ret : Int
  ready : List Int
  accepted : Int
  readlen : Nat → Int
  len : Nat → Int
  written : Nat → Int
  ebadf : Nat → Bool

/-- The descriptors that `select` is asked about: the socket that the server listens on, and the
clients. -/
def fdSet (arrClientFd : List Int) : List Int :=
  arrClientFd.getD 0 0 :: arrClientFd.tail.filter (0 < ·)

/-- The first slot without a positive descriptor, behind the first entry of the table. -/
def freeSlot (entries : Nat) (arrClientFd : List Int) : Option Nat :=
  (List.range' 1 (entries - 1)).find? fun i => arrClientFd.getD i 0 ≤ 0

/-- The client `fd` of the slot `i` is closed: the slot is free, and the descriptor is no longer
ready. -/
def closeSlot (i : Nat) (fd : Int) (s : Server) (readfset : List Int) : Server × List Int :=
  (⟨s.arrClientFd.set i 0, .close fd :: s.log⟩, readfset.filter (· ≠ fd))

/-- The body of the loop over the slots, for the slot `i`: the client is served or closed, if it is
ready. -/
def serveSlot (r : Round) (st : Server × List Int) (i : Nat) : Server × List Int :=
  let (s, readfset) := st
  let fd := s.arrClientFd.getD i 0
  if fd ∈ readfset then
    if r.readlen i ≤ 3 then closeSlot i fd s readfset
    else if r.len i = 0 then st
    else if r.written i < 0 ∧ r.ebadf i = true then closeSlot i fd s readfset
    else st
  else st

/-- The loop over the slots behind the first entry, where those of `readfset` are ready. -/
def serveSlots (entries : Nat) (r : Round) (s : Server) (readfset : List Int) : Server :=
  ((List.range' 1 (entries - 1)).foldl (serveSlot r) (s, readfset)).1

/-- One round of the loop of a server, with the results of its calls in `r`. -/
def round (entries : Nat) (serverFd : Int) (s : Server) (r : Round) : Server :=
  let readfset := (fdSet s.arrClientFd).filter (· ∈ r.ready)
  if r.ret ≤ 0 then s
  else if serverFd ∈ readfset then
    if r.accepted < 0 then s
    else
      let log := .accept r.accepted :: s.log
      match freeSlot entries s.arrClientFd with
      | none => { s with log := .close r.accepted :: log }
      | some i =>
          let s := ⟨s.arrClientFd.set i r.accepted, log⟩
          if r.ret - 1 = 0 then s else serveSlots entries r s readfset
  else serveSlots entries r s readfset

/-- A round of one of the servers as a step; `none` when `Avi_Ctrl` leaves its loop. -/
def Thread.step (t : Thread) (serverFd : Int) (s : Server) (r : Round) : Option Server :=
  match t with
  | .avServer => some (round t.entries serverFd s r)
  | .aviCtrl => if r.mQuit ≠ 0 then none else some (round t.entries serverFd s r)

/-- A server before its first round, which listens on `serverFd` and has no client. -/
def Thread.start (t : Thread) (serverFd : Int) : Server :=
  ⟨serverFd :: List.replicate (t.entries - 1) 0, [.listen serverFd]⟩

/-- What is promised of `accept`: it yields no 0, and no descriptor that is open. -/
def Fresh (s : Server) (r : Round) : Prop :=
  0 ≤ r.accepted → 0 < r.accepted ∧ r.accepted ∉ openFds s.log

instance (s : Server) (r : Round) : Decidable (Fresh s r) :=
  inferInstanceAs (Decidable (0 ≤ r.accepted → 0 < r.accepted ∧ r.accepted ∉ openFds s.log))

/-! ### The table -/

/-- The positive entries of the slots behind the first one: the descriptors of the clients. -/
def clients (arrClientFd : List Int) : List Int := arrClientFd.tail.filter (0 < ·)

/-- The table is kept: its first entry is the socket that the server listens on; the clients are
different, open, and none of them is that socket; a descriptor that was accepted has been closed
since, or is in one slot; and only descriptors that are open have been closed. -/
structure Kept (serverFd : Int) (s : Server) : Prop where
  listening : s.arrClientFd.head? = some serverFd ∧ serverFd ∈ openFds s.log
  distinct : (clients s.arrClientFd).Nodup
  opened : ∀ fd ∈ clients s.arrClientFd, fd ∈ openFds s.log ∧ fd ≠ serverFd
  accepted : ∀ late fd early, s.log = late ++ .accept fd :: early →
    .close fd ∈ late ∨ s.arrClientFd.tail.count fd = 1
  closed : ∀ late fd early, s.log = late ++ .close fd :: early → fd ∈ openFds early

/-- The open descriptors are those of the table of `s`, each once; and descriptors are closed that
are open. -/
structure Table (entries : Nat) (serverFd : Int) (s : Server) : Prop where
  slots : ∃ l, s.arrClientFd = serverFd :: l ∧ l.length = entries - 1
  perm : (openFds s.log).Perm (serverFd :: clients s.arrClientFd)
  nodup : (serverFd :: clients s.arrClientFd).Nodup
  accepted : ∀ fd, .accept fd ∈ s.log → 0 < fd ∧ fd ≠ serverFd
  closed : ∀ late fd early, s.log = late ++ .close fd :: early → fd ∈ openFds early

section

variable {entries i : Nat} {serverFd fd : Int} {s : Server} {r : Round} {l : List Int}

/-- If the slot `i` was free, then with `fd` in it the positive entries of the table are those from
before, and `fd`. -/
theorem filter_set_of_nonpos (hi : i < l.length) (hfree : l[i] ≤ 0) (hfd : 0 < fd) :
  ((l.set i fd).filter (0 < ·)).Perm (fd :: l.filter (0 < ·))
  := by
  have hset := (List.set_perm_cons_eraseIdx hi fd).filter (0 < ·)
  have hold := (List.getElem_cons_eraseIdx_perm hi).filter (0 < ·)
  rw [List.filter_cons_of_pos (by simpa using hfd)] at hset
  rw [List.filter_cons_of_neg (by simpa using hfree)] at hold
  apply hset.trans (hold.cons fd)

/-- If the slot `i` has a client, then the positive entries of the table are this one, and those
that are left when the slot is freed. -/
theorem filter_set_zero (hi : i < l.length) (hfd : 0 < l[i]) :
  (l.filter (0 < ·)).Perm (l[i] :: (l.set i 0).filter (0 < ·))
  := by
  have hset := (List.set_perm_cons_eraseIdx hi (0 : Int)).filter (0 < ·)
  have hold := (List.getElem_cons_eraseIdx_perm hi).filter (0 < ·)
  rw [List.filter_cons_of_neg (by decide)] at hset
  rw [List.filter_cons_of_pos (by simpa using hfd)] at hold
  apply hold.symm.trans (hset.symm.cons l[i])

/-- A slot `i` behind the first entry is a place in the rest of the table. -/
theorem Table.slot (h : Table entries serverFd s) (hi : 1 ≤ i) (hlt : i < entries) :
  ∃ l j, i = j + 1 ∧ s.arrClientFd = serverFd :: l ∧ j < l.length ∧ l.length = entries - 1
  := by
  obtain ⟨l, harr, hlen⟩ := h.slots
  obtain ⟨j, rfl⟩ := Nat.exists_eq_add_of_le' hi
  use l, j, rfl, harr
  omega

/-- A descriptor `fd` is open exactly if the server listens on it, or it is one of the clients. -/
theorem Table.mem_openFds (h : Table entries serverFd s) :
  fd ∈ openFds s.log ↔ fd = serverFd ∨ fd ∈ clients s.arrClientFd
  := by rw [h.perm.mem_iff, List.mem_cons]

theorem Table.closed_cons {fd' : Int} (h : Table entries serverFd s) (hopen : fd ∈ openFds s.log) :
  ∀ late early, .close fd :: s.log = late ++ .close fd' :: early → fd' ∈ openFds early
  := by
  intro late early heq
  cases late with
  | nil =>
      obtain ⟨hfd, rfl⟩ := List.cons.inj heq
      obtain rfl := FdEvent.close.inj hfd
      apply hopen
  | cons ev late => apply h.closed late fd' early (List.cons.inj heq).2

/-- To close the client of the slot `i` keeps the table. -/
theorem Table.closeSlot
    (h : Table entries serverFd s) (hi : 1 ≤ i) (hlt : i < entries)
    (hfd : 0 < s.arrClientFd.getD i 0) (readfset : List Int) :
  Table entries serverFd (closeSlot i (s.arrClientFd.getD i 0) s readfset).1
  := by
  obtain ⟨l, j, rfl, harr, hj, hlen⟩ := h.slot hi hlt
  have hget : s.arrClientFd.getD (j + 1) 0 = l[j] := by
    rw [harr, List.getD_cons_succ, ← List.getElem_eq_getD (h := hj) 0]
  rw [hget] at hfd ⊢
  have hclients : clients s.arrClientFd = l.filter (0 < ·) := by rw [harr, clients, List.tail_cons]
  have hrest := filter_set_zero hj hfd
  have hperm := h.perm
  have hnodup := h.nodup
  rw [hclients] at hperm hnodup
  -- the descriptor is that of one client, and not the one that the server listens on
  have hnodup' := ((hrest.cons serverFd).nodup_iff.mp hnodup)
  obtain ⟨hserver, hfresh⟩ := List.nodup_cons.mp hnodup'
  have hne : l[j] ≠ serverFd := by
    rintro heq
    apply hserver
    rw [← heq]
    apply List.mem_cons_self
  have hopen : l[j] ∈ openFds s.log := by
    rw [h.mem_openFds, hclients, hrest.mem_iff]
    right
    apply List.mem_cons_self
  have hset : (SelectLoop.closeSlot (j + 1) l[j] s readfset).1
      = ⟨serverFd :: l.set j 0, .close l[j] :: s.log⟩ := by
    rw [SelectLoop.closeSlot, harr, List.set_cons_succ]
  rw [hset]
  constructor
  · use l.set j 0, rfl
    rw [List.length_set, hlen]
  · have herase := (hperm.trans (hrest.cons serverFd)).erase l[j]
    rw [List.erase_cons_tail (by simpa using fun heq => hne heq.symm), List.erase_cons_head] at herase
    apply herase
  · rw [List.nodup_cons]
    constructor
    · intro hmem
      apply hserver (List.mem_cons_of_mem _ hmem)
    · apply (List.nodup_cons.mp hfresh).2
  · intro fd hmem
    apply h.accepted fd
    simpa using hmem
  · intro late fd' early
    apply h.closed_cons hopen

/-- To serve the slot `i` keeps the table, and leaves positive descriptors in the set of those that
are ready. -/
theorem Table.serveSlot
    {st : Server × List Int} (h : Table entries serverFd st.1) (hpos : ∀ fd ∈ st.2, 0 < fd)
    (hi : 1 ≤ i) (hlt : i < entries) :
  Table entries serverFd (serveSlot r st i).1 ∧ ∀ fd ∈ (serveSlot r st i).2, 0 < fd
  := by
  have hclose (hready : st.1.arrClientFd.getD i 0 ∈ st.2) :
      Table entries serverFd (SelectLoop.closeSlot i (st.1.arrClientFd.getD i 0) st.1 st.2).1
      ∧ ∀ fd ∈ (SelectLoop.closeSlot i (st.1.arrClientFd.getD i 0) st.1 st.2).2, 0 < fd := by
    use h.closeSlot hi hlt (hpos _ hready) st.2
    intro fd hfd
    apply hpos fd (List.mem_of_mem_filter hfd)
  simp only [SelectLoop.serveSlot]
  split
  · next hready =>
      split
      · apply hclose hready
      · split
        · exact ⟨h, hpos⟩
        · split
          · apply hclose hready
          · exact ⟨h, hpos⟩
  · exact ⟨h, hpos⟩

/-- To serve the slots, one after the other, keeps the table. -/
theorem Table.serveSlots
    (h : Table entries serverFd s) {readfset : List Int} (hpos : ∀ fd ∈ readfset, 0 < fd) :
  Table entries serverFd (serveSlots entries r s readfset)
  := by
  have hfold (is : List Nat) (his : ∀ i ∈ is, 1 ≤ i ∧ i < entries) (st : Server × List Int)
      (hst : Table entries serverFd st.1) (hset : ∀ fd ∈ st.2, 0 < fd) :
      Table entries serverFd (is.foldl (SelectLoop.serveSlot r) st).1 := by
    induction is generalizing st with
    | nil => apply hst
    | cons i is ih =>
        obtain ⟨hi, hlt⟩ := his i List.mem_cons_self
        obtain ⟨hst', hset'⟩ := hst.serveSlot (r := r) hset hi hlt
        apply ih (fun k hk => his k (List.mem_cons_of_mem i hk)) _ hst' hset'
  apply hfold _ _ _ h hpos
  intro i hi
  rw [List.mem_range'_1] at hi
  omega

/-- A descriptor `fd` that is not open is none of those in the table. -/
theorem Table.fresh (h : Table entries serverFd s) (hfd : fd ∉ openFds s.log) :
  (fd :: serverFd :: clients s.arrClientFd).Nodup
  := by
  rw [List.nodup_cons, ← h.perm.mem_iff]
  use hfd, h.nodup

/-- A descriptor that is newly accepted is positive, and not the socket that the server listens
on. -/
theorem Table.accepted_cons
    (h : Table entries serverFd s) (hfd : 0 < fd) (hnew : fd ∉ openFds s.log) :
  ∀ fd', .accept fd' ∈ FdEvent.accept fd :: s.log → 0 < fd' ∧ fd' ≠ serverFd
  := by
  intro fd' hmem
  rcases List.mem_cons.mp hmem with heq | hmem
  · obtain rfl := FdEvent.accept.inj heq
    use hfd
    rintro rfl
    apply hnew
    rw [h.mem_openFds]
    left
    rfl
  · apply h.accepted fd' hmem

/-- A client `fd` that has been accepted gets the free slot `i`: the table is kept. -/
theorem Table.place
    (h : Table entries serverFd s) (hi : 1 ≤ i) (hlt : i < entries)
    (hfree : s.arrClientFd.getD i 0 ≤ 0) (hfd : 0 < fd) (hnew : fd ∉ openFds s.log) :
  Table entries serverFd ⟨s.arrClientFd.set i fd, .accept fd :: s.log⟩
  := by
  obtain ⟨l, j, rfl, harr, hj, hlen⟩ := h.slot hi hlt
  rw [harr, List.getD_cons_succ, ← List.getElem_eq_getD (h := hj) 0] at hfree
  have hfresh := h.fresh hnew
  have hperm := h.perm
  rw [harr] at hfresh hperm ⊢
  have hset := filter_set_of_nonpos hj hfree hfd
  -- the new descriptor and the one that the server listens on change places
  have hswap : (serverFd :: (l.set j fd).filter (0 < ·)).Perm
      (fd :: serverFd :: l.filter (0 < ·)) :=
    (hset.cons serverFd).trans (List.Perm.swap fd serverFd _)
  rw [List.set_cons_succ]
  constructor
  · use l.set j fd, rfl
    rw [List.length_set, hlen]
  · apply (hperm.cons fd).trans hswap.symm
  · rw [clients, List.tail_cons, hswap.nodup_iff]
    apply hfresh
  · apply h.accepted_cons hfd hnew
  · intro late fd' early heq
    cases late with
    | nil => cases heq
    | cons ev late => apply h.closed late fd' early (List.cons.inj heq).2

/-- If no slot is free, the client `fd` that has been accepted is closed: the table is kept. -/
theorem Table.refuse
    (h : Table entries serverFd s) (hfd : 0 < fd) (hnew : fd ∉ openFds s.log) :
  Table entries serverFd ⟨s.arrClientFd, .close fd :: .accept fd :: s.log⟩
  := by
  constructor
  · apply h.slots
  · rw [openFds_close, openFds_accept, List.erase_cons_head]
    apply h.perm
  · apply h.nodup
  · intro fd' hmem
    apply h.accepted_cons hfd hnew
    simpa using hmem
  · intro late fd' early heq
    cases late with
    | nil =>
        obtain ⟨hclose, rfl⟩ := List.cons.inj heq
        obtain rfl := FdEvent.close.inj hclose
        rw [openFds_accept]
        apply List.mem_cons_self
    | cons ev late =>
        cases late with
        | nil => cases heq
        | cons ev' late => apply h.closed late fd' early (List.cons.inj (List.cons.inj heq).2).2

/-- A round keeps the table, if the server does not listen on the descriptor 0. -/
theorem Table.round
    (h : Table entries serverFd s) (hserver : 0 < serverFd) (hr : Fresh s r) :
  Table entries serverFd (round entries serverFd s r)
  := by
  obtain ⟨l, harr, hlen⟩ := h.slots
  have hpos : ∀ fd ∈ (fdSet s.arrClientFd).filter (· ∈ r.ready), 0 < fd := by
    intro fd hfd
    rw [fdSet, harr] at hfd
    rcases List.mem_cons.mp (List.mem_of_mem_filter hfd) with rfl | hfd
    · apply hserver
    · simpa using List.of_mem_filter hfd
  simp only [SelectLoop.round]
  split
  · apply h
  · split
    · split
      · apply h
      · next haccepted =>
          obtain ⟨hfd, hnew⟩ := hr (Int.not_lt.mp haccepted)
          split
          · apply h.refuse hfd hnew
          · next i hfind =>
              have hmem := List.mem_of_find?_eq_some hfind
              rw [List.mem_range'_1] at hmem
              have hplaced := h.place hmem.1 (by omega)
                (by simpa using List.find?_some hfind) hfd hnew
              split
              · apply hplaced
              · apply hplaced.serveSlots hpos
    · apply h.serveSlots hpos

/-- Before the first round the table of a server has the socket that it listens on, and no
client. -/
theorem Table.start (t : Thread) (serverFd : Int) : Table t.entries serverFd (t.start serverFd) := by
  have hclients : clients (t.start serverFd).arrClientFd = [] := by
    simp [clients, Thread.start]
  constructor
  · use List.replicate (t.entries - 1) 0, rfl
    apply List.length_replicate
  · rw [hclients]
    apply List.Perm.refl
  · rw [hclients]
    simp
  · intro fd hmem
    cases List.mem_singleton.mp hmem
  · intro late fd early heq
    cases late with
    | nil => cases heq
    | cons ev late =>
        obtain ⟨-, hnil⟩ := List.cons.inj heq
        cases late with
        | nil => cases hnil
        | cons ev' late => cases hnil

/-- A descriptor `fd` that was accepted and has not been closed since is open. -/
theorem mem_openFds_of_accepted
    {late early : List FdEvent} (hclose : .close fd ∉ late) :
  fd ∈ openFds (late ++ .accept fd :: early)
  := by
  induction late with
  | nil => apply List.mem_cons_self
  | cons ev late ih =>
      have hmem := ih (fun hmem => hclose (List.mem_cons_of_mem ev hmem))
      cases ev with
      | listen fd' => apply List.mem_cons_of_mem fd' hmem
      | accept fd' => apply List.mem_cons_of_mem fd' hmem
      | close fd' =>
          have hne : fd ≠ fd' := by
            rintro rfl
            apply hclose List.mem_cons_self
          rw [List.cons_append, openFds_close]
          apply (List.mem_erase_of_ne hne).mpr hmem

/-- A server whose open descriptors are those of its `Table` has `Kept` it. -/
theorem Table.kept (h : Table entries serverFd s) : Kept serverFd s := by
  obtain ⟨l, harr, -⟩ := h.slots
  obtain ⟨hnot, hdistinct⟩ := List.nodup_cons.mp h.nodup
  constructor
  · rw [harr]
    use rfl
    rw [h.mem_openFds]
    left
    rfl
  · apply hdistinct
  · intro fd hfd
    constructor
    · rw [h.mem_openFds]
      right
      apply hfd
    · rintro rfl
      apply hnot hfd
  · intro late fd early heq
    by_cases hclose : .close fd ∈ late
    · left
      apply hclose
    · right
      obtain ⟨hpos, hne⟩ := h.accepted fd (by simp [heq])
      have hopen : fd ∈ openFds s.log := by
        rw [heq]
        apply mem_openFds_of_accepted hclose
      have hclient : fd ∈ clients s.arrClientFd := (h.mem_openFds.mp hopen).resolve_left hne
      calc s.arrClientFd.tail.count fd
          _ = (clients s.arrClientFd).count fd := (List.count_filter (by simpa using hpos)).symm
          _ = 1 := List.count_eq_one_of_mem hdistinct hclient
  · apply h.closed

end

/-! ### Runs -/

/-- In every run of a server that does not listen on descriptor 0, with an `accept` that yields
neither 0 nor a descriptor that is open, the table is kept. -/
theorem table_kept
    {t : Thread} {serverFd : Int} {rounds : List Round} {s : Server} (hcreated : ¬ serverFd < 0)
    (hserver : serverFd ≠ 0) (hrun : Run (t.step serverFd) Fresh (t.start serverFd) rounds s) :
  Kept serverFd s
  := by
  have hpos : 0 < serverFd := by omega
  have htable : Table t.entries serverFd s := by
    apply hrun.invariant (I := Table t.entries serverFd) _ (Table.start t serverFd)
    intro s r s' hs hfresh hstep
    cases t with
    | avServer =>
        obtain rfl := Option.some.inj hstep
        apply hs.round hpos hfresh
    | aviCtrl =>
        simp only [Thread.step] at hstep
        split at hstep
        · contradiction
        · obtain rfl := Option.some.inj hstep
          apply hs.round hpos hfresh
  apply htable.kept

/-- A round in which a client connects, by the descriptor `fd`, and nothing else happens. -/
def connecting (serverFd fd : Int) : Round where
  mQuit := 0
  ret := 1
  ready := [serverFd]
  accepted := fd
  readlen := fun _ => 0
  len := fun _ => 0
  written := fun _ => 0
  ebadf := fun _ => false

/-- A round in which a second client connects, by `fd'`, while the first one sends a request. -/
def connectingBeside (serverFd fd fd' : Int) : Round where
  mQuit := 0
  ret := 2
  ready := [serverFd, fd]
  accepted := fd'
  readlen := fun i => if i = 1 then 20 else -1
  len := fun _ => 0
  written := fun _ => 0
  ebadf := fun _ => false

/-- Two clients connect to a server that listens on the descriptor 4, and its table is `Kept`. -/
theorem table_kept_two :
  ∃ s, Run (Thread.avServer.step 4) Fresh (Thread.avServer.start 4)
      [connecting 4 5, connectingBeside 4 5 6] s
    ∧ clients s.arrClientFd = [5, 6] ∧ Kept 4 s
  := by
  obtain ⟨s, hrun, hs⟩ := Run.exists_of_exec (Thread.avServer.step 4) Fresh (Thread.avServer.start 4)
    (fun s => clients s.arrClientFd == [5, 6]) [connecting 4 5, connectingBeside 4 5 6]
    (by decide +kernel)
  use s, hrun, beq_iff_eq.mp hs
  apply table_kept (t := .avServer) _ _ hrun
  · decide
  · decide

/-- The same two clients connect to a server that listens on the descriptor 0: it closes its own
socket. -/
theorem table_not_kept :
  ∃ s, Run (Thread.avServer.step 0) Fresh (Thread.avServer.start 0)
      [connecting 0 5, connectingBeside 0 5 6] s
    ∧ 0 ∉ openFds s.log ∧ ¬ Kept 0 s
  := by
  obtain ⟨s, hrun, hs⟩ := Run.exists_of_exec (Thread.avServer.step 0) Fresh (Thread.avServer.start 0)
    (fun s => decide (0 ∉ openFds s.log)) [connecting 0 5, connectingBeside 0 5 6]
    (by decide +kernel)
  have hclosed := of_decide_eq_true hs
  use s, hrun, hclosed
  intro h
  apply hclosed h.listening.2

end Msg.SelectLoop
