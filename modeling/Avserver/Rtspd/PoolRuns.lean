import Avserver.Rtspd.Service

/-!
# The pool of a queue over its calls

The threads of the server take slots from the pool of a queue, put used ones back and search the
used ones for a key.  Over any run of such calls the two linked lists refine two sequences of slots,
which hold the slots that `init_video_frame` has allocated and exchange them
(`pool_refines_sequences`).

A slot is taken from the front of the free ones, and nobody looks whether there is one: when all
slots are used, `take_video_frame` does not return, and neither does `write_rtp_frame`
(`exhaustion_handled_iff`).
-/

namespace Rtspd

open Library Library.DList

/-! ### The calls on a pool -/

/-- A call on the pool of a queue, or what a thread writes to the frame of a slot in between.  Slots
are `SlotId`s. -/
inductive PoolCall where
  /-- `take_video_frame` -/
  | take
  /-- `put_video_frame` -/
  | put (fs : SlotId)
  /-- `search_video_frame` -/
  | search (searchKey : Int)
  /-- the frame of a slot is written -/
  | fill (fs : SlotId) (frame : VideoFrame)
deriving DecidableEq

/-- A head pointer leads to a slot, along the `next` pointers of `slots`. -/
inductive Leads (slots : Heap SlotId) : Option SlotId → SlotId → Prop where
  | here (fs : SlotId) : Leads slots (some fs) fs
  | next {fs fs' : SlotId} (h : Leads slots (slots fs).next fs') : Leads slots (some fs) fs'

/-- The calls that are considered: a slot is taken while there is a free one in `fi`, and a slot
that is put back is one of the used ones. -/
def PoolCall.Allowed (fi : FrameInfo) : PoolCall → Prop
  | .take => fi.avail ≠ none
  | .put fs => Leads fi.slots fi.used fs
  | .search _ => True
  | .fill _ _ => True

/-- A queue with its `frames`, and the pointers that the calls have returned so far. -/
structure Called where
  frames : FrameInfo
  returned : List (Option SlotId)

/-- One call on the pool of the queue `qno`; `none` for a null dereference or an endless walk. -/
def poolStep (qno : Int) (s : Called) : PoolCall → Option Called
  | .take => (takeVideoFrame qno s.frames).map fun (fs, frames) => ⟨frames, s.returned ++ [fs]⟩
  | .put fs => some { s with frames := putVideoFrame qno fs s.frames }
  | .search key => (searchVideoFrame key s.frames).map fun fs => ⟨s.frames, s.returned ++ [fs]⟩
  | .fill fs frame =>
      some { s with frames := { s.frames with vf := Function.update s.frames.vf fs frame } }

/-- The pool in the abstract: a sequence of free slots, one of used slots, the frames `vf` of the
slots, and the slots returned so far. -/
structure SlotSeqs where
  avail : List SlotId
  used : List SlotId
  vf : SlotId → VideoFrame
  returned : List (Option SlotId)

/-- What a call does to the two sequences of `a`: a slot goes from one to the front of the other. -/
def SlotSeqs.call (a : SlotSeqs) : PoolCall → SlotSeqs
  | .take =>
      match a.avail with
      | [] => { a with returned := a.returned ++ [none] }
      | fs :: avail =>
          { a with avail := avail, used := fs :: a.used, returned := a.returned ++ [some fs] }
  | .put fs => { a with avail := fs :: a.avail, used := a.used.erase fs }
  | .search key =>
      { a with returned := a.returned ++ [a.used.find? fun fs => (a.vf fs).searchKey = key] }
  | .fill fs frame => { a with vf := Function.update a.vf fs frame }

/-! ### The refinement -/

/-- The slots that a head pointer leads to are those of the list `xs`. -/
theorem leads_iff
    {slots : Heap SlotId} {p list : Option SlotId} {xs : List SlotId} {fs : SlotId}
    (hs : Seg slots p list xs) :
  Leads slots list fs ↔ fs ∈ xs
  := by
  constructor
  · intro h
    induction h generalizing p xs with
    | here fs =>
        obtain ⟨ys, rfl, -⟩ := hs.cons_of_some
        apply List.mem_cons_self
    | @next x _ _ ih =>
        obtain ⟨ys, rfl, htail⟩ := hs.cons_of_some
        apply List.mem_cons_of_mem x (ih htail)
  · intro h
    induction xs generalizing p list with
    | nil => contradiction
    | cons x xs ih =>
        obtain ⟨rfl, -, htail⟩ := hs
        rcases List.mem_cons.mp h with rfl | h
        · apply Leads.here
        · apply Leads.next (ih htail h)

/-- The queue of `s` represents the two sequences of `a`, with the same frames, and the calls have
returned the same. -/
structure Represents (s : Called) (a : SlotSeqs) : Prop where
  pool : Pool s.frames a.avail a.used
  vf : s.frames.vf = a.vf
  returned : s.returned = a.returned

namespace Represents

variable {qno : Int} {s s' : Called} {a : SlotSeqs} {c : PoolCall}

/-- An allowed call `c` comes to an end, and does to the queue what it does to the sequences. -/
theorem call (h : Represents s a) (hqno : 0 ≤ qno ∧ qno < vqMax) (hc : c.Allowed s.frames) :
  ∃ s', poolStep qno s c = some s' ∧ Represents s' (a.call c)
  := by
  cases c with
  | take =>
      cases havail : a.avail with
      | nil =>
          have hnull := h.pool.avail
          rw [havail] at hnull
          apply absurd hnull hc
      | cons fs avail =>
          have hpool := h.pool
          rw [havail] at hpool
          obtain ⟨frames, htake, hpool', hvf⟩ := hpool.takeVideoFrame_cons hqno
          rw [poolStep, htake]
          refine ⟨_, rfl, ?_⟩
          simp only [SlotSeqs.call, havail]
          use hpool', hvf.trans h.vf
          rw [h.returned]
  | put fs =>
      refine ⟨_, rfl, ?_⟩
      use h.pool.putVideoFrame_mem hqno ((leads_iff h.pool.used).mp hc)
      · rw [Pool.putVideoFrame_vf]
        apply h.vf
      · apply h.returned
  | search key =>
      rw [poolStep, h.pool.searchVideoFrame_eq key]
      refine ⟨_, rfl, ?_⟩
      use h.pool, h.vf
      rw [SlotSeqs.call, h.returned, h.vf]
  | fill fs frame =>
      refine ⟨_, rfl, ?_⟩
      use h.pool.vf _
      · simp only [SlotSeqs.call, h.vf]
      · apply h.returned

/-- An allowed call `c` moves slots from one sequence to the other, and loses or adds none. -/
theorem perm (h : Represents s a) (hc : c.Allowed s.frames) :
  ((a.call c).avail ++ (a.call c).used).Perm (a.avail ++ a.used)
  := by
  cases c with
  | take =>
      rw [SlotSeqs.call]
      split
      · apply List.Perm.refl
      · next fs avail heq =>
          rw [heq]
          apply List.perm_middle
  | put fs =>
      have hfs : fs ∈ a.used := (leads_iff h.pool.used).mp hc
      calc fs :: a.avail ++ a.used.erase fs
          _ |>.Perm (a.avail ++ fs :: a.used.erase fs) := List.perm_middle.symm
          _ |>.Perm (a.avail ++ a.used) := (List.perm_cons_erase hfs).symm.append_left a.avail
  | search key => apply List.Perm.refl
  | fill fs frame => apply List.Perm.refl

/-- A run of allowed calls `cs` does to the queue what it does to the sequences, and keeps the
slots. -/
theorem run
    {cs : List PoolCall} (h : Represents s a) (hqno : 0 ≤ qno ∧ qno < vqMax)
    (hrun : Run (poolStep qno) (fun s c => c.Allowed s.frames) s cs s') :
  let a' := cs.foldl SlotSeqs.call a
  Represents s' a' ∧ (a'.avail ++ a'.used).Perm (a.avail ++ a.used)
  := by
  induction hrun generalizing a with
  | nil =>
      use h
      apply List.Perm.refl
  | @cons s s₁ t c cs hc hstep _ ih =>
      obtain ⟨s₂, hstep', hcall⟩ := h.call hqno hc
      obtain rfl := Option.some.inj (hstep.symm.trans hstep')
      obtain ⟨hrep, hperm⟩ := ih hcall
      use hrep
      apply hperm.trans (h.perm hc)

end Represents

/-- In every run of calls on a pool that `init_video_frame` has built, the pointers form two doubly
linked lists of the slots it has allocated, each of them in one of the lists and once.  They
represent the two sequences that the calls lead to, the same slots have been returned, and every
call that is allowed next comes to an end. -/
theorem pool_refines_sequences
    {malloc : Nat → Option SlotId × Bool} {qno : Int} {mutexInit : Bool} {fi₀ fi : FrameInfo}
    {cs : List PoolCall} {s : Called} (hfresh : Fresh malloc)
    (hinit : initVideoFrame qno mutexInit malloc fi₀ = (0, fi))
    (hrun : Run (poolStep qno) (fun s c => c.Allowed s.frames) ⟨fi, []⟩ cs s) :
  let slots := allocated malloc videoFrameNumber 0
  let a := cs.foldl SlotSeqs.call ⟨slots.reverse, [], fi.vf, []⟩
  (Seg s.frames.slots none s.frames.avail a.avail ∧ Seg s.frames.slots none s.frames.used a.used)
    ∧ (a.avail ++ a.used).Nodup ∧ (a.avail ++ a.used).Perm slots
    ∧ s.returned = a.returned ∧ s.frames.vf = a.vf
    ∧ ∀ c : PoolCall, c.Allowed s.frames → ∃ s', poolStep qno s c = some s'
  := by
  obtain ⟨hqno, hpool⟩ := initVideoFrame_pool hfresh hinit
  have hstart : Represents ⟨fi, []⟩
      ⟨(allocated malloc videoFrameNumber 0).reverse, [], fi.vf, []⟩ := ⟨hpool, rfl, rfl⟩
  obtain ⟨hrep, hperm⟩ := hstart.run hqno hrun
  use ⟨hrep.pool.avail, hrep.pool.used⟩, hrep.pool.nodup
  constructor
  · apply hperm.trans
    simp only [List.append_nil]
    apply List.reverse_perm
  · use hrep.returned, hrep.vf
    intro c hc
    obtain ⟨s', hstep, -⟩ := hrep.call hqno hc
    use s', hstep

/-- The general `pool_refines_sequences` at a slot that is taken, whose frame is written and found
by its key, and that is put back. -/
theorem pool_refines_sequences_newQueue :
  ∃ s : Called, s.returned = [some 5, some 5] ∧
    let a := [PoolCall.take, .fill 5 ⟨0, 0, ⟨0, 0, 0, 0⟩, 7⟩, .search 7, .put 5].foldl SlotSeqs.call
      ⟨(allocated mallocInOrder videoFrameNumber 0).reverse, [], newQueue.vf, []⟩
    Seg s.frames.slots none s.frames.avail a.avail ∧ Seg s.frames.slots none s.frames.used a.used
  := by
  have hrun : ∃ s : Called, Run (poolStep 0) (fun s c => c.Allowed s.frames) ⟨newQueue, []⟩
      [.take, .fill 5 ⟨0, 0, ⟨0, 0, 0, 0⟩, 7⟩, .search 7, .put 5] s
      ∧ s.returned = [some 5, some 5] := by
    refine ⟨_, Run.cons ?_ rfl (Run.cons trivial rfl (Run.cons trivial rfl
      (Run.cons (Leads.here 5) rfl (Run.nil _)))), rfl⟩
    exact Option.some_ne_none 5
  obtain ⟨s, hrun, hreturned⟩ := hrun
  have hinit : initVideoFrame 0 true mallocInOrder
      ⟨none, none, fun _ => ⟨none, none⟩, fun _ => ⟨0, 0, ⟨0, 0, 0, 0⟩, 0⟩⟩ = (0, newQueue) := rfl
  use s, hreturned
  apply (pool_refines_sequences mallocInOrder_fresh hinit hrun).1

/-! ### When no slot is free -/

/-- `write_rtp_frame` of the frame `q` comes to an end and the driver has the frame back. -/
def GivesBack (p : Live) (enqueue put : Int) (q : Frame) (s : Stream) : Prop :=
  ∃ ret s', writeRtpFrame p enqueue put q s = some (ret, s') ∧ s'.out = s.out.erase q

/-- An exhausted pool is handled: `take_video_frame` returns, and when no slot is free it returns the
null pointer and leaves the lists alone, so that `write_rtp_frame` gives the frame back. -/
structure Handled (p : Live) (enqueue put : Int) (q : Frame) (s : Stream) : Prop where
  returns : ∃ fs frames, takeVideoFrame p.qno s.frames = some (fs, frames)
    ∧ (s.frames.avail = none → fs = none ∧ frames = s.frames)
  givesBack : s.frames.avail = none → GivesBack p enqueue put q s

/-- What `write_rtp_frame` does with the frame `q` before it looks whether somebody is watching. -/
def received (p : Live) (q : Frame) (s : Stream) : Stream :=
  sendToNvr p q (h264GetNALType q.payload q.queue.length)
    (readPayload q .h264GetNALType (serveIntra (startClock q s).2))

theorem received_quiet (p : Live) (q : Frame) (s : Stream) :
  Quiet q.serial s (received p q s)
  := by
  apply Quiet.trans _ (Quiet.sendToNvr p q _ _)
  apply Quiet.trans _ (Quiet.readPayload q .h264GetNALType _)
  apply Quiet.trans (Quiet.startClock q s) (Quiet.serveIntra _)

@[simp]
theorem startClock_play (q : Frame) (s : Stream) :
  (startClock q s).2.control.play = s.control.play
  := by
  simp only [startClock]
  split
  · rfl
  · rfl

@[simp]
theorem serveIntra_play (s : Stream) :
  (serveIntra s).control.play = s.control.play
  := by
  unfold serveIntra
  split
  · rfl
  · rfl

theorem received_play (p : Live) (q : Frame) (s : Stream) :
  (received p q s).control.play = s.control.play
  := by
  have hread : (readPayload q .h264GetNALType (serveIntra (startClock q s).2)).control.play
      = s.control.play := by
    simp only [readPayload, serveIntra_play, startClock_play]
  simp only [received, sendToNvr]
  split
  · split
    · apply hread
    · apply hread
  · apply hread

section Exhausted

variable {p : Live} {enqueue put : Int} {q : Frame} {s : Stream}

/-- The exits of `write_rtp_frame` before a slot is taken, and the slot that is then missing in
`s`. -/
theorem writeRtpFrame_exhausted (hfull : takeVideoFrame p.qno s.frames = none) :
  writeRtpFrame p enqueue put q s
    = if s.control.event ≠ noneBsEvent then
        some (1, (freeBsData p p.chNum p.subNum put q.queue s).2)
      else if s.control.play = 0 then
        some (1, (freeBsData p p.chNum p.subNum put q.queue (received p q s)).2)
      else none
  := by
  have hframes : (received p q s).frames = s.frames := (received_quiet p q s).frames
  have hplay := received_play p q s
  simp only [received] at hframes hplay ⊢
  simp only [writeRtpFrame, hframes, hfull, hplay]

/-- With no slot free `write_rtp_frame` gives the frame back when the stream has an event pending or
nobody is watching, and dereferences the missing slot otherwise. -/
theorem givesBack_exhausted_iff
    (hfull : takeVideoFrame p.qno s.frames = none) (hput : 0 ≤ put) (hq : q ∈ s.out)
    (hoffsets : (s.out.map (fun q => q.queue.offset)).Nodup) :
  GivesBack p enqueue put q s ↔ s.control.event ≠ noneBsEvent ∨ s.control.play = 0
  := by
  have hquiet := received_quiet p q s
  rw [GivesBack, writeRtpFrame_exhausted hfull]
  split
  · next hevent =>
      constructor
      · intro _
        left
        apply hevent
      · intro _
        refine ⟨_, _, rfl, ?_⟩
        rw [freeBsData_eq hput hoffsets hq]
        rfl
  · next hevent =>
      split
      · next hplay =>
          constructor
          · intro _
            right
            apply hplay
          · intro _
            refine ⟨_, _, rfl, ?_⟩
            rw [freeBsData_eq hput (by rw [hquiet.out]; apply hoffsets)
              (by rw [hquiet.out]; apply hq), ← hquiet.out]
            rfl
      · next hplay =>
          constructor
          · rintro ⟨ret, s', hnone, -⟩
            contradiction
          · intro h
            rcases h with h | h
            · apply absurd h hevent
            · apply absurd h hplay

/-- Exhaustion of a pool is handled exactly as long as it does not occur: `take_video_frame` returns
if and only if a slot is free.  With none free, `write_rtp_frame` gives the frame back only on its
ways out that take no slot. -/
theorem exhaustion_handled_iff (hpool : ∃ A U, Pool s.frames A U) :
  (Handled p enqueue put q s ↔ s.frames.avail ≠ none)
    ∧ (s.frames.avail = none → 0 ≤ put → q ∈ s.out →
        (s.out.map (fun q => q.queue.offset)).Nodup →
        (GivesBack p enqueue put q s ↔ s.control.event ≠ noneBsEvent ∨ s.control.play = 0))
  := by
  obtain ⟨A, U, hpool⟩ := hpool
  cases A with
  | nil =>
      have hfull := hpool.takeVideoFrame_nil p.qnoInRange
      have hnull : s.frames.avail = none := hpool.avail
      constructor
      · constructor
        · rintro ⟨⟨fs, frames, htake, -⟩, -⟩
          rw [hfull] at htake
          contradiction
        · intro h
          contradiction
      · intro _ hput hq hoffsets
        apply givesBack_exhausted_iff hfull hput hq hoffsets
  | cons fs A =>
      have hfree : s.frames.avail ≠ none := by
        rw [hpool.avail.1]
        apply Option.some_ne_none
      obtain ⟨frames, htake, -⟩ := hpool.takeVideoFrame_cons p.qnoInRange
      constructor
      · constructor
        · intro _
          apply hfree
        · intro _
          constructor
          · use some fs, frames, htake
            intro h
            contradiction
          · intro h
            contradiction
      · intro h
        contradiction

end Exhausted

/-- A small frame at the given `offset` is served that the library accepts. -/
def served (offset : Int) : Input := .service 0 0 (smallFrame offset) [] 0 0

/-- The general `exhaustion_handled_iff` at six frames in the library, and a seventh on its way. -/
theorem exhaustion_handled_iff_served :
  ∃ t, Run (serviceStep mainStream) Assumed newStream
      [served 0, served 64, served 128, served 192, served 256, served 320] t
    ∧ t.frames.avail = none
    ∧ (Handled mainStream 0 0 ⟨5, smallFrame 320, []⟩ t ↔ t.frames.avail ≠ none)
    ∧ (GivesBack mainStream 0 0 ⟨5, smallFrame 320, []⟩ t
        ↔ t.control.event ≠ noneBsEvent ∨ t.control.play = 0)
  := by
  obtain ⟨t, hrun, ht⟩ := Run.exists_of_exec (serviceStep mainStream) Assumed newStream
    (fun t => t.frames.avail = none ∧ ⟨5, smallFrame 320, []⟩ ∈ t.out
      ∧ (t.out.map (fun q => q.queue.offset)).Nodup)
    [served 0, served 64, served 128, served 192, served 256, served 320] (by decide +kernel)
  obtain ⟨havail, hq, hoffsets⟩ := of_decide_eq_true ht
  have hpool := (hrun.invariant (fun _ _ _ hs hi hstep => hs.step hi hstep)
    (Balanced.of_opened newStream_opened)).pool
  obtain ⟨A, hA⟩ := hpool
  obtain ⟨hhandled, hback⟩ :=
    @exhaustion_handled_iff mainStream 0 0 ⟨5, smallFrame 320, []⟩ t ⟨A, _, hA⟩
  exact ⟨t, hrun, havail, hhandled, hback havail (Int.le_refl 0) hq hoffsets⟩

/-- Once six frames are in the library, `take_video_frame` for the next one dereferences the null
pointer. -/
theorem exhaustion_not_handled :
  ∃ t, Run (serviceStep mainStream) Assumed newStream
      [served 0, served 64, served 128, served 192, served 256, served 320] t
    ∧ (∃ A U, Pool t.frames A U)
    ∧ (∀ q, ¬ Handled mainStream 0 0 q t)
    ∧ serviceStep mainStream t (served 384) = none
  := by
  obtain ⟨t, hrun, ht⟩ := Run.exists_of_exec (serviceStep mainStream) Assumed newStream
    (fun t => (takeVideoFrame mainStream.qno t.frames).isNone
      && (serviceStep mainStream t (served 384)).isNone)
    [served 0, served 64, served 128, served 192, served 256, served 320] (by decide +kernel)
  obtain ⟨htake, hnext⟩ := Bool.and_eq_true_iff.mp ht
  obtain ⟨A, hA⟩ := (hrun.invariant (fun _ _ _ hs hi hstep => hs.step hi hstep)
    (Balanced.of_opened newStream_opened)).pool
  use t, hrun, ⟨A, _, hA⟩
  constructor
  · rintro q ⟨⟨fs, frames, hsome, -⟩, -⟩
    rw [hsome] at htake
    contradiction
  · apply Option.isNone_iff_eq_none.mp hnext

end Rtspd
