import Avserver.Rtspd.Channels
import Avserver.Rtspd.Rounds

/-!
# The pools over a run

A stream is open if it has a queue, is registered with the streaming library and has a handler that
closes it (`Bs.Open`).  An open stream has a pool of its own, which has been built and not been freed
(`Pools`).  The handlers count and free the pool of whatever queue number the stream has; so they act
on a pool that has been built as long as a stream that is updated or stopped is open, or was never
opened (`pool_acts_ok`), and not when the queue or the registration failed.

A stream whose `stream_dereg` fails when it is stopped keeps its numbers behind its pool, which is
freed; it has lost its `closeFn` then, and is not open.  It is only when it is updated or stopped once
more, without a start in between, that its pool is touched again.
-/

namespace Rtspd

open Library

variable {o : Calls} {c d : ChNum} {i j : SubNum} {s s' : Server} {q : Int}

/-- What may be done to the pools: only a queue in range is built, counted or freed, only a pool
that has been `built` is counted or freed, and one that is freed holds all slots and none is
used. -/
def PoolAct.Ok : PoolAct → Prop
  | .init qno => 0 ≤ qno ∧ qno < vqMax
  | .count qno built => (0 ≤ qno ∧ qno < vqMax) ∧ built = true
  | .free qno built avail used ret =>
      (0 ≤ qno ∧ qno < vqMax) ∧ built = true ∧ used = some 0 ∧ avail = some videoFrameNumber ∧ ret = 0

/-- The stream `b` has the number of a queue and is registered under a number. -/
def Bs.Registered (b : Bs) : Prop := 0 ≤ b.qno ∧ 0 ≤ b.sr

/-- The stream `b` is open: it has a queue, is registered, and has a handler that closes it. -/
def Bs.Open (b : Bs) : Prop := b.Registered ∧ b.closeFn = true

/-- The pool of the stream `i` of `c` has frames outstanding, so that the stream is not stopped. -/
def Busy (s : Server) (c : ChNum) (i : SubNum) : Prop :=
  0 ≤ (s.bs c i).qno ∧ (getNumOfUsedVideoFrame (s.bs c i).qno s).1 ≠ some 0

/-- A stop of the streams in the list reaches the given one: those before it are not `Busy`. -/
def Reaches (s : Server) (c : ChNum) : List SubNum → SubNum → Prop
  | [], _ => False
  | i :: is, j => j = i ∨ ¬ Busy s c i ∧ Reaches s c is j

/-- Every open stream of `s` has a pool of its own, and only what may be done to the pools has been
done. -/
structure Pools (s : Server) : Prop where
  pool : ∀ q, s.built q = true → (0 ≤ q ∧ q < vqMax) ∧ ∃ A U, Pool (s.frameInfo q) A U
  opened : ∀ c i, (s.bs c i).Open → s.built (s.bs c i).qno = true
  distinct : ∀ c i d j, (s.bs c i).Open → (s.bs d j).Open →
    (s.bs c i).qno = (s.bs d j).qno → (c, i) = (d, j)
  acts : ∀ a ∈ s.acts, a.Ok

/-- What the libraries promise about what they yield when stream `i` of channel `c` is opened: a queue
that `stream_queue_alloc` yields is below `VQ_MAX` and not one that another stream is registered with,
and `malloc` does not yield the same slot twice. -/
structure Calls.Promised (o : Calls) (c : ChNum) (i : SubNum) (s : Server) : Prop where
  range : 0 ≤ o.videoQueue → o.videoQueue < vqMax
  unused : 0 ≤ o.videoQueue → ∀ d j, (d, j) ≠ (c, i) → (s.bs d j).Registered →
    (s.bs d j).qno ≠ o.videoQueue
  fresh : Fresh o.malloc

/-- What is promised of the calls `o` for the stream `i` of `c` concerns the other streams only. -/
theorem Calls.Promised.only (ho : o.Promised c i s) (honly : Only c i s s') : o.Promised c i s' := by
  refine ⟨ho.range, ?_, ho.fresh⟩
  intro hle d j hne hreg
  rw [honly.others d j hne] at hreg ⊢
  apply ho.unused hle d j hne hreg

/-- The pool of a stream that is registered with a queue can be built: `pthread_mutex_init` succeeds,
and there is memory for all slots. -/
def Calls.Builds (o : Calls) : Prop :=
  0 ≤ o.streamReg → 0 ≤ o.videoQueue →
    o.mutexInit = true ∧ ∀ n, ∃ fs, o.malloc n = (some fs, true)

/-- The turn of the stream `i` of `c` calls `open_live_streaming`, after a start that succeeds or an
update. -/
def OpensLive (o : Calls) (c : ChNum) (i : SubNum) (s : Server) : Prop :=
  (s.bs c i).event = s.bsEvent ∧
    (s.bsEvent = .start ∧ ((openBs o c i s).2.bs c i).openFn = true ∨
      s.bsEvent = .update ∧ 0 ≤ (s.bs c i).qno ∧
        (getNumOfUsedVideoFrame (s.bs c i).qno s).1 = some 0 ∧ (s.bs c i).openFn = true)

/-- The numbers of the stream `i` of `c` are forgotten, as if it had never been opened. -/
def forget (c : ChNum) (i : SubNum) (s : Server) : Server :=
  s.setBs c i fun b => { b with sr := -1, qno := -1 }

/-! ### Building a pool -/

/-- If `malloc` does not fail, then the loop of `init_video_frame` succeeds. -/
theorem initLoop_memory
    {malloc : Nat → Option SlotId × Bool} (h : ∀ n, ∃ fs, malloc n = (some fs, true)) (n k : Nat)
    (fi : FrameInfo) :
  (initLoop malloc n k fi).1 = 0
  := by
  induction n generalizing k fi with
  | zero => rfl
  | succ n ih =>
      obtain ⟨fs, hfs⟩ := h k
      rw [initLoop, hfs]
      apply ih

/-- With memory for all slots and a mutex, `init_video_frame` builds the pool of the queue `q`. -/
theorem initVideoFrame_memory
    (hmutex : o.mutexInit = true) (hfresh : Fresh o.malloc)
    (hmemory : ∀ n, ∃ fs, o.malloc n = (some fs, true)) (hrange : ¬ (q ≥ vqMax ∨ q < 0))
    (fi : FrameInfo) :
  (initVideoFrame q o.mutexInit o.malloc fi).1 = 0 ∧
  ∃ A, Pool (initVideoFrame q o.mutexInit o.malloc fi).2 A []
  := by
  have hret : (initVideoFrame q o.mutexInit o.malloc fi).1 = 0 := by
    rw [initVideoFrame, if_neg hrange, if_neg (by simp [hmutex])]
    apply initLoop_memory hmemory
  use hret
  apply Built.pool
  use q, o.mutexInit, o.malloc, fi, hfresh
  exact Prod.ext hret rfl

/-- What `init_video_frame` does for a queue `q` in range, and whether its pool is counted as built
then. -/
theorem initPool_of_range (hrange : ¬ (q ≥ vqMax ∨ q < 0)) (s : Server) :
  (initPool o q s).2 = { s with
    frameInfo := Function.update s.frameInfo q
      (initVideoFrame q o.mutexInit o.malloc (s.frameInfo q)).2
    built := Function.update s.built q
      (decide ((initVideoFrame q o.mutexInit o.malloc (s.frameInfo q)).1 = 0))
    acts := s.acts ++ [.init q] }
  := by
  rw [initPool, if_neg hrange]

/-- `open_live_streaming` does not ask for the numbers that the stream `i` of `c` has. -/
theorem openLiveStreaming_forget :
  openLiveStreaming o c i (forget c i s) = openLiveStreaming o c i s
  := by
  unfold openLiveStreaming forget
  rw [Server.setBs_setBs]

/-- `close_live_streaming` frees the pool of a registered stream, which loses its numbers if
`stream_dereg` cancels its registration. -/
theorem closeLiveStreaming_registered (hreg : (s.bs c i).Registered) :
  (closeLiveStreaming o c i s).2 =
    if o.streamDereg < 0 then (freeVideoFrame (s.bs c i).qno s).2
    else forget c i (freeVideoFrame (s.bs c i).qno s).2
  := by
  have hsr : ((freeVideoFrame (s.bs c i).qno s).2.bs c i).sr ≥ 0 := hreg.2
  unfold closeLiveStreaming
  dsimp only
  rw [if_pos hsr]
  split
  · rfl
  · rfl

namespace Pools

theorem of_started (h : s.Started) : Pools s where
  pool q hbuilt := by
    rw [h.built q] at hbuilt
    contradiction
  opened c i hopen := by
    have hqno := hopen.1.1
    rw [h.bs c i] at hqno
    contradiction
  distinct c i d j hopen := by
    have hqno := hopen.1.1
    rw [h.bs c i] at hqno
    contradiction
  acts := by
    rw [h.acts]
    exact fun _ ha => absurd ha List.not_mem_nil

/-- If nothing happens to the pools, and a stream that is open in `s'` was open with the same queue,
then `Pools` is kept. -/
theorem of_numbers
    (h : Pools s)
    (hbs : ∀ d j, (s'.bs d j).Open → (s.bs d j).Open ∧ (s'.bs d j).qno = (s.bs d j).qno)
    (hframeInfo : s'.frameInfo = s.frameInfo) (hbuilt : s'.built = s.built)
    (hacts : s'.acts = s.acts) :
  Pools s'
  := by
  constructor
  · rw [hframeInfo, hbuilt]
    apply h.pool
  · intro d j hj
    obtain ⟨hopen, hqno⟩ := hbs d j hj
    rw [hbuilt, hqno]
    apply h.opened d j hopen
  · intro c i d j hi hj heq
    obtain ⟨hopen, hqno⟩ := hbs c i hi
    obtain ⟨hopen', hqno'⟩ := hbs d j hj
    rw [hqno, hqno'] at heq
    apply h.distinct c i d j hopen hopen' heq
  · rw [hacts]
    apply h.acts

/-- A call of the driver for the stream `i` of `c` keeps the pools, if it leaves the handler that
closes the stream alone. -/
theorem driver
    (h : Pools s) (hdriver : ByDriver c i s s') (hclose : (s'.bs c i).closeFn = (s.bs c i).closeFn) :
  Pools s'
  := by
  apply h.of_numbers _ hdriver.frameInfo hdriver.built hdriver.acts
  intro d j hopen
  by_cases hp : (d, j) = (c, i)
  · obtain ⟨rfl, rfl⟩ := Prod.mk.inj hp
    rw [Bs.Open, Bs.Registered, hdriver.qno, hdriver.sr, hclose] at hopen
    exact ⟨hopen, hdriver.qno⟩
  · rw [hdriver.others d j hp] at hopen ⊢
    exact ⟨hopen, rfl⟩

/-- An assignment `f` to the stream `i` of `c` keeps the pools, if the stream is not open for that,
nor open with another queue. -/
theorem setBs
    {f : Bs → Bs} (h : Pools s)
    (hf : (f (s.bs c i)).Open → (s.bs c i).Open ∧ (f (s.bs c i)).qno = (s.bs c i).qno) :
  Pools (s.setBs c i f)
  := by
  refine h.of_numbers ?_ rfl rfl rfl
  intro d j
  by_cases hp : (d, j) = (c, i)
  · obtain ⟨rfl, rfl⟩ := Prod.mk.inj hp
    rw [Server.bs_setBs]
    apply hf
  · rw [Server.bs_setBs_other hp]
    exact fun hopen => ⟨hopen, rfl⟩

/-- If only the lists in `frame_info[]` change from `s` to `s'`, and stay lists of pools, then
`Pools` is kept. -/
theorem of_frames
    (h : Pools s) (henc : s'.enc = s.enc) (hbuilt : s'.built = s.built) (hacts : s'.acts = s.acts)
    (hpool : ∀ q A U, 0 ≤ q ∧ q < vqMax → Pool (s.frameInfo q) A U →
      ∃ A' U', Pool (s'.frameInfo q) A' U') :
  Pools s'
  := by
  have hbs (d : ChNum) (j : SubNum) : s'.bs d j = s.bs d j := by
    rw [Server.bs, henc]
    rfl
  constructor
  · intro q hq
    rw [hbuilt] at hq
    obtain ⟨hrange, A, U, hp⟩ := h.pool q hq
    exact ⟨hrange, hpool q A U hrange hp⟩
  · intro d j
    rw [hbs, hbuilt]
    apply h.opened d j
  · intro c i d j
    rw [hbs, hbs]
    apply h.distinct c i d j
  · rw [hacts]
    apply h.acts

/-- The stream `i` of `c` gets another queue or none, and only the pool of the queue `q` changes. -/
theorem of_queue
    (h : Pools s) (q : Int) (hothers : ∀ d j, (d, j) ≠ (c, i) → s'.bs d j = s.bs d j)
    (hrest : ∀ q', q' ≠ q → s'.frameInfo q' = s.frameInfo q' ∧ s'.built q' = s.built q')
    (hbuilt : s'.built q = true → (0 ≤ q ∧ q < vqMax) ∧ ∃ A U, Pool (s'.frameInfo q) A U)
    (hown : (s'.bs c i).Open → (s'.bs c i).qno = q ∧ s'.built q = true)
    (hne : ∀ d j, (d, j) ≠ (c, i) → (s.bs d j).Open → (s.bs d j).qno ≠ q)
    (hacts : ∀ a ∈ s'.acts, a.Ok) :
  Pools s'
  := by
  constructor
  · intro q' hq'
    by_cases hq : q' = q
    · subst hq
      apply hbuilt hq'
    · rw [(hrest q' hq).2] at hq'
      rw [(hrest q' hq).1]
      apply h.pool q' hq'
  · intro d j hopen
    by_cases hp : (d, j) = (c, i)
    · obtain ⟨rfl, rfl⟩ := Prod.mk.inj hp
      rw [(hown hopen).1]
      apply (hown hopen).2
    · rw [hothers d j hp] at hopen ⊢
      rw [(hrest _ (hne d j hp hopen)).2]
      apply h.opened d j hopen
  · intro e k d j hk hj heq
    by_cases hpk : (e, k) = (c, i)
    · obtain ⟨rfl, rfl⟩ := Prod.mk.inj hpk
      by_cases hpj : (d, j) = (e, k)
      · apply hpj.symm
      · rw [hothers d j hpj] at hj heq
        rw [(hown hk).1] at heq
        exact absurd heq.symm (hne d j hpj hj)
    · rw [hothers e k hpk] at hk heq
      by_cases hpj : (d, j) = (c, i)
      · obtain ⟨rfl, rfl⟩ := Prod.mk.inj hpj
        rw [(hown hj).1] at heq
        exact absurd heq (hne e k hpk hk)
      · rw [hothers d j hpj] at hj heq
        apply h.distinct e k d j hk hj heq
  · apply hacts

/-- A stream `i` of `c` that is not open has no pool, and nothing is asked of its numbers. -/
theorem unopened
    (h : Pools s) (hothers : ∀ d j, (d, j) ≠ (c, i) → s'.bs d j = s.bs d j)
    (hframeInfo : s'.frameInfo = s.frameInfo) (hbuilt : s'.built = s.built)
    (hacts : s'.acts = s.acts) (hnot : ¬ (s'.bs c i).Open) :
  Pools s'
  := by
  apply h.of_queue (c := c) (i := i) (-1) hothers
  · intro q' _
    rw [hframeInfo, hbuilt]
    exact ⟨rfl, rfl⟩
  · intro hown
    rw [hbuilt] at hown
    rw [hframeInfo]
    apply h.pool (-1) hown
  · exact fun hown => absurd hown hnot
  · -- no queue has the number -1
    intro d j _ hj heq
    have hqno := hj.1.1
    rw [heq] at hqno
    contradiction
  · rw [hacts]
    apply h.acts

/-- The stream `i` of `c`, when it has forgotten its numbers, is not open. -/
theorem not_open_forget : ¬ ((forget c i s).bs c i).Open := by
  rw [forget, Server.bs_setBs]
  rintro ⟨⟨hqno, -⟩, -⟩
  contradiction

/-- If the driver is called for the stream `i` of `c`, and the stream forgets its numbers, then the
pools are kept. -/
theorem forget_driver (h : Pools s) (hdriver : ByDriver c i s s') : Pools (forget c i s') := by
  refine h.unopened (c := c) (i := i) ?_ hdriver.frameInfo hdriver.built hdriver.acts not_open_forget
  intro d j hne
  rw [forget, Server.bs_setBs_other hne]
  apply hdriver.others d j hne

/-- An assignment `f` to a stream whose pool is not counted as its own keeps the pools, if the
stream is not open for it. -/
theorem of_forget {f : Bs → Bs} (h : Pools (forget c i s)) (hf : ¬ (f (s.bs c i)).Open) :
  Pools (s.setBs c i f)
  := by
  refine h.unopened (c := c) (i := i) ?_ rfl rfl rfl ?_
  · intro d j hne
    rw [forget, Server.bs_setBs_other hne, Server.bs_setBs_other hne]
  · rw [Server.bs_setBs]
    apply hf

/-- `open_live_streaming` -/
theorem openLiveStreaming (h : Pools s) (ho : o.Promised c i s) (hbuilds : o.Builds) :
  Pools (openLiveStreaming o c i s).2
  := by
  unfold Rtspd.openLiveStreaming
  generalize hf : (fun b : Bs =>
    { b with qno := o.videoQueue, audioQno := o.audioQueue, sr := o.streamReg }) = f
  have hqno (b : Bs) : (f b).qno = o.videoQueue := by rw [← hf]
  have hsr (b : Bs) : (f b).sr = o.streamReg := by rw [← hf]
  have hnot (hfail : o.streamReg < 0 ∨ o.videoQueue < 0) : Pools (s.setBs c i f) := by
    apply h.setBs
    rintro ⟨⟨hle, hle'⟩, -⟩
    rw [hqno] at hle
    rw [hsr] at hle'
    omega
  dsimp only
  split
  · next hreg => apply hnot (Or.inl hreg)
  · next hreg =>
      by_cases hrange : o.videoQueue ≥ vqMax ∨ o.videoQueue < 0
      · rw [initPool, if_pos hrange]
        apply hnot
        have hlt := ho.range
        omega
      · rw [initPool_of_range hrange]
        have hin : 0 ≤ o.videoQueue ∧ o.videoQueue < vqMax := by omega
        obtain ⟨hmutex, hmemory⟩ := hbuilds (Int.not_lt.mp hreg) hin.1
        obtain ⟨hret, A, hpool⟩ := initVideoFrame_memory hmutex ho.fresh hmemory hrange
          (s.frameInfo o.videoQueue)
        apply h.of_queue (c := c) (i := i) o.videoQueue
        · intro d j hne
          apply Server.bs_setBs_other hne f
        · intro q' hne
          exact ⟨Function.update_of_ne hne _ _, Function.update_of_ne hne _ _⟩
        · intro _
          use hin, A, []
          dsimp only
          rw [Function.update_self]
          apply hpool
        · intro _
          constructor
          · change ((s.setBs c i f).bs c i).qno = o.videoQueue
            rw [Server.bs_setBs, hqno]
          · dsimp only
            rw [Function.update_self]
            apply decide_eq_true hret
        · intro d j hne hopen
          apply ho.unused hin.1 d j hne hopen.1
        · intro a ha
          obtain ha | ha := List.mem_append.mp ha
          · apply h.acts a ha
          · obtain rfl := List.mem_singleton.mp ha
            apply hin

/-- The pool of an open stream without outstanding frames is freed by `free_video_frame`, and is not
counted as that of the stream any more. -/
theorem freeVideoFrame
    (h : Pools s) (hopen : (s.bs c i).Open)
    (hcount : (getNumOfUsedVideoFrame (s.bs c i).qno s).1 = some 0) :
  Pools (forget c i (freeVideoFrame (s.bs c i).qno s).2)
  := by
  obtain ⟨hrange, A, U, hp⟩ := h.pool _ (h.opened c i hopen)
  apply h.of_queue (c := c) (i := i) (s.bs c i).qno
  · intro d j hne
    apply Server.bs_setBs_other hne
  · intro q' hne
    exact ⟨Function.update_of_ne hne _ _, Function.update_of_ne hne _ _⟩
  · intro hbuilt
    change Function.update s.built (s.bs c i).qno false (s.bs c i).qno = true at hbuilt
    rw [Function.update_self] at hbuilt
    contradiction
  · exact fun hown => absurd hown not_open_forget
  · intro d j hne hj heq
    apply hne (h.distinct d j c i hj hopen heq)
  · intro a ha
    obtain ha | ha := List.mem_append.mp ha
    · apply h.acts a ha
    · obtain rfl := List.mem_singleton.mp ha
      have hused := getNumOfList_eq (n := walkBound) hp.used (by
        have hnumber := hp.number
        unfold walkBound
        omega)
      have hnil : U.length = 0 := Option.some.inj (hused.symm.trans hcount)
      have havail : getNumOfList (s.frameInfo (s.bs c i).qno).slots walkBound
          (s.frameInfo (s.bs c i).qno).avail = some videoFrameNumber := by
        have hnumber := hp.number
        rw [hnil, Nat.add_zero] at hnumber
        rw [getNumOfList_eq hp.avail (by unfold walkBound; omega), hnumber]
      exact ⟨hrange, h.opened c i hopen, hcount, havail, if_pos havail⟩

/-- `get_num_of_used_video_frame` of an open stream `i` of `c` is a count that may be made, and
changes no pool. -/
theorem getNumOfUsedVideoFrame (h : Pools s) (hopen : (s.bs c i).Open) :
  Pools (getNumOfUsedVideoFrame (s.bs c i).qno s).2
  := by
  have hbuilt := h.opened c i hopen
  refine ⟨h.pool, h.opened, h.distinct, ?_⟩
  intro a ha
  obtain ha | ha := List.mem_append.mp ha
  · apply h.acts a ha
  · obtain rfl := List.mem_singleton.mp ha
    exact ⟨(h.pool _ hbuilt).1, hbuilt⟩

/-! ### Turns -/

theorem settle (h : Pools s) : Pools (settle c i s) := h.setBs fun hopen => ⟨hopen, rfl⟩

theorem unhandle (h : Pools s) : Pools (unhandle c i s) := h.setBs fun hopen => ⟨hopen, rfl⟩

theorem reopen
    (h : Pools s) (ho : o.Promised c i s) (hbuilds : (s.bs c i).openFn = true → o.Builds) :
  Pools (reopen o c i s)
  := by
  unfold Rtspd.reopen
  split
  · next hopenFn => apply h.openLiveStreaming ho (hbuilds hopenFn)
  · apply h

/-- `START_BS_EVENT`.  Where `open_bs` leaves `openFn` set, the stream is opened under new numbers,
and those that it may have kept from an earlier registration do not matter. -/
theorem startTurn
    (h : Pools s) (ho : o.Promised c i s)
    (hbuilds : ((openBs o c i s).2.bs c i).openFn = true → o.Builds) :
  Pools (startTurn o c i s)
  := by
  have hdriver : ByDriver c i s (openBs o c i s).2 := ByDriver.openBs
  have honly : Only c i s (forget c i (openBs o c i s).2) := hdriver.toOnly.trans (Only.setBs _)
  unfold Rtspd.startTurn Rtspd.reopen
  split
  · next hopenFn =>
      rw [← openLiveStreaming_forget]
      apply ((h.forget_driver hdriver).openLiveStreaming (ho.only honly) (hbuilds hopenFn)).settle
  · next hnone =>
      apply Pools.settle
      apply h.driver hdriver
      obtain hties | hties := openBs_ties (o := o) (c := c) (i := i) (s := s)
      · apply hties.closeFn
      · exact absurd hties.openFn hnone

/-- `UPDATE_BS_EVENT`, for a stream that is open if it has a queue.  Whether its registration is
cancelled matters only when it is not opened anew. -/
theorem updateTurn
    (h : Pools s) (ho : o.Promised c i s) (hopen : 0 ≤ (s.bs c i).qno → (s.bs c i).Open)
    (hcloses : 0 ≤ (s.bs c i).qno → ¬ Busy s c i → (s.bs c i).openFn = true ∨ 0 ≤ o.streamDereg)
    (hbuilds : 0 ≤ (s.bs c i).qno → ¬ Busy s c i → (s.bs c i).openFn = true → o.Builds) :
  Pools (updateTurn o c i s)
  := by
  unfold Rtspd.updateTurn
  dsimp only
  split
  · next hqno =>
      have hopen := hopen hqno
      have hcounted := h.getNumOfUsedVideoFrame hopen
      split
      · next hcount =>
          have hidle : ¬ Busy s c i := fun hbusy => hbusy.2 hcount
          have hcloses := hcloses hqno hidle
          have hbuilds := hbuilds hqno hidle
          generalize hs' : (Rtspd.getNumOfUsedVideoFrame (s.bs c i).qno s).2 = s' at hcounted
          have hbs (d : ChNum) (j : SubNum) : s'.bs d j = s.bs d j := by
            rw [← hs']
            rfl
          have hframe : s'.frameInfo = s.frameInfo := by
            rw [← hs']
            rfl
          have hfreed : Pools (forget c i (Rtspd.freeVideoFrame (s'.bs c i).qno s').2) := by
            apply hcounted.freeVideoFrame
            · rw [hbs]
              apply hopen
            · rw [hbs, Rtspd.getNumOfUsedVideoFrame, hframe]
              apply hcount
          have honly : Only c i s (forget c i (Rtspd.freeVideoFrame (s'.bs c i).qno s').2) := by
            rw [← hs']
            apply ((Alone.getNumOfUsedVideoFrame _).trans (Alone.freeVideoFrame _)).toOnly.trans
            apply Only.setBs
          have hclose : (s'.bs c i).closeFn = true := by rw [hbs, hopen.2]
          have hreg : (s'.bs c i).Registered := by
            rw [hbs]
            apply hopen.1
          rw [Rtspd.shut, if_pos hclose, closeLiveStreaming_registered hreg]
          apply Pools.settle
          split
          · next hfail =>
              have hopenFn : (s.bs c i).openFn = true :=
                hcloses.resolve_right (Int.not_le.mpr hfail)
              have hopenFn' : ((Rtspd.freeVideoFrame (s'.bs c i).qno s').2.bs c i).openFn = true := by
                change (s'.bs c i).openFn = true
                rw [hbs, hopenFn]
              rw [Rtspd.reopen, if_pos hopenFn', ← openLiveStreaming_forget]
              apply hfreed.openLiveStreaming (ho.only honly) (hbuilds hopenFn)
          · apply hfreed.reopen (ho.only honly)
            intro hopenFn
            rw [forget, Server.bs_setBs] at hopenFn
            apply hbuilds
            rw [← hbs]
            apply hopenFn
      · apply hcounted
  · apply h

/-- A stream that is closed and stopped, and was open.  It has no `closeFn` then, and is not open
whether or not its registration is cancelled. -/
theorem finishStop
    (h : Pools s) (hopen : (s.bs c i).Open)
    (hcount : (Rtspd.getNumOfUsedVideoFrame (s.bs c i).qno s).1 = some 0) :
  Pools (finishStop o c i s)
  := by
  have hfreed := h.freeVideoFrame hopen hcount
  have hshut : Pools ((shut o c i s).setBs c i fun b => { b with closeFn := false }) := by
    rw [Rtspd.shut, if_pos hopen.2, closeLiveStreaming_registered hopen.1]
    split
    · apply hfreed.of_forget
      exact fun hnone => Bool.false_ne_true hnone.2
    · apply hfreed.setBs
      exact fun hnone => absurd hnone.2 Bool.false_ne_true
  apply Pools.settle
  apply hshut.driver ByDriver.closeBs closeBs_ties.closeFn

/-- The stop of a stream `i` of `c` keeps the pools, if it is open where it has a queue or a handler
that closes it. -/
theorem stopStream
    (h : Pools s) (hopen : 0 ≤ (s.bs c i).qno ∨ (s.bs c i).closeFn = true → (s.bs c i).Open) :
  Pools (stopStream o c i s).2
  := by
  have hopen' (hor : 0 ≤ ((Rtspd.unhandle c i s).bs c i).qno ∨
      ((Rtspd.unhandle c i s).bs c i).closeFn = true) :
      ((Rtspd.unhandle c i s).bs c i).Open := by
    rw [bs_unhandle] at hor ⊢
    apply hopen hor
  have hs := h.unhandle (c := c) (i := i)
  unfold Rtspd.stopStream
  dsimp only
  split
  · next hqno =>
      have hcounted := hs.getNumOfUsedVideoFrame (hopen' (Or.inl hqno))
      split
      · next hcount => apply hcounted.finishStop (hopen' (Or.inl hqno)) hcount
      · apply hcounted
  · next hqno =>
      split
      · next hclose => exact absurd (hopen' (Or.inr hclose)).1.1 hqno
      · apply hs.settle

end Pools

/-- The stream `i` of `c` was not `Busy` when it has been stopped and the next one is to be. -/
theorem not_busy_of_next (h : (stopStream o c i s).1 = true) : ¬ Busy s c i := by
  have hqno : ((unhandle c i s).bs c i).qno = (s.bs c i).qno := by
    rw [unhandle, Server.bs_setBs]
  rintro ⟨hle, hcount⟩
  unfold stopStream at h
  dsimp only at h
  rw [hqno, if_pos hle] at h
  split at h
  · next hnone => apply hcount hnone
  · contradiction

/-- Stopping the stream `i` of `c` leaves the pools of other queues than its own alone. -/
theorem stopStream_frameInfo (hq : q ≠ (s.bs c i).qno) :
  (stopStream o c i s).2.frameInfo q = s.frameInfo q
  := by
  have hqno : ((unhandle c i s).bs c i).qno = (s.bs c i).qno := by
    rw [unhandle, Server.bs_setBs]
  have hfinish (t : Server) (ht : (t.bs c i).qno = (s.bs c i).qno)
      (hframe : t.frameInfo = s.frameInfo) : (finishStop o c i t).frameInfo q = s.frameInfo q := by
    have hshut : (shut o c i t).frameInfo q = s.frameInfo q := by
      rw [← ht] at hq
      rw [← hframe]
      unfold shut closeLiveStreaming
      split
      · dsimp only
        split
        · split
          · apply Function.update_of_ne hq _ _
          · apply Function.update_of_ne hq _ _
        · apply Function.update_of_ne hq _ _
      · rfl
    have hclose := congrFun (ByDriver.closeBs (o := o) (c := c) (i := i)
      (s := (shut o c i t).setBs c i fun b => { b with closeFn := false })).frameInfo q
    apply hclose.trans hshut
  unfold stopStream
  dsimp only
  split
  · split
    · exact hfinish _ hqno rfl
    · rfl
  · split
    · apply hfinish _ hqno rfl
    · rfl

/-- The stream `j` of `c` that is busy stays so when another stream `i` that is not is stopped. -/
theorem Busy.stopStream
    (hne : j ≠ i) (hidle : ¬ Busy s c i) (h : Busy s c j) :
  Busy (stopStream o c i s).2 c j
  := by
  have hbs : (Rtspd.stopStream o c i s).2.bs c j = s.bs c j := by
    apply Alone.stopStream.others
    rintro ⟨⟩
    apply hne rfl
  have hqno : (s.bs c j).qno ≠ (s.bs c i).qno := by
    intro heq
    apply hidle
    rw [Busy, heq] at h
    apply h
  rw [Busy, hbs]
  use h.1
  rw [getNumOfUsedVideoFrame, stopStream_frameInfo hqno]
  apply h.2

/-- The stream `j` that is reached is one of those `is` that are stopped. -/
theorem Reaches.mem {is : List SubNum} (h : Reaches s c is j) : j ∈ is := by
  induction is with
  | nil => exact absurd h id
  | cons i is ih =>
      obtain rfl | ⟨-, hreach⟩ := h
      · apply List.mem_cons_self
      · apply List.mem_cons_of_mem i (ih hreach)

/-- A stream `j` that is reached when `i` has been stopped is reached behind it. -/
theorem Reaches.of_stopStream
    {is : List SubNum} (hmem : i ∉ is) (hidle : ¬ Busy s c i)
    (h : Reaches (stopStream o c i s).2 c is j) :
  Reaches s c is j
  := by
  induction is with
  | nil => apply h
  | cons k is ih =>
      rw [List.mem_cons, not_or] at hmem
      apply h.imp_right
      rintro ⟨hbusy, hreach⟩
      exact ⟨mt (Busy.stopStream (Ne.symm hmem.1) hidle) hbusy, ih hmem.2 hreach⟩

/-- `STOP_BS_EVENT`, when every stream that is reached is open if it has a queue or a handler that
closes it. -/
theorem Pools.stopStreams
    {o : SubNum → Calls} {is : List SubNum} (h : Pools s) (hnd : is.Nodup)
    (hopen : ∀ j, Reaches s c is j → 0 ≤ (s.bs c j).qno ∨ (s.bs c j).closeFn = true →
      (s.bs c j).Open) :
  Pools (stopStreams o c is s)
  := by
  induction is generalizing s with
  | nil => apply h
  | cons i is ih =>
      obtain ⟨hmem, hnd⟩ := List.nodup_cons.mp hnd
      have hstop : Pools (Rtspd.stopStream (o i) c i s).2 :=
        h.stopStream (hopen i (Or.inl rfl))
      rw [Rtspd.stopStreams]
      dsimp only
      split
      · next hnext =>
          have hidle := not_busy_of_next hnext
          apply ih hstop hnd
          intro j hreach
          have hne : (c, j) ≠ (c, i) := by
            rintro ⟨⟩
            apply hmem hreach.mem
          rw [Alone.stopStream.others c j hne]
          apply hopen j (Or.inr ⟨hidle, hreach.of_stopStream hmem hidle⟩)
      · apply hstop

/-! ### Runs -/

/-- What the libraries promise about what the calls of a step yield, if it is a turn:
`Calls.Promised`. -/
def Promises (s : Server) : ServerInput → Prop
  | .turn c i o => (o i).Promised c i s
  | _ => True

/-- The condition on the streams that a step closes.  A stream that is updated is open if it has a
queue, and `stream_dereg` cancels its registration where it has lost the handler that would open it
anew; every stream that a stop reaches is open if it has a queue or a handler that closes it. -/
def ClosesOpen (s : Server) : ServerInput → Prop
  | .turn c i o =>
      (s.bsEvent = .update → (s.bs c i).event = .update → 0 ≤ (s.bs c i).qno →
        (s.bs c i).Open ∧
          (¬ Busy s c i → (s.bs c i).openFn = true ∨ 0 ≤ (o i).streamDereg)) ∧
      (s.bsEvent = .stop → (s.bs c i).event = .stop → ∀ j, Reaches s c (stopped i) j →
        0 ≤ (s.bs c j).qno ∨ (s.bs c j).closeFn = true → (s.bs c j).Open)
  | _ => True

/-- The condition on the streams that a step opens: `init_video_frame` can build the pool of a
stream that is registered with a queue. -/
def OpensBuilt (s : Server) : ServerInput → Prop
  | .turn c i o => OpensLive (o i) c i s → (o i).Builds
  | _ => True

/-- What the libraries promise for the step `input`, and the conditions on the streams that it
closes and opens. -/
structure Handles (s : Server) (input : ServerInput) : Prop where
  promises : Promises s input
  closes : ClosesOpen s input
  opens : OpensBuilt s input

/-- The streams that are stopped with the stream `i` are different ones. -/
theorem stopped_nodup (i : SubNum) : (stopped i).Nodup := by
  unfold stopped
  split
  · decide
  · apply List.nodup_singleton

/-- The turn of the stream `i` of `c` keeps the pools, if it `Handles` what it closes and opens. -/
theorem Pools.turn
    {o : SubNum → Calls} (h : Pools s) (hhandles : Handles s (.turn c i o)) :
  Pools (turn o c i s)
  := by
  obtain ⟨hpromises, ⟨hupdates, hstops⟩, hopens⟩ := hhandles
  unfold Rtspd.turn
  split
  · apply h
  · next hevent =>
      have hphase : (s.bs c i).event = s.bsEvent := not_not.mp hevent
      split
      · apply h
      · next hstart =>
          apply h.startTurn hpromises
          intro hopenFn
          apply hopens ⟨hphase, Or.inl ⟨hstart, hopenFn⟩⟩
      · next hupdate =>
          have hupdates := hupdates hupdate (hphase.trans hupdate)
          apply h.updateTurn hpromises
          · exact fun hqno => (hupdates hqno).1
          · exact fun hqno => (hupdates hqno).2
          · intro hqno hidle hopenFn
            have hcount := not_not.mp fun hne => hidle ⟨hqno, hne⟩
            apply hopens ⟨hphase, Or.inr ⟨hupdate, hqno, hcount, hopenFn⟩⟩
      · next hstop =>
          apply h.stopStreams (stopped_nodup i) (hstops hstop (hphase.trans hstop))

/-- A frame that is written takes a slot of its pool, which stays a pool: `take_video_frame`. -/
theorem Pools.takeFrame {vf : VideoFrame} (h : Pools s) (htake : takeFrame c i vf s = some s') : Pools s' := by
  unfold Rtspd.takeFrame at htake
  dsimp only at htake
  split at htake
  · split at htake
    · next fs fi hslot =>
        obtain rfl := Option.some.inj htake
        refine h.of_frames rfl rfl rfl ?_
        intro q A U hrange hp
        by_cases hq : q = (s.bs c i).qno
        · subst hq
          obtain ⟨A', -, hp', -⟩ := hp.takeVideoFrame_inv hrange hslot
          use A', fs :: U
          dsimp only
          rw [Function.update_self]
          apply hp'.vf _
        · use A, U
          dsimp only
          rw [Function.update_of_ne hq]
          apply hp
    · contradiction
  · contradiction

/-- A frame that is given back puts its slot back to the pool, by `put_video_frame`. -/
theorem Pools.putFrame {key : Int} (h : Pools s) (hput : putFrame q key s = some s') : Pools s' := by
  unfold Rtspd.putFrame at hput
  split at hput
  · next fs hfound =>
      obtain rfl := Option.some.inj hput
      refine h.of_frames rfl rfl rfl ?_
      intro q' A U hrange hp
      by_cases hq : q' = q
      · subst hq
        rw [hp.searchVideoFrame_eq] at hfound
        have hmem : fs ∈ U := List.mem_of_find?_eq_some (Option.some.inj hfound)
        use fs :: A, U.erase fs
        dsimp only
        rw [Function.update_self]
        apply hp.putVideoFrame_mem hrange hmem
      · use A, U
        dsimp only
        rw [Function.update_of_ne hq]
        apply hp
  · contradiction

/-- A step of the server keeps the pools, if it `Handles` what it closes and opens. -/
theorem Pools.step
    {input : ServerInput} (h : Pools s) (hhandles : Handles s input)
    (hstep : serverStep s input = some s') :
  Pools s'
  := by
  obtain rfl | ⟨c, i, e, -, rfl⟩ | ⟨c, i, o, rfl, rfl⟩ | ⟨e, b, -, rfl⟩ | ⟨c, rfl⟩ |
    ⟨c, i, vf, htake⟩ | ⟨qno, key, hput⟩ := serverStep_cases hstep
  · apply h
  · have hevent := h.setBs (c := c) (i := i) (f := fun b => { b with event := e })
      fun hopen => ⟨hopen, rfl⟩
    exact hevent.of_numbers (fun _ _ hopen => ⟨hopen, rfl⟩) rfl rfl rfl
  · apply h.turn hhandles
  · exact h.of_numbers (fun _ _ hopen => ⟨hopen, rfl⟩) rfl rfl rfl
  · exact h.of_numbers (fun _ _ hopen => ⟨hopen, rfl⟩) rfl rfl rfl
  · apply h.takeFrame htake
  · apply h.putFrame hput

/-- When the streams that are updated and stopped are open, and the pools of those that are opened can
be built, only what may be done to the pools is done in a run, whatever the queues and registrations
of the streams that are opened yield. -/
theorem pool_acts_ok
    {s₀ t : Server} {inputs : List ServerInput} (hstart : s₀.Started)
    (hrun : Run serverStep Handles s₀ inputs t) :
  ∀ a ∈ t.acts, a.Ok
  := by
  have hpools : Pools t := by
    apply hrun.invariant _ (Pools.of_started hstart)
    intro s input s' hs hhandles hstep
    apply hs.step hhandles hstep
  apply hpools.acts

instance (b : Bs) : Decidable b.Registered := inferInstanceAs (Decidable (_ ∧ _))

instance (b : Bs) : Decidable b.Open := inferInstanceAs (Decidable (_ ∧ _))

instance : (a : PoolAct) → Decidable a.Ok
  | .init _ => inferInstanceAs (Decidable (_ ∧ _))
  | .count _ _ => inferInstanceAs (Decidable (_ ∧ _))
  | .free _ _ _ _ _ => inferInstanceAs (Decidable (_ ∧ _))

instance (s : Server) (c : ChNum) (i : SubNum) : Decidable (Busy s c i) :=
  inferInstanceAs (Decidable (_ ∧ _))

instance (s : Server) (c : ChNum) : (is : List SubNum) → (j : SubNum) → Decidable (Reaches s c is j)
  | [], _ => isFalse id
  | i :: is, j =>
      have : Decidable (Reaches s c is j) := instDecidableReaches s c is j
      inferInstanceAs (Decidable (j = i ∨ ¬ Busy s c i ∧ Reaches s c is j))

instance (s : Server) : (input : ServerInput) → Decidable (ClosesOpen s input)
  | .turn c i o =>
      have : Decidable (s.bsEvent = .update → (s.bs c i).event = .update → 0 ≤ (s.bs c i).qno →
        (s.bs c i).Open ∧
          (¬ Busy s c i → (s.bs c i).openFn = true ∨ 0 ≤ (o i).streamDereg)) := inferInstance
      have : Decidable (s.bsEvent = .stop → (s.bs c i).event = .stop → ∀ j, Reaches s c (stopped i) j →
        0 ≤ (s.bs c j).qno ∨ (s.bs c j).closeFn = true → (s.bs c j).Open) := inferInstance
      inferInstanceAs (Decidable (_ ∧ _))
  | .event _ _ _ | .advance | .rest | .updateParm _ _ | .takeFrame _ _ _ | .putFrame _ _ =>
      inferInstanceAs (Decidable True)

/-- Calls for a stream that yield the given numbers of a queue and a registration, or error codes.
All the others succeed, as in `workingCalls`. -/
def openingCalls (videoQueue streamReg : Int) : Calls :=
  { workingCalls with videoQueue := videoQueue, streamReg := streamReg }

/-- The `openingCalls` are as the libraries promise when no other stream is registered and the
number of the queue is in range. -/
theorem openingCalls_promised
    {reg : Int} (hrange : 0 ≤ q → q < vqMax) (h : ∀ d j, (d, j) ≠ (c, i) → ¬ (s.bs d j).Registered) :
  (openingCalls q reg).Promised c i s
  where
  range := hrange
  unused _ d j hne hreg := absurd hreg (h d j hne)
  fresh _ _ _ hi hj := Option.some.inj (hi.trans hj.symm)

/-- With the `openingCalls`, the pool of a stream can be built: there is memory and a mutex. -/
theorem openingCalls_builds {reg : Int} : (openingCalls q reg).Builds :=
  fun _ _ => ⟨rfl, fun n => ⟨n, rfl⟩⟩

/-- A stream is started, stopped with a `stream_dereg` that fails, and started and stopped once
more. -/
def stoppedTwice : List ServerInput :=
  [.event 0 1 .start, .turn 0 1 (fun _ => openingCalls 0 0), .advance, .event 0 1 .stop,
    .turn 0 1 (fun _ => { openingCalls 0 0 with streamDereg := -1 }), .advance, .advance,
    .event 0 1 .start, .turn 0 1 (fun _ => openingCalls 5 1), .advance, .event 0 1 .stop,
    .turn 0 1 (fun _ => openingCalls 5 1)]

/-- The general `pool_acts_ok` at `stoppedTwice`: both times the pool of the stream is built,
counted and freed. -/
theorem pool_acts_newServer :
  ∃ t, Run serverStep Handles (newServer rtspLiveStreaming) stoppedTwice t ∧
    (∀ a ∈ t.acts, a.Ok) ∧ t.acts.length = 6
  := by
  have hquiet {s : Server} {input : ServerInput} (h : ∀ c i o, input ≠ .turn c i o) :
      Handles s input := by
    cases input with
    | turn c i o => exact absurd rfl (h c i o)
    | _ => exact ⟨trivial, trivial, trivial⟩
  have hpromised : (openingCalls 0 0).Promised 0 1 (newServer rtspLiveStreaming) :=
    openingCalls_promised (by decide) (by decide)
  have hrun : ∃ t, Run serverStep Handles (newServer rtspLiveStreaming) stoppedTwice t ∧
      t.acts.length = 6 :=
    ⟨_, Run.cons (hquiet (by simp)) rfl <|
    Run.cons ⟨openingCalls_promised (by decide) (by decide), by decide,
      fun _ => openingCalls_builds⟩ rfl <|
    Run.cons (hquiet (by simp)) rfl <|
    Run.cons (hquiet (by simp)) rfl <|
    Run.cons ⟨⟨hpromised.range, by decide, hpromised.fresh⟩, by decide,
      fun _ => openingCalls_builds⟩ rfl <|
    Run.cons (hquiet (by simp)) rfl <|
    Run.cons (hquiet (by simp)) rfl <|
    Run.cons (hquiet (by simp)) rfl <|
    Run.cons ⟨openingCalls_promised (by decide) (by decide), by decide,
      fun _ => openingCalls_builds⟩ rfl <|
    Run.cons (hquiet (by simp)) rfl <|
    Run.cons (hquiet (by simp)) rfl <|
    Run.cons ⟨openingCalls_promised (by decide) (by decide), by decide,
      fun _ => openingCalls_builds⟩ rfl <|
    Run.nil _, rfl⟩
  obtain ⟨t, hrun, hlength⟩ := hrun
  exact ⟨t, hrun, pool_acts_ok (newServer_started _) hrun, hlength⟩

/-- The queue of a stream that is started cannot be allocated: when the stream is stopped,
`free_video_frame` of the queue -1 is called. -/
theorem pool_acts_not_ok :
  (newServer rtspLiveStreaming).Started ∧
  ∃ t, Run serverStep Promises (newServer rtspLiveStreaming)
      [.event 0 1 .start, .turn 0 1 (fun _ => openingCalls (-1) (-1)), .advance, .event 0 1 .stop,
        .turn 0 1 (fun _ => openingCalls (-1) (-1))] t ∧
    ∃ a ∈ t.acts, ¬ a.Ok
  := by
  use newServer_started _
  have hrun : Run serverStep Promises (newServer rtspLiveStreaming)
      [.event 0 1 .start, .turn 0 1 (fun _ => openingCalls (-1) (-1)), .advance, .event 0 1 .stop,
        .turn 0 1 (fun _ => openingCalls (-1) (-1))]
      (turn (fun _ => openingCalls (-1) (-1)) 0 1 (post 0 1 .stop (advance
        (turn (fun _ => openingCalls (-1) (-1)) 0 1
          (post 0 1 .start (newServer rtspLiveStreaming)))))) :=
    Run.cons trivial rfl <|
    Run.cons (openingCalls_promised (by decide) (by decide)) rfl <|
    Run.cons trivial rfl <|
    Run.cons trivial rfl <|
    Run.cons (openingCalls_promised (by decide) (by decide)) rfl <|
    Run.nil _
  exact ⟨_, hrun, by decide⟩

end Rtspd
