import Avserver.Library.DList

/-!
# Frame slots and their lists

The slots of a video queue are cells of two doubly linked lists: `avail`, the free slots,
and `used`, the slots whose frame is on its way to the clients.  The list functions are
the pointer programs of `rtspd.c`, over the heap of cells; `takeVideoFrame`,
`putVideoFrame` and `searchVideoFrame` are what the two threads of the server do under
the mutex of the queue.

`Pool fi A U` says that the pointers of `fi` represent the sequences `A` and `U` of free
and used slots, which together are the `videoFrameNumber` slots of the queue.  The list
functions refine the operations on the two sequences: `takeVideoFrame` moves the first
free slot to the front of the used ones, `putVideoFrame` moves a used slot to the front
of the free ones, and `searchVideoFrame` finds the first used slot with a key.
-/

namespace Rtspd

open Library Library.DList

/-- `VQ_MAX`: the number of video queues, and of the entries of `frame_info[]`. -/
def vqMax : Int := 64

/-- `VQ_LEN`: the number of entities that a video queue of the streaming library holds. -/
def vqLen : Nat := 5

/-- `VIDEO_FRAME_NUMBER`: the number of slots of a queue, one more than its entries. -/
def videoFrameNumber : Nat := vqLen + 1

/-- The address of a frame slot, which `malloc` has given; the null pointer is none of them. -/
abbrev SlotId := Nat

/-- `dvr_enc_queue_get`: what the driver reports about a frame, of which the server uses
the place of the payload in the mapped buffer, its length and its time stamp. -/
structure QueueGet where
  /-- `bs.offset` -/
  offset : Int
  /-- `bs.length` -/
  length : Int
  /-- `bs.timestamp.tv_sec` -/
  tvSec : Int
  /-- `bs.timestamp.tv_usec` -/
  tvUsec : Int
deriving DecidableEq

/-- `video_frame_t`: the contents of a slot, but for the links to its neighbours in a list. -/
structure VideoFrame where
  chNum : Int
  subNum : Int
  queue : QueueGet
  searchKey : Int
deriving DecidableEq

/-- `frame_info_t`: the heads of the two lists of a queue, together with the memory that
the pointers lead to, the links of the slots and the frames at their `vf` pointers. -/
structure FrameInfo where
  avail : Option SlotId
  used : Option SlotId
  slots : Heap SlotId
  vf : SlotId → VideoFrame

/-! ### The list functions -/

/-- The number of slots a walk can visit before it is known never to end: it has then
been at one of the `videoFrameNumber` slots twice. -/
def walkBound : Nat := videoFrameNumber + 1

/-- `get_num_of_list` of the list that begins at the given slot, with a bound on the slots visited;
`none` when it is exhausted. -/
def getNumOfList (slots : Heap SlotId) : Nat → Option SlotId → Option Nat
  | 0, _ => none
  | _ + 1, none => some 0
  | n + 1, some fs => (getNumOfList slots n (slots fs).next).map (· + 1)

/-- `add_to_list`: the links and the head after the slot `fs` is pushed in front of `list`. -/
def addToList (fs : SlotId) (slots : Heap SlotId) (list : Option SlotId) :
    Heap SlotId × Option SlotId :=
  let slots := setPrev slots fs none
  let slots := setNext slots fs list
  let slots := setPrevOf slots (slots fs).next (some fs)
  (slots, some fs)

/-- `remove_from_listhead`: the first slot, the links and the new head.  The function
does not test the head for null, so an empty list is a null dereference, `none`. -/
def removeFromListhead (slots : Heap SlotId) (list : Option SlotId) :
    Option (SlotId × Heap SlotId × Option SlotId) :=
  match list with
  | none => none
  | some fs =>
      let slots := setPrevOf slots (slots fs).next none
      some (fs, slots, (slots fs).next)

/-- `search_from_list`: the first slot whose `search_key` is the given one, with a bound
on the slots visited; `none` when it is exhausted, `some none` for the null pointer. -/
def searchFromList (searchKey : Int) (slots : Heap SlotId) (vf : SlotId → VideoFrame) :
    Nat → Option SlotId → Option (Option SlotId)
  | 0, _ => none
  | _ + 1, none => some none
  | n + 1, some fs =>
      if (vf fs).searchKey = searchKey then some (some fs)
      else searchFromList searchKey slots vf n (slots fs).next

/-- `remove_from_list`: the links and the head after the slot `fs` is spliced out of `list`. -/
def removeFromList (fs : SlotId) (slots : Heap SlotId) (list : Option SlotId) :
    Heap SlotId × Option SlotId :=
  let slots := setPrevOf slots (slots fs).next (slots fs).prev
  match (slots fs).prev with
  | some prev => (setNext slots prev (slots fs).next, list)
  | none => (slots, (slots fs).next)

/-! ### The queue functions -/

/-- The loop of `init_video_frame`, from its `i`-th round on with `n` rounds to go;
`malloc i` is what the two allocations of the round yield, the slot and whether there was
memory for its frame. -/
def initLoop (malloc : Nat → Option SlotId × Bool) :
    (n i : Nat) → FrameInfo → Int × FrameInfo
  | 0, _, fi => (0, fi)
  | n + 1, i, fi =>
      match malloc i with
      | (some fs, true) =>
          let (slots, avail) := addToList fs fi.slots fi.avail
          initLoop malloc n (i + 1) { fi with slots := slots, avail := avail }
      | _ => (-1, fi)

/-- `init_video_frame`: the return value and the queue `qno`, whose slots have whatever contents
their memory had. -/
def initVideoFrame (qno : Int) (mutexInit : Bool) (malloc : Nat → Option SlotId × Bool)
    (fi : FrameInfo) : Int × FrameInfo :=
  if qno ≥ vqMax ∨ qno < 0 then (-1, fi)
  else if mutexInit = false then (-1, fi)
  else initLoop malloc videoFrameNumber 0 { fi with avail := none, used := none }

/-- `search_video_frame` for `searchKey` among the used slots; `none` when the walk never ends. -/
def searchVideoFrame (searchKey : Int) (fi : FrameInfo) : Option (Option SlotId) :=
  searchFromList searchKey fi.slots fi.vf walkBound fi.used

/-- `take_video_frame`: the slot taken and the queue; `none` for the null dereference
when no slot is free, and the null pointer for a queue number out of range. -/
def takeVideoFrame (qno : Int) (fi : FrameInfo) : Option (Option SlotId × FrameInfo) :=
  if qno ≥ vqMax ∨ qno < 0 then some (none, fi)
  else
    match removeFromListhead fi.slots fi.avail with
    | none => none
    | some (fs, slots, avail) =>
        let (slots, used) := addToList fs slots fi.used
        some (some fs, { fi with slots := slots, avail := avail, used := used })

/-- `put_video_frame` of the slot `fs` to the queue `qno`, for a slot that is not the null
pointer. -/
def putVideoFrame (qno : Int) (fs : SlotId) (fi : FrameInfo) : FrameInfo :=
  if qno ≥ vqMax ∨ qno < 0 then fi
  else
    let (slots, used) := removeFromList fs fi.slots fi.used
    let (slots, avail) := addToList fs slots fi.avail
    { fi with slots := slots, avail := avail, used := used }

/-! ### The lists as sequences -/

variable {slots : Heap SlotId} {list p : Option SlotId} {xs : List SlotId} {fs : SlotId}

/-- `get_num_of_list` counts the slots `xs` of a list, if there are fewer than the bound on the
walk. -/
theorem getNumOfList_eq
    {n : Nat} (hs : Seg slots p list xs) (hn : xs.length < n) :
  getNumOfList slots n list = some xs.length
  := by
  induction xs generalizing p list n with
  | nil =>
      obtain rfl : list = none := hs
      obtain ⟨n, rfl⟩ := Nat.exists_eq_add_one_of_ne_zero (Nat.ne_of_gt hn)
      rfl
  | cons x xs ih =>
      obtain ⟨rfl, -, hs⟩ := hs
      obtain ⟨n, rfl⟩ := Nat.exists_eq_add_one_of_ne_zero (Nat.ne_zero_of_lt hn)
      rw [getNumOfList, ih hs (Nat.lt_of_succ_lt_succ hn)]
      rfl

/-- `search_from_list` finds the first slot of the list `xs` that has the `key`. -/
theorem searchFromList_eq
    {key : Int} {vf : SlotId → VideoFrame} {n : Nat}
    (hs : Seg slots p list xs) (hn : xs.length < n) :
  searchFromList key slots vf n list
    = some (xs.find? (fun x => (vf x).searchKey = key))
  := by
  induction xs generalizing p list n with
  | nil =>
      obtain rfl : list = none := hs
      obtain ⟨n, rfl⟩ := Nat.exists_eq_add_one_of_ne_zero (Nat.ne_of_gt hn)
      rfl
  | cons x xs ih =>
      obtain ⟨rfl, -, hs⟩ := hs
      obtain ⟨n, rfl⟩ := Nat.exists_eq_add_one_of_ne_zero (Nat.ne_zero_of_lt hn)
      rw [searchFromList, List.find?_cons]
      by_cases hkey : (vf x).searchKey = key
      · simp [hkey]
      · rw [if_neg hkey, ih hs (Nat.lt_of_succ_lt_succ hn)]
        simp [hkey]

/-- `add_to_list` touches the links of the slot `fs` and of the first slot of the list only. -/
theorem addToList_of_ne
    {y : SlotId} (hs : Seg slots none list xs) (hfs : y ≠ fs) (hxs : y ∉ xs) :
  (addToList fs slots list).1 y = slots y
  := by
  have hlist : list ≠ some y := by
    rintro rfl
    obtain ⟨ys, rfl, -⟩ := hs.cons_of_some
    apply hxs List.mem_cons_self
  simp only [addToList, setNext_self, setPrevOf_of_ne _ hlist, setNext_of_ne _ hfs,
    setPrev_of_ne _ hfs]

/-- `add_to_list` conses the slot `fs`, which is not in the list `xs`, to it. -/
theorem addToList_seg
    (hs : Seg slots none list xs) (hnd : xs.Nodup) (hfs : fs ∉ xs) :
  Seg (addToList fs slots list).1 none (addToList fs slots list).2 (fs :: xs)
  := by
  have hpush := hs.push hnd hfs
  simp only [addToList, setNext_self]
  apply hpush

/-- `remove_from_listhead` takes the first slot `fs` of a list off, and leaves the links of other
slots alone. -/
theorem removeFromListhead_seg
    (hs : Seg slots none list (fs :: xs)) (hnd : (fs :: xs).Nodup) :
  ∃ slots' list', removeFromListhead slots list = some (fs, slots', list')
    ∧ Seg slots' none list' xs ∧ ∀ y, y ∉ fs :: xs → slots' y = slots y
  := by
  obtain rfl : list = some fs := hs.1
  have hnext : (slots fs).next = xs.head? := hs.2.2.head_eq
  use setPrevOf slots (slots fs).next none, (slots fs).next
  constructor
  · simp [removeFromListhead]
  · constructor
    · apply hs.pop hnd
    · intro y hy
      apply setPrevOf_of_ne
      rw [hnext]
      intro hcon
      apply hy (List.mem_cons_of_mem fs (List.mem_of_head? hcon))

/-- A slot `fs` of a list without repetitions does not point to itself. -/
theorem next_ne_self
    (hs : Seg slots none list xs) (hnd : xs.Nodup) (hfs : fs ∈ xs) :
  (slots fs).next ≠ some fs
  := by
  obtain ⟨l₁, l₂, rfl⟩ := List.append_of_mem hfs
  rw [hs.tail_of_append.head_eq]
  intro hcon
  have hnotMem := (List.nodup_cons.mp (List.Nodup.of_append_right hnd)).1
  apply hnotMem (List.mem_of_head? hcon)

/-- The writes of `remove_from_list` to the neighbours of the slot `fs`, if this does not point to
itself. -/
theorem removeFromList_eq (hself : (slots fs).next ≠ some fs) :
  removeFromList fs slots list
    = match (slots fs).prev with
      | some w => (setNext (setPrevOf slots (slots fs).next (some w)) w (slots fs).next, list)
      | none => (setPrevOf slots (slots fs).next none, (slots fs).next)
  := by
  simp only [removeFromList, setPrevOf_of_ne _ hself]
  cases (slots fs).prev with
  | some w => rfl
  | none => rfl

/-- `remove_from_list` erases the slot `fs` from the list `xs`, wherever it is in it. -/
theorem removeFromList_seg
    (hs : Seg slots none list xs) (hnd : xs.Nodup) (hfs : fs ∈ xs) :
  Seg (removeFromList fs slots list).1 none (removeFromList fs slots list).2
    (xs.erase fs)
  := by
  rw [removeFromList_eq (next_ne_self hs hnd hfs)]
  obtain ⟨l₁, l₂, hl₁, rfl, herase⟩ := List.exists_erase_eq hfs
  rw [herase]
  rcases List.eq_nil_or_concat l₁ with rfl | ⟨l, w, rfl⟩
  · obtain ⟨hprev, hseg⟩ := Seg.unlink_head hs hnd
    rw [hprev] at hseg
    simp only [hprev]
    apply hseg
  · rw [List.concat_eq_append, List.append_assoc] at hs hnd
    have hprev : (slots fs).prev = some w := hs.prev_of_append
    simp only [hprev]
    rw [List.concat_eq_append, List.append_assoc]
    apply hs.unlink_inner hnd

/-- `remove_from_list` touches the links of the slots of the list `xs` only. -/
theorem removeFromList_of_notMem
    {y : SlotId} (hs : Seg slots none list xs) (hnd : xs.Nodup) (hfs : fs ∈ xs)
    (hy : y ∉ xs) :
  (removeFromList fs slots list).1 y = slots y
  := by
  rw [removeFromList_eq (next_ne_self hs hnd hfs)]
  obtain ⟨l₁, l₂, rfl⟩ := List.append_of_mem hfs
  have hnext : (slots fs).next ≠ some y := by
    rw [hs.tail_of_append.head_eq]
    intro hcon
    apply hy
    simp [List.mem_of_head? hcon]
  cases hprev : (slots fs).prev with
  | none => apply setPrevOf_of_ne _ hnext
  | some w =>
      have hyw : y ≠ w := by
        rintro rfl
        rcases List.eq_nil_or_concat l₁ with rfl | ⟨l, v, rfl⟩
        · rw [hs.2.1] at hprev
          contradiction
        · rw [List.concat_eq_append, List.append_assoc] at hs hy
          rw [hs.prev_of_append] at hprev
          obtain rfl := Option.some.inj hprev
          apply hy
          simp
      simp only [setNext_of_ne _ hyw, setPrevOf_of_ne _ hnext]

/-! ### The queue as a pair of sequences -/

/-- `Pool fi A U`: the lists `avail` and `used` of the queue hold the slots `A` and `U`,
all different and `videoFrameNumber` together. -/
structure Pool (fi : FrameInfo) (A U : List SlotId) : Prop where
  avail : Seg fi.slots none fi.avail A
  used : Seg fi.slots none fi.used U
  nodup : (A ++ U).Nodup
  number : A.length + U.length = videoFrameNumber

namespace Pool

variable {fi : FrameInfo} {A U : List SlotId} {qno : Int}

theorem nodup_used (hp : Pool fi A U) : U.Nodup := hp.nodup.of_append_right

theorem nodup_avail (hp : Pool fi A U) : A.Nodup := hp.nodup.of_append_left

theorem notMem_avail (hp : Pool fi A U) (hfs : fs ∈ U) : fs ∉ A :=
  fun h => List.disjoint_of_nodup_append hp.nodup h hfs

/-- That `fi` represents the lists `A` and `U` does not depend on the contents `vf` of the slots. -/
theorem vf (hp : Pool fi A U) (v : SlotId → VideoFrame) : Pool { fi with vf := v } A U :=
  ⟨hp.avail, hp.used, hp.nodup, hp.number⟩

/-- The two lists of a queue are walked to their end by `get_num_of_list`, and hold all the
slots. -/
theorem getNumOfList (hp : Pool fi A U) :
  ∃ a u, getNumOfList fi.slots walkBound fi.avail = some a
    ∧ getNumOfList fi.slots walkBound fi.used = some u ∧ a + u = videoFrameNumber
  := by
  have hnum := hp.number
  use A.length, U.length
  constructor
  · apply getNumOfList_eq hp.avail
    unfold walkBound
    omega
  · constructor
    · apply getNumOfList_eq hp.used
      unfold walkBound
      omega
    · apply hnum

/-- `search_video_frame` finds the first of the used slots `U` that has the `key`. -/
theorem searchVideoFrame_eq (hp : Pool fi A U) (key : Int) :
  searchVideoFrame key fi = some (U.find? (fun x => (fi.vf x).searchKey = key))
  := by
  apply searchFromList_eq hp.used
  have hnum := hp.number
  unfold walkBound
  omega

/-- `take_video_frame` moves the first free slot `fs` to the front of the used ones, and leaves the
contents alone. -/
theorem takeVideoFrame_cons
    (hp : Pool fi (fs :: A) U) (hqno : 0 ≤ qno ∧ qno < vqMax) :
  ∃ fi', takeVideoFrame qno fi = some (some fs, fi') ∧ Pool fi' A (fs :: U)
    ∧ fi'.vf = fi.vf
  := by
  have hrange : ¬ (qno ≥ vqMax ∨ qno < 0) := by omega
  have hnd := hp.nodup
  obtain ⟨hfs, hnd'⟩ := List.nodup_cons.mp (List.cons_append ▸ hnd)
  obtain ⟨slots, list, hremove, havail, hframe⟩ :=
    removeFromListhead_seg hp.avail hp.nodup_avail
  have hdisj : ∀ y ∈ U, y ∉ fs :: A := fun y hy => hp.notMem_avail hy
  have hused : Seg slots none fi.used U := hp.used.congr (fun y hy => hframe y (hdisj y hy))
  have hfsA : fs ∉ A := fun h => hfs (List.mem_append_left U h)
  have hfsU : fs ∉ U := fun h => hfs (List.mem_append_right A h)
  simp only [takeVideoFrame, if_neg hrange, hremove]
  refine ⟨_, rfl, ?_, rfl⟩
  constructor
  · apply havail.congr
    intro y hy
    apply addToList_of_ne hused
    · rintro rfl
      apply hfsA hy
    · intro hyU
      apply hdisj y hyU (List.mem_cons_of_mem fs hy)
  · apply addToList_seg hused hp.nodup_used hfsU
  · rw [List.nodup_middle]
    apply hnd
  · have hnum := hp.number
    simp only [List.length_cons] at hnum ⊢
    omega

/-- `take_video_frame` on a queue `qno` without free slots dereferences the null pointer. -/
theorem takeVideoFrame_nil
    (hp : Pool fi [] U) (hqno : 0 ≤ qno ∧ qno < vqMax) :
  takeVideoFrame qno fi = none
  := by
  have hrange : ¬ (qno ≥ vqMax ∨ qno < 0) := by omega
  obtain hnull : fi.avail = none := hp.avail
  simp [takeVideoFrame, if_neg hrange, hnull, removeFromListhead]

/-- A `take_video_frame` that succeeds has moved the first free slot `fs` to the front of the used
ones. -/
theorem takeVideoFrame_inv
    {fi' : FrameInfo} (hp : Pool fi A U) (hqno : 0 ≤ qno ∧ qno < vqMax)
    (htake : takeVideoFrame qno fi = some (some fs, fi')) :
  ∃ A', A = fs :: A' ∧ Pool fi' A' (fs :: U) ∧ fi'.vf = fi.vf
  := by
  cases A with
  | nil =>
      rw [hp.takeVideoFrame_nil hqno] at htake
      contradiction
  | cons x A =>
      obtain ⟨fi'', htake', hp', hvf⟩ := hp.takeVideoFrame_cons hqno
      rw [htake'] at htake
      obtain ⟨rfl, rfl⟩ : x = fs ∧ fi'' = fi' := by simpa using htake
      use A

/-- `put_video_frame` moves a used slot `fs` to the front of the free ones. -/
theorem putVideoFrame_mem
    (hp : Pool fi A U) (hqno : 0 ≤ qno ∧ qno < vqMax) (hfs : fs ∈ U) :
  Pool (putVideoFrame qno fs fi) (fs :: A) (U.erase fs)
  := by
  have hrange : ¬ (qno ≥ vqMax ∨ qno < 0) := by omega
  have hfsA := hp.notMem_avail hfs
  have havail : Seg (removeFromList fs fi.slots fi.used).1 none fi.avail A := by
    apply hp.avail.congr
    intro y hy
    apply removeFromList_of_notMem hp.used hp.nodup_used hfs
    intro hyU
    apply hp.notMem_avail hyU hy
  have hnotErased : fs ∉ U.erase fs := by
    rw [hp.nodup_used.mem_erase_iff]
    simp
  simp only [putVideoFrame, if_neg hrange]
  constructor
  · apply addToList_seg havail hp.nodup_avail hfsA
  · apply (removeFromList_seg hp.used hp.nodup_used hfs).congr
    intro y hy
    apply addToList_of_ne havail
    · rintro rfl
      apply hnotErased hy
    · intro hyA
      apply hp.notMem_avail (List.mem_of_mem_erase hy) hyA
  · have hperm : (fs :: A ++ U.erase fs).Perm (A ++ U) := by
      calc (fs :: A ++ U.erase fs)
          _ |>.Perm (A ++ fs :: U.erase fs) := List.perm_middle.symm
          _ |>.Perm (A ++ U) := List.Perm.append_left A (List.perm_cons_erase hfs).symm
    rw [hperm.nodup_iff]
    apply hp.nodup
  · have hnum := hp.number
    have hpos := List.length_pos_of_mem hfs
    simp only [List.length_cons, List.length_erase_of_mem hfs]
    omega

@[simp]
theorem putVideoFrame_vf (fs : SlotId) (fi : FrameInfo) :
  (putVideoFrame qno fs fi).vf = fi.vf
  := by
  unfold putVideoFrame
  split
  · rfl
  · rfl

end Pool

/-! ### A pool as `init_video_frame` builds it -/

/-- The allocations of `init_video_frame` are fresh: two rounds of `malloc` do not get the same
slot. -/
def Fresh (malloc : Nat → Option SlotId × Bool) : Prop :=
  ∀ i j fs, (malloc i).1 = some fs → (malloc j).1 = some fs → i = j

/-- The queue `fi` is one that `init_video_frame` has built, with allocations that are fresh. -/
def Built (fi : FrameInfo) : Prop :=
  ∃ qno mutexInit malloc fi₀, Fresh malloc ∧ initVideoFrame qno mutexInit malloc fi₀ = (0, fi)

/-- The slots that `n` rounds of `init_video_frame` get from `malloc`, from the `i`-th round on. -/
def allocated (malloc : Nat → Option SlotId × Bool) (n i : Nat) : List SlotId :=
  (List.range' i n).filterMap (fun j => (malloc j).1)

/-- The loop of `init_video_frame`, when it succeeds, fills `avail` with as many slots as
it has rounds, those that are allocated in the rounds. -/
theorem initLoop_avail
    {malloc : Nat → Option SlotId × Bool} (hfresh : Fresh malloc) {n i : Nat}
    {fi fi' : FrameInfo} {A : List SlotId}
    (havail : Seg fi.slots none fi.avail A) (hnd : A.Nodup)
    (hA : ∀ x ∈ A, ∃ j < i, (malloc j).1 = some x)
    (hloop : initLoop malloc n i fi = (0, fi')) :
  let A' := (allocated malloc n i).reverse ++ A
  Seg fi'.slots none fi'.avail A' ∧ A'.Nodup ∧ A'.length = A.length + n ∧ fi'.used = fi.used
  := by
  induction n generalizing i fi A with
  | zero =>
      obtain rfl : fi = fi' := congrArg Prod.snd hloop
      use havail, hnd, rfl
  | succ n ih =>
      rw [initLoop] at hloop
      split at hloop
      · next fs hmalloc =>
          have hfs : fs ∉ A := by
            intro hmem
            obtain ⟨j, hji, hj⟩ := hA fs hmem
            have hij := hfresh i j fs (congrArg Prod.fst hmalloc) hj
            omega
          have hseg := addToList_seg havail hnd hfs
          have hmem : ∀ x ∈ fs :: A, ∃ j < i + 1, (malloc j).1 = some x := by
            intro x hx
            rcases List.mem_cons.mp hx with rfl | hx
            · use i, Nat.lt_succ_self i
              rw [hmalloc]
            · obtain ⟨j, hji, hj⟩ := hA x hx
              use j, Nat.lt_succ_of_lt hji
          have hround : (allocated malloc (n + 1) i).reverse ++ A
              = (allocated malloc n (i + 1)).reverse ++ fs :: A := by
            simp [allocated, List.range'_succ, hmalloc]
          obtain ⟨havail', hnd', hlen, hused⟩ :=
            ih hseg (List.nodup_cons.mpr ⟨hfs, hnd⟩) hmem hloop
          rw [hround]
          use havail', hnd'
          constructor
          · rw [hlen, List.length_cons]
            omega
          · apply hused
      · cases congrArg Prod.fst hloop

/-- A queue `fi` that `init_video_frame` has built represents the slots it has allocated, all of
them free. -/
theorem initVideoFrame_pool
    {malloc : Nat → Option SlotId × Bool} {qno : Int} {mutexInit : Bool} {fi₀ fi : FrameInfo}
    (hfresh : Fresh malloc) (hinit : initVideoFrame qno mutexInit malloc fi₀ = (0, fi)) :
  (0 ≤ qno ∧ qno < vqMax) ∧ Pool fi (allocated malloc videoFrameNumber 0).reverse []
  := by
  rw [initVideoFrame] at hinit
  split at hinit
  · cases congrArg Prod.fst hinit
  · next hrange =>
      split at hinit
      · cases congrArg Prod.fst hinit
      · obtain ⟨havail, hnd, hlen, hused⟩ :=
          initLoop_avail hfresh (A := []) Seg.nil List.nodup_nil (by simp) hinit
        rw [List.append_nil] at havail hnd hlen
        constructor
        · omega
        · constructor
          · apply havail
          · rw [hused]
            apply Seg.nil
          · rw [List.append_nil]
            apply hnd
          · simpa using hlen

/-- A queue `fi` that `init_video_frame` has built represents `videoFrameNumber` slots, all of them
free. -/
theorem Built.pool {fi : FrameInfo} (h : Built fi) :
  ∃ A, Pool fi A []
  := by
  obtain ⟨qno, mutexInit, malloc, fi₀, hfresh, hinit⟩ := h
  use (allocated malloc videoFrameNumber 0).reverse
  apply (initVideoFrame_pool hfresh hinit).2

end Rtspd
