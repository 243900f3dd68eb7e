import Avserver.Rtspd.Interleave

/-!
# Who owns which slot

Between `take_video_frame` and `put_video_frame` a used slot is owned by the encoder
thread, by an entity in the library, or by a callback in progress.  The search of a
callback goes by the address of the payload, and the slots are found in the order in which
they were taken, the last one first.  `Owned m A U rank` is the invariant of the machine:
every used slot has one owner, the order of the used list is that of the frames' numbers
(the `rank` of a slot), the slots of the entities are filed, and addresses are not
ambiguous among the frames out of the driver.

One moment is outside of it: a slot that has been taken but whose search key has not been
written still carries the key of an earlier frame, and stands first in the list.  A
callback that searches for that key at that moment finds the wrong slot; the runs in which
no callback does (`NoStaleSearch`) keep the invariant.
-/

namespace Rtspd

open Library

/-- The move is not the search of a callback for the key that the slot which
`take_video_frame` has just taken still carries from an earlier frame. -/
def NoStaleSearch (m : Machine) : Move → Prop
  | .cb i =>
      match m.cbs[i]?, m.enc with
      | some ⟨e, .search⟩, some (.key, l) => (m.stream.frames.vf l.fs).searchKey ≠ e.data
      | _, _ => True
  | _ => True

instance (m : Machine) (mv : Move) : Decidable (NoStaleSearch m mv) := by
  unfold NoStaleSearch
  split
  · split
    · infer_instance
    · infer_instance
  · infer_instance

/-- A callback acts on the slot and the frame of its own entity `e`; of other events nothing is
said. -/
def Exact : Event → Prop
  | .select e fs => fs = e.slot
  | .release e taken => taken = some e.frame
  | .giveBack e fs => fs = e.slot
  | _ => True

instance : DecidablePred Exact
  | .get _ => inferInstanceAs (Decidable True)
  | .put _ => inferInstanceAs (Decidable True)
  | .read _ _ => inferInstanceAs (Decidable True)
  | .resetIntra => inferInstanceAs (Decidable True)
  | .select e fs => inferInstanceAs (Decidable (fs = e.slot))
  | .release e taken => inferInstanceAs (Decidable (taken = some e.frame))
  | .giveBack e fs => inferInstanceAs (Decidable (fs = e.slot))

/-! ### The invariant -/

/-- The entities that own a slot in `m`: those in the library and those of callbacks in progress. -/
def entities (m : Machine) : List Entity :=
  m.stream.lib ++ m.cbs.map Callback.e

/-- The places of `write_rtp_frame` at which the encoder thread owns a slot: behind
`take_video_frame`, up to the library's answer. -/
def Point.ownsSlot : Point → Bool
  | .key | .fill | .enqueue | .putSlot => true
  | _ => false

/-- The slot that the encoder thread owns at its place, as a list with one member or none. -/
def encSlots : Option (Point × Local) → List SlotId
  | some (pt, l) => if pt.ownsSlot then [l.fs] else []
  | none => []

/-- What holds of the frame and the slot of the encoder thread at `pt`: its frame is out of the
driver and the newest, and its slot holds as much of it as has been written. -/
structure EncOwned (p : Live) (s : Stream) (es : List Entity) (rank : SlotId → Nat)
    (pt : Point) (l : Local) : Prop where
  frame : pt ≠ .mtWrite → l.q ∈ s.out ∧ ∀ e ∈ es, e.frame.serial < l.q.serial
  ranked : pt.ownsSlot → rank l.fs = l.q.serial
  key : pt = .fill → (s.frames.vf l.fs).searchKey = dataOf p l.q
  slot : pt = .enqueue ∨ pt = .putSlot → s.frames.vf l.fs = contents p l.q

/-- What holds of a callback `c` in progress: it works on the slot of its entity; until it has put
the frame back the frame is `out` of the driver, and from then on every frame at the same offset is
newer. -/
def CbOwned (out : List Frame) (c : Callback) : Prop :=
  match c.pt with
  | .search => c.e.frame ∈ out
  | .free fs => fs = c.e.slot ∧ c.e.frame ∈ out
  | .put fs => fs = c.e.slot
      ∧ ∀ q ∈ out, q.queue.offset = c.e.frame.queue.offset → c.e.frame.serial < q.serial

/-- The invariant of the machine, with the free slots `A`, the used slots `U`, and the
number of the frame for which each used slot was taken. -/
structure Owned (p : Live) (m : Machine) (A U : List SlotId) (rank : SlotId → Nat) : Prop where
  pool : Pool m.stream.frames A U
  owners : (encSlots m.enc ++ (entities m).map Entity.slot).Perm U
  order : U.Pairwise (fun x y => rank y < rank x)
  ranked : ∀ e ∈ entities m, rank e.slot = e.frame.serial
  filed : ∀ e ∈ entities m, Filed p m.stream.frames.vf e
  older : ∀ e ∈ entities m, e.frame.serial < m.stream.got
  offsets : (m.stream.out.map (fun q => q.queue.offset)).Nodup
  fresh : ∀ q ∈ m.stream.out, q.serial < m.stream.got
  lib : ∀ e ∈ m.stream.lib, e.frame ∈ m.stream.out
  cbs : ∀ c ∈ m.cbs, CbOwned m.stream.out c
  enc : ∀ pt l, m.enc = some (pt, l) → EncOwned p m.stream (entities m) rank pt l
  exact : ∀ ev ∈ m.stream.log, Exact ev

/-- The first element that satisfies `P`, in a list ordered by a `rank`, is the one above which no
element does. -/
theorem find_of_order
    {α : Type*} {rank : α → Nat} {P : α → Bool} {l : List α} {x : α}
    (horder : l.Pairwise (fun y z => rank z < rank y)) (hx : x ∈ l) (hP : P x = true)
    (habove : ∀ y ∈ l, rank x < rank y → P y = false) :
  l.find? P = some x
  := by
  induction l with
  | nil => contradiction
  | cons y l ih =>
      obtain ⟨hy, horder⟩ := List.pairwise_cons.mp horder
      rcases List.mem_cons.mp hx with rfl | hx
      · rw [List.find?_cons_of_pos hP]
      · have hneg : P y = false := habove y List.mem_cons_self (hy x hx)
        rw [List.find?_cons_of_neg (by simp [hneg])]
        apply ih horder hx
        intro z hz
        apply habove z (List.mem_cons_of_mem y hz)

/-- The list `l` around its place `i`, and what becomes of it when that place is set or erased. -/
theorem split_at
    {α : Type*} {l : List α} {i : Nat} {a : α} (h : l[i]? = some a) :
  ∃ l₁ l₂, l = l₁ ++ a :: l₂ ∧ (∀ b, l.set i b = l₁ ++ b :: l₂) ∧ l.eraseIdx i = l₁ ++ l₂
  := by
  induction l generalizing i with
  | nil => simp at h
  | cons x l ih =>
      cases i with
      | zero =>
          obtain rfl : x = a := by simpa using h
          use [], l
          simp
      | succ i =>
          obtain ⟨l₁, l₂, rfl, hset, herase⟩ := ih (by simpa using h)
          use x :: l₁, l₂
          simp [hset, herase]

namespace Owned

variable {p : Live} {m m' : Machine} {A U : List SlotId} {rank : SlotId → Nat}

theorem of_started (h : Started p m) :
  ∃ A U rank, Owned p m A U rank
  := by
  have hopen := h.opened
  obtain ⟨A, hpool⟩ := hopen.built.pool
  have hent : entities m = [] := by simp [entities, hopen.lib, h.cbs]
  use A, [], fun _ => 0
  constructor
  · apply hpool
  · simp [encSlots, h.enc, hent]
  · apply List.Pairwise.nil
  · simp [hent]
  · simp [hent]
  · simp [hent]
  · simp [hopen.out]
  · simp [hopen.out]
  · simp [hopen.lib]
  · simp [h.cbs]
  · simp [h.enc]
  · simp [hopen.log]

/-- The entities and the encoder thread of a machine that is `Owned` own different slots. -/
theorem owners_nodup (h : Owned p m A U rank) :
  (encSlots m.enc ++ (entities m).map Entity.slot).Nodup
  := h.owners.nodup_iff.mpr h.pool.nodup_used

/-- The slot of an entity `e` that owns it is one of the used ones in `U`. -/
theorem slot_mem (h : Owned p m A U rank) {e : Entity} (he : e ∈ entities m) :
  e.slot ∈ U
  := by
  rw [← h.owners.mem_iff]
  apply List.mem_append_right
  apply List.mem_map_of_mem he

/-- The slot of an entity `e` is not the one `l.fs` that the encoder thread owns. -/
theorem slot_ne (h : Owned p m A U rank) {e : Entity} (he : e ∈ entities m) {pt : Point}
    {l : Local} (henc : m.enc = some (pt, l)) (hpt : pt.ownsSlot) :
  e.slot ≠ l.fs
  := by
  rintro heq
  have hnd := h.owners_nodup
  simp only [henc, encSlots, hpt, if_true] at hnd
  apply List.disjoint_of_nodup_append hnd List.mem_cons_self
  rw [← heq]
  apply List.mem_map_of_mem he

/-- Two frames `q` and `q'` out of the driver that have the same offset are one frame. -/
theorem frame_eq (h : Owned p m A U rank) {q q' : Frame} (hq : q ∈ m.stream.out)
    (hq' : q' ∈ m.stream.out) (heq : q.queue.offset = q'.queue.offset) :
  q = q'
  := List.inj_on_of_nodup_map h.offsets hq hq' heq

/-- An entity `e'` whose search key is that of an entity `e` with a frame out of the driver has an
older frame, or the same. -/
theorem serial_le (h : Owned p m A U rank) {e e' : Entity} (he : e.frame ∈ m.stream.out)
    (he' : e' ∈ entities m) (hoffset : e'.frame.queue.offset = e.frame.queue.offset) :
  e'.frame.serial ≤ e.frame.serial
  := by
  rcases List.mem_append.mp he' with hlib | hcb
  · apply Nat.le_of_eq (congrArg Frame.serial (h.frame_eq (h.lib e' hlib) he hoffset))
  · obtain ⟨c, hc, rfl⟩ := List.mem_map.mp hcb
    have hcown := h.cbs c hc
    unfold CbOwned at hcown
    split at hcown
    · apply Nat.le_of_eq (congrArg Frame.serial (h.frame_eq hcown he hoffset))
    · apply Nat.le_of_eq (congrArg Frame.serial (h.frame_eq hcown.2 he hoffset))
    · apply Nat.le_of_lt (hcown.2 e.frame he hoffset.symm)

/-- `search_video_frame` finds the slot of an entity `e` whose frame is out, if no stale key is in
the way. -/
theorem search (h : Owned p m A U rank) {e : Entity} (he : e ∈ entities m)
    (hout : e.frame ∈ m.stream.out)
    (hstale : ∀ l, m.enc = some (.key, l) → (m.stream.frames.vf l.fs).searchKey ≠ e.data) :
  searchVideoFrame e.data m.stream.frames = some (some e.slot)
  := by
  have hfiled := h.filed e he
  rw [h.pool.searchVideoFrame_eq]
  congr 1
  apply find_of_order h.order (h.slot_mem he)
  · simp [hfiled.slot, hfiled.data, contents]
  · intro y hy hrank
    rw [h.ranked e he] at hrank
    simp only [decide_eq_false_iff_not]
    intro hkey
    -- the owner of a slot in front of that of `e`
    rw [← h.owners.mem_iff, List.mem_append] at hy
    rcases hy with hy | hy
    · -- the encoder thread
      cases henc : m.enc with
      | none =>
          simp [henc, encSlots] at hy
      | some ptl =>
          obtain ⟨pt, l⟩ := ptl
          have hown := h.enc pt l henc
          simp only [henc, encSlots] at hy
          split at hy
          · next hpt =>
              obtain rfl := List.mem_singleton.mp hy
              have hne : pt ≠ .mtWrite := by
                rintro rfl
                contradiction
              obtain ⟨hq, holder⟩ := hown.frame hne
              have hdata : (m.stream.frames.vf l.fs).searchKey = dataOf p l.q → False := by
                intro hq'
                rw [hq', hfiled.data, dataOf_inj] at hkey
                have hlt := holder e he
                rw [h.frame_eq hq hout hkey] at hlt
                apply Nat.lt_irrefl _ hlt
              cases pt with
              | key => apply hstale l henc hkey
              | fill => apply hdata (hown.key rfl)
              | enqueue =>
                  apply hdata
                  rw [hown.slot (.inl rfl)]
                  rfl
              | putSlot =>
                  apply hdata
                  rw [hown.slot (.inr rfl)]
                  rfl
              | event | nal | nvr | play | take | mtWrite | free => contradiction
          · contradiction
    · -- an entity in the library or of a callback
      obtain ⟨e', he', rfl⟩ := List.mem_map.mp hy
      rw [h.ranked e' he'] at hrank
      rw [(h.filed e' he').slot, hfiled.data] at hkey
      have hle := h.serial_le hout he' (dataOf_inj.mp hkey)
      omega

/-! ### Steps of the encoder thread -/

/-- A quiet step of the stream, from `m.stream` to `s`, keeps the machine `Owned`. -/
theorem quiet {n : Nat} {s : Stream} (h : Owned p m A U rank) (hq : Quiet n m.stream s) :
  Owned p { m with stream := s } A U rank
  := by
  have hent : entities { m with stream := s } = entities m := by simp [entities, hq.lib]
  constructor
  · rw [hq.frames]
    apply h.pool
  · rw [hent]
    apply h.owners
  · apply h.order
  · rw [hent]
    apply h.ranked
  · rw [hent, hq.frames]
    apply h.filed
  · rw [hent, hq.got]
    apply h.older
  · rw [hq.out]
    apply h.offsets
  · rw [hq.out, hq.got]
    apply h.fresh
  · rw [hq.out, hq.lib]
    apply h.lib
  · rw [hq.out]
    apply h.cbs
  · intro pt l henc
    obtain ⟨hframe, hranked, hkey, hslot⟩ := h.enc pt l henc
    rw [hent]
    constructor
    · rw [hq.out]
      apply hframe
    · apply hranked
    · rw [hq.frames]
      apply hkey
    · rw [hq.frames]
      apply hslot
  · obtain ⟨l, hl, hmem⟩ := hq.log
    intro ev hev
    rw [hl] at hev
    rcases List.mem_append.mp hev with hev | hev
    · rcases hmem ev hev with rfl | ⟨r, rfl⟩
      · trivial
      · trivial
    · apply h.exact ev hev

/-- If the encoder thread moves on without taking or leaving a slot, then the machine stays
`Owned`. -/
theorem moveOn
    {enc : Option (Point × Local)} (h : Owned p m A U rank)
    (hslots : encSlots enc = encSlots m.enc)
    (henc : ∀ pt l, enc = some (pt, l) → EncOwned p m.stream (entities m) rank pt l) :
  Owned p { m with enc := enc } A U rank
  := by
  constructor
  · apply h.pool
  · rw [hslots]
    apply h.owners
  · apply h.order
  · apply h.ranked
  · apply h.filed
  · apply h.older
  · apply h.offsets
  · apply h.fresh
  · apply h.lib
  · apply h.cbs
  · apply henc
  · apply h.exact

/-- At a place `pt` where the encoder thread owns no slot, only its frame matters. -/
theorem encOwned_of_frame
    {s : Stream} {es : List Entity} {pt : Point} {l : Local} (hpt : pt.ownsSlot = false)
    (hframe : l.q ∈ s.out ∧ ∀ e ∈ es, e.frame.serial < l.q.serial) :
  EncOwned p s es rank pt l
  := by
  constructor
  · intro _
    apply hframe
  · simp [hpt]
  · rintro rfl
    contradiction
  · rintro (rfl | rfl)
    · contradiction
    · contradiction

/-- A quiet step of the encoder thread from `pt` to `pt'`, where it owns no slot, keeps the machine
`Owned`. -/
theorem stroll
    {n : Nat} {s : Stream} {pt pt' : Point} {l l' : Local} (h : Owned p m A U rank)
    (hq : Quiet n m.stream s) (henc : m.enc = some (pt, l)) (hpt : pt.ownsSlot = false)
    (hmt : pt ≠ .mtWrite) (hpt' : pt'.ownsSlot = false) (hl : l'.q = l.q) :
  Owned p (m.goto pt' l' s) A U rank
  := by
  have hframe := ((h.quiet hq).enc pt l henc).frame hmt
  apply (h.quiet hq).moveOn
  · simp [encSlots, henc, hpt, hpt']
  · intro pt'' l'' heq
    obtain ⟨rfl, rfl⟩ := Prod.mk.inj (Option.some.inj heq)
    apply encOwned_of_frame hpt'
    rw [hl]
    apply hframe

/-- The encoder thread takes the slot `fs`, which then ranks highest as that of its frame. -/
theorem take
    {l : Local} {fs : SlotId} {frames : FrameInfo} (h : Owned p m A U rank)
    (henc : m.enc = some (.take, l))
    (htake : takeVideoFrame p.qno m.stream.frames = some (some fs, frames)) :
  ∃ A' rank', Owned p (m.goto .key { l with fs := fs } { m.stream with frames := frames })
    A' (fs :: U) rank'
  := by
  obtain ⟨A', -, hpool, hvf⟩ := h.pool.takeVideoFrame_inv p.qnoInRange htake
  have hfs : fs ∉ U := (List.nodup_cons.mp hpool.nodup_used).1
  obtain ⟨hq, holder⟩ := (h.enc _ _ henc).frame (by simp)
  have howners : ((entities m).map Entity.slot).Perm U := by
    simpa [henc, encSlots, Point.ownsSlot] using h.owners
  have hrank : ∀ y ∈ U, Function.update rank fs l.q.serial y = rank y := by
    intro y hy
    apply Function.update_of_ne
    rintro rfl
    apply hfs hy
  use A', Function.update rank fs l.q.serial
  constructor
  · apply hpool
  · apply howners.cons
  · rw [List.pairwise_cons]
    constructor
    · intro y hy
      rw [hrank y hy, Function.update_self]
      obtain ⟨e, he, rfl⟩ := List.mem_map.mp (howners.mem_iff.mpr hy)
      rw [h.ranked e he]
      apply holder e he
    · apply h.order.imp_of_mem
      intro x y hx hy hxy
      rw [hrank x hx, hrank y hy]
      apply hxy
  · intro e he
    rw [hrank e.slot (h.slot_mem he)]
    apply h.ranked e he
  · intro e he
    have hfiled := h.filed e he
    use hfiled.type, hfiled.data
    rw [← hfiled.slot]
    apply congrFun hvf
  · apply h.older
  · apply h.offsets
  · apply h.fresh
  · apply h.lib
  · apply h.cbs
  · intro pt' l' heq
    obtain ⟨rfl, rfl⟩ := Prod.mk.inj (Option.some.inj heq)
    constructor
    · intro _
      use hq, holder
    · simp
    · simp
    · simp
  · apply h.exact

/-- A write `f` of the encoder thread to its slot keeps the machine `Owned`, if it puts there what
the next place asks for. -/
theorem write
    {f : VideoFrame → VideoFrame} {pt pt' : Point} {l : Local} (h : Owned p m A U rank)
    (henc : m.enc = some (pt, l)) (hpt : pt.ownsSlot) (hpt' : pt'.ownsSlot)
    (hkey : pt' = .fill → ((setVf l.fs f m.stream).frames.vf l.fs).searchKey = dataOf p l.q)
    (hslot : pt' = .enqueue ∨ pt' = .putSlot →
      (setVf l.fs f m.stream).frames.vf l.fs = contents p l.q) :
  Owned p (m.goto pt' l (setVf l.fs f m.stream)) A U rank
  := by
  have hown := h.enc pt l henc
  have hmt : pt ≠ .mtWrite := by
    rintro rfl
    contradiction
  constructor
  · apply h.pool.vf
  · have howners := h.owners
    simp only [henc, encSlots, hpt, if_true] at howners
    simp only [Machine.goto, encSlots, hpt', if_true]
    apply howners
  · apply h.order
  · apply h.ranked
  · intro e he
    apply Balanced.filed_setVf (h.filed e he) (h.slot_ne he henc hpt)
  · apply h.older
  · apply h.offsets
  · apply h.fresh
  · apply h.lib
  · apply h.cbs
  · intro pt'' l'' heq
    obtain ⟨rfl, rfl⟩ := Prod.mk.inj (Option.some.inj heq)
    constructor
    · intro _
      apply hown.frame hmt
    · intro _
      apply hown.ranked hpt
    · apply hkey
    · apply hslot
  · apply h.exact

/-- The library accepts the entity of the frame at hand, which then owns the slot `l.fs`. -/
theorem accept
    {l : Local} (h : Owned p m A U rank) (henc : m.enc = some (.enqueue, l)) :
  Owned p (m.goto .mtWrite l (accept (entityOf p l.q l.tick l.fs) m.stream)) A U rank
  := by
  have hown := h.enc _ _ henc
  obtain ⟨hq, holder⟩ := hown.frame (by simp)
  have hcases : ∀ e ∈ entities (m.goto .mtWrite l
      (Rtspd.accept (entityOf p l.q l.tick l.fs) m.stream)),
      e = entityOf p l.q l.tick l.fs ∨ e ∈ entities m := by
    intro e he
    apply List.mem_cons.mp he
  constructor
  · apply h.pool
  · have howners := h.owners
    simp only [henc, encSlots, Point.ownsSlot, if_true] at howners
    apply howners
  · apply h.order
  · intro e he
    rcases hcases e he with rfl | he
    · apply hown.ranked rfl
    · apply h.ranked e he
  · intro e he
    rcases hcases e he with rfl | he
    · use rfl, rfl, hown.slot (.inl rfl)
    · apply h.filed e he
  · intro e he
    rcases hcases e he with rfl | he
    · apply h.fresh _ hq
    · apply h.older e he
  · apply h.offsets
  · apply h.fresh
  · intro e he
    rcases List.mem_cons.mp he with rfl | he
    · apply hq
    · apply h.lib e he
  · apply h.cbs
  · intro pt' l' heq
    obtain ⟨rfl, rfl⟩ := Prod.mk.inj (Option.some.inj heq)
    constructor
    · simp
    · simp [Point.ownsSlot]
    · simp
    · simp
  · apply h.exact

/-- The encoder thread puts its slot `l.fs` back, which then is the first of the free ones. -/
theorem putSlot
    {l : Local} (h : Owned p m A U rank) (henc : m.enc = some (.putSlot, l)) :
  Owned p (m.goto .free l (putSlot p l.fs m.stream)) (l.fs :: A) (U.erase l.fs) rank
  := by
  have hown := h.enc _ _ henc
  have howners := h.owners
  simp only [henc, encSlots, Point.ownsSlot, if_true, List.singleton_append] at howners
  have hfs : l.fs ∈ U := howners.mem_iff.mp List.mem_cons_self
  constructor
  · apply h.pool.putVideoFrame_mem p.qnoInRange hfs
  · have herase := howners.erase l.fs
    rw [List.erase_cons_head] at herase
    apply herase
  · apply h.order.sublist List.erase_sublist
  · apply h.ranked
  · intro e he
    have hfiled := h.filed e he
    use hfiled.type, hfiled.data
    simp only [Machine.goto, Rtspd.putSlot, Pool.putVideoFrame_vf]
    apply hfiled.slot
  · apply h.older
  · apply h.offsets
  · apply h.fresh
  · apply h.lib
  · apply h.cbs
  · intro pt' l' heq
    obtain ⟨rfl, rfl⟩ := Prod.mk.inj (Option.some.inj heq)
    apply encOwned_of_frame rfl
    apply hown.frame (by simp)
  · apply h.exact

/-- The encoder thread gives its frame back by `free_bs_data`, and is done with it. -/
theorem free
    {l : Local} (h : Owned p m A U rank) (henc : m.enc = some (.free, l)) :
  Owned p (m.return (freeBsData p p.chNum p.subNum 0 l.q.queue m.stream).2) A U rank
  := by
  obtain ⟨hq, holder⟩ := (h.enc _ _ henc).frame (by simp)
  have hsub := List.erase_sublist (a := l.q) (l := m.stream.out)
  have hstay : ∀ q ∈ m.stream.out, q ≠ l.q → q ∈ m.stream.out.erase l.q :=
    fun q hqo hne => (List.mem_erase_of_ne hne).mpr hqo
  have hne : ∀ e ∈ entities m, e.frame ≠ l.q := by
    intro e he heq
    have hlt := holder e he
    rw [heq] at hlt
    apply Nat.lt_irrefl _ hlt
  rw [freeBsData_eq (Int.le_refl 0) h.offsets hq]
  constructor
  · apply h.pool
  · have howners := h.owners
    simp only [henc, encSlots, Point.ownsSlot] at howners
    apply howners
  · apply h.order
  · apply h.ranked
  · apply h.filed
  · apply h.older
  · apply h.offsets.sublist (hsub.map _)
  · intro q hqo
    apply h.fresh q (hsub.subset hqo)
  · intro e he
    apply hstay _ (h.lib e he) (hne e (List.mem_append_left _ he))
  · intro c hc
    have hcown := h.cbs c hc
    have hce : c.e.frame ≠ l.q := hne c.e (List.mem_append_right _ (List.mem_map_of_mem hc))
    unfold CbOwned at hcown ⊢
    split at hcown
    · apply hstay _ hcown hce
    · use hcown.1
      apply hstay _ hcown.2 hce
    · use hcown.1
      intro q hqo
      apply hcown.2 q (hsub.subset hqo)
  · simp [Machine.return]
  · intro ev hev
    rcases List.mem_cons.mp hev with rfl | hev
    · trivial
    · apply h.exact ev hev

/-- A step of `write_rtp_frame` keeps the machine `Owned`, and faults only where a slot is taken and
none is free. -/
theorem encStep
    {pt : Point} {l : Local} (h : Owned p m A U rank) (henc : m.enc = some (pt, l))
    (hfault : m.fault = false) (enqueue : Int) :
  ∃ A' U' rank', Owned p (encStep p m pt l enqueue) A' U' rank'
    ∧ ((Rtspd.encStep p m pt l enqueue).fault = true →
      pt = .take ∧ A = [] ∧ (Rtspd.encStep p m pt l enqueue).stream = m.stream)
  := by
  have hnofault : ∀ {m' : Machine} {P : Prop}, m'.fault = m.fault → m'.fault = true → P := by
    intro m' P heq htrue
    rw [heq, hfault] at htrue
    contradiction
  have hrefl : Quiet 0 m.stream m.stream := Quiet.of_eq rfl rfl rfl rfl rfl rfl
  cases pt with
  | event =>
      simp only [Rtspd.encStep]
      split
      · exact ⟨A, U, rank, h.stroll hrefl henc rfl (by simp) rfl rfl, hnofault rfl⟩
      · have hq := (Quiet.startClock (n := 0) l.q m.stream).trans (Quiet.serveIntra _)
        exact ⟨A, U, rank, h.stroll hq henc rfl (by simp) rfl rfl, hnofault rfl⟩
  | nal =>
      have hq := Quiet.readPayload l.q .h264GetNALType m.stream
      exact ⟨A, U, rank, h.stroll hq henc rfl (by simp) rfl rfl, hnofault rfl⟩
  | nvr =>
      have hq := Quiet.sendToNvr p l.q l.frameType m.stream
      exact ⟨A, U, rank, h.stroll hq henc rfl (by simp) rfl rfl, hnofault rfl⟩
  | play =>
      simp only [Rtspd.encStep]
      split
      · exact ⟨A, U, rank, h.stroll hrefl henc rfl (by simp) rfl rfl, hnofault rfl⟩
      · exact ⟨A, U, rank, h.stroll hrefl henc rfl (by simp) rfl rfl, hnofault rfl⟩
  | take =>
      simp only [Rtspd.encStep]
      split
      · next fs frames htake =>
          obtain ⟨A', rank', h'⟩ := h.take henc htake
          exact ⟨A', fs :: U, rank', h', hnofault rfl⟩
      · next hnone =>
          cases A with
          | nil =>
              refine ⟨[], U, rank, ?_, by simp⟩
              obtain ⟨h₁, h₂, h₃, h₄, h₅, h₆, h₇, h₈, h₉, h₁₀, h₁₁, h₁₂⟩ := h
              exact ⟨h₁, h₂, h₃, h₄, h₅, h₆, h₇, h₈, h₉, h₁₀, h₁₁, h₁₂⟩
          | cons fs A =>
              obtain ⟨frames, htake, -⟩ := h.pool.takeVideoFrame_cons p.qnoInRange
              apply absurd htake (hnone fs frames)
  | key =>
      refine ⟨A, U, rank, h.write henc rfl rfl ?_ (by simp), hnofault rfl⟩
      simp [setVf]
  | fill =>
      have hkey := (h.enc _ _ henc).key rfl
      refine ⟨A, U, rank, h.write henc rfl rfl (by simp) ?_, hnofault rfl⟩
      simp [setVf, contents, hkey]
  | enqueue =>
      simp only [Rtspd.encStep]
      split
      · have hq := Quiet.refuse (n := 0) enqueue m.stream
        refine ⟨A, U, rank, ?_, hnofault rfl⟩
        apply (h.quiet hq).moveOn
        · simp [encSlots, henc, Point.ownsSlot]
        · intro pt' l' heq
          obtain ⟨rfl, rfl⟩ := Prod.mk.inj (Option.some.inj heq)
          have hown := (h.quiet hq).enc _ _ henc
          refine ⟨fun _ => hown.frame (by simp), fun _ => hown.ranked rfl, by simp, fun _ => ?_⟩
          apply hown.slot (.inl rfl)
      · exact ⟨A, U, rank, h.accept henc, hnofault rfl⟩
  | mtWrite =>
      have hq := Quiet.readPayload l.q (.mtWrite l.q.queue.length (if isIFrame l.frameType then 1
        else 2) (if p.chNum = 0 then 0 else 1) l.tick m.stream.control.height
        m.stream.control.width) m.stream
      refine ⟨A, U, rank, ?_, hnofault rfl⟩
      apply (h.quiet hq).moveOn
      · simp [encSlots, henc, Point.ownsSlot]
      · simp
  | putSlot => exact ⟨_, _, rank, h.putSlot henc, hnofault rfl⟩
  | free => exact ⟨A, U, rank, h.free henc, hnofault rfl⟩

/-! ### Steps of the driver, the library and the callbacks -/

/-- The driver hands out a frame `q` to the polling encoder thread, at an offset that no frame out
of it has. -/
theorem get
    {ret r : Int} {queue : QueueGet} {payload : List UInt8} {tvSec tvUsec : Int} {q : Frame}
    {s : Stream} (h : Owned p m A U rank) (henc : m.enc = none)
    (hoffset : 0 ≤ ret → ∀ q ∈ m.stream.out, q.queue.offset ≠ queue.offset)
    (hget : getBsData p.chNum p.subNum ret queue payload tvSec tvUsec m.stream
      = (r, some q, s)) :
  Owned p (m.goto .event ⟨q, 0, 0, 0⟩ s) A U rank
  := by
  rw [getBsData_eq] at hget
  split at hget
  · next hret =>
      obtain ⟨-, rfl, rfl⟩ : _ ∧ _ ∧ _ := by simpa using hget
      have hgot : Owned p (m.goto .event ⟨⟨m.stream.got, queue, payload⟩, 0, 0, 0⟩
          (addUsage p.chNum p.subNum 1 (queueGet queue payload m.stream).2)) A U rank := by
        constructor
        · apply h.pool
        · have howners := h.owners
          rw [henc] at howners
          apply howners
        · apply h.order
        · apply h.ranked
        · apply h.filed
        · intro e he
          apply Nat.lt_succ_of_lt (h.older e he)
        · simp only [Machine.goto, addUsage, queueGet, List.map_cons, List.nodup_cons]
          refine ⟨?_, h.offsets⟩
          intro hmem
          obtain ⟨f, hf, heq⟩ := List.mem_map.mp hmem
          apply hoffset hret f hf heq
        · intro f hf
          rcases List.mem_cons.mp hf with rfl | hf
          · apply Nat.lt_succ_self
          · apply Nat.lt_succ_of_lt (h.fresh f hf)
        · intro e he
          apply List.mem_cons_of_mem _ (h.lib e he)
        · intro c hc
          have hcown := h.cbs c hc
          unfold CbOwned at hcown ⊢
          split at hcown
          · apply List.mem_cons_of_mem _ hcown
          · use hcown.1
            apply List.mem_cons_of_mem _ hcown.2
          · use hcown.1
            intro f hf hfo
            rcases List.mem_cons.mp hf with rfl | hf
            · apply h.older c.e (List.mem_append_right _ (List.mem_map_of_mem hc))
            · apply hcown.2 f hf hfo
        · intro pt l heq
          obtain ⟨rfl, rfl⟩ := Prod.mk.inj (Option.some.inj heq)
          apply encOwned_of_frame rfl
          use List.mem_cons_self
          apply h.older
        · intro ev hev
          rcases List.mem_cons.mp hev with rfl | hev
          · trivial
          · apply h.exact ev hev
      apply hgot.quiet (Quiet.encAverage (n := 0) tvSec tvUsec queue.length _)
  · simp at hget

/-- The library calls back for an entity `e`, which then belongs to the callback and no more to the
library. -/
theorem call {e : Entity} (h : Owned p m A U rank) (he : e ∈ m.stream.lib) :
  Owned p { m with
    stream := { m.stream with lib := m.stream.lib.erase e }
    cbs := m.cbs ++ [⟨e, .search⟩] } A U rank
  := by
  let cbs : List Callback := m.cbs ++ [⟨e, .search⟩]
  have hperm : (m.stream.lib.erase e ++ cbs.map Callback.e).Perm (entities m) := by
    rw [List.map_append, ← List.append_assoc]
    calc (m.stream.lib.erase e ++ m.cbs.map Callback.e ++ [e])
        _ |>.Perm (e :: (m.stream.lib.erase e ++ m.cbs.map Callback.e)) :=
          List.perm_append_singleton _ _
        _ |>.Perm (entities m) := ((List.perm_cons_erase he).symm.append_right _)
  have hmem : ∀ e' ∈ m.stream.lib.erase e ++ cbs.map Callback.e, e' ∈ entities m :=
    fun e' => hperm.mem_iff.mp
  constructor
  · apply h.pool
  · apply List.Perm.trans _ h.owners
    apply List.Perm.append_left
    apply hperm.map
  · apply h.order
  · intro e' he'
    apply h.ranked e' (hmem e' he')
  · intro e' he'
    apply h.filed e' (hmem e' he')
  · intro e' he'
    apply h.older e' (hmem e' he')
  · apply h.offsets
  · apply h.fresh
  · intro e' he'
    apply h.lib e' (List.mem_of_mem_erase he')
  · intro c hc
    rcases List.mem_append.mp hc with hc | hc
    · apply h.cbs c hc
    · obtain rfl := List.mem_singleton.mp hc
      apply h.lib e he
  · intro pt l henc
    obtain ⟨hframe, hranked, hkey, hslot⟩ := h.enc pt l henc
    refine ⟨?_, hranked, hkey, hslot⟩
    intro hpt
    obtain ⟨hq, holder⟩ := hframe hpt
    use hq
    intro e' he'
    apply holder e' (hmem e' he')
  · apply h.exact

/-- The `i`-th callback moves on from `pt` to `pt'`, and what it notes is `Exact`. -/
theorem cbMove
    {i : Nat} {e : Entity} {pt pt' : CbPoint} {ev : Event} (h : Owned p m A U rank)
    (hc : m.cbs[i]? = some ⟨e, pt⟩) (hown : CbOwned m.stream.out ⟨e, pt'⟩) (hev : Exact ev) :
  Owned p { m with stream := note ev m.stream, cbs := m.cbs.set i ⟨e, pt'⟩ } A U rank
  := by
  obtain ⟨l₁, l₂, hl, hset, -⟩ := split_at hc
  have hent : entities { m with stream := note ev m.stream, cbs := m.cbs.set i ⟨e, pt'⟩ }
      = entities m := by
    simp only [entities, note, hset]
    simp [hl]
  constructor
  · apply h.pool
  · rw [hent]
    apply h.owners
  · apply h.order
  · rw [hent]
    apply h.ranked
  · rw [hent]
    apply h.filed
  · rw [hent]
    apply h.older
  · apply h.offsets
  · apply h.fresh
  · apply h.lib
  · intro c hc
    simp only [hset, List.mem_append, List.mem_cons] at hc
    rcases hc with hc | rfl | hc
    · apply h.cbs
      simp [hl, hc]
    · apply hown
    · apply h.cbs
      simp [hl, hc]
  · rw [hent]
    intro pt l henc
    obtain ⟨hframe, hranked, hkey, hslot⟩ := h.enc pt l henc
    exact ⟨hframe, hranked, hkey, hslot⟩
  · intro ev' hev'
    rcases List.mem_cons.mp hev' with rfl | hev'
    · apply hev
    · apply h.exact ev' hev'

/-- Entities `e` and `e'` with different slots have different frames. -/
theorem frame_ne
    {e e' : Entity} (h : Owned p m A U rank) (he : e ∈ entities m) (he' : e' ∈ entities m)
    (hslot : e'.slot ≠ e.slot) :
  e'.frame ≠ e.frame
  := by
  intro hframe
  have hrank : rank e'.slot = rank e.slot := by
    rw [h.ranked e' he', h.ranked e he, hframe]
  have hnd : (U.map rank).Nodup :=
    List.pairwise_map.mpr (h.order.imp (fun hlt => (Nat.ne_of_lt hlt).symm))
  apply hslot
  apply List.inj_on_of_nodup_map hnd (h.slot_mem he') (h.slot_mem he) hrank

/-- When the callback for the entity `e` gives its frame back, the frames of the other entities stay out
of the driver. -/
theorem frame_stays
    {e e' : Entity} {pt : CbPoint} {l₁ l₂ : List Callback} (h : Owned p m A U rank)
    (hl : m.cbs = l₁ ++ ⟨e, pt⟩ :: l₂)
    (he' : e' ∈ m.stream.lib ++ (l₁ ++ l₂).map Callback.e) (hout : e'.frame ∈ m.stream.out) :
  e'.frame ∈ m.stream.out.erase e.frame
  := by
  have hperm : (entities m).Perm (e :: (m.stream.lib ++ (l₁ ++ l₂).map Callback.e)) := by
    simp only [entities, hl, List.map_append, List.map_cons, ← List.append_assoc]
    apply List.perm_middle
  have hnd := (hperm.map Entity.slot).nodup_iff.mp h.owners_nodup.of_append_right
  have hslot : e'.slot ≠ e.slot := by
    intro heq
    apply (List.nodup_cons.mp hnd).1
    rw [← heq]
    apply List.mem_map_of_mem he'
  apply (List.mem_erase_of_ne _).mpr hout
  apply h.frame_ne (hperm.mem_iff.mpr List.mem_cons_self)
    (hperm.mem_iff.mpr (List.mem_cons_of_mem e he')) hslot

/-- The other callbacks still work on their entities when the callback for the entity `e` gives its
frame back. -/
theorem cbOwned_stays
    {e : Entity} {pt : CbPoint} {l₁ l₂ : List Callback} {c : Callback} (h : Owned p m A U rank)
    (hl : m.cbs = l₁ ++ ⟨e, pt⟩ :: l₂) (hc : c ∈ l₁ ++ l₂) :
  CbOwned (m.stream.out.erase e.frame) c
  := by
  have hmem : c ∈ m.cbs := by
    rw [hl]
    rcases List.mem_append.mp hc with hc | hc
    · apply List.mem_append_left _ hc
    · apply List.mem_append_right _ (List.mem_cons_of_mem _ hc)
  have hce : c.e ∈ m.stream.lib ++ (l₁ ++ l₂).map Callback.e :=
    List.mem_append_right _ (List.mem_map_of_mem hc)
  have hcown := h.cbs c hmem
  unfold CbOwned at hcown ⊢
  split at hcown
  · apply h.frame_stays hl hce hcown
  · use hcown.1
    apply h.frame_stays hl hce hcown.2
  · use hcown.1
    intro q hqo
    apply hcown.2 q (List.erase_subset hqo)

/-- The `i`-th callback gives the frame of its entity `e` back to the driver. -/
theorem cbFree
    {i : Nat} {e : Entity} {fs : SlotId} (h : Owned p m A U rank)
    (hc : m.cbs[i]? = some ⟨e, .free fs⟩) :
  Owned p (cbStep p m i ⟨e, .free fs⟩) A U rank
  := by
  obtain ⟨l₁, l₂, hl, hset, -⟩ := split_at hc
  obtain ⟨rfl, hq⟩ : fs = e.slot ∧ e.frame ∈ m.stream.out := by
    apply h.cbs ⟨e, .free fs⟩
    simp [hl]
  have he : e ∈ entities m := by simp [entities, hl]
  have hfiled := h.filed e he
  have hent : m.stream.lib ++ (l₁ ++ (⟨e, .put e.slot⟩ : Callback) :: l₂).map Callback.e
      = entities m := by
    simp [entities, hl]
  have hsub := List.erase_sublist (a := e.frame) (l := m.stream.out)
  simp only [cbStep, hfiled.slot, contents, p.inRange, Bool.false_eq_true, if_false, hset,
    freeBsData_eq (Int.le_refl 0) h.offsets hq, takenBack_eq h.offsets hq]
  constructor
  · apply h.pool
  · simp only [entities, note, addUsage, hent]
    apply h.owners
  · apply h.order
  · simp only [entities, note, addUsage, hent]
    apply h.ranked
  · simp only [entities, note, addUsage, hent]
    apply h.filed
  · simp only [entities, note, addUsage, hent]
    apply h.older
  · apply h.offsets.sublist (hsub.map _)
  · intro q hqo
    apply h.fresh q (hsub.subset hqo)
  · intro e' he'
    apply h.frame_stays hl (List.mem_append_left _ he') (h.lib e' he')
  · intro c hc
    rcases List.mem_append.mp hc with hc | hc
    · apply h.cbOwned_stays hl (List.mem_append_left _ hc)
    · rcases List.mem_cons.mp hc with rfl | hc
      · use rfl
        intro q hqo hoffset
        have hqe := h.frame_eq (hsub.subset hqo) hq hoffset
        rw [hqe] at hqo
        apply absurd hqo (List.Nodup.of_map _ h.offsets).not_mem_erase
      · apply h.cbOwned_stays hl (List.mem_append_right _ hc)
  · intro pt l henc
    obtain ⟨hframe, hranked, hkey, hslot⟩ := h.enc pt l henc
    simp only [entities, note, addUsage, hent]
    refine ⟨?_, hranked, hkey, hslot⟩
    intro hpt
    obtain ⟨hlq, holder⟩ := hframe hpt
    refine ⟨?_, holder⟩
    apply (List.mem_erase_of_ne _).mpr hlq
    intro heq
    have hlt := holder e he
    rw [heq] at hlt
    apply Nat.lt_irrefl _ hlt
  · intro ev hev
    rcases List.mem_cons.mp hev with rfl | hev
    · rfl
    · rcases List.mem_cons.mp hev with rfl | hev
      · trivial
      · apply h.exact ev hev

/-- The `i`-th callback gives the slot of its entity `e` back to the pool. -/
theorem cbPut
    {i : Nat} {e : Entity} {fs : SlotId} (h : Owned p m A U rank)
    (hc : m.cbs[i]? = some ⟨e, .put fs⟩) :
  ∃ A' U', Owned p (cbStep p m i ⟨e, .put fs⟩) A' U' rank
  := by
  obtain ⟨l₁, l₂, hl, -, herase⟩ := split_at hc
  obtain ⟨rfl, -⟩ : fs = e.slot ∧ _ := h.cbs ⟨e, .put fs⟩ (by simp [hl])
  have he : e ∈ entities m := by simp [entities, hl]
  have hperm : (entities m).Perm (e :: (m.stream.lib ++ (l₁ ++ l₂).map Callback.e)) := by
    simp only [entities, hl, List.map_append, List.map_cons, ← List.append_assoc]
    apply List.perm_middle
  have hmem : ∀ e' ∈ m.stream.lib ++ (l₁ ++ l₂).map Callback.e, e' ∈ entities m :=
    fun e' he' => hperm.mem_iff.mpr (List.mem_cons_of_mem e he')
  use e.slot :: A, U.erase e.slot
  simp only [cbStep, herase]
  constructor
  · apply h.pool.putVideoFrame_mem p.qnoInRange (h.slot_mem he)
  · have howners : (e.slot :: (encSlots m.enc
        ++ (m.stream.lib ++ (l₁ ++ l₂).map Callback.e).map Entity.slot)).Perm U := by
      apply List.Perm.trans _ h.owners
      apply List.perm_middle.symm.trans
      apply List.Perm.append_left
      apply (hperm.map Entity.slot).symm
    have herased := howners.erase e.slot
    rw [List.erase_cons_head] at herased
    apply herased
  · apply h.order.sublist List.erase_sublist
  · intro e' he'
    apply h.ranked e' (hmem e' he')
  · intro e' he'
    have hfiled := h.filed e' (hmem e' he')
    use hfiled.type, hfiled.data
    simp only [note, Rtspd.putSlot, Pool.putVideoFrame_vf]
    apply hfiled.slot
  · intro e' he'
    apply h.older e' (hmem e' he')
  · apply h.offsets
  · apply h.fresh
  · apply h.lib
  · intro c hc
    apply h.cbs
    rw [hl]
    rcases List.mem_append.mp hc with hc | hc
    · apply List.mem_append_left _ hc
    · apply List.mem_append_right _ (List.mem_cons_of_mem _ hc)
  · intro pt l henc
    obtain ⟨hframe, hranked, hkey, hslot⟩ := h.enc pt l henc
    simp only [note, Rtspd.putSlot]
    constructor
    · intro hpt
      obtain ⟨hq, holder⟩ := hframe hpt
      use hq
      intro e' he'
      apply holder e' (hmem e' he')
    · apply hranked
    · rw [Pool.putVideoFrame_vf]
      apply hkey
    · rw [Pool.putVideoFrame_vf]
      apply hslot
  · intro ev hev
    rcases List.mem_cons.mp hev with rfl | hev
    · rfl
    · apply h.exact ev hev

/-- A step of the callback `c` that does not search for a stale key keeps the machine `Owned`, and
does not fault. -/
theorem callback
    {i : Nat} {c : Callback} (h : Owned p m A U rank) (hc : m.cbs[i]? = some c)
    (hstale : NoStaleSearch m (.cb i)) :
  ∃ A' U', Owned p (cbStep p m i c) A' U' rank ∧ (cbStep p m i c).fault = m.fault
  := by
  have hmem : c ∈ m.cbs := List.mem_of_getElem? hc
  have he : c.e ∈ entities m := List.mem_append_right _ (List.mem_map_of_mem hmem)
  obtain ⟨e, pt⟩ := c
  cases pt with
  | search =>
      have hout : e.frame ∈ m.stream.out := h.cbs _ hmem
      have hsearch := h.search he hout (by
        intro l henc
        simp only [NoStaleSearch, hc, henc] at hstale
        exact hstale)
      have hvideo : gmSsVideoMin ≤ e.type ∧ e.type ≤ gmSsVideoMax := by
        rw [(h.filed e he).type]
        apply p.video
      use A, U
      simp only [cbStep, if_pos hvideo, hsearch]
      refine ⟨?_, trivial⟩
      apply h.cbMove hc
      · use rfl, hout
      · trivial
  | free fs =>
      refine ⟨A, U, h.cbFree hc, ?_⟩
      simp only [cbStep]
      split
      · rfl
      · rfl
  | put fs =>
      obtain ⟨A', U', h'⟩ := h.cbPut hc
      use A', U', h'
      rfl

/-- A step in which the driver keeps its promise and no callback searches for a stale key
keeps the invariant, and faults only when `take_video_frame` finds no free slot. -/
theorem step
    {mv : Move} (h : Owned p m A U rank) (hdriver : Driver m mv) (hstale : NoStaleSearch m mv)
    (hstep : machineStep p m mv = some m') :
  ∃ A' U' rank', Owned p m' A' U' rank'
    ∧ (m'.fault = true →
      A = [] ∧ m'.stream = m.stream ∧ ∃ n l, mv = .enc n ∧ m.enc = some (.take, l))
  := by
  unfold machineStep at hstep
  split at hstep
  · contradiction
  · next hfault =>
      rw [Bool.not_eq_true] at hfault
      cases mv with
      | get ret queue payload tvSec tvUsec =>
          dsimp only at hstep
          split at hstep
          · contradiction
          · next henc =>
              split at hstep
              · next hget =>
                  obtain rfl := Option.some.inj hstep
                  exact ⟨A, U, rank, h.get henc hdriver hget, by simp [Machine.goto, hfault]⟩
              · next hget =>
                  obtain rfl := Option.some.inj hstep
                  rw [getBsData_eq] at hget
                  split at hget
                  · simp at hget
                  · obtain ⟨-, rfl⟩ : _ ∧ _ := by simpa using hget
                    refine ⟨A, U, rank, ?_, by simp [Machine.return, hfault]⟩
                    apply h.moveOn
                    · rw [henc]
                    · simp
      | enc enqueue =>
          obtain ⟨⟨pt, l⟩, henc, rfl⟩ := Option.map_eq_some_iff.mp hstep
          obtain ⟨A', U', rank', h', hf⟩ := h.encStep henc hfault enqueue
          use A', U', rank', h'
          intro htrue
          obtain ⟨rfl, hA, hstream⟩ := hf htrue
          use hA, hstream, enqueue, l
      | call e =>
          dsimp only at hstep
          split at hstep
          · next he =>
              obtain rfl := Option.some.inj hstep
              exact ⟨A, U, rank, h.call he, by simp [hfault]⟩
          · contradiction
      | cb i =>
          obtain ⟨c, hc, rfl⟩ := Option.map_eq_some_iff.mp hstep
          obtain ⟨A', U', h', hf⟩ := h.callback hc hstale
          use A', U', rank, h'
          rw [hf, hfault]
          simp
      | control c =>
          obtain rfl := Option.some.inj hstep
          refine ⟨A, U, rank, h.quiet (n := 0) ?_, by simp [hfault]⟩
          exact Quiet.of_eq rfl rfl rfl rfl rfl rfl

end Owned

/-! ### Callbacks act on their own slots -/

/-- In every run of the machine in which the driver keeps its promise and no callback searches for
the stale key of a slot just taken, every callback finds the slot of its entity, gives back the
frame of its entity and puts back the slot of its entity; and the only fault that a run can end in
is that no slot is free, with `avail` empty. -/
theorem callback_exact
    {p : Live} {m t : Machine} {mvs : List Move} (hstart : Started p m)
    (hrun : Run (machineStep p) (fun m mv => Driver m mv ∧ NoStaleSearch m mv) m mvs t) :
  (∀ ev ∈ t.stream.log, Exact ev) ∧ (t.fault = true → t.stream.frames.avail = none)
  := by
  have hinv : (∃ A U rank, Owned p t A U rank)
      ∧ (t.fault = true → t.stream.frames.avail = none) := by
    refine hrun.invariant (I := fun m => (∃ A U rank, Owned p m A U rank)
      ∧ (m.fault = true → m.stream.frames.avail = none)) ?_ ?_
    · rintro m mv m' ⟨⟨A, U, rank, h⟩, -⟩ ⟨hdriver, hstale⟩ hstep
      obtain ⟨A', U', rank', h', hfault⟩ := h.step hdriver hstale hstep
      use ⟨A', U', rank', h'⟩
      intro htrue
      obtain ⟨rfl, hstream, -⟩ := hfault htrue
      rw [hstream]
      apply h.pool.avail
    · use Owned.of_started hstart
      simp [hstart.fault]
  obtain ⟨⟨A, U, rank, h⟩, hfault⟩ := hinv
  use h.exact, hfault

/-- The general `callback_exact` at the first frame, whose callback finds and returns its slot. -/
theorem callback_exact_newMachine :
  ∃ t, Run (machineStep mainStream) (fun m mv => Driver m mv ∧ NoStaleSearch m mv) newMachine
      (serve 64 9 0 ++ [.call (smallEntity 0 64 5), .cb 0, .cb 0, .cb 0]) t
    ∧ (∀ ev ∈ t.stream.log, Exact ev) ∧ (t.fault = true → t.stream.frames.avail = none)
    ∧ .giveBack (smallEntity 0 64 5) 5 ∈ t.stream.log
  := by
  obtain ⟨t, hrun, ht⟩ := Run.exists_of_exec (machineStep mainStream)
    (fun m mv => Driver m mv ∧ NoStaleSearch m mv) newMachine
    (fun t => t.stream.log.contains (.giveBack (smallEntity 0 64 5) 5))
    (serve 64 9 0 ++ [.call (smallEntity 0 64 5), .cb 0, .cb 0, .cb 0])
    (by decide +kernel)
  obtain ⟨hexact, hfault⟩ := callback_exact newMachine_started hrun
  use t, hrun, hexact, hfault
  simpa using ht

/-- The moves by which slot 4 gets a stale key and stands first in the `used` list: two frames are
filed in the slots 5 and 4 and called back, the second one first; a third frame, at the offset of
the second, is filed in slot 5; a fourth frame takes slot 4, and before its search key is written
the library calls back for the third. -/
def staleMoves : List Move :=
  serve 64 9 0 ++ serve 128 9 0
    ++ [.call (smallEntity 1 128 4), .cb 0, .cb 0, .cb 0]
    ++ [.call (smallEntity 0 64 5), .cb 0, .cb 0, .cb 0]
    ++ serve 128 9 0 ++ serve 192 5 0 ++ [.call (smallEntity 2 128 5)]

/-- Behind `staleMoves`, a callback for the frame in slot 5 finds slot 4, which has been taken and
not yet filled, and puts slot 4 back. -/
theorem callback_not_exact :
  ∃ t, Run (machineStep mainStream) Driver newMachine
      (staleMoves ++ [.cb 0, .cb 0, .cb 0]) t
    ∧ .select (smallEntity 2 128 5) 4 ∈ t.stream.log
    ∧ .giveBack (smallEntity 2 128 5) 4 ∈ t.stream.log
    ∧ ¬ ∀ ev ∈ t.stream.log, Exact ev
  := by
  obtain ⟨t, hrun, ht⟩ := Run.exists_of_exec (machineStep mainStream)
    Driver newMachine
    (fun t => t.stream.log.contains (.select (smallEntity 2 128 5) 4)
      && t.stream.log.contains (.giveBack (smallEntity 2 128 5) 4))
    (staleMoves ++ [.cb 0, .cb 0, .cb 0]) (by decide +kernel)
  obtain ⟨hselect, hgive⟩ : .select (smallEntity 2 128 5) 4 ∈ t.stream.log
      ∧ .giveBack (smallEntity 2 128 5) 4 ∈ t.stream.log := by simpa using ht
  use t, hrun, hselect, hgive
  intro hexact
  cases hexact _ hselect

/-! ### A slot is always free -/

/-- The move is not a call of `take_video_frame` while more than `vqLen` entities are with
the library or with callbacks that have not returned. -/
def Margin (m : Machine) : Move → Prop
  | .enc _ =>
      match m.enc with
      | some (.take, _) => m.stream.lib.length + m.cbs.length ≤ vqLen
      | _ => True
  | _ => True

instance (m : Machine) (mv : Move) : Decidable (Margin m mv) := by
  unfold Margin
  split
  · split
    · infer_instance
    · infer_instance
  · infer_instance

/-- The library does not hold more than `vqLen` entities of the queue, when it accepts one. -/
def LibraryBound (m : Machine) : Move → Prop
  | .enc enqueue =>
      match m.enc with
      | some (.enqueue, _) => 0 ≤ enqueue → m.stream.lib.length < vqLen
      | _ => True
  | _ => True

instance (m : Machine) (mv : Move) : Decidable (LibraryBound m mv) := by
  unfold LibraryBound
  split
  · split
    · infer_instance
    · infer_instance
  · infer_instance

/-- The slots `U` in use are as many as the entities, before the encoder thread takes one. -/
theorem Owned.length_used
    {p : Live} {m : Machine} {A U : List SlotId} {rank : SlotId → Nat} {l : Local}
    (h : Owned p m A U rank) (henc : m.enc = some (.take, l)) :
  U.length = m.stream.lib.length + m.cbs.length
  := by
  have hlen := h.owners.length_eq
  simp only [henc, encSlots, Point.ownsSlot, entities, List.map_append, List.map_map,
    List.length_append, List.length_map] at hlen
  simpa using hlen.symm

/-- If the library and the callbacks hold at most `vqLen` entities, then there is a free slot to
take. -/
theorem Owned.avail_ne_nil
    {p : Live} {m : Machine} {A U : List SlotId} {rank : SlotId → Nat} {l : Local}
    (h : Owned p m A U rank) (henc : m.enc = some (.take, l))
    (hmargin : m.stream.lib.length + m.cbs.length ≤ vqLen) :
  A ≠ []
  := by
  rintro rfl
  have hnum := h.pool.number
  rw [h.length_used henc] at hnum
  simp only [List.length_nil, videoFrameNumber] at hnum
  omega

/-- In every run of the machine in which the driver keeps its promise, no callback searches
for the stale key of a slot just taken, and `take_video_frame` is called with at most
`vqLen` entities in the library and in callbacks: the machine never faults, so
`take_video_frame` has not been called with an empty list; the two lists hold all slots;
and where `take_video_frame` is to be called with the margin, a slot is free. -/
theorem avail_never_empty
    {p : Live} {m t : Machine} {mvs : List Move} (hstart : Started p m)
    (hrun : Run (machineStep p)
      (fun m mv => Driver m mv ∧ NoStaleSearch m mv ∧ Margin m mv) m mvs t) :
  t.fault = false
    ∧ (∃ a u, getNumOfList t.stream.frames.slots walkBound t.stream.frames.avail = some a
      ∧ getNumOfList t.stream.frames.slots walkBound t.stream.frames.used = some u
      ∧ a + u = videoFrameNumber)
    ∧ ∀ l, t.enc = some (.take, l) → t.stream.lib.length + t.cbs.length ≤ vqLen →
      t.stream.frames.avail ≠ none
  := by
  have hinv : (∃ A U rank, Owned p t A U rank) ∧ t.fault = false := by
    refine hrun.invariant
      (I := fun m => (∃ A U rank, Owned p m A U rank) ∧ m.fault = false) ?_ ?_
    · rintro m mv m' ⟨⟨A, U, rank, h⟩, -⟩ ⟨hdriver, hstale, hmargin⟩ hstep
      obtain ⟨A', U', rank', h', hfault⟩ := h.step hdriver hstale hstep
      use ⟨A', U', rank', h'⟩
      rw [← Bool.not_eq_true]
      intro htrue
      obtain ⟨hA, -, n, l, rfl, henc⟩ := hfault htrue
      simp only [Margin, henc] at hmargin
      apply h.avail_ne_nil henc hmargin hA
    · use Owned.of_started hstart, hstart.fault
  obtain ⟨⟨A, U, rank, h⟩, hfault⟩ := hinv
  refine ⟨hfault, h.pool.getNumOfList, ?_⟩
  intro l henc hmargin hnone
  apply h.avail_ne_nil henc hmargin
  have havail := h.pool.avail
  rw [hnone] at havail
  apply havail.nil_inv

/-- The general `avail_never_empty` at a library that holds as many entities as it may, and refuses
another frame. -/
theorem avail_never_empty_newMachine :
  ∃ t, Run (machineStep mainStream)
      (fun m mv => Driver m mv ∧ NoStaleSearch m mv ∧ Margin m mv) newMachine
      (serve 0 9 0 ++ serve 64 9 0 ++ serve 128 9 0 ++ serve 192 9 0 ++ serve 256 9 0
        ++ serve 320 10 errFull) t
    ∧ t.fault = false
    ∧ (∃ a u, getNumOfList t.stream.frames.slots walkBound t.stream.frames.avail = some a
      ∧ getNumOfList t.stream.frames.slots walkBound t.stream.frames.used = some u
      ∧ a + u = videoFrameNumber)
    ∧ t.stream.lib.length = vqLen
  := by
  obtain ⟨t, hrun, ht⟩ := Run.exists_of_exec (machineStep mainStream)
    (fun m mv => Driver m mv ∧ NoStaleSearch m mv ∧ Margin m mv) newMachine
    (fun t => t.stream.lib.length == vqLen)
    (serve 0 9 0 ++ serve 64 9 0 ++ serve 128 9 0 ++ serve 192 9 0 ++ serve 256 9 0
        ++ serve 320 10 errFull) (by decide +kernel)
  obtain ⟨hfault, hnum, -⟩ := avail_never_empty newMachine_started hrun
  use t, hrun, hfault, hnum
  simpa using ht

/-- With a library that never holds more than `vqLen` entities: `take_video_frame` is called
with an empty list while a callback has not yet put its slot back; and after a callback has
put back the slot that the encoder thread is filling, a refused entity puts it back a second
time, and neither list is the lists of the slots any more. -/
theorem avail_empty :
  (∃ t, Run (machineStep mainStream)
      (fun m mv => Driver m mv ∧ NoStaleSearch m mv ∧ LibraryBound m mv) newMachine
      (serve 0 9 0 ++ serve 64 9 0 ++ serve 128 9 0 ++ serve 192 9 0 ++ serve 256 9 0
        ++ [.call (smallEntity 0 0 5)] ++ serve 320 9 0 ++ serve 384 5 0) t
      ∧ t.stream.frames.avail = none ∧ t.fault = true)
    ∧ ∃ t, Run (machineStep mainStream) (fun m mv => Driver m mv ∧ LibraryBound m mv) newMachine
      (staleMoves ++ [.cb 0, .cb 0, .cb 0] ++ List.replicate 4 (.enc errFull)) t
      ∧ getNumOfList t.stream.frames.slots walkBound t.stream.frames.avail = none
  := by
  constructor
  · obtain ⟨t, hrun, ht⟩ := Run.exists_of_exec (machineStep mainStream)
      (fun m mv => Driver m mv ∧ NoStaleSearch m mv ∧ LibraryBound m mv)
      newMachine (fun t => t.stream.frames.avail.isNone && t.fault)
      (serve 0 9 0 ++ serve 64 9 0 ++ serve 128 9 0 ++ serve 192 9 0 ++ serve 256 9 0
        ++ [.call (smallEntity 0 0 5)] ++ serve 320 9 0 ++ serve 384 5 0) (by decide +kernel)
    use t, hrun
    simpa using ht
  · obtain ⟨t, hrun, ht⟩ := Run.exists_of_exec (machineStep mainStream)
      (fun m mv => Driver m mv ∧ LibraryBound m mv) newMachine
      (fun t => getNumOfList t.stream.frames.slots walkBound t.stream.frames.avail == none)
      (staleMoves ++ [.cb 0, .cb 0, .cb 0] ++ List.replicate 4 (.enc errFull))
      (by decide +kernel)
    use t, hrun
    simpa using ht

end Rtspd
