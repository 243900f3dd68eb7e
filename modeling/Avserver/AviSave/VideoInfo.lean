import Avserver.Msg.Decimal
import Avserver.Msg.ReadOnly

/-!
# The video information that the recorder asks for

Before it makes a file, the recorder asks `av_server` for the size of the pictures, the frame rate
and the bit rate of its channel: `GetVideoInfo` prints a request, `processMsg` answers it, and
`GetVideoInfo` takes the numbers from the response by their keys.  They are those of the stream 0 of
the channel's encoder configuration, and no configuration is changed by the request
(`video_info_round_trip`).
-/

namespace AviSave

open Library Library.Pairs
open Msg (Key Device Env Session Answer AvFile UbsField Fault IsInt atoi decimal tGet)

/-! ### The request and what is read from the response -/

/-- The text of the request that `GetVideoInfo` prints: it asks for four numbers of the stream 0 of
the `channel`. -/
def videoInfoText (channel : Int) : List Char :=
  '$' :: decimal Key.type.code ++ '=' :: decimal tGet
    ++ '&' :: decimal Key.chn.code ++ '=' :: decimal channel
    ++ '&' :: decimal Key.subChn.code ++ '=' :: decimal 0
    ++ '&' :: decimal Key.width.code ++ '=' :: decimal 0
    ++ '&' :: decimal Key.height.code ++ '=' :: decimal 0
    ++ '&' :: decimal Key.frameRate.code ++ '=' :: decimal 0
    ++ '&' :: decimal Key.bitRate.code ++ '=' :: decimal 0 ++ ['#']

/-- The numbers that `GetVideoInfo` yields: the width, the height, the frame rate and the bit
rate. -/
structure VideoInfo where
  w : Int
  h : Int
  fps : Int
  bps : Int
deriving DecidableEq

/-- A number `v` is stored under its key, if that is one of the four. -/
def VideoInfo.store (x : VideoInfo) (v : Int) : Key → VideoInfo
  | .width => { x with w := v }
  | .height => { x with h := v }
  | .frameRate => { x with fps := v }
  | .bitRate => { x with bps := v }
  | _ => x

/-- A pair of the response is read: its value is stored under its key. -/
def VideoInfo.read (x : VideoInfo) (pair : Pair) : VideoInfo :=
  match Key.ofCode (atoi pair.1) with
  | some key => x.store (atoi pair.2) key
  | none => x

/-- The pairs of the request of `GetVideoInfo` for the `channel`, in their order. -/
def videoInfoPairs (channel : Int) : List Pair :=
  [(decimal Key.type.code, decimal tGet), (decimal Key.chn.code, decimal channel),
    (decimal Key.subChn.code, decimal 0), (decimal Key.width.code, decimal 0),
    (decimal Key.height.code, decimal 0), (decimal Key.frameRate.code, decimal 0),
    (decimal Key.bitRate.code, decimal 0)]

variable {channel : Int} {env : Env} {d : Device}

theorem videoInfoText_eq : videoInfoText channel = render (videoInfoPairs channel) := by
  simp [videoInfoText, videoInfoPairs, render, piece]

/-- The file in which the configuration of the `channel` is: the first one for 0, and otherwise the
second one. -/
def avFile (channel : Int) : AvFile := if channel = 0 then .av0 else .av1

/-- The number at the member `f` of the stream 0 of the `channel`, as it is in the memory of `d`. -/
def ubs (d : Device) (channel : Int) (f : UbsField) : Int := d.mem.int (.ubs (avFile channel) 0 f)

/-- The height of the `channel` as it is answered: 1080 stands for 1072. -/
def heightShown (d : Device) (channel : Int) : Int :=
  if ubs d channel .height = 1072 then 1080 else ubs d channel .height

/-- The numbers that are answered for the `channel`, each under its key, the bit rate in
thousands. -/
def videoInfoNumbers (d : Device) (channel : Int) : List (Key × Int) :=
  [(.type, tGet), (.chn, channel), (.subChn, 0), (.width, ubs d channel .width),
    (.height, heightShown d channel), (.frameRate, ubs d channel .frameRate),
    (.bitRate, (ubs d channel .bitRate).tdiv 1000)]

/-- A key with its number as an `Answer`, the number in decimal digits. -/
def number (p : Key × Int) : Answer := ⟨p.1, decimal p.2⟩

/-- A number `v` that an `int` can hold is one when it is divided by 1000. -/
theorem isInt_tdiv {v : Int} (hv : IsInt v) : IsInt (v.tdiv 1000) := by
  unfold IsInt at hv ⊢
  rcases Int.le_total 0 v with hpos | hneg
  · rw [Int.tdiv_eq_ediv_of_nonneg hpos]
    omega
  · have hquot : v.tdiv 1000 = -((-v) / 1000) := by
      rw [← Int.tdiv_eq_ediv_of_nonneg (by omega : 0 ≤ -v), Int.neg_tdiv, Int.neg_neg]
    omega

/-- If the configuration of the `channel` holds numbers of an `int`, then so are those that are
answered. -/
theorem isInt_videoInfoNumbers (hchannel : IsInt channel) (hd : ∀ f, IsInt (ubs d channel f)) :
  ∀ p ∈ videoInfoNumbers d channel, IsInt p.2
  := by
  have hheight : IsInt (heightShown d channel) := by
    unfold heightShown
    split
    · decide
    · apply hd
  have hkbit : IsInt ((ubs d channel .bitRate).tdiv 1000) := isInt_tdiv (hd .bitRate)
  have hzero : IsInt 0 := by decide
  have htype : IsInt tGet := by decide
  simp only [videoInfoNumbers, List.forall_mem_cons, hd, hheight, hkbit, hzero, htype, hchannel,
    true_and, List.not_mem_nil, false_imp_iff, implies_true]

/-! ### The answers -/

variable {s s' : Session} {key : Key} {value : List Char} {v : Int}

/-- The session has selected the stream 0 of the `channel` to read from, and has the answers `as`,
counted by `ret`. -/
def reading (env : Env) (d : Device) (channel : Int) (ret : Nat) (as : List Answer) : Session :=
  { Session.start env d with cmdType := tGet, channel := channel, ret := ret, pRet := as }

variable {ret : Nat} {as : List Answer}

/-- In such a session a member `f` of a stream is resolved to that of the stream 0 of the
channel. -/
theorem resolve_reading (f : UbsField) :
  (Msg.ChanRef.ubs f).resolve (reading env d channel ret as) = .ok (.ubs (avFile channel) 0 f)
  := rfl

/-- In a session of `reading`, a `key` that is only answered is answered with its number `v`. -/
theorem getBranch_reading {t : Except Fault (List Char)} (ht : t = .ok (decimal v)) (hv : IsInt v) :
  Msg.getBranch key t (reading env d channel ret as)
    = .ok (reading env d channel (ret + 1) (as ++ [⟨key, decimal v⟩]))
  := by
  have hcmd : (reading env d channel ret as).cmdType = tGet := rfl
  rw [Msg.getBranch, if_pos hcmd, ht]
  apply Msg.answer_decimal _ key hv

/-- In a session of `reading`, a `key` that could be set as well is answered with its number `v`. -/
theorem onCmd_reading
    {set get : Except Fault Session}
    (hget : get = (reading env d channel ret as).reply key (decimal v)) (hv : IsInt v) :
  (reading env d channel ret as).onCmd set get
    = .ok (reading env d channel (ret + 1) (as ++ [⟨key, decimal v⟩]))
  := by
  have hcmd : (reading env d channel ret as).cmdType = tGet := rfl
  have hset : (reading env d channel ret as).cmdType ≠ Msg.tSet := Msg.ne_tSet (by rw [hcmd]; decide)
  rw [Session.onCmd, if_neg hset, if_pos hcmd, hget]
  apply Msg.answer_decimal _ key hv

/-- The loop over the pairs of the request of `GetVideoInfo` ends with the numbers of
`videoInfoNumbers` as answers. -/
theorem processPairs_videoInfo
    (hchannel : IsInt channel) (hd : ∀ f, IsInt (ubs d channel f)) :
  Msg.processPairs env (videoInfoPairs channel) (.start env d)
    = .ok (reading env d channel 4 ((videoInfoNumbers d channel).map number))
  := by
  have hzero : atoi (decimal 0) = 0 := Msg.atoi_decimal (by decide)
  have hheight : IsInt (heightShown d channel) := by
    unfold heightShown
    split
    · decide
    · apply hd
  have htype : Msg.processPair env (.start env d) (decimal Key.type.code, decimal tGet)
      = .ok (reading env d (-1) 0 [⟨.type, decimal tGet⟩]) := by
    rw [Msg.processPair_decimal]
    change Msg.typeBranch _ _ = _
    rw [Msg.typeBranch, tGet, hzero]
    rfl
  have hchn (as : List Answer) :
      Msg.processPair env (reading env d (-1) 0 as) (decimal Key.chn.code, decimal channel)
        = .ok (reading env d channel 0 (as ++ [⟨.chn, decimal channel⟩])) := by
    rw [Msg.processPair_decimal]
    change Msg.chnBranch _ _ = _
    rw [Msg.chnBranch, Msg.atoi_decimal hchannel]
    apply Msg.answer_decimal _ _ hchannel
  have hsub (as : List Answer) :
      Msg.processPair env (reading env d channel 0 as) (decimal Key.subChn.code, decimal 0)
        = .ok (reading env d channel 0 (as ++ [⟨.subChn, decimal 0⟩])) := by
    rw [Msg.processPair_decimal]
    change Msg.subChnBranch _ _ = _
    rw [Msg.subChnBranch, hzero]
    apply Msg.answer_decimal _ _ (by decide)
  have hwidth (ret : Nat) (as : List Answer) :
      Msg.processPair env (reading env d channel ret as) (decimal Key.width.code, decimal 0)
        = .ok (reading env d channel (ret + 1)
            (as ++ [⟨.width, decimal (ubs d channel .width)⟩])) := by
    rw [Msg.processPair_decimal]
    change Msg.widthBranch _ = _
    rw [Msg.widthBranch, resolve_reading]
    apply getBranch_reading rfl (hd .width)
  have hshown (ret : Nat) (as : List Answer) :
      Msg.processPair env (reading env d channel ret as) (decimal Key.height.code, decimal 0)
        = .ok (reading env d channel (ret + 1)
            (as ++ [⟨.height, decimal (heightShown d channel)⟩])) := by
    rw [Msg.processPair_decimal]
    change Msg.heightBranch _ = _
    rw [Msg.heightBranch, resolve_reading]
    apply getBranch_reading rfl hheight
  have hrate (ret : Nat) (as : List Answer) :
      Msg.processPair env (reading env d channel ret as) (decimal Key.frameRate.code, decimal 0)
        = .ok (reading env d channel (ret + 1)
            (as ++ [⟨.frameRate, decimal (ubs d channel .frameRate)⟩])) := by
    rw [Msg.processPair_decimal]
    change Msg.frameRateBranch _ _ = _
    rw [Msg.frameRateBranch, resolve_reading]
    apply onCmd_reading rfl (hd .frameRate)
  have hbit (ret : Nat) (as : List Answer) :
      Msg.processPair env (reading env d channel ret as) (decimal Key.bitRate.code, decimal 0)
        = .ok (reading env d channel (ret + 1)
            (as ++ [⟨.bitRate, decimal ((ubs d channel .bitRate).tdiv 1000)⟩])) := by
    rw [Msg.processPair_decimal]
    change Msg.bitRateBranch _ _ = _
    rw [Msg.bitRateBranch, resolve_reading]
    apply onCmd_reading rfl (isInt_tdiv (hd .bitRate))
  apply foldlM_cons_ok.mpr ⟨_, htype, _⟩
  apply foldlM_cons_ok.mpr ⟨_, hchn _, _⟩
  apply foldlM_cons_ok.mpr ⟨_, hsub _, _⟩
  apply foldlM_cons_ok.mpr ⟨_, hwidth _ _, _⟩
  apply foldlM_cons_ok.mpr ⟨_, hshown _ _, _⟩
  apply foldlM_cons_ok.mpr ⟨_, hrate _ _, _⟩
  apply foldlM_cons_ok.mpr ⟨_, hbit _ _, _⟩
  rfl

/-- The request of `GetVideoInfo` is answered with the numbers of `videoInfoNumbers`, and leaves the
device as it is. -/
theorem processMsg_videoInfo
    (env : Env) (hchannel : IsInt channel) (hd : ∀ f, IsInt (ubs d channel f)) :
  ∃ reply, Msg.processMsg env (videoInfoPairs channel) d = .ok reply ∧ reply.device = d
    ∧ reply.ret = 4
    ∧ reply.rbuf = render ((videoInfoNumbers d channel).map fun p => (number p).pair)
  := by
  have hcalm : (reading env d channel 4 ((videoInfoNumbers d channel).map number)).Calm :=
    ⟨rfl, rfl, rfl, rfl, rfl, Msg.isSetFileChanged_zero _, rfl, rfl⟩
  have hunmarked := Msg.writeFiles_of_unmarked
    (s := reading env d channel 4 ((videoInfoNumbers d channel).map number)) rfl
  have hreply := hcalm.processMsg_eq (processPairs_videoInfo hchannel hd)
  rw [hunmarked] at hreply
  refine ⟨_, hreply, rfl, rfl, ?_⟩
  rw [← Function.comp_def, ← List.map_map]
  apply Msg.response_eq_render
  simp [number]

/-! ### The round trip -/

/-- A number `v` that is printed in decimal digits under its `key` is read and stored. -/
theorem read_decimal (x : VideoInfo) (key : Key) (hv : IsInt v) :
  x.read (decimal key.code, decimal v) = x.store v key
  := by
  simp only [VideoInfo.read, Msg.atoi_decimal key.isInt_code, key.ofCode_code, Msg.atoi_decimal hv]

/-- Numbers that are answered under their keys are read one after the other, each one stored under
its key. -/
theorem foldl_read {ps : List (Key × Int)} (hps : ∀ p ∈ ps, IsInt p.2) (x : VideoInfo) :
  (ps.map fun p => (number p).pair).foldl VideoInfo.read x
    = ps.foldl (fun x p => x.store p.2 p.1) x
  := by
  induction ps generalizing x with
  | nil => rfl
  | cons p ps ih =>
      rw [List.map_cons, List.foldl_cons, List.foldl_cons, number, Answer.pair,
        read_decimal _ _ (hps p List.mem_cons_self)]
      apply ih fun p' hp' => hps p' (List.mem_cons_of_mem p hp')

/-- For channel 0 or 1 and every encoder configuration, the request that `GetVideoInfo` prints is
answered by `processMsg`, and `GetVideoInfo` reads from the response what is configured for stream 0
of the channel: the width, the height (1080 for 1072), the frame rate and the bit rate in thousands.
The configuration is left as it is, in memory and in the files. -/
theorem video_info_round_trip
    {parseVars : List Char → List Pair} (hparse : Reads parseVars)
    (hchannel : channel = 0 ∨ channel = 1) (hd : ∀ f, IsInt (ubs d channel f)) (x : VideoInfo) :
  ∃ reply, Msg.processMsg env (parseVars (videoInfoText channel)) d = .ok reply
    ∧ reply.ret ≠ 0 ∧ reply.device = d
    ∧ (parseVars reply.rbuf).foldl VideoInfo.read x
      = { w := ubs d channel .width
          h := if ubs d channel .height = 1072 then 1080 else ubs d channel .height
          fps := ubs d channel .frameRate
          bps := (ubs d channel .bitRate).tdiv 1000 }
  := by
  have hint : IsInt channel := by
    rcases hchannel with rfl | rfl
    all_goals decide
  obtain ⟨reply, hreply, hdevice, hret, hrbuf⟩ := processMsg_videoInfo env hint hd
  have hplain (key : Key) (v : Int) : PlainPair (decimal key.code, decimal v) :=
    ⟨Msg.decimal_plain _, Msg.decimal_plain v⟩
  have hrequest : parseVars (videoInfoText channel) = videoInfoPairs channel := by
    rw [videoInfoText_eq]
    apply hparse
    simp only [videoInfoPairs, List.forall_mem_cons, hplain, true_and, List.not_mem_nil,
      false_imp_iff, implies_true]
  have hresponse : parseVars reply.rbuf
      = (videoInfoNumbers d channel).map fun p => (number p).pair := by
    rw [hrbuf]
    apply hparse
    intro pair hpair
    obtain ⟨p, -, rfl⟩ := List.mem_map.mp hpair
    apply hplain
  refine ⟨reply, hrequest ▸ hreply, by omega, hdevice, ?_⟩
  rw [hresponse, foldl_read (isInt_videoInfoNumbers hint hd)]
  rfl

/-- A device whose second channel has a height that is answered as another one, and a bit rate that
is no multiple of 1000. -/
def highDevice : Device :=
  { Device.blank with
    mem := (Device.blank.mem.setInt (.ubs .av1 0 .height) 1072).setInt (.ubs .av1 0 .bitRate)
      768999 }

/-- What the recorder finds out about `highDevice`: the height 1080, and the bit rate in whole
thousands. -/
theorem video_info_round_trip_high :
  ∃ reply, Msg.processMsg .idle (parse (videoInfoText 1)) highDevice = .ok reply
    ∧ reply.device = highDevice ∧ (parse reply.rbuf).foldl VideoInfo.read ⟨-1, -1, -1, -1⟩
      = ⟨0, 1080, 0, 768⟩
  := by
  have hd : ∀ f, IsInt (ubs highDevice 1 f) := by
    intro f
    cases f
    all_goals decide
  obtain ⟨reply, hreply, -, hdevice, hread⟩ :=
    @video_info_round_trip 1 .idle highDevice parse parse_render (Or.inr rfl) hd ⟨-1, -1, -1, -1⟩
  use reply, hreply, hdevice
  rw [hread]
  decide

end AviSave
