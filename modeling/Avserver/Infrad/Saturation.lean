import Avserver.Infrad.Control
import Avserver.Msg.Decimal
import Avserver.Msg.Effects
import Mathlib.Data.List.Induction

/-!
# The saturation and the lamp

The saturation is kept in the configuration, in the globals of `infrad_ctrl` and in the image
processor.  A request stores in all three what is not configured yet (`step_saturation`), whether
the lamp is on or not.  So while the lamp is off, the image processor has the saturation that is
configured; but while it is on, the picture stays without colours only as long as no request
brings them back (`saturation_kept_iff`).
-/

namespace Infrad

open Library
open Msg (Device Callee Effect Env Session Branch atoi decimal tSet)

/-! ### Where the saturation is kept -/

/-- The saturation that is configured, the one that `infrad_ctrl` knows and the one that was written
to the image processor. -/
structure Setting where
  configured : Int
  imgSaturation : Int
  isp : Int

def System.setting (n : System) : Setting :=
  ⟨n.device.mem.int (.img .saturation), n.imgSaturation, n.isp⟩

/-- A value `v` is stored in the three places of the saturation `x`, unless it is what is configured
already. -/
def Setting.set (x : Setting) (v : Int) : Setting := if x.configured = v then x else ⟨v, v, v⟩

/-- Several values `vs` leave everything as it is if they are what is configured, and otherwise the
last one is stored in all three places. -/
theorem foldl_set (x : Setting) (vs : List Int) :
  (∀ v ∈ vs, v = x.configured) ∧ vs.foldl Setting.set x = x ∨
    (∃ v ∈ vs, v ≠ x.configured) ∧ ∃ last, vs.getLast? = some last ∧
      vs.foldl Setting.set x = ⟨last, last, last⟩
  := by
  induction vs using List.reverseRecOn with
  | nil => exact Or.inl ⟨by simp, rfl⟩
  | append_singleton vs v ih =>
      rw [List.foldl_append, List.foldl_cons, List.foldl_nil, List.getLast?_concat]
      rcases ih with ⟨hall, heq⟩ | ⟨⟨w, hw, hne⟩, last, -, heq⟩
      · rw [heq, Setting.set]
        split
        · next hv =>
            left
            refine ⟨?_, rfl⟩
            intro u hu
            rcases List.mem_append.mp hu with hu | hu
            · apply hall u hu
            · rw [List.mem_singleton.mp hu, hv]
        · next hv =>
            right
            exact ⟨⟨v, by simp, fun h => hv h.symm⟩, v, rfl, rfl⟩
      · right
        refine ⟨⟨w, List.mem_append_left _ hw, hne⟩, v, rfl, ?_⟩
        rw [heq, Setting.set]
        split
        · next hv =>
            obtain rfl : last = v := hv
            rfl
        · rfl

/-! ### Requests -/

variable {n n' t : System} {env : Env} {s : Session} {values : List (List Char)} {es : List Effect}

/-- The functions that a request calls by its effects `es` do not look at the configuration `d`, and
leave it alone. -/
theorem foldl_call_device (es : List Effect) (n : System) (d : Device) :
  es.foldl call { n with device := d } = { es.foldl call n with device := d }
  := by
  have hone (e : Effect) (n : System) :
      call { n with device := d } e = { call n e with device := d } := by
    unfold call
    split
    all_goals rfl
  induction es generalizing n with
  | nil => rfl
  | cons e es ih => rw [List.foldl_cons, hone, ih, List.foldl_cons]

/-- The functions that a request calls by its effects `es` do not tell the lamp anything: it is on
behind them if it was on before. -/
theorem foldl_call_lamp (es : List Effect) (n : System) : (es.foldl call n).lamp = n.lamp := by
  have hone (e : Effect) (n : System) : (call n e).lamp = n.lamp := by
    unfold call
    split
    all_goals rfl
  induction es generalizing n with
  | nil => rfl
  | cons e es ih => rw [List.foldl_cons, ih, hone]

/-- Effects `es` that only write configuration files call none of the functions, and leave the
system `n` alone. -/
theorem foldl_call_writes (h : ∀ e ∈ es, ∃ file, e = .writeCfgFile file) (n : System) :
  es.foldl call n = n
  := by
  induction es with
  | nil => rfl
  | cons e es ih =>
      obtain ⟨file, rfl⟩ := h e List.mem_cons_self
      have hone : call n (.writeCfgFile file) = n := rfl
      rw [List.foldl_cons, hone]
      apply ih fun e he => h e (List.mem_cons_of_mem _ he)

/-- The system `n` in the middle of a request, with the configuration and the effects of the session
`s`. -/
def under (n : System) (s : Session) : System := s.effects.foldl call { n with device := s.device }

/-- The branch of the saturation, in a session `s` with the type `T_Set`: a `value` that is not
configured yet is stored and passed to the two functions. -/
theorem run_saturation_eq (value : List Char) (hcmd : s.cmdType = tSet) :
  Msg.Key.saturation.branch.run env .saturation value s
    = .ok (if s.mem.int (.img .saturation) ≠ atoi value then
        ((s.setInt (.img .saturation) (atoi value)).calls [.adjustSaturation, .setImgSaturation]
          (.img .saturation)).setFileChanged .imageAttr
      else s)
  := by
  change s.onCmd _ _ = _
  rw [Session.onCmd, if_pos hcmd]
  change (if s.mem.int (.img .saturation) ≠ atoi value then _ else _) = _
  split
  · rfl
  · rfl

/-- For a configured value `v` in the range of the image processor, the two functions that are
called store it in the other two places as well. -/
theorem setting_calls
    {v : Int} (hv : 0 ≤ v ∧ v ≤ 255) (hn : n.setting.configured = v) :
  ([Effect.call .adjustSaturation [v], .call .setImgSaturation [v]].foldl call n).setting = ⟨v, v, v⟩
  := by
  have hrange : ¬ (v < 0 ∨ v > 255) := by omega
  have hconfigured : n.device.mem.int (.img .saturation) = v := hn
  simp only [List.foldl_cons, List.foldl_nil, call, adjustSaturation, System.setting, if_neg hrange,
    hconfigured]

/-- In a session with the type `T_Set`, a `value` in the range of the image processor is set: in the
system under the session, `Setting.set` has been done. -/
theorem run_saturation
    (n : System) (env : Env) {value : List Char} (hvalue : 0 ≤ atoi value ∧ atoi value ≤ 255)
    (hcmd : s.cmdType = tSet)
    (hcalm : s.Calm) :
  ∃ s', Msg.Key.saturation.branch.run env .saturation value s = .ok s' ∧ s'.cmdType = tSet ∧ s'.Calm
    ∧ (under n s').setting = (under n s).setting.set (atoi value)
  := by
  have hconfigured (s : Session) :
      (under n s).setting.configured = s.mem.int (.img .saturation) := by
    rw [System.setting, under, foldl_call_device]
    rfl
  refine ⟨_, run_saturation_eq value hcmd, ?_⟩
  split
  · next hne =>
      have hstored : (s.mem.setInt (.img .saturation) (atoi value)).int (.img .saturation)
          = atoi value := by
        rw [Msg.Contents.int, Msg.Contents.setInt, Function.update_self]
        rfl
      refine ⟨hcmd, ?_, ?_⟩
      · refine { hcalm with recCfg := ?_ }
        change Msg.isSetFileChanged (Msg.setFileChanged s.fileChangedFlag .imageAttr) .recCfg = false
        simpa using hcalm.recCfg
      · rw [Setting.set, if_neg (by rw [hconfigured]; exact hne)]
        have heffects : (((s.setInt (.img .saturation) (atoi value)).calls
              [.adjustSaturation, .setImgSaturation] (.img .saturation)).setFileChanged
              .imageAttr).effects
            = s.effects ++ [.call .adjustSaturation [atoi value], .call .setImgSaturation [atoi value]]
          := by
          simp [Session.calls, Session.setFileChanged, Session.effect, Session.setInt, hstored]
        rw [under, heffects, List.foldl_append]
        apply setting_calls hvalue
        rw [foldl_call_device]
        exact hstored
  · next heq =>
      refine ⟨hcmd, hcalm, ?_⟩
      rw [Setting.set, if_pos (by rw [hconfigured]; exact not_not.mp heq)]

/-- In a session with the type `T_Set`, the `values` are set one after the other, as a fold of
`Setting.set`. -/
theorem processPairs_saturation
    (n : System) (env : Env) (hvalues : ∀ value ∈ values, 0 ≤ atoi value ∧ atoi value ≤ 255)
    (hcmd : s.cmdType = tSet) (hcalm : s.Calm) :
  ∃ s', Msg.processPairs env (values.map fun value => (decimal Msg.Key.saturation.code, value)) s
      = .ok s' ∧ s'.Calm
    ∧ (under n s').setting = (values.map atoi).foldl Setting.set (under n s).setting
  := by
  induction values generalizing s with
  | nil => exact ⟨s, rfl, hcalm, rfl⟩
  | cons value values ih =>
      obtain ⟨s₁, hs₁, hcmd₁, hcalm₁, hsetting⟩ :=
        run_saturation n env (hvalues value List.mem_cons_self) hcmd hcalm
      obtain ⟨s', hs', hcalm', hsetting'⟩ :=
        ih (fun value' hmem => hvalues value' (List.mem_cons_of_mem _ hmem)) hcmd₁ hcalm₁
      refine ⟨s', ?_, hcalm', ?_⟩
      · apply foldlM_cons_ok.mpr
        use s₁
        rw [Msg.processPair_decimal]
        use hs₁, hs'
      · rw [hsetting', hsetting, List.map_cons, List.foldl_cons]

/-- A request with `values` in the range of the image processor is answered; it sets them, whether
the lamp is on or not, and leaves the lamp alone. -/
theorem step_saturation
    (n : System) (env : Env) (hvalues : ∀ value ∈ values, 0 ≤ atoi value ∧ atoi value ≤ 255) :
  ∃ n', step n (.saturation env values) = some n' ∧ n'.lamp = n.lamp
    ∧ n'.setting = (values.map atoi).foldl Setting.set n.setting
  := by
  have htype : ∃ s, Msg.processPair env (.start env n.device) (decimal Msg.Key.type.code, decimal tSet)
      = .ok s ∧ s.cmdType = tSet ∧ s.Calm ∧ under n s = n := by
    have htSet : atoi (decimal tSet) = tSet := Msg.atoi_decimal (by decide)
    rw [Msg.processPair_decimal]
    refine ⟨_, rfl, ?_⟩
    rw [htSet]
    exact ⟨rfl, ⟨rfl, rfl, rfl, rfl, rfl, Msg.isSetFileChanged_zero _, rfl, rfl⟩, rfl⟩
  obtain ⟨s, hs, hcmd, hcalm, hunder⟩ := htype
  obtain ⟨t, ht, hcalm', hsetting⟩ :=
    processPairs_saturation n env hvalues hcmd hcalm
  obtain ⟨es, hes, hwrites⟩ := Msg.writeFiles_adds
    (P := fun e => ∃ file, e = .writeCfgFile file) (fun file => ⟨file, rfl⟩) t
  have hmem : (Msg.writeFiles t).mem = t.mem := (Msg.writeFiles_flash Msg.fileArray t).1
  have hloop : Msg.processPairs env (saturationRequest values) (.start env n.device) = .ok t :=
    foldlM_cons_ok.mpr ⟨s, hs, ht⟩
  have hreply := hcalm'.processMsg_eq hloop
  have hstep : step n (.saturation env values)
      = some ((Msg.writeFiles t).effects.foldl call { n with device := (Msg.writeFiles t).device }) := by
    rw [step, hreply]
  refine ⟨_, hstep, foldl_call_lamp _ _, ?_⟩
  rw [hes, List.foldl_append, foldl_call_writes hwrites]
  rw [hunder] at hsetting
  rw [← hsetting]
  simp only [under, System.setting, foldl_call_device, Session.device, hmem]

/-! ### Rounds -/

/-- In the system `n` the image processor has the saturation that the lamp asks for: 0 while it is
on, and the one that is configured while it is off. -/
def Kept (n : System) : Prop :=
  (n.lamp = .on → n.setting.isp = 0) ∧ (n.lamp = .off → n.setting.isp = n.setting.configured)

/-- The saturation that is configured is the one that `infrad_ctrl` knows, and in the range of the
image processor. -/
structure Setting.Known (x : Setting) : Prop where
  imgSaturation : x.imgSaturation = x.configured
  range : 0 ≤ x.configured ∧ x.configured ≤ 255

/-- The values of a request are numbers from 0 to 255, the range of the image processor; a round has
none. -/
def Event.InRange : Event → Prop
  | .round _ => True
  | .saturation _ values => ∀ value ∈ values, 0 ≤ atoi value ∧ atoi value ≤ 255

/-- The request brings the colours back while the lamp is on: it sets something that is not
configured in `n`, and its last value is not 0. -/
def Event.Disturbs (n : System) : Event → Prop
  | .round _ => False
  | .saturation _ values => n.lamp = .on ∧ (∃ v ∈ values.map atoi, v ≠ n.setting.configured)
      ∧ ∃ last ∈ (values.map atoi).getLast?, last ≠ 0

instance (ev : Event) : Decidable ev.InRange := by
  cases ev with
  | round r => exact inferInstanceAs (Decidable True)
  | saturation env values => exact inferInstanceAs (Decidable (∀ value ∈ values, _))

instance (n : System) (ev : Event) : Decidable (ev.Disturbs n) := by
  cases ev with
  | round r => exact inferInstanceAs (Decidable False)
  | saturation env values =>
      exact inferInstanceAs (Decidable (n.lamp = .on
        ∧ (∃ v ∈ values.map atoi, v ≠ n.setting.configured)
        ∧ ∃ last ∈ (values.map atoi).getLast?, last ≠ 0))

theorem setToColor_kept (h : n.setting.Known) : Kept (setToColor n) := by
  have hisp : (setToColor n).setting.isp = n.setting.configured := by
    obtain ⟨hlow, hhigh⟩ := h.range
    rw [← h.imgSaturation] at hlow hhigh ⊢
    apply if_neg
    change ¬ (n.setting.imgSaturation < 0 ∨ n.setting.imgSaturation > 255)
    omega
  exact ⟨nofun, fun _ => hisp⟩

theorem setToWhite_kept (n : System) : Kept (setToWhite n) := ⟨fun _ => rfl, nofun⟩

/-- The part of a round that deals with the button changes neither the lamp nor the `setting` of the
saturation. -/
theorem button_setting {r : Reading} (h : button r n = .ok n') :
  n'.lamp = n.lamp ∧ n'.setting = n.setting
  := by
  simp only [button] at h
  split at h
  · obtain ⟨n₁, hn₁, h⟩ := bind_ok.mp h
    obtain rfl := Except.ok.inj h
    unfold resetSys at hn₁
    split at hn₁
    · obtain ⟨msg, -, hn₁⟩ := bind_ok.mp hn₁
      obtain rfl := Except.ok.inj hn₁
      exact ⟨rfl, rfl⟩
    · obtain rfl := Except.ok.inj hn₁
      exact ⟨rfl, rfl⟩
  · obtain rfl := Except.ok.inj h
    exact ⟨rfl, rfl⟩

/-- A round on a system whose setting is known leaves it known, and if the saturation is `Kept`
before it, it is behind it. -/
theorem round_kept {r : Reading} (hknown : n.setting.Known) (h : round n r = some n') :
  n'.setting.Known ∧ (Kept n → Kept n')
  := by
  obtain ⟨hlamp, hsetting⟩ := button_setting (round_some h)
  rw [hsetting]
  simp only [Kept, hlamp, hsetting]
  rcases light_eq r n with heq | heq | heq
  · rw [heq]
    exact ⟨hknown, id⟩
  · rw [heq]
    exact ⟨⟨hknown.imgSaturation, hknown.range⟩, fun _ => setToColor_kept hknown⟩
  · rw [heq]
    exact ⟨⟨hknown.imgSaturation, hknown.range⟩, fun _ => setToWhite_kept n⟩

/-- A request with `values` in the range leaves the lamp alone, and its effect on the setting is the
fold of `Setting.set` over them. -/
theorem setting_saturation
    (hvalues : ∀ value ∈ values, 0 ≤ atoi value ∧ atoi value ≤ 255)
    (h : step n (.saturation env values) = some n') :
  n'.lamp = n.lamp ∧ n'.setting = (values.map atoi).foldl Setting.set n.setting
  := by
  obtain ⟨n₁, hn₁, hafter⟩ := step_saturation n env hvalues
  obtain rfl := Option.some.inj (h.symm.trans hn₁)
  exact hafter

/-- A request leaves a known setting known, and it keeps the saturation exactly if it does not
disturb it. -/
theorem request_kept
    (hknown : n.setting.Known) (hvalues : ∀ value ∈ values, 0 ≤ atoi value ∧ atoi value ≤ 255)
    (h : step n (.saturation env values) = some n') :
  n'.setting.Known ∧ (Kept n → (Kept n' ↔ ¬ (Event.saturation env values).Disturbs n))
  := by
  obtain ⟨hlamp, hsetting⟩ := setting_saturation hvalues h
  rcases foldl_set n.setting (values.map atoi) with ⟨hall, heq⟩ | ⟨hother, last, hlast, heq⟩
  · have hnot : ¬ (Event.saturation env values).Disturbs n := by
      rintro ⟨-, ⟨v, hv, hne⟩, -⟩
      apply hne (hall v hv)
    rw [heq] at hsetting
    simp only [Kept, hlamp, hsetting]
    exact ⟨hknown, fun hkept => iff_of_true hkept hnot⟩
  · have hdisturbs : (Event.saturation env values).Disturbs n ↔ n.lamp = .on ∧ last ≠ 0 := by
      simp only [Event.Disturbs, hlast, Option.mem_some, exists_eq_left', hother, true_and]
    have hrange : 0 ≤ last ∧ last ≤ 255 := by
      obtain ⟨value, hvalue, rfl⟩ := List.mem_map.mp (List.mem_of_getLast? hlast)
      apply hvalues value hvalue
    rw [hdisturbs]
    simp only [Kept, hlamp, hsetting, heq]
    refine ⟨⟨rfl, hrange⟩, fun _ => ?_⟩
    cases n.lamp with
    | on => simp
    | off => simp

/-- If the setting is known before an event `ev` in the range, it is known behind it. -/
theorem step_known {ev : Event} (hknown : n.setting.Known) (hrange : ev.InRange)
    (h : step n ev = some n') :
  n'.setting.Known
  := by
  cases ev with
  | round r => apply (round_kept hknown h).1
  | saturation env values => apply (request_kept hknown hrange h).1

/-- A step from a state in which the saturation is `Kept` leads to one in which it is exactly if the
event `ev` does not disturb it. -/
theorem step_kept_iff
    {ev : Event} (hknown : n.setting.Known) (hkept : Kept n) (hrange : ev.InRange)
    (h : step n ev = some n') :
  Kept n' ↔ ¬ ev.Disturbs n
  := by
  cases ev with
  | round r => exact iff_of_true ((round_kept hknown h).2 hkept) id
  | saturation env values => apply (request_kept hknown hrange h).2 hkept

/-! ### Runs -/

/-- In every state of a run, whatever the readings and the order of the rounds and the requests, the
saturation is `Kept` exactly when no request of the run `Disturbs` it: none brings the colours back
while the lamp is on. -/
theorem saturation_kept_iff
    {d : Device} {lamp : Lamp} {isp : Int} {evs : List Event}
    (hd : 0 ≤ d.mem.int (.img .saturation) ∧ d.mem.int (.img .saturation) ≤ 255)
    (hrun : Run step (fun _ ev => ev.InRange) (start d lamp isp) evs t) :
  (∀ pre post u, evs = pre ++ post →
      Run step (fun _ ev => ev.InRange) (start d lamp isp) pre u → Kept u)
    ↔ Run step (fun n ev => ev.InRange ∧ ¬ ev.Disturbs n) (start d lamp isp) evs t
  := by
  have hstart : (start d lamp isp).setting.Known := ⟨rfl, hd⟩
  have hkept : Kept (start d lamp isp) := setToColor_kept ⟨rfl, hd⟩
  have hstep (n : System) (ev : Event) (n' : System) (hn : n.setting.Known ∧ Kept n)
      (hrange : ev.InRange) (hstep : step n ev = some n') :
      (n'.setting.Known ∧ Kept n') ↔ ev.InRange ∧ ¬ ev.Disturbs n := by
    have hiff := step_kept_iff hn.1 hn.2 hrange hstep
    have hknown := step_known hn.1 hrange hstep
    simp only [hknown, true_and, hiff, hrange]
  rw [← Run.forall_prefix_iff hstep hrun ⟨hstart, hkept⟩]
  constructor
  · intro h pre post u heq hpre
    refine ⟨?_, h pre post u heq hpre⟩
    apply hpre.invariant (I := fun n => n.setting.Known) (fun n ev n' => step_known) hstart
  · intro h pre post u heq hpre
    apply (h pre post u heq hpre).2

/-- A round in which the `status` decides about the lamp, and the button is not pressed. -/
def lit (status : Int) : Reading where
  status := status
  adcValue := 0
  imgWtoC := 0
  imgCtoW := 0
  reset := 1
  cmd := none

/-- The colours are changed by day, and the lamp goes on; a request whose last value is 0 keeps the
colours away, as `Kept` asks for. -/
theorem saturation_kept_iff_night :
  ∃ t, Run step (fun _ ev => ev.InRange) (start .blank .off 0)
      [.saturation .idle ["80".toList], .round (lit 2), .saturation .idle ["90".toList, "0".toList],
        .round (lit 0)] t
    ∧ t.lamp = .on ∧ Kept t
  := by
  obtain ⟨t, hrun, hlamp⟩ := Run.exists_of_exec step (fun n ev => ev.InRange ∧ ¬ ev.Disturbs n)
    (start .blank .off 0) (fun n => decide (n.lamp = .on))
    [.saturation .idle ["80".toList], .round (lit 2), .saturation .idle ["90".toList, "0".toList],
      .round (lit 0)]
    (by decide +kernel)
  have hrange : Run step (fun _ ev => ev.InRange) (start .blank .off 0) _ t :=
    hrun.mono fun _ _ h => h.1
  use t, hrange, of_decide_eq_true hlamp
  apply (saturation_kept_iff (by decide) hrange).mpr hrun _ [] t (List.append_nil _).symm hrange

/-- The saturation is set to 100 by night: the picture gets its colours back, while the lamp is
on. -/
theorem saturation_not_kept :
  ∃ t, Run step (fun _ ev => ev.InRange) (start .blank .off 0)
      [.round (lit 2), .saturation .idle ["100".toList]] t
    ∧ t.lamp = .on ∧ t.isp = 100 ∧ ¬ Kept t
  := by
  obtain ⟨t, hrun, ht⟩ := Run.exists_of_exec step (fun _ ev => ev.InRange)
    (start .blank .off 0) (fun n => decide (n.lamp = .on ∧ n.isp = 100))
    [.round (lit 2), .saturation .idle ["100".toList]] (by decide +kernel)
  obtain ⟨hlamp, hisp⟩ := of_decide_eq_true ht
  use t, hrun, hlamp, hisp
  intro hkept
  have hzero : t.isp = 0 := hkept.1 hlamp
  omega

end Infrad
