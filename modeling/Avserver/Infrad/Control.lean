import Avserver.Library.Run
import Avserver.Msg.Process

/-!
# The lamp, the colours and the reset button

In each round of its loop `infrad_ctrl` turns the infrared lamp on or off, as the status or the
light demands, and takes the colours away or brings them back with it.  Then it looks at the reset
button; when it has found the button pressed three times in a row it sends a message to
`av_server`.  The saturation of the colours is written to the image processor here and by the
requests that change it.
-/

namespace Infrad

open Library
open Msg (Device Callee Effect Env Fault decimal strcpy strcat tSet)

/-- What `ioctl` tells the infrared lamp: `on` for `INFRAD_SET_ON`, and `off` for
`INFRAD_SET_OFF`. -/
inductive Lamp where
  | on | off
deriving DecidableEq

/-- The camera, as the loop of `infrad_ctrl` and the requests see it: the configuration, the lamp,
the saturation and the button. -/
structure System where
  device : Device
  /-- `g_stInfrad_ctl.img_saturation` -/
  imgSaturation : Int
  /-- the last command that the lamp was given -/
  lamp : Lamp
  /-- the last saturation that was written to the image processor -/
  isp : Int
  resetStat : Int
  /-- what has been sent to `av_server` -/
  sent : List (List Char)

/-- What a round of the loop of `infrad_ctrl` reads from outside, and the buffer that it is given in
`reset_sys`. -/
structure Reading where
  /-- the result of `getInfradStatue` -/
  status : Int
  adcValue : Int
  imgWtoC : Int
  imgCtoW : Int
  /-- the result of `get_reset_value` -/
  reset : Int
  /-- the buffer that `malloc` yields in `reset_sys` -/
  cmd : Option (List Char)

/-! ### The lamp -/

/-- `adjust_saturation` -/
def adjustSaturation (val : Int) (n : System) : System :=
  { n with isp := if val < 0 ∨ val > 255 then n.isp else val }

/-- `set_to_Color` -/
def setToColor (n : System) : System := { adjustSaturation n.imgSaturation n with lamp := .off }

/-- `set_to_White` -/
def setToWhite (n : System) : System := { adjustSaturation 0 n with lamp := .on }

/-- The part of a round that deals with the lamp: a `status` of 1 or 2 decides alone, and otherwise
the value of the light sensor is compared with the two bounds. -/
def light (r : Reading) (n : System) : System :=
  if r.status = 1 then setToColor n
  else if r.status = 2 then setToWhite n
  else if r.adcValue < 0 then n
  else if r.adcValue > r.imgWtoC then setToColor n
  else if r.adcValue < r.imgCtoW then setToWhite n
  else n

/-- The part of a round that deals with the lamp turns it on, `setToWhite`, or off, `setToColor`, or
leaves the system `n` alone. -/
theorem light_eq (r : Reading) (n : System) :
  light r n = n ∨ light r n = setToColor n ∨ light r n = setToWhite n
  := by
  unfold light
  split
  · exact Or.inr (Or.inl rfl)
  · split
    · exact Or.inr (Or.inr rfl)
    · split
      · exact Or.inl rfl
      · split
        · exact Or.inr (Or.inl rfl)
        · split
          · exact Or.inr (Or.inr rfl)
          · exact Or.inl rfl

/-! ### The reset button -/

/-- What `reset_sys` makes of its buffer `cmd`.  The last of its texts is printed to the beginning
of the buffer, so only `#` is left of the message. -/
def resetMsg (cmd : List Char) : Except Fault (List Char) := do
  let cmd ← strcpy cmd ('$' :: decimal Msg.Key.type.code ++ '=' :: decimal tSet)
  let cmd ← strcat cmd ('&' :: decimal Msg.Key.reset.code ++ '=' :: decimal 1)
  -- printed to the beginning of the buffer, not to its end
  strcpy cmd ['#']

/-- `reset_sys`, where the connection to `av_server` succeeds: without memory for the buffer `cmd`
it does nothing. -/
def resetSys (cmd : Option (List Char)) (n : System) : Except Fault System :=
  match cmd with
  | some cmd => do
      let msg ← resetMsg cmd
      .ok { n with sent := n.sent ++ [msg] }
  | none => .ok n

/-- `reset_stat` after a reading of the button: a reading of 0 is counted, and any other one sets
the count back. -/
def counted (reset resetStat : Int) : Int := if reset = 0 then resetStat + 1 else 0

/-- The part of a round that deals with the button: with the third reading of 0, `reset_sys` is
called and the count set back. -/
def button (r : Reading) (n : System) : Except Fault System := do
  let n := { n with resetStat := counted r.reset n.resetStat }
  if n.resetStat > 2 then do
    let n ← resetSys r.cmd n
    .ok { n with resetStat := 0 }
  else .ok n

/-! ### Rounds and requests -/

/-- A round of the loop of `infrad_ctrl` as a step of the system, which has no result if an access
to the buffer is out of bounds. -/
def round (n : System) (r : Reading) : Option System :=
  match button r (light r n) with
  | .ok n' => some n'
  | .error _ => none

theorem round_some {n n' : System} {r : Reading} (h : round n r = some n') :
  button r (light r n) = .ok n'
  := by
  unfold round at h
  split at h
  · next heq =>
      obtain rfl := Option.some.inj h
      exact heq
  · contradiction

/-- What a request does to the system by the two functions on the saturation that it calls; its
other effects leave the system `n` alone. -/
def call (n : System) : Effect → System
  | .call .adjustSaturation [val] => adjustSaturation val n
  | .call .setImgSaturation [val] => { n with imgSaturation := val }
  | _ => n

/-- The request with the type `T_Set` that sets the saturation to the `values`, one after the
other. -/
def saturationRequest (values : List (List Char)) : Msg.Request :=
  (decimal Msg.Key.type.code, decimal tSet)
    :: values.map fun value => (decimal Msg.Key.saturation.code, value)

/-- What happens to the system: a round of `infrad_ctrl`, or a request that sets the saturation. -/
inductive Event where
  | round (r : Reading)
  | saturation (env : Env) (values : List (List Char))

/-- The step of the system with an event: a `round`, or a request, whose effects act on the system
once it has been answered. -/
def step (n : System) : Event → Option System
  | .round r => round n r
  | .saturation env values =>
      match Msg.processMsg env (saturationRequest values) n.device with
      | .ok reply => some (reply.effects.foldl call { n with device := reply.device })
      | .error _ => none

/-- The system behind `init_gbl` and the `set_to_Color` before the loop, whatever the lamp and the
image processor were told before. -/
def start (d : Device) (lamp : Lamp) (isp : Int) : System :=
  setToColor ⟨d, d.mem.int (.img .saturation), lamp, isp, 0, []⟩

end Infrad
