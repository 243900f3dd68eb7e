import Avserver.AviSave.Delivery
import Avserver.AviSave.RecCfg
import Avserver.Msg.Boot
import Avserver.Msg.Restart
import Avserver.Msg.Loop

/-!
# The recorder follows the configuration

The numbers of the record configuration are written by requests to the server, and once when the
server starts; the recorder has flags of its own, which only the messages of `rec_cfg_set` write.
Here the requests, the messages on their way, the handler and the recorder threads run in any order
with each other.

A request that changes one of the numbers marks the configuration, and behind the loop the message
is sent with the numbers as they are then; start-up sends one as well.  So the last message that was
sent has the numbers of the configuration, and when all messages have been handled, the flags are
those numbers, the time of recording in seconds and within its limits (`recorder_follows`).
-/

namespace AviSave.Follows

open Library Library.Pairs
open Msg (Contents Device Request Env Reply Session CfgFile RecField Branch Key Field IntField IsInt
  BootEnv text Fault processMsg isSetFileChanged)
open Control (recCfgText Flags storePair asInt settled flags)

/-! ### The system -/

/-- The configuration of the server in `device`, the messages on their way to `Avi_Ctrl`, and its
handler with the recorder threads. -/
structure System where
  device : Device
  delivery : Delivery.State (List Char)
  control : Control.State

/-- A step of the system: of a request, of the sockets between the server and `Avi_Ctrl`, or of the
handler and its threads. -/
inductive Input where
  /-- a request, and what the buffer `cmd` of `rec_cfg_set` holds -/
  | request (req : Request) (env : Env) (cmd : List Char)
  /-- a call of `rec_cfg_set` on its socket, or a step of the loop of `Avi_Ctrl` -/
  | socket (ev : Delivery.Event (List Char))
  /-- a step of the handler or of a recorder thread -/
  | recorder (ev : Control.Event)

/-- `rec_cfg_set` is called with the configuration that is in memory in `d`, where its buffer holds
`cmd`. -/
def System.recCfgSet (s : System) (cmd : List Char) (d : Device) : Option System :=
  match Control.recCfgSet cmd (d.mem.int (.recCfg .enable)) (d.mem.int (.recCfg .timeLen))
    (d.mem.int (.recCfg .sch)) with
  | .ok m =>
      (Delivery.step s.delivery (.recCfgSet m)).map fun n => { s with device := d, delivery := n }
  | .error _ => none

/-- A step `ev` on the sockets, with the message that is handled by it, if it is a read. -/
def System.socket (parseVars : List Char → List Pair) (s : System)
    (ev : Delivery.Event (List Char)) : Option System :=
  match Delivery.step s.delivery ev with
  | some n =>
      match s.delivery.adds ev with
      | some m =>
          match text m with
          | .ok t =>
              (Control.step s.control (.message (Control.keysAndValues parseVars t))).map fun c =>
                { s with delivery := n, control := c }
          | .error _ => none
      | none => some { s with delivery := n }
  | none => none

/-- One step; `none` when it is not its turn.  The server handles no request while `rec_cfg_set` is
being called, and the loop of `Avi_Ctrl` does not go on while a message is being handled. -/
def step (parseVars : List Char → List Pair) (s : System) : Input → Option System
  | .request req env cmd =>
      if s.delivery.sender = .idle then
        match processMsg env req s.device with
        | .ok reply =>
            if reply.effects.any fun e => e = .recCfgSet then s.recCfgSet cmd reply.device
            else some { s with device := reply.device }
        | .error _ => none
      else none
  | .socket ev =>
      match ev with
      | .recCfgSet _ => none
      | ev =>
          if ev.ofServer ∧ s.control.handler ≠ .pairs [] then none else s.socket parseVars ev
  | .recorder ev =>
      match ev with
      | .message _ | .aviStop => none
      | ev => (Control.step s.control ev).map fun c => { s with control := c }

/-- Start-up of the camera from the `flash`, up to the loop of `av_server`, where `Avi_Ctrl` listens
and `rec_cfg_set` has been called. -/
def start (boot : BootEnv) (flash : Contents) (cmd : List Char) : Option System :=
  match Msg.restart boot flash with
  | .ok b => System.recCfgSet ⟨⟨b.mem, flash⟩, .init, Control.initState⟩ cmd ⟨b.mem, flash⟩
  | .error _ => none

/-- The calls of `connect_local` and `send_local` in the step succeed. -/
def Input.Succeeds : Input → Prop
  | .socket (.connectLocal ok) | .socket (.sendLocal ok) => ok = true
  | _ => True

instance Input.decidableSucceeds (i : Input) : Decidable i.Succeeds :=
  match i with
  | .socket (.connectLocal ok) | .socket (.sendLocal ok) => inferInstanceAs (Decidable (ok = true))
  | .socket (.recCfgSet _) | .socket .closeLocal | .socket .select | .socket (.accept _)
  | .socket .serve | .request .. | .recorder _ => isTrue trivial

/-- Nothing is being sent in `s`, `Avi_Ctrl` waits in `select`, and its handler has no message to
handle. -/
def System.Rests (s : System) : Prop :=
  s.delivery.sender = .idle ∧ s.delivery.place = .select
    ∧ Delivery.step s.delivery .select = none ∧ s.control.handler = .pairs []

/-! ### What a request does to the record configuration -/

variable {env : Env} {req : Request} {d : Device} {reply : Reply} {t u : Session}

/-- The number at the member `f` of the record configuration in `c`. -/
def recCfg (c : Contents) (f : RecField) : Int := c.int (.recCfg f)

/-- The numbers are those of an `int`, and they are as they were or the configuration is marked. -/
structure Told (c : Contents) (s : Session) : Prop where
  isInt : ∀ f, IsInt (recCfg s.mem f)
  told : isSetFileChanged s.fileChangedFlag .recCfg = true ∨ ∀ f, recCfg s.mem f = recCfg c f

/-- A `key` whose branch marks the record configuration stores one of its numbers, or is that of
`recEnable`. -/
theorem branch_of_file (key : Key) {cursor : Msg.Cursor}
    (h : key.branch.file cursor = some .recCfg) :
  (∃ f label, key.branch = .recCfg f label) ∨ key.branch = .recEnable
  := by
  have henc (a : Msg.AvFile) : some a.cfgFile ≠ some CfgFile.recCfg := by
    cases a
    all_goals simp [Msg.AvFile.cfgFile]
  have hav {p : Prop} [Decidable p] :
      (if p then some cursor.avFile.cfgFile else none) ≠ some CfgFile.recCfg := by
    split
    · apply henc
    · simp
  cases key
  all_goals
    first
    | exact Or.inl ⟨_, _, rfl⟩
    | exact Or.inr rfl
    | exact absurd h hav
    | exact absurd h.symm (Option.some_ne_none _)
    | exact absurd (Option.some.inj h) (by decide)

theorem not_loose (b : Branch) (cursor : Msg.Cursor) {f : RecField} :
  ¬ b.loose cursor (.int (.recCfg f))
  := by
  have henc (a : Msg.AvFile) : (Field.int (.recCfg f)).file ≠ some a.cfgFile := by
    cases a
    all_goals simp [Field.file, IntField.file, Msg.AvFile.cfgFile]
  intro h
  cases b
  case frameRate | bitRate | ipInterval => exact henc _ h.2.2
  case macaddr | devtype => cases h.2
  case userName =>
    obtain ⟨-, i, hi⟩ := h
    cases hi
  all_goals cases h

/-- If a number `v` is stored at a member `f` of the record configuration and this is marked, then
the session is `Told` of it. -/
theorem Told.set {c : Contents} (h : Told c t) {f : RecField} {v : Int} (hv : IsInt v) :
  Told c ((t.setInt (.recCfg f) v).setFileChanged .recCfg)
  where
  isInt := by
    intro g
    change IsInt ((t.mem.setInt (.recCfg f) v).int (.recCfg g))
    rw [Contents.int_setInt]
    split
    · apply hv
    · apply h.isInt
  told := by
    left
    change isSetFileChanged (Msg.setFileChanged t.fileChangedFlag .recCfg) .recCfg = true
    simp

/-- If the numbers of the record configuration and its mark are left alone, then the session stays
`Told`, whatever other files are marked. -/
theorem Told.congr {c : Contents} (h : Told c t) (hmem : ∀ f, recCfg u.mem f = recCfg t.mem f)
    (hmarked : isSetFileChanged t.fileChangedFlag .recCfg = true →
      isSetFileChanged u.fileChangedFlag .recCfg = true) :
  Told c u
  where
  isInt := by
    intro f
    rw [hmem]
    apply h.isInt
  told := by
    apply h.told.imp hmarked
    intro hsame f
    rw [hmem, hsame]

theorem Told.answered {c : Contents} (h : Told c t) {key : Key} {text : List Char}
    (hreply : t.reply key text = .ok u) :
  Told c u
  := by
  have hstores := Session.reply_stores (P := fun _ => False) hreply
  apply h.congr
  · intro f
    apply hstores.mem _ id
  · rw [hstores.flag]
    exact id

/-- A pair of a request keeps the session `Told`: what it changes in the record configuration, it
marks. -/
theorem item_told {c : Contents} {x : Msg.Item} (hc : t.cursor = x.cursor) (h : Told c t)
    (hrun : x.run env t = .ok u) :
  Told c u
  := by
  by_cases hfile : x.key.branch.file t.cursor = some .recCfg
  · rw [Msg.Item.run] at hrun
    obtain ⟨f, label, hbranch⟩ | hbranch := branch_of_file x.key hfile
    · rw [hbranch] at hrun
      change Msg.recBranch f label x.value t = .ok u at hrun
      unfold Msg.recBranch at hrun
      split at hrun
      · split at hrun
        · obtain rfl := Except.ok.inj hrun
          apply h.set (Msg.isInt_atoi _)
        · obtain rfl := Except.ok.inj hrun
          apply h
      · apply h.answered hrun
    · rw [hbranch] at hrun
      change Msg.recEnableBranch x.value t = .ok u at hrun
      unfold Msg.recEnableBranch at hrun
      split at hrun
      · split at hrun
        · obtain rfl := Except.ok.inj hrun
          apply h.set
          split
          · decide
          · decide
        · obtain rfl := Except.ok.inj hrun
          apply h
      · apply h.answered hrun
  · apply h.congr
    · intro f
      have hmem : u.mem (.int (.recCfg f)) = t.mem (.int (.recCfg f)) := by
        apply Branch.run_untouched x.key.marksItsFile _ (not_loose _ _) _ hrun
        · rintro file hmem heq
          obtain rfl := Option.some.inj heq
          revert hmem
          decide
        · rintro file hfile' heq
          apply hfile
          rw [hfile', ← heq]
          rfl
      apply hmem
    · intro hmarked
      by_cases hreset : x.key.branch = .reset
      · rw [Msg.Item.run, hreset] at hrun
        obtain ⟨-, rfl⟩ | ⟨-, hresets⟩ := Msg.resetBranch_resets hrun
        · apply hmarked
        · rw [hresets.flag]
          apply hmarked
      · apply (Branch.touches x.key.marksItsFile hreset hrun).marked
        apply hmarked

theorem ite_effect_flag {c : Prop} [Decidable c] {e : Msg.Effect} :
  (if c then t.effect e else t).fileChangedFlag = t.fileChangedFlag
  := by
  split
  · rfl
  · rfl

/-- If the record configuration is marked in the session, `notify` calls `rec_cfg_set`. -/
theorem notify_recCfgSet (h : isSetFileChanged t.fileChangedFlag .recCfg = true) :
  .recCfgSet ∈ (Msg.notify env t).effects
  := by
  unfold Msg.notify
  rw [if_pos (by rwa [ite_effect_flag, ite_effect_flag, ite_effect_flag])]
  apply List.mem_append_right _ (.head _)

/-- What follows the loop changes none of the numbers, and calls `rec_cfg_set` where the record
configuration is marked. -/
theorem finish_told (h : Msg.finish env t = .ok u) :
  (∀ f, recCfg u.mem f = recCfg t.mem f)
    ∧ (isSetFileChanged t.fileChangedFlag .recCfg = true → .recCfgSet ∈ u.effects)
  := by
  constructor
  · obtain ⟨s₁, s₂, htouches, hstores, hmem, -⟩ := Msg.finish_ok h
    intro f
    have hpreset : s₁.mem (.int (.recCfg f)) = t.mem (.int (.recCfg f)) := by
      apply htouches.mem id
      rintro c hc heq
      obtain rfl := Option.some.inj hc
      cases heq
    have hosd : s₂.mem (.int (.recCfg f)) = s₁.mem (.int (.recCfg f)) := by
      apply hstores.mem
      rintro ⟨-, heq⟩
      cases heq
    rw [recCfg, hmem]
    apply hosd.trans hpreset
  · intro hmarked
    obtain ⟨s₁, hs₁, h⟩ := bind_ok.mp h
    obtain ⟨s₂, hs₂, h⟩ := bind_ok.mp h
    obtain rfl := Except.ok.inj h
    have htouches : Msg.Touches (some .ptzPreset) (fun _ => False) t s₁ :=
      Msg.finishPreset_touches hs₁
    have hnotified : .recCfgSet ∈ (Msg.notify env s₁).effects :=
      notify_recCfgSet (htouches.marked hmarked)
    have hsent : .recCfgSet ∈ s₂.effects :=
      (Msg.sendOsd_adds (P := fun _ => True) (fun _ => trivial) hs₂).mem_left hnotified
    have hwritten : .recCfgSet ∈ (Msg.writeFiles s₂).effects :=
      (Msg.writeFiles_adds (P := fun _ => True) (fun _ => trivial) s₂).mem_left hsent
    have hreboot : Msg.Adds (fun _ => True) (Msg.writeFiles s₂)
        (Msg.finishReboot (Msg.writeFiles s₂)) := Msg.Adds.ite_effect fun _ => trivial
    apply hreboot.mem_left hwritten

/-- A request that is answered leaves the numbers of the record configuration as they are in `d`, or
it calls `rec_cfg_set`; they stay numbers of an `int`. -/
theorem request_told (h : processMsg env req d = .ok reply) (hint : ∀ f, IsInt (recCfg d.mem f)) :
  (∀ f, IsInt (recCfg reply.device.mem f))
    ∧ ((∀ f, recCfg reply.device.mem f = recCfg d.mem f) ∨ .recCfgSet ∈ reply.effects)
  := by
  obtain ⟨t, ht, h⟩ := bind_ok.mp h
  obtain ⟨s, hs, h⟩ := bind_ok.mp h
  obtain rfl := Except.ok.inj h
  have hstart : Told d.mem (Session.start env d) := ⟨hint, Or.inr fun _ => rfl⟩
  have hloop : Told d.mem t :=
    Msg.processPairs_invariant (I := Told d.mem) (fun _ _ _ _ hc hs hx => item_told hc hs hx) ht
      (Msg.start_at env d) hstart
  obtain ⟨hmem, heffect⟩ := finish_told hs
  constructor
  · intro f
    change IsInt (recCfg s.mem f)
    rw [hmem]
    apply hloop.isInt
  · obtain hmarked | hsame := hloop.told
    · apply Or.inr (heffect hmarked)
    · left
      intro f
      change recCfg s.mem f = _
      rw [hmem, hsame]

/-! ### What start-up leaves -/

variable {boot : BootEnv} {flash : Contents}

/-- Start-up leaves at the member `f` of the record configuration the number that `bootRecCfg`
says. -/
theorem restart_recCfg {b : Msg.Boot} (h : Msg.restart boot flash = .ok b) (f : RecField) :
  recCfg b.mem f = Msg.bootRecCfg f
  := by
  obtain ⟨b₀, -, h⟩ := bind_ok.mp h
  obtain rfl := Except.ok.inj h
  have hmem : (Msg.avServer (Msg.rtspdStart boot b₀)).mem
      = [RecField.enable, .timeLen, .sch].foldl
          (fun c f => c.setInt (.recCfg f) (Msg.bootRecCfg f)) (Msg.rtspdStart boot b₀).mem := by
    unfold Msg.avServer
    simp only
    split
    · rfl
    · rfl
  rw [recCfg, hmem]
  simp only [List.foldl_cons, List.foldl_nil, Contents.int_setInt]
  cases f
  · simp
    rfl
  · simp
    rfl
  · simp
    rfl

/-! ### The messages -/

variable {parseVars : List Char → List Pair} {s s' s₀ : System} {cmd m : List Char}

/-- The text in the buffer `m` is that of the message with the numbers of the record configuration
in `c`. -/
def Prints (c : Contents) (m : List Char) : Prop :=
  text m = .ok (recCfgText (recCfg c .enable) (recCfg c .timeLen) (recCfg c .sch))

/-- The flags as the messages `ms` leave them, handled one behind the other from `fl` on. -/
def replay (parseVars : List Char → List Pair) (fl : Flags) (ms : List (List Char)) : Flags :=
  ms.foldl (fun fl m =>
    match text m with
    | .ok t => (Control.keysAndValues parseVars t).foldl storePair fl
    | .error _ => fl) fl

/-- The flags that the record configuration in `c` asks for: recording on or off, its time in
seconds, and the bits of the schedule. -/
def flagsOf (c : Contents) : Flags :=
  ⟨recCfg c .enable, recTimeL (recCfg c .timeLen), (recCfg c .sch % 2 ^ 32).toNat⟩

/-- Behind messages of which the last one has the numbers of `c`, the flags are those that `c` asks
for. -/
theorem replay_concat (hparse : Reads parseVars) {c : Contents} (hint : ∀ f, IsInt (recCfg c f))
    (hm : Prints c m) (fl : Flags) (ms : List (List Char)) :
  replay parseVars fl (ms ++ [m]) = flagsOf c
  := by
  rw [replay, List.foldl_append, List.foldl_cons, List.foldl_nil, hm]
  simp only [Control.keysAndValues_recCfgText hparse (hint _) (hint _) (hint _)]
  rfl

/-- The message that was sent last, or is going to be sent, has the numbers of the record
configuration in `c`. -/
def Announced (c : Contents) (n : Delivery.State (List Char)) : Prop :=
  match n.sender with
  | .connect m | .send m => Prints c m
  | .idle | .close => ∃ ms m, n.sent = ms ++ [m] ∧ Prints c m

/-- What every step of the system keeps: the sockets are `Kept`, the last message has the numbers of
the configuration, and the flags are those of the messages that have been handled. -/
structure InStep (parseVars : List Char → List Pair) (s : System) : Prop where
  kept : Delivery.Kept s.delivery
  isInt : ∀ f, IsInt (recCfg s.device.mem f)
  announced : Announced s.device.mem s.delivery
  flags : settled s.control = replay parseVars (flags Control.initShared) s.delivery.handled

theorem Prints.congr {c c' : Contents} (h : Prints c m) (hsame : ∀ f, recCfg c' f = recCfg c f) :
  Prints c' m
  := by
  rw [Prints, hsame, hsame, hsame]
  apply h

/-- A call of `rec_cfg_set` with the configuration `d` puts the system in step: its message is going
to be sent. -/
theorem recCfgSet_inStep (h : s.recCfgSet cmd d = some s') (hkept : Delivery.Kept s.delivery)
    (hint : ∀ f, IsInt (recCfg d.mem f))
    (hflags : settled s.control
      = replay parseVars (flags Control.initShared) s.delivery.handled) :
  InStep parseVars s'
  := by
  unfold System.recCfgSet at h
  split at h
  · next m hm =>
      obtain ⟨n, hn, rfl⟩ := Option.map_eq_some_iff.mp h
      constructor
      · apply hkept.step hn
      · apply hint
      · simp only [Delivery.step] at hn
        split at hn
        · obtain rfl := Option.some.inj hn
          apply Msg.text_strcpy Control.nul_notMem_recCfgText hm
        · contradiction
      · rw [Delivery.step_handled hn]
        simpa [Delivery.State.adds] using hflags
  · contradiction

theorem start_inStep (h : start boot flash cmd = some s₀) : InStep parseVars s₀ := by
  unfold start at h
  split at h
  · next b hb =>
      apply recCfgSet_inStep h Delivery.kept_init
      · intro f
        rw [restart_recCfg hb]
        cases f
        · decide
        · decide
        · decide
      · rfl
  · contradiction

/-- If a message with the pairs `ps` arrives at the handler, the settled flags are those before it
with `ps` stored over them. -/
theorem message_settled {n n' : Control.State} {ps : List (Int × Int)}
    (h : Control.step n (.message ps) = some n') :
  settled n' = ps.foldl storePair (settled n)
  := by
  cases Control.stepped_of_step h with
  | message hidle =>
      rw [settled, settled, hidle]
      rfl

/-- A step on the sockets that is no call of `rec_cfg_set`, and whose calls succeed, leaves the
configuration `Announced`. -/
theorem announced_step {c : Contents} {n n' : Delivery.State (List Char)}
    {ev : Delivery.Event (List Char)} (hev : ∀ m, ev ≠ .recCfgSet m)
    (hsucceeds : (Input.socket ev).Succeeds) (hn : Delivery.step n ev = some n')
    (h : Announced c n) :
  Announced c n'
  := by
  cases hserver : ev.ofServer with
  | false =>
      cases Delivery.senderStepped_of_step hserver hn with
      | recCfgSet => exact absurd rfl (hev _)
      | connected hsender =>
          rw [Announced, hsender] at h
          apply h
      | @sent m hsender =>
          rw [Announced, hsender] at h
          unfold Delivery.State.current
          split
          · exact ⟨n.sent, m, rfl, h⟩
          · exact ⟨n.sent, m, rfl, h⟩
      | closed hsender =>
          rw [Announced, hsender] at h
          unfold Delivery.State.current
          split
          · apply h
          · apply h
      | refused | unsent => exact absurd hsucceeds Bool.false_ne_true
  | true =>
      obtain ⟨hsender, hsent⟩ := Delivery.step_sameSender hserver hn
      rw [Announced, hsender, hsent]
      apply h

theorem step_inStep {i : Input} (h : InStep parseVars s) (hsucceeds : i.Succeeds)
    (hstep : step parseVars s i = some s') :
  InStep parseVars s'
  := by
  cases i with
  | request req env cmd =>
      simp only [step] at hstep
      split at hstep
      · next hidle =>
          split at hstep
          · next reply hreply =>
              obtain ⟨hint, htold⟩ := request_told hreply h.isInt
              split at hstep
              · apply recCfgSet_inStep hstep h.kept hint h.flags
              · next hnone =>
                  obtain rfl := Option.some.inj hstep
                  have hsame : ∀ f, recCfg reply.device.mem f = recCfg s.device.mem f := by
                    apply htold.resolve_right
                    intro hmem
                    apply hnone
                    exact List.any_eq_true.mpr ⟨_, hmem, decide_eq_true rfl⟩
                  have hannounced := h.announced
                  rw [Announced, hidle] at hannounced
                  obtain ⟨ms, m, hsent, hm⟩ := hannounced
                  refine ⟨h.kept, hint, ?_, h.flags⟩
                  rw [Announced, hidle]
                  exact ⟨ms, m, hsent, hm.congr hsame⟩
          · contradiction
      · contradiction
  | socket ev =>
      simp only [step] at hstep
      split at hstep
      · contradiction
      · next hev =>
          split at hstep
          · contradiction
          · unfold System.socket at hstep
            split at hstep
            · next n hn =>
                have hannounced := announced_step hev hsucceeds hn h.announced
                have hhandled := Delivery.step_handled hn
                split at hstep
                · next m hadds =>
                    rw [hadds] at hhandled
                    split at hstep
                    · next t ht =>
                        obtain ⟨c, hc, rfl⟩ := Option.map_eq_some_iff.mp hstep
                        refine ⟨h.kept.step hn, h.isInt, hannounced, ?_⟩
                        change settled c = replay parseVars _ n.handled
                        rw [message_settled hc, h.flags, hhandled, replay, replay, Option.toList_some,
                          List.foldl_append, List.foldl_cons, List.foldl_nil, ht]
                    · contradiction
                · next hadds =>
                    obtain rfl := Option.some.inj hstep
                    rw [hadds, Option.toList_none, List.append_nil] at hhandled
                    refine ⟨h.kept.step hn, h.isInt, hannounced, ?_⟩
                    change settled s.control = replay parseVars _ n.handled
                    rw [h.flags, hhandled]
            · contradiction
  | recorder ev =>
      simp only [step] at hstep
      split at hstep
      · contradiction
      · contradiction
      · next hmessage hstop =>
          obtain ⟨c, hc, rfl⟩ := Option.map_eq_some_iff.mp hstep
          refine ⟨h.kept, h.isInt, h.announced, ?_⟩
          change settled c = _
          rw [Control.step_settled hmessage hc, h.flags]

/-- In every run from the start of the camera, with requests, messages, handler and recorder threads
in any order, whenever the system `Rests` the recorder's flags are the numbers of the record
configuration, the time of recording in seconds and within its limits. -/
theorem recorder_follows (hparse : Reads parseVars) (hstart : start boot flash cmd = some s₀)
    {is : List Input} (hrun : Run (step parseVars) (fun _ i => Input.Succeeds i) s₀ is s)
    (hrests : s.Rests) :
  s.control.shared.gRecEnable = s.device.mem.int (.recCfg .enable)
    ∧ asInt s.control.shared.gRecSchdule = s.device.mem.int (.recCfg .sch)
    ∧ s.control.shared.gRecTimeL
        = 60 * max minRecTimeLen (min (s.device.mem.int (.recCfg .timeLen)) maxRecTimeLen)
  := by
  have hinStep : InStep parseVars s :=
    hrun.invariant (fun _ _ _ h hi hstep => step_inStep h hi hstep) (start_inStep hstart)
  obtain ⟨hsender, hplace, hwaits, hhandler⟩ := hrests
  have hhandled := hinStep.kept.handled_eq hsender hplace hwaits
  have hannounced := hinStep.announced
  rw [Announced, hsender] at hannounced
  obtain ⟨ms, m, hsent, hm⟩ := hannounced
  have hflags : flags s.control.shared = flagsOf s.device.mem := by
    have hsettled := hinStep.flags
    rw [hhandled, hsent, replay_concat hparse hinStep.isInt hm, settled, hhandler] at hsettled
    apply hsettled
  obtain ⟨henable, htime, hschd⟩ := Flags.mk.inj hflags
  rw [henable, htime, hschd, Control.asInt_bits (hinStep.isInt .sch), Control.recTimeL_eq]
  exact ⟨rfl, rfl, rfl⟩

/-- The inputs with which a message is sent, read and handled, by the steps `handling`, and its
connection is closed. -/
def delivered (handling : List Control.Event) : List Input :=
  [.socket (.connectLocal true), .socket .select, .socket (.accept true),
    .socket (.sendLocal true), .socket .closeLocal, .socket .select, .socket .serve]
    ++ handling.map .recorder
    ++ List.replicate 4 (.socket .serve) ++ [.socket .select] ++ List.replicate 5 (.socket .serve)

/-- A run in which the recorder is started with the message of start-up, and then told of files of
three minutes and of another schedule. -/
theorem recorder_follows_schedule :
  ∃ s₀ s, start .idle Contents.blank (List.replicate 128 'x') = some s₀
    ∧ Run (step parse) (fun _ i => Input.Succeeds i) s₀
        (delivered [.pair, .enableTest, .create true, .pair, .pair]
          ++ .request (Msg.recCfgRequest "1" "3" "-2") .idle (List.replicate 128 'y')
          :: delivered [.pair, .enableTest, .create false, .pair, .pair]) s
    ∧ s.control.shared.gRecTimeL = 180 ∧ asInt s.control.shared.gRecSchdule = -2
  := by
  obtain ⟨s₀, hstart, hexec⟩ := (Option.any_eq_true _ _).mp (show
    (start .idle Contents.blank (List.replicate 128 'x')).any (fun s₀ =>
      (exec (step parse) (fun _ i => Input.Succeeds i) s₀
        (delivered [.pair, .enableTest, .create true, .pair, .pair]
          ++ .request (Msg.recCfgRequest "1" "3" "-2") .idle (List.replicate 128 'y')
          :: delivered [.pair, .enableTest, .create false, .pair, .pair])).any fun s =>
        s.delivery.sender = .idle && s.delivery.place = .select
          && (Delivery.step s.delivery .select).isNone && s.control.handler = .pairs []
          && s.device.mem.int (.recCfg .timeLen) = 3 && s.device.mem.int (.recCfg .sch) = -2)
      = true by decide +kernel)
  obtain ⟨s, hrun, hend⟩ := Run.exists_of_exec _ _ _ _ _ hexec
  simp only [Bool.and_eq_true, decide_eq_true_eq, Option.isNone_iff_eq_none] at hend
  obtain ⟨⟨⟨⟨⟨hsender, hplace⟩, hwaits⟩, hhandler⟩, htimeLen⟩, hsch⟩ := hend
  obtain ⟨-, hschdule, htime⟩ :=
    recorder_follows parse_render hstart hrun ⟨hsender, hplace, hwaits, hhandler⟩
  rw [htimeLen] at htime
  rw [hsch] at hschdule
  exact ⟨s₀, s, hstart, hrun, htime, hschdule⟩

end AviSave.Follows
