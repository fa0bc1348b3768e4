import LedStrip.Proofs.Driver.Controller
import LedStrip.Proofs.Simulator.Answers
import LedStrip.Proofs.Strip.Twins

/-!
# The controller and the simulator agree

A strip on a controller whose device makes what is asked for, and a strip on a simulator, set up in
the same way and answered with the same codes.  `Agree` relates the two; they are twins
(`Agree.twins`), so whole runs return the same on both (`Agree.run`), and a rendering that succeeds
sends the device what the simulator records (`Agree.sent`).
-/

namespace LedStrip.Driver

namespace Controller

/-! ## Handing all LEDs over -/

/-- Each channel has an array for all its LEDs.  What is in it does not matter. -/
structure Ready (c : Controller) (channels : Vector Channel channelCount) : Prop where
  backed : Backed c.registers c.device
  room : ∀ i : ChannelIndex, ∃ p, c.leds? i = some p ∧ p.length = (channels.get i).pixels.length

variable {c : Controller} {channels : Vector Channel channelCount}

/-- Handing over leaves exactly the LEDs of each channel in its array, whatever was there. -/
theorem Ready.leds?_handOver (ready : Ready c channels) (i : ChannelIndex) :
    (c.handOver channels.toList).leds? i = some (channels.get i).pixels := by
  obtain ⟨p, kept, length⟩ := ready.room i
  rw [Controller.leds?_handOver ready.backed, kept, Option.map_some, PixelBuffer.copy_toList length]

/-- All channels arrive at the device as they are. -/
theorem Ready.getElem?_sent (ready : Ready c channels) (i : ChannelIndex) :
    (c.handOver channels.toList).sent[i.val]? =
      some ⟨(channels.get i).brightness.toNat, some (channels.get i).pixels.toList⟩ := by
  rw [getElem?_sent_handOver ready.backed, ready.leds?_handOver, Option.map_some]

theorem Ready.render (ready : Ready c channels) :
    Ready (c.render channels.toList).state channels := by
  refine ⟨backed_render ready.backed _, fun i => ⟨(channels.get i).pixels, ?_, rfl⟩⟩
  rw [render_eq ready.backed]
  exact ready.leds?_handOver i

end Controller

/-! ## Agreement -/

/-- For each channel the device was sent the LEDs of a frame, and the brightness that the bytes of
the frame are dimmed to. -/
def Matches (channels : Vector Channel channelCount) (rendered : List Rendered) (frame : Frame) :
    Prop :=
  ∀ i : ChannelIndex,
    let channel := channels.get i
    let leds := (frame.leds.get i).toList
    rendered[i.val]? = some ⟨channel.brightness.toNat, some leds⟩ ∧
      frame.wire.get i = channel.config.stripType.encode leds channel.brightness

/-- A strip on a controller and a strip on a simulator to which the same happened. -/
structure Agree (s : Strip Controller) (t : Strip Simulator) : Prop where
  face : s.face = t.face
  ready : s.backend.Ready s.channels
  renderCode : s.backend.device.renderCode = t.backend.renderCode
  waitCode : s.backend.device.waitCode = t.backend.waitCode
  /-- The simulator keeps what it records. -/
  keeps : 0 < t.backend.recent.limit

namespace Agree

open Controller

variable {s : Strip Controller} {t : Strip Simulator}

theorem channels (agree : Agree s t) : s.channels = t.channels :=
  congrArg Strip.channels agree.face

theorem render (agree : Agree s t) :
    s.render.result = t.render.result ∧ Agree s.render.state t.render.state := by
  have result := result_render s.backend s.channels.toList
  obtain ⟨renderCode, waitCode⟩ := codes_render s.backend s.channels.toList
  obtain ⟨renderCode', waitCode', limit⟩ := t.backend.settings_render t.channels.toList
  constructor
  · rw [agree.renderCode] at result
    exact result.trans (Simulator.result_answer ..).symm
  · refine ⟨agree.face, agree.ready.render, ?_, ?_, ?_⟩
    · exact renderCode.trans (agree.renderCode.trans renderCode'.symm)
    · exact waitCode.trans (agree.waitCode.trans waitCode'.symm)
    · exact lt_of_lt_of_eq agree.keeps limit.symm

theorem wait (agree : Agree s t) :
    s.wait.result = t.wait.result ∧ Agree s.wait.state t.wait.state := by
  obtain ⟨renderCode, waitCode, limit⟩ := t.backend.settings_wait
  constructor
  · exact (congrArg (check .wait) agree.waitCode).trans (Simulator.result_answer ..).symm
  · refine ⟨agree.face, ⟨?_, agree.ready.room⟩, ?_, ?_, ?_⟩
    · exact agree.ready.backed.keep rfl rfl
    · exact agree.renderCode.trans renderCode.symm
    · exact agree.waitCode.trans waitCode.symm
    · exact lt_of_lt_of_eq agree.keeps limit.symm

/-- No moves tell a strip on a controller and one on a simulator apart. -/
theorem twins : Strip.Twins Agree where
  face := face
  redrawn agree same backend backend' lengths := by
    obtain ⟨-, ⟨backed, room⟩, renderCode, waitCode, keeps⟩ := agree
    rw [← backend] at backed renderCode waitCode
    rw [← backend'] at renderCode waitCode keeps
    -- The LEDs may have changed, but not how many there are, so the arrays still have room.
    refine ⟨same, ⟨backed, fun i => ?_⟩, renderCode, waitCode, keeps⟩
    obtain ⟨p, kept, length⟩ := room i
    exact ⟨p, backend ▸ kept, length.trans (lengths i).symm⟩
  render := render
  wait := wait
  answerWith call code agree := by
    obtain ⟨face, ⟨backed, room⟩, renderCode, waitCode, keeps⟩ := agree
    cases call with
    | init => exact ⟨face, ⟨backed, room⟩, renderCode, waitCode, keeps⟩
    | render => exact ⟨face, ⟨backed, room⟩, rfl, waitCode, keeps⟩
    | wait => exact ⟨face, ⟨backed, room⟩, renderCode, rfl, keeps⟩

theorem run (agree : Agree s t) (moves : List Strip.Move) :
    (s.run moves).result = (t.run moves).result ∧
      Agree (s.run moves).state (t.run moves).state :=
  twins.run agree moves

/-- A rendering that succeeds sends the device what the simulator records. -/
theorem sent (agree : Agree s t) (fine : t.render.result = .ok ()) :
    ∃ rendered frame,
      s.render.state.backend.device.calls = s.backend.device.calls ++ [.render rendered 0] ∧
      t.render.state.backend = t.backend.record frame ∧
      t.render.state.backend.lastFrame? = some frame ∧
      Matches t.channels rendered frame := by
  have code : t.backend.renderCode = 0 :=
    (check_eq_ok_iff ..).1 ((Simulator.result_answer ..).symm.trans fine)
  have recorded : t.render.state.backend = t.backend.record (.of t.channels.toList) :=
    (Simulator.state_answer ..).trans (if_pos code)
  refine ⟨(s.backend.handOver s.channels.toList).sent, .of t.channels.toList, ?_, recorded, ?_,
    fun i => ⟨?_, ?_⟩⟩
  · have calls := calls_render agree.ready.backed s.channels.toList
    rw [agree.renderCode, code] at calls
    exact calls
  · rw [recorded]
    exact Simulator.lastFrame?_record _ agree.keeps _
  · rw [agree.ready.getElem?_sent, agree.channels, Frame.leds_of]
  · rw [Frame.leds_of, Frame.wire_of]
    rfl

/-! ## Setting up -/

/-- What is set up with success agrees. -/
theorem blank {config : StripConfig} (valid : config.validate = .ok ()) (active : ChannelIndex) :
    Agree (.blank config active ((Controller.of Device.fresh).init config).state)
      (.blank config active (Backend.init config Simulator.fresh).state) := by
  obtain ⟨-, -, ⟨arrays, frame⟩, made⟩ := init_of_done (c := Controller.of Device.fresh)
    (Registers.result_load_of_valid valid _) rfl
  refine ⟨rfl, ⟨?_, fun i => ?_⟩, ?_, ?_, Nat.succ_pos _⟩
  · exact backed_init (.of_leds_none Registers.leds_blank) config
  · refine ⟨.blank (config.channels.get i).count.toNat, (made i).2.trans ?_, ?_⟩
    · simp [Controller.of, Device.fresh, Device.allotment, Device.Allocation.size?, Registers.of,
        ChannelRegisters.of]
    · simp [Strip.blank, Channel.blank]
  · exact congrArg Device.renderCode frame
  · exact congrArg Device.waitCode frame

end Agree

/-- Whatever the configuration, the answers and the moves are: a strip is set up on the controller
if and only if it is on the simulator, with the same error if not; all moves return the same; and
at each rendering that succeeds, the device is sent the LEDs of the frame that is recorded, with
the brightness that its bytes are dimmed to. -/
theorem backends_agree (config : StripConfig) (code : Int32) (moves : List Strip.Move) :
    match (Strip.create config (Controller.of { Device.fresh with initCode := code })).result,
      (Strip.create config (Simulator.fresh.withInitCode code)).result with
    | .error e, .error e' => e = e'
    | .ok s, .ok t =>
      (s.run moves).result = (t.run moves).result ∧
      (s.run moves).state.face = (t.run moves).state.face ∧
      ∀ before q after, moves = before ++ .ask q :: after → q.call? = some .render →
        let driven := (s.run before).state
        let simulated := (t.run before).state
        (simulated.handle q).result = .ok () →
        ∃ rendered frame,
          (driven.handle q).state.backend.device.calls =
            driven.backend.device.calls ++ [.render rendered 0] ∧
          (simulated.handle q).state.backend = simulated.backend.record frame ∧
          (simulated.handle q).state.backend.lastFrame? = some frame ∧
          Matches simulated.channels rendered frame
    | _, _ => False := by
  cases valid : config.validate with
  | error e =>
    rw [Strip.create_of_invalid valid, Strip.create_of_invalid valid]
    rfl
  | ok =>
    obtain ⟨active, first⟩ := StripConfig.exists_firstUsed_of_valid valid
    have created := (Strip.create_of_valid valid first
      (Controller.of { Device.fresh with initCode := code })).2
    have created' := (Strip.create_of_valid valid first (Simulator.fresh.withInitCode code)).2
    have answer : (Backend.init config
        (Controller.of { Device.fresh with initCode := code })).result = check .init code :=
      Controller.result_init_of_valid valid _
    have answer' : (Backend.init config (Simulator.fresh.withInitCode code)).result =
        check .init code :=
      Simulator.result_answer ..
    rw [created, created', answer, answer']
    by_cases fine : code = 0
    · subst fine
      change _ ∧ _ ∧ _
      have agree := Agree.blank valid active
      refine ⟨(agree.run moves).1, (agree.run moves).2.face, fun before q after _ call => ?_⟩
      intro driven simulated done
      rw [simulated.handle_of_render call] at done ⊢
      rw [driven.handle_of_render call]
      exact (agree.run before).2.sent done
    · rw [check_of_ne_zero fine]
      rfl

/-- After a rendering that failed, the next one sends the dimmed LED that is recorded. -/
theorem backends_agree_again :
    let config := StripConfig.single 1 18
    let before : List Strip.Move :=
      [.ask (.write (.set 0 (.rgb 200 100 50))), .ask (.brightness 127), .answer .render (-1),
        .ask .show, .answer .render 0]
    ∃ s t,
      (Strip.create config (Controller.of { Device.fresh with initCode := 0 })).result = .ok s ∧
      (Strip.create config (Simulator.fresh.withInitCode 0)).result = .ok t ∧
      ((t.run before).state.handle .show).result = .ok () ∧
      ∃ rendered frame,
        ((s.run before).state.handle .show).state.backend.device.calls =
          (s.run before).state.backend.device.calls ++ [.render rendered 0] ∧
        ((t.run before).state.handle .show).state.backend.lastFrame? = some frame ∧
        rendered[0]? = some ⟨((t.run before).state.channels.get 0).brightness.toNat,
          some (frame.leds.get 0).toList⟩ := by
  intro config before
  have agree := backends_agree config 0 (before ++ [.ask .show])
  have driven : (Strip.create config (Controller.of { Device.fresh with initCode := 0 })).result =
      .ok (.blank config 0 ((Controller.of Device.fresh).init config).state) :=
    (Strip.create_of_valid rfl rfl _).2
  have simulated : (Strip.create config (Simulator.fresh.withInitCode 0)).result =
      .ok (.blank config 0 (Backend.init config Simulator.fresh).state) :=
    (Strip.create_of_valid rfl rfl _).2
  rw [driven, simulated] at agree
  obtain ⟨rendered, frame, called, -, last, same⟩ := agree.2.2 before .show [] rfl rfl rfl
  exact ⟨_, _, driven, simulated, rfl, rendered, frame, called, last, (same 0).1⟩

end LedStrip.Driver
