import LedStrip.Proofs.Config.Validation
import LedStrip.Proofs.Driver.Code
import LedStrip.Proofs.Simulator.Newest
import LedStrip.Simulator

/-!
# What the simulator answers

A call that is answered with a failure changes nothing and reports nothing (`state_answer`,
`log_answer`).  A frame holds each channel as it is (`Frame.leds_of`, `Frame.wire_of`).
-/

namespace LedStrip

/-! ## Frames -/

namespace Frame

theorem leds_of (channels : Vector Channel channelCount) (i : ChannelIndex) :
    (of channels.toList).leds.get i = (channels.get i).pixels := by
  rw [of, get_ofFn, getElem?_toList]
  rfl

theorem wire_of (channels : Vector Channel channelCount) (i : ChannelIndex) :
    (of channels.toList).wire.get i = (channels.get i).wire := by
  rw [of, get_ofFn, getElem?_toList]
  rfl

end Frame

namespace Simulator

variable (s : Simulator)

/-! ## Calls -/

theorem answer_eq (call : Driver.Call) (code : Int32) (done : Simulator) (log : List Event) :
    s.answer call code done log =
      ⟨if code = 0 then done else s, Driver.check call code, if code = 0 then log else []⟩ := by
  unfold answer
  by_cases fine : code = 0
  · rw [(Driver.check_eq_ok_iff ..).2 fine, if_pos fine, if_pos fine]
  · rw [Driver.check_of_ne_zero fine, if_neg fine, if_neg fine]
    rfl

theorem result_answer (call : Driver.Call) (code : Int32) (done : Simulator) (log : List Event) :
    (s.answer call code done log).result = Driver.check call code :=
  congrArg Step.result (s.answer_eq ..)

theorem state_answer (call : Driver.Call) (code : Int32) (done : Simulator) (log : List Event) :
    (s.answer call code done log).state = if code = 0 then done else s :=
  congrArg Step.state (s.answer_eq ..)

theorem log_answer (call : Driver.Call) (code : Int32) (done : Simulator) (log : List Event) :
    (s.answer call code done log).log = if code = 0 then log else [] :=
  congrArg Step.log (s.answer_eq ..)

/-- A rendering changes neither the answers nor the limit. -/
theorem settings_render (channels : List Channel) :
    (Backend.render channels s).state.renderCode = s.renderCode ∧
      (Backend.render channels s).state.waitCode = s.waitCode ∧
      (Backend.render channels s).state.recent.limit = s.recent.limit := by
  have state := s.state_answer .render s.renderCode (s.record (.of channels))
    [.frameRecorded s.frameCount (Frame.of channels).wire.toList]
  change (Backend.render channels s).state = _ at state
  rw [state]
  split
  · exact ⟨rfl, rfl, Recent.limit_push ..⟩
  · exact ⟨rfl, rfl, rfl⟩

/-- Neither does waiting. -/
theorem settings_wait :
    (Backend.wait s).state.renderCode = s.renderCode ∧
      (Backend.wait s).state.waitCode = s.waitCode ∧
      (Backend.wait s).state.recent.limit = s.recent.limit := by
  have state := s.state_answer .wait s.waitCode { s with waitCount := s.waitCount + 1 } []
  change (Backend.wait s).state = _ at state
  rw [state]
  split <;> exact ⟨rfl, rfl, rfl⟩

/-! ## Recording -/

/-- As long as any frames are kept, the one that was recorded last is the newest. -/
theorem lastFrame?_record (room : 0 < s.recent.limit) (frame : Frame) :
    (s.record frame).lastFrame? = some frame := by
  rw [lastFrame?, Recent.last?_eq, ← frames, frames_record, getLast?_newest room,
    List.getLast?_concat]

end Simulator

end LedStrip
