import LedStrip.Recent
import LedStrip.Strip.Basic

/-!
# Simulator

A backend that sends nothing and records what it would have sent.  Only the newest frames are kept,
up to a limit, but all are counted.  It can be told to answer a call with a code, as the driver does
when something is wrong; such a call changes nothing.
-/

namespace LedStrip

/-- One recorded rendering: per channel the LEDs and the bytes they were sent. -/
structure Frame where
  leds : Vector PixelBuffer channelCount
  wire : Vector (List UInt8) channelCount
  deriving DecidableEq, Repr

/-- The frame that rendering these channels makes; channels that are not given stay empty. -/
def Frame.of (channels : List Channel) : Frame where
  leds := Vector.ofFn fun i => (channels[i.val]?).elim (.blank 0) Channel.pixels
  wire := Vector.ofFn fun i => (channels[i.val]?).elim [] Channel.wire

/-- The recording backend. -/
structure Simulator where
  /-- The configuration that it was last set up for. -/
  config : Option StripConfig
  /-- The frames that are kept. -/
  recent : Recent Frame
  /-- How many frames were recorded in all. -/
  frameCount : Nat
  waitCount : Nat
  finiCount : Nat
  initCode : Int32
  renderCode : Int32
  waitCode : Int32

namespace Simulator

/-- How many frames are kept when nothing else is said. -/
def defaultFrameLimit : Nat := 1024

/-- A simulator that has recorded nothing. -/
def fresh : Simulator := ⟨none, .empty defaultFrameLimit, 0, 0, 0, 0, 0, 0⟩

/-- The frames that are kept, oldest first. -/
def frames (s : Simulator) : List Frame := s.recent.toList

/-- Keep only the newest frames from now on. -/
def withFrameLimit (s : Simulator) (limit : Nat) : Simulator :=
  { s with recent := s.recent.withLimit limit }

def withInitCode (s : Simulator) (code : Int32) : Simulator := { s with initCode := code }

def withRenderCode (s : Simulator) (code : Int32) : Simulator := { s with renderCode := code }

def withWaitCode (s : Simulator) (code : Int32) : Simulator := { s with waitCode := code }

/-- The newest frame, if one is kept. -/
def lastFrame? (s : Simulator) : Option Frame := s.recent.last?

/-- Answer a call with a code: a failure changes nothing. -/
def answer (s : Simulator) (call : Driver.Call) (code : Int32) (done : Simulator)
    (log : List Event) : Step Simulator (Except Error Unit) :=
  match Driver.check call code with
  | .ok () => ⟨done, .ok (), log⟩
  | .error e => .silent s (.error e)

/-- Record a frame. -/
def record (s : Simulator) (frame : Frame) : Simulator :=
  { s with recent := s.recent.push frame, frameCount := s.frameCount + 1 }

theorem frames_record (s : Simulator) (frame : Frame) :
    (s.record frame).frames = newest s.recent.limit (s.frames ++ [frame]) :=
  s.recent.toList_push frame

theorem frames_withFrameLimit (s : Simulator) (limit : Nat) :
    (s.withFrameLimit limit).frames = newest limit s.frames :=
  s.recent.toList_withLimit limit

instance : Backend Simulator where
  init config s :=
    s.answer .init s.initCode { s with config := some config }
      [.simulatorReady config.ledCount config.freq config.dma]
  render channels s :=
    let frame := Frame.of channels
    s.answer .render s.renderCode (s.record frame)
      [.frameRecorded s.frameCount frame.wire.toList]
  wait s := s.answer .wait s.waitCode { s with waitCount := s.waitCount + 1 } []
  fini s := .silent { s with finiCount := s.finiCount + 1 } ()
  discard s := .silent s ()

/-- Set up a strip where no driver is at hand, which is reported. -/
def createStrip (config : StripConfig) : Step Simulator (Except Error (Strip Simulator)) :=
  (Strip.create config fresh).after [.simulatorInstead]

end Simulator

end LedStrip
