import LedStrip.Config.Text
import LedStrip.Program
import LedStrip.Text.Shown

/-!
# Events

What the library reports while it works, as values: the log of a run is a list of events.  Each
event has a level and a wording, and a reader of the log chooses from which level on it is shown.

A step is one operation on a thing that has state: what the state is afterwards, what the operation
returned, and what was reported, in order.  The state may change also when the operation returns an
error.
-/

namespace LedStrip

/-- How severe an event is, the most severe first. -/
inductive Level where
  | error
  | warn
  | info
  | debug
  | trace
  deriving DecidableEq, Repr

namespace Level

/-- The rank of a level: the most severe one comes first. -/
def rank : Level → Nat
  | error => 1
  | warn => 2
  | info => 3
  | debug => 4
  | trace => 5

def label : Level → String
  | error => "ERROR"
  | warn => "WARN"
  | info => "INFO"
  | debug => "DEBUG"
  | trace => "TRACE"

end Level

/-- What is reported. -/
inductive Event where
  /-- A write past the end of a row of LEDs. -/
  | ignoredWrite (index length : Nat)
  /-- The simulator recorded a frame. -/
  | frameRecorded (number : Nat) (wire : List (List UInt8))
  | simulatorReady (ledCount : Nat) (freq : UInt32) (dma : UInt8)
  | driverReady (freq : UInt32) (dma : UInt8)
  | driverReleased
  /-- A strip works; `channel` is the one that is drawn on. -/
  | stripReady (channel : ChannelConfig) (freq : UInt32) (dma : UInt8)
  | stripReleased
  | configLoaded (path : String) (config : StripConfig)
  /-- A strip is set up on the simulator for want of a driver. -/
  | simulatorInstead
  /-- The same, in the words of the command line. -/
  | simulating
  /-- A program has no LEDs to play on. -/
  | programSkipped (program : Program)
  | programStarted (program : Program)
  | greeting
  | quitHint
  | clearHint
  | shutDown
  | failed (error : Error)

namespace Event

/-- The level of an event. -/
def level : Event → Level
  | ignoredWrite .. | frameRecorded .. => .trace
  | simulatorReady .. | driverReady .. | driverReleased | stripReleased | configLoaded ..
  | programSkipped _ => .debug
  | stripReady .. | programStarted _ | greeting | quitHint | clearHint | shutDown => .info
  | simulatorInstead | simulating => .warn
  | failed _ => .error

/-- Two lower-case hexadecimal digits. -/
def hexByte (b : UInt8) : String :=
  let digits := Nat.toDigits 16 b.toNat
  String.ofList (if digits.length < 2 then '0' :: digits else digits)

/-- Bytes in brackets. -/
def hexList (bytes : List UInt8) : String := "[" ++ ", ".intercalate (bytes.map hexByte) ++ "]"

/-- The wording of an event. -/
def message : Event → String
  | ignoredWrite index length =>
    "Ignoring write to LED " ++ toString index ++ " of " ++ toString length
  | frameRecorded number wire =>
    "Frame " ++ toString number ++ ": [" ++ ", ".intercalate (wire.map hexList) ++ "]"
  | simulatorReady ledCount freq dma =>
    "Simulated strip initialized: " ++ toString ledCount ++ " LEDs @ " ++ toString freq ++
      " Hz, DMA " ++ toString dma
  | driverReady freq dma =>
    "ws2811_init ok (freq " ++ toString freq ++ ", dma " ++ toString dma ++ ")"
  | driverReleased => "ws2811_fini done"
  | stripReady channel freq dma =>
    "Strip ready: " ++ toString channel.count ++ " LEDs on GPIO " ++ toString channel.gpio ++
      " (" ++ channel.stripType.name ++ "), " ++ toString freq ++ " Hz, DMA " ++ toString dma
  | stripReleased => "Releasing strip"
  | configLoaded path config => "Loaded strip config from " ++ path ++ ": " ++ config.inspect
  | simulatorInstead => "Built without the 'hardware' feature; rendering to the simulator"
  | simulating => "Built without the 'hardware' feature; simulating"
  | programSkipped program => "Skipping " ++ program.title ++ ": no LEDs"
  | programStarted program => program.title ++ " animation"
  | greeting => "WS281x strand test v0.1.0"
  | quitHint => "Press Ctrl-C to quit."
  | clearHint => "Use \"-c\" argument to clear LEDs on exit"
  | shutDown => "Shutting down cleanly."
  | failed error => error.message

/-- An event as a line of the log. -/
def line (e : Event) : String := e.level.label ++ " " ++ Text.tame e.message

/-- The lines that an event takes up in the log: a message may break the line. -/
def lines (e : Event) : List String := e.line.splitOn "\n"

/-- An event as a line of a log whose levels stand right-aligned in five columns. -/
def alignedLine (e : Event) : String :=
  String.ofList (List.replicate (5 - e.level.label.length) ' ') ++ e.line

/-- The events of a log that a reader at this level sees. -/
def visible (level : Level) (log : List Event) : List Event :=
  log.filter fun e => e.level.rank ≤ level.rank

/-- The events of writes that missed a row of LEDs. -/
def ignoredWrites (length : Nat) (indices : List Nat) : List Event :=
  indices.map fun i => ignoredWrite i length

end Event

/-! ## Steps -/

/-- The outcome of an operation. -/
structure Step (σ ρ : Type) where
  state : σ
  result : ρ
  log : List Event

namespace Step

variable {σ τ ρ : Type}

/-- A step that reports nothing. -/
def silent (state : σ) (result : ρ) : Step σ ρ := ⟨state, result, []⟩

/-- A step of a part, as a step of the whole. -/
def lift (f : σ → τ) (s : Step σ ρ) : Step τ ρ := ⟨f s.state, s.result, s.log⟩

/-- A step with events reported before it. -/
def after (events : List Event) (s : Step σ ρ) : Step σ ρ := { s with log := events ++ s.log }

end Step

end LedStrip
