import LedStrip.Config

/-!
# Registers

The block of settings that is handed to the driver.  For each channel it also says where the driver
put the array of LEDs; before the driver is set up, and after it is released, it says nothing.
-/

namespace LedStrip.Driver

/-- An array of LEDs that the driver made: for which channel, and at which of its successful
set-ups. -/
structure Handle where
  generation : Nat
  channel : ChannelIndex
  deriving DecidableEq, Repr

/-- The settings of one channel, in the driver's terms. -/
structure ChannelRegisters where
  gpio : Int
  invert : Int
  count : Int
  brightness : Int
  stripType : Int
  /-- Where the LEDs are, if there are any. -/
  leds : Option Handle
  deriving DecidableEq, Repr

/-- The block of settings. -/
structure Registers where
  freq : UInt32
  dma : Int
  channels : Vector ChannelRegisters channelCount
  deriving DecidableEq, Repr

namespace ChannelRegisters

/-- A channel about which nothing is said. -/
def blank : ChannelRegisters := ⟨0, 0, 0, 0, 0, none⟩

/-- The largest count that the driver's integers hold. -/
def maxCount : Nat := 0x7fffffff

/-- Take over the settings of a channel.  A count that is too large stops this half way. -/
def load (r : ChannelRegisters) (index : ChannelIndex) (c : ChannelConfig) :
    ChannelRegisters × Except Error Unit :=
  let r := { r with gpio := c.gpio.toNat, invert := if c.invert then 1 else 0 }
  if maxCount < c.count.toNat then (r, .error (.invalidCount index c.count.toNat))
  else
    ({ r with
        count := c.count.toNat
        brightness := c.brightness.toNat
        stripType := c.stripType.raw.toNat
        leds := none }, .ok ())

/-- Forget where the LEDs are. -/
def forget (r : ChannelRegisters) : ChannelRegisters := { r with leds := none }

end ChannelRegisters

namespace Registers

/-- A block that says nothing. -/
def blank : Registers := ⟨0, 0, .replicate _ .blank⟩

/-- Take over the settings of some channels in order, up to the first that cannot be taken over. -/
def loadChannels (config : StripConfig) (r : Registers) :
    List ChannelIndex → Registers × Except Error Unit
  | [] => (r, .ok ())
  | i :: rest =>
    let (loaded, result) := (r.channels.get i).load i (config.channels.get i)
    let r := { r with channels := r.channels.set i loaded i.isLt }
    match result with
    | .ok () => loadChannels config r rest
    | .error e => (r, .error e)

/-- Take over a configuration. -/
def load (r : Registers) (config : StripConfig) : Registers × Except Error Unit :=
  loadChannels config { r with freq := config.freq, dma := config.dma.toNat }
    (List.finRange channelCount)

/-- Forget where the LEDs are. -/
def forget (r : Registers) : Registers := { r with channels := r.channels.map .forget }

end Registers

end LedStrip.Driver
