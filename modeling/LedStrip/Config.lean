import LedStrip.Error
import LedStrip.StripType

/-!
# Configuration

The settings of a strip: signal frequency, DMA channel, and for each of the two PWM channels its
pin, number of LEDs, brightness and strip type.  `validate` accepts exactly the settings that the
driver can work with and otherwise reports the first one that is wrong.
-/

namespace LedStrip

/-- The driver has two PWM channels. -/
abbrev channelCount : Nat := 2

/-- A PWM channel. -/
abbrev ChannelIndex := Fin channelCount

/-- The settings of one channel. -/
structure ChannelConfig where
  /-- The pin that carries the signal, zero if the channel is not used. -/
  gpio : UInt8
  /-- Whether the signal is inverted, for level shifters that invert it again. -/
  invert : Bool
  /-- The number of LEDs, zero if the channel is not used. -/
  count : UInt64
  /-- The brightness that is applied when the LEDs are sent. -/
  brightness : UInt8
  stripType : StripType
  deriving DecidableEq, Repr

namespace ChannelConfig

/-- A channel that is not used. -/
def unused : ChannelConfig := ⟨0, false, 0, 255, .rgb⟩

instance : Inhabited ChannelConfig := ⟨unused⟩

/-- A channel with so many LEDs on a pin. -/
def of (count : UInt64) (gpio : UInt8) : ChannelConfig :=
  { unused with count := count, gpio := gpio }

/-- A channel is used when it has LEDs. -/
def isUsed (c : ChannelConfig) : Bool := c.count != 0

end ChannelConfig

/-- The settings of a strip. -/
structure StripConfig where
  /-- Signal frequency in hertz. -/
  freq : UInt32
  /-- A DMA channel that nothing else uses. -/
  dma : UInt8
  channels : Vector ChannelConfig channelCount
  deriving DecidableEq, Repr

namespace StripConfig

def minFreq : UInt32 := 400000

def maxFreq : UInt32 := 800000

def maxDma : UInt8 := 14

/-- The most LEDs on one channel. -/
def maxCount : Nat := 65536

/-- The pins that can carry a channel's signal; pin zero stands for none. -/
def gpios : Vector (List UInt8) channelCount := #v[[0, 12, 18, 40, 52], [0, 13, 19, 41, 53]]

/-- The settings when nothing is said: no LEDs. -/
def default : StripConfig := ⟨maxFreq, 10, .replicate _ .unused⟩

instance : Inhabited StripConfig := ⟨default⟩

/-- One row of LEDs on the first channel. -/
def single (count : UInt64) (gpio : UInt8) : StripConfig :=
  { default with channels := #v[.of count gpio, .unused] }

/-! ## Changing settings -/

def withFreq (c : StripConfig) (freq : UInt32) : StripConfig := { c with freq := freq }

def withDma (c : StripConfig) (dma : UInt8) : StripConfig := { c with dma := dma }

/-- Replace the settings of one channel. -/
def withChannel (c : StripConfig) (index : Nat) (channel : ChannelConfig) :
    Except Error StripConfig :=
  if h : index < channelCount then .ok { c with channels := c.channels.set index channel h }
  else .error (.invalidChannel index)

/-- Give both channels a brightness. -/
def withBrightness (c : StripConfig) (brightness : UInt8) : StripConfig :=
  { c with channels := c.channels.map fun ch => { ch with brightness := brightness } }

/-- Give both channels a strip type. -/
def withStripType (c : StripConfig) (stripType : StripType) : StripConfig :=
  { c with channels := c.channels.map fun ch => { ch with stripType := stripType } }

/-- Invert the signal of both channels, or neither. -/
def withInvert (c : StripConfig) (invert : Bool) : StripConfig :=
  { c with channels := c.channels.map fun ch => { ch with invert := invert } }

/-! ## Questions -/

/-- The number of LEDs on both channels. -/
def ledCount (c : StripConfig) : Nat :=
  c.channels.toList.foldl (fun n ch => n + ch.count.toNat) 0

/-- The first channel with LEDs. -/
def firstUsed? (c : StripConfig) : Option ChannelIndex :=
  (List.finRange channelCount).find? fun i => (c.channels.get i).isUsed

/-! ## Validation -/

/-- Whether a pin can carry the signal of a channel. -/
def pinFits (index : ChannelIndex) (channel : ChannelConfig) : Bool :=
  (gpios.get index).contains channel.gpio && !(channel.isUsed && channel.gpio == 0)

/-- Check one channel: its number of LEDs, then its pin. -/
def validateChannel (index : ChannelIndex) (channel : ChannelConfig) : Except Error Unit :=
  if maxCount < channel.count.toNat then .error (.invalidCount index channel.count.toNat)
  else if pinFits index channel then .ok ()
  else .error (.invalidGpio index channel.gpio)

/-- Check the settings in order: frequency, DMA channel, each channel, and that there are LEDs. -/
def validate (c : StripConfig) : Except Error Unit := do
  if c.freq < minFreq ∨ maxFreq < c.freq then throw (.invalidFrequency c.freq)
  if maxDma < c.dma then throw (.invalidDma c.dma)
  validateChannel 0 (c.channels.get 0)
  validateChannel 1 (c.channels.get 1)
  if c.firstUsed?.isNone then throw .noChannels

end StripConfig

end LedStrip
