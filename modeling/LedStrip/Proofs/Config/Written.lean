import LedStrip.Config.Text
import LedStrip.Proofs.Json.Scheme

/-!
# What configuration files write

A file writes some settings of a strip and leaves the others out.  `StripConfig.Partial` holds the
settings that are written, `Partial.config` is what they mean, and `StripConfig.scheme` says how
they are spelled; likewise for the channels.  `StripConfig.WrittenTwice` are the texts in which one
object writes the same field twice.
-/

namespace LedStrip

namespace ChannelConfig

/-- A setting of a channel. -/
inductive Setting
  | gpio (n : UInt8)
  | invert (b : Bool)
  | count (n : UInt64)
  | brightness (n : UInt8)
  | stripType (t : StripType)

def Setting.name : Setting → String
  | gpio _ => "gpio"
  | invert _ => "invert"
  | count _ => "count"
  | brightness _ => "brightness"
  | stripType _ => "strip_type"

/-- A number is written in its digits, and a strip type as any string that names it. -/
def Setting.Spells : Setting → List Char → Prop
  | gpio n, cs => cs = (toString n).toList
  | invert b, cs => cs = (toString b).toList
  | count n, cs => cs = (toString n).toList
  | brightness n, cs => cs = (toString n).toList
  | stripType t, cs => ∃ s, StripType.parse s = .ok t ∧ Json.Denotes s cs

/-- How a channel is written. -/
def scheme : Json.Scheme Setting where
  names := ["gpio", "invert", "count", "brightness", "strip_type"]
  name := Setting.name
  Spells := Setting.Spells

/-- The settings of a channel that are written. -/
structure Partial where
  gpio : Option UInt8
  invert : Option Bool
  count : Option UInt64
  brightness : Option UInt8
  stripType : Option StripType

namespace Partial

def settings (p : Partial) : List Setting :=
  [p.gpio.map .gpio, p.invert.map .invert, p.count.map .count, p.brightness.map .brightness,
    p.stripType.map .stripType].reduceOption

/-- What is not written is as in a channel that is not used. -/
def config (p : Partial) : ChannelConfig where
  gpio := p.gpio.getD unused.gpio
  invert := p.invert.getD unused.invert
  count := p.count.getD unused.count
  brightness := p.brightness.getD unused.brightness
  stripType := p.stripType.getD unused.stripType

end Partial

end ChannelConfig

namespace StripConfig

/-- A setting of a strip; the channels are given by any number of entries. -/
inductive Setting
  | freq (n : UInt32)
  | dma (n : UInt8)
  | channels (entries : List ChannelConfig.Partial)

def Setting.name : Setting → String
  | freq _ => "freq"
  | dma _ => "dma"
  | channels _ => "channels"

def Setting.Spells : Setting → List Char → Prop
  | freq n, cs => cs = (toString n).toList
  | dma n, cs => cs = (toString n).toList
  | channels entries, cs => ∃ texts,
    List.Forall₂ (fun p => ChannelConfig.scheme.Text p.settings) entries texts ∧
      Json.IsList texts cs

/-- How a strip is written. -/
def scheme : Json.Scheme Setting where
  names := ["freq", "dma", "channels"]
  name := Setting.name
  Spells := Setting.Spells

/-- The settings of a strip that are written. -/
structure Partial where
  freq : Option UInt32
  dma : Option UInt8
  channels : Option (List ChannelConfig.Partial)

namespace Partial

def settings (p : Partial) : List Setting :=
  [p.freq.map .freq, p.dma.map .dma, p.channels.map .channels].reduceOption

/-- The entries that are written for the channels. -/
def entries (p : Partial) : List ChannelConfig.Partial := p.channels.getD []

/-- What is not written has its default, and a channel without an entry is not used. -/
def config (p : Partial) : StripConfig where
  freq := p.freq.getD default.freq
  dma := p.dma.getD default.dma
  channels := .ofFn fun i => (p.entries.map ChannelConfig.Partial.config)[i.val]?.getD .unused

end Partial

/-- A configuration in which an object, its own or that of a channel, writes a field twice. -/
def WrittenTwice (cs : List Char) : Prop :=
  scheme.Twice cs ∨ ∃ value entries, scheme.Gives "channels" value cs ∧
    Json.IsList entries value ∧ (∀ e ∈ entries, Json.Value e) ∧
    ∃ e ∈ entries, ChannelConfig.scheme.Twice e

end StripConfig

end LedStrip
