import LedStrip.Config
import LedStrip.Json.Record

/-!
# Configurations as text

A configuration is written as compact JSON with its fields in declaration order.  Reading takes any
JSON that names some of the fields and leaves the others at their defaults; a strip type may be
given by any of its spellings, and the list of channels may be short.
-/

namespace LedStrip

/-! ## Writing -/

/-- A strip type as JSON, by its name. -/
def StripType.toJson (t : StripType) : String := "\"" ++ t.name ++ "\""

/-- A channel as compact JSON. -/
def ChannelConfig.toJson (c : ChannelConfig) : String :=
  "\x7b\"gpio\":" ++ toString c.gpio ++ ",\"invert\":" ++ toString c.invert ++
    ",\"count\":" ++ toString c.count ++ ",\"brightness\":" ++ toString c.brightness ++
    ",\"strip_type\":\"" ++ c.stripType.name ++ "\"\x7d"

/-- A configuration as compact JSON. -/
def StripConfig.toJson (c : StripConfig) : String :=
  "\x7b\"freq\":" ++ toString c.freq ++ ",\"dma\":" ++ toString c.dma ++
    ",\"channels\":[" ++ ",".intercalate (c.channels.toList.map ChannelConfig.toJson) ++ "]\x7d"

/-! ## Reading -/

/-- Read a strip type, given by a string that names it. -/
def StripType.read (cs : List Char) : Json.Reading (StripType × List Char) := do
  let (text, rest) ← Json.readText "a string" cs
  match StripType.parse text with
  | .ok t => return (t, rest)
  | .error e => .error (.pending (.rejected e.message) rest)

namespace ChannelConfig

/-- The fields of a channel, in order. -/
def fields : List (Json.Field ChannelConfig) :=
  [.of "gpio" (Json.readInteger "u8" 255) fun n c => { c with gpio := UInt8.ofNat n },
    .of "invert" Json.readBool fun b c => { c with invert := b },
    .of "count" (Json.readInteger "usize" (UInt64.size - 1)) fun n c =>
      { c with count := UInt64.ofNat n },
    .of "brightness" (Json.readInteger "u8" 255) fun n c => { c with brightness := UInt8.ofNat n },
    .of "strip_type" StripType.read fun t c => { c with stripType := t }]

/-- Read a channel over the settings of an unused one. -/
def read : List Char → Json.Reading (ChannelConfig × List Char) :=
  Json.readRecord "struct ChannelConfig" fields unused

end ChannelConfig

namespace StripConfig

/-- Read the list of channels: at most two, and those that are missing are not used. -/
def readChannels (cs : List Char) :
    Json.Reading (Vector ChannelConfig channelCount × List Char) := do
  let (list, rest) ← Json.readList ChannelConfig.read cs
  if channelCount < list.length then
    .error (.pending (.invalidLength list.length "at most 2 channels") rest)
  else return (Vector.ofFn fun i => list.getD i .unused, rest)

/-- The fields of a configuration, in order. -/
def fields : List (Json.Field StripConfig) :=
  [.of "freq" (Json.readInteger "u32" (UInt32.size - 1)) fun n c =>
      { c with freq := UInt32.ofNat n },
    .of "dma" (Json.readInteger "u8" 255) fun n c => { c with dma := UInt8.ofNat n },
    .of "channels" readChannels fun chs c => { c with channels := chs }]

/-- Read a configuration over the defaults. -/
def read : List Char → Json.Reading (StripConfig × List Char) :=
  Json.readRecord "struct StripConfig" fields default

/-- The configuration that a text describes. -/
def ofJson (text : String) : Except Json.Fault StripConfig := Json.readDocument read text

/-- The configuration in a file, given what came of reading the file. -/
def load (file : Except FileFault String) : Except Error StripConfig := do
  let text ← file.mapError .unreadable
  (ofJson text).mapError .malformed

end StripConfig

/-! ## Inspection -/

/-- A strip type as it appears in the log. -/
def StripType.inspect (t : StripType) : String := t.name.capitalize

/-- A channel as it appears in the log. -/
def ChannelConfig.inspect (c : ChannelConfig) : String :=
  "ChannelConfig \x7b gpio: " ++ toString c.gpio ++ ", invert: " ++ toString c.invert ++
    ", count: " ++ toString c.count ++ ", brightness: " ++ toString c.brightness ++
    ", strip_type: " ++ c.stripType.inspect ++ " \x7d"

/-- A configuration as it appears in the log. -/
def StripConfig.inspect (c : StripConfig) : String :=
  "StripConfig \x7b freq: " ++ toString c.freq ++ ", dma: " ++ toString c.dma ++ ", channels: [" ++
    ", ".intercalate (c.channels.toList.map ChannelConfig.inspect) ++ "] \x7d"

end LedStrip
