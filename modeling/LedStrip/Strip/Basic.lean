import LedStrip.Config
import LedStrip.Event
import LedStrip.PixelBuffer
import LedStrip.StripType.Wire

/-!
# Strips

A channel of a strip has its settings and the LEDs drawn so far.  Brightness is a setting; it does
not touch the LEDs and is applied only when they are sent.

A backend takes the LEDs of a strip and sends them.  It is set up once with a configuration, then
renders and waits any number of times, and is released at the end.

A strip is a backend with the channels that it sends.  One channel with LEDs is active: drawing on
the strip draws there.  Each channel can also be drawn on through a view.
-/

namespace LedStrip

/-! ## Channels -/

/-- A channel with its LEDs. -/
structure Channel where
  config : ChannelConfig
  pixels : PixelBuffer
  deriving DecidableEq, Repr, Inhabited

namespace Channel

/-- A channel with all its LEDs off. -/
def blank (config : ChannelConfig) : Channel := ⟨config, .blank config.count.toNat⟩

def brightness (c : Channel) : UInt8 := c.config.brightness

def withBrightness (c : Channel) (brightness : UInt8) : Channel :=
  { c with config := { c.config with brightness := brightness } }

/-- Draw on a channel. -/
def write (c : Channel) (w : PixelBuffer.Write) : Channel := { c with pixels := w.apply c.pixels }

/-- The bytes that the channel's LEDs are sent. -/
def wire (c : Channel) : List UInt8 := c.config.stripType.encode c.pixels.toList c.brightness

end Channel

/-! ## Backends -/

/-- What a strip needs of the thing that sends its LEDs. -/
class Backend (β : Type) where
  /-- Set up for a configuration. -/
  init : StripConfig → β → Step β (Except Error Unit)
  /-- Send the LEDs of the channels as they are now. -/
  render : List Channel → β → Step β (Except Error Unit)
  /-- Wait until the last rendering is sent. -/
  wait : β → Step β (Except Error Unit)
  /-- Give back what `init` acquired. -/
  fini : β → Step β Unit
  /-- Give up the backend itself. -/
  discard : β → Step β Unit

/-! ## Strips -/

/-- A backend with its channels. -/
structure Strip (β : Type) where
  backend : β
  freq : UInt32
  dma : UInt8
  channels : Vector Channel channelCount
  active : ChannelIndex

namespace Strip

variable {β : Type}

/-! ## Setting up and giving back -/

/-- Set up a strip, unless the configuration is not valid or the backend refuses it.  The state is
the backend afterwards. -/
def create [Backend β] (config : StripConfig) (backend : β) : Step β (Except Error (Strip β)) :=
  match config.validate with
  | .error e => .silent backend (.error e)
  | .ok () =>
    match config.firstUsed? with
    | none => .silent backend (.error .noChannels)
    | some active =>
      let s := Backend.init config backend
      match s.result with
      | .error e => ⟨s.state, .error e, s.log⟩
      | .ok () =>
        let strip := ⟨s.state, config.freq, config.dma, config.channels.map .blank, active⟩
        ⟨s.state, .ok strip,
          s.log ++ [.stripReady (config.channels.get active) config.freq config.dma]⟩

/-- Give a strip back: its backend is released and given up. -/
def release [Backend β] (s : Strip β) : Step β Unit :=
  let released := Backend.fini s.backend
  (Backend.discard released.state).after (.stripReleased :: released.log)

/-! ## Looking -/

/-- The settings of the strip as they are now. -/
def config (s : Strip β) : StripConfig := ⟨s.freq, s.dma, s.channels.map Channel.config⟩

/-- The channel that is drawn on. -/
def activeChannel (s : Strip β) : Channel := s.channels.get s.active

/-- The LEDs that are drawn on. -/
def pixels (s : Strip β) : PixelBuffer := s.activeChannel.pixels

/-- The channel of an index. -/
def channel (s : Strip β) (i : Nat) : Except Error Channel :=
  if h : i < channelCount then .ok (s.channels.get ⟨i, h⟩) else .error (.invalidChannel i)

/-! ## Changing -/

/-- Change one channel. -/
def modify (s : Strip β) (i : ChannelIndex) (f : Channel → Channel) : Strip β :=
  { s with channels := ⟨s.channels.toArray.modify i f, by simp⟩ }

theorem channels_modify (s : Strip β) (i j : ChannelIndex) (f : Channel → Channel) :
    (s.modify i f).channels.get j =
      if i = j then f (s.channels.get j) else s.channels.get j := by
  refine (Array.getElem_modify _).trans ?_
  simp only [Fin.ext_iff]
  rfl

/-- Draw on one channel.  Writes that miss its LEDs are reported. -/
def write (s : Strip β) (i : ChannelIndex) (w : PixelBuffer.Write) : Step (Strip β) Unit :=
  let length := (s.channels.get i).pixels.length
  ⟨s.modify i (·.write w), (), Event.ignoredWrites length (w.ignored length)⟩

/-- Change the brightness of one channel. -/
def withBrightness (s : Strip β) (i : ChannelIndex) (brightness : UInt8) : Strip β :=
  s.modify i (·.withBrightness brightness)

/-- Draw on another channel from now on; it must have LEDs. -/
def activate (s : Strip β) (i : Nat) : Except Error (Strip β) :=
  if h : i < channelCount then
    if (s.channels.get ⟨i, h⟩).config.isUsed then .ok { s with active := ⟨i, h⟩ }
    else .error (.invalidChannel i)
  else .error (.invalidChannel i)

/-- Send all channels. -/
def render [Backend β] (s : Strip β) : Step (Strip β) (Except Error Unit) :=
  (Backend.render s.channels.toList s.backend).lift fun b => { s with backend := b }

/-- Wait until the last rendering is sent. -/
def wait [Backend β] (s : Strip β) : Step (Strip β) (Except Error Unit) :=
  (Backend.wait s.backend).lift fun b => { s with backend := b }

end Strip

end LedStrip
