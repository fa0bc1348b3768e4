import LedStrip.Driver.Device
import LedStrip.Strip.Basic

/-!
# Controller

The backend that drives a device.  It fills in the registers, calls the device, and before each
rendering copies the LEDs of each channel into the array that the device made for it.  Only what was
set up is released, and only once.
-/

namespace LedStrip.Driver

/-- The backend that drives a device. -/
structure Controller where
  registers : Registers
  /-- Whether a set-up succeeded that was not released since. -/
  initialized : Bool
  device : Device

namespace Controller

/-- A controller that has not called its device. -/
def of (device : Device) : Controller := ⟨.blank, false, device⟩

/-- Take over a configuration and set the device up. -/
def init (config : StripConfig) (c : Controller) : Step Controller (Except Error Unit) :=
  let (registers, loaded) := c.registers.load config
  match loaded with
  | .error e => .silent { c with registers := registers } (.error e)
  | .ok () =>
    let (code, device, registers) := c.device.init registers
    let c := { c with registers := registers, device := device }
    match check .init code with
    | .error e => .silent c (.error e)
    | .ok () => ⟨{ c with initialized := true }, .ok (), [.driverReady config.freq config.dma]⟩

/-- Hand one channel to the device: its brightness, and its LEDs if the device has room for any. -/
def transfer (c : Controller) (i : ChannelIndex) (channel : Channel) : Controller :=
  let r := { c.registers.channels.get i with brightness := channel.brightness.toNat }
  let c := { c with registers.channels := c.registers.channels.set i r i.isLt }
  match r.leds with
  | some h =>
    if 0 < r.count then
      { c with device := c.device.store h r.count.toNat channel.pixels.toList }
    else c
  | none => c

/-- Hand over the channels that are given. -/
def transferAll (c : Controller) (channels : List Channel) : List ChannelIndex → Controller
  | [] => c
  | i :: rest =>
    match channels[i.val]? with
    | some channel => (c.transfer i channel).transferAll channels rest
    | none => c.transferAll channels rest

/-- Hand over the channels and let the device render. -/
def render (channels : List Channel) (c : Controller) : Step Controller (Except Error Unit) :=
  let c := c.transferAll channels (List.finRange channelCount)
  let (code, device) := c.device.render c.registers
  .silent { c with device := device } (check .render code)

def wait (c : Controller) : Step Controller (Except Error Unit) :=
  let (code, device) := c.device.wait
  .silent { c with device := device } (check .wait code)

/-- Release the device if it is set up. -/
def fini (c : Controller) : Step Controller Unit :=
  if c.initialized then
    ⟨{ registers := c.registers.forget, initialized := false, device := c.device.fini c.registers },
      (), [.driverReleased]⟩
  else .silent c ()

instance : Backend Controller where
  init := init
  render := render
  wait := wait
  fini := fini
  discard := fini

end Controller

end LedStrip.Driver
