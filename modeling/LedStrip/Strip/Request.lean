import LedStrip.Strip.Basic

/-!
# Requests

Everything that can be asked of a strip that changes something, as data.  `handle` does what is
asked; a request that names a channel which does not exist is refused and changes nothing.
-/

namespace LedStrip.Strip

/-- What can be asked of a strip. -/
inductive Request where
  /-- Draw on the active channel. -/
  | write (w : PixelBuffer.Write)
  /-- Change the brightness of the active channel. -/
  | brightness (b : UInt8)
  /-- Make another channel the active one. -/
  | activate (i : Nat)
  | show
  | wait
  /-- Draw on a channel, whichever is active. -/
  | writeTo (i : Nat) (w : PixelBuffer.Write)
  /-- Change the brightness of a channel, whichever is active. -/
  | brightnessOf (i : Nat) (b : UInt8)
  /-- Send all channels, asked of one of them. -/
  | showFrom (i : Nat)

variable {β : Type} [Backend β]

/-- Do something with a channel, or refuse if there is none of that index. -/
def onChannel (s : Strip β) (i : Nat)
    (f : ChannelIndex → Step (Strip β) (Except Error Unit)) : Step (Strip β) (Except Error Unit) :=
  if h : i < channelCount then f ⟨i, h⟩ else .silent s (.error (.invalidChannel i))

/-- Do what is asked. -/
def handle (s : Strip β) : Request → Step (Strip β) (Except Error Unit)
  | .write w =>
    let step := s.write s.active w
    ⟨step.state, .ok (), step.log⟩
  | .brightness b => .silent (s.withBrightness s.active b) (.ok ())
  | .activate i =>
    match s.activate i with
    | .ok s => .silent s (.ok ())
    | .error e => .silent s (.error e)
  | .show => s.render
  | .wait => s.wait
  | .writeTo i w => s.onChannel i fun i =>
    let step := s.write i w
    ⟨step.state, .ok (), step.log⟩
  | .brightnessOf i b => s.onChannel i fun i => .silent (s.withBrightness i b) (.ok ())
  | .showFrom i => s.onChannel i fun _ => s.render

end LedStrip.Strip
