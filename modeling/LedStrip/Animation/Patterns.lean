import LedStrip.Play.Script

/-!
# Patterns

The animations that travel along a strip.  Each is a script for a strip of `n` LEDs; times are in
nanoseconds.

How often an animation goes round is a size.  Where it is multiplied the product may be too large
for a size (`wheelFrames`).  Products with the number of LEDs are not, as the LEDs are in memory.
-/

namespace LedStrip.Animation

/-- Color a strip one LED after the other. -/
def colorWipe (color : Color) (wait n : Nat) : Play Unit :=
  .each n fun i => .frame [.set i color] wait

/-! ## Chases -/

/-- Strokes on every third of `n` LEDs, moved on by `q`. -/
def everyThird (n q : Nat) (color : Nat → Color) : List Stroke :=
  (List.range ((n + 2) / 3)).map fun k => .set (3 * k + q) (color (3 * k))

/-- Light every third LED, then the ones beside them, then the last third; each is dark again before
the next is lit. -/
def chase (color : Nat → Color) (wait n : Nat) : Play Unit :=
  .each 3 fun q =>
    .paint (everyThird n q color)
      (.present (.sleep wait (.paint (everyThird n q fun _ => .black) .skip)))

/-- A chase in one color. -/
def theaterChase (color : Color) (wait iterations n : Nat) : Play Unit :=
  .each iterations fun _ => chase (fun _ => color) wait n

/-- A chase in which each lit LED has its own color of the wheel. -/
def theaterChaseRainbow (wait n : Nat) : Play Unit :=
  .each 256 fun j => chase (fun i => .wheel (UInt8.ofNat ((i + j) % 255))) wait n

/-! ## Rainbows -/

/-- The number of frames for so many turns of the color wheel.  It is a size: the frames of 2^56
turns are too many to be counted. -/
def wheelFrames (turns : Nat) : Nat := sizeProduct 256 turns

/-- Strokes on all of `n` LEDs. -/
def everyOne (n : Nat) (color : Nat → Color) : List Stroke :=
  (List.range n).map fun i => .set i (color i)

/-- The color wheel moving along the strip. -/
def rainbow (wait iterations n : Nat) : Play Unit :=
  .each (wheelFrames iterations) fun j =>
    .frame (everyOne n fun i => .wheel (UInt8.ofNat (i + j))) wait

/-- The color wheel spread over the whole strip and turning. -/
def rainbowCycle (wait iterations n : Nat) : Play Unit :=
  if n = 0 then .skip
  else
    .each (wheelFrames iterations) fun j =>
      .frame (everyOne n fun i => .wheel (UInt8.ofNat (i * 256 / n + j))) wait

/-! ## Pulse -/

/-- A warm white that rises and falls with the phase. -/
def pulseColor (phase : Nat) : Color :=
  let level := (Float.ofNat phase).sin * 127.0 + 128.0
  let dim := (level * 100.0 / 255.0).round.toUInt8
  .rgb level.round.toUInt8 dim dim

/-- A wave of warm white rolling along the strip, twice over. -/
def pulsingLight (wait n : Nat) : Play Unit :=
  .each (2 * n) fun p => .frame (everyOne n fun j => pulseColor (j + (p + 1))) wait

end LedStrip.Animation
