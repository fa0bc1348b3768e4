import LedStrip.Animation.Balls
import LedStrip.Play.Script

/-!
# Bouncing balls

Balls that bounce on the strip, each in a color of its own.  The motion follows the clock: each
frame shows where the balls are at its time, and the LEDs are dark again before the next one.
-/

namespace LedStrip.Animation

/-- The hue of a ball: the first one is blue, the others spread around the circle. -/
def ballHue (count i : Nat) : Nat := 240 + i * 360 / count

/-- The color of each ball. -/
def ballColors (count : Nat) : List Color :=
  (List.range count).map fun i => .ofHue (UInt16.ofNat (ballHue count i))

/-- A time in seconds. -/
def seconds (nanoseconds : Nat) : Float :=
  Float.ofNat (nanoseconds / 1000000000) +
    Float.ofNat (nanoseconds % 1000000000) / 1000000000.0

/-- Draw each ball where it is; later balls cover earlier ones. -/
def ballStrokes (positions : List Nat) (colors : List Color) : List Stroke :=
  (positions.zip colors).map fun (p, c) => .set p c

/-- Show the balls from a state on; `place` moves them to a time and says where they are then. -/
def bounce {B : Type} (place : Nat → B → B × List Nat) (colors : List Color)
    (wait start playtime : Nat) : Nat → B → Play Unit
  | 0, _ => .skip
  | rounds + 1, balls => .clock fun now =>
    if now - start < playtime then
      .running fun on =>
        if on then
          .clock fun now =>
            let (balls, positions) := place (now - start) balls
            .paint (ballStrokes positions colors) <| .present <| .paint [.fill .black] <|
              .sleep wait <| bounce place colors wait start playtime rounds balls
        else .skip
    else .skip

/-- Balls bouncing for a while, for at most `rounds` frames. -/
def bouncingBalls (rounds playtime count wait n : Nat) : Play Unit :=
  .clock fun start =>
    let place (elapsed : Nat) (b : Balls) :=
      let b := b.step (seconds elapsed)
      (b, b.positions n)
    bounce place (ballColors count) wait start playtime rounds (.start count)

end LedStrip.Animation
