import LedStrip.PixelBuffer

/-!
# Balls under gravity

The motion behind the bouncing balls, apart from any drawing.  A ball flies up with the speed that
it kept at its last bounce and loses a little of it at the next; one that hardly moves starts anew.
-/

namespace LedStrip

/-- A ball: when and with what speed it bounced last, how much speed it keeps, how high it is. -/
structure Ball where
  lastBounce : Float
  speed : Float
  kept : Float
  height : Float

/-- Balls that are launched with the same speed. -/
structure Balls where
  balls : List Ball

namespace Balls

def gravity : Float := -9.81

/-- The height from which the balls fall. -/
def startHeight : Float := 1.0

/-- The speed that reaches the start height. -/
def launchSpeed : Float := (-2.0 * gravity * startHeight).sqrt

/-- So many balls at the start height; the later ones lose more at each bounce. -/
def start (count : Nat) : Balls :=
  let spread := Float.ofNat (max (sizeProduct count count) 1)
  ⟨(List.range count).map fun i =>
    ⟨0.0, launchSpeed, 0.90 - Float.ofNat i / spread, startHeight⟩⟩

/-- Move one ball to a time in seconds. -/
def stepBall (now : Float) (b : Ball) : Ball :=
  let t := now - b.lastBounce
  let height := 0.5 * gravity * t * t + b.speed * t
  if height < 0.0 then
    let speed := b.speed * b.kept
    { b with
      lastBounce := now
      speed := if speed < 0.01 then launchSpeed else speed
      height := 0.0 }
  else { b with height := height }

/-- Move all balls to a time in seconds. -/
def step (now : Float) (b : Balls) : Balls := ⟨b.balls.map (stepBall now)⟩

def heights (b : Balls) : List Float := b.balls.map Ball.height

/-- The LED nearest to a height on a row of LEDs; what is not on the row is at one of its ends. -/
def position (length : Nat) (height : Float) : Nat :=
  let top := length - 1
  min (height * Float.ofNat top / startHeight).round.toUInt64.toNat top

/-- The LED of each ball. -/
def positions (length : Nat) (b : Balls) : List Nat := b.heights.map (position length)

end Balls

end LedStrip
