import LedStrip.Animation.BouncingBalls
import LedStrip.Animation.Flashes
import LedStrip.Animation.Patterns
import LedStrip.Program

/-!
# Pieces and programs

The animations that do not follow the clock, each with its parameters, as data (`Piece`), and what
each named program plays.  The timed programs repeat an animation for a segment; `rounds` bounds how
often, for a clock that stands still.
-/

namespace LedStrip

/-! ## Pieces -/

namespace Animation

/-- An animation with its parameters.  Times are in nanoseconds, but `low` and `high` are in
milliseconds. -/
inductive Piece where
  | colorWipe (color : Color) (wait : Nat)
  | theaterChase (color : Color) (wait iterations : Nat)
  | rainbow (wait iterations : Nat)
  | rainbowCycle (wait iterations : Nat)
  | theaterChaseRainbow (wait : Nat)
  | pulsingLight (wait : Nat)
  | strobe (wait pulses strobes : Nat)
  | snowSparkle (wait low high : Nat)

/-- What is played on a surface of `n` LEDs. -/
def Piece.play (n : Nat) : Piece → Play Unit
  | colorWipe color wait => Animation.colorWipe color wait n
  | theaterChase color wait iterations => Animation.theaterChase color wait iterations n
  | rainbow wait iterations => Animation.rainbow wait iterations n
  | rainbowCycle wait iterations => Animation.rainbowCycle wait iterations n
  | theaterChaseRainbow wait => Animation.theaterChaseRainbow wait n
  | pulsingLight wait => Animation.pulsingLight wait n
  | strobe wait pulses strobes => Animation.strobe wait pulses strobes
  | snowSparkle wait low high => Animation.snowSparkle wait low high n

end Animation

/-! ## Programs -/

open Animation

/-- How long the timed programs play, in milliseconds. -/
def segmentMillis : Nat := 15000

/-- Play for the colors of a list, one after the other. -/
def Play.forColors (body : Color → Play Unit) : List Color → Play Unit
  | [] => skip
  | c :: cs => (body c).andThen (forColors body cs)

namespace Program

/-- What a program plays on `n` LEDs. -/
def play (rounds : Nat) (p : Program) (n : Nat) : Play Unit :=
  let ms (k : Nat) := k * millisecond
  let timed := Play.segment (ms segmentMillis) rounds
  if n = 0 then .report (.programSkipped p) .skip
  else
    match p with
    | colorWipe =>
      .forColors (fun c => Animation.colorWipe c (ms 50) n)
        [.rgb 255 0 0, .rgb 0 255 0, .rgb 0 0 255]
    | theaterChase =>
      .forColors (fun c => Animation.theaterChase c (ms 50) 10 n)
        [.rgb 127 127 127, .rgb 127 0 0, .rgb 0 0 127]
    | rainbow => Animation.rainbow (ms 20) 1 n
    | rainbowCycle => Animation.rainbowCycle (ms 20) 5 n
    | theaterChaseRainbow => Animation.theaterChaseRainbow (ms 50) n
    | pulsing => timed (pulsingLight (ms 50) n)
    | strobe => timed (Animation.strobe (ms 400) 12 7)
    | snowSparkle => timed (Animation.snowSparkle (ms 20) 100 1000 n)
    | bouncingBalls => Animation.bouncingBalls rounds (ms segmentMillis) 2 (ms 10) n

end Program

end LedStrip
