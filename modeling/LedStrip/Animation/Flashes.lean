import LedStrip.Play.Script

/-!
# Flashes

The animations with random pauses.  Times are in nanoseconds unless they say milliseconds.
-/

namespace LedStrip.Animation

/-- Nanoseconds in a millisecond. -/
def millisecond : Nat := 1000000

/-! ## Strobe -/

/-- One flash: all white, a random pause, all dark. -/
def flash : Play Unit :=
  .paint [.fill .white] <| .present <| .random 0 44 fun gap =>
    .sleep (gap * millisecond) <| .paint [.fill .black] <| .present .skip

/-- Bursts of flashes with a pause after each burst. -/
def strobe (wait pulses : Nat) : Nat → Play Unit
  | 0 => .skip
  | strobes + 1 => (Play.whileRunning (fun _ => flash) 0 pulses).bind fun complete =>
    if complete then .sleep wait (strobe wait pulses strobes) else .skip

/-! ## Snow -/

/-- The dim light of snow. -/
def snow : Color := .rgb 0x10 0x10 0x10

/-- A pause drawn from a range of milliseconds; an empty range pauses for its start. -/
def basePause (low high : Nat) (next : Nat → Play Unit) : Play Unit :=
  if high < low then next (low * millisecond)
  else .random low high fun ms => next (ms * millisecond)

/-- Snow in which one LED sparkles after a pause. -/
def snowSparkle (wait low high n : Nat) : Play Unit :=
  if n = 0 then .skip
  else .running fun on =>
    if on then
      .random 0 (n - 1) fun pixel => basePause low high fun pause =>
        (Play.frame [.fill snow] pause).andThen (.frame [.set pixel .white] wait)
    else .skip

end LedStrip.Animation
