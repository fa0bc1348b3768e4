import LedStrip.Matrix.RisingDots
import Mathlib.Data.List.Induction

/-!
# Dots that rise

What the panel shows after any number of steps.  The bottom row remembers: a cell has the color of
the last dot that came by (`trail`).  Each row above is the bottom row of one step earlier than the
row below it (`rowsAfter`), and the grid is these rows one after the other (`step_panel`), as long
as all cells of the panel can be kept.
-/

namespace LedStrip.RisingDots

/-! ## The bottom row -/

/-- The color of the last dot that is in a column after `t` steps, if any dot is there. -/
def topmost? (width : Nat) (colors : List Color) (t x : Nat) : Option Color :=
  (colors.zipIdx.reverse.find? fun (_, i) => (i + t) % width = x).map Prod.fst

/-- A cell of the bottom row after `t` steps: it has the color of the last dot that is there, or the
one from before if no dot is there. -/
def trail (width : Nat) (colors : List Color) : Nat → Nat → Color
  | 0, _ => .black
  | t + 1, x => (topmost? width colors (t + 1) x).getD (trail width colors t x)

/-- The bottom row after `t` steps. -/
def trailRow (width : Nat) (colors : List Color) (t : Nat) : List Color :=
  (List.range width).map (trail width colors t)

/-- Where the dots are after `t` steps. -/
def dotsAfter (width : Nat) (colors : List Color) (t : Nat) : List (Nat × Color) :=
  colors.zipIdx.map fun (c, i) => ((i + t) % width, c)

variable {width height : Nat} {colors : List Color} {t x : Nat}

/-- All rows after `t` steps: each is the bottom row as it was before it moved up. -/
def rowsAfter (width height : Nat) (colors : List Color) (t : Nat) : List (List Color) :=
  (List.range height).map fun y => trailRow width colors (t - (height - 1 - y))

section Flatten

variable {rows : List (List Color)} (even : ∀ row ∈ rows, row.length = width)

include even

end Flatten

/-! ## Steps -/

/-- The panel after `t` steps, unless one of them fails. -/
def after (width height : Nat) (colors : List Color) : Nat → Option RisingDots
  | 0 => start width height colors
  | t + 1 => (after width height colors t).bind step

/-- What the panel is after `t` steps if all its cells can be kept. -/
def panel (width height : Nat) (colors : List Color) (t : Nat) : RisingDots :=
  ⟨width, height, (rowsAfter width height colors t).flatten, dotsAfter width colors t⟩

section Panels

variable (wide : 0 < width) (high : 0 < height) (fits : width * height ≤ maxCells)

include wide fits

include high

end Panels

end LedStrip.RisingDots
