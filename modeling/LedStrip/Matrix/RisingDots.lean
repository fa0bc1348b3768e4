import LedStrip.PixelBuffer

/-!
# Rising dots

Dots that march along the bottom row of a panel.  At each step all rows move up, and the bottom row
is the old one with each dot drawn one column further; later dots cover earlier ones.

The cells stand one row after the other.  Their number is a size, so a panel that is too large has
fewer cells than places, and then a step may not even find one row to move.
-/

namespace LedStrip

/-- The cells of a panel, row by row from the top, and where each dot is. -/
structure RisingDots where
  width : Nat
  height : Nat
  grid : List Color
  dots : List (Nat × Color)
  deriving DecidableEq, Repr

namespace RisingDots

/-- The most cells that can be kept: each takes four bytes, and nothing may take 2^63 of them. -/
def maxCells : Nat := (UInt64.size / 2 - 1) / 4

/-- A dark panel with a dot of each color, side by side, if its cells can be kept. -/
def start (width height : Nat) (colors : List Color) : Option RisingDots :=
  let cells := sizeProduct width height
  if cells ≤ maxCells then
    some {
      width := width
      height := height
      grid := List.replicate cells .black
      dots := colors.zipIdx.map fun (c, i) => (i % max width 1, c) }
  else none

/-- Copy the cells from an index on to the front; those at the end stay as they are.  The index must
not be past the end. -/
def moveToFront (grid : List Color) (start : Nat) : Option (List Color) :=
  if start ≤ grid.length then some (grid.drop start ++ grid.drop (grid.length - start)) else none

/-- Move each dot one column further and draw it in the row that starts at `bottom`, one after the
other.  The row must be in the grid. -/
def march (width bottom : Nat) :
    List Color → List (Nat × Color) → Option (List Color × List (Nat × Color))
  | grid, [] => some (grid, [])
  | grid, (x, c) :: dots =>
    let x := (x + 1) % width
    let cell := sizeSum bottom x
    if cell < grid.length then
      (march width bottom (grid.set cell c) dots).map fun (grid, dots) => (grid, (x, c) :: dots)
    else none

/-- One step, unless a cell is missing; nothing moves on a panel without cells. -/
def step (d : RisingDots) : Option RisingDots :=
  if d.width = 0 ∨ d.height = 0 then some d
  else do
    let grid ← moveToFront d.grid d.width
    let (grid, dots) ← march d.width (sizeProduct (d.height - 1) d.width) grid d.dots
    return { d with grid := grid, dots := dots }

/-- All cells, row by row. -/
def frame (d : RisingDots) : List Color := d.grid

end RisingDots

end LedStrip
