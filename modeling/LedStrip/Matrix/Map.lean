import LedStrip.Matrix.Layout
import LedStrip.Surface

/-!
# Matrix maps

A panel is a strip laid out in rows.  Its map says which LED sits at column `x` of row `y`.  A map
is made from the layout of the panel and can be mirrored or, if it is square, turned, to fit the way
the panel is mounted.
-/

namespace LedStrip

/-- For every cell of a panel, row by row, the LED that sits there. -/
structure MatrixMap (width height : Nat) where
  cells : Vector Nat (width * height)
  deriving DecidableEq, Repr

namespace MatrixMap

variable {width height : Nat}

/-- The map with a given LED in each cell. -/
def ofFn (f : Nat → Nat → Nat) : MatrixMap width height :=
  ⟨Vector.ofFn fun cell => f (cell.val % width) (cell.val / width)⟩

/-- The map of a panel as it is wired. -/
def wired (width height : Nat) (layout : Layout) : MatrixMap width height :=
  ofFn fun x y =>
    match layout with
    | .normal => width * y + x
    | .zigzag => if y % 2 = 1 then width * y + (width - 1 - x) else width * y + x

/-- The number of cells. -/
def length (_ : MatrixMap width height) : Nat := width * height

/-- The LED at a cell, if the cell is on the panel. -/
def index? (m : MatrixMap width height) (x y : Nat) : Option Nat :=
  if x < width ∧ y < height then m.cells[width * y + x]? else none

theorem index?_ofFn (f : Nat → Nat → Nat) (x y : Nat) :
    (ofFn f : MatrixMap width height).index? x y =
      if x < width ∧ y < height then some (f x y) else none := by
  simp only [ofFn, index?]
  split
  · rename_i inside
    have cell : width * y + x < width * height := by
      have row := Nat.mul_le_mul_left width inside.2
      rw [Nat.mul_succ] at row
      omega
    rw [Vector.getElem?_eq_getElem cell]
    simp [Nat.mod_eq_of_lt inside.1, Nat.mul_add_div (Nat.zero_lt_of_lt inside.1),
      Nat.div_eq_of_lt inside.1]
  · rfl

/-- The LED at a cell of the panel. -/
def led (m : MatrixMap width height) (x y : Nat) : Nat := (m.index? x y).getD 0

/-- The map in which the LED of every cell sits at the cell that this one goes to.  The LEDs are
written one after the other over cells that all have the first LED. -/
def carry (m : MatrixMap width height) (goal : Nat → Nat → Nat × Nat) : MatrixMap width height :=
  ⟨Fin.foldl (width * height) (fun cells i =>
    let place := goal (i.val % width) (i.val / width)
    cells.setIfInBounds (width * place.2 + place.1) (m.cells.get i)) (.replicate _ 0)⟩

/-- Flip left to right. -/
def mirrorX (m : MatrixMap width height) : MatrixMap width height :=
  m.carry fun x y => (width - x - 1, y)

/-- Turn by a quarter, clockwise; the panel must be square. -/
def rotate90 (m : MatrixMap width height) : Except Error (MatrixMap width height) :=
  if width = height then .ok (m.carry fun x y => (width - y - 1, x))
  else .error (.matrixNotSquare width height)

/-- All rows, top row first. -/
def rows (m : MatrixMap width height) : List (List Nat) :=
  (List.range height).map fun y => (List.range width).map fun x => m.led x y

/-- The strokes that draw a frame, given row by row.  What is beyond the panel is left out. -/
def strokes (m : MatrixMap width height) (frame : List Color) : List Stroke :=
  (frame.zip m.cells.toList).map fun (c, i) => .set i c

/-- Draw a frame through the map; cells beyond the end of the frame stay as they are. -/
def draw {S : Type} [Surface S] (m : MatrixMap width height) (s : S) (frame : List Color) : S :=
  Surface.paint s (m.strokes frame)

end MatrixMap

end LedStrip
