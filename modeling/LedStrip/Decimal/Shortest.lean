/-!
# Shortest decimals

Every finite binary number `m * 2 ^ q` is the rounding of an interval of reals, its ends included
when `m` is even.  `shortest` finds the decimal `d * 10 ^ e` in that interval that has the fewest
digits and, among those, lies nearest; of two equally near ones it takes the even one.
-/

namespace LedStrip.Decimal

/-- A binary number `mantissa * 2 ^ exponent`; at a `boundary` the next smaller number is only half
as far away as the next larger one. -/
structure Binary where
  mantissa : Nat
  exponent : Int
  boundary : Bool
  deriving DecidableEq, Repr

/-- The magnitude of a finite double. -/
def Binary.ofFloat (x : Float) : Binary :=
  let bits := x.toBits.toNat
  let hidden := 0x10000000000000
  let fraction := bits % hidden
  let biased : Nat := bits / hidden % 0x800
  if biased = 0 then
    ⟨fraction, -1074, false⟩
  else
    ⟨hidden + fraction, (biased : Int) - 1075, fraction = 0 && 1 < biased⟩

/-- How many decimal digits a number has; zero has none. -/
def digitCount (n : Nat) : Nat := if n = 0 then 0 else (Nat.toDigits 10 n).length

/-- A value and the ends of its rounding interval, over one denominator. -/
structure Window where
  low : Nat
  value : Nat
  high : Nat
  den : Nat
  closed : Bool

/-- The rounding interval of a binary number. -/
def Binary.window (b : Binary) : Window :=
  let up := (b.exponent - 2).toNat
  let down := (2 - b.exponent).toNat
  let low := if b.boundary then 4 * b.mantissa - 1 else 4 * b.mantissa - 2
  { low := low <<< up
    value := (4 * b.mantissa) <<< up
    high := (4 * b.mantissa + 2) <<< up
    den := 1 <<< down
    closed := b.mantissa % 2 = 0 }

/-- The window in units of `10 ^ e`. -/
def Window.inUnits (w : Window) (e : Int) : Window :=
  let up := Nat.pow 10 (-e).toNat
  { w with
    low := w.low * up
    value := w.value * up
    high := w.high * up
    den := w.den * Nat.pow 10 e.toNat }

/-- Whether a whole number lies in the window. -/
def Window.holds (w : Window) (d : Nat) : Bool :=
  if w.closed then w.low ≤ d * w.den && d * w.den ≤ w.high
  else w.low < d * w.den && d * w.den < w.high

/-- The nearest whole number in the window, if there is one. -/
def Window.nearest? (w : Window) : Option Nat :=
  let floor := w.value / w.den
  match w.holds floor, w.holds (floor + 1) with
  | false, false => none
  | true, false => some floor
  | false, true => some (floor + 1)
  | true, true =>
    let below := w.value - floor * w.den
    let above := (floor + 1) * w.den - w.value
    if below < above || (below = above && floor % 2 = 0) then some floor else some (floor + 1)

/-- The exponent of the leading decimal digit of the value. -/
def Window.magnitude (w : Window) : Int :=
  if w.den ≤ w.value then (digitCount (w.value / w.den) : Int) - 1
  else -(digitCount ((w.den + w.value - 1) / w.value - 1) : Int)

/-- Take away the zeros at the end of a decimal. -/
def dropZeros : Nat → Nat → Int → Nat × Int
  | 0, d, e => (d, e)
  | fuel + 1, d, e => if d ≠ 0 ∧ d % 10 = 0 then dropZeros fuel (d / 10) (e + 1) else (d, e)

/-- The digits and exponent of the shortest decimal of a number other than zero. -/
def shortest (b : Binary) : Nat × Int :=
  let w := b.window
  let top := w.magnitude
  let hit := (List.range 17).findSome? fun (k : Nat) =>
    let e := top - (k : Int)
    (w.inUnits e).nearest?.map fun d => dropZeros 20 d e
  hit.getD (b.mantissa, b.exponent)

end LedStrip.Decimal
