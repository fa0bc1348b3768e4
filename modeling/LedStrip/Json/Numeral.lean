import LedStrip.Json.Reading

/-!
# Numbers in a JSON text

`Numeral` is a number as it is written, `scan` reads one and `value` says what it stands for.  A
numeral without fraction and exponent is an integer if it fits a 64-bit word (a signed one when it
is negative); all others, and minus zero, are floats.
-/

namespace LedStrip.Json

/-- A number as it is written: sign, digits before and after the point, exponent with its sign. -/
structure Numeral where
  negative : Bool
  whole : List Nat
  fraction : List Nat
  exponent : Option (Bool × List Nat)
  deriving DecidableEq, Repr

/-- What a numeral stands for. -/
inductive Number where
  | integer (n : Int)
  | float (x : Float)

/-- The value of a digit. -/
def digit (c : Char) : Nat := c.toNat - '0'.toNat

/-- The digits at the front of a text, and the rest. -/
def spanDigits : List Char → List Nat × List Char
  | [] => ([], [])
  | c :: cs =>
    if c.isDigit then
      let (ds, rest) := spanDigits cs
      (digit c :: ds, rest)
    else ([], c :: cs)

namespace Numeral

/-! ## Reading -/

/-- Read the digits before the point: a zero stands alone.  `ended` is the refusal of a text that
ends too early. -/
def scanWhole (ended : Cause) (cs : List Char) : Reading (List Nat × List Char) :=
  match cs with
  | [] => .error (.before ended [])
  | c :: rest =>
    if ¬c.isDigit then .error (.onto .invalidNumber cs)
    else if c = '0' then
      match rest with
      | d :: _ => if d.isDigit then .error (.onto .invalidNumber rest) else .ok ([0], rest)
      | [] => .ok ([0], [])
    else .ok (spanDigits cs)

/-- Read the point and the digits behind it, if there is a point. -/
def scanFraction (ended : Cause) : List Char → Reading (List Nat × List Char)
  | '.' :: rest =>
    match spanDigits rest with
    | ([], []) => .error (.before ended [])
    | ([], rest) => .error (.onto .invalidNumber rest)
    | (ds, rest) => .ok (ds, rest)
  | cs => .ok ([], cs)

/-- The sign of an exponent. -/
def scanSign : List Char → Bool × List Char
  | '+' :: rest => (false, rest)
  | '-' :: rest => (true, rest)
  | cs => (false, cs)

/-- Read the exponent, if there is one. -/
def scanExponent (ended : Cause) (cs : List Char) :
    Reading (Option (Bool × List Nat) × List Char) :=
  match cs with
  | [] => .ok (none, [])
  | c :: rest =>
    if c = 'e' ∨ c = 'E' then
      let (negative, rest) := scanSign rest
      match spanDigits rest with
      | ([], []) => .error (.before ended [])
      | ([], rest) => .error (.onto .invalidNumber rest)
      | (ds, rest) => .ok (some (negative, ds), rest)
    else .ok (none, cs)

/-- Read a numeral behind its sign. -/
def scanUnsigned (ended : Cause) (negative : Bool) (cs : List Char) :
    Reading (Numeral × List Char) := do
  let (whole, cs) ← scanWhole ended cs
  let (fraction, cs) ← scanFraction ended cs
  let (exponent, cs) ← scanExponent ended cs
  return (⟨negative, whole, fraction, exponent⟩, cs)

/-- Read a numeral. -/
def scan (ended : Cause) : List Char → Reading (Numeral × List Char)
  | '-' :: cs => scanUnsigned ended true cs
  | cs => scanUnsigned ended false cs

/-! ## Value -/

/-- Append digits to a number while it stays within a limit; the digits left over come second. -/
def absorb (limit : Nat) : Nat → List Nat → Nat × List Nat
  | n, [] => (n, [])
  | n, d :: ds => if n * 10 + d ≤ limit then absorb limit (n * 10 + d) ds else (n, d :: ds)

/-- The largest 64-bit word. -/
def maxWord : Nat := UInt64.size - 1

/-- The largest exponent that is counted. -/
def maxExponent : Nat := 0x7fffffff

/-- Divide by a power of ten, in steps that keep to finite powers. -/
def divideByTens : Nat → Float → Nat → Float
  | 0, x, _ => x
  | fuel + 1, x, e =>
    if e ≤ 308 then x / Float.ofScientific 1 false e
    else divideByTens fuel (x / Float.ofScientific 1 false 308) (e - 308)

/-- The double nearest to `n`, times `10 ^ e`; nothing if that is too large.  A number that fits a
word is nothing after two steps down. -/
def scaled (n : Nat) (e : Int) : Option Float :=
  let x := n.toUInt64.toFloat
  if e < 0 then some (divideByTens 3 x e.natAbs)
  else if n = 0 then some x
  else if 308 < e then none
  else
    let y := x * Float.ofScientific 1 false e.toNat
    if y.isInf then none else some y

/-- The digits that count and the power of ten behind them. -/
def significand (n : Numeral) : Nat × Int :=
  let (whole, dropped) := absorb maxWord 0 n.whole
  let (all, ignored) := absorb maxWord whole n.fraction
  (all, (dropped.length : Int) - (n.fraction.length - ignored.length : Nat))

/-- The float that a numeral stands for; `rest` is the text behind the numeral. -/
def float (n : Numeral) (rest : List Char) : Reading Float :=
  let signed (x : Float) := if n.negative then -x else x
  let (digits, power) := n.significand
  let outOfRange (more : Nat) := Refusal.placed .numberOutOfRange (byteLength rest + more)
  let finish (e : Int) :=
    match scaled digits e with
    | some x => .ok (signed x)
    | none => .error (outOfRange 0)
  match n.exponent with
  | none => finish power
  | some (negative, ds) =>
    match absorb maxExponent 0 ds with
    | (e, []) => finish (if negative then power - e else power + e)
    | (_, excess) =>
      if digits ≠ 0 ∧ ¬negative then .error (outOfRange (excess.length - 1)) else .ok (signed 0)

/-- What a numeral stands for; `rest` is the text behind it. -/
def value (n : Numeral) (rest : List Char) : Reading Number :=
  match n.fraction, n.exponent, absorb maxWord 0 n.whole with
  | [], none, (k, []) =>
    if ¬n.negative then .ok (.integer k)
    else if k ≠ 0 ∧ k ≤ 0x8000000000000000 then .ok (.integer (-(k : Int)))
    else .ok (.float (-k.toUInt64.toFloat))
  | _, _, _ => (n.float rest).map .float

end Numeral

/-- Read a number. -/
def readNumber (cs : List Char) : Reading (Number × List Char) := do
  let (n, cs) ← Numeral.scan .eofValue cs
  let v ← n.value cs
  return (v, cs)

end LedStrip.Json
