import LedStrip.Color

/-!
# Ring clock

A clock on a ring of LEDs, twelve for a full dial.  Green marks the hour, blue the minutes in fives,
and red the seconds in fives: in each slot of five seconds the light of the hand swells and fades
while its neighbours take it over.
-/

namespace LedStrip

/-- A time of day.  During a leap second the nanoseconds go on beyond a second. -/
structure TimeOfDay where
  hour : Nat
  minute : Nat
  second : Nat
  nanosecond : Nat
  deriving DecidableEq, Repr

/-- The time with these parts, if there is one: a leap second is the last of its minute. -/
def TimeOfDay.ofParts? (hour minute second nanosecond : Nat) : Option TimeOfDay :=
  if hour < 24 ∧ minute < 60 ∧ second < 60 ∧ nanosecond < 2 * 1000000000 ∧
      (nanosecond < 1000000000 ∨ second = 59) then
    some ⟨hour, minute, second, nanosecond⟩
  else none

namespace RingClock

/-- How bright the hands of hour and minute are. -/
def hand : UInt8 := 200

/-- Microseconds into the slot of five seconds; a leap second stands still at its end. -/
def slotMicros (t : TimeOfDay) : Float :=
  Float.ofNat (t.second % 5) * 1000000.0 + Float.ofNat (min (t.nanosecond / 1000) 999999)

/-- Red of the LED that the second hand is on. -/
def handLevel (slot : Float) : Int :=
  if slot < 2500000.0 then (0.0000508 * slot).toInt64.toInt + 126
  else 382 - (0.0000508 * slot).toInt64.toInt

/-- Red of the LED that the second hand comes to. -/
def nextLevel (slot : Float) : Int := (0.0000256 * slot).toInt64.toInt

/-- Red of the LED that the second hand has left. -/
def previousLevel (slot : Float) : Int := 128 - (0.0000256 * slot).toInt64.toInt

/-- A level cut to a byte. -/
def toByte (level : Int) : UInt8 := UInt8.ofNat (min level.toNat 255)

/-- The LED after `i` on a ring whose last LED is `last`. -/
def next (last i : Nat) : Nat := if i < last then i + 1 else 0

/-- The LED before `i` on a ring whose last LED is `last`. -/
def previous (last i : Nat) : Nat := if 0 < i then i - 1 else last

/-- Red at one LED of a ring.  Where neighbours meet on a small ring, the one left behind wins. -/
def redAt (t : TimeOfDay) (last i : Nat) : UInt8 :=
  let second := t.second / 5
  let slot := slotMicros t
  toByte <|
    if i = previous last second then previousLevel slot
    else if i = next last second then nextLevel slot
    else if i = second then handLevel slot
    else 0

/-- One LED of a ring. -/
def colorAt (t : TimeOfDay) (last i : Nat) : Color where
  r := redAt t last i
  g := if i = t.hour % 12 then hand else 0
  b := if i = t.minute / 5 then hand else 0
  w := 0

/-- All LEDs of a ring of `n`. -/
def face (t : TimeOfDay) (n : Nat) : List Color := (List.range n).map (colorAt t (n - 1))

/-- How bright the ring is at an hour: dim at night. -/
def brightness (hour : Nat) : UInt8 := if 9 ≤ hour ∧ hour < 19 then 200 else 25

end RingClock

end LedStrip
