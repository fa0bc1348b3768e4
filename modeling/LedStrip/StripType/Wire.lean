import LedStrip.Color
import LedStrip.StripType

/-!
# Wire bytes

What a strip type sends for one LED: three or four bytes, each one component of the packed color,
dimmed to the brightness and looked up in the output curve.  Which component goes into which slot
is read off the driver word of the strip type.
-/

namespace LedStrip.StripType

/-- The bit shifts of the four wire slots; the white slot comes last on the wire. -/
structure Shifts where
  first : Nat
  second : Nat
  third : Nat
  white : Nat
  deriving DecidableEq, Repr

/-- The shifts kept in the driver word. -/
def shifts (t : StripType) : Shifts where
  first := t.raw.toNat / 0x10000 % 256
  second := t.raw.toNat / 0x100 % 256
  third := t.raw.toNat % 256
  white := t.raw.toNat / 0x1000000 % 256

/-- Whether the driver word asks for a white byte. -/
def hasWhite (t : StripType) : Bool := t.raw &&& 0xf0000000 != 0

/-- How many bytes one LED takes on the wire. -/
def bytesPerLed (t : StripType) : Nat := if t.hasWhite then 4 else 3

/-- The output curve that every byte is looked up in: here the straight one. -/
def gamma : Vector UInt8 256 := Vector.ofFn fun i => UInt8.ofNat i.val

/-- The byte of a word at a bit shift, dimmed and looked up in the output curve. -/
def slot (word : UInt32) (brightness : UInt8) (shift : Nat) : UInt8 :=
  let level := Color.scaleComponent (UInt8.ofNat (word.toNat >>> shift)) brightness
  gamma.get ⟨level.toNat, level.toNat_lt⟩

/-- The four slots of one LED; the last one stays zero on a strip without white. -/
def slots (t : StripType) (word : UInt32) (brightness : UInt8) : List UInt8 :=
  [slot word brightness t.shifts.first, slot word brightness t.shifts.second,
    slot word brightness t.shifts.third,
    if t.hasWhite then slot word brightness t.shifts.white else 0]

/-- The bytes sent for one LED. -/
def encodeLed (t : StripType) (word : UInt32) (brightness : UInt8) : List UInt8 :=
  (t.slots word brightness).take t.bytesPerLed

/-- The bytes sent for a row of LEDs, first LED first. -/
def encode (t : StripType) (words : List UInt32) (brightness : UInt8) : List UInt8 :=
  words.flatMap fun word => t.encodeLed word brightness

end LedStrip.StripType
