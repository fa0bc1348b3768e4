import LedStrip.Text.Kinds

/-!
# Strip types

A strip type says in which order the LEDs of a strip take their color components off the wire.
There is one type per order of red, green and blue, with and without a white byte at the end.
A type is written by its name, the component letters in wire order; reading also knows the part
numbers that are sold under that order.
-/

namespace LedStrip

/-- The wire orders, named by the component letters as they are sent. -/
inductive StripType where
  | rgb | rbg | grb | gbr | brg | bgr
  | rgbw | rbgw | grbw | gbrw | brgw | bgrw
  deriving DecidableEq, Repr, Inhabited

namespace StripType

/-- All strip types, three-color ones first. -/
def all : List StripType := [rgb, rbg, grb, gbr, brg, bgr, rgbw, rbgw, grbw, gbrw, brgw, bgrw]

theorem mem_all (t : StripType) : t ∈ all := by cases t <;> decide

/-! ## Driver words -/

/-- The word by which the driver knows a strip type.  Its bytes are the bit shifts of the wire slots
in a packed color: the white slot in the high byte, then first, second and third slot. -/
def raw : StripType → UInt32
  | rgb => 0x00100800
  | rbg => 0x00100008
  | grb => 0x00081000
  | gbr => 0x00080010
  | brg => 0x00001008
  | bgr => 0x00000810
  | rgbw => 0x18100800
  | rbgw => 0x18100008
  | grbw => 0x18081000
  | gbrw => 0x18080010
  | brgw => 0x18001008
  | bgrw => 0x18000810

/-- The strip type with a given driver word. -/
def ofRaw? (word : UInt32) : Option StripType := all.find? fun t => t.raw == word

/-! ## Names -/

/-- The name of a strip type: its component letters in wire order. -/
def name : StripType → String
  | rgb => "rgb"
  | rbg => "rbg"
  | grb => "grb"
  | gbr => "gbr"
  | brg => "brg"
  | bgr => "bgr"
  | rgbw => "rgbw"
  | rbgw => "rbgw"
  | grbw => "grbw"
  | gbrw => "gbrw"
  | brgw => "brgw"
  | bgrw => "bgrw"

/-- Part numbers that stand for a strip type. -/
def aliases : List (String × StripType) := [("ws2812", grb), ("sk6812", grb), ("sk6812w", grbw)]

/-- The strip type with exactly this name or part number. -/
def ofName? (key : String) : Option StripType :=
  match aliases.lookup key with
  | some t => some t
  | none => all.find? fun t => t.name == key

/-- A text that names no strip type. -/
structure Unknown where
  text : String
  deriving DecidableEq, Repr

/-- The wording of the refusal, which quotes the text as it was given. -/
def Unknown.message (e : Unknown) : String := "unknown strip type '" ++ e.text ++ "'"

/-- The form in which a name is looked up: no blanks at the ends, ASCII capitals made small. -/
def key (text : String) : String := String.ofList (Text.lower (Text.trim text.toList))

/-- Read a strip type by name or part number. -/
def parse (text : String) : Except Unknown StripType :=
  match ofName? (key text) with
  | some t => .ok t
  | none => .error ⟨text⟩

end StripType

end LedStrip
