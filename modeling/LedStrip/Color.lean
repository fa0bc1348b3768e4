/-!
# Colors

A color has four components; the last one drives the separate white LED of four-color parts.  On
the strip a color is one 32-bit word, white in the high byte, then red, green and blue.  `pack`
and `unpack` convert between the two, `scale` dims a color, and `wheel` and `ofHue` pick colors
from the two circles that the animations use.
-/

namespace LedStrip

/-- The color of one LED. -/
structure Color where
  r : UInt8
  g : UInt8
  b : UInt8
  w : UInt8
  deriving DecidableEq, Repr, Inhabited

namespace Color

/-- A color that leaves the white LED off. -/
def rgb (r g b : UInt8) : Color := ⟨r, g, b, 0⟩

def black : Color := rgb 0 0 0

def white : Color := rgb 255 255 255

/-! ## Words -/

/-- The word `0xWWRRGGBB` of a color. -/
def pack (c : Color) : UInt32 :=
  UInt32.ofNat (c.w.toNat * 0x1000000 + c.r.toNat * 0x10000 + c.g.toNat * 0x100 + c.b.toNat)

/-- The color that a word `0xWWRRGGBB` stands for. -/
def unpack (word : UInt32) : Color where
  r := UInt8.ofNat (word.toNat / 0x10000)
  g := UInt8.ofNat (word.toNat / 0x100)
  b := UInt8.ofNat word.toNat
  w := UInt8.ofNat (word.toNat / 0x1000000)

theorem toNat_pack (c : Color) :
    c.pack.toNat = c.w.toNat * 0x1000000 + c.r.toNat * 0x10000 + c.g.toNat * 0x100 + c.b.toNat := by
  have hr := c.r.toNat_lt
  have hg := c.g.toNat_lt
  have hb := c.b.toNat_lt
  have hw := c.w.toNat_lt
  simp only [pack, UInt32.toNat_ofNat']
  omega

@[simp] theorem unpack_pack (c : Color) : unpack c.pack = c := by
  obtain ⟨r, g, b, w⟩ := c
  have hr := r.toNat_lt
  have hg := g.toNat_lt
  have hb := b.toNat_lt
  have hw := w.toNat_lt
  simp only [unpack, toNat_pack, mk.injEq]
  refine ⟨?_, ?_, ?_, ?_⟩ <;> apply UInt8.toNat_inj.1 <;> simp only [UInt8.toNat_ofNat'] <;> omega

@[simp] theorem pack_unpack (word : UInt32) : (unpack word).pack = word := by
  have h := word.toNat_lt
  apply UInt32.toNat_inj.1
  simp only [toNat_pack, unpack, UInt8.toNat_ofNat']
  omega

@[simp] theorem pack_black : black.pack = 0 := rfl

/-! ## Brightness -/

/-- A component at a brightness: 255 leaves it as it is, 0 turns it off. -/
def scaleComponent (value brightness : UInt8) : UInt8 :=
  UInt8.ofNat (value.toNat * (brightness.toNat + 1) / 256)

/-- Every component at a brightness. -/
def scale (c : Color) (brightness : UInt8) : Color where
  r := scaleComponent c.r brightness
  g := scaleComponent c.g brightness
  b := scaleComponent c.b brightness
  w := scaleComponent c.w brightness

/-! ## Color circles -/

/-- The rainbow wheel over 256 positions: green to red to blue and back to green. -/
def wheel (position : UInt8) : Color :=
  if position < 85 then
    rgb (position * 3) (255 - position * 3) 0
  else if position < 170 then
    let p := position - 85
    rgb (255 - p * 3) 0 (p * 3)
  else
    let p := position - 170
    rgb 0 (p * 3) (255 - p * 3)

/-- The saturated color at a hue in degrees, full turns dropped.  Between two neighbouring corners
of the circle one component moves linearly, in single precision, cut to a whole number. -/
def ofHue (hue : UInt16) : Color :=
  let degrees := hue.toNat % 360
  let fraction := Float32.ofNat (degrees % 60) / 60
  let rising := (fraction * 255).toUInt8
  let falling := ((1 - fraction) * 255).toUInt8
  match degrees / 60 with
  | 0 => rgb 255 rising 0
  | 1 => rgb falling 255 0
  | 2 => rgb 0 255 rising
  | 3 => rgb 0 falling 255
  | 4 => rgb rising 0 255
  | _ => rgb 255 0 falling

end Color

end LedStrip
