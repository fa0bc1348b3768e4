import LedStrip.Proofs.Config.Validation
import LedStrip.Strip.Basic

/-!
# Wire bytes name the colors

The driver words say the same as the names: a strip type sends the components of the dimmed color
that the letters of its name stand for, in that order (`encodeLed_eq`).  All LEDs take the same
number of bytes, so the bytes of an LED are found by counting (`drop_encode`), and at full
brightness they tell the whole word, or all but its white byte when none is sent
(`decode_encode`).
-/

namespace LedStrip

/-- The component of a color that a letter stands for. -/
def Color.component (c : Color) : Char → UInt8
  | 'r' => c.r
  | 'g' => c.g
  | 'b' => c.b
  | 'w' => c.w
  | _ => 0

theorem Color.scale_255 (c : Color) : c.scale 255 = c := by
  have component (value : UInt8) : scaleComponent value 255 = value := by
    have h : (255 : UInt8).toNat = 255 := rfl
    rw [scaleComponent, h, Nat.mul_div_cancel _ (Nat.succ_pos 255)]
    exact UInt8.ofNat_toNat
  simp only [scale, component]

namespace StripType

/-! ## One LED -/

/-- Where the component that a letter stands for begins in a word. -/
def shiftOf : Char → Nat
  | 'r' => 16
  | 'g' => 8
  | 'b' => 0
  | _ => 24

/-- The output curve is the straight one. -/
theorem slot_eq (word : UInt32) (brightness : UInt8) (shift : Nat) :
    slot word brightness shift =
      Color.scaleComponent (UInt8.ofNat (word.toNat >>> shift)) brightness := by
  simp only [slot, gamma]
  rw [get_ofFn]
  exact UInt8.ofNat_toNat

theorem slot_shiftOf (word : UInt32) (brightness : UInt8) {letter : Char}
    (known : letter ∈ ['r', 'g', 'b', 'w']) :
    slot word brightness (shiftOf letter) =
      ((Color.unpack word).scale brightness).component letter := by
  simp only [List.mem_cons, List.not_mem_nil, or_false] at known
  rw [slot_eq, Nat.shiftRight_eq_div_pow]
  rcases known with rfl | rfl | rfl | rfl
  · rfl
  · rfl
  · rw [shiftOf, Nat.pow_zero, Nat.div_one]
    rfl
  · rfl

theorem length_name (t : StripType) : t.name.toList.length = t.bytesPerLed := by
  cases t <;> decide

theorem mem_name (t : StripType) : ∀ letter ∈ t.name.toList, letter ∈ ['r', 'g', 'b', 'w'] := by
  cases t <;> simp [name]

theorem hasWhite_iff (t : StripType) : t.hasWhite = true ↔ 'w' ∈ t.name.toList := by
  cases t <;> decide

/-- The driver word has the shifts of the letters. -/
theorem encodeLed_eq_slots (t : StripType) (word : UInt32) (brightness : UInt8) :
    t.encodeLed word brightness =
      t.name.toList.map fun letter => slot word brightness (shiftOf letter) := by
  cases t <;> rfl

/-- The bytes of an LED are the components that the letters of the name stand for. -/
theorem encodeLed_eq (t : StripType) (word : UInt32) (brightness : UInt8) :
    t.encodeLed word brightness =
      t.name.toList.map ((Color.unpack word).scale brightness).component := by
  rw [encodeLed_eq_slots]
  exact List.map_congr_left fun letter mem => slot_shiftOf word brightness (t.mem_name letter mem)

theorem length_encodeLed (t : StripType) (word : UInt32) (brightness : UInt8) :
    (t.encodeLed word brightness).length = t.bytesPerLed := by
  rw [encodeLed_eq, List.length_map, length_name]

/-! ## A row of LEDs -/

variable (t : StripType) (words : List UInt32) (brightness : UInt8)

theorem encode_cons (word : UInt32) : t.encode (word :: words) brightness =
    t.encodeLed word brightness ++ t.encode words brightness :=
  List.flatMap_cons

theorem length_encode : (t.encode words brightness).length = words.length * t.bytesPerLed := by
  induction words with
  | nil => exact (Nat.zero_mul _).symm
  | cons word words ih =>
    rw [encode_cons, List.length_append, length_encodeLed, ih, List.length_cons, Nat.succ_mul,
      Nat.add_comm]

/-- Behind the bytes of so many LEDs come the bytes of the LEDs behind them. -/
theorem drop_encode (k : Nat) :
    (t.encode words brightness).drop (k * t.bytesPerLed) = t.encode (words.drop k) brightness := by
  induction k generalizing words with
  | zero => rw [Nat.zero_mul, List.drop_zero, List.drop_zero]
  | succ k ih =>
    cases words with
    | nil => exact List.drop_nil
    | cons word words =>
      rw [List.drop_succ_cons, ← ih, encode_cons, Nat.succ_mul, Nat.add_comm, ← List.drop_drop,
        ← t.length_encodeLed word brightness, List.drop_left]

/-- The byte of an LED at a place in the name. -/
theorem getElem?_encode {k j : Nat} {word : UInt32} {letter : Char} (led : words[k]? = some word)
    (place : t.name.toList[j]? = some letter) :
    (t.encode words brightness)[k * t.bytesPerLed + j]? =
      some (((Color.unpack word).scale brightness).component letter) := by
  obtain ⟨inside, rfl⟩ := List.getElem?_eq_some_iff.1 led
  have bytes : (t.encodeLed words[k] brightness)[j]? =
      some (((Color.unpack words[k]).scale brightness).component letter) := by
    rw [encodeLed_eq, List.getElem?_map, place, Option.map_some]
  have short : j < (t.encodeLed words[k] brightness).length :=
    (List.getElem?_eq_some_iff.1 bytes).1
  rw [← List.getElem?_drop, drop_encode, List.drop_eq_getElem_cons inside, encode_cons,
    List.getElem?_append_left short, bytes]

/-! ## Reading the bytes back -/

/-- The color that the bytes of one LED stand for; a component that is not sent is zero. -/
def decodeLed (bytes : List UInt8) : UInt32 :=
  let sent (letter : Char) := ((t.name.toList.zip bytes).lookup letter).getD 0
  Color.pack ⟨sent 'r', sent 'g', sent 'b', sent 'w'⟩

/-- The colors that the bytes of a row of LEDs stand for. -/
def decode (bytes : List UInt8) : List UInt32 :=
  (List.range (bytes.length / t.bytesPerLed)).map fun k =>
    t.decodeLed ((bytes.drop (k * t.bytesPerLed)).take t.bytesPerLed)

/-- What a strip type sends of a word: all of it, or all but the white byte. -/
def sentOf (word : UInt32) : UInt32 := if t.hasWhite then word else word &&& 0xffffff

theorem map_sentOf : words.map t.sentOf =
    if 'w' ∈ t.name.toList then words else words.map (· &&& 0xffffff) := by
  by_cases white : 'w' ∈ t.name.toList
  · rw [if_pos white]
    have whole (word : UInt32) : t.sentOf word = word := if_pos (t.hasWhite_iff.2 white)
    exact List.map_id'' whole words
  · rw [if_neg white]
    exact List.map_congr_left fun word _ => if_neg (white ∘ t.hasWhite_iff.1)

theorem bytesPerLed_pos : 0 < t.bytesPerLed := by
  cases t <;> decide

theorem pack_of_white_zero (word : UInt32) :
    Color.pack { Color.unpack word with w := 0 } = word &&& 0xffffff := by
  apply UInt32.toNat_inj.1
  have mask : (word &&& 0xffffff).toNat = word.toNat % 0x1000000 := by
    rw [UInt32.toNat_and]
    exact Nat.and_two_pow_sub_one_eq_mod _ 24
  have zero : (0 : UInt8).toNat = 0 := rfl
  simp only [Color.toNat_pack, Color.unpack, UInt8.toNat_ofNat', mask, zero]
  omega

theorem lookup_zip_map (letters : List Char) (f : Char → UInt8) (letter : Char) :
    (letters.zip (letters.map f)).lookup letter =
      if letter ∈ letters then some (f letter) else none := by
  induction letters with
  | nil => rfl
  | cons first letters ih =>
    rw [List.map_cons, List.zip_cons_cons, List.lookup_cons, ih]
    by_cases same : letter = first
    · simp [same]
    · simp [same, beq_false_of_ne same]

theorem color_mem_name : ∀ letter ∈ ['r', 'g', 'b'], letter ∈ t.name.toList := by
  cases t <;> simp [name]

/-- The bytes of one LED tell what was sent of its word. -/
theorem decodeLed_encodeLed (word : UInt32) :
    t.decodeLed (t.encodeLed word 255) = t.sentOf word := by
  have red := t.color_mem_name 'r' (by decide)
  have green := t.color_mem_name 'g' (by decide)
  have blue := t.color_mem_name 'b' (by decide)
  simp only [decodeLed, encodeLed_eq, Color.scale_255, lookup_zip_map, if_pos red, if_pos green,
    if_pos blue, ← hasWhite_iff, sentOf, Option.getD_some]
  split
  · exact Color.pack_unpack word
  · exact pack_of_white_zero word

/-- At full brightness the bytes tell what was sent of every word. -/
theorem decode_encode : t.decode (t.encode words 255) = words.map t.sentOf := by
  have count : (t.encode words 255).length / t.bytesPerLed = words.length := by
    rw [length_encode, Nat.mul_div_cancel _ t.bytesPerLed_pos]
  apply List.ext_getElem?
  intro k
  rw [decode, count, List.getElem?_map, List.getElem?_map]
  by_cases inside : k < words.length
  · rw [List.getElem?_range inside, List.getElem?_eq_getElem inside, Option.map_some,
      Option.map_some, drop_encode, List.drop_eq_getElem_cons inside, encode_cons,
      ← t.length_encodeLed words[k] 255, List.take_left, decodeLed_encodeLed]
  · have outside := Nat.le_of_not_lt inside
    rw [List.getElem?_eq_none_iff.2 outside,
      List.getElem?_eq_none_iff.2 (List.length_range ▸ outside)]
    rfl

/-- What is not sent of a word makes no difference to its bytes. -/
theorem encodeLed_sentOf (word : UInt32) :
    t.encodeLed (t.sentOf word) brightness = t.encodeLed word brightness := by
  rw [sentOf]
  split
  · rfl
  · next colors =>
    rw [← pack_of_white_zero, encodeLed_eq, encodeLed_eq, Color.unpack_pack]
    apply List.map_congr_left
    intro letter mem
    have known := t.mem_name letter mem
    simp only [List.mem_cons, List.not_mem_nil, or_false] at known
    rcases known with rfl | rfl | rfl | rfl
    · rfl
    · rfl
    · rfl
    · exact absurd (t.hasWhite_iff.2 mem) colors

theorem encode_map_sentOf :
    t.encode (words.map t.sentOf) brightness = t.encode words brightness := by
  rw [encode, List.flatMap_map]
  exact congrArg words.flatMap (funext fun word => t.encodeLed_sentOf brightness word)

/-- At full brightness two rows have the same bytes exactly when the same is sent of them. -/
theorem encode_eq_encode_iff (others : List UInt32) :
    t.encode others 255 = t.encode words 255 ↔ others.map t.sentOf = words.map t.sentOf := by
  constructor
  · intro same
    rw [← decode_encode, ← decode_encode, same]
  · intro same
    rw [← encode_map_sentOf, same, encode_map_sentOf]

end StripType

theorem PixelBuffer.toList_inj {p q : PixelBuffer} : p.toList = q.toList ↔ p = q := by
  cases p
  cases q
  rw [toList, toList, Array.toList_inj, mk.injEq]

/-- The bytes of a channel: so many for each LED, each the component of the dimmed color that the
letter at its place in the name of the strip type stands for.  At full brightness one decoder for
each strip type reads the LEDs back, all but the white byte where none is sent, so rows of LEDs
that differ in what is sent of them have different bytes. -/
theorem Channel.wire_codec (c : Channel) :
    let t := c.config.stripType
    let full := c.withBrightness 255
    t.bytesPerLed = t.name.toList.length ∧
    c.wire.length = c.pixels.length * t.bytesPerLed ∧
    (∀ k j word letter, c.pixels.word? k = some word → t.name.toList[j]? = some letter →
      c.wire[k * t.bytesPerLed + j]? =
        some (((Color.unpack word).scale c.brightness).component letter)) ∧
    t.decode full.wire =
      (if 'w' ∈ t.name.toList then c.pixels.toList else c.pixels.toList.map (· &&& 0xffffff)) ∧
    ∀ other : PixelBuffer, { full with pixels := other }.wire = full.wire ↔
      if 'w' ∈ t.name.toList then other = c.pixels
      else other.toList.map (· &&& 0xffffff) = c.pixels.toList.map (· &&& 0xffffff) := by
  intro t full
  refine ⟨t.length_name.symm, ?_, fun k j word letter led place => ?_, ?_, fun other => ?_⟩
  · exact t.length_encode c.pixels.toList c.brightness
  · have led' : c.pixels.toList[k]? = some word := (Array.getElem?_toList ..).trans led
    exact t.getElem?_encode c.pixels.toList c.brightness led' place
  · exact (t.decode_encode c.pixels.toList).trans (t.map_sentOf _)
  · refine (t.encode_eq_encode_iff c.pixels.toList other.toList).trans ?_
    rw [t.map_sentOf, t.map_sentOf]
    split
    · exact PixelBuffer.toList_inj
    · rfl

/-- The white byte of the second LED, dimmed to half. -/
theorem Channel.wire_codec_white :
    let c : Channel := ⟨{ ChannelConfig.of 2 18 with stripType := .grbw, brightness := 127 },
      ⟨#[0x40ff8010, 0xc8000000]⟩⟩
    c.pixels.word? 1 = some 0xc8000000 ∧ c.config.stripType.name.toList[3]? = some 'w' ∧
      c.wire[1 * c.config.stripType.bytesPerLed + 3]? = some 100 := by
  intro c
  obtain ⟨-, -, bytes, -⟩ := wire_codec c
  have led : c.pixels.word? 1 = some 0xc8000000 := rfl
  have place : c.config.stripType.name.toList[3]? = some 'w' := by decide
  exact ⟨led, place, (bytes 1 3 _ _ led place).trans (by decide)⟩

end LedStrip
