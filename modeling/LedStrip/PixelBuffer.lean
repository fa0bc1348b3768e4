import LedStrip.Color

/-!
# Pixel buffers

The LEDs of one channel as packed words.  The length is fixed; a write past the end changes
nothing.  `Write` lists the ways to change a buffer, `apply` performs one, and `ignored` gives the
indices at which a write misses the buffer, in the order in which it tries them.  Lengths, like all
sizes, are numbers of 64 bits (`sizeSum`, `sizeProduct`).
-/

namespace LedStrip

/-! ## Sizes -/

/-- The sum of two sizes, without the bits that a size does not have. -/
def sizeSum (a b : Nat) : Nat := (a + b) % UInt64.size

/-- The product of two sizes, without the bits that a size does not have. -/
def sizeProduct (a b : Nat) : Nat := a * b % UInt64.size

/-- The packed words of a row of LEDs. -/
structure PixelBuffer where
  words : Array UInt32
  deriving DecidableEq, Repr, Inhabited

namespace PixelBuffer

/-- All LEDs off. -/
def blank (length : Nat) : PixelBuffer := ⟨Array.replicate length 0⟩

def length (p : PixelBuffer) : Nat := p.words.size

def toList (p : PixelBuffer) : List UInt32 := p.words.toList

/-! ## Reading -/

/-- The word of an LED, if there is one at that index. -/
def word? (p : PixelBuffer) (i : Nat) : Option UInt32 := p.words[i]?

/-- The color of an LED, if there is one at that index. -/
def get? (p : PixelBuffer) (i : Nat) : Option Color := (p.word? i).map Color.unpack

/-- All colors, first LED first. -/
def colors (p : PixelBuffer) : List Color := p.toList.map Color.unpack

/-- The colors from one index up to another, cut to the buffer. -/
def range (p : PixelBuffer) (start stop : Nat) : List Color :=
  let stop := min stop p.length
  let start := min start stop
  (p.words.extract start stop).toList.map Color.unpack

/-! ## Writing -/

/-- Store a word; past the end nothing happens. -/
def setWord (p : PixelBuffer) (i : Nat) (word : UInt32) : PixelBuffer :=
  ⟨p.words.setIfInBounds i word⟩

/-- Store a color; past the end nothing happens. -/
def set (p : PixelBuffer) (i : Nat) (c : Color) : PixelBuffer := p.setWord i c.pack

/-- Give every LED one color. -/
def fill (p : PixelBuffer) (c : Color) : PixelBuffer := ⟨Array.replicate p.length c.pack⟩

/-- Turn every LED off. -/
def clear (p : PixelBuffer) : PixelBuffer := ⟨Array.replicate p.length 0⟩

/-- Copy words onto the front of the buffer, as many as fit. -/
def copy (p : PixelBuffer) (words : List UInt32) : PixelBuffer :=
  ⟨(words.take p.length).toArray ++ p.words.extract (min words.length p.length) p.length⟩

/-- Store colors one after the other from an index on. -/
def setRange (p : PixelBuffer) (start : Nat) : List Color → PixelBuffer
  | [] => p
  | c :: cs => (p.set start c).setRange (start + 1) cs

/-- The ways to change a buffer. -/
inductive Write where
  | set (i : Nat) (c : Color)
  | setWord (i : Nat) (word : UInt32)
  | fill (c : Color)
  | clear
  | copy (words : List UInt32)
  | setRange (start : Nat) (cs : List Color)
  deriving DecidableEq, Repr

/-- Store a color that leaves the white LED off. -/
def Write.setRgb (i : Nat) (r g b : UInt8) : Write := .set i (.rgb r g b)

/-- Perform a write. -/
def Write.apply (p : PixelBuffer) : Write → PixelBuffer
  | .set i c => p.set i c
  | .setWord i word => p.setWord i word
  | .fill c => p.fill c
  | .clear => p.clear
  | .copy words => p.copy words
  | .setRange start cs => p.setRange start cs

/-- The indices at which a write misses a buffer of the given length. -/
def Write.ignored (length : Nat) : Write → List Nat
  | .set i _ | .setWord i _ => [i].filter (length ≤ ·)
  | .setRange start cs => (List.range' start cs.length).filter (length ≤ ·)
  | .fill _ | .clear | .copy _ => []

/-! ## Rows that are equal -/

theorem ext_word? {p q : PixelBuffer} (h : ∀ i, p.word? i = q.word? i) : p = q := by
  obtain ⟨words⟩ := p
  obtain ⟨words'⟩ := q
  exact congrArg mk (Array.ext_getElem? h)

theorem word?_of_length_le {p : PixelBuffer} {i : Nat} (h : p.length ≤ i) :
    p.word? i = none :=
  Array.getElem?_eq_none h

/-- Rows of one length are equal if their LEDs are. -/
theorem ext_of_lt {p q : PixelBuffer} (length : p.length = q.length)
    (same : ∀ i < p.length, p.word? i = q.word? i) : p = q := by
  apply ext_word?
  intro i
  by_cases inside : i < p.length
  · exact same i inside
  · have beyond : p.length ≤ i := Nat.le_of_not_lt inside
    rw [word?_of_length_le beyond, word?_of_length_le (length ▸ beyond)]

/-! ## Lengths -/

@[simp] theorem length_blank (n : Nat) : (blank n).length = n := by simp [blank, length]

@[simp] theorem length_setWord (p : PixelBuffer) (i : Nat) (word : UInt32) :
    (p.setWord i word).length = p.length := by simp [setWord, length]

@[simp] theorem length_set (p : PixelBuffer) (i : Nat) (c : Color) :
    (p.set i c).length = p.length := length_setWord ..

@[simp] theorem length_fill (p : PixelBuffer) (c : Color) : (p.fill c).length = p.length := by
  simp [fill, length]

@[simp] theorem length_clear (p : PixelBuffer) : p.clear.length = p.length := by
  simp [clear, length]

@[simp] theorem length_copy (p : PixelBuffer) (words : List UInt32) :
    (p.copy words).length = p.length := by
  simp only [copy, length, Array.size_append, List.size_toArray, List.length_take,
    Array.size_extract]
  omega

@[simp] theorem length_setRange (p : PixelBuffer) (start : Nat) (cs : List Color) :
    (p.setRange start cs).length = p.length := by
  induction cs generalizing p start with
  | nil => rfl
  | cons c cs ih => simp [setRange, ih]

@[simp] theorem length_apply (p : PixelBuffer) (w : Write) : (w.apply p).length = p.length := by
  cases w <;> simp [Write.apply]

/-! ## What is read after a write -/

theorem word?_blank (n i : Nat) : (blank n).word? i = if i < n then some 0 else none := by
  simp [blank, word?, Array.getElem?_replicate]

theorem word?_setWord (p : PixelBuffer) (i j : Nat) (word : UInt32) :
    (p.setWord i word).word? j = if i = j ∧ j < p.length then some word else p.word? j := by
  simp only [setWord, word?, length, Array.getElem?_setIfInBounds]
  grind

theorem word?_set (p : PixelBuffer) (i j : Nat) (c : Color) :
    (p.set i c).word? j = if i = j ∧ j < p.length then some c.pack else p.word? j :=
  word?_setWord ..

theorem word?_fill (p : PixelBuffer) (c : Color) (i : Nat) :
    (p.fill c).word? i = if i < p.length then some c.pack else none := by
  simp [fill, word?, Array.getElem?_replicate]

theorem word?_clear (p : PixelBuffer) (i : Nat) :
    p.clear.word? i = if i < p.length then some 0 else none := by
  simp [clear, word?, Array.getElem?_replicate]

theorem word?_copy (p : PixelBuffer) (words : List UInt32) (i : Nat) :
    (p.copy words).word? i = if i < min words.length p.length then words[i]? else p.word? i := by
  simp only [copy, word?, length, Array.getElem?_append, Array.getElem?_extract]
  grind

/-- Of a range of colors, an LED gets the one at its distance from the start. -/
theorem word?_setRange (p : PixelBuffer) (start : Nat) (cs : List Color) (i : Nat) :
    (p.setRange start cs).word? i =
      if start ≤ i ∧ i < start + cs.length ∧ i < p.length then (cs[i - start]?).map Color.pack
      else p.word? i := by
  induction cs generalizing p start with
  | nil => grind [setRange]
  | cons c cs ih =>
    rw [setRange, ih, word?_set, length_set]
    grind

end PixelBuffer

end LedStrip
