import LedStrip.Text.Pattern.Flags

/-!
# Pattern symbols

The characters of a pattern and its escapes.  An escape is a backslash with what belongs to it, and
stands for a character, a class of characters or a place in the text.
-/

namespace LedStrip.Text.Pattern

/-- A character or an escape. -/
inductive Symbol where
  /-- A character.  Two hexadecimal digits are the value of a byte. -/
  | char (c : Char) (byte : Bool)
  /-- The digits, the blanks or the characters of words, or all but these. -/
  | kind (complement : Bool)
  /-- The start or the end of the text. -/
  | edge
  /-- A place where a word begins or ends, or where none does. -/
  | wordEdge
  deriving DecidableEq, Repr

namespace Symbol

/-- The value of a hexadecimal digit. -/
def hexValue? (c : Char) : Option Nat :=
  if c.isDigit then some (c.toNat - '0'.toNat)
  else if 'a' ≤ c ∧ c ≤ 'f' then some (c.toNat - 'a'.toNat + 10)
  else if 'A' ≤ c ∧ c ≤ 'F' then some (c.toNat - 'A'.toNat + 10)
  else none

/-- Read so many hexadecimal digits, which go on the number `n`. -/
def readHex (f : Flags) : Nat → Nat → List Char → Option (Nat × List Char)
  | 0, n, cs => some (n, cs)
  | k + 1, n, cs =>
    match f.skip cs with
    | [] => none
    | c :: cs =>
      match hexValue? c with
      | some d => readHex f k (n * 16 + d) cs
      | none => none

theorem length_of_readHex {f : Flags} {k n : Nat} {cs : List Char} {r : Nat × List Char}
    (h : readHex f k n cs = some r) : r.2.length ≤ cs.length := by
  fun_induction readHex f k n cs with
  | case1 => grind
  | case2 => simp at h
  | case3 k n cs c rest hs d _ ih =>
    have := f.length_skip_le cs
    grind
  | case4 => simp at h

/-- Read a character that is given by so many hexadecimal digits. -/
def readCodePoint (f : Flags) (digits : Nat) (cs : List Char) : Option (Symbol × List Char) :=
  match readHex f digits 0 cs with
  | some (n, cs) => if n.isValidChar then some (.char (Char.ofNat n) (digits == 2), cs) else none
  | none => none

/-- What a backslash before a character means, where nothing more belongs to it.  A punctuation mark
stands for itself. -/
def ofEscaped? (c : Char) : Option Symbol :=
  match c with
  | 'd' | 's' | 'w' => some (.kind false)
  | 'D' | 'S' | 'W' => some (.kind true)
  | 'A' | 'z' => some .edge
  | 'b' | 'B' | '<' | '>' => some .wordEdge
  | 'a' => some (.char '\x07' false)
  | 'f' => some (.char '\x0c' false)
  | 'n' => some (.char '\n' false)
  | 'r' => some (.char '\r' false)
  | 't' => some (.char '\t' false)
  | 'v' => some (.char '\x0b' false)
  | c => if c.toNat < 0x80 ∧ ¬c.isAlphanum then some (.char c false) else none

/-- Read a character or an escape.  Classes of characters that are named by a property are not
known. -/
def read (f : Flags) : List Char → Option (Symbol × List Char)
  | [] => none
  | '\\' :: cs =>
    match cs with
    | [] => none
    | 'x' :: cs => readCodePoint f 2 cs
    | 'u' :: cs => readCodePoint f 4 cs
    | 'U' :: cs => readCodePoint f 8 cs
    | c :: cs => (ofEscaped? c).map (·, cs)
  | c :: cs => some (.char c false, cs)

theorem length_of_read {f : Flags} {cs : List Char} {r : Symbol × List Char}
    (h : read f cs = some r) : r.2.length < cs.length := by
  have point {k : Nat} {cs : List Char} (h : readCodePoint f k cs = some r) :
      r.2.length ≤ cs.length := by
    unfold readCodePoint at h
    split at h
    · rename_i n cs' hs
      have := length_of_readHex hs
      grind
    · simp at h
  unfold read at h
  grind [Option.map_eq_some_iff]

/-- Whether a symbol can be matched under some flags.  Without tables of the characters, letters of
all scripts can be neither compared caselessly nor sorted into digits, blanks and words; and the
bytes of a match have to be whole characters. -/
def isAllowed (f : Flags) : Symbol → Bool
  | .char c byte => if f.unicode then !f.caseless else !byte || c.toNat < 0x80
  | .kind complement => !f.unicode && !complement
  | .edge => true
  | .wordEdge => !f.unicode

/-- Whether a symbol can be a member of a class.  Those of a class of bytes are ASCII. -/
def isMember (f : Flags) : Symbol → Bool
  | .char c _ => if f.unicode then !f.caseless else c.toNat < 0x80
  | .kind complement => !f.unicode && !complement
  | .edge | .wordEdge => false

/-- Whether two symbols are the ends of a range. -/
def isRange : Symbol → Symbol → Bool
  | .char low _, .char high _ => low ≤ high
  | _, _ => false

end Symbol

end LedStrip.Text.Pattern
