import LedStrip.Json.Record

/-!
# The grammar of JSON texts

What a JSON text is, said without the readers: blanks, numbers, strings, lists, objects and the
values made of them.  A string is described twice, by what may stand in it (`IsString`) and, when
the codes in it stand for characters, by the text that it denotes (`Denotes`).

The elements of a list and the members of an object are both `Items` of a bracket.  What follows a
value in a text is the end of the text or one of the characters that `Ends` admits, so a reader
can tell where a number stops.
-/

namespace LedStrip.Json

/-- Blanks between the tokens of a text. -/
def Blank (w : List Char) : Prop := ∀ c ∈ w, c ∈ [' ', '\t', '\n', '\r']

/-- What can follow a value: nothing, or a text that begins with a blank, a comma or the end of a
bracket. -/
def Ends (rest : List Char) : Prop :=
  ∀ c ∈ rest.head?, c ∈ [' ', '\t', '\n', '\r', ',', ']', '}']

/-! ## Numbers -/

/-- One or more digits. -/
def Digits (ds : List Char) : Prop := ds ≠ [] ∧ ∀ c ∈ ds, c.isDigit = true

/-- The digits before the point: a zero stands alone. -/
inductive Whole : List Char → Prop
  | zero : Whole ['0']
  | digits {c : Char} {ds : List Char} : c ≠ '0' → Digits (c :: ds) → Whole (c :: ds)

/-- The point with digits behind it, or nothing. -/
inductive Fraction : List Char → Prop
  | none : Fraction []
  | some {ds : List Char} : Digits ds → Fraction ('.' :: ds)

/-- The exponent, or nothing. -/
inductive Exponent : List Char → Prop
  | none : Exponent []
  | some {e : Char} {sign ds : List Char} : e ∈ ['e', 'E'] → sign ∈ [[], ['+'], ['-']] →
    Digits ds → Exponent (e :: (sign ++ ds))

/-- A number. -/
inductive IsNumber : List Char → Prop
  | mk {sign whole fraction exponent : List Char} : sign ∈ [[], ['-']] → Whole whole →
    Fraction fraction → Exponent exponent → IsNumber (sign ++ (whole ++ (fraction ++ exponent)))

/-! ## Strings -/

/-- A hexadecimal digit, small or capital, and its value. -/
def HexDigit (d : Char) (n : Nat) : Prop :=
  "0123456789abcdef".toList[n]? = some d ∨ "0123456789ABCDEF".toList[n]? = some d

/-- Four hexadecimal digits and the code that they make. -/
inductive HexCode : List Char → Nat → Prop
  | mk {a b c d : Char} {i j k l : Nat} : HexDigit a i → HexDigit b j → HexDigit c k →
    HexDigit d l → HexCode [a, b, c, d] (((i * 16 + j) * 16 + k) * 16 + l)

/-- The letters behind a backslash and the characters that they stand for. -/
def shortEscapes : List (Char × Char) :=
  [('"', '"'), ('\\', '\\'), ('/', '/'), ('b', '\x08'), ('f', '\x0c'), ('n', '\n'), ('r', '\r'),
    ('t', '\t')]

/-- A character that may stand in a string as it is. -/
def Plain (c : Char) : Prop := c ≠ '"' ∧ c ≠ '\\' ∧ 0x20 ≤ c.toNat

/-- What may stand between the quotes of a string; any four digits make a code. -/
inductive StringBody : List Char → Prop
  | nil : StringBody []
  | plain {c : Char} {cs : List Char} : Plain c → StringBody cs → StringBody (c :: cs)
  | escape {e c : Char} {cs : List Char} : (e, c) ∈ shortEscapes → StringBody cs →
    StringBody ('\\' :: e :: cs)
  | code {ds cs : List Char} {n : Nat} : HexCode ds n → StringBody cs →
    StringBody ('\\' :: 'u' :: (ds ++ cs))

/-- What may stand between the quotes of a string that denotes a text: a code is that of a
character, or it is the first of the two that make up a character beyond the basic plane. -/
inductive Spelled : List Char → List Char → Prop
  | nil : Spelled [] []
  | plain {c : Char} {s cs : List Char} : Plain c → Spelled s cs → Spelled (c :: s) (c :: cs)
  | escape {e c : Char} {s cs : List Char} : (e, c) ∈ shortEscapes → Spelled s cs →
    Spelled (c :: s) ('\\' :: e :: cs)
  | code {c : Char} {ds s cs : List Char} : HexCode ds c.toNat → Spelled s cs →
    Spelled (c :: s) ('\\' :: 'u' :: (ds ++ cs))
  | pair {c : Char} {ds ds' s cs : List Char} {h l : Nat} : h < 0x400 → l < 0x400 →
    HexCode ds (0xd800 + h) → HexCode ds' (0xdc00 + l) → c.toNat = 0x10000 + h * 0x400 + l →
    Spelled s cs → Spelled (c :: s) ('\\' :: 'u' :: (ds ++ '\\' :: 'u' :: (ds' ++ cs)))

/-- A string, whatever the codes in it are. -/
inductive IsString : List Char → Prop
  | mk {body : List Char} : StringBody body → IsString ('"' :: (body ++ ['"']))

/-- A string that denotes a text. -/
inductive Denotes (s : String) : List Char → Prop
  | mk {body : List Char} : Spelled s.toList body → Denotes s ('"' :: (body ++ ['"']))

/-! ## Brackets -/

/-- What stands before an item of a bracket: blanks before the first one, and a comma among the
blanks before the others. -/
inductive Lead : Bool → List Char → Prop
  | first {w : List Char} : Blank w → Lead true w
  | next {w w' : List Char} : Blank w → Blank w' → Lead false (w ++ ',' :: w')

/-- The items of a bracket up to its end; the flag tells whether the first of them is the first in
the bracket. -/
inductive Items (close : Char) : Bool → List (List Char) → List Char → Prop
  | nil {first : Bool} {w : List Char} : Blank w → Items close first [] (w ++ [close])
  | cons {first : Bool} {lead item cs : List Char} {items : List (List Char)} : Lead first lead →
    Items close false items cs → Items close first (item :: items) (lead ++ (item ++ cs))

/-- A list of these elements. -/
inductive IsList (elements : List (List Char)) : List Char → Prop
  | mk {cs : List Char} : Items ']' true elements cs → IsList elements ('[' :: cs)

/-- A member of an object, with the blanks around its colon. -/
structure Member where
  key : List Char
  before : List Char
  after : List Char
  value : List Char
  blank_before : Blank before
  blank_after : Blank after

def Member.text (m : Member) : List Char := m.key ++ (m.before ++ ':' :: (m.after ++ m.value))

/-- An object of these members. -/
inductive IsObject (members : List Member) : List Char → Prop
  | mk {cs : List Char} : Items '}' true (members.map Member.text) cs →
    IsObject members ('{' :: cs)

/-- A value. -/
inductive Value : List Char → Prop
  | null : Value "null".toList
  | true : Value "true".toList
  | false : Value "false".toList
  | number {cs : List Char} : IsNumber cs → Value cs
  | string {cs : List Char} : IsString cs → Value cs
  | list {elements : List (List Char)} {cs : List Char} : IsList elements cs →
    (∀ e ∈ elements, Value e) → Value cs
  | object {members : List Member} {cs : List Char} : IsObject members cs →
    (∀ m ∈ members, IsString m.key) → (∀ m ∈ members, Value m.value) → Value cs

end LedStrip.Json
