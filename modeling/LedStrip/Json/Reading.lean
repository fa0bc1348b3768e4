import LedStrip.Json.Cause

/-!
# Reading a JSON text

A reader takes the characters still to be read and returns a value and the characters behind it,
or a refusal.  A refusal remembers how many bytes of the text were left where it was noticed, so
that line and column can be found afterwards.  One that is about the meaning of a value does not
know its place yet: the enclosing list or object settles it when it is left.
-/

namespace LedStrip.Json

/-- A refusal at a place, given by the number of bytes behind it, or one whose place is not settled,
with the characters still to be read. -/
inductive Refusal where
  | placed (cause : Cause) (left : Nat)
  | pending (cause : Cause) (rest : List Char)

/-- What a reader returns, mostly a value with the rest of the text. -/
abbrev Reading := Except Refusal

/-- How many bytes a text takes. -/
def byteLength : List Char → Nat
  | [] => 0
  | c :: cs => c.utf8Size + byteLength cs

/-- A refusal right before the given characters. -/
def Refusal.before (cause : Cause) (rest : List Char) : Refusal := .placed cause (byteLength rest)

/-- A refusal one byte into the given characters, which is where a look-ahead is noticed. -/
def Refusal.onto (cause : Cause) (rest : List Char) : Refusal := .placed cause (byteLength rest - 1)

/-- Blanks of JSON. -/
def isBlank (c : Char) : Bool := c == ' ' || c == '\n' || c == '\t' || c == '\r'

/-- The text behind the blanks at its front. -/
def skipBlank : List Char → List Char := List.dropWhile isBlank

/-- Read the given characters; the first other one is eaten before it is refused. -/
def readExactly : List Char → List Char → Reading (List Char)
  | [], cs => .ok cs
  | _ :: _, [] => .error (.before .eofValue [])
  | w :: ws, c :: cs =>
    if c = w then readExactly ws cs else .error (.onto .expectedIdent (c :: cs))

end LedStrip.Json
