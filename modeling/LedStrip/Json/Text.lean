import LedStrip.Json.Reading

/-!
# Strings in a JSON text

A string is read one character at a time; `Mode` is what the next character means.  In a string
that is kept, the two halves of a character beyond the basic plane must stand together; in one that
is skipped any four digits will do.
-/

namespace LedStrip.Json

/-- What the next character of a string means. -/
inductive Mode where
  /-- A character of the string, or its end. -/
  | plain
  /-- The character behind a backslash. -/
  | escape
  /-- A hexadecimal digit; `high` is the half before, and `count` digits of `code` are read. -/
  | hex (high : Option Nat) (count code : Nat)
  /-- The backslash of the second half. -/
  | half (high : Nat)
  /-- The letter behind that backslash. -/
  | halfEscape (high : Nat)

/-- The value of a hexadecimal digit. -/
def hexDigit? (c : Char) : Option Nat :=
  if c.isDigit then some (c.toNat - '0'.toNat)
  else if 'a' ≤ c ∧ c ≤ 'f' then some (c.toNat - 'a'.toNat + 10)
  else if 'A' ≤ c ∧ c ≤ 'F' then some (c.toNat - 'A'.toNat + 10)
  else none

/-- The character that a one-letter escape stands for. -/
def shortEscape? : Char → Option Char
  | '"' => some '"'
  | '\\' => some '\\'
  | '/' => some '/'
  | 'b' => some '\x08'
  | 'f' => some '\x0c'
  | 'n' => some '\n'
  | 'r' => some '\r'
  | 't' => some '\t'
  | _ => none

def isHighHalf (code : Nat) : Bool := 0xd800 ≤ code && code ≤ 0xdbff

def isLowHalf (code : Nat) : Bool := 0xdc00 ≤ code && code ≤ 0xdfff

/-- The character that two halves stand for. -/
def joinHalves (high low : Nat) : Char :=
  Char.ofNat ((high - 0xd800) * 0x400 + (low - 0xdc00) + 0x10000)

/-- What follows the last digit of an escape: a character, or the wait for a second half, or nothing
when halves stand alone. -/
def finishHex (kept : Bool) (high : Option Nat) (code : Nat) : Option (Mode × List Char) :=
  match kept, high with
  | false, _ => some (.plain, [Char.ofNat code])
  | true, none =>
    if isLowHalf code then none
    else if isHighHalf code then some (.half code, [])
    else some (.plain, [Char.ofNat code])
  | true, some high =>
    if isLowHalf code then some (.plain, [joinHalves high code]) else none

/-- Four bytes of digits are cut off before they are looked at. -/
def badHex (count : Nat) (cs : List Char) : Refusal :=
  let left := byteLength cs + count
  if left < 4 then .placed .eofString 0 else .placed .invalidEscape (left - 4)

/-- Read a string behind its opening quote; `seen` is what was read, last character first. -/
def scanString (kept : Bool) : Mode → List Char → List Char → Reading (String × List Char)
  | .hex _ count _, _, [] => .error (badHex count [])
  | _, _, [] => .error (.before .eofString [])
  | .plain, seen, c :: cs =>
    if c = '"' then .ok (String.ofList seen.reverse, cs)
    else if c = '\\' then scanString kept .escape seen cs
    else if c.toNat < 0x20 then
      .error (.before .controlCharacter (if kept then cs else c :: cs))
    else scanString kept .plain (c :: seen) cs
  | .escape, seen, c :: cs =>
    if c = 'u' then scanString kept (.hex none 0 0) seen cs
    else
      match shortEscape? c with
      | some e => scanString kept .plain (e :: seen) cs
      | none => .error (.onto .invalidEscape (c :: cs))
  | .hex high count code, seen, c :: cs =>
    match hexDigit? c with
    | none => .error (badHex count (c :: cs))
    | some d =>
      let code := code * 16 + d
      if count < 3 then scanString kept (.hex high (count + 1) code) seen cs
      else
        match finishHex kept high code with
        | some (mode, new) => scanString kept mode (new ++ seen) cs
        | none => .error (.before .loneSurrogate cs)
  | .half high, seen, c :: cs =>
    if c = '\\' then scanString kept (.halfEscape high) seen cs
    else .error (.onto .endOfHexEscape (c :: cs))
  | .halfEscape high, seen, c :: cs =>
    if c = 'u' then scanString kept (.hex (some high) 0 0) seen cs
    else .error (.onto .endOfHexEscape (c :: cs))

/-- Read a string that is kept, behind its opening quote. -/
def readString (cs : List Char) : Reading (String × List Char) := scanString true .plain [] cs

/-- Pass over a string, behind its opening quote. -/
def skipString (cs : List Char) : Reading (List Char) :=
  (scanString false .plain [] cs).map Prod.snd

end LedStrip.Json
