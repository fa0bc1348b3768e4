import LedStrip.Decimal.Shortest
import LedStrip.Text.Shown

/-!
# Why a JSON text is refused

`Cause` lists the reasons; `message` words them and `category` sorts them: the text ends too early,
is no JSON, or is JSON that does not describe what is read.
-/

namespace LedStrip.Json

/-- The three sorts of refusal. -/
inductive Category where
  | data
  | eof
  | grammar
  deriving DecidableEq, Repr

/-- What stands where another kind of value is expected. -/
inductive Found where
  | null
  | bool (b : Bool)
  | integer (n : Int)
  | float (x : Float)
  | string (s : String)
  | sequence
  | map

/-- Why a text is refused. -/
inductive Cause where
  | eofList
  | eofObject
  | eofString
  | eofValue
  | expectedColon
  | expectedListCommaOrEnd
  | expectedObjectCommaOrEnd
  | expectedIdent
  | expectedValue
  | invalidEscape
  | invalidNumber
  | numberOutOfRange
  | controlCharacter
  | keyNotString
  | loneSurrogate
  | trailingComma
  | trailingCharacters
  | endOfHexEscape
  | invalidType (found : Found) (expected : String)
  | invalidValue (found : Found) (expected : String)
  | invalidLength (length : Nat) (expected : String)
  | duplicateField (name : String)
  | unknownVariant (name : String) (expected : List String)
  | rejected (reason : String)

/-! ## Number text -/

/-- Zeros to fill a decimal up. -/
def zeros (n : Nat) : String := String.ofList (List.replicate n '0')

/-- A decimal `d * 10 ^ e`: positional from `1e-5` up to below `1e16`, else with an exponent. -/
def decimalText (d : Nat) (e : Int) : String :=
  let digits := toString d
  let point := (digits.length : Int) + e
  if 16 < point ∨ point < -4 then
    let rest := String.ofList (digits.toList.drop 1)
    let mantissa := String.ofList (digits.toList.take 1) ++ if rest = "" then "" else "." ++ rest
    let power := point - 1
    mantissa ++ "e" ++ (if power < 0 then "-" else "+") ++ toString power.natAbs
  else if 0 ≤ e then
    digits ++ zeros e.toNat ++ ".0"
  else if 0 < point then
    String.ofList (digits.toList.take point.toNat) ++ "." ++
      String.ofList (digits.toList.drop point.toNat)
  else
    "0." ++ zeros (-point).toNat ++ digits

/-- A finite double in the fewest digits that read back as it. -/
def floatText (x : Float) : String :=
  let sign := if x.toBits.toNat < 0x8000000000000000 then "" else "-"
  let b := Decimal.Binary.ofFloat x
  if b.mantissa = 0 then sign ++ "0.0"
  else
    let (d, e) := Decimal.shortest b
    sign ++ decimalText d e

/-! ## Wording -/

/-- How a value is described in a refusal. -/
def Found.text : Found → String
  | null => "null"
  | bool b => "boolean `" ++ toString b ++ "`"
  | integer n => "integer `" ++ toString n ++ "`"
  | float x => "floating point `" ++ floatText x ++ "`"
  | string s => "string " ++ Text.quote s
  | sequence => "sequence"
  | map => "map"

/-- Names in backquotes, the last two joined by "or". -/
def alternatives : List String → String
  | [] => ""
  | [a] => "`" ++ a ++ "`"
  | [a, b] => "`" ++ a ++ "` or `" ++ b ++ "`"
  | a :: rest => "`" ++ a ++ "`, " ++ alternatives rest

namespace Cause

/-- The wording of a refusal. -/
def message : Cause → String
  | eofList => "EOF while parsing a list"
  | eofObject => "EOF while parsing an object"
  | eofString => "EOF while parsing a string"
  | eofValue => "EOF while parsing a value"
  | expectedColon => "expected `:`"
  | expectedListCommaOrEnd => "expected `,` or `]`"
  | expectedObjectCommaOrEnd => "expected `,` or `\x7d`"
  | expectedIdent => "expected ident"
  | expectedValue => "expected value"
  | invalidEscape => "invalid escape"
  | invalidNumber => "invalid number"
  | numberOutOfRange => "number out of range"
  | controlCharacter => "control character (\\u0000-\\u001F) found while parsing a string"
  | keyNotString => "key must be a string"
  | loneSurrogate => "lone leading surrogate in hex escape"
  | trailingComma => "trailing comma"
  | trailingCharacters => "trailing characters"
  | endOfHexEscape => "unexpected end of hex escape"
  | invalidType found expected => "invalid type: " ++ found.text ++ ", expected " ++ expected
  | invalidValue found expected => "invalid value: " ++ found.text ++ ", expected " ++ expected
  | invalidLength length expected =>
    "invalid length " ++ toString length ++ ", expected " ++ expected
  | duplicateField name => "duplicate field `" ++ name ++ "`"
  | unknownVariant name expected =>
    "unknown variant `" ++ name ++ "`, expected " ++ alternatives expected
  | rejected reason => reason

/-- The sort of a refusal. -/
def category : Cause → Category
  | eofList | eofObject | eofString | eofValue => .eof
  | invalidType .. | invalidValue .. | invalidLength .. | duplicateField .. | unknownVariant ..
  | rejected .. => .data
  | _ => .grammar

end Cause

/-- A refused text: the cause, and the line and column where it was noticed, if that is known. -/
structure Fault where
  cause : Cause
  place : Option (Nat × Nat)

/-- The wording of a refusal with its place. -/
def Fault.message (f : Fault) : String :=
  match f.place with
  | some (line, column) =>
    f.cause.message ++ " at line " ++ toString line ++ " column " ++ toString column
  | none => f.cause.message

end LedStrip.Json
