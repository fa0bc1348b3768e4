import LedStrip.Json.Numeral
import LedStrip.Json.Text

/-!
# Passing over a JSON value

A value that is not wanted must still be JSON, but it may nest to any depth and hold numbers of any
size.  The brackets that are open are kept in a list, innermost first.
-/

namespace LedStrip.Json

/-- The two kinds of brackets. -/
inductive Bracket where
  | list
  | object
  deriving DecidableEq, Repr

/-- The character that closes a bracket. -/
def Bracket.close : Bracket → Char
  | list => ']'
  | object => '}'

/-- The refusal of a text that ends inside a bracket. -/
def Bracket.ended : Bracket → Cause
  | list => .eofList
  | object => .eofObject

/-- The refusal of a text with neither comma nor end behind an element. -/
def Bracket.unseparated : Bracket → Cause
  | list => .expectedListCommaOrEnd
  | object => .expectedObjectCommaOrEnd

/-- Read the colon behind a key. -/
def readColon (cs : List Char) : Reading (List Char) :=
  match skipBlank cs with
  | ':' :: rest => .ok rest
  | [] => .error (.before .eofObject [])
  | rest => .error (.onto .expectedColon rest)

/-- Pass over a key and its colon. -/
def skipKey (cs : List Char) : Reading (List Char) :=
  match skipBlank cs with
  | '"' :: rest => skipString rest >>= readColon
  | [] => .error (.before .eofObject [])
  | rest => .error (.onto .keyNotString rest)

/-- Leave the brackets that close here.  What stays open comes with the text behind the comma. -/
def leave : List Bracket → List Char → Reading (List Bracket × List Char)
  | [], cs => .ok ([], cs)
  | b :: bs, cs =>
    match skipBlank cs with
    | [] => .error (.before b.ended [])
    | c :: rest =>
      if c = ',' then .ok (b :: bs, rest)
      else if c = b.close then leave bs rest
      else .error (.onto b.unseparated (c :: rest))

/-- Pass over a value with no brackets of its own; `none` if a bracket opens here. -/
def skipScalar (cs : List Char) : Reading (Option (List Char)) :=
  match cs with
  | [] => .error (.before .eofValue [])
  | c :: rest =>
    if c = 'n' then (readExactly "ull".toList rest).map some
    else if c = 't' then (readExactly "rue".toList rest).map some
    else if c = 'f' then (readExactly "alse".toList rest).map some
    else if c = '"' then (skipString rest).map some
    else if c = '-' ∨ c.isDigit then
      (Numeral.scan .invalidNumber cs).map fun (_, rest) => some rest
    else if c = '[' ∨ c = '{' then .ok none
    else .error (.onto .expectedValue cs)

/-- Go into a bracket: the brackets then open and the text at the first value, or at the end of the
bracket when it is empty. -/
def enter (b : Bracket) (cs : List Char) : Reading (Option (List Char)) :=
  match skipBlank cs with
  | [] => .error (.before b.ended [])
  | c :: rest =>
    if c = b.close then .ok none
    else
      match b with
      | .list => .ok (some (c :: rest))
      | .object => (skipKey (c :: rest)).map some

/-- Go on behind a value: to the next one, or out of all brackets. -/
def advance (bs : List Bracket) (cs : List Char) : Reading (List Bracket × List Char) := do
  let (bs, cs) ← leave bs cs
  match bs with
  | .object :: _ =>
    let cs ← skipKey cs
    return (bs, cs)
  | _ => return (bs, cs)

/-- Pass over the value that starts here and over what is left of the open brackets.  Every value
takes a character, so `fuel` need not exceed the length of the text. -/
def skipWithin : Nat → List Bracket → List Char → Reading (List Char)
  | 0, _, _ => .error (.before .eofValue [])
  | fuel + 1, bs, cs => do
    let cs := skipBlank cs
    let (bs, cs) ←
      match ← skipScalar cs with
      | some rest => advance bs rest
      | none =>
        let b := if cs.head? = some '[' then Bracket.list else Bracket.object
        match ← enter b cs.tail with
        | some inner => pure (b :: bs, inner)
        | none => advance (b :: bs) cs.tail
    match bs with
    | [] => .ok cs
    | _ => skipWithin fuel bs cs

/-- Pass over a value. -/
def skipValue (cs : List Char) : Reading (List Char) := skipWithin (cs.length + 1) [] cs

end LedStrip.Json
