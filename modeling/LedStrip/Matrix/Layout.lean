import LedStrip.Json.Record

/-!
# Layouts

How the rows of a panel are chained: all in the same direction, or turning back on every other row.
-/

namespace LedStrip

/-- How consecutive rows are chained. -/
inductive Layout where
  /-- Every row runs left to right. -/
  | normal
  /-- Odd rows run right to left. -/
  | zigzag
  deriving DecidableEq, Repr, Inhabited

namespace Layout

def all : List Layout := [normal, zigzag]

def name : Layout → String
  | normal => "normal"
  | zigzag => "zigzag"

/-- The layout with this name, ASCII capitals taken for small letters if they are to be ignored. -/
def ofName? (ignoreCase : Bool) (s : String) : Option Layout :=
  all.find? fun l => l.name == if ignoreCase then s.toLower else s

/-! ## As JSON -/

/-- A layout as JSON: its name as a string. -/
def toJson (l : Layout) : String := "\"" ++ l.name ++ "\""

/-- Read the name of a layout. -/
def readName (expected : String) (cs : List Char) : Json.Reading (Layout × List Char) := do
  let (text, rest) ← Json.readText expected cs
  match ofName? false text with
  | some l => return (l, rest)
  | none => .error (.before (.unknownVariant text (all.map name)) rest)

/-- Read the rest of an object with the name of a layout as its only key and nothing under it. -/
def readKeyed (cs : List Char) : Json.Reading (Layout × List Char) :=
  match Json.skipBlank cs with
  | [] => .error (.before .eofValue [])
  | '"' :: rest => do
    let (l, rest) ← readName "variant identifier" ('"' :: rest)
    let (_, rest) ← Json.readNull "unit" (← Json.readColon rest)
    match Json.skipBlank rest with
    | '}' :: rest => return (l, rest)
    | [] => .error (.before .eofObject [])
    | rest => .error (.before .expectedValue rest)
  | rest => .error (.onto .keyNotString rest)

/-- Read a layout: its name, or an object with the name as its only key and nothing under it. -/
def read (cs : List Char) : Json.Reading (Layout × List Char) :=
  match Json.skipBlank cs with
  | [] => .error (.before .eofValue [])
  | c :: rest => do
    if c = '"' then readName "variant identifier" (c :: rest)
    else if c = '{' then readKeyed rest
    else .error (.onto .expectedValue (c :: rest))

/-- The layout that a text describes. -/
def ofJson (text : String) : Except Json.Fault Layout := Json.readDocument read text

end Layout

end LedStrip
