import LedStrip.Json.Skip

/-!
# Reading typed values

Readers for the kinds of values that a configuration is made of.  A record is an object of named
members in any order, or the list of its fields in order; what is missing keeps its default, a
member that is not a field is passed over, and a field may come only once.  Reading stops at the
first thing that is wrong, from left to right.
-/

namespace LedStrip.Json

/-! ## Single values -/

/-- Refuse the value that starts here because another kind is expected.  Its text is read first, as
far as the refusal quotes it. -/
def wrongType (expected : String) (cs : List Char) : Reading α :=
  let refuse (found : Found) (rest : List Char) : Reading α :=
    .error (.before (.invalidType found expected) rest)
  match cs with
  | [] => .error (.before .eofValue [])
  | c :: rest => do
    if c = 'n' then refuse .null (← readExactly "ull".toList rest)
    else if c = 't' then refuse (.bool true) (← readExactly "rue".toList rest)
    else if c = 'f' then refuse (.bool false) (← readExactly "alse".toList rest)
    else if c = '-' ∨ c.isDigit then
      match ← readNumber cs with
      | (.integer n, rest) => refuse (.integer n) rest
      | (.float x, rest) => refuse (.float x) rest
    else if c = '"' then
      let (s, rest) ← readString rest
      refuse (.string s) rest
    else if c = '[' then refuse .sequence cs
    else if c = '{' then refuse .map cs
    else .error (.onto .expectedValue cs)

/-- Read an integer from zero up to a bound. -/
def readInteger (expected : String) (bound : Nat) (cs : List Char) : Reading (Nat × List Char) :=
  match skipBlank cs with
  | [] => .error (.before .eofValue [])
  | c :: rest => do
    if c = '-' ∨ c.isDigit then
      match ← readNumber (c :: rest) with
      | (.integer n, rest) =>
        if 0 ≤ n ∧ n ≤ bound then return (n.toNat, rest)
        else .error (.before (.invalidValue (.integer n) expected) rest)
      | (.float x, rest) => .error (.before (.invalidType (.float x) expected) rest)
    else wrongType expected (c :: rest)

/-- Read `true` or `false`. -/
def readBool (cs : List Char) : Reading (Bool × List Char) :=
  match skipBlank cs with
  | 't' :: rest => (readExactly "rue".toList rest).map (true, ·)
  | 'f' :: rest => (readExactly "alse".toList rest).map (false, ·)
  | cs => wrongType "a boolean" cs

/-- Read a string. -/
def readText (expected : String) (cs : List Char) : Reading (String × List Char) :=
  match skipBlank cs with
  | '"' :: rest => readString rest
  | cs => wrongType expected cs

/-- Read `null`. -/
def readNull (expected : String) (cs : List Char) : Reading (Unit × List Char) :=
  match skipBlank cs with
  | 'n' :: rest => (readExactly "ull".toList rest).map ((), ·)
  | cs => wrongType expected cs

/-! ## Brackets -/

/-- Leave an object: the complaint if it does not end here, and the text behind what was read. -/
def leaveObject (cs : List Char) : Option Cause × List Char :=
  match skipBlank cs with
  | [] => (some .eofObject, [])
  | c :: rest =>
    if c = '}' then (none, rest)
    else if c = ',' then (some .trailingComma, c :: rest)
    else (some .trailingCharacters, c :: rest)

/-- Leave a list: the complaint if it does not end here, and the text behind what was read. -/
def leaveList (cs : List Char) : Option Cause × List Char :=
  match skipBlank cs with
  | [] => (some .eofList, [])
  | c :: rest =>
    if c = ']' then (none, rest)
    else if c = ',' then
      let rest := skipBlank rest
      (some (if rest.head? = some ']' then .trailingComma else .trailingCharacters), rest)
    else (some .trailingCharacters, c :: rest)

/-- Leave a bracket after its body.  It is left also when the body was refused for what it means,
and the refusal is placed behind it. -/
def settle (leave : List Char → Option Cause × List Char) (body : Reading (α × List Char)) :
    Reading (α × List Char) :=
  match body with
  | .ok (a, cs) =>
    match leave cs with
    | (none, rest) => .ok (a, rest)
    | (some cause, rest) => .error (.onto cause rest)
  | .error (.pending cause cs) => .error (.before cause (leave cs).2)
  | .error refusal => .error refusal

/-- The text at the next element of a list, if there is one. -/
def nextElement? (first : Bool) (cs : List Char) : Reading (Option (List Char)) :=
  match skipBlank cs with
  | [] => .error (.before .eofList [])
  | c :: rest =>
    if c = ']' then .ok none
    else if first then .ok (some (c :: rest))
    else if c = ',' then
      match skipBlank rest with
      | [] => .error (.before .eofValue [])
      | d :: rest =>
        if d = ']' then .error (.onto .trailingComma (d :: rest)) else .ok (some (d :: rest))
    else .error (.onto .expectedListCommaOrEnd (c :: rest))

/-- The next key of an object, if there is one, and the text behind it. -/
def nextKey? (first : Bool) (cs : List Char) : Reading (Option (String × List Char)) :=
  match skipBlank cs with
  | [] => .error (.before .eofObject [])
  | c :: rest =>
    if c = '}' then .ok none
    else if first then
      if c = '"' then (readString rest).map some else .error (.onto .keyNotString (c :: rest))
    else if c = ',' then
      match skipBlank rest with
      | [] => .error (.before .eofValue [])
      | d :: rest =>
        if d = '"' then (readString rest).map some
        else if d = '}' then .error (.onto .trailingComma (d :: rest))
        else .error (.onto .keyNotString (d :: rest))
    else .error (.onto .expectedObjectCommaOrEnd (c :: rest))

/-! ## Lists -/

/-- Read the elements of a list up to its end.  Every element takes a character, so `fuel` need not
exceed the length of the text. -/
def readElements (item : List Char → Reading (α × List Char)) :
    Nat → Bool → List Char → Reading (List α × List Char)
  | 0, _, _ => .error (.before .eofList [])
  | fuel + 1, first, cs => do
    match ← nextElement? first cs with
    | none => return ([], cs)
    | some cs =>
      let (a, cs) ← item cs
      let (as, cs) ← readElements item fuel false cs
      return (a :: as, cs)

/-- Read a list. -/
def readList (item : List Char → Reading (α × List Char)) (cs : List Char) :
    Reading (List α × List Char) :=
  match skipBlank cs with
  | '[' :: rest => settle leaveList (readElements item (rest.length + 1) true rest)
  | cs => wrongType "a sequence" cs

/-! ## Records -/

/-- A field of a record: its name, and how its value is read into the record. -/
structure Field (ρ : Type) where
  name : String
  read : ρ → List Char → Reading (ρ × List Char)

/-- The field that keeps what a reader returns. -/
def Field.of (name : String) (read : List Char → Reading (α × List Char)) (store : α → ρ → ρ) :
    Field ρ where
  name := name
  read r cs := (read cs).map fun (a, rest) => (store a r, rest)

/-- Read the members of an object up to its end; `seen` are the fields that are written already.
Every member takes a character, so `fuel` need not exceed the length of the text. -/
def readMembers (fields : List (Field ρ)) :
    Nat → Bool → List String → ρ → List Char → Reading (ρ × List Char)
  | 0, _, _, _, _ => .error (.before .eofObject [])
  | fuel + 1, first, seen, r, cs => do
    match ← nextKey? first cs with
    | none => return (r, cs)
    | some (key, cs) =>
      match fields.find? fun f => f.name == key with
      | some field =>
        if seen.contains key then .error (.pending (.duplicateField key) cs)
        else
          let (r, cs) ← field.read r (← readColon cs)
          readMembers fields fuel false (key :: seen) r cs
      | none =>
        let cs ← skipValue (← readColon cs)
        readMembers fields fuel false seen r cs

/-- Read the fields of a record in order, as many as the list has. -/
def readInOrder : List (Field ρ) → Bool → ρ → List Char → Reading (ρ × List Char)
  | [], _, r, cs => .ok (r, cs)
  | field :: fields, first, r, cs => do
    match ← nextElement? first cs with
    | none => return (r, cs)
    | some cs =>
      let (r, cs) ← field.read r cs
      readInOrder fields false r cs

/-- Read a record over its defaults. -/
def readRecord (expected : String) (fields : List (Field ρ)) (defaults : ρ) (cs : List Char) :
    Reading (ρ × List Char) :=
  match skipBlank cs with
  | '{' :: rest => settle leaveObject (readMembers fields (rest.length + 1) true [] defaults rest)
  | '[' :: rest => settle leaveList (readInOrder fields true defaults rest)
  | cs => wrongType expected cs

/-! ## Whole texts -/

/-- Line and column after a number of bytes: lines count from one, and the column is the number of
bytes of the line before the place. -/
def placeAfter : List Char → Nat → Nat → Nat → Nat × Nat
  | [], _, line, column => (line, column)
  | c :: cs, bytes, line, column =>
    if c.utf8Size ≤ bytes then
      if c = '\n' then placeAfter cs (bytes - c.utf8Size) (line + 1) 0
      else placeAfter cs (bytes - c.utf8Size) line (column + c.utf8Size)
    else (line, column + bytes)

/-- A refusal of a text, with its place in that text. -/
def Refusal.fault (text : List Char) : Refusal → Fault
  | .placed cause left => ⟨cause, some (placeAfter text (byteLength text - left) 1 0)⟩
  | .pending cause _ => ⟨cause, none⟩

/-- Read a text that holds one value and blanks around it. -/
def readDocument (read : List Char → Reading (α × List Char)) (text : String) : Except Fault α :=
  let cs := text.toList
  let value : Reading α := do
    let (a, rest) ← read cs
    match skipBlank rest with
    | [] => return a
    | rest => .error (.onto .trailingCharacters rest)
  value.mapError (Refusal.fault cs)

end LedStrip.Json
