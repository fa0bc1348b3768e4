import LedStrip.Cli.Options
import LedStrip.Event
import LedStrip.Text.Kinds
import LedStrip.Text.Pattern

/-!
# Log directives

A directive says down to which level events are shown: a level alone holds for everything, and
`area=level` for the events whose area begins with that text.  Behind the area, in square brackets,
it may ask for a scope that the events are reported in and, in braces, for a field that they have.

A directive is read without the blanks around it, but its parts are cut out of the text with these
blanks, at the same byte positions: blanks at the front shift every part.
-/

namespace LedStrip.Cli

/-- What a directive asks of a field: that there is one of this name, and that its value matches. -/
structure FieldTest where
  name : String
  pattern : Option String
  deriving DecidableEq, Repr

/-- Down to which level the events are shown that have an area, a scope and a field as asked for, if
any are. -/
structure Directive where
  area : Option String
  scope : Option String
  field : Option FieldTest
  level : Option Level
  deriving DecidableEq, Repr

/-- Why a text is no directive. -/
inductive Flaw where
  | malformed
  /-- A part would begin or end inside a character. -/
  | insideCharacter
  deriving DecidableEq, Repr

/-! ## Levels -/

/-- The level of a name or number; the outer option says whether there is one. -/
def levelOfName? (s : String) : Option (Option Level) :=
  match word? s with
  | some 0 => some none
  | some 1 => some (some .error)
  | some 2 => some (some .warn)
  | some 3 => some (some .info)
  | some 4 => some (some .debug)
  | some 5 => some (some .trace)
  | _ =>
    match s.toLower with
    | "off" => some none
    | "error" => some (some .error)
    | "warn" => some (some .warn)
    | "info" => some (some .info)
    | "debug" => some (some .debug)
    | "trace" => some (some .trace)
    | _ => none

/-! ## Fields -/

/-- Whether a text is an unsigned number, perhaps with a fraction and an exponent. -/
def isUnsigned (cs : List Char) : Bool :=
  let (whole, rest) := cs.span Char.isDigit
  let (fraction, rest) := match rest with
    | '.' :: rest => rest.span Char.isDigit
    | rest => ([], rest)
  let exponent := match rest with
    | e :: sign :: digits =>
      (e == 'e' || e == 'E') &&
        if sign = '+' ∨ sign = '-' then !digits.isEmpty && digits.all Char.isDigit
        else (sign :: digits).all Char.isDigit
    | rest => rest.isEmpty
  !(whole ++ fraction).isEmpty && exponent

/-- Whether a text is a number or one of the words for what is not finite. -/
def isNumber (cs : List Char) : Bool :=
  let magnitude := match cs with
    | '+' :: cs | '-' :: cs => cs
    | cs => cs
  let word := String.ofList (Text.lower magnitude)
  isUnsigned magnitude || ["inf", "infinity", "nan"].contains word

/-- Read what is asked of a field: a name, or a name and what its value is to be.  What stands
behind a second equals sign does not count. -/
def FieldTest.ofText? (text : List Char) : Option FieldTest :=
  let (name, rest) := text.span (· ≠ '=')
  match rest with
  | '=' :: rest =>
    let value := rest.takeWhile (· ≠ '=')
    if isNumber value ∨ Text.isPattern value then
      some ⟨String.ofList name, some (String.ofList value)⟩
    else none
  | _ => if name.isEmpty then none else some ⟨String.ofList name, none⟩

/-! ## Positions -/

/-- The text behind the first so many bytes, if a character begins there. -/
def dropBytes : Nat → List Char → Option (List Char)
  | 0, cs => some cs
  | _ + 1, [] => none
  | n + 1, c :: cs => if c.utf8Size ≤ n + 1 then dropBytes (n + 1 - c.utf8Size) cs else none

/-- The text of the first so many bytes, if a character ends there. -/
def takeBytes : Nat → List Char → Option (List Char)
  | 0, _ => some []
  | _ + 1, [] => none
  | n + 1, c :: cs =>
    if c.utf8Size ≤ n + 1 then (takeBytes (n + 1 - c.utf8Size) cs).map (c :: ·) else none

/-- The part of a text from a byte position to its end. -/
def cutFrom (text : List Char) (first : Nat) : Except Flaw (List Char) :=
  match dropBytes first text with
  | some part => .ok part
  | none => .error .insideCharacter

/-- The part of a text between two byte positions. -/
def cut (text : List Char) (first stop : Nat) : Except Flaw (List Char) := do
  match takeBytes (stop - first) (← cutFrom text first) with
  | some part => return part
  | none => throw .insideCharacter

/-- The characters of a text with the byte positions at which they begin. -/
def positions : Nat → List Char → List (Nat × Char)
  | _, [] => []
  | i, c :: cs => (i, c) :: positions (i + c.utf8Size) cs

/-! ## Reading -/

/-- Where the reading of a directive is; a number is the byte position at which a part begins. -/
inductive Reading where
  | start
  /-- In an area, or else a level alone. -/
  | area (first : Nat)
  | scope (first : Nat)
  | field (first : Nat)
  /-- Behind the field. -/
  | tested
  /-- Behind the closing bracket. -/
  | closed
  | level (first : Nat)
  deriving DecidableEq, Repr

namespace Directive

/-- Read one character of a directive. -/
def step (text : List Char) : Reading × Directive → Nat × Char → Except Flaw (Reading × Directive)
  | (.start, d), (i, c) =>
    if c = '[' then .ok (.scope (i + 1), d)
    else if c = '-' ∨ c = ':' ∨ c = '_' ∨ Text.isAlphanumeric c then .ok (.area i, d)
    else .error .malformed
  | (.area first, d), (i, c) => do
    if c = '=' then
      return (.level (i + 1), { d with area := some (String.ofList (← cut text first i)) })
    else if c = '[' then
      return (.scope (i + 1), { d with area := some (String.ofList (← cut text first i)) })
    else return (.area first, d)
  | (.scope first, d), (i, c) => do
    if c = ']' then
      return (.closed, { d with scope := some (String.ofList (← cut text first i)) })
    else if c = '{' then
      let scope ← cut text first i
      return (.field (i + 1),
        { d with scope := if scope.isEmpty then none else some (String.ofList scope) })
    else return (.scope first, d)
  | (.field first, d), (i, c) => do
    if c = '}' then
      match FieldTest.ofText? (← cut text first i) with
      | some test => return (.tested, { d with field := some test })
      | none => throw .malformed
    else return (.field first, d)
  | (.tested, d), (_, ']') => .ok (.closed, d)
  | (.closed, d), (i, '=') => .ok (.level (i + 1), d)
  | (.level first, d), _ => .ok (.level first, d)
  | _, _ => .error .malformed

/-- The directive that asks for nothing and shows everything. -/
def everything : Directive := ⟨none, none, none, some .trace⟩

/-- Read a directive.  Without a level it shows everything that it is about. -/
def ofText (s : String) : Except Flaw Directive := do
  let text := s.toList
  let (reading, d) ← (positions 0 (Text.trim text)).foldlM (step text) (.start, .everything)
  match reading with
  | .area first =>
    let name := String.ofList (← cutFrom text first)
    match levelOfName? name with
    | some level => return { d with level := level }
    | none => return { d with area := some name }
  | .level first =>
    let name := String.ofList (← cutFrom text first)
    if name.isEmpty then return d
    match levelOfName? name with
    | some level => return { d with level := level }
    | none => throw .malformed
  | .closed => return d
  | _ => throw .malformed

end Directive

end LedStrip.Cli
