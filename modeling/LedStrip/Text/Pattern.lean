import LedStrip.Text.Kinds
import LedStrip.Text.Pattern.CharClass

/-!
# Patterns

Which texts are patterns: regular expressions with groups, alternatives, classes and repetitions.
A pattern is read as pieces, and what is kept of them is how deep they nest.  There are no counted
repetitions and no names in braces, for a brace ends the text that a pattern is cut from.
-/

namespace LedStrip.Text

namespace Pattern

/-! ## Pieces -/

/-- A piece of a pattern. -/
inductive Piece where
  /-- The start of a group, with its name and the flags in it. -/
  | opening (name : Option (List Char)) (f : Flags)
  | closing
  /-- The flags from here on. -/
  | flags (f : Flags)
  /-- The sign between alternatives. -/
  | bar
  /-- What repeats the part before it. -/
  | repetition
  /-- A part that is no group, and how deep it nests. -/
  | part (depth : Nat)
  deriving DecidableEq, Repr

/-- Whether a character may stand in the name of a group behind its start. -/
def isNameChar (c : Char) : Bool :=
  c == '_' || c == '.' || c == '[' || c == ']' || isAlphanumeric c

/-- Read the name of a group and the bracket behind it. -/
def readName (cs : List Char) : Option (List Char × List Char) :=
  match cs.takeWhile (· ≠ '>'), cs.dropWhile (· ≠ '>') with
  | c :: name, _ :: rest =>
    if (c = '_' ∨ isAlphabetic c) ∧ name.all isNameChar then some (c :: name, rest) else none
  | _, _ => none

theorem length_of_readName {cs : List Char} {r : List Char × List Char}
    (h : readName cs = some r) : r.2.length ≤ cs.length := by
  have drop : (cs.dropWhile (· ≠ '>')).length ≤ cs.length :=
    (List.dropWhile_sublist _).length_le
  unfold readName at h
  grind

/-- Read the start of a group behind its bracket, or the flags in brackets. -/
def readOpening (f : Flags) (cs : List Char) : Option (Piece × List Char) :=
  let named (cs : List Char) := (readName cs).map fun (name, cs) => (.opening (some name) f, cs)
  match f.skip cs with
  | '?' :: 'P' :: '<' :: cs => named cs
  | '?' :: '<' :: cs => named cs
  | '?' :: cs =>
    (f.read [] true false cs).map fun
      | (f, .rest, cs) => (.flags f, cs)
      | (f, .group, cs) => (.opening none f, cs)
  | cs => some (.opening none f, cs)

/-- Read a piece of a pattern. -/
def Piece.read (f : Flags) : List Char → Option (Piece × List Char)
  | '(' :: cs => readOpening f cs
  | ')' :: cs => some (.closing, cs)
  | '|' :: cs => some (.bar, cs)
  | '[' :: cs => (CharClass.ofText? f cs).map fun (depth, cs) => (.part depth, cs)
  | '{' :: _ => none
  | '.' :: cs => if f.unicode then some (.part 0, cs) else none
  | '^' :: cs | '$' :: cs => some (.part 0, cs)
  | '*' :: '?' :: cs | '+' :: '?' :: cs | '?' :: '?' :: cs => some (.repetition, cs)
  | '*' :: cs | '+' :: cs | '?' :: cs => some (.repetition, cs)
  | cs =>
    match Symbol.read f cs with
    | some (s, cs) => if s.isAllowed f then some (.part 0, cs) else none
    | none => none

theorem length_of_readOpening {f : Flags} {cs : List Char} {r : Piece × List Char}
    (h : readOpening f cs = some r) : r.2.length ≤ cs.length := by
  have skip := f.length_skip_le cs
  unfold readOpening at h
  split at h
  case h_1 | h_2 =>
    obtain ⟨r', hr, rfl⟩ := Option.map_eq_some_iff.1 h
    have := length_of_readName hr
    grind
  case h_3 =>
    obtain ⟨r', hr, rfl⟩ := Option.map_eq_some_iff.1 h
    have := Flags.length_of_read hr
    grind
  · grind

theorem Piece.length_of_read {f : Flags} {cs : List Char} {r : Piece × List Char}
    (h : Piece.read f cs = some r) : r.2.length < cs.length := by
  unfold Piece.read at h
  split at h
  case h_1 =>
    have := length_of_readOpening h
    grind
  case h_4 =>
    obtain ⟨r', hr, rfl⟩ := Option.map_eq_some_iff.1 h
    have := CharClass.length_of_ofText? hr
    grind
  all_goals grind [→ Symbol.length_of_read]

/-! ## Groups -/

/-- A part of a sequence: how deep it nests, and whether it can be repeated. -/
structure Part where
  depth : Nat
  repeatable : Bool
  deriving DecidableEq, Repr

/-- A group that is open, or the pattern itself. -/
structure Group where
  /-- The flags that hold behind the group. -/
  flags : Flags
  /-- How deep the alternatives nest that are complete. -/
  alternatives : List Nat
  /-- The parts of the last alternative, the last one first. -/
  parts : List Part
  deriving DecidableEq, Repr

namespace Group

/-- A group of which nothing is read. -/
def empty (f : Flags) : Group := ⟨f, [], []⟩

/-- A group with one more part. -/
def add (g : Group) (p : Part) : Group := { g with parts := p :: g.parts }

/-- How deep the alternatives nest when the last one is complete. -/
def complete (g : Group) : List Nat := nesting (g.parts.map Part.depth) :: g.alternatives

/-- A group behind a sign between alternatives. -/
def divide (g : Group) : Group := ⟨g.flags, g.complete, []⟩

/-- A group of which the last part is repeated, if there is one that can be. -/
def repeat? (g : Group) : Option Group :=
  match g.parts with
  | p :: ps => if p.repeatable then some { g with parts := ⟨p.depth + 1, true⟩ :: ps } else none
  | [] => none

/-- How deep what stands in a group nests. -/
def depth (g : Group) : Nat := nesting g.complete

end Group

/-! ## Reading -/

/-- How deep a pattern nests, when the rest of it is read; `outer` are the groups that the last one
stands in.  No two groups share a name. -/
def read (f : Flags) (names : List (List Char)) (outer : List Group) (g : Group)
    (cs : List Char) : Option Nat :=
  if (f.skip cs).isEmpty then
    if outer.isEmpty then some g.depth else none
  else
    match _h : Piece.read f (f.skip cs) with
    | none => none
    | some (.part depth, rest) => read f names outer (g.add ⟨depth, true⟩) rest
    | some (.flags next, rest) => read next names outer (g.add ⟨0, false⟩) rest
    | some (.bar, rest) => read f names outer g.divide rest
    | some (.repetition, rest) =>
      match g.repeat? with
      | some g => read f names outer g rest
      | none => none
    | some (.opening none inner, rest) => read inner names (g :: outer) (.empty f) rest
    | some (.opening (some name) inner, rest) =>
      if name ∈ names then none
      else read inner (name :: names) (g :: outer) (.empty f) rest
    | some (.closing, rest) =>
      match outer with
      | [] => none
      | next :: outer => read g.flags names outer (next.add ⟨g.depth + 1, true⟩) rest
termination_by cs.length
decreasing_by
  all_goals
    exact Nat.lt_of_lt_of_le (Piece.length_of_read _h) (f.length_skip_le cs)

/-- How deep a pattern may nest. -/
def depthLimit : Nat := 250

end Pattern

/-- Whether a text is a pattern that can be matched. -/
def isPattern (cs : List Char) : Bool :=
  match Pattern.read .standard [] [] (.empty .standard) cs with
  | some depth => depth ≤ Pattern.depthLimit
  | none => false

end LedStrip.Text
