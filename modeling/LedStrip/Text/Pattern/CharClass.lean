import LedStrip.Text.Pattern.Symbol

/-!
# Pattern classes

The classes of characters in a pattern: between square brackets stand characters, ranges, classes
with a name and classes in brackets of their own, and signs between them intersect them or take one
from the other.  What is kept of a class is how deep its writing nests.
-/

namespace LedStrip.Text.Pattern

/-- How deep several things nest that are written as one: a single one as it does itself, and more
of them one deeper. -/
def nesting : List Nat → Nat
  | [] => 0
  | [d] => d
  | d :: ds => ds.foldl max d + 1

/-- A class of which the closing bracket is not read. -/
structure CharClass where
  /-- How deep what stands before the last sign nests. -/
  left : Option Nat
  /-- How deep the members behind the last sign nest, the last one first. -/
  members : List Nat
  deriving DecidableEq, Repr

namespace CharClass

/-- A class with one more member. -/
def add (c : CharClass) (depth : Nat) : CharClass := { c with members := depth :: c.members }

/-- How deep what is read so far nests. -/
def depth (c : CharClass) : Nat := nesting (nesting c.members :: c.left.toList)

/-- A class behind one more sign.  Signs bind to the left. -/
def divide (c : CharClass) : CharClass := ⟨some c.depth, []⟩

/-! ## Start -/

/-- Read the dashes at the start of a class, which are members of it, and count them. -/
def readDashes (f : Flags) (n : Nat) (cs : List Char) : Nat × List Char :=
  match h : f.skip cs with
  | '-' :: rest => readDashes f (n + 1) rest
  | rest => (n, rest)
termination_by cs.length
decreasing_by
  have := f.length_skip_le cs
  simp_all only [List.length_cons]
  omega

theorem length_readDashes_le (f : Flags) (n : Nat) (cs : List Char) :
    (readDashes f n cs).2.length ≤ cs.length := by
  fun_induction readDashes f n cs with
  | case1 n cs rest h ih =>
    have := f.length_skip_le cs
    grind
  | case2 n cs h => exact f.length_skip_le cs

/-- Read the start of a class behind its bracket: a caret, then dashes or a closing bracket, which
are members there.  They are ASCII, so the flags alone decide whether they can be. -/
def start? (f : Flags) (cs : List Char) : Option (CharClass × List Char) :=
  let (complement, cs) := match f.skip cs with
    | '^' :: cs => (true, f.skip cs)
    | cs => (false, cs)
  let (n, cs) := match cs with
    | ']' :: cs => (1, cs)
    | cs => readDashes f 0 cs
  if complement ∧ ¬f.allowsComplement ∨ n ≠ 0 ∧ ¬Symbol.isMember f (.char '-' false) then none
  else some (⟨none, List.replicate n 0⟩, cs)

theorem length_of_start? {f : Flags} {cs : List Char} {r : CharClass × List Char}
    (h : start? f cs = some r) : r.2.length ≤ cs.length := by
  have skip := f.length_skip_le
  have dashes := length_readDashes_le f
  unfold start? at h
  grind

/-! ## Members -/

/-- The names of classes. -/
def names : List String :=
  ["alnum", "alpha", "ascii", "blank", "cntrl", "digit", "graph", "lower", "print", "punct",
    "space", "upper", "word", "xdigit"]

/-- Read the name of a class behind its bracket: a colon, a caret for the complement, the name, a
colon and a bracket. -/
def readName? : List Char → Option (Bool × List Char)
  | ':' :: cs =>
    let (complement, cs) := match cs with
      | '^' :: cs => (true, cs)
      | cs => (false, cs)
    match cs.dropWhile (· ≠ ':') with
    | ':' :: ']' :: rest =>
      if String.ofList (cs.takeWhile (· ≠ ':')) ∈ names then some (complement, rest) else none
    | _ => none
  | _ => none

theorem length_of_readName? {cs : List Char} {r : Bool × List Char} (h : readName? cs = some r) :
    r.2.length ≤ cs.length := by
  have drop (cs : List Char) : (cs.dropWhile (· ≠ ':')).length ≤ cs.length :=
    (List.dropWhile_sublist _).length_le
  unfold readName? at h
  grind

/-- Read a character, an escape or a range. -/
def readMember (f : Flags) (cs : List Char) : Option (List Char) :=
  match Symbol.read f cs with
  | none => none
  | some (low, cs) =>
    let alone (cs : List Char) := if low.isMember f then some cs else none
    match f.skip cs with
    | '-' :: rest =>
      if f.peek? rest = some ']' ∨ f.peek? rest = some '-' then alone ('-' :: rest)
      else
        match Symbol.read f (f.skip rest) with
        | some (high, rest) =>
          if low.isMember f ∧ high.isMember f ∧ low.isRange high then some rest else none
        | none => none
    | rest => alone rest

theorem length_of_readMember {f : Flags} {cs rest : List Char}
    (h : readMember f cs = some rest) : rest.length < cs.length := by
  have skip := f.length_skip_le
  have symbol {cs : List Char} {r : Symbol × List Char} : Symbol.read f cs = some r → _ :=
    Symbol.length_of_read
  unfold readMember at h
  grind

/-! ## Reading -/

/-- A piece of a class. -/
inductive Piece where
  /-- A member that is no class in brackets. -/
  | member
  /-- A sign between two sets. -/
  | sign
  /-- The start of a class inside the class. -/
  | opening (c : CharClass)
  | closing
  deriving DecidableEq, Repr

/-- Read a piece of a class.  The signs are those for what two sets share, for what the first has
alone, and for what one of them has alone. -/
def Piece.read (f : Flags) (cs : List Char) : Option (Piece × List Char) :=
  match f.skip cs with
  | '[' :: cs =>
    match readName? cs with
    | some (complement, cs) =>
      if complement ∧ ¬f.allowsComplement ∨ ¬Symbol.isMember f (.char 'a' false) then none
      else some (.member, cs)
    | none => (start? f cs).map fun (c, cs) => (.opening c, cs)
  | ']' :: cs => some (.closing, cs)
  | '&' :: '&' :: cs | '-' :: '-' :: cs | '~' :: '~' :: cs => some (.sign, cs)
  | cs => (readMember f cs).map fun cs => (.member, cs)

theorem Piece.length_of_read {f : Flags} {cs : List Char} {r : Piece × List Char}
    (h : Piece.read f cs = some r) : r.2.length < cs.length := by
  have skip := f.length_skip_le cs
  unfold Piece.read at h
  split at h
  · rename_i rest hs
    rw [hs, List.length_cons] at skip
    split at h
    · rename_i hn
      have := length_of_readName? hn
      grind
    · obtain ⟨r', hr, rfl⟩ := Option.map_eq_some_iff.1 h
      have := length_of_start? hr
      grind
  case h_6 =>
    obtain ⟨r', hr, rfl⟩ := Option.map_eq_some_iff.1 h
    have := length_of_readMember hr
    grind
  all_goals grind

/-- Read a class to its closing bracket; `outer` are the classes that it stands in.  The result says
how deep the class nests. -/
def read (f : Flags) (outer : List CharClass) (c : CharClass) (cs : List Char) :
    Option (Nat × List Char) :=
  match _h : Piece.read f cs with
  | none => none
  | some (.member, rest) => read f outer (c.add 0) rest
  | some (.sign, rest) => read f outer c.divide rest
  | some (.opening inner, rest) => read f (c :: outer) inner rest
  | some (.closing, rest) =>
    match outer with
    | [] => some (c.depth + 1, rest)
    | next :: outer => read f outer (next.add (c.depth + 1)) rest
termination_by cs.length
decreasing_by all_goals exact Piece.length_of_read _h

theorem length_of_read {f : Flags} {outer : List CharClass} {c : CharClass} {cs : List Char}
    {r : Nat × List Char} (h : read f outer c cs = some r) : r.2.length < cs.length := by
  fun_induction read f outer c cs <;> grind [→ Piece.length_of_read]

/-- Read a class behind its opening bracket. -/
def ofText? (f : Flags) (cs : List Char) : Option (Nat × List Char) :=
  match start? f cs with
  | some (c, cs) => read f [] c cs
  | none => none

theorem length_of_ofText? {f : Flags} {cs : List Char} {r : Nat × List Char}
    (h : ofText? f cs = some r) : r.2.length ≤ cs.length := by
  unfold ofText? at h
  split at h
  · rename_i hs
    have := length_of_start? hs
    have := length_of_read h
    grind
  · simp at h

end CharClass

end LedStrip.Text.Pattern
