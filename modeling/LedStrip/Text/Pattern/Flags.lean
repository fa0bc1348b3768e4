import LedStrip.Text.Kinds

/-!
# Pattern flags

The flags that a pattern is read under.  A flag is set behind an opening bracket and a question mark
and holds to the end of the group.  Every reader here gives back the rest of the text, which is no
longer than what it was given.
-/

namespace LedStrip.Text.Pattern

/-- What a pattern means where it is read.  Of the flags only those are kept that decide whether it
can be matched. -/
structure Flags where
  /-- Capitals and small letters are alike. -/
  caseless : Bool
  /-- The pattern is about characters; otherwise it is about bytes. -/
  unicode : Bool
  /-- Blanks and comments between the parts do not count. -/
  spaced : Bool
  deriving DecidableEq, Repr

namespace Flags

/-- The flags at the start of a pattern. -/
def standard : Flags := ⟨false, true, false⟩

/-- The flags with the one of a letter on or off. -/
def set (f : Flags) (letter : Char) (on : Bool) : Flags :=
  match letter with
  | 'i' => { f with caseless := on }
  | 'u' => { f with unicode := on }
  | 'x' => { f with spaced := on }
  | _ => f

/-- Whether a class can be all but some characters.  Of bytes it cannot, for then it would not be
ASCII. -/
def allowsComplement (f : Flags) : Bool := f.unicode

/-- The letters of the flags. -/
def letters : List Char := ['i', 'm', 's', 'u', 'U', 'R', 'x']

/-- How a list of flags ends. -/
inductive Ending where
  /-- With a bracket: the flags hold for the rest of the group around them. -/
  | rest
  /-- With a colon: the flags hold for the group that begins here. -/
  | group
  deriving DecidableEq, Repr

/-- Read a list of flags.  No letter comes twice, those behind a dash are off, and a letter follows
the dash; `seen` are the letters so far. -/
def read (f : Flags) (seen : List Char) (on dangling : Bool) :
    List Char → Option (Flags × Ending × List Char)
  | [] => none
  | ')' :: cs => if seen.isEmpty ∨ dangling then none else some (f, .rest, cs)
  | ':' :: cs => if dangling then none else some (f, .group, cs)
  | '-' :: cs => if on then read f seen false true cs else none
  | c :: cs =>
    if c ∈ letters ∧ c ∉ seen then read (f.set c on) (c :: seen) on false cs else none

theorem length_of_read {f : Flags} {seen : List Char} {on dangling : Bool} {cs : List Char}
    {r : Flags × Ending × List Char} (h : read f seen on dangling cs = some r) :
    r.2.2.length ≤ cs.length := by
  fun_induction read f seen on dangling cs <;> grind

/-! ## Blanks and comments -/

/-- A text without the blanks and the comments in front.  A comment goes from a number sign to the
end of the line. -/
def dropSpace (inComment : Bool) : List Char → List Char
  | [] => []
  | c :: cs =>
    if inComment then dropSpace (c != '\n') cs
    else if c = '#' then dropSpace true cs
    else if isBlank c then dropSpace false cs
    else c :: cs

theorem length_dropSpace_le (inComment : Bool) (cs : List Char) :
    (dropSpace inComment cs).length ≤ cs.length := by
  fun_induction dropSpace inComment cs <;> grind

/-- The text from where the next part begins. -/
def skip (f : Flags) (cs : List Char) : List Char :=
  if f.spaced then dropSpace false cs else cs

theorem length_skip_le (f : Flags) (cs : List Char) : (f.skip cs).length ≤ cs.length := by
  unfold skip
  split
  · exact length_dropSpace_le false cs
  · exact Nat.le_refl _

/-- The character that a range looks at behind its dash.  Of a comment it passes over the number
sign and the blanks behind it alone, and then sees the text of the comment. -/
def peek? (f : Flags) (cs : List Char) : Option Char :=
  if f.spaced then
    match cs.dropWhile isBlank with
    | '#' :: cs => (cs.dropWhile isBlank).head?
    | cs => cs.head?
  else cs.head?

end Flags

end LedStrip.Text.Pattern
