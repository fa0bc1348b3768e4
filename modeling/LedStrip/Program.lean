/-!
# Programs

The named programs of the strand test, in the order in which the full test plays them.
-/

namespace LedStrip

/-- A named program. -/
inductive Program where
  | colorWipe
  | theaterChase
  | rainbow
  | rainbowCycle
  | theaterChaseRainbow
  | pulsing
  | strobe
  | snowSparkle
  | bouncingBalls
  deriving DecidableEq, Repr, Inhabited

namespace Program

/-- The full strand test. -/
def strandTest : List Program :=
  [colorWipe, theaterChase, rainbow, rainbowCycle, theaterChaseRainbow, pulsing, strobe,
    snowSparkle, bouncingBalls]

/-- The words of a program's name. -/
def words : Program → List String
  | colorWipe => ["color", "wipe"]
  | theaterChase => ["theater", "chase"]
  | rainbow => ["rainbow"]
  | rainbowCycle => ["rainbow", "cycle"]
  | theaterChaseRainbow => ["theater", "chase", "rainbow"]
  | pulsing => ["pulsing"]
  | strobe => ["strobe"]
  | snowSparkle => ["snow", "sparkle"]
  | bouncingBalls => ["bouncing", "balls"]

/-- The name by which a program is chosen. -/
def name (p : Program) : String := "-".intercalate p.words

/-- The name by which a program is announced. -/
def title (p : Program) : String := "".intercalate (p.words.map String.capitalize)

/-- The program with this name, ASCII capitals taken for small letters if they are to be ignored. -/
def ofName? (ignoreCase : Bool) (s : String) : Option Program :=
  strandTest.find? fun p => p.name == if ignoreCase then s.toLower else s

end Program

end LedStrip
