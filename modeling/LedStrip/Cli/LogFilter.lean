import LedStrip.Cli.Directive

/-!
# Log filters

Which events are shown is set by a list of directives separated by commas.  Of the directives that
apply to an event the most specific one decides: the one with the longest area, and of those one
that asks for a field.
-/

namespace LedStrip.Cli

/-- The part of the program that reports an event; none for the program as a whole. -/
def part? : Event → Option String
  | .ignoredWrite .. => "pixels"
  | .frameRecorded .. | .simulatorReady .. => "sim"
  | .driverReady .. | .driverReleased => "native"
  | .stripReady .. | .stripReleased => "strip"
  | .configLoaded .. => "config"
  | .programSkipped _ => "animations"
  | .simulatorInstead | .simulating | .programStarted _ | .greeting | .quitHint | .clearHint
  | .shutDown | .failed _ => none

/-- The area of an event, as directives name it: the name of the program, its dash made an
underscore, and the part that reports the event. -/
def area (e : Event) : String :=
  let program := programName.map fun c => if c = '-' then '_' else c
  match part? e with
  | some part => program ++ "::" ++ part
  | none => program

/-- The fields of every event: the program reports nothing but messages, and none in a scope. -/
def eventFields : List String := ["message"]

/-- Whether a directive is about the events of an area. -/
def Directive.applies (d : Directive) (area : String) : Bool :=
  d.area.all (·.isPrefixOf area) && d.scope.isNone &&
    d.field.all fun test => test.pattern.isNone && eventFields.contains test.name

/-- How specific a directive is about areas: not at all, or by the length of the area it names. -/
def Directive.reach (d : Directive) : Nat :=
  match d.area with
  | some area => area.length + 1
  | none => 0

/-- Whether a directive is at least as specific as another one. -/
def Directive.outranks (d b : Directive) : Bool :=
  b.reach < d.reach || b.reach == d.reach && (d.field.isSome || b.field.isNone)

/-- The directive that decides about an area: the most specific one, and of equals the last. -/
def deciding (ds : List Directive) (area : String) : Option Directive :=
  (ds.filter (·.applies area)).foldl
    (fun best d =>
      match best with
      | some b => if d.outranks b then some d else some b
      | none => some d) none

/-- Whether an event is shown. -/
def shows (ds : List Directive) (e : Event) : Bool :=
  match (deciding ds (area e)).bind Directive.level with
  | some level => e.level.rank ≤ level.rank
  | none => false

/-- The directives of a text. -/
def readDirectives (s : String) : Except Flaw (List Directive) :=
  ((s.splitOn ",").filter (!·.isEmpty)).mapM Directive.ofText

/-- The directives that hold when the log is set to a text: everything down to information when it
is not set or malformed.  A text that cannot be cut into parts leaves none to go on with. -/
def directives? (setting : Option String) : Option (List Directive) :=
  let standard := [{ Directive.everything with level := some .info }]
  match setting.map readDirectives with
  | none | some (.error .malformed) => some standard
  | some (.error .insideCharacter) => none
  | some (.ok ds) => some ds

end LedStrip.Cli
