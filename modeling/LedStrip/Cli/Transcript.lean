import LedStrip.Cli.LogFilter
import LedStrip.Cli.Session
import LedStrip.Play.Stage

/-!
# Transcripts

What someone sees of the program who starts it, waits for some output, and then ends the show.
-/

namespace LedStrip.Cli

/-- What is seen of the program: its exit code, the lines of its output that were waited for, and
the last line of all if the program had to be ended. -/
structure Transcript where
  exitCode : Nat
  lines : List String
  last : Option String
  deriving DecidableEq, Repr

/-- The lines of the events that are shown. -/
def shownLines (ds : List Directive) (log : List Event) : List String :=
  (log.filter (shows ds)).flatMap Event.lines

/-- The lines up to the first one that announces a program. -/
def announced : List String → List String
  | [] => []
  | line :: lines =>
    if line.endsWith " animation" then [line] else line :: announced lines

/-- A session in which the show is ended after so many pictures. -/
def sessionOf (o : Options) (read : String → Except FileFault String) (pictures : Nat) :
    Outcome Simulator :=
  session o UInt64.size UInt64.size read Simulator.fresh (VirtualStage.curtain (some pictures) none)

/-- Watch a session until so many lines are seen, or until a program is announced.  The show is
ended after so many pictures; if that was too early, it is watched again for twice as long, at most
as often as `tries` says.  Darkening the LEDs comes after the end and is no part of what is seen. -/
def watch (o : Options) (ds : List Directive) (read : String → Except FileFault String)
    (wanted : Option Nat) : (tries pictures : Nat) → Transcript
  | tries, pictures =>
    let outcome := sessionOf o read pictures
    let onstage := (sessionOf { o with clear := false } read pictures).showing
    let seen := shownLines ds (outcome.opening ++ onstage)
    let closing := shownLines ds outcome.closing
    if outcome.exitCode ≠ 0 then ⟨outcome.exitCode, seen ++ closing, none⟩
    else
      match wanted, tries with
      | none, _ => ⟨0, announced seen, closing.getLast?⟩
      | some n, tries + 1 =>
        if n ≤ seen.length then ⟨0, seen.take n, closing.getLast?⟩
        else watch o ds read wanted tries (2 * pictures)
      | some n, 0 => ⟨0, seen.take n, closing.getLast?⟩

/-- What is seen of the program, given its arguments, the setting of the log, the files there are,
and the number of lines to wait for if it is not the announcement of a program. -/
def transcript (args : List String) (setting : Option String)
    (read : String → Except FileFault String) (wanted : Option Nat) : Transcript :=
  match directives? setting with
  | none => ⟨101, [], none⟩
  | some ds =>
    match invocation args with
    | .misuse => ⟨2, [], none⟩
    | .help => ⟨0, usage.splitOn "\n", none⟩
    | .version => ⟨0, [versionLine], none⟩
    | .run o => watch o ds read wanted 16 1

end LedStrip.Cli
