import LedStrip.Animation.Programs
import LedStrip.Cli.Options
import LedStrip.Play.Scene
import LedStrip.Simulator

/-!
# Sessions

What the command line does once its arguments are read: set up a strip, play the programs over and
over until the show is ended from outside, leave the LEDs dark if that is asked for, and give the
strip back.  An error on the way ends the session with a failure.
-/

namespace LedStrip

namespace Play

/-- A play whose every question for the show is answered with yes. -/
def unstoppable {α : Type} : Play α → Play α
  | done a => done a
  | paint strokes next => paint strokes next.unstoppable
  | present next => present next.unstoppable
  | sleep t next => sleep t next.unstoppable
  | report e next => report e next.unstoppable
  | running next => (next true).unstoppable
  | clock next => clock fun t => (next t).unstoppable
  | random low high next => random low high fun n => (next n).unstoppable

end Play

namespace Cli

/-! ## The show -/

/-- Play programs one after the other.  The value says whether all were played. -/
def playAll (rounds n : Nat) : List Program → Play Bool
  | [] => .done true
  | p :: ps => .running fun on =>
    if on then .report (.programStarted p) ((p.play rounds n).bind fun _ => playAll rounds n ps)
    else .done false

/-- Play programs over and over, at most `cycles` times. -/
def loop (rounds n : Nat) (programs : List Program) : Nat → Play Unit
  | 0 => .skip
  | cycles + 1 => .running fun on =>
    if on then
      (playAll rounds n programs).bind fun complete =>
        if complete then loop rounds n programs cycles else .skip
    else .skip

/-- Wipe the strip dark, whether or not the show is over. -/
def wipe (n : Nat) : Play Unit :=
  (Animation.colorWipe .black (10 * Animation.millisecond) n).unstoppable

/-- The whole show. -/
def reel (o : Options) (cycles rounds n : Nat) : Play Unit :=
  (loop rounds n o.programs cycles).andThen (if o.clear then wipe n else .skip)

/-! ## The session -/

variable {β σ : Type} [Backend β] [Stage σ]

/-- What is reported before a strip is set up, and the settings for it if there are any. -/
def greet (o : Options) (read : String → Except FileFault String) :
    List Event × Except Error StripConfig :=
  match o.stripConfig read with
  | .error e => ([], .error e)
  | .ok config =>
    let loaded := match o.config with
      | some path => [.configLoaded path config]
      | none => []
    (loaded ++ .greeting :: (if o.simulate then [] else [.simulating]), .ok config)

/-- What is reported right before the show. -/
def hints (o : Options) : List Event :=
  .quitHint :: if o.clear then [] else [.clearHint]

/-- Set up a strip for the show: what is reported, and the strip, or else the backend that is given
up. -/
def prepare (o : Options) (read : String → Except FileFault String) (backend : β) :
    List Event × Except β (Strip β) :=
  match greet o read with
  | (events, .error e) =>
    let given := Backend.discard backend
    (events ++ given.log ++ [.failed e], .error given.state)
  | (events, .ok config) =>
    let new := Strip.create config backend
    match new.result with
    | .ok strip => (events ++ new.log ++ hints o, .ok strip)
    | .error e =>
      let given := Backend.discard new.state
      (events ++ new.log ++ given.log ++ [.failed e], .error given.state)

/-- Give the strip back after the show: the exit code, and the released backend. -/
def finish (strip : Strip β) (result : Except Error Unit) : Step β Nat :=
  let released := strip.release
  match result with
  | .ok () => ⟨released.state, 0, .shutDown :: released.log⟩
  | .error e => ⟨released.state, 1, released.log ++ [.failed e]⟩

/-- What came of a session: what was seen of the show, what was reported before, during and after
it, the exit code, and the backend that was given up. -/
structure Outcome (β : Type) where
  opening : List Event
  beats : List Beat
  showing : List Event
  closing : List Event
  exitCode : Nat
  backend : β

/-- A whole session: the show goes through the programs at most `cycles` times. -/
def session (o : Options) (cycles rounds : Nat) (read : String → Except FileFault String)
    (backend : β) (stage : σ) : Outcome β :=
  match prepare o read backend with
  | (opening, .error backend) => ⟨opening, [], [], [], 1, backend⟩
  | (opening, .ok strip) =>
    let (scene, result) := (Scene.start strip stage).perform (reel o cycles rounds)
    let last := finish scene.surface result
    ⟨opening, scene.beats.toList, scene.log.toList, last.log, last.result, last.state⟩

end Cli

end LedStrip
