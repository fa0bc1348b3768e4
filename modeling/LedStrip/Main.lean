import LedStrip.Cli.LogFilter
import LedStrip.Cli.Session

/-!
# The program

Puts on the show in the real world: events go to standard output as they happen, time and random
numbers are the machine's, and LEDs are rendered to the simulator.
-/

namespace LedStrip.Live

/-- How often the show and its timed programs are repeated at most. -/
def endless : Nat := UInt64.size

/-- Print the events that are shown. -/
def emit (filter : List Cli.Directive) (events : List Event) : IO Unit := do
  let stdout ← IO.getStdout
  for e in events do
    if Cli.shows filter e then
      stdout.putStrLn e.alignedLine
      stdout.flush

/-- Put on a play in the real world. -/
def perform {α : Type} (filter : List Cli.Directive) :
    Play α → Strip Simulator → IO (Strip Simulator × Except Error α)
  | .done a, s => return (s, .ok a)
  | .paint strokes next, s => do
    emit filter (Surface.missed (Surface.length s) strokes)
    perform filter next (Surface.paint s strokes)
  | .present next, s => do
    let step := Surface.present s
    emit filter step.log
    match step.result with
    | .ok () => perform filter next step.state
    | .error e => return (step.state, .error e)
  | .sleep t next, s => do
    IO.sleep (UInt32.ofNat (t / 1000000))
    perform filter next s
  | .report e next, s => do
    emit filter [e]
    perform filter next s
  | .running next, s => perform filter (next true) s
  | .clock next, s => do perform filter (next (← IO.monoNanosNow)) s
  | .random low high next, s => do perform filter (next (← IO.rand low high)) s

/-- Why a file could not be read, as far as it is told apart. -/
def fault : IO.Error → FileFault
  | .inappropriateType _ 21 _ => .folder
  | .inappropriateType .. => .notFolder
  | .permissionDenied .. => .denied
  | .invalidArgument .. => .nameTooLong
  | _ => .missing

/-- Read a file that may not be there. -/
def readFile (path : String) : IO (Except FileFault String) := do
  try
    match String.fromUTF8? (← IO.FS.readBinFile path) with
    | some text => return .ok text
    | none => return .error .notText
  catch e => return .error (fault e)

/-- Run a session. -/
def run (o : Cli.Options) (filter : List Cli.Directive) : IO UInt32 := do
  let file ← match o.config with
    | some path => readFile path
    | none => pure (.error .missing)
  match Cli.prepare o (fun _ => file) Simulator.fresh with
  | (events, .error _) =>
    emit filter events
    return 1
  | (events, .ok strip) =>
    emit filter events
    let reel := Cli.reel o endless endless (Surface.length strip)
    let (strip, result) ← perform filter reel strip
    let last := Cli.finish strip result
    emit filter last.log
    return UInt32.ofNat last.result

end LedStrip.Live

/-- Read the arguments and do what they ask for. -/
def main (args : List String) : IO UInt32 := do
  let some filter := LedStrip.Cli.directives? (← IO.getEnv "RUST_LOG") | return 101
  match LedStrip.Cli.invocation args with
  | .run o => LedStrip.Live.run o filter
  | .version =>
    IO.println LedStrip.Cli.versionLine
    return 0
  | .help =>
    IO.println LedStrip.Cli.usage
    return 0
  | .misuse =>
    IO.eprintln LedStrip.Cli.usage
    return 2
