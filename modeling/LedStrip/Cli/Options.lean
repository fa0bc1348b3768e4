import LedStrip.Config.Text
import LedStrip.Program

/-!
# Command line options

The arguments of the command line, read from left to right.  The first thing that is wrong makes the
whole line wrong, and a request for help or for the version is answered as soon as it is read.
-/

namespace LedStrip.Cli

/-- What the command line asks for. -/
structure Options where
  /-- A configuration file; without one the options below describe a single channel. -/
  config : Option String
  count : UInt64
  gpio : UInt8
  freq : UInt32
  dma : UInt8
  brightness : UInt8
  invert : Bool
  channel : Nat
  stripType : StripType
  /-- Render to the simulator even where there is a driver. -/
  simulate : Bool
  /-- Leave the LEDs dark at the end. -/
  clear : Bool
  /-- The programs to play; none stands for the full strand test. -/
  animations : List Program

namespace Options

/-- What an empty command line asks for. -/
def default : Options where
  config := none
  count := 16
  gpio := 18
  freq := StripConfig.maxFreq
  dma := StripConfig.default.dma
  brightness := 255
  invert := false
  channel := 0
  stripType := .grb
  simulate := false
  clear := false
  animations := []

/-- The programs to play, in order. -/
def programs (o : Options) : List Program :=
  if o.animations.isEmpty then Program.strandTest else o.animations

/-- The settings of the strip, from the file that is named or else from the options. -/
def stripConfig (o : Options) (read : String → Except FileFault String) :
    Except Error StripConfig :=
  match o.config with
  | some path => StripConfig.load (read path)
  | none =>
    let channel := ⟨o.gpio, o.invert, o.count, o.brightness, o.stripType⟩
    ((StripConfig.default.withFreq o.freq).withDma o.dma).withChannel o.channel channel

end Options

/-! ## Values -/

/-- A number in decimal digits, if there are any. -/
def digits? (cs : List Char) : Option Nat :=
  if cs.isEmpty ∨ ¬cs.all Char.isDigit then none
  else some (cs.foldl (fun n c => n * 10 + (c.toNat - '0'.toNat)) 0)

/-- A number of a machine word; a plus sign may stand before it. -/
def word? (text : String) : Option Nat :=
  let n := match text.toList with
    | '+' :: cs => digits? cs
    | cs => digits? cs
  n.filter (· < UInt64.size)

/-- A number up to a bound, written with or without a sign. -/
def bounded? (bound : Nat) (text : String) : Option Nat :=
  let n := match text.toList with
    | '+' :: cs => digits? cs
    | '-' :: cs => (digits? cs).filter (· = 0)
    | cs => digits? cs
  n.filter (· ≤ bound)

/-- An option that takes a value. -/
structure ValueOption where
  name : String
  /-- Whether it may be given more than once. -/
  repeatable : Bool
  /-- Take the value over, unless it is not one of this option. -/
  store : String → Options → Option Options

/-- The options that take a value. -/
def valueOptions : List ValueOption :=
  [⟨"config", false, fun s o => if s.isEmpty then none else some { o with config := some s }⟩,
    ⟨"count", false, fun s o => (word? s).map fun n => { o with count := UInt64.ofNat n }⟩,
    ⟨"gpio", false, fun s o => (bounded? 255 s).map fun n => { o with gpio := UInt8.ofNat n }⟩,
    ⟨"freq", false, fun s o =>
      (bounded? (UInt32.size - 1) s).map fun n => { o with freq := UInt32.ofNat n }⟩,
    ⟨"dma", false, fun s o => (bounded? 255 s).map fun n => { o with dma := UInt8.ofNat n }⟩,
    ⟨"brightness", false, fun s o =>
      (bounded? 255 s).map fun n => { o with brightness := UInt8.ofNat n }⟩,
    ⟨"channel", false, fun s o => (word? s).map fun n => { o with channel := n }⟩,
    ⟨"strip-type", false, fun s o =>
      (StripType.parse s).toOption.map fun t => { o with stripType := t }⟩,
    ⟨"animation", true, fun s o =>
      (Program.ofName? false s).map fun p => { o with animations := o.animations ++ [p] }⟩]

/-! ## Switches -/

/-- An option that takes no value. -/
inductive Switch where
  | invert
  | simulate
  | clear
  | help
  | version
  deriving DecidableEq, Repr

/-- The switch of a long name. -/
def Switch.ofName? : String → Option Switch
  | "invert" => some invert
  | "simulate" => some simulate
  | "clear" => some clear
  | "help" => some help
  | "version" => some version
  | _ => none

/-- The switch of a letter. -/
def Switch.ofLetter? : Char → Option Switch
  | 'c' => some clear
  | 'h' => some help
  | 'V' => some version
  | _ => none

/-! ## The command line -/

/-- The name by which the program is called. -/
def programName : String := "ws281x-rs"

/-- What the program can be asked for. -/
def usage : String :=
  "\n".intercalate
    ["Strand test animations for WS281x/SK6812 LED strips",
      "",
      "Usage: " ++ programName ++ " [OPTIONS]",
      "",
      "Options:",
      "      --config <FILE>            JSON strip configuration; overrides the flags below",
      "      --count <COUNT>            Number of LED pixels [default: 16]",
      "      --gpio <GPIO>              GPIO pin connected to the pixels [default: 18]",
      "      --freq <FREQ>              LED signal frequency in hertz [default: 800000]",
      "      --dma <DMA>                DMA channel for generating the signal [default: 10]",
      "      --brightness <BRIGHTNESS>  0 for darkest, 255 for brightest [default: 255]",
      "      --invert                   Invert the signal",
      "      --channel <CHANNEL>        PWM channel [default: 0]",
      "      --strip-type <STRIP_TYPE>  Color layout [default: grb]",
      "      --simulate                 Render to the simulator",
      "  -c, --clear                    Clear the display on exit",
      "      --animation <ANIMATION>    Animations to loop",
      "  -h, --help                     Print help",
      "  -V, --version                  Print version"]

/-- The name and version of the program. -/
def versionLine : String := programName ++ " 0.1.0"

/-- What comes of a command line. -/
inductive Invocation where
  | run (o : Options)
  | help
  | version
  /-- The arguments are wrong. -/
  | misuse

/-- Throw a switch.  It may be thrown only once. -/
def throwSwitch (s : Switch) (o : Options) : Except Invocation Options :=
  match s with
  | .invert => if o.invert then .error .misuse else .ok { o with invert := true }
  | .simulate => if o.simulate then .error .misuse else .ok { o with simulate := true }
  | .clear => if o.clear then .error .misuse else .ok { o with clear := true }
  | .help => .error .help
  | .version => .error .version

/-- Throw the switches of some letters, one after the other. -/
def throwLetters : List Char → Options → Except Invocation Options
  | [], o => .ok o
  | c :: cs, o =>
    match Switch.ofLetter? c with
    | some s => throwSwitch s o >>= throwLetters cs
    | none => .error .misuse

/-- Give a value to an option.  The names of the options that were given are kept in `used`. -/
def give (v : ValueOption) (value : String) (used : List String) (o : Options) :
    Except Invocation (List String × Options) :=
  if ¬v.repeatable ∧ used.contains v.name then .error .misuse
  else
    match v.store value o with
    | some o => .ok (v.name :: used, o)
    | none => .error .misuse

/-- Whether an argument can be the value of the option before it. -/
def isValue (arg : String) : Bool := arg == "-" || !arg.startsWith "-"

/-- What an argument is. -/
inductive Argument where
  /-- Two dashes, behind which no option is read. -/
  | terminator
  /-- A long option, and the value behind its equals sign. -/
  | long (name : String) (value : Option String)
  /-- Letters behind a dash. -/
  | letters (cs : List Char)
  | other

/-- Tell what an argument is. -/
def Argument.of (arg : String) : Argument :=
  match arg.toList with
  | ['-', '-'] => terminator
  | '-' :: '-' :: cs =>
    match cs.span (· ≠ '=') with
    | (name, '=' :: value) => long (String.ofList name) (some (String.ofList value))
    | (name, _) => long (String.ofList name) none
  | '-' :: c :: cs => letters (c :: cs)
  | _ => other

/-- Read the arguments that are left. -/
def readArguments (used : List String) (o : Options) : List String → Except Invocation Options
  | [] => .ok o
  | arg :: rest =>
    match Argument.of arg with
    | .terminator => if rest.isEmpty then .ok o else .error .misuse
    | .letters cs => do
      let o ← throwLetters cs o
      readArguments used o rest
    | .other => .error .misuse
    | .long name value =>
      match Switch.ofName? name, valueOptions.find? fun v => v.name == name with
      | some s, _ => do
        if value.isSome then throw .misuse
        let o ← throwSwitch s o
        readArguments used o rest
      | none, some v =>
        match value, rest with
        | some value, rest => do
          let (used, o) ← give v value used o
          readArguments used o rest
        | none, value :: rest => do
          if ¬isValue value then throw .misuse
          let (used, o) ← give v value used o
          readArguments used o rest
        | none, [] => .error .misuse
      | none, none => .error .misuse

/-- Read a command line. -/
def invocation (args : List String) : Invocation :=
  match readArguments [] .default args with
  | .ok o => .run o
  | .error i => i

end LedStrip.Cli
