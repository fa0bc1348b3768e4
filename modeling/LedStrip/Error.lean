import LedStrip.Driver.Code
import LedStrip.Json.Cause

/-!
# Errors

What can go wrong in setting up and running a strip, as causes; `Error.message` words them.
-/

namespace LedStrip

/-- Why a configuration file could not be read. -/
inductive FileFault where
  /-- There is no file of that name. -/
  | missing
  /-- The path goes on behind a file. -/
  | notFolder
  /-- The path leads to a folder. -/
  | folder
  | nameTooLong
  | denied
  /-- The file does not hold UTF-8 text. -/
  | notText
  deriving DecidableEq, Repr

/-- The wording of a file fault. -/
def FileFault.message : FileFault → String
  | missing => "No such file or directory (os error 2)"
  | notFolder => "Not a directory (os error 20)"
  | folder => "Is a directory (os error 21)"
  | nameTooLong => "File name too long (os error 36)"
  | denied => "Permission denied (os error 13)"
  | notText => "stream did not contain valid UTF-8"

/-- What can go wrong. -/
inductive Error where
  /-- A driver call answered with a code other than zero. -/
  | driver (call : Driver.Call) (code : Driver.Code)
  | invalidGpio (channel : Nat) (pin : UInt8)
  | invalidFrequency (freq : UInt32)
  | invalidDma (dma : UInt8)
  | invalidChannel (index : Nat)
  /-- More LEDs than one channel can take. -/
  | invalidCount (channel : Nat) (count : Nat)
  /-- No channel has any LEDs. -/
  | noChannels
  /-- Only a square can be turned in place. -/
  | matrixNotSquare (width height : Nat)
  /-- The configuration file could not be read. -/
  | unreadable (fault : FileFault)
  /-- The configuration file is not a configuration. -/
  | malformed (fault : Json.Fault)

/-- The wording of an error. -/
def Error.message : Error → String
  | driver call code => call.name ++ " failed: " ++ code.message
  | invalidGpio channel pin =>
    "GPIO " ++ toString pin ++ " cannot drive PWM channel " ++ toString channel
  | invalidFrequency freq =>
    "signal frequency " ++ toString freq ++ " Hz is outside 400000-800000"
  | invalidDma dma => "DMA channel " ++ toString dma ++ " is outside 0-14"
  | invalidChannel index => "no PWM channel " ++ toString index
  | invalidCount channel count =>
    toString count ++ " LEDs is too many for channel " ++ toString channel
  | noChannels => "no channel has any LEDs configured"
  | matrixNotSquare width height =>
    "cannot rotate a " ++ toString width ++ "x" ++ toString height ++ " matrix; it must be square"
  | unreadable fault => "reading config: " ++ fault.message
  | malformed fault => "parsing config: " ++ fault.message

/-- The outcome of a driver call that answered with this number. -/
def Driver.check (call : Driver.Call) (code : Int32) : Except Error Unit :=
  if code = 0 then .ok () else .error (.driver call (.ofRaw code))

end LedStrip
