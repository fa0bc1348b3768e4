/-!
# Driver codes

The driver answers each call with a number: zero is success, anything else names what went wrong.
`Code.ofRaw` and `Code.raw` convert between the numbers and the failures that are documented; any
other number is kept as it is.
-/

namespace LedStrip.Driver

/-- The driver calls that answer with a code. -/
inductive Call where
  | init
  | render
  | wait
  deriving DecidableEq, Repr

/-- The name of a driver call. -/
def Call.name : Call → String
  | init => "ws2811_init"
  | render => "ws2811_render"
  | wait => "ws2811_wait"

/-- What a code means. -/
inductive Code where
  | hwDetect
  | deviceMalloc
  | mailboxOpen
  | mailboxAlloc
  | mailboxLock
  | mapMem
  | ledsMalloc
  | mapRegisters
  | gpioInit
  | setupPwm
  | dma
  | other (code : Int32)
  deriving DecidableEq, Repr

namespace Code

/-- The first code of the block of documented failures, which counts down. -/
def base : Int32 := -28110

/-- The documented failures, from `base` down. -/
def block : List Code :=
  [hwDetect, deviceMalloc, mailboxOpen, mailboxAlloc, mailboxLock, mapMem, ledsMalloc, mapRegisters,
    gpioInit, setupPwm]

/-- The meaning of a number. -/
def ofRaw (code : Int32) : Code :=
  if code = -1 then dma
  else if code ≤ base then (block[(base.toInt - code.toInt).toNat]?).getD (other code)
  else other code

/-- The number of a failure. -/
def raw : Code → Int32
  | hwDetect => -28110
  | deviceMalloc => -28111
  | mailboxOpen => -28112
  | mailboxAlloc => -28113
  | mailboxLock => -28114
  | mapMem => -28115
  | ledsMalloc => -28116
  | mapRegisters => -28117
  | gpioInit => -28118
  | setupPwm => -28119
  | dma => -1
  | other code => code

/-- A failure in words. -/
def meaning : Code → String
  | hwDetect => "hardware revision is not supported"
  | deviceMalloc => "out of memory allocating device state"
  | mailboxOpen => "failed to open the VideoCore mailbox"
  | mailboxAlloc => "mailbox memory allocation failed"
  | mailboxLock => "mailbox memory lock failed"
  | mapMem => "mmap() of DMA memory failed"
  | ledsMalloc => "out of memory allocating LED buffers"
  | mapRegisters => "unable to map peripheral registers into userspace"
  | gpioInit => "unable to initialize GPIO"
  | setupPwm => "unable to initialize PWM"
  | dma => "DMA error"
  | other _ => "unknown error"

/-- A failure in words, with its number. -/
def message (c : Code) : String := c.meaning ++ " (code " ++ toString c.raw.toInt ++ ")"

end Code

end LedStrip.Driver
