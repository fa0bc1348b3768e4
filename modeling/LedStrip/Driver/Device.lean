import LedStrip.Driver.Registers
import LedStrip.PixelBuffer

/-!
# Device

A stand-in for the driver's library.  It answers each call with the code it was given for that call,
keeps the arrays of LEDs that it made and that were not released yet, and records all calls.  A
write that is not within an array it keeps is counted as a fault.
-/

namespace LedStrip.Driver

/-- How many LEDs the device makes for a channel. -/
inductive Allocation where
  /-- As many as are asked for. -/
  | requested
  /-- None, and the count stays as it is. -/
  | refused
  /-- Exactly so many, and the count says so. -/
  | exactly (n : Nat)
  deriving DecidableEq, Repr

/-- What a channel looked like when it was rendered. -/
structure Rendered where
  brightness : Int
  /-- All LEDs of its array, if it has one. -/
  leds : Option (List UInt32)
  deriving DecidableEq, Repr

/-- A call as the device saw it, with the code that it answered. -/
inductive Record where
  | init (registers : Registers) (code : Int32)
  | render (channels : List Rendered) (code : Int32)
  | wait (code : Int32)
  | fini
  deriving DecidableEq, Repr

/-- The device. -/
structure Device where
  initCode : Int32
  renderCode : Int32
  waitCode : Int32
  allocation : Vector Allocation channelCount
  /-- How many set-ups succeeded. -/
  generation : Nat
  /-- The arrays that are not released. -/
  arrays : List (Handle × PixelBuffer)
  /-- How many writes were not within an array that is kept. -/
  faults : Nat
  /-- The calls so far, oldest first. -/
  calls : List Record

namespace Device

/-- A device that makes what is asked for and answers every call with success. -/
def fresh : Device := ⟨0, 0, 0, .replicate _ .requested, 0, [], 0, []⟩

/-- The LEDs at a handle, if they are not released. -/
def array? (d : Device) (h : Handle) : Option PixelBuffer := d.arrays.lookup h

/-- Note a call. -/
def note (d : Device) (r : Record) : Device := { d with calls := d.calls ++ [r] }

/-! ## Setting up -/

/-- How many LEDs are made for a channel, if any array is made. -/
def Allocation.size? (a : Allocation) (count : Int) : Option Nat :=
  match a with
  | .requested => some count.toNat
  | .refused => none
  | .exactly n => some n

/-- Make the LEDs of one channel. -/
def allocate (d : Device) (r : Registers) (i : ChannelIndex) : Device × Registers :=
  match Allocation.size? (d.allocation.get i) (r.channels.get i).count with
  | none => (d, r)
  | some n =>
    let h : Handle := ⟨d.generation, i⟩
    let channel := { r.channels.get i with count := n, leds := some h }
    ({ d with arrays := (h, .blank n) :: d.arrays },
      { r with channels := r.channels.set i channel i.isLt })

/-- Make the LEDs of some channels, one after the other. -/
def allocateAll (d : Device) (r : Registers) : List ChannelIndex → Device × Registers
  | [] => (d, r)
  | i :: rest =>
    let (d, r) := d.allocate r i
    d.allocateAll r rest

/-- Set up: on success every channel gets its LEDs, all off. -/
def init (d : Device) (r : Registers) : Int32 × Device × Registers :=
  let d := d.note (.init r d.initCode)
  if d.initCode = 0 then
    (0, { d with generation := d.generation + 1 }.allocateAll r (List.finRange channelCount))
  else (d.initCode, d, r)

/-! ## Rendering -/

/-- Copy words onto the front of the array at a handle, which is taken to be `count` long. -/
def store (d : Device) (h : Handle) (count : Nat) (words : List UInt32) : Device :=
  let words := words.take count
  match d.array? h with
  | some p =>
    if words.length ≤ p.length then
      { d with arrays := d.arrays.map fun (k, q) => (k, if k = h then q.copy words else q) }
    else { d with faults := d.faults + 1 }
  | none => { d with faults := d.faults + 1 }

/-- Render: the channels are recorded with all their LEDs. -/
def render (d : Device) (r : Registers) : Int32 × Device :=
  let rendered := r.channels.toList.map fun c =>
    ⟨c.brightness, c.leds.map fun h => ((d.array? h).elim [] PixelBuffer.toList)⟩
  (d.renderCode, d.note (.render rendered d.renderCode))

def wait (d : Device) : Int32 × Device := (d.waitCode, d.note (.wait d.waitCode))

/-! ## Releasing -/

/-- Release the arrays that the registers point to. -/
def fini (d : Device) (r : Registers) : Device :=
  let named := r.channels.toList.filterMap ChannelRegisters.leds
  { d.note .fini with arrays := d.arrays.filter fun (h, _) => !named.contains h }

end Device

end LedStrip.Driver
