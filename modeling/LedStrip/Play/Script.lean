import LedStrip.Surface

/-!
# Scripts

An animation is a script: a tree of acts (drawing, showing, sleeping, reporting) and questions (is
the show still on, what time is it, give me a random number) whose answers decide how it goes on.  A
script says nothing about the surface it is played on, nor about where the answers come from.
-/

namespace LedStrip

/-- What to do, up to a value at the end. -/
inductive Play (α : Type) where
  | done (a : α)
  /-- Draw. -/
  | paint (strokes : List Stroke) (next : Play α)
  /-- Send what is drawn; if that fails the play is over, and the error is its result.  It stands for
  a show whose error is handed on at once.  All shows of the animations are of this kind: none of
  them looks at the error or goes on behind it. -/
  | present (next : Play α)
  /-- Sleep for so many nanoseconds. -/
  | sleep (nanoseconds : Nat) (next : Play α)
  /-- Report an event. -/
  | report (event : Event) (next : Play α)
  /-- Ask whether the show is still on. -/
  | running (next : Bool → Play α)
  /-- Ask for the time in nanoseconds. -/
  | clock (next : Nat → Play α)
  /-- Ask for a random number in a range, both ends included. -/
  | random (low high : Nat) (next : Nat → Play α)

namespace Play

variable {α β : Type}

/-- One play after the other. -/
def bind : Play α → (α → Play β) → Play β
  | done a, f => f a
  | paint strokes next, f => paint strokes (next.bind f)
  | present next, f => present (next.bind f)
  | sleep t next, f => sleep t (next.bind f)
  | report e next, f => report e (next.bind f)
  | running next, f => running fun b => (next b).bind f
  | clock next, f => clock fun t => (next t).bind f
  | random low high next, f => random low high fun n => (next n).bind f

/-- Nothing to do. -/
def skip : Play Unit := done ()

/-- One play, and then another one. -/
def andThen (p : Play Unit) (q : Play Unit) : Play Unit := p.bind fun _ => q

/-- Draw, show and sleep. -/
def frame (strokes : List Stroke) (wait : Nat) : Play Unit :=
  paint strokes (present (sleep wait skip))

/-- Play a body for `count` numbers from `start` on, as long as the show is on.  The value says
whether all were played. -/
def whileRunning (body : Nat → Play Unit) : Nat → Nat → Play Bool
  | _, 0 => done true
  | start, count + 1 => running fun on =>
    if on then (body start).bind fun _ => whileRunning body (start + 1) count else done false

/-- Play a body for the numbers below `count`, as long as the show is on. -/
def each (count : Nat) (body : Nat → Play Unit) : Play Unit :=
  (whileRunning body 0 count).bind fun _ => skip

/-- Play a body again and again, as long as the show is on and for no longer than `length`
nanoseconds after `start`, and no more than `rounds` times. -/
def within (start length : Nat) (body : Play Unit) : Nat → Play Unit
  | 0 => skip
  | rounds + 1 => clock fun now =>
    if now - start < length then
      running fun on => if on then body.andThen (within start length body rounds) else skip
    else skip

/-- Play a body again and again for a segment of `length` nanoseconds from now on. -/
def segment (length rounds : Nat) (body : Play Unit) : Play Unit :=
  clock fun start => within start length body rounds

end Play

end LedStrip
