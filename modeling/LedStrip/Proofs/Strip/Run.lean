import LedStrip.Driver.Controller
import LedStrip.Proofs.Strip.Request
import LedStrip.Simulator

/-!
# Runs of a strip

What happens to a strip over time, as data.  A move asks something of it, reads something off it, or
settles from outside how its backend answers from then on.  `run` makes moves one after the other
and collects the replies; `lifetime` is a whole use of a backend, from setting up to giving back.
-/

namespace LedStrip

/-- A backend whose answers are settled from outside. -/
class Scripted (β : Type) where
  /-- Answer calls of this kind with a code from now on. -/
  answerWith : Driver.Call → Int32 → β → β

instance : Scripted Simulator where
  answerWith
    | .init, code, s => s.withInitCode code
    | .render, code, s => s.withRenderCode code
    | .wait, code, s => s.withWaitCode code

instance : Scripted Driver.Device where
  answerWith
    | .init, code, d => { d with initCode := code }
    | .render, code, d => { d with renderCode := code }
    | .wait, code, d => { d with waitCode := code }

instance : Scripted Driver.Controller where
  answerWith call code c := { c with device := Scripted.answerWith call code c.device }

namespace Strip

/-! ## Reading -/

/-- What can be read off a strip. -/
inductive Query where
  /-- The index of the active channel. -/
  | active
  | config
  /-- The number of LEDs of the active channel. -/
  | length
  /-- The color of an LED of the active channel. -/
  | color (i : Nat)
  /-- All LEDs of the active channel. -/
  | pixels
  /-- The brightness of the active channel. -/
  | brightness
  /-- The settings and the LEDs of a channel, whichever is active. -/
  | channel (i : Nat)

/-- What a move returns. -/
inductive Reply where
  | done (result : Except Error Unit)
  | active (i : ChannelIndex)
  | config (config : StripConfig)
  | length (n : Nat)
  | color (color : Option Color)
  | pixels (pixels : PixelBuffer)
  | brightness (b : UInt8)
  | channel (result : Except Error Channel)

variable {β γ : Type}

/-- Read something off a strip. -/
def answer (s : Strip β) : Query → Reply
  | .active => .active s.active
  | .config => .config s.config
  | .length => .length s.pixels.length
  | .color i => .color (s.pixels.get? i)
  | .pixels => .pixels s.pixels
  | .brightness => .brightness s.activeChannel.brightness
  | .channel i => .channel (s.channel i)

theorem answer_withBackend (s : Strip β) (b : γ) (q : Query) :
    (s.withBackend b).answer q = s.answer q := by
  cases q <;> rfl

/-! ## Runs -/

/-- What can happen to a strip. -/
inductive Move where
  | ask (q : Request)
  | read (q : Query)
  /-- From outside: the backend answers calls of this kind with a code from now on. -/
  | answer (call : Driver.Call) (code : Int32)

/-- The driver call that a move leads to, if it leads to one. -/
def Move.call? : Move → Option Driver.Call
  | .ask q => q.call?
  | .read _ | .answer _ _ => none

variable [Backend β] [Scripted β]

/-- Make a move. -/
def perform (s : Strip β) : Move → Step (Strip β) Reply
  | .ask q =>
    let step := s.handle q
    ⟨step.state, .done step.result, step.log⟩
  | .read q => .silent s (s.answer q)
  | .answer call code =>
    .silent { s with backend := Scripted.answerWith call code s.backend } (.done (.ok ()))

/-- Make moves one after the other. -/
def run (s : Strip β) : List Move → Step (Strip β) (List Reply)
  | [] => .silent s []
  | m :: rest =>
    let first := s.perform m
    let others := first.state.run rest
    ⟨others.state, first.result :: others.result, first.log ++ others.log⟩

@[simp] theorem state_run_cons (s : Strip β) (m : Move) (rest : List Move) :
    (s.run (m :: rest)).state = ((s.perform m).state.run rest).state := rfl

@[simp] theorem result_run_cons (s : Strip β) (m : Move) (rest : List Move) :
    (s.run (m :: rest)).result = (s.perform m).result :: ((s.perform m).state.run rest).result :=
  rfl

/-- Use a backend from beginning to end: set a strip up, make the moves if that worked, and give up
whatever there is.  The result is the backend as it is left. -/
def lifetime (config : StripConfig) (b : β) (moves : List Move) : β :=
  let created := create config b
  match created.result with
  | .error _ => (Backend.discard created.state).state
  | .ok s => (s.run moves).state.release.state

theorem lifetime_of_ok {config : StripConfig} {b : β} {s : Strip β}
    (works : (create config b).result = .ok s) (moves : List Move) :
    lifetime config b moves = (s.run moves).state.release.state := by
  simp only [lifetime, works]

theorem lifetime_of_error {config : StripConfig} {b : β} {e : Error}
    (refused : (create config b).result = .error e) (moves : List Move) :
    lifetime config b moves = (Backend.discard (create config b).state).state := by
  simp only [lifetime, refused]

end Strip

end LedStrip
