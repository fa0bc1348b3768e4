import LedStrip.Play.Script
import LedStrip.Play.Stage

/-!
# Scenes

A play is performed on a surface and a stage.  The scene keeps both, with what could be seen so far,
the frames and the pauses between them, and what was reported.
-/

namespace LedStrip

/-- What can be seen of a performance. -/
inductive Beat where
  /-- A frame, as the LEDs of each channel. -/
  | shown (picture : List PixelBuffer)
  /-- A pause of so many nanoseconds. -/
  | slept (nanoseconds : Nat)
  deriving DecidableEq, Repr

/-- A surface on a stage, with what was seen and reported so far. -/
structure Scene (S σ : Type) where
  surface : S
  stage : σ
  beats : Array Beat
  log : Array Event

namespace Scene

variable {S σ : Type} [Surface S] [Stage σ]

/-- A scene on which nothing has happened. -/
def start (surface : S) (stage : σ) : Scene S σ := ⟨surface, stage, #[], #[]⟩

/-- Draw, and report the strokes that miss. -/
def paint (s : Scene S σ) (strokes : List Stroke) : Scene S σ :=
  let missed := Surface.missed (Surface.length s.surface) strokes
  { s with surface := Surface.paint s.surface strokes, log := s.log ++ missed.toArray }

/-- Show what is drawn. -/
def present (s : Scene S σ) : Scene S σ × Except Error Unit :=
  let step := Surface.present s.surface
  let log := s.log ++ step.log.toArray
  match step.result with
  | .ok () =>
    ({ surface := step.state
       stage := Stage.shown s.stage
       beats := s.beats.push (.shown (Surface.picture step.state))
       log := log }, .ok ())
  | .error e => ({ s with surface := step.state, log := log }, .error e)

/-- Let time pass. -/
def sleep (s : Scene S σ) (nanoseconds : Nat) : Scene S σ :=
  { s with
    stage := Stage.sleep nanoseconds s.stage
    beats := s.beats.push (.slept nanoseconds) }

/-- Report an event. -/
def report (s : Scene S σ) (e : Event) : Scene S σ := { s with log := s.log.push e }

end Scene

/-- Perform a play.  It ends with its value, or at once when showing fails. -/
def Play.perform {α S σ : Type} [Surface S] [Stage σ] :
    Play α → Scene S σ → Scene S σ × Except Error α
  | done a, s => (s, .ok a)
  | paint strokes next, s => next.perform (s.paint strokes)
  | present next, s =>
    match s.present with
    | (s, .ok ()) => next.perform s
    | (s, .error e) => (s, .error e)
  | sleep t next, s => next.perform (s.sleep t)
  | report e next, s => next.perform (s.report e)
  | running next, s =>
    let (on, stage) := Stage.running s.stage
    (next on).perform { s with stage := stage }
  | clock next, s =>
    let (now, stage) := Stage.clock s.stage
    (next now).perform { s with stage := stage }
  | random low high next, s =>
    let (n, stage) := Stage.random low high s.stage
    (next n).perform { s with stage := stage }

/-- One play after the other is performed like that; when the first fails the second is left. -/
theorem Play.perform_bind {α β S σ : Type} [Surface S] [Stage σ] (p : Play α) (f : α → Play β)
    (s : Scene S σ) :
    (p.bind f).perform s =
      match p.perform s with
      | (s, .ok a) => (f a).perform s
      | (s, .error e) => (s, .error e) := by
  induction p generalizing s with
  | done a => rfl
  | paint strokes next ih => exact ih _
  | present next ih =>
    simp only [bind, perform]
    split
    · exact ih _
    · rfl
  | sleep t next ih => exact ih _
  | report e next ih => exact ih _
  | running next ih => exact ih _ _
  | clock next ih => exact ih _ _
  | random low high next ih => exact ih _ _

/-- Perform what is played on a surface of this length. -/
def Scene.perform {α S σ : Type} [Surface S] [Stage σ] (s : Scene S σ) (play : Nat → Play α) :
    Scene S σ × Except Error α := (play (Surface.length s.surface)).perform s

end LedStrip
