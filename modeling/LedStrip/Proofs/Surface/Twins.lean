import LedStrip.Proofs.Play.Acts
import LedStrip.Proofs.Surface.Strokes

/-!
# Surfaces that cannot be told apart

Two surfaces are twins if they stay so whatever is drawn, and if they look the same when they are
shown (`Surface.Twins`).  No play tells twins apart (`Surface.Twins.same`): it does and is told the
same on both.  A surface on which the LEDs are filled one after the other is a twin of the same
surface with its own way to fill, if this gives the same LEDs (`Surface.filledEach_twins`).
-/

namespace LedStrip

/-- A relation between surfaces that drawing and showing keep, and under which they look alike. -/
structure Surface.Twins {S T : Type} [Surface S] [Surface T] (Twin : S → T → Prop) : Prop where
  length {s : S} {t : T} : Twin s t → Surface.length s = Surface.length t
  stroke {s : S} {t : T} (x : Stroke) : Twin s t → Twin (Surface.stroke s x) (Surface.stroke t x)
  present {s : S} {t : T} : Twin s t → Twin (Surface.present s).state (Surface.present t).state
  result {s : S} {t : T} : Twin s t → (Surface.present s).result = (Surface.present t).result
  log {s : S} {t : T} : Twin s t → (Surface.present s).log = (Surface.present t).log
  picture {s : S} {t : T} : Twin s t → Surface.picture s = Surface.picture t

variable {α S T σ : Type} [Surface S] [Surface T] {Twin : S → T → Prop}

namespace Surface.Twins

variable {s : S} {t : T} (twins : Twins Twin)

include twins

theorem paint (strokes : List Stroke) (twin : Twin s t) :
    Twin (Surface.paint s strokes) (Surface.paint t strokes) := by
  unfold Surface.paint
  induction strokes generalizing s t with
  | nil => exact twin
  | cons x strokes ih => exact ih (twins.stroke x twin)

theorem apply (a : Act) (twin : Twin s t) : Twin (a.apply s) (a.apply t) := by
  cases a with
  | painted strokes => exact twins.paint strokes twin
  | shown | refused => exact twins.present twin
  | checked | timed | drew | slept | reported => exact twin

theorem foldl_apply (acts : List Act) (twin : Twin s t) :
    Twin (acts.foldl Act.apply s) (acts.foldl Act.apply t) := by
  induction acts generalizing s t with
  | nil => exact twin
  | cons a acts ih => exact ih (twins.apply a twin)

end Surface.Twins

/-! ## Scenes on twins -/

/-- The scene with another surface. -/
def Scene.onto (s : Scene S σ) (y : T) : Scene T σ := ⟨y, s.stage, s.beats, s.log⟩

namespace Surface.Twins

variable {s : Scene S σ} {y : T} (twins : Twins Twin) (twin : Twin s.surface y)

include twins twin

theorem paint_onto (strokes : List Stroke) :
    (s.onto y).paint strokes = (s.paint strokes).onto (Surface.paint y strokes) := by
  unfold Scene.paint Scene.onto
  rw [twins.length twin]

theorem present_onto [Stage σ] :
    (s.onto y).present = (s.present.1.onto (Surface.present y).state, s.present.2) := by
  have picture := twins.picture (twins.present twin)
  unfold Scene.present Scene.onto
  dsimp only
  rw [← twins.result twin, ← twins.log twin, ← picture]
  split <;> rfl

end Surface.Twins

variable [Stage σ]

/-- Two performances in which the same happens: the same is drawn and shown, and the same answers
are given; they end with the same value or error, the same can be seen and is reported, and the
stages are left alike. -/
structure SamePerformance (p : Play α) (s : Scene S σ) (q : Play α) (t : Scene T σ) : Prop where
  acts : p.acts s = q.acts t
  result : (p.perform s).2 = (q.perform t).2
  stage : (p.perform s).1.stage = (q.perform t).1.stage
  beats : (p.perform s).1.beats = (q.perform t).1.beats
  log : (p.perform s).1.log = (q.perform t).1.log

/-- The same happens on both scenes when something is played on them. -/
def Scene.SamePlay (play : Nat → Play α) (s : Scene S σ) (t : Scene T σ) : Prop :=
  SamePerformance (play (Surface.length s.surface)) s (play (Surface.length t.surface)) t

/-- One act, and what comes behind it. -/
theorem SamePerformance.cons {p q p' q' : Play α} {s s' : Scene S σ} {t t' : Scene T σ} {a : Act}
    (rest : SamePerformance p' s' q' t')
    (acts : p.acts s = a :: p'.acts s') (performed : p.perform s = p'.perform s')
    (acts' : q.acts t = a :: q'.acts t') (performed' : q.perform t = q'.perform t') :
    SamePerformance p s q t := by
  constructor
  · rw [acts, acts', rest.acts]
  · rw [performed, performed', rest.result]
  · rw [performed, performed', rest.stage]
  · rw [performed, performed', rest.beats]
  · rw [performed, performed', rest.log]

namespace Surface.Twins

theorem present_same (twins : Twins Twin) {next : Play α} {s : Scene S σ} {y : T}
    (twin : Twin s.surface y)
    (rest : SamePerformance next s.present.1 next (s.present.1.onto (Surface.present y).state)) :
    SamePerformance (.present next) s (.present next) (s.onto y) := by
  have step := twins.present_onto twin
  cases h : s.present.2 with
  | ok =>
    have works : (s.onto y).present.2 = .ok () := by rw [step, h]
    have picture : Surface.picture (s.onto y).present.1.surface =
        Surface.picture s.present.1.surface := by
      rw [step, s.surface_present]
      exact (twins.picture (twins.present twin)).symm
    have acts := Play.acts_present_of_ok (p := next) works
    have performed := Play.perform_present_of_ok (p := next) works
    rw [picture, step] at acts
    rw [step] at performed
    exact rest.cons (Play.acts_present_of_ok h) (Play.perform_present_of_ok h) acts performed
  | error e =>
    have fails : (s.onto y).present.2 = .error e := by rw [step, h]
    have performed := Play.perform_present_of_error (p := next) fails
    rw [step] at performed
    constructor
    case acts => rw [Play.acts_present_of_error h, Play.acts_present_of_error fails]
    case result => rw [Play.perform_present_of_error h, performed]
    all_goals
      rw [Play.perform_present_of_error h, performed]
      rfl

/-- No play tells twins apart. -/
theorem same (twins : Twins Twin) (p : Play α) {s : Scene S σ} {y : T} (twin : Twin s.surface y) :
    SamePerformance p s p (s.onto y) := by
  induction p generalizing s y with
  | done a => exact ⟨rfl, rfl, rfl, rfl, rfl⟩
  | paint strokes next ih =>
    have painted := twins.paint_onto twin strokes
    have rest := ih (s := s.paint strokes) (twins.paint strokes twin)
    rw [← painted] at rest
    exact rest.cons rfl rfl rfl rfl
  | present next ih =>
    apply twins.present_same twin
    apply ih
    rw [s.surface_present]
    exact twins.present twin
  | sleep t next ih => exact (ih (s := s.sleep t) twin).cons rfl rfl rfl rfl
  | report e next ih => exact (ih (s := s.report e) twin).cons rfl rfl rfl rfl
  | running next ih =>
    exact (ih _ (s := { s with stage := (Stage.running s.stage).2 }) twin).cons rfl rfl rfl rfl
  | clock next ih =>
    exact (ih _ (s := { s with stage := (Stage.clock s.stage).2 }) twin).cons rfl rfl rfl rfl
  | random low high next ih =>
    exact (ih _ (s := { s with stage := (Stage.random low high s.stage).2 }) twin).cons
      rfl rfl rfl rfl

theorem samePlay (twins : Twins Twin) (play : Nat → Play α) {s : Scene S σ} {y : T}
    (twin : Twin s.surface y) : s.SamePlay play (s.onto y) := by
  have length : Surface.length s.surface = Surface.length (s.onto y).surface := twins.length twin
  unfold Scene.SamePlay
  rw [← length]
  exact twins.same _ twin

end Surface.Twins

/-! ## Filling one LED after the other -/

/-- Filling one LED after the other makes no difference. -/
def Surface.FillsEvenly (S : Type) [Surface S] : Prop :=
  ∀ (s : S) (c : Color), fillEach s c = fill s c

theorem Surface.filledEach_twins (even : FillsEvenly S) :
    Twins fun (s : S) (f : FilledEach S) => s = f.surface where
  length twin := congrArg Surface.length twin
  stroke x twin := by
    subst twin
    cases x with
    | set i c => rfl
    | fill c => exact (even _ c).symm
  present twin := congrArg (fun s => (Surface.present s).state) twin
  result twin := congrArg (fun s => (Surface.present s).result) twin
  log twin := congrArg (fun s => (Surface.present s).log) twin
  picture twin := congrArg Surface.picture twin

end LedStrip
