import LedStrip.Proofs.Play.Misses

/-!
# The rows that frames show

Which rows of LEDs the frames of a performance show follows from its acts alone: `rowsShown` draws
on a row what the acts draw and keeps the row whenever a frame is shown.  This holds also of a
performance that fails or is ended halfway (`Play.frames_rows`).
-/

namespace LedStrip

/-- The rows that are shown when acts begin on a row. -/
def rowsShown : PixelBuffer → List Act → List PixelBuffer
  | _, [] => []
  | row, .painted strokes :: acts => rowsShown (Surface.paint row strokes) acts
  | row, .shown _ :: acts => row :: rowsShown row acts
  | row, _ :: acts => rowsShown row acts

theorem rowsShown_of_untouched {row : PixelBuffer} {acts : List Act}
    (untouched : ∀ a ∈ acts, a.touches = false) : rowsShown row acts = [] := by
  induction acts with
  | nil => rfl
  | cons a acts ih =>
    obtain ⟨here, later⟩ := List.forall_mem_cons.1 untouched
    cases a with
    | painted | shown | refused => cases here
    | checked | timed | drew | slept | reported => exact ih later

theorem drawn_of_untouched {acts : List Act} (untouched : ∀ a ∈ acts, a.touches = false) :
    drawn acts = [] := by
  refine List.flatMap_eq_nil_iff.2 fun a happens => ?_
  have dark := untouched a happens
  cases a <;> first | rfl | cases dark

section Surfaces

open Legible (leds)

variable {α S σ : Type} [Surface S] [Legible S] [Placed S]

theorem Act.place_apply (s : S) (a : Act) : Placed.place (a.apply s) = Placed.place s := by
  cases a with
  | painted strokes => exact Placed.place_paint s strokes
  | shown | refused => exact Placed.place_present s
  | checked | timed | drew | slept | reported => rfl

/-- Frames that show the surface as it is show its row. -/
theorem Pictured.rows {s : S} {acts : List Act} (pictured : Pictured s acts) :
    (acts.filterMap Act.frame?).map (·[Placed.place s]?) = (rowsShown (leds s) acts).map some := by
  induction acts generalizing s with
  | nil => rfl
  | cons a acts ih =>
    have rest := ih pictured.2
    rw [a.place_apply, a.leds_apply] at rest
    cases a with
    | shown picture =>
      have row : picture[Placed.place s]? = some (leds s) := by
        have seen := Placed.getElem?_picture (Surface.present s).state
        rw [Placed.place_present, Placed.leds_present] at seen
        rwa [pictured.1 picture rfl]
      exact congrArg₂ List.cons row rest
    | painted | refused | checked | timed | drew | slept | reported => exact rest

variable [Stage σ]

/-- However a performance ends, its frames show the rows that follow from its acts. -/
theorem Play.frames_rows (p : Play α) (s : Scene S σ) :
    ∃ pictures, (p.perform s).1.frames = s.frames ++ pictures ∧
      pictures.map (·[Placed.place s.surface]?) =
        (rowsShown (leds s.surface) (p.acts s)).map some :=
  ⟨_, p.frames_perform s, (p.pictured s).rows⟩

/-- The row that is left is what all strokes make of the first one. -/
theorem Play.leds_perform (p : Play α) (s : Scene S σ) :
    leds (p.perform s).1.surface = Surface.paint (leds s.surface) (drawn (p.acts s)) := by
  rw [surface_perform, leds_foldl_apply, ← Legible.length_leds, Surface.paint_filter_hits]

/-- A performance whose strokes all hit drops no write. -/
theorem Play.Reports.dropped_of_hits {p : Play α} (reports : p.Reports (·.isDropped = false))
    {s : Scene S σ} (hit : ∀ x ∈ drawn (p.acts s), x.hits (Surface.length s.surface) = true) :
    (p.perform s).1.dropped = s.dropped := by
  have none : Surface.missed (Surface.length s.surface) (drawn (p.acts s)) = [] := by
    refine List.filterMap_eq_nil_iff.2 fun x mem => ?_
    cases x with
    | fill c => rfl
    | set i c => exact if_neg (Nat.not_le.2 (of_decide_eq_true (hit _ mem)))
  rw [reports.dropped_perform, none, List.append_nil]

end Surfaces

end LedStrip
