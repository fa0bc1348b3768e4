import LedStrip.Proofs.Animation.Cancellation
import LedStrip.Proofs.Play.Reports
import LedStrip.Proofs.Surface.Placed

/-!
# Strokes that miss

A play may draw beyond the end of its surface.  Such strokes are dropped: each is reported once, and
the LEDs are what the other strokes make of them (`Drops.of_reports`).
-/

namespace LedStrip

/-- Whether a stroke finds its LED on a row of this length. -/
def Stroke.hits (length : Nat) : Stroke → Bool
  | set i _ => decide (i < length)
  | fill _ => true

/-- The strokes of an act. -/
def Act.strokes : Act → List Stroke
  | painted strokes => strokes
  | _ => []

/-- All that is drawn, stroke by stroke. -/
def drawn (acts : List Act) : List Stroke := acts.flatMap Act.strokes

theorem Event.level_of_isDropped {e : Event} (dropped : e.isDropped = true) : e.level = .trace := by
  cases e with
  | ignoredWrite index length => rfl
  | _ => cases dropped

/-! ## Rows -/

theorem PixelBuffer.set_of_length_le {row : PixelBuffer} {i : Nat} (beyond : row.length ≤ i)
    (c : Color) : row.set i c = row := by
  apply ext_word?
  intro j
  rw [word?_set, if_neg (by omega)]

namespace Surface

theorem paint_filter_hits (row : PixelBuffer) (strokes : List Stroke) :
    paint row (strokes.filter (Stroke.hits row.length)) = paint row strokes := by
  unfold paint
  induction strokes generalizing row with
  | nil => rfl
  | cons x strokes ih =>
    have length : (stroke row x).length = row.length := length_paint row [x]
    have rest := ih (stroke row x)
    rw [length] at rest
    by_cases hit : x.hits row.length
    · rw [List.filter_cons_of_pos hit, List.foldl_cons, List.foldl_cons, rest]
    · cases x with
      | fill c => exact absurd rfl hit
      | set i c =>
        have missed : stroke row (.set i c) = row :=
          PixelBuffer.set_of_length_le (by simpa [Stroke.hits] using hit) c
        rw [List.filter_cons_of_neg hit, List.foldl_cons, missed]
        rw [missed] at rest
        exact rest

theorem missed_append (length : Nat) (strokes more : List Stroke) :
    missed length (strokes ++ more) = missed length strokes ++ missed length more :=
  List.filterMap_append

theorem isDropped_of_mem_missed {length : Nat} {strokes : List Stroke} :
    ∀ e ∈ missed length strokes, e.isDropped = true := by
  intro e reported
  obtain ⟨x, -, event⟩ := List.mem_filterMap.1 reported
  cases x with
  | fill c => cases event
  | set i c =>
    dsimp only at event
    split at event
    · obtain rfl := Option.some.inj event
      rfl
    · cases event

end Surface

/-! ## Acts -/

section Acts

open Legible (leds leds_paint length_leds)

variable {S : Type} [Surface S] [Legible S] [Placed S]

theorem Act.leds_apply (s : S) (a : Act) :
    leds (a.apply s) = Surface.paint (leds s) a.strokes := by
  cases a with
  | painted strokes => exact leds_paint s strokes
  | shown | refused => exact Placed.leds_present s
  | checked | timed | drew | slept | reported => rfl

theorem Act.length_apply (s : S) (a : Act) : Surface.length (a.apply s) = Surface.length s := by
  rw [← length_leds, ← length_leds, a.leds_apply, Surface.length_paint]

/-- The LEDs are what the strokes make of them that hit one. -/
theorem leds_foldl_apply (s : S) (acts : List Act) :
    leds (acts.foldl Act.apply s) =
      Surface.paint (leds s) ((drawn acts).filter (Stroke.hits (Surface.length s))) := by
  rw [← length_leds, Surface.paint_filter_hits]
  induction acts generalizing s with
  | nil => rfl
  | cons a acts ih =>
    rw [List.foldl_cons, ih, a.leds_apply]
    exact (List.foldl_append ..).symm

end Acts

/-! ## Scenes -/

namespace Scene

variable {S σ : Type}

/-- The dropped writes that were reported so far. -/
def dropped (s : Scene S σ) : List Event := s.log.toList.filter Event.isDropped

theorem dropped_append (s : Scene S σ) (events : List Event) {t : Scene S σ}
    (log : t.log = s.log ++ events.toArray) :
    t.dropped = s.dropped ++ events.filter Event.isDropped := by
  rw [dropped, dropped, log, Array.toList_append, List.filter_append]

theorem dropped_report (s : Scene S σ) {e : Event} (other : e.isDropped = false) :
    (s.report e).dropped = s.dropped := by
  rw [s.dropped_append [e] rfl, List.filter_cons_of_neg (by simp [other])]
  exact List.append_nil _

variable [Surface S]

theorem dropped_paint (s : Scene S σ) (strokes : List Stroke) :
    (s.paint strokes).dropped =
      s.dropped ++ Surface.missed (Surface.length s.surface) strokes := by
  rw [s.dropped_append (Surface.missed (Surface.length s.surface) strokes) rfl,
    List.filter_eq_self.2 Surface.isDropped_of_mem_missed]

theorem dropped_present [Legible S] [Placed S] [Stage σ] (s : Scene S σ) :
    s.present.1.dropped = s.dropped := by
  have log : s.present.1.log = s.log ++ (Surface.present s.surface).log.toArray := by
    unfold present
    dsimp only
    split <;> rfl
  have none : (Surface.present s.surface).log.filter Event.isDropped = [] := by
    apply List.filter_eq_nil_iff.2
    intro e logged
    rw [Placed.log_present s.surface e logged]
    exact Bool.false_ne_true
  rw [s.dropped_append _ log, none, List.append_nil]

end Scene

/-! ## Performances -/

section Performances

variable {α S σ : Type} [Surface S] [Legible S] [Placed S]

/-- An act, and what comes behind it. -/
theorem dropped_cons {s t final : Scene S σ} {a : Act} {acts : List Act}
    (now : t.dropped = s.dropped ++ Surface.missed (Surface.length s.surface) a.strokes)
    (surface : t.surface = a.apply s.surface)
    (later : final.dropped =
      t.dropped ++ Surface.missed (Surface.length t.surface) (drawn acts)) :
    final.dropped =
      s.dropped ++ Surface.missed (Surface.length s.surface) (drawn (a :: acts)) := by
  have split : drawn (a :: acts) = a.strokes ++ drawn acts := List.flatMap_cons
  rw [later, now, surface, a.length_apply, split, Surface.missed_append, List.append_assoc]

variable [Stage σ]

/-- If a play itself reports no dropped writes, those that are reported are the strokes that miss,
each once. -/
theorem Play.Reports.dropped_perform {p : Play α} (reports : p.Reports (·.isDropped = false))
    (s : Scene S σ) : (p.perform s).1.dropped =
      s.dropped ++ Surface.missed (Surface.length s.surface) (drawn (p.acts s)) := by
  have nothing {s t : Scene S σ} (same : t.dropped = s.dropped) :
      t.dropped = s.dropped ++ Surface.missed (Surface.length s.surface) [] :=
    same.trans (List.append_nil _).symm
  induction p generalizing s with
  | done a => exact (List.append_nil _).symm
  | paint strokes next ih =>
    exact dropped_cons (s.dropped_paint strokes) rfl (ih reports (s.paint strokes))
  | present next ih =>
    have kept := nothing s.dropped_present
    cases works : s.present.2 with
    | ok =>
      rw [acts_present_of_ok works, perform_present_of_ok works]
      exact dropped_cons (a := .shown _) kept s.surface_present (ih reports s.present.1)
    | error e =>
      rw [acts_present_of_error works, perform_present_of_error works]
      exact kept
  | sleep t next ih =>
    exact dropped_cons (a := .slept t) (nothing rfl) rfl (ih reports (s.sleep t))
  | report e next ih =>
    exact dropped_cons (a := .reported e) (nothing (s.dropped_report reports.1)) rfl
      (ih reports.2 (s.report e))
  | running next ih =>
    exact dropped_cons (a := .checked _) (nothing rfl) rfl (ih _ (reports _) s.checked)
  | clock next ih =>
    exact dropped_cons (a := .timed _) (nothing rfl) rfl
      (ih _ (reports _) { s with stage := (Stage.clock s.stage).2 })
  | random low high next ih =>
    exact dropped_cons (a := .drew _) (nothing rfl) rfl
      (ih _ (reports _) { s with stage := (Stage.random low high s.stage).2 })

/-- What becomes of the strokes of a play that miss. -/
structure Drops (p : Play α) (s : Scene S σ) : Prop where
  /-- Each of them is reported once, in order, with the length of the surface, and no other write is
  reported as dropped. -/
  reported : (p.perform s).1.dropped =
    s.dropped ++ Surface.missed (Surface.length s.surface) (drawn (p.acts s))
  traced : ∀ e ∈ (p.perform s).1.dropped, e.level = .trace
  /-- At any time the LEDs are what only the strokes that hit one make of them. -/
  untouched : ∀ before after, p.acts s = before ++ after →
    Legible.leds (before.foldl Act.apply s.surface) =
      Surface.paint (Legible.leds s.surface)
        ((drawn before).filter (Stroke.hits (Surface.length s.surface)))

theorem Drops.of_reports {p : Play α} (reports : p.Reports (·.isDropped = false))
    (s : Scene S σ) : Drops p s where
  reported := reports.dropped_perform s
  traced _ reported := Event.level_of_isDropped (List.mem_filter.1 reported).2
  untouched before _ _ := leds_foldl_apply s.surface before

end Performances

end LedStrip
