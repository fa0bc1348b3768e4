import LedStrip.Cli.Session
import LedStrip.Proofs.Play.Reports
import LedStrip.Proofs.Strip.Views

/-!
# The wipe at the end

The wipe asks for nothing: it shows one frame for each LED, in which this LED and all before it are
dark (`Cli.frames_wipe`), unless one of them cannot be shown.
-/

namespace LedStrip

namespace Strip

variable {β : Type} {k : Nat} {s t : Strip β}

/-- The first `k` LEDs of the active channel are dark, and everything else is what it is on `s`. -/
structure Darkened (k : Nat) (s t : Strip β) : Prop where
  active : t.active = s.active
  drawn : DrawnOn s.active s t
  word? : ∀ i, t.pixels.word? i =
    if i < k ∧ i < s.pixels.length then some 0 else s.pixels.word? i

namespace Darkened

theorem refl (s : Strip β) : Darkened 0 s s :=
  ⟨rfl, .refl s.active s, fun i => (if_neg fun h => Nat.not_lt_zero i h.1).symm⟩

theorem length (dark : Darkened k s t) : t.pixels.length = s.pixels.length :=
  dark.drawn.length_pixels dark.active

theorem present [Backend β] (dark : Darkened k s t) : Darkened k s (Surface.present t).state :=
  ⟨dark.active, dark.drawn.trans (.of_channels rfl rfl), dark.word?⟩

theorem set [Backend β] (dark : Darkened k s t) :
    Darkened (k + 1) s (Surface.set t k .black) := by
  have pixels : (Surface.set t k .black).pixels = t.pixels.set k .black :=
    Legible.leds_set t k .black
  have drawn := t.drawnOn_write t.active (.set k .black)
  rw [dark.active] at drawn
  refine ⟨dark.active, ?_, fun i => ?_⟩
  · exact dark.drawn.trans (dark.active ▸ drawn)
  · rw [pixels, PixelBuffer.word?_set, dark.word?, dark.length, Color.pack_black]
    by_cases here : k = i ∧ i < s.pixels.length
    · rw [if_pos here, if_pos (by omega)]
    · rw [if_neg here]
      have same : i < k + 1 ∧ i < s.pixels.length ↔ i < k ∧ i < s.pixels.length := by omega
      simp only [same]

/-- When all LEDs are dark the row is as if it was new. -/
theorem pixels_eq_blank (dark : Darkened s.pixels.length s t) :
    t.pixels = .blank s.pixels.length := by
  apply PixelBuffer.ext_of_lt
  · rw [dark.length, PixelBuffer.length_blank]
  intro i inside
  rw [dark.length] at inside
  rw [dark.word?, if_pos ⟨inside, inside⟩, PixelBuffer.word?_blank, if_pos inside]

/-- The row of the active channel in a picture. -/
theorem getElem?_picture [Backend β] (dark : Darkened k s t) :
    (Surface.picture t)[s.active.val]? = some t.pixels := by
  rw [← dark.active]
  exact getElem?_map_toList Channel.pixels t.channels t.active

end Darkened

end Strip

namespace Cli

open Play

/-- Darken so many LEDs from one on, with a frame for each. -/
def wipeFrom : Nat → Nat → Play Unit
  | _, 0 => skip
  | start, count + 1 =>
    paint [.set start .black] <| present <| sleep (10 * Animation.millisecond) <|
      wipeFrom (start + 1) count

theorem wipe_eq (n : Nat) : wipe n = wipeFrom 0 n := by
  have from_start (start count : Nat) :
      ((whileRunning (fun i => frame [.set i .black] (10 * Animation.millisecond)) start count).bind
        fun _ => skip).unstoppable = wipeFrom start count := by
    induction count generalizing start with
    | zero => rfl
    | succ count ih =>
      rw [wipeFrom, ← ih]
      rfl
  exact from_start 0 n

theorem reports_wipeFrom (start count : Nat) : (wipeFrom start count).Reports fun _ => False := by
  induction count generalizing start with
  | zero => trivial
  | succ count ih => exact ih (start + 1)

/-- If nothing goes wrong there is one frame for each LED, each darker than the one before. -/
theorem frames_wipeFrom {β σ : Type} [Backend β] [Stage σ] {left : Strip β} (start count : Nat)
    {s : Scene (Strip β) σ} (dark : left.Darkened start s.surface)
    (fine : ∀ e, .refused e ∉ (wipeFrom start count).acts s) :
    (((wipeFrom start count).acts s).filterMap Act.frame?).length = count ∧
      ∀ i, i < count → ∃ t, left.Darkened (start + i + 1) t ∧
        (((wipeFrom start count).acts s).filterMap Act.frame?)[i]? = some (Surface.picture t) := by
  induction count generalizing start s with
  | zero => exact ⟨rfl, fun i below => absurd below (Nat.not_lt_zero i)⟩
  | succ count ih =>
    let painted := s.paint [.set start .black]
    have dark' : left.Darkened (start + 1) painted.present.1.surface := by
      rw [painted.surface_present]
      exact dark.set.present
    cases shown : painted.present.2 with
    | error e =>
      have refused : .refused e ∈ (wipeFrom start (count + 1)).acts s := by
        apply List.mem_cons_of_mem
        rw [acts_present_of_error shown]
        exact List.mem_cons_self
      exact absurd refused (fine e)
    | ok =>
      let later := painted.present.1.sleep (10 * Animation.millisecond)
      have acts : (wipeFrom start (count + 1)).acts s = .painted [.set start .black] ::
          .shown (Surface.picture painted.present.1.surface) ::
          .slept (10 * Animation.millisecond) :: (wipeFrom (start + 1) count).acts later :=
        congrArg (_ :: ·) (acts_present_of_ok shown)
      rw [acts] at fine ⊢
      have frame : (Act.shown (Surface.picture painted.present.1.surface)).frame? = some _ := rfl
      rw [List.filterMap_cons_none rfl, List.filterMap_cons_some frame,
        List.filterMap_cons_none rfl]
      obtain ⟨length, frames⟩ := ih (start + 1) (s := later) dark' fun e refused =>
        fine e (List.mem_cons_of_mem _ (List.mem_cons_of_mem _ (List.mem_cons_of_mem _ refused)))
      refine ⟨congrArg (· + 1) length, fun i below => ?_⟩
      cases i with
      | zero => exact ⟨_, dark', rfl⟩
      | succ i =>
        obtain ⟨t, dark'', frame⟩ := frames i (Nat.lt_of_succ_lt_succ below)
        rw [Nat.add_right_comm start 1 i] at dark''
        exact ⟨t, dark'', frame⟩

end Cli

end LedStrip
