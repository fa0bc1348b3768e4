import LedStrip.Driver.Controller
import LedStrip.Proofs.Config.Validation
import LedStrip.Proofs.Surface.Strokes
import LedStrip.Simulator

/-!
# Surfaces in their pictures

The LEDs of a surface are one row of the pictures that it shows (`Placed`).  To show a surface
changes none of its LEDs and is no write.
-/

namespace LedStrip

/-- The event of a write that was dropped. -/
def Event.isDropped : Event → Bool
  | ignoredWrite _ _ => true
  | _ => false

/-! ## Backends -/

/-- A backend that drops no writes when it renders. -/
class Backend.Writeless (β : Type) [Backend β] : Prop where
  log_render (channels : List Channel) (b : β) :
    ∀ e ∈ (Backend.render channels b).log, e.isDropped = false

instance : Backend.Writeless Simulator where
  log_render channels s := by
    intro e logged
    unfold Backend.render Simulator.instBackend Simulator.answer at logged
    dsimp only at logged
    split at logged
    · obtain rfl := List.mem_singleton.1 logged
      rfl
    · cases logged

instance : Backend.Writeless Driver.Controller where
  log_render _ _ := List.forall_mem_nil _

/-! ## Surfaces -/

/-- A surface whose LEDs are one row of its pictures. -/
class Placed (S : Type) [Surface S] [Legible S] where
  /-- The number of the row. -/
  place : S → Nat
  place_set (s : S) (i : Nat) (c : Color) : place (Surface.set s i c) = place s
  place_fill (s : S) (c : Color) : place (Surface.fill s c) = place s
  place_present (s : S) : place (Surface.present s).state = place s
  leds_present (s : S) : Legible.leds (Surface.present s).state = Legible.leds s
  log_present (s : S) : ∀ e ∈ (Surface.present s).log, e.isDropped = false
  getElem?_picture (s : S) : (Surface.picture s)[place s]? = some (Legible.leds s)

namespace Placed

theorem place_paint {S : Type} [Surface S] [Legible S] [Placed S] (s : S) (strokes : List Stroke) :
    place (Surface.paint s strokes) = place s := by
  unfold Surface.paint
  induction strokes generalizing s with
  | nil => rfl
  | cons stroke strokes ih =>
    rw [List.foldl_cons, ih]
    cases stroke with
    | set i c => exact place_set s i c
    | fill c => exact place_fill s c

instance : Placed PixelBuffer where
  place _ := 0
  place_set _ _ _ := rfl
  place_fill _ _ := rfl
  place_present _ := rfl
  leds_present _ := rfl
  log_present _ := List.forall_mem_nil _
  getElem?_picture _ := rfl

section Strips

variable {β : Type} [Backend β] [Backend.Writeless β]

instance : Placed (Strip β) where
  place s := s.active.val
  place_set _ _ _ := rfl
  place_fill _ _ := rfl
  place_present _ := rfl
  leds_present _ := rfl
  log_present s := Backend.Writeless.log_render s.channels.toList s.backend
  getElem?_picture s := getElem?_map_toList Channel.pixels s.channels s.active

instance : Placed (ChannelView β) where
  place v := v.index.val
  place_set _ _ _ := rfl
  place_fill _ _ := rfl
  place_present _ := rfl
  leds_present _ := rfl
  log_present v := Backend.Writeless.log_render v.strip.channels.toList v.strip.backend
  getElem?_picture v := getElem?_map_toList Channel.pixels v.strip.channels v.index

end Strips

end Placed

end LedStrip
