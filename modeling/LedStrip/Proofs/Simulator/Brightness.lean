import LedStrip.Proofs.Simulator.Recording
import LedStrip.Proofs.Strip.Routing
import LedStrip.Proofs.StripType.Wire
import Mathlib.Data.List.Forall2

/-!
# Brightness

Brightness is applied once, when the LEDs are sent, and nothing is lost by it.  The bytes of a row
at a brightness are the bytes of the dimmed row at full brightness (`encode_scaled`); with the
brightness no byte gets smaller (`encode_mono`).  What a strip stores does not depend on how bright
it was meanwhile or how often it was shown (`pixels_run_filter`).
-/

namespace LedStrip

/-! ## Components -/

namespace Color

theorem toNat_scaleComponent (value brightness : UInt8) :
    (scaleComponent value brightness).toNat = value.toNat * (brightness.toNat + 1) / 256 := by
  have small : value.toNat * (brightness.toNat + 1) < 256 * 256 := by
    have first := value.toNat_lt
    have second := brightness.toNat_lt
    exact Nat.mul_lt_mul_of_lt_of_le first second (by decide)
  rw [scaleComponent, UInt8.toNat_ofNat', Nat.mod_eq_of_lt]
  exact Nat.div_lt_of_lt_mul small

theorem scaleComponent_mono {b b' : UInt8} (brighter : b ≤ b') (value : UInt8) :
    scaleComponent value b ≤ scaleComponent value b' := by
  rw [UInt8.le_iff_toNat_le] at brighter ⊢
  rw [toNat_scaleComponent, toNat_scaleComponent]
  exact Nat.div_le_div_right (Nat.mul_le_mul_left _ (Nat.succ_le_succ brighter))

theorem scaleComponent_zero (value : UInt8) : scaleComponent value 0 = 0 := by
  have dark : (0 : UInt8).toNat = 0 := rfl
  apply UInt8.toNat_inj.1
  rw [toNat_scaleComponent, dark, Nat.zero_add, Nat.mul_one, Nat.div_eq_of_lt value.toNat_lt]

theorem component_scale_mono {b b' : UInt8} (brighter : b ≤ b') (c : Color) (letter : Char) :
    (c.scale b).component letter ≤ (c.scale b').component letter := by
  unfold component
  split
  case h_5 => exact UInt8.le_refl 0
  all_goals exact scaleComponent_mono brighter _

theorem component_scale_zero (c : Color) (letter : Char) : (c.scale 0).component letter = 0 := by
  unfold component
  split
  case h_5 => rfl
  all_goals exact scaleComponent_zero _

end Color

/-! ## Bytes -/

/-- The row with every color dimmed. -/
def PixelBuffer.scaled (p : PixelBuffer) (brightness : UInt8) : PixelBuffer :=
  ⟨p.words.map fun word => ((Color.unpack word).scale brightness).pack⟩

namespace StripType

variable (t : StripType) (words : List UInt32)

/-- To dim the bytes is to send dimmed colors. -/
theorem encode_scaled (brightness : UInt8) :
    t.encode (words.map fun word => ((Color.unpack word).scale brightness).pack) 255 =
      t.encode words brightness := by
  rw [encode, List.flatMap_map]
  refine congrArg words.flatMap (funext fun word => ?_)
  rw [encodeLed_eq, encodeLed_eq, Color.unpack_pack, Color.scale_255]

theorem encode_mono {b b' : UInt8} (brighter : b ≤ b') :
    List.Forall₂ (· ≤ ·) (t.encode words b) (t.encode words b') := by
  induction words with
  | nil => exact .nil
  | cons word words ih =>
    have first : List.Forall₂ (· ≤ ·) (t.encodeLed word b) (t.encodeLed word b') := by
      rw [encodeLed_eq, encodeLed_eq, List.forall₂_map_left_iff, List.forall₂_map_right_iff]
      exact List.forall₂_same.2 fun letter _ => Color.component_scale_mono brighter _ letter
    rw [encode_cons, encode_cons]
    exact List.rel_append first ih

theorem encode_zero : t.encode words 0 = List.replicate (words.length * t.bytesPerLed) 0 := by
  refine List.eq_replicate_iff.2 ⟨t.length_encode words 0, fun byte sent => ?_⟩
  obtain ⟨word, -, sent⟩ := List.mem_flatMap.1 sent
  rw [encodeLed_eq] at sent
  obtain ⟨letter, -, rfl⟩ := List.mem_map.1 sent
  exact Color.component_scale_zero _ letter

end StripType

/-! ## Runs -/

namespace Strip

/-- Whether a move draws, or says where to draw. -/
def Move.draws : Move → Bool
  | .ask (.write _) | .ask (.writeTo _ _) | .ask (.activate _) => true
  | _ => false

theorem Move.idle_of_not_draws {m : Move} (idle : m.draws = false) (used : ChannelIndex → Bool)
    (active : ChannelIndex) : m.chosen? used = none ∧ m.write? active = none := by
  cases m with
  | ask q => cases q <;> first | exact ⟨rfl, rfl⟩ | cases idle
  | read q => exact ⟨rfl, rfl⟩
  | answer call code => exact ⟨rfl, rfl⟩

/-- What is drawn on a channel is told by the moves that draw. -/
theorem delivered_filter (used : ChannelIndex → Bool) (c active : ChannelIndex)
    (moves : List Move) :
    delivered used Move.write? c active (moves.filter Move.draws) =
      delivered used Move.write? c active moves := by
  induction moves generalizing active with
  | nil => rfl
  | cons m rest ih =>
    cases draws : m.draws with
    | true =>
      rw [List.filter_cons_of_pos draws]
      exact congrArg ((brought Move.write? c active m).toList ++ ·) (ih _)
    | false =>
      obtain ⟨unchosen, unwritten⟩ := Move.idle_of_not_draws draws used active
      have nothing : brought Move.write? c active m = none := by
        rw [brought, unwritten, Option.bind_none]
      have same : activeAfter used active [m] = active := by
        rw [activeAfter_singleton, unchosen, Option.getD_none]
      rw [List.filter_cons_of_neg (by simp [draws]), ih, delivered, nothing, same]
      rfl

section

variable {β : Type} [Backend β] [Scripted β] (s : Strip β) (moves : List Move) (c : ChannelIndex)

/-- What is stored is what the moves that draw make of it, without any others. -/
theorem pixels_run_filter :
    ((s.run (moves.filter Move.draws)).state.channels.get c).pixels =
      ((s.run moves).state.channels.get c).pixels := by
  obtain ⟨-, -, channels⟩ := s.run_eq moves
  obtain ⟨-, -, channels'⟩ := s.run_eq (moves.filter Move.draws)
  rw [channels, channels', receive, receive, delivered_filter]

/-- Of the settings of a channel only the brightness changes. -/
theorem config_run : ((s.run moves).state.channels.get c).config =
    (s.channels.get c).config.dim ((s.run moves).state.channels.get c).brightness := by
  obtain ⟨-, -, channels⟩ := s.run_eq moves
  rw [channels, Channel.brightness, receive, foldl_dim]
  rfl

/-- After the same drawing, and with the same brightness in the end, the channels are the same. -/
theorem channels_run {others : List Move}
    (drawn : others.filter Move.draws = moves.filter Move.draws)
    (bright : ∀ c, ((s.run others).state.channels.get c).brightness =
      ((s.run moves).state.channels.get c).brightness) :
    (s.run others).state.channels = (s.run moves).state.channels := by
  refine ext_get fun c => ?_
  have config : ((s.run others).state.channels.get c).config =
      ((s.run moves).state.channels.get c).config := by
    rw [config_run, bright, ← config_run]
  have pixels : ((s.run others).state.channels.get c).pixels =
      ((s.run moves).state.channels.get c).pixels := by
    rw [← pixels_run_filter, drawn, pixels_run_filter]
  exact congrArg₂ Channel.mk config pixels

end

/-- Brightness is applied once, when the LEDs are sent.  What a channel sends at a brightness is
what its dimmed colors send at full brightness: as many bytes, none of them larger, all of them
larger or the same at a higher brightness, and all zero at brightness zero.  What a strip stores is
told by the moves that draw, whatever brightness was set and however often it was shown meanwhile;
and if in the end the brightness is the same, the same frame is recorded. -/
theorem dimmed_when_sent :
    (∀ (c : Channel) (b : UInt8),
      let sent (b : UInt8) := (c.withBrightness b).wire
      sent b = { c.withBrightness 255 with pixels := c.pixels.scaled b }.wire ∧
      List.Forall₂ (· ≤ ·) (sent b) (sent 255) ∧
      (∀ b', b ≤ b' → List.Forall₂ (· ≤ ·) (sent b) (sent b')) ∧
      sent 0 = List.replicate (sent 255).length 0 ∧
      (sent b).length = (sent 255).length) ∧
    ∀ (s : Strip Simulator) (moves : List Move),
      let t := (s.run moves).state
      (∀ c, (t.channels.get c).pixels =
        ((s.run (moves.filter Move.draws)).state.channels.get c).pixels) ∧
      ∀ others, others.filter Move.draws = moves.filter Move.draws →
        let u := (s.run others).state
        (∀ c, (u.channels.get c).brightness = (t.channels.get c).brightness) →
        t.render.result = .ok () → u.render.result = .ok () →
        ∃ frame,
          (∀ c, frame.leds.get c = (t.channels.get c).pixels ∧
            frame.wire.get c = (s.channels.get c).config.stripType.encode
              (t.channels.get c).pixels.toList (t.channels.get c).brightness) ∧
          t.render.state.backend = t.backend.record frame ∧
          u.render.state.backend = u.backend.record frame := by
  refine ⟨fun c b => ?_, fun s moves => ?_⟩
  · intro sent
    have length (b : UInt8) :
        (sent b).length = c.pixels.toList.length * c.config.stripType.bytesPerLed :=
      StripType.length_encode ..
    refine ⟨?_, StripType.encode_mono _ _ (UInt8.le_iff_toNat_le.2 (Nat.le_of_lt_succ b.toNat_lt)),
      fun b' brighter => StripType.encode_mono _ _ brighter, ?_, ?_⟩
    · show _ = c.config.stripType.encode (c.pixels.scaled b).toList 255
      rw [PixelBuffer.scaled, PixelBuffer.toList, Array.toList_map, StripType.encode_scaled]
      rfl
    · rw [length]
      exact StripType.encode_zero ..
    · rw [length, length]
  · intro t
    refine ⟨fun c => (s.pixels_run_filter moves c).symm, fun others drawn => ?_⟩
    intro u bright shown shown'
    have channels : u.channels = t.channels := s.channels_run moves drawn bright
    have snapshot : u.snapshot = t.snapshot := by
      simp only [Strip.snapshot, channels]
    refine ⟨t.snapshot, fun c => ?_, (Simulator.render_of_ok shown).1, ?_⟩
    · rw [Simulator.snapshot_eq, Frame.leds_of, Frame.wire_of, Channel.wire, s.config_run moves c]
      exact ⟨rfl, rfl⟩
    · rw [← snapshot]
      exact (Simulator.render_of_ok shown').1

/-- A strip that was shown dark and then set back to half brightness records the same frame as one
that was at half brightness from the start, and in it the color as it was drawn. -/
theorem dimmed_when_sent_back :
    ∃ s, (create (.single 1 18) Simulator.fresh).result = .ok s ∧
      let drawing : Move := .ask (.write (.set 0 (.rgb 200 100 50)))
      let moves := [drawing, .ask (.brightness 0), .ask .show, .ask (.brightness 127)]
      let others := [drawing, .ask (.brightness 127)]
      let t := (s.run moves).state
      let u := (s.run others).state
      others.filter Move.draws = moves.filter Move.draws ∧
        (∀ c, (u.channels.get c).brightness = (t.channels.get c).brightness) ∧
        t.render.result = .ok () ∧ u.render.result = .ok () ∧
        ∃ frame, (frame.leds.get 0).word? 0 = some 0xc86432 ∧ frame.wire.get 0 = [100, 50, 25] ∧
          t.render.state.backend = t.backend.record frame ∧
          u.render.state.backend = u.backend.record frame := by
  refine ⟨_, rfl, ?_⟩
  intro drawing moves others t u
  have drawn : others.filter Move.draws = moves.filter Move.draws := rfl
  have bright : ∀ c, (u.channels.get c).brightness = (t.channels.get c).brightness := by
    decide +kernel
  obtain ⟨-, runs⟩ := dimmed_when_sent
  obtain ⟨frame, sent, recorded, recorded'⟩ := (runs _ moves).2 others drawn bright rfl rfl
  obtain ⟨leds, wire⟩ := sent 0
  refine ⟨drawn, bright, rfl, rfl, frame, ?_, ?_, recorded, recorded'⟩
  · rw [leds]
    decide +kernel
  · rw [wire]
    decide +kernel

end Strip

end LedStrip
