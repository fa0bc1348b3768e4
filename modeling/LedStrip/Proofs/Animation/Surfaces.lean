import LedStrip.Animation.Programs
import LedStrip.Play.Stage
import LedStrip.Proofs.Animation.Cancellation
import LedStrip.Proofs.Strip.Views

/-!
# Animations on any surface

An animation on the active channel of a strip, and the same one on a view of that channel
(`Interchangeable`): nothing that happens is different, and nothing but the LEDs of this channel is
touched.  It makes no difference either whether the surface has its own way to fill the LEDs.
-/

namespace LedStrip

/-- What there is to say of a play on channel `c` of a strip `s`, drawn on a strip on which this
channel is active and on a view of it. -/
structure Interchangeable {β σ : Type} [Backend β] [Stage σ] (play : Nat → Play Unit) (s : Strip β)
    (c : ChannelIndex) (onStrip : Scene (Strip β) σ) (onView : Scene (ChannelView β) σ) : Prop where
  same : onStrip.SamePlay play onView
  /-- Only the active channel may be another one in the end. -/
  left : (onStrip.perform play).1.surface =
    { (onView.perform play).1.surface.strip with active := c }
  active : (onView.perform play).1.surface.strip.active = s.active
  /-- Filling one LED after the other comes to the same. -/
  filledStrip : let onFilled := onStrip.onto (FilledEach.mk onStrip.surface)
    onStrip.SamePlay play onFilled ∧
      (onFilled.perform play).1.surface.surface = (onStrip.perform play).1.surface
  filledView : let onFilled := onView.onto (FilledEach.mk onView.surface)
    onView.SamePlay play onFilled ∧
      (onFilled.perform play).1.surface.surface = (onView.perform play).1.surface
  /-- At any time no other channel was drawn on, and no setting was changed. -/
  drawn : ∀ before after, onStrip.acts play = before ++ after →
    Strip.DrawnOn c s (before.foldl Act.apply onStrip.surface) ∧
      Strip.DrawnOn c s (before.foldl Act.apply onView.surface).strip
  /-- Each frame shows the other channels as they were at the beginning. -/
  shown : ∀ picture, .shown picture ∈ onStrip.acts play → ∀ j, j ≠ c →
    picture[j.val]? = some (s.channels.get j).pixels

namespace Interchangeable

variable {β σ : Type} [Backend β] [Stage σ]

theorem of_filled {S : Type} [Surface S] (even : Surface.FillsEvenly S) (play : Nat → Play Unit)
    (s : Scene S σ) :
    let onFilled := s.onto (FilledEach.mk s.surface)
    s.SamePlay play onFilled ∧
      (onFilled.perform play).1.surface.surface = (s.perform play).1.surface := by
  intro onFilled
  have twins := Surface.filledEach_twins even
  have same : s.SamePlay play onFilled := twins.samePlay play rfl
  refine ⟨same, ?_⟩
  have left := twins.foldl_apply (s.acts play) (s := s.surface) (t := ⟨s.surface⟩) rfl
  have acts : s.acts play = onFilled.acts play := same.acts
  rw [s.surface_perform, onFilled.surface_perform, ← acts]
  exact left.symm

/-- Every play on a channel is such a play. -/
theorem of_channel (play : Nat → Play Unit) (s : Strip β) (c : ChannelIndex) (stage : σ) :
    Interchangeable play s c (.start { s with active := c } stage) (.start ⟨s, c⟩ stage) := by
  let onStrip : Scene (Strip β) σ := .start { s with active := c } stage
  let onView : Scene (ChannelView β) σ := .start ⟨s, c⟩ stage
  have same : onStrip.SamePlay play onView :=
    ChannelView.twins.samePlay play (y := onView.surface) rfl
  have twin (acts : List Act) : acts.foldl Act.apply onStrip.surface =
      (acts.foldl Act.apply onView.surface).turned :=
    ChannelView.twins.foldl_apply acts (t := onView.surface) rfl
  obtain ⟨index, active, -⟩ := ChannelView.drawnOn_foldl onView.surface (onView.acts play)
  have drawn (acts : List Act) : Strip.DrawnOn c s (acts.foldl Act.apply onStrip.surface) ∧
      Strip.DrawnOn c s (acts.foldl Act.apply onView.surface).strip := by
    obtain ⟨-, -, drawn⟩ := ChannelView.drawnOn_foldl onView.surface acts
    rw [twin]
    exact ⟨⟨drawn.config, drawn.others, drawn.length⟩, drawn⟩
  constructor
  case same => exact same
  case left =>
    have acts : onStrip.acts play = onView.acts play := same.acts
    rw [onStrip.surface_perform, onView.surface_perform, acts, twin, ChannelView.turned, index]
    rfl
  case active => exact (congrArg (·.strip.active) (onView.surface_perform play)).trans active
  case filledStrip => exact of_filled Strip.fillsEvenly play onStrip
  case filledView => exact of_filled ChannelView.fillsEvenly play onView
  case drawn => exact fun before _ _ => drawn before
  case shown =>
    intro picture happens j other
    obtain ⟨before, after, split⟩ := List.append_of_mem happens
    have pictured : Pictured onStrip.surface (onStrip.acts play) := Play.pictured _ onStrip
    rw [split] at pictured
    have others := (drawn before).1.others j other
    rw [pictured.picture_eq, ← others]
    exact getElem?_map_toList Channel.pixels _ j

end Interchangeable

namespace Animation

/-- Whatever is on a strip, and whatever the stage answers: an animation does the same on a channel
with LEDs, whether this channel is made active or seen through a view. -/
theorem interchangeable_surfaces {β σ : Type} [Backend β] [Stage σ] (s : Strip β) (c : ChannelIndex)
    (used : (s.channels.get c).config.isUsed = true) (stage : σ) (piece : Piece) :
    ∃ t v, s.activate c = .ok t ∧ s.view c = .ok v ∧
      Interchangeable piece.play s c (.start t stage) (.start v stage) := by
  refine ⟨{ s with active := c }, ⟨s, c⟩, ?_, ?_, .of_channel piece.play s c stage⟩
  · rw [Strip.activate, dif_pos c.isLt]
    exact if_pos used
  · exact dif_pos c.isLt

/-- The second channel of a strip is wiped white: both ways the wipe ends alike, with the same LEDs
and the same frames. -/
theorem interchangeable_surfaces_second :
    let config : StripConfig := { StripConfig.default with channels := #v[.of 2 18, .of 3 13] }
    ∃ s, (Strip.create config Simulator.fresh).result = .ok s ∧
      (s.channels.get 1).config.isUsed = true ∧
      ∃ t v, s.activate 1 = .ok t ∧ s.view 1 = .ok v ∧
        let stage := VirtualStage.curtain none none
        let onStrip := (Scene.start t stage).perform (Piece.colorWipe .white 0).play
        let onView := (Scene.start v stage).perform (Piece.colorWipe .white 0).play
        onStrip.2 = onView.2 ∧ onStrip.1.beats = onView.1.beats ∧
          onStrip.1.surface.channels = onView.1.surface.strip.channels := by
  intro config
  let s : Strip Simulator := .blank config 0 (Backend.init config Simulator.fresh).state
  have used : (s.channels.get 1).config.isUsed = true :=
    congrArg (fun c => c.config.isUsed) (get_map Channel.blank config.channels 1)
  obtain ⟨t, v, activated, viewed, alike⟩ := interchangeable_surfaces s 1 used
    (VirtualStage.curtain none none) (.colorWipe .white 0)
  have channels := congrArg Strip.channels alike.left
  exact ⟨s, rfl, used, t, v, activated, viewed, alike.same.result, alike.same.beats, channels⟩

end Animation

end LedStrip
