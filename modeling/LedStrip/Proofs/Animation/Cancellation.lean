import LedStrip.Animation.Programs
import LedStrip.Play.Stage
import LedStrip.Proofs.Play.Heed
import LedStrip.Proofs.Simulator.Answers

/-!
# Cancelled animations

What becomes of an animation when the show is over after some check (`Cancelled`): it shows the
first of the frames that it would have shown, never more than a few of them between two checks, and
once it was told that the show is over it leaves the LEDs as they are.  This is so for every play
that heeds the cue (`Cancelled.of_heeds`), and all animations but the ones that follow the clock do
(`cancelled_animations`).  Only a rendering that fails can make them fail.
-/

namespace LedStrip

section Cancelled

variable {S σ : Type} [Surface S] [Stage σ]

/-- The acts of what is played on a surface of this length. -/
def Scene.acts {α : Type} (s : Scene S σ) (play : Nat → Play α) : List Act :=
  (play (Surface.length s.surface)).acts s

theorem Scene.surface_perform {α : Type} (s : Scene S σ) (play : Nat → Play α) :
    (s.perform play).1.surface = (s.acts play).foldl Act.apply s.surface :=
  Play.surface_perform _ s

/-- What becomes of a play when the show is over after so many checks, compared with the one that is
never over. -/
structure Cancelled (limit : Nat) (play : Nat → Play Unit) (s : Scene S σ) (checks : Nat) :
    Prop where
  /-- The play ends well, unless it tried to show something and failed. -/
  ends : Ends s.surface ((s.cue (some checks)).acts play) ((s.cue (some checks)).perform play).2
  /-- The acts tell all of what happened to the LEDs. -/
  surface : ((s.cue (some checks)).perform play).1.surface =
    ((s.cue (some checks)).acts play).foldl Act.apply s.surface
  frames : ((s.cue (some checks)).perform play).1.frames =
    s.frames ++ ((s.cue (some checks)).acts play).filterMap Act.frame?
  frames_prefix : ((s.cue (some checks)).perform play).1.frames <+:
    ((s.cue none).perform play).1.frames
  /-- Without a check between them no more than `limit` frames are shown. -/
  paced : ∀ l, l <:+: (s.cue (some checks)).acts play → (∀ a ∈ l, a.isCheck = false) →
    (l.filterMap Act.frame?).length ≤ limit
  /-- Behind the first check that is answered no the play only asks again, and the LEDs and the
  frames stay what they were by then. -/
  still : ∀ before after, (s.cue (some checks)).acts play = before ++ .checked false :: after →
    (∀ a ∈ after, a = .checked false) ∧
      ((s.cue (some checks)).perform play).1.surface = before.foldl Act.apply s.surface ∧
      ((s.cue (some checks)).perform play).1.frames = s.frames ++ before.filterMap Act.frame?
  /-- If no check is answered no, nothing is different. -/
  whole : .checked false ∉ (s.cue (some checks)).acts play →
    (s.cue (some checks)).acts play = (s.cue none).acts play
  /-- If the first check is answered no, nothing is drawn or shown. -/
  unstarted : checks = 0 →
    (∀ a ∈ (s.cue (some checks)).acts play, a.touches = false) ∧
      ((s.cue (some checks)).perform play).1.surface = s.surface ∧
      ((s.cue (some checks)).perform play).1.frames = s.frames

theorem Cancelled.of_heeds {limit : Nat} {play : Nat → Play Unit}
    (heeds : ∀ n, (play n).Heeds limit (fun _ => True) none) (s : Scene S σ) (checks : Nat) :
    Cancelled limit play s checks := by
  have heeds := heeds (Surface.length s.surface)
  have cut : CutShort ((s.cue none).acts play) ((s.cue (some checks)).acts play) :=
    heeds.cutShort s checks
  have frames (checks : Option Nat) : ((s.cue checks).perform play).1.frames =
      s.frames ++ ((s.cue checks).acts play).filterMap Act.frame? := Play.frames_perform _ _
  constructor
  case ends => exact Play.result_perform _ _
  case surface => exact Play.surface_perform _ _
  case frames => exact frames _
  case frames_prefix =>
    rw [frames, frames]
    exact (List.prefix_append_right_inj _).2 cut.frames_prefix
  case paced => exact (heeds.paced (Nat.zero_le _) s _).anywhere
  case still =>
    intro before after split
    have only := cut.off_after split
    apply And.intro only
    apply Play.perform_of_untouched split
    exact List.forall_mem_cons.2 ⟨rfl, untouched_of_checked only⟩
  case whole => exact cut.eq_whole
  case unstarted =>
    rintro rfl
    have untouched := heeds.untouched s
    obtain ⟨surface, frames⟩ := Play.perform_of_untouched (List.nil_append _).symm untouched
    exact ⟨untouched, surface, frames.trans (List.append_nil _)⟩

end Cancelled

/-! ## Animations that heed the cue -/

namespace Animation

open Play

section Heeding

variable {limit : Nat} {last : Unit → Prop}

theorem heeds_frame (strokes : List Stroke) (wait fewer : Nat) :
    (frame strokes wait).Heeds limit last (some (fewer + 1)) :=
  ⟨Option.some_ne_none _, fewer, rfl, trivial⟩

theorem heeds_frames (strokes : Nat → List Stroke) (wait count : Nat) :
    (each count fun i => frame (strokes i) wait).Heeds 1 (fun _ => True) none :=
  heeds_each (fun i => heeds_frame (strokes i) wait 0) count

theorem heeds_rainbowCycle (wait iterations n : Nat) :
    (rainbowCycle wait iterations n).Heeds 1 (fun _ => True) none := by
  unfold rainbowCycle
  split
  · trivial
  · exact heeds_frames _ wait _

theorem heeds_chase (color : Nat → Color) (wait n : Nat) :
    (chase color wait n).Heeds 1 (fun _ => True) none := by
  apply heeds_each
  intro q
  exact ⟨Option.some_ne_none _, 0, rfl, Option.some_ne_none _, trivial⟩

theorem heeds_chases (color : Nat → Nat → Color) (wait count n : Nat) :
    (each count fun j => chase (color j) wait n).Heeds 1 (fun _ => True) none :=
  heeds_each (fun j => (heeds_chase (color j) wait n).of_none) count

theorem heeds_flash : flash.Heeds 2 last (some 2) := by
  refine ⟨Option.some_ne_none _, 1, rfl, fun gap => ?_⟩
  exact ⟨Option.some_ne_none _, 0, rfl, trivial⟩

theorem heeds_strobe (wait pulses strobes : Nat) :
    (strobe wait pulses strobes).Heeds 2 (fun _ => True) none := by
  induction strobes with
  | zero => trivial
  | succ strobes ih =>
    apply Heeds.bind
    · exact heeds_whileRunning ⟨(), rfl, trivial⟩ (fun _ => heeds_flash) 0 pulses
    · intro complete
      cases complete with
      | false => trivial
      | true => exact ih

theorem heeds_basePause {low high : Nat} {next : Nat → Play Unit} {left : Option Nat}
    (heeds : ∀ t, (next t).Heeds limit last left) :
    (basePause low high next).Heeds limit last left := by
  unfold basePause
  split
  · exact heeds _
  · exact fun ms => heeds _

theorem heeds_snowSparkle (wait low high n : Nat) :
    (snowSparkle wait low high n).Heeds 2 (fun _ => True) none := by
  unfold snowSparkle
  split
  · trivial
  · refine ⟨⟨(), rfl, trivial⟩, fun pixel => heeds_basePause fun pause => ?_⟩
    exact ⟨Option.some_ne_none _, 1, rfl, heeds_frame [.set pixel .white] wait 0⟩

end Heeding

end Animation

/-! ## Programs that heed the cue -/

namespace Program

open Play Animation

/-- The programs that do not follow the clock. -/
def untimed : List Program := [colorWipe, theaterChase, rainbow, rainbowCycle, theaterChaseRainbow]

section Colors

variable {limit : Nat} {body : Color → Play Unit}

theorem quit?_forColors (leaves : ∀ c, (body c).quit? = some ()) (colors : List Color) :
    (forColors body colors).quit? = some () := by
  induction colors with
  | nil => rfl
  | cons c colors ih =>
    rw [forColors, andThen, quit?_bind, leaves]
    exact ih

theorem heeds_forColors (leaves : ∀ c, (body c).quit? = some ())
    (heeds : ∀ c, (body c).Heeds limit (fun _ => True) none) (colors : List Color) :
    (forColors body colors).Heeds limit (fun _ => True) none := by
  induction colors with
  | nil => trivial
  | cons c colors ih =>
    apply Heeds.bind
    · exact (heeds c).imp fun _ _ => ⟨(), quit?_forColors leaves colors, trivial⟩
    · exact fun _ => ih

end Colors

theorem heeds_untimed {p : Program} (clockless : p ∈ untimed) (rounds n : Nat) :
    (p.play rounds n).Heeds 1 (fun _ => True) none := by
  unfold play
  split
  · trivial
  · simp only [untimed, List.mem_cons, List.not_mem_nil, or_false] at clockless
    rcases clockless with rfl | rfl | rfl | rfl | rfl
    · exact heeds_forColors (fun c => quit?_each n _) (fun c => heeds_frames _ _ n) _
    · exact heeds_forColors (fun c => quit?_each 10 _) (fun c => heeds_chases _ _ 10 n) _
    · exact heeds_frames _ _ _
    · exact heeds_rainbowCycle _ 5 n
    · exact heeds_chases _ _ 256 n

end Program

/-! ## Strips that work -/

namespace Strip

/-- Drawing does not concern the backend. -/
theorem backend_paint {β : Type} [Backend β] (s : Strip β) (strokes : List Stroke) :
    (Surface.paint s strokes).backend = s.backend := by
  unfold Surface.paint
  induction strokes generalizing s with
  | nil => rfl
  | cons stroke strokes ih =>
    apply (ih _).trans
    cases stroke <;> rfl

theorem renderCode_apply (s : Strip Simulator) (a : Act) :
    (a.apply s).backend.renderCode = s.backend.renderCode := by
  cases a with
  | painted strokes => exact congrArg (·.renderCode) (s.backend_paint strokes)
  | shown | refused => exact (s.backend.settings_render s.channels.toList).1
  | checked | timed | drew | slept | reported => rfl

/-- On a strip whose simulator was not told to fail every play ends well. -/
theorem ends_well {s : Strip Simulator} (works : s.backend.renderCode = 0) {acts : List Act}
    {result : Except Error Unit} (ends : Ends s acts result) : result = .ok () := by
  rcases ends with ⟨_, done⟩ | ⟨before, e, -, refused, -⟩
  · exact done
  · have same : (before.foldl Act.apply s).backend.renderCode = s.backend.renderCode := by
      clear refused
      induction before generalizing s with
      | nil => rfl
      | cons a before ih =>
        have kept := s.renderCode_apply a
        exact (ih (kept.trans works)).trans kept
    have fine : (Surface.present (before.foldl Act.apply s)).result = .ok () := by
      apply (Simulator.result_answer _ _ _ _ _).trans
      rw [same, works]
      rfl
    rw [fine] at refused
    cases refused

/-- So nothing is refused. -/
theorem unrefused {σ : Type} [Stage σ] {s : Scene (Strip Simulator) σ}
    (works : s.surface.backend.renderCode = 0) (p : Play Unit) (e : Error) :
    .refused e ∉ p.acts s := by
  intro refused
  have failed := (p.error_of_refused s refused).1
  rw [ends_well works (p.result_perform s)] at failed
  cases failed

end Strip

/-! ## The main result -/

namespace Animation

/-- Whatever the strip, the random numbers and the parameters: each animation that does not follow
the clock can be cancelled at any check. -/
theorem cancelled_animations {S σ : Type} [Surface S] [Stage σ] (s : Scene S σ) (checks : Nat) :
    (∀ color wait, Cancelled 1 (colorWipe color wait) s checks) ∧
      (∀ color wait iterations, Cancelled 1 (theaterChase color wait iterations) s checks) ∧
      (∀ wait iterations, Cancelled 1 (rainbow wait iterations) s checks) ∧
      (∀ wait iterations, Cancelled 1 (rainbowCycle wait iterations) s checks) ∧
      (∀ wait, Cancelled 1 (theaterChaseRainbow wait) s checks) ∧
      (∀ wait, Cancelled 1 (pulsingLight wait) s checks) ∧
      (∀ wait pulses strobes, Cancelled 2 (fun _ => strobe wait pulses strobes) s checks) ∧
      (∀ wait low high, Cancelled 2 (snowSparkle wait low high) s checks) ∧
      ∀ p ∈ Program.untimed, ∀ rounds, Cancelled 1 (p.play rounds) s checks := by
  refine ⟨?wipe, ?chase, ?rainbow, ?cycle, ?chases, ?pulse, ?strobe, ?snow, ?programs⟩
  case wipe => exact fun color wait => .of_heeds (fun n => heeds_frames _ wait n) s checks
  case chase =>
    intro color wait iterations
    exact .of_heeds (fun n => heeds_chases (fun _ _ => color) wait iterations n) s checks
  case rainbow => exact fun wait iterations => .of_heeds (fun n => heeds_frames _ wait _) s checks
  case cycle =>
    exact fun wait iterations => .of_heeds (heeds_rainbowCycle wait iterations) s checks
  case chases => exact fun wait => .of_heeds (fun n => heeds_chases _ wait 256 n) s checks
  case pulse => exact fun wait => .of_heeds (fun n => heeds_frames _ wait _) s checks
  case strobe =>
    intro wait pulses strobes
    exact .of_heeds (fun _ => heeds_strobe wait pulses strobes) s checks
  case snow => exact fun wait low high => .of_heeds (heeds_snowSparkle wait low high) s checks
  case programs =>
    intro p clockless rounds
    exact .of_heeds (Program.heeds_untimed clockless rounds) s checks

/-- A strip of three LEDs is wiped red until the third check, which leaves two frames. -/
theorem cancelled_animations_wipe :
    ∃ strip, (Strip.create (.single 3 18) Simulator.fresh).result = .ok strip ∧
      let s := (Scene.start strip (VirtualStage.curtain none none)).cue (some 2)
      let wipe := Program.colorWipe.play 0
      Program.colorWipe ∈ Program.untimed ∧ (s.perform wipe).2 = .ok () ∧
        (s.perform wipe).1.frames.length = 2 := by
  refine ⟨_, rfl, ?_⟩
  intro s wipe
  have clockless : Program.colorWipe ∈ Program.untimed := by decide
  obtain ⟨-, -, -, -, -, -, -, -, programs⟩ :=
    cancelled_animations (Scene.start s.surface (VirtualStage.curtain none none)) 2
  have cancelled := programs _ clockless 0
  refine ⟨clockless, Strip.ends_well rfl cancelled.ends, ?_⟩
  have three : Surface.length s.surface = 3 :=
    congrArg (fun c => c.pixels.length) (get_map Channel.blank (StripConfig.single 3 18).channels 0)
  unfold Scene.perform
  rw [three]
  rfl

/-- A simulator that was told to fail: the first frame cannot be shown, and the wipe ends with this
error although the show is still on. -/
theorem colorWipe_refused :
    ∃ strip,
      (Strip.create (.single 1 18) (Simulator.fresh.withRenderCode (-1))).result = .ok strip ∧
      (((Scene.start strip (VirtualStage.curtain none none)).cue (some 1)).perform
        (colorWipe (.rgb 255 0 0) 0)).2 = .error (.driver .render .dma) := by
  refine ⟨_, rfl, ?_⟩
  have one :=
    congrArg (fun c => c.pixels.length) (get_map Channel.blank (StripConfig.single 1 18).channels 0)
  unfold Scene.perform
  rw [show Surface.length (Scene.cue _ _).surface = 1 from one]
  rfl

end Animation

end LedStrip
