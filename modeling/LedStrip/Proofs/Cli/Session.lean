import LedStrip.Play.Stage
import LedStrip.Proofs.Cli.Show
import LedStrip.Proofs.Cli.Wipe
import LedStrip.Proofs.Play.Failure
import LedStrip.Proofs.Strip.Request

/-!
# Whole sessions

What a session does from the first program to the end, whenever the show is over and whatever goes
wrong (`Cli.Course`): which programs are started and what they play, what is shown at the end, how
it exits, and that the backend is released.
-/

namespace LedStrip

/-- The acts of a performance send frames to the backend and do nothing else with it. -/
theorem Strip.backend_foldl {β : Type} [Backend β] (s : Strip β) (acts : List Act) :
    ∃ sent : List (List Channel), sent.length = showCount acts ∧
      (acts.foldl Act.apply s).backend =
        sent.foldl (fun b channels => (Backend.render channels b).state) s.backend := by
  induction acts generalizing s with
  | nil => exact ⟨[], rfl, rfl⟩
  | cons a acts ih =>
    obtain ⟨sent, count, backend⟩ := ih (a.apply s)
    rw [List.foldl_cons, backend]
    cases a with
    | painted strokes =>
      exact ⟨sent, count, congrArg (sent.foldl _ ·) (s.backend_paint strokes)⟩
    | shown | refused =>
      refine ⟨s.channels.toList :: sent, ?_, rfl⟩
      rw [showCount_cons_of_show rfl, List.length_cons, count]
    | checked | timed | drew | slept | reported => exact ⟨sent, count, rfl⟩

/-- A strip that was just set up draws on a channel with LEDs. -/
theorem Strip.length_blank_pos {β : Type} {config : StripConfig} {active : ChannelIndex}
    (first : config.firstUsed? = some active) (b : β) :
    0 < (Strip.blank config active b).pixels.length := by
  have used : (config.channels.get active).isUsed = true := by
    have found := List.find?_some first
    exact found
  have length : (Strip.blank config active b).pixels.length =
      (config.channels.get active).count.toNat := by
    have channel := get_map Channel.blank config.channels active
    refine (congrArg (fun c => c.pixels.length) channel).trans ?_
    exact PixelBuffer.length_blank _
  rw [length]
  have nonzero : (config.channels.get active).count ≠ 0 := by
    simpa [ChannelConfig.isUsed] using used
  exact Nat.pos_of_ne_zero fun zero => nonzero (UInt64.toNat_inj.1 zero)

namespace Cli

open Play

/-! ## The end of the show -/

/-- The programs of the show, over and over. -/
def tour (o : Options) (cycles rounds n : Nat) : Play Unit := loop rounds n o.programs cycles

/-- What is played behind the programs. -/
def ending (o : Options) (n : Nat) : Play Unit := if o.clear then wipe n else .skip

section Reel

variable {S σ : Type} [Surface S] [Stage σ] {o : Options} {cycles rounds : Nat} {s : Scene S σ}

theorem reel_of_ok (complete : (s.perform (tour o cycles rounds)).2 = .ok ()) :
    let t := (s.perform (tour o cycles rounds)).1
    let last := ending o (Surface.length s.surface)
    s.acts (reel o cycles rounds) = s.acts (tour o cycles rounds) ++ last.acts t ∧
      s.perform (reel o cycles rounds) = last.perform t :=
  ⟨acts_bind_of_ok complete, perform_bind_of_ok complete⟩

theorem reel_of_error {e : Error} (failed : (s.perform (tour o cycles rounds)).2 = .error e) :
    s.acts (reel o cycles rounds) = s.acts (tour o cycles rounds) :=
  acts_bind_of_error failed

theorem started_ending (o : Options) (n : Nat) (s : Scene S σ) :
    ((ending o n).acts s).filterMap Act.started? = [] := by
  have silent : (ending o n).Reports fun _ => False := by
    unfold ending
    split
    · rw [wipe_eq]
      exact reports_wipeFrom 0 n
    · trivial
  apply List.filterMap_eq_nil_iff.2
  intro a happens
  cases a with
  | reported e => exact absurd happens (silent.acts s e)
  | checked | timed | drew | painted | shown | refused | slept => rfl

end Reel

/-! ## The course of a session -/

section Course

variable {β σ : Type} [Backend β]

theorem programs_eq (o : Options) :
    o.programs =
      if o.animations = [] then
        [.colorWipe, .theaterChase, .rainbow, .rainbowCycle, .theaterChaseRainbow, .pulsing,
          .strobe, .snowSparkle, .bouncingBalls]
      else o.animations := by
  unfold Options.programs
  cases o.animations <;> rfl

/-- What comes of a session after a show. -/
def Outcome.of (opening : List Event) (shown : Scene (Strip β) σ × Except Error Unit) : Outcome β :=
  let last := finish shown.1.surface shown.2
  ⟨opening, shown.1.beats.toList, shown.1.log.toList, last.log, last.result, last.state⟩

theorem released_of (opening : List Event) (shown : Scene (Strip β) σ × Except Error Unit) :
    (Outcome.of opening shown).backend =
      (Backend.discard (Backend.fini shown.1.surface.backend).state).state := by
  obtain ⟨scene, result⟩ := shown
  cases result <;> rfl

/-- The last frame of a wipe. -/
theorem dark_of_wiped {strip left : Strip β} (lit : 0 < strip.pixels.length)
    (same : left.pixels.length = strip.pixels.length) {frames : List (List PixelBuffer)}
    (length : frames.length = strip.pixels.length)
    (wiped : ∀ i, i < strip.pixels.length →
      ∃ t, left.Darkened (i + 1) t ∧ frames[i]? = some (Surface.picture t)) :
    ∃ picture, frames.getLast? = some picture ∧
      picture[left.active.val]? = some (.blank strip.pixels.length) := by
  obtain ⟨t, dark, frame⟩ := wiped (strip.pixels.length - 1) (by omega)
  rw [Nat.sub_add_cancel lit, ← same] at dark
  refine ⟨Surface.picture t, ?_, ?_⟩
  · rw [List.getLast?_eq_getElem?, length, frame]
  · rw [dark.getElem?_picture, dark.pixels_eq_blank, same]

/-- The course of a session with a strip, from the scene before the show.  `played` are the acts of
the programs, `wiped` those behind them, and `out` is what came of it. -/
structure Course [Stage σ] (o : Options) (rounds : Nat) (strip : Strip β) (s : Scene (Strip β) σ)
    (played wiped : List Act) (out : Outcome β) : Prop where
  /-- The list of programs is the one asked for, or else the whole strand test. -/
  list : o.programs =
    if o.animations = [] then
      [.colorWipe, .theaterChase, .rainbow, .rainbowCycle, .theaterChaseRainbow, .pulsing, .strobe,
        .snowSparkle, .bouncingBalls]
    else o.animations
  /-- The programs take turns: what each one plays follows its start. -/
  turns : Turns rounds strip.pixels.length o.programs [] s played
  /-- The programs are started in the order of the list, over and over. -/
  order : ∀ i p, ((played ++ wiped).filterMap Act.started?)[i]? = some p →
    o.programs[i % o.programs.length]? = some p
  /-- Behind the first check that is answered no the programs only ask, and nothing is started
  behind the programs. -/
  stopped : ∀ before after, played = before ++ .checked false :: after →
    ∀ a ∈ after, a.isParting = true
  unstarted : wiped.filterMap Act.started? = []
  /-- Only the end of the show ends the programs, or something that cannot be shown. -/
  lasts : (∀ e, .refused e ∉ played) → .checked false ∈ played
  /-- What can be seen of the session. -/
  frames : out.beats.filterMap Beat.frame? =
    played.filterMap Act.frame? ++ wiped.filterMap Act.frame?
  /-- If all went well that is how the session exits. -/
  exits : (∀ e, .refused e ∉ played ++ wiped) →
    out.exitCode = 0 ∧ out.closing.head? = some .shutDown
  /-- If something could not be shown it is the last thing that was tried, and the session exits
  with the error. -/
  fails : ∀ e, .refused e ∈ played ++ wiped →
    (∃ before, played ++ wiped = before ++ [.refused e] ∧
        (Surface.present (before.foldl Act.apply strip)).result = .error e) ∧
      out.exitCode = 1 ∧ out.closing.getLast? = some (.failed e)
  /-- Nothing follows the programs if no wipe is asked for, or if they failed. -/
  leaves : (o.clear = false ∨ ∃ e, .refused e ∈ played) → wiped = []
  /-- Without a wipe the last frame is one before the show was over. -/
  still : o.clear = false → ∀ before after, played = before ++ .checked false :: after →
    out.beats.filterMap Beat.frame? = before.filterMap Act.frame?
  /-- The wipe has a frame for each LED, which is dark from then on. -/
  wipes : o.clear = true → (∀ e, .refused e ∉ played ++ wiped) →
    (wiped.filterMap Act.frame?).length = strip.pixels.length ∧
      ∀ i, i < strip.pixels.length → ∃ t, (played.foldl Act.apply strip).Darkened (i + 1) t ∧
        (wiped.filterMap Act.frame?)[i]? = some (Surface.picture t)
  /-- In the end the LEDs are all dark. -/
  dark : o.clear = true → (∀ e, .refused e ∉ played ++ wiped) →
    ∃ picture, (out.beats.filterMap Beat.frame?).getLast? = some picture ∧
      picture[strip.active.val]? = some (.blank strip.pixels.length)
  /-- The backend was sent the frames, then it was released and given up. -/
  released : ∃ sent : List (List Channel), sent.length = showCount (played ++ wiped) ∧
    let last := sent.foldl (fun b channels => (Backend.render channels b).state) strip.backend
    out.backend = (Backend.discard (Backend.fini last).state).state

variable [Stage σ]

/-- What is behind the programs, if anything. -/
theorem exists_wiped (o : Options) (cycles rounds : Nat) (s : Scene (Strip β) σ) :
    let played := s.acts (tour o cycles rounds)
    ∃ wiped, s.acts (reel o cycles rounds) = played ++ wiped ∧
      wiped.filterMap Act.started? = [] ∧
      ((o.clear = false ∨ ∃ e, .refused e ∈ played) → wiped = []) ∧
      (o.clear = true → (∀ e, .refused e ∉ played ++ wiped) →
        (wiped.filterMap Act.frame?).length = s.surface.pixels.length ∧
          ∀ i, i < s.surface.pixels.length →
            ∃ t, (played.foldl Act.apply s.surface).Darkened (i + 1) t ∧
              (wiped.filterMap Act.frame?)[i]? = some (Surface.picture t)) := by
  intro played
  have left : (s.perform (tour o cycles rounds)).1.surface = played.foldl Act.apply s.surface :=
    s.surface_perform (tour o cycles rounds)
  cases result : (s.perform (tour o cycles rounds)).2 with
  | error e =>
    have failed : .refused e ∈ played := refused_of_error result
    refine ⟨[], (reel_of_error result).trans (List.append_nil _).symm, rfl, fun _ => rfl, ?_⟩
    exact fun _ fine => absurd (List.mem_append_left [] failed) (fine e)
  | ok =>
    let t := (s.perform (tour o cycles rounds)).1
    let n := s.surface.pixels.length
    refine ⟨(ending o n).acts t, (reel_of_ok result).1, started_ending o n t, ?_, ?_⟩
    · rintro (keep | ⟨e, failed⟩)
      · rw [ending, keep]
        rfl
      · have refused := (error_of_refused _ s failed).1
        rw [show (s.perform (tour o cycles rounds)).2 = .error e from refused] at result
        cases result
    · intro clear fine
      rw [ending, if_pos clear, wipe_eq] at fine ⊢
      have dark : (played.foldl Act.apply s.surface).Darkened 0 t.surface :=
        left ▸ Strip.Darkened.refl t.surface
      obtain ⟨length, frames⟩ := frames_wipeFrom 0 n dark fun e refused =>
        fine e (List.mem_append_right played refused)
      refine ⟨length, fun i below => ?_⟩
      obtain ⟨u, dark, frame⟩ := frames i below
      rw [Nat.zero_add] at dark
      exact ⟨u, dark, frame⟩

theorem course_of_strip (o : Options) {strip : Strip β} (lit : 0 < strip.pixels.length) (stage : σ)
    {checks cycles : Nat} (enough : checks < cycles) (rounds : Nat) (opening : List Event) :
    let s := (Scene.start strip stage).cue (some checks)
    ∃ wiped, s.acts (reel o cycles rounds) = s.acts (tour o cycles rounds) ++ wiped ∧
      Course o rounds strip s (s.acts (tour o cycles rounds)) wiped
        (.of opening (s.perform (reel o cycles rounds))) := by
  intro s
  obtain ⟨wiped, whole, unstarted, leaves, wipes⟩ := exists_wiped o cycles rounds s
  refine ⟨wiped, whole, ?_⟩
  have frames : (s.perform (reel o cycles rounds)).1.frames =
      (s.acts (tour o cycles rounds)).filterMap Act.frame? ++ wiped.filterMap Act.frame? := by
    rw [← List.filterMap_append, ← whole]
    exact (frames_perform _ s).trans (List.nil_append _)
  have parting (before after : List Act)
      (split : s.acts (tour o cycles rounds) = before ++ .checked false :: after) :
      ∀ a ∈ after, a.isParting = true := by
    have stopped : Stopped (s.acts (tour o cycles rounds)) :=
      (stops_loop rounds _ o.programs cycles).stopped (.start strip stage) checks
    rw [split] at stopped
    exact stopped.parting
  have turns : Turns rounds strip.pixels.length o.programs [] s (s.acts (tour o cycles rounds)) :=
    turns_loop enough (Scene.endsWithin_cue (.start strip stage) checks)
  constructor
  case list => exact programs_eq o
  case turns => exact turns
  case order =>
    intro i p started
    rw [List.filterMap_append, unstarted, List.append_nil] at started
    have first := turns.order List.drop_length.symm (Nat.le_refl _) started
    rwa [Nat.add_mod_left] at first
  case stopped => exact parting
  case unstarted => exact unstarted
  case lasts => exact turns.checked
  case frames => exact frames
  case exits =>
    intro fine
    rw [← whole] at fine
    cases result : (s.perform (reel o cycles rounds)).2 with
    | ok =>
      rw [Outcome.of, result]
      exact ⟨rfl, rfl⟩
    | error e => exact absurd (refused_of_error result) (fine e)
  case fails =>
    intro e refused
    rw [← whole] at refused ⊢
    have failed : (s.perform (reel o cycles rounds)).2 = .error e :=
      (error_of_refused _ s refused).1
    refine ⟨(result_perform _ s).last_of_error failed, ?_⟩
    rw [Outcome.of, failed]
    exact ⟨rfl, List.getLast?_concat ..⟩
  case leaves => exact leaves
  case still =>
    intro keep before after split
    have dark := filterMap_frame?_of_parting (parting before after split)
    refine Eq.trans frames ?_
    rw [leaves (.inl keep), split, List.filterMap_append, List.filterMap_cons_none rfl, dark,
      List.append_nil, List.filterMap_nil, List.append_nil]
  case wipes => exact wipes
  case dark =>
    intro clear fine
    obtain ⟨length, wiped⟩ := wipes clear fine
    obtain ⟨active, drawn⟩ := strip.drawnOn_foldl (s.acts (tour o cycles rounds))
    obtain ⟨picture, last, dark⟩ := dark_of_wiped lit (drawn.length_pixels active) length wiped
    refine ⟨picture, ?_, active ▸ dark⟩
    refine (congrArg List.getLast? frames).trans ?_
    rw [List.getLast?_append, last]
    rfl
  case released =>
    obtain ⟨sent, count, backend⟩ := strip.backend_foldl (s.acts (reel o cycles rounds))
    rw [whole] at count
    refine ⟨sent, count, ?_⟩
    rw [released_of, s.surface_perform, ← backend]
    rfl

end Course

/-! ## The main result -/

section Sessions

variable {β σ : Type} [Backend β] [Stage σ]

theorem session_of_ready {o : Options} {read : String → Except FileFault String}
    {config : StripConfig} (settings : o.stripConfig read = .ok config) {backend : β}
    {strip : Strip β} (works : (Strip.create config backend).result = .ok strip) :
    ∃ opening, ∀ (cycles rounds : Nat) (stage : σ),
      session o cycles rounds read backend stage =
        .of opening ((Scene.start strip stage).perform (reel o cycles rounds)) := by
  have prepared : ∃ opening, prepare o read backend = (opening, .ok strip) := by
    unfold prepare greet
    rw [settings]
    dsimp only
    rw [works]
    exact ⟨_, rfl⟩
  obtain ⟨opening, prepared⟩ := prepared
  refine ⟨opening, fun cycles rounds stage => ?_⟩
  unfold session
  rw [prepared]
  rfl

/-- Whatever is asked for, whatever the backend is, and whenever the show is over: that is the
course of a session, and it does not depend on how many cycles and rounds there may be. -/
theorem session_course (o : Options) (read : String → Except FileFault String)
    {config : StripConfig} (settings : o.stripConfig read = .ok config)
    (valid : config.validate = .ok ()) (backend : β)
    (ready : (Backend.init config backend).result = .ok ()) (stage : σ) {checks cycles rounds : Nat}
    (enough : checks < cycles) (enough' : checks < rounds) :
    ∃ strip, (Strip.create config backend).result = .ok strip ∧
      strip.backend = (Backend.init config backend).state ∧ 0 < strip.pixels.length ∧
      let s := (Scene.start strip stage).cue (some checks)
      let out (cycles rounds : Nat) :=
        session o cycles rounds read backend (⟨stage, some checks⟩ : Cued σ)
      (∃ wiped, s.acts (reel o cycles rounds) = s.acts (tour o cycles rounds) ++ wiped ∧
        Course o rounds strip s (s.acts (tour o cycles rounds)) wiped (out cycles rounds)) ∧
      ∀ cycles' rounds', checks < cycles' → checks < rounds' →
        out cycles' rounds' = out cycles rounds := by
  obtain ⟨active, first⟩ := StripConfig.exists_firstUsed_of_valid valid
  have works := (Strip.create_of_valid valid first backend).2
  rw [ready] at works
  let strip := Strip.blank config active (Backend.init config backend).state
  have lit : 0 < strip.pixels.length := Strip.length_blank_pos first _
  obtain ⟨opening, outcome⟩ := session_of_ready (σ := Cued σ) settings works
  refine ⟨strip, works, rfl, lit, ?_⟩
  intro s out
  have same (cycles rounds : Nat) :
      out cycles rounds = .of opening (s.perform (reel o cycles rounds)) := outcome cycles rounds _
  constructor
  · rw [same]
    exact course_of_strip o lit stage enough rounds opening
  · intro cycles' rounds' more more'
    have agree := agree_reel strip.pixels.length enough' more' o enough more (S := Strip β) (σ := σ)
    rw [same, same]
    exact congrArg (Outcome.of opening)
      (agree s (Scene.endsWithin_cue (.start strip stage) checks)).symm

/-- Two LEDs show a rainbow until the fourth check, then they are wiped dark. -/
theorem session_course_rainbow :
    let o := { Options.default with count := 2, clear := true, animations := [.rainbow] }
    let read : String → Except FileFault String := fun _ => .error .missing
    let stage : Cued VirtualStage := ⟨.curtain none none, some 4⟩
    ∃ config, o.stripConfig read = .ok config ∧ config.validate = .ok () ∧
      (Backend.init config Simulator.fresh).result = .ok () ∧ 4 < 5 ∧
      (session o 5 5 read Simulator.fresh stage).exitCode = 0 ∧
      (session o 5 5 read Simulator.fresh stage).backend.finiCount = 1 ∧
      (session o 5 5 read Simulator.fresh stage).beats.length = 8 := by
  intro o read stage
  refine ⟨_, rfl, rfl, rfl, by decide, ?_, ?_⟩
  · obtain ⟨strip, works, backend, -, ⟨wiped, whole, course⟩, -⟩ := session_course o read rfl rfl
      Simulator.fresh rfl (VirtualStage.curtain none none) (show 4 < 5 by decide)
      (show 4 < 5 by decide)
    refine (course.exits fun e refused => ?_).1
    rw [← whole] at refused
    refine Strip.unrefused ?_ _ e refused
    exact congrArg Simulator.renderCode backend
  · decide +kernel

end Sessions

end Cli

end LedStrip
