import LedStrip.Animation.Programs
import LedStrip.Proofs.Animation.Cancellation
import LedStrip.Proofs.Play.Failure
import LedStrip.Proofs.Simulator.Recording

/-!
# Animations that fail

What becomes of an animation when one of its renderings fails (`BrokenOff`): it ends at once with
the error of the driver, what was recorded are the frames before it, and the LEDs stay as they were
to be shown.  No play can do anything else (`BrokenOff.of_works`).
-/

namespace LedStrip

namespace Strip

/-- What a strip is like at each rendering among the acts. -/
def snapshots (s : Strip Simulator) : List Act → List Frame
  | [] => []
  | a :: acts =>
    if a.isShow then s.snapshot :: (a.apply s).snapshots acts else (a.apply s).snapshots acts

section Snapshots

variable (s : Strip Simulator) {a : Act} (acts : List Act)

theorem snapshots_cons_of_quiet (quiet : a.isShow = false) :
    s.snapshots (a :: acts) = (a.apply s).snapshots acts := by
  simp [snapshots, quiet]

theorem snapshots_cons_of_show (showing : a.isShow = true) :
    s.snapshots (a :: acts) = s.snapshot :: (a.apply s).snapshots acts := by
  simp [snapshots, showing]

theorem length_snapshots : (s.snapshots acts).length = showCount acts := by
  induction acts generalizing s with
  | nil => rfl
  | cons a acts ih =>
    cases showing : a.isShow with
    | false => rw [s.snapshots_cons_of_quiet acts showing, ih, showCount_cons_of_quiet showing]
    | true =>
      rw [s.snapshots_cons_of_show acts showing, List.length_cons, ih,
        showCount_cons_of_show showing]

theorem snapshots_append (more : List Act) :
    s.snapshots (acts ++ more) = s.snapshots acts ++ (acts.foldl Act.apply s).snapshots more := by
  induction acts generalizing s with
  | nil => rfl
  | cons a acts ih =>
    rw [List.cons_append, List.foldl_cons]
    cases showing : a.isShow with
    | false =>
      rw [s.snapshots_cons_of_quiet _ showing, s.snapshots_cons_of_quiet _ showing, ih]
    | true =>
      rw [s.snapshots_cons_of_show _ showing, s.snapshots_cons_of_show _ showing, ih,
        List.cons_append]

theorem snapshots_upTo (k : Nat) : s.snapshots (upTo k acts) = (s.snapshots acts).take k := by
  rcases Nat.lt_or_ge k (showCount acts) with more | few
  · obtain ⟨a, after, split, -, count⟩ := split_upTo more
    have length := (s.length_snapshots (upTo k acts)).trans count
    have whole := s.snapshots_append (upTo k acts) (a :: after)
    rw [← split] at whole
    rw [whole, List.take_left' length]
  · rw [upTo_of_showCount_le few, List.take_of_length_le]
    rw [length_snapshots]
    exact few

end Snapshots

/-! ## Recording on a strip that works -/

section Recording

variable {s : Strip Simulator}

theorem limit_apply (s : Strip Simulator) (a : Act) :
    (a.apply s).backend.recent.limit = s.backend.recent.limit := by
  cases a with
  | painted strokes => exact congrArg (·.recent.limit) (s.backend_paint strokes)
  | shown | refused => exact (s.backend.settings_render s.channels.toList).2.2
  | checked | timed | drew | slept | reported => rfl

theorem backend_apply_of_quiet {a : Act} (quiet : a.isShow = false) :
    (a.apply s).backend = s.backend := by
  cases a with
  | painted strokes => exact s.backend_paint strokes
  | shown | refused => cases quiet
  | checked | timed | drew | slept | reported => rfl

theorem backend_apply_of_show (works : s.backend.renderCode = 0) {a : Act}
    (showing : a.isShow = true) : (a.apply s).backend = s.backend.record s.snapshot := by
  have fine : s.render.result = .ok () :=
    (Simulator.result_answer ..).trans ((Driver.check_eq_ok_iff ..).2 works)
  cases a with
  | shown | refused => exact (Simulator.render_of_ok fine).1
  | checked | timed | drew | slept | reported | painted => cases showing

/-- All renderings are counted, and the newest are kept. -/
theorem recorded_foldl (works : s.backend.renderCode = 0) (acts : List Act) :
    (acts.foldl Act.apply s).backend.frames =
        newest s.backend.recent.limit (s.backend.frames ++ s.snapshots acts) ∧
      (acts.foldl Act.apply s).backend.frameCount = s.backend.frameCount + showCount acts := by
  induction acts generalizing s with
  | nil =>
    have bound : s.backend.frames.length ≤ s.backend.recent.limit := by
      rw [Simulator.frames, Recent.length_toList]
      exact s.backend.recent.size_le
    refine ⟨?_, rfl⟩
    rw [snapshots, List.append_nil, newest, Nat.sub_eq_zero_of_le bound]
    rfl
  | cons a acts ih =>
    obtain ⟨frames, count⟩ := ih ((s.renderCode_apply a).trans works)
    rw [List.foldl_cons, frames, count, s.limit_apply]
    cases showing : a.isShow with
    | false =>
      rw [backend_apply_of_quiet showing, s.snapshots_cons_of_quiet acts showing,
        showCount_cons_of_quiet showing]
      exact ⟨rfl, rfl⟩
    | true =>
      rw [backend_apply_of_show works showing, s.snapshots_cons_of_show acts showing,
        showCount_cons_of_show showing, Simulator.frames_record, newest_append, List.append_assoc]
      exact ⟨rfl, Nat.add_right_comm ..⟩

end Recording

end Strip

/-! ## Breaking off -/

section BrokenOff

variable {σ : Type} [Stage σ]

/-- What a play shows on a strip, rendering by rendering. -/
def Scene.shots (s : Scene (Strip Simulator) σ) (play : Nat → Play Unit) : List Frame :=
  s.surface.snapshots (s.acts play)

/-- What becomes of a play on a strip `s` when rendering number `k`, counted from one, is answered
with a code: `s'` is the same strip, on which this happens. -/
structure BrokenOff (play : Nat → Play Unit) (s : Scene (Strip Simulator) σ) (k : Nat)
    (code : Int32) (s' : Scene (Faulty (Strip Simulator)) σ) : Prop where
  /-- Without the failure the play ends well, and all that it shows is recorded. -/
  ends : (s.perform play).2 = .ok ()
  recorded : (s.perform play).1.surface.backend.frames =
    newest s.surface.backend.recent.limit (s.surface.backend.frames ++ s.shots play)
  /-- With the failure the play ends where it happens, with the error of the driver. -/
  stops : k ≤ (s.shots play).length → ∃ meaning : Driver.Code, meaning.raw = code ∧
    (s'.perform play).2 = .error (.driver .render meaning) ∧
    ∃ before picture after, s.acts play = before ++ .shown picture :: after ∧
      s'.acts play = before ++ [.refused (.driver .render meaning)] ∧
      (s'.perform play).1.surface.surface = before.foldl Act.apply s.surface
  /-- Nothing is shown again. -/
  attempts : k ≤ (s.shots play).length →
    (s'.perform play).1.surface.attempts = k ∧ showCount (s'.acts play) = k
  /-- What was recorded are the frames before. -/
  fewer : k ≤ (s.shots play).length →
    (s'.perform play).1.surface.surface.backend.frames =
        newest s.surface.backend.recent.limit
          (s.surface.backend.frames ++ (s.shots play).take (k - 1)) ∧
      (s'.perform play).1.surface.surface.backend.frameCount =
        s.surface.backend.frameCount + (k - 1)
  /-- The strip stays as it was to be shown. -/
  still : k ≤ (s.shots play).length →
    (s.shots play)[k - 1]? = some (s'.perform play).1.surface.surface.snapshot
  /-- If the play does not come so far, nothing is different. -/
  otherwise : (s.shots play).length < k → s'.acts play = s.acts play ∧
    (s'.perform play).2 = .ok () ∧
    (s'.perform play).1.surface.surface = (s.perform play).1.surface

/-- On a strip that works no rendering is refused. -/
theorem shown_of_show {s : Scene (Strip Simulator) σ} (works : s.surface.backend.renderCode = 0)
    (play : Nat → Play Unit) {a : Act} (happens : a ∈ s.acts play) (showing : a.isShow = true) :
    ∃ picture, a = .shown picture := by
  cases a with
  | shown picture => exact ⟨picture, rfl⟩
  | refused e => exact absurd happens (Strip.unrefused works _ e)
  | checked | timed | drew | painted | slept | reported => cases showing

/-- A play on a strip that works, up to the picture that it shows after `j` others. -/
theorem split_shots {s : Scene (Strip Simulator) σ} (works : s.surface.backend.renderCode = 0)
    {play : Nat → Play Unit} {j : Nat} (reached : j < (s.shots play).length) :
    j < showCount (s.acts play) ∧ showCount (upTo j (s.acts play)) = j ∧
      ∃ picture after, s.acts play = upTo j (s.acts play) ++ .shown picture :: after := by
  have more : j < showCount (s.acts play) :=
    Nat.lt_of_lt_of_eq reached (s.surface.length_snapshots _)
  obtain ⟨a, after, split, showing, count⟩ := split_upTo more
  have happens : a ∈ s.acts play := split ▸ List.mem_append_right _ List.mem_cons_self
  obtain ⟨picture, rfl⟩ := shown_of_show works play happens showing
  exact ⟨more, count, picture, after, split⟩

theorem BrokenOff.of_works {s : Scene (Strip Simulator) σ}
    (works : s.surface.backend.renderCode = 0) {k : Nat} (positive : 1 ≤ k) {code : Int32}
    (failure : code ≠ 0) (play : Nat → Play Unit) :
    BrokenOff play s k code (s.faulty 0 (some (k, code))) := by
  obtain ⟨j, rfl⟩ : ∃ j, k = j + 1 := ⟨k - 1, by omega⟩
  have ends : (s.perform play).2 = .ok () := Strip.ends_well works (Play.result_perform _ s)
  have surface := s.surface_perform play
  have interrupted := (play (Surface.length s.surface)).interrupted s 0 j
    (Driver.check_of_ne_zero failure .render)
  rw [Nat.zero_add] at interrupted
  have drawn : ((s.faulty 0 (some (j + 1, code))).perform play).1.surface.surface =
      (upTo j (s.acts play)).foldl Act.apply s.surface := interrupted.surface
  have acts (more : j < showCount (s.acts play)) : (s.faulty 0 (some (j + 1, code))).acts play =
      upTo j (s.acts play) ++ [.refused (.driver .render (.ofRaw code))] :=
    interrupted.acts.trans (congrArg (upTo j (s.acts play) ++ ·) (if_pos more))
  constructor
  case ends => exact ends
  case recorded =>
    rw [surface]
    exact (Strip.recorded_foldl works _).1
  case stops =>
    intro reached
    obtain ⟨more, -, picture, after, split⟩ := split_shots works reached
    exact ⟨.ofRaw code, Driver.raw_ofRaw code, interrupted.result.trans (if_pos more),
      upTo j (s.acts play), picture, after, split, acts more, drawn⟩
  case attempts =>
    intro reached
    obtain ⟨more, count, -⟩ := split_shots works reached
    constructor
    · refine interrupted.attempts.trans ?_
      exact (Nat.zero_add _).trans (Nat.min_eq_left more)
    · rw [acts more, showCount, List.countP_append]
      exact congrArg (· + 1) count
  case fewer =>
    intro reached
    obtain ⟨-, count, -⟩ := split_shots works reached
    obtain ⟨frames, number⟩ := Strip.recorded_foldl works (upTo j (s.acts play))
    rw [drawn, frames, number, s.surface.snapshots_upTo, count]
    exact ⟨rfl, rfl⟩
  case still =>
    intro reached
    obtain ⟨-, count, picture, after, split⟩ := split_shots works reached
    have before : (s.surface.snapshots (upTo j (s.acts play))).length = j :=
      (s.surface.length_snapshots _).trans count
    have parts := s.surface.snapshots_append (upTo j (s.acts play)) (.shown picture :: after)
    rw [← split] at parts
    rw [drawn, Scene.shots, parts, Nat.add_sub_cancel,
      List.getElem?_append_right (Nat.le_of_eq before), before, Nat.sub_self]
    rfl
  case otherwise =>
    intro early
    rw [Scene.shots, s.surface.length_snapshots] at early
    have all := upTo_of_showCount_le (Nat.le_of_lt_succ early)
    have unreached : ¬j < showCount (s.acts play) := by omega
    have acts : (s.faulty 0 (some (j + 1, code))).acts play = upTo j (s.acts play) ++ [] :=
      interrupted.acts.trans (congrArg (upTo j (s.acts play) ++ ·) (if_neg unreached))
    rw [acts, drawn, all, surface, List.append_nil]
    exact ⟨rfl, (interrupted.result.trans (if_neg unreached)).trans ends, rfl⟩

end BrokenOff

/-! ## The main result -/

namespace Animation

/-- Whatever the strip, the answers of the stage and the parameters: a rendering that fails breaks
an animation off. -/
theorem broken_animations {σ : Type} [Stage σ] (s : Scene (Strip Simulator) σ)
    (works : s.surface.backend.renderCode = 0) (k : Nat) (positive : 1 ≤ k) (code : Int32)
    (failure : code ≠ 0) :
    (∀ piece : Piece, BrokenOff piece.play s k code (s.faulty 0 (some (k, code)))) ∧
      ∀ p ∈ Program.untimed, ∀ rounds,
        BrokenOff (p.play rounds) s k code (s.faulty 0 (some (k, code))) :=
  ⟨fun _ => .of_works works positive failure _, fun _ _ _ => .of_works works positive failure _⟩

/-- A chase over three LEDs of which the second picture cannot be shown: one frame is recorded. -/
theorem broken_animations_chase :
    ∃ strip, (Strip.create (.single 3 18) Simulator.fresh).result = .ok strip ∧
      let s := Scene.start strip (VirtualStage.curtain none none)
      let chase := (Piece.theaterChase .white 0 1).play
      let s' := s.faulty 0 (some (2, -1))
      strip.backend.renderCode = 0 ∧ (1 ≤ 2 ∧ (-1 : Int32) ≠ 0) ∧ (s.shots chase).length = 3 ∧
        (∃ meaning : Driver.Code, meaning.raw = -1 ∧
          (s'.perform chase).2 = .error (.driver .render meaning)) ∧
        (s'.perform chase).1.surface.surface.backend.frameCount = 1 := by
  refine ⟨_, rfl, ?_⟩
  intro s chase s'
  obtain ⟨pieces, -⟩ := broken_animations s rfl 2 (by decide) (-1) (by decide)
  have broken := pieces (.theaterChase .white 0 1)
  have three : Surface.length s.surface = 3 :=
    congrArg (fun c => c.pixels.length) (get_map Channel.blank (StripConfig.single 3 18).channels 0)
  have shots : (s.shots chase).length = 3 := by
    rw [Scene.shots, s.surface.length_snapshots, Scene.acts, three]
    rfl
  have reached : 2 ≤ (s.shots chase).length := by omega
  obtain ⟨meaning, raw, failed, -⟩ := broken.stops reached
  exact ⟨rfl, by decide, shots, ⟨meaning, raw, failed⟩, (broken.fewer reached).2⟩

end Animation

end LedStrip
