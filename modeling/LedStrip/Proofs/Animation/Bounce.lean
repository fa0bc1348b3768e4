import LedStrip.Proofs.Animation.Chase
import LedStrip.Proofs.Play.Frames
import Mathlib.Data.List.Perm.Subperm

/-!
# What the bouncing balls draw

Wherever the balls are said to be, they are drawn on the strip (`Balls.position_lt`).  Each round
draws the balls on the row that is left from the round before, shows it and makes it dark again
(`Bounced`), so only the first frame shows anything else than balls.  None of this depends on how
the balls move.
-/

namespace LedStrip

/-! ## The clock -/

/-- The time that a play was told. -/
def Act.time? : Act → Option Nat
  | timed t => some t
  | _ => none

/-- The readings of the clock. -/
def readings (acts : List Act) : List Nat := acts.filterMap Act.time?

/-! ## Positions and colors -/

/-- Whatever its height is, a ball is drawn on the row. -/
theorem Balls.position_lt {n : Nat} (lit : 0 < n) (height : Float) : position n height < n :=
  Nat.lt_of_le_of_lt (Nat.min_le_right _ _) (Nat.sub_lt lit Nat.one_pos)

namespace Animation

open Play PixelBuffer

variable {count i j : Nat}

theorem ballStep_lt (ball : i < count) : 360 * i / count < 360 :=
  Nat.div_lt_of_lt_mul (by omega)

theorem ballHue_eq (count i : Nat) : ballHue count i = 240 + 360 * i / count := by
  rw [ballHue, Nat.mul_comm i]

/-- The hue of a ball fits into sixteen bits. -/
theorem toNat_ballHue (ball : i < count) :
    (UInt16.ofNat (ballHue count i)).toNat = 240 + 360 * i / count := by
  have part := ballStep_lt ball
  rw [ballHue_eq]
  exact UInt16.toNat_ofNat_of_lt' (by rw [UInt16.size]; omega)

theorem getElem?_ballColors (ball : i < count) :
    (ballColors count)[i]? = some (.ofHue (UInt16.ofNat (ballHue count i))) := by
  rw [ballColors, List.getElem?_map, List.getElem?_range ball]
  rfl

theorem length_ballColors (count : Nat) : (ballColors count).length = count :=
  (List.length_map _).trans List.length_range

/-- With few balls each step around the circle is a degree at least. -/
theorem ballStep_lt_ballStep (few : count ≤ 360) (before : i < j) (ball : j < count) :
    360 * i / count < 360 * j / count := by
  have some_balls : 0 < count := Nat.lt_of_le_of_lt (Nat.zero_le j) ball
  rw [Nat.lt_iff_add_one_le, Nat.le_div_iff_mul_le some_balls, Nat.add_one_mul]
  have part : 360 * i / count * count ≤ 360 * i := Nat.div_mul_le_self _ _
  omega

theorem ballHue_injective (few : count ≤ 360) (ball : i < count) (ball' : j < count)
    (same : ballHue count i % 360 = ballHue count j % 360) : i = j := by
  have turned {a b : Nat} : a < 360 → b < 360 → (240 + a) % 360 = (240 + b) % 360 → a = b := by
    omega
  rw [ballHue_eq, ballHue_eq] at same
  have equal := turned (ballStep_lt ball) (ballStep_lt ball') same
  rcases Nat.lt_trichotomy i j with before | same | behind
  · exact absurd equal (Nat.ne_of_lt (ballStep_lt_ballStep few before ball'))
  · exact same
  · exact absurd equal.symm (Nat.ne_of_lt (ballStep_lt_ballStep few behind ball))

/-- Fewer balls than LEDs leave an LED free. -/
theorem exists_free_led {positions : List Nat} {n : Nat} (few : positions.length < n) :
    ∃ led < n, ∀ i : Nat, positions[i]? ≠ some led := by
  by_contra taken
  push Not at taken
  have all : List.range n ⊆ positions := by
    intro led inside
    obtain ⟨i, here⟩ := taken led (List.mem_range.1 inside)
    exact List.mem_of_getElem? here
  have length := (List.nodup_range.subperm all).length_le
  rw [List.length_range] at length
  omega

/-! ## Drawing balls -/

section Strokes

variable {row : PixelBuffer} {positions : List Nat} {colors : List Color} {led : Nat}

theorem getElem?_ballStrokes {x : Stroke} : (ballStrokes positions colors)[i]? = some x ↔
    ∃ led c, positions[i]? = some led ∧ colors[i]? = some c ∧ .set led c = x := by
  rw [ballStrokes, List.getElem?_map, Option.map_eq_some_iff]
  simp only [Prod.exists, List.getElem?_zip_eq_some, and_assoc]

theorem fill_not_mem_ballStrokes (c : Color) : .fill c ∉ ballStrokes positions colors := by
  simp [ballStrokes]

/-- Of the balls at an LED the last one is seen. -/
theorem word?_paint_ballStrokes {c : Color} (inside : led < row.length)
    (here : positions[i]? = some led) (colored : colors[i]? = some c)
    (top : ∀ j, i < j → j < colors.length → positions[j]? ≠ some led) :
    (Surface.paint row (ballStrokes positions colors)).word? led = some c.pack := by
  have stroke : (ballStrokes positions colors)[i]? = some (.set led c) :=
    getElem?_ballStrokes.2 ⟨led, c, here, colored, rfl⟩
  obtain ⟨drawn, found⟩ := List.getElem?_eq_some_iff.1 stroke
  rw [← List.take_append_drop i (ballStrokes positions colors), List.drop_eq_getElem_cons drawn,
    found]
  refine Surface.word?_paint_of_last inside (fun c' mem => ?_) fun c' mem => ?_
  · exact fill_not_mem_ballStrokes c' (List.mem_of_mem_drop mem)
  · obtain ⟨k, later⟩ := List.mem_iff_getElem?.1 mem
    rw [List.getElem?_drop] at later
    obtain ⟨led', c'', there, colored', same⟩ := getElem?_ballStrokes.1 later
    obtain ⟨rfl, rfl⟩ := Stroke.set.inj same
    exact top _ (by omega) (List.getElem?_eq_some_iff.1 colored').1 there

/-- An LED without a ball stays as it is. -/
theorem word?_paint_ballStrokes_of_free
    (free : ∀ j < colors.length, positions[j]? ≠ some led) :
    (Surface.paint row (ballStrokes positions colors)).word? led = row.word? led := by
  refine Surface.word?_paint_of_unmarked fill_not_mem_ballStrokes fun c mem => ?_
  obtain ⟨k, drawn⟩ := List.mem_iff_getElem?.1 mem
  obtain ⟨led', c', there, colored, same⟩ := getElem?_ballStrokes.1 drawn
  obtain ⟨rfl, rfl⟩ := Stroke.set.inj same
  exact free k (List.getElem?_eq_some_iff.1 colored).1 there

end Strokes

/-! ## Rounds -/

/-- Of the readings of the clock every second one moves the balls; the one before it says whether
time is up. -/
def moveTimes : List Nat → List Nat
  | _ :: later :: rest => later :: moveTimes rest
  | _ => []

/-- The balls after each move. -/
def flight (move : Nat → Balls → Balls) : Balls → List Nat → List Balls
  | _, [] => []
  | b, t :: ts => move t b :: flight move (move t b) ts

/-- Balls on a row of `n` LEDs that are moved in some way. -/
def moved (move : Nat → Balls → Balls) (n elapsed : Nat) (b : Balls) : Balls × List Nat :=
  (move elapsed b, (move elapsed b).positions n)

/-- Bouncing balls, but moved in some way. -/
def juggle (move : Nat → Balls → Balls) (rounds playtime count wait n : Nat) : Play Unit :=
  .clock fun start =>
    bounce (moved move n) (ballColors count) wait start playtime rounds (.start count)

/-- What happens while balls bounce, from a state of the balls on. -/
inductive Bounced (move : Nat → Balls → Balls) (n : Nat) (colors : List Color)
    (start wait : Nat) : Balls → List Act → Prop
  /-- Time is up, or the show is over. -/
  | up {b : Balls} {acts : List Act} (untouched : ∀ a ∈ acts, a.touches = false) :
      Bounced move n colors start wait b acts
  | refused {b : Balls} (now later : Nat) (e : Error) : Bounced move n colors start wait b
      [.timed now, .checked true, .timed later,
        .painted (ballStrokes ((move (later - start) b).positions n) colors), .refused e]
  | round {b : Balls} {acts : List Act} (now later : Nat) (picture : List PixelBuffer)
      (rest : Bounced move n colors start wait (move (later - start) b) acts) :
      Bounced move n colors start wait b
        (.timed now :: .checked true :: .timed later ::
          .painted (ballStrokes ((move (later - start) b).positions n) colors) ::
          .shown picture :: .painted [.fill .black] :: .slept wait :: acts)

section Rounds

variable {move : Nat → Balls → Balls} {n start wait : Nat} {colors : List Color} {b : Balls}
  {acts : List Act} {row : PixelBuffer}

/-- A round behind its check: the balls are drawn, and then the round fails or is played on. -/
theorem acts_round {S σ : Type} [Surface S] [Stage σ] (strokes : List Stroke) (wait : Nat)
    (next : Play Unit) (s : Scene S σ) :
    let acts := (Play.paint strokes <| .present <| .paint [.fill .black] <| .sleep wait next).acts s
    (∃ e, acts = [.painted strokes, .refused e]) ∨ ∃ picture, ∃ t : Scene S σ,
      acts = .painted strokes :: .shown picture :: .painted [.fill .black] :: .slept wait ::
        next.acts t := by
  intro acts
  have painted : acts = .painted strokes ::
      (Play.present <| .paint [.fill .black] <| .sleep wait next).acts (s.paint strokes) := rfl
  rw [painted]
  cases works : (s.paint strokes).present.2 with
  | error e => exact .inl ⟨e, congrArg _ (acts_present_of_error works)⟩
  | ok => exact .inr ⟨_, _, congrArg _ (acts_present_of_ok works)⟩

theorem bounced_bounce {S σ : Type} [Surface S] [Stage σ] (playtime rounds : Nat) (b : Balls)
    (s : Scene S σ) : Bounced move n colors start wait b
      ((bounce (moved move n) colors wait start playtime rounds b).acts s) := by
  induction rounds generalizing b s with
  | zero => exact .up (List.forall_mem_nil _)
  | succ rounds ih =>
    rw [bounce, acts_clock]
    split_ifs with time
    · rw [acts_running]
      cases (Stage.running s.timed.stage).1 with
      | false => exact .up (by simp [Act.touches, acts, skip])
      | true =>
        rw [if_pos rfl, acts_clock]
        rcases acts_round (ballStrokes _ colors) wait _ s.timed.checked.timed with
          ⟨e, acts⟩ | ⟨picture, t, acts⟩
        · rw [acts]
          exact .refused _ _ e
        · rw [acts]
          exact .round _ _ picture (ih _ t)
    · exact .up (by simp [Act.touches, acts, skip])

/-- The rows that show the balls: the first one is drawn on the row that there was, the others on
dark LEDs. -/
def ballRows (n : Nat) (colors : List Color) : PixelBuffer → List Balls → List PixelBuffer
  | _, [] => []
  | row, b :: bs =>
    Surface.paint row (ballStrokes (b.positions n) colors) :: ballRows n colors (blank n) bs

theorem getElem?_ballRows (bs : List Balls) (k : Nat) :
    (ballRows n colors row bs)[k]? = bs[k]?.map fun b =>
      Surface.paint (roundStart n row k) (ballStrokes (b.positions n) colors) := by
  induction bs generalizing row k with
  | nil => rfl
  | cons b bs ih =>
    cases k with
    | zero => rfl
    | succ k =>
      have dark : roundStart n (blank n) k = roundStart n row (k + 1) := ite_self _
      refine (ih k).trans ?_
      rw [dark]
      rfl

theorem paint_black (row : PixelBuffer) :
    Surface.paint row [.fill .black] = blank row.length := rfl

/-- The frames show the balls as they were moved. -/
theorem Bounced.rows (bounced : Bounced move n colors start wait b acts) (length : row.length = n) :
    rowsShown row acts <+: ballRows n colors row
      (flight move b ((moveTimes (readings acts)).map (· - start))) := by
  induction bounced generalizing row with
  | up untouched =>
    rw [rowsShown_of_untouched untouched]
    exact List.nil_prefix
  | refused now later e => exact List.nil_prefix
  | @round b acts now later picture rest ih =>
    let balls := ballStrokes ((move (later - start) b).positions n) colors
    have dark : Surface.paint (Surface.paint row balls) [.fill .black] = blank n := by
      rw [paint_black, Surface.length_paint, length]
    show Surface.paint row balls ::
      rowsShown (Surface.paint (Surface.paint row balls) [.fill .black]) acts <+: _
    rw [dark]
    exact List.cons_prefix_cons.2 ⟨rfl, ih (length_blank n)⟩

/-- If nothing is refused the LEDs are dark behind a frame. -/
theorem Bounced.left (bounced : Bounced move n colors start wait b acts) (length : row.length = n)
    (works : ∀ e, .refused e ∉ acts) :
    Surface.paint row (drawn acts) = if rowsShown row acts = [] then row else blank n := by
  induction bounced generalizing row with
  | up untouched =>
    rw [rowsShown_of_untouched untouched, drawn_of_untouched untouched]
    rfl
  | refused now later e => exact absurd (by simp) (works e)
  | @round b acts now later picture rest ih =>
    let balls := ballStrokes ((move (later - start) b).positions n) colors
    have strokes : drawn (.timed now :: .checked true :: .timed later :: .painted balls ::
        .shown picture :: .painted [.fill .black] :: .slept wait :: acts) =
        balls ++ ([.fill .black] ++ drawn acts) := rfl
    have works' : ∀ e, .refused e ∉ acts := fun e mem => works e (by simp [mem])
    have dark := ih (length_blank n) works'
    rw [ite_self] at dark
    have split : Surface.paint row (balls ++ ([.fill .black] ++ drawn acts)) =
        Surface.paint (Surface.paint (Surface.paint row balls) [.fill .black]) (drawn acts) :=
      List.foldl_append
    rw [strokes, split, paint_black, Surface.length_paint, length, dark]
    exact (if_neg (List.cons_ne_nil _ _)).symm

theorem Bounced.hits (bounced : Bounced move n colors start wait b acts) (lit : 0 < n) :
    ∀ x ∈ drawn acts, x.hits n = true := by
  have balls (b : Balls) : ∀ x ∈ ballStrokes (b.positions n) colors, x.hits n = true := by
    intro x mem
    obtain ⟨k, drawn⟩ := List.mem_iff_getElem?.1 mem
    obtain ⟨led, c, there, -, rfl⟩ := getElem?_ballStrokes.1 drawn
    obtain ⟨height, -, rfl⟩ := List.mem_map.1 (List.mem_of_getElem? there)
    exact decide_eq_true (Balls.position_lt lit height)
  induction bounced with
  | up untouched =>
    rw [drawn_of_untouched untouched]
    exact List.forall_mem_nil _
  | @refused b now later e =>
    have strokes : drawn [.timed now, .checked true, .timed later, .painted
        (ballStrokes ((move (later - start) b).positions n) colors), .refused e] =
        ballStrokes ((move (later - start) b).positions n) colors ++ [] := rfl
    rw [strokes, List.append_nil]
    exact balls _
  | @round b acts now later picture rest ih =>
    intro x mem
    rcases List.mem_append.1 (show x ∈ ballStrokes ((move (later - start) b).positions n) colors ++
      (.fill .black :: drawn acts) from mem) with ball | other
    · exact balls _ x ball
    · rcases List.mem_cons.1 other with rfl | later
      · rfl
      · exact ih x later

end Rounds

/-! ## The main result -/

section Performed

open Legible (leds)

theorem bouncingBalls_eq_juggle (rounds playtime count wait n : Nat) :
    bouncingBalls rounds playtime count wait n =
      juggle (fun elapsed => Balls.step (seconds elapsed)) rounds playtime count wait n := rfl

/-- The times since the start at which balls are moved. -/
def moments (acts : List Act) : List Nat :=
  (moveTimes (readings acts).tail).map (· - (readings acts).headD 0)

/-- A row of `n` LEDs with balls at these positions in front of another row.  Of the balls at an LED
the last one is seen. -/
structure BallFrame (count n : Nat) (positions : List Nat) (behind row : PixelBuffer) : Prop where
  length : row.length = n
  ball : ∀ i < count, ∀ led, positions[i]? = some led →
    (∀ j, i < j → j < count → positions[j]? ≠ some led) →
    row.word? led = some (Color.ofHue (.ofNat (ballHue count i))).pack
  free : ∀ led < n, (∀ i < count, positions[i]? ≠ some led) → row.word? led = behind.word? led

theorem ballFrame_paint {n : Nat} (lit : 0 < n) {behind : PixelBuffer} (length : behind.length = n)
    (b : Balls) : BallFrame count n (b.positions n) behind
      (Surface.paint behind (ballStrokes (b.positions n) (ballColors count))) where
  length := (Surface.length_paint ..).trans length
  ball i ball led here top := by
    refine word?_paint_ballStrokes ?_ here (getElem?_ballColors ball) fun j later ball' => ?_
    · obtain ⟨height, -, rfl⟩ := List.mem_map.1 (List.mem_of_getElem? here)
      rw [length]
      exact Balls.position_lt lit height
    · exact top j later (by rwa [length_ballColors] at ball')
  free led _ free := by
    refine word?_paint_ballStrokes_of_free fun j ball => ?_
    exact free j (by rwa [length_ballColors] at ball)

variable {S σ : Type} [Surface S] [Legible S] [Placed S] [Stage σ]

/-- However the balls move, whatever the clock says and whatever ends the show. -/
theorem balls_stay_on_strip (move : Nat → Balls → Balls) (rounds playtime count wait : Nat)
    (s : Scene S σ) (lit : 0 < Surface.length s.surface) :
    let n := Surface.length s.surface
    let p := juggle move rounds playtime count wait n
    let after := (p.perform s).1
    bouncingBalls rounds playtime count wait n =
      juggle (fun elapsed => Balls.step (seconds elapsed)) rounds playtime count wait n ∧
    (∀ height, Balls.position n height < n) ∧ after.dropped = s.dropped ∧
    (∃ pictures shown, after.frames = s.frames ++ pictures ∧
      pictures.map (·[Placed.place s.surface]?) = shown.map some ∧
      (∀ k row, shown[k]? = some row →
        ∃ b, (flight move (.start count) (moments (p.acts s)))[k]? = some b ∧
          BallFrame count n (b.positions n) (if k = 0 then leds s.surface else blank n) row) ∧
      ((p.perform s).2 = .ok () → shown ≠ [] → leds after.surface = blank n)) ∧
    (∀ i < count, (UInt16.ofNat (ballHue count i)).toNat = 240 + 360 * i / count) ∧
    (count ≤ 360 → ∀ i < count, ∀ j < count,
      ballHue count i % 360 = ballHue count j % 360 → i = j) ∧
    ballHue count 0 = 240 := by
  intro n p after
  let start := (Stage.clock s.stage).1
  let b : Balls := .start count
  let acts := (bounce (moved move n) (ballColors count) wait start playtime rounds b).acts s.timed
  have begun : p.acts s = .timed start :: acts := acts_clock _ s
  have moments : moments (p.acts s) = (moveTimes (readings acts)).map (· - start) := by
    rw [begun]
    rfl
  have bounced : Bounced move n (ballColors count) start wait b acts :=
    bounced_bounce playtime rounds b s.timed
  have length : (leds s.surface).length = n := Legible.length_leds s.surface
  obtain ⟨pictures, frames, rows⟩ := p.frames_rows s
  rw [begun] at rows
  refine ⟨bouncingBalls_eq_juggle .., Balls.position_lt lit, ?_,
    ⟨pictures, rowsShown (leds s.surface) acts, frames, rows, fun k row shown => ?_,
      fun complete some_shown => ?_⟩,
    fun i ball => toNat_ballHue ball,
    fun few i ball j ball' => ballHue_injective few ball ball', ?_⟩
  · have reports : p.Reports (·.isDropped = false) := fun start => reports_bounce _ _ _ start _ _ _
    refine reports.dropped_of_hits ?_
    rw [begun]
    exact bounced.hits lit
  · obtain ⟨unseen, drawn⟩ := bounced.rows length
    have found : (rowsShown (leds s.surface) acts ++ unseen)[k]? = some row :=
      (List.getElem?_append_left (List.getElem?_eq_some_iff.1 shown).1).trans shown
    rw [drawn, getElem?_ballRows, ← moments, Option.map_eq_some_iff] at found
    obtain ⟨b', flown, rfl⟩ := found
    exact ⟨b', flown, ballFrame_paint lit (length_roundStart length k) b'⟩
  · have works : ∀ e, .refused e ∉ acts := by
      intro e refused
      have failed := (p.error_of_refused s (begun ▸ List.mem_cons_of_mem _ refused)).1
      rw [complete] at failed
      cases failed
    rw [p.leds_perform s, begun]
    exact (bounced.left length works).trans (if_neg some_shown)
  · rw [ballHue_eq, Nat.mul_zero, Nat.zero_div]

end Performed

/-- Two balls on three white LEDs, for two frames: a free LED is white in the first frame and dark in
the second one, the second ball is seen, and then all LEDs are dark. -/
theorem balls_stay_on_strip_two :
    let s := Scene.start ((blank 3).fill .white) (VirtualStage.curtain (some 2) none)
    let p := bouncingBalls 3 1 2 0 3
    0 < Surface.length s.surface ∧ (p.perform s).2 = .ok () ∧
      (∃ first second, (p.perform s).1.frames = [[first], [second]] ∧
        (∃ led < 3, first.word? led = some Color.white.pack) ∧
        (∃ led < 3, second.word? led = some 0) ∧
        ∃ led < 3, second.word? led = some (Color.ofHue (.ofNat (ballHue 2 1))).pack) ∧
      (p.perform s).1.surface = blank 3 := by
  intro s p
  have lit : 0 < Surface.length s.surface := Nat.zero_lt_succ 2
  obtain ⟨-, below, -, ⟨pictures, shown, frames, rows, looks, dark⟩, -⟩ :=
    balls_stay_on_strip (fun elapsed => Balls.step (seconds elapsed)) 3 1 2 0 s lit
  have complete : (p.perform s).2 = .ok () := rfl
  let balls := Balls.step (seconds 0) (.start 2)
  let later := Balls.step (seconds 0) balls
  obtain ⟨first, second, shows⟩ : ∃ first second, (p.perform s).1.frames = [[first], [second]] :=
    ⟨_, _, rfl⟩
  obtain rfl : pictures = [[first], [second]] := frames.symm.trans shows
  obtain rfl : shown = [first, second] := by
    rcases shown with _ | ⟨r, _ | ⟨r', _ | ⟨_, _⟩⟩⟩
    · cases rows
    · cases (List.cons.inj rows).2
    · obtain ⟨same, rest⟩ := List.cons.inj rows
      obtain rfl := Option.some.inj same
      obtain rfl := Option.some.inj (List.cons.inj rest).1
      rfl
    · cases (List.cons.inj (List.cons.inj rows).2).2
  obtain ⟨b, flown, look⟩ := looks 0 first rfl
  obtain ⟨b', flown', look'⟩ := looks 1 second rfl
  obtain rfl : balls = b := Option.some.inj flown
  obtain rfl : later = b' := Option.some.inj flown'
  obtain ⟨free, inside, elsewhere⟩ :=
    exists_free_led (show (balls.positions 3).length < 3 from Nat.lt_succ_self 2)
  obtain ⟨free', inside', elsewhere'⟩ :=
    exists_free_led (show (later.positions 3).length < 3 from Nat.lt_succ_self 2)
  refine ⟨lit, complete, ⟨first, second, shows, ⟨free, inside, ?_⟩, ⟨free', inside', ?_⟩, ?_⟩,
    dark complete (List.cons_ne_nil _ _)⟩
  · rw [look.free free inside fun i _ => elsewhere i, if_pos rfl]
    exact (word?_fill _ _ _).trans (if_pos inside)
  · rw [look'.free free' inside' fun i _ => elsewhere' i, if_neg Nat.one_ne_zero]
    exact (word?_blank _ _).trans (if_pos inside')
  · have here : (later.positions 3)[1]? = some (Balls.position 3 (later.heights.getD 1 0)) := rfl
    refine ⟨_, below (later.heights.getD 1 0), ?_⟩
    exact look'.ball 1 (by decide) _ here fun j behind ball => absurd ball (by omega)

end Animation

end LedStrip
