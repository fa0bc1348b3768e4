import LedStrip.Play.Stage
import LedStrip.Proofs.Play.Delivery

/-!
# Flashes and snow

Two animations that draw random numbers.  Flashes draw them for pauses only, so what they show does
not depend on them (`delivers_strobe`).  Snow draws one LED first, and pauses afterwards; that LED is
all that is seen of the numbers (`delivers_basePause`, `exhibits_snow`).
-/

namespace LedStrip

/-! ## Random numbers -/

/-- A number that is drawn from zero up to a bound is not beyond it. -/
def Stage.Fair (σ : Type) [Stage σ] : Prop :=
  ∀ high (stage : σ), (Stage.random 0 high stage).1 ≤ high

theorem sampleBelow_lt {range : Nat} (some_values : 0 < range) (words : List UInt64) :
    (sampleBelow range words).1 < range := by
  induction words with
  | nil => exact some_values
  | cons word rest ih =>
    rw [sampleBelow]
    split_ifs
    · exact Nat.div_lt_of_lt_mul (Nat.mul_lt_mul_of_pos_right word.toNat_lt some_values)
    · exact ih

theorem VirtualStage.fair : Stage.Fair VirtualStage := by
  intro high stage
  show (sample 0 high stage.words).1 ≤ high
  unfold sample
  split_ifs with whole
  · have word : (stage.words.headD 0).toNat < UInt64.size := UInt64.toNat_lt_size _
    show (stage.words.headD 0).toNat ≤ high
    omega
  · have below : (sampleBelow (high - 0 + 1) stage.words).1 < high - 0 + 1 :=
      sampleBelow_lt (Nat.succ_pos _) _
    show 0 + (sampleBelow (high - 0 + 1) stage.words).1 ≤ high
    omega

theorem Cued.fair {σ : Type} [Stage σ] (fair : Stage.Fair σ) : Stage.Fair (Cued σ) :=
  fun high stage => fair high stage.stage

/-! ## Rows -/

theorem PixelBuffer.fill_fill (p : PixelBuffer) (c d : Color) : (p.fill c).fill d = p.fill d := by
  rw [fill, length_fill, fill]

theorem PixelBuffer.fill_eq_ofFn (p : PixelBuffer) (c : Color) :
    p.fill c = .ofFn p.length fun _ => c.pack := by
  apply ext_of_lt
  · rw [length_fill, length_ofFn]
  · intro i inside
    rw [length_fill] at inside
    rw [word?_fill, word?_ofFn]

theorem PixelBuffer.set_ofFn (n : Nat) (word : Nat → UInt32) (i : Nat) (c : Color) :
    (ofFn n word).set i c = .ofFn n fun j => if j = i then c.pack else word j := by
  apply ext_of_lt
  · rw [length_set, length_ofFn, length_ofFn]
  · intro j inside
    rw [length_set, length_ofFn] at inside
    rw [word?_set, length_ofFn, word?_ofFn, word?_ofFn, if_pos inside, if_pos inside]
    by_cases here : i = j
    · rw [if_pos ⟨here, inside⟩, if_pos here.symm]
    · rw [if_neg fun h => here h.1, if_neg (Ne.symm here)]

namespace Animation

open PixelBuffer (blank ofFn)

/-! ## Flashes -/

/-- The color of all LEDs in a frame. -/
def flashColor (k : Nat) : Color := if k % 2 = 0 then .white else .black

theorem flashColor_add (frames k : Nat) : flashColor (2 * frames + k) = flashColor k := by
  rw [flashColor, Nat.mul_add_mod, flashColor]

/-- A row that was all white and all dark in turn for so many frames, and how it is left. -/
structure Flashed (row : PixelBuffer) (frames : Nat) (shown : List PixelBuffer)
    (left : PixelBuffer) : Prop where
  shows : Shows frames (fun k frame => frame = row.fill (flashColor k)) shown
  left : left = if frames = 0 then row else row.fill .black

namespace Flashed

variable {row mid left : PixelBuffer} {frames more : Nat} {shown later : List PixelBuffer}

theorem nil : Flashed row 0 [] row := ⟨.nil, rfl⟩

/-- What was there before is not seen when a row is filled. -/
theorem fill (flashed : Flashed row frames shown left) (c : Color) : left.fill c = row.fill c := by
  rw [flashed.left]
  split_ifs
  · rfl
  · exact row.fill_fill .black c

theorem append (first : Flashed row (2 * frames) shown mid)
    (second : Flashed mid more later left) :
    Flashed row (2 * frames + more) (shown ++ later) left where
  shows := by
    refine first.shows.append ?_
    have looks := second.shows
    simp only [first.fill] at looks
    simpa only [flashColor_add] using looks
  left := by
    rw [second.left, first.fill, first.left]
    by_cases none : more = 0
    · rw [if_pos none, none, Nat.add_zero]
    · rw [if_neg none, if_neg (by omega)]

end Flashed

theorem delivers_flash (row : PixelBuffer) :
    flash.Delivers row fun _ shown left => Flashed row 2 shown left := by
  intro gap
  have dark : (row.fill .white).fill .black = row.fill .black := row.fill_fill ..
  have white : Shows 1 (fun k frame => frame = row.fill (flashColor k)) [row.fill .white] :=
    .single rfl
  exact ⟨white.append (.single dark), dark⟩

/-- Flashes show white and dark rows in turn, whatever is drawn for the pauses between them. -/
theorem delivers_strobe (wait pulses strobes : Nat) (row : PixelBuffer) :
    (strobe wait pulses strobes).Delivers row fun _ => Flashed row (2 * strobes * pulses) := by
  induction strobes generalizing row with
  | zero =>
    rw [Nat.mul_zero, Nat.zero_mul]
    exact .nil
  | succ strobes ih =>
    have total : 2 * (strobes + 1) * pulses = 2 * pulses + 2 * strobes * pulses := by
      rw [Nat.mul_succ, Nat.add_mul, Nat.add_comm]
    have burst : (Play.whileRunning (fun _ => flash) 0 pulses).Delivers row
        fun complete shown left => complete = true ∧ Flashed row (2 * (0 + pulses)) shown left := by
      have start : Flashed row (2 * 0) [] row := .nil
      refine Play.delivers_whileRunning (fun i => Flashed row (2 * i)) start ?_
      intro i shown mid _ before
      exact (delivers_flash mid).imp fun _ more left pair => before.append pair
    rw [Nat.zero_add] at burst
    rw [total]
    refine Play.Delivers.bind (burst.imp ?_)
    rintro _ shown mid ⟨rfl, first⟩
    exact (ih mid).imp fun _ more left rest => first.append rest

/-! ## Snow -/

/-- Snow on all LEDs. -/
def snowy (n : Nat) : PixelBuffer := ofFn n fun _ => 0x00101010

/-- Snow in which one LED sparkles. -/
def sparkling (n pixel : Nat) : PixelBuffer :=
  ofFn n fun i => if i = pixel then 0x00ffffff else 0x00101010

/-- Snow was shown, and then the sparkling LED, which is left. -/
structure Snowed (n pixel : Nat) (shown : List PixelBuffer) (left : PixelBuffer) : Prop where
  shown : shown = [snowy n, sparkling n pixel]
  left : left = sparkling n pixel

theorem delivers_sparkle (wait pause pixel : Nat) (row : PixelBuffer) :
    ((Play.frame [.fill snow] pause).andThen (.frame [.set pixel .white] wait)).Delivers row
      fun _ => Snowed row.length pixel := by
  have covered : row.fill snow = snowy row.length := row.fill_eq_ofFn snow
  have sparkles : (row.fill snow).set pixel .white = sparkling row.length pixel := by
    rw [covered]
    exact PixelBuffer.set_ofFn ..
  exact ⟨congrArg₂ (fun p q => [p, q]) covered sparkles, sparkles⟩

/-- Whatever is drawn for a pause, or if nothing is. -/
theorem delivers_basePause {next : Nat → Play Unit} {row : PixelBuffer}
    {goal : Unit → List PixelBuffer → PixelBuffer → Prop} (low high : Nat)
    (delivers : ∀ pause, (next pause).Delivers row goal) :
    (basePause low high next).Delivers row goal := by
  unfold basePause
  split_ifs
  · exact delivers _
  · exact fun ms => delivers _

section Snow

variable {S σ : Type} [Surface S] [Stage σ] [Legible S] [Placed S]

open Legible (leds)

/-- The LED that sparkles is told by the first number that is drawn after the show was found on. -/
theorem exhibits_snow (s : Scene S σ) (wait low high : Nat) {n : Nat}
    (row : (leds s.surface).length = n) (some_leds : 0 < n)
    (unhindered : Unhindered ((snowSparkle wait low high n).acts s)) :
    let pixel := (Stage.random 0 (n - 1) s.checked.stage).1
    (∃ later, (snowSparkle wait low high n).acts s = .checked true :: .drew pixel :: later) ∧
      Exhibits (snowSparkle wait low high n) s ()
        [snowy n, sparkling n pixel] (sparkling n pixel) := by
  intro pixel
  rw [snowSparkle, if_neg (Nat.ne_of_gt some_leds)] at unhindered ⊢
  obtain ⟨on, later⟩ := unhindered.running
  obtain ⟨-, later⟩ := List.forall_mem_cons.1 later
  constructor
  · rw [Play.acts_running, on]
    exact ⟨_, rfl⟩
  · let drawn : Scene S σ :=
      { s.checked with stage := (Stage.random 0 (n - 1) s.checked.stage).2 }
    have delivers := delivers_basePause low high fun pause =>
      delivers_sparkle wait pause pixel (leds drawn.surface)
    obtain ⟨_, shown, left, ⟨rfl, rfl⟩, rest⟩ := delivers.exhibits later
    have length : (leds drawn.surface).length = n := row
    rw [length] at rest
    refine rest.quiet ?_ rfl rfl
    rw [Play.perform_running, on]
    rfl

end Snow

/-- Of all random numbers that are drawn one LED is all that can be seen.  Flashes show the same
frames whatever is drawn, white and dark in turn, and leave a dark row if they show any.  Snow shows
two frames on any row with LEDs: snow on all of them, and then one that sparkles.  Which one is told
by the number that is drawn first, whatever the pauses are, and whether they are drawn or not. -/
theorem draws_hidden (row : PixelBuffer) :
    let n := row.length
    (∀ wait pulses strobes,
      let p := strobe wait pulses strobes
      let count := 2 * strobes * pulses
      let flashes := (List.range count).map fun k =>
        ofFn n fun _ => if k % 2 = 0 then 0x00ffffff else 0
      ∀ {S σ : Type} [Surface S] [Stage σ] [Legible S] [Placed S] (s : Scene S σ),
        Legible.leds s.surface = row → Unhindered (p.acts s) →
          Exhibits p s () flashes (if count = 0 then row else blank n)) ∧
    (0 < n →
      ∀ {S σ : Type} [Surface S] [Stage σ] [Legible S] [Placed S] (s : Scene S σ),
        Legible.leds s.surface = row → Stage.Fair σ →
          ∃ pixel < n, ∀ wait low high,
            let p := snowSparkle wait low high n
            Unhindered (p.acts s) →
              (∃ later, p.acts s = .checked true :: .drew pixel :: later) ∧
                Exhibits p s () [snowy n, sparkling n pixel] (sparkling n pixel)) := by
  intro n
  refine ⟨fun wait pulses strobes => ?flashes, fun some_leds => ?snow⟩
  case flashes =>
    intro p count flashes S σ _ _ _ _ s start unhindered
    have delivers := delivers_strobe wait pulses strobes row
    rw [← start] at delivers
    obtain ⟨_, shown, left, flashed, exhibits⟩ := delivers.exhibits unhindered
    rw [start] at flashed
    have dark : row.fill .black = blank n := rfl
    have same : shown = flashes := by
      rw [flashed.shows.eq_map]
      refine List.map_congr_left fun k _ => ?_
      rw [PixelBuffer.fill_eq_ofFn, flashColor]
      split_ifs <;> rfl
    rw [same, flashed.left, dark] at exhibits
    exact exhibits
  case snow =>
    intro S σ _ _ _ _ s start fair
    refine ⟨(Stage.random 0 (n - 1) s.checked.stage).1, ?_, fun wait low high => ?_⟩
    · exact Nat.lt_of_le_pred some_leds (fair (n - 1) s.checked.stage)
    · intro p unhindered
      exact exhibits_snow s wait low high (congrArg PixelBuffer.length start) some_leds unhindered

/-- On a strip of four LEDs flashes show the same four frames with and without random numbers; and
the number that was drawn first has the third LED sparkle, with a pause that is drawn from a range
and with one that is not, as its range is empty. -/
theorem draws_hidden_four :
    ∃ strip, (Strip.create (.single 4 18) Simulator.fresh).result = .ok strip ∧
      let stage := VirtualStage.curtain none none
      let s := (Scene.start strip stage).cue none
      let t := (Scene.start strip (stage.withWords [0x8000000000000000, 7])).cue none
      let p := strobe 0 2 1
      (∃ shown, shown.length = 4 ∧
        Exhibits p s () shown (blank 4) ∧ Exhibits p t () shown (blank 4)) ∧
      Exhibits (snowSparkle 0 5 0 4) t () [snowy 4, sparkling 4 2] (sparkling 4 2) ∧
      Exhibits (snowSparkle 0 100 1000 4) t () [snowy 4, sparkling 4 2] (sparkling 4 2) := by
  refine ⟨_, rfl, ?_⟩
  intro stage s t p
  have dark : Legible.leds s.surface = blank 4 :=
    congrArg Channel.pixels (get_map Channel.blank (StripConfig.single 4 18).channels 0)
  have free (s : Scene (Strip Simulator) VirtualStage) (works : s.surface.backend.renderCode = 0)
      (p : Play Unit) : Unhindered (p.acts (s.cue none)) := unhindered_of_works works p
  obtain ⟨flashes, snow⟩ := draws_hidden (blank 4)
  obtain ⟨pixel, inside, drawn⟩ := snow (by decide) t dark (Cued.fair VirtualStage.fair)
  obtain ⟨⟨later, acts⟩, empty⟩ := drawn 0 5 0 (free _ rfl _)
  have two : pixel = 2 := by
    have second : some (Act.drew 2) = some (.drew pixel) := congrArg (·[1]?) acts
    exact (Act.drew.inj (Option.some.inj second)).symm
  subst two
  refine ⟨⟨_, ?_, flashes 0 2 1 s dark (free _ rfl p), flashes 0 2 1 t dark (free _ rfl p)⟩,
    empty, (drawn 0 100 1000 (free _ rfl _)).2⟩
  rfl

end Animation

end LedStrip
