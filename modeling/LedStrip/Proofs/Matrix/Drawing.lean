import LedStrip.Proofs.Matrix.Transforms
import LedStrip.Proofs.Surface.Strokes

/-!
# Drawing through a map

A map that covers its panel has every LED in one cell at most, so the strokes of a frame never
contradict each other (`Covers.agree`) and their order does not matter.  Which LED gets which color
depends only on the pairs of a cell's color and its LED (`set_mem_strokes`); to move the LEDs around
and to move the colors around the other way makes the same pairs (`draw_carry`).
-/

namespace LedStrip.MatrixMap

variable {width height : Nat} {m : MatrixMap width height} {frame : List Color}

/-! ## The strokes of a frame -/

theorem fill_not_mem_strokes (m : MatrixMap width height) (frame : List Color) (c : Color) :
    .fill c ∉ m.strokes frame := by
  simp [strokes]

/-- An LED gets the color of its cell, if the frame has one for it. -/
theorem set_mem_strokes {i : Nat} {c : Color} :
    .set i c ∈ m.strokes frame ↔
      ∃ x y, m.index? x y = some i ∧ frame[width * y + x]? = some c := by
  have member : .set i c ∈ m.strokes frame ↔ (c, i) ∈ frame.zip m.cells.toList := by
    simp only [strokes, List.mem_map, Prod.exists, Stroke.set.injEq]
    constructor
    · rintro ⟨_, _, pair, rfl, rfl⟩
      exact pair
    · exact fun pair => ⟨c, i, pair, rfl, rfl⟩
  rw [member, List.mem_iff_getElem?]
  constructor
  · rintro ⟨cell, pair⟩
    obtain ⟨color, led⟩ := List.getElem?_zip_eq_some.1 pair
    have inside : cell < width * height := by
      have length := (List.getElem?_eq_some_iff.1 led).1
      rwa [Vector.length_toList] at length
    obtain ⟨column, row⟩ := mod_div_mem_panel inside
    have same : width * (cell / width) + cell % width = cell := Nat.div_add_mod cell width
    refine ⟨cell % width, cell / width, ?_, by rw [same]; exact color⟩
    rw [index?, if_pos ⟨column, row⟩, same, ← Vector.getElem?_toList]
    exact led
  · rintro ⟨x, y, led, color⟩
    refine ⟨width * y + x, List.getElem?_zip_eq_some.2 ⟨color, ?_⟩⟩
    rw [index?] at led
    split at led
    · rwa [Vector.getElem?_toList]
    · cases led

/-- No LED gets two colors. -/
theorem Covers.agree (covers : m.Covers) (frame : List Color) (i : Nat) (c c' : Color)
    (one : .set i c ∈ m.strokes frame) (other : .set i c' ∈ m.strokes frame) : c' = c := by
  obtain ⟨x, y, led, color⟩ := set_mem_strokes.1 one
  obtain ⟨x', y', led', color'⟩ := set_mem_strokes.1 other
  obtain ⟨rfl, rfl⟩ := Prod.mk.inj
    (covers.injOn (mem_panel_of_index? led) (mem_panel_of_index? led') (led.trans led'.symm))
  exact Option.some.inj (color'.symm.trans color)

/-! ## Drawing -/

section

variable {S : Type} [Surface S] [Legible S]

open Legible (leds leds_paint)

/-- Whatever makes the same strokes as a frame, in any order, draws the same. -/
theorem Covers.leds_draw (covers : m.Covers) (s : S) {strokes : List Stroke}
    (unfilled : ∀ c, .fill c ∉ strokes)
    (same : ∀ i c, .set i c ∈ m.strokes frame ↔ .set i c ∈ strokes) :
    leds (m.draw s frame) = leds (Surface.paint s strokes) := by
  rw [draw, leds_paint, leds_paint]
  exact Surface.paint_eq_paint _ (m.fill_not_mem_strokes frame) unfilled same (covers.agree frame)

/-- To move the cells of a map and then draw is to draw with the old map what the moved cells
show. -/
theorem Covers.draw_carry (covers : m.Covers) {goal source : Nat → Nat → Nat × Nat}
    (moves : Moves width height goal source) (s : S) {frame frame' : List Color}
    (shown : ∀ x y, x < width → y < height →
      frame'[width * y + x]? = frame[width * (goal x y).2 + (goal x y).1]?) :
    leds ((m.carry goal).draw s frame) = leds (m.draw s frame') := by
  apply (covers.carry moves).leds_draw s (m.fill_not_mem_strokes frame')
  intro i c
  rw [set_mem_strokes, set_mem_strokes]
  constructor
  · rintro ⟨x, y, led, color⟩
    obtain ⟨hx, hy⟩ := mem_panel_of_index? led
    obtain ⟨hx', hy'⟩ := moves.source_mem (x, y) ⟨hx, hy⟩
    refine ⟨(source x y).1, (source x y).2, ?_, ?_⟩
    · rw [← moves.index?_carry m hx hy, led]
    · rw [shown _ _ hx' hy', moves.goal_source (x, y) ⟨hx, hy⟩]
      exact color
  · rintro ⟨x, y, led, color⟩
    obtain ⟨hx, hy⟩ := mem_panel_of_index? led
    refine ⟨(goal x y).1, (goal x y).2, ?_, ?_⟩
    · rw [moves.index?_carry_goal m hx hy, led]
    · rw [← shown x y hx hy, color]

/-! ## The main statement -/

/-- However a map was mirrored and turned, and whatever it is drawn on: an LED of the surface gets
the color of its cell, if the frame is long enough to have one, and stays as it is otherwise; the
order of the strokes does not matter.  To mirror or turn the map is to draw with the old map the
picture that is mirrored or turned the same way. -/
theorem frame_drawn (width height : Nat) (layout : Layout) (ts : List Transform) (s : S)
    (frame : List Color) :
    let m := (wired width height layout).transformAll ts
    let drawn := leds (m.draw s frame)
    drawn.length = (leds s).length ∧
    (∀ x y i c, m.index? x y = some i → frame[width * y + x]? = some c → i < (leds s).length →
      drawn.word? i = some c.pack) ∧
    (∀ i, (∀ x y, m.index? x y = some i → frame.length ≤ width * y + x) →
      drawn.word? i = (leds s).word? i) ∧
    (∀ strokes, strokes.Perm (m.strokes frame) → leds (Surface.paint s strokes) = drawn) ∧
    (∀ frame' : List Color,
      (∀ x y, x < width → y < height →
        frame'[width * y + x]? = frame[width * y + (width - 1 - x)]?) →
      leds ((m.transform .mirrorX).state.draw s frame) = leds (m.draw s frame')) ∧
    ∀ frame' : List Color, width = height →
      (∀ x y, x < width → y < height →
        frame'[width * y + x]? = frame[width * x + (width - 1 - y)]?) →
      (m.transform .rotate90).result = .ok () ∧
      leds ((m.transform .rotate90).state.draw s frame) = leds (m.draw s frame') := by
  intro m drawn
  have covers : m.Covers := (covers_wired width height layout).transformAll ts
  have painted : drawn = Surface.paint (leds s) (m.strokes frame) := leds_paint ..
  refine ⟨?length, fun x y i c led color inside => ?cell, fun i blank => ?kept,
    fun strokes perm => ?order, fun frame' shown => ?mirror, fun frame' square shown => ?turn⟩
  case length =>
    rw [painted]
    exact Surface.length_paint ..
  case cell =>
    have marked := set_mem_strokes.2 ⟨x, y, led, color⟩
    rw [painted]
    exact Surface.word?_paint_of_marked (m.fill_not_mem_strokes frame) inside marked
      fun c' => covers.agree frame i c c' marked
  case kept =>
    rw [painted]
    apply Surface.word?_paint_of_unmarked (m.fill_not_mem_strokes frame)
    intro c marked
    obtain ⟨x, y, led, color⟩ := set_mem_strokes.1 marked
    have short := List.getElem?_eq_none (blank x y led)
    rw [short] at color
    cases color
  case order =>
    refine (covers.leds_draw s (fun c filled => ?_) fun i c => perm.symm.mem_iff).symm
    exact m.fill_not_mem_strokes frame c (perm.mem_iff.1 filled)
  case mirror =>
    rw [transform_mirrorX]
    apply covers.draw_carry (moves_mirror width height)
    intro x y hx hy
    rw [shown x y hx hy]
    congr 2
    omega
  case turn =>
    subst square
    rw [transform_rotate90]
    refine ⟨rfl, covers.draw_carry (moves_turn width) s fun x y hx hy => ?_⟩
    rw [shown x y hx hy]
    congr 2
    omega

end

/-- A mirrored panel of two rows with a short frame, on a strip that is one LED too short for the
panel; and a turn of it, with the picture that looks the same without the turn. -/
theorem frame_drawn_square :
    let m := (wired 2 2 .zigzag).transformAll [.mirrorX]
    let s : PixelBuffer := ⟨#[7, 7, 7]⟩
    let frame : List Color := [.rgb 0 0 1, .rgb 0 0 2]
    let full : List Color := [.rgb 0 0 1, .rgb 0 0 2, .rgb 0 0 3, .rgb 0 0 4]
    let full' : List Color := [.rgb 0 0 2, .rgb 0 0 4, .rgb 0 0 1, .rgb 0 0 3]
    m.index? 0 0 = some 1 ∧ frame[0]? = some (.rgb 0 0 1) ∧ 1 < s.length ∧
    (m.draw s frame).word? 1 = some 1 ∧
    (∀ x y, m.index? x y = some 2 → frame.length ≤ 2 * y + x) ∧
    (m.draw s frame).word? 2 = some 7 ∧
    [.set 0 (.rgb 0 0 2), .set 1 (.rgb 0 0 1)].Perm (m.strokes frame) ∧
    Surface.paint s [.set 0 (.rgb 0 0 2), .set 1 (.rgb 0 0 1)] = m.draw s frame ∧
    (m.transform .rotate90).state.draw s full = m.draw s full' ∧
    m.draw s full' = ⟨#[4, 2, 1]⟩ := by
  intro m s frame full full'
  obtain ⟨-, cell, kept, order, -⟩ := frame_drawn 2 2 .zigzag [.mirrorX] s frame
  obtain ⟨-, -, -, -, -, turn⟩ := frame_drawn 2 2 .zigzag [.mirrorX] s full
  have led : m.index? 0 0 = some 1 := by decide
  have below : ∀ x y, m.index? x y = some 2 → frame.length ≤ 2 * y + x := by
    intro x y led
    have inside : x < 2 ∧ y < 2 := by
      by_contra outside
      rw [(m.index?_eq_none_iff x y).2 (by omega)] at led
      cases led
    have all : ∀ x < 2, ∀ y < 2, m.index? x y = some 2 → frame.length ≤ 2 * y + x := by decide
    exact all x inside.1 y inside.2 led
  have perm : [.set 0 (.rgb 0 0 2), .set 1 (.rgb 0 0 1)].Perm (m.strokes frame) :=
    List.Perm.swap ..
  have turned : ∀ x y, x < 2 → y < 2 → full'[2 * y + x]? = full[2 * x + (2 - 1 - y)]? := by
    have all : ∀ x < 2, ∀ y < 2, full'[2 * y + x]? = full[2 * x + (2 - 1 - y)]? := by decide
    exact fun x y hx hy => all x hx y hy
  exact ⟨led, rfl, by decide, cell 0 0 1 _ led rfl (by decide), below, kept 2 below, perm,
    order _ perm, (turn full' rfl turned).2, by decide⟩

end LedStrip.MatrixMap
