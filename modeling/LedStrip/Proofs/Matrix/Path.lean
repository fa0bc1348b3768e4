import LedStrip.Proofs.Matrix.Transforms

/-!
# The path along a panel

Where the rows of a panel turn back, the strip is one path: LEDs that follow each other sit in cells
that touch (`Unbroken`).  This is so as the panel is wired (`unbroken_zigzag`), and mirrors and
turns take cells that touch to cells that touch (`Unbroken.carry`).
-/

namespace LedStrip.MatrixMap

variable {width height : Nat} {m : MatrixMap width height}

/-- Two cells touch: they are one step apart, in a row or in a column. -/
def Touch (p q : Nat × Nat) : Prop :=
  (p.2 = q.2 ∧ (q.1 = p.1 + 1 ∨ p.1 = q.1 + 1)) ∨ (p.1 = q.1 ∧ (q.2 = p.2 + 1 ∨ p.2 = q.2 + 1))

/-- LEDs that follow each other on the strip sit in cells that touch. -/
def Unbroken (m : MatrixMap width height) : Prop :=
  ∀ k x y x' y', m.index? x y = some k → m.index? x' y' = some (k + 1) → Touch (x, y) (x', y')

/-! ## Moving cells -/

theorem Unbroken.carry (unbroken : m.Unbroken) {goal source : Nat → Nat → Nat × Nat}
    (moves : Moves width height goal source)
    (touch : ∀ p ∈ panel width height, ∀ q ∈ panel width height,
      Touch p q → Touch (goal p.1 p.2) (goal q.1 q.2)) : (m.carry goal).Unbroken := by
  intro k x y x' y' led led'
  obtain ⟨hx, hy⟩ := mem_panel_of_index? led
  obtain ⟨hx', hy'⟩ := mem_panel_of_index? led'
  rw [moves.index?_carry m hx hy] at led
  rw [moves.index?_carry m hx' hy'] at led'
  have goals := touch _ (moves.source_mem (x, y) ⟨hx, hy⟩) _ (moves.source_mem (x', y') ⟨hx', hy'⟩)
    (unbroken k _ _ _ _ led led')
  rwa [moves.goal_source (x, y) ⟨hx, hy⟩, moves.goal_source (x', y') ⟨hx', hy'⟩] at goals

theorem Touch.mirror {p q : Nat × Nat} (hp : p ∈ panel width height) (hq : q ∈ panel width height)
    (touch : Touch p q) : Touch (width - p.1 - 1, p.2) (width - q.1 - 1, q.2) := by
  have left : p.1 < width := hp.1
  have right : q.1 < width := hq.1
  simp only [Touch] at touch ⊢
  omega

theorem Touch.turn {n : Nat} {p q : Nat × Nat} (hp : p ∈ panel n n) (hq : q ∈ panel n n)
    (touch : Touch p q) : Touch (n - p.2 - 1, p.1) (n - q.2 - 1, q.1) := by
  have above : p.2 < n := hp.2
  have below : q.2 < n := hq.2
  simp only [Touch] at touch ⊢
  omega

theorem Unbroken.transform (unbroken : m.Unbroken) (t : Transform) :
    (m.transform t).state.Unbroken := by
  cases t with
  | mirrorX => exact unbroken.carry (moves_mirror width height) fun _ hp _ hq => Touch.mirror hp hq
  | rotate90 =>
    by_cases square : width = height
    · subst square
      rw [transform_rotate90]
      exact unbroken.carry (moves_turn width) fun _ hp _ hq => Touch.turn hp hq
    · rw [transform_rotate90_of_ne m square]
      exact unbroken

theorem Unbroken.transformAll (unbroken : m.Unbroken) (ts : List Transform) :
    (m.transformAll ts).Unbroken := by
  induction ts generalizing m with
  | nil => exact unbroken
  | cons t ts ih => exact ih (unbroken.transform t)

/-! ## Rows that turn back -/

theorem index?_zigzag {x y k : Nat} :
    (wired width height .zigzag).index? x y = some k ↔
      (x < width ∧ y < height) ∧ width * y + along width x y = k := by
  rw [wired, index?_ofFn]
  by_cases inside : x < width ∧ y < height
  · have counted : (if y % 2 = 1 then width * y + (width - 1 - x) else width * y + x) =
        width * y + along width x y := by
      unfold along
      split <;> rfl
    rw [if_pos inside, counted, Option.some.injEq]
    exact (and_iff_right inside).symm
  · rw [if_neg inside]
    exact ⟨fun led => absurd led.symm (Option.some_ne_none k), fun led => absurd led.1 inside⟩

theorem unbroken_zigzag (width height : Nat) : (wired width height .zigzag).Unbroken := by
  intro k x y x' y' led led'
  obtain ⟨⟨hx, -⟩, count⟩ := index?_zigzag.1 led
  obtain ⟨⟨hx', -⟩, count'⟩ := index?_zigzag.1 led'
  have lt := along_lt hx y
  have lt' := along_lt hx' y'
  by_cases last : along width x y + 1 = width
  · -- the end of a row: the next LED sits below it, at the beginning of the next row
    have turn : width * y' + along width x' y' = width * (y + 1) + 0 := by
      rw [Nat.mul_succ]
      omega
    obtain ⟨start, rfl⟩ := rowMajor_inj lt' (by omega) turn
    right
    unfold along at last start
    split at last <;> split at start <;> dsimp only <;> omega
  · have step : width * y' + along width x' y' = width * y + (along width x y + 1) := by omega
    obtain ⟨further, rfl⟩ := rowMajor_inj lt' (by omega) step
    left
    unfold along at further
    split at further <;> dsimp only <;> omega

/-! ## The main statement -/

/-- However a panel whose rows turn back is mirrored and turned, the cells of an LED and of the next
one touch.  As it is wired the path begins in the first cell, and one row comes after the other. -/
theorem zigzag_unbroken (width height : Nat) (ts : List Transform) :
    let plain := wired width height .zigzag
    let m := plain.transformAll ts
    (∀ k, k + 1 < width * height → ∃ p q,
      (∀ x y, m.index? x y = some k ↔ (x, y) = p) ∧
      (∀ x y, m.index? x y = some (k + 1) ↔ (x, y) = q) ∧ Touch p q) ∧
    (0 < width * height → plain.index? 0 0 = some 0) ∧
    ∀ k, k < width * height →
      ∃ x, ∀ x' y', plain.index? x' y' = some k ↔ (x', y') = (x, k / width) := by
  intro plain m
  have covers : plain.Covers := covers_wired width height .zigzag
  refine ⟨fun k next => ?path, fun lit => ?start, fun k inside => ?row⟩
  case path =>
    obtain ⟨p, cell⟩ := (covers.transformAll ts).exists_cell (Nat.lt_of_succ_lt next)
    obtain ⟨q, cell'⟩ := (covers.transformAll ts).exists_cell next
    have unbroken := (unbroken_zigzag width height).transformAll ts
    exact ⟨p, q, cell, cell', unbroken k _ _ _ _ ((cell _ _).2 rfl) ((cell' _ _).2 rfl)⟩
  case start =>
    have first : 0 < width ∧ 0 < height :=
      ⟨Nat.pos_of_mul_pos_right lit, Nat.pos_of_mul_pos_left lit⟩
    exact index?_zigzag.2 ⟨first, rfl⟩
  case row =>
    obtain ⟨⟨x, y⟩, cell⟩ := covers.exists_cell inside
    obtain ⟨⟨hx, -⟩, count⟩ := index?_zigzag.1 ((cell x y).2 rfl)
    have row : k / width = y := by
      rw [← count]
      exact (rowMajor_mod_div (along_lt hx y)).2
    rw [row]
    exact ⟨x, cell⟩

/-- A panel of three by three, turned and mirrored: behind LED 2 the path turns back. -/
theorem zigzag_unbroken_turned :
    let plain := wired 3 3 .zigzag
    let m := plain.transformAll [.rotate90, .mirrorX]
    m.rows = [[0, 5, 6], [1, 4, 7], [2, 3, 8]] ∧ 2 + 1 < 3 * 3 ∧
    (∃ p q, (∀ x y, m.index? x y = some 2 ↔ (x, y) = p) ∧
      (∀ x y, m.index? x y = some 3 ↔ (x, y) = q) ∧ Touch p q) ∧
    0 < 3 * 3 ∧ plain.index? 0 0 = some 0 ∧ 5 < 3 * 3 ∧
    ∃ x, ∀ x' y', plain.index? x' y' = some 5 ↔ (x', y') = (x, 5 / 3) := by
  intro plain m
  obtain ⟨path, start, row⟩ := zigzag_unbroken 3 3 [.rotate90, .mirrorX]
  exact ⟨by decide, by decide, path 2 (by decide), by decide, start (by decide), by decide,
    row 5 (by decide)⟩

end LedStrip.MatrixMap
