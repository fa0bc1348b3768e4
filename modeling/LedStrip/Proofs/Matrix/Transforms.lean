import LedStrip.Proofs.Matrix.Cells

/-!
# Mirrored and turned maps

However a map is mirrored and turned, it has every LED of the panel in one cell (`Covers`).  Both
transforms move cells around (`index?_mirrorX`, `index?_turned`), and moving cells keeps a panel
covered (`Covers.carry`).
-/

namespace LedStrip.MatrixMap

variable {width height n : Nat}

/-- What can be done to a map. -/
inductive Transform where
  | mirrorX
  | rotate90
  deriving DecidableEq, Repr

/-- Do it.  A turn that is refused leaves the map as it is. -/
def transform (m : MatrixMap width height) :
    Transform → Step (MatrixMap width height) (Except Error Unit)
  | .mirrorX => .silent m.mirrorX (.ok ())
  | .rotate90 =>
    match m.rotate90 with
    | .ok turned => .silent turned (.ok ())
    | .error e => .silent m (.error e)

/-- Do one thing after the other. -/
def transformAll (m : MatrixMap width height) : List Transform → MatrixMap width height
  | [] => m
  | t :: ts => (m.transform t).state.transformAll ts

/-! ## Moving cells -/

theorem moves_mirror (width height : Nat) :
    Moves width height (fun x y => (width - x - 1, y)) fun x y => (width - 1 - x, y) where
  goal_mem := by
    rintro ⟨x, y⟩ ⟨hx, hy⟩
    exact ⟨by omega, hy⟩
  source_mem := by
    rintro ⟨x, y⟩ ⟨hx, hy⟩
    exact ⟨by omega, hy⟩
  source_goal := by
    rintro ⟨x, y⟩ ⟨hx, -⟩
    ext
    · show width - 1 - (width - x - 1) = x
      omega
    · rfl
  goal_source := by
    rintro ⟨x, y⟩ ⟨hx, -⟩
    ext
    · show width - (width - 1 - x) - 1 = x
      omega
    · rfl

theorem moves_turn (n : Nat) :
    Moves n n (fun x y => (n - y - 1, x)) fun x y => (y, n - 1 - x) where
  goal_mem := by
    rintro ⟨x, y⟩ ⟨hx, hy⟩
    exact ⟨by omega, hx⟩
  source_mem := by
    rintro ⟨x, y⟩ ⟨hx, hy⟩
    exact ⟨hy, by omega⟩
  source_goal := by
    rintro ⟨x, y⟩ ⟨-, hy⟩
    ext
    · rfl
    · show n - 1 - (n - y - 1) = y
      omega
  goal_source := by
    rintro ⟨x, y⟩ ⟨hx, -⟩
    ext
    · show n - (n - 1 - x) - 1 = x
      omega
    · rfl

theorem index?_mirrorX (m : MatrixMap width height) {x y : Nat} (hx : x < width)
    (hy : y < height) : m.mirrorX.index? x y = m.index? (width - 1 - x) y :=
  (moves_mirror width height).index?_carry m hx hy

/-- A square map, turned by a quarter. -/
def turned (m : MatrixMap n n) : MatrixMap n n := m.carry fun x y => (n - y - 1, x)

theorem index?_turned (m : MatrixMap n n) {x y : Nat} (hx : x < n) (hy : y < n) :
    m.turned.index? x y = m.index? y (n - 1 - x) :=
  (moves_turn n).index?_carry m hx hy

theorem transform_mirrorX (m : MatrixMap width height) :
    m.transform .mirrorX = .silent m.mirrorX (.ok ()) := rfl

theorem transform_rotate90 (m : MatrixMap n n) :
    m.transform .rotate90 = .silent m.turned (.ok ()) := by
  have square : m.rotate90 = .ok m.turned := if_pos rfl
  simp only [transform, square]

theorem transform_rotate90_of_ne (m : MatrixMap width height) (oblong : width ≠ height) :
    m.transform .rotate90 = .silent m (.error (.matrixNotSquare width height)) := by
  have refused : m.rotate90 = .error (.matrixNotSquare width height) := if_neg oblong
  simp only [transform, refused]

/-! ## Covered panels -/

/-- Every LED of the panel sits in one of its cells, and in no other. -/
def Covers (m : MatrixMap width height) : Prop :=
  Set.BijOn (fun p : Nat × Nat => m.index? p.1 p.2) (panel width height)
    (some '' Set.Iio (width * height))

/-- There is one cell for each LED. -/
theorem Covers.exists_cell {m : MatrixMap width height} (covers : m.Covers) {k : Nat}
    (inside : k < width * height) : ∃ p, ∀ x y, m.index? x y = some k ↔ (x, y) = p := by
  obtain ⟨p, here, led⟩ := covers.surjOn ⟨k, inside, rfl⟩
  refine ⟨p, fun x y => ⟨fun other => ?_, ?_⟩⟩
  · exact covers.injOn (mem_panel_of_index? other) here (other.trans led.symm)
  · rintro rfl
    exact led

theorem Covers.carry {m : MatrixMap width height} (covers : m.Covers)
    {goal source : Nat → Nat → Nat × Nat} (moves : Moves width height goal source) :
    (m.carry goal).Covers := by
  apply (covers.comp moves.bijOn_source).congr
  rintro ⟨x, y⟩ ⟨hx, hy⟩
  exact (moves.index?_carry m hx hy).symm

theorem Covers.transform {m : MatrixMap width height} (covers : m.Covers) (t : Transform) :
    (m.transform t).state.Covers := by
  cases t with
  | mirrorX => exact covers.carry (moves_mirror width height)
  | rotate90 =>
    by_cases square : width = height
    · subst square
      rw [transform_rotate90]
      exact covers.carry (moves_turn width)
    · rw [transform_rotate90_of_ne m square]
      exact covers

theorem Covers.transformAll {m : MatrixMap width height} (covers : m.Covers)
    (ts : List Transform) : (m.transformAll ts).Covers := by
  induction ts generalizing m with
  | nil => exact covers
  | cons t ts ih => exact ih (covers.transform t)

/-- How far along its row the LED of a cell is, if every other row turns back. -/
def along (width x y : Nat) : Nat := if y % 2 = 1 then width - 1 - x else x

theorem along_lt {x : Nat} (hx : x < width) (y : Nat) : along width x y < width := by
  unfold along
  split_ifs <;> omega

theorem along_along {x : Nat} (hx : x < width) (y : Nat) :
    along width (along width x y) y = x := by
  unfold along
  split_ifs
  · omega
  · rfl

theorem moves_along (width height : Nat) :
    Moves width height (fun x y => (along width x y, y)) fun x y => (along width x y, y) where
  goal_mem p hp := ⟨along_lt hp.1 p.2, hp.2⟩
  source_mem p hp := ⟨along_lt hp.1 p.2, hp.2⟩
  source_goal p hp := Prod.ext (along_along hp.1 p.2) rfl
  goal_source p hp := Prod.ext (along_along hp.1 p.2) rfl

/-- A panel is covered as it is wired. -/
theorem covers_wired (width height : Nat) (layout : Layout) :
    (wired width height layout).Covers := by
  have counted : Set.BijOn (fun p : Nat × Nat => some (width * p.2 + p.1)) (panel width height)
      (some '' Set.Iio (width * height)) :=
    ((Option.some_injective _).injOn.bijOn_image).comp (bijOn_rowMajor width height)
  cases layout with
  | normal =>
    apply counted.congr
    rintro ⟨x, y⟩ inside
    simp only [wired, index?_ofFn]
    exact (if_pos inside).symm
  | zigzag =>
    apply (counted.comp (moves_along width height).bijOn_source).congr
    rintro ⟨x, y⟩ inside
    have inside : x < width ∧ y < height := inside
    simp only [wired, index?_ofFn, Function.comp_apply, along]
    rw [if_pos inside]
    split_ifs <;> rfl

/-! ## The main statement -/

/-- However a map is mirrored and turned, it is a map of the whole panel: the cells of the panel,
and no others, have LEDs, each LED of the panel sits in exactly one of them, and no LED beyond the
panel in any.  A turn of a panel that is not square is refused with its two sides, and the map stays
as it is. -/
theorem cells_permuted (width height : Nat) (layout : Layout) (ts : List Transform) :
    let m := (wired width height layout).transformAll ts
    m.length = width * height ∧ m.cells.toList.length = m.length ∧
    (∀ x y, m.index? x y = none ↔ width ≤ x ∨ height ≤ y) ∧
    Set.BijOn (fun p : Nat × Nat => m.index? p.1 p.2) {p | p.1 < width ∧ p.2 < height}
      (some '' Set.Iio (width * height)) ∧
    ((m.transform .rotate90).result =
      if width = height then .ok () else .error (.matrixNotSquare width height)) ∧
    (width ≠ height → (m.transform .rotate90).state = m) := by
  intro m
  refine ⟨rfl, Vector.length_toList, m.index?_eq_none_iff,
    (covers_wired width height layout).transformAll ts, ?_, fun oblong => ?_⟩
  · split_ifs with square
    · subst square
      rw [transform_rotate90]
      rfl
    · rw [transform_rotate90_of_ne m square]
      rfl
  · rw [transform_rotate90_of_ne m oblong]
    rfl

/-- A panel of three columns and two rows that turn back, mirrored: it cannot be turned. -/
theorem cells_permuted_oblong :
    let m := (wired 3 2 .zigzag).transformAll [.mirrorX, .rotate90]
    3 ≠ 2 ∧ (m.transform .rotate90).state = m ∧ m.rows = [[2, 1, 0], [3, 4, 5]] := by
  intro m
  have oblong : 3 ≠ 2 := by decide
  obtain ⟨-, -, -, -, -, refused⟩ := cells_permuted 3 2 .zigzag [.mirrorX, .rotate90]
  exact ⟨oblong, refused oblong, by decide⟩

end LedStrip.MatrixMap
