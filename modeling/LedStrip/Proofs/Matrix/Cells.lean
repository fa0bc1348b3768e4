import LedStrip.Matrix.Map
import Mathlib.Data.Set.Function
import Mathlib.Order.Interval.Set.Basic

/-!
# The cells of a panel

Counting row by row numbers the cells of a panel without gaps (`bijOn_rowMajor`).  A map that is
written cell by cell at other places has the same LEDs there, as long as no two cells go to one
place (`Moves.index?_carry`).
-/

namespace LedStrip.MatrixMap

variable {width height : Nat}

/-- The cells of a panel. -/
def panel (width height : Nat) : Set (Nat × Nat) := {p | p.1 < width ∧ p.2 < height}

/-! ## Counting row by row -/

theorem rowMajor_lt {x y : Nat} (hx : x < width) (hy : y < height) :
    width * y + x < width * height := by
  calc width * y + x < width * y + width := by omega
    _ = width * (y + 1) := (Nat.mul_succ ..).symm
    _ ≤ width * height := Nat.mul_le_mul_left _ hy

theorem mod_div_mem_panel {i : Nat} (h : i < width * height) :
    (i % width, i / width) ∈ panel width height := by
  have positive : 0 < width := Nat.pos_of_mul_pos_right (Nat.zero_lt_of_lt h)
  exact ⟨Nat.mod_lt _ positive, Nat.div_lt_of_lt_mul h⟩

theorem rowMajor_mod_div {x y : Nat} (hx : x < width) :
    (width * y + x) % width = x ∧ (width * y + x) / width = y := by
  have positive : 0 < width := Nat.zero_lt_of_lt hx
  rw [Nat.mul_add_mod, Nat.mod_eq_of_lt hx, Nat.mul_add_div positive, Nat.div_eq_of_lt hx]
  exact ⟨rfl, rfl⟩

theorem rowMajor_inj {x y x' y' : Nat} (hx : x < width) (hx' : x' < width)
    (same : width * y + x = width * y' + x') : x = x' ∧ y = y' := by
  obtain ⟨mod, div⟩ := rowMajor_mod_div (y := y) hx
  obtain ⟨mod', div'⟩ := rowMajor_mod_div (y := y') hx'
  rw [same] at mod div
  exact ⟨mod.symm.trans mod', div.symm.trans div'⟩

/-- Row by row the cells are counted without gaps. -/
theorem bijOn_rowMajor (width height : Nat) :
    Set.BijOn (fun p : Nat × Nat => width * p.2 + p.1) (panel width height)
      (Set.Iio (width * height)) := by
  have inverse : Set.InvOn (fun i => (i % width, i / width))
      (fun p : Nat × Nat => width * p.2 + p.1) (panel width height) (Set.Iio (width * height)) := by
    constructor
    · rintro ⟨x, y⟩ ⟨hx, -⟩
      obtain ⟨mod, div⟩ := rowMajor_mod_div (y := y) hx
      exact Prod.ext mod div
    · intro i _
      exact Nat.div_add_mod i width
  apply inverse.bijOn
  · rintro ⟨x, y⟩ ⟨hx, hy⟩
    exact rowMajor_lt hx hy
  · intro i h
    exact mod_div_mem_panel h

/-! ## Reading a map -/

theorem index?_of_mem (m : MatrixMap width height) {x y : Nat} (hx : x < width)
    (hy : y < height) :
    m.index? x y = some (m.cells.get ⟨width * y + x, rowMajor_lt hx hy⟩) := by
  rw [index?, if_pos ⟨hx, hy⟩, Vector.getElem?_eq_getElem (rowMajor_lt hx hy)]
  rfl

theorem index?_eq_none_iff (m : MatrixMap width height) (x y : Nat) :
    m.index? x y = none ↔ width ≤ x ∨ height ≤ y := by
  constructor
  · intro h
    by_contra inside
    rw [m.index?_of_mem (by omega) (by omega)] at h
    cases h
  · intro outside
    rw [index?, if_neg (by omega)]

theorem mem_panel_of_index? {m : MatrixMap width height} {x y i : Nat}
    (led : m.index? x y = some i) : (x, y) ∈ panel width height := by
  have inside : ¬(width ≤ x ∨ height ≤ y) := by
    rw [← m.index?_eq_none_iff, led]
    exact Option.some_ne_none i
  exact ⟨by omega, by omega⟩

theorem ext_index? {m m' : MatrixMap width height}
    (h : ∀ p ∈ panel width height, m.index? p.1 p.2 = m'.index? p.1 p.2) : m = m' := by
  obtain ⟨cells⟩ := m
  obtain ⟨cells'⟩ := m'
  congr 1
  apply Vector.ext
  intro i hi
  have inside := mod_div_mem_panel hi
  have same := h _ inside
  rw [index?_of_mem _ inside.1 inside.2, index?_of_mem _ inside.1 inside.2] at same
  have cell : width * (i / width) + i % width = i := Nat.div_add_mod i width
  simp only [cell] at same
  exact Option.some.inj same

/-! ## Writing cell by cell -/

/-- Values written at different places are all there in the end. -/
theorem getElem?_foldl_setIfInBounds {α : Type} {n : Nat} (f : Fin n → α) {place : Fin n → Nat}
    (apart : Function.Injective place) (is : List (Fin n)) (cells : Vector α n) {i : Fin n}
    (inside : place i < n) (written : i ∈ is ∨ cells[place i]? = some (f i)) :
    (is.foldl (fun cells i => cells.setIfInBounds (place i) (f i)) cells)[place i]? =
      some (f i) := by
  induction is generalizing cells with
  | nil => simpa using written
  | cons j is ih =>
    apply ih
    by_cases h : j = i
    · right
      rw [h, Vector.getElem?_setIfInBounds, if_pos rfl, if_pos inside]
    · have elsewhere : place j ≠ place i := fun e => h (apart e)
      rw [Vector.getElem?_setIfInBounds, if_neg elsewhere]
      simpa [Ne.symm h] using written

/-- Cells go to `goal` and come from `source`, each other's inverse on a panel. -/
structure Moves (width height : Nat) (goal source : Nat → Nat → Nat × Nat) : Prop where
  goal_mem : ∀ p ∈ panel width height, goal p.1 p.2 ∈ panel width height
  source_mem : ∀ p ∈ panel width height, source p.1 p.2 ∈ panel width height
  source_goal : ∀ p ∈ panel width height, source (goal p.1 p.2).1 (goal p.1 p.2).2 = p
  goal_source : ∀ p ∈ panel width height, goal (source p.1 p.2).1 (source p.1 p.2).2 = p

variable {goal source : Nat → Nat → Nat × Nat}

theorem Moves.bijOn_source (moves : Moves width height goal source) :
    Set.BijOn (fun p : Nat × Nat => source p.1 p.2) (panel width height) (panel width height) := by
  have inverse : Set.InvOn (fun p : Nat × Nat => goal p.1 p.2) (fun p => source p.1 p.2)
      (panel width height) (panel width height) := ⟨moves.goal_source, moves.source_goal⟩
  exact inverse.bijOn moves.source_mem moves.goal_mem

/-- Where a cell goes to, both counted row by row. -/
def place (width : Nat) (goal : Nat → Nat → Nat × Nat) (i : Nat) : Nat :=
  width * (goal (i % width) (i / width)).2 + (goal (i % width) (i / width)).1

theorem place_rowMajor (goal : Nat → Nat → Nat × Nat) {x : Nat} (hx : x < width) (y : Nat) :
    place width goal (width * y + x) = width * (goal x y).2 + (goal x y).1 := by
  obtain ⟨mod, div⟩ := rowMajor_mod_div (y := y) hx
  rw [place, mod, div]

theorem Moves.place_injective (moves : Moves width height goal source) :
    Function.Injective fun i : Fin (width * height) => place width goal i.val := by
  intro i j same
  have mem_i := mod_div_mem_panel i.isLt
  have mem_j := mod_div_mem_panel j.isLt
  have goals := (bijOn_rowMajor width height).injOn (moves.goal_mem _ mem_i)
    (moves.goal_mem _ mem_j) same
  have cells : (i.val % width, i.val / width) = (j.val % width, j.val / width) := by
    rw [← moves.source_goal _ mem_i, ← moves.source_goal _ mem_j, goals]
  obtain ⟨mod, div⟩ := Prod.mk.inj cells
  apply Fin.ext
  rw [← Nat.div_add_mod i.val width, ← Nat.div_add_mod j.val width, mod, div]

/-- The LED of a cell sits where the cell goes to. -/
theorem Moves.index?_carry_goal (moves : Moves width height goal source)
    (m : MatrixMap width height) {x y : Nat} (hx : x < width) (hy : y < height) :
    (m.carry goal).index? (goal x y).1 (goal x y).2 = m.index? x y := by
  obtain ⟨hx', hy'⟩ := moves.goal_mem (x, y) ⟨hx, hy⟩
  have goes := place_rowMajor goal hx y
  have lands : place width goal (width * y + x) < width * height := by
    rw [goes]
    exact rowMajor_lt hx' hy'
  have written := getElem?_foldl_setIfInBounds m.cells.get moves.place_injective
    (List.finRange (width * height)) (.replicate _ 0)
    (i := ⟨width * y + x, rowMajor_lt hx hy⟩) lands (.inl (List.mem_finRange _))
  rw [goes] at written
  rw [m.index?_of_mem hx hy, ← written, index?, if_pos ⟨hx', hy'⟩, carry,
    Fin.foldl_eq_finRange_foldl]
  rfl

/-- A cell has the LED of the cell that it comes from. -/
theorem Moves.index?_carry (moves : Moves width height goal source)
    (m : MatrixMap width height) {x y : Nat} (hx : x < width) (hy : y < height) :
    (m.carry goal).index? x y = m.index? (source x y).1 (source x y).2 := by
  obtain ⟨hx', hy'⟩ := moves.source_mem (x, y) ⟨hx, hy⟩
  have carried := moves.index?_carry_goal m hx' hy'
  rw [moves.goal_source (x, y) ⟨hx, hy⟩] at carried
  exact carried

end LedStrip.MatrixMap
