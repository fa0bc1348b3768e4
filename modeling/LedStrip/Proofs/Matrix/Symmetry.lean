import LedStrip.Proofs.Matrix.Transforms
import Mathlib.GroupTheory.SpecificGroups.Dihedral

/-!
# The symmetries of a square panel

Mirrors and quarter turns of a square panel move its cells like the symmetries of a square
(`cellSymmetry`), so what they make of a map depends only on the symmetry that they make together
(`index?_transformAll`).  On a panel of two columns or more different symmetries make different maps
(`cellSymmetry_injective`).
-/

namespace LedStrip.MatrixMap

open DihedralGroup

/-- The symmetry of the square that a transform stands for. -/
def Transform.symmetry : Transform → DihedralGroup 4
  | .mirrorX => sr 0
  | .rotate90 => r 1

/-- The symmetry that transforms make together. -/
def symmetry (ts : List Transform) : DihedralGroup 4 := (ts.map Transform.symmetry).prod

/-! ## Moving the cells of a square -/

variable {n : Nat}

def mirrorCells (n : Nat) : Equiv.Perm (Fin n × Fin n) where
  toFun p := (p.1.rev, p.2)
  invFun p := (p.1.rev, p.2)
  left_inv p := by simp
  right_inv p := by simp

def turnCells (n : Nat) : Equiv.Perm (Fin n × Fin n) where
  toFun p := (p.2, p.1.rev)
  invFun p := (p.2.rev, p.1)
  left_inv p := by simp
  right_inv p := by simp

theorem mirrorCells_apply (p : Fin n × Fin n) : mirrorCells n p = (p.1.rev, p.2) := rfl

theorem turnCells_apply (p : Fin n × Fin n) : turnCells n p = (p.2, p.1.rev) := rfl

theorem mirrorCells_mul_self (n : Nat) : mirrorCells n * mirrorCells n = 1 := by
  ext p <;> simp [mirrorCells_apply]

theorem turnCells_pow_four (n : Nat) : turnCells n ^ 4 = 1 := by
  ext p <;> simp [pow_succ, turnCells_apply]

theorem turnCells_mul_mirrorCells (n : Nat) :
    turnCells n * mirrorCells n = mirrorCells n * turnCells n ^ 3 := by
  ext p <;> simp [pow_succ, turnCells_apply, mirrorCells_apply]

/-- A mirror turns every quarter turn behind it into three. -/
theorem turnCells_pow_mul_mirrorCells (n k : Nat) :
    turnCells n ^ k * mirrorCells n = mirrorCells n * turnCells n ^ (3 * k) := by
  induction k with
  | zero => simp
  | succ k ih =>
    calc turnCells n ^ (k + 1) * mirrorCells n
        = turnCells n ^ k * (turnCells n * mirrorCells n) := by rw [pow_succ, mul_assoc]
      _ = turnCells n ^ k * mirrorCells n * turnCells n ^ 3 := by
          rw [turnCells_mul_mirrorCells, mul_assoc]
      _ = mirrorCells n * (turnCells n ^ (3 * k) * turnCells n ^ 3) := by rw [ih, mul_assoc]
      _ = mirrorCells n * turnCells n ^ (3 * (k + 1)) := by rw [← pow_add, Nat.mul_succ]

theorem turnCells_pow_val {i : ZMod 4} {k : Nat} (h : i.val = k % 4) :
    turnCells n ^ i.val = turnCells n ^ k := by
  rw [h, ← pow_eq_pow_mod k (turnCells_pow_four n)]

/-- Where a symmetry takes the cells of a square. -/
def moveCells (n : Nat) : DihedralGroup 4 → Equiv.Perm (Fin n × Fin n)
  | r i => turnCells n ^ i.val
  | sr i => mirrorCells n * turnCells n ^ i.val

theorem moveCells_mul (g h : DihedralGroup 4) :
    moveCells n (g * h) = moveCells n g * moveCells n h := by
  cases g with
  | r i =>
    cases h with
    | r j =>
      rw [r_mul_r, moveCells, moveCells, moveCells, ← pow_add]
      exact turnCells_pow_val (ZMod.val_add i j)
    | sr j =>
      have val : (j - i).val = (3 * i.val + j.val) % 4 := by decide +revert
      rw [r_mul_sr, moveCells, moveCells, moveCells, turnCells_pow_val val, ← mul_assoc,
        turnCells_pow_mul_mirrorCells, mul_assoc, ← pow_add]
  | sr i =>
    cases h with
    | r j =>
      rw [sr_mul_r, moveCells, moveCells, moveCells, mul_assoc, ← pow_add,
        turnCells_pow_val (ZMod.val_add i j)]
    | sr j =>
      have val : (j - i).val = (3 * i.val + j.val) % 4 := by decide +revert
      rw [sr_mul_sr, moveCells, moveCells, moveCells, turnCells_pow_val val, mul_assoc,
        ← mul_assoc (turnCells n ^ i.val), turnCells_pow_mul_mirrorCells, mul_assoc, ← mul_assoc,
        mirrorCells_mul_self, one_mul, ← pow_add]

/-- The symmetries of the square as permutations of the cells of a square panel. -/
def cellSymmetry (n : Nat) : DihedralGroup 4 →* Equiv.Perm (Fin n × Fin n) :=
  MonoidHom.mk' (moveCells n) moveCells_mul

/-- On a panel of two columns or more, only the identity leaves all cells in place.  Two corners
show it: the first one stays only under the identity and the diagonal, the second one tells these
apart. -/
theorem cellSymmetry_injective (large : 2 ≤ n) : Function.Injective (cellSymmetry n) := by
  rw [injective_iff_map_eq_one]
  intro g fixed
  obtain ⟨a, apart⟩ : ∃ a : Fin n, a.rev ≠ a := by
    refine ⟨⟨0, by omega⟩, fun h => ?_⟩
    have := congrArg Fin.val h
    simp only [Fin.val_rev] at this
    omega
  have first : moveCells n g (a, a) = (a, a) := congrArg (fun e => e (a, a)) fixed
  have second : moveCells n g (a, a.rev) = (a, a.rev) := congrArg (fun e => e (a, a.rev)) fixed
  cases g with
  | r i =>
    have lt := ZMod.val_lt i
    simp only [moveCells] at first second
    interval_cases val : i.val
    · rw [(ZMod.val_eq_zero i).1 val]
      rfl
    all_goals simp [pow_succ, turnCells_apply, apart] at first second
  | sr i =>
    have lt := ZMod.val_lt i
    simp only [moveCells] at first second
    interval_cases val : i.val
    all_goals simp [pow_succ, turnCells_apply, mirrorCells_apply, apart] at first second

/-! ## Maps of a square -/

theorem index?_transform (m : MatrixMap n n) (t : Transform) (p : Fin n × Fin n) :
    (m.transform t).state.index? p.1 p.2 =
      m.index? (cellSymmetry n t.symmetry p).1 (cellSymmetry n t.symmetry p).2 := by
  obtain ⟨x, y⟩ := p
  have rev : n - 1 - x.val = x.rev.val := by
    rw [Fin.val_rev]
    omega
  cases t with
  | mirrorX =>
    rw [transform_mirrorX]
    refine (m.index?_mirrorX x.isLt y.isLt).trans ?_
    rw [rev]
    rfl
  | rotate90 =>
    rw [transform_rotate90]
    refine (m.index?_turned x.isLt y.isLt).trans ?_
    rw [rev]
    rfl

/-- Transforms take the LEDs where the symmetry that they make together takes the cells. -/
theorem index?_transformAll (m : MatrixMap n n) (ts : List Transform) (p : Fin n × Fin n) :
    (m.transformAll ts).index? p.1 p.2 =
      m.index? (cellSymmetry n (symmetry ts) p).1 (cellSymmetry n (symmetry ts) p).2 := by
  induction ts generalizing m with
  | nil =>
    have identity : cellSymmetry n (symmetry []) = 1 := map_one _
    rw [identity]
    rfl
  | cons t ts ih =>
    have product : symmetry (t :: ts) = t.symmetry * symmetry ts := List.prod_cons
    rw [product, map_mul, Equiv.Perm.mul_apply, ← index?_transform]
    exact ih (m.transform t).state

theorem transformAll_congr (m : MatrixMap n n) {ts us : List Transform}
    (same : symmetry ts = symmetry us) : m.transformAll ts = m.transformAll us := by
  apply ext_index?
  rintro ⟨x, y⟩ ⟨hx, hy⟩
  have left := m.index?_transformAll ts (⟨x, hx⟩, ⟨y, hy⟩)
  rw [same, ← m.index?_transformAll us (⟨x, hx⟩, ⟨y, hy⟩)] at left
  exact left

/-- A map that covers its panel tells all symmetries apart. -/
theorem Covers.symmetry_eq {m : MatrixMap n n} (covers : m.Covers) (large : 2 ≤ n)
    {ts us : List Transform} (same : m.transformAll ts = m.transformAll us) :
    symmetry ts = symmetry us := by
  apply cellSymmetry_injective large
  apply Equiv.ext
  intro p
  have led := m.index?_transformAll ts p
  rw [same, m.index?_transformAll us p] at led
  have inside (q : Fin n × Fin n) : (q.1.val, q.2.val) ∈ panel n n := ⟨q.1.isLt, q.2.isLt⟩
  have cells := covers.injOn (inside _) (inside _) led
  obtain ⟨column, row⟩ := Prod.mk.inj cells
  exact (Prod.ext (Fin.ext column) (Fin.ext row)).symm

/-! ## Maps that are not square -/

section

variable {width height : Nat}

theorem mirrorX_mirrorX (m : MatrixMap width height) : m.mirrorX.mirrorX = m := by
  apply ext_index?
  rintro ⟨x, y⟩ ⟨hx, hy⟩
  show m.mirrorX.mirrorX.index? x y = m.index? x y
  have back : width - 1 - (width - 1 - x) = x := by
    simp only at hx
    omega
  rw [m.mirrorX.index?_mirrorX hx hy, m.index?_mirrorX (by simp only at hx; omega) hy, back]

/-- Only the number of mirrors matters for a panel that cannot be turned. -/
theorem transformAll_of_ne (oblong : width ≠ height) (m : MatrixMap width height)
    (ts : List Transform) :
    m.transformAll ts = if ts.count .mirrorX % 2 = 0 then m else m.mirrorX := by
  induction ts generalizing m with
  | nil => rfl
  | cons t ts ih =>
    rw [transformAll]
    cases t with
    | mirrorX =>
      rw [transform_mirrorX, Step.silent, ih, mirrorX_mirrorX, List.count_cons_self]
      split_ifs <;> first | rfl | omega
    | rotate90 =>
      rw [transform_rotate90_of_ne m oblong, Step.silent, ih, List.count_cons_of_ne (by decide)]

end

/-! ## The main statement -/

/-- Mirrors and quarter turns act on the maps of a square panel as the symmetries of the square do,
for `sr 0` and `r 1` generate these.  Transforms that make the same symmetry make the same map of
whatever map there was, those that make different ones make different maps if there are at least two
columns.  A quarter turn goes clockwise.  A panel that is not square is mirrored or not, as often as
the number of mirrors is odd or even, and never turned. -/
theorem transforms_dihedral (layout : Layout) (earlier : List Transform) :
    (∀ (n : Nat) (ts us : List Transform),
      let m := (wired n n layout).transformAll earlier
      (symmetry ts = symmetry us → m.transformAll ts = m.transformAll us) ∧
      (2 ≤ n → symmetry ts ≠ symmetry us → m.transformAll ts ≠ m.transformAll us) ∧
      (m.transform .rotate90).result = .ok () ∧
      ∀ x y, x < n → y < n →
        (m.transform .rotate90).state.index? x y = m.index? y (n - 1 - x) ∧
        (m.transform .mirrorX).state.index? x y = m.index? (n - 1 - x) y) ∧
    ∀ (width height : Nat) (ts : List Transform), width ≠ height →
      let m := (wired width height layout).transformAll earlier
      m.transformAll ts = if ts.count .mirrorX % 2 = 0 then m else m.mirrorX := by
  refine ⟨fun n ts us => ?_, fun width height ts oblong => transformAll_of_ne oblong _ ts⟩
  intro m
  have covers : m.Covers := (covers_wired n n layout).transformAll earlier
  refine ⟨m.transformAll_congr, fun large different same => ?_, ?_, fun x y hx hy => ⟨?_, ?_⟩⟩
  · exact different (covers.symmetry_eq large same)
  · rw [transform_rotate90]
    rfl
  · rw [transform_rotate90]
    exact m.index?_turned hx hy
  · rw [transform_mirrorX]
    exact m.index?_mirrorX hx hy

/-- A quarter turn between two mirrors is three quarter turns, and a mirror before a turn is not one
behind it.  On a panel of three columns and two rows two mirrors around a turn do nothing. -/
theorem transforms_dihedral_small :
    symmetry [.mirrorX, .rotate90, .mirrorX] = symmetry [.rotate90, .rotate90, .rotate90] ∧
    (wired 2 2 .zigzag).transformAll [.mirrorX, .rotate90, .mirrorX] =
      (wired 2 2 .zigzag).transformAll [.rotate90, .rotate90, .rotate90] ∧
    symmetry [.mirrorX, .rotate90] ≠ symmetry [.rotate90, .mirrorX] ∧ 2 ≤ 2 ∧
    (wired 2 2 .zigzag).transformAll [.mirrorX, .rotate90] ≠
      (wired 2 2 .zigzag).transformAll [.rotate90, .mirrorX] ∧
    0 < 2 ∧ 1 < 2 ∧
    ((wired 2 2 .zigzag).transform .rotate90).state.index? 1 0 = some 0 ∧ 3 ≠ 2 ∧
    (wired 3 2 .zigzag).transformAll [.mirrorX, .rotate90, .mirrorX] = wired 3 2 .zigzag := by
  obtain ⟨square, oblong⟩ := transforms_dihedral .zigzag []
  have same : symmetry [.mirrorX, .rotate90, .mirrorX] =
      symmetry [.rotate90, .rotate90, .rotate90] := by decide
  have different : symmetry [.mirrorX, .rotate90] ≠ symmetry [.rotate90, .mirrorX] := by decide
  obtain ⟨equal, -⟩ := square 2 [.mirrorX, .rotate90, .mirrorX] [.rotate90, .rotate90, .rotate90]
  obtain ⟨-, apart, -, turn⟩ := square 2 [.mirrorX, .rotate90] [.rotate90, .mirrorX]
  exact ⟨same, equal same, different, by decide, apart (by decide) different, by decide, by decide,
    (turn 1 0 (by decide) (by decide)).1, by decide, oblong 3 2 _ (by decide)⟩

end LedStrip.MatrixMap
