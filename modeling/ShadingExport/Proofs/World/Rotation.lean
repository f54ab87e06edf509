import ShadingExport.Matrix
import Mathlib.LinearAlgebra.Matrix.Determinant.Basic
import Mathlib.LinearAlgebra.Matrix.Notation
import Mathlib.Algebra.Field.Rat
import Mathlib.Tactic.FinCases
import Mathlib.Tactic.LinearCombination

/-!
# The rotation of an environment map

Over a commutative ring the rotation of three turns (`Matrix.rotation`) is the product of the turns
about the third, the second and the first axis. Each of these is a proper rotation in homogeneous
coordinates (`IsRotation`) as soon as the squares of its sine and its cosine add up to one, and a
product of proper rotations is one (`IsRotation.mul`). So the whole is a proper rotation, for any
three turns (`Turn.isRotation_rotation`).
-/

/-- Square matrices as functions of row and column. -/
abbrev SquareMatrix (n : Nat) (R : Type) := Matrix (Fin n) (Fin n) R

namespace ShadingExport

/-! ## Matrices by row and column -/

/-- The entries of a matrix by row and column. -/
def Matrix.square {R : Type} (matrix : Matrix R) : SquareMatrix 4 R :=
  !![matrix.first.x, matrix.first.y, matrix.first.z, matrix.first.w;
    matrix.second.x, matrix.second.y, matrix.second.z, matrix.second.w;
    matrix.third.x, matrix.third.y, matrix.third.z, matrix.third.w;
    matrix.fourth.x, matrix.fourth.y, matrix.fourth.z, matrix.fourth.w]

/-- The entry of a row and a column is the one at four times the row plus the column. -/
theorem Matrix.getElem?_rowMajor {R : Type} (matrix : Matrix R) (row column : Fin 4) :
    matrix.rowMajor[4 * row.val + column.val]? = some (matrix.square row column) := by
  fin_cases row <;> fin_cases column <;> rfl

variable {R : Type} [CommRing R]

/-! ## Proper rotations in homogeneous coordinates -/

/-- The part of a matrix that acts on the three coordinates of space. -/
def linearPart (matrix : SquareMatrix 4 R) : SquareMatrix 3 R :=
  matrix.submatrix Fin.castSucc Fin.castSucc

/-- A proper rotation in homogeneous coordinates: the linear part is orthogonal with determinant
one, and the last row and the last column are those of the identity. -/
structure IsRotation (matrix : SquareMatrix 4 R) : Prop where
  /-- The transpose undoes the linear part. -/
  mul_transpose : linearPart matrix * (linearPart matrix).transpose = 1
  /-- The linear part keeps the orientation. -/
  det : (linearPart matrix).det = 1
  /-- The last row is that of the identity. -/
  row : ∀ column, matrix (Fin.last 3) column = (1 : SquareMatrix 4 R) (Fin.last 3) column
  /-- The last column is that of the identity. -/
  column : ∀ row, matrix row (Fin.last 3) = (1 : SquareMatrix 4 R) row (Fin.last 3)

variable {first second : SquareMatrix 4 R}

/-- The linear part of a product is the product of the linear parts. -/
theorem linearPart_mul (h : IsRotation second) :
    linearPart (first * second) = linearPart first * linearPart second := by
  ext row column
  -- The fourth term of the sum vanishes with the last row of the second factor.
  have hlast : second (Fin.last 3) column.castSucc = 0 := by
    rw [h.row, Matrix.one_apply_ne (Fin.castSucc_lt_last column).ne']
  simp only [linearPart, Matrix.submatrix_apply, Matrix.mul_apply]
  rw [Fin.sum_univ_castSucc, hlast, mul_zero, add_zero]

/-- **Proper rotations multiply.** -/
theorem IsRotation.mul (hfirst : IsRotation first) (hsecond : IsRotation second) :
    IsRotation (first * second) where
  mul_transpose := by
    rw [linearPart_mul hsecond, Matrix.transpose_mul, mul_assoc, ← mul_assoc (linearPart second),
      hsecond.mul_transpose, one_mul, hfirst.mul_transpose]
  det := by rw [linearPart_mul hsecond, Matrix.det_mul, hfirst.det, hsecond.det, one_mul]
  row := by
    intro column
    calc (first * second) (Fin.last 3) column
        = ((1 : SquareMatrix 4 R) * second) (Fin.last 3) column := by
          simp only [Matrix.mul_apply, hfirst.row]
      _ = (1 : SquareMatrix 4 R) (Fin.last 3) column := by rw [one_mul, hsecond.row]
  column := by
    intro row
    calc (first * second) row (Fin.last 3)
        = (first * (1 : SquareMatrix 4 R)) row (Fin.last 3) := by
          simp only [Matrix.mul_apply, hsecond.column]
      _ = (1 : SquareMatrix 4 R) row (Fin.last 3) := by rw [mul_one, hfirst.column]

/-! ## Turns about the axes -/

/-- An axis of space. -/
inductive Axis where
  /-- The first axis. -/
  | first
  /-- The second axis. -/
  | second
  /-- The third axis. -/
  | third

namespace Turn

/-- The turn about an axis: of the two others, the one that follows the axis cyclically turns
towards the one after that. -/
def about (turn : Turn R) : Axis → SquareMatrix 4 R
  | .first =>
    !![1, 0, 0, 0;
      0, turn.cosine, -turn.sine, 0;
      0, turn.sine, turn.cosine, 0;
      0, 0, 0, 1]
  | .second =>
    !![turn.cosine, 0, turn.sine, 0;
      0, 1, 0, 0;
      -turn.sine, 0, turn.cosine, 0;
      0, 0, 0, 1]
  | .third =>
    !![turn.cosine, -turn.sine, 0, 0;
      turn.sine, turn.cosine, 0, 0;
      0, 0, 1, 0;
      0, 0, 0, 1]

/-- **A turn about an axis is a proper rotation.** -/
theorem isRotation_about {turn : Turn R} (h : turn.sine ^ 2 + turn.cosine ^ 2 = 1) (axis : Axis) :
    IsRotation (turn.about axis) where
  mul_transpose := by
    ext row column
    cases axis <;> fin_cases row <;> fin_cases column <;>
      simp [linearPart, about, Matrix.mul_apply, Fin.sum_univ_three] <;> grind
  det := by
    have hsquares : turn.cosine * turn.cosine + turn.sine * turn.sine = 1 := by
      linear_combination h
    cases axis <;> simpa [linearPart, about, Matrix.det_fin_three] using hsquares
  row := by
    intro column
    cases axis <;> fin_cases column <;> rfl
  column := by
    intro row
    cases axis <;> fin_cases row <;> rfl

/-- **The rotation of three turns is their product**, the turn about the first axis first. -/
theorem square_rotation (x y z : Turn R) :
    (Matrix.rotation x y z).square = z.about .third * y.about .second * x.about .first := by
  ext row column
  fin_cases row <;> fin_cases column <;>
    simp [Matrix.square, Matrix.rotation, about, Matrix.mul_apply, Fin.sum_univ_four] <;> ring

/-- **The rotation of an environment map is a proper rotation.** The angles enter through their
sines and cosines alone. Over every commutative ring, and for any three turns with squares that add
up to one, the rotation is the product of the turns about the third, the second and the first axis,
and a proper rotation in homogeneous coordinates. Written out, the entry of a row and a column
stands at four times the row plus the column. -/
theorem isRotation_rotation {x y z : Turn R} (hx : x.sine ^ 2 + x.cosine ^ 2 = 1)
    (hy : y.sine ^ 2 + y.cosine ^ 2 = 1) (hz : z.sine ^ 2 + z.cosine ^ 2 = 1) :
    (∀ a b c : Float, Matrix.ofEulerAngles a b c =
        Matrix.rotation ⟨a.sin, a.cos⟩ ⟨b.sin, b.cos⟩ ⟨c.sin, c.cos⟩) ∧
      (Matrix.rotation x y z).square = z.about .third * y.about .second * x.about .first ∧
      IsRotation (Matrix.rotation x y z).square ∧
      ∀ (S : Type) (matrix : Matrix S), matrix.rowMajor.length = 16 ∧
        ∀ row column : Fin 4,
          matrix.rowMajor[4 * row.val + column.val]? = some (matrix.square row column) := by
  refine ⟨fun _ _ _ => rfl, square_rotation x y z, ?_,
    fun _ matrix => ⟨matrix.length_rowMajor, matrix.getElem?_rowMajor⟩⟩
  rw [square_rotation]
  exact ((isRotation_about hz .third).mul (isRotation_about hy .second)).mul
    (isRotation_about hx .first)

/-- Three turns by angles of right triangles, one of them backwards. -/
theorem isRotation_rotation_triangles :
    let x : Turn ℚ := ⟨3 / 5, 4 / 5⟩
    let y : Turn ℚ := ⟨-5 / 13, 12 / 13⟩
    let z : Turn ℚ := ⟨15 / 17, 8 / 17⟩
    (x.sine ^ 2 + x.cosine ^ 2 = 1 ∧ y.sine ^ 2 + y.cosine ^ 2 = 1 ∧
        z.sine ^ 2 + z.cosine ^ 2 = 1) ∧
      IsRotation (Matrix.rotation x y z).square ∧
      (z.about .third * y.about .second * x.about .first) 2 0 = 5 / 13 := by
  intro x y z
  have hx : x.sine ^ 2 + x.cosine ^ 2 = 1 := by norm_num [x]
  have hy : y.sine ^ 2 + y.cosine ^ 2 = 1 := by norm_num [y]
  have hz : z.sine ^ 2 + z.cosine ^ 2 = 1 := by norm_num [z]
  obtain ⟨-, hproduct, hrotation, -⟩ := isRotation_rotation hx hy hz
  refine ⟨⟨hx, hy, hz⟩, hrotation, ?_⟩
  rw [← hproduct]
  change -(-5 / 13 : ℚ) = 5 / 13
  norm_num

end Turn

end ShadingExport
