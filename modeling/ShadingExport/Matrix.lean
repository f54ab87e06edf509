/-!
# Homogeneous matrices and rotations

A `Matrix R` is a four by four matrix, row by row. `Matrix.rotation` is the homogeneous rotation
that turns about the first axis, then about the second, then about the third. It is given the sine
and the cosine of each angle and uses only ring operations, so that it makes sense over every ring
and its entries can be compared with products of elementary rotations.
-/

namespace ShadingExport

/-- A row of a four by four matrix. -/
structure Row (R : Type) where
  /-- The first entry. -/
  x : R
  /-- The second entry. -/
  y : R
  /-- The third entry. -/
  z : R
  /-- The fourth entry. -/
  w : R
  deriving DecidableEq, Repr

/-- A four by four matrix. -/
structure Matrix (R : Type) where
  /-- The first row. -/
  first : Row R
  /-- The second row. -/
  second : Row R
  /-- The third row. -/
  third : Row R
  /-- The fourth row. -/
  fourth : Row R
  deriving DecidableEq, Repr

/-- A turn about an axis: the sine and the cosine of its angle. -/
structure Turn (R : Type) where
  /-- The sine of the angle. -/
  sine : R
  /-- The cosine of the angle. -/
  cosine : R
  deriving DecidableEq, Repr

/-- The turn by an angle in radians. -/
def Turn.ofAngle (angle : Float) : Turn Float :=
  ⟨angle.sin, angle.cos⟩

namespace Row

variable {R : Type}

/-- The entries from left to right. -/
def entries (row : Row R) : List R :=
  [row.x, row.y, row.z, row.w]

@[simp] theorem length_entries (row : Row R) : row.entries.length = 4 := rfl

end Row

namespace Matrix

variable {R : Type}

/-- The rows from top to bottom. -/
def rows (matrix : Matrix R) : List (Row R) :=
  [matrix.first, matrix.second, matrix.third, matrix.fourth]

/-- All sixteen entries, row by row. -/
def rowMajor (matrix : Matrix R) : List R :=
  matrix.rows.flatMap Row.entries

@[simp] theorem length_rows (matrix : Matrix R) : matrix.rows.length = 4 := rfl

@[simp] theorem length_rowMajor (matrix : Matrix R) : matrix.rowMajor.length = 16 := rfl

/-- The rotation that turns by `x` about the first axis, then by `y` about the second and by `z`
about the third. -/
def rotation [Add R] [Sub R] [Mul R] [Neg R] [OfNat R 0] [OfNat R 1] (x y z : Turn R) : Matrix R :=
  { first :=
      ⟨y.cosine * z.cosine,
        x.sine * y.sine * z.cosine - x.cosine * z.sine,
        x.cosine * y.sine * z.cosine + x.sine * z.sine, 0⟩
    second :=
      ⟨y.cosine * z.sine,
        x.sine * y.sine * z.sine + x.cosine * z.cosine,
        x.cosine * y.sine * z.sine - x.sine * z.cosine, 0⟩
    third := ⟨-y.sine, x.sine * y.cosine, x.cosine * y.cosine, 0⟩
    fourth := ⟨0, 0, 0, 1⟩ }

/-- The rotation of three angles in radians, about the first, the second and the third axis. -/
def ofEulerAngles (x y z : Float) : Matrix Float :=
  rotation (.ofAngle x) (.ofAngle y) (.ofAngle z)

end Matrix

end ShadingExport
