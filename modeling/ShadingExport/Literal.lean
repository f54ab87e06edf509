import ShadingExport.Json.Fields
import ShadingExport.Matrix

/-!
# Literal socket values

A literal is the value that a host stores at an input: a number, three or four numbers, or a
matrix. In JSON its shape alone tells which (`Literal.ofJson?`), and a literal of finite numbers is
read back from what it writes (`Literal.ofJson?_toJson`). Numbers and tuples have a color; a matrix
has none.
-/

namespace ShadingExport

/-- A linear color. -/
structure Color where
  /-- The red component. -/
  red : Float
  /-- The green component. -/
  green : Float
  /-- The blue component. -/
  blue : Float
  deriving DecidableEq, Repr

namespace Color

/-- A grey of the given level. -/
def grey (level : Float) : Color := ⟨level, level, level⟩

/-- The components in order. -/
def components (color : Color) : List Float := [color.red, color.green, color.blue]

/-- Multiplies every component by a factor. -/
def scale (color : Color) (factor : Float) : Color :=
  ⟨color.red * factor, color.green * factor, color.blue * factor⟩

/-- The sum of the components; a light whose sum is zero emits nothing. -/
def sum (color : Color) : Float := color.red + color.green + color.blue

/-- Every component is a finite number. -/
def IsFinite (color : Color) : Prop := ∀ component ∈ color.components, component.isFinite

/-- A color is written as the array of its components. -/
def toJson (color : Color) : Json := .array (color.components.map Json.ofFloat)

end Color

/-- The value that a host stores at an input socket. -/
inductive Literal where
  /-- One number. -/
  | scalar (value : Float)
  /-- Three numbers: a vector, three angles or a color. -/
  | vec3 (x y z : Float)
  /-- Four numbers: a color with its opacity. -/
  | vec4 (x y z w : Float)
  /-- A four by four matrix. -/
  | matrix (value : Matrix Float)
  deriving DecidableEq, Repr

namespace Literal

/-- The number, if the literal is one. -/
def scalar? : Literal → Option Float
  | .scalar value => some value
  | _ => none

/-- The color of a literal: a number is a grey, and opacity is dropped. -/
def color? : Literal → Option Color
  | .scalar value => some (.grey value)
  | .vec3 x y z => some ⟨x, y, z⟩
  | .vec4 x y z _ => some ⟨x, y, z⟩
  | .matrix _ => none

/-- The numbers of a literal, in written order. -/
def numbers : Literal → List Float
  | .scalar value => [value]
  | .vec3 x y z => [x, y, z]
  | .vec4 x y z w => [x, y, z, w]
  | .matrix value => value.rowMajor

/-- Every number of the literal is finite. -/
def IsFinite (literal : Literal) : Prop := ∀ number ∈ literal.numbers, number.isFinite

/-- A literal is written as a number, an array of numbers or an array of four rows. -/
def toJson : Literal → Json
  | .scalar value => .ofFloat value
  | .vec3 x y z => .array ([x, y, z].map .ofFloat)
  | .vec4 x y z w => .array ([x, y, z, w].map .ofFloat)
  | .matrix value => .array (value.rows.map fun row => .array (row.entries.map .ofFloat))

/-- A row of a matrix: exactly four numbers. -/
def row? (json : Json) : Option (Row Float) :=
  match json.list? Json.float? with
  | some [x, y, z, w] => some ⟨x, y, z, w⟩
  | _ => none

/-- The literal of a list of numbers: exactly three or four. -/
def ofNumbers? : List Float → Option Literal
  | [x, y, z] => some (.vec3 x y z)
  | [x, y, z, w] => some (.vec4 x y z w)
  | _ => none

/-- The literal of a list of rows: exactly four. -/
def ofRows? : List (Row Float) → Option Literal
  | [first, second, third, fourth] => some (.matrix ⟨first, second, third, fourth⟩)
  | _ => none

/-- The literal that a JSON value writes, told by its shape. -/
def ofJson? (json : Json) : Option Literal :=
  match json.float? with
  | some value => some (.scalar value)
  | none =>
    match json.list? Json.float? with
    | some numbers => ofNumbers? numbers
    | none => (json.list? row?).bind ofRows?

@[simp] theorem color?_matrix (value : Matrix Float) : (Literal.matrix value).color? = none := rfl

/-- Only a matrix has no color. -/
theorem color?_eq_none_iff (literal : Literal) :
    literal.color? = none ↔ ∃ value, literal = .matrix value := by
  cases literal <;> simp [color?]

/-- A literal of finite numbers is read back from what it writes. -/
theorem ofJson?_toJson {literal : Literal} (finite : literal.IsFinite) :
    ofJson? literal.toJson = some literal := by
  cases literal with
  | scalar value =>
    simp [toJson, ofJson?, Json.ofFloat, finite value (by simp [numbers])]
  | vec3 x y z =>
    simp [toJson, ofJson?, ofNumbers?, Json.ofFloat, Json.list?, Json.float?,
      finite x (by simp [numbers]), finite y (by simp [numbers]), finite z (by simp [numbers])]
  | vec4 x y z w =>
    simp [toJson, ofJson?, ofNumbers?, Json.ofFloat, Json.list?, Json.float?,
      finite x (by simp [numbers]), finite y (by simp [numbers]), finite z (by simp [numbers]),
      finite w (by simp [numbers])]
  | matrix value =>
    have entry : ∀ number ∈ value.rowMajor, Json.ofFloat number = .float number :=
      fun number member => Json.ofFloat_of_isFinite (finite number member)
    simp only [Matrix.rowMajor, Matrix.rows, Row.entries, List.flatMap_cons, List.flatMap_nil,
      List.cons_append, List.nil_append, List.mem_cons, List.not_mem_nil, or_false,
      forall_eq_or_imp, forall_eq] at entry
    simp [toJson, ofJson?, ofRows?, row?, Json.list?, Json.float?, Matrix.rows, Row.entries, entry]

end Literal

end ShadingExport
