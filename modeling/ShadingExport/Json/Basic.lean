import ShadingExport.Table
import ShadingExport.Decimal.Numeral

/-!
# JSON values

`Json` is the data of a document: numbers stay what they were written as (an integer of 64-bit
range, or a double), and an object keeps its members in written order. One more value stands for
the well-formed pieces that nothing can be made of: a number whose magnitude overflows, a string
with an unpaired surrogate, an object with such a key, a container nested too deeply. A reader that
skips such a piece is not disturbed by it; one that needs its value fails.
-/

namespace ShadingExport

/-- A JSON value as far as it can be read. -/
inductive Json where
  /-- The literal `null`. -/
  | null
  /-- One of the literals `true` and `false`. -/
  | bool (value : Bool)
  /-- A number written without fraction and exponent that fits into 64 bits. -/
  | int (value : Int)
  /-- Any other number, as a double. -/
  | float (value : Float)
  /-- A string. -/
  | string (value : String)
  /-- An array. -/
  | array (items : List Json)
  /-- An object, with its members in written order; keys may repeat. -/
  | object (members : List (String × Json))
  /-- A well-formed piece of text without a value. -/
  | unreadable
  deriving Inhabited

namespace Json

/-- The value written for a double: there is none for infinities and NaN. -/
def ofFloat (value : Float) : Json :=
  if value.isFinite then .float value else .null

/-- The value written for an optional one: `null` where it is absent. -/
def ofOption {α : Type} (encode : α → Json) : Option α → Json
  | none => .null
  | some value => encode value

/-- The truth value that is written here. -/
def bool? : Json → Option Bool
  | .bool value => some value
  | _ => none

/-- The string that is written here. -/
def string? : Json → Option String
  | .string value => some value
  | _ => none

/-- The double that is written here; an integer is read as the nearest double. -/
def float? : Json → Option Float
  | .int value => some (Decimal.ofInt value)
  | .float value => some value
  | _ => none

/-- The 32-bit count that is written here: an integer numeral from zero to `2^32 - 1`. -/
def count? : Json → Option UInt32
  | .int value => if 0 ≤ value && value < UInt32.size then some (.ofNat value.toNat) else none
  | _ => none

/-- An optional value: `null` stands for its absence. -/
def nullable? {α : Type} (decode : Json → Option α) : Json → Option (Option α)
  | .null => some none
  | json => (decode json).map some

/-- A list of values, each read by `decode`. -/
def list? {α : Type} (decode : Json → Option α) : Json → Option (List α)
  | .array items => items.mapM decode
  | _ => none

/-- A table of values, each read by `decode`; the last member of a key counts. -/
def table? {α : Type} (decode : Json → Option α) : Json → Option (Table α)
  | .object members =>
    (members.mapM fun member => (decode member.2).map (member.1, ·)).map Table.ofList
  | _ => none

@[simp] theorem bool?_bool (value : Bool) : (Json.bool value).bool? = some value := rfl

@[simp] theorem string?_string (value : String) : (Json.string value).string? = some value := rfl

@[simp] theorem float?_float (value : Float) : (Json.float value).float? = some value := rfl

/-- A finite double is written as itself. -/
theorem ofFloat_of_isFinite {value : Float} (finite : value.isFinite) :
    ofFloat value = .float value := by
  simp [ofFloat, finite]

end Json

end ShadingExport
