import ShadingExport.Json.Basic

/-!
# Records in JSON

A record has named fields in a fixed order. It is written as an object, whose unknown members are
ignored and whose known ones occur at most once, or as an array of its fields in order, of which
trailing ones may be left out. `Fields.of?` brings both forms to the list of the fields that are
present; `required` and `withDefault` then read one field.
-/

namespace ShadingExport

namespace Json

/-- The fields of a record that are present, by name. -/
structure Fields where
  /-- The fields; no name occurs twice. -/
  present : List (String × Json)

namespace Fields

/-- The fields of a record whose names are `names`, in this order. The array form has to give at
least the first `least` of them. -/
def of? (names : List String) (least : Nat) : Json → Option Fields
  | .object members =>
    let known := members.filter fun member => names.contains member.1
    if (known.map Prod.fst).Nodup then some ⟨known⟩ else none
  | .array items =>
    if least ≤ items.length && items.length ≤ names.length then some ⟨names.zip items⟩ else none
  | _ => none

/-- A field that has to be present. -/
def required {α : Type} (fields : Fields) (name : String) (decode : Json → Option α) : Option α :=
  (fields.present.lookup name).bind decode

/-- A field that may be left out for a default. -/
def withDefault {α : Type} (fields : Fields) (name : String) (default : α)
    (decode : Json → Option α) : Option α :=
  match fields.present.lookup name with
  | none => some default
  | some json => decode json

end Fields

end Json

end ShadingExport
