import ShadingExport.Json.Basic

/-!
# Canonical JSON values

A canonical value has a value in every part, and its objects hold one member per key, by increasing
key. `Json.canonical?` brings a value into this form; of members with one key the last counts. A
`Parameter` is a value in this form, the free data that a host attaches to a node, and
`Json.canonical?_canonical?` says that canonical values stay as they are.
-/

namespace ShadingExport

namespace Json

mutual

/-- The canonical form of a value, if every part of it has a value. -/
def canonical? : Json → Option Json
  | .null => some .null
  | .bool value => some (.bool value)
  | .int value => some (.int value)
  | .float value => if value.isFinite then some (.float value) else none
  | .string value => some (.string value)
  | .array items => (canonicalItems? items).map .array
  | .object members =>
    (canonicalMembers? members).map fun members => .object (Table.ofList members).entries
  | .unreadable => none

/-- The canonical forms of the items of an array. -/
def canonicalItems? : List Json → Option (List Json)
  | [] => some []
  | item :: rest => do return (← canonical? item) :: (← canonicalItems? rest)

/-- The canonical forms of the members of an object, in written order. -/
def canonicalMembers? : List (String × Json) → Option (List (String × Json))
  | [] => some []
  | (key, value) :: rest => do return (key, ← canonical? value) :: (← canonicalMembers? rest)

end

/-- Members whose values are canonical stay as they are. -/
theorem canonicalMembers?_eq_some {members : List (String × Json)}
    (canonical : ∀ member ∈ members, canonical? member.2 = some member.2) :
    canonicalMembers? members = some members := by
  induction members with
  | nil => rfl
  | cons head rest ih =>
    simp [canonicalMembers?, canonical head List.mem_cons_self,
      ih fun member inRest => canonical member (List.mem_cons_of_mem _ inRest)]

mutual

/-- A canonical form is its own canonical form. -/
theorem canonical?_canonical? (json : Json) {form : Json} (formed : canonical? json = some form) :
    canonical? form = some form := by
  cases json with
  | null | bool | int | string => cases formed; rfl
  | float value =>
    simp only [canonical?] at formed
    split at formed
    · rename_i finite
      cases formed
      simp [canonical?, finite]
    · cases formed
  | array items =>
    simp only [canonical?, Option.map_eq_some_iff] at formed
    obtain ⟨forms, itemsFormed, rfl⟩ := formed
    simp [canonical?, canonicalItems?_canonicalItems? items itemsFormed]
  | object members =>
    simp only [canonical?, Option.map_eq_some_iff] at formed
    obtain ⟨forms, membersFormed, rfl⟩ := formed
    have stable : canonicalMembers? (Table.ofList forms).entries =
        some (Table.ofList forms).entries :=
      canonicalMembers?_eq_some fun member inTable =>
        canonical?_of_mem_canonicalMembers? members membersFormed member
          (Table.mem_entries_ofList inTable)
    simp [canonical?, stable]
  | unreadable => cases formed

/-- Canonical items stay as they are. -/
theorem canonicalItems?_canonicalItems? (items : List Json) {forms : List Json}
    (formed : canonicalItems? items = some forms) : canonicalItems? forms = some forms := by
  cases items with
  | nil => cases formed; rfl
  | cons item rest =>
    simp only [canonicalItems?, bind, pure, Option.bind_eq_some_iff, Option.some.injEq] at formed
    obtain ⟨form, itemFormed, forms, restFormed, rfl⟩ := formed
    simp [canonicalItems?, canonical?_canonical? item itemFormed,
      canonicalItems?_canonicalItems? rest restFormed]

/-- The values of members in canonical form are canonical. -/
theorem canonical?_of_mem_canonicalMembers? (members : List (String × Json))
    {forms : List (String × Json)} (formed : canonicalMembers? members = some forms) :
    ∀ member ∈ forms, canonical? member.2 = some member.2 := by
  cases members with
  | nil => cases formed; exact fun _ inNil => absurd inNil List.not_mem_nil
  | cons head rest =>
    obtain ⟨key, value⟩ := head
    simp only [canonicalMembers?, bind, pure, Option.bind_eq_some_iff, Option.some.injEq] at formed
    obtain ⟨form, valueFormed, forms, restFormed, rfl⟩ := formed
    intro member inForms
    rcases List.mem_cons.1 inForms with rfl | inRest
    · exact canonical?_canonical? value valueFormed
    · exact canonical?_of_mem_canonicalMembers? rest restFormed member inRest

end

end Json

/-- A JSON value in canonical form. -/
structure Parameter where
  /-- The value. -/
  json : Json
  /-- Bringing the value into canonical form changes nothing. -/
  canonical : json.canonical? = some json

namespace Parameter

/-- The parameter that a JSON value writes. -/
def ofJson? (json : Json) : Option Parameter :=
  match formed : json.canonical? with
  | some form => some ⟨form, Json.canonical?_canonical? json formed⟩
  | none => none

/-- Parameters with the same value are equal. -/
@[ext] theorem ext {first second : Parameter} (same : first.json = second.json) :
    first = second := by
  cases first
  cases second
  cases same
  rfl

/-- A parameter is read back from its own value. -/
@[simp] theorem ofJson?_json (parameter : Parameter) : ofJson? parameter.json = some parameter := by
  have stable := parameter.canonical
  unfold ofJson?
  split
  · rename_i form formed
    rw [stable] at formed
    cases formed
    rfl
  · rename_i formed
    rw [stable] at formed
    cases formed

end Parameter

end ShadingExport
