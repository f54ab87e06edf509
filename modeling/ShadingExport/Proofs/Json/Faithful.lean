import ShadingExport.Snapshot.Document
import ShadingExport.Proofs.Json.Finite

/-!
# Writers and readers that undo each other

A writer and a reader are faithful to a property of values (`Json.Faithful`) if the reader gives
back every value of the property from what the writer makes of it, and yields only such values
wherever the numbers it reads are finite. Optional values, lists, tables and the fields of records
inherit this from their parts. Whatever such a reader accepts in a document it accepts again when
it is written back (`Json.Faithful.of_decodeText?`).
-/

namespace ShadingExport

namespace Json

/-- Where every element is read back, so is their list. -/
theorem mapM_map_eq_some {α β : Type} {encode : α → β} {decode : β → Option α} {values : List α}
    (h : ∀ value ∈ values, decode (encode value) = some value) :
    (values.map encode).mapM decode = some values := by
  induction values with
  | nil => rfl
  | cons head rest ih =>
    obtain ⟨hhead, hrest⟩ := List.forall_mem_cons.mp h
    rw [List.map_cons, List.mapM_cons, hhead, ih hrest]
    rfl

/-- What holds of every element that is read holds of those of a list. -/
theorem forall_of_mapM_eq_some {α β : Type} {decode : β → Option α} {Q : α → Prop}
    {items : List β} {values : List α}
    (h : ∀ item ∈ items, ∀ value, decode item = some value → Q value)
    (hread : items.mapM decode = some values) : ∀ value ∈ values, Q value := by
  induction items generalizing values with
  | nil =>
    cases hread
    exact fun _ hnil => absurd hnil List.not_mem_nil
  | cons item rest ih =>
    obtain ⟨hitem, hrest⟩ := List.forall_mem_cons.mp h
    rw [List.mapM_cons] at hread
    obtain ⟨first, hfirst, hread⟩ := Option.bind_eq_some_iff.mp hread
    obtain ⟨others, hothers, hread⟩ := Option.bind_eq_some_iff.mp hread
    cases hread
    exact List.forall_mem_cons.mpr ⟨hitem first hfirst, ih hrest hothers⟩

/-- Reading undoes writing for the values of a property, and yields no others. -/
structure Faithful {α : Type} (P : α → Prop) (encode : α → Json) (decode : Json → Option α) :
    Prop where
  /-- A value is read back from what is written for it. -/
  decode_encode : ∀ value, P value → decode (encode value) = some value
  /-- Finite numbers make values of the property. -/
  holds : ∀ {json value}, json.IsFinite → decode json = some value → P value

namespace Faithful

variable {α : Type} {P : α → Prop} {encode : α → Json} {decode : Json → Option α}

/-- What is read from finite numbers is read again when it is written back. -/
theorem of_decode (h : Faithful P encode decode) {json : Json} {value : α} (hjson : json.IsFinite)
    (hvalue : decode json = some value) : decode (encode value) = some value :=
  h.decode_encode value (h.holds hjson hvalue)

/-- **What is read from a document is read again when it is written back.** -/
theorem of_decodeText? (h : Faithful P encode decode) {text : String} {value : α}
    (hvalue : decodeText? decode text = some value) : decode (encode value) = some value := by
  obtain ⟨json, hjson, hdecode⟩ := Option.bind_eq_some_iff.mp hvalue
  exact h.of_decode (isFinite_of_parse? hjson) hdecode

/-- A writer and a reader without numbers need only undo each other. -/
theorem of_forall (h : ∀ value, decode (encode value) = some value) :
    Faithful (fun _ => True) encode decode :=
  ⟨fun value _ => h value, fun _ _ => trivial⟩

/-- Strings are read back. -/
theorem string : Faithful (fun _ => True) Json.string string? :=
  of_forall string?_string

/-- Optional values, written as `null` where they are absent, are read back if no present one is
written so. -/
theorem nullable (h : Faithful P encode decode) (hnull : ∀ value, encode value ≠ .null) :
    Faithful (fun option => ∀ value ∈ option, P value) (ofOption encode) (nullable? decode) where
  decode_encode option hoption := by
    cases option with
    | none => rfl
    | some value =>
      have hread := h.decode_encode value (hoption value rfl)
      have hpresent := hnull value
      show nullable? decode (encode value) = some (some value)
      generalize encode value = json at hread hpresent
      unfold nullable?
      split
      · exact absurd rfl hpresent
      · rw [hread, Option.map_some]
  holds hjson hoption value hvalue := by
    rw [Option.mem_def] at hvalue
    subst hvalue
    unfold nullable? at hoption
    split at hoption
    · cases hoption
    · obtain ⟨inner, hinner, hsame⟩ := Option.map_eq_some_iff.mp hoption
      rw [← Option.some.inj hsame]
      exact h.holds hjson hinner

/-- Lists are read back item by item. -/
theorem list (h : Faithful P encode decode) :
    Faithful (fun values => ∀ value ∈ values, P value) (ofList encode) (list? decode) where
  decode_encode _ hvalues :=
    mapM_map_eq_some fun value hvalue => h.decode_encode value (hvalues value hvalue)
  holds hjson hvalues := by
    cases hjson with
    | array hitems =>
      exact forall_of_mapM_eq_some (fun item hitem _ hread => h.holds (hitems item hitem) hread)
        hvalues
    | null | bool | int | float | string | object | unreadable => cases hvalues

/-- Tables are read back entry by entry. -/
theorem table (h : Faithful P encode decode) :
    Faithful (fun table => ∀ entry ∈ table.entries, P entry.2) (Table.toJson encode)
      (table? decode) where
  decode_encode table htable := by
    have hentries : (table.entries.map fun entry => (entry.1, encode entry.2)).mapM
        (fun member => (decode member.2).map (member.1, ·)) = some table.entries := by
      refine mapM_map_eq_some fun entry hentry => ?_
      rw [h.decode_encode entry.2 (htable entry hentry), Option.map_some]
    show Option.map Table.ofList _ = some table
    rw [hentries, Option.map_some, Table.ofList_entries]
  holds hjson htable := by
    cases hjson with
    | object hmembers =>
      obtain ⟨entries, hentries, rfl⟩ := Option.map_eq_some_iff.mp htable
      intro entry hentry
      refine forall_of_mapM_eq_some (Q := fun entry => P entry.2) ?_ hentries entry
        (Table.mem_entries_ofList hentry)
      intro member hmember read hread
      obtain ⟨value, hvalue, rfl⟩ := Option.map_eq_some_iff.mp hread
      exact h.holds (hmembers member hmember) hvalue
    | null | bool | int | float | string | array | unreadable => cases htable

end Faithful

/-! ## Fields of records -/

namespace Fields

variable {α : Type} {P : α → Prop} {encode : α → Json} {decode : Json → Option α}

/-- Every number in a field is finite. -/
def IsFinite (fields : Fields) : Prop :=
  ∀ member ∈ fields.present, member.2.IsFinite

/-- The fields of a finite value are finite, in either form of a record. -/
theorem isFinite_of_of? {names : List String} {least : Nat} {json : Json} {fields : Fields}
    (hjson : json.IsFinite) (h : of? names least json = some fields) : fields.IsFinite := by
  cases hjson with
  | object hmembers =>
    simp only [of?] at h
    split at h
    · cases h
      exact fun member hmember => hmembers member (List.mem_filter.mp hmember).1
    · cases h
  | array hitems =>
    simp only [of?] at h
    split at h
    · cases h
      exact fun member hmember => hitems member.2 (List.of_mem_zip hmember).2
    · cases h
  | null | bool | int | float | string | unreadable => cases h

/-- A field that is found is finite. -/
theorem IsFinite.isFinite_of_lookup {fields : Fields} (hfields : fields.IsFinite) {name : String}
    {json : Json} (h : fields.present.lookup name = some json) : json.IsFinite := by
  obtain ⟨before, after, hpresent, -⟩ := List.lookup_eq_some_iff.mp h
  exact hfields (name, json) (by simp [hpresent])

/-- A field that may be left out has the property if its default has. -/
theorem holds_of_withDefault (h : Faithful P encode decode) {fields : Fields}
    (hfields : fields.IsFinite) {name : String} {default value : α} (hdefault : P default)
    (hvalue : fields.withDefault name default decode = some value) : P value := by
  unfold withDefault at hvalue
  split at hvalue
  · rw [← Option.some.inj hvalue]
    exact hdefault
  · next hjson => exact h.holds (hfields.isFinite_of_lookup hjson) hvalue

end Fields

end Json

end ShadingExport
