import ShadingExport.Json.Canonical
import ShadingExport.Proofs.DistinctKeys

/-!
# Values that differ in the order of members

Two JSON values are the same value if they have one canonical form (`Json.Same`). Where no key
occurs twice, the members of two such objects are the same under every key (`Json.Same.lookup`),
and the items of two such arrays are the same at every place (`Json.Same.items`), so that a value
can be told apart from others member by member. A writer is unambiguous for the values of a property
if it writes the same value for equal ones only (`Json.Unambiguous`).
-/

namespace ShadingExport

namespace Json

/-- Two values have the same canonical form: they differ in the order of members at most. -/
def Same (first second : Json) : Prop :=
  ∃ form, first.canonical? = some form ∧ second.canonical? = some form

/-- No two values of the property are written the same. -/
def Unambiguous {α : Type} (P : α → Prop) (encode : α → Json) : Prop :=
  ∀ {first second}, P first → P second → Same (encode first) (encode second) → first = second

/-! ## Values with a canonical form -/

/-- The value has a canonical form. -/
def HasForm (json : Json) : Prop := ∃ form, json.canonical? = some form

/-- The value of every member has a canonical form. -/
def MembersHaveForm (members : List (String × Json)) : Prop :=
  ∀ member ∈ members, member.2.HasForm

@[simp] theorem membersHaveForm_nil : MembersHaveForm [] := List.forall_mem_nil _

@[simp] theorem membersHaveForm_cons {member : String × Json} {rest : List (String × Json)} :
    MembersHaveForm (member :: rest) ↔ member.2.HasForm ∧ MembersHaveForm rest :=
  List.forall_mem_cons

@[simp] theorem membersHaveForm_append {first second : List (String × Json)} :
    MembersHaveForm (first ++ second) ↔ MembersHaveForm first ∧ MembersHaveForm second :=
  List.forall_mem_append

@[simp] theorem hasForm_bool (value : Bool) : (Json.bool value).HasForm := ⟨_, rfl⟩

@[simp] theorem hasForm_string (value : String) : (Json.string value).HasForm := ⟨_, rfl⟩

/-- Whatever is written for a double has a canonical form. -/
@[simp] theorem hasForm_ofFloat (value : Float) : (ofFloat value).HasForm := by
  unfold ofFloat
  split
  · next hfinite => exact ⟨_, if_pos hfinite⟩
  · exact ⟨_, rfl⟩

/-- An array has a canonical form if its items have. -/
theorem hasForm_array {items : List Json} (h : ∀ item ∈ items, item.HasForm) :
    (Json.array items).HasForm := by
  have hitems : ∃ forms, canonicalItems? items = some forms := by
    induction items with
    | nil => exact ⟨[], rfl⟩
    | cons item rest ih =>
      obtain ⟨hitem, hrest⟩ := List.forall_mem_cons.mp h
      obtain ⟨form, hform⟩ := hitem
      obtain ⟨forms, hforms⟩ := ih hrest
      refine ⟨form :: forms, ?_⟩
      rw [canonicalItems?, hform, hforms]
      rfl
  obtain ⟨forms, hforms⟩ := hitems
  refine ⟨.array forms, ?_⟩
  rw [canonical?, hforms, Option.map_some]

/-- An object has a canonical form if its members have. -/
theorem hasForm_object {members : List (String × Json)} (h : MembersHaveForm members) :
    (Json.object members).HasForm := by
  have hmembers : ∃ forms, canonicalMembers? members = some forms := by
    induction members with
    | nil => exact ⟨[], rfl⟩
    | cons member rest ih =>
      obtain ⟨hmember, hrest⟩ := membersHaveForm_cons.mp h
      obtain ⟨form, hform⟩ := hmember
      obtain ⟨forms, hforms⟩ := ih hrest
      refine ⟨(member.1, form) :: forms, ?_⟩
      rw [canonicalMembers?, hform, hforms]
      rfl
  obtain ⟨forms, hforms⟩ := hmembers
  refine ⟨.object (Table.ofList forms).entries, ?_⟩
  rw [canonical?, hforms, Option.map_some]

/-! ## Arrays -/

/-- The items of a canonical array are the canonical items, in order. -/
theorem forall₂_canonicalItems? {items forms : List Json} (h : canonicalItems? items = some forms) :
    List.Forall₂ (fun item form => item.canonical? = some form) items forms := by
  induction items generalizing forms with
  | nil =>
    cases h
    exact .nil
  | cons item rest ih =>
    simp only [canonicalItems?, Option.bind_eq_bind, Option.bind_eq_some_iff,
      Option.pure_def] at h
    obtain ⟨form, hform, others, hothers, hsame⟩ := h
    cases hsame
    exact .cons hform (ih hothers)

/-- **The items of the same array are the same, place by place.** -/
theorem Same.items {first second : List Json} (h : Same (.array first) (.array second)) :
    List.Forall₂ Same first second := by
  obtain ⟨form, hfirst, hsecond⟩ := h
  simp only [canonical?, Option.map_eq_some_iff] at hfirst hsecond
  obtain ⟨forms, hfirst, rfl⟩ := hfirst
  obtain ⟨forms', hsecond, hforms⟩ := hsecond
  cases hforms
  replace hfirst := forall₂_canonicalItems? hfirst
  replace hsecond := forall₂_canonicalItems? hsecond
  induction hfirst generalizing second with
  | nil =>
    cases hsecond
    exact .nil
  | cons hitem _ ih =>
    cases hsecond with
    | cons hitem' hrest => exact .cons ⟨_, hitem, hitem'⟩ (ih hrest)

/-! ## Objects -/

/-- Bringing members into canonical form keeps their keys. -/
theorem map_fst_canonicalMembers? {members forms : List (String × Json)}
    (h : canonicalMembers? members = some forms) :
    forms.map Prod.fst = members.map Prod.fst := by
  induction members generalizing forms with
  | nil =>
    cases h
    rfl
  | cons member rest ih =>
    simp only [canonicalMembers?, Option.bind_eq_bind, Option.bind_eq_some_iff,
      Option.pure_def] at h
    obtain ⟨form, -, others, hothers, hsame⟩ := h
    cases hsame
    rw [List.map_cons, List.map_cons, ih hothers]

/-- What canonical members hold under a key is the canonical form of what the members hold. -/
theorem rel_lookup_canonicalMembers? {members forms : List (String × Json)}
    (h : canonicalMembers? members = some forms) (key : String) :
    Option.Rel (fun value form => value.canonical? = some form) (members.lookup key)
      (forms.lookup key) := by
  induction members generalizing forms with
  | nil =>
    cases h
    exact .none
  | cons member rest ih =>
    simp only [canonicalMembers?, Option.bind_eq_bind, Option.bind_eq_some_iff,
      Option.pure_def] at h
    obtain ⟨form, hform, others, hothers, hsame⟩ := h
    cases hsame
    rw [Table.lookup_cons_eq, Table.lookup_cons_eq]
    split
    · exact .some hform
    · exact ih hothers

/-- Where keys are all different, the table of a list holds what the list holds. -/
theorem get?_ofList_of_nodup {α : Type} {entries : List (String × α)}
    (hnodup : (entries.map Prod.fst).Nodup) (key : String) :
    (Table.ofList entries).get? key = entries.lookup key :=
  Option.ext fun _ =>
    (Table.get?_ofList_eq_some_iff hnodup).trans (lookup_eq_some_iff_of_nodup hnodup).symm

/-- **The members of the same object are the same, key by key.** -/
theorem Same.lookup {first second : List (String × Json)}
    (h : Same (.object first) (.object second)) (hfirst : (first.map Prod.fst).Nodup)
    (hsecond : (second.map Prod.fst).Nodup) (key : String) :
    Option.Rel Same (first.lookup key) (second.lookup key) := by
  obtain ⟨form, hform, hform'⟩ := h
  simp only [canonical?, Option.map_eq_some_iff] at hform hform'
  obtain ⟨forms, hforms, rfl⟩ := hform
  obtain ⟨forms', hforms', hentries⟩ := hform'
  -- Both lists of members make one table, and look-ups in a list are look-ups in its table.
  have hlookup : forms.lookup key = forms'.lookup key := by
    rw [← get?_ofList_of_nodup (by rwa [map_fst_canonicalMembers? hforms]),
      ← get?_ofList_of_nodup (by rwa [map_fst_canonicalMembers? hforms'])]
    exact congrArg (List.lookup key) (Json.object.inj hentries).symm
  have hrel := rel_lookup_canonicalMembers? hforms key
  have hrel' := rel_lookup_canonicalMembers? hforms' key
  rw [← hlookup] at hrel'
  generalize first.lookup key = value, second.lookup key = value', forms.lookup key = form
    at hrel hrel' ⊢
  cases hrel with
  | none =>
    cases hrel'
    exact .none
  | some hvalue =>
    cases hrel' with
    | some hvalue' => exact .some ⟨_, hvalue, hvalue'⟩

/-! ## Telling values apart -/

/-- A double that is written is no object. -/
theorem not_same_float_object {value : Float} {members : List (String × Json)} :
    ¬ Same (.float value) (.object members) := by
  rintro ⟨form, hvalue, hmembers⟩
  simp only [canonical?, Option.map_eq_some_iff] at hvalue hmembers
  obtain ⟨forms, -, rfl⟩ := hmembers
  split at hvalue <;> cases hvalue

/-- An array is no object. -/
theorem not_same_array_object {items : List Json} {members : List (String × Json)} :
    ¬ Same (.array items) (.object members) := by
  rintro ⟨form, hitems, hmembers⟩
  simp only [canonical?, Option.map_eq_some_iff] at hitems hmembers
  obtain ⟨forms, -, rfl⟩ := hmembers
  obtain ⟨forms', -, hforms⟩ := hitems
  cases hforms

theorem Same.symm {first second : Json} (h : Same first second) : Same second first :=
  let ⟨form, hfirst, hsecond⟩ := h
  ⟨form, hsecond, hfirst⟩

/-- Finite doubles are told apart. -/
theorem unambiguous_ofFloat : Unambiguous (fun value => value.isFinite) ofFloat := by
  intro first second hfirst hsecond h
  rw [ofFloat_of_isFinite hfirst, ofFloat_of_isFinite hsecond] at h
  obtain ⟨form, hform, hform'⟩ := h
  rw [canonical?, if_pos hfirst] at hform
  rw [canonical?, if_pos hsecond, ← hform] at hform'
  cases hform'
  rfl

/-- Strings are told apart. -/
theorem unambiguous_string : Unambiguous (fun _ => True) Json.string := by
  rintro first second - - ⟨form, hform, hform'⟩
  cases hform
  cases hform'
  rfl

namespace Unambiguous

variable {α : Type} {P : α → Prop} {encode : α → Json}

/-- A member that is always written tells values apart. -/
theorem of_rel_some (h : Unambiguous P encode) {first second : α} (hfirst : P first)
    (hsecond : P second) (hrel : Option.Rel Same (some (encode first)) (some (encode second))) :
    first = second :=
  h hfirst hsecond (Option.rel_some_some.mp hrel)

/-- A member that is written where a value is present tells optional values apart. -/
theorem of_rel_map (h : Unambiguous P encode) {first second : Option α}
    (hfirst : ∀ value ∈ first, P value) (hsecond : ∀ value ∈ second, P value)
    (hrel : Option.Rel Same (first.map encode) (second.map encode)) : first = second := by
  cases first with
  | none =>
    cases second with
    | none => rfl
    | some value => exact absurd hrel Option.not_rel_none_some
  | some value =>
    cases second with
    | none => exact absurd hrel Option.not_rel_some_none
    | some value' => exact congrArg some (h.of_rel_some (hfirst _ rfl) (hsecond _ rfl) hrel)

/-- Arrays of values that are told apart are told apart. -/
theorem of_array (h : Unambiguous P encode) {first second : List α}
    (hfirst : ∀ value ∈ first, P value) (hsecond : ∀ value ∈ second, P value)
    (hsame : Same (.array (first.map encode)) (.array (second.map encode))) : first = second := by
  have hitems := hsame.items
  clear hsame
  rw [List.forall₂_map_left_iff, List.forall₂_map_right_iff] at hitems
  induction hitems with
  | nil => rfl
  | cons hitem _ ih =>
    obtain ⟨hhead, hrest⟩ := List.forall_mem_cons.mp hfirst
    obtain ⟨hhead', hrest'⟩ := List.forall_mem_cons.mp hsecond
    rw [h hhead hhead' hitem, ih hrest hrest']

end Unambiguous

end Json

end ShadingExport
