import ShadingExport.Table
import Mathlib.Data.List.Nodup

/-!
# Look-ups by distinct keys

Where the keys of a list are all different, a look-up finds whatever the list holds under a key: an
element that carries its key (`find?_eq_some_of_nodup_map`), or the value of an entry, in the list
itself or in the table made of it (`Table.get?_ofList_eq_some_iff`). The order of the list then does
not matter. The entries of a table are such a list, and so its values can be changed one by one
(`Table.get?_ofList_map`).
-/

namespace ShadingExport

/-- Where keys are all different, a look-up by the key of an element finds the element. -/
theorem find?_eq_some_of_nodup_map {α κ : Type} [BEq κ] [LawfulBEq κ] {key : α → κ}
    {elements : List α} {element : α} (hnodup : (elements.map key).Nodup)
    (hmem : element ∈ elements) : elements.find? (key · == key element) = some element := by
  have hsome : (elements.find? (key · == key element)).isSome := by
    rw [List.find?_isSome]
    exact ⟨element, hmem, beq_self_eq_true _⟩
  obtain ⟨found, hfound⟩ := Option.isSome_iff_exists.mp hsome
  have hkey : key found = key element := by simpa using List.find?_some hfound
  rw [hfound, List.inj_on_of_nodup_map hnodup (List.mem_of_find?_eq_some hfound) hmem hkey]

/-- Where keys are all different, looking a key up finds the value of its entry. -/
theorem lookup_eq_some_iff_of_nodup {α : Type} {entries : List (String × α)}
    (hnodup : (entries.map Prod.fst).Nodup) {key : String} {value : α} :
    entries.lookup key = some value ↔ (key, value) ∈ entries := by
  rw [List.lookup_eq_some_iff]
  constructor
  · rintro ⟨before, after, rfl, -⟩
    exact List.mem_append_right before List.mem_cons_self
  · intro hmem
    obtain ⟨before, after, rfl⟩ := List.append_of_mem hmem
    refine ⟨before, after, rfl, fun entry hentry => ?_⟩
    -- An earlier entry of the same key would repeat it.
    rw [List.map_append, List.map_cons] at hnodup
    have hapart := (List.nodup_middle.mp hnodup).notMem
    simp only [List.mem_append, List.mem_map, not_or, not_exists, not_and] at hapart
    simpa using fun h => hapart.1 entry hentry h.symm

/-- Where keys are all different, every entry of a list is found in the table made of it. -/
theorem Table.get?_ofList_eq_some_iff {α : Type} {entries : List (String × α)}
    (hnodup : (entries.map Prod.fst).Nodup) {key : String} {value : α} :
    (ofList entries).get? key = some value ↔ (key, value) ∈ entries := by
  rw [get?_ofList, lookup_eq_some_iff_of_nodup, List.mem_reverse]
  rwa [List.map_reverse, List.nodup_reverse]

/-- The keys of a table are all different. -/
theorem Table.nodup_keys {α : Type} (table : Table α) : (table.entries.map Prod.fst).Nodup := by
  refine List.pairwise_map.mpr (table.increasing.imp ?_)
  intro first second hless heq
  rw [heq] at hless
  exact String.lt_irrefl _ hless

/-- The table made of the changed entries of a table holds the changed values. -/
theorem Table.get?_ofList_map {α β : Type} (change : String → α → β) (table : Table α)
    (key : String) :
    (ofList (table.entries.map fun entry => (entry.1, change entry.1 entry.2))).get? key =
      (table.get? key).map (change key) := by
  have hnodup : ((table.entries.map fun entry => (entry.1, change entry.1 entry.2)).map
      Prod.fst).Nodup := by
    rw [List.map_map]
    exact table.nodup_keys
  ext value
  rw [get?_ofList_eq_some_iff hnodup, List.mem_map, Option.map_eq_some_iff]
  constructor
  · rintro ⟨entry, hentry, heq⟩
    obtain ⟨rfl, rfl⟩ := Prod.mk.inj heq
    exact ⟨entry.2, (lookup_eq_some_iff_of_nodup table.nodup_keys).mpr hentry, rfl⟩
  · rintro ⟨stored, hstored, rfl⟩
    exact ⟨(key, stored), (lookup_eq_some_iff_of_nodup table.nodup_keys).mp hstored, rfl⟩

end ShadingExport
