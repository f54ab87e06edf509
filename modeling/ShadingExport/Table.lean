/-!
# Tables

A `Table α` maps strings to values of `α`. Its entries are kept in strictly increasing order of
their keys, so two tables that answer every look-up alike are equal (`Table.ext_get?`), and the
order in which entries were inserted leaves no trace. Look-ups read off what each operation does:
`Table.get?_insert`, `Table.get?_insertIfNew`, `Table.get?_fill` and `Table.get?_ofList`.
-/

namespace ShadingExport

/-- Entries in strictly increasing order of their keys. -/
def KeysIncrease {α : Type} (entries : List (String × α)) : Prop :=
  entries.Pairwise fun first second => first.1 < second.1

instance {α : Type} (entries : List (String × α)) : Decidable (KeysIncrease entries) :=
  inferInstanceAs (Decidable (entries.Pairwise _))

/-- A finite map from strings to values. -/
structure Table (α : Type) where
  /-- The entries, by increasing key. -/
  entries : List (String × α)
  /-- No key occurs twice, and the order is that of the keys. -/
  increasing : KeysIncrease entries
  deriving DecidableEq

namespace Table

variable {α : Type}

/-- The table without entries. -/
def empty : Table α := ⟨[], List.Pairwise.nil⟩

instance : EmptyCollection (Table α) := ⟨empty⟩

instance : Inhabited (Table α) := ⟨empty⟩

/-- The value stored under a key. -/
def get? (table : Table α) (key : String) : Option α :=
  table.entries.lookup key

/-- The keys, in increasing order. -/
def keys (table : Table α) : List String :=
  table.entries.map Prod.fst

/-- Puts an entry at its place in an ordered list of entries and drops the old one of its key. -/
def insertEntry (key : String) (value : α) : List (String × α) → List (String × α)
  | [] => [(key, value)]
  | (first, stored) :: rest =>
    if key < first then (key, value) :: (first, stored) :: rest
    else if key = first then (key, value) :: rest
    else (first, stored) :: insertEntry key value rest

/-- An inserted entry is the new one or an old one. -/
theorem mem_insertEntry {key : String} {value : α} {entries : List (String × α)}
    {entry : String × α} (member : entry ∈ insertEntry key value entries) :
    entry = (key, value) ∨ entry ∈ entries := by
  induction entries with
  | nil => simpa [insertEntry] using member
  | cons head rest ih =>
    simp only [insertEntry] at member
    split at member
    · simpa using member
    · split at member
      · rcases List.mem_cons.1 member with rfl | inRest
        · exact .inl rfl
        · exact .inr (List.mem_cons_of_mem _ inRest)
      · rcases List.mem_cons.1 member with rfl | inRest
        · exact .inr List.mem_cons_self
        · exact (ih inRest).imp_right (List.mem_cons_of_mem _)

/-- Insertion keeps the order of the keys. -/
theorem keysIncrease_insertEntry (key : String) (value : α) {entries : List (String × α)}
    (increasing : KeysIncrease entries) : KeysIncrease (insertEntry key value entries) := by
  induction entries with
  | nil => exact List.pairwise_singleton _ _
  | cons head rest ih =>
    obtain ⟨first, stored⟩ := head
    have later : ∀ entry ∈ rest, first < entry.1 := (List.pairwise_cons.1 increasing).1
    simp only [insertEntry]
    split
    · rename_i before
      refine List.Pairwise.cons (fun entry member => ?_) increasing
      rcases List.mem_cons.1 member with rfl | inRest
      · exact before
      · exact String.lt_trans before (later entry inRest)
    · rename_i notBefore
      split
      · rename_i same
        subst same
        exact List.Pairwise.cons later increasing.of_cons
      · rename_i different
        refine List.Pairwise.cons (fun entry member => ?_) (ih increasing.of_cons)
        rcases mem_insertEntry member with rfl | inRest
        · exact Std.lt_of_le_of_ne (Std.not_lt.1 notBefore) (Ne.symm different)
        · exact later entry inRest

/-- Looking a key up in a list of entries tries the first entry, then the others. -/
theorem lookup_cons_eq (head : String × α) (rest : List (String × α)) (query : String) :
    (head :: rest).lookup query = if query = head.1 then some head.2 else rest.lookup query := by
  obtain ⟨first, stored⟩ := head
  by_cases same : query = first
  · subst same
    rw [List.lookup_cons_self, if_pos rfl]
  · have differ : (query == first) = false := beq_eq_false_iff_ne.2 same
    rw [List.lookup_cons, differ, if_neg same]

/-- Looking a key up after an insertion. -/
theorem lookup_insertEntry (key query : String) (value : α) (entries : List (String × α)) :
    (insertEntry key value entries).lookup query =
      if query = key then some value else entries.lookup query := by
  induction entries with
  | nil => simp [insertEntry, lookup_cons_eq]
  | cons head rest ih =>
    obtain ⟨first, stored⟩ := head
    simp only [insertEntry]
    split
    · simp only [lookup_cons_eq]
    · split
      · rename_i keySame
        subst keySame
        simp only [lookup_cons_eq]
        by_cases same : query = key <;> simp [same]
      · rename_i keyDifferent
        simp only [lookup_cons_eq, ih]
        by_cases same : query = first
        · subst same
          simp [Ne.symm keyDifferent]
        · simp [same]

/-- Stores a value under a key, in place of the old one if there is one. -/
def insert (table : Table α) (key : String) (value : α) : Table α :=
  ⟨insertEntry key value table.entries, keysIncrease_insertEntry key value table.increasing⟩

/-- Stores a value under a key that has none; an old value stays. -/
def insertIfNew (table : Table α) (key : String) (value : α) : Table α :=
  if (table.get? key).isSome then table else table.insert key value

/-- The table of a list of entries; the last entry of a key counts. -/
def ofList (entries : List (String × α)) : Table α :=
  entries.foldl (fun table entry => table.insert entry.1 entry.2) empty

/-- Adds the entries of `defaults` whose keys are still free. -/
def fill (table defaults : Table α) : Table α :=
  defaults.entries.foldl (fun filled entry => filled.insertIfNew entry.1 entry.2) table

@[simp] theorem get?_empty (query : String) : (empty : Table α).get? query = none := rfl

/-- An insertion changes the look-up of its own key only. -/
@[simp] theorem get?_insert (table : Table α) (key query : String) (value : α) :
    (table.insert key value).get? query = if query = key then some value else table.get? query :=
  lookup_insertEntry key query value table.entries

/-- A value that is already there wins over a new one. -/
@[simp] theorem get?_insertIfNew (table : Table α) (key query : String) (value : α) :
    (table.insertIfNew key value).get? query =
      if query = key then (table.get? query).or (some value) else table.get? query := by
  unfold insertIfNew
  by_cases same : query = key
  · subst same
    cases found : table.get? query <;> simp [found]
  · split <;> simp [same]

/-- A key that is below all keys of a list is not found in it. -/
theorem lookup_eq_none_of_lt {entries : List (String × α)} {query : String}
    (below : ∀ entry ∈ entries, query < entry.1) : entries.lookup query = none := by
  induction entries with
  | nil => rfl
  | cons head rest ih =>
    have different : query ≠ head.1 :=
      fun same => String.lt_irrefl _ (same ▸ below head List.mem_cons_self)
    rw [lookup_cons_eq, if_neg different]
    exact ih fun entry member => below entry (List.mem_cons_of_mem _ member)

/-- The first keys of two ordered lists with the same look-ups agree: the smaller one would not be
found in the other list. -/
theorem not_head_lt_of_lookup {head head' : String × α} {rest rest' : List (String × α)}
    (increasing' : KeysIncrease (head' :: rest'))
    (alike : (head :: rest).lookup head.1 = (head' :: rest').lookup head.1) :
    ¬ head.1 < head'.1 := by
  intro below
  have absent : (head' :: rest').lookup head.1 = none := by
    refine lookup_eq_none_of_lt fun entry member => ?_
    rcases List.mem_cons.1 member with rfl | inRest
    · exact below
    · exact String.lt_trans below ((List.pairwise_cons.1 increasing').1 entry inRest)
  rw [absent, lookup_cons_eq, if_pos rfl] at alike
  cases alike

/-- Two ordered lists of entries with the same look-ups are equal. -/
theorem entries_eq_of_lookup {first second : List (String × α)}
    (firstIncreases : KeysIncrease first) (secondIncreases : KeysIncrease second)
    (alike : ∀ query, first.lookup query = second.lookup query) : first = second := by
  induction first generalizing second with
  | nil =>
    cases second with
    | nil => rfl
    | cons head rest =>
      have atHead := alike head.1
      rw [lookup_cons_eq, if_pos rfl] at atHead
      cases atHead
  | cons head rest ih =>
    cases second with
    | nil =>
      have atHead := alike head.1
      rw [lookup_cons_eq, if_pos rfl] at atHead
      cases atHead
    | cons head' rest' =>
      have sameKey : head.1 = head'.1 := by
        have notBelow := not_head_lt_of_lookup secondIncreases (alike head.1)
        have notAbove := not_head_lt_of_lookup firstIncreases (alike head'.1).symm
        exact Std.le_antisymm (Std.not_lt.1 notAbove) (Std.not_lt.1 notBelow)
      have sameValue : head.2 = head'.2 := by
        have atHead := alike head.1
        rwa [lookup_cons_eq, lookup_cons_eq, if_pos rfl, if_pos sameKey,
          Option.some.injEq] at atHead
      have sameRest : rest = rest' := by
        refine ih firstIncreases.of_cons secondIncreases.of_cons fun query => ?_
        by_cases same : query = head.1
        · subst same
          rw [lookup_eq_none_of_lt (List.pairwise_cons.1 firstIncreases).1,
            lookup_eq_none_of_lt (sameKey ▸ (List.pairwise_cons.1 secondIncreases).1)]
        · have atQuery := alike query
          rwa [lookup_cons_eq, lookup_cons_eq, if_neg same, if_neg (sameKey ▸ same)] at atQuery
      rw [sameRest, Prod.ext sameKey sameValue]

/-- Tables with the same look-ups are equal. -/
@[ext] theorem ext_get? {first second : Table α}
    (alike : ∀ query, first.get? query = second.get? query) : first = second := by
  obtain ⟨entries, increasing⟩ := first
  obtain ⟨entries', increasing'⟩ := second
  have same : entries = entries' := entries_eq_of_lookup increasing increasing' alike
  subst same
  rfl

/-- Filling keeps every value that is there and takes the others from the defaults. -/
@[simp] theorem get?_fill (table defaults : Table α) (query : String) :
    (table.fill defaults).get? query = (table.get? query).or (defaults.get? query) := by
  have general : ∀ (entries : List (String × α)) (start : Table α),
      (entries.foldl (fun filled entry => filled.insertIfNew entry.1 entry.2) start).get? query =
        (start.get? query).or (entries.lookup query) := by
    intro entries
    induction entries with
    | nil => simp
    | cons head rest ih =>
      intro start
      rw [List.foldl_cons, ih, get?_insertIfNew, lookup_cons_eq]
      by_cases same : query = head.1
      · simp only [if_pos same, Option.or_assoc, Option.some_or]
      · simp only [if_neg same]
  exact general defaults.entries table

/-- A key above all others is inserted at the end. -/
theorem insertEntry_of_above {key : String} {value : α} {entries : List (String × α)}
    (above : ∀ entry ∈ entries, entry.1 < key) :
    insertEntry key value entries = entries ++ [(key, value)] := by
  induction entries with
  | nil => rfl
  | cons head rest ih =>
    have headBelow := above head List.mem_cons_self
    rw [insertEntry, if_neg (String.lt_asymm headBelow),
      if_neg fun same => String.lt_irrefl _ (same ▸ headBelow),
      ih fun entry member => above entry (List.mem_cons_of_mem _ member), List.cons_append]

/-- Inserting entries in order above those of a table appends them. -/
theorem entries_foldl_insert {entries : List (String × α)} {table : Table α}
    (increasing : KeysIncrease (table.entries ++ entries)) :
    (entries.foldl (fun table entry => table.insert entry.1 entry.2) table).entries =
      table.entries ++ entries := by
  induction entries generalizing table with
  | nil => simp
  | cons head rest ih =>
    have step : (table.insert head.1 head.2).entries = table.entries ++ [head] :=
      insertEntry_of_above fun entry member =>
        (List.pairwise_append.1 increasing).2.2 entry member head List.mem_cons_self
    rw [List.foldl_cons, ih (by rwa [step, List.append_assoc]), step, List.append_assoc]
    rfl

/-- A table is the table of its own entries. -/
@[simp] theorem ofList_entries (table : Table α) : ofList table.entries = table := by
  have same : (ofList table.entries).entries = table.entries :=
    @entries_foldl_insert α table.entries empty table.increasing
  cases built : ofList table.entries with
  | mk entries increasing =>
    rw [built] at same
    cases table
    cases same
    rfl

/-- Of the entries that make a table, the last one of a key counts. -/
theorem get?_ofList (entries : List (String × α)) (query : String) :
    (ofList entries).get? query = entries.reverse.lookup query := by
  rw [ofList, ← List.foldr_reverse]
  induction entries.reverse with
  | nil => rfl
  | cons head rest ih => rw [List.foldr_cons, get?_insert, ih, lookup_cons_eq]

/-- The entries of a table made of a list come from the list. -/
theorem mem_entries_ofList {entries : List (String × α)} {entry : String × α}
    (member : entry ∈ (ofList entries).entries) : entry ∈ entries := by
  have general : ∀ (added : List (String × α)) (start : Table α),
      entry ∈ (added.foldl (fun table entry => table.insert entry.1 entry.2) start).entries →
        entry ∈ start.entries ∨ entry ∈ added := by
    intro added
    induction added with
    | nil => exact fun _ found => .inl found
    | cons head rest ih =>
      intro start found
      rcases ih _ found with inTable | inRest
      · rcases mem_insertEntry inTable with rfl | old
        · exact .inr List.mem_cons_self
        · exact .inl old
      · exact .inr (List.mem_cons_of_mem _ inRest)
  exact (general entries empty member).resolve_left (List.not_mem_nil)

end Table

end ShadingExport
