/-!
# Tables of named entries

A `Table` holds its entries in ascending order of their names, each name once. Contexts, globals,
bound defs and registries are all tables, and the fields of a JSON object are the entries of one, so
everything that lists names lists them in one order: that of the characters' code points, which is
also the order of the UTF-8 bytes.

Two ways of writing are offered. `insert` lets the last write win, `insertNew` the first. The main
statements say what a lookup sees after each. They are first proved of plain `Entries`, for which
the order is a predicate, `Entries.Ascending`; a table carries the proof of it.
-/

namespace Stencil

/-- Named entries. -/
abbrev Entries (α : Type) := List (String × α)

namespace Entries

variable {α : Type}

/-- The first entry under a name. -/
def get? (name : String) : Entries α → Option α
  | [] => none
  | (key, value) :: rest => if name = key then some value else get? name rest

/-- The names in order. -/
def names (entries : Entries α) : List String :=
  entries.map Prod.fst

/-- Stores an entry at its place in the order, in place of an earlier entry of the same name. -/
def insert (name : String) (value : α) : Entries α → Entries α
  | [] => [(name, value)]
  | (key, old) :: rest =>
      if name < key then (name, value) :: (key, old) :: rest
      else if name = key then (name, value) :: rest
      else (key, old) :: insert name value rest

/-- Every name comes after the names before it. -/
def Ascending (entries : Entries α) : Prop :=
  entries.names.Pairwise (· < ·)

instance (entries : Entries α) : Decidable entries.Ascending :=
  inferInstanceAs (Decidable (entries.names.Pairwise (· < ·)))

@[simp]
theorem get?_nil (name : String) : get? name ([] : Entries α) = none := rfl

@[simp]
theorem get?_cons (name key : String) (value : α) (rest : Entries α) :
    get? name ((key, value) :: rest) = if name = key then some value else rest.get? name := rfl

@[simp]
theorem get?_insert_self (name : String) (value : α) (entries : Entries α) :
    (entries.insert name value).get? name = some value := by
  induction entries with
  | nil => simp [insert]
  | cons entry rest ih =>
      obtain ⟨key, old⟩ := entry
      simp only [insert]
      split
      · simp
      · split
        · simp
        · next different => simp [different, ih]

theorem get?_insert_of_ne {name other : String} (different : other ≠ name) (value : α)
    (entries : Entries α) : (entries.insert name value).get? other = entries.get? other := by
  induction entries with
  | nil => simp [insert, different]
  | cons entry rest ih =>
      obtain ⟨key, old⟩ := entry
      simp only [insert]
      split
      · simp [different]
      · split
        · next same => subst same; simp [different]
        · simp [ih]

theorem mem_names_insert {name other : String} {value : α} {entries : Entries α} :
    other ∈ (entries.insert name value).names ↔ other = name ∨ other ∈ entries.names := by
  induction entries with
  | nil => simp [insert, names]
  | cons entry rest ih =>
      obtain ⟨key, old⟩ := entry
      simp only [names] at ih
      simp only [insert]
      split
      · simp [names]
      · split
        · next same => subst same; simp [names]
        · simp only [names, List.map_cons, List.mem_cons, ih]
          exact or_left_comm

theorem Ascending.insert {entries : Entries α} (ascending : entries.Ascending) (name : String)
    (value : α) : (Entries.insert name value entries).Ascending := by
  induction entries with
  | nil => simp [Entries.insert, Ascending, names]
  | cons entry rest ih =>
      obtain ⟨key, old⟩ := entry
      simp only [Ascending, names, List.map_cons, List.pairwise_cons] at ascending
      obtain ⟨first, others⟩ := ascending
      simp only [Entries.insert]
      split
      · next before =>
          simp only [Ascending, names, List.map_cons, List.pairwise_cons, List.mem_cons]
          refine ⟨?_, first, others⟩
          rintro later (rfl | member)
          · exact before
          · exact String.lt_trans before (first later member)
      · next notBefore =>
          split
          · next same =>
              subst same
              simpa [Ascending, names] using And.intro first others
          · next different =>
              have after : key < name :=
                Decidable.byContradiction fun notAfter => different
                  (String.le_antisymm (String.not_lt.mp notAfter) (String.not_lt.mp notBefore))
              simp only [Ascending, names, List.map_cons, List.pairwise_cons]
              refine ⟨fun later member => ?_, ih others⟩
              rcases mem_names_insert.mp member with rfl | member
              · exact after
              · exact first later member

theorem insert_of_last {entries : Entries α} {name : String}
    (last : ∀ earlier ∈ entries.names, earlier < name) (value : α) :
    entries.insert name value = entries ++ [(name, value)] := by
  induction entries with
  | nil => rfl
  | cons entry rest ih =>
      obtain ⟨key, old⟩ := entry
      have before : key < name := last key List.mem_cons_self
      have others := ih fun earlier member => last earlier (List.mem_cons_of_mem _ member)
      have not_after : ¬ name < key := String.lt_asymm before
      have different : name ≠ key := fun same => String.lt_irrefl _ (same ▸ before)
      simp [insert, not_after, different, others]

end Entries

/-- Named entries in ascending order of their names, each name once. -/
@[ext]
structure Table (α : Type) where
  /-- The entries. -/
  entries : Entries α
  /-- Every name comes after the names before it. -/
  ascending : entries.Ascending

namespace Table

variable {α : Type}

instance : EmptyCollection (Table α) := ⟨⟨[], .nil⟩⟩

/-- The entry stored under a name. -/
def get? (name : String) (table : Table α) : Option α :=
  table.entries.get? name

/-- Whether a name has an entry. -/
def contains (table : Table α) (name : String) : Bool :=
  (table.get? name).isSome

/-- The names in the order of the table. -/
def names (table : Table α) : List String :=
  table.entries.names

/-- Stores an entry in place of an earlier entry of the same name. -/
def insert (name : String) (value : α) (table : Table α) : Table α :=
  ⟨table.entries.insert name value, table.ascending.insert name value⟩

/-- Stores an entry unless the name already has one. -/
def insertNew (table : Table α) (name : String) (value : α) : Table α :=
  if table.contains name then table else table.insert name value

/-- The table of entries in any order, in which the last entry of a name wins. -/
def ofList (entries : Entries α) : Table α :=
  entries.foldl (fun table entry => table.insert entry.1 entry.2) ∅

@[simp]
theorem entries_empty : (∅ : Table α).entries = [] := rfl

@[simp]
theorem get?_empty (name : String) : (∅ : Table α).get? name = none := rfl

@[simp]
theorem get?_insert_self (name : String) (value : α) (table : Table α) :
    (table.insert name value).get? name = some value :=
  table.entries.get?_insert_self name value

theorem get?_insert_of_ne {name other : String} (different : other ≠ name) (value : α)
    (table : Table α) : (table.insert name value).get? other = table.get? other :=
  table.entries.get?_insert_of_ne different value

/-- After `insertNew` a name keeps the entry it had, and the new name has the new entry. -/
theorem get?_insertNew (table : Table α) (name other : String) (value : α) :
    (table.insertNew name value).get? other =
      if other = name then some ((table.get? name).getD value) else table.get? other := by
  unfold insertNew contains
  by_cases same : other = name
  · subst same
    cases found : table.get? other <;> simp [found]
  · cases found : table.get? name <;> simp [same, get?_insert_of_ne same]

/-- Entries in ascending order are those of the table that is made of them. -/
theorem entries_ofList {entries : Entries α} (ascending : entries.Ascending) :
    (ofList entries).entries = entries := by
  suffices collected : ∀ table : Table α, Entries.Ascending (table.entries ++ entries) →
      (entries.foldl (fun table entry => table.insert entry.1 entry.2) table).entries =
        table.entries ++ entries from
    collected ∅ ascending
  clear ascending
  induction entries with
  | nil => intro table _; simp
  | cons entry rest ih =>
      intro table ascending
      have last : ∀ earlier ∈ table.entries.names, earlier < entry.1 := by
        intro earlier member
        simp only [Entries.Ascending, Entries.names, List.map_append, List.map_cons,
          List.pairwise_append] at ascending
        exact ascending.2.2 earlier member entry.1 List.mem_cons_self
      have inserted : (table.insert entry.1 entry.2).entries = table.entries ++ [entry] :=
        Entries.insert_of_last last entry.2
      rw [List.foldl_cons, ih, inserted, List.append_assoc]
      · rfl
      · simpa [inserted] using ascending

@[simp]
theorem ofList_entries (table : Table α) : ofList table.entries = table :=
  Table.ext (entries_ofList table.ascending)

end Table

end Stencil
